import Mathlib.Tactic.Common

/-!
# Runs of a step function

A run is a list of events, folded over a state. Two shapes of statement about every run
are used: a property kept by every step holds at the end (`run_induct`), and a property
that breaks exactly at the events which are not `good` holds throughout a run exactly if
all its events are good (`throughout_iff`).
-/

namespace Runs

variable {σ ε : Type*} (step : σ → ε → σ)

/-- The state after a list of events. -/
def run (s : σ) (es : List ε) : σ := es.foldl step s

/-- `P` holds in every state of the run, the first and the last included. -/
def Throughout (P : σ → Prop) (s : σ) (es : List ε) : Prop :=
  ∀ pre post, es = pre ++ post → P (run step s pre)

/-- Every event of the run is good in the state in which it happens. -/
def EachStep (good : σ → ε → Prop) (s : σ) (es : List ε) : Prop :=
  ∀ pre e post, es = pre ++ e :: post → good (run step s pre) e

variable {step}

theorem run_append (s : σ) (as bs : List ε) :
    run step s (as ++ bs) = run step (run step s as) bs :=
  List.foldl_append

/-- The invariant rule. -/
theorem run_induct {P : σ → Prop} (hstep : ∀ s e, P s → P (step s e)) {s : σ} (h : P s)
    (es : List ε) : P (run step s es) := by
  induction es generalizing s with
  | nil => exact h
  | cons e es ih => exact ih (hstep s e h)

/-- An event that changes nothing may be repeated. -/
theorem run_replicate_of_fixed {s : σ} {e : ε} (h : step s e = s) (n : ℕ) :
    run step s (List.replicate n e) = s := by
  induction n with
  | zero => rfl
  | succ n ih =>
      show run step (step s e) (List.replicate n e) = s
      rw [h, ih]

/-- If an event that is repeated makes `μ` smaller as long as `P` does not hold, it brings `P`
about. -/
theorem exists_run_replicate {J P : σ → Prop} {e : ε} (μ : σ → ℕ)
    (hstep : ∀ s, J s → ¬ P s → J (step s e) ∧ μ (step s e) < μ s) {s : σ} (h : J s) :
    ∃ n, P (run step s (List.replicate n e)) := by
  induction hμ : μ s using Nat.strongRecOn generalizing s with
  | ind m ih =>
      by_cases hP : P s
      · exact ⟨0, hP⟩
      · obtain ⟨hJ, hless⟩ := hstep s h hP
        obtain ⟨n, hn⟩ := ih _ (hμ ▸ hless) hJ rfl
        exact ⟨n + 1, hn⟩

theorem throughout_nil {P : σ → Prop} {s : σ} : Throughout step P s [] ↔ P s := by
  constructor
  · intro h
    exact h [] [] rfl
  · intro h pre post heq
    obtain ⟨rfl, rfl⟩ := List.append_eq_nil_iff.mp heq.symm
    exact h

theorem throughout_cons {P : σ → Prop} {s : σ} {e : ε} {es : List ε} :
    Throughout step P s (e :: es) ↔ P s ∧ Throughout step P (step s e) es := by
  constructor
  · intro h
    refine ⟨h [] (e :: es) rfl, fun pre post heq => ?_⟩
    exact h (e :: pre) post (by rw [heq]; rfl)
  · rintro ⟨h0, h⟩ pre post heq
    cases pre with
    | nil => exact h0
    | cons a pre =>
        obtain ⟨rfl, heq'⟩ := List.cons.inj heq
        exact h pre post heq'

theorem eachStep_nil {good : σ → ε → Prop} {s : σ} : EachStep step good s [] := by
  intro pre e post heq
  cases pre <;> cases heq

theorem eachStep_cons {good : σ → ε → Prop} {s : σ} {e : ε} {es : List ε} :
    EachStep step good s (e :: es) ↔ good s e ∧ EachStep step good (step s e) es := by
  constructor
  · intro h
    refine ⟨h [] e es rfl, fun pre a post heq => ?_⟩
    exact h (e :: pre) a post (by rw [heq]; rfl)
  · rintro ⟨h0, h⟩ pre a post heq
    cases pre with
    | nil =>
        obtain ⟨rfl, rfl⟩ := List.cons.inj heq
        exact h0
    | cons b pre =>
        obtain ⟨rfl, heq'⟩ := List.cons.inj heq
        exact h pre a post heq'

/-- Two conditions on the events that agree wherever the invariant `J` holds, which the events
that meet them keep. -/
theorem eachStep_iff {J : σ → Prop} {good good' : σ → ε → Prop}
    (hstep : ∀ s e, J s → good s e → J (step s e))
    (hiff : ∀ s e, J s → (good s e ↔ good' s e)) {s : σ} (h : J s) (es : List ε) :
    EachStep step good s es ↔ EachStep step good' s es := by
  induction es generalizing s with
  | nil => exact iff_of_true eachStep_nil eachStep_nil
  | cons e es ih =>
      rw [eachStep_cons, eachStep_cons, ← hiff s e h]
      exact and_congr_right fun hg => ih (hstep s e h hg)

theorem eachStep_congr {J : σ → Prop} {good good' : σ → ε → Prop}
    (hstep : ∀ s e, J s → J (step s e)) (hiff : ∀ s e, J s → (good s e ↔ good' s e)) {s : σ}
    (h : J s) (es : List ε) : EachStep step good s es ↔ EachStep step good' s es :=
  eachStep_iff (fun s e hJ _ => hstep s e hJ) hiff h es

theorem eachStep_and {good good' : σ → ε → Prop} {s : σ} {es : List ε} :
    EachStep step (fun s e => good s e ∧ good' s e) s es ↔
      EachStep step good s es ∧ EachStep step good' s es := by
  constructor
  · intro h
    exact ⟨fun pre e post heq => (h pre e post heq).1, fun pre e post heq => (h pre e post heq).2⟩
  · rintro ⟨h, h'⟩ pre e post heq
    exact ⟨h pre e post heq, h' pre e post heq⟩

/-- A property holds throughout a run if it holds at its start and after every event. -/
theorem throughout_iff_eachStep {P : σ → Prop} {s : σ} {es : List ε} :
    Throughout step P s es ↔ P s ∧ EachStep step (fun s e => P (step s e)) s es := by
  induction es generalizing s with
  | nil =>
      rw [throughout_nil]
      exact (and_iff_left eachStep_nil).symm
  | cons e es ih =>
      rw [throughout_cons, eachStep_cons, ih]

/-- What good events keep holds throughout a run of good events. -/
theorem throughout_of_eachStep {J : σ → Prop} {good : σ → ε → Prop}
    (hstep : ∀ s e, J s → good s e → J (step s e)) {s : σ} (h : J s) {es : List ε}
    (hes : EachStep step good s es) : Throughout step J s es := by
  induction es generalizing s with
  | nil => exact throughout_nil.mpr h
  | cons e es ih =>
      obtain ⟨hg, hrest⟩ := eachStep_cons.mp hes
      exact throughout_cons.mpr ⟨h, ih (hstep s e h hg) hrest⟩

/-- `J` is what good events keep, `P` what it is needed for. If every other event breaks `P`,
then `P` holds throughout exactly the runs of good events. -/
theorem throughout_iff {J P : σ → Prop} {good : σ → ε → Prop} (hP : ∀ s, J s → P s)
    (hgood : ∀ s e, J s → good s e → J (step s e))
    (hbad : ∀ s e, J s → ¬ good s e → ¬ P (step s e)) {s : σ} (h : J s) (es : List ε) :
    Throughout step P s es ↔ EachStep step good s es := by
  induction es generalizing s with
  | nil =>
      exact iff_of_true (throughout_nil.mpr (hP s h)) eachStep_nil
  | cons e es ih =>
      rw [throughout_cons, eachStep_cons]
      by_cases hg : good s e
      · rw [ih (hgood s e h hg)]
        exact and_congr_left fun _ => iff_of_true (hP s h) hg
      · refine iff_of_false ?_ fun hall => hg hall.1
        rintro ⟨-, hrest⟩
        exact hbad s e h hg (hrest [] es rfl)

end Runs
