import Mathlib.Data.List.Chain
import VirtualNvme.RingBuffer.Walk

/-!
# What a loop takes from a ring

`Arc` lists the slots between two places of a ring, in the order of the ring. `LoopTrace` is
a finished run of a loop together with what each of its rounds has taken. A consumer does its
work when the two agree: the loop takes the slots of the arc, each of them once. `visits` is
what a consumer comes through that is sent to several targets in a row.
-/

namespace RingBuffer

/-! ## Arcs -/

/-- A walk round a ring of `c` slots from `i` to `tail` comes through the slots `l`. -/
inductive Arc (c tail : UInt32) : UInt32 → List UInt32 → Prop where
  | nil : Arc c tail tail []
  | cons {i : UInt32} {l : List UInt32} (hne : i ≠ tail) (h : Arc c tail (next c i) l) :
      Arc c tail i (i :: l)

section Arc

variable {c tail i : UInt32} {l : List UInt32}

theorem Arc.unique {l' : List UInt32} (h : Arc c tail i l) (h' : Arc c tail i l') : l = l' := by
  induction h generalizing l' with
  | nil =>
      cases h' with
      | nil => rfl
      | cons hne _ => exact absurd rfl hne
  | cons hne _ ih =>
      cases h' with
      | nil => exact absurd rfl hne
      | cons _ hrest => rw [ih hrest]

/-- The rest of the way from a slot of the arc. -/
theorem Arc.rest (h : Arc c tail i l) {j : UInt32} (hj : j ∈ l) :
    ∃ l', Arc c tail j (j :: l') ∧ l'.length < l.length := by
  induction h with
  | nil => cases hj
  | @cons i l hne hrest ih =>
      rcases List.mem_cons.mp hj with rfl | hj
      · exact ⟨l, Arc.cons hne hrest, Nat.lt_succ_self _⟩
      · obtain ⟨l', harc, hlt⟩ := ih hj
        exact ⟨l', harc, Nat.lt_succ_of_lt hlt⟩

/-- No slot is passed twice: from a slot that comes again there would be two ways on, of
different length. -/
theorem Arc.nodup (h : Arc c tail i l) : l.Nodup := by
  induction h with
  | nil => exact List.nodup_nil
  | @cons i l hne hrest ih =>
      refine List.nodup_cons.mpr ⟨fun hi => ?_, ih⟩
      obtain ⟨l', harc, hlt⟩ := hrest.rest hi
      have heq : i :: l' = i :: l := harc.unique (Arc.cons hne hrest)
      rw [(List.cons.inj heq).2] at hlt
      exact Nat.lt_irrefl _ hlt

theorem Arc.eq_nil_iff (h : Arc c tail i l) : l = [] ↔ i = tail := by
  cases h with
  | nil => exact iff_of_true rfl rfl
  | cons hne _ => exact iff_of_false (List.cons_ne_nil _ _) hne

/-- The slots of a walk are an arc. -/
theorem arc_slots (hi : i < c) (ht : tail < c) : Arc c tail i (slots c i (dist c i tail)) := by
  generalize hn : dist c i tail = n
  induction n generalizing i with
  | zero =>
      rw [(dist_eq_zero hi ht).mp hn]
      exact Arc.nil
  | succ n ih =>
      have hne : i ≠ tail := by
        intro heq
        rw [(dist_eq_zero hi ht).mpr heq] at hn
        cases hn
      have hd := dist_next hi ht hne
      exact Arc.cons hne (ih (next_lt (pos_of_lt hi)) (by omega))

end Arc

/-! ## Several targets in a row -/

section Visits

variable {c i : UInt32}

/-- The slots visited by a consumer that is sent from `i` to one target after the other. -/
def visits (c : UInt32) : UInt32 → List UInt32 → List UInt32
  | _, [] => []
  | i, j :: js => slots c i (dist c i j) ++ visits c j js

/-- Where the consumer ends. -/
def lastTarget (i : UInt32) (js : List UInt32) : UInt32 := js.getLast?.getD i

theorem lastTarget_cons (i j : UInt32) (js : List UInt32) :
    lastTarget i (j :: js) = lastTarget j js := by
  rw [lastTarget, lastTarget, List.getLast?_cons, Option.getD_some]

theorem lastTarget_lt {js : List UInt32} (hi : i < c) (hjs : ∀ j ∈ js, j < c) :
    lastTarget i js < c := by
  unfold lastTarget
  cases hl : js.getLast? with
  | none => exact hi
  | some j => exact hjs j (List.mem_of_getLast? hl)

/-- The way is one walk from slot to slot, perhaps of several rounds. -/
theorem visits_eq_slots {js : List UInt32} : ∀ {i : UInt32}, i < c → (∀ j ∈ js, j < c) →
    visits c i js = slots c i (visits c i js).length := by
  induction js with
  | nil =>
      intro i _ _
      rfl
  | cons j js ih =>
      intro i hi hjs
      have hj := hjs j List.mem_cons_self
      rw [visits, List.length_append, length_slots, slots_append, iterate_next_dist hi hj,
        ← ih hj fun k hk => hjs k (List.mem_cons_of_mem j hk)]

/-- Every target is less than a round away from the one before. -/
theorem length_visits_le {js : List UInt32} : ∀ {i : UInt32}, i < c → (∀ j ∈ js, j < c) →
    (visits c i js).length ≤ js.length * c.toNat := by
  induction js with
  | nil =>
      intro i _ _
      exact Nat.zero_le _
  | cons j js ih =>
      intro i hi hjs
      have hd : dist c i j < c.toNat := dist_lt (pos_of_lt hi)
      have hrest := ih (hjs j List.mem_cons_self) fun k hk => hjs k (List.mem_cons_of_mem j hk)
      rw [visits, List.length_append, length_slots, List.length_cons, Nat.succ_mul]
      omega

/-- The targets lie on one round from `i`, each at or behind the one before. -/
def Onward (c i : UInt32) (js : List UInt32) : Prop :=
  js.IsChain fun j k => dist c i j ≤ dist c i k

/-- Targets on one round make one walk of their own to the last of them. -/
theorem Onward.visits_from {js : List UInt32} (hi : i < c) : ∀ {j : UInt32}, j < c →
    (∀ k ∈ js, k < c) → Onward c i (j :: js) →
      slots c i (dist c i j) ++ visits c j js = slots c i (dist c i (lastTarget j js)) := by
  induction js with
  | nil =>
      intro j _ _ _
      exact List.append_nil _
  | cons k js ih =>
      intro j hj hjs h
      obtain ⟨hle, hrest⟩ := List.isChain_cons_cons.mp h
      have hk := hjs k List.mem_cons_self
      rw [visits, ← List.append_assoc, lastTarget_cons]
      have hjoin : slots c i (dist c i j) ++ slots c j (dist c j k) = slots c i (dist c i k) := by
        rw [← dist_add hi hj hk hle, slots_append, iterate_next_dist hi hj]
      rw [hjoin]
      exact ih hk (fun x hx => hjs x (List.mem_cons_of_mem k hx)) hrest

theorem Onward.visits_eq {js : List UInt32} (hi : i < c) (hjs : ∀ j ∈ js, j < c)
    (h : Onward c i js) : visits c i js = slots c i (dist c i (lastTarget i js)) := by
  have hcons : Onward c i (i :: js) := by
    cases js with
    | nil => exact List.isChain_singleton i
    | cons j js =>
        refine List.isChain_cons_cons.mpr ⟨?_, h⟩
        rw [dist_refl]
        exact Nat.zero_le _
  have hall := hcons.visits_from hi hi hjs
  rwa [dist_refl] at hall

end Visits

/-! ## Traces -/

section Trace

variable {σ ρ α : Type*} {step : σ → Option (σ ⊕ ρ)} {take : σ → α}

/-- A run of the loop from a state to a result, with what each round takes. -/
inductive LoopTrace (step : σ → Option (σ ⊕ ρ)) (take : σ → α) : σ → List α → ρ → Prop where
  | exit {s : σ} {r : ρ} (h : step s = some (.inr r)) : LoopTrace step take s [] r
  | round {s s' : σ} {l : List α} {r : ρ} (h : step s = some (.inl s'))
      (hrest : LoopTrace step take s' l r) : LoopTrace step take s (take s :: l) r

theorem LoopTrace.cons_inv {s : σ} {a : α} {l : List α} {r : ρ}
    (h : LoopTrace step take s (a :: l) r) :
    ∃ s', step s = some (.inl s') ∧ LoopTrace step take s' l r ∧ a = take s := by
  cases h with
  | round h hrest => exact ⟨_, h, hrest, rfl⟩

/-- What every round keeps and takes holds of all that is taken. -/
theorem LoopTrace.forall_take {I : σ → Prop} {P : α → Prop}
    (hround : ∀ s s', I s → step s = some (.inl s') → P (take s) ∧ I s') {s : σ} {l : List α}
    {r : ρ} (h : LoopTrace step take s l r) (hI : I s) : ∀ a ∈ l, P a := by
  induction h with
  | exit h => exact List.forall_mem_nil P
  | round h _ ih =>
      obtain ⟨htaken, hkept⟩ := hround _ _ hI h
      exact List.forall_mem_cons.mpr ⟨htaken, ih hkept⟩

/-- The same run, with something else taken. -/
theorem LoopTrace.retake {β : Type*} (take' : σ → β) {s : σ} {l : List α} {r : ρ}
    (h : LoopTrace step take s l r) :
    ∃ l', LoopTrace step take' s l' r ∧ l'.length = l.length := by
  induction h with
  | exit h => exact ⟨[], LoopTrace.exit h, rfl⟩
  | round h _ ih =>
      obtain ⟨l', htrace, hlength⟩ := ih
      exact ⟨_, LoopTrace.round h htrace, congrArg (· + 1) hlength⟩

/-- What is taken is taken in some state of the run. -/
theorem LoopTrace.rest {I : σ → Prop} (hkept : ∀ s s', I s → step s = some (.inl s') → I s')
    {s : σ} {l : List α} {r : ρ} (h : LoopTrace step take s l r) (hI : I s) {a : α} (ha : a ∈ l) :
    ∃ t l', take t = a ∧ I t ∧ LoopTrace step take t l' r ∧ l'.length ≤ l.length := by
  induction h with
  | exit h => cases ha
  | @round s s' l r h hrest ih =>
      rcases List.mem_cons.mp ha with rfl | ha
      · exact ⟨s, _, rfl, hI, LoopTrace.round h hrest, le_rfl⟩
      · obtain ⟨t, l', htake, hIt, htrace, hle⟩ := ih (hkept _ _ hI h) ha
        exact ⟨t, l', htake, hIt, htrace, Nat.le_succ_of_le hle⟩

section Determined

variable {I : σ → Prop} (hround : ∀ s t s', I s → I t → take s = take t →
  step s = some (.inl s') → I s' ∧ ∃ t', step t = some (.inl t') ∧ take s' = take t')

include hround

/-- If what is taken decides how the run goes on, then runs from alike states are of one
length. -/
theorem LoopTrace.length_unique {s t : σ} {l l' : List α} {r r' : ρ}
    (h : LoopTrace step take s l r) (h' : LoopTrace step take t l' r') (hs : I s) (ht : I t)
    (hst : take s = take t) : l.length = l'.length := by
  induction h generalizing t l' with
  | exit h =>
      cases h' with
      | exit _ => rfl
      | round h' _ =>
          obtain ⟨-, s', hs', -⟩ := hround _ _ _ ht hs hst.symm h'
          cases h.symm.trans hs'
  | round h _ ih =>
      obtain ⟨hI, t', ht', htake⟩ := hround _ _ _ hs ht hst h
      cases h' with
      | exit h' => cases h'.symm.trans ht'
      | round h' hrest' =>
          obtain rfl := Sum.inl.inj (Option.some.inj (ht'.symm.trans h'))
          have hI' := (hround _ _ _ ht hs hst.symm h').1
          exact congrArg (· + 1) (ih hrest' hI hI' htake)

/-- Nothing is taken twice, for the run would come round again and never end. -/
theorem LoopTrace.nodup {s : σ} {l : List α} {r : ρ} (h : LoopTrace step take s l r)
    (hs : I s) : l.Nodup := by
  have hkept (s s' : σ) (hI : I s) (h : step s = some (.inl s')) : I s' :=
    (hround s s s' hI hI rfl h).1
  induction h with
  | exit h => exact List.nodup_nil
  | @round s s' l r h hrest ih =>
      refine List.nodup_cons.mpr ⟨fun hagain => ?_, ih (hkept _ _ hs h)⟩
      obtain ⟨t, l', htake, ht, htrace, hle⟩ := hrest.rest hkept (hkept _ _ hs h) hagain
      have hsame : (take s :: l).length = l'.length :=
        (LoopTrace.round h hrest).length_unique hround htrace hs ht htake.symm
      rw [← hsame] at hle
      exact absurd hle (Nat.not_succ_le_self _)

end Determined

/-- A run needs one unit of fuel more than it takes. -/
theorem LoopTrace.loop_eq {s : σ} {l : List α} {r : ρ} (h : LoopTrace step take s l r) {fuel : Nat}
    (hfuel : l.length < fuel) : loop step fuel s = some r := by
  induction h generalizing fuel with
  | exit h =>
      obtain ⟨n, rfl⟩ := Nat.exists_eq_succ_of_ne_zero (Nat.ne_of_gt hfuel)
      exact loop_inr h n
  | round h _ ih =>
      obtain ⟨n, rfl⟩ := Nat.exists_eq_succ_of_ne_zero (Nat.ne_of_gt (Nat.zero_lt_of_lt hfuel))
      rw [loop_inl h]
      exact ih (Nat.lt_of_succ_lt_succ hfuel)

/-- Every result of the loop comes from a run. -/
theorem exists_loopTrace (take : σ → α) {fuel : Nat} {s : σ} {r : ρ}
    (h : loop step fuel s = some r) : ∃ l, LoopTrace step take s l r := by
  induction fuel generalizing s with
  | zero => cases h
  | succ fuel ih =>
      cases hs : step s with
      | none =>
          rw [loop, hs] at h
          cases h
      | some x =>
          cases x with
          | inl s' =>
              rw [loop_inl hs] at h
              obtain ⟨l, hl⟩ := ih h
              exact ⟨take s :: l, LoopTrace.round hs hl⟩
          | inr r' =>
              rw [loop_inr hs] at h
              rw [← Option.some.inj h]
              exact ⟨[], LoopTrace.exit hs⟩

end Trace

end RingBuffer
