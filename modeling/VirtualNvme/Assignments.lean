import Mathlib.Data.List.Basic
import Mathlib.Tactic.Common

/-!
# Lists of assignments

A program reads a list of assignments one after the other into a record. What a field of the
record holds at the end is the last value that was assigned to it, or what it held at the start
(`foldl_field`).
-/

namespace Assignments

variable {σ ε α : Type*}

/-- The last value that the assignments give to a field. -/
def last (writes : ε → Option α) (es : List ε) : Option α := es.reverse.findSome? writes

theorem last_cons (writes : ε → Option α) (e : ε) (es : List ε) :
    last writes (e :: es) = (last writes es).or (writes e) := by
  unfold last
  rw [List.reverse_cons, List.findSome?_append, List.findSome?_singleton]

section Fold

variable (step : σ → ε → σ) (get : σ → α)

/-- A field that every assignment either sets or leaves. -/
theorem foldl_field (writes : ε → Option α) (h : ∀ s e, get (step s e) = (writes e).getD (get s))
    (s : σ) (es : List ε) : get (es.foldl step s) = (last writes es).getD (get s) := by
  induction es generalizing s with
  | nil => rfl
  | cons e es ih =>
      rw [List.foldl_cons, ih, h, last_cons]
      cases last writes es <;> rfl

/-- A field that no assignment sets. -/
theorem foldl_unset (h : ∀ s e, get (step s e) = get s) (s : σ) (es : List ε) :
    get (es.foldl step s) = get s := by
  induction es generalizing s with
  | nil => rfl
  | cons e es ih => rw [List.foldl_cons, ih, h]

/-- A field whose new value depends on the old one. -/
theorem foldl_update {β : Type*} (update : α → β → α) (writes : ε → Option β)
    (h : ∀ s e, get (step s e) = (writes e).elim (get s) (update (get s))) (s : σ)
    (es : List ε) : get (es.foldl step s) = (es.filterMap writes).foldl update (get s) := by
  induction es generalizing s with
  | nil => rfl
  | cons e es ih =>
      rw [List.foldl_cons, ih, h, List.filterMap_cons]
      cases writes e <;> rfl

end Fold

/-- A switch that assignments only turn on. -/
theorem foldl_switch (step : σ → ε → σ) (get : σ → Bool) (on : ε → Bool)
    (h : ∀ s e, get (step s e) = (get s || on e)) (s : σ) (es : List ε) :
    get (es.foldl step s) = (get s || es.any on) := by
  induction es generalizing s with
  | nil => exact (Bool.or_false _).symm
  | cons e es ih => rw [List.foldl_cons, ih, h, List.any_cons, Bool.or_assoc]

/-- The last value that the assignments of a run give to a field, where what an assignment gives
depends on the record that it meets. -/
def lastAlong (step : σ → ε → σ) (writes : σ → ε → Option α) (s : σ) : List ε → Option α
  | [] => none
  | e :: es => (lastAlong step writes (step s e) es).or (writes s e)

/-- A field that every assignment either sets or leaves, as long as the invariant `J` holds. -/
theorem foldl_lastAlong (step : σ → ε → σ) (get : σ → Option α) (writes : σ → ε → Option α)
    {J : σ → Prop} (hstep : ∀ s e, J s → J (step s e))
    (h : ∀ s e, J s → get (step s e) = (writes s e).or (get s)) {s : σ} (hJ : J s)
    (es : List ε) : get (es.foldl step s) = (lastAlong step writes s es).or (get s) := by
  induction es generalizing s with
  | nil => rfl
  | cons e es ih =>
      rw [List.foldl_cons, ih (hstep s e hJ), h s e hJ, lastAlong, Option.or_assoc]

/-- What is assigned last was assigned. -/
theorem mem_of_last {writes : ε → Option α} {es : List ε} {a : α} (h : last writes es = some a) :
    ∃ e ∈ es, writes e = some a := by
  obtain ⟨e, hmem, hwrites⟩ := List.exists_of_findSome?_eq_some h
  exact ⟨e, List.mem_reverse.mp hmem, hwrites⟩

end Assignments
