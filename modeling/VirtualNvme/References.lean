import Mathlib.Logic.Function.Basic
import Mathlib.Tactic.Common

/-!
# References between two tables

One table has live and dead entries (`live`), the other refers to them (`ref`). A pair of
tables is closed if every reference goes to a live entry. Adding entries and dropping
references never hurts; killing an entry keeps the tables closed exactly if nothing refers
to it.
-/

namespace References

variable {ι κ : Type*}

/-- Every reference goes to a live entry. -/
def Closed (live : ι → Prop) (ref : κ → Option ι) : Prop :=
  ∀ k i, ref k = some i → live i

variable {live : ι → Prop} {ref : κ → Option ι}

theorem Closed.empty (h : ∀ k, ref k = none) : Closed live ref := by
  intro k i hk
  rw [h k] at hk
  cases hk

theorem Closed.addTarget [DecidableEq ι] (h : Closed live ref) (i : ι) {P : Prop} (hP : P) :
    Closed (Function.update live i P) ref := by
  intro k j hk
  by_cases hj : j = i
  · rw [hj, Function.update_self]
    exact hP
  · rw [Function.update_of_ne hj]
    exact h k j hk

theorem Closed.addRef [DecidableEq κ] (h : Closed live ref) (k : κ) {i : ι} (hi : live i) :
    Closed live (Function.update ref k (some i)) := by
  intro l j hl
  by_cases hlk : l = k
  · rw [hlk, Function.update_self] at hl
    rw [← Option.some.inj hl]
    exact hi
  · rw [Function.update_of_ne hlk] at hl
    exact h l j hl

theorem Closed.removeRef [DecidableEq κ] (h : Closed live ref) (k : κ) :
    Closed live (Function.update ref k none) := by
  intro l j hl
  by_cases hlk : l = k
  · rw [hlk, Function.update_self] at hl
    cases hl
  · rw [Function.update_of_ne hlk] at hl
    exact h l j hl

theorem Closed.removeTarget_iff [DecidableEq ι] (h : Closed live ref) (i : ι) {P : Prop}
    (hP : ¬ P) : Closed (Function.update live i P) ref ↔ ∀ k, ref k ≠ some i := by
  constructor
  · intro hc k hk
    have hlive := hc k i hk
    rw [Function.update_self] at hlive
    exact hP hlive
  · intro hno k j hk
    have hj : j ≠ i := by
      rintro rfl
      exact hno k hk
    rw [Function.update_of_ne hj]
    exact h k j hk

end References
