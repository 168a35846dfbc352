import Mathlib.Order.MinMax
import Mathlib.Order.Nat
import VirtualNvme.Runs

/-!
# An interval that adapts to the load

After a round with work the interval is halved, down to `lo`; after an idle round it grows by its
`k`-th part, up to `hi`. The division truncates: an interval below `k` does not grow.
-/

namespace AdaptiveInterval

open Runs

variable {k lo hi v : ℕ}

def step (k lo hi v : ℕ) (hadWork : Bool) : ℕ :=
  if hadWork then max (v / 2) lo else min (v + v / k) hi

/-- The bounds are kept, although each kind of step looks at one of them only. -/
theorem step_between (hle : lo ≤ hi) (h : lo ≤ v ∧ v ≤ hi) (hadWork : Bool) :
    lo ≤ step k lo hi v hadWork ∧ step k lo hi v hadWork ≤ hi := by
  cases hadWork with
  | true =>
      show lo ≤ max (v / 2) lo ∧ max (v / 2) lo ≤ hi
      omega
  | false =>
      show lo ≤ min (v + v / k) hi ∧ min (v + v / k) hi ≤ hi
      exact ⟨le_min (Nat.le_add_right_of_le h.1) hle, min_le_right _ _⟩

/-- Wider bounds are kept from any interval between them. -/
theorem step_within {least most : ℕ} (hlo : least ≤ lo ∧ lo ≤ most)
    (hhi : least ≤ hi ∧ hi ≤ most) (h : least ≤ v ∧ v ≤ most) (hadWork : Bool) :
    least ≤ step k lo hi v hadWork ∧ step k lo hi v hadWork ≤ most := by
  cases hadWork with
  | true =>
      show least ≤ max (v / 2) lo ∧ max (v / 2) lo ≤ most
      omega
  | false =>
      show least ≤ min (v + v / k) hi ∧ min (v + v / k) hi ≤ most
      exact ⟨le_min (Nat.le_add_right_of_le h.1) hhi.1, (min_le_right _ _).trans hhi.2⟩

/-- An interval grows if its `k`-th part is not nothing. -/
theorem lt_step_idle_iff (hk : 0 < k) (hv : v < hi) : v < step k lo hi v false ↔ k ≤ v := by
  show v < min (v + v / k) hi ↔ k ≤ v
  rw [lt_min_iff, and_iff_left hv, Nat.lt_add_right_iff_pos, Nat.div_pos_iff, and_iff_right hk]

theorem step_idle_of_ge (hv : hi ≤ v) : step k lo hi v false = hi :=
  min_eq_right (Nat.le_add_right_of_le hv)

/-- Idle rounds bring the interval to its maximum exactly if the first of them makes it grow, or
it is there already. -/
theorem exists_idle_eq_iff (hk : 0 < k) :
    (∃ n, run (step k lo hi) v (List.replicate n false) = hi) ↔ k ≤ v ∨ hi ≤ v := by
  constructor
  · rintro ⟨n, hn⟩
    by_contra hno
    obtain ⟨hsmall, hbelow⟩ := not_or.mp hno
    have hstuck : step k lo hi v false = v := by
      show min (v + v / k) hi = v
      rw [Nat.div_eq_of_lt (Nat.not_le.mp hsmall), Nat.add_zero,
        min_eq_left (Nat.le_of_not_le hbelow)]
    rw [run_replicate_of_fixed hstuck] at hn
    exact hbelow hn.ge
  · rintro (hlarge | hthere)
    · -- the distance from the maximum is the measure, on either side of it
      refine exists_run_replicate (J := fun v => k ≤ v ∨ hi ≤ v) (P := fun v => v = hi)
        (fun v => (hi - v) + (v - hi)) (fun v hJ hne => ?_) (Or.inl hlarge)
      by_cases hv : v < hi
      · have hlarge := hJ.resolve_right (Nat.not_le.mpr hv)
        have hgrows : v < step k lo hi v false := (lt_step_idle_iff hk hv).mpr hlarge
        have htop : step k lo hi v false ≤ hi := min_le_right _ _
        exact ⟨Or.inl (hlarge.trans hgrows.le), by omega⟩
      · rw [step_idle_of_ge (Nat.not_lt.mp hv)]
        exact ⟨Or.inr le_rfl, by omega⟩
    · exact ⟨1, @step_idle_of_ge k lo hi v hthere⟩

/-- Busy rounds bring it to its minimum. -/
theorem exists_busy_eq (hlo : 0 < lo) (hv : lo ≤ v) :
    ∃ n, run (step k lo hi) v (List.replicate n true) = lo := by
  refine exists_run_replicate (J := fun v => lo ≤ v) (P := fun v => v = lo) id
    (fun v hle hne => ?_) hv
  show lo ≤ max (v / 2) lo ∧ max (v / 2) lo < v
  omega

end AdaptiveInterval
