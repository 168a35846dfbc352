import Mathlib.Data.Nat.ModEq
import Mathlib.Logic.Function.Basic
import Mathlib.Tactic.Common

/-!
# Ring indices, laps and phases

A producer or consumer of a ring of `c` slots keeps one 32-bit index and moves it
by `(i + 1) % c`. The index forgets how often it went round; the proofs do not.
Everything here relates the index to the unbounded number of steps `k` it has made
since it stood on slot 0: the index is `k % c` (`At`), the lap is `k / c`, and a
phase flag that is flipped on every return to slot 0 is the parity of the lap
(`lapEven`).
-/

namespace RingBuffer

/-! ## The successor slot -/

/-- The slot after `i` in a ring of `c` slots, in 32-bit arithmetic. -/
def next (c i : UInt32) : UInt32 := (i + 1) % c

theorem next_toNat {c i : UInt32} (h : i < c) :
    (next c i).toNat = (i.toNat + 1) % c.toNat := by
  have hi : i.toNat < c.toNat := h
  have hc : c.toNat < 2 ^ 32 := c.toNat_lt
  -- an index below the modulus cannot overflow the 32-bit addition
  have hlt : i.toNat + (1 : UInt32).toNat < 2 ^ 32 := by
    have h1 : (1 : UInt32).toNat = 1 := rfl
    omega
  rw [next, UInt32.toNat_mod, UInt32.toNat_add, Nat.mod_eq_of_lt hlt]
  rfl

theorem next_lt {c i : UInt32} (hc : 0 < c) : next c i < c := by
  have h0 : 0 < c.toNat := hc
  show (next c i).toNat < c.toNat
  rw [next, UInt32.toNat_mod]
  exact Nat.mod_lt _ h0

theorem pos_of_lt {c i : UInt32} (h : i < c) : 0 < c := by
  have hi : i.toNat < c.toNat := h
  show (0 : UInt32).toNat < c.toNat
  exact Nat.lt_of_le_of_lt (Nat.zero_le _) hi

/-! ## Index and step count -/

/-- `i` is where an index that left slot 0 stands after `k` steps. -/
def At (c : UInt32) (k : Nat) (i : UInt32) : Prop := i.toNat = k % c.toNat

theorem At.zero (c : UInt32) : At c 0 0 := by
  show (0 : UInt32).toNat = 0 % c.toNat
  rw [Nat.zero_mod]
  rfl

theorem At.lt {c i : UInt32} {k : Nat} (hc : 0 < c) (h : At c k i) : i < c := by
  have h0 : 0 < c.toNat := hc
  show i.toNat < c.toNat
  rw [h]
  exact Nat.mod_lt _ h0

theorem At.next {c i : UInt32} {k : Nat} (hc : 0 < c) (h : At c k i) :
    At c (k + 1) (next c i) := by
  show (RingBuffer.next c i).toNat = (k + 1) % c.toNat
  rw [next_toNat (h.lt hc), h, Nat.mod_add_mod]

theorem At.unique {c i j : UInt32} {k : Nat} (hi : At c k i) (hj : At c k j) : i = j :=
  UInt32.toNat_inj.mp (hi.trans hj.symm)

/-- Every index below the capacity is its own step count. -/
theorem At.self {c i : UInt32} (h : i < c) : At c i.toNat i :=
  (Nat.mod_eq_of_lt h).symm

/-- Two step counts less than one lap apart meet on a slot only if they are equal. -/
theorem At.count_eq {c i : UInt32} {k l : Nat} (hk : At c k i) (hl : At c l i)
    (hle : k ≤ l) (hlt : l < k + c.toNat) : k = l := by
  have hmod : k % c.toNat = l % c.toNat := hk.symm.trans hl
  have hdvd : c.toNat ∣ l - k := (Nat.modEq_iff_dvd' hle).mp hmod
  have hzero : l - k = 0 := Nat.eq_zero_of_dvd_of_lt hdvd (by omega)
  omega

/-- The step back to slot 0 is the step whose count is a multiple of the capacity. -/
theorem At.eq_zero_iff {c i : UInt32} {k : Nat} (h : At c k i) :
    i = 0 ↔ k % c.toNat = 0 := by
  rw [← UInt32.toNat_inj, h]
  rfl

theorem At.iterate {c i : UInt32} {k : Nat} (hc : 0 < c) (h : At c k i) (n : Nat) :
    At c (k + n) ((RingBuffer.next c)^[n] i) := by
  induction n with
  | zero => exact h
  | succ n ih =>
      rw [Function.iterate_succ_apply']
      exact ih.next hc

/-- An index counts modulo `n` exactly if it starts on slot 0 of a ring of `n` slots. -/
theorem iterate_next_eq_mod_iff {c i : UInt32} (hc : 0 < c) {n : Nat} (hn : 0 < n) :
    (∀ k, ((next c)^[k] i).toNat = k % n) ↔ i = 0 ∧ n = c.toNat := by
  constructor
  · intro h
    have hi : i = 0 := UInt32.toNat_inj.mp ((h 0).trans (Nat.zero_mod n))
    subst hi
    have hmod : ∀ k, k % c.toNat = k % n := by
      intro k
      rw [← h k, (At.zero c).iterate hc k, Nat.zero_add]
    refine ⟨rfl, Nat.dvd_antisymm ?_ ?_⟩
    · exact Nat.dvd_of_mod_eq_zero ((hmod c.toNat).symm.trans (Nat.mod_self _))
    · exact Nat.dvd_of_mod_eq_zero ((hmod n).trans (Nat.mod_self n))
  · rintro ⟨rfl, rfl⟩ k
    rw [(At.zero c).iterate hc k, Nat.zero_add]

/-! ## Distance -/

/-- The number of steps from slot `i` forward to slot `j`, the `(j - i) mod c` of
ring arithmetic. -/
def dist (c i j : UInt32) : Nat := (j.toNat + c.toNat - i.toNat) % c.toNat

theorem dist_refl (c i : UInt32) : dist c i i = 0 := by
  rw [dist, Nat.add_sub_cancel_left, Nat.mod_self]

theorem dist_self {c i : UInt32} (_ : i < c) : dist c i i = 0 := dist_refl c i

theorem dist_cases {c i j : UInt32} (hi : i < c) (hj : j < c) :
    (i.toNat ≤ j.toNat ∧ dist c i j = j.toNat - i.toNat) ∨
      (j.toNat < i.toNat ∧ dist c i j = j.toNat + c.toNat - i.toNat) := by
  have hi' : i.toNat < c.toNat := hi
  have hj' : j.toNat < c.toNat := hj
  rcases Nat.lt_or_ge j.toNat i.toNat with hlt | hge
  · refine Or.inr ⟨hlt, ?_⟩
    rw [dist, Nat.mod_eq_of_lt (by omega)]
  · refine Or.inl ⟨hge, ?_⟩
    rw [dist, show j.toNat + c.toNat - i.toNat = (j.toNat - i.toNat) + c.toNat by omega,
      Nat.add_mod_right, Nat.mod_eq_of_lt (by omega)]

theorem dist_lt {c i j : UInt32} (hc : 0 < c) : dist c i j < c.toNat := by
  have h0 : 0 < c.toNat := hc
  exact Nat.mod_lt _ h0

theorem dist_eq_zero {c i j : UInt32} (hi : i < c) (hj : j < c) :
    dist c i j = 0 ↔ i = j := by
  have hi' : i.toNat < c.toNat := hi
  constructor
  · intro h
    apply UInt32.toNat_inj.mp
    rcases dist_cases hi hj with ⟨_, hd⟩ | ⟨_, hd⟩ <;> omega
  · rintro rfl
    exact dist_self hi

/-- One step towards a target shortens the distance by one. -/
theorem dist_next {c i j : UInt32} (hi : i < c) (hj : j < c) (hne : i ≠ j) :
    dist c i j = dist c (next c i) j + 1 := by
  have hi' : i.toNat < c.toNat := hi
  have hj' : j.toNat < c.toNat := hj
  have hne' : i.toNat ≠ j.toNat := fun h => hne (UInt32.toNat_inj.mp h)
  have hn := next_toNat hi
  have hd := dist_cases hi hj
  have hd' := dist_cases (next_lt (pos_of_lt hi) (i := i)) hj
  -- either the step stays inside the lap or it returns to slot 0
  rcases Nat.lt_or_ge (i.toNat + 1) c.toNat with hlt | hge
  · rw [Nat.mod_eq_of_lt hlt] at hn
    omega
  · rw [show i.toNat + 1 = c.toNat by omega, Nat.mod_self] at hn
    omega

/-- From the slot after `i` it is a whole lap but one back to `i`. -/
theorem dist_next_self {c i : UInt32} (hi : i < c) : dist c (next c i) i + 1 = c.toNat := by
  have hi' : i.toNat < c.toNat := hi
  have hn := next_toNat hi
  have hd := dist_cases (next_lt (pos_of_lt hi) (i := i)) hi
  rcases Nat.lt_or_ge (i.toNat + 1) c.toNat with hlt | hge
  · rw [Nat.mod_eq_of_lt hlt] at hn
    omega
  · rw [show i.toNat + 1 = c.toNat by omega, Nat.mod_self] at hn
    omega

theorem dist_inj {c i j k : UInt32} (hi : i < c) (hj : j < c) (hk : k < c)
    (h : dist c i j = dist c i k) : j = k := by
  have hi' : i.toNat < c.toNat := hi
  have hj' : j.toNat < c.toNat := hj
  have hk' : k.toNat < c.toNat := hk
  have h1 := dist_cases hi hj
  have h2 := dist_cases hi hk
  exact UInt32.toNat_inj.mp (by omega)

/-- Moving the target one step on lengthens the distance by one, unless it comes round. -/
theorem dist_next_right {c i j : UInt32} (hi : i < c) (hj : j < c) (hne : next c j ≠ i) :
    dist c i (next c j) = dist c i j + 1 := by
  have hi' : i.toNat < c.toNat := hi
  have hj' : j.toNat < c.toNat := hj
  have hne' : (next c j).toNat ≠ i.toNat := fun h => hne (UInt32.toNat_inj.mp h)
  have hn := next_toNat hj
  have hd := dist_cases hi hj
  have hd' := dist_cases hi (next_lt (pos_of_lt hj) (i := j))
  rcases Nat.lt_or_ge (j.toNat + 1) c.toNat with hlt | hge
  · rw [Nat.mod_eq_of_lt hlt] at hn
    omega
  · rw [show j.toNat + 1 = c.toNat by omega, Nat.mod_self] at hn
    omega

/-- The step count at a target `dist` steps ahead. -/
theorem At.add_dist {c i j : UInt32} {k : Nat} (hi : At c k i) (hi' : i < c) (hj : j < c) :
    At c (k + dist c i j) j := by
  have h1 : i.toNat < c.toNat := hi'
  have h2 : j.toNat < c.toNat := hj
  show j.toNat = (k + dist c i j) % c.toNat
  rw [Nat.add_mod, ← hi, Nat.mod_eq_of_lt (dist_lt (pos_of_lt hi') (i := i) (j := j))]
  rcases dist_cases hi' hj with ⟨_, hd⟩ | ⟨_, hd⟩
  · rw [hd, show i.toNat + (j.toNat - i.toNat) = j.toNat by omega, Nat.mod_eq_of_lt h2]
  · rw [hd, show i.toNat + (j.toNat + c.toNat - i.toNat) = j.toNat + c.toNat by omega,
      Nat.add_mod_right, Nat.mod_eq_of_lt h2]

theorem iterate_next_dist {c i j : UInt32} (hi : i < c) (hj : j < c) :
    (next c)^[dist c i j] i = j :=
  ((At.self hi).iterate (pos_of_lt hi) _).unique ((At.self hi).add_dist hi hj)

/-- Going on in the same direction adds up. -/
theorem dist_add {c i j k : UInt32} (hi : i < c) (hj : j < c) (hk : k < c)
    (hle : dist c i j ≤ dist c i k) : dist c i j + dist c j k = dist c i k := by
  have hi' : i.toNat < c.toNat := hi
  have hj' : j.toNat < c.toNat := hj
  have hk' : k.toNat < c.toNat := hk
  have h1 := dist_cases hi hj
  have h2 := dist_cases hi hk
  have h3 := dist_cases hj hk
  omega

/-! ## Laps -/

/-- The lap of step `k` is even: the phase of a ring whose first lap is written
with phase 1. -/
def lapEven (c k : Nat) : Bool := k / c % 2 == 0

theorem lapEven_of_lt {c k : Nat} (h : k < c) : lapEven c k = true := by
  rw [lapEven, Nat.div_eq_of_lt h]
  rfl

/-- The phase flips exactly on the step that returns to slot 0. -/
theorem lapEven_succ {c k : Nat} :
    lapEven c (k + 1) =
      if (k + 1) % c = 0 then !lapEven c k else lapEven c k := by
  have hdiv : (k + 1) / c = k / c + if c ∣ k + 1 then 1 else 0 := Nat.succ_div
  by_cases h : (k + 1) % c = 0
  · have hd : c ∣ k + 1 := Nat.dvd_of_mod_eq_zero h
    rw [if_pos h]
    simp only [lapEven, hdiv, if_pos hd]
    rcases Nat.mod_two_eq_zero_or_one (k / c) with h2 | h2
    · rw [h2, show (k / c + 1) % 2 = 1 by omega]
      rfl
    · rw [h2, show (k / c + 1) % 2 = 0 by omega]
      rfl
  · have hd : ¬ c ∣ k + 1 := fun hd => h (Nat.mod_eq_zero_of_dvd hd)
    rw [if_neg h]
    simp only [lapEven, hdiv, if_neg hd, Nat.add_zero]

end RingBuffer
