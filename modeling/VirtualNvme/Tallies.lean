import Mathlib.Algebra.Order.BigOperators.Group.List
import Mathlib.Algebra.Order.Ring.Nat
import Mathlib.Tactic.Common

/-!
# Tallies

Loops that go over a list and keep a counter of fixed width or fill an array of fixed length.
A counter that does not overflow is the sum (`foldl_toNat`), and an array that takes no more
than `n` elements holds the first `n` of them (`foldl_capped`).
-/

namespace Tallies

variable {α β γ : Type*}

/-- A counter is the sum of what was added, as long as that is below the bound. -/
theorem foldl_toNat {toNat : α → ℕ} {add : α → β → α} {f : β → ℕ} {bound : ℕ} {bs : List β}
    (hadd : ∀ a, ∀ b ∈ bs, toNat a + f b < bound → toNat (add a b) = toNat a + f b) (a : α)
    (h : toNat a + (bs.map f).sum < bound) :
    toNat (bs.foldl add a) = toNat a + (bs.map f).sum := by
  induction bs generalizing a with
  | nil => rfl
  | cons b bs ih =>
      rw [List.map_cons, List.sum_cons, ← Nat.add_assoc] at h ⊢
      have hone : toNat a + f b < bound := Nat.lt_of_le_of_lt (Nat.le_add_right _ _) h
      have hb := hadd a b List.mem_cons_self hone
      rw [List.foldl_cons, ← hb]
      refine ih (fun a b' hb' => hadd a b' (List.mem_cons_of_mem _ hb')) (add a b) ?_
      rw [hb]
      exact h

/-- An array for `n` elements that gets those with `p`. -/
theorem foldl_capped (n : ℕ) (p : β → Bool) (f : β → γ) (bs : List β) (acc : List γ)
    (h : acc.length ≤ n) :
    bs.foldl (fun acc b => if acc.length < n ∧ p b = true then acc ++ [f b] else acc) acc =
      (acc ++ (bs.filter p).map f).take n := by
  induction bs generalizing acc with
  | nil =>
      rw [List.foldl_nil, List.filter_nil, List.map_nil, List.append_nil, List.take_of_length_le h]
  | cons b bs ih =>
      rw [List.foldl_cons]
      by_cases hp : p b = true
      · rw [List.filter_cons_of_pos hp, List.map_cons]
        by_cases hlt : acc.length < n
        · rw [if_pos ⟨hlt, hp⟩, ih _ (by simpa using Nat.succ_le_of_lt hlt), List.append_assoc]
          rfl
        · -- the array is full
          have hfull : acc.length = n := Nat.le_antisymm h (Nat.not_lt.mp hlt)
          rw [if_neg fun hboth => hlt hboth.1, ih _ h, List.take_append_of_le_length hfull.ge,
            List.take_append_of_le_length hfull.ge]
      · rw [if_neg fun hboth => hp hboth.2, List.filter_cons_of_neg hp]
        exact ih acc h

/-- An array that is filled in two goes. -/
theorem take_take_append (n : ℕ) (xs ys : List γ) :
    (xs.take n ++ ys).take n = (xs ++ ys).take n := by
  rcases Nat.le_total xs.length n with hle | hge
  · rw [List.take_of_length_le hle]
  · have hlen : (xs.take n).length = n := List.length_take_of_le hge
    rw [List.take_append_of_le_length hlen.ge, List.take_append_of_le_length hge, List.take_take,
      Nat.min_self]

/-- The sum of bounded terms. -/
theorem sum_map_le (f : β → ℕ) (m : ℕ) (bs : List β) (h : ∀ b ∈ bs, f b ≤ m) :
    (bs.map f).sum ≤ bs.length * m := by
  have hle := List.sum_le_card_nsmul (bs.map f) m fun x hx => by
    obtain ⟨b, hb, rfl⟩ := List.mem_map.mp hx
    exact h b hb
  rwa [List.length_map, Nat.nsmul_eq_mul] at hle

end Tallies
