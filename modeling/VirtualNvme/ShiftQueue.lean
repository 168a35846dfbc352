import Mathlib.Data.List.Range
import Mathlib.Logic.Function.Basic

/-!
# An array that is used as a queue

The first cells of an array hold the elements of a queue, the oldest one in cell 0. An element
is added behind the others; the oldest one is removed by moving every other one a cell down.
-/

namespace ShiftQueue

variable {α : Type*}

/-- The elements in the first `n` cells. -/
def contents (cells : Nat → α) (n : Nat) : List α := (List.range n).map cells

/-- `for (i = 0; i < n; i++) cells[i] = cells[i + 1];` -/
def shiftDown (cells : Nat → α) (n : Nat) : Nat → α :=
  (List.range n).foldl (fun cells i => Function.update cells i (cells (i + 1))) cells

theorem length_contents (cells : Nat → α) (n : Nat) : (contents cells n).length = n := by
  rw [contents, List.length_map, List.length_range]

theorem contents_succ (cells : Nat → α) (n : Nat) :
    contents cells (n + 1) = contents cells n ++ [cells n] := by
  rw [contents, List.range_succ, List.map_append]
  rfl

theorem contents_congr {cells cells' : Nat → α} {n : Nat} (h : ∀ i, i < n → cells i = cells' i) :
    contents cells n = contents cells' n :=
  List.map_congr_left fun i hi => h i (List.mem_range.mp hi)

/-- The oldest element in front of the others. -/
theorem contents_eq_cons (cells : Nat → α) (n : Nat) :
    contents cells (n + 1) = cells 0 :: contents (fun i => cells (i + 1)) n := by
  rw [contents, List.range_succ_eq_map, List.map_cons, List.map_map]
  rfl

theorem contents_push (cells : Nat → α) (n : Nat) (x : α) :
    contents (Function.update cells n x) (n + 1) = contents cells n ++ [x] := by
  rw [contents_succ, Function.update_self]
  congr 1
  exact contents_congr fun i hi => Function.update_of_ne (Nat.ne_of_lt hi) x cells

/-- The loop goes upwards, so each cell is read before it is written. -/
theorem shiftDown_apply (cells : Nat → α) (n i : Nat) :
    shiftDown cells n i = if i < n then cells (i + 1) else cells i := by
  induction n generalizing i with
  | zero => rfl
  | succ n ih =>
      have hstep : shiftDown cells (n + 1) =
          Function.update (shiftDown cells n) n (shiftDown cells n (n + 1)) := by
        unfold shiftDown
        rw [List.range_succ, List.foldl_append]
        rfl
      rw [hstep]
      rcases eq_or_ne i n with rfl | hne
      · rw [Function.update_self, ih, if_neg (by omega), if_pos (Nat.lt_succ_self i)]
      · rw [Function.update_of_ne hne, ih]
        split_ifs with hlt hlt' hlt'
        · rfl
        · omega
        · omega
        · rfl

theorem contents_shiftDown (cells : Nat → α) (n : Nat) :
    cells 0 :: contents (shiftDown cells n) n = contents cells (n + 1) := by
  rw [contents_eq_cons]
  congr 1
  refine contents_congr fun i hi => ?_
  rw [shiftDown_apply, if_pos hi]

end ShiftQueue
