import Mathlib.Data.List.Perm.Basic
import Mathlib.Tactic.Common

/-!
# Compare-exchange loops

A cell that many threads combine with values of theirs: each reads the cell, stops if its value
would not change it, and otherwise tries to put its value there by a compare-exchange, again and
again until nobody has come in between. The operation picks one of its arguments, as a minimum
or a maximum does. Whatever the interleaving, the loop that ends has combined its value with the
cell at that very access (`attempt_cases`), and a loop fails only when others succeed
(`cost_attempt`, `cost_le`).
-/

namespace CasLoops

variable {α : Type*}

/-- Where a loop is: in front of its read, or in front of its compare-exchange. -/
inductive Attempt (α : Type*) where
  | read
  | swap (old : α)
  deriving Repr, DecidableEq

/-- One access of a loop with value `x`: the cell after it, and where the loop is then, unless
it has ended. -/
def attempt [DecidableEq α] (settled : α → α → Bool) (x cell : α) :
    Attempt α → α × Option (Attempt α)
  | .read => if settled x cell then (cell, none) else (cell, some (.swap cell))
  | .swap old => if cell = old then (x, none) else (cell, some .read)

/-- The loop stops early exactly where the operation picks the cell. -/
structure Combines (op : α → α → α) (settled : α → α → Bool) : Prop where
  keep : ∀ {x c}, settled x c = true → op c x = c
  take : ∀ {x c}, settled x c = false → op c x = x

/-- A loop goes for an exchange only with a value that did not stop it. -/
def Attempt.Valid (settled : α → α → Bool) (x : α) : Attempt α → Prop
  | .read => True
  | .swap old => settled x old = false

/-- The accesses a loop needs if nobody comes in between. -/
def Attempt.cost [DecidableEq α] (cell : α) : Attempt α → ℕ
  | .read => 2
  | .swap old => if cell = old then 1 else 3

section Attempts

variable [DecidableEq α] {op : α → α → α} {settled : α → α → Bool} {x cell : α} {a : Attempt α}

/-- An access ends the loop and combines its value with the cell, or it leaves the cell. -/
theorem attempt_cases (h : Combines op settled) (ha : a.Valid settled x) :
    attempt settled x cell a = (op cell x, none) ∨
      ∃ a', attempt settled x cell a = (cell, some a') ∧ a'.Valid settled x ∧
        a'.cost cell < a.cost cell := by
  cases a with
  | read =>
      rw [attempt]
      cases hsettled : settled x cell with
      | true => exact .inl (by rw [if_pos rfl, h.keep hsettled])
      | false =>
          refine .inr ⟨.swap cell, if_neg Bool.false_ne_true, hsettled, ?_⟩
          show (if cell = cell then 1 else 3) < 2
          rw [if_pos rfl]
          exact Nat.one_lt_two
  | swap old =>
      rw [attempt]
      split_ifs with hcell
      · subst hcell
        exact .inl (by rw [h.take ha])
      · refine .inr ⟨.read, rfl, trivial, ?_⟩
        show 2 < (if cell = old then 1 else 3)
        rw [if_neg hcell]
        exact Nat.lt_succ_self 2

theorem Attempt.cost_pos (a : Attempt α) (cell : α) : 0 < a.cost cell := by
  cases a with
  | read => exact Nat.two_pos
  | swap old =>
      show 0 < (if cell = old then 1 else 3)
      split_ifs
      · exact Nat.one_pos
      · exact Nat.succ_pos 2

/-- Another thread's success costs a loop two more accesses at most. -/
theorem Attempt.cost_le (a : Attempt α) (cell cell' : α) : a.cost cell' ≤ a.cost cell + 2 := by
  cases a with
  | read => exact Nat.le_add_right 2 2
  | swap old =>
      show (if cell' = old then 1 else 3) ≤ (if cell = old then 1 else 3) + 2
      split_ifs <;> decide

end Attempts

/-! ## What has been combined -/

section Fold

variable {op : α → α → α} [Std.Associative op] [Std.Commutative op] {e : α}

theorem foldl_cons_comm (x : α) (l : List α) : (x :: l).foldl op e = op (l.foldl op e) x := by
  have hcomm : ∀ a b, op a b = op b a := Std.Commutative.comm
  rw [List.foldl_cons, hcomm e x, List.foldl_assoc, hcomm]

/-- One entry that was neutral so far gets its value. -/
theorem foldl_set (he : op e e = e) {l : List α} {k : ℕ} (hk : k < l.length) (hold : l[k] = e)
    (x : α) : (l.set k x).foldl op e = op (l.foldl op e) x := by
  have hset : (l.set k x).foldl op e = ((x :: l.eraseIdx k).foldl op e) :=
    (List.set_perm_cons_eraseIdx hk x).foldl_op_eq
  have hl : l.foldl op e = ((l[k] :: l.eraseIdx k).foldl op e) :=
    (List.getElem_cons_eraseIdx_perm hk).symm.foldl_op_eq
  rw [hset, foldl_cons_comm, hl, hold, List.foldl_cons, he]

end Fold

end CasLoops
