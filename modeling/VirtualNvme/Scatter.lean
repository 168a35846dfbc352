import Mathlib.Data.List.Nodup
import Mathlib.Data.Set.Function
import Mathlib.Logic.Function.Basic

/-!
# Scattered writes

A memory is a function from addresses to values. Values are stored at a list of addresses, one
after another; where the addresses are distinct, each of them ends up with its own value, and
every other address keeps what it had. A copy that is cut into pieces is the copy of the pieces
put together (`cells_add`), so a loop over pieces is an induction over `scatter_append`.

An operation on a memory writes an address if there is a memory in which it changes it (`Writes`).
One that stores fixed values (`StoresAt`) writes exactly the addresses that it stores to.
-/

namespace Scatter

variable {α β : Type*}

/-- `n` addresses, each with a value. -/
def cells (addr : Nat → α) (v : Nat → β) (n : Nat) : List (α × β) :=
  (List.range n).map fun i => (addr i, v i)

theorem cells_add (addr : Nat → α) (v : Nat → β) (m n : Nat) :
    cells addr v (m + n) =
      cells addr v m ++ cells (fun i => addr (m + i)) (fun i => v (m + i)) n := by
  unfold cells
  rw [List.range_add, List.map_append, List.map_map]
  rfl

theorem cells_congr {addr addr' : Nat → α} {v v' : Nat → β} {n : Nat}
    (haddr : ∀ i, i < n → addr i = addr' i) (hv : ∀ i, i < n → v i = v' i) :
    cells addr v n = cells addr' v' n := by
  refine List.map_congr_left fun i hi => ?_
  have hlt := List.mem_range.mp hi
  rw [haddr i hlt, hv i hlt]

theorem map_cells {γ δ : Type*} (f : α × β → γ × δ) (addr : Nat → α) (v : Nat → β) (n : Nat) :
    (cells addr v n).map f =
      cells (fun i => (f (addr i, v i)).1) (fun i => (f (addr i, v i)).2) n := by
  unfold cells
  rw [List.map_map]
  rfl

variable [DecidableEq α]

/-- Store the values at the addresses, in this order. -/
def scatter (mem : α → β) (ps : List (α × β)) : α → β :=
  ps.foldl (fun mem p => Function.update mem p.1 p.2) mem

theorem scatter_append (mem : α → β) (ps qs : List (α × β)) :
    scatter mem (ps ++ qs) = scatter (scatter mem ps) qs :=
  List.foldl_append

theorem scatter_of_ne {mem : α → β} {ps : List (α × β)} {a : α} (h : ∀ p ∈ ps, p.1 ≠ a) :
    scatter mem ps a = mem a := by
  induction ps generalizing mem with
  | nil => rfl
  | cons p ps ih =>
      have hne : a ≠ p.1 := fun heq => h p List.mem_cons_self heq.symm
      have hrest : scatter (Function.update mem p.1 p.2) ps a = _ :=
        ih fun q hq => h q (List.mem_cons_of_mem p hq)
      exact hrest.trans (Function.update_of_ne hne p.2 mem)

theorem scatter_of_mem {mem : α → β} {ps : List (α × β)} (hnd : (ps.map Prod.fst).Nodup)
    {p : α × β} (hp : p ∈ ps) : scatter mem ps p.1 = p.2 := by
  induction ps generalizing mem with
  | nil => cases hp
  | cons q ps ih =>
      obtain ⟨hnotin, hnd'⟩ := List.nodup_cons.mp hnd
      rcases List.mem_cons.mp hp with rfl | hp'
      · have hne : ∀ r ∈ ps, r.1 ≠ p.1 := fun r hr heq =>
          hnotin (heq ▸ List.mem_map_of_mem hr)
        exact (scatter_of_ne hne).trans (Function.update_self p.1 p.2 mem)
      · exact ih hnd' hp'

section Cells

variable {mem : α → β} {addr : Nat → α} {v : Nat → β} {n : Nat}

theorem scatter_cells_of_ne {a : α} (h : ∀ i, i < n → addr i ≠ a) :
    scatter mem (cells addr v n) a = mem a := by
  refine scatter_of_ne fun p hp => ?_
  obtain ⟨i, hi, rfl⟩ := List.mem_map.mp hp
  exact h i (List.mem_range.mp hi)

theorem scatter_cells_of_lt (hinj : Set.InjOn addr {i | i < n}) {i : Nat} (hi : i < n) :
    scatter mem (cells addr v n) (addr i) = v i := by
  have hnd : ((cells addr v n).map Prod.fst).Nodup := by
    unfold cells
    rw [List.map_map]
    refine List.Nodup.map_on ?_ List.nodup_range
    intro j hj k hk heq
    exact hinj (List.mem_range.mp hj) (List.mem_range.mp hk) heq
  have hmem : (addr i, v i) ∈ cells addr v n := List.mem_map_of_mem (List.mem_range.mpr hi)
  exact scatter_of_mem hnd hmem

end Cells

/-! ## What an operation writes -/

section Writes

variable {α β : Type*} {f g : (α → β) → α → β} {p q : α → Prop}

/-- Some memory is changed at the address. -/
def Writes (f : (α → β) → α → β) (a : α) : Prop := ∃ mem, f mem a ≠ mem a

/-- The operation stores to the addresses in `p`, whatever was there before, and to no others. -/
structure StoresAt (f : (α → β) → α → β) (p : α → Prop) : Prop where
  stored : ∀ a, p a → ∀ mem mem', f mem a = f mem' a
  kept : ∀ a, ¬ p a → ∀ mem, f mem a = mem a

theorem StoresAt.writes_iff [Nontrivial β] (h : StoresAt f p) (a : α) : Writes f a ↔ p a := by
  constructor
  · rintro ⟨mem, hne⟩
    by_contra hp
    exact hne (h.kept a hp mem)
  · intro hp
    obtain ⟨v⟩ : Nonempty β := inferInstance
    -- a memory that does not have the stored value yet
    obtain ⟨w, hw⟩ := exists_ne (f (fun _ => v) a)
    refine ⟨fun _ => w, ?_⟩
    rw [h.stored a hp (fun _ => w) fun _ => v]
    exact hw.symm

theorem StoresAt.id : StoresAt (fun mem : α → β => mem) fun _ => False :=
  ⟨fun _ h => h.elim, fun _ _ _ => rfl⟩

theorem StoresAt.comp (hg : StoresAt g q) (hf : StoresAt f p) :
    StoresAt (fun mem => g (f mem)) fun a => p a ∨ q a := by
  refine ⟨fun a hpq mem mem' => ?_, fun a hpq mem => ?_⟩
  · by_cases hq : q a
    · exact hg.stored a hq _ _
    · rw [hg.kept a hq, hg.kept a hq]
      exact hf.stored a (hpq.resolve_right hq) _ _
  · obtain ⟨hp, hq⟩ := not_or.mp hpq
    rw [hg.kept a hq, hf.kept a hp]

theorem StoresAt.congr (h : StoresAt f p) (hpq : ∀ a, p a ↔ q a) : StoresAt f q :=
  ⟨fun a ha => h.stored a ((hpq a).mpr ha), fun a ha => h.kept a (mt (hpq a).mp ha)⟩

end Writes

end Scatter
