import VirtualNvme.RingBuffer.Index

/-!
# A bounded ring as a queue with a history

The abstract queue is the list `hist` of everything ever put in together with the
number `taken` of elements that have left it. `Holds` says that a ring of `c` slots
with indices `head` and `tail` represents that queue. One slot always stays free:
`head = tail` is the empty ring, and a tail one slot behind the head is the full one.
-/

namespace RingBuffer

variable {α : Type*} {c head tail : UInt32} {cell : UInt32 → α} {hist : List α}
  {taken : Nat}

/-- The ring with contents `cell` between `head` and `tail` represents the queue that
has received `hist` and given away its first `taken` elements. -/
structure Holds (c : UInt32) (cell : UInt32 → α) (head tail : UInt32) (hist : List α)
    (taken : Nat) : Prop where
  pos : 0 < c
  head_at : At c taken head
  tail_at : At c hist.length tail
  taken_le : taken ≤ hist.length
  room : hist.length < taken + c.toNat
  cell_eq : ∀ k i x, taken ≤ k → At c k i → hist[k]? = some x → cell i = x

namespace Holds

theorem empty (hc : 0 < c) (cell : UInt32 → α) : Holds c cell 0 0 [] 0 where
  pos := hc
  head_at := At.zero c
  tail_at := At.zero c
  taken_le := Nat.le_refl 0
  room := by
    have h0 : 0 < c.toNat := hc
    simpa using h0
  cell_eq := by
    intro k i x _ _ hx
    simp at hx

theorem head_lt (h : Holds c cell head tail hist taken) : head < c :=
  h.head_at.lt h.pos

theorem tail_lt (h : Holds c cell head tail hist taken) : tail < c :=
  h.tail_at.lt h.pos

/-- The number of elements in the ring is read off the two indices. -/
theorem pending_eq_dist (h : Holds c cell head tail hist taken) :
    hist.length - taken = dist c head tail := by
  have hd : At c (taken + dist c head tail) tail := h.head_at.add_dist h.head_lt h.tail_lt
  have hlt : dist c head tail < c.toNat := dist_lt h.pos
  have hle := h.taken_le
  have hroom := h.room
  -- both step counts lead to `tail` and lie within one lap of `taken`
  rcases Nat.le_total hist.length (taken + dist c head tail) with hcase | hcase
  · have := h.tail_at.count_eq hd hcase (by omega)
    omega
  · have := hd.count_eq h.tail_at hcase (by omega)
    omega

theorem head_eq_tail_iff (h : Holds c cell head tail hist taken) :
    head = tail ↔ taken = hist.length := by
  rw [← dist_eq_zero h.head_lt h.tail_lt, ← h.pending_eq_dist]
  have := h.taken_le
  omega

/-- The producer sees a full ring exactly when all slots but one are in use. -/
theorem next_tail_eq_head_iff (h : Holds c cell head tail hist taken) :
    next c tail = head ↔ hist.length - taken = c.toNat - 1 := by
  have hpos : 0 < c.toNat := h.pos
  have hle := h.taken_le
  have hroom := h.room
  have hnext : At c (hist.length + 1) (next c tail) := h.tail_at.next h.pos
  constructor
  · intro heq
    rw [heq] at hnext
    -- `taken` and `hist.length + 1` meet on `head`, at most one lap apart
    have hmod : taken % c.toNat = (hist.length + 1) % c.toNat :=
      h.head_at.symm.trans hnext
    have hdvd : c.toNat ∣ hist.length + 1 - taken :=
      (Nat.modEq_iff_dvd' (by omega)).mp hmod
    have := Nat.le_of_dvd (by omega) hdvd
    omega
  · intro hfull
    have hhead : At c (hist.length + 1) head := by
      show head.toNat = (hist.length + 1) % c.toNat
      rw [show hist.length + 1 = taken + c.toNat by omega, Nat.add_mod_right]
      exact h.head_at
    exact hnext.unique hhead

/-! ## The two ends -/

/-- Any element still in the ring can be read through an index that has counted up
to it. -/
theorem read (h : Holds c cell head tail hist taken) {k : Nat} {i : UInt32}
    (hi : At c k i) (hk : taken ≤ k) (hlt : k < hist.length) :
    hist[k]? = some (cell i) := by
  have hget : hist[k]? = some hist[k] := List.getElem?_eq_getElem hlt
  rw [hget, h.cell_eq k i _ hk hi hget]

theorem push (h : Holds c cell head tail hist taken) (hfree : next c tail ≠ head) (x : α) :
    Holds c (Function.update cell tail x) head (next c tail) (hist ++ [x]) taken := by
  have hpos : 0 < c.toNat := h.pos
  have hroom := h.room
  have hle := h.taken_le
  have hnfull : hist.length - taken ≠ c.toNat - 1 :=
    fun hfull => hfree (h.next_tail_eq_head_iff.mpr hfull)
  refine ⟨h.pos, h.head_at, ?_, ?_, ?_, ?_⟩
  · rw [List.length_append, List.length_singleton]
    exact h.tail_at.next h.pos
  · rw [List.length_append, List.length_singleton]
    omega
  · rw [List.length_append, List.length_singleton]
    omega
  · intro k i y hk hi hy
    rcases Nat.lt_or_ge k hist.length with hlt | hge
    · -- an older element: its slot is not the one just written
      rw [List.getElem?_append_left hlt] at hy
      have hne : i ≠ tail := by
        rintro rfl
        have := hi.count_eq h.tail_at (by omega) (by omega)
        omega
      rw [Function.update_of_ne hne]
      exact h.cell_eq k i y hk hi hy
    · have hklt : k < (hist ++ [x]).length :=
        (List.getElem?_eq_some_iff.mp hy).1
      rw [List.length_append, List.length_singleton] at hklt
      obtain rfl : k = hist.length := by omega
      rw [List.getElem?_concat_length] at hy
      obtain rfl : i = tail := hi.unique h.tail_at
      rw [Function.update_self]
      exact Option.some.inj hy

/-- The slot at the tail is not in use yet. -/
theorem scribble (h : Holds c cell head tail hist taken) (x : α) :
    Holds c (Function.update cell tail x) head tail hist taken := by
  refine ⟨h.pos, h.head_at, h.tail_at, h.taken_le, h.room, fun k i y hk hi hy => ?_⟩
  have hlt : k < hist.length := (List.getElem?_eq_some_iff.mp hy).1
  have hroom := h.room
  have hne : i ≠ tail := by
    rintro rfl
    have := hi.count_eq h.tail_at (by omega) (by omega)
    omega
  rw [Function.update_of_ne hne]
  exact h.cell_eq k i y hk hi hy

/-- The consumer may move its index to any element it has counted up to. -/
theorem release (h : Holds c cell head tail hist taken) {k : Nat} {i : UInt32}
    (hi : At c k i) (hk : taken ≤ k) (hle : k ≤ hist.length) :
    Holds c cell i tail hist k := by
  have hroom := h.room
  refine ⟨h.pos, hi, h.tail_at, hle, by omega, ?_⟩
  intro l j x hl hj hx
  exact h.cell_eq l j x (by omega) hj hx

theorem pop (h : Holds c cell head tail hist taken) (hne : head ≠ tail) :
    hist[taken]? = some (cell head) ∧
      Holds c cell (next c head) tail hist (taken + 1) := by
  have hlt : taken < hist.length := by
    have := h.taken_le
    have : taken ≠ hist.length := fun heq => hne (h.head_eq_tail_iff.mpr heq)
    omega
  exact ⟨h.read h.head_at (Nat.le_refl _) hlt,
    h.release (h.head_at.next h.pos) (Nat.le_succ _) hlt⟩

end Holds

end RingBuffer
