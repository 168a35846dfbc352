import VirtualNvme.RingBuffer.Fifo

/-!
# What a producer may write

A producer that keeps to the rule writes to the slot at the tail and then moves the tail on. With
several producers that do not wait for each other, writes also go to other slots, and the tail is
moved on from where it once was. The ring still represents its queue after such a write exactly
if it changes nothing in a slot that is in use (`Holds.write_iff`), and after such a move exactly
if the tail is still where the producer saw it, there is room, and the slot holds what was to be
put in (`Holds.advance_iff`).
-/

namespace RingBuffer

variable {α : Type*} {c head tail : UInt32} {cell : UInt32 → α} {hist : List α}
  {taken : Nat}

/-- The slots between `head` and `tail`. -/
def InUse (c head tail i : UInt32) : Prop := dist c head i < dist c head tail

theorem not_inUse_tail : ¬ InUse c head tail tail := lt_irrefl _

theorem next_injOn {i j : UInt32} (hi : i < c) (hj : j < c) (h : next c i = next c j) : i = j := by
  have heq : (i.toNat + 1) % c.toNat = (j.toNat + 1) % c.toNat := by
    rw [← next_toNat hi, ← next_toNat hj, h]
  have hmod : i.toNat % c.toNat = j.toNat % c.toNat := Nat.ModEq.add_right_cancel' 1 heq
  have hi' : i.toNat < c.toNat := hi
  have hj' : j.toNat < c.toNat := hj
  rw [Nat.mod_eq_of_lt hi', Nat.mod_eq_of_lt hj'] at hmod
  exact UInt32.toNat_inj.mp hmod

namespace Holds

/-- The element of a slot in use. -/
theorem exists_inUse (h : Holds c cell head tail hist taken) {i : UInt32} (hi : i < c)
    (huse : InUse c head tail i) : ∃ k, At c k i ∧ taken ≤ k ∧ k < hist.length := by
  have huse' : dist c head i < hist.length - taken := by
    rw [h.pending_eq_dist]
    exact huse
  refine ⟨taken + dist c head i, h.head_at.add_dist h.head_lt hi, Nat.le_add_right _ _, ?_⟩
  omega

theorem inUse_of_lt (h : Holds c cell head tail hist taken) {k : Nat} {i : UInt32}
    (hi : At c k i) (hk : taken ≤ k) (hlt : k < hist.length) : InUse c head tail i := by
  have hic : i < c := hi.lt h.pos
  have hroom := h.room
  have hdist : At c (taken + dist c head i) i := h.head_at.add_dist h.head_lt hic
  have hshort : dist c head i < c.toNat := dist_lt h.pos
  -- both counts lead to `i` and lie within one lap of `taken`
  have heq : taken + dist c head i = k := by
    rcases Nat.le_total (taken + dist c head i) k with hle | hle
    · exact hdist.count_eq hi hle (by omega)
    · exact (hi.count_eq hdist hle (by omega)).symm
  show dist c head i < dist c head tail
  rw [← h.pending_eq_dist]
  omega

/-- A write to any slot. -/
theorem write_iff (h : Holds c cell head tail hist taken) {i : UInt32} (hi : i < c) (x : α) :
    Holds c (Function.update cell i x) head tail hist taken ↔
      (InUse c head tail i → cell i = x) := by
  constructor
  · intro h' huse
    obtain ⟨k, hk, hle, hlt⟩ := h.exists_inUse hi huse
    have hold := h.read hk hle hlt
    have hnew := h'.read hk hle hlt
    rw [hold, Function.update_self] at hnew
    exact Option.some_inj.mp hnew
  · intro hsame
    refine ⟨h.pos, h.head_at, h.tail_at, h.taken_le, h.room, fun k j y hk hj hy => ?_⟩
    have hlt : k < hist.length := (List.getElem?_eq_some_iff.mp hy).1
    rcases eq_or_ne j i with rfl | hne
    · rw [Function.update_self, ← hsame (h.inUse_of_lt hj hk hlt)]
      exact h.cell_eq k j y hk hj hy
    · rw [Function.update_of_ne hne]
      exact h.cell_eq k j y hk hj hy

/-- The tail is moved on from where it was seen. -/
theorem advance_iff (h : Holds c cell head tail hist taken) {t : UInt32} (ht : t < c) (x : α) :
    Holds c cell head (next c t) (hist ++ [x]) taken ↔
      t = tail ∧ next c tail ≠ head ∧ cell tail = x := by
  constructor
  · intro h'
    have hlen : (hist ++ [x]).length = hist.length + 1 := List.length_append
    have hnext : At c (hist.length + 1) (next c t) := hlen ▸ h'.tail_at
    have htail : t = tail := next_injOn ht h.tail_lt (hnext.unique (h.tail_at.next h.pos))
    refine ⟨htail, fun hfull => ?_, ?_⟩
    · have hroom := h'.room
      have hle := h.taken_le
      have hpending := h.next_tail_eq_head_iff.mp hfull
      have hpos : 0 < c.toNat := h.pos
      rw [hlen] at hroom
      omega
    · exact h'.cell_eq hist.length tail x h.taken_le h.tail_at List.getElem?_concat_length
  · rintro ⟨rfl, hfree, hcell⟩
    have hpush := h.push hfree x
    rwa [← hcell, Function.update_eq_self, hcell] at hpush

end Holds

end RingBuffer
