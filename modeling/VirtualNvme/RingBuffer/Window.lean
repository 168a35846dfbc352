import VirtualNvme.RingBuffer.Walk

/-!
# Producers that do not look where the consumer is

A producer that writes without looking writes over an entry that has not been consumed as soon
as it gets a lap ahead. `Window` keeps the slots that have been written and not been consumed,
oldest first; they are the last ones behind the producer's index.
-/

namespace RingBuffer

/-- The elements of `ts` come after those of `us`, and each is different from all before it. -/
def AllNew {α : Type*} (us ts : List α) : Prop :=
  ∀ i j x, i < j → us.length ≤ j → (us ++ ts)[i]? = some x → (us ++ ts)[j]? ≠ some x

variable {c tail : UInt32} {us : List UInt32}

/-- `us` are the last slots behind `tail`. -/
def Window (c tail : UInt32) (us : List UInt32) : Prop :=
  ∃ s, s < c ∧ us = slots c s us.length ∧ (next c)^[us.length] s = tail

theorem Window.nil (h : tail < c) : Window c tail [] := ⟨tail, h, rfl, rfl⟩

theorem Window.tail_lt (h : Window c tail us) : tail < c := by
  obtain ⟨s, hs, _, rfl⟩ := h
  exact ((At.self hs).iterate (pos_of_lt hs) us.length).lt (pos_of_lt hs)

/-- The next `m` slots are written. -/
theorem Window.post (h : Window c tail us) (m : Nat) :
    Window c ((next c)^[m] tail) (us ++ slots c tail m) := by
  obtain ⟨s, hs, hus, rfl⟩ := h
  have hlen : (us ++ slots c ((next c)^[us.length] s) m).length = us.length + m := by
    rw [List.length_append, length_slots]
  refine ⟨s, hs, ?_, ?_⟩
  · rw [hlen, slots_append, ← hus]
  · rw [hlen, Nat.add_comm, Function.iterate_add_apply]

/-- The first `k` entries are consumed. -/
theorem Window.drop (h : Window c tail us) (k : Nat) : Window c tail (us.drop k) := by
  rcases Nat.le_total us.length k with hle | hle
  · rw [List.drop_eq_nil_of_le hle]
    exact Window.nil h.tail_lt
  · obtain ⟨s, hs, hus, rfl⟩ := h
    have hsplit : us.length = k + (us.length - k) := by omega
    refine ⟨(next c)^[k] s, ((At.self hs).iterate (pos_of_lt hs) k).lt (pos_of_lt hs), ?_, ?_⟩
    · rw [List.length_drop]
      conv_lhs => rw [hus, hsplit, slots_append]
      rw [List.drop_left' (length_slots c s k)]
    · rw [List.length_drop, ← Function.iterate_add_apply, Nat.sub_add_cancel hle]

/-- What is left once everything in front of slot `head` has been consumed. -/
def unconsumed (head : UInt32) (us : List UInt32) : List UInt32 := us.dropWhile (· ≠ head)

theorem Window.unconsumed (h : Window c tail us) (head : UInt32) :
    Window c tail (unconsumed head us) := by
  obtain ⟨k, hk⟩ : ∃ k, RingBuffer.unconsumed head us = us.drop k :=
    ⟨_, (List.suffix_iff_eq_drop.mp (List.dropWhile_suffix _))⟩
  rw [hk]
  exact h.drop k

/-- A producer writes over nothing exactly if there is room for what it writes. -/
theorem Window.allNew_iff (h : Window c tail us) (m : Nat) :
    AllNew us (slots c tail m) ↔ m = 0 ∨ us.length + m ≤ c.toNat := by
  obtain ⟨s, hs, hus, rfl⟩ := h
  have hc := pos_of_lt hs
  have hc' : 0 < c.toNat := hc
  have hall : us ++ slots c ((next c)^[us.length] s) m = slots c s (us.length + m) := by
    rw [slots_append, ← hus]
  rw [AllNew, hall]
  constructor
  · intro hnew
    by_contra hcon
    obtain ⟨hm, hlap⟩ := not_or.mp hcon
    -- a new entry that is a lap ahead of another one
    obtain ⟨j, hcj, husj, hjlt⟩ : ∃ j, c.toNat ≤ j ∧ us.length ≤ j ∧ j < us.length + m :=
      ⟨max c.toNat us.length, le_max_left _ _, le_max_right _ _, max_lt (by omega) (by omega)⟩
    have hj : j < (slots c s (us.length + m)).length := by
      rw [length_slots]
      exact hjlt
    have hi : j - c.toNat < (slots c s (us.length + m)).length := by omega
    have hlater := slots_at hc (At.self hs) (List.getElem?_eq_getElem hj)
    have hearlier := slots_at hc (At.self hs) (List.getElem?_eq_getElem hi)
    have hsame : (slots c s (us.length + m))[j - c.toNat] = (slots c s (us.length + m))[j] := by
      refine UInt32.toNat_inj.mp (hearlier.trans (Eq.trans ?_ hlater.symm))
      rw [show s.toNat + j = s.toNat + (j - c.toNat) + c.toNat by omega, Nat.add_mod_right]
    refine hnew (j - c.toNat) j _ (by omega) husj (List.getElem?_eq_getElem hi) ?_
    rw [hsame]
    exact List.getElem?_eq_getElem hj
  · rintro (rfl | hroom) i j x hij hj hxi hxj
    · have := (List.getElem?_eq_some_iff.mp hxj).1
      rw [length_slots] at this
      omega
    · have hlt := (List.getElem?_eq_some_iff.mp hxj).1
      rw [length_slots] at hlt
      have := (slots_at hc (At.self hs) hxi).count_eq (slots_at hc (At.self hs) hxj)
        (by omega) (by omega)
      omega

end RingBuffer
