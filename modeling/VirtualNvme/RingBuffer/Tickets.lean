import VirtualNvme.RingBuffer.Walk

/-!
# Numbering what goes through a ring

A slot is used again on every lap, so "the command in slot `i`" says too little once
commands are to be told apart over a whole run. Number the submissions from 0: after `n` of
them, the command in slot `i` is the last one whose number is `i` modulo the capacity.
-/

namespace RingBuffer

variable {c i j : UInt32} {k n : Nat}

/-- The number of the last of `n` submissions that went into slot `i`, if any did. -/
def latest (c : UInt32) (n : Nat) (i : UInt32) : Option Nat :=
  if n ≤ i.toNat then none else some (n - 1 - (n - 1 - i.toNat) % c.toNat)

theorem latest_eq (hc : 0 < c) (hk : At c k i) (hlt : k < n) (hle : n ≤ k + c.toNat) :
    latest c n i = some k := by
  have h0 : 0 < c.toNat := hc
  have hi : i.toNat = k % c.toNat := hk
  have hdiv := Nat.div_add_mod k c.toNat
  have hik : i.toNat ≤ k := hi ▸ Nat.mod_le k c.toNat
  have hrest : (n - 1 - i.toNat) % c.toNat = n - 1 - k := by
    rw [show n - 1 - i.toNat = (n - 1 - k) + c.toNat * (k / c.toNat) by omega,
      Nat.add_mul_mod_self_left, Nat.mod_eq_of_lt (by omega)]
  rw [latest, if_neg (by omega), hrest]
  congr 1
  omega

/-- The slots from number `k` on hold the commands from number `k` on. -/
theorem slots_latest (hc : 0 < c) {m : Nat} (hi : At c k i) (hm : k + m ≤ n)
    (hle : n ≤ k + c.toNat) : (slots c i m).filterMap (latest c n) = List.range' k m := by
  induction m generalizing i k with
  | zero => rfl
  | succ m ih =>
      have hfirst := latest_eq hc hi (by omega) hle
      rw [slots, List.filterMap_cons_some hfirst, ih (hi.next hc) (by omega) (by omega),
        List.range'_succ]

/-- Two counts less than a lap apart are as far apart as their slots. -/
theorem At.dist_eq (hi : At c k i) (hj : At c n j) (hi' : i < c) (hj' : j < c) (hle : k ≤ n)
    (hlt : n < k + c.toNat) : dist c i j = n - k := by
  have hd := hi.add_dist hi' hj'
  have hdlt : dist c i j < c.toNat := dist_lt (pos_of_lt hi')
  rcases Nat.le_total (k + dist c i j) n with h | h
  · have := hd.count_eq hj h (by omega)
    omega
  · have := hj.count_eq hd h (by omega)
    omega

end RingBuffer
