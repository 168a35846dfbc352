import Mathlib.Tactic.IntervalCases

/-!
# The bytes of a word

A 32-bit word as four bytes, the least significant first. A store that is not aligned to a word
goes to two words: into the high bytes of the first and into the low bytes of the second.
-/

namespace WordBytes

/-- Byte `k` of a word. -/
def byteOf (v : UInt32) (k : Nat) : UInt8 := (v >>> UInt32.ofNat (8 * k)).toUInt8

theorem byteOf_toNat (v : UInt32) {k : Nat} (hk : k < 4) :
    (byteOf v k).toNat = v.toNat / 2 ^ (8 * k) % 256 := by
  have hshift : (UInt32.ofNat (8 * k)).toNat % 32 = 8 * k := by
    rw [UInt32.toNat_ofNat_of_lt' (Nat.lt_of_lt_of_le (by omega : 8 * k < 32) (by decide))]
    exact Nat.mod_eq_of_lt (by omega)
  rw [byteOf, UInt32.toNat_toUInt8, UInt32.toNat_shiftRight, hshift, Nat.shiftRight_eq_div_pow]

/-- Words with the same bytes are the same. -/
theorem ext_bytes {v w : UInt32} (h : ∀ k, k < 4 → byteOf v k = byteOf w k) : v = w := by
  have hbyte (k : Nat) (hk : k < 4) :
      v.toNat / 2 ^ (8 * k) % 256 = w.toNat / 2 ^ (8 * k) % 256 := by
    rw [← byteOf_toNat v hk, ← byteOf_toNat w hk, h k hk]
  have h0 := hbyte 0 (by decide)
  have h1 := hbyte 1 (by decide)
  have h2 := hbyte 2 (by decide)
  have h3 := hbyte 3 (by decide)
  have hv := v.toNat_lt
  have hw := w.toNat_lt
  exact UInt32.toNat_inj.mp (by omega)

/-- The word that is made of four bytes. -/
def wordOf (b : Nat → UInt8) : UInt32 :=
  (b 0).toUInt32 ||| ((b 1).toUInt32 <<< 8) ||| ((b 2).toUInt32 <<< 16) |||
    ((b 3).toUInt32 <<< 24)

theorem byteOf_wordOf (b : Nat → UInt8) {k : Nat} (hk : k < 4) : byteOf (wordOf b) k = b k := by
  interval_cases k <;>
  · apply UInt8.eq_of_toBitVec_eq
    ext i hi
    simp [byteOf, wordOf]
    try (interval_cases i <;> simp)

section Merge

variable (x v : UInt32) {s k : Nat} (hpos : 0 < s) (hs : s < 4) (hk : k < 4)

/-- The lower `s` bytes of a word. -/
def lowMask (s : Nat) : UInt32 := (1 <<< UInt32.ofNat (8 * s)) - 1

include hpos hs hk

/-- `v` over the bytes of `x` from byte `s` on. -/
theorem byteOf_merge_low :
    byteOf ((x &&& lowMask s) ||| (v <<< UInt32.ofNat (8 * s))) k =
      if k < s then byteOf x k else byteOf v (k - s) := by
  -- bit by bit, for each of the twelve pairs of byte and shift
  interval_cases s <;> interval_cases k <;>
  · apply UInt8.eq_of_toBitVec_eq
    ext i hi
    simp [byteOf, lowMask]
    try (interval_cases i <;> simp)

/-- The bytes of `v` that are left over go below byte `s` of `x`. -/
theorem byteOf_merge_high :
    byteOf ((x &&& ~~~ lowMask s) ||| (v >>> (32 - UInt32.ofNat (8 * s)))) k =
      if k < s then byteOf v (k + (4 - s)) else byteOf x k := by
  interval_cases s <;> interval_cases k <;>
  · apply UInt8.eq_of_toBitVec_eq
    ext i hi
    simp [byteOf, lowMask]
    try (interval_cases i <;> simp)

end Merge

end WordBytes
