import VirtualNvme.Runs
import VirtualNvme.WordBytes
import VirtualNvme.Driver.Bar0

/-!
# The read-only registers

CAP, VS, CSTS, CMBLOC and CMBSZ under the two write routines of BAR0. `VnvmeWriteBar0Register`
refuses a write that starts at one of their dwords; it does not see a write that starts elsewhere
and runs into one, and `VnvmeWriteBar0Register64` refuses nothing. Registers and writes are
compared byte by byte.
-/

namespace VirtualNvme

open Runs WordBytes

/-! ## Dwords -/

section Halves

variable (x : UInt64) (v : UInt32)

theorem toUInt32_setLow32 : (setLow32 x v).toUInt32 = v := by
  apply UInt32.eq_of_toBitVec_eq
  ext i hi
  simp [setLow32]

theorem toUInt32_setHigh32 : (setHigh32 x v).toUInt32 = x.toUInt32 := by
  apply UInt32.eq_of_toBitVec_eq
  ext i hi
  simp [setHigh32]
  interval_cases i <;> simp

theorem high_setLow32 : (setLow32 x v >>> 32).toUInt32 = (x >>> 32).toUInt32 := by
  apply UInt32.eq_of_toBitVec_eq
  ext i hi
  simp [setLow32]
  interval_cases i <;> simp

theorem high_setHigh32 : (setHigh32 x v >>> 32).toUInt32 = v := by
  apply UInt32.eq_of_toBitVec_eq
  ext i hi
  simp [setHigh32]
  interval_cases i <;> simp

end Halves

theorem eq_of_halves {x y : UInt64} (hlow : x.toUInt32 = y.toUInt32)
    (hhigh : (x >>> 32).toUInt32 = (y >>> 32).toUInt32) : x = y := by
  have hlow := congrArg UInt32.toNat hlow
  have hhigh := congrArg UInt32.toNat hhigh
  have h32 : (32 : UInt64).toNat % 64 = 32 := rfl
  rw [UInt64.toNat_toUInt32, UInt64.toNat_toUInt32] at hlow hhigh
  rw [UInt64.toNat_shiftRight, UInt64.toNat_shiftRight, h32, Nat.shiftRight_eq_div_pow,
    Nat.shiftRight_eq_div_pow] at hhigh
  have hx := x.toNat_lt
  have hy := y.toNat_lt
  exact UInt64.toNat_inj.mp (by omega)

theorem dword_setDword_self (regs : Bar0) (v : UInt32) (i : Nat) :
    (regs.setDword v i).dword i = v := by
  unfold Bar0.setDword
  split
  all_goals try simp only [Bar0.dword, toUInt32_setLow32, high_setHigh32]
  split
  · dsimp only
    rw [Function.update_self]
  · dsimp only
    rw [Function.update_self]

/-- Two doorbells, by the index of their dwords. -/
theorem doorbell_ne {i j : Nat} (hi : ¬ i < 1024) (hj : ¬ j < 1024) (h : j ≠ i) :
    j - 1024 ≠ i - 1024 := by
  omega

theorem dword_setDword_of_ne (regs : Bar0) (v : UInt32) {i j : Nat} (h : j ≠ i) :
    (regs.setDword v i).dword j = regs.dword j := by
  unfold Bar0.setDword
  split
  -- a register: the fields other than its own are as before
  all_goals try
    (simp only [Bar0.dword, high_setLow32, toUInt32_setHigh32]
     split <;> first | rfl | contradiction)
  split
  · unfold Bar0.dword
    split
    case h_16 =>
      dsimp only
      rw [Function.update_of_ne h]
    all_goals rfl
  · rename_i hi
    unfold Bar0.dword
    split
    case h_16 =>
      split
      · rfl
      · rename_i hj
        dsimp only
        rw [Function.update_of_ne (doorbell_ne hi hj h)]
    all_goals rfl

/-! ## Bytes -/

/-- The byte at an address of BAR0. -/
def Bar0.byte (regs : Bar0) (a : Nat) : UInt8 := byteOf (regs.dword (a / 4)) (a % 4)

/-- Byte `k` of a 64-bit value. -/
def byteOf64 (v : UInt64) (k : Nat) : UInt8 :=
  if k < 4 then byteOf v.toUInt32 k else byteOf (v >>> 32).toUInt32 (k - 4)

theorem byte_setDword (regs : Bar0) (v : UInt32) (i a : Nat) :
    (regs.setDword v i).byte a = if a / 4 = i then byteOf v (a % 4) else regs.byte a := by
  unfold Bar0.byte
  split_ifs with h
  · rw [h, dword_setDword_self]
  · rw [dword_setDword_of_ne _ _ h]

/-- A store of four bytes, aligned or not. -/
theorem byte_store32 (regs : Bar0) (offset : Nat) (v : UInt32) (a : Nat) :
    (regs.store32 offset v).byte a =
      if offset ≤ a ∧ a < offset + 4 then byteOf v (a - offset) else regs.byte a := by
  unfold Bar0.store32
  dsimp only
  by_cases haligned : offset % 4 = 0
  · rw [if_pos haligned, byte_setDword]
    have hin : a / 4 = offset / 4 ↔ offset ≤ a ∧ a < offset + 4 := by omega
    simp only [hin]
    split_ifs with h
    · congr 1
      omega
    · rfl
  · have hpos : 0 < offset % 4 := Nat.pos_of_ne_zero haligned
    have hlt : offset % 4 < 4 := Nat.mod_lt _ (by decide)
    have hk : a % 4 < 4 := Nat.mod_lt _ (by decide)
    rw [if_neg haligned, byte_setDword, byte_setDword]
    -- the value is spread over two dwords, of which the upper one is stored last
    by_cases hhigh : a / 4 = offset / 4 + 1
    · rw [if_pos hhigh]
      refine (byteOf_merge_high _ _ hpos hlt hk).trans ?_
      by_cases hbelow : a % 4 < offset % 4
      · rw [if_pos hbelow, if_pos (by omega)]
        congr 1
        omega
      · rw [if_neg hbelow, if_neg (by omega), Bar0.byte, hhigh]
    · rw [if_neg hhigh]
      by_cases hlow : a / 4 = offset / 4
      · rw [if_pos hlow]
        refine (byteOf_merge_low _ _ hpos hlt hk).trans ?_
        by_cases hbelow : a % 4 < offset % 4
        · rw [if_pos hbelow, if_neg (by omega), Bar0.byte, hlow]
        · rw [if_neg hbelow, if_pos (by omega)]
          congr 1
          omega
      · rw [if_neg hlow, if_neg (by omega)]

theorem byte_store64 (regs : Bar0) (offset : Nat) (v : UInt64) (a : Nat) :
    (regs.store64 offset v).byte a =
      if offset ≤ a ∧ a < offset + 8 then byteOf64 v (a - offset) else regs.byte a := by
  unfold Bar0.store64 byteOf64
  rw [byte_store32, byte_store32]
  by_cases hhigh : offset + 4 ≤ a ∧ a < offset + 4 + 4
  · rw [if_pos hhigh, if_pos (by omega), if_neg (by omega)]
    congr 1
  · rw [if_neg hhigh]
    by_cases hlow : offset ≤ a ∧ a < offset + 4
    · rw [if_pos hlow, if_pos (by omega), if_pos (by omega)]
    · rw [if_neg hlow, if_neg (by omega)]

/-! ## The registers and their bytes -/

/-- The registers that the host only reads. -/
structure ReadOnlyRegisters where
  cap : UInt64
  vs : UInt32
  csts : UInt32
  cmbloc : UInt32
  cmbsz : UInt32
  deriving DecidableEq

def Bar0.readOnly (regs : Bar0) : ReadOnlyRegisters where
  cap := regs.cap
  vs := regs.vs
  csts := regs.csts
  cmbloc := regs.cmbloc
  cmbsz := regs.cmbsz

/-- An address of a byte of CAP, VS, CSTS, CMBLOC or CMBSZ. -/
def IsReadOnly (a : Nat) : Prop := a / 4 ∈ [0, 1, 2, 7, 14, 15]

instance (a : Nat) : Decidable (IsReadOnly a) := inferInstanceAs (Decidable (_ ∈ _))

/-- The registers are the same exactly if all their bytes are. -/
theorem readOnly_eq_iff (regs regs' : Bar0) :
    regs.readOnly = regs'.readOnly ↔ ∀ a, IsReadOnly a → regs.byte a = regs'.byte a := by
  constructor
  · intro h a ha
    simp only [Bar0.readOnly, ReadOnlyRegisters.mk.injEq] at h
    obtain ⟨hcap, hvs, hcsts, hcmbloc, hcmbsz⟩ := h
    unfold IsReadOnly at ha
    unfold Bar0.byte
    simp only [List.mem_cons, List.not_mem_nil, or_false] at ha
    rcases ha with ha | ha | ha | ha | ha | ha <;>
      simp only [ha, Bar0.dword, hcap, hvs, hcsts, hcmbloc, hcmbsz]
  · intro h
    -- bytes to dwords, then dwords to registers; CAP is two of them
    have hdword (i : Nat) (hi : i ∈ [0, 1, 2, 7, 14, 15]) : regs.dword i = regs'.dword i := by
      apply ext_bytes
      intro k hk
      have hdiv : (4 * i + k) / 4 = i := by omega
      have hmod : (4 * i + k) % 4 = k := by omega
      have hbyte := h (4 * i + k) (by unfold IsReadOnly; rwa [hdiv])
      rwa [Bar0.byte, Bar0.byte, hdiv, hmod] at hbyte
    have hcap : regs.cap = regs'.cap := eq_of_halves (hdword 0 (by decide)) (hdword 1 (by decide))
    have hvs : regs.vs = regs'.vs := hdword 2 (by decide)
    have hcsts : regs.csts = regs'.csts := hdword 7 (by decide)
    have hcmbloc : regs.cmbloc = regs'.cmbloc := hdword 14 (by decide)
    have hcmbsz : regs.cmbsz = regs'.cmbsz := hdword 15 (by decide)
    rw [Bar0.readOnly, hcap, hvs, hcsts, hcmbloc, hcmbsz]
    rfl

/-! ## Writes -/

/-- A call of one of the two write routines. -/
inductive RegisterWrite where
  | write32 (offset value : UInt32)
  | write64 (offset : UInt32) (value : UInt64)
  deriving DecidableEq

def Bar0.apply (regs : Bar0) : RegisterWrite → Bar0
  | .write32 offset value => regs.write offset value
  | .write64 offset value => regs.write64 offset value

def registerWriteStep (p : PdoContext) : RegisterWrite → PdoContext
  | .write32 offset value => vnvmeWriteBar0Register p offset value
  | .write64 offset value => vnvmeWriteBar0Register64 p offset value

theorem registerWriteStep_bar0 (p : PdoContext) (w : RegisterWrite) :
    (registerWriteStep p w).bar0 = p.bar0.map (·.apply w) := by
  cases w <;> rfl

/-- The NVM Subsystem Reset, which clears CSTS. -/
def RegisterWrite.ResetsSubsystem (w : RegisterWrite) : Prop := w = .write32 0x20 nssrReset

instance (w : RegisterWrite) : Decidable w.ResetsSubsystem := inferInstanceAs (Decidable (_ = _))

/-- The offsets for which `VnvmeWriteBar0Register` has a case of its own. -/
def specialOffsets : List UInt32 :=
  [0x00, 0x04, 0x08, 0x0C, 0x10, 0x14, 0x1C, 0x20, 0x24, 0x38, 0x3C]

/-- The byte that a plain store of the value puts at address `a`, if it does. -/
def RegisterWrite.byteAt (a : Nat) : RegisterWrite → Option UInt8
  | .write32 offset value =>
    if offset < vnvmeBar0Size ∧ offset ∉ specialOffsets ∧
        offset.toNat ≤ a ∧ a < offset.toNat + 4 then
      some (byteOf value (a - offset.toNat))
    else none
  | .write64 offset value =>
    if offset + 8 ≤ vnvmeBar0Size ∧ offset.toNat ≤ a ∧ a < offset.toNat + 8 then
      some (byteOf64 value (a - offset.toNat))
    else none

/-- The write puts nothing into a read-only register but what is there. -/
def RegisterWrite.Harmless (regs : Bar0) (w : RegisterWrite) : Prop :=
  ∀ a, IsReadOnly a → ∀ b ∈ w.byteAt a, b = regs.byte a

/-- What the read-only registers may be after a write. -/
def ReadOnlyRegisters.after (r : ReadOnlyRegisters) (w : RegisterWrite) : ReadOnlyRegisters :=
  if w.ResetsSubsystem then { r with csts := 0 } else r

/-- A 32-bit write at one of the special offsets. -/
theorem write_special (regs : Bar0) {offset : UInt32} (value : UInt32)
    (hoffset : offset ∈ specialOffsets) :
    (regs.write offset value).readOnly = regs.readOnly.after (.write32 offset value) := by
  simp only [specialOffsets, List.mem_cons, List.not_mem_nil, or_false] at hoffset
  rcases hoffset with rfl | rfl | rfl | rfl | rfl | rfl | rfl | rfl | rfl | rfl | rfl
  case inr.inr.inr.inr.inr.inr.inr.inl =>
    -- NSSR: only the reset signature does anything
    by_cases hvalue : value = nssrReset
    · subst hvalue
      rfl
    · have hwrite : regs.write 0x20 value = regs := if_neg hvalue
      rw [hwrite, ReadOnlyRegisters.after, if_neg]
      unfold RegisterWrite.ResetsSubsystem
      simpa using hvalue
  all_goals
    rw [ReadOnlyRegisters.after, if_neg (by simp [RegisterWrite.ResetsSubsystem])]
    rfl

/-- A write that is no case of the switch is a store. -/
theorem apply_byte (regs : Bar0) (w : RegisterWrite)
    (hw : ∀ offset value, w = .write32 offset value → offset ∉ specialOffsets) (a : Nat) :
    (regs.apply w).byte a = (w.byteAt a).getD (regs.byte a) := by
  cases w with
  | write32 offset value =>
      have hspecial := hw offset value rfl
      have hnot := hspecial
      simp only [specialOffsets, List.mem_cons, List.not_mem_nil, or_false, not_or] at hnot
      simp only [Bar0.apply, Bar0.write, RegisterWrite.byteAt]
      by_cases hrange : offset ≥ vnvmeBar0Size
      · rw [if_pos hrange, if_neg (fun h => absurd hrange (UInt32.not_le.mpr h.1))]
        rfl
      · have hlt : offset < vnvmeBar0Size := UInt32.not_le.mp hrange
        -- none of the cases of the switch applies
        rw [if_neg hrange, if_neg (by simp [hnot]), if_neg hnot.2.2.2.1, if_neg hnot.2.2.2.2.1,
          if_neg hnot.2.2.2.2.2.1, if_neg hnot.2.2.2.2.2.2.2.1, if_neg hnot.2.2.2.2.2.2.2.2.1,
          byte_store32]
        simp only [hlt, hspecial, not_false_eq_true, true_and]
        split_ifs <;> rfl
  | write64 offset value =>
      simp only [Bar0.apply, Bar0.write64, RegisterWrite.byteAt]
      by_cases hrange : offset + 8 > vnvmeBar0Size
      · rw [if_pos hrange, if_neg (fun h => absurd hrange (UInt32.not_lt.mpr h.1))]
        rfl
      · have hle : offset + 8 ≤ vnvmeBar0Size := UInt32.not_lt.mp hrange
        rw [if_neg hrange, byte_store64]
        simp only [hle, true_and]
        split_ifs <;> rfl

/-- One write leaves the read-only registers as they may be exactly if it is harmless. -/
theorem apply_readOnly_iff (regs : Bar0) (w : RegisterWrite) :
    (regs.apply w).readOnly = regs.readOnly.after w ↔ w.Harmless regs := by
  by_cases hspecial : ∃ offset value, w = .write32 offset value ∧ offset ∈ specialOffsets
  · obtain ⟨offset, value, rfl, hoffset⟩ := hspecial
    refine iff_of_true (write_special regs value hoffset) fun a _ b hb => ?_
    rw [RegisterWrite.byteAt, if_neg (fun h => h.2.1 hoffset)] at hb
    cases hb
  · have hplain : ∀ offset value, w = .write32 offset value → offset ∉ specialOffsets :=
      fun offset value h hoffset => hspecial ⟨offset, value, h, hoffset⟩
    -- 0x20 is a special offset, so a plain write is no reset
    have hreset : ¬ w.ResetsSubsystem := fun h => hplain _ _ h (by decide)
    rw [ReadOnlyRegisters.after, if_neg hreset, readOnly_eq_iff]
    refine forall_congr' fun a => imp_congr_right fun _ => ?_
    rw [apply_byte regs w hplain]
    cases w.byteAt a with
    | none => simp
    | some b => simp

/-! ## Runs -/

/-- A controller beside the values that its read-only registers should have. -/
structure WatchedRegisters where
  pdo : PdoContext
  expected : Option ReadOnlyRegisters

/-- The read-only registers have the values that they should have. -/
def WatchedRegisters.Kept (s : WatchedRegisters) : Prop :=
  s.pdo.bar0.map Bar0.readOnly = s.expected

instance (s : WatchedRegisters) : Decidable s.Kept := inferInstanceAs (Decidable (_ = _))

/-- At the start they should have the values that they have. -/
def watchRegisters (p : PdoContext) : WatchedRegisters := ⟨p, p.bar0.map Bar0.readOnly⟩

def watchedWrite (s : WatchedRegisters) (w : RegisterWrite) : WatchedRegisters where
  pdo := registerWriteStep s.pdo w
  expected := s.expected.map (·.after w)

/-- The write puts nothing into a read-only register of this controller but what is there. -/
def HarmlessWrite (s : WatchedRegisters) (w : RegisterWrite) : Prop :=
  ∀ regs ∈ s.pdo.bar0, w.Harmless regs

theorem watchedWrite_kept_iff (s : WatchedRegisters) (w : RegisterWrite) (h : s.Kept) :
    (watchedWrite s w).Kept ↔ HarmlessWrite s w := by
  unfold WatchedRegisters.Kept at h
  unfold WatchedRegisters.Kept watchedWrite HarmlessWrite
  rw [registerWriteStep_bar0, ← h]
  cases s.pdo.bar0 with
  | none => simp
  | some regs =>
      have hiff := apply_readOnly_iff regs w
      simpa using hiff

/-- In a run of register writes the read-only registers keep their values, CSTS but for
subsystem resets, exactly if no write stores anything else into one of their bytes. -/
theorem readOnlyRegisters_kept_iff (p : PdoContext) (ws : List RegisterWrite) :
    Throughout watchedWrite WatchedRegisters.Kept (watchRegisters p) ws ↔
      EachStep watchedWrite HarmlessWrite (watchRegisters p) ws :=
  throughout_iff (fun _ h => h) (fun s w h => (watchedWrite_kept_iff s w h).mpr)
    (fun s w h hbad => mt (watchedWrite_kept_iff s w h).mp hbad)
    (show (watchRegisters p).Kept from rfl) ws

/-- A 64-bit write of zero at offset 0 clears CAP. -/
theorem write64_clears_cap :
    let p : PdoContext := {}
    ¬ Throughout watchedWrite WatchedRegisters.Kept (watchRegisters p) [.write64 0 0] := by
  intro p h
  have hkept := h [.write64 0 0] [] rfl
  exact absurd hkept (by decide)

end VirtualNvme
