import VirtualNvme.Driver.RegisterAccess
import VirtualNvme.Verification.ReadOnlyRegisters

/-!
# Accesses behind the end of a register space

Six routines read and write BAR0 and the configuration space, each with a check of its own. The
32-bit routines of BAR0 compare where the access starts; the others compare where it ends, but
compute the end in 32 bits.
-/

namespace VirtualNvme

open ByteSpace WordBytes

/-! ## The routines on bytes and on registers -/

section Bytes

variable {m : Mem} {regs : Bar0}

theorem wordOf_load (h : m.byte = regs.byte) (i : Nat) :
    wordOf (fun k => m.byte (4 * i + k)) = regs.dword i := by
  apply ext_bytes
  intro k hk
  have hdiv : (4 * i + k) / 4 = i := by omega
  have hmod : (4 * i + k) % 4 = k := by omega
  rw [byteOf_wordOf _ hk, h, Bar0.byte, hdiv, hmod]

/-- A store to a dword. -/
theorem store32_byte (h : m.byte = regs.byte) (i : Nat) (value : UInt32) :
    ((ByteSpace.store32 (4 * i) value).run m).2.byte = (regs.setDword value i).byte := by
  funext a
  rw [byte_setDword]
  show (if 4 * i ≤ a ∧ a < 4 * i + 4 then byteOf value (a - 4 * i) else m.byte a) = _
  have hin : 4 * i ≤ a ∧ a < 4 * i + 4 ↔ a / 4 = i := by omega
  simp only [hin, h]
  split_ifs with hi
  · congr 1
    omega
  · rfl

theorem vnvmeWriteBar0Register_byte (h : m.byte = regs.byte) (offset value : UInt32) :
    ((Traced.vnvmeWriteBar0Register true offset value).run m).2.byte =
      (regs.write offset value).byte := by
  unfold Traced.vnvmeWriteBar0Register Bar0.write
  simp only [Bool.not_true, Bool.false_or, decide_eq_true_eq]
  split_ifs with hrange hreadOnly hintms hintmc hcc hnssr hreset haqa
  · exact h
  · exact h
  · show ((ByteSpace.store32 (4 * 3) (wordOf (fun k => m.byte (4 * 3 + k)) ||| value)).run
      (m.access 0x0C 4)).2.byte = _
    rw [wordOf_load h 3]
    exact store32_byte (m := m.access 0x0C 4) h 3 _
  · show ((ByteSpace.store32 (4 * 3) (wordOf (fun k => m.byte (4 * 3 + k)) &&& ~~~value)).run
      (m.access 0x0C 4)).2.byte = _
    rw [wordOf_load h 3]
    exact store32_byte (m := m.access 0x0C 4) h 3 _
  · exact store32_byte (m := m.access 0x14 4) h 5 value
  · have hcsts := store32_byte h 7 0
    exact store32_byte (m := ((ByteSpace.store32 0x1C 0).run m).2) hcsts 5 0
  · exact h
  · exact store32_byte h 9 value
  · funext a
    rw [byte_store32, ← h]
    rfl

theorem vnvmeWriteBar0Register64_byte (h : m.byte = regs.byte) (offset : UInt32)
    (value : UInt64) :
    ((Traced.vnvmeWriteBar0Register64 true offset value).run m).2.byte =
      (regs.write64 offset value).byte := by
  unfold Traced.vnvmeWriteBar0Register64 Bar0.write64
  simp only [Bool.not_true, Bool.false_or, decide_eq_true_eq]
  split_ifs with hrange
  · exact h
  · funext a
    rw [byte_store64, ← h]
    rfl

theorem vnvmeReadBar0Register_value (h : m.byte = regs.byte) {i : Nat} (hi : i < 0x4000) :
    ((Traced.vnvmeReadBar0Register true (UInt32.ofNat (4 * i))).run m).1 = regs.dword i := by
  have hnat : (UInt32.ofNat (4 * i)).toNat = 4 * i :=
    UInt32.toNat_ofNat_of_lt' (show 4 * i < 2 ^ 32 by omega)
  have hin : ¬ UInt32.ofNat (4 * i) ≥ vnvmeBar0Size := by
    rw [ge_iff_le, UInt32.le_iff_toNat_le, hnat]
    exact Nat.not_le.mpr (show 4 * i < 0x10000 by omega)
  unfold Traced.vnvmeReadBar0Register
  rw [decide_eq_false hin, hnat]
  exact wordOf_load h i

end Bytes

section Config

variable {m : Mem} {config : UInt32 → UInt8}

/-- The memory has the bytes of the configuration space. -/
def SameConfig (m : Mem) (config : UInt32 → UInt8) : Prop := ∀ i : UInt32, m.byte i.toNat = config i

theorem store16_config (h : SameConfig m config) (offset : UInt32) (value : UInt16) :
    SameConfig ((Traced.store16 offset.toNat value).run m).2
      (putBytes config offset (le16 value)) := by
  intro i
  show (if offset.toNat ≤ i.toNat ∧ i.toNat < offset.toNat + 2 then _ else m.byte i.toNat) = _
  have hin : (offset.toNat ≤ i.toNat ∧ i.toNat < offset.toNat + 2) ↔
      (offset ≤ i ∧ (i - offset).toNat < (le16 value).length) := by
    refine and_congr_right fun hle => ?_
    rw [UInt32.toNat_sub_of_le _ _ hle]
    show _ ↔ i.toNat - offset.toNat < 2
    omega
  rw [putBytes]
  simp only [hin, h i]
  split_ifs with hi
  · rw [UInt32.toNat_sub_of_le _ _ hi.1]
  · rfl

theorem writeConfig_config (h : SameConfig m config) (offset length : UInt32)
    (buffer : UInt32 → UInt8) :
    SameConfig ((Traced.writeConfig offset length buffer).run m).2
      (writeConfig config offset length buffer) := by
  unfold Traced.writeConfig writeConfig
  dsimp only
  split_ifs with hcommand hpm hstate hmsix hmsi hreadOnly
  · exact store16_config h offset _
  · exact store16_config h offset _
  · exact h
  · obtain ⟨rfl, -⟩ := hmsix
    have hlow : m.byte 0x62 = config 0x62 := h 0x62
    have hhigh : m.byte 0x63 = config (0x62 + 1) := h 0x63
    show SameConfig ((Traced.store16 0x62 ((readUshort buffer 0 &&& (0xC000 : UInt16)) |||
      (((m.byte 0x62).toUInt16 ||| ((m.byte 0x63).toUInt16 <<< 8)) &&& (0x07FF : UInt16)))).run
        (m.access 0x62 2)).2 _
    rw [hlow, hhigh]
    exact store16_config (m := m.access 0x62 2) h 0x62 _
  · exact store16_config h offset _
  · exact h
  · intro i
    show (if offset.toNat ≤ i.toNat ∧ i.toNat < offset.toNat + length.toNat then
      buffer (UInt32.ofNat (i.toNat - offset.toNat)) else m.byte i.toNat) = _
    have hin : (offset.toNat ≤ i.toNat ∧ i.toNat < offset.toNat + length.toNat) ↔
        (offset ≤ i ∧ i - offset < length) := by
      refine and_congr_right fun hle => ?_
      rw [UInt32.lt_iff_toNat_lt, UInt32.toNat_sub_of_le _ _ hle]
      omega
    simp only [copyConfig, hin, h i]
    split_ifs with hi
    · rw [← UInt32.toNat_sub_of_le _ _ hi.1, UInt32.ofNat_toNat]
    · rfl

/-- The routine as a whole, on a configuration space that has been allocated. -/
theorem vnvmeWritePcieConfig_config {p : PcieContext} (hconfig : p.pcieConfig = some config)
    (hsize : p.pcieConfigSize = vnvmePcieConfigSize) (h : SameConfig m config)
    (offset length : UInt32) (buffer : UInt32 → UInt8) :
    let r := (Traced.vnvmeWritePcieConfig true offset length buffer).run m
    (vnvmeWritePcieConfig p offset length buffer).1 = r.1 ∧
      ∃ config', (vnvmeWritePcieConfig p offset length buffer).2.pcieConfig = some config' ∧
        SameConfig r.2 config' := by
  unfold Traced.vnvmeWritePcieConfig vnvmeWritePcieConfig
  simp only [Bool.not_true, Bool.false_eq_true, if_false, hconfig, hsize]
  split_ifs with hrange
  · exact ⟨rfl, config, hconfig, h⟩
  · exact ⟨rfl, _, rfl, writeConfig_config h offset length buffer⟩

end Config

/-! ## Calls -/

/-- A call of one of the six routines. -/
inductive SpaceCall where
  | readBar0 (offset : UInt32)
  | writeBar0 (offset value : UInt32)
  | readBar064 (offset : UInt32)
  | writeBar064 (offset : UInt32) (value : UInt64)
  | readConfig (offset length : UInt32)
  | writeConfig (offset length : UInt32) (buffer : UInt32 → UInt8)

def SpaceCall.run (allocated : Bool) (m : Mem) : SpaceCall → Mem
  | .readBar0 offset => ((Traced.vnvmeReadBar0Register allocated offset).run m).2
  | .writeBar0 offset value => ((Traced.vnvmeWriteBar0Register allocated offset value).run m).2
  | .readBar064 offset => ((Traced.vnvmeReadBar0Register64 allocated offset).run m).2
  | .writeBar064 offset value =>
    ((Traced.vnvmeWriteBar0Register64 allocated offset value).run m).2
  | .readConfig offset length => ((Traced.vnvmeReadPcieConfig allocated offset length).run m).2
  | .writeConfig offset length buffer =>
    ((Traced.vnvmeWritePcieConfig allocated offset length buffer).run m).2

/-- What the call accesses in a space with these bytes. -/
def SpaceCall.accesses (call : SpaceCall) (allocated : Bool) (byte : Nat → UInt8) : List Access :=
  (call.run allocated { byte := byte }).accesses

/-- The size of the space that the call is for. -/
def SpaceCall.size : SpaceCall → Nat
  | .readConfig _ _ | .writeConfig _ _ _ => vnvmePcieConfigSize.toNat
  | _ => vnvmeBar0Size.toNat

/-- `Offset` and the size of the access, or `Length`, over the natural numbers. -/
def SpaceCall.end : SpaceCall → Nat
  | .readBar0 offset | .writeBar0 offset _ => offset.toNat + 4
  | .readBar064 offset | .writeBar064 offset _ => offset.toNat + 8
  | .readConfig offset length | .writeConfig offset length _ => offset.toNat + length.toNat

/-- All bytes that the call accesses lie inside its space. -/
def SpaceCall.StaysInside (call : SpaceCall) (allocated : Bool) : Prop :=
  ∀ byte, StaysIn call.size (call.accesses allocated byte)

/-- If the call accesses its space at all, the range that it is asked for lies inside. -/
def SpaceCall.RangeInside (call : SpaceCall) (allocated : Bool) : Prop :=
  ∀ byte, call.accesses allocated byte ≠ [] → call.end ≤ call.size

/-- The check of the call is right about its range: it starts behind the space in the 32-bit
routines of BAR0, or its end does not wrap to one in the space. -/
def SpaceCall.Checked : SpaceCall → Prop
  | .readBar0 offset | .writeBar0 offset _ =>
    offset.toNat + 4 ≤ 0x10000 ∨ 0x10000 ≤ offset.toNat
  | .readBar064 offset | .writeBar064 offset _ => offset.toNat + 8 < 2 ^ 32
  | .readConfig offset length | .writeConfig offset length _ =>
    offset.toNat + length.toNat < 2 ^ 32 ∨ 2 ^ 32 + 4096 < offset.toNat + length.toNat

/-- A write to a register of the configuration space that has a case of its own: it changes two
bytes at most. -/
def SpaceCall.ShortConfig : SpaceCall → Prop
  | .writeConfig offset length _ =>
    offset ∈ [pciCommand, 0x44, 0x62, 0x52] ∧ length ≥ 2 ∨ offset ∈ readOnlyOffsets
  | _ => False

/-- A write that changes nothing: to a read-only register, or of a power state other than the two
that there are. -/
def SpaceCall.NoConfig : SpaceCall → Prop
  | .writeConfig offset length buffer => offset ∈ readOnlyOffsets ∨
    offset = 0x44 ∧ length ≥ 2 ∧
      ¬ (readUshort buffer 0 &&& 0x03 = 0 ∨ readUshort buffer 0 &&& 0x03 = 3)
  | _ => False

/-! ## Bounds -/

section Bounds

variable {allocated : Bool}

/-- A call that makes one access, of its range, if its check passes. -/
structure PlainCall (call : SpaceCall) (allocated : Bool) (passes : Prop) (offset size : Nat) :
    Prop where
  range : call.end = offset + size
  passed : passes → ∀ byte, call.accesses allocated byte = [⟨offset, size⟩]
  refused : ¬ passes → ∀ byte, call.accesses allocated byte = []

theorem PlainCall.inside_iff {call : SpaceCall} {passes : Prop} {offset size : Nat}
    (h : PlainCall call allocated passes offset size) :
    (call.StaysInside allocated ↔ (passes → call.end ≤ call.size)) ∧
      (call.RangeInside allocated ↔ (passes → call.end ≤ call.size)) := by
  by_cases hpasses : passes
  · have haccess := h.passed hpasses
    refine ⟨⟨fun hin _ => ?_, fun hle byte => ?_⟩, ⟨fun hin _ => ?_, fun hle byte _ => ?_⟩⟩
    · have hin := hin fun _ => 0
      rwa [haccess, staysIn_singleton, ← h.range] at hin
    · rw [haccess, staysIn_singleton, ← h.range]
      exact hle hpasses
    · refine hin (fun _ => 0) ?_
      rw [haccess]
      exact List.cons_ne_nil _ _
    · exact hle hpasses
  · have hnone := h.refused hpasses
    refine ⟨iff_of_true (fun byte => ?_) (absurd · hpasses),
      iff_of_true (fun byte hne => absurd (hnone byte) hne) (absurd · hpasses)⟩
    rw [hnone]
    exact StaysIn.nil _

/-- The 32-bit check of BAR0. -/
theorem bar0_check_iff (allocated : Bool) (offset : UInt32) :
    ((allocated = true ∧ ¬ offset ≥ vnvmeBar0Size) → offset.toNat + 4 ≤ vnvmeBar0Size.toNat) ↔
      (allocated = true → offset.toNat + 4 ≤ 0x10000 ∨ 0x10000 ≤ offset.toNat) := by
  rw [and_imp]
  refine forall_congr' fun _ => ?_
  rw [ge_iff_le, UInt32.le_iff_toNat_le]
  show (¬ 0x10000 ≤ offset.toNat → offset.toNat + 4 ≤ 0x10000) ↔ _
  omega

/-- The 64-bit check of BAR0. -/
theorem bar064_check_iff (allocated : Bool) (offset : UInt32) :
    ((allocated = true ∧ ¬ offset + 8 > vnvmeBar0Size) →
        offset.toNat + 8 ≤ vnvmeBar0Size.toNat) ↔
      (allocated = true → offset.toNat + 8 < 2 ^ 32) := by
  have hlt := offset.toNat_lt
  rw [and_imp]
  refine forall_congr' fun _ => ?_
  rw [gt_iff_lt, UInt32.lt_iff_toNat_lt, UInt32.toNat_add]
  show (¬ 0x10000 < (offset.toNat + 8) % 2 ^ 32 → offset.toNat + 8 ≤ 0x10000) ↔ _
  omega

/-- The check of the configuration space. -/
theorem config_check_iff (allocated : Bool) (offset length : UInt32) :
    ((allocated = true ∧ ¬ offset + length > vnvmePcieConfigSize) →
        offset.toNat + length.toNat ≤ vnvmePcieConfigSize.toNat) ↔
      (allocated = true → offset.toNat + length.toNat < 2 ^ 32 ∨
        2 ^ 32 + 4096 < offset.toNat + length.toNat) := by
  have hlt := offset.toNat_lt
  have hlt' := length.toNat_lt
  rw [and_imp]
  refine forall_congr' fun _ => ?_
  rw [gt_iff_lt, UInt32.lt_iff_toNat_lt, UInt32.toNat_add]
  show (¬ 4096 < (offset.toNat + length.toNat) % 2 ^ 32 →
    offset.toNat + length.toNat ≤ 4096) ↔ _
  omega

theorem check_passed {out : Prop} [Decidable out] (h : allocated = true ∧ ¬ out) :
    (!allocated || decide out) = false := by
  rw [h.1, decide_eq_false h.2]
  rfl

theorem check_refused {out : Prop} [Decidable out] (h : ¬ (allocated = true ∧ ¬ out)) :
    (!allocated || decide out) = true := by
  by_cases hallocated : allocated = true
  · rw [decide_eq_true (not_not.mp fun hout => h ⟨hallocated, hout⟩), Bool.or_true]
  · rw [Bool.eq_false_iff.mpr hallocated]
    rfl

/-- A routine that checks and then makes its access. -/
theorem PlainCall.of_check {call : SpaceCall} {offset size : Nat} {out : Prop} [Decidable out]
    (hrange : call.end = offset + size)
    (haccesses : ∀ byte, call.accesses allocated byte =
      if !allocated || decide out then [] else [⟨offset, size⟩]) :
    PlainCall call allocated (allocated = true ∧ ¬ out) offset size := by
  refine ⟨hrange, fun h byte => ?_, fun h byte => ?_⟩
  · rw [haccesses, check_passed h]
    rfl
  · rw [haccesses, check_refused h]
    rfl

theorem readBar0_plain (offset : UInt32) :
    PlainCall (.readBar0 offset) allocated (allocated = true ∧ ¬ offset ≥ vnvmeBar0Size)
      offset.toNat 4 := by
  refine .of_check rfl fun byte => ?_
  show ((Traced.vnvmeReadBar0Register allocated offset).run _).2.accesses = _
  unfold Traced.vnvmeReadBar0Register
  split <;> rfl

theorem readBar064_plain (offset : UInt32) :
    PlainCall (.readBar064 offset) allocated (allocated = true ∧ ¬ offset + 8 > vnvmeBar0Size)
      offset.toNat 8 := by
  refine .of_check rfl fun byte => ?_
  show ((Traced.vnvmeReadBar0Register64 allocated offset).run _).2.accesses = _
  unfold Traced.vnvmeReadBar0Register64
  split <;> rfl

theorem writeBar064_plain (offset : UInt32) (value : UInt64) :
    PlainCall (.writeBar064 offset value) allocated
      (allocated = true ∧ ¬ offset + 8 > vnvmeBar0Size) offset.toNat 8 := by
  refine .of_check rfl fun byte => ?_
  show ((Traced.vnvmeWriteBar0Register64 allocated offset value).run _).2.accesses = _
  unfold Traced.vnvmeWriteBar0Register64
  split <;> rfl

theorem writeBar0_plain {offset : UInt32} (hoffset : offset ∉ specialOffsets) (value : UInt32) :
    PlainCall (.writeBar0 offset value) allocated (allocated = true ∧ ¬ offset ≥ vnvmeBar0Size)
      offset.toNat 4 := by
  simp only [specialOffsets, List.mem_cons, List.not_mem_nil, or_false, not_or] at hoffset
  refine .of_check rfl fun byte => ?_
  show ((Traced.vnvmeWriteBar0Register allocated offset value).run _).2.accesses = _
  unfold Traced.vnvmeWriteBar0Register
  split
  · rfl
  · -- none of the cases of the switch applies
    simp only [List.mem_cons, List.not_mem_nil, hoffset, or_self, if_false]
    rfl

theorem readConfig_plain (offset length : UInt32) :
    PlainCall (.readConfig offset length) allocated
      (allocated = true ∧ ¬ offset + length > vnvmePcieConfigSize) offset.toNat length.toNat := by
  refine ⟨rfl, fun h byte => ?_, fun h byte => ?_⟩
  all_goals show ((Traced.vnvmeReadPcieConfig allocated offset length).run _).2.accesses = _
  · rw [Traced.vnvmeReadPcieConfig, h.1, if_neg h.2]
    rfl
  · cases allocated with
    | false => rfl
    | true =>
        rw [Traced.vnvmeReadPcieConfig, if_pos (not_not.mp fun hout => h ⟨rfl, hout⟩)]
        rfl

/-- The cases of the switch stay among the registers. -/
theorem writeBar0_special {offset : UInt32} (hoffset : offset ∈ specialOffsets) (value : UInt32)
    (byte : Nat → UInt8) :
    StaysIn 0x40 ((SpaceCall.writeBar0 offset value).accesses allocated byte) := by
  show StaysIn 0x40 ((Traced.vnvmeWriteBar0Register allocated offset value).run _).2.accesses
  cases allocated with
  | false => exact StaysIn.nil _
  | true =>
      simp only [specialOffsets, List.mem_cons, List.not_mem_nil, or_false] at hoffset
      rcases hoffset with rfl | rfl | rfl | rfl | rfl | rfl | rfl | rfl | rfl | rfl | rfl
      case inr.inr.inr.inr.inr.inr.inr.inl =>
        by_cases hvalue : value = nssrReset
        · subst hvalue
          show StaysIn 0x40 [⟨0x1C, 4⟩, ⟨0x14, 4⟩]
          exact staysIn_pair.mpr (by decide)
        · have hnone : Traced.vnvmeWriteBar0Register true 0x20 value = pure () := if_neg hvalue
          rw [hnone]
          exact StaysIn.nil _
      case inr.inr.inr.inl =>
        show StaysIn 0x40 [⟨0x0C, 4⟩, ⟨0x0C, 4⟩]
        exact staysIn_pair.mpr (by decide)
      case inr.inr.inr.inr.inl =>
        show StaysIn 0x40 [⟨0x0C, 4⟩, ⟨0x0C, 4⟩]
        exact staysIn_pair.mpr (by decide)
      case inr.inr.inr.inr.inr.inl =>
        show StaysIn 0x40 [⟨0x14, 4⟩, ⟨0x14, 4⟩]
        exact staysIn_pair.mpr (by decide)
      case inr.inr.inr.inr.inr.inr.inr.inr.inl =>
        show StaysIn 0x40 [⟨0x24, 4⟩]
        exact staysIn_singleton.mpr (by decide)
      all_goals exact StaysIn.nil _

section WriteConfig

variable {offset length : UInt32} {buffer : UInt32 → UInt8}

theorem writeConfig_refused (buffer : UInt32 → UInt8)
    (h : ¬ (allocated = true ∧ ¬ offset + length > vnvmePcieConfigSize)) (byte : Nat → UInt8) :
    (SpaceCall.writeConfig offset length buffer).accesses allocated byte = [] := by
  show ((Traced.vnvmeWritePcieConfig allocated offset length buffer).run _).2.accesses = _
  cases allocated with
  | false => rfl
  | true =>
      rw [Traced.vnvmeWritePcieConfig, if_pos (not_not.mp fun hout => h ⟨rfl, hout⟩)]
      rfl

theorem writeConfig_passed (buffer : UInt32 → UInt8)
    (h : allocated = true ∧ ¬ offset + length > vnvmePcieConfigSize) (byte : Nat → UInt8) :
    (SpaceCall.writeConfig offset length buffer).accesses allocated byte =
      ((Traced.writeConfig offset length buffer).run { byte := byte }).2.accesses := by
  show ((Traced.vnvmeWritePcieConfig allocated offset length buffer).run _).2.accesses = _
  rw [Traced.vnvmeWritePcieConfig, h.1, if_neg h.2]
  rfl

/-- The writes to a register that has a case of its own. -/
theorem writeConfig_command (hlen : length ≥ 2) :
    Traced.writeConfig pciCommand length buffer =
      Traced.store16 0x04 (readUshort buffer 0 &&& 0x0547) :=
  if_pos ⟨rfl, hlen⟩

theorem writeConfig_pm (hlen : length ≥ 2) :
    Traced.writeConfig 0x44 length buffer =
      if readUshort buffer 0 &&& 0x03 = 0 ∨ readUshort buffer 0 &&& 0x03 = 3 then
        Traced.store16 0x44 (readUshort buffer 0 &&& 0x8103)
      else pure () :=
  if_pos ⟨rfl, hlen⟩

theorem writeConfig_msix (hlen : length ≥ 2) :
    Traced.writeConfig 0x62 length buffer = (do
      let tableSize ← Traced.load16 0x62
      Traced.store16 0x62 ((readUshort buffer 0 &&& 0xC000) ||| (tableSize &&& 0x07FF))) :=
  if_pos ⟨rfl, hlen⟩

theorem writeConfig_msi (hlen : length ≥ 2) :
    Traced.writeConfig 0x52 length buffer = Traced.store16 0x52 (readUshort buffer 0) :=
  if_pos ⟨rfl, hlen⟩

theorem writeConfig_readOnly (hoffset : offset ∈ readOnlyOffsets) :
    Traced.writeConfig offset length buffer = pure () := by
  simp only [readOnlyOffsets, List.mem_cons, List.not_mem_nil, or_false] at hoffset
  rcases hoffset with rfl | rfl | rfl | rfl | rfl | rfl <;> rfl

/-- What the routine accesses then: nothing, or two bytes near the start of the space, for MSI-X
twice. -/
theorem writeConfig_short (hshort : (SpaceCall.writeConfig offset length buffer).ShortConfig)
    (byte : Nat → UInt8) :
    let accesses := ((Traced.writeConfig offset length buffer).run { byte := byte }).2.accesses
    StaysIn 0x64 accesses ∧
      (accesses = [] ↔ (SpaceCall.writeConfig offset length buffer).NoConfig) := by
  rcases hshort with ⟨hoffset, hlen⟩ | hreadOnly
  · simp only [List.mem_cons, List.not_mem_nil, or_false] at hoffset
    rcases hoffset with rfl | rfl | rfl | rfl
    · rw [writeConfig_command hlen]
      refine ⟨staysIn_singleton.mpr (by decide), iff_of_false (List.cons_ne_nil _ _) ?_⟩
      rintro (hoffset | ⟨hoffset, -, -⟩)
      all_goals exact absurd hoffset (by decide)
    · rw [writeConfig_pm hlen]
      split_ifs with hstate
      · refine ⟨staysIn_singleton.mpr (by decide), iff_of_false (List.cons_ne_nil _ _) ?_⟩
        rintro (hoffset | ⟨-, -, hno⟩)
        · exact absurd hoffset (by decide)
        · exact hno hstate
      · exact ⟨StaysIn.nil _, iff_of_true rfl (Or.inr ⟨rfl, hlen, hstate⟩)⟩
    · rw [writeConfig_msix hlen]
      refine ⟨?_, iff_of_false (List.cons_ne_nil _ _) ?_⟩
      · show StaysIn 0x64 [⟨0x62, 2⟩, ⟨0x62, 2⟩]
        exact staysIn_pair.mpr (by decide)
      · rintro (hoffset | ⟨hoffset, -, -⟩)
        all_goals exact absurd hoffset (by decide)
    · rw [writeConfig_msi hlen]
      refine ⟨staysIn_singleton.mpr (by decide), iff_of_false (List.cons_ne_nil _ _) ?_⟩
      rintro (hoffset | ⟨hoffset, -, -⟩)
      all_goals exact absurd hoffset (by decide)
  · rw [writeConfig_readOnly hreadOnly]
    exact ⟨StaysIn.nil _, iff_of_true rfl (Or.inl hreadOnly)⟩

theorem writeConfig_plain (hno : ¬ (SpaceCall.writeConfig offset length buffer).ShortConfig) :
    PlainCall (.writeConfig offset length buffer) allocated
      (allocated = true ∧ ¬ offset + length > vnvmePcieConfigSize) offset.toNat length.toNat := by
  refine ⟨rfl, fun h byte => ?_, fun h => writeConfig_refused buffer h⟩
  have hcopy : Traced.writeConfig offset length buffer =
      store offset.toNat length.toNat fun k => buffer (UInt32.ofNat k) := by
    obtain ⟨hspecial, hreadOnly⟩ := not_or.mp hno
    have hcase : ∀ off ∈ [pciCommand, 0x44, 0x62, 0x52], ¬ (offset = off ∧ length ≥ 2) :=
      fun off hoff h => hspecial ⟨h.1 ▸ hoff, h.2⟩
    unfold Traced.writeConfig
    dsimp only
    rw [if_neg (hcase _ (by decide)), if_neg (hcase _ (by decide)), if_neg (hcase _ (by decide)),
      if_neg (hcase _ (by decide)), if_neg hreadOnly]
  rw [writeConfig_passed buffer h, hcopy]
  rfl

end WriteConfig

/-- **When the accesses stay inside.** The bytes that a call accesses lie inside its space exactly
if its check is right, or it is a write to one of the registers of the configuration space that
have a case of their own. The range that it is asked for lies inside exactly if the check is right,
or it is one of the writes that change nothing. -/
theorem spaceCall_inside_iff (allocated : Bool) (call : SpaceCall) :
    (call.StaysInside allocated ↔ (allocated = true → call.Checked ∨ call.ShortConfig)) ∧
      (call.RangeInside allocated ↔ (allocated = true → call.Checked ∨ call.NoConfig)) := by
  have hplain : ∀ {passes : Prop} {offset size : Nat},
      PlainCall call allocated passes offset size →
      ((passes → call.end ≤ call.size) ↔ (allocated = true → call.Checked)) →
      ¬ call.ShortConfig → ¬ call.NoConfig →
      (call.StaysInside allocated ↔ (allocated = true → call.Checked ∨ call.ShortConfig)) ∧
        (call.RangeInside allocated ↔ (allocated = true → call.Checked ∨ call.NoConfig)) := by
    intro passes offset size hcall hcheck hshort hno
    rw [or_iff_left hshort, or_iff_left hno, ← hcheck]
    exact hcall.inside_iff
  cases call with
  | readBar0 offset => exact hplain (readBar0_plain offset) (bar0_check_iff _ offset) id id
  | readBar064 offset => exact hplain (readBar064_plain offset) (bar064_check_iff _ offset) id id
  | writeBar064 offset value =>
      exact hplain (writeBar064_plain offset value) (bar064_check_iff _ offset) id id
  | readConfig offset length =>
      exact hplain (readConfig_plain offset length) (config_check_iff _ offset length) id id
  | writeBar0 offset value =>
      by_cases hspecial : offset ∈ specialOffsets
      · have hregisters : specialOffsets.all (fun off => off.toNat + 4 ≤ 0x40) = true := by decide
        have hle : offset.toNat + 4 ≤ 0x40 :=
          of_decide_eq_true (List.all_eq_true.mp hregisters offset hspecial)
        have hsize : (SpaceCall.writeBar0 offset value).end ≤ vnvmeBar0Size.toNat :=
          hle.trans (by decide)
        have hchecked : (SpaceCall.writeBar0 offset value).Checked := Or.inl hsize
        refine ⟨iff_of_true (fun byte => ?_) fun _ => Or.inl hchecked,
          iff_of_true (fun _ _ => hsize) fun _ => Or.inl hchecked⟩
        exact (writeBar0_special hspecial value byte).mono (show 0x40 ≤ 0x10000 by decide)
      · exact hplain (writeBar0_plain hspecial value) (bar0_check_iff _ offset) id id
  | writeConfig offset length buffer =>
      by_cases hshort : (SpaceCall.writeConfig offset length buffer).ShortConfig
      · have hcheck := config_check_iff allocated offset length
        by_cases hpasses : allocated = true ∧ ¬ offset + length > vnvmePcieConfigSize
        · have haccess := writeConfig_passed buffer hpasses
          refine ⟨iff_of_true (fun byte => ?_) fun _ => Or.inr hshort, ?_⟩
          · rw [haccess]
            exact (writeConfig_short hshort byte).1.mono (show 0x64 ≤ 4096 by decide)
          by_cases hno : (SpaceCall.writeConfig offset length buffer).NoConfig
          · refine iff_of_true (fun byte hne => ?_) fun _ => Or.inr hno
            rw [haccess] at hne
            exact absurd ((writeConfig_short hshort byte).2.mpr hno) hne
          · constructor
            · intro hin hallocated
              refine Or.inl (hcheck.mp (fun _ => hin (fun _ => 0) ?_) hallocated)
              rw [haccess]
              exact mt (writeConfig_short hshort _).2.mp hno
            · intro hchecked byte _
              exact hcheck.mpr (fun h => (hchecked h).resolve_right hno) hpasses
        · have hnone := writeConfig_refused buffer hpasses
          have hchecked := hcheck.mp fun h => absurd h hpasses
          refine ⟨iff_of_true (fun byte => ?_) fun _ => Or.inr hshort,
            iff_of_true (fun byte hne => absurd (hnone byte) hne) fun h => Or.inl (hchecked h)⟩
          rw [hnone]
          exact StaysIn.nil _
      · refine hplain (writeConfig_plain hshort) (config_check_iff _ offset length) hshort ?_
        rintro (hoffset | ⟨hoffset, hlen, -⟩)
        · exact hshort (Or.inr hoffset)
        · exact hshort (Or.inl ⟨by rw [hoffset]; decide, hlen⟩)

end Bounds

/-- Four bytes at the last one of BAR0; eight bytes at the end of the 32-bit range, whose end wraps
to 0; a range of the configuration space that wraps to its first 16 bytes. -/
theorem accesses_behind_end :
    ¬ (SpaceCall.readBar0 0xFFFF).StaysInside true ∧
      ¬ (SpaceCall.writeBar0 0xFFFF 0).StaysInside true ∧
      ¬ (SpaceCall.readBar064 0xFFFFFFF8).StaysInside true ∧
      ¬ (SpaceCall.writeBar064 0xFFFFFFF8 0).StaysInside true ∧
      ¬ (SpaceCall.readConfig 0xFFFFFFF0 0x20).StaysInside true ∧
      ¬ (SpaceCall.writeConfig 0xFFFFFFF0 0x20 fun _ => 0).StaysInside true := by
  have hout : ∀ {call : SpaceCall} {a : Access}, call.accesses true (fun _ => 0) = [a] →
      call.size < a.offset + a.size → ¬ call.StaysInside true := by
    intro call a haccess hover hin
    have hin := hin fun _ => 0
    rw [haccess, staysIn_singleton] at hin
    exact absurd hin (Nat.not_le.mpr hover)
  refine ⟨?_, ?_, ?_, ?_, ?_, ?_⟩
  · exact hout (a := ⟨0xFFFF, 4⟩) rfl (by decide)
  · exact hout (a := ⟨0xFFFF, 4⟩) rfl (by decide)
  · exact hout (a := ⟨0xFFFFFFF8, 8⟩) rfl (by decide)
  · exact hout (a := ⟨0xFFFFFFF8, 8⟩) rfl (by decide)
  · exact hout (a := ⟨0xFFFFFFF0, 0x20⟩) rfl (by decide)
  · exact hout (a := ⟨0xFFFFFFF0, 0x20⟩) rfl (by decide)

end VirtualNvme
