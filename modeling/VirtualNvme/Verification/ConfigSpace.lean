import VirtualNvme.Runs
import VirtualNvme.Driver.PcieConfig
import Mathlib.Tactic.IntervalCases

/-!
# Identity and structure of the configuration space

The bytes that tell a driver what the device is and where its capabilities are, under runs of
`VnvmeWritePcieConfig`. The routine guards them by the offset at which a write starts. A write
that starts elsewhere is copied as it is, over whatever it covers.
-/

namespace VirtualNvme

open Runs

/-! ## The bytes that should stay -/

/-- Vendor and device id, revision, class code, header type, the capability pointer, and the id
and the next pointer of the four capabilities. -/
def identityBytes : List UInt32 :=
  [0x00, 0x01, 0x02, 0x03, 0x08, 0x09, 0x0A, 0x0B, 0x0E, 0x34,
    0x40, 0x41, 0x50, 0x51, 0x60, 0x61, 0x70, 0x71]

/-- The table size of MSI-X, the low eleven bits of its message control. -/
def msixTableSize (config : UInt32 → UInt8) : UInt16 := readUshort config 0x62 &&& 0x07FF

/-- Two configuration spaces describe the same device. -/
structure SameIdentity (config config' : UInt32 → UInt8) : Prop where
  bytes : ∀ i ∈ identityBytes, config i = config' i
  tableSize : msixTableSize config = msixTableSize config'

theorem SameIdentity.trans {c c' c'' : UInt32 → UInt8} (h : SameIdentity c c')
    (h' : SameIdentity c' c'') : SameIdentity c c'' :=
  ⟨fun i hi => (h.bytes i hi).trans (h'.bytes i hi), h.tableSize.trans h'.tableSize⟩

theorem SameIdentity.symm {c c' : UInt32 → UInt8} (h : SameIdentity c c') : SameIdentity c' c :=
  ⟨fun i hi => (h.bytes i hi).symm, h.tableSize.symm⟩

theorem SameIdentity.congr_right {c c' : UInt32 → UInt8} (h : SameIdentity c c')
    (d : UInt32 → UInt8) : SameIdentity d c ↔ SameIdentity d c' :=
  ⟨fun hd => hd.trans h, fun hd => hd.trans h.symm⟩

/-- Following the next pointers from `p` visits these capabilities and ends. -/
inductive CapabilityWalk (config : UInt32 → UInt8) : UInt8 → List UInt8 → Prop where
  | done : CapabilityWalk config 0 []
  | visit {p : UInt8} {ps : List UInt8} (hp : p ≠ 0)
      (hnext : CapabilityWalk config (config (p.toUInt32 + 1)) ps) :
      CapabilityWalk config p (p :: ps)

/-- The configuration space of a new controller. -/
def initialConfig : UInt32 → UInt8 := initialCapabilities (initialPcieHeader fun _ => 0)

theorem SameIdentity.walk {config : UInt32 → UInt8} (h : SameIdentity config initialConfig) :
    CapabilityWalk config (config 0x34) [0x40, 0x50, 0x60, 0x70] := by
  have hfirst : config 0x34 = 0x40 := h.bytes 0x34 (by decide)
  have hpm : config 0x41 = 0x50 := h.bytes 0x41 (by decide)
  have hmsi : config 0x51 = 0x60 := h.bytes 0x51 (by decide)
  have hmsix : config 0x61 = 0x70 := h.bytes 0x61 (by decide)
  have hpcie : config 0x71 = 0x00 := h.bytes 0x71 (by decide)
  rw [hfirst]
  apply CapabilityWalk.visit (by decide)
  change CapabilityWalk config (config 0x41) _
  rw [hpm]
  apply CapabilityWalk.visit (by decide)
  change CapabilityWalk config (config 0x51) _
  rw [hmsi]
  apply CapabilityWalk.visit (by decide)
  change CapabilityWalk config (config 0x61) _
  rw [hmsix]
  apply CapabilityWalk.visit (by decide)
  change CapabilityWalk config (config 0x71) _
  rw [hpcie]
  exact CapabilityWalk.done

/-! ## Sixteen bits -/

/-- Two bytes stored at `off` leave every other byte. -/
theorem putBytes_le16_of_ne (config : UInt32 → UInt8) {off i : UInt32} (v : UInt16)
    (h0 : i ≠ off) (h1 : i ≠ off + 1) : putBytes config off (le16 v) i = config i := by
  unfold putBytes
  rw [if_neg]
  rintro ⟨_, hlt⟩
  have hlt : (i - off).toNat < 2 := hlt
  -- the place in the range may wrap, but it is one of two
  rcases (by omega : (i - off).toNat = 0 ∨ (i - off).toNat = 1) with h | h
  · exact h0 (UInt32.sub_eq_iff_eq_add.mp (UInt32.toNat_inj.mp h) |>.trans (UInt32.zero_add off))
  · exact h1 ((UInt32.sub_eq_iff_eq_add.mp (UInt32.toNat_inj.mp h)).trans (UInt32.add_comm 1 off))

theorem readUshort_putBytes_msix (config : UInt32 → UInt8) (v : UInt16) :
    readUshort (putBytes config 0x62 (le16 v)) 0x62 = v := by
  change v.toUInt8.toUInt16 ||| ((v >>> 8).toUInt8.toUInt16 <<< 8) = v
  apply UInt16.eq_of_toBitVec_eq
  ext i hi
  simp [-UInt16.toUInt16_toUInt8]
  interval_cases i <;> simp

/-- The table size, bit by bit: the byte at 0x62 and three bits of the one behind it. -/
theorem msixTableSize_bit (config : UInt32 → UInt8) {i : Nat} (hi : i < 16) :
    (msixTableSize config).toBitVec[i] =
      if i < 8 then (config 0x62).toBitVec.getLsbD i
      else (config 0x63 &&& 0x07).toBitVec.getLsbD (i - 8) := by
  simp [msixTableSize, readUshort]
  interval_cases i <;> simp

theorem msixTableSize_eq_iff (c c' : UInt32 → UInt8) :
    msixTableSize c = msixTableSize c' ↔
      c 0x62 = c' 0x62 ∧ c 0x63 &&& 0x07 = c' 0x63 &&& 0x07 := by
  constructor
  · intro h
    constructor
    · apply UInt8.eq_of_toBitVec_eq
      apply BitVec.eq_of_getLsbD_eq
      intro i hi
      have hlow := msixTableSize_bit c (by omega : i < 16)
      rw [h, msixTableSize_bit c' (by omega), if_pos hi, if_pos hi] at hlow
      exact hlow.symm
    · apply UInt8.eq_of_toBitVec_eq
      apply BitVec.eq_of_getLsbD_eq
      intro i hi
      have hhigh := msixTableSize_bit c (by omega : i + 8 < 16)
      rw [h, msixTableSize_bit c' (by omega), if_neg (by omega), if_neg (by omega)] at hhigh
      simpa using hhigh.symm
  · rintro ⟨hlow, hhigh⟩
    apply UInt16.eq_of_toBitVec_eq
    ext i hi
    rw [msixTableSize_bit c hi, msixTableSize_bit c' hi, hlow, hhigh]

/-- Sixteen bits stored where no byte of the identity is. -/
theorem putBytes_sameIdentity (config : UInt32 → UInt8) {off : UInt32} (v : UInt16)
    (hoff : off = 0x04 ∨ off = 0x44 ∨ off = 0x52) :
    SameIdentity (putBytes config off (le16 v)) config := by
  -- neither of the two bytes belongs to the identity or to the table size
  have hclear : ∀ i ∈ 0x62 :: 0x63 :: identityBytes, i ≠ off ∧ i ≠ off + 1 := by
    rcases hoff with rfl | rfl | rfl <;> simp [identityBytes]
  have hsame (i : UInt32) (hi : i ∈ 0x62 :: 0x63 :: identityBytes) :
      putBytes config off (le16 v) i = config i :=
    putBytes_le16_of_ne config v (hclear i hi).1 (hclear i hi).2
  refine ⟨fun i hi => hsame i (List.mem_cons_of_mem _ (List.mem_cons_of_mem _ hi)), ?_⟩
  rw [msixTableSize_eq_iff, hsame 0x62 (by decide), hsame 0x63 (by decide)]
  exact ⟨rfl, rfl⟩

/-- The message control of MSI-X stored with the table size that it has. -/
theorem putBytes_msix_sameIdentity (config : UInt32 → UInt8) (v : UInt16) :
    SameIdentity
      (putBytes config 0x62 (le16 ((v &&& 0xC000) ||| (readUshort config 0x62 &&& 0x07FF))))
      config := by
  constructor
  · intro i hi
    have hclear : ∀ i ∈ identityBytes, i ≠ 0x62 ∧ i ≠ 0x62 + 1 := by simp [identityBytes]
    exact putBytes_le16_of_ne config _ (hclear i hi).1 (hclear i hi).2
  -- the mask 0x07FF picks out the bits that the rule took from the old value
  · rw [msixTableSize, readUshort_putBytes_msix, msixTableSize]
    apply UInt16.eq_of_toBitVec_eq
    ext i hi
    simp
    interval_cases i <;> simp

/-! ## Writes -/

/-- A call of `VnvmeWritePcieConfig`. -/
structure ConfigWrite where
  offset : UInt32
  length : UInt32
  buffer : UInt32 → UInt8

def configWriteStep (p : PcieContext) (w : ConfigWrite) : PcieContext :=
  (vnvmeWritePcieConfig p w.offset w.length w.buffer).2

/-- No rule of `VnvmeWritePcieConfig` is about this write. -/
def ConfigWrite.Plain (w : ConfigWrite) : Prop :=
  ¬ (w.offset ∈ [0x04, 0x44, 0x62, 0x52] ∧ w.length ≥ 2) ∧ w.offset ∉ readOnlyOffsets

/-- Byte `i` of the configuration space is within the range of the write. -/
def ConfigWrite.Covers (w : ConfigWrite) (i : UInt32) : Prop :=
  w.offset ≤ i ∧ i - w.offset < w.length

instance (w : ConfigWrite) : Decidable w.Plain := inferInstanceAs (Decidable (_ ∧ _))

instance (w : ConfigWrite) (i : UInt32) : Decidable (w.Covers i) :=
  inferInstanceAs (Decidable (_ ∧ _))

/-- Where the range of the write covers bytes of the identity it has the values that are there.
Of the byte at 0x63 only three bits count. -/
structure ConfigWrite.Repeats (w : ConfigWrite) (config : UInt32 → UInt8) : Prop where
  bytes : ∀ i ∈ identityBytes, w.Covers i → w.buffer (i - w.offset) = config i
  tableLow : w.Covers 0x62 → w.buffer (0x62 - w.offset) = config 0x62
  tableHigh : w.Covers 0x63 → w.buffer (0x63 - w.offset) &&& 0x07 = config 0x63 &&& 0x07

theorem copyConfig_covers (config : UInt32 → UInt8) (w : ConfigWrite) (i : UInt32) :
    copyConfig config w.offset w.length w.buffer i =
      if w.Covers i then w.buffer (i - w.offset) else config i := rfl

theorem copyConfig_sameIdentity_iff (config : UInt32 → UInt8) (w : ConfigWrite) :
    SameIdentity (copyConfig config w.offset w.length w.buffer) config ↔ w.Repeats config := by
  constructor
  · rintro ⟨hbytes, htable⟩
    rw [msixTableSize_eq_iff, copyConfig_covers, copyConfig_covers] at htable
    obtain ⟨hlow, hhigh⟩ := htable
    refine ⟨fun i hi hcovers => ?_, fun hcovers => ?_, fun hcovers => ?_⟩
    · have hbyte := hbytes i hi
      rwa [copyConfig_covers, if_pos hcovers] at hbyte
    · rwa [if_pos hcovers] at hlow
    · rwa [if_pos hcovers] at hhigh
  · rintro ⟨hbytes, hlow, hhigh⟩
    constructor
    · intro i hi
      rw [copyConfig_covers]
      split_ifs with hcovers
      · exact hbytes i hi hcovers
      · rfl
    · rw [msixTableSize_eq_iff, copyConfig_covers, copyConfig_covers]
      constructor
      · split_ifs with hcovers
        · exact hlow hcovers
        · rfl
      · split_ifs with hcovers
        · exact hhigh hcovers
        · rfl

/-- A write that a rule is about keeps the identity. -/
theorem writeConfig_of_not_plain (config : UInt32 → UInt8) (w : ConfigWrite) (h : ¬ w.Plain) :
    SameIdentity (writeConfig config w.offset w.length w.buffer) config := by
  have hrefl : SameIdentity config config := ⟨fun _ _ => rfl, rfl⟩
  unfold writeConfig
  dsimp only
  split_ifs with h1 h2 hstate h3 h4 h5
  · exact putBytes_sameIdentity config _ (.inl h1.1)
  · exact putBytes_sameIdentity config _ (.inr (.inl h2.1))
  · exact hrefl
  · rw [h3.1]
    exact putBytes_msix_sameIdentity config _
  · exact putBytes_sameIdentity config _ (.inr (.inr h4.1))
  · exact hrefl
  -- no rule applied and the offset is not guarded, so the write was plain
  · refine absurd ⟨?_, h5⟩ h
    rintro ⟨hoffset, hlength⟩
    simp only [List.mem_cons, List.not_mem_nil, or_false] at hoffset
    rcases hoffset with h | h | h | h
    · exact h1 ⟨h, hlength⟩
    · exact h2 ⟨h, hlength⟩
    · exact h3 ⟨h, hlength⟩
    · exact h4 ⟨h, hlength⟩

theorem writeConfig_of_plain (config : UInt32 → UInt8) (w : ConfigWrite) (h : w.Plain) :
    writeConfig config w.offset w.length w.buffer =
      copyConfig config w.offset w.length w.buffer := by
  obtain ⟨hrules, hguarded⟩ := h
  have hrule (k : UInt32) (hk : k ∈ [0x04, 0x44, 0x62, 0x52]) :
      ¬ (w.offset = k ∧ w.length ≥ 2) := fun hw => hrules ⟨hw.1 ▸ hk, hw.2⟩
  unfold writeConfig
  dsimp only
  rw [if_neg (hrule pciCommand (by decide)), if_neg (hrule 0x44 (by decide)),
    if_neg (hrule 0x62 (by decide)), if_neg (hrule 0x52 (by decide)), if_neg hguarded]

/-- A call that changes nothing of the identity: it is refused, a rule is about it, or it repeats
what is there. -/
def HarmlessConfigWrite (p : PcieContext) (w : ConfigWrite) : Prop :=
  ∀ config ∈ p.pcieConfig,
    w.offset + w.length ≤ p.pcieConfigSize → w.Plain → w.Repeats config

/-! ## Runs -/

/-- The configuration space describes the device that a new controller is. -/
def IdentityKept (p : PcieContext) : Prop :=
  ∀ config ∈ p.pcieConfig, SameIdentity config initialConfig

/-- The identity is kept, and the walk along the capabilities finds all four. -/
def StructureKept (p : PcieContext) : Prop :=
  ∀ config ∈ p.pcieConfig, SameIdentity config initialConfig ∧
    CapabilityWalk config (config 0x34) [0x40, 0x50, 0x60, 0x70]

theorem structureKept_iff (p : PcieContext) : StructureKept p ↔ IdentityKept p :=
  forall₂_congr fun _ _ => ⟨fun h => h.1, fun h => ⟨h, h.walk⟩⟩

theorem configWriteStep_kept_iff (p : PcieContext) (w : ConfigWrite) (h : IdentityKept p) :
    IdentityKept (configWriteStep p w) ↔ HarmlessConfigWrite p w := by
  unfold IdentityKept at h
  unfold IdentityKept configWriteStep HarmlessConfigWrite vnvmeWritePcieConfig
  cases hconfig : p.pcieConfig with
  | none => simp [hconfig]
  | some config =>
      have hsame := h config hconfig
      dsimp only
      by_cases hrange : w.offset + w.length > p.pcieConfigSize
      · have hover : ¬ w.offset + w.length ≤ p.pcieConfigSize := UInt32.not_le.mpr hrange
        simp [hrange, hover, hconfig, hsame]
      · rw [if_neg hrange]
        have hin : w.offset + w.length ≤ p.pcieConfigSize := UInt32.not_lt.mp hrange
        simp only [Option.mem_def, Option.some.injEq, forall_eq', hin, true_imp_iff]
        rw [← hsame.congr_right]
        by_cases hplain : w.Plain
        · rw [writeConfig_of_plain config w hplain, copyConfig_sameIdentity_iff]
          exact ⟨fun hw _ => hw, fun hw => hw hplain⟩
        · exact iff_of_true (writeConfig_of_not_plain config w hplain) fun hp => absurd hp hplain

/-- In a run of configuration writes on a new controller the identity bytes stay and the walk
finds the four capabilities exactly if no accepted write that the rules let pass puts another
value over one of them. -/
theorem configSpace_kept_iff (p : PcieContext) (ws : List ConfigWrite) :
    Throughout configWriteStep StructureKept (vnvmeAllocatePcieConfig true p).2 ws ↔
      EachStep configWriteStep HarmlessConfigWrite (vnvmeAllocatePcieConfig true p).2 ws := by
  have hstart : IdentityKept (vnvmeAllocatePcieConfig true p).2 := by
    intro config hconfig
    obtain rfl : initialConfig = config := Option.some.inj hconfig
    exact ⟨fun _ _ => rfl, rfl⟩
  refine throughout_iff (fun q hq => (structureKept_iff q).mpr hq)
    (fun q w hq => (configWriteStep_kept_iff q w hq).mpr) ?_ hstart ws
  intro q w hq hbad hkept
  exact hbad ((configWriteStep_kept_iff q w hq).mp ((structureKept_iff _).mp hkept))

/-- A zero written to the next pointer of power management hides the other three. -/
theorem config_write_cuts_walk :
    ¬ Throughout configWriteStep StructureKept (vnvmeAllocatePcieConfig true {}).2
      [⟨0x41, 1, fun _ => 0⟩] := by
  intro h
  have hkept := h [⟨0x41, 1, fun _ => 0⟩] [] rfl
  have hbyte := (hkept _ rfl).1.bytes 0x41 (by decide)
  exact absurd hbyte (by decide)

end VirtualNvme
