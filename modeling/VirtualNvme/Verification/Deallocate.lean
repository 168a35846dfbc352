import VirtualNvme.Verification.ZeroRange

/-!
# Dataset Management and the bytes it zeroes

The handler takes one range after the other and asks the backend to zero it. Two things can go
wrong on the way: the number of bytes is cut to 32 bits, and the end of a range is compared with
the size of the namespace after it has wrapped. A range of 4 GB or more keeps a tail, and a range
whose end wraps around may zero the beginning of the namespace.
-/

namespace VirtualNvme

/-! ## Which bytes -/

/-- The range lies in the namespace. -/
def NvmeDsmRange.InRange (ns : Namespace) (range : NvmeDsmRange) : Prop :=
  range.startingLba.toNat + range.lengthInLogicalBlocks.toNat ≤ ns.totalBlocks.toNat

/-- Byte `x` is in the range. -/
def NvmeDsmRange.Covers (ns : Namespace) (range : NvmeDsmRange) (x : Nat) : Prop :=
  range.startingLba.toNat * ns.blockSize.toNat ≤ x ∧
    x < (range.startingLba.toNat + range.lengthInLogicalBlocks.toNat) * ns.blockSize.toNat

/-- The number of bytes that the handler asks for, in 32 bits. -/
def NvmeDsmRange.byteLength (ns : Namespace) (range : NvmeDsmRange) : Nat :=
  range.lengthInLogicalBlocks.toNat * ns.blockSize.toNat % 2 ^ 32

/-- The bytes between the start of the range and the point where block numbers wrap. -/
def NvmeDsmRange.beforeWrap (ns : Namespace) (range : NvmeDsmRange) : Nat :=
  (2 ^ 64 - range.startingLba.toNat) * ns.blockSize.toNat

/-- The bytes that the backend asks for in its first write. -/
def firstWrite (type : StorageType) (length : Nat) : Nat :=
  if type = .file then min 65536 length else length

/-- The handler zeroes byte `x` for the range. A range in the namespace is zeroed from its start
on. Where the end wraps, the first write has to get over the wrap, and the rest goes to the
beginning of the namespace. -/
def NvmeDsmRange.Reaches (ns : Namespace) (range : NvmeDsmRange) (x : Nat) : Prop :=
  (range.InRange ns ∧ range.startingLba.toNat * ns.blockSize.toNat ≤ x ∧
      x < range.startingLba.toNat * ns.blockSize.toNat + range.byteLength ns) ∨
    (lbaWraps range.startingLba range.lengthInLogicalBlocks.toUInt64 ns.totalBlocks ∧
      range.beforeWrap ns ≤ firstWrite ns.backend.type (range.byteLength ns) ∧
      x + range.beforeWrap ns < range.byteLength ns)

/-- The ranges of the command. -/
def Request.ranges (r : Request) : List NvmeDsmRange :=
  (List.range r.cmd.rangeCount).map (dsmRange r.os.hostMem r.cmd.prp1)

/-- The command asks for byte `x` to be zeroed. -/
def Request.Asks (ns : Namespace) (r : Request) (x : Nat) : Prop :=
  ∃ range ∈ r.ranges, range.InRange ns ∧ range.Covers ns x

/-- The page with the ranges can be mapped, and one of them reaches byte `x`. -/
def Request.Reaches (ns : Namespace) (r : Request) (x : Nat) : Prop :=
  (r.os.call .mapIoSpace).1 = true ∧ ∃ range ∈ r.ranges, range.Reaches ns x

/-- The calls of the storage succeed. -/
structure Os.StorageWorks (os : Os) : Prop where
  allocates : os.Allocates
  writes : ∀ n, os.ok .writeFile n = true
  zeroes : ∀ n, os.ok .fsControlFile n = true

/-! ## One call -/

theorem Os.StorageWorks.congr {os os' : Os} (h : os.StorageWorks) (heq : os'.ok = os.ok) :
    os'.StorageWorks := by
  refine ⟨fun n => ?_, fun n => ?_, fun n => ?_⟩
  · rw [heq]
    exact h.allocates n
  · rw [heq]
    exact h.writes n
  · rw [heq]
    exact h.zeroes n

/-- From `b` to `b'`, the bytes with `P` have become zero, and the others are as they were. -/
structure Clears (type : StorageType) (total : UInt64) (P : Nat → Prop) (b b' : Backing) :
    Prop where
  zeroable : Zeroable type total b'
  kernel : b'.2.ok = b.2.ok
  cleared : ∀ x, x < total.toNat → P x → b'.1.bytes x = 0
  kept : ∀ x, x < total.toNat → ¬ P x → b'.1.bytes x = b.1.bytes x

section Clears

variable {type : StorageType} {total : UInt64} {P Q : Nat → Prop} {b b' b'' : Backing}

theorem Clears.unchanged (h : Zeroable type total b) (hnone : ∀ x, x < total.toNat → ¬ P x) :
    Clears type total P b b :=
  ⟨h, rfl, fun x hx hp => absurd hp (hnone x hx), fun _ _ _ => rfl⟩

theorem Clears.congr (h : Clears type total P b b') (heq : ∀ x, x < total.toNat → (P x ↔ Q x)) :
    Clears type total Q b b' :=
  ⟨h.zeroable, h.kernel, fun x hx hq => h.cleared x hx ((heq x hx).mpr hq),
    fun x hx hq => h.kept x hx fun hp => hq ((heq x hx).mp hp)⟩

theorem Clears.trans (h : Clears type total P b b') (h' : Clears type total Q b' b'') :
    Clears type total (fun x => P x ∨ Q x) b b'' := by
  refine ⟨h'.zeroable, h'.kernel.trans h.kernel, fun x hx hpq => ?_, fun x hx hno => ?_⟩
  · by_cases hq : Q x
    · exact h'.cleared x hx hq
    · rw [h'.kept x hx hq]
      exact h.cleared x hx (hpq.resolve_right hq)
  · rw [not_or] at hno
    rw [h'.kept x hx hno.2, h.kept x hx hno.1]

/-- A range inside the backend that is zeroed with success. -/
theorem Clears.of_zeroes {offset length : Nat} {r : NtStatus × Backing}
    (h : Zeroes type total offset length b r) (hok : r.1.ntSuccess = true) :
    Clears type total (fun x => offset ≤ x ∧ x < offset + length) b r.2 := by
  obtain ⟨k, -, hwhole, hbytes⟩ := h.contents
  obtain rfl := hwhole hok
  refine ⟨h.zeroable, h.kernel, fun x hx hp => ?_, fun x hx hno => ?_⟩
  · rw [hbytes x (Nat.lt_trans hx total.toNat_lt)]
    exact if_pos hp
  · rw [hbytes x (Nat.lt_trans hx total.toNat_lt)]
    exact if_neg hno

end Clears

/-! ## Over the wrap -/

section Wrap

variable {type : StorageType} {total : UInt64} {b : Backing} (h : Zeroable type total b)
  {offset : UInt64} {length : UInt32} {before : Nat} (hoffset : offset.toNat + before = 2 ^ 64)
  (hroom : before + total.toNat < 2 ^ 64) (hend : length.toNat ≤ before + total.toNat)

include h hoffset hroom hend

/-- The check lets the range through exactly if it gets over the wrap. -/
theorem Zeroable.outOfRange_wrap :
    b.1.outOfRange offset length = true ↔ length.toNat < before := by
  have hlt := total.toNat_lt
  rw [outOfRange_iff, h.total]
  by_cases hover : length.toNat < before
  · rw [Nat.mod_eq_of_lt (by omega)]
    omega
  · rw [show offset.toNat + length.toNat = (length.toNat - before) + 2 ^ 64 by omega,
      Nat.add_mod_right, Nat.mod_eq_of_lt (by omega)]
    omega

/-- A write of zeroes behind the range check. -/
theorem Clears.over {b' : Backing} {mem : UInt64 → UInt8} (hmem : b.1.store = some mem)
    (hstore : b'.1.store = some (copyBytes mem offset (fun _ => 0) 0 length.toNat))
    (hkeep : b'.1.type = b.1.type ∧ b'.1.totalBytes = b.1.totalBytes ∧
      b'.1.readOnly = b.1.readOnly ∧ b'.2.ok = b.2.ok) :
    Clears type total (fun x => x + before < length.toNat) b b' := by
  have hlt := total.toNat_lt
  obtain ⟨htype, htotal, hwritable, hok⟩ := hkeep
  have hbytes (x : Nat) (hx : x < total.toNat) :
      b'.1.bytes x = if x + before < length.toNat then 0 else b.1.bytes x := by
    have hplace : (UInt64.ofNat x - offset).toNat = x + before := by
      rw [UInt64.toNat_sub, UInt64.toNat_ofNat_of_lt' (by omega : x < 2 ^ 64)]
      omega
    rw [bytes_of_store hstore, bytes_of_store hmem]
    dsimp only
    rw [← hplace]
    rfl
  exact ⟨h.keep htype htotal hwritable (by rw [hstore]; rfl) hok, hok,
    fun x hx hp => (hbytes x hx).trans (if_pos hp),
    fun x hx hno => (hbytes x hx).trans (if_neg hno)⟩

/-- A file write of zeroes. -/
theorem Clears.fileWrite (hne : type ≠ .memory) (hbefore : before ≤ length.toNat) :
    (storageFileWrite b offset (fun _ => 0) length).1.ntSuccess = true ∧
      Clears type total (fun x => x + before < length.toNat) b
        (storageFileWrite b offset (fun _ => 0) length).2 := by
  obtain ⟨mem, hmem⟩ := Option.isSome_iff_exists.mp h.store
  have hfile : b.1.type ≠ .memory := by rwa [h.type]
  have hbuffer := (store_of_file hfile).symm.trans hmem
  have hpasses : b.1.outOfRange offset length = false :=
    eq_false_of_ne_true fun hout =>
      absurd ((h.outOfRange_wrap hoffset hroom hend).mp hout) (Nat.not_lt.mpr hbefore)
  simp only [storageFileWrite, hbuffer, h.writable, hpasses, Bool.false_eq_true, if_false,
    Os.call, h.writes, if_true]
  exact ⟨rfl, Clears.over h hoffset hroom hend hmem (store_of_file hfile)
    ⟨rfl, rfl, rfl, rfl⟩⟩

theorem storageFileWrite_short (hne : type ≠ .memory) (hshort : length.toNat < before) :
    storageFileWrite b offset (fun _ => 0) length = (.invalidParameter, b) := by
  obtain ⟨mem, hmem⟩ := Option.isSome_iff_exists.mp h.store
  have hfile : b.1.type ≠ .memory := by rwa [h.type]
  have hbuffer := (store_of_file hfile).symm.trans hmem
  simp only [storageFileWrite, hbuffer, h.writable, Bool.false_eq_true, if_false,
    (h.outOfRange_wrap hoffset hroom hend).mpr hshort, if_true]

/-- The loop of the file backend: the first write gets over the wrap, and what is left lies at the
beginning of the namespace; or it fails, and nothing is written. -/
theorem zeroThroughBuffer_clears (hne : type ≠ .memory) (hmemory : b.2.Allocates) :
    Clears type total (fun x => before ≤ min 65536 length.toNat ∧ x + before < length.toNat) b
      (zeroThroughBuffer b offset length).2 := by
  have hallocates : (b.2.call .allocatePool).1 = true := hmemory _
  have hlength : length.toUInt64.toNat = length.toNat := UInt32.toNat_toUInt64 length
  have hcall := h.call .allocatePool
  have hlt := offset.toNat_lt
  unfold zeroThroughBuffer
  dsimp only
  rw [if_pos hallocates, zeroChunks]
  obtain ⟨hchunk, hchunk32⟩ := nextChunk_min (by decide : (64 * 1024 : UInt64).toNat < 2 ^ 32)
    length.toUInt64
  have hsize : (64 * 1024 : UInt64).toNat = 65536 := rfl
  rw [hsize, hlength] at hchunk hchunk32
  by_cases hzero : length.toUInt64 = 0
  · rw [if_pos hzero]
    have hnone : length.toNat = 0 := by
      rw [← hlength, hzero]
      rfl
    exact ⟨hcall, rfl, fun x _ hp => by omega, fun _ _ _ => rfl⟩
  · rw [if_neg hzero]
    generalize nextChunk (64 * 1024) length.toUInt64 = chunk at hchunk hchunk32 ⊢
    dsimp only
    by_cases hbefore : before ≤ min 65536 length.toNat
    · obtain ⟨hok, hfirst⟩ := Clears.fileWrite hcall hoffset hroom
        (by omega : chunk.toUInt32.toNat ≤ _) hne (by omega)
      rw [if_pos hok]
      have hnext : (offset + chunk).toNat = chunk.toNat - before := by
        rw [UInt64.toNat_add]
        omega
      have hleft : (length.toUInt64 - chunk).toNat = length.toNat - chunk.toNat := by
        rw [UInt64.toNat_sub_of_le _ _ (UInt64.le_iff_toNat_le.mpr (by omega)), hlength]
      have hchunks := zeroChunks_zeroes (by decide : 0 < (64 * 1024 : UInt64).toNat) (by decide)
        (fun b offset length hb hinside => fileWrite_zeroes hb hinside hne) length.toNat
        hfirst.zeroable (offset + chunk) (length.toUInt64 - chunk) (by omega) (by omega)
      have hrest := Clears.of_zeroes hchunks (hchunks.succeeds fun n => by
        rw [hfirst.kernel]
        exact hmemory n)
      rw [hnext, hleft] at hrest
      have hboth := (hfirst.trans hrest).congr fun x _ =>
        (by omega : _ ↔ before ≤ min 65536 length.toNat ∧ x + before < length.toNat)
      exact ⟨hboth.zeroable, hboth.kernel, hboth.cleared, hboth.kept⟩
    · have hshort := storageFileWrite_short hcall hoffset hroom
        (by omega : chunk.toUInt32.toNat ≤ _) hne (by omega)
      rw [hshort, if_neg (by rintro ⟨⟩)]
      exact ⟨hcall, rfl, fun x _ hp => absurd hp.1 hbefore, fun _ _ _ => rfl⟩

/-- Zeroes for a range that starts `before` bytes in front of the wrap. -/
theorem storageWriteZeroes_clears (hne : type ≠ .none) (hworks : b.2.StorageWorks) :
    Clears type total (fun x => before ≤ firstWrite type length.toNat ∧ x + before < length.toNat)
      b (vnvmeStorageWriteZeroes b offset length).2 := by
  obtain ⟨mem, hmem⟩ := Option.isSome_iff_exists.mp h.store
  have htype := h.type
  have hcheck := h.outOfRange_wrap hoffset hroom hend
  -- memory and sparse check the whole range at once
  have hwhole (hfile : type ≠ .file) : firstWrite type length.toNat = length.toNat := if_neg hfile
  cases type with
  | memory =>
      have hbuffer := (store_of_memory htype).symm.trans hmem
      rw [hwhole (by decide)]
      simp only [vnvmeStorageWriteZeroes, htype, storageMemoryWriteZeroes, storageMemoryWrite,
        hbuffer, h.writable, Bool.false_eq_true, if_false]
      by_cases hshort : length.toNat < before
      · rw [if_pos (hcheck.mpr hshort)]
        exact Clears.unchanged h fun x _ hp => absurd hp.1 (Nat.not_le.mpr hshort)
      · rw [if_neg fun hout => hshort (hcheck.mp hout)]
        refine Clears.congr (Clears.over h hoffset hroom hend hmem
          (store_of_memory htype) ⟨rfl, rfl, rfl, rfl⟩) fun x _ => ?_
        exact (and_iff_right (Nat.not_lt.mp hshort)).symm
  | file =>
      simp only [vnvmeStorageWriteZeroes, htype]
      exact zeroThroughBuffer_clears h hoffset hroom hend (by decide) hworks.allocates
  | sparse =>
      have hfile : b.1.type ≠ .memory := by
        rw [htype]
        decide
      have hbuffer := (store_of_file hfile).symm.trans hmem
      rw [hwhole (by decide)]
      simp only [vnvmeStorageWriteZeroes, htype, storageSparseWriteZeroes, hbuffer, h.writable,
        Bool.false_eq_true, if_false, Os.call, hworks.zeroes, if_true]
      by_cases hshort : length.toNat < before
      · rw [if_pos (hcheck.mpr hshort)]
        exact Clears.unchanged h fun x _ hp => absurd hp.1 (Nat.not_le.mpr hshort)
      · rw [if_neg fun hout => hshort (hcheck.mp hout)]
        refine Clears.congr (Clears.over h hoffset hroom hend hmem
          (store_of_file hfile) ⟨rfl, rfl, rfl, rfl⟩) fun x _ => ?_
        exact (and_iff_right (Nat.not_lt.mp hshort)).symm
  | none => exact absurd rfl hne

end Wrap

/-! ## The ranges of a command -/

section Ranges

variable {ns : Namespace} (hfits : ns.Fits) (hne : ns.backend.type ≠ .none)

include hfits hne

/-- One range: inside the namespace, or with an end that wraps, or skipped. -/
theorem dsmStep_clears (range : NvmeDsmRange) {b : Backing}
    (h : Zeroable ns.backend.type ns.backend.totalBytes b) (hworks : b.2.StorageWorks) :
    Clears ns.backend.type ns.backend.totalBytes (range.Reaches ns) b (dsmStep ns b range) := by
  have hcap := hfits.capacity
  have hlength := dsmLength_toNat ns range
  rw [← NvmeDsmRange.byteLength] at hlength
  have hle : range.byteLength ns ≤ range.lengthInLogicalBlocks.toNat * ns.blockSize.toNat :=
    Nat.mod_le _ _
  have hnlb : range.lengthInLogicalBlocks.toUInt64.toNat = range.lengthInLogicalBlocks.toNat :=
    UInt32.toNat_toUInt64 _
  have hvalid := lbaRangeValid_iff range.startingLba range.lengthInLogicalBlocks.toUInt64
    ns.totalBlocks
  rw [hnlb, vnvmeLbaRangeValid, decide_eq_true_iff] at hvalid
  have hslba := range.startingLba.toNat_lt
  have htotal := ns.totalBlocks.toNat_lt
  unfold dsmStep
  dsimp only
  by_cases hzero : range.lengthInLogicalBlocks.toUInt64 = 0
  · rw [if_pos hzero]
    rw [hzero, UInt64.toNat_zero] at hnlb
    have hnone : range.byteLength ns = 0 := by
      rw [NvmeDsmRange.byteLength, ← hnlb, Nat.zero_mul]
      rfl
    refine Clears.unchanged h fun x _ hx => ?_
    rcases hx with ⟨-, hge, hlt⟩ | ⟨-, -, hlt⟩
    · omega
    · omega
  · rw [if_neg hzero]
    by_cases hgt : range.startingLba + range.lengthInLogicalBlocks.toUInt64 > ns.totalBlocks
    · rw [if_pos hgt]
      have hno := fun hor => UInt64.not_le.mpr hgt (hvalid.mpr hor)
      refine Clears.unchanged h fun x _ hx => ?_
      rcases hx with ⟨hin, -⟩ | ⟨hwrap, -⟩
      · exact hno (Or.inl hin)
      · exact hno (Or.inr hwrap)
    · rw [if_neg hgt]
      rcases hvalid.mp (UInt64.not_lt.mp hgt) with hin | hwrap
      · have hbounds : InBounds _ (vnvmeBlocksToBytes range.startingLba ns.blockSize, _) :=
          inBounds_of_plain hfits (by rwa [hnlb]) (by rwa [hlength, hnlb])
        have hstart := byteOffset_of_plain hfits (Nat.le_of_add_right_le hin)
        have hzeroes := storageWriteZeroes_zeroes h hbounds hne
        have hclears := Clears.of_zeroes hzeroes (hzeroes.succeeds hworks.allocates)
        rw [hstart, hlength] at hclears
        refine hclears.congr fun x _ => ⟨fun hx => Or.inl ⟨hin, hx⟩, fun hx => ?_⟩
        rcases hx with ⟨-, hx⟩ | ⟨hwrap, -⟩
        · exact hx
        · have hge := hwrap.1
          omega
      · have hbits := range.lengthInLogicalBlocks.toNat_lt
        obtain ⟨hoffset, hbefore⟩ := byteOffset_of_wraps hfits (by rwa [hnlb]) hwrap
        have hend : range.byteLength ns ≤ range.beforeWrap ns + ns.backend.totalBytes.toNat := by
          have hscaled := scaled_le_of_wraps hfits hwrap
          rw [hnlb] at hscaled
          exact hle.trans hscaled
        have hclears := storageWriteZeroes_clears h hoffset (by omega)
          (by rwa [hlength]) hne hworks
        rw [hlength] at hclears
        refine hclears.congr fun x _ => ⟨fun hx => Or.inr ⟨hwrap, hx⟩, fun hx => ?_⟩
        rcases hx with ⟨hin, -⟩ | ⟨-, hx⟩
        · have hge := hwrap.1
          have hinside : range.startingLba.toNat + range.lengthInLogicalBlocks.toNat ≤ _ := hin
          omega
        · exact hx

/-- The list of ranges: the bytes that one of them reaches. -/
theorem dsmFold_clears (ranges : List NvmeDsmRange) {b : Backing}
    (h : Zeroable ns.backend.type ns.backend.totalBytes b) (hworks : b.2.StorageWorks) :
    Clears ns.backend.type ns.backend.totalBytes (fun x => ∃ range ∈ ranges, range.Reaches ns x) b
      (ranges.foldl (dsmStep ns) b) := by
  -- the backend can be zeroed after every range, so each does what it does alone
  induction ranges generalizing b with
  | nil => exact Clears.unchanged h fun x _ hx => by simp at hx
  | cons range ranges ih =>
      have hone := dsmStep_clears hfits hne range h hworks
      have hrest := ih hone.zeroable (hworks.congr hone.kernel)
      refine (hone.trans hrest).congr fun x _ => ?_
      simp only [List.mem_cons, exists_eq_or_imp]

end Ranges

/-! ## The command -/

/-- Afterwards the bytes that the command asks for are zero, and the others are unchanged. -/
structure Deallocates (m : Media) (ns : Namespace) (r : Request) : Prop where
  zeroed : ∀ x, x < ns.backend.totalBytes.toNat → r.Asks ns x →
    ((r.result m).media.namespaces (vnvmeNsidToIndex r.cmd.nsid)).backend.bytes x = 0
  kept : ∀ x, x < ns.backend.totalBytes.toNat → ¬ r.Asks ns x →
    ((r.result m).media.namespaces (vnvmeNsidToIndex r.cmd.nsid)).backend.bytes x =
      ns.backend.bytes x

section Command

variable {m : Media} {ns : Namespace} {r : Request} (h : ReachableTable m)
  (hns : activeNamespace m r.cmd.nsid = some ns) (hopc : r.cmd.opc = nvmeIoDatasetManagement)
  (hdeallocate : r.cmd.deallocate = true) (hworks : r.os.StorageWorks)

include h hns hopc hdeallocate hworks

/-- What the command zeroes. -/
theorem datasetManagement_clears : ∃ b', Clears ns.backend.type ns.backend.totalBytes
      (r.Reaches ns) (ns.backend, r.os) b' ∧
    ((r.result m).media.namespaces (vnvmeNsidToIndex r.cmd.nsid)).backend = b'.1 := by
  have hfits : ns.Fits := h.fits.active hns
  obtain ⟨hzeroable, hne⟩ := h.zeroable hns hworks.writes
  rw [Request.result_datasetManagement hopc, handleDatasetManagement, hns]
  dsimp only
  rw [hdeallocate, if_neg (by decide : ¬ (!true) = true)]
  by_cases hmapped : (r.os.call .mapIoSpace).1 = true
  · rw [hmapped, if_neg (by decide : ¬ (!true) = true)]
    have hfold := dsmFold_clears hfits hne r.ranges (hzeroable.call .mapIoSpace)
      (hworks.congr rfl)
    obtain ⟨st, hst, -, -⟩ := h.ready hns
    rw [hst]
    rw [backend_eq hst] at hfold ⊢
    refine ⟨_, (⟨hfold.zeroable, hfold.kernel, hfold.cleared, hfold.kept⟩ :
      Clears st.type st.totalBytes _ (st, r.os) _).congr fun x _ => ?_, ?_⟩
    · exact (and_iff_right hmapped).symm
    · dsimp only
      rw [Media.countCommand]
      dsimp only
      rw [setNamespace_self]
      rfl
  · rw [if_pos (by simpa using hmapped)]
    refine ⟨(ns.backend, r.os), Clears.unchanged hzeroable fun x _ hx => hmapped hx.1, ?_⟩
    exact congrArg Namespace.backend (activeNamespace_eq hns).1

/-- **Dataset Management.** The bytes of the ranges inside the namespace become zero and no others
change, exactly if every byte that is not zero yet is asked for where it is reached and reached
where it is asked for. -/
theorem deallocates_iff : Deallocates m ns r ↔
    ∀ x, x < ns.backend.totalBytes.toNat → ns.backend.bytes x ≠ 0 →
      (r.Asks ns x ↔ r.Reaches ns x) := by
  obtain ⟨b', hclears, hafter⟩ := datasetManagement_clears h hns hopc hdeallocate hworks
  constructor
  · rintro ⟨hzeroed, hkept⟩ x hx hbyte
    rw [hafter] at hzeroed hkept
    by_contra hne
    by_cases hreach : r.Reaches ns x
    · have hno : ¬ r.Asks ns x := fun hask => hne (iff_of_true hask hreach)
      exact hbyte ((hkept x hx hno).symm.trans (hclears.cleared x hx hreach))
    · have hask : r.Asks ns x := by
        by_contra hno
        exact hne (iff_of_false hno hreach)
      exact hbyte ((hclears.kept x hx hreach).symm.trans (hzeroed x hx hask))
  · intro hsame
    refine ⟨fun x hx hask => ?_, fun x hx hno => ?_⟩
    · rw [hafter]
      by_cases hbyte : ns.backend.bytes x = 0
      · by_cases hreach : r.Reaches ns x
        · exact hclears.cleared x hx hreach
        · exact (hclears.kept x hx hreach).trans hbyte
      · exact hclears.cleared x hx ((hsame x hx hbyte).mp hask)
    · rw [hafter]
      by_cases hbyte : ns.backend.bytes x = 0
      · by_cases hreach : r.Reaches ns x
        · rw [hbyte]
          exact hclears.cleared x hx hreach
        · exact hclears.kept x hx hreach
      · exact hclears.kept x hx fun hreach => hno ((hsame x hx hbyte).mpr hreach)

end Command

/-- A table with one namespace of 4 GB in a file, whose first block has been written. -/
def largeTable : Media :=
  (handleIoCommand
    (vnvmeHandleCreateNamespace
      { Config.allQueues with storageType := .file, storagePath := [0x43] } {} {}
      { totalBlocks := 0x800000, blockSize := 512 }).2.2.1
    { hostMem := fun _ => 0xAB }
    { opc := nvmeIoWrite, cid := 1, nsid := 1, prp1 := 0x100000 }).media

theorem largeTable_reachable : ReachableTable largeTable :=
  ReachableTable.command _ _ (ReachableTable.create _ {} _ ReachableTable.fresh)

/-- Deallocate one range from block 0 on, with its length in the page at 1 MB. -/
def deallocateBlocks (length : UInt64 → UInt8) : Request where
  os := { hostMem := fun addr => length (addr - 0x100004) }
  cmd := { opc := nvmeIoDatasetManagement, cid := 2, nsid := 1, prp1 := 0x100000, cdw11 := 4 }

/-- Two blocks. -/
theorem deallocates_iff_twoBlocks :
    Deallocates largeTable (largeTable.namespaces 0)
        (deallocateBlocks fun i => if i = 0 then 2 else 0) ↔
      ∀ x, x < (largeTable.namespaces 0).backend.totalBytes.toNat →
        (largeTable.namespaces 0).backend.bytes x ≠ 0 →
        ((deallocateBlocks fun i => if i = 0 then 2 else 0).Asks (largeTable.namespaces 0) x ↔
          (deallocateBlocks fun i => if i = 0 then 2 else 0).Reaches (largeTable.namespaces 0) x) :=
  deallocates_iff largeTable_reachable rfl rfl (by decide)
    ⟨fun _ => rfl, fun _ => rfl, fun _ => rfl⟩

/-- All blocks: `0x800000 * 512` is 0 in 32 bits, and nothing is zeroed. -/
theorem deallocate_everything_keeps :
    ¬ ∀ (m : Media) (ns : Namespace) (r : Request), ReachableTable m →
      activeNamespace m r.cmd.nsid = some ns → r.cmd.opc = nvmeIoDatasetManagement →
      r.cmd.deallocate = true → r.os.StorageWorks → Deallocates m ns r := by
  intro h
  have hdone := h largeTable (largeTable.namespaces 0)
    (deallocateBlocks fun i => if i = 2 then 0x80 else 0) largeTable_reachable rfl rfl (by decide)
    ⟨fun _ => rfl, fun _ => rfl, fun _ => rfl⟩
  have hasked : (deallocateBlocks fun i => if i = 2 then 0x80 else 0).Asks
      (largeTable.namespaces 0) 0 := by
    refine ⟨⟨0x800000, 0⟩, ?_, ?_, ?_, ?_⟩
    · decide
    · exact (by decide : 0 + 0x800000 ≤ 0x800000)
    · decide
    · decide
  have hzero := hdone.zeroed 0 (by decide) hasked
  exact absurd hzero (by decide)

end VirtualNvme
