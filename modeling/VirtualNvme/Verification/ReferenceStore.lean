import VirtualNvme.Runs
import VirtualNvme.Verification.MediaAccess
import VirtualNvme.Verification.PrpTransfer

/-!
# A memory namespace is an array of bytes

A memory-backed namespace against a reference: an array of bytes in which a Write replaces the
bytes of its blocks by the bytes of its data pages, and a Write Zeroes by zeroes. Through every
run of Reads, Writes and Write Zeroes inside the namespace, the bytes of the namespace are those
of the reference, and a Read leaves them in its data pages. Between two commands the host may do
to its memory what it likes.
-/

namespace VirtualNvme

open Scatter Runs

/-! ## The reference -/

/-- Replace the `n` bytes from `start` on. -/
def splice (ref : Nat → UInt8) (start n : Nat) (bytes : Nat → UInt8) : Nat → UInt8 :=
  fun b => if start ≤ b ∧ b < start + n then bytes (b - start) else ref b

/-- The NLB field, which is 0 for one block. -/
def NvmeCommand.nlbField (cmd : NvmeCommand) : Nat := cmd.cdw12.toNat % 65536

/-- A command, with host memory as it finds it and the answers of the kernel. -/
structure Request where
  os : Os
  cmd : NvmeCommand

/-- The first byte of the range of a command. -/
def Request.start (ns : Namespace) (r : Request) : Nat := r.cmd.slba.toNat * ns.blockSize.toNat

/-- The number of bytes in the range of a command. -/
def Request.size (ns : Namespace) (r : Request) : Nat :=
  (r.cmd.nlbField + 1) * ns.blockSize.toNat

/-- The host address of byte `i` of the data. -/
def Request.address (ns : Namespace) (r : Request) (i : Nat) : UInt64 :=
  dataAddress r.os.hostMem r.cmd.prp1 r.cmd.prp2 (r.size ns) i

/-- What a command does to the reference. -/
def Request.update (ns : Namespace) (ref : Nat → UInt8) (r : Request) : Nat → UInt8 :=
  if r.cmd.opc = nvmeIoWrite then
    splice ref (r.start ns) (r.size ns) fun i => r.os.hostMem (r.address ns i)
  else if r.cmd.opc = nvmeIoWriteZeroes then
    splice ref (r.start ns) (r.size ns) fun _ => 0
  else ref

/-- A Read, Write or Write Zeroes of at most 65535 blocks inside the namespace, by a kernel whose
calls succeed, with aligned PRPs if it has data. -/
structure Request.Proper (ns : Namespace) (nsid : UInt32) (r : Request) : Prop where
  nsid : r.cmd.nsid = nsid
  opcode : r.cmd.opc = nvmeIoRead ∨ r.cmd.opc = nvmeIoWrite ∨ r.cmd.opc = nvmeIoWriteZeroes
  field : r.cmd.nlbField < 65535
  inside : r.cmd.slba.toNat + r.cmd.nlbField + 1 ≤ ns.totalBlocks.toNat
  works : r.os.Works
  prps : r.cmd.opc ≠ nvmeIoWriteZeroes →
    AlignedPrps r.os.hostMem r.cmd.prp1 r.cmd.prp2 (r.size ns)

/-! ## The controller -/

/-- The bytes of a memory-backed namespace. -/
def Namespace.bytes (ns : Namespace) : Nat → UInt8 :=
  fun b => (ns.backend.memoryBuffer.getD fun _ => 0) (UInt64.ofNat b)

/-- The command is carried out. -/
def Request.result (m : Media) (r : Request) : IoResult := handleIoCommand m r.os r.cmd

section Dispatch

variable {m : Media} {r : Request}

theorem Request.result_read (hopc : r.cmd.opc = nvmeIoRead) :
    r.result m = handleRead m r.os r.cmd := by
  rw [Request.result, handleIoCommand, if_pos hopc]

theorem Request.result_write (hopc : r.cmd.opc = nvmeIoWrite) :
    r.result m = handleWrite m r.os r.cmd := by
  rw [Request.result, handleIoCommand, hopc]
  rfl

theorem Request.result_writeZeroes (hopc : r.cmd.opc = nvmeIoWriteZeroes) :
    r.result m = handleWriteZeroes m r.os r.cmd := by
  rw [Request.result, handleIoCommand, hopc]
  rfl

theorem Request.result_datasetManagement (hopc : r.cmd.opc = nvmeIoDatasetManagement) :
    r.result m = handleDatasetManagement m r.os r.cmd := by
  rw [Request.result, handleIoCommand, hopc]
  rfl

theorem Request.result_compare (hopc : r.cmd.opc = nvmeIoCompare) :
    r.result m = handleCompare m r.os r.cmd := by
  rw [Request.result, handleIoCommand, hopc]
  rfl

end Dispatch

def IoResult.Succeeds (r : IoResult) : Prop := r.sct = nvmeSctGeneric ∧ r.sc = nvmeScSuccess

instance (r : IoResult) : Decidable r.Succeeds := inferInstanceAs (Decidable (_ ∧ _))

/-- The controller, with the reference beside it: only a command that succeeds changes it. -/
def referenceStep (ns : Namespace) (s : Media × (Nat → UInt8)) (r : Request) :
    Media × (Nat → UInt8) :=
  ((r.result s.1).media, if (r.result s.1).Succeeds then r.update ns s.2 else s.2)

/-- A Read that succeeds leaves the bytes of the reference in its data pages. -/
def ReadsReference (ns : Namespace) (s : Media × (Nat → UInt8)) (r : Request) : Prop :=
  r.cmd.opc = nvmeIoRead → (r.result s.1).Succeeds →
    ∀ i, i < r.size ns → (r.result s.1).os.hostMem (r.address ns i) = s.2 (r.start ns + i)

/-- The namespace has the bytes of the reference. -/
def HoldsReference (ns : Namespace) (nsid : UInt32) (s : Media × (Nat → UInt8)) : Prop :=
  ∀ b, b < ns.backend.totalBytes.toNat →
    (s.1.namespaces (vnvmeNsidToIndex nsid)).bytes b = s.2 b

/-! ## The range of a command -/

/-- A range of at most 65535 blocks inside the namespace. -/
structure Request.Inside (ns : Namespace) (r : Request) : Prop where
  field : r.cmd.nlbField < 65535
  inside : r.cmd.slba.toNat + r.cmd.nlbField + 1 ≤ ns.totalBlocks.toNat

theorem Request.Proper.range {ns : Namespace} {nsid : UInt32} {r : Request}
    (h : r.Proper ns nsid) : r.Inside ns :=
  ⟨h.field, h.inside⟩

/-- The number of blocks has 16 bits, so the largest field counts as no block. -/
theorem Request.nlb_toNat (r : Request) : r.cmd.nlb.toNat = (r.cmd.nlbField + 1) % 65536 := by
  have h1 : (1 : UInt16).toNat = 1 := rfl
  unfold NvmeCommand.nlbField
  rw [NvmeCommand.nlb, UInt16.toNat_add, UInt32.toNat_toUInt16, h1]

section Range

variable {ns : Namespace} (h : ns.Fits) {r : Request} (hr : r.Inside ns)

include hr in
theorem Request.Inside.nlb_toNat : r.cmd.nlb.toNat = r.cmd.nlbField + 1 := by
  have hfield := hr.field
  rw [r.nlb_toNat, Nat.mod_eq_of_lt (by omega)]

include h

theorem Request.size_toNat (hfield : r.cmd.nlbField < 65535) :
    (commandBytes ns r.cmd).toNat = r.size ns ∧
      (commandBytes ns r.cmd).toUInt32.toNat = r.size ns := by
  have hbytes := commandBytes_toNat h r.cmd
  rwa [r.nlb_toNat, Nat.mod_eq_of_lt (by omega)] at hbytes

include hr

theorem Request.Inside.size_toNat :
    (commandBytes ns r.cmd).toNat = r.size ns ∧
      (commandBytes ns r.cmd).toUInt32.toNat = r.size ns :=
  Request.size_toNat h hr.field

omit hr in
theorem Request.size_pos (r : Request) : 0 < r.size ns := by
  have hpos : 0 < ns.blockSize.toNat := by
    rcases blockSize_toNat h with hbs | hbs
    · omega
    · omega
  exact Nat.mul_pos (Nat.succ_pos _) hpos

theorem Request.Inside.end_le : r.start ns + r.size ns ≤ ns.backend.totalBytes.toNat := by
  rw [Request.start, Request.size, ← Nat.add_mul, h.totalBytes, ← Nat.add_assoc]
  exact Nat.mul_le_mul_right _ hr.inside

theorem Request.Inside.start_toNat :
    (vnvmeBlocksToBytes r.cmd.slba ns.blockSize).toNat = r.start ns := by
  have hinside := hr.inside
  exact byteOffset_of_plain h (by omega)

omit h in
theorem Request.Inside.lbaRangeValid :
    vnvmeLbaRangeValid r.cmd.slba r.cmd.nlb.toUInt64 ns.totalBlocks = true := by
  have hinside := hr.inside
  refine (lbaRangeValid_iff _ _ _).mpr (Or.inl ?_)
  rw [UInt16.toNat_toUInt64, hr.nlb_toNat]
  omega

end Range

/-! ## The memory backend -/

/-- Bytes stored from `base` on, without a wrap, replace a part of the array. -/
theorem scatter_eq_splice (buf : UInt64 → UInt8) {base : UInt64} {n : Nat}
    (hend : base.toNat + n ≤ 2 ^ 64) (v : Nat → UInt8) {b : Nat} (hb : b < 2 ^ 64) :
    scatter buf (cells (fun i => base + UInt64.ofNat i) v n) (UInt64.ofNat b) =
      splice (fun b => buf (UInt64.ofNat b)) base.toNat n v b := by
  have hbase : UInt64.ofNat base.toNat = base := UInt64.ofNat_toNat
  unfold splice
  split_ifs with hin
  · have hcell : scatter buf (cells (fun i => base + UInt64.ofNat i) v n)
        (base + UInt64.ofNat (b - base.toNat)) = _ :=
      scatter_cells_of_lt (injOn_add base (by omega)) (by omega : b - base.toNat < n)
    rw [← hcell]
    congr 1
    rw [← hbase, ← UInt64.ofNat_add, UInt64.toNat_ofNat_of_lt' base.toNat_lt]
    congr 1
    omega
  · refine scatter_cells_of_ne fun i hi heq => hin ?_
    have hnat := congrArg UInt64.toNat heq
    rw [UInt64.toNat_ofNat_of_lt' hb, UInt64.toNat_add,
      UInt64.toNat_ofNat_of_lt' (Nat.lt_of_lt_of_le hi (by omega : n ≤ 2 ^ 64)),
      Nat.mod_eq_of_lt (by omega)] at hnat
    omega

/-- A copy, without a wrap, replaces a part of the array. -/
theorem copyBytes_splice (dst : UInt64 → UInt8) {base : UInt64} {n : Nat}
    (hend : base.toNat + n ≤ 2 ^ 64) (src : UInt64 → UInt8) (first : UInt64) {b : Nat}
    (hb : b < 2 ^ 64) :
    copyBytes dst base src first n (UInt64.ofNat b) =
      splice (fun b => dst (UInt64.ofNat b)) base.toNat n
        (fun i => src (first + UInt64.ofNat i)) b := by
  rw [copyBytes_eq_scatter _ _ _ _ (by omega), scatter_eq_splice dst hend _ hb]

section Memory

variable {st : StorageContext} (h : MemoryBacked st) {mem : UInt64 → UInt8}
  (hmem : st.memoryBuffer = some mem)

theorem not_outOfRange {offset : UInt64} {length : UInt32} (hcap : st.totalBytes.toNat < 2 ^ 64)
    (hin : offset.toNat + length.toNat ≤ st.totalBytes.toNat) :
    st.outOfRange offset length = false := by
  refine eq_false_of_ne_true fun hout => ?_
  rw [outOfRange_iff, Nat.mod_eq_of_lt (by omega)] at hout
  omega

include h hmem

theorem getDirect_inside {offset : UInt64} {length : UInt32}
    (hin : offset.toNat + length.toNat ≤ st.totalBytes.toNat) :
    vnvmeStorageGetDirect st offset length = (.success, st.touch offset length) := by
  have hout := not_outOfRange st.totalBytes.toNat_lt hin
  simp only [vnvmeStorageGetDirect, h.type, storageMemoryGetDirect, hmem, hout,
    Bool.false_eq_true, ↓reduceIte]

/-- One chunk of zeroes. -/
theorem storageWriteZeroes_inside {offset : UInt64} {length : UInt32} (os : Os)
    (hin : offset.toNat + length.toNat ≤ st.totalBytes.toNat) :
    ∃ st', vnvmeStorageWriteZeroes (st, os) offset length = (.success, st', os) ∧
      MemoryBacked st' ∧ st'.totalBytes = st.totalBytes ∧
      st'.memoryBuffer = some
        (scatter mem (cells (fun i => offset + UInt64.ofNat i) (fun _ => 0) length.toNat)) := by
  have hout := not_outOfRange st.totalBytes.toNat_lt hin
  have hmax : length.toNat ≤ 2 ^ 64 := Nat.le_of_lt (Nat.lt_trans length.toNat_lt (by decide))
  refine ⟨{ (st.touch offset length).countWrite length with
    memoryBuffer := some (copyBytes mem offset (fun _ => 0) 0 length.toNat) }, ?_,
    ⟨h.type, rfl, h.writable⟩, rfl, ?_⟩
  · simp only [vnvmeStorageWriteZeroes, h.type, storageMemoryWriteZeroes, storageMemoryWrite, hmem,
      h.writable, hout, Bool.false_eq_true, ↓reduceIte]
  · exact congrArg some (copyBytes_eq_scatter mem offset (fun _ => 0) 0 hmax)

end Memory

/-- The write-zeroes loop: chunk after chunk, until the whole range is zero. -/
theorem zeroChunks_inside (fuel : Nat) {st : StorageContext} (h : MemoryBacked st)
    {mem : UInt64 → UInt8} (hmem : st.memoryBuffer = some mem) (os : Os)
    (offset remaining : UInt64) (hfuel : remaining.toNat < fuel)
    (hin : offset.toNat + remaining.toNat ≤ st.totalBytes.toNat) :
    ∃ st', zeroChunks writeZeroesChunkSize vnvmeStorageWriteZeroes fuel (st, os) offset remaining =
        (.success, st', os) ∧
      st'.memoryBuffer = some
        (scatter mem (cells (fun i => offset + UInt64.ofNat i) (fun _ => 0) remaining.toNat)) := by
  refine zeroChunks_rule (by decide) (by decide) (P := fun b offset remaining r =>
    MemoryBacked b.1 → ∀ mem, b.1.memoryBuffer = some mem →
    offset.toNat + remaining.toNat ≤ b.1.totalBytes.toNat →
    ∃ st', r = (.success, st', b.2) ∧ st'.memoryBuffer = some
      (scatter mem (cells (fun i => offset + UInt64.ofNat i) (fun _ => 0) remaining.toNat)))
    ?_ ?_ ?_ fuel (st, os) offset remaining hfuel h mem hmem hin
  · exact fun b offset h mem hmem _ => ⟨b.1, rfl, hmem⟩
  · intro b offset remaining chunk r hchunk hok hrest h mem hmem hin
    have hlength := hchunk.length
    have hlength32 := hchunk.length32
    have hleft := hchunk.rest
    have hlt := b.1.totalBytes.toNat_lt
    obtain ⟨st', hst', hbacked, htotal, hbuffer⟩ := storageWriteZeroes_inside h hmem b.2
      (by omega : offset.toNat + chunk.toUInt32.toNat ≤ _)
    have hoffset : (offset + chunk).toNat = offset.toNat + chunk.toNat := by
      rw [UInt64.toNat_add, Nat.mod_eq_of_lt (by omega)]
    rw [hst'] at hrest
    obtain ⟨st'', hst'', hbuffer'⟩ := hrest hbacked _ hbuffer (by
      show _ ≤ st'.totalBytes.toNat
      rw [htotal]
      omega)
    refine ⟨st'', hst'', ?_⟩
    have hsum : remaining.toNat = chunk.toUInt32.toNat + (remaining - chunk).toNat := by omega
    have hcast : chunk = UInt64.ofNat chunk.toUInt32.toNat := by
      rw [hlength32, UInt64.ofNat_toNat]
    rw [hbuffer', ← scatter_append, hsum, cells_add]
    congr 3
    refine cells_congr (fun i _ => ?_) fun _ _ => rfl
    rw [UInt64.ofNat_add, ← hcast, UInt64.add_assoc]
  · intro b offset remaining chunk hchunk hfails h mem hmem hin
    have hlength := hchunk.length
    obtain ⟨st', hst', -⟩ := storageWriteZeroes_inside h hmem b.2
      (by rw [hchunk.length32]; omega : offset.toNat + chunk.toUInt32.toNat ≤ _)
    exact absurd (congrArg (fun r => r.1.ntSuccess) hst') hfails

/-! ## One command -/

/-- The addresses that the command gives, if it has data, are valid. -/
def Request.ValidAddresses (ns : Namespace) (r : Request) : Prop :=
  r.cmd.opc ≠ nvmeIoWriteZeroes →
    ValidPrps r.os.hostMem r.cmd.prp1 r.cmd.prp2 (r.size ns)

/-- A command succeeds, updates the namespace like the reference, and a Read leaves the bytes of
the namespace in its data pages; or an address is invalid and nothing is changed. -/
def Request.Outcome (ns : Namespace) (r : Request) (res : IoResult) : Prop :=
  let ns' := res.media.namespaces (vnvmeNsidToIndex r.cmd.nsid)
  (res.Succeeds ∧ (∀ b, b < ns.backend.totalBytes.toNat → ns'.bytes b = r.update ns ns.bytes b) ∧
    (r.cmd.opc = nvmeIoRead → ∀ i, i < r.size ns →
      res.os.hostMem (r.address ns i) = ns.bytes (r.start ns + i))) ∨
  (¬ res.Succeeds ∧ ¬ r.ValidAddresses ns ∧ ns'.bytes = ns.bytes)

theorem internalError_fails (m : Media) (os : Os) :
    ¬ (IoResult.mk m os nvmeSctGeneric nvmeScInternalError).Succeeds := by
  rintro ⟨-, hsc⟩
  have hsc : nvmeScInternalError = nvmeScSuccess := hsc
  exact absurd hsc (by decide)

theorem setNamespace_self (m : Media) (nsid : UInt32) (ns : Namespace) :
    (m.setNamespace nsid ns).namespaces (vnvmeNsidToIndex nsid) = ns :=
  Function.update_self _ _ _

section Command

variable {m : Media} {ns : Namespace} {r : Request} {nsid : UInt32} {st : StorageContext}
  {mem : UInt64 → UInt8} (hns : activeNamespace m r.cmd.nsid = some ns) (h : ns.Fits)
  (hst : ns.storage = some st) (hbacked : MemoryBacked st) (hmem : st.memoryBuffer = some mem)
  (hr : r.Proper ns nsid)

theorem bytes_of_storage {ns : Namespace} {st : StorageContext} {mem : UInt64 → UInt8}
    (hst : ns.storage = some st) (hmem : st.memoryBuffer = some mem) (b : Nat) :
    ns.bytes b = mem (UInt64.ofNat b) := by
  rw [Namespace.bytes, backend_eq hst, hmem]
  rfl

/-- A range that was handed out has not changed. -/
theorem bytes_of_touch {ns ns' : Namespace} {st : StorageContext} {mem : UInt64 → UInt8}
    {offset : UInt64} {length : UInt32} (hst : ns.storage = some st)
    (hmem : st.memoryBuffer = some mem) (hst' : ns'.storage = some (st.touch offset length)) :
    ns'.bytes = ns.bytes := by
  have hmem' : (st.touch offset length).memoryBuffer = some mem := hmem
  funext b
  rw [bytes_of_storage hst hmem, bytes_of_storage hst' hmem']

include h hst hbacked hmem hr in
theorem readSource_inside :
    readSource ns r.os (vnvmeBlocksToBytes r.cmd.slba ns.blockSize) (commandBytes ns r.cmd) =
      (.ok (mem, vnvmeBlocksToBytes r.cmd.slba ns.blockSize),
        { ns with storage := some (st.touch (vnvmeBlocksToBytes r.cmd.slba ns.blockSize)
          (commandBytes ns r.cmd).toUInt32) }, r.os) := by
  have hend := hr.range.end_le h
  rw [backend_eq hst, ← hr.range.start_toNat h, ← (hr.range.size_toNat h).2] at hend
  have hdirect := getDirect_inside hbacked hmem hend
  have hbuffer : (st.touch (vnvmeBlocksToBytes r.cmd.slba ns.blockSize)
      (commandBytes ns r.cmd).toUInt32).memoryBuffer = some mem := hmem
  simp only [readSource, hst, hdirect, NtStatus.ntSuccess, decide_true, ↓reduceIte, hbuffer,
    Option.getD_some]

include h hr in
/-- The parser on the PRPs of a command with data. -/
theorem parse_outcome (hdata : r.cmd.opc ≠ nvmeIoWriteZeroes) :
    (∃ status, (vnvmeParsePrpList r.os r.cmd.prp1 r.cmd.prp2
        (commandBytes ns r.cmd).toUInt32).1 = .error status ∧ ¬ r.ValidAddresses ns) ∨
    ∃ es, (vnvmeParsePrpList r.os r.cmd.prp1 r.cmd.prp2
        (commandBytes ns r.cmd).toUInt32).1 = .ok es ∧
      Names es (r.size ns) (r.address ns) ∧
      (vnvmeParsePrpList r.os r.cmd.prp1 r.cmd.prp2 (commandBytes ns r.cmd).toUInt32).2.Works ∧
      (vnvmeParsePrpList r.os r.cmd.prp1 r.cmd.prp2
        (commandBytes ns r.cmd).toUInt32).2.hostMem = r.os.hostMem := by
  have hsize := (hr.range.size_toNat h).2
  have hprps := hr.prps hdata
  rw [← hsize] at hprps
  have hpos : 0 < (commandBytes ns r.cmd).toUInt32.toNat := by
    rw [hsize]
    exact r.size_pos h
  rcases vnvmeParsePrpList_cases hr.works hpos hprps with ⟨status, herr, hinvalid⟩ | hok
  · refine Or.inl ⟨status, herr, fun hv => hinvalid ?_⟩
    rw [hsize]
    exact hv hdata
  · rw [hsize] at hok
    exact Or.inr hok

include hns h hst hbacked hmem hr in
theorem handleRead_outcome (hopc : r.cmd.opc = nvmeIoRead) :
    r.Outcome ns (handleRead m r.os r.cmd) := by
  have hdata : r.cmd.opc ≠ nvmeIoWriteZeroes := by
    rw [hopc]
    decide
  rw [handleRead, hns]
  dsimp only
  rw [hr.range.lbaRangeValid, if_neg (by decide : ¬ (!true) = true), ← commandBytes,
    readSource_inside h hst hbacked hmem hr]
  dsimp only
  rcases parse_outcome h hr hdata with ⟨status, herr, hinvalid⟩ | ⟨es, hok, hnames, hworks, hhost⟩
  · rw [herr]
    exact Or.inr ⟨internalError_fails _ _, hinvalid,
      bytes_of_touch hst hmem (congrArg Namespace.storage (setNamespace_self _ _ _))⟩
  · rw [hok]
    refine Or.inl ⟨⟨rfl, rfl⟩, fun b hb => ?_, fun _ i hi => ?_⟩
    · have hupdate : r.update ns ns.bytes = ns.bytes := by
        rw [Request.update, hopc, if_neg (by decide), if_neg (by decide)]
      rw [hupdate]
      exact congrFun (bytes_of_touch hst hmem
        (congrArg Namespace.storage (setNamespace_self _ _ _))) b
    · have hinj := (hr.prps hdata).injOn
      rw [bytes_of_storage hst hmem, UInt64.ofNat_add, ← hr.range.start_toNat h, UInt64.ofNat_toNat]
      exact hnames.toHost hworks mem (hr.range.size_toNat h).1 hinj hi

include h hst hbacked hmem hr in
theorem writeTarget_inside :
    writeTarget ns r.os (vnvmeBlocksToBytes r.cmd.slba ns.blockSize) (commandBytes ns r.cmd) =
      (.ok .direct,
        { ns with storage := some (st.touch (vnvmeBlocksToBytes r.cmd.slba ns.blockSize)
          (commandBytes ns r.cmd).toUInt32) }, r.os) := by
  have hend := hr.range.end_le h
  rw [backend_eq hst, ← hr.range.start_toNat h, ← (hr.range.size_toNat h).2] at hend
  have hdirect := getDirect_inside hbacked hmem hend
  simp only [writeTarget, hst, hdirect, NtStatus.ntSuccess, decide_true, ↓reduceIte]

include h hst hmem hr in
/-- A namespace with the bytes `v` stored over the range of the command. -/
theorem bytes_of_scatter {ns' : Namespace} {st' : StorageContext} {v : Nat → UInt8}
    (hst' : ns'.storage = some st')
    (hmem' : st'.memoryBuffer = some (scatter mem (cells
      (fun i => vnvmeBlocksToBytes r.cmd.slba ns.blockSize + UInt64.ofNat i) v (r.size ns))))
    {b : Nat} (hb : b < ns.backend.totalBytes.toNat) :
    ns'.bytes b = splice ns.bytes (r.start ns) (r.size ns) v b := by
  have hbytes : ns.bytes = fun b => mem (UInt64.ofNat b) :=
    funext fun b => bytes_of_storage hst hmem b
  have hstart := hr.range.start_toNat h
  have hend := hr.range.end_le h
  have hcap := h.capacity
  rw [bytes_of_storage hst' hmem', hbytes, ← hstart]
  exact scatter_eq_splice mem (by omega) v (by omega)

include hns h hst hbacked hmem hr in
theorem handleWrite_outcome (hopc : r.cmd.opc = nvmeIoWrite) :
    r.Outcome ns (handleWrite m r.os r.cmd) := by
  have hdata : r.cmd.opc ≠ nvmeIoWriteZeroes := by
    rw [hopc]
    decide
  rw [handleWrite, hns]
  dsimp only
  rw [hr.range.lbaRangeValid, if_neg (by decide : ¬ (!true) = true), ← commandBytes,
    writeTarget_inside h hst hbacked hmem hr]
  dsimp only [writeData]
  rcases parse_outcome h hr hdata with ⟨status, herr, hinvalid⟩ | ⟨es, hok, hnames, hworks, hhost⟩
  · rw [herr]
    dsimp only
    exact Or.inr ⟨internalError_fails _ _, hinvalid,
      bytes_of_touch hst hmem (congrArg Namespace.storage (setNamespace_self _ _ _))⟩
  · rw [hok]
    dsimp only
    refine Or.inl ⟨⟨rfl, rfl⟩, fun b hb => ?_, fun hread => ?_⟩
    · rw [Request.update, if_pos hopc]
      refine bytes_of_scatter h hst hmem hr
        (congrArg Namespace.storage (setNamespace_self _ _ _)) ?_ hb
      have hbuffer := hnames.fromHost hworks mem (hr.range.size_toNat h).1
        (vnvmeBlocksToBytes r.cmd.slba ns.blockSize)
      rw [hhost] at hbuffer
      have hdirect : ((some (st.touch (vnvmeBlocksToBytes r.cmd.slba ns.blockSize)
          (commandBytes ns r.cmd).toUInt32)).bind (·.memoryBuffer)).getD (fun _ => 0) = mem :=
        congrArg (fun buffer => Option.getD buffer _) hmem
      rw [← hbuffer, hdirect]
    · rw [hopc] at hread
      exact absurd hread (by decide)

include hns h hst hbacked hmem hr in
theorem handleWriteZeroes_outcome (hopc : r.cmd.opc = nvmeIoWriteZeroes) :
    r.Outcome ns (handleWriteZeroes m r.os r.cmd) := by
  have hend := hr.range.end_le h
  rw [backend_eq hst, ← hr.range.start_toNat h, ← (hr.range.size_toNat h).1] at hend
  obtain ⟨st', hzero, hmem'⟩ := zeroChunks_inside ((commandBytes ns r.cmd).toNat + 1) hbacked hmem
    r.os _ _ (Nat.lt_succ_self _) hend
  rw [(hr.range.size_toNat h).1] at hmem'
  rw [handleWriteZeroes, hns]
  dsimp only
  rw [hr.range.lbaRangeValid, if_neg (by decide : ¬ (!true) = true), ← commandBytes, hst]
  dsimp only
  rw [hzero, if_pos (by rfl : NtStatus.success.ntSuccess = true)]
  refine Or.inl ⟨⟨rfl, rfl⟩, fun b hb => ?_, fun hread => ?_⟩
  · rw [Request.update, hopc, if_neg (by decide), if_pos rfl]
    exact bytes_of_scatter h hst hmem hr (congrArg Namespace.storage (setNamespace_self _ _ _))
      hmem' hb
  · rw [hopc] at hread
    exact absurd hread (by decide)

end Command

/-- **One command on a memory-backed namespace.** -/
theorem Request.Proper.outcome {m : Media} {ns : Namespace} {nsid : UInt32} {r : Request}
    (hr : r.Proper ns nsid) (hns : activeNamespace m nsid = some ns) (h : ns.Fits)
    (hmemory : ns.backend.type = .memory) : r.Outcome ns (r.result m) := by
  obtain ⟨st, hst⟩ : ∃ st, ns.storage = some st := by
    cases hst : ns.storage with
    | none =>
        rw [Namespace.backend, hst] at hmemory
        cases hmemory
    | some st => exact ⟨st, rfl⟩
  have hbacked := h.sound hmemory
  rw [backend_eq hst] at hbacked
  obtain ⟨mem, hmem⟩ := Option.isSome_iff_exists.mp hbacked.buffer
  rw [← hr.nsid] at hns
  rcases hr.opcode with hopc | hopc | hopc
  · rw [Request.result_read hopc]
    exact handleRead_outcome hns h hst hbacked hmem hr hopc
  · rw [Request.result_write hopc]
    exact handleWrite_outcome hns h hst hbacked hmem hr hopc
  · rw [Request.result_writeZeroes hopc]
    exact handleWriteZeroes_outcome hns h hst hbacked hmem hr hopc

/-! ## A run -/

section Geometry

variable {ns ns' : Namespace} (hbs : ns'.blockSize = ns.blockSize) (r : Request)

include hbs

theorem Request.size_congr : r.size ns' = r.size ns := by
  rw [Request.size, Request.size, hbs]

theorem Request.start_congr : r.start ns' = r.start ns := by
  rw [Request.start, Request.start, hbs]

theorem Request.address_congr : r.address ns' = r.address ns := by
  funext i
  rw [Request.address, Request.address, r.size_congr hbs]

theorem Request.update_congr (ref : Nat → UInt8) : r.update ns' ref = r.update ns ref := by
  rw [Request.update, Request.update, r.size_congr hbs, r.start_congr hbs, r.address_congr hbs]

theorem Request.Proper.congr {r : Request} (htb : ns'.totalBlocks = ns.totalBlocks)
    {nsid : UInt32} (hr : r.Proper ns nsid) : r.Proper ns' nsid where
  nsid := hr.nsid
  opcode := hr.opcode
  field := hr.field
  inside := htb ▸ hr.inside
  works := hr.works
  prps := by
    rw [r.size_congr hbs]
    exact hr.prps

end Geometry

theorem splice_apply {ref ref' : Nat → UInt8} {b : Nat} (heq : ref b = ref' b) (start n : Nat)
    (bytes : Nat → UInt8) : splice ref start n bytes b = splice ref' start n bytes b := by
  unfold splice
  rw [heq]

/-- Where two arrays agree, they agree after a command. -/
theorem Request.update_apply (ns : Namespace) (r : Request) {ref ref' : Nat → UInt8} {b : Nat}
    (heq : ref b = ref' b) : r.update ns ref b = r.update ns ref' b := by
  unfold Request.update
  split_ifs
  · exact splice_apply heq _ _ _
  · exact splice_apply heq _ _ _
  · exact heq

/-- A command changes the reference in its own range only. -/
theorem Request.update_outside (ns : Namespace) (r : Request) (ref : Nat → UInt8) {b : Nat}
    (hout : r.cmd.opc ≠ nvmeIoRead → ¬ (r.start ns ≤ b ∧ b < r.start ns + r.size ns)) :
    r.update ns ref b = ref b := by
  have hne {opc : UInt8} (hopc : r.cmd.opc = opc) (h : opc ≠ nvmeIoRead) :
      ¬ (r.start ns ≤ b ∧ b < r.start ns + r.size ns) := hout (hopc ▸ h)
  unfold Request.update
  split_ifs with hwrite hzeroes
  · exact if_neg (hne hwrite (by decide))
  · exact if_neg (hne hzeroes (by decide))
  · rfl

/-- The controller stays the one of `ns`, and the namespace holds the reference. -/
structure Alongside (ns : Namespace) (nsid : UInt32) (s : Media × (Nat → UInt8)) : Prop where
  fits : TableFits s.1
  active : activeNamespace s.1 nsid = some (s.1.namespaces (vnvmeNsidToIndex nsid))
  blockSize : (s.1.namespaces (vnvmeNsidToIndex nsid)).blockSize = ns.blockSize
  totalBlocks : (s.1.namespaces (vnvmeNsidToIndex nsid)).totalBlocks = ns.totalBlocks
  memory : (s.1.namespaces (vnvmeNsidToIndex nsid)).backend.type = .memory
  totalBytes : (s.1.namespaces (vnvmeNsidToIndex nsid)).backend.totalBytes = ns.backend.totalBytes
  holds : HoldsReference ns nsid s

section Run

variable {ns : Namespace} {nsid : UInt32} {s : Media × (Nat → UInt8)}

theorem activeNamespace_accessed {m m' : Media} {new : Nat → List (UInt64 × UInt32)}
    (ha : MediaAccessed m m' new) {ns : Namespace} (hns : activeNamespace m nsid = some ns) :
    activeNamespace m' nsid = some (m'.namespaces (vnvmeNsidToIndex nsid)) := by
  unfold activeNamespace at hns ⊢
  dsimp only at hns ⊢
  split at hns
  · rename_i hvalid
    rw [← (ha _).active] at hvalid
    rw [if_pos hvalid]
  · cases hns

/-- What a command does in a state of the run. -/
theorem Alongside.outcome (h : Alongside ns nsid s) {r : Request} (hr : r.Proper ns nsid) :
    r.Outcome (s.1.namespaces (vnvmeNsidToIndex nsid)) (r.result s.1) := by
  have hfits := h.fits _ (activeNamespace_eq h.active).2
  exact (hr.congr h.blockSize h.totalBlocks).outcome h.active hfits h.memory

theorem Alongside.step (h : Alongside ns nsid s) {r : Request} (hr : r.Proper ns nsid) :
    Alongside ns nsid (referenceStep ns s r) := by
  obtain ⟨new, ha, -⟩ := handleIoCommand_accessed h.fits r.os r.cmd
  have hslot := ha (vnvmeNsidToIndex nsid)
  refine ⟨command_fits h.fits r.os r.cmd, activeNamespace_accessed ha h.active,
    hslot.blockSize.trans h.blockSize, hslot.totalBlocks.trans h.totalBlocks,
    hslot.touches.type.trans h.memory, hslot.touches.totalBytes.trans h.totalBytes,
    fun b hb => ?_⟩
  have hheld := h.holds b hb
  rcases h.outcome hr with ⟨hsucceeds, hbytes, -⟩ | ⟨hfails, -, hbytes⟩
  · rw [hr.nsid, h.totalBytes] at hbytes
    show ((r.result s.1).media.namespaces (vnvmeNsidToIndex nsid)).bytes b =
      (if (r.result s.1).Succeeds then r.update ns s.2 else s.2) b
    rw [if_pos hsucceeds, hbytes b hb, r.update_congr h.blockSize]
    exact r.update_apply ns hheld
  · rw [hr.nsid] at hbytes
    show ((r.result s.1).media.namespaces (vnvmeNsidToIndex nsid)).bytes b =
      (if (r.result s.1).Succeeds then r.update ns s.2 else s.2) b
    rw [if_neg hfails, hbytes]
    exact hheld

theorem Alongside.reads (h : Alongside ns nsid s) {r : Request} (hr : r.Proper ns nsid) :
    ReadsReference ns s r := by
  intro hread hsucceeds i hi
  rcases h.outcome hr with ⟨-, -, hdata⟩ | ⟨hfails, -, -⟩
  · have hbyte := hdata hread i (by rwa [r.size_congr h.blockSize])
    rw [r.address_congr h.blockSize, r.start_congr h.blockSize] at hbyte
    rw [hbyte]
    have hfits := h.fits _ (activeNamespace_eq h.active).2
    have hend := (hr.congr h.blockSize h.totalBlocks).range.end_le hfits
    rw [r.start_congr h.blockSize, r.size_congr h.blockSize, h.totalBytes] at hend
    exact h.holds _ (by omega)
  · exact absurd hsucceeds hfails

theorem Alongside.succeeds (h : Alongside ns nsid s) {r : Request} (hr : r.Proper ns nsid)
    (hvalid : r.ValidAddresses ns) : (r.result s.1).Succeeds := by
  rcases h.outcome hr with ⟨hsucceeds, -⟩ | ⟨-, hinvalid, -⟩
  · exact hsucceeds
  · refine absurd (fun hdata => ?_) hinvalid
    rw [r.size_congr h.blockSize]
    exact hvalid hdata

end Run

/-- The reference changes in the ranges of the Writes and Write Zeroes only. -/
theorem reference_outside (ns : Namespace) {reqs : List Request} {b : Nat}
    (hout : ∀ r ∈ reqs, r.cmd.opc ≠ nvmeIoRead →
      ¬ (r.start ns ≤ b ∧ b < r.start ns + r.size ns)) (s : Media × (Nat → UInt8)) :
    (run (referenceStep ns) s reqs).2 b = s.2 b := by
  induction reqs generalizing s with
  | nil => rfl
  | cons r reqs ih =>
      obtain ⟨hr, hrest⟩ := List.forall_mem_cons.mp hout
      refine (ih hrest (referenceStep ns s r)).trans ?_
      show (if (r.result s.1).Succeeds then r.update ns s.2 else s.2) b = s.2 b
      split_ifs
      · exact r.update_outside ns s.2 hr
      · rfl

/-- **A memory namespace is an array of bytes.** Through any run of commands on it, a Read that
succeeds leaves the bytes of the reference in its data pages, the namespace holds the reference
all along, commands with valid addresses succeed, and bytes in no written range are what they were
at the start. -/
theorem reads_return_reference {m : Media} (h : ReachableTable m) {nsid : UInt32}
    {ns : Namespace} (hns : activeNamespace m nsid = some ns)
    (hmemory : ns.backend.type = .memory) {reqs : List Request}
    (hreqs : ∀ r ∈ reqs, r.Proper ns nsid) :
    EachStep (referenceStep ns) (ReadsReference ns) (m, ns.bytes) reqs ∧
    Throughout (referenceStep ns) (HoldsReference ns nsid) (m, ns.bytes) reqs ∧
    EachStep (referenceStep ns) (fun s r => r.ValidAddresses ns → (r.result s.1).Succeeds)
      (m, ns.bytes) reqs ∧
    ∀ b, b < ns.backend.totalBytes.toNat →
      (∀ r ∈ reqs, r.cmd.opc ≠ nvmeIoRead → ¬ (r.start ns ≤ b ∧ b < r.start ns + r.size ns)) →
      ((run (referenceStep ns) (m, ns.bytes) reqs).1.namespaces (vnvmeNsidToIndex nsid)).bytes b =
        ns.bytes b := by
  have hslot := (activeNamespace_eq hns).1
  have hstart : Alongside ns nsid (m, ns.bytes) := by
    refine ⟨h.fits, ?_, ?_, ?_, ?_, ?_, fun b _ => ?_⟩
    all_goals dsimp only
    all_goals rw [hslot]
    · exact hns
    · exact hmemory
  have hproper : EachStep (referenceStep ns) (fun _ r => r.Proper ns nsid) (m, ns.bytes) reqs :=
    fun pre r post heq => hreqs r (heq ▸ List.mem_append_right pre List.mem_cons_self)
  have hall : Throughout (referenceStep ns) (Alongside ns nsid) (m, ns.bytes) reqs :=
    throughout_of_eachStep (fun _ _ hs hr => hs.step hr) hstart hproper
  have hbefore (pre : List Request) (r : Request) (post : List Request)
      (heq : reqs = pre ++ r :: post) :
      Alongside ns nsid (run (referenceStep ns) (m, ns.bytes) pre) := hall pre (r :: post) heq
  refine ⟨fun pre r post heq => ?_, fun pre post heq => ?_, fun pre r post heq hvalid => ?_,
    fun b hb hout => ?_⟩
  · exact (hbefore pre r post heq).reads (hproper pre r post heq)
  · exact (hall pre post heq).holds
  · exact (hbefore pre r post heq).succeeds (hproper pre r post heq) hvalid
  · have hend := hall reqs [] (List.append_nil reqs).symm
    exact (hend.holds b hb).trans (reference_outside ns hout (m, ns.bytes))

/-- Two blocks from block 2 on, with data at 1 MB if there is any. -/
def twoBlocks (opc : UInt8) : Request :=
  { os := { hostMem := fun a => a.toUInt8 }
    cmd := { opc := opc, nsid := 1, prp1 := 0x100000, cdw10 := 2, cdw12 := 1 } }

theorem twoBlocks_proper {opc : UInt8}
    (hopc : opc = nvmeIoRead ∨ opc = nvmeIoWrite ∨ opc = nvmeIoWriteZeroes) :
    (twoBlocks opc).Proper (memoryTable.namespaces 0) 1 where
  nsid := rfl
  opcode := hopc
  field := (by decide : (1 : UInt32).toNat % 65536 < 65535)
  inside := by
    have hslba : (twoBlocks opc).cmd.slba = 2 :=
      (by decide : ((0 : UInt32).toUInt64 <<< 32) ||| (2 : UInt32).toUInt64 = 2)
    have hfield : (twoBlocks opc).cmd.nlbField = 1 := (by decide : (1 : UInt32).toNat % 65536 = 1)
    have htotal : (memoryTable.namespaces 0).totalBlocks = 8 := rfl
    rw [hslba, hfield, htotal]
    decide
  works _ _ := rfl
  prps _ := by
    have hbs : (memoryTable.namespaces 0).blockSize = 512 := rfl
    have hsize : (twoBlocks opc).size (memoryTable.namespaces 0) = 1024 := by
      rw [Request.size, hbs]
      exact (by decide : ((1 : UInt32).toNat % 65536 + 1) * (512 : UInt32).toNat = 1024)
    have hcount : dataPageCount (twoBlocks opc).cmd.prp1 1024 = 1 :=
      (by decide : dataPageCount 0x100000 1024 = 1)
    rw [hsize]
    refine ⟨by omega, fun hmany => ?_, fun k hpos hk => ?_, fun j hj k hk _ => ?_⟩
    · omega
    · omega
    · have hj : j < dataPageCount (twoBlocks opc).cmd.prp1 1024 := hj
      have hk : k < dataPageCount (twoBlocks opc).cmd.prp1 1024 := hk
      omega

/-- Write two blocks, read them, zero them and read them again. -/
theorem reads_return_reference_twoBlocks :
    EachStep (referenceStep (memoryTable.namespaces 0))
      (ReadsReference (memoryTable.namespaces 0))
      (memoryTable, (memoryTable.namespaces 0).bytes)
      [twoBlocks nvmeIoWrite, twoBlocks nvmeIoRead, twoBlocks nvmeIoWriteZeroes,
        twoBlocks nvmeIoRead] := by
  have hns : activeNamespace memoryTable 1 = some (memoryTable.namespaces 0) := rfl
  refine (reads_return_reference memoryTable_reachable hns rfl fun r hr => ?_).1
  simp only [List.mem_cons, List.not_mem_nil, or_false] at hr
  rcases hr with rfl | rfl | rfl | rfl
  · exact twoBlocks_proper (Or.inr (Or.inl rfl))
  · exact twoBlocks_proper (Or.inl rfl)
  · exact twoBlocks_proper (Or.inr (Or.inr rfl))
  · exact twoBlocks_proper (Or.inl rfl)

end VirtualNvme
