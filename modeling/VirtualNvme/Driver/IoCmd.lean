import VirtualNvme.Driver.Prp
import VirtualNvme.Driver.Queue
import VirtualNvme.Driver.Storage
import VirtualNvme.RingBuffer.Walk

/-!
# I/O commands handled in the kernel

The functions of `io_cmd.c`. Every handler ends in exactly one `PostIoCompletion` with
the status it has worked out, so a handler is a function from the namespace table and
the kernel to a new table and a status (`IoResult`), and `vnvmeProcessIoCommand` posts it.
-/

namespace VirtualNvme

open RingBuffer (loop next)

/-! ## Namespaces and block ranges -/

/-- `VNVME_NSID_VALID` -/
def vnvmeNsidValid (nsid : UInt32) : Bool := nsid > 0 && nsid ≤ 16

/-- `VNVME_NSID_TO_INDEX` -/
def vnvmeNsidToIndex (nsid : UInt32) : Nat := nsid.toNat - 1

/-- The active namespace of a command. -/
def activeNamespace (m : Media) (nsid : UInt32) : Option Namespace :=
  let ns := m.namespaces (vnvmeNsidToIndex nsid)
  if vnvmeNsidValid nsid && ns.active then some ns else none

def Media.setNamespace (m : Media) (nsid : UInt32) (ns : Namespace) : Media :=
  { m with namespaces := Function.update m.namespaces (vnvmeNsidToIndex nsid) ns }

/-- `VNVME_LBA_RANGE_VALID`, in 64-bit arithmetic. -/
def vnvmeLbaRangeValid (slba nlb total : UInt64) : Bool := slba + nlb ≤ total

/-- `VNVME_LBA_TO_BYTES` and `VNVME_BLOCKS_TO_BYTES` -/
def vnvmeBlocksToBytes (blocks : UInt64) (blockSize : UInt32) : UInt64 :=
  blocks * blockSize.toUInt64

/-- What a handler leaves behind, and the status it posts. -/
structure IoResult where
  media : Media
  os : Os
  sct : UInt8 := nvmeSctGeneric
  sc : UInt8

def Media.countCommand (m : Media) : Media :=
  { m with ioCommandsProcessed := m.ioCommandsProcessed + 1 }

/-- A status code type with its status code. -/
abbrev NvmeError := UInt8 × UInt8

/-- The largest transfer that goes through a temporary buffer, 2 MB. -/
def maxBufferedTransfer : UInt64 := 2 * 1024 * 1024

/-! ## Read -/

/-- The buffer that `HandleRead` copies from, with the address of the first byte in it. -/
def readSource (ns : Namespace) (os : Os) (byteOffset totalBytes : UInt64) :
    Except NvmeError ((UInt64 → UInt8) × UInt64) × Namespace × Os :=
  match ns.storage with
  | some st =>
    let direct := vnvmeStorageGetDirect st byteOffset totalBytes.toUInt32
    let ns := { ns with storage := some direct.2 }
    if direct.1.ntSuccess then
      (.ok (direct.2.memoryBuffer.getD fun _ => 0, byteOffset), ns, os)
    else if totalBytes > maxBufferedTransfer then
      (.error (nvmeSctGeneric, nvmeScInvalidField), ns, os)
    else
      let (allocated, os) := os.call .allocatePool
      if !allocated then (.error (nvmeSctGeneric, nvmeScInternalError), ns, os)
      else
        let r := vnvmeStorageRead (direct.2, os) byteOffset totalBytes.toUInt32
        let ns := { ns with storage := some r.2.2.1 }
        if r.1.ntSuccess then (.ok (r.2.1, 0), ns, r.2.2.2)
        else (.error (nvmeSctMediaError, nvmeScUnrecoveredReadError), ns, r.2.2.2)
  | none =>
    let (allocated, os) := os.call .allocatePool
    if allocated then (.ok (fun _ => 0, 0), ns, os)
    else (.error (nvmeSctGeneric, nvmeScInternalError), ns, os)

/-- `HandleRead` -/
def handleRead (m : Media) (os : Os) (cmd : NvmeCommand) : IoResult :=
  match activeNamespace m cmd.nsid with
  | none => { media := m, os := os, sc := nvmeScInvalidNamespace }
  | some ns =>
    let totalBytes := vnvmeBlocksToBytes cmd.nlb.toUInt64 ns.blockSize
    let byteOffset := vnvmeBlocksToBytes cmd.slba ns.blockSize
    if !vnvmeLbaRangeValid cmd.slba cmd.nlb.toUInt64 ns.totalBlocks then
      { media := m, os := os, sc := nvmeScLbaOutOfRange }
    else
      let src := readSource ns os byteOffset totalBytes
      let ns := src.2.1
      let m := m.setNamespace cmd.nsid ns
      match src.1 with
      | .error e => { media := m, os := src.2.2, sct := e.1, sc := e.2 }
      | .ok (buffer, base) =>
        let prp := vnvmeParsePrpList src.2.2 cmd.prp1 cmd.prp2 totalBytes.toUInt32
        match prp.1 with
        | .error _ => { media := m, os := prp.2, sc := nvmeScInternalError }
        | .ok entries =>
          let t := prpTransfer (copyToHost base) totalBytes entries
            { os := prp.2, buffer := buffer }
          let ns := { ns with
            readBytes := ns.readBytes + totalBytes
            readCommands := ns.readCommands + 1 }
          { media := { (m.setNamespace cmd.nsid ns).countCommand with
              bytesRead := m.bytesRead + totalBytes }
            os := t.os
            sc := nvmeScSuccess }

/-! ## Write -/

/-- Where `HandleWrite` puts the data of the host. -/
inductive WriteTarget where
  | direct
  | buffer
  | discard
  deriving Repr, DecidableEq

def writeTarget (ns : Namespace) (os : Os) (byteOffset totalBytes : UInt64) :
    Except NvmeError WriteTarget × Namespace × Os :=
  match ns.storage with
  | some st =>
    let direct := vnvmeStorageGetDirect st byteOffset totalBytes.toUInt32
    let ns := { ns with storage := some direct.2 }
    if direct.1.ntSuccess then (.ok .direct, ns, os)
    else if totalBytes > maxBufferedTransfer then
      (.error (nvmeSctGeneric, nvmeScInvalidField), ns, os)
    else
      let (allocated, os) := os.call .allocatePool
      if allocated then (.ok .buffer, ns, os)
      else (.error (nvmeSctGeneric, nvmeScInternalError), ns, os)
  | none =>
    if totalBytes > maxBufferedTransfer then
      (.error (nvmeSctGeneric, nvmeScInvalidField), ns, os)
    else
      let (allocated, os) := os.call .allocatePool
      (.ok (if allocated then .buffer else .discard), ns, os)

/-- Copy the data of the host into the target, and on to the backend if it was buffered. -/
def writeData (ns : Namespace) (os : Os) (cmd : NvmeCommand) (byteOffset totalBytes : UInt64)
    (target : WriteTarget) : Except NvmeError Unit × Namespace × Os :=
  match target with
  | .discard => (.ok (), ns, os)
  | .direct =>
    let prp := vnvmeParsePrpList os cmd.prp1 cmd.prp2 totalBytes.toUInt32
    match prp.1 with
    | .error _ => (.error (nvmeSctGeneric, nvmeScInternalError), ns, prp.2)
    | .ok entries =>
      let mem := (ns.storage.bind (·.memoryBuffer)).getD fun _ => 0
      let t := prpTransfer (copyFromHost byteOffset) totalBytes entries
        { os := prp.2, buffer := mem }
      let storage := ns.storage.map fun st => { st with memoryBuffer := some t.buffer }
      (.ok (), { ns with storage := storage }, t.os)
  | .buffer =>
    let prp := vnvmeParsePrpList os cmd.prp1 cmd.prp2 totalBytes.toUInt32
    match prp.1 with
    | .error _ => (.error (nvmeSctGeneric, nvmeScInternalError), ns, prp.2)
    | .ok entries =>
      let t := prpTransfer (copyFromHost 0) totalBytes entries
        { os := prp.2, buffer := fun _ => 0 }
      match ns.storage with
      | none => (.ok (), ns, t.os)
      | some st =>
        let r := vnvmeStorageWrite (st, t.os) byteOffset t.buffer totalBytes.toUInt32
        let ns := { ns with storage := some r.2.1 }
        if r.1.ntSuccess then (.ok (), ns, r.2.2)
        else (.error (nvmeSctMediaError, nvmeScWriteFault), ns, r.2.2)

/-- `HandleWrite` -/
def handleWrite (m : Media) (os : Os) (cmd : NvmeCommand) : IoResult :=
  match activeNamespace m cmd.nsid with
  | none => { media := m, os := os, sc := nvmeScInvalidNamespace }
  | some ns =>
    let totalBytes := vnvmeBlocksToBytes cmd.nlb.toUInt64 ns.blockSize
    let byteOffset := vnvmeBlocksToBytes cmd.slba ns.blockSize
    if !vnvmeLbaRangeValid cmd.slba cmd.nlb.toUInt64 ns.totalBlocks then
      { media := m, os := os, sc := nvmeScLbaOutOfRange }
    else
      let tgt := writeTarget ns os byteOffset totalBytes
      match tgt.1 with
      | .error e =>
        { media := m.setNamespace cmd.nsid tgt.2.1, os := tgt.2.2, sct := e.1, sc := e.2 }
      | .ok target =>
        let r := writeData tgt.2.1 tgt.2.2 cmd byteOffset totalBytes target
        match r.1 with
        | .error e =>
          { media := m.setNamespace cmd.nsid r.2.1, os := r.2.2, sct := e.1, sc := e.2 }
        | .ok _ =>
          let ns := { r.2.1 with
            writeBytes := r.2.1.writeBytes + totalBytes
            writeCommands := r.2.1.writeCommands + 1 }
          { media := { (m.setNamespace cmd.nsid ns).countCommand with
              bytesWritten := m.bytesWritten + totalBytes }
            os := r.2.2
            sc := nvmeScSuccess }

/-! ## Flush -/

def Namespace.countFlush (ns : Namespace) : Namespace :=
  { ns with flushCommands := ns.flushCommands + 1 }

/-- `HandleFlush`; the status of `VnvmeStorageFlush` is ignored. -/
def handleFlush (m : Media) (os : Os) (cmd : NvmeCommand) : IoResult :=
  if cmd.nsid = 0xFFFFFFFF then
    let flushed (i : Nat) : Namespace :=
      let ns := m.namespaces i
      if i < 16 ∧ ns.active ∧ ns.storage.isSome then ns.countFlush else ns
    { media := { m with namespaces := flushed }.countCommand, os := os, sc := nvmeScSuccess }
  else
    match activeNamespace m cmd.nsid with
    | none => { media := m, os := os, sc := nvmeScInvalidNamespace }
    | some ns =>
      { media := (m.setNamespace cmd.nsid ns.countFlush).countCommand, os := os,
        sc := nvmeScSuccess }

/-! ## Write Zeroes -/

/-- `WRITE_ZEROES_CHUNK_SIZE` -/
def writeZeroesChunkSize : UInt64 := 1 * 1024 * 1024

/-- `HandleWriteZeroes` -/
def handleWriteZeroes (m : Media) (os : Os) (cmd : NvmeCommand) : IoResult :=
  match activeNamespace m cmd.nsid with
  | none => { media := m, os := os, sc := nvmeScInvalidNamespace }
  | some ns =>
    let totalBytes := vnvmeBlocksToBytes cmd.nlb.toUInt64 ns.blockSize
    let byteOffset := vnvmeBlocksToBytes cmd.slba ns.blockSize
    if !vnvmeLbaRangeValid cmd.slba cmd.nlb.toUInt64 ns.totalBlocks then
      { media := m, os := os, sc := nvmeScLbaOutOfRange }
    else
      match ns.storage with
      | none => { media := m.countCommand, os := os, sc := nvmeScSuccess }
      | some st =>
        let r := zeroChunks writeZeroesChunkSize vnvmeStorageWriteZeroes
          (totalBytes.toNat + 1) (st, os) byteOffset totalBytes
        let m := m.setNamespace cmd.nsid { ns with storage := some r.2.1 }
        if r.1.ntSuccess then { media := m.countCommand, os := r.2.2, sc := nvmeScSuccess }
        else { media := m, os := r.2.2, sct := nvmeSctMediaError, sc := nvmeScWriteFault }

/-! ## Dataset Management -/

/-- `NVME_DSM_RANGE`, without the context attributes. -/
structure NvmeDsmRange where
  lengthInLogicalBlocks : UInt32
  startingLba : UInt64
  deriving Repr, DecidableEq

/-- `ranges[i]` in the page at `PRP1`. -/
def dsmRange (mem : UInt64 → UInt8) (prp1 : UInt64) (i : Nat) : NvmeDsmRange :=
  let addr := prp1 + 16 * UInt64.ofNat i
  { lengthInLogicalBlocks := (hostWord mem (addr + 4) 4).toUInt32
    startingLba := hostWord mem (addr + 8) 8 }

/-- The number of ranges, `(CDW10 & 0xFF) + 1`; it cannot pass the limit of 256. -/
def NvmeCommand.rangeCount (cmd : NvmeCommand) : Nat := (cmd.cdw10 &&& 0xFF).toNat + 1

/-- The deallocate attribute. -/
def NvmeCommand.deallocate (cmd : NvmeCommand) : Bool := cmd.cdw11 &&& 0x04 ≠ 0

/-- One range: empty and invalid ones are skipped, and so is a failing backend. -/
def dsmStep (ns : Namespace) (b : Backing) (range : NvmeDsmRange) : Backing :=
  let nlb := range.lengthInLogicalBlocks.toUInt64
  if nlb = 0 then b
  else if range.startingLba + nlb > ns.totalBlocks then b
  else
    let byteOffset := vnvmeBlocksToBytes range.startingLba ns.blockSize
    let byteLength := vnvmeBlocksToBytes nlb ns.blockSize
    (vnvmeStorageWriteZeroes b byteOffset byteLength.toUInt32).2

/-- `HandleDatasetManagement` -/
def handleDatasetManagement (m : Media) (os : Os) (cmd : NvmeCommand) : IoResult :=
  match activeNamespace m cmd.nsid with
  | none => { media := m, os := os, sc := nvmeScInvalidNamespace }
  | some ns =>
    if !cmd.deallocate then { media := m.countCommand, os := os, sc := nvmeScSuccess }
    else
      let (mapped, os) := os.call .mapIoSpace
      if !mapped then { media := m.countCommand, os := os, sc := nvmeScSuccess }
      else
        let ranges := (List.range cmd.rangeCount).map (dsmRange os.hostMem cmd.prp1)
        match ns.storage with
        | none => { media := m.countCommand, os := os, sc := nvmeScSuccess }
        | some st =>
          let r := ranges.foldl (dsmStep ns) (st, os)
          { media := (m.setNamespace cmd.nsid { ns with storage := some r.1 }).countCommand
            os := r.2
            sc := nvmeScSuccess }

/-! ## Compare -/

/-- `RtlCompareMemory(..) == totalBytes` -/
def sameBytes (a b : UInt64 → UInt8) (n : Nat) : Bool :=
  (List.range n).all fun i => a (UInt64.ofNat i) == b (UInt64.ofNat i)

/-- `HandleCompare` -/
def handleCompare (m : Media) (os : Os) (cmd : NvmeCommand) : IoResult :=
  match activeNamespace m cmd.nsid with
  | none => { media := m, os := os, sc := nvmeScInvalidNamespace }
  | some ns =>
    let totalBytes := vnvmeBlocksToBytes cmd.nlb.toUInt64 ns.blockSize
    let byteOffset := vnvmeBlocksToBytes cmd.slba ns.blockSize
    if !vnvmeLbaRangeValid cmd.slba cmd.nlb.toUInt64 ns.totalBlocks then
      { media := m, os := os, sc := nvmeScLbaOutOfRange }
    else if totalBytes > maxBufferedTransfer then
      { media := m, os := os, sc := nvmeScInvalidField }
    else
      let (allocated, os) := os.call .allocatePool
      if !allocated then { media := m, os := os, sc := nvmeScInternalError }
      else
        let (allocated, os) := os.call .allocatePool
        if !allocated then { media := m, os := os, sc := nvmeScInternalError }
        else
          let prp := vnvmeParsePrpList os cmd.prp1 cmd.prp2 totalBytes.toUInt32
          match prp.1 with
          | .error _ => { media := m, os := prp.2, sc := nvmeScInternalError }
          | .ok entries =>
            let t := prpTransfer (copyFromHost 0) totalBytes entries
              { os := prp.2, buffer := fun _ => 0 }
            let finish (m : Media) (os : Os) (data : UInt64 → UInt8) : IoResult :=
              if sameBytes t.buffer data totalBytes.toNat then
                { media := m.countCommand, os := os, sc := nvmeScSuccess }
              else
                { media := m.countCommand, os := os, sct := nvmeSctMediaError,
                  sc := nvmeScCompareFailure }
            match ns.storage with
            | none => finish m t.os fun _ => 0
            | some st =>
              let r := vnvmeStorageRead (st, t.os) byteOffset totalBytes.toUInt32
              let m := m.setNamespace cmd.nsid { ns with storage := some r.2.2.1 }
              if r.1.ntSuccess then finish m r.2.2.2 r.2.1
              else
                { media := m, os := r.2.2.2, sct := nvmeSctMediaError,
                  sc := nvmeScUnrecoveredReadError }

/-! ## Dispatch -/

/-- The body of the handler that `VnvmeProcessIoCommand` selects. -/
def handleIoCommand (m : Media) (os : Os) (cmd : NvmeCommand) : IoResult :=
  if cmd.opc = nvmeIoRead then handleRead m os cmd
  else if cmd.opc = nvmeIoWrite then handleWrite m os cmd
  else if cmd.opc = nvmeIoFlush then handleFlush m os cmd
  else if cmd.opc = nvmeIoWriteZeroes then handleWriteZeroes m os cmd
  else if cmd.opc = nvmeIoDatasetManagement then handleDatasetManagement m os cmd
  else if cmd.opc = nvmeIoCompare then handleCompare m os cmd
  else { media := m, os := os, sc := nvmeScInvalidOpcode }

/-- `PostIoCompletion`. The completion goes to the completion queue with the id of the
submission queue. -/
def postIoCompletion (d : Driver) (queueId cid : UInt16) (sct sc : UInt8) : NtStatus × Driver :=
  let q := queueId.toNat
  let post (phase : UInt8) (sqHead : UInt32) : NtStatus × Driver :=
    vnvmePostCompletion d queueId
      { cid := cid, dw0 := 0, sqid := queueId, sqhd := sqHead.toUInt16
        status := nvmeMakeStatus sct sc phase }
  if queueId = 0 then post d.pdo.adminCqPhase.toUInt8 (d.pdo.sq 0).head
  else if queueId ≤ 16 ∧ (d.pdo.cq q).created then
    post (if (d.pdo.cq q).phaseTag then 1 else 0) (d.pdo.sq q).head
  else (.invalidParameter, d)

/-- `VnvmeProcessIoCommand` -/
def vnvmeProcessIoCommand (d : Driver) (queueId : UInt16) (cmd : NvmeCommand) :
    NtStatus × Driver :=
  let r := handleIoCommand d.pdo.toMedia d.os cmd
  postIoCompletion { d with pdo := { d.pdo with toMedia := r.media }, os := r.os } queueId
    cmd.cid r.sct r.sc

/-- One round of the loop of `VnvmeProcessIoCommands`. -/
def processIoStep (queueId : UInt16) (queueSize tail : UInt32) (s : UInt32 × Driver) :
    Option ((UInt32 × Driver) ⊕ Driver) :=
  let q := queueId.toNat
  if s.1 = tail then some (.inr s.2)
  else
    let r := vnvmeFetchCommand s.2 queueId
    if r.1.ntSuccess then
      let d := (vnvmeProcessIoCommand r.2.2 queueId r.2.1).2
      let head := next queueSize s.1
      let pdo := d.pdo.setSq q { d.pdo.sq q with head := head }
      some (.inl (head, { d with pdo := { pdo with toMedia := pdo.toMedia.countCommand } }))
    else some (.inr r.2.2)

/-- `VnvmeProcessIoCommands` -/
def vnvmeProcessIoCommands (fuel : Nat) (d : Driver) (queueId : UInt16) (newTail : UInt32) :
    Option Driver :=
  let st := d.pdo.sq queueId.toNat
  if queueId = 0 ∨ queueId > d.pdo.ioQueueCount then some d
  else if st.size = 0 ∨ !st.created then some d
  else loop (processIoStep queueId st.size newTail) fuel (st.head, d)

end VirtualNvme
