import VirtualNvme.Driver.IoCmd

/-!
# Admin commands handled in the kernel

The functions of `admin_cmd.c`. A handler works out the new controller and kernel state
and the completion it posts, if it posts one (`AdminOutcome`); `vnvmeProcessAdminCommand`
posts it to the admin completion queue.
-/

namespace VirtualNvme

open RingBuffer (loop next)

/-- What a handler leaves behind. An asynchronous event request is not completed yet. -/
structure AdminOutcome where
  pdo : PdoContext
  os : Os
  completion : Option (UInt32 × UInt8 × UInt8)

/-- Complete with success and a result. -/
def AdminOutcome.success (pdo : PdoContext) (os : Os) (dw0 : UInt32) : AdminOutcome :=
  ⟨pdo, os, some (dw0, 0, 0)⟩

/-- Complete with an error. -/
def AdminOutcome.error (pdo : PdoContext) (os : Os) (sct sc : UInt8) : AdminOutcome :=
  ⟨pdo, os, some (0, sct, sc)⟩

/-- `PostSuccessCompletion` and `PostErrorCompletion` -/
def postAdminCompletion (d : Driver) (cid : UInt16) (dw0 : UInt32) (sct sc : UInt8) :
    NtStatus × Driver :=
  vnvmePostCompletion d 0
    { cid := cid, dw0 := dw0, sqid := 0, sqhd := d.pdo.lastAdminSqTail.toUInt16
      status := nvmeMakeStatus sct sc d.pdo.adminCqPhase.toUInt8 }

/-- `VnvmeWriteToHostMemory` -/
def vnvmeWriteToHostMemory (os : Os) (physicalAddress : UInt64) (buffer : UInt32 → UInt8)
    (length : UInt32) : NtStatus × Os :=
  if length = 0 then (.invalidParameter, os)
  else if !vnvmeIsValidPhysicalAddress physicalAddress length.toUInt64 then
    (.invalidParameter, os)
  else
    let (mapped, os) := os.call .mapIoSpace
    if mapped then
      (.success, { os with
        hostMem := copyBytes os.hostMem physicalAddress (fun i => buffer i.toUInt32) 0
          length.toNat })
    else (.insufficientResources, os)

/-! ## Identify -/

/-- Write a page of identify or log data to `PRP1` and complete. -/
def sendToHost (pdo : PdoContext) (os : Os) (cmd : NvmeCommand) (data : UInt32 → UInt8)
    (length : UInt32) : AdminOutcome :=
  let r := vnvmeWriteToHostMemory os cmd.prp1 data length
  if r.1.ntSuccess then .success pdo r.2 0
  else .error pdo r.2 nvmeSctGeneric nvmeScDataTransferError

/-- The data of `HandleIdentifyController`, from a zeroed page. -/
def identifyControllerData (pdo : PdoContext) : UInt32 → UInt8 :=
  let nn : UInt16 := if pdo.namespaceCount > 0 then pdo.namespaceCount else 1
  putBytes (putBytes (putBytes (putBytes (putBytes (putBytes (putBytes (putBytes (putBytes
    (putBytes (putBytes (putBytes (putBytes (fun _ => 0)
    0x00 (le16 0x1B36 ++ le16 0x1B36))
    0x04 "VNVME00000000001    ".toUTF8.toList)
    0x18 "Virtual NVMe Controller                 ".toUTF8.toList)
    0x40 "1.0.0   ".toUTF8.toList)
    0x48 [6])
    0x4D ([5] ++ le16 pdo.controllerId.toUInt16))
    0x50 (le32 0x00010400))
    0x100 (le16 0x0006 ++ [3, 3, 0x02, 0x00, 63, 0]))
    0x200 [0x66, 0x44])
    0x204 (le32 nn.toUInt32))
    0x208 (le16 0x001F))
    0x20D [0x01])
    0x20E (le16 0 ++ le16 0)

/-- `HandleIdentifyController` -/
def handleIdentifyController (pdo : PdoContext) (os : Os) (cmd : NvmeCommand) : AdminOutcome :=
  let (allocated, os) := os.call .allocatePool
  if !allocated then .error pdo os nvmeSctGeneric nvmeScInternalError
  else sendToHost pdo os cmd (identifyControllerData pdo) 4096

/-- The data of `HandleIdentifyNamespace`. The feature, format and identifier fields of a
namespace that it copies besides are never set and stay zero. -/
def identifyNamespaceData (ns : Namespace) : UInt32 → UInt8 :=
  putBytes (putBytes (putBytes (fun _ => 0)
    0x00 (le64 ns.totalBlocks ++ le64 ns.totalBlocks ++ le64 ns.totalBlocks))
    0x18 [if ns.thinProvisioned then 0x01 else 0x00])
    0x82 [if ns.blockSize = 4096 then 12 else 9]

/-- `HandleIdentifyNamespace` -/
def handleIdentifyNamespace (pdo : PdoContext) (os : Os) (cmd : NvmeCommand) : AdminOutcome :=
  match activeNamespace pdo.toMedia cmd.nsid with
  | none => .error pdo os nvmeSctGeneric nvmeScInvalidNamespace
  | some ns =>
    let (allocated, os) := os.call .allocatePool
    if !allocated then .error pdo os nvmeSctGeneric nvmeScInternalError
    else sendToHost pdo os cmd (identifyNamespaceData ns) 4096

/-- The identifiers of the active namespaces from index `start` on. -/
def activeNsList (m : Media) (start : UInt32) : List UInt32 :=
  ((List.range 16).filter fun i => start.toNat ≤ i && (m.namespaces i).active).map
    fun i => UInt32.ofNat (i + 1)

/-- `HandleIdentifyActiveNsList` -/
def handleIdentifyActiveNsList (pdo : PdoContext) (os : Os) (cmd : NvmeCommand) :
    AdminOutcome :=
  let (allocated, os) := os.call .allocatePool
  if !allocated then .error pdo os nvmeSctGeneric nvmeScInternalError
  else
    sendToHost pdo os cmd
      (putBytes (fun _ => 0) 0 ((activeNsList pdo.toMedia cmd.nsid).flatMap le32)) 4096

/-- `HandleIdentify` -/
def handleIdentify (pdo : PdoContext) (os : Os) (cmd : NvmeCommand) : AdminOutcome :=
  let cns := cmd.cdw10.toUInt8
  if cns = 0x00 then handleIdentifyNamespace pdo os cmd
  else if cns = 0x01 then handleIdentifyController pdo os cmd
  else if cns = 0x02 then handleIdentifyActiveNsList pdo os cmd
  else .error pdo os nvmeSctGeneric nvmeScInvalidField

/-! ## Queue management -/

/-- `VNVME_IO_QUEUE_ID_VALID` -/
def vnvmeIoQueueIdValid (qid : UInt16) : Bool := qid > 0 && qid ≤ 16

/-- The queue id of a create or delete command. -/
def NvmeCommand.qid (cmd : NvmeCommand) : UInt16 := cmd.cdw10.toUInt16

/-- The queue size, `(USHORT)(CDW10 >> 16) + 1` kept in 16 bits. -/
def NvmeCommand.qsize (cmd : NvmeCommand) : UInt16 := (cmd.cdw10 >>> 16).toUInt16 + 1

/-- The completion queue of a new submission queue. -/
def NvmeCommand.cqid (cmd : NvmeCommand) : UInt16 := (cmd.cdw11 >>> 16).toUInt16

/-- `HandleCreateIoCq`; the shared memory is not told. -/
def handleCreateIoCq (pdo : PdoContext) (os : Os) (cmd : NvmeCommand) : AdminOutcome :=
  let q := cmd.qid.toNat
  if !vnvmeIoQueueIdValid cmd.qid then .error pdo os nvmeSctCommand nvmeScInvalidQueueId
  else if cmd.qsize < 2 then .error pdo os nvmeSctCommand nvmeScInvalidQueueSize
  else if (pdo.cq q).created then .error pdo os nvmeSctCommand nvmeScInvalidQueueId
  else
    .success
      (pdo.setCq q { pdo.cq q with
        baseAddress := cmd.prp1, size := cmd.qsize.toUInt32, head := 0, tail := 0,
        phaseTag := true, created := true }) os 0

/-- `HandleCreateIoSq` -/
def handleCreateIoSq (pdo : PdoContext) (os : Os) (cmd : NvmeCommand) : AdminOutcome :=
  let q := cmd.qid.toNat
  if !vnvmeIoQueueIdValid cmd.qid then .error pdo os nvmeSctCommand nvmeScInvalidQueueId
  else if cmd.qsize < 2 then .error pdo os nvmeSctCommand nvmeScInvalidQueueSize
  else if !vnvmeIoQueueIdValid cmd.cqid || !(pdo.cq cmd.cqid.toNat).created then
    .error pdo os nvmeSctCommand nvmeScCqInvalid
  else if (pdo.sq q).created then .error pdo os nvmeSctCommand nvmeScInvalidQueueId
  else
    let state := { pdo.sq q with
      baseAddress := cmd.prp1, size := cmd.qsize.toUInt32, head := 0, tail := 0,
      cqId := cmd.cqid, created := true }
    .success
      { pdo.setSq q state with
        ioQueueCount := if pdo.ioQueueCount < cmd.qid then cmd.qid else pdo.ioQueueCount } os 0

/-- `HandleDeleteIoCq` -/
def handleDeleteIoCq (pdo : PdoContext) (os : Os) (cmd : NvmeCommand) : AdminOutcome :=
  let q := cmd.qid.toNat
  if !vnvmeIoQueueIdValid cmd.qid then .error pdo os nvmeSctCommand nvmeScInvalidQueueId
  else if !(pdo.cq q).created then .error pdo os nvmeSctCommand nvmeScInvalidQueueId
  else if (List.range 16).any fun i =>
      (pdo.sq (i + 1)).created && (pdo.sq (i + 1)).cqId = cmd.qid then
    .error pdo os nvmeSctCommand nvmeScInvalidQueueDeletion
  else .success (pdo.setCq q {}) os 0

/-- `HandleDeleteIoSq` -/
def handleDeleteIoSq (pdo : PdoContext) (os : Os) (cmd : NvmeCommand) : AdminOutcome :=
  let q := cmd.qid.toNat
  if !vnvmeIoQueueIdValid cmd.qid then .error pdo os nvmeSctCommand nvmeScInvalidQueueId
  else if !(pdo.sq q).created then .error pdo os nvmeSctCommand nvmeScInvalidQueueId
  else .success (pdo.setSq q {}) os 0

/-! ## Features -/

/-- `HandleSetFeatures` -/
def handleSetFeatures (cfg : Config) (pdo : PdoContext) (os : Os) (cmd : NvmeCommand) :
    AdminOutcome :=
  let fid := cmd.cdw10.toUInt8
  if fid ∈ [0x01, 0x02, 0x04, 0x05, 0x06, 0x0B, 0x0C] then .success pdo os 0
  else if fid = 0x07 then
    let ncqr := cmd.cdw11.toUInt16
    let nsqr := (cmd.cdw11 >>> 16).toUInt16
    let maxQueues := cfg.maxIOQueues.toUInt16
    let ncqa := if ncqr > maxQueues then maxQueues else ncqr
    let nsqa := if nsqr > maxQueues then maxQueues else nsqr
    .success { pdo with maxIoQueues := if ncqa < nsqa then ncqa else nsqa } os
      (ncqa.toUInt32 ||| (nsqa.toUInt32 <<< 16))
  else .error pdo os nvmeSctGeneric nvmeScInvalidField

/-- `HandleGetFeatures` -/
def handleGetFeatures (pdo : PdoContext) (os : Os) (cmd : NvmeCommand) : AdminOutcome :=
  let fid := cmd.cdw10.toUInt8
  if fid ∈ [0x01, 0x02, 0x05, 0x0B] then .success pdo os 0
  else if fid = 0x04 then .success pdo os 0x0157
  else if fid = 0x06 then .success pdo os 0x00000001
  else if fid = 0x07 then
    .success pdo os (pdo.maxIoQueues.toUInt32 ||| (pdo.maxIoQueues.toUInt32 <<< 16))
  else .error pdo os nvmeSctGeneric nvmeScInvalidField

/-! ## Other commands -/

/-- `HandleAsyncEventRequest` -/
def handleAsyncEventRequest (pdo : PdoContext) (os : Os) (cmd : NvmeCommand) : AdminOutcome :=
  if pdo.aerCids.length ≥ 4 then
    .error pdo os nvmeSctCommand nvmeScAsyncEventLimitExceeded
  else ⟨{ pdo with aerCids := pdo.aerCids ++ [cmd.cid] }, os, none⟩

/-- The log pages of `HandleGetLogPage`; an unknown one has no data. -/
def logPageData (lid : UInt8) (dataLength : UInt32) : Option (UInt32 → UInt8) :=
  let zero : UInt32 → UInt8 := fun _ => 0
  if lid = 0x01 then some zero
  else if lid = 0x02 then
    some (if dataLength ≥ 512 then
      putBytes (putBytes (putBytes zero 0 [0, 0x2A, 0x01, 100, 10, 0]) 128 [1]) 144 [1]
    else zero)
  else if lid = 0x03 then
    some (if dataLength ≥ 512 then
      putBytes (putBytes zero 0 [0x01]) 8 "1.0.0   ".toUTF8.toList
    else zero)
  else none

/-- The number of bytes of a log page command, at most a page. -/
def NvmeCommand.logLength (cmd : NvmeCommand) : UInt32 :=
  let numdl : UInt32 := cmd.cdw10 >>> 16
  let numdu : UInt32 := cmd.cdw11 &&& 0xFFFF
  let dataLength : UInt32 := (((numdu <<< 16) ||| numdl) + 1) * 4
  if dataLength > 4096 then 4096 else dataLength

/-- `HandleGetLogPage` -/
def handleGetLogPage (pdo : PdoContext) (os : Os) (cmd : NvmeCommand) : AdminOutcome :=
  let (allocated, os) := os.call .allocatePool
  if !allocated then .error pdo os nvmeSctGeneric nvmeScInternalError
  else
    match logPageData cmd.cdw10.toUInt8 cmd.logLength with
    | none => .error pdo os nvmeSctGeneric nvmeScInvalidLogPage
    | some data => sendToHost pdo os cmd data cmd.logLength

/-! ## Dispatch -/

/-- The handler that `VnvmeProcessAdminCommand` selects. `HandleAbort` always answers "not
aborted", and `HandleKeepAlive` always succeeds. -/
def handleAdminCommand (cfg : Config) (pdo : PdoContext) (os : Os) (cmd : NvmeCommand) :
    AdminOutcome :=
  if cmd.opc = nvmeAdminIdentify then handleIdentify pdo os cmd
  else if cmd.opc = nvmeAdminCreateIoCq then handleCreateIoCq pdo os cmd
  else if cmd.opc = nvmeAdminCreateIoSq then handleCreateIoSq pdo os cmd
  else if cmd.opc = nvmeAdminDeleteIoCq then handleDeleteIoCq pdo os cmd
  else if cmd.opc = nvmeAdminDeleteIoSq then handleDeleteIoSq pdo os cmd
  else if cmd.opc = nvmeAdminSetFeatures then handleSetFeatures cfg pdo os cmd
  else if cmd.opc = nvmeAdminGetFeatures then handleGetFeatures pdo os cmd
  else if cmd.opc = nvmeAdminAbort then .success pdo os 1
  else if cmd.opc = nvmeAdminAsyncEventRequest then handleAsyncEventRequest pdo os cmd
  else if cmd.opc = nvmeAdminKeepAlive then .success pdo os 0
  else if cmd.opc = nvmeAdminGetLogPage then handleGetLogPage pdo os cmd
  else .error pdo os nvmeSctGeneric nvmeScInvalidOpcode

/-- Post the completion of a handler, if it has one. -/
def postAdminOutcome (d : Driver) (cid : UInt16) :
    Option (UInt32 × UInt8 × UInt8) → NtStatus × Driver
  | none => (.success, d)
  | some (dw0, sct, sc) => postAdminCompletion d cid dw0 sct sc

/-- `VnvmeProcessAdminCommand` -/
def vnvmeProcessAdminCommand (d : Driver) (cmd : NvmeCommand) : NtStatus × Driver :=
  let r := handleAdminCommand d.config d.pdo d.os cmd
  let posted := postAdminOutcome { d with pdo := r.pdo, os := r.os } cmd.cid r.completion
  let pdo := posted.2.pdo
  (posted.1, { posted.2 with
    pdo := { pdo with adminCommandsProcessed := pdo.adminCommandsProcessed + 1 } })

/-- One round of the loop of `VnvmeProcessAdminCommands`. -/
def processAdminStep (queueSize tail : UInt32) (s : UInt32 × Driver) :
    Option ((UInt32 × Driver) ⊕ Driver) :=
  if s.1 = tail then some (.inr s.2)
  else
    let r := vnvmeFetchCommand s.2 0
    if r.1.ntSuccess then
      let d := (vnvmeProcessAdminCommand r.2.2 r.2.1).2
      let head := next queueSize s.1
      some (.inl (head, { d with pdo := d.pdo.setSq 0 { d.pdo.sq 0 with head := head } }))
    else some (.inr r.2.2)

/-- `VnvmeProcessAdminCommands` -/
def vnvmeProcessAdminCommands (fuel : Nat) (d : Driver) (newTail : UInt32) : Option Driver :=
  if d.pdo.adminSqSize = 0 then some d
  else loop (processAdminStep d.pdo.adminSqSize newTail) fuel ((d.pdo.sq 0).head, d)

/-- `VnvmeCompleteAer` -/
def vnvmeCompleteAer (d : Driver) (eventType eventInfo logPage : UInt8) : NtStatus × Driver :=
  match d.pdo.aerCids with
  | [] => (.unsuccessful, d)
  | cid :: rest =>
    let type : UInt32 := eventType.toUInt32 &&& 0x7
    let dw0 : UInt32 := type ||| (eventInfo.toUInt32 <<< 8) ||| (logPage.toUInt32 <<< 16)
    postAdminCompletion { d with pdo := { d.pdo with aerCids := rest } } cid dw0 0 0

end VirtualNvme
