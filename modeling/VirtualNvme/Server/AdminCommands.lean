import VirtualNvme.Server.Context

/-!
# Admin commands of the server

The handlers of `admin_commands.c`. Each takes the admin context and the shared data
buffer and returns the status word, the result dword and both of them updated. The
NULL tests on the arguments are left out: `CmdEngineProcessAdminCommand` never passes
NULL. `AdminCmdProcess` and `AdminCmdPostCompletion` have no caller and are left out too.
-/

namespace VirtualNvme

/-- `MakeStatus` of `admin_commands.c` -/
def adminMakeStatus (sct sc phase : UInt32) : UInt16 :=
  let code : UInt32 := sc &&& 0xFF
  let type : UInt32 := sct &&& 0x7
  let tag : UInt32 := phase &&& 1
  (tag ||| (code <<< 1) ||| (type <<< 9)).toUInt16

/-- What an admin handler hands back. -/
structure AdminReply where
  status : UInt16
  result : UInt32
  ctx : AdminCmdContext
  data : UInt32 → UInt8

/-- Reply with generic status `sc`. -/
def AdminCmdContext.reply (ctx : AdminCmdContext) (data : UInt32 → UInt8) (sc : UInt32)
    (result : UInt32) : AdminReply :=
  ⟨adminMakeStatus 0 sc ctx.adminCqPhase, result, ctx, data⟩

/-! ## Initialisation -/

/-- `strncpy` into a field of `n` bytes: cut off, or padded with zeros. -/
def strncpy (n : Nat) (s : List UInt8) : List UInt8 := s.take n ++ List.replicate (n - s.length) 0

def asciiBytes (s : String) : List UInt8 := s.toUTF8.toList

/-- `AdminCmdInit` -/
def adminCmdInit (dataBuffer : Bool) (dataBufferSize : UInt32) : AdminCmdContext where
  adminCqPhase := 1
  dataBuffer := dataBuffer
  dataBufferSize := dataBufferSize
  maxIoQueues := 16
  numQueues := 15
  arbitration := 0
  powerManagement := 0
  volatileWriteCache := 1
  controller :=
    { serialNumber := strncpy 20 (asciiBytes "VNVME0001234567890")
      modelNumber := strncpy 40 (asciiBytes "Virtual NVMe Controller")
      firmwareRevision := strncpy 8 (asciiBytes "1.0.0")
      vendorId := 0x1234
      maxNamespaces := 16
      maxQueueEntries := 64 }

/-- `AdminCmdSetControllerInfo` -/
def adminCmdSetControllerInfo (ctx : AdminCmdContext) (info : AdminControllerInfo) :
    AdminCmdContext := { ctx with controller := info }

/-- `AdminCmdAddNamespace` -/
def adminCmdAddNamespace (ctx : AdminCmdContext) (info : AdminNamespaceInfo) :
    AdminCmdContext :=
  if ctx.namespaceCount ≥ 16 then ctx
  else
    { ctx with
      namespaces := Function.update ctx.namespaces ctx.namespaceCount.toNat info
      namespaceCount := ctx.namespaceCount + 1 }

/-! ## Identify -/

/-- `pCtx->dataBuffer != NULL && pCtx->dataBufferSize >= 4096` -/
def AdminCmdContext.hasPage (ctx : AdminCmdContext) : Bool :=
  ctx.dataBuffer && ctx.dataBufferSize ≥ 4096

/-- `AdminCmdIdentifyController` -/
def adminCmdIdentifyController (ctx : AdminCmdContext) (data : UInt32 → UInt8) : AdminReply :=
  let nn := if ctx.namespaceCount > 0 then ctx.namespaceCount else 1
  let page :=
    putBytes (putBytes (putBytes (putBytes (putBytes (putBytes (putBytes (putBytes (putBytes
      (putBytes (clearBytes data 4096)
      0 (le16 ctx.controller.vendorId))
      2 (le16 ctx.controller.vendorId))
      4 ctx.controller.serialNumber)
      24 ctx.controller.modelNumber)
      64 ctx.controller.firmwareRevision)
      72 [6])
      256 (le16 0x0006))
      258 [3])
      520 (le16 0x0014))
      516 (le32 nn)
  ctx.reply (if ctx.hasPage then page else data) 0 0

/-- `AdminCmdIdentifyNamespace` -/
def adminCmdIdentifyNamespace (ctx : AdminCmdContext) (data : UInt32 → UInt8)
    (cmd : NvmeCommand) : AdminReply :=
  if cmd.nsid = 0 ∨ cmd.nsid > ctx.namespaceCount then ctx.reply data 0x0B 0
  else
    let ns := ctx.namespaces (cmd.nsid.toNat - 1)
    let lbads : UInt8 :=
      if ns.blockSize ≥ 4096 then 12
      else if ns.blockSize ≥ 2048 then 11
      else if ns.blockSize ≥ 1024 then 10
      else 9
    let page :=
      putBytes (putBytes (putBytes (putBytes (clearBytes data 4096)
        0 (le64 ns.size))
        8 (le64 (if ns.capacity > 0 then ns.capacity else ns.size)))
        16 (le64 ns.size))
        130 [lbads]
    ctx.reply (if ctx.hasPage then page else data) 0 0

/-- The ids `AdminCmdIdentifyNamespaceList` lists after `startNsid`. -/
def activeNsids (ctx : AdminCmdContext) (startNsid : UInt32) : List UInt32 :=
  (((List.range ctx.namespaceCount.toNat).filter fun i =>
    startNsid.toNat < i + 1 && (ctx.namespaces i).active).map
      fun i => UInt32.ofNat (i + 1)).take 1024

/-- `AdminCmdIdentifyNamespaceList` -/
def adminCmdIdentifyNamespaceList (ctx : AdminCmdContext) (data : UInt32 → UInt8)
    (cmd : NvmeCommand) : AdminReply :=
  let page := putBytes (clearBytes data 4096) 0 ((activeNsids ctx cmd.nsid).flatMap le32)
  ctx.reply (if ctx.hasPage then page else data) 0 0

/-- `AdminCmdIdentify` -/
def adminCmdIdentify (ctx : AdminCmdContext) (data : UInt32 → UInt8) (cmd : NvmeCommand) :
    AdminReply :=
  let cns := cmd.cdw10 &&& 0xFF
  if cns = 0x00 then adminCmdIdentifyNamespace ctx data cmd
  else if cns = 0x01 then adminCmdIdentifyController ctx data
  else if cns = 0x02 then adminCmdIdentifyNamespaceList ctx data cmd
  else ctx.reply data 0x02 0

/-! ## I/O queues -/

/-- `(UINT16)(CDW10 & 0xFFFF)` -/
def cdwLow (cdw : UInt32) : UInt16 := cdw.toUInt16

/-- `(UINT16)((CDW10 >> 16) & 0xFFFF)` -/
def cdwHigh (cdw : UInt32) : UInt16 := (cdw >>> 16).toUInt16

/-- `qid == 0 || qid > pCtx->maxIoQueues` -/
def AdminCmdContext.badQid (ctx : AdminCmdContext) (qid : UInt16) : Bool :=
  qid = 0 || qid.toUInt32 > ctx.maxIoQueues

/-- `AdminCmdCreateIoCq` -/
def adminCmdCreateIoCq (ctx : AdminCmdContext) (data : UInt32 → UInt8) (cmd : NvmeCommand) :
    AdminReply :=
  let qid := cdwLow cmd.cdw10
  let qsize := cdwHigh cmd.cdw10 + 1
  if ctx.badQid qid then ctx.reply data 0x01 0
  else if (ctx.ioCq qid.toNat).created then ctx.reply data 0x01 0
  else
    let info := { ctx.ioCq qid.toNat with
      created := true, capacity := qsize.toUInt32, phase := 1, cqBase := true }
    { ctx with ioCq := Function.update ctx.ioCq qid.toNat info }.reply data 0 0

/-- `AdminCmdCreateIoSq`; a bad completion queue id is answered with status code 0. -/
def adminCmdCreateIoSq (ctx : AdminCmdContext) (data : UInt32 → UInt8) (cmd : NvmeCommand) :
    AdminReply :=
  let qid := cdwLow cmd.cdw10
  let qsize := cdwHigh cmd.cdw10 + 1
  let cqid := cdwLow cmd.cdw11
  if ctx.badQid qid then ctx.reply data 0x01 0
  else if ctx.badQid cqid || !(ctx.ioCq cqid.toNat).created then ctx.reply data 0x00 0
  else if (ctx.ioSq qid.toNat).created then ctx.reply data 0x01 0
  else
    let info := { ctx.ioSq qid.toNat with
      created := true, capacity := qsize.toUInt32, cqId := cqid.toUInt32, sqBase := true }
    { ctx with ioSq := Function.update ctx.ioSq qid.toNat info }.reply data 0 0

/-- `AdminCmdDeleteIoCq` -/
def adminCmdDeleteIoCq (ctx : AdminCmdContext) (data : UInt32 → UInt8) (cmd : NvmeCommand) :
    AdminReply :=
  let qid := cdwLow cmd.cdw10
  if ctx.badQid qid then ctx.reply data 0x01 0
  else if !(ctx.ioCq qid.toNat).created then ctx.reply data 0x01 0
  else { ctx with ioCq := Function.update ctx.ioCq qid.toNat {} }.reply data 0 0

/-- `AdminCmdDeleteIoSq` -/
def adminCmdDeleteIoSq (ctx : AdminCmdContext) (data : UInt32 → UInt8) (cmd : NvmeCommand) :
    AdminReply :=
  let qid := cdwLow cmd.cdw10
  if ctx.badQid qid then ctx.reply data 0x01 0
  else if !(ctx.ioSq qid.toNat).created then ctx.reply data 0x01 0
  else { ctx with ioSq := Function.update ctx.ioSq qid.toNat {} }.reply data 0 0

/-- `AdminCmdGetIoSq` -/
def adminCmdGetIoSq (ctx : AdminCmdContext) (qid : UInt16) : Option AdminIoQueueInfo :=
  if ctx.badQid qid then none else some (ctx.ioSq qid.toNat)

/-- `AdminCmdGetIoCq` -/
def adminCmdGetIoCq (ctx : AdminCmdContext) (qid : UInt16) : Option AdminIoQueueInfo :=
  if ctx.badQid qid then none else some (ctx.ioCq qid.toNat)

/-! ## Features and the rest -/

/-- `AdminCmdGetFeatures` -/
def adminCmdGetFeatures (ctx : AdminCmdContext) (data : UInt32 → UInt8) (cmd : NvmeCommand) :
    AdminReply :=
  let fid := cmd.cdw10 &&& 0xFF
  let granted := (ctx.maxIoQueues - 1).toUInt16.toUInt32
  let result :=
    if fid = 0x01 then ctx.arbitration
    else if fid = 0x02 then ctx.powerManagement
    else if fid = 0x06 then ctx.volatileWriteCache
    else if fid = 0x07 then granted ||| (granted <<< 16)
    else 0
  ctx.reply data 0 result

/-- `AdminCmdSetFeatures` -/
def adminCmdSetFeatures (ctx : AdminCmdContext) (data : UInt32 → UInt8) (cmd : NvmeCommand) :
    AdminReply :=
  let fid := cmd.cdw10 &&& 0xFF
  if fid = 0x01 then { ctx with arbitration := cmd.cdw11 }.reply data 0 0
  else if fid = 0x02 then { ctx with powerManagement := cmd.cdw11 }.reply data 0 0
  else if fid = 0x06 then { ctx with volatileWriteCache := cmd.cdw11 &&& 0x01 }.reply data 0 0
  else if fid = 0x07 then
    let grant (requested : UInt16) : UInt32 :=
      if requested.toUInt32 < ctx.maxIoQueues - 1 then requested.toUInt32
      else (ctx.maxIoQueues - 1).toUInt16.toUInt32
    ctx.reply data 0 (grant (cdwLow cmd.cdw11) ||| (grant (cdwHigh cmd.cdw11) <<< 16))
  else ctx.reply data 0 0

/-- `AdminCmdAbort` -/
def adminCmdAbort (ctx : AdminCmdContext) (data : UInt32 → UInt8) : AdminReply :=
  ctx.reply data 0 0

/-- `AdminCmdGetLogPage`; a page that does not fit the data buffer is skipped silently. -/
def adminCmdGetLogPage (ctx : AdminCmdContext) (data : UInt32 → UInt8) (cmd : NvmeCommand) :
    AdminReply :=
  let lid := cmd.cdw10 &&& 0xFF
  let numdl := (cmd.cdw10 >>> 16) &&& 0xFFFF
  let numdu := cmd.cdw11 &&& 0xFFFF
  let bytes := ((numdu <<< 16) ||| numdl) * 4 + 4
  if ctx.dataBuffer ∧ bytes ≤ ctx.dataBufferSize then
    let page := clearBytes data bytes
    if lid = 0x01 then ctx.reply page 0 0
    else if lid = 0x02 then
      ctx.reply (putBytes (putBytes (putBytes (putBytes page 1 (le16 298)) 3 [100]) 4 [10])
        5 [0]) 0 0
    else if lid = 0x03 then ctx.reply page 0 0
    else ctx.reply page 0x09 0
  else ctx.reply data 0 0

/-- `AdminCmdKeepAlive` -/
def adminCmdKeepAlive (ctx : AdminCmdContext) (data : UInt32 → UInt8) : AdminReply :=
  ctx.reply data 0 0

end VirtualNvme
