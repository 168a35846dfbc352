import VirtualNvme.RingBuffer.Walk
import VirtualNvme.Server.IoCommands

/-!
# The server's command engine

`command_engine.c`: start-up, posting of completions, and `CmdEnginePoll`. The poll is
cut where another party can step in between: it reads the ring indices (`pollBegin`),
handles one notification after the other (`pollEntry`) and publishes the new head at
the very end (`pollFinish`). `cmdEnginePoll` is the three run in a row. The loops over a
submission queue trust the notified index, so they take fuel.
-/

namespace VirtualNvme

open RingBuffer (next walk)

/-! ## Initialisation -/

/-- The namespaces of the configuration that `CmdEngineInit` adds. -/
def CmdEngineConfig.indices (config : CmdEngineConfig) : List Nat :=
  (List.range 16).take config.namespaceCount.toNat

/-- The admin part of `CmdEngineInit`. -/
def cmdEngineInitAdmin (config : CmdEngineConfig) (dataBuffer : Bool)
    (dataBufferSize : UInt32) : AdminCmdContext :=
  let info : AdminControllerInfo :=
    { serialNumber := strncpy 20 config.serialNumber
      modelNumber := strncpy 40 config.modelNumber
      firmwareRevision := strncpy 8 config.firmwareRevision
      vendorId := config.vendorId
      maxNamespaces := 16
      maxQueueEntries := 64 }
  config.indices.foldl
    (fun ctx i => adminCmdAddNamespace ctx
      { nsid := UInt32.ofNat (i + 1)
        size := (config.namespaces i).size
        capacity := (config.namespaces i).size
        blockSize := (config.namespaces i).blockSize
        active := (config.namespaces i).active })
    (adminCmdSetControllerInfo (adminCmdInit dataBuffer dataBufferSize) info)

/-- The I/O part of `CmdEngineInit`. -/
def cmdEngineInitIo (config : CmdEngineConfig) (dataBuffer : Bool)
    (dataBufferSize : UInt32) : IoCmdContext :=
  config.indices.foldl
    (fun ctx i => ioCmdAddNamespace ctx
      { nsid := UInt32.ofNat (i + 1)
        size := (config.namespaces i).size
        blockSize := (config.namespaces i).blockSize
        active := (config.namespaces i).active
        readOnly := (config.namespaces i).readOnly })
    { backend := config.backend, dataBuffer := dataBuffer, dataBufferSize := dataBufferSize }

/-- `CmdEngineInit` -/
def cmdEngineInit (ctx : CmdEngineContext) (shm : Shm) (config : CmdEngineConfig) :
    Bool × CmdEngineContext :=
  if shm.magic ≠ 0x454D564E then (false, ctx)
  else
    let hasBuffer := shm.dataBufferOffset ≠ 0 ∧ shm.dataBufferSize ≠ 0
    let dataBuffer := if hasBuffer then true else ctx.dataBuffer
    let dataBufferSize := if hasBuffer then shm.dataBufferSize else ctx.dataBufferSize
    (true,
      { ctx with
        initialized := true
        maxIoQueues := if config.maxIoQueues > 0 then config.maxIoQueues else 16
        adminCqPhase := 1
        dataBuffer := dataBuffer
        dataBufferSize := dataBufferSize
        adminCtx := cmdEngineInitAdmin config dataBuffer dataBufferSize
        ioCtx := cmdEngineInitIo config dataBuffer dataBufferSize })

/-- The configuration of `CmdEngineInitSimple`: one namespace over the whole backend. -/
def CmdEngineConfig.simple (backend : Option Backend) : CmdEngineConfig where
  backend := backend
  serialNumber := strncpy 20 (asciiBytes "VNVME0001234567890")
  modelNumber := strncpy 40 (asciiBytes "Virtual NVMe Controller")
  firmwareRevision := strncpy 8 (asciiBytes "1.0.0")
  vendorId := 0x1234
  namespaces := Function.update (fun _ => {}) 0
    { size := if backend.isSome then backendGetSize backend / 512 else 128 * 1024
      blockSize := 512
      active := true
      readOnly := false }
  namespaceCount := 1
  maxIoQueues := 16

/-- `CmdEngineInitSimple` -/
def cmdEngineInitSimple (ctx : CmdEngineContext) (shm : Shm) (backend : Option Backend) :
    Bool × CmdEngineContext :=
  cmdEngineInit ctx shm (CmdEngineConfig.simple backend)

/-! ## Admin commands -/

/-- C's `!x` on an unsigned word. -/
def notWord (x : UInt32) : UInt32 := if x = 0 then 1 else 0

/-- `CmdEnginePostAdminCompletion` -/
def cmdEnginePostAdminCompletion (s : Server) (cid : UInt16) (dw0 : UInt32) (sct sc : UInt8) :
    Server :=
  let cqDesc := s.shm.cq 0
  let cqe : NvmeCompletion :=
    { dw0 := dw0
      dw1 := 0
      sqhd := (s.shm.sq 0).head.toUInt16
      sqid := 0
      cid := cid
      status := nvmeMakeStatus sct sc s.ctx.adminCqPhase.toUInt8 }
  let tail := next cqDesc.capacity cqDesc.tail
  { shm := (s.shm.writeCqe 0 cqDesc.tail cqe).setCq 0 { cqDesc with tail := tail }
    ctx := { s.ctx with
      adminCqPhase := if tail = 0 then notWord s.ctx.adminCqPhase else s.ctx.adminCqPhase
      stats := { s.ctx.stats with
        adminCommandsProcessed := s.ctx.stats.adminCommandsProcessed + 1 } } }

/-- The dispatch of `CmdEngineProcessAdminCommand`; `none` is an unknown opcode. -/
def adminCmdDispatch (ctx : AdminCmdContext) (data : UInt32 → UInt8) (cmd : NvmeCommand) :
    Option AdminReply :=
  if cmd.opc = nvmeAdminIdentify then some (adminCmdIdentify ctx data cmd)
  else if cmd.opc = nvmeAdminCreateIoCq then some (adminCmdCreateIoCq ctx data cmd)
  else if cmd.opc = nvmeAdminCreateIoSq then some (adminCmdCreateIoSq ctx data cmd)
  else if cmd.opc = nvmeAdminDeleteIoCq then some (adminCmdDeleteIoCq ctx data cmd)
  else if cmd.opc = nvmeAdminDeleteIoSq then some (adminCmdDeleteIoSq ctx data cmd)
  else if cmd.opc = nvmeAdminSetFeatures then some (adminCmdSetFeatures ctx data cmd)
  else if cmd.opc = nvmeAdminGetFeatures then some (adminCmdGetFeatures ctx data cmd)
  else if cmd.opc = nvmeAdminAbort then some (adminCmdAbort ctx data)
  else if cmd.opc = nvmeAdminGetLogPage then some (adminCmdGetLogPage ctx data cmd)
  else if cmd.opc = nvmeAdminKeepAlive then some (adminCmdKeepAlive ctx data)
  else none

/-- `CmdEngineProcessAdminCommand` -/
def cmdEngineProcessAdminCommand (s : Server) (cmd : NvmeCommand) : Server :=
  let phase := s.ctx.adminCqPhase.toUInt8
  let post (s : Server) (status : UInt16) (result : UInt32) : Server :=
    cmdEnginePostAdminCompletion s cmd.cid result (nvmeStatusSct status).toUInt8
      (nvmeStatusSc status).toUInt8
  match adminCmdDispatch s.ctx.adminCtx s.shm.dataBuffer cmd with
  | some r =>
    post
      { ctx := { s.ctx with adminCtx := r.ctx }, shm := { s.shm with dataBuffer := r.data } }
      r.status r.result
  | none =>
    post
      { s with ctx := { s.ctx with
        stats := { s.ctx.stats with errors := s.ctx.stats.errors + 1 } } }
      (nvmeMakeStatus 0 0x01 phase) 0

/-! ## I/O commands -/

/-- `IoCmdPostCompletion`; the tail is not tracked, every entry goes to slot 0. -/
def ioCmdPostCompletion (s : Server) (queueId cid : UInt16) (sct sc : UInt8) : Server :=
  if queueId = 0 ∨ queueId > 16 then s
  else
    match adminCmdGetIoSq s.ctx.adminCtx queueId with
    | none => s
    | some sqInfo =>
      if !sqInfo.created then s
      else
        match adminCmdGetIoCq s.ctx.adminCtx sqInfo.cqId.toUInt16 with
        | none => s
        | some cqInfo =>
          if !cqInfo.created || !cqInfo.cqBase then s
          else
            let q := sqInfo.cqId.toUInt16.toNat
            let cqe : NvmeCompletion :=
              { sqid := queueId, cid := cid
                status := nvmeMakeStatus sct sc cqInfo.phase.toUInt8 }
            let ioCtx := s.ctx.ioCtx
            { shm := { s.shm with
                userCqLog := Function.update s.shm.userCqLog q (s.shm.userCqLog q ++ [⟨0, cqe⟩]) }
              ctx := { s.ctx with
                ioCtx := { ioCtx with
                  stats := { ioCtx.stats with
                    commandsProcessed := ioCtx.stats.commandsProcessed + 1 } } } }

/-- `IoCmdProcess` -/
def ioCmdProcess (s : Server) (cmd : NvmeCommand) (queueId : UInt16) : Server :=
  let r := ioCmdDispatch s.ctx.adminCtx s.ctx.ioCtx s.shm.dataBuffer cmd queueId
  ioCmdPostCompletion
    { ctx := { s.ctx with ioCtx := r.ctx }, shm := { s.shm with dataBuffer := r.data } }
    queueId cmd.cid (nvmeStatusSct r.status).toUInt8 (nvmeStatusSc r.status).toUInt8

/-! ## Polling -/

/-- The server in the middle of a poll, with the number of commands processed so far. -/
structure Polling where
  server : Server
  processed : UInt64 := 0

/-- Run the admin command in `slot`. -/
def pollAdminCommand (p : Polling) (slot : UInt32) : Polling :=
  { server := cmdEngineProcessAdminCommand p.server (p.server.shm.sqMem 0 slot)
    processed := p.processed + 1 }

/-- Run the command of I/O queue `queueId` in `slot`. -/
def pollIoCommand (queueId : UInt16) (p : Polling) (slot : UInt32) : Polling :=
  { server := ioCmdProcess p.server (p.server.shm.userSqMem queueId.toNat slot) queueId
    processed := p.processed + 1 }

/-- `sqDesc->Head = sqHead` at the end of a branch. -/
def storeHead (q : Nat) (r : UInt32 × Polling) : Polling :=
  let shm := r.2.server.shm
  { r.2 with
    server := { r.2.server with shm := shm.setSq q { shm.sq q with head := r.1 } } }

/-- The admin branch of the poll: run the commands from `AdminSQ.Head` up to the index of
the notification, then store the head. -/
def pollAdminQueue (fuel : Nat) (p : Polling) (index : UInt32) : Option Polling :=
  let sqDesc := p.server.shm.sq 0
  (walk sqDesc.capacity index (fun p slot => some (pollAdminCommand p slot)) fuel
    sqDesc.head p).map (storeHead 0)

/-- The I/O branch of the poll. -/
def pollIoQueue (fuel : Nat) (p : Polling) (queueId : UInt16) (index : UInt32) :
    Option Polling :=
  match adminCmdGetIoSq p.server.ctx.adminCtx queueId with
  | none => some p
  | some sqInfo =>
    if !sqInfo.created || !sqInfo.sqBase then some p
    else
      match sqInfo.descriptor with
      | none => some p
      | some qd =>
        (walk sqInfo.capacity index (fun p slot => some (pollIoCommand queueId p slot)) fuel
          (p.server.shm.sq qd).head p).map (storeHead qd)

/-- One notification. -/
def pollEntry (fuel : Nat) (p : Polling) (entry : NotifyEntry) : Option Polling :=
  if entry.type = 0 then
    if entry.queueId = 0 then pollAdminQueue fuel p entry.index
    else pollIoQueue fuel p entry.queueId entry.index
  else some p

/-- The notification in a slot of the ring. -/
def pollSlot (fuel : Nat) (p : Polling) (slot : UInt32) : Option Polling :=
  pollEntry fuel p (p.server.shm.notifyRing.entries slot)

/-- The poll returns at once unless the engine is initialised and there is a ring. -/
def pollReady (s : Server) : Bool := s.ctx.initialized && s.shm.notifyRingOffset ≠ 0

/-- The end of the poll: publish the head and copy the counters. -/
def pollFinish (p : Polling) (head : UInt32) : Server :=
  let s := p.server
  let shm := { s.shm with notifyRing := { s.shm.notifyRing with head := head } }
  let io := s.ctx.ioCtx.stats
  let stats := s.ctx.stats
  let counted : Server :=
    if p.processed > 0 then
      { shm := { shm with
          commandsProcessed := stats.adminCommandsProcessed + io.commandsProcessed
          bytesRead := io.bytesRead
          bytesWritten := io.bytesWritten }
        ctx := { s.ctx with
          stats := { stats with
            ioCommandsProcessed := io.commandsProcessed
            bytesRead := io.bytesRead
            bytesWritten := io.bytesWritten } } }
    else { s with shm := shm }
  { counted with
    ctx := { counted.ctx with
      stats := { counted.ctx.stats with pollCount := counted.ctx.stats.pollCount + 1 } } }

/-- `CmdEnginePoll` -/
def cmdEnginePoll (fuel : Nat) (s : Server) : Option (UInt64 × Server) :=
  if pollReady s then
    let ring := s.shm.notifyRing
    (walk ring.size ring.tail (pollSlot fuel) fuel ring.head { server := s }).map
      fun r => (r.2.processed, pollFinish r.2 r.1)
  else some (0, s)

end VirtualNvme
