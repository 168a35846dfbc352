import VirtualNvme.Server.AdminCommands

/-!
# I/O commands of the server

The storage backend of `backend_common.c`, `backend_memory.c` and `backend_file.c`, and
the handlers of `io_commands.c`. The data of a read or write passes through the data
buffer in shared memory.
-/

namespace VirtualNvme

/-! ## The storage backend -/

/-- One file-system call of the file backend; the memory backend makes none. -/
def Backend.fileCall (b : Backend) : Bool × Backend :=
  match b.type with
  | .memory => (true, b)
  | .file => (b.fileOk b.fileCalls, { b with fileCalls := b.fileCalls + 1 })

/-- `BackendGetSize` -/
def backendGetSize (b : Option Backend) : UInt64 := (b.map (·.size)).getD 0

/-- `BackendRead` -/
def backendRead (b : Backend) (offset : UInt64) (buffer : UInt32 → UInt8) (size : UInt32) :
    Bool × (UInt32 → UInt8) × Backend :=
  if offset + size.toUInt64 > b.size then (false, buffer, b)
  else
    let (ok, b) := b.fileCall
    if ok then
      (true, fun i => if i < size then b.data (offset + i.toUInt64) else buffer i, b)
    else (false, buffer, b)

/-- `BackendWrite` -/
def backendWrite (b : Backend) (offset : UInt64) (buffer : UInt32 → UInt8) (size : UInt32) :
    Bool × Backend :=
  if b.readOnly then (false, b)
  else if offset + size.toUInt64 > b.size then (false, b)
  else
    let (ok, b) := b.fileCall
    if ok then
      (true, { b with
        data := copyBytes b.data offset (fun a => buffer a.toUInt32) 0 size.toNat })
    else (false, b)

/-- `BackendFlush` -/
def backendFlush (b : Backend) : Bool × Backend := b.fileCall

/-- The chunk loop of `FileBackendWriteZeroes`. Every chunk has at least one byte, so the
first argument never runs out when it starts above the number of bytes. -/
def backendZeroChunks : Nat → Backend → UInt64 → UInt64 → Bool × Backend
  | 0, b, _, _ => (true, b)
  | fuel + 1, b, offset, remaining =>
    if remaining = 0 then (true, b)
    else
      let toWrite := if remaining > 65536 then 65536 else remaining
      let (ok, b) := b.fileCall
      if ok then
        backendZeroChunks fuel
          { b with data := copyBytes b.data offset (fun _ => 0) 0 toWrite.toNat }
          (offset + toWrite) (remaining - toWrite)
      else (false, b)

/-- `BackendWriteZeroes` -/
def backendWriteZeroes (b : Backend) (offset size : UInt64) : Bool × Backend :=
  if b.readOnly then (false, b)
  else if offset + size > b.size then (false, b)
  else
    match b.type with
    | .memory => (true, { b with data := copyBytes b.data offset (fun _ => 0) 0 size.toNat })
    | .file => backendZeroChunks (size.toNat + 1) b offset size

/-! ## Namespaces -/

/-- `IoCmdAddNamespace` -/
def ioCmdAddNamespace (ctx : IoCmdContext) (ns : IoNamespaceConfig) : IoCmdContext :=
  if ctx.namespaceCount ≥ 16 then ctx
  else
    { ctx with
      namespaces := Function.update ctx.namespaces ctx.namespaceCount.toNat ns
      namespaceCount := ctx.namespaceCount + 1 }

/-- The namespace an NSID names in the table. -/
def IoCmdContext.nsConfig (ctx : IoCmdContext) (nsid : UInt32) : IoNamespaceConfig :=
  ctx.namespaces (nsid.toNat - 1)

/-- `IoCmdIsNamespaceValid` -/
def ioCmdIsNamespaceValid (ctx : IoCmdContext) (nsid : UInt32) : Bool :=
  !(nsid = 0 || nsid > ctx.namespaceCount) && (ctx.nsConfig nsid).active

/-- `IoCmdGetBlockSize` -/
def ioCmdGetBlockSize (ctx : IoCmdContext) (nsid : UInt32) : UInt32 :=
  if nsid = 0 ∨ nsid > ctx.namespaceCount then 512 else (ctx.nsConfig nsid).blockSize

/-- `IoCmdValidateLbaRange` -/
def ioCmdValidateLbaRange (ctx : IoCmdContext) (nsid : UInt32) (slba : UInt64) (nlb : UInt32) :
    Bool :=
  if !ioCmdIsNamespaceValid ctx nsid then false
  else if slba + nlb.toUInt64 < slba then false
  else if slba + nlb.toUInt64 > (ctx.nsConfig nsid).size then false
  else true

/-! ## Handlers -/

/-- What an I/O handler hands back; the result dword is always 0. -/
structure IoReply where
  status : UInt16
  ctx : IoCmdContext
  data : UInt32 → UInt8

/-- `GetCqPhase` -/
def getCqPhase (actx : AdminCmdContext) (queueId : UInt16) : UInt32 :=
  match adminCmdGetIoSq actx queueId with
  | none => 1
  | some sqInfo =>
    match adminCmdGetIoCq actx sqInfo.cqId.toUInt16 with
    | none => 1
    | some cqInfo => cqInfo.phase

/-- Reply with an error status and count it. -/
def IoCmdContext.fail (ctx : IoCmdContext) (data : UInt32 → UInt8) (sct sc phase : UInt8) :
    IoReply :=
  ⟨nvmeMakeStatus sct sc phase,
    { ctx with stats := { ctx.stats with errors := ctx.stats.errors + 1 } }, data⟩

/-- `IoCmdRead` -/
def ioCmdRead (ctx : IoCmdContext) (data : UInt32 → UInt8) (cmd : NvmeCommand)
    (phase : UInt8) : IoReply :=
  if !ioCmdIsNamespaceValid ctx cmd.nsid then ctx.fail data 0 0x0B phase
  else
    let blockSize := ioCmdGetBlockSize ctx cmd.nsid
    let length := cmd.nlb.toUInt32 * blockSize
    let byteOffset := cmd.slba * blockSize.toUInt64
    if !ioCmdValidateLbaRange ctx cmd.nsid cmd.slba cmd.nlb.toUInt32 then
      ctx.fail data 0 0x80 phase
    else
      let stats := { ctx.stats with
        bytesRead := ctx.stats.bytesRead + length.toUInt64
        readCommands := ctx.stats.readCommands + 1 }
      let done (ctx : IoCmdContext) (data : UInt32 → UInt8) : IoReply :=
        ⟨nvmeMakeStatus 0 0 phase, { ctx with stats := stats }, data⟩
      match ctx.backend with
      | none => done ctx data
      | some b =>
        if ctx.dataBuffer ∧ length ≤ ctx.dataBufferSize then
          let (ok, data, b) := backendRead b byteOffset data length
          let ctx := { ctx with backend := some b }
          if ok then done ctx data else ctx.fail data 0x02 0x81 phase
        else done ctx data

/-- `IoCmdWrite` -/
def ioCmdWrite (ctx : IoCmdContext) (data : UInt32 → UInt8) (cmd : NvmeCommand)
    (phase : UInt8) : IoReply :=
  if !ioCmdIsNamespaceValid ctx cmd.nsid then ctx.fail data 0 0x0B phase
  else
    let ns := ctx.nsConfig cmd.nsid
    if ns.readOnly then ctx.fail data 0 0x82 phase
    else
      let length := cmd.nlb.toUInt32 * ns.blockSize
      let byteOffset := cmd.slba * ns.blockSize.toUInt64
      if !ioCmdValidateLbaRange ctx cmd.nsid cmd.slba cmd.nlb.toUInt32 then
        ctx.fail data 0 0x80 phase
      else
        let stats := { ctx.stats with
          bytesWritten := ctx.stats.bytesWritten + length.toUInt64
          writeCommands := ctx.stats.writeCommands + 1 }
        let done (ctx : IoCmdContext) : IoReply :=
          ⟨nvmeMakeStatus 0 0 phase, { ctx with stats := stats }, data⟩
        match ctx.backend with
        | none => done ctx
        | some b =>
          if ctx.dataBuffer ∧ length ≤ ctx.dataBufferSize then
            let (ok, b) := backendWrite b byteOffset data length
            let ctx := { ctx with backend := some b }
            if ok then done ctx else ctx.fail data 0x02 0x82 phase
          else done ctx

/-- `IoCmdFlush` -/
def ioCmdFlush (ctx : IoCmdContext) (data : UInt32 → UInt8) (phase : UInt8) : IoReply :=
  let done (ctx : IoCmdContext) : IoReply :=
    ⟨nvmeMakeStatus 0 0 phase,
      { ctx with stats := { ctx.stats with flushCommands := ctx.stats.flushCommands + 1 } },
      data⟩
  match ctx.backend with
  | none => done ctx
  | some b =>
    let (ok, b) := backendFlush b
    let ctx := { ctx with backend := some b }
    if ok then done ctx else ctx.fail data 0x02 0x82 phase

/-- `IoCmdWriteZeroes` -/
def ioCmdWriteZeroes (ctx : IoCmdContext) (data : UInt32 → UInt8) (cmd : NvmeCommand)
    (phase : UInt8) : IoReply :=
  if !ioCmdIsNamespaceValid ctx cmd.nsid then ctx.fail data 0 0x0B phase
  else
    let ns := ctx.nsConfig cmd.nsid
    if ns.readOnly then ctx.fail data 0 0x82 phase
    else
      let length := cmd.nlb.toUInt64 * ns.blockSize.toUInt64
      let byteOffset := cmd.slba * ns.blockSize.toUInt64
      if !ioCmdValidateLbaRange ctx cmd.nsid cmd.slba cmd.nlb.toUInt32 then
        ctx.fail data 0 0x80 phase
      else
        let stats := { ctx.stats with
          bytesWritten := ctx.stats.bytesWritten + length
          writeZeroesCommands := ctx.stats.writeZeroesCommands + 1 }
        let done (ctx : IoCmdContext) : IoReply :=
          ⟨nvmeMakeStatus 0 0 phase, { ctx with stats := stats }, data⟩
        match ctx.backend with
        | none => done ctx
        | some b =>
          let (ok, b) := backendWriteZeroes b byteOffset length
          let ctx := { ctx with backend := some b }
          if ok then done ctx else ctx.fail data 0x02 0x82 phase

/-- `IoCmdDatasetManagement` -/
def ioCmdDatasetManagement (ctx : IoCmdContext) (data : UInt32 → UInt8) (phase : UInt8) :
    IoReply := ⟨nvmeMakeStatus 0 0 phase, ctx, data⟩

/-- The dispatch of `IoCmdProcess` -/
def ioCmdDispatch (actx : AdminCmdContext) (ctx : IoCmdContext) (data : UInt32 → UInt8)
    (cmd : NvmeCommand) (queueId : UInt16) : IoReply :=
  let phase := (getCqPhase actx queueId).toUInt8
  if cmd.opc = nvmeIoRead then ioCmdRead ctx data cmd phase
  else if cmd.opc = nvmeIoWrite then ioCmdWrite ctx data cmd phase
  else if cmd.opc = nvmeIoFlush then ioCmdFlush ctx data phase
  else if cmd.opc = nvmeIoWriteZeroes then ioCmdWriteZeroes ctx data cmd phase
  else if cmd.opc = nvmeIoDatasetManagement then ioCmdDatasetManagement ctx data phase
  else ctx.fail data 0 0x01 phase

end VirtualNvme
