import VirtualNvme.Driver.Context

/-!
# The server's state

The contexts of the user-mode server: `ADMIN_CMD_CONTEXT`, `IO_CMD_CONTEXT`, the storage
backend and `CMD_ENGINE_CONTEXT`. The server reaches the shared memory through a mapping
of its own, so it is paired with the `Shm` of the driver (`Server`). Queue tables are
indexed by queue id, as on the driver's side.
-/

namespace VirtualNvme

/-- `ADMIN_IO_QUEUE_INFO`. The base pointers are kept as "not NULL", the descriptor as
the id of the shared queue it points to. -/
structure AdminIoQueueInfo where
  created : Bool := false
  capacity : UInt32 := 0
  cqId : UInt32 := 0
  phase : UInt32 := 0
  sqBase : Bool := false
  cqBase : Bool := false
  descriptor : Option Nat := none

/-- `ADMIN_CONTROLLER_INFO` -/
structure AdminControllerInfo where
  serialNumber : List UInt8 := []
  modelNumber : List UInt8 := []
  firmwareRevision : List UInt8 := []
  vendorId : UInt16 := 0
  maxNamespaces : UInt32 := 0
  maxQueueEntries : UInt32 := 0

/-- `ADMIN_NAMESPACE_INFO` -/
structure AdminNamespaceInfo where
  nsid : UInt32 := 0
  size : UInt64 := 0
  capacity : UInt64 := 0
  blockSize : UInt32 := 0
  active : Bool := false

/-- `ADMIN_CMD_CONTEXT`; the data buffer itself lies in shared memory. -/
structure AdminCmdContext where
  adminCqPhase : UInt32 := 0
  ioSq : Nat → AdminIoQueueInfo := fun _ => {}
  ioCq : Nat → AdminIoQueueInfo := fun _ => {}
  maxIoQueues : UInt32 := 0
  controller : AdminControllerInfo := {}
  namespaces : Nat → AdminNamespaceInfo := fun _ => {}
  namespaceCount : UInt32 := 0
  dataBuffer : Bool := false
  dataBufferSize : UInt32 := 0
  numQueues : UInt32 := 0
  arbitration : UInt32 := 0
  powerManagement : UInt32 := 0
  volatileWriteCache : UInt32 := 0

/-- `BACKEND_TYPE` -/
inductive BackendType where
  | memory
  | file
  deriving Repr, DecidableEq

/-- A storage backend: the memory and the file backend keep the same data, and the file
calls of the latter may fail (call number `n` succeeds iff `fileOk n`). -/
structure Backend where
  type : BackendType
  size : UInt64
  blockSize : UInt32 := 512
  readOnly : Bool := false
  data : UInt64 → UInt8 := fun _ => 0
  fileOk : Nat → Bool := fun _ => true
  fileCalls : Nat := 0

/-- `IO_NAMESPACE_CONFIG` -/
structure IoNamespaceConfig where
  nsid : UInt32 := 0
  size : UInt64 := 0
  blockSize : UInt32 := 0
  active : Bool := false
  readOnly : Bool := false

/-- `IO_STATS` -/
structure IoStats where
  commandsProcessed : UInt64 := 0
  bytesRead : UInt64 := 0
  bytesWritten : UInt64 := 0
  readCommands : UInt64 := 0
  writeCommands : UInt64 := 0
  flushCommands : UInt64 := 0
  writeZeroesCommands : UInt64 := 0
  errors : UInt64 := 0

/-- `IO_CMD_CONTEXT` -/
structure IoCmdContext where
  namespaces : Nat → IoNamespaceConfig := fun _ => {}
  namespaceCount : UInt32 := 0
  dataBuffer : Bool := false
  dataBufferSize : UInt32 := 0
  backend : Option Backend := none
  stats : IoStats := {}

/-- `CMD_ENGINE_STATS` -/
structure CmdEngineStats where
  adminCommandsProcessed : UInt64 := 0
  ioCommandsProcessed : UInt64 := 0
  bytesRead : UInt64 := 0
  bytesWritten : UInt64 := 0
  errors : UInt64 := 0
  pollCount : UInt64 := 0

/-- `CMD_ENGINE_CONTEXT`; `CmdEngineCreate` zeroes it. -/
structure CmdEngineContext where
  initialized : Bool := false
  adminCtx : AdminCmdContext := {}
  ioCtx : IoCmdContext := {}
  adminCqPhase : UInt32 := 0
  maxIoQueues : UInt32 := 0
  dataBuffer : Bool := false
  dataBufferSize : UInt32 := 0
  stats : CmdEngineStats := {}

/-- One namespace of `CMD_ENGINE_CONFIG`. -/
structure CmdEngineNamespace where
  size : UInt64 := 0
  blockSize : UInt32 := 0
  active : Bool := false
  readOnly : Bool := false

/-- `CMD_ENGINE_CONFIG` -/
structure CmdEngineConfig where
  backend : Option Backend := none
  serialNumber : List UInt8 := []
  modelNumber : List UInt8 := []
  firmwareRevision : List UInt8 := []
  vendorId : UInt16 := 0
  namespaces : Nat → CmdEngineNamespace := fun _ => {}
  namespaceCount : UInt32 := 0
  maxIoQueues : UInt32 := 0

/-- The server and the shared memory it works on. -/
structure Server where
  ctx : CmdEngineContext
  shm : Shm

end VirtualNvme
