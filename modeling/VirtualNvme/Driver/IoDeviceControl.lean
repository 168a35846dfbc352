import VirtualNvme.Driver.BusDevice
import VirtualNvme.Driver.NamespaceIoctl

/-!
# The requests of the control device

The handlers of `ctrl_dev.c` that report on the bus, create and delete controllers, take
notice of completions and set the trace level, and the dispatch of all requests. The control
queue hands out one request at a time.
-/

namespace VirtualNvme

section Buffers

variable {α : Type}

/-- The status with which a request without a large enough input buffer ends. -/
def Ioctl.inputError (size : Nat) (request : Ioctl α) : Option NtStatus :=
  if request.inputBufferLength < size then some .bufferTooSmall
  else if !request.inputStatus.ntSuccess then some request.inputStatus
  else none

/-- The status with which a request without a large enough output buffer ends. -/
def Ioctl.outputError (size : Nat) (request : Ioctl α) : Option NtStatus :=
  if request.outputBufferLength < size then some .bufferTooSmall
  else if !request.outputStatus.ntSuccess then some request.outputStatus
  else none

/-- The same for both buffers, whose lengths are compared before either is retrieved. -/
def Ioctl.bufferError (inputSize outputSize : Nat) (request : Ioctl α) : Option NtStatus :=
  if request.inputBufferLength < inputSize ∨ request.outputBufferLength < outputSize then
    some .bufferTooSmall
  else if !request.inputStatus.ntSuccess then some request.inputStatus
  else if !request.outputStatus.ntSuccess then some request.outputStatus
  else none

end Buffers

/-! ## Version and status -/

/-- `VNVME_GET_VERSION_OUTPUT`, 16 bytes. -/
structure GetVersionOutput where
  driverVersion : UInt32 := vnvmeVersion
  apiVersion : UInt32 := vnvmeVersion
  buildNumber : UInt32 := 1
  reserved : UInt32 := 0
  deriving Repr, DecidableEq

/-- `VnvmeHandleGetVersion` -/
def vnvmeHandleGetVersion (request : Ioctl Unit) : NtStatus × Option GetVersionOutput :=
  match request.outputError 16 with
  | some status => (status, none)
  | none => (.success, some {})

/-- The fields of `VNVME_GET_STATUS_OUTPUT`, 88 bytes, that the handler stores; it leaves the
others as they are in the buffer. -/
structure GetStatusOutput where
  driverStatus : UInt32 := 1
  userServiceStatus : UInt32
  controllerCount : UInt32
  namespaceCount : UInt32
  shmMapped : UInt32
  shmSize : UInt32
  commandsProcessed : UInt64
  errorCount : UInt64
  deriving Repr, DecidableEq

/-- The loop over one namespace table that counts the active ones. -/
def countActive (nsCount : UInt32) (pdo : PdoContext) : UInt32 :=
  (List.range 16).foldl (fun n i => if (pdo.namespaces i).active then n + 1 else n) nsCount

/-- `VnvmeHandleGetStatus` -/
def vnvmeHandleGetStatus (request : Ioctl Unit) (d : BusDevice) :
    NtStatus × Option GetStatusOutput :=
  match d.fdo with
  | none => (.deviceNotReady, none)
  | some fdo =>
    match request.outputError 88 with
    | some status => (status, none)
    | none =>
      (.success, some
        { userServiceStatus := if fdo.userReady then 2 else 0
          controllerCount := d.childDeviceCount
          namespaceCount := d.controllers.foldl countActive 0
          shmMapped := if d.shmUserVirtAddr.isSome then 1 else 0
          shmSize := d.shmSize.toUInt32
          commandsProcessed := d.commandsProcessed
          errorCount := fdo.errorCount })

/-! ## Controllers -/

/-- The list of controllers as `bus.c` works on it. -/
def BusDevice.childDevices (d : BusDevice) : ChildDevices :=
  { list := d.controllers, count := d.childDeviceCount, maxControllers := d.maxControllers }

def BusDevice.setChildDevices (d : BusDevice) (s : ChildDevices) : BusDevice :=
  { d with controllers := s.list, childDeviceCount := s.count }

/-- `VNVME_CREATE_CONTROLLER_OUTPUT`, 404 bytes. -/
structure CreateControllerOutput where
  controllerId : UInt32
  deviceInstanceId : String
  deriving Repr, DecidableEq

/-- `VnvmeHandleCreateController`; of the 624 bytes of input nothing is read. `pdoStatus` is
what `VnvmeCreateControllerPdo` returns. -/
def vnvmeHandleCreateController (request : Ioctl Unit) (pdoStatus : NtStatus) (d : BusDevice) :
    NtStatus × Option CreateControllerOutput × BusDevice :=
  match d.fdo with
  | none => (.deviceNotReady, none, d)
  | some _ =>
    match request.bufferError 624 404 with
    | some status => (status, none, d)
    | none =>
      let controllerId := d.nextControllerId
      let d := { d with nextControllerId := d.nextControllerId + 1 }
      let (status, s) := vnvmeCreateVirtualController controllerId pdoStatus d.childDevices
      if !status.ntSuccess then (status, none, d.setChildDevices s)
      else
        (.success, some
          { controllerId := controllerId
            deviceInstanceId := "VNVME\\CONTROLLER\\" ++ toString controllerId.toNat },
          d.setChildDevices s)

/-- `VNVME_DELETE_CONTROLLER_INPUT`, 8 bytes; `Force` is not read. -/
structure DeleteControllerInput where
  controllerId : UInt32 := 0
  force : UInt32 := 0
  deriving Repr, DecidableEq

/-- `VnvmeHandleDeleteController` -/
def vnvmeHandleDeleteController (request : Ioctl DeleteControllerInput) (d : BusDevice) :
    NtStatus × BusDevice :=
  match d.fdo with
  | none => (.deviceNotReady, d)
  | some _ =>
    match request.inputError 8 with
    | some status => (status, d)
    | none =>
      let (status, s) := vnvmeDeleteVirtualController request.input.controllerId d.childDevices
      (status, d.setChildDevices s)

/-- `VNVME_CONTROLLER_INFO` -/
structure ControllerInfo where
  controllerId : UInt32
  status : UInt32
  serialNumber : String := "VNVME000        "
  modelNumber : String := "Virtual NVMe Controller         "
  namespaceCount : UInt32
  totalCapacity : UInt64
  deriving Repr, DecidableEq

/-- The capacity of the active namespaces of a controller. -/
def totalCapacity (pdo : PdoContext) : UInt64 :=
  (List.range 16).foldl
    (fun capacity i =>
      let ns := pdo.namespaces i
      if ns.active then capacity + ns.totalBlocks * ns.blockSize.toUInt64 else capacity) 0

/-- What `VnvmeHandleListControllers` stores about a controller. -/
def controllerInfo (pdo : PdoContext) : ControllerInfo :=
  { controllerId := pdo.controllerId
    status := if pdo.cachedCC &&& 0x1 ≠ 0 then 1 else 0
    namespaceCount := pdo.namespaceCount.toUInt32
    totalCapacity := totalCapacity pdo }

/-- `VNVME_LIST_CONTROLLERS_OUTPUT`, 1288 bytes; the entries behind `ControllerCount` are
zero. -/
structure ListControllersOutput where
  controllerCount : UInt32
  controllers : List ControllerInfo
  deriving Repr, DecidableEq

/-- The loop of `VnvmeHandleListControllers`, with `index` entries stored before. -/
def listControllersLoop : Nat → List PdoContext → List ControllerInfo
  | _, [] => []
  | index, pdo :: rest =>
    if index < 16 then controllerInfo pdo :: listControllersLoop (index + 1) rest else []

/-- `VnvmeHandleListControllers` -/
def vnvmeHandleListControllers (request : Ioctl Unit) (d : BusDevice) :
    NtStatus × Option ListControllersOutput :=
  match d.fdo with
  | none => (.deviceNotReady, none)
  | some _ =>
    match request.outputError 1288 with
    | some status => (status, none)
    | none =>
      let controllers := listControllersLoop 0 d.controllers
      (.success, some
        { controllerCount := UInt32.ofNat controllers.length, controllers := controllers })

/-! ## Namespaces -/

/-- `VNVME_LIST_NAMESPACES_INPUT`, 8 bytes. -/
structure ListNamespacesInput where
  controllerId : UInt32 := 0
  deriving Repr, DecidableEq

/-- `VNVME_NAMESPACE_INFO` -/
structure NamespaceInfo where
  nsid : UInt32
  flags : UInt32
  totalBlocks : UInt64
  blockSize : UInt32
  deriving Repr, DecidableEq

/-- What `VnvmeHandleListNamespaces` stores about an active namespace. -/
def namespaceInfo (ns : Namespace) : NamespaceInfo :=
  { nsid := ns.nsId
    flags := 0x0001 ||| (if ns.readOnly then 0x0002 else 0) |||
      (if ns.thinProvisioned then 0x0004 else 0)
    totalBlocks := ns.totalBlocks
    blockSize := ns.blockSize }

/-- `VNVME_LIST_NAMESPACES_OUTPUT`, 392 bytes; the entries behind `Count` are zero. -/
structure ListNamespacesOutput where
  count : UInt32
  namespaces : List NamespaceInfo
  deriving Repr, DecidableEq

/-- The loop of `VnvmeHandleListNamespaces`. -/
def listNamespacesLoop (m : Media) : List NamespaceInfo :=
  (List.range 16).filterMap fun i =>
    if (m.namespaces i).active then some (namespaceInfo (m.namespaces i)) else none

/-- `VnvmeHandleListNamespaces` -/
def vnvmeHandleListNamespaces (request : Ioctl ListNamespacesInput) (d : BusDevice) :
    NtStatus × Option ListNamespacesOutput :=
  match d.fdo with
  | none => (.deviceNotReady, none)
  | some _ =>
    match request.bufferError 8 392 with
    | some status => (status, none)
    | none =>
      match ctrlDevFindController d.toBus request.input.controllerId with
      | none => (.notFound, none)
      | some k =>
        let namespaces := listNamespacesLoop (d.media k)
        (.success, some
          { count := UInt32.ofNat namespaces.length, namespaces := namespaces })

/-! ## Completions and statistics -/

/-- `VNVME_MAX_COMPLETIONS_PER_SUBMIT` -/
def vnvmeMaxCompletionsPerSubmit : UInt32 := 4096

/-- `VNVME_SUBMIT_COMPLETIONS_INPUT`, 8 bytes. -/
structure SubmitCompletionsInput where
  completionCount : UInt32 := 0
  controllerId : UInt32 := 0
  deriving Repr, DecidableEq

/-- The loop of `VnvmeHandleSubmitCompletions`. -/
def submitCompletionsLoop (completionCount targetControllerId : UInt32) :
    UInt64 → List PdoContext → UInt64
  | processed, [] => processed
  | processed, pdo :: rest =>
    if targetControllerId ≠ 0 ∧ pdo.controllerId ≠ targetControllerId then
      submitCompletionsLoop completionCount targetControllerId processed rest
    else if pdo.bar0.isSome then
      let processed := processed + completionCount.toUInt64
      if targetControllerId ≠ 0 then processed
      else submitCompletionsLoop completionCount targetControllerId processed rest
    else submitCompletionsLoop completionCount targetControllerId processed rest

/-- `VnvmeHandleSubmitCompletions` -/
def vnvmeHandleSubmitCompletions (request : Ioctl SubmitCompletionsInput) (d : BusDevice) :
    NtStatus × BusDevice :=
  match d.fdo with
  | none => (.deviceNotReady, d)
  | some _ =>
    match request.inputError 8 with
    | some status => (status, d)
    | none =>
      let input := request.input
      if input.completionCount = 0 then (.success, d)
      else if input.completionCount > vnvmeMaxCompletionsPerSubmit then (.invalidParameter, d)
      else
        (.success, { d with
          commandsProcessed := submitCompletionsLoop input.completionCount input.controllerId
            d.commandsProcessed d.controllers })

/-- `VNVME_GET_STATS_INPUT`, 8 bytes. -/
structure GetStatsInput where
  controllerId : UInt32 := 0
  flags : UInt32 := 0
  deriving Repr, DecidableEq

/-- `VNVME_CONTROLLER_STATS`, without the polling interval. -/
structure ControllerStats where
  controllerId : UInt32
  namespaceCount : UInt32
  adminCommandsProcessed : UInt64
  ioCommandsProcessed : UInt64
  totalReadBytes : UInt64
  totalWriteBytes : UInt64
  ioQueueCount : UInt32
  deriving Repr, DecidableEq

/-- `VNVME_NAMESPACE_STATS` -/
structure NamespaceStats where
  nsid : UInt32
  active : UInt32 := 1
  totalBlocks : UInt64
  blockSize : UInt32
  readCommands : UInt64
  writeCommands : UInt64
  flushCommands : UInt64
  readBytes : UInt64
  writeBytes : UInt64
  deriving Repr, DecidableEq

def controllerStats (pdo : PdoContext) : ControllerStats :=
  { controllerId := pdo.controllerId
    namespaceCount := pdo.namespaceCount.toUInt32
    adminCommandsProcessed := pdo.adminCommandsProcessed
    ioCommandsProcessed := pdo.ioCommandsProcessed
    totalReadBytes := pdo.bytesRead
    totalWriteBytes := pdo.bytesWritten
    ioQueueCount := pdo.ioQueueCount.toUInt32 }

def namespaceStats (ns : Namespace) : NamespaceStats :=
  { nsid := ns.nsId
    totalBlocks := ns.totalBlocks
    blockSize := ns.blockSize
    readCommands := ns.readCommands
    writeCommands := ns.writeCommands
    flushCommands := ns.flushCommands
    readBytes := ns.readBytes
    writeBytes := ns.writeBytes }

/-- `VNVME_GET_STATS_OUTPUT`, 1368 bytes, with the filled parts of its two arrays. -/
structure GetStatsOutput where
  controllerCount : UInt32 := 0
  totalNamespaceCount : UInt32 := 0
  uptime : UInt64 := 0
  totalCommandsProcessed : UInt64 := 0
  controllers : List ControllerStats := []
  namespaces : List NamespaceStats := []
  deriving Repr, DecidableEq

/-- The inner loop of `VnvmeHandleGetStats`: the slot `i` of a controller. -/
def collectNamespace (m : Media) (output : GetStatsOutput) (i : Nat) : GetStatsOutput :=
  if output.namespaces.length < 16 ∧ (m.namespaces i).active then
    { output with
      namespaces := output.namespaces ++ [namespaceStats (m.namespaces i)]
      totalNamespaceCount := output.totalNamespaceCount + 1 }
  else output

/-- The outer loop of `VnvmeHandleGetStats`. -/
def collectStats (targetControllerId : UInt32) : GetStatsOutput → List PdoContext → GetStatsOutput
  | output, [] => output
  | output, pdo :: rest =>
    if output.controllers.length < 8 then
      if targetControllerId ≠ 0 ∧ pdo.controllerId ≠ targetControllerId then
        collectStats targetControllerId output rest
      else
        let output := { output with controllers := output.controllers ++ [controllerStats pdo] }
        collectStats targetControllerId
          ((List.range 16).foldl (collectNamespace pdo.toMedia) output) rest
    else output

/-- The controller that `VnvmeHandleGetStats` is asked about, 0 for all. The input is
optional. -/
def GetStatsInput.target (request : Ioctl GetStatsInput) : UInt32 :=
  if request.inputBufferLength ≥ 8 ∧ request.inputStatus.ntSuccess then
    request.input.controllerId
  else 0

/-- `VnvmeHandleGetStats` at the time `now`. -/
def vnvmeHandleGetStats (now : Int) (request : Ioctl GetStatsInput) (d : BusDevice) :
    NtStatus × Option GetStatsOutput :=
  match d.fdo with
  | none => (.deviceNotReady, none)
  | some _ =>
    match request.outputError 1368 with
    | some status => (status, none)
    | none =>
      let output := collectStats (GetStatsInput.target request)
        { uptime := UInt64.ofInt (Int.tdiv (now - d.startTime) 10000)
          totalCommandsProcessed := d.commandsProcessed } d.controllers
      (.success, some
        { output with controllerCount := UInt32.ofNat output.controllers.length })

/-! ## The trace level -/

/-- `VNVME_MAX_DEBUG_LEVEL` -/
def vnvmeMaxDebugLevel : UInt32 := 5

/-- `VNVME_SET_DEBUG_LEVEL_INPUT`, 8 bytes. -/
structure SetDebugLevelInput where
  debugLevel : UInt32 := 0
  debugFlags : UInt32 := 0
  deriving Repr, DecidableEq

/-- `VnvmeHandleSetDebugLevel` -/
def vnvmeHandleSetDebugLevel (request : Ioctl SetDebugLevelInput) (g : VnvmeConfig) :
    NtStatus × VnvmeConfig :=
  match request.inputError 8 with
  | some status => (status, g)
  | none =>
    (.success, { g with
      debugLevel :=
        if request.input.debugLevel > vnvmeMaxDebugLevel then vnvmeMaxDebugLevel
        else request.input.debugLevel
      debugFlags := request.input.debugFlags })

/-- The global configuration replaced, and with it what the other modules read of it; only the
heartbeat time-out can have changed there. -/
def BusDevice.setGlobalConfig (d : BusDevice) (g : VnvmeConfig) : BusDevice :=
  { d with
    globalConfig := g
    config := { d.config with heartbeatTimeout100ns := g.heartbeatTimeout100ns } }

/-! ## Dispatch -/

/-- A request of the control device, with what its handler gets from the kernel. -/
inductive DeviceControl where
  | getVersion (request : Ioctl Unit)
  | getStatus (request : Ioctl Unit)
  | mapShm (process : Nat) (request : Ioctl Unit) (mdlAllocated : Bool) (outcome : MapOutcome)
  | userReady (now : Int) (request : Ioctl UserReadyInput)
  | heartbeat (now : Int) (request : Ioctl HeartbeatInput)
  | createController (request : Ioctl Unit) (pdoStatus : NtStatus)
  | deleteController (request : Ioctl DeleteControllerInput)
  | listControllers (request : Ioctl Unit)
  | getCommandEvent (process : Nat) (request : Ioctl Unit) (opened : NtStatus)
  | submitCompletions (request : Ioctl SubmitCompletionsInput)
  | getStats (now : Int) (request : Ioctl GetStatsInput)
  | setDebugLevel (request : Ioctl SetDebugLevelInput)
  | unmapShm
  | createNamespace (request : Ioctl CreateNamespaceInput)
  | deleteNamespace (request : Ioctl DeleteNamespaceInput)
  | listNamespaces (request : Ioctl ListNamespacesInput)
  | getConfig (request : Ioctl Unit)
  | setConfig (request : Ioctl SetConfigInput)
  | unknown

/-- The contents of an output buffer. -/
inductive ControlOutput where
  | version (output : GetVersionOutput)
  | status (output : GetStatusOutput)
  | mapping (output : MapShmOutput)
  | heartbeat (output : HeartbeatOutput)
  | controller (output : CreateControllerOutput)
  | controllers (output : ListControllersOutput)
  | commandEvent (eventHandle : Option Nat)
  | stats (output : GetStatsOutput)
  | createdNamespace (output : CreateNamespaceOutput)
  | namespaces (output : ListNamespacesOutput)
  | config (output : GetConfigOutput)

/-- What `WdfRequestCompleteWithInformation` gets. -/
structure ControlReply where
  status : DeviceStatus
  bytesReturned : Nat := 0
  output : Option ControlOutput := none

/-- The reply of a handler that stores `size` bytes or nothing. -/
def controlReply {α : Type} (size : Nat) (wrap : α → ControlOutput) (status : NtStatus)
    (output : Option α) : ControlReply :=
  { status := .nt status
    bytesReturned := if output.isSome then size else 0
    output := output.map wrap }

/-- `VnvmeEvtIoDeviceControl` -/
def vnvmeEvtIoDeviceControl (d : BusDevice) : DeviceControl → ControlReply × BusDevice
  | .getVersion request =>
    let (status, output) := vnvmeHandleGetVersion request
    (controlReply 16 .version status output, d)
  | .getStatus request =>
    let (status, output) := vnvmeHandleGetStatus request d
    (controlReply 88 .status status output, d)
  | .mapShm process request mdlAllocated outcome =>
    let (r, d) := vnvmeHandleMapShm process request mdlAllocated outcome d
    ({ status := r.status, bytesReturned := r.bytesReturned, output := r.output.map .mapping }, d)
  | .userReady now request =>
    let (status, b) := vnvmeHandleUserReady now request d.toBus
    ({ status := .nt status }, { d with toBus := b })
  | .heartbeat now request =>
    let (r, b) := vnvmeHandleHeartbeat now request d.toBus
    ({ status := .nt r.status
       bytesReturned := r.bytesReturned
       output := r.output.map .heartbeat }, { d with toBus := b })
  | .createController request pdoStatus =>
    let (status, output, d) := vnvmeHandleCreateController request pdoStatus d
    (controlReply 404 .controller status output, d)
  | .deleteController request =>
    let (status, d) := vnvmeHandleDeleteController request d
    ({ status := .nt status }, d)
  | .listControllers request =>
    let (status, output) := vnvmeHandleListControllers request d
    (controlReply 1288 .controllers status output, d)
  | .getCommandEvent process request opened =>
    let (r, d) := vnvmeHandleGetCommandEvent process request opened d
    ({ status := .nt r.status
       bytesReturned := r.bytesReturned
       output := if r.bytesReturned = 0 then none else some (.commandEvent r.eventHandle) }, d)
  | .submitCompletions request =>
    let (status, d) := vnvmeHandleSubmitCompletions request d
    ({ status := .nt status }, d)
  | .getStats now request =>
    let (status, output) := vnvmeHandleGetStats now request d
    (controlReply 1368 .stats status output, d)
  | .setDebugLevel request =>
    let (status, g) := vnvmeHandleSetDebugLevel request d.globalConfig
    ({ status := .nt status }, d.setGlobalConfig g)
  | .unmapShm =>
    let (status, d) := vnvmeHandleUnmapShm d
    ({ status := .nt status }, d)
  | .createNamespace request =>
    let (r, b) := handleCreateNamespaceRequest request d.toBus
    ({ status := .nt r.status
       bytesReturned := r.bytesReturned
       output := r.output.map .createdNamespace }, { d with toBus := b })
  | .deleteNamespace request =>
    let (status, b) := handleDeleteNamespaceRequest request d.toBus
    ({ status := .nt status }, { d with toBus := b })
  | .listNamespaces request =>
    let (status, output) := vnvmeHandleListNamespaces request d
    (controlReply 392 .namespaces status output, d)
  | .getConfig request =>
    let r := vnvmeHandleGetConfig request d.globalConfig
    ({ status := .nt r.status
       bytesReturned := r.bytesReturned
       output := r.output.map .config }, d)
  | .setConfig request =>
    let (status, g) := vnvmeHandleSetConfig request d.globalConfig
    ({ status := .nt status }, d.setGlobalConfig g)
  | .unknown => ({ status := .invalidDeviceRequest }, d)

/-- A request reaches its handler only while the control queue is running; otherwise it stays
in the queue. -/
def BusDevice.deviceControl (d : BusDevice) (request : DeviceControl) :
    Option ControlReply × BusDevice :=
  if d.controlQueue then
    let (reply, d) := vnvmeEvtIoDeviceControl d request
    (some reply, d)
  else (none, d)

end VirtualNvme
