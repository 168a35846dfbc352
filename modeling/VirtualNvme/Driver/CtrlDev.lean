import VirtualNvme.Driver.UserForward

/-!
# The control device and the heartbeat

The two requests of `ctrl_dev.c` by which the user-mode server announces itself and stays
alive, and the check of `doorbell.c` that declares it dead. They work on the bus: the bus
context, the shared memory and the list of controllers, all of which the server serves.
-/

namespace VirtualNvme

/-- `VNVME_VERSION` -/
def vnvmeVersion : UInt32 := ((1 : UInt32) <<< 16) ||| ((0 : UInt32) <<< 8) ||| 0

/-- `VNVME_USER_READY_INPUT`, 16 bytes. -/
structure UserReadyInput where
  userPid : UInt32 := 0
  userVersion : UInt32 := 0
  capabilities : UInt32 := 0
  reserved : UInt32 := 0
  deriving Repr, DecidableEq

/-- `VNVME_HEARTBEAT_INPUT`, 16 bytes. -/
structure HeartbeatInput where
  timestamp : UInt64 := 0
  commandsProcessed : UInt64 := 0
  deriving Repr, DecidableEq

/-- `VNVME_HEARTBEAT_OUTPUT`, 16 bytes. -/
structure HeartbeatOutput where
  kernelTimestamp : UInt64 := 0
  pendingCommands : UInt32 := 0
  reserved : UInt32 := 0
  deriving Repr, DecidableEq

/-- A device control request as the framework hands it over: the lengths of its buffers,
what `WdfRequestRetrieveInputBuffer` and `WdfRequestRetrieveOutputBuffer` return for it, and
the contents of the input buffer. -/
structure Ioctl (α : Type) where
  inputBufferLength : Nat
  outputBufferLength : Nat := 0
  inputStatus : NtStatus := .success
  outputStatus : NtStatus := .success
  input : α

/-- The virtual bus. `fdo` is `g_FdoContext`, null before the bus device exists, and
`controllers` is its `ChildDeviceList`. -/
structure Bus where
  config : Config
  fdo : Option FdoContext := some {}
  shm : Option Shm
  controllers : List PdoContext := []
  os : Os := {}

/-- The bus as one controller sees it. -/
def Bus.driver (b : Bus) (fdo : FdoContext) (pdo : PdoContext) : Driver :=
  { config := b.config, fdo := fdo, shm := b.shm, pdo := pdo, os := b.os }

/-! ## Requests of the server -/

/-- `VnvmeHandleUserReady` at the time `now`. -/
def vnvmeHandleUserReady (now : Int) (request : Ioctl UserReadyInput) (b : Bus) :
    NtStatus × Bus :=
  match b.fdo with
  | none => (.deviceNotReady, b)
  | some fdo =>
    if request.inputBufferLength < 16 then (.bufferTooSmall, b)
    else if !request.inputStatus.ntSuccess then (request.inputStatus, b)
    else if request.input.userVersion >>> 16 ≠ vnvmeVersion >>> 16 then (.revisionMismatch, b)
    else
      (.success, { b with
        fdo := some { fdo with
          userPid := request.input.userPid
          userReady := true
          lastHeartbeat := now
          userReadyEvent := true } })

/-- The pending commands of one queue, estimated from its tail and head. -/
def pendingOf (st : QueueState) : UInt32 := if st.tail ≥ st.head then st.tail - st.head else 0

/-- The pending commands of one controller, added to those counted before. -/
def addPending (pending : UInt32) (pdo : PdoContext) : UInt32 :=
  (List.range pdo.ioQueueCount.toNat).foldl
    (fun n i => if (pdo.sq (i + 1)).created then n + pendingOf (pdo.sq (i + 1)) else n)
    (pending + pendingOf (pdo.sq 0))

/-- The answer to a heartbeat. -/
structure HeartbeatReply where
  status : NtStatus
  bytesReturned : Nat := 0
  output : Option HeartbeatOutput := none

/-- `VnvmeHandleHeartbeat` at the time `now`. -/
def vnvmeHandleHeartbeat (now : Int) (request : Ioctl HeartbeatInput) (b : Bus) :
    HeartbeatReply × Bus :=
  match b.fdo with
  | none => ({ status := .deviceNotReady }, b)
  | some fdo =>
    if !fdo.userReady then ({ status := .deviceNotReady }, b)
    else if request.inputBufferLength < 16 ∨ request.outputBufferLength < 16 then
      ({ status := .bufferTooSmall }, b)
    else if !request.inputStatus.ntSuccess then ({ status := request.inputStatus }, b)
    else if !request.outputStatus.ntSuccess then ({ status := request.outputStatus }, b)
    else
      ({ status := .success
         bytesReturned := 16
         output := some
           { kernelTimestamp := UInt64.ofInt now
             pendingCommands := b.controllers.foldl addPending 0 } },
        { b with fdo := some { fdo with lastHeartbeat := now } })

/-! ## The heartbeat check -/

/-- The loop of `CheckUserModeHeartbeat` over the controllers that are left. -/
def abortControllers (fuel : Nat) (b : Bus) :
    FdoContext → Option Shm → List PdoContext →
      Option (FdoContext × Option Shm × List PdoContext)
  | fdo, shm, [] => some (fdo, shm, [])
  | fdo, shm, pdo :: rest =>
    (vnvmeAbortPendingUserCommands fuel { b.driver fdo pdo with shm := shm }).bind fun r =>
      (abortControllers fuel b r.2.fdo r.2.shm rest).map fun s =>
        (s.1, s.2.1, r.2.pdo :: s.2.2)

/-- `CheckUserModeHeartbeat` at the time `now`, on a bus with any number of controllers. -/
def Bus.checkUserModeHeartbeat (fuel : Nat) (now : Int) (b : Bus) (fdo : FdoContext) :
    Option Bus :=
  if !fdo.userReady || fdo.userCrashed then some b
  else if now - fdo.lastHeartbeat > b.config.heartbeatTimeout100ns then
    (abortControllers fuel b { fdo with userCrashed := true, userReady := false } b.shm
      b.controllers).map fun r =>
        { b with
          fdo := some { r.1 with commandMode := .kernel }
          shm := r.2.1
          controllers := r.2.2 }
  else some b

/-- What `VnvmeEvtPollingTimer` does before it looks at the doorbells: the heartbeat is
checked in user mode only. -/
def Bus.pollHeartbeat (fuel : Nat) (now : Int) (b : Bus) : Option Bus :=
  match b.fdo with
  | none => some b
  | some fdo =>
    if fdo.commandMode = .user then b.checkUserModeHeartbeat fuel now fdo else some b

end VirtualNvme
