import VirtualNvme.Server.CommandEngine

/-!
# The server's main loop

`MainLoop` of `main_v2.c` with the parts of `driver_comm.c` it waits with. The loop is cut at
every access to what it shares with the driver: the check for a shutdown, the two loads of
the ring indices at the start of a poll, the poll's notifications one by one, and the wait for
the command event.
-/

namespace VirtualNvme

/-- Where the main loop is. -/
inductive LoopPhase where
  /-- before the checks of the loop -/
  | top
  /-- `CmdEnginePoll` is about to begin -/
  | poll
  /-- the poll has loaded the ring's head and not yet its tail -/
  | headLoaded (head : UInt32)
  /-- the poll goes through the notifications -/
  | entries
  | polled (processed : UInt64)
  /-- in `DriverWaitForCommand` -/
  | waiting
  | stopped
  deriving Repr, DecidableEq

/-- `g_Running`, the fields of `DRIVER_COMM_CONTEXT` for the command event, and the locals of
`MainLoop`. -/
structure MainLoop where
  phase : LoopPhase := .top
  running : Bool := true
  commandEvent : Option Nat := none
  eventModeEnabled : Bool := false
  totalCommands : UInt64 := 0
  lastHeartbeat : UInt32 := 0

/-- `DriverGetCommandEvent`; `reply` is the handle of a request that succeeded, which may be
null. -/
def driverGetCommandEvent (reply : Option (Option Nat)) (l : MainLoop) : Bool × MainLoop :=
  if l.commandEvent.isSome then (true, l)
  else
    match reply with
    | none => (false, { l with eventModeEnabled := false })
    | some none => (false, { l with eventModeEnabled := false })
    | some (some handle) => (true, { l with commandEvent := some handle, eventModeEnabled := true })

/-- The result of `WaitForSingleObject`. -/
inductive WaitResult where
  | object
  | timeout
  | failed
  deriving Repr, DecidableEq

/-- The loop waits for the event, not for a short sleep to end. -/
def MainLoop.waitsForEvent (l : MainLoop) : Bool := l.eventModeEnabled && l.commandEvent.isSome

/-- `DriverWaitForCommand`, with what the wait returns if there is one. -/
def driverWaitForCommand (result : WaitResult) (l : MainLoop) : Bool × MainLoop :=
  if !l.waitsForEvent then (true, l)
  else
    match result with
    | .object => (true, l)
    | .timeout => (false, l)
    | .failed => (false, { l with eventModeEnabled := false })

/-- `ConsoleCtrlHandler` on one of the events it handles. -/
def consoleCtrlHandler (l : MainLoop) : MainLoop := { l with running := false }

/-- The condition of the loop and the check for a shutdown. -/
def mainLoopTop (shutdownRequested : Bool) (l : MainLoop) : MainLoop :=
  if !l.running then { l with phase := .stopped }
  else if shutdownRequested then { l with running := false, phase := .stopped }
  else { l with phase := .poll }

/-- After the poll: the counter, the heartbeat of every second, and the wait if nothing was
processed. -/
def mainLoopPolled (now : UInt32) (processed : UInt64) (l : MainLoop) : MainLoop :=
  { l with
    totalCommands := l.totalCommands + processed
    lastHeartbeat := if now - l.lastHeartbeat ≥ 1000 then now else l.lastHeartbeat
    phase := if processed = 0 then .waiting else .top }

end VirtualNvme
