import VirtualNvme.Server.DriverComm
import VirtualNvme.Verification.Heartbeat

/-!
# The server's messages against the driver's handlers

The handlers want a buffer of 16 bytes and the server sends none. So the start-up message is
refused in every state of the driver, every heartbeat is refused as well, and a driver that
has no server stays without one whatever the server sends.
-/

namespace VirtualNvme

open Runs (Throughout)

/-- What happens while the server runs: its own messages, the ticks of the polling timers, and
everything else the driver does. -/
inductive ServerEvent where
  | userReady (now : Int)
  | heartbeat (now : Int)
  | tick (now : Int)
  | rest (config : Config) (shm : Option Shm) (controllers : List PdoContext) (os : Os)
      (commandReadyEvent : Bool) (errorCount : UInt64)

/-- The bus after an event, `none` if a timer callback never comes back. -/
def serverStep (ctx : DriverCommContext) (s : Option Bus) : ServerEvent → Option Bus
  | .userReady now => s.map fun b => (driverSendUserReady ctx now b).2
  | .heartbeat now => s.map fun b => (driverSendHeartbeat ctx now b).2
  | .tick now => lifeStep s (.tick now)
  | .rest config shm controllers os ready errors =>
    lifeStep s (.rest config shm controllers os ready errors)

/-- Every tick finds the server's last message younger than the timeout. -/
def Timely : Int → Int → List ServerEvent → Prop
  | _, _, [] => True
  | timeout, _, .userReady now :: es => Timely timeout now es
  | timeout, _, .heartbeat now :: es => Timely timeout now es
  | timeout, last, .tick now :: es => now - last ≤ timeout ∧ Timely timeout last es
  | _, last, .rest config _ _ _ _ _ :: es => Timely config.heartbeatTimeout100ns last es

/-- The commands behind a new admin tail are handed to the server. -/
def Forwards (b : Bus) (f : FdoContext) : Prop :=
  ∀ fuel pdo shm tail, b.shm = some shm → ∃ d shm',
    dispatchAdminTail fuel (b.driver f pdo) tail = some d ∧ d.shm = some shm' ∧
      (shm'.sq 0).tail = tail

/-- What the protocol between the server and the driver is for. -/
structure ServerServed (ctx : DriverCommContext) (b : Bus) : Prop where
  connects : ∀ now, (driverSendUserReady ctx now b).1 = true ∧
    ∃ f, (driverSendUserReady ctx now b).2.fdo = some f ∧ f.userReady = true
  beats : ∀ start events now b', Timely b.config.heartbeatTimeout100ns start events →
    Runs.run (serverStep ctx) (some (driverSendUserReady ctx start b).2) events = some b' →
      (driverSendHeartbeat ctx now b').1 = true ∧
        ∃ f, (driverSendHeartbeat ctx now b').2.fdo = some f ∧ f.lastHeartbeat = now
  alive : ∀ start events, Timely b.config.heartbeatTimeout100ns start events →
    Throughout (serverStep ctx) (fun s => ∃ b' f, s = some b' ∧ b'.fdo = some f ∧
      f.userCrashed = false ∧ Forwards b' f) (some (driverSendUserReady ctx start b).2) events

section Refused

variable (ctx : DriverCommContext) (now : Int) (b : Bus)

theorem vnvmeHandleUserReady_empty (f : FdoContext) (input : UserReadyInput)
    (hf : b.fdo = some f) : vnvmeHandleUserReady now (emptyRequest input) b =
      (.bufferTooSmall, b) := by
  rw [vnvmeHandleUserReady, hf]
  exact if_pos (show 0 < 16 by decide)

/-- The start-up message is refused in every state. -/
theorem driverSendUserReady_refused : driverSendUserReady ctx now b = (false, b) := by
  unfold driverSendUserReady
  split_ifs
  · rfl
  · cases hf : b.fdo with
    | none =>
        simp only [vnvmeHandleUserReady, hf]
        rfl
    | some f =>
        rw [vnvmeHandleUserReady_empty now b f _ hf]
        rfl

/-- So is every heartbeat. -/
theorem driverSendHeartbeat_refused : driverSendHeartbeat ctx now b = (false, b) := by
  unfold driverSendHeartbeat
  split_ifs
  · rfl
  · cases hf : b.fdo with
    | none =>
        simp only [vnvmeHandleHeartbeat, hf]
        rfl
    | some f =>
        have hshort : (emptyRequest ({} : HeartbeatInput)).inputBufferLength < 16 ∨
            (emptyRequest ({} : HeartbeatInput)).outputBufferLength < 16 := by decide
        simp only [vnvmeHandleHeartbeat, hf, if_pos hshort]
        split_ifs <;> rfl

end Refused

/-- No server is connected. -/
def Unconnected (s : Option Bus) : Prop :=
  ∀ b f, s = some b → b.fdo = some f → f.userReady = false

/-- Without a connected server, neither the messages nor a tick nor anything else connects
one. -/
theorem Unconnected.step {ctx : DriverCommContext} {s : Option Bus} (h : Unconnected s)
    (e : ServerEvent) : Unconnected (serverStep ctx s e) := by
  cases s with
  | none =>
      intro b f hb
      cases e <;> cases hb
  | some b =>
      cases e with
      | userReady now =>
          intro b' f hb hf
          obtain rfl : (driverSendUserReady ctx now b).2 = b' := Option.some.inj hb
          rw [driverSendUserReady_refused] at hf
          exact h b f rfl hf
      | heartbeat now =>
          intro b' f hb hf
          obtain rfl : (driverSendHeartbeat ctx now b).2 = b' := Option.some.inj hb
          rw [driverSendHeartbeat_refused] at hf
          exact h b f rfl hf
      | tick now =>
          intro b' f hb hf
          cases hf0 : b.fdo with
          | none =>
              have hsame : b.pollHeartbeat 0x10000 now = some b := by
                rw [Bus.pollHeartbeat, hf0]
              obtain rfl : b = b' := Option.some.inj (hsame.symm.trans hb)
              rw [hf0] at hf
              cases hf
          | some f0 =>
              have hidle : ¬ Overdue b f0 now := by
                rintro ⟨hready, _⟩
                rw [h b f0 rfl hf0] at hready
                cases hready
              obtain rfl : b = b' :=
                Option.some.inj ((pollHeartbeat_idle hf0 hidle 0x10000).symm.trans hb)
              exact h b f rfl hf
      | rest config shm controllers os ready errors =>
          intro b' f hb hf
          obtain rfl := Option.some.inj hb
          obtain ⟨f0, hf0, rfl⟩ := Option.map_eq_some_iff.mp hf
          exact h b f0 rfl hf0

/-- **The server never gets through.** In every state with a live bus context the protocol
fails: the start-up message and every heartbeat are refused and change nothing, and in every
run that starts without a connected server there is never one. -/
theorem server_never_served (ctx : DriverCommContext) (b : Bus) (f : FdoContext) :
    ¬ ServerServed ctx { b with fdo := some f } ∧
      (∀ now, vnvmeHandleUserReady now (emptyRequest {}) { b with fdo := some f } =
        (.bufferTooSmall, { b with fdo := some f })) ∧
      (∀ now, driverSendUserReady ctx now { b with fdo := some f } =
        (false, { b with fdo := some f })) ∧
      (∀ now, driverSendHeartbeat ctx now { b with fdo := some f } =
        (false, { b with fdo := some f })) ∧
      (f.userReady = false → ∀ events, Throughout (serverStep ctx) Unconnected
        (some { b with fdo := some f }) events) := by
  refine ⟨?_, ?_, ?_, ?_, ?_⟩
  · intro h
    have hready := (h.connects 0).1
    rw [driverSendUserReady_refused] at hready
    cases hready
  · intro now
    exact vnvmeHandleUserReady_empty now _ f _ rfl
  · intro now
    exact driverSendUserReady_refused ctx now _
  · intro now
    exact driverSendHeartbeat_refused ctx now _
  · rintro hready events pre post -
    refine Runs.run_induct (fun s e hs => hs.step e) ?_ pre
    intro b' f' hb hf
    obtain rfl := Option.some.inj hb
    obtain rfl : f = f' := Option.some.inj hf
    exact hready

/-- A freshly started driver refuses a freshly started server. -/
theorem server_refused_at_start :
    ¬ ServerServed {} { config := Config.allQueues, shm := some vnvmeAllocateShm } := by
  intro h
  have hready := (h.connects 0).1
  revert hready
  decide

end VirtualNvme
