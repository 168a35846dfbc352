import VirtualNvme.Driver.Doorbell
import VirtualNvme.Runs
import VirtualNvme.Verification.Drain

/-!
# Life and death of the server

The driver keeps two flags and a mode about the user-mode server: `UserReady` and
`UserCrashed`, and whether commands go to the server or are handled in the kernel. A
`USER_READY` request sets the first flag, the polling timer clears it and sets the other
one when the heartbeats stop, and switches to kernel mode. Nothing ever goes back: a server
that connects again after a crash finds both flags set and the mode still `KERNEL`.

In the runs of the bus, requests, timer ticks and everything else the driver does may come
in any order and at any time.
-/

namespace VirtualNvme

/-- On a bus with one controller the check is the one that the doorbell poller makes. -/
theorem checkUserModeHeartbeat_single (fuel : Nat) (now : Int) (b : Bus) (fdo : FdoContext)
    (pdo : PdoContext) (hfdo : b.fdo = some fdo) (hps : b.controllers = [pdo]) :
    b.checkUserModeHeartbeat fuel now fdo =
      (checkUserModeHeartbeat fuel now (b.driver fdo pdo)).map fun d =>
        { b with fdo := some d.fdo, shm := d.shm, controllers := [d.pdo] } := by
  have hself : { b with fdo := some fdo, shm := b.shm, controllers := [pdo] } = b := by
    cases b
    cases hfdo
    cases hps
    rfl
  by_cases hdead : (!fdo.userReady || fdo.userCrashed) = true
  · have hone : checkUserModeHeartbeat fuel now (b.driver fdo pdo) = some (b.driver fdo pdo) :=
      if_pos hdead
    rw [Bus.checkUserModeHeartbeat, if_pos hdead, hone]
    exact congrArg some hself.symm
  by_cases hlate : now - fdo.lastHeartbeat > b.config.heartbeatTimeout100ns
  · have hone : checkUserModeHeartbeat fuel now (b.driver fdo pdo) =
        (vnvmeAbortPendingUserCommands fuel
          (b.driver { fdo with userCrashed := true, userReady := false } pdo)).map fun r =>
            { r.2 with fdo := { r.2.fdo with commandMode := .kernel } } :=
      (if_neg hdead).trans (if_pos hlate)
    rw [Bus.checkUserModeHeartbeat, if_neg hdead, if_pos hlate, hone, hps, abortControllers]
    cases hr : vnvmeAbortPendingUserCommands fuel
        (b.driver { fdo with userCrashed := true, userReady := false } pdo) with
    | none => exact congrArg (Option.map _) (congrArg (Option.bind · _) hr)
    | some r => exact congrArg (Option.map _) (congrArg (Option.bind · _) hr)
  · have hone : checkUserModeHeartbeat fuel now (b.driver fdo pdo) = some (b.driver fdo pdo) :=
      (if_neg hdead).trans (if_neg hlate)
    rw [Bus.checkUserModeHeartbeat, if_neg hdead, if_neg hlate, hone]
    exact congrArg some hself.symm

/-! ## Runs of the bus -/

open Runs (Throughout EachStep)

/-- What can happen to the bus: the two requests of the server, the heartbeat check of a
polling timer, and everything else the driver does, which may change the configuration, the
shared memory, the controllers and, of the bus context, the command event and the error
counter. -/
inductive LifeEvent where
  | userReady (now : Int) (request : Ioctl UserReadyInput)
  | heartbeat (now : Int) (request : Ioctl HeartbeatInput)
  | tick (now : Int)
  | rest (config : Config) (shm : Option Shm) (controllers : List PdoContext) (os : Os)
      (commandReadyEvent : Bool) (errorCount : UInt64)

/-- One event. `none` is a timer callback that never comes back; the fuel is more than an
abort can use. -/
def lifeStep (s : Option Bus) (e : LifeEvent) : Option Bus :=
  s.bind fun b =>
    match e with
    | .userReady now request => some (vnvmeHandleUserReady now request b).2
    | .heartbeat now request => some (vnvmeHandleHeartbeat now request b).2
    | .tick now => b.pollHeartbeat 0x10000 now
    | .rest config shm controllers os ready errors =>
      some
        { config := config
          fdo := b.fdo.map fun f => { f with commandReadyEvent := ready, errorCount := errors }
          shm := shm
          controllers := controllers
          os := os }

/-- The server is connected and its last heartbeat is older than the timeout. -/
def Overdue (b : Bus) (f : FdoContext) (now : Int) : Prop :=
  f.userReady = true ∧ now - f.lastHeartbeat > b.config.heartbeatTimeout100ns

/-- The server has been declared dead: its flag is set, its pending commands are aborted in
every queue of every controller, and the kernel has taken over. -/
def DeclaredDead (b : Bus) (s : Option Bus) : Prop :=
  ∃ b' f, s = some b' ∧ b'.fdo = some f ∧ f.userCrashed = true ∧ f.userReady = false ∧
    f.commandMode = .kernel ∧ ∀ shm, b.shm = some shm →
      ∃ shm', b'.shm = some shm' ∧ ∀ q ∈ busQueues shm b.controllers, QueueDrained shm shm' q

/-- What the flags and the mode promise: the server is never ready and crashed at once, the
first tick after its heartbeats have stopped declares it dead, and a server that connects
again is served again. -/
structure HeartbeatContract (b : Bus) (events : List LifeEvent) : Prop where
  exclusive : Throughout lifeStep (fun s => ∀ b f, s = some b → b.fdo = some f →
    ¬ (f.userReady = true ∧ f.userCrashed = true)) (some b) events
  crash : EachStep lifeStep (fun s e => ∀ b f now, s = some b → b.fdo = some f → e = .tick now →
    Overdue b f now → DeclaredDead b (lifeStep s e)) (some b) events
  reconnect : EachStep lifeStep (fun s e => ∀ b now request, s = some b →
    e = .userReady now request → (vnvmeHandleUserReady now request b).1 = .success →
      ∃ f, (vnvmeHandleUserReady now request b).2.fdo = some f ∧ f.commandMode = .user)
    (some b) events

/-- A `USER_READY` request that is long enough and of the driver's major version. -/
structure UserReadyOk (request : Ioctl UserReadyInput) : Prop where
  length : 16 ≤ request.inputBufferLength
  status : request.inputStatus = .success
  version : request.input.userVersion >>> 16 = vnvmeVersion >>> 16

/-- No server connects after a crash, and an overdue tick finds no tail it cannot reach. -/
def HeartbeatGood (s : Option Bus) (e : LifeEvent) : Prop :=
  match e with
  | .userReady _ request => UserReadyOk request → ∀ b f, s = some b → b.fdo = some f →
      f.userCrashed = false
  | .tick now => ∀ b f shm, s = some b → b.fdo = some f → Overdue b f now → b.shm = some shm →
      ∀ q ∈ busQueues shm b.controllers, (shm.sq q).Drainable
  | .heartbeat _ _ => True
  | .rest _ _ _ _ _ _ => True

/-- What good events keep: the kernel has taken over exactly if the server has crashed. -/
structure FlagsOk (f : FdoContext) : Prop where
  exclusive : f.userReady = true → f.userCrashed = false
  mode : f.commandMode = .kernel ↔ f.userCrashed = true

def BusAlive (s : Option Bus) : Prop := ∃ b f, s = some b ∧ b.fdo = some f ∧ FlagsOk f

section Handlers

variable {b : Bus} {f : FdoContext} (hf : b.fdo = some f)

include hf

/-- A request is refused and changes nothing, or it is in order and connects the server. -/
theorem vnvmeHandleUserReady_cases (now : Int) (request : Ioctl UserReadyInput) :
    (¬ UserReadyOk request ∧ (vnvmeHandleUserReady now request b).1 ≠ .success ∧
        (vnvmeHandleUserReady now request b).2 = b) ∨
      (UserReadyOk request ∧ vnvmeHandleUserReady now request b =
        (.success, { b with fdo := some { f with
          userPid := request.input.userPid
          userReady := true
          lastHeartbeat := now
          userReadyEvent := true } })) := by
  simp only [vnvmeHandleUserReady, hf]
  split_ifs with hlen hst hver
  · exact Or.inl ⟨fun h => absurd h.length (Nat.not_le.mpr hlen), by simp, rfl⟩
  · have hne : request.inputStatus ≠ .success := by
      simpa [NtStatus.ntSuccess] using hst
    exact Or.inl ⟨fun h => hne h.status, hne, rfl⟩
  · exact Or.inl ⟨fun h => hver h.version, by simp, rfl⟩
  · refine Or.inr ⟨⟨Nat.not_lt.mp hlen, ?_, not_not.mp hver⟩, rfl⟩
    simpa [NtStatus.ntSuccess] using hst

theorem vnvmeHandleHeartbeat_cases (now : Int) (request : Ioctl HeartbeatInput) :
    (vnvmeHandleHeartbeat now request b).2 = b ∨
      (vnvmeHandleHeartbeat now request b).2 =
        { b with fdo := some { f with lastHeartbeat := now } } := by
  simp only [vnvmeHandleHeartbeat, hf]
  split_ifs
  · exact Or.inl rfl
  · exact Or.inl rfl
  · exact Or.inl rfl
  · exact Or.inl rfl
  · exact Or.inr rfl

/-- A tick that is not overdue does nothing. -/
theorem pollHeartbeat_idle {now : Int} (h : ¬ Overdue b f now) (fuel : Nat) :
    b.pollHeartbeat fuel now = some b := by
  simp only [Bus.pollHeartbeat, hf, Bus.checkUserModeHeartbeat]
  split_ifs with hmode hdead hlate
  · rfl
  · rw [Bool.or_eq_true, not_or] at hdead
    exact absurd ⟨by simpa using hdead.1, hlate⟩ h
  · rfl
  · rfl

/-- An overdue tick in user mode aborts everything. -/
theorem pollHeartbeat_overdue {now : Int} (hok : FlagsOk f) (h : Overdue b f now) (fuel : Nat) :
    b.pollHeartbeat fuel now =
      (abortControllers fuel b { f with userCrashed := true, userReady := false } b.shm
        b.controllers).map fun r =>
          { b with
            fdo := some { r.1 with commandMode := .kernel }
            shm := r.2.1
            controllers := r.2.2 } := by
  have halive := hok.exclusive h.1
  have hmode : f.commandMode = .user := by
    cases hm : f.commandMode with
    | user => rfl
    | kernel =>
        rw [hok.mode.mp hm] at halive
        cases halive
  have hdead : ¬ (!f.userReady || f.userCrashed) = true := by
    rw [h.1, halive]
    decide
  simp only [Bus.pollHeartbeat, hf, if_pos hmode, Bus.checkUserModeHeartbeat, if_neg hdead,
    if_pos h.2]

/-- An overdue tick declares the server dead if and only if it comes back, which it does
exactly if every queue can be drained. -/
theorem pollHeartbeat_dead_iff {now : Int} (hok : FlagsOk f) (h : Overdue b f now) :
    DeclaredDead b (b.pollHeartbeat 0x10000 now) ↔ ∀ shm, b.shm = some shm →
      ∀ q ∈ busQueues shm b.controllers, (shm.sq q).Drainable := by
  rw [pollHeartbeat_overdue hf hok h]
  cases hshm : b.shm with
  | none =>
      refine iff_of_true ?_ fun shm hs => absurd hs (by simp)
      rw [abortControllers_none]
      exact ⟨_, _, rfl, rfl, rfl, rfl, rfl, fun shm hs => absurd (hshm ▸ hs) (by simp)⟩
  | some shm =>
      have hiff : (∃ r, abortControllers 0x10000 b
          { f with userCrashed := true, userReady := false } (some shm) b.controllers = some r) ↔
            ∀ q ∈ busQueues shm b.controllers, (shm.sq q).Drainable :=
        abortControllers_returns_iff (Nat.le_refl 0x10000) b.controllers
      constructor
      · rintro ⟨b', _, hb', _⟩ shm' hs
        obtain rfl : shm = shm' := Option.some.inj hs
        obtain ⟨r, hr, _⟩ := Option.map_eq_some_iff.mp hb'
        exact hiff.mp ⟨r, hr⟩
      · intro hall
        obtain ⟨r, hr⟩ := hiff.mpr (hall shm rfl)
        obtain ⟨shm', hshm', hdr, n, hn⟩ := abortControllers_drained _ hr
        rw [hr]
        refine ⟨_, _, rfl, rfl, ?_, ?_, rfl, ?_⟩
        · rw [hn]
        · rw [hn]
        · intro s hs
          obtain rfl : shm = s := Option.some.inj (hshm.symm.trans hs)
          exact ⟨shm', hshm', hdr.on⟩

end Handlers

/-- The contract, one event at a time. -/
def StepContract (s : Option Bus) (e : LifeEvent) : Prop :=
  (∀ b f, lifeStep s e = some b → b.fdo = some f → ¬ (f.userReady = true ∧ f.userCrashed = true)) ∧
    (∀ b f now, s = some b → b.fdo = some f → e = .tick now → Overdue b f now →
      DeclaredDead b (lifeStep s e)) ∧
    ∀ b now request, s = some b → e = .userReady now request →
      (vnvmeHandleUserReady now request b).1 = .success →
        ∃ f, (vnvmeHandleUserReady now request b).2.fdo = some f ∧ f.commandMode = .user

theorem BusAlive.exclusive {s : Option Bus} (h : BusAlive s) (b : Bus) (f : FdoContext)
    (hs : s = some b) (hf : b.fdo = some f) : ¬ (f.userReady = true ∧ f.userCrashed = true) := by
  obtain ⟨b', f', hs', hf', hok⟩ := h
  obtain rfl : b = b' := Option.some.inj (hs.symm.trans hs')
  obtain rfl : f = f' := Option.some.inj (hf.symm.trans hf')
  rintro ⟨hready, hcrashed⟩
  rw [hok.exclusive hready] at hcrashed
  cases hcrashed

/-- A good event leaves the bus alive and its flags in order. -/
theorem BusAlive.step {s : Option Bus} (h : BusAlive s) {e : LifeEvent}
    (hgood : HeartbeatGood s e) :
    BusAlive (lifeStep s e) := by
  obtain ⟨b, f, rfl, hf, hok⟩ := h
  cases e with
  | userReady now request =>
      rcases vnvmeHandleUserReady_cases hf now request with ⟨_, _, hsame⟩ | ⟨hreq, heq⟩
      · exact ⟨b, f, congrArg some hsame, hf, hok⟩
      · have halive := hgood hreq b f rfl hf
        refine ⟨_, _, congrArg some (congrArg Prod.snd heq), rfl, fun _ => halive, hok.mode⟩
  | heartbeat now request =>
      rcases vnvmeHandleHeartbeat_cases hf now request with hsame | heq
      · exact ⟨b, f, congrArg some hsame, hf, hok⟩
      · exact ⟨_, _, congrArg some heq, rfl, hok.exclusive, hok.mode⟩
  | tick now =>
      by_cases hdue : Overdue b f now
      · obtain ⟨b', f', hb', hf', hc, hr, hm, _⟩ := (pollHeartbeat_dead_iff hf hok hdue).mpr
          (fun shm hshm => hgood b f shm rfl hf hdue hshm)
        refine ⟨b', f', hb', hf', fun hready => ?_, iff_of_true hm hc⟩
        rw [hr] at hready
        cases hready
      · exact ⟨b, f, pollHeartbeat_idle hf hdue _, hf, hok⟩
  | rest config shm controllers os ready errors =>
      exact ⟨_, _, rfl, congrArg (Option.map _) hf, hok.exclusive, hok.mode⟩

/-- In order, an event is good exactly if it keeps the contract. -/
theorem BusAlive.good_iff {s : Option Bus} (h : BusAlive s) (e : LifeEvent) :
    HeartbeatGood s e ↔ StepContract s e := by
  constructor
  · intro hgood
    refine ⟨(h.step hgood).exclusive, ?_, ?_⟩
    all_goals obtain ⟨b, f, rfl, hf, hok⟩ := h
    · rintro b' f' now hs hf' rfl hdue
      obtain rfl : b = b' := Option.some.inj hs
      obtain rfl : f = f' := Option.some.inj (hf.symm.trans hf')
      exact (pollHeartbeat_dead_iff hf hok hdue).mpr
        fun shm hshm => hgood b f shm rfl hf hdue hshm
    · rintro b' now request hs rfl haccepted
      obtain rfl : b = b' := Option.some.inj hs
      rcases vnvmeHandleUserReady_cases hf now request with ⟨_, hrefused, _⟩ | ⟨hreq, heq⟩
      · exact absurd haccepted hrefused
      · have halive := hgood hreq b f rfl hf
        refine ⟨_, by rw [heq], ?_⟩
        cases hm : f.commandMode with
        | user => rfl
        | kernel =>
            rw [hok.mode.mp hm] at halive
            cases halive
  · rintro ⟨hexcl, hcrash, _⟩
    obtain ⟨b, f, rfl, hf, hok⟩ := h
    cases e with
    | userReady now request =>
        intro hreq b' f' hs hf'
        obtain rfl : b = b' := Option.some.inj hs
        obtain rfl : f = f' := Option.some.inj (hf.symm.trans hf')
        rcases vnvmeHandleUserReady_cases hf now request with ⟨hbad, _⟩ | ⟨_, heq⟩
        · exact absurd hreq hbad
        · have hnot := hexcl _ _ (congrArg some (congrArg Prod.snd heq)) rfl
          exact Bool.eq_false_iff.mpr fun hcrashed => hnot ⟨rfl, hcrashed⟩
    | heartbeat now request => trivial
    | tick now =>
        intro b' f' shm hs hf' hdue hshm
        obtain rfl : b = b' := Option.some.inj hs
        obtain rfl : f = f' := Option.some.inj (hf.symm.trans hf')
        exact (pollHeartbeat_dead_iff hf hok hdue).mp (hcrash b f now rfl hf rfl hdue) shm hshm
    | rest config shm controllers os ready errors => trivial

/-- A well-formed `USER_READY` request. -/
def readyRequest : Ioctl UserReadyInput :=
  { inputBufferLength := 16, input := { userPid := 1, userVersion := vnvmeVersion } }

end VirtualNvme
