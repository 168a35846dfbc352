import VirtualNvme.Runs
import VirtualNvme.Server.MainLoop
import VirtualNvme.Verification.NotifyRing

/-!
# Notifications at the grain of single accesses

A forwarding of the driver is cut at every access to the ring, and so is the main loop of the
server. Any number of forwardings may be under way, one for each controller's timer. As long
as no two of them are at the ring's tail at once the ring is still the queue of `NotifyRing`,
although entries are written field by field; and as long as nobody clears `UserReady` between
the push and its signal, the server never sleeps over a notification.
-/

namespace VirtualNvme

open RingBuffer
open Runs

/-! ## The two sides -/

/-- Where a forwarding is. -/
inductive ForwardPhase where
  | idle
  /-- the queue's tail is stored, the ring's tail is loaded next -/
  | begun (entry : NotifyEntry)
  /-- the ring's tail is loaded, the check against its head is next -/
  | loaded (entry : NotifyEntry) (tail : UInt32)
  /-- so many fields of the slot are stored -/
  | writing (entry : NotifyEntry) (tail : UInt32) (fields : Nat)
  /-- the notification is out or was dropped, `SignalUserMode` is next -/
  | signalling

/-- Between the load of the ring's tail and the store to it. -/
def ForwardPhase.AtTail : ForwardPhase → Prop
  | .loaded _ _ => True
  | .writing _ _ _ => True
  | _ => False

/-- The slot after one more store of `NotifyRingPush`. -/
def storeField (entry : NotifyEntry) (fields : Nat) (slot : NotifyEntry) : NotifyEntry :=
  match fields with
  | 0 => { slot with queueId := entry.queueId }
  | 1 => { slot with type := entry.type }
  | _ => { slot with index := entry.index }

/-- The ring with its history, the bus context, the forwardings and the main loop. -/
structure WakeRun extends RingRun where
  fdo : FdoContext
  forwards : Nat → ForwardPhase := fun _ => .idle
  loop : MainLoop := {}
  shutdownRequested : Bool := false

inductive WakeEvent where
  /-- timer `i` forwards a tail -/
  | forward (i : Nat) (queueId : UInt16) (newTail : UInt32)
  /-- the next access of this forwarding -/
  | advance (i : Nat)
  /-- the next access of the main loop -/
  | serve (fuel : Nat) (now : UInt32)
  /-- the wait returns -/
  | wait (result : WaitResult)
  | console
  /-- anything else in the server, the driver and the shared memory -/
  | rest (server : Server) (fdo : FdoContext) (shutdownRequested : Bool)

namespace WakeRun

def setForward (r : WakeRun) (i : Nat) (phase : ForwardPhase) : WakeRun :=
  { r with forwards := Function.update r.forwards i phase }

def setLoop (r : WakeRun) (l : MainLoop) : WakeRun := { r with loop := l }

def setShm (r : WakeRun) (shm : Shm) : WakeRun :=
  { r with server := { r.server with shm := shm } }

def setRing (r : WakeRun) (ring : NotifyRing) : WakeRun :=
  r.setShm { r.server.shm with notifyRing := ring }

/-- `VnvmeForwardAdminCommandsToUser` and `VnvmeForwardIoCommandsToUser` up to the ring. -/
def beginForward (r : WakeRun) (i : Nat) (queueId : UInt16) (newTail : UInt32) : WakeRun :=
  let shm := r.server.shm
  if !r.fdo.userReady then r
  else if queueId > 16 then r
  else if queueId ≠ 0 ∧ shm.ioQueueDescriptorOffset = 0 then r
  else
    let q := queueId.toNat
    (r.setShm (shm.setSq q { shm.sq q with tail := newTail })).setForward i
      (.begun ⟨queueId, 0, newTail⟩)

/-- The next access of a forwarding. -/
def advance (r : WakeRun) (i : Nat) : WakeRun :=
  match r.forwards i with
  | .idle => r
  | .begun entry =>
    if r.server.shm.notifyRingOffset = 0 then r.setForward i .signalling
    else r.setForward i (.loaded entry r.ring.tail)
  | .loaded entry tail =>
    if next r.ring.size tail = r.ring.head then r.setForward i .signalling
    else r.setForward i (.writing entry tail 0)
  | .writing entry tail fields =>
    if fields < 3 then
      (r.setRing { r.ring with
        entries := Function.update r.ring.entries tail
          (storeField entry fields (r.ring.entries tail)) }).setForward i
        (.writing entry tail (fields + 1))
    else
      let r := (r.setRing { r.ring with tail := next r.ring.size tail }).setForward i .signalling
      { r with pushed := r.pushed ++ [entry] }
  | .signalling => { r with fdo := signalUserMode r.fdo }.setForward i .idle

/-- The next access of the main loop. A notification whose queue the fuel does not last for
stays where it is. -/
def serve (r : WakeRun) (fuel : Nat) (now : UInt32) : WakeRun :=
  match r.loop.phase with
  | .top => r.setLoop (mainLoopTop r.shutdownRequested r.loop)
  | .poll =>
    if pollReady r.server then r.setLoop { r.loop with phase := .headLoaded r.ring.head }
    else r.setLoop { r.loop with phase := .polled 0 }
  | .headLoaded head =>
    { r with
      frame := some { head := head, tail := r.ring.tail }
      loop := { r.loop with phase := .entries } }
  | .entries =>
    match r.frame with
    | none => r
    | some f =>
      if f.head = f.tail then
        { r with
          toRingRun := r.toRingRun.afterFinish f
          loop := { r.loop with phase := .polled f.processed } }
      else
        match pollSlot fuel { server := r.server, processed := f.processed } f.head with
        | none => r
        | some p => { r with toRingRun := r.toRingRun.afterConsume f p }
  | .polled processed => r.setLoop (mainLoopPolled now processed r.loop)
  | .waiting => r
  | .stopped => r

/-- The wait returns: on the event only if it is set, and then it is reset. -/
def waitReturns (r : WakeRun) (result : WaitResult) : WakeRun :=
  if r.loop.phase = .waiting then
    let back := { (driverWaitForCommand result r.loop).2 with phase := .top }
    if r.loop.waitsForEvent ∧ result = .object then
      if r.fdo.commandReadyEvent then
        { r with fdo := { r.fdo with commandReadyEvent := false }, loop := back }
      else r
    else r.setLoop back
  else r

/-- What is not the ring, its event or the main loop changes in any way. -/
def elsewhere (r : WakeRun) (server : Server) (fdo : FdoContext) (shutdownRequested : Bool) :
    WakeRun :=
  { r with
    server :=
      { shm := { server.shm with
          notifyRing := r.server.shm.notifyRing
          notifyRingOffset := r.server.shm.notifyRingOffset }
        ctx := { server.ctx with initialized := r.server.ctx.initialized } }
    fdo := { fdo with commandReadyEvent := r.fdo.commandReadyEvent }
    shutdownRequested := shutdownRequested }

end WakeRun

def wakeStep (r : WakeRun) : WakeEvent → WakeRun
  | .forward i queueId newTail =>
    match r.forwards i with
    | .idle => r.beginForward i queueId newTail
    | _ => r
  | .advance i => r.advance i
  | .serve fuel now => r.serve fuel now
  | .wait result => r.waitReturns result
  | .console => r.setLoop (consoleCtrlHandler r.loop)
  | .rest server fdo shutdownRequested => r.elsewhere server fdo shutdownRequested

/-! ## A forwarding that nobody interrupts -/

section Uninterrupted

variable {r : WakeRun} {i : Nat}

/-- The accesses to the ring in a row are `notifyRingPush`. -/
theorem advance_push {entry : NotifyEntry} (hi : r.forwards i = .begun entry) :
    let r' := run wakeStep r (List.replicate 7 (.advance i))
    r'.server.shm = (notifyRingPush r.server.shm entry.queueId entry.type entry.index).2 ∧
      r'.fdo = signalUserMode r.fdo ∧ r'.forwards i = .idle := by
  by_cases hoff : r.server.shm.notifyRingOffset = 0
  · simp [run, List.replicate, wakeStep, WakeRun.advance, hi, hoff, WakeRun.setForward,
      notifyRingPush]
  by_cases hfull : next r.server.shm.notifyRing.size r.server.shm.notifyRing.tail =
      r.server.shm.notifyRing.head
  · simp [run, List.replicate, wakeStep, WakeRun.advance, hi, hoff, hfull, WakeRun.setForward,
      notifyRingPush, NotifyRing.push, RingRun.ring]
  · simp [run, List.replicate, wakeStep, WakeRun.advance, hi, hoff, hfull, WakeRun.setForward,
      notifyRingPush, NotifyRing.push, WakeRun.setRing, WakeRun.setShm, storeField, RingRun.ring]

/-- The driver's forwarding of a tail of any queue. -/
def forwardToUser (d : Driver) (queueId : UInt16) (newTail : UInt32) : Driver :=
  if queueId = 0 then vnvmeForwardAdminCommandsToUser d newTail
  else vnvmeForwardIoCommandsToUser d queueId newTail

/-- Both forwardings give up at once, or both come to the ring. -/
theorem beginForward_cases {d : Driver} (hshm : d.shm = some r.server.shm) (hfdo : d.fdo = r.fdo)
    (queueId : UInt16) (newTail : UInt32) :
    (forwardToUser d queueId newTail = d ∧ r.beginForward i queueId newTail = r) ∨
      (forwardToUser d queueId newTail = forwardTail d r.server.shm queueId newTail ∧
        r.beginForward i queueId newTail = (r.setShm (r.server.shm.setSq queueId.toNat
          { r.server.shm.sq queueId.toNat with tail := newTail })).setForward i
            (.begun ⟨queueId, 0, newTail⟩)) := by
  simp only [forwardToUser, vnvmeForwardAdminCommandsToUser_eq hshm,
    vnvmeForwardIoCommandsToUser_eq hshm, hfdo, WakeRun.beginForward]
  by_cases hready : r.fdo.userReady = true
  · by_cases h0 : queueId = 0
    · subst h0
      simp [hready]
    · by_cases h16 : queueId ≤ 16
      · by_cases hoff : r.server.shm.ioQueueDescriptorOffset = 0
        · simp [hready, h0, h16, hoff]
        · simp [hready, h0, h16, hoff, UInt16.not_lt.mpr h16]
      · simp [hready, h0, h16, UInt16.not_le.mp h16]
  · simp [hready]

/-- A whole forwarding in a row is the driver's function. -/
theorem forward_uninterrupted (hi : r.forwards i = .idle) {d : Driver}
    (hshm : d.shm = some r.server.shm) (hfdo : d.fdo = r.fdo) (queueId : UInt16)
    (newTail : UInt32) {r' : WakeRun}
    (hr' : r' = run wakeStep r (.forward i queueId newTail :: List.replicate 7 (.advance i))) :
    (forwardToUser d queueId newTail).shm = some r'.server.shm ∧
      (forwardToUser d queueId newTail).fdo = r'.fdo := by
  have hstart : wakeStep r (.forward i queueId newTail) = r.beginForward i queueId newTail := by
    simp only [wakeStep, hi]
  have hfixed : wakeStep r (.advance i) = r := by
    simp only [wakeStep, WakeRun.advance, hi]
  rw [run, List.foldl_cons, hstart, ← run] at hr'
  rcases beginForward_cases (i := i) hshm hfdo queueId newTail with ⟨hd, hr⟩ | ⟨hd, hr⟩
  · rw [hr, run_replicate_of_fixed hfixed] at hr'
    rw [hd, hr']
    exact ⟨hshm, hfdo⟩
  · have hbegun : (r.beginForward i queueId newTail).forwards i =
        .begun ⟨queueId, 0, newTail⟩ := by
      rw [hr]
      exact Function.update_self _ _ _
    obtain ⟨hshm', hfdo', -⟩ := advance_push hbegun
    rw [← hr'] at hshm' hfdo'
    rw [hd]
    refine ⟨?_, ?_⟩
    · rw [hshm', hr]
      rfl
    · rw [hfdo', hr]
      exact congrArg signalUserMode hfdo

end Uninterrupted

/-! ## The invariant -/

namespace WakeRun

/-- The event is set, or a forwarding is about to set it. -/
def Awake (r : WakeRun) : Prop :=
  r.fdo.commandReadyEvent = true ∨ ∃ i, r.forwards i = .signalling

/-- Unless the server is awake its index has reached the ring's tail. -/
def LoopInv (r : WakeRun) : Prop :=
  match r.loop.phase with
  | .headLoaded head => r.frame = none ∧ head = r.ring.head
  | .entries => ∃ f, r.frame = some f ∧ (r.Awake ∨ f.tail = r.ring.tail)
  | .polled processed => r.frame = none ∧ (processed = 0 → r.Awake ∨ r.ring.head = r.ring.tail)
  | .waiting => r.frame = none ∧ (r.Awake ∨ r.ring.head = r.ring.tail)
  | _ => r.frame = none

end WakeRun

/-- The fields that are stored are those of the entry. -/
structure Stored (entry : NotifyEntry) (fields : Nat) (slot : NotifyEntry) : Prop where
  queueId : 0 < fields → slot.queueId = entry.queueId
  type : 1 < fields → slot.type = entry.type
  index : 2 < fields → slot.index = entry.index

/-- What a forwarding at the tail has seen is still so. -/
def TailInv (ring : NotifyRing) : ForwardPhase → Prop
  | .loaded _ tail => tail = ring.tail
  | .writing entry tail fields =>
    tail = ring.tail ∧ next ring.size tail ≠ ring.head ∧
      Stored entry fields (ring.entries tail)
  | _ => True

/-- At most one forwarding is at the tail. -/
structure ForwardsInv (ring : NotifyRing) (forwards : Nat → ForwardPhase) : Prop where
  seen : ∀ i, TailInv ring (forwards i)
  alone : ∀ i j, (forwards i).AtTail → (forwards j).AtTail → i = j

structure WakeInv (n : UInt32) (r : WakeRun) : Prop where
  ring : RingInv n r.toRingRun
  ready : pollReady r.server = true
  forwards : ForwardsInv r.ring r.forwards
  loop : r.LoopInv

theorem Stored.store {entry slot : NotifyEntry} {fields : Nat} (h : Stored entry fields slot) :
    Stored entry (fields + 1) (storeField entry fields slot) := by
  match fields with
  | 0 => exact ⟨fun _ => rfl, fun h => by omega, fun h => by omega⟩
  | 1 => exact ⟨fun _ => h.queueId (by omega), fun _ => rfl, fun h => by omega⟩
  | k + 2 => exact ⟨fun _ => h.queueId (by omega), fun _ => h.type (by omega), fun _ => rfl⟩

theorem Stored.eq {entry slot : NotifyEntry} {fields : Nat} (h : Stored entry fields slot)
    (hall : ¬ fields < 3) : slot = entry := by
  cases slot
  cases entry
  simp only [NotifyEntry.mk.injEq]
  exact ⟨h.queueId (by omega), h.type (by omega), h.index (by omega)⟩

/-- A ring that is not full does not become so by the poll that ends. -/
theorem RingInv.room_finish {n : UInt32} {r : RingRun} (h : RingInv n r) {f : PollFrame}
    (hframe : r.frame = some f) (hfree : next n r.ring.tail ≠ r.ring.head) :
    next n r.ring.tail ≠ f.head := by
  have hf := h.frame
  rw [FrameInv, hframe] at hf
  obtain ⟨hrel, hat, -⟩ := hf
  have hafter := h.holds.release hat hrel h.consumed_prefix.length_le
  have hbefore := mt h.holds.next_tail_eq_head_iff.mpr hfree
  refine mt hafter.next_tail_eq_head_iff.mp fun hfull => ?_
  have hroom := h.holds.room
  omega

theorem TailInv.of_not_atTail {ring : NotifyRing} {phase : ForwardPhase}
    (h : ¬ phase.AtTail) : TailInv ring phase := by
  cases phase with
  | loaded => exact absurd trivial h
  | writing => exact absurd trivial h
  | _ => trivial

/-! ## The steps of a forwarding -/

section Forward

variable {n : UInt32} {r : WakeRun} {i : Nat}

theorem WakeRun.Awake.setForward (h : r.Awake) (hi : r.forwards i ≠ .signalling)
    (phase : ForwardPhase) : (r.setForward i phase).Awake := by
  rcases h with hevent | ⟨j, hj⟩
  · exact .inl hevent
  · have hne : j ≠ i := by
      rintro rfl
      exact hi hj
    exact .inr ⟨j, (Function.update_of_ne hne _ _).trans hj⟩

/-- A step that does not concern the main loop leaves it alone, if it sets the tail only with
a signal to follow. -/
theorem WakeRun.LoopInv.other {r' : WakeRun} (h : r.LoopInv)
    (hphase : r'.loop.phase = r.loop.phase) (hframe : r'.frame = r.frame)
    (hhead : r'.ring.head = r.ring.head) (hawake : r.Awake → r'.Awake)
    (htail : r'.Awake ∨ r'.ring.tail = r.ring.tail) : r'.LoopInv := by
  have hseen : ∀ index, r.Awake ∨ index = r.ring.tail → r'.Awake ∨ index = r'.ring.tail := by
    rintro index (h | h)
    · exact .inl (hawake h)
    · exact htail.imp_right fun heq => h.trans heq.symm
  unfold WakeRun.LoopInv at h ⊢
  rw [hphase]
  cases hp : r.loop.phase with
  | headLoaded head =>
      rw [hp] at h
      exact ⟨hframe.trans h.1, h.2.trans hhead.symm⟩
  | entries =>
      rw [hp] at h
      obtain ⟨f, hf, hawake⟩ := h
      exact ⟨f, hframe.trans hf, hseen _ hawake⟩
  | polled processed =>
      rw [hp] at h
      exact ⟨hframe.trans h.1, fun h0 => hhead ▸ hseen _ (h.2 h0)⟩
  | waiting =>
      rw [hp] at h
      exact ⟨hframe.trans h.1, hhead ▸ hseen _ h.2⟩
  | top =>
      rw [hp] at h
      exact hframe.trans h
  | poll =>
      rw [hp] at h
      exact hframe.trans h
  | stopped =>
      rw [hp] at h
      exact hframe.trans h

/-- A forwarding moves on. It comes to the tail only if no other one is there, and works on the
ring only if it is there itself. -/
theorem ForwardsInv.update {ring ring' : NotifyRing} {forwards : Nat → ForwardPhase}
    (h : ForwardsInv ring forwards) (phase : ForwardPhase)
    (hring : ring' = ring ∨ (forwards i).AtTail) (hphase : TailInv ring' phase)
    (halone : phase.AtTail → ∀ j, (forwards j).AtTail → j = i) :
    ForwardsInv ring' (Function.update forwards i phase) := by
  have hself : Function.update forwards i phase i = phase := Function.update_self _ _ _
  have hother : ∀ j, j ≠ i → Function.update forwards i phase j = forwards j :=
    fun j hj => Function.update_of_ne hj _ _
  refine ⟨fun j => ?_, fun j k hj hk => ?_⟩
  · by_cases hji : j = i
    · rw [hji, hself]
      exact hphase
    · rw [hother j hji]
      rcases hring with rfl | hat
      · exact h.seen j
      · exact .of_not_atTail fun htail => hji (h.alone j i htail hat)
  · by_cases hji : j = i
    · by_cases hki : k = i
      · exact hji.trans hki.symm
      · rw [hji, hself] at hj
        rw [hother k hki] at hk
        exact absurd (halone hj k hk) hki
    · rw [hother j hji] at hj
      by_cases hki : k = i
      · rw [hki, hself] at hk
        exact absurd (halone hk j hj) hji
      · rw [hother k hki] at hk
        exact h.alone j k hj hk

/-- A step of a forwarding that leaves the ring as it is. -/
theorem WakeInv.setForward (h : WakeInv n r) (hi : r.forwards i ≠ .signalling)
    (phase : ForwardPhase) (hphase : TailInv r.ring phase)
    (halone : phase.AtTail → ∀ j, (r.forwards j).AtTail → j = i) :
    WakeInv n (r.setForward i phase) :=
  ⟨h.ring, h.ready, h.forwards.update phase (.inl rfl) hphase halone,
    h.loop.other rfl rfl rfl (fun ha => ha.setForward hi phase) (.inr rfl)⟩

/-- The stores to the queue's descriptor do not concern the ring. -/
theorem WakeInv.setShm (h : WakeInv n r) {shm : Shm} (hring : shm.notifyRing = r.ring)
    (hoff : shm.notifyRingOffset = r.server.shm.notifyRingOffset) :
    WakeInv n (r.setShm shm) := by
  have hring' : (r.setShm shm).ring = r.ring := hring
  refine ⟨h.ring.withServer hring hoff, ?_, ?_, ?_⟩
  · have := h.ready
    simp only [pollReady] at this ⊢
    simpa [WakeRun.setShm, hoff] using this
  · rw [hring']
    exact h.forwards
  · exact h.loop.other rfl rfl (by rw [hring']) id (.inr (by rw [hring']))

theorem WakeInv.beginForward (h : WakeInv n r) (hi : r.forwards i = .idle) (queueId : UInt16)
    (newTail : UInt32) : WakeInv n (r.beginForward i queueId newTail) := by
  simp only [WakeRun.beginForward]
  split_ifs
  · exact h
  · exact h
  · exact h
  · have hshm : WakeInv n (r.setShm (r.server.shm.setSq queueId.toNat
        { r.server.shm.sq queueId.toNat with tail := newTail })) := h.setShm rfl rfl
    have hidle : (r.setShm (r.server.shm.setSq queueId.toNat
        { r.server.shm.sq queueId.toNat with tail := newTail })).forwards i ≠ .signalling := by
      show r.forwards i ≠ .signalling
      rw [hi]
      exact ForwardPhase.noConfusion
    exact hshm.setForward hidle (.begun _) trivial (fun hfalse => False.elim hfalse)

/-- One field of the free slot is stored. -/
theorem WakeInv.store (h : WakeInv n r) {entry : NotifyEntry} {tail : UInt32} {fields : Nat}
    (hi : r.forwards i = .writing entry tail fields) :
    WakeInv n ((r.setRing { r.ring with
      entries := Function.update r.ring.entries tail
        (storeField entry fields (r.ring.entries tail)) }).setForward i
      (.writing entry tail (fields + 1))) := by
  have hseen := h.forwards.seen i
  rw [hi] at hseen
  obtain ⟨rfl, hfree, hstored⟩ := hseen
  have hat : (r.forwards i).AtTail := by
    rw [hi]
    trivial
  have hnot : r.forwards i ≠ .signalling := by
    rw [hi]
    exact ForwardPhase.noConfusion
  refine ⟨?_, h.ready, h.forwards.update _ (.inr hat) ⟨rfl, hfree, ?_⟩ ?_, ?_⟩
  · exact ⟨h.ring.size_eq, h.ring.offset_ne, h.ring.holds.scribble _, h.ring.consumed_prefix,
      h.ring.frame⟩
  · show Stored entry (fields + 1) (Function.update r.ring.entries r.ring.tail _ r.ring.tail)
    rw [Function.update_self]
    exact hstored.store
  · intro _ j hj
    exact h.forwards.alone j i hj hat
  · exact h.loop.other rfl rfl rfl (fun ha => ha.setForward hnot _) (.inr rfl)

/-- The store to the tail is the push of the whole entry. -/
theorem WakeInv.publish (h : WakeInv n r) {entry : NotifyEntry} {tail : UInt32} {fields : Nat}
    (hi : r.forwards i = .writing entry tail fields) (hall : ¬ fields < 3) :
    WakeInv n { (r.setRing { r.ring with tail := next r.ring.size tail }).setForward i
      .signalling with pushed := r.pushed ++ [entry] } := by
  have hseen := h.forwards.seen i
  rw [hi] at hseen
  obtain ⟨rfl, hfree, hstored⟩ := hseen
  have hat : (r.forwards i).AtTail := by
    rw [hi]
    trivial
  have hpush : r.server.shm.notifyRing.push entry =
      (true, { r.ring with tail := next r.ring.size r.ring.tail }) := by
    rw [show r.server.shm.notifyRing.push entry = _ from push_free hfree entry]
    congr 2
    exact hstored.eq hall ▸ Function.update_eq_self _ _
  have hafter : r.toRingRun.afterPush entry =
      { (r.setRing { r.ring with tail := next r.ring.size r.ring.tail }).toRingRun with
        pushed := r.pushed ++ [entry] } := by
    simp only [RingRun.afterPush, notifyRingPush_eq h.ring.offset_ne, hpush]
    rfl
  have hring := h.ring.push entry
  rw [hafter] at hring
  have hawake : ∃ j, Function.update r.forwards i .signalling j = .signalling :=
    ⟨i, Function.update_self _ _ _⟩
  refine ⟨hring, h.ready, h.forwards.update .signalling (.inr hat) trivial ?_, ?_⟩
  · exact fun hfalse => False.elim hfalse
  · exact h.loop.other rfl rfl rfl (fun _ => .inr hawake) (.inl (.inr hawake))

theorem WakeInv.signal (h : WakeInv n r) (hready : r.fdo.userReady = true) :
    WakeInv n ({ r with fdo := signalUserMode r.fdo }.setForward i .idle) := by
  have hawake : (signalUserMode r.fdo).commandReadyEvent = true := by
    rw [signalUserMode, if_pos hready]
  refine ⟨h.ring, h.ready, h.forwards.update .idle (.inl rfl) trivial ?_, ?_⟩
  · exact fun hfalse => False.elim hfalse
  · exact h.loop.other rfl rfl rfl (fun _ => .inl hawake) (.inr rfl)

end Forward

/-- No forwarding comes to the ring's tail while another one is there, and a server that is
signalled is ready. -/
def WakeGood (r : WakeRun) : WakeEvent → Prop
  | .advance i =>
    (∀ entry, r.forwards i = .begun entry → ∀ j, ¬ (r.forwards j).AtTail) ∧
      (r.forwards i = .signalling → r.fdo.userReady = true)
  | _ => True

/-! ## The steps of the main loop -/

section Loop

variable {n : UInt32} {r : WakeRun}

theorem WakeInv.advance (h : WakeInv n r) {i : Nat} (hgood : WakeGood r (.advance i)) :
    WakeInv n (r.advance i) := by
  obtain ⟨halone, hready⟩ := hgood
  cases hi : r.forwards i with
  | idle =>
      simp only [WakeRun.advance, hi]
      exact h
  | begun entry =>
      have hnot : r.forwards i ≠ .signalling := by
        rw [hi]
        exact ForwardPhase.noConfusion
      simp only [WakeRun.advance, hi, if_neg h.ring.offset_ne]
      exact h.setForward hnot _ rfl fun _ j hj => absurd hj (halone entry hi j)
  | loaded entry tail =>
      have hnot : r.forwards i ≠ .signalling := by
        rw [hi]
        exact ForwardPhase.noConfusion
      have hat : (r.forwards i).AtTail := by
        rw [hi]
        trivial
      have hseen := h.forwards.seen i
      rw [hi] at hseen
      simp only [WakeRun.advance, hi]
      split_ifs with hfull
      · exact h.setForward hnot .signalling trivial (fun hfalse => False.elim hfalse)
      · have hnone : Stored entry 0 (r.ring.entries tail) :=
          ⟨fun h => absurd h (by omega), fun h => absurd h (by omega),
            fun h => absurd h (by omega)⟩
        exact h.setForward hnot _ ⟨hseen, hfull, hnone⟩
          fun _ j hj => h.forwards.alone j i hj hat
  | writing entry tail fields =>
      simp only [WakeRun.advance, hi]
      split_ifs with hmore
      · exact h.store hi
      · exact h.publish hi hmore
  | signalling =>
      simp only [WakeRun.advance, hi]
      exact h.signal (hready hi)

/-- A step of the main loop outside the poll. -/
theorem WakeInv.setLoop (h : WakeInv n r) {l : MainLoop} (hloop : (r.setLoop l).LoopInv) :
    WakeInv n (r.setLoop l) :=
  ⟨h.ring, h.ready, h.forwards, hloop⟩

theorem WakeInv.serve (h : WakeInv n r) (fuel : Nat) (now : UInt32) :
    WakeInv n (r.serve fuel now) := by
  have hloop := h.loop
  unfold WakeRun.LoopInv at hloop
  cases hphase : r.loop.phase with
  | top =>
      rw [hphase] at hloop
      simp only [WakeRun.serve, hphase]
      refine h.setLoop ?_
      unfold mainLoopTop WakeRun.LoopInv
      split_ifs <;> exact hloop
  | poll =>
      rw [hphase] at hloop
      simp only [WakeRun.serve, hphase, if_pos h.ready]
      exact h.setLoop ⟨hloop, rfl⟩
  | headLoaded head =>
      rw [hphase] at hloop
      obtain ⟨hidle, rfl⟩ := hloop
      simp only [WakeRun.serve, hphase]
      exact ⟨h.ring.begin hidle, h.ready, h.forwards, _, rfl, .inr rfl⟩
  | entries =>
      rw [hphase] at hloop
      obtain ⟨f, hframe, hawake⟩ := hloop
      simp only [WakeRun.serve, hphase, hframe]
      split_ifs with hdone
      · have hring : ({ r with
            toRingRun := r.toRingRun.afterFinish f
            loop := { r.loop with phase := .polled f.processed } } : WakeRun).ring =
              { r.ring with head := f.head } := pollFinish_notifyRing _ _
        refine ⟨h.ring.finish hframe, ?_, ?_, rfl, fun _ => ?_⟩
        · have := h.ready
          simp only [pollReady] at this ⊢
          simpa [RingRun.afterFinish] using this
        · rw [hring]
          refine ⟨fun i => ?_, h.forwards.alone⟩
          have hseen := h.forwards.seen i
          cases hi : r.forwards i with
          | writing entry tail fields =>
              rw [hi] at hseen
              obtain ⟨rfl, hfree, hstored⟩ := hseen
              have hsize := h.ring.size_eq
              refine ⟨rfl, ?_, hstored⟩
              show next r.ring.size r.ring.tail ≠ f.head
              rw [hsize] at hfree ⊢
              exact h.ring.room_finish hframe hfree
          | loaded entry tail =>
              rw [hi] at hseen
              exact hseen
          | _ => trivial
        · rcases hawake with hawake | htail
          · exact .inl hawake
          · right
            rw [hring]
            exact hdone.trans htail
      · cases hslot : pollSlot fuel { server := r.server, processed := f.processed } f.head with
        | none => exact h
        | some p =>
            have hpolled := pollEntry_polled hslot
            have hring : ({ r with toRingRun := r.toRingRun.afterConsume f p } : WakeRun).ring =
                r.ring := hpolled.notifyRing
            refine ⟨h.ring.consume hframe hdone hslot, ?_, ?_, ?_⟩
            · have := h.ready
              simp only [pollReady] at this ⊢
              rw [show ({ r with toRingRun := r.toRingRun.afterConsume f p } : WakeRun).server =
                p.server from rfl, hpolled.initialized, hpolled.notifyRingOffset]
              exact this
            · rw [hring]
              exact h.forwards
            · show WakeRun.LoopInv _
              unfold WakeRun.LoopInv
              simp only [hphase]
              refine ⟨_, rfl, hawake.imp_right fun htail => ?_⟩
              rw [hring]
              exact htail
  | polled processed =>
      rw [hphase] at hloop
      obtain ⟨hidle, hawake⟩ := hloop
      simp only [WakeRun.serve, hphase]
      refine h.setLoop ?_
      unfold mainLoopPolled WakeRun.LoopInv
      by_cases hnone : processed = 0
      · simp only [WakeRun.setLoop, if_pos hnone]
        exact ⟨hidle, hawake hnone⟩
      · simp only [WakeRun.setLoop, if_neg hnone]
        exact hidle
  | waiting =>
      simp only [WakeRun.serve, hphase]
      exact h
  | stopped =>
      simp only [WakeRun.serve, hphase]
      exact h

theorem WakeInv.waitReturns (h : WakeInv n r) (result : WaitResult) :
    WakeInv n (r.waitReturns result) := by
  by_cases hwaiting : r.loop.phase = .waiting
  · have hidle : r.frame = none := by
      have hloop := h.loop
      unfold WakeRun.LoopInv at hloop
      rw [hwaiting] at hloop
      exact hloop.1
    simp only [WakeRun.waitReturns, if_pos hwaiting]
    split_ifs
    · exact ⟨h.ring, h.ready, h.forwards, hidle⟩
    · exact h
    · exact h.setLoop hidle
  · rw [WakeRun.waitReturns, if_neg hwaiting]
    exact h

theorem WakeInv.console (h : WakeInv n r) :
    WakeInv n (r.setLoop (consoleCtrlHandler r.loop)) :=
  h.setLoop (h.loop.other rfl rfl rfl id (.inr rfl))

theorem WakeInv.elsewhere (h : WakeInv n r) (server : Server) (fdo : FdoContext)
    (shutdownRequested : Bool) : WakeInv n (r.elsewhere server fdo shutdownRequested) :=
  ⟨h.ring.withServer rfl rfl, h.ready, h.forwards, h.loop.other rfl rfl rfl id (.inr rfl)⟩

theorem WakeInv.step (h : WakeInv n r) {e : WakeEvent} (hgood : WakeGood r e) :
    WakeInv n (wakeStep r e) := by
  cases e with
  | forward i queueId newTail =>
      show WakeInv n (match r.forwards i with
        | .idle => r.beginForward i queueId newTail
        | _ => r)
      cases hi : r.forwards i with
      | idle => exact h.beginForward hi queueId newTail
      | _ => exact h
  | advance i => exact h.advance hgood
  | serve fuel now => exact h.serve fuel now
  | wait result => exact h.waitReturns result
  | console => exact h.console
  | rest server fdo shutdownRequested => exact h.elsewhere server fdo shutdownRequested

end Loop

/-! ## Runs -/

/-- What the history obeys: the law of the ring, a notification is dropped exactly if all
slots but one are in use, and a server that waits for an event which is clear, with no signal
on its way, has consumed everything. -/
structure WakeLaw (n : Nat) (r : WakeRun) : Prop where
  ring : RingLaw n r.toRingRun
  dropped_iff : ∀ i entry tail, r.forwards i = .loaded entry tail →
    (next r.ring.size tail = r.ring.head ↔ r.pending = n - 1)
  awake : r.loop.phase = .waiting → r.fdo.commandReadyEvent = false →
    (∀ i, r.forwards i ≠ .signalling) → r.consumed = r.pushed

theorem WakeInv.law {n : UInt32} {r : WakeRun} (h : WakeInv n r) : WakeLaw n.toNat r := by
  refine ⟨h.ring.law, fun i entry tail hi => ?_, fun hwaiting hclear hnone => ?_⟩
  · have hseen := h.forwards.seen i
    rw [hi] at hseen
    obtain rfl : tail = r.ring.tail := hseen
    rw [h.ring.size_eq]
    exact h.ring.holds.next_tail_eq_head_iff
  · have hloop := h.loop
    unfold WakeRun.LoopInv at hloop
    rw [hwaiting] at hloop
    obtain ⟨hidle, hawake⟩ := hloop
    rcases hawake with (hevent | ⟨i, hi⟩) | hsame
    · exact absurd (hclear.symm.trans hevent) Bool.noConfusion
    · exact absurd hi (hnone i)
    · have hframe := h.ring.frame
      rw [FrameInv, hidle] at hframe
      have hall : r.released = r.pushed.length := h.ring.holds.head_eq_tail_iff.mp hsame
      exact h.ring.consumed_prefix.eq_of_length (hframe.symm.trans hall)

/-- The start of the main loop, with the driver's answer to the request for the event. -/
def WakeRun.start (s : Server) (fdo : FdoContext) (reply : Option (Option Nat)) : WakeRun :=
  { server := s, fdo := fdo, loop := (driverGetCommandEvent reply {}).2 }

theorem WakeInv.start {s : Server} (hring : FreshRing s) (hready : s.ctx.initialized = true)
    (fdo : FdoContext) (reply : Option (Option Nat)) :
    WakeInv s.shm.notifyRing.size (.start s fdo reply) := by
  refine ⟨hring.inv, ?_, ⟨fun _ => trivial, fun i j hi => False.elim hi⟩, ?_⟩
  · simp [WakeRun.start, pollReady, hready, hring.offset_ne]
  · have htop : (driverGetCommandEvent reply {}).2.phase = .top := by
      rcases reply with _ | _ | _ <;> rfl
    unfold WakeRun.LoopInv WakeRun.start
    rw [htop]

/-- **No lost wake-up.** At the grain of single accesses, with any number of forwardings, the
ring is a queue of whole entries and the server never sleeps over one of them, as long as the
forwardings take turns at the ring's tail and the server stays ready until it is signalled. -/
theorem noLostWakeUp {s : Server} (hring : FreshRing s) (hready : s.ctx.initialized = true)
    (fdo : FdoContext) (reply : Option (Option Nat)) {es : List WakeEvent}
    (hes : EachStep wakeStep WakeGood (.start s fdo reply) es) :
    Throughout wakeStep (WakeLaw s.shm.notifyRing.size.toNat) (.start s fdo reply) es := by
  have hkeeps : ∀ r e, WakeInv s.shm.notifyRing.size r → WakeGood r e →
      WakeInv s.shm.notifyRing.size (wakeStep r e) := fun _ _ h hgood => h.step hgood
  have hall := throughout_of_eachStep hkeeps (.start hring hready fdo reply) hes
  intro pre post heq
  exact (hall pre post heq).law

/-! ## One controller -/

/-- An event of a bus with one controller whose server stays ready. -/
def WakeEvent.OneController : WakeEvent → Prop
  | .forward i _ _ => i = 0
  | .advance i => i = 0
  | .rest _ fdo _ => fdo.userReady = true
  | _ => True

/-- Only the one timer forwards, and the server is ready. -/
structure OneForward (r : WakeRun) : Prop where
  others : ∀ i, i ≠ 0 → r.forwards i = .idle
  ready : r.fdo.userReady = true

theorem OneForward.setForward {r r' : WakeRun} (h : OneForward r)
    (hready : r'.fdo.userReady = r.fdo.userReady) {phase : ForwardPhase}
    (hforwards : r'.forwards = Function.update r.forwards 0 phase) : OneForward r' := by
  refine ⟨fun i hi => ?_, hready.trans h.ready⟩
  rw [hforwards, Function.update_of_ne hi]
  exact h.others i hi

theorem OneForward.good {r : WakeRun} (h : OneForward r) {e : WakeEvent}
    (he : e.OneController) : WakeGood r e := by
  cases e with
  | advance i =>
      obtain rfl : i = 0 := he
      refine ⟨fun entry hbegun j hat => ?_, fun _ => h.ready⟩
      by_cases hj : j = 0
      · rw [hj, hbegun] at hat
        exact hat
      · rw [h.others j hj] at hat
        exact hat
  | _ => trivial

theorem OneForward.step {r : WakeRun} (h : OneForward r) {e : WakeEvent}
    (he : e.OneController) : OneForward (wakeStep r e) := by
  cases e with
  | forward i queueId newTail =>
      obtain rfl : i = 0 := he
      show OneForward (match r.forwards 0 with
        | .idle => r.beginForward 0 queueId newTail
        | _ => r)
      split
      · simp only [WakeRun.beginForward]
        split_ifs
        · exact h
        · exact h
        · exact h
        · exact h.setForward rfl rfl
      · exact h
  | advance i =>
      obtain rfl : i = 0 := he
      show OneForward (r.advance 0)
      unfold WakeRun.advance
      split
      · exact h
      · split_ifs
        · exact h.setForward rfl rfl
        · exact h.setForward rfl rfl
      · split_ifs
        · exact h.setForward rfl rfl
        · exact h.setForward rfl rfl
      · split_ifs
        · exact h.setForward rfl rfl
        · exact h.setForward rfl rfl
      · refine h.setForward ?_ rfl
        show (signalUserMode r.fdo).userReady = _
        unfold signalUserMode
        split_ifs <;> rfl
  | serve fuel now =>
      show OneForward (r.serve fuel now)
      have hsame : (r.serve fuel now).forwards = r.forwards ∧ (r.serve fuel now).fdo = r.fdo := by
        unfold WakeRun.serve
        split
        · exact ⟨rfl, rfl⟩
        · split_ifs <;> exact ⟨rfl, rfl⟩
        · exact ⟨rfl, rfl⟩
        · split
          · exact ⟨rfl, rfl⟩
          · split_ifs
            · exact ⟨rfl, rfl⟩
            · split <;> exact ⟨rfl, rfl⟩
        · exact ⟨rfl, rfl⟩
        · exact ⟨rfl, rfl⟩
        · exact ⟨rfl, rfl⟩
      exact ⟨fun i hi => by rw [hsame.1]; exact h.others i hi, by rw [hsame.2]; exact h.ready⟩
  | wait result =>
      show OneForward (r.waitReturns result)
      simp only [WakeRun.waitReturns]
      split_ifs
      · exact ⟨h.others, h.ready⟩
      · exact h
      · exact ⟨h.others, h.ready⟩
      · exact h
  | console => exact ⟨h.others, h.ready⟩
  | rest server fdo shutdownRequested => exact ⟨h.others, he⟩

/-- With one controller the forwardings take turns by themselves. -/
theorem OneForward.eachStep {r : WakeRun} (h : OneForward r) {es : List WakeEvent}
    (hes : ∀ e ∈ es, e.OneController) : EachStep wakeStep WakeGood r es := by
  induction es generalizing r with
  | nil => exact eachStep_nil
  | cons e es ih =>
      obtain ⟨he, hrest⟩ := List.forall_mem_cons.mp hes
      exact eachStep_cons.mpr ⟨h.good he, ih (h.step he) hrest⟩

/-- A server that goes to sleep on an empty ring, and a forwarding that wakes it. -/
def sleepyRun : List WakeEvent :=
  List.replicate 5 (.serve 1 0) ++ .forward 0 0 0 :: List.replicate 7 (.advance 0)

theorem noLostWakeUp_sleepy :
    Throughout wakeStep (WakeLaw 2) (.start twoSlotServer { userReady := true } (some (some 4)))
        sleepyRun ∧
      (run wakeStep (.start twoSlotServer { userReady := true } (some (some 4)))
        sleepyRun).fdo.commandReadyEvent = true := by
  have hfresh : FreshRing twoSlotServer := ⟨by decide, rfl, rfl, by decide⟩
  have hone : OneForward (.start twoSlotServer { userReady := true } (some (some 4))) :=
    ⟨fun _ _ => rfl, rfl⟩
  refine ⟨noLostWakeUp hfresh rfl { userReady := true } (some (some 4)) (hone.eachStep ?_), rfl⟩
  intro e he
  simp only [sleepyRun, List.mem_append, List.mem_cons, List.mem_replicate] at he
  rcases he with ⟨-, rfl⟩ | rfl | ⟨-, rfl⟩
  · trivial
  · exact rfl
  · exact rfl

end VirtualNvme
