import VirtualNvme.Driver.Queue
import VirtualNvme.RingBuffer.Walk

/-!
# Forwarding to the user-mode server

The functions of `user_forward.c`: the notify ring, forwarding of doorbell values, and
the abort of everything pending after the server has crashed. The abort loops run until
the head meets a tail that came from a doorbell, so they take fuel.
-/

namespace VirtualNvme

open RingBuffer (next walk)

/-! ## The notify ring -/

/-- `NotifyRingPush` on a ring that exists. -/
def NotifyRing.push (ring : NotifyRing) (entry : NotifyEntry) : Bool × NotifyRing :=
  let nextTail := next ring.size ring.tail
  if nextTail = ring.head then (false, ring)
  else
    (true, { ring with
      entries := Function.update ring.entries ring.tail entry
      tail := nextTail })

/-- `NotifyRingPush` -/
def notifyRingPush (shm : Shm) (queueId type : UInt16) (index : UInt32) : Bool × Shm :=
  if shm.notifyRingOffset = 0 then (false, shm)
  else
    let r := shm.notifyRing.push ⟨queueId, type, index⟩
    (r.1, { shm with notifyRing := r.2 })

/-- A push writes to nothing but the ring. -/
theorem notifyRingPush_ring (shm : Shm) (queueId type : UInt16) (index : UInt32) :
    ∃ ring, (notifyRingPush shm queueId type index).2 = { shm with notifyRing := ring } := by
  unfold notifyRingPush
  split
  · exact ⟨shm.notifyRing, rfl⟩
  · exact ⟨_, rfl⟩

/-- `SignalUserMode` -/
def signalUserMode (fdo : FdoContext) : FdoContext :=
  if fdo.userReady then { fdo with commandReadyEvent := true } else fdo

/-! ## Forwarding -/

/-- Store a forwarded tail in the queue descriptor, notify the server, wake it. A full ring
only costs the notification. -/
def forwardTail (d : Driver) (shm : Shm) (queueId : UInt16) (newTail : UInt32) : Driver :=
  let q := queueId.toNat
  let shm := shm.setSq q { shm.sq q with tail := newTail }
  { d with
    shm := some (notifyRingPush shm queueId 0 newTail).2
    fdo := signalUserMode d.fdo }

/-- A forwarded tail writes to one descriptor, to the ring and to the event. -/
theorem forwardTail_eq (d : Driver) (shm : Shm) (queueId : UInt16) (newTail : UInt32) :
    ∃ ring, forwardTail d shm queueId newTail =
      { d with
        shm := some
          { shm.setSq queueId.toNat { shm.sq queueId.toNat with tail := newTail } with
            notifyRing := ring }
        fdo := signalUserMode d.fdo } := by
  obtain ⟨ring, hring⟩ := notifyRingPush_ring
    (shm.setSq queueId.toNat { shm.sq queueId.toNat with tail := newTail }) queueId 0 newTail
  exact ⟨ring, by rw [forwardTail, hring]⟩

/-- `VnvmeForwardAdminCommandsToUser` -/
def vnvmeForwardAdminCommandsToUser (d : Driver) (newTail : UInt32) : Driver :=
  match d.shm with
  | none => d
  | some shm => if !d.fdo.userReady then d else forwardTail d shm 0 newTail

/-- `VnvmeForwardIoCommandsToUser` -/
def vnvmeForwardIoCommandsToUser (d : Driver) (queueId : UInt16) (newTail : UInt32) : Driver :=
  match d.shm with
  | none => d
  | some shm =>
    if !d.fdo.userReady then d
    else if queueId = 0 ∨ queueId > 16 then d
    else if shm.ioQueueDescriptorOffset = 0 then d
    else forwardTail d shm queueId newTail

section Forwarded

variable {d : Driver} {shm : Shm} (hshm : d.shm = some shm)

include hshm

theorem vnvmeForwardAdminCommandsToUser_eq (newTail : UInt32) :
    vnvmeForwardAdminCommandsToUser d newTail =
      if d.fdo.userReady = true then forwardTail d shm 0 newTail else d := by
  cases hready : d.fdo.userReady with
  | false => simp [vnvmeForwardAdminCommandsToUser, hshm, hready]
  | true => simp [vnvmeForwardAdminCommandsToUser, hshm, hready]

theorem vnvmeForwardIoCommandsToUser_eq (queueId : UInt16) (newTail : UInt32) :
    vnvmeForwardIoCommandsToUser d queueId newTail =
      if d.fdo.userReady = true ∧ queueId ≠ 0 ∧ queueId ≤ 16 ∧ shm.ioQueueDescriptorOffset ≠ 0
      then forwardTail d shm queueId newTail else d := by
  by_cases hgo : d.fdo.userReady = true ∧ queueId ≠ 0 ∧ queueId ≤ 16 ∧
      shm.ioQueueDescriptorOffset ≠ 0
  · obtain ⟨hready, h0, h16, hoff⟩ := hgo
    have hid : ¬ (queueId = 0 ∨ queueId > 16) := not_or.mpr ⟨h0, UInt16.not_lt.mpr h16⟩
    rw [if_pos ⟨hready, h0, h16, hoff⟩]
    simp only [vnvmeForwardIoCommandsToUser, hshm, hready, if_neg hid, if_neg hoff]
    rfl
  · rw [if_neg hgo]
    simp only [vnvmeForwardIoCommandsToUser, hshm]
    split_ifs with hready hid hoff
    · rfl
    · rfl
    · rfl
    · rw [not_or] at hid
      exact absurd ⟨by simpa using hready, hid.1, UInt16.not_lt.mp hid.2, hoff⟩ hgo

end Forwarded

/-! ## Completions -/

/-- The number of completions between the tail that the controller knows and the tail in the
descriptor. -/
def completionDelta (cqDesc : QueueDescriptor) (tail : UInt32) : UInt64 :=
  let delta :=
    if cqDesc.tail ≥ tail then cqDesc.tail - tail
    else cqDesc.capacity - tail + cqDesc.tail
  delta.toUInt64

/-- The admin part of `VnvmeProcessUserCompletions`. -/
def processAdminCompletions (shm : Shm) (p : PdoContext) : PdoContext :=
  if (shm.cq 0).tail ≠ (p.cq 0).tail then
    { p.setCq 0 { p.cq 0 with tail := (shm.cq 0).tail } with
      adminCommandsProcessed :=
        p.adminCommandsProcessed + completionDelta (shm.cq 0) (p.cq 0).tail }
  else p

/-- The round of `VnvmeProcessUserCompletions` for I/O queue `i + 1`. -/
def processIoCompletions (shm : Shm) (p : PdoContext) (i : Nat) : PdoContext :=
  let q := i + 1
  if !(p.cq q).created then p
  else if (shm.cq q).tail ≠ (p.cq q).tail then
    { p.setCq q { p.cq q with tail := (shm.cq q).tail } with
      ioCommandsProcessed := p.ioCommandsProcessed + completionDelta (shm.cq q) (p.cq q).tail }
  else p

/-- `VnvmeProcessUserCompletions`; the interrupt at its end is not triggered yet. -/
def vnvmeProcessUserCompletions (d : Driver) : NtStatus × Driver :=
  match d.shm with
  | none => (.deviceNotReady, d)
  | some shm =>
    let queues :=
      if shm.ioQueueDescriptorOffset ≠ 0 then List.range d.pdo.ioQueueCount.toNat else []
    (.success,
      { d with pdo := queues.foldl (processIoCompletions shm) (processAdminCompletions shm d.pdo) })

/-! ## Aborting -/

/-- `MakeAbortStatus` -/
def makeAbortStatus (phase : Bool) : UInt16 :=
  let tag : UInt16 := if phase then 1 else 0
  tag ||| ((0x06 : UInt16) <<< 1) ||| ((0x00 : UInt16) <<< 9)

/-- What an abort loop changes as it goes. -/
structure AbortLoop where
  cqTail : UInt32
  phase : Bool
  log : List CqWrite
  aborted : UInt32

/-- The completion of the aborted command in slot `head`. -/
def abortEntry (mem : UInt32 → NvmeCommand) (sqid : UInt16) (phase : Bool) (head : UInt32) :
    NvmeCompletion :=
  { sqhd := head.toUInt16
    sqid := sqid
    cid := (mem head).cid
    status := makeAbortStatus phase }

/-- One round of an abort loop: complete the command in slot `head` with an internal error.
`slot` says how the loop indexes the completion queue. -/
def abortStep (mem : UInt32 → NvmeCommand) (sqid : UInt16) (cqCapacity : UInt32)
    (slot : UInt32 → UInt32) (s : AbortLoop) (head : UInt32) : AbortLoop :=
  let cqTail := next cqCapacity s.cqTail
  { cqTail := cqTail
    phase := if cqTail = 0 then !s.phase else s.phase
    log := s.log ++ [⟨slot s.cqTail, abortEntry mem sqid s.phase head⟩]
    aborted := s.aborted + 1 }

/-- The shared memory and the controller in the middle of an abort. -/
structure Aborting where
  shm : Shm
  pdo : PdoContext
  aborted : UInt32 := 0

/-- What is stored after the loop over one submission queue, which has left its head on
`r.1`. -/
def abortStore (a : Aborting) (q : Nat) (sync : AbortLoop → PdoContext)
    (r : UInt32 × AbortLoop) : Aborting :=
  { shm := { (a.shm.setSq q { a.shm.sq q with head := r.1 }).setCq q
        ((a.shm.cq q).setTailPhase r.2.cqTail r.2.phase) with
      cqLog := Function.update a.shm.cqLog q r.2.log }
    pdo := sync r.2
    aborted := r.2.aborted }

/-- The loop over one submission queue, and the queue state it stores afterwards. -/
def abortWalk (fuel : Nat) (a : Aborting) (q : Nat) (cqCapacity : UInt32)
    (slot : UInt32 → UInt32) (sync : AbortLoop → PdoContext) : Option Aborting :=
  let sqDesc := a.shm.sq q
  let cqDesc := a.shm.cq q
  (walk sqDesc.capacity sqDesc.tail
    (fun s head => some (abortStep (a.shm.sqMem q) (UInt16.ofNat q) cqCapacity slot s head))
    fuel sqDesc.head ⟨cqDesc.tail, cqDesc.phaseBit, a.shm.cqLog q, a.aborted⟩).map
    (abortStore a q sync)

/-- The controller's copy of the admin completion queue after an abort. -/
def abortSyncAdmin (p : PdoContext) (r : AbortLoop) : PdoContext :=
  { p.setCq 0 { p.cq 0 with tail := r.cqTail } with adminCqPhase := if r.phase then 1 else 0 }

/-- The controller's copy of I/O completion queue `q` after an abort. -/
def abortSyncIo (p : PdoContext) (q : Nat) (r : AbortLoop) : PdoContext :=
  p.setCq q { p.cq q with tail := r.cqTail, phaseTag := r.phase }

/-- The admin part of `VnvmeAbortPendingUserCommands`: the completion queue is walked with
the capacity of the submission queue. -/
def abortAdminQueue (fuel : Nat) (a : Aborting) : Option Aborting :=
  let sqDesc := a.shm.sq 0
  if sqDesc.head ≠ sqDesc.tail ∧ sqDesc.capacity > 0 then
    abortWalk fuel a 0 sqDesc.capacity id (abortSyncAdmin a.pdo)
  else some a

/-- The round of `VnvmeAbortPendingUserCommands` for I/O queue `i + 1`. -/
def abortIoQueue (fuel : Nat) (a : Aborting) (i : Nat) : Option Aborting :=
  let q := i + 1
  let sqDesc := a.shm.sq q
  let cqCapacity := (a.shm.cq q).capacity
  if !(a.pdo.sq q).created || sqDesc.valid = 0 then some a
  else if sqDesc.head = sqDesc.tail ∨ sqDesc.capacity = 0 then some a
  else
    abortWalk fuel a q cqCapacity (· % cqCapacity) (abortSyncIo a.pdo q)

/-- The counters and the result at the end of an abort. -/
def abortFinish (d : Driver) (a : Aborting) : UInt32 × Driver :=
  (a.aborted,
    { d with
      shm := some a.shm
      pdo := a.pdo
      fdo := if a.aborted > 0 then
          { d.fdo with errorCount := d.fdo.errorCount + a.aborted.toUInt64 }
        else d.fdo })

/-- `VnvmeAbortPendingUserCommands` -/
def vnvmeAbortPendingUserCommands (fuel : Nat) (d : Driver) : Option (UInt32 × Driver) :=
  match d.shm with
  | none => some (0, d)
  | some shm =>
    (abortAdminQueue fuel { shm := shm, pdo := d.pdo }).bind fun a =>
      let queues :=
        if shm.ioQueueDescriptorOffset ≠ 0 then List.range d.pdo.ioQueueCount.toNat else []
      (queues.foldlM (abortIoQueue fuel) a).map (abortFinish d)

end VirtualNvme
