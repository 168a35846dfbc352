import VirtualNvme.Driver.Bar0
import VirtualNvme.Verification.Batch
import VirtualNvme.Verification.KernelLoops

/-!
# Polls in kernel mode

In kernel mode a poll hands every new tail to the loops of `KernelLoops`, one queue after the
other. No queue is in the way of another, so whether a poll serves all the tails it observes
can be read off the state before it: the admin queue, whose descriptor is never valid, must
have nothing to execute, and the descriptors of the I/O queues must follow. The mode may be
the initial one or the result of a crash of the server.
-/

namespace VirtualNvme

open RingBuffer
open Runs (run EachStep)

/-! ## Queues do not disturb each other -/

theorem signalUserMode_commandMode (fdo : FdoContext) :
    (signalUserMode fdo).commandMode = fdo.commandMode := by
  unfold signalUserMode
  split
  · rfl
  · rfl

theorem keptByQueue_sqView {q : UInt16} {p : Nat} (hne : q.toNat ≠ p) :
    KeptByQueue (fun d => d.sqView p) q where
  media := fun _ _ _ => rfl
  sqIndex := fun d st _ => by
    simp only [Driver.sqView, PdoContext.setSq, Function.update_of_ne (Ne.symm hne)]
  cqIndex := fun _ _ _ => rfl
  fetch := fun d => by
    rcases vnvmeFetchCommand_cases d q with ⟨-, hd⟩ | ⟨shm, hok, -, hd⟩
    · rw [hd]
    · rw [hd]
      simp only [Driver.sqView, applyFetch, PdoContext.setSq, Shm.setSq,
        (sqCheck_ok_iff.mp hok).1, Option.map_some, Function.update_of_ne (Ne.symm hne)]
  post := fun d c => vnvmePostCompletion_sqView d q c p
  forward := fun d shm tail hshm => by
    obtain ⟨ring, heq⟩ := forwardTail_eq d shm q tail
    have hsq : (shm.setSq q.toNat { shm.sq q.toNat with tail := tail }).sq p = shm.sq p :=
      Function.update_of_ne (Ne.symm hne) _ _
    rw [heq]
    simp only [Driver.sqView, signalUserMode_commandMode, hshm, Option.map_some, hsq]
    rfl

/-! ## The rounds of a poll -/

/-- The tail in the doorbell of submission queue `q`. -/
def doorbellTail (regs : Bar0) (q : Nat) : UInt32 := regs.doorbells (2 * q) &&& 0xFFFF

/-- The state in which the poll comes to I/O queue `i + 1`. -/
def pollState (fuel : Nat) (d : Driver) (regs : Bar0) (i : Nat) : Option (Bool × Driver) :=
  (processAdminDoorbells fuel (polledRegs d regs) (processCc d regs).1 (processCc d regs).2).bind
    fun r => (List.range i).foldlM (processIoDoorbells fuel (polledRegs d regs)) r

theorem pollState_succ (fuel : Nat) (d : Driver) (regs : Bar0) (i : Nat) :
    pollState fuel d regs (i + 1) =
      (pollState fuel d regs i).bind fun r =>
        processIoDoorbells fuel (polledRegs d regs) r i := by
  unfold pollState
  rw [Option.bind_assoc]
  congr 1
  funext r
  rw [List.range_succ, List.foldlM_append]
  simp

/-- Step 1 of the poll, as far as the submission queues are concerned. -/
theorem processCc_kept (d : Driver) (regs : Bar0) :
    (processCc d regs).2.shm = d.shm ∧ (processCc d regs).2.pdo.sq = d.pdo.sq ∧
      (∀ p, (processCc d regs).2.sqView p = d.sqView p) := by
  have hinit : ∀ p : PdoContext, (vnvmeInitializeAdminQueues p).2.sq = p.sq ∧
      (vnvmeInitializeAdminQueues p).2.ioQueueCount = p.ioQueueCount := by
    intro p
    unfold vnvmeInitializeAdminQueues
    split
    · exact ⟨rfl, rfl⟩
    · exact ⟨rfl, rfl⟩
  simp only [processCc]
  split_ifs
  · exact ⟨rfl, rfl, fun _ => rfl⟩
  · refine ⟨rfl, (hinit d.pdo).1, fun p => ?_⟩
    simp only [Driver.sqView, (hinit d.pdo).1, (hinit d.pdo).2]
  · exact ⟨rfl, rfl, fun _ => rfl⟩
  · exact ⟨rfl, rfl, fun _ => rfl⟩

theorem polledRegs_doorbells {d : Driver} {regs : Bar0} (hregs : d.pdo.bar0 = some regs) :
    (polledRegs d regs).doorbells = regs.doorbells := by
  simp only [polledRegs, processCc]
  split_ifs
  · rw [hregs]
    rfl
  · rfl
  · rfl
  · rw [hregs]
    rfl

section Poll

variable {d : Driver} {regs : Bar0} (hmode : d.fdo.commandMode = .kernel)
  (hvalid : ∀ shm, d.shm = some shm → (shm.sq 0).valid = 0)

include hmode hvalid

/-- The admin part of a poll in kernel mode executes nothing. -/
theorem processAdminDoorbells_kernel {fuel : Nat} {regs' : Bar0} {b : Bool} {r : Bool × Driver}
    (h : processAdminDoorbells fuel regs' b (processCc d regs).2 = some r) (p : Nat) :
    r.2.sqView p = d.sqView p := by
  obtain ⟨hshm, -, hview⟩ := processCc_kept d regs
  have hmode' : (processCc d regs).2.fdo.commandMode = .kernel :=
    (congrArg SqView.commandMode (hview 0)).trans hmode
  obtain ⟨s, hs, rfl⟩ := Option.map_eq_some_iff.mp h
  rw [← hview p]
  split_ifs at hs
  · rw [← Option.some.inj hs]
    rfl
  · obtain ⟨d', hd', rfl⟩ := Option.map_eq_some_iff.mp hs
    rw [dispatchAdminTail, hmode'] at hd'
    rw [vnvmeProcessAdminCommands_same (by rw [hshm]; exact hvalid) hd']
    rfl

theorem processAdminDoorbells_returns (fuel : Nat) (regs' : Bar0) (b : Bool) :
    ∃ r, processAdminDoorbells (fuel + 1) regs' b (processCc d regs).2 = some r := by
  obtain ⟨hshm, -, hview⟩ := processCc_kept d regs
  have hmode' : (processCc d regs).2.fdo.commandMode = .kernel :=
    (congrArg SqView.commandMode (hview 0)).trans hmode
  simp only [processAdminDoorbells, dispatchAdminTail, hmode']
  rw [vnvmeProcessAdminCommands_refused (by rw [hshm]; exact hvalid)]
  split_ifs
  · exact ⟨_, rfl⟩
  · exact ⟨_, rfl⟩

/-- The poll comes to every I/O queue with the queue as it was before the poll. -/
theorem pollState_sqView {fuel i : Nat} (hi : i ≤ d.pdo.ioQueueCount.toNat) {x : Bool × Driver}
    (h : pollState fuel d regs i = some x) : x.2.sqView (i + 1) = d.sqView (i + 1) := by
  obtain ⟨r, hr, hfold⟩ := Option.bind_eq_some_iff.mp h
  refine foldlM_induct
    (I := fun y : Bool × Driver => y.2.sqView (i + 1) = d.sqView (i + 1)) ?_
    (processAdminDoorbells_kernel hmode hvalid hr (i + 1)) hfold
  intro y j y' hj hy hy'
  have hlt : j < i := List.mem_range.mp hj
  have hid := toNat_ioQueueId (Nat.lt_of_lt_of_le hlt hi)
  have hne : (UInt16.ofNat (j + 1)).toNat ≠ i + 1 := by omega
  exact ((keptByQueue_sqView hne).ioDoorbells hid hy').trans hy

theorem vnvmeProcessDoorbells_kernel (hregs : d.pdo.bar0 = some regs)
    (hactive : PollActive d regs) (fuel : Nat) :
    vnvmeProcessDoorbells fuel d = pollState fuel d regs d.pdo.ioQueueCount.toNat := by
  rw [vnvmeProcessDoorbells_active hregs hactive, pollState]
  cases hr : processAdminDoorbells fuel (polledRegs d regs) (processCc d regs).1
      (processCc d regs).2 with
  | none => rfl
  | some r =>
      have hcount : r.2.pdo.ioQueueCount = d.pdo.ioQueueCount :=
        congrArg SqView.ioQueueCount (processAdminDoorbells_kernel hmode hvalid hr 0)
      rw [Option.bind_some, Option.bind_some, hcount]

omit hmode hvalid in
/-- A poll that has come to a queue has come to the queues in front of it. -/
theorem pollState_of_le {fuel i n : Nat} (hle : i ≤ n) {r : Bool × Driver}
    (h : pollState fuel d regs n = some r) : ∃ x, pollState fuel d regs i = some x := by
  induction n, hle using Nat.le_induction generalizing r with
  | base => exact ⟨r, h⟩
  | succ n _ ih =>
      rw [pollState_succ] at h
      obtain ⟨x, hx, -⟩ := Option.bind_eq_some_iff.mp h
      exact ih hx

end Poll

/-! ## Served tails -/

/-- The poll comes back, and every tail it observes is served in the state in which the poll
comes to its queue. -/
def PollServes (d : Driver) : Prop :=
  ∃ fuel r, vnvmeProcessDoorbells fuel d = some r ∧
    ∀ regs, d.pdo.bar0 = some regs → PollActive d regs →
      (doorbellTail regs 0 ≠ (processCc d regs).2.pdo.lastAdminSqTail →
        AdminServed (processCc d regs).2 (doorbellTail regs 0)) ∧
      ∀ i < d.pdo.ioQueueCount.toNat, ∀ x, pollState fuel d regs i = some x →
        (x.2.pdo.sq (i + 1)).created = true →
        doorbellTail regs (i + 1) ≠ (x.2.pdo.sq (i + 1)).tail →
        IoServed x.2 (UInt16.ofNat (i + 1)) (doorbellTail regs (i + 1))

/-- Before the poll, the admin queue has nothing to execute up to a new tail, and the
descriptors of the I/O queues with a new tail follow. -/
def PollReady (d : Driver) : Prop :=
  ∀ regs, d.pdo.bar0 = some regs → PollActive d regs →
    (doorbellTail regs 0 ≠ (processCc d regs).2.pdo.lastAdminSqTail →
      (d.pdo.sq 0).head = doorbellTail regs 0) ∧
    ∀ i < d.pdo.ioQueueCount.toNat, (d.pdo.sq (i + 1)).created = true →
      doorbellTail regs (i + 1) ≠ (d.pdo.sq (i + 1)).tail →
      (d.sqView (i + 1)).Ready (UInt16.ofNat (i + 1)) (doorbellTail regs (i + 1))

/-- An I/O queue of the poll, in a state with the same view of it. -/
theorem ioServed_iff_of_view {d x : Driver} {i : Nat} (hi : i < d.pdo.ioQueueCount.toNat)
    (hview : x.sqView (i + 1) = d.sqView (i + 1)) (hcreated : (d.pdo.sq (i + 1)).created = true)
    (newTail : UInt32) :
    IoServed x (UInt16.ofNat (i + 1)) newTail ↔
      (d.sqView (i + 1)).Ready (UInt16.ofNat (i + 1)) newTail := by
  have hid := toNat_ioQueueId hi
  have hstate : x.pdo.sq (i + 1) = d.pdo.sq (i + 1) := congrArg SqView.state hview
  have hcount : x.pdo.ioQueueCount = d.pdo.ioQueueCount := congrArg SqView.ioQueueCount hview
  have hq : UInt16.ofNat (i + 1) ≠ 0 := by
    intro h
    rw [h] at hid
    cases hid
  have hle : UInt16.ofNat (i + 1) ≤ x.pdo.ioQueueCount := by
    rw [UInt16.le_iff_toNat_le, hid, hcount]
    exact hi
  rw [ioServed_iff hq hle (by rw [hid, hstate, hcreated]), hid, hview]

/-- A round comes back if the tail it may have to hand over does. -/
theorem processIoDoorbells_some {fuel : Nat} {regs : Bar0} {x : Bool × Driver} {i : Nat}
    (h : (x.2.pdo.sq (i + 1)).created = true →
      doorbellTail regs (i + 1) ≠ (x.2.pdo.sq (i + 1)).tail →
      ∃ d', dispatchIoTail fuel x.2 (UInt16.ofNat (i + 1)) (doorbellTail regs (i + 1)) =
        some d') :
    ∃ y, processIoDoorbells fuel regs x i = some y := by
  simp only [processIoDoorbells]
  by_cases hcreated : (x.2.pdo.sq (i + 1)).created = true
  · rw [if_neg (by simp [hcreated])]
    by_cases htail : regs.doorbells (2 * (i + 1)) &&& 0xFFFF = (x.2.pdo.sq (i + 1)).tail
    · rw [if_pos htail]
      exact ⟨_, rfl⟩
    · obtain ⟨d', hd'⟩ := h hcreated htail
      rw [doorbellTail] at hd'
      rw [if_neg htail, hd']
      exact ⟨_, rfl⟩
  · rw [if_pos (by simpa using hcreated)]
    exact ⟨x, rfl⟩

section Served

variable {d : Driver} {regs : Bar0} (hmode : d.fdo.commandMode = .kernel)
  (hregs : d.pdo.bar0 = some regs)

include hmode hregs

/-- How much fuel a round needs can be told before the poll. -/
theorem processIoDoorbells_returns {i : Nat} (hi : i < d.pdo.ioQueueCount.toNat)
    (hready : (d.pdo.sq (i + 1)).created = true →
      doorbellTail regs (i + 1) ≠ (d.pdo.sq (i + 1)).tail →
      (d.sqView (i + 1)).Ready (UInt16.ofNat (i + 1)) (doorbellTail regs (i + 1))) :
    ∃ n, ∀ fuel, n ≤ fuel → ∀ x : Bool × Driver, x.2.sqView (i + 1) = d.sqView (i + 1) →
      ∃ y, processIoDoorbells fuel (polledRegs d regs) x i = some y := by
  have htail : doorbellTail (polledRegs d regs) (i + 1) = doorbellTail regs (i + 1) := by
    rw [doorbellTail, polledRegs_doorbells hregs, doorbellTail]
  by_cases hobs : (d.pdo.sq (i + 1)).created = true ∧
      doorbellTail regs (i + 1) ≠ (d.pdo.sq (i + 1)).tail
  · obtain ⟨hcreated, hchanged⟩ := hobs
    obtain ⟨l, harc, hpos, hfollows⟩ := hready hcreated hchanged
    refine ⟨l.length + 1, fun fuel hfuel x hview => processIoDoorbells_some fun _ _ => ?_⟩
    have hmode' : x.2.fdo.commandMode = .kernel :=
      (congrArg SqView.commandMode hview).trans hmode
    have hstate : x.2.pdo.sq (i + 1) = d.pdo.sq (i + 1) := congrArg SqView.state hview
    obtain ⟨l', d', harc', -, hexec, -⟩ :=
      (ioServed_iff_of_view hi hview hcreated _).mpr ⟨l, harc, hpos, hfollows⟩
    rw [toNat_ioQueueId hi, hstate] at harc'
    obtain rfl : l = l' := Arc.unique harc harc'
    rw [htail, dispatchIoTail, hmode']
    exact ⟨d', hexec.returns hfuel⟩
  · refine ⟨0, fun fuel _ x hview => processIoDoorbells_some fun hcreated hchanged => ?_⟩
    have hstate : x.2.pdo.sq (i + 1) = d.pdo.sq (i + 1) := congrArg SqView.state hview
    rw [hstate] at hcreated hchanged
    rw [htail] at hchanged
    exact absurd ⟨hcreated, hchanged⟩ hobs

theorem pollState_returns (hvalid : ∀ shm, d.shm = some shm → (shm.sq 0).valid = 0)
    (hactive : PollActive d regs) (h : PollReady d) {k : Nat}
    (hk : k ≤ d.pdo.ioQueueCount.toNat) :
    ∃ n, ∀ fuel, n ≤ fuel → ∃ x, pollState fuel d regs k = some x := by
  induction k with
  | zero =>
      refine ⟨1, fun fuel hfuel => ?_⟩
      obtain ⟨m, rfl⟩ := Nat.exists_eq_add_of_le' hfuel
      obtain ⟨r, hr⟩ : ∃ r, processAdminDoorbells (m + 1) (polledRegs d regs)
          (processCc d regs).1 (processCc d regs).2 = some r :=
        processAdminDoorbells_returns hmode hvalid m _ _
      exact ⟨r, by rw [pollState, hr]; rfl⟩
  | succ k ih =>
      obtain ⟨n, hn⟩ := ih (Nat.le_of_succ_le hk)
      obtain ⟨m, hm⟩ := processIoDoorbells_returns hmode hregs hk ((h regs hregs hactive).2 k hk)
      refine ⟨max n m, fun fuel hfuel => ?_⟩
      obtain ⟨x, hx⟩ := hn fuel (Nat.le_trans (Nat.le_max_left n m) hfuel)
      have hview := pollState_sqView hmode hvalid (Nat.le_of_succ_le hk) hx
      obtain ⟨y, hy⟩ := hm fuel (Nat.le_trans (Nat.le_max_right n m) hfuel) x hview
      exact ⟨y, by rw [pollState_succ, hx]; exact hy⟩

end Served

/-- **One poll in kernel mode** serves all the tails it observes exactly if it finds the queues
ready. -/
theorem pollServes_iff {d : Driver} (hmode : d.fdo.commandMode = .kernel)
    (hvalid : ∀ shm, d.shm = some shm → (shm.sq 0).valid = 0) : PollServes d ↔ PollReady d := by
  constructor
  · rintro ⟨fuel, r, hpoll, hserves⟩ regs hregs hactive
    obtain ⟨hadmin, hio⟩ := hserves regs hregs hactive
    obtain ⟨hshm, hsq, -⟩ := processCc_kept d regs
    refine ⟨fun hchanged => ?_, fun i hi hcreated hchanged => ?_⟩
    · rw [← hsq]
      exact (adminServed_iff (by rw [hshm]; exact hvalid) _).mp (hadmin hchanged)
    · rw [vnvmeProcessDoorbells_kernel hmode hvalid hregs hactive] at hpoll
      obtain ⟨x, hx⟩ := pollState_of_le (Nat.le_of_lt hi) hpoll
      have hview := pollState_sqView hmode hvalid (Nat.le_of_lt hi) hx
      have hstate : x.2.pdo.sq (i + 1) = d.pdo.sq (i + 1) := congrArg SqView.state hview
      rw [← ioServed_iff_of_view hi hview hcreated]
      exact hio i hi x hx (by rw [hstate]; exact hcreated) (by rw [hstate]; exact hchanged)
  · intro hready
    cases hregs : d.pdo.bar0 with
    | none =>
        refine ⟨0, (false, d), by rw [vnvmeProcessDoorbells, hregs], fun regs hregs' => ?_⟩
        rw [hregs] at hregs'
        cases hregs'
    | some regs =>
        by_cases hactive : PollActive d regs
        · obtain ⟨n, hn⟩ := pollState_returns hmode hregs hvalid hactive hready (Nat.le_refl _)
          obtain ⟨r, hr⟩ := hn n (Nat.le_refl n)
          refine ⟨n, r, ?_, fun regs' hregs' _ => ?_⟩
          · rw [vnvmeProcessDoorbells_kernel hmode hvalid hregs hactive, hr]
          · obtain rfl : regs = regs' := Option.some.inj (hregs.symm.trans hregs')
            obtain ⟨hadmin, hio⟩ := hready regs hregs hactive
            obtain ⟨hshm, hsq, -⟩ := processCc_kept d regs
            refine ⟨fun hchanged => ?_, fun i hi x hx hcreated hchanged => ?_⟩
            · rw [adminServed_iff (by rw [hshm]; exact hvalid), hsq]
              exact hadmin hchanged
            · have hview := pollState_sqView hmode hvalid (Nat.le_of_lt hi) hx
              have hstate : x.2.pdo.sq (i + 1) = d.pdo.sq (i + 1) := congrArg SqView.state hview
              rw [hstate] at hcreated hchanged
              rw [ioServed_iff_of_view hi hview hcreated]
              exact hio i hi hcreated hchanged
        · refine ⟨0, _, vnvmeProcessDoorbells_inactive hregs hactive 0, fun regs' hregs' h => ?_⟩
          obtain rfl : regs = regs' := Option.some.inj (hregs.symm.trans hregs')
          exact absurd h hactive

/-! ## Runs -/

/-- What can happen on the bus: a poll, the heartbeat check in front of it, a message of the
server, a write of the host to the registers or to the queues, a poll of the server, or one of
the driver's queue routines. -/
inductive BusEvent where
  | poll (fuel : Nat)
  | checkHeartbeat (fuel : Nat) (now : Int)
  | userReady (now : Int)
  | heartbeat (now : Int)
  | writeRegister (offset value : UInt32)
  | memory (sqMem userSqMem : Nat → UInt32 → NvmeCommand) (dataBuffer : UInt32 → UInt8)
  | serverPoll (fuel : Nat) (ctx : CmdEngineContext)
  | driverCall (c : DriverCall)

def BusEvent.apply (d : Driver) : BusEvent → Option Driver
  | .poll fuel => (vnvmeProcessDoorbells fuel d).map Prod.snd
  | .checkHeartbeat fuel now => checkUserModeHeartbeat fuel now d
  | .userReady now => some { d with fdo := { d.fdo with userReady := true, lastHeartbeat := now } }
  | .heartbeat now =>
    if d.fdo.userReady then some { d with fdo := { d.fdo with lastHeartbeat := now } } else some d
  | .writeRegister offset value =>
    some { d with pdo := vnvmeWriteBar0Register d.pdo offset value }
  | .memory sqMem userSqMem dataBuffer =>
    some { d with shm := d.shm.map fun shm =>
      { shm with sqMem := sqMem, userSqMem := userSqMem, dataBuffer := dataBuffer } }
  | .serverPoll fuel ctx =>
    match d.shm with
    | none => some d
    | some shm => (cmdEnginePoll fuel ⟨ctx, shm⟩).map fun r => { d with shm := some r.2.shm }
  | .driverCall c => c.run d

/-- A run stops at an event that does not come back. -/
def busStep (s : Option Driver) (e : BusEvent) : Option Driver := s.bind fun d => e.apply d

/-- If the event is a poll in kernel mode, `P` holds of the state before it. -/
def AtKernelPoll (P : Driver → Prop) (s : Option Driver) : BusEvent → Prop
  | .poll _ => ∀ d, s = some d → d.fdo.commandMode = .kernel → P d
  | _ => True

/-- The shared memory of a run, if there is any, is reachable. -/
def BusInv (s : Option Driver) : Prop := ∀ d, s = some d → ∀ shm, d.shm = some shm → ShmReach shm

theorem checkUserModeHeartbeat_reaches {fuel : Nat} {now : Int} {d d' : Driver}
    (h : ∀ shm, d.shm = some shm → ShmReach shm)
    (hcheck : checkUserModeHeartbeat fuel now d = some d') :
    ∀ shm, d'.shm = some shm → ShmReach shm := by
  simp only [checkUserModeHeartbeat] at hcheck
  split_ifs at hcheck
  · rwa [← Option.some.inj hcheck]
  · obtain ⟨r, hr, rfl⟩ := Option.map_eq_some_iff.mp hcheck
    let crashed := { d with fdo := { d.fdo with userCrashed := true, userReady := false } }
    have hrun : (DriverCall.abort fuel).run crashed = some r.2 := by
      rw [DriverCall.run, hr]
      rfl
    -- the change of mode after the abort leaves the shared memory alone
    have hreach : ∀ shm, r.2.shm = some shm → ShmReach shm :=
      DriverCall.reaches (d := crashed) h hrun
    exact hreach
  · rwa [← Option.some.inj hcheck]

theorem busInv_step (s : Option Driver) (e : BusEvent) (h : BusInv s) : BusInv (busStep s e) := by
  intro d' hd'
  obtain ⟨d, rfl, happly⟩ := Option.bind_eq_some_iff.mp hd'
  have hd := h d rfl
  cases e with
  | poll fuel =>
      have hrun : (DriverCall.doorbells fuel).run d = some d' := happly
      exact DriverCall.reaches hd hrun
  | checkHeartbeat fuel now => exact checkUserModeHeartbeat_reaches hd happly
  | userReady now =>
      cases happly
      exact hd
  | heartbeat now =>
      simp only [BusEvent.apply] at happly
      split_ifs at happly
      · cases happly
        exact hd
      · cases happly
        exact hd
  | writeRegister offset value =>
      cases happly
      exact hd
  | memory sqMem userSqMem dataBuffer =>
      cases happly
      intro shm' hshm'
      obtain ⟨shm, hshm, rfl⟩ := Option.map_eq_some_iff.mp hshm'
      exact ShmReach.memory sqMem userSqMem dataBuffer (hd shm hshm)
  | serverPoll fuel ctx =>
      simp only [BusEvent.apply] at happly
      split at happly
      · cases happly
        exact hd
      · rename_i shm hshm
        obtain ⟨r, hr, rfl⟩ := Option.map_eq_some_iff.mp happly
        rintro shm' ⟨⟩
        exact ShmReach.server (hd shm hshm) hr
  | driverCall c => exact DriverCall.reaches hd happly

/-- Set up I/O queue 1 with four slots, enable the controller, and submit two commands. -/
def submitTwo : List BusEvent :=
  [.driverCall (.createCq 1 4 0), .driverCall (.createSq 1 4 0 1), .writeRegister 0x14 1,
    .writeRegister 0x1008 2]

/-- The controller after this, on a bus with the given context. -/
def submittedDriver (fdo : FdoContext) : Driver :=
  let d := (vnvmeCreateIoCompletionQueue { Driver.fresh Config.allQueues with fdo := fdo } 1 4 0).2
  let d := (vnvmeCreateIoSubmissionQueue d 1 4 0 1).2
  { d with pdo := vnvmeWriteBar0Register (vnvmeWriteBar0Register d.pdo 0x14 1) 0x1008 2 }

theorem submittedDriver_valid (fdo : FdoContext) :
    ∀ shm, (submittedDriver fdo).shm = some shm → (shm.sq 0).valid = 0 := by
  intro shm hshm
  obtain rfl := Option.some.inj hshm
  rfl

theorem submittedDriver_reach (fdo : FdoContext) :
    ∀ shm, (submittedDriver fdo).shm = some shm → ShmReach shm := by
  have hinv : BusInv (run busStep (some { Driver.fresh Config.allQueues with fdo := fdo })
      submitTwo) := by
    refine Runs.run_induct busInv_step ?_ submitTwo
    rintro _ ⟨⟩ shm hshm
    rw [← Option.some.inj hshm]
    exact ShmReach.alloc
  exact hinv (submittedDriver fdo) rfl

/-- The same controller in kernel mode, on a bus where another one has forwarded the tail of
its queue 1 to the server. -/
def forwardedDriver : Driver :=
  { submittedDriver { commandMode := .kernel } with
    shm := (vnvmeProcessDoorbells 1 (submittedDriver { userReady := true })).bind fun r => r.2.shm }

theorem forwardedDriver_reach : ∀ shm, forwardedDriver.shm = some shm → ShmReach shm := by
  intro shm hshm
  have hbind : (vnvmeProcessDoorbells 1 (submittedDriver { userReady := true })).bind
      (fun r => r.2.shm) = some shm := hshm
  obtain ⟨r, hr, hshm⟩ := Option.bind_eq_some_iff.mp hbind
  exact poll_reaches (submittedDriver_reach _) hr shm hshm

end VirtualNvme
