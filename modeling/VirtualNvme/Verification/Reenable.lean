import VirtualNvme.Verification.EnableBit

/-!
# Disabling and enabling again

When the host clears `CC.EN` the poller clears `CSTS` and does nothing else, and when it sets
the bit again `VnvmeInitializeAdminQueues` resets the copies of the doorbells and the phase in
`AdminCqPhase`. Heads, tails and phases of the admin queues, the I/O queues, the pending event
requests and the doorbells themselves stay as the run before has left them. So the controller
comes up as a fresh one exactly if that run has left nothing behind.
-/

namespace VirtualNvme

open RingBuffer
open Runs (run)

/-! ## What a reset is about -/

/-- The state of the controller that the first enable finds and leaves as new: the
registers' copies, the admin queues on both sides of the shared memory, and which I/O queues
exist. -/
structure ResetView where
  ready : Option Bool
  cachedCC : UInt32
  adminSqBase : UInt64
  adminSqSize : UInt32
  adminCqBase : UInt64
  adminCqSize : UInt32
  adminCqPhase : UInt32
  lastAdminSqTail : UInt32
  lastAdminCqHead : UInt32
  sqIndices : UInt32 × UInt32
  cqIndices : UInt32 × UInt32 × Bool
  shmSqIndices : Option (UInt32 × UInt32)
  shmCqIndices : Option (UInt32 × UInt32 × UInt32)
  sqCreated : Nat → Bool
  cqCreated : Nat → Bool
  ioQueueCount : UInt16
  aerCids : List UInt16

def resetView (d : Driver) : ResetView where
  ready := d.pdo.bar0.map fun regs => bit0 regs.csts
  cachedCC := d.pdo.cachedCC
  adminSqBase := d.pdo.adminSqBase
  adminSqSize := d.pdo.adminSqSize
  adminCqBase := d.pdo.adminCqBase
  adminCqSize := d.pdo.adminCqSize
  adminCqPhase := d.pdo.adminCqPhase
  lastAdminSqTail := d.pdo.lastAdminSqTail
  lastAdminCqHead := d.pdo.lastAdminCqHead
  sqIndices := ((d.pdo.sq 0).head, (d.pdo.sq 0).tail)
  cqIndices := ((d.pdo.cq 0).head, (d.pdo.cq 0).tail, (d.pdo.cq 0).phaseTag)
  shmSqIndices := d.shm.map fun shm => ((shm.sq 0).head, (shm.sq 0).tail)
  shmCqIndices := d.shm.map fun shm => ((shm.cq 0).head, (shm.cq 0).tail, (shm.cq 0).phase)
  sqCreated := fun i => (d.pdo.sq (i + 1)).created
  cqCreated := fun i => (d.pdo.cq (i + 1)).created
  ioQueueCount := d.pdo.ioQueueCount
  aerCids := d.pdo.aerCids

/-- The first enable of a fresh controller, with the given admin queue registers. -/
def ResetView.first (aqa : UInt32) (asq acq : UInt64) (cc : UInt32) : ResetView where
  ready := some true
  cachedCC := cc
  adminSqBase := asq
  adminSqSize := (aqa &&& 0xFFF) + 1
  adminCqBase := acq
  adminCqSize := ((aqa >>> 16) &&& 0xFFF) + 1
  adminCqPhase := 1
  lastAdminSqTail := 0
  lastAdminCqHead := 0
  sqIndices := (0, 0)
  cqIndices := (0, 0, false)
  shmSqIndices := some (0, 0)
  shmCqIndices := some (0, 0, 1)
  sqCreated := fun _ => false
  cqCreated := fun _ => false
  ioQueueCount := 0
  aerCids := []

/-! ## The I/O queues leave it alone -/

/-- New indices for a queue do not create it. -/
theorem created_update {f : Nat → QueueState} {q : Nat} {st : QueueState}
    (h : st.created = (f q).created) (r : Nat) :
    (Function.update f q st r).created = (f r).created := by
  by_cases hr : r = q
  · rw [hr, Function.update_self, h]
  · rw [Function.update_of_ne hr]

theorem setSq_resetView {d : Driver} {q : Nat} (hq : q ≠ 0) {st : QueueState}
    (h : st.created = (d.pdo.sq q).created) :
    resetView { d with pdo := d.pdo.setSq q st } = resetView d := by
  have h0 : (d.pdo.setSq q st).sq 0 = d.pdo.sq 0 := Function.update_of_ne (Ne.symm hq) _ _
  simp only [resetView, h0]
  congr 1
  funext i
  exact created_update h (i + 1)

theorem setCq_resetView {d : Driver} {q : Nat} (hq : q ≠ 0) {st : QueueState}
    (h : st.created = (d.pdo.cq q).created) :
    resetView { d with pdo := d.pdo.setCq q st } = resetView d := by
  have h0 : (d.pdo.setCq q st).cq 0 = d.pdo.cq 0 := Function.update_of_ne (Ne.symm hq) _ _
  simp only [resetView, h0]
  congr 1
  funext i
  exact created_update h (i + 1)

/-- Shared memory with other I/O queues. -/
theorem shm_resetView {d : Driver} {shm shm' : Shm} (hshm : d.shm = some shm)
    (hsq : shm'.sq 0 = shm.sq 0) (hcq : shm'.cq 0 = shm.cq 0) (fdo : FdoContext) :
    resetView { d with shm := some shm', fdo := fdo } = resetView d := by
  simp only [resetView, hshm, Option.map_some, hsq, hcq]

theorem applyFetch_resetView {d : Driver} {shm : Shm} (hshm : d.shm = some shm) {q : Nat}
    (hq : q ≠ 0) : resetView (applyFetch d shm q) = resetView d := by
  let desc := { shm.sq q with head := next (shm.sq q).capacity (shm.sq q).head }
  have h0 : (shm.setSq q desc).sq 0 = shm.sq 0 := Function.update_of_ne (Ne.symm hq) _ _
  rw [← shm_resetView hshm h0 (by rfl) d.fdo]
  exact setSq_resetView (d := { d with shm := some (shm.setSq q desc) }) hq (by rfl)

theorem applyPosts_resetView {d : Driver} {shm : Shm} (hshm : d.shm = some shm) {q : Nat}
    (hq : q ≠ 0) (cs : List NvmeCompletion) :
    resetView (applyPosts d shm q cs) = resetView d := by
  obtain ⟨shm', hshm', hsq, hcq⟩ : ∃ shm', (applyPosts d shm q cs).shm = some shm' ∧
      shm'.sq 0 = shm.sq 0 ∧ shm'.cq 0 = shm.cq 0 :=
    ⟨_, rfl, rfl, Function.update_of_ne (Ne.symm hq) _ _⟩
  rw [← shm_resetView hshm hsq hcq d.fdo, ← hshm']
  exact setCq_resetView (d := { d with shm := (applyPosts d shm q cs).shm }) hq (by rfl)

theorem keptByQueue_resetView {q : UInt16} (hq : q.toNat ≠ 0) : KeptByQueue resetView q where
  media := fun _ _ _ => rfl
  sqIndex := fun _ _ h => setSq_resetView hq h
  cqIndex := fun _ _ h => setCq_resetView hq h
  fetch := fun d => by
    rcases vnvmeFetchCommand_cases d q with ⟨-, hd⟩ | ⟨shm, hok, -, hd⟩
    · rw [hd]
    · rw [hd]
      exact applyFetch_resetView (sqCheck_ok_iff.mp hok).1 hq
  post := fun d c => by
    rcases vnvmePostCompletion_cases d q c with ⟨-, hd⟩ | ⟨shm, hok, hd⟩
    · rw [hd]
    · rw [hd]
      exact applyPosts_resetView (cqCheck_ok_iff.mp hok).1 hq [c]
  forward := fun d shm tail hshm => by
    obtain ⟨ring, heq⟩ := forwardTail_eq d shm q tail
    rw [heq]
    have h0 : (shm.setSq q.toNat { shm.sq q.toNat with tail := tail }).sq 0 = shm.sq 0 :=
      Function.update_of_ne (Ne.symm hq) _ _
    exact shm_resetView hshm h0 (by rfl) (signalUserMode d.fdo)

/-! ## The two polls -/

/-- The host writes `CC`. -/
def writeCc (d : Driver) (cc : UInt32) : Driver :=
  { d with pdo := vnvmeWriteBar0Register d.pdo 0x14 cc }

/-- The controller after a poll has found the enable bit cleared. -/
def disabled (d : Driver) (regs : Bar0) (cc : UInt32) : Driver :=
  { d with pdo := { d.pdo with bar0 := some { regs with cc := cc, csts := 0 }, cachedCC := cc } }

/-- The controller after step 1 of a poll has found the enable bit set. -/
def enabled (d : Driver) (regs : Bar0) (cc : UInt32) : Driver :=
  { d with pdo := { d.pdo with
    bar0 := some { regs with cc := cc, csts := 1 }
    cachedCC := cc
    adminSqBase := regs.asq
    adminSqSize := (regs.aqa &&& 0xFFF) + 1
    adminCqBase := regs.acq
    adminCqSize := ((regs.aqa >>> 16) &&& 0xFFF) + 1
    lastAdminSqTail := 0
    lastAdminCqHead := 0
    adminCqPhase := 1 } }

section Polls

variable {d : Driver} {regs : Bar0} (hregs : d.pdo.bar0 = some regs)

include hregs

theorem writeCc_bar0 (cc : UInt32) :
    (writeCc d cc).pdo.bar0 = some { regs with cc := cc } := by
  show d.pdo.bar0.map _ = _
  rw [hregs]
  rfl

/-- The poll that disables the controller does nothing else. -/
theorem poll_disables {cc : UInt32} (hoff : bit0 cc = false)
    (hold : bit0 d.pdo.cachedCC = true) (fuel : Nat) :
    vnvmeProcessDoorbells fuel (writeCc d cc) = some (true, disabled d regs cc) := by
  have hne : cc ≠ d.pdo.cachedCC := by
    rintro rfl
    rw [hold] at hoff
    cases hoff
  have hcc : processCc (writeCc d cc) { regs with cc := cc } = (true, disabled d regs cc) := by
    simp only [processCc, writeCc, vnvmeWriteBar0Register, disabled, hne, if_false, hoff, hold]
    rfl
  have hactive : ¬ PollActive (writeCc d cc) { regs with cc := cc } := by
    simp [PollActive, polledRegs, hcc, disabled, hoff]
  rw [vnvmeProcessDoorbells_inactive (writeCc_bar0 hregs cc) hactive, hcc]

/-- The poll that enables it goes on to the doorbells. -/
theorem poll_enables {cc : UInt32} (hon : bit0 cc = true)
    (hold : bit0 d.pdo.cachedCC = false) (fuel : Nat) :
    vnvmeProcessDoorbells fuel (writeCc d cc) =
      (processAdminDoorbells fuel { regs with cc := cc, csts := 1 } true
        (enabled d regs cc)).bind fun r =>
        (List.range r.2.pdo.ioQueueCount.toNat).foldlM
          (processIoDoorbells fuel { regs with cc := cc, csts := 1 }) r := by
  have hne : cc ≠ d.pdo.cachedCC := by
    rintro rfl
    rw [hold] at hon
    cases hon
  have hcc : processCc (writeCc d cc) { regs with cc := cc } = (true, enabled d regs cc) := by
    simp only [processCc, writeCc, vnvmeWriteBar0Register, vnvmeInitializeAdminQueues, hregs,
      Option.map_some, enabled, hne, if_false, hon, hold]
    rfl
  have hpolled : polledRegs (writeCc d cc) { regs with cc := cc } =
      { regs with cc := cc, csts := 1 } := by
    rw [polledRegs, hcc]
    rfl
  have hready : bit0 1 = true := by decide
  have hactive : PollActive (writeCc d cc) { regs with cc := cc } := by
    simp [PollActive, hpolled, hon, hready]
  rw [vnvmeProcessDoorbells_active (writeCc_bar0 hregs cc) hactive, hpolled, hcc]

end Polls

/-! ## What the enabling poll finds -/

/-- The run before has left nothing behind: the doorbells are zero, the admin queues are as
allocated on both sides, no I/O queue exists and no event request is pending. -/
structure LeftAsFresh (d : Driver) (regs : Bar0) (shm : Shm) : Prop where
  doorbells : regs.doorbells 0 &&& 0xFFFF = 0 ∧ regs.doorbells 1 &&& 0xFFFF = 0
  adminSq : (d.pdo.sq 0).head = 0 ∧ (d.pdo.sq 0).tail = 0
  adminCq : (d.pdo.cq 0).head = 0 ∧ (d.pdo.cq 0).tail = 0 ∧ (d.pdo.cq 0).phaseTag = false
  shmSq : (shm.sq 0).head = 0 ∧ (shm.sq 0).tail = 0
  shmCq : (shm.cq 0).head = 0 ∧ (shm.cq 0).tail = 0 ∧ (shm.cq 0).phase = 1
  ioSq : ∀ i, (d.pdo.sq (i + 1)).created = false
  ioCq : ∀ i, (d.pdo.cq (i + 1)).created = false
  ioQueueCount : d.pdo.ioQueueCount = 0
  aerCids : d.pdo.aerCids = []

/-- A tail that is on record already is not handed over again. -/
theorem processAdminDoorbells_quiet {regs : Bar0} {d : Driver}
    (h : regs.doorbells 0 &&& 0xFFFF = d.pdo.lastAdminSqTail) (fuel : Nat) (b : Bool) :
    processAdminDoorbells fuel regs b d = some (b, { d with
      pdo := { d.pdo with lastAdminCqHead := regs.doorbells 1 &&& 0xFFFF } }) :=
  congrArg (Option.map _) (if_pos h)

/-- The tail on record afterwards is the one in the doorbell. -/
theorem processAdminDoorbells_tail {fuel : Nat} {regs : Bar0} {b : Bool} {d : Driver}
    {r : Bool × Driver} (h : processAdminDoorbells fuel regs b d = some r) :
    r.2.pdo.lastAdminSqTail = regs.doorbells 0 &&& 0xFFFF := by
  obtain ⟨s, hs, rfl⟩ := Option.map_eq_some_iff.mp h
  by_cases hsame : regs.doorbells 0 &&& 0xFFFF = d.pdo.lastAdminSqTail
  · rw [if_pos hsame] at hs
    rw [← Option.some.inj hs]
    exact hsame.symm
  · rw [if_neg hsame] at hs
    obtain ⟨d', -, rfl⟩ := Option.map_eq_some_iff.mp hs
    rfl

/-- The view of a controller that has been enabled without a new tail. -/
theorem enabled_view_iff {d : Driver} {regs : Bar0} {shm : Shm} (hshm : d.shm = some shm)
    {cc : UInt32} (hdoorbell : regs.doorbells 0 &&& 0xFFFF = 0) :
    resetView { enabled d regs cc with pdo := { (enabled d regs cc).pdo with
        lastAdminCqHead := regs.doorbells 1 &&& 0xFFFF } } =
      ResetView.first regs.aqa regs.asq regs.acq cc ↔ LeftAsFresh d regs shm := by
  have hready : bit0 1 = true := by decide
  simp only [resetView, ResetView.first, enabled, hshm, Option.map_some, hready,
    ResetView.mk.injEq, Option.some.injEq, Prod.mk.injEq, funext_iff, true_and]
  constructor
  · rintro ⟨hcq, hsq0, hcq0, hssq, hscq, hio, hioCq, hcount, haer⟩
    exact ⟨⟨hdoorbell, hcq⟩, hsq0, hcq0, hssq, hscq, hio, hioCq, hcount, haer⟩
  · rintro ⟨⟨-, hcq⟩, hsq0, hcq0, hssq, hscq, hio, hioCq, hcount, haer⟩
    exact ⟨hcq, hsq0, hcq0, hssq, hscq, hio, hioCq, hcount, haer⟩

/-- **The enabling poll** gives the controller of a first enable exactly if it finds a
controller that is like new. -/
theorem enable_view_iff {d : Driver} {regs : Bar0} (hregs : d.pdo.bar0 = some regs) {shm : Shm}
    (hshm : d.shm = some shm) {cc : UInt32} (hon : bit0 cc = true)
    (hold : bit0 d.pdo.cachedCC = false) (fuel : Nat) :
    (vnvmeProcessDoorbells fuel (writeCc d cc)).map (fun r => resetView r.2) =
      some (ResetView.first regs.aqa regs.asq regs.acq cc) ↔ LeftAsFresh d regs shm := by
  rw [poll_enables hregs hon hold]
  constructor
  · intro h
    obtain ⟨r, hr, hview⟩ := Option.map_eq_some_iff.mp h
    obtain ⟨s, hs, hio⟩ := Option.bind_eq_some_iff.mp hr
    -- the I/O queues do not touch the view, so it is the one after the admin doorbells
    have hkept : resetView r.2 = resetView s.2 := by
      refine foldlM_induct (I := fun x : Bool × Driver => resetView x.2 = resetView s.2) ?_ rfl hio
      intro x i x' hi hx hx'
      have hid := toNat_ioQueueId (List.mem_range.mp hi)
      exact ((keptByQueue_resetView (by rw [hid]; omega)).ioDoorbells hid hx').trans hx
    rw [hkept] at hview
    -- a tail of zero on record means that there was nothing to replay
    have hzero : regs.doorbells 0 &&& 0xFFFF = 0 :=
      (processAdminDoorbells_tail hs).symm.trans (congrArg ResetView.lastAdminSqTail hview)
    rw [processAdminDoorbells_quiet hzero] at hs
    rw [← Option.some.inj hs] at hview
    exact (enabled_view_iff hshm hzero).mp hview
  · intro h
    have hzero := h.doorbells.1
    have hcount : (enabled d regs cc).pdo.ioQueueCount.toNat = 0 :=
      congrArg UInt16.toNat h.ioQueueCount
    rw [processAdminDoorbells_quiet hzero, Option.bind_some]
    dsimp only
    rw [hcount]
    exact congrArg some ((enabled_view_iff hshm hzero).mpr h)

/-! ## Against a fresh controller -/

/-- Clear `CC.EN`, poll, set it, poll. -/
def reenable (fuel : Nat) (d : Driver) (ccOff ccOn : UInt32) : Option Driver :=
  (vnvmeProcessDoorbells fuel (writeCc d ccOff)).bind fun r =>
    (vnvmeProcessDoorbells fuel (writeCc r.2 ccOn)).map Prod.snd

/-- A controller that has just been created on the same bus, with newly allocated shared
memory, on which the host has programmed the admin queues. -/
def freshController (d : Driver) (aqa : UInt32) (asq acq : UInt64) : Driver :=
  { d with
    shm := some vnvmeAllocateShm
    pdo := { bar0 := some { aqa := aqa, asq := asq, acq := acq } } }

/-- Set `CC.EN`, poll. -/
def firstEnable (fuel : Nat) (d : Driver) (ccOn : UInt32) : Option Driver :=
  (vnvmeProcessDoorbells fuel (writeCc d ccOn)).map Prod.snd

theorem firstEnable_view (fuel : Nat) (d : Driver) (aqa : UInt32) (asq acq : UInt64)
    {cc : UInt32} (hon : bit0 cc = true) :
    (firstEnable fuel (freshController d aqa asq acq) cc).map resetView =
      some (ResetView.first aqa asq acq cc) := by
  rw [firstEnable, Option.map_map]
  have hzero : (0 : UInt32) &&& 0xFFFF = 0 := by decide
  have hold : bit0 0 = false := by decide
  refine (enable_view_iff (d := freshController d aqa asq acq) rfl rfl hon hold fuel).mpr ?_
  exact ⟨⟨hzero, hzero⟩, ⟨rfl, rfl⟩, ⟨rfl, rfl, rfl⟩, ⟨rfl, rfl⟩, ⟨rfl, rfl, rfl⟩,
    fun _ => rfl, fun _ => rfl, rfl, rfl⟩

theorem LeftAsFresh.disabled_iff {d : Driver} {regs : Bar0} {shm : Shm} (cc : UInt32) :
    LeftAsFresh (disabled d regs cc) { regs with cc := cc, csts := 0 } shm ↔
      LeftAsFresh d regs shm :=
  ⟨fun h => ⟨h.doorbells, h.adminSq, h.adminCq, h.shmSq, h.shmCq, h.ioSq, h.ioCq,
      h.ioQueueCount, h.aerCids⟩,
    fun h => ⟨h.doorbells, h.adminSq, h.adminCq, h.shmSq, h.shmCq, h.ioSq, h.ioCq,
      h.ioQueueCount, h.aerCids⟩⟩

/-- **Disabling and enabling again** gives the state of a first enable with the same admin
queue registers exactly if the run before has left nothing behind, whatever it was: the reset
itself clears none of it. -/
theorem reenable_as_first_iff (fuel : Nat) (d : Driver) {regs : Bar0} {shm : Shm}
    (hregs : d.pdo.bar0 = some regs) (hshm : d.shm = some shm) {ccOff ccOn : UInt32}
    (hold : bit0 d.pdo.cachedCC = true) (hoff : bit0 ccOff = false) (hon : bit0 ccOn = true) :
    (reenable fuel d ccOff ccOn).map resetView =
        (firstEnable fuel (freshController d regs.aqa regs.asq regs.acq) ccOn).map resetView ↔
      LeftAsFresh d regs shm := by
  rw [firstEnable_view fuel d _ _ _ hon, reenable, poll_disables hregs hoff hold,
    Option.bind_some, Option.map_map]
  refine Iff.trans ?_ (LeftAsFresh.disabled_iff ccOff)
  exact enable_view_iff (d := disabled d regs ccOff) rfl hshm hon hoff fuel

/-- A controller that has just been set up, with a server that listens. -/
def servedDriver : Driver :=
  { Driver.fresh Config.allQueues with
    fdo := { userReady := true }
    pdo := vnvmeInitializeBar0Registers (Driver.fresh Config.allQueues).pdo }

theorem aligned_doorbell : (0x1000 : UInt32).toNat % 4 = 0 := by decide

/-- The host enables the controller and submits three admin commands. -/
def submittedRun : RegisterRun :=
  run registerStep { driver := some servedDriver }
    [.write 0x14 1 aligned_cc, .poll 0, .write 0x1000 3 aligned_doorbell, .poll 0]

/-- The server is told of the three commands once more when the controller is enabled again,
and the tail stays on record. -/
theorem reenable_replays :
    ∃ d d', submittedRun.driver = some d ∧ reenable 0 d 0 1 = some d' ∧
      d.shm.map (fun shm => shm.notifyRing.tail) = some 1 ∧
      d'.shm.map (fun shm => shm.notifyRing.tail) = some 2 ∧
      (reenable 0 d 0 1).map resetView ≠
        (firstEnable 0 (freshController d 0 0 0) 1).map resetView := by
  refine ⟨_, _, rfl, rfl, rfl, rfl, fun h => ?_⟩
  have htail : (3 : UInt32) = 0 := congrArg ResetView.lastAdminSqTail (Option.some.inj h)
  exact absurd htail (by decide)

/-- A controller that has only been enabled comes up as new. -/
theorem reenable_as_first_example :
    bit0 (enabled servedDriver {} 1).pdo.cachedCC = true ∧
      (reenable 0 (enabled servedDriver {} 1) 0 1).map resetView =
        (firstEnable 0 (freshController (enabled servedDriver {} 1) 0 0 0) 1).map resetView := by
  have hold : bit0 1 = true := by decide
  have hoff : bit0 0 = false := by decide
  have hzero : (0 : UInt32) &&& 0xFFFF = 0 := by decide
  refine ⟨hold, (reenable_as_first_iff 0 (enabled servedDriver {} 1)
    (show _ = some { ({} : Bar0) with cc := 1, csts := 1 } from rfl) rfl hold hoff hold).mpr ?_⟩
  exact ⟨⟨hzero, hzero⟩, ⟨rfl, rfl⟩, ⟨rfl, rfl, rfl⟩, ⟨rfl, rfl⟩, ⟨rfl, rfl, rfl⟩,
    fun _ => rfl, fun _ => rfl, rfl, rfl⟩

end VirtualNvme
