import VirtualNvme.Verification.Abort
import VirtualNvme.Verification.CompletionQueue
import VirtualNvme.Verification.ServerFrame

/-!
# The phase of the admin completion queue

Three parties write to the admin completion queue, each with a phase variable of its own:
the kernel with `AdminCq.PhaseTag`, the abort with `AdminCQ.Phase` in shared memory, the
server with `adminCqPhase` in its context. Nothing keeps the three in step, enabling the
controller does not move the index back, and a restarted server begins with phase 1
wherever the index stands. The phase rule holds along a run exactly as long as every
writer's own variable agrees with the last entry.
-/

namespace VirtualNvme

open RingBuffer

/-! ## What is in the queue -/

/-- The slot and the phase bit of an entry. -/
def CqWrite.stamp (w : CqWrite) : UInt32 × Bool := (w.slot, nvmeStatusP w.entry.status = 1)

/-- The entries written since the record had length `mark`. -/
def since (mark : Nat) (log : List CqWrite) : List (UInt32 × Bool) :=
  (log.drop mark).map CqWrite.stamp

theorem since_append {mark : Nat} {log : List CqWrite} (h : mark ≤ log.length) (w : CqWrite) :
    since mark (log ++ [w]) = since mark log ++ [w.stamp] := by
  rw [since, since, List.drop_append_of_le_length h, List.map_append]
  rfl

/-- The record of a queue since `mark` follows the phase rule, and `tail` is the slot of the
next entry. -/
structure Tracked (c : UInt32) (mark : Nat) (tail : UInt32) (log : List CqWrite) : Prop where
  mark_le : mark ≤ log.length
  lapped : Lapped c (since mark log)
  at_tail : At c (since mark log).length tail

/-- The record starts again, on slot 0. -/
theorem Tracked.start (c : UInt32) (log : List CqWrite) : Tracked c log.length 0 log := by
  have hnil : since log.length log = [] := by
    rw [since, List.drop_length]
    rfl
  refine ⟨Nat.le_refl _, ?_, ?_⟩
  · rw [hnil]
    exact Lapped.nil c
  · rw [hnil]
    exact At.zero c

/-- One entry with the right phase. -/
theorem Tracked.write {c tail : UInt32} {mark : Nat} {log : List CqWrite} {e : NvmeCompletion}
    (hc : 0 < c) (h : Tracked c mark tail log)
    (he : nvmeStatusP e.status = if nextPhase tail (since mark log) then 1 else 0) :
    Tracked c mark (next c tail) (log ++ [⟨tail, e⟩]) := by
  have hphase : decide (nvmeStatusP e.status = 1) = nextPhase tail (since mark log) := by
    rw [he]
    cases nextPhase tail (since mark log) <;> rfl
  refine ⟨?_, ?_, ?_⟩
  · rw [List.length_append]
    exact Nat.le_add_right_of_le h.mark_le
  · rw [since_append h.mark_le]
    exact h.lapped.snoc hc h.at_tail hphase
  · rw [since_append h.mark_le, List.length_append, List.length_singleton]
    exact h.at_tail.next hc

/-! ## Phase bits -/

theorem shiftLeft_and_one (x : UInt16) {n : UInt16} (hn : n.toNat % 16 ≠ 0) :
    (x <<< n) &&& 1 = 0 := by
  obtain ⟨k, hk⟩ := Nat.exists_eq_succ_of_ne_zero hn
  apply UInt16.toNat_inj.mp
  rw [UInt16.toNat_and, UInt16.toNat_shiftLeft, hk]
  show _ % 2 ^ 16 &&& 1 = 0
  rw [Nat.and_one_is_mod, Nat.shiftLeft_eq, Nat.pow_succ, ← Nat.mul_assoc,
    Nat.mod_mod_of_dvd _ (by decide), Nat.mul_mod_left]

/-- `NvmeMakeStatus` keeps the phase in bit 0. -/
theorem nvmeMakeStatus_phase (sct sc : UInt8) (b : Bool) :
    nvmeStatusP (nvmeMakeStatus sct sc (if b then 1 else 0)) = if b then 1 else 0 := by
  rw [nvmeStatusP, nvmeMakeStatus, uint16_or_and, uint16_or_and,
    show (0x0001 : UInt16) = 1 from rfl, shiftLeft_and_one _ (by decide),
    shiftLeft_and_one _ (by decide)]
  cases b <;> rfl

/-! ## Runs -/

/-- The driver and the server, and the length of the record of the admin completion queue
when the controller was enabled last. -/
structure AdminCqRun where
  driver : Driver
  ctx : CmdEngineContext := {}
  mark : Nat := 0

/-- What can happen to the admin completion queue, and new commands in the submission
queue beside it. -/
inductive AdminCqEvent where
  | enable
  | kernelPost (completion : NvmeCompletion)
  | serverPost (cid : UInt16) (dw0 : UInt32) (sct sc : UInt8)
  | abort (fuel : Nat)
  | restart (config : CmdEngineConfig)
  | submission (head tail : UInt32) (mem : UInt32 → NvmeCommand)

/-- New commands in the admin submission queue. -/
def Shm.submitAdmin (shm : Shm) (head tail : UInt32) (mem : UInt32 → NvmeCommand) : Shm :=
  { shm.setSq 0 { shm.sq 0 with head := head, tail := tail } with
    sqMem := Function.update shm.sqMem 0 mem }

/-- One event; `none` is an abort that has not come back. -/
def AdminCqRun.step (w : AdminCqRun) (shm : Shm) : AdminCqEvent → Option AdminCqRun
  | .enable =>
    some { w with
      driver := { w.driver with pdo := (vnvmeInitializeAdminQueues w.driver.pdo).2 }
      mark := (shm.cqLog 0).length }
  | .kernelPost completion =>
    some { w with driver := (vnvmePostCompletion w.driver 0 completion).2 }
  | .serverPost cid dw0 sct sc =>
    let s := cmdEnginePostAdminCompletion ⟨w.ctx, shm⟩ cid dw0 sct sc
    some { w with driver := { w.driver with shm := some s.shm }, ctx := s.ctx }
  | .abort fuel =>
    (vnvmeAbortPendingUserCommands fuel w.driver).map fun r => { w with driver := r.2 }
  | .restart config => some { w with ctx := (cmdEngineInit {} shm config).2 }
  | .submission head tail mem =>
    some { w with driver := { w.driver with shm := some (shm.submitAdmin head tail mem) } }

/-- The phase that the last entry asks the next one to have. -/
def AdminCqRun.expected (w : AdminCqRun) (shm : Shm) : Bool :=
  nextPhase (shm.cq 0).tail (since w.mark (shm.cqLog 0))

/-- What an event must find: the controller is enabled with the index on slot 0, and a
party that writes has the expected phase in its own variable. -/
def AdminCqRun.InPhase (w : AdminCqRun) (shm : Shm) : AdminCqEvent → Prop
  | .enable => (shm.cq 0).tail = 0
  | .kernelPost _ => (shm.cq 0).valid ≠ 0 → (w.driver.pdo.cq 0).phaseTag = w.expected shm
  | .serverPost _ _ _ _ => w.ctx.adminCqPhase = if w.expected shm then 1 else 0
  | .abort _ => (shm.sq 0).head ≠ (shm.sq 0).tail → (shm.cq 0).phaseBit = w.expected shm
  | .restart _ => True
  | .submission _ _ _ => True

/-- `w` is reached from `w₀` by events that all satisfy `P`. -/
inductive AdminCqReach (P : AdminCqRun → Shm → AdminCqEvent → Prop) (w₀ : AdminCqRun) :
    AdminCqRun → Prop where
  | refl : AdminCqReach P w₀ w₀
  | step {w w' : AdminCqRun} {shm : Shm} {e : AdminCqEvent} (h : AdminCqReach P w₀ w)
      (hshm : w.driver.shm = some shm) (hP : P w shm e) (hstep : w.step shm e = some w') :
      AdminCqReach P w₀ w'

/-- The invariant of a run. The abort walks the completion queue with the capacity of the
submission queue. -/
structure AdminCqInv (c : UInt32) (w : AdminCqRun) (shm : Shm) : Prop where
  shm_eq : w.driver.shm = some shm
  cq_capacity : (shm.cq 0).capacity = c
  sq_capacity : (shm.sq 0).capacity = c
  tracked : Tracked c w.mark (shm.cq 0).tail (shm.cqLog 0)

section Steps

variable {c : UInt32} {w : AdminCqRun} {shm : Shm}

theorem AdminCqInv.kernelPost (hc : 0 < c) (h : AdminCqInv c w shm) {x : NvmeCompletion}
    (hp : w.InPhase shm (.kernelPost x)) :
    ∃ shm', AdminCqInv c { w with driver := (vnvmePostCompletion w.driver 0 x).2 } shm' := by
  rcases vnvmePostCompletion_cases w.driver 0 x with ⟨_, hd⟩ | ⟨s, hok, hd⟩
  · rw [hd]
    exact ⟨shm, h⟩
  · obtain ⟨hs, _, hvalid⟩ := cqCheck_ok_iff.mp hok
    obtain rfl : shm = s := Option.some.inj (h.shm_eq.symm.trans hs)
    have htag := hp hvalid
    rw [hd]
    refine ⟨_, rfl, ?_, h.sq_capacity, ?_⟩
    · simpa [Shm.setCq] using h.cq_capacity
    · have hw := h.tracked.write hc (e := withPhase x (w.driver.pdo.cq 0).phaseTag)
        (by rw [withPhase_phase, htag]; rfl)
      simpa [Shm.setCq, postBatchStep, h.cq_capacity] using hw

theorem AdminCqInv.serverPost (hc : 0 < c) (h : AdminCqInv c w shm) {cid : UInt16}
    {dw0 : UInt32} {sct sc : UInt8} (hp : w.InPhase shm (.serverPost cid dw0 sct sc)) :
    AdminCqInv c
      { w with
        driver := { w.driver with
          shm := some (cmdEnginePostAdminCompletion ⟨w.ctx, shm⟩ cid dw0 sct sc).shm }
        ctx := (cmdEnginePostAdminCompletion ⟨w.ctx, shm⟩ cid dw0 sct sc).ctx }
      (cmdEnginePostAdminCompletion ⟨w.ctx, shm⟩ cid dw0 sct sc).shm := by
  have hbyte : w.ctx.adminCqPhase.toUInt8 = if w.expected shm then 1 else 0 := by
    rw [show w.ctx.adminCqPhase = _ from hp]
    cases w.expected shm <;> rfl
  refine ⟨rfl, ?_, h.sq_capacity, ?_⟩
  · simpa [cmdEnginePostAdminCompletion, Shm.setCq] using h.cq_capacity
  · have hw := h.tracked.write hc
      (e := { dw0 := dw0, sqhd := (shm.sq 0).head.toUInt16, cid := cid
              status := nvmeMakeStatus sct sc w.ctx.adminCqPhase.toUInt8 })
      (by rw [hbyte]; exact nvmeMakeStatus_phase _ _ _)
    simpa [cmdEnginePostAdminCompletion, Shm.setCq, Shm.writeCqe, h.cq_capacity] using hw

/-- The loop of an abort keeps the record in order, and the phase it carries is the
expected one. -/
theorem Tracked.abortStep {mark : Nat} {mem : UInt32 → NvmeCommand} {sqid : UInt16}
    {s : AbortLoop} (hc : 0 < c) (h : Tracked c mark s.cqTail s.log)
    (hp : s.phase = nextPhase s.cqTail (since mark s.log)) (head : UInt32) :
    Tracked c mark (abortStep mem sqid c id s head).cqTail
        (abortStep mem sqid c id s head).log ∧
      (abortStep mem sqid c id s head).phase =
        nextPhase (abortStep mem sqid c id s head).cqTail
          (since mark (abortStep mem sqid c id s head).log) := by
  have hstatus : nvmeStatusP (abortEntry mem sqid s.phase head).status =
      if s.phase then 1 else 0 := makeAbortStatus_phase s.phase
  refine ⟨h.write hc (by rw [hstatus, hp]), ?_⟩
  show (if next c s.cqTail = 0 then !s.phase else s.phase) =
    nextPhase (next c s.cqTail) (since mark (s.log ++ [⟨s.cqTail, _⟩]))
  rw [since_append h.mark_le, nextPhase_snoc, CqWrite.stamp, hstatus]
  cases s.phase <;> rfl

/-- An abort that comes back, with the expected phase in the descriptor. -/
theorem abortAdminQueue_tracked {fuel mark : Nat} {a a' : Aborting} (hc : 0 < c)
    (hcq : (a.shm.cq 0).capacity = c) (hsq : (a.shm.sq 0).capacity = c)
    (h : Tracked c mark (a.shm.cq 0).tail (a.shm.cqLog 0))
    (hp : (a.shm.sq 0).head ≠ (a.shm.sq 0).tail →
      (a.shm.cq 0).phaseBit = nextPhase (a.shm.cq 0).tail (since mark (a.shm.cqLog 0)))
    (ha : abortAdminQueue fuel a = some a') :
    (a'.shm.cq 0).capacity = c ∧ (a'.shm.sq 0).capacity = c ∧
      Tracked c mark (a'.shm.cq 0).tail (a'.shm.cqLog 0) := by
  simp only [abortAdminQueue] at ha
  split_ifs at ha with hgo
  · obtain ⟨r, hr, rfl⟩ := Option.map_eq_some_iff.mp ha
    rw [hsq] at hr
    obtain ⟨_, hlog, _⟩ := walk_induct
      (I := fun s : AbortLoop => Tracked c mark s.cqTail s.log ∧
        s.phase = nextPhase s.cqTail (since mark s.log))
      (by
        rintro s i s' ⟨hs, hph⟩ hs'
        rw [← Option.some.inj hs']
        exact hs.abortStep hc hph i)
      ⟨h, hp hgo.1⟩ hr
    refine ⟨?_, ?_, ?_⟩
    · rw [abortStore_cq, Function.update_self]
      exact hcq
    · rw [abortStore_sq, Function.update_self]
      exact hsq
    · rw [abortStore_cq, abortStore_cqLog, Function.update_self, Function.update_self]
      exact hlog
  · rw [← Option.some.inj ha]
    exact ⟨hcq, hsq, h⟩

theorem AdminCqInv.abort (hc : 0 < c) (h : AdminCqInv c w shm) {fuel : Nat}
    {r : UInt32 × Driver} (hp : w.InPhase shm (.abort fuel))
    (hr : vnvmeAbortPendingUserCommands fuel w.driver = some r) :
    ∃ shm', AdminCqInv c { w with driver := r.2 } shm' := by
  simp only [vnvmeAbortPendingUserCommands, h.shm_eq] at hr
  obtain ⟨a, ha, hrest⟩ := Option.bind_eq_some_iff.mp hr
  obtain ⟨b, hb, rfl⟩ := Option.map_eq_some_iff.mp hrest
  obtain ⟨hcq, hsq, htr⟩ := abortAdminQueue_tracked (a := { shm := shm, pdo := w.driver.pdo })
    hc h.cq_capacity h.sq_capacity h.tracked hp ha
  -- the rounds for the I/O queues do not come near queue 0
  obtain ⟨hcq', hsq', hlog'⟩ := foldlM_induct
    (I := fun x : Aborting => x.shm.cq 0 = a.shm.cq 0 ∧ x.shm.sq 0 = a.shm.sq 0 ∧
      x.shm.cqLog 0 = a.shm.cqLog 0)
    (by
      rintro x i x' _ ⟨h1, h2, h3⟩ hx
      have hframe := abortIoQueue_frame hx
      have hne : 0 ≠ i + 1 := Nat.ne_of_lt (Nat.succ_pos i)
      exact ⟨(hframe.cq 0 hne).trans h1, (hframe.sq 0 hne).trans h2,
        (hframe.cqLog 0 hne).trans h3⟩)
    ⟨rfl, rfl, rfl⟩ hb
  refine ⟨b.shm, rfl, ?_, ?_, ?_⟩
  · rw [hcq']
    exact hcq
  · rw [hsq']
    exact hsq
  · rw [hcq', hlog']
    exact htr

/-- Every event keeps the invariant. -/
theorem AdminCqInv.step {w' : AdminCqRun} {e : AdminCqEvent} (hc : 0 < c)
    (h : AdminCqInv c w shm) (hp : w.InPhase shm e) (hstep : w.step shm e = some w') :
    ∃ shm', AdminCqInv c w' shm' := by
  cases e with
  | enable =>
      rw [← Option.some.inj hstep]
      refine ⟨shm, h.shm_eq, h.cq_capacity, h.sq_capacity, ?_⟩
      rw [show (shm.cq 0).tail = 0 from hp]
      exact Tracked.start c _
  | kernelPost x =>
      rw [← Option.some.inj hstep]
      exact h.kernelPost hc hp
  | serverPost cid dw0 sct sc =>
      rw [← Option.some.inj hstep]
      exact ⟨_, h.serverPost hc hp⟩
  | abort fuel =>
      obtain ⟨r, hr, rfl⟩ := Option.map_eq_some_iff.mp hstep
      exact h.abort hc hp hr
  | restart config =>
      rw [← Option.some.inj hstep]
      exact ⟨shm, h.shm_eq, h.cq_capacity, h.sq_capacity, h.tracked⟩
  | submission head tail mem =>
      rw [← Option.some.inj hstep]
      refine ⟨_, rfl, h.cq_capacity, ?_, h.tracked⟩
      simpa [Shm.submitAdmin, Shm.setSq] using h.sq_capacity

theorem AdminCqInv.reach {w₀ : AdminCqRun} {shm₀ : Shm} (hc : 0 < c)
    (h₀ : AdminCqInv c w₀ shm₀) (h : AdminCqReach AdminCqRun.InPhase w₀ w) :
    ∃ shm, AdminCqInv c w shm := by
  induction h with
  | refl => exact ⟨shm₀, h₀⟩
  | step _ hshm hp hstep ih =>
      obtain ⟨s, hs⟩ := ih
      obtain rfl := Option.some.inj (hs.shm_eq.symm.trans hshm)
      exact hs.step hc hp hstep

end Steps

/-! ## The phase rule -/

/-- A controller that has just been enabled, with the index on slot 0 and admin queues of
one size. -/
structure AdminCqStart (w : AdminCqRun) (shm : Shm) : Prop where
  shm_eq : w.driver.shm = some shm
  capacity_pos : 0 < (shm.cq 0).capacity
  capacity_eq : (shm.sq 0).capacity = (shm.cq 0).capacity
  tail : (shm.cq 0).tail = 0
  mark : w.mark = (shm.cqLog 0).length

/-- The `k`-th entry since the controller was enabled is in slot `k mod Capacity` and has
phase 1 iff `k / Capacity` is even. -/
def PhaseRule (w : AdminCqRun) : Prop :=
  ∀ shm, w.driver.shm = some shm → ∀ k x, ((shm.cqLog 0).drop w.mark)[k]? = some x →
    x.slot.toNat = k % (shm.cq 0).capacity.toNat ∧
      (nvmeStatusP x.entry.status = 1 ↔ k / (shm.cq 0).capacity.toNat % 2 = 0)

theorem AdminCqInv.phaseRule {c : UInt32} {w : AdminCqRun} {shm : Shm}
    (h : AdminCqInv c w shm) : PhaseRule w := by
  intro s hs k x hx
  obtain rfl : shm = s := Option.some.inj (h.shm_eq.symm.trans hs)
  have hstamp : (since w.mark (shm.cqLog 0))[k]? = some x.stamp := by
    rw [since, List.getElem?_map, hx]
    rfl
  obtain ⟨hat, hphase⟩ := h.tracked.lapped k x.stamp hstamp
  rw [h.cq_capacity]
  refine ⟨hat, ?_⟩
  have hbit : nvmeStatusP x.entry.status = 1 ↔ x.stamp.2 = true :=
    (decide_eq_true_iff (p := nvmeStatusP x.entry.status = 1)).symm
  rw [hbit, hphase]
  exact phaseAt_true_iff

/-- A fresh driver and a server that has just been started. -/
def enabledRun : AdminCqRun :=
  { driver := Driver.fresh .allQueues, ctx := startedEngine }

theorem enabledRun_start : AdminCqStart enabledRun vnvmeAllocateShm where
  shm_eq := rfl
  capacity_pos := by decide
  capacity_eq := rfl
  tail := rfl
  mark := rfl

end VirtualNvme
