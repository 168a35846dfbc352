import VirtualNvme.Driver.Queue
import VirtualNvme.Verification.QueueTables

/-!
# Calls of the queue functions

The four functions of `queue.c` that create and delete I/O queues, called in any order with
any arguments. They do not keep the completion queue id of a submission queue, so the run
carries it (`cqOf`), and they use `IoQueueCount` as a count where the pollers use it as the
highest id.
-/

namespace VirtualNvme

open References (Closed)
open Runs (run Throughout EachStep)

/-! ## What each function does -/

/-- The shared memory holds I/O queue descriptors. -/
def IoShm (d : Driver) (shm : Shm) : Prop :=
  d.shm = some shm ∧ shm.ioQueueDescriptorOffset ≠ 0

/-- What `VnvmeCreateIoSubmissionQueue` checks, on a shared memory that is there. -/
structure SqCallOk (d : Driver) (queueId cqId : UInt16) : Prop where
  id : badIoQueueId d.config queueId = false
  onId : badIoQueueId d.config cqId = false
  onCreated : (d.pdo.cq cqId.toNat).created = true
  isNew : (d.pdo.sq queueId.toNat).created = false
  shm : ∃ shm, IoShm d shm

/-- What `VnvmeCreateIoCompletionQueue` checks. -/
structure CqCallOk (d : Driver) (queueId : UInt16) : Prop where
  id : badIoQueueId d.config queueId = false
  isNew : (d.pdo.cq queueId.toNat).created = false
  shm : ∃ shm, IoShm d shm

/-- What `VnvmeDeleteIoSubmissionQueue` checks. -/
structure SqDeleteOk (d : Driver) (queueId : UInt16) : Prop where
  id : badIoQueueId d.config queueId = false
  created : (d.pdo.sq queueId.toNat).created = true

/-- What `VnvmeDeleteIoCompletionQueue` checks: the submission queue with the same id must be
gone. -/
structure CqDeleteOk (d : Driver) (queueId : UInt16) : Prop where
  id : badIoQueueId d.config queueId = false
  created : (d.pdo.cq queueId.toNat).created = true
  free : (d.pdo.sq queueId.toNat).created = false

/-- The state of a new submission queue. -/
def newSqState (d : Driver) (queueId queueSize : UInt16) (prp : UInt64) : QueueState :=
  { d.pdo.sq queueId.toNat with
    baseAddress := prp, size := queueSize.toUInt32, head := 0, tail := 0, created := true }

/-- The state of a new completion queue. -/
def newCqState (d : Driver) (queueId queueSize : UInt16) (prp : UInt64) : QueueState :=
  { d.pdo.cq queueId.toNat with
    baseAddress := prp, size := queueSize.toUInt32, head := 0, tail := 0, phaseTag := true,
    created := true }

/-- The descriptor of a new submission queue. -/
def newSqDesc (shm : Shm) (queueId queueSize : UInt16) : QueueDescriptor :=
  { shm.sq queueId.toNat with
    offset := ioQueueArea shm + (queueId.toUInt32 - 1) * ioQueuePairSize, entrySize := 64,
    capacity := queueSize.toUInt32, head := 0, tail := 0, valid := 1,
    capacity_le := toUInt32_le_max queueSize }

/-- The descriptor of a new completion queue. -/
def newCqDesc (shm : Shm) (queueId queueSize : UInt16) : QueueDescriptor :=
  { shm.cq queueId.toNat with
    offset := ioQueueArea shm + (queueId.toUInt32 - 1) * ioQueuePairSize + 256 * 64,
    entrySize := 16, capacity := queueSize.toUInt32, head := 0, tail := 0, phase := 1,
    valid := 1, capacity_le := toUInt32_le_max queueSize,
    phase_le := QueueDescriptor.startPhase_le }

/-- The driver with a new submission queue. -/
def withNewSq (d : Driver) (shm : Shm) (queueId queueSize : UInt16) (prp : UInt64) : Driver :=
  let mem := fun i =>
    if i < queueSize.toUInt32 then {} else shm.sqMem queueId.toNat i
  { d with
    shm := some { shm.setSq queueId.toNat (newSqDesc shm queueId queueSize) with
      sqMem := Function.update shm.sqMem queueId.toNat mem }
    pdo := { d.pdo.setSq queueId.toNat (newSqState d queueId queueSize prp) with
      ioQueueCount := d.pdo.ioQueueCount + 1 } }

/-- The driver with a new completion queue. -/
def withNewCq (d : Driver) (shm : Shm) (queueId queueSize : UInt16) (prp : UInt64) : Driver :=
  { d with
    shm := some { shm.setCq queueId.toNat (newCqDesc shm queueId queueSize) with
      cqLog := Function.update shm.cqLog queueId.toNat [] }
    pdo := d.pdo.setCq queueId.toNat (newCqState d queueId queueSize prp) }

/-- The shared memory after the descriptor of a submission queue is cleared. -/
def clearSqDesc (queueId : UInt16) (shm : Shm) : Shm :=
  if shm.ioQueueDescriptorOffset = 0 then shm
  else shm.setSq queueId.toNat { shm.sq queueId.toNat with valid := 0, head := 0, tail := 0 }

/-- The shared memory after the descriptor of a completion queue is cleared. -/
def clearCqDesc (queueId : UInt16) (shm : Shm) : Shm :=
  if shm.ioQueueDescriptorOffset = 0 then shm
  else shm.setCq queueId.toNat
    { (shm.cq queueId.toNat).setTailPhase 0 true with valid := 0, head := 0 }

/-- The driver without a submission queue. -/
def withoutSq (d : Driver) (queueId : UInt16) : Driver :=
  let count := d.pdo.ioQueueCount
  { d with
    shm := d.shm.map (clearSqDesc queueId)
    pdo := { d.pdo.setSq queueId.toNat {} with
      ioQueueCount := if count > 0 then count - 1 else count } }

/-- The driver without a completion queue. -/
def withoutCq (d : Driver) (queueId : UInt16) : Driver :=
  { d with shm := d.shm.map (clearCqDesc queueId), pdo := d.pdo.setCq queueId.toNat {} }

/-- A call that is refused changes nothing. -/
def CallRefused (d : Driver) (r : NtStatus × Driver) : Prop := r.1 ≠ .success ∧ r.2 = d

theorem callRefused_mk {d : Driver} {status : NtStatus} (h : status ≠ .success) :
    CallRefused d (status, d) := ⟨h, rfl⟩

theorem CallRefused.kept {α : Type*} {F : Driver → α} {d : Driver} {r : NtStatus × Driver}
    (h : CallRefused d r) : F r.2 = F d :=
  congrArg F h.2

section Calls

variable {d : Driver} {shm : Shm} {queueId cqId : UInt16}

theorem vnvmeCreateIoSubmissionQueue_ok (h : SqCallOk d queueId cqId) (hshm : IoShm d shm)
    (queueSize : UInt16) (prp : UInt64) :
    vnvmeCreateIoSubmissionQueue d queueId queueSize prp cqId =
      (.success, withNewSq d shm queueId queueSize prp) := by
  simp [vnvmeCreateIoSubmissionQueue, h.id, h.onId, h.onCreated, h.isNew, hshm.1, hshm.2,
    withNewSq, newSqDesc, newSqState]

theorem vnvmeCreateIoSubmissionQueue_refused (h : ¬ SqCallOk d queueId cqId)
    (queueSize : UInt16) (prp : UInt64) :
    CallRefused d (vnvmeCreateIoSubmissionQueue d queueId queueSize prp cqId) := by
  unfold vnvmeCreateIoSubmissionQueue
  dsimp only
  split_ifs with hid hcq hcreated hnew
  · exact callRefused_mk (by decide)
  · exact callRefused_mk (by decide)
  · exact callRefused_mk (by decide)
  · exact callRefused_mk (by decide)
  · cases hshm : d.shm with
    | none => exact callRefused_mk (by decide)
    | some shm =>
        dsimp only
        split_ifs with hoff
        · exact callRefused_mk (by decide)
        · refine absurd ?_ h
          exact ⟨eq_false_of_ne_true hid, eq_false_of_ne_true hcq, by simpa using hcreated,
            eq_false_of_ne_true hnew, shm, hshm, hoff⟩

theorem vnvmeCreateIoCompletionQueue_ok (h : CqCallOk d queueId) (hshm : IoShm d shm)
    (queueSize : UInt16) (prp : UInt64) :
    vnvmeCreateIoCompletionQueue d queueId queueSize prp =
      (.success, withNewCq d shm queueId queueSize prp) := by
  simp [vnvmeCreateIoCompletionQueue, h.id, h.isNew, hshm.1, hshm.2, withNewCq, newCqDesc,
    newCqState]

theorem vnvmeCreateIoCompletionQueue_refused (h : ¬ CqCallOk d queueId)
    (queueSize : UInt16) (prp : UInt64) :
    CallRefused d (vnvmeCreateIoCompletionQueue d queueId queueSize prp) := by
  unfold vnvmeCreateIoCompletionQueue
  dsimp only
  split_ifs with hid hnew
  · exact callRefused_mk (by decide)
  · exact callRefused_mk (by decide)
  · cases hshm : d.shm with
    | none => exact callRefused_mk (by decide)
    | some shm =>
        dsimp only
        split_ifs with hoff
        · exact callRefused_mk (by decide)
        · refine absurd ?_ h
          exact ⟨eq_false_of_ne_true hid, eq_false_of_ne_true hnew, shm, hshm, hoff⟩

theorem vnvmeDeleteIoSubmissionQueue_ok (h : SqDeleteOk d queueId) :
    vnvmeDeleteIoSubmissionQueue d queueId = (.success, withoutSq d queueId) := by
  simp only [vnvmeDeleteIoSubmissionQueue, h.id, h.created]
  rfl

theorem vnvmeDeleteIoSubmissionQueue_refused (h : ¬ SqDeleteOk d queueId) :
    CallRefused d (vnvmeDeleteIoSubmissionQueue d queueId) := by
  by_cases hid : badIoQueueId d.config queueId = true
  · rw [vnvmeDeleteIoSubmissionQueue, if_pos hid]
    exact callRefused_mk (by decide)
  by_cases hcreated : (d.pdo.sq queueId.toNat).created = true
  · exact absurd ⟨eq_false_of_ne_true hid, hcreated⟩ h
  · rw [vnvmeDeleteIoSubmissionQueue, if_neg hid, if_pos (by simpa using hcreated)]
    exact callRefused_mk (by decide)

/-- An id that is not bad is that of an I/O queue. -/
theorem badIoQueueId_false {cfg : Config} {q : UInt16} (h : badIoQueueId cfg q = false) :
    q.toNat ≠ 0 ∧ q.toNat ≤ 16 := by
  simp only [badIoQueueId, Bool.or_eq_false_iff, decide_eq_false_iff_not] at h
  have h0 : q.toNat ≠ 0 := fun hz => h.1 (UInt16.toNat_inj.mp hz)
  have hle : ¬ cfg.maxIOQueues.toNat < q.toUInt32.toNat := h.2
  have hmax : cfg.maxIOQueues.toNat ≤ 16 := cfg.maxIOQueues_le
  rw [UInt16.toNat_toUInt32] at hle
  omega

/-- The scan over the submission queues only sees the one with the same id. -/
theorem sameId_scan {p : PdoContext} {q : Nat} (h0 : q ≠ 0) (h16 : q ≤ 16) :
    ((List.range 16).any fun i => (p.sq (i + 1)).created && i + 1 == q) = (p.sq q).created := by
  rw [Bool.eq_iff_iff, List.any_eq_true]
  constructor
  · rintro ⟨i, -, hi⟩
    rw [Bool.and_eq_true, beq_iff_eq] at hi
    rw [← hi.2]
    exact hi.1
  · intro hcreated
    obtain ⟨i, rfl⟩ := Nat.exists_eq_succ_of_ne_zero h0
    exact ⟨i, List.mem_range.mpr h16, by simp [hcreated]⟩

theorem vnvmeDeleteIoCompletionQueue_ok (h : CqDeleteOk d queueId) :
    vnvmeDeleteIoCompletionQueue d queueId = (.success, withoutCq d queueId) := by
  obtain ⟨h0, h16⟩ := badIoQueueId_false h.id
  simp only [vnvmeDeleteIoCompletionQueue, h.id, h.created, sameId_scan h0 h16, h.free]
  rfl

theorem vnvmeDeleteIoCompletionQueue_refused (h : ¬ CqDeleteOk d queueId) :
    CallRefused d (vnvmeDeleteIoCompletionQueue d queueId) := by
  by_cases hid : badIoQueueId d.config queueId = true
  · rw [vnvmeDeleteIoCompletionQueue, if_pos hid]
    exact callRefused_mk (by decide)
  obtain ⟨h0, h16⟩ := badIoQueueId_false (eq_false_of_ne_true hid)
  by_cases hcreated : (d.pdo.cq queueId.toNat).created = true
  · by_cases hbusy : (d.pdo.sq queueId.toNat).created = true
    · rw [vnvmeDeleteIoCompletionQueue, if_neg hid, if_neg (by simpa using hcreated),
        if_pos (by rw [sameId_scan h0 h16]; exact hbusy)]
      exact callRefused_mk (by decide)
    · exact absurd ⟨eq_false_of_ne_true hid, hcreated, eq_false_of_ne_true hbusy⟩ h
  · rw [vnvmeDeleteIoCompletionQueue, if_neg hid, if_pos (by simpa using hcreated)]
    exact callRefused_mk (by decide)

end Calls

/-! ## Runs of calls -/

/-- One call of a queue function. -/
inductive QueueCall where
  | createCq (queueId queueSize : UInt16) (prp : UInt64)
  | createSq (queueId queueSize : UInt16) (prp : UInt64) (cqId : UInt16)
  | deleteSq (queueId : UInt16)
  | deleteCq (queueId : UInt16)
  deriving Repr, DecidableEq

/-- The function behind a call. -/
def QueueCall.exec (d : Driver) : QueueCall → NtStatus × Driver
  | .createCq queueId queueSize prp => vnvmeCreateIoCompletionQueue d queueId queueSize prp
  | .createSq queueId queueSize prp cqId =>
    vnvmeCreateIoSubmissionQueue d queueId queueSize prp cqId
  | .deleteSq queueId => vnvmeDeleteIoSubmissionQueue d queueId
  | .deleteCq queueId => vnvmeDeleteIoCompletionQueue d queueId

/-- A driver, and for every submission queue the `CqId` of the call that created it last. -/
structure QueueCalls where
  driver : Driver
  cqOf : Nat → UInt16 := fun _ => 0

/-- The `CqId`s on record after a call. -/
def recordCqId (cqOf : Nat → UInt16) (status : NtStatus) : QueueCall → Nat → UInt16
  | .createSq queueId _ _ cqId =>
    if status = .success then Function.update cqOf queueId.toNat cqId else cqOf
  | _ => cqOf

def queueCallStep (s : QueueCalls) (c : QueueCall) : QueueCalls :=
  let r := c.exec s.driver
  { driver := r.2, cqOf := recordCqId s.cqOf r.1 c }

/-- A submission queue that exists refers to the completion queue it was created with. -/
def callRef (s : QueueCalls) (q : Nat) : Option Nat :=
  if q ≠ 0 ∧ (s.driver.pdo.sq q).created = true then some (s.cqOf q).toNat else none

/-- No completion queue is missing, and the loops over `1 .. IoQueueCount` reach every
submission queue. -/
structure QueueCallsWf (s : QueueCalls) : Prop where
  refs : Closed (ioCqLive s.driver.pdo) (callRef s)
  count : ∀ q, q ≠ 0 → (s.driver.pdo.sq q).created = true →
    q ≤ s.driver.pdo.ioQueueCount.toNat

/-- The calls that keep it so. A submission queue takes the next id, the last one is deleted
first, and a completion queue is deleted when no submission queue was created with it. -/
def QueueCallOk (s : QueueCalls) : QueueCall → Prop
  | .createCq _ _ _ => True
  | .createSq queueId _ _ cqId => SqCallOk s.driver queueId cqId →
      queueId.toNat ≤ s.driver.pdo.ioQueueCount.toNat + 1
  | .deleteSq queueId => SqDeleteOk s.driver queueId →
      queueId = s.driver.pdo.ioQueueCount
  | .deleteCq queueId => CqDeleteOk s.driver queueId →
      ∀ q, callRef s q ≠ some queueId.toNat

/-- As long as all calls are of that kind, the submission queues are `1 .. IoQueueCount`. -/
structure DenseQueues (s : QueueCalls) : Prop where
  refs : Closed (ioCqLive s.driver.pdo) (callRef s)
  ids : ∀ q, q ≠ 0 →
    ((s.driver.pdo.sq q).created = true ↔ q ≤ s.driver.pdo.ioQueueCount.toNat)
  count : s.driver.pdo.ioQueueCount.toNat ≤ 16

theorem DenseQueues.wf {s : QueueCalls} (h : DenseQueues s) : QueueCallsWf s :=
  ⟨h.refs, fun q hq hcreated => (h.ids q hq).mp hcreated⟩

/-! ## One call -/

/-- A refused call changes nothing, the record included. -/
theorem queueCallStep_refused (s : QueueCalls) (c : QueueCall)
    (h : CallRefused s.driver (c.exec s.driver)) : queueCallStep s c = s := by
  have hrec : recordCqId s.cqOf (c.exec s.driver).1 c = s.cqOf := by
    cases c with
    | createSq => exact if_neg h.1
    | createCq => rfl
    | deleteSq => rfl
    | deleteCq => rfl
  simp only [queueCallStep, hrec, h.2]

theorem callRef_new (s : QueueCalls) {shm : Shm} {queueId : UInt16} (h0 : queueId.toNat ≠ 0)
    (queueSize : UInt16) (prp : UInt64) (cqId : UInt16) :
    callRef ⟨withNewSq s.driver shm queueId queueSize prp,
        Function.update s.cqOf queueId.toNat cqId⟩ =
      Function.update (callRef s) queueId.toNat (some cqId.toNat) := by
  funext q
  by_cases hq : q = queueId.toNat
  · subst hq
    simp [callRef, withNewSq, PdoContext.setSq, newSqState, h0]
  · simp [callRef, withNewSq, PdoContext.setSq, hq]

theorem callRef_deleted (s : QueueCalls) (queueId : UInt16) :
    callRef ⟨withoutSq s.driver queueId, s.cqOf⟩ =
      Function.update (callRef s) queueId.toNat none := by
  funext q
  by_cases hq : q = queueId.toNat
  · subst hq
    simp [callRef, withoutSq, PdoContext.setSq]
  · simp [callRef, withoutSq, PdoContext.setSq, hq]

theorem toNat_add_one {n : UInt16} (h : n.toNat ≤ 16) : (n + 1).toNat = n.toNat + 1 := by
  rw [UInt16.toNat_add]
  exact Nat.mod_eq_of_lt (by simp; omega)

/-- A new submission queue. -/
theorem dense_createSq {s : QueueCalls} (hs : DenseQueues s) {queueId cqId : UInt16}
    (hok : SqCallOk s.driver queueId cqId) (shm : Shm) (queueSize : UInt16) (prp : UInt64)
    (hid : queueId.toNat = s.driver.pdo.ioQueueCount.toNat + 1) :
    DenseQueues ⟨withNewSq s.driver shm queueId queueSize prp,
      Function.update s.cqOf queueId.toNat cqId⟩ := by
  obtain ⟨h0, h16⟩ := badIoQueueId_false hok.id
  have hcount : (s.driver.pdo.ioQueueCount + 1).toNat = s.driver.pdo.ioQueueCount.toNat + 1 :=
    toNat_add_one hs.count
  constructor
  · rw [callRef_new s h0]
    exact hs.refs.addRef _ ⟨(badIoQueueId_false hok.onId).1, hok.onCreated⟩
  · refine (Function.forall_update_iff s.driver.pdo.sq fun q st => q ≠ 0 →
      (st.created = true ↔ q ≤ (s.driver.pdo.ioQueueCount + 1).toNat)).mpr ⟨?_, ?_⟩
    · exact fun _ => iff_of_true rfl (by omega)
    · intro q hq hq0
      rw [hs.ids q hq0]
      omega
  · show (s.driver.pdo.ioQueueCount + 1).toNat ≤ 16
    omega

theorem withoutSq_count (d : Driver) (queueId : UInt16) :
    (withoutSq d queueId).pdo.ioQueueCount.toNat = d.pdo.ioQueueCount.toNat - 1 := by
  show (if d.pdo.ioQueueCount > 0 then d.pdo.ioQueueCount - 1
    else d.pdo.ioQueueCount).toNat = _
  split_ifs with hpos
  · exact UInt16.toNat_sub_of_le _ _ (Nat.succ_le_of_lt hpos)
  · have h0 : ¬ 0 < d.pdo.ioQueueCount.toNat := hpos
    omega

/-- The last submission queue goes. -/
theorem dense_deleteSq {s : QueueCalls} (hs : DenseQueues s) {queueId : UInt16}
    (hok : SqDeleteOk s.driver queueId) (hlast : queueId = s.driver.pdo.ioQueueCount) :
    DenseQueues ⟨withoutSq s.driver queueId, s.cqOf⟩ := by
  obtain ⟨h0, -⟩ := badIoQueueId_false hok.id
  have hcount := withoutSq_count s.driver queueId
  have hnat : queueId.toNat = s.driver.pdo.ioQueueCount.toNat := by rw [hlast]
  constructor
  · rw [callRef_deleted]
    exact hs.refs.removeRef _
  · refine (Function.forall_update_iff s.driver.pdo.sq fun q st => q ≠ 0 →
      (st.created = true ↔ q ≤ (withoutSq s.driver queueId).pdo.ioQueueCount.toNat)).mpr ⟨?_, ?_⟩
    · exact fun _ => iff_of_false Bool.false_ne_true (by omega)
    · intro q hq hq0
      rw [hs.ids q hq0]
      omega
  · have := hs.count
    show (withoutSq s.driver queueId).pdo.ioQueueCount.toNat ≤ 16
    omega

theorem dense_createCq {s : QueueCalls} (hs : DenseQueues s) {queueId : UInt16}
    (hok : CqCallOk s.driver queueId) (shm : Shm) (queueSize : UInt16) (prp : UInt64) :
    DenseQueues ⟨withNewCq s.driver shm queueId queueSize prp, s.cqOf⟩ := by
  refine ⟨?_, hs.ids, hs.count⟩
  show Closed (ioCqLive (s.driver.pdo.setCq _ _)) (callRef s)
  rw [ioCqLive_setCq _ (badIoQueueId_false hok.id).1]
  exact hs.refs.addTarget _ rfl

/-- A completion queue can go exactly if no submission queue was created with it. -/
theorem refs_deleteCq_iff {s : QueueCalls} (hs : DenseQueues s) {queueId : UInt16}
    (hok : CqDeleteOk s.driver queueId) :
    Closed (ioCqLive (withoutCq s.driver queueId).pdo)
        (callRef ⟨withoutCq s.driver queueId, s.cqOf⟩) ↔
      ∀ q, callRef s q ≠ some queueId.toNat := by
  show Closed (ioCqLive (s.driver.pdo.setCq _ _)) (callRef s) ↔ _
  rw [ioCqLive_setCq _ (badIoQueueId_false hok.id).1]
  exact hs.refs.removeTarget_iff _ Bool.false_ne_true

/-- After an accepted call the record is that of the call. -/
theorem queueCallStep_ok (s : QueueCalls) (c : QueueCall) {d : Driver}
    (h : c.exec s.driver = (.success, d)) :
    queueCallStep s c = ⟨d, recordCqId s.cqOf .success c⟩ := by
  simp only [queueCallStep, h]

theorem queueCall_good {s : QueueCalls} {c : QueueCall} (hs : DenseQueues s)
    (hc : QueueCallOk s c) : DenseQueues (queueCallStep s c) := by
  cases c with
  | createCq queueId queueSize prp =>
      by_cases hok : CqCallOk s.driver queueId
      · obtain ⟨shm, hshm⟩ := hok.shm
        rw [queueCallStep_ok s (.createCq queueId queueSize prp)
          (vnvmeCreateIoCompletionQueue_ok hok hshm queueSize prp)]
        exact dense_createCq hs hok shm queueSize prp
      · rw [queueCallStep_refused s (.createCq queueId queueSize prp)
          (vnvmeCreateIoCompletionQueue_refused hok queueSize prp)]
        exact hs
  | createSq queueId queueSize prp cqId =>
      by_cases hok : SqCallOk s.driver queueId cqId
      · obtain ⟨shm, hshm⟩ := hok.shm
        rw [queueCallStep_ok s (.createSq queueId queueSize prp cqId)
          (vnvmeCreateIoSubmissionQueue_ok hok hshm queueSize prp)]
        refine dense_createSq hs hok shm queueSize prp ?_
        have hnew : ¬ queueId.toNat ≤ s.driver.pdo.ioQueueCount.toNat := by
          rw [← hs.ids _ (badIoQueueId_false hok.id).1, hok.isNew]
          exact Bool.false_ne_true
        have hle := hc hok
        omega
      · rw [queueCallStep_refused s (.createSq queueId queueSize prp cqId)
          (vnvmeCreateIoSubmissionQueue_refused hok queueSize prp)]
        exact hs
  | deleteSq queueId =>
      by_cases hok : SqDeleteOk s.driver queueId
      · rw [queueCallStep_ok s (.deleteSq queueId) (vnvmeDeleteIoSubmissionQueue_ok hok)]
        exact dense_deleteSq hs hok (hc hok)
      · rw [queueCallStep_refused s (.deleteSq queueId)
          (vnvmeDeleteIoSubmissionQueue_refused hok)]
        exact hs
  | deleteCq queueId =>
      by_cases hok : CqDeleteOk s.driver queueId
      · rw [queueCallStep_ok s (.deleteCq queueId) (vnvmeDeleteIoCompletionQueue_ok hok)]
        exact ⟨(refs_deleteCq_iff hs hok).mpr (hc hok), hs.ids, hs.count⟩
      · rw [queueCallStep_refused s (.deleteCq queueId)
          (vnvmeDeleteIoCompletionQueue_refused hok)]
        exact hs

theorem queueCall_bad {s : QueueCalls} {c : QueueCall} (hs : DenseQueues s)
    (hc : ¬ QueueCallOk s c) : ¬ QueueCallsWf (queueCallStep s c) := by
  intro hwf
  apply hc
  cases c with
  | createCq queueId queueSize prp => exact trivial
  | createSq queueId queueSize prp cqId =>
      -- the new queue must be covered by the count, which has grown by one
      intro hok
      obtain ⟨shm, hshm⟩ := hok.shm
      rw [queueCallStep_ok s (.createSq queueId queueSize prp cqId)
          (vnvmeCreateIoSubmissionQueue_ok hok hshm queueSize prp)] at hwf
      have hle := hwf.count queueId.toNat (badIoQueueId_false hok.id).1
        (by simp [withNewSq, PdoContext.setSq, newSqState])
      have hcount : (s.driver.pdo.ioQueueCount + 1).toNat = _ := toNat_add_one hs.count
      exact hle.trans hcount.le
  | deleteSq queueId =>
      -- unless it was the last one, the last one is still there and the count has shrunk
      intro hok
      by_contra hne
      rw [queueCallStep_ok s (.deleteSq queueId) (vnvmeDeleteIoSubmissionQueue_ok hok)] at hwf
      obtain ⟨h0, -⟩ := badIoQueueId_false hok.id
      have hle := (hs.ids _ h0).mp hok.created
      have hnat : s.driver.pdo.ioQueueCount.toNat ≠ queueId.toNat := fun h =>
        hne (UInt16.toNat_inj.mp h.symm)
      have hpos : s.driver.pdo.ioQueueCount.toNat ≠ 0 := by omega
      have hlast : _ ≤ (withoutSq s.driver queueId).pdo.ioQueueCount.toNat :=
        hwf.count s.driver.pdo.ioQueueCount.toNat hpos (by
          simp only [withoutSq, PdoContext.setSq, Function.update_of_ne hnat]
          exact (hs.ids _ hpos).mpr le_rfl)
      have hcount := withoutSq_count s.driver queueId
      omega
  | deleteCq queueId =>
      intro hok
      rw [queueCallStep_ok s (.deleteCq queueId) (vnvmeDeleteIoCompletionQueue_ok hok)] at hwf
      exact (refs_deleteCq_iff hs hok).mp hwf.refs

theorem NoIoQueues.dense {s : QueueCalls} (h : NoIoQueues s.driver.pdo) : DenseQueues s := by
  constructor
  · apply Closed.empty
    intro q
    rw [callRef, if_neg]
    rintro ⟨hq, hcreated⟩
    rw [h.sq q hq] at hcreated
    cases hcreated
  · intro q hq
    rw [h.sq q hq, h.count]
    exact iff_of_false Bool.false_ne_true (by simp; omega)
  · rw [h.count]
    decide

/-- **When the queue functions keep their tables**: in a run of calls that starts without I/O
queues, the completion queue of every submission queue stays and `IoQueueCount` covers every
submission queue, exactly if submission queues are created with the ids 1, 2, 3, … and
deleted in the opposite order, and no completion queue is deleted that a submission queue
was created with. -/
theorem queueCalls_wf_iff (s : QueueCalls) (h : NoIoQueues s.driver.pdo)
    (calls : List QueueCall) :
    Throughout queueCallStep QueueCallsWf s calls ↔
      EachStep queueCallStep QueueCallOk s calls := by
  refine Runs.throughout_iff (J := DenseQueues) ?_ ?_ ?_ h.dense calls
  · exact fun s hs => hs.wf
  · exact fun s c hs hc => queueCall_good hs hc
  · exact fun s c hs hc => queueCall_bad hs hc

/-- A fresh driver, before the first call. -/
def freshCalls : QueueCalls := { driver := Driver.fresh Config.allQueues }

/-- Submission queue 2 on completion queue 1; then completion queue 1 goes. -/
def sparseCalls : List QueueCall :=
  [.createCq 1 64 0, .createSq 2 64 0 1, .deleteCq 1]

theorem queueCalls_broken :
    NoIoQueues freshCalls.driver.pdo ∧
      ¬ Closed (ioCqLive (run queueCallStep freshCalls sparseCalls).driver.pdo)
        (callRef (run queueCallStep freshCalls sparseCalls)) ∧
      ((run queueCallStep freshCalls sparseCalls).driver.pdo.sq 2).created = true ∧
      ¬ 2 ≤ (run queueCallStep freshCalls sparseCalls).driver.pdo.ioQueueCount.toNat := by
  refine ⟨noIoQueues_fresh _, fun h => ?_, by decide, by decide⟩
  have hlive := h 2 1 (by decide)
  exact absurd hlive (by unfold ioCqLive; decide)

/-- The same queues with the next free id, and deleted from the top. -/
theorem queueCalls_wf_example :
    NoIoQueues freshCalls.driver.pdo ∧
      Throughout queueCallStep QueueCallsWf freshCalls
        [.createCq 1 64 0, .createSq 1 64 0 1, .deleteSq 1] := by
  refine ⟨noIoQueues_fresh _, ?_⟩
  apply (queueCalls_wf_iff freshCalls (noIoQueues_fresh _) _).mpr
  refine Runs.eachStep_cons.mpr ⟨trivial, Runs.eachStep_cons.mpr ⟨?_,
    Runs.eachStep_cons.mpr ⟨?_, Runs.eachStep_nil⟩⟩⟩
  · exact fun _ => by decide
  · exact fun _ => by decide

end VirtualNvme
