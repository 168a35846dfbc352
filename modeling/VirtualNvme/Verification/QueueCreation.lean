import VirtualNvme.Verification.QueueCalls

/-!
# Two ways to create an I/O queue

`VnvmeCreateIoSubmissionQueue` and `VnvmeCreateIoCompletionQueue` set up the descriptor in
shared memory along with the controller's own state. The admin commands Create I/O SQ and
Create I/O CQ only do the latter, and they check the id against the compiled-in limit, not
against the configured one. Such a queue works only if somebody has prepared its descriptor.
-/

namespace VirtualNvme

open Runs (run)

/-! ## A queue that works -/

/-- The descriptors of one kind of queue. -/
abbrev DescOf := Shm → Nat → QueueDescriptor

/-- The descriptor of queue `q` is valid and has the given capacity. -/
def DescriptorReady (desc : DescOf) (d : Driver) (q : UInt16) (size : UInt32) : Prop :=
  ∃ shm, d.shm = some shm ∧ (desc shm q.toNat).valid ≠ 0 ∧ (desc shm q.toNat).capacity = size

/-- A submission queue works: its descriptor is ready, and `VnvmeFetchCommand` takes the id
(it returns a command or reports the queue as empty). -/
def SqOperational (d : Driver) (q : UInt16) (size : UInt32) : Prop :=
  DescriptorReady Shm.sq d q size ∧
    ((vnvmeFetchCommand d q).1 = .success ∨ (vnvmeFetchCommand d q).1 = .noMoreEntries)

/-- A completion queue works: its descriptor is ready, and `VnvmePostCompletion` takes the
id. -/
def CqOperational (d : Driver) (q : UInt16) (size : UInt32) : Prop :=
  DescriptorReady Shm.cq d q size ∧ ∀ c, (vnvmePostCompletion d q c).1 = .success

/-- What a queue needs besides `Created`: an id within the configured limit, and a descriptor
that is ready. -/
def Prepared (desc : DescOf) (d : Driver) (q : UInt16) (size : UInt32) : Prop :=
  q.toUInt32 ≤ d.config.maxIOQueues ∧ ∃ shm, IoShm d shm ∧
    (desc shm q.toNat).valid ≠ 0 ∧ (desc shm q.toNat).capacity = size

/-- A created I/O queue with an accepted descriptor of that capacity is a prepared one. -/
theorem accepted_ready_iff {desc : DescOf} {state : PdoContext → Nat → QueueState} {d : Driver}
    {q : UInt16} (hq : q ≠ 0) {size : UInt32} :
    (DescriptorReady desc d q size ∧ ∃ shm, QueueAccepted desc state d q shm) ↔
      (state d.pdo q.toNat).created = true ∧ Prepared desc d q size := by
  constructor
  · rintro ⟨⟨shm, hshm, hvalid, hcap⟩, shm', hshm', hio, -⟩
    rw [hshm] at hshm'
    cases hshm'
    obtain ⟨hle, hcreated, hoff⟩ := hio hq
    exact ⟨hcreated, hle, shm, ⟨hshm, hoff⟩, hvalid, hcap⟩
  · rintro ⟨hcreated, hle, shm, ⟨hshm, hoff⟩, hvalid, hcap⟩
    exact ⟨⟨shm, hshm, hvalid, hcap⟩, shm, hshm, fun _ => ⟨hle, hcreated, hoff⟩, hvalid⟩

theorem sqOperational_iff {d : Driver} {q : UInt16} (hq : q ≠ 0) {size : UInt32} :
    SqOperational d q size ↔ (d.pdo.sq q.toNat).created = true ∧ Prepared Shm.sq d q size := by
  simp only [SqOperational, vnvmeFetchCommand_accepts_iff, sqCheck_ok_iff]
  exact accepted_ready_iff hq

theorem cqOperational_iff {d : Driver} {q : UInt16} (hq : q ≠ 0) {size : UInt32} :
    CqOperational d q size ↔ (d.pdo.cq q.toNat).created = true ∧ Prepared Shm.cq d q size := by
  have hall : (∀ c, (vnvmePostCompletion d q c).1 = .success) ↔ ∃ shm, cqCheck d q = .ok shm :=
    ⟨fun h => vnvmePostCompletion_accepts_iff.mp (h {}),
      fun h _ => vnvmePostCompletion_accepts_iff.mpr h⟩
  simp only [CqOperational, hall, cqCheck_ok_iff]
  exact accepted_ready_iff hq

/-! ## An admin command prepares nothing -/

/-- What `Prepared` reads of the shared memory. -/
def setup (desc : DescOf) (shm : Shm) : UInt32 × (Nat → UInt32 × UInt32) :=
  (shm.ioQueueDescriptorOffset, fun q => ((desc shm q).valid, (desc shm q).capacity))

theorem prepared_congr {desc : DescOf} {d d' : Driver} (hcfg : d'.config = d.config)
    (hshm : d'.shm.map (setup desc) = d.shm.map (setup desc)) {q : UInt16} {size : UInt32}
    (h : Prepared desc d q size) : Prepared desc d' q size := by
  obtain ⟨hle, shm, ⟨hs, hoff⟩, hvalid, hcap⟩ := h
  rw [hs, Option.map_some, Option.map_eq_some_iff] at hshm
  obtain ⟨shm', hs', heq⟩ := hshm
  have hoff' : shm'.ioQueueDescriptorOffset = shm.ioQueueDescriptorOffset :=
    congrArg Prod.fst heq
  have hdesc : ((desc shm' q.toNat).valid, (desc shm' q.toNat).capacity) =
      ((desc shm q.toNat).valid, (desc shm q.toNat).capacity) :=
    congrFun (congrArg Prod.snd heq) q.toNat
  rw [Prod.mk.injEq] at hdesc
  refine ⟨by rwa [hcfg], shm', ⟨hs', ?_⟩, ?_, ?_⟩
  · rwa [hoff']
  · rwa [hdesc.1]
  · rw [hdesc.2, hcap]

theorem vnvmePostCompletion_setup (desc : DescOf) (hdesc : desc = Shm.sq ∨ desc = Shm.cq)
    (d : Driver) (q : UInt16) (c : NvmeCompletion) :
    (vnvmePostCompletion d q c).2.shm.map (setup desc) = d.shm.map (setup desc) := by
  rcases vnvmePostCompletion_cases d q c with ⟨-, heq⟩ | ⟨shm, hok, heq⟩
  · rw [heq]
  · rw [heq, (cqCheck_ok_iff.mp hok).1]
    rcases hdesc with rfl | rfl
    · rfl
    · refine congrArg some (Prod.ext rfl (funext fun i => ?_))
      by_cases hi : i = q.toNat
      · subst hi
        simp [setup, Shm.setCq]
      · simp [setup, Shm.setCq, hi]

theorem adminStep_setup (desc : DescOf) (hdesc : desc = Shm.sq ∨ desc = Shm.cq) (d : Driver)
    (cmd : NvmeCommand) : (adminStep d cmd).shm.map (setup desc) = d.shm.map (setup desc) :=
  vnvmeProcessAdminCommand_kept (vnvmePostCompletion_setup desc hdesc) d cmd

theorem adminStep_config (d : Driver) (cmd : NvmeCommand) :
    (adminStep d cmd).config = d.config := by
  show (postAdminOutcome (adminHandled d cmd) cmd.cid
    (handleAdminCommand d.config d.pdo d.os cmd).completion).2.config = d.config
  cases (handleAdminCommand d.config d.pdo d.os cmd).completion with
  | none => rfl
  | some c =>
      show (vnvmePostCompletion (adminHandled d cmd) 0 _).2.config = d.config
      rcases vnvmePostCompletion_cases (adminHandled d cmd) 0 _ with ⟨-, heq⟩ | ⟨shm, -, heq⟩
      · rw [heq]
        rfl
      · rw [heq]
        rfl

theorem adminStep_prepared_iff {desc : DescOf} (hdesc : desc = Shm.sq ∨ desc = Shm.cq)
    (d : Driver) (cmd : NvmeCommand) {q : UInt16} {size : UInt32} :
    Prepared desc (adminStep d cmd) q size ↔ Prepared desc d q size :=
  ⟨prepared_congr (adminStep_config d cmd).symm (adminStep_setup desc hdesc d cmd).symm,
    prepared_congr (adminStep_config d cmd) (adminStep_setup desc hdesc d cmd)⟩

/-! ## The two ways compared -/

theorem Refused.not_succeeded {p : PdoContext} {os : Os} {r : AdminOutcome}
    (h : Refused p os r) : ¬ r.Succeeded := by
  obtain ⟨sc, hsc, rfl⟩ := h
  rintro ⟨dw0, hok⟩
  exact absurd (congrArg (Option.map fun c => c.2.1) hok) (by simp [AdminOutcome.error,
    nvmeSctCommand])

/-- An accepted Create I/O CQ command. -/
theorem createIoCq_operational_iff {d : Driver} {cmd : NvmeCommand}
    (hopc : cmd.opc = nvmeAdminCreateIoCq) (hok : (handleCreateIoCq d.pdo d.os cmd).Succeeded) :
    CqOperational (adminStep d cmd) cmd.qid cmd.qsize.toUInt32 ↔
      Prepared Shm.cq d cmd.qid cmd.qsize.toUInt32 := by
  rcases handleCreateIoCq_cases d.pdo d.os cmd with h | ⟨⟨hid, -, -⟩, heq⟩
  · exact absurd hok h.not_succeeded
  obtain ⟨h0, -⟩ := vnvmeIoQueueIdValid_iff.mp hid
  have hq : cmd.qid ≠ 0 := fun h => h0 (by rw [h]; rfl)
  have hpdo : (handleAdminCommand d.config d.pdo d.os cmd).pdo =
      d.pdo.setCq cmd.qid.toNat (createdCq d.pdo cmd) := by
    have hdisp : handleAdminCommand d.config d.pdo d.os cmd = handleCreateIoCq d.pdo d.os cmd := by
      simp only [handleAdminCommand, hopc]
      rfl
    rw [hdisp, heq]
    rfl
  have hcreated : ((adminStep d cmd).pdo.cq cmd.qid.toNat).created = true := by
    rw [(adminStep_same d cmd).cq _ h0, hpdo]
    simp [PdoContext.setCq, createdCq]
  rw [cqOperational_iff hq, and_iff_right hcreated]
  exact adminStep_prepared_iff (Or.inr rfl) d cmd

/-- An accepted Create I/O SQ command. -/
theorem createIoSq_operational_iff {d : Driver} {cmd : NvmeCommand}
    (hopc : cmd.opc = nvmeAdminCreateIoSq) (hok : (handleCreateIoSq d.pdo d.os cmd).Succeeded) :
    SqOperational (adminStep d cmd) cmd.qid cmd.qsize.toUInt32 ↔
      Prepared Shm.sq d cmd.qid cmd.qsize.toUInt32 := by
  rcases handleCreateIoSq_cases d.pdo d.os cmd with h | ⟨⟨hid, -, -, -⟩, heq⟩
  · exact absurd hok h.not_succeeded
  obtain ⟨h0, -⟩ := vnvmeIoQueueIdValid_iff.mp hid
  have hq : cmd.qid ≠ 0 := fun h => h0 (by rw [h]; rfl)
  have hpdo : (handleAdminCommand d.config d.pdo d.os cmd).pdo = addSq d.pdo cmd := by
    have hdisp : handleAdminCommand d.config d.pdo d.os cmd = handleCreateIoSq d.pdo d.os cmd := by
      simp only [handleAdminCommand, hopc]
      rfl
    rw [hdisp, heq]
    rfl
  have hcreated : ((adminStep d cmd).pdo.sq cmd.qid.toNat).created = true := by
    rw [(adminStep_same d cmd).sq _ h0, hpdo]
    simp [addSq, PdoContext.setSq, createdSq]
  rw [sqOperational_iff hq, and_iff_right hcreated]
  exact adminStep_prepared_iff (Or.inl rfl) d cmd

theorem badIoQueueId_le {cfg : Config} {q : UInt16} (h : badIoQueueId cfg q = false) :
    q ≠ 0 ∧ q.toUInt32 ≤ cfg.maxIOQueues := by
  simp only [badIoQueueId, Bool.or_eq_false_iff, decide_eq_false_iff_not] at h
  exact ⟨h.1, UInt32.not_lt.mp h.2⟩

theorem vnvmeCreateIoCompletionQueue_operational {d : Driver} {q : UInt16} (h : CqCallOk d q)
    (size : UInt16) (prp : UInt64) :
    CqOperational (vnvmeCreateIoCompletionQueue d q size prp).2 q size.toUInt32 := by
  obtain ⟨shm, hshm⟩ := h.shm
  obtain ⟨hq, hle⟩ := badIoQueueId_le h.id
  rw [vnvmeCreateIoCompletionQueue_ok h hshm, cqOperational_iff hq]
  refine ⟨?_, hle, _, ⟨rfl, hshm.2⟩, ?_, ?_⟩
  · simp [withNewCq, PdoContext.setCq, newCqState]
  · simp [Shm.setCq, newCqDesc]
  · simp [Shm.setCq, newCqDesc]

theorem vnvmeCreateIoSubmissionQueue_operational {d : Driver} {q cqId : UInt16}
    (h : SqCallOk d q cqId) (size : UInt16) (prp : UInt64) :
    SqOperational (vnvmeCreateIoSubmissionQueue d q size prp cqId).2 q size.toUInt32 := by
  obtain ⟨shm, hshm⟩ := h.shm
  obtain ⟨hq, hle⟩ := badIoQueueId_le h.id
  rw [vnvmeCreateIoSubmissionQueue_ok h hshm, sqOperational_iff hq]
  refine ⟨?_, hle, _, ⟨rfl, hshm.2⟩, ?_, ?_⟩
  · simp [withNewSq, PdoContext.setSq, newSqState]
  · simp [Shm.setSq, newSqDesc]
  · simp [Shm.setSq, newSqDesc]

/-- **An admin command does not make a queue work**: after an accepted Create I/O CQ or
Create I/O SQ the queue is operational exactly if its descriptor was ready before the command
and its id is within the configured limit. The functions of `queue.c` make it so. -/
theorem queueCreation_operational_iff (d : Driver) (cmd : NvmeCommand) :
    (cmd.opc = nvmeAdminCreateIoCq → (handleCreateIoCq d.pdo d.os cmd).Succeeded →
        (CqOperational (adminStep d cmd) cmd.qid cmd.qsize.toUInt32 ↔
          Prepared Shm.cq d cmd.qid cmd.qsize.toUInt32)) ∧
      (cmd.opc = nvmeAdminCreateIoSq → (handleCreateIoSq d.pdo d.os cmd).Succeeded →
        (SqOperational (adminStep d cmd) cmd.qid cmd.qsize.toUInt32 ↔
          Prepared Shm.sq d cmd.qid cmd.qsize.toUInt32)) ∧
      (CqCallOk d cmd.qid →
        CqOperational (vnvmeCreateIoCompletionQueue d cmd.qid cmd.qsize cmd.prp1).2 cmd.qid
          cmd.qsize.toUInt32) ∧
      (SqCallOk d cmd.qid cmd.cqid →
        SqOperational (vnvmeCreateIoSubmissionQueue d cmd.qid cmd.qsize cmd.prp1 cmd.cqid).2
          cmd.qid cmd.qsize.toUInt32) := by
  refine ⟨createIoCq_operational_iff, createIoSq_operational_iff, fun h => ?_, fun h => ?_⟩
  · exact vnvmeCreateIoCompletionQueue_operational h cmd.qsize cmd.prp1
  · exact vnvmeCreateIoSubmissionQueue_operational h cmd.qsize cmd.prp1

/-- Create I/O CQ 1 with 64 entries. -/
def createCq1 : NvmeCommand := { opc := nvmeAdminCreateIoCq, cdw10 := 0x003F0001 }

/-- Create I/O SQ 1 with 64 entries on completion queue 1. -/
def createSq1 : NvmeCommand :=
  { opc := nvmeAdminCreateIoSq, cdw10 := 0x003F0001, cdw11 := 0x00010001 }

/-- On a fresh driver the handlers accept both, and neither queue works. -/
theorem queueCreation_not_operational :
    (handleCreateIoCq (Driver.fresh Config.allQueues).pdo {} createCq1).Succeeded ∧
      ¬ CqOperational (adminStep (Driver.fresh Config.allQueues) createCq1) 1 64 ∧
      (handleCreateIoSq (adminStep (Driver.fresh Config.allQueues) createCq1).pdo {}
        createSq1).Succeeded ∧
      ¬ SqOperational (run adminStep (Driver.fresh Config.allQueues) [createCq1, createSq1])
        1 64 := by
  refine ⟨⟨0, rfl⟩, fun h => ?_, ⟨0, rfl⟩, fun h => ?_⟩
  · exact absurd (h.2 {}) (by decide)
  · exact absurd h.2 (by decide)

/-- A driver whose first completion queue was set up by `queue.c` and deleted by an admin
command, which leaves its descriptor behind. -/
def leftoverDriver : Driver :=
  adminStep (vnvmeCreateIoCompletionQueue (Driver.fresh Config.allQueues) 1 64 0).2
    { opc := nvmeAdminDeleteIoCq, cdw10 := 1 }

/-- With such a descriptor the admin command does make the queue work. -/
theorem queueCreation_operational_example :
    (handleCreateIoCq leftoverDriver.pdo leftoverDriver.os createCq1).Succeeded ∧
      CqOperational (adminStep leftoverDriver createCq1) 1 64 := by
  have hok : (handleCreateIoCq leftoverDriver.pdo leftoverDriver.os createCq1).Succeeded :=
    ⟨0, by decide⟩
  refine ⟨hok, ((queueCreation_operational_iff leftoverDriver createCq1).1 rfl hok).mpr ?_⟩
  exact ⟨by decide, _, ⟨rfl, by decide⟩, by decide, by decide⟩

end VirtualNvme
