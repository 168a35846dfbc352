import VirtualNvme.References
import VirtualNvme.Runs
import VirtualNvme.Verification.CommandFrame
import VirtualNvme.Verification.ServerFrame

/-!
# The queue tables behind the admin commands

Both sides of the emulator keep a table of I/O submission queues and one of I/O completion
queues, and the create and delete commands edit them. A submission queue refers to a
completion queue, so the tables are a pair in the sense of `References`: the created
completion queues are the live entries, the created submission queues the references. The
driver looks for references before it deletes a completion queue. The server does not, and
it does not look at the queue size either.
-/

namespace VirtualNvme

open References (Closed)
open Runs (run Throughout EachStep)

/-! ## The driver's tables -/

/-- The I/O completion queues that exist; entry 0 is the admin queue. -/
def ioCqLive (p : PdoContext) (q : Nat) : Prop := q ≠ 0 ∧ (p.cq q).created = true

/-- The completion queue that an I/O submission queue refers to. -/
def ioSqRef (p : PdoContext) (q : Nat) : Option Nat :=
  if q ≠ 0 ∧ (p.sq q).created = true then some (p.sq q).cqId.toNat else none

/-- The sizes a queue may have. -/
def QueueState.SizeOk (st : QueueState) : Prop := 2 ≤ st.size.toNat ∧ st.size.toNat ≤ 65535

/-- The tables are in order: references go to completion queues that exist, sizes and ids
are in range, and `IoQueueCount` covers all submission queues. -/
structure IoQueuesWf (p : PdoContext) : Prop where
  refs : Closed (ioCqLive p) (ioSqRef p)
  sq : ∀ q, q ≠ 0 → (p.sq q).created = true →
    (p.sq q).SizeOk ∧ q ≤ 16 ∧ q ≤ p.ioQueueCount.toNat
  cq : ∀ q, q ≠ 0 → (p.cq q).created = true → (p.cq q).SizeOk ∧ q ≤ 16
  count : p.ioQueueCount.toNat ≤ 16

/-- No I/O queue exists. -/
structure NoIoQueues (p : PdoContext) : Prop where
  sq : ∀ q, q ≠ 0 → (p.sq q).created = false
  cq : ∀ q, q ≠ 0 → (p.cq q).created = false
  count : p.ioQueueCount = 0

/-- Two controllers have the same I/O queues. -/
structure SameIoQueues (p p' : PdoContext) : Prop where
  sq : ∀ q, q ≠ 0 → p'.sq q = p.sq q
  cq : ∀ q, q ≠ 0 → p'.cq q = p.cq q
  count : p'.ioQueueCount = p.ioQueueCount

theorem SameIoQueues.refl (p : PdoContext) : SameIoQueues p p :=
  ⟨fun _ _ => rfl, fun _ _ => rfl, rfl⟩

theorem SameIoQueues.trans {p p' p'' : PdoContext} (h : SameIoQueues p p')
    (h' : SameIoQueues p' p'') : SameIoQueues p p'' := by
  constructor
  · intro q hq
    rw [h'.sq q hq, h.sq q hq]
  · intro q hq
    rw [h'.cq q hq, h.cq q hq]
  · rw [h'.count, h.count]

theorem SameIoQueues.live {p p' : PdoContext} (h : SameIoQueues p p') :
    ioCqLive p' = ioCqLive p := by
  funext q
  by_cases hq : q = 0
  · simp [ioCqLive, hq]
  · simp only [ioCqLive, h.cq q hq]

theorem SameIoQueues.ref {p p' : PdoContext} (h : SameIoQueues p p') :
    ioSqRef p' = ioSqRef p := by
  funext q
  by_cases hq : q = 0
  · simp [ioSqRef, hq]
  · simp only [ioSqRef, h.sq q hq]

theorem IoQueuesWf.congr {p p' : PdoContext} (h : SameIoQueues p p') (hwf : IoQueuesWf p) :
    IoQueuesWf p' := by
  constructor
  · rw [h.live, h.ref]
    exact hwf.refs
  · intro q hq
    rw [h.sq q hq, h.count]
    exact hwf.sq q hq
  · intro q hq
    rw [h.cq q hq]
    exact hwf.cq q hq
  · rw [h.count]
    exact hwf.count

theorem NoIoQueues.ref {p : PdoContext} (h : NoIoQueues p) (q : Nat) : ioSqRef p q = none := by
  rw [ioSqRef, if_neg]
  rintro ⟨hq, hcreated⟩
  rw [h.sq q hq] at hcreated
  cases hcreated

theorem NoIoQueues.wf {p : PdoContext} (h : NoIoQueues p) : IoQueuesWf p := by
  constructor
  · exact Closed.empty h.ref
  · intro q hq hcreated
    rw [h.sq q hq] at hcreated
    cases hcreated
  · intro q hq hcreated
    rw [h.cq q hq] at hcreated
    cases hcreated
  · rw [h.count]
    decide

/-! ## One entry of the driver's tables -/

theorem ioCqLive_setCq (p : PdoContext) {q : Nat} (hq : q ≠ 0) (st : QueueState) :
    ioCqLive (p.setCq q st) = Function.update (ioCqLive p) q (st.created = true) := by
  funext i
  by_cases hi : i = q
  · subst hi
    simp [ioCqLive, PdoContext.setCq, hq]
  · simp [ioCqLive, PdoContext.setCq, hi]

theorem ioSqRef_setSq_created (p : PdoContext) {q : Nat} (hq : q ≠ 0) {st : QueueState}
    (hst : st.created = true) :
    ioSqRef (p.setSq q st) = Function.update (ioSqRef p) q (some st.cqId.toNat) := by
  funext i
  by_cases hi : i = q
  · subst hi
    simp [ioSqRef, PdoContext.setSq, hq, hst]
  · simp [ioSqRef, PdoContext.setSq, hi]

theorem ioSqRef_setSq_deleted (p : PdoContext) (q : Nat) :
    ioSqRef (p.setSq q {}) = Function.update (ioSqRef p) q none := by
  funext i
  by_cases hi : i = q
  · subst hi
    simp [ioSqRef, PdoContext.setSq]
  · simp [ioSqRef, PdoContext.setSq, hi]

/-- The submission queues that refer to `c`, read off the table. -/
theorem ioSqRef_eq_some {p : PdoContext} {q c : Nat} :
    ioSqRef p q = some c ↔ q ≠ 0 ∧ (p.sq q).created = true ∧ (p.sq q).cqId.toNat = c := by
  unfold ioSqRef
  split_ifs with h
  · simp [h]
  · simp only [false_iff]
    rintro ⟨hq, hcreated, -⟩
    exact h ⟨hq, hcreated⟩

theorem vnvmeIoQueueIdValid_iff {q : UInt16} :
    vnvmeIoQueueIdValid q = true ↔ q.toNat ≠ 0 ∧ q.toNat ≤ 16 := by
  have h0 : 0 < q ↔ 0 < q.toNat := Iff.rfl
  have h16 : q ≤ 16 ↔ q.toNat ≤ 16 := Iff.rfl
  simp only [vnvmeIoQueueIdValid, gt_iff_lt, Bool.and_eq_true, decide_eq_true_eq, h0, h16]
  omega

/-! ## What an admin command can do to the driver's tables -/

/-- One change of the tables, with what the handler has checked before it. -/
inductive TableStep (p : PdoContext) : PdoContext → Prop
  | createCq {q : Nat} {st : QueueState} (hq : q ≠ 0) (hle : q ≤ 16) (hsize : st.SizeOk)
      (hst : st.created = true) : TableStep p (p.setCq q st)
  | createSq {q : UInt16} {st : QueueState} (hq : q.toNat ≠ 0) (hle : q.toNat ≤ 16)
      (hsize : st.SizeOk) (hst : st.created = true) (hcq : ioCqLive p st.cqId.toNat) :
      TableStep p { p.setSq q.toNat st with
        ioQueueCount := if p.ioQueueCount < q then q else p.ioQueueCount }
  | deleteCq {q : Nat} (hq : q ≠ 0) (hfree : ∀ k, ioSqRef p k ≠ some q) :
      TableStep p (p.setCq q {})
  | deleteSq {q : Nat} (hq : q ≠ 0) : TableStep p (p.setSq q {})

/-- A completion queue, created or deleted, leaves the submission queues alone. -/
theorem IoQueuesWf.setCq {p : PdoContext} (hwf : IoQueuesWf p) {q : Nat} (hq : q ≠ 0)
    {st : QueueState} (hst : st.created = true → st.SizeOk ∧ q ≤ 16)
    (hrefs : Closed (Function.update (ioCqLive p) q (st.created = true)) (ioSqRef p)) :
    IoQueuesWf (p.setCq q st) := by
  constructor
  · rw [ioCqLive_setCq p hq]
    exact hrefs
  · exact hwf.sq
  · refine (Function.forall_update_iff p.cq fun i s => i ≠ 0 → s.created = true →
      s.SizeOk ∧ i ≤ 16).mpr ⟨fun _ => hst, fun i _ => hwf.cq i⟩
  · exact hwf.count

theorem IoQueuesWf.step {p p' : PdoContext} (hwf : IoQueuesWf p) (h : TableStep p p') :
    IoQueuesWf p' := by
  cases h with
  | createCq hq hle hsize hst =>
      exact hwf.setCq hq (fun _ => ⟨hsize, hle⟩) (hwf.refs.addTarget _ hst)
  | deleteCq hq hfree =>
      exact hwf.setCq hq nofun ((hwf.refs.removeTarget_iff _ Bool.false_ne_true).mpr hfree)
  | @createSq q st hq hle hsize hst hcq =>
      -- the new count is at least the old one and at least the new id
      have hcount : p.ioQueueCount.toNat ≤ (if p.ioQueueCount < q then q
          else p.ioQueueCount).toNat ∧ q.toNat ≤ (if p.ioQueueCount < q then q
          else p.ioQueueCount).toNat := by
        split_ifs with hlt
        · exact ⟨Nat.le_of_lt hlt, le_rfl⟩
        · exact ⟨le_rfl, Nat.le_of_not_lt hlt⟩
      constructor
      · show Closed (ioCqLive p) (ioSqRef (p.setSq q.toNat st))
        rw [ioSqRef_setSq_created p hq hst]
        exact hwf.refs.addRef _ hcq
      · refine (Function.forall_update_iff p.sq fun i s => i ≠ 0 → s.created = true →
          s.SizeOk ∧ i ≤ 16 ∧ i ≤ _).mpr ⟨fun _ _ => ⟨hsize, hle, hcount.2⟩, ?_⟩
        intro i _ hi hcreated
        obtain ⟨hs, hi16, hic⟩ := hwf.sq i hi hcreated
        exact ⟨hs, hi16, hic.trans hcount.1⟩
      · exact hwf.cq
      · show (if p.ioQueueCount < q then q else p.ioQueueCount).toNat ≤ 16
        split_ifs
        · exact hle
        · exact hwf.count
  | @deleteSq q hq =>
      constructor
      · show Closed (ioCqLive p) (ioSqRef (p.setSq q {}))
        rw [ioSqRef_setSq_deleted p q]
        exact hwf.refs.removeRef q
      · exact (Function.forall_update_iff p.sq fun i s => i ≠ 0 → s.created = true →
          s.SizeOk ∧ i ≤ 16 ∧ i ≤ _).mpr ⟨fun _ => nofun, fun i _ => hwf.sq i⟩
      · exact hwf.cq
      · exact hwf.count

/-! ## The handlers of the driver -/

/-- The sizes that get through the check of the two create handlers. -/
theorem NvmeCommand.qsize_sizeOk {cmd : NvmeCommand} (h : ¬ cmd.qsize < 2) {st : QueueState}
    (hst : st.size = cmd.qsize.toUInt32) : st.SizeOk := by
  have h2 : ¬ cmd.qsize.toNat < 2 := h
  have hlt := cmd.qsize.toNat_lt
  rw [QueueState.SizeOk, hst, UInt16.toNat_toUInt32]
  omega

/-- What `HandleCreateIoCq` checks. -/
def CqCreatable (p : PdoContext) (cmd : NvmeCommand) : Prop :=
  vnvmeIoQueueIdValid cmd.qid = true ∧ ¬ cmd.qsize < 2 ∧ (p.cq cmd.qid.toNat).created = false

/-- What `HandleCreateIoSq` checks. -/
def SqCreatable (p : PdoContext) (cmd : NvmeCommand) : Prop :=
  vnvmeIoQueueIdValid cmd.qid = true ∧ ¬ cmd.qsize < 2 ∧
    (vnvmeIoQueueIdValid cmd.cqid = true ∧ (p.cq cmd.cqid.toNat).created = true) ∧
    (p.sq cmd.qid.toNat).created = false

/-- The completion queue of an accepted command. -/
def createdCq (p : PdoContext) (cmd : NvmeCommand) : QueueState :=
  { p.cq cmd.qid.toNat with
    baseAddress := cmd.prp1, size := cmd.qsize.toUInt32, head := 0, tail := 0,
    phaseTag := true, created := true }

/-- The submission queue of an accepted command. -/
def createdSq (p : PdoContext) (cmd : NvmeCommand) : QueueState :=
  { p.sq cmd.qid.toNat with
    baseAddress := cmd.prp1, size := cmd.qsize.toUInt32, head := 0, tail := 0,
    cqId := cmd.cqid, created := true }

/-- The controller with the new submission queue. -/
def addSq (p : PdoContext) (cmd : NvmeCommand) : PdoContext :=
  { p.setSq cmd.qid.toNat (createdSq p cmd) with
    ioQueueCount := if p.ioQueueCount < cmd.qid then cmd.qid else p.ioQueueCount }

section Handlers

variable (p : PdoContext) (os : Os) (cmd : NvmeCommand)

/-- A handler that refuses says so, and leaves the controller as it was. -/
def Refused (r : AdminOutcome) : Prop := ∃ sc, sc ≠ 0 ∧ r = .error p os nvmeSctCommand sc

theorem handleCreateIoCq_cases :
    Refused p os (handleCreateIoCq p os cmd) ∨ (CqCreatable p cmd ∧
      handleCreateIoCq p os cmd = .success (p.setCq cmd.qid.toNat (createdCq p cmd)) os 0) := by
  simp only [handleCreateIoCq]
  split_ifs with hid hsize hnew
  · exact Or.inl ⟨_, by decide, rfl⟩
  · exact Or.inl ⟨_, by decide, rfl⟩
  · exact Or.inl ⟨_, by decide, rfl⟩
  · refine Or.inr ⟨⟨?_, hsize, ?_⟩, rfl⟩
    · simpa using hid
    · simpa using hnew

theorem handleCreateIoSq_cases :
    Refused p os (handleCreateIoSq p os cmd) ∨ (SqCreatable p cmd ∧
      handleCreateIoSq p os cmd = .success (addSq p cmd) os 0) := by
  by_cases hid : (!vnvmeIoQueueIdValid cmd.qid) = true
  · exact Or.inl ⟨_, by decide, if_pos hid⟩
  by_cases hsize : cmd.qsize < 2
  · exact Or.inl ⟨_, by decide, (if_neg hid).trans (if_pos hsize)⟩
  by_cases hcq : (!vnvmeIoQueueIdValid cmd.cqid || !(p.cq cmd.cqid.toNat).created) = true
  · exact Or.inl ⟨_, by decide, (if_neg hid).trans ((if_neg hsize).trans (if_pos hcq))⟩
  by_cases hnew : (p.sq cmd.qid.toNat).created = true
  · exact Or.inl ⟨_, by decide,
      (if_neg hid).trans ((if_neg hsize).trans ((if_neg hcq).trans (if_pos hnew)))⟩
  · refine Or.inr ⟨⟨?_, hsize, ?_, ?_⟩,
      (if_neg hid).trans ((if_neg hsize).trans ((if_neg hcq).trans (if_neg hnew)))⟩
    · simpa using hid
    · simpa using hcq
    · simpa using hnew

/-- The scan of `HandleDeleteIoCq` finds every reference, since all ids are at most 16. -/
theorem deleteCq_scan (hwf : IoQueuesWf p) :
    ((List.range 16).any fun i =>
      (p.sq (i + 1)).created && (p.sq (i + 1)).cqId = cmd.qid) = false ↔
      ∀ k, ioSqRef p k ≠ some cmd.qid.toNat := by
  rw [List.any_eq_false]
  constructor
  · intro h k hk
    obtain ⟨h0, hcreated, hid⟩ := ioSqRef_eq_some.mp hk
    obtain ⟨i, rfl⟩ := Nat.exists_eq_succ_of_ne_zero h0
    have hi : i ∈ List.range 16 := List.mem_range.mpr (hwf.sq _ h0 hcreated).2.1
    have hq : (p.sq (i + 1)).cqId = cmd.qid := UInt16.toNat_inj.mp hid
    exact h i hi (by simp [hcreated, hq])
  · intro h i _ hi
    rw [Bool.and_eq_true, decide_eq_true_eq] at hi
    exact h (i + 1) (ioSqRef_eq_some.mpr ⟨Nat.succ_ne_zero i, hi.1, by rw [hi.2]⟩)

theorem handleDeleteIoCq_cases (hwf : IoQueuesWf p) :
    Refused p os (handleDeleteIoCq p os cmd) ∨ (cmd.qid.toNat ≠ 0 ∧
      (∀ k, ioSqRef p k ≠ some cmd.qid.toNat) ∧
      handleDeleteIoCq p os cmd = .success (p.setCq cmd.qid.toNat {}) os 0) := by
  simp only [handleDeleteIoCq]
  split_ifs with hid hcreated hbusy
  · exact Or.inl ⟨_, by decide, rfl⟩
  · exact Or.inl ⟨_, by decide, rfl⟩
  · exact Or.inl ⟨_, by decide, rfl⟩
  · refine Or.inr ⟨?_, ?_, rfl⟩
    · have hv : vnvmeIoQueueIdValid cmd.qid = true := by simpa using hid
      exact (vnvmeIoQueueIdValid_iff.mp hv).1
    · exact (deleteCq_scan p cmd hwf).mp (eq_false_of_ne_true hbusy)

theorem handleDeleteIoSq_cases :
    Refused p os (handleDeleteIoSq p os cmd) ∨ (cmd.qid.toNat ≠ 0 ∧
      handleDeleteIoSq p os cmd = .success (p.setSq cmd.qid.toNat {}) os 0) := by
  simp only [handleDeleteIoSq]
  split_ifs with hid hcreated
  · exact Or.inl ⟨_, by decide, rfl⟩
  · exact Or.inl ⟨_, by decide, rfl⟩
  · refine Or.inr ⟨?_, rfl⟩
    have hv : vnvmeIoQueueIdValid cmd.qid = true := by simpa using hid
    exact (vnvmeIoQueueIdValid_iff.mp hv).1

theorem sendToHost_pdo (data : UInt32 → UInt8) (length : UInt32) :
    (sendToHost p os cmd data length).pdo = p := by
  simp only [sendToHost]
  split_ifs
  · rfl
  · rfl

/-- The handlers that send data to the host. -/
theorem handleIdentify_pdo : (handleIdentify p os cmd).pdo = p := by
  have hcontroller : (handleIdentifyController p os cmd).pdo = p := by
    simp only [handleIdentifyController]
    split_ifs
    · rfl
    · exact sendToHost_pdo ..
  have hnamespace : (handleIdentifyNamespace p os cmd).pdo = p := by
    unfold handleIdentifyNamespace
    cases activeNamespace p.toMedia cmd.nsid with
    | none => rfl
    | some ns =>
        dsimp only
        split_ifs
        · rfl
        · exact sendToHost_pdo ..
  have hlist : (handleIdentifyActiveNsList p os cmd).pdo = p := by
    simp only [handleIdentifyActiveNsList]
    split_ifs
    · rfl
    · exact sendToHost_pdo ..
  simp only [handleIdentify]
  split_ifs
  · exact hnamespace
  · exact hcontroller
  · exact hlist
  · rfl

theorem handleGetLogPage_pdo : (handleGetLogPage p os cmd).pdo = p := by
  simp only [handleGetLogPage]
  split_ifs
  · rfl
  · cases logPageData cmd.cdw10.toUInt8 cmd.logLength with
    | none => rfl
    | some data => exact sendToHost_pdo ..

theorem handleSetFeatures_same (cfg : Config) :
    SameIoQueues p (handleSetFeatures cfg p os cmd).pdo := by
  simp only [handleSetFeatures]
  split_ifs <;> exact ⟨fun _ _ => rfl, fun _ _ => rfl, rfl⟩

theorem handleGetFeatures_pdo : (handleGetFeatures p os cmd).pdo = p := by
  simp only [handleGetFeatures]
  split_ifs
  · rfl
  · rfl
  · rfl
  · rfl
  · rfl

theorem handleAsyncEventRequest_same :
    SameIoQueues p (handleAsyncEventRequest p os cmd).pdo := by
  simp only [handleAsyncEventRequest]
  split_ifs
  · exact SameIoQueues.refl p
  · exact ⟨fun _ _ => rfl, fun _ _ => rfl, rfl⟩

/-- The status of a completion that reports success. -/
def AdminOutcome.Succeeded (r : AdminOutcome) : Prop := ∃ dw0, r.completion = some (dw0, 0, 0)

/-- A handler leaves the I/O queues alone, or makes one change and reports success. -/
def TablesKept (r : AdminOutcome) : Prop :=
  SameIoQueues p r.pdo ∨ (TableStep p r.pdo ∧ r.Succeeded)

variable {p os cmd}

theorem Refused.pdo {r : AdminOutcome} (h : Refused p os r) : r.pdo = p := by
  obtain ⟨sc, -, rfl⟩ := h
  rfl

theorem TablesKept.of_pdo {r : AdminOutcome} (h : r.pdo = p) : TablesKept p r := by
  rw [TablesKept, h]
  exact Or.inl (SameIoQueues.refl p)

theorem handleCreateIoCq_tables : TablesKept p (handleCreateIoCq p os cmd) := by
  rcases handleCreateIoCq_cases p os cmd with h | ⟨⟨hid, hsize, -⟩, heq⟩
  · exact TablesKept.of_pdo h.pdo
  · rw [heq]
    obtain ⟨h0, h16⟩ := vnvmeIoQueueIdValid_iff.mp hid
    exact Or.inr ⟨.createCq h0 h16 (cmd.qsize_sizeOk hsize rfl) rfl, 0, rfl⟩

theorem handleCreateIoSq_tables : TablesKept p (handleCreateIoSq p os cmd) := by
  rcases handleCreateIoSq_cases p os cmd with h | ⟨⟨hid, hsize, hcq, -⟩, heq⟩
  · exact TablesKept.of_pdo h.pdo
  · rw [heq]
    obtain ⟨h0, h16⟩ := vnvmeIoQueueIdValid_iff.mp hid
    have hlive : ioCqLive p cmd.cqid.toNat := ⟨(vnvmeIoQueueIdValid_iff.mp hcq.1).1, hcq.2⟩
    exact Or.inr ⟨.createSq h0 h16 (cmd.qsize_sizeOk hsize rfl) rfl hlive, 0, rfl⟩

theorem handleDeleteIoCq_tables (hwf : IoQueuesWf p) :
    TablesKept p (handleDeleteIoCq p os cmd) := by
  rcases handleDeleteIoCq_cases p os cmd hwf with h | ⟨h0, hfree, heq⟩
  · exact TablesKept.of_pdo h.pdo
  · rw [heq]
    exact Or.inr ⟨.deleteCq h0 hfree, 0, rfl⟩

theorem handleDeleteIoSq_tables : TablesKept p (handleDeleteIoSq p os cmd) := by
  rcases handleDeleteIoSq_cases p os cmd with h | ⟨h0, heq⟩
  · exact TablesKept.of_pdo h.pdo
  · rw [heq]
    exact Or.inr ⟨.deleteSq h0, 0, rfl⟩

/-- What holds of every outcome that leaves the controller alone and of the six handlers that
write to it holds of every command. -/
theorem handleAdminCommand_rule {M : AdminOutcome → Prop} {cfg : Config}
    (hkept : ∀ {r : AdminOutcome}, r.pdo = p → M r) (hcreateCq : M (handleCreateIoCq p os cmd))
    (hcreateSq : M (handleCreateIoSq p os cmd)) (hdeleteCq : M (handleDeleteIoCq p os cmd))
    (hdeleteSq : M (handleDeleteIoSq p os cmd)) (hset : M (handleSetFeatures cfg p os cmd))
    (hasync : cmd.opc = nvmeAdminAsyncEventRequest → M (handleAsyncEventRequest p os cmd)) :
    M (handleAdminCommand cfg p os cmd) := by
  unfold handleAdminCommand
  refine iteInduction (fun _ => hkept (handleIdentify_pdo p os cmd)) fun _ => ?_
  refine iteInduction (fun _ => hcreateCq) fun _ => ?_
  refine iteInduction (fun _ => hcreateSq) fun _ => ?_
  refine iteInduction (fun _ => hdeleteCq) fun _ => ?_
  refine iteInduction (fun _ => hdeleteSq) fun _ => ?_
  refine iteInduction (fun _ => hset) fun _ => ?_
  refine iteInduction (fun _ => hkept (handleGetFeatures_pdo p os cmd)) fun _ => ?_
  refine iteInduction (fun _ => hkept rfl) fun _ => ?_
  refine iteInduction hasync fun _ => ?_
  refine iteInduction (fun _ => hkept rfl) fun _ => ?_
  refine iteInduction (fun _ => hkept (handleGetLogPage_pdo p os cmd)) fun _ => ?_
  exact hkept rfl

/-- An admin command keeps whatever these writes keep. -/
theorem handleAdminCommand_keeps {α : Type*} {F : PdoContext → α}
    (hcq : ∀ q st, F (p.setCq q st) = F p)
    (hsq : ∀ q st n, q ≠ 0 → F { p.setSq q st with ioQueueCount := n } = F p)
    (hset : ∀ n, F { p with maxIoQueues := n } = F p)
    (haer : cmd.opc = nvmeAdminAsyncEventRequest → ∀ cids, F { p with aerCids := cids } = F p)
    (cfg : Config) : F (handleAdminCommand cfg p os cmd).pdo = F p := by
  have hcreateCq : F (handleCreateIoCq p os cmd).pdo = F p := by
    rcases handleCreateIoCq_cases p os cmd with h | ⟨-, heq⟩
    · rw [h.pdo]
    · rw [heq]
      exact hcq _ _
  have hcreateSq : F (handleCreateIoSq p os cmd).pdo = F p := by
    rcases handleCreateIoSq_cases p os cmd with h | ⟨⟨hid, -⟩, heq⟩
    · rw [h.pdo]
    · rw [heq]
      exact hsq _ _ _ (vnvmeIoQueueIdValid_iff.mp hid).1
  have hdeleteCq : F (handleDeleteIoCq p os cmd).pdo = F p := by
    simp only [handleDeleteIoCq]
    split_ifs
    · rfl
    · rfl
    · rfl
    · exact hcq _ _
  have hdeleteSq : F (handleDeleteIoSq p os cmd).pdo = F p := by
    rcases handleDeleteIoSq_cases p os cmd with h | ⟨h0, heq⟩
    · rw [h.pdo]
    · rw [heq]
      exact hsq _ _ p.ioQueueCount h0
  have hfeatures : F (handleSetFeatures cfg p os cmd).pdo = F p := by
    simp only [handleSetFeatures]
    split_ifs <;> first | rfl | exact hset _
  have hasync (hopc : cmd.opc = nvmeAdminAsyncEventRequest) :
      F (handleAsyncEventRequest p os cmd).pdo = F p := by
    simp only [handleAsyncEventRequest]
    split_ifs
    · rfl
    · exact haer hopc _
  exact handleAdminCommand_rule (M := fun r => F r.pdo = F p) (fun h => by rw [h]) hcreateCq
    hcreateSq hdeleteCq hdeleteSq hfeatures hasync

theorem handleAdminCommand_tables (hwf : IoQueuesWf p) (cfg : Config) :
    TablesKept p (handleAdminCommand cfg p os cmd) :=
  handleAdminCommand_rule .of_pdo handleCreateIoCq_tables handleCreateIoSq_tables
    (handleDeleteIoCq_tables hwf) handleDeleteIoSq_tables
    (Or.inl (handleSetFeatures_same p os cmd cfg))
    fun _ => Or.inl (handleAsyncEventRequest_same p os cmd)

end Handlers

/-! ## Runs of admin commands in the driver -/

/-- Posting to the admin queue leaves the I/O queues alone. -/
theorem postAdminOutcome_same (d : Driver) (cid : UInt16)
    (c : Option (UInt32 × UInt8 × UInt8)) :
    SameIoQueues d.pdo (postAdminOutcome d cid c).2.pdo := by
  cases c with
  | none => exact SameIoQueues.refl d.pdo
  | some c =>
      obtain ⟨dw0, sct, sc⟩ := c
      show SameIoQueues d.pdo (vnvmePostCompletion d 0 _).2.pdo
      rcases vnvmePostCompletion_cases d 0 _ with ⟨-, heq⟩ | ⟨shm, -, heq⟩
      · rw [heq]
        exact SameIoQueues.refl d.pdo
      · rw [heq]
        exact ⟨fun _ _ => rfl, fun q hq => Function.update_of_ne hq .., rfl⟩

/-- `VnvmeProcessAdminCommand`, without its result. -/
def adminStep (d : Driver) (cmd : NvmeCommand) : Driver := (vnvmeProcessAdminCommand d cmd).2

/-- Behind its handler, a command changes nothing in the tables. -/
theorem adminStep_same (d : Driver) (cmd : NvmeCommand) :
    SameIoQueues (handleAdminCommand d.config d.pdo d.os cmd).pdo (adminStep d cmd).pdo := by
  have h := postAdminOutcome_same (adminHandled d cmd) cmd.cid
    (handleAdminCommand d.config d.pdo d.os cmd).completion
  exact h.trans ⟨fun _ _ => rfl, fun _ _ => rfl, rfl⟩

theorem adminStep_wf (d : Driver) (cmd : NvmeCommand) (hwf : IoQueuesWf d.pdo) :
    IoQueuesWf (adminStep d cmd).pdo := by
  apply IoQueuesWf.congr (adminStep_same d cmd)
  rcases handleAdminCommand_tables hwf d.config with hsame | ⟨hstep, -⟩
  · exact hwf.congr hsame
  · exact hwf.step hstep

/-- The completion of a command reports an error. -/
def Rejected (d : Driver) (cmd : NvmeCommand) : Prop :=
  ∃ dw0 sct sc, (handleAdminCommand d.config d.pdo d.os cmd).completion = some (dw0, sct, sc) ∧
    ¬ (sct = nvmeSctGeneric ∧ sc = nvmeScSuccess)

theorem adminStep_rejected {d : Driver} {cmd : NvmeCommand} (hwf : IoQueuesWf d.pdo)
    (h : Rejected d cmd) : SameIoQueues d.pdo (adminStep d cmd).pdo := by
  rcases handleAdminCommand_tables hwf d.config with hsame | ⟨-, dw0, hok⟩
  · exact hsame.trans (adminStep_same d cmd)
  · obtain ⟨dw0', sct, sc, herr, hne⟩ := h
    rw [hok] at herr
    cases herr
    exact absurd ⟨rfl, rfl⟩ hne

/-- **The driver's queue tables stay in order** over every sequence of admin commands that
starts without I/O queues, and a rejected command leaves them as they are. -/
theorem ioQueues_wf_of_noIoQueues (d : Driver) (h : NoIoQueues d.pdo)
    (cmds : List NvmeCommand) :
    IoQueuesWf (run adminStep d cmds).pdo ∧
      ∀ cmd, Rejected (run adminStep d cmds) cmd →
        SameIoQueues (run adminStep d cmds).pdo (run adminStep d (cmds ++ [cmd])).pdo := by
  have hwf : IoQueuesWf (run adminStep d cmds).pdo :=
    Runs.run_induct (P := fun d : Driver => IoQueuesWf d.pdo) adminStep_wf h.wf cmds
  refine ⟨hwf, fun cmd hrej => ?_⟩
  rw [Runs.run_append]
  exact adminStep_rejected hwf hrej

/-- A run of the driver that creates, refers and tries to delete. -/
def tableCommands : List NvmeCommand :=
  [{ opc := nvmeAdminCreateIoCq, cdw10 := 0x00FF0003, cdw11 := 1 },
    { opc := nvmeAdminCreateIoSq, cdw10 := 0x00FF0001, cdw11 := 0x00030001 },
    { opc := nvmeAdminDeleteIoCq, cdw10 := 3 }]

theorem noIoQueues_fresh (config : Config) : NoIoQueues (Driver.fresh config).pdo :=
  ⟨fun _ _ => rfl, fun _ _ => rfl, rfl⟩

theorem ioQueues_wf_example :
    ioSqRef (run adminStep (Driver.fresh Config.allQueues) tableCommands).pdo 1 = some 3 ∧
      IoQueuesWf (run adminStep (Driver.fresh Config.allQueues) tableCommands).pdo :=
  ⟨by decide, (ioQueues_wf_of_noIoQueues _ (noIoQueues_fresh _) tableCommands).1⟩

/-! ## The server's tables -/

/-- The I/O completion queues that the server has created. -/
def serverCqLive (ctx : AdminCmdContext) (q : Nat) : Prop := (ctx.ioCq q).created = true

/-- The completion queue that a submission queue of the server refers to. -/
def serverSqRef (ctx : AdminCmdContext) (q : Nat) : Option Nat :=
  if (ctx.ioSq q).created = true then some (ctx.ioSq q).cqId.toNat else none

/-- Every reference is served, and every queue can hold a command. -/
structure ServerQueuesWf (ctx : AdminCmdContext) : Prop where
  refs : Closed (serverCqLive ctx) (serverSqRef ctx)
  sq : ∀ q, (ctx.ioSq q).created = true → 2 ≤ (ctx.ioSq q).capacity
  cq : ∀ q, (ctx.ioCq q).created = true → 2 ≤ (ctx.ioCq q).capacity

/-- The requested queue size, in 16 bits. -/
def NvmeCommand.serverQsize (cmd : NvmeCommand) : UInt16 := cdwHigh cmd.cdw10 + 1

/-- What `AdminCmdCreateIoCq` checks. -/
def ServerCqCreatable (ctx : AdminCmdContext) (cmd : NvmeCommand) : Prop :=
  ctx.badQid (cdwLow cmd.cdw10) = false ∧
    (ctx.ioCq (cdwLow cmd.cdw10).toNat).created = false

/-- What `AdminCmdCreateIoSq` checks. -/
def ServerSqCreatable (ctx : AdminCmdContext) (cmd : NvmeCommand) : Prop :=
  ctx.badQid (cdwLow cmd.cdw10) = false ∧
    (ctx.badQid (cdwLow cmd.cdw11) = false ∧
      (ctx.ioCq (cdwLow cmd.cdw11).toNat).created = true) ∧
    (ctx.ioSq (cdwLow cmd.cdw10).toNat).created = false

/-- The commands after which the server's tables are still in order: a queue is created with
at least two entries, and a completion queue is deleted after its submission queues. -/
structure ServerCommandOk (ctx : AdminCmdContext) (cmd : NvmeCommand) : Prop where
  createCq : cmd.opc = nvmeAdminCreateIoCq → ServerCqCreatable ctx cmd → 2 ≤ cmd.serverQsize
  createSq : cmd.opc = nvmeAdminCreateIoSq → ServerSqCreatable ctx cmd → 2 ≤ cmd.serverQsize
  deleteCq : cmd.opc = nvmeAdminDeleteIoCq → ctx.badQid (cdwLow cmd.cdw10) = false →
    ∀ q, serverSqRef ctx q ≠ some (cdwLow cmd.cdw10).toNat

/-! ## One entry of the server's tables -/

section ServerEntry

variable {ctx : AdminCmdContext} {data : UInt32 → UInt8} {cmd : NvmeCommand}

theorem serverCqLive_update (q : Nat) (info : AdminIoQueueInfo) :
    serverCqLive { ctx with ioCq := Function.update ctx.ioCq q info } =
      Function.update (serverCqLive ctx) q (info.created = true) :=
  Function.comp_update (fun i : AdminIoQueueInfo => i.created = true) ctx.ioCq q info

theorem serverSqRef_update (q : Nat) (info : AdminIoQueueInfo) :
    serverSqRef { ctx with ioSq := Function.update ctx.ioSq q info } =
      Function.update (serverSqRef ctx) q
        (if info.created = true then some info.cqId.toNat else none) :=
  Function.comp_update
    (fun i : AdminIoQueueInfo => if i.created = true then some i.cqId.toNat else none)
    ctx.ioSq q info

/-- A new or deleted completion queue. -/
theorem ServerQueuesWf.updateCq_iff (hwf : ServerQueuesWf ctx) (q : Nat)
    (info : AdminIoQueueInfo) :
    ServerQueuesWf { ctx with ioCq := Function.update ctx.ioCq q info } ↔
      Closed (Function.update (serverCqLive ctx) q (info.created = true)) (serverSqRef ctx) ∧
        (info.created = true → 2 ≤ info.capacity) := by
  constructor
  · intro h
    refine ⟨?_, ?_⟩
    · rw [← serverCqLive_update]
      exact h.refs
    · simpa using h.cq q
  · rintro ⟨hrefs, hinfo⟩
    refine ⟨?_, hwf.sq, ?_⟩
    · rw [serverCqLive_update]
      exact hrefs
    · exact (Function.forall_update_iff ctx.ioCq fun _ i =>
        i.created = true → 2 ≤ i.capacity).mpr ⟨hinfo, fun i _ => hwf.cq i⟩

/-- A new or deleted submission queue. -/
theorem ServerQueuesWf.updateSq_iff (hwf : ServerQueuesWf ctx) (q : Nat)
    {info : AdminIoQueueInfo} (hinfo : info.created = true → serverCqLive ctx info.cqId.toNat) :
    ServerQueuesWf { ctx with ioSq := Function.update ctx.ioSq q info } ↔
      (info.created = true → 2 ≤ info.capacity) := by
  constructor
  · intro h
    simpa using h.sq q
  · intro hcap
    refine ⟨?_, ?_, hwf.cq⟩
    · rw [serverSqRef_update]
      show Closed (serverCqLive ctx) _
      split_ifs with hcreated
      · exact hwf.refs.addRef q (hinfo hcreated)
      · exact hwf.refs.removeRef q
    · exact (Function.forall_update_iff ctx.ioSq fun _ i =>
        i.created = true → 2 ≤ i.capacity).mpr ⟨hcap, fun i _ => hwf.sq i⟩

theorem two_le_serverQsize : 2 ≤ cmd.serverQsize.toUInt32 ↔ 2 ≤ cmd.serverQsize := by
  rw [UInt32.le_iff_toNat_le, UInt16.toNat_toUInt32]
  exact Iff.rfl

/-! ## The handlers of the server -/

theorem adminCmdCreateIoCq_wf_iff (hwf : ServerQueuesWf ctx) :
    ServerQueuesWf (adminCmdCreateIoCq ctx data cmd).ctx ↔
      (ServerCqCreatable ctx cmd → 2 ≤ cmd.serverQsize) := by
  unfold adminCmdCreateIoCq ServerCqCreatable
  dsimp only
  split_ifs with hid hnew
  · simp [hid, AdminCmdContext.reply, hwf]
  · simp [hnew, AdminCmdContext.reply, hwf]
  · refine (hwf.updateCq_iff _ _).trans ?_
    have hclosed := hwf.refs.addTarget (cdwLow cmd.cdw10).toNat (P := true = true) rfl
    rw [and_iff_right hclosed]
    refine ((imp_iff_right rfl).trans two_le_serverQsize).trans (imp_iff_right ?_).symm
    exact ⟨eq_false_of_ne_true hid, eq_false_of_ne_true hnew⟩

theorem adminCmdCreateIoSq_wf_iff (hwf : ServerQueuesWf ctx) :
    ServerQueuesWf (adminCmdCreateIoSq ctx data cmd).ctx ↔
      (ServerSqCreatable ctx cmd → 2 ≤ cmd.serverQsize) := by
  unfold adminCmdCreateIoSq ServerSqCreatable
  dsimp only
  split_ifs with hid hcq hnew
  · simp [hid, AdminCmdContext.reply, hwf]
  · refine iff_of_true hwf fun h => ?_
    obtain ⟨-, ⟨hcqid, hcreated⟩, -⟩ := h
    simp [hcqid, hcreated] at hcq
  · simp [hnew, AdminCmdContext.reply, hwf]
  · have hcq' : ctx.badQid (cdwLow cmd.cdw11) = false ∧
        (ctx.ioCq (cdwLow cmd.cdw11).toNat).created = true := by
      simpa using hcq
    refine (hwf.updateSq_iff _ ?_).trans ?_
    · intro _
      show (ctx.ioCq (cdwLow cmd.cdw11).toUInt32.toNat).created = true
      rw [UInt16.toNat_toUInt32]
      exact hcq'.2
    · refine ((imp_iff_right rfl).trans two_le_serverQsize).trans (imp_iff_right ?_).symm
      exact ⟨eq_false_of_ne_true hid, hcq', eq_false_of_ne_true hnew⟩

theorem adminCmdDeleteIoCq_wf_iff (hwf : ServerQueuesWf ctx) :
    ServerQueuesWf (adminCmdDeleteIoCq ctx data cmd).ctx ↔
      (ctx.badQid (cdwLow cmd.cdw10) = false →
        ∀ q, serverSqRef ctx q ≠ some (cdwLow cmd.cdw10).toNat) := by
  unfold adminCmdDeleteIoCq
  dsimp only
  split_ifs with hid hcreated
  · simp [hid, AdminCmdContext.reply, hwf]
  · -- nothing refers to a queue that does not exist
    refine iff_of_true hwf fun _ q hq => ?_
    have hlive : (ctx.ioCq (cdwLow cmd.cdw10).toNat).created = true := hwf.refs q _ hq
    rw [hlive] at hcreated
    cases hcreated
  · refine (hwf.updateCq_iff _ _).trans ?_
    rw [hwf.refs.removeTarget_iff _ Bool.false_ne_true, imp_iff_right (eq_false_of_ne_true hid)]
    exact and_iff_left fun h => absurd h Bool.false_ne_true

theorem adminCmdDeleteIoSq_wf (hwf : ServerQueuesWf ctx) :
    ServerQueuesWf (adminCmdDeleteIoSq ctx data cmd).ctx := by
  unfold adminCmdDeleteIoSq
  dsimp only
  split_ifs
  · exact hwf
  · exact hwf
  · exact (hwf.updateSq_iff _ fun h => absurd h Bool.false_ne_true).mpr
      fun h => absurd h Bool.false_ne_true

end ServerEntry

/-! ## Runs of admin commands in the server -/

/-- A condition on another opcode asks nothing. -/
theorem vacuous_opc {cmd : NvmeCommand} {opc opc' : UInt8} {P : Prop} (h : cmd.opc = opc)
    (hne : opc ≠ opc') : cmd.opc = opc' → P :=
  fun h' => absurd (h.symm.trans h') hne

/-- One command keeps the server's tables in order exactly if it is one of the good ones. -/
theorem cmdEngineProcessAdminCommand_wf_iff {s : Server}
    (hwf : ServerQueuesWf s.ctx.adminCtx) (cmd : NvmeCommand) :
    ServerQueuesWf (cmdEngineProcessAdminCommand s cmd).ctx.adminCtx ↔
      ServerCommandOk s.ctx.adminCtx cmd := by
  rw [cmdEngineProcessAdminCommand_adminCtx]
  have hother : ¬ EditsQueues cmd.opc → ServerCommandOk s.ctx.adminCtx cmd := by
    intro hne
    constructor
    · exact fun h => absurd (Or.inl h) hne
    · exact fun h => absurd (Or.inr (Or.inl h)) hne
    · exact fun h => absurd (Or.inr (Or.inr (Or.inl h))) hne
  cases hr : adminCmdDispatch s.ctx.adminCtx s.shm.dataBuffer cmd with
  | none => exact iff_of_true hwf (hother (adminCmdDispatch_none hr))
  | some r =>
      show ServerQueuesWf r.ctx ↔ _
      -- of the three conditions only the one for the opcode at hand says something
      rcases adminCmdDispatch_cases hr with
        ⟨hopc, rfl⟩ | ⟨hopc, rfl⟩ | ⟨hopc, rfl⟩ | ⟨hopc, rfl⟩ | ⟨hne, hsq, hcq, -⟩
      · rw [adminCmdCreateIoCq_wf_iff hwf]
        refine ⟨fun h => ⟨fun _ => h, ?_, ?_⟩, fun h => h.createCq hopc⟩
        · exact vacuous_opc hopc (by decide)
        · exact vacuous_opc hopc (by decide)
      · rw [adminCmdCreateIoSq_wf_iff hwf]
        refine ⟨fun h => ⟨?_, fun _ => h, ?_⟩, fun h => h.createSq hopc⟩
        · exact vacuous_opc hopc (by decide)
        · exact vacuous_opc hopc (by decide)
      · rw [adminCmdDeleteIoCq_wf_iff hwf]
        refine ⟨fun h => ⟨?_, ?_, fun _ => h⟩, fun h => h.deleteCq hopc⟩
        · exact vacuous_opc hopc (by decide)
        · exact vacuous_opc hopc (by decide)
      · refine iff_of_true (adminCmdDeleteIoSq_wf hwf) ?_
        constructor
        · exact vacuous_opc hopc (by decide)
        · exact vacuous_opc hopc (by decide)
        · exact vacuous_opc hopc (by decide)
      · refine iff_of_true ⟨?_, ?_, ?_⟩ (hother hne)
        · unfold serverCqLive serverSqRef
          rw [hsq, hcq]
          exact hwf.refs
        · rw [hsq]
          exact hwf.sq
        · rw [hcq]
          exact hwf.cq

/-- No queue has been created on the server. -/
def NoServerQueues (ctx : AdminCmdContext) : Prop :=
  ∀ q, (ctx.ioSq q).created = false ∧ (ctx.ioCq q).created = false

theorem NoServerQueues.wf {ctx : AdminCmdContext} (h : NoServerQueues ctx) :
    ServerQueuesWf ctx := by
  constructor
  · apply Closed.empty
    intro q
    rw [serverSqRef, (h q).1]
    rfl
  · intro q hq
    rw [(h q).1] at hq
    cases hq
  · intro q hq
    rw [(h q).2] at hq
    cases hq

/-- **The server's queue tables stay in order exactly as long as the host looks after them**:
in a run from an initialised server, every submission queue has its completion queue and
every queue has two entries or more, if and only if no created queue was asked to be smaller
(a size field of 0 or `0xFFFF`) and no completion queue was deleted under a submission
queue. -/
theorem serverQueues_wf_iff (s : Server) (h : NoServerQueues s.ctx.adminCtx)
    (cmds : List NvmeCommand) :
    Throughout cmdEngineProcessAdminCommand (fun s => ServerQueuesWf s.ctx.adminCtx) s cmds ↔
      EachStep cmdEngineProcessAdminCommand (fun s cmd => ServerCommandOk s.ctx.adminCtx cmd)
        s cmds := by
  refine Runs.throughout_iff (J := fun s => ServerQueuesWf s.ctx.adminCtx) ?_ ?_ ?_ h.wf cmds
  · exact fun _ hwf => hwf
  · exact fun s cmd hwf hok => (cmdEngineProcessAdminCommand_wf_iff hwf cmd).mpr hok
  · exact fun s cmd hwf hbad hwf' => hbad ((cmdEngineProcessAdminCommand_wf_iff hwf cmd).mp hwf')

/-- A server that has just been started, with the shared memory of a fresh driver. -/
def startedServer : Server := ⟨startedEngine, vnvmeAllocateShm⟩

/-- Create a completion queue and a submission queue on it, then delete the former. -/
def danglingCommands : List NvmeCommand :=
  [{ opc := nvmeAdminCreateIoCq, cdw10 := 0x003F0001 },
    { opc := nvmeAdminCreateIoSq, cdw10 := 0x003F0001, cdw11 := 1 },
    { opc := nvmeAdminDeleteIoCq, cdw10 := 1 }]

/-- Create a completion queue of 65536 entries, which is a queue of none. -/
def wrappedSizeCommands : List NvmeCommand :=
  [{ opc := nvmeAdminCreateIoCq, cdw10 := 0xFFFF0001 }]

theorem noServerQueues_started : NoServerQueues startedServer.ctx.adminCtx :=
  fun _ => ⟨rfl, rfl⟩

theorem serverQueues_broken :
    NoServerQueues startedServer.ctx.adminCtx ∧
      ¬ ServerQueuesWf
        (run cmdEngineProcessAdminCommand startedServer danglingCommands).ctx.adminCtx ∧
      ¬ ServerQueuesWf
        (run cmdEngineProcessAdminCommand startedServer wrappedSizeCommands).ctx.adminCtx := by
  refine ⟨noServerQueues_started, fun h => ?_, fun h => ?_⟩
  · have hlive := h.refs 1 1 (by decide)
    exact absurd hlive (by unfold serverCqLive; decide)
  · have hcap := h.cq 1 (by decide)
    exact absurd hcap (by decide)

/-- With the deletions in the right order the tables stay in order. -/
theorem serverQueues_wf_example :
    NoServerQueues startedServer.ctx.adminCtx ∧
      Throughout cmdEngineProcessAdminCommand (fun s => ServerQueuesWf s.ctx.adminCtx)
        startedServer (danglingCommands.take 2) := by
  refine ⟨noServerQueues_started, ?_⟩
  apply (serverQueues_wf_iff startedServer noServerQueues_started _).mpr
  refine Runs.eachStep_cons.mpr ⟨?_, Runs.eachStep_cons.mpr ⟨?_, Runs.eachStep_nil⟩⟩
  · exact ⟨fun _ _ => by decide, fun h => absurd h (by decide), fun h => absurd h (by decide)⟩
  · exact ⟨fun h => absurd h (by decide), fun _ _ => by decide, fun h => absurd h (by decide)⟩

end VirtualNvme
