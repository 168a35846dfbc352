import VirtualNvme.Verification.QueueTables
import VirtualNvme.Verification.TwoHandlers

/-!
# What the server answers to queue commands

The four handlers that edit the queue tables encode a status, `CmdEngineProcessAdminCommand`
takes it apart, and the completion encodes it again. A success should say that the tables have
been changed as the host has asked, and an error that they are as before.
-/

namespace VirtualNvme

/-! ## What the host asks for -/

/-- The number of entries, one more than the field says. -/
def NvmeCommand.askedEntries (cmd : NvmeCommand) : Nat := cmd.cdw10.toNat / 65536 + 1

/-- The new queue is there, with its size. -/
structure NewQueue (before after : Nat → AdminIoQueueInfo) (cmd : NvmeCommand) : Prop where
  isNew : (before cmd.qid.toNat).created = false
  created : (after cmd.qid.toNat).created = true
  capacity : (after cmd.qid.toNat).capacity.toNat = cmd.askedEntries
  others : ∀ q, q ≠ cmd.qid.toNat → after q = before q

/-- The queue was there and is gone. -/
structure GoneQueue (before after : Nat → AdminIoQueueInfo) (cmd : NvmeCommand) : Prop where
  existed : (before cmd.qid.toNat).created = true
  cleared : after cmd.qid.toNat = {}
  others : ∀ q, q ≠ cmd.qid.toNat → after q = before q

/-- The queue tables are changed as the command asks. -/
def ChangedAsAsked (before after : AdminCmdContext) (cmd : NvmeCommand) : Prop :=
  if cmd.opc = nvmeAdminCreateIoCq then
    NewQueue before.ioCq after.ioCq cmd ∧ after.ioSq = before.ioSq
  else if cmd.opc = nvmeAdminCreateIoSq then
    NewQueue before.ioSq after.ioSq cmd ∧
      (after.ioSq cmd.qid.toNat).cqId = cmd.cqid.toUInt32 ∧ after.ioCq = before.ioCq
  else if cmd.opc = nvmeAdminDeleteIoCq then
    GoneQueue before.ioCq after.ioCq cmd ∧ after.ioSq = before.ioSq
  else GoneQueue before.ioSq after.ioSq cmd ∧ after.ioCq = before.ioCq

/-- The command is answered by one completion, of status code type 0 and status code 0. -/
def PostsSuccess (s : Server) (cmd : NvmeCommand) : Prop :=
  ∃ w, (cmdEngineProcessAdminCommand s cmd).shm.cqLog 0 = s.shm.cqLog 0 ++ [w] ∧
    nvmeStatusSct w.entry.status = 0 ∧ nvmeStatusSc w.entry.status = 0

/-- The answer is true: success exactly if the tables are changed as asked, and with an error
they stay. -/
structure AnswersTruly (s : Server) (cmd : NvmeCommand) : Prop where
  success : PostsSuccess s cmd ↔
    ChangedAsAsked s.ctx.adminCtx (cmdEngineProcessAdminCommand s cmd).ctx.adminCtx cmd
  error : ¬ PostsSuccess s cmd →
    (cmdEngineProcessAdminCommand s cmd).ctx.adminCtx.ioSq = s.ctx.adminCtx.ioSq ∧
      (cmdEngineProcessAdminCommand s cmd).ctx.adminCtx.ioCq = s.ctx.adminCtx.ioCq

/-- When the answer is true: a queue that is created has less than 65536 entries, a submission
queue has a completion queue, and the two halves of CDW11 name the same one. -/
structure AnswerOk (ctx : AdminCmdContext) (cmd : NvmeCommand) : Prop where
  createCq : cmd.opc = nvmeAdminCreateIoCq → ServerCqCreatable ctx cmd →
    cmd.askedEntries < 65536
  createSq : cmd.opc = nvmeAdminCreateIoSq → ctx.badQid (cdwLow cmd.cdw10) = false →
    (ctx.badQid (cdwLow cmd.cdw11) = false ∧
      (ctx.ioCq (cdwLow cmd.cdw11).toNat).created = true) ∧
    ((ctx.ioSq (cdwLow cmd.cdw10).toNat).created = false →
      cmd.askedEntries < 65536 ∧ cmd.cdw11 >>> 16 = cmd.cdw11 &&& 0xFFFF)

/-! ## The phase tag -/

/-- `adminCqPhase` is the phase tag of the next lap. -/
def PhaseTag (s : Server) : Prop := s.ctx.adminCqPhase = 0 ∨ s.ctx.adminCqPhase = 1

theorem cmdEngineInit_phaseTag {ctx : CmdEngineContext} {shm : Shm} {config : CmdEngineConfig}
    (h : (cmdEngineInit ctx shm config).1 = true) :
    PhaseTag ⟨(cmdEngineInit ctx shm config).2, shm⟩ := by
  unfold cmdEngineInit at h ⊢
  by_cases hmagic : shm.magic ≠ 0x454D564E
  · rw [if_pos hmagic] at h
    cases h
  · rw [if_neg hmagic]
    exact Or.inr rfl

theorem post_phaseTag {s : Server} (h : PhaseTag s) (cid : UInt16) (dw0 : UInt32)
    (sct sc : UInt8) : PhaseTag (cmdEnginePostAdminCompletion s cid dw0 sct sc) := by
  unfold cmdEnginePostAdminCompletion PhaseTag
  dsimp only
  split_ifs
  · rcases h with h | h
    · rw [h]
      exact Or.inr rfl
    · rw [h]
      exact Or.inl rfl
  · exact h

theorem cmdEngineProcessAdminCommand_phaseTag {s : Server} (h : PhaseTag s) (cmd : NvmeCommand) :
    PhaseTag (cmdEngineProcessAdminCommand s cmd) := by
  unfold cmdEngineProcessAdminCommand
  cases adminCmdDispatch s.ctx.adminCtx s.shm.dataBuffer cmd with
  | none =>
      apply post_phaseTag
      exact h
  | some r =>
      apply post_phaseTag
      exact h

/-- So it is in every run of admin commands. -/
theorem adminRun_phaseTag {s : Server} (h : PhaseTag s) (cmds : List NvmeCommand) :
    PhaseTag (Runs.run cmdEngineProcessAdminCommand s cmds) := by
  refine Runs.run_induct (P := PhaseTag) (fun s cmd hs => ?_) h cmds
  exact cmdEngineProcessAdminCommand_phaseTag hs cmd

/-! ## From the handler to the completion -/

section Answer

variable {s : Server} {cmd : NvmeCommand} {after : AdminCmdContext} {code : UInt32}

/-- The status of a handler's reply, taken apart and put together again on its way. -/
def postedStatus (s : Server) (after : AdminCmdContext) (code : UInt32) : UInt16 :=
  let status := adminMakeStatus 0 code after.adminCqPhase
  nvmeMakeStatus (nvmeStatusSct status).toUInt8 (nvmeStatusSc status).toUInt8
    s.ctx.adminCqPhase.toUInt8

theorem postedStatus_success (hphase : PhaseTag s) (hcode : code = 0 ∨ code = 0x01) :
    (nvmeStatusSct (postedStatus s after code) = 0 ∧
      nvmeStatusSc (postedStatus s after code) = 0) ↔ code = 0 := by
  unfold postedStatus adminMakeStatus
  rcases hcode with rfl | rfl <;> rcases and_one_cases after.adminCqPhase with h | h <;>
    rcases hphase with hp | hp <;> rw [h, hp] <;> decide

theorem postsSuccess_iff (hphase : PhaseTag s) (hcode : code = 0 ∨ code = 0x01)
    (hr : adminCmdDispatch s.ctx.adminCtx s.shm.dataBuffer cmd =
      some (after.reply s.shm.dataBuffer code 0)) : PostsSuccess s cmd ↔ code = 0 := by
  have hlog : (cmdEngineProcessAdminCommand s cmd).shm.cqLog 0 = s.shm.cqLog 0 ++
      [⟨(s.shm.cq 0).tail,
        { sqhd := (s.shm.sq 0).head.toUInt16
          cid := cmd.cid
          status := postedStatus s after code }⟩] := by
    unfold cmdEngineProcessAdminCommand postedStatus
    rw [hr]
    simp [cmdEnginePostAdminCompletion, Shm.setCq, Shm.writeCqe, AdminCmdContext.reply]
  rw [← postedStatus_success hphase hcode]
  constructor
  · rintro ⟨w, hw, hsuccess⟩
    obtain rfl := List.singleton_inj.mp (List.append_cancel_left (hlog.symm.trans hw))
    exact hsuccess
  · exact fun hsuccess => ⟨_, hlog, hsuccess⟩

/-- The answer, by the reply of the handler. -/
theorem answersTruly_reply (hphase : PhaseTag s) (hcode : code = 0 ∨ code = 0x01)
    (hr : adminCmdDispatch s.ctx.adminCtx s.shm.dataBuffer cmd =
      some (after.reply s.shm.dataBuffer code 0)) :
    AnswersTruly s cmd ↔ (code = 0 ↔ ChangedAsAsked s.ctx.adminCtx after cmd) ∧
      (code ≠ 0 → after.ioSq = s.ctx.adminCtx.ioSq ∧ after.ioCq = s.ctx.adminCtx.ioCq) := by
  have hafter : (cmdEngineProcessAdminCommand s cmd).ctx.adminCtx = after := by
    rw [cmdEngineProcessAdminCommand_adminCtx, hr]
    rfl
  have hposts := postsSuccess_iff hphase hcode hr
  constructor
  · rintro ⟨hsuccess, herror⟩
    rw [hafter] at hsuccess herror
    exact ⟨hposts.symm.trans hsuccess, fun hne => herror fun h => hne (hposts.mp h)⟩
  · rintro ⟨hsuccess, herror⟩
    refine ⟨?_, fun h => ?_⟩
    · rw [hafter]
      exact hposts.trans hsuccess
    · rw [hafter]
      exact herror fun hzero => h (hposts.mpr hzero)

/-- Tables that stay are never changed as asked. -/
theorem not_changedAsAsked_self (ctx : AdminCmdContext) (cmd : NvmeCommand) :
    ¬ ChangedAsAsked ctx ctx cmd := by
  have hnew : ∀ table, ¬ NewQueue table table cmd := by
    intro table h
    exact Bool.false_ne_true (h.isNew.symm.trans h.created)
  have hgone : ∀ table, ¬ GoneQueue table table cmd := by
    intro table h
    have hexisted := h.existed
    rw [h.cleared] at hexisted
    cases hexisted
  unfold ChangedAsAsked
  split_ifs
  · exact fun h => hnew _ h.1
  · exact fun h => hnew _ h.1
  · exact fun h => hgone _ h.1
  · exact fun h => hgone _ h.1

/-- An error that leaves all as it is answers truly. -/
theorem answersTruly_refused (hphase : PhaseTag s)
    (hr : adminCmdDispatch s.ctx.adminCtx s.shm.dataBuffer cmd =
      some (s.ctx.adminCtx.reply s.shm.dataBuffer 0x01 0)) : AnswersTruly s cmd := by
  rw [answersTruly_reply hphase (Or.inr rfl) hr]
  refine ⟨iff_of_false (by decide) (not_changedAsAsked_self _ _), fun _ => ⟨rfl, rfl⟩⟩

/-- A success that leaves all as it is does not. -/
theorem answersFalsely_unchanged (hphase : PhaseTag s)
    (hr : adminCmdDispatch s.ctx.adminCtx s.shm.dataBuffer cmd =
      some (s.ctx.adminCtx.reply s.shm.dataBuffer 0x00 0)) : ¬ AnswersTruly s cmd := by
  rw [answersTruly_reply hphase (Or.inl rfl) hr]
  exact fun h => not_changedAsAsked_self _ _ (h.1.mp rfl)

theorem answersTruly_accepted (hphase : PhaseTag s)
    (hr : adminCmdDispatch s.ctx.adminCtx s.shm.dataBuffer cmd =
      some (after.reply s.shm.dataBuffer 0x00 0)) :
    AnswersTruly s cmd ↔ ChangedAsAsked s.ctx.adminCtx after cmd := by
  rw [answersTruly_reply hphase (Or.inl rfl) hr]
  constructor
  · exact fun h => h.1.mp rfl
  · exact fun h => ⟨iff_of_true rfl h, fun hne => absurd rfl hne⟩

end Answer

/-! ## The tables after a command that is accepted -/

section Tables

variable {table : Nat → AdminIoQueueInfo} {info : AdminIoQueueInfo} {cmd : NvmeCommand}

/-- The size is kept in 16 bits. -/
theorem newQueue_update_iff (hnew : (table cmd.qid.toNat).created = false)
    (hcreated : info.created = true)
    (hcapacity : info.capacity = (cdwHigh cmd.cdw10 + 1).toUInt32) :
    NewQueue table (Function.update table cmd.qid.toNat info) cmd ↔
      cmd.askedEntries < 65536 := by
  have hword := cmd.cdw10.toNat_lt
  have hsize : info.capacity.toNat = cmd.askedEntries % 65536 := by
    rw [hcapacity, UInt16.toNat_toUInt32, UInt16.toNat_add, cdwHigh, UInt32.toNat_toUInt16,
      UInt32.toNat_shiftRight, NvmeCommand.askedEntries]
    simp [Nat.shiftRight_eq_div_pow]
  constructor
  · intro h
    have hasked := h.capacity
    rw [Function.update_self, hsize] at hasked
    exact hasked ▸ Nat.mod_lt _ (by decide)
  · intro hfits
    refine ⟨hnew, ?_, ?_, fun q hq => Function.update_of_ne hq _ _⟩
    · rwa [Function.update_self]
    · rw [Function.update_self, hsize]
      exact Nat.mod_eq_of_lt hfits

theorem goneQueue_update (h : (table cmd.qid.toNat).created = true) :
    GoneQueue table (Function.update table cmd.qid.toNat {}) cmd :=
  ⟨h, Function.update_self _ _ _, fun _ hq => Function.update_of_ne hq _ _⟩

end Tables

/-! ## The four commands -/

section Commands

variable {s : Server} {cmd : NvmeCommand} (hphase : PhaseTag s)

include hphase

theorem createIoCq_answersTruly (hopc : cmd.opc = nvmeAdminCreateIoCq) :
    AnswersTruly s cmd ↔ (ServerCqCreatable s.ctx.adminCtx cmd → cmd.askedEntries < 65536) := by
  have hr : adminCmdDispatch s.ctx.adminCtx s.shm.dataBuffer cmd =
      some (adminCmdCreateIoCq s.ctx.adminCtx s.shm.dataBuffer cmd) := by
    rw [adminCmdDispatch, if_neg (by rw [hopc]; decide), if_pos hopc]
  unfold adminCmdCreateIoCq at hr
  dsimp only at hr
  split_ifs at hr with hid hcreated
  · refine iff_of_true (answersTruly_refused hphase hr) fun h => ?_
    exact absurd hid (by rw [h.1]; decide)
  · refine iff_of_true (answersTruly_refused hphase hr) fun h => ?_
    exact absurd hcreated (by rw [h.2]; decide)
  · have hnew := eq_false_of_ne_true hcreated
    rw [answersTruly_accepted hphase hr, ChangedAsAsked, if_pos hopc, and_iff_left rfl,
      imp_iff_right ⟨eq_false_of_ne_true hid, hnew⟩]
    exact newQueue_update_iff hnew rfl rfl

theorem createIoSq_answersTruly (hopc : cmd.opc = nvmeAdminCreateIoSq) :
    AnswersTruly s cmd ↔ (s.ctx.adminCtx.badQid (cdwLow cmd.cdw10) = false →
      (s.ctx.adminCtx.badQid (cdwLow cmd.cdw11) = false ∧
        (s.ctx.adminCtx.ioCq (cdwLow cmd.cdw11).toNat).created = true) ∧
      ((s.ctx.adminCtx.ioSq (cdwLow cmd.cdw10).toNat).created = false →
        cmd.askedEntries < 65536 ∧ cmd.cdw11 >>> 16 = cmd.cdw11 &&& 0xFFFF)) := by
  have hr : adminCmdDispatch s.ctx.adminCtx s.shm.dataBuffer cmd =
      some (adminCmdCreateIoSq s.ctx.adminCtx s.shm.dataBuffer cmd) := by
    rw [adminCmdDispatch, if_neg (by rw [hopc]; decide), if_neg (by rw [hopc]; decide),
      if_pos hopc]
  unfold adminCmdCreateIoSq at hr
  dsimp only at hr
  split_ifs at hr with hid hcq hcreated
  · refine iff_of_true (answersTruly_refused hphase hr) fun h => ?_
    exact absurd hid (by rw [h]; decide)
  · -- the code for a bad completion queue is that of success
    refine iff_of_false (answersFalsely_unchanged hphase hr) fun h => ?_
    obtain ⟨⟨hcqid, hlive⟩, -⟩ := h (eq_false_of_ne_true hid)
    simp [hcqid, hlive] at hcq
  · have hlive : s.ctx.adminCtx.badQid (cdwLow cmd.cdw11) = false ∧
        (s.ctx.adminCtx.ioCq (cdwLow cmd.cdw11).toNat).created = true := by
      simpa using hcq
    refine iff_of_true (answersTruly_refused hphase hr) fun _ => ⟨hlive, fun h => ?_⟩
    exact absurd hcreated (by rw [h]; decide)
  · have hnew := eq_false_of_ne_true hcreated
    have hlive : s.ctx.adminCtx.badQid (cdwLow cmd.cdw11) = false ∧
        (s.ctx.adminCtx.ioCq (cdwLow cmd.cdw11).toNat).created = true := by
      simpa using hcq
    rw [answersTruly_accepted hphase hr, ChangedAsAsked, if_neg (by rw [hopc]; decide),
      if_pos hopc, imp_iff_right (eq_false_of_ne_true hid), and_iff_right hlive,
      imp_iff_right hnew, ← halves_eq_iff]
    refine and_congr (newQueue_update_iff hnew rfl rfl) ((and_iff_left rfl).trans ?_)
    have hself : (Function.update s.ctx.adminCtx.ioSq cmd.qid.toNat
        { s.ctx.adminCtx.ioSq cmd.qid.toNat with
          created := true, capacity := (cdwHigh cmd.cdw10 + 1).toUInt32
          cqId := (cdwLow cmd.cdw11).toUInt32, sqBase := true } cmd.qid.toNat).cqId =
        (cdwLow cmd.cdw11).toUInt32 := by
      rw [Function.update_self]
    refine (Eq.congr_left hself).trans ?_
    constructor
    · intro h
      exact (UInt16.toUInt32_inj.mp h).symm
    · intro h
      exact congrArg UInt16.toUInt32 h.symm

theorem deleteIoCq_answersTruly (hopc : cmd.opc = nvmeAdminDeleteIoCq) : AnswersTruly s cmd := by
  have hr : adminCmdDispatch s.ctx.adminCtx s.shm.dataBuffer cmd =
      some (adminCmdDeleteIoCq s.ctx.adminCtx s.shm.dataBuffer cmd) := by
    rw [adminCmdDispatch, if_neg (by rw [hopc]; decide), if_neg (by rw [hopc]; decide),
      if_neg (by rw [hopc]; decide), if_pos hopc]
  unfold adminCmdDeleteIoCq at hr
  dsimp only at hr
  split_ifs at hr with hid hcreated
  · exact answersTruly_refused hphase hr
  · exact answersTruly_refused hphase hr
  · rw [answersTruly_accepted hphase hr, ChangedAsAsked, if_neg (by rw [hopc]; decide),
      if_neg (by rw [hopc]; decide), if_pos hopc]
    have hexists : (s.ctx.adminCtx.ioCq (cdwLow cmd.cdw10).toNat).created = true := by
      simpa using hcreated
    exact ⟨goneQueue_update hexists, rfl⟩

theorem deleteIoSq_answersTruly (hopc : cmd.opc = nvmeAdminDeleteIoSq) : AnswersTruly s cmd := by
  have hr : adminCmdDispatch s.ctx.adminCtx s.shm.dataBuffer cmd =
      some (adminCmdDeleteIoSq s.ctx.adminCtx s.shm.dataBuffer cmd) := by
    rw [adminCmdDispatch, if_neg (by rw [hopc]; decide), if_neg (by rw [hopc]; decide),
      if_neg (by rw [hopc]; decide), if_neg (by rw [hopc]; decide), if_pos hopc]
  unfold adminCmdDeleteIoSq at hr
  dsimp only at hr
  split_ifs at hr with hid hcreated
  · exact answersTruly_refused hphase hr
  · exact answersTruly_refused hphase hr
  · rw [answersTruly_accepted hphase hr, ChangedAsAsked, if_neg (by rw [hopc]; decide),
      if_neg (by rw [hopc]; decide), if_neg (by rw [hopc]; decide)]
    have hexists : (s.ctx.adminCtx.ioSq (cdwLow cmd.cdw10).toNat).created = true := by
      simpa using hcreated
    exact ⟨goneQueue_update hexists, rfl⟩

/-- **When the server tells the truth.** A queue command is answered with success exactly if the
tables are changed as asked, and with an error only if they stay; unless a queue of 65536 entries
is created, or a submission queue without its completion queue. -/
theorem answersTruly_iff (hopc : EditsQueues cmd.opc) :
    AnswersTruly s cmd ↔ AnswerOk s.ctx.adminCtx cmd := by
  rcases hopc with hopc | hopc | hopc | hopc
  · rw [createIoCq_answersTruly hphase hopc]
    exact ⟨fun h => ⟨fun _ => h, vacuous_opc hopc (by decide)⟩, fun h => h.createCq hopc⟩
  · rw [createIoSq_answersTruly hphase hopc]
    exact ⟨fun h => ⟨vacuous_opc hopc (by decide), fun _ => h⟩, fun h => h.createSq hopc⟩
  · refine iff_of_true (deleteIoCq_answersTruly hphase hopc) ?_
    exact ⟨vacuous_opc hopc (by decide), vacuous_opc hopc (by decide)⟩
  · refine iff_of_true (deleteIoSq_answersTruly hphase hopc) ?_
    exact ⟨vacuous_opc hopc (by decide), vacuous_opc hopc (by decide)⟩

end Commands

/-! ## A submission queue without a completion queue -/

theorem startedServer_phaseTag : PhaseTag startedServer := cmdEngineInit_phaseTag rfl

theorem answersTruly_iff_createCq :
    AnswersTruly startedServer { opc := nvmeAdminCreateIoCq, cdw10 := 0x003F0001 } ↔
      AnswerOk startedServer.ctx.adminCtx { opc := nvmeAdminCreateIoCq, cdw10 := 0x003F0001 } :=
  answersTruly_iff startedServer_phaseTag (Or.inl rfl)

/-- Submission queue 1 on completion queue 1, before that is created. -/
def sqBeforeCq : NvmeCommand :=
  { opc := nvmeAdminCreateIoSq, cdw10 := 0x003F0001, cdw11 := 0x00010001 }

theorem sqBeforeCq_succeeds :
    PostsSuccess startedServer sqBeforeCq ∧
      ((cmdEngineProcessAdminCommand startedServer sqBeforeCq).ctx.adminCtx.ioSq 1).created =
        false ∧
      ¬ AnswersTruly startedServer sqBeforeCq :=
  ⟨⟨_, rfl, by decide, by decide⟩, by decide, answersFalsely_unchanged (Or.inr rfl) rfl⟩

end VirtualNvme
