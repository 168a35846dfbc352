import VirtualNvme.Server.CommandEngine
import VirtualNvme.Verification.QueueChecks

/-!
# What the server leaves alone

Running a command, the server writes to a completion queue, to the data buffer and to
its own tables. It does not touch the submission queues, their descriptors or the notify
ring (`Serving`). One notification moves the heads of descriptors at most (`Polled`). The
server never learns the descriptor of an I/O queue (`NoDescriptors`).
-/

namespace VirtualNvme

open RingBuffer

/-- `b` is the server `a` after some commands. -/
structure Serving (a b : Server) : Prop where
  sq : b.shm.sq = a.shm.sq
  sqMem : b.shm.sqMem = a.shm.sqMem
  notifyRing : b.shm.notifyRing = a.shm.notifyRing
  notifyRingOffset : b.shm.notifyRingOffset = a.shm.notifyRingOffset
  gates : b.shm.gates = a.shm.gates
  initialized : b.ctx.initialized = a.ctx.initialized

theorem Serving.refl (a : Server) : Serving a a := ⟨rfl, rfl, rfl, rfl, rfl, rfl⟩

theorem Serving.trans {a b c : Server} (h : Serving a b) (h' : Serving b c) : Serving a c :=
  ⟨h'.sq.trans h.sq, h'.sqMem.trans h.sqMem, h'.notifyRing.trans h.notifyRing,
    h'.notifyRingOffset.trans h.notifyRingOffset, h'.gates.trans h.gates,
    h'.initialized.trans h.initialized⟩

theorem serving_adminCommand (s : Server) (cmd : NvmeCommand) :
    Serving s (cmdEngineProcessAdminCommand s cmd) := by
  unfold cmdEngineProcessAdminCommand
  cases adminCmdDispatch s.ctx.adminCtx s.shm.dataBuffer cmd with
  | none => exact ⟨rfl, rfl, rfl, rfl, rfl, rfl⟩
  | some r => exact ⟨rfl, rfl, rfl, rfl, rfl, rfl⟩

theorem serving_ioPost (s : Server) (queueId cid : UInt16) (sct sc : UInt8) :
    Serving s (ioCmdPostCompletion s queueId cid sct sc) := by
  unfold ioCmdPostCompletion
  split
  · exact Serving.refl s
  · split
    · exact Serving.refl s
    · split
      · exact Serving.refl s
      · split
        · exact Serving.refl s
        · split
          · exact Serving.refl s
          · exact ⟨rfl, rfl, rfl, rfl, rfl, rfl⟩

theorem serving_ioCommand (s : Server) (cmd : NvmeCommand) (queueId : UInt16) :
    Serving s (ioCmdProcess s cmd queueId) := by
  unfold ioCmdProcess
  refine Serving.trans ?_ (serving_ioPost _ _ _ _ _)
  exact ⟨rfl, rfl, rfl, rfl, rfl, rfl⟩

/-- `b` is the server `a` after some notifications. -/
structure Polled (a b : Server) : Prop where
  sq : ∀ q, ∃ head, b.shm.sq q = { a.shm.sq q with head := head }
  sqMem : b.shm.sqMem = a.shm.sqMem
  notifyRing : b.shm.notifyRing = a.shm.notifyRing
  notifyRingOffset : b.shm.notifyRingOffset = a.shm.notifyRingOffset
  gates : b.shm.gates = a.shm.gates
  initialized : b.ctx.initialized = a.ctx.initialized

theorem Polled.refl (a : Server) : Polled a a :=
  ⟨fun q => ⟨(a.shm.sq q).head, rfl⟩, rfl, rfl, rfl, rfl, rfl⟩

theorem Polled.trans {a b c : Server} (h : Polled a b) (h' : Polled b c) : Polled a c := by
  refine ⟨fun q => ?_, h'.sqMem.trans h.sqMem, h'.notifyRing.trans h.notifyRing,
    h'.notifyRingOffset.trans h.notifyRingOffset, h'.gates.trans h.gates,
    h'.initialized.trans h.initialized⟩
  obtain ⟨head, hb⟩ := h.sq q
  obtain ⟨head', hc⟩ := h'.sq q
  exact ⟨head', by rw [hc, hb]⟩

/-- Storing a head after running commands. -/
theorem Serving.storeHead {a b : Server} (h : Serving a b) (q : Nat) (head : UInt32) :
    Polled a { b with shm := b.shm.setSq q { b.shm.sq q with head := head } } := by
  refine ⟨fun r => ?_, h.sqMem, h.notifyRing, h.notifyRingOffset, ?_, h.initialized⟩
  · by_cases hr : r = q
    · subst hr
      exact ⟨head, by simp [Shm.setSq, h.sq]⟩
    · exact ⟨(a.shm.sq r).head, by simp [Shm.setSq, h.sq, hr]⟩
  · rw [← h.gates]
    exact Shm.gates_eq (update_admin QueueDescriptor.valid fun _ => by rfl) rfl rfl rfl

/-- The head a finished admin notification leaves behind is its index; the descriptors of
the I/O queues stay as they are. -/
theorem pollAdminQueue_spec {fuel : Nat} {p p' : Polling} {index : UInt32}
    (h : pollAdminQueue fuel p index = some p') :
    Polled p.server p'.server ∧ (p'.server.shm.sq 0).head = index ∧
      ∀ q, q ≠ 0 → p'.server.shm.sq q = p.server.shm.sq q := by
  obtain ⟨r, hr, rfl⟩ := Option.map_eq_some_iff.mp h
  obtain ⟨hend, hserv⟩ := walk_induct (I := fun x => Serving p.server x.server)
    (by
      intro s i s' hs hs'
      rw [← Option.some.inj hs']
      exact hs.trans (serving_adminCommand _ _))
    (Serving.refl p.server) hr
  refine ⟨hserv.storeHead 0 r.1, ?_, ?_⟩
  · simp [storeHead, Shm.setSq, hend]
  · intro q hq
    simp [storeHead, Shm.setSq, hq, hserv.sq]

theorem pollIoQueue_spec {fuel : Nat} {p p' : Polling} {queueId : UInt16} {index : UInt32}
    (h : pollIoQueue fuel p queueId index = some p') : Polled p.server p'.server := by
  unfold pollIoQueue at h
  split at h
  · rw [← Option.some.inj h]
    exact Polled.refl _
  · split at h
    · rw [← Option.some.inj h]
      exact Polled.refl _
    · split at h
      · rw [← Option.some.inj h]
        exact Polled.refl _
      · obtain ⟨r, hr, rfl⟩ := Option.map_eq_some_iff.mp h
        obtain ⟨_, hserv⟩ := walk_induct (I := fun x => Serving p.server x.server)
          (by
            intro s i s' hs hs'
            rw [← Option.some.inj hs']
            exact hs.trans (serving_ioCommand _ _ _))
          (Serving.refl p.server) hr
        exact hserv.storeHead _ r.1

theorem pollEntry_polled {fuel : Nat} {p p' : Polling} {entry : NotifyEntry}
    (h : pollEntry fuel p entry = some p') : Polled p.server p'.server := by
  unfold pollEntry at h
  split_ifs at h
  · exact (pollAdminQueue_spec h).1
  · exact pollIoQueue_spec h
  · rw [← Option.some.inj h]
    exact Polled.refl _

/-! ## The capacity of the admin completion queue -/

section Finish

variable (p : Polling) (head : UInt32)

@[simp] theorem pollFinish_sq : (pollFinish p head).shm.sq = p.server.shm.sq := by
  simp only [pollFinish]
  split_ifs <;> rfl

@[simp] theorem pollFinish_adminCtx :
    (pollFinish p head).ctx.adminCtx = p.server.ctx.adminCtx := by
  simp only [pollFinish]
  split_ifs <;> rfl

@[simp] theorem pollFinish_initialized :
    (pollFinish p head).ctx.initialized = p.server.ctx.initialized := by
  simp only [pollFinish]
  split_ifs <;> rfl

@[simp] theorem pollFinish_notifyRing :
    (pollFinish p head).shm.notifyRing = { p.server.shm.notifyRing with head := head } := by
  simp only [pollFinish]
  split_ifs <;> rfl

@[simp] theorem pollFinish_notifyRingOffset :
    (pollFinish p head).shm.notifyRingOffset = p.server.shm.notifyRingOffset := by
  simp only [pollFinish]
  split_ifs <;> rfl

end Finish

theorem adminCommand_cqCapacity (s : Server) (cmd : NvmeCommand) :
    ((cmdEngineProcessAdminCommand s cmd).shm.cq 0).capacity = (s.shm.cq 0).capacity := by
  unfold cmdEngineProcessAdminCommand
  cases adminCmdDispatch s.ctx.adminCtx s.shm.dataBuffer cmd with
  | none => rfl
  | some r => rfl

theorem ioCommand_cq (s : Server) (cmd : NvmeCommand) (queueId : UInt16) :
    (ioCmdProcess s cmd queueId).shm.cq = s.shm.cq := by
  simp only [ioCmdProcess, ioCmdPostCompletion]
  split_ifs
  · rfl
  · split
    · rfl
    · split_ifs
      · rfl
      · split
        · rfl
        · split_ifs
          · rfl
          · rfl

theorem pollEntry_cqCapacity {fuel : Nat} {p p' : Polling} {entry : NotifyEntry}
    (h : pollEntry fuel p entry = some p') :
    (p'.server.shm.cq 0).capacity = (p.server.shm.cq 0).capacity := by
  simp only [pollEntry, pollAdminQueue, pollIoQueue] at h
  split_ifs at h
  · obtain ⟨r, hr, rfl⟩ := Option.map_eq_some_iff.mp h
    refine (walk_induct (I := fun x => (x.server.shm.cq 0).capacity =
      (p.server.shm.cq 0).capacity) ?_ rfl hr).2
    intro s i s' hs hs'
    rw [← Option.some.inj hs']
    exact (adminCommand_cqCapacity _ _).trans hs
  · split at h
    · rw [← Option.some.inj h]
    · split_ifs at h
      · rw [← Option.some.inj h]
      · split at h
        · rw [← Option.some.inj h]
        · obtain ⟨r, hr, rfl⟩ := Option.map_eq_some_iff.mp h
          refine (walk_induct (I := fun x => (x.server.shm.cq 0).capacity =
            (p.server.shm.cq 0).capacity) ?_ rfl hr).2
          intro s i s' hs hs'
          rw [← Option.some.inj hs', ← hs]
          exact congrArg (fun cq => (cq 0).capacity) (ioCommand_cq _ _ _)
  · rw [← Option.some.inj h]

/-! ## The descriptors of the I/O queues -/

/-- No I/O submission queue of the server has a descriptor. -/
def NoDescriptors (ctx : AdminCmdContext) : Prop := ∀ q, (ctx.ioSq q).descriptor = none

theorem NoDescriptors.update {ctx : AdminCmdContext} (h : NoDescriptors ctx) (q : Nat)
    {info : AdminIoQueueInfo} (hinfo : info.descriptor = none) :
    NoDescriptors { ctx with ioSq := Function.update ctx.ioSq q info } := by
  intro r
  by_cases hr : r = q
  · subst hr
    simpa using hinfo
  · simpa [hr] using h r

theorem adminCmdCreateIoSq_noDescriptors {ctx : AdminCmdContext} (h : NoDescriptors ctx)
    (data : UInt32 → UInt8) (cmd : NvmeCommand) :
    NoDescriptors (adminCmdCreateIoSq ctx data cmd).ctx := by
  simp only [adminCmdCreateIoSq]
  split_ifs
  · exact h
  · exact h
  · exact h
  · exact h.update _ (h _)

theorem adminCmdDeleteIoSq_noDescriptors {ctx : AdminCmdContext} (h : NoDescriptors ctx)
    (data : UInt32 → UInt8) (cmd : NvmeCommand) :
    NoDescriptors (adminCmdDeleteIoSq ctx data cmd).ctx := by
  simp only [adminCmdDeleteIoSq]
  split_ifs
  · exact h
  · exact h
  · exact h.update _ rfl

theorem adminCmdIdentifyNamespace_ctx (ctx : AdminCmdContext) (data : UInt32 → UInt8)
    (cmd : NvmeCommand) : (adminCmdIdentifyNamespace ctx data cmd).ctx = ctx := by
  by_cases h : cmd.nsid = 0 ∨ cmd.nsid > ctx.namespaceCount
  · exact congrArg AdminReply.ctx (if_pos h)
  · exact congrArg AdminReply.ctx (if_neg h)

/-- The commands that edit the queue tables. -/
def EditsQueues (opc : UInt8) : Prop :=
  opc = nvmeAdminCreateIoCq ∨ opc = nvmeAdminCreateIoSq ∨ opc = nvmeAdminDeleteIoCq ∨
    opc = nvmeAdminDeleteIoSq

/-- The queue tables are edited by four handlers, and the others leave them alone. -/
theorem adminCmdDispatch_cases {ctx : AdminCmdContext} {data : UInt32 → UInt8}
    {cmd : NvmeCommand} {r : AdminReply} (hr : adminCmdDispatch ctx data cmd = some r) :
    (cmd.opc = nvmeAdminCreateIoCq ∧ r = adminCmdCreateIoCq ctx data cmd) ∨
      (cmd.opc = nvmeAdminCreateIoSq ∧ r = adminCmdCreateIoSq ctx data cmd) ∨
      (cmd.opc = nvmeAdminDeleteIoCq ∧ r = adminCmdDeleteIoCq ctx data cmd) ∨
      (cmd.opc = nvmeAdminDeleteIoSq ∧ r = adminCmdDeleteIoSq ctx data cmd) ∨
      (¬ EditsQueues cmd.opc ∧ r.ctx.ioSq = ctx.ioSq ∧ r.ctx.ioCq = ctx.ioCq ∧
        r.ctx.maxIoQueues = ctx.maxIoQueues) := by
  have hother : ∀ {opc : UInt8}, cmd.opc = opc → ¬ EditsQueues opc →
      r.ctx.ioSq = ctx.ioSq → r.ctx.ioCq = ctx.ioCq → r.ctx.maxIoQueues = ctx.maxIoQueues →
      ¬ EditsQueues cmd.opc ∧ r.ctx.ioSq = ctx.ioSq ∧ r.ctx.ioCq = ctx.ioCq ∧
        r.ctx.maxIoQueues = ctx.maxIoQueues := by
    rintro opc rfl hne hsq hcq hmax
    exact ⟨hne, hsq, hcq, hmax⟩
  unfold adminCmdDispatch at hr
  -- one handler after the other, in the order of the dispatch
  rcases ite_eq_iff.mp hr with ⟨hopc, h⟩ | ⟨_, hr⟩
  · obtain rfl := Option.some.inj h
    have hctx : (adminCmdIdentify ctx data cmd).ctx = ctx := by
      simp only [adminCmdIdentify]
      split_ifs
      · rw [adminCmdIdentifyNamespace_ctx]
      all_goals rfl
    refine Or.inr (Or.inr (Or.inr (Or.inr ?_)))
    exact hother hopc (by unfold EditsQueues; decide) (by rw [hctx]) (by rw [hctx])
      (by rw [hctx])
  rcases ite_eq_iff.mp hr with ⟨hopc, h⟩ | ⟨_, hr⟩
  · exact Or.inl ⟨hopc, (Option.some.inj h).symm⟩
  rcases ite_eq_iff.mp hr with ⟨hopc, h⟩ | ⟨_, hr⟩
  · exact Or.inr (Or.inl ⟨hopc, (Option.some.inj h).symm⟩)
  rcases ite_eq_iff.mp hr with ⟨hopc, h⟩ | ⟨_, hr⟩
  · exact Or.inr (Or.inr (Or.inl ⟨hopc, (Option.some.inj h).symm⟩))
  rcases ite_eq_iff.mp hr with ⟨hopc, h⟩ | ⟨_, hr⟩
  · exact Or.inr (Or.inr (Or.inr (Or.inl ⟨hopc, (Option.some.inj h).symm⟩)))
  rcases ite_eq_iff.mp hr with ⟨hopc, h⟩ | ⟨_, hr⟩
  · obtain rfl := Option.some.inj h
    refine Or.inr (Or.inr (Or.inr (Or.inr ?_)))
    apply hother hopc
    · unfold EditsQueues
      decide
    all_goals
      simp only [adminCmdSetFeatures]
      split_ifs <;> rfl
  rcases ite_eq_iff.mp hr with ⟨hopc, h⟩ | ⟨_, hr⟩
  · obtain rfl := Option.some.inj h
    refine Or.inr (Or.inr (Or.inr (Or.inr ?_)))
    exact hother hopc (by unfold EditsQueues; decide) rfl rfl rfl
  rcases ite_eq_iff.mp hr with ⟨hopc, h⟩ | ⟨_, hr⟩
  · obtain rfl := Option.some.inj h
    refine Or.inr (Or.inr (Or.inr (Or.inr ?_)))
    exact hother hopc (by unfold EditsQueues; decide) rfl rfl rfl
  rcases ite_eq_iff.mp hr with ⟨hopc, h⟩ | ⟨_, hr⟩
  · obtain rfl := Option.some.inj h
    refine Or.inr (Or.inr (Or.inr (Or.inr ?_)))
    apply hother hopc
    · unfold EditsQueues
      decide
    all_goals
      simp only [adminCmdGetLogPage]
      split_ifs <;> rfl
  rcases ite_eq_iff.mp hr with ⟨hopc, h⟩ | ⟨_, hr⟩
  · obtain rfl := Option.some.inj h
    refine Or.inr (Or.inr (Or.inr (Or.inr ?_)))
    exact hother hopc (by unfold EditsQueues; decide) rfl rfl rfl
  · cases hr

/-- An unknown opcode edits nothing either. -/
theorem adminCmdDispatch_none {ctx : AdminCmdContext} {data : UInt32 → UInt8}
    {cmd : NvmeCommand} (hr : adminCmdDispatch ctx data cmd = none) :
    ¬ EditsQueues cmd.opc := by
  unfold adminCmdDispatch at hr
  rintro (h | h | h | h)
  · rw [h] at hr
    cases hr
  · rw [h] at hr
    cases hr
  · rw [h] at hr
    cases hr
  · rw [h] at hr
    cases hr

/-- The queue tables of the server after a command are those of its handler. -/
theorem cmdEngineProcessAdminCommand_adminCtx (s : Server) (cmd : NvmeCommand) :
    (cmdEngineProcessAdminCommand s cmd).ctx.adminCtx =
      ((adminCmdDispatch s.ctx.adminCtx s.shm.dataBuffer cmd).elim s.ctx.adminCtx
        AdminReply.ctx) := by
  unfold cmdEngineProcessAdminCommand
  cases adminCmdDispatch s.ctx.adminCtx s.shm.dataBuffer cmd <;> rfl

theorem adminCommand_noDescriptors {s : Server} (h : NoDescriptors s.ctx.adminCtx)
    (cmd : NvmeCommand) : NoDescriptors (cmdEngineProcessAdminCommand s cmd).ctx.adminCtx := by
  rw [cmdEngineProcessAdminCommand_adminCtx]
  cases hr : adminCmdDispatch s.ctx.adminCtx s.shm.dataBuffer cmd with
  | none => exact h
  | some r =>
      show NoDescriptors r.ctx
      rcases adminCmdDispatch_cases hr with ⟨-, rfl⟩ | ⟨-, rfl⟩ | ⟨-, rfl⟩ | ⟨-, rfl⟩ | ⟨-, hsq, -⟩
      · simp only [adminCmdCreateIoCq]
        split_ifs <;> exact h
      · exact adminCmdCreateIoSq_noDescriptors h _ _
      · simp only [adminCmdDeleteIoCq]
        split_ifs <;> exact h
      · exact adminCmdDeleteIoSq_noDescriptors h _ _
      · intro q
        rw [hsq]
        exact h q

theorem pollAdminQueue_noDescriptors {fuel : Nat} {p p' : Polling} {index : UInt32}
    (h : NoDescriptors p.server.ctx.adminCtx) (hp : pollAdminQueue fuel p index = some p') :
    NoDescriptors p'.server.ctx.adminCtx := by
  obtain ⟨r, hr, rfl⟩ := Option.map_eq_some_iff.mp hp
  refine (walk_induct (I := fun x => NoDescriptors x.server.ctx.adminCtx) ?_ h hr).2
  intro s i s' hs hs'
  rw [← Option.some.inj hs']
  exact adminCommand_noDescriptors hs _

/-- Without descriptors an I/O notification is dropped. -/
theorem pollIoQueue_dropped {fuel : Nat} {p : Polling} {queueId : UInt16} {index : UInt32}
    (h : NoDescriptors p.server.ctx.adminCtx) : pollIoQueue fuel p queueId index = some p := by
  unfold pollIoQueue
  cases hq : adminCmdGetIoSq p.server.ctx.adminCtx queueId with
  | none => rfl
  | some info =>
      have hinfo : info.descriptor = none := by
        simp only [adminCmdGetIoSq] at hq
        split_ifs at hq
        rw [← Option.some.inj hq]
        exact h _
      simp only [hinfo]
      split_ifs <;> rfl

/-- Only notifications of the admin queue have an effect. -/
theorem pollEntry_passed {fuel : Nat} {p : Polling} {entry : NotifyEntry}
    (h : NoDescriptors p.server.ctx.adminCtx) (hentry : ¬ (entry.type = 0 ∧ entry.queueId = 0)) :
    pollEntry fuel p entry = some p := by
  unfold pollEntry
  split_ifs with htype hid
  · exact absurd ⟨htype, hid⟩ hentry
  · exact pollIoQueue_dropped h
  · rfl

theorem pollEntry_noDescriptors {fuel : Nat} {p p' : Polling} {entry : NotifyEntry}
    (h : NoDescriptors p.server.ctx.adminCtx) (hp : pollEntry fuel p entry = some p') :
    NoDescriptors p'.server.ctx.adminCtx := by
  unfold pollEntry at hp
  split_ifs at hp
  · exact pollAdminQueue_noDescriptors h hp
  · rw [pollIoQueue_dropped h] at hp
    exact Option.some.inj hp ▸ h
  · exact Option.some.inj hp ▸ h

/-- The loop of `CmdEngineInit`: what holds at first and is kept by each namespace added. -/
theorem cmdEngineInitAdmin_induct {P : AdminCmdContext → Prop} (config : CmdEngineConfig)
    {dataBuffer : Bool} {dataBufferSize : UInt32}
    (hstart : ∀ info, P (adminCmdSetControllerInfo (adminCmdInit dataBuffer dataBufferSize) info))
    (hadd : ∀ ctx info, P ctx → P (adminCmdAddNamespace ctx info)) :
    P (cmdEngineInitAdmin config dataBuffer dataBufferSize) := by
  unfold cmdEngineInitAdmin
  exact List.foldlRecOn _ _ (hstart _) fun ctx hctx _ _ => hadd ctx _ hctx

/-- The server starts without descriptors. -/
theorem cmdEngineInitAdmin_noDescriptors (config : CmdEngineConfig) (dataBuffer : Bool)
    (dataBufferSize : UInt32) :
    NoDescriptors (cmdEngineInitAdmin config dataBuffer dataBufferSize) := by
  refine cmdEngineInitAdmin_induct config (fun _ _ => rfl) fun ctx info hctx => ?_
  simp only [adminCmdAddNamespace]
  split_ifs
  · exact hctx
  · exact hctx

/-- A server that has just been started. -/
def startedEngine : CmdEngineContext := (cmdEngineInit {} vnvmeAllocateShm {}).2

end VirtualNvme
