import VirtualNvme.RingBuffer.Trace
import VirtualNvme.Verification.AdminPhase
import VirtualNvme.Verification.CrashRestart
import VirtualNvme.Verification.QueueTables

/-!
# The I/O queues of the server

The server finds the commands of an I/O queue through the descriptor in its queue table, and
nothing ever stores a descriptor there: a created queue has a base address and a capacity,
and its notifications are passed over. If `IoCmdProcess` is given a command all the same, it
posts the completion with a tail that is always 0 and a phase that never changes.
-/

namespace VirtualNvme

open RingBuffer (Arc)
open Runs (EachStep)

/-! ## Notifications -/

/-- The commands from the head of queue `q` up to `index` have been run, each once and in the
order of the ring, and the head is stored. -/
def IoServedUpTo (c : UInt32) (s s' : Server) (q : UInt16) (index : UInt32) : Prop :=
  ∃ is, Arc c index (s.shm.sq q.toNat).head is ∧ is.Nodup ∧
    s' = (storeHead q.toNat (index, is.foldl (pollIoCommand q) { server := s })).server

/-- The server is about to take the notification `entry` of an I/O queue that is created in its
table, with capacity `c`. -/
structure TakesIo (s : CrashRun) (entry : NotifyEntry) (c : UInt32) : Prop where
  frame : ∃ f, s.frame = some f ∧ f.walk = none ∧ f.head ≠ f.tail ∧
    s.shm.notifyRing.entries f.head = entry
  type : entry.type = 0
  io : entry.queueId ≠ 0
  created : ∃ info, adminCmdGetIoSq s.ctx.adminCtx entry.queueId = some info ∧
    info.created = true ∧ info.capacity = c

/-- Every notification of a created I/O queue that the server takes is served. -/
def IoNotificationsServed (s : CrashRun) (e : CrashEvent) : Prop :=
  e = .server → ∀ entry c, TakesIo s entry c →
    IoServedUpTo c s.server s.advance.server entry.queueId entry.index

/-- No notification of a created I/O queue that the server takes is about a new command. -/
def IoNothingNew (s : CrashRun) (e : CrashEvent) : Prop :=
  e = .server → ∀ entry c, TakesIo s entry c → entry.index = (s.shm.sq entry.queueId.toNat).head

/-- Nothing teaches the server a descriptor. -/
theorem noDescriptors_crashStep {s : CrashRun} (h : NoDescriptors s.ctx.adminCtx)
    (e : CrashEvent) : NoDescriptors (crashStep s e).ctx.adminCtx := by
  cases e with
  | forward q tail mem => exact h
  | server =>
      show NoDescriptors s.advance.ctx.adminCtx
      unfold CrashRun.advance
      dsimp only
      split
      · split_ifs <;> exact h
      · split
        · split_ifs
          · exact h
          · exact adminCommand_noDescriptors h _
        · split_ifs
          · rw [pollFinish_adminCtx]
            exact h
          · exact h
          · split
            · exact h
            · next p hp => exact pollEntry_noDescriptors (p := ⟨s.server, _⟩) h hp
  | abort =>
      simp only [crashStep, CrashRun.abort]
      split <;> exact h
  | crash => exact fun _ => rfl
  | restart config => exact noDescriptors_init s.shm config
  | bus fdo => exact h

/-- A notification of an I/O queue changes nothing. -/
theorem TakesIo.passed {s : CrashRun} {entry : NotifyEntry} {c : UInt32} (h : TakesIo s entry c)
    (hdesc : NoDescriptors s.ctx.adminCtx) : s.advance.server = s.server := by
  obtain ⟨f, hframe, hwalk, hmore, rfl⟩ := h.frame
  have hentry : ¬ ((s.shm.notifyRing.entries f.head).type = 0 ∧
      (s.shm.notifyRing.entries f.head).queueId = 0) := fun hcon => h.io hcon.2
  have hsame : pollEntry 0x10000 { server := s.server, processed := f.processed }
      (s.shm.notifyRing.entries f.head) = some { server := s.server, processed := f.processed } :=
    pollEntry_passed hdesc hentry
  simp only [CrashRun.advance, hframe, hwalk, if_neg hmore, if_neg hentry, hsame]
  rfl

theorem storeHead_head (q : Nat) (r : UInt32 × Polling) :
    ((storeHead q r).server.shm.sq q).head = r.1 := by
  simp [storeHead, Shm.setSq]

/-- A notification that has no effect is served exactly if there was nothing to do. -/
theorem ioServedUpTo_self_iff {c : UInt32} {s : Server} {q : UInt16} {index : UInt32} :
    IoServedUpTo c s s q index ↔ index = (s.shm.sq q.toNat).head := by
  constructor
  · rintro ⟨is, _, _, hs⟩
    rw [hs]
    exact (storeHead_head q.toNat (index, _)).symm
  · rintro rfl
    refine ⟨[], Arc.nil, List.nodup_nil, ?_⟩
    have hsame : s.shm.setSq q.toNat { s.shm.sq q.toNat with head := (s.shm.sq q.toNat).head } =
        s.shm := by
      simp [Shm.setSq]
    exact (congrArg (fun shm => ({ s with shm := shm } : Server)) hsame).symm

/-- **I/O notifications are passed over.** In every run that begins before a server has been
started, the notifications of created I/O queues are all served if and only if none of them
is about a command that was not behind the head already. -/
theorem ioNotifications_served_iff (s : CrashRun) (events : List CrashEvent) :
    EachStep crashStep IoNotificationsServed { s with ctx := {}, frame := none } events ↔
      EachStep crashStep IoNothingNew { s with ctx := {}, frame := none } events := by
  refine Runs.eachStep_congr (J := fun s => NoDescriptors s.ctx.adminCtx)
    (fun s e hs => noDescriptors_crashStep hs e) ?_ (fun _ => rfl) events
  intro s e hdesc
  refine forall_congr' fun _ => forall₃_congr fun entry c htake => ?_
  rw [htake.passed hdesc]
  exact ioServedUpTo_self_iff

/-- A server creates the queue pair 1 and is then notified of a command in it. -/
def ioCommandNotified : List CrashEvent :=
  [.restart {},
    .forward 0 2 (fun i => if i = 0 then { opc := 5, cdw10 := 0x00030001 }
      else { opc := 1, cdw10 := 0x00030001, cdw11 := 1 }),
    .server, .server, .server, .server, .server, .server, .forward 1 1 (fun _ => {}), .server]

/-- The command is not run: the head of the queue stays on slot 0. -/
theorem io_command_not_run :
    ¬ EachStep crashStep IoNotificationsServed readyRun (ioCommandNotified ++ [.server]) := by
  intro h
  have hserved := h ioCommandNotified .server [] rfl rfl
  have htake : TakesIo (Runs.run crashStep readyRun ioCommandNotified) ⟨1, 0, 1⟩ 4 :=
    ⟨⟨_, rfl, by decide, by decide, by decide⟩, by decide, by decide,
      ⟨_, rfl, by decide, by decide⟩⟩
  obtain ⟨is, _, _, hs⟩ := hserved ⟨1, 0, 1⟩ 4 htake
  have hhead := storeHead_head 1 (1, is.foldl (pollIoCommand 1)
    { server := (Runs.run crashStep readyRun ioCommandNotified).server })
  have hstored : (((Runs.run crashStep readyRun ioCommandNotified).advance.server).shm.sq 1).head =
      1 := (congrArg (fun v : Server => (v.shm.sq 1).head) hs).trans hhead
  revert hstored
  decide

/-! ## Completions -/

/-- A command that is given to the server. -/
inductive ServerCommand where
  | admin (cmd : NvmeCommand)
  | io (queueId : UInt16) (cmd : NvmeCommand)

def serve (s : Server) : ServerCommand → Server
  | .admin cmd => cmdEngineProcessAdminCommand s cmd
  | .io queueId cmd => ioCmdProcess s cmd queueId

/-- `cmd` creates a completion queue that did not exist. -/
structure CreatesCq (ctx : AdminCmdContext) (cmd : NvmeCommand) : Prop where
  opc : cmd.opc = nvmeAdminCreateIoCq
  qid : ctx.badQid (cdwLow cmd.cdw10) = false
  new : (ctx.ioCq (cdwLow cmd.cdw10).toNat).created = false

/-- The commands leave completion queue `q` in existence. -/
def KeepsCq (q : UInt16) (cmds : List ServerCommand) : Prop :=
  ∀ cmd, .admin cmd ∈ cmds → ¬ (cmd.opc = nvmeAdminDeleteIoCq ∧ cdwLow cmd.cdw10 = q)

/-- Submission queue `queueId` exists and is bound to completion queue `q`. -/
def boundTo (ctx : AdminCmdContext) (q queueId : UInt16) : Bool :=
  queueId ≤ 16 && (adminCmdGetIoSq ctx queueId).any fun info =>
    info.created && info.cqId.toUInt16 = q

/-- `cmd` is an I/O command on a queue that is bound to `q` when the server gets it. -/
def completesIn (s : Server) (q : UInt16) : ServerCommand → Bool
  | .admin _ => false
  | .io queueId _ => boundTo s.ctx.adminCtx q queueId

/-- The number of I/O commands on queues that are bound to `q`. -/
def commandsFor (q : UInt16) (s : Server) : List ServerCommand → Nat
  | [] => 0
  | cmd :: cmds => (completesIn s q cmd).toNat + commandsFor q (serve s cmd) cmds

/-- The entries of a completion queue with `c` slots, as slots and phases: entry `k` is in slot
`k mod c` and has phase 1 in every other pass, from the first one on, and no entry lies on an
earlier one of its pass. -/
structure CqRule (c : UInt32) (ws : List (UInt32 × Bool)) : Prop where
  placed : ∀ k w, ws[k]? = some w →
    w.1.toNat = k % c.toNat ∧ (w.2 = true ↔ k / c.toNat % 2 = 0)
  intact : ∀ i j v w, i < j → i / c.toNat = j / c.toNat → ws[i]? = some v → ws[j]? = some w →
    v.1 ≠ w.1

/-- Completion queue `q` as its creation has left it. -/
structure CqCreated (ctx : AdminCmdContext) (q : UInt16) : Prop where
  qid : ctx.badQid q = false
  created : (ctx.ioCq q.toNat).created = true
  cqBase : (ctx.ioCq q.toNat).cqBase = true
  phase : (ctx.ioCq q.toNat).phase = 1

theorem CqCreated.of_eq {ctx ctx' : AdminCmdContext} {q : UInt16} (h : CqCreated ctx q)
    (hmax : ctx'.maxIoQueues = ctx.maxIoQueues) (hcq : ctx'.ioCq q.toNat = ctx.ioCq q.toNat) :
    CqCreated ctx' q := by
  refine ⟨?_, ?_, ?_, ?_⟩
  · rw [AdminCmdContext.badQid, hmax]
    exact h.qid
  · rw [hcq]
    exact h.created
  · rw [hcq]
    exact h.cqBase
  · rw [hcq]
    exact h.phase

/-- A completion queue starts on phase 1. -/
theorem CreatesCq.created {ctx : AdminCmdContext} {cmd : NvmeCommand} (h : CreatesCq ctx cmd)
    (data : UInt32 → UInt8) :
    CqCreated (adminCmdCreateIoCq ctx data cmd).ctx (cdwLow cmd.cdw10) := by
  have hq := h.qid
  have hnew := h.new
  simp only [adminCmdCreateIoCq, hq, hnew, Bool.false_eq_true, if_false, AdminCmdContext.reply]
  refine ⟨hq, ?_, ?_, ?_⟩
  all_goals simp

/-- Of the four handlers that edit the tables, only the one that deletes `q` touches its
record. -/
theorem CqCreated.adminCommand {s : Server} {q : UInt16} (h : CqCreated s.ctx.adminCtx q)
    {cmd : NvmeCommand} (hkeep : ¬ (cmd.opc = nvmeAdminDeleteIoCq ∧ cdwLow cmd.cdw10 = q)) :
    CqCreated (cmdEngineProcessAdminCommand s cmd).ctx.adminCtx q := by
  rw [cmdEngineProcessAdminCommand_adminCtx]
  cases hr : adminCmdDispatch s.ctx.adminCtx s.shm.dataBuffer cmd with
  | none => exact h
  | some r =>
      show CqCreated r.ctx q
      rcases adminCmdDispatch_cases hr with
        ⟨-, rfl⟩ | ⟨-, rfl⟩ | ⟨hopc, rfl⟩ | ⟨-, rfl⟩ | ⟨-, -, hcq, hmax⟩
      · simp only [adminCmdCreateIoCq]
        split_ifs with hbad hcreated
        · exact h
        · exact h
        · refine h.of_eq rfl (Function.update_of_ne ?_ _ _)
          intro heq
          rw [← heq] at hcreated
          exact hcreated h.created
      · simp only [adminCmdCreateIoSq]
        split_ifs <;> exact h.of_eq rfl rfl
      · simp only [adminCmdDeleteIoCq]
        split_ifs
        · exact h
        · exact h
        · refine h.of_eq rfl (Function.update_of_ne ?_ _ _)
          intro heq
          exact hkeep ⟨hopc, (UInt16.toNat_inj.mp heq).symm⟩
      · simp only [adminCmdDeleteIoSq]
        split_ifs <;> exact h.of_eq rfl rfl
      · exact h.of_eq hmax (congrFun hcq _)

theorem adminCommand_userCqLog (s : Server) (cmd : NvmeCommand) :
    (cmdEngineProcessAdminCommand s cmd).shm.userCqLog = s.shm.userCqLog := by
  unfold cmdEngineProcessAdminCommand
  cases adminCmdDispatch s.ctx.adminCtx s.shm.dataBuffer cmd <;> rfl

theorem boundTo_iff {ctx : AdminCmdContext} {q queueId : UInt16} :
    boundTo ctx q queueId = true ↔ queueId ≤ 16 ∧ ∃ info,
      adminCmdGetIoSq ctx queueId = some info ∧ info.created = true ∧ info.cqId.toUInt16 = q := by
  simp [boundTo, Option.any_eq_true]

/-- A completion goes to the queue that the submission queue is bound to, in slot 0. -/
theorem ioPost_userCqLog_bound {s : Server} {q queueId : UInt16}
    (h : CqCreated s.ctx.adminCtx q) (hbound : boundTo s.ctx.adminCtx q queueId = true)
    (cid : UInt16) (sct sc : UInt8) :
    (ioCmdPostCompletion s queueId cid sct sc).shm.userCqLog q.toNat =
      s.shm.userCqLog q.toNat ++
        [⟨0, { sqid := queueId, cid := cid, status := nvmeMakeStatus sct sc 1 }⟩] := by
  obtain ⟨hle, info, hget, hcreated, rfl⟩ := boundTo_iff.mp hbound
  have hne : ¬ (queueId = 0 ∨ queueId > 16) := by
    rintro (rfl | hgt)
    · simp [adminCmdGetIoSq, AdminCmdContext.badQid] at hget
    · exact absurd hle (UInt16.not_le.mpr hgt)
  have hcq : adminCmdGetIoCq s.ctx.adminCtx info.cqId.toUInt16 =
      some (s.ctx.adminCtx.ioCq info.cqId.toUInt16.toNat) := by
    rw [adminCmdGetIoCq, h.qid]
    rfl
  simp only [ioCmdPostCompletion, if_neg hne, hget, hcreated, hcq, h.created, h.cqBase, h.phase,
    Bool.not_true, Bool.or_self, Bool.false_eq_true, if_false, Function.update_self]
  rfl

/-- The other completion queues do not hear of it. -/
theorem ioPost_userCqLog_other {s : Server} {q queueId : UInt16}
    (hbound : boundTo s.ctx.adminCtx q queueId = false) (cid : UInt16) (sct sc : UInt8) :
    (ioCmdPostCompletion s queueId cid sct sc).shm.userCqLog q.toNat =
      s.shm.userCqLog q.toNat := by
  simp only [ioCmdPostCompletion]
  split_ifs with hqid
  · rfl
  · split
    · rfl
    · next info hget =>
        split_ifs with hcreated
        · rfl
        · split
          · rfl
          · split_ifs
            · rfl
            · refine Function.update_of_ne ?_ _ _
              intro heq
              have hle : queueId ≤ 16 := UInt16.not_lt.mp fun hgt => hqid (Or.inr hgt)
              have htrue : boundTo s.ctx.adminCtx q queueId = true :=
                boundTo_iff.mpr ⟨hle, info, hget, by simpa using hcreated,
                  (UInt16.toNat_inj.mp heq).symm⟩
              rw [hbound] at htrue
              cases htrue

theorem ioPost_adminCtx (s : Server) (queueId cid : UInt16) (sct sc : UInt8) :
    (ioCmdPostCompletion s queueId cid sct sc).ctx.adminCtx = s.ctx.adminCtx := by
  simp only [ioCmdPostCompletion]
  split_ifs
  · rfl
  · split
    · rfl
    · split_ifs
      · rfl
      · split
        · rfl
        · split_ifs <;> rfl

/-- What one I/O command adds to a completion queue. -/
theorem ioCommand_userCqLog {s : Server} {q : UInt16} (h : CqCreated s.ctx.adminCtx q)
    (queueId : UInt16) (cmd : NvmeCommand) :
    ∃ ws, (ioCmdProcess s cmd queueId).shm.userCqLog q.toNat = s.shm.userCqLog q.toNat ++ ws ∧
      ws.map CqWrite.stamp =
        List.replicate (boundTo s.ctx.adminCtx q queueId).toNat (0, true) := by
  cases hbound : boundTo s.ctx.adminCtx q queueId with
  | true =>
      let r := ioCmdDispatch s.ctx.adminCtx s.ctx.ioCtx s.shm.dataBuffer cmd queueId
      have hphase := nvmeMakeStatus_phase (nvmeStatusSct r.status).toUInt8
        (nvmeStatusSc r.status).toUInt8 true
      refine ⟨[⟨0, { sqid := queueId, cid := cmd.cid
                     status := nvmeMakeStatus (nvmeStatusSct r.status).toUInt8
                       (nvmeStatusSc r.status).toUInt8 1 }⟩], ?_, ?_⟩
      · rw [ioCmdProcess, ioPost_userCqLog_bound]
        · exact h
        · exact hbound
      · simpa [CqWrite.stamp] using hphase
  | false =>
      refine ⟨[], ?_, rfl⟩
      rw [List.append_nil, ioCmdProcess, ioPost_userCqLog_other]
      exact hbound

/-- What a completion queue holds after any number of commands. -/
theorem serve_userCqLog {s : Server} {q : UInt16} (h : CqCreated s.ctx.adminCtx q)
    {cmds : List ServerCommand} (hkeep : KeepsCq q cmds) :
    ∃ ws, (Runs.run serve s cmds).shm.userCqLog q.toNat = s.shm.userCqLog q.toNat ++ ws ∧
      ws.map CqWrite.stamp = List.replicate (commandsFor q s cmds) (0, true) := by
  induction cmds generalizing s with
  | nil => exact ⟨[], (List.append_nil _).symm, rfl⟩
  | cons cmd cmds ih =>
      have hrest : KeepsCq q cmds := fun cmd hmem => hkeep cmd (List.mem_cons_of_mem _ hmem)
      cases cmd with
      | admin cmd =>
          have hcreated := h.adminCommand (hkeep cmd List.mem_cons_self)
          obtain ⟨ws, hlog, hws⟩ := ih hcreated hrest
          refine ⟨ws, ?_, ?_⟩
          · rw [← adminCommand_userCqLog s cmd]
            exact hlog
          · rw [hws, commandsFor, completesIn, Bool.toNat_false, Nat.zero_add]
            rfl
      | io queueId cmd =>
          have hcreated : CqCreated (ioCmdProcess s cmd queueId).ctx.adminCtx q := by
            rw [ioCmdProcess, ioPost_adminCtx]
            exact h
          obtain ⟨vs, hfirst, hvs⟩ := ioCommand_userCqLog h queueId cmd
          obtain ⟨ws, hlog, hws⟩ := ih hcreated hrest
          refine ⟨vs ++ ws, ?_, ?_⟩
          · rw [← List.append_assoc, ← hfirst]
            exact hlog
          · rw [List.map_append, hvs, hws, ← List.replicate_add]
            rfl

theorem cqRule_replicate_iff (c : UInt32) (n : Nat) :
    CqRule c (List.replicate n (0, true)) ↔ n ≤ 1 := by
  have hget : ∀ {k : Nat} {w : UInt32 × Bool}, (List.replicate n (0, true))[k]? = some w →
      k < n ∧ w = (0, true) := by
    intro k w hw
    obtain ⟨hk, rfl⟩ := List.getElem?_eq_some_iff.mp hw
    exact ⟨by simpa using hk, List.getElem_replicate _⟩
  constructor
  · intro h
    by_contra hn
    -- the second entry: in slot 1 if there is one, and in the second pass otherwise
    obtain ⟨hslot, hphase⟩ := h.placed 1 (0, true)
      (List.getElem?_replicate_of_lt (by omega))
    rcases Nat.lt_trichotomy c.toNat 1 with hc | hc | hc
    · rw [Nat.lt_one_iff.mp hc] at hslot
      exact absurd hslot (by decide)
    · rw [hc] at hphase
      exact absurd (hphase.mp rfl) (by decide)
    · rw [Nat.mod_eq_of_lt hc] at hslot
      exact absurd hslot (by decide)
  · intro hn
    constructor
    · intro k w hw
      obtain ⟨hk, rfl⟩ := hget hw
      obtain rfl : k = 0 := by omega
      rw [Nat.zero_mod, Nat.zero_div]
      exact ⟨rfl, iff_of_true rfl rfl⟩
    · intro i j v w hij _ _ hw
      have hj := (hget hw).1
      omega

/-- The capacity that a server has noted for completion queue `q`. -/
def serverCqCapacity (s : Server) (q : UInt16) : UInt32 := (s.ctx.adminCtx.ioCq q.toNat).capacity

/-- **I/O completions.** From the creation of a completion queue on, whatever the server is
told to do short of deleting it, its entries follow the slot and phase rule if and only if
at most one of the I/O commands was on a queue bound to it. -/
theorem ioCq_rule_iff (s : Server) (create : NvmeCommand) (cmds : List ServerCommand)
    (hcreate : CreatesCq s.ctx.adminCtx create) (hkeep : KeepsCq (cdwLow create.cdw10) cmds) :
    CqRule (serverCqCapacity (serve s (.admin create)) (cdwLow create.cdw10))
        (since (s.shm.userCqLog (cdwLow create.cdw10).toNat).length
          ((Runs.run serve s (.admin create :: cmds)).shm.userCqLog
            (cdwLow create.cdw10).toNat)) ↔
      commandsFor (cdwLow create.cdw10) s (.admin create :: cmds) ≤ 1 := by
  have hcreated : CqCreated (cmdEngineProcessAdminCommand s create).ctx.adminCtx
      (cdwLow create.cdw10) := by
    have hdispatch : adminCmdDispatch s.ctx.adminCtx s.shm.dataBuffer create =
        some (adminCmdCreateIoCq s.ctx.adminCtx s.shm.dataBuffer create) := by
      rw [adminCmdDispatch, hcreate.opc]
      rfl
    rw [cmdEngineProcessAdminCommand_adminCtx, hdispatch]
    exact hcreate.created _
  obtain ⟨ws, hlog, hws⟩ := serve_userCqLog hcreated hkeep
  have hsince : since (s.shm.userCqLog (cdwLow create.cdw10).toNat).length
      ((Runs.run serve s (.admin create :: cmds)).shm.userCqLog (cdwLow create.cdw10).toNat) =
        List.replicate (commandsFor (cdwLow create.cdw10) s (.admin create :: cmds)) (0, true) := by
    have hrun : (Runs.run serve s (.admin create :: cmds)).shm.userCqLog
        (cdwLow create.cdw10).toNat = s.shm.userCqLog (cdwLow create.cdw10).toNat ++ ws := by
      rw [← adminCommand_userCqLog s create]
      exact hlog
    rw [since, hrun, List.drop_left, hws, commandsFor, completesIn, Bool.toNat_false,
      Nat.zero_add]
    rfl
  rw [hsince]
  exact cqRule_replicate_iff _ _

/-- The command that creates completion queue 1 with four slots. -/
def serverCreateCq : NvmeCommand := { opc := nvmeAdminCreateIoCq, cdw10 := 0x00030001 }

/-- The command that creates submission queue 1, bound to completion queue 1. -/
def serverCreateSq : NvmeCommand := { opc := nvmeAdminCreateIoSq, cdw10 := 0x00030001, cdw11 := 1 }

def serverFlush : NvmeCommand := { opc := nvmeIoFlush, cid := 7, nsid := 1 }

theorem serverCreateCq_creates : CreatesCq startedServer.ctx.adminCtx serverCreateCq :=
  ⟨rfl, by decide, by decide⟩

theorem ioCq_rule_iff_once :
    CqRule 4 (since 0 ((Runs.run serve startedServer
      [.admin serverCreateCq, .admin serverCreateSq, .io 1 serverFlush]).shm.userCqLog 1)) := by
  have hkeep : KeepsCq 1 [.admin serverCreateSq, .io 1 serverFlush] := by
    intro cmd hmem
    simp only [List.mem_cons, ServerCommand.admin.injEq, reduceCtorEq, List.not_mem_nil,
      or_false] at hmem
    rw [hmem]
    decide
  exact (ioCq_rule_iff startedServer serverCreateCq _ serverCreateCq_creates hkeep).mpr (by decide)

/-- The completion of the second command lies on that of the first. -/
theorem io_completion_overwritten :
    CreatesCq startedServer.ctx.adminCtx serverCreateCq ∧
      ¬ CqRule 4 (since 0 ((Runs.run serve startedServer
        [.admin serverCreateCq, .admin serverCreateSq, .io 1 serverFlush,
          .io 1 serverFlush]).shm.userCqLog 1)) := by
  refine ⟨serverCreateCq_creates, fun h => ?_⟩
  have hslot := (h.placed 1 (0, true) (by decide)).1
  exact absurd hslot (by decide)

end VirtualNvme
