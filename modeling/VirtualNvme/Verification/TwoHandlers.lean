import VirtualNvme.Driver.AdminCmd
import VirtualNvme.Server.AdminCommands

/-!
# Two handlers for one command

Queue management and Identify Namespace exist twice, in `admin_cmd.c` for kernel mode and in
`admin_commands.c` for the server. On tables that say the same (`SameTables`) the two handlers
should read the same fields, answer alike and leave tables that say the same. They do for
Delete I/O SQ; for the other commands this file says exactly when.
-/

namespace VirtualNvme

/-! ## The commands -/

/-- A command that both sides have a handler for. -/
inductive SharedCommand where
  | createIoCq
  | createIoSq
  | deleteIoCq
  | deleteIoSq
  | identifyNamespace
  deriving Repr, DecidableEq

def SharedCommand.kernel : SharedCommand → PdoContext → Os → NvmeCommand → AdminOutcome
  | .createIoCq => handleCreateIoCq
  | .createIoSq => handleCreateIoSq
  | .deleteIoCq => handleDeleteIoCq
  | .deleteIoSq => handleDeleteIoSq
  | .identifyNamespace => handleIdentifyNamespace

def SharedCommand.server :
    SharedCommand → AdminCmdContext → (UInt32 → UInt8) → NvmeCommand → AdminReply
  | .createIoCq => adminCmdCreateIoCq
  | .createIoSq => adminCmdCreateIoSq
  | .deleteIoCq => adminCmdDeleteIoCq
  | .deleteIoSq => adminCmdDeleteIoSq
  | .identifyNamespace => adminCmdIdentifyNamespace

/-- What the two handlers take from the words of the command is the same; the NSID is a word of
its own. -/
def SharedCommand.SameFields (cmd : NvmeCommand) : SharedCommand → Prop
  | .createIoCq => cmd.qid = cdwLow cmd.cdw10 ∧ cmd.qsize = cdwHigh cmd.cdw10 + 1
  | .createIoSq => cmd.qid = cdwLow cmd.cdw10 ∧ cmd.qsize = cdwHigh cmd.cdw10 + 1 ∧
      cmd.cqid = cdwLow cmd.cdw11
  | .deleteIoCq | .deleteIoSq => cmd.qid = cdwLow cmd.cdw10
  | .identifyNamespace => True

/-- The kernel completes the command with status type 0 and status code 0. -/
def AdminOutcome.Succeeds (r : AdminOutcome) : Prop := ∃ dw0, r.completion = some (dw0, 0, 0)

/-- The server answers with status type 0 and status code 0. -/
def AdminReply.Succeeds (r : AdminReply) : Prop :=
  nvmeStatusSct r.status = 0 ∧ nvmeStatusSc r.status = 0

/-! ## The tables -/

/-- Two records of one queue: both have it or neither, with the same capacity. -/
structure SameQueue (state : QueueState) (info : AdminIoQueueInfo) : Prop where
  created : info.created = state.created
  capacity : state.created = true → info.capacity = state.size

/-- The tables of the controller and of the server say the same. -/
structure SameTables (pdo : PdoContext) (ctx : AdminCmdContext) : Prop where
  limit : ctx.maxIoQueues = 16
  cq : ∀ q, q ≠ 0 → SameQueue (pdo.cq q) (ctx.ioCq q)
  sq : ∀ q, q ≠ 0 → SameQueue (pdo.sq q) (ctx.ioSq q)
  bound : ∀ q, q ≠ 0 → (pdo.sq q).created = true →
    (ctx.ioSq q).cqId = (pdo.sq q).cqId.toUInt32
  active : ∀ i, (ctx.namespaces i).active = (pdo.namespaces i).active
  size : ∀ i, (pdo.namespaces i).active = true →
    (ctx.namespaces i).size = (pdo.namespaces i).totalBlocks ∧
      (ctx.namespaces i).blockSize = (pdo.namespaces i).blockSize
  count : ctx.namespaceCount ≤ 16 ∧
    ∀ i, ctx.namespaceCount.toNat ≤ i → (pdo.namespaces i).active = false

/-- The two handlers of a command agree. -/
structure HandlersAgree (k : SharedCommand) (pdo : PdoContext) (os : Os) (ctx : AdminCmdContext)
    (data : UInt32 → UInt8) (cmd : NvmeCommand) : Prop where
  fields : k.SameFields cmd
  success : (k.kernel pdo os cmd).Succeeds ↔ (k.server ctx data cmd).Succeeds
  tables : SameTables (k.kernel pdo os cmd).pdo (k.server ctx data cmd).ctx

/-- The kernel can bring a page of data to the host page of the command. -/
def HostPageOk (os : Os) (cmd : NvmeCommand) : Prop :=
  os.ok .allocatePool os.calls = true ∧ vnvmeIsValidPhysicalAddress cmd.prp1 4096 = true ∧
    os.ok .mapIoSpace (os.calls + 1) = true

/-- When the two handlers agree. -/
def SharedCommand.AgreesWhen (pdo : PdoContext) (os : Os) (ctx : AdminCmdContext)
    (cmd : NvmeCommand) : SharedCommand → Prop
  | .createIoCq => vnvmeIoQueueIdValid cmd.qid = true →
      (pdo.cq cmd.qid.toNat).created = false → 2 ≤ cmd.qsize
  | .createIoSq => cmd.cdw11 >>> 16 = cmd.cdw11 &&& 0xFFFF ∧
      (vnvmeIoQueueIdValid cmd.qid = true →
        vnvmeIoQueueIdValid cmd.cqid = true ∧ (pdo.cq cmd.cqid.toNat).created = true ∧
          ((pdo.sq cmd.qid.toNat).created = false → 2 ≤ cmd.qsize))
  | .deleteIoCq => vnvmeIoQueueIdValid cmd.qid = true → (pdo.cq cmd.qid.toNat).created = true →
      ∀ q, q ≠ 0 → q ≤ 16 → (pdo.sq q).created = true → (pdo.sq q).cqId ≠ cmd.qid
  | .deleteIoSq => True
  | .identifyNamespace => cmd.nsid ≠ 0 → cmd.nsid ≤ ctx.namespaceCount →
      (pdo.namespaces (cmd.nsid.toNat - 1)).active = true ∧ HostPageOk os cmd

section Answers

variable {pdo : PdoContext} {os : Os} {ctx : AdminCmdContext} {data : UInt32 → UInt8}

theorem AdminOutcome.success_succeeds (dw0 : UInt32) :
    (AdminOutcome.success pdo os dw0).Succeeds := ⟨dw0, rfl⟩

theorem AdminOutcome.error_fails {sct sc : UInt8} (h : ¬ (sct = 0 ∧ sc = 0)) :
    ¬ (AdminOutcome.error pdo os sct sc).Succeeds := by
  rintro ⟨dw0, hc⟩
  obtain ⟨_, hsct, hsc⟩ : (0 : UInt32) = dw0 ∧ sct = 0 ∧ sc = 0 := by
    simpa [AdminOutcome.error] using hc
  exact h ⟨hsct, hsc⟩

/-- The lowest bit of a word. -/
theorem and_one_cases (x : UInt32) : x &&& 1 = 0 ∨ x &&& 1 = 1 := by
  have hbit : (x &&& 1).toNat = x.toNat % 2 := by
    rw [UInt32.toNat_and]
    exact Nat.and_one_is_mod _
  rcases Nat.mod_two_eq_zero_or_one x.toNat with h | h
  · exact Or.inl (UInt32.toNat_inj.mp (hbit.trans h))
  · exact Or.inr (UInt32.toNat_inj.mp (hbit.trans h))

/-- The status codes that the handlers of the server use, decoded. -/
theorem reply_succeeds_iff {sc : UInt32} (hsc : sc = 0 ∨ sc = 0x01 ∨ sc = 0x0B)
    (result : UInt32) : (ctx.reply data sc result).Succeeds ↔ sc = 0 := by
  have htag := and_one_cases ctx.adminCqPhase
  simp only [AdminCmdContext.reply, AdminReply.Succeeds, adminMakeStatus]
  rcases hsc with rfl | rfl | rfl <;> rcases htag with h | h <;> rw [h] <;> decide

theorem badQid_eq (h : ctx.maxIoQueues = 16) (qid : UInt16) :
    ctx.badQid qid = !vnvmeIoQueueIdValid qid := by
  have h32 : qid.toUInt32.toNat = qid.toNat := UInt16.toNat_toUInt32 qid
  have h0 : qid = 0 ↔ qid.toNat = 0 := UInt16.toNat_inj.symm
  rw [Bool.eq_iff_iff]
  simp only [AdminCmdContext.badQid, vnvmeIoQueueIdValid, h, Bool.or_eq_true, decide_eq_true_eq,
    Bool.not_eq_true', Bool.and_eq_false_iff, decide_eq_false_iff_not, h0]
  show qid.toNat = 0 ∨ 16 < qid.toUInt32.toNat ↔ ¬ 0 < qid.toNat ∨ ¬ qid.toNat ≤ 16
  omega

/-- The two halves of a word are the same number. -/
theorem halves_eq_iff (x : UInt32) :
    (x >>> 16).toUInt16 = x.toUInt16 ↔ x >>> 16 = x &&& 0xFFFF := by
  have hlow : (x &&& 0xFFFF).toNat = x.toNat % 2 ^ 16 := by
    rw [UInt32.toNat_and]
    exact Nat.and_two_pow_sub_one_eq_mod x.toNat 16
  have hhigh : (x >>> 16).toNat = x.toNat / 2 ^ 16 := by
    rw [UInt32.toNat_shiftRight]
    exact Nat.shiftRight_eq_div_pow x.toNat 16
  have hlt : x.toNat / 2 ^ 16 < 2 ^ 16 := by
    have := x.toNat_lt
    omega
  rw [← UInt16.toNat_inj, ← UInt32.toNat_inj, hlow, hhigh, UInt32.toNat_toUInt16,
    UInt32.toNat_toUInt16, hhigh, Nat.mod_eq_of_lt hlt]

end Answers

/-! ## The tables afterwards -/

section Tables

variable {pdo : PdoContext} {ctx : AdminCmdContext}

/-- Completion queue `q` has been changed in both tables, to records that say the same. -/
theorem SameTables.updateCq (h : SameTables pdo ctx) (q : Nat) {state : QueueState}
    {info : AdminIoQueueInfo} (hsame : SameQueue state info) :
    SameTables (pdo.setCq q state) { ctx with ioCq := Function.update ctx.ioCq q info } := by
  refine ⟨h.limit, fun p hp => ?_, h.sq, h.bound, h.active, h.size, h.count⟩
  by_cases hpq : p = q
  · subst hpq
    simpa [PdoContext.setCq] using hsame
  · simpa [PdoContext.setCq, hpq] using h.cq p hp

/-- Submission queue `q` has been changed in both tables, to records that say the same. -/
theorem SameTables.updateSq (h : SameTables pdo ctx) (q : Nat) {state : QueueState}
    {info : AdminIoQueueInfo} (hsame : SameQueue state info)
    (hbound : state.created = true → info.cqId = state.cqId.toUInt32) (count : UInt16) :
    SameTables { pdo.setSq q state with ioQueueCount := count }
      { ctx with ioSq := Function.update ctx.ioSq q info } := by
  refine ⟨h.limit, h.cq, fun p hp => ?_, fun p hp => ?_, h.active, h.size, h.count⟩
  · by_cases hpq : p = q
    · subst hpq
      simpa [PdoContext.setSq] using hsame
    · simpa [PdoContext.setSq, hpq] using h.sq p hp
  · by_cases hpq : p = q
    · subst hpq
      simpa [PdoContext.setSq] using hbound
    · simpa [PdoContext.setSq, hpq] using h.bound p hp

theorem sameQueue_deleted : SameQueue {} {} := ⟨rfl, fun h => nomatch h⟩

end Tables

theorem qid_ne_zero {q : UInt16} (hq : vnvmeIoQueueIdValid q = true) : q.toNat ≠ 0 := by
  simp only [vnvmeIoQueueIdValid, Bool.and_eq_true, decide_eq_true_eq] at hq
  have h0 : 0 < q.toNat := hq.1
  omega

section Handlers

variable {pdo : PdoContext} {os : Os} {ctx : AdminCmdContext} {data : UInt32 → UInt8}
  {cmd : NvmeCommand} {k : SharedCommand}

/-- The kernel refuses the command and leaves its tables alone. -/
def KernelRefuses (pdo : PdoContext) (r : AdminOutcome) : Prop :=
  ∃ os' sct sc, ¬ (sct = 0 ∧ sc = 0) ∧ r = .error pdo os' sct sc

/-- The server refuses the command and leaves its tables alone. -/
def ServerRefuses (ctx : AdminCmdContext) (r : AdminReply) : Prop :=
  ∃ data' code, (code = 0x01 ∨ code = 0x0B) ∧ r = ctx.reply data' code 0

/-- The kernel answers with success exactly if `K` holds, the server exactly if `S` does. -/
theorem handlersAgree_iff (h : SameTables pdo ctx) {K S : Prop} {p : PdoContext}
    {c : AdminCmdContext} (hfields : k.SameFields cmd)
    (hK : K → ∃ os', k.kernel pdo os cmd = .success p os' 0)
    (hK' : ¬ K → KernelRefuses pdo (k.kernel pdo os cmd))
    (hS : S → ∃ data', k.server ctx data cmd = c.reply data' 0 0)
    (hS' : ¬ S → ServerRefuses ctx (k.server ctx data cmd))
    (htables : K → S → SameTables p c) :
    HandlersAgree k pdo os ctx data cmd ↔ (K ↔ S) := by
  have hkernel : (k.kernel pdo os cmd).Succeeds ↔ K := by
    by_cases hk : K
    · obtain ⟨os', heq⟩ := hK hk
      rw [heq]
      exact iff_of_true (AdminOutcome.success_succeeds 0) hk
    · obtain ⟨os', sct, sc, hne, heq⟩ := hK' hk
      rw [heq]
      exact iff_of_false (AdminOutcome.error_fails hne) hk
  have hserver : (k.server ctx data cmd).Succeeds ↔ S := by
    by_cases hs : S
    · obtain ⟨data', heq⟩ := hS hs
      rw [heq, reply_succeeds_iff (Or.inl rfl)]
      exact iff_of_true rfl hs
    · obtain ⟨data', code, hcode, heq⟩ := hS' hs
      rw [heq, reply_succeeds_iff (Or.inr hcode)]
      refine iff_of_false ?_ hs
      rcases hcode with rfl | rfl <;> decide
  constructor
  · intro hagree
    rw [← hkernel, ← hserver]
    exact hagree.success
  · intro hiff
    refine ⟨hfields, by rw [hkernel, hserver]; exact hiff, ?_⟩
    by_cases hk : K
    · obtain ⟨os', hkeq⟩ := hK hk
      obtain ⟨data', hseq⟩ := hS (hiff.mp hk)
      rw [hkeq, hseq]
      exact htables hk (hiff.mp hk)
    · obtain ⟨os', sct, sc, _, hkeq⟩ := hK' hk
      obtain ⟨data', code, _, hseq⟩ := hS' fun hs => hk (hiff.mpr hs)
      rw [hkeq, hseq]
      exact h

variable (h : SameTables pdo ctx)

include h

theorem SameTables.badQid_qid : ctx.badQid (cdwLow cmd.cdw10) = !vnvmeIoQueueIdValid cmd.qid :=
  badQid_eq h.limit _

theorem SameTables.sq_created (cmd : NvmeCommand) (hvalid : vnvmeIoQueueIdValid cmd.qid = true) :
    (ctx.ioSq (cdwLow cmd.cdw10).toNat).created = (pdo.sq cmd.qid.toNat).created :=
  (h.sq _ (qid_ne_zero hvalid)).created

theorem SameTables.cq_created (cmd : NvmeCommand) (hvalid : vnvmeIoQueueIdValid cmd.qid = true) :
    (ctx.ioCq (cdwLow cmd.cdw10).toNat).created = (pdo.cq cmd.qid.toNat).created :=
  (h.cq _ (qid_ne_zero hvalid)).created

theorem createIoCq_agrees_iff : HandlersAgree .createIoCq pdo os ctx data cmd ↔
    SharedCommand.AgreesWhen pdo os ctx cmd .createIoCq := by
  have hbad : ctx.badQid _ = !vnvmeIoQueueIdValid cmd.qid := h.badQid_qid
  have hq := h.cq_created cmd
  rw [handlersAgree_iff h
    (K := vnvmeIoQueueIdValid cmd.qid = true ∧ 2 ≤ cmd.qsize ∧
      (pdo.cq cmd.qid.toNat).created = false)
    (S := vnvmeIoQueueIdValid cmd.qid = true ∧ (pdo.cq cmd.qid.toNat).created = false)
    (k := .createIoCq) ⟨rfl, rfl⟩]
  · constructor
    · intro hiff hvalid hnew
      exact (hiff.mpr ⟨hvalid, hnew⟩).2.1
    · intro hwhen
      exact ⟨fun hk => ⟨hk.1, hk.2.2⟩, fun hs => ⟨hs.1, hwhen hs.1 hs.2, hs.2⟩⟩
  · rintro ⟨hvalid, hsize, hnew⟩
    refine ⟨os, ?_⟩
    simp only [SharedCommand.kernel, handleCreateIoCq, hvalid, UInt16.not_lt.mpr hsize, hnew,
      Bool.not_true, Bool.false_eq_true, if_false]
    rfl
  · intro hk
    simp only [SharedCommand.kernel, handleCreateIoCq]
    split_ifs with h1 h2 h3
    · exact ⟨os, _, _, by decide, rfl⟩
    · exact ⟨os, _, _, by decide, rfl⟩
    · exact ⟨os, _, _, by decide, rfl⟩
    · exact absurd ⟨by simpa using h1, UInt16.not_lt.mp h2, by simpa using h3⟩ hk
  · rintro ⟨hvalid, hnew⟩
    refine ⟨data, ?_⟩
    simp only [SharedCommand.server, adminCmdCreateIoCq, hbad, hvalid, hq hvalid, hnew,
      Bool.not_true, Bool.false_eq_true, if_false]
    rfl
  · intro hs
    simp only [SharedCommand.server, adminCmdCreateIoCq, hbad]
    split_ifs with h1 h2
    · exact ⟨data, _, Or.inl rfl, rfl⟩
    · exact ⟨data, _, Or.inl rfl, rfl⟩
    · have hvalid : vnvmeIoQueueIdValid cmd.qid = true := by simpa using h1
      rw [hq hvalid] at h2
      exact absurd ⟨hvalid, by simpa using h2⟩ hs
  · rintro ⟨hvalid, -, -⟩ -
    exact h.updateCq cmd.qid.toNat ⟨rfl, fun _ => rfl⟩

omit h in
theorem handleCreateIoSq_refused (hno : ¬ (vnvmeIoQueueIdValid cmd.qid = true ∧ 2 ≤ cmd.qsize ∧
      (vnvmeIoQueueIdValid cmd.cqid = true ∧ (pdo.cq cmd.cqid.toNat).created = true) ∧
        (pdo.sq cmd.qid.toNat).created = false)) :
    KernelRefuses pdo (handleCreateIoSq pdo os cmd) := by
  unfold handleCreateIoSq
  dsimp only
  by_cases h1 : (!vnvmeIoQueueIdValid cmd.qid) = true
  · rw [if_pos h1]
    exact ⟨os, _, _, by decide, rfl⟩
  by_cases h2 : cmd.qsize < 2
  · rw [if_neg h1, if_pos h2]
    exact ⟨os, _, _, by decide, rfl⟩
  by_cases h3 : (!vnvmeIoQueueIdValid cmd.cqid || !(pdo.cq cmd.cqid.toNat).created) = true
  · rw [if_neg h1, if_neg h2, if_pos h3]
    exact ⟨os, _, _, by decide, rfl⟩
  by_cases h4 : (pdo.sq cmd.qid.toNat).created = true
  · rw [if_neg h1, if_neg h2, if_neg h3, if_pos h4]
    exact ⟨os, _, _, by decide, rfl⟩
  · rw [Bool.or_eq_true, not_or] at h3
    exact absurd ⟨by simpa using h1, UInt16.not_lt.mp h2,
      ⟨by simpa using h3.1, by simpa using h3.2⟩, by simpa using h4⟩ hno

section CreateIoSq

variable (hcqid : cmd.cqid = cdwLow cmd.cdw11)

include hcqid

theorem SameTables.badCqid : ctx.badQid (cdwLow cmd.cdw11) = !vnvmeIoQueueIdValid cmd.cqid := by
  rw [hcqid]
  exact badQid_eq h.limit _

theorem SameTables.cqid_created (hvalid : vnvmeIoQueueIdValid cmd.cqid = true) :
    (ctx.ioCq (cdwLow cmd.cdw11).toNat).created = (pdo.cq cmd.cqid.toNat).created := by
  rw [← hcqid]
  exact (h.cq _ (qid_ne_zero hvalid)).created

/-- With a completion queue, only a queue of one entry sets the two sides apart. -/
theorem createIoSq_agrees_onCq (hcqvalid : vnvmeIoQueueIdValid cmd.cqid = true)
    (hcqcreated : (pdo.cq cmd.cqid.toNat).created = true) :
    HandlersAgree .createIoSq pdo os ctx data cmd ↔ (vnvmeIoQueueIdValid cmd.qid = true →
      (pdo.sq cmd.qid.toNat).created = false → 2 ≤ cmd.qsize) := by
  have hbad : ctx.badQid _ = !vnvmeIoQueueIdValid cmd.qid := h.badQid_qid
  have hcqbad := h.badCqid hcqid
  have hcq := h.cqid_created hcqid hcqvalid
  rw [handlersAgree_iff h
    (K := vnvmeIoQueueIdValid cmd.qid = true ∧ 2 ≤ cmd.qsize ∧
      (pdo.sq cmd.qid.toNat).created = false)
    (S := vnvmeIoQueueIdValid cmd.qid = true ∧ (pdo.sq cmd.qid.toNat).created = false)
    (k := .createIoSq) ⟨rfl, rfl, hcqid⟩]
  · constructor
    · exact fun hiff hvalid hnew => (hiff.mpr ⟨hvalid, hnew⟩).2.1
    · intro hwhen
      exact ⟨fun hk => ⟨hk.1, hk.2.2⟩, fun hs => ⟨hs.1, hwhen hs.1 hs.2, hs.2⟩⟩
  · rintro ⟨hvalid, hsize, hnew⟩
    refine ⟨os, ?_⟩
    simp only [SharedCommand.kernel, handleCreateIoSq, hvalid, UInt16.not_lt.mpr hsize, hnew,
      hcqvalid, hcqcreated, Bool.not_true, Bool.or_self, Bool.false_eq_true, if_false]
    rfl
  · intro hk
    refine handleCreateIoSq_refused fun hok => hk ?_
    exact ⟨hok.1, hok.2.1, hok.2.2.2⟩
  · rintro ⟨hvalid, hnew⟩
    refine ⟨data, ?_⟩
    simp only [SharedCommand.server, adminCmdCreateIoSq, hbad, hcqbad, hvalid,
      h.sq_created cmd hvalid, hnew, hcqvalid, hcq, hcqcreated, Bool.not_true, Bool.or_self,
      Bool.false_eq_true, if_false]
    rfl
  · intro hs
    simp only [SharedCommand.server, adminCmdCreateIoSq, hbad, hcqbad, hcqvalid, hcq,
      hcqcreated, Bool.not_true, Bool.or_self, Bool.false_eq_true, if_false]
    split_ifs with h1 h2
    · exact ⟨data, _, Or.inl rfl, rfl⟩
    · exact ⟨data, _, Or.inl rfl, rfl⟩
    · have hvalid : vnvmeIoQueueIdValid cmd.qid = true := by simpa using h1
      rw [h.sq_created cmd hvalid] at h2
      exact absurd ⟨hvalid, by simpa using h2⟩ hs
  · rintro - -
    exact h.updateSq cmd.qid.toNat ⟨rfl, fun _ => rfl⟩
      (fun _ => congrArg UInt16.toUInt32 hcqid.symm) _

/-- Without one, the kernel refuses whatever else is wrong, and the server answers with success. -/
theorem createIoSq_agrees_offCq (honCq : ¬ (vnvmeIoQueueIdValid cmd.cqid = true ∧
      (pdo.cq cmd.cqid.toNat).created = true)) :
    HandlersAgree .createIoSq pdo os ctx data cmd ↔ ¬ vnvmeIoQueueIdValid cmd.qid = true := by
  have hbad : ctx.badQid _ = !vnvmeIoQueueIdValid cmd.qid := h.badQid_qid
  have hoff : (ctx.badQid (cdwLow cmd.cdw11) || !(ctx.ioCq (cdwLow cmd.cdw11).toNat).created) =
      true := by
    rw [h.badCqid hcqid]
    by_cases hcqvalid : vnvmeIoQueueIdValid cmd.cqid = true
    · have hno : (pdo.cq cmd.cqid.toNat).created = false :=
        eq_false_of_ne_true fun hc => honCq ⟨hcqvalid, hc⟩
      simp [hcqvalid, h.cqid_created hcqid hcqvalid, hno]
    · simp [hcqvalid]
  rw [handlersAgree_iff h (K := False) (S := vnvmeIoQueueIdValid cmd.qid = true)
    (k := .createIoSq) (p := pdo) (c := ctx) ⟨rfl, rfl, hcqid⟩]
  · exact iff_of_eq (false_iff _)
  · exact False.elim
  · intro _
    exact handleCreateIoSq_refused fun hok => honCq hok.2.2.1
  · intro hvalid
    refine ⟨data, ?_⟩
    simp only [SharedCommand.server, adminCmdCreateIoSq, hbad, hvalid, hoff, Bool.not_true,
      Bool.false_eq_true, if_false, if_true]
  · intro hs
    simp only [SharedCommand.server, adminCmdCreateIoSq, hbad]
    rw [if_pos (by simpa using hs)]
    exact ⟨data, _, Or.inl rfl, rfl⟩
  · exact fun hk => hk.elim

end CreateIoSq

theorem createIoSq_agrees_iff : HandlersAgree .createIoSq pdo os ctx data cmd ↔
    SharedCommand.AgreesWhen pdo os ctx cmd .createIoSq := by
  simp only [SharedCommand.AgreesWhen]
  rw [← halves_eq_iff]
  by_cases hcqid : cmd.cqid = cdwLow cmd.cdw11
  swap
  · exact iff_of_false (fun hagree => hcqid hagree.fields.2.2) fun hwhen => hcqid hwhen.1
  have hhalves : (cmd.cdw11 >>> 16).toUInt16 = cmd.cdw11.toUInt16 ↔ True := iff_true_intro hcqid
  rw [hhalves, true_and]
  by_cases honCq : vnvmeIoQueueIdValid cmd.cqid = true ∧ (pdo.cq cmd.cqid.toNat).created = true
  · rw [createIoSq_agrees_onCq h hcqid honCq.1 honCq.2]
    exact forall_congr' fun _ => ⟨fun hsize => ⟨honCq.1, honCq.2, hsize⟩, fun hwhen => hwhen.2.2⟩
  · rw [createIoSq_agrees_offCq h hcqid honCq]
    exact ⟨fun hno hvalid => absurd hvalid hno, fun hwhen hvalid =>
      honCq ⟨(hwhen hvalid).1, (hwhen hvalid).2.1⟩⟩

theorem deleteIoCq_agrees_iff : HandlersAgree .deleteIoCq pdo os ctx data cmd ↔
    SharedCommand.AgreesWhen pdo os ctx cmd .deleteIoCq := by
  have hbad : ctx.badQid _ = !vnvmeIoQueueIdValid cmd.qid := h.badQid_qid
  have hq := h.cq_created cmd
  have hfree : ((List.range 16).any fun i =>
      (pdo.sq (i + 1)).created && (pdo.sq (i + 1)).cqId = cmd.qid) = true ↔
        ¬ ∀ q, q ≠ 0 → q ≤ 16 → (pdo.sq q).created = true → (pdo.sq q).cqId ≠ cmd.qid := by
    rw [List.any_eq_true]
    constructor
    · rintro ⟨i, hi, hcond⟩ hall
      rw [Bool.and_eq_true, decide_eq_true_iff] at hcond
      exact hall (i + 1) (Nat.succ_ne_zero i) (List.mem_range.mp hi) hcond.1 hcond.2
    · intro hnot
      by_contra hnone
      refine hnot fun q h0 h16 hcreated heq => hnone ?_
      obtain ⟨i, rfl⟩ := Nat.exists_eq_succ_of_ne_zero h0
      exact ⟨i, List.mem_range.mpr h16, by simp [hcreated, heq]⟩
  rw [handlersAgree_iff h
    (K := vnvmeIoQueueIdValid cmd.qid = true ∧ (pdo.cq cmd.qid.toNat).created = true ∧
      ∀ q, q ≠ 0 → q ≤ 16 → (pdo.sq q).created = true → (pdo.sq q).cqId ≠ cmd.qid)
    (S := vnvmeIoQueueIdValid cmd.qid = true ∧ (pdo.cq cmd.qid.toNat).created = true)
    (k := .deleteIoCq) rfl]
  · constructor
    · intro hiff hvalid hcreated
      exact (hiff.mpr ⟨hvalid, hcreated⟩).2.2
    · intro hwhen
      exact ⟨fun hk => ⟨hk.1, hk.2.1⟩, fun hs => ⟨hs.1, hs.2, hwhen hs.1 hs.2⟩⟩
  · rintro ⟨hvalid, hcreated, hrefs⟩
    refine ⟨os, ?_⟩
    have hnone := (not_congr hfree).mpr (not_not_intro hrefs)
    simp only [SharedCommand.kernel, handleDeleteIoCq, hvalid, hcreated, if_neg hnone,
      Bool.not_true, Bool.false_eq_true, if_false]
    rfl
  · intro hk
    simp only [SharedCommand.kernel, handleDeleteIoCq]
    split_ifs with h1 h2 h3
    · exact ⟨os, _, _, by decide, rfl⟩
    · exact ⟨os, _, _, by decide, rfl⟩
    · exact ⟨os, _, _, by decide, rfl⟩
    · exact absurd ⟨by simpa using h1, by simpa using h2, not_not.mp (mt hfree.mpr h3)⟩ hk
  · rintro ⟨hvalid, hcreated⟩
    refine ⟨data, ?_⟩
    simp only [SharedCommand.server, adminCmdDeleteIoCq, hbad, hvalid, hq hvalid, hcreated,
      Bool.not_true, Bool.false_eq_true, if_false]
    rfl
  · intro hs
    simp only [SharedCommand.server, adminCmdDeleteIoCq, hbad]
    split_ifs with h1 h2
    · exact ⟨data, _, Or.inl rfl, rfl⟩
    · exact ⟨data, _, Or.inl rfl, rfl⟩
    · have hvalid : vnvmeIoQueueIdValid cmd.qid = true := by simpa using h1
      rw [hq hvalid] at h2
      exact absurd ⟨hvalid, by simpa using h2⟩ hs
  · rintro - -
    exact h.updateCq cmd.qid.toNat sameQueue_deleted

theorem deleteIoSq_agrees : HandlersAgree .deleteIoSq pdo os ctx data cmd := by
  have hbad : ctx.badQid _ = !vnvmeIoQueueIdValid cmd.qid := h.badQid_qid
  have hq := h.sq_created cmd
  rw [handlersAgree_iff h
    (K := vnvmeIoQueueIdValid cmd.qid = true ∧ (pdo.sq cmd.qid.toNat).created = true)
    (S := vnvmeIoQueueIdValid cmd.qid = true ∧ (pdo.sq cmd.qid.toNat).created = true)
    (k := .deleteIoSq) rfl]
  · rintro ⟨hvalid, hcreated⟩
    refine ⟨os, ?_⟩
    simp only [SharedCommand.kernel, handleDeleteIoSq, hvalid, hcreated, Bool.not_true,
      Bool.false_eq_true, if_false]
    rfl
  · intro hk
    simp only [SharedCommand.kernel, handleDeleteIoSq]
    split_ifs with h1 h2
    · exact ⟨os, _, _, by decide, rfl⟩
    · exact ⟨os, _, _, by decide, rfl⟩
    · exact absurd ⟨by simpa using h1, by simpa using h2⟩ hk
  · rintro ⟨hvalid, hcreated⟩
    refine ⟨data, ?_⟩
    simp only [SharedCommand.server, adminCmdDeleteIoSq, hbad, hvalid, hq hvalid, hcreated,
      Bool.not_true, Bool.false_eq_true, if_false]
    rfl
  · intro hs
    simp only [SharedCommand.server, adminCmdDeleteIoSq, hbad]
    split_ifs with h1 h2
    · exact ⟨data, _, Or.inl rfl, rfl⟩
    · exact ⟨data, _, Or.inl rfl, rfl⟩
    · have hvalid : vnvmeIoQueueIdValid cmd.qid = true := by simpa using h1
      rw [hq hvalid] at h2
      exact absurd ⟨hvalid, by simpa using h2⟩ hs
  · rintro - -
    exact h.updateSq cmd.qid.toNat sameQueue_deleted (fun hf => nomatch hf) pdo.ioQueueCount

omit h in
theorem activeNamespace_of_active (hvalid : vnvmeNsidValid cmd.nsid = true)
    (hactive : (pdo.namespaces (cmd.nsid.toNat - 1)).active = true) :
    activeNamespace pdo.toMedia cmd.nsid = some (pdo.namespaces (cmd.nsid.toNat - 1)) := by
  simp [activeNamespace, vnvmeNsidToIndex, hvalid, hactive]

omit h in
theorem handleIdentifyNamespace_ok (hvalid : vnvmeNsidValid cmd.nsid = true)
    (hactive : (pdo.namespaces (cmd.nsid.toNat - 1)).active = true) (hpage : HostPageOk os cmd) :
    ∃ os', handleIdentifyNamespace pdo os cmd = .success pdo os' 0 := by
  obtain ⟨halloc, haddr, hmap⟩ := hpage
  have h4096 : (4096 : UInt32).toUInt64 = 4096 := rfl
  simp only [handleIdentifyNamespace, activeNamespace_of_active hvalid hactive, Os.call, halloc,
    sendToHost, vnvmeWriteToHostMemory, h4096, haddr, hmap]
  exact ⟨_, rfl⟩

omit h in
theorem handleIdentifyNamespace_refused (hno : ¬ (vnvmeNsidValid cmd.nsid = true ∧
    (pdo.namespaces (cmd.nsid.toNat - 1)).active = true ∧ HostPageOk os cmd)) :
    KernelRefuses pdo (handleIdentifyNamespace pdo os cmd) := by
  by_cases hns : vnvmeNsidValid cmd.nsid = true ∧
      (pdo.namespaces (cmd.nsid.toNat - 1)).active = true
  · have hpage : ¬ HostPageOk os cmd := fun hp => hno ⟨hns.1, hns.2, hp⟩
    have h4096 : (4096 : UInt32).toUInt64 = 4096 := rfl
    simp only [handleIdentifyNamespace, activeNamespace_of_active hns.1 hns.2, Os.call, sendToHost,
      vnvmeWriteToHostMemory, h4096]
    by_cases halloc : os.ok .allocatePool os.calls = true
    · by_cases haddr : vnvmeIsValidPhysicalAddress cmd.prp1 4096 = true
      · have hmap : os.ok .mapIoSpace (os.calls + 1) = false :=
          eq_false_of_ne_true fun hm => hpage ⟨halloc, haddr, hm⟩
        simp only [halloc, haddr, hmap]
        exact ⟨_, _, _, by decide, rfl⟩
      · simp only [halloc, eq_false_of_ne_true haddr]
        exact ⟨_, _, _, by decide, rfl⟩
    · simp only [eq_false_of_ne_true halloc]
      exact ⟨_, _, _, by decide, rfl⟩
  · have hnone : activeNamespace pdo.toMedia cmd.nsid = none := by
      rw [activeNamespace, if_neg]
      simpa [vnvmeNsidToIndex] using hns
    simp only [handleIdentifyNamespace, hnone]
    exact ⟨os, _, _, by decide, rfl⟩

theorem identifyNamespace_agrees_iff : HandlersAgree .identifyNamespace pdo os ctx data cmd ↔
    SharedCommand.AgreesWhen pdo os ctx cmd .identifyNamespace := by
  have hvalid : vnvmeNsidValid cmd.nsid = true ↔ cmd.nsid ≠ 0 ∧ cmd.nsid ≤ 16 := by
    rw [vnvmeNsidValid, Bool.and_eq_true, decide_eq_true_iff, decide_eq_true_iff]
    exact and_congr_left fun _ => UInt32.pos_iff_ne_zero
  have hle16 : cmd.nsid ≤ ctx.namespaceCount → cmd.nsid ≤ 16 :=
    fun hle => UInt32.le_trans hle h.count.1
  simp only [SharedCommand.AgreesWhen]
  rw [handlersAgree_iff h
    (K := vnvmeNsidValid cmd.nsid = true ∧
      (pdo.namespaces (cmd.nsid.toNat - 1)).active = true ∧ HostPageOk os cmd)
    (S := cmd.nsid ≠ 0 ∧ cmd.nsid ≤ ctx.namespaceCount) (p := pdo) (c := ctx)
    (k := .identifyNamespace) trivial]
  · constructor
    · intro hiff h0 hle
      exact (hiff.mpr ⟨h0, hle⟩).2
    · intro hwhen
      refine ⟨fun hk => ⟨(hvalid.mp hk.1).1, ?_⟩, fun hs => ?_⟩
      · -- an active namespace of the kernel is in the table of the server
        by_contra hgt
        have hgt' : ctx.namespaceCount.toNat < cmd.nsid.toNat := UInt32.not_le.mp hgt
        have hinactive := h.count.2 (cmd.nsid.toNat - 1) (by omega)
        rw [hk.2.1] at hinactive
        cases hinactive
      · exact ⟨hvalid.mpr ⟨hs.1, hle16 hs.2⟩, hwhen hs.1 hs.2⟩
  · rintro ⟨hv, hactive, hpage⟩
    exact handleIdentifyNamespace_ok hv hactive hpage
  · exact handleIdentifyNamespace_refused
  · rintro ⟨h0, hle⟩
    have hin : ¬ (cmd.nsid = 0 ∨ cmd.nsid > ctx.namespaceCount) :=
      not_or.mpr ⟨h0, UInt32.not_lt.mpr hle⟩
    exact ⟨_, if_neg hin⟩
  · intro hs
    have hout : cmd.nsid = 0 ∨ cmd.nsid > ctx.namespaceCount := by
      by_contra hin
      rw [not_or] at hin
      exact hs ⟨hin.1, UInt32.not_lt.mp hin.2⟩
    exact ⟨data, _, Or.inr rfl, if_pos hout⟩
  · rintro - -
    exact h

end Handlers

/-- **Two implementations.** On tables that say the same, the kernel and the server read the
same fields, answer alike and leave tables that say the same: always for Delete I/O SQ; for
Create I/O CQ unless the queue is new and has fewer than two entries; for Create I/O SQ if the
halves of CDW11 are equal and, for a valid id, the completion queue exists and a new queue has
at least two entries; for Delete I/O CQ unless a submission queue still refers to the queue;
for Identify Namespace unless the id is in the server's table and the namespace is not active
or the kernel cannot reach the host page. In all other cases they do not. -/
theorem handlersAgree_iff_agreesWhen (pdo : PdoContext) (os : Os) (ctx : AdminCmdContext)
    (data : UInt32 → UInt8) (cmd : NvmeCommand) (k : SharedCommand) (h : SameTables pdo ctx) :
    HandlersAgree k pdo os ctx data cmd ↔ k.AgreesWhen pdo os ctx cmd := by
  cases k with
  | createIoCq => exact createIoCq_agrees_iff h
  | createIoSq => exact createIoSq_agrees_iff h
  | deleteIoCq => exact deleteIoCq_agrees_iff h
  | deleteIoSq => exact iff_of_true (deleteIoSq_agrees h) trivial
  | identifyNamespace => exact identifyNamespace_agrees_iff h

theorem sameTables_fresh : SameTables {} (adminCmdInit true 4096) where
  limit := rfl
  cq _ _ := ⟨rfl, fun hf => nomatch hf⟩
  sq _ _ := ⟨rfl, fun hf => nomatch hf⟩
  bound _ _ hf := nomatch hf
  active _ := rfl
  size _ hf := nomatch hf
  count := ⟨by decide, fun _ _ => rfl⟩

theorem handlersAgree_iff_agreesWhen_createIoCq :
    HandlersAgree .createIoCq {} {} (adminCmdInit true 4096) (fun _ => 0)
      { opc := nvmeAdminCreateIoCq, cdw10 := 0x00030001 } :=
  (handlersAgree_iff_agreesWhen {} {} (adminCmdInit true 4096) (fun _ => 0)
    { opc := nvmeAdminCreateIoCq, cdw10 := 0x00030001 } .createIoCq sameTables_fresh).mpr
      fun _ _ => by decide

/-- A completion queue of four entries, as the kernel and as the server keep it. -/
def fourEntries : QueueState × AdminIoQueueInfo :=
  ({ size := 4, created := true }, { capacity := 4, created := true })

/-- With completion queues 1 and 2, the kernel binds the new submission queue to queue 2 and the
server to queue 1. -/
theorem sq_bound_to_two_cqs :
    let pdo := (PdoContext.setCq {} 1 fourEntries.1).setCq 2 fourEntries.1
    let ctx := { adminCmdInit true 4096 with
      ioCq := Function.update (Function.update (fun _ => {}) 1 fourEntries.2) 2 fourEntries.2 }
    SameTables pdo ctx ∧ ¬ HandlersAgree .createIoSq pdo {} ctx (fun _ => 0)
      { opc := nvmeAdminCreateIoSq, cdw10 := 0x00030001, cdw11 := 0x00020001 } := by
  intro pdo ctx
  have hsame : SameQueue fourEntries.1 fourEntries.2 := ⟨rfl, fun _ => rfl⟩
  refine ⟨(sameTables_fresh.updateCq 1 hsame).updateCq 2 hsame, fun h => ?_⟩
  have hbound := h.tables.bound 1 (by decide) (by decide)
  exact absurd hbound (by decide)

end VirtualNvme
