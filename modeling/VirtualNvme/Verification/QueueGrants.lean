import VirtualNvme.Verification.NamespaceTables
import VirtualNvme.Verification.ServerIoQueues
import VirtualNvme.Verification.TwoHandlers

/-!
# Granting queues

Set Features for the number of queues grants two counts, of completion and of submission queues.
They are zero-based: a count of `g` stands for `g + 1` queues. The kernel cuts a request off at
the limit itself, one queue too many, and keeps only the smaller of the two counts. The server
cuts off at one less, but keeps nothing.
-/

namespace VirtualNvme

open Runs

/-! ## What a grant promises -/

/-- Feature 7 -/
def NvmeCommand.NumberOfQueues (cmd : NvmeCommand) : Prop := cmd.cdw10.toUInt8 = 0x07

/-- The counts that are granted are within the limit, the queues up to them can be created, and
the feature reads back as it was granted. -/
structure GrantKept (limit granted : UInt32) (ncqa nsqa : UInt16)
    (createsCq createsSq : UInt16 → Prop) (reads : UInt32 → Prop) : Prop where
  ncqa_le : ncqa.toNat + 1 ≤ limit.toNat
  nsqa_le : nsqa.toNat + 1 ≤ limit.toNat
  createsCq : ∀ q : UInt16, 1 ≤ q.toNat → q.toNat ≤ ncqa.toNat + 1 → createsCq q
  createsSq : ∀ q : UInt16, 1 ≤ q.toNat → q.toNat ≤ nsqa.toNat + 1 → createsSq q
  reads : reads granted

section Kernel

variable (pdo : PdoContext)

/-- Every command that creates completion queue `q` succeeds unless the queue is there. -/
def KernelCreatesCq (q : UInt16) : Prop :=
  ∀ os cmd, cmd.qid = q → 2 ≤ cmd.qsize → (pdo.cq q.toNat).created = false →
    (handleCreateIoCq pdo os cmd).Succeeds

/-- The same for submission queue `q` and a completion queue that is there. -/
def KernelCreatesSq (q : UInt16) : Prop :=
  ∀ os cmd, cmd.qid = q → 2 ≤ cmd.qsize → vnvmeIoQueueIdValid cmd.cqid = true →
    (pdo.cq cmd.cqid.toNat).created = true → (pdo.sq q.toNat).created = false →
      (handleCreateIoSq pdo os cmd).Succeeds

/-- Get Features answers with `dword`. -/
def KernelReads (dword : UInt32) : Prop :=
  ∀ os get, get.NumberOfQueues → (handleGetFeatures pdo os get).completion = some (dword, 0, 0)

/-- The grant of the kernel holds, whatever queues are created and deleted after it. -/
def KernelGrants (cfg : Config) (os : Os) (set : NvmeCommand) : Prop :=
  ∃ dword, (handleSetFeatures cfg pdo os set).completion = some (dword, 0, 0) ∧
    ∀ p, p.maxIoQueues = (handleSetFeatures cfg pdo os set).pdo.maxIoQueues →
      GrantKept cfg.maxIOQueues dword (cdwLow dword) (cdwHigh dword)
        (KernelCreatesCq p) (KernelCreatesSq p) (KernelReads p)

end Kernel

section Server

variable (ctx : AdminCmdContext)

def ServerCreatesCq (q : UInt16) : Prop :=
  ∀ data cmd, cdwLow cmd.cdw10 = q → (ctx.ioCq q.toNat).created = false →
    (adminCmdCreateIoCq ctx data cmd).Succeeds

def ServerCreatesSq (q : UInt16) : Prop :=
  ∀ data cmd, cdwLow cmd.cdw10 = q → ctx.badQid (cdwLow cmd.cdw11) = false →
    (ctx.ioCq (cdwLow cmd.cdw11).toNat).created = true → (ctx.ioSq q.toNat).created = false →
      (adminCmdCreateIoSq ctx data cmd).Succeeds

def ServerReads (dword : UInt32) : Prop :=
  ∀ data get, get.NumberOfQueues → (adminCmdGetFeatures ctx data get).Succeeds ∧
    (adminCmdGetFeatures ctx data get).result = dword

/-- The grant of the server; it has the two halves the other way round. -/
def ServerGrants (limit : UInt32) (data : UInt32 → UInt8) (set : NvmeCommand) : Prop :=
  (adminCmdSetFeatures ctx data set).Succeeds ∧
    ∀ c, c.maxIoQueues = (adminCmdSetFeatures ctx data set).ctx.maxIoQueues →
      let dword := (adminCmdSetFeatures ctx data set).result
      GrantKept limit dword (cdwHigh dword) (cdwLow dword)
        (ServerCreatesCq c) (ServerCreatesSq c) (ServerReads c)

end Server

/-! ## Halves of a word -/

theorem cdwLow_halves (a b : UInt16) : cdwLow (a.toUInt32 ||| (b.toUInt32 <<< 16)) = a := by
  apply UInt16.eq_of_toBitVec_eq
  ext i hi
  simp [cdwLow]

theorem cdwHigh_halves (a b : UInt16) : cdwHigh (a.toUInt32 ||| (b.toUInt32 <<< 16)) = b := by
  apply UInt16.eq_of_toBitVec_eq
  ext i hi
  have hlow : i < 32 := by omega
  have hhigh : 16 + i < 32 := by omega
  simp [cdwHigh, hlow, hhigh, BitVec.getLsbD_eq_getElem hi]

theorem halves_inj {a b c d : UInt16}
    (h : a.toUInt32 ||| (b.toUInt32 <<< 16) = c.toUInt32 ||| (d.toUInt32 <<< 16)) :
    a = c ∧ b = d := by
  have hlow := congrArg cdwLow h
  have hhigh := congrArg cdwHigh h
  rw [cdwLow_halves, cdwLow_halves] at hlow
  rw [cdwHigh_halves, cdwHigh_halves] at hhigh
  exact ⟨hlow, hhigh⟩

theorem and_lowByte (x : UInt32) : x &&& 0xFF = x.toUInt8.toUInt32 := by
  rw [← UInt32.toNat_inj, UInt8.toNat_toUInt32, UInt32.toNat_toUInt8, UInt32.toNat_and]
  exact Nat.and_two_pow_sub_one_eq_mod x.toNat 8

theorem vnvmeIoQueueIdValid_of_le {q : UInt16} (hpos : 1 ≤ q.toNat) (hle : q.toNat ≤ 16) :
    vnvmeIoQueueIdValid q = true := by
  simp only [vnvmeIoQueueIdValid, Bool.and_eq_true, decide_eq_true_eq]
  exact ⟨UInt16.lt_iff_toNat_lt.mpr hpos, UInt16.le_iff_toNat_le.mpr hle⟩

/-! ## The kernel -/

/-- A request is cut off at the limit. -/
def Config.grants (cfg : Config) (requested : UInt16) : UInt16 :=
  if requested > cfg.maxIOQueues.toUInt16 then cfg.maxIOQueues.toUInt16 else requested

theorem Config.grants_toNat (cfg : Config) (requested : UInt16) :
    (cfg.grants requested).toNat = min requested.toNat cfg.maxIOQueues.toNat := by
  have hle : cfg.maxIOQueues.toNat ≤ 16 := UInt32.le_iff_toNat_le.mp cfg.maxIOQueues_le
  have hmax : cfg.maxIOQueues.toUInt16.toNat = cfg.maxIOQueues.toNat := by
    rw [UInt32.toNat_toUInt16]
    exact Nat.mod_eq_of_lt (by omega)
  unfold Config.grants
  split_ifs with h
  · rw [gt_iff_lt, UInt16.lt_iff_toNat_lt, hmax] at h
    omega
  · rw [gt_iff_lt, UInt16.lt_iff_toNat_lt, hmax] at h
    omega

section KernelHandlers

variable {pdo : PdoContext} {os : Os} {cmd : NvmeCommand}

theorem handleSetFeatures_queues (cfg : Config) (h : cmd.NumberOfQueues) :
    handleSetFeatures cfg pdo os cmd =
      let ncqa := cfg.grants (cdwLow cmd.cdw11)
      let nsqa := cfg.grants (cdwHigh cmd.cdw11)
      .success { pdo with maxIoQueues := if ncqa < nsqa then ncqa else nsqa } os
        (ncqa.toUInt32 ||| (nsqa.toUInt32 <<< 16)) := by
  unfold handleSetFeatures
  rw [h]
  rfl

theorem handleGetFeatures_queues (h : cmd.NumberOfQueues) :
    handleGetFeatures pdo os cmd =
      .success pdo os (pdo.maxIoQueues.toUInt32 ||| (pdo.maxIoQueues.toUInt32 <<< 16)) := by
  unfold handleGetFeatures
  rw [h]
  rfl

theorem kernelCreatesCq (pdo : PdoContext) {q : UInt16} (hpos : 1 ≤ q.toNat)
    (hle : q.toNat ≤ 16) : KernelCreatesCq pdo q := by
  rintro os cmd rfl hsize hnew
  unfold handleCreateIoCq
  simp only [vnvmeIoQueueIdValid_of_le hpos hle, hnew, Bool.not_true, Bool.false_eq_true, if_false,
    if_neg (UInt16.not_lt.mpr hsize)]
  exact AdminOutcome.success_succeeds 0

theorem kernelCreatesSq (pdo : PdoContext) {q : UInt16} (hpos : 1 ≤ q.toNat)
    (hle : q.toNat ≤ 16) : KernelCreatesSq pdo q := by
  rintro os cmd rfl hsize hcqid hcq hnew
  unfold handleCreateIoSq
  simp only [vnvmeIoQueueIdValid_of_le hpos hle, hcqid, hcq, hnew, Bool.not_true, Bool.or_self,
    Bool.false_eq_true, if_false, if_neg (UInt16.not_lt.mpr hsize)]
  exact AdminOutcome.success_succeeds 0

end KernelHandlers

/-- **When the grant of the kernel holds.** Both halves of the request are the same, and below
the limit. -/
theorem kernelGrants_iff (cfg : Config) (pdo : PdoContext) (os : Os) {set : NvmeCommand}
    (hset : set.NumberOfQueues) :
    KernelGrants pdo cfg os set ↔
      cdwLow set.cdw11 = cdwHigh set.cdw11 ∧
        (cdwLow set.cdw11).toNat + 1 ≤ cfg.maxIOQueues.toNat := by
  have hle : cfg.maxIOQueues.toNat ≤ 16 := UInt32.le_iff_toNat_le.mp cfg.maxIOQueues_le
  have hlow := cfg.grants_toNat (cdwLow set.cdw11)
  have hhigh := cfg.grants_toNat (cdwHigh set.cdw11)
  unfold KernelGrants
  rw [handleSetFeatures_queues cfg hset]
  constructor
  · rintro ⟨dword, hdword, hkept⟩
    obtain rfl := congrArg Prod.fst (Option.some.inj hdword)
    obtain ⟨hncqa, hnsqa, -, -, hreads⟩ := hkept _ rfl
    dsimp only at hncqa hnsqa
    rw [cdwLow_halves] at hncqa
    rw [cdwHigh_halves] at hnsqa
    -- both counts are read back as the smaller one
    have hread := hreads os set hset
    rw [handleGetFeatures_queues hset] at hread
    obtain ⟨hmin, hmin'⟩ := halves_inj (congrArg Prod.fst (Option.some.inj hread))
    have heq := congrArg UInt16.toNat (hmin.symm.trans hmin')
    exact ⟨UInt16.toNat_inj.mp (by omega), by omega⟩
  · rintro ⟨heq, hlimit⟩
    refine ⟨_, rfl, fun p hp => ?_⟩
    have hp : p.maxIoQueues = cfg.grants (cdwLow set.cdw11) := by
      rw [← heq] at hp
      exact hp.trans (ite_self _)
    rw [← heq]
    refine ⟨?_, ?_, fun q hpos hq => ?_, fun q hpos hq => ?_, fun os get hget => ?_⟩
    · rw [cdwLow_halves]
      omega
    · rw [cdwHigh_halves]
      omega
    · rw [cdwLow_halves] at hq
      exact kernelCreatesCq p hpos (by omega)
    · rw [cdwHigh_halves] at hq
      exact kernelCreatesSq p hpos (by omega)
    · rw [handleGetFeatures_queues hget, hp]
      rfl

/-! ## The server -/

section ServerHandlers

variable {ctx : AdminCmdContext} {data : UInt32 → UInt8} {cmd : NvmeCommand}

theorem adminCmdSetFeatures_queues (data : UInt32 → UInt8) (hmax : ctx.maxIoQueues = 16)
    (h : cmd.NumberOfQueues) :
    ∃ ncqa nsqa : UInt16, ncqa.toNat = min (cdwHigh cmd.cdw11).toNat 15 ∧
      nsqa.toNat = min (cdwLow cmd.cdw11).toNat 15 ∧
      adminCmdSetFeatures ctx data cmd =
        ctx.reply data 0 (nsqa.toUInt32 ||| (ncqa.toUInt32 <<< 16)) := by
  have hgrant : ∀ requested : UInt16, ∃ granted : UInt16,
      granted.toNat = min requested.toNat 15 ∧ granted.toUInt32 =
        if requested.toUInt32 < ctx.maxIoQueues - 1 then requested.toUInt32
        else (ctx.maxIoQueues - 1).toUInt16.toUInt32 := by
    intro requested
    have hlt : requested.toUInt32 < ctx.maxIoQueues - 1 ↔ requested.toNat < 15 := by
      rw [hmax, UInt32.lt_iff_toNat_lt, UInt16.toNat_toUInt32]
      rfl
    by_cases hsmall : requested.toNat < 15
    · refine ⟨requested, by omega, ?_⟩
      rw [if_pos (hlt.mpr hsmall)]
    · refine ⟨15, ?_, ?_⟩
      · exact (Nat.min_eq_right (Nat.not_lt.mp hsmall)).symm
      · rw [if_neg (mt hlt.mp hsmall), hmax]
        rfl
  obtain ⟨ncqa, hncqa, hhigh⟩ := hgrant (cdwHigh cmd.cdw11)
  obtain ⟨nsqa, hnsqa, hlow⟩ := hgrant (cdwLow cmd.cdw11)
  refine ⟨ncqa, nsqa, hncqa, hnsqa, ?_⟩
  rw [hlow, hhigh]
  unfold adminCmdSetFeatures
  rw [and_lowByte, h]
  rfl

theorem adminCmdGetFeatures_queues (hmax : ctx.maxIoQueues = 16) (h : cmd.NumberOfQueues) :
    adminCmdGetFeatures ctx data cmd =
      ctx.reply data 0 ((15 : UInt16).toUInt32 ||| ((15 : UInt16).toUInt32 <<< 16)) := by
  unfold adminCmdGetFeatures
  rw [and_lowByte, h, hmax]
  rfl

theorem serverCreatesCq (hmax : ctx.maxIoQueues = 16) {q : UInt16} (hpos : 1 ≤ q.toNat)
    (hle : q.toNat ≤ 16) : ServerCreatesCq ctx q := by
  rintro data cmd rfl hnew
  unfold adminCmdCreateIoCq
  simp only [badQid_eq hmax, vnvmeIoQueueIdValid_of_le hpos hle, hnew, Bool.not_true,
    Bool.false_eq_true, if_false]
  exact (reply_succeeds_iff (Or.inl rfl) 0).mpr rfl

theorem serverCreatesSq (hmax : ctx.maxIoQueues = 16) {q : UInt16} (hpos : 1 ≤ q.toNat)
    (hle : q.toNat ≤ 16) : ServerCreatesSq ctx q := by
  rintro data cmd rfl hcqid hcq hnew
  have hqid : ctx.badQid (cdwLow cmd.cdw10) = false := by
    rw [badQid_eq hmax, vnvmeIoQueueIdValid_of_le hpos hle]
    rfl
  unfold adminCmdCreateIoSq
  simp only [hqid, hcqid, hcq, hnew, Bool.not_true, Bool.or_self, Bool.false_eq_true, if_false]
  exact (reply_succeeds_iff (Or.inl rfl) 0).mpr rfl

/-- **When the grant of the server holds.** Both halves of the request ask for all sixteen queues,
and there are as many. -/
theorem serverGrants_iff (limit : UInt32) (hmax : ctx.maxIoQueues = 16) {set : NvmeCommand}
    (hset : set.NumberOfQueues) :
    ServerGrants ctx limit data set ↔
      15 ≤ (cdwLow set.cdw11).toNat ∧ 15 ≤ (cdwHigh set.cdw11).toNat ∧ 16 ≤ limit.toNat := by
  obtain ⟨ncqa, nsqa, hncqa, hnsqa, heq⟩ :=
    adminCmdSetFeatures_queues data hmax hset
  unfold ServerGrants
  rw [heq]
  dsimp only [AdminCmdContext.reply]
  rw [cdwHigh_halves, cdwLow_halves]
  constructor
  · rintro ⟨-, hkept⟩
    obtain ⟨hlimit, -, -, -, hreads⟩ := hkept ctx rfl
    -- fifteen and fifteen are read back, whatever has been granted
    have hread := (hreads data set hset).2
    rw [adminCmdGetFeatures_queues hmax hset] at hread
    obtain ⟨hlow, hhigh⟩ := halves_inj hread
    have hlow : nsqa.toNat = 15 := congrArg UInt16.toNat hlow.symm
    have hhigh : ncqa.toNat = 15 := congrArg UInt16.toNat hhigh.symm
    exact ⟨by omega, by omega, by omega⟩
  · rintro ⟨hlow, hhigh, hlimit⟩
    obtain rfl : ncqa = 15 := UInt16.toNat_inj.mp (show ncqa.toNat = 15 by omega)
    obtain rfl : nsqa = 15 := UInt16.toNat_inj.mp (show nsqa.toNat = 15 by omega)
    refine ⟨(reply_succeeds_iff (Or.inl rfl) _).mpr rfl, fun c hc => ?_⟩
    have hc : c.maxIoQueues = 16 := hc.trans hmax
    refine ⟨by omega, by omega, fun q hpos hq => ?_, fun q hpos hq => ?_, fun data get hget => ?_⟩
    · exact serverCreatesCq hc hpos (by omega)
    · exact serverCreatesSq hc hpos (by omega)
    · rw [adminCmdGetFeatures_queues hc hget]
      exact ⟨(reply_succeeds_iff (Or.inl rfl) _).mpr rfl, rfl⟩

end ServerHandlers

/-- No command changes the limit of the admin commands. -/
theorem serve_maxIoQueues (s : Server) (cmd : ServerCommand) :
    (serve s cmd).ctx.adminCtx.maxIoQueues = s.ctx.adminCtx.maxIoQueues := by
  cases cmd with
  | io queueId cmd =>
      show (ioCmdProcess s cmd queueId).ctx.adminCtx.maxIoQueues = _
      rw [ioCmdProcess, ioPost_adminCtx]
  | admin cmd =>
      show (cmdEngineProcessAdminCommand s cmd).ctx.adminCtx.maxIoQueues = _
      rw [cmdEngineProcessAdminCommand_adminCtx]
      cases hr : adminCmdDispatch s.ctx.adminCtx s.shm.dataBuffer cmd with
      | none => rfl
      | some r =>
          show r.ctx.maxIoQueues = _
          rcases adminCmdDispatch_cases hr with
            ⟨-, rfl⟩ | ⟨-, rfl⟩ | ⟨-, rfl⟩ | ⟨-, rfl⟩ | ⟨-, -, -, hmax⟩
          · simp only [adminCmdCreateIoCq]
            split_ifs <;> rfl
          · simp only [adminCmdCreateIoSq]
            split_ifs <;> rfl
          · simp only [adminCmdDeleteIoCq]
            split_ifs <;> rfl
          · simp only [adminCmdDeleteIoSq]
            split_ifs <;> rfl
          · exact hmax

/-- A started server has the compile-time limit there, whatever is configured. -/
theorem cmdEngineInitAdmin_maxIoQueues (config : CmdEngineConfig) (dataBuffer : Bool)
    (dataBufferSize : UInt32) :
    (cmdEngineInitAdmin config dataBuffer dataBufferSize).maxIoQueues = 16 := by
  refine cmdEngineInitAdmin_induct (P := fun ctx => ctx.maxIoQueues = 16) config
    (fun _ => rfl) fun ctx info hctx => ?_
  simp only [adminCmdAddNamespace]
  split_ifs
  · exact hctx
  · exact hctx

theorem started_maxIoQueues {ctx ctx' : CmdEngineContext} {shm : Shm} {config : CmdEngineConfig}
    (hinit : cmdEngineInit ctx shm config = (true, ctx')) {s : Server} (hs : s.ctx = ctx')
    (cmds : List ServerCommand) : (run serve s cmds).ctx.adminCtx.maxIoQueues = 16 := by
  refine run_induct (P := fun s => s.ctx.adminCtx.maxIoQueues = 16)
    (fun s cmd h => (serve_maxIoQueues s cmd).trans h) ?_ cmds
  obtain ⟨dataBuffer, dataBufferSize, hadmin, -⟩ := cmdEngineInit_started hinit
  rw [hs, hadmin]
  exact cmdEngineInitAdmin_maxIoQueues _ _ _

/-! ## Both sides -/

/-- **When a grant of queues holds.** On the kernel, for every configuration: both halves of the
request are the same and below the limit. On a started server, at any point of a run: both ask for
all sixteen queues, and as many are configured. -/
theorem queueGrants_iff (set : NvmeCommand) (hset : set.NumberOfQueues) :
    (∀ (cfg : Config) (pdo : PdoContext) (os : Os), KernelGrants pdo cfg os set ↔
      cdwLow set.cdw11 = cdwHigh set.cdw11 ∧
        (cdwLow set.cdw11).toNat + 1 ≤ cfg.maxIOQueues.toNat) ∧
    ∀ (ctx ctx' : CmdEngineContext) (shm : Shm) (config : CmdEngineConfig),
      cmdEngineInit ctx shm config = (true, ctx') →
        ∀ s : Server, s.ctx = ctx' → ∀ (cmds : List ServerCommand) (data : UInt32 → UInt8),
          ServerGrants (run serve s cmds).ctx.adminCtx ctx'.maxIoQueues data set ↔
            15 ≤ (cdwLow set.cdw11).toNat ∧ 15 ≤ (cdwHigh set.cdw11).toNat ∧
              16 ≤ ctx'.maxIoQueues.toNat := by
  refine ⟨fun cfg pdo os => kernelGrants_iff cfg pdo os hset, ?_⟩
  intro ctx ctx' shm config hinit s hs cmds data
  exact serverGrants_iff _ (started_maxIoQueues hinit hs cmds) hset

/-- A request for `n + 1` queues of both kinds. -/
def setQueues (n : UInt16) : NvmeCommand :=
  { cdw10 := 0x07, cdw11 := n.toUInt32 ||| (n.toUInt32 <<< 16) }

/-- The server of `sampleEngine`, without any command yet. -/
def sampleServer : Server := { ctx := sampleEngine.2, shm := vnvmeAllocateShm }

theorem sampleEngine_started :
    cmdEngineInit {} { vnvmeAllocateShm with dataBufferOffset := 0x10000, dataBufferSize := 4096 }
      sampleEngineConfig = (true, sampleEngine.2) := rfl

theorem queueGrants_iff_allQueues :
    KernelGrants {} Config.allQueues {} (setQueues 0xF) ∧
      ServerGrants sampleServer.ctx.adminCtx sampleEngine.2.maxIoQueues (fun _ => 0)
        (setQueues 0xF) := by
  obtain ⟨hkernel, hserver⟩ := queueGrants_iff (setQueues 0xF) rfl
  refine ⟨(hkernel _ _ _).mpr (by decide), ?_⟩
  have hiff := hserver _ _ _ _ sampleEngine_started sampleServer rfl [] fun _ => 0
  exact hiff.mpr (by decide)

/-- The kernel grants a count of 16, but creates no queue 17; and a server that has granted three
queues reads back sixteen. -/
theorem queueGrants_fail :
    ((handleSetFeatures Config.allQueues {} {} (setQueues 0xFFFF)).completion =
        some (0x00100010, 0, 0) ∧
      (handleCreateIoCq (handleSetFeatures Config.allQueues {} {} (setQueues 0xFFFF)).pdo {}
        { cdw10 := 0x00030011 }).completion = some (0, nvmeSctCommand, nvmeScInvalidQueueId) ∧
      ¬ KernelGrants {} Config.allQueues {} (setQueues 0xFFFF)) ∧
    ((adminCmdSetFeatures sampleServer.ctx.adminCtx (fun _ => 0) (setQueues 2)).result =
        0x00020002 ∧
      (adminCmdGetFeatures (adminCmdSetFeatures sampleServer.ctx.adminCtx (fun _ => 0)
        (setQueues 2)).ctx (fun _ => 0) (setQueues 2)).result = 0x000F000F ∧
      ¬ ServerGrants sampleServer.ctx.adminCtx sampleEngine.2.maxIoQueues (fun _ => 0)
        (setQueues 2)) := by
  have hset : ∀ n, (setQueues n).NumberOfQueues := fun _ => rfl
  refine ⟨⟨by decide, by decide, ?_⟩, rfl, rfl, ?_⟩
  · rw [kernelGrants_iff _ _ _ (hset _)]
    decide
  · have hmax : sampleServer.ctx.adminCtx.maxIoQueues = 16 :=
      started_maxIoQueues sampleEngine_started rfl []
    rw [serverGrants_iff _ hmax (hset _)]
    decide

end VirtualNvme
