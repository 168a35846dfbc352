import VirtualNvme.Driver.IoCmd
import VirtualNvme.Server.IoCommands

/-!
# Which transfers are accepted

Read, Write and Write Zeroes are checked twice, in `io_cmd.c` for kernel mode and in
`io_commands.c` for the server. On namespace tables that say the same the two sides should refuse
the same commands. The kernel adds the block numbers without looking at the carry and does not
look at the read-only flag of the namespace; this file says that nothing else sets them apart.
-/

namespace VirtualNvme

/-! ## The commands -/

/-- A command that moves blocks, with a handler on both sides. -/
inductive BlockCommand where
  | read
  | write
  | writeZeroes
  deriving Repr, DecidableEq

def BlockCommand.kernel : BlockCommand → Media → Os → NvmeCommand → IoResult
  | .read => handleRead
  | .write => handleWrite
  | .writeZeroes => handleWriteZeroes

def BlockCommand.server :
    BlockCommand → IoCmdContext → (UInt32 → UInt8) → NvmeCommand → UInt8 → IoReply
  | .read => ioCmdRead
  | .write => ioCmdWrite
  | .writeZeroes => ioCmdWriteZeroes

def BlockCommand.writes : BlockCommand → Bool
  | .read => false
  | .write | .writeZeroes => true

/-! ## The answers -/

/-- The status that the kernel posts. -/
def IoResult.answer (r : IoResult) : NvmeError := (r.sct, r.sc)

/-- The status that the server returns, without the phase tag. -/
def IoReply.answer (r : IoReply) : NvmeError :=
  ((nvmeStatusSct r.status).toUInt8, (nvmeStatusSc r.status).toUInt8)

/-- The three answers that refuse a command: the namespace is invalid, the blocks are out of
range, or the namespace is write protected. -/
def RefusesCommand (a : NvmeError) : Prop :=
  a = (nvmeSctGeneric, nvmeScInvalidNamespace) ∨ a = (nvmeSctGeneric, nvmeScLbaOutOfRange) ∨
    a = (nvmeSctGeneric, 0x82)

/-- The answers to a command that was let through and then failed, because of the storage, an
allocation, host memory, or a transfer above 2 MB. -/
def FailsCommand (a : NvmeError) : Prop :=
  a.1 = nvmeSctMediaError ∨ a = (nvmeSctGeneric, nvmeScInternalError) ∨
    a = (nvmeSctGeneric, nvmeScInvalidField)

/-- The command was let through: it succeeds, unless something it needs fails. -/
def AcceptsCommand (a : NvmeError) : Prop := a = (nvmeSctGeneric, nvmeScSuccess) ∨ FailsCommand a

/-- The two sides refuse the command, or they both let it through. -/
def AgreeOnAcceptance (kernel server : NvmeError) : Prop :=
  (RefusesCommand kernel ∧ RefusesCommand server) ∨ (AcceptsCommand kernel ∧ AcceptsCommand server)

theorem AcceptsCommand.not_refused {a : NvmeError} (h : AcceptsCommand a) : ¬ RefusesCommand a := by
  rcases h with rfl | hmedia | rfl | rfl
  · rintro (h | h | h) <;> exact absurd h (by decide)
  · rintro (rfl | rfl | rfl) <;> exact absurd hmedia (by decide)
  · rintro (h | h | h) <;> exact absurd h (by decide)
  · rintro (h | h | h) <;> exact absurd h (by decide)

/-- Two sides that each refuse a command under a condition of their own. -/
theorem agreeOnAcceptance_iff {kernel server : NvmeError} {p q : Prop}
    (hkernel : p → AcceptsCommand kernel) (hkernel' : ¬ p → RefusesCommand kernel)
    (hserver : q → AcceptsCommand server) (hserver' : ¬ q → RefusesCommand server) :
    AgreeOnAcceptance kernel server ↔ (p ↔ q) := by
  constructor
  · rintro (⟨hk, hs⟩ | ⟨hk, hs⟩)
    · exact iff_of_false (fun hp => (hkernel hp).not_refused hk)
        fun hq => (hserver hq).not_refused hs
    · exact iff_of_true (by_contra fun hp => hk.not_refused (hkernel' hp))
        (by_contra fun hq => hs.not_refused (hserver' hq))
  · intro hpq
    by_cases hp : p
    · exact Or.inr ⟨hkernel hp, hserver (hpq.mp hp)⟩
    · exact Or.inl ⟨hkernel' hp, hserver' fun hq => hp (hpq.mpr hq)⟩

/-! ## The tables -/

/-- The namespace tables of the controller and of the server say the same. -/
structure SameNamespaces (m : Media) (ctx : IoCmdContext) : Prop where
  count : ctx.namespaceCount ≤ 16
  beyond : ∀ i, ctx.namespaceCount.toNat ≤ i → (m.namespaces i).active = false
  active : ∀ i, i < ctx.namespaceCount.toNat →
    (ctx.namespaces i).active = (m.namespaces i).active
  blockSize : ∀ i, i < ctx.namespaceCount.toNat →
    (ctx.namespaces i).blockSize = (m.namespaces i).blockSize
  size : ∀ i, i < ctx.namespaceCount.toNat →
    (ctx.namespaces i).size = (m.namespaces i).totalBlocks
  readOnly : ∀ i, i < ctx.namespaceCount.toNat →
    (ctx.namespaces i).readOnly = (m.namespaces i).readOnly

section Tables

variable {m : Media} {ctx : IoCmdContext} {nsid : UInt32} (h : SameNamespaces m ctx)

/-- The namespace id is the number of an active namespace of the controller. -/
def NamesActive (m : Media) (nsid : UInt32) : Prop :=
  vnvmeNsidValid nsid = true ∧ (m.namespaces (vnvmeNsidToIndex nsid)).active = true

include h in
theorem SameNamespaces.slot_lt (hns : NamesActive m nsid) :
    nsid ≠ 0 ∧ vnvmeNsidToIndex nsid < ctx.namespaceCount.toNat := by
  obtain ⟨hvalid, hactive⟩ := hns
  obtain ⟨hpos, -⟩ := Bool.and_eq_true_iff.mp hvalid
  refine ⟨UInt32.pos_iff_ne_zero.mp (of_decide_eq_true hpos), ?_⟩
  by_contra hge
  have hno := h.beyond _ (Nat.le_of_not_lt hge)
  rw [hno] at hactive
  cases hactive

include h in
theorem ioCmdIsNamespaceValid_iff :
    ioCmdIsNamespaceValid ctx nsid = true ↔ NamesActive m nsid := by
  simp only [ioCmdIsNamespaceValid, Bool.and_eq_true, Bool.not_eq_true', Bool.or_eq_false_iff,
    decide_eq_false_iff_not, IoCmdContext.nsConfig]
  constructor
  · rintro ⟨⟨hne, hle⟩, hactive⟩
    have hle : nsid ≤ ctx.namespaceCount := UInt32.not_lt.mp hle
    have hpos : 0 < nsid := UInt32.pos_iff_ne_zero.mpr hne
    have hnat : nsid.toNat ≤ ctx.namespaceCount.toNat := hle
    have hnat0 : 0 < nsid.toNat := hpos
    rw [h.active _ (by omega)] at hactive
    refine ⟨?_, hactive⟩
    rw [vnvmeNsidValid, Bool.and_eq_true, decide_eq_true_iff, decide_eq_true_iff]
    exact ⟨hpos, UInt32.le_trans hle h.count⟩
  · intro hns
    obtain ⟨hne, hlt⟩ := h.slot_lt hns
    refine ⟨⟨hne, ?_⟩, (h.active _ hlt).trans hns.2⟩
    have hpos : nsid.toNat ≠ 0 := fun h0 => hne (UInt32.toNat_inj.mp h0)
    intro hgt
    have hgt : ctx.namespaceCount.toNat < nsid.toNat := hgt
    unfold vnvmeNsidToIndex at hlt
    omega

end Tables

/-! ## What each side lets through -/

/-- The check of the kernel: an active namespace, and the last block plus one, computed with 64
bits, is at most the size. -/
def KernelAdmits (m : Media) (cmd : NvmeCommand) : Prop :=
  NamesActive m cmd.nsid ∧
    cmd.slba + cmd.nlb.toUInt64 ≤ (m.namespaces (vnvmeNsidToIndex cmd.nsid)).totalBlocks

/-- The check of the server has two conditions more. -/
def ServerAdmits (c : BlockCommand) (m : Media) (cmd : NvmeCommand) : Prop :=
  KernelAdmits m cmd ∧ cmd.slba ≤ cmd.slba + cmd.nlb.toUInt64 ∧
    (c.writes = true → (m.namespaces (vnvmeNsidToIndex cmd.nsid)).readOnly = false)

section Kernel

variable {m : Media} {os : Os} {cmd : NvmeCommand}

theorem activeNamespace_of_names {nsid : UInt32} (h : NamesActive m nsid) :
    activeNamespace m nsid = some (m.namespaces (vnvmeNsidToIndex nsid)) := by
  rw [activeNamespace, if_pos]
  exact Bool.and_eq_true_iff.mpr h

theorem activeNamespace_eq_none {nsid : UInt32} (h : ¬ NamesActive m nsid) :
    activeNamespace m nsid = none := by
  rw [activeNamespace, if_neg]
  exact fun hns => h (Bool.and_eq_true_iff.mp hns)

theorem readSource_failed {ns : Namespace} {byteOffset totalBytes : UInt64} {e : NvmeError}
    (he : (readSource ns os byteOffset totalBytes).1 = .error e) : FailsCommand e := by
  unfold readSource at he
  dsimp only at he
  split at he
  all_goals split_ifs at he <;> cases he
  · exact Or.inr (Or.inr rfl)
  · exact Or.inr (Or.inl rfl)
  · exact Or.inl rfl
  · exact Or.inr (Or.inl rfl)

theorem writeTarget_failed {ns : Namespace} {byteOffset totalBytes : UInt64} {e : NvmeError}
    (he : (writeTarget ns os byteOffset totalBytes).1 = .error e) : FailsCommand e := by
  unfold writeTarget at he
  dsimp only at he
  split at he <;> split_ifs at he <;> cases he
  · exact Or.inr (Or.inr rfl)
  · exact Or.inr (Or.inl rfl)
  · exact Or.inr (Or.inr rfl)

theorem writeData_failed {ns : Namespace} {byteOffset totalBytes : UInt64}
    {target : WriteTarget} {e : NvmeError}
    (he : (writeData ns os cmd byteOffset totalBytes target).1 = .error e) : FailsCommand e := by
  cases target with
  | discard => cases he
  | direct =>
    simp only [writeData] at he
    split at he
    · cases he
      exact Or.inr (Or.inl rfl)
    · cases he
  | buffer =>
    simp only [writeData] at he
    split at he
    · cases he
      exact Or.inr (Or.inl rfl)
    · split at he
      · cases he
      · split_ifs at he
        cases he
        exact Or.inl rfl

/-- What the kernel lets through succeeds, or fails further on. -/
theorem kernel_accepts (c : BlockCommand) (h : KernelAdmits m cmd) :
    AcceptsCommand (c.kernel m os cmd).answer := by
  obtain ⟨hns, hrange⟩ := h
  have hactive := activeNamespace_of_names hns
  have hvalid : vnvmeLbaRangeValid cmd.slba cmd.nlb.toUInt64
      (m.namespaces (vnvmeNsidToIndex cmd.nsid)).totalBlocks = true := decide_eq_true hrange
  cases c with
  | read =>
    simp only [BlockCommand.kernel, handleRead, hactive, hvalid,
      Bool.not_true, Bool.false_eq_true, ↓reduceIte]
    split
    · rename_i e he
      exact Or.inr (readSource_failed he)
    · split
      · exact Or.inr (Or.inr (Or.inl rfl))
      · exact Or.inl rfl
  | write =>
    simp only [BlockCommand.kernel, handleWrite, hactive, hvalid,
      Bool.not_true, Bool.false_eq_true, ↓reduceIte]
    split
    · rename_i e he
      exact Or.inr (writeTarget_failed he)
    · split
      · rename_i e he
        exact Or.inr (writeData_failed he)
      · exact Or.inl rfl
  | writeZeroes =>
    simp only [BlockCommand.kernel, handleWriteZeroes, hactive, hvalid,
      Bool.not_true, Bool.false_eq_true, ↓reduceIte]
    split
    · exact Or.inl rfl
    · split_ifs
      · exact Or.inl rfl
      · exact Or.inr (Or.inl rfl)

theorem kernel_refuses (c : BlockCommand) (h : ¬ KernelAdmits m cmd) :
    RefusesCommand (c.kernel m os cmd).answer := by
  by_cases hns : NamesActive m cmd.nsid
  · have hactive := activeNamespace_of_names hns
    have hvalid : vnvmeLbaRangeValid cmd.slba cmd.nlb.toUInt64
        (m.namespaces (vnvmeNsidToIndex cmd.nsid)).totalBlocks = false :=
      decide_eq_false fun hrange => h ⟨hns, hrange⟩
    refine Or.inr (Or.inl ?_)
    cases c with
    | read =>
      simp only [BlockCommand.kernel, handleRead, hactive, hvalid, Bool.not_false, ↓reduceIte]
      rfl
    | write =>
      simp only [BlockCommand.kernel, handleWrite, hactive, hvalid, Bool.not_false, ↓reduceIte]
      rfl
    | writeZeroes =>
      simp only [BlockCommand.kernel, handleWriteZeroes, hactive, hvalid, Bool.not_false,
        ↓reduceIte]
      rfl
  · have hnone := activeNamespace_eq_none hns
    refine Or.inl ?_
    cases c with
    | read => simp only [BlockCommand.kernel, handleRead, hnone]; rfl
    | write => simp only [BlockCommand.kernel, handleWrite, hnone]; rfl
    | writeZeroes => simp only [BlockCommand.kernel, handleWriteZeroes, hnone]; rfl

end Kernel

section Server

variable {m : Media} {ctx : IoCmdContext} {data : UInt32 → UInt8} {cmd : NvmeCommand}
  {phase : UInt8}

/-- A status made from a code type and a code reads back, with either phase tag. -/
theorem fail_answer (hphase : phase = 0 ∨ phase = 1) {sct sc : UInt8} (hsct : sct = 0 ∨ sct = 2)
    (hsc : sc = 0x0B ∨ sc = 0x80 ∨ sc = 0x81 ∨ sc = 0x82) :
    (ctx.fail data sct sc phase).answer = (sct, sc) := by
  simp only [IoReply.answer, IoCmdContext.fail]
  rcases hphase with rfl | rfl <;> rcases hsct with rfl | rfl <;>
    rcases hsc with rfl | rfl | rfl | rfl <;> decide

theorem success_answer (hphase : phase = 0 ∨ phase = 1) :
    (IoReply.mk (nvmeMakeStatus 0 0 phase) ctx data).answer =
      (nvmeSctGeneric, nvmeScSuccess) := by
  simp only [IoReply.answer]
  rcases hphase with rfl | rfl <;> decide

variable (h : SameNamespaces m ctx)

include h in
theorem ioCmdValidateLbaRange_iff (hns : NamesActive m cmd.nsid) :
    ioCmdValidateLbaRange ctx cmd.nsid cmd.slba cmd.nlb.toUInt32 = true ↔
      cmd.slba ≤ cmd.slba + cmd.nlb.toUInt64 ∧
        cmd.slba + cmd.nlb.toUInt64 ≤
          (m.namespaces (vnvmeNsidToIndex cmd.nsid)).totalBlocks := by
  have hvalid := (ioCmdIsNamespaceValid_iff h).mpr hns
  have hsize : (ctx.nsConfig cmd.nsid).size =
      (m.namespaces (vnvmeNsidToIndex cmd.nsid)).totalBlocks := h.size _ (h.slot_lt hns).2
  have hnlb : cmd.nlb.toUInt32.toUInt64 = cmd.nlb.toUInt64 := rfl
  rw [ioCmdValidateLbaRange, hvalid, hsize, hnlb]
  split_ifs with hno hwrap hrange
  · cases hno
  · exact iff_of_false id fun hle => UInt64.not_le.mpr hwrap hle.1
  · exact iff_of_false id fun hle => UInt64.not_le.mpr hrange hle.2
  · exact iff_of_true rfl ⟨UInt64.not_lt.mp hwrap, UInt64.not_lt.mp hrange⟩

include h in
theorem server_accepts (c : BlockCommand) (hphase : phase = 0 ∨ phase = 1)
    (hadmits : ServerAdmits c m cmd) :
    AcceptsCommand (c.server ctx data cmd phase).answer := by
  obtain ⟨⟨hns, hrange⟩, hwrap, hwritable⟩ := hadmits
  have hvalid := (ioCmdIsNamespaceValid_iff h).mpr hns
  have hlba := (ioCmdValidateLbaRange_iff h hns).mpr ⟨hwrap, hrange⟩
  have hro : (ctx.nsConfig cmd.nsid).readOnly =
      (m.namespaces (vnvmeNsidToIndex cmd.nsid)).readOnly := h.readOnly _ (h.slot_lt hns).2
  cases c with
  | read =>
    simp only [BlockCommand.server, ioCmdRead, hvalid, hlba,
      Bool.not_true, Bool.false_eq_true, ↓reduceIte]
    split
    · exact Or.inl (success_answer hphase)
    · split_ifs
      · exact Or.inl (success_answer hphase)
      · exact Or.inr (Or.inl (congrArg Prod.fst (fail_answer hphase (Or.inr rfl) (by decide))))
      · exact Or.inl (success_answer hphase)
  | write =>
    simp only [BlockCommand.server, ioCmdWrite, hvalid, hlba, hro.trans (hwritable rfl),
      Bool.not_true, Bool.false_eq_true, ↓reduceIte]
    split
    · exact Or.inl (success_answer hphase)
    · split_ifs
      · exact Or.inl (success_answer hphase)
      · exact Or.inr (Or.inl (congrArg Prod.fst (fail_answer hphase (Or.inr rfl) (by decide))))
      · exact Or.inl (success_answer hphase)
  | writeZeroes =>
    simp only [BlockCommand.server, ioCmdWriteZeroes, hvalid, hlba, hro.trans (hwritable rfl),
      Bool.not_true, Bool.false_eq_true, ↓reduceIte]
    split
    · exact Or.inl (success_answer hphase)
    · split_ifs
      · exact Or.inl (success_answer hphase)
      · exact Or.inr (Or.inl (congrArg Prod.fst (fail_answer hphase (Or.inr rfl) (by decide))))

include h in
theorem server_refuses (c : BlockCommand) (hphase : phase = 0 ∨ phase = 1)
    (hno : ¬ ServerAdmits c m cmd) :
    RefusesCommand (c.server ctx data cmd phase).answer := by
  have hnamespace : (ctx.fail data 0 0x0B phase).answer =
      (nvmeSctGeneric, nvmeScInvalidNamespace) := fail_answer hphase (Or.inl rfl) (by decide)
  have hlba : (ctx.fail data 0 0x80 phase).answer =
      (nvmeSctGeneric, nvmeScLbaOutOfRange) := fail_answer hphase (Or.inl rfl) (by decide)
  have hprotected : (ctx.fail data 0 0x82 phase).answer =
      (nvmeSctGeneric, 0x82) := fail_answer hphase (Or.inl rfl) (by decide)
  by_cases hns : NamesActive m cmd.nsid
  · have hvalid := (ioCmdIsNamespaceValid_iff h).mpr hns
    have hro : (ctx.nsConfig cmd.nsid).readOnly =
        (m.namespaces (vnvmeNsidToIndex cmd.nsid)).readOnly := h.readOnly _ (h.slot_lt hns).2
    -- a namespace that may be written, or need not be: the range must be what is wrong
    have hrange (hw : c.writes = true → (m.namespaces (vnvmeNsidToIndex cmd.nsid)).readOnly =
        false) : ioCmdValidateLbaRange ctx cmd.nsid cmd.slba cmd.nlb.toUInt32 = false :=
      eq_false_of_ne_true fun hv =>
        have hle := (ioCmdValidateLbaRange_iff h hns).mp hv
        hno ⟨⟨hns, hle.2⟩, hle.1, hw⟩
    cases c with
    | read =>
      simp only [BlockCommand.server, ioCmdRead, hvalid, hrange (fun hf => nomatch hf),
      Bool.not_true, Bool.not_false, Bool.false_eq_true, ↓reduceIte]
      exact Or.inr (Or.inl hlba)
    | write =>
      simp only [BlockCommand.server, ioCmdWrite, hvalid, hro,
      Bool.not_true, Bool.false_eq_true, ↓reduceIte]
      cases hreadOnly : (m.namespaces (vnvmeNsidToIndex cmd.nsid)).readOnly with
      | true => exact Or.inr (Or.inr hprotected)
      | false =>
        simp only [hrange fun _ => hreadOnly, Bool.not_false, Bool.false_eq_true, ↓reduceIte]
        exact Or.inr (Or.inl hlba)
    | writeZeroes =>
      simp only [BlockCommand.server, ioCmdWriteZeroes, hvalid, hro,
      Bool.not_true, Bool.false_eq_true, ↓reduceIte]
      cases hreadOnly : (m.namespaces (vnvmeNsidToIndex cmd.nsid)).readOnly with
      | true => exact Or.inr (Or.inr hprotected)
      | false =>
        simp only [hrange fun _ => hreadOnly, Bool.not_false, Bool.false_eq_true, ↓reduceIte]
        exact Or.inr (Or.inl hlba)
  · have hinvalid : ioCmdIsNamespaceValid ctx cmd.nsid = false :=
      eq_false_of_ne_true fun hv => hns ((ioCmdIsNamespaceValid_iff h).mp hv)
    refine Or.inl ?_
    cases c with
    | read =>
      simp only [BlockCommand.server, ioCmdRead, hinvalid,
      Bool.not_false, ↓reduceIte]
      exact hnamespace
    | write =>
      simp only [BlockCommand.server, ioCmdWrite, hinvalid,
      Bool.not_false, ↓reduceIte]
      exact hnamespace
    | writeZeroes =>
      simp only [BlockCommand.server, ioCmdWriteZeroes, hinvalid,
      Bool.not_false, ↓reduceIte]
      exact hnamespace

end Server

/-! ## When the two sides agree -/

/-- A command with valid blocks by the arithmetic of the kernel has valid blocks, and does not
write to a read-only namespace. -/
def BlockCommand.AgreesWhen (c : BlockCommand) (m : Media) (cmd : NvmeCommand) : Prop :=
  KernelAdmits m cmd → cmd.slba ≤ cmd.slba + cmd.nlb.toUInt64 ∧
    (c.writes = true → (m.namespaces (vnvmeNsidToIndex cmd.nsid)).readOnly = false)

/-- Kernel and server let the same Read, Write and Write Zeroes commands through, except those
whose block numbers overflow into the namespace and those that write to a read-only namespace. -/
theorem acceptance_agrees_iff (c : BlockCommand) (m : Media) (os : Os) (ctx : IoCmdContext)
    (data : UInt32 → UInt8) (cmd : NvmeCommand) (tag : Bool) (h : SameNamespaces m ctx) :
    AgreeOnAcceptance (c.kernel m os cmd).answer
        (c.server ctx data cmd (if tag then 1 else 0)).answer ↔
      c.AgreesWhen m cmd := by
  have hphase : (if tag then 1 else 0 : UInt8) = 0 ∨ (if tag then 1 else 0 : UInt8) = 1 := by
    cases tag <;> decide
  rw [agreeOnAcceptance_iff (kernel_accepts c) (kernel_refuses c) (server_accepts h c hphase)
    (server_refuses h c hphase)]
  constructor
  · intro hiff hadmits
    exact (hiff.mp hadmits).2
  · intro hwhen
    exact ⟨fun hadmits => ⟨hadmits, hwhen hadmits⟩, And.left⟩

/-- A memory-backed namespace of 16 blocks, as the kernel and as the server keep it. -/
def sixteenBlocks (readOnly : Bool) : Media × IoCmdContext :=
  ({ namespaces := Function.update (fun _ => {}) 0
      { nsId := 1, active := true, readOnly := readOnly, blockSize := 512, totalBlocks := 16,
        totalBytes := 8192,
        storage := some
          { type := .memory, totalBytes := 8192, blockSize := 512, memoryBuffer := some fun _ => 0,
            memorySize := 8192 } } },
    ioCmdAddNamespace {}
      { nsid := 1, size := 16, blockSize := 512, active := true, readOnly := readOnly })

theorem sixteenBlocks_same (readOnly : Bool) :
    SameNamespaces (sixteenBlocks readOnly).1 (sixteenBlocks readOnly).2 := by
  have hslot (i : Nat) (hi : i < 1) : i = 0 := Nat.lt_one_iff.mp hi
  have hcount : (sixteenBlocks readOnly).2.namespaceCount = 1 := rfl
  refine ⟨hcount ▸ by decide, fun i hi => ?_, fun i hi => ?_, fun i hi => ?_, fun i hi => ?_,
    fun i hi => ?_⟩
  · have hne : i ≠ 0 := Nat.one_le_iff_ne_zero.mp hi
    simp only [sixteenBlocks, Function.update_of_ne hne]
  all_goals
    rw [hslot i hi]
    rfl

theorem acceptance_agrees_iff_sixteenBlocks :
    AgreeOnAcceptance
      (BlockCommand.write.kernel (sixteenBlocks false).1 {} { nsid := 1, prp1 := 0x200000 }).answer
      (BlockCommand.write.server (sixteenBlocks false).2 (fun _ => 0)
        { nsid := 1, prp1 := 0x200000 } (if true then 1 else 0)).answer :=
  (acceptance_agrees_iff .write (sixteenBlocks false).1 {} (sixteenBlocks false).2 (fun _ => 0)
    { nsid := 1, prp1 := 0x200000 } true (sixteenBlocks_same false)).mpr
      fun _ => ⟨by decide, fun _ => rfl⟩

theorem not_agree_of_success {kernel server : NvmeError}
    (hk : kernel = (nvmeSctGeneric, nvmeScSuccess)) (hs : RefusesCommand server) :
    ¬ AgreeOnAcceptance kernel server := by
  rintro (⟨hr, -⟩ | ⟨-, ha⟩)
  · exact AcceptsCommand.not_refused (Or.inl hk) hr
  · exact ha.not_refused hs

/-- The kernel completes a Read of two blocks from block `2 ^ 64 - 1` on, and a Write and a Write
Zeroes of one block of a read-only namespace, with success; the server refuses all three. -/
theorem accepted_by_kernel_only :
    (let (m, ctx) := sixteenBlocks false
     let cmd : NvmeCommand :=
       { nsid := 1, prp1 := 0x200000, cdw10 := 0xFFFFFFFF, cdw11 := 0xFFFFFFFF, cdw12 := 1 }
     let kernel := (BlockCommand.read.kernel m {} cmd).answer
     let server := (BlockCommand.read.server ctx (fun _ => 0) cmd 1).answer
     SameNamespaces m ctx ∧ kernel = (nvmeSctGeneric, nvmeScSuccess) ∧
       server = (nvmeSctGeneric, nvmeScLbaOutOfRange) ∧ ¬ AgreeOnAcceptance kernel server) ∧
    ∀ c : BlockCommand, c.writes = true →
      let (m, ctx) := sixteenBlocks true
      let cmd : NvmeCommand := { nsid := 1, prp1 := 0x200000 }
      let kernel := (c.kernel m {} cmd).answer
      let server := (c.server ctx (fun _ => 0) cmd 1).answer
      SameNamespaces m ctx ∧ kernel = (nvmeSctGeneric, nvmeScSuccess) ∧
        server = (nvmeSctGeneric, 0x82) ∧ ¬ AgreeOnAcceptance kernel server := by
  refine ⟨⟨sixteenBlocks_same false, by decide, by decide, ?_⟩, fun c hc => ?_⟩
  · exact not_agree_of_success (by decide) (Or.inr (Or.inl (by decide)))
  · refine ⟨sixteenBlocks_same true, ?_⟩
    cases c with
    | read => cases hc
    | write =>
      exact ⟨by decide, by decide, not_agree_of_success (by decide) (Or.inr (Or.inr (by decide)))⟩
    | writeZeroes =>
      exact ⟨by decide, by decide, not_agree_of_success (by decide) (Or.inr (Or.inr (by decide)))⟩

end VirtualNvme
