import VirtualNvme.Verification.Abort
import VirtualNvme.Verification.KernelLoops
import VirtualNvme.Verification.PollFrame

/-!
# The submission queue head in a completion

A completion tells the host how far the controller has come in the submission queue (`SQHD`):
the slot behind the one of its command. The five functions that post completions take the head
from five places, and only the I/O handlers of the kernel take it from one that moves with every
command.
-/

namespace VirtualNvme

open RingBuffer (next next_lt next_toNat walkStep walk LoopTrace exists_loopTrace)

/-! ## Rounds -/

/-- One round of a loop over a submission queue: the slot it takes a command from, the size of
the ring, and the completions it posts. -/
structure Round where
  slot : UInt32
  capacity : UInt32
  posted : List NvmeCompletion

/-- The completions tell the slot behind. -/
def Round.HeadOk (r : Round) : Prop :=
  r.slot < r.capacity →
    ∀ c ∈ r.posted, c.sqhd.toNat = (r.slot.toNat + 1) % r.capacity.toNat

/-- What has been added to a completion queue. -/
def newEntries (before after : List CqWrite) : List NvmeCompletion :=
  (after.drop before.length).map CqWrite.entry

/-- The round that a loop is about to make. -/
def roundOf {σ ρ : Type} (step : σ → Option (σ ⊕ ρ)) (slot capacity : σ → UInt32)
    (log : σ → List CqWrite) (s : σ) : Round where
  slot := slot s
  capacity := capacity s
  posted :=
    match step s with
    | some (.inl s') => newEntries (log s) (log s')
    | _ => []

/-- What has been written to completion queue `q`. -/
def Driver.cqEntries (d : Driver) (q : Nat) : List CqWrite :=
  (d.shm.map fun shm => shm.cqLog q).getD []

/-- The size of the ring that a fetch from queue `q` goes round. -/
def ringCapacity (q : Nat) (s : UInt32 × Driver) : UInt32 :=
  (s.2.shm.map fun shm => (shm.sq q).capacity).getD 0

/-! ## The paths -/

/-- A loop that posts completions, and where it starts: the loops of `VnvmeProcessIoCommands`
and `VnvmeProcessAdminCommands`, of `VnvmeAbortPendingUserCommands` over one queue, and of
`CmdEnginePoll` over the admin queue. -/
inductive CompletionPath where
  | kernelIo (d : Driver) (queueId : UInt16) (newTail : UInt32)
  | kernelAdmin (d : Driver) (newTail : UInt32)
  | abort (a : Aborting) (q : Nat) (cqCapacity : UInt32) (slot : UInt32 → UInt32)
  | server (p : Polling) (index : UInt32)

/-- One round of the loop of `VnvmeAbortPendingUserCommands` over queue `q`. -/
def abortRound (a : Aborting) (q : Nat) (cqCapacity : UInt32) (slot : UInt32 → UInt32) :
    UInt32 × AbortLoop → Option ((UInt32 × AbortLoop) ⊕ (UInt32 × AbortLoop)) :=
  walkStep (a.shm.sq q).capacity (a.shm.sq q).tail fun s head =>
    some (abortStep (a.shm.sqMem q) (UInt16.ofNat q) cqCapacity slot s head)

/-- Where that loop starts. -/
def abortStart (a : Aborting) (q : Nat) : UInt32 × AbortLoop :=
  ((a.shm.sq q).head, ⟨(a.shm.cq q).tail, (a.shm.cq q).phaseBit, a.shm.cqLog q, a.aborted⟩)

/-- One round of the loop of `CmdEnginePoll` over the admin queue. -/
def serverRound (c index : UInt32) :
    UInt32 × Polling → Option ((UInt32 × Polling) ⊕ (UInt32 × Polling)) :=
  walkStep c index fun p slot => some (pollAdminCommand p slot)

/-- These are the rounds of the loop. -/
def CompletionPath.Rounds : CompletionPath → List Round → Prop
  | kernelIo d q newTail, l =>
    if IoSkipped d q then l = []
    else
      let step := processIoStep q (d.pdo.sq q.toNat).size newTail
      ∃ d', LoopTrace step
        (roundOf step (takenSlot q.toNat) (ringCapacity q.toNat) (·.2.cqEntries q.toNat))
        ((d.pdo.sq q.toNat).head, d) l d'
  | kernelAdmin d newTail, l =>
    if d.pdo.adminSqSize = 0 then l = []
    else
      let step := processAdminStep d.pdo.adminSqSize newTail
      ∃ d', LoopTrace step (roundOf step (takenSlot 0) (ringCapacity 0) (·.2.cqEntries 0))
        ((d.pdo.sq 0).head, d) l d'
  | abort a q cqCapacity slot, l =>
    let step := abortRound a q cqCapacity slot
    ∃ r, LoopTrace step (roundOf step (·.1) (fun _ => (a.shm.sq q).capacity) (·.2.log))
      (abortStart a q) l r
  | server p index, l =>
    let c := (p.server.shm.sq 0).capacity
    let step := serverRound c index
    ∃ r, LoopTrace step (roundOf step (·.1) (fun _ => c) (·.2.server.shm.cqLog 0))
      ((p.server.shm.sq 0).head, p) l r

/-- Head and capacity are those of a ring. The loops of the kernel take them from the shared
memory in every round. -/
def CompletionPath.InRing : CompletionPath → Prop
  | kernelIo _ _ _ => True
  | kernelAdmin _ _ => True
  | abort a q _ _ => (a.shm.sq q).head < (a.shm.sq q).capacity
  | server p _ => (p.server.shm.sq 0).head < (p.server.shm.sq 0).capacity

/-- When the heads are right: in the admin loop of the kernel `LastAdminSqTail` has to be the slot
behind every command that is completed, in an abort and in the server there must be nothing to
do, or only one slot. -/
def CompletionPath.RightWhen : CompletionPath → List Round → Prop
  | kernelIo _ _ _, _ => True
  | kernelAdmin d _, l => ∀ r ∈ l, r.slot < r.capacity → r.posted ≠ [] →
      (r.slot.toNat + 1) % r.capacity.toNat = d.pdo.lastAdminSqTail.toNat % 65536
  | abort a q _ _, _ =>
    (a.shm.sq q).head = (a.shm.sq q).tail ∨ (a.shm.sq q).capacity = 1
  | server p index, _ =>
    (p.server.shm.sq 0).head = index ∨ (p.server.shm.sq 0).capacity = 1

/-- The loop comes back. -/
def CompletionPath.Returns (fuel : Nat) : CompletionPath → Prop
  | kernelIo d q newTail => ∃ d', vnvmeProcessIoCommands fuel d q newTail = some d'
  | kernelAdmin d newTail => ∃ d', vnvmeProcessAdminCommands fuel d newTail = some d'
  | abort a q cqCapacity slot =>
    ∃ sync a', abortWalk fuel a q cqCapacity slot sync = some a'
  | server p index => ∃ p', pollAdminQueue fuel p index = some p'

/-- A loop that comes back has made its rounds. -/
theorem CompletionPath.Returns.rounds {fuel : Nat} {path : CompletionPath}
    (h : path.Returns fuel) : ∃ l, path.Rounds l := by
  cases path with
  | kernelIo d q newTail =>
      obtain ⟨d', h⟩ := h
      by_cases hskip : IoSkipped d q
      · exact ⟨[], (if_pos hskip).mpr rfl⟩
      · rw [vnvmeProcessIoCommands_loop hskip] at h
        obtain ⟨l, hl⟩ := exists_loopTrace _ h
        exact ⟨l, (if_neg hskip).mpr ⟨d', hl⟩⟩
  | kernelAdmin d newTail =>
      obtain ⟨d', h⟩ := h
      by_cases hskip : d.pdo.adminSqSize = 0
      · exact ⟨[], (if_pos hskip).mpr rfl⟩
      · rw [vnvmeProcessAdminCommands, if_neg hskip] at h
        obtain ⟨l, hl⟩ := exists_loopTrace _ h
        exact ⟨l, (if_neg hskip).mpr ⟨d', hl⟩⟩
  | abort a q cqCapacity slot =>
      obtain ⟨sync, a', h⟩ := h
      obtain ⟨r, hr, -⟩ := Option.map_eq_some_iff.mp h
      obtain ⟨l, hl⟩ := exists_loopTrace _ hr
      exact ⟨l, r, hl⟩
  | server p index =>
      obtain ⟨p', h⟩ := h
      obtain ⟨r, hr, -⟩ := Option.map_eq_some_iff.mp h
      obtain ⟨l, hl⟩ := exists_loopTrace _ hr
      exact ⟨l, r, hl⟩

/-! ## What is posted -/

theorem newEntries_self (log : List CqWrite) : newEntries log log = [] := by
  rw [newEntries, List.drop_length]
  rfl

theorem newEntries_append (log : List CqWrite) (w : CqWrite) :
    newEntries log (log ++ [w]) = [w.entry] := by
  rw [newEntries, List.drop_left]
  rfl

theorem roundOf_posted {σ ρ : Type} {step : σ → Option (σ ⊕ ρ)} (slot capacity : σ → UInt32)
    (log : σ → List CqWrite) {s s' : σ} (h : step s = some (.inl s')) :
    (roundOf step slot capacity log s).posted = newEntries (log s) (log s') := by
  rw [roundOf, h]

/-- `VnvmePostCompletion` adds one entry, or is refused and adds none. -/
theorem vnvmePostCompletion_newEntries (d : Driver) (q : UInt16) (c : NvmeCompletion) :
    newEntries (d.cqEntries q.toNat) ((vnvmePostCompletion d q c).2.cqEntries q.toNat) =
      if (vnvmePostCompletion d q c).1 = .success then [withPhase c (d.pdo.cq q.toNat).phaseTag]
      else [] := by
  rcases vnvmePostCompletion_cases d q c with ⟨hfail, hd⟩ | ⟨shm, hok, hd⟩
  · rw [hd, newEntries_self, if_neg hfail]
  · have hshm := (cqCheck_ok_iff.mp hok).1
    have hbefore : d.cqEntries q.toNat = shm.cqLog q.toNat := by
      rw [Driver.cqEntries, hshm]
      rfl
    have hafter : (applyPosts d shm q.toNat [c]).cqEntries q.toNat = shm.cqLog q.toNat ++
        [⟨(shm.cq q.toNat).tail, withPhase c (d.pdo.cq q.toNat).phaseTag⟩] := by
      simp [Driver.cqEntries, applyPosts, postBatchStep]
    rw [hd, hbefore, hafter, newEntries_append, if_pos rfl]

/-- `VnvmePostCompletion` keeps the head that it is given. -/
theorem vnvmePostCompletion_head (d : Driver) (q : UInt16) (c : NvmeCompletion) :
    ∀ e ∈ newEntries (d.cqEntries q.toNat) ((vnvmePostCompletion d q c).2.cqEntries q.toNat),
      e.sqhd = c.sqhd := by
  intro e he
  rw [vnvmePostCompletion_newEntries] at he
  split_ifs at he
  · obtain rfl := List.mem_singleton.mp he
    rfl
  · cases he

theorem postIoCompletion_head {d : Driver} {q : UInt16} (hq : q ≠ 0) (cid : UInt16)
    (sct sc : UInt8) :
    ∀ e ∈ newEntries (d.cqEntries q.toNat)
        ((postIoCompletion d q cid sct sc).2.cqEntries q.toNat),
      e.sqhd = (d.pdo.sq q.toNat).head.toUInt16 := by
  intro e he
  by_cases hcreated : q ≤ 16 ∧ (d.pdo.cq q.toNat).created = true
  · rw [postIoCompletion, if_neg hq, if_pos hcreated] at he
    exact vnvmePostCompletion_head d q _ e he
  · rw [postIoCompletion, if_neg hq, if_neg hcreated, newEntries_self] at he
    cases he

theorem adminHandled_lastAdminSqTail (d : Driver) (cmd : NvmeCommand) :
    (adminHandled d cmd).pdo.lastAdminSqTail = d.pdo.lastAdminSqTail := by
  have h := congrArg PdoContext.lastAdminSqTail
    (handleAdminCommand_unwritten d.config d.pdo d.os cmd)
  exact h

theorem vnvmePostCompletion_lastAdminSqTail (d : Driver) (q : UInt16) (c : NvmeCompletion) :
    (vnvmePostCompletion d q c).2.pdo.lastAdminSqTail = d.pdo.lastAdminSqTail := by
  rcases vnvmePostCompletion_cases d q c with ⟨-, hd⟩ | ⟨shm, -, hd⟩
  · rw [hd]
  · rw [hd]
    rfl

/-- An admin command posts nothing, or one completion with the tail of the last doorbell as its
head. -/
theorem vnvmeProcessAdminCommand_head (d : Driver) (cmd : NvmeCommand) :
    (∀ e ∈ newEntries (d.cqEntries 0) ((vnvmeProcessAdminCommand d cmd).2.cqEntries 0),
      e.sqhd = d.pdo.lastAdminSqTail.toUInt16) ∧
        (vnvmeProcessAdminCommand d cmd).2.pdo.lastAdminSqTail = d.pdo.lastAdminSqTail := by
  have hlast := adminHandled_lastAdminSqTail d cmd
  have hposted : ∀ c, c = (handleAdminCommand d.config d.pdo d.os cmd).completion →
      (∀ e ∈ newEntries (d.cqEntries 0)
          ((postAdminOutcome (adminHandled d cmd) cmd.cid c).2.cqEntries 0),
        e.sqhd = d.pdo.lastAdminSqTail.toUInt16) ∧
      (postAdminOutcome (adminHandled d cmd) cmd.cid c).2.pdo.lastAdminSqTail =
        d.pdo.lastAdminSqTail := by
    rintro (_ | ⟨dw0, sct, sc⟩) -
    · refine ⟨fun e he => ?_, hlast⟩
      have hself : newEntries (d.cqEntries 0)
          ((postAdminOutcome (adminHandled d cmd) cmd.cid none).2.cqEntries 0) = [] :=
        newEntries_self _
      rw [hself] at he
      cases he
    · rw [← hlast]
      exact ⟨vnvmePostCompletion_head (adminHandled d cmd) 0 _,
        vnvmePostCompletion_lastAdminSqTail (adminHandled d cmd) 0 _⟩
  exact hposted _ rfl

/-- A slot of a ring, as 16 bits. -/
theorem toUInt16_toNat {desc : QueueDescriptor} {i : UInt32} (h : i < desc.capacity) :
    i.toUInt16.toNat = i.toNat := by
  have hi : i.toNat < desc.capacity.toNat := h
  have hcap : desc.capacity.toNat ≤ 0xFFFF := UInt32.le_iff_toNat_le.mp desc.capacity_le
  rw [UInt32.toNat_toUInt16]
  exact Nat.mod_eq_of_lt (by omega)

/-! ## The loops of the kernel -/

section Kernel

variable {q : UInt16} {size tail : UInt32} {s s' : UInt32 × Driver}

/-- A fetch that succeeds moves the head, and says what it has read. -/
theorem fetch_success {d : Driver} (h : (vnvmeFetchCommand d q).1.ntSuccess = true) :
    ∃ shm, d.shm = some shm ∧
      (vnvmeFetchCommand d q).2 =
        (shm.sqMem q.toNat (shm.sq q.toNat).head, applyFetch d shm q.toNat) := by
  rcases vnvmeFetchCommand_cases d q with ⟨hne, -⟩ | ⟨shm, hok, -, heq⟩
  · exact absurd (by simpa [NtStatus.ntSuccess] using h) hne
  · exact ⟨shm, (sqCheck_ok_iff.mp hok).1, by rw [heq]⟩

theorem processIoStep_round (h : processIoStep q size tail s = some (.inl s')) :
    ∃ shm cmd, s.2.shm = some shm ∧ s'.2.cqEntries q.toNat =
      (vnvmeProcessIoCommand (applyFetch s.2 shm q.toNat) q cmd).2.cqEntries q.toNat := by
  unfold processIoStep at h
  dsimp only at h
  by_cases hend : s.1 = tail
  · rw [if_pos hend] at h
    cases h
  rw [if_neg hend] at h
  by_cases hfetch : (vnvmeFetchCommand s.2 q).1.ntSuccess = true
  · rw [if_pos hfetch] at h
    obtain ⟨shm, hshm, heq⟩ := fetch_success hfetch
    obtain rfl := Sum.inl.inj (Option.some.inj h)
    rw [heq]
    exact ⟨shm, _, hshm, rfl⟩
  · rw [if_neg hfetch] at h
    cases h

theorem processAdminStep_round (h : processAdminStep size tail s = some (.inl s')) :
    ∃ shm cmd, s.2.shm = some shm ∧
      s'.2.cqEntries 0 = (vnvmeProcessAdminCommand (applyFetch s.2 shm 0) cmd).2.cqEntries 0 ∧
      s'.2.pdo.lastAdminSqTail =
        (vnvmeProcessAdminCommand (applyFetch s.2 shm 0) cmd).2.pdo.lastAdminSqTail := by
  unfold processAdminStep at h
  dsimp only at h
  by_cases hend : s.1 = tail
  · rw [if_pos hend] at h
    cases h
  rw [if_neg hend] at h
  by_cases hfetch : (vnvmeFetchCommand s.2 0).1.ntSuccess = true
  · rw [if_pos hfetch] at h
    obtain ⟨shm, hshm, heq⟩ := fetch_success hfetch
    obtain rfl := Sum.inl.inj (Option.some.inj h)
    rw [heq]
    exact ⟨shm, _, hshm, rfl, rfl⟩
  · rw [if_neg hfetch] at h
    cases h

theorem applyFetch_cqEntries {d : Driver} {shm : Shm} (hshm : d.shm = some shm) (p r : Nat) :
    (applyFetch d shm p).cqEntries r = d.cqEntries r := by
  rw [Driver.cqEntries, Driver.cqEntries, hshm]
  rfl

/-- The head that an I/O completion carries is the one that the fetch has just moved. -/
theorem processIoStep_headOk (hq : q ≠ 0) (h : processIoStep q size tail s = some (.inl s')) :
    (roundOf (processIoStep q size tail) (takenSlot q.toNat) (ringCapacity q.toNat)
      (·.2.cqEntries q.toNat) s).HeadOk := by
  intro hslot e he
  obtain ⟨shm, cmd, hshm, hentries⟩ := processIoStep_round h
  rw [roundOf_posted _ _ _ h, hentries, ← applyFetch_cqEntries hshm q.toNat] at he
  obtain ⟨sct, sc, hcmd⟩ := vnvmeProcessIoCommand_eq (applyFetch s.2 shm q.toNat) q cmd
  rw [hcmd] at he
  have hhead := postIoCompletion_head (d := ioHandled (applyFetch s.2 shm q.toNat) cmd) hq
    cmd.cid sct sc e he
  have hmoved : ((ioHandled (applyFetch s.2 shm q.toNat) cmd).pdo.sq q.toNat).head =
      next (shm.sq q.toNat).capacity (shm.sq q.toNat).head := by
    simp [ioHandled, applyFetch, PdoContext.setSq]
  have htaken : takenSlot q.toNat s = (shm.sq q.toNat).head := by
    rw [takenSlot, hshm]
    rfl
  have hcap : ringCapacity q.toNat s = (shm.sq q.toNat).capacity := by
    rw [ringCapacity, hshm]
    rfl
  rw [roundOf, htaken, hcap] at hslot ⊢
  rw [hhead, hmoved, toUInt16_toNat (next_lt (RingBuffer.pos_of_lt hslot)), next_toNat hslot]

/-- The admin completions carry what the last doorbell has left. -/
theorem processAdminStep_head {last : UInt32} (hlast : s.2.pdo.lastAdminSqTail = last)
    (h : processAdminStep size tail s = some (.inl s')) :
    (∀ e ∈ (roundOf (processAdminStep size tail) (takenSlot 0) (ringCapacity 0)
      (·.2.cqEntries 0) s).posted, e.sqhd = last.toUInt16) ∧
        s'.2.pdo.lastAdminSqTail = last := by
  obtain ⟨shm, cmd, hshm, hentries, hkept⟩ := processAdminStep_round h
  constructor
  · intro e he
    rw [roundOf_posted _ _ _ h, hentries, ← applyFetch_cqEntries hshm 0] at he
    exact ((vnvmeProcessAdminCommand_head (applyFetch s.2 shm 0) cmd).1 e he).trans
      (congrArg UInt32.toUInt16 hlast)
  · exact (hkept.trans (vnvmeProcessAdminCommand_head (applyFetch s.2 shm 0) cmd).2).trans hlast

end Kernel

/-! ## The walks -/

section Walks

variable {σ : Type} (desc : QueueDescriptor) (head : UInt32 → UInt32)

/-- A walk that posts one completion for every slot, with a head that goes by the slot. -/
theorem walk_heads (log : σ → List CqWrite) (I : σ → Prop) {body : σ → UInt32 → σ}
    {tail : UInt32} (hkept : ∀ s i, I s → I (body s i) ∧
      ∃ w, log (body s i) = log s ++ [w] ∧ w.entry.sqhd = (head i).toUInt16)
    {i : UInt32} {s : σ} {l : List Round} {r : UInt32 × σ} (hi : i < desc.capacity) (hs : I s)
    (h : LoopTrace (walkStep desc.capacity tail fun s i => some (body s i))
      (roundOf (walkStep desc.capacity tail fun s i => some (body s i)) (·.1)
        (fun _ => desc.capacity) fun x => log x.2) (i, s) l r) :
    ∀ x ∈ l, x.capacity = desc.capacity ∧ x.slot < desc.capacity ∧
      ∃ c, x.posted = [c] ∧ c.sqhd = (head x.slot).toUInt16 := by
  refine h.forall_take (I := fun x => x.1 < desc.capacity ∧ I x.2) ?_ ⟨hi, hs⟩
  rintro ⟨i, s⟩ s' ⟨hi, hs⟩ hstep
  have hposted := roundOf_posted (·.1) (fun _ => desc.capacity) (fun x => log x.2) hstep
  unfold walkStep at hstep
  dsimp only at hstep
  by_cases hend : i = tail
  · rw [if_pos hend] at hstep
    cases hstep
  · rw [if_neg hend] at hstep
    obtain rfl := Sum.inl.inj (Option.some.inj hstep)
    obtain ⟨hI, w, hlog, hw⟩ := hkept s i hs
    dsimp only at hposted
    rw [hlog, newEntries_append] at hposted
    exact ⟨⟨rfl, hi, w.entry, hposted, hw⟩, next_lt (RingBuffer.pos_of_lt hi), hI⟩

/-- If the head is that of the first slot, or the slot itself, then it is right only in a ring of
one slot. -/
theorem walk_headOk_iff {i : UInt32} {l : List Round} (hi : i < desc.capacity)
    (hhead : head i = i) (hin : ∀ j, j < desc.capacity → head j < desc.capacity)
    (hfirst : ∀ x rest, l = x :: rest → x.slot = i)
    (h : ∀ x ∈ l, x.capacity = desc.capacity ∧ x.slot < desc.capacity ∧
      ∃ c, x.posted = [c] ∧ c.sqhd = (head x.slot).toUInt16) :
    (∀ x ∈ l, x.HeadOk) ↔ l = [] ∨ desc.capacity = 1 := by
  constructor
  · intro hok
    cases l with
    | nil => exact Or.inl rfl
    | cons x rest =>
        refine Or.inr ?_
        obtain ⟨hcap, hslot, c, hposted, hc⟩ := h x List.mem_cons_self
        have hx := hok x List.mem_cons_self (hcap ▸ hslot) c
          (hposted ▸ List.mem_singleton_self c)
        rw [hc, hfirst x rest rfl, hhead, toUInt16_toNat hi, hcap] at hx
        have hlt : i.toNat < desc.capacity.toNat := hi
        apply UInt32.toNat_inj.mp
        rcases Nat.lt_or_ge (i.toNat + 1) desc.capacity.toNat with hnext | hwrap
        · rw [Nat.mod_eq_of_lt hnext] at hx
          omega
        · have hn : i.toNat + 1 = desc.capacity.toNat := by omega
          rw [hn, Nat.mod_self] at hx
          simpa using (by omega : desc.capacity.toNat = 1)
  · rintro (rfl | hone) x hx
    · cases hx
    · obtain ⟨hcap, hslot, c, hposted, hc⟩ := h x hx
      intro _ e he
      rw [hposted] at he
      obtain rfl := List.mem_singleton.mp he
      have hlt : (head x.slot).toNat < desc.capacity.toNat := hin _ hslot
      have hlt' : x.slot.toNat < desc.capacity.toNat := hslot
      rw [hc, toUInt16_toNat (hin _ hslot), hcap, hone]
      rw [hone] at hlt hlt'
      have hzero : (head x.slot).toNat = 0 := Nat.lt_one_iff.mp hlt
      rw [hzero]
      exact (Nat.mod_one _).symm

/-- The first round of a walk takes the slot it starts at, if there is one to take. -/
theorem walk_first_slot {c i : UInt32} {s : σ} {l : List Round} {r : UInt32 × σ}
    {body : σ → UInt32 → Option σ} {capacity : UInt32 × σ → UInt32}
    {log : UInt32 × σ → List CqWrite}
    (h : LoopTrace (walkStep c tail body) (roundOf (walkStep c tail body) (·.1) capacity log)
      (i, s) l r) :
    (l = [] ↔ i = tail) ∧ ∀ x rest, l = x :: rest → x.slot = i := by
  cases h with
  | exit hexit =>
      refine ⟨iff_of_true rfl ?_, fun x rest heq => by cases heq⟩
      by_contra hne
      rw [walkStep, if_neg hne] at hexit
      obtain ⟨_, _, heq⟩ := Option.map_eq_some_iff.mp hexit
      cases heq
  | round hround _ =>
      refine ⟨iff_of_false (List.cons_ne_nil _ _) ?_, fun x rest heq => ?_⟩
      · rintro rfl
        rw [walkStep, if_pos rfl] at hround
        cases hround
      · obtain rfl := (List.cons.inj heq).1
        rfl

end Walks

/-- One admin command in the server posts one completion, with the head that is in the shared
memory. -/
theorem pollAdminCommand_head (p : Polling) (slot : UInt32) :
    ∃ w, (pollAdminCommand p slot).server.shm.cqLog 0 = p.server.shm.cqLog 0 ++ [w] ∧
      w.entry.sqhd = (p.server.shm.sq 0).head.toUInt16 := by
  unfold pollAdminCommand cmdEngineProcessAdminCommand
  cases adminCmdDispatch p.server.ctx.adminCtx p.server.shm.dataBuffer
      (p.server.shm.sqMem 0 slot) with
  | none =>
      exact ⟨_, by simp [cmdEnginePostAdminCompletion, Shm.setCq, Shm.writeCqe]; rfl, rfl⟩
  | some r =>
      exact ⟨_, by simp [cmdEnginePostAdminCompletion, Shm.setCq, Shm.writeCqe]; rfl, rfl⟩

/-! ## All paths -/

theorem kernelIo_headOk {d : Driver} {q : UInt16} {newTail : UInt32} {l : List Round}
    (h : (CompletionPath.kernelIo d q newTail).Rounds l) : ∀ r ∈ l, r.HeadOk := by
  by_cases hskip : IoSkipped d q
  · rw [(if_pos hskip).mp h]
    exact List.forall_mem_nil _
  · obtain ⟨d', htrace⟩ := (if_neg hskip).mp h
    have hq : q ≠ 0 := fun h0 => hskip (Or.inl (Or.inl h0))
    refine htrace.forall_take (I := fun _ => True) (fun s s' _ hstep => ?_) trivial
    exact ⟨processIoStep_headOk hq hstep, trivial⟩

theorem kernelAdmin_head {d : Driver} {newTail : UInt32} {l : List Round}
    (h : (CompletionPath.kernelAdmin d newTail).Rounds l) :
    ∀ r ∈ l, ∀ c ∈ r.posted, c.sqhd = d.pdo.lastAdminSqTail.toUInt16 := by
  by_cases hskip : d.pdo.adminSqSize = 0
  · rw [(if_pos hskip).mp h]
    exact List.forall_mem_nil _
  · obtain ⟨d', htrace⟩ := (if_neg hskip).mp h
    refine htrace.forall_take
      (I := fun s => s.2.pdo.lastAdminSqTail = d.pdo.lastAdminSqTail) ?_ rfl
    intro s s' hlast hstep
    exact processAdminStep_head hlast hstep

theorem abort_headOk_iff {a : Aborting} {q : Nat} {cqCapacity : UInt32} {slot : UInt32 → UInt32}
    (hring : (CompletionPath.abort a q cqCapacity slot).InRing) {l : List Round}
    (h : (CompletionPath.abort a q cqCapacity slot).Rounds l) :
    (∀ r ∈ l, r.HeadOk) ↔ (CompletionPath.abort a q cqCapacity slot).RightWhen l := by
  obtain ⟨r, htrace⟩ := h
  have hring : (a.shm.sq q).head < (a.shm.sq q).capacity := hring
  obtain ⟨hempty, hfirst⟩ := walk_first_slot htrace
  have hheads := walk_heads (a.shm.sq q) id AbortLoop.log (fun _ => True)
    (fun s i _ => ⟨trivial, _, rfl, rfl⟩) hring trivial htrace
  have hiff := walk_headOk_iff (a.shm.sq q) id hring rfl (fun _ hj => hj) hfirst hheads
  rw [hiff, hempty]
  rfl

theorem server_headOk_iff {p : Polling} {index : UInt32}
    (hring : (CompletionPath.server p index).InRing) {l : List Round}
    (h : (CompletionPath.server p index).Rounds l) :
    (∀ r ∈ l, r.HeadOk) ↔ (CompletionPath.server p index).RightWhen l := by
  obtain ⟨r, htrace⟩ := h
  have hring : (p.server.shm.sq 0).head < (p.server.shm.sq 0).capacity := hring
  obtain ⟨hempty, hfirst⟩ := walk_first_slot htrace
  have hkept : ∀ (p' : Polling) (i : UInt32), p'.server.shm.sq = p.server.shm.sq →
      (pollAdminCommand p' i).server.shm.sq = p.server.shm.sq ∧
        ∃ w, (pollAdminCommand p' i).server.shm.cqLog 0 = p'.server.shm.cqLog 0 ++ [w] ∧
          w.entry.sqhd = (p.server.shm.sq 0).head.toUInt16 := by
    intro p' i hsq
    obtain ⟨w, hlog, hw⟩ := pollAdminCommand_head p' i
    rw [hsq] at hw
    exact ⟨(serving_adminCommand p'.server _).sq.trans hsq, w, hlog, hw⟩
  have hheads := walk_heads (p.server.shm.sq 0) (fun _ => (p.server.shm.sq 0).head)
    (fun p : Polling => p.server.shm.cqLog 0) (fun p' => p'.server.shm.sq = p.server.shm.sq)
    hkept hring rfl htrace
  have hiff := walk_headOk_iff (p.server.shm.sq 0) (fun _ => (p.server.shm.sq 0).head) hring rfl
    (fun _ _ => hring) hfirst hheads
  rw [hiff, hempty]
  rfl

/-- **The submission queue head.** When the completions of a loop tell the slots behind their
commands. -/
theorem headOk_iff {path : CompletionPath} (hring : path.InRing) {l : List Round}
    (h : path.Rounds l) : (∀ r ∈ l, r.HeadOk) ↔ path.RightWhen l := by
  cases path with
  | kernelIo d q newTail => exact iff_of_true (kernelIo_headOk h) trivial
  | kernelAdmin d newTail =>
      have hhead := kernelAdmin_head h
      constructor
      · intro hok r hr hslot hposted
        obtain ⟨c, hc⟩ := List.exists_mem_of_ne_nil _ hposted
        rw [← hok r hr hslot c hc, hhead r hr c hc, UInt32.toNat_toUInt16]
      · intro hright r hr hslot c hc
        rw [hright r hr hslot (List.ne_nil_of_mem hc), hhead r hr c hc, UInt32.toNat_toUInt16]
  | abort a q cqCapacity slot => exact abort_headOk_iff hring h
  | server p index => exact server_headOk_iff hring h

/-! ## One command in the first slot -/

/-- The server is notified of the first admin command. -/
def firstAdminCommand : CompletionPath := .server { server := startedServer } 1

/-- The server is lost before it has seen the first admin command. -/
def firstAdminAbort : CompletionPath :=
  .abort { shm := vnvmeAllocateShm.setSq 0 { vnvmeAllocateShm.sq 0 with tail := 1 }, pdo := {} } 0
    (vnvmeAllocateShm.sq 0).capacity id

theorem firstAdminCommand_returns : firstAdminCommand.Returns 2 := ⟨_, rfl⟩

theorem firstAdminAbort_returns : firstAdminAbort.Returns 2 := ⟨abortSyncAdmin {}, _, rfl⟩

theorem firstAdmin_inRing : firstAdminCommand.InRing ∧ firstAdminAbort.InRing := by
  constructor
  · show (0 : UInt32) < 64
    decide
  · show (0 : UInt32) < 64
    decide

theorem headOk_iff_firstAdminCommand :
    ∃ l, firstAdminCommand.Rounds l ∧ ((∀ r ∈ l, r.HeadOk) ↔ firstAdminCommand.RightWhen l) := by
  obtain ⟨l, hl⟩ := firstAdminCommand_returns.rounds
  exact ⟨l, hl, headOk_iff firstAdmin_inRing.1 hl⟩

/-- Both completions carry the slot of the command itself. -/
theorem firstAdmin_head_wrong :
    (∃ l, firstAdminCommand.Rounds l ∧ ¬ ∀ r ∈ l, r.HeadOk) ∧
      ∃ l, firstAdminAbort.Rounds l ∧ ¬ ∀ r ∈ l, r.HeadOk := by
  have hright : ¬ ((0 : UInt32) = 1 ∨ (64 : UInt32) = 1) := by decide
  obtain ⟨l, hl⟩ := firstAdminCommand_returns.rounds
  obtain ⟨l', hl'⟩ := firstAdminAbort_returns.rounds
  refine ⟨⟨l, hl, fun hok => ?_⟩, l', hl', fun hok => ?_⟩
  · exact hright ((server_headOk_iff firstAdmin_inRing.1 hl).mp hok)
  · exact hright ((abort_headOk_iff firstAdmin_inRing.2 hl').mp hok)

end VirtualNvme
