import VirtualNvme.Driver.Doorbell
import VirtualNvme.Verification.QueueTables

/-!
# What a poll leaves alone

Behind the enable bit, `VnvmeProcessDoorbells` works on the queues through four routines: it
fetches a command, runs it, posts its completion, or forwards a tail. What these four keep,
the whole poll keeps. The registers, their cached copy and the geometry of the admin queues
are such a thing: no command ever touches them.
-/

namespace VirtualNvme

open RingBuffer

/-! ## The parts of a poll -/

/-- The registers as step 1 of the poll leaves them. -/
def polledRegs (d : Driver) (regs : Bar0) : Bar0 := (processCc d regs).2.pdo.bar0.getD regs

/-- The poll goes on to the doorbells. -/
def PollActive (d : Driver) (regs : Bar0) : Prop :=
  (bit0 (polledRegs d regs).cc && bit0 (polledRegs d regs).csts) = true

section Parts

variable {d : Driver} {regs : Bar0} (hregs : d.pdo.bar0 = some regs)

include hregs

/-- An active poll goes through the admin queue and then through the I/O queues. -/
theorem vnvmeProcessDoorbells_active (hactive : PollActive d regs) (fuel : Nat) :
    vnvmeProcessDoorbells fuel d =
      (processAdminDoorbells fuel (polledRegs d regs) (processCc d regs).1
        (processCc d regs).2).bind fun r =>
          (List.range r.2.pdo.ioQueueCount.toNat).foldlM
            (processIoDoorbells fuel (polledRegs d regs)) r := by
  have hon : (bit0 (polledRegs d regs).cc && bit0 (polledRegs d regs).csts) = true := hactive
  simp only [vnvmeProcessDoorbells, hregs]
  rw [← polledRegs, hon]
  rfl

theorem vnvmeProcessDoorbells_inactive (hactive : ¬ PollActive d regs) (fuel : Nat) :
    vnvmeProcessDoorbells fuel d = some (processCc d regs) := by
  have hoff : (bit0 (polledRegs d regs).cc && bit0 (polledRegs d regs).csts) = false :=
    Bool.not_eq_true _ ▸ hactive
  simp only [vnvmeProcessDoorbells, hregs]
  rw [← polledRegs, hoff]
  rfl

end Parts

/-! ## Fields that no command touches -/

/-- The registers and what `VnvmeInitializeAdminQueues` derives from them. -/
structure FixedFields where
  bar0 : Option Bar0
  cachedCC : UInt32
  adminSqBase : UInt64
  adminSqSize : UInt32
  adminCqBase : UInt64
  adminCqSize : UInt32
  adminCqPhase : UInt32

def PdoContext.fixed (p : PdoContext) : FixedFields :=
  ⟨p.bar0, p.cachedCC, p.adminSqBase, p.adminSqSize, p.adminCqBase, p.adminCqSize,
    p.adminCqPhase⟩

/-- What the handlers of admin commands leave as it is: all but the queue tables, the number of
queues and the event requests. -/
def PdoContext.unwritten (p : PdoContext) : PdoContext :=
  { p with
    sq := fun _ => {}, cq := fun _ => {}, ioQueueCount := 0, maxIoQueues := 0, aerCids := [] }

theorem handleAdminCommand_unwritten (cfg : Config) (p : PdoContext) (os : Os)
    (cmd : NvmeCommand) : (handleAdminCommand cfg p os cmd).pdo.unwritten = p.unwritten :=
  handleAdminCommand_keeps (fun _ _ => rfl) (fun _ _ _ _ => rfl) (fun _ => rfl)
    (fun _ _ => rfl) cfg

theorem handleAdminCommand_fixed (cfg : Config) (p : PdoContext) (os : Os) (cmd : NvmeCommand) :
    (handleAdminCommand cfg p os cmd).pdo.fixed = p.fixed := by
  have h := congrArg PdoContext.fixed (handleAdminCommand_unwritten cfg p os cmd)
  exact h

/-! ## The rounds of one I/O queue -/

/-- `F` reads nothing that serving I/O queue `q` writes: the media, the indices of the queue,
and what fetching, posting and forwarding do for it. -/
structure KeptByQueue {α : Type*} (F : Driver → α) (q : UInt16) : Prop where
  media : ∀ (d : Driver) (m : Media) (os : Os),
    F { d with pdo := { d.pdo with toMedia := m }, os := os } = F d
  sqIndex : ∀ (d : Driver) (st : QueueState), st.created = (d.pdo.sq q.toNat).created →
    F { d with pdo := d.pdo.setSq q.toNat st } = F d
  cqIndex : ∀ (d : Driver) (st : QueueState), st.created = (d.pdo.cq q.toNat).created →
    F { d with pdo := d.pdo.setCq q.toNat st } = F d
  fetch : ∀ d, F (vnvmeFetchCommand d q).2.2 = F d
  post : ∀ d c, F (vnvmePostCompletion d q c).2 = F d
  forward : ∀ d shm tail, d.shm = some shm → F (forwardTail d shm q tail) = F d

/-- A loop over commands keeps what its rounds keep. -/
theorem commandLoop_keeps {α : Type*} {F : Driver → α}
    {step : UInt32 × Driver → Option ((UInt32 × Driver) ⊕ Driver)}
    (hstep : ∀ s x, step s = some x → F (x.elim Prod.snd id) = F s.2) {fuel : Nat}
    {s : UInt32 × Driver} {d : Driver} (h : loop step fuel s = some d) : F d = F s.2 := by
  refine loop_induct (I := fun t : UInt32 × Driver => F t.2 = F s.2)
    (Q := fun d => F d = F s.2) ?_ ?_ rfl h
  · intro t t' ht hround
    exact (hstep t _ hround).trans ht
  · intro t r ht hexit
    exact (hstep t _ hexit).trans ht

section Queue

variable {α : Type*} {F : Driver → α} {q : UInt16} (hF : KeptByQueue F q)

include hF

theorem KeptByQueue.io (d : Driver) (cmd : NvmeCommand) :
    F (vnvmeProcessIoCommand d q cmd).2 = F d := by
  obtain ⟨sct, sc, heq⟩ := vnvmeProcessIoCommand_eq d q cmd
  have hhandled : F (ioHandled d cmd) = F d := hF.media d _ _
  rw [heq, ← hhandled]
  rcases postIoCompletion_cases (ioHandled d cmd) q cmd.cid sct sc with
    ⟨-, hd⟩ | ⟨c, -, -, hd⟩
  · rw [hd]
  · rw [hd]
    exact hF.post _ c

theorem KeptByQueue.ioRound {size tail : UInt32} {s : UInt32 × Driver}
    {x : (UInt32 × Driver) ⊕ Driver} (h : processIoStep q size tail s = some x) :
    F (x.elim Prod.snd id) = F s.2 := by
  simp only [processIoStep] at h
  split_ifs at h
  · rw [← Option.some.inj h]
    rfl
  · rw [← Option.some.inj h]
    let d := (vnvmeProcessIoCommand (vnvmeFetchCommand s.2 q).2.2 q (vnvmeFetchCommand s.2 q).2.1).2
    let st := { d.pdo.sq q.toNat with head := next size s.1 }
    let pdo := d.pdo.setSq q.toNat st
    calc F { d with pdo := { pdo with toMedia := pdo.toMedia.countCommand } }
        = F { d with pdo := pdo } := hF.media { d with pdo := pdo } _ d.os
      _ = F d := hF.sqIndex d st rfl
      _ = F (vnvmeFetchCommand s.2 q).2.2 := hF.io _ _
      _ = F s.2 := hF.fetch s.2
  · rw [← Option.some.inj h]
    exact hF.fetch s.2

theorem KeptByQueue.dispatchIo {fuel : Nat} {d d' : Driver} {tail : UInt32}
    (h : dispatchIoTail fuel d q tail = some d') : F d' = F d := by
  unfold dispatchIoTail at h
  split at h
  · simp only [vnvmeProcessIoCommands] at h
    split_ifs at h
    · rw [← Option.some.inj h]
    · rw [← Option.some.inj h]
    · exact commandLoop_keeps (fun _ _ => hF.ioRound) h
  · rw [← Option.some.inj h]
    cases hshm : d.shm with
    | none => rw [vnvmeForwardIoCommandsToUser, hshm]
    | some shm =>
        rw [vnvmeForwardIoCommandsToUser_eq hshm]
        split_ifs
        · exact hF.forward d shm tail hshm
        · rfl

end Queue

/-- The id that the poller passes for I/O queue `i + 1`. -/
theorem toNat_ioQueueId {i : Nat} {count : UInt16} (h : i < count.toNat) :
    (UInt16.ofNat (i + 1)).toNat = i + 1 := by
  have hlt : count.toNat < 65536 := count.toNat_lt
  exact UInt16.toNat_ofNat_of_lt' (show i + 1 < 65536 by omega)

theorem KeptByQueue.ioDoorbells {α : Type*} {F : Driver → α} {i : Nat}
    (hF : KeptByQueue F (UInt16.ofNat (i + 1))) (hi : (UInt16.ofNat (i + 1)).toNat = i + 1)
    {fuel : Nat} {regs : Bar0} {r r' : Bool × Driver}
    (h : processIoDoorbells fuel regs r i = some r') : F r'.2 = F r.2 := by
  have hsq := hF.sqIndex
  have hcq := hF.cqIndex
  rw [hi] at hsq hcq
  by_cases hc : (!(r.2.pdo.sq (i + 1)).created) = true
  · rw [← Option.some.inj ((if_pos hc).symm.trans h)]
  · obtain ⟨s, hs, rfl⟩ := Option.map_eq_some_iff.mp ((if_neg hc).symm.trans h)
    refine Eq.trans (hcq s.2 _ rfl) ?_
    split_ifs at hs
    · rw [← Option.some.inj hs]
    · obtain ⟨d', hd', rfl⟩ := Option.map_eq_some_iff.mp hs
      exact Eq.trans (hsq d' _ rfl) (hF.dispatchIo hd')

/-! ## The whole poll -/

/-- `F` reads nothing that serving the queues writes. -/
structure KeptByServing {α : Type*} (F : Driver → α) : Prop where
  admin : ∀ d cmd, F (adminStep d cmd) = F d
  adminFetch : ∀ d, F (vnvmeFetchCommand d 0).2.2 = F d
  adminHead : ∀ (d : Driver) (head : UInt32),
    F { d with pdo := d.pdo.setSq 0 { d.pdo.sq 0 with head := head } } = F d
  adminForward : ∀ d shm tail, d.shm = some shm → F (forwardTail d shm 0 tail) = F d
  adminRecord : ∀ (d : Driver) (sqTail cqHead : UInt32), F { d with
    pdo := { d.pdo with lastAdminSqTail := sqTail, lastAdminCqHead := cqHead } } = F d
  queue : ∀ q : UInt16, q.toNat ≠ 0 → KeptByQueue F q

section Serving

variable {α : Type*} {F : Driver → α} (hF : KeptByServing F)

include hF

theorem KeptByServing.adminRound {size tail : UInt32} {s : UInt32 × Driver}
    {x : (UInt32 × Driver) ⊕ Driver} (h : processAdminStep size tail s = some x) :
    F (x.elim Prod.snd id) = F s.2 := by
  simp only [processAdminStep] at h
  split_ifs at h
  · rw [← Option.some.inj h]
    rfl
  · rw [← Option.some.inj h]
    let d := adminStep (vnvmeFetchCommand s.2 0).2.2 (vnvmeFetchCommand s.2 0).2.1
    calc F { d with pdo := d.pdo.setSq 0 { d.pdo.sq 0 with head := next size s.1 } }
        = F d := hF.adminHead d _
      _ = F (vnvmeFetchCommand s.2 0).2.2 := hF.admin _ _
      _ = F s.2 := hF.adminFetch s.2
  · rw [← Option.some.inj h]
    exact hF.adminFetch s.2

theorem KeptByServing.dispatchAdmin {fuel : Nat} {d d' : Driver} {tail : UInt32}
    (h : dispatchAdminTail fuel d tail = some d') : F d' = F d := by
  unfold dispatchAdminTail at h
  split at h
  · unfold vnvmeProcessAdminCommands at h
    split at h
    · rw [← Option.some.inj h]
    · exact commandLoop_keeps (fun _ _ => hF.adminRound) h
  · rw [← Option.some.inj h]
    cases hshm : d.shm with
    | none => rw [vnvmeForwardAdminCommandsToUser, hshm]
    | some shm =>
        rw [vnvmeForwardAdminCommandsToUser_eq hshm]
        split_ifs
        · exact hF.adminForward d shm tail hshm
        · rfl

theorem KeptByServing.adminDoorbells {fuel : Nat} {regs : Bar0} {b : Bool} {d : Driver}
    {r : Bool × Driver} (h : processAdminDoorbells fuel regs b d = some r) : F r.2 = F d := by
  obtain ⟨s, hs, rfl⟩ := Option.map_eq_some_iff.mp h
  split_ifs at hs
  · rw [← Option.some.inj hs]
    exact hF.adminRecord d _ _
  · obtain ⟨d', hd', rfl⟩ := Option.map_eq_some_iff.mp hs
    exact Eq.trans (hF.adminRecord d' _ _) (hF.dispatchAdmin hd')

/-- **After the enable bit has been dealt with, a poll keeps `F`.** -/
theorem KeptByServing.poll {fuel : Nat} {d : Driver} {regs : Bar0}
    (hregs : d.pdo.bar0 = some regs) {r : Bool × Driver}
    (h : vnvmeProcessDoorbells fuel d = some r) : F r.2 = F (processCc d regs).2 := by
  by_cases hactive : PollActive d regs
  · rw [vnvmeProcessDoorbells_active hregs hactive] at h
    obtain ⟨s, hs, hio⟩ := Option.bind_eq_some_iff.mp h
    refine foldlM_induct (I := fun x : Bool × Driver => F x.2 = F (processCc d regs).2) ?_
      (hF.adminDoorbells hs) hio
    intro x i x' hi hx hx'
    have hid := toNat_ioQueueId (List.mem_range.mp hi)
    exact ((hF.queue _ (by omega)).ioDoorbells hid hx').trans hx
  · rw [vnvmeProcessDoorbells_inactive hregs hactive] at h
    rw [← Option.some.inj h]

end Serving

/-- `F` reads no queue table, and nothing else that the four routines write. -/
structure KeptByPoll {α : Type*} (F : Driver → α) : Prop where
  tables : ∀ d d' : Driver, d'.config = d.config → d'.fdo = d.fdo → d'.shm = d.shm →
    d'.pdo.fixed = d.pdo.fixed → F d' = F d
  fetch : ∀ d q, F (vnvmeFetchCommand d q).2.2 = F d
  post : ∀ d q c, F (vnvmePostCompletion d q c).2 = F d
  forward : ∀ d shm q tail, d.shm = some shm → F (forwardTail d shm q tail) = F d

section Keeps

variable {α : Type*} {F : Driver → α} (hF : KeptByPoll F)

include hF

theorem KeptByPoll.queue (q : UInt16) : KeptByQueue F q where
  media := fun d _ _ => hF.tables d _ rfl rfl rfl rfl
  sqIndex := fun d _ _ => hF.tables d _ rfl rfl rfl rfl
  cqIndex := fun d _ _ => hF.tables d _ rfl rfl rfl rfl
  fetch := fun d => hF.fetch d q
  post := fun d c => hF.post d q c
  forward := fun d shm tail hshm => hF.forward d shm q tail hshm

theorem KeptByPoll.admin (d : Driver) (cmd : NvmeCommand) : F (adminStep d cmd) = F d := by
  have hhandled : F (adminHandled d cmd) = F d :=
    hF.tables d _ rfl rfl rfl (handleAdminCommand_fixed d.config d.pdo d.os cmd)
  rw [← hhandled]
  refine Eq.trans (hF.tables (postAdminOutcome (adminHandled d cmd) cmd.cid
    (handleAdminCommand d.config d.pdo d.os cmd).completion).2 _ rfl rfl rfl rfl) ?_
  cases (handleAdminCommand d.config d.pdo d.os cmd).completion with
  | none => rfl
  | some c => exact hF.post _ 0 _

theorem KeptByPoll.serving : KeptByServing F where
  admin := hF.admin
  adminFetch := fun d => hF.fetch d 0
  adminHead := fun d _ => hF.tables d _ rfl rfl rfl rfl
  adminForward := fun d shm tail hshm => hF.forward d shm 0 tail hshm
  adminRecord := fun d _ _ => hF.tables d _ rfl rfl rfl rfl
  queue := fun q _ => hF.queue q

end Keeps

/-! ## The fixed fields -/

theorem keptByPoll_fixed : KeptByPoll fun d => d.pdo.fixed where
  tables := fun _ _ _ _ _ h => h
  fetch := fun d q => by
    rcases vnvmeFetchCommand_cases d q with ⟨-, hd⟩ | ⟨shm, -, -, hd⟩
    · rw [hd]
    · rw [hd]
      rfl
  post := fun d q c => by
    rcases vnvmePostCompletion_cases d q c with ⟨-, hd⟩ | ⟨shm, -, hd⟩
    · rw [hd]
    · rw [hd]
      rfl
  forward := fun _ _ _ _ _ => rfl

end VirtualNvme
