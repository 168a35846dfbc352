import Mathlib.Algebra.Order.BigOperators.Group.Finset
import VirtualNvme.Driver.CtrlDev
import VirtualNvme.RingBuffer.Index
import VirtualNvme.Verification.KernelMode

/-!
# The pending commands in the answer to a heartbeat

`VnvmeHandleHeartbeat` tells the server how many commands are waiting in the submission queues of
all controllers. It takes the difference between tail and head of each queue that it looks at, and
nothing if the tail is in front of the head. For the admin queue it takes the tail from
`AdminSq.Tail`, but the doorbell poller keeps it in `LastAdminSqTail`.
-/

namespace VirtualNvme

open RingBuffer
open Finset (range)
open Runs (run)

/-! ## Pending and counted -/

/-- What is pending in the admin queue: from its head to the tail of the last poll. -/
def PdoContext.adminPending (p : PdoContext) : ℕ :=
  dist p.adminSqSize (p.sq 0).head p.lastAdminSqTail

/-- What is pending in I/O queue `i + 1`. -/
def PdoContext.ioPending (p : PdoContext) (i : ℕ) : ℕ :=
  if (p.sq (i + 1)).created then
    dist (p.sq (i + 1)).size (p.sq (i + 1)).head (p.sq (i + 1)).tail
  else 0

/-- What is pending in the submission queues of a controller. -/
def PdoContext.pendingCommands (p : PdoContext) : ℕ :=
  p.adminPending + ∑ i ∈ range 16, p.ioPending i

/-- What is pending on the bus. -/
def Bus.pendingCommands (b : Bus) : ℕ := (b.controllers.map PdoContext.pendingCommands).sum

/-- What the handler counts for I/O queue `i + 1`. -/
def PdoContext.ioCounted (p : PdoContext) (i : ℕ) : ℕ :=
  if (p.sq (i + 1)).created then (pendingOf (p.sq (i + 1))).toNat else 0

/-- What the handler counts for a controller. -/
def PdoContext.counted (p : PdoContext) : ℕ :=
  (pendingOf (p.sq 0)).toNat + ∑ i ∈ range p.ioQueueCount.toNat, p.ioCounted i

theorem addPending_eq (n : UInt32) (p : PdoContext) :
    addPending n p = n + UInt32.ofNat p.counted := by
  have hloop (k : ℕ) (m : UInt32) : (List.range k).foldl
      (fun n i => if (p.sq (i + 1)).created then n + pendingOf (p.sq (i + 1)) else n) m =
        m + UInt32.ofNat (∑ i ∈ range k, p.ioCounted i) := by
    induction k with
    | zero => exact (UInt32.add_zero m).symm
    | succ k ih =>
        rw [List.range_succ, List.foldl_append, ih, Finset.sum_range_succ, UInt32.ofNat_add,
          ← UInt32.add_assoc]
        by_cases hcreated : (p.sq (k + 1)).created
        · simp [PdoContext.ioCounted, hcreated]
        · simp [PdoContext.ioCounted, hcreated]
  rw [addPending, hloop, PdoContext.counted, UInt32.ofNat_add, UInt32.ofNat_toNat,
    UInt32.add_assoc]

theorem addPending_foldl (ps : List PdoContext) (n : UInt32) :
    ps.foldl addPending n = n + UInt32.ofNat (ps.map PdoContext.counted).sum := by
  induction ps generalizing n with
  | nil => exact (UInt32.add_zero n).symm
  | cons p ps ih =>
      rw [List.foldl_cons, ih, addPending_eq, List.map_cons, List.sum_cons, UInt32.ofNat_add,
        UInt32.add_assoc]

/-! ## `AdminSq.Tail`

No routine of the driver writes it. -/

/-- The field that the handler takes for the admin tail. -/
def Driver.adminTail (d : Driver) : UInt32 := (d.pdo.sq 0).tail

/-- Another state of an I/O queue, or one of the admin queue with the same tail. -/
theorem setSq_adminTail {p : PdoContext} {q : ℕ} {st : QueueState}
    (h : q = 0 → st.tail = (p.sq q).tail) : ((p.setSq q st).sq 0).tail = (p.sq 0).tail := by
  by_cases hq : q = 0
  · subst hq
    show (Function.update p.sq 0 st 0).tail = (p.sq 0).tail
    rw [Function.update_self]
    exact h rfl
  · exact congrArg QueueState.tail (Function.update_of_ne (Ne.symm hq) _ _)

theorem handleAdminCommand_adminTail (cfg : Config) (p : PdoContext) (os : Os)
    (cmd : NvmeCommand) :
    ((handleAdminCommand cfg p os cmd).pdo.sq 0).tail = (p.sq 0).tail :=
  handleAdminCommand_keeps (F := fun p => (p.sq 0).tail) (fun _ _ => rfl)
    (fun _ _ _ hq => setSq_adminTail fun hz => absurd hz hq) (fun _ => rfl) (fun _ _ => rfl) cfg

theorem vnvmeFetchCommand_adminTail (d : Driver) (q : UInt16) :
    (vnvmeFetchCommand d q).2.2.adminTail = d.adminTail := by
  rcases vnvmeFetchCommand_cases d q with ⟨-, hd⟩ | ⟨shm, -, -, hd⟩
  · rw [hd]
  · rw [hd]
    exact setSq_adminTail fun _ => rfl

theorem vnvmePostCompletion_adminTail (d : Driver) (q : UInt16) (c : NvmeCompletion) :
    (vnvmePostCompletion d q c).2.adminTail = d.adminTail := by
  rcases vnvmePostCompletion_cases d q c with ⟨-, hd⟩ | ⟨shm, -, hd⟩
  · rw [hd]
  · rw [hd]
    rfl

theorem keptByQueue_adminTail {q : UInt16} (hq : q.toNat ≠ 0) :
    KeptByQueue Driver.adminTail q where
  media := fun _ _ _ => rfl
  sqIndex := fun _ _ _ => setSq_adminTail fun hz => absurd hz hq
  cqIndex := fun _ _ _ => rfl
  fetch := fun d => vnvmeFetchCommand_adminTail d q
  post := fun d c => vnvmePostCompletion_adminTail d q c
  forward := fun _ _ _ _ => rfl

theorem adminStep_adminTail (d : Driver) (cmd : NvmeCommand) :
    (adminStep d cmd).adminTail = d.adminTail := by
  refine Eq.trans ?_ (handleAdminCommand_adminTail d.config d.pdo d.os cmd)
  show (postAdminOutcome (adminHandled d cmd) cmd.cid
    (handleAdminCommand d.config d.pdo d.os cmd).completion).2.adminTail = _
  cases (handleAdminCommand d.config d.pdo d.os cmd).completion with
  | none => rfl
  | some c => exact vnvmePostCompletion_adminTail _ 0 _

theorem keptByServing_adminTail : KeptByServing Driver.adminTail where
  admin := adminStep_adminTail
  adminFetch := fun d => vnvmeFetchCommand_adminTail d 0
  adminHead := fun _ _ => setSq_adminTail fun _ => rfl
  adminForward := fun _ _ _ _ => rfl
  adminRecord := fun _ _ _ => rfl
  queue := fun _ hq => keptByQueue_adminTail hq

/-- The poll keeps the tail of the admin queue in `LastAdminSqTail` only. -/
theorem vnvmeProcessDoorbells_adminTail {fuel : ℕ} {d : Driver} {r : Bool × Driver}
    (h : vnvmeProcessDoorbells fuel d = some r) : r.2.adminTail = d.adminTail := by
  cases hregs : d.pdo.bar0 with
  | none =>
      simp only [vnvmeProcessDoorbells, hregs, Option.some.injEq] at h
      rw [← h]
  | some regs =>
      rw [keptByServing_adminTail.poll hregs h]
      unfold processCc vnvmeInitializeAdminQueues
      rw [hregs]
      dsimp only
      split_ifs <;> rfl

theorem vnvmeAbortPendingUserCommands_adminTail {fuel : ℕ} {d : Driver} {r : UInt32 × Driver}
    (h : vnvmeAbortPendingUserCommands fuel d = some r) : r.2.adminTail = d.adminTail := by
  unfold vnvmeAbortPendingUserCommands at h
  split at h
  · rw [← Option.some.inj h]
  · rename_i shm hshm
    obtain ⟨a, ha, hrest⟩ := Option.bind_eq_some_iff.mp h
    obtain ⟨b, hb, rfl⟩ := Option.map_eq_some_iff.mp hrest
    have hsq : b.pdo.sq = d.pdo.sq := by
      refine foldlM_induct (I := fun x : Aborting => x.pdo.sq = d.pdo.sq) ?_
        (abortAdminQueue_frame ha).pdoSq hb
      intro x i x' _ hx hx'
      exact (abortIoQueue_frame hx').pdoSq.trans hx
    exact congrArg (fun sq : ℕ → QueueState => (sq 0).tail) hsq

theorem vnvmePostCompletionBatch_adminTail (d : Driver) (q : UInt16)
    (cs : List NvmeCompletion) : (vnvmePostCompletionBatch d q cs).2.adminTail = d.adminTail := by
  by_cases hcs : cs = []
  · rw [vnvmePostCompletionBatch, if_pos hcs]
  · cases hc : batchCheck d q with
    | error e => rw [vnvmePostCompletionBatch_error hc hcs]
    | ok shm =>
        rw [vnvmePostCompletionBatch_ok hc hcs]
        rfl

theorem vnvmeFetchCommandBatch_adminTail (d : Driver) (q : UInt16) (n : UInt32) :
    (vnvmeFetchCommandBatch d q n).2.2.adminTail = d.adminTail := by
  rcases vnvmeFetchCommandBatch_cases d q n with hd | ⟨shm, -, hd⟩
  · rw [hd]
  · rw [hd]
    rfl

theorem vnvmeCompleteAer_adminTail (d : Driver) (eventType eventInfo logPage : UInt8) :
    (vnvmeCompleteAer d eventType eventInfo logPage).2.adminTail = d.adminTail := by
  unfold vnvmeCompleteAer
  split
  · rfl
  · exact vnvmePostCompletion_adminTail _ _ _

theorem vnvmeCreateIoSubmissionQueue_adminTail (d : Driver) (q size : UInt16) (prp : UInt64)
    (cqId : UInt16) :
    (vnvmeCreateIoSubmissionQueue d q size prp cqId).2.adminTail = d.adminTail := by
  by_cases h : SqCallOk d q cqId
  · obtain ⟨shm, hshm⟩ := h.shm
    rw [vnvmeCreateIoSubmissionQueue_ok h hshm]
    exact setSq_adminTail fun hz => absurd hz (badIoQueueId_false h.id).1
  · exact (vnvmeCreateIoSubmissionQueue_refused h size prp).kept

theorem vnvmeCreateIoCompletionQueue_adminTail (d : Driver) (q size : UInt16) (prp : UInt64) :
    (vnvmeCreateIoCompletionQueue d q size prp).2.adminTail = d.adminTail := by
  by_cases h : CqCallOk d q
  · obtain ⟨shm, hshm⟩ := h.shm
    rw [vnvmeCreateIoCompletionQueue_ok h hshm]
    rfl
  · exact (vnvmeCreateIoCompletionQueue_refused h size prp).kept

theorem vnvmeDeleteIoSubmissionQueue_adminTail (d : Driver) (q : UInt16) :
    (vnvmeDeleteIoSubmissionQueue d q).2.adminTail = d.adminTail := by
  by_cases h : SqDeleteOk d q
  · rw [vnvmeDeleteIoSubmissionQueue_ok h]
    exact setSq_adminTail fun hz => absurd hz (badIoQueueId_false h.id).1
  · exact (vnvmeDeleteIoSubmissionQueue_refused h).kept

theorem vnvmeDeleteIoCompletionQueue_adminTail (d : Driver) (q : UInt16) :
    (vnvmeDeleteIoCompletionQueue d q).2.adminTail = d.adminTail := by
  by_cases h : CqDeleteOk d q
  · rw [vnvmeDeleteIoCompletionQueue_ok h]
    rfl
  · exact (vnvmeDeleteIoCompletionQueue_refused h).kept

theorem keptByCalls_adminTail : KeptByCalls Driver.adminTail where
  doorbells := vnvmeProcessDoorbells_adminTail
  abort := vnvmeAbortPendingUserCommands_adminTail
  completeAer := vnvmeCompleteAer_adminTail
  createSq := vnvmeCreateIoSubmissionQueue_adminTail
  createCq := vnvmeCreateIoCompletionQueue_adminTail
  deleteSq := vnvmeDeleteIoSubmissionQueue_adminTail
  deleteCq := vnvmeDeleteIoCompletionQueue_adminTail
  fetch := vnvmeFetchCommand_adminTail
  fetchBatch := vnvmeFetchCommandBatch_adminTail
  post := vnvmePostCompletion_adminTail
  postBatch := vnvmePostCompletionBatch_adminTail

theorem BusEvent.apply_adminTail {d d' : Driver} {e : BusEvent} (h : e.apply d = some d') :
    d'.adminTail = d.adminTail := by
  cases e with
  | poll fuel =>
      obtain ⟨r, hr, rfl⟩ := Option.map_eq_some_iff.mp h
      exact vnvmeProcessDoorbells_adminTail hr
  | checkHeartbeat fuel now =>
      simp only [BusEvent.apply, checkUserModeHeartbeat] at h
      split_ifs at h
      · rw [← Option.some.inj h]
      · obtain ⟨r, hr, rfl⟩ := Option.map_eq_some_iff.mp h
        exact Eq.trans (vnvmeAbortPendingUserCommands_adminTail hr) rfl
      · rw [← Option.some.inj h]
  | userReady now =>
      cases h
      rfl
  | heartbeat now =>
      simp only [BusEvent.apply] at h
      split_ifs at h <;> cases h <;> rfl
  | writeRegister offset value =>
      cases h
      rfl
  | memory sqMem userSqMem dataBuffer =>
      cases h
      rfl
  | serverPoll fuel ctx =>
      simp only [BusEvent.apply] at h
      split at h
      · cases h
        rfl
      · obtain ⟨r, -, rfl⟩ := Option.map_eq_some_iff.mp h
        rfl
  | driverCall c => exact keptByCalls_adminTail.run h

/-- In every run of a controller on a new bus the field is zero. -/
theorem run_adminTail {cfg : Config} {events : List BusEvent} {d : Driver}
    (h : run busStep (some (Driver.fresh cfg)) events = some d) : (d.pdo.sq 0).tail = 0 := by
  have hinv : ∀ d : Driver, run busStep (some (Driver.fresh cfg)) events = some d →
      d.adminTail = 0 := by
    refine Runs.run_induct (P := fun s => ∀ d : Driver, s = some d → d.adminTail = 0) ?_ ?_ events
    · intro s e hs d' hd'
      obtain ⟨d, rfl, happly⟩ := Option.bind_eq_some_iff.mp hd'
      exact (BusEvent.apply_adminTail happly).trans (hs d rfl)
    · rintro _ ⟨⟩
      rfl
  exact hinv d h

/-! ## One ring -/

/-- Head and tail are slots of the ring, or the ring is empty. -/
def RingOk (size head tail : UInt32) : Prop := head = tail ∨ (head < size ∧ tail < size)

section Ring

variable {size head tail : UInt32} (h : RingOk size head tail)

include h

theorem RingOk.dist_eq_zero_iff : dist size head tail = 0 ↔ head = tail := by
  rcases h with rfl | ⟨hhead, htail⟩
  · exact iff_of_true (dist_refl size head) rfl
  · exact dist_eq_zero hhead htail

end Ring

/-- The handler counts the commands of a ring that does not wrap, and nothing of one that does. -/
theorem pendingOf_toNat {st : QueueState} (h : RingOk st.size st.head st.tail) :
    (st.head ≤ st.tail ∧ (pendingOf st).toNat = dist st.size st.head st.tail) ∨
      (¬ st.head ≤ st.tail ∧ (pendingOf st).toNat = 0 ∧ 0 < dist st.size st.head st.tail) := by
  by_cases hle : st.head ≤ st.tail
  · refine Or.inl ⟨hle, ?_⟩
    rw [pendingOf, if_pos hle, UInt32.toNat_sub_of_le _ _ hle]
    have hle' : st.head.toNat ≤ st.tail.toNat := hle
    rcases h with heq | ⟨hhead, htail⟩
    · rw [heq, Nat.sub_self, dist_refl]
    · rcases dist_cases hhead htail with ⟨-, hd⟩ | ⟨hlt, -⟩
      · omega
      · exact absurd hle' (Nat.not_le.mpr hlt)
  · refine Or.inr ⟨hle, ?_, ?_⟩
    · rw [pendingOf, if_neg hle]
      rfl
    · refine Nat.pos_of_ne_zero fun hzero => hle ?_
      rw [h.dist_eq_zero_iff.mp hzero]
      exact UInt32.le_refl _

/-! ## One controller -/

/-- The submission queues of a controller are rings. `AdminSq.Tail` is never written. -/
structure PdoContext.RingState (p : PdoContext) : Prop where
  admin : RingOk p.adminSqSize (p.sq 0).head p.lastAdminSqTail
  adminTail : (p.sq 0).tail = 0
  io : ∀ q, (p.sq q).created → q ≠ 0 → RingOk (p.sq q).size (p.sq q).head (p.sq q).tail
  slots : ∀ q, (p.sq q).created → q ≤ 16

/-- The handler counts what is pending: nothing is in the admin queue, and every I/O queue is
empty, or one that it looks at and that does not wrap. -/
structure PdoContext.CountedRight (p : PdoContext) : Prop where
  admin : (p.sq 0).head = p.lastAdminSqTail
  io : ∀ q, (p.sq q).created → q ≠ 0 → (p.sq q).head = (p.sq q).tail ∨
    (q ≤ p.ioQueueCount.toNat ∧ (p.sq q).head ≤ (p.sq q).tail)

section Controller

variable {p : PdoContext} (h : p.RingState)

include h

/-- The admin queue counts nothing. -/
theorem PdoContext.RingState.pendingOf_admin : pendingOf (p.sq 0) = 0 := by
  unfold pendingOf
  rw [h.adminTail]
  by_cases hle : (0 : UInt32) ≥ (p.sq 0).head
  · have hhead : (p.sq 0).head = 0 := UInt32.le_antisymm hle UInt32.zero_le
    rw [if_pos hle, hhead]
    rfl
  · exact if_neg hle

theorem PdoContext.RingState.adminPending_eq_zero_iff :
    p.adminPending = 0 ↔ (p.sq 0).head = p.lastAdminSqTail :=
  h.admin.dist_eq_zero_iff

/-- The queues that the loop comes to are among the slots of the table. -/
theorem PdoContext.RingState.sum_ioCounted :
    ∑ i ∈ range p.ioQueueCount.toNat, p.ioCounted i =
      ∑ i ∈ range 16, if i < p.ioQueueCount.toNat then p.ioCounted i else 0 := by
  have hnone (i : ℕ) (hi : ¬ i < 16) : p.ioCounted i = 0 :=
    if_neg fun hcreated => hi (h.slots (i + 1) hcreated)
  have hfilter : (range 16).filter (· < p.ioQueueCount.toNat) =
      (range p.ioQueueCount.toNat).filter (· < 16) := by
    ext i
    simp only [Finset.mem_filter, Finset.mem_range]
    exact and_comm
  rw [← Finset.sum_filter, hfilter, Finset.sum_filter]
  refine Finset.sum_congr rfl fun i _ => ?_
  split_ifs with hi
  · rfl
  · exact hnone i hi

/-- One I/O queue. -/
theorem PdoContext.RingState.ioCounted_le (i : ℕ) :
    (if i < p.ioQueueCount.toNat then p.ioCounted i else 0) ≤ p.ioPending i ∧
      ((if i < p.ioQueueCount.toNat then p.ioCounted i else 0) = p.ioPending i ↔
        ((p.sq (i + 1)).created → (p.sq (i + 1)).head = (p.sq (i + 1)).tail ∨
          (i + 1 ≤ p.ioQueueCount.toNat ∧ (p.sq (i + 1)).head ≤ (p.sq (i + 1)).tail))) := by
  unfold ioCounted ioPending
  by_cases hcreated : (p.sq (i + 1)).created
  swap
  · simp [hcreated]
  have hring := h.io (i + 1) hcreated (Nat.succ_ne_zero i)
  rw [if_pos hcreated, if_pos hcreated, imp_iff_right hcreated, ← hring.dist_eq_zero_iff]
  by_cases hi : i < p.ioQueueCount.toNat
  · rw [if_pos hi, and_iff_right (Nat.succ_le_of_lt hi)]
    rcases pendingOf_toNat hring with ⟨hle, heq⟩ | ⟨hwraps, hzero, hpos⟩
    · exact ⟨heq.le, iff_of_true heq (Or.inr hle)⟩
    · rw [hzero]
      refine ⟨Nat.zero_le _, iff_of_false hpos.ne fun hright => ?_⟩
      exact hright.elim hpos.ne' hwraps
  · rw [if_neg hi]
    refine ⟨Nat.zero_le _, ⟨fun hzero => Or.inl hzero.symm, fun hright => ?_⟩⟩
    exact (hright.resolve_right fun hcounted => hi hcounted.1).symm

/-- The handler counts no more than is pending, and all of it exactly under the condition. -/
theorem PdoContext.RingState.counted_le :
    p.counted ≤ p.pendingCommands ∧ (p.counted = p.pendingCommands ↔ p.CountedRight) := by
  have hle := Finset.sum_le_sum fun i (_ : i ∈ range 16) => (h.ioCounted_le i).1
  have heq := Finset.sum_eq_sum_iff_of_le fun i (_ : i ∈ range 16) => (h.ioCounted_le i).1
  rw [counted, pendingCommands, h.pendingOf_admin, h.sum_ioCounted]
  have hzero : (0 : UInt32).toNat = 0 := rfl
  rw [hzero, Nat.zero_add]
  refine ⟨by omega, ⟨fun hsum => ⟨h.adminPending_eq_zero_iff.mp (by omega), ?_⟩, fun hright => ?_⟩⟩
  · intro q hcreated hq
    obtain ⟨i, rfl⟩ := Nat.exists_eq_succ_of_ne_zero hq
    have hi : i ∈ range 16 := Finset.mem_range.mpr (h.slots _ hcreated)
    exact (h.ioCounted_le i).2.mp (heq.mp (by omega) i hi) hcreated
  · have hadmin := h.adminPending_eq_zero_iff.mpr hright.admin
    have hio := heq.mpr fun i _ => (h.ioCounted_le i).2.mpr fun hcreated =>
      hright.io (i + 1) hcreated (Nat.succ_ne_zero i)
    omega

end Controller

/-! ## The bus -/

/-- Two sums of which no term of the first is above its term in the second. -/
theorem sum_map_le_iff {α : Type*} {f g : α → ℕ} {l : List α} (h : ∀ x ∈ l, f x ≤ g x) :
    (l.map f).sum ≤ (l.map g).sum ∧
      ((l.map f).sum = (l.map g).sum ↔ ∀ x ∈ l, f x = g x) := by
  induction l with
  | nil => exact ⟨le_rfl, iff_of_true rfl (List.forall_mem_nil _)⟩
  | cons x l ih =>
      obtain ⟨hx, hl⟩ := List.forall_mem_cons.mp h
      obtain ⟨hle, heq⟩ := ih hl
      rw [List.map_cons, List.map_cons, List.sum_cons, List.sum_cons, List.forall_mem_cons, ← heq]
      omega

/-- The count in an answer to a heartbeat. -/
theorem vnvmeHandleHeartbeat_pending {now : Int} {request : Ioctl HeartbeatInput} {b : Bus}
    {out : HeartbeatOutput} (h : (vnvmeHandleHeartbeat now request b).1.output = some out) :
    out.pendingCommands.toNat = (b.controllers.map PdoContext.counted).sum % 2 ^ 32 := by
  have hpending : out.pendingCommands = b.controllers.foldl addPending 0 := by
    unfold vnvmeHandleHeartbeat at h
    split at h
    · cases h
    · split_ifs at h
      obtain rfl := Option.some.inj h
      rfl
  rw [hpending, addPending_foldl, UInt32.zero_add, UInt32.toNat_ofNat']

/-- **The answer to a heartbeat.** It tells what is pending exactly if every controller is
counted right and the sum has 32 bits. -/
theorem heartbeat_pending_iff {now : Int} {request : Ioctl HeartbeatInput} {b : Bus}
    {out : HeartbeatOutput} (h : ∀ p ∈ b.controllers, p.RingState)
    (hout : (vnvmeHandleHeartbeat now request b).1.output = some out) :
    out.pendingCommands.toNat = b.pendingCommands ↔
      (∀ p ∈ b.controllers, p.CountedRight) ∧ b.pendingCommands < 2 ^ 32 := by
  obtain ⟨hle, heq⟩ := sum_map_le_iff fun p hp => (h p hp).counted_le.1
  have hright : (∀ p ∈ b.controllers, p.counted = p.pendingCommands) ↔
      ∀ p ∈ b.controllers, p.CountedRight :=
    forall_congr' fun p => forall_congr' fun hp => (h p hp).counted_le.2
  rw [← hright, ← heq, vnvmeHandleHeartbeat_pending hout, Bus.pendingCommands]
  have hlt := out.pendingCommands.toNat_lt
  rw [vnvmeHandleHeartbeat_pending hout] at hlt
  constructor
  · intro hsame
    have hfits : (b.controllers.map PdoContext.pendingCommands).sum < 2 ^ 32 := hsame ▸ hlt
    rw [Nat.mod_eq_of_lt (hle.trans_lt hfits)] at hsame
    exact ⟨hsame, hfits⟩
  · rintro ⟨hsame, hfits⟩
    rw [hsame]
    exact Nat.mod_eq_of_lt hfits

/-! ## Two buses -/

/-- A request with room for the answer. -/
def heartbeatRequest : Ioctl HeartbeatInput :=
  { inputBufferLength := 16, outputBufferLength := 16, input := {} }

/-- A controller whose first I/O queue is between its head and its tail. -/
def busyController : PdoContext :=
  { adminSqSize := 64
    ioQueueCount := 1
    sq := Function.update (fun _ => {}) 1 { size := 4, head := 1, tail := 3, created := true } }

theorem busyController_sq {q : ℕ} (h : (busyController.sq q).created = true) : q = 1 := by
  by_contra hq
  simp [busyController, Function.update_of_ne hq] at h

theorem busyController_ringState : busyController.RingState where
  admin := Or.inl rfl
  adminTail := rfl
  io := fun q hcreated _ => by
    obtain rfl := busyController_sq hcreated
    exact Or.inr (by decide)
  slots := fun q hcreated => by
    obtain rfl := busyController_sq hcreated
    decide

/-- Two such controllers. -/
def busyBus : Bus :=
  { config := .allQueues, fdo := some { userReady := true }, shm := none,
    controllers := [busyController, busyController] }

/-- They have four commands pending, and the answer says so. -/
theorem heartbeat_pending_iff_busy :
    ∃ out, (vnvmeHandleHeartbeat 0 heartbeatRequest busyBus).1.output = some out ∧
      out.pendingCommands = 4 ∧ out.pendingCommands.toNat = busyBus.pendingCommands := by
  have hout : (vnvmeHandleHeartbeat 0 heartbeatRequest busyBus).1.output =
      some { kernelTimestamp := 0, pendingCommands := 4 } := rfl
  have hall {P : PdoContext → Prop} (h : P busyController) : ∀ p ∈ busyBus.controllers, P p := by
    intro p hp
    obtain rfl : p = busyController := List.eq_of_mem_replicate (n := 2) hp
    exact h
  refine ⟨_, hout, rfl, (heartbeat_pending_iff (hall busyController_ringState) hout).mpr
    ⟨hall ⟨rfl, fun q hcreated _ => ?_⟩, by decide⟩⟩
  obtain rfl := busyController_sq hcreated
  exact Or.inr (by decide)

/-- The bus of one controller. -/
def Driver.bus (d : Driver) : Bus :=
  { config := d.config, fdo := some d.fdo, shm := d.shm, controllers := [d.pdo], os := d.os }

/-- The host enables the controller and submits three admin commands. -/
def submitThree : List BusEvent :=
  [.userReady 0, .writeRegister 0x24 0x003F003F, .writeRegister 0x14 1, .writeRegister 0x1000 3,
    .poll 1]

/-- The answer to the next heartbeat tells that nothing is pending. -/
theorem heartbeat_misses_admin :
    ∃ d, run busStep (some (Driver.fresh .allQueues)) submitThree = some d ∧ d.pdo.RingState ∧
      (vnvmeHandleHeartbeat 0 heartbeatRequest d.bus).1.output =
        some { kernelTimestamp := 0, pendingCommands := 0 } ∧
      d.bus.pendingCommands = 3 := by
  refine ⟨_, rfl, ⟨Or.inr (by decide), rfl, fun q hcreated => ?_, fun q hcreated => ?_⟩, rfl, ?_⟩
  · cases hcreated
  · cases hcreated
  · decide

end VirtualNvme
