import VirtualNvme.Verification.Abort
import VirtualNvme.Verification.PollFrame
import VirtualNvme.Verification.QueueCalls

/-!
# Batches against single calls

`VnvmeFetchCommandBatch` and `VnvmePostCompletionBatch` compare the queue id with
`IoQueueCount` of the shared memory, and for the admin queue they ask nothing. The single
routines ask for `Valid`. Both words keep the value that `VnvmeAllocateShm` gives them:
no routine of the driver or the server writes `IoQueueCount`, and no routine marks the
admin queues as valid. So on every reachable shared memory the batches accept the admin
queue and no other, and the single routines every queue in use but the admin queue.
-/

namespace VirtualNvme

open RingBuffer

/-! ## What stays as allocated -/

/-- What the guards read, and the capacities of the admin queues. -/
structure Fixtures where
  gates : Gates
  adminSqCapacity : UInt32
  adminCqCapacity : UInt32

def Shm.fixtures (shm : Shm) : Fixtures :=
  ⟨shm.gates, (shm.sq 0).capacity, (shm.cq 0).capacity⟩

def Driver.fixtures (d : Driver) : Option Fixtures := d.shm.map Shm.fixtures

/-- The part of a descriptor that is set when the queue is made. -/
def QueueDescriptor.shape (desc : QueueDescriptor) : UInt32 × UInt32 :=
  (desc.valid, desc.capacity)

theorem Shm.fixtures_eq {shm shm' : Shm} (hsq : (shm'.sq 0).shape = (shm.sq 0).shape)
    (hcq : (shm'.cq 0).shape = (shm.cq 0).shape)
    (hcount : shm'.ioQueueCount = shm.ioQueueCount)
    (hoff : shm'.ioQueueDescriptorOffset = shm.ioQueueDescriptorOffset) :
    shm'.fixtures = shm.fixtures := by
  obtain ⟨hsqValid, hsqCap⟩ := Prod.mk.inj hsq
  obtain ⟨hcqValid, hcqCap⟩ := Prod.mk.inj hcq
  rw [Shm.fixtures, Shm.fixtures, Shm.gates_eq hsqValid hcqValid hcount hoff, hsqCap, hcqCap]

theorem shape_update {f : Nat → QueueDescriptor} {q : Nat} {desc : QueueDescriptor}
    (h : q = 0 → desc.shape = (f q).shape) :
    (Function.update f q desc 0).shape = (f 0).shape :=
  update_admin QueueDescriptor.shape h

/-! ## The queue routines -/

theorem applyFetch_fixtures {d : Driver} {shm : Shm} (hshm : d.shm = some shm) (q : Nat) :
    (applyFetch d shm q).fixtures = d.fixtures := by
  rw [Driver.fixtures, Driver.fixtures, hshm]
  exact congrArg some (Shm.fixtures_eq (shape_update fun _ => by rfl) rfl rfl rfl)

theorem applyPosts_fixtures {d : Driver} {shm : Shm} (hshm : d.shm = some shm) (q : Nat)
    (cs : List NvmeCompletion) : (applyPosts d shm q cs).fixtures = d.fixtures := by
  rw [Driver.fixtures, Driver.fixtures, hshm]
  exact congrArg some (Shm.fixtures_eq rfl (shape_update fun _ => by rfl) rfl rfl)

theorem vnvmeFetchCommand_fixtures (d : Driver) (q : UInt16) :
    (vnvmeFetchCommand d q).2.2.fixtures = d.fixtures := by
  rcases vnvmeFetchCommand_cases d q with ⟨_, hd⟩ | ⟨shm, hok, _, hd⟩
  · rw [hd]
  · rw [hd]
    exact applyFetch_fixtures (sqCheck_ok_iff.mp hok).1 _

theorem vnvmePostCompletion_fixtures (d : Driver) (q : UInt16) (c : NvmeCompletion) :
    (vnvmePostCompletion d q c).2.fixtures = d.fixtures := by
  rcases vnvmePostCompletion_cases d q c with ⟨_, hd⟩ | ⟨shm, hok, hd⟩
  · rw [hd]
  · rw [hd]
    exact applyPosts_fixtures (cqCheck_ok_iff.mp hok).1 _ _

theorem vnvmePostCompletionBatch_fixtures (d : Driver) (q : UInt16) (cs : List NvmeCompletion) :
    (vnvmePostCompletionBatch d q cs).2.fixtures = d.fixtures := by
  by_cases hcs : cs = []
  · rw [vnvmePostCompletionBatch, if_pos hcs]
  · cases hc : batchCheck d q with
    | error e => rw [vnvmePostCompletionBatch_error hc hcs]
    | ok shm =>
        rw [vnvmePostCompletionBatch_ok hc hcs]
        exact applyPosts_fixtures (batchCheck_ok_iff.mp hc).1 _ _

theorem vnvmeFetchCommandBatch_fixtures (d : Driver) (q : UInt16) (n : UInt32) :
    (vnvmeFetchCommandBatch d q n).2.2.fixtures = d.fixtures := by
  rcases vnvmeFetchCommandBatch_cases d q n with hd | ⟨shm, hok, hd⟩
  · rw [hd]
  · rw [hd, Driver.fixtures, Driver.fixtures, (batchCheck_ok_iff.mp hok).1]
    exact congrArg some (Shm.fixtures_eq (shape_update fun _ => by rfl) rfl rfl rfl)

/-- The descriptor of an I/O queue is none of the admin queue's. -/
theorem shape_updateIo {cfg : Config} {q : UInt16} (hq : badIoQueueId cfg q = false)
    {f : Nat → QueueDescriptor} {desc : QueueDescriptor} :
    (Function.update f q.toNat desc 0).shape = (f 0).shape :=
  shape_update fun hz => absurd hz (badIoQueueId_false hq).1

theorem vnvmeCreateIoSubmissionQueue_fixtures (d : Driver) (q size : UInt16) (prp : UInt64)
    (cqId : UInt16) : (vnvmeCreateIoSubmissionQueue d q size prp cqId).2.fixtures = d.fixtures := by
  by_cases h : SqCallOk d q cqId
  · obtain ⟨shm, hshm⟩ := h.shm
    rw [vnvmeCreateIoSubmissionQueue_ok h hshm, Driver.fixtures, Driver.fixtures, hshm.1]
    exact congrArg some (Shm.fixtures_eq (shape_updateIo h.id) rfl rfl rfl)
  · exact (vnvmeCreateIoSubmissionQueue_refused h size prp).kept

theorem vnvmeCreateIoCompletionQueue_fixtures (d : Driver) (q size : UInt16) (prp : UInt64) :
    (vnvmeCreateIoCompletionQueue d q size prp).2.fixtures = d.fixtures := by
  by_cases h : CqCallOk d q
  · obtain ⟨shm, hshm⟩ := h.shm
    rw [vnvmeCreateIoCompletionQueue_ok h hshm, Driver.fixtures, Driver.fixtures, hshm.1]
    exact congrArg some (Shm.fixtures_eq rfl (shape_updateIo h.id) rfl rfl)
  · exact (vnvmeCreateIoCompletionQueue_refused h size prp).kept

theorem vnvmeDeleteIoSubmissionQueue_fixtures (d : Driver) (q : UInt16) :
    (vnvmeDeleteIoSubmissionQueue d q).2.fixtures = d.fixtures := by
  by_cases h : SqDeleteOk d q
  · rw [vnvmeDeleteIoSubmissionQueue_ok h]
    refine (Option.map_map _ _ _).trans (Option.map_congr fun shm _ => ?_)
    rw [Function.comp_apply, clearSqDesc]
    split_ifs
    · rfl
    · exact Shm.fixtures_eq (shape_updateIo h.id) rfl rfl rfl
  · exact (vnvmeDeleteIoSubmissionQueue_refused h).kept

theorem vnvmeDeleteIoCompletionQueue_fixtures (d : Driver) (q : UInt16) :
    (vnvmeDeleteIoCompletionQueue d q).2.fixtures = d.fixtures := by
  by_cases h : CqDeleteOk d q
  · rw [vnvmeDeleteIoCompletionQueue_ok h]
    refine (Option.map_map _ _ _).trans (Option.map_congr fun shm _ => ?_)
    rw [Function.comp_apply, clearCqDesc]
    split_ifs
    · rfl
    · exact Shm.fixtures_eq rfl (shape_updateIo h.id) rfl rfl
  · exact (vnvmeDeleteIoCompletionQueue_refused h).kept

/-! ## The doorbell poller -/

theorem forwardTail_fixtures {d : Driver} {shm : Shm} (hshm : d.shm = some shm) (q : UInt16)
    (tail : UInt32) : (forwardTail d shm q tail).fixtures = d.fixtures := by
  rw [Driver.fixtures, Driver.fixtures, hshm]
  obtain ⟨ring, heq⟩ := forwardTail_eq d shm q tail
  rw [heq]
  exact congrArg some (Shm.fixtures_eq (shape_update fun _ => by rfl) rfl rfl rfl)

theorem keptByPoll_fixtures : KeptByPoll Driver.fixtures where
  tables := fun d d' _ _ hshm _ => by rw [Driver.fixtures, hshm, Driver.fixtures]
  fetch := vnvmeFetchCommand_fixtures
  post := vnvmePostCompletion_fixtures
  forward := fun _ _ q tail hshm => forwardTail_fixtures hshm q tail

theorem vnvmeProcessDoorbells_fixtures {fuel : Nat} {d : Driver} {r : Bool × Driver}
    (h : vnvmeProcessDoorbells fuel d = some r) : r.2.fixtures = d.fixtures := by
  cases hregs : d.pdo.bar0 with
  | none =>
      simp only [vnvmeProcessDoorbells, hregs, Option.some.injEq] at h
      rw [← h]
  | some regs =>
      rw [keptByPoll_fixtures.serving.poll hregs h]
      unfold processCc
      split
      · rfl
      · rfl

/-! ## The abort -/

theorem abortStore_fixtures (a : Aborting) (q : Nat) (sync : AbortLoop → PdoContext)
    (r : UInt32 × AbortLoop) : (abortStore a q sync r).shm.fixtures = a.shm.fixtures := by
  refine Shm.fixtures_eq ?_ ?_ rfl rfl
  · rw [abortStore_sq]
    exact shape_update fun _ => rfl
  · rw [abortStore_cq]
    exact shape_update fun _ => rfl

theorem abortAdminQueue_fixtures {fuel : Nat} {a a' : Aborting}
    (h : abortAdminQueue fuel a = some a') : a'.shm.fixtures = a.shm.fixtures := by
  simp only [abortAdminQueue] at h
  split_ifs at h
  · obtain ⟨r, _, rfl⟩ := Option.map_eq_some_iff.mp h
    exact abortStore_fixtures _ _ _ _
  · rw [← Option.some.inj h]

theorem abortIoQueue_fixtures {fuel : Nat} {a a' : Aborting} {i : Nat}
    (h : abortIoQueue fuel a i = some a') : a'.shm.fixtures = a.shm.fixtures := by
  simp only [abortIoQueue] at h
  split_ifs at h
  · rw [← Option.some.inj h]
  · rw [← Option.some.inj h]
  · obtain ⟨r, _, rfl⟩ := Option.map_eq_some_iff.mp h
    exact abortStore_fixtures _ _ _ _

theorem vnvmeAbortPendingUserCommands_fixtures {fuel : Nat} {d : Driver} {r : UInt32 × Driver}
    (h : vnvmeAbortPendingUserCommands fuel d = some r) : r.2.fixtures = d.fixtures := by
  unfold vnvmeAbortPendingUserCommands at h
  split at h
  · rw [← Option.some.inj h]
  · rename_i shm hshm
    obtain ⟨a, ha, hrest⟩ := Option.bind_eq_some_iff.mp h
    obtain ⟨b, hb, rfl⟩ := Option.map_eq_some_iff.mp hrest
    rw [Driver.fixtures, Driver.fixtures, hshm]
    refine congrArg some (foldlM_induct (I := fun x : Aborting => x.shm.fixtures = shm.fixtures) ?_
      (abortAdminQueue_fixtures ha) hb)
    intro x i x' _ hx hx'
    exact (abortIoQueue_fixtures hx').trans hx

/-! ## The server -/

theorem pollEntry_fixtures {fuel : Nat} {p p' : Polling} {entry : NotifyEntry}
    (h : pollEntry fuel p entry = some p') : p'.server.shm.fixtures = p.server.shm.fixtures := by
  have hpolled := pollEntry_polled h
  obtain ⟨head, hsq⟩ := hpolled.sq 0
  rw [Shm.fixtures, Shm.fixtures, hpolled.gates, pollEntry_cqCapacity h, hsq]

theorem cmdEnginePoll_fixtures {fuel : Nat} {s : Server} {r : UInt64 × Server}
    (h : cmdEnginePoll fuel s = some r) : r.2.shm.fixtures = s.shm.fixtures := by
  unfold cmdEnginePoll at h
  split at h
  · obtain ⟨x, hx, rfl⟩ := Option.map_eq_some_iff.mp h
    obtain ⟨_, hpolled⟩ := walk_induct (I := fun p => p.server.shm.fixtures = s.shm.fixtures)
      (by
        intro p i p' hp hp'
        exact (pollEntry_fixtures hp').trans hp)
      rfl hx
    show (pollFinish x.2 x.1).shm.fixtures = s.shm.fixtures
    rw [← hpolled]
    unfold pollFinish
    dsimp only
    split
    · rfl
    · rfl
  · rw [← Option.some.inj h]

/-! ## Reachable shared memory -/

theorem vnvmeCompleteAer_fixtures (d : Driver) (eventType eventInfo logPage : UInt8) :
    (vnvmeCompleteAer d eventType eventInfo logPage).2.fixtures = d.fixtures := by
  unfold vnvmeCompleteAer
  split
  · rfl
  · exact vnvmePostCompletion_fixtures _ _ _

/-- The driver routines that can reach the queues in shared memory. -/
inductive DriverCall where
  | doorbells (fuel : Nat)
  | abort (fuel : Nat)
  | completeAer (eventType eventInfo logPage : UInt8)
  | createSq (queueId queueSize : UInt16) (prp : UInt64) (cqId : UInt16)
  | createCq (queueId queueSize : UInt16) (prp : UInt64)
  | deleteSq (queueId : UInt16)
  | deleteCq (queueId : UInt16)
  | fetch (queueId : UInt16)
  | fetchBatch (queueId : UInt16) (maxCommands : UInt32)
  | post (queueId : UInt16) (completion : NvmeCompletion)
  | postBatch (queueId : UInt16) (completions : List NvmeCompletion)

def DriverCall.run (d : Driver) : DriverCall → Option Driver
  | .doorbells fuel => (vnvmeProcessDoorbells fuel d).map Prod.snd
  | .abort fuel => (vnvmeAbortPendingUserCommands fuel d).map Prod.snd
  | .completeAer eventType eventInfo logPage =>
    some (vnvmeCompleteAer d eventType eventInfo logPage).2
  | .createSq queueId queueSize prp cqId =>
    some (vnvmeCreateIoSubmissionQueue d queueId queueSize prp cqId).2
  | .createCq queueId queueSize prp =>
    some (vnvmeCreateIoCompletionQueue d queueId queueSize prp).2
  | .deleteSq queueId => some (vnvmeDeleteIoSubmissionQueue d queueId).2
  | .deleteCq queueId => some (vnvmeDeleteIoCompletionQueue d queueId).2
  | .fetch queueId => some (vnvmeFetchCommand d queueId).2.2
  | .fetchBatch queueId maxCommands => some (vnvmeFetchCommandBatch d queueId maxCommands).2.2
  | .post queueId completion => some (vnvmePostCompletion d queueId completion).2
  | .postBatch queueId completions => some (vnvmePostCompletionBatch d queueId completions).2

/-- `F` reads nothing that one of these routines writes. -/
structure KeptByCalls {α : Type*} (F : Driver → α) : Prop where
  doorbells : ∀ {fuel d r}, vnvmeProcessDoorbells fuel d = some r → F r.2 = F d
  abort : ∀ {fuel d r}, vnvmeAbortPendingUserCommands fuel d = some r → F r.2 = F d
  completeAer : ∀ d eventType eventInfo logPage,
    F (vnvmeCompleteAer d eventType eventInfo logPage).2 = F d
  createSq : ∀ d q size prp cqId, F (vnvmeCreateIoSubmissionQueue d q size prp cqId).2 = F d
  createCq : ∀ d q size prp, F (vnvmeCreateIoCompletionQueue d q size prp).2 = F d
  deleteSq : ∀ d q, F (vnvmeDeleteIoSubmissionQueue d q).2 = F d
  deleteCq : ∀ d q, F (vnvmeDeleteIoCompletionQueue d q).2 = F d
  fetch : ∀ d q, F (vnvmeFetchCommand d q).2.2 = F d
  fetchBatch : ∀ d q n, F (vnvmeFetchCommandBatch d q n).2.2 = F d
  post : ∀ d q c, F (vnvmePostCompletion d q c).2 = F d
  postBatch : ∀ d q cs, F (vnvmePostCompletionBatch d q cs).2 = F d

theorem KeptByCalls.run {α : Type*} {F : Driver → α} (hF : KeptByCalls F) {d d' : Driver}
    {call : DriverCall} (h : call.run d = some d') : F d' = F d := by
  cases call with
  | doorbells fuel =>
      obtain ⟨r, hr, rfl⟩ := Option.map_eq_some_iff.mp h
      exact hF.doorbells hr
  | abort fuel =>
      obtain ⟨r, hr, rfl⟩ := Option.map_eq_some_iff.mp h
      exact hF.abort hr
  | completeAer eventType eventInfo logPage =>
      exact Option.some.inj h ▸ hF.completeAer d eventType eventInfo logPage
  | createSq queueId queueSize prp cqId =>
      exact Option.some.inj h ▸ hF.createSq d queueId queueSize prp cqId
  | createCq queueId queueSize prp =>
      exact Option.some.inj h ▸ hF.createCq d queueId queueSize prp
  | deleteSq queueId => exact Option.some.inj h ▸ hF.deleteSq d queueId
  | deleteCq queueId => exact Option.some.inj h ▸ hF.deleteCq d queueId
  | fetch queueId => exact Option.some.inj h ▸ hF.fetch d queueId
  | fetchBatch queueId maxCommands =>
      exact Option.some.inj h ▸ hF.fetchBatch d queueId maxCommands
  | post queueId completion => exact Option.some.inj h ▸ hF.post d queueId completion
  | postBatch queueId completions =>
      exact Option.some.inj h ▸ hF.postBatch d queueId completions

theorem keptByCalls_fixtures : KeptByCalls Driver.fixtures where
  doorbells := vnvmeProcessDoorbells_fixtures
  abort := vnvmeAbortPendingUserCommands_fixtures
  completeAer := vnvmeCompleteAer_fixtures
  createSq := vnvmeCreateIoSubmissionQueue_fixtures
  createCq := vnvmeCreateIoCompletionQueue_fixtures
  deleteSq := vnvmeDeleteIoSubmissionQueue_fixtures
  deleteCq := vnvmeDeleteIoCompletionQueue_fixtures
  fetch := vnvmeFetchCommand_fixtures
  fetchBatch := vnvmeFetchCommandBatch_fixtures
  post := vnvmePostCompletion_fixtures
  postBatch := vnvmePostCompletionBatch_fixtures

/-- The shared memory that driver and server can produce. The calls may come from any
number of controllers, in any state of theirs, and from servers in any state. -/
inductive ShmReach : Shm → Prop where
  | alloc : ShmReach vnvmeAllocateShm
  | driver {shm shm' : Shm} {d d' : Driver} {call : DriverCall} (h : ShmReach shm)
      (hd : d.shm = some shm) (hrun : call.run d = some d') (hd' : d'.shm = some shm') :
      ShmReach shm'
  | server {shm : Shm} {ctx : CmdEngineContext} {fuel : Nat} {r : UInt64 × Server}
      (h : ShmReach shm) (hpoll : cmdEnginePoll fuel ⟨ctx, shm⟩ = some r) :
      ShmReach r.2.shm
  | memory {shm : Shm} (sqMem userSqMem : Nat → UInt32 → NvmeCommand)
      (dataBuffer : UInt32 → UInt8) (h : ShmReach shm) :
      ShmReach { shm with sqMem := sqMem, userSqMem := userSqMem, dataBuffer := dataBuffer }

/-- Reachable shared memory has what the allocation has given it. -/
theorem ShmReach.fixtures {shm : Shm} (h : ShmReach shm) :
    shm.fixtures = ⟨⟨0, 0, 0, 0x4000⟩, 64, 64⟩ := by
  induction h with
  | alloc => rfl
  | driver _ hd hrun hd' ih =>
      have hfixtures := keptByCalls_fixtures.run hrun
      rw [Driver.fixtures, Driver.fixtures, hd, hd'] at hfixtures
      exact (Option.some.inj hfixtures).trans ih
  | server _ hpoll ih => exact (cmdEnginePoll_fixtures hpoll).trans ih
  | memory sqMem userSqMem dataBuffer _ ih => exact ih

/-- The guards read the same on every reachable shared memory. -/
theorem ShmReach.gates {shm : Shm} (h : ShmReach shm) : shm.gates = ⟨0, 0, 0, 0x4000⟩ :=
  congrArg Fixtures.gates h.fixtures

/-- A call neither loses nor makes shared memory, and what it leaves is reachable. -/
theorem DriverCall.reaches {d d' : Driver} {call : DriverCall}
    (h : ∀ shm, d.shm = some shm → ShmReach shm) (hrun : call.run d = some d') :
    ∀ shm, d'.shm = some shm → ShmReach shm := by
  intro shm hshm
  have hfixtures := keptByCalls_fixtures.run hrun
  rw [Driver.fixtures, Driver.fixtures, hshm, Option.map_some] at hfixtures
  obtain ⟨shm₀, hshm₀, -⟩ := Option.map_eq_some_iff.mp hfixtures.symm
  exact ShmReach.driver (h shm₀ hshm₀) hshm₀ hrun hshm

theorem poll_reaches {d : Driver} (h : ∀ shm, d.shm = some shm → ShmReach shm) {fuel : Nat}
    {r : Bool × Driver} (hpoll : vnvmeProcessDoorbells fuel d = some r) :
    ∀ shm, r.2.shm = some shm → ShmReach shm := by
  have hrun : (DriverCall.doorbells fuel).run d = some r.2 := by
    rw [DriverCall.run, hpoll]
    rfl
  exact DriverCall.reaches h hrun

section Guards

variable {d : Driver} {q : UInt16}

/-- The batches accept the admin queue and nothing else. -/
theorem batchCheck_reachable {shm : Shm} (h : ShmReach shm) (hshm : d.shm = some shm) :
    (∃ s, batchCheck d q = .ok s) ↔ q = 0 := by
  have hcount : shm.ioQueueCount = 0 := congrArg Gates.ioQueueCount h.gates
  constructor
  · rintro ⟨s, hs⟩
    obtain ⟨hs', hio⟩ := batchCheck_ok_iff.mp hs
    obtain rfl : shm = s := Option.some.inj (hshm.symm.trans hs')
    by_contra hne
    obtain ⟨_, hle, _⟩ := hio hne
    rw [hcount] at hle
    have hle' : q.toNat ≤ 0 := by
      rw [← UInt16.toNat_toUInt32]
      exact hle
    exact hne (UInt16.toNat_inj.mp (Nat.le_zero.mp hle'))
  · rintro rfl
    exact ⟨shm, batchCheck_ok_iff.mpr ⟨hshm, fun hne => absurd rfl hne⟩⟩

/-- The single routines accept the created, valid I/O queues within the configured limit, if
the descriptor of the admin queue is not valid. -/
theorem queueAccepted_reachable {shm : Shm} (h : ShmReach shm) (hshm : d.shm = some shm)
    {desc : Shm → Nat → QueueDescriptor} {state : PdoContext → Nat → QueueState}
    (hadmin : (desc shm 0).valid = 0) :
    (∃ s, QueueAccepted desc state d q s) ↔ q ≠ 0 ∧ q.toUInt32 ≤ d.config.maxIOQueues ∧
      (state d.pdo q.toNat).created = true ∧ (desc shm q.toNat).valid ≠ 0 := by
  have hoff : shm.ioQueueDescriptorOffset ≠ 0 := by
    rw [show shm.ioQueueDescriptorOffset = _ from congrArg Gates.ioQueueDescriptorOffset h.gates]
    decide
  constructor
  · rintro ⟨s, hs', hio, hv⟩
    obtain rfl : shm = s := Option.some.inj (hshm.symm.trans hs')
    have hne : q ≠ 0 := by
      rintro rfl
      exact hv hadmin
    exact ⟨hne, (hio hne).1, (hio hne).2.1, hv⟩
  · rintro ⟨_, hle, hc, hv⟩
    exact ⟨shm, hshm, fun _ => ⟨hle, hc, hoff⟩, hv⟩

theorem sqCheck_reachable {shm : Shm} (h : ShmReach shm) (hshm : d.shm = some shm) :
    (∃ s, sqCheck d q = .ok s) ↔ q ≠ 0 ∧ q.toUInt32 ≤ d.config.maxIOQueues ∧
      (d.pdo.sq q.toNat).created = true ∧ (shm.sq q.toNat).valid ≠ 0 := by
  simp only [sqCheck_ok_iff]
  exact queueAccepted_reachable h hshm (congrArg Gates.adminSqValid h.gates)

theorem cqCheck_reachable {shm : Shm} (h : ShmReach shm) (hshm : d.shm = some shm) :
    (∃ s, cqCheck d q = .ok s) ↔ q ≠ 0 ∧ q.toUInt32 ≤ d.config.maxIOQueues ∧
      (d.pdo.cq q.toNat).created = true ∧ (shm.cq q.toNat).valid ≠ 0 := by
  simp only [cqCheck_ok_iff]
  exact queueAccepted_reachable h hshm (congrArg Gates.adminCqValid h.gates)

end Guards

/-! ## Agreement -/

/-- The same descriptors, and the same copies of heads, tails and phases. -/
structure SameQueues (d d' : Driver) : Prop where
  sq : d.shm.map Shm.sq = d'.shm.map Shm.sq
  cq : d.shm.map Shm.cq = d'.shm.map Shm.cq
  sqHead : ∀ q, (d.pdo.sq q).head = (d'.pdo.sq q).head
  cqTail : ∀ q, (d.pdo.cq q).tail = (d'.pdo.cq q).tail
  phaseTag : ∀ q, (d.pdo.cq q).phaseTag = (d'.pdo.cq q).phaseTag

theorem SameQueues.refl (d : Driver) : SameQueues d d :=
  ⟨rfl, rfl, fun _ => rfl, fun _ => rfl, fun _ => rfl⟩

/-- A batched fetch of `n` commands is accepted iff a single fetch is (finding nothing
pending is no refusal), and does what `n` single fetches do. -/
structure FetchAgrees (d : Driver) (q : UInt16) (n : UInt32) : Prop where
  accepted : (vnvmeFetchCommandBatch d q n).1 = .success ↔
    (vnvmeFetchCommand d q).1 = .success ∨ (vnvmeFetchCommand d q).1 = .noMoreEntries
  same : SameQueues (vnvmeFetchCommandBatch d q n).2.2
    ((fun d => (vnvmeFetchCommand d q).2.2)^[n.toNat] d)

/-- A batch of completions is accepted iff a single one is, and does what posting them one
by one does. -/
structure PostAgrees (d : Driver) (q : UInt16) (cs : List NvmeCompletion) : Prop where
  accepted : (vnvmePostCompletionBatch d q cs).1 = .success ↔
    ∀ c ∈ cs, (vnvmePostCompletion d q c).1 = .success
  same : SameQueues (vnvmePostCompletionBatch d q cs).2
    (cs.foldl (fun d c => (vnvmePostCompletion d q c).2) d)

section Accepted

variable {d : Driver} {q : UInt16}

theorem fetch_refused (h : ¬ ∃ shm, sqCheck d q = .ok shm) :
    (vnvmeFetchCommand d q).2.2 = d := by
  rcases vnvmeFetchCommand_cases d q with ⟨_, hd⟩ | ⟨shm, hok, _⟩
  · exact hd
  · exact absurd ⟨shm, hok⟩ h

theorem fetchBatch_refused {n : UInt32} (h : ¬ ∃ shm, batchCheck d q = .ok shm) :
    (vnvmeFetchCommandBatch d q n).2.2 = d := by
  rcases vnvmeFetchCommandBatch_cases d q n with hd | ⟨shm, hok, _⟩
  · rw [hd]
  · exact absurd ⟨shm, hok⟩ h

theorem post_refused {c : NvmeCompletion} (h : ¬ ∃ shm, cqCheck d q = .ok shm) :
    (vnvmePostCompletion d q c).2 = d := by
  rcases vnvmePostCompletion_cases d q c with ⟨_, hd⟩ | ⟨shm, hok, _⟩
  · exact hd
  · exact absurd ⟨shm, hok⟩ h

theorem postBatch_accepted_iff {cs : List NvmeCompletion} (hcs : cs ≠ []) :
    (vnvmePostCompletionBatch d q cs).1 = .success ↔ ∃ shm, batchCheck d q = .ok shm := by
  cases hc : batchCheck d q with
  | error e => simp [vnvmePostCompletionBatch_error hc hcs, batchCheck_error hc]
  | ok shm => simp [vnvmePostCompletionBatch_ok hc hcs]

theorem postBatch_refused {cs : List NvmeCompletion} (hcs : cs ≠ [])
    (h : ¬ ∃ shm, batchCheck d q = .ok shm) : (vnvmePostCompletionBatch d q cs).2 = d := by
  cases hc : batchCheck d q with
  | error e => rw [vnvmePostCompletionBatch_error hc hcs]
  | ok shm => exact absurd ⟨shm, hc⟩ h

/-- Where the two guards never accept together, agreement means that both refuse. -/
theorem fetchAgrees_iff {n : UInt32} (hn : n ≠ 0)
    (hdis : ¬ ((∃ shm, batchCheck d q = .ok shm) ∧ ∃ shm, sqCheck d q = .ok shm)) :
    FetchAgrees d q n ↔
      (¬ ∃ shm, batchCheck d q = .ok shm) ∧ ¬ ∃ shm, sqCheck d q = .ok shm := by
  constructor
  · intro h
    have hiff := h.accepted
    rw [vnvmeFetchCommandBatch_accepts_iff hn, vnvmeFetchCommand_accepts_iff] at hiff
    exact ⟨fun hb => hdis ⟨hb, hiff.mp hb⟩, fun hs => hdis ⟨hiff.mpr hs, hs⟩⟩
  · rintro ⟨hb, hs⟩
    refine ⟨?_, ?_⟩
    · rw [vnvmeFetchCommandBatch_accepts_iff hn, vnvmeFetchCommand_accepts_iff]
      exact ⟨fun h => absurd h hb, fun h => absurd h hs⟩
    · rw [fetchBatch_refused hb, Function.iterate_fixed (fetch_refused hs)]
      exact SameQueues.refl d

theorem postAgrees_iff {cs : List NvmeCompletion} (hcs : cs ≠ [])
    (hdis : ¬ ((∃ shm, batchCheck d q = .ok shm) ∧ ∃ shm, cqCheck d q = .ok shm)) :
    PostAgrees d q cs ↔
      (¬ ∃ shm, batchCheck d q = .ok shm) ∧ ¬ ∃ shm, cqCheck d q = .ok shm := by
  have hsingle : (∀ c ∈ cs, (vnvmePostCompletion d q c).1 = .success) ↔
      ∃ shm, cqCheck d q = .ok shm := by
    obtain ⟨c, hc⟩ := List.exists_mem_of_ne_nil cs hcs
    exact ⟨fun h => vnvmePostCompletion_accepts_iff.mp (h c hc),
      fun h _ _ => vnvmePostCompletion_accepts_iff.mpr h⟩
  constructor
  · intro h
    have hiff := h.accepted
    rw [postBatch_accepted_iff hcs, hsingle] at hiff
    exact ⟨fun hb => hdis ⟨hb, hiff.mp hb⟩, fun hs => hdis ⟨hiff.mpr hs, hs⟩⟩
  · rintro ⟨hb, hs⟩
    refine ⟨?_, ?_⟩
    · rw [postBatch_accepted_iff hcs, hsingle]
      exact ⟨fun h => absurd h hb, fun h => absurd h hs⟩
    · have hfix : ∀ l : List NvmeCompletion,
          l.foldl (fun d c => (vnvmePostCompletion d q c).2) d = d := by
        intro l
        induction l with
        | nil => rfl
        | cons c l ih =>
            rw [List.foldl_cons, post_refused hs]
            exact ih
      rw [postBatch_refused hcs hb, hfix]
      exact SameQueues.refl d

end Accepted

/-- The submission queue is one that `VnvmeFetchCommand` may use. -/
def SqInUse (d : Driver) (shm : Shm) (q : UInt16) : Prop :=
  q.toUInt32 ≤ d.config.maxIOQueues ∧ (d.pdo.sq q.toNat).created = true ∧
    (shm.sq q.toNat).valid ≠ 0

/-- The completion queue is one that `VnvmePostCompletion` may use. -/
def CqInUse (d : Driver) (shm : Shm) (q : UInt16) : Prop :=
  q.toUInt32 ≤ d.config.maxIOQueues ∧ (d.pdo.cq q.toNat).created = true ∧
    (shm.cq q.toNat).valid ≠ 0

/-- **Batches and single calls.** On every reachable shared memory the batched routines agree
with the single ones exactly on the I/O queues that are not in use, where both refuse:
the batches refuse every I/O queue, and the single calls refuse the admin queue. Without
shared memory both refuse everything. -/
theorem batch_agrees_iff {d : Driver} (h : ∀ shm, d.shm = some shm → ShmReach shm)
    (q : UInt16) {n : UInt32} (hn : 1 ≤ n) {cs : List NvmeCompletion} (hcs : cs ≠ []) :
    (FetchAgrees d q n ↔ ∀ shm, d.shm = some shm → q ≠ 0 ∧ ¬ SqInUse d shm q) ∧
      (PostAgrees d q cs ↔ ∀ shm, d.shm = some shm → q ≠ 0 ∧ ¬ CqInUse d shm q) := by
  have hn0 : n ≠ 0 := by
    rintro rfl
    exact absurd hn (by decide)
  cases hshm : d.shm with
  | none =>
      have hb : ¬ ∃ shm, batchCheck d q = .ok shm := by
        rintro ⟨shm, hok⟩
        cases hshm.symm.trans (batchCheck_ok_iff.mp hok).1
      have hs : ¬ ∃ shm, sqCheck d q = .ok shm := by
        rintro ⟨shm, hok⟩
        cases hshm.symm.trans (sqCheck_ok_iff.mp hok).1
      have hc : ¬ ∃ shm, cqCheck d q = .ok shm := by
        rintro ⟨shm, hok⟩
        cases hshm.symm.trans (cqCheck_ok_iff.mp hok).1
      refine ⟨⟨fun _ shm hs => (by cases hs), fun _ => ?_⟩,
        ⟨fun _ shm hs => (by cases hs), fun _ => ?_⟩⟩
      · exact (fetchAgrees_iff hn0 fun hp => hb hp.1).mpr ⟨hb, hs⟩
      · exact (postAgrees_iff hcs fun hp => hb hp.1).mpr ⟨hb, hc⟩
  | some shm =>
      have hreach := h shm hshm
      have hb := batchCheck_reachable (q := q) hreach hshm
      have hs := sqCheck_reachable (q := q) hreach hshm
      have hc := cqCheck_reachable (q := q) hreach hshm
      constructor
      · rw [fetchAgrees_iff hn0 fun hp => (hs.mp hp.2).1 (hb.mp hp.1), hb, hs]
        constructor
        · rintro ⟨hne, hno⟩ s hs'
          rw [← Option.some.inj hs']
          exact ⟨hne, fun huse => hno ⟨hne, huse⟩⟩
        · intro hall
          obtain ⟨hne, hno⟩ := hall shm rfl
          exact ⟨hne, fun huse => hno huse.2⟩
      · rw [postAgrees_iff hcs fun hp => (hc.mp hp.2).1 (hb.mp hp.1), hb, hc]
        constructor
        · rintro ⟨hne, hno⟩ s hs'
          rw [← Option.some.inj hs']
          exact ⟨hne, fun huse => hno ⟨hne, huse⟩⟩
        · intro hall
          obtain ⟨hne, hno⟩ := hall shm rfl
          exact ⟨hne, fun huse => hno huse.2⟩

theorem batch_agrees_iff_fresh :
    FetchAgrees (Driver.fresh { maxIOQueues := 16 }) 1 1 ∧
      PostAgrees (Driver.fresh { maxIOQueues := 16 }) 1 [{}] ∧
      ¬ FetchAgrees (Driver.fresh { maxIOQueues := 16 }) 0 1 := by
  have hreach : ∀ shm, (Driver.fresh { maxIOQueues := 16 }).shm = some shm →
      ShmReach shm := by
    intro shm hshm
    rw [← Option.some.inj hshm]
    exact ShmReach.alloc
  have hio := batch_agrees_iff hreach 1 (n := 1) (by decide) (List.cons_ne_nil {} [])
  have hadmin := batch_agrees_iff hreach 0 (n := 1) (by decide) (List.cons_ne_nil {} [])
  refine ⟨hio.1.mpr ?_, hio.2.mpr ?_, fun h => ?_⟩
  · exact fun shm _ => ⟨by decide, fun huse => absurd huse.2.1 (by decide)⟩
  · exact fun shm _ => ⟨by decide, fun huse => absurd huse.2.1 (by decide)⟩
  · exact (hadmin.1.mp h vnvmeAllocateShm rfl).1 rfl

/-- On the admin queue of a fresh driver the batch is accepted and the single fetch is
not. -/
theorem batch_accepts_admin_queue :
    ShmReach vnvmeAllocateShm ∧
      (vnvmeFetchCommandBatch (Driver.fresh { maxIOQueues := 16 }) 0 1).1 = .success ∧
      (vnvmeFetchCommand (Driver.fresh { maxIOQueues := 16 }) 0).1 = .invalidDeviceState ∧
      (vnvmePostCompletionBatch (Driver.fresh { maxIOQueues := 16 }) 0 [{}]).1 = .success ∧
      (vnvmePostCompletion (Driver.fresh { maxIOQueues := 16 }) 0 {}).1 =
        .invalidDeviceState :=
  ⟨ShmReach.alloc, rfl, rfl, rfl, rfl⟩

end VirtualNvme
