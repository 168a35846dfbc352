import VirtualNvme.Verification.Abort
import VirtualNvme.Verification.CompletionQueue

/-!
# Two controllers and one shared memory

Every controller has queue states of its own, but the descriptors and the rings behind them
lie in the one shared memory of the bus, and every controller reaches them by queue id. What
controller A does to a queue, controller B sees if it has a queue with the same id. All
controllers have an admin queue, and it has id 0.
-/

namespace VirtualNvme

open RingBuffer

/-! ## What a controller sees -/

/-- The submission queues of a controller: the admin queue and the ones it has created. -/
def HasSq (p : PdoContext) (q : Nat) : Prop := q = 0 ∨ (p.sq q).created = true

/-- The completion queues of a controller. -/
def HasCq (p : PdoContext) (q : Nat) : Prop := q = 0 ∨ (p.cq q).created = true

/-- Submission queue `q` has the same descriptor and the same entries. -/
def SameSq (shm shm' : Shm) (q : Nat) : Prop :=
  shm'.sq q = shm.sq q ∧ shm'.sqMem q = shm.sqMem q

/-- Completion queue `q` has the same descriptor and the same entries. -/
def SameCq (shm shm' : Shm) (q : Nat) : Prop :=
  shm'.cq q = shm.cq q ∧ shm'.cqLog q = shm.cqLog q

/-- A controller finds its rings, heads, tails and phases as they were. -/
structure SameRings (p : PdoContext) (shm shm' : Shm) : Prop where
  sq : ∀ q, HasSq p q → SameSq shm shm' q
  cq : ∀ q, HasCq p q → SameCq shm shm' q

/-! ## What another controller does -/

/-- One step of a controller. -/
inductive ControllerStep where
  | forwardAdmin (newTail : UInt32)
  | forwardIo (queueId : UInt16) (newTail : UInt32)
  | fetch (queueId : UInt16)
  | post (queueId : UInt16) (completion : NvmeCompletion)
  | abort (fuel : Nat)

/-- The routine behind a step; an abort may not come back. -/
def ControllerStep.exec (d : Driver) : ControllerStep → Option Driver
  | .forwardAdmin newTail => some (vnvmeForwardAdminCommandsToUser d newTail)
  | .forwardIo queueId newTail => some (vnvmeForwardIoCommandsToUser d queueId newTail)
  | .fetch queueId => some (vnvmeFetchCommand d queueId).2.2
  | .post queueId completion => some (vnvmePostCompletion d queueId completion).2
  | .abort fuel => (vnvmeAbortPendingUserCommands fuel d).map Prod.snd

/-- The abort finds something to do in queue `q`. -/
def AbortsQueue (p : PdoContext) (shm : Shm) (q : Nat) : Prop :=
  q ∈ abortedQueues shm p ∧ (shm.sq q).head ≠ (shm.sq q).tail ∧ (shm.sq q).capacity ≠ 0

/-- The step changes submission queue `q`. -/
def WritesSq (d : Driver) (shm : Shm) (q : Nat) : ControllerStep → Prop
  | .forwardAdmin newTail => q = 0 ∧ d.fdo.userReady = true ∧ newTail ≠ (shm.sq q).tail
  | .forwardIo queueId newTail => q = queueId.toNat ∧ d.fdo.userReady = true ∧ queueId ≠ 0 ∧
      queueId ≤ 16 ∧ shm.ioQueueDescriptorOffset ≠ 0 ∧ newTail ≠ (shm.sq q).tail
  | .fetch queueId => q = queueId.toNat ∧ sqCheck d queueId = .ok shm ∧
      (shm.sq q).head ≠ (shm.sq q).tail ∧ next (shm.sq q).capacity (shm.sq q).head ≠ (shm.sq q).head
  | .post _ _ => False
  | .abort _ => AbortsQueue d.pdo shm q

/-- The step changes completion queue `q`. -/
def WritesCq (d : Driver) (shm : Shm) (q : Nat) : ControllerStep → Prop
  | .forwardAdmin _ => False
  | .forwardIo _ _ => False
  | .fetch _ => False
  | .post queueId _ => q = queueId.toNat ∧ cqCheck d queueId = .ok shm
  | .abort _ => AbortsQueue d.pdo shm q

/-- The two predicates say exactly which queues differ between two shared memories. -/
structure Accounts (d : Driver) (shm shm' : Shm) (step : ControllerStep) : Prop where
  sq : ∀ q, SameSq shm shm' q ↔ ¬ WritesSq d shm q step
  cq : ∀ q, SameCq shm shm' q ↔ ¬ WritesCq d shm q step

theorem Accounts.sameRings_iff {d : Driver} {shm shm' : Shm} {step : ControllerStep}
    (h : Accounts d shm shm' step) (p : PdoContext) :
    SameRings p shm shm' ↔ ∀ q, (HasSq p q → ¬ WritesSq d shm q step) ∧
      (HasCq p q → ¬ WritesCq d shm q step) := by
  constructor
  · intro hsame q
    exact ⟨fun hq => (h.sq q).mp (hsame.sq q hq), fun hq => (h.cq q).mp (hsame.cq q hq)⟩
  · intro hno
    constructor
    · intro q hq
      exact (h.sq q).mpr ((hno q).1 hq)
    · intro q hq
      exact (h.cq q).mpr ((hno q).2 hq)

/-! ## Forwarding, fetching, posting -/

theorem QueueDescriptor.setTail_eq_iff {desc : QueueDescriptor} {tail : UInt32} :
    { desc with tail := tail } = desc ↔ tail = desc.tail := by
  constructor
  · intro h
    exact congrArg QueueDescriptor.tail h
  · rintro rfl
    rfl

theorem QueueDescriptor.setHead_eq_iff {desc : QueueDescriptor} {head : UInt32} :
    { desc with head := head } = desc ↔ head = desc.head := by
  constructor
  · intro h
    exact congrArg QueueDescriptor.head h
  · rintro rfl
    rfl

section Steps

variable {d : Driver} {shm : Shm}

/-- A step that changes nothing. -/
theorem accounts_refl {step : ControllerStep} (hsq : ∀ q, ¬ WritesSq d shm q step)
    (hcq : ∀ q, ¬ WritesCq d shm q step) : Accounts d shm shm step :=
  ⟨fun q => iff_of_true ⟨rfl, rfl⟩ (hsq q), fun q => iff_of_true ⟨rfl, rfl⟩ (hcq q)⟩

/-- A forwarded tail changes one submission queue, unless it is the tail already. -/
theorem forwardTail_changes (d : Driver) (shm : Shm) (queueId : UInt16) (newTail : UInt32) :
    ∃ shm', (forwardTail d shm queueId newTail).shm = some shm' ∧
      (∀ q, SameSq shm shm' q ↔ ¬ (q = queueId.toNat ∧ newTail ≠ (shm.sq q).tail)) ∧
      ∀ q, SameCq shm shm' q := by
  obtain ⟨ring, heq⟩ := forwardTail_eq d shm queueId newTail
  refine ⟨_, congrArg Driver.shm heq, fun q => ?_, fun q => ?_⟩
  · rw [SameSq]
    by_cases hq : q = queueId.toNat
    · subst hq
      simp only [Shm.setSq, Function.update_self, QueueDescriptor.setTail_eq_iff]
      simp
    · simp [Shm.setSq, hq]
  · exact ⟨rfl, rfl⟩

theorem accounts_forwardAdmin (hshm : d.shm = some shm) (newTail : UInt32) :
    ∃ shm', (vnvmeForwardAdminCommandsToUser d newTail).shm = some shm' ∧
      Accounts d shm shm' (.forwardAdmin newTail) := by
  rw [vnvmeForwardAdminCommandsToUser_eq hshm]
  split_ifs with hready
  · obtain ⟨shm', hshm', hsq, hcq⟩ := forwardTail_changes d shm 0 newTail
    refine ⟨shm', hshm', fun q => ?_, fun q => iff_of_true (hcq q) not_false⟩
    rw [hsq q, WritesSq, and_iff_right hready]
    rfl
  · exact ⟨shm, hshm, accounts_refl (fun q h => hready h.2.1) (fun q h => h)⟩

theorem accounts_forwardIo (hshm : d.shm = some shm) (queueId : UInt16) (newTail : UInt32) :
    ∃ shm', (vnvmeForwardIoCommandsToUser d queueId newTail).shm = some shm' ∧
      Accounts d shm shm' (.forwardIo queueId newTail) := by
  rw [vnvmeForwardIoCommandsToUser_eq hshm]
  split_ifs with hgo
  · obtain ⟨hready, h0, h16, hoff⟩ := hgo
    obtain ⟨shm', hshm', hsq, hcq⟩ := forwardTail_changes d shm queueId newTail
    refine ⟨shm', hshm', fun q => ?_, fun q => iff_of_true (hcq q) not_false⟩
    rw [hsq q, WritesSq, and_iff_right hready, and_iff_right h0, and_iff_right h16,
      and_iff_right hoff]
  · refine ⟨shm, hshm, accounts_refl (fun q h => ?_) (fun q h => h)⟩
    obtain ⟨-, hready, h0, h16, hoff, -⟩ := h
    exact hgo ⟨hready, h0, h16, hoff⟩

theorem accounts_fetch (hshm : d.shm = some shm) (queueId : UInt16) :
    ∃ shm', (vnvmeFetchCommand d queueId).2.2.shm = some shm' ∧
      Accounts d shm shm' (.fetch queueId) := by
  rcases vnvmeFetchCommand_cases d queueId with ⟨hrefused, heq⟩ | ⟨shm', hok, hne, heq⟩
  · rw [heq]
    refine ⟨shm, hshm, accounts_refl (fun q h => ?_) (fun q h => h)⟩
    obtain ⟨rfl, hok, hne, -⟩ := h
    rw [vnvmeFetchCommand_ok hok hne] at hrefused
    exact hrefused rfl
  · obtain rfl : shm' = shm := Option.some.inj ((sqCheck_ok_iff.mp hok).1.symm.trans hshm)
    rw [heq]
    refine ⟨_, rfl, fun q => ?_, fun q => iff_of_true ⟨rfl, rfl⟩ not_false⟩
    by_cases hq : q = queueId.toNat
    · subst hq
      rw [WritesSq, and_iff_right rfl, and_iff_right hok, and_iff_right hne, not_not]
      simp only [SameSq, Shm.setSq, Function.update_self, QueueDescriptor.setHead_eq_iff]
      exact and_iff_left trivial
    · simp [SameSq, WritesSq, Shm.setSq, hq]

theorem accounts_post (hshm : d.shm = some shm) (queueId : UInt16) (c : NvmeCompletion) :
    ∃ shm', (vnvmePostCompletion d queueId c).2.shm = some shm' ∧
      Accounts d shm shm' (.post queueId c) := by
  rcases vnvmePostCompletion_cases d queueId c with ⟨hrefused, heq⟩ | ⟨shm', hok, heq⟩
  · rw [heq]
    refine ⟨shm, hshm, accounts_refl (fun q h => h) (fun q h => ?_)⟩
    rw [vnvmePostCompletion_ok h.2] at hrefused
    exact hrefused rfl
  · obtain rfl : shm' = shm := Option.some.inj ((cqCheck_ok_iff.mp hok).1.symm.trans hshm)
    rw [heq]
    refine ⟨_, rfl, fun q => iff_of_true ⟨rfl, rfl⟩ not_false, fun q => ?_⟩
    by_cases hq : q = queueId.toNat
    · -- the log of an accepted post has one more entry
      subst hq
      refine iff_of_false ?_ (not_not.mpr ⟨rfl, hok⟩)
      rintro ⟨-, hlog⟩
      have hlen := congrArg List.length hlog
      simp [postBatchStep] at hlen
    · simp [SameCq, WritesCq, Shm.setCq, hq]

end Steps

/-! ## The abort -/

/-- Queue `q` is the same on both sides of an abort. -/
structure AbortSpares (a a' : Aborting) (q : Nat) : Prop where
  sq : a'.shm.sq q = a.shm.sq q
  cq : a'.shm.cq q = a.shm.cq q
  cqLog : a'.shm.cqLog q = a.shm.cqLog q

/-- The walk over queue `q` has moved its head and has posted at least one completion. -/
structure AbortEmpties (a a' : Aborting) (q : Nat) : Prop where
  head : (a'.shm.sq q).head = (a.shm.sq q).tail
  grows : (a.shm.cqLog q).length < (a'.shm.cqLog q).length

theorem abortWalk_empties {fuel : Nat} {a a' : Aborting} {q : Nat} {c : UInt32}
    {slot : UInt32 → UInt32} {sync : AbortLoop → PdoContext}
    (hne : (a.shm.sq q).head ≠ (a.shm.sq q).tail)
    (h : abortWalk fuel a q c slot sync = some a') : AbortEmpties a a' q := by
  obtain ⟨r, hr, rfl⟩ := Option.map_eq_some_iff.mp h
  obtain ⟨s', fuel', hs', hrest⟩ := walk_first hne hr
  obtain rfl := Option.some.inj hs'
  -- a round only ever appends to the log
  obtain ⟨htail, hlog⟩ := walk_induct
    (I := fun s : AbortLoop => (a.shm.cqLog q).length < s.log.length)
    (by
      rintro s i s' hs hstep
      obtain rfl := Option.some.inj hstep
      simp only [abortStep, List.length_append, List.length_singleton]
      omega)
    (by simp [abortStep]) hrest
  constructor
  · rw [abortStore_sq, Function.update_self]
    exact htail
  · rw [abortStore_cqLog, Function.update_self]
    exact hlog

/-- What the round for I/O queue `i + 1` asks for. -/
def IoAborts (a : Aborting) (q : Nat) : Prop :=
  abortable a.shm a.pdo q = true ∧ (a.shm.sq q).head ≠ (a.shm.sq q).tail ∧
    (a.shm.sq q).capacity ≠ 0

theorem abortIoQueue_effect {fuel : Nat} {a a' : Aborting} {i : Nat}
    (h : abortIoQueue fuel a i = some a') :
    (IoAborts a (i + 1) → AbortEmpties a a' (i + 1)) ∧
      (¬ IoAborts a (i + 1) → AbortSpares a a' (i + 1)) := by
  simp only [abortIoQueue] at h
  split_ifs at h with hskip hempty
  · obtain rfl := Option.some.inj h
    refine ⟨fun hio => ?_, fun _ => ⟨rfl, rfl, rfl⟩⟩
    have hsel := hio.1
    simp only [abortable, Bool.and_eq_true, decide_eq_true_eq] at hsel
    simp [hsel.1, hsel.2] at hskip
  · obtain rfl := Option.some.inj h
    refine ⟨fun hio => ?_, fun _ => ⟨rfl, rfl, rfl⟩⟩
    rcases hempty with heq | hcap
    · exact absurd heq hio.2.1
    · exact absurd hcap hio.2.2
  · rw [not_or] at hempty
    have hsel : abortable a.shm a.pdo (i + 1) = true := by
      simpa [abortable] using hskip
    exact ⟨fun _ => abortWalk_empties hempty.1 h,
      fun hno => absurd ⟨hsel, hempty⟩ hno⟩

theorem abortAdminQueue_effect {fuel : Nat} {a a' : Aborting}
    (h : abortAdminQueue fuel a = some a') :
    let aborts := (a.shm.sq 0).head ≠ (a.shm.sq 0).tail ∧ (a.shm.sq 0).capacity ≠ 0
    (aborts → AbortEmpties a a' 0) ∧ (¬ aborts → AbortSpares a a' 0) := by
  have hpos : (a.shm.sq 0).capacity > 0 ↔ (a.shm.sq 0).capacity ≠ 0 := UInt32.pos_iff_ne_zero
  simp only [abortAdminQueue, hpos] at h
  split_ifs at h with hgo
  · exact ⟨fun _ => abortWalk_empties hgo.1 h, fun hno => absurd hgo hno⟩
  · obtain rfl := Option.some.inj h
    exact ⟨fun hgo' => absurd hgo' hgo, fun _ => ⟨rfl, rfl, rfl⟩⟩

theorem AbortFrame.ioAborts_iff {p q : Nat} {a a' : Aborting} (h : AbortFrame p a a')
    (hne : q ≠ p) : IoAborts a' q ↔ IoAborts a q := by
  rw [IoAborts, IoAborts, abortable, abortable, h.pdoSq, h.sq q hne]

theorem abortIoQueue_sqMem {fuel : Nat} {a a' : Aborting} {i : Nat}
    (h : abortIoQueue fuel a i = some a') : a'.shm.sqMem = a.shm.sqMem := by
  simp only [abortIoQueue] at h
  split_ifs at h
  · rw [← Option.some.inj h]
  · rw [← Option.some.inj h]
  · obtain ⟨r, -, rfl⟩ := Option.map_eq_some_iff.mp h
    rfl

theorem abortAdminQueue_sqMem {fuel : Nat} {a a' : Aborting}
    (h : abortAdminQueue fuel a = some a') : a'.shm.sqMem = a.shm.sqMem := by
  simp only [abortAdminQueue] at h
  split_ifs at h
  · obtain ⟨r, -, rfl⟩ := Option.map_eq_some_iff.mp h
    rfl
  · rw [← Option.some.inj h]

theorem AbortEmpties.spares {a b c : Aborting} {q : Nat} (h : AbortEmpties a b q)
    (h' : AbortSpares b c q) : AbortEmpties a c q := by
  constructor
  · rw [h'.sq]
    exact h.head
  · rw [h'.cqLog]
    exact h.grows

theorem AbortSpares.empties {a b c : Aborting} {q : Nat} (h : AbortSpares a b q)
    (h' : AbortEmpties b c q) : AbortEmpties a c q := by
  constructor
  · rw [← h.sq]
    exact h'.head
  · rw [← h.cqLog]
    exact h'.grows

theorem AbortSpares.trans {a b c : Aborting} {q : Nat} (h : AbortSpares a b q)
    (h' : AbortSpares b c q) : AbortSpares a c q :=
  ⟨h'.sq.trans h.sq, h'.cq.trans h.cq, h'.cqLog.trans h.cqLog⟩

theorem AbortFrame.spares {p q : Nat} {a a' : Aborting} (h : AbortFrame p a a') (hne : q ≠ p) :
    AbortSpares a a' q := ⟨h.sq q hne, h.cq q hne, h.cqLog q hne⟩

/-- The rounds for different I/O queues do not meet. -/
theorem abortIoQueues_effect {fuel : Nat} {is : List Nat} (hnodup : is.Nodup) :
    ∀ {a a' : Aborting}, is.foldlM (abortIoQueue fuel) a = some a' →
      a'.shm.sqMem = a.shm.sqMem ∧ ∀ q,
        ((∃ i ∈ is, i + 1 = q) ∧ IoAborts a q → AbortEmpties a a' q) ∧
        (¬ ((∃ i ∈ is, i + 1 = q) ∧ IoAborts a q) → AbortSpares a a' q) := by
  induction is with
  | nil =>
      intro a a' h
      obtain rfl := Option.some.inj h
      refine ⟨rfl, fun q => ⟨?_, fun _ => ⟨rfl, rfl, rfl⟩⟩⟩
      rintro ⟨⟨i, hi, -⟩, -⟩
      cases hi
  | cons i is ih =>
      intro a a' h
      obtain ⟨hi, hnodup'⟩ := List.nodup_cons.mp hnodup
      rw [List.foldlM_cons] at h
      obtain ⟨b, hb, hrest⟩ := Option.bind_eq_some_iff.mp h
      obtain ⟨hmem, hih⟩ := ih hnodup' hrest
      obtain ⟨hfirst, hfirst'⟩ := abortIoQueue_effect hb
      refine ⟨hmem.trans (abortIoQueue_sqMem hb), fun q => ?_⟩
      by_cases hq : q = i + 1
      · -- the queue of this round: the later rounds leave it alone
        subst hq
        have hlater : AbortSpares b a' (i + 1) := by
          refine (hih (i + 1)).2 ?_
          rintro ⟨⟨j, hj, hji⟩, -⟩
          obtain rfl : j = i := Nat.succ.inj hji
          exact hi hj
        refine ⟨fun hio => (hfirst hio.2).spares hlater, fun hno => ?_⟩
        refine AbortSpares.trans (hfirst' fun hio => hno ⟨⟨i, ?_, rfl⟩, hio⟩) hlater
        exact List.mem_cons_self
      · -- another queue: this round leaves it alone
        have hframe := abortIoQueue_frame hb
        have hspares := hframe.spares hq
        have hiff : (∃ j ∈ i :: is, j + 1 = q) ∧ IoAborts a q ↔
            (∃ j ∈ is, j + 1 = q) ∧ IoAborts b q := by
          rw [hframe.ioAborts_iff hq, List.exists_mem_cons_iff, or_iff_right (Ne.symm hq)]
        rw [hiff]
        exact ⟨fun hio => hspares.empties ((hih q).1 hio),
          fun hno => hspares.trans ((hih q).2 hno)⟩

theorem abort_effect {fuel : Nat} {d : Driver} {shm : Shm} (hshm : d.shm = some shm)
    {r : UInt32 × Driver} (h : vnvmeAbortPendingUserCommands fuel d = some r) :
    ∃ a' : Aborting, r.2.shm = some a'.shm ∧ a'.shm.sqMem = shm.sqMem ∧ ∀ q,
      (AbortsQueue d.pdo shm q → AbortEmpties { shm := shm, pdo := d.pdo } a' q) ∧
      (¬ AbortsQueue d.pdo shm q → AbortSpares { shm := shm, pdo := d.pdo } a' q) := by
  rw [vnvmeAbortPendingUserCommands_eq hshm] at h
  obtain ⟨b, hb, hrest⟩ := Option.bind_eq_some_iff.mp h
  obtain ⟨a', ha', rfl⟩ := Option.map_eq_some_iff.mp hrest
  obtain ⟨hmem, hio⟩ := abortIoQueues_effect (nodup_abortRounds shm d.pdo) ha'
  obtain ⟨hadmin, hadmin'⟩ := abortAdminQueue_effect hb
  have hframe := abortAdminQueue_frame hb
  refine ⟨a', rfl, hmem.trans (abortAdminQueue_sqMem hb), fun q => ?_⟩
  cases q with
  | zero =>
      have hlater : AbortSpares b a' 0 := by
        refine (hio 0).2 ?_
        rintro ⟨⟨i, -, hi⟩, -⟩
        cases hi
      refine ⟨fun hq => (hadmin hq.2).spares hlater, fun hno => ?_⟩
      exact (hadmin' fun hgo => hno ⟨List.mem_cons_self, hgo⟩).trans hlater
  | succ i =>
      have hspares := hframe.spares (Nat.succ_ne_zero i)
      have hiff : AbortsQueue d.pdo shm (i + 1) ↔
          (∃ j ∈ abortRounds shm d.pdo, j + 1 = i + 1) ∧ IoAborts b (i + 1) := by
        rw [hframe.ioAborts_iff (Nat.succ_ne_zero i), AbortsQueue, ← mem_abortRounds_iff, IoAborts]
        simp [and_assoc]
      rw [hiff]
      exact ⟨fun hq => hspares.empties ((hio (i + 1)).1 hq),
        fun hno => hspares.trans ((hio (i + 1)).2 hno)⟩

theorem accounts_abort {d : Driver} {shm : Shm} (hshm : d.shm = some shm) {fuel : Nat}
    {r : UInt32 × Driver} (h : vnvmeAbortPendingUserCommands fuel d = some r) :
    ∃ shm', r.2.shm = some shm' ∧ Accounts d shm shm' (.abort fuel) := by
  obtain ⟨a', hshm', hmem, heffect⟩ := abort_effect hshm h
  refine ⟨a'.shm, hshm', fun q => ?_, fun q => ?_⟩
  · by_cases hq : AbortsQueue d.pdo shm q
    · refine iff_of_false (fun hsame => ?_) (not_not.mpr hq)
      have hhead := ((heffect q).1 hq).head
      rw [hsame.1] at hhead
      exact hq.2.1 hhead
    · have hspares := (heffect q).2 hq
      exact iff_of_true ⟨hspares.sq, by rw [hmem]⟩ hq
  · by_cases hq : AbortsQueue d.pdo shm q
    · refine iff_of_false (fun hsame => ?_) (not_not.mpr hq)
      have hgrows := ((heffect q).1 hq).grows
      rw [hsame.2] at hgrows
      exact Nat.lt_irrefl _ hgrows
    · have hspares := (heffect q).2 hq
      exact iff_of_true ⟨hspares.cq, hspares.cqLog⟩ hq

/-! ## Isolation -/

theorem controllerStep_accounts {d d' : Driver} {shm : Shm} (hshm : d.shm = some shm)
    {step : ControllerStep} (h : step.exec d = some d') :
    ∃ shm', d'.shm = some shm' ∧ Accounts d shm shm' step := by
  cases step with
  | forwardAdmin newTail =>
      obtain rfl := Option.some.inj h
      exact accounts_forwardAdmin hshm newTail
  | forwardIo queueId newTail =>
      obtain rfl := Option.some.inj h
      exact accounts_forwardIo hshm queueId newTail
  | fetch queueId =>
      obtain rfl := Option.some.inj h
      exact accounts_fetch hshm queueId
  | post queueId completion =>
      obtain rfl := Option.some.inj h
      exact accounts_post hshm queueId completion
  | abort fuel =>
      obtain ⟨r, hr, rfl⟩ := Option.map_eq_some_iff.mp h
      exact accounts_abort hshm hr

/-- The bus after one of two fresh controllers has forwarded five admin commands. -/
def sharedBus : Driver :=
  vnvmeForwardAdminCommandsToUser
    { Driver.fresh Config.allQueues with fdo := { userReady := true } } 5

end VirtualNvme
