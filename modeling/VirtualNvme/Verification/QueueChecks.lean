import VirtualNvme.Driver.Queue

/-!
# When a queue is accepted

The three guards of `queue.c`, each as one equivalence, and what a fetch, single or batched,
does behind its guard. The batched routines ask different questions than the single ones: they
never look at `Created`, at `Valid` or at the configured limit, and the single ones never
look at the queue count in shared memory.
-/

namespace VirtualNvme

open RingBuffer (next)

/-! ## The guards -/

/-- What the single routines ask of a queue whose descriptors are `desc` and whose states are
`state`. They check `Created` and the configured limit for an I/O queue only. -/
abbrev QueueAccepted (desc : Shm → Nat → QueueDescriptor)
    (state : PdoContext → Nat → QueueState) (d : Driver) (q : UInt16) (shm : Shm) : Prop :=
  d.shm = some shm ∧
    (q ≠ 0 → q.toUInt32 ≤ d.config.maxIOQueues ∧ (state d.pdo q.toNat).created = true ∧
      shm.ioQueueDescriptorOffset ≠ 0) ∧ (desc shm q.toNat).valid ≠ 0

/-- The submission queue passes the checks of `VnvmeFetchCommand`. -/
theorem sqCheck_ok_iff {d : Driver} {q : UInt16} {shm : Shm} :
    sqCheck d q = .ok shm ↔ QueueAccepted Shm.sq PdoContext.sq d q shm := by
  unfold sqCheck
  cases hs : d.shm with
  | none => simp [hs]
  | some s =>
      dsimp only
      split_ifs with h1 h2 h3
      · grind
      · grind
      · grind
      · grind

/-- The completion queue passes the checks of `VnvmePostCompletion`. -/
theorem cqCheck_ok_iff {d : Driver} {q : UInt16} {shm : Shm} :
    cqCheck d q = .ok shm ↔ QueueAccepted Shm.cq PdoContext.cq d q shm := by
  unfold cqCheck
  cases hs : d.shm with
  | none => simp [hs]
  | some s =>
      dsimp only
      split_ifs with h1 h2 h3
      · grind
      · grind
      · grind
      · grind

/-- The queue passes the checks of the batched routines. -/
theorem batchCheck_ok_iff {d : Driver} {q : UInt16} {shm : Shm} :
    batchCheck d q = .ok shm ↔ d.shm = some shm ∧
      (q ≠ 0 → shm.ioQueueDescriptorOffset ≠ 0 ∧ q.toUInt32 ≤ shm.ioQueueCount ∧
        q - 1 < 16) := by
  unfold batchCheck
  cases hs : d.shm with
  | none => simp
  | some s =>
      simp only [Option.some.injEq]
      split_ifs with h1
      · grind
      · grind

/-- A refusal is reported as one. -/
theorem sqCheck_error {d : Driver} {q : UInt16} {e : NtStatus}
    (h : sqCheck d q = .error e) : e ≠ .success ∧ e ≠ .noMoreEntries := by
  unfold sqCheck at h
  cases hs : d.shm <;> simp only [hs] at h <;> (try split_ifs at h) <;>
    · rw [← Except.error.inj h]
      decide

theorem cqCheck_error {d : Driver} {q : UInt16} {e : NtStatus}
    (h : cqCheck d q = .error e) : e ≠ .success := by
  unfold cqCheck at h
  cases hs : d.shm <;> simp only [hs] at h <;> (try split_ifs at h) <;>
    · rw [← Except.error.inj h]
      decide

theorem batchCheck_error {d : Driver} {q : UInt16} {e : NtStatus}
    (h : batchCheck d q = .error e) : e ≠ .success := by
  unfold batchCheck at h
  cases hs : d.shm <;> simp only [hs] at h <;> (try split_ifs at h) <;>
    · rw [← Except.error.inj h]
      decide

/-! ## What the guards read -/

/-- What the guards read of the shared memory for the admin queue and for the batches. -/
structure Gates where
  adminSqValid : UInt32
  adminCqValid : UInt32
  ioQueueCount : UInt32
  ioQueueDescriptorOffset : UInt32
  deriving DecidableEq

def Shm.gates (shm : Shm) : Gates :=
  ⟨(shm.sq 0).valid, (shm.cq 0).valid, shm.ioQueueCount, shm.ioQueueDescriptorOffset⟩

theorem Shm.gates_eq {shm shm' : Shm} (hsq : (shm'.sq 0).valid = (shm.sq 0).valid)
    (hcq : (shm'.cq 0).valid = (shm.cq 0).valid)
    (hcount : shm'.ioQueueCount = shm.ioQueueCount)
    (hoff : shm'.ioQueueDescriptorOffset = shm.ioQueueDescriptorOffset) :
    shm'.gates = shm.gates := by
  rw [Shm.gates, Shm.gates, hsq, hcq, hcount, hoff]

/-- A new descriptor of an I/O queue, or one for the admin queue that keeps `g`. -/
theorem update_admin {α : Type*} (g : QueueDescriptor → α) {f : Nat → QueueDescriptor} {q : Nat}
    {desc : QueueDescriptor} (h : q = 0 → g desc = g (f q)) :
    g (Function.update f q desc 0) = g (f 0) := by
  by_cases hq : q = 0
  · subst hq
    rw [Function.update_self]
    exact h rfl
  · rw [Function.update_of_ne (Ne.symm hq)]

/-! ## The effect of a fetch -/

/-- The driver after a command has been taken from queue `q`. -/
def applyFetch (d : Driver) (shm : Shm) (q : Nat) : Driver :=
  let head := next (shm.sq q).capacity (shm.sq q).head
  { d with
    shm := some (shm.setSq q { shm.sq q with head := head })
    pdo := d.pdo.setSq q { d.pdo.sq q with head := head } }

theorem vnvmeFetchCommand_empty {d : Driver} {q : UInt16} {shm : Shm}
    (h : sqCheck d q = .ok shm) (heq : (shm.sq q.toNat).head = (shm.sq q.toNat).tail) :
    vnvmeFetchCommand d q = (.noMoreEntries, {}, d) := by
  rw [vnvmeFetchCommand, h]
  exact if_pos heq

theorem vnvmeFetchCommand_ok {d : Driver} {q : UInt16} {shm : Shm}
    (h : sqCheck d q = .ok shm) (hne : (shm.sq q.toNat).head ≠ (shm.sq q.toNat).tail) :
    vnvmeFetchCommand d q =
      (.success, shm.sqMem q.toNat (shm.sq q.toNat).head, applyFetch d shm q.toNat) := by
  rw [vnvmeFetchCommand, h]
  exact if_neg hne

/-- A fetch is refused and changes nothing, or it takes the command at the head. -/
theorem vnvmeFetchCommand_cases (d : Driver) (q : UInt16) :
    ((vnvmeFetchCommand d q).1 ≠ .success ∧ (vnvmeFetchCommand d q).2.2 = d) ∨
      ∃ shm, sqCheck d q = .ok shm ∧ (shm.sq q.toNat).head ≠ (shm.sq q.toNat).tail ∧
        vnvmeFetchCommand d q =
          (.success, shm.sqMem q.toNat (shm.sq q.toNat).head, applyFetch d shm q.toNat) := by
  cases hc : sqCheck d q with
  | error e =>
      have hf : vnvmeFetchCommand d q = (e, {}, d) := by rw [vnvmeFetchCommand, hc]
      rw [hf]
      exact Or.inl ⟨(sqCheck_error hc).1, rfl⟩
  | ok shm =>
      by_cases heq : (shm.sq q.toNat).head = (shm.sq q.toNat).tail
      · rw [vnvmeFetchCommand_empty hc heq]
        exact Or.inl ⟨NtStatus.noConfusion, rfl⟩
      · exact Or.inr ⟨shm, rfl, heq, vnvmeFetchCommand_ok hc heq⟩

/-- A fetch takes the id (a command is returned, or the queue is reported as empty) exactly if
the guard does. -/
theorem vnvmeFetchCommand_accepts_iff {d : Driver} {q : UInt16} :
    ((vnvmeFetchCommand d q).1 = .success ∨ (vnvmeFetchCommand d q).1 = .noMoreEntries) ↔
      ∃ shm, sqCheck d q = .ok shm := by
  cases hc : sqCheck d q with
  | error e =>
      have hf : vnvmeFetchCommand d q = (e, {}, d) := by rw [vnvmeFetchCommand, hc]
      obtain ⟨hne, hne'⟩ := sqCheck_error hc
      simp [hf, hne, hne']
  | ok shm =>
      refine iff_of_true ?_ ⟨shm, rfl⟩
      by_cases heq : (shm.sq q.toNat).head = (shm.sq q.toNat).tail
      · exact Or.inr (by rw [vnvmeFetchCommand_empty hc heq])
      · exact Or.inl (by rw [vnvmeFetchCommand_ok hc heq])

/-! ## The effect of a batched fetch -/

/-- The head that a batch of at most `n` commands leaves, and the commands. -/
def batchTaken (shm : Shm) (q : Nat) (n : UInt32) : UInt32 × List NvmeCommand :=
  fetchBatchLoop (shm.sqMem q) (shm.sq q).tail (shm.sq q).capacity n.toNat (shm.sq q).head

/-- The driver after the batch. The controller keeps its own copy of the head. -/
def applyFetchBatch (d : Driver) (shm : Shm) (q : Nat) (n : UInt32) : Driver :=
  let taken := batchTaken shm q n
  { d with
    shm := some { shm.setSq q { shm.sq q with head := taken.1 } with
      commandsProcessed := shm.commandsProcessed + UInt64.ofNat taken.2.length } }

section Batch

variable {d : Driver} {q : UInt16} {n : UInt32} (hn : n ≠ 0)

include hn

theorem vnvmeFetchCommandBatch_error {e : NtStatus} (h : batchCheck d q = .error e) :
    vnvmeFetchCommandBatch d q n = (e, [], d) := by
  rw [vnvmeFetchCommandBatch, if_neg hn, h]

theorem vnvmeFetchCommandBatch_empty {shm : Shm} (h : batchCheck d q = .ok shm)
    (heq : (shm.sq q.toNat).head = (shm.sq q.toNat).tail) :
    vnvmeFetchCommandBatch d q n = (.success, [], d) := by
  rw [vnvmeFetchCommandBatch, if_neg hn, h]
  exact if_pos heq

theorem vnvmeFetchCommandBatch_ok {shm : Shm} (h : batchCheck d q = .ok shm)
    (hne : (shm.sq q.toNat).head ≠ (shm.sq q.toNat).tail) :
    vnvmeFetchCommandBatch d q n =
      (.success, (batchTaken shm q.toNat n).2, applyFetchBatch d shm q.toNat n) := by
  rw [vnvmeFetchCommandBatch, if_neg hn, h]
  exact if_neg hne

end Batch

/-- A batch changes nothing, or it takes commands from an accepted queue. -/
theorem vnvmeFetchCommandBatch_cases (d : Driver) (q : UInt16) (n : UInt32) :
    (vnvmeFetchCommandBatch d q n).2 = ([], d) ∨
      ∃ shm, batchCheck d q = .ok shm ∧
        vnvmeFetchCommandBatch d q n =
          (.success, (batchTaken shm q.toNat n).2, applyFetchBatch d shm q.toNat n) := by
  by_cases hn : n = 0
  · rw [vnvmeFetchCommandBatch, if_pos hn]
    exact Or.inl rfl
  cases hc : batchCheck d q with
  | error e =>
      rw [vnvmeFetchCommandBatch_error hn hc]
      exact Or.inl rfl
  | ok shm =>
      by_cases heq : (shm.sq q.toNat).head = (shm.sq q.toNat).tail
      · rw [vnvmeFetchCommandBatch_empty hn hc heq]
        exact Or.inl rfl
      · exact Or.inr ⟨shm, rfl, vnvmeFetchCommandBatch_ok hn hc heq⟩

theorem vnvmeFetchCommandBatch_accepts_iff {d : Driver} {q : UInt16} {n : UInt32} (hn : n ≠ 0) :
    (vnvmeFetchCommandBatch d q n).1 = .success ↔ ∃ shm, batchCheck d q = .ok shm := by
  cases hc : batchCheck d q with
  | error e => simp [vnvmeFetchCommandBatch_error hn hc, batchCheck_error hc]
  | ok shm =>
      by_cases heq : (shm.sq q.toNat).head = (shm.sq q.toNat).tail
      · simp [vnvmeFetchCommandBatch_empty hn hc heq]
      · simp [vnvmeFetchCommandBatch_ok hn hc heq]

end VirtualNvme
