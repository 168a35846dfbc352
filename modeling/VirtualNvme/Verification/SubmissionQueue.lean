import VirtualNvme.RingBuffer.Fifo
import VirtualNvme.Verification.QueueChecks

/-!
# Submission queues drained by the kernel

The host stores commands at the tail of a submission queue, the driver takes them out
at the head, singly or in batches. On a queue both routines accept, the ring refines
the abstract queue of `RingBuffer.Holds`. The batched routine accepts an I/O queue only
if its id does not exceed the queue count in shared memory, and that is exactly the
condition under which mixing the two routines is sound.
-/

namespace VirtualNvme

open RingBuffer

/-! ## Runs of one submission queue -/

/-- What can happen to a submission queue. -/
inductive SqOp where
  | submit (command : NvmeCommand)
  | fetch
  | fetchBatch (maxCommands : UInt32)

/-- The driver, with everything the host has submitted to the queue and everything the
driver has taken from it so far. -/
structure SqRun where
  driver : Driver
  submitted : List NvmeCommand := []
  taken : List NvmeCommand := []

def SqRun.pending (s : SqRun) : Nat := s.submitted.length - s.taken.length

/-- The host stores a command at `Tail` and advances `Tail`, unless that would fill the
last free slot. -/
def SqRun.submit (q : UInt16) (s : SqRun) (command : NvmeCommand) : SqRun :=
  match s.driver.shm with
  | none => s
  | some shm =>
    let desc := shm.sq q.toNat
    let tail := next desc.capacity desc.tail
    if tail = desc.head then s
    else
      let mem := Function.update (shm.sqMem q.toNat) desc.tail command
      { s with
        driver := { s.driver with
          shm := some { shm.setSq q.toNat { desc with tail := tail } with
            sqMem := Function.update shm.sqMem q.toNat mem } }
        submitted := s.submitted ++ [command] }

def SqRun.step (q : UInt16) (s : SqRun) : SqOp → SqRun
  | .submit command => s.submit q command
  | .fetch =>
    let r := vnvmeFetchCommand s.driver q
    { s with
      driver := r.2.2
      taken := s.taken ++ if r.1 = .success then [r.2.1] else [] }
  | .fetchBatch maxCommands =>
    let r := vnvmeFetchCommandBatch s.driver q maxCommands
    { s with driver := r.2.2, taken := s.taken ++ r.2.1 }

def SqRun.run (q : UInt16) (s : SqRun) (ops : List SqOp) : SqRun :=
  ops.foldl (SqRun.step q) s

/-- What a host and a driver expect of a submission queue at any moment: commands have
come out in submission order, a single fetch finds one exactly when one is pending, and
a batch returns as many as are pending and asked for. -/
structure SqLaw (q : UInt16) (s : SqRun) : Prop where
  in_order : s.taken <+: s.submitted
  fetch_empty : (vnvmeFetchCommand s.driver q).1 = .noMoreEntries ↔ s.pending = 0
  fetch_next : s.pending ≠ 0 → (vnvmeFetchCommand s.driver q).1 = .success
  batch_length : ∀ n : UInt32,
    (vnvmeFetchCommandBatch s.driver q n).2.1.length = min n.toNat s.pending
  batch_empty : ∀ n : UInt32,
    (vnvmeFetchCommandBatch s.driver q n).2.1 = [] ↔ s.pending = 0 ∨ n = 0

/-! ## The batch loop -/

theorem fetchBatchLoop_succ {mem : UInt32 → NvmeCommand} {c head tail : UInt32} (n : Nat)
    (h : head ≠ tail) :
    fetchBatchLoop mem tail c (n + 1) head =
      ((fetchBatchLoop mem tail c n (next c head)).1,
        mem head :: (fetchBatchLoop mem tail c n (next c head)).2) := by
  rw [fetchBatchLoop, if_neg h]

/-- The loop hands out the next elements of the abstract queue, up to `n` of them. -/
theorem fetchBatchLoop_holds {mem : UInt32 → NvmeCommand} {c tail : UInt32}
    {hist : List NvmeCommand} (n : Nat) :
    ∀ {head : UInt32} {taken : Nat}, Holds c mem head tail hist taken →
      (fetchBatchLoop mem tail c n head).2 = (hist.drop taken).take n ∧
      Holds c mem (fetchBatchLoop mem tail c n head).1 tail hist
        (taken + (fetchBatchLoop mem tail c n head).2.length) := by
  induction n with
  | zero =>
      intro head taken h
      exact ⟨rfl, h⟩
  | succ n ih =>
      intro head taken h
      by_cases heq : head = tail
      · have hlen : taken = hist.length := h.head_eq_tail_iff.mp heq
        rw [fetchBatchLoop, if_pos heq]
        refine ⟨?_, h⟩
        rw [hlen, List.drop_length, List.take_nil]
      · obtain ⟨hget, hpop⟩ := h.pop heq
        obtain ⟨hlist, hrest⟩ := ih hpop
        have hlt : taken < hist.length := (List.getElem?_eq_some_iff.mp hget).1
        rw [List.getElem?_eq_getElem hlt] at hget
        rw [fetchBatchLoop_succ n heq]
        refine ⟨?_, ?_⟩
        · rw [hlist, List.drop_eq_getElem_cons hlt, List.take_succ_cons, Option.some.inj hget]
        · rw [List.length_cons, Nat.add_comm _ 1, ← Nat.add_assoc]
          exact hrest

/-! ## The invariant -/

theorem prefix_append_next {α : Type*} {t l : List α} (h : t <+: l) (n : Nat) :
    t ++ (l.drop t.length).take n <+: l := by
  obtain ⟨r, rfl⟩ := h
  rw [List.drop_left]
  exact (List.prefix_append_right_inj t).mpr (List.take_prefix n r)

theorem take_drop_one {α : Type*} {l : List α} {k : Nat} {x : α} (h : l[k]? = some x) :
    (l.drop k).take 1 = [x] := by
  obtain ⟨hlt, rfl⟩ := List.getElem?_eq_some_iff.mp h
  rw [List.drop_eq_getElem_cons hlt]
  rfl

/-- On an accepted queue the batched routine only asks for the queue count. -/
theorem batchCheck_of_sqCheck {d : Driver} {q : UInt16} {shm : Shm}
    (h : sqCheck d q = .ok shm) (hq : q = 0 ∨ q.toUInt32 ≤ shm.ioQueueCount) :
    batchCheck d q = .ok shm := by
  obtain ⟨hshm, hio, _⟩ := sqCheck_ok_iff.mp h
  refine batchCheck_ok_iff.mpr ⟨hshm, ?_⟩
  intro hne
  obtain ⟨hmax, _, hoff⟩ := hio hne
  refine ⟨hoff, hq.resolve_left hne, ?_⟩
  have h16 : q.toUInt32.toNat ≤ 16 := Nat.le_trans hmax d.config.maxIOQueues_le
  have hq0 : q.toNat ≠ 0 := fun h0 => hne (UInt16.toNat_inj.mp h0)
  rw [UInt16.toNat_toUInt32] at h16
  show (q - 1).toNat < 16
  rw [UInt16.toNat_sub_of_le _ _ (by show 1 ≤ q.toNat; omega)]
  show q.toNat - 1 < 16
  omega

/-- The ring represents the commands submitted and taken so far, and a batch is either
accepted or has nothing it could miss. -/
structure SqInv (q : UInt16) (s : SqRun) : Prop where
  ring : ∃ shm, sqCheck s.driver q = .ok shm ∧
    ((q = 0 ∨ q.toUInt32 ≤ shm.ioQueueCount) ∨ (shm.sq q.toNat).capacity = 1) ∧
    Holds (shm.sq q.toNat).capacity (shm.sqMem q.toNat) (shm.sq q.toNat).head
      (shm.sq q.toNat).tail s.submitted s.taken.length
  in_order : s.taken <+: s.submitted

theorem SqInv.submit {q : UInt16} {s : SqRun} (h : SqInv q s) (command : NvmeCommand) :
    SqInv q (s.submit q command) := by
  obtain ⟨⟨shm, hok, hbatch, hring⟩, hord⟩ := h
  obtain ⟨hshm, hio, hvalid⟩ := sqCheck_ok_iff.mp hok
  rw [SqRun.submit, hshm]
  simp only
  split_ifs with hfull
  · exact ⟨⟨shm, hok, hbatch, hring⟩, hord⟩
  · refine ⟨⟨_, sqCheck_ok_iff.mpr ⟨rfl, hio, ?_⟩, ?_, ?_⟩, ?_⟩
    · simpa [Shm.setSq] using hvalid
    · simpa [Shm.setSq] using hbatch
    · simpa [Shm.setSq] using hring.push hfull command
    · exact hord.trans (List.prefix_append _ _)

/-- What a single fetch does on an accepted queue. -/
theorem SqInv.fetch {q : UInt16} {s : SqRun} (h : SqInv q s) :
    (s.pending = 0 ∧ (vnvmeFetchCommand s.driver q).1 = .noMoreEntries ∧
        s.step q .fetch = s) ∨
      (s.pending ≠ 0 ∧ (vnvmeFetchCommand s.driver q).1 = .success ∧
        SqInv q (s.step q .fetch)) := by
  obtain ⟨⟨shm, hok, hbatch, hring⟩, hord⟩ := h
  obtain ⟨hshm, hio, hvalid⟩ := sqCheck_ok_iff.mp hok
  have hle := hring.taken_le
  by_cases heq : (shm.sq q.toNat).head = (shm.sq q.toNat).tail
  · have hlen := hring.head_eq_tail_iff.mp heq
    have hfetch := vnvmeFetchCommand_empty hok heq
    refine Or.inl ⟨?_, by rw [hfetch], ?_⟩
    · rw [SqRun.pending]
      omega
    · simp [SqRun.step, hfetch]
  · have hlen : s.taken.length ≠ s.submitted.length :=
      fun hl => heq (hring.head_eq_tail_iff.mpr hl)
    obtain ⟨hget, hpop⟩ := hring.pop heq
    have hfetch := vnvmeFetchCommand_ok hok heq
    refine Or.inr ⟨?_, by rw [hfetch], ?_⟩
    · rw [SqRun.pending]
      omega
    · simp only [SqRun.step, hfetch, if_true]
      refine ⟨⟨_, sqCheck_ok_iff.mpr ⟨rfl, ?_, ?_⟩, ?_, ?_⟩, ?_⟩
      · simpa [applyFetch, Shm.setSq, PdoContext.setSq] using hio
      · simpa [Shm.setSq] using hvalid
      · simpa [Shm.setSq] using hbatch
      · simpa [Shm.setSq] using hpop
      · rw [← take_drop_one hget]
        exact prefix_append_next hord 1

/-- What a batch does on an accepted queue. -/
theorem SqInv.fetchBatch {q : UInt16} {s : SqRun} (h : SqInv q s) (n : UInt32) :
    (vnvmeFetchCommandBatch s.driver q n).2.1 =
        (s.submitted.drop s.taken.length).take n.toNat ∧
      SqInv q (s.step q (.fetchBatch n)) := by
  obtain ⟨⟨shm, hok, hbatch, hring⟩, hord⟩ := h
  obtain ⟨hshm, hio, hvalid⟩ := sqCheck_ok_iff.mp hok
  have hkeep : SqInv q { s with taken := s.taken ++ [] } := by
    rw [List.append_nil]
    exact ⟨⟨shm, hok, hbatch, hring⟩, hord⟩
  have hle := hring.taken_le
  by_cases hn : n = 0
  · have hr : vnvmeFetchCommandBatch s.driver q n = (.success, [], s.driver) := by
      rw [vnvmeFetchCommandBatch, if_pos hn]
    rw [SqRun.step, hr, hn]
    exact ⟨rfl, hkeep⟩
  by_cases heq : (shm.sq q.toNat).head = (shm.sq q.toNat).tail
  · -- nothing is pending; whether the batch is accepted makes no difference
    have hlen : s.taken.length = s.submitted.length := hring.head_eq_tail_iff.mp heq
    have hr : (vnvmeFetchCommandBatch s.driver q n).2 = ([], s.driver) := by
      cases hb : batchCheck s.driver q with
      | error e => rw [vnvmeFetchCommandBatch_error hn hb]
      | ok shm' =>
          obtain rfl : shm = shm' :=
            Option.some.inj (hshm.symm.trans (batchCheck_ok_iff.mp hb).1)
          rw [vnvmeFetchCommandBatch_empty hn hb heq]
    rw [SqRun.step, hr, hlen, List.drop_length, List.take_nil]
    exact ⟨rfl, hkeep⟩
  · -- something is pending, so the ring has more than one slot
    have hcount : q = 0 ∨ q.toUInt32 ≤ shm.ioQueueCount := by
      refine hbatch.resolve_right fun hone => heq (hring.head_eq_tail_iff.mpr ?_)
      have hroom := hring.room
      rw [hone] at hroom
      have : (1 : UInt32).toNat = 1 := rfl
      omega
    have hr := vnvmeFetchCommandBatch_ok hn (batchCheck_of_sqCheck hok hcount) heq
    obtain ⟨hlist, hpop⟩ := fetchBatchLoop_holds n.toNat hring
    rw [SqRun.step, hr]
    refine ⟨hlist, ⟨_, sqCheck_ok_iff.mpr ⟨rfl, hio, ?_⟩, ?_, ?_⟩, ?_⟩
    · simpa [Shm.setSq] using hvalid
    · simpa [Shm.setSq] using hbatch
    · simpa [Shm.setSq, batchTaken] using hpop
    · rw [batchTaken, hlist]
      exact prefix_append_next hord n.toNat

theorem SqInv.step {q : UInt16} {s : SqRun} (h : SqInv q s) (op : SqOp) :
    SqInv q (s.step q op) := by
  cases op with
  | submit command => exact h.submit command
  | fetch =>
      rcases h.fetch with ⟨_, _, heq⟩ | ⟨_, _, hinv⟩
      · rw [heq]
        exact h
      · exact hinv
  | fetchBatch n => exact (h.fetchBatch n).2

theorem SqInv.run {q : UInt16} (ops : List SqOp) :
    ∀ {s : SqRun}, SqInv q s → SqInv q (s.run q ops) := by
  induction ops with
  | nil =>
      intro s h
      exact h
  | cons op ops ih =>
      intro s h
      exact ih (h.step op)

theorem SqInv.law {q : UInt16} {s : SqRun} (h : SqInv q s) : SqLaw q s := by
  have hbatch := fun n => (h.fetchBatch n).1
  refine ⟨h.in_order, ?_, ?_, ?_, ?_⟩
  · rcases h.fetch with ⟨h0, hst, _⟩ | ⟨h0, hst, _⟩
    · exact ⟨fun _ => h0, fun _ => hst⟩
    · rw [hst]
      exact ⟨fun hc => NtStatus.noConfusion hc, fun hc => absurd hc h0⟩
  · intro hne
    rcases h.fetch with ⟨h0, _, _⟩ | ⟨_, hst, _⟩
    · exact absurd h0 hne
    · exact hst
  · intro n
    rw [hbatch n, List.length_take, List.length_drop]
    rfl
  · intro n
    have hn : n.toNat = 0 ↔ n = 0 := UInt32.toNat_inj (b := 0)
    rw [hbatch n, ← List.length_eq_zero_iff, List.length_take, List.length_drop, ← hn]
    show min n.toNat s.pending = 0 ↔ _
    omega

/-! ## When single and batched fetches may be mixed -/

/-- An empty, accepted queue and the start of its run. -/
structure EmptySq (d : Driver) (q : UInt16) (shm : Shm) : Prop where
  accepted : sqCheck d q = .ok shm
  capacity_pos : 1 ≤ (shm.sq q.toNat).capacity
  head_zero : (shm.sq q.toNat).head = 0
  tail_zero : (shm.sq q.toNat).tail = 0

theorem EmptySq.inv {d : Driver} {q : UInt16} {shm : Shm} (h : EmptySq d q shm)
    (hq : (q = 0 ∨ q.toUInt32 ≤ shm.ioQueueCount) ∨ (shm.sq q.toNat).capacity = 1) :
    SqInv q { driver := d } := by
  have hc : 0 < (shm.sq q.toNat).capacity := h.capacity_pos
  refine ⟨⟨shm, h.accepted, hq, ?_⟩, List.nil_prefix⟩
  rw [h.head_zero, h.tail_zero]
  exact Holds.empty hc _

/-- On a queue that the batched routine refuses, one submitted command is enough: it is
pending, and a batch comes back empty. -/
theorem EmptySq.not_law {d : Driver} {q : UInt16} {shm : Shm} (h : EmptySq d q shm)
    (hq : q ≠ 0) (hcount : ¬ q.toUInt32 ≤ shm.ioQueueCount)
    (hcap : (shm.sq q.toNat).capacity ≠ 1) :
    ¬ SqLaw q (SqRun.run q { driver := d } [.submit {}]) := by
  intro hlaw
  have hshm := (sqCheck_ok_iff.mp h.accepted).1
  have hfree : next (shm.sq q.toNat).capacity (shm.sq q.toNat).tail ≠
      (shm.sq q.toNat).head := by
    have hc : 1 ≤ (shm.sq q.toNat).capacity.toNat := h.capacity_pos
    have hne : (shm.sq q.toNat).capacity.toNat ≠ 1 :=
      fun h1 => hcap (UInt32.toNat_inj.mp h1)
    rw [h.tail_zero, h.head_zero]
    intro heq
    have hnat := congrArg UInt32.toNat heq
    have h0 : (0 : UInt32).toNat = 0 := rfl
    have hlt : (0 : UInt32) < (shm.sq q.toNat).capacity := hc
    rw [next_toNat hlt, h0, Nat.mod_eq_of_lt (by omega)] at hnat
    omega
  have hrun : SqRun.run q { driver := d } [.submit {}] =
      SqRun.submit q { driver := d } {} := rfl
  rw [hrun, SqRun.submit, hshm] at hlaw
  simp only [if_neg hfree] at hlaw
  have hbatch := hlaw.batch_empty 1
  rw [vnvmeFetchCommandBatch, if_neg (by decide)] at hbatch
  split at hbatch
  · rcases hbatch.mp rfl with h0 | h0
    · simp [SqRun.pending] at h0
    · exact absurd h0 (by decide)
  · rename_i hb
    obtain ⟨hs, hio⟩ := batchCheck_ok_iff.mp hb
    have hle := (hio hq).2.1
    rw [← Option.some.inj hs] at hle
    exact hcount hle

/-- **Mixed fetching.** Starting from an accepted empty queue, every mix of submissions,
single fetches and batches obeys the queue law if and only if the queue is the admin
queue, or its id is within the queue count of the shared memory, or it is too small to
ever hold a command. -/
theorem mixed_fetch_iff {d : Driver} {q : UInt16} {shm : Shm} (h : EmptySq d q shm) :
    (∀ ops, SqLaw q (SqRun.run q { driver := d } ops)) ↔
      (q = 0 ∨ q.toUInt32 ≤ shm.ioQueueCount ∨ (shm.sq q.toNat).capacity = 1) := by
  constructor
  · intro hall
    by_contra hcon
    simp only [not_or] at hcon
    exact h.not_law hcon.1 hcon.2.1 hcon.2.2 (hall _)
  · intro hq ops
    exact ((h.inv (or_assoc.mpr hq)).run ops).law

/-- A driver with one I/O queue pair, both made by the queue management routines. -/
def onePairDriver : Driver :=
  (vnvmeCreateIoSubmissionQueue
    (vnvmeCreateIoCompletionQueue (Driver.fresh .allQueues) 1 4 0).2 1 4 0 1).2

theorem mixed_fetch_iff_pair :
    ∃ shm, EmptySq onePairDriver 1 shm ∧
      ((∀ ops, SqLaw 1 (SqRun.run 1 { driver := onePairDriver } ops)) ↔
        ((1 : UInt16) = 0 ∨ (1 : UInt16).toUInt32 ≤ shm.ioQueueCount ∨
          (shm.sq 1).capacity = 1)) := by
  have h : EmptySq onePairDriver 1 (onePairDriver.shm.get (by decide)) :=
    ⟨sqCheck_ok_iff.mpr ⟨(Option.some_get _).symm, by decide, by decide⟩, by decide,
      by decide, by decide⟩
  exact ⟨_, h, mixed_fetch_iff h⟩

/-- The batch of a reachable I/O queue comes back empty although a command is pending. -/
theorem fetchBatch_misses_pending :
    let s := SqRun.run 1 { driver := onePairDriver } [.submit { cid := 5 }]
    s.pending = 1 ∧ (vnvmeFetchCommand s.driver 1).1 = .success ∧
      (vnvmeFetchCommandBatch s.driver 1 1).1 = .invalidParameter ∧
      (vnvmeFetchCommandBatch s.driver 1 1).2.1 = [] ∧
      ¬ ∀ ops, SqLaw 1 (SqRun.run 1 { driver := onePairDriver } ops) := by
  refine ⟨by decide, by decide, by decide, by decide, ?_⟩
  intro hall
  have h := (hall [.submit { cid := 5 }]).batch_empty 1
  exact absurd (h.mp (by decide)) (by decide)

end VirtualNvme
