import Mathlib.Algebra.Order.BigOperators.Group.List
import Mathlib.Algebra.Order.Ring.Nat
import VirtualNvme.Driver.UserForward
import VirtualNvme.RingBuffer.Phase

/-!
# Aborting what the server left behind

`VnvmeAbortPendingUserCommands` walks every submission queue from head to tail and every
completion queue beside it, each with its own modulus. One walk is a fold over the slots
between head and tail (`walk_eq_foldl`), the fold keeps the completion index and its
phase in step, and the walks of different queues do not meet.
-/

namespace VirtualNvme

open RingBuffer

/-! ## The loop over one queue -/

theorem makeAbortStatus_phase (phase : Bool) :
    nvmeStatusP (makeAbortStatus phase) = if phase then 1 else 0 := by
  cases phase <;> rfl

theorem makeAbortStatus_code (phase : Bool) :
    nvmeStatusSct (makeAbortStatus phase) = 0 ∧
      nvmeStatusSc (makeAbortStatus phase) = nvmeScInternalError.toUInt16 := by
  cases phase <;> decide

/-- `ws` completes the commands in the slots `is`, in this order, into a queue of `c` slots
from step `k` on. -/
structure AbortWrites (mem : UInt32 → NvmeCommand) (sqid : UInt16) (c : UInt32) (b : Bool)
    (k : Nat) (is : List UInt32) (ws : List CqWrite) : Prop where
  length_eq : ws.length = is.length
  entry : ∀ j i, is[j]? = some i → ∃ w, ws[j]? = some w ∧ At c (k + j) w.slot ∧
    w.entry = abortEntry mem sqid (phaseAt c b (k + j)) i

theorem foldl_abortStep (mem : UInt32 → NvmeCommand) (sqid : UInt16) {c : UInt32}
    {slot : UInt32 → UInt32} (hc : 0 < c) (hslot : ∀ x, x < c → slot x = x) {b : Bool}
    (is : List UInt32) : ∀ {s : AbortLoop} {k : Nat}, InStep c b k s.cqTail s.phase →
      let r := is.foldl (abortStep mem sqid c slot) s
      InStep c b (k + is.length) r.cqTail r.phase ∧
        r.aborted = s.aborted + UInt32.ofNat is.length ∧
        ∃ ws, r.log = s.log ++ ws ∧ AbortWrites mem sqid c b k is ws := by
  induction is with
  | nil =>
      intro s k hs
      refine ⟨hs, (UInt32.add_zero _).symm, [], (List.append_nil _).symm, rfl, ?_⟩
      intro j i hi
      simp at hi
  | cons i is ih =>
      intro s k hs
      obtain ⟨hin, hab, ws, hlog, hws⟩ := ih (s := abortStep mem sqid c slot s i)
        (hs.advance hc)
      have hlen : (i :: is).length = 1 + is.length := Nat.add_comm _ _
      refine ⟨?_, ?_, ⟨s.cqTail, abortEntry mem sqid s.phase i⟩ :: ws, ?_, ?_, ?_⟩
      · rw [hlen, ← Nat.add_assoc]
        exact hin
      · rw [hlen, UInt32.ofNat_add, ← UInt32.add_assoc]
        exact hab
      · rw [List.foldl_cons, hlog]
        show (s.log ++ [⟨slot s.cqTail, _⟩]) ++ ws = _
        rw [hslot _ (hs.at_tail.lt hc), List.append_assoc]
        rfl
      · rw [List.length_cons, List.length_cons, hws.length_eq]
      · intro j x hx
        cases j with
        | zero =>
            obtain rfl : i = x := by simpa using hx
            exact ⟨_, rfl, hs.at_tail, by rw [hs.phase_eq]; rfl⟩
        | succ j =>
            obtain ⟨w, hw, hat, hentry⟩ := hws.entry j x (by simpa using hx)
            rw [show k + 1 + j = k + (j + 1) by omega] at hat hentry
            exact ⟨w, by simpa using hw, hat, hentry⟩

/-! ## One queue pair -/

/-- Head and tail are slots of the queue. -/
structure QueueDescriptor.InRange (d : QueueDescriptor) : Prop where
  head_lt : d.head < d.capacity
  tail_lt : d.tail < d.capacity

/-- The number of commands between head and tail. -/
def QueueDescriptor.pending (d : QueueDescriptor) : Nat := dist d.capacity d.head d.tail

/-- The completion for the command in slot `i`, as the `j`-th new entry of a completion
queue that stood at `cq`. -/
structure AbortedEntry (mem : UInt32 → NvmeCommand) (q : Nat) (sq cq : QueueDescriptor)
    (j : Nat) (w : CqWrite) : Prop where
  slot : w.slot.toNat = (cq.tail.toNat + j) % cq.capacity.toNat
  cid : ∃ i : UInt32, i.toNat = (sq.head.toNat + j) % sq.capacity.toNat ∧
    w.entry.cid = (mem i).cid
  sqid : w.entry.sqid = UInt16.ofNat q
  sct : nvmeStatusSct w.entry.status = 0
  sc : nvmeStatusSc w.entry.status = nvmeScInternalError.toUInt16
  phase : nvmeStatusP w.entry.status =
    if phaseAt cq.capacity cq.phaseBit (cq.tail.toNat + j) then 1 else 0

/-- Everything pending in submission queue `q` has been completed into its companion. -/
structure QueueAborted (mem : UInt32 → NvmeCommand) (q : Nat) (sq sq' cq cq' : QueueDescriptor)
    (log log' : List CqWrite) : Prop where
  sq_eq : sq' = { sq with head := sq.tail }
  cq_tail : cq'.tail.toNat = (cq.tail.toNat + sq.pending) % cq.capacity.toNat
  cq_phase : cq'.phaseBit = phaseAt cq.capacity cq.phaseBit (cq.tail.toNat + sq.pending)
  cq_capacity : cq'.capacity = cq.capacity
  writes : ∃ ws, log' = log ++ ws ∧ ws.length = sq.pending ∧
    ∀ j w, ws[j]? = some w → AbortedEntry mem q sq cq j w

theorem QueueDescriptor.move_head {d : QueueDescriptor} (h : d.head = d.tail) :
    { d with head := d.tail } = d := by
  cases d with
  | mk offset entrySize capacity valid head tail phase =>
      obtain rfl : head = tail := h
      rfl

/-- A queue with nothing pending stays as it is. -/
theorem QueueAborted.of_empty {mem : UInt32 → NvmeCommand} {q : Nat}
    {sq cq : QueueDescriptor} {log : List CqWrite} (hsq : sq.InRange)
    (hcq : cq.tail < cq.capacity) (h : sq.head = sq.tail) :
    QueueAborted mem q sq sq cq cq log log := by
  have hzero : sq.pending = 0 := (dist_eq_zero hsq.head_lt hsq.tail_lt).mpr h
  refine ⟨?_, ?_, ?_, rfl, [], (List.append_nil _).symm, hzero.symm, ?_⟩
  · exact (QueueDescriptor.move_head h).symm
  · rw [hzero, Nat.add_zero]
    exact At.self hcq
  · rw [hzero, Nat.add_zero]
    exact (InStep.start hcq).phase_eq
  · intro j w hw
    simp at hw

/-- The entries that the fold has written, read through the two moduli. -/
theorem AbortWrites.entries {mem : UInt32 → NvmeCommand} {q : Nat} {sq cq : QueueDescriptor}
    {ws : List CqWrite} (hsq : sq.head < sq.capacity)
    (h : AbortWrites mem (UInt16.ofNat q) cq.capacity cq.phaseBit cq.tail.toNat
      (slots sq.capacity sq.head sq.pending) ws) :
    ws.length = sq.pending ∧ ∀ j w, ws[j]? = some w → AbortedEntry mem q sq cq j w := by
  have hlen : ws.length = sq.pending := h.length_eq.trans (length_slots _ _ _)
  refine ⟨hlen, ?_⟩
  intro j w hw
  have hj : j < (slots sq.capacity sq.head sq.pending).length := by
    rw [length_slots, ← hlen]
    exact (List.getElem?_eq_some_iff.mp hw).1
  obtain ⟨w', hw', hat, hentry⟩ := h.entry j _ (List.getElem?_eq_getElem hj)
  obtain rfl : w = w' := Option.some.inj (hw.symm.trans hw')
  have hslot := slots_at (pos_of_lt hsq) (At.self hsq) (List.getElem?_eq_getElem hj)
  refine ⟨hat, ⟨_, hslot, by rw [hentry]; rfl⟩, by rw [hentry]; rfl, ?_, ?_, ?_⟩
  · rw [hentry]
    exact (makeAbortStatus_code _).1
  · rw [hentry]
    exact (makeAbortStatus_code _).2
  · rw [hentry]
    exact makeAbortStatus_phase _

/-! ## All queue pairs -/

/-- From `a` to `a'`, everything pending in the queues `qs` has been aborted and the other
queues have been left alone. -/
structure AbortedAll (qs : List Nat) (a a' : Aborting) : Prop where
  queue : ∀ q ∈ qs, QueueAborted (a.shm.sqMem q) q (a.shm.sq q) (a'.shm.sq q) (a.shm.cq q)
    (a'.shm.cq q) (a.shm.cqLog q) (a'.shm.cqLog q)
  other : ∀ q, q ∉ qs → a'.shm.sq q = a.shm.sq q ∧ a'.shm.cq q = a.shm.cq q ∧
    a'.shm.cqLog q = a.shm.cqLog q ∧ a'.pdo.cq q = a.pdo.cq q
  sqMem : a'.shm.sqMem = a.shm.sqMem
  pdoSq : a'.pdo.sq = a.pdo.sq
  count : a'.aborted =
    a.aborted + UInt32.ofNat (qs.map fun q => (a.shm.sq q).pending).sum

theorem AbortedAll.refl (a : Aborting) : AbortedAll [] a a where
  queue := by
    intro q hq
    cases hq
  other := fun _ _ => ⟨rfl, rfl, rfl, rfl⟩
  sqMem := rfl
  pdoSq := rfl
  count := (UInt32.add_zero _).symm

theorem AbortedAll.trans {qs rs : List Nat} {a b c : Aborting} (h : AbortedAll qs a b)
    (h' : AbortedAll rs b c) (hdis : ∀ q ∈ rs, q ∉ qs) : AbortedAll (qs ++ rs) a c := by
  refine ⟨?_, ?_, h'.sqMem.trans h.sqMem, h'.pdoSq.trans h.pdoSq, ?_⟩
  · intro q hq
    rcases List.mem_append.mp hq with hqs | hrs
    · obtain ⟨hsq, hcq, hlog, _⟩ := h'.other q fun hrs => hdis q hrs hqs
      rw [hsq, hcq, hlog]
      exact h.queue q hqs
    · obtain ⟨hsq, hcq, hlog, _⟩ := h.other q (hdis q hrs)
      rw [← hsq, ← hcq, ← hlog, ← h.sqMem]
      exact h'.queue q hrs
  · intro q hq
    rw [List.mem_append, not_or] at hq
    obtain ⟨hsq, hcq, hlog, hpdo⟩ := h.other q hq.1
    obtain ⟨hsq', hcq', hlog', hpdo'⟩ := h'.other q hq.2
    exact ⟨hsq'.trans hsq, hcq'.trans hcq, hlog'.trans hlog, hpdo'.trans hpdo⟩
  · have hmap : rs.map (fun q => (b.shm.sq q).pending) =
        rs.map fun q => (a.shm.sq q).pending := by
      apply List.map_congr_left
      intro q hq
      rw [(h.other q (hdis q hq)).1]
    rw [h'.count, h.count, hmap, List.map_append, List.sum_append, UInt32.ofNat_add,
      UInt32.add_assoc]

section Store

variable (a : Aborting) (q : Nat) (sync : AbortLoop → PdoContext) (r : UInt32 × AbortLoop)

@[simp] theorem abortStore_sq : (abortStore a q sync r).shm.sq =
    Function.update a.shm.sq q { a.shm.sq q with head := r.1 } := rfl

@[simp] theorem abortStore_cq : (abortStore a q sync r).shm.cq =
    Function.update a.shm.cq q ((a.shm.cq q).setTailPhase r.2.cqTail r.2.phase) := rfl

@[simp] theorem abortStore_cqLog : (abortStore a q sync r).shm.cqLog =
    Function.update a.shm.cqLog q r.2.log := rfl

end Store

/-- The walk over queue `q` ends and aborts exactly that queue. -/
theorem abortWalk_spec {fuel : Nat} {a : Aborting} {q : Nat} (slot : UInt32 → UInt32)
    (sync : AbortLoop → PdoContext) (hsq : (a.shm.sq q).InRange)
    (hcq : (a.shm.cq q).tail < (a.shm.cq q).capacity)
    (hslot : ∀ x, x < (a.shm.cq q).capacity → slot x = x)
    (hsync : ∀ r, (sync r).sq = a.pdo.sq ∧ ∀ p, p ≠ q → (sync r).cq p = a.pdo.cq p)
    (hfuel : (a.shm.sq q).pending < fuel) :
    ∃ a', abortWalk fuel a q (a.shm.cq q).capacity slot sync = some a' ∧
      AbortedAll [q] a a' := by
  have hc := pos_of_lt hcq
  let s : AbortLoop :=
    ⟨(a.shm.cq q).tail, (a.shm.cq q).phaseBit, a.shm.cqLog q, a.aborted⟩
  let r := (slots (a.shm.sq q).capacity (a.shm.sq q).head (a.shm.sq q).pending).foldl
    (abortStep (a.shm.sqMem q) (UInt16.ofNat q) (a.shm.cq q).capacity slot) s
  have hwalk : abortWalk fuel a q (a.shm.cq q).capacity slot sync =
      some (abortStore a q sync ((a.shm.sq q).tail, r)) :=
    congrArg (Option.map _) (walk_eq_foldl _ hsq.head_lt hsq.tail_lt hfuel s)
  obtain ⟨hin, hab, ws, hlog, hws⟩ := foldl_abortStep (a.shm.sqMem q) (UInt16.ofNat q) hc
    hslot (slots (a.shm.sq q).capacity (a.shm.sq q).head (a.shm.sq q).pending) (s := s)
    (InStep.start hcq)
  rw [length_slots] at hin hab
  refine ⟨_, hwalk, ?_, ?_, rfl, (hsync _).1, ?_⟩
  · intro p hp
    obtain rfl : p = q := List.mem_singleton.mp hp
    refine ⟨?_, ?_, ?_, ?_, ws, ?_, hws.entries hsq.head_lt⟩
    · rw [abortStore_sq, Function.update_self]
    · rw [abortStore_cq, Function.update_self]
      exact hin.at_tail
    · rw [abortStore_cq, Function.update_self, QueueDescriptor.setTailPhase_phaseBit]
      exact hin.phase_eq
    · rw [abortStore_cq, Function.update_self, QueueDescriptor.setTailPhase_capacity]
    · rw [abortStore_cqLog, Function.update_self]
      exact hlog
  · intro p hp
    have hne : p ≠ q := fun h => hp (List.mem_singleton.mpr h)
    exact ⟨by simp [hne], by simp [hne], by simp [hne], (hsync _).2 p hne⟩
  · rw [List.map_singleton, List.sum_singleton]
    exact hab

theorem AbortedAll.of_empty {a : Aborting} {q : Nat} (hsq : (a.shm.sq q).InRange)
    (hcq : (a.shm.cq q).tail < (a.shm.cq q).capacity)
    (h : (a.shm.sq q).head = (a.shm.sq q).tail) : AbortedAll [q] a a := by
  have hzero : (a.shm.sq q).pending = 0 := (dist_eq_zero hsq.head_lt hsq.tail_lt).mpr h
  refine ⟨?_, fun _ _ => ⟨rfl, rfl, rfl, rfl⟩, rfl, rfl, ?_⟩
  · intro p hp
    obtain rfl : p = q := List.mem_singleton.mp hp
    exact QueueAborted.of_empty hsq hcq h
  · rw [List.map_singleton, List.sum_singleton, hzero]
    exact (UInt32.add_zero _).symm

/-! ## The whole abort -/

/-- I/O queue `q` is one that the abort looks into. -/
def abortable (shm : Shm) (p : PdoContext) (q : Nat) : Bool :=
  (p.sq q).created && (shm.sq q).valid ≠ 0

/-- The queues that the abort empties: the admin queue and the created, valid I/O queues
among the first `IoQueueCount`. -/
def abortedQueues (shm : Shm) (p : PdoContext) : List Nat :=
  0 :: if shm.ioQueueDescriptorOffset ≠ 0 then
    ((List.range p.ioQueueCount.toNat).map (· + 1)).filter (abortable shm p)
  else []

theorem mem_abortedQueues_iff {shm : Shm} {p : PdoContext} {i : Nat} :
    i + 1 ∈ abortedQueues shm p ↔ shm.ioQueueDescriptorOffset ≠ 0 ∧
      i < p.ioQueueCount.toNat ∧ abortable shm p (i + 1) = true := by
  unfold abortedQueues
  split_ifs with hoff <;> simp [hoff]

theorem abortedQueues_congr {shm shm' : Shm} {p : PdoContext}
    (hvalid : ∀ q, (shm'.sq q).valid = (shm.sq q).valid)
    (hoff : shm'.ioQueueDescriptorOffset = shm.ioQueueDescriptorOffset) :
    abortedQueues shm' p = abortedQueues shm p := by
  have hsel : abortable shm' p = abortable shm p := by
    funext q
    rw [abortable, abortable, hvalid]
  rw [abortedQueues, abortedQueues, hsel, hoff]

/-- The rounds of the loop over the I/O queues. -/
def abortRounds (shm : Shm) (p : PdoContext) : List Nat :=
  if shm.ioQueueDescriptorOffset ≠ 0 then List.range p.ioQueueCount.toNat else []

theorem nodup_abortRounds (shm : Shm) (p : PdoContext) : (abortRounds shm p).Nodup := by
  unfold abortRounds
  split_ifs
  · exact List.nodup_range
  · exact List.nodup_nil

theorem mem_abortRounds_iff {shm : Shm} {p : PdoContext} {i : Nat} :
    (i ∈ abortRounds shm p ∧ abortable shm p (i + 1) = true) ↔ i + 1 ∈ abortedQueues shm p := by
  rw [mem_abortedQueues_iff, abortRounds]
  split_ifs with hoff <;> simp [hoff]

/-- The abort goes through the admin queue and then through the I/O queues. -/
theorem vnvmeAbortPendingUserCommands_eq {d : Driver} {shm : Shm} (hshm : d.shm = some shm)
    (fuel : Nat) :
    vnvmeAbortPendingUserCommands fuel d =
      (abortAdminQueue fuel { shm := shm, pdo := d.pdo }).bind fun a =>
        ((abortRounds shm d.pdo).foldlM (abortIoQueue fuel) a).map (abortFinish d) := by
  rw [vnvmeAbortPendingUserCommands, hshm]
  rfl

/-- The indices are below the capacities, the admin queues have one size, and the
completion queue next to each submission queue has slots. -/
structure AbortReady (shm : Shm) (p : PdoContext) : Prop where
  sq : ∀ q ∈ abortedQueues shm p, (shm.sq q).InRange
  cq : ∀ q ∈ abortedQueues shm p, (shm.cq q).tail < (shm.cq q).capacity
  admin : (shm.sq 0).capacity = (shm.cq 0).capacity

theorem abortAdminQueue_spec {fuel : Nat} {a : Aborting} (hsq : (a.shm.sq 0).InRange)
    (hcq : (a.shm.cq 0).tail < (a.shm.cq 0).capacity)
    (hcap : (a.shm.sq 0).capacity = (a.shm.cq 0).capacity)
    (hfuel : (a.shm.sq 0).pending < fuel) :
    ∃ a', abortAdminQueue fuel a = some a' ∧ AbortedAll [0] a a' := by
  by_cases hne : (a.shm.sq 0).head = (a.shm.sq 0).tail
  · refine ⟨a, if_neg fun h => h.1 hne, ?_⟩
    exact AbortedAll.of_empty hsq hcq hne
  · have hpos : (a.shm.sq 0).capacity > 0 := pos_of_lt hsq.head_lt
    obtain ⟨a', ha', hspec⟩ :=
      abortWalk_spec id (abortSyncAdmin a.pdo) (q := 0) hsq hcq (fun _ _ => rfl)
      (fun r => ⟨rfl, fun p hp => by simp [abortSyncAdmin, PdoContext.setCq, hp]⟩) hfuel
    rw [← hcap] at ha'
    exact ⟨a', (if_pos ⟨hne, hpos⟩).trans ha', hspec⟩

theorem abortIoQueue_spec {fuel : Nat} {a : Aborting} {i : Nat}
    (hsq : (a.shm.sq (i + 1)).InRange)
    (hcq : (a.shm.cq (i + 1)).tail < (a.shm.cq (i + 1)).capacity)
    (hsel : abortable a.shm a.pdo (i + 1) = true) (hfuel : (a.shm.sq (i + 1)).pending < fuel) :
    ∃ a', abortIoQueue fuel a i = some a' ∧ AbortedAll [i + 1] a a' := by
  have hsel' : ¬ (!(a.pdo.sq (i + 1)).created || (a.shm.sq (i + 1)).valid = 0) = true := by
    simpa [abortable] using hsel
  rw [abortIoQueue, if_neg hsel']
  by_cases hne : (a.shm.sq (i + 1)).head = (a.shm.sq (i + 1)).tail
  · exact ⟨a, if_pos (Or.inl hne), AbortedAll.of_empty hsq hcq hne⟩
  · have hpos : (a.shm.sq (i + 1)).capacity ≠ 0 := by
      intro h0
      have hlt := hsq.head_lt
      rw [h0] at hlt
      exact UInt32.not_lt_zero hlt
    rw [if_neg (not_or.mpr ⟨hne, hpos⟩)]
    refine abortWalk_spec _ _ hsq hcq ?_ ?_ hfuel
    · intro x hx
      exact UInt32.mod_eq_of_lt hx
    · exact fun r => ⟨rfl, fun p hp => by simp [abortSyncIo, PdoContext.setCq, hp]⟩

/-- The hypotheses of the walk over queue `q`. -/
structure AbortFit (fuel : Nat) (shm : Shm) (q : Nat) : Prop where
  sq : (shm.sq q).InRange
  cq : (shm.cq q).tail < (shm.cq q).capacity
  fuel : (shm.sq q).pending < fuel

section After

variable {qs : List Nat} {a b : Aborting}

theorem AbortFit.after {fuel q : Nat} (hf : AbortFit fuel a.shm q) (h : AbortedAll qs a b)
    (hq : q ∉ qs) : AbortFit fuel b.shm q := by
  obtain ⟨hsq, hcq, _⟩ := h.other q hq
  exact ⟨hsq ▸ hf.sq, hcq ▸ hf.cq, hsq ▸ hf.fuel⟩

/-- The queues still to come look the same as before. -/
theorem AbortedAll.filter_eq (h : AbortedAll qs a b) {rs : List Nat}
    (hdis : ∀ q ∈ rs, q ∉ qs) :
    rs.filter (abortable b.shm b.pdo) = rs.filter (abortable a.shm a.pdo) := by
  apply List.filter_congr
  intro q hq
  rw [abortable, abortable, h.pdoSq, (h.other q (hdis q hq)).1]

end After

theorem foldlM_abortIoQueue {fuel : Nat} {is : List Nat} :
    ∀ {a : Aborting}, is.Nodup →
      (∀ q ∈ (is.map (· + 1)).filter (abortable a.shm a.pdo), AbortFit fuel a.shm q) →
      ∃ a', is.foldlM (abortIoQueue fuel) a = some a' ∧
        AbortedAll ((is.map (· + 1)).filter (abortable a.shm a.pdo)) a a' := by
  induction is with
  | nil =>
      intro a _ _
      exact ⟨a, rfl, AbortedAll.refl a⟩
  | cons i is ih =>
      intro a hnodup hfit
      obtain ⟨hi, hnodup'⟩ := List.nodup_cons.mp hnodup
      rw [List.map_cons] at hfit ⊢
      by_cases hsel : abortable a.shm a.pdo (i + 1) = true
      · rw [List.filter_cons_of_pos hsel] at hfit ⊢
        have hhead := hfit (i + 1) List.mem_cons_self
        obtain ⟨b, hb, hab⟩ := abortIoQueue_spec hhead.sq hhead.cq hsel hhead.fuel
        have hne : ∀ q ∈ is.map (· + 1), q ∉ [i + 1] := by
          intro q hq hmem
          obtain ⟨j, hj, rfl⟩ := List.mem_map.mp hq
          obtain rfl : j = i := Nat.succ.inj (List.mem_singleton.mp hmem)
          exact hi hj
        have hfit' : ∀ q ∈ (is.map (· + 1)).filter (abortable b.shm b.pdo),
            AbortFit fuel b.shm q := by
          intro q hq
          refine AbortFit.after (hfit q ?_) hab (hne q (List.mem_of_mem_filter hq))
          rw [hab.filter_eq hne] at hq
          exact List.mem_cons_of_mem _ hq
        obtain ⟨c, hc, hbc⟩ := ih hnodup' hfit'
        rw [hab.filter_eq hne] at hbc
        refine ⟨c, ?_, hab.trans hbc fun q hq => hne q (List.mem_of_mem_filter hq)⟩
        rw [List.foldlM_cons, hb]
        exact hc
      · rw [List.filter_cons_of_neg hsel] at hfit ⊢
        obtain ⟨c, hc, hac⟩ := ih hnodup' hfit
        have hskip : abortIoQueue fuel a i = some a := by
          rw [abortIoQueue, if_pos]
          simpa [abortable, or_iff_not_imp_left] using hsel
        refine ⟨c, ?_, hac⟩
        rw [List.foldlM_cons, hskip]
        exact hc

/-- Everything the abort does to the queues. -/
theorem abort_spec {fuel : Nat} {d : Driver} {shm : Shm} (hshm : d.shm = some shm)
    (h : AbortReady shm d.pdo)
    (hfuel : ∀ q ∈ abortedQueues shm d.pdo, (shm.sq q).pending < fuel) :
    ∃ a, vnvmeAbortPendingUserCommands fuel d = some (abortFinish d a) ∧
      AbortedAll (abortedQueues shm d.pdo) { shm := shm, pdo := d.pdo } a := by
  have hfit : ∀ q ∈ abortedQueues shm d.pdo, AbortFit fuel shm q :=
    fun q hq => ⟨h.sq q hq, h.cq q hq, hfuel q hq⟩
  have h0 := hfit 0 List.mem_cons_self
  obtain ⟨b, hb, hab⟩ := abortAdminQueue_spec (a := { shm := shm, pdo := d.pdo })
    h0.sq h0.cq h.admin h0.fuel
  simp only [vnvmeAbortPendingUserCommands, hshm, hb, Option.bind_some]
  unfold abortedQueues at hfit ⊢
  by_cases hoff : shm.ioQueueDescriptorOffset ≠ 0
  · rw [if_pos hoff] at hfit ⊢
    rw [if_pos hoff]
    have hne : ∀ q ∈ (List.range d.pdo.ioQueueCount.toNat).map (· + 1), q ∉ [0] := by
      intro q hq hmem
      obtain ⟨j, _, rfl⟩ := List.mem_map.mp hq
      exact absurd (List.mem_singleton.mp hmem) (Nat.succ_ne_zero j)
    have hfit' : ∀ q ∈ ((List.range d.pdo.ioQueueCount.toNat).map (· + 1)).filter
        (abortable b.shm b.pdo), AbortFit fuel b.shm q := by
      intro q hq
      refine AbortFit.after (hfit q ?_) hab (hne q (List.mem_of_mem_filter hq))
      rw [hab.filter_eq hne] at hq
      exact List.mem_cons_of_mem _ hq
    obtain ⟨c, hc, hbc⟩ := foldlM_abortIoQueue List.nodup_range hfit'
    rw [hab.filter_eq hne] at hbc
    exact ⟨c, by rw [hc]; rfl, hab.trans hbc fun q hq => hne q (List.mem_of_mem_filter hq)⟩
  · rw [if_neg hoff, if_neg hoff]
    exact ⟨b, rfl, hab⟩

/-! ## What any abort leaves alone -/

/-- The abort of queue `q`, if it comes to an end, leaves the other queues alone. -/
structure AbortFrame (q : Nat) (a a' : Aborting) : Prop where
  sq : ∀ p, p ≠ q → a'.shm.sq p = a.shm.sq p
  cq : ∀ p, p ≠ q → a'.shm.cq p = a.shm.cq p
  cqLog : ∀ p, p ≠ q → a'.shm.cqLog p = a.shm.cqLog p
  pdoSq : a'.pdo.sq = a.pdo.sq

theorem AbortFrame.refl (q : Nat) (a : Aborting) : AbortFrame q a a :=
  ⟨fun _ _ => rfl, fun _ _ => rfl, fun _ _ => rfl, rfl⟩

theorem abortWalk_frame {fuel : Nat} {a a' : Aborting} {q : Nat} {c : UInt32}
    {slot : UInt32 → UInt32} (sync : AbortLoop → PdoContext)
    (hsync : ∀ r, (sync r).sq = a.pdo.sq) (h : abortWalk fuel a q c slot sync = some a') :
    AbortFrame q a a' := by
  obtain ⟨r, _, rfl⟩ := Option.map_eq_some_iff.mp h
  refine ⟨?_, ?_, ?_, hsync r.2⟩
  · intro p hp
    rw [abortStore_sq, Function.update_of_ne hp]
  · intro p hp
    rw [abortStore_cq, Function.update_of_ne hp]
  · intro p hp
    rw [abortStore_cqLog, Function.update_of_ne hp]

theorem abortAdminQueue_frame {fuel : Nat} {a a' : Aborting}
    (h : abortAdminQueue fuel a = some a') : AbortFrame 0 a a' := by
  simp only [abortAdminQueue] at h
  split_ifs at h
  · exact abortWalk_frame (abortSyncAdmin a.pdo) (fun _ => rfl) h
  · rw [← Option.some.inj h]
    exact AbortFrame.refl 0 a

theorem abortIoQueue_frame {fuel : Nat} {a a' : Aborting} {i : Nat}
    (h : abortIoQueue fuel a i = some a') : AbortFrame (i + 1) a a' := by
  simp only [abortIoQueue] at h
  split_ifs at h
  · rw [← Option.some.inj h]
    exact AbortFrame.refl _ a
  · rw [← Option.some.inj h]
    exact AbortFrame.refl _ a
  · exact abortWalk_frame (abortSyncIo a.pdo (i + 1)) (fun _ => rfl) h

/-! ## Fuel -/

theorem abortWalk_mono {fuel fuel' : Nat} (hle : fuel ≤ fuel') {a a' : Aborting} {q : Nat}
    {c : UInt32} {slot : UInt32 → UInt32} {sync : AbortLoop → PdoContext}
    (h : abortWalk fuel a q c slot sync = some a') :
    abortWalk fuel' a q c slot sync = some a' := by
  obtain ⟨r, hr, hr'⟩ := Option.map_eq_some_iff.mp h
  exact Option.map_eq_some_iff.mpr ⟨r, walk_mono (fun _ _ _ hb => hb) hle hr, hr'⟩

theorem abortAdminQueue_mono {fuel fuel' : Nat} (hle : fuel ≤ fuel') {a a' : Aborting}
    (h : abortAdminQueue fuel a = some a') : abortAdminQueue fuel' a = some a' := by
  simp only [abortAdminQueue] at h ⊢
  split_ifs at h ⊢
  · exact abortWalk_mono hle h
  · exact h

theorem abortIoQueue_mono {fuel fuel' : Nat} (hle : fuel ≤ fuel') {a a' : Aborting} {i : Nat}
    (h : abortIoQueue fuel a i = some a') : abortIoQueue fuel' a i = some a' := by
  simp only [abortIoQueue] at h ⊢
  split_ifs at h ⊢
  · exact h
  · exact h
  · exact abortWalk_mono hle h

theorem foldlM_abortIoQueue_mono {fuel fuel' : Nat} (hle : fuel ≤ fuel') {is : List Nat} :
    ∀ {a a' : Aborting}, is.foldlM (abortIoQueue fuel) a = some a' →
      is.foldlM (abortIoQueue fuel') a = some a' := by
  induction is with
  | nil =>
      intro a a' h
      exact h
  | cons i is ih =>
      intro a a' h
      rw [List.foldlM_cons] at h ⊢
      obtain ⟨b, hb, hrest⟩ := Option.bind_eq_some_iff.mp h
      exact Option.bind_eq_some_iff.mpr ⟨b, abortIoQueue_mono hle hb, ih hrest⟩

theorem abort_mono {fuel fuel' : Nat} (hle : fuel ≤ fuel') {d : Driver}
    {r : UInt32 × Driver} (h : vnvmeAbortPendingUserCommands fuel d = some r) :
    vnvmeAbortPendingUserCommands fuel' d = some r := by
  unfold vnvmeAbortPendingUserCommands at h ⊢
  split at h
  · exact h
  · obtain ⟨a, ha, hrest⟩ := Option.bind_eq_some_iff.mp h
    obtain ⟨b, hb, hr⟩ := Option.map_eq_some_iff.mp hrest
    refine Option.bind_eq_some_iff.mpr ⟨a, abortAdminQueue_mono hle ha, ?_⟩
    exact Option.map_eq_some_iff.mpr ⟨b, foldlM_abortIoQueue_mono hle hb, hr⟩

/-! ## The number of aborted commands -/

theorem length_abortedQueues_le (shm : Shm) (p : PdoContext) :
    (abortedQueues shm p).length ≤ 65536 := by
  have hcount : p.ioQueueCount.toNat < 65536 := p.ioQueueCount.toNat_lt
  unfold abortedQueues
  split
  · have := List.length_filter_le (abortable shm p)
      ((List.range p.ioQueueCount.toNat).map (· + 1))
    rw [List.length_map, List.length_range] at this
    rw [List.length_cons]
    omega
  · decide

/-- The 32-bit counter of the abort does not overflow: capacities are 16-bit values, and so
is the number of queues. -/
theorem pending_sum_lt {shm : Shm} {p : PdoContext} (h : AbortReady shm p) :
    ((abortedQueues shm p).map fun q => (shm.sq q).pending).sum < 2 ^ 32 := by
  have hle : ((abortedQueues shm p).map fun q => (shm.sq q).pending).sum ≤
      ((abortedQueues shm p).map fun q => (shm.sq q).pending).length • 65534 := by
    apply List.sum_le_card_nsmul
    intro n hn
    obtain ⟨q, hq, rfl⟩ := List.mem_map.mp hn
    have hcap : (shm.sq q).capacity.toNat ≤ 65535 := (shm.sq q).capacity_le
    have hlt : (shm.sq q).pending < (shm.sq q).capacity.toNat :=
      dist_lt (pos_of_lt (h.sq q hq).head_lt)
    omega
  have hlen := length_abortedQueues_le shm p
  rw [List.length_map, Nat.nsmul_eq_mul] at hle
  omega

/-- With enough fuel the abort ends. -/
theorem abort_runs {d : Driver} {shm : Shm} (hshm : d.shm = some shm)
    (h : AbortReady shm d.pdo) :
    ∃ (N : Nat) (a : Aborting),
      (∀ fuel, N ≤ fuel → vnvmeAbortPendingUserCommands fuel d = some (abortFinish d a)) ∧
      AbortedAll (abortedQueues shm d.pdo) { shm := shm, pdo := d.pdo } a := by
  have hfuel : ∀ q ∈ abortedQueues shm d.pdo, (shm.sq q).pending <
      ((abortedQueues shm d.pdo).map fun q => (shm.sq q).pending).sum + 1 := by
    intro q hq
    have := List.le_sum_of_mem (List.mem_map_of_mem hq (f := fun q => (shm.sq q).pending))
    omega
  obtain ⟨a, ha, hspec⟩ := abort_spec hshm h hfuel
  exact ⟨_, a, fun fuel hf => abort_mono hf ha, hspec⟩

/-- Two admin commands pending over the end of the ring, one I/O command, and a completion
queue that wraps in between. -/
def abortDriver : Driver :=
  { config := .allQueues
    shm := some { vnvmeAllocateShm with
      sq := fun q => if q = 0 then { QueueDescriptor.ofSize 64 with head := 63, tail := 1 }
        else { QueueDescriptor.ofSize 8 with valid := 1, head := 7, tail := 0 }
      cq := fun q => if q = 0 then { vnvmeAllocateShm.cq 0 with tail := 63 }
        else { QueueDescriptor.ofSize 4 with valid := 1, tail := 3 } }
    pdo := { ioQueueCount := 1, sq := fun _ => { created := true } } }

end VirtualNvme
