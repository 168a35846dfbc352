import VirtualNvme.Driver.CtrlDev
import VirtualNvme.Verification.Termination

/-!
# What an abort drains

`Abort.lean` says what the abort does when all indices are in order. Here nothing is
assumed of them: an abort that comes back has completed every command between the head and
the tail of every queue it looked into, wherever the head stood, and it comes back exactly
if it can reach every tail. The same holds for the loop over all controllers, which share
the queues in the memory: the first controller that looks into a queue drains it, and the
others find it empty.
-/

namespace VirtualNvme

open RingBuffer (path path_self walk_eq_some)

/-! ## One queue -/

/-- The slots of the commands that have been submitted and not yet taken. -/
def QueueDescriptor.pendingSlots (d : QueueDescriptor) : List UInt32 :=
  if d.capacity = 0 then [] else path d.capacity d.head d.tail

/-- `ws` completes the commands in the slots `is` of queue `q` with an internal error. -/
def AbortsSlots (mem : UInt32 → NvmeCommand) (q : Nat) (is : List UInt32) (ws : List CqWrite) :
    Prop :=
  List.Forall₂ (fun i w => ∃ phase, w.entry = abortEntry mem (UInt16.ofNat q) phase i) is ws

theorem abortsSlots_foldl (mem : UInt32 → NvmeCommand) (q : Nat) (c : UInt32)
    (slot : UInt32 → UInt32) (is : List UInt32) : ∀ s : AbortLoop,
      ∃ ws, (is.foldl (abortStep mem (UInt16.ofNat q) c slot) s).log = s.log ++ ws ∧
        AbortsSlots mem q is ws := by
  induction is with
  | nil =>
      intro s
      exact ⟨[], (List.append_nil _).symm, List.Forall₂.nil⟩
  | cons i is ih =>
      intro s
      obtain ⟨ws, hlog, hws⟩ := ih (abortStep mem (UInt16.ofNat q) c slot s i)
      refine ⟨⟨slot s.cqTail, abortEntry mem (UInt16.ofNat q) s.phase i⟩ :: ws, ?_, ?_⟩
      · rw [List.foldl_cons, hlog]
        exact List.append_assoc s.log [_] ws
      · exact List.Forall₂.cons ⟨s.phase, rfl⟩ hws

/-- Every pending command of queue `q` has been completed with an error, and the queue is
empty. -/
structure QueueDrained (shm shm' : Shm) (q : Nat) : Prop where
  sq : shm'.sq q =
    if (shm.sq q).capacity = 0 then shm.sq q else { shm.sq q with head := (shm.sq q).tail }
  completed : ∃ ws, shm'.cqLog q = shm.cqLog q ++ ws ∧
    AbortsSlots (shm.sqMem q) q (shm.sq q).pendingSlots ws

/-- Exactly the queues `qs` have been drained. -/
structure Drained (qs : List Nat) (shm shm' : Shm) : Prop where
  on : ∀ q ∈ qs, QueueDrained shm shm' q
  off : ∀ q, q ∉ qs → shm'.sq q = shm.sq q ∧ shm'.cqLog q = shm.cqLog q
  sqMem : shm'.sqMem = shm.sqMem
  offset : shm'.ioQueueDescriptorOffset = shm.ioQueueDescriptorOffset

theorem QueueDrained.capacity {shm shm' : Shm} {q : Nat} (h : QueueDrained shm shm' q) :
    (shm'.sq q).capacity = (shm.sq q).capacity := by
  rw [h.sq]
  split_ifs <;> rfl

theorem QueueDrained.valid {shm shm' : Shm} {q : Nat} (h : QueueDrained shm shm' q) :
    (shm'.sq q).valid = (shm.sq q).valid := by
  rw [h.sq]
  split_ifs <;> rfl

theorem QueueDrained.empty {shm shm' : Shm} {q : Nat} (h : QueueDrained shm shm' q)
    (hc : (shm'.sq q).capacity ≠ 0) : (shm'.sq q).head = (shm'.sq q).tail := by
  rw [h.capacity] at hc
  rw [h.sq, if_neg hc]

theorem QueueDescriptor.pendingSlots_of_empty {d : QueueDescriptor} (h : d.head = d.tail) :
    d.pendingSlots = [] := by
  unfold QueueDescriptor.pendingSlots
  split_ifs
  · rfl
  · rw [h, path_self]

/-- A queue with nothing pending is drained as it stands. -/
theorem QueueDrained.refl {shm : Shm} {q : Nat}
    (h : (shm.sq q).capacity ≠ 0 → (shm.sq q).head = (shm.sq q).tail) :
    QueueDrained shm shm q := by
  refine ⟨?_, [], (List.append_nil _).symm, ?_⟩
  · split_ifs with hc
    · rfl
    · rw [← h hc]
  · by_cases hc : (shm.sq q).capacity = 0
    · rw [QueueDescriptor.pendingSlots, if_pos hc]
      exact List.Forall₂.nil
    · rw [QueueDescriptor.pendingSlots_of_empty (h hc)]
      exact List.Forall₂.nil

theorem Drained.refl (shm : Shm) : Drained [] shm shm :=
  ⟨fun _ hq => absurd hq List.not_mem_nil, fun _ _ => ⟨rfl, rfl⟩, rfl, rfl⟩

theorem Drained.valid {qs : List Nat} {shm shm' : Shm} (h : Drained qs shm shm') (q : Nat) :
    (shm'.sq q).valid = (shm.sq q).valid := by
  by_cases hq : q ∈ qs
  · exact (h.on q hq).valid
  · rw [(h.off q hq).1]

/-- A queue that is drained twice is empty the second time. -/
theorem QueueDrained.again {a b c : Shm} {q : Nat} (hab : QueueDrained a b q)
    (hbc : QueueDrained b c q) : c.sq q = b.sq q ∧ c.cqLog q = b.cqLog q := by
  have hnone : (b.sq q).pendingSlots = [] := by
    by_cases hc : (b.sq q).capacity = 0
    · rw [QueueDescriptor.pendingSlots, if_pos hc]
    · exact QueueDescriptor.pendingSlots_of_empty (hab.empty hc)
  constructor
  · rw [hbc.sq]
    split_ifs with hc
    · rfl
    · rw [← hab.empty hc]
  · obtain ⟨ws, hlog, hws⟩ := hbc.completed
    rw [hnone] at hws
    cases hws
    rw [hlog, List.append_nil]

theorem Drained.trans {qs rs : List Nat} {a b c : Shm} (hab : Drained qs a b)
    (hbc : Drained rs b c) : Drained (qs ++ rs) a c := by
  refine ⟨?_, ?_, hbc.sqMem.trans hab.sqMem, hbc.offset.trans hab.offset⟩
  · intro q hq
    by_cases hqs : q ∈ qs
    · have hlast : c.sq q = b.sq q ∧ c.cqLog q = b.cqLog q := by
        by_cases hrs : q ∈ rs
        · exact (hab.on q hqs).again (hbc.on q hrs)
        · exact hbc.off q hrs
      refine ⟨hlast.1.trans (hab.on q hqs).sq, ?_⟩
      obtain ⟨ws, hlog, hws⟩ := (hab.on q hqs).completed
      exact ⟨ws, hlast.2.trans hlog, hws⟩
    · have hrs : q ∈ rs := (List.mem_append.mp hq).resolve_left hqs
      obtain ⟨hsq, ws, hlog, hws⟩ := hbc.on q hrs
      rw [(hab.off q hqs).1] at hsq hws
      rw [(hab.off q hqs).2] at hlog
      rw [hab.sqMem] at hws
      exact ⟨hsq, ws, hlog, hws⟩
  · intro q hq
    rw [List.mem_append, not_or] at hq
    exact ⟨(hbc.off q hq.2).1.trans (hab.off q hq.1).1,
      (hbc.off q hq.2).2.trans (hab.off q hq.1).2⟩

theorem abortWalk_drained {fuel : Nat} {a a' : Aborting} {q : Nat} {c : UInt32}
    {slot : UInt32 → UInt32} {sync : AbortLoop → PdoContext}
    (hc : (a.shm.sq q).capacity ≠ 0) (h : abortWalk fuel a q c slot sync = some a') :
    Drained [q] a.shm a'.shm := by
  obtain ⟨r, hr, rfl⟩ := Option.map_eq_some_iff.mp h
  obtain rfl := walk_eq_some (UInt32.pos_iff_ne_zero.mpr hc) hr
  refine ⟨?_, ?_, rfl, rfl⟩
  · intro p hp
    obtain rfl : p = q := List.mem_singleton.mp hp
    refine ⟨?_, ?_⟩
    · rw [abortStore_sq, Function.update_self, if_neg hc]
    · rw [abortStore_cqLog, Function.update_self, QueueDescriptor.pendingSlots, if_neg hc]
      exact abortsSlots_foldl _ _ _ _ _ _
  · intro p hp
    have hne : p ≠ q := fun heq => hp (List.mem_singleton.mpr heq)
    rw [abortStore_sq, abortStore_cqLog, Function.update_of_ne hne, Function.update_of_ne hne]
    exact ⟨rfl, rfl⟩

theorem Drained.of_empty {shm : Shm} {q : Nat}
    (h : (shm.sq q).capacity ≠ 0 → (shm.sq q).head = (shm.sq q).tail) :
    Drained [q] shm shm := by
  refine ⟨?_, fun _ _ => ⟨rfl, rfl⟩, rfl, rfl⟩
  intro p hp
  obtain rfl : p = q := List.mem_singleton.mp hp
  exact QueueDrained.refl h

theorem abortAdminQueue_drained {fuel : Nat} {a a' : Aborting}
    (h : abortAdminQueue fuel a = some a') : Drained [0] a.shm a'.shm := by
  simp only [abortAdminQueue] at h
  split_ifs at h with hcond
  · exact abortWalk_drained (UInt32.pos_iff_ne_zero.mp hcond.2) h
  · obtain rfl : a = a' := Option.some.inj h
    refine Drained.of_empty fun hc => ?_
    by_contra hne
    exact hcond ⟨hne, UInt32.pos_iff_ne_zero.mpr hc⟩

theorem abortIoQueue_drained {fuel : Nat} {a a' : Aborting} {i : Nat}
    (h : abortIoQueue fuel a i = some a') :
    Drained ([i + 1].filter (abortable a.shm a.pdo)) a.shm a'.shm := by
  by_cases hsel : abortable a.shm a.pdo (i + 1) = true
  · have hgo : ¬ (!(a.pdo.sq (i + 1)).created || (a.shm.sq (i + 1)).valid = 0) = true := by
      simpa [abortable] using hsel
    rw [List.filter_cons_of_pos hsel, List.filter_nil]
    simp only [abortIoQueue, if_neg hgo] at h
    split_ifs at h with hskip
    · obtain rfl : a = a' := Option.some.inj h
      exact Drained.of_empty fun hc => hskip.resolve_right hc
    · exact abortWalk_drained (not_or.mp hskip).2 h
  · have hskip : (!(a.pdo.sq (i + 1)).created || (a.shm.sq (i + 1)).valid = 0) = true := by
      simpa [abortable, or_iff_not_imp_left] using hsel
    simp only [abortIoQueue, if_pos hskip] at h
    obtain rfl : a = a' := Option.some.inj h
    rw [List.filter_cons_of_neg hsel, List.filter_nil]
    exact Drained.refl a.shm

theorem Drained.abortable {qs : List Nat} {a a' : Aborting} (h : Drained qs a.shm a'.shm)
    (hpdo : a'.pdo.sq = a.pdo.sq) : abortable a'.shm a'.pdo = abortable a.shm a.pdo := by
  funext q
  rw [VirtualNvme.abortable, VirtualNvme.abortable, h.valid, hpdo]

theorem foldlM_abortIoQueue_drained {fuel : Nat} (is : List Nat) : ∀ {a a' : Aborting},
    is.foldlM (abortIoQueue fuel) a = some a' →
      Drained ((is.map (· + 1)).filter (abortable a.shm a.pdo)) a.shm a'.shm := by
  induction is with
  | nil =>
      intro a a' h
      obtain rfl : a = a' := Option.some.inj h
      exact Drained.refl a.shm
  | cons i is ih =>
      intro a a' h
      rw [List.foldlM_cons] at h
      obtain ⟨b, hb, hrest⟩ := Option.bind_eq_some_iff.mp h
      have hfirst := abortIoQueue_drained hb
      have hnext := ih hrest
      rw [hfirst.abortable (abortIoQueue_frame hb).pdoSq] at hnext
      rw [List.map_cons, ← List.singleton_append, List.filter_append]
      exact hfirst.trans hnext

/-- **What an abort leaves behind.** If it comes back, it has drained the queues it looks
into, and changed nothing of the bus context but the error counter. -/
theorem abort_drained {fuel : Nat} {d : Driver} {shm : Shm} (hshm : d.shm = some shm)
    {r : UInt32 × Driver} (h : vnvmeAbortPendingUserCommands fuel d = some r) :
    ∃ shm', r.2.shm = some shm' ∧ Drained (abortedQueues shm d.pdo) shm shm' ∧
      ∃ n, r.2.fdo = { d.fdo with errorCount := n } := by
  rw [vnvmeAbortPendingUserCommands_eq hshm] at h
  obtain ⟨a, ha, hrest⟩ := Option.bind_eq_some_iff.mp h
  obtain ⟨b, hb, rfl⟩ := Option.map_eq_some_iff.mp hrest
  refine ⟨b.shm, rfl, ?_, ?_⟩
  · have hadmin := abortAdminQueue_drained ha
    have hio := foldlM_abortIoQueue_drained _ hb
    rw [hadmin.abortable (abortAdminQueue_frame ha).pdoSq] at hio
    have hqs : abortedQueues shm d.pdo =
        [0] ++ ((abortRounds shm d.pdo).map (· + 1)).filter (abortable shm d.pdo) := by
      unfold abortedQueues abortRounds
      split_ifs <;> rfl
    rw [hqs]
    exact hadmin.trans hio
  · simp only [abortFinish]
    split_ifs
    · exact ⟨_, rfl⟩
    · exact ⟨d.fdo.errorCount, rfl⟩

/-! ## All controllers -/

section Controllers

variable {fuel : Nat} {b : Bus}

/-- The queues that the aborts of all controllers look into. -/
def busQueues (shm : Shm) (ps : List PdoContext) : List Nat :=
  ps.flatMap (abortedQueues shm)

theorem busQueues_congr {qs : List Nat} {shm shm' : Shm} (h : Drained qs shm shm')
    (ps : List PdoContext) : busQueues shm' ps = busQueues shm ps := by
  unfold busQueues
  congr 1
  funext p
  exact abortedQueues_congr h.valid h.offset

theorem abortControllers_none (fdo : FdoContext) (ps : List PdoContext) :
    abortControllers fuel b fdo none ps = some (fdo, none, ps) := by
  induction ps with
  | nil => rfl
  | cons p ps ih =>
      have habort : vnvmeAbortPendingUserCommands fuel { b.driver fdo p with shm := none } =
        some (0, { b.driver fdo p with shm := none }) := rfl
      rw [abortControllers, habort, Option.bind_some]
      exact congrArg (Option.map _) ih

theorem abortControllers_drained (ps : List PdoContext) :
    ∀ {fdo : FdoContext} {shm : Shm} {r : FdoContext × Option Shm × List PdoContext},
      abortControllers fuel b fdo (some shm) ps = some r →
      ∃ shm', r.2.1 = some shm' ∧ Drained (busQueues shm ps) shm shm' ∧
        ∃ n, r.1 = { fdo with errorCount := n } := by
  induction ps with
  | nil =>
      intro fdo shm r h
      obtain rfl : (fdo, some shm, []) = r := Option.some.inj h
      exact ⟨shm, rfl, Drained.refl shm, fdo.errorCount, rfl⟩
  | cons p ps ih =>
      intro fdo shm r h
      obtain ⟨r1, hr1, hrest⟩ := Option.bind_eq_some_iff.mp h
      obtain ⟨r2, hr2, rfl⟩ := Option.map_eq_some_iff.mp hrest
      obtain ⟨shm1, hshm1, hdr1, n, hn⟩ := abort_drained rfl hr1
      rw [hshm1] at hr2
      obtain ⟨shm2, hshm2, hdr2, m, hm⟩ := ih hr2
      rw [busQueues_congr hdr1] at hdr2
      exact ⟨shm2, hshm2, hdr1.trans hdr2, m, by rw [hm, hn]; rfl⟩

theorem QueueDrained.drainable {shm shm' : Shm} {q : Nat} (h : QueueDrained shm shm' q) :
    (shm'.sq q).Drainable :=
  fun hc => Or.inl (h.empty hc)

/-- The loop over the controllers comes back if and only if every queue can be drained. -/
theorem abortControllers_returns_iff (hfuel : 0x10000 ≤ fuel) (ps : List PdoContext) :
    ∀ {fdo : FdoContext} {shm : Shm},
      (∃ r, abortControllers fuel b fdo (some shm) ps = some r) ↔
        ∀ q ∈ busQueues shm ps, (shm.sq q).Drainable := by
  induction ps with
  | nil =>
      intro fdo shm
      exact ⟨fun _ q hq => absurd hq List.not_mem_nil, fun _ => ⟨_, rfl⟩⟩
  | cons p ps ih =>
      intro fdo shm
      have hfirst := abort_returns_iff hfuel (d := { b.driver fdo p with shm := some shm }) rfl
      -- draining the queues of one controller makes no other queue drainable
      have hsame : ∀ {shm'}, Drained (abortedQueues shm p) shm shm' →
          (∀ q ∈ abortedQueues shm p, (shm.sq q).Drainable) →
          ((∀ q ∈ busQueues shm' ps, (shm'.sq q).Drainable) ↔
            ∀ q ∈ busQueues shm ps, (shm.sq q).Drainable) := by
        intro shm' hdr hall
        rw [busQueues_congr hdr]
        refine forall₂_congr fun q _ => ?_
        by_cases hq : q ∈ abortedQueues shm p
        · exact iff_of_true (hdr.on q hq).drainable (hall q hq)
        · rw [(hdr.off q hq).1]
      have hsplit : (∀ q ∈ busQueues shm (p :: ps), (shm.sq q).Drainable) ↔
          (∀ q ∈ abortedQueues shm p, (shm.sq q).Drainable) ∧
            ∀ q ∈ busQueues shm ps, (shm.sq q).Drainable :=
        List.forall_mem_append
      rw [hsplit]
      constructor
      · rintro ⟨r, h⟩
        obtain ⟨r1, hr1, hrest⟩ := Option.bind_eq_some_iff.mp h
        obtain ⟨r2, hr2, _⟩ := Option.map_eq_some_iff.mp hrest
        have hall := hfirst.mp ⟨r1, hr1⟩
        obtain ⟨shm1, hshm1, hdr1, _⟩ := abort_drained rfl hr1
        rw [hshm1] at hr2
        exact ⟨hall, (hsame hdr1 hall).mp (ih.mp ⟨r2, hr2⟩)⟩
      · rintro ⟨hall, hlater⟩
        obtain ⟨r1, hr1⟩ := hfirst.mpr hall
        obtain ⟨shm1, hshm1, hdr1, _⟩ := abort_drained rfl hr1
        have hrest : ∃ r, abortControllers fuel b r1.2.fdo (some shm1) ps = some r :=
          ih.mpr ((hsame hdr1 hall).mpr hlater)
        rw [← hshm1] at hrest
        obtain ⟨r2, hr2⟩ := hrest
        exact ⟨_, Option.bind_eq_some_iff.mpr ⟨r1, hr1, Option.map_eq_some_iff.mpr
          ⟨r2, hr2, rfl⟩⟩⟩

end Controllers

end VirtualNvme
