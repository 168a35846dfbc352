import VirtualNvme.Driver.Doorbell
import VirtualNvme.Verification.Abort
import VirtualNvme.Verification.CommandFrame
import VirtualNvme.Verification.NotifyRing

/-!
# Do the ring walks end

A doorbell value is masked to 16 bits and otherwise taken as it is. Three kinds of loops
start from it. The kernel loops ask the descriptor before every command and stop when it
is empty, so they end for every value. The abort loops and the loop of the server only
compare an index that runs through the queue with the value, so they end exactly when the
value is a slot of the queue.
-/

namespace VirtualNvme

open RingBuffer

/-! ## The kernel loops -/

/-- Head and tail are slots of the queue, or there are no slots and the queue is empty. -/
def QueueDescriptor.Settled (d : QueueDescriptor) : Prop :=
  d.InRange ∨ (d.capacity = 0 ∧ d.head = d.tail)

/-- The number of commands in queue `q`. -/
def pendingIn (q : Nat) (d : Driver) : Nat :=
  (d.shm.map fun shm => (shm.sq q).pending).getD 0

/-- Queue `q` is settled, if there is shared memory at all. -/
def SettledIn (q : Nat) (d : Driver) : Prop :=
  ∀ shm, d.shm = some shm → (shm.sq q).Settled

/-- A fetch that succeeds takes one of the commands. -/
theorem pendingIn_fetch {d : Driver} {q : UInt16} (h : SettledIn q.toNat d)
    (hs : (vnvmeFetchCommand d q).1 = .success) {d' : Driver}
    (hd : d'.shm.map Shm.sq = (vnvmeFetchCommand d q).2.2.shm.map Shm.sq) :
    SettledIn q.toNat d' ∧ pendingIn q.toNat d' < pendingIn q.toNat d := by
  rcases vnvmeFetchCommand_cases d q with ⟨hne, _⟩ | ⟨shm, hok, hne, hf⟩
  · exact absurd hs hne
  · have hshm := (sqCheck_ok_iff.mp hok).1
    rw [hf] at hd
    obtain ⟨shm', hshm', hsq⟩ := Option.map_eq_some_iff.mp hd
    have hdesc : shm'.sq q.toNat = { shm.sq q.toNat with
        head := next (shm.sq q.toNat).capacity (shm.sq q.toNat).head } := by
      rw [hsq]
      exact Function.update_self _ _ _
    rcases h shm hshm with hin | ⟨_, heq⟩
    · have hpos := pos_of_lt hin.head_lt
      constructor
      · intro s hs'
        obtain rfl : shm' = s := Option.some.inj (hshm'.symm.trans hs')
        rw [hdesc]
        exact Or.inl ⟨next_lt hpos, hin.tail_lt⟩
      · have hd := dist_next hin.head_lt hin.tail_lt hne
        simp only [pendingIn, hshm, hshm', Option.map_some, Option.getD_some,
          QueueDescriptor.pending, hdesc]
        omega
    · exact absurd heq hne

/-- A loop that fetches from queue `q` in every round, and leaves the submission queues
alone otherwise, ends: the queue runs empty, if it is accepted at all. -/
theorem fetchLoop_ends {q : UInt16} {step : UInt32 × Driver → Option ((UInt32 × Driver) ⊕ Driver)}
    (hstep : ∀ s, (∃ r, step s = some (.inr r)) ∨
      ∃ head d', (vnvmeFetchCommand s.2 q).1 = .success ∧ step s = some (.inl (head, d')) ∧
        d'.shm.map Shm.sq = (vnvmeFetchCommand s.2 q).2.2.shm.map Shm.sq)
    {s : UInt32 × Driver}
    (h : SettledIn q.toNat s.2 ∨ (vnvmeFetchCommand s.2 q).1 ≠ .success) :
    ∃ fuel r, loop step fuel s = some r := by
  rcases h with hset | hrefused
  · refine ⟨pendingIn q.toNat s.2 + 1, loop_ends_of_measure
      (I := fun s => SettledIn q.toNat s.2) (fun s => pendingIn q.toNat s.2) ?_ hset
      (Nat.lt_succ_self _)⟩
    intro s hs
    rcases hstep s with hexit | ⟨head, d', hok, hround, hsq⟩
    · exact Or.inl hexit
    · obtain ⟨hset, hlt⟩ := pendingIn_fetch hs hok hsq
      exact Or.inr ⟨(head, d'), hround, hset, hlt⟩
  · rcases hstep s with ⟨r, hr⟩ | ⟨_, _, hok, _⟩
    · exact ⟨1, r, loop_inr hr 0⟩
    · exact absurd hok hrefused

theorem processIoStep_cases (q : UInt16) (size tail : UInt32) (s : UInt32 × Driver) :
    (∃ r, processIoStep q size tail s = some (.inr r)) ∨
      ∃ head d', (vnvmeFetchCommand s.2 q).1 = .success ∧
        processIoStep q size tail s = some (.inl (head, d')) ∧
        d'.shm.map Shm.sq = (vnvmeFetchCommand s.2 q).2.2.shm.map Shm.sq := by
  by_cases htail : s.1 = tail
  · exact Or.inl ⟨_, if_pos htail⟩
  · by_cases hok : (vnvmeFetchCommand s.2 q).1 = .success
    · refine Or.inr ⟨_, _, hok, (if_neg htail).trans (if_pos ?_), ?_⟩
      · rw [hok]
        rfl
      · exact vnvmeProcessIoCommand_kept vnvmePostCompletion_sq _ _ _
    · refine Or.inl ⟨_, (if_neg htail).trans (if_neg ?_)⟩
      simpa [NtStatus.ntSuccess] using hok

theorem processAdminStep_cases (size tail : UInt32) (s : UInt32 × Driver) :
    (∃ r, processAdminStep size tail s = some (.inr r)) ∨
      ∃ head d', (vnvmeFetchCommand s.2 0).1 = .success ∧
        processAdminStep size tail s = some (.inl (head, d')) ∧
        d'.shm.map Shm.sq = (vnvmeFetchCommand s.2 0).2.2.shm.map Shm.sq := by
  by_cases htail : s.1 = tail
  · exact Or.inl ⟨_, if_pos htail⟩
  · by_cases hok : (vnvmeFetchCommand s.2 0).1 = .success
    · refine Or.inr ⟨_, _, hok, (if_neg htail).trans (if_pos ?_), ?_⟩
      · rw [hok]
        rfl
      · exact vnvmeProcessAdminCommand_kept vnvmePostCompletion_sq _ _
    · refine Or.inl ⟨_, (if_neg htail).trans (if_neg ?_)⟩
      simpa [NtStatus.ntSuccess] using hok

theorem processAdminCommands_ends {d : Driver} (h : SettledIn 0 d) (tail : UInt32) :
    ∃ fuel d', vnvmeProcessAdminCommands fuel d tail = some d' := by
  obtain ⟨fuel, r, hr⟩ := fetchLoop_ends (q := 0)
    (processAdminStep_cases d.pdo.adminSqSize tail) (s := ((d.pdo.sq 0).head, d)) (Or.inl h)
  by_cases hz : d.pdo.adminSqSize = 0
  · exact ⟨fuel, d, if_pos hz⟩
  · exact ⟨fuel, r, (if_neg hz).trans hr⟩

theorem processIoCommands_ends {d : Driver} {q : UInt16}
    (h : q ≠ 0 → q ≤ d.pdo.ioQueueCount → (d.pdo.sq q.toNat).created = true →
      SettledIn q.toNat d ∨ (vnvmeFetchCommand d q).1 ≠ .success) (tail : UInt32) :
    ∃ fuel d', vnvmeProcessIoCommands fuel d q tail = some d' := by
  simp only [vnvmeProcessIoCommands]
  split_ifs with hid hst
  · exact ⟨0, d, rfl⟩
  · exact ⟨0, d, rfl⟩
  · rw [not_or] at hid hst
    have hc : (d.pdo.sq q.toNat).created = true := by simpa using hst.2
    exact fetchLoop_ends (processIoStep_cases q (d.pdo.sq q.toNat).size tail)
      (s := ((d.pdo.sq q.toNat).head, d)) (h hid.1 (UInt16.not_lt.mp hid.2) hc)

/-! ## The abort loops -/

/-- The tail of a queue is one the abort gets to: a slot of the queue, unless the queue has
none and is skipped. -/
def QueueDescriptor.Reachable (d : QueueDescriptor) : Prop :=
  d.capacity ≠ 0 → d.tail < d.capacity

theorem QueueDescriptor.Settled.reachable {d : QueueDescriptor} (h : d.Settled) :
    d.Reachable := by
  intro hc
  rcases h with hin | ⟨hz, _⟩
  · exact hin.tail_lt
  · exact absurd hz hc

/-- The head of a queue is a slot of it. -/
def QueueDescriptor.HeadOk (d : QueueDescriptor) : Prop :=
  d.capacity ≠ 0 → d.head < d.capacity

theorem QueueDescriptor.Settled.headOk {d : QueueDescriptor} (h : d.Settled) :
    d.HeadOk := by
  intro hc
  rcases h with hin | ⟨hz, _⟩
  · exact hin.head_lt
  · exact absurd hz hc

/-- The abort can empty the queue: it is empty already, or its tail is a slot of it. -/
def QueueDescriptor.Drainable (d : QueueDescriptor) : Prop :=
  d.capacity ≠ 0 → d.head = d.tail ∨ d.tail < d.capacity

theorem QueueDescriptor.HeadOk.drainable_iff {d : QueueDescriptor} (h : d.HeadOk) :
    d.Drainable ↔ d.Reachable := by
  constructor
  · intro hd hc
    rcases hd hc with heq | hlt
    · rw [← heq]
      exact h hc
    · exact hlt
  · intro hr hc
    exact Or.inr (hr hc)

theorem capacity_lt_of_le {fuel : Nat} (hfuel : 0x10000 ≤ fuel) (d : QueueDescriptor) :
    d.capacity.toNat < fuel := by
  have h : d.capacity.toNat ≤ 65535 := d.capacity_le
  omega

section AbortEnds

variable {fuel : Nat} (hfuel : 0x10000 ≤ fuel)

include hfuel

theorem abortWalk_ends_iff {a : Aborting} {q : Nat} {c : UInt32} {slot : UInt32 → UInt32}
    {sync : AbortLoop → PdoContext} (hc : (a.shm.sq q).capacity ≠ 0) :
    (∃ a', abortWalk fuel a q c slot sync = some a') ↔
      (a.shm.sq q).head = (a.shm.sq q).tail ∨ (a.shm.sq q).tail < (a.shm.sq q).capacity := by
  refine Iff.trans ?_ (walk_ends_iff
    (abortStep (a.shm.sqMem q) (UInt16.ofNat q) c slot) (UInt32.pos_iff_ne_zero.mpr hc)
    (capacity_lt_of_le hfuel (a.shm.sq q))
    ⟨(a.shm.cq q).tail, (a.shm.cq q).phaseBit, a.shm.cqLog q, a.aborted⟩)
  constructor
  · rintro ⟨a', h⟩
    obtain ⟨r, hr, _⟩ := Option.map_eq_some_iff.mp h
    exact ⟨r, hr⟩
  · rintro ⟨r, hr⟩
    exact ⟨_, Option.map_eq_some_iff.mpr ⟨r, hr, rfl⟩⟩

theorem abortAdminQueue_ends_iff (a : Aborting) :
    (∃ a', abortAdminQueue fuel a = some a') ↔ (a.shm.sq 0).Drainable := by
  by_cases hc : (a.shm.sq 0).capacity = 0
  · refine ⟨fun _ h => absurd hc h, fun _ => ⟨a, if_neg fun h => ?_⟩⟩
    exact absurd h.2 (by rw [hc]; exact UInt32.lt_irrefl 0)
  · by_cases heq : (a.shm.sq 0).head = (a.shm.sq 0).tail
    · exact ⟨fun _ _ => Or.inl heq, fun _ => ⟨a, if_neg fun h => h.1 heq⟩⟩
    · have hcond : (a.shm.sq 0).head ≠ (a.shm.sq 0).tail ∧ (a.shm.sq 0).capacity > 0 :=
        ⟨heq, UInt32.pos_iff_ne_zero.mpr hc⟩
      simp only [abortAdminQueue, if_pos hcond, abortWalk_ends_iff hfuel hc]
      exact ⟨fun h _ => h, fun h => h hc⟩

theorem abortIoQueue_ends_iff (a : Aborting) (i : Nat) :
    (∃ a', abortIoQueue fuel a i = some a') ↔
      (abortable a.shm a.pdo (i + 1) = true → (a.shm.sq (i + 1)).Drainable) := by
  by_cases hsel : abortable a.shm a.pdo (i + 1) = true
  · have hgo : ¬ (!(a.pdo.sq (i + 1)).created || (a.shm.sq (i + 1)).valid = 0) = true := by
      simpa [abortable] using hsel
    simp only [abortIoQueue, if_neg hgo, hsel, true_implies]
    by_cases hc : (a.shm.sq (i + 1)).capacity = 0
    · exact ⟨fun _ h => absurd hc h, fun _ => ⟨a, if_pos (Or.inr hc)⟩⟩
    · by_cases heq : (a.shm.sq (i + 1)).head = (a.shm.sq (i + 1)).tail
      · exact ⟨fun _ _ => Or.inl heq, fun _ => ⟨a, if_pos (Or.inl heq)⟩⟩
      · simp only [if_neg (not_or.mpr ⟨heq, hc⟩), abortWalk_ends_iff hfuel hc]
        exact ⟨fun h _ => h, fun h => h hc⟩
  · have hskip : (!(a.pdo.sq (i + 1)).created || (a.shm.sq (i + 1)).valid = 0) = true := by
      simpa [abortable, or_iff_not_imp_left] using hsel
    exact ⟨fun _ h => absurd h hsel, fun _ => ⟨a, if_pos hskip⟩⟩

omit hfuel in
theorem AbortFrame.abortable {q p : Nat} {a a' : Aborting} (h : AbortFrame q a a')
    (hp : p ≠ q) : abortable a'.shm a'.pdo p = abortable a.shm a.pdo p := by
  rw [VirtualNvme.abortable, VirtualNvme.abortable, h.pdoSq, h.sq p hp]

theorem foldlM_abortIoQueue_ends_iff {is : List Nat} : ∀ {a : Aborting}, is.Nodup →
    ((∃ a', is.foldlM (abortIoQueue fuel) a = some a') ↔
      ∀ i ∈ is, abortable a.shm a.pdo (i + 1) = true → (a.shm.sq (i + 1)).Drainable) := by
  induction is with
  | nil =>
      intro a _
      refine ⟨fun _ i hi => absurd hi List.not_mem_nil, fun _ => ⟨a, rfl⟩⟩
  | cons i is ih =>
      intro a hnodup
      obtain ⟨hi, hnodup'⟩ := List.nodup_cons.mp hnodup
      have hne : ∀ j ∈ is, j + 1 ≠ i + 1 := by
        rintro j hj hji
        obtain rfl : j = i := Nat.succ.inj hji
        exact hi hj
      -- what the first queue leaves behind is, for the others, the state it found
      have hrest : ∀ {b}, abortIoQueue fuel a i = some b →
          ((∃ a', is.foldlM (abortIoQueue fuel) b = some a') ↔ ∀ j ∈ is,
            abortable a.shm a.pdo (j + 1) = true → (a.shm.sq (j + 1)).Drainable) := by
        intro b hb
        have hframe := abortIoQueue_frame hb
        rw [ih hnodup']
        refine forall_congr' fun j => forall_congr' fun hj => ?_
        rw [hframe.abortable (hne j hj), hframe.sq _ (hne j hj)]
      rw [List.forall_mem_cons, ← abortIoQueue_ends_iff hfuel a i]
      constructor
      · rintro ⟨a', h⟩
        rw [List.foldlM_cons] at h
        obtain ⟨b, hb, hb'⟩ := Option.bind_eq_some_iff.mp h
        exact ⟨⟨b, hb⟩, (hrest hb).mp ⟨a', hb'⟩⟩
      · rintro ⟨⟨b, hb⟩, hdrain⟩
        obtain ⟨a', hb'⟩ := (hrest hb).mpr hdrain
        refine ⟨a', ?_⟩
        rw [List.foldlM_cons]
        exact Option.bind_eq_some_iff.mpr ⟨b, hb, hb'⟩

/-- The I/O queues after the admin queue, which leaves them as they were. -/
theorem abortRounds_end_iff {shm : Shm} {p : PdoContext} {b : Aborting}
    (hb : abortAdminQueue fuel { shm := shm, pdo := p } = some b) :
    (∃ a', (abortRounds shm p).foldlM (abortIoQueue fuel) b = some a') ↔
      ∀ i ∈ abortRounds shm p, abortable shm p (i + 1) = true → (shm.sq (i + 1)).Drainable := by
  have hframe := abortAdminQueue_frame hb
  rw [foldlM_abortIoQueue_ends_iff hfuel (nodup_abortRounds shm p)]
  refine forall_congr' fun i => forall_congr' fun _ => ?_
  rw [hframe.abortable (Nat.succ_ne_zero i), hframe.sq _ (Nat.succ_ne_zero i)]

omit hfuel in
theorem drainable_split (shm : Shm) (p : PdoContext) :
    (∀ q ∈ abortedQueues shm p, (shm.sq q).Drainable) ↔
      (shm.sq 0).Drainable ∧ ∀ i ∈ abortRounds shm p,
        abortable shm p (i + 1) = true → (shm.sq (i + 1)).Drainable := by
  constructor
  · intro h
    exact ⟨h 0 List.mem_cons_self, fun i hi hsel => h _ (mem_abortRounds_iff.mp ⟨hi, hsel⟩)⟩
  · rintro ⟨h0, hio⟩ q hq
    cases q with
    | zero => exact h0
    | succ i =>
        obtain ⟨hi, hsel⟩ := mem_abortRounds_iff.mpr hq
        exact hio i hi hsel

/-- **Termination of the abort.** A lap of fuel is enough for every queue: the abort ends if
and only if it can empty every queue it looks into. -/
theorem abort_returns_iff {d : Driver} {shm : Shm} (hshm : d.shm = some shm) :
    (∃ r, vnvmeAbortPendingUserCommands fuel d = some r) ↔
      ∀ q ∈ abortedQueues shm d.pdo, (shm.sq q).Drainable := by
  have hadmin := abortAdminQueue_ends_iff hfuel { shm := shm, pdo := d.pdo }
  rw [drainable_split, ← hadmin, vnvmeAbortPendingUserCommands_eq hshm]
  constructor
  · rintro ⟨r, h⟩
    obtain ⟨b, hb, hb'⟩ := Option.bind_eq_some_iff.mp h
    obtain ⟨c, hc, _⟩ := Option.map_eq_some_iff.mp hb'
    exact ⟨⟨b, hb⟩, (abortRounds_end_iff hfuel hb).mp ⟨c, hc⟩⟩
  · rintro ⟨⟨b, hb⟩, hdrain⟩
    obtain ⟨c, hc⟩ := (abortRounds_end_iff hfuel hb).mpr hdrain
    refine ⟨abortFinish d c, ?_⟩
    rw [hb, Option.bind_some, hc, Option.map_some]

end AbortEnds

/-- With every head in its queue, the abort ends if and only if the tail of every queue it
empties is a slot of that queue. -/
theorem abort_ends_iff {d : Driver} {shm : Shm} (hshm : d.shm = some shm)
    (hh : ∀ q ∈ abortedQueues shm d.pdo, (shm.sq q).HeadOk) :
    (∃ fuel r, vnvmeAbortPendingUserCommands fuel d = some r) ↔
      ∀ q ∈ abortedQueues shm d.pdo, (shm.sq q).Reachable := by
  have hdrain : (∀ q ∈ abortedQueues shm d.pdo, (shm.sq q).Drainable) ↔
      ∀ q ∈ abortedQueues shm d.pdo, (shm.sq q).Reachable :=
    forall₂_congr fun q hq => (hh q hq).drainable_iff
  rw [← hdrain]
  constructor
  · rintro ⟨fuel, r, h⟩
    exact (abort_returns_iff (Nat.le_max_right fuel 0x10000) hshm).mp
      ⟨r, abort_mono (Nat.le_max_left _ _) h⟩
  · intro h
    exact ⟨0x10000, (abort_returns_iff (Nat.le_refl _) hshm).mpr h⟩

/-! ## The loop of the server -/

/-- Slot `i` of the ring holds a notification that has not been handled. -/
def NotifyRing.Pending (ring : NotifyRing) (i : UInt32) : Prop :=
  i < ring.size ∧ dist ring.size ring.head i < dist ring.size ring.head ring.tail

/-- Every pending notification for the admin queue names a slot of it. -/
structure PollFit (s : Server) : Prop where
  ring_head : s.shm.notifyRing.head < s.shm.notifyRing.size
  ring_tail : s.shm.notifyRing.tail < s.shm.notifyRing.size
  admin_head : (s.shm.sq 0).head < (s.shm.sq 0).capacity
  notified : ∀ i, s.shm.notifyRing.Pending i → (s.shm.notifyRing.entries i).type = 0 →
    (s.shm.notifyRing.entries i).queueId = 0 →
      (s.shm.notifyRing.entries i).index < (s.shm.sq 0).capacity
  noDescriptors : NoDescriptors s.ctx.adminCtx

/-- What the loop over the notifications keeps. -/
structure PollKeeps (s : Server) (p : Polling) : Prop where
  ring : p.server.shm.notifyRing = s.shm.notifyRing
  capacity : (p.server.shm.sq 0).capacity = (s.shm.sq 0).capacity
  head_lt : (p.server.shm.sq 0).head < (s.shm.sq 0).capacity
  noDescriptors : NoDescriptors p.server.ctx.adminCtx

theorem pollAdminQueue_ends {fuel : Nat} (p : Polling) (index : UInt32)
    (hfuel : 65535 ≤ fuel) (hh : (p.server.shm.sq 0).head < (p.server.shm.sq 0).capacity)
    (hi : index < (p.server.shm.sq 0).capacity) :
    ∃ p', pollAdminQueue fuel p index = some p' := by
  have hlt := dist_lt (pos_of_lt hh) (i := (p.server.shm.sq 0).head) (j := index)
  have hcap : (p.server.shm.sq 0).capacity.toNat ≤ 65535 := (p.server.shm.sq 0).capacity_le
  exact ⟨_, congrArg (Option.map (storeHead 0))
    (walk_eq_foldl pollAdminCommand hh hi (by omega) p)⟩

/-- One notification comes back and keeps the invariant. -/
theorem PollKeeps.entry {s : Server} {p : Polling} (h : PollKeeps s p) {fuel : Nat}
    (hfuel : 65535 ≤ fuel) {e : NotifyEntry}
    (he : e.type = 0 → e.queueId = 0 → e.index < (s.shm.sq 0).capacity) :
    ∃ p', pollEntry fuel p e = some p' ∧ PollKeeps s p' := by
  unfold pollEntry
  split_ifs with htype hq
  · obtain ⟨p', hp'⟩ := pollAdminQueue_ends p e.index hfuel
      (by rw [h.capacity]; exact h.head_lt) (by rw [h.capacity]; exact he htype hq)
    obtain ⟨hpolled, hhead, _⟩ := pollAdminQueue_spec hp'
    obtain ⟨head, hdesc⟩ := hpolled.sq 0
    refine ⟨p', hp', hpolled.notifyRing.trans h.ring, ?_, ?_,
      pollAdminQueue_noDescriptors h.noDescriptors hp'⟩
    · rw [hdesc]
      exact h.capacity
    · rw [hhead]
      exact he htype hq
  · exact ⟨p, pollIoQueue_dropped h.noDescriptors, h⟩
  · exact ⟨p, rfl, h⟩

/-- The poll of the server ends. -/
theorem cmdEnginePoll_ends {s : Server} (h : PollFit s) :
    ∃ fuel r, cmdEnginePoll fuel s = some r := by
  refine ⟨2 ^ 32, ?_⟩
  unfold cmdEnginePoll
  split_ifs
  · have hstart : PollKeeps s { server := s } :=
      ⟨rfl, rfl, h.admin_head, h.noDescriptors⟩
    have hfuel : dist s.shm.notifyRing.size s.shm.notifyRing.head s.shm.notifyRing.tail <
        2 ^ 32 :=
      Nat.lt_trans (dist_lt (pos_of_lt h.ring_head)) s.shm.notifyRing.size.toNat_lt
    obtain ⟨r, hr⟩ := walk_ends (pollSlot (2 ^ 32)) (I := PollKeeps s) h.ring_tail
      h.ring_head hfuel
      (by
        intro i p hi hlt hp
        refine hp.entry (by decide) ?_
        rw [hp.ring]
        exact h.notified i ⟨hi, hlt⟩)
      hstart
    exact ⟨_, Option.map_eq_some_iff.mpr ⟨r, hr, rfl⟩⟩
  · exact ⟨_, rfl⟩

/-- Another notification for a slot of the queue, or for an I/O queue, does no harm. -/
theorem PollFit.push {ctx : CmdEngineContext} {shm : Shm} (h : PollFit ⟨ctx, shm⟩)
    {e : NotifyEntry} (he : e.queueId = 0 → e.index < (shm.sq 0).capacity) :
    PollFit ⟨ctx, (notifyRingPush shm e.queueId e.type e.index).2⟩ := by
  by_cases hoff : shm.notifyRingOffset = 0
  · rw [notifyRingPush, if_pos hoff]
    exact h
  rw [notifyRingPush_eq hoff]
  by_cases hfull : next shm.notifyRing.size shm.notifyRing.tail = shm.notifyRing.head
  · rw [push_full hfull]
    exact h
  rw [push_free hfull]
  have hpos := pos_of_lt h.ring_head
  refine ⟨h.ring_head, next_lt hpos, h.admin_head, ?_, h.noDescriptors⟩
  rintro i ⟨hi, hlt⟩
  have hd := dist_next_right h.ring_head h.ring_tail hfull
  by_cases hit : i = shm.notifyRing.tail
  · subst hit
    simp only [Function.update_self]
    exact fun _ => he
  · -- the slot was pending before
    have hne : dist shm.notifyRing.size shm.notifyRing.head i ≠
        dist shm.notifyRing.size shm.notifyRing.head shm.notifyRing.tail :=
      fun heq => hit (dist_inj h.ring_head hi h.ring_tail heq)
    simp only [Function.update_of_ne hit]
    refine h.notified i ⟨hi, ?_⟩
    simp only at hlt hd ⊢
    omega

/-! ## One doorbell value -/

/-- What `VnvmeProcessDoorbells` does with a new tail in user mode. -/
def handTail (d : Driver) (q : UInt16) (tail : UInt32) : Driver :=
  if q = 0 then vnvmeForwardAdminCommandsToUser d tail
  else vnvmeForwardIoCommandsToUser d q tail

/-- A tail is dropped, or it is stored and notified. -/
theorem handTail_cases {d : Driver} {shm : Shm} (hshm : d.shm = some shm) {q : UInt16}
    (hq : q ≤ 16) (tail : UInt32) :
    (handTail d q tail = d ∧
        (d.fdo.userReady = true → q.toNat ∉ abortedQueues shm d.pdo)) ∨
      (d.fdo.userReady = true ∧ handTail d q tail = forwardTail d shm q tail) := by
  by_cases h0 : q = 0
  · subst h0
    rw [handTail, if_pos rfl, vnvmeForwardAdminCommandsToUser_eq hshm]
    split_ifs with hready
    · exact Or.inr ⟨hready, rfl⟩
    · exact Or.inl ⟨rfl, fun h => absurd h hready⟩
  · rw [handTail, if_neg h0, vnvmeForwardIoCommandsToUser_eq hshm]
    split_ifs with hgo
    · exact Or.inr ⟨hgo.1, rfl⟩
    · refine Or.inl ⟨rfl, fun hready hmem => hgo ⟨hready, h0, hq, ?_⟩⟩
      have hne : q.toNat ≠ 0 := fun h => h0 (UInt16.toNat_inj.mp h)
      obtain ⟨i, hi⟩ := Nat.exists_eq_succ_of_ne_zero hne
      rw [hi] at hmem
      exact (mem_abortedQueues_iff.mp hmem).1

/-- The state in which a doorbell value arrives: every queue the abort looks into is in
order, the ring is, and the notifications in it name slots of the admin queue. -/
structure WalksReady (d : Driver) (shm : Shm) (ctx : CmdEngineContext) : Prop where
  shm_eq : d.shm = some shm
  settled : ∀ q ∈ abortedQueues shm d.pdo, (shm.sq q).Settled
  poll : PollFit ⟨ctx, shm⟩

/-- The walks that start from a tail: the kernel loops on it, the abort after it has been
forwarded, and the server's poll after it has been forwarded. -/
structure WalksEnd (d : Driver) (ctx : CmdEngineContext) (q : UInt16) (tail : UInt32) :
    Prop where
  admin : q = 0 → ∃ fuel d', vnvmeProcessAdminCommands fuel d tail = some d'
  io : q ≠ 0 → ∃ fuel d', vnvmeProcessIoCommands fuel d q tail = some d'
  abort : ∃ fuel r, vnvmeAbortPendingUserCommands fuel (handTail d q tail) = some r
  server : ∀ shm, (handTail d q tail).shm = some shm →
    ∃ fuel r, cmdEnginePoll fuel ⟨ctx, shm⟩ = some r

section Ready

variable {d : Driver} {shm : Shm} {ctx : CmdEngineContext}

theorem WalksReady.settledIn (h : WalksReady d shm ctx) {q : Nat}
    (hq : q ∈ abortedQueues shm d.pdo) : SettledIn q d := by
  intro s hs
  obtain rfl : shm = s := Option.some.inj (h.shm_eq.symm.trans hs)
  exact h.settled q hq

/-- The kernel loops end, whatever the host has written. -/
theorem WalksReady.kernel (h : WalksReady d shm ctx) (q : UInt16) (tail : UInt32) :
    (∃ fuel d', vnvmeProcessAdminCommands fuel d tail = some d') ∧
      ∃ fuel d', vnvmeProcessIoCommands fuel d q tail = some d' := by
  refine ⟨processAdminCommands_ends (h.settledIn List.mem_cons_self) tail,
    processIoCommands_ends ?_ tail⟩
  intro hne hcount hcreated
  by_cases hmem : q.toNat ∈ abortedQueues shm d.pdo
  · exact Or.inl (h.settledIn hmem)
  -- a queue that the abort passes over is one that the fetch refuses
  refine Or.inr fun hs => hmem ?_
  rcases vnvmeFetchCommand_cases d q with ⟨hs', _⟩ | ⟨shm', hok, _, _⟩
  · exact absurd hs hs'
  · obtain ⟨hshm, hio, hvalid⟩ := sqCheck_ok_iff.mp hok
    obtain rfl : shm = shm' := Option.some.inj (h.shm_eq.symm.trans hshm)
    have hq0 : q.toNat ≠ 0 := fun hz => hne (UInt16.toNat_inj.mp hz)
    have hle : q.toNat ≤ d.pdo.ioQueueCount.toNat := hcount
    obtain ⟨i, hi⟩ := Nat.exists_eq_succ_of_ne_zero hq0
    rw [hi] at hcreated hvalid hle ⊢
    refine mem_abortedQueues_iff.mpr ⟨(hio hne).2.2, hle, ?_⟩
    simp only [abortable, hcreated, Bool.true_and, decide_eq_true_eq]
    exact hvalid

/-- The abort and the poll end in the state before the value arrives. -/
theorem WalksReady.abort (h : WalksReady d shm ctx) :
    ∃ fuel r, vnvmeAbortPendingUserCommands fuel d = some r :=
  (abort_ends_iff h.shm_eq fun q hq => (h.settled q hq).headOk).mpr
    fun q hq => (h.settled q hq).reachable

/-- A tail in a descriptor does not change which queues the abort looks into. -/
theorem abortedQueues_setTail (shm : Shm) (ring : NotifyRing) (p : PdoContext) (q : Nat)
    (tail : UInt32) :
    abortedQueues { shm.setSq q { shm.sq q with tail := tail } with notifyRing := ring } p =
      abortedQueues shm p := by
  refine abortedQueues_congr (fun i => ?_) rfl
  by_cases hi : i = q
  · simp only [Shm.setSq, hi, Function.update_self]
  · simp only [Shm.setSq, Function.update_of_ne hi]

/-- The abort after a value has been stored in the descriptor of queue `q`. -/
theorem WalksReady.abort_forwarded (h : WalksReady d shm ctx) (q : UInt16) (tail : UInt32) :
    (∃ fuel r, vnvmeAbortPendingUserCommands fuel (forwardTail d shm q tail) = some r) ↔
      (q.toNat ∈ abortedQueues shm d.pdo → (shm.sq q.toNat).capacity ≠ 0 →
        tail < (shm.sq q.toNat).capacity) := by
  obtain ⟨ring, heq⟩ := forwardTail_eq d shm q tail
  rw [heq, abort_ends_iff rfl]
  · rw [abortedQueues_setTail]
    constructor
    · intro hall hmem
      have hreach := hall q.toNat hmem
      simp only [Shm.setSq, Function.update_self] at hreach
      exact hreach
    · intro hone p hp
      by_cases hpq : p = q.toNat
      · subst hpq
        simp only [Shm.setSq, Function.update_self]
        exact hone hp
      · simp only [Shm.setSq, Function.update_of_ne hpq]
        exact (h.settled p hp).reachable
  · rw [abortedQueues_setTail]
    intro p hp
    by_cases hpq : p = q.toNat
    · subst hpq
      simp only [Shm.setSq, Function.update_self]
      exact (h.settled _ hp).headOk
    · simp only [Shm.setSq, Function.update_of_ne hpq]
      exact (h.settled p hp).headOk

theorem WalksReady.poll_forwarded (h : WalksReady d shm ctx) {q : UInt16} {tail : UInt32}
    (htail : q = 0 → tail < (shm.sq 0).capacity) :
    ∃ fuel r, cmdEnginePoll fuel ⟨ctx, (notifyRingPush
      (shm.setSq q.toNat { shm.sq q.toNat with tail := tail }) q 0 tail).2⟩ = some r := by
  have hdesc : ((shm.setSq q.toNat { shm.sq q.toNat with tail := tail }).sq 0).capacity =
      (shm.sq 0).capacity ∧
      ((shm.setSq q.toNat { shm.sq q.toNat with tail := tail }).sq 0).head =
        (shm.sq 0).head := by
    by_cases hq : q.toNat = 0
    · simp [Shm.setSq, hq]
    · simp [Shm.setSq, Function.update_of_ne (Ne.symm hq)]
  have hfit : PollFit ⟨ctx, shm.setSq q.toNat { shm.sq q.toNat with tail := tail }⟩ := by
    refine ⟨h.poll.ring_head, h.poll.ring_tail, ?_, ?_, h.poll.noDescriptors⟩
    · show ((shm.setSq q.toNat _).sq 0).head < ((shm.setSq q.toNat _).sq 0).capacity
      rw [hdesc.1, hdesc.2]
      exact h.poll.admin_head
    · intro i hi htype hqid
      show _ < ((shm.setSq q.toNat _).sq 0).capacity
      rw [hdesc.1]
      exact h.poll.notified i hi htype hqid
  refine cmdEnginePoll_ends (hfit.push (e := ⟨q, 0, tail⟩) ?_)
  intro hq
  rw [hdesc.1]
  exact htail hq

end Ready

/-- An enabled controller with a ready server, and `v` in the admin doorbell. -/
def rungDriver (v : UInt32) : Driver :=
  { config := .allQueues
    fdo := { userReady := true }
    shm := some vnvmeAllocateShm
    pdo := { cachedCC := 1, bar0 := some { cc := 1, csts := 1, doorbells := fun _ => v } } }

theorem rungDriver_ready (v : UInt32) :
    WalksReady (rungDriver v) vnvmeAllocateShm startedEngine where
  shm_eq := rfl
  settled := by
    intro q hq
    have hq0 : q = 0 := by simpa [abortedQueues, rungDriver] using hq
    rw [hq0]
    exact Or.inl ⟨by decide, by decide⟩
  poll :=
    { ring_head := by decide
      ring_tail := by decide
      admin_head := by decide
      notified := by
        rintro i ⟨_, hlt⟩
        rw [show dist vnvmeAllocateShm.notifyRing.size vnvmeAllocateShm.notifyRing.head
          vnvmeAllocateShm.notifyRing.tail = 0 from by decide] at hlt
        exact absurd hlt (Nat.not_lt_zero _)
      noDescriptors := cmdEngineInitAdmin_noDescriptors _ _ _ }

/-- The shared memory after tail 100 has been forwarded. -/
def runawayShm : Shm :=
  (notifyRingPush (vnvmeAllocateShm.setSq 0 { vnvmeAllocateShm.sq 0 with tail := 100 }) 0 0
    100).2

/-- The driver after it has seen 100 in the admin doorbell. -/
def runawayDriver : Driver :=
  { rungDriver 100 with
    fdo := { userReady := true, commandReadyEvent := true }
    shm := some runawayShm
    pdo := { (rungDriver 100).pdo with lastAdminSqTail := 100, lastAdminCqHead := 100 } }

end VirtualNvme
