import VirtualNvme.Runs
import VirtualNvme.RingBuffer.Index
import VirtualNvme.Driver.UserForward
import VirtualNvme.Verification.SubmissionQueue

/-!
# Counting the completions of the server

The server appends completions to the shared completion queues and moves their tails.
`VnvmeProcessUserCompletions` compares them with the tails that it has seen last, and takes the
distance for the number of commands processed. As long as less than one lap is appended between
two calls this is the number of completions.
-/

namespace VirtualNvme

open RingBuffer Runs

/-! ## One queue -/

/-- The tail in the descriptor is `n` slots ahead of `tail`. -/
def CqBehind (cqDesc : QueueDescriptor) (tail : UInt32) (n : Nat) : Prop :=
  n = 0 ∧ cqDesc.tail = tail ∨
    tail < cqDesc.capacity ∧ cqDesc.tail < cqDesc.capacity ∧
      dist cqDesc.capacity tail cqDesc.tail = n

/-- The descriptor after one completion has been appended. -/
def QueueDescriptor.append (cqDesc : QueueDescriptor) : QueueDescriptor :=
  { cqDesc with tail := next cqDesc.capacity cqDesc.tail }

section OneQueue

variable {cqDesc : QueueDescriptor} {tail : UInt32} {n : Nat}

/-- The distance grows with each completion, short of a lap. -/
theorem CqBehind.append (h : CqBehind cqDesc tail n) (hin : cqDesc.tail < cqDesc.capacity)
    (hfewer : n + 1 < cqDesc.capacity.toNat) : CqBehind cqDesc.append tail (n + 1) := by
  obtain ⟨htail, hdist⟩ : tail < cqDesc.capacity ∧
      dist cqDesc.capacity tail cqDesc.tail = n := by
    rcases h with ⟨rfl, rfl⟩ | ⟨htail, -, hdist⟩
    · exact ⟨hin, dist_refl _ _⟩
    · exact ⟨htail, hdist⟩
  refine Or.inr ⟨htail, next_lt (pos_of_lt hin), ?_⟩
  have hround := dist_next_self hin
  refine (dist_next_right htail hin fun hmeets => ?_).trans (congrArg (· + 1) hdist)
  -- meeting the old tail again takes a whole lap
  rw [hmeets, hdist] at hround
  exact absurd hround hfewer.ne

theorem CqBehind.tail_eq_iff (h : CqBehind cqDesc tail n) : cqDesc.tail = tail ↔ n = 0 := by
  rcases h with ⟨hn, heq⟩ | ⟨htail, hin, hdist⟩
  · exact iff_of_true heq hn
  · rw [← hdist, dist_eq_zero htail hin]
    exact eq_comm

/-- The delta is the distance. -/
theorem CqBehind.delta (h : CqBehind cqDesc tail n) :
    completionDelta cqDesc tail = UInt64.ofNat n := by
  have hlt := cqDesc.capacity.toNat_lt
  unfold completionDelta
  dsimp only
  rcases h with ⟨rfl, rfl⟩ | ⟨htail, hin, hdist⟩
  · rw [if_pos (UInt32.le_refl _), UInt32.sub_self]
    rfl
  · have htail' : tail.toNat < cqDesc.capacity.toNat := htail
    have hin' : cqDesc.tail.toNat < cqDesc.capacity.toNat := hin
    apply UInt64.toNat_inj.mp
    rw [UInt32.toNat_toUInt64]
    rcases dist_cases htail hin with ⟨hle, heq⟩ | ⟨hgt, heq⟩
    · rw [if_pos (UInt32.le_iff_toNat_le.mpr hle), UInt32.toNat_sub_of_le _ _ hle,
        UInt64.toNat_ofNat_of_lt' (show n < 2 ^ 64 by omega)]
      omega
    · rw [if_neg fun hge => absurd (UInt32.le_iff_toNat_le.mp hge) (Nat.not_le.mpr hgt),
        UInt32.toNat_add, UInt32.toNat_sub_of_le _ _ (UInt32.le_of_lt htail),
        UInt64.toNat_ofNat_of_lt' (show n < 2 ^ 64 by omega), Nat.mod_eq_of_lt (by omega)]
      omega

end OneQueue

/-! ## One call -/

/-- The completion queues among the first `n` I/O queues. -/
def PdoContext.createdCqs (p : PdoContext) (n : Nat) : List Nat :=
  ((List.range n).map (· + 1)).filter fun q => (p.cq q).created

/-- The I/O completion queues that the call looks at. -/
def PdoContext.countedCqs (p : PdoContext) : List Nat := p.createdCqs p.ioQueueCount.toNat

/-- The controller after the call has looked at the admin queue, in which `n` completions
were. -/
def PdoContext.seeAdminTail (p : PdoContext) (shm : Shm) (n : Nat) : PdoContext :=
  { p.setCq 0 { p.cq 0 with tail := (shm.cq 0).tail } with
    adminCommandsProcessed := p.adminCommandsProcessed + UInt64.ofNat n }

/-- The controller after the call has looked at the queues `qs`, in which `n` completions were. -/
def PdoContext.seeIoTails (p : PdoContext) (shm : Shm) (qs : List Nat) (n : Nat) : PdoContext :=
  { p with
    cq := fun q => if q ∈ qs then { p.cq q with tail := (shm.cq q).tail } else p.cq q
    ioCommandsProcessed := p.ioCommandsProcessed + UInt64.ofNat n }

theorem PdoContext.seeAdminTail_created (p : PdoContext) (shm : Shm) (n q : Nat) :
    ((p.seeAdminTail shm n).cq q).created = (p.cq q).created := by
  unfold seeAdminTail setCq
  by_cases hq : q = 0
  · subst hq
    simp
  · simp [hq]

theorem PdoContext.seeIoTails_created (p : PdoContext) (shm : Shm) (qs : List Nat) (n q : Nat) :
    ((p.seeIoTails shm qs n).cq q).created = (p.cq q).created := by
  unfold seeIoTails
  by_cases hq : q ∈ qs
  · simp [hq]
  · simp [hq]

theorem PdoContext.createdCqs_succ (p : PdoContext) (n : Nat) :
    p.createdCqs (n + 1) = p.createdCqs n ++ if (p.cq (n + 1)).created then [n + 1] else [] := by
  unfold createdCqs
  rw [List.range_succ, List.map_append, List.filter_append]
  by_cases hcreated : (p.cq (n + 1)).created
  · simp [hcreated]
  · simp [hcreated]

theorem PdoContext.mem_createdCqs {p : PdoContext} {n q : Nat} :
    q ∈ p.createdCqs n ↔ (1 ≤ q ∧ q ≤ n) ∧ (p.cq q).created := by
  unfold createdCqs
  rw [List.mem_filter, List.mem_map]
  refine and_congr_left fun _ => ⟨?_, fun ⟨hpos, hle⟩ => ?_⟩
  · rintro ⟨i, hi, rfl⟩
    exact ⟨Nat.succ_pos i, List.mem_range.mp hi⟩
  · exact ⟨q - 1, List.mem_range.mpr (by omega), Nat.sub_add_cancel hpos⟩

section OneCall

variable {shm : Shm} {p : PdoContext} {count : Nat → Nat}

/-- A queue whose tail has not moved contributes nothing, so every queue is treated alike. -/
theorem CqBehind.processAdminCompletions (h : CqBehind (shm.cq 0) (p.cq 0).tail (count 0)) :
    processAdminCompletions shm p = p.seeAdminTail shm (count 0) := by
  unfold VirtualNvme.processAdminCompletions PdoContext.seeAdminTail
  rw [h.delta]
  by_cases hsame : (shm.cq 0).tail = (p.cq 0).tail
  · have hzero : count 0 = 0 := h.tail_eq_iff.mp hsame
    rw [if_neg (not_not.mpr hsame), hsame, hzero]
    have hcount : p.adminCommandsProcessed + UInt64.ofNat 0 = p.adminCommandsProcessed :=
      UInt64.add_zero _
    rw [hcount, PdoContext.setCq, Function.update_eq_self]
  · rw [if_pos hsame]

theorem CqBehind.processIoCompletions {i : Nat} (hcreated : (p.cq (i + 1)).created)
    (h : CqBehind (shm.cq (i + 1)) (p.cq (i + 1)).tail (count (i + 1))) :
    processIoCompletions shm p i =
      { p.setCq (i + 1) { p.cq (i + 1) with tail := (shm.cq (i + 1)).tail } with
        ioCommandsProcessed := p.ioCommandsProcessed + UInt64.ofNat (count (i + 1)) } := by
  unfold VirtualNvme.processIoCompletions
  dsimp only
  rw [h.delta, if_neg (by rw [hcreated]; decide)]
  by_cases hsame : (shm.cq (i + 1)).tail = (p.cq (i + 1)).tail
  · have hzero : count (i + 1) = 0 := h.tail_eq_iff.mp hsame
    have hcount : p.ioCommandsProcessed + UInt64.ofNat 0 = p.ioCommandsProcessed :=
      UInt64.add_zero _
    rw [if_neg (not_not.mpr hsame), hsame, hzero, hcount, PdoContext.setCq,
      Function.update_eq_self]
  · rw [if_pos hsame]

/-- One more queue is looked at. -/
theorem PdoContext.seeIoTails_concat {qs : List Nat} {q n m : Nat} (hq : q ∉ qs) :
    { (p.seeIoTails shm qs n).setCq q
          { (p.seeIoTails shm qs n).cq q with tail := (shm.cq q).tail } with
        ioCommandsProcessed :=
          (p.seeIoTails shm qs n).ioCommandsProcessed + UInt64.ofNat m } =
      p.seeIoTails shm (qs ++ [q]) (n + m) := by
  have hcq : Function.update (p.seeIoTails shm qs n).cq q
      { (p.seeIoTails shm qs n).cq q with tail := (shm.cq q).tail } =
      (p.seeIoTails shm (qs ++ [q]) (n + m)).cq := by
    funext j
    by_cases hj : j = q
    · subst hj
      simp [seeIoTails, hq]
    · simp [seeIoTails, hj]
  have hcount : p.ioCommandsProcessed + UInt64.ofNat n + UInt64.ofNat m =
      p.ioCommandsProcessed + UInt64.ofNat (n + m) := by
    rw [UInt64.ofNat_add, UInt64.add_assoc]
  unfold setCq
  rw [hcq]
  unfold seeIoTails
  dsimp only
  rw [hcount]

/-- The loop over the first `n` I/O queues. -/
theorem processIoCompletions_foldl {n : Nat}
    (h : ∀ q ∈ p.createdCqs n, CqBehind (shm.cq q) (p.cq q).tail (count q)) :
    (List.range n).foldl (processIoCompletions shm) p =
      p.seeIoTails shm (p.createdCqs n) ((p.createdCqs n).map count).sum := by
  induction n with
  | zero =>
      have hcount : p.ioCommandsProcessed + UInt64.ofNat 0 = p.ioCommandsProcessed :=
        UInt64.add_zero _
      show p = { p with ioCommandsProcessed := p.ioCommandsProcessed + UInt64.ofNat 0 }
      rw [hcount]
  | succ n ih =>
      have hsucc := p.createdCqs_succ n
      rw [List.range_succ, List.foldl_append,
        ih fun q hq => h q (hsucc ▸ List.mem_append_left _ hq)]
      -- the queues before this one have other ids
      have hnew : n + 1 ∉ p.createdCqs n := fun hmem =>
        absurd (PdoContext.mem_createdCqs.mp hmem).1.2 (Nat.not_succ_le_self n)
      have hcq : (p.seeIoTails shm (p.createdCqs n) ((p.createdCqs n).map count).sum).cq
          (n + 1) = p.cq (n + 1) := if_neg hnew
      by_cases hcreated : (p.cq (n + 1)).created
      · have hmem := PdoContext.mem_createdCqs.mpr ⟨⟨Nat.succ_pos n, le_rfl⟩, hcreated⟩
        have hbehind := h (n + 1) hmem
        rw [List.foldl_cons, List.foldl_nil, hsucc, if_pos hcreated, List.map_append,
          List.sum_append, ← PdoContext.seeIoTails_concat hnew]
        refine CqBehind.processIoCompletions (by rwa [hcq]) ?_
        rwa [hcq]
      · rw [List.foldl_cons, List.foldl_nil, hsucc, if_neg hcreated, List.append_nil]
        unfold processIoCompletions
        dsimp only
        rw [hcq, if_pos (by simpa using hcreated)]

end OneCall

/-! ## Histories -/

/-- The queue is one that the call looks at. -/
def PdoContext.LooksAt (p : PdoContext) (q : Nat) : Prop := q = 0 ∨ q ∈ p.countedCqs

/-- The driver, and how many completions have been appended to each queue since the last
call. -/
structure CompletionHistory where
  driver : Driver
  appended : Nat → Nat := fun _ => 0

/-- The server appends a completion, the driver looks at the completions, or something else
happens in the driver. -/
inductive CompletionEvent where
  | append (q : Nat)
  | process
  | other (d : Driver)

namespace CompletionHistory

/-- One event. A completion queue that did not exist before has no completions. -/
def step (s : CompletionHistory) : CompletionEvent → CompletionHistory
  | .append q =>
      { driver :=
          { s.driver with shm := s.driver.shm.map fun shm => shm.setCq q (shm.cq q).append }
        appended := Function.update s.appended q (s.appended q + 1) }
  | .process => { driver := (vnvmeProcessUserCompletions s.driver).2 }
  | .other d =>
      { driver := d
        appended := fun q =>
          if q = 0 ∨ (s.driver.pdo.cq q).created then s.appended q else 0 }

/-- The queues that the call looks at are as far behind as completions have been appended. -/
def Behind (s : CompletionHistory) : Prop :=
  ∃ shm, s.driver.shm = some shm ∧ shm.ioQueueDescriptorOffset ≠ 0 ∧
    ∀ q, s.driver.pdo.LooksAt q →
      CqBehind (shm.cq q) (s.driver.pdo.cq q).tail (s.appended q)

/-- Fewer than `Capacity` completions are appended between two calls. Whatever else happens in
the driver leaves the tails of the queues alone that are looked at; a queue that the call looks
at from now on has nothing in it that has not been seen. -/
def AppendsFewer (s : CompletionHistory) : CompletionEvent → Prop
  | .append q =>
      ∀ shm, s.driver.shm = some shm → (shm.cq q).tail < (shm.cq q).capacity ∧
        s.appended q + 1 < (shm.cq q).capacity.toNat
  | .process => True
  | .other d =>
      ∃ shm shm', s.driver.shm = some shm ∧ d.shm = some shm' ∧
        shm'.ioQueueDescriptorOffset ≠ 0 ∧
        ∀ q, d.pdo.LooksAt q →
          s.driver.pdo.LooksAt q ∧ (d.pdo.cq q).tail = (s.driver.pdo.cq q).tail ∧
              (shm'.cq q).tail = (shm.cq q).tail ∧ (shm'.cq q).capacity = (shm.cq q).capacity ∨
            (s.step (.other d)).appended q = 0 ∧ (shm'.cq q).tail = (d.pdo.cq q).tail

/-- The call counts what has been appended since the last one, and sees the tails. -/
def CountsExactly (s : CompletionHistory) : CompletionEvent → Prop
  | .process =>
      let r := vnvmeProcessUserCompletions s.driver
      r.1 = .success ∧
        r.2.pdo.adminCommandsProcessed =
          s.driver.pdo.adminCommandsProcessed + UInt64.ofNat (s.appended 0) ∧
        r.2.pdo.ioCommandsProcessed =
          s.driver.pdo.ioCommandsProcessed +
            UInt64.ofNat (s.driver.pdo.countedCqs.map s.appended).sum ∧
        ∀ shm, r.2.shm = some shm → ∀ q, s.driver.pdo.LooksAt q →
          (r.2.pdo.cq q).tail = (shm.cq q).tail
  | _ => True

theorem LooksAt_or_created {p : PdoContext} {q : Nat} (h : p.LooksAt q) :
    q = 0 ∨ (p.cq q).created :=
  h.imp_right fun hmem => (PdoContext.mem_createdCqs.mp hmem).2

/-- What the call does to a controller whose queues are as far behind as `count` says. -/
theorem vnvmeProcessUserCompletions_eq {d : Driver} {shm : Shm} {count : Nat → Nat}
    (hshm : d.shm = some shm) (hoff : shm.ioQueueDescriptorOffset ≠ 0)
    (h : ∀ q, d.pdo.LooksAt q → CqBehind (shm.cq q) (d.pdo.cq q).tail (count q)) :
    vnvmeProcessUserCompletions d =
      (.success,
        { d with
          pdo := (d.pdo.seeAdminTail shm (count 0)).seeIoTails shm d.pdo.countedCqs
            (d.pdo.countedCqs.map count).sum }) := by
  unfold vnvmeProcessUserCompletions
  rw [hshm]
  dsimp only
  rw [if_pos hoff, CqBehind.processAdminCompletions (h 0 (Or.inl rfl))]
  -- the admin queue is none of the queues of the loop
  have hcq (q : Nat) (hq : 1 ≤ q) : (d.pdo.seeAdminTail shm (count 0)).cq q = d.pdo.cq q :=
    Function.update_of_ne (Nat.one_le_iff_ne_zero.mp hq) _ _
  have hqueues : (d.pdo.seeAdminTail shm (count 0)).createdCqs d.pdo.ioQueueCount.toNat =
      d.pdo.countedCqs := by
    refine List.filter_congr fun q hq => ?_
    obtain ⟨i, -, rfl⟩ := List.mem_map.mp hq
    rw [hcq (i + 1) (Nat.succ_pos i)]
  have hbehind : ∀ q ∈ (d.pdo.seeAdminTail shm (count 0)).createdCqs d.pdo.ioQueueCount.toNat,
      CqBehind (shm.cq q) ((d.pdo.seeAdminTail shm (count 0)).cq q).tail (count q) := by
    intro q hq
    rw [hcq q (PdoContext.mem_createdCqs.mp hq).1.1]
    exact h q (Or.inr (hqueues ▸ hq))
  rw [processIoCompletions_foldl hbehind, hqueues]

/-- The tails after the call. -/
theorem vnvmeProcessUserCompletions_tail {d : Driver} {shm : Shm} {count : Nat → Nat}
    (hshm : d.shm = some shm) (hoff : shm.ioQueueDescriptorOffset ≠ 0)
    (h : ∀ q, d.pdo.LooksAt q → CqBehind (shm.cq q) (d.pdo.cq q).tail (count q)) {q : Nat}
    (hq : d.pdo.LooksAt q) :
    ((vnvmeProcessUserCompletions d).2.pdo.cq q).tail = (shm.cq q).tail := by
  rw [vnvmeProcessUserCompletions_eq hshm hoff h]
  rcases hq with rfl | hmem
  · have hzero : 0 ∉ d.pdo.countedCqs := fun hmem =>
      absurd (PdoContext.mem_createdCqs.mp hmem).1.1 (Nat.not_succ_le_zero 0)
    simp [PdoContext.seeIoTails, hzero, PdoContext.seeAdminTail, PdoContext.setCq]
  · simp [PdoContext.seeIoTails, hmem]

/-- The call does not create or delete a queue. -/
theorem vnvmeProcessUserCompletions_looksAt {d : Driver} {shm : Shm} {count : Nat → Nat}
    (hshm : d.shm = some shm) (hoff : shm.ioQueueDescriptorOffset ≠ 0)
    (h : ∀ q, d.pdo.LooksAt q → CqBehind (shm.cq q) (d.pdo.cq q).tail (count q)) {q : Nat} :
    (vnvmeProcessUserCompletions d).2.pdo.LooksAt q ↔ d.pdo.LooksAt q := by
  rw [vnvmeProcessUserCompletions_eq hshm hoff h]
  refine or_congr_right ?_
  unfold PdoContext.countedCqs
  rw [PdoContext.mem_createdCqs, PdoContext.mem_createdCqs, PdoContext.seeIoTails_created,
    PdoContext.seeAdminTail_created]
  rfl

/-- A queue that has been seen is not behind. -/
theorem step_behind {s : CompletionHistory} {e : CompletionEvent} (h : s.Behind)
    (hgood : s.AppendsFewer e) : (s.step e).Behind := by
  obtain ⟨shm, hshm, hoff, hbehind⟩ := h
  cases e with
  | append q =>
      obtain ⟨hin, hfewer⟩ := hgood shm hshm
      refine ⟨shm.setCq q (shm.cq q).append, by simp [step, hshm], hoff, fun j hj => ?_⟩
      by_cases hjq : j = q
      · subst hjq
        have := (hbehind j hj).append hin hfewer
        simpa [step, Shm.setCq] using this
      · simpa [step, Shm.setCq, hjq] using hbehind j hj
  | process =>
      refine ⟨shm, ?_, hoff, fun q hq => Or.inl ⟨rfl, ?_⟩⟩
      · show (vnvmeProcessUserCompletions s.driver).2.shm = some shm
        rw [vnvmeProcessUserCompletions_eq hshm hoff hbehind]
        exact hshm
      · have hq := (vnvmeProcessUserCompletions_looksAt hshm hoff hbehind).mp hq
        exact (vnvmeProcessUserCompletions_tail hshm hoff hbehind hq).symm
  | other d =>
      obtain ⟨shm₀, shm', hshm₀, hshm', hoff', hqueues⟩ := hgood
      obtain rfl : shm₀ = shm := Option.some.inj (hshm₀.symm.trans hshm)
      refine ⟨shm', hshm', hoff', fun q hq => ?_⟩
      rcases hqueues q hq with ⟨hbefore, hpdo, htail, hcap⟩ | ⟨hnone, htail⟩
      · have hkept : (s.step (.other d)).appended q = s.appended q :=
          if_pos (LooksAt_or_created hbefore)
        rw [hkept]
        simpa only [CqBehind, step, hpdo, htail, hcap] using hbehind q hbefore
      · rw [hnone]
        exact Or.inl ⟨rfl, htail⟩

theorem counts_of_behind {s : CompletionHistory} (h : s.Behind) (e : CompletionEvent) :
    s.CountsExactly e := by
  obtain ⟨shm, hshm, hoff, hbehind⟩ := h
  cases e with
  | append q => trivial
  | other d => trivial
  | process =>
      have heq := vnvmeProcessUserCompletions_eq hshm hoff hbehind
      refine ⟨by rw [heq], by rw [heq]; rfl, by rw [heq]; rfl, fun shm' hshm' q hq => ?_⟩
      have hsame : shm' = shm := by
        rw [heq] at hshm'
        exact Option.some.inj (hshm'.symm.trans hshm)
      rw [hsame]
      exact vnvmeProcessUserCompletions_tail hshm hoff hbehind hq

end CompletionHistory

end VirtualNvme
