import VirtualNvme.RingBuffer.Phase
import VirtualNvme.Verification.QueueChecks

/-!
# Completion queues filled by the kernel

Posting one completion and posting a batch have the same effect on an accepted queue:
the loop of the batch over the completions (`applyPosts`). Everything below is about
that one function, and then about runs of both routines in any order.
-/

namespace VirtualNvme

open RingBuffer

/-! ## The stored entry -/

theorem uint16_or_and (a b m : UInt16) : (a ||| b) &&& m = (a &&& m) ||| (b &&& m) :=
  UInt16.toBitVec_inj.mp BitVec.and_or_distrib_right

theorem withPhase_status_high (c : NvmeCompletion) (p : Bool) :
    (withPhase c p).status &&& 0xFFFE = c.status &&& 0xFFFE := by
  show ((c.status &&& 0xFFFE) ||| (if p then 1 else 0)) &&& 0xFFFE = c.status &&& 0xFFFE
  rw [uint16_or_and, UInt16.and_assoc]
  cases p <;> exact UInt16.or_zero

theorem withPhase_phase (c : NvmeCompletion) (p : Bool) :
    nvmeStatusP (withPhase c p).status = if p then 1 else 0 := by
  show ((c.status &&& 0xFFFE) ||| (if p then 1 else 0)) &&& 0x0001 = if p then 1 else 0
  rw [uint16_or_and, UInt16.and_assoc, show (0xFFFE &&& 0x0001 : UInt16) = 0 from rfl,
    UInt16.and_zero, UInt16.zero_or]
  cases p <;> rfl

/-! ## The effect of an accepted post -/

/-- The driver after the loop of `VnvmePostCompletionBatch` has stored `cs` in queue `q`. -/
def applyPosts (d : Driver) (shm : Shm) (q : Nat) (cs : List NvmeCompletion) : Driver :=
  let r := cs.foldl (postBatchStep (shm.cq q).capacity)
    ⟨(shm.cq q).tail, (d.pdo.cq q).phaseTag, (shm.cq q).phaseBit, shm.cqLog q⟩
  { d with
    shm := some { shm.setCq q ((shm.cq q).setTailPhase r.tail r.descPhase) with
      cqLog := Function.update shm.cqLog q r.log
      completionsPosted := shm.completionsPosted + UInt64.ofNat cs.length }
    pdo := d.pdo.setCq q { d.pdo.cq q with tail := r.tail, phaseTag := r.phase } }

theorem vnvmePostCompletion_error {d : Driver} {q : UInt16} {e : NtStatus}
    (h : cqCheck d q = .error e) (c : NvmeCompletion) :
    vnvmePostCompletion d q c = (e, d) := by
  rw [vnvmePostCompletion, h]

theorem vnvmePostCompletion_ok {d : Driver} {q : UInt16} {shm : Shm}
    (h : cqCheck d q = .ok shm) (c : NvmeCompletion) :
    vnvmePostCompletion d q c = (.success, applyPosts d shm q.toNat [c]) := by
  rw [vnvmePostCompletion, h]
  rfl

/-- A completion is refused and nothing changes, or it is stored. -/
theorem vnvmePostCompletion_cases (d : Driver) (q : UInt16) (c : NvmeCompletion) :
    ((vnvmePostCompletion d q c).1 ≠ .success ∧ (vnvmePostCompletion d q c).2 = d) ∨
      ∃ shm, cqCheck d q = .ok shm ∧
        vnvmePostCompletion d q c = (.success, applyPosts d shm q.toNat [c]) := by
  cases hc : cqCheck d q with
  | error e =>
      rw [vnvmePostCompletion_error hc]
      exact Or.inl ⟨cqCheck_error hc, rfl⟩
  | ok shm => exact Or.inr ⟨shm, rfl, vnvmePostCompletion_ok hc c⟩

theorem vnvmePostCompletion_accepts_iff {d : Driver} {q : UInt16} {c : NvmeCompletion} :
    (vnvmePostCompletion d q c).1 = .success ↔ ∃ shm, cqCheck d q = .ok shm := by
  cases hc : cqCheck d q with
  | error e => simp [vnvmePostCompletion_error hc, cqCheck_error hc]
  | ok shm => simp [vnvmePostCompletion_ok hc]

theorem vnvmePostCompletionBatch_error {d : Driver} {q : UInt16} {e : NtStatus}
    (h : batchCheck d q = .error e) {cs : List NvmeCompletion} (hcs : cs ≠ []) :
    vnvmePostCompletionBatch d q cs = (e, d) := by
  rw [vnvmePostCompletionBatch, if_neg hcs, h]

theorem vnvmePostCompletionBatch_ok {d : Driver} {q : UInt16} {shm : Shm}
    (h : batchCheck d q = .ok shm) {cs : List NvmeCompletion} (hcs : cs ≠ []) :
    vnvmePostCompletionBatch d q cs = (.success, applyPosts d shm q.toNat cs) := by
  rw [vnvmePostCompletionBatch, if_neg hcs, h]
  rfl

/-! ## One queue -/

/-- `log` is the record of a queue of capacity `c` into which `cs` went from slot 0 and
phase 1 on. -/
structure Stamped (c : UInt32) (cs : List NvmeCompletion) (log : List CqWrite) : Prop where
  length_eq : log.length = cs.length
  entry : ∀ k x, cs[k]? = some x → ∃ w, log[k]? = some w ∧ At c k w.slot ∧
    w.entry = withPhase x (phaseAt c true k)

theorem Stamped.nil (c : UInt32) : Stamped c [] [] where
  length_eq := rfl
  entry := by
    intro k x hx
    simp at hx

theorem Stamped.snoc {c tail : UInt32} {phase : Bool} {cs : List NvmeCompletion}
    {log : List CqWrite} (h : Stamped c cs log) (hs : InStep c true cs.length tail phase)
    (x : NvmeCompletion) : Stamped c (cs ++ [x]) (log ++ [⟨tail, withPhase x phase⟩]) where
  length_eq := by simp [h.length_eq]
  entry := by
    intro k y hy
    rcases Nat.lt_or_ge k cs.length with hlt | hge
    · rw [List.getElem?_append_left hlt] at hy
      obtain ⟨w, hw, hslot, hentry⟩ := h.entry k y hy
      refine ⟨w, ?_, hslot, hentry⟩
      rw [List.getElem?_append_left (by rw [h.length_eq]; exact hlt)]
      exact hw
    · have hk : k < (cs ++ [x]).length := (List.getElem?_eq_some_iff.mp hy).1
      rw [List.length_append, List.length_singleton] at hk
      obtain rfl : k = cs.length := by omega
      rw [List.getElem?_concat_length] at hy
      obtain rfl : x = y := Option.some.inj hy
      refine ⟨⟨tail, withPhase x phase⟩, ?_, hs.at_tail, ?_⟩
      · rw [← h.length_eq, List.getElem?_concat_length]
      · rw [hs.phase_eq]

/-- The loop of a batch keeps index, phase, descriptor phase and record in step with the
completions it has stored. -/
theorem foldl_postBatchStep {c : UInt32} (hc : 0 < c) (cs : List NvmeCompletion) :
    ∀ {s : PostState} (done : List NvmeCompletion),
      InStep c true done.length s.tail s.phase →
      s.descPhase = s.phase → Stamped c done s.log →
      InStep c true (done ++ cs).length (cs.foldl (postBatchStep c) s).tail
          (cs.foldl (postBatchStep c) s).phase ∧
        (cs.foldl (postBatchStep c) s).descPhase = (cs.foldl (postBatchStep c) s).phase ∧
        Stamped c (done ++ cs) (cs.foldl (postBatchStep c) s).log := by
  induction cs with
  | nil =>
      intro s done hs hd hl
      simpa using ⟨hs, hd, hl⟩
  | cons x cs ih =>
      intro s done hs hd hl
      have hs' := hs.advance hc
      have hd' : (postBatchStep c s x).descPhase = (postBatchStep c s x).phase := by
        by_cases h0 : next c s.tail = 0
        · simp [postBatchStep, h0]
        · simpa [postBatchStep, h0] using hd
      have hl' : Stamped c (done ++ [x]) (postBatchStep c s x).log := hl.snoc hs x
      have hlen : (done ++ [x]).length = done.length + 1 := by simp
      have := ih (s := postBatchStep c s x) (done ++ [x])
        (by rw [hlen]; exact hs') hd' hl'
      rwa [List.append_assoc, List.singleton_append] at this

/-- Queue `q` of capacity `c` has received exactly `cs` since it was created. -/
structure CqHolds (d : Driver) (q : Nat) (c : UInt32) (cs : List NvmeCompletion) : Prop where
  shm : ∃ shm, d.shm = some shm ∧ (shm.cq q).capacity = c ∧
    (shm.cq q).tail = (d.pdo.cq q).tail ∧
    (shm.cq q).phaseBit = (d.pdo.cq q).phaseTag ∧
    Stamped c cs (shm.cqLog q)
  inStep : InStep c true cs.length (d.pdo.cq q).tail (d.pdo.cq q).phaseTag

theorem CqHolds.post {d : Driver} {q : Nat} {c : UInt32} {cs : List NvmeCompletion}
    (hc : 0 < c) (h : CqHolds d q c cs) {shm : Shm} (hshm : d.shm = some shm)
    (new : List NvmeCompletion) : CqHolds (applyPosts d shm q new) q c (cs ++ new) := by
  obtain ⟨shm', hshm', hcap, htail, hphase, hlog⟩ := h.shm
  obtain rfl : shm' = shm := Option.some.inj (hshm'.symm.trans hshm)
  have hloop := foldl_postBatchStep hc new
    (s := ⟨(shm'.cq q).tail, (d.pdo.cq q).phaseTag, (shm'.cq q).phaseBit, shm'.cqLog q⟩)
    cs (by rw [htail]; exact h.inStep) hphase hlog
  rw [← hcap] at hloop ⊢
  obtain ⟨hs, hd, hl⟩ := hloop
  refine ⟨⟨_, rfl, ?_, ?_, ?_, ?_⟩, ?_⟩
  · simp [Shm.setCq]
  · simp [applyPosts, Shm.setCq, PdoContext.setCq]
  · simpa [applyPosts, Shm.setCq, PdoContext.setCq] using hd
  · simpa [applyPosts, Shm.setCq] using hl
  · simpa [applyPosts, PdoContext.setCq] using hs

/-- Posting to another queue leaves this one alone. -/
theorem CqHolds.post_other {d : Driver} {q r : Nat} {c : UInt32} {cs : List NvmeCompletion}
    (h : CqHolds d q c cs) {shm : Shm} (hshm : d.shm = some shm) (hne : q ≠ r)
    (new : List NvmeCompletion) : CqHolds (applyPosts d shm r new) q c cs := by
  obtain ⟨shm', hshm', hcap, htail, hphase, hlog⟩ := h.shm
  obtain rfl : shm' = shm := Option.some.inj (hshm'.symm.trans hshm)
  refine ⟨⟨_, rfl, ?_, ?_, ?_, ?_⟩, ?_⟩
  · simpa [Shm.setCq, hne] using hcap
  · simpa [applyPosts, Shm.setCq, PdoContext.setCq, hne] using htail
  · simpa [applyPosts, Shm.setCq, PdoContext.setCq, hne] using hphase
  · simpa [Shm.setCq, hne] using hlog
  · simpa [applyPosts, PdoContext.setCq, hne] using h.inStep

/-- A queue just created has received nothing. -/
theorem CqHolds.created {d : Driver} {q size : UInt16} {prp : UInt64} (hsize : 1 ≤ size)
    (h : (vnvmeCreateIoCompletionQueue d q size prp).1 = .success) :
    CqHolds (vnvmeCreateIoCompletionQueue d q size prp).2 q.toNat size.toUInt32 [] := by
  have hc : 0 < size.toUInt32 := by
    have h1 : 1 ≤ size.toNat := hsize
    show 0 < size.toUInt32.toNat
    rw [UInt16.toNat_toUInt32]
    omega
  revert h
  unfold vnvmeCreateIoCompletionQueue
  simp only
  split_ifs
  · intro h
    cases h
  · intro h
    cases h
  · cases hs : d.shm with
    | none =>
        intro h
        cases h
    | some shm =>
        simp only
        split_ifs
        · intro h
          cases h
        · intro _
          refine ⟨⟨_, rfl, ?_, ?_, ?_, ?_⟩, ?_⟩
          · simp [Shm.setCq]
          · simp [Shm.setCq, PdoContext.setCq]
          · simp [Shm.setCq, PdoContext.setCq, QueueDescriptor.phaseBit]
          · simpa [Shm.setCq] using Stamped.nil _
          · simpa [PdoContext.setCq] using InStep.zero hc

/-! ## Runs -/

/-- A call that posts completions to a queue. -/
inductive PostCall where
  | one (queueId : UInt16) (completion : NvmeCompletion)
  | batch (queueId : UInt16) (completions : List NvmeCompletion)

def PostCall.queueId : PostCall → UInt16
  | .one q _ => q
  | .batch q _ => q

def PostCall.completions : PostCall → List NvmeCompletion
  | .one _ c => [c]
  | .batch _ cs => cs

def PostCall.run (d : Driver) : PostCall → NtStatus × Driver
  | .one q c => vnvmePostCompletion d q c
  | .batch q cs => vnvmePostCompletionBatch d q cs

/-- The driver after a sequence of calls, refused ones included. -/
def runPosts (d : Driver) (calls : List PostCall) : Driver :=
  calls.foldl (fun d call => (call.run d).2) d

/-- The completions of the accepted calls of a run, each with its queue, in order. -/
def accepted (d : Driver) : List PostCall → List (UInt16 × NvmeCompletion)
  | [] => []
  | call :: calls =>
    (if (call.run d).1 = .success then call.completions.map (call.queueId, ·) else []) ++
      accepted (call.run d).2 calls

/-- What a run posted to queue `q`. -/
def postedTo (q : UInt16) (acc : List (UInt16 × NvmeCompletion)) : List NvmeCompletion :=
  acc.filterMap fun p => if p.1 = q then some p.2 else none

theorem postedTo_append (q : UInt16) (a b : List (UInt16 × NvmeCompletion)) :
    postedTo q (a ++ b) = postedTo q a ++ postedTo q b :=
  List.filterMap_append

theorem postedTo_self (q : UInt16) (cs : List NvmeCompletion) :
    postedTo q (cs.map (q, ·)) = cs := by
  simp only [postedTo, List.filterMap_map, Function.comp_def, if_true, List.filterMap_some]

theorem postedTo_other {q r : UInt16} (h : r ≠ q) (cs : List NvmeCompletion) :
    postedTo q (cs.map (r, ·)) = [] := by
  simp only [postedTo, List.filterMap_map, Function.comp_def, if_neg h,
    List.filterMap_eq_nil_iff, implies_true]

/-- A call is refused and changes nothing, or it stores its completions. -/
theorem PostCall.run_cases (d : Driver) (call : PostCall) :
    ((call.run d).1 ≠ .success ∧ (call.run d).2 = d) ∨
      ((call.run d).1 = .success ∧ call.completions = [] ∧ (call.run d).2 = d) ∨
      ((call.run d).1 = .success ∧ ∃ shm, d.shm = some shm ∧
        (call.run d).2 = applyPosts d shm call.queueId.toNat call.completions) := by
  cases call with
  | one q c =>
      cases h : cqCheck d q with
      | error e =>
          refine Or.inl ?_
          rw [PostCall.run, vnvmePostCompletion_error h]
          exact ⟨cqCheck_error h, rfl⟩
      | ok shm =>
          refine Or.inr (Or.inr ?_)
          rw [PostCall.run, vnvmePostCompletion_ok h]
          exact ⟨rfl, shm, (cqCheck_ok_iff.mp h).1, rfl⟩
  | batch q cs =>
      by_cases hcs : cs = []
      · subst hcs
        exact Or.inr (Or.inl ⟨rfl, rfl, rfl⟩)
      · cases h : batchCheck d q with
        | error e =>
            refine Or.inl ?_
            rw [PostCall.run, vnvmePostCompletionBatch_error h hcs]
            exact ⟨batchCheck_error h, rfl⟩
        | ok shm =>
            refine Or.inr (Or.inr ?_)
            rw [PostCall.run, vnvmePostCompletionBatch_ok h hcs]
            exact ⟨rfl, shm, (batchCheck_ok_iff.mp h).1, rfl⟩

/-- The number of completions ever posted, as the control block counts it. -/
def Driver.completionsPosted (d : Driver) : UInt64 :=
  match d.shm with
  | none => 0
  | some shm => shm.completionsPosted

theorem CqHolds.run {q : UInt16} {c : UInt32} (hc : 0 < c) :
    ∀ (calls : List PostCall) {d : Driver} {cs : List NvmeCompletion},
      CqHolds d q.toNat c cs →
      CqHolds (runPosts d calls) q.toNat c (cs ++ postedTo q (accepted d calls)) := by
  intro calls
  induction calls with
  | nil =>
      intro d cs h
      rw [accepted, postedTo, List.filterMap_nil, List.append_nil]
      exact h
  | cons call calls ih =>
      intro d cs h
      rw [accepted, postedTo_append, ← List.append_assoc]
      refine ih (d := (call.run d).2) ?_
      rcases call.run_cases d with ⟨hne, hd⟩ | ⟨hok, hnil, hd⟩ | ⟨hok, shm, hshm, hd⟩
      · rw [if_neg hne, hd]
        simpa [postedTo] using h
      · rw [if_pos hok, hd, hnil]
        simpa [postedTo] using h
      · rw [if_pos hok, hd]
        by_cases hq : call.queueId = q
        · subst hq
          rw [postedTo_self]
          exact h.post hc hshm _
        · rw [postedTo_other hq, List.append_nil]
          exact h.post_other hshm (fun heq => hq (UInt16.toNat_inj.mp heq.symm)) _

theorem completionsPosted_run :
    ∀ (calls : List PostCall) (d : Driver),
      (runPosts d calls).completionsPosted =
        d.completionsPosted + UInt64.ofNat (accepted d calls).length := by
  intro calls
  induction calls with
  | nil =>
      intro d
      exact (UInt64.add_zero _).symm
  | cons call calls ih =>
      intro d
      rw [accepted, List.length_append, UInt64.ofNat_add, ← UInt64.add_assoc]
      refine (ih (call.run d).2).trans (congrArg (· + _) ?_)
      rcases call.run_cases d with ⟨hne, hd⟩ | ⟨hok, hnil, hd⟩ | ⟨hok, shm, hshm, hd⟩
      · rw [if_neg hne, hd]
        exact (UInt64.add_zero _).symm
      · rw [if_pos hok, hd, hnil]
        exact (UInt64.add_zero _).symm
      · rw [if_pos hok, hd, List.length_map]
        simp only [applyPosts, Driver.completionsPosted, hshm]

/-- **Posting law.** A completion queue created with `size ≥ 1` entries takes the `k`-th
completion posted to it, singly or in a batch of any length, at slot `k % size` with its
fields unchanged and phase 1 on even laps. After every call both tails are the number
posted modulo `size`, both phases agree, and the counter has grown by the number of
completions posted. -/
theorem postedCompletions_in_order (d₀ : Driver) (q size : UInt16) (prp : UInt64)
    (hsize : 1 ≤ size) (hok : (vnvmeCreateIoCompletionQueue d₀ q size prp).1 = .success)
    (calls : List PostCall) :
    let d := (vnvmeCreateIoCompletionQueue d₀ q size prp).2
    let d' := runPosts d calls
    let cs := postedTo q (accepted d calls)
    ∃ shm, d'.shm = some shm ∧
      (shm.cqLog q.toNat).length = cs.length ∧
      (∀ k c, cs[k]? = some c → ∃ w, (shm.cqLog q.toNat)[k]? = some w ∧
        w.slot.toNat = k % size.toNat ∧
        w.entry.dw0 = c.dw0 ∧ w.entry.dw1 = c.dw1 ∧ w.entry.sqhd = c.sqhd ∧
        w.entry.sqid = c.sqid ∧ w.entry.cid = c.cid ∧
        w.entry.status &&& 0xFFFE = c.status &&& 0xFFFE ∧
        (nvmeStatusP w.entry.status = 1 ↔ k / size.toNat % 2 = 0)) ∧
      (shm.cq q.toNat).tail = (d'.pdo.cq q.toNat).tail ∧
      (d'.pdo.cq q.toNat).tail.toNat = cs.length % size.toNat ∧
      (shm.cq q.toNat).phase = (if (d'.pdo.cq q.toNat).phaseTag then 1 else 0) ∧
      d'.completionsPosted =
        d.completionsPosted + UInt64.ofNat (accepted d calls).length := by
  intro d d' cs
  have hsz : size.toUInt32.toNat = size.toNat := UInt16.toNat_toUInt32 _
  have hc : 0 < size.toUInt32 := by
    have h1 : 1 ≤ size.toNat := hsize
    show 0 < size.toUInt32.toNat
    omega
  have hinv : CqHolds d' q.toNat size.toUInt32 cs :=
    (CqHolds.created hsize hok).run hc calls
  obtain ⟨shm, hshm, _, htail, hphase, hlog⟩ := hinv.shm
  refine ⟨shm, hshm, hlog.length_eq, ?_, htail, ?_, ?_, completionsPosted_run calls d⟩
  · intro k c hk
    obtain ⟨w, hw, hslot, hentry⟩ := hlog.entry k c hk
    refine ⟨w, hw, hsz ▸ hslot, ?_⟩
    rw [hentry, withPhase_status_high, withPhase_phase]
    refine ⟨rfl, rfl, rfl, rfl, rfl, rfl, ?_⟩
    rw [← hsz, ← phaseAt_true_iff]
    cases phaseAt size.toUInt32 true k <;> simp
  · exact hsz ▸ hinv.inStep.at_tail
  · rw [(shm.cq q.toNat).phase_eq, hphase]

theorem postedCompletions_in_order_wrap :
    let d := (vnvmeCreateIoCompletionQueue (Driver.fresh { maxIOQueues := 16 }) 1 2 0).2
    let calls := [PostCall.one 1 { cid := 7 }, .one 1 { cid := 8 }, .one 1 { cid := 9 }]
    (accepted d calls).length = 3 ∧
      ∃ shm, (runPosts d calls).shm = some shm ∧ (shm.cq 1).tail.toNat = 1 := by
  intro d calls
  refine ⟨by decide, ?_⟩
  obtain ⟨shm, hshm, _, _, htail, hcount, _⟩ :=
    postedCompletions_in_order (Driver.fresh { maxIOQueues := 16 }) 1 2 0 (by decide)
      (by decide) calls
  refine ⟨shm, hshm, ?_⟩
  have htail' : (shm.cq 1).tail = ((runPosts d calls).pdo.cq 1).tail := htail
  rw [htail']
  exact hcount.trans (by decide)

end VirtualNvme
