import VirtualNvme.RingBuffer.Window
import VirtualNvme.Verification.Drain
import VirtualNvme.Verification.IoCompletion
import VirtualNvme.Verification.QueueCalls

/-!
# Entries that the host has not consumed

The driver notes how far the host has consumed a completion queue (`LastAdminCqHead`,
`IoCq[].Head`), and no routine that posts completions looks there: an entry goes to the tail,
whatever lies in that slot. `CqRun` keeps the slots of the entries that the host has not
consumed. A posting routine leaves them alone exactly when it finds enough slots beside them.
-/

namespace VirtualNvme

open RingBuffer
open Runs (EachStep)

/-! ## What a posting routine does to one queue -/

/-- Between `a` and `b`, completion queue `q` has been filled slot by slot from its tail on. -/
structure CqFilled (a b : Shm) (q : Nat) : Prop where
  capacity : (b.cq q).capacity = (a.cq q).capacity
  written : (a.cq q).tail < (a.cq q).capacity → ∃ ws, b.cqLog q = a.cqLog q ++ ws ∧
    ws.map CqWrite.slot = slots (a.cq q).capacity (a.cq q).tail ws.length ∧
    (b.cq q).tail = (next (a.cq q).capacity)^[ws.length] (a.cq q).tail

theorem CqFilled.of_eq {a b : Shm} {q : Nat} (hcq : b.cq q = a.cq q)
    (hlog : b.cqLog q = a.cqLog q) : CqFilled a b q := by
  refine ⟨by rw [hcq], fun _ => ⟨[], ?_, rfl, ?_⟩⟩
  · rw [hlog, List.append_nil]
  · rw [hcq]
    rfl

theorem CqFilled.trans {a b c : Shm} {q : Nat} (hab : CqFilled a b q) (hbc : CqFilled b c q) :
    CqFilled a c q := by
  refine ⟨hbc.capacity.trans hab.capacity, fun hlt => ?_⟩
  obtain ⟨ws, hlog, hslots, htail⟩ := hab.written hlt
  have hlt' : (b.cq q).tail < (b.cq q).capacity := by
    rw [hab.capacity, htail]
    exact ((At.self hlt).iterate (pos_of_lt hlt) ws.length).lt (pos_of_lt hlt)
  obtain ⟨vs, hlog', hslots', htail'⟩ := hbc.written hlt'
  rw [hab.capacity, htail] at hslots' htail'
  refine ⟨ws ++ vs, ?_, ?_, ?_⟩
  · rw [hlog', hlog, List.append_assoc]
  · rw [List.map_append, hslots, hslots', List.length_append, slots_append]
  · rw [htail', List.length_append, Nat.add_comm, Function.iterate_add_apply]

/-- A loop in which every round writes one entry at the tail and moves the tail on. -/
theorem foldl_fills {σ β : Type*} {c : UInt32} (tail : σ → UInt32) (log : σ → List CqWrite)
    {step : σ → β → σ} (hstep : ∀ s b, tail s < c → tail (step s b) = next c (tail s) ∧
      ∃ e, log (step s b) = log s ++ [⟨tail s, e⟩]) (bs : List β) :
    ∀ s, tail s < c → ∃ ws, log (bs.foldl step s) = log s ++ ws ∧
      ws.map CqWrite.slot = slots c (tail s) ws.length ∧
      tail (bs.foldl step s) = (next c)^[ws.length] (tail s) := by
  induction bs with
  | nil =>
      intro s _
      exact ⟨[], (List.append_nil _).symm, rfl, rfl⟩
  | cons b bs ih =>
      intro s hs
      obtain ⟨htail, e, hlog⟩ := hstep s b hs
      have hlt : tail (step s b) < c := htail ▸ next_lt (pos_of_lt hs)
      obtain ⟨ws, hlog', hslots, htail'⟩ := ih (step s b) hlt
      refine ⟨⟨tail s, e⟩ :: ws, ?_, ?_, ?_⟩
      · rw [List.foldl_cons, hlog', hlog, List.append_assoc]
        rfl
      · rw [List.map_cons, hslots, htail, List.length_cons, slots]
      · rw [List.foldl_cons, htail', htail, List.length_cons, Function.iterate_succ_apply]

theorem length_foldl_postBatchStep (c : UInt32) (cs : List NvmeCompletion) :
    ∀ s : PostState, (cs.foldl (postBatchStep c) s).log.length = s.log.length + cs.length := by
  induction cs with
  | nil =>
      intro s
      rfl
  | cons x cs ih =>
      intro s
      rw [List.foldl_cons, ih, postBatchStep, List.length_append, List.length_singleton,
        List.length_cons]
      omega

section ApplyPosts

variable (d : Driver) (shm : Shm) (q : Nat) (cs : List NvmeCompletion)

/-- The shared memory once a call has been accepted. -/
def postedShm : Shm :=
  let r := cs.foldl (postBatchStep (shm.cq q).capacity)
    ⟨(shm.cq q).tail, (d.pdo.cq q).phaseTag, (shm.cq q).phaseBit, shm.cqLog q⟩
  { shm.setCq q ((shm.cq q).setTailPhase r.tail r.descPhase) with
    cqLog := Function.update shm.cqLog q r.log
    completionsPosted := shm.completionsPosted + UInt64.ofNat cs.length }

theorem applyPosts_shm : (applyPosts d shm q cs).shm = some (postedShm d shm q cs) := rfl

theorem postedShm_filled (p : Nat) : CqFilled shm (postedShm d shm q cs) p := by
  by_cases hp : p = q
  · subst hp
    refine ⟨?_, fun hlt => ?_⟩
    · simp [postedShm, Shm.setCq]
    · simp only [postedShm, Shm.setCq, Function.update_self, QueueDescriptor.setTailPhase_tail]
      refine foldl_fills PostState.tail PostState.log ?_ cs _ hlt
      intro s x _
      exact ⟨rfl, withPhase x s.phase, rfl⟩
  · apply CqFilled.of_eq
    · exact Function.update_of_ne hp _ _
    · exact Function.update_of_ne hp _ _

theorem length_postedShm (p : Nat) : ((postedShm d shm q cs).cqLog p).length =
    (shm.cqLog p).length + if q = p then cs.length else 0 := by
  simp only [postedShm]
  split_ifs with hp
  · subst hp
    rw [Function.update_self, length_foldl_postBatchStep]
  · rw [Function.update_of_ne (Ne.symm hp)]
    rfl

end ApplyPosts

/-! ## Aborts -/

theorem abortWalk_filled {fuel : Nat} {a a' : Aborting} {q : Nat} {slot : UInt32 → UInt32}
    {sync : AbortLoop → PdoContext} (hslot : ∀ x, x < (a.shm.cq q).capacity → slot x = x)
    (hc : (a.shm.sq q).capacity ≠ 0)
    (h : abortWalk fuel a q (a.shm.cq q).capacity slot sync = some a') (p : Nat) :
    CqFilled a.shm a'.shm p := by
  obtain ⟨r, hr, rfl⟩ := Option.map_eq_some_iff.mp h
  obtain rfl := walk_eq_some (UInt32.pos_iff_ne_zero.mpr hc) hr
  by_cases hp : p = q
  · subst hp
    refine ⟨?_, fun hlt => ?_⟩
    · rw [abortStore_cq, Function.update_self, QueueDescriptor.setTailPhase_capacity]
    · rw [abortStore_cq, abortStore_cqLog, Function.update_self, Function.update_self,
        QueueDescriptor.setTailPhase_tail]
      refine foldl_fills AbortLoop.cqTail AbortLoop.log ?_ _ _ hlt
      intro s head hs
      refine ⟨rfl, abortEntry (a.shm.sqMem p) (UInt16.ofNat p) s.phase head, ?_⟩
      simp only [abortStep, hslot _ hs]
  · apply CqFilled.of_eq
    · rw [abortStore_cq, Function.update_of_ne hp]
    · rw [abortStore_cqLog, Function.update_of_ne hp]

theorem abortAdminQueue_filled {fuel : Nat} {a a' : Aborting}
    (hsize : (a.shm.sq 0).capacity = (a.shm.cq 0).capacity)
    (h : abortAdminQueue fuel a = some a') (p : Nat) : CqFilled a.shm a'.shm p := by
  simp only [abortAdminQueue] at h
  split_ifs at h with hcond
  · rw [hsize] at h
    exact abortWalk_filled (fun _ _ => rfl) (UInt32.pos_iff_ne_zero.mp hcond.2) h p
  · rw [← Option.some.inj h]
    exact CqFilled.of_eq rfl rfl

theorem abortIoQueue_filled {fuel : Nat} {a a' : Aborting} {i : Nat}
    (h : abortIoQueue fuel a i = some a') (p : Nat) : CqFilled a.shm a'.shm p := by
  simp only [abortIoQueue] at h
  split_ifs at h with hskip hempty
  · rw [← Option.some.inj h]
    exact CqFilled.of_eq rfl rfl
  · rw [← Option.some.inj h]
    exact CqFilled.of_eq rfl rfl
  · refine abortWalk_filled ?_ (not_or.mp hempty).2 h p
    intro x hx
    exact UInt32.toNat_inj.mp (by rw [UInt32.toNat_mod]; exact Nat.mod_eq_of_lt hx)

theorem foldlM_abortIoQueue_filled {fuel : Nat} {is : List Nat} {a a' : Aborting}
    (h : is.foldlM (abortIoQueue fuel) a = some a') (p : Nat) : CqFilled a.shm a'.shm p := by
  induction is generalizing a with
  | nil =>
      obtain rfl : a = a' := Option.some.inj h
      exact CqFilled.of_eq rfl rfl
  | cons i is ih =>
      rw [List.foldlM_cons] at h
      obtain ⟨b, hb, hrest⟩ := Option.bind_eq_some_iff.mp h
      exact (abortIoQueue_filled hb p).trans (ih hrest)

/-- The number of commands that an abort finds in submission queue `q`. -/
def abortCount (shm : Shm) (p : PdoContext) (q : Nat) : Nat :=
  if q ∈ abortedQueues shm p then (shm.sq q).pendingSlots.length else 0

/-- An abort that comes back fills every completion queue with an entry for each command that
it has found in the submission queue of the same id. -/
theorem abort_filled {fuel : Nat} {d : Driver} {shm : Shm} (hshm : d.shm = some shm)
    (hsize : (shm.sq 0).capacity = (shm.cq 0).capacity) {r : UInt32 × Driver}
    (h : vnvmeAbortPendingUserCommands fuel d = some r) :
    ∃ shm', r.2.shm = some shm' ∧ (shm'.sq 0).capacity = (shm'.cq 0).capacity ∧ ∀ q,
      CqFilled shm shm' q ∧
        (shm'.cqLog q).length = (shm.cqLog q).length + abortCount shm d.pdo q := by
  obtain ⟨shm', hshm', hdrained, -⟩ := abort_drained hshm h
  rw [vnvmeAbortPendingUserCommands_eq hshm] at h
  obtain ⟨a, ha, hrest⟩ := Option.bind_eq_some_iff.mp h
  obtain ⟨b, hb, rfl⟩ := Option.map_eq_some_iff.mp hrest
  obtain rfl : b.shm = shm' := Option.some.inj hshm'
  have hfilled : ∀ q, CqFilled shm b.shm q := fun q =>
    (abortAdminQueue_filled hsize ha q).trans (foldlM_abortIoQueue_filled hb q)
  refine ⟨b.shm, rfl, ?_, fun q => ⟨hfilled q, ?_⟩⟩
  · rw [(hdrained.on 0 List.mem_cons_self).capacity, hsize, (hfilled 0).capacity]
  · unfold abortCount
    split_ifs with hq
    · obtain ⟨ws, hlog, hws⟩ := (hdrained.on q hq).completed
      rw [hlog, List.length_append, hws.length_eq]
    · rw [(hdrained.off q hq).2]
      rfl

/-! ## The head of the host -/

/-- The host writes `value` to the head doorbell of completion queue `q`. -/
def Driver.ringCqHead (d : Driver) (q : Nat) (value : UInt32) : Driver :=
  { d with pdo := { d.pdo with
      bar0 := d.pdo.bar0.map fun regs =>
        { regs with doorbells := Function.update regs.doorbells (2 * q + 1) value } } }

/-- The part of `VnvmeProcessDoorbells` that notes the head of completion queue `q`. -/
def Driver.noteCqHead (d : Driver) (q : Nat) : Driver :=
  match d.pdo.bar0 with
  | none => d
  | some regs =>
    let cqHead := regs.doorbells (2 * q + 1) &&& 0xFFFF
    if q = 0 then { d with pdo := { d.pdo with lastAdminCqHead := cqHead } }
    else if (d.pdo.sq q).created then
      { d with pdo := d.pdo.setCq q { d.pdo.cq q with head := cqHead } }
    else d

/-- The head of completion queue `q` that the driver has noted. -/
def Driver.notedCqHead (d : Driver) (q : Nat) : UInt32 :=
  if q = 0 then d.pdo.lastAdminCqHead else (d.pdo.cq q).head

/-- Without a new tail of the admin queue, step 3 of the poll notes the head. -/
theorem processAdminDoorbells_idle {fuel : Nat} {regs : Bar0} {d : Driver}
    (hregs : d.pdo.bar0 = some regs) (hidle : regs.doorbells 0 &&& 0xFFFF = d.pdo.lastAdminSqTail)
    (hadWork : Bool) :
    processAdminDoorbells fuel regs hadWork d = some (hadWork, d.noteCqHead 0) := by
  simp [processAdminDoorbells, hidle, Driver.noteCqHead, hregs]

/-- Without a new tail of queue `i + 1`, its round of the poll notes the head. -/
theorem processIoDoorbells_idle {fuel : Nat} {regs : Bar0} {r : Bool × Driver} {i : Nat}
    (hregs : r.2.pdo.bar0 = some regs)
    (hidle : regs.doorbells (2 * (i + 1)) &&& 0xFFFF = (r.2.pdo.sq (i + 1)).tail) :
    processIoDoorbells fuel regs r i = some (r.1, r.2.noteCqHead (i + 1)) := by
  cases hcreated : (r.2.pdo.sq (i + 1)).created <;>
    simp [processIoDoorbells, hidle, Driver.noteCqHead, hregs, hcreated]

/-! ## Runs -/

/-- A driver, and for every completion queue the slots of the entries that have been written
and that the host has not consumed. -/
structure CqRun where
  driver : Driver
  unread : Nat → List UInt32

/-- Completion queues are created and deleted, completions are posted by the driver and by the
server, the host rings a head doorbell that is then noted, and anything may happen elsewhere. -/
inductive CqEvent where
  | create (queueId queueSize : UInt16) (prpAddress : UInt64)
  | delete (queueId : UInt16)
  | post (queueId : UInt16) (completion : NvmeCompletion)
  | batch (queueId : UInt16) (completions : List NvmeCompletion)
  | abort
  | serve (ctx : CmdEngineContext) (cmd : NvmeCommand)
  | head (q : Nat) (value : UInt32)
  | elsewhere (d : Driver)

/-- `d'`, with the completion queues, the noted heads and the size of the admin queue of `d`. -/
def Driver.keepCqs (d d' : Driver) : Driver :=
  { d' with
    shm := d.shm.map fun shm =>
      let other := d'.shm.getD shm
      { other with
        cq := shm.cq
        cqLog := shm.cqLog
        sq := Function.update other.sq 0
          { other.sq 0 with
            capacity := (shm.sq 0).capacity, capacity_le := (shm.sq 0).capacity_le } }
    pdo := { d'.pdo with
      lastAdminCqHead := d.pdo.lastAdminCqHead
      cq := fun q => { d'.pdo.cq q with head := (d.pdo.cq q).head } } }

/-- What an event does to the driver. An abort that never comes back is left out. -/
def CqEvent.apply (d : Driver) : CqEvent → Driver
  | .create queueId queueSize prpAddress =>
    (vnvmeCreateIoCompletionQueue d queueId queueSize prpAddress).2
  | .delete queueId => (vnvmeDeleteIoCompletionQueue d queueId).2
  | .post queueId completion => (vnvmePostCompletion d queueId completion).2
  | .batch queueId completions => (vnvmePostCompletionBatch d queueId completions).2
  | .abort => ((vnvmeAbortPendingUserCommands 0x10000 d).map Prod.snd).getD d
  | .serve ctx cmd =>
    { d with shm := d.shm.map fun shm => (cmdEngineProcessAdminCommand ⟨ctx, shm⟩ cmd).shm }
  | .head q value => (d.ringCqHead q value).noteCqHead q
  | .elsewhere d' => d.keepCqs d'

/-- The event starts or ends the life of completion queue `q`. -/
def CqEvent.resets (d : Driver) (q : Nat) : CqEvent → Bool
  | .create queueId queueSize prpAddress =>
    queueId.toNat = q && (vnvmeCreateIoCompletionQueue d queueId queueSize prpAddress).1 = .success
  | .delete queueId =>
    queueId.toNat = q && (vnvmeDeleteIoCompletionQueue d queueId).1 = .success
  | _ => false

/-- The slots of completion queue `q` that have been written between `d` and `d'`. -/
def writtenSlots (d d' : Driver) (q : Nat) : List UInt32 :=
  ((d'.cqLog q).drop (d.cqLog q).length).map CqWrite.slot

/-- An entry stays unread until the driver notes a head behind it. -/
def cqStep (s : CqRun) (e : CqEvent) : CqRun :=
  let d := e.apply s.driver
  { driver := d
    unread := fun q =>
      if e.resets s.driver q then []
      else
        let us := s.unread q ++ writtenSlots s.driver d q
        if d.notedCqHead q = s.driver.notedCqHead q then us
        else unconsumed (d.notedCqHead q) us }

/-- `VnvmePostCompletion`, `VnvmePostCompletionBatch` and `VnvmeAbortPendingUserCommands` -/
def CqEvent.isPost : CqEvent → Bool
  | .post _ _ | .batch _ _ | .abort => true
  | _ => false

def Driver.cqCapacity (d : Driver) (q : Nat) : UInt32 :=
  (d.shm.map fun shm => (shm.cq q).capacity).getD 0

/-- The routine writes no entry over one that the host has not consumed. One that never comes
back goes on writing. -/
structure NoOverrun (s : CqRun) (e : CqEvent) : Prop where
  returns : e = .abort → ∃ r, vnvmeAbortPendingUserCommands 0x10000 s.driver = some r
  intact : e.isPost = true → ∀ q, s.driver.cqCapacity q ≠ 0 →
    AllNew (s.unread q) (writtenSlots s.driver (e.apply s.driver) q)

/-- The number of completions that a routine is about to post to completion queue `q`. -/
def CqEvent.count (d : Driver) (q : Nat) : CqEvent → Nat
  | .post queueId _ => if queueId.toNat = q ∧ (cqCheck d queueId).isOk then 1 else 0
  | .batch queueId completions =>
    if queueId.toNat = q ∧ (batchCheck d queueId).isOk then completions.length else 0
  | .abort => (d.shm.map fun shm => abortCount shm d.pdo q).getD 0
  | _ => 0

/-- The routine finds enough room: every completion it is about to post has a slot beside those
of the unread entries, and an abort can reach the tail of every queue. -/
structure HasRoom (s : CqRun) (e : CqEvent) : Prop where
  drainable : e = .abort → ∀ shm, s.driver.shm = some shm →
    ∀ q ∈ abortedQueues shm s.driver.pdo, (shm.sq q).Drainable
  room : e.isPost = true → ∀ q, s.driver.cqCapacity q ≠ 0 → e.count s.driver q = 0 ∨
    (s.unread q).length + e.count s.driver q ≤ (s.driver.cqCapacity q).toNat

/-- The unread entries are the last ones behind the tail. -/
structure CqTracked (unread : Nat → List UInt32) (shm : Shm) : Prop where
  size : (shm.sq 0).capacity = (shm.cq 0).capacity
  window : ∀ q, (shm.cq q).capacity ≠ 0 → Window (shm.cq q).capacity (shm.cq q).tail (unread q)

def CqRun.Tracked (s : CqRun) : Prop := ∀ shm, s.driver.shm = some shm → CqTracked s.unread shm

theorem cqLog_eq {d : Driver} {shm : Shm} (hshm : d.shm = some shm) (q : Nat) :
    d.cqLog q = shm.cqLog q := by
  rw [Driver.cqLog, hshm]
  rfl

theorem cqCapacity_eq {d : Driver} {shm : Shm} (hshm : d.shm = some shm) (q : Nat) :
    d.cqCapacity q = (shm.cq q).capacity := by
  rw [Driver.cqCapacity, hshm]
  rfl

/-- What is written while a queue is filled. -/
theorem writtenSlots_eq {d d' : Driver} {shm shm' : Shm} (hshm : d.shm = some shm)
    (hshm' : d'.shm = some shm') {q : Nat} {ws : List CqWrite}
    (hlog : shm'.cqLog q = shm.cqLog q ++ ws) : writtenSlots d d' q = ws.map CqWrite.slot := by
  rw [writtenSlots, cqLog_eq hshm, cqLog_eq hshm', hlog, List.drop_left]

section Step

variable {s : CqRun} {e : CqEvent} {shm shm' : Shm}

/-- The queues that keep on living are filled, the others are empty. -/
theorem CqTracked.step (h : CqTracked s.unread shm) (hshm : s.driver.shm = some shm)
    (hshm' : (e.apply s.driver).shm = some shm')
    (hsize : (shm'.sq 0).capacity = (shm'.cq 0).capacity)
    (hfilled : ∀ q, e.resets s.driver q = false → CqFilled shm shm' q)
    (hnew : ∀ q, e.resets s.driver q = true → (shm'.cq q).capacity ≠ 0 →
      (shm'.cq q).tail < (shm'.cq q).capacity) : CqTracked (cqStep s e).unread shm' := by
  refine ⟨hsize, fun q hc => ?_⟩
  cases hreset : e.resets s.driver q with
  | true =>
      rw [cqStep]
      simp only [hreset, if_true]
      exact Window.nil (hnew q hreset hc)
  | false =>
      have hf := hfilled q hreset
      rw [hf.capacity] at hc ⊢
      have hwin := h.window q hc
      obtain ⟨ws, hlog, hslots, htail⟩ := hf.written hwin.tail_lt
      have hnext : Window (shm.cq q).capacity (shm'.cq q).tail
          (s.unread q ++ writtenSlots s.driver (e.apply s.driver) q) := by
        rw [writtenSlots_eq hshm hshm' hlog, hslots, htail]
        exact hwin.post ws.length
      rw [cqStep]
      simp only [hreset, Bool.false_eq_true, if_false]
      split_ifs
      · exact hnext
      · exact hnext.unconsumed _

/-- Nothing has been written. -/
theorem CqTracked.idle (h : CqTracked s.unread shm) (hshm : s.driver.shm = some shm)
    (hshm' : (e.apply s.driver).shm = some shm) (hreset : ∀ q, e.resets s.driver q = false) :
    CqTracked (cqStep s e).unread shm := by
  refine h.step hshm hshm' h.size (fun q _ => CqFilled.of_eq rfl rfl) fun q hq => ?_
  rw [hreset q] at hq
  cases hq

theorem CqTracked.create (h : CqTracked s.unread shm) (hshm : s.driver.shm = some shm)
    (queueId size : UInt16) (prp : UInt64) :
    ∃ shm', ((CqEvent.create queueId size prp).apply s.driver).shm = some shm' ∧
      CqTracked (cqStep s (.create queueId size prp)).unread shm' := by
  by_cases hok : CqCallOk s.driver queueId
  · obtain ⟨shm₁, hio⟩ := hok.shm
    obtain rfl : shm = shm₁ := Option.some.inj (hshm.symm.trans hio.1)
    have h0 := (badIoQueueId_false hok.id).1
    have heq := vnvmeCreateIoCompletionQueue_ok hok hio size prp
    have happly : ((CqEvent.create queueId size prp).apply s.driver).shm =
        (withNewCq s.driver shm queueId size prp).shm := by
      rw [CqEvent.apply, heq]
    refine ⟨_, happly, h.step hshm happly ?_ ?_ ?_⟩
    · simpa [Shm.setCq, Ne.symm h0] using h.size
    · intro q hq
      have hne : q ≠ queueId.toNat := by
        rintro rfl
        simp [CqEvent.resets, heq] at hq
      exact CqFilled.of_eq (Function.update_of_ne hne _ _) (Function.update_of_ne hne _ _)
    · intro q hq hc
      obtain rfl : queueId.toNat = q := by
        rw [CqEvent.resets, Bool.and_eq_true, decide_eq_true_iff] at hq
        exact hq.1
      simp only [Shm.setCq, Function.update_self] at hc ⊢
      exact UInt32.pos_iff_ne_zero.mpr hc
  · have hno := vnvmeCreateIoCompletionQueue_refused hok size prp
    have happly : ((CqEvent.create queueId size prp).apply s.driver).shm = some shm := by
      rw [CqEvent.apply, hno.2, hshm]
    refine ⟨shm, happly, h.idle hshm happly fun q => ?_⟩
    simp [CqEvent.resets, hno.1]

theorem CqTracked.delete (h : CqTracked s.unread shm) (hshm : s.driver.shm = some shm)
    (queueId : UInt16) :
    ∃ shm', ((CqEvent.delete queueId).apply s.driver).shm = some shm' ∧
      CqTracked (cqStep s (.delete queueId)).unread shm' := by
  by_cases hok : CqDeleteOk s.driver queueId
  · have h0 := (badIoQueueId_false hok.id).1
    have heq := vnvmeDeleteIoCompletionQueue_ok hok
    have happly : ((CqEvent.delete queueId).apply s.driver).shm =
        some (clearCqDesc queueId shm) := by
      rw [CqEvent.apply, heq]
      exact congrArg (Option.map (clearCqDesc queueId)) hshm
    have hother : ∀ q, q ≠ queueId.toNat → (clearCqDesc queueId shm).cq q = shm.cq q := by
      intro q hq
      unfold clearCqDesc
      split_ifs
      · rfl
      · exact Function.update_of_ne hq _ _
    have hrest : (clearCqDesc queueId shm).sq = shm.sq ∧
        (clearCqDesc queueId shm).cqLog = shm.cqLog := by
      unfold clearCqDesc
      split_ifs <;> exact ⟨rfl, rfl⟩
    refine ⟨_, happly, h.step hshm happly ?_ ?_ ?_⟩
    · rw [hrest.1, hother 0 (Ne.symm h0)]
      exact h.size
    · intro q hq
      have hne : q ≠ queueId.toNat := by
        rintro rfl
        simp [CqEvent.resets, heq] at hq
      exact CqFilled.of_eq (hother q hne) (congrFun hrest.2 q)
    · intro q hq hc
      obtain rfl : queueId.toNat = q := by
        rw [CqEvent.resets, Bool.and_eq_true, decide_eq_true_iff] at hq
        exact hq.1
      unfold clearCqDesc at hc ⊢
      split_ifs at hc ⊢
      · exact (h.window _ hc).tail_lt
      · simp only [Shm.setCq, Function.update_self] at hc ⊢
        exact UInt32.pos_iff_ne_zero.mpr hc
  · have hno := vnvmeDeleteIoCompletionQueue_refused hok
    have happly : ((CqEvent.delete queueId).apply s.driver).shm = some shm := by
      rw [CqEvent.apply, hno.2, hshm]
    refine ⟨shm, happly, h.idle hshm happly fun q => ?_⟩
    simp [CqEvent.resets, hno.1]

end Step

section Posting

variable {d : Driver} {shm : Shm}

/-- A routine has filled the completion queues with the entries it was about to post. -/
def PostsCounted (shm : Shm) (e : CqEvent) (d : Driver) : Prop :=
  ∃ shm', (e.apply d).shm = some shm' ∧ (shm'.sq 0).capacity = (shm'.cq 0).capacity ∧ ∀ q,
    CqFilled shm shm' q ∧ (shm'.cqLog q).length = (shm.cqLog q).length + e.count d q

/-- A call that is refused posts nothing. -/
theorem PostsCounted.refused {e : CqEvent} (hshm : d.shm = some shm)
    (hsize : (shm.sq 0).capacity = (shm.cq 0).capacity) (happly : e.apply d = d)
    (hcount : ∀ q, e.count d q = 0) : PostsCounted shm e d := by
  refine ⟨shm, by rw [happly, hshm], hsize, fun q => ⟨CqFilled.of_eq rfl rfl, ?_⟩⟩
  rw [hcount q]
  rfl

theorem PostsCounted.accepted {e : CqEvent} (q : Nat) (cs : List NvmeCompletion)
    (hsize : (shm.sq 0).capacity = (shm.cq 0).capacity)
    (happly : e.apply d = applyPosts d shm q cs)
    (hcount : ∀ p, e.count d p = if q = p then cs.length else 0) : PostsCounted shm e d := by
  refine ⟨postedShm d shm q cs, by rw [happly, applyPosts_shm], ?_, fun p => ⟨?_, ?_⟩⟩
  · rw [(postedShm_filled d shm q cs 0).capacity]
    exact hsize
  · exact postedShm_filled d shm q cs p
  · rw [length_postedShm, hcount p]

theorem post_counted (hshm : d.shm = some shm)
    (hsize : (shm.sq 0).capacity = (shm.cq 0).capacity) (queueId : UInt16)
    (completion : NvmeCompletion) : PostsCounted shm (.post queueId completion) d := by
  cases hc : cqCheck d queueId with
  | error e =>
      refine PostsCounted.refused hshm hsize ?_ fun q => ?_
      · rw [CqEvent.apply, vnvmePostCompletion_error hc]
      · simp [CqEvent.count, hc, Except.isOk, Except.toBool]
  | ok shm' =>
      obtain rfl : shm = shm' := Option.some.inj (hshm.symm.trans (cqCheck_ok_iff.mp hc).1)
      refine PostsCounted.accepted queueId.toNat [completion] hsize ?_ fun p => ?_
      · rw [CqEvent.apply, vnvmePostCompletion_ok hc]
      · simp [CqEvent.count, hc, Except.isOk, Except.toBool]

theorem batch_counted (hshm : d.shm = some shm)
    (hsize : (shm.sq 0).capacity = (shm.cq 0).capacity) (queueId : UInt16)
    (completions : List NvmeCompletion) : PostsCounted shm (.batch queueId completions) d := by
  by_cases hcs : completions = []
  · subst hcs
    refine PostsCounted.refused hshm hsize ?_ fun q => ?_
    · rfl
    · simp [CqEvent.count]
  cases hc : batchCheck d queueId with
  | error e =>
      refine PostsCounted.refused hshm hsize ?_ fun q => ?_
      · rw [CqEvent.apply, vnvmePostCompletionBatch_error hc hcs]
      · simp [CqEvent.count, hc, Except.isOk, Except.toBool]
  | ok shm' =>
      obtain rfl : shm = shm' := Option.some.inj (hshm.symm.trans (batchCheck_ok_iff.mp hc).1)
      refine PostsCounted.accepted queueId.toNat completions hsize ?_ fun p => ?_
      · rw [CqEvent.apply, vnvmePostCompletionBatch_ok hc hcs]
      · simp [CqEvent.count, hc, Except.isOk, Except.toBool]

theorem abort_counted (hshm : d.shm = some shm)
    (hsize : (shm.sq 0).capacity = (shm.cq 0).capacity) {r : UInt32 × Driver}
    (hr : vnvmeAbortPendingUserCommands 0x10000 d = some r) : PostsCounted shm .abort d := by
  obtain ⟨shm', hshm', hsize', hall⟩ := abort_filled hshm hsize hr
  refine ⟨shm', ?_, hsize', fun q => ⟨(hall q).1, ?_⟩⟩
  · rw [CqEvent.apply, hr]
    exact hshm'
  · rw [(hall q).2, CqEvent.count, hshm]
    rfl

/-- The three routines, in one. -/
theorem isPost_counted (hshm : d.shm = some shm)
    (hsize : (shm.sq 0).capacity = (shm.cq 0).capacity) {e : CqEvent} (hpost : e.isPost = true)
    (hreturns : e = .abort → ∃ r, vnvmeAbortPendingUserCommands 0x10000 d = some r) :
    PostsCounted shm e d := by
  cases e with
  | post queueId completion => exact post_counted hshm hsize queueId completion
  | batch queueId completions => exact batch_counted hshm hsize queueId completions
  | abort =>
      obtain ⟨r, hr⟩ := hreturns rfl
      exact abort_counted hshm hsize hr
  | create _ _ _ => cases hpost
  | delete _ => cases hpost
  | serve _ _ => cases hpost
  | head _ _ => cases hpost
  | elsewhere _ => cases hpost

/-- The server writes its own completions at the tail of the admin queue. -/
theorem adminCommand_filled (s : Server) (cmd : NvmeCommand) (q : Nat) :
    CqFilled s.shm (cmdEngineProcessAdminCommand s cmd).shm q := by
  have hpost : ∀ (v : Server) (dw0 : UInt32) (sct sc : UInt8), v.shm.cq = s.shm.cq →
      v.shm.cqLog = s.shm.cqLog →
      CqFilled s.shm (cmdEnginePostAdminCompletion v cmd.cid dw0 sct sc).shm q := by
    intro v dw0 sct sc hcq hlog
    by_cases hq : q = 0
    · subst hq
      refine ⟨?_, fun _ => ?_⟩
      · simp [cmdEnginePostAdminCompletion, Shm.setCq, hcq]
      · have hentry : ∃ x, (cmdEnginePostAdminCompletion v cmd.cid dw0 sct sc).shm.cqLog 0 =
            s.shm.cqLog 0 ++ [⟨(s.shm.cq 0).tail, x⟩] := by
          refine ⟨{ dw0 := dw0, sqhd := (v.shm.sq 0).head.toUInt16, cid := cmd.cid
                    status := nvmeMakeStatus sct sc v.ctx.adminCqPhase.toUInt8 }, ?_⟩
          simp [cmdEnginePostAdminCompletion, Shm.setCq, Shm.writeCqe, hcq, hlog]
        obtain ⟨x, hx⟩ := hentry
        refine ⟨[⟨(s.shm.cq 0).tail, x⟩], hx, rfl, ?_⟩
        simp [cmdEnginePostAdminCompletion, Shm.setCq, hcq]
    · apply CqFilled.of_eq
      · simp [cmdEnginePostAdminCompletion, Shm.setCq, Shm.writeCqe, hcq, hq]
      · simp [cmdEnginePostAdminCompletion, Shm.setCq, Shm.writeCqe, hlog, hq]
  unfold cmdEngineProcessAdminCommand
  cases adminCmdDispatch s.ctx.adminCtx s.shm.dataBuffer cmd with
  | none => exact hpost _ _ _ _ rfl rfl
  | some r => exact hpost _ _ _ _ rfl rfl

end Posting

section Tracked

variable {s : CqRun} {e : CqEvent} {shm : Shm}

theorem noteCqHead_shm (d : Driver) (q : Nat) : (d.noteCqHead q).shm = d.shm := by
  unfold Driver.noteCqHead
  cases d.pdo.bar0 with
  | none => rfl
  | some regs =>
      dsimp only
      split_ifs <;> rfl

theorem resets_of_isPost {d : Driver} {q : Nat} (hpost : e.isPost = true) :
    e.resets d q = false := by
  cases e with
  | create _ _ _ => cases hpost
  | delete _ => cases hpost
  | _ => rfl

theorem CqTracked.isPost (h : CqTracked s.unread shm) (hshm : s.driver.shm = some shm)
    (hpost : e.isPost = true)
    (hreturns : e = .abort → ∃ r, vnvmeAbortPendingUserCommands 0x10000 s.driver = some r) :
    ∃ shm', (e.apply s.driver).shm = some shm' ∧ CqTracked (cqStep s e).unread shm' := by
  obtain ⟨shm', hshm', hsize, hall⟩ := isPost_counted hshm h.size hpost hreturns
  refine ⟨shm', hshm', h.step hshm hshm' hsize (fun q _ => (hall q).1) fun q hq => ?_⟩
  rw [resets_of_isPost hpost] at hq
  cases hq

/-- Every event keeps the unread entries behind the tail. -/
theorem CqTracked.apply (h : CqTracked s.unread shm) (hshm : s.driver.shm = some shm)
    (e : CqEvent) :
    ∃ shm', (e.apply s.driver).shm = some shm' ∧ CqTracked (cqStep s e).unread shm' := by
  cases e with
  | create queueId size prp => exact h.create hshm queueId size prp
  | delete queueId => exact h.delete hshm queueId
  | post queueId completion => exact h.isPost hshm rfl (fun he => nomatch he)
  | batch queueId completions => exact h.isPost hshm rfl (fun he => nomatch he)
  | abort =>
      by_cases hr : ∃ r, vnvmeAbortPendingUserCommands 0x10000 s.driver = some r
      · exact h.isPost hshm rfl fun _ => hr
      · have hnone : vnvmeAbortPendingUserCommands 0x10000 s.driver = none := by
          rw [Option.eq_none_iff_forall_ne_some]
          exact fun r hr' => hr ⟨r, hr'⟩
        have happly : (CqEvent.abort.apply s.driver).shm = some shm := by
          rw [CqEvent.apply, hnone]
          exact hshm
        exact ⟨shm, happly, h.idle hshm happly fun _ => rfl⟩
  | serve ctx cmd =>
      have happly : ((CqEvent.serve ctx cmd).apply s.driver).shm =
          some (cmdEngineProcessAdminCommand ⟨ctx, shm⟩ cmd).shm := by
        rw [CqEvent.apply, hshm]
        rfl
      refine ⟨_, happly, h.step hshm happly ?_ (fun q _ => ?_) fun q hq => ?_⟩
      · rw [(serving_adminCommand ⟨ctx, shm⟩ cmd).sq, adminCommand_cqCapacity]
        exact h.size
      · exact adminCommand_filled ⟨ctx, shm⟩ cmd q
      · cases hq
  | head q value =>
      have happly : ((CqEvent.head q value).apply s.driver).shm = some shm :=
        (noteCqHead_shm (s.driver.ringCqHead q value) q).trans hshm
      exact ⟨shm, happly, h.idle hshm happly fun _ => rfl⟩
  | elsewhere d =>
      have happly : ((CqEvent.elsewhere d).apply s.driver).shm = _ :=
        congrArg (Option.map _) hshm
      refine ⟨_, happly, h.step hshm happly ?_ (fun q _ => CqFilled.of_eq rfl rfl) fun q hq => ?_⟩
      · exact h.size
      · cases hq

/-- Without shared memory nothing happens to it. -/
theorem apply_shm_none {d : Driver} (h : d.shm = none) (e : CqEvent) :
    (e.apply d).shm = none := by
  cases e with
  | create queueId size prp =>
      have hno : ¬ CqCallOk d queueId := by
        rintro ⟨_, _, shm, hshm, _⟩
        rw [h] at hshm
        cases hshm
      rw [CqEvent.apply, (vnvmeCreateIoCompletionQueue_refused hno size prp).2, h]
  | delete queueId =>
      by_cases hok : CqDeleteOk d queueId
      · rw [CqEvent.apply, vnvmeDeleteIoCompletionQueue_ok hok]
        exact congrArg (Option.map (clearCqDesc queueId)) h
      · rw [CqEvent.apply, (vnvmeDeleteIoCompletionQueue_refused hok).2, h]
  | post queueId completion =>
      rw [CqEvent.apply, vnvmePostCompletion, cqCheck, h]
      exact h
  | batch queueId completions =>
      rw [CqEvent.apply, vnvmePostCompletionBatch, batchCheck, h]
      split_ifs <;> exact h
  | abort =>
      rw [CqEvent.apply, vnvmeAbortPendingUserCommands, h]
      exact h
  | serve ctx cmd => exact congrArg (Option.map _) h
  | head q value => exact (noteCqHead_shm (d.ringCqHead q value) q).trans h
  | elsewhere d' => exact congrArg (Option.map _) h

theorem CqRun.Tracked.step (h : s.Tracked) (e : CqEvent) : (cqStep s e).Tracked := by
  intro shm' hshm'
  cases hshm : s.driver.shm with
  | none =>
      have hnone : (cqStep s e).driver.shm = none := apply_shm_none hshm e
      rw [hnone] at hshm'
      cases hshm'
  | some shm =>
      obtain ⟨shm₁, hshm₁, htracked⟩ := (h shm hshm).apply hshm e
      obtain rfl : shm₁ = shm' := Option.some.inj (hshm₁.symm.trans hshm')
      exact htracked

/-- A routine leaves the unread entries alone exactly if it finds enough room. -/
theorem CqRun.Tracked.noOverrun_iff (h : s.Tracked) (e : CqEvent) :
    NoOverrun s e ↔ HasRoom s e := by
  cases hshm : s.driver.shm with
  | none =>
      have hcap : ∀ q, s.driver.cqCapacity q = 0 := fun q => by rw [Driver.cqCapacity, hshm]; rfl
      refine iff_of_true ⟨fun _ => ⟨(0, s.driver), ?_⟩, fun _ q hq => absurd (hcap q) hq⟩
        ⟨fun _ shm hs => absurd (hshm.symm.trans hs) (by simp), fun _ q hq => absurd (hcap q) hq⟩
      rw [vnvmeAbortPendingUserCommands, hshm]
  | some shm =>
      have htracked := h shm hshm
      have hreturns : (e = .abort → ∃ r, vnvmeAbortPendingUserCommands 0x10000 s.driver = some r) ↔
          (e = .abort → ∀ shm, s.driver.shm = some shm →
            ∀ q ∈ abortedQueues shm s.driver.pdo, (shm.sq q).Drainable) := by
        refine imp_congr_right fun _ => ?_
        rw [abort_returns_iff (Nat.le_refl _) hshm]
        constructor
        · intro hall shm' hshm'
          obtain rfl : shm = shm' := Option.some.inj (hshm.symm.trans hshm')
          exact hall
        · intro hall
          exact hall shm hshm
      -- where the routine comes back, what it writes is counted beforehand
      have hroom : (e = .abort → ∃ r, vnvmeAbortPendingUserCommands 0x10000 s.driver = some r) →
          e.isPost = true → ∀ q, s.driver.cqCapacity q ≠ 0 →
          (AllNew (s.unread q) (writtenSlots s.driver (e.apply s.driver) q) ↔
            e.count s.driver q = 0 ∨
              (s.unread q).length + e.count s.driver q ≤ (s.driver.cqCapacity q).toNat) := by
        intro hret hpost q hc
        rw [cqCapacity_eq hshm] at hc ⊢
        obtain ⟨shm', hshm', _, hall⟩ := isPost_counted hshm htracked.size hpost hret
        obtain ⟨hfilled, hcount⟩ := hall q
        have hwin := htracked.window q hc
        obtain ⟨ws, hlog, hslots, _⟩ := hfilled.written hwin.tail_lt
        have hlen : ws.length = e.count s.driver q := by
          rw [hlog, List.length_append] at hcount
          omega
        rw [writtenSlots_eq hshm hshm' hlog, hslots, hwin.allNew_iff, hlen]
      constructor
      · intro hno
        exact ⟨hreturns.mp hno.returns, fun hpost q hc =>
          (hroom hno.returns hpost q hc).mp (hno.intact hpost q hc)⟩
      · intro hroom'
        have hret := hreturns.mpr hroom'.drainable
        exact ⟨hret, fun hpost q hc => (hroom hret hpost q hc).mpr (hroom'.room hpost q hc)⟩

end Tracked

/-- The tails are slots of their queues, and the admin queues have the same size. -/
def CqsInRange (shm : Shm) : Prop :=
  (shm.sq 0).capacity = (shm.cq 0).capacity ∧
    ∀ q, (shm.cq q).capacity ≠ 0 → (shm.cq q).tail < (shm.cq q).capacity

theorem cqsInRange_allocated : CqsInRange vnvmeAllocateShm := by
  refine ⟨rfl, fun q hc => ?_⟩
  by_cases hq : q = 0
  · subst hq
    decide
  · exact absurd (by simp [vnvmeAllocateShm, hq]) hc

/-- A driver whose host has consumed nothing. -/
def freshCqRun : CqRun := { driver := Driver.fresh .allQueues, unread := fun _ => [] }

/-- Completion queue 1 has two slots and is filled. -/
def fillingCq : List CqEvent := [.create 1 2 0, .post 1 { cid := 7 }, .post 1 { cid := 8 }]

end VirtualNvme
