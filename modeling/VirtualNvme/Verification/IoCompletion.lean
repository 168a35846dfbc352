import VirtualNvme.Verification.Abort
import VirtualNvme.Verification.CommandFrame

/-!
# Which completion queue hears of a command

`HandleCreateIoSq` records the completion queue of a submission queue, and nothing reads
the record afterwards: `PostIoCompletion` and the abort post to the completion queue with
the id of the submission queue. A command is completed where it should be exactly when
the two ids are the same, and the completion queue with that id is in use.
-/

namespace VirtualNvme

open RingBuffer

/-! ## What a completion queue receives -/

/-- Everything written to completion queue `c`. -/
def Driver.cqLog (d : Driver) (c : Nat) : List CqWrite :=
  (d.shm.map fun shm => shm.cqLog c).getD []

/-- The commands of submission queue `q` that completion queue `c` has been told about
between `d` and `d'`. -/
def receivedFor (d d' : Driver) (c : Nat) (q : UInt16) : List UInt16 :=
  (((d'.cqLog c).drop (d.cqLog c).length).filter fun w => w.entry.sqid = q).map
    fun w => w.entry.cid

/-- The commands `cids` of submission queue `q` have been completed, once each and in this
order, in completion queue `c` and in no other. -/
structure CompletedIn (d d' : Driver) (q : UInt16) (c : Nat) (cids : List UInt16) : Prop where
  there : receivedFor d d' c q = cids
  nowhere : ∀ r, r ≠ c → receivedFor d d' r q = []

theorem receivedFor_append {d d' : Driver} {c : Nat} (ws : List CqWrite)
    (h : d'.cqLog c = d.cqLog c ++ ws) (q : UInt16) :
    receivedFor d d' c q = (ws.filter fun w => w.entry.sqid = q).map fun w => w.entry.cid := by
  rw [receivedFor, h, List.drop_left]

theorem receivedFor_same {d d' : Driver} {c : Nat} (h : d'.cqLog c = d.cqLog c) (q : UInt16) :
    receivedFor d d' c q = [] := by
  rw [receivedFor_append [] (by rw [h, List.append_nil])]
  rfl

/-! ## A command in the kernel -/

theorem applyPosts_cqLog (d : Driver) (shm : Shm) (q : Nat) (x : NvmeCompletion) :
    (applyPosts d shm q [x]).cqLog =
      Function.update shm.cqLog q (shm.cqLog q ++
        [⟨(shm.cq q).tail, withPhase x (d.pdo.cq q).phaseTag⟩]) := rfl

/-- An I/O command is completed in the queue with its own id, if that queue is accepted,
and nowhere otherwise. -/
theorem vnvmeProcessIoCommand_cases (d : Driver) {q : UInt16} (hq : q ≠ 0)
    (cmd : NvmeCommand) :
    ((¬ ∃ shm, cqCheck d q = .ok shm) ∧
        ∀ c, (vnvmeProcessIoCommand d q cmd).2.cqLog c = d.cqLog c) ∨
      ∃ shm w, cqCheck d q = .ok shm ∧ w.entry.cid = cmd.cid ∧ w.entry.sqid = q ∧
        (vnvmeProcessIoCommand d q cmd).2.cqLog =
          Function.update shm.cqLog q.toNat (shm.cqLog q.toNat ++ [w]) := by
  obtain ⟨sct, sc, heq⟩ := vnvmeProcessIoCommand_eq d q cmd
  have hcheck : cqCheck (ioHandled d cmd) q = cqCheck d q := rfl
  rw [heq]
  cases hc : cqCheck d q with
  | error e =>
      refine Or.inl ⟨by simp, fun c => ?_⟩
      rcases postIoCompletion_cases (ioHandled d cmd) q cmd.cid sct sc with
        ⟨_, hd⟩ | ⟨x, _, _, hd⟩
      · rw [hd]
        rfl
      · rw [hd, vnvmePostCompletion_error (hcheck.trans hc)]
        rfl
  | ok shm =>
      obtain ⟨_, hio, _⟩ := cqCheck_ok_iff.mp hc
      obtain ⟨hle, hcreated, _⟩ := hio hq
      have hle16 : q ≤ 16 := by
        have h1 : q.toUInt32.toNat ≤ d.config.maxIOQueues.toNat := hle
        have h2 : d.config.maxIOQueues.toNat ≤ 16 := d.config.maxIOQueues_le
        rw [UInt16.toNat_toUInt32] at h1
        show q.toNat ≤ 16
        omega
      obtain ⟨x, hcid, hsqid, hd⟩ := postIoCompletion_posts (d := ioHandled d cmd) hq hle16
        hcreated cmd.cid sct sc
      refine Or.inr ⟨shm, ⟨(shm.cq q.toNat).tail, withPhase x (d.pdo.cq q.toNat).phaseTag⟩, rfl,
        hcid, hsqid, ?_⟩
      rw [hd, vnvmePostCompletion_ok (hcheck.trans hc)]
      exact applyPosts_cqLog _ shm q.toNat x

/-- The completion queue with id `q` is one that `VnvmePostCompletion` accepts. -/
structure CqAccepted (d : Driver) (shm : Shm) (q : UInt16) : Prop where
  shm_eq : d.shm = some shm
  configured : q.toUInt32 ≤ d.config.maxIOQueues
  created : (d.pdo.cq q.toNat).created = true
  described : shm.ioQueueDescriptorOffset ≠ 0
  valid : (shm.cq q.toNat).valid ≠ 0

theorem cqCheck_accepted_iff {d : Driver} {shm : Shm} {q : UInt16} (hq : q ≠ 0) :
    cqCheck d q = .ok shm ↔ CqAccepted d shm q := by
  rw [cqCheck_ok_iff]
  constructor
  · rintro ⟨hshm, hio, hvalid⟩
    obtain ⟨hle, hcreated, hoff⟩ := hio hq
    exact ⟨hshm, hle, hcreated, hoff, hvalid⟩
  · intro h
    exact ⟨h.shm_eq, fun _ => ⟨h.configured, h.created, h.described⟩, h.valid⟩

theorem vnvmeProcessIoCommand_completed_iff (d : Driver) {q : UInt16} (hq : q ≠ 0)
    (cmd : NvmeCommand) :
    CompletedIn d (vnvmeProcessIoCommand d q cmd).2 q (d.pdo.sq q.toNat).cqId.toNat [cmd.cid] ↔
      (d.pdo.sq q.toNat).cqId = q ∧ ∃ shm, CqAccepted d shm q := by
  rcases vnvmeProcessIoCommand_cases d hq cmd with ⟨hno, hlog⟩ | ⟨shm, w, hok, hcid, hsqid, hlog⟩
  · constructor
    · intro h
      have hthere := h.there
      rw [receivedFor_same (hlog _)] at hthere
      cases hthere
    · rintro ⟨_, shm, hacc⟩
      exact absurd ⟨shm, (cqCheck_accepted_iff hq).mpr hacc⟩ hno
  · have hshm := (cqCheck_ok_iff.mp hok).1
    have hold : ∀ c, d.cqLog c = shm.cqLog c := by
      intro c
      rw [Driver.cqLog, hshm]
      rfl
    have hself : receivedFor d (vnvmeProcessIoCommand d q cmd).2 q.toNat q = [cmd.cid] := by
      rw [receivedFor_append [w] (by rw [hlog, Function.update_self, hold])]
      simp [hsqid, hcid]
    have hother : ∀ c, c ≠ q.toNat →
        receivedFor d (vnvmeProcessIoCommand d q cmd).2 c q = [] := by
      intro c hc
      exact receivedFor_same (by rw [hlog, Function.update_of_ne hc, hold]) q
    constructor
    · intro h
      refine ⟨?_, shm, (cqCheck_accepted_iff hq).mp hok⟩
      by_contra hne
      have hthere := h.there
      rw [hother _ fun heq => hne (UInt16.toNat_inj.mp heq)] at hthere
      cases hthere
    · rintro ⟨heq, _⟩
      rw [heq]
      exact ⟨hself, hother⟩

/-! ## An abort -/

/-- The identifiers of the commands that wait in submission queue `q`, oldest first. -/
def pendingCids (shm : Shm) (q : Nat) : List UInt16 :=
  (slots (shm.sq q).capacity (shm.sq q).head (shm.sq q).pending).map
    fun i => (shm.sqMem q i).cid

/-- What an aborted queue has written, as command identifiers. -/
theorem QueueAborted.cids {mem : UInt32 → NvmeCommand} {q : Nat} {sq sq' cq cq' : QueueDescriptor}
    {log log' : List CqWrite} (h : QueueAborted mem q sq sq' cq cq' log log')
    (hsq : sq.InRange) :
    ∃ ws, log' = log ++ ws ∧ (∀ w ∈ ws, w.entry.sqid = UInt16.ofNat q) ∧
      ws.map (fun w => w.entry.cid) =
        (slots sq.capacity sq.head sq.pending).map fun i => (mem i).cid := by
  obtain ⟨ws, hlog, hlen, hentry⟩ := h.writes
  refine ⟨ws, hlog, ?_, ?_⟩
  · intro w hw
    obtain ⟨j, hj⟩ := List.mem_iff_getElem?.mp hw
    exact (hentry j w hj).sqid
  · apply List.ext_getElem
    · rw [List.length_map, List.length_map, length_slots, hlen]
    · intro j hj hj'
      rw [List.length_map] at hj hj'
      rw [List.getElem_map, List.getElem_map]
      obtain ⟨i, hi, hcid⟩ := (hentry j _ (List.getElem?_eq_getElem hj)).cid
      have hslot := slots_at (pos_of_lt hsq.head_lt) (At.self hsq.head_lt)
        (List.getElem?_eq_getElem hj')
      rw [hcid, At.unique hslot hi]

theorem le_of_mem_abortedQueues {shm : Shm} {p : PdoContext} {q : Nat}
    (h : q ∈ abortedQueues shm p) : q < 2 ^ 16 := by
  have hcount : p.ioQueueCount.toNat < 2 ^ 16 := p.ioQueueCount.toNat_lt
  unfold abortedQueues at h
  rcases List.mem_cons.mp h with rfl | h
  · decide
  · split at h
    · obtain ⟨i, hi, rfl⟩ := List.mem_map.mp (List.mem_of_mem_filter h)
      have := List.mem_range.mp hi
      omega
    · cases h

section Aborted

variable {d d' : Driver} {shm : Shm}

/-- What the completion queues hear of submission queue `q` in an abort. -/
theorem AbortedAll.completedIn (hshm : d.shm = some shm) {a : Aborting}
    (hshm' : d'.shm = some a.shm) (h : AbortReady shm d.pdo)
    (hall : AbortedAll (abortedQueues shm d.pdo) { shm := shm, pdo := d.pdo } a)
    {q : Nat} (hq : q ∈ abortedQueues shm d.pdo) :
    CompletedIn d d' (UInt16.ofNat q) q (pendingCids shm q) := by
  have hlog : ∀ c, d.cqLog c = shm.cqLog c ∧ d'.cqLog c = a.shm.cqLog c := by
    intro c
    rw [Driver.cqLog, Driver.cqLog, hshm, hshm']
    exact ⟨rfl, rfl⟩
  constructor
  · obtain ⟨ws, hws, hsqid, hcids⟩ := (hall.queue q hq).cids (h.sq q hq)
    rw [receivedFor_append ws (by rw [(hlog q).1, (hlog q).2, hws])]
    rw [List.filter_eq_self.mpr fun w hw => decide_eq_true (hsqid w hw)]
    exact hcids
  · intro c hc
    by_cases hmem : c ∈ abortedQueues shm d.pdo
    · obtain ⟨ws, hws, hsqid, _⟩ := (hall.queue c hmem).cids (h.sq c hmem)
      rw [receivedFor_append ws (by rw [(hlog c).1, (hlog c).2, hws])]
      have hne : UInt16.ofNat c ≠ UInt16.ofNat q := by
        intro heq
        have hnat := congrArg UInt16.toNat heq
        rw [UInt16.toNat_ofNat_of_lt' (le_of_mem_abortedQueues hmem),
          UInt16.toNat_ofNat_of_lt' (le_of_mem_abortedQueues hq)] at hnat
        exact hc hnat
      rw [List.filter_eq_nil_iff.mpr]
      · rfl
      · intro w hw
        rw [hsqid w hw]
        simpa using hne
    · exact receivedFor_same (by rw [(hlog c).1, (hlog c).2, (hall.other c hmem).2.2.1]) _

/-- Nothing pending is completed anywhere; something pending is completed in one place. -/
theorem CompletedIn.move_iff {q : UInt16} {c c' : Nat} {cids : List UInt16}
    (h : CompletedIn d d' q c cids) : CompletedIn d d' q c' cids ↔ cids = [] ∨ c' = c := by
  constructor
  · intro h'
    by_cases hc : c' = c
    · exact Or.inr hc
    · exact Or.inl (h'.there.symm.trans (h.nowhere c' hc))
  · rintro (rfl | rfl)
    · have hnone : ∀ r, receivedFor d d' r q = [] := by
        intro r
        by_cases hr : r = c
        · rw [hr]
          exact h.there
        · exact h.nowhere r hr
      exact ⟨hnone c', fun r _ => hnone r⟩
    · exact h

end Aborted

theorem pendingCids_eq_nil_iff {shm : Shm} {q : Nat} :
    pendingCids shm q = [] ↔ (shm.sq q).pending = 0 := by
  rw [← List.length_eq_zero_iff, pendingCids, List.length_map, length_slots]

/-- Completion queues 1 and 2, and submission queue 1, created for completion queue
`cqid`. -/
def pairedDriver (cqid : UInt32) : Driver :=
  let d := (vnvmeCreateIoCompletionQueue (Driver.fresh .allQueues) 1 4 0).2
  let d := (vnvmeCreateIoCompletionQueue d 2 4 0).2
  { d with pdo := (handleCreateIoSq d.pdo d.os
      { cdw10 := 0x00030001, cdw11 := cqid <<< 16 }).pdo }

/-- A flush of a namespace that does not exist. -/
def flushCommand : NvmeCommand := { opc := nvmeIoFlush, cid := 7, nsid := 1 }

end VirtualNvme
