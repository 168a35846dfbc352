import VirtualNvme.RingBuffer.Trace
import VirtualNvme.Runs
import VirtualNvme.Verification.AdminPhase
import VirtualNvme.Verification.NotifyRing

/-!
# What a poll does to the admin queues

A poll of the server takes all notifications in the ring. For those of the admin queue it
runs the commands from the stored head up to the notified index, one after the other, so all
together it runs what lies between the old head and the last index, posts one completion for
each command, and leaves the head on the last index.

`Ran` says that a server has run a list of commands; it composes, so one command, one
notification and one poll are the same statement about longer and longer lists.
-/

namespace VirtualNvme

open RingBuffer
open Runs (EachStep)

/-! ## Running a list of commands -/

/-- What one command does to the state of the handlers and to the data buffer. -/
def adminExec (x : AdminCmdContext × (UInt32 → UInt8)) (cmd : NvmeCommand) :
    AdminCmdContext × (UInt32 → UInt8) :=
  (adminCmdDispatch x.1 x.2 cmd).elim x fun r => (r.ctx, r.data)

/-- Index and phase of a server that has posted `k` admin completions. -/
structure PostsAt (c : UInt32) (k : Nat) (s : Server) : Prop where
  capacity : (s.shm.cq 0).capacity = c
  at_tail : At c k (s.shm.cq 0).tail
  phase : s.ctx.adminCqPhase = if phaseAt c true k then 1 else 0

/-- `w` is the `k`-th completion of a queue of `c` slots and completes `cmd`. -/
structure Completes (c : UInt32) (k : Nat) (cmd : NvmeCommand) (w : CqWrite) : Prop where
  slot : w.slot.toNat = k % c.toNat
  phase : nvmeStatusP w.entry.status = 1 ↔ k / c.toNat % 2 = 0
  cid : w.entry.cid = cmd.cid

/-- From `s` on, after `k` completions, the server has run `cmds` and is now `s'`. -/
structure Ran (c : UInt32) (k : Nat) (s s' : Server) (cmds : List NvmeCommand) : Prop where
  posts : PostsAt c (k + cmds.length) s'
  executed : (s'.ctx.adminCtx, s'.shm.dataBuffer) =
    cmds.foldl adminExec (s.ctx.adminCtx, s.shm.dataBuffer)
  log : ∃ ws, s'.shm.cqLog 0 = s.shm.cqLog 0 ++ ws ∧ ws.length = cmds.length ∧
    ∀ j cmd w, cmds[j]? = some cmd → ws[j]? = some w → Completes c (k + j) cmd w

section Ran

variable {c : UInt32} {k : Nat} {s t u : Server}

theorem Ran.nil (h : PostsAt c k s) : Ran c k s s [] := by
  refine ⟨h, rfl, [], (List.append_nil _).symm, rfl, ?_⟩
  intro j cmd w hcmd
  simp at hcmd

theorem Ran.append {xs ys : List NvmeCommand} (h : Ran c k s t xs)
    (h' : Ran c (k + xs.length) t u ys) : Ran c k s u (xs ++ ys) := by
  obtain ⟨ws, hlog, hlen, hws⟩ := h.log
  obtain ⟨vs, hlog', hlen', hvs⟩ := h'.log
  refine ⟨?_, ?_, ws ++ vs, ?_, ?_, ?_⟩
  · rw [List.length_append, ← Nat.add_assoc]
    exact h'.posts
  · rw [List.foldl_append, ← h.executed]
    exact h'.executed
  · rw [hlog', hlog, List.append_assoc]
  · rw [List.length_append, List.length_append, hlen, hlen']
  · intro j cmd w hcmd hw
    rcases Nat.lt_or_ge j xs.length with hj | hj
    · rw [List.getElem?_append_left hj] at hcmd
      rw [List.getElem?_append_left (hlen ▸ hj)] at hw
      exact hws j cmd w hcmd hw
    · rw [List.getElem?_append_right hj] at hcmd
      rw [List.getElem?_append_right (hlen ▸ hj), hlen] at hw
      have hvs := hvs (j - xs.length) cmd w hcmd hw
      rwa [Nat.add_assoc, Nat.add_sub_cancel' hj] at hvs

theorem notWord_bit (b : Bool) : notWord (if b then 1 else 0) = if !b then 1 else 0 := by
  cases b <;> rfl

theorem PostsAt.post (hc : 0 < c) (h : PostsAt c k s) (cid : UInt16) (dw0 : UInt32)
    (sct sc : UInt8) : PostsAt c (k + 1) (cmdEnginePostAdminCompletion s cid dw0 sct sc) := by
  have hstep : InStep c true k (s.shm.cq 0).tail (phaseAt c true k) := ⟨h.at_tail, rfl⟩
  obtain ⟨hat, hphase⟩ := hstep.advance hc
  have htail : ((cmdEnginePostAdminCompletion s cid dw0 sct sc).shm.cq 0).tail =
      next c (s.shm.cq 0).tail := by
    simp [cmdEnginePostAdminCompletion, Shm.setCq, h.capacity]
  refine ⟨?_, ?_, ?_⟩
  · simp [cmdEnginePostAdminCompletion, Shm.setCq, h.capacity]
  · rw [htail]
    exact hat
  · rw [← hphase]
    simp only [cmdEnginePostAdminCompletion, h.capacity, h.phase, notWord_bit]
    split_ifs <;> rfl

/-- One completion is posted at the index, with the phase of its lap. -/
theorem PostsAt.entry (h : PostsAt c k s) (cmd : NvmeCommand) (dw0 : UInt32) (sct sc : UInt8) :
    ∃ w, (cmdEnginePostAdminCompletion s cmd.cid dw0 sct sc).shm.cqLog 0 = s.shm.cqLog 0 ++ [w] ∧
      Completes c k cmd w := by
  have hbyte : s.ctx.adminCqPhase.toUInt8 = if phaseAt c true k then 1 else 0 := by
    rw [h.phase]
    cases phaseAt c true k <;> rfl
  refine ⟨⟨(s.shm.cq 0).tail,
    { dw0 := dw0
      sqhd := (s.shm.sq 0).head.toUInt16
      cid := cmd.cid
      status := nvmeMakeStatus sct sc s.ctx.adminCqPhase.toUInt8 }⟩, ?_, h.at_tail, ?_, rfl⟩
  · simp [cmdEnginePostAdminCompletion, Shm.setCq, Shm.writeCqe]
  rw [hbyte, nvmeMakeStatus_phase, ← phaseAt_true_iff]
  cases phaseAt c true k <;> simp

/-- The server runs one command. -/
theorem ran_command (hc : 0 < c) (h : PostsAt c k s) (cmd : NvmeCommand) :
    Ran c k s (cmdEngineProcessAdminCommand s cmd) [cmd] := by
  -- the handler leaves index and phase alone, and the post comes after it
  have hpost : ∀ (v : Server) (dw0 : UInt32) (sct sc : UInt8), PostsAt c k v →
      v.shm.cqLog 0 = s.shm.cqLog 0 →
      (v.ctx.adminCtx, v.shm.dataBuffer) = adminExec (s.ctx.adminCtx, s.shm.dataBuffer) cmd →
      Ran c k s (cmdEnginePostAdminCompletion v cmd.cid dw0 sct sc) [cmd] := by
    intro v dw0 sct sc hv hlog hexec
    obtain ⟨w, hw, hcompletes⟩ := hv.entry cmd dw0 sct sc
    refine ⟨hv.post hc _ _ _ _, hexec, [w], hlog ▸ hw, rfl, ?_⟩
    intro j x y hx hy
    cases j with
    | zero =>
        obtain rfl : cmd = x := by simpa using hx
        obtain rfl : w = y := by simpa using hy
        exact hcompletes
    | succ j => simp at hx
  unfold cmdEngineProcessAdminCommand
  cases hr : adminCmdDispatch s.ctx.adminCtx s.shm.dataBuffer cmd with
  | none =>
      refine hpost _ _ _ _ ⟨h.capacity, h.at_tail, h.phase⟩ rfl ?_
      rw [adminExec, hr]
      rfl
  | some r =>
      refine hpost _ _ _ _ ⟨h.capacity, h.at_tail, h.phase⟩ rfl ?_
      rw [adminExec, hr]
      rfl

/-- The end of the poll only writes to the ring and to counters. -/
theorem Ran.finish {cmds : List NvmeCommand} {p : Polling} (h : Ran c k s p.server cmds)
    (head : UInt32) : Ran c k s (pollFinish p head) cmds := by
  unfold pollFinish
  dsimp only
  split_ifs
  · exact ⟨⟨h.posts.capacity, h.posts.at_tail, h.posts.phase⟩, h.executed, h.log⟩
  · exact ⟨⟨h.posts.capacity, h.posts.at_tail, h.posts.phase⟩, h.executed, h.log⟩

end Ran

/-! ## One notification -/

section Notification

variable {c : UInt32} {k : Nat}

/-- The loop over the slots `is` runs the commands in them. -/
theorem ran_slots (hc : 0 < c) (is : List UInt32) : ∀ {p : Polling} {k : Nat},
    PostsAt c k p.server →
      Ran c k p.server (is.foldl pollAdminCommand p).server (is.map (p.server.shm.sqMem 0)) ∧
        Serving p.server (is.foldl pollAdminCommand p).server ∧
        (is.foldl pollAdminCommand p).processed = p.processed + UInt64.ofNat is.length := by
  induction is with
  | nil =>
      intro p k h
      exact ⟨Ran.nil h, Serving.refl _, (UInt64.add_zero _).symm⟩
  | cons i is ih =>
      intro p k h
      have hone := ran_command hc h (p.server.shm.sqMem 0 i)
      have hserv := serving_adminCommand p.server (p.server.shm.sqMem 0 i)
      obtain ⟨hran, hserv', hproc⟩ := ih (p := pollAdminCommand p i) hone.posts
      have hmem : (pollAdminCommand p i).server.shm.sqMem = p.server.shm.sqMem := hserv.sqMem
      rw [hmem] at hran
      refine ⟨hone.append hran, hserv.trans hserv', ?_⟩
      rw [List.foldl_cons, hproc, List.length_cons, Nat.add_comm, UInt64.ofNat_add,
        ← UInt64.add_assoc]
      rfl

/-- The server between two notifications: what the loops over the ring and over the admin queue
go by. -/
structure PollsFrom (c : UInt32) (k : Nat) (s : Server) : Prop where
  posts : PostsAt c k s
  capacity : (s.shm.sq 0).capacity = c
  head_lt : (s.shm.sq 0).head < c

theorem pollAdminQueue_ran {p : Polling} {index : UInt32} {fuel : Nat}
    (h : PollsFrom c k p.server) (hindex : index < c) (hfuel : c.toNat < fuel) :
    ∃ p', pollAdminQueue fuel p index = some p' ∧
      Ran c k p.server p'.server ((slots c (p.server.shm.sq 0).head
        (dist c (p.server.shm.sq 0).head index)).map (p.server.shm.sqMem 0)) ∧
      Polled p.server p'.server ∧ (p'.server.shm.sq 0).head = index ∧
      p'.processed = p.processed +
        UInt64.ofNat (dist c (p.server.shm.sq 0).head index) := by
  have hc := pos_of_lt h.head_lt
  have hd : dist c (p.server.shm.sq 0).head index < c.toNat := dist_lt hc
  have hwalk := walk_eq_foldl pollAdminCommand h.head_lt hindex (Nat.lt_trans hd hfuel) p
  obtain ⟨hran, hserv, hproc⟩ := ran_slots hc
    (slots c (p.server.shm.sq 0).head (dist c (p.server.shm.sq 0).head index)) h.posts
  have hqueue : pollAdminQueue fuel p index = some (storeHead 0 (index,
      (slots c (p.server.shm.sq 0).head (dist c (p.server.shm.sq 0).head index)).foldl
        pollAdminCommand p)) := by
    unfold pollAdminQueue
    dsimp only
    rw [h.capacity, hwalk]
    rfl
  obtain ⟨hpolled, hhead, _⟩ := pollAdminQueue_spec hqueue
  refine ⟨_, hqueue, ⟨⟨hran.posts.capacity, hran.posts.at_tail, hran.posts.phase⟩,
    hran.executed, hran.log⟩, hpolled, hhead, ?_⟩
  rw [length_slots] at hproc
  exact hproc

/-- The notification of an admin tail. -/
def adminEntry (index : UInt32) : NotifyEntry := ⟨0, 0, index⟩

/-- The loop over the ring: from the notifications `is` that are in it, the server runs the
commands in the slots it is sent through. -/
theorem ringLoop_ran {size tail : UInt32} {cell : UInt32 → NotifyEntry} {hist : List NotifyEntry}
    {fuel₁ : Nat} (hfuel₁ : c.toNat < fuel₁) (is : List UInt32) :
    ∀ {fuel k taken : Nat} {head : UInt32} {p : Polling},
      Holds size cell head tail hist taken → hist.drop taken = is.map adminEntry →
      p.server.shm.notifyRing.entries = cell → PollsFrom c k p.server → (∀ i ∈ is, i < c) →
      is.length < fuel →
      ∃ p', walk size tail (pollSlot fuel₁) fuel head p = some (tail, p') ∧
        Ran c k p.server p'.server ((visits c (p.server.shm.sq 0).head is).map
          (p.server.shm.sqMem 0)) ∧
        Polled p.server p'.server ∧
        (p'.server.shm.sq 0).head = lastTarget (p.server.shm.sq 0).head is ∧
        p'.processed = p.processed +
          UInt64.ofNat (visits c (p.server.shm.sq 0).head is).length := by
  induction is with
  | nil =>
      intro fuel k taken head p hholds hdrop _ hp _ hfuel
      have hempty : head = tail := by
        refine hholds.head_eq_tail_iff.mpr (Nat.le_antisymm hholds.taken_le ?_)
        exact List.drop_eq_nil_iff.mp hdrop
      obtain ⟨fuel, rfl⟩ := Nat.exists_eq_succ_of_ne_zero (Nat.ne_of_gt hfuel)
      refine ⟨p, ?_, Ran.nil hp.posts, Polled.refl _, rfl, (UInt64.add_zero _).symm⟩
      rw [walk_stop _ hempty, hempty]
  | cons i is ih =>
      intro fuel k taken head p hholds hdrop hcell hp his hfuel
      have hlt : taken < hist.length := by
        by_contra hge
        rw [List.drop_eq_nil_of_le (Nat.not_lt.mp hge)] at hdrop
        cases hdrop
      have hne : head ≠ tail := fun heq =>
        Nat.ne_of_lt hlt (hholds.head_eq_tail_iff.mp heq)
      obtain ⟨hread, hholds'⟩ := hholds.pop hne
      have hsplit := List.drop_eq_getElem_cons hlt
      rw [hdrop, List.map_cons] at hsplit
      obtain ⟨hfirst, hrest⟩ := List.cons.inj hsplit
      have hentry : cell head = adminEntry i := by
        rw [List.getElem?_eq_getElem hlt] at hread
        exact (Option.some.inj hread).symm.trans hfirst.symm
      obtain ⟨p1, hp1, hran1, hpolled1, hhead1, hproc1⟩ := pollAdminQueue_ran hp
        (his i List.mem_cons_self) hfuel₁
      have hslot : pollSlot fuel₁ p head = some p1 := by
        rw [pollSlot, hcell, hentry]
        exact hp1
      obtain ⟨h1, hsq1⟩ := hpolled1.sq 0
      have hfrom := PollsFrom.mk hran1.posts (by
        rw [hsq1]
        exact hp.capacity) (by
        rw [hhead1]
        exact his i List.mem_cons_self)
      obtain ⟨fuel, rfl⟩ := Nat.exists_eq_succ_of_ne_zero (Nat.ne_of_gt (Nat.zero_lt_of_lt hfuel))
      obtain ⟨p', hp', hran, hpolled, hhead, hproc⟩ := ih hholds' hrest.symm
        ((congrArg NotifyRing.entries hpolled1.notifyRing).trans hcell) hfrom
        (fun j hj => his j (List.mem_cons_of_mem i hj)) (Nat.lt_of_succ_lt_succ hfuel)
      rw [hhead1, hpolled1.sqMem] at hran
      rw [hhead1] at hhead hproc
      refine ⟨p', (walk_visit hne hslot fuel).trans hp', ?_, ?_, ?_, ?_⟩
      · rw [visits, List.map_append]
        exact hran1.append hran
      · exact hpolled1.trans hpolled
      · rw [hhead, lastTarget_cons]
      · rw [hproc, hproc1, visits, List.length_append, length_slots, UInt64.ofNat_add,
          ← UInt64.add_assoc]

end Notification

/-! ## Runs -/

/-- A server and the indices that were notified to it since its last poll. -/
structure PollRun where
  server : Server
  waiting : List UInt32 := []

/-- The driver stores and notifies an admin tail, the host writes to the admin queue, or the
server polls. -/
inductive PollEvent where
  | notify (index : UInt32)
  | submit (mem : UInt32 → NvmeCommand)
  | poll

/-- One event. A notification goes the way of `VnvmeForwardAdminCommandsToUser`; a full ring
refuses it. The fuel of the poll is more than it can use. -/
def pollRunStep (w : PollRun) : PollEvent → PollRun
  | .notify index =>
    let shm := w.server.shm
    let r := notifyRingPush (shm.setSq 0 { shm.sq 0 with tail := index }) 0 0 index
    { server := { w.server with shm := r.2 }
      waiting := if r.1 then w.waiting ++ [index] else w.waiting }
  | .submit mem =>
    { w with
      server := { w.server with
        shm := { w.server.shm with sqMem := Function.update w.server.shm.sqMem 0 mem } } }
  | .poll =>
    match cmdEnginePoll (2 ^ 32) w.server with
    | none => w
    | some r => { server := r.2 }

/-- A notified index is a slot of the admin queue of `c` slots. -/
def NotifiesSlot (c : UInt32) : PollEvent → Prop
  | .notify index => index < c
  | .submit _ => True
  | .poll => True

/-- A server that has just been started, on admin queues of `c` slots each and with empty
rings. -/
structure PollStart (c : UInt32) (s : Server) : Prop where
  sqCapacity : (s.shm.sq 0).capacity = c
  cqCapacity : (s.shm.cq 0).capacity = c
  head_lt : (s.shm.sq 0).head < c
  cqTail : (s.shm.cq 0).tail = 0
  cqEmpty : s.shm.cqLog 0 = []
  phase : s.ctx.adminCqPhase = 1
  initialized : s.ctx.initialized = true
  ring : FreshRing s

/-- The poll has run the commands in the slots `is`, in this order, posted one completion for
each and left the head on `last`. -/
structure PollExact (c : UInt32) (s : Server) (is : List UInt32) (last : UInt32)
    (r : UInt64 × Server) : Prop where
  executed : (r.2.ctx.adminCtx, r.2.shm.dataBuffer) =
    (is.map (s.shm.sqMem 0)).foldl adminExec (s.ctx.adminCtx, s.shm.dataBuffer)
  posted : ∃ ws, r.2.shm.cqLog 0 = s.shm.cqLog 0 ++ ws ∧ ws.length = is.length ∧
    ∀ j i w, is[j]? = some i → ws[j]? = some w →
      Completes c ((s.shm.cqLog 0).length + j) (s.shm.sqMem 0 i) w
  head_eq : (r.2.shm.sq 0).head = last
  count : r.1.toNat = is.length

/-- The poll runs the slots from the head on up to the last notified index, in the order of the
ring. If none of the notified tails passes the head, that is less than a round, and every slot
in between is run once. -/
def PollServesWaiting (c : UInt32) (w : PollRun) : Prop :=
  let head := (w.server.shm.sq 0).head
  let last := lastTarget head w.waiting
  ∃ is r, cmdEnginePoll (2 ^ 32) w.server = some r ∧ PollExact c w.server is last r ∧
    is = slots c head is.length ∧ (Onward c head w.waiting → Arc c last head is ∧ is.Nodup)

/-- The invariant of a run. -/
structure PollInv (c : UInt32) (w : PollRun) : Prop where
  polls : PollsFrom c (w.server.shm.cqLog 0).length w.server
  ready : pollReady w.server = true
  inRange : ∀ i ∈ w.waiting, i < c
  ring : ∃ hist taken, Holds w.server.shm.notifyRing.size w.server.shm.notifyRing.entries
    w.server.shm.notifyRing.head w.server.shm.notifyRing.tail hist taken ∧
    hist.drop taken = w.waiting.map adminEntry

section Run

variable {c : UInt32} {w : PollRun}

theorem PollStart.inv {s : Server} (h : PollStart c s) : PollInv c { server := s } := by
  have hc := pos_of_lt h.head_lt
  have hpos : 0 < s.shm.notifyRing.size := UInt32.lt_of_lt_of_le (by decide) h.ring.size_ge
  refine ⟨⟨⟨h.cqCapacity, ?_, ?_⟩, h.sqCapacity, h.head_lt⟩, ?_, ?_,
    [], 0, ?_, rfl⟩
  · rw [h.cqEmpty, h.cqTail]
    exact At.zero c
  · rw [h.cqEmpty, h.phase, List.length_nil, phaseAt_of_lt (k := 0) hc]
    rfl
  · simp [pollReady, h.initialized, h.ring.offset_ne]
  · intro i hi
    exact absurd hi List.not_mem_nil
  · show Holds _ _ s.shm.notifyRing.head s.shm.notifyRing.tail _ _
    rw [h.ring.head_zero, h.ring.tail_zero]
    exact Holds.empty hpos _

theorem PollInv.ringOffset (h : PollInv c w) : w.server.shm.notifyRingOffset ≠ 0 := by
  have hready := h.ready
  rw [pollReady, Bool.and_eq_true, decide_eq_true_iff] at hready
  exact hready.2

/-- A notification is added behind those that wait, or refused by a full ring. -/
theorem PollInv.notify (h : PollInv c w) {index : UInt32}
    (hindex : index < c) : PollInv c (pollRunStep w (.notify index)) := by
  obtain ⟨hist, taken, hholds, hdrop⟩ := h.ring
  have hoff : (w.server.shm.setSq 0 { w.server.shm.sq 0 with tail := index }).notifyRingOffset ≠
      0 := h.ringOffset
  have hpush := notifyRingPush_eq hoff (adminEntry index)
  have hpolls : ∀ ring, PollsFrom c (w.server.shm.cqLog 0).length { w.server with
      shm := { w.server.shm.setSq 0 { w.server.shm.sq 0 with tail := index } with
        notifyRing := ring } } :=
    fun ring => ⟨⟨h.polls.posts.capacity, h.polls.posts.at_tail, h.polls.posts.phase⟩,
      h.polls.capacity, h.polls.head_lt⟩
  by_cases hfull : next w.server.shm.notifyRing.size w.server.shm.notifyRing.tail =
      w.server.shm.notifyRing.head
  · have hp : (w.server.shm.setSq 0 { w.server.shm.sq 0 with tail := index }).notifyRing.push
        (adminEntry index) = (false, w.server.shm.notifyRing) := push_full hfull _
    rw [hp] at hpush
    have hstep : pollRunStep w (.notify index) = { w with server := { w.server with
        shm := w.server.shm.setSq 0 { w.server.shm.sq 0 with tail := index } } } := by
      simp only [pollRunStep]
      rw [show notifyRingPush _ 0 0 index = _ from hpush]
      rfl
    rw [hstep]
    exact ⟨hpolls w.server.shm.notifyRing, h.ready, h.inRange, hist, taken, hholds, hdrop⟩
  · have hp : (w.server.shm.setSq 0 { w.server.shm.sq 0 with tail := index }).notifyRing.push
        (adminEntry index) = _ := push_free hfull _
    rw [hp] at hpush
    have hstep : pollRunStep w (.notify index) =
        { server := { w.server with
            shm := { w.server.shm.setSq 0 { w.server.shm.sq 0 with tail := index } with
              notifyRing := { w.server.shm.notifyRing with
                entries := Function.update w.server.shm.notifyRing.entries
                  w.server.shm.notifyRing.tail (adminEntry index)
                tail := next w.server.shm.notifyRing.size w.server.shm.notifyRing.tail } } }
          waiting := w.waiting ++ [index] } := by
      simp only [pollRunStep]
      rw [show notifyRingPush _ 0 0 index = _ from hpush]
      rfl
    rw [hstep]
    refine ⟨hpolls _, h.ready, ?_, hist ++ [adminEntry index], taken, hholds.push hfull _, ?_⟩
    · intro i hi
      rcases List.mem_append.mp hi with hi | hi
      · exact h.inRange i hi
      · rw [List.mem_singleton.mp hi]
        exact hindex
    · rw [List.drop_append_of_le_length hholds.taken_le, hdrop, List.map_append]
      rfl

/-- The number of commands of one poll fits in the result. -/
theorem visits_length_lt {i : UInt32} {js : List UInt32} (hi : i < c) (hjs : ∀ j ∈ js, j < c)
    (hlen : js.length < 2 ^ 32) : (visits c i js).length < 2 ^ 64 := by
  have hc : c.toNat < 2 ^ 32 := c.toNat_lt
  calc (visits c i js).length ≤ js.length * c.toNat := length_visits_le hi hjs
    _ ≤ (2 ^ 32 - 1) * (2 ^ 32 - 1) := Nat.mul_le_mul (by omega) (by omega)
    _ < 2 ^ 64 := by decide

theorem PollInv.submit (h : PollInv c w) (mem : UInt32 → NvmeCommand) :
    PollInv c (pollRunStep w (.submit mem)) :=
  ⟨⟨⟨h.polls.posts.capacity, h.polls.posts.at_tail, h.polls.posts.phase⟩, h.polls.capacity,
    h.polls.head_lt⟩, h.ready, h.inRange, h.ring⟩

/-- The poll runs what waits, and starts over with nothing waiting. -/
theorem PollInv.poll (h : PollInv c w) :
    PollServesWaiting c w ∧ PollInv c (pollRunStep w .poll) := by
  obtain ⟨hist, taken, hholds, hdrop⟩ := h.ring
  have hlen : w.waiting.length < 2 ^ 32 := by
    have hroom := hholds.room
    have hsize : w.server.shm.notifyRing.size.toNat < 2 ^ 32 := UInt32.toNat_lt _
    have hcount := congrArg List.length hdrop
    rw [List.length_drop, List.length_map] at hcount
    omega
  obtain ⟨p, hwalk, hran, hpolled, hhead, hproc⟩ := ringLoop_ran c.toNat_lt w.waiting hholds hdrop
    rfl (p := { server := w.server }) h.polls h.inRange hlen
  have hpoll : cmdEnginePoll (2 ^ 32) w.server =
      some (p.processed, pollFinish p w.server.shm.notifyRing.tail) := by
    rw [cmdEnginePoll, if_pos h.ready]
    exact congrArg (Option.map _) hwalk
  have hlast := lastTarget_lt h.polls.head_lt h.inRange
  have hfin := hran.finish w.server.shm.notifyRing.tail
  constructor
  · refine ⟨_, _, hpoll, ⟨hfin.executed, ?_, ?_, ?_⟩, visits_eq_slots h.polls.head_lt h.inRange, ?_⟩
    · obtain ⟨ws, hlog, hwlen, hws⟩ := hfin.log
      rw [List.length_map] at hwlen
      refine ⟨ws, hlog, hwlen, fun j i x hi hx => hws j _ x ?_ hx⟩
      rw [List.getElem?_map, hi]
      rfl
    · rw [pollFinish_sq]
      exact hhead
    · simp only [hproc, UInt64.zero_add]
      exact UInt64.toNat_ofNat_of_lt' (visits_length_lt h.polls.head_lt h.inRange hlen)
    · intro honward
      have harc := arc_slots h.polls.head_lt hlast
      rw [← honward.visits_eq h.polls.head_lt h.inRange] at harc
      exact ⟨harc, harc.nodup⟩
  · obtain ⟨head, hsq⟩ := hpolled.sq 0
    have hstep : pollRunStep w .poll =
        { server := pollFinish p w.server.shm.notifyRing.tail } := by
      simp only [pollRunStep, hpoll]
    obtain ⟨ws, hlog, hwlen, _⟩ := hfin.log
    rw [hstep]
    refine ⟨⟨?_, ?_, ?_⟩, ?_, ?_, hist, hist.length, ?_, ?_⟩
    · have hposts := hfin.posts
      rw [← hwlen, ← List.length_append, ← hlog] at hposts
      exact hposts
    · rw [pollFinish_sq, hsq]
      exact h.polls.capacity
    · rw [pollFinish_sq, hhead]
      exact hlast
    · have hready := h.ready
      rw [pollReady] at hready ⊢
      rw [pollFinish_initialized, pollFinish_notifyRingOffset, hpolled.initialized,
        hpolled.notifyRingOffset]
      exact hready
    · intro i hi
      exact absurd hi List.not_mem_nil
    · rw [pollFinish_notifyRing, hpolled.notifyRing]
      exact hholds.release hholds.tail_at hholds.taken_le (Nat.le_refl _)
    · exact List.drop_length

theorem PollInv.step {e : PollEvent} (h : PollInv c w) (hok : NotifiesSlot c e) :
    PollInv c (pollRunStep w e) := by
  cases e with
  | notify index => exact h.notify hok
  | submit mem => exact h.submit mem
  | poll => exact h.poll.2

end Run

/-- **What a poll does to the admin queues.** In every run of notifications of slots of the admin
queue and polls, every poll comes back after it has run exactly the commands from the old head
up to the last index, in the order of the ring, posted one completion for each, the `k`-th of
all into slot `k mod c` with phase 1 iff `k / c` is even, left the head on the last index, and
counted what it has run; and if the notified tails stay less than a round ahead of the head,
these are the slots between the head and the last index, each once. -/
theorem adminPoll_exact {c : UInt32} {s : Server} (h : PollStart c s) (events : List PollEvent)
    (hok : ∀ e ∈ events, NotifiesSlot c e) :
    EachStep pollRunStep (fun w e => e = .poll → PollServesWaiting c w) { server := s } events := by
  have hgood : EachStep pollRunStep (fun _ e => NotifiesSlot c e) { server := s } events := by
    intro pre e post heq
    exact hok e (heq ▸ List.mem_append_right pre List.mem_cons_self)
  have hinv := Runs.throughout_of_eachStep (J := PollInv c) (fun w e hw hg => hw.step hg) h.inv
    hgood
  rintro pre e post heq rfl
  exact (hinv pre (.poll :: post) heq).poll.1

theorem startedEngine_pollStart : PollStart 64 ⟨startedEngine, vnvmeAllocateShm⟩ where
  sqCapacity := rfl
  cqCapacity := rfl
  head_lt := by decide
  cqTail := rfl
  cqEmpty := rfl
  phase := rfl
  initialized := rfl
  ring := ⟨by decide, rfl, rfl, by decide⟩

/-- Two notifications and a poll: three commands are run. -/
theorem adminPoll_exact_three :
    (∀ e ∈ [PollEvent.notify 1, .notify 3, .poll], NotifiesSlot 64 e) ∧
      PollServesWaiting 64 (Runs.run pollRunStep { server := ⟨startedEngine, vnvmeAllocateShm⟩ }
        [.notify 1, .notify 3]) ∧
      (Runs.run pollRunStep { server := ⟨startedEngine, vnvmeAllocateShm⟩ }
        [.notify 1, .notify 3]).waiting = [1, 3] ∧ Onward 64 0 [1, 3] := by
  have hok : ∀ e ∈ [PollEvent.notify 1, .notify 3, .poll], NotifiesSlot 64 e := by
    simp only [List.forall_mem_cons, NotifiesSlot]
    exact ⟨by decide, by decide, trivial, fun e he => absurd he List.not_mem_nil⟩
  refine ⟨hok, ?_, by decide, ?_⟩
  · exact adminPoll_exact startedEngine_pollStart _ hok [.notify 1, .notify 3] .poll [] rfl rfl
  · exact List.isChain_cons_cons.mpr ⟨by decide, List.isChain_singleton _⟩

end VirtualNvme
