import VirtualNvme.Driver.Doorbell
import VirtualNvme.Verification.NotifyRing

/-!
# From the doorbell to the server

In user mode the poller stores a new tail, pushes a notification and records the tail as
handled; the server runs the commands and stores the head. The poller records the tail
also when nothing was pushed: when the server is not ready, when the ring is full, and
for an I/O queue, whose descriptor the server does not know. In runs without these three
the two sides meet: the ring refines the queue of `NotifyRing`, the last entry pushed is
the recorded tail, and the last entry consumed is the stored head.
-/

namespace VirtualNvme

open RingBuffer

/-! ## What a poll in user mode does -/

/-- A poll that has found nothing to forward. -/
structure Undisturbed (d d' : Driver) : Prop where
  shm : d'.shm = d.shm
  sq : d'.pdo.sq = d.pdo.sq
  bar0 : d'.pdo.bar0 = d.pdo.bar0
  cachedCC : d'.pdo.cachedCC = d.pdo.cachedCC
  lastAdminSqTail : d'.pdo.lastAdminSqTail = d.pdo.lastAdminSqTail

theorem Undisturbed.refl (d : Driver) : Undisturbed d d := ⟨rfl, rfl, rfl, rfl, rfl⟩

theorem Undisturbed.trans {a b c : Driver} (h : Undisturbed a b) (h' : Undisturbed b c) :
    Undisturbed a c :=
  ⟨h'.shm.trans h.shm, h'.sq.trans h.sq, h'.bar0.trans h.bar0, h'.cachedCC.trans h.cachedCC,
    h'.lastAdminSqTail.trans h.lastAdminSqTail⟩

/-- No I/O doorbell differs from the tail recorded for its queue. -/
def IoQuiet (p : PdoContext) (regs : Bar0) : Prop :=
  ∀ i < p.ioQueueCount.toNat, (p.sq (i + 1)).created = true →
    regs.doorbells (2 * (i + 1)) &&& 0xFFFF = (p.sq (i + 1)).tail

/-- The tail of the admin submission queue in the doorbells. -/
def adminTail (regs : Bar0) : UInt32 := regs.doorbells 0 &&& 0xFFFF

theorem processIoDoorbells_quiet {fuel : Nat} {regs : Bar0} {r r' : Bool × Driver} {i : Nat}
    (hquiet : (r.2.pdo.sq (i + 1)).created = true →
      regs.doorbells (2 * (i + 1)) &&& 0xFFFF = (r.2.pdo.sq (i + 1)).tail)
    (h : processIoDoorbells fuel regs r i = some r') : Undisturbed r.2 r'.2 := by
  unfold processIoDoorbells at h
  by_cases hc : (r.2.pdo.sq (i + 1)).created = true
  · simp only [hc, Bool.not_true, Bool.false_eq_true, if_false, if_pos (hquiet hc),
      Option.map_some, Option.some.injEq] at h
    rw [← h]
    exact ⟨rfl, rfl, rfl, rfl, rfl⟩
  · simp only [Bool.not_eq_true] at hc
    simp only [hc, Bool.not_false, if_true, Option.some.injEq] at h
    rw [← h]
    exact Undisturbed.refl _

theorem ioDoorbells_quiet {fuel : Nat} {regs : Bar0} {r r' : Bool × Driver}
    (hquiet : IoQuiet r.2.pdo regs)
    (h : (List.range r.2.pdo.ioQueueCount.toNat).foldlM (processIoDoorbells fuel regs) r =
      some r') : Undisturbed r.2 r'.2 := by
  refine foldlM_induct (I := fun x : Bool × Driver => Undisturbed r.2 x.2) ?_
    (Undisturbed.refl r.2) h
  intro s i s' hi hs hs'
  refine hs.trans (processIoDoorbells_quiet ?_ hs')
  rw [hs.sq]
  exact hquiet i (List.mem_range.mp hi)

/-- The driver after it has forwarded an admin tail and recorded it. -/
def forwarded (d : Driver) (tail : UInt32) : Driver :=
  let d := vnvmeForwardAdminCommandsToUser d tail
  { d with pdo := { d.pdo with lastAdminSqTail := tail } }

theorem forwarded_pdo (d : Driver) (tail : UInt32) :
    (forwarded d tail).pdo = { d.pdo with lastAdminSqTail := tail } := by
  unfold forwarded vnvmeForwardAdminCommandsToUser
  split
  · rfl
  · split <;> rfl

/-- The admin completion head is recorded in any case. -/
def noteCqHead (d : Driver) (regs : Bar0) : Driver :=
  { d with pdo := { d.pdo with lastAdminCqHead := regs.doorbells 1 &&& 0xFFFF } }

theorem undisturbed_noteCqHead (d : Driver) (regs : Bar0) :
    Undisturbed d (noteCqHead d regs) := ⟨rfl, rfl, rfl, rfl, rfl⟩

theorem processAdminDoorbells_user {fuel : Nat} {regs : Bar0} {b : Bool} {d : Driver}
    {s : Bool × Driver} (hmode : d.fdo.commandMode = .user)
    (h : processAdminDoorbells fuel regs b d = some s) :
    (adminTail regs = d.pdo.lastAdminSqTail ∧ s.2 = noteCqHead d regs) ∨
      (adminTail regs ≠ d.pdo.lastAdminSqTail ∧
        s.2 = noteCqHead (forwarded d (adminTail regs)) regs) := by
  by_cases heq : regs.doorbells 0 &&& 0xFFFF = d.pdo.lastAdminSqTail
  · refine Or.inl ⟨heq, ?_⟩
    simp only [processAdminDoorbells, if_pos heq, Option.map_some, Option.some.injEq] at h
    rw [← h]
    rfl
  · refine Or.inr ⟨heq, ?_⟩
    simp only [processAdminDoorbells, if_neg heq, dispatchAdminTail, hmode, Option.map_some,
      Option.some.injEq] at h
    rw [← h]
    rfl

/-- A poll in user mode with quiet I/O doorbells forwards the admin tail if it is new. -/
theorem poll_user_cases {fuel : Nat} {d : Driver} {r : Bool × Driver}
    (hmode : d.fdo.commandMode = .user)
    (hcc : ∀ regs, d.pdo.bar0 = some regs → regs.cc = d.pdo.cachedCC)
    (hquiet : ∀ regs, d.pdo.bar0 = some regs → IoQuiet d.pdo regs)
    (h : vnvmeProcessDoorbells fuel d = some r) :
    Undisturbed d r.2 ∨ ∃ regs, d.pdo.bar0 = some regs ∧
      adminTail regs ≠ d.pdo.lastAdminSqTail ∧
      Undisturbed (forwarded d (adminTail regs)) r.2 := by
  unfold vnvmeProcessDoorbells at h
  cases hb : d.pdo.bar0 with
  | none =>
      simp only [hb, Option.some.injEq] at h
      rw [← h]
      exact Or.inl (Undisturbed.refl d)
  | some regs =>
      have hp : processCc d regs = (false, d) := if_pos (hcc regs hb)
      simp only [hb, hp, Option.getD_some] at h
      split at h
      · rw [← Option.some.inj h]
        exact Or.inl (Undisturbed.refl d)
      · obtain ⟨s, hs, hio⟩ := Option.bind_eq_some_iff.mp h
        rcases processAdminDoorbells_user hmode hs with ⟨_, hs'⟩ | ⟨hne, hs'⟩
        · have hq : IoQuiet s.2.pdo regs := by
            rw [hs']
            exact hquiet regs hb
          refine Or.inl (Undisturbed.trans ?_ (ioDoorbells_quiet hq hio))
          rw [hs']
          exact undisturbed_noteCqHead d regs
        · have hq : IoQuiet s.2.pdo regs := by
            rw [hs', noteCqHead, forwarded_pdo]
            exact hquiet regs hb
          refine Or.inr ⟨regs, rfl, hne, Undisturbed.trans ?_ (ioDoorbells_quiet hq hio)⟩
          rw [hs']
          exact undisturbed_noteCqHead _ regs

/-! ## Runs -/

/-- A controller in user mode and the server, which may be in the middle of a poll. -/
structure Forwarding where
  driver : Driver
  ctx : CmdEngineContext
  frame : Option PollFrame := none

/-- One step of host, driver or server. Polls of the driver happen only in states that
satisfy `P`. -/
inductive ForwardStep (P : Forwarding → Prop) : Forwarding → Forwarding → Prop where
  | doorbell (w : Forwarding) (regs : Bar0) (i : Nat) (v : UInt32)
      (hregs : w.driver.pdo.bar0 = some regs) :
      ForwardStep P w { w with driver := { w.driver with pdo := { w.driver.pdo with
        bar0 := some { regs with doorbells := Function.update regs.doorbells i v } } } }
  | ready (w : Forwarding) (b : Bool) :
      ForwardStep P w { w with driver := { w.driver with
        fdo := { w.driver.fdo with userReady := b } } }
  | poll (w : Forwarding) (fuel : Nat) (r : Bool × Driver) (hP : P w)
      (hmode : w.driver.fdo.commandMode = .user)
      (hpoll : vnvmeProcessDoorbells fuel w.driver = some r) :
      ForwardStep P w { w with driver := r.2 }
  | begin (w : Forwarding) (shm : Shm) (hshm : w.driver.shm = some shm)
      (hidle : w.frame = none) (hready : pollReady ⟨w.ctx, shm⟩ = true) :
      ForwardStep P w { w with
        frame := some { head := shm.notifyRing.head, tail := shm.notifyRing.tail } }
  | consume (w : Forwarding) (shm : Shm) (f : PollFrame) (fuel : Nat) (p : Polling)
      (hshm : w.driver.shm = some shm) (hframe : w.frame = some f) (hmore : f.head ≠ f.tail)
      (hslot : pollSlot fuel ⟨⟨w.ctx, shm⟩, f.processed⟩ f.head = some p) :
      ForwardStep P w
        { driver := { w.driver with shm := some p.server.shm }
          ctx := p.server.ctx
          frame := some ⟨next shm.notifyRing.size f.head, f.tail, p.processed⟩ }
  | finish (w : Forwarding) (shm : Shm) (f : PollFrame) (hshm : w.driver.shm = some shm)
      (hframe : w.frame = some f) (hdone : f.head = f.tail) :
      ForwardStep P w
        { driver := { w.driver with
            shm := some (pollFinish ⟨⟨w.ctx, shm⟩, f.processed⟩ f.head).shm }
          ctx := (pollFinish ⟨⟨w.ctx, shm⟩, f.processed⟩ f.head).ctx }

/-- The index of the last notification, or `first` if there is none. -/
def lastIndex (first : UInt32) (es : List NotifyEntry) : UInt32 :=
  (es.getLast?.map (·.index)).getD first

@[simp] theorem lastIndex_append (first : UInt32) (es : List NotifyEntry) (e : NotifyEntry) :
    lastIndex first (es ++ [e]) = e.index := by
  rw [lastIndex, List.getLast?_concat]
  rfl

/-- The run so far, seen from the ring: `r` is the history behind the state `w`. -/
structure ForwardInv (n first : UInt32) (w : Forwarding) (shm : Shm) (r : RingRun) : Prop where
  shm_eq : w.driver.shm = some shm
  server_eq : r.server = ⟨w.ctx, shm⟩
  frame_eq : r.frame = w.frame
  ring : RingInv n r
  admin : ∀ e ∈ r.pushed, e.queueId = 0 ∧ e.type = 0
  recorded : w.driver.pdo.lastAdminSqTail = lastIndex first r.pushed
  stored : (shm.sq 0).head = lastIndex first r.consumed
  io : ∀ q, q ≠ 0 → (w.driver.pdo.sq q).created = true →
    (shm.sq q).head = (w.driver.pdo.sq q).tail
  cc : ∀ regs, w.driver.pdo.bar0 = some regs → regs.cc = w.driver.pdo.cachedCC

/-- What a poll must find: no I/O doorbell has moved, and if the admin doorbell has, the
server is ready and the ring has room for the notification. -/
structure PollGood (w : Forwarding) : Prop where
  quiet : ∀ regs, w.driver.pdo.bar0 = some regs → IoQuiet w.driver.pdo regs
  ready : ∀ regs, w.driver.pdo.bar0 = some regs →
    adminTail regs ≠ w.driver.pdo.lastAdminSqTail → w.driver.fdo.userReady = true ∧
      ∀ shm, w.driver.shm = some shm →
        next shm.notifyRing.size shm.notifyRing.tail ≠ shm.notifyRing.head

section Steps

variable {n first : UInt32} {w : Forwarding} {shm : Shm} {r : RingRun}

theorem ForwardInv.ring_eq (h : ForwardInv n first w shm r) : r.ring = shm.notifyRing := by
  rw [RingRun.ring, h.server_eq]

/-- A step that leaves the shared memory and the recorded tails alone. -/
theorem ForwardInv.undisturbed (h : ForwardInv n first w shm r) {d : Driver}
    (hd : Undisturbed w.driver d) : ForwardInv n first { w with driver := d } shm r where
  shm_eq := hd.shm.trans h.shm_eq
  server_eq := h.server_eq
  frame_eq := h.frame_eq
  ring := h.ring
  admin := h.admin
  recorded := hd.lastAdminSqTail.trans h.recorded
  stored := h.stored
  io := by
    intro q hq hc
    rw [hd.sq] at hc ⊢
    exact h.io q hq hc
  cc := by
    intro regs hregs
    rw [hd.cachedCC]
    exact h.cc regs (hd.bar0.symm.trans hregs)

/-- A forward that reaches the ring is a push. -/
theorem ForwardInv.forward (h : ForwardInv n first w shm r) (tail : UInt32)
    (hready : w.driver.fdo.userReady = true)
    (hfree : next shm.notifyRing.size shm.notifyRing.tail ≠ shm.notifyRing.head) :
    ∃ shm' r', ForwardInv n first { w with driver := forwarded w.driver tail } shm' r' := by
  let e : NotifyEntry := { queueId := 0, type := 0, index := tail }
  let shm₁ := shm.setSq 0 { shm.sq 0 with tail := tail }
  let r₁ : RingRun := { r with server := ⟨w.ctx, shm₁⟩ }
  have hoff : shm₁.notifyRingOffset = r.server.shm.notifyRingOffset := by
    rw [h.server_eq]
    rfl
  have hinv : RingInv n r₁ := h.ring.withServer h.ring_eq.symm hoff
  have hpush := notifyRingPush_eq hinv.offset_ne e
  have hp : shm₁.notifyRing.push e = _ := push_free hfree e
  have hpushed : (r₁.afterPush e).pushed = r.pushed ++ [e] := by
    show (if (notifyRingPush shm₁ e.queueId e.type e.index).1 then _ else _) = _
    rw [hpush, hp]
    rfl
  have hdriver : (forwarded w.driver tail).shm = some (notifyRingPush shm₁ 0 0 tail).2 := by
    simp only [forwarded, vnvmeForwardAdminCommandsToUser, h.shm_eq, hready, forwardTail]
    rfl
  have hpdo := forwarded_pdo w.driver tail
  have hsq : (notifyRingPush shm₁ 0 0 tail).2.sq = shm₁.sq :=
    congrArg (fun x => x.2.sq) hpush
  refine ⟨_, r₁.afterPush e, hdriver, rfl, h.frame_eq, hinv.push e, ?_, ?_, ?_, ?_, ?_⟩
  · rw [hpushed]
    intro x hx
    rcases List.mem_append.mp hx with hx | hx
    · exact h.admin x hx
    · rw [List.mem_singleton.mp hx]
      exact ⟨rfl, rfl⟩
  · rw [hpushed, lastIndex_append]
    exact congrArg PdoContext.lastAdminSqTail hpdo
  · have hhead : (shm₁.sq 0).head = (shm.sq 0).head := by simp [shm₁, Shm.setSq]
    rw [hsq, hhead]
    exact h.stored
  · intro q hq hc
    rw [hpdo] at hc ⊢
    rw [hsq]
    simpa [shm₁, Shm.setSq, hq] using h.io q hq hc
  · intro regs hregs
    rw [hpdo] at hregs ⊢
    exact h.cc regs hregs

theorem ForwardInv.poll (h : ForwardInv n first w shm r) {fuel : Nat} {res : Bool × Driver}
    (hgood : PollGood w) (hmode : w.driver.fdo.commandMode = .user)
    (hpoll : vnvmeProcessDoorbells fuel w.driver = some res) :
    ∃ shm' r', ForwardInv n first { w with driver := res.2 } shm' r' := by
  rcases poll_user_cases hmode h.cc hgood.quiet hpoll with hd | ⟨regs, hregs, hne, hd⟩
  · exact ⟨shm, r, h.undisturbed hd⟩
  · obtain ⟨hready, hfree⟩ := hgood.ready regs hregs hne
    obtain ⟨shm', r', h'⟩ := h.forward (adminTail regs) hready (hfree shm h.shm_eq)
    exact ⟨shm', r', h'.undisturbed hd⟩

/-- Consuming the next admin notification stores its index as the head. -/
theorem ForwardInv.consume (h : ForwardInv n first w shm r) {f : PollFrame} {fuel : Nat}
    {p : Polling} (hframe : w.frame = some f) (hmore : f.head ≠ f.tail)
    (hslot : pollSlot fuel ⟨⟨w.ctx, shm⟩, f.processed⟩ f.head = some p) :
    ForwardInv n first
      { driver := { w.driver with shm := some p.server.shm }
        ctx := p.server.ctx
        frame := some ⟨next shm.notifyRing.size f.head, f.tail, p.processed⟩ }
      p.server.shm (r.afterConsume f p) := by
  have hring := h.ring_eq
  have hinv := h.ring.consume (h.frame_eq.trans hframe) hmore (by
    rw [h.server_eq]
    exact hslot)
  -- the entry in the slot is one of the pushed ones, so it is for the admin queue
  have hmem : shm.notifyRing.entries f.head ∈ r.pushed := by
    have hlast : r.ring.entries f.head ∈ (r.afterConsume f p).consumed :=
      List.mem_append_right _ (List.mem_singleton.mpr rfl)
    rw [← hring]
    exact hinv.consumed_prefix.subset hlast
  obtain ⟨hqid, htype⟩ := h.admin _ hmem
  have hspec : pollAdminQueue fuel ⟨⟨w.ctx, shm⟩, f.processed⟩
      (shm.notifyRing.entries f.head).index = some p := by
    have hslot' := hslot
    rw [pollSlot, pollEntry, if_pos htype, if_pos hqid] at hslot'
    exact hslot'
  obtain ⟨_, hhead, hother⟩ := pollAdminQueue_spec hspec
  refine ⟨rfl, rfl, ?_, hinv, h.admin, h.recorded, ?_, ?_, h.cc⟩
  · rw [← hring]
    rfl
  · rw [hhead]
    show _ = lastIndex first (r.consumed ++ [r.ring.entries f.head])
    rw [lastIndex_append, hring]
  · intro q hq hc
    rw [hother q hq]
    exact h.io q hq hc

theorem ForwardInv.step {w' : Forwarding} (h : ForwardInv n first w shm r)
    (hstep : ForwardStep PollGood w w') : ∃ shm' r', ForwardInv n first w' shm' r' := by
  cases hstep with
  | doorbell regs i v hregs =>
      refine ⟨shm, r, h.shm_eq, h.server_eq, h.frame_eq, h.ring, h.admin, h.recorded, h.stored,
        h.io, ?_⟩
      intro regs' hregs'
      rw [← Option.some.inj hregs']
      exact h.cc regs hregs
  | ready b =>
      exact ⟨shm, r, h.undisturbed ⟨rfl, rfl, rfl, rfl, rfl⟩⟩
  | poll fuel res hgood hmode hpoll => exact h.poll hgood hmode hpoll
  | begin shm' hshm hidle hready =>
      obtain rfl : shm = shm' := Option.some.inj (h.shm_eq.symm.trans hshm)
      refine ⟨shm, r.afterBegin, h.shm_eq, h.server_eq, ?_,
        h.ring.begin (h.frame_eq.trans hidle), h.admin, h.recorded, h.stored, h.io, h.cc⟩
      show some _ = some _
      rw [h.ring_eq]
  | consume shm' f fuel p hshm hframe hmore hslot =>
      obtain rfl : shm = shm' := Option.some.inj (h.shm_eq.symm.trans hshm)
      exact ⟨_, _, h.consume hframe hmore hslot⟩
  | finish shm' f hshm hframe hdone =>
      obtain rfl : shm = shm' := Option.some.inj (h.shm_eq.symm.trans hshm)
      have hserver := h.server_eq
      have hsq : (pollFinish ⟨⟨w.ctx, shm⟩, f.processed⟩ f.head).shm.sq = shm.sq := by
        unfold pollFinish
        split <;> rfl
      refine ⟨_, r.afterFinish f, rfl, ?_, rfl, h.ring.finish (h.frame_eq.trans hframe),
        h.admin, h.recorded, ?_, ?_, h.cc⟩
      · show pollFinish ⟨r.server, f.processed⟩ f.head = _
        rw [hserver]
      · rw [hsq]
        exact h.stored
      · intro q hq hc
        rw [hsq]
        exact h.io q hq hc

end Steps

/-! ## Nothing is forgotten -/

/-- A controller and a server at rest, with an empty ring. -/
structure ForwardStart (w : Forwarding) (shm : Shm) : Prop where
  shm_eq : w.driver.shm = some shm
  ring : FreshRing ⟨w.ctx, shm⟩
  idle : w.frame = none
  admin : (shm.sq 0).head = w.driver.pdo.lastAdminSqTail
  io : ∀ q, q ≠ 0 → (w.driver.pdo.sq q).created = true →
    (shm.sq q).head = (w.driver.pdo.sq q).tail
  cc : ∀ regs, w.driver.pdo.bar0 = some regs → regs.cc = w.driver.pdo.cachedCC

theorem ForwardStart.inv {w : Forwarding} {shm : Shm} (h : ForwardStart w shm) :
    ForwardInv shm.notifyRing.size w.driver.pdo.lastAdminSqTail w shm
      { server := ⟨w.ctx, shm⟩ } where
  shm_eq := h.shm_eq
  server_eq := rfl
  frame_eq := h.idle.symm
  ring := h.ring.inv
  admin := by
    intro e he
    cases he
  recorded := rfl
  stored := h.admin
  io := h.io
  cc := h.cc

/-- Ring empty and server idle: every stored head is the tail recorded for its queue. -/
def NothingForgotten (w : Forwarding) : Prop :=
  ∀ shm, w.driver.shm = some shm → shm.notifyRing.head = shm.notifyRing.tail →
    w.frame = none →
    (shm.sq 0).head = w.driver.pdo.lastAdminSqTail ∧
      ∀ q, q ≠ 0 → (w.driver.pdo.sq q).created = true →
        (shm.sq q).head = (w.driver.pdo.sq q).tail

theorem ForwardInv.nothingForgotten {n first : UInt32} {w : Forwarding} {shm : Shm}
    {r : RingRun} (h : ForwardInv n first w shm r) : NothingForgotten w := by
  intro shm' hshm hempty hidle
  obtain rfl : shm = shm' := Option.some.inj (h.shm_eq.symm.trans hshm)
  refine ⟨?_, h.io⟩
  -- an empty ring and an idle server have consumed everything that was pushed
  have hreleased : r.released = r.pushed.length := by
    refine h.ring.holds.head_eq_tail_iff.mp ?_
    rw [h.ring_eq]
    exact hempty
  have hframe := h.ring.frame
  rw [FrameInv, h.frame_eq.trans hidle] at hframe
  have hall : r.consumed = r.pushed :=
    h.ring.consumed_prefix.eq_of_length (hframe.symm.trans hreleased)
  rw [h.stored, h.recorded, hall]

/-- **No command is forgotten**, in every run in which each poll finds the I/O doorbells
unmoved and, if the admin doorbell has moved, a ready server and room in the ring. -/
theorem forwarded_tails_reach_server {w₀ w : Forwarding} {shm : Shm}
    (h : ForwardStart w₀ shm)
    (hrun : Relation.ReflTransGen (ForwardStep PollGood) w₀ w) : NothingForgotten w := by
  have hinv : ∃ shm' r', ForwardInv shm.notifyRing.size w₀.driver.pdo.lastAdminSqTail w
      shm' r' := by
    induction hrun with
    | refl => exact ⟨shm, _, h.inv⟩
    | tail _ hstep ih =>
        obtain ⟨shm', r', h'⟩ := ih
        exact h'.step hstep
  obtain ⟨_, _, h'⟩ := hinv
  exact h'.nothingForgotten

/-- An enabled controller of a fresh driver, and a server that has just started. -/
def restingWorld : Forwarding :=
  { driver := { Driver.fresh .allQueues with
      pdo := { bar0 := some { cc := 1, csts := 1 }, cachedCC := 1 } }
    ctx := { initialized := true } }

theorem restingWorld_start : ForwardStart restingWorld vnvmeAllocateShm where
  shm_eq := rfl
  ring := ⟨by decide, rfl, rfl, by decide⟩
  idle := rfl
  admin := rfl
  io := by
    intro q _ hc
    cases hc
  cc := by
    intro regs hregs
    rw [← Option.some.inj hregs]
    rfl

/-- The host rings the admin doorbell. -/
def rungWorld : Forwarding :=
  { restingWorld with driver := { restingWorld.driver with
      pdo := { restingWorld.driver.pdo with
        bar0 := some { cc := 1, csts := 1, doorbells := Function.update (fun _ => 0) 0 1 } } } }

theorem rungWorld_step (P : Forwarding → Prop) : ForwardStep P restingWorld rungWorld :=
  .doorbell restingWorld { cc := 1, csts := 1 } 0 1 rfl

/-- The server reports ready before the driver polls. -/
def readyWorld : Forwarding :=
  { rungWorld with driver := { rungWorld.driver with
      fdo := { rungWorld.driver.fdo with userReady := true } } }

theorem readyWorld_good : PollGood readyWorld where
  quiet := by
    intro regs hregs i hi
    exact absurd hi (Nat.not_lt_zero i)
  ready := by
    intro regs _ _
    refine ⟨rfl, ?_⟩
    intro shm hshm
    rw [← Option.some.inj hshm]
    decide

theorem forwarded_tails_reach_server_ready :
    ∃ (w : Forwarding) (r : Bool × Driver), ForwardStart restingWorld vnvmeAllocateShm ∧
      vnvmeProcessDoorbells 0 readyWorld.driver = some r ∧
      w = { readyWorld with driver := r.2 } ∧ w.driver.pdo.lastAdminSqTail = 1 ∧
      NothingForgotten w := by
  refine ⟨_, (vnvmeProcessDoorbells 0 readyWorld.driver).get (by decide), restingWorld_start,
    (Option.some_get _).symm, rfl, by decide, ?_⟩
  refine forwarded_tails_reach_server restingWorld_start ?_
  exact ((Relation.ReflTransGen.single (rungWorld_step _)).tail (.ready rungWorld true)).tail
    (.poll readyWorld 0 _ readyWorld_good rfl (Option.some_get _).symm)

/-- A poll before the server is ready: the tail is recorded, and nobody will ever run the
command. -/
theorem unready_poll_forgets :
    ∃ w : Forwarding, ForwardStart restingWorld vnvmeAllocateShm ∧
      Relation.ReflTransGen (ForwardStep fun _ => True) restingWorld w ∧
      ¬ NothingForgotten w := by
  refine ⟨{ rungWorld with
    driver := ((vnvmeProcessDoorbells 0 rungWorld.driver).get (by decide)).2 },
    restingWorld_start, ?_, ?_⟩
  · exact (Relation.ReflTransGen.single (rungWorld_step _)).tail
      (.poll rungWorld 0 _ trivial rfl (Option.some_get _).symm)
  · intro h
    have hhead := (h vnvmeAllocateShm (by rfl) rfl rfl).1
    exact absurd hhead (by decide)

end VirtualNvme
