import Mathlib.Logic.Relation
import VirtualNvme.Driver.UserForward
import VirtualNvme.RingBuffer.Fifo
import VirtualNvme.Verification.ServerFrame

/-!
# The notify ring between driver and server

The driver pushes notifications while the server polls. A poll reads both indices once,
handles the notifications up to the tail it has seen, and publishes the head when it is
done, so any number of pushes can fall between two of its steps. `RingStep` is that
interleaving. The ring represents the queue of everything pushed, less what the published
head has released; the server's private index runs ahead of the published one.
-/

namespace VirtualNvme

open RingBuffer

/-- The locals of a `CmdEnginePoll` that is under way. -/
structure PollFrame where
  head : UInt32
  tail : UInt32
  processed : UInt64 := 0

/-- Driver and server at work on one ring, with the history of the ring. -/
structure RingRun where
  server : Server
  frame : Option PollFrame := none
  pushed : List NotifyEntry := []
  consumed : List NotifyEntry := []
  released : Nat := 0

namespace RingRun

def ring (r : RingRun) : NotifyRing := r.server.shm.notifyRing

/-- Entries pushed and not yet released by the published head. -/
def pending (r : RingRun) : Nat := r.pushed.length - r.released

def afterPush (r : RingRun) (entry : NotifyEntry) : RingRun :=
  let res := notifyRingPush r.server.shm entry.queueId entry.type entry.index
  { r with
    server := { r.server with shm := res.2 }
    pushed := if res.1 then r.pushed ++ [entry] else r.pushed }

def afterBegin (r : RingRun) : RingRun :=
  { r with frame := some { head := r.ring.head, tail := r.ring.tail } }

def afterConsume (r : RingRun) (f : PollFrame) (p : Polling) : RingRun :=
  { r with
    server := p.server
    frame := some { head := next r.ring.size f.head, tail := f.tail, processed := p.processed }
    consumed := r.consumed ++ [r.ring.entries f.head] }

def afterFinish (r : RingRun) (f : PollFrame) : RingRun :=
  { r with
    server := pollFinish { server := r.server, processed := f.processed } f.head
    frame := none
    released := r.consumed.length }

end RingRun

/-- One atomic step of either side. -/
inductive RingStep : RingRun → RingRun → Prop where
  | push (r : RingRun) (entry : NotifyEntry) : RingStep r (r.afterPush entry)
  | begin (r : RingRun) (hidle : r.frame = none) (hready : pollReady r.server = true) :
      RingStep r r.afterBegin
  | consume (r : RingRun) (f : PollFrame) (fuel : Nat) (p : Polling)
      (hframe : r.frame = some f) (hmore : f.head ≠ f.tail)
      (hslot : pollSlot fuel { server := r.server, processed := f.processed } f.head =
        some p) :
      RingStep r (r.afterConsume f p)
  | finish (r : RingRun) (f : PollFrame) (hframe : r.frame = some f)
      (hdone : f.head = f.tail) : RingStep r (r.afterFinish f)

/-! ## A poll that nobody interrupts -/

/-- The loop of `cmdEnginePoll` is a sequence of steps. -/
theorem poll_loop_steps {size tail : UInt32} {fuel₁ : Nat} :
    ∀ {fuel : Nat} {head : UInt32} {p : Polling} {res : UInt32 × Polling} {r : RingRun},
      r.server = p.server → r.ring.size = size →
      r.frame = some { head := head, tail := tail, processed := p.processed } →
      walk size tail (pollSlot fuel₁) fuel head p = some res →
      ∃ r', Relation.ReflTransGen RingStep r r' ∧ r'.server = res.2.server ∧
        r'.frame = some { head := res.1, tail := tail, processed := res.2.processed } ∧
        res.1 = tail := by
  intro fuel
  induction fuel with
  | zero =>
      intro head p res r _ _ _ h
      cases h
  | succ fuel ih =>
      intro head p res r hserver hsize hframe h
      rcases walk_succ h with ⟨heq, rfl⟩ | ⟨hne, p', hslot, hwalk⟩
      · exact ⟨r, .refl, hserver, hframe, heq⟩
      · have hp : ({ server := r.server, processed := p.processed } : Polling) = p := by
          rw [hserver]
        have hconsume := RingStep.consume r _ fuel₁ p' hframe hne (by
          show pollSlot fuel₁ { server := r.server, processed := p.processed } head = _
          rw [hp, hslot])
        have hring : p'.server.shm.notifyRing = p.server.shm.notifyRing :=
          (pollEntry_polled hslot).notifyRing
        have hsize' : p'.server.shm.notifyRing.size = size := by
          rw [hring, ← hserver]
          exact hsize
        have hframe' : (r.afterConsume ⟨head, tail, p.processed⟩ p').frame =
            some ⟨next size head, tail, p'.processed⟩ := by
          rw [← hsize]
          rfl
        obtain ⟨r', hrun, hrest⟩ := ih (r := r.afterConsume ⟨head, tail, p.processed⟩ p')
          rfl hsize' hframe' hwalk
        exact ⟨r', .head hconsume hrun, hrest⟩

/-- `cmdEnginePoll` is one run of the poll's steps, from idle to idle. -/
theorem cmdEnginePoll_steps {fuel : Nat} {s s' : Server} {n : UInt64}
    (hready : pollReady s = true) (h : cmdEnginePoll fuel s = some (n, s')) {r : RingRun}
    (hserver : r.server = s) (hidle : r.frame = none) :
    ∃ r', Relation.ReflTransGen RingStep r r' ∧ r'.server = s' ∧ r'.frame = none := by
  rw [cmdEnginePoll, if_pos hready] at h
  obtain ⟨res, hwalk, hres⟩ := Option.map_eq_some_iff.mp h
  subst hserver
  obtain ⟨r', hrun, hs, hframe, hend⟩ :=
    poll_loop_steps (r := r.afterBegin) (p := { server := r.server }) rfl rfl rfl hwalk
  refine ⟨r'.afterFinish _, (Relation.ReflTransGen.head (.begin r hidle hready) hrun).tail
    (.finish r' _ hframe hend), ?_, rfl⟩
  rw [← (Prod.mk.inj hres).2]
  show pollFinish { server := r'.server, processed := res.2.processed } res.1 = _
  rw [hs]

/-! ## The invariant -/

/-- The server's private index counts what it has consumed, and the tail it has read is
not beyond what was pushed. -/
def FrameInv (n : UInt32) (r : RingRun) : Prop :=
  match r.frame with
  | none => r.released = r.consumed.length
  | some f => r.released ≤ r.consumed.length ∧ At n r.consumed.length f.head ∧
      ∃ m, At n m f.tail ∧ r.consumed.length ≤ m ∧ m ≤ r.pushed.length

structure RingInv (n : UInt32) (r : RingRun) : Prop where
  size_eq : r.ring.size = n
  offset_ne : r.server.shm.notifyRingOffset ≠ 0
  holds : Holds n r.ring.entries r.ring.head r.ring.tail r.pushed r.released
  consumed_prefix : r.consumed <+: r.pushed
  frame : FrameInv n r

/-- The invariant does not look at the rest of the server. -/
theorem RingInv.withServer {n : UInt32} {r : RingRun} (h : RingInv n r) {s : Server}
    (hring : s.shm.notifyRing = r.ring)
    (hoff : s.shm.notifyRingOffset = r.server.shm.notifyRingOffset) :
    RingInv n { r with server := s } where
  size_eq := (congrArg NotifyRing.size hring).trans h.size_eq
  offset_ne := fun h0 => h.offset_ne (hoff.symm.trans h0)
  holds := by
    have := h.holds
    rw [← hring] at this
    exact this
  consumed_prefix := h.consumed_prefix
  frame := h.frame

theorem notifyRingPush_eq {shm : Shm} (h : shm.notifyRingOffset ≠ 0) (e : NotifyEntry) :
    notifyRingPush shm e.queueId e.type e.index =
      ((shm.notifyRing.push e).1, { shm with notifyRing := (shm.notifyRing.push e).2 }) := by
  rw [notifyRingPush, if_neg h]

theorem push_full {ring : NotifyRing} (h : next ring.size ring.tail = ring.head)
    (e : NotifyEntry) : ring.push e = (false, ring) := if_pos h

theorem push_free {ring : NotifyRing} (h : next ring.size ring.tail ≠ ring.head)
    (e : NotifyEntry) :
    ring.push e = (true, { ring with
      entries := Function.update ring.entries ring.tail e
      tail := next ring.size ring.tail }) := if_neg h

section Steps

variable {n : UInt32} {r : RingRun}

theorem RingInv.push (h : RingInv n r) (e : NotifyEntry) : RingInv n (r.afterPush e) := by
  have hsize := h.size_eq
  have hpush := notifyRingPush_eq h.offset_ne e
  by_cases hfull : next r.ring.size r.ring.tail = r.ring.head
  · have hp : r.server.shm.notifyRing.push e = (false, r.server.shm.notifyRing) :=
      push_full hfull e
    rw [hp] at hpush
    have : r.afterPush e = r := by
      simp only [RingRun.afterPush, hpush]
      rfl
    rw [this]
    exact h
  · have hp : r.server.shm.notifyRing.push e = _ := push_free hfull e
    rw [hp] at hpush
    simp only [RingRun.afterPush, hpush]
    have hholds := h.holds.push (by rw [← hsize]; exact hfull) e
    refine ⟨hsize, h.offset_ne, ?_, h.consumed_prefix.trans (List.prefix_append _ _), ?_⟩
    · rw [← hsize] at hholds ⊢
      exact hholds
    · have hf := h.frame
      unfold FrameInv at hf ⊢
      cases hframe : r.frame with
      | none =>
          rw [hframe] at hf
          exact hf
      | some f =>
          rw [hframe] at hf
          obtain ⟨hrel, hat, m, hm, hle, hle'⟩ := hf
          refine ⟨hrel, hat, m, hm, hle, ?_⟩
          show m ≤ (r.pushed ++ [e]).length
          rw [List.length_append, List.length_singleton]
          omega

theorem RingInv.begin (h : RingInv n r) (hidle : r.frame = none) :
    RingInv n r.afterBegin := by
  have hf := h.frame
  rw [FrameInv, hidle] at hf
  have hat : At n r.consumed.length r.ring.head := by
    rw [← (show r.released = r.consumed.length from hf)]
    exact h.holds.head_at
  exact ⟨h.size_eq, h.offset_ne, h.holds, h.consumed_prefix, Nat.le_of_eq hf, hat,
    r.pushed.length, h.holds.tail_at, h.consumed_prefix.length_le, Nat.le_refl _⟩

theorem RingInv.consume (h : RingInv n r) {f : PollFrame} {fuel : Nat} {p : Polling}
    (hframe : r.frame = some f) (hmore : f.head ≠ f.tail)
    (hslot : pollSlot fuel { server := r.server, processed := f.processed } f.head = some p) :
    RingInv n (r.afterConsume f p) := by
  have hpolled := pollEntry_polled hslot
  have hring : (r.afterConsume f p).ring = r.ring := hpolled.notifyRing
  have hf := h.frame
  rw [FrameInv, hframe] at hf
  obtain ⟨hrel, hat, m, hm, hle, hle'⟩ := hf
  have hlt : r.consumed.length < m := by
    rcases Nat.lt_or_eq_of_le hle with hlt | heq
    · exact hlt
    · exact absurd ((heq ▸ hat).unique hm) hmore
  have hread := h.holds.read hat hrel (by omega)
  -- the entry under the private index is the next one of the history
  have hprefix : r.consumed ++ [r.ring.entries f.head] <+: r.pushed := by
    obtain ⟨rest, hrest⟩ := h.consumed_prefix
    rw [← hrest, List.getElem?_append_right (Nat.le_refl _), Nat.sub_self] at hread
    obtain ⟨x, xs, rfl⟩ : ∃ x xs, rest = x :: xs := by
      cases rest with
      | nil => cases hread
      | cons x xs => exact ⟨x, xs, rfl⟩
    have hx : x = r.ring.entries f.head := Option.some.inj hread
    exact ⟨xs, by rw [← hrest, ← hx, List.append_assoc]; rfl⟩
  refine ⟨?_, ?_, ?_, hprefix, ?_⟩
  · rw [hring]
    exact h.size_eq
  · show p.server.shm.notifyRingOffset ≠ 0
    rw [hpolled.notifyRingOffset]
    exact h.offset_ne
  · rw [hring]
    exact h.holds
  · have hlen : (r.afterConsume f p).consumed.length = r.consumed.length + 1 :=
      List.length_append
    show _ ≤ (r.afterConsume f p).consumed.length ∧
      At n (r.afterConsume f p).consumed.length (next r.ring.size f.head) ∧ _
    rw [hlen, h.size_eq]
    exact ⟨by show r.released ≤ _; omega, hat.next h.holds.pos, m, hm, hlt, hle'⟩

theorem RingInv.finish (h : RingInv n r) {f : PollFrame} (hframe : r.frame = some f) :
    RingInv n (r.afterFinish f) := by
  have hf := h.frame
  rw [FrameInv, hframe] at hf
  obtain ⟨hrel, hat, _⟩ := hf
  have hring : (r.afterFinish f).ring = { r.ring with head := f.head } :=
    pollFinish_notifyRing _ _
  have hoff : (r.afterFinish f).server.shm.notifyRingOffset =
      r.server.shm.notifyRingOffset := pollFinish_notifyRingOffset _ _
  refine ⟨?_, ?_, ?_, h.consumed_prefix, rfl⟩
  · rw [hring]
    exact h.size_eq
  · rw [hoff]
    exact h.offset_ne
  · rw [hring]
    exact h.holds.release hat hrel h.consumed_prefix.length_le

theorem RingInv.step {r' : RingRun} (h : RingInv n r) (hstep : RingStep r r') :
    RingInv n r' := by
  cases hstep with
  | push e => exact h.push e
  | begin hidle _ => exact h.begin hidle
  | consume f fuel p hframe hmore hslot => exact h.consume hframe hmore hslot
  | finish f hframe _ => exact h.finish hframe

theorem RingInv.run {r' : RingRun} (h : RingInv n r)
    (hrun : Relation.ReflTransGen RingStep r r') : RingInv n r' := by
  induction hrun with
  | refl => exact h
  | tail _ hstep ih => exact ih.step hstep

end Steps

/-! ## First in, first out -/

/-- An empty ring of at least two slots. -/
structure FreshRing (s : Server) : Prop where
  size_ge : 2 ≤ s.shm.notifyRing.size
  head_zero : s.shm.notifyRing.head = 0
  tail_zero : s.shm.notifyRing.tail = 0
  offset_ne : s.shm.notifyRingOffset ≠ 0

theorem FreshRing.inv {s : Server} (h : FreshRing s) :
    RingInv s.shm.notifyRing.size { server := s } := by
  have hpos : 0 < s.shm.notifyRing.size :=
    UInt32.lt_of_lt_of_le (by decide) h.size_ge
  refine ⟨rfl, h.offset_ne, ?_, List.nil_prefix, rfl⟩
  show Holds _ _ s.shm.notifyRing.head s.shm.notifyRing.tail _ _
  rw [h.head_zero, h.tail_zero]
  exact Holds.empty hpos _

/-- What the history of a ring of `n` slots obeys. -/
structure RingLaw (n : Nat) (r : RingRun) : Prop where
  fifo : r.consumed <+: r.pushed
  pending_eq : r.pending = dist r.ring.size r.ring.head r.ring.tail
  bounded : r.pending ≤ n - 1
  refused_iff : ∀ e : NotifyEntry,
    (notifyRingPush r.server.shm e.queueId e.type e.index).1 = false ↔ r.pending = n - 1
  refused_unchanged : ∀ e : NotifyEntry,
    (notifyRingPush r.server.shm e.queueId e.type e.index).1 = false →
      (notifyRingPush r.server.shm e.queueId e.type e.index).2 = r.server.shm

theorem RingInv.law {n : UInt32} {r : RingRun} (h : RingInv n r) : RingLaw n.toNat r := by
  have hsize := h.size_eq
  have hiff : next r.ring.size r.ring.tail = r.ring.head ↔ r.pending = n.toNat - 1 := by
    rw [hsize]
    exact h.holds.next_tail_eq_head_iff
  refine ⟨h.consumed_prefix, ?_, ?_, ?_, ?_⟩
  · rw [hsize]
    exact h.holds.pending_eq_dist
  · have := h.holds.room
    show r.pushed.length - r.released ≤ _
    omega
  · intro e
    rw [notifyRingPush_eq h.offset_ne e, ← hiff]
    by_cases hfull : next r.ring.size r.ring.tail = r.ring.head
    · exact iff_of_true (congrArg Prod.fst (push_full hfull e)) hfull
    · refine iff_of_false ?_ hfull
      rw [show r.server.shm.notifyRing.push e = _ from push_free hfull e]
      exact Bool.noConfusion
  · intro e hfalse
    rw [notifyRingPush_eq h.offset_ne e] at hfalse ⊢
    by_cases hfull : next r.ring.size r.ring.tail = r.ring.head
    · rw [show r.server.shm.notifyRing.push e = _ from push_full hfull e]
      rfl
    · rw [show r.server.shm.notifyRing.push e = _ from push_free hfull e] at hfalse
      cases hfalse

/-- **The notify ring is a queue.** In every interleaving of pushes and polls on a fresh
ring, what the server has consumed is a prefix of what was pushed, at most `n - 1` entries
are pending, and a push is refused, without effect, exactly when `n - 1` are. -/
theorem notifyRing_fifo {s : Server} (h : FreshRing s) {r : RingRun}
    (hrun : Relation.ReflTransGen RingStep { server := s } r) :
    RingLaw s.shm.notifyRing.size.toNat r :=
  (h.inv.run hrun).law

/-- A ring of two slots: the second push is refused until the server has polled. -/
def twoSlotServer : Server :=
  { ctx := { initialized := true }
    shm := { vnvmeAllocateShm with notifyRing := { size := 2 } } }

def twoSlotRun : RingRun := RingRun.afterPush { server := twoSlotServer } { index := 0 }

theorem notifyRing_fifo_twoSlot :
    FreshRing twoSlotServer ∧ RingLaw 2 twoSlotRun ∧ twoSlotRun.pending = 1 ∧
      (notifyRingPush twoSlotRun.server.shm 0 0 0).1 = false := by
  have hfresh : FreshRing twoSlotServer := ⟨by decide, rfl, rfl, by decide⟩
  have hlaw : RingLaw 2 twoSlotRun :=
    notifyRing_fifo hfresh (.single (.push { server := twoSlotServer } { index := 0 }))
  exact ⟨hfresh, hlaw, by decide, by decide⟩

end VirtualNvme
