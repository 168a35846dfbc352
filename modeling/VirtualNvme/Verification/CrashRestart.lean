import Mathlib.Data.List.Nodup
import VirtualNvme.RingBuffer.Tickets
import VirtualNvme.Runs
import VirtualNvme.Verification.Drain

/-!
# Crashes between the driver and the server

Driver and server work on the same submission queues: the driver stores tails and notifies
them, the server takes a notification and runs the commands from the stored head up to the
notified index, and if it is declared dead the driver aborts what is between head and tail.
Nobody empties the notify ring after an abort, and the server stores the head only after the
last command of a notification. So a command can be completed twice in two ways: a
notification that was left in the ring names an index that the head has already passed, and
an abort or a crash can fall between running a command and storing the head.

The server is taken apart into steps at which another party can come in between: one for
each command it runs. Every submission gets a number, and a run records the numbers that
have been completed.
-/

namespace VirtualNvme

open RingBuffer (next walk At dist latest)
open Runs (Throughout EachStep)

/-- The locals of a `CmdEnginePoll` under way: the ring indices it works through, and the pair
`sqHead` and `Index` of the loop over the admin queue while it is in it. -/
structure ExecFrame where
  head : UInt32
  tail : UInt32
  processed : UInt64 := 0
  walk : Option (UInt32 × UInt32) := none

/-- Driver and server at work on one shared memory. `submitted` counts the commands that the
host has put into each queue, and `completed` lists those that were completed, as pairs of
queue and number. -/
structure CrashRun where
  config : Config
  fdo : FdoContext := {}
  pdo : PdoContext := {}
  os : Os := {}
  shm : Shm
  ctx : CmdEngineContext := {}
  frame : Option ExecFrame := none
  submitted : Nat → Nat
  completed : List (Nat × Nat) := []

namespace CrashRun

def driver (s : CrashRun) : Driver :=
  { config := s.config, fdo := s.fdo, shm := some s.shm, pdo := s.pdo, os := s.os }

def server (s : CrashRun) : Server := { ctx := s.ctx, shm := s.shm }

/-- The loop over the admin queue, if the server is in it. -/
def walking (s : CrashRun) : Option (UInt32 × UInt32) := s.frame.bind (·.walk)

/-- The commands that are in the slots `is` of queue `q`. -/
def tickets (s : CrashRun) (q : Nat) (is : List UInt32) : List (Nat × Nat) :=
  (is.filterMap (latest (s.shm.sq q).capacity (s.submitted q))).map (q, ·)

/-- One step of `CmdEnginePoll`: begin, take a notification, run a command, store the head,
or finish. A notification of an I/O queue is handled in one step; the server passes over it,
since it never learns the descriptor of an I/O queue. -/
def advance (s : CrashRun) : CrashRun :=
  let ring := s.shm.notifyRing
  match s.frame with
  | none =>
    if pollReady s.server then { s with frame := some { head := ring.head, tail := ring.tail } }
    else s
  | some f =>
    match f.walk with
    | some (sqHead, index) =>
      if sqHead = index then
        { s with
          shm := s.shm.setSq 0 { s.shm.sq 0 with head := sqHead }
          frame := some { f with head := next ring.size f.head, walk := none } }
      else
        let v := cmdEngineProcessAdminCommand s.server (s.shm.sqMem 0 sqHead)
        { s with
          ctx := v.ctx
          shm := v.shm
          completed := s.completed ++ s.tickets 0 [sqHead]
          frame := some { f with
            processed := f.processed + 1
            walk := some (next (s.shm.sq 0).capacity sqHead, index) } }
    | none =>
      if f.head = f.tail then
        let v := pollFinish { server := s.server, processed := f.processed } f.head
        { s with ctx := v.ctx, shm := v.shm, frame := none }
      else
        let entry := ring.entries f.head
        if entry.type = 0 ∧ entry.queueId = 0 then
          { s with frame := some { f with walk := some ((s.shm.sq 0).head, entry.index) } }
        else
          match pollEntry 0x10000 { server := s.server, processed := f.processed } entry with
          | none => s
          | some p =>
            { s with
              ctx := p.server.ctx
              shm := p.server.shm
              frame := some { f with
                head := next ring.size f.head
                processed := p.processed } }

/-- The host puts commands into queue `q` up to `tail`, and the driver forwards the tail. -/
def forward (s : CrashRun) (q : UInt16) (tail : UInt32) (mem : UInt32 → NvmeCommand) : CrashRun :=
  let filled := { s.shm with sqMem := Function.update s.shm.sqMem q.toNat mem }
  let d := handTail { s.driver with shm := some filled } q tail
  let shm := d.shm.getD filled
  let old := s.shm.sq q.toNat
  { s with
    fdo := d.fdo
    shm := shm
    submitted := Function.update s.submitted q.toNat
      (s.submitted q.toNat + dist old.capacity old.tail (shm.sq q.toNat).tail) }

/-- `VnvmeAbortPendingUserCommands`; the fuel is more than it can use. -/
def abort (s : CrashRun) : CrashRun :=
  match vnvmeAbortPendingUserCommands 0x10000 s.driver with
  | none => s
  | some r =>
    { s with
      fdo := r.2.fdo
      pdo := r.2.pdo
      shm := r.2.shm.getD s.shm
      completed := s.completed ++ (abortedQueues s.shm s.pdo).flatMap fun q =>
        s.tickets q (s.shm.sq q).pendingSlots }

end CrashRun

/-- What can happen. A crash ends the server wherever it is; a restart starts a new one on the
same memory; `bus` is any change of the driver's flags. -/
inductive CrashEvent where
  | forward (q : UInt16) (tail : UInt32) (mem : UInt32 → NvmeCommand)
  | server
  | abort
  | crash
  | restart (config : CmdEngineConfig)
  | bus (fdo : FdoContext)

def crashStep (s : CrashRun) : CrashEvent → CrashRun
  | .forward q tail mem => s.forward q tail mem
  | .server => s.advance
  | .abort => s.abort
  | .crash => { s with ctx := {}, frame := none }
  | .restart config => { s with ctx := (cmdEngineInit {} s.shm config).2, frame := none }
  | .bus fdo => { s with fdo := fdo }

/-- The index lies between head and tail of the queue. -/
def QueueDescriptor.Ahead (d : QueueDescriptor) (index : UInt32) : Prop :=
  index < d.capacity ∧ dist d.capacity d.head index ≤ dist d.capacity d.head d.tail

/-- The host stays within the free slots, every admin notification that the server takes names
an index between head and tail, no abort comes while the server is in the loop over the admin
queue, and no crash after it has run a command there. -/
def CrashSafe (s : CrashRun) : CrashEvent → Prop
  | .forward q tail _ =>
    let d := s.shm.sq q.toNat
    d.capacity ≠ 0 → tail < d.capacity ∧
      dist d.capacity d.head d.tail + dist d.capacity d.tail tail < d.capacity.toNat
  | .server => ∀ f ∈ s.frame, f.walk = none → f.head ≠ f.tail →
      (s.shm.notifyRing.entries f.head).type = 0 →
      (s.shm.notifyRing.entries f.head).queueId = 0 →
        (s.shm.sq 0).Ahead (s.shm.notifyRing.entries f.head).index
  | .abort => s.walking = none
  | .crash => ∀ w ∈ s.walking, w.1 = (s.shm.sq 0).head
  | .restart _ => ∀ w ∈ s.walking, w.1 = (s.shm.sq 0).head
  | .bus _ => True

instance (d : QueueDescriptor) (index : UInt32) : Decidable (d.Ahead index) :=
  inferInstanceAs (Decidable (_ ∧ _))

instance (s : CrashRun) : (ev : CrashEvent) → Decidable (CrashSafe s ev)
  | .forward _ _ _ => inferInstanceAs (Decidable (_ → _))
  | .server => Option.decidableForallMem s.frame
  | .abort => inferInstanceAs (Decidable (s.walking = none))
  | .crash => Option.decidableForallMem s.walking
  | .restart _ => Option.decidableForallMem s.walking
  | .bus _ => inferInstanceAs (Decidable True)

/-- The state in which a run begins: indices in range, the submissions numbered from the first
lap, no poll under way. -/
structure CrashRun.Start (s : CrashRun) : Prop where
  idle : s.frame = none
  fresh : s.completed = []
  noDescriptors : NoDescriptors s.ctx.adminCtx
  inRange : ∀ q, (s.shm.sq q).capacity ≠ 0 → (s.shm.sq q).InRange
  numbered : ∀ q, (s.shm.sq q).capacity ≠ 0 →
    s.submitted q = (s.shm.sq q).head.toNat + (s.shm.sq q).pending

/-! ## A poll that nobody interrupts -/

section Poll

variable {s : CrashRun} {f : ExecFrame} {c : UInt32}

/-- The loop over the admin queue is a sequence of steps. -/
theorem adminLoop_advances {index : UInt32} {fuel : Nat} :
    ∀ {s : CrashRun} {f : ExecFrame} {sqHead : UInt32} {r : UInt32 × Polling},
      s.frame = some f → f.walk = some (sqHead, index) → (s.shm.sq 0).capacity = c →
      walk c index (fun p slot => some (pollAdminCommand p slot)) fuel sqHead
        { server := s.server, processed := f.processed } = some r →
      ∃ k, (CrashRun.advance^[k] s).server = r.2.server ∧ (CrashRun.advance^[k] s).frame =
        some { f with processed := r.2.processed, walk := some (index, index) } ∧ r.1 = index := by
  induction fuel with
  | zero =>
      intro s f sqHead r _ _ _ h
      cases h
  | succ fuel ih =>
      intro s f sqHead r hframe hwalk hcap h
      rcases RingBuffer.walk_succ h with ⟨rfl, rfl⟩ | ⟨heq, p, hp, hrest⟩
      · refine ⟨0, rfl, ?_, rfl⟩
        rw [Function.iterate_zero_apply, hframe, ← hwalk]
      · obtain rfl : pollAdminCommand { server := s.server, processed := f.processed } sqHead = p :=
          Option.some.inj hp
        have hadv : s.advance.frame = some { f with
            processed := f.processed + 1, walk := some (next c sqHead, index) } := by
          simp only [CrashRun.advance, hframe, hwalk, if_neg heq, hcap]
        have hserver : s.advance.server =
            cmdEngineProcessAdminCommand s.server (s.shm.sqMem 0 sqHead) := by
          simp only [CrashRun.advance, hframe, hwalk, if_neg heq]
          rfl
        have hcap' : (s.advance.shm.sq 0).capacity = c := by
          rw [← hcap]
          have hserv := (serving_adminCommand s.server (s.shm.sqMem 0 sqHead)).sq
          rw [← hserver] at hserv
          exact congrArg QueueDescriptor.capacity (congrFun hserv 0)
        obtain ⟨k, hk⟩ := ih hadv rfl hcap' (by
          rw [hserver]
          exact hrest)
        exact ⟨k + 1, hk⟩

/-- So is one notification. -/
theorem pollSlot_advances {fuel : Nat} {p : Polling} (hdesc : NoDescriptors s.ctx.adminCtx)
    (hframe : s.frame = some f) (hwalk : f.walk = none) (hmore : f.head ≠ f.tail)
    (h : pollSlot fuel { server := s.server, processed := f.processed } f.head = some p) :
    ∃ k, (CrashRun.advance^[k] s).server = p.server ∧ (CrashRun.advance^[k] s).frame =
      some { f with head := next s.shm.notifyRing.size f.head, processed := p.processed } := by
  by_cases hentry : (s.shm.notifyRing.entries f.head).type = 0 ∧
      (s.shm.notifyRing.entries f.head).queueId = 0
  · have htake : s.advance.frame = some { f with
        walk := some ((s.shm.sq 0).head, (s.shm.notifyRing.entries f.head).index) } := by
      simp only [CrashRun.advance, hframe, hwalk, if_neg hmore, if_pos hentry]
    have hserver : s.advance.server = s.server := by
      simp only [CrashRun.advance, hframe, hwalk, if_neg hmore, if_pos hentry]
      rfl
    have hadmin : pollAdminQueue fuel { server := s.server, processed := f.processed }
        (s.shm.notifyRing.entries f.head).index = some p := by
      rw [← h]
      exact ((if_pos hentry.1).trans (if_pos hentry.2)).symm
    obtain ⟨r, hr, rfl⟩ := Option.map_eq_some_iff.mp hadmin
    obtain ⟨k, hks, hkf, hend⟩ := adminLoop_advances htake rfl rfl (by
      rw [hserver]
      rw [show s.advance.shm = s.shm from congrArg Server.shm hserver]
      exact hr)
    have hring : (CrashRun.advance^[k] s.advance).shm.notifyRing = s.shm.notifyRing := by
      have hserv := (RingBuffer.walk_induct (I := fun x => Serving s.server x.server) (by
        intro x i x' hx hx'
        rw [← Option.some.inj hx']
        exact hx.trans (serving_adminCommand _ _)) (Serving.refl _) hr).2
      rw [show (CrashRun.advance^[k] s.advance).shm = r.2.server.shm from congrArg Server.shm hks]
      exact hserv.notifyRing
    refine ⟨k + 1 + 1, ?_, ?_⟩
    · rw [Function.iterate_succ_apply', Function.iterate_succ_apply]
      generalize CrashRun.advance^[k] s.advance = t at hks hkf
      simp only [CrashRun.advance, hkf, if_true]
      show ({ ctx := t.server.ctx
              shm := t.server.shm.setSq 0 { t.server.shm.sq 0 with head := _ } } : Server) = _
      rw [hks, storeHead, hend]
    · rw [Function.iterate_succ_apply', Function.iterate_succ_apply]
      generalize CrashRun.advance^[k] s.advance = t at hkf hring
      simp only [CrashRun.advance, hkf, if_true, hring]
      rw [hwalk]
      rfl
  · have hsame : ∀ n, pollEntry n { server := s.server, processed := f.processed }
        (s.shm.notifyRing.entries f.head) =
          some { server := s.server, processed := f.processed } :=
      fun n => pollEntry_passed hdesc hentry
    obtain rfl := Option.some.inj ((hsame fuel).symm.trans h)
    refine ⟨1, ?_, ?_⟩
    · show s.advance.server = s.server
      simp only [CrashRun.advance, hframe, hwalk, if_neg hmore, if_neg hentry, hsame]
      rfl
    · show s.advance.frame = _
      simp only [CrashRun.advance, hframe, hwalk, if_neg hmore, if_neg hentry, hsame]

/-- And so is the whole loop over the ring. -/
theorem ringLoop_advances {fuel₁ : Nat} {tail : UInt32} {fuel : Nat} :
    ∀ {s : CrashRun} {f : ExecFrame} {r : UInt32 × Polling}, NoDescriptors s.ctx.adminCtx →
      s.frame = some f → f.walk = none → f.tail = tail → s.shm.notifyRing.size = c →
      walk c tail (pollSlot fuel₁) fuel f.head
        { server := s.server, processed := f.processed } = some r →
      ∃ k, (CrashRun.advance^[k] s).server = r.2.server ∧ (CrashRun.advance^[k] s).frame =
        some { head := r.1, tail := tail, processed := r.2.processed } ∧ r.1 = tail := by
  induction fuel with
  | zero =>
      intro s f r _ _ _ _ _ h
      cases h
  | succ fuel ih =>
      intro s f r hdesc hframe hwalk htail hsize h
      rcases RingBuffer.walk_succ h with ⟨heq, rfl⟩ | ⟨hne, p, hslot, hrest⟩
      · refine ⟨0, rfl, ?_, heq⟩
        rw [Function.iterate_zero_apply, hframe, ← htail, ← hwalk]
      · obtain ⟨k, hks, hkf⟩ := pollSlot_advances hdesc hframe hwalk (htail ▸ hne) hslot
        have hpolled := pollEntry_polled hslot
        have hdesc' : NoDescriptors (CrashRun.advance^[k] s).ctx.adminCtx := by
          rw [show (CrashRun.advance^[k] s).ctx = p.server.ctx from congrArg Server.ctx hks]
          exact pollEntry_noDescriptors hdesc hslot
        have hsize' : (CrashRun.advance^[k] s).shm.notifyRing.size = c := by
          rw [show (CrashRun.advance^[k] s).shm = p.server.shm from congrArg Server.shm hks,
            hpolled.notifyRing]
          exact hsize
        obtain ⟨m, hm⟩ := ih hdesc' hkf hwalk htail hsize' (by
          rw [hks, hsize]
          exact hrest)
        refine ⟨m + k, ?_⟩
        rw [Function.iterate_add_apply]
        exact hm

/-- **The steps are those of `CmdEnginePoll`.** A poll that comes back is a sequence of them,
from idle to idle. -/
theorem cmdEnginePoll_advances {fuel : Nat} {n : UInt64} {v : Server}
    (hdesc : NoDescriptors s.ctx.adminCtx) (hidle : s.frame = none)
    (hready : pollReady s.server = true) (h : cmdEnginePoll fuel s.server = some (n, v)) :
    ∃ k, (CrashRun.advance^[k] s).server = v ∧ (CrashRun.advance^[k] s).frame = none := by
  rw [cmdEnginePoll, if_pos hready] at h
  obtain ⟨r, hr, hv⟩ := Option.map_eq_some_iff.mp h
  have hbegin : s.advance =
      { s with
        frame := some { head := s.shm.notifyRing.head, tail := s.shm.notifyRing.tail } } := by
    simp only [CrashRun.advance, hidle, if_pos hready]
  have hframe : s.advance.frame =
      some { head := s.shm.notifyRing.head, tail := s.shm.notifyRing.tail } := by rw [hbegin]
  have hserver : s.advance.server = s.server := by rw [hbegin]; rfl
  obtain ⟨k, hks, hkf, hend⟩ := ringLoop_advances (s := s.advance) (by rw [hbegin]; exact hdesc)
    hframe rfl rfl (by rw [hbegin]) (by rw [hserver]; exact hr)
  refine ⟨k + 1 + 1, ?_⟩
  rw [Function.iterate_succ_apply', Function.iterate_succ_apply]
  generalize CrashRun.advance^[k] s.advance = t at hks hkf
  have hfin : t.advance.server =
      pollFinish { server := t.server, processed := r.2.processed } r.1 := by
    simp only [CrashRun.advance, hkf, if_pos hend]
    rfl
  refine ⟨?_, ?_⟩
  · rw [hfin, hks]
    exact (Prod.mk.inj hv).2
  · simp only [CrashRun.advance, hkf, if_pos hend]

end Poll

/-! ## The invariant -/

/-- The indices of a queue are those of `n` submissions of which `h` have been taken. -/
structure QueueCounts (d : QueueDescriptor) (h n : Nat) : Prop where
  inRange : d.InRange
  at_head : At d.capacity h d.head
  at_tail : At d.capacity n d.tail
  le : h ≤ n
  lt : n < h + d.capacity.toNat

theorem QueueCounts.dist_eq {d : QueueDescriptor} {h n : Nat} (hd : QueueCounts d h n) :
    dist d.capacity d.head d.tail = n - h :=
  hd.at_head.dist_eq hd.at_tail hd.inRange.head_lt hd.inRange.tail_lt hd.le hd.lt

/-- The server, in the loop over the admin queue, has run `e` commands from the stored head on
and has no more to run than there are. -/
structure WalkCounts (d : QueueDescriptor) (h n e : Nat) (sqHead index : UInt32) : Prop where
  head_lt : sqHead < d.capacity
  index_lt : index < d.capacity
  at_head : At d.capacity (h + e) sqHead
  ahead : e + dist d.capacity sqHead index ≤ n - h

/-- `h q` commands of queue `q` have been taken according to its head, `e` more have been run
from the admin queue and not been recorded, and no other command has been completed. -/
structure CrashInv (s : CrashRun) (h : Nat → Nat) (e : Nat) : Prop where
  noDescriptors : NoDescriptors s.ctx.adminCtx
  queue : ∀ q, (s.shm.sq q).capacity ≠ 0 → QueueCounts (s.shm.sq q) (h q) (s.submitted q)
  nodup : s.completed.Nodup
  below : ∀ q k, (q, k) ∈ s.completed → k < h q + if q = 0 then e else 0
  idle : s.walking = none → e = 0
  walk : ∀ sqHead index, s.walking = some (sqHead, index) →
    WalkCounts (s.shm.sq 0) (h 0) (s.submitted 0) e sqHead index

theorem CrashRun.Start.inv {s : CrashRun} (h : s.Start) :
    CrashInv s (fun q => (s.shm.sq q).head.toNat) 0 := by
  have hwalk : s.walking = none := by rw [CrashRun.walking, h.idle]; rfl
  refine ⟨h.noDescriptors, ?_, ?_, ?_, fun _ => rfl, ?_⟩
  · intro q hc
    have hin := h.inRange q hc
    have hlt : (s.shm.sq q).pending < (s.shm.sq q).capacity.toNat :=
      RingBuffer.dist_lt (RingBuffer.pos_of_lt hin.head_lt)
    rw [h.numbered q hc]
    refine ⟨hin, At.self hin.head_lt, ?_, Nat.le_add_right _ _, by omega⟩
    exact (At.self hin.head_lt).add_dist hin.head_lt hin.tail_lt
  · rw [h.fresh]
    exact List.nodup_nil
  · intro q k hk
    rw [h.fresh] at hk
    exact absurd hk List.not_mem_nil
  · intro sqHead index hw
    rw [hwalk] at hw
    cases hw

/-- What a step that neither moves an index nor completes anything keeps. -/
theorem CrashInv.frame {s s' : CrashRun} {h : Nat → Nat} {e : Nat} (hs : CrashInv s h e)
    (hdesc : NoDescriptors s'.ctx.adminCtx) (hsq : s'.shm.sq = s.shm.sq)
    (hsub : s'.submitted = s.submitted) (hcomp : s'.completed = s.completed)
    (hwalk : s'.walking = s.walking) : CrashInv s' h e := by
  refine ⟨hdesc, ?_, ?_, ?_, ?_, ?_⟩
  · rw [hsq, hsub]
    exact hs.queue
  · rw [hcomp]
    exact hs.nodup
  · rw [hcomp]
    exact hs.below
  · rw [hwalk]
    exact hs.idle
  · rw [hsq, hsub, hwalk]
    exact hs.walk

/-- A server that goes away before it has run anything leaves nothing unrecorded. -/
theorem CrashInv.gone {s : CrashRun} {h : Nat → Nat} {e : Nat} (hs : CrashInv s h e)
    (hrun : ∀ w ∈ s.walking, w.1 = (s.shm.sq 0).head)
    {ctx : CmdEngineContext} (hctx : NoDescriptors ctx.adminCtx) :
    CrashInv { s with ctx := ctx, frame := none } h 0 := by
  have he : e = 0 := by
    cases hw : s.walking with
    | none => exact hs.idle hw
    | some p =>
        obtain ⟨sqHead, index⟩ := p
        have hcounts := hs.walk sqHead index hw
        have hlt := hcounts.head_lt
        have hat := hcounts.at_head
        have hahead := hcounts.ahead
        have hc : (s.shm.sq 0).capacity ≠ 0 :=
          UInt32.pos_iff_ne_zero.mp (RingBuffer.pos_of_lt hlt)
        have hq := hs.queue 0 hc
        have hle := hq.le
        have hroom := hq.lt
        rw [show sqHead = (s.shm.sq 0).head from hrun (sqHead, index) hw] at hat
        have := hq.at_head.count_eq hat (Nat.le_add_right _ _) (by omega)
        omega
  subst he
  refine ⟨hctx, hs.queue, hs.nodup, hs.below, fun _ => rfl, ?_⟩
  intro sqHead index hw
  cases hw

/-! ## The steps of the server -/

section Advance

variable {s : CrashRun} {h : Nat → Nat} {e : Nat} (hs : CrashInv s h e) {f : ExecFrame}
  (hframe : s.frame = some f)

include hs hframe

/-- The server stores the head: what it has run is recorded. -/
theorem CrashInv.store {sqHead : UInt32} (hwalk : f.walk = some (sqHead, sqHead)) :
    CrashInv s.advance (Function.update h 0 (h 0 + e)) 0 := by
  have hw : s.walking = some (sqHead, sqHead) := by rw [CrashRun.walking, hframe]; exact hwalk
  have hcounts := hs.walk sqHead sqHead hw
  have hlt := hcounts.head_lt
  have hahead := hcounts.ahead
  have hc : (s.shm.sq 0).capacity ≠ 0 := UInt32.pos_iff_ne_zero.mp (RingBuffer.pos_of_lt hlt)
  have hq := hs.queue 0 hc
  have hle := hq.le
  have hroom := hq.lt
  simp only [CrashRun.advance, hframe, hwalk, if_true]
  refine ⟨hs.noDescriptors, ?_, hs.nodup, ?_, fun _ => rfl, ?_⟩
  · intro q
    by_cases hq0 : q = 0
    · subst hq0
      intro _
      simp only [Shm.setSq, Function.update_self]
      exact ⟨⟨hlt, hq.inRange.tail_lt⟩, hcounts.at_head, hq.at_tail, by omega, by
        simp only
        omega⟩
    · simp only [Shm.setSq, Function.update_of_ne hq0]
      exact hs.queue q
  · intro q k hk
    have hb := hs.below q k hk
    by_cases hq0 : q = 0
    · subst hq0
      simpa using hb
    · simpa [hq0] using hb
  · intro a b hw'
    cases hw'

/-- The server runs one command: it has not been completed before. -/
theorem CrashInv.run {sqHead index : UInt32} (hwalk : f.walk = some (sqHead, index))
    (hne : sqHead ≠ index) : CrashInv s.advance h (e + 1) := by
  have hw : s.walking = some (sqHead, index) := by rw [CrashRun.walking, hframe]; exact hwalk
  have hcounts := hs.walk sqHead index hw
  have hlt := hcounts.head_lt
  have hahead := hcounts.ahead
  have hd := RingBuffer.dist_next hlt hcounts.index_lt hne
  have hpos := RingBuffer.pos_of_lt hlt
  have hq := hs.queue 0 (UInt32.pos_iff_ne_zero.mp hpos)
  have hroom := hq.lt
  have hserv := serving_adminCommand s.server (s.shm.sqMem 0 sqHead)
  have hticket : s.tickets 0 [sqHead] = [(0, h 0 + e)] := by
    have hlatest := RingBuffer.latest_eq hpos hcounts.at_head
      (show h 0 + e < s.submitted 0 by omega) (by omega)
    rw [CrashRun.tickets, List.filterMap_cons_some hlatest, List.filterMap_nil]
    rfl
  have hnew : (0, h 0 + e) ∉ s.completed := by
    intro hmem
    have hb := hs.below 0 _ hmem
    rw [if_pos rfl] at hb
    omega
  simp only [CrashRun.advance, hframe, hwalk, if_neg hne, hticket]
  refine ⟨adminCommand_noDescriptors hs.noDescriptors _, ?_, ?_, ?_, ?_, ?_⟩
  · simp only [hserv.sq]
    exact hs.queue
  · exact List.nodup_append.mpr ⟨hs.nodup, List.pairwise_singleton _ _, fun a ha b hb hab =>
      hnew (List.mem_singleton.mp hb ▸ hab ▸ ha)⟩
  · intro q k hk
    rcases List.mem_append.mp hk with hold | hk'
    · have hb := hs.below q k hold
      split_ifs at hb ⊢ <;> omega
    · simp only [List.mem_singleton, Prod.mk.injEq] at hk'
      rw [hk'.1, hk'.2, if_pos rfl]
      omega
  · intro hw'
    cases hw'
  · intro a b hw'
    simp only [CrashRun.walking, Option.bind_some, Option.some.injEq, Prod.mk.injEq] at hw'
    obtain ⟨rfl, rfl⟩ := hw'
    simp only [hserv.sq]
    refine ⟨RingBuffer.next_lt hpos, hcounts.index_lt, ?_, ?_⟩
    · exact hcounts.at_head.next hpos
    · show e + 1 + dist (s.shm.sq 0).capacity (next (s.shm.sq 0).capacity sqHead) index ≤ _
      omega

/-- The server takes an admin notification that names an index between head and tail. -/
theorem CrashInv.take (hwalk : f.walk = none) (hmore : f.head ≠ f.tail)
    (hentry : (s.shm.notifyRing.entries f.head).type = 0 ∧
      (s.shm.notifyRing.entries f.head).queueId = 0)
    (hahead : (s.shm.sq 0).Ahead (s.shm.notifyRing.entries f.head).index) :
    CrashInv s.advance h e := by
  have hw : s.walking = none := by rw [CrashRun.walking, hframe]; exact hwalk
  have hc : (s.shm.sq 0).capacity ≠ 0 :=
    UInt32.pos_iff_ne_zero.mp (RingBuffer.pos_of_lt hahead.1)
  have hq := hs.queue 0 hc
  simp only [CrashRun.advance, hframe, hwalk, if_neg hmore, if_pos hentry]
  refine ⟨hs.noDescriptors, hs.queue, hs.nodup, hs.below, ?_, ?_⟩
  · intro hw'
    cases hw'
  · intro a b hw'
    simp only [CrashRun.walking, Option.bind_some, Option.some.injEq, Prod.mk.injEq] at hw'
    obtain ⟨rfl, rfl⟩ := hw'
    have hdist := hahead.2
    rw [hq.dist_eq] at hdist
    rw [hs.idle hw]
    refine ⟨hq.inRange.head_lt, hahead.1, hq.at_head, ?_⟩
    show 0 + dist (s.shm.sq 0).capacity _ _ ≤ s.submitted 0 - h 0
    omega

/-- The server passes over a notification that is not one of the admin queue. -/
theorem CrashInv.pass (hwalk : f.walk = none) (hmore : f.head ≠ f.tail)
    (hentry : ¬ ((s.shm.notifyRing.entries f.head).type = 0 ∧
      (s.shm.notifyRing.entries f.head).queueId = 0)) : CrashInv s.advance h e := by
  have hsame : pollEntry 0x10000 { server := s.server, processed := f.processed }
      (s.shm.notifyRing.entries f.head) =
        some { server := s.server, processed := f.processed } :=
    pollEntry_passed hs.noDescriptors hentry
  have hwalking : s.walking = none := by rw [CrashRun.walking, hframe]; exact hwalk
  simp only [CrashRun.advance, hframe, hwalk, if_neg hmore, if_neg hentry, hsame]
  exact hs.frame hs.noDescriptors rfl rfl rfl (by rw [hwalking]; rfl)

end Advance

/-- Every step of the server keeps the invariant, if the notification it takes is in order. -/
theorem CrashInv.advance {s : CrashRun} {h : Nat → Nat} {e : Nat} (hs : CrashInv s h e)
    (hsafe : CrashSafe s .server) : ∃ h' e', CrashInv s.advance h' e' := by
  cases hframe : s.frame with
  | none =>
      have hwalking : s.walking = none := by rw [CrashRun.walking, hframe]; rfl
      refine ⟨h, e, ?_⟩
      by_cases hready : pollReady s.server = true
      · simp only [CrashRun.advance, hframe, if_pos hready]
        exact hs.frame hs.noDescriptors rfl rfl rfl (by rw [hwalking]; rfl)
      · simp only [CrashRun.advance, hframe, if_neg hready]
        exact hs
  | some f =>
      cases hwalk : f.walk with
      | some p =>
          obtain ⟨sqHead, index⟩ := p
          by_cases heq : sqHead = index
          · subst heq
            exact ⟨_, _, hs.store hframe hwalk⟩
          · exact ⟨_, _, hs.run hframe hwalk heq⟩
      | none =>
          have hwalking : s.walking = none := by rw [CrashRun.walking, hframe]; exact hwalk
          refine ⟨h, e, ?_⟩
          by_cases hdone : f.head = f.tail
          · simp only [CrashRun.advance, hframe, hwalk, if_pos hdone]
            refine hs.frame ?_ (pollFinish_sq _ _) rfl rfl (by rw [hwalking]; rfl)
            rw [pollFinish_adminCtx]
            exact hs.noDescriptors
          · by_cases hentry : (s.shm.notifyRing.entries f.head).type = 0 ∧
                (s.shm.notifyRing.entries f.head).queueId = 0
            · exact hs.take hframe hwalk hdone hentry
                (hsafe f hframe hwalk hdone hentry.1 hentry.2)
            · exact hs.pass hframe hwalk hdone hentry

/-! ## The steps of the driver -/

/-- A doorbell value in user mode stores the tail in the descriptor, or nothing. -/
theorem handTail_sq {d : Driver} {shm : Shm} (hshm : d.shm = some shm) (q : UInt16)
    (tail : UInt32) : ∃ shm' t, (handTail d q tail).shm = some shm' ∧
      shm'.sq = Function.update shm.sq q.toNat { shm.sq q.toNat with tail := t } ∧
      (t = tail ∨ t = (shm.sq q.toNat).tail) := by
  have hsame : shm.sq = Function.update shm.sq q.toNat
      { shm.sq q.toNat with tail := (shm.sq q.toNat).tail } :=
    (Function.update_eq_self q.toNat shm.sq).symm
  have hforwarded : ∃ shm' t, (forwardTail d shm q tail).shm = some shm' ∧
      shm'.sq = Function.update shm.sq q.toNat { shm.sq q.toNat with tail := t } ∧
      (t = tail ∨ t = (shm.sq q.toNat).tail) := by
    obtain ⟨ring, hring⟩ := forwardTail_eq d shm q tail
    rw [hring]
    exact ⟨_, tail, rfl, rfl, Or.inl rfl⟩
  by_cases h0 : q = 0
  · subst h0
    rw [handTail, if_pos rfl, vnvmeForwardAdminCommandsToUser_eq hshm]
    split_ifs
    · exact hforwarded
    · exact ⟨shm, _, hshm, hsame, Or.inr rfl⟩
  · rw [handTail, if_neg h0, vnvmeForwardIoCommandsToUser_eq hshm]
    split_ifs
    · exact hforwarded
    · exact ⟨shm, _, hshm, hsame, Or.inr rfl⟩

/-- New commands that fit in the free slots. -/
theorem QueueCounts.submit {d : QueueDescriptor} {h n : Nat} (hd : QueueCounts d h n)
    {tail t : UInt32} (ht : t = tail ∨ t = d.tail)
    (hsafe : tail < d.capacity ∧
      dist d.capacity d.head d.tail + dist d.capacity d.tail tail < d.capacity.toNat) :
    QueueCounts { d with tail := t } h (n + dist d.capacity d.tail t) := by
  have hle := hd.le
  have hroom := hd.lt
  rcases ht with rfl | rfl
  · have hfit := hsafe.2
    rw [hd.dist_eq] at hfit
    refine ⟨⟨hd.inRange.head_lt, hsafe.1⟩, hd.at_head, ?_, by omega, ?_⟩
    · exact hd.at_tail.add_dist hd.inRange.tail_lt hsafe.1
    · show n + dist d.capacity d.tail t < h + d.capacity.toNat
      omega
  · rw [RingBuffer.dist_refl, Nat.add_zero]
    exact hd

theorem CrashInv.forward {s : CrashRun} {h : Nat → Nat} {e : Nat} (hs : CrashInv s h e)
    {q : UInt16} {tail : UInt32} {mem : UInt32 → NvmeCommand}
    (hsafe : CrashSafe s (.forward q tail mem)) : CrashInv (s.forward q tail mem) h e := by
  obtain ⟨shm', t, hshm', hsq, ht⟩ := handTail_sq (d := { s.driver with
    shm := some { s.shm with sqMem := Function.update s.shm.sqMem q.toNat mem } }) rfl q tail
  have htail : (shm'.sq q.toNat).tail = t := by rw [hsq, Function.update_self]
  simp only [CrashRun.forward, hshm', Option.getD_some, htail]
  -- the queue of the doorbell has more commands, the others are as they were
  have hcap : ∀ r, (shm'.sq r).capacity = (s.shm.sq r).capacity := by
    intro r
    rw [hsq]
    by_cases hr : r = q.toNat
    · subst hr
      rw [Function.update_self]
    · rw [Function.update_of_ne hr]
  have hqueue : ∀ r, (s.shm.sq r).capacity ≠ 0 → QueueCounts (shm'.sq r) (h r)
      (Function.update s.submitted q.toNat (s.submitted q.toNat +
        dist (s.shm.sq q.toNat).capacity (s.shm.sq q.toNat).tail t) r) := by
    intro r hc
    rw [hsq]
    by_cases hr : r = q.toNat
    · subst hr
      rw [Function.update_self, Function.update_self]
      exact (hs.queue _ hc).submit ht (hsafe hc)
    · rw [Function.update_of_ne hr, Function.update_of_ne hr]
      exact hs.queue r hc
  have hmore : s.submitted 0 ≤ Function.update s.submitted q.toNat (s.submitted q.toNat +
      dist (s.shm.sq q.toNat).capacity (s.shm.sq q.toNat).tail t) 0 := by
    by_cases hq0 : 0 = q.toNat
    · rw [← hq0, Function.update_self]
      exact Nat.le_add_right _ _
    · rw [Function.update_of_ne hq0]
  refine ⟨hs.noDescriptors, fun r hc => hqueue r (hcap r ▸ hc), hs.nodup, hs.below, hs.idle, ?_⟩
  intro sqHead index hw
  obtain ⟨hlt, hidx, hat, hahead⟩ := hs.walk sqHead index hw
  simp only [← hcap 0] at hlt hidx hat hahead
  exact ⟨hlt, hidx, hat, hahead.trans (Nat.sub_le_sub_right hmore _)⟩

/-- The pending commands of a queue are those between the two counts. -/
theorem CrashInv.tickets_pending {s : CrashRun} {h : Nat → Nat} {e : Nat} (hs : CrashInv s h e)
    {q : Nat} (hc : (s.shm.sq q).capacity ≠ 0) : s.tickets q (s.shm.sq q).pendingSlots =
      (List.range' (h q) (s.submitted q - h q)).map (q, ·) := by
  have hq := hs.queue q hc
  have hle := hq.le
  have hroom := hq.lt
  rw [CrashRun.tickets, QueueDescriptor.pendingSlots, if_neg hc,
    RingBuffer.path_eq_slots hq.inRange.head_lt hq.inRange.tail_lt, hq.dist_eq,
    RingBuffer.slots_latest (UInt32.pos_iff_ne_zero.mpr hc) hq.at_head (by omega) (by omega)]

theorem tickets_of_empty {s : CrashRun} {q : Nat} (hc : (s.shm.sq q).capacity = 0) :
    s.tickets q (s.shm.sq q).pendingSlots = [] := by
  rw [QueueDescriptor.pendingSlots, if_pos hc]
  rfl

/-- The commands that an abort completes: the pending ones of the queues it looks into. -/
theorem CrashInv.mem_aborted {s : CrashRun} {h : Nat → Nat} {e : Nat} (hs : CrashInv s h e)
    {q r k : Nat} (hmem : (q, k) ∈ s.tickets r (s.shm.sq r).pendingSlots) :
    r = q ∧ (s.shm.sq q).capacity ≠ 0 ∧ h q ≤ k ∧ k < s.submitted q := by
  by_cases hc : (s.shm.sq r).capacity = 0
  · rw [tickets_of_empty hc] at hmem
    exact absurd hmem List.not_mem_nil
  · rw [hs.tickets_pending hc] at hmem
    obtain ⟨j, hj, heq⟩ := List.mem_map.mp hmem
    obtain ⟨rfl, rfl⟩ := Prod.mk.inj heq
    have hle := (hs.queue r hc).le
    rw [List.mem_range'_1] at hj
    exact ⟨rfl, hc, hj.1, by omega⟩

theorem nodup_abortedQueues (shm : Shm) (p : PdoContext) : (abortedQueues shm p).Nodup := by
  unfold abortedQueues
  refine List.nodup_cons.mpr ⟨?_, ?_⟩
  · split_ifs
    · simp
    · exact List.not_mem_nil
  · split_ifs
    · exact (List.nodup_range.map Nat.succ_injective).filter _
    · exact List.nodup_nil

theorem CrashInv.nodup_aborted {s : CrashRun} {h : Nat → Nat} {e : Nat} (hs : CrashInv s h e) :
    ((abortedQueues s.shm s.pdo).flatMap fun q =>
      s.tickets q (s.shm.sq q).pendingSlots).Nodup := by
  refine List.nodup_flatMap.mpr ⟨?_, ?_⟩
  · intro q _
    by_cases hc : (s.shm.sq q).capacity = 0
    · rw [tickets_of_empty hc]
      exact List.nodup_nil
    · rw [hs.tickets_pending hc]
      exact List.Nodup.map (fun a b hab => (Prod.mk.inj hab).2) (List.nodup_range' 1)
  · refine (nodup_abortedQueues s.shm s.pdo).imp ?_
    rintro q r hne ⟨p, k⟩ hq hr
    exact hne ((hs.mem_aborted hq).1.trans (hs.mem_aborted hr).1.symm)

/-- Between notifications an abort completes what nobody has completed. -/
theorem CrashInv.abort {s : CrashRun} {h : Nat → Nat} {e : Nat} (hs : CrashInv s h e)
    (hw : s.walking = none) : ∃ h', CrashInv s.abort h' e := by
  have he : e = 0 := hs.idle hw
  cases hr : vnvmeAbortPendingUserCommands 0x10000 s.driver with
  | none =>
      refine ⟨h, ?_⟩
      simp only [CrashRun.abort, hr]
      exact hs
  | some r =>
      obtain ⟨shm', hshm', hdr, -⟩ := abort_drained (d := s.driver) rfl hr
      simp only [CrashRun.abort, hr, hshm', Option.getD_some]
      have hle : ∀ q, h q ≤ if q ∈ abortedQueues s.shm s.pdo ∧ (s.shm.sq q).capacity ≠ 0
          then s.submitted q else h q := by
        intro q
        split_ifs with hq
        · exact (hs.queue q hq.2).le
        · exact Nat.le_refl _
      refine ⟨fun q => if q ∈ abortedQueues s.shm s.pdo ∧ (s.shm.sq q).capacity ≠ 0
        then s.submitted q else h q, hs.noDescriptors, ?_, ?_, ?_, fun _ => he, ?_⟩
      · intro q hc
        by_cases hq : q ∈ abortedQueues s.shm s.pdo
        · rw [(hdr.on q hq).capacity] at hc
          have hcounts := hs.queue q hc
          have hpos : 0 < (s.shm.sq q).capacity.toNat := UInt32.pos_iff_ne_zero.mpr hc
          simp only [if_pos (And.intro hq hc), (hdr.on q hq).sq, if_neg hc]
          exact ⟨⟨hcounts.inRange.tail_lt, hcounts.inRange.tail_lt⟩, hcounts.at_tail,
            hcounts.at_tail, Nat.le_refl _, Nat.lt_add_of_pos_right hpos⟩
        · have hsame := (hdr.off q hq).1
          simp only [hsame] at hc ⊢
          rw [if_neg fun hcon => hq hcon.1]
          exact hs.queue q hc
      · refine List.nodup_append.mpr ⟨hs.nodup, hs.nodup_aborted, ?_⟩
        rintro ⟨q, k⟩ hold b hnew rfl
        obtain ⟨p, _, hmem⟩ := List.mem_flatMap.mp hnew
        have hnot := (hs.mem_aborted hmem).2.2.1
        have hb := hs.below q k hold
        rw [he] at hb
        split_ifs at hb <;> omega
      · intro q k hk
        rcases List.mem_append.mp hk with hold | hnew
        · exact Nat.lt_of_lt_of_le (hs.below q k hold) (Nat.add_le_add_right (hle q) _)
        · obtain ⟨p, hp, hmem⟩ := List.mem_flatMap.mp hnew
          obtain ⟨rfl, hc, _, hlt⟩ := hs.mem_aborted hmem
          rw [if_pos (And.intro hp hc)]
          exact Nat.lt_of_lt_of_le hlt (Nat.le_add_right _ _)
      · intro sqHead index hw'
        exact absurd (hw.symm.trans hw') (by simp)

/-! ## Runs -/

theorem noDescriptors_init (shm : Shm) (config : CmdEngineConfig) :
    NoDescriptors (cmdEngineInit {} shm config).2.adminCtx := by
  by_cases hmagic : shm.magic ≠ 0x454D564E
  · rw [cmdEngineInit, if_pos hmagic]
    exact fun _ => rfl
  · rw [cmdEngineInit, if_neg hmagic]
    exact cmdEngineInitAdmin_noDescriptors config _ _

theorem CrashInv.step {s : CrashRun} {h : Nat → Nat} {e : Nat} (hs : CrashInv s h e)
    {ev : CrashEvent} (hsafe : CrashSafe s ev) : ∃ h' e', CrashInv (crashStep s ev) h' e' := by
  cases ev with
  | forward q tail mem => exact ⟨h, e, hs.forward hsafe⟩
  | server => exact hs.advance hsafe
  | abort =>
      obtain ⟨h', hs'⟩ := hs.abort hsafe
      exact ⟨h', e, hs'⟩
  | crash => exact ⟨h, 0, hs.gone hsafe fun _ => rfl⟩
  | restart config => exact ⟨h, 0, hs.gone hsafe (noDescriptors_init s.shm config)⟩
  | bus fdo => exact ⟨h, e, hs.frame hs.noDescriptors rfl rfl rfl rfl⟩

/-- **No command is completed twice** in a run in which the server takes only notifications
that are still ahead of the head and no abort or crash falls into its loop. -/
theorem completed_at_most_once {s : CrashRun} (h : s.Start) (events : List CrashEvent)
    (hsafe : EachStep crashStep CrashSafe s events) :
    Throughout crashStep (fun s => s.completed.Nodup) s events := by
  have hinv := Runs.throughout_of_eachStep (J := fun s => ∃ h e, CrashInv s h e)
    (fun s ev ⟨h, e, hs⟩ hg => hs.step hg) ⟨_, _, h.inv⟩ hsafe
  intro pre post heq
  obtain ⟨_, _, hs⟩ := hinv pre post heq
  exact hs.nodup

/-- A driver with a ready server, before the first command. -/
def readyRun : CrashRun :=
  { config := Config.allQueues
    fdo := { userReady := true }
    shm := vnvmeAllocateShm
    submitted := fun _ => 0 }

theorem readyRun_start : readyRun.Start := by
  refine ⟨rfl, rfl, fun _ => rfl, ?_, ?_⟩
  · intro q hc
    by_cases hq : q = 0
    · subst hq
      exact ⟨by decide, by decide⟩
    · exact absurd (by simp [readyRun, vnvmeAllocateShm, hq]) hc
  · intro q hc
    by_cases hq : q = 0
    · subst hq
      decide
    · exact absurd (by simp [readyRun, vnvmeAllocateShm, hq]) hc

/-- One command is run by the server, a second one is aborted. -/
def cleanCrash : List CrashEvent :=
  [.restart {}, .forward 0 1 (fun _ => {}), .server, .server, .server, .server,
    .forward 0 2 (fun _ => {}), .abort, .crash]

theorem completed_at_most_once_clean :
    EachStep crashStep CrashSafe readyRun cleanCrash ∧
      (Runs.run crashStep readyRun cleanCrash).completed = [(0, 0), (0, 1)] ∧
      Throughout crashStep (fun s => s.completed.Nodup) readyRun cleanCrash := by
  have hsafe : EachStep crashStep CrashSafe readyRun cleanCrash := by
    refine Runs.eachStep_cons.mpr ⟨by decide, Runs.eachStep_cons.mpr ⟨by decide,
      Runs.eachStep_cons.mpr ⟨by decide, Runs.eachStep_cons.mpr ⟨by decide,
      Runs.eachStep_cons.mpr ⟨by decide, Runs.eachStep_cons.mpr ⟨by decide,
      Runs.eachStep_cons.mpr ⟨by decide, Runs.eachStep_cons.mpr ⟨by decide,
      Runs.eachStep_cons.mpr ⟨by decide, Runs.eachStep_nil⟩⟩⟩⟩⟩⟩⟩⟩⟩
  exact ⟨hsafe, by decide, completed_at_most_once readyRun_start cleanCrash hsafe⟩

/-- Two tails are notified, 1 and 63, the server crashes, the commands are aborted, and the
server that is started next takes the first notification: it goes from slot 63 once round to
slot 1 and runs the aborted command in slot 0 again. -/
def staleNotification : List CrashEvent :=
  [.restart {}, .forward 0 1 (fun _ => {}), .forward 0 63 (fun _ => {}), .crash, .abort,
    .restart {}, .server, .server, .server, .server]

theorem stale_notification_runs_again :
    ¬ Throughout crashStep (fun s => s.completed.Nodup) readyRun staleNotification := by
  intro h
  have hnodup := h staleNotification [] (List.append_nil _).symm
  have htwice : (Runs.run crashStep readyRun staleNotification).completed.count (0, 0) = 2 := by
    decide +kernel
  have hone := List.nodup_iff_count_le_one.mp hnodup (0, 0)
  omega

end VirtualNvme
