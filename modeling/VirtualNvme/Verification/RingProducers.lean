import VirtualNvme.RingBuffer.Producers
import VirtualNvme.Verification.WakeUp

/-!
# Forwardings that do not take turns

Nothing makes the forwardings of several controllers take turns at the ring's tail. The ring goes
on representing the queue of what was pushed exactly as long as every store is tidy: it does not
change an entry that is pending, and the tail is still where the forwarding has loaded it, with
room left and the forwarding's own entry under it. Forwardings that take turns are tidy. One that
was overtaken is not, unless it was by whole rounds.
-/

namespace VirtualNvme

open RingBuffer
open Runs

/-- A run in which a forwarding remembers how many notifications had been pushed when it loaded the
ring's tail. -/
structure Producers extends WakeRun where
  seen : Nat → Nat := fun _ => 0

def producerStep (s : Producers) (e : WakeEvent) : Producers where
  toWakeRun := wakeStep s.toWakeRun e
  seen :=
    match e with
    | .advance i =>
      match s.forwards i with
      | .begun _ => Function.update s.seen i s.pushed.length
      | _ => s.seen
    | _ => s.seen

/-- The tail that a forwarding has loaded. -/
def ForwardPhase.tail? : ForwardPhase → Option UInt32
  | .loaded _ tail => some tail
  | .writing _ tail _ => some tail
  | _ => none

/-- A store of a forwarding leaves a pending entry as it is, and moves the tail on from where it
is, with room left and its own entry there. -/
def TidyStore (ring : NotifyRing) (entry : NotifyEntry) (tail : UInt32) (fields : Nat) : Prop :=
  if fields < 3 then
    RingBuffer.InUse ring.size ring.head ring.tail tail →
      ring.entries tail = storeField entry fields (ring.entries tail)
  else
    tail = ring.tail ∧ next ring.size ring.tail ≠ ring.head ∧ ring.entries ring.tail = entry

def Tidy (r : WakeRun) (e : WakeEvent) : Prop :=
  ∀ i entry tail fields, e = .advance i → r.forwards i = .writing entry tail fields →
    TidyStore r.ring entry tail fields

/-! ## One store -/

section Store

variable {n : UInt32} {r : RingRun}

/-- Only the ring itself matters. -/
theorem RingInv.setRing_iff {r : WakeRun} (h : RingInv n r.toRingRun) (ring : NotifyRing)
    (hsize : ring.size = n) :
    RingInv n (r.setRing ring).toRingRun ↔
      Holds n ring.entries ring.head ring.tail r.pushed r.released := by
  constructor
  · exact fun h' => h'.holds
  · intro hholds
    exact ⟨hsize, h.offset_ne, hholds, h.consumed_prefix, h.frame⟩

theorem FrameInv.push (h : FrameInv n r) (entry : NotifyEntry) :
    FrameInv n { r with pushed := r.pushed ++ [entry] } := by
  cases hframe : r.frame with
  | none =>
      simp only [FrameInv, hframe] at h ⊢
      exact h
  | some f =>
      simp only [FrameInv, hframe] at h ⊢
      obtain ⟨hle, hat, m, hm, hm1, hm2⟩ := h
      refine ⟨hle, hat, m, hm, hm1, hm2.trans ?_⟩
      rw [List.length_append]
      exact Nat.le_add_right _ _

theorem RingInv.pushed_iff {r : WakeRun} (h : RingInv n r.toRingRun) (ring : NotifyRing)
    (hsize : ring.size = n) (entry : NotifyEntry) :
    RingInv n { (r.setRing ring).toRingRun with pushed := r.pushed ++ [entry] } ↔
      Holds n ring.entries ring.head ring.tail (r.pushed ++ [entry]) r.released := by
  constructor
  · exact fun h' => h'.holds
  · intro hholds
    exact ⟨hsize, h.offset_ne, hholds, h.consumed_prefix.trans (List.prefix_append _ _),
      FrameInv.push h.frame entry⟩

/-- After a store the ring represents its queue exactly if the store was tidy. -/
theorem RingInv.store_iff {r : WakeRun} (h : RingInv n r.toRingRun) {i : Nat}
    {entry : NotifyEntry} {tail : UInt32} {fields : Nat} (ht : tail < n)
    (hi : r.forwards i = .writing entry tail fields) :
    RingInv n (r.advance i).toRingRun ↔ TidyStore r.ring entry tail fields := by
  have hsize := h.size_eq
  unfold TidyStore
  simp only [WakeRun.advance, hi]
  split_ifs with hmore
  · refine (h.setRing_iff { r.ring with
      entries := Function.update r.ring.entries tail
        (storeField entry fields (r.ring.entries tail)) } hsize).trans ?_
    rw [hsize]
    exact h.holds.write_iff ht _
  · refine (h.pushed_iff { r.ring with tail := next r.ring.size tail } hsize entry).trans ?_
    show Holds n r.ring.entries r.ring.head (next r.ring.size tail) _ _ ↔ _
    rw [hsize]
    exact h.holds.advance_iff ht entry

end Store

/-! ## Any interleaving -/

/-- The main loop has a poll under way exactly while it goes through the notifications. -/
def FrameFits (r : WakeRun) : Prop :=
  match r.loop.phase with
  | .headLoaded head => r.frame = none ∧ head = r.ring.head
  | .entries => r.frame.isSome
  | _ => r.frame = none

/-- The ring represents its queue, and every tail that is loaded was one. -/
structure ProducersInv (n : UInt32) (s : Producers) : Prop where
  ring : RingInv n s.toRingRun
  fits : FrameFits s.toWakeRun
  loaded : ∀ i t, (s.forwards i).tail? = some t →
    At n (s.seen i) t ∧ s.seen i ≤ s.pushed.length

section Serve

variable {n : UInt32} {r : WakeRun}

/-- A step of the main loop. -/
theorem RingInv.serve (h : RingInv n r.toRingRun) (hfits : FrameFits r) (fuel : Nat)
    (now : UInt32) : RingInv n (r.serve fuel now).toRingRun ∧ FrameFits (r.serve fuel now) := by
  unfold FrameFits at hfits
  cases hphase : r.loop.phase with
  | top =>
      rw [hphase] at hfits
      simp only [WakeRun.serve, hphase]
      refine ⟨h, ?_⟩
      unfold mainLoopTop FrameFits
      split_ifs
      · exact hfits
      · exact hfits
      · exact hfits
  | poll =>
      rw [hphase] at hfits
      simp only [WakeRun.serve, hphase]
      split_ifs
      · exact ⟨h, hfits, rfl⟩
      · exact ⟨h, hfits⟩
  | headLoaded head =>
      rw [hphase] at hfits
      obtain ⟨hidle, rfl⟩ := hfits
      simp only [WakeRun.serve, hphase]
      exact ⟨h.begin hidle, rfl⟩
  | entries =>
      rw [hphase] at hfits
      obtain ⟨f, hframe⟩ := Option.isSome_iff_exists.mp hfits
      simp only [WakeRun.serve, hphase, hframe]
      split_ifs with hdone
      · exact ⟨h.finish hframe, rfl⟩
      · cases hslot : pollSlot fuel { server := r.server, processed := f.processed } f.head with
        | none => 
            refine ⟨h, ?_⟩
            unfold FrameFits
            rw [hphase]
            exact hfits
        | some p => 
            refine ⟨h.consume hframe hdone hslot, ?_⟩
            unfold FrameFits
            simp only [hphase]
            rfl
  | polled processed =>
      rw [hphase] at hfits
      simp only [WakeRun.serve, hphase]
      refine ⟨h, ?_⟩
      unfold mainLoopPolled FrameFits
      by_cases hnone : processed = 0
      · simp only [WakeRun.setLoop, if_pos hnone]
        exact hfits
      · simp only [WakeRun.setLoop, if_neg hnone]
        exact hfits
  | waiting =>
      simp only [WakeRun.serve, hphase]
      refine ⟨h, ?_⟩
      unfold FrameFits
      rw [hphase]
      rw [hphase] at hfits
      exact hfits
  | stopped =>
      simp only [WakeRun.serve, hphase]
      refine ⟨h, ?_⟩
      unfold FrameFits
      rw [hphase]
      rw [hphase] at hfits
      exact hfits

/-- The main loop puts nothing into the ring and leaves the forwardings. -/
theorem serve_same (r : WakeRun) (fuel : Nat) (now : UInt32) :
    (r.serve fuel now).forwards = r.forwards ∧ (r.serve fuel now).pushed = r.pushed := by
  unfold WakeRun.serve
  split
  · exact ⟨rfl, rfl⟩
  · split_ifs <;> exact ⟨rfl, rfl⟩
  · exact ⟨rfl, rfl⟩
  · split
    · exact ⟨rfl, rfl⟩
    · split_ifs
      · exact ⟨rfl, rfl⟩
      · split <;> exact ⟨rfl, rfl⟩
  · exact ⟨rfl, rfl⟩
  · exact ⟨rfl, rfl⟩
  · exact ⟨rfl, rfl⟩

/-- Nor does the end of a wait. -/
theorem waitReturns_same (r : WakeRun) (result : WaitResult) :
    (r.waitReturns result).toRingRun = r.toRingRun ∧
      (r.waitReturns result).forwards = r.forwards := by
  unfold WakeRun.waitReturns
  split_ifs
  · exact ⟨rfl, rfl⟩
  · exact ⟨rfl, rfl⟩
  · exact ⟨rfl, rfl⟩
  · exact ⟨rfl, rfl⟩

theorem FrameFits.waitReturns (hfits : FrameFits r) (result : WaitResult) :
    FrameFits (r.waitReturns result) := by
  by_cases hwaiting : r.loop.phase = .waiting
  · have hidle : r.frame = none := by
      unfold FrameFits at hfits
      rw [hwaiting] at hfits
      exact hfits
    simp only [WakeRun.waitReturns, if_pos hwaiting]
    split_ifs
    · exact hidle
    · exact hfits
    · exact hidle
  · rw [WakeRun.waitReturns, if_neg hwaiting]
    exact hfits

/-- What does not concern the main loop and the ring's head. -/
theorem FrameFits.other {r' : WakeRun} (hfits : FrameFits r)
    (hphase : r'.loop.phase = r.loop.phase) (hframe : r'.frame = r.frame)
    (hhead : r'.ring.head = r.ring.head) : FrameFits r' := by
  unfold FrameFits at hfits ⊢
  rw [hphase, hframe, hhead]
  exact hfits

end Serve

section Interleaving

variable {n : UInt32} {s : Producers}

theorem ProducersInv.tail_lt (h : ProducersInv n s) {i : Nat} {t : UInt32}
    (ht : (s.forwards i).tail? = some t) : t < n :=
  (h.loaded i t ht).1.lt h.ring.holds.pos

/-- A forwarding that begins writes to its queue's descriptor. -/
theorem forward_same (r : WakeRun) (i : Nat) (queueId : UInt16) (newTail : UInt32) :
    wakeStep r (.forward i queueId newTail) = r ∨
      ∃ shm entry, wakeStep r (.forward i queueId newTail) =
          (r.setShm shm).setForward i (.begun entry) ∧
        shm.notifyRing = r.ring ∧ shm.notifyRingOffset = r.server.shm.notifyRingOffset := by
  cases hi : r.forwards i with
  | idle =>
      simp only [wakeStep, hi, WakeRun.beginForward]
      split_ifs
      · exact .inl rfl
      · exact .inl rfl
      · exact .inl rfl
      · exact .inr ⟨_, _, rfl, rfl, rfl⟩
  | _ => exact .inl (by simp only [wakeStep, hi])

theorem advance_other (r : WakeRun) {i j : Nat} (hne : i ≠ j) :
    (r.advance j).forwards i = r.forwards i := by
  unfold WakeRun.advance
  split
  · rfl
  · split_ifs <;> exact Function.update_of_ne hne _ _
  · split_ifs <;> exact Function.update_of_ne hne _ _
  · split_ifs <;> exact Function.update_of_ne hne _ _
  · exact Function.update_of_ne hne _ _

theorem setForward_self (r : WakeRun) (i : Nat) (phase : ForwardPhase) :
    (r.setForward i phase).forwards i = phase := Function.update_self _ _ _

/-- A forwarding keeps the tail that it has loaded. -/
theorem advance_tail (r : WakeRun) (i : Nat) {t : UInt32}
    (h : ((r.advance i).forwards i).tail? = some t) :
    ((r.forwards i).tail? = some t ∧ ∀ entry, r.forwards i ≠ .begun entry) ∨
      (t = r.ring.tail ∧ ∃ entry, r.forwards i = .begun entry) := by
  cases hi : r.forwards i with
  | idle =>
      simp only [WakeRun.advance, hi] at h
      cases h
  | begun entry =>
      simp only [WakeRun.advance, hi] at h
      split_ifs at h
      · rw [setForward_self] at h
        cases h
      · rw [setForward_self] at h
        exact .inr ⟨(Option.some_inj.mp h).symm, entry, rfl⟩
  | loaded entry tail =>
      simp only [WakeRun.advance, hi] at h
      split_ifs at h
      · rw [setForward_self] at h
        cases h
      · rw [setForward_self] at h
        exact .inl ⟨h, fun _ hfalse => by cases hfalse⟩
  | writing entry tail fields =>
      simp only [WakeRun.advance, hi] at h
      split_ifs at h
      · rw [setForward_self] at h
        exact .inl ⟨h, fun _ hfalse => by cases hfalse⟩
      · change (((r.setRing _).setForward i ForwardPhase.signalling).forwards i).tail? = _ at h
        rw [setForward_self] at h
        cases h
  | signalling =>
      simp only [WakeRun.advance, hi] at h
      rw [setForward_self] at h
      cases h

/-- A tail that is loaded after a step was loaded before it, or is the ring's. -/
theorem forwards_step {e : WakeEvent} {i : Nat} {t : UInt32}
    (h : ((producerStep s e).forwards i).tail? = some t) :
    ((s.forwards i).tail? = some t ∧ (producerStep s e).seen i = s.seen i) ∨
      (t = s.ring.tail ∧ (producerStep s e).seen i = s.pushed.length) := by
  cases e with
  | forward j queueId newTail =>
      refine .inl ⟨?_, rfl⟩
      change ((wakeStep s.toWakeRun (.forward j queueId newTail)).forwards i).tail? = some t at h
      rcases forward_same s.toWakeRun j queueId newTail with hsame | ⟨shm, entry, hbegun, -, -⟩
      · rw [hsame] at h
        exact h
      · rw [hbegun] at h
        by_cases hij : i = j
        · subst hij
          rw [setForward_self] at h
          cases h
        · exact (congrArg ForwardPhase.tail? (Function.update_of_ne hij _ _)).symm.trans h
  | advance j =>
      by_cases hij : i = j
      · subst hij
        rcases advance_tail s.toWakeRun i h with ⟨htail, hnot⟩ | ⟨htail, entry, hbegun⟩
        · refine .inl ⟨htail, ?_⟩
          cases hi : s.forwards i with
          | begun entry => exact absurd hi (hnot entry)
          | _ => simp only [producerStep, hi]
        · refine .inr ⟨htail, ?_⟩
          simp only [producerStep, hbegun]
          exact Function.update_self _ _ _
      · refine .inl ⟨?_, ?_⟩
        · rw [← advance_other s.toWakeRun hij]
          exact h
        · cases hj : s.forwards j with
          | begun entry =>
              simp only [producerStep, hj]
              exact Function.update_of_ne hij _ _
          | _ => simp only [producerStep, hj]
  | serve fuel now =>
      refine .inl ⟨?_, rfl⟩
      rw [← (serve_same s.toWakeRun fuel now).1]
      exact h
  | wait result =>
      refine .inl ⟨?_, rfl⟩
      rw [← (waitReturns_same s.toWakeRun result).2]
      exact h
  | console => exact .inl ⟨h, rfl⟩
  | rest server fdo shutdownRequested => exact .inl ⟨h, rfl⟩

/-- Nothing that was pushed is taken back. -/
theorem pushed_le_step (r : WakeRun) (e : WakeEvent) :
    r.pushed.length ≤ (wakeStep r e).pushed.length := by
  cases e with
  | forward i queueId newTail =>
      rcases forward_same r i queueId newTail with hsame | ⟨shm, entry, hbegun, -, -⟩
      · rw [hsame]
      · rw [hbegun]
        exact le_rfl
  | advance i =>
      show _ ≤ (r.advance i).pushed.length
      unfold WakeRun.advance
      split
      · exact le_rfl
      · split_ifs <;> exact le_rfl
      · split_ifs <;> exact le_rfl
      · split_ifs
        · exact le_rfl
        · show r.pushed.length ≤ (r.pushed ++ [_]).length
          rw [List.length_append]
          exact Nat.le_add_right _ _
      · exact le_rfl
  | serve fuel now => exact (congrArg List.length (serve_same r fuel now).2).ge
  | wait result =>
      exact (congrArg (fun run => run.pushed.length) (waitReturns_same r result).1).ge
  | console => exact le_rfl
  | rest server fdo shutdownRequested => exact le_rfl

/-- An access of a forwarding that is not a store leaves the ring and what was pushed. -/
theorem advance_ring (r : WakeRun) {i : Nat}
    (h : ∀ entry tail fields, r.forwards i ≠ .writing entry tail fields) :
    (r.advance i).toRingRun = r.toRingRun := by
  unfold WakeRun.advance
  split
  · rfl
  · split_ifs <;> rfl
  · split_ifs <;> rfl
  · rename_i entry tail fields hi
    exact absurd hi (h entry tail fields)
  · rfl

/-- An access of a forwarding leaves the main loop and the ring's head. -/
theorem FrameFits.advance {r : WakeRun} (hfits : FrameFits r) (i : Nat) :
    FrameFits (r.advance i) := by
  unfold WakeRun.advance
  split
  · exact hfits
  · split_ifs
    · exact hfits.other rfl rfl rfl
    · exact hfits.other rfl rfl rfl
  · split_ifs
    · exact hfits.other rfl rfl rfl
    · exact hfits.other rfl rfl rfl
  · split_ifs
    · exact hfits.other rfl rfl rfl
    · exact hfits.other rfl rfl rfl
  · exact hfits.other rfl rfl rfl

/-- A step leaves a ring that represents its queue exactly if it is tidy. -/
theorem ProducersInv.step_iff (h : ProducersInv n s) (e : WakeEvent) :
    RingInv n (producerStep s e).toRingRun ↔ Tidy s.toWakeRun e := by
  cases e with
  | forward i queueId newTail =>
      refine iff_of_true ?_ (fun j entry tail fields he => by cases he)
      show RingInv n (wakeStep s.toWakeRun (.forward i queueId newTail)).toRingRun
      rcases forward_same s.toWakeRun i queueId newTail with hsame |
        ⟨shm, entry, hbegun, hring, hoff⟩
      · rw [hsame]
        exact h.ring
      · rw [hbegun]
        exact h.ring.withServer hring hoff
  | advance i =>
      by_cases hwriting : ∃ entry tail fields, s.forwards i = .writing entry tail fields
      · obtain ⟨entry, tail, fields, hi⟩ := hwriting
        refine (h.ring.store_iff (h.tail_lt (by rw [hi]; rfl)) hi).trans ⟨?_, ?_⟩
        · intro hstore j entry' tail' fields' he hj
          obtain rfl := WakeEvent.advance.inj he
          rw [hi] at hj
          obtain ⟨rfl, rfl, rfl⟩ := ForwardPhase.writing.inj hj
          exact hstore
        · exact fun htidy => htidy i entry tail fields rfl hi
      · have hnot : ∀ entry tail fields, s.forwards i ≠ .writing entry tail fields :=
          fun entry tail fields hi => hwriting ⟨entry, tail, fields, hi⟩
        refine iff_of_true ?_ fun j entry tail fields he hj => ?_
        · show RingInv n (s.advance i).toRingRun
          rw [advance_ring s.toWakeRun hnot]
          exact h.ring
        · obtain rfl := WakeEvent.advance.inj he
          exact absurd hj (hnot entry tail fields)
  | serve fuel now =>
      exact iff_of_true (h.ring.serve h.fits fuel now).1 (fun j entry tail fields he => by cases he)
  | wait result =>
      refine iff_of_true ?_ (fun j entry tail fields he => by cases he)
      show RingInv n (s.waitReturns result).toRingRun
      rw [(waitReturns_same s.toWakeRun result).1]
      exact h.ring
  | console => exact iff_of_true h.ring (fun j entry tail fields he => by cases he)
  | rest server fdo shutdownRequested =>
      exact iff_of_true (h.ring.withServer rfl rfl) (fun j entry tail fields he => by cases he)

theorem ProducersInv.fits_step (h : ProducersInv n s) (e : WakeEvent) :
    FrameFits (producerStep s e).toWakeRun := by
  cases e with
  | forward i queueId newTail =>
      show FrameFits (wakeStep s.toWakeRun (.forward i queueId newTail))
      rcases forward_same s.toWakeRun i queueId newTail with hsame |
        ⟨shm, entry, hbegun, hring, -⟩
      · rw [hsame]
        exact h.fits
      · rw [hbegun]
        exact h.fits.other rfl rfl (congrArg NotifyRing.head hring)
  | advance i => exact h.fits.advance i
  | serve fuel now => exact (h.ring.serve h.fits fuel now).2
  | wait result => exact h.fits.waitReturns result
  | console => exact h.fits.other rfl rfl rfl
  | rest server fdo shutdownRequested => exact h.fits.other rfl rfl rfl

theorem ProducersInv.step (h : ProducersInv n s) {e : WakeEvent} (htidy : Tidy s.toWakeRun e) :
    ProducersInv n (producerStep s e) := by
  refine ⟨(h.step_iff e).mpr htidy, h.fits_step e, fun i t ht => ?_⟩
  have hmono : s.pushed.length ≤ (producerStep s e).pushed.length := pushed_le_step s.toWakeRun e
  rcases forwards_step ht with ⟨hold, hseen⟩ | ⟨rfl, hseen⟩
  · obtain ⟨hat, hle⟩ := h.loaded i t hold
    rw [hseen]
    exact ⟨hat, hle.trans hmono⟩
  · rw [hseen]
    exact ⟨h.ring.holds.tail_at, hmono⟩

/-- What a forwarding that takes its turn stores is tidy. -/
theorem WakeInv.tidy {r : WakeRun} (h : WakeInv n r) (e : WakeEvent) : Tidy r e := by
  intro i entry tail fields _ hi
  have hseen := h.forwards.seen i
  rw [hi] at hseen
  obtain ⟨rfl, hfree, hstored⟩ := hseen
  unfold TidyStore
  split_ifs with hmore
  · exact fun huse => absurd huse not_inUse_tail
  · exact ⟨rfl, hfree, hstored.eq hmore⟩

end Interleaving

/-! ## What is lost -/

/-- Nothing was pushed while the forwarding had the tail loaded, or a whole number of rounds. -/
def NotOvertaken (n : UInt32) (s : Producers) (e : WakeEvent) : Prop :=
  ∀ i entry tail fields, e = .advance i → s.forwards i = .writing entry tail fields →
    ¬ fields < 3 → n.toNat ∣ s.pushed.length - s.seen i

theorem ProducersInv.notOvertaken {n : UInt32} {s : Producers} (h : ProducersInv n s)
    {e : WakeEvent} (htidy : Tidy s.toWakeRun e) : NotOvertaken n s e := by
  intro i entry tail fields he hi hall
  obtain ⟨hat, hle⟩ := h.loaded i tail (by rw [hi]; rfl)
  have hstore := htidy i entry tail fields he hi
  rw [TidyStore, if_neg hall] at hstore
  have hmod : s.seen i % n.toNat = s.pushed.length % n.toNat := by
    rw [hstore.1] at hat
    exact hat.symm.trans h.ring.holds.tail_at
  exact (Nat.modEq_iff_dvd' hle).mp hmod

/-- The start of the main loop on a fresh ring. -/
def Producers.start (s : Server) (fdo : FdoContext) (reply : Option (Option Nat)) : Producers :=
  { toWakeRun := .start s fdo reply }

/-- Without the numbers that the forwardings remember it is the same run. -/
theorem run_toWakeRun (s : Producers) (es : List WakeEvent) :
    (run producerStep s es).toWakeRun = run wakeStep s.toWakeRun es := by
  induction es generalizing s with
  | nil => rfl
  | cons e es ih => exact ih (producerStep s e)

/-- **Forwardings that meet.** In every interleaving of forwardings and polls, the ring represents
the queue of what was pushed at every moment exactly if every store is tidy. It is if the
forwardings take turns; and it is not once a forwarding stores the tail after others were pushed
since it loaded it, unless these were whole rounds. -/
theorem ringRepresents_iff {s : Server} (hring : FreshRing s) (hready : s.ctx.initialized = true)
    (fdo : FdoContext) (reply : Option (Option Nat)) (es : List WakeEvent) :
    (Throughout producerStep (fun p => RingInv s.shm.notifyRing.size p.toRingRun)
        (.start s fdo reply) es ↔
      EachStep producerStep (fun p e => Tidy p.toWakeRun e) (.start s fdo reply) es) ∧
    (EachStep wakeStep WakeGood (.start s fdo reply) es →
      EachStep producerStep (fun p e => Tidy p.toWakeRun e) (.start s fdo reply) es) ∧
    (EachStep producerStep (fun p e => Tidy p.toWakeRun e) (.start s fdo reply) es →
      EachStep producerStep (NotOvertaken s.shm.notifyRing.size) (.start s fdo reply) es) := by
  have hwake := WakeInv.start hring hready fdo reply
  have hstart : ProducersInv s.shm.notifyRing.size (.start s fdo reply) := by
    refine ⟨hwake.ring, ?_, fun i t ht => by cases ht⟩
    unfold FrameFits
    rcases reply with _ | _ | _ <;> rfl
  refine ⟨?_, fun hgood pre e post heq => ?_, fun htidy pre e post heq => ?_⟩
  · exact throughout_iff (fun _ h => h.ring) (fun _ _ h htidy => h.step htidy)
      (fun _ e h hbad hkept => hbad ((h.step_iff e).mp hkept)) hstart es
  · have hkeeps : ∀ r e, WakeInv s.shm.notifyRing.size r → WakeGood r e →
        WakeInv s.shm.notifyRing.size (wakeStep r e) := fun _ _ h hgood => h.step hgood
    have hall := throughout_of_eachStep hkeeps hwake hgood pre (e :: post) heq
    show Tidy (run producerStep (.start s fdo reply) pre).toWakeRun e
    rw [run_toWakeRun]
    exact hall.tidy e
  · have hkeeps : ∀ p e, ProducersInv s.shm.notifyRing.size p → Tidy p.toWakeRun e →
        ProducersInv s.shm.notifyRing.size (producerStep p e) := fun _ _ h htidy => h.step htidy
    have hall := throughout_of_eachStep hkeeps hstart htidy pre (e :: post) heq
    exact hall.notOvertaken (htidy pre e post heq)

/-- Two forwardings load the same tail, and then each goes on to its store. -/
def meetingRun : List WakeEvent :=
  [.forward 0 0 1, .forward 1 0 2, .advance 0, .advance 1] ++
    List.replicate 5 (.advance 0) ++ List.replicate 4 (.advance 1)

/-- Both have pushed, but there is one entry in the ring. -/
theorem ringRepresents_iff_meeting :
    let start : Producers := .start twoSlotServer { userReady := true } none
    let last := run producerStep start (meetingRun ++ [.advance 1])
    last.pushed.length = 2 ∧ dist 2 last.ring.head last.ring.tail = 1 ∧
      ¬ EachStep producerStep (fun p e => Tidy p.toWakeRun e) start
        (meetingRun ++ [.advance 1]) := by
  have hfresh : FreshRing twoSlotServer := ⟨by decide, rfl, rfl, by decide⟩
  refine ⟨rfl, by decide, fun htidy => ?_⟩
  have hnot := (ringRepresents_iff hfresh rfl { userReady := true } none
    (meetingRun ++ [.advance 1])).2.2 htidy meetingRun (.advance 1) [] rfl
  have hdvd := hnot 1 ⟨0, 0, 2⟩ 0 3 rfl rfl (by decide)
  exact absurd hdvd (by decide)

end VirtualNvme
