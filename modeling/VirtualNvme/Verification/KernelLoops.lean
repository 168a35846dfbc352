import VirtualNvme.Driver.Doorbell
import VirtualNvme.RingBuffer.Trace
import VirtualNvme.Verification.CommandFrame

/-!
# What the kernel executes for a new tail

`VnvmeProcessAdminCommands` and `VnvmeProcessIoCommands` go from the head in the controller's
tables up to the tail of the doorbell. The commands come from `VnvmeFetchCommand`, which knows
nothing of either: it goes by head, tail, capacity and `Valid` of the descriptor in shared
memory. A tail is served in full exactly if the descriptor follows (`SqView.Ready`), and in
kernel mode nobody writes the new tail to it.
-/

namespace VirtualNvme

open RingBuffer

/-! ## One submission queue -/

/-- Everything that serving a submission queue depends on: the descriptor comes with the
offset of the descriptor array. -/
structure SqView where
  config : Config
  commandMode : CommandMode
  ioQueueCount : UInt16
  state : QueueState
  desc : Option (QueueDescriptor × UInt32)

def Driver.sqView (d : Driver) (q : Nat) : SqView where
  config := d.config
  commandMode := d.fdo.commandMode
  ioQueueCount := d.pdo.ioQueueCount
  state := d.pdo.sq q
  desc := d.shm.map fun shm => (shm.sq q, shm.ioQueueDescriptorOffset)

/-- `VnvmeFetchCommand` accepts I/O queue `q` and goes by the descriptor `desc`. -/
structure SqView.Accepts (v : SqView) (q : UInt16) (desc : QueueDescriptor) (off : UInt32) :
    Prop where
  desc_eq : v.desc = some (desc, off)
  offset : off ≠ 0
  limit : q.toUInt32 ≤ v.config.maxIOQueues
  created : v.state.created = true
  valid : desc.valid ≠ 0

theorem sqCheck_ok_iff_accepts {d : Driver} {q : UInt16} (hq : q ≠ 0) {shm : Shm}
    (hshm : d.shm = some shm) :
    sqCheck d q = .ok shm ↔
      (d.sqView q.toNat).Accepts q (shm.sq q.toNat) shm.ioQueueDescriptorOffset := by
  have hdesc : (d.sqView q.toNat).desc = some (shm.sq q.toNat, shm.ioQueueDescriptorOffset) :=
    congrArg (Option.map _) hshm
  rw [sqCheck_ok_iff]
  constructor
  · rintro ⟨-, hio, hvalid⟩
    obtain ⟨hle, hcreated, hoff⟩ := hio hq
    exact ⟨hdesc, hoff, hle, hcreated, hvalid⟩
  · intro h
    exact ⟨hshm, fun _ => ⟨h.limit, h.created, h.offset⟩, h.valid⟩

theorem SqView.Accepts.shm {d : Driver} {q : UInt16} {desc : QueueDescriptor} {off : UInt32}
    (h : (d.sqView q.toNat).Accepts q desc off) :
    ∃ shm, d.shm = some shm ∧ shm.sq q.toNat = desc ∧ shm.ioQueueDescriptorOffset = off := by
  obtain ⟨shm, hshm, heq⟩ := Option.map_eq_some_iff.mp h.desc_eq
  obtain ⟨hdesc, hoff⟩ := Prod.mk.inj heq
  exact ⟨shm, hshm, hdesc, hoff⟩

theorem SqView.Accepts.unique {v : SqView} {q : UInt16} {desc desc' : QueueDescriptor}
    {off off' : UInt32} (h : v.Accepts q desc off) (h' : v.Accepts q desc' off') :
    desc = desc' ∧ off = off' :=
  Prod.mk.inj (Option.some.inj (h.desc_eq.symm.trans h'.desc_eq))

/-! ## One round -/

/-- Posting a completion touches no submission queue. -/
theorem vnvmePostCompletion_sqView (d : Driver) (q : UInt16) (c : NvmeCompletion) (p : Nat) :
    (vnvmePostCompletion d q c).2.sqView p = d.sqView p := by
  rcases vnvmePostCompletion_cases d q c with ⟨-, hd⟩ | ⟨shm, hok, hd⟩
  · rw [hd]
  · rw [hd]
    simp only [Driver.sqView, applyPosts, (cqCheck_ok_iff.mp hok).1, Option.map_some]
    rfl

theorem vnvmeProcessIoCommand_sqView (d : Driver) (q : UInt16) (cmd : NvmeCommand) (p : Nat) :
    (vnvmeProcessIoCommand d q cmd).2.sqView p = d.sqView p := by
  obtain ⟨sct, sc, heq⟩ := vnvmeProcessIoCommand_eq d q cmd
  rw [heq]
  rcases postIoCompletion_cases (ioHandled d cmd) q cmd.cid sct sc with
    ⟨-, hd⟩ | ⟨c, -, -, hd⟩
  · rw [hd]
    rfl
  · rw [hd, vnvmePostCompletion_sqView]
    rfl

/-- The slot that a fetch from queue `q` reads. -/
def takenSlot (q : Nat) (s : UInt32 × Driver) : UInt32 :=
  (s.2.shm.map fun shm => (shm.sq q).head).getD 0

theorem SqView.Accepts.takenSlot {s : UInt32 × Driver} {q : UInt16} {desc : QueueDescriptor}
    {off : UInt32} (h : (s.2.sqView q.toNat).Accepts q desc off) :
    takenSlot q.toNat s = desc.head := by
  obtain ⟨shm, hshm, hdesc, -⟩ := h.shm
  rw [VirtualNvme.takenSlot, hshm, ← hdesc]
  rfl

/-- The queue after one more command: both heads have moved, each round its own ring. -/
def SqView.advance (v : SqView) (head : UInt32) (desc : QueueDescriptor) (off : UInt32) : SqView :=
  { v with
    state := { v.state with head := head }
    desc := some ({ desc with head := next desc.capacity desc.head }, off) }

theorem setHead_sqView (d : Driver) (q : Nat) (head : UInt32) (m : Media) :
    Driver.sqView { d with pdo := { d.pdo.setSq q { d.pdo.sq q with head := head } with
      toMedia := m } } q =
      { d.sqView q with state := { (d.sqView q).state with head := head } } := by
  simp only [Driver.sqView, PdoContext.setSq, Function.update_self]

theorem applyFetch_sqView {d : Driver} {shm : Shm} (hshm : d.shm = some shm) (q : Nat) :
    (applyFetch d shm q).sqView q =
      (d.sqView q).advance (next (shm.sq q).capacity (shm.sq q).head) (shm.sq q)
        shm.ioQueueDescriptorOffset := by
  simp only [applyFetch, Driver.sqView, SqView.advance, PdoContext.setSq, Shm.setSq, hshm,
    Function.update_self, Option.map_some]

section Round

variable {q : UInt16} (hq : q ≠ 0) {size tail head : UInt32} {d : Driver}

include hq

/-- A round that has something to fetch. -/
theorem processIoStep_takes (hne : head ≠ tail) {desc : QueueDescriptor} {off : UInt32}
    (h : (d.sqView q.toNat).Accepts q desc off) (hpending : desc.head ≠ desc.tail) :
    ∃ d', processIoStep q size tail (head, d) = some (.inl (next size head, d')) ∧
      d'.sqView q.toNat = (d.sqView q.toNat).advance (next size head) desc off := by
  obtain ⟨shm, hshm, hdesc, hoff⟩ := h.shm
  subst hdesc hoff
  have hok := (sqCheck_ok_iff_accepts hq hshm).mpr h
  have hfetch := vnvmeFetchCommand_ok hok hpending
  refine ⟨_, (if_neg hne).trans (if_pos ?_), ?_⟩
  · rw [hfetch]
    rfl
  · rw [hfetch]
    refine (setHead_sqView _ _ _ _).trans ?_
    rw [vnvmeProcessIoCommand_sqView, applyFetch_sqView hshm]
    rfl

/-- A round that goes on has fetched. -/
theorem processIoStep_inl {s : UInt32 × Driver}
    (h : processIoStep q size tail (head, d) = some (.inl s)) :
    head ≠ tail ∧ ∃ desc off, (d.sqView q.toNat).Accepts q desc off ∧ desc.head ≠ desc.tail := by
  simp only [processIoStep] at h
  split_ifs at h with hend hfetch
  · cases h
  · refine ⟨hend, ?_⟩
    rcases vnvmeFetchCommand_cases d q with ⟨hne, -⟩ | ⟨shm, hok, hpending, -⟩
    · exact absurd (by simpa [NtStatus.ntSuccess] using hfetch) hne
    · have hshm := (sqCheck_ok_iff.mp hok).1
      exact ⟨_, _, (sqCheck_ok_iff_accepts hq hshm).mp hok, hpending⟩
  · cases h

end Round

/-! ## The loop over an I/O queue -/

/-- The descriptor follows the slots of `l`: the fetches are accepted, take just these slots
in this order, and do not come to the tail of the descriptor before. -/
def SqView.Follows (v : SqView) (q : UInt16) (l : List UInt32) : Prop :=
  l ≠ [] → ∃ desc off, v.Accepts q desc off ∧
    l = slots desc.capacity desc.head l.length ∧ desc.tail ∉ l

theorem SqView.follows_cons_iff {v : SqView} {q : UInt16} {desc : QueueDescriptor} {off : UInt32}
    (h : v.Accepts q desc off) (hpending : desc.head ≠ desc.tail) (head : UInt32)
    (l : List UInt32) :
    v.Follows q (desc.head :: l) ↔ (v.advance head desc off).Follows q l := by
  have hadvance : (v.advance head desc off).Accepts q
      { desc with head := next desc.capacity desc.head } off :=
    ⟨rfl, h.offset, h.limit, h.created, h.valid⟩
  constructor
  · intro hfollows hl
    obtain ⟨desc', off', hacc, hslots, htail⟩ := hfollows (List.cons_ne_nil _ _)
    obtain ⟨rfl, rfl⟩ := h.unique hacc
    refine ⟨_, _, hadvance, ?_, fun hmem => htail (List.mem_cons_of_mem _ hmem)⟩
    exact (List.cons.inj hslots).2
  · intro hfollows _
    refine ⟨desc, off, h, ?_, ?_⟩
    · rw [List.length_cons, slots]
      congr 1
      by_cases hl : l = []
      · rw [hl]
        rfl
      · obtain ⟨desc', off', hacc, hslots, -⟩ := hfollows hl
        obtain ⟨rfl, rfl⟩ := hadvance.unique hacc
        exact hslots
    · rintro hmem
      rcases List.mem_cons.mp hmem with heq | hmem
      · exact hpending heq.symm
      · obtain ⟨desc', off', hacc, -, htail⟩ := hfollows (List.ne_nil_of_mem hmem)
        obtain ⟨rfl, rfl⟩ := hadvance.unique hacc
        exact htail hmem

/-- The loop executes the commands of an arc exactly if the descriptor follows it. The
induction is on the arc; each round moves both heads by one. -/
theorem ioLoop_executes_iff {q : UInt16} (hq : q ≠ 0) {size tail head : UInt32}
    {l : List UInt32} (harc : Arc size tail head l) (d : Driver) :
    (∃ d', LoopTrace (processIoStep q size tail) (takenSlot q.toNat) (head, d) l d') ↔
      (d.sqView q.toNat).Follows q l := by
  induction harc generalizing d with
  | nil =>
      refine iff_of_true ⟨d, LoopTrace.exit (if_pos rfl)⟩ fun hne => absurd rfl hne
  | @cons head l hne harc ih =>
      constructor
      · rintro ⟨d', htrace⟩
        obtain ⟨s, hstep, hrest, hslot⟩ := htrace.cons_inv
        obtain ⟨-, desc, off, hacc, hpending⟩ := processIoStep_inl hq hstep
        obtain ⟨d₁, hround, hview⟩ := processIoStep_takes hq hne hacc hpending
        obtain rfl : (next size head, d₁) = s :=
          Sum.inl.inj (Option.some.inj (hround.symm.trans hstep))
        have hfollows := (ih d₁).mp ⟨d', hrest⟩
        rw [hview] at hfollows
        obtain rfl : head = desc.head := hslot.trans hacc.takenSlot
        exact (SqView.follows_cons_iff hacc hpending _ l).mpr hfollows
      · intro hfollows
        obtain ⟨desc, off, hacc, hslots, htail⟩ := hfollows (List.cons_ne_nil _ _)
        obtain rfl : head = desc.head := (List.cons.inj hslots).1
        have hpending : desc.head ≠ desc.tail := fun heq => htail (heq ▸ List.mem_cons_self)
        obtain ⟨d₁, hround, hview⟩ := processIoStep_takes hq hne hacc hpending
        have hrest := (SqView.follows_cons_iff hacc hpending (next size desc.head) l).mp hfollows
        rw [← hview] at hrest
        obtain ⟨d', htrace⟩ := (ih d₁).mpr hrest
        refine ⟨d', ?_⟩
        have htaken : takenSlot q.toNat (desc.head, d) = desc.head := hacc.takenSlot
        have hall : LoopTrace (processIoStep q size tail) (takenSlot q.toNat) (desc.head, d)
            (takenSlot q.toNat (desc.head, d) :: l) d' := LoopTrace.round hround htrace
        rwa [htaken] at hall

/-- A run over an arc leaves the head on the tail. -/
theorem ioLoop_head {q : UInt16} (hq : q ≠ 0) {size tail head : UInt32} {l : List UInt32}
    (harc : Arc size tail head l) {d d' : Driver} (hhead : (d.pdo.sq q.toNat).head = head)
    (h : LoopTrace (processIoStep q size tail) (takenSlot q.toNat) (head, d) l d') :
    (d'.pdo.sq q.toNat).head = tail := by
  induction harc generalizing d with
  | nil =>
      cases h with
      | exit hexit =>
          have hstep : processIoStep q size tail (tail, d) = some (.inr d) := if_pos rfl
          obtain rfl : d = d' := Sum.inr.inj (Option.some.inj (hstep.symm.trans hexit))
          exact hhead
  | cons hne _ ih =>
      obtain ⟨s, hstep, hrest, -⟩ := h.cons_inv
      obtain ⟨-, desc, off, hacc, hpending⟩ := processIoStep_inl hq hstep
      obtain ⟨d₁, hround, hview⟩ := processIoStep_takes hq hne hacc hpending
      obtain rfl := Sum.inl.inj (Option.some.inj (hround.symm.trans hstep))
      exact ih (congrArg (fun v => v.state.head) hview) hrest

/-! ## A new tail of an I/O queue -/

/-- `VnvmeProcessIoCommands` returns at once. -/
def IoSkipped (d : Driver) (q : UInt16) : Prop :=
  (q = 0 ∨ q > d.pdo.ioQueueCount) ∨
    ((d.pdo.sq q.toNat).size = 0 ∨ (!(d.pdo.sq q.toNat).created) = true)

instance (d : Driver) (q : UInt16) : Decidable (IoSkipped d q) :=
  inferInstanceAs (Decidable (_ ∨ _))

/-- `VnvmeProcessIoCommands` executes the commands in the slots `l`, in this order, and leaves
`d'`. -/
def IoExecutes (d : Driver) (q : UInt16) (newTail : UInt32) (l : List UInt32) (d' : Driver) :
    Prop :=
  if IoSkipped d q then l = [] ∧ d' = d
  else
    LoopTrace (processIoStep q (d.pdo.sq q.toNat).size newTail) (takenSlot q.toNat)
      ((d.pdo.sq q.toNat).head, d) l d'

section Executes

variable {d d' : Driver} {q : UInt16} {newTail : UInt32} {l : List UInt32}

theorem ioExecutes_skipped (h : IoSkipped d q) :
    IoExecutes d q newTail l d' ↔ l = [] ∧ d' = d :=
  iff_of_eq (if_pos h)

theorem ioExecutes_loop (h : ¬ IoSkipped d q) :
    IoExecutes d q newTail l d' ↔
      LoopTrace (processIoStep q (d.pdo.sq q.toNat).size newTail) (takenSlot q.toNat)
        ((d.pdo.sq q.toNat).head, d) l d' :=
  iff_of_eq (if_neg h)

theorem vnvmeProcessIoCommands_skipped (h : IoSkipped d q) (fuel : Nat) :
    vnvmeProcessIoCommands fuel d q newTail = some d := by
  simp only [vnvmeProcessIoCommands]
  split_ifs with hid hst
  · rfl
  · rfl
  · exact absurd h (not_or.mpr ⟨hid, hst⟩)

theorem vnvmeProcessIoCommands_loop (h : ¬ IoSkipped d q) (fuel : Nat) :
    vnvmeProcessIoCommands fuel d q newTail =
      loop (processIoStep q (d.pdo.sq q.toNat).size newTail) fuel
        ((d.pdo.sq q.toNat).head, d) := by
  obtain ⟨hid, hst⟩ := not_or.mp h
  exact (if_neg hid).trans (if_neg hst)

theorem IoExecutes.returns (h : IoExecutes d q newTail l d') {fuel : Nat}
    (hfuel : l.length < fuel) : vnvmeProcessIoCommands fuel d q newTail = some d' := by
  by_cases hskip : IoSkipped d q
  · rw [vnvmeProcessIoCommands_skipped hskip, ((ioExecutes_skipped hskip).mp h).2]
  · rw [vnvmeProcessIoCommands_loop hskip]
    exact ((ioExecutes_loop hskip).mp h).loop_eq hfuel

/-- This is what the function does, given fuel for its rounds. -/
theorem vnvmeProcessIoCommands_iff :
    (∃ fuel, vnvmeProcessIoCommands fuel d q newTail = some d') ↔
      ∃ l, IoExecutes d q newTail l d' := by
  constructor
  · rintro ⟨fuel, h⟩
    by_cases hskip : IoSkipped d q
    · rw [vnvmeProcessIoCommands_skipped hskip] at h
      exact ⟨[], (ioExecutes_skipped hskip).mpr ⟨rfl, (Option.some.inj h).symm⟩⟩
    · rw [vnvmeProcessIoCommands_loop hskip] at h
      obtain ⟨l, htrace⟩ := exists_loopTrace (takenSlot q.toNat) h
      exact ⟨l, (ioExecutes_loop hskip).mpr htrace⟩
  · rintro ⟨l, h⟩
    exact ⟨l.length + 1, h.returns (Nat.lt_succ_self _)⟩

end Executes

/-- A new tail is served: the commands between the head and the tail are executed, each once
and in the order of the ring, and the head ends on the tail. -/
def IoServed (d : Driver) (q : UInt16) (newTail : UInt32) : Prop :=
  ∃ l d', Arc (d.pdo.sq q.toNat).size newTail (d.pdo.sq q.toNat).head l ∧ l.Nodup ∧
    IoExecutes d q newTail l d' ∧ (d'.pdo.sq q.toNat).head = newTail

/-- There is nothing between the head and the new tail, or the descriptor follows. -/
def SqView.Ready (v : SqView) (q : UInt16) (newTail : UInt32) : Prop :=
  ∃ l, Arc v.state.size newTail v.state.head l ∧ (l ≠ [] → v.state.size ≠ 0) ∧ v.Follows q l

/-- An empty descriptor follows nothing. This is what the descriptors are in kernel mode unless
a tail was forwarded before and has not been aborted. -/
theorem SqView.ready_empty_iff {v : SqView} {q : UInt16} {newTail : UInt32}
    {desc : QueueDescriptor} {off : UInt32} (hdesc : v.desc = some (desc, off))
    (hempty : desc.head = desc.tail) : v.Ready q newTail ↔ v.state.head = newTail := by
  constructor
  · rintro ⟨l, harc, -, hfollows⟩
    refine harc.eq_nil_iff.mp ?_
    by_contra hne
    obtain ⟨desc', off', hacc, hslots, htail⟩ := hfollows hne
    obtain ⟨rfl, rfl⟩ := Prod.mk.inj (Option.some.inj (hdesc.symm.trans hacc.desc_eq))
    cases l with
    | nil => exact hne rfl
    | cons i l =>
        have hi : i = desc.head := (List.cons.inj hslots).1
        exact htail (by rw [hi, hempty]; exact List.mem_cons_self)
  · rintro rfl
    exact ⟨[], Arc.nil, fun hne => absurd rfl hne, fun hne => absurd rfl hne⟩

theorem ioServed_iff {d : Driver} {q : UInt16} (hq : q ≠ 0) (hcount : q ≤ d.pdo.ioQueueCount)
    (hcreated : (d.pdo.sq q.toNat).created = true) (newTail : UInt32) :
    IoServed d q newTail ↔ (d.sqView q.toNat).Ready q newTail := by
  by_cases hsize : (d.pdo.sq q.toNat).size = 0
  · have hskip : IoSkipped d q := Or.inr (Or.inl hsize)
    constructor
    · rintro ⟨l, d', harc, -, hexec, -⟩
      obtain ⟨rfl, -⟩ := (ioExecutes_skipped hskip).mp hexec
      exact ⟨[], harc, fun hne => absurd rfl hne, fun hne => absurd rfl hne⟩
    · rintro ⟨l, harc, hpos, -⟩
      obtain rfl : l = [] := by
        by_contra hne
        exact hpos hne hsize
      exact ⟨[], d, harc, List.nodup_nil, (ioExecutes_skipped hskip).mpr ⟨rfl, rfl⟩,
        harc.eq_nil_iff.mp rfl⟩
  · have hloop : ¬ IoSkipped d q := by
      rintro ((h | h) | h | h)
      · exact hq h
      · exact absurd hcount (UInt16.not_le.mpr h)
      · exact hsize h
      · rw [hcreated] at h
        cases h
    constructor
    · rintro ⟨l, d', harc, -, hexec, -⟩
      have htrace := (ioExecutes_loop hloop).mp hexec
      exact ⟨l, harc, fun _ => hsize, (ioLoop_executes_iff hq harc d).mp ⟨d', htrace⟩⟩
    · rintro ⟨l, harc, -, hfollows⟩
      obtain ⟨d', htrace⟩ := (ioLoop_executes_iff hq harc d).mpr hfollows
      exact ⟨l, d', harc, harc.nodup, (ioExecutes_loop hloop).mpr htrace,
        ioLoop_head hq harc rfl htrace⟩

/-! ## A new tail of the admin queue -/

/-- `VnvmeProcessAdminCommands` executes the commands in the slots `l`, in this order, and
leaves `d'`. -/
def AdminExecutes (d : Driver) (newTail : UInt32) (l : List UInt32) (d' : Driver) : Prop :=
  if d.pdo.adminSqSize = 0 then l = [] ∧ d' = d
  else
    LoopTrace (processAdminStep d.pdo.adminSqSize newTail) (takenSlot 0) ((d.pdo.sq 0).head, d)
      l d'

/-- As `IoServed`, for the ring that `AQA` asks for. -/
def AdminServed (d : Driver) (newTail : UInt32) : Prop :=
  ∃ l d', Arc d.pdo.adminSqSize newTail (d.pdo.sq 0).head l ∧ l.Nodup ∧
    AdminExecutes d newTail l d' ∧ (d'.pdo.sq 0).head = newTail

section Refused

variable {d : Driver} (h : ∀ shm, d.shm = some shm → (shm.sq 0).valid = 0)

include h

/-- While the admin queue is not valid, nothing is fetched from it. -/
theorem processAdminStep_refused (size newTail head : UInt32) :
    processAdminStep size newTail (head, d) = some (.inr d) := by
  by_cases hend : head = newTail
  · exact if_pos hend
  · rcases vnvmeFetchCommand_cases d 0 with ⟨hne, hd⟩ | ⟨shm, hok, -, -⟩
    · have hfail : ¬ (vnvmeFetchCommand d 0).1.ntSuccess = true := by
        simpa [NtStatus.ntSuccess] using hne
      refine (if_neg hend).trans ((if_neg hfail).trans ?_)
      rw [hd]
    · obtain ⟨hshm, -, hvalid⟩ := sqCheck_ok_iff.mp hok
      exact absurd (h shm hshm) hvalid

theorem vnvmeProcessAdminCommands_refused (newTail : UInt32) (fuel : Nat) :
    vnvmeProcessAdminCommands (fuel + 1) d newTail = some d := by
  unfold vnvmeProcessAdminCommands
  split
  · rfl
  · exact loop_inr (processAdminStep_refused h _ _ _) fuel

theorem vnvmeProcessAdminCommands_same {newTail : UInt32} {fuel : Nat} {d' : Driver}
    (hrun : vnvmeProcessAdminCommands fuel d newTail = some d') : d' = d := by
  cases fuel with
  | zero =>
      unfold vnvmeProcessAdminCommands at hrun
      split at hrun
      · exact (Option.some.inj hrun).symm
      · cases hrun
  | succ fuel =>
      rw [vnvmeProcessAdminCommands_refused h] at hrun
      exact (Option.some.inj hrun).symm

theorem adminExecutes_refused {newTail : UInt32} {l : List UInt32} {d' : Driver} :
    AdminExecutes d newTail l d' ↔ l = [] ∧ d' = d := by
  unfold AdminExecutes
  split
  · exact Iff.rfl
  · have hstep := processAdminStep_refused h d.pdo.adminSqSize newTail (d.pdo.sq 0).head
    constructor
    · intro htrace
      cases htrace with
      | exit hexit => exact ⟨rfl, (Sum.inr.inj (Option.some.inj (hstep.symm.trans hexit))).symm⟩
      | round hround => cases hstep.symm.trans hround
    · rintro ⟨rfl, rfl⟩
      exact LoopTrace.exit hstep

/-- So a new admin tail is served exactly if there is nothing to execute. -/
theorem adminServed_iff (newTail : UInt32) :
    AdminServed d newTail ↔ (d.pdo.sq 0).head = newTail := by
  constructor
  · rintro ⟨l, d', -, -, hexec, hhead⟩
    rwa [((adminExecutes_refused h).mp hexec).2] at hhead
  · rintro rfl
    exact ⟨[], d, Arc.nil, List.nodup_nil, (adminExecutes_refused h).mpr ⟨rfl, rfl⟩, rfl⟩

end Refused

end VirtualNvme
