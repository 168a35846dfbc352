import Mathlib.Order.Interval.Set.Basic
import VirtualNvme.Verification.QueueCalls

/-!
# Where the I/O queues lie

`queue.c` puts the first I/O queue right behind the descriptor array; `vnvme_common.h`, which
the server goes by, aligns that place to a page. So the two sides disagree on the address of
every entry. The depth of 256 entries that both sides reckon with is not checked, either.
-/

namespace VirtualNvme

open Runs (run Throughout EachStep)

/-! ## Queues and the bytes they take -/

/-- An I/O queue, by its id. -/
inductive IoQueue where
  | sq (q : Nat)
  | cq (q : Nat)
  deriving Repr, DecidableEq

def IoQueue.id : IoQueue → Nat
  | .sq q => q
  | .cq q => q

def IoQueue.state (p : PdoContext) : IoQueue → QueueState
  | .sq q => p.sq q
  | .cq q => p.cq q

def IoQueue.desc (shm : Shm) : IoQueue → QueueDescriptor
  | .sq q => shm.sq q
  | .cq q => shm.cq q

/-- The queue has been created and not deleted since. -/
def IoQueue.Exists (p : PdoContext) (a : IoQueue) : Prop :=
  a.id ≠ 0 ∧ (a.state p).created = true

/-- The bytes of a queue, `[Offset, Offset + Capacity * EntrySize)`. -/
def QueueDescriptor.bytes (desc : QueueDescriptor) : Set Nat :=
  Set.Ico desc.offset.toNat
    (desc.offset.toNat + desc.capacity.toNat * desc.entrySize.toNat)

/-- Two queues share no byte. -/
def QueueDescriptor.Apart (desc desc' : QueueDescriptor) : Prop :=
  ∀ x ∈ desc.bytes, x ∉ desc'.bytes

/-- The place of entry `j` for the driver. -/
def QueueDescriptor.entryAddress (desc : QueueDescriptor) (j : Nat) : Nat :=
  desc.offset.toNat + j * desc.entrySize.toNat

/-- The place of entry `j` for the server, which counts queues from 0. -/
def IoQueue.serverAddress (j : Nat) : IoQueue → Nat
  | .sq q => vnvmeIoSqOffset (q - 1) + j * 64
  | .cq q => vnvmeIoCqOffset (q - 1) + j * 16

/-- The I/O queues lie apart, in the area meant for them, and where the server looks. -/
structure LayoutOk (d : Driver) (shm : Shm) : Prop where
  apart : ∀ a b : IoQueue, a ≠ b → a.Exists d.pdo → b.Exists d.pdo →
    (a.desc shm).Apart (b.desc shm)
  inside : ∀ a : IoQueue, a.Exists d.pdo →
    (a.desc shm).bytes ⊆ Set.Ico vnvmeOffsetIoQueues vnvmeOffsetDataBuffer
  address : ∀ a : IoQueue, a.Exists d.pdo → ∀ j < (a.desc shm).capacity.toNat,
    (a.desc shm).entryAddress j = a.serverAddress j

/-! ## The layout of the driver -/

/-- Where the driver puts a queue. -/
def IoQueue.start : IoQueue → Nat
  | .sq q => 0x4400 + (q - 1) * 0x5000
  | .cq q => 0x4400 + (q - 1) * 0x5000 + 0x4000

def IoQueue.entrySize : IoQueue → Nat
  | .sq _ => 64
  | .cq _ => 16

/-- The descriptor of a queue that `queue.c` has laid out. -/
def IoQueue.Placed (a : IoQueue) (desc : QueueDescriptor) : Prop :=
  desc.offset.toNat = a.start ∧ desc.entrySize.toNat = a.entrySize

/-- The queues that exist have been laid out by `queue.c`. -/
def LaidOut (d : Driver) (shm : Shm) : Prop :=
  ∀ a : IoQueue, a.Exists d.pdo → a.Placed (a.desc shm)

/-- The server looks for every entry `0xC00` bytes further up. -/
theorem serverAddress_eq (a : IoQueue) (j : Nat) :
    a.serverAddress j = a.start + 0xC00 + j * a.entrySize := by
  have hqueues : vnvmeOffsetIoQueues = 0x5000 := by decide
  have hsq : vnvmeIoSqSize = 0x4000 := by decide
  have hpair : vnvmeIoQueuePairSize = 0x5000 := by decide
  cases a with
  | sq q =>
      simp only [IoQueue.serverAddress, vnvmeIoSqOffset, hqueues, hpair, IoQueue.start,
        IoQueue.entrySize]
      omega
  | cq q =>
      simp only [IoQueue.serverAddress, vnvmeIoCqOffset, vnvmeIoSqOffset, hqueues, hsq, hpair,
        IoQueue.start, IoQueue.entrySize]
      omega

/-- Queues of at most 256 entries lie apart. -/
theorem LaidOut.apart_of_depth {d : Driver} {shm : Shm} (h : LaidOut d shm)
    (hdepth : ∀ a : IoQueue, a.Exists d.pdo → (a.desc shm).capacity.toNat ≤ 256)
    {a b : IoQueue} (hne : a ≠ b) (ha : a.Exists d.pdo) (hb : b.Exists d.pdo) :
    (a.desc shm).Apart (b.desc shm) := by
  intro x hxa hxb
  have hda := hdepth a ha
  have hdb := hdepth b hb
  simp only [QueueDescriptor.bytes, Set.mem_Ico, (h a ha).1, (h a ha).2] at hxa
  simp only [QueueDescriptor.bytes, Set.mem_Ico, (h b hb).1, (h b hb).2] at hxb
  have hida := ha.1
  have hidb := hb.1
  cases a with
  | sq q =>
      cases b with
      | sq r =>
          have hqr : q ≠ r := fun heq => hne (by rw [heq])
          simp only [IoQueue.start, IoQueue.entrySize, IoQueue.id] at *
          omega
      | cq r =>
          simp only [IoQueue.start, IoQueue.entrySize, IoQueue.id] at *
          omega
  | cq q =>
      cases b with
      | sq r =>
          simp only [IoQueue.start, IoQueue.entrySize, IoQueue.id] at *
          omega
      | cq r =>
          have hqr : q ≠ r := fun heq => hne (by rw [heq])
          simp only [IoQueue.start, IoQueue.entrySize, IoQueue.id] at *
          omega

/-- A queue with an entry is not where the server looks; one without takes no bytes. -/
theorem LaidOut.layoutOk_iff {d : Driver} {shm : Shm} (h : LaidOut d shm) :
    LayoutOk d shm ↔ ∀ a : IoQueue, a.Exists d.pdo → (a.desc shm).capacity.toNat = 0 := by
  constructor
  · intro hok a ha
    by_contra hne
    have haddr := hok.address a ha 0 (Nat.pos_of_ne_zero hne)
    rw [serverAddress_eq, QueueDescriptor.entryAddress, (h a ha).1] at haddr
    omega
  · intro hzero
    have hempty : ∀ a : IoQueue, a.Exists d.pdo → (a.desc shm).bytes = ∅ := by
      intro a ha
      rw [QueueDescriptor.bytes, hzero a ha, Nat.zero_mul, Nat.add_zero, Set.Ico_self]
    constructor
    · intro a b _ ha _
      unfold QueueDescriptor.Apart
      rw [hempty a ha]
      exact fun x hx => absurd hx (Set.notMem_empty x)
    · intro a ha
      rw [hempty a ha]
      exact Set.empty_subset _
    · intro a ha j hj
      rw [hzero a ha] at hj
      exact absurd hj (Nat.not_lt_zero j)

/-! ## What holds of every new descriptor holds of all queues -/

/-- All queues that exist have descriptors with `Φ`. -/
def Described (Φ : IoQueue → QueueDescriptor → Prop) (d : Driver) : Prop :=
  ∃ shm, d.shm = some shm ∧ shm.ioQueueDescriptorOffset = 0x4000 ∧
    ∀ a : IoQueue, a.Exists d.pdo → Φ a (a.desc shm)

/-- The descriptor that a call writes, if it is accepted, has `Φ`. -/
def NewDescribed (Φ : IoQueue → QueueDescriptor → Prop) (d : Driver) (shm : Shm) :
    QueueCall → Prop
  | .createCq queueId queueSize _ =>
    CqCallOk d queueId → Φ (.cq queueId.toNat) (newCqDesc shm queueId queueSize)
  | .createSq queueId queueSize _ cqId =>
    SqCallOk d queueId cqId → Φ (.sq queueId.toNat) (newSqDesc shm queueId queueSize)
  | .deleteSq _ => True
  | .deleteCq _ => True

/-- The queue size that a call asks for; a deletion asks for none. -/
def QueueCall.size : QueueCall → Nat
  | .createCq _ queueSize _ => queueSize.toNat
  | .createSq _ queueSize _ _ => queueSize.toNat
  | .deleteSq _ => 0
  | .deleteCq _ => 0

/-- A driver routine called for a queue. -/
def queueCallExec (d : Driver) (c : QueueCall) : Driver := (c.exec d).2

section Described

variable {Φ : IoQueue → QueueDescriptor → Prop} {d : Driver} {shm : Shm}

theorem described_newSq (hoff : shm.ioQueueDescriptorOffset = 0x4000)
    (h : ∀ a : IoQueue, a.Exists d.pdo → Φ a (a.desc shm)) {queueId queueSize : UInt16}
    (prp : UInt64) (hnew : Φ (.sq queueId.toNat) (newSqDesc shm queueId queueSize)) :
    Described Φ (withNewSq d shm queueId queueSize prp) := by
  refine ⟨_, rfl, hoff, fun a ha => ?_⟩
  cases a with
  | sq q =>
      by_cases hq : q = queueId.toNat
      · subst hq
        simpa [IoQueue.desc, Shm.setSq] using hnew
      · have hold : (IoQueue.sq q).Exists d.pdo := by
          simpa [IoQueue.Exists, IoQueue.state, withNewSq, PdoContext.setSq, hq] using ha
        simpa [IoQueue.desc, Shm.setSq, hq] using h _ hold
  | cq q => exact h (.cq q) ha

theorem described_newCq (hoff : shm.ioQueueDescriptorOffset = 0x4000)
    (h : ∀ a : IoQueue, a.Exists d.pdo → Φ a (a.desc shm)) {queueId queueSize : UInt16}
    (prp : UInt64) (hnew : Φ (.cq queueId.toNat) (newCqDesc shm queueId queueSize)) :
    Described Φ (withNewCq d shm queueId queueSize prp) := by
  refine ⟨_, rfl, hoff, fun a ha => ?_⟩
  cases a with
  | sq q => exact h (.sq q) ha
  | cq q =>
      by_cases hq : q = queueId.toNat
      · subst hq
        simpa [IoQueue.desc, Shm.setCq] using hnew
      · have hold : (IoQueue.cq q).Exists d.pdo := by
          simpa [IoQueue.Exists, IoQueue.state, withNewCq, PdoContext.setCq, hq] using ha
        simpa [IoQueue.desc, Shm.setCq, hq] using h _ hold

/-- A deleted queue is no longer asked for, and the others keep their descriptors. -/
theorem described_withoutSq (h : Described Φ d) (queueId : UInt16) :
    Described Φ (withoutSq d queueId) := by
  obtain ⟨shm, hshm, hoff, hall⟩ := h
  have hne : shm.ioQueueDescriptorOffset ≠ 0 := by
    rw [hoff]
    decide
  refine ⟨clearSqDesc queueId shm, ?_, ?_, fun a ha => ?_⟩
  · rw [withoutSq, hshm]
    rfl
  · rw [clearSqDesc, if_neg hne]
    exact hoff
  · rw [clearSqDesc, if_neg hne]
    cases a with
    | sq q =>
        by_cases hq : q = queueId.toNat
        · simp [IoQueue.Exists, IoQueue.state, withoutSq, PdoContext.setSq, hq] at ha
        · have hold : (IoQueue.sq q).Exists d.pdo := by
            simpa [IoQueue.Exists, IoQueue.state, withoutSq, PdoContext.setSq, hq] using ha
          simpa [IoQueue.desc, Shm.setSq, hq] using hall _ hold
    | cq q => exact hall (.cq q) ha

theorem described_withoutCq (h : Described Φ d) (queueId : UInt16) :
    Described Φ (withoutCq d queueId) := by
  obtain ⟨shm, hshm, hoff, hall⟩ := h
  have hne : shm.ioQueueDescriptorOffset ≠ 0 := by
    rw [hoff]
    decide
  refine ⟨clearCqDesc queueId shm, ?_, ?_, fun a ha => ?_⟩
  · rw [withoutCq, hshm]
    rfl
  · rw [clearCqDesc, if_neg hne]
    exact hoff
  · rw [clearCqDesc, if_neg hne]
    cases a with
    | sq q => exact hall (.sq q) ha
    | cq q =>
        by_cases hq : q = queueId.toNat
        · simp [IoQueue.Exists, IoQueue.state, withoutCq, PdoContext.setCq, hq] at ha
        · have hold : (IoQueue.cq q).Exists d.pdo := by
            simpa [IoQueue.Exists, IoQueue.state, withoutCq, PdoContext.setCq, hq] using ha
          simpa [IoQueue.desc, Shm.setCq, hq] using hall _ hold

theorem described_step (h : Described Φ d) {c : QueueCall}
    (hnew : ∀ shm, IoShm d shm → shm.ioQueueDescriptorOffset = 0x4000 → NewDescribed Φ d shm c) :
    Described Φ (queueCallExec d c) := by
  obtain ⟨shm, hshm, hoff, hall⟩ := id h
  have hio : IoShm d shm := ⟨hshm, by rw [hoff]; decide⟩
  have hnew := hnew shm hio hoff
  unfold queueCallExec
  cases c with
  | createCq queueId queueSize prp =>
      by_cases hok : CqCallOk d queueId
      · rw [QueueCall.exec, vnvmeCreateIoCompletionQueue_ok hok hio]
        exact described_newCq hoff hall prp (hnew hok)
      · rw [QueueCall.exec, (vnvmeCreateIoCompletionQueue_refused hok queueSize prp).2]
        exact h
  | createSq queueId queueSize prp cqId =>
      by_cases hok : SqCallOk d queueId cqId
      · rw [QueueCall.exec, vnvmeCreateIoSubmissionQueue_ok hok hio]
        exact described_newSq hoff hall prp (hnew hok)
      · rw [QueueCall.exec, (vnvmeCreateIoSubmissionQueue_refused hok queueSize prp).2]
        exact h
  | deleteSq queueId =>
      by_cases hok : SqDeleteOk d queueId
      · rw [QueueCall.exec, vnvmeDeleteIoSubmissionQueue_ok hok]
        exact described_withoutSq h queueId
      · rw [QueueCall.exec, (vnvmeDeleteIoSubmissionQueue_refused hok).2]
        exact h
  | deleteCq queueId =>
      by_cases hok : CqDeleteOk d queueId
      · rw [QueueCall.exec, vnvmeDeleteIoCompletionQueue_ok hok]
        exact described_withoutCq h queueId
      · rw [QueueCall.exec, (vnvmeDeleteIoCompletionQueue_refused hok).2]
        exact h

end Described

/-! ## Runs -/

/-- The offset that `queue.c` works out for queue pair `q`. -/
theorem pairOffset_toNat {cfg : Config} {shm : Shm}
    (hoff : shm.ioQueueDescriptorOffset = 0x4000) {q : UInt16}
    (h : badIoQueueId cfg q = false) :
    (ioQueueArea shm + (q.toUInt32 - 1) * ioQueuePairSize).toNat =
      0x4400 + (q.toNat - 1) * 0x5000 := by
  obtain ⟨h0, h16⟩ := badIoQueueId_false h
  have hsub : (q.toUInt32 - 1).toNat = q.toNat - 1 := by
    rw [UInt32.toNat_sub_of_le _ _
        (by rw [UInt32.le_iff_toNat_le, UInt16.toNat_toUInt32]; simp; omega),
      UInt16.toNat_toUInt32]
    rfl
  rw [ioQueueArea, hoff, UInt32.toNat_add, UInt32.toNat_mul, hsub]
  have hpair : ioQueuePairSize.toNat = 0x5000 := by decide
  have harea : ((0x4000 : UInt32) + 16 * 2 * 32).toNat = 0x4400 := by decide
  rw [hpair, harea]
  omega

theorem newSqDesc_placed {cfg : Config} {shm : Shm}
    (hoff : shm.ioQueueDescriptorOffset = 0x4000) {q : UInt16}
    (h : badIoQueueId cfg q = false) (size : UInt16) :
    (IoQueue.sq q.toNat).Placed (newSqDesc shm q size) :=
  ⟨pairOffset_toNat hoff h, rfl⟩

theorem newCqDesc_placed {cfg : Config} {shm : Shm}
    (hoff : shm.ioQueueDescriptorOffset = 0x4000) {q : UInt16}
    (h : badIoQueueId cfg q = false) (size : UInt16) :
    (IoQueue.cq q.toNat).Placed (newCqDesc shm q size) := by
  refine ⟨?_, rfl⟩
  obtain ⟨-, h16⟩ := badIoQueueId_false h
  show (ioQueueArea shm + (q.toUInt32 - 1) * ioQueuePairSize + 256 * 64).toNat = _
  rw [UInt32.toNat_add, pairOffset_toNat hoff h, IoQueue.start]
  have hsq : ((256 : UInt32) * 64).toNat = 0x4000 := by decide
  rw [hsq]
  omega

/-- Every call leaves the queues laid out as above. -/
theorem newDescribed_placed (d : Driver) (shm : Shm)
    (hoff : shm.ioQueueDescriptorOffset = 0x4000) (c : QueueCall) :
    NewDescribed IoQueue.Placed d shm c := by
  cases c with
  | createCq queueId queueSize prp => exact fun hok => newCqDesc_placed hoff hok.id queueSize
  | createSq queueId queueSize prp cqId =>
      exact fun hok => newSqDesc_placed hoff hok.id queueSize
  | deleteSq queueId => exact trivial
  | deleteCq queueId => exact trivial

/-- Before the first queue there is nothing to describe. -/
theorem described_of_noIoQueues {d : Driver} (h : NoIoQueues d.pdo)
    (hshm : d.shm.map Shm.ioQueueDescriptorOffset = some 0x4000)
    (Φ : IoQueue → QueueDescriptor → Prop) : Described Φ d := by
  obtain ⟨shm, hs, hoff⟩ := Option.map_eq_some_iff.mp hshm
  refine ⟨shm, hs, hoff, fun a ha => ?_⟩
  obtain ⟨h0, hcreated⟩ := ha
  cases a with
  | sq q => exact absurd hcreated (by simp [IoQueue.state, h.sq q h0])
  | cq q => exact absurd hcreated (by simp [IoQueue.state, h.cq q h0])

/-- The layout is as it should be. -/
def Layout (d : Driver) : Prop := ∃ shm, d.shm = some shm ∧ LayoutOk d shm

/-- The calls that keep it so: every queue that is created has no entries. -/
def EmptyQueueCall (d : Driver) : QueueCall → Prop
  | .createCq queueId queueSize _ => CqCallOk d queueId → queueSize = 0
  | .createSq queueId queueSize _ cqId => SqCallOk d queueId cqId → queueSize = 0
  | .deleteSq _ => True
  | .deleteCq _ => True

/-- A queue without entries, in its place. -/
def IoQueue.PlacedEmpty (a : IoQueue) (desc : QueueDescriptor) : Prop :=
  a.Placed desc ∧ desc.capacity.toNat = 0

theorem layout_of_placedEmpty {d : Driver} (h : Described IoQueue.PlacedEmpty d) : Layout d := by
  obtain ⟨shm, hshm, -, hall⟩ := h
  have hlaid : LaidOut d shm := fun a ha => (hall a ha).1
  exact ⟨shm, hshm, hlaid.layoutOk_iff.mpr fun a ha => (hall a ha).2⟩

theorem emptyQueueCall_good {d : Driver} (h : Described IoQueue.PlacedEmpty d) {c : QueueCall}
    (hc : EmptyQueueCall d c) : Described IoQueue.PlacedEmpty (queueCallExec d c) := by
  refine described_step h fun shm _ hoff => ?_
  have hplaced := newDescribed_placed d shm hoff c
  cases c with
  | createCq queueId queueSize prp =>
      intro hok
      refine ⟨hplaced hok, ?_⟩
      rw [hc hok]
      rfl
  | createSq queueId queueSize prp cqId =>
      intro hok
      refine ⟨hplaced hok, ?_⟩
      rw [hc hok]
      rfl
  | deleteSq queueId => exact trivial
  | deleteCq queueId => exact trivial

/-- In a layout that is in order, a queue that exists has no entries. -/
theorem Layout.capacity_eq_zero {d : Driver} (h : Layout d) (hd : Described IoQueue.Placed d)
    {shm : Shm} (hshm : d.shm = some shm) {a : IoQueue} (ha : a.Exists d.pdo) :
    (a.desc shm).capacity.toNat = 0 := by
  obtain ⟨shm', hshm', hok⟩ := h
  obtain ⟨shm'', hshm'', -, hlaid⟩ := hd
  rw [hshm] at hshm' hshm''
  cases hshm'
  cases hshm''
  exact (LaidOut.layoutOk_iff hlaid).mp hok a ha

theorem emptyQueueCall_bad {d : Driver} (h : Described IoQueue.PlacedEmpty d) {c : QueueCall}
    (hc : ¬ EmptyQueueCall d c) : ¬ Layout (queueCallExec d c) := by
  intro hlayout
  apply hc
  have hd : Described IoQueue.Placed d := by
    obtain ⟨shm, hshm, hoff, hall⟩ := h
    exact ⟨shm, hshm, hoff, fun a ha => (hall a ha).1⟩
  have hd' := described_step hd fun shm _ hoff => newDescribed_placed d shm hoff c
  have hzero : ∀ {size : UInt16}, size.toUInt32.toNat = 0 → size = 0 := by
    intro size hsize
    rw [UInt16.toNat_toUInt32] at hsize
    exact UInt16.toNat_inj.mp hsize
  cases c with
  | createCq queueId queueSize prp =>
      intro hok
      obtain ⟨shm, hshm⟩ := hok.shm
      have hexec : queueCallExec d (.createCq queueId queueSize prp) =
          withNewCq d shm queueId queueSize prp :=
        congrArg Prod.snd (vnvmeCreateIoCompletionQueue_ok hok hshm queueSize prp)
      rw [hexec] at hlayout hd'
      have hcap := hlayout.capacity_eq_zero hd' rfl (a := .cq queueId.toNat)
        ⟨(badIoQueueId_false hok.id).1, by simp [IoQueue.state, withNewCq, PdoContext.setCq,
          newCqState]⟩
      exact hzero (by simpa [IoQueue.desc, Shm.setCq, newCqDesc] using hcap)
  | createSq queueId queueSize prp cqId =>
      intro hok
      obtain ⟨shm, hshm⟩ := hok.shm
      have hexec : queueCallExec d (.createSq queueId queueSize prp cqId) =
          withNewSq d shm queueId queueSize prp :=
        congrArg Prod.snd (vnvmeCreateIoSubmissionQueue_ok hok hshm queueSize prp)
      rw [hexec] at hlayout hd'
      have hcap := hlayout.capacity_eq_zero hd' rfl (a := .sq queueId.toNat)
        ⟨(badIoQueueId_false hok.id).1, by simp [IoQueue.state, withNewSq, PdoContext.setSq,
          newSqState]⟩
      exact hzero (by simpa [IoQueue.desc, Shm.setSq, newSqDesc] using hcap)
  | deleteSq queueId => exact trivial
  | deleteCq queueId => exact trivial

/-- **The two sides agree on no entry of an I/O queue**: in a run of calls on a driver that
has allocated its shared memory and no I/O queue yet, the queues lie apart, in their area and
where the server looks for them, exactly if none of the queues created has an entry. -/
theorem queueLayout_iff (d : Driver) (h : NoIoQueues d.pdo)
    (hshm : d.shm.map Shm.ioQueueDescriptorOffset = some 0x4000) (calls : List QueueCall) :
    Throughout queueCallExec Layout d calls ↔ EachStep queueCallExec EmptyQueueCall d calls := by
  have hstart := described_of_noIoQueues h hshm IoQueue.PlacedEmpty
  refine Runs.throughout_iff (J := Described IoQueue.PlacedEmpty) ?_ ?_ ?_ hstart calls
  · exact fun d hd => layout_of_placedEmpty hd
  · exact fun d c hd hc => emptyQueueCall_good hd hc
  · exact fun d c hd hc => emptyQueueCall_bad hd hc

/-- A completion queue of 64 entries, and a submission queue of 1024 that runs into it. -/
def oversizedCalls : List QueueCall := [.createCq 1 64 0, .createSq 1 1024 0 1]

theorem queueLayout_broken :
    NoIoQueues (Driver.fresh Config.allQueues).pdo ∧
      ¬ Layout (run queueCallExec (Driver.fresh Config.allQueues) [.createCq 1 64 0]) ∧
      ∃ shm, (run queueCallExec (Driver.fresh Config.allQueues) oversizedCalls).shm = some shm ∧
        ¬ (shm.sq 1).Apart (shm.cq 1) := by
  refine ⟨noIoQueues_fresh _, ?_, ?_⟩
  · rintro ⟨shm, hshm, hok⟩
    cases hshm
    exact absurd (hok.address (.cq 1) (by unfold IoQueue.Exists; decide) 0 (by decide)) (by decide)
  · refine ⟨_, rfl, fun hapart => ?_⟩
    exact hapart 0x8400 ⟨by decide, by decide⟩ ⟨by decide, by decide⟩

/-- Queues without entries are in nobody's way. -/
theorem queueLayout_example :
    NoIoQueues (Driver.fresh Config.allQueues).pdo ∧
      Throughout queueCallExec Layout (Driver.fresh Config.allQueues)
        [.createCq 1 0 0, .createSq 1 0 0 1] := by
  refine ⟨noIoQueues_fresh _, ?_⟩
  apply (queueLayout_iff (Driver.fresh Config.allQueues) (noIoQueues_fresh _) rfl _).mpr
  refine Runs.eachStep_cons.mpr ⟨?_, Runs.eachStep_cons.mpr ⟨?_, Runs.eachStep_nil⟩⟩
  · exact fun _ => rfl
  · exact fun _ => rfl

/-- What the driver's own layout does promise: as long as no queue is created deeper than 256
entries, the queues lie apart. -/
theorem queueRegions_apart (d : Driver) (h : NoIoQueues d.pdo)
    (hshm : d.shm.map Shm.ioQueueDescriptorOffset = some 0x4000) (calls : List QueueCall)
    (hdepth : ∀ c ∈ calls, c.size ≤ 256) :
    ∃ shm, (run queueCallExec d calls).shm = some shm ∧
      ∀ a b : IoQueue, a ≠ b → a.Exists (run queueCallExec d calls).pdo →
        b.Exists (run queueCallExec d calls).pdo →
        (a.desc shm).Apart (b.desc shm) := by
  have hrun : Described (fun a desc => a.Placed desc ∧ desc.capacity.toNat ≤ 256)
      (run queueCallExec d calls) := by
    have hstart := described_of_noIoQueues h hshm
      (fun a desc => a.Placed desc ∧ desc.capacity.toNat ≤ 256)
    clear h hshm
    induction calls generalizing d with
    | nil => exact hstart
    | cons c calls ih =>
        refine ih _ (fun c' hc' => hdepth c' (List.mem_cons_of_mem _ hc')) ?_
        refine described_step hstart fun shm _ hoff => ?_
        have hplaced := newDescribed_placed d shm hoff c
        have hc := hdepth c List.mem_cons_self
        cases c with
        | createCq queueId queueSize prp =>
            exact fun hok => ⟨hplaced hok, by simpa [newCqDesc, QueueCall.size] using hc⟩
        | createSq queueId queueSize prp cqId =>
            exact fun hok => ⟨hplaced hok, by simpa [newSqDesc, QueueCall.size] using hc⟩
        | deleteSq queueId => exact trivial
        | deleteCq queueId => exact trivial
  obtain ⟨shm, hs, -, hall⟩ := hrun
  refine ⟨shm, hs, fun a b hne ha hb => ?_⟩
  exact LaidOut.apart_of_depth (fun a ha => (hall a ha).1) (fun a ha => (hall a ha).2) hne ha hb

end VirtualNvme
