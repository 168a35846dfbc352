import VirtualNvme.Runs
import VirtualNvme.Driver.IoDeviceControl

/-!
# The kernel objects of the bus device

The context names four kernel objects: the shared memory, the list of its pages, the mapping
of these pages into a process and the event handle of a process. Over any run of PnP
callbacks, requests and ends of processes, the context is compared with the kernel's ledger.
Nothing in the context says which process the mapping and the handle belong to, so the two
agree exactly as long as nobody else touches them.
-/

namespace VirtualNvme

open Ledgers (Ledger Owns Resource)
open Runs

/-- What happens to the bus device. `rest` is everything that works on the bus itself: the
timers of the controllers and the shared memory's other users. -/
inductive DeviceEvent where
  | prepareHardware (allocated : Bool)
  | releaseHardware (process : Nat)
  | d0Exit
  | control (request : DeviceControl)
  | processExit (process : Nat)
  | rest (b : Bus)

def deviceStep (d : BusDevice) : DeviceEvent → BusDevice
  | .prepareHardware allocated => (vnvmeEvtDevicePrepareHardware allocated d).2
  | .releaseHardware process => vnvmeEvtDeviceReleaseHardware process d
  | .d0Exit => vnvmeEvtDeviceD0Exit d
  | .control request => (d.deviceControl request).2
  | .processExit process => d.processExit process
  | .rest b => { d with toBus := b }

/-! ## Fields and ledger -/

/-- What the fields of the context name, if the mapping is one of `mapper` and the handle one
of `opener`. -/
def BusDevice.held (d : BusDevice) (mapper opener : Nat) : List (Resource BusObject) :=
  (d.userEventHandle.map fun i => ⟨.eventHandle opener, i, none⟩).toList ++
    ((d.shmUserVirtAddr.map fun i => ⟨.userMapping mapper, i, d.shmMdl⟩).toList ++
      ((d.shmMdl.map fun i => ⟨.mdl, i, d.shmKernelVirtAddr⟩).toList ++
        (d.shmKernelVirtAddr.map fun i => ⟨.contiguousMemory, i, none⟩).toList))

theorem length_held (d : BusDevice) (mapper opener : Nat) :
    (d.held mapper opener).length =
      d.userEventHandle.toList.length + (d.shmUserVirtAddr.toList.length +
        (d.shmMdl.toList.length + d.shmKernelVirtAddr.toList.length)) := by
  simp only [BusDevice.held, List.length_append, Option.length_toList, Option.isSome_map]

theorem mem_held {d : BusDevice} {mapper opener : Nat} {r : Resource BusObject}
    (hr : r ∈ d.held mapper opener) :
    r.kind = .eventHandle opener ∧ d.userEventHandle = some r.id ∧ r.base = none ∨
      r.kind = .userMapping mapper ∧ d.shmUserVirtAddr = some r.id ∧ r.base = d.shmMdl ∨
      r.kind = .mdl ∧ d.shmMdl = some r.id ∧ r.base = d.shmKernelVirtAddr ∨
      r.kind = .contiguousMemory ∧ d.shmKernelVirtAddr = some r.id ∧ r.base = none := by
  simp only [BusDevice.held, List.mem_append, Option.mem_toList, Option.map_eq_some_iff] at hr
  rcases hr with ⟨i, hi, rfl⟩ | ⟨i, hi, rfl⟩ | ⟨i, hi, rfl⟩ | ⟨i, hi, rfl⟩
  · exact .inl ⟨rfl, hi, rfl⟩
  · exact .inr (.inl ⟨rfl, hi, rfl⟩)
  · exact .inr (.inr (.inl ⟨rfl, hi, rfl⟩))
  · exact .inr (.inr (.inr ⟨rfl, hi, rfl⟩))

/-- The fields name exactly what is out. -/
structure AccountedBy (d : BusDevice) (mapper opener : Nat) : Prop where
  owns : Owns d.objects (d.held mapper opener)
  memory : d.shmMdl.isSome → d.shmKernelVirtAddr.isSome
  pages : d.shmUserVirtAddr.isSome → d.shmMdl.isSome

def Accounted (d : BusDevice) : Prop := ∃ mapper opener, AccountedBy d mapper opener

/-- The mapping, if there is one, is one of this process. -/
def BusDevice.mapsFor (d : BusDevice) (process : Nat) : Prop :=
  ∀ i ∈ d.shmUserVirtAddr, ∃ r ∈ d.objects.live, r.id = i ∧ r.kind = .userMapping process

/-- The event handle, if there is one, is one of this process. -/
def BusDevice.opensFor (d : BusDevice) (process : Nat) : Prop :=
  ∀ i ∈ d.userEventHandle, ∃ r ∈ d.objects.live, r.id = i ∧ r.kind = .eventHandle process

section Owner

variable {d : BusDevice} {mapper opener process : Nat} (h : AccountedBy d mapper opener)

include h

/-- One number, one resource. -/
theorem AccountedBy.kind_eq {r r' : Resource BusObject} (hr : r ∈ d.objects.live)
    (hr' : r' ∈ d.held mapper opener) (hid : r.id = r'.id) : r.kind = r'.kind := by
  have hmem : r ∈ d.held mapper opener := h.owns.perm.mem_iff.mp hr
  exact congrArg Resource.kind (List.inj_on_of_nodup_map h.owns.held_distinct hmem hr' hid)

theorem AccountedBy.mapsFor_iff :
    d.mapsFor process ↔ (d.shmUserVirtAddr.isSome → process = mapper) := by
  cases hmap : d.shmUserVirtAddr with
  | none => simp [BusDevice.mapsFor, hmap]
  | some i =>
      have hheld : (⟨.userMapping mapper, i, d.shmMdl⟩ : Resource BusObject) ∈
          d.held mapper opener := by
        simp [BusDevice.held, hmap]
      simp only [BusDevice.mapsFor, hmap, Option.mem_some_iff, forall_eq', Option.isSome_some,
        forall_const]
      constructor
      · rintro ⟨r, hr, hid, hkind⟩
        have := hkind.symm.trans (h.kind_eq hr hheld hid)
        exact BusObject.userMapping.inj this
      · rintro rfl
        exact ⟨_, h.owns.perm.mem_iff.mpr hheld, rfl, rfl⟩

theorem AccountedBy.opensFor_iff :
    d.opensFor process ↔ (d.userEventHandle.isSome → process = opener) := by
  cases hopen : d.userEventHandle with
  | none => simp [BusDevice.opensFor, hopen]
  | some i =>
      have hheld : (⟨.eventHandle opener, i, none⟩ : Resource BusObject) ∈
          d.held mapper opener := by
        simp [BusDevice.held, hopen]
      simp only [BusDevice.opensFor, hopen, Option.mem_some_iff, forall_eq', Option.isSome_some,
        forall_const]
      constructor
      · rintro ⟨r, hr, hid, hkind⟩
        have := hkind.symm.trans (h.kind_eq hr hheld hid)
        exact BusObject.eventHandle.inj this
      · rintro rfl
        exact ⟨_, h.owns.perm.mem_iff.mpr hheld, rfl, rfl⟩

end Owner

/-! ## The steps -/

section Steps

variable {d : BusDevice} {mapper opener : Nat}

theorem AccountedBy.allocateShm (h : AccountedBy d mapper opener)
    (hnone : d.shmKernelVirtAddr = none) (allocated : Bool) :
    AccountedBy (d.allocateShm allocated).2 mapper opener := by
  have hmdl : d.shmMdl = none := by
    by_contra hne
    have := h.memory (Option.isSome_iff_ne_none.mpr hne)
    simp [hnone] at this
  have hmap : d.shmUserVirtAddr = none := by
    by_contra hne
    have := h.pages (Option.isSome_iff_ne_none.mpr hne)
    simp [hmdl] at this
  cases allocated with
  | false => exact h
  | true =>
      refine ⟨?_, fun _ => rfl, fun hsome => ?_⟩
      · have howns := h.owns.acquire .contiguousMemory none (by simp)
        refine howns.of_perm ?_
        simp only [BusDevice.allocateShm, BusDevice.held, hnone, hmdl, hmap, Ledger.acquire]
        simpa using (List.perm_append_singleton _ _).symm
      · exact absurd hsome (by simp [BusDevice.allocateShm, hmap])

/-- A mapping that the calling process made is undone. -/
theorem AccountedBy.unmap (h : AccountedBy d mapper opener) {process : Nat}
    (hmine : d.shmUserVirtAddr.isSome → process = mapper) :
    AccountedBy (vnvmeUnmapShmFromUser process d) mapper opener ∧
      (vnvmeUnmapShmFromUser process d).shmUserVirtAddr = none := by
  cases hmap : d.shmUserVirtAddr with
  | none =>
      exact ⟨by simpa [vnvmeUnmapShmFromUser, hmap] using h,
        by simp [vnvmeUnmapShmFromUser, hmap]⟩
  | some i =>
      obtain rfl : process = mapper := hmine (by simp [hmap])
      obtain ⟨mdl, hmdl⟩ := Option.isSome_iff_exists.mp (h.pages (by simp [hmap]))
      obtain ⟨addr, haddr⟩ := Option.isSome_iff_exists.mp (h.memory (by simp [hmdl]))
      have howns := h.owns
      have hdistinct := h.owns.held_distinct
      simp only [BusDevice.held, hmap, hmdl, haddr, Option.map_some, Option.toList_some,
        List.cons_append, List.nil_append] at howns hdistinct
      have hfirst := howns.of_perm List.perm_middle
      simp only [vnvmeUnmapShmFromUser, hmap, hmdl]
      refine ⟨⟨?_, fun _ => by simp [haddr], fun hsome => by simp at hsome⟩, trivial⟩
      simp only [BusDevice.held, haddr, Option.map_none, Option.toList_none, List.nil_append]
      have hne : addr ≠ i := by
        rintro rfl
        simp [List.nodup_append] at hdistinct
      refine hfirst.release fun r hr => ?_
      rcases List.mem_append.mp hr with hevent | hr
      · obtain ⟨j, -, rfl⟩ := by simpa using hevent
        simp
      · rcases List.mem_cons.mp hr with rfl | hr
        · simpa using hne
        · obtain rfl := List.mem_singleton.mp hr
          simp

theorem AccountedBy.freeMdl (h : AccountedBy d mapper opener) (hmap : d.shmUserVirtAddr = none) :
    AccountedBy (freeShmMdl d) mapper opener ∧ (freeShmMdl d).shmUserVirtAddr = none ∧
      (freeShmMdl d).shmMdl = none := by
  cases hmdl : d.shmMdl with
  | none => exact ⟨by simpa [freeShmMdl, hmdl] using h, by simp [freeShmMdl, hmdl, hmap]⟩
  | some mdl =>
      have howns := h.owns
      simp only [BusDevice.held, hmap, hmdl, Option.map_some, Option.toList_some, Option.map_none,
        Option.toList_none, List.cons_append, List.nil_append] at howns
      have hfirst := howns.of_perm List.perm_middle
      simp only [freeShmMdl, hmdl]
      refine ⟨⟨?_, fun hsome => by simp at hsome, fun hsome => by simp [hmap] at hsome⟩, hmap,
        trivial⟩
      simp only [BusDevice.held, hmap, Option.map_none, Option.toList_none, List.nil_append]
      refine hfirst.release fun r hr => ?_
      have hbase : r.base = none := by
        rcases List.mem_append.mp hr with hr | hr
        · obtain ⟨j, -, rfl⟩ := by simpa using hr
          rfl
        · obtain ⟨j, -, rfl⟩ := by simpa using hr
          rfl
      simp [hbase]

theorem AccountedBy.freeMemory (h : AccountedBy d mapper opener)
    (hmap : d.shmUserVirtAddr = none) (hmdl : d.shmMdl = none) :
    AccountedBy (freeShmMemory d) mapper opener ∧
      (freeShmMemory d).held mapper opener =
        (d.userEventHandle.map fun i => ⟨.eventHandle opener, i, none⟩).toList := by
  cases haddr : d.shmKernelVirtAddr with
  | none =>
      refine ⟨by simpa [freeShmMemory, haddr] using h, ?_⟩
      simp [freeShmMemory, BusDevice.held, haddr, hmap, hmdl]
  | some addr =>
      have howns := h.owns
      simp only [BusDevice.held, hmap, hmdl, haddr, Option.map_some, Option.toList_some,
        Option.map_none, Option.toList_none, List.nil_append] at howns
      have hfirst := howns.of_perm List.perm_append_comm
      simp only [freeShmMemory, haddr]
      refine ⟨⟨?_, fun hsome => by simp [hmdl] at hsome, fun hsome => by simp [hmap] at hsome⟩, ?_⟩
      · simp only [BusDevice.held, hmap, hmdl, Option.map_none, Option.toList_none,
          List.append_nil]
        refine hfirst.release fun r hr => ?_
        obtain ⟨j, -, rfl⟩ := by simpa using hr
        simp
      · simp [BusDevice.held, hmap, hmdl]

/-- The handle is closed in its own process. -/
theorem AccountedBy.closeEvent (h : AccountedBy d mapper opener) {process : Nat}
    (hmine : d.userEventHandle.isSome → process = opener) :
    AccountedBy (closeUserEvent process d) mapper opener ∧
      (closeUserEvent process d).userEventHandle = none ∧
      (closeUserEvent process d).shmUserVirtAddr = d.shmUserVirtAddr := by
  cases hopen : d.userEventHandle with
  | none =>
      exact ⟨by simpa [closeUserEvent, hopen] using h, by simp [closeUserEvent, hopen]⟩
  | some i =>
      obtain rfl : process = opener := hmine (by simp [hopen])
      have howns := h.owns
      have hdistinct := h.owns.held_distinct
      simp only [BusDevice.held, hopen, Option.map_some, Option.toList_some, List.cons_append,
        List.nil_append] at howns hdistinct
      simp only [closeUserEvent, hopen]
      refine ⟨⟨?_, h.memory, h.pages⟩, trivial, trivial⟩
      simp only [BusDevice.held, Option.map_none, Option.toList_none, List.nil_append]
      refine howns.release fun r hr hbase => ?_
      -- what the others are built on is among the others
      have hother : ∃ r' ∈ (d.shmMdl.map fun i => (⟨.mdl, i, d.shmKernelVirtAddr⟩ :
          Resource BusObject)).toList ++ (d.shmKernelVirtAddr.map fun i =>
            (⟨.contiguousMemory, i, none⟩ : Resource BusObject)).toList, r'.id = i := by
        rcases List.mem_append.mp hr with hr | hr
        · obtain ⟨j, -, rfl⟩ := by simpa using hr
          exact ⟨⟨.mdl, i, d.shmKernelVirtAddr⟩, by simp_all, rfl⟩
        · rcases List.mem_append.mp hr with hr | hr
          · obtain ⟨j, -, rfl⟩ := by simpa using hr
            exact ⟨⟨.contiguousMemory, i, none⟩, by simp_all, rfl⟩
          · obtain ⟨j, -, rfl⟩ := by simpa using hr
            simp at hbase
      obtain ⟨r', hr', hid⟩ := hother
      refine (List.nodup_cons.mp hdistinct).1 (List.mem_map.mpr ⟨r', ?_, hid⟩)
      exact List.mem_append_right _ hr'

/-- A release by the process that has the mapping and the handle leaves nothing behind. -/
theorem AccountedBy.releaseHardware (h : AccountedBy d mapper opener) {process : Nat}
    (hmap : d.shmUserVirtAddr.isSome → process = mapper)
    (hopen : d.userEventHandle.isSome → process = opener) :
    AccountedBy (vnvmeEvtDeviceReleaseHardware process d) mapper opener ∧
      (vnvmeEvtDeviceReleaseHardware process d).objects.live = [] := by
  obtain ⟨hclosed, hevent, hmap'⟩ := h.closeEvent hopen
  have hmine : (closeUserEvent process d).shmUserVirtAddr.isSome → process = mapper := by
    rwa [hmap']
  obtain ⟨hunmapped, hnomap⟩ := hclosed.unmap hmine
  have hevent' : (vnvmeUnmapShmFromUser process (closeUserEvent process d)).userEventHandle =
      none := by
    rw [← hevent, vnvmeUnmapShmFromUser]
    split <;> rfl
  obtain ⟨hfreed, hnomap', hnomdl⟩ := hunmapped.freeMdl hnomap
  obtain ⟨hdone, hheld⟩ := hfreed.freeMemory hnomap' hnomdl
  refine ⟨hdone, List.eq_nil_of_length_eq_zero ?_⟩
  have hevent'' : (freeShmMdl (vnvmeUnmapShmFromUser process
      (closeUserEvent process d))).userEventHandle = none := by
    rw [← hevent', freeShmMdl]
    split <;> rfl
  refine hdone.owns.length_eq.trans ?_
  rw [hheld, hevent'']
  rfl

theorem AccountedBy.mapToUser (h : AccountedBy d mapper opener)
    (hnomap : d.shmUserVirtAddr = none) (process : Nat) (mdlAllocated : Bool)
    (outcome : MapOutcome) :
    AccountedBy (vnvmeMapShmToUser process mdlAllocated outcome d).2 process opener := by
  have h' : AccountedBy d process opener := by
    refine ⟨?_, h.memory, h.pages⟩
    have := h.owns
    simpa only [BusDevice.held, hnomap, Option.map_none] using this
  cases haddr : d.shmKernelVirtAddr with
  | none => simpa [vnvmeMapShmToUser, haddr] using h'
  | some addr =>
      -- first the list of pages, then the mapping
      have hpages : ∀ mdl d', shmMdlFor addr mdlAllocated d = some (mdl, d') →
          AccountedBy d' process opener ∧ d'.shmMdl = some mdl ∧
            d'.shmKernelVirtAddr = some addr ∧ d'.shmUserVirtAddr = none := by
        intro mdl d' heq
        cases hmdl : d.shmMdl with
        | some mdl' =>
            simp only [shmMdlFor, hmdl, Option.some.injEq, Prod.mk.injEq] at heq
            obtain ⟨rfl, rfl⟩ := heq
            exact ⟨h', hmdl, haddr, hnomap⟩
        | none =>
            cases mdlAllocated with
            | false => simp [shmMdlFor, hmdl] at heq
            | true =>
                simp only [shmMdlFor, hmdl, Bool.not_true, Bool.false_eq_true, if_false,
                  Option.some.injEq, Prod.mk.injEq] at heq
                obtain ⟨rfl, rfl⟩ := heq
                refine ⟨⟨?_, fun _ => by simp [haddr], fun hsome => by simp [hnomap] at hsome⟩,
                  rfl, haddr, hnomap⟩
                have hmemory : ∃ r ∈ d.held process opener, r.id = addr :=
                  ⟨⟨.contiguousMemory, addr, none⟩, by simp [BusDevice.held, haddr], rfl⟩
                have howns := h'.owns.acquire .mdl (some addr) (by simpa using hmemory)
                refine howns.of_perm ?_
                simp only [BusDevice.held, hnomap, hmdl, haddr, Option.map_none, Option.map_some,
                  Option.toList_none, Option.toList_some, List.nil_append]
                exact List.perm_middle.symm
      cases hlist : shmMdlFor addr mdlAllocated d with
      | none => simpa [vnvmeMapShmToUser, haddr, hlist] using h'
      | some r =>
          obtain ⟨mdl, d'⟩ := r
          obtain ⟨hd', hmdl', haddr', hnomap'⟩ := hpages mdl d' hlist
          cases outcome with
          | null => simpa [vnvmeMapShmToUser, haddr, hlist] using hd'
          | exception => simpa [vnvmeMapShmToUser, haddr, hlist] using hd'
          | mapped =>
              simp only [vnvmeMapShmToUser, haddr, hlist]
              refine ⟨?_, hd'.memory, fun _ => by simp [hmdl']⟩
              have hmem : ∃ r ∈ d'.held process opener, r.id = mdl :=
                ⟨⟨.mdl, mdl, some addr⟩, by simp [BusDevice.held, hmdl', haddr'], rfl⟩
              have howns := hd'.owns.acquire (.userMapping process) (some mdl)
                (by simpa using hmem)
              refine howns.of_perm ?_
              simp only [BusDevice.held, hnomap', hmdl', haddr', Option.map_none, Option.map_some,
                Option.toList_none, Option.toList_some, List.nil_append]
              exact List.perm_middle.symm

theorem AccountedBy.commandEvent (h : AccountedBy d mapper opener) (process : Nat)
    (request : Ioctl Unit) (opened : NtStatus) :
    Accounted (vnvmeHandleGetCommandEvent process request opened d).2 := by
  unfold vnvmeHandleGetCommandEvent
  cases d.fdo with
  | none => exact ⟨_, _, h⟩
  | some fdo =>
      dsimp only
      split_ifs with hlength hbuffer hopened
      · exact ⟨_, _, h⟩
      · exact ⟨_, _, h⟩
      · cases hopen : d.userEventHandle with
        | some handle => exact ⟨_, _, h⟩
        | none =>
            have h' : Owns d.objects (d.held mapper process) := by
              have := h.owns
              simpa only [BusDevice.held, hopen, Option.map_none] using this
            have howns := h'.acquire (.eventHandle process) none (by simp)
            refine ⟨mapper, process, ?_, h.memory, h.pages⟩
            simp only [BusDevice.held, hopen, Option.map_none, Option.toList_none,
              List.nil_append] at howns
            exact howns
      · cases d.userEventHandle with
        | some handle => exact ⟨_, _, h⟩
        | none => exact ⟨_, _, h⟩

/-- A process that has neither the mapping nor the handle may end. -/
theorem AccountedBy.processExit (h : AccountedBy d mapper opener) {process : Nat}
    (hmap : d.shmUserVirtAddr.isSome → process ≠ mapper)
    (hopen : d.userEventHandle.isSome → process ≠ opener) :
    AccountedBy (d.processExit process) mapper opener := by
  refine ⟨?_, h.memory, h.pages⟩
  have howns := h.owns.reclaim (·.ofProcess process)
  have hall : (d.held mapper opener).filter (fun r => !r.kind.ofProcess process) =
      d.held mapper opener := by
    refine List.filter_eq_self.mpr fun r hr => ?_
    rcases mem_held hr with ⟨hkind, hj, -⟩ | ⟨hkind, hj, -⟩ | ⟨hkind, -⟩ | ⟨hkind, -⟩ <;>
      rw [hkind]
    · simpa [BusObject.ofProcess] using (hopen (by simp [hj])).symm
    · simpa [BusObject.ofProcess] using (hmap (by simp [hj])).symm
    · rfl
    · rfl
  rw [hall] at howns
  exact howns

end Steps

/-! ## Faults -/

section Faults

variable {d : BusDevice}

theorem faults_le_unmap (process : Nat) :
    d.objects.faults ≤ (vnvmeUnmapShmFromUser process d).objects.faults := by
  unfold vnvmeUnmapShmFromUser
  split
  · exact Ledgers.Ledger.faults_le_release _ _ _
  · exact Nat.le_refl _

theorem faults_unmap_le_freeShm (process : Nat) :
    (vnvmeUnmapShmFromUser process d).objects.faults ≤ (vnvmeFreeShm process d).objects.faults := by
  refine Nat.le_trans (m := (freeShmMdl (vnvmeUnmapShmFromUser process d)).objects.faults) ?_ ?_
  · unfold freeShmMdl
    split
    · exact Ledgers.Ledger.faults_le_release _ _ _
    · exact Nat.le_refl _
  · unfold vnvmeFreeShm freeShmMemory
    split
    · exact Ledgers.Ledger.faults_le_release _ _ _
    · exact Nat.le_refl _

theorem faults_le_mapToUser (process : Nat) (mdlAllocated : Bool) (outcome : MapOutcome) :
    d.objects.faults ≤ (vnvmeMapShmToUser process mdlAllocated outcome d).2.objects.faults := by
  have hpages : ∀ addr mdl d', shmMdlFor addr mdlAllocated d = some (mdl, d') →
      d.objects.faults ≤ d'.objects.faults := by
    intro addr mdl d' heq
    unfold shmMdlFor at heq
    split at heq
    · cases heq
      exact Nat.le_refl _
    · split_ifs at heq
      cases heq
      exact Ledgers.Ledger.faults_le_acquire _ _ _
  unfold vnvmeMapShmToUser
  split
  · exact Nat.le_refl _
  · split
    · exact Nat.le_refl _
    · rename_i heq
      cases outcome with
      | null => exact hpages _ _ _ heq
      | exception => exact hpages _ _ _ heq
      | mapped => exact (hpages _ _ _ heq).trans (Ledgers.Ledger.faults_le_acquire _ _ _)

theorem not_accounted_of_faults (h : 0 < d.objects.faults) : ¬ Accounted d := by
  rintro ⟨mapper, opener, hacc⟩
  exact Nat.ne_of_gt h hacc.owns.faultless

variable {mapper opener process : Nat}

/-- Unmapping in the context of another process. -/
theorem AccountedBy.unmap_fault (h : AccountedBy d mapper opener)
    (hmap : d.shmUserVirtAddr.isSome) (hother : process ≠ mapper) :
    0 < (vnvmeUnmapShmFromUser process d).objects.faults := by
  obtain ⟨i, hi⟩ := Option.isSome_iff_exists.mp hmap
  obtain ⟨mdl, hmdl⟩ := Option.isSome_iff_exists.mp (h.pages hmap)
  simp only [vnvmeUnmapShmFromUser, hi, hmdl]
  refine h.owns.faults_release_pos fun r hr hsame => ?_
  have hkind := hsame.1
  rcases mem_held hr with ⟨hr, -⟩ | ⟨hr, -⟩ | ⟨hr, -⟩ | ⟨hr, -⟩ <;> rw [hr] at hkind
  · cases hkind
  · exact hother (BusObject.userMapping.inj hkind).symm
  · cases hkind
  · cases hkind

/-- Closing the handle of another process. -/
theorem AccountedBy.closeEvent_fault (h : AccountedBy d mapper opener)
    (hopen : d.userEventHandle.isSome) (hother : process ≠ opener) :
    0 < (closeUserEvent process d).objects.faults := by
  obtain ⟨i, hi⟩ := Option.isSome_iff_exists.mp hopen
  simp only [closeUserEvent, hi]
  refine h.owns.faults_release_pos fun r hr hsame => ?_
  have hkind := hsame.1
  rcases mem_held hr with ⟨hr, -⟩ | ⟨hr, -⟩ | ⟨hr, -⟩ | ⟨hr, -⟩ <;> rw [hr] at hkind
  · exact hother (BusObject.eventHandle.inj hkind).symm
  · cases hkind
  · cases hkind
  · cases hkind

end Faults

/-! ## Requests -/

/-- The fields for kernel objects, and the kernel's side of them. -/
structure SameObjects (d d' : BusDevice) : Prop where
  objects : d'.objects = d.objects
  memory : d'.shmKernelVirtAddr = d.shmKernelVirtAddr
  mdl : d'.shmMdl = d.shmMdl
  mapping : d'.shmUserVirtAddr = d.shmUserVirtAddr
  event : d'.userEventHandle = d.userEventHandle

theorem SameObjects.refl (d : BusDevice) : SameObjects d d := ⟨rfl, rfl, rfl, rfl, rfl⟩

theorem SameObjects.accounted {d d' : BusDevice} (hsame : SameObjects d d') (h : Accounted d) :
    Accounted d' := by
  obtain ⟨mapper, opener, hacc⟩ := h
  refine ⟨mapper, opener, ?_, ?_, ?_⟩
  · have howns := hacc.owns
    rw [BusDevice.held] at howns ⊢
    rwa [hsame.objects, hsame.memory, hsame.mdl, hsame.mapping, hsame.event]
  · rw [hsame.mdl, hsame.memory]
    exact hacc.memory
  · rw [hsame.mapping, hsame.mdl]
    exact hacc.pages

/-- The two requests that deal in kernel objects. -/
def DeviceControl.acquires : DeviceControl → Bool
  | .mapShm .. => true
  | .getCommandEvent .. => true
  | _ => false

/-- No other handler touches a kernel object. -/
theorem vnvmeEvtIoDeviceControl_sameObjects (d : BusDevice) {request : DeviceControl}
    (hno : request.acquires = false) : SameObjects d (vnvmeEvtIoDeviceControl d request).2 := by
  cases request with
  | mapShm => cases hno
  | getCommandEvent => cases hno
  | createController request pdoStatus =>
      simp only [vnvmeEvtIoDeviceControl, vnvmeHandleCreateController]
      split
      · exact .refl d
      · split
        · exact .refl d
        · split_ifs <;> exact ⟨rfl, rfl, rfl, rfl, rfl⟩
  | deleteController request =>
      simp only [vnvmeEvtIoDeviceControl, vnvmeHandleDeleteController]
      split
      · exact .refl d
      · split <;> exact ⟨rfl, rfl, rfl, rfl, rfl⟩
  | submitCompletions request =>
      simp only [vnvmeEvtIoDeviceControl, vnvmeHandleSubmitCompletions]
      split
      · exact .refl d
      · split
        · exact .refl d
        · split_ifs <;> exact ⟨rfl, rfl, rfl, rfl, rfl⟩
  | unmapShm =>
      simp only [vnvmeEvtIoDeviceControl, vnvmeHandleUnmapShm]
      split <;> exact .refl d
  | _ => exact ⟨rfl, rfl, rfl, rfl, rfl⟩

theorem deviceControl_sameObjects (d : BusDevice) {request : DeviceControl}
    (hno : request.acquires = false) : SameObjects d (d.deviceControl request).2 := by
  unfold BusDevice.deviceControl
  split_ifs
  · exact vnvmeEvtIoDeviceControl_sameObjects d hno
  · exact .refl d

/-- `MAP_SHM` gets as far as the mapping. -/
structure ReachesMapping (d : BusDevice) (request : Ioctl Unit) : Prop where
  running : d.controlQueue = true
  fdo : d.fdo.isSome
  length : 24 ≤ request.outputBufferLength
  buffer : request.outputStatus.ntSuccess = true

section MapShm

variable {d : BusDevice} {process : Nat} {request : Ioctl Unit} {mdlAllocated : Bool}
  {outcome : MapOutcome}

theorem deviceControl_mapShm (h : ReachesMapping d request) :
    (d.deviceControl (.mapShm process request mdlAllocated outcome)).2 =
      (vnvmeMapShmToUser process mdlAllocated outcome (unmapOldMapping process d)).2 := by
  obtain ⟨fdo, hfdo⟩ := Option.isSome_iff_exists.mp h.fdo
  simp only [BusDevice.deviceControl, h.running, if_true, vnvmeEvtIoDeviceControl,
    vnvmeHandleMapShm, hfdo, if_neg (Nat.not_lt.mpr h.length), h.buffer, Bool.not_true,
    Bool.false_eq_true, if_false]
  split_ifs <;> rfl

theorem deviceControl_mapShm_refused (h : ¬ ReachesMapping d request) :
    (d.deviceControl (.mapShm process request mdlAllocated outcome)).2 = d := by
  by_cases hrunning : d.controlQueue = true
  · cases hfdo : d.fdo with
    | none => simp [BusDevice.deviceControl, hrunning, vnvmeEvtIoDeviceControl, vnvmeHandleMapShm,
        hfdo]
    | some fdo =>
        by_cases hlength : request.outputBufferLength < 24
        · simp [BusDevice.deviceControl, hrunning, vnvmeEvtIoDeviceControl, vnvmeHandleMapShm,
        hfdo, hlength]
        · by_cases hbuffer : request.outputStatus.ntSuccess = true
          · exact absurd ⟨hrunning, by simp [hfdo], Nat.not_lt.mp hlength, hbuffer⟩ h
          · simp [BusDevice.deviceControl, hrunning, vnvmeEvtIoDeviceControl, vnvmeHandleMapShm,
              hfdo, hlength, hbuffer]
  · simp [BusDevice.deviceControl, hrunning]

theorem unmapOldMapping_eq (process : Nat) (d : BusDevice) :
    unmapOldMapping process d = vnvmeUnmapShmFromUser process d := by
  unfold unmapOldMapping
  cases hmap : d.shmUserVirtAddr with
  | none => simp [vnvmeUnmapShmFromUser, hmap]
  | some i => simp

theorem Accounted.mapShm_iff (h : Accounted d) :
    Accounted (d.deviceControl (.mapShm process request mdlAllocated outcome)).2 ↔
      (ReachesMapping d request → d.mapsFor process) := by
  obtain ⟨mapper, opener, hacc⟩ := h
  by_cases hreach : ReachesMapping d request
  · rw [deviceControl_mapShm hreach, unmapOldMapping_eq, hacc.mapsFor_iff]
    simp only [hreach, forall_const]
    constructor
    · intro hafter hmap
      by_contra hother
      refine not_accounted_of_faults ?_ hafter
      exact Nat.lt_of_lt_of_le (hacc.unmap_fault hmap hother) (faults_le_mapToUser _ _ _)
    · intro hmine
      obtain ⟨hunmapped, hnomap⟩ := hacc.unmap hmine
      exact ⟨_, _, hunmapped.mapToUser hnomap process mdlAllocated outcome⟩
  · rw [deviceControl_mapShm_refused hreach]
    exact iff_of_true ⟨_, _, hacc⟩ fun hr => absurd hr hreach

end MapShm

/-! ## Runs -/

/-- Memory is allocated only when there is none, and the mapping and the handle are in the hands
of one process: it alone maps again, the hardware is released in its context, and it does not
end while it has them. -/
def OwnerOnly (d : BusDevice) : DeviceEvent → Prop
  | .prepareHardware allocated => allocated = true → d.shmKernelVirtAddr = none
  | .releaseHardware process => d.mapsFor process ∧ d.opensFor process
  | .control (.mapShm process request _ _) => ReachesMapping d request → d.mapsFor process
  | .processExit process =>
    (d.shmUserVirtAddr.isSome → ¬ d.mapsFor process) ∧
      (d.userEventHandle.isSome → ¬ d.opensFor process)
  | _ => True

/-- One step keeps the account exactly if it is such a one. -/
theorem deviceStep_accounted_iff {d : BusDevice} (h : Accounted d) (e : DeviceEvent) :
    Accounted (deviceStep d e) ↔ OwnerOnly d e := by
  obtain ⟨mapper, opener, hacc⟩ := h
  cases e with
  | prepareHardware allocated =>
      show Accounted (d.allocateShm allocated).2 ↔ (allocated = true → d.shmKernelVirtAddr = none)
      cases allocated with
      | false => exact iff_of_true ⟨_, _, hacc⟩ fun hf => absurd hf (by simp)
      | true =>
          cases haddr : d.shmKernelVirtAddr with
          | none => exact iff_of_true ⟨_, _, hacc.allocateShm haddr true⟩ fun _ => rfl
          | some addr =>
              -- one more object is out, but the fields name as many as before
              refine iff_of_false ?_ (by simp)
              rintro ⟨mapper', opener', hafter⟩
              have hafter := hafter.owns.length_eq.trans (length_held _ _ _)
              have hbefore := hacc.owns.length_eq.trans (length_held _ _ _)
              have hadded : (d.allocateShm true).2.objects.live.length =
                  d.objects.live.length + 1 := rfl
              rw [hadded, hbefore, haddr] at hafter
              exact absurd hafter (Nat.succ_ne_self _)
  | releaseHardware process =>
      show Accounted (vnvmeEvtDeviceReleaseHardware process d) ↔
        d.mapsFor process ∧ d.opensFor process
      rw [hacc.mapsFor_iff, hacc.opensFor_iff]
      constructor
      · intro hafter
        by_cases hopen : d.userEventHandle.isSome → process = opener
        · refine ⟨fun hmap => ?_, hopen⟩
          by_contra hother
          obtain ⟨hclosed, -, hmap'⟩ := hacc.closeEvent hopen
          refine not_accounted_of_faults ?_ hafter
          exact Nat.lt_of_lt_of_le (hclosed.unmap_fault (by rwa [hmap']) hother)
            (faults_unmap_le_freeShm process)
        · obtain ⟨hsome, hother⟩ := Classical.not_imp.mp hopen
          refine absurd hafter (not_accounted_of_faults ?_)
          exact Nat.lt_of_lt_of_le (hacc.closeEvent_fault hsome hother)
            ((faults_le_unmap process).trans (faults_unmap_le_freeShm process))
      · rintro ⟨hmap, hopen⟩
        exact ⟨_, _, (hacc.releaseHardware hmap hopen).1⟩
  | d0Exit => exact iff_of_true ⟨_, _, hacc.owns, hacc.memory, hacc.pages⟩ trivial
  | control request =>
      by_cases hacquires : request.acquires = true
      · cases request with
        | mapShm process request mdlAllocated outcome =>
            exact Accounted.mapShm_iff ⟨_, _, hacc⟩
        | getCommandEvent process request opened =>
            refine iff_of_true ?_ trivial
            show Accounted (d.deviceControl (.getCommandEvent process request opened)).2
            unfold BusDevice.deviceControl
            split_ifs
            · exact hacc.commandEvent process request opened
            · exact ⟨_, _, hacc⟩
        | _ => cases hacquires
      · have hno : request.acquires = false := by simpa using hacquires
        refine iff_of_true ((deviceControl_sameObjects d hno).accounted ⟨_, _, hacc⟩) ?_
        cases request with
        | mapShm => cases hno
        | _ => trivial
  | processExit process =>
      show Accounted (d.processExit process) ↔ _ ∧ _
      rw [hacc.mapsFor_iff, hacc.opensFor_iff]
      constructor
      · rintro ⟨mapper', opener', hafter⟩
        -- the fields stay, so nothing may have left the ledger
        have hkept : (d.objects.live.filter fun r => !r.kind.ofProcess process).length =
            d.objects.live.length := by
          rw [hacc.owns.length_eq, length_held]
          exact hafter.owns.length_eq.trans (length_held _ _ _)
        have hnone := List.length_filter_eq_length_iff.mp hkept
        have hheld : ∀ r ∈ d.held mapper opener, r.kind.ofProcess process = false := by
          intro r hr
          simpa using hnone r (hacc.owns.perm.mem_iff.mpr hr)
        refine ⟨fun hsome hmine => ?_, fun hsome hmine => ?_⟩
        · obtain ⟨i, hi⟩ := Option.isSome_iff_exists.mp hsome
          have := hheld ⟨.userMapping mapper, i, d.shmMdl⟩ (by simp [BusDevice.held, hi])
          simp [BusObject.ofProcess, hmine hsome] at this
        · obtain ⟨i, hi⟩ := Option.isSome_iff_exists.mp hsome
          have := hheld ⟨.eventHandle opener, i, none⟩ (by simp [BusDevice.held, hi])
          simp [BusObject.ofProcess, hmine hsome] at this
      · rintro ⟨hmap, hopen⟩
        refine ⟨_, _, hacc.processExit (fun hsome heq => ?_) (fun hsome heq => ?_)⟩
        · exact hmap hsome fun _ => heq
        · exact hopen hsome fun _ => heq
  | rest b => exact iff_of_true ⟨_, _, hacc.owns, hacc.memory, hacc.pages⟩ trivial

/-- Hardware that is released leaves no kernel object behind. -/
def ReleasesAll (d : BusDevice) (e : DeviceEvent) : Prop :=
  ∀ process, e = .releaseHardware process → (deviceStep d e).objects.live = []

/-- No object is lost, used after its end or given back twice, and every release gives back
everything. -/
structure ObjectDiscipline (d : BusDevice) (es : List DeviceEvent) : Prop where
  accounted : Throughout deviceStep Accounted d es
  released : EachStep deviceStep ReleasesAll d es

theorem OwnerOnly.releasesAll {d : BusDevice} (h : Accounted d) {e : DeviceEvent}
    (hgood : OwnerOnly d e) : ReleasesAll d e := by
  rintro process rfl
  obtain ⟨mapper, opener, hacc⟩ := h
  obtain ⟨hmap, hopen⟩ := hgood
  exact (hacc.releaseHardware (hacc.mapsFor_iff.mp hmap) (hacc.opensFor_iff.mp hopen)).2

theorem added_accounted (config : Config) (g : VnvmeConfig) (startTime : Int) :
    Accounted (.added config g startTime) :=
  ⟨0, 0, Owns.empty, fun h => h, fun h => h⟩

/-- In a run of the bus device from its start, with requests of any processes, the kernel
objects are handled rightly throughout exactly if each step leaves the mapping and the handle
to the process that has them. -/
theorem kernelObjects_iff (config : Config) (g : VnvmeConfig) (startTime : Int)
    (es : List DeviceEvent) :
    ObjectDiscipline (.added config g startTime) es ↔
      EachStep deviceStep OwnerOnly (.added config g startTime) es := by
  have hstart := added_accounted config g startTime
  have hkeeps : ∀ d e, Accounted d → OwnerOnly d e → Accounted (deviceStep d e) :=
    fun d e h => (deviceStep_accounted_iff h e).mpr
  constructor
  · intro h
    refine (throughout_iff (fun _ h => h) hkeeps (fun d e hd hbad hafter => ?_) hstart es).mp
      h.accounted
    exact hbad ((deviceStep_accounted_iff hd e).mp hafter)
  · intro h
    refine ⟨throughout_of_eachStep hkeeps hstart h, ?_⟩
    have hboth : EachStep deviceStep (fun d e => OwnerOnly d e ∧ ReleasesAll d e)
        (.added config g startTime) es :=
      (eachStep_iff hkeeps (fun d e hd => ⟨fun hg => ⟨hg, hg.releasesAll hd⟩, fun hg => hg.1⟩)
        hstart es).mp h
    exact (eachStep_and.mp hboth).2

end VirtualNvme
