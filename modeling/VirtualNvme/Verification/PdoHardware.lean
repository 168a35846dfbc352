import VirtualNvme.Runs
import VirtualNvme.Driver.Pdo

/-!
# The hardware of a controller over its callbacks

Over any run of PnP and power callbacks, with every allocation that may fail, the fields of a
controller are compared with the kernel's ledger, and the polls of its timer are counted. The
timer is meant to schedule itself again after each poll. The flag it asks for is never set, so
there is at most one poll for each entry into D0.
-/

namespace VirtualNvme

open Ledgers (Ledger Owns Resource)
open Runs

/-- A controller, the polls of its timer and its entries into D0. -/
structure PdoRun extends PdoDevice where
  polls : Nat := 0
  entries : Nat := 0

/-- What happens to a controller. `other` is all that works on the registers, the queues and
the namespaces. -/
inductive PdoEvent where
  | prepareHardware (bar0 configSpace : Bool) (timer : NtStatus) (config : VnvmeConfig)
  | releaseHardware
  | d0Entry
  | d0Exit
  | timerExpires (fuel : Nat) (now : Int) (config : VnvmeConfig) (timer : Nat)
  | other (controller : PolledController)

/-- Only a timer that is due expires. -/
def pdoStep (r : PdoRun) : PdoEvent → PdoRun
  | .prepareHardware bar0 configSpace timer config =>
    { r with toPdoDevice :=
        (vnvmePdoEvtDevicePrepareHardware bar0 configSpace timer config r.toPdoDevice).2 }
  | .releaseHardware =>
    { r with toPdoDevice := vnvmePdoEvtDeviceReleaseHardware r.toPdoDevice }
  | .d0Entry =>
    { r with toPdoDevice := vnvmePdoEvtDeviceD0Entry r.toPdoDevice, entries := r.entries + 1 }
  | .d0Exit => { r with toPdoDevice := vnvmePdoEvtDeviceD0Exit r.toPdoDevice }
  | .timerExpires fuel now config timer =>
    if timer ∈ r.queued then
      { r with
        toPdoDevice := r.toPdoDevice.timerExpires fuel now config timer
        polls := r.polls + 1 }
    else r
  | .other controller => { r with controller := controller }

/-! ## Fields and ledger -/

/-- What the fields name, and the timers that were ever created. -/
def PdoDevice.held (d : PdoDevice) (timers : List Nat) : List (Resource PdoObject) :=
  (d.bar0VirtAddr.map fun i => ⟨.bar0Memory, i, none⟩).toList ++
    ((d.pcieConfigAddr.map fun i => ⟨.configSpace, i, none⟩).toList ++
      timers.map fun i => ⟨.pollingTimer, i, none⟩)

theorem PdoDevice.base_of_mem_held {d : PdoDevice} {timers : List Nat} {r : Resource PdoObject}
    (hr : r ∈ d.held timers) : r.base = none := by
  simp only [PdoDevice.held, List.mem_append, Option.mem_toList, Option.map_eq_some_iff,
    List.mem_map] at hr
  rcases hr with ⟨i, -, rfl⟩ | ⟨i, -, rfl⟩ | ⟨i, -, rfl⟩ <;> rfl

/-- The memory that is out is the one that the field names. -/
theorem PdoDevice.bar0_of_mem_held {d : PdoDevice} {timers : List Nat} {i : Nat}
    (hr : (⟨.bar0Memory, i, none⟩ : Resource PdoObject) ∈ d.held timers) :
    d.bar0VirtAddr = some i := by
  simp only [PdoDevice.held, List.mem_append, Option.mem_toList, Option.map_eq_some_iff,
    List.mem_map] at hr
  rcases hr with ⟨j, hj, heq⟩ | ⟨j, -, heq⟩ | ⟨j, -, heq⟩
  · cases heq
    exact hj
  · cases heq
  · cases heq

/-- What a controller's hardware obeys: nothing is lost or given back twice but for timers,
which wait for the end of the device, no poll is due without BAR0, and there is at most one
poll for each entry into D0. -/
structure PdoLaw (r : PdoRun) : Prop where
  account : ∃ timers, Owns r.objects (r.toPdoDevice.held timers)
  scheduled : r.queued ≠ [] → r.bar0VirtAddr.isSome
  polls : r.polls ≤ r.entries

/-- Hardware is prepared only when it is not, and the timer is started only when it is. -/
def PdoGood (r : PdoRun) : PdoEvent → Prop
  | .prepareHardware bar0 _ _ _ => bar0 = true → r.bar0VirtAddr = none
  | .d0Entry => r.pollingTimer.isSome → r.bar0VirtAddr.isSome
  | _ => True

structure PdoInv (r : PdoRun) : Prop where
  account : ∃ timers, Owns r.objects (r.toPdoDevice.held timers)
  paired : r.pcieConfigAddr.isSome ↔ r.bar0VirtAddr.isSome
  due : ∀ t ∈ r.queued, r.pollingTimer = some t ∧ r.pollingActive = true ∧ r.bar0VirtAddr.isSome
  disabled : r.pollingEnabled = false
  budget : r.polls + r.queued.length ≤ r.entries

theorem PdoInv.law {r : PdoRun} (h : PdoInv r) : PdoLaw r := by
  refine ⟨h.account, fun hne => ?_, (Nat.le_add_right _ _).trans h.budget⟩
  obtain ⟨t, ht⟩ := List.exists_mem_of_ne_nil _ hne
  exact (h.due t ht).2.2

/-! ## The calls -/

section Calls

variable {d : PdoDevice} {timers : List Nat}

@[simp] theorem vnvmeFreeBar0_bar0VirtAddr : (vnvmeFreeBar0 d).bar0VirtAddr = none := by
  unfold vnvmeFreeBar0
  split
  · assumption
  · rfl

@[simp] theorem vnvmeFreeBar0_pcieConfigAddr :
    (vnvmeFreeBar0 d).pcieConfigAddr = d.pcieConfigAddr := by
  unfold vnvmeFreeBar0
  split <;> rfl

@[simp] theorem vnvmeFreePcieConfig_pcieConfigAddr :
    (vnvmeFreePcieConfig d).pcieConfigAddr = none := by
  unfold vnvmeFreePcieConfig
  split
  · assumption
  · rfl

/-- The timer's fields and the framework's queue. -/
def PdoDevice.timerFields (d : PdoDevice) : Option Nat × Bool × Bool × List Nat :=
  (d.pollingTimer, d.pollingActive, d.pollingEnabled, d.queued)

@[simp] theorem vnvmeFreeBar0_timerFields : (vnvmeFreeBar0 d).timerFields = d.timerFields := by
  unfold vnvmeFreeBar0
  split <;> rfl

@[simp] theorem vnvmeFreePcieConfig_timerFields :
    (vnvmeFreePcieConfig d).timerFields = d.timerFields := by
  unfold vnvmeFreePcieConfig
  split <;> rfl

theorem vnvmeFreeBar0_owns (h : Owns d.objects (d.held timers)) :
    Owns (vnvmeFreeBar0 d).objects ((vnvmeFreeBar0 d).held timers) := by
  cases hbar : d.bar0VirtAddr with
  | none =>
      simp only [vnvmeFreeBar0, hbar]
      exact h
  | some i =>
      simp only [vnvmeFreeBar0, hbar]
      have hheld := h
      simp only [PdoDevice.held, hbar, Option.map_some, Option.toList_some,
        List.singleton_append] at hheld
      refine hheld.release fun r hr => ?_
      have hmem : r ∈ d.held timers := List.mem_append_right _ hr
      simp [PdoDevice.base_of_mem_held hmem]

theorem vnvmeFreePcieConfig_owns (h : Owns d.objects (d.held timers)) :
    Owns (vnvmeFreePcieConfig d).objects ((vnvmeFreePcieConfig d).held timers) := by
  cases hconfig : d.pcieConfigAddr with
  | none =>
      simp only [vnvmeFreePcieConfig, hconfig]
      exact h
  | some i =>
      simp only [vnvmeFreePcieConfig, hconfig]
      have hheld := h
      simp only [PdoDevice.held, hconfig, Option.map_some, Option.toList_some,
        List.singleton_append] at hheld
      have hfirst := hheld.of_perm List.perm_middle
      refine hfirst.release fun r hr => ?_
      have hmem : r ∈ d.held timers := by
        simp only [PdoDevice.held, hconfig, Option.map_some, Option.toList_some,
          List.singleton_append]
        exact List.perm_middle.mem_iff.mpr (List.mem_cons_of_mem _ hr)
      simp [PdoDevice.base_of_mem_held hmem]

theorem initializePollingTimer_owns (h : Owns d.objects (d.held timers)) {created : NtStatus}
    (hcreated : created.ntSuccess = true) (config : VnvmeConfig) :
    Owns (d.initializePollingTimer created config).2.objects
      ((d.initializePollingTimer created config).2.held (d.objects.next :: timers)) := by
  have howns := h.acquire .pollingTimer none (by simp)
  simp only [PdoDevice.initializePollingTimer, hcreated, Bool.not_true, Bool.false_eq_true,
    if_false]
  refine howns.of_perm ?_
  simp only [PdoDevice.held, List.map_cons]
  rw [← List.append_assoc, ← List.append_assoc]
  exact List.perm_middle.symm

theorem initializePollingTimer_fields {created : NtStatus} (hcreated : created.ntSuccess = true)
    (config : VnvmeConfig) :
    (d.initializePollingTimer created config).2.pcieConfigAddr = d.pcieConfigAddr ∧
      (d.initializePollingTimer created config).2.bar0VirtAddr = d.bar0VirtAddr ∧
      (d.initializePollingTimer created config).2.queued = d.queued ∧
      (d.initializePollingTimer created config).2.pollingEnabled = d.pollingEnabled := by
  simp only [PdoDevice.initializePollingTimer, hcreated, Bool.not_true, Bool.false_eq_true,
    if_false, and_self]

/-! ## PrepareHardware -/

/-- BAR0 is there and initialised. -/
def withBar0 (d : PdoDevice) : PdoDevice :=
  (vnvmeAllocateBar0 true d).2.setPdo
    (vnvmeInitializeBar0Registers (vnvmeAllocateBar0 true d).2.pdo)

/-- And so is the configuration space. -/
def withConfigSpace (d : PdoDevice) : PdoDevice :=
  { ((withBar0 d).allocatePcieConfig true).2 with
    pcie := vnvmeInitializePcieConfig ((withBar0 d).allocatePcieConfig true).2.pcie }

/-- Everything is allocated, or what was is given back. -/
theorem prepareHardware_cases (bar0 configSpace : Bool) (timer : NtStatus) (config : VnvmeConfig)
    (d : PdoDevice) {d' : PdoDevice}
    (hd' : (vnvmePdoEvtDevicePrepareHardware bar0 configSpace timer config d).2 = d') :
    (bar0 = false ∧ d' = d) ∨ (bar0 = true ∧
      (d' = vnvmeFreeBar0 (withBar0 d) ∨
        d' = vnvmeFreeBar0 (vnvmeFreePcieConfig (withConfigSpace d)) ∨
        (timer.ntSuccess = true ∧
          d' = ((withConfigSpace d).initializePollingTimer timer config).2))) := by
  subst hd'
  cases bar0 with
  | false => exact .inl ⟨rfl, rfl⟩
  | true =>
      right
      refine ⟨rfl, ?_⟩
      cases configSpace with
      | false => exact .inl rfl
      | true =>
          right
          cases htimer : timer.ntSuccess with
          | false =>
              left
              have hsame : ((withConfigSpace d).initializePollingTimer timer config) =
                  (timer, withConfigSpace d) := by
                simp [PdoDevice.initializePollingTimer, vnvmeInitializePollingTimer, htimer]
              show (if !((withConfigSpace d).initializePollingTimer timer config).1.ntSuccess
                then (_, vnvmeFreeBar0 (vnvmeFreePcieConfig
                  ((withConfigSpace d).initializePollingTimer timer config).2))
                else (_, ((withConfigSpace d).initializePollingTimer timer config).2)).2 = _
              rw [hsame, htimer]
              rfl
          | true =>
              refine .inr ⟨rfl, ?_⟩
              have hsuccess : ((withConfigSpace d).initializePollingTimer timer config).1 =
                  .success := by
                simp [PdoDevice.initializePollingTimer, vnvmeInitializePollingTimer, htimer]
              show (if !((withConfigSpace d).initializePollingTimer timer config).1.ntSuccess
                then (_, vnvmeFreeBar0 (vnvmeFreePcieConfig
                  ((withConfigSpace d).initializePollingTimer timer config).2))
                else (_, ((withConfigSpace d).initializePollingTimer timer config).2)).2 = _
              rw [hsuccess]
              rfl

theorem withBar0_owns (h : Owns d.objects (d.held timers)) (hbar0 : d.bar0VirtAddr = none) :
    Owns (withBar0 d).objects ((withBar0 d).held timers) := by
  have howns := h.acquire .bar0Memory none (by simp)
  have hobjects : (withBar0 d).objects = (d.objects.acquire .bar0Memory none).2 := rfl
  have hfield : (withBar0 d).bar0VirtAddr = some d.objects.next := rfl
  have hconfig : (withBar0 d).pcieConfigAddr = d.pcieConfigAddr := rfl
  rw [hobjects]
  simp only [PdoDevice.held, hfield, hconfig, hbar0, Option.map_none, Option.map_some,
    Option.toList_none, Option.toList_some, List.nil_append, List.singleton_append] at howns ⊢
  exact howns

theorem withConfigSpace_owns (h : Owns d.objects (d.held timers))
    (hbar0 : d.bar0VirtAddr = none) (hconfig : d.pcieConfigAddr = none) :
    Owns (withConfigSpace d).objects ((withConfigSpace d).held timers) := by
  have howns := (withBar0_owns h hbar0).acquire .configSpace none (by simp)
  have hobjects : (withConfigSpace d).objects =
      ((withBar0 d).objects.acquire .configSpace none).2 := rfl
  have hfield : (withConfigSpace d).pcieConfigAddr = some (withBar0 d).objects.next := rfl
  have hsame : (withConfigSpace d).bar0VirtAddr = (withBar0 d).bar0VirtAddr := rfl
  have hnone : (withBar0 d).pcieConfigAddr = none := hconfig
  rw [hobjects]
  refine howns.of_perm ?_
  simp only [PdoDevice.held, hfield, hsame, hnone, Option.map_none, Option.map_some,
    Option.toList_none, Option.toList_some, List.nil_append, List.singleton_append]
  exact List.perm_middle.symm

/-- Hardware that was not prepared is prepared or left as it was; timers only come. -/
theorem prepareHardware_owns (h : Owns d.objects (d.held timers)) (hbar0 : d.bar0VirtAddr = none)
    (hconfig : d.pcieConfigAddr = none) {bar0 configSpace : Bool} {timer : NtStatus}
    {config : VnvmeConfig} {d' : PdoDevice}
    (hd' : (vnvmePdoEvtDevicePrepareHardware bar0 configSpace timer config d).2 = d') :
    (∃ timers', Owns d'.objects (d'.held timers')) ∧
      (d'.pcieConfigAddr.isSome ↔ d'.bar0VirtAddr.isSome) := by
  have hmem := withBar0_owns h hbar0
  have hboth := withConfigSpace_owns h hbar0 hconfig
  rcases prepareHardware_cases bar0 configSpace timer config d hd' with
    ⟨-, rfl⟩ | ⟨-, rfl | rfl | ⟨htimer, rfl⟩⟩
  · exact ⟨⟨timers, h⟩, by simp [hbar0, hconfig]⟩
  · refine ⟨⟨timers, vnvmeFreeBar0_owns hmem⟩, ?_⟩
    have hsame : (withBar0 d).pcieConfigAddr = none := hconfig
    simp [hsame]
  · exact ⟨⟨timers, vnvmeFreeBar0_owns (vnvmeFreePcieConfig_owns hboth)⟩, by simp⟩
  · refine ⟨⟨_, initializePollingTimer_owns hboth htimer config⟩, ?_⟩
    have hfields := initializePollingTimer_fields (d := withConfigSpace d) htimer config
    rw [hfields.1, hfields.2.1]
    exact iff_of_true rfl rfl

/-- Preparing the hardware starts no timer. -/
theorem prepareHardware_timers {bar0 configSpace : Bool} {timer : NtStatus}
    {config : VnvmeConfig} {d' : PdoDevice}
    (hd' : (vnvmePdoEvtDevicePrepareHardware bar0 configSpace timer config d).2 = d') :
    d'.queued = d.queued ∧ d'.pollingEnabled = d.pollingEnabled := by
  have hbar0 : (withBar0 d).timerFields = d.timerFields := rfl
  have hconfig : (withConfigSpace d).timerFields = d.timerFields := rfl
  have hfields : ∀ d'' : PdoDevice, d''.timerFields = d.timerFields →
      d''.queued = d.queued ∧ d''.pollingEnabled = d.pollingEnabled := by
    intro d'' h
    simp only [PdoDevice.timerFields, Prod.mk.injEq] at h
    exact ⟨h.2.2.2, h.2.2.1⟩
  rcases prepareHardware_cases bar0 configSpace timer config d hd' with
    ⟨-, rfl⟩ | ⟨-, rfl | rfl | ⟨htimer, rfl⟩⟩
  · exact ⟨rfl, rfl⟩
  · exact hfields _ (by simp [hbar0])
  · exact hfields _ (by simp [hconfig])
  · obtain ⟨-, -, hqueued, henabled⟩ :=
      initializePollingTimer_fields (d := withConfigSpace d) htimer config
    exact ⟨hqueued.trans (hfields _ hconfig).1, henabled.trans (hfields _ hconfig).2⟩

end Calls

/-! ## The steps -/

section Steps

variable {r : PdoRun}

theorem PdoInv.prepareHardware (h : PdoInv r) {bar0 configSpace : Bool} {timer : NtStatus}
    {config : VnvmeConfig}
    (hgood : PdoGood r (.prepareHardware bar0 configSpace timer config)) :
    PdoInv (pdoStep r (.prepareHardware bar0 configSpace timer config)) := by
  cases bar0 with
  | false => exact h
  | true =>
      have hbar0 : r.bar0VirtAddr = none := hgood rfl
      have hconfig : r.pcieConfigAddr = none := by
        have := h.paired
        rw [hbar0] at this
        simpa using this
      have hidle : r.queued = [] := by
        by_contra hne
        have := h.law.scheduled hne
        simp [hbar0] at this
      obtain ⟨timers, howns⟩ := h.account
      have hd' : (vnvmePdoEvtDevicePrepareHardware true configSpace timer config
          r.toPdoDevice).2 = _ := rfl
      obtain ⟨hafter, hpaired⟩ := prepareHardware_owns howns hbar0 hconfig hd'
      obtain ⟨hqueued, henabled⟩ := prepareHardware_timers hd'
      refine ⟨hafter, hpaired, fun t ht => ?_, henabled.trans h.disabled, ?_⟩
      · have hmem : t ∈ r.queued := hqueued ▸ ht
        simp [hidle] at hmem
      · have hlen := congrArg List.length hqueued
        exact Nat.le_trans (Nat.le_of_eq (congrArg (r.polls + ·) hlen)) h.budget

/-- After the timer is stopped nothing is due. -/
theorem PdoInv.stop_queued (h : PdoInv r) : (vnvmeStopPollingTimer r.toPdoDevice).queued = [] := by
  cases htimer : r.pollingTimer with
  | none =>
      simp only [vnvmeStopPollingTimer, htimer]
      refine List.eq_nil_iff_forall_not_mem.mpr fun t ht => ?_
      have := (h.due t ht).1
      simp [htimer] at this
  | some timer =>
      by_cases hactive : r.pollingActive = true
      · simp only [vnvmeStopPollingTimer, htimer, if_pos hactive]
        refine List.eq_nil_iff_forall_not_mem.mpr fun t ht => ?_
        obtain ⟨hmem, hne⟩ := List.mem_filter.mp ht
        have hsame := Option.some.inj ((h.due t hmem).1.symm.trans htimer)
        simp [hsame] at hne
      · simp only [vnvmeStopPollingTimer, htimer, if_neg hactive]
        refine List.eq_nil_iff_forall_not_mem.mpr fun t ht => ?_
        exact hactive (h.due t ht).2.1

/-- The stop changes nothing else. -/
theorem vnvmeStopPollingTimer_eq (d : PdoDevice) : ∃ queued active,
    vnvmeStopPollingTimer d = { d with queued := queued, pollingActive := active } := by
  unfold vnvmeStopPollingTimer
  split
  · exact ⟨d.queued, d.pollingActive, rfl⟩
  · split_ifs
    · exact ⟨_, _, rfl⟩
    · exact ⟨d.queued, d.pollingActive, rfl⟩

theorem PdoInv.d0Exit (h : PdoInv r) : PdoInv (pdoStep r .d0Exit) := by
  have hnone := h.stop_queued
  obtain ⟨queued, active, heq⟩ := vnvmeStopPollingTimer_eq r.toPdoDevice
  obtain ⟨timers, howns⟩ := h.account
  have hbudget := h.budget
  simp only [pdoStep, vnvmePdoEvtDeviceD0Exit]
  rw [heq] at hnone ⊢
  obtain rfl : queued = [] := hnone
  exact ⟨⟨timers, howns⟩, h.paired, fun t ht => absurd ht List.not_mem_nil, h.disabled,
    (Nat.le_add_right _ _).trans hbudget⟩

/-- Released hardware leaves nothing but timers, and none of them is due. -/
theorem PdoInv.releaseHardware (h : PdoInv r) :
    PdoInv (pdoStep r .releaseHardware) ∧ (pdoStep r .releaseHardware).queued = [] ∧
      ∀ o ∈ (pdoStep r .releaseHardware).objects.live, o.kind = .pollingTimer := by
  have hnone := h.stop_queued
  obtain ⟨queued, active, heq⟩ := vnvmeStopPollingTimer_eq r.toPdoDevice
  obtain ⟨timers, howns⟩ := h.account
  rw [heq] at hnone
  obtain rfl : queued = [] := hnone
  set stopped : PdoDevice := { r.toPdoDevice with queued := [], pollingActive := active }
    with hstopped
  have howns' : Owns stopped.objects (stopped.held timers) := howns
  have hfreed := vnvmeFreeBar0_owns (vnvmeFreePcieConfig_owns howns')
  have hfields : (vnvmeFreeBar0 (vnvmeFreePcieConfig stopped)).timerFields =
      stopped.timerFields := by
    rw [vnvmeFreeBar0_timerFields, vnvmeFreePcieConfig_timerFields]
  simp only [PdoDevice.timerFields, Prod.mk.injEq] at hfields
  obtain ⟨-, -, henabled, hqueued⟩ := hfields
  have hstep : (pdoStep r .releaseHardware).toPdoDevice =
      vnvmeFreeBar0 (vnvmeFreePcieConfig stopped) := by
    show vnvmeFreeBar0 (vnvmeFreePcieConfig (vnvmeStopPollingTimer r.toPdoDevice)) = _
    rw [heq]
  have hempty : (pdoStep r .releaseHardware).queued = [] := by
    rw [hstep]
    exact hqueued
  refine ⟨⟨⟨timers, ?_⟩, ?_, ?_, ?_, ?_⟩, hempty, ?_⟩
  · rw [hstep]
    exact hfreed
  · rw [hstep, vnvmeFreeBar0_bar0VirtAddr, vnvmeFreeBar0_pcieConfigAddr,
      vnvmeFreePcieConfig_pcieConfigAddr]
  · intro t ht
    rw [hempty] at ht
    exact absurd ht List.not_mem_nil
  · rw [hstep]
    exact henabled.trans h.disabled
  · rw [hempty]
    exact (Nat.le_add_right _ _).trans h.budget
  · intro o ho
    rw [hstep] at ho
    have hmem := hfreed.perm.mem_iff.mp ho
    simp only [PdoDevice.held, vnvmeFreeBar0_bar0VirtAddr, vnvmeFreeBar0_pcieConfigAddr,
      vnvmeFreePcieConfig_pcieConfigAddr, Option.map_none, Option.toList_none, List.nil_append,
      List.mem_map] at hmem
    obtain ⟨i, -, rfl⟩ := hmem
    rfl

theorem PdoInv.d0Entry (h : PdoInv r) (hgood : PdoGood r .d0Entry) :
    PdoInv (pdoStep r .d0Entry) := by
  have hbudget := h.budget
  cases htimer : r.pollingTimer with
  | none =>
      have hstep : pdoStep r .d0Entry = { r with entries := r.entries + 1 } := by
        simp only [pdoStep, vnvmePdoEvtDeviceD0Entry, vnvmeStartPollingTimer, htimer]
      rw [hstep]
      exact ⟨h.account, h.paired, h.due, h.disabled, hbudget.trans (Nat.le_succ _)⟩
  | some timer =>
      have hbar0 : r.bar0VirtAddr.isSome := hgood (by rw [htimer]; rfl)
      have hstep : pdoStep r .d0Entry = { r with
          queued := if timer ∈ r.queued then r.queued else timer :: r.queued
          pollingActive := true
          entries := r.entries + 1 } := by
        simp only [pdoStep, vnvmePdoEvtDeviceD0Entry, vnvmeStartPollingTimer, htimer,
          PdoDevice.timerStart]
      rw [hstep]
      refine ⟨h.account, h.paired, fun t ht => ?_, h.disabled, ?_⟩
      · refine ⟨?_, rfl, hbar0⟩
        have ht : t ∈ if timer ∈ r.queued then r.queued else timer :: r.queued := ht
        split_ifs at ht with hmem
        · exact (h.due t ht).1
        · rcases List.mem_cons.mp ht with rfl | ht
          · exact htimer
          · exact (h.due t ht).1
      · show r.polls + (if timer ∈ r.queued then r.queued else timer :: r.queued).length ≤
          r.entries + 1
        split_ifs
        · omega
        · rw [List.length_cons]
          omega

/-- The callback does not schedule its timer again. -/
theorem timerExpires_eq {d : PdoDevice} (hdisabled : d.pollingEnabled = false) (fuel : Nat)
    (now : Int) (config : VnvmeConfig) (timer : Nat) : ∃ controller,
      d.timerExpires fuel now config timer =
        { d.timerStop timer with controller := controller } := by
  cases hpoll : vnvmeEvtPollingTimer fuel now config d.controller with
  | none =>
      refine ⟨d.controller, ?_⟩
      have hpoll' : vnvmeEvtPollingTimer fuel now config (d.timerStop timer).controller = none :=
        hpoll
      simp only [PdoDevice.timerExpires, hpoll']
      rfl
  | some controller =>
      refine ⟨controller, ?_⟩
      have hpoll' : vnvmeEvtPollingTimer fuel now config (d.timerStop timer).controller =
          some controller := hpoll
      have hdisabled' : (d.timerStop timer).pollingEnabled = false := hdisabled
      simp only [PdoDevice.timerExpires, hpoll', reschedulePollingTimer, hdisabled',
        Bool.and_false, Bool.false_eq_true, if_false]
      split <;> rfl

theorem PdoInv.timerExpires (h : PdoInv r) (fuel : Nat) (now : Int) (config : VnvmeConfig)
    (timer : Nat) : PdoInv (pdoStep r (.timerExpires fuel now config timer)) := by
  by_cases hdue : timer ∈ r.queued
  · obtain ⟨controller, heq⟩ := timerExpires_eq h.disabled fuel now config timer
    have hstep : pdoStep r (.timerExpires fuel now config timer) =
        { r with
          toPdoDevice := { r.toPdoDevice.timerStop timer with controller := controller }
          polls := r.polls + 1 } := by
      simp only [pdoStep, if_pos hdue, heq]
    -- only the controller's own timer can be due
    have hempty : r.queued.filter (· ≠ timer) = [] := by
      refine List.eq_nil_iff_forall_not_mem.mpr fun t ht => ?_
      obtain ⟨hmem, hne⟩ := List.mem_filter.mp ht
      have hsame := Option.some.inj ((h.due t hmem).1.symm.trans (h.due timer hdue).1)
      simp [hsame] at hne
    rw [hstep]
    refine ⟨h.account, h.paired, fun t ht => ?_, h.disabled, ?_⟩
    · have ht : t ∈ r.queued.filter (· ≠ timer) := ht
      rw [hempty] at ht
      exact absurd ht List.not_mem_nil
    · show r.polls + 1 + (r.queued.filter (· ≠ timer)).length ≤ r.entries
      have hpos : 0 < r.queued.length := List.length_pos_of_mem hdue
      have hbudget := h.budget
      rw [hempty, List.length_nil]
      omega
  · have hstep : pdoStep r (.timerExpires fuel now config timer) = r := by
      simp only [pdoStep, if_neg hdue]
    rw [hstep]
    exact h

theorem PdoInv.step (h : PdoInv r) {e : PdoEvent} (hgood : PdoGood r e) :
    PdoInv (pdoStep r e) := by
  cases e with
  | prepareHardware bar0 configSpace timer config => exact h.prepareHardware hgood
  | releaseHardware => exact h.releaseHardware.1
  | d0Entry => exact h.d0Entry hgood
  | d0Exit => exact h.d0Exit
  | timerExpires fuel now config timer => exact h.timerExpires fuel now config timer
  | other controller => exact ⟨h.account, h.paired, h.due, h.disabled, h.budget⟩

/-- Preparing hardware that is prepared loses the memory that the field named before. -/
theorem PdoInv.prepare_twice (h : PdoInv r) (hbar0 : r.bar0VirtAddr.isSome)
    (configSpace : Bool) (timer : NtStatus) (config : VnvmeConfig) :
    ¬ PdoLaw (pdoStep r (.prepareHardware true configSpace timer config)) := by
  rintro ⟨⟨timers', hafter⟩, -, -⟩
  obtain ⟨timers, howns⟩ := h.account
  obtain ⟨i, hi⟩ := Option.isSome_iff_exists.mp hbar0
  set d := r.toPdoDevice
  have hlive : (⟨.bar0Memory, i, none⟩ : Resource PdoObject) ∈ d.objects.live :=
    howns.perm.mem_iff.mpr (by simp [PdoDevice.held, hi])
  have hlt : i < d.objects.next := howns.fresh _ hlive
  have hbar : (⟨.bar0Memory, i, none⟩ : Resource PdoObject) ∈ (withBar0 d).objects.live :=
    Ledger.mem_acquire hlive .bar0Memory none
  have hboth : (⟨.bar0Memory, i, none⟩ : Resource PdoObject) ∈
      (withConfigSpace d).objects.live := Ledger.mem_acquire hbar .configSpace none
  have hfield : (withBar0 d).bar0VirtAddr = some d.objects.next := rfl
  have hfield' : (withConfigSpace d).bar0VirtAddr = some d.objects.next := rfl
  have hconfig : (withConfigSpace d).pcieConfigAddr = some (d.objects.next + 1) := rfl
  have hnamed : ∀ d', (pdoStep r (.prepareHardware true configSpace timer config)).toPdoDevice =
      d' → (⟨.bar0Memory, i, none⟩ : Resource PdoObject) ∈ d'.objects.live →
        d'.bar0VirtAddr = some i := by
    rintro d' rfl hmem
    exact PdoDevice.bar0_of_mem_held (hafter.perm.mem_iff.mp hmem)
  rcases prepareHardware_cases true configSpace timer config d rfl with
    ⟨hfalse, -⟩ | ⟨-, heq | heq | ⟨htimer, heq⟩⟩
  · cases hfalse
  · have hkept : (⟨.bar0Memory, i, none⟩ : Resource PdoObject) ∈
        (vnvmeFreeBar0 (withBar0 d)).objects.live := by
      simp only [vnvmeFreeBar0, hfield]
      exact Ledger.mem_release hbar .bar0Memory (Nat.ne_of_lt hlt)
    exact absurd (hnamed _ heq hkept) (by simp)
  · have hkept : (⟨.bar0Memory, i, none⟩ : Resource PdoObject) ∈
        (vnvmeFreeBar0 (vnvmeFreePcieConfig (withConfigSpace d))).objects.live := by
      simp only [vnvmeFreeBar0, vnvmeFreePcieConfig, hconfig, hfield']
      refine Ledger.mem_release (Ledger.mem_release hboth .configSpace ?_) .bar0Memory
        (Nat.ne_of_lt hlt)
      exact Nat.ne_of_lt (Nat.lt_succ_of_lt hlt)
    exact absurd (hnamed _ heq hkept) (by simp)
  · have hkept : (⟨.bar0Memory, i, none⟩ : Resource PdoObject) ∈
        ((withConfigSpace d).initializePollingTimer timer config).2.objects.live := by
      simp only [PdoDevice.initializePollingTimer, htimer, Bool.not_true, Bool.false_eq_true,
        if_false]
      exact Ledger.mem_acquire hboth .pollingTimer none
    have hsame := (initializePollingTimer_fields (d := withConfigSpace d) htimer config).2.1
    have hold := hnamed _ heq hkept
    rw [hsame, hfield'] at hold
    exact absurd (Option.some.inj hold).symm (Nat.ne_of_lt hlt)

/-- A timer that is started without BAR0 is due without it. -/
theorem PdoInv.d0Entry_unprepared (htimer : r.pollingTimer.isSome)
    (hbar0 : r.bar0VirtAddr = none) : ¬ PdoLaw (pdoStep r .d0Entry) := by
  intro hlaw
  obtain ⟨timer, ht⟩ := Option.isSome_iff_exists.mp htimer
  have hstep : pdoStep r .d0Entry = { r with
      queued := if timer ∈ r.queued then r.queued else timer :: r.queued
      pollingActive := true
      entries := r.entries + 1 } := by
    simp only [pdoStep, vnvmePdoEvtDeviceD0Entry, vnvmeStartPollingTimer, ht,
      PdoDevice.timerStart]
  rw [hstep] at hlaw
  have hdue : (if timer ∈ r.queued then r.queued else timer :: r.queued) ≠ [] := by
    split_ifs with hmem
    · exact List.ne_nil_of_mem hmem
    · exact List.cons_ne_nil _ _
  have hsome : r.bar0VirtAddr.isSome = true := hlaw.scheduled hdue
  simp [hbar0] at hsome

end Steps

/-! ## Runs -/

/-- Released hardware leaves nothing behind but its timers, and no poll to come. -/
def PdoReleases (r : PdoRun) (e : PdoEvent) : Prop :=
  e = .releaseHardware → (pdoStep r e).queued = [] ∧
    ∀ o ∈ (pdoStep r e).objects.live, o.kind = .pollingTimer

/-- The law holds all the time, and a release gives everything back. -/
structure PdoDiscipline (r : PdoRun) (es : List PdoEvent) : Prop where
  law : Throughout pdoStep PdoLaw r es
  released : EachStep pdoStep PdoReleases r es

/-- In any run of a controller from its creation the hardware is handled rightly throughout,
with at most one poll for each entry into D0, exactly if it is prepared only when it is not and
started only when it is. -/
theorem pdoHardware_iff (controller : PolledController) (es : List PdoEvent) :
    PdoDiscipline { controller := controller } es ↔
      EachStep pdoStep PdoGood { controller := controller } es := by
  have hstart : PdoInv { controller := controller } := by
    refine ⟨⟨[], Owns.empty⟩, Iff.rfl, fun t ht => ?_, rfl, Nat.le_refl _⟩
    exact absurd ht List.not_mem_nil
  have hkeeps : ∀ r e, PdoInv r → PdoGood r e → PdoInv (pdoStep r e) :=
    fun _ _ h hgood => h.step hgood
  constructor
  · intro h
    refine (throughout_iff (fun _ h => PdoInv.law h) hkeeps (fun r e hr hbad => ?_) hstart es).mp
      h.law
    cases e with
    | prepareHardware bar0 configSpace timer config =>
        obtain ⟨rfl, hbar0⟩ := Classical.not_imp.mp hbad
        exact hr.prepare_twice (Option.isSome_iff_ne_none.mpr hbar0) configSpace timer config
    | d0Entry =>
        obtain ⟨htimer, hbar0⟩ := Classical.not_imp.mp hbad
        exact PdoInv.d0Entry_unprepared htimer (by simpa using hbar0)
    | _ => exact absurd trivial hbad
  · intro h
    have hall := throughout_of_eachStep hkeeps hstart h
    refine ⟨fun pre post heq => (hall pre post heq).law, fun pre e post heq he => ?_⟩
    subst he
    exact (hall pre _ heq).releaseHardware.2

end VirtualNvme
