import VirtualNvme.Verification.KernelObjects
import VirtualNvme.Verification.NamespaceLifecycle

/-!
# The controllers of the bus over its requests

The list of controllers, their count and the next id over any run of the bus device. The
control queue hands out one request at a time, so no two creations meet, and a controller's id
is one that has never been used as long as the counter of ids does not wrap.
-/

namespace VirtualNvme

open Runs

/-! ## What a step can do to the controllers -/

/-- The fields for the list of controllers. -/
structure SameControllers (d d' : BusDevice) : Prop where
  controllers : d'.controllers = d.controllers
  count : d'.childDeviceCount = d.childDeviceCount
  nextId : d'.nextControllerId = d.nextControllerId
  max : d'.maxControllers = d.maxControllers

theorem SameControllers.refl (d : BusDevice) : SameControllers d d := ⟨rfl, rfl, rfl, rfl⟩

theorem SameControllers.trans {d d' d'' : BusDevice} (h : SameControllers d d')
    (h' : SameControllers d' d'') : SameControllers d d'' :=
  ⟨h'.controllers.trans h.controllers, h'.count.trans h.count, h'.nextId.trans h.nextId,
    h'.max.trans h.max⟩

section Objects

variable (d : BusDevice) (process : Nat)

theorem closeUserEvent_sameControllers : SameControllers d (closeUserEvent process d) := by
  unfold closeUserEvent
  split <;> exact ⟨rfl, rfl, rfl, rfl⟩

theorem unmapShm_sameControllers : SameControllers d (vnvmeUnmapShmFromUser process d) := by
  unfold vnvmeUnmapShmFromUser
  split <;> exact ⟨rfl, rfl, rfl, rfl⟩

theorem freeShm_sameControllers : SameControllers d (vnvmeFreeShm process d) := by
  refine (unmapShm_sameControllers d process).trans ?_
  have hmdl : ∀ d : BusDevice, SameControllers d (freeShmMdl d) := by
    intro d
    unfold freeShmMdl
    split <;> exact ⟨rfl, rfl, rfl, rfl⟩
  refine (hmdl _).trans ?_
  unfold vnvmeFreeShm freeShmMemory
  split <;> exact ⟨rfl, rfl, rfl, rfl⟩

theorem mapShm_sameControllers (mdlAllocated : Bool) (outcome : MapOutcome) :
    SameControllers d (vnvmeMapShmToUser process mdlAllocated outcome d).2 := by
  have hpages : ∀ addr mdl d', shmMdlFor addr mdlAllocated d = some (mdl, d') →
      SameControllers d d' := by
    intro addr mdl d' heq
    unfold shmMdlFor at heq
    split at heq
    · cases heq
      exact .refl d
    · split_ifs at heq
      cases heq
      exact ⟨rfl, rfl, rfl, rfl⟩
  unfold vnvmeMapShmToUser
  split
  · exact .refl d
  · split
    · exact .refl d
    · rename_i heq
      cases outcome with
      | null => exact hpages _ _ _ heq
      | exception => exact hpages _ _ _ heq
      | mapped => exact (hpages _ _ _ heq).trans ⟨rfl, rfl, rfl, rfl⟩

end Objects

/-- The requests that change the list of controllers or their namespace tables. -/
def DeviceControl.configures : DeviceControl → Bool
  | .createController .. => true
  | .deleteController .. => true
  | .createNamespace .. => true
  | .deleteNamespace .. => true
  | _ => false

theorem vnvmeEvtIoDeviceControl_sameControllers (d : BusDevice) {request : DeviceControl}
    (hno : request.configures = false) :
    SameControllers d (vnvmeEvtIoDeviceControl d request).2 := by
  cases request with
  | createController => cases hno
  | deleteController => cases hno
  | createNamespace => cases hno
  | deleteNamespace => cases hno
  | mapShm process request mdlAllocated outcome =>
      simp only [vnvmeEvtIoDeviceControl, vnvmeHandleMapShm, unmapOldMapping_eq]
      have hmapped := (unmapShm_sameControllers d process).trans
        (mapShm_sameControllers (vnvmeUnmapShmFromUser process d) process mdlAllocated outcome)
      split
      · exact .refl d
      · split_ifs
        · exact .refl d
        · exact .refl d
        · exact hmapped
        · exact hmapped
  | getCommandEvent process request opened =>
      simp only [vnvmeEvtIoDeviceControl, vnvmeHandleGetCommandEvent]
      split
      · exact .refl d
      · split_ifs
        · exact .refl d
        · exact .refl d
        · split <;> exact ⟨rfl, rfl, rfl, rfl⟩
        · split <;> exact ⟨rfl, rfl, rfl, rfl⟩
  | userReady now request =>
      simp only [vnvmeEvtIoDeviceControl, vnvmeHandleUserReady]
      split
      · exact .refl d
      · split_ifs <;> exact ⟨rfl, rfl, rfl, rfl⟩
  | heartbeat now request =>
      simp only [vnvmeEvtIoDeviceControl, vnvmeHandleHeartbeat]
      split
      · exact .refl d
      · split_ifs <;> exact ⟨rfl, rfl, rfl, rfl⟩
  | submitCompletions request =>
      simp only [vnvmeEvtIoDeviceControl, vnvmeHandleSubmitCompletions]
      split
      · exact .refl d
      · split
        · exact .refl d
        · split_ifs <;> exact ⟨rfl, rfl, rfl, rfl⟩
  | unmapShm =>
      simp only [vnvmeEvtIoDeviceControl, vnvmeHandleUnmapShm]
      split <;> exact .refl d
  | _ => exact ⟨rfl, rfl, rfl, rfl⟩

/-! ## Consistent lists -/

/-- What other work of the driver leaves of a namespace. -/
structure SameNamespace (ns ns' : Namespace) : Prop where
  nsId : ns'.nsId = ns.nsId
  active : ns'.active = ns.active
  readOnly : ns'.readOnly = ns.readOnly
  thinProvisioned : ns'.thinProvisioned = ns.thinProvisioned
  blockSize : ns'.blockSize = ns.blockSize
  totalBlocks : ns'.totalBlocks = ns.totalBlocks
  totalBytes : ns'.totalBytes = ns.totalBytes
  storage : ns'.storage.map (·.totalBytes) = ns.storage.map (·.totalBytes)

/-- And of a controller. -/
structure SameTable (pdo pdo' : PdoContext) : Prop where
  controllerId : pdo'.controllerId = pdo.controllerId
  namespaceCount : pdo'.namespaceCount = pdo.namespaceCount
  namespaces : ∀ i, SameNamespace (pdo.namespaces i) (pdo'.namespaces i)

/-- The work between the requests may change the registers, the queues, the counters and the
contents of the namespaces, but not which controllers and namespaces there are. -/
def KeepsTables (d : BusDevice) : DeviceEvent → Prop
  | .rest b => List.Forall₂ SameTable d.controllers b.controllers
  | _ => True

theorem SameNamespace.consistent {ns ns' : Namespace} (h : SameNamespace ns ns') {i : Nat}
    (hns : ns.Consistent i) : ns'.Consistent i := by
  refine ⟨?_, ?_, ?_, ?_, ?_, ?_⟩
  · rw [h.nsId]
    exact hns.nsId
  · rw [h.blockSize]
    exact hns.blockSize
  · rw [h.totalBytes]
    exact hns.pos
  · rw [h.totalBytes, h.totalBlocks, h.blockSize]
    exact hns.totalBytes
  · rw [h.totalBytes]
    exact hns.capacity
  · obtain ⟨st, hst, hbytes⟩ := hns.storage
    have hmap := h.storage
    rw [hst, Option.map_some, Option.map_eq_some_iff] at hmap
    obtain ⟨st', hst', hsame⟩ := hmap
    exact ⟨st', hst', by rw [hsame, hbytes, h.totalBytes]⟩

theorem SameTable.consistent {pdo pdo' : PdoContext} (h : SameTable pdo pdo')
    (hpdo : pdo.toMedia.Consistent) : pdo'.toMedia.Consistent := by
  have hslots : pdo'.toMedia.activeSlots = pdo.toMedia.activeSlots := by
    ext i
    rw [mem_activeSlots, mem_activeSlots, (h.namespaces i).active]
  refine ⟨?_, ?_, fun i hi => ?_⟩
  · rw [h.namespaceCount, hslots]
    exact hpdo.count
  · rw [h.namespaceCount]
    exact hpdo.count_le
  · rw [hslots] at hi
    exact (h.namespaces i).consistent (hpdo.slots i hi)

def BusDevice.ids (d : BusDevice) : List UInt32 := d.controllers.map (·.controllerId)

/-- The list of controllers with its count and the ids, and their namespace tables. -/
structure ControllersListed (d : BusDevice) : Prop where
  count : d.childDeviceCount.toNat = d.ids.length
  max : d.maxControllers = 16
  count_le : d.ids.length ≤ 16
  ids : d.ids.Pairwise (· < ·)
  ids_pos : ∀ id ∈ d.ids, 0 < id
  ids_lt : ∀ id ∈ d.ids, id < d.nextControllerId
  tables : TablesConsistent d.toBus

/-- The ids are what counts. -/
theorem ControllersListed.of_ids {d d' : BusDevice} (h : ControllersListed d)
    (hids : d'.ids = d.ids) (hcount : d'.childDeviceCount = d.childDeviceCount)
    (hnext : d'.nextControllerId = d.nextControllerId) (hmax : d'.maxControllers = d.maxControllers)
    (htables : TablesConsistent d'.toBus) : ControllersListed d' := by
  refine ⟨?_, ?_, ?_, ?_, ?_, ?_, htables⟩
  · rw [hcount, hids]
    exact h.count
  · rw [hmax]
    exact h.max
  · rw [hids]
    exact h.count_le
  · rw [hids]
    exact h.ids
  · rw [hids]
    exact h.ids_pos
  · rw [hids, hnext]
    exact h.ids_lt

theorem SameControllers.listed {d d' : BusDevice} (h : SameControllers d d')
    (hd : ControllersListed d) : ControllersListed d' := by
  refine hd.of_ids ?_ h.count h.nextId h.max fun pdo hpdo => hd.tables pdo (h.controllers ▸ hpdo)
  rw [BusDevice.ids, h.controllers]
  rfl

theorem keepsTables_ids {d : BusDevice} {b : Bus}
    (h : List.Forall₂ SameTable d.controllers b.controllers) :
    b.controllers.map (·.controllerId) = d.ids := by
  unfold BusDevice.ids
  generalize d.controllers = ps at h
  generalize b.controllers = ps' at h
  induction h with
  | nil => rfl
  | cons hsame _ ih => rw [List.map_cons, List.map_cons, hsame.controllerId, ih]

theorem ControllersListed.rest {d : BusDevice} (h : ControllersListed d) {b : Bus}
    (hkeeps : KeepsTables d (.rest b)) : ControllersListed (deviceStep d (.rest b)) := by
  refine h.of_ids (keepsTables_ids hkeeps) rfl rfl rfl fun pdo hpdo => ?_
  obtain ⟨i, hi, rfl⟩ := List.getElem_of_mem hpdo
  have hi' : i < d.controllers.length := by
    rw [hkeeps.length_eq]
    exact hi
  have hsame := hkeeps.get hi' hi
  exact hsame.consistent (h.tables _ (List.getElem_mem hi'))

/-! ## Creation and deletion -/

section Create

variable {d : BusDevice} (h : ControllersListed d)

include h

/-- No listed controller has the next id. -/
theorem ControllersListed.next_fresh :
    d.controllers.any (·.controllerId = d.nextControllerId) = false := by
  rw [List.any_eq_false]
  intro pdo hpdo heq
  have hlt := h.ids_lt _ (List.mem_map_of_mem hpdo)
  rw [of_decide_eq_true heq] at hlt
  exact UInt32.lt_irrefl _ hlt

/-- What a creation does: below the limit it ends as the creation of the device does. -/
theorem ControllersListed.create_cases (pdoStatus : NtStatus) :
    (d.ids.length = 16 ∧
        vnvmeCreateVirtualController d.nextControllerId pdoStatus d.childDevices =
          (.insufficientResources, d.childDevices)) ∨
      (d.ids.length < 16 ∧ pdoStatus.ntSuccess = false ∧
        vnvmeCreateVirtualController d.nextControllerId pdoStatus d.childDevices =
          (pdoStatus, d.childDevices)) ∨
      (d.ids.length < 16 ∧ pdoStatus.ntSuccess = true ∧
        vnvmeCreateVirtualController d.nextControllerId pdoStatus d.childDevices =
          (.success, { d.childDevices with
            list := d.controllers ++ [{ controllerId := d.nextControllerId }]
            count := d.childDeviceCount + 1 })) := by
  have hfull : d.childDeviceCount ≥ d.maxControllers ↔ d.ids.length = 16 := by
    rw [ge_iff_le, UInt32.le_iff_toNat_le, h.count, h.max]
    have hle := h.count_le
    show 16 ≤ d.ids.length ↔ _
    omega
  have hfresh : ¬ d.childDevices.list.any (·.controllerId = d.nextControllerId) = true := by
    rw [show d.childDevices.list = d.controllers from rfl, h.next_fresh]
    exact Bool.false_ne_true
  by_cases hlen : d.ids.length = 16
  · left
    refine ⟨hlen, ?_⟩
    have hcheck : createControllerCheck d.nextControllerId d.childDevices =
        (some .insufficientResources, d.childDevices) := by
      rw [createControllerCheck, if_neg hfresh]
      exact if_pos (hfull.mpr hlen)
    rw [vnvmeCreateVirtualController, hcheck]
  · right
    have hlt : d.ids.length < 16 := Nat.lt_of_le_of_ne h.count_le hlen
    have hcheck : createControllerCheck d.nextControllerId d.childDevices =
        (none, { d.childDevices with
          count := d.childDeviceCount + 1, creating := [d.nextControllerId] }) := by
      rw [createControllerCheck, if_neg hfresh]
      exact if_neg (mt hfull.mp hlen)
    rw [vnvmeCreateVirtualController, hcheck]
    cases hstatus : pdoStatus.ntSuccess with
    | false =>
        refine .inl ⟨hlt, rfl, ?_⟩
        simp [createControllerFinish, hstatus, BusDevice.childDevices]
    | true =>
        refine .inr ⟨hlt, rfl, ?_⟩
        simp [createControllerFinish, hstatus, BusDevice.childDevices]

/-- The new controller is the last one, with the largest id. -/
theorem ControllersListed.append (hlt : d.ids.length < 16)
    (hroom : d.nextControllerId.toNat + 1 < 2 ^ 32) {pdo : PdoContext}
    (hid : pdo.controllerId = d.nextControllerId) (hfresh : pdo.toMedia.Fresh)
    (hpos : 0 < d.nextControllerId) :
    ControllersListed { d with
      controllers := d.controllers ++ [pdo]
      childDeviceCount := d.childDeviceCount + 1
      nextControllerId := d.nextControllerId + 1 } := by
  have hids : (d.controllers ++ [pdo]).map (·.controllerId) = d.ids ++ [d.nextControllerId] := by
    rw [List.map_append, List.map_singleton, hid]
    rfl
  have hnext : d.nextControllerId < d.nextControllerId + 1 := by
    rw [UInt32.lt_iff_toNat_lt, UInt32.toNat_add]
    show _ < (_ + 1) % 2 ^ 32
    rw [Nat.mod_eq_of_lt hroom]
    exact Nat.lt_succ_self _
  have hcount : (d.childDeviceCount + 1).toNat = d.childDeviceCount.toNat + 1 := by
    have hcount := h.count
    rw [UInt32.toNat_add]
    exact Nat.mod_eq_of_lt (show d.childDeviceCount.toNat + 1 < 2 ^ 32 by omega)
  refine ⟨?_, h.max, ?_, ?_, ?_, ?_, ?_⟩
  · show (d.childDeviceCount + 1).toNat = ((d.controllers ++ [pdo]).map (·.controllerId)).length
    rw [hids, hcount, h.count, List.length_append, List.length_singleton]
  · show ((d.controllers ++ [pdo]).map (·.controllerId)).length ≤ 16
    rw [hids, List.length_append, List.length_singleton]
    exact hlt
  · show ((d.controllers ++ [pdo]).map (·.controllerId)).Pairwise (· < ·)
    rw [hids, List.pairwise_append]
    refine ⟨h.ids, List.pairwise_singleton _ _, fun a ha b hb => ?_⟩
    obtain rfl := List.mem_singleton.mp hb
    exact h.ids_lt a ha
  · show ∀ id ∈ (d.controllers ++ [pdo]).map (·.controllerId), 0 < id
    rw [hids]
    intro id hmem
    rcases List.mem_append.mp hmem with hmem | hmem
    · exact h.ids_pos id hmem
    · obtain rfl := List.mem_singleton.mp hmem
      exact hpos
  · show ∀ id ∈ (d.controllers ++ [pdo]).map (·.controllerId), id < d.nextControllerId + 1
    rw [hids]
    intro id hmem
    rcases List.mem_append.mp hmem with hmem | hmem
    · exact UInt32.lt_trans (h.ids_lt id hmem) hnext
    · obtain rfl := List.mem_singleton.mp hmem
      exact hnext
  · intro pdo' hmem
    rcases List.mem_append.mp hmem with hmem | hmem
    · exact h.tables pdo' hmem
    · obtain rfl := List.mem_singleton.mp hmem
      exact hfresh.consistent

theorem ControllersListed.delete (controllerId : UInt32) :
    ControllersListed (d.setChildDevices
      (vnvmeDeleteVirtualController controllerId d.childDevices).2) := by
  by_cases hany : d.childDevices.list.any (·.controllerId = controllerId) = true
  · have hsub : List.Sublist
        ((d.controllers.eraseP (·.controllerId = controllerId)).map (·.controllerId)) d.ids :=
      List.eraseP_sublist.map _
    obtain ⟨pdo, hmem, hid⟩ := List.any_eq_true.mp hany
    have hlen : (d.controllers.eraseP (·.controllerId = controllerId)).length =
        d.controllers.length - 1 :=
      List.length_eraseP_of_mem (p := (·.controllerId = controllerId)) hmem hid
    have hpos : 0 < d.ids.length := by
      rw [BusDevice.ids, List.length_map]
      exact List.length_pos_of_mem hmem
    have hcount : (d.childDeviceCount - 1).toNat = d.ids.length - 1 := by
      rw [← h.count]
      refine UInt32.toNat_sub_of_le _ _ (UInt32.le_iff_toNat_le.mpr ?_)
      rw [h.count]
      exact hpos
    simp only [vnvmeDeleteVirtualController, if_pos hany]
    refine ⟨?_, h.max, hsub.length_le.trans h.count_le, h.ids.sublist hsub,
      fun id hmem => h.ids_pos id (hsub.subset hmem),
      fun id hmem => h.ids_lt id (hsub.subset hmem),
      fun pdo' hmem => h.tables pdo' (List.eraseP_sublist.subset hmem)⟩
    show (d.childDeviceCount - 1).toNat =
      ((d.controllers.eraseP (·.controllerId = controllerId)).map (·.controllerId)).length
    rw [hcount, List.length_map, hlen, BusDevice.ids, List.length_map]
  · rw [vnvmeDeleteVirtualController, if_neg hany]
    exact h

end Create

/-! ## The steps -/

section Steps

variable {d : BusDevice}

/-- A request to create a controller that reaches the list of controllers. -/
structure ReachesCreation (d : BusDevice) (request : Ioctl Unit) : Prop where
  running : d.controlQueue = true
  fdo : d.fdo.isSome
  buffers : request.bufferError 624 404 = none

/-- The id in the reply to a request that creates a controller. -/
def issuedBy (d : BusDevice) : DeviceEvent → Option UInt32
  | .control (.createController request pdoStatus) =>
    match (d.deviceControl (.createController request pdoStatus)).1 with
    | some { output := some (.controller output), .. } => some output.controllerId
    | _ => none
  | _ => none

/-- Only these use up an id. -/
def DeviceEvent.creates : DeviceEvent → Bool
  | .control (.createController ..) => true
  | _ => false

theorem createController_refused {request : Ioctl Unit} (pdoStatus : NtStatus)
    (h : ¬ ReachesCreation d request) :
    deviceStep d (.control (.createController request pdoStatus)) = d ∧
      issuedBy d (.control (.createController request pdoStatus)) = none := by
  by_cases hrunning : d.controlQueue = true
  · cases hfdo : d.fdo with
    | none =>
        simp [deviceStep, issuedBy, BusDevice.deviceControl, hrunning, vnvmeEvtIoDeviceControl,
          vnvmeHandleCreateController, hfdo, controlReply]
    | some fdo =>
        cases hbuffers : request.bufferError 624 404 with
        | none => exact absurd ⟨hrunning, by simp [hfdo], hbuffers⟩ h
        | some status =>
            simp [deviceStep, issuedBy, BusDevice.deviceControl, hrunning,
              vnvmeEvtIoDeviceControl, vnvmeHandleCreateController, hfdo, hbuffers, controlReply]
  · simp [deviceStep, issuedBy, BusDevice.deviceControl, hrunning]

/-- The handler behind its checks. -/
theorem vnvmeHandleCreateController_reached {request : Ioctl Unit} {pdoStatus status : NtStatus}
    {s : ChildDevices} (hreach : ReachesCreation d request)
    (heq : vnvmeCreateVirtualController d.nextControllerId pdoStatus d.childDevices = (status, s)) :
    ∃ output, vnvmeHandleCreateController request pdoStatus d =
        (status, output, { d with
          controllers := s.list
          childDeviceCount := s.count
          nextControllerId := d.nextControllerId + 1 }) ∧
      output.map (·.controllerId) =
        if status.ntSuccess then some d.nextControllerId else none := by
  obtain ⟨fdo, hfdo⟩ := Option.isSome_iff_exists.mp hreach.fdo
  have hsame : ({ d with nextControllerId := d.nextControllerId + 1 } : BusDevice).childDevices =
      d.childDevices := rfl
  generalize hd' : ({ d with
    controllers := s.list
    childDeviceCount := s.count
    nextControllerId := d.nextControllerId + 1 } : BusDevice) = d'
  have hset : BusDevice.setChildDevices { d with nextControllerId := d.nextControllerId + 1 } s =
      d' := hd'
  unfold vnvmeHandleCreateController
  split
  · simp_all
  · rw [hreach.buffers]
    simp only [hsame, heq, hset]
    cases hok : status.ntSuccess with
    | false => exact ⟨none, rfl, rfl⟩
    | true =>
        obtain rfl : status = .success := by
          simpa [NtStatus.ntSuccess] using hok
        exact ⟨_, rfl, rfl⟩

/-- What a request that gets to the list of controllers makes of it. -/
theorem createController_reached (h : ControllersListed d) {request : Ioctl Unit}
    (pdoStatus : NtStatus) (hreach : ReachesCreation d request) {e : DeviceControl}
    (he : e = .createController request pdoStatus) :
    (∃ reply, (d.deviceControl e).1 = some reply ∧ reply.status =
        .nt (if d.ids.length < 16 then pdoStatus else .insufficientResources)) ∧
      ((issuedBy d (.control e) = none ∧
          deviceStep d (.control e) = { d with nextControllerId := d.nextControllerId + 1 }) ∨
        (d.ids.length < 16 ∧ issuedBy d (.control e) = some d.nextControllerId ∧
          deviceStep d (.control e) = { d with
            controllers := d.controllers ++ [{ controllerId := d.nextControllerId }]
            childDeviceCount := d.childDeviceCount + 1
            nextControllerId := d.nextControllerId + 1 })) := by
  subst he
  have hcontrol : ∀ status output d', vnvmeHandleCreateController request pdoStatus d =
      (status, output, d') → d.deviceControl (.createController request pdoStatus) =
        (some (controlReply 404 .controller status output), d') := by
    intro status output d' heq
    simp only [BusDevice.deviceControl, hreach.running, if_true, vnvmeEvtIoDeviceControl, heq]
  rcases h.create_cases pdoStatus with ⟨hfull, heq⟩ | ⟨hlt, hfails, heq⟩ | ⟨hlt, hok, heq⟩
  · obtain ⟨output, hhandler, hid⟩ := vnvmeHandleCreateController_reached hreach heq
    obtain rfl : output = none := Option.map_eq_none_iff.mp hid
    have hnot : ¬ d.ids.length < 16 := by omega
    have hboth := hcontrol _ _ _ hhandler
    rw [if_neg hnot]
    refine ⟨⟨_, congrArg Prod.fst hboth, rfl⟩, .inl ⟨?_, congrArg Prod.snd hboth⟩⟩
    simp only [issuedBy, hboth, controlReply, Option.map_none]
  · obtain ⟨output, hhandler, hid⟩ := vnvmeHandleCreateController_reached hreach heq
    rw [hfails] at hid
    obtain rfl : output = none := Option.map_eq_none_iff.mp hid
    have hboth := hcontrol _ _ _ hhandler
    rw [if_pos hlt]
    refine ⟨⟨_, congrArg Prod.fst hboth, rfl⟩, .inl ⟨?_, congrArg Prod.snd hboth⟩⟩
    simp only [issuedBy, hboth, controlReply, Option.map_none]
  · obtain ⟨output, hhandler, hid⟩ := vnvmeHandleCreateController_reached hreach heq
    obtain ⟨created, rfl, hcreated⟩ := Option.map_eq_some_iff.mp hid
    have hsuccess : pdoStatus = .success := by
      simpa [NtStatus.ntSuccess] using hok
    have hboth := hcontrol _ _ _ hhandler
    rw [if_pos hlt, hsuccess]
    rw [hsuccess] at hboth
    refine ⟨⟨_, congrArg Prod.fst hboth, rfl⟩, .inr ⟨hlt, ?_, congrArg Prod.snd hboth⟩⟩
    simp only [issuedBy, hboth, controlReply, Option.map_some, hcreated]

theorem setMedia_ids (b : Bus) (k : Nat) (m : Media) :
    (b.setMedia k m).controllers.map (·.controllerId) = b.controllers.map (·.controllerId) := by
  unfold Bus.setMedia
  refine List.ext_getElem? fun i => ?_
  simp only [List.getElem?_map, List.getElem?_modify]
  split_ifs
  · simp [Function.comp_def]
  · simp

/-- The requests for namespaces leave the list of controllers alone. -/
theorem namespaceStep_ids (b : Bus) (e : NamespaceRequest) :
    (namespaceStep b e).controllers.map (·.controllerId) =
      b.controllers.map (·.controllerId) := by
  cases e with
  | create request =>
      simp only [namespaceStep, handleCreateNamespaceRequest]
      split
      · rfl
      · split_ifs
        · rfl
        · rfl
        · rfl
        · rfl
        · split
          · rfl
          · split_ifs <;> exact setMedia_ids _ _ _
  | delete request =>
      simp only [namespaceStep, handleDeleteNamespaceRequest]
      split
      · rfl
      · split_ifs
        · rfl
        · rfl
        · split
          · rfl
          · exact setMedia_ids _ _ _

theorem ControllersListed.namespaceStep (h : ControllersListed d) (e : NamespaceRequest) :
    ControllersListed { d with toBus := namespaceStep d.toBus e } :=
  h.of_ids (namespaceStep_ids d.toBus e) rfl rfl rfl (namespaceStep_consistent d.toBus e h.tables)

/-- The list and so many ids left. -/
structure IdsLeft (n : Nat) (d : BusDevice) : Prop where
  listed : ControllersListed d
  pos : 0 < d.nextControllerId
  room : d.nextControllerId.toNat + n < 2 ^ 32

theorem SameControllers.idsLeft {n : Nat} {d' : BusDevice} (h : SameControllers d d')
    (hd : IdsLeft n d) : IdsLeft n d' := by
  refine ⟨h.listed hd.listed, ?_, ?_⟩
  · rw [h.nextId]
    exact hd.pos
  · rw [h.nextId]
    exact hd.room

/-- A step that issues no id. -/
theorem deviceStep_quiet {n : Nat} (h : IdsLeft n d) {e : DeviceEvent} (hno : e.creates = false)
    (hkeeps : KeepsTables d e) : IdsLeft n (deviceStep d e) ∧ issuedBy d e = none ∧
      (deviceStep d e).nextControllerId = d.nextControllerId := by
  have hsame : ∀ d', SameControllers d d' →
      IdsLeft n d' ∧ d'.nextControllerId = d.nextControllerId :=
    fun d' hd' => ⟨hd'.idsLeft h, hd'.nextId⟩
  cases e with
  | prepareHardware allocated =>
      cases allocated with
      | false => exact ⟨h, rfl, rfl⟩
      | true =>
          obtain ⟨hleft, hnext⟩ := hsame (deviceStep d (.prepareHardware true))
            ⟨rfl, rfl, rfl, rfl⟩
          exact ⟨hleft, rfl, hnext⟩
  | releaseHardware process =>
      obtain ⟨hleft, hnext⟩ := hsame (deviceStep d (.releaseHardware process))
        ((closeUserEvent_sameControllers d process).trans (freeShm_sameControllers _ process))
      exact ⟨hleft, rfl, hnext⟩
  | d0Exit =>
      obtain ⟨hleft, hnext⟩ := hsame (deviceStep d .d0Exit) ⟨rfl, rfl, rfl, rfl⟩
      exact ⟨hleft, rfl, hnext⟩
  | processExit process =>
      obtain ⟨hleft, hnext⟩ := hsame (deviceStep d (.processExit process)) ⟨rfl, rfl, rfl, rfl⟩
      exact ⟨hleft, rfl, hnext⟩
  | rest b => exact ⟨⟨h.listed.rest hkeeps, h.pos, h.room⟩, rfl, rfl⟩
  | control request =>
      by_cases hrunning : d.controlQueue = true
      · have hstep : deviceStep d (.control request) = (vnvmeEvtIoDeviceControl d request).2 := by
          simp only [deviceStep, BusDevice.deviceControl, if_pos hrunning]
        rw [hstep]
        cases hconfigures : request.configures with
        | false =>
            obtain ⟨hleft, hnext⟩ := hsame _ (vnvmeEvtIoDeviceControl_sameControllers d hconfigures)
            refine ⟨hleft, ?_, hnext⟩
            cases request with
            | createController => cases hno
            | _ => rfl
        | true =>
            cases request with
            | createController => cases hno
            | deleteController request =>
                refine ⟨?_, rfl, ?_⟩
                · simp only [vnvmeEvtIoDeviceControl, vnvmeHandleDeleteController]
                  split
                  · exact h
                  · split
                    · exact h
                    · exact ⟨h.listed.delete _, h.pos, h.room⟩
                · simp only [vnvmeEvtIoDeviceControl, vnvmeHandleDeleteController]
                  split
                  · rfl
                  · split <;> rfl
            | createNamespace request =>
                exact ⟨⟨h.listed.namespaceStep (.create request), h.pos, h.room⟩, rfl, rfl⟩
            | deleteNamespace request =>
                exact ⟨⟨h.listed.namespaceStep (.delete request), h.pos, h.room⟩, rfl, rfl⟩
            | _ => cases hconfigures
      · have hstep : deviceStep d (.control request) = d := by
          simp only [deviceStep, BusDevice.deviceControl, if_neg hrunning]
        rw [hstep]
        refine ⟨h, ?_, rfl⟩
        cases request with
        | createController => cases hno
        | _ => rfl

/-- A step that may issue an id: if it does, that is the next one. -/
theorem deviceStep_create {n : Nat} (h : IdsLeft (n + 1) d) {e : DeviceEvent}
    (hcreates : e.creates = true) : IdsLeft n (deviceStep d e) ∧
      d.nextControllerId ≤ (deviceStep d e).nextControllerId ∧
      ∀ id ∈ issuedBy d e,
        id = d.nextControllerId ∧ d.nextControllerId < (deviceStep d e).nextControllerId := by
  have hroom : d.nextControllerId.toNat + 1 < 2 ^ 32 := by
    have := h.room
    omega
  have hnext : (d.nextControllerId + 1).toNat = d.nextControllerId.toNat + 1 := by
    rw [UInt32.toNat_add]
    exact Nat.mod_eq_of_lt hroom
  have hlt : d.nextControllerId < d.nextControllerId + 1 := by
    rw [UInt32.lt_iff_toNat_lt, hnext]
    exact Nat.lt_succ_self _
  have hleft : (d.nextControllerId + 1).toNat + n < 2 ^ 32 := by
    have := h.room
    omega
  cases e with
  | control request =>
      cases request with
      | createController request pdoStatus =>
          by_cases hreach : ReachesCreation d request
          · obtain ⟨-, ⟨hnone, hstep⟩ | ⟨hshort, hissued, hstep⟩⟩ :=
              createController_reached h.listed pdoStatus hreach rfl
            · rw [hstep, hnone]
              refine ⟨⟨?_, UInt32.lt_trans h.pos hlt, hleft⟩, UInt32.le_of_lt hlt, by simp⟩
              exact ⟨h.listed.count, h.listed.max, h.listed.count_le, h.listed.ids,
                h.listed.ids_pos, fun id hid => UInt32.lt_trans (h.listed.ids_lt id hid) hlt,
                h.listed.tables⟩
            · rw [hstep, hissued]
              refine ⟨⟨?_, UInt32.lt_trans h.pos hlt, hleft⟩, UInt32.le_of_lt hlt, ?_⟩
              · exact h.listed.append hshort hroom rfl ⟨rfl, fun _ => rfl⟩ h.pos
              · intro id hid
                exact ⟨(Option.some.inj hid).symm, hlt⟩
          · obtain ⟨hstep, hnone⟩ := createController_refused pdoStatus hreach
            rw [hstep, hnone]
            refine ⟨⟨h.listed, h.pos, ?_⟩, UInt32.le_refl _, by simp⟩
            have := h.room
            omega
      | _ => cases hcreates
  | _ => cases hcreates

end Steps

/-! ## Runs -/

/-- The requests of a run that use up an id. -/
def creations (es : List DeviceEvent) : Nat := es.countP (·.creates)

/-- The ids that the replies of a run give out, in order. -/
def issued : BusDevice → List DeviceEvent → List UInt32
  | _, [] => []
  | d, e :: es => (issuedBy d e).toList ++ issued (deviceStep d e) es

/-- A request to create a controller that gets to the list ends as the creation of its device,
or at the limit of sixteen; no id is ever taken. -/
def CreationEnds (d : BusDevice) (e : DeviceEvent) : Prop :=
  ∀ request pdoStatus, e = .control (.createController request pdoStatus) →
    ReachesCreation d request →
      ∃ reply, (d.deviceControl (.createController request pdoStatus)).1 = some reply ∧
        reply.status = .nt (if d.ids.length < 16 then pdoStatus else .insufficientResources)

theorem deviceStep_idsLeft {n : Nat} {d : BusDevice} {e : DeviceEvent}
    (h : IdsLeft (n + creations [e]) d) (hkeeps : KeepsTables d e) :
    IdsLeft n (deviceStep d e) ∧ d.nextControllerId ≤ (deviceStep d e).nextControllerId ∧
      ∀ id ∈ issuedBy d e,
        id = d.nextControllerId ∧ d.nextControllerId < (deviceStep d e).nextControllerId := by
  cases hcreates : e.creates with
  | false =>
      have hzero : creations [e] = 0 := by simp [creations, hcreates]
      rw [hzero] at h
      obtain ⟨hleft, hnone, hnext⟩ := deviceStep_quiet h hcreates hkeeps
      rw [hnone, hnext]
      exact ⟨hleft, UInt32.le_refl _, by simp⟩
  | true =>
      have hone : creations [e] = 1 := by simp [creations, hcreates]
      rw [hone] at h
      exact deviceStep_create h hcreates

theorem creations_cons (e : DeviceEvent) (es : List DeviceEvent) :
    creations (e :: es) = creations es + creations [e] := by
  rw [creations, List.countP_cons, creations, creations, List.countP_cons, List.countP_nil,
    Nat.zero_add]

/-- Along a run with enough ids left. -/
theorem idsLeft_run {d : BusDevice} {es : List DeviceEvent} (h : IdsLeft (creations es) d)
    (hkeeps : EachStep deviceStep KeepsTables d es) :
    Throughout deviceStep ControllersListed d es ∧ EachStep deviceStep CreationEnds d es ∧
      (issued d es).Pairwise (· < ·) ∧ ∀ id ∈ issued d es, d.nextControllerId ≤ id := by
  induction es generalizing d with
  | nil => exact ⟨throughout_nil.mpr h.listed, eachStep_nil, List.Pairwise.nil, by simp [issued]⟩
  | cons e es ih =>
      obtain ⟨hkeeps, hrest⟩ := eachStep_cons.mp hkeeps
      rw [creations_cons] at h
      obtain ⟨hleft, hle, hissued⟩ := deviceStep_idsLeft h hkeeps
      obtain ⟨hlisted, hends, hpairwise, hlater⟩ := ih hleft hrest
      refine ⟨throughout_cons.mpr ⟨h.listed, hlisted⟩, eachStep_cons.mpr ⟨?_, hends⟩, ?_, ?_⟩
      · intro request pdoStatus he hreach
        exact (createController_reached h.listed pdoStatus hreach rfl).1
      · refine List.pairwise_append.mpr ⟨?_, hpairwise, fun id hid id' hid' => ?_⟩
        · cases issuedBy d e with
          | none => exact List.Pairwise.nil
          | some id => exact List.pairwise_singleton _ _
        · obtain ⟨rfl, hlt⟩ := hissued id (Option.mem_toList.mp hid)
          exact UInt32.lt_of_lt_of_le hlt (hlater id' hid')
      · intro id hid
        rcases List.mem_append.mp hid with hid | hid
        · exact UInt32.le_of_eq (hissued id (Option.mem_toList.mp hid)).1.symm
        · exact UInt32.le_trans hle (hlater id hid)

/-- At the start there is one id less than there are numbers. -/
theorem idsLeft_added (config : Config) (g : VnvmeConfig) (startTime : Int) {n : Nat}
    (hn : n < 2 ^ 32 - 1) : IdsLeft n (.added config g startTime) := by
  refine ⟨⟨rfl, rfl, Nat.zero_le _, List.Pairwise.nil, ?_, ?_, ?_⟩, ?_, ?_⟩
  · exact fun id hid => absurd hid List.not_mem_nil
  · exact fun id hid => absurd hid List.not_mem_nil
  · exact fun pdo hpdo => absurd hpdo List.not_mem_nil
  · show (0 : UInt32) < 1
    decide
  · show 1 + n < 2 ^ 32
    omega

/-- Through any run of the bus device with fewer creations than there are ids, the controllers
are listed once each in the order of their ids, the count is right and at most sixteen, every
namespace table is consistent, a creation fails only at that limit or with its device, and an
id that was given out is never given out again. -/
theorem controllers_listed (config : Config) (g : VnvmeConfig) (startTime : Int)
    {es : List DeviceEvent} (hids : creations es < 2 ^ 32 - 1)
    (hkeeps : EachStep deviceStep KeepsTables (.added config g startTime) es) :
    Throughout deviceStep ControllersListed (.added config g startTime) es ∧
      EachStep deviceStep CreationEnds (.added config g startTime) es ∧
      (issued (.added config g startTime) es).Pairwise (· < ·) := by
  obtain ⟨hlisted, hends, hpairwise, -⟩ :=
    idsLeft_run (idsLeft_added config g startTime hids) hkeeps
  exact ⟨hlisted, hends, hpairwise⟩

/-- A run of requests only. -/
theorem keepsTables_of_control {d : BusDevice} {requests : List DeviceControl} :
    EachStep deviceStep KeepsTables d (requests.map .control) := by
  intro pre e post heq
  have hmem : e ∈ requests.map DeviceEvent.control := by
    rw [heq]
    exact List.mem_append_right _ List.mem_cons_self
  obtain ⟨request, -, rfl⟩ := List.mem_map.mp hmem
  trivial

/-- A request to create a controller. -/
def createRequest : DeviceControl :=
  .createController
    { inputBufferLength := 624, outputBufferLength := 404, input := () } .success

/-- Two controllers, the first one deleted, and a third one. -/
def threeControllers : List DeviceEvent :=
  [createRequest, createRequest,
    .deleteController { inputBufferLength := 8, input := { controllerId := 1 } },
    createRequest].map .control

theorem controllers_listed_three :
    (Throughout deviceStep ControllersListed (.added .allQueues {} 0) threeControllers ∧
      EachStep deviceStep CreationEnds (.added .allQueues {} 0) threeControllers ∧
      (issued (.added .allQueues {} 0) threeControllers).Pairwise (· < ·)) ∧
    issued (.added .allQueues {} 0) threeControllers = [1, 2, 3] ∧
      (run deviceStep (.added .allQueues {} 0) threeControllers).ids = [2, 3] :=
  ⟨controllers_listed .allQueues {} 0 (by decide) keepsTables_of_control, rfl, rfl⟩

end VirtualNvme
