import VirtualNvme.Verification.BusRequests

/-!
# Requests that are refused

What a control request leaves behind when it is turned down. A failed `CREATE_CONTROLLER` uses up
an id, a failed `CREATE_NAMESPACE` writes to a slot that is not in use, and a failed `MAP_SHM` has
already taken down the mapping that was there. Everything else stays as it is, and of these three
only the lost mapping ever shows in an answer.
-/

namespace VirtualNvme

open Runs

/-! ## What the answers are made from -/

/-- A namespace table without the slots that are not in use. -/
def Media.visible (m : Media) : Media :=
  { m with namespaces := fun i => if i < 16 ∧ (m.namespaces i).active then m.namespaces i else {} }

def PdoContext.visible (pdo : PdoContext) : PdoContext :=
  { pdo with toMedia := pdo.toMedia.visible }

/-- The bus device without the next id, the objects for the mapping, and what only the timers and
the storages read. -/
def BusDevice.visible (d : BusDevice) : BusDevice :=
  { d with
    config := { d.config with heartbeatTimeout100ns := 0 }
    controllers := d.controllers.map PdoContext.visible
    os := {}
    shmMdl := none
    shmUserVirtAddr := none
    nextControllerId := 0
    objects := {} }

/-- One request. -/
def requestStep (d : BusDevice) (request : DeviceControl) : BusDevice :=
  (d.deviceControl request).2

/-- The request gets no answer, or one with an error. -/
def TurnedDown (d : BusDevice) (request : DeviceControl) : Prop :=
  ∀ reply, (d.deviceControl request).1 = some reply → reply.status.ntSuccess = false

/-- A creation that comes as far as to take an id. -/
def DeviceControl.takesId (d : BusDevice) : DeviceControl → Bool
  | .createController request _ =>
    d.controlQueue && d.fdo.isSome && (request.bufferError 624 404).isNone
  | _ => false

/-- A mapping that comes as far as to take down the one before. -/
def DeviceControl.remaps (d : BusDevice) : DeviceControl → Bool
  | .mapShm _ request _ _ =>
    d.controlQueue && d.fdo.isSome && decide (24 ≤ request.outputBufferLength) &&
      request.outputStatus.ntSuccess
  | _ => false

/-- The requests whose answers do not name an id or an object that is new, nor the mapping. -/
def DeviceControl.plain : DeviceControl → Bool
  | .getStatus .. => false
  | .mapShm .. => false
  | .createController .. => false
  | .getCommandEvent .. => false
  | .createNamespace .. => false
  | _ => true

/-! ## Handlers that fail -/

section Handlers

variable {b : Bus} {d : BusDevice}

theorem not_success {status : NtStatus} (h : status.ntSuccess = false) : status ≠ .success := by
  rintro rfl
  exact absurd h (by decide)

theorem userReady_refused {now : Int} {request : Ioctl UserReadyInput}
    (h : (vnvmeHandleUserReady now request b).1.ntSuccess = false) :
    (vnvmeHandleUserReady now request b).2 = b := by
  unfold vnvmeHandleUserReady at h ⊢
  split at h
  · rfl
  · split_ifs at h ⊢
    · rfl
    · rfl
    · rfl
    · exact absurd rfl (not_success h)

theorem heartbeat_refused {now : Int} {request : Ioctl HeartbeatInput}
    (h : (vnvmeHandleHeartbeat now request b).1.status.ntSuccess = false) :
    (vnvmeHandleHeartbeat now request b).2 = b := by
  unfold vnvmeHandleHeartbeat at h ⊢
  split at h
  · rfl
  · split_ifs at h ⊢
    · rfl
    · rfl
    · rfl
    · rfl
    · exact absurd rfl (not_success h)

theorem createVirtualController_refused {controllerId : UInt32} {pdoStatus : NtStatus}
    (h : (vnvmeCreateVirtualController controllerId pdoStatus d.childDevices).1.ntSuccess = false) :
    let s := (vnvmeCreateVirtualController controllerId pdoStatus d.childDevices).2
    s.list = d.controllers ∧ s.count = d.childDeviceCount := by
  unfold vnvmeCreateVirtualController createControllerCheck at h ⊢
  split_ifs at h ⊢
  · exact ⟨rfl, rfl⟩
  · exact ⟨rfl, rfl⟩
  · simp only [BusDevice.childDevices, createControllerFinish, List.nil_append,
      List.length_singleton, Nat.sub_self, List.getElem?_cons_zero] at h ⊢
    split_ifs at h ⊢
    · exact ⟨rfl, UInt32.add_sub_cancel _ _⟩
    · exact absurd rfl (not_success h)

theorem deleteController_refused {request : Ioctl DeleteControllerInput}
    (h : (vnvmeHandleDeleteController request d).1.ntSuccess = false) :
    (vnvmeHandleDeleteController request d).2 = d := by
  unfold vnvmeHandleDeleteController vnvmeDeleteVirtualController at h ⊢
  split at h
  · rfl
  · split at h
    · rfl
    · split_ifs at h ⊢
      · exact absurd rfl (not_success h)
      · rfl

theorem submitCompletions_refused {request : Ioctl SubmitCompletionsInput}
    (h : (vnvmeHandleSubmitCompletions request d).1.ntSuccess = false) :
    (vnvmeHandleSubmitCompletions request d).2 = d := by
  unfold vnvmeHandleSubmitCompletions at h ⊢
  split at h
  · rfl
  · split at h
    · rfl
    · dsimp only at h ⊢
      split_ifs at h ⊢
      · rfl
      · rfl
      · exact absurd rfl (not_success h)

theorem commandEvent_refused {process : Nat} {request : Ioctl Unit} {opened : NtStatus}
    (h : (vnvmeHandleGetCommandEvent process request opened d).1.status.ntSuccess = false) :
    (vnvmeHandleGetCommandEvent process request opened d).2 = d := by
  unfold vnvmeHandleGetCommandEvent at h ⊢
  split at h
  · rfl
  · split_ifs at h ⊢
    · rfl
    · rfl
    · split at h
      · rfl
      · exact absurd rfl (not_success h)
    · split at h
      · rfl
      · rfl

theorem setDebugLevel_refused {request : Ioctl SetDebugLevelInput} {g : VnvmeConfig}
    (h : (vnvmeHandleSetDebugLevel request g).1.ntSuccess = false) :
    (vnvmeHandleSetDebugLevel request g).2 = g := by
  unfold vnvmeHandleSetDebugLevel at h ⊢
  split at h
  · rfl
  · exact absurd rfl (not_success h)

theorem setConfig_refused {request : Ioctl SetConfigInput} {g : VnvmeConfig}
    (h : (vnvmeHandleSetConfig request g).1.ntSuccess = false) :
    (vnvmeHandleSetConfig request g).2 = g := by
  unfold vnvmeHandleSetConfig at h ⊢
  split_ifs at h ⊢
  · rfl
  · rfl
  · rfl
  · exact absurd rfl (not_success h)

/-! ## Namespace tables -/

theorem visible_update {m : Media} {i : Nat} (hi : (m.namespaces i).active = false)
    {ns : Namespace} (hns : ns.active = false) :
    Media.visible { m with namespaces := Function.update m.namespaces i ns } = m.visible := by
  unfold Media.visible
  congr 1
  funext j
  by_cases hj : j = i
  · subst hj
    simp [hi, hns]
  · simp [Function.update_of_ne hj]

theorem createNamespace_refused {cfg : Config} {m : Media} {os : Os} {c : NamespaceConfig}
    (h : (vnvmeHandleCreateNamespace cfg m os c).1.ntSuccess = false) :
    (vnvmeHandleCreateNamespace cfg m os c).2.2.1.visible = m.visible := by
  unfold vnvmeHandleCreateNamespace at h ⊢
  split at h
  · rfl
  · split_ifs at h ⊢
    · rfl
    · split at h
      · rfl
      · rename_i i hfind
        have hfree : (m.namespaces i).active = false := by
          simpa using List.find?_some hfind
        dsimp only at h ⊢
        split at h
        · exact absurd rfl (not_success h)
        · exact visible_update hfree rfl

theorem deleteNamespace_refused {m : Media} {nsid : UInt32}
    (h : (vnvmeHandleDeleteNamespace m nsid).1.ntSuccess = false) :
    (vnvmeHandleDeleteNamespace m nsid).2 = m := by
  unfold vnvmeHandleDeleteNamespace at h ⊢
  split_ifs at h ⊢
  · rfl
  · dsimp only at h ⊢
    split_ifs at h ⊢
    · rfl
    · exact absurd rfl (not_success h)

/-- A table that looks the same is put in the place of the old one. -/
theorem setMedia_visible {k : Nat} {m : Media} (h : m.visible = (b.media k).visible) :
    (b.setMedia k m).controllers.map PdoContext.visible =
      b.controllers.map PdoContext.visible := by
  refine List.ext_getElem? fun j => ?_
  simp only [Bus.setMedia, List.getElem?_map, List.getElem?_modify]
  cases hj : b.controllers[j]? with
  | none => rfl
  | some pdo =>
      by_cases hkj : k = j
      · subst hkj
        have hmedia : b.media k = pdo.toMedia := by
          simp only [Bus.media, List.getD_eq_getElem?_getD, hj, Option.getD_some]
        rw [hmedia] at h
        simp [PdoContext.visible, h]
      · simp [hkj]

/-- The bus replaced by one that looks the same. -/
theorem visible_setBus (hconfig : b.config = d.config) (hfdo : b.fdo = d.fdo)
    (hshm : b.shm = d.shm)
    (hcontrollers : b.controllers.map PdoContext.visible = d.controllers.map PdoContext.visible) :
    BusDevice.visible { d with toBus := b } = d.visible := by
  simp only [BusDevice.visible, hconfig, hfdo, hshm, hcontrollers]

theorem createNamespaceRequest_refused {request : Ioctl CreateNamespaceInput}
    (h : (handleCreateNamespaceRequest request d.toBus).1.status.ntSuccess = false) :
    BusDevice.visible { d with toBus := (handleCreateNamespaceRequest request d.toBus).2 } =
      d.visible := by
  unfold handleCreateNamespaceRequest at h ⊢
  split at h
  · rfl
  · split_ifs at h ⊢
    · rfl
    · rfl
    · rfl
    · rfl
    · split at h
      · rfl
      · rename_i k hfind
        dsimp only at h ⊢
        split_ifs at h ⊢ with hok
        · exact absurd hok (by simpa using h)
        · exact visible_setBus rfl rfl rfl (setMedia_visible (createNamespace_refused h))

theorem deleteNamespaceRequest_refused {request : Ioctl DeleteNamespaceInput}
    (h : (handleDeleteNamespaceRequest request d.toBus).1.ntSuccess = false) :
    BusDevice.visible { d with toBus := (handleDeleteNamespaceRequest request d.toBus).2 } =
      d.visible := by
  unfold handleDeleteNamespaceRequest at h ⊢
  split at h
  · rfl
  · split_ifs at h ⊢
    · rfl
    · rfl
    · split at h
      · rfl
      · dsimp only at h ⊢
        refine visible_setBus rfl rfl rfl (setMedia_visible ?_)
        exact congrArg Media.visible (deleteNamespace_refused h)

theorem unmap_visible (process : Nat) :
    (vnvmeUnmapShmFromUser process d).visible = d.visible := by
  unfold vnvmeUnmapShmFromUser
  split <;> rfl

theorem shmMdlFor_eq {addr mdl : Nat} {mdlAllocated : Bool} {d' : BusDevice}
    (h : shmMdlFor addr mdlAllocated d = some (mdl, d')) :
    d'.shmMdl = some mdl ∧ d'.shmUserVirtAddr = d.shmUserVirtAddr ∧ d'.visible = d.visible := by
  unfold shmMdlFor at h
  split at h
  · rename_i hmdl
    obtain ⟨rfl, rfl⟩ := Prod.mk.inj (Option.some.inj h)
    exact ⟨hmdl, rfl, rfl⟩
  · split_ifs at h
    obtain ⟨rfl, rfl⟩ := Prod.mk.inj (Option.some.inj h)
    exact ⟨rfl, rfl, rfl⟩

theorem mapToUser_visible (process : Nat) (mdlAllocated : Bool) (outcome : MapOutcome) :
    (vnvmeMapShmToUser process mdlAllocated outcome d).2.visible = d.visible := by
  unfold vnvmeMapShmToUser
  split
  · rfl
  · split
    · rfl
    · rename_i heq
      obtain ⟨-, -, hvisible⟩ := shmMdlFor_eq heq
      cases outcome with
      | exception => exact hvisible
      | null => exact hvisible
      | mapped =>
          rw [← hvisible]
          rfl

theorem mapShm_visible (process : Nat) (request : Ioctl Unit) (mdlAllocated : Bool)
    (outcome : MapOutcome) :
    (vnvmeHandleMapShm process request mdlAllocated outcome d).2.visible = d.visible := by
  have hmapped : (vnvmeMapShmToUser process mdlAllocated outcome
      (unmapOldMapping process d)).2.visible = d.visible := by
    rw [mapToUser_visible, unmapOldMapping_eq, unmap_visible]
  unfold vnvmeHandleMapShm
  split
  · rfl
  · split_ifs
    · rfl
    · rfl
    · dsimp only
      split_ifs
      · exact hmapped
      · exact hmapped

/-- A creation that fails either ends at the checks or takes the next id. -/
theorem createController_refused_eq {request : Ioctl Unit} {pdoStatus : NtStatus}
    (h : (vnvmeHandleCreateController request pdoStatus d).1.ntSuccess = false) :
    (vnvmeHandleCreateController request pdoStatus d).2.2 =
      if d.fdo.isSome && (request.bufferError 624 404).isNone then
        { d with nextControllerId := d.nextControllerId + 1 }
      else d := by
  unfold vnvmeHandleCreateController at h ⊢
  cases hfdo : d.fdo with
  | none => rfl
  | some fdo =>
      cases hbuffers : request.bufferError 624 404 with
      | some status => rfl
      | none =>
          rw [hfdo, hbuffers] at h
          have hsame : ({ d with nextControllerId := d.nextControllerId + 1 } :
              BusDevice).childDevices = d.childDevices := rfl
          rcases hcreate : vnvmeCreateVirtualController d.nextControllerId pdoStatus
            d.childDevices with ⟨status, s⟩
          simp only [hsame, hcreate] at h ⊢
          cases hok : status.ntSuccess with
          | true =>
              rw [hok] at h
              exact absurd rfl (not_success h)
          | false =>
              obtain ⟨hlist, hcount⟩ : s.list = d.controllers ∧ s.count = d.childDeviceCount := by
                have hkept := @createVirtualController_refused d d.nextControllerId pdoStatus
                rw [hcreate] at hkept
                exact hkept hok
              show BusDevice.setChildDevices
                  { d with nextControllerId := d.nextControllerId + 1 } s =
                { d with nextControllerId := d.nextControllerId + 1 }
              unfold BusDevice.setChildDevices
              rw [hlist, hcount]

/-- A mapping goes with a list of pages. -/
def MappingListed (d : BusDevice) : Prop := d.shmUserVirtAddr.isSome → d.shmMdl.isSome

theorem unmap_none (hlisted : MappingListed d) (process : Nat) :
    (vnvmeUnmapShmFromUser process d).shmUserVirtAddr = none := by
  unfold vnvmeUnmapShmFromUser
  split
  · rfl
  · rename_i hboth
    cases hmap : d.shmUserVirtAddr with
    | none => rfl
    | some addr =>
        obtain ⟨mdl, hmdl⟩ := Option.isSome_iff_exists.mp (hlisted (by rw [hmap]; rfl))
        exact absurd hmdl (hboth addr mdl hmap)

theorem mapToUser_refused {process : Nat} {mdlAllocated : Bool} {outcome : MapOutcome}
    (h : (vnvmeMapShmToUser process mdlAllocated outcome d).1.ntSuccess = false) :
    (vnvmeMapShmToUser process mdlAllocated outcome d).2.shmUserVirtAddr = d.shmUserVirtAddr := by
  unfold vnvmeMapShmToUser at h ⊢
  split at h
  · rfl
  · split at h
    · rfl
    · rename_i heq
      obtain ⟨-, hmapping, -⟩ := shmMdlFor_eq heq
      cases outcome with
      | exception => exact hmapping
      | null => exact hmapping
      | mapped => exact absurd rfl (@not_success .success h)

/-- A mapping that fails either ends at the checks or has taken down the one before. -/
theorem mapShm_refused (hlisted : MappingListed d) {process : Nat} {request : Ioctl Unit}
    {mdlAllocated : Bool} {outcome : MapOutcome}
    (h : (vnvmeHandleMapShm process request mdlAllocated outcome d).1.status.ntSuccess = false) :
    (vnvmeHandleMapShm process request mdlAllocated outcome d).2.shmUserVirtAddr =
      if d.fdo.isSome && decide (24 ≤ request.outputBufferLength) &&
        request.outputStatus.ntSuccess then none else d.shmUserVirtAddr := by
  unfold vnvmeHandleMapShm at h ⊢
  cases hfdo : d.fdo with
  | none => rfl
  | some fdo =>
      rw [hfdo] at h
      dsimp only at h ⊢
      by_cases hlength : request.outputBufferLength < 24
      · simp [hlength]
      · cases hbuffer : request.outputStatus.ntSuccess with
        | false => simp [hlength]
        | true =>
            rw [hbuffer] at h
            have hlength' : 24 ≤ request.outputBufferLength := Nat.not_lt.mp hlength
            simp only [if_neg hlength, Bool.not_true, Bool.false_eq_true, if_false, hlength',
              decide_true, Option.isSome_some, Bool.and_self, if_true] at h ⊢
            split_ifs at h ⊢ with hfail
            · rw [mapToUser_refused (by simpa using hfail), unmapOldMapping_eq,
                unmap_none hlisted]
            · exact absurd rfl (@not_success .success h)

end Handlers

/-! ## One request -/

/-- What a request that is turned down leaves behind. -/
structure LeavesBehind (d : BusDevice) (request : DeviceControl) (d' : BusDevice) : Prop where
  visible : d'.visible = d.visible
  nextId : d'.nextControllerId = d.nextControllerId + if request.takesId d then 1 else 0
  mapping : d'.shmUserVirtAddr = if request.remaps d then none else d.shmUserVirtAddr

section Step

variable {d : BusDevice} {request : DeviceControl}

theorem requestStep_running (h : d.controlQueue = true) (request : DeviceControl) :
    requestStep d request = (vnvmeEvtIoDeviceControl d request).2 := by
  unfold requestStep BusDevice.deviceControl
  rw [if_pos h]

theorem LeavesBehind.of_same {d' : BusDevice} (hvisible : d'.visible = d.visible)
    (hid : d'.nextControllerId = d.nextControllerId)
    (hmapping : d'.shmUserVirtAddr = d.shmUserVirtAddr) (htakes : request.takesId d = false)
    (hremaps : request.remaps d = false) : LeavesBehind d request d' := by
  refine ⟨hvisible, ?_, ?_⟩
  · rw [hid, htakes]
    exact (UInt32.add_zero _).symm
  · rw [hmapping, hremaps]
    rfl

theorem LeavesBehind.of_eq {d' : BusDevice} (h : d' = d) (htakes : request.takesId d = false)
    (hremaps : request.remaps d = false) : LeavesBehind d request d' := by
  subst h
  exact .of_same rfl rfl rfl htakes hremaps

theorem leavesBehind_running (hrunning : d.controlQueue = true) (hlisted : MappingListed d)
    (h : (vnvmeEvtIoDeviceControl d request).1.status.ntSuccess = false) :
    LeavesBehind d request (vnvmeEvtIoDeviceControl d request).2 := by
  cases request with
  | getVersion request => exact .of_eq rfl rfl rfl
  | getStatus request => exact .of_eq rfl rfl rfl
  | mapShm process request mdlAllocated outcome =>
      refine ⟨mapShm_visible process request mdlAllocated outcome, ?_, ?_⟩
      · have hsame := @vnvmeEvtIoDeviceControl_sameControllers d
          (.mapShm process request mdlAllocated outcome) rfl
        rw [hsame.nextId]
        exact (UInt32.add_zero _).symm
      · refine (mapShm_refused hlisted h).trans ?_
        simp only [DeviceControl.remaps, hrunning, Bool.true_and]
  | userReady now request =>
      refine .of_eq ?_ rfl rfl
      show { d with toBus := (vnvmeHandleUserReady now request d.toBus).2 } = d
      rw [userReady_refused h]
  | heartbeat now request =>
      refine .of_eq ?_ rfl rfl
      show { d with toBus := (vnvmeHandleHeartbeat now request d.toBus).2 } = d
      rw [heartbeat_refused h]
  | createController request pdoStatus =>
      have heq := createController_refused_eq h
      show LeavesBehind d _ (vnvmeHandleCreateController request pdoStatus d).2.2
      cases hpassed : d.fdo.isSome && (request.bufferError 624 404).isNone with
      | false =>
          rw [hpassed] at heq
          refine .of_eq heq ?_ rfl
          simp only [DeviceControl.takesId, hrunning, Bool.true_and, hpassed]
      | true =>
          rw [hpassed] at heq
          rw [heq]
          have htakes : (DeviceControl.createController request pdoStatus).takesId d = true := by
            simp only [DeviceControl.takesId, hrunning, Bool.true_and, hpassed]
          refine ⟨rfl, ?_, rfl⟩
          rw [htakes]
          rfl
  | deleteController request => exact .of_eq (deleteController_refused h) rfl rfl
  | listControllers request => exact .of_eq rfl rfl rfl
  | getCommandEvent process request opened => exact .of_eq (commandEvent_refused h) rfl rfl
  | submitCompletions request => exact .of_eq (submitCompletions_refused h) rfl rfl
  | getStats now request => exact .of_eq rfl rfl rfl
  | setDebugLevel request =>
      show LeavesBehind d _ (d.setGlobalConfig (vnvmeHandleSetDebugLevel request _).2)
      rw [setDebugLevel_refused h]
      exact .of_same rfl rfl rfl rfl rfl
  | unmapShm =>
      refine .of_eq ?_ rfl rfl
      show (vnvmeHandleUnmapShm d).2 = d
      unfold vnvmeHandleUnmapShm
      split <;> rfl
  | createNamespace request =>
      exact .of_same (createNamespaceRequest_refused h) rfl rfl rfl rfl
  | deleteNamespace request =>
      exact .of_same (deleteNamespaceRequest_refused h) rfl rfl rfl rfl
  | listNamespaces request => exact .of_eq rfl rfl rfl
  | getConfig request => exact .of_eq rfl rfl rfl
  | setConfig request =>
      show LeavesBehind d _ (d.setGlobalConfig (vnvmeHandleSetConfig request _).2)
      rw [setConfig_refused h]
      exact .of_same rfl rfl rfl rfl rfl
  | unknown => exact .of_eq rfl rfl rfl

theorem TurnedDown.leavesBehind (h : TurnedDown d request) (hlisted : MappingListed d) :
    LeavesBehind d request (requestStep d request) := by
  by_cases hrunning : d.controlQueue = true
  · rw [requestStep_running hrunning]
    refine leavesBehind_running hrunning hlisted (h _ ?_)
    unfold BusDevice.deviceControl
    rw [if_pos hrunning]
  · have hstopped : d.controlQueue = false := Bool.not_eq_true _ ▸ hrunning
    refine .of_eq ?_ ?_ ?_
    · unfold requestStep BusDevice.deviceControl
      rw [if_neg hrunning]
    · cases request <;> simp [DeviceControl.takesId, hstopped]
    · cases request <;> simp [DeviceControl.remaps, hstopped]

end Step

/-! ## Mappings and lists of pages -/

section Listed

variable {d : BusDevice}

theorem mapToUser_listed (hlisted : MappingListed d) (process : Nat) (mdlAllocated : Bool)
    (outcome : MapOutcome) :
    MappingListed (vnvmeMapShmToUser process mdlAllocated outcome d).2 := by
  unfold vnvmeMapShmToUser
  split
  · exact hlisted
  · split
    · exact hlisted
    · rename_i heq
      obtain ⟨hmdl, -, -⟩ := shmMdlFor_eq heq
      have hsome : ∀ mdl (d' : BusDevice), d'.shmMdl = some mdl → MappingListed d' :=
        fun mdl d' h _ => Option.isSome_iff_exists.mpr ⟨mdl, h⟩
      cases outcome with
      | exception => exact hsome _ _ hmdl
      | null => exact hsome _ _ hmdl
      | mapped => exact hsome _ _ hmdl

theorem freeShm_none (hlisted : MappingListed d) (process : Nat) :
    (vnvmeFreeShm process d).shmUserVirtAddr = none := by
  have hmdl : ∀ d : BusDevice, (freeShmMdl d).shmUserVirtAddr = d.shmUserVirtAddr := by
    intro d
    unfold freeShmMdl
    split <;> rfl
  have hmemory : ∀ d : BusDevice, (freeShmMemory d).shmUserVirtAddr = d.shmUserVirtAddr := by
    intro d
    unfold freeShmMemory
    split <;> rfl
  unfold vnvmeFreeShm
  rw [hmemory, hmdl, unmap_none hlisted]

theorem MappingListed.handled (hlisted : MappingListed d) (request : DeviceControl) :
    MappingListed (vnvmeEvtIoDeviceControl d request).2 := by
  cases hacquires : request.acquires with
  | false =>
      have hsame := vnvmeEvtIoDeviceControl_sameObjects d hacquires
      unfold MappingListed
      rw [hsame.mapping, hsame.mdl]
      exact hlisted
  | true =>
      cases request with
      | mapShm process request mdlAllocated outcome =>
          have hold : MappingListed (unmapOldMapping process d) := by
            intro hsome
            rw [unmapOldMapping_eq, unmap_none hlisted] at hsome
            cases hsome
          have hnew := mapToUser_listed hold process mdlAllocated outcome
          show MappingListed (vnvmeHandleMapShm process request mdlAllocated outcome d).2
          unfold vnvmeHandleMapShm
          split
          · exact hlisted
          · split_ifs
            · exact hlisted
            · exact hlisted
            · dsimp only
              split_ifs
              · exact hnew
              · exact hnew
      | getCommandEvent process request opened =>
          show MappingListed (vnvmeHandleGetCommandEvent process request opened d).2
          unfold vnvmeHandleGetCommandEvent
          split
          · exact hlisted
          · split_ifs
            · exact hlisted
            · exact hlisted
            · split <;> exact hlisted
            · split <;> exact hlisted
      | _ => cases hacquires

theorem MappingListed.step (hlisted : MappingListed d) (e : DeviceEvent) :
    MappingListed (deviceStep d e) := by
  cases e with
  | prepareHardware allocated =>
      show MappingListed (d.allocateShm allocated).2
      unfold BusDevice.allocateShm
      split_ifs <;> exact hlisted
  | releaseHardware process =>
      have hclosed : MappingListed (closeUserEvent process d) := by
        unfold closeUserEvent
        split <;> exact hlisted
      intro hsome
      rw [show (deviceStep d (.releaseHardware process)).shmUserVirtAddr = none from
        freeShm_none hclosed process] at hsome
      cases hsome
  | control request =>
      show MappingListed (d.deviceControl request).2
      unfold BusDevice.deviceControl
      split_ifs
      · exact hlisted.handled request
      · exact hlisted
  | d0Exit | processExit | rest => exact hlisted

end Listed

/-! ## What the answers show -/

section Answers

theorem Media.visible_active (m : Media) {i : Nat} (hi : i < 16) :
    (m.visible.namespaces i).active = (m.namespaces i).active := by
  cases hactive : (m.namespaces i).active with
  | false => simp [Media.visible, hactive]
  | true => simp [Media.visible, hactive, hi]

theorem Media.visible_namespace (m : Media) {i : Nat} (hi : i < 16)
    (hactive : (m.namespaces i).active = true) : m.visible.namespaces i = m.namespaces i :=
  if_pos ⟨hi, hactive⟩

theorem controllerInfo_visible (pdo : PdoContext) :
    controllerInfo pdo.visible = controllerInfo pdo := by
  have hcapacity : totalCapacity pdo.visible = totalCapacity pdo := by
    refine List.foldl_ext _ _ _ fun capacity i hi => ?_
    have hi16 := List.mem_range.mp hi
    have hsame : (pdo.visible.namespaces i).active = (pdo.namespaces i).active :=
      pdo.toMedia.visible_active hi16
    cases hactive : (pdo.namespaces i).active with
    | false => simp [hsame, hactive]
    | true =>
        have heq : pdo.visible.namespaces i = pdo.namespaces i :=
          pdo.toMedia.visible_namespace hi16 hactive
        rw [heq]
  unfold controllerInfo
  rw [hcapacity]
  rfl

theorem listControllersLoop_visible (index : Nat) (ps : List PdoContext) :
    listControllersLoop index (ps.map PdoContext.visible) = listControllersLoop index ps := by
  induction ps generalizing index with
  | nil => rfl
  | cons pdo ps ih =>
      rw [List.map_cons, listControllersLoop, listControllersLoop, controllerInfo_visible, ih]

theorem countActive_visible (n : UInt32) (pdo : PdoContext) :
    countActive n pdo.visible = countActive n pdo := by
  refine List.foldl_ext _ _ _ fun n i hi => ?_
  have hsame : (pdo.visible.namespaces i).active = (pdo.namespaces i).active :=
    pdo.toMedia.visible_active (List.mem_range.mp hi)
  rw [hsame]

theorem listNamespacesLoop_visible (m : Media) :
    listNamespacesLoop m.visible = listNamespacesLoop m := by
  refine List.filterMap_congr fun i hi => ?_
  have hi16 := List.mem_range.mp hi
  cases hactive : (m.namespaces i).active with
  | false => simp [m.visible_active hi16, hactive]
  | true => rw [m.visible_namespace hi16 hactive, hactive]

theorem collectStats_visible (target : UInt32) (output : GetStatsOutput) (ps : List PdoContext) :
    collectStats target output (ps.map PdoContext.visible) = collectStats target output ps := by
  induction ps generalizing output with
  | nil => rfl
  | cons pdo ps ih =>
      have hslots : ∀ output, (List.range 16).foldl (collectNamespace pdo.visible.toMedia) output =
          (List.range 16).foldl (collectNamespace pdo.toMedia) output := by
        intro output
        refine List.foldl_ext _ _ _ fun output i hi => ?_
        have hi16 := List.mem_range.mp hi
        have hsame : (pdo.visible.namespaces i).active = (pdo.namespaces i).active :=
          pdo.toMedia.visible_active hi16
        unfold collectNamespace
        cases hactive : (pdo.namespaces i).active with
        | false => simp [hsame, hactive]
        | true =>
            have heq : pdo.visible.namespaces i = pdo.namespaces i :=
              pdo.toMedia.visible_namespace hi16 hactive
            rw [heq, hactive]
      have hid : pdo.visible.controllerId = pdo.controllerId := rfl
      have hstats : controllerStats pdo.visible = controllerStats pdo := rfl
      rw [List.map_cons, collectStats, collectStats, hid, hstats]
      simp only [hslots, ih]

theorem find_visible (d : BusDevice) (controllerId : UInt32) :
    ctrlDevFindController d.visible.toBus controllerId =
      ctrlDevFindController d.toBus controllerId :=
  List.findIdx?_map

theorem media_visible (d : BusDevice) (k : Nat) :
    d.visible.media k = (d.media k).visible := by
  show ((d.controllers.map PdoContext.visible).getD k {}).toMedia = _
  rw [List.getD_eq_getElem?_getD, List.getElem?_map]
  show _ = (d.controllers.getD k {}).toMedia.visible
  rw [List.getD_eq_getElem?_getD]
  cases d.controllers[k]? with
  | none => simp [Media.visible]
  | some pdo => rfl

theorem deleteNamespace_visible (m : Media) (nsid : UInt32) :
    (vnvmeHandleDeleteNamespace m.visible nsid).1 = (vnvmeHandleDeleteNamespace m nsid).1 := by
  unfold vnvmeHandleDeleteNamespace
  split_ifs with hrange
  · rfl
  · obtain ⟨hne, hle⟩ := not_or.mp hrange
    have hi : nsid.toNat - 1 < 16 := by
      have h16 : nsid.toNat ≤ 16 := UInt32.le_iff_toNat_le.mp (UInt32.not_lt.mp hle)
      omega
    dsimp only
    rw [m.visible_active hi]
    split_ifs <;> rfl

theorem fdo_visible (d : BusDevice) : d.visible.fdo = d.fdo := rfl

theorem userReady_visible (d : BusDevice) (now : Int) (request : Ioctl UserReadyInput) :
    (vnvmeHandleUserReady now request d.visible.toBus).1 =
      (vnvmeHandleUserReady now request d.toBus).1 := by
  unfold vnvmeHandleUserReady
  rw [fdo_visible]
  split
  · rfl
  · split_ifs <;> rfl

theorem heartbeat_visible (d : BusDevice) (now : Int) (request : Ioctl HeartbeatInput) :
    (vnvmeHandleHeartbeat now request d.visible.toBus).1 =
      (vnvmeHandleHeartbeat now request d.toBus).1 := by
  have hpending : d.visible.controllers.foldl addPending 0 = d.controllers.foldl addPending 0 :=
    List.foldl_map
  unfold vnvmeHandleHeartbeat
  rw [fdo_visible, hpending]
  split
  · rfl
  · split_ifs <;> rfl

theorem deleteController_visible (d : BusDevice) (request : Ioctl DeleteControllerInput) :
    (vnvmeHandleDeleteController request d.visible).1 =
      (vnvmeHandleDeleteController request d).1 := by
  have hids : ∀ p : PdoContext → Bool, (∀ pdo, p pdo.visible = p pdo) →
      d.visible.childDevices.list.any p = d.childDevices.list.any p := by
    intro p hp
    show (d.controllers.map PdoContext.visible).any p = d.controllers.any p
    rw [List.any_map]
    exact congrArg (fun q => d.controllers.any q) (funext hp)
  unfold vnvmeHandleDeleteController vnvmeDeleteVirtualController
  rw [fdo_visible]
  split
  · rfl
  · split
    · rfl
    · rw [hids _ fun pdo => rfl]
      split_ifs <;> rfl

theorem listControllers_visible (d : BusDevice) (request : Ioctl Unit) :
    vnvmeHandleListControllers request d.visible = vnvmeHandleListControllers request d := by
  have hloop : listControllersLoop 0 d.visible.controllers = listControllersLoop 0 d.controllers :=
    listControllersLoop_visible 0 d.controllers
  unfold vnvmeHandleListControllers
  rw [fdo_visible, hloop]

theorem listNamespaces_visible (d : BusDevice) (request : Ioctl ListNamespacesInput) :
    vnvmeHandleListNamespaces request d.visible = vnvmeHandleListNamespaces request d := by
  unfold vnvmeHandleListNamespaces
  simp only [fdo_visible, find_visible, media_visible, listNamespacesLoop_visible]

theorem getStats_visible (d : BusDevice) (now : Int) (request : Ioctl GetStatsInput) :
    vnvmeHandleGetStats now request d.visible = vnvmeHandleGetStats now request d := by
  have hloop : ∀ target output, collectStats target output d.visible.controllers =
      collectStats target output d.controllers :=
    fun target output => collectStats_visible target output d.controllers
  unfold vnvmeHandleGetStats
  simp only [fdo_visible, hloop]
  rfl

theorem submitCompletions_visible (d : BusDevice) (request : Ioctl SubmitCompletionsInput) :
    (vnvmeHandleSubmitCompletions request d.visible).1 =
      (vnvmeHandleSubmitCompletions request d).1 := by
  unfold vnvmeHandleSubmitCompletions
  rw [fdo_visible]
  split
  · rfl
  · split
    · rfl
    · dsimp only
      split_ifs <;> rfl

theorem deleteNamespaceRequest_visible (d : BusDevice) (request : Ioctl DeleteNamespaceInput) :
    (handleDeleteNamespaceRequest request d.visible.toBus).1 =
      (handleDeleteNamespaceRequest request d.toBus).1 := by
  unfold handleDeleteNamespaceRequest
  rw [fdo_visible, find_visible]
  split
  · rfl
  · split_ifs
    · rfl
    · rfl
    · split
      · rfl
      · rename_i k _
        dsimp only
        rw [media_visible]
        exact deleteNamespace_visible _ _

theorem unmapShm_visible (d : BusDevice) :
    (vnvmeHandleUnmapShm d.visible).1 = (vnvmeHandleUnmapShm d).1 := by
  unfold vnvmeHandleUnmapShm
  rw [fdo_visible]
  split <;> rfl

/-- An answer that is plain is made from what is visible. -/
theorem answer_visible (d : BusDevice) {request : DeviceControl} (hplain : request.plain = true) :
    (vnvmeEvtIoDeviceControl d.visible request).1 = (vnvmeEvtIoDeviceControl d request).1 := by
  cases request with
  | getStatus | mapShm | createController | getCommandEvent | createNamespace => cases hplain
  | getVersion | setDebugLevel | getConfig | setConfig | unknown => rfl
  | userReady now request =>
      simp only [vnvmeEvtIoDeviceControl, userReady_visible]
  | heartbeat now request =>
      simp only [vnvmeEvtIoDeviceControl, heartbeat_visible]
  | deleteController request =>
      simp only [vnvmeEvtIoDeviceControl, deleteController_visible]
  | listControllers request =>
      simp only [vnvmeEvtIoDeviceControl, listControllers_visible]
  | submitCompletions request =>
      simp only [vnvmeEvtIoDeviceControl, submitCompletions_visible]
  | getStats now request =>
      simp only [vnvmeEvtIoDeviceControl, getStats_visible]
  | unmapShm =>
      simp only [vnvmeEvtIoDeviceControl, unmapShm_visible]
  | deleteNamespace request =>
      simp only [vnvmeEvtIoDeviceControl, deleteNamespaceRequest_visible]
  | listNamespaces request =>
      simp only [vnvmeEvtIoDeviceControl, listNamespaces_visible]

/-- So is the status, but for the mapping. -/
theorem getStatus_visible (d : BusDevice) (request : Ioctl Unit) :
    vnvmeHandleGetStatus request { d.visible with shmUserVirtAddr := d.shmUserVirtAddr } =
      vnvmeHandleGetStatus request d := by
  have hcount : (d.controllers.map PdoContext.visible).foldl countActive 0 =
      d.controllers.foldl countActive 0 := by
    rw [List.foldl_map]
    simp only [countActive_visible]
  unfold vnvmeHandleGetStatus
  simp only [BusDevice.visible, hcount]

end Answers

/-! ## Any number of requests -/

section Run

variable {d d' : BusDevice}

theorem same_of_visible (h : d'.visible = d.visible) :
    d'.fdo = d.fdo ∧ d'.controlQueue = d.controlQueue := by
  have hfdo := congrArg (fun d : BusDevice => d.fdo) h
  have hqueue := congrArg BusDevice.controlQueue h
  exact ⟨hfdo, hqueue⟩

theorem takesId_congr (h : d'.visible = d.visible) (request : DeviceControl) :
    request.takesId d' = request.takesId d := by
  obtain ⟨hfdo, hqueue⟩ := same_of_visible h
  cases request <;> simp only [DeviceControl.takesId, hfdo, hqueue]

theorem remaps_congr (h : d'.visible = d.visible) (request : DeviceControl) :
    request.remaps d' = request.remaps d := by
  obtain ⟨hfdo, hqueue⟩ := same_of_visible h
  cases request <;> simp only [DeviceControl.remaps, hfdo, hqueue]

theorem turnedDown_run (hlisted : MappingListed d) {requests : List DeviceControl}
    (h : EachStep requestStep TurnedDown d requests) :
    (run requestStep d requests).visible = d.visible ∧
      (run requestStep d requests).nextControllerId =
        d.nextControllerId + UInt32.ofNat (requests.countP (·.takesId d)) ∧
      (run requestStep d requests).shmUserVirtAddr =
        if requests.any (·.remaps d) then none else d.shmUserVirtAddr := by
  induction requests generalizing d with
  | nil => exact ⟨rfl, (UInt32.add_zero _).symm, rfl⟩
  | cons request requests ih =>
      obtain ⟨hfirst, hrest⟩ := eachStep_cons.mp h
      have hleaves := hfirst.leavesBehind hlisted
      have hlisted' : MappingListed (requestStep d request) := hlisted.step (.control request)
      obtain ⟨hvisible, hid, hmapping⟩ := ih hlisted' hrest
      refine ⟨hvisible.trans hleaves.visible, hid.trans ?_, hmapping.trans ?_⟩
      · rw [hleaves.nextId, List.countP_cons]
        simp only [takesId_congr hleaves.visible]
        split_ifs
        · rw [UInt32.ofNat_add, UInt32.add_assoc, UInt32.add_comm 1]
          rfl
        · rw [UInt32.add_zero, Nat.add_zero]
      · rw [hleaves.mapping, List.any_cons]
        simp only [remaps_congr hleaves.visible]
        cases request.remaps d with
        | false => simp
        | true => simp

theorem getStatus_congr (hvisible : d'.visible = d.visible)
    (hmapping : d'.shmUserVirtAddr = d.shmUserVirtAddr) (request : Ioctl Unit) :
    (d'.deviceControl (.getStatus request)).1 = (d.deviceControl (.getStatus request)).1 := by
  have hstatus : vnvmeHandleGetStatus request d' = vnvmeHandleGetStatus request d := by
    rw [← getStatus_visible d', ← getStatus_visible d, hvisible, hmapping]
  unfold BusDevice.deviceControl
  rw [(same_of_visible hvisible).2]
  split_ifs
  · simp only [vnvmeEvtIoDeviceControl, hstatus]
  · rfl

/-- A lost mapping shows in the status. -/
theorem getStatus_lost (hfdo : d.fdo.isSome) (hqueue : d.controlQueue = true)
    (hvisible : d'.visible = d.visible) (hmapped : d.shmUserVirtAddr.isSome)
    (hlost : d'.shmUserVirtAddr = none) :
    ∃ request, (d'.deviceControl (.getStatus request)).1 ≠
      (d.deviceControl (.getStatus request)).1 := by
  obtain ⟨fdo, hfdo⟩ := Option.isSome_iff_exists.mp hfdo
  obtain ⟨hfdo', hqueue'⟩ := same_of_visible hvisible
  refine ⟨{ inputBufferLength := 0, outputBufferLength := 88, input := () }, fun heq => ?_⟩
  unfold BusDevice.deviceControl at heq
  rw [if_pos hqueue, if_pos (hqueue'.trans hqueue)] at heq
  simp [vnvmeEvtIoDeviceControl, vnvmeHandleGetStatus, controlReply, Ioctl.outputError,
    NtStatus.ntSuccess, hfdo, hfdo'.trans hfdo, hmapped, hlost] at heq

theorem answer_congr (hvisible : d'.visible = d.visible) {request : DeviceControl}
    (hplain : request.plain = true) :
    (d'.deviceControl request).1 = (d.deviceControl request).1 := by
  have hanswer : (vnvmeEvtIoDeviceControl d' request).1 =
      (vnvmeEvtIoDeviceControl d request).1 := by
    rw [← answer_visible d' hplain, ← answer_visible d hplain, hvisible]
  unfold BusDevice.deviceControl
  rw [(same_of_visible hvisible).2]
  split_ifs
  · exact congrArg some hanswer
  · rfl

end Run

/-- **Requests that fail.** After any number of requests that were turned down, on a device in any
state that it can come to, every plain request gets the answer that it would have got before. The
status is as before exactly if no mapping was taken down, and each creation of a controller that
came past its checks has used up an id. -/
theorem failedRequests_invisible (config : Config) (g : VnvmeConfig) (startTime : Int)
    (es : List DeviceEvent) (requests : List DeviceControl)
    (h : EachStep requestStep TurnedDown (run deviceStep (.added config g startTime) es)
      requests) :
    let d := run deviceStep (.added config g startTime) es
    let d' := run requestStep d requests
    (∀ request, request.plain = true →
        (d'.deviceControl request).1 = (d.deviceControl request).1) ∧
      ((∀ request, (d'.deviceControl (.getStatus request)).1 =
          (d.deviceControl (.getStatus request)).1) ↔
        (d.shmUserVirtAddr.isSome → ∀ r ∈ requests, r.remaps d = false)) ∧
      d'.nextControllerId = d.nextControllerId + UInt32.ofNat (requests.countP (·.takesId d)) := by
  intro d d'
  have hlisted : MappingListed d := by
    refine run_induct (P := MappingListed) (fun _ e hlisted => hlisted.step e) ?_ es
    intro hsome
    cases hsome
  obtain ⟨hvisible, hid, hmapping⟩ := turnedDown_run hlisted h
  refine ⟨fun request hplain => answer_congr hvisible hplain, ⟨?_, ?_⟩, hid⟩
  · intro hsame hmapped r hr
    by_contra hremaps
    have hany : requests.any (·.remaps d) = true :=
      List.any_eq_true.mpr ⟨r, hr, by simpa using hremaps⟩
    rw [hany, if_pos rfl] at hmapping
    obtain ⟨hqueue, hfdo⟩ : d.controlQueue = true ∧ d.fdo.isSome := by
      cases r <;> simp_all [DeviceControl.remaps]
    obtain ⟨request, hne⟩ := getStatus_lost hfdo hqueue hvisible hmapped hmapping
    exact hne (hsame request)
  · intro hnone request
    refine getStatus_congr hvisible ?_ request
    rw [hmapping]
    cases hmapped : d.shmUserVirtAddr with
    | none => exact ite_self _
    | some addr =>
        have hkept : requests.any (·.remaps d) = false :=
          List.any_eq_false.mpr fun r hr => by simp [hnone (by rw [hmapped]; rfl) r hr]
        rw [hkept]
        rfl

/-- A mapping that fails after one that succeeded, and a controller that cannot be created. -/
theorem failedRequests_invisible_mapping :
    let request : Ioctl Unit := { inputBufferLength := 0, outputBufferLength := 24, input := () }
    let creation : Ioctl Unit :=
      { inputBufferLength := 624, outputBufferLength := 404, input := () }
    let d := run deviceStep (.added .allQueues {} 0)
      [.prepareHardware true, .control (.mapShm 1 request true .mapped)]
    let d' := run requestStep d
      [.mapShm 2 request true .exception, .createController creation .insufficientResources]
    d'.nextControllerId = 2 ∧
      ¬ ∀ request, (d'.deviceControl (.getStatus request)).1 =
        (d.deviceControl (.getStatus request)).1 := by
  intro request creation d d'
  have hfailed : EachStep requestStep TurnedDown d
      [.mapShm 2 request true .exception,
        .createController creation .insufficientResources] := by
    refine eachStep_cons.mpr ⟨?_, eachStep_cons.mpr ⟨?_, eachStep_nil⟩⟩
    · intro reply heq
      obtain rfl := Option.some.inj heq
      rfl
    · intro reply heq
      obtain rfl := Option.some.inj heq
      rfl
  obtain ⟨-, hstatus, hid⟩ := failedRequests_invisible .allQueues {} 0 _ _ hfailed
  refine ⟨hid, fun hsame => ?_⟩
  have hkept := hstatus.mp hsame rfl _ (List.mem_cons_self)
  cases hkept

end VirtualNvme
