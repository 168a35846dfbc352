import VirtualNvme.Driver.StorageObjects
import VirtualNvme.Verification.BusRequests

/-!
# The storage of the namespaces over the requests of the bus

Which pool memory and which file handles are out, over any run of the bus device. A namespace's
storage is given back by the request that deletes the namespace and by nothing else, so what a
controller still holds when it is deleted stays out for good.
-/

namespace VirtualNvme

open Ledgers (Ledger OwnsFlat Resource)
open Runs

/-! ## One storage context -/

def slotResources (o : Option StorageObjects) : List (Resource StorageObject) :=
  o.toList.flatMap StorageObjects.resources

@[simp]
theorem slotResources_none : slotResources none = [] := rfl

@[simp]
theorem slotResources_some (st : StorageObjects) : slotResources (some st) = st.resources :=
  List.append_nil _

section Context

variable {l : Ledger StorageObject} {held : List (Resource StorageObject)}

theorem memoryInitObjects_owns (h : OwnsFlat l held) (os : Os) (totalBytes : UInt64)
    (context : Nat) {r : Option StorageObjects × Ledger StorageObject}
    (hr : storageMemoryInitObjects os totalBytes context l = r) :
    r.1 = none ∧ OwnsFlat r.2 held ∨
      ∃ memoryBuffer, r.1 = some (.memory context memoryBuffer) ∧
        OwnsFlat r.2 (⟨.memoryBuffer, memoryBuffer, none⟩ :: held) := by
  subst hr
  unfold storageMemoryInitObjects
  split_ifs
  · exact .inl ⟨rfl, h⟩
  · exact .inr ⟨_, rfl, h.acquire .memoryBuffer⟩
  · exact .inl ⟨rfl, h⟩

theorem fileInitObjects_owns (h : OwnsFlat l held) (sparse : Bool) (os : Os) (context : Nat)
    {r : Option StorageObjects × Ledger StorageObject}
    (hr : storageFileInitObjects sparse os context l = r) :
    r.1 = none ∧ OwnsFlat r.2 held ∨
      ∃ filePath fileHandle, r.1 = some (.file context filePath fileHandle) ∧
        OwnsFlat r.2
          (⟨.fileHandle, fileHandle, none⟩ :: ⟨.filePath, filePath, none⟩ :: held) := by
  subst hr
  have hpath := h.acquire .filePath
  have hhandle := hpath.acquire .fileHandle
  unfold storageFileInitObjects
  dsimp only
  generalize (if sparse then _ else _ : Os) = os'
  split_ifs
  · exact .inl ⟨rfl, h⟩
  · exact .inl ⟨rfl, hpath.release⟩
  · exact .inl ⟨rfl, hhandle.release.release⟩
  · exact .inr ⟨_, _, rfl, hhandle⟩

/-- A creation that fails gives back what it got. -/
theorem storageCreateObjects_owns (h : OwnsFlat l held) (os : Os) (type : StorageType)
    (totalBytes : UInt64) (filePath : Option (List UInt16)) :
    OwnsFlat (vnvmeStorageCreateObjects os type totalBytes filePath l).2
      (slotResources (vnvmeStorageCreateObjects os type totalBytes filePath l).1 ++ held) := by
  have hcontext := h.acquire .context
  have hfails : OwnsFlat (storageCreateFinish l.next (none, (l.acquire .context none).2)).2
      (slotResources (storageCreateFinish l.next (none, (l.acquire .context none).2)).1 ++
        held) := hcontext.release
  have hfile : ∀ sparse os, OwnsFlat
      (storageCreateFinish l.next
        (storageFileInitObjects sparse os l.next (l.acquire .context none).2)).2
      (slotResources (storageCreateFinish l.next
        (storageFileInitObjects sparse os l.next (l.acquire .context none).2)).1 ++ held) := by
    intro sparse os
    generalize hr : storageFileInitObjects sparse os l.next (l.acquire .context none).2 = r
    obtain ⟨o, l'⟩ := r
    rcases fileInitObjects_owns hcontext sparse os l.next hr with
      ⟨rfl, howns⟩ | ⟨path, handle, rfl, howns⟩
    · exact howns.release
    · exact howns
  unfold vnvmeStorageCreateObjects
  dsimp only
  split_ifs
  · exact h
  · cases type with
    | memory =>
        generalize hr : storageMemoryInitObjects _ totalBytes _ _ = r
        obtain ⟨o, l'⟩ := r
        rcases memoryInitObjects_owns hcontext _ totalBytes l.next hr with
          ⟨rfl, howns⟩ | ⟨buffer, rfl, howns⟩
        · exact howns.release
        · exact howns
    | file =>
        cases filePath with
        | none => exact hfails
        | some path => exact hfile false _
    | sparse =>
        cases filePath with
        | none => exact hfails
        | some path => exact hfile true _
    | none => exact hfails

theorem storageDestroyObjects_owns {st : StorageObjects} (h : OwnsFlat l (st.resources ++ held)) :
    OwnsFlat (vnvmeStorageDestroyObjects l st) held := by
  cases st with
  | memory context buffer => exact h.release.release
  | file context path handle => exact h.release.release.release

end Context

/-- There are objects for a storage context exactly if there is a storage context. -/
theorem storageCreateObjects_isSome (os : Os) (type : StorageType) (totalBytes : UInt64)
    (blockSize : UInt32) (filePath : Option (List UInt16)) (l : Ledger StorageObject) :
    (vnvmeStorageCreateObjects os type totalBytes filePath l).1.isSome =
      (vnvmeStorageCreate os type totalBytes blockSize filePath).1.ntSuccess := by
  have hfinish : ∀ context r, (storageCreateFinish context r).1.isSome = r.1.isSome := by
    rintro context ⟨_ | st, l⟩ <;> rfl
  unfold vnvmeStorageCreateObjects vnvmeStorageCreate
  cases hok : (os.call .allocatePool).1 with
  | false => simp only [hok, Bool.not_false, if_true, Option.isSome_none, NtStatus.ntSuccess]; rfl
  | true =>
    simp only [hok, Bool.not_true, Bool.false_eq_true, if_false, hfinish]
    cases type with
    | memory =>
        simp only [storageMemoryInitObjects, storageMemoryInit]
        split_ifs <;> rfl
    | file =>
        cases filePath with
        | none => rfl
        | some path =>
            simp only [storageFileInitObjects, storageFileInit, Bool.false_eq_true, if_false]
            split_ifs <;> rfl
    | sparse =>
        cases filePath with
        | none => rfl
        | some path =>
            simp only [storageFileInitObjects, storageSparseInit, if_true]
            split_ifs <;> rfl
    | none => rfl

/-! ## One namespace table -/

def StorageTable.resources (t : StorageTable) : List (Resource StorageObject) :=
  ((List.range 16).map t).flatMap slotResources

/-- The table has storage objects exactly for the active namespaces. -/
def StorageTable.Matches (t : StorageTable) (m : Media) : Prop :=
  ∀ i, i < 16 → (t i).isSome = (m.namespaces i).active

theorem resources_update (t : StorageTable) {i : Nat} (hi : i < 16) (o : Option StorageObjects) :
    (StorageTable.resources (Function.update t i o) ++ slotResources (t i)).Perm
      (t.resources ++ slotResources o) := by
  have hset : (List.range 16).map (Function.update t i o) = ((List.range 16).map t).set i o := by
    refine List.ext_getElem (by simp) fun j hj hj' => ?_
    simp only [List.getElem_map, List.getElem_range, List.getElem_set, Function.update_apply,
      eq_comm (a := i)]
  have hlen : i < ((List.range 16).map t).length := by simpa using hi
  have hperm := Ledgers.flatMap_set_perm slotResources hlen o
  rw [List.getElem_map, List.getElem_range] at hperm
  rwa [StorageTable.resources, hset]

theorem StorageTable.Matches.update {t : StorageTable} {m m' : Media} (h : t.Matches m) {i : Nat}
    {o : Option StorageObjects} (ho : o.isSome = (m'.namespaces i).active)
    (hsame : ∀ j, j ≠ i → m'.namespaces j = m.namespaces j) :
    StorageTable.Matches (Function.update t i o) m' := by
  intro j hj
  rcases eq_or_ne j i with rfl | hne
  · rw [Function.update_self, ho]
  · rw [Function.update_of_ne hne, hsame j hne]
    exact h j hj

section Table

variable {t : StorageTable} {m : Media} {l : Ledger StorageObject}
  {others : List (Resource StorageObject)}

/-- What a request for namespaces keeps of one table and the ledger. -/
structure TableKept (r : StorageTable × Ledger StorageObject) (m : Media)
    (others : List (Resource StorageObject)) : Prop where
  fits : r.1.Matches m
  owns : OwnsFlat r.2 (r.1.resources ++ others)

/-- The slot that a creation fills is active exactly if the storage could be created. -/
theorem createNamespace_slot (cfg : Config) (os : Os) {c : NamespaceConfig}
    (hcheck : checkNamespaceConfig c = .ok ()) (hroom : ¬ m.namespaceCount ≥ 16) {i : Nat}
    (hfind : ((List.range 16).find? fun i => !(m.namespaces i).active) = some i) :
    (((vnvmeHandleCreateNamespace cfg m os c).2.2.1.namespaces i).active =
        (vnvmeStorageCreate os (chooseStorage cfg c.sparse).1
          (c.totalBlocks * c.effectiveBlockSize.toUInt64) c.effectiveBlockSize
          (chooseStorage cfg c.sparse).2).1.ntSuccess) ∧
      ∀ j, j ≠ i →
        (vnvmeHandleCreateNamespace cfg m os c).2.2.1.namespaces j = m.namespaces j := by
  have hcreated := storageCreate_success_iff os (chooseStorage cfg c.sparse).1
    (c.totalBlocks * c.effectiveBlockSize.toUInt64) c.effectiveBlockSize
    (chooseStorage cfg c.sparse).2
  unfold vnvmeHandleCreateNamespace
  simp only [hcheck, if_neg hroom, hfind]
  generalize vnvmeStorageCreate os _ _ _ _ = r at hcreated ⊢
  obtain ⟨status, storage, os'⟩ := r
  cases storage with
  | none =>
      have hfails : status.ntSuccess = false := hcreated
      rw [hfails]
      cases status with
      | success => cases hfails
      | _ => exact ⟨by simp, fun j hj => Function.update_of_ne hj _ _⟩
  | some st =>
      obtain rfl : status = .success := by simpa [NtStatus.ntSuccess] using hcreated
      exact ⟨by simp [NtStatus.ntSuccess], fun j hj => Function.update_of_ne hj _ _⟩

/-- A creation that gets no storage changes nothing but the content of a free slot. -/
theorem createNamespaceObjects_kept (h : TableKept (t, l) m others) (cfg : Config) (os : Os)
    (c : NamespaceConfig) :
    TableKept (createNamespaceObjects cfg m os c t l) (vnvmeHandleCreateNamespace cfg m os c).2.2.1
      others := by
  cases hcheck : checkNamespaceConfig c with
  | error status =>
      simp only [createNamespaceObjects, vnvmeHandleCreateNamespace, hcheck]
      exact h
  | ok _ =>
      by_cases hfull : m.namespaceCount ≥ 16
      · simp only [createNamespaceObjects, vnvmeHandleCreateNamespace, hcheck, if_pos hfull]
        exact h
      · cases hfind : (List.range 16).find? fun i => !(m.namespaces i).active with
        | none =>
            simp only [createNamespaceObjects, vnvmeHandleCreateNamespace, hcheck, if_neg hfull,
              hfind]
            exact h
        | some i =>
            have hlowest := lowestFree_of_find hfind
            have hinactive : (m.namespaces i).active = false := by
              simpa using (List.find?_range_eq_some.mp hfind).1
            -- the slot that is cleared names nothing
            have hnone : t i = none := by
              simpa [hinactive] using h.fits i hlowest.lt
            obtain ⟨hslot, hsame⟩ := createNamespace_slot cfg os hcheck hfull hfind
            have hsome := storageCreateObjects_isSome os (chooseStorage cfg c.sparse).1
              (c.totalBlocks * c.effectiveBlockSize.toUInt64) c.effectiveBlockSize
              (chooseStorage cfg c.sparse).2 l
            have howns := storageCreateObjects_owns h.owns os (chooseStorage cfg c.sparse).1
              (c.totalBlocks * c.effectiveBlockSize.toUInt64) (chooseStorage cfg c.sparse).2
            simp only [createNamespaceObjects, hcheck, if_neg hfull, hfind]
            generalize vnvmeStorageCreateObjects os _ _ _ l = r at hsome howns ⊢
            refine ⟨h.fits.update (hsome.trans hslot.symm) hsame, howns.of_perm ?_⟩
            have hperm := (resources_update t hlowest.lt r.1).symm
            rw [hnone, slotResources_none, List.append_nil] at hperm
            rw [← List.append_assoc]
            exact (List.perm_append_comm.trans hperm).append_right others

theorem deleteNamespaceObjects_kept (h : TableKept (t, l) m others) (nsid : UInt32) :
    TableKept (deleteNamespaceObjects m nsid t l) (vnvmeHandleDeleteNamespace m nsid).2
      others := by
  unfold deleteNamespaceObjects vnvmeHandleDeleteNamespace
  dsimp only
  split_ifs with hrange hinactive
  · exact h
  · exact h
  · have hlt : nsid.toNat - 1 < 16 := by
      have hle := UInt32.le_iff_toNat_le.mp (UInt32.not_lt.mp (not_or.mp hrange).2)
      have : (16 : UInt32).toNat = 16 := rfl
      omega
    have hactive : (m.namespaces (nsid.toNat - 1)).active = true := by simpa using hinactive
    obtain ⟨st, hst⟩ : ∃ st, t (nsid.toNat - 1) = some st :=
      Option.isSome_iff_exists.mp ((h.fits _ hlt).trans hactive)
    rw [hst]
    refine ⟨h.fits.update (by simp) fun j hj => Function.update_of_ne hj _ _, ?_⟩
    have hperm := (resources_update t hlt none).symm
    rw [hst, slotResources_none, List.append_nil, slotResources_some] at hperm
    refine storageDestroyObjects_owns (h.owns.of_perm ?_)
    rw [← List.append_assoc]
    exact (hperm.trans List.perm_append_comm).append_right others

end Table

theorem resources_eq_nil_iff {t : StorageTable} {m : Media} (h : t.Matches m) :
    t.resources = [] ↔ m.activeSlots = ∅ := by
  have hslot : ∀ o, slotResources o = [] ↔ o.isSome = false := by
    rintro (_ | ⟨_ | _⟩)
    · exact iff_of_true rfl rfl
    · exact iff_of_false (by simp [StorageObjects.resources]) (by simp)
    · exact iff_of_false (by simp [StorageObjects.resources]) (by simp)
  rw [StorageTable.resources, List.flatMap_eq_nil_iff, Finset.eq_empty_iff_forall_notMem]
  simp only [List.forall_mem_map, List.mem_range, hslot, mem_activeSlots, not_and,
    Bool.not_eq_true]
  exact forall₂_congr fun i hi => by rw [h i hi]

/-! ## The bus -/

/-- What the namespaces of all controllers hold. -/
def StorageDevice.held (s : StorageDevice) : List (Resource StorageObject) :=
  s.storages.flatMap StorageTable.resources

def StorageDevice.of (d : BusDevice) (r : List StorageTable × Ledger StorageObject) :
    StorageDevice :=
  { toBusDevice := d, storages := r.1, storageObjects := r.2 }

/-- One step of the bus device, with the storage objects. -/
def storageStep (s : StorageDevice) : DeviceEvent → StorageDevice
  | .control request =>
    if s.controlQueue then
      .of (vnvmeEvtIoDeviceControl s.toBusDevice request).2 (s.handleObjects request)
    else s
  | e => { s with toBusDevice := deviceStep s.toBusDevice e }

/-- The place of the controller that a request deletes. -/
def deletedAt (d : BusDevice) : DeviceEvent → Option Nat
  | .control (.deleteController request) =>
    if d.controlQueue && !(d.fdo.isNone ∨ (request.inputError 8).isSome : Bool) then
      ctrlDevFindController d.toBus request.input.controllerId
    else none
  | _ => none

/-- What that controller still holds. -/
def leakedBy (s : StorageDevice) (e : DeviceEvent) : List (Resource StorageObject) :=
  match deletedAt s.toBusDevice e with
  | none => []
  | some k => (s.table k).resources

/-- What is out: the objects of the namespaces, and what has leaked. -/
structure StoragesAccounted (s : StorageDevice) (leaked : List (Resource StorageObject)) :
    Prop where
  length : s.storages.length = s.controllers.length
  fits : ∀ k, (s.table k).Matches (s.media k)
  owns : OwnsFlat s.storageObjects (s.held ++ leaked)

section Steps

variable {s : StorageDevice} {leaked : List (Resource StorageObject)}

theorem StoragesAccounted.of_controllers (h : StoragesAccounted s leaked) {d : BusDevice}
    (hsame : d.controllers = s.controllers) :
    StoragesAccounted (.of d (s.storages, s.storageObjects)) leaked := by
  refine ⟨h.length.trans (congrArg List.length hsame).symm, fun k => ?_, h.owns⟩
  have hmedia : d.media k = s.media k := by
    rw [Bus.media, Bus.media, hsame]
  show (s.table k).Matches (d.media k)
  rw [hmedia]
  exact h.fits k

/-- The table at place `k` and the namespaces there are replaced. -/
theorem StoragesAccounted.replace (h : StoragesAccounted s leaked) {k : Nat}
    (hk : k < s.controllers.length) {m : Media}
    {f : StorageTable → Ledger StorageObject → StorageTable × Ledger StorageObject}
    (hkept : ∀ others, TableKept (s.table k, s.storageObjects) (s.media k) others →
      TableKept (f (s.table k) s.storageObjects) m others) (os : Os) :
    StoragesAccounted
      (.of { s.toBusDevice with toBus := { s.setMedia k m with os := os } }
        (s.storages.set k (f (s.table k) s.storageObjects).1,
          (f (s.table k) s.storageObjects).2)) leaked := by
  have hk' : k < s.storages.length := h.length ▸ hk
  have hget : s.storages[k] = s.table k := by
    rw [StorageDevice.table, List.getD_eq_getElem?_getD, List.getElem?_eq_getElem hk']
    rfl
  generalize hr : f (s.table k) s.storageObjects = r at hkept ⊢
  -- the others are the tables at the other places and what has leaked
  have hheld : (s.storages.flatMap StorageTable.resources).Perm
      ((s.table k).resources ++ (s.storages.eraseIdx k).flatMap StorageTable.resources) := by
    have := Ledgers.flatMap_eraseIdx_perm StorageTable.resources hk'
    rw [hget] at this
    exact this.symm.trans List.perm_append_comm
  obtain ⟨hfits, howns⟩ := hkept
    ((s.storages.eraseIdx k).flatMap StorageTable.resources ++ leaked)
    ⟨h.fits k, h.owns.of_perm (by
      rw [StorageDevice.held, ← List.append_assoc]
      exact hheld.append_right leaked)⟩
  refine ⟨?_, fun j => ?_, howns.of_perm ?_⟩
  · show (s.storages.set k r.1).length = (s.controllers.modify k _).length
    rw [List.length_set, List.length_modify]
    exact h.length
  · have hmedia : (s.setMedia k m).media j = if j = k then m else s.media j :=
      media_setMedia hk m j
    have htable : (s.storages.set k r.1).getD j noStorages =
        if j = k then r.1 else s.table j := by
      rw [List.getD_eq_getElem?_getD, List.getElem?_set]
      split_ifs with hkj hjk hjk
      · rfl
      · exact absurd hkj.symm hjk
      · exact absurd hjk.symm hkj
      · rw [StorageDevice.table, List.getD_eq_getElem?_getD]
    show ((s.storages.set k r.1).getD j noStorages).Matches ((s.setMedia k m).media j)
    rw [htable, hmedia]
    split_ifs
    · exact hfits
    · exact h.fits j
  · rw [← List.append_assoc]
    refine List.Perm.append_right leaked ?_
    have hset := (List.set_perm_cons_eraseIdx hk' r.1).flatMap_right StorageTable.resources
    rw [List.flatMap_cons] at hset
    exact hset.symm

theorem bufferError_fails {α : Type} {request : Ioctl α} {inputSize outputSize : Nat}
    {status : NtStatus} (h : request.bufferError inputSize outputSize = some status) :
    status.ntSuccess = false := by
  unfold Ioctl.bufferError at h
  split_ifs at h with hlength hinput houtput
  · obtain rfl := Option.some.inj h
    rfl
  · obtain rfl := Option.some.inj h
    simpa using hinput
  · obtain rfl := Option.some.inj h
    simpa using houtput

/-- A creation that succeeds lists one more controller, with a context that is all zero. -/
theorem createVirtualController_list (controllerId : UInt32) (pdoStatus : NtStatus)
    (s : ChildDevices) :
    ((vnvmeCreateVirtualController controllerId pdoStatus s).1.ntSuccess = true ∧
      (vnvmeCreateVirtualController controllerId pdoStatus s).2.list =
        s.list ++ [{ controllerId := controllerId }]) ∨
    ((vnvmeCreateVirtualController controllerId pdoStatus s).1.ntSuccess = false ∧
      (vnvmeCreateVirtualController controllerId pdoStatus s).2.list = s.list) := by
  unfold vnvmeCreateVirtualController createControllerCheck
  split_ifs
  · exact .inr ⟨rfl, rfl⟩
  · exact .inr ⟨rfl, rfl⟩
  · cases hstatus : pdoStatus.ntSuccess with
    | true =>
        obtain rfl : pdoStatus = .success := by simpa [NtStatus.ntSuccess] using hstatus
        exact .inl (by simp [createControllerFinish, NtStatus.ntSuccess])
    | false => exact .inr (by simp [createControllerFinish, hstatus])

theorem createController_controllers (d : BusDevice) (request : Ioctl Unit) (pdoStatus : NtStatus) :
    ((vnvmeHandleCreateController request pdoStatus d).1.ntSuccess = true ∧
      ∃ controllerId, (vnvmeHandleCreateController request pdoStatus d).2.2.controllers =
        d.controllers ++ [{ controllerId := controllerId }]) ∨
    ((vnvmeHandleCreateController request pdoStatus d).1.ntSuccess = false ∧
      (vnvmeHandleCreateController request pdoStatus d).2.2.controllers = d.controllers) := by
  have hcreate := createVirtualController_list d.nextControllerId pdoStatus
    { d with nextControllerId := d.nextControllerId + 1 : BusDevice }.childDevices
  unfold vnvmeHandleCreateController
  split
  · exact .inr ⟨rfl, rfl⟩
  · cases hbuffers : request.bufferError 624 404 with
    | some status => exact .inr ⟨bufferError_fails hbuffers, rfl⟩
    | none =>
        dsimp only
        rcases hcreate with ⟨hok, hlist⟩ | ⟨hfails, hlist⟩
        · rw [hok]
          exact .inl ⟨rfl, _, hlist⟩
        · rw [hfails]
          exact .inr ⟨hfails, hlist⟩

/-- A new controller has no namespaces and no storage. -/
theorem StoragesAccounted.append (h : StoragesAccounted s leaked) {d : BusDevice} {id : UInt32}
    (hlist : d.controllers = s.controllers ++ [{ controllerId := id }]) :
    StoragesAccounted (.of d (s.storages ++ [noStorages], s.storageObjects)) leaked := by
  refine ⟨?_, fun k => ?_, ?_⟩
  · show (s.storages ++ [noStorages]).length = d.controllers.length
    rw [hlist, List.length_append, List.length_append, h.length]
    rfl
  · have hold := h.fits k
    show ((s.storages ++ [noStorages]).getD k noStorages).Matches (d.controllers.getD k {}).toMedia
    unfold StorageDevice.table Bus.media at hold
    simp only [List.getD_eq_getElem?_getD, hlist, List.getElem?_append, h.length] at hold ⊢
    split_ifs
    · exact hold
    · cases hk : k - s.controllers.length with
      | zero => exact fun i hi => rfl
      | succ j => exact fun i hi => rfl
  · have hheld : (s.storages ++ [noStorages]).flatMap StorageTable.resources = s.held := by
      rw [List.flatMap_append, StorageDevice.held]
      exact List.append_nil _
    show OwnsFlat s.storageObjects ((s.storages ++ [noStorages]).flatMap _ ++ leaked)
    rw [hheld]
    exact h.owns

/-- A controller that is deleted takes its storages along. -/
theorem StoragesAccounted.erase (h : StoragesAccounted s leaked) {k : Nat}
    (hk : k < s.controllers.length) {d : BusDevice}
    (hlist : d.controllers = s.controllers.eraseIdx k) :
    StoragesAccounted (.of d (s.storages.eraseIdx k, s.storageObjects))
      ((s.table k).resources ++ leaked) := by
  have hk' : k < s.storages.length := h.length ▸ hk
  refine ⟨?_, fun j => ?_, h.owns.of_perm ?_⟩
  · show (s.storages.eraseIdx k).length = d.controllers.length
    rw [hlist, List.length_eraseIdx_of_lt hk', List.length_eraseIdx_of_lt hk, h.length]
  · have hold := h.fits
    show ((s.storages.eraseIdx k).getD j noStorages).Matches (d.controllers.getD j {}).toMedia
    unfold StorageDevice.table Bus.media at hold
    simp only [List.getD_eq_getElem?_getD, hlist, List.getElem?_eraseIdx] at hold ⊢
    split_ifs
    · exact hold j
    · exact hold (j + 1)
  · have hget : s.storages[k] = s.table k := by
      rw [StorageDevice.table, List.getD_eq_getElem?_getD, List.getElem?_eq_getElem hk']
      rfl
    have hperm := Ledgers.flatMap_eraseIdx_perm StorageTable.resources hk'
    rw [hget] at hperm
    rw [← List.append_assoc]
    exact hperm.symm.append_right leaked

theorem StoragesAccounted.createController (h : StoragesAccounted s leaked)
    (request : Ioctl Unit) (pdoStatus : NtStatus) :
    StoragesAccounted
      (.of (vnvmeHandleCreateController request pdoStatus s.toBusDevice).2.2
        (s.handleObjects (.createController request pdoStatus))) leaked := by
  rw [StorageDevice.handleObjects]
  rcases createController_controllers s.toBusDevice request pdoStatus with
    ⟨hok, id, hlist⟩ | ⟨hfails, hlist⟩
  · rw [if_pos hok]
    exact h.append hlist
  · rw [if_neg (by rw [hfails]; exact Bool.false_ne_true)]
    exact h.of_controllers hlist

/-- Where the storages leak. -/
theorem StoragesAccounted.deleteController (h : StoragesAccounted s leaked)
    (hrunning : s.controlQueue = true) (request : Ioctl DeleteControllerInput) :
    StoragesAccounted
      (.of (vnvmeHandleDeleteController request s.toBusDevice).2
        (s.handleObjects (.deleteController request)))
      (leakedBy s (.control (.deleteController request)) ++ leaked) := by
  have hquiet : StoragesAccounted (.of s.toBusDevice (s.storages, s.storageObjects)) leaked :=
    h.of_controllers rfl
  by_cases hrefused : s.fdo.isNone ∨ (request.inputError 8).isSome
  · have hstatus : (vnvmeHandleDeleteController request s.toBusDevice).2 = s.toBusDevice := by
      unfold vnvmeHandleDeleteController
      cases hfdo : s.fdo with
      | none => rfl
      | some fdo =>
          obtain ⟨status, herror⟩ := Option.isSome_iff_exists.mp
            (hrefused.resolve_left (by simp [hfdo]))
          rw [herror]
    simp only [StorageDevice.handleObjects, hstatus, leakedBy, deletedAt,
      hrefused, decide_true, Bool.not_true, Bool.and_false, Bool.false_eq_true, if_false,
      List.nil_append]
    exact hquiet
  · obtain ⟨hfdo, herror⟩ := not_or.mp hrefused
    obtain ⟨fdo, hfdo⟩ := Option.ne_none_iff_exists'.mp (by simpa using hfdo)
    have herror : request.inputError 8 = none := by simpa using herror
    have herase : s.controllers.eraseP (·.controllerId = request.input.controllerId) =
        match ctrlDevFindController s.toBus request.input.controllerId with
        | none => s.controllers
        | some k => s.controllers.eraseIdx k := List.eraseP_eq_eraseIdx
    have hlist : (vnvmeHandleDeleteController request s.toBusDevice).2.controllers =
        s.controllers.eraseP (·.controllerId = request.input.controllerId) := by
      simp only [vnvmeHandleDeleteController, hfdo, herror]
      unfold vnvmeDeleteVirtualController
      split_ifs with hany
      · rfl
      · refine (List.eraseP_of_forall_not fun pdo hpdo hid => hany ?_).symm
        exact List.any_eq_true.mpr ⟨pdo, hpdo, hid⟩
    simp only [StorageDevice.handleObjects, leakedBy, deletedAt, hrunning,
      hrefused, decide_false, Bool.not_false, Bool.and_true, if_true]
    cases hfind : ctrlDevFindController s.toBus request.input.controllerId with
    | none =>
        rw [hfind] at herase
        exact h.of_controllers (hlist.trans herase)
    | some k =>
        rw [hfind] at herase
        exact h.erase (ctrlDevFindController_lt hfind) (hlist.trans herase)

/-- The handlers check the buffers as the others do. -/
theorem createNamespaceRequest_bus (request : Ioctl CreateNamespaceInput) (b : Bus) :
    (handleCreateNamespaceRequest request b).2 =
      if b.fdo.isNone ∨ (request.bufferError 284 8).isSome then b
      else
        match ctrlDevFindController b request.input.controllerId with
        | none => b
        | some k =>
          let r := vnvmeHandleCreateNamespace b.config (b.media k) b.os request.input.config
          { b.setMedia k r.2.2.1 with os := r.2.2.2 } := by
  unfold handleCreateNamespaceRequest Ioctl.bufferError
  cases b.fdo with
  | none => rfl
  | some fdo =>
      by_cases hin : request.inputBufferLength < 284
      · simp [hin]
      · by_cases hout : request.outputBufferLength < 8
        · simp [hin, hout]
        · by_cases hi : request.inputStatus.ntSuccess = true
          · by_cases ho : request.outputStatus.ntSuccess = true
            · simp only [hin, hout, hi, ho]
              cases ctrlDevFindController b request.input.controllerId with
              | none => simp
              | some k =>
                  dsimp only
                  split_ifs <;> simp_all
            · simp [hin, hout, hi, ho]
          · simp [hin, hout, hi]

theorem deleteNamespaceRequest_bus (request : Ioctl DeleteNamespaceInput) (b : Bus) :
    (handleDeleteNamespaceRequest request b).2 =
      if b.fdo.isNone ∨ (request.inputError 8).isSome then b
      else
        match ctrlDevFindController b request.input.controllerId with
        | none => b
        | some k =>
          b.setMedia k (vnvmeHandleDeleteNamespace (b.media k) request.input.nsid).2 := by
  unfold handleDeleteNamespaceRequest Ioctl.inputError
  cases b.fdo with
  | none => rfl
  | some fdo =>
      by_cases hin : request.inputBufferLength < 8
      · simp [hin]
      · by_cases hi : request.inputStatus.ntSuccess = true
        · simp only [hin, hi]
          cases ctrlDevFindController b request.input.controllerId <;> simp
        · simp [hin, hi]

theorem StoragesAccounted.createNamespace (h : StoragesAccounted s leaked)
    (request : Ioctl CreateNamespaceInput) :
    StoragesAccounted
      (.of { s.toBusDevice with toBus := (handleCreateNamespaceRequest request s.toBus).2 }
        (s.handleObjects (.createNamespace request))) leaked := by
  rw [createNamespaceRequest_bus, StorageDevice.handleObjects]
  split_ifs
  · exact h.of_controllers rfl
  · cases hfind : ctrlDevFindController s.toBus request.input.controllerId with
    | none => exact h.of_controllers rfl
    | some k =>
        exact h.replace (ctrlDevFindController_lt hfind)
          (fun others hkept => createNamespaceObjects_kept hkept _ _ _) _

theorem StoragesAccounted.deleteNamespace (h : StoragesAccounted s leaked)
    (request : Ioctl DeleteNamespaceInput) :
    StoragesAccounted
      (.of { s.toBusDevice with toBus := (handleDeleteNamespaceRequest request s.toBus).2 }
        (s.handleObjects (.deleteNamespace request))) leaked := by
  rw [deleteNamespaceRequest_bus, StorageDevice.handleObjects]
  split_ifs
  · exact h.of_controllers rfl
  · cases hfind : ctrlDevFindController s.toBus request.input.controllerId with
    | none => exact h.of_controllers rfl
    | some k =>
        exact h.replace (ctrlDevFindController_lt hfind)
          (fun others hkept => deleteNamespaceObjects_kept hkept _) s.os

theorem StoragesAccounted.handle (h : StoragesAccounted s leaked) (hrunning : s.controlQueue = true)
    (request : DeviceControl) :
    StoragesAccounted
      (.of (vnvmeEvtIoDeviceControl s.toBusDevice request).2 (s.handleObjects request))
      (leakedBy s (.control request) ++ leaked) := by
  cases hconfigures : request.configures with
  | false =>
      have hkept := h.of_controllers
        (vnvmeEvtIoDeviceControl_sameControllers s.toBusDevice hconfigures).controllers
      cases request with
      | createController => cases hconfigures
      | deleteController => cases hconfigures
      | createNamespace => cases hconfigures
      | deleteNamespace => cases hconfigures
      | _ => exact hkept
  | true =>
      cases request with
      | createController request pdoStatus => exact h.createController request pdoStatus
      | deleteController request => exact h.deleteController hrunning request
      | createNamespace request => exact h.createNamespace request
      | deleteNamespace request => exact h.deleteNamespace request
      | _ => cases hconfigures

theorem StoragesAccounted.rest (h : StoragesAccounted s leaked) {b : Bus}
    (hkeeps : KeepsTables s.toBusDevice (.rest b)) :
    StoragesAccounted (storageStep s (.rest b)) leaked := by
  have hkeeps : List.Forall₂ SameTable s.controllers b.controllers := hkeeps
  refine ⟨h.length.trans hkeeps.length_eq, fun k i hi => ?_, h.owns⟩
  refine (h.fits k i hi).trans ?_
  show ((s.controllers.getD k {}).toMedia.namespaces i).active =
    ((b.controllers.getD k {}).toMedia.namespaces i).active
  rw [List.getD_eq_getElem?_getD, List.getD_eq_getElem?_getD]
  by_cases hk : k < s.controllers.length
  · have hk' : k < b.controllers.length := hkeeps.length_eq ▸ hk
    rw [List.getElem?_eq_getElem hk, List.getElem?_eq_getElem hk']
    exact ((hkeeps.get hk hk').namespaces i).active.symm
  · have hk' : b.controllers.length ≤ k := hkeeps.length_eq ▸ Nat.not_lt.mp hk
    rw [List.getElem?_eq_none (Nat.not_lt.mp hk), List.getElem?_eq_none hk']

/-- One step, with what it leaks. -/
theorem storageStep_accounted (h : StoragesAccounted s leaked) {e : DeviceEvent}
    (hkeeps : KeepsTables s.toBusDevice e) :
    StoragesAccounted (storageStep s e) (leakedBy s e ++ leaked) := by
  cases e with
  | prepareHardware allocated => cases allocated <;> exact h.of_controllers rfl
  | releaseHardware process =>
      exact h.of_controllers ((closeUserEvent_sameControllers s.toBusDevice process).trans
        (freeShm_sameControllers _ process)).controllers
  | d0Exit => exact h.of_controllers rfl
  | processExit process => exact h.of_controllers rfl
  | rest b => exact h.rest hkeeps
  | control request =>
      unfold storageStep
      split_ifs with hrunning
      · exact h.handle hrunning request
      · have hnone : leakedBy s (.control request) = [] := by
          cases request <;> simp [leakedBy, deletedAt, hrunning]
        rw [hnone]
        exact h

theorem storageStep_toBusDevice (s : StorageDevice) (e : DeviceEvent) :
    (storageStep s e).toBusDevice = deviceStep s.toBusDevice e := by
  cases e with
  | control request =>
      simp only [storageStep, deviceStep, BusDevice.deviceControl]
      split_ifs <;> rfl
  | _ => rfl

end Steps

/-! ## Runs -/

/-- What a run leaks. -/
def leaked : StorageDevice → List DeviceEvent → List (Resource StorageObject)
  | _, [] => []
  | s, e :: es => leaked (storageStep s e) es ++ leakedBy s e

/-- A controller is deleted only without namespaces. -/
def DeletesEmpty (s : StorageDevice) (e : DeviceEvent) : Prop :=
  ∀ k ∈ deletedAt s.toBusDevice e, (s.media k).activeSlots = ∅

theorem leakedBy_eq_nil_iff {s : StorageDevice} {out : List (Resource StorageObject)}
    (h : StoragesAccounted s out) (e : DeviceEvent) : leakedBy s e = [] ↔ DeletesEmpty s e := by
  unfold leakedBy DeletesEmpty
  cases deletedAt s.toBusDevice e with
  | none => simp
  | some k => simp [resources_eq_nil_iff (h.fits k)]

theorem storages_run {s : StorageDevice} {out : List (Resource StorageObject)}
    (h : StoragesAccounted s out) {es : List DeviceEvent}
    (hkeeps : EachStep deviceStep KeepsTables s.toBusDevice es) :
    StoragesAccounted (run storageStep s es) (leaked s es ++ out) ∧
      (leaked s es = [] ↔ EachStep storageStep DeletesEmpty s es) := by
  induction es generalizing s out with
  | nil => exact ⟨h, iff_of_true rfl eachStep_nil⟩
  | cons e es ih =>
      obtain ⟨hstep, hrest⟩ := eachStep_cons.mp hkeeps
      rw [← storageStep_toBusDevice] at hrest
      obtain ⟨haccounted, hiff⟩ := ih (storageStep_accounted h hstep) hrest
      refine ⟨?_, ?_⟩
      · show StoragesAccounted _ (leaked (storageStep s e) es ++ leakedBy s e ++ out)
        rw [List.append_assoc]
        exact haccounted
      · rw [leaked, List.append_eq_nil_iff, eachStep_cons, hiff, leakedBy_eq_nil_iff h, and_comm]

/-- The bus device as it is added. -/
def StorageDevice.added (config : Config) (g : VnvmeConfig) (startTime : Int) : StorageDevice :=
  { toBusDevice := .added config g startTime }

/-- Over any run of the bus device, the pool memory and the file handles that are out are
exactly those of the listed controllers' namespaces and those that controllers held when they
were deleted. Nothing is given back twice, and nothing leaks exactly if each controller that is
deleted has no namespaces left. -/
theorem storages_accounted (config : Config) (g : VnvmeConfig) (startTime : Int)
    (es : List DeviceEvent)
    (hkeeps : EachStep deviceStep KeepsTables (.added config g startTime) es) :
    StoragesAccounted (run storageStep (.added config g startTime) es)
        (leaked (.added config g startTime) es) ∧
      (leaked (.added config g startTime) es = [] ↔
        EachStep storageStep DeletesEmpty (.added config g startTime) es) := by
  have hstart : StoragesAccounted (.added config g startTime) [] :=
    ⟨rfl, fun k i hi => rfl, OwnsFlat.empty⟩
  obtain ⟨haccounted, hiff⟩ := storages_run hstart hkeeps
  rw [List.append_nil] at haccounted
  exact ⟨haccounted, hiff⟩

/-- A controller with two namespaces, of which one is deleted before the controller is. -/
def deletedWithNamespace : List DeviceEvent :=
  [createRequest,
    .createNamespace
      { inputBufferLength := 284, outputBufferLength := 8
        input := { controllerId := 1, config := { totalBlocks := 8, blockSize := 512 } } },
    .createNamespace
      { inputBufferLength := 284, outputBufferLength := 8
        input := { controllerId := 1, config := { totalBlocks := 8, blockSize := 4096 } } },
    .deleteNamespace { inputBufferLength := 8, input := { controllerId := 1, nsid := 1 } },
    .deleteController { inputBufferLength := 8, input := { controllerId := 1 } }].map .control

theorem storages_accounted_deletedWithNamespace :
    (StoragesAccounted (run storageStep (.added .allQueues {} 0) deletedWithNamespace)
        (leaked (.added .allQueues {} 0) deletedWithNamespace) ∧
      (leaked (.added .allQueues {} 0) deletedWithNamespace = [] ↔
        EachStep storageStep DeletesEmpty (.added .allQueues {} 0) deletedWithNamespace)) ∧
    leaked (.added .allQueues {} 0) deletedWithNamespace =
      [⟨.memoryBuffer, 3, none⟩, ⟨.context, 2, none⟩] :=
  ⟨storages_accounted .allQueues {} 0 deletedWithNamespace keepsTables_of_control, by decide⟩

end VirtualNvme
