import VirtualNvme.Driver.IoDeviceControl

/-!
# The kernel objects behind the namespaces

A storage context is pool memory that names more of it: the buffer of a memory backend, or the
path and the handle of a file backend. The functions of `storage.c`, `storage_memory.c` and
`storage_file.c` that create and destroy a context are given here once more on the kernel's
ledger, with the same calls in the same order, and with them the requests that use them.
-/

namespace VirtualNvme

open Ledgers (Ledger Resource)

inductive StorageObject where
  | context
  | memoryBuffer
  | filePath
  | fileHandle
  deriving Repr, DecidableEq

/-- The objects of one `VNVME_STORAGE_CONTEXT`; a sparse file has those of a file. -/
inductive StorageObjects where
  | memory (context memoryBuffer : Nat)
  | file (context filePath fileHandle : Nat)
  deriving Repr, DecidableEq

def StorageObjects.resources : StorageObjects → List (Resource StorageObject)
  | .memory context memoryBuffer =>
    [⟨.memoryBuffer, memoryBuffer, none⟩, ⟨.context, context, none⟩]
  | .file context filePath fileHandle =>
    [⟨.fileHandle, fileHandle, none⟩, ⟨.filePath, filePath, none⟩, ⟨.context, context, none⟩]

/-- `StorageMemoryInit` -/
def storageMemoryInitObjects (os : Os) (totalBytes : UInt64) (context : Nat)
    (l : Ledger StorageObject) : Option StorageObjects × Ledger StorageObject :=
  if totalBytes > vnvmeMaxMemoryBackendSize then (none, l)
  else if (os.call .allocatePool).1 then
    let (memoryBuffer, l) := l.acquire .memoryBuffer none
    (some (.memory context memoryBuffer), l)
  else (none, l)

/-- `StorageFileInit`, and `StorageSparseInit` if `sparse`. -/
def storageFileInitObjects (sparse : Bool) (os : Os) (context : Nat)
    (l : Ledger StorageObject) : Option StorageObjects × Ledger StorageObject :=
  let (allocated, os) := os.call .allocatePool
  if !allocated then (none, l)
  else
    let (filePath, l) := l.acquire .filePath none
    let (opened, os) := os.call .createFile
    if !opened then (none, l.release .filePath filePath)
    else
      let (fileHandle, l) := l.acquire .fileHandle none
      let os := if sparse then (os.call .fsControlFile).2 else os
      if !(os.call .setInformationFile).1 then
        (none, (l.release .fileHandle fileHandle).release .filePath filePath)
      else (some (.file context filePath fileHandle), l)

/-- The end of `VnvmeStorageCreate`: without a backend the context is freed. -/
def storageCreateFinish (context : Nat) (r : Option StorageObjects × Ledger StorageObject) :
    Option StorageObjects × Ledger StorageObject :=
  if r.1.isNone then (none, r.2.release .context context) else r

/-- `VnvmeStorageCreate` -/
def vnvmeStorageCreateObjects (os : Os) (type : StorageType) (totalBytes : UInt64)
    (filePath : Option (List UInt16)) (l : Ledger StorageObject) :
    Option StorageObjects × Ledger StorageObject :=
  let (ok, os) := os.call .allocatePool
  if !ok then (none, l)
  else
    let (context, l) := l.acquire .context none
    storageCreateFinish context
      (match type, filePath with
      | .memory, _ => storageMemoryInitObjects os totalBytes context l
      | .file, some _ => storageFileInitObjects false os context l
      | .sparse, some _ => storageFileInitObjects true os context l
      | .file, none => (none, l)
      | .sparse, none => (none, l)
      | .none, _ => (none, l))

/-- `VnvmeStorageDestroy`, with `StorageMemoryCleanup` and `StorageFileCleanup`. -/
def vnvmeStorageDestroyObjects (l : Ledger StorageObject) :
    StorageObjects → Ledger StorageObject
  | .memory context memoryBuffer =>
    (l.release .memoryBuffer memoryBuffer).release .context context
  | .file context filePath fileHandle =>
    ((l.release .fileHandle fileHandle).release .filePath filePath).release .context context

/-- The `Storage` fields of one namespace table. -/
abbrev StorageTable := Nat → Option StorageObjects

def noStorages : StorageTable := fun _ => none

/-- `VnvmeHandleCreateNamespace`: the free slot that it finds is cleared, with its `Storage`, and
gets the new context. -/
def createNamespaceObjects (cfg : Config) (m : Media) (os : Os) (c : NamespaceConfig)
    (t : StorageTable) (l : Ledger StorageObject) : StorageTable × Ledger StorageObject :=
  match checkNamespaceConfig c with
  | .error _ => (t, l)
  | .ok _ =>
    if m.namespaceCount ≥ 16 then (t, l)
    else
      match (List.range 16).find? fun i => !(m.namespaces i).active with
      | none => (t, l)
      | some i =>
        let choice := chooseStorage cfg c.sparse
        let r := vnvmeStorageCreateObjects os choice.1
          (c.totalBlocks * c.effectiveBlockSize.toUInt64) choice.2 l
        (Function.update t i r.1, r.2)

/-- `VnvmeHandleDeleteNamespace` -/
def deleteNamespaceObjects (m : Media) (nsid : UInt32) (t : StorageTable)
    (l : Ledger StorageObject) : StorageTable × Ledger StorageObject :=
  if nsid = 0 ∨ nsid > 16 then (t, l)
  else
    let i := nsid.toNat - 1
    if !(m.namespaces i).active then (t, l)
    else
      match t i with
      | none => (t, l)
      | some st => (Function.update t i none, vnvmeStorageDestroyObjects l st)

/-- The bus device with the storage objects that its controllers name, in the order of their
list, and the kernel's ledger of them. -/
structure StorageDevice extends BusDevice where
  storages : List StorageTable := []
  storageObjects : Ledger StorageObject := {}

/-- The `Storage` fields of the controller at place `k`. -/
def StorageDevice.table (s : StorageDevice) (k : Nat) : StorageTable :=
  s.storages.getD k noStorages

/-- What a request that reaches its handler makes of the storage objects. A new controller's
context is zeroed, and `VnvmeDeleteControllerPdo` deletes a device without a look at its
namespaces. -/
def StorageDevice.handleObjects (s : StorageDevice) :
    DeviceControl → List StorageTable × Ledger StorageObject
  | .createController request pdoStatus =>
    if (vnvmeHandleCreateController request pdoStatus s.toBusDevice).1.ntSuccess then
      (s.storages ++ [noStorages], s.storageObjects)
    else (s.storages, s.storageObjects)
  | .deleteController request =>
    if s.fdo.isNone ∨ (request.inputError 8).isSome then (s.storages, s.storageObjects)
    else
      match ctrlDevFindController s.toBus request.input.controllerId with
      | none => (s.storages, s.storageObjects)
      | some k => (s.storages.eraseIdx k, s.storageObjects)
  | .createNamespace request =>
    if s.fdo.isNone ∨ (request.bufferError 284 8).isSome then (s.storages, s.storageObjects)
    else
      match ctrlDevFindController s.toBus request.input.controllerId with
      | none => (s.storages, s.storageObjects)
      | some k =>
        let r := createNamespaceObjects s.config (s.media k) s.os request.input.config
          (s.table k) s.storageObjects
        (s.storages.set k r.1, r.2)
  | .deleteNamespace request =>
    if s.fdo.isNone ∨ (request.inputError 8).isSome then (s.storages, s.storageObjects)
    else
      match ctrlDevFindController s.toBus request.input.controllerId with
      | none => (s.storages, s.storageObjects)
      | some k =>
        let r := deleteNamespaceObjects (s.media k) request.input.nsid (s.table k)
          s.storageObjects
        (s.storages.set k r.1, r.2)
  | _ => (s.storages, s.storageObjects)

end VirtualNvme
