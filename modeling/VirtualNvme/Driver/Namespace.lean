import VirtualNvme.Driver.Storage

/-!
# Creating and deleting namespaces

The ioctl handlers `VnvmeHandleCreateNamespace` and `VnvmeHandleDeleteNamespace` of
`ctrl_dev.c`, from the point on where the request buffers have been checked and the
controller has been found.
-/

namespace VirtualNvme

/-- `VNVME_NAMESPACE_CONFIG` -/
structure NamespaceConfig where
  totalBlocks : UInt64
  blockSize : UInt32
  flags : UInt32 := 0
  deriving Repr, DecidableEq

/-- `VNVME_NS_FLAG_READONLY` -/
def NamespaceConfig.readOnly (c : NamespaceConfig) : Bool := c.flags &&& 0x0002 ≠ 0

/-- `VNVME_NS_FLAG_SPARSE` -/
def NamespaceConfig.sparse (c : NamespaceConfig) : Bool := c.flags &&& 0x0004 ≠ 0

/-- `BlockSize ? BlockSize : 512` -/
def NamespaceConfig.effectiveBlockSize (c : NamespaceConfig) : UInt32 :=
  if c.blockSize = 0 then 512 else c.blockSize

/-- `VNVME_MAX_NAMESPACE_CAPACITY`, 16 TB -/
def vnvmeMaxNamespaceCapacity : UInt64 := 16 * 1024 * 1024 * 1024 * 1024

/-- The checks on the requested geometry. -/
def checkNamespaceConfig (c : NamespaceConfig) : Except NtStatus Unit :=
  let blockSize := c.effectiveBlockSize.toUInt64
  let totalCapacity := c.totalBlocks * blockSize
  if c.blockSize ≠ 0 ∧ c.blockSize ≠ 512 ∧ c.blockSize ≠ 4096 then .error .invalidParameter
  else if c.totalBlocks = 0 then .error .invalidParameter
  else if totalCapacity / blockSize ≠ c.totalBlocks then .error .integerOverflow
  else if totalCapacity > vnvmeMaxNamespaceCapacity then .error .invalidParameter
  else .ok ()

/-- The storage type and the path for a new namespace. Without a configured path the file
backends fall back to memory. -/
def chooseStorage (cfg : Config) (sparse : Bool) : StorageType × Option (List UInt16) :=
  let storageType := if sparse then .sparse else cfg.storageType
  match storageType with
  | .memory => (.memory, none)
  | .none => (.none, none)
  | .file => if cfg.storagePath = [] then (.memory, none) else (.file, some cfg.storagePath)
  | .sparse =>
    if cfg.storagePath = [] then (.memory, none) else (.sparse, some cfg.storagePath)

/-- `VnvmeHandleCreateNamespace`; the new namespace id is 0 unless it succeeds. -/
def vnvmeHandleCreateNamespace (cfg : Config) (m : Media) (os : Os) (c : NamespaceConfig) :
    NtStatus × UInt32 × Media × Os :=
  match checkNamespaceConfig c with
  | .error status => (status, 0, m, os)
  | .ok _ =>
    if m.namespaceCount ≥ 16 then (.quotaExceeded, 0, m, os)
    else
      match (List.range 16).find? fun i => !(m.namespaces i).active with
      | none => (.quotaExceeded, 0, m, os)
      | some i =>
        let ns : Namespace :=
          { nsId := UInt32.ofNat (i + 1)
            totalBlocks := c.totalBlocks
            blockSize := c.effectiveBlockSize
            totalBytes := c.totalBlocks * c.effectiveBlockSize.toUInt64
            readOnly := c.readOnly
            thinProvisioned := c.sparse }
        let choice := chooseStorage cfg c.sparse
        let r := vnvmeStorageCreate os choice.1 ns.totalBytes ns.blockSize choice.2
        match r.1, r.2.1 with
        | .success, some st =>
          (.success, ns.nsId,
            { m with
              namespaces := Function.update m.namespaces i
                { ns with storage := some st, active := true }
              namespaceCount := m.namespaceCount + 1 }, r.2.2)
        | status, _ =>
          (status, 0, { m with namespaces := Function.update m.namespaces i ns }, r.2.2)

/-- `VnvmeHandleDeleteNamespace` -/
def vnvmeHandleDeleteNamespace (m : Media) (nsid : UInt32) : NtStatus × Media :=
  if nsid = 0 ∨ nsid > 16 then (.invalidParameter, m)
  else
    let i := nsid.toNat - 1
    if !(m.namespaces i).active then (.notFound, m)
    else
      (.success,
        { m with
          namespaces := Function.update m.namespaces i
            { m.namespaces i with storage := none, active := false }
          namespaceCount := m.namespaceCount - 1 })

end VirtualNvme
