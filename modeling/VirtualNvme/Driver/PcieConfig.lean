import VirtualNvme.Driver.Context

/-!
# PCIe configuration space

The emulated configuration space of a controller, `pcie_config.c`: its initial contents with
the list of capabilities, and the write routine that the bus interface calls.
-/

namespace VirtualNvme

def pciVendorId : UInt32 := 0x00
def pciDeviceId : UInt32 := 0x02
def pciCommand : UInt32 := 0x04
def pciStatus : UInt32 := 0x06
def pciRevisionId : UInt32 := 0x08
def pciClassCode : UInt32 := 0x09
def pciHeaderType : UInt32 := 0x0E
def pciBar0 : UInt32 := 0x10
def pciBar1 : UInt32 := 0x14
def pciSubsystemVendorId : UInt32 := 0x2C
def pciSubsystemId : UInt32 := 0x2E
def pciCapabilityPtr : UInt32 := 0x34
def pciInterruptLine : UInt32 := 0x3C
def pciInterruptPin : UInt32 := 0x3D

def vnvmeVendorId : UInt16 := 0x1D94
def vnvmeDeviceId : UInt16 := 0x7001
def vnvmeSubsystemVid : UInt16 := 0x1D94
def vnvmeSubsystemId : UInt16 := 0x0001
def vnvmeRevisionId : UInt8 := 0x01

/-- `VNVME_PCIE_CONFIG_SIZE` -/
def vnvmePcieConfigSize : UInt32 := 4096

/-- `PcieConfig` and `PcieConfigSize` of `VNVME_PDO_CONTEXT`. -/
structure PcieContext where
  pcieConfig : Option (UInt32 → UInt8) := none
  pcieConfigSize : UInt32 := 0

/-- `*(PUSHORT)(buf + off)` -/
def readUshort (buf : UInt32 → UInt8) (off : UInt32) : UInt16 :=
  (buf off).toUInt16 ||| ((buf (off + 1)).toUInt16 <<< 8)

/-- The header that `VnvmeInitializePcieConfig` stores. -/
def initialPcieHeader (config : UInt32 → UInt8) : UInt32 → UInt8 :=
  let config := putBytes config pciVendorId (le16 vnvmeVendorId)
  let config := putBytes config pciDeviceId (le16 vnvmeDeviceId)
  let config := putBytes config pciCommand (le16 0x0000)
  let config := putBytes config pciStatus (le16 0x0010)
  let config := putBytes config pciRevisionId [vnvmeRevisionId]
  let config := putBytes config pciClassCode [0x02, 0x08, 0x01]
  let config := putBytes config pciHeaderType [0x00]
  let config := putBytes config pciBar0 (le32 0x00000004)
  let config := putBytes config pciBar1 (le32 0x00000000)
  let config := putBytes config pciSubsystemVendorId (le16 vnvmeSubsystemVid)
  let config := putBytes config pciSubsystemId (le16 vnvmeSubsystemId)
  let config := putBytes config pciCapabilityPtr [0x40]
  let config := putBytes config pciInterruptLine [0x00]
  putBytes config pciInterruptPin [0x01]

/-- The capabilities that `VnvmeInitializePcieConfig` stores: power management at 0x40, MSI at
0x50, MSI-X at 0x60 and PCI Express at 0x70, each with its id, the offset of the next one and
its registers. -/
def initialCapabilities (config : UInt32 → UInt8) : UInt32 → UInt8 :=
  let config := putBytes config 0x40 [0x01, 0x50]
  let config := putBytes config 0x42 (le16 0x0003)
  let config := putBytes config 0x44 (le16 0x0000)
  let config := putBytes config 0x46 [0x00]
  let config := putBytes config 0x47 [0x00]
  let config := putBytes config 0x50 [0x05, 0x60]
  let config := putBytes config 0x52 (le16 0x0080)
  let config := putBytes config 0x54 (le32 0x00000000)
  let config := putBytes config 0x58 (le32 0x00000000)
  let config := putBytes config 0x5C (le16 0x0000)
  let config := putBytes config 0x60 [0x11, 0x70]
  let config := putBytes config 0x62 (le16 0x001F)
  let config := putBytes config 0x64 (le32 0x00002000)
  let config := putBytes config 0x68 (le32 0x00003000)
  let config := putBytes config 0x70 [0x10, 0x00]
  let config := putBytes config 0x72 (le16 0x0002)
  let config := putBytes config 0x74 (le32 0x00008001)
  let config := putBytes config 0x78 (le16 0x0010)
  let config := putBytes config 0x7A (le16 0x0000)
  let config := putBytes config 0x7C (le32 0x00000001)
  let config := putBytes config 0x80 (le16 0x0000)
  putBytes config 0x82 (le16 0x0011)

/-- `VnvmeInitializePcieConfig` -/
def vnvmeInitializePcieConfig (p : PcieContext) : PcieContext :=
  { p with
    pcieConfig := p.pcieConfig.map fun config => initialCapabilities (initialPcieHeader config) }

/-- `VnvmeAllocatePcieConfig`, given whether there is memory for it. -/
def vnvmeAllocatePcieConfig (allocates : Bool) (p : PcieContext) : NtStatus × PcieContext :=
  if allocates then
    (.success, vnvmeInitializePcieConfig
      { p with pcieConfig := some fun _ => 0, pcieConfigSize := vnvmePcieConfigSize })
  else (.insufficientResources, p)

/-- The registers that a write starting at them does not change. -/
def readOnlyOffsets : List UInt32 :=
  [pciVendorId, pciDeviceId, pciRevisionId, pciClassCode, pciHeaderType, pciCapabilityPtr]

/-- `RtlCopyMemory(config + Offset, Buffer, Length)` -/
def copyConfig (config : UInt32 → UInt8) (offset length : UInt32) (buffer : UInt32 → UInt8) :
    UInt32 → UInt8 :=
  fun i => if offset ≤ i ∧ i - offset < length then buffer (i - offset) else config i

/-- What `VnvmeWritePcieConfig` does to the configuration space once the range is checked. -/
def writeConfig (config : UInt32 → UInt8) (offset length : UInt32) (buffer : UInt32 → UInt8) :
    UInt32 → UInt8 :=
  let value16 := readUshort buffer 0
  if offset = pciCommand ∧ length ≥ 2 then putBytes config offset (le16 (value16 &&& 0x0547))
  else if offset = 0x44 ∧ length ≥ 2 then
    -- only D0 and D3hot
    if value16 &&& 0x03 = 0 ∨ value16 &&& 0x03 = 3 then
      putBytes config offset (le16 (value16 &&& 0x8103))
    else config
  else if offset = 0x62 ∧ length ≥ 2 then
    -- the table size, the low eleven bits, is read-only
    putBytes config offset
      (le16 ((value16 &&& 0xC000) ||| (readUshort config offset &&& 0x07FF)))
  else if offset = 0x52 ∧ length ≥ 2 then putBytes config offset (le16 value16)
  else if offset ∈ readOnlyOffsets then config
  else copyConfig config offset length buffer

/-- `VnvmeWritePcieConfig`. `Offset + Length` is a 32-bit sum; what a range that wraps would
store above the first 4 GB is not modelled. -/
def vnvmeWritePcieConfig (p : PcieContext) (offset length : UInt32) (buffer : UInt32 → UInt8) :
    NtStatus × PcieContext :=
  match p.pcieConfig with
  | none => (.invalidDeviceState, p)
  | some config =>
    if offset + length > p.pcieConfigSize then (.invalidParameter, p)
    else (.success, { p with pcieConfig := some (writeConfig config offset length buffer) })

end VirtualNvme
