import VirtualNvme.ByteSpace
import VirtualNvme.Driver.Bar0
import VirtualNvme.Driver.PcieConfig

/-!
# Register accesses byte by byte

The routines of `bar0.c` and `pcie_config.c` that read and write BAR0 and the configuration space,
with every load and store that they make. `allocated` tells whether the memory of the space is
there; its size is that of its allocation. What only the arguments of a trace message read is left
out.
-/

namespace VirtualNvme.Traced

open ByteSpace WordBytes

/-! ## BAR0 -/

/-- `VnvmeReadBar0Register` -/
def vnvmeReadBar0Register (allocated : Bool) (offset : UInt32) : SpaceM UInt32 :=
  if !allocated || offset ≥ vnvmeBar0Size then return 0xFFFFFFFF
  else load32 offset.toNat

/-- `VnvmeWriteBar0Register` -/
def vnvmeWriteBar0Register (allocated : Bool) (offset value : UInt32) : SpaceM Unit :=
  if !allocated || offset ≥ vnvmeBar0Size then return ()
  else if offset ∈ [0x00, 0x04, 0x08, 0x1C, 0x38, 0x3C] then return ()
  else if offset = 0x0C then do
    store32 0x0C ((← load32 0x0C) ||| value)
  else if offset = 0x10 then do
    store32 0x0C ((← load32 0x0C) &&& ~~~value)
  else if offset = 0x14 then do
    -- the old value tells a trace message what changes
    let _oldCC ← load32 0x14
    store32 0x14 value
  else if offset = 0x20 then
    if value = nssrReset then do
      store32 0x1C 0
      store32 0x14 0
    else return ()
  else if offset = 0x24 then store32 0x24 value
  else store32 offset.toNat value

/-- `VnvmeReadBar0Register64` -/
def vnvmeReadBar0Register64 (allocated : Bool) (offset : UInt32) : SpaceM UInt64 :=
  if !allocated || offset + 8 > vnvmeBar0Size then return 0xFFFFFFFFFFFFFFFF
  else do
    let bytes ← load offset.toNat 8
    return (wordOf bytes).toUInt64 ||| ((wordOf fun k => bytes (k + 4)).toUInt64 <<< 32)

/-- `VnvmeWriteBar0Register64` -/
def vnvmeWriteBar0Register64 (allocated : Bool) (offset : UInt32) (value : UInt64) :
    SpaceM Unit :=
  if !allocated || offset + 8 > vnvmeBar0Size then return ()
  else
    store offset.toNat 8 fun k =>
      if k < 4 then byteOf value.toUInt32 k else byteOf (value >>> 32).toUInt32 (k - 4)

/-! ## The configuration space -/

/-- `VnvmeReadPcieConfig`, with the bytes that it leaves in the buffer. -/
def vnvmeReadPcieConfig (allocated : Bool) (offset length : UInt32) :
    SpaceM (NtStatus × (Nat → UInt8)) :=
  if !allocated then return (.invalidDeviceState, fun _ => 0)
  else if offset + length > vnvmePcieConfigSize then return (.invalidParameter, fun _ => 0)
  else do
    let bytes ← load offset.toNat length.toNat
    return (.success, bytes)

/-- `*(PUSHORT)(config + Offset)` -/
def load16 (offset : Nat) : SpaceM UInt16 := do
  let bytes ← load offset 2
  return (bytes 0).toUInt16 ||| ((bytes 1).toUInt16 <<< 8)

def store16 (offset : Nat) (value : UInt16) : SpaceM Unit :=
  store offset 2 fun k => (le16 value).getD k 0

/-- The writes of `VnvmeWritePcieConfig`, once the range is checked. -/
def writeConfig (offset length : UInt32) (buffer : UInt32 → UInt8) : SpaceM Unit :=
  let value16 := readUshort buffer 0
  if offset = pciCommand ∧ length ≥ 2 then store16 offset.toNat (value16 &&& 0x0547)
  else if offset = 0x44 ∧ length ≥ 2 then
    if value16 &&& 0x03 = 0 ∨ value16 &&& 0x03 = 3 then
      store16 offset.toNat (value16 &&& 0x8103)
    else return ()
  else if offset = 0x62 ∧ length ≥ 2 then do
    let tableSize ← load16 offset.toNat
    store16 offset.toNat ((value16 &&& 0xC000) ||| (tableSize &&& 0x07FF))
  else if offset = 0x52 ∧ length ≥ 2 then store16 offset.toNat value16
  else if offset ∈ readOnlyOffsets then return ()
  else store offset.toNat length.toNat fun k => buffer (UInt32.ofNat k)

/-- `VnvmeWritePcieConfig` -/
def vnvmeWritePcieConfig (allocated : Bool) (offset length : UInt32) (buffer : UInt32 → UInt8) :
    SpaceM NtStatus :=
  if !allocated then return .invalidDeviceState
  else if offset + length > vnvmePcieConfigSize then return .invalidParameter
  else do
    writeConfig offset length buffer
    return .success

end VirtualNvme.Traced
