import VirtualNvme.Driver.Context

/-!
# PRP lists

`VnvmeParsePrpList` of `prp.c`, and the loop with which the I/O handlers move data
between a buffer and the pages of a parsed list.
-/

namespace VirtualNvme

/-- `VNVME_PRP_ENTRY` -/
structure PrpEntry where
  physicalAddress : UInt64
  offset : UInt32
  length : UInt32
  deriving Repr, DecidableEq

/-- `VnvmeIsValidPhysicalAddress` -/
def vnvmeIsValidPhysicalAddress (physicalAddress length : UInt64) : Bool :=
  physicalAddress ≠ 0 && !(physicalAddress < 0x100000) &&
    !(physicalAddress + length < physicalAddress) && !(physicalAddress > 0x100000000000)

/-- The page part and the offset part of a PRP. -/
def prpPage (prp : UInt64) : UInt64 := prp &&& ~~~(0xFFF : UInt64)

def prpOffset (prp : UInt64) : UInt32 := (prp &&& (0xFFF : UInt64)).toUInt32

/-- A little-endian word of host memory. -/
def hostWord (mem : UInt64 → UInt8) (addr : UInt64) (bytes : Nat) : UInt64 :=
  (List.range bytes).foldr
    (fun i acc => (acc <<< 8) ||| (mem (addr + UInt64.ofNat i)).toUInt64) 0

/-- The loop over the entries of a PRP list in memory: `pages` of them at most, until no
bytes remain. -/
def parsePrpEntries (mem : UInt64 → UInt8) (prp2 : UInt64) :
    Nat → Nat → UInt32 → Except NtStatus (List PrpEntry)
  | 0, _, _ => .ok []
  | pages + 1, i, remaining =>
    if remaining = 0 then .ok []
    else
      let prpEntry := hostWord mem (prp2 + 8 * UInt64.ofNat i) 8
      if !vnvmeIsValidPhysicalAddress prpEntry 4096 then .error .invalidParameter
      else
        let room := 4096 - prpOffset prpEntry
        let length := if room > remaining then remaining else room
        (parsePrpEntries mem prp2 pages (i + 1) (remaining - length)).map
          (⟨prpPage prpEntry, prpOffset prpEntry, length⟩ :: ·)

/-- The number of pages a transfer covers. -/
def prpPageCount (firstPageBytes dataLength : UInt32) : UInt32 :=
  if firstPageBytes ≥ dataLength then 1
  else 1 + (dataLength - firstPageBytes + 4096 - 1) / 4096

/-- `prpListSize`: the bytes of the list that are mapped. -/
def prpListSize (numPages : UInt32) : UInt32 :=
  let size := (numPages - 1) * 8
  if size > 4096 then 4096 else size

/-- `VnvmeParsePrpList` -/
def vnvmeParsePrpList (os : Os) (prp1 prp2 : UInt64) (dataLength : UInt32) :
    Except NtStatus (List PrpEntry) × Os :=
  if dataLength = 0 then (.ok [], os)
  else if !vnvmeIsValidPhysicalAddress prp1 4096 then (.error .invalidParameter, os)
  else
    let firstPageBytes := 4096 - prpOffset prp1
    let numPages := prpPageCount firstPageBytes dataLength
    let (allocated, os) := os.call .allocatePool
    if !allocated then (.error .insufficientResources, os)
    else
      let first : PrpEntry :=
        ⟨prpPage prp1, prpOffset prp1,
          if firstPageBytes ≥ dataLength then dataLength else firstPageBytes⟩
      if numPages = 1 then (.ok [first], os)
      else if !vnvmeIsValidPhysicalAddress prp2 4096 then (.error .invalidParameter, os)
      else if numPages = 2 then
        (.ok [first, ⟨prpPage prp2, 0, dataLength - firstPageBytes⟩], os)
      else
        let (mapped, os) := os.call .mapIoSpace
        if !mapped then (.error .insufficientResources, os)
        else
          ((parsePrpEntries os.hostMem prp2 (numPages - 1).toNat 0
            (dataLength - firstPageBytes)).map (first :: ·), os)

/-! ## Moving data -/

/-- A transfer under way: the kernel with the host memory, the driver's buffer, and how
many bytes have been moved. -/
structure Transfer where
  os : Os
  buffer : UInt64 → UInt8
  bufferOffset : UInt64 := 0

/-- From the driver's buffer to host memory. -/
def copyToHost (base : UInt64) (t : Transfer) (phys mapSize : UInt64) : Transfer :=
  { t with os := { t.os with
      hostMem := copyBytes t.os.hostMem phys t.buffer (base + t.bufferOffset) mapSize.toNat } }

/-- From host memory to the driver's buffer. -/
def copyFromHost (base : UInt64) (t : Transfer) (phys mapSize : UInt64) : Transfer :=
  { t with
    buffer := copyBytes t.buffer (base + t.bufferOffset) t.os.hostMem phys mapSize.toNat }

/-- One entry of the list; a page that cannot be mapped is skipped. -/
def prpTransferStep (copy : Transfer → UInt64 → UInt64 → Transfer) (totalBytes : UInt64)
    (t : Transfer) (e : PrpEntry) : Transfer :=
  if t.bufferOffset < totalBytes then
    let length := e.length.toUInt64
    let left := totalBytes - t.bufferOffset
    let mapSize := if length > left then left else length
    let (mapped, os) := t.os.call .mapIoSpace
    let t := { t with os := os }
    if mapped then
      { copy t (e.physicalAddress + e.offset.toUInt64) mapSize with
        bufferOffset := t.bufferOffset + mapSize }
    else t
  else t

/-- `for (i = 0; i < prpEntryCount && bufferOffset < totalBytes; i++)` -/
def prpTransfer (copy : Transfer → UInt64 → UInt64 → Transfer) (totalBytes : UInt64)
    (entries : List PrpEntry) (t : Transfer) : Transfer :=
  entries.foldl (prpTransferStep copy totalBytes) t

end VirtualNvme
