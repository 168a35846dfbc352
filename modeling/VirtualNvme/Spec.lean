import Mathlib.Tactic.Common

/-!
# NVMe commands, completions and status codes

The part of `nvme_spec.h` and `vnvme_utils.h` that both sides of the emulator use:
the 64-byte submission entry, the 16-byte completion entry and the packing of a
status field. Reserved words of an entry are left out; every other field is here.
-/

namespace VirtualNvme

/-- `NVME_COMMAND`, one submission queue entry. -/
structure NvmeCommand where
  opc : UInt8 := 0
  fuse : UInt8 := 0
  psdt : UInt8 := 0
  cid : UInt16 := 0
  nsid : UInt32 := 0
  mptr : UInt64 := 0
  prp1 : UInt64 := 0
  prp2 : UInt64 := 0
  cdw10 : UInt32 := 0
  cdw11 : UInt32 := 0
  cdw12 : UInt32 := 0
  cdw13 : UInt32 := 0
  cdw14 : UInt32 := 0
  cdw15 : UInt32 := 0
  deriving Repr, DecidableEq

/-- `NVME_COMPLETION`, one completion queue entry. Bit 0 of `status` is the phase tag. -/
structure NvmeCompletion where
  dw0 : UInt32 := 0
  dw1 : UInt32 := 0
  sqhd : UInt16 := 0
  sqid : UInt16 := 0
  cid : UInt16 := 0
  status : UInt16 := 0
  deriving Repr, DecidableEq

/-- `NVME_STATUS_P` -/
def nvmeStatusP (status : UInt16) : UInt16 := status &&& 0x0001

/-- `NVME_STATUS_SC` -/
def nvmeStatusSc (status : UInt16) : UInt16 := (status >>> 1) &&& 0xFF

/-- `NVME_STATUS_SCT` -/
def nvmeStatusSct (status : UInt16) : UInt16 := (status >>> 9) &&& 0x07

/-- `NvmeMakeStatus`: the C operands are promoted to `int` and cut back to 16 bits. -/
def nvmeMakeStatus (sct sc phase : UInt8) : UInt16 :=
  phase.toUInt16 ||| (sc.toUInt16 <<< 1) ||| (sct.toUInt16 <<< 9)

/-- The starting block of a command, `((ULONGLONG)CDW11 << 32) | CDW10`. -/
def NvmeCommand.slba (cmd : NvmeCommand) : UInt64 :=
  (cmd.cdw11.toUInt64 <<< 32) ||| cmd.cdw10.toUInt64

/-- The number of blocks, `(USHORT)(CDW12 & 0xFFFF) + 1` kept in 16 bits: 65536 blocks
count as 0. -/
def NvmeCommand.nlb (cmd : NvmeCommand) : UInt16 := cmd.cdw12.toUInt16 + 1

/-! ## Status code types and status codes -/

def nvmeSctGeneric : UInt8 := 0x00
def nvmeSctCommand : UInt8 := 0x01
def nvmeSctMediaError : UInt8 := 0x02

def nvmeScSuccess : UInt8 := 0x00
def nvmeScInvalidOpcode : UInt8 := 0x01
def nvmeScInvalidField : UInt8 := 0x02
def nvmeScDataTransferError : UInt8 := 0x04
def nvmeScInternalError : UInt8 := 0x06
def nvmeScInvalidNamespace : UInt8 := 0x0B
def nvmeScLbaOutOfRange : UInt8 := 0x80

def nvmeScInvalidQueueId : UInt8 := 0x01
def nvmeScInvalidQueueSize : UInt8 := 0x02
def nvmeScAsyncEventLimitExceeded : UInt8 := 0x05
def nvmeScInvalidLogPage : UInt8 := 0x09
def nvmeScInvalidQueueDeletion : UInt8 := 0x0C
def nvmeScCqInvalid : UInt8 := 0x18

def nvmeScWriteFault : UInt8 := 0x80
def nvmeScUnrecoveredReadError : UInt8 := 0x81
def nvmeScCompareFailure : UInt8 := 0x85

/-! ## Opcodes -/

def nvmeIoFlush : UInt8 := 0x00
def nvmeIoWrite : UInt8 := 0x01
def nvmeIoRead : UInt8 := 0x02
def nvmeIoCompare : UInt8 := 0x05
def nvmeIoWriteZeroes : UInt8 := 0x08
def nvmeIoDatasetManagement : UInt8 := 0x09

def nvmeAdminDeleteIoSq : UInt8 := 0x00
def nvmeAdminCreateIoSq : UInt8 := 0x01
def nvmeAdminGetLogPage : UInt8 := 0x02
def nvmeAdminDeleteIoCq : UInt8 := 0x04
def nvmeAdminCreateIoCq : UInt8 := 0x05
def nvmeAdminIdentify : UInt8 := 0x06
def nvmeAdminAbort : UInt8 := 0x08
def nvmeAdminSetFeatures : UInt8 := 0x09
def nvmeAdminGetFeatures : UInt8 := 0x0A
def nvmeAdminAsyncEventRequest : UInt8 := 0x0C
def nvmeAdminKeepAlive : UInt8 := 0x18

/-! ## Bytes in memory -/

/-- Little-endian bytes of a 16-bit, 32-bit and 64-bit value. -/
def le16 (x : UInt16) : List UInt8 := [x.toUInt8, (x >>> 8).toUInt8]

def le32 (x : UInt32) : List UInt8 := le16 x.toUInt16 ++ le16 (x >>> 16).toUInt16

def le64 (x : UInt64) : List UInt8 := le32 x.toUInt32 ++ le32 (x >>> 32).toUInt32

/-- Store bytes into a buffer from an offset on. -/
def putBytes (buf : UInt32 → UInt8) (off : UInt32) (bytes : List UInt8) : UInt32 → UInt8 :=
  fun i =>
    if off ≤ i ∧ (i - off).toNat < bytes.length then bytes.getD (i - off).toNat 0 else buf i

/-- Copy `len` bytes of `src` from address `b` on over `dst` from address `a` on. Addresses
wrap at `2^64`, as pointers do. -/
def copyBytes (dst : UInt64 → UInt8) (a : UInt64) (src : UInt64 → UInt8) (b : UInt64)
    (len : Nat) : UInt64 → UInt8 :=
  fun x => if (x - a).toNat < len then src (b + (x - a)) else dst x

/-- `memset(buf, 0, n)` -/
def clearBytes (buf : UInt32 → UInt8) (n : UInt32) : UInt32 → UInt8 :=
  fun i => if i < n then 0 else buf i

end VirtualNvme
