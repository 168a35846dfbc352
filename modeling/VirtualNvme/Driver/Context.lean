import Mathlib.Logic.Function.Basic
import VirtualNvme.Spec

/-!
# The driver's state

The records of `vnvme_common.h`, `vnvme.h`, `config.h` and `storage_priv.h` that the
command paths read and write, and the few services of the kernel they rely on.

Queues are indexed by queue id on both sides of the shared memory: id 0 is the admin
queue (`AdminSQ`, `AdminSq`), id `q ≥ 1` is entry `q - 1` of the I/O arrays (the
descriptors `ioDescs[2 * (q - 1)]` and `ioDescs[2 * (q - 1) + 1]`, the states
`IoSq[q - 1]` and `IoCq[q - 1]`). The entries of a submission queue are a function of
the slot. A completion queue is kept as the list of everything written to it since it
was created, so that a write that was overwritten later is still on record.
-/

namespace VirtualNvme

/-- `NTSTATUS`, as far as the driver uses it. -/
inductive NtStatus where
  | success
  | unsuccessful
  | invalidParameter
  | invalidDeviceState
  | deviceNotReady
  | noMoreEntries
  | objectNameCollision
  | notFound
  | deviceBusy
  | notSupported
  | insufficientResources
  | mediaWriteProtected
  | integerOverflow
  | quotaExceeded
  | bufferTooSmall
  | revisionMismatch
  | accessDenied
  deriving Repr, DecidableEq

/-- `NT_SUCCESS`: `STATUS_NO_MORE_ENTRIES` is a warning and therefore no success. -/
def NtStatus.ntSuccess (s : NtStatus) : Bool := s = .success

/-! ## Shared memory -/

/-- `VNVME_QUEUE_DESCRIPTOR`. Capacities come from 16-bit queue sizes, and the phase is a
bit: nothing ever stores another value in these two words. -/
structure QueueDescriptor where
  offset : UInt32 := 0
  entrySize : UInt32 := 0
  capacity : UInt32 := 0
  valid : UInt32 := 0
  head : UInt32 := 0
  tail : UInt32 := 0
  phase : UInt32 := 0
  capacity_le : capacity ≤ 0xFFFF := by decide
  phase_le : phase ≤ 1 := by decide
  deriving Repr, DecidableEq

def QueueDescriptor.phaseBit (d : QueueDescriptor) : Bool := d.phase ≠ 0

/-- A queue starts with the phase bit 1. -/
theorem QueueDescriptor.startPhase_le : (1 : UInt32) ≤ 1 := by decide

/-- `cqDesc->Tail = tail; cqDesc->Phase = phase ? 1 : 0;` -/
def QueueDescriptor.setTailPhase (d : QueueDescriptor) (tail : UInt32) (phase : Bool) :
    QueueDescriptor :=
  { d with
    tail := tail
    phase := if phase then 1 else 0
    phase_le := by cases phase <;> decide }

theorem QueueDescriptor.phase_eq (d : QueueDescriptor) :
    d.phase = if d.phaseBit then 1 else 0 := by
  have h1 : d.phase.toNat ≤ 1 := d.phase_le
  by_cases h : d.phase = 0
  · simp [QueueDescriptor.phaseBit, h]
  · have h0 : d.phase.toNat ≠ 0 := fun hz => h (UInt32.toNat_inj.mp hz)
    have : d.phase = 1 := UInt32.toNat_inj.mp (show d.phase.toNat = 1 by omega)
    simp [QueueDescriptor.phaseBit, this]

section SetTailPhase

variable (d : QueueDescriptor) (tail : UInt32) (phase : Bool)

@[simp] theorem QueueDescriptor.setTailPhase_tail : (d.setTailPhase tail phase).tail = tail :=
  rfl

@[simp] theorem QueueDescriptor.setTailPhase_capacity :
    (d.setTailPhase tail phase).capacity = d.capacity := rfl

@[simp] theorem QueueDescriptor.setTailPhase_valid :
    (d.setTailPhase tail phase).valid = d.valid := rfl

@[simp] theorem QueueDescriptor.setTailPhase_phaseBit :
    (d.setTailPhase tail phase).phaseBit = phase := by
  cases phase <;> rfl

end SetTailPhase

/-- A 16-bit size as a capacity. -/
theorem toUInt32_le_max (size : UInt16) : size.toUInt32 ≤ 0xFFFF := by
  show size.toUInt32.toNat ≤ 65535
  rw [UInt16.toNat_toUInt32]
  exact Nat.le_of_lt_succ size.toNat_lt

/-- A zeroed descriptor of `size` slots. -/
def QueueDescriptor.ofSize (size : UInt16) : QueueDescriptor :=
  { capacity := size.toUInt32, capacity_le := toUInt32_le_max size }

/-- `VNVME_NOTIFY_ENTRY` -/
structure NotifyEntry where
  queueId : UInt16 := 0
  type : UInt16 := 0
  index : UInt32 := 0
  deriving Repr, DecidableEq

/-- `VNVME_NOTIFY_RING` -/
structure NotifyRing where
  head : UInt32 := 0
  tail : UInt32 := 0
  size : UInt32 := 256
  entries : UInt32 → NotifyEntry := fun _ => {}

/-- One store of a completion entry into a slot of a completion queue. -/
structure CqWrite where
  slot : UInt32
  entry : NvmeCompletion
  deriving Repr, DecidableEq

/-- `VNVME_SHM_CONTROL_BLOCK` with the queues, the notify ring and the data buffer behind
it. The driver finds the entries of a queue through its descriptor (`sqMem`, `cqLog`).
The server computes the place of an I/O queue from `VNVME_IO_SQ_OFFSET`, which is another
one (`userSqMem`, `userCqLog`); for the admin queue the two agree. -/
structure Shm where
  magic : UInt32 := 0x454D564E
  sq : Nat → QueueDescriptor
  cq : Nat → QueueDescriptor
  ioQueueCount : UInt32 := 0
  ioQueueDescriptorOffset : UInt32
  notifyRingOffset : UInt32
  dataBufferOffset : UInt32 := 0x55000
  dataBufferSize : UInt32 := 0x3FAB000
  commandsProcessed : UInt64 := 0
  completionsPosted : UInt64 := 0
  bytesRead : UInt64 := 0
  bytesWritten : UInt64 := 0
  notifyRing : NotifyRing
  sqMem : Nat → UInt32 → NvmeCommand := fun _ _ => {}
  cqLog : Nat → List CqWrite := fun _ => []
  userSqMem : Nat → UInt32 → NvmeCommand := fun _ _ => {}
  userCqLog : Nat → List CqWrite := fun _ => []
  dataBuffer : UInt32 → UInt8 := fun _ => 0

/-! ## The virtual bus -/

/-- `VNVME_COMMAND_MODE` -/
inductive CommandMode where
  | user
  | kernel
  deriving Repr, DecidableEq

/-- `VNVME_FDO_CONTEXT` -/
structure FdoContext where
  commandMode : CommandMode := .user
  userReady : Bool := false
  userCrashed : Bool := false
  lastHeartbeat : Int := 0
  commandReadyEvent : Bool := false
  userReadyEvent : Bool := false
  userPid : UInt32 := 0
  errorCount : UInt64 := 0

/-- `VNVME_STORAGE_TYPE` -/
inductive StorageType where
  | none
  | memory
  | file
  | sparse
  deriving Repr, DecidableEq

/-- `VNVME_CONFIG`. `VnvmeConfigInit` clamps the number of I/O queues to the size of the
queue arrays; nothing changes it afterwards. -/
structure Config where
  maxIOQueues : UInt32
  storageType : StorageType := .memory
  storagePath : List UInt16 := []
  heartbeatTimeout100ns : Int := 100000000
  maxIOQueues_pos : 1 ≤ maxIOQueues := by decide
  maxIOQueues_le : maxIOQueues ≤ 16 := by decide

/-- The configuration with all I/O queues. -/
def Config.allQueues : Config := { maxIOQueues := 16 }

/-! ## The virtual controller -/

/-- `VNVME_QUEUE_STATE` -/
structure QueueState where
  baseAddress : UInt64 := 0
  size : UInt32 := 0
  head : UInt32 := 0
  tail : UInt32 := 0
  phaseTag : Bool := false
  created : Bool := false
  cqId : UInt16 := 0
  deriving Repr, DecidableEq

/-- `VNVME_STORAGE_CONTEXT`. A buffer address is an offset from the start of the memory
buffer, reduced modulo `2^64` as pointer arithmetic is; the cells outside the first
`memorySize` bytes belong to somebody else. `touched` records every byte range that the
memory backend has let through. -/
structure StorageContext where
  type : StorageType := .none
  totalBytes : UInt64 := 0
  blockSize : UInt32 := 0
  readOnly : Bool := false
  memoryBuffer : Option (UInt64 → UInt8) := none
  memorySize : UInt64 := 0
  file : Option (UInt64 → UInt8) := none
  filePath : List UInt16 := []
  isSparse : Bool := false
  readCount : UInt64 := 0
  writeCount : UInt64 := 0
  bytesRead : UInt64 := 0
  bytesWritten : UInt64 := 0
  touched : List (UInt64 × UInt32) := []

/-- `VNVME_NAMESPACE` -/
structure Namespace where
  nsId : UInt32 := 0
  active : Bool := false
  readOnly : Bool := false
  thinProvisioned : Bool := false
  blockSize : UInt32 := 0
  totalBlocks : UInt64 := 0
  totalBytes : UInt64 := 0
  storage : Option StorageContext := none
  readCommands : UInt64 := 0
  writeCommands : UInt64 := 0
  readBytes : UInt64 := 0
  writeBytes : UInt64 := 0
  flushCommands : UInt64 := 0

/-- The part of the controller that the body of an I/O command works on: the namespace
table and the I/O counters. -/
structure Media where
  namespaces : Nat → Namespace := fun _ => {}
  namespaceCount : UInt16 := 0
  ioCommandsProcessed : UInt64 := 0
  bytesRead : UInt64 := 0
  bytesWritten : UInt64 := 0

/-- The memory of BAR0 as `VnvmeInitializeBar0Registers` leaves it: the registers, the
doorbells from `0x1000` on, and the other dwords in front of them by index (`rest`). -/
structure Bar0 where
  cap : UInt64 := 0x0028000000010FFF
  vs : UInt32 := 0x00010400
  intms : UInt32 := 0
  intmc : UInt32 := 0
  cc : UInt32 := 0
  csts : UInt32 := 0
  nssr : UInt32 := 0
  aqa : UInt32 := 0
  asq : UInt64 := 0
  acq : UInt64 := 0
  cmbloc : UInt32 := 0
  cmbsz : UInt32 := 0
  doorbells : Nat → UInt32 := fun _ => 0
  rest : Nat → UInt32 := fun _ => 0

/-- `VNVME_PDO_CONTEXT`; a fresh one is zeroed but for `MaxIoQueues`. `aerCids` is the
filled part of the array `AerCids`. -/
structure PdoContext extends Media where
  controllerId : UInt32 := 0
  bar0 : Option Bar0 := some {}
  cachedCC : UInt32 := 0
  sq : Nat → QueueState := fun _ => {}
  cq : Nat → QueueState := fun _ => {}
  adminSqBase : UInt64 := 0
  adminSqSize : UInt32 := 0
  adminCqBase : UInt64 := 0
  adminCqSize : UInt32 := 0
  lastAdminSqTail : UInt32 := 0
  lastAdminCqHead : UInt32 := 0
  adminCqPhase : UInt32 := 0
  ioQueueCount : UInt16 := 0
  maxIoQueues : UInt16 := 16
  aerCids : List UInt16 := []
  adminCommandsProcessed : UInt64 := 0

/-! ## Kernel services -/

/-- The services of the kernel that can fail. -/
inductive OsCall where
  | allocatePool
  | mapIoSpace
  | createFile
  | setInformationFile
  | readFile
  | writeFile
  | fsControlFile
  deriving Repr, DecidableEq

/-- Host memory and the outcome of every kernel call still to come: call number `n` of
kind `k` succeeds iff `ok k n`. -/
structure Os where
  hostMem : UInt64 → UInt8 := fun _ => 0
  ok : OsCall → Nat → Bool := fun _ _ => true
  calls : Nat := 0

/-- Make one kernel call. -/
def Os.call (os : Os) (k : OsCall) : Bool × Os :=
  (os.ok k os.calls, { os with calls := os.calls + 1 })

/-- Everything a driver routine can reach: the configuration, the bus context, the
shared memory (`none` before it is allocated) and the controller it is called for. -/
structure Driver where
  config : Config
  fdo : FdoContext := {}
  shm : Option Shm
  pdo : PdoContext := {}
  os : Os := {}

/-! ## Field updates -/

def Shm.setSq (s : Shm) (q : Nat) (d : QueueDescriptor) : Shm :=
  { s with sq := Function.update s.sq q d }

def Shm.setCq (s : Shm) (q : Nat) (d : QueueDescriptor) : Shm :=
  { s with cq := Function.update s.cq q d }

def PdoContext.setSq (p : PdoContext) (q : Nat) (st : QueueState) : PdoContext :=
  { p with sq := Function.update p.sq q st }

def PdoContext.setCq (p : PdoContext) (q : Nat) (st : QueueState) : PdoContext :=
  { p with cq := Function.update p.cq q st }

/-- Store a completion entry into a slot of completion queue `q`. -/
def Shm.writeCqe (s : Shm) (q : Nat) (slot : UInt32) (e : NvmeCompletion) : Shm :=
  { s with cqLog := Function.update s.cqLog q (s.cqLog q ++ [⟨slot, e⟩]) }

/-! ## Layout of the shared memory -/

/-- `VNVME_ALIGN_PAGE` -/
def vnvmeAlignPage (x : Nat) : Nat := (x + 4095) / 4096 * 4096

/-- `VNVME_OFFSET_IO_QUEUE_DESC`, behind the control block, the notify ring (2176 bytes) and
the two admin queues. -/
def vnvmeOffsetIoQueueDesc : Nat :=
  4096 + vnvmeAlignPage 2176 + vnvmeAlignPage (64 * 64) + vnvmeAlignPage (64 * 16)

/-- `VNVME_OFFSET_IO_QUEUES` -/
def vnvmeOffsetIoQueues : Nat := vnvmeOffsetIoQueueDesc + vnvmeAlignPage (16 * 2 * 32)

/-- `VNVME_IO_SQ_SIZE` -/
def vnvmeIoSqSize : Nat := vnvmeAlignPage (256 * 64)

/-- `VNVME_IO_QUEUE_PAIR_SIZE` -/
def vnvmeIoQueuePairSize : Nat := vnvmeIoSqSize + vnvmeAlignPage (256 * 16)

/-- `VNVME_IO_SQ_OFFSET` -/
def vnvmeIoSqOffset (n : Nat) : Nat := vnvmeOffsetIoQueues + n * vnvmeIoQueuePairSize

/-- `VNVME_IO_CQ_OFFSET` -/
def vnvmeIoCqOffset (n : Nat) : Nat := vnvmeIoSqOffset n + vnvmeIoSqSize

/-- `VNVME_OFFSET_DATA_BUFFER` -/
def vnvmeOffsetDataBuffer : Nat := vnvmeOffsetIoQueues + 16 * vnvmeIoQueuePairSize

/-! ## Allocation of the shared memory -/

/-- The control block and the notify ring as `VnvmeAllocateShm` leaves them. The region
is zeroed first, so the I/O queue descriptors start out as zeros. -/
def vnvmeAllocateShm : Shm where
  sq := Function.update (fun _ => {}) 0
    { offset := 0x2000, entrySize := 64, capacity := 64, valid := 0, phase := 0 }
  cq := Function.update (fun _ => {}) 0
    { offset := 0x3000, entrySize := 16, capacity := 64, valid := 0, phase := 1 }
  ioQueueCount := 0
  ioQueueDescriptorOffset := 0x4000
  notifyRingOffset := 0x1000
  notifyRing := { size := 256 }

/-- A driver that has allocated its shared memory and created a controller. -/
def Driver.fresh (config : Config) : Driver := { config := config, shm := some vnvmeAllocateShm }

end VirtualNvme
