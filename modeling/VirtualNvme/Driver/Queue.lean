import VirtualNvme.Driver.Context
import VirtualNvme.RingBuffer.Index

/-!
# Queue management

The functions of `queue.c`. A routine that can be refused is split into the checks it
makes before it touches anything (`sqCheck`, `cqCheck`, `batchCheck`) and the update it
makes when they pass.
-/

namespace VirtualNvme

open RingBuffer (next)

/-! ## Admin queues -/

/-- `VnvmeInitializeAdminQueues` -/
def vnvmeInitializeAdminQueues (p : PdoContext) : NtStatus × PdoContext :=
  match p.bar0 with
  | none => (.invalidDeviceState, p)
  | some regs =>
    let asqs := (regs.aqa &&& 0xFFF) + 1
    let acqs := ((regs.aqa >>> 16) &&& 0xFFF) + 1
    (.success,
      { p with
        adminSqBase := regs.asq
        adminSqSize := asqs
        adminCqBase := regs.acq
        adminCqSize := acqs
        lastAdminSqTail := 0
        lastAdminCqHead := 0
        adminCqPhase := 1 })

/-! ## Creating and deleting I/O queues -/

/-- `QueueId == 0 || QueueId > CONFIG_MAX_IO_QUEUES` -/
def badIoQueueId (cfg : Config) (queueId : UInt16) : Bool :=
  queueId = 0 || queueId.toUInt32 > cfg.maxIOQueues

/-- Where the descriptor array ends and the first I/O queue pair begins. -/
def ioQueueArea (shm : Shm) : UInt32 := shm.ioQueueDescriptorOffset + 16 * 2 * 32

/-- Bytes between the submission queues of two neighbouring pairs. -/
def ioQueuePairSize : UInt32 := 256 * 64 + 256 * 16

/-- `VnvmeCreateIoSubmissionQueue`. The completion queue id is checked but not kept. -/
def vnvmeCreateIoSubmissionQueue (d : Driver) (queueId queueSize : UInt16)
    (prpAddress : UInt64) (cqId : UInt16) : NtStatus × Driver :=
  let q := queueId.toNat
  if badIoQueueId d.config queueId then (.invalidParameter, d)
  else if badIoQueueId d.config cqId then (.invalidParameter, d)
  else if !(d.pdo.cq cqId.toNat).created then (.invalidParameter, d)
  else if (d.pdo.sq q).created then (.objectNameCollision, d)
  else
    match d.shm with
    | none => (.deviceNotReady, d)
    | some shm =>
      if shm.ioQueueDescriptorOffset = 0 then (.deviceNotReady, d)
      else
        let sqOffset := ioQueueArea shm + (queueId.toUInt32 - 1) * ioQueuePairSize
        let size := queueSize.toUInt32
        let state := { d.pdo.sq q with
          baseAddress := prpAddress, size := size, head := 0, tail := 0, created := true }
        let desc := { shm.sq q with
          offset := sqOffset, entrySize := 64, capacity := size, head := 0, tail := 0,
          valid := 1, capacity_le := toUInt32_le_max queueSize }
        -- `RtlZeroMemory` clears the first `QueueSize` entries
        let mem := fun i => if i < size then {} else shm.sqMem q i
        (.success,
          { d with
            shm := some { shm.setSq q desc with sqMem := Function.update shm.sqMem q mem }
            pdo := { d.pdo.setSq q state with ioQueueCount := d.pdo.ioQueueCount + 1 } })

/-- `VnvmeCreateIoCompletionQueue`. Clearing the queue memory starts a new record of
writes. -/
def vnvmeCreateIoCompletionQueue (d : Driver) (queueId queueSize : UInt16)
    (prpAddress : UInt64) : NtStatus × Driver :=
  let q := queueId.toNat
  if badIoQueueId d.config queueId then (.invalidParameter, d)
  else if (d.pdo.cq q).created then (.objectNameCollision, d)
  else
    match d.shm with
    | none => (.deviceNotReady, d)
    | some shm =>
      if shm.ioQueueDescriptorOffset = 0 then (.deviceNotReady, d)
      else
        let cqOffset := ioQueueArea shm + (queueId.toUInt32 - 1) * ioQueuePairSize + 256 * 64
        let size := queueSize.toUInt32
        let state := { d.pdo.cq q with
          baseAddress := prpAddress, size := size, head := 0, tail := 0, phaseTag := true,
          created := true }
        let desc := { shm.cq q with
          offset := cqOffset, entrySize := 16, capacity := size, head := 0, tail := 0,
          phase := 1, valid := 1, capacity_le := toUInt32_le_max queueSize,
          phase_le := QueueDescriptor.startPhase_le }
        (.success,
          { d with
            shm := some { shm.setCq q desc with cqLog := Function.update shm.cqLog q [] }
            pdo := d.pdo.setCq q state })

/-- `VnvmeDeleteIoSubmissionQueue` -/
def vnvmeDeleteIoSubmissionQueue (d : Driver) (queueId : UInt16) : NtStatus × Driver :=
  let q := queueId.toNat
  if badIoQueueId d.config queueId then (.invalidParameter, d)
  else if !(d.pdo.sq q).created then (.notFound, d)
  else
    let clear (shm : Shm) : Shm :=
      if shm.ioQueueDescriptorOffset = 0 then shm
      else shm.setSq q { shm.sq q with valid := 0, head := 0, tail := 0 }
    let count := d.pdo.ioQueueCount
    (.success,
      { d with
        shm := d.shm.map clear
        pdo := { d.pdo.setSq q {} with
          ioQueueCount := if count > 0 then count - 1 else count } })

/-- `VnvmeDeleteIoCompletionQueue`. The scan over the submission queues only looks at the
one with the same id. -/
def vnvmeDeleteIoCompletionQueue (d : Driver) (queueId : UInt16) : NtStatus × Driver :=
  let q := queueId.toNat
  if badIoQueueId d.config queueId then (.invalidParameter, d)
  else if !(d.pdo.cq q).created then (.notFound, d)
  else if (List.range 16).any fun i => (d.pdo.sq (i + 1)).created && i + 1 == q then
    (.deviceBusy, d)
  else
    let clear (shm : Shm) : Shm :=
      if shm.ioQueueDescriptorOffset = 0 then shm
      else shm.setCq q { (shm.cq q).setTailPhase 0 true with valid := 0, head := 0 }
    (.success, { d with shm := d.shm.map clear, pdo := d.pdo.setCq q {} })

/-! ## Taking commands and posting completions one at a time -/

/-- The checks of `VnvmeFetchCommand` in front of the emptiness test. -/
def sqCheck (d : Driver) (queueId : UInt16) : Except NtStatus Shm :=
  match d.shm with
  | none => .error .deviceNotReady
  | some shm =>
    if queueId ≠ 0 ∧
        (queueId.toUInt32 > d.config.maxIOQueues ∨ !(d.pdo.sq queueId.toNat).created) then
      .error .invalidParameter
    else if queueId ≠ 0 ∧ shm.ioQueueDescriptorOffset = 0 then .error .deviceNotReady
    else if (shm.sq queueId.toNat).valid = 0 then .error .invalidDeviceState
    else .ok shm

/-- `VnvmeFetchCommand`; the output command is cleared when nothing is fetched. -/
def vnvmeFetchCommand (d : Driver) (queueId : UInt16) : NtStatus × NvmeCommand × Driver :=
  let q := queueId.toNat
  match sqCheck d queueId with
  | .error status => (status, {}, d)
  | .ok shm =>
    let sqDesc := shm.sq q
    if sqDesc.head = sqDesc.tail then (.noMoreEntries, {}, d)
    else
      let command := shm.sqMem q sqDesc.head
      let head := next sqDesc.capacity sqDesc.head
      (.success, command,
        { d with
          shm := some (shm.setSq q { sqDesc with head := head })
          pdo := d.pdo.setSq q { d.pdo.sq q with head := head } })

/-- The checks of `VnvmePostCompletion`. -/
def cqCheck (d : Driver) (queueId : UInt16) : Except NtStatus Shm :=
  match d.shm with
  | none => .error .deviceNotReady
  | some shm =>
    if queueId ≠ 0 ∧
        (queueId.toUInt32 > d.config.maxIOQueues ∨ !(d.pdo.cq queueId.toNat).created) then
      .error .invalidParameter
    else if queueId ≠ 0 ∧ shm.ioQueueDescriptorOffset = 0 then .error .deviceNotReady
    else if (shm.cq queueId.toNat).valid = 0 then .error .invalidDeviceState
    else .ok shm

/-- The entry that is stored for a completion: its own fields, with the phase tag in
bit 0 of the status. -/
def withPhase (c : NvmeCompletion) (phase : Bool) : NvmeCompletion :=
  { c with status := (c.status &&& 0xFFFE) ||| (if phase then 1 else 0) }

/-- `VnvmePostCompletion` -/
def vnvmePostCompletion (d : Driver) (queueId : UInt16) (completion : NvmeCompletion) :
    NtStatus × Driver :=
  let q := queueId.toNat
  match cqCheck d queueId with
  | .error status => (status, d)
  | .ok shm =>
    let cqDesc := shm.cq q
    let phase := (d.pdo.cq q).phaseTag
    let tail := next cqDesc.capacity cqDesc.tail
    let phase' := if tail = 0 then !phase else phase
    -- `cqDesc->Phase` is written only when the queue wraps
    let desc := cqDesc.setTailPhase tail (if tail = 0 then phase' else cqDesc.phaseBit)
    let shm' := (shm.writeCqe q cqDesc.tail (withPhase completion phase)).setCq q desc
    (.success,
      { d with
        shm := some { shm' with completionsPosted := shm.completionsPosted + 1 }
        pdo := d.pdo.setCq q { d.pdo.cq q with tail := tail, phaseTag := phase' } })

/-! ## Batches -/

/-- The checks of the batched routines: the queue id is compared with the queue count in
shared memory, not with the controller's own tables. -/
def batchCheck (d : Driver) (queueId : UInt16) : Except NtStatus Shm :=
  match d.shm with
  | none => .error .deviceNotReady
  | some shm =>
    if queueId ≠ 0 ∧ (shm.ioQueueDescriptorOffset = 0 ∨
        queueId.toUInt32 > shm.ioQueueCount ∨ queueId - 1 ≥ 16) then
      .error .invalidParameter
    else .ok shm

/-- `while (head != tail && fetched < MaxCommands)`: `room` is `MaxCommands - fetched`. -/
def fetchBatchLoop (mem : UInt32 → NvmeCommand) (tail depth : UInt32) :
    Nat → UInt32 → UInt32 × List NvmeCommand
  | 0, head => (head, [])
  | room + 1, head =>
    if head = tail then (head, [])
    else
      let r := fetchBatchLoop mem tail depth room (next depth head)
      (r.1, mem head :: r.2)

/-- `VnvmeFetchCommandBatch`; the returned list is `Commands[0 .. CommandsFetched - 1]`. -/
def vnvmeFetchCommandBatch (d : Driver) (queueId : UInt16) (maxCommands : UInt32) :
    NtStatus × List NvmeCommand × Driver :=
  let q := queueId.toNat
  if maxCommands = 0 then (.success, [], d)
  else
    match batchCheck d queueId with
    | .error status => (status, [], d)
    | .ok shm =>
      let sqDesc := shm.sq q
      if sqDesc.head = sqDesc.tail then (.success, [], d)
      else
        let r := fetchBatchLoop (shm.sqMem q) sqDesc.tail sqDesc.capacity
          maxCommands.toNat sqDesc.head
        let shm' := shm.setSq q { sqDesc with head := r.1 }
        (.success, r.2,
          { d with
            shm := some { shm' with
              commandsProcessed := shm.commandsProcessed + UInt64.ofNat r.2.length } })

/-- What the loop of `VnvmePostCompletionBatch` changes as it goes. -/
structure PostState where
  tail : UInt32
  phase : Bool
  descPhase : Bool
  log : List CqWrite

/-- One round of the loop of `VnvmePostCompletionBatch`. -/
def postBatchStep (depth : UInt32) (s : PostState) (src : NvmeCompletion) : PostState :=
  let tail := next depth s.tail
  let phase := if tail = 0 then !s.phase else s.phase
  { tail := tail
    phase := phase
    descPhase := if tail = 0 then phase else s.descPhase
    log := s.log ++ [⟨s.tail, withPhase src s.phase⟩] }

/-- `VnvmePostCompletionBatch` on `CompletionCount = completions.length` entries. -/
def vnvmePostCompletionBatch (d : Driver) (queueId : UInt16)
    (completions : List NvmeCompletion) : NtStatus × Driver :=
  let q := queueId.toNat
  if completions = [] then (.success, d)
  else
    match batchCheck d queueId with
    | .error status => (status, d)
    | .ok shm =>
      let cqDesc := shm.cq q
      let r := completions.foldl (postBatchStep cqDesc.capacity)
        ⟨cqDesc.tail, (d.pdo.cq q).phaseTag, cqDesc.phaseBit, shm.cqLog q⟩
      let shm' := shm.setCq q (cqDesc.setTailPhase r.tail r.descPhase)
      (.success,
        { d with
          shm := some { shm' with
            cqLog := Function.update shm.cqLog q r.log
            completionsPosted := shm.completionsPosted + UInt64.ofNat completions.length }
          pdo := d.pdo.setCq q
            { d.pdo.cq q with tail := r.tail, phaseTag := r.phase } })

end VirtualNvme
