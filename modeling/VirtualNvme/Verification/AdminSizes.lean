import VirtualNvme.Verification.Batch

/-!
# The sizes of the admin queues

The host programs the sizes of the admin queues in `AQA`, and `VnvmeInitializeAdminQueues`
copies them to `AdminSqSize` and `AdminCqSize`. The descriptors in shared memory, which the
fetch, the post and the server go by, keep the 64 slots of the allocation, and `Valid` of both
stays 0. So the driver's own routines refuse the admin queues after every enable, and the
server walks them with 64 slots whatever the host has programmed.
-/

namespace VirtualNvme

open RingBuffer

/-! ## Slots of the admin queues -/

/-- The slot that the `k`-th admin command from here on is read from. `VnvmeFetchCommand` and
the loop of `CmdEnginePoll` read at the head and step it by the capacity in the descriptor. -/
def adminCommandSlot (shm : Shm) (k : Nat) : UInt32 :=
  (next (shm.sq 0).capacity)^[k] (shm.sq 0).head

/-- The slot that the `k`-th admin completion from here on is written to. -/
def adminCompletionSlot (shm : Shm) (k : Nat) : UInt32 :=
  (next (shm.cq 0).capacity)^[k] (shm.cq 0).tail

/-- A fetch takes the command in slot 0 of the count, and the count goes on from slot 1. -/
theorem vnvmeFetchCommand_slot {d : Driver} {shm : Shm} (h : sqCheck d 0 = .ok shm)
    (hne : (shm.sq 0).head ≠ (shm.sq 0).tail) :
    (vnvmeFetchCommand d 0).2.1 = shm.sqMem 0 (adminCommandSlot shm 0) ∧
      ∃ shm', (vnvmeFetchCommand d 0).2.2.shm = some shm' ∧
        ∀ k, adminCommandSlot shm' k = adminCommandSlot shm (k + 1) := by
  have hfetch := vnvmeFetchCommand_ok (q := 0) h hne
  rw [hfetch]
  exact ⟨rfl, _, rfl, fun k => rfl⟩

/-- One notification of the server runs the commands of the count in order. -/
theorem pollAdminQueue_slots {p : Polling} {index : UInt32} {fuel : Nat}
    (hhead : (p.server.shm.sq 0).head < (p.server.shm.sq 0).capacity)
    (hindex : index < (p.server.shm.sq 0).capacity)
    (hfuel : dist (p.server.shm.sq 0).capacity (p.server.shm.sq 0).head index < fuel) :
    pollAdminQueue fuel p index = some (storeHead 0 (index,
      ((List.range (dist (p.server.shm.sq 0).capacity (p.server.shm.sq 0).head index)).map
        (adminCommandSlot p.server.shm)).foldl pollAdminCommand p)) := by
  unfold pollAdminQueue
  dsimp only
  rw [walk_eq_foldl _ hhead hindex hfuel, slots_eq_map]
  rfl

/-- The server posts at the tail, and the count goes on from slot 1. -/
theorem cmdEnginePostAdminCompletion_slot (s : Server) (cid : UInt16) (dw0 : UInt32)
    (sct sc : UInt8) :
    ((cmdEnginePostAdminCompletion s cid dw0 sct sc).shm.cqLog 0).map CqWrite.slot =
        (s.shm.cqLog 0).map CqWrite.slot ++ [adminCompletionSlot s.shm 0] ∧
      ∀ k, adminCompletionSlot (cmdEnginePostAdminCompletion s cid dw0 sct sc).shm k =
        adminCompletionSlot s.shm (k + 1) := by
  refine ⟨?_, fun k => rfl⟩
  simp [cmdEnginePostAdminCompletion, Shm.setCq, Shm.writeCqe, adminCompletionSlot]

/-! ## The programmed sizes -/

/-- `ASQS + 1` -/
def asqEntries (aqa : UInt32) : Nat := (aqa &&& 0xFFF).toNat + 1

/-- `ACQS + 1` -/
def acqEntries (aqa : UInt32) : Nat := ((aqa >>> 16) &&& 0xFFF).toNat + 1

/-- The admin queues work as the host has programmed them. -/
structure AdminQueuesUsable (d : Driver) (shm : Shm) (aqa : UInt32) : Prop where
  fetch : (vnvmeFetchCommand d 0).1 = .success ∨ (vnvmeFetchCommand d 0).1 = .noMoreEntries
  post : ∀ c, (vnvmePostCompletion d 0 c).1 = .success
  commands : ∀ k, (adminCommandSlot shm k).toNat = k % asqEntries aqa
  completions : ∀ k, (adminCompletionSlot shm k).toNat = k % acqEntries aqa

theorem toNat_field_add_one (x : UInt32) : ((x &&& 0xFFF) + 1).toNat = (x &&& 0xFFF).toNat + 1 := by
  have hle : (x &&& 0xFFF).toNat ≤ 0xFFF := by
    rw [UInt32.toNat_and]
    exact Nat.and_le_right
  rw [UInt32.toNat_add]
  exact Nat.mod_eq_of_lt (show (x &&& 0xFFF).toNat + 1 < 2 ^ 32 by omega)

/-- The controller's own copy of the sizes is the programmed one. -/
theorem poll_adminSizes {d : Driver} {regs : Bar0} (hregs : d.pdo.bar0 = some regs)
    (hen : bit0 regs.cc = true) (hold : bit0 d.pdo.cachedCC = false) {fuel : Nat}
    {r : Bool × Driver} (h : vnvmeProcessDoorbells fuel d = some r) :
    r.2.pdo.adminSqSize.toNat = asqEntries regs.aqa ∧
      r.2.pdo.adminCqSize.toNat = acqEntries regs.aqa := by
  have hne : regs.cc ≠ d.pdo.cachedCC := by
    intro heq
    rw [heq, hold] at hen
    cases hen
  have hfixed := keptByPoll_fixed.serving.poll hregs h
  have hsq := congrArg FixedFields.adminSqSize hfixed
  have hcq := congrArg FixedFields.adminCqSize hfixed
  simp only [PdoContext.fixed, processCc, vnvmeInitializeAdminQueues, hregs, hne, if_false, hen,
    hold] at hsq hcq
  rw [hsq, hcq]
  exact ⟨toNat_field_add_one _, toNat_field_add_one _⟩

/-- **The admin queues never work as programmed.** After every poll that enables the
controller, for every value of `AQA`, the fetch and the post refuse queue 0, so that
`AdminQueuesUsable` is false. The controller's copy of the sizes is the programmed one, but the
slots of the descriptors are counted with it only if the host has asked for 64 entries and the
queue stands on slot 0. -/
theorem adminQueues_not_usable (d : Driver) (h : ∀ shm, d.shm = some shm → ShmReach shm)
    {regs : Bar0} (hregs : d.pdo.bar0 = some regs) (hen : bit0 regs.cc = true)
    (hold : bit0 d.pdo.cachedCC = false) {fuel : Nat} {r : Bool × Driver}
    (hpoll : vnvmeProcessDoorbells fuel d = some r) {shm : Shm} (hshm : r.2.shm = some shm) :
    ¬ AdminQueuesUsable r.2 shm regs.aqa ∧
      (vnvmeFetchCommand r.2 0).1 = .invalidDeviceState ∧
      (∀ c, (vnvmePostCompletion r.2 0 c).1 = .invalidDeviceState) ∧
      (r.2.pdo.adminSqSize.toNat = asqEntries regs.aqa ∧
        r.2.pdo.adminCqSize.toNat = acqEntries regs.aqa) ∧
      ((∀ k, (adminCommandSlot shm k).toNat = k % asqEntries regs.aqa) ↔
        (shm.sq 0).head = 0 ∧ asqEntries regs.aqa = 64) ∧
      ((∀ k, (adminCompletionSlot shm k).toNat = k % acqEntries regs.aqa) ↔
        (shm.cq 0).tail = 0 ∧ acqEntries regs.aqa = 64) := by
  have hfixtures := (poll_reaches h hpoll shm hshm).fixtures
  have hsqValid : (shm.sq 0).valid = 0 := congrArg (fun f => f.gates.adminSqValid) hfixtures
  have hcqValid : (shm.cq 0).valid = 0 := congrArg (fun f => f.gates.adminCqValid) hfixtures
  have hsqCap : (shm.sq 0).capacity = 64 := congrArg Fixtures.adminSqCapacity hfixtures
  have hcqCap : (shm.cq 0).capacity = 64 := congrArg Fixtures.adminCqCapacity hfixtures
  have hfetch : (vnvmeFetchCommand r.2 0).1 = .invalidDeviceState := by
    have hcheck : sqCheck r.2 0 = .error .invalidDeviceState := by
      simp [sqCheck, hshm, hsqValid]
    rw [vnvmeFetchCommand, hcheck]
  have hpost : ∀ c, (vnvmePostCompletion r.2 0 c).1 = .invalidDeviceState := by
    have hcheck : cqCheck r.2 0 = .error .invalidDeviceState := by
      simp [cqCheck, hshm, hcqValid]
    intro c
    rw [vnvmePostCompletion_error hcheck]
  have hpos : (0 : UInt32) < 64 := by decide
  refine ⟨fun husable => ?_, hfetch, hpost, poll_adminSizes hregs hen hold hpoll, ?_, ?_⟩
  · have hsuccess := husable.post {}
    rw [hpost] at hsuccess
    cases hsuccess
  · simp only [adminCommandSlot, hsqCap]
    exact iterate_next_eq_mod_iff hpos (Nat.succ_pos _)
  · simp only [adminCompletionSlot, hcqCap]
    exact iterate_next_eq_mod_iff hpos (Nat.succ_pos _)

/-- A fresh controller whose host asks for 32 entries in both admin queues and enables it. -/
def programmedDriver : Driver :=
  { Driver.fresh Config.allQueues with pdo := { bar0 := some { aqa := 0x001F001F, cc := 1 } } }

theorem programmedDriver_reach : ∀ shm, programmedDriver.shm = some shm → ShmReach shm := by
  intro shm hshm
  rw [← Option.some.inj hshm]
  exact ShmReach.alloc

/-- The fetch and the post are refused, and the 33rd command is taken from slot 32. -/
theorem adminQueues_refused :
    ∃ r shm, vnvmeProcessDoorbells 0 programmedDriver = some r ∧ r.2.shm = some shm ∧
      asqEntries 0x001F001F = 32 ∧
      (vnvmeFetchCommand r.2 0).1 = .invalidDeviceState ∧
      (vnvmePostCompletion r.2 0 {}).1 = .invalidDeviceState ∧
      adminCommandSlot shm 32 = 32 ∧
      ¬ AdminQueuesUsable r.2 shm 0x001F001F := by
  refine ⟨_, _, rfl, rfl, by decide, by decide, by decide, by decide, fun h => ?_⟩
  exact absurd (h.post {}) (by decide)

theorem adminQueues_not_usable_programmed :
    ∃ r shm, vnvmeProcessDoorbells 0 programmedDriver = some r ∧ r.2.shm = some shm ∧
      ¬ AdminQueuesUsable r.2 shm 0x001F001F := by
  have hen : bit0 1 = true := by decide
  have hold : bit0 0 = false := by decide
  refine ⟨_, _, rfl, rfl, ?_⟩
  exact (adminQueues_not_usable programmedDriver programmedDriver_reach rfl hen hold
    (show vnvmeProcessDoorbells 0 programmedDriver = some _ from rfl) rfl).1

end VirtualNvme
