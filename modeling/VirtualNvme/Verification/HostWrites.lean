import VirtualNvme.Driver.AdminCmd

/-!
# Pages that an admin command sends to the host

`VnvmeWriteToHostMemory` checks the address, maps it and copies. The handlers of Identify and Get
Log Page build their data in a buffer and hand it to this routine in the end.
-/

namespace VirtualNvme

instance instNontrivialUInt8 : Nontrivial UInt8 := ⟨0, 1, by decide⟩

/-- What the host finds from an address on. -/
def hostPage (mem : UInt64 → UInt8) (addr : UInt64) : UInt32 → UInt8 :=
  fun i => mem (addr + i.toUInt64)

/-- `VnvmeWriteToHostMemory` accepts the range, and it can be mapped. -/
structure HostWritable (os : Os) (addr : UInt64) (length : UInt32) : Prop where
  nonempty : length ≠ 0
  valid : vnvmeIsValidPhysicalAddress addr length.toUInt64 = true
  mapped : (os.call .mapIoSpace).1 = true

/-- Host memory after the copy. -/
def hostCopy (mem : UInt64 → UInt8) (addr : UInt64) (data : UInt32 → UInt8) (length : UInt32) :
    UInt64 → UInt8 :=
  copyBytes mem addr (fun i => data i.toUInt32) 0 length.toNat

theorem hostPage_hostCopy (mem : UInt64 → UInt8) (addr : UInt64) (data : UInt32 → UInt8)
    {length i : UInt32} (hi : i < length) :
    hostPage (hostCopy mem addr data length) addr i = data i := by
  have hoffset : addr + i.toUInt64 - addr = i.toUInt64 := by
    rw [UInt64.add_comm, UInt64.add_sub_cancel]
  have hin : (addr + i.toUInt64 - addr).toNat < length.toNat := by
    rw [hoffset, UInt32.toNat_toUInt64]
    exact hi
  show (if _ then _ else _) = _
  rw [if_pos hin, hoffset, UInt64.zero_add, UInt32.toUInt32_toUInt64]

section SendToHost

variable (pdo : PdoContext) {os : Os} {cmd : NvmeCommand} (data : UInt32 → UInt8)
  {length : UInt32}

/-- The data is copied and the command succeeds. -/
theorem sendToHost_ok (h : HostWritable os cmd.prp1 length) :
    sendToHost pdo os cmd data length =
      .success pdo { (os.call .mapIoSpace).2 with
        hostMem := hostCopy os.hostMem cmd.prp1 data length } 0 := by
  simp only [sendToHost, vnvmeWriteToHostMemory, if_neg h.nonempty, h.valid, Bool.not_true,
    Bool.false_eq_true, if_false, h.mapped, if_true, NtStatus.ntSuccess, decide_true]
  rfl

/-- Nothing is copied and the command fails. -/
theorem sendToHost_refused (h : ¬ HostWritable os cmd.prp1 length) :
    ∃ os', os'.hostMem = os.hostMem ∧ sendToHost pdo os cmd data length =
      .error pdo os' nvmeSctGeneric nvmeScDataTransferError := by
  unfold sendToHost vnvmeWriteToHostMemory
  by_cases hzero : length = 0
  · rw [if_pos hzero]
    exact ⟨os, rfl, rfl⟩
  by_cases hvalid : vnvmeIsValidPhysicalAddress cmd.prp1 length.toUInt64 = true
  · have hmap : (os.call .mapIoSpace).1 = false :=
      eq_false_of_ne_true fun hmapped => h ⟨hzero, hvalid, hmapped⟩
    refine ⟨(os.call .mapIoSpace).2, rfl, ?_⟩
    simp only [if_neg hzero, hvalid, hmap, Bool.not_true, Bool.false_eq_true, if_false]
    rfl
  · refine ⟨os, rfl, ?_⟩
    simp only [if_neg hzero, Bool.eq_false_iff.mpr hvalid, Bool.not_false, if_true]
    rfl

/-- A command that succeeds has sent its data. -/
theorem sendToHost_sent {pdo : PdoContext} {data : UInt32 → UInt8}
    (hok : (sendToHost pdo os cmd data length).completion = some (0, 0, 0)) :
    HostWritable os cmd.prp1 length ∧
      (sendToHost pdo os cmd data length).os.hostMem =
        hostCopy os.hostMem cmd.prp1 data length := by
  by_cases h : HostWritable os cmd.prp1 length
  · rw [sendToHost_ok pdo data h]
    exact ⟨h, rfl⟩
  · obtain ⟨os', -, heq⟩ := sendToHost_refused pdo data h
    rw [heq] at hok
    cases hok

/-- The same for a handler that allocates the buffer first. -/
theorem allocated_sent {pdo : PdoContext} {data : UInt32 → UInt8} {r : AdminOutcome}
    (heq : r = if (!(os.call .allocatePool).1) = true then
        .error pdo (os.call .allocatePool).2 nvmeSctGeneric nvmeScInternalError
      else sendToHost pdo (os.call .allocatePool).2 cmd data length)
    (hok : r.completion = some (0, 0, 0)) :
    r.os.hostMem = hostCopy os.hostMem cmd.prp1 data length := by
  subst heq
  split_ifs at hok ⊢ with halloc
  · cases hok
  · exact (sendToHost_sent hok).2

end SendToHost

end VirtualNvme
