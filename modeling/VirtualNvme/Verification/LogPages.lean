import VirtualNvme.Scatter
import VirtualNvme.Verification.HostWrites
import VirtualNvme.Verification.QueueGrants

/-!
# The length of a log page

Get Log Page asks for a number of dwords, zero-based in 32 bits. Both sides turn it into bytes in
32 bits, so that a count from `2^30` on wraps and passes for a short one. The kernel cuts the
result off at a page, the server takes it if it fits its data buffer.
-/

namespace VirtualNvme

open Scatter

/-! ## Lengths -/

/-- `NUMDU` and `NUMDL` -/
def NvmeCommand.numd (cmd : NvmeCommand) : UInt32 :=
  ((cmd.cdw11 &&& 0xFFFF) <<< 16) ||| (cmd.cdw10 >>> 16)

/-- The number of bytes that the command asks for. -/
def NvmeCommand.logBytes (cmd : NvmeCommand) : Nat := 4 * (cmd.numd.toNat + 1)

/-- The log pages that both sides support. -/
def NvmeCommand.SupportedLog (cmd : NvmeCommand) : Prop :=
  cmd.cdw10.toUInt8 = 0x01 ∨ cmd.cdw10.toUInt8 = 0x02 ∨ cmd.cdw10.toUInt8 = 0x03

theorem logLength_toNat (cmd : NvmeCommand) :
    cmd.logLength.toNat = min (cmd.logBytes % 2 ^ 32) 4096 := by
  have hwrap : ((cmd.numd + 1) * 4).toNat = cmd.logBytes % 2 ^ 32 := by
    rw [UInt32.toNat_mul, UInt32.toNat_add, NvmeCommand.logBytes]
    show (cmd.numd.toNat + 1) % 2 ^ 32 * 4 % 2 ^ 32 = _
    omega
  show (if (cmd.numd + 1) * 4 > 4096 then (4096 : UInt32) else (cmd.numd + 1) * 4).toNat = _
  split_ifs with h
  · have h : 4096 < ((cmd.numd + 1) * 4).toNat := h
    rw [hwrap] at h
    exact (Nat.min_eq_right h.le).symm
  · have h : ((cmd.numd + 1) * 4).toNat ≤ 4096 := UInt32.not_lt.mp h
    rw [hwrap] at h
    rw [hwrap, Nat.min_eq_left h]

/-- The wrapped length is the right one. -/
theorem logLength_eq_iff (cmd : NvmeCommand) :
    cmd.logLength.toNat = min cmd.logBytes 4096 ↔
      cmd.logBytes < 2 ^ 32 ∨ 4096 ≤ cmd.logBytes % 2 ^ 32 := by
  rw [logLength_toNat]
  omega

/-! ## The kernel -/

/-- The range that a copy of at most a page goes to is valid wherever it starts in the window. -/
theorem vnvmeIsValidPhysicalAddress_page (addr : UInt64) {length : UInt64}
    (hlen : length ≤ 4096) :
    vnvmeIsValidPhysicalAddress addr length = vnvmeIsValidPhysicalAddress addr 4096 := by
  have hlen : length.toNat ≤ 4096 := hlen
  have hwrap : ∀ l : UInt64, l.toNat ≤ 4096 → ¬ addr > 0x100000000000 → ¬ addr + l < addr := by
    intro l hl haddr
    have haddr : addr.toNat ≤ 0x100000000000 := UInt64.not_lt.mp haddr
    rw [UInt64.lt_iff_toNat_lt, UInt64.toNat_add]
    omega
  unfold vnvmeIsValidPhysicalAddress
  by_cases haddr : addr > 0x100000000000
  · simp [haddr]
  · rw [decide_eq_false (hwrap length hlen haddr), decide_eq_false (hwrap 4096 (by decide) haddr)]

theorem logPageData_supported {cmd : NvmeCommand} (h : cmd.SupportedLog) (length : UInt32) :
    ∃ data, logPageData cmd.cdw10.toUInt8 length = some data := by
  rcases h with h | h | h
  all_goals
    rw [h]
    exact ⟨_, rfl⟩

/-- What the command does to host memory. -/
def kernelLogMem (pdo : PdoContext) (os : Os) (cmd : NvmeCommand) (mem : UInt64 → UInt8) :
    UInt64 → UInt8 := (handleGetLogPage pdo { os with hostMem := mem } cmd).os.hostMem

/-- The command writes the bytes that it asks for, up to a page, if its address is valid. -/
def KernelWritesLog (pdo : PdoContext) (os : Os) (cmd : NvmeCommand) : Prop :=
  vnvmeIsValidPhysicalAddress cmd.prp1 4096 = true → ∀ addr,
    (Writes (kernelLogMem pdo os cmd) addr ↔
      (addr - cmd.prp1).toNat < min cmd.logBytes 4096)

theorem hostCopy_stores (addr : UInt64) (data : UInt32 → UInt8) (length : UInt32) :
    StoresAt (fun mem => hostCopy mem addr data length)
      fun a => (a - addr).toNat < length.toNat := by
  refine ⟨fun a ha mem mem' => ?_, fun a ha mem => if_neg ha⟩
  exact (if_pos ha).trans (if_pos ha).symm

/-- The allocation of the buffer and the copy succeed. -/
def LogCopied (os : Os) (cmd : NvmeCommand) : Prop :=
  os.ok .allocatePool os.calls = true ∧
    HostWritable (os.call .allocatePool).2 cmd.prp1 cmd.logLength

theorem kernelLogMem_eq (pdo : PdoContext) (os : Os) {cmd : NvmeCommand}
    (hlid : cmd.SupportedLog) :
    ∃ data, ∀ mem,
      (LogCopied os cmd →
        kernelLogMem pdo os cmd mem = hostCopy mem cmd.prp1 data cmd.logLength) ∧
      (¬ LogCopied os cmd → kernelLogMem pdo os cmd mem = mem) := by
  obtain ⟨data, hdata⟩ := logPageData_supported hlid cmd.logLength
  refine ⟨data, fun mem => ?_⟩
  unfold kernelLogMem handleGetLogPage LogCopied
  rw [hdata]
  dsimp only [Os.call]
  by_cases halloc : os.ok .allocatePool os.calls = true
  · rw [halloc]
    simp only [Bool.not_true, Bool.false_eq_true, if_false, true_and]
    -- neither check looks at the contents of host memory
    have hsame : HostWritable { os with hostMem := mem, calls := os.calls + 1 } cmd.prp1
        cmd.logLength ↔ HostWritable { os with calls := os.calls + 1 } cmd.prp1 cmd.logLength :=
      ⟨fun h => ⟨h.nonempty, h.valid, h.mapped⟩, fun h => ⟨h.nonempty, h.valid, h.mapped⟩⟩
    refine ⟨fun h => ?_, fun h => ?_⟩
    · rw [sendToHost_ok pdo data (hsame.mpr h)]
      rfl
    · obtain ⟨os', hmem, heq⟩ := sendToHost_refused pdo data (mt hsame.mp h)
      rw [heq]
      exact hmem
  · refine ⟨fun h => absurd h.1 halloc, fun _ => ?_⟩
    rw [Bool.eq_false_iff.mpr halloc]
    rfl

/-- The command stores its page, if the kernel gives it what it needs, or nothing. -/
theorem kernelLogMem_stores (pdo : PdoContext) (os : Os) {cmd : NvmeCommand}
    (hlid : cmd.SupportedLog) :
    StoresAt (kernelLogMem pdo os cmd) fun a => HostPageOk os cmd ∧
      (a - cmd.prp1).toNat < cmd.logLength.toNat := by
  obtain ⟨data, hmem⟩ := kernelLogMem_eq pdo os hlid
  have hle : cmd.logLength.toUInt64 ≤ 4096 := by
    rw [UInt64.le_iff_toNat_le, UInt32.toNat_toUInt64, logLength_toNat]
    exact Nat.min_le_right _ _
  have hpage := vnvmeIsValidPhysicalAddress_page cmd.prp1 hle
  by_cases h : LogCopied os cmd
  · obtain ⟨halloc, hwritable⟩ := h
    rw [funext fun mem => (hmem mem).1 ⟨halloc, hwritable⟩]
    refine (hostCopy_stores cmd.prp1 data cmd.logLength).congr fun a => ?_
    exact (and_iff_right ⟨halloc, hpage ▸ hwritable.valid, hwritable.mapped⟩).symm
  · rw [funext fun mem => (hmem mem).2 h]
    refine StoresAt.id.congr fun a => iff_of_false id ?_
    rintro ⟨⟨halloc, hvalid, hmapped⟩, hlt⟩
    refine h ⟨halloc, fun hzero => ?_, hpage.trans hvalid, hmapped⟩
    rw [hzero] at hlt
    exact absurd hlt (Nat.not_lt_zero _)

/-- **When the kernel writes as much as it is asked for.** -/
theorem kernelWritesLog_iff (pdo : PdoContext) (os : Os) {cmd : NvmeCommand}
    (hlid : cmd.SupportedLog) :
    KernelWritesLog pdo os cmd ↔
      (vnvmeIsValidPhysicalAddress cmd.prp1 4096 = true → HostPageOk os cmd ∧
        (cmd.logBytes < 2 ^ 32 ∨ 4096 ≤ cmd.logBytes % 2 ^ 32)) := by
  refine forall_congr' fun hvalid => ?_
  simp only [(kernelLogMem_stores pdo os hlid).writes_iff, ← logLength_eq_iff]
  have hle := Nat.min_le_right (cmd.logBytes % 2 ^ 32) 4096
  rw [← logLength_toNat] at hle
  -- the byte at each offset up to a page
  have hoffset : ∀ n, n < 2 ^ 64 → (cmd.prp1 + UInt64.ofNat n - cmd.prp1).toNat = n := by
    intro n hn
    rw [UInt64.add_comm, UInt64.add_sub_cancel]
    exact UInt64.toNat_ofNat_of_lt' hn
  constructor
  · intro h
    have hpos : 0 < min cmd.logBytes 4096 := by
      unfold NvmeCommand.logBytes
      omega
    have hfirst := (h (cmd.prp1 + UInt64.ofNat 0)).mpr (by rwa [hoffset 0 (by decide)])
    refine ⟨hfirst.1, Nat.le_antisymm ?_ ?_⟩
    · by_contra hover
      have hbyte := h (cmd.prp1 + UInt64.ofNat (min cmd.logBytes 4096))
      rw [hoffset _ (by omega)] at hbyte
      exact absurd (hbyte.mp ⟨hfirst.1, Nat.not_le.mp hover⟩) (lt_irrefl _)
    · by_contra hover
      have hbyte := h (cmd.prp1 + UInt64.ofNat cmd.logLength.toNat)
      rw [hoffset _ (by omega)] at hbyte
      exact absurd (hbyte.mpr (Nat.not_le.mp hover)).2 (lt_irrefl _)
  · rintro ⟨hok, hlen⟩ addr
    rw [hlen]
    exact and_iff_right hok

/-! ## The server -/

/-- The page fits the data buffer. -/
def LogFits (ctx : AdminCmdContext) (cmd : NvmeCommand) : Prop :=
  ctx.dataBuffer = true ∧ cmd.logBytes ≤ ctx.dataBufferSize.toNat

/-- The command fills the bytes that it asks for if they fit the data buffer, or else fails. -/
def ServerFillsLog (ctx : AdminCmdContext) (cmd : NvmeCommand) : Prop :=
  (LogFits ctx cmd → ∀ i,
    (Writes (fun data => (adminCmdGetLogPage ctx data cmd).data) i ↔ i.toNat < cmd.logBytes)) ∧
  (¬ LogFits ctx cmd → ∀ data, ¬ (adminCmdGetLogPage ctx data cmd).Succeeds)

theorem clearBytes_stores (n : UInt32) :
    StoresAt (fun data => clearBytes data n) fun i => i.toNat < n.toNat := by
  refine ⟨fun i hi data data' => ?_, fun i hi data => if_neg hi⟩
  exact (if_pos hi).trans (if_pos hi).symm

theorem putBytes_stores (off : UInt32) (bytes : List UInt8) :
    StoresAt (fun data => putBytes data off bytes)
      fun i => off.toNat ≤ i.toNat ∧ i.toNat < off.toNat + bytes.length := by
  have hrange : ∀ i : UInt32, (off ≤ i ∧ (i - off).toNat < bytes.length) ↔
      off.toNat ≤ i.toNat ∧ i.toNat < off.toNat + bytes.length := by
    intro i
    refine and_congr_right fun hle => ?_
    rw [UInt32.toNat_sub_of_le _ _ hle]
    have hle : off.toNat ≤ i.toNat := hle
    omega
  refine ⟨fun i hi data data' => ?_, fun i hi data => if_neg (mt (hrange i).mp hi)⟩
  have hi := (hrange i).mpr hi
  exact (if_pos hi).trans (if_pos hi).symm

section ServerLog

variable {ctx : AdminCmdContext} {cmd : NvmeCommand}

/-- The length that the server works with. -/
theorem adminLogBytes_toNat (cmd : NvmeCommand) :
    ((((cmd.cdw11 &&& 0xFFFF) <<< 16) ||| ((cmd.cdw10 >>> 16) &&& 0xFFFF)) * 4 + 4).toNat =
      cmd.logBytes % 2 ^ 32 := by
  have hnumdl : (cmd.cdw10 >>> 16) &&& (0xFFFF : UInt32) = cmd.cdw10 >>> 16 := by
    apply UInt32.toNat_inj.mp
    rw [UInt32.toNat_and]
    refine (Nat.and_two_pow_sub_one_eq_mod _ 16).trans (Nat.mod_eq_of_lt ?_)
    have hlt := cmd.cdw10.toNat_lt
    rw [UInt32.toNat_shiftRight, Nat.shiftRight_eq_div_pow]
    show cmd.cdw10.toNat / 2 ^ 16 < 2 ^ 16
    omega
  have hlt := cmd.numd.toNat_lt
  rw [hnumdl, UInt32.toNat_add, UInt32.toNat_mul]
  show (cmd.numd.toNat * 4 % 2 ^ 32 + 4) % 2 ^ 32 = 4 * (cmd.numd.toNat + 1) % 2 ^ 32
  omega

/-- The command never fails. -/
theorem adminCmdGetLogPage_succeeds (hlid : cmd.SupportedLog) (data : UInt32 → UInt8) :
    (adminCmdGetLogPage ctx data cmd).Succeeds := by
  unfold adminCmdGetLogPage
  dsimp only
  split_ifs with hfits hone htwo hthree
  · exact (reply_succeeds_iff (Or.inl rfl) 0).mpr rfl
  · exact (reply_succeeds_iff (Or.inl rfl) 0).mpr rfl
  · exact (reply_succeeds_iff (Or.inl rfl) 0).mpr rfl
  · rw [and_lowByte] at hone htwo hthree
    rcases hlid with h | h | h
    · exact absurd (congrArg UInt8.toUInt32 h) hone
    · exact absurd (congrArg UInt8.toUInt32 h) htwo
    · exact absurd (congrArg UInt8.toUInt32 h) hthree
  · exact (reply_succeeds_iff (Or.inl rfl) 0).mpr rfl

/-- The bytes that the SMART page sets. -/
theorem smart_stores (n : UInt32) :
    StoresAt (fun data => putBytes (putBytes (putBytes (putBytes (clearBytes data n) 1 (le16 298))
        3 [100]) 4 [10]) 5 [0])
      fun i => i.toNat < n.toNat ∨ 1 ≤ i.toNat ∧ i.toNat < 6 := by
  have h1 := (putBytes_stores 1 (le16 298)).comp (clearBytes_stores n)
  have h3 := (putBytes_stores 3 [100]).comp h1
  have h4 := (putBytes_stores 4 [10]).comp h3
  have h5 := (putBytes_stores 5 [0]).comp h4
  refine h5.congr fun i => ?_
  show (((i.toNat < n.toNat ∨ 1 ≤ i.toNat ∧ i.toNat < 1 + 2) ∨ 3 ≤ i.toNat ∧ i.toNat < 3 + 1) ∨
    4 ≤ i.toNat ∧ i.toNat < 4 + 1) ∨ 5 ≤ i.toNat ∧ i.toNat < 5 + 1 ↔ _
  omega

/-- A page that fits: SMART sets six bytes at least. -/
theorem adminCmdGetLogPage_stores (hlid : cmd.SupportedLog) (hfits : LogFits ctx cmd) :
    StoresAt (fun data => (adminCmdGetLogPage ctx data cmd).data) fun i =>
      i.toNat < cmd.logBytes ∨ cmd.cdw10.toUInt8 = 0x02 ∧ 1 ≤ i.toNat ∧ i.toNat < 6 := by
  obtain ⟨hbuffer, hle⟩ := hfits
  have hsize := ctx.dataBufferSize.toNat_lt
  have hbytes := adminLogBytes_toNat cmd
  rw [Nat.mod_eq_of_lt (by omega)] at hbytes
  unfold adminCmdGetLogPage
  dsimp only
  generalize (((cmd.cdw11 &&& 0xFFFF) <<< 16) ||| ((cmd.cdw10 >>> 16) &&& 0xFFFF)) * 4 + 4 =
    bytes at hbytes ⊢
  have hin : bytes ≤ ctx.dataBufferSize := UInt32.le_iff_toNat_le.mpr (hbytes ▸ hle)
  simp only [hbuffer, hin, and_self, if_true, and_lowByte]
  rw [← hbytes]
  rcases hlid with h | h | h
  · rw [h]
    refine (clearBytes_stores bytes).congr fun i => ?_
    exact (or_iff_left fun hsmart => absurd hsmart.1 (by decide)).symm
  · rw [h]
    refine (smart_stores bytes).congr fun i => ?_
    rw [eq_self_iff_true, true_and]
  · rw [h]
    refine (clearBytes_stores bytes).congr fun i => ?_
    exact (or_iff_left fun hsmart => absurd hsmart.1 (by decide)).symm

/-- **When the server fills as much as it is asked for.** -/
theorem serverFillsLog_iff (hlid : cmd.SupportedLog) :
    ServerFillsLog ctx cmd ↔
      LogFits ctx cmd ∧ (cmd.cdw10.toUInt8 = 0x02 → 1 ≤ cmd.numd.toNat) := by
  constructor
  · rintro ⟨hfills, hfails⟩
    have hfits : LogFits ctx cmd := by
      by_contra hno
      exact hfails hno (fun _ => 0) (adminCmdGetLogPage_succeeds hlid _)
    refine ⟨hfits, fun hsmart => ?_⟩
    -- byte 5 is set
    have hbyte := (hfills hfits 5).mp
      (((adminCmdGetLogPage_stores hlid hfits).writes_iff 5).mpr (Or.inr ⟨hsmart, by decide⟩))
    have hbyte : 5 < 4 * (cmd.numd.toNat + 1) := hbyte
    omega
  · rintro ⟨hfits, hsmart⟩
    refine ⟨fun _ i => ?_, fun hno => absurd hfits hno⟩
    rw [(adminCmdGetLogPage_stores hlid hfits).writes_iff]
    refine or_iff_left_of_imp fun ⟨hlid, _, hlt⟩ => ?_
    have hpos := hsmart hlid
    unfold NvmeCommand.logBytes
    omega

end ServerLog

/-! ## Both sides -/

/-- **When a log page has the length that is asked for.** On the kernel: the address is not valid,
or the allocation and the mapping succeed, and the length does not wrap to less than a page. On
the server: the page fits the data buffer, and a SMART page has more than one dword. -/
theorem logPage_length_iff (cmd : NvmeCommand) (hlid : cmd.SupportedLog) :
    (∀ (pdo : PdoContext) (os : Os), KernelWritesLog pdo os cmd ↔
      (vnvmeIsValidPhysicalAddress cmd.prp1 4096 = true → HostPageOk os cmd ∧
        (cmd.logBytes < 2 ^ 32 ∨ 4096 ≤ cmd.logBytes % 2 ^ 32))) ∧
    ∀ ctx : AdminCmdContext, ServerFillsLog ctx cmd ↔
      LogFits ctx cmd ∧ (cmd.cdw10.toUInt8 = 0x02 → 1 ≤ cmd.numd.toNat) :=
  ⟨fun pdo os => kernelWritesLog_iff pdo os hlid, fun _ => serverFillsLog_iff hlid⟩

/-- The first 512 bytes of the SMART page. -/
def getSmart : NvmeCommand := { cdw10 := 0x007F0002, prp1 := 0x100000 }

theorem logPage_length_iff_smart :
    KernelWritesLog {} {} getSmart ∧ ServerFillsLog sampleEngine.2.adminCtx getSmart := by
  obtain ⟨hkernel, hserver⟩ := logPage_length_iff getSmart (Or.inr (Or.inl rfl))
  refine ⟨(hkernel {} {}).mpr fun _ => ⟨⟨rfl, rfl, rfl⟩, by decide⟩, ?_⟩
  exact (hserver _).mpr ⟨⟨rfl, by decide⟩, by decide⟩

/-- `2^30` dwords of the error log: the kernel finds a length of zero, and writes nothing; the
server finds that it fits, and succeeds. -/
def getWholeLog : NvmeCommand := { cdw10 := 0xFFFF0001, cdw11 := 0x3FFF, prp1 := 0x100000 }

theorem logPage_length_wraps :
    (getWholeLog.logBytes = 2 ^ 32 ∧ getWholeLog.logLength = 0 ∧
      ¬ KernelWritesLog {} {} getWholeLog) ∧
    ((adminCmdGetLogPage sampleEngine.2.adminCtx (fun _ => 0) getWholeLog).Succeeds ∧
      ¬ ServerFillsLog sampleEngine.2.adminCtx getWholeLog) := by
  have hlid : getWholeLog.SupportedLog := Or.inl rfl
  refine ⟨⟨by decide, by decide, fun h => ?_⟩, adminCmdGetLogPage_succeeds hlid _, fun h => ?_⟩
  · have hlen := ((kernelWritesLog_iff {} {} hlid).mp h rfl).2
    exact absurd hlen (by decide)
  · have hfits := ((serverFillsLog_iff hlid).mp h).1.2
    exact absurd hfits (by decide)

end VirtualNvme
