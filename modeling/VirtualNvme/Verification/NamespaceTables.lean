import Mathlib.Data.List.GetD
import Mathlib.Tactic.IntervalCases
import VirtualNvme.Server.CommandEngine

/-!
# The server's two namespace tables

`CmdEngineInit` fills one table for the admin commands and one for the I/O commands, each in a
loop of its own. They describe the same namespaces: what the Active Namespace List and Identify
Namespace tell the host is what the I/O commands check against.
-/

namespace VirtualNvme

/-! ## What the host reads in a page -/

/-- `*(PULONG)(buf + off)` -/
def readUlong (buf : UInt32 → UInt8) (off : UInt32) : UInt32 :=
  (buf off).toUInt32 ||| ((buf (off + 1)).toUInt32 <<< 8) |||
    ((buf (off + 2)).toUInt32 <<< 16) ||| ((buf (off + 3)).toUInt32 <<< 24)

/-- `*(PULONGLONG)(buf + off)` -/
def readUlonglong (buf : UInt32 → UInt8) (off : UInt32) : UInt64 :=
  (readUlong buf off).toUInt64 ||| ((readUlong buf (off + 4)).toUInt64 <<< 32)

/-- The ids in an Active Namespace List, which ends at the first zero. -/
def listedNsids (page : UInt32 → UInt8) : List UInt32 :=
  ((List.range 1024).map fun k => readUlong page (UInt32.ofNat (4 * k))).takeWhile (· ≠ 0)

/-- The four bytes of a word, put together again. -/
theorem join_le32 (v : UInt32) :
    ((le32 v).getD 0 0).toUInt32 ||| (((le32 v).getD 1 0).toUInt32 <<< 8) |||
      (((le32 v).getD 2 0).toUInt32 <<< 16) ||| (((le32 v).getD 3 0).toUInt32 <<< 24) = v := by
  apply UInt32.eq_of_toBitVec_eq
  ext i hi
  simp [le32, le16, -UInt32.toUInt32_toUInt8, -UInt16.toUInt32_toUInt8]
  interval_cases i <;> simp

theorem join_halves (v : UInt64) :
    v.toUInt32.toUInt64 ||| ((v >>> 32).toUInt32.toUInt64 <<< 32) = v := by
  apply UInt64.eq_of_toBitVec_eq
  ext i hi
  simp [-UInt64.toUInt64_toUInt32]
  interval_cases i <;> simp

/-- A word is made of the four bytes at its place. -/
theorem readUlong_bytes {buf : UInt32 → UInt8} {off : UInt32} {b : Nat → UInt8}
    (h : ∀ j, j < 4 → buf (off + UInt32.ofNat j) = b j) :
    readUlong buf off = (b 0).toUInt32 ||| ((b 1).toUInt32 <<< 8) ||| ((b 2).toUInt32 <<< 16) |||
      ((b 3).toUInt32 <<< 24) := by
  have h0 : buf off = b 0 := by
    have h := h 0 (by decide)
    rwa [show UInt32.ofNat 0 = 0 from rfl, UInt32.add_zero] at h
  have h1 : buf (off + 1) = b 1 := h 1 (by decide)
  have h2 : buf (off + 2) = b 2 := h 2 (by decide)
  have h3 : buf (off + 3) = b 3 := h 3 (by decide)
  rw [readUlong, h0, h1, h2, h3]

theorem readUlong_eq {buf : UInt32 → UInt8} {off v : UInt32}
    (h : ∀ j, j < 4 → buf (off + UInt32.ofNat j) = (le32 v).getD j 0) : readUlong buf off = v :=
  (readUlong_bytes h).trans (join_le32 v)

theorem readUlong_congr {buf buf' : UInt32 → UInt8} {off : UInt32}
    (h : ∀ j, j < 4 → buf (off + UInt32.ofNat j) = buf' (off + UInt32.ofNat j)) :
    readUlong buf off = readUlong buf' off := by
  have hbytes := readUlong_bytes (b := fun j => buf' (off + UInt32.ofNat j)) h
  exact hbytes.trans (readUlong_bytes fun _ _ => rfl).symm

/-! ## Words stored into a cleared page -/

/-- Byte `j` of word `k`. -/
theorem flatMap_le32_getD (l : List UInt32) (k : Nat) {j : Nat} (hj : j < 4) :
    (l.flatMap le32).getD (4 * k + j) 0 = (le32 (l.getD k 0)).getD j 0 := by
  induction l generalizing k with
  | nil =>
      have hzero : ∀ j, j < 4 → (le32 0).getD j 0 = 0 := by decide
      exact (hzero j hj).symm
  | cons v l ih =>
      have hlen : (le32 v).length = 4 := rfl
      rw [List.flatMap_cons]
      cases k with
      | zero =>
          rw [List.getD_append _ _ _ _ (by omega)]
          simp
      | succ k =>
          rw [List.getD_append_right _ _ _ _ (by omega), hlen, List.getD_cons_succ, ← ih k]
          congr 1
          omega

theorem putBytes_clear (data : UInt32 → UInt8) (bytes : List UInt8) {i : UInt32}
    (hi : i < 4096) : putBytes (clearBytes data 4096) 0 bytes i = bytes.getD i.toNat 0 := by
  simp only [putBytes, UInt32.sub_zero, UInt32.zero_le, true_and]
  split_ifs with hlen
  · rfl
  · rw [clearBytes, if_pos hi, List.getD_eq_default _ _ (Nat.not_lt.mp hlen)]

/-- Bytes stored further on are not in the way. -/
theorem putBytes_of_lt (buf : UInt32 → UInt8) (bytes : List UInt8) {off i : UInt32}
    (hi : i < off) : putBytes buf off bytes i = buf i := by
  rw [putBytes, if_neg fun h => absurd h.1 (UInt32.not_le.mpr hi)]

theorem readUlong_page (data : UInt32 → UInt8) (l : List UInt32) {k : Nat} (hk : k < 1024) :
    readUlong (putBytes (clearBytes data 4096) 0 (l.flatMap le32)) (UInt32.ofNat (4 * k)) =
      l.getD k 0 := by
  apply readUlong_eq
  intro j hj
  have hlt : 4 * k + j < 4096 := by omega
  have hnat : (UInt32.ofNat (4 * k) + UInt32.ofNat j).toNat = 4 * k + j := by
    rw [← UInt32.ofNat_add, UInt32.toNat_ofNat_of_lt' (hlt.trans (by decide))]
  have hin : UInt32.ofNat (4 * k) + UInt32.ofNat j < 4096 :=
    UInt32.lt_iff_toNat_lt.mpr (hnat ▸ hlt)
  rw [putBytes_clear data _ hin, hnat, flatMap_le32_getD l k hj]

/-- A list of ids stored into a page is the list that the host reads there. -/
theorem listedNsids_page (data : UInt32 → UInt8) {l : List UInt32} (hlen : l.length ≤ 1024)
    (hne : ∀ nsid ∈ l, nsid ≠ 0) :
    listedNsids (putBytes (clearBytes data 4096) 0 (l.flatMap le32)) = l := by
  have hwords : ((List.range 1024).map fun k =>
      readUlong (putBytes (clearBytes data 4096) 0 (l.flatMap le32)) (UInt32.ofNat (4 * k))) =
        l ++ List.replicate (1024 - l.length) 0 := by
    apply List.ext_getElem
    · simp [hlen]
    · intro k hk hk'
      have hk : k < 1024 := by simpa using hk
      rw [List.getElem_map, List.getElem_range, readUlong_page data l hk]
      -- behind the list the page is zero, where the host stops
      by_cases hin : k < l.length
      · rw [List.getElem_append_left hin, List.getD_eq_getElem _ _ hin]
      · rw [List.getElem_append_right (Nat.not_lt.mp hin), List.getElem_replicate,
          List.getD_eq_default _ _ (Nat.not_lt.mp hin)]
  rw [listedNsids, hwords, List.takeWhile_append_of_pos (by simpa using hne)]
  simp

/-! ## The tables -/

/-- The two tables have the same namespaces. -/
structure TablesAgree (actx : AdminCmdContext) (ictx : IoCmdContext) : Prop where
  count : actx.namespaceCount = ictx.namespaceCount
  count_le : actx.namespaceCount ≤ 16
  active : ∀ i, (actx.namespaces i).active = (ictx.namespaces i).active
  size : ∀ i, (actx.namespaces i).size = (ictx.namespaces i).size

/-- A namespace added to both. -/
theorem TablesAgree.add {actx : AdminCmdContext} {ictx : IoCmdContext} (h : TablesAgree actx ictx)
    {info : AdminNamespaceInfo} {ns : IoNamespaceConfig} (hactive : info.active = ns.active)
    (hsize : info.size = ns.size) :
    TablesAgree (adminCmdAddNamespace actx info) (ioCmdAddNamespace ictx ns) := by
  unfold adminCmdAddNamespace ioCmdAddNamespace
  rw [← h.count]
  split_ifs with hfull
  · exact h
  -- both put it at the index of their count, which is the same
  · have hlt : actx.namespaceCount < 16 := UInt32.not_le.mp hfull
    have hlt' : actx.namespaceCount.toNat < 16 := UInt32.lt_iff_toNat_lt.mp hlt
    refine ⟨by rw [h.count], ?_, fun i => ?_, fun i => ?_⟩
    · refine UInt32.le_iff_toNat_le.mpr ?_
      rw [UInt32.toNat_add]
      exact Nat.le_trans (Nat.mod_le _ _) hlt'
    · rcases eq_or_ne i actx.namespaceCount.toNat with rfl | hi
      · simpa using hactive
      · simpa [hi] using h.active i
    · rcases eq_or_ne i actx.namespaceCount.toNat with rfl | hi
      · simpa using hsize
      · simpa [hi] using h.size i

/-- The two loops of `CmdEngineInit`. -/
theorem cmdEngineInit_tablesAgree (config : CmdEngineConfig) (dataBuffer : Bool)
    (dataBufferSize : UInt32) :
    TablesAgree (cmdEngineInitAdmin config dataBuffer dataBufferSize)
      (cmdEngineInitIo config dataBuffer dataBufferSize) := by
  unfold cmdEngineInitAdmin cmdEngineInitIo
  refine List.foldl_rel ⟨rfl, UInt32.zero_le, fun _ => rfl, fun _ => rfl⟩ ?_
  intro i _ actx ictx h
  exact h.add rfl rfl

/-! ## The two views -/

theorem mem_activeNsids {actx : AdminCmdContext} (hcount : actx.namespaceCount ≤ 16)
    (start nsid : UInt32) :
    nsid ∈ activeNsids actx start ↔
      start < nsid ∧ nsid ≤ actx.namespaceCount ∧
        (actx.namespaces (nsid.toNat - 1)).active := by
  have hcount : actx.namespaceCount.toNat ≤ 16 := hcount
  unfold activeNsids
  rw [List.take_of_length_le]
  · simp only [List.mem_map, List.mem_filter, List.mem_range, Bool.and_eq_true, decide_eq_true_eq]
    constructor
    · rintro ⟨i, ⟨hi, hstart, hactive⟩, rfl⟩
      have hlt : i + 1 ≤ 16 := by omega
      have hnat : (UInt32.ofNat (i + 1)).toNat = i + 1 :=
        UInt32.toNat_ofNat_of_lt' (Nat.lt_of_le_of_lt hlt (by decide))
      refine ⟨UInt32.lt_iff_toNat_lt.mpr ?_, UInt32.le_iff_toNat_le.mpr (by omega), ?_⟩
      · rwa [hnat]
      · rwa [hnat]
    · rintro ⟨hstart, hle, hactive⟩
      have hstart := UInt32.lt_iff_toNat_lt.mp hstart
      have hle := UInt32.le_iff_toNat_le.mp hle
      have hpos : nsid.toNat - 1 + 1 = nsid.toNat := by omega
      refine ⟨nsid.toNat - 1, ⟨by omega, by omega, hactive⟩, ?_⟩
      rw [hpos]
      exact UInt32.ofNat_toNat
  · refine Nat.le_trans (by simpa using List.length_filter_le _ _) ?_
    simp only [List.length_range]
    omega

theorem isNamespaceValid_iff (ictx : IoCmdContext) (nsid : UInt32) :
    ioCmdIsNamespaceValid ictx nsid ↔
      nsid ≠ 0 ∧ nsid ≤ ictx.namespaceCount ∧ (ictx.nsConfig nsid).active := by
  simp [ioCmdIsNamespaceValid, and_assoc]

/-- The bound on a range of blocks, without the wrapping of the sum. -/
theorem ioCmdValidateLbaRange_eq {ictx : IoCmdContext} {nsid : UInt32}
    (h : ioCmdIsNamespaceValid ictx nsid) (slba : UInt64) (nlb : UInt32) :
    ioCmdValidateLbaRange ictx nsid slba nlb =
      decide (slba.toNat + nlb.toNat ≤ (ictx.nsConfig nsid).size.toNat) := by
  have hslba := slba.toNat_lt
  have hnlb := nlb.toNat_lt
  have hsize := (ictx.nsConfig nsid).size.toNat_lt
  have hsum : (slba + nlb.toUInt64).toNat = (slba.toNat + nlb.toNat) % 2 ^ 64 := by
    rw [UInt64.toNat_add, UInt32.toNat_toUInt64]
  unfold ioCmdValidateLbaRange
  simp only [h, Bool.not_true, Bool.false_eq_true, if_false, UInt64.lt_iff_toNat_lt, gt_iff_lt,
    hsum]
  -- the sum wraps or leaves the namespace, or it is within
  split_ifs with hwrap hover
  · symm
    simp only [decide_eq_false_iff_not]
    omega
  · symm
    simp only [decide_eq_false_iff_not]
    omega
  · symm
    simp only [decide_eq_true_eq]
    omega

/-- A 64-bit value at the start of a page, other fields stored behind it. -/
theorem readUlonglong_page {page : UInt32 → UInt8} (data : UInt32 → UInt8) {v : UInt64}
    (h : ∀ i, i < 8 → page i = putBytes (clearBytes data 4096) 0 (le64 v) i) :
    readUlonglong page 0 = v := by
  have hwords : le64 v = [v.toUInt32, (v >>> 32).toUInt32].flatMap le32 := by
    rw [le64, List.flatMap_cons, List.flatMap_singleton]
  rw [hwords] at h
  have hword (k : Nat) (hk : k < 2) : readUlong page (UInt32.ofNat (4 * k)) =
      [v.toUInt32, (v >>> 32).toUInt32].getD k 0 := by
    rw [← readUlong_page data _ (by omega : k < 1024)]
    apply readUlong_congr
    intro j hj
    apply h
    have hlt : 4 * k + j < 8 := by omega
    rw [← UInt32.ofNat_add, UInt32.lt_iff_toNat_lt,
      UInt32.toNat_ofNat_of_lt' (hlt.trans (by decide))]
    exact hlt
  have hlow : readUlong page 0 = v.toUInt32 := hword 0 (by decide)
  have hhigh : readUlong page (0 + 4) = (v >>> 32).toUInt32 := hword 1 (by decide)
  rw [readUlonglong, hlow, hhigh, join_halves]

/-- The size that Identify Namespace reports. -/
theorem adminCmdIdentifyNamespace_nsze {actx : AdminCmdContext} (hpage : actx.hasPage)
    (data : UInt32 → UInt8) {cmd : NvmeCommand} (hne : cmd.nsid ≠ 0)
    (hle : cmd.nsid ≤ actx.namespaceCount) :
    readUlonglong (adminCmdIdentifyNamespace actx data cmd).data 0 =
      (actx.namespaces (cmd.nsid.toNat - 1)).size := by
  have hvalid : ¬ (cmd.nsid = 0 ∨ cmd.nsid > actx.namespaceCount) := by
    rintro (h | h)
    · exact hne h
    · exact absurd hle (UInt32.not_le.mpr h)
  unfold adminCmdIdentifyNamespace
  rw [if_neg hvalid]
  simp only [AdminCmdContext.reply, hpage, if_true]
  apply readUlonglong_page data
  intro i hi
  -- NCAP, NUSE and LBAF0 come behind NSZE
  rw [putBytes_of_lt _ _ (UInt32.lt_trans hi (by decide)),
    putBytes_of_lt _ _ (UInt32.lt_trans hi (by decide)), putBytes_of_lt _ _ hi]

theorem adminCmdIdentifyNamespaceList_data {actx : AdminCmdContext} (hpage : actx.hasPage)
    (hcount : actx.namespaceCount ≤ 16) (data : UInt32 → UInt8) {cmd : NvmeCommand}
    (hcmd : cmd.nsid = 0) :
    listedNsids (adminCmdIdentifyNamespaceList actx data cmd).data = activeNsids actx 0 := by
  simp only [adminCmdIdentifyNamespaceList, AdminCmdContext.reply, hpage, if_true, hcmd]
  apply listedNsids_page
  · rw [activeNsids, List.length_take]
    exact Nat.min_le_left _ _
  · intro nsid hmem
    exact UInt32.pos_iff_ne_zero.mp ((mem_activeNsids hcount 0 nsid).mp hmem).1

/-- What `CmdEngineInit` leaves behind when it succeeds. -/
theorem cmdEngineInit_started {ctx ctx' : CmdEngineContext} {shm : Shm} {config : CmdEngineConfig}
    (hinit : cmdEngineInit ctx shm config = (true, ctx')) :
    ∃ dataBuffer dataBufferSize,
      ctx'.adminCtx = cmdEngineInitAdmin config dataBuffer dataBufferSize ∧
        ctx'.ioCtx = cmdEngineInitIo config dataBuffer dataBufferSize := by
  unfold cmdEngineInit at hinit
  by_cases hmagic : shm.magic ≠ 0x454D564E
  · rw [if_pos hmagic] at hinit
    cases congrArg Prod.fst hinit
  · rw [if_neg hmagic] at hinit
    obtain rfl := congrArg Prod.snd hinit
    exact ⟨_, _, rfl, rfl⟩

/-- After a successful start the host's view and the I/O commands agree: the Active Namespace
List has exactly the ids that the I/O commands accept, and a range of blocks of such a namespace
is accepted exactly if it lies within the size that Identify Namespace reports. -/
theorem namespaceTables_agree (ctx ctx' : CmdEngineContext) (shm : Shm)
    (config : CmdEngineConfig) (hinit : cmdEngineInit ctx shm config = (true, ctx'))
    (hpage : ctx'.adminCtx.hasPage) (data data' : UInt32 → UInt8) (list identify : NvmeCommand)
    (hlist : list.nsid = 0) :
    (identify.nsid ∈ listedNsids (adminCmdIdentifyNamespaceList ctx'.adminCtx data list).data ↔
      ioCmdIsNamespaceValid ctx'.ioCtx identify.nsid) ∧
    (ioCmdIsNamespaceValid ctx'.ioCtx identify.nsid → ∀ slba nlb,
      ioCmdValidateLbaRange ctx'.ioCtx identify.nsid slba nlb =
        decide (slba.toNat + nlb.toNat ≤ (readUlonglong
          (adminCmdIdentifyNamespace ctx'.adminCtx data' identify).data 0).toNat)) := by
  have hagree : TablesAgree ctx'.adminCtx ctx'.ioCtx := by
    obtain ⟨dataBuffer, dataBufferSize, hadmin, hio⟩ := cmdEngineInit_started hinit
    rw [hadmin, hio]
    exact cmdEngineInit_tablesAgree config _ _
  constructor
  · rw [adminCmdIdentifyNamespaceList_data hpage hagree.count_le data hlist,
      mem_activeNsids hagree.count_le, isNamespaceValid_iff, hagree.count, hagree.active,
      UInt32.pos_iff_ne_zero]
    rfl
  · intro hvalid slba nlb
    obtain ⟨hne, hle, -⟩ := (isNamespaceValid_iff _ _).mp hvalid
    rw [← hagree.count] at hle
    rw [ioCmdValidateLbaRange_eq hvalid, adminCmdIdentifyNamespace_nsze hpage data' hne hle,
      hagree.size]
    rfl

/-- Three namespaces, the second one a hole. -/
def sampleEngineConfig : CmdEngineConfig where
  namespaceCount := 3
  namespaces := fun i => { size := 100, blockSize := 512, active := i ≠ 1 }

/-- A server started with these, and with a data buffer of one page. -/
def sampleEngine : Bool × CmdEngineContext :=
  cmdEngineInit {} { vnvmeAllocateShm with dataBufferOffset := 0x10000, dataBufferSize := 4096 }
    sampleEngineConfig

theorem namespaceTables_agree_sample :
    (3 ∈ listedNsids (adminCmdIdentifyNamespaceList sampleEngine.2.adminCtx (fun _ => 0xFF)
        {}).data ↔ ioCmdIsNamespaceValid sampleEngine.2.ioCtx 3) ∧
    (ioCmdIsNamespaceValid sampleEngine.2.ioCtx 3 → ∀ slba nlb,
      ioCmdValidateLbaRange sampleEngine.2.ioCtx 3 slba nlb =
        decide (slba.toNat + nlb.toNat ≤ (readUlonglong (adminCmdIdentifyNamespace
          sampleEngine.2.adminCtx (fun _ => 0xFF) { nsid := 3 }).data 0).toNat)) :=
  namespaceTables_agree {} sampleEngine.2
    { vnvmeAllocateShm with dataBufferOffset := 0x10000, dataBufferSize := 4096 }
    sampleEngineConfig rfl rfl _ _ {} { nsid := 3 } rfl

end VirtualNvme
