import Mathlib.Data.List.Sort
import VirtualNvme.ShiftQueue
import VirtualNvme.Verification.HostWrites
import VirtualNvme.Verification.NamespaceTables

/-!
# The list of active namespaces

Both sides answer Identify with the ids of the active namespaces behind a given one. The kernel
starts its loop behind that id, the server goes through its whole table and leaves out what comes
before. Both lists are complete and in order, so for the same namespaces they are the same.
-/

namespace VirtualNvme

open ShiftQueue

/-! ## The loops -/

/-- One round of the loops that fill `nsList`, up to its 1024 entries. -/
def nsListStep (listed : Nat → Bool) (s : (Nat → UInt32) × Nat) (i : Nat) :
    (Nat → UInt32) × Nat :=
  if s.2 < 1024 ∧ listed i then (Function.update s.1 s.2 (UInt32.ofNat (i + 1)), s.2 + 1) else s

/-- The loop of `HandleIdentifyActiveNsList`, from index `startNsid` on. -/
def activeNsListLoop (m : Media) (startNsid : UInt32) : (Nat → UInt32) × Nat :=
  (List.range' startNsid.toNat (16 - startNsid.toNat)).foldl
    (nsListStep fun i => (m.namespaces i).active) (fun _ => 0, 0)

/-- The loop of `AdminCmdIdentifyNamespaceList`. -/
def activeNsidsLoop (ctx : AdminCmdContext) (startNsid : UInt32) : (Nat → UInt32) × Nat :=
  (List.range ctx.namespaceCount.toNat).foldl
    (nsListStep fun i => startNsid.toNat < i + 1 && (ctx.namespaces i).active) (fun _ => 0, 0)

/-- What such a loop has listed. -/
theorem nsListStep_foldl (listed : Nat → Bool) (l : List Nat) :
    let r := l.foldl (nsListStep listed) (fun _ => 0, 0)
    contents r.1 r.2 = ((l.filter listed).map fun i => UInt32.ofNat (i + 1)).take 1024 := by
  induction l using List.reverseRecOn with
  | nil => rfl
  | append_singleton l i ih =>
      dsimp only at ih ⊢
      have hlength := congrArg List.length ih
      rw [length_contents, List.length_take] at hlength
      rw [List.foldl_append, List.foldl_cons, List.foldl_nil, List.filter_append, List.map_append,
        nsListStep]
      split_ifs with hroom
      · obtain ⟨hlt, hi⟩ := hroom
        have hshort : ((l.filter listed).map fun i => UInt32.ofNat (i + 1)).length < 1024 := by
          omega
        rw [contents_push, ih, List.take_of_length_le hshort.le, List.filter_singleton, hi]
        refine (List.take_of_length_le ?_).symm
        rw [List.length_append]
        exact hshort
      · rw [ih]
        by_cases hi : listed i = true
        · rw [List.take_append_of_le_length]
          have hlt := mt (And.intro · hi) hroom
          omega
        · rw [List.filter_singleton, Bool.eq_false_iff.mpr hi]
          simp

/-- A loop that starts at `start` goes through what a loop from 0 on does not leave out. -/
theorem filter_range_from (start n : Nat) (p : Nat → Bool) :
    (List.range n).filter (fun i => start ≤ i && p i) =
      (List.range' start (n - start)).filter p := by
  have hsplit : List.range n =
      List.range (min start n) ++ List.range' (min start n) (n - min start n) := by
    have happend := List.range'_append_1 (s := 0) (m := min start n) (n := n - min start n)
    rw [Nat.zero_add, Nat.add_sub_cancel' (Nat.min_le_right start n)] at happend
    rw [List.range_eq_range', List.range_eq_range', happend]
  have hbefore : (List.range (min start n)).filter (fun i => start ≤ i && p i) = [] := by
    refine List.filter_eq_nil_iff.mpr fun i hi => ?_
    have hlt := List.mem_range.mp hi
    have hno : ¬ start ≤ i := by omega
    simp [hno]
  rw [hsplit, List.filter_append, hbefore, List.nil_append]
  rcases Nat.le_total start n with hle | hle
  · rw [Nat.min_eq_left hle]
    refine List.filter_congr fun i hi => ?_
    have hge : start ≤ i := (List.mem_range'_1.mp hi).1
    simp [hge]
  · rw [Nat.min_eq_right hle, Nat.sub_self, Nat.sub_eq_zero_of_le hle]
    rfl

theorem activeNsList_loop (m : Media) (startNsid : UInt32) :
    contents (activeNsListLoop m startNsid).1 (activeNsListLoop m startNsid).2 =
      activeNsList m startNsid := by
  have hloop := nsListStep_foldl (fun i => (m.namespaces i).active)
    (List.range' startNsid.toNat (16 - startNsid.toNat))
  refine hloop.trans ?_
  rw [List.take_of_length_le, activeNsList, filter_range_from]
  rw [List.length_map]
  have hle := List.length_filter_le (fun i => (m.namespaces i).active)
    (List.range' startNsid.toNat (16 - startNsid.toNat))
  rw [List.length_range'] at hle
  omega

theorem activeNsids_loop (ctx : AdminCmdContext) (startNsid : UInt32) :
    contents (activeNsidsLoop ctx startNsid).1 (activeNsidsLoop ctx startNsid).2 =
      activeNsids ctx startNsid :=
  nsListStep_foldl _ _

/-! ## The lists -/

/-- The ids of the kernel's active namespaces. -/
def Media.ActiveNsid (m : Media) (nsid : UInt32) : Prop := (activeNamespace m nsid).isSome = true

/-- The ids of the server's active namespaces. -/
def AdminCmdContext.ActiveNsid (ctx : AdminCmdContext) (nsid : UInt32) : Prop :=
  nsid ≠ 0 ∧ nsid ≤ ctx.namespaceCount ∧ (ctx.namespaces (nsid.toNat - 1)).active = true

theorem activeNsid_iff (m : Media) (nsid : UInt32) :
    m.ActiveNsid nsid ↔
      nsid ≠ 0 ∧ nsid.toNat ≤ 16 ∧ (m.namespaces (nsid.toNat - 1)).active = true := by
  unfold Media.ActiveNsid activeNamespace
  dsimp only
  split_ifs with h
  · simp only [vnvmeNsidValid, vnvmeNsidToIndex, Bool.and_eq_true, decide_eq_true_eq] at h
    exact iff_of_true rfl ⟨UInt32.pos_iff_ne_zero.mp h.1.1, h.1.2, h.2⟩
  · refine iff_of_false Bool.false_ne_true fun hactive => h ?_
    obtain ⟨hne, hle, hactive⟩ := hactive
    simp only [vnvmeNsidValid, vnvmeNsidToIndex, Bool.and_eq_true, decide_eq_true_eq]
    exact ⟨⟨UInt32.pos_iff_ne_zero.mpr hne, hle⟩, hactive⟩

theorem mem_activeNsList (m : Media) (start nsid : UInt32) :
    nsid ∈ activeNsList m start ↔ start < nsid ∧ m.ActiveNsid nsid := by
  rw [activeNsid_iff]
  simp only [activeNsList, List.mem_map, List.mem_filter, List.mem_range, Bool.and_eq_true,
    decide_eq_true_eq]
  constructor
  · rintro ⟨i, ⟨hi, hstart, hactive⟩, rfl⟩
    have hnat : (UInt32.ofNat (i + 1)).toNat = i + 1 :=
      UInt32.toNat_ofNat_of_lt' (show i + 1 < 2 ^ 32 by omega)
    refine ⟨UInt32.lt_iff_toNat_lt.mpr (by omega), fun hzero => ?_, by omega, ?_⟩
    · rw [hzero] at hnat
      cases hnat
    · rwa [hnat]
  · rintro ⟨hstart, -, hle, hactive⟩
    have hstart := UInt32.lt_iff_toNat_lt.mp hstart
    have hpos : nsid.toNat - 1 + 1 = nsid.toNat := by omega
    refine ⟨nsid.toNat - 1, ⟨by omega, by omega, hactive⟩, ?_⟩
    rw [hpos]
    exact UInt32.ofNat_toNat

theorem activeNsList_length_le (m : Media) (start : UInt32) :
    (activeNsList m start).length ≤ 16 := by
  have hle := List.length_filter_le
    (fun i => start.toNat ≤ i && (m.namespaces i).active) (List.range 16)
  rw [List.length_range] at hle
  rwa [activeNsList, List.length_map]

/-- The ids of a table come in increasing order. -/
theorem nsids_sorted (n : Nat) (hn : n ≤ 16) (p : Nat → Bool) :
    (((List.range n).filter p).map fun i => UInt32.ofNat (i + 1)).Pairwise (· < ·) := by
  rw [List.pairwise_map]
  refine ((List.pairwise_lt_range (n := n)).filter p).imp_of_mem ?_
  intro i j hi hj hlt
  have hi := List.mem_range.mp (List.mem_of_mem_filter hi)
  have hj := List.mem_range.mp (List.mem_of_mem_filter hj)
  rw [UInt32.lt_iff_toNat_lt, UInt32.toNat_ofNat_of_lt' (show i + 1 < 2 ^ 32 by omega),
    UInt32.toNat_ofNat_of_lt' (show j + 1 < 2 ^ 32 by omega)]
  exact Nat.succ_lt_succ hlt

theorem activeNsList_sorted (m : Media) (start : UInt32) :
    (activeNsList m start).Pairwise (· < ·) := nsids_sorted 16 (Nat.le_refl 16) _

theorem activeNsids_sorted {ctx : AdminCmdContext} (hcount : ctx.namespaceCount ≤ 16)
    (start : UInt32) : (activeNsids ctx start).Pairwise (· < ·) :=
  (nsids_sorted _ hcount _).sublist (List.take_sublist _ _)

/-- The two lists are the same for the same namespaces. -/
theorem activeNsList_eq {m : Media} {ctx : AdminCmdContext} (hcount : ctx.namespaceCount ≤ 16)
    (hsame : ∀ nsid, m.ActiveNsid nsid ↔ ctx.ActiveNsid nsid) (start : UInt32) :
    activeNsList m start = activeNsids ctx start := by
  refine (activeNsList_sorted m start).eq_of_mem_iff (activeNsids_sorted hcount start) ?_
  intro nsid
  rw [mem_activeNsList, mem_activeNsids hcount, hsame]
  refine and_congr_right fun hstart => ?_
  have hne : nsid ≠ 0 := UInt32.pos_iff_ne_zero.mp (UInt32.lt_of_le_of_lt UInt32.zero_le hstart)
  exact ⟨fun h => h.2, fun h => ⟨hne, h⟩⟩

/-! ## The pages -/

/-- The page lists exactly the ids behind `start` that are active, in increasing order and with
zeros behind them. -/
def ListsActive (page : UInt32 → UInt8) (active : UInt32 → Prop) (start : UInt32) : Prop :=
  ∃ l : List UInt32, l.Pairwise (· < ·) ∧ (∀ nsid, nsid ∈ l ↔ start < nsid ∧ active nsid) ∧
    l.length ≤ 1024 ∧
    ∀ k, k < 1024 → readUlong page (UInt32.ofNat (4 * k)) = l.getD k 0

theorem listsActive_page (data : UInt32 → UInt8) {l : List UInt32} (hlen : l.length ≤ 1024)
    (hsorted : l.Pairwise (· < ·)) {active : UInt32 → Prop} {start : UInt32}
    (hmem : ∀ nsid, nsid ∈ l ↔ start < nsid ∧ active nsid) :
    ListsActive (putBytes (clearBytes data 4096) 0 (l.flatMap le32)) active start :=
  ⟨l, hsorted, hmem, hlen, fun _ hk => readUlong_page data l hk⟩

/-- A page that is copied to the host as it is. -/
theorem ListsActive.congr {page page' : UInt32 → UInt8} {active : UInt32 → Prop} {start : UInt32}
    (h : ListsActive page active start) (hpage : ∀ i, i < 4096 → page' i = page i) :
    ListsActive page' active start := by
  obtain ⟨l, hsorted, hmem, hlen, hwords⟩ := h
  refine ⟨l, hsorted, hmem, hlen, fun k hk => ?_⟩
  rw [← hwords k hk]
  refine readUlong_congr fun j hj => hpage _ ?_
  rw [← UInt32.ofNat_add, UInt32.lt_iff_toNat_lt,
    UInt32.toNat_ofNat_of_lt' (show 4 * k + j < 2 ^ 32 by omega)]
  exact show 4 * k + j < 4096 by omega

/-- The page that the kernel sends. -/
theorem handleIdentifyActiveNsList_page {pdo : PdoContext} {os : Os} {cmd : NvmeCommand}
    (hok : (handleIdentifyActiveNsList pdo os cmd).completion = some (0, 0, 0)) {i : UInt32}
    (hi : i < 4096) :
    hostPage (handleIdentifyActiveNsList pdo os cmd).os.hostMem cmd.prp1 i =
      putBytes (clearBytes (fun _ => 0) 4096) 0
        ((activeNsList pdo.toMedia cmd.nsid).flatMap le32) i := by
  have hclear : clearBytes (fun _ => 0) 4096 = fun _ => 0 := funext fun i => ite_self 0
  rw [hclear, allocated_sent (r := handleIdentifyActiveNsList pdo os cmd) rfl hok,
    hostPage_hostCopy _ _ _ hi]

/-- **The two lists of active namespaces.** A list that the kernel sends has exactly the active
ids behind the given one, in increasing order and followed by zeros, and the page that a started
server fills is the same if it has the same active namespaces. -/
theorem activeNsList_complete (pdo : PdoContext) (os : Os) (cmd : NvmeCommand)
    (hok : (handleIdentifyActiveNsList pdo os cmd).completion = some (0, 0, 0)) :
    let page := hostPage (handleIdentifyActiveNsList pdo os cmd).os.hostMem cmd.prp1
    ListsActive page pdo.toMedia.ActiveNsid cmd.nsid ∧
      ∀ (config : CmdEngineConfig) (dataBuffer : Bool) (dataBufferSize : UInt32)
        (ctx : AdminCmdContext) (data : UInt32 → UInt8),
        ctx.namespaceCount = (cmdEngineInitAdmin config dataBuffer dataBufferSize).namespaceCount →
        ctx.hasPage = true → (∀ nsid, pdo.toMedia.ActiveNsid nsid ↔ ctx.ActiveNsid nsid) →
        ∀ i, i < 4096 → page i = (adminCmdIdentifyNamespaceList ctx data cmd).data i := by
  refine ⟨?_, ?_⟩
  · have hlen : (activeNsList pdo.toMedia cmd.nsid).length ≤ 1024 :=
      (activeNsList_length_le _ _).trans (by decide)
    refine (listsActive_page (fun _ => 0) hlen (activeNsList_sorted _ _) ?_).congr fun i hi =>
      handleIdentifyActiveNsList_page hok hi
    exact mem_activeNsList _ _
  · intro config dataBuffer dataBufferSize ctx data hcount hpage hsame i hi
    have hle : ctx.namespaceCount ≤ 16 := by
      rw [hcount]
      exact (cmdEngineInit_tablesAgree config dataBuffer dataBufferSize).count_le
    refine (handleIdentifyActiveNsList_page hok hi).trans ?_
    simp only [adminCmdIdentifyNamespaceList, AdminCmdContext.reply, hpage, if_true,
      activeNsList_eq hle hsame]
    rw [putBytes_clear _ _ hi, putBytes_clear _ _ hi]

/-- A controller with the namespaces 1 and 3. -/
def holedController : PdoContext :=
  { namespaces := fun i => { active := i = 0 ∨ i = 2 }, namespaceCount := 2 }

/-- The server of `sampleEngine` has these namespaces too. -/
theorem activeNsList_complete_sample :
    ListsActive (hostPage (handleIdentifyActiveNsList holedController {}
        { prp1 := 0x100000 }).os.hostMem 0x100000) holedController.toMedia.ActiveNsid 0 ∧
      ∀ i, i < 4096 → hostPage (handleIdentifyActiveNsList holedController {}
        { prp1 := 0x100000 }).os.hostMem 0x100000 i =
          (adminCmdIdentifyNamespaceList sampleEngine.2.adminCtx (fun _ => 0xFF)
            { prp1 := 0x100000 }).data i := by
  obtain ⟨hlists, hserver⟩ :=
    activeNsList_complete holedController {} { prp1 := 0x100000 } rfl
  refine ⟨hlists, hserver sampleEngineConfig true 4096 _ _ rfl rfl fun nsid => ?_⟩
  rw [activeNsid_iff]
  have hone : nsid.toNat = 1 → nsid = 1 := fun h => UInt32.toNat_inj.mp h
  have htwo : nsid.toNat = 2 → nsid = 2 := fun h => UInt32.toNat_inj.mp h
  have hthree : nsid.toNat = 3 → nsid = 3 := fun h => UInt32.toNat_inj.mp h
  constructor
  · rintro ⟨hne, -, hactive⟩
    have hpos : nsid.toNat ≠ 0 := fun h => hne (UInt32.toNat_inj.mp h)
    have hslot : nsid.toNat - 1 = 0 ∨ nsid.toNat - 1 = 2 := of_decide_eq_true hactive
    rcases hslot with h | h
    · rw [hone (by omega)]
      exact ⟨by decide, by decide, rfl⟩
    · rw [hthree (by omega)]
      exact ⟨by decide, by decide, rfl⟩
  · rintro ⟨hne, hle, hactive⟩
    have hpos : nsid.toNat ≠ 0 := fun h => hne (UInt32.toNat_inj.mp h)
    have hle : nsid.toNat ≤ 3 := hle
    obtain h | h | h : nsid.toNat = 1 ∨ nsid.toNat = 2 ∨ nsid.toNat = 3 := by omega
    · rw [hone h]
      exact ⟨by decide, by decide, rfl⟩
    · rw [htwo h] at hactive
      cases hactive
    · rw [hthree h]
      exact ⟨by decide, by decide, rfl⟩

end VirtualNvme
