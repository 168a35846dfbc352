import VirtualNvme.Verification.PrpEntries

/-!
# Inside the list, inside the window

The parser maps at most one page of the list and accepts every address from 1 MB to 16 TB, but it
compares neither the number of entries with the page nor the end of a segment with the window. An
entry with a page offset has less room than its page, and the transfer then ends early. So a parsed
transfer is what its length says exactly if the list fits in its page, its entries have room for
the data, and an address at the very top is used for one byte.
-/

namespace VirtualNvme

/-! ## What the loop reads -/

/-- The indices of the list that the loop over its entries reads. -/
def parsePrpReads (mem : UInt64 → UInt8) (prp2 : UInt64) : ℕ → ℕ → UInt32 → List ℕ
  | 0, _, _ => []
  | pages + 1, i, remaining =>
    if remaining = 0 then []
    else
      let prpEntry := hostWord mem (prp2 + 8 * UInt64.ofNat i) 8
      if !vnvmeIsValidPhysicalAddress prpEntry 4096 then [i]
      else
        let room := 4096 - prpOffset prpEntry
        let length := if room > remaining then remaining else room
        i :: parsePrpReads mem prp2 pages (i + 1) (remaining - length)

/-- The loop looks at the list nowhere else. -/
theorem parsePrpEntries_congr {mem mem' : UInt64 → UInt8} {prp2 : UInt64} (pages i : ℕ)
    (remaining : UInt32)
    (h : ∀ k ∈ parsePrpReads mem prp2 pages i remaining,
      listEntry mem prp2 k = listEntry mem' prp2 k) :
    parsePrpEntries mem prp2 pages i remaining = parsePrpEntries mem' prp2 pages i remaining := by
  induction pages generalizing i remaining with
  | zero => rfl
  | succ pages ih =>
      rw [parsePrpReads] at h
      rw [parsePrpEntries, parsePrpEntries]
      by_cases hzero : remaining = 0
      · rw [if_pos hzero, if_pos hzero]
      · rw [if_neg hzero] at h ⊢
        rw [if_neg hzero]
        have hentry (mem : UInt64 → UInt8) :
            hostWord mem (prp2 + 8 * UInt64.ofNat i) 8 = listEntry mem prp2 i := rfl
        dsimp only at h ⊢
        rw [hentry] at h ⊢
        rw [hentry]
        by_cases hvalid : (!vnvmeIsValidPhysicalAddress (listEntry mem prp2 i) 4096) = true
        · rw [if_pos hvalid] at h ⊢
          rw [← h i List.mem_cons_self, if_pos hvalid]
        · rw [if_neg hvalid] at h ⊢
          rw [← h i List.mem_cons_self, if_neg hvalid,
            ih _ _ fun k hk => h k (List.mem_cons_of_mem i hk)]

theorem parsePrpReads_eq {mem : UInt64 → UInt8} {prp2 : UInt64} (pages i : ℕ) (remaining : UInt32)
    (hmany : ∀ k, k < pages → 4096 * k < remaining.toNat)
    (hvalid : ∀ k, k < pages →
      vnvmeIsValidPhysicalAddress (listEntry mem prp2 (i + k)) 4096 = true) :
    parsePrpReads mem prp2 pages i remaining = List.range' i pages := by
  induction pages generalizing i remaining with
  | zero => rfl
  | succ pages ih =>
      have hne : remaining ≠ 0 := UInt32.pos_iff_ne_zero.mp (hmany 0 (Nat.succ_pos pages))
      have hentry : hostWord mem (prp2 + 8 * UInt64.ofNat i) 8 = listEntry mem prp2 i := rfl
      rw [parsePrpReads, if_neg hne]
      dsimp only
      rw [hentry, if_neg (by simpa using hvalid 0 (Nat.succ_pos pages)), List.range'_succ]
      have hmin := takenLength_toNat (listEntry mem prp2 i) remaining
      generalize (if 4096 - prpOffset (listEntry mem prp2 i) > remaining then remaining
        else 4096 - prpOffset (listEntry mem prp2 i)) = length at hmin ⊢
      have hleft : (remaining - length).toNat = remaining.toNat - length.toNat :=
        UInt32.toNat_sub_of_le _ _ (UInt32.le_iff_toNat_le.mpr (by omega))
      refine congrArg (i :: ·) (ih (i + 1) (remaining - length) (fun k hk => ?_) fun k hk => ?_)
      · have hnext := hmany (k + 1) (by omega)
        omega
      · rw [Nat.add_assoc, Nat.add_comm 1]
        exact hvalid (k + 1) (by omega)

/-- The indices of the list that `VnvmeParsePrpList` reads once the list is mapped. -/
def prpReads (os : Os) (prp1 prp2 : UInt64) (len : UInt32) : List ℕ :=
  let firstPageBytes := 4096 - prpOffset prp1
  let numPages := prpPageCount firstPageBytes len
  if numPages ≤ 2 then []
  else parsePrpReads os.hostMem prp2 (numPages - 1).toNat 0 (len - firstPageBytes)

/-! ## The window -/

/-- Every byte of the segment lies from 1 MB to 16 TB. -/
def PrpEntry.InWindow (e : PrpEntry) : Prop :=
  ∀ j, j < e.length.toNat → 2 ^ 20 ≤ e.physicalAddress.toNat + e.offset.toNat + j ∧
    e.physicalAddress.toNat + e.offset.toNat + j ≤ 2 ^ 44

/-- The address check: it looks at the first byte only. -/
theorem valid_bounds {prp : UInt64} (h : vnvmeIsValidPhysicalAddress prp 4096 = true) :
    2 ^ 20 ≤ prp.toNat ∧ prp.toNat ≤ 2 ^ 44 := by
  have hlow : (0x100000 : UInt64).toNat = 2 ^ 20 := rfl
  have hhigh : (0x100000000000 : UInt64).toNat = 2 ^ 44 := rfl
  simp only [vnvmeIsValidPhysicalAddress, Bool.and_eq_true, Bool.not_eq_true',
    decide_eq_false_iff_not, gt_iff_lt, UInt64.lt_iff_toNat_lt, hlow, hhigh] at h
  omega

/-- A segment inside one page, from an accepted address on. -/
theorem inWindow_iff {e : PrpEntry} {a : ℕ}
    (ha : e.physicalAddress.toNat + e.offset.toNat = a) (hbounds : 2 ^ 20 ≤ a ∧ a ≤ 2 ^ 44)
    (hpage : a % 4096 + e.length.toNat ≤ 4096) :
    e.InWindow ↔ (a = 2 ^ 44 → e.length.toNat ≤ 1) := by
  unfold PrpEntry.InWindow
  rw [ha]
  constructor
  · intro hall htop
    by_contra hlong
    have hsecond := (hall 1 (by omega)).2
    omega
  · intro htop j hj
    by_cases ha : a = 2 ^ 44
    · have hone := htop ha
      omega
    · omega

/-! ## One parse -/

/-- The parser has read the list inside its mapping, and the segments have `len` bytes, all in the
window. -/
structure SafeParse (os : Os) (prp1 prp2 : UInt64) (len : UInt32) (es : List PrpEntry) : Prop where
  indices : ∀ i ∈ prpReads os prp1 prp2 len,
    8 * i + 8 ≤ (prpListSize (prpPageCount (4096 - prpOffset prp1) len)).toNat
  total : (es.map fun e => e.length.toNat).sum = len.toNat
  window : ∀ e ∈ es, e.InWindow

/-- The bytes from `PRP1` to the end of its page. -/
def firstRoom (prp1 : UInt64) : ℕ := 4096 - (prpOffset prp1).toNat

/-- The list of a transfer stays in one page, and its entries have room for the data. Where an
address is the very top of the window, the data ends with the byte at this address. -/
structure PrpsFit (mem : UInt64 → UInt8) (prp1 prp2 : UInt64) (len : ℕ) : Prop where
  onePage : dataPageCount prp1 len ≤ 513
  filled : 2 < dataPageCount prp1 len →
    len ≤ firstRoom prp1 + listRoom mem prp2 0 (dataPageCount prp1 len - 1)
  first : prp1.toNat = 2 ^ 44 → len ≤ 1
  second : dataPageCount prp1 len = 2 → prp2.toNat = 2 ^ 44 → len ≤ firstRoom prp1 + 1
  list : 2 < dataPageCount prp1 len → ∀ k, k < dataPageCount prp1 len - 1 →
    (listEntry mem prp2 k).toNat = 2 ^ 44 → len ≤ firstRoom prp1 + listRoom mem prp2 0 k + 1

section Parsed

variable {os : Os} {prp1 prp2 : UInt64} {len : UInt32} (hpos : 0 < len.toNat)
  (hmax : len.toNat ≤ 65535 * 4096) (haccepted : PrpsAccepted os prp1 prp2 len.toNat)

include hpos hmax in
theorem prpListSize_toNat : (prpListSize (prpPageCount (4096 - prpOffset prp1) len)).toNat =
    min (8 * (dataPageCount prp1 len.toNat - 1)) 4096 := by
  have hcount := prpPageCount_toNat prp1 hpos (by omega)
  have hsome := dataPageCount_pos prp1 hpos
  have hoff := prpOffset_toNat prp1
  have hfew : dataPageCount prp1 len.toNat ≤ 65536 := by
    unfold dataPageCount
    omega
  have h1 : (1 : UInt32).toNat = 1 := rfl
  have h8 : (8 : UInt32).toNat = 8 := rfl
  have h4096 : (4096 : UInt32).toNat = 4096 := rfl
  have hsize : ((prpPageCount (4096 - prpOffset prp1) len - 1) * 8).toNat =
      8 * (dataPageCount prp1 len.toNat - 1) := by
    rw [UInt32.toNat_mul, UInt32.toNat_sub_of_le _ _ (UInt32.le_iff_toNat_le.mpr (by omega)),
      hcount, h1, h8]
    omega
  unfold prpListSize
  dsimp only
  split_ifs with hgt
  · rw [gt_iff_lt, UInt32.lt_iff_toNat_lt, hsize] at hgt
    omega
  · rw [gt_iff_lt, UInt32.lt_iff_toNat_lt, hsize] at hgt
    omega

/-- The entries of the list take as much as they have room for. -/
theorem sum_listSegments (mem : UInt64 → UInt8) (prp2 : UInt64) (rest n : ℕ) :
    (((List.range n).map (listSegment mem prp2 0 rest)).map fun e => e.length.toNat).sum =
      min rest (listRoom mem prp2 0 n) := by
  rw [List.map_map, sum_list_range, listRoom, ← sum_fill]
  exact Finset.sum_congr rfl fun k _ => listLength_toNat mem prp2 0 rest k

include hpos in
/-- Together the segments have all bytes, as far as the list has room for them. -/
theorem sum_segments (mem : UInt64 → UInt8) (prp1 prp2 : UInt64) :
    ((firstSegment prp1 len :: laterSegments mem prp1 prp2 len).map
        fun e => e.length.toNat).sum =
      if 2 < dataPageCount prp1 len.toNat then
        min len.toNat
          (firstRoom prp1 + listRoom mem prp2 0 (dataPageCount prp1 len.toNat - 1))
      else len.toNat := by
  have hsome := dataPageCount_pos prp1 hpos
  have hfirst : (firstSegment prp1 len).length.toNat = min (firstRoom prp1) len.toNat :=
    firstLength_toNat prp1 len
  have hoff := prpOffset_toNat prp1
  have hroom : firstRoom prp1 = 4096 - (prpOffset prp1).toNat := rfl
  rw [List.map_cons, List.sum_cons, hfirst]
  unfold laterSegments
  by_cases hone : dataPageCount prp1 len.toNat = 1
  · rw [if_pos hone, if_neg (by omega), List.map_nil, List.sum_nil]
    unfold dataPageCount at hone
    omega
  have hmany : 4096 ≤ (prpOffset prp1).toNat + len.toNat := by
    unfold dataPageCount at hone hsome
    omega
  have hrest := restLength_toNat hmany
  rw [if_neg hone]
  by_cases htwo : dataPageCount prp1 len.toNat = 2
  · rw [if_pos htwo, if_neg (by omega), List.map_singleton, List.sum_singleton, hrest]
    omega
  · rw [if_neg htwo, if_pos (by omega), sum_listSegments, hrest]
    omega

include hpos in
/-- The segments make up the transfer, or the list has too little room. -/
theorem total_iff (mem : UInt64 → UInt8) (prp1 prp2 : UInt64) :
    ((firstSegment prp1 len :: laterSegments mem prp1 prp2 len).map
        fun e => e.length.toNat).sum = len.toNat ↔
      (2 < dataPageCount prp1 len.toNat → len.toNat ≤
        firstRoom prp1 + listRoom mem prp2 0 (dataPageCount prp1 len.toNat - 1)) := by
  rw [sum_segments hpos]
  split_ifs with hlist
  · rw [imp_iff_right hlist]
    omega
  · exact iff_of_true rfl fun hc => absurd hc hlist

include hpos in
/-- No segment is empty. -/
theorem segments_positive (mem : UInt64 → UInt8) (prp1 prp2 : UInt64) :
    ∀ e ∈ firstSegment prp1 len :: laterSegments mem prp1 prp2 len, 0 < e.length.toNat := by
  have hfirst : (firstSegment prp1 len).length.toNat = min (firstRoom prp1) len.toNat :=
    firstLength_toNat prp1 len
  have hoff := prpOffset_toNat prp1
  have hroom : firstRoom prp1 = 4096 - (prpOffset prp1).toNat := rfl
  have hsome := dataPageCount_pos prp1 hpos
  rw [List.forall_mem_cons]
  refine ⟨by omega, ?_⟩
  unfold laterSegments
  by_cases hone : dataPageCount prp1 len.toNat = 1
  · rw [if_pos hone]
    exact fun e he => by cases he
  have hrest := (rest_pages prp1 (by omega : 1 < dataPageCount prp1 len.toNat)).1
  rw [if_neg hone]
  by_cases htwo : dataPageCount prp1 len.toNat = 2
  · rw [if_pos htwo, List.forall_mem_singleton]
    show 0 < (len - (4096 - prpOffset prp1)).toNat
    omega
  · rw [if_neg htwo, List.forall_mem_map]
    intro k hk
    have hbefore := (listRoom_le 0 k : listRoom mem prp2 0 k ≤ 4096 * k)
    have hentry := (entryRoom_bounds (0 + k) : 0 < entryRoom mem prp2 (0 + k) ∧ _).1
    have hk := List.mem_range.mp hk
    rw [listLength_toNat, listLength]
    omega

include hpos hmax haccepted

/-- One index for each page behind the first. -/
theorem prpReads_eq : prpReads os prp1 prp2 len =
    if dataPageCount prp1 len.toNat ≤ 2 then []
    else List.range (dataPageCount prp1 len.toNat - 1) := by
  have hcount := prpPageCount_toNat prp1 hpos (by omega)
  have h1 : (1 : UInt32).toNat = 1 := rfl
  have h2 : (2 : UInt32).toNat = 2 := rfl
  unfold prpReads
  dsimp only
  by_cases hfew : dataPageCount prp1 len.toNat ≤ 2
  · rw [if_pos hfew, if_pos (UInt32.le_iff_toNat_le.mpr (by omega))]
  · have hmany : ¬ prpPageCount (4096 - prpOffset prp1) len ≤ 2 := by
      rw [UInt32.le_iff_toNat_le, hcount, h2]
      exact hfew
    have hrest := (rest_pages prp1 (by omega : 1 < dataPageCount prp1 len.toNat)).1
    have hpages : (prpPageCount (4096 - prpOffset prp1) len - 1).toNat =
        dataPageCount prp1 len.toNat - 1 := by
      rw [UInt32.toNat_sub_of_le _ _ (UInt32.le_iff_toNat_le.mpr (by omega)), hcount, h1]
    rw [if_neg hfew, if_neg hmany, hpages, List.range_eq_range']
    refine parsePrpReads_eq _ _ _ (fun k hk => by omega) fun k hk => ?_
    rw [Nat.zero_add]
    exact haccepted.list (by omega) k hk

theorem indices_iff : (∀ i ∈ prpReads os prp1 prp2 len,
      8 * i + 8 ≤ (prpListSize (prpPageCount (4096 - prpOffset prp1) len)).toNat) ↔
    dataPageCount prp1 len.toNat ≤ 513 := by
  rw [prpReads_eq hpos hmax haccepted, prpListSize_toNat hpos hmax]
  split_ifs with hfew
  · exact iff_of_true (fun i hi => by cases hi) (by omega)
  · simp only [List.mem_range]
    constructor
    · intro hall
      have hlast := hall (dataPageCount prp1 len.toNat - 2) (by omega)
      omega
    · intro hone i hi
      omega

theorem window_iff :
    (∀ e ∈ firstSegment prp1 len :: laterSegments os.hostMem prp1 prp2 len, e.InWindow) ↔
      (prp1.toNat = 2 ^ 44 → len.toNat ≤ 1) ∧
      (dataPageCount prp1 len.toNat = 2 → prp2.toNat = 2 ^ 44 →
        len.toNat ≤ firstRoom prp1 + 1) ∧
      (2 < dataPageCount prp1 len.toNat → ∀ k, k < dataPageCount prp1 len.toNat - 1 →
        (listEntry os.hostMem prp2 k).toNat = 2 ^ 44 →
        len.toNat ≤ firstRoom prp1 + listRoom os.hostMem prp2 0 k + 1) := by
  have hoff := prpOffset_toNat prp1
  have hroom : firstRoom prp1 = 4096 - (prpOffset prp1).toNat := rfl
  have hsome := dataPageCount_pos prp1 hpos
  have hwhole (prp : UInt64) : (prpPage prp).toNat + (prpOffset prp).toNat = prp.toNat := by
    rw [prpPage_toNat, prpOffset_toNat]
    omega
  have hfirst : (firstSegment prp1 len).InWindow ↔ (prp1.toNat = 2 ^ 44 → len.toNat ≤ 1) := by
    have hlength : (firstSegment prp1 len).length.toNat = min (firstRoom prp1) len.toNat :=
      firstLength_toNat prp1 len
    rw [inWindow_iff (hwhole prp1) (valid_bounds haccepted.first) (by omega), hlength]
    refine forall_congr' fun htop => ?_
    omega
  rw [List.forall_mem_cons, hfirst]
  refine and_congr_right fun _ => ?_
  unfold laterSegments
  by_cases hone : dataPageCount prp1 len.toNat = 1
  · rw [if_pos hone]
    exact iff_of_true (fun e he => by cases he) ⟨fun h => by omega, fun h => by omega⟩
  have hmany : 4096 ≤ (prpOffset prp1).toNat + len.toNat := by
    unfold dataPageCount at hone hsome
    omega
  have hrest := restLength_toNat hmany
  have hbytes := (rest_pages prp1 (by omega : 1 < dataPageCount prp1 len.toNat)).2
  rw [if_neg hone]
  by_cases htwo : dataPageCount prp1 len.toNat = 2
  · rw [if_pos htwo, List.forall_mem_singleton]
    have hbounds := valid_bounds (haccepted.second (by omega))
    have hpage := prpPage_toNat prp2
    have hlength : (PrpEntry.mk (prpPage prp2) 0 (len - (4096 - prpOffset prp1))).length.toNat =
        len.toNat - firstRoom prp1 := hrest
    rw [inWindow_iff (a := (prpPage prp2).toNat) (Nat.add_zero _) (by omega)
      (by rw [hlength]; omega), hlength]
    constructor
    · intro htop
      exact ⟨fun _ h => by have := htop (by omega); omega, fun h => by omega⟩
    · rintro ⟨htop, -⟩ h
      have := htop htwo (by omega)
      omega
  · rw [if_neg htwo, List.forall_mem_map, hrest]
    simp only [List.mem_range]
    have hlist : 2 < dataPageCount prp1 len.toNat := by omega
    have hsegment (k : ℕ) (hk : k < dataPageCount prp1 len.toNat - 1) :
        (listSegment os.hostMem prp2 0 (len.toNat - (4096 - (prpOffset prp1).toNat)) k).InWindow ↔
          ((listEntry os.hostMem prp2 k).toNat = 2 ^ 44 →
            len.toNat ≤ firstRoom prp1 + listRoom os.hostMem prp2 0 k + 1) := by
      have hlength := listLength_toNat os.hostMem prp2 0
        (len.toNat - (4096 - (prpOffset prp1).toNat)) k
      have hentry := prpOffset_toNat (listEntry os.hostMem prp2 k)
      rw [listLength, Nat.zero_add] at hlength
      have hentryRoom : entryRoom os.hostMem prp2 k =
          4096 - (prpOffset (listEntry os.hostMem prp2 k)).toNat := rfl
      have hstart := hwhole (listEntry os.hostMem prp2 (0 + k))
      rw [inWindow_iff (hstart.trans (by rw [Nat.zero_add]))
        (valid_bounds (haccepted.list hlist k hk)) (by rw [hlength]; omega), hlength]
      refine forall_congr' fun htop => ?_
      omega
    constructor
    · exact fun hall => ⟨fun h => absurd h htwo, fun _ k hk => (hsegment k hk).mp (hall k hk)⟩
    · exact fun hall k hk => (hsegment k hk).mpr (hall.2 hlist k hk)

end Parsed

/-- **What a successful parse promises.** For every length that a handler passes. -/
theorem vnvmeParsePrpList_safe_iff {os : Os} {prp1 prp2 : UInt64} {len : UInt32}
    {es : List PrpEntry} (hmax : len.toNat ≤ 65535 * 4096)
    (hok : (vnvmeParsePrpList os prp1 prp2 len).1 = .ok es) :
    SafeParse os prp1 prp2 len es ↔ PrpsFit os.hostMem prp1 prp2 len.toNat := by
  by_cases hzero : len = 0
  · -- no data, no segments
    subst hzero
    obtain rfl : [] = es := Except.ok.inj hok
    have hreads : prpReads os prp1 prp2 0 = [] := rfl
    refine iff_of_true ⟨fun i hi => ?_, rfl, fun e he => by cases he⟩ ?_
    · rw [hreads] at hi
      cases hi
    · have hoff := prpOffset_toNat prp1
      have hfew : dataPageCount prp1 (0 : UInt32).toNat ≤ 1 := by
        rw [dataPageCount, UInt32.toNat_zero]
        omega
      exact ⟨by omega, fun h => by omega, fun _ => Nat.zero_le 1, fun h => by omega,
        fun h => by omega⟩
  · have hpos : 0 < len.toNat := UInt32.pos_iff_ne_zero.mpr hzero
    obtain ⟨haccepted, rfl⟩ := (vnvmeParsePrpList_ok_iff hpos (by omega) es).mp hok
    have hindices := indices_iff hpos hmax haccepted
    have htotal := total_iff hpos os.hostMem prp1 prp2
    have hwindow := window_iff hpos hmax haccepted
    constructor
    · rintro ⟨hi, ht, hw⟩
      obtain ⟨hfirst, hsecond, hlist⟩ := hwindow.mp hw
      exact ⟨hindices.mp hi, htotal.mp ht, hfirst, hsecond, hlist⟩
    · rintro ⟨hone, hfilled, hfirst, hsecond, hlist⟩
      exact ⟨hindices.mpr hone, htotal.mpr hfilled, hwindow.mpr ⟨hfirst, hsecond, hlist⟩⟩

/-- Three pages, the others from a list. -/
theorem vnvmeParsePrpList_safe_iff_threePages :
    SafeParse { hostMem := listMemory } 0x100010 0x200000 10000
        [⟨0x100000, 16, 4080⟩, ⟨0x300000, 0, 4096⟩, ⟨0x300000, 0, 1824⟩] ↔
      PrpsFit listMemory 0x100010 0x200000 (10000 : UInt32).toNat :=
  vnvmeParsePrpList_safe_iff (by decide) rfl

/-- Every entry of the list at 2 MB is the same address. -/
theorem listMemory_entry (k : ℕ) : listEntry listMemory 0x200000 k = 0x300000 := by
  have hbyte (i : ℕ) (hi : i < 8) : listMemory (0x200000 + 8 * UInt64.ofNat k + UInt64.ofNat i) =
      if UInt64.ofNat i = 2 then 0x30 else 0 := by
    have hlow : (0x200000 + 8 * UInt64.ofNat k + UInt64.ofNat i) &&& 7 = UInt64.ofNat i := by
      have hbase : (0x200000 : UInt64).toNat = 2097152 := rfl
      have height : (8 : UInt64).toNat = 8 := rfl
      have hmask : (7 : UInt64).toNat = 2 ^ 3 - 1 := rfl
      apply UInt64.toNat_inj.mp
      rw [UInt64.toNat_and, hmask, Nat.and_two_pow_sub_one_eq_mod, UInt64.toNat_add,
        UInt64.toNat_add, UInt64.toNat_mul, hbase, height, UInt64.toNat_ofNat', UInt64.toNat_ofNat']
      omega
    rw [listMemory, hlow]
  have hrange : List.range 8 = [0, 1, 2, 3, 4, 5, 6, 7] := rfl
  unfold listEntry hostWord
  rw [hrange]
  simp only [List.foldr_cons, List.foldr_nil]
  rw [hbyte 0, hbyte 1, hbyte 2, hbyte 3, hbyte 4, hbyte 5, hbyte 6, hbyte 7]
  · rfl
  all_goals decide

/-- 514 pages: the last index lies behind the mapped page of the list. -/
theorem parse_reads_behind_mapping :
    ¬ ∀ (os : Os) (prp1 prp2 : UInt64) (len : UInt32) (es : List PrpEntry),
      len.toNat ≤ 65535 * 4096 → (vnvmeParsePrpList os prp1 prp2 len).1 = .ok es →
      SafeParse os prp1 prp2 len es := by
  intro h
  have hpos : 0 < (2105344 : UInt32).toNat := by decide
  have haccepted : PrpsAccepted { hostMem := listMemory } 0x100000 0x200000
      (2105344 : UInt32).toNat := by
    refine ⟨by decide, rfl, fun _ => by decide, fun _ => rfl, fun _ k _ => ?_⟩
    rw [listMemory_entry]
    decide
  have hsafe := h _ _ _ _ _ (by decide) ((vnvmeParsePrpList_ok_iff hpos (by decide) _).mpr
    ⟨haccepted, rfl⟩)
  exact absurd ((indices_iff hpos (by decide) haccepted).mp hsafe.indices) (by decide)

end VirtualNvme
