import Mathlib.Algebra.BigOperators.Intervals
import Mathlib.Algebra.Order.BigOperators.Group.Finset
import VirtualNvme.Verification.PrpTransfer

/-!
# The entries of a parsed transfer

What `VnvmeParsePrpList` returns, without the assumption that the entries of the list are
page-aligned: whether it accepts depends on the addresses and on two kernel calls alone, and then
there is one entry for each page of the transfer. An entry of the list has room for the bytes from
its offset to the end of its page, and it takes what is left over by the entries in front of it.
-/

namespace VirtualNvme

open Finset (sum_range_succ sum_range_succ')

/-- Fill containers one after another: together they take as much as they can hold. -/
theorem sum_fill (a : ℕ → ℕ) (total n : ℕ) :
    ∑ k ∈ Finset.range n, min (a k) (total - ∑ j ∈ Finset.range k, a j) =
      min total (∑ k ∈ Finset.range n, a k) := by
  induction n with
  | zero => simp
  | succ n ih =>
      rw [sum_range_succ, sum_range_succ, ih]
      omega

/-! ## The list -/

section List

variable (mem : UInt64 → UInt8) (prp2 : UInt64)

/-- The bytes from the address of list entry `k` to the end of its page. -/
def entryRoom (k : ℕ) : ℕ := 4096 - (prpOffset (listEntry mem prp2 k)).toNat

/-- The room of the `n` entries from `i` on. -/
def listRoom (i n : ℕ) : ℕ := ∑ j ∈ Finset.range n, entryRoom mem prp2 (i + j)

/-- What the entry `k` places behind `i` takes of `rest` bytes. -/
def listLength (i rest k : ℕ) : ℕ :=
  min (entryRoom mem prp2 (i + k)) (rest - listRoom mem prp2 i k)

/-- The parsed entry. -/
def listSegment (i rest k : ℕ) : PrpEntry where
  physicalAddress := prpPage (listEntry mem prp2 (i + k))
  offset := prpOffset (listEntry mem prp2 (i + k))
  length := UInt32.ofNat (listLength mem prp2 i rest k)

variable {mem prp2}

theorem entryRoom_bounds (k : ℕ) : 0 < entryRoom mem prp2 k ∧ entryRoom mem prp2 k ≤ 4096 := by
  have hoff := prpOffset_toNat (listEntry mem prp2 k)
  unfold entryRoom
  omega

theorem listRoom_succ (i n : ℕ) :
    listRoom mem prp2 i (n + 1) = entryRoom mem prp2 i + listRoom mem prp2 (i + 1) n := by
  unfold listRoom
  rw [sum_range_succ', Nat.add_zero, Nat.add_comm]
  refine congrArg (entryRoom mem prp2 i + ·) (Finset.sum_congr rfl fun j _ => ?_)
  rw [Nat.add_assoc, Nat.add_comm 1]

theorem listRoom_le (i n : ℕ) : listRoom mem prp2 i n ≤ 4096 * n := by
  have hbound := Finset.sum_le_card_nsmul (Finset.range n)
    (fun j => entryRoom mem prp2 (i + j)) 4096 fun j _ => (entryRoom_bounds (i + j)).2
  rw [Finset.card_range, Nat.nsmul_eq_mul, Nat.mul_comm] at hbound
  exact hbound

theorem listLength_toNat (mem : UInt64 → UInt8) (prp2 : UInt64) (i rest k : ℕ) :
    (listSegment mem prp2 i rest k).length.toNat = listLength mem prp2 i rest k := by
  have hroom := (entryRoom_bounds (i + k) : _ ∧ entryRoom mem prp2 (i + k) ≤ 4096).2
  have hlt : listLength mem prp2 i rest k < 2 ^ 32 := by
    unfold listLength
    omega
  show (UInt32.ofNat (listLength mem prp2 i rest k)).toNat = _
  rw [UInt32.toNat_ofNat_of_lt' hlt]

/-- Behind entry `i`, the list goes on with what that entry has left over. -/
theorem listSegment_succ {i rest length k : ℕ} (hlength : length = entryRoom mem prp2 i) :
    listSegment mem prp2 i rest (k + 1) = listSegment mem prp2 (i + 1) (rest - length) k := by
  have hindex : i + (k + 1) = i + 1 + k := by omega
  unfold listSegment listLength
  rw [listRoom_succ, hindex, hlength, Nat.sub_sub]

/-- The loop over the list while bytes are left for every entry. It accepts the entries exactly if
all their addresses are valid. -/
theorem parsePrpEntries_eq (pages i : ℕ) (remaining : UInt32)
    (hmany : ∀ k, k < pages → 4096 * k < remaining.toNat) :
    parsePrpEntries mem prp2 pages i remaining =
        (if ∀ k, k < pages → vnvmeIsValidPhysicalAddress (listEntry mem prp2 (i + k)) 4096 = true
        then .ok ((List.range pages).map (listSegment mem prp2 i remaining.toNat))
        else .error .invalidParameter) := by
  induction pages generalizing i remaining with
  | zero =>
      rw [if_pos fun k hk => absurd hk (Nat.not_lt_zero k)]
      rfl
  | succ pages ih =>
      have hpos := hmany 0 (Nat.succ_pos pages)
      have hne : remaining ≠ 0 := UInt32.pos_iff_ne_zero.mp hpos
      have hentry : hostWord mem (prp2 + 8 * UInt64.ofNat i) 8 = listEntry mem prp2 i := rfl
      rw [parsePrpEntries, if_neg hne]
      dsimp only
      rw [hentry]
      cases hvalid : vnvmeIsValidPhysicalAddress (listEntry mem prp2 i) 4096 with
      | false =>
          rw [if_pos (by decide : (!false) = true), if_neg]
          intro hall
          exact Bool.false_ne_true (hvalid.symm.trans (hall 0 (Nat.succ_pos pages)))
      | true =>
          rw [if_neg (by decide : ¬ (!true) = true)]
          have hmin := takenLength_toNat (listEntry mem prp2 i) remaining
          rw [← entryRoom] at hmin
          generalize (if 4096 - prpOffset (listEntry mem prp2 i) > remaining then remaining
            else 4096 - prpOffset (listEntry mem prp2 i)) = length at hmin ⊢
          have hroom := (entryRoom_bounds i : _ ∧ entryRoom mem prp2 i ≤ 4096).2
          have hleft : (remaining - length).toNat = remaining.toNat - length.toNat :=
            UInt32.toNat_sub_of_le _ _ (UInt32.le_iff_toNat_le.mpr (by omega))
          rw [ih (i + 1) (remaining - length) fun k hk => by
            have hnext := hmany (k + 1) (by omega)
            omega]
          have hall : (∀ k, k < pages + 1 →
                vnvmeIsValidPhysicalAddress (listEntry mem prp2 (i + k)) 4096 = true) ↔
              ∀ k, k < pages →
                vnvmeIsValidPhysicalAddress (listEntry mem prp2 (i + 1 + k)) 4096 = true := by
            rw [Nat.forall_lt_succ_left]
            simp only [Nat.add_zero, hvalid, true_and, Nat.add_assoc, Nat.add_comm 1]
          simp only [hall]
          split_ifs with hvalids
          · have hfirst : listSegment mem prp2 i remaining.toNat 0 =
                ⟨prpPage (listEntry mem prp2 i), prpOffset (listEntry mem prp2 i), length⟩ := by
              refine PrpEntry.mk.injEq .. |>.mpr ⟨rfl, rfl, ?_⟩
              apply UInt32.toNat_inj.mp
              rw [hmin]
              exact listLength_toNat mem prp2 i remaining.toNat 0
            rw [List.range_succ_eq_map, List.map_cons, hfirst, List.map_map, hleft]
            refine congrArg (fun es => Except.ok (_ :: es)) (List.map_congr_left fun k hk => ?_)
            -- another entry follows, so this one has taken all the room that it has
            have hnext := hmany (k + 1) (by have := List.mem_range.mp hk; omega)
            exact (listSegment_succ (by omega)).symm
          · rfl

end List

/-! ## The parser -/

/-- The kernel calls that the parser makes succeed, and so do its checks of the addresses. -/
structure PrpsAccepted (os : Os) (prp1 prp2 : UInt64) (len : ℕ) : Prop where
  first : vnvmeIsValidPhysicalAddress prp1 4096 = true
  allocated : (os.call .allocatePool).1 = true
  second : 1 < dataPageCount prp1 len → vnvmeIsValidPhysicalAddress prp2 4096 = true
  mapped : 2 < dataPageCount prp1 len →
    ((os.call .allocatePool).2.call .mapIoSpace).1 = true
  list : 2 < dataPageCount prp1 len → ∀ k, k < dataPageCount prp1 len - 1 →
    vnvmeIsValidPhysicalAddress (listEntry os.hostMem prp2 k) 4096 = true

/-- The entry for `PRP1`. -/
def firstSegment (prp1 : UInt64) (len : UInt32) : PrpEntry where
  physicalAddress := prpPage prp1
  offset := prpOffset prp1
  length := if 4096 - prpOffset prp1 ≥ len then len else 4096 - prpOffset prp1

/-- The entries for the pages behind the first: `PRP2` as a page, or the entries of a list. -/
def laterSegments (mem : UInt64 → UInt8) (prp1 prp2 : UInt64) (len : UInt32) : List PrpEntry :=
  if dataPageCount prp1 len.toNat = 1 then []
  else if dataPageCount prp1 len.toNat = 2 then
    [⟨prpPage prp2, 0, len - (4096 - prpOffset prp1)⟩]
  else
    (List.range (dataPageCount prp1 len.toNat - 1)).map
      (listSegment mem prp2 0 (len - (4096 - prpOffset prp1)).toNat)

section Parse

variable {os : Os} {prp1 prp2 : UInt64} {len : UInt32} (hpos : 0 < len.toNat)
  (hmax : len.toNat + 4096 < 2 ^ 32)

theorem dataPageCount_pos (prp1 : UInt64) {len : ℕ} (hpos : 0 < len) :
    0 < dataPageCount prp1 len := by
  unfold dataPageCount
  omega

/-- Behind the first page, bytes are left for every page but none is left over. -/
theorem rest_pages (prp1 : UInt64) {len : UInt32} (hmany : 1 < dataPageCount prp1 len.toNat) :
    4096 * (dataPageCount prp1 len.toNat - 2) < (len - (4096 - prpOffset prp1)).toNat ∧
      (len - (4096 - prpOffset prp1)).toNat ≤ 4096 * (dataPageCount prp1 len.toNat - 1) := by
  have hoff := prpOffset_toNat prp1
  unfold dataPageCount at hmany ⊢
  rw [restLength_toNat (by omega)]
  omega

theorem ok_eq_iff {ε α : Type} {P : Prop} (hP : P) (a b : α) :
    (Except.ok a : Except ε α) = .ok b ↔ P ∧ b = a := by
  rw [and_iff_right hP, Except.ok.injEq, eq_comm]

include hpos hmax

/-- The parser accepts exactly what passes its checks, and returns one entry for each page. -/
theorem vnvmeParsePrpList_ok_iff (es : List PrpEntry) :
    (vnvmeParsePrpList os prp1 prp2 len).1 = .ok es ↔
      PrpsAccepted os prp1 prp2 len.toNat ∧
        es = firstSegment prp1 len :: laterSegments os.hostMem prp1 prp2 len := by
  have hcount := prpPageCount_toNat prp1 hpos hmax
  have hne : len ≠ 0 := UInt32.pos_iff_ne_zero.mp hpos
  have hsome := dataPageCount_pos prp1 hpos
  have h1 : (1 : UInt32).toNat = 1 := rfl
  have h2 : (2 : UInt32).toNat = 2 := rfl
  unfold vnvmeParsePrpList laterSegments
  rw [if_neg hne]
  by_cases hvalid1 : vnvmeIsValidPhysicalAddress prp1 4096 = true
  swap
  · rw [if_pos (by simpa using hvalid1)]
    exact iff_of_false (fun h => by cases h) fun h => hvalid1 h.1.first
  rw [if_neg (by simp [hvalid1])]
  dsimp only
  by_cases halloc : (os.call .allocatePool).1 = true
  swap
  · rw [if_pos (by simpa using halloc)]
    exact iff_of_false (fun h => by cases h) fun h => halloc h.1.allocated
  rw [if_neg (by simp [halloc])]
  generalize prpPageCount (4096 - prpOffset prp1) len = numPages at hcount ⊢
  by_cases hone : numPages = 1
  · have hpages : dataPageCount prp1 len.toNat = 1 := by rw [← hcount, hone, h1]
    rw [if_pos hone, if_pos hpages]
    exact ok_eq_iff ⟨hvalid1, halloc, fun h => by omega, fun h => by omega, fun h => by omega⟩ _ _
  have hne1 : dataPageCount prp1 len.toNat ≠ 1 := fun hc => hone (UInt32.toNat_inj.mp
    (hcount.trans hc))
  have hmany : 1 < dataPageCount prp1 len.toNat := by omega
  rw [if_neg hone, if_neg hne1]
  by_cases hvalid2 : vnvmeIsValidPhysicalAddress prp2 4096 = true
  swap
  · rw [if_pos (by simpa using hvalid2)]
    exact iff_of_false (fun h => by cases h) fun h => hvalid2 (h.1.second hmany)
  rw [if_neg (by simp [hvalid2])]
  by_cases htwo : numPages = 2
  · have hpages : dataPageCount prp1 len.toNat = 2 := by rw [← hcount, htwo, h2]
    rw [if_pos htwo, if_pos hpages]
    exact ok_eq_iff ⟨hvalid1, halloc, fun _ => hvalid2, fun h => by omega, fun h => by omega⟩ _ _
  have hne2 : dataPageCount prp1 len.toNat ≠ 2 := fun hc => htwo (UInt32.toNat_inj.mp
    (hcount.trans hc))
  rw [if_neg htwo, if_neg hne2]
  by_cases hmapped : ((os.call .allocatePool).2.call .mapIoSpace).1 = true
  swap
  · rw [if_pos (by simpa using hmapped)]
    exact iff_of_false (fun h => by cases h) fun h => hmapped (h.1.mapped (by omega))
  rw [if_neg (by simp [hmapped])]
  -- the list: every page behind the first has bytes left when the loop gets to it
  have hpages : (numPages - 1).toNat = dataPageCount prp1 len.toNat - 1 := by
    rw [UInt32.toNat_sub_of_le _ 1 (UInt32.le_iff_toNat_le.mpr (by omega)), hcount, h1]
  have hrest := (rest_pages prp1 hmany).1
  have hmem : ((os.call .allocatePool).2.call .mapIoSpace).2.hostMem = os.hostMem := rfl
  rw [hpages, hmem, parsePrpEntries_eq _ _ _ fun k hk => by omega]
  simp only [Nat.zero_add]
  by_cases hlist : ∀ k, k < dataPageCount prp1 len.toNat - 1 →
      vnvmeIsValidPhysicalAddress (listEntry os.hostMem prp2 k) 4096 = true
  · rw [if_pos hlist]
    exact ok_eq_iff ⟨hvalid1, halloc, fun _ => hvalid2, fun _ => hmapped, fun _ => hlist⟩ _ _
  · rw [if_neg hlist]
    exact iff_of_false (fun h => by cases h) fun h => hlist (h.1.list (by omega))

end Parse

/-! ## Aligned pages -/

theorem sum_list_range (f : ℕ → ℕ) (n : ℕ) :
    ((List.range n).map f).sum = ∑ k ∈ Finset.range n, f k := rfl

theorem prpPage_add_prpOffset (prp : UInt64) : prpPage prp + (prpOffset prp).toUInt64 = prp := by
  have hoff := prpOffset_toNat prp
  have hpage := prpPage_toNat prp
  have hlt := prp.toNat_lt
  apply UInt64.toNat_inj.mp
  rw [UInt64.toNat_add, UInt32.toNat_toUInt64]
  omega

/-- One entry for each page: the first starts at `PRP1`, the others at the start of their pages,
none leaves its page, and together they have `len` bytes. -/
structure PageSegments (mem : UInt64 → UInt8) (prp1 prp2 : UInt64) (len : ℕ)
    (es : List PrpEntry) : Prop where
  count : es.length = (prp1.toNat % 4096 + len + 4095) / 4096
  start : ∀ k (hk : k < es.length), es[k].physicalAddress + es[k].offset.toUInt64 =
    if k = 0 then prp1 else dataPage mem prp1 prp2 es.length k
  inPage : ∀ k (hk : k < es.length), es[k].physicalAddress.toNat % 4096 = 0 ∧
    es[k].offset.toNat + es[k].length.toNat ≤ 4096
  positive : ∀ k (hk : k < es.length), 0 < es[k].length.toNat
  middle : ∀ k (hk : k < es.length), 0 < k → k + 1 < es.length → es[k].length.toNat = 4096
  total : (es.map fun e => e.length.toNat).sum = len

section Aligned

variable {os : Os} {mem : UInt64 → UInt8} {prp1 prp2 : UInt64} {len : UInt32}
  (hpos : 0 < len.toNat)
  (haligned : ∀ k, 0 < k → k < dataPageCount prp1 len.toNat →
    prpOffset (dataPage mem prp1 prp2 (dataPageCount prp1 len.toNat) k) = 0)

/-- The entry for a whole page behind the first, or for what is left. -/
def pageSegment (mem : UInt64 → UInt8) (prp1 prp2 : UInt64) (len : UInt32) (k : ℕ) : PrpEntry where
  physicalAddress := dataPage mem prp1 prp2 (dataPageCount prp1 len.toNat) (k + 1)
  offset := 0
  length := UInt32.ofNat (min 4096 ((len - (4096 - prpOffset prp1)).toNat - 4096 * k))

theorem pageSegment_length (mem : UInt64 → UInt8) (prp1 prp2 : UInt64) (len : UInt32) (k : ℕ) :
    (pageSegment mem prp1 prp2 len k).length.toNat =
      min 4096 ((len - (4096 - prpOffset prp1)).toNat - 4096 * k) := by
  have hlt : min 4096 ((len - (4096 - prpOffset prp1)).toNat - 4096 * k) < 2 ^ 32 := by omega
  show (UInt32.ofNat _).toNat = _
  rw [UInt32.toNat_ofNat_of_lt' hlt]

/-- All pages behind the first are filled, but for the last. -/
theorem sum_pageSegments (mem : UInt64 → UInt8) (prp1 prp2 : UInt64) (len : UInt32) (n : ℕ) :
    (((List.range n).map (pageSegment mem prp1 prp2 len)).map fun e => e.length.toNat).sum =
      min (len - (4096 - prpOffset prp1)).toNat (4096 * n) := by
  have hconst (k : ℕ) : ∑ _j ∈ Finset.range k, 4096 = 4096 * k := by
    rw [Finset.sum_const, Finset.card_range, Nat.nsmul_eq_mul, Nat.mul_comm]
  have hfill := sum_fill (fun _ => 4096) (len - (4096 - prpOffset prp1)).toNat n
  simp only [hconst] at hfill
  rw [List.map_map, sum_list_range, ← hfill]
  exact Finset.sum_congr rfl fun k _ => pageSegment_length mem prp1 prp2 len k

include hpos haligned

/-- With aligned pages, `PRP2` as a page and as a list come to the same. -/
theorem laterSegments_aligned : laterSegments mem prp1 prp2 len =
    (List.range (dataPageCount prp1 len.toNat - 1)).map (pageSegment mem prp1 prp2 len) := by
  have hsome := dataPageCount_pos prp1 hpos
  unfold laterSegments
  by_cases hone : dataPageCount prp1 len.toNat = 1
  · rw [if_pos hone, hone]
    rfl
  have hrest := (rest_pages prp1 (by omega : 1 < dataPageCount prp1 len.toNat)).2
  rw [if_neg hone]
  by_cases htwo : dataPageCount prp1 len.toNat = 2
  · rw [if_pos htwo, htwo]
    rw [htwo] at hrest
    have hpage := haligned 1 Nat.one_pos (by omega)
    rw [dataPage, if_pos htwo] at hpage
    refine congrArg (fun e => [e]) (PrpEntry.mk.injEq .. |>.mpr ⟨?_, rfl, ?_⟩)
    · rw [prpPage_of_aligned hpage, dataPage, if_pos htwo]
    · apply UInt32.toNat_inj.mp
      show _ = (pageSegment mem prp1 prp2 len 0).length.toNat
      rw [pageSegment_length]
      omega
  · rw [if_neg htwo]
    have hpage (k : ℕ) (hk : k < dataPageCount prp1 len.toNat - 1) :
        prpOffset (listEntry mem prp2 k) = 0 := by
      have hoff := haligned (k + 1) (Nat.succ_pos k) (by omega)
      rwa [dataPage, if_neg htwo] at hoff
    have hroom (k : ℕ) (hk : k < dataPageCount prp1 len.toNat - 1) :
        entryRoom mem prp2 k = 4096 := by
      rw [entryRoom, hpage k hk]
      rfl
    refine List.map_congr_left fun k hk => ?_
    have hk := List.mem_range.mp hk
    have hfull : listRoom mem prp2 0 k = 4096 * k := by
      unfold listRoom
      rw [Finset.sum_congr rfl fun j hj => by
        rw [Nat.zero_add, hroom j (by have := Finset.mem_range.mp hj; omega)], Finset.sum_const,
        Finset.card_range, Nat.nsmul_eq_mul, Nat.mul_comm]
    refine PrpEntry.mk.injEq .. |>.mpr ⟨?_, ?_, ?_⟩
    · rw [Nat.zero_add, prpPage_of_aligned (hpage k hk), dataPage, if_neg htwo]
    · rw [Nat.zero_add, hpage k hk]
    · rw [listLength, Nat.zero_add, hroom k hk, hfull]

/-- One entry for each page, at its address. -/
theorem pageSegments : PageSegments mem prp1 prp2 len.toNat
    (firstSegment prp1 len :: laterSegments mem prp1 prp2 len) := by
  have hsome := dataPageCount_pos prp1 hpos
  have hoff := prpOffset_toNat prp1
  have hfirst := firstLength_toNat prp1 len
  have hpages : dataPageCount prp1 len.toNat = (prp1.toNat % 4096 + len.toNat + 4095) / 4096 := by
    rw [dataPageCount, hoff]
  have hrest (hmany : 1 < dataPageCount prp1 len.toNat) :
      (len - (4096 - prpOffset prp1)).toNat = len.toNat - (4096 - (prpOffset prp1).toNat) :=
    restLength_toNat (by omega)
  have hsegment := pageSegment_length mem prp1 prp2 len
  rw [laterSegments_aligned hpos haligned]
  generalize hes : firstSegment prp1 len :: (List.range (dataPageCount prp1 len.toNat - 1)).map
    (pageSegment mem prp1 prp2 len) = es
  have hlength : es.length = dataPageCount prp1 len.toNat := by
    rw [← hes, List.length_cons, List.length_map, List.length_range]
    omega
  have hzero (hk : 0 < es.length) : es[0] = firstSegment prp1 len := by
    subst hes
    rfl
  have hsucc (k : ℕ) (hk : k + 1 < es.length) : es[k + 1] = pageSegment mem prp1 prp2 len k := by
    subst hes
    rw [List.getElem_cons_succ, List.getElem_map, List.getElem_range]
  refine ⟨hlength.trans hpages, fun k hk => ?_, fun k hk => ?_, fun k hk => ?_,
    fun k hk hmid hlast => ?_, ?_⟩
  · cases k with
    | zero =>
        rw [hzero, if_pos rfl]
        exact prpPage_add_prpOffset prp1
    | succ k =>
        rw [hsucc, if_neg (Nat.succ_ne_zero k), hlength]
        exact UInt64.add_zero _
  · cases k with
    | zero =>
        rw [hzero]
        have hpage := prpPage_toNat prp1
        have hend : (prpOffset prp1).toNat + (firstSegment prp1 len).length.toNat ≤ 4096 := by
          rw [firstSegment, hfirst]
          omega
        refine ⟨?_, hend⟩
        show (prpPage prp1).toNat % 4096 = 0
        omega
    | succ k =>
        rw [hsucc]
        have hpage := congrArg UInt32.toNat (haligned (k + 1) (Nat.succ_pos k) (by omega))
        rw [prpOffset_toNat] at hpage
        have hend : 0 + (pageSegment mem prp1 prp2 len k).length.toNat ≤ 4096 := by
          rw [hsegment]
          omega
        exact ⟨hpage, hend⟩
  · cases k with
    | zero =>
        rw [hzero, firstSegment, hfirst]
        omega
    | succ k =>
        rw [hsucc, hsegment, hrest (by omega)]
        omega
  · cases k with
    | zero => exact absurd hmid (Nat.lt_irrefl 0)
    | succ k =>
        rw [hsucc, hsegment, hrest (by omega)]
        omega
  · subst hes
    rw [List.map_cons, List.sum_cons, sum_pageSegments, firstSegment, hfirst]
    by_cases hmany : 1 < dataPageCount prp1 len.toNat
    · rw [hrest hmany]
      omega
    · have hone : dataPageCount prp1 len.toNat - 1 = 0 := by omega
      rw [hone]
      omega

end Aligned

/-- **Aligned PRPs.** For up to 512 pages behind the first, accepted addresses and a kernel that
has the memory and the mapping, the parser returns one entry for each page. -/
theorem vnvmeParsePrpList_aligned {os : Os} {prp1 prp2 : UInt64} {len : UInt32}
    (hpos : 0 < len.toNat) (hpages : dataPageCount prp1 len.toNat ≤ 513)
    (hpool : ∀ n, os.ok .allocatePool n = true) (hmap : ∀ n, os.ok .mapIoSpace n = true)
    (hvalid : ValidPrps os.hostMem prp1 prp2 len.toNat)
    (haligned : ∀ k, 0 < k → k < dataPageCount prp1 len.toNat →
      prpOffset (dataPage os.hostMem prp1 prp2 (dataPageCount prp1 len.toNat) k) = 0) :
    ∃ es, (vnvmeParsePrpList os prp1 prp2 len).1 = .ok es ∧
      PageSegments os.hostMem prp1 prp2 len.toNat es := by
  have hmax : len.toNat + 4096 < 2 ^ 32 := by
    unfold dataPageCount at hpages
    omega
  refine ⟨_, (vnvmeParsePrpList_ok_iff hpos hmax _).mpr ⟨?_, rfl⟩, pageSegments hpos haligned⟩
  refine ⟨hvalid.first, hpool _, hvalid.second, fun _ => hmap _, fun hlist k hk => ?_⟩
  have hpage := hvalid.pages (k + 1) (Nat.succ_pos k) (by omega)
  rwa [dataPage, if_neg (by omega)] at hpage

/-- Host memory in which every eight bytes hold the address 3 MB. -/
def listMemory : UInt64 → UInt8 := fun addr => if addr &&& 7 = 2 then 0x30 else 0

/-- 10000 bytes from an unaligned address on, with a list of two pages. -/
theorem vnvmeParsePrpList_aligned_threePages :
    ∃ es, (vnvmeParsePrpList { hostMem := listMemory } 0x100010 0x200000 10000).1 = .ok es ∧
      PageSegments listMemory 0x100010 0x200000 10000 es := by
  have hpage (k : ℕ) (h0 : 0 < k) (hk : k < dataPageCount 0x100010 (10000 : UInt32).toNat) :
      dataPage listMemory 0x100010 0x200000 (dataPageCount 0x100010 (10000 : UInt32).toNat) k =
        0x300000 := by
    rw [show dataPageCount 0x100010 (10000 : UInt32).toNat = 3 by decide] at hk ⊢
    obtain rfl | rfl : k = 1 ∨ k = 2 := by omega
    · decide
    · decide
  refine vnvmeParsePrpList_aligned (by decide) (by decide) (fun _ => rfl) (fun _ => rfl)
    ⟨by decide, fun _ => by decide, fun k h0 hk => ?_⟩ fun k h0 hk => ?_
  · rw [hpage k h0 hk]
    decide
  · rw [hpage k h0 hk]
    decide

end VirtualNvme
