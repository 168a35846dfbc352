import Mathlib.Algebra.Order.BigOperators.Group.List
import Mathlib.Algebra.Order.Ring.Nat
import VirtualNvme.Driver.Prp
import VirtualNvme.Scatter

/-!
# The pages of a transfer

The two PRPs of a command name the pages of its data: `PRP1` the first, with an offset into it,
and `PRP2` the second, or a list of all the others. `dataAddress` says where byte `i` of the
data is, without any parsing; on page-aligned lists with valid addresses `VnvmeParsePrpList`
returns entries that name these addresses in order, and the loop over the entries moves the bytes
of a buffer to or from exactly these addresses.
-/

namespace VirtualNvme

open Scatter

/-! ## A kernel whose calls succeed -/

/-- Every allocation, mapping and file call succeeds. -/
def Os.Works (os : Os) : Prop := ∀ k n, os.ok k n = true

theorem Os.Works.call {os : Os} (h : os.Works) (k : OsCall) :
    (os.call k).1 = true ∧ (os.call k).2.Works ∧ (os.call k).2.hostMem = os.hostMem :=
  ⟨h k os.calls, h, rfl⟩

/-! ## Page and offset -/

theorem prpOffset_toNat (prp : UInt64) : (prpOffset prp).toNat = prp.toNat % 4096 := by
  have hand : (prp &&& (0xFFF : UInt64)).toNat = prp.toNat % 2 ^ 12 := by
    rw [UInt64.toNat_and]
    exact Nat.and_two_pow_sub_one_eq_mod prp.toNat 12
  rw [prpOffset, UInt64.toNat_toUInt32, hand]
  omega

theorem prpPage_toNat (prp : UInt64) : (prpPage prp).toNat = 4096 * (prp.toNat / 4096) := by
  have hmask : (~~~(0xFFF : UInt64)).toNat = (2 ^ 52 - 1) <<< 12 := by decide
  have hlt := prp.toNat_lt
  rw [prpPage, UInt64.toNat_and, hmask]
  have hshift : 4096 * (prp.toNat / 4096) = (prp.toNat >>> 12) <<< 12 := by
    rw [Nat.shiftLeft_eq, Nat.shiftRight_eq_div_pow]
    omega
  rw [hshift]
  refine Nat.eq_of_testBit_eq fun i => ?_
  simp only [Nat.testBit_and, Nat.testBit_shiftLeft, Nat.testBit_shiftRight,
    Nat.testBit_two_pow_sub_one]
  by_cases hi : 12 ≤ i
  · rw [Nat.add_sub_cancel' hi]
    by_cases hi' : i < 64
    · have h52 : i - 12 < 52 := by omega
      simp [hi, h52]
    · have hzero : prp.toNat.testBit i = false :=
        Nat.testBit_lt_two_pow (Nat.lt_of_lt_of_le hlt (Nat.pow_le_pow_right (by omega)
          (Nat.le_of_not_lt hi')))
      simp [hzero]
  · simp [hi]

/-- A page-aligned address is its own page. -/
theorem prpPage_of_aligned {prp : UInt64} (h : prpOffset prp = 0) : prpPage prp = prp := by
  have hmod : prp.toNat % 4096 = 0 := by
    rw [← prpOffset_toNat, h]
    rfl
  apply UInt64.toNat_inj.mp
  rw [prpPage_toNat]
  omega

theorem prpOffset_prpPage (prp : UInt64) : prpOffset (prpPage prp) = 0 := by
  apply UInt32.toNat_inj.mp
  rw [prpOffset_toNat, prpPage_toNat]
  exact Nat.mul_mod_right 4096 _

/-- Nothing overflows inside a page. -/
theorem toNat_in_page {page : UInt64} (h : prpOffset page = 0) {r : Nat} (hr : r < 4096) :
    (page + UInt64.ofNat r).toNat = page.toNat + r := by
  have hmod : page.toNat % 4096 = 0 := by
    rw [← prpOffset_toNat, h]
    rfl
  have hlt := page.toNat_lt
  rw [UInt64.toNat_add, UInt64.toNat_ofNat_of_lt' (by omega : r < 2 ^ 64)]
  omega

/-! ## Where the data is -/

/-- The number of pages that `len` bytes from `prp1` on lie in. -/
def dataPageCount (prp1 : UInt64) (len : Nat) : Nat :=
  ((prpOffset prp1).toNat + len + 4095) / 4096

/-- Entry `k` of the list at `prp2`. -/
def listEntry (mem : UInt64 → UInt8) (prp2 : UInt64) (k : Nat) : UInt64 :=
  hostWord mem (prp2 + 8 * UInt64.ofNat k) 8

/-- Page `k` of `count`: `PRP1` names the first, and `PRP2` the second of two or a list of the
others. -/
def dataPage (mem : UInt64 → UInt8) (prp1 prp2 : UInt64) (count : Nat) : Nat → UInt64
  | 0 => prpPage prp1
  | k + 1 => if count = 2 then prp2 else listEntry mem prp2 k

/-- The host address of byte `i` of the data. -/
def dataAddress (mem : UInt64 → UInt8) (prp1 prp2 : UInt64) (len i : Nat) : UInt64 :=
  let position := (prpOffset prp1).toNat + i
  dataPage mem prp1 prp2 (dataPageCount prp1 len) (position / 4096) +
    UInt64.ofNat (position % 4096)

/-- PRPs as a host lays them out: `PRP2` and the entries of a list are page-aligned, no list goes
beyond its page, and no page is named twice. -/
structure AlignedPrps (mem : UInt64 → UInt8) (prp1 prp2 : UInt64) (len : Nat) : Prop where
  onePage : dataPageCount prp1 len ≤ 513
  second : 1 < dataPageCount prp1 len → prpOffset prp2 = 0
  pages : ∀ k, 0 < k → k < dataPageCount prp1 len →
    prpOffset (dataPage mem prp1 prp2 (dataPageCount prp1 len) k) = 0
  distinct : Set.InjOn (dataPage mem prp1 prp2 (dataPageCount prp1 len))
    {k | k < dataPageCount prp1 len}

/-- Every address that the PRPs give passes the check of the driver. -/
structure ValidPrps (mem : UInt64 → UInt8) (prp1 prp2 : UInt64) (len : Nat) : Prop where
  first : vnvmeIsValidPhysicalAddress prp1 4096 = true
  second : 1 < dataPageCount prp1 len → vnvmeIsValidPhysicalAddress prp2 4096 = true
  pages : ∀ k, 0 < k → k < dataPageCount prp1 len →
    vnvmeIsValidPhysicalAddress (dataPage mem prp1 prp2 (dataPageCount prp1 len) k) 4096 = true

section Addresses

variable {mem : UInt64 → UInt8} {prp1 prp2 : UInt64} {len : Nat}

theorem page_lt_count {i : Nat} (hi : i < len) :
    ((prpOffset prp1).toNat + i) / 4096 < dataPageCount prp1 len := by
  unfold dataPageCount
  omega

theorem AlignedPrps.aligned (h : AlignedPrps mem prp1 prp2 len) {k : Nat}
    (hk : k < dataPageCount prp1 len) :
    prpOffset (dataPage mem prp1 prp2 (dataPageCount prp1 len) k) = 0 := by
  cases k with
  | zero => exact prpOffset_prpPage prp1
  | succ k => exact h.pages (k + 1) (Nat.succ_pos k) hk

/-- Two bytes of the data are never at one address. -/
theorem AlignedPrps.injOn (h : AlignedPrps mem prp1 prp2 len) :
    Set.InjOn (dataAddress mem prp1 prp2 len) {i | i < len} := by
  intro i hi j hj heq
  have hpi := h.aligned (page_lt_count hi)
  have hpj := h.aligned (page_lt_count hj)
  have hnat := congrArg UInt64.toNat heq
  unfold dataAddress at hnat
  dsimp only at hnat
  rw [toNat_in_page hpi (Nat.mod_lt _ (by decide)),
    toNat_in_page hpj (Nat.mod_lt _ (by decide))] at hnat
  have hi0 := congrArg UInt32.toNat hpi
  have hj0 := congrArg UInt32.toNat hpj
  rw [prpOffset_toNat, UInt32.toNat_zero] at hi0 hj0
  -- the page part of an address tells the pages apart, and then the rest is the offset
  have hpage := h.distinct (page_lt_count hi) (page_lt_count hj)
    (UInt64.toNat_inj.mp (by omega))
  rw [hpage] at hnat
  omega

end Addresses

/-! ## What the parser returns -/

/-- The bytes that one entry moves, from position `o` of the data on: the position and the host
address of each. -/
def PrpEntry.pieces (o : UInt64) (e : PrpEntry) : List (UInt64 × UInt64) :=
  cells (fun i => o + UInt64.ofNat i)
    (fun i => e.physicalAddress + e.offset.toUInt64 + UInt64.ofNat i) e.length.toNat

def pieces : UInt64 → List PrpEntry → List (UInt64 × UInt64)
  | _, [] => []
  | o, e :: es => e.pieces o ++ pieces (o + e.length.toUInt64) es

/-- The entries name `n` host addresses, one after another. -/
structure Names (es : List PrpEntry) (n : Nat) (address : Nat → UInt64) : Prop where
  nonempty : ∀ e ∈ es, 0 < e.length.toNat
  total : (es.map fun e => e.length.toNat).sum = n
  pieces_eq : ∀ o, pieces o es = cells (fun i => o + UInt64.ofNat i) address n

theorem Names.nil (address : Nat → UInt64) : Names [] 0 address :=
  ⟨fun _ he => (nomatch he), rfl, fun _ => rfl⟩

theorem Names.cons {e : PrpEntry} {es : List PrpEntry} {n : Nat} {address : Nat → UInt64}
    (hpos : 0 < e.length.toNat)
    (hfirst : ∀ i, i < e.length.toNat →
      e.physicalAddress + e.offset.toUInt64 + UInt64.ofNat i = address i)
    (hrest : Names es n fun i => address (e.length.toNat + i)) :
    Names (e :: es) (e.length.toNat + n) address where
  nonempty := List.forall_mem_cons.mpr ⟨hpos, hrest.nonempty⟩
  total := by rw [List.map_cons, List.sum_cons, hrest.total]
  pieces_eq o := by
    have hlen : e.length.toUInt64 = UInt64.ofNat e.length.toNat := by
      apply UInt64.toNat_inj.mp
      have hlt : e.length.toNat < 2 ^ 64 := Nat.lt_trans e.length.toNat_lt (by decide)
      rw [UInt32.toNat_toUInt64, UInt64.toNat_ofNat_of_lt' hlt]
    rw [pieces, PrpEntry.pieces, hrest.pieces_eq, cells_add]
    congr 1
    · exact cells_congr (fun i _ => rfl) hfirst
    · refine cells_congr (fun i _ => ?_) fun i _ => rfl
      rw [UInt64.ofNat_add, hlen, UInt64.add_assoc]

theorem Names.congr {es : List PrpEntry} {n : Nat} {address address' : Nat → UInt64}
    (h : Names es n address) (heq : ∀ i, i < n → address i = address' i) :
    Names es n address' :=
  ⟨h.nonempty, h.total, fun o => (h.pieces_eq o).trans (cells_congr (fun _ _ => rfl) heq)⟩

section Parse

variable {mem : UInt64 → UInt8} {prp1 prp2 : UInt64}

theorem firstPageBytes_toNat (prp1 : UInt64) :
    (4096 - prpOffset prp1).toNat = 4096 - (prpOffset prp1).toNat := by
  have h4096 : (4096 : UInt32).toNat = 4096 := rfl
  have hoff := prpOffset_toNat prp1
  rw [UInt32.toNat_sub_of_le _ _ (UInt32.le_iff_toNat_le.mpr (by omega)), h4096]

/-- An entry takes what is left, up to the end of its page. -/
theorem takenLength_toNat (prp : UInt64) (remaining : UInt32) :
    (if 4096 - prpOffset prp > remaining then remaining else 4096 - prpOffset prp).toNat =
      min (4096 - (prpOffset prp).toNat) remaining.toNat := by
  have hroom := firstPageBytes_toNat prp
  split_ifs with hgt
  · rw [gt_iff_lt, UInt32.lt_iff_toNat_lt] at hgt
    omega
  · rw [gt_iff_lt, UInt32.lt_iff_toNat_lt] at hgt
    omega

/-- The loop over a list of page-aligned entries, for `remaining` bytes from entry `i` on. It
fails only at an invalid entry. -/
theorem parsePrpEntries_cases (mem : UInt64 → UInt8) (prp2 : UInt64) (pages i : Nat)
    (remaining : UInt32)
    (hpages : remaining.toNat ≤ 4096 * pages)
    (haligned : ∀ k, 4096 * k < remaining.toNat → prpOffset (listEntry mem prp2 (i + k)) = 0) :
    (∃ status, parsePrpEntries mem prp2 pages i remaining = .error status ∧
      ∃ k, 4096 * k < remaining.toNat ∧
        vnvmeIsValidPhysicalAddress (listEntry mem prp2 (i + k)) 4096 = false) ∨
    ∃ es, parsePrpEntries mem prp2 pages i remaining = .ok es ∧
      Names es remaining.toNat fun b =>
        listEntry mem prp2 (i + b / 4096) + UInt64.ofNat (b % 4096) := by
  induction pages generalizing i remaining with
  | zero =>
      have hzero : remaining.toNat = 0 := by omega
      refine Or.inr ⟨[], rfl, ?_⟩
      rw [hzero]
      exact Names.nil _
  | succ pages ih =>
      by_cases hzero : remaining = 0
      · subst hzero
        exact Or.inr ⟨[], by rw [parsePrpEntries, if_pos rfl], Names.nil _⟩
      have hpos : 0 < remaining.toNat := UInt32.pos_iff_ne_zero.mpr hzero
      have hentry : hostWord mem (prp2 + 8 * UInt64.ofNat i) 8 = listEntry mem prp2 i := rfl
      rw [parsePrpEntries, if_neg hzero]
      dsimp only
      rw [hentry]
      cases hvalid : vnvmeIsValidPhysicalAddress (listEntry mem prp2 i) 4096 with
      | false => exact Or.inl ⟨_, rfl, 0, hpos, hvalid⟩
      | true =>
          have hoff := haligned 0 hpos
          rw [Nat.add_zero] at hoff
          -- the entry takes a page, or what is left
          have hmin := takenLength_toNat (listEntry mem prp2 i) remaining
          rw [hoff, UInt32.toNat_zero, Nat.sub_zero, UInt32.sub_zero] at hmin
          rw [hoff, UInt32.sub_zero, if_neg (by decide : ¬ (!true) = true)]
          generalize (if (4096 : UInt32) > remaining then remaining else 4096) = length at hmin ⊢
          have hleft : (remaining - length).toNat = remaining.toNat - length.toNat :=
            UInt32.toNat_sub_of_le _ _ (UInt32.le_iff_toNat_le.mpr (by omega))
          rcases ih (i + 1) (remaining - length) (by omega) fun k hk => by
            rw [Nat.add_assoc]
            exact haligned (1 + k) (by omega)
            with ⟨status, herr, k, hk, hinvalid⟩ | ⟨es, hes, hnames⟩
          · refine Or.inl ⟨status, by rw [herr]; rfl, 1 + k, by omega, ?_⟩
            rwa [← Nat.add_assoc]
          · refine Or.inr ⟨_, by rw [hes]; rfl, ?_⟩
            have hsum : remaining.toNat = length.toNat + (remaining - length).toNat := by omega
            rw [hsum]
            refine Names.cons (e := ⟨prpPage (listEntry mem prp2 i), 0, length⟩) ?_ ?_ ?_
            · show 0 < length.toNat
              omega
            · intro b hb
              have hb : b < length.toNat := hb
              have hdiv : b / 4096 = 0 := Nat.div_eq_of_lt (by omega)
              have hmod : b % 4096 = b := Nat.mod_eq_of_lt (by omega)
              rw [hdiv, hmod, Nat.add_zero, prpPage_of_aligned hoff]
              show listEntry mem prp2 i + 0 + _ = _
              rw [UInt64.add_zero]
            · refine hnames.congr fun b hb => ?_
              have hfull : length.toNat = 4096 := by omega
              show _ = listEntry mem prp2 (i + (length.toNat + b) / 4096) +
                UInt64.ofNat ((length.toNat + b) % 4096)
              rw [hfull, Nat.add_mod_left, Nat.add_div_left _ (by decide), Nat.add_assoc i 1,
                Nat.add_comm 1]

theorem firstLength_toNat (prp1 : UInt64) (len : UInt32) :
    (if 4096 - prpOffset prp1 ≥ len then len else 4096 - prpOffset prp1).toNat =
      min (4096 - (prpOffset prp1).toNat) len.toNat := by
  have hfirst := firstPageBytes_toNat prp1
  split_ifs with hge
  · rw [ge_iff_le, UInt32.le_iff_toNat_le, hfirst] at hge
    omega
  · rw [ge_iff_le, UInt32.le_iff_toNat_le, hfirst] at hge
    omega

/-- The bytes beyond the first page. -/
theorem restLength_toNat {len : UInt32} (hmany : 4096 ≤ (prpOffset prp1).toNat + len.toNat) :
    (len - (4096 - prpOffset prp1)).toNat = len.toNat - (4096 - (prpOffset prp1).toNat) := by
  have hfirst := firstPageBytes_toNat prp1
  rw [UInt32.toNat_sub_of_le _ _ (UInt32.le_iff_toNat_le.mpr (by omega)), hfirst]

theorem prpPageCount_toNat (prp1 : UInt64) {len : UInt32} (hlen : 0 < len.toNat)
    (hmax : len.toNat + 4096 < 2 ^ 32) :
    (prpPageCount (4096 - prpOffset prp1) len).toNat = dataPageCount prp1 len.toNat := by
  have hfirst := firstPageBytes_toNat prp1
  have hoff := prpOffset_toNat prp1
  have h4096 : (4096 : UInt32).toNat = 4096 := rfl
  have h1 : (1 : UInt32).toNat = 1 := rfl
  unfold prpPageCount dataPageCount
  split_ifs with hone
  · rw [ge_iff_le, UInt32.le_iff_toNat_le, hfirst] at hone
    rw [h1]
    omega
  · rw [ge_iff_le, UInt32.le_iff_toNat_le, hfirst] at hone
    have hrest := restLength_toNat (by omega : 4096 ≤ (prpOffset prp1).toNat + len.toNat)
    rw [UInt32.toNat_add, UInt32.toNat_div, UInt32.toNat_sub_of_le _ _
      (UInt32.le_iff_toNat_le.mpr (by rw [UInt32.toNat_add]; omega)), UInt32.toNat_add, hrest,
      h4096, h1]
    omega

section Pages

variable {len first : UInt32}
  (hfirst : first.toNat = min (4096 - (prpOffset prp1).toNat) len.toNat) (hpos : 0 < len.toNat)

include hfirst hpos

/-- The entry for `PRP1`, in front of entries for the other pages. -/
theorem Names.firstPage {es : List PrpEntry}
    (hrest : Names es (len.toNat - first.toNat) fun b =>
      dataPage mem prp1 prp2 (dataPageCount prp1 len.toNat) (b / 4096 + 1) +
        UInt64.ofNat (b % 4096)) :
    Names (⟨prpPage prp1, prpOffset prp1, first⟩ :: es) len.toNat
      (dataAddress mem prp1 prp2 len.toNat) := by
  have hoff := prpOffset_toNat prp1
  have hsum : len.toNat = first.toNat + (len.toNat - first.toNat) := by omega
  have hoff64 : (prpOffset prp1).toUInt64 = UInt64.ofNat (prpOffset prp1).toNat := by
    have hlt : (prpOffset prp1).toNat < 2 ^ 64 := Nat.lt_trans (prpOffset prp1).toNat_lt (by decide)
    apply UInt64.toNat_inj.mp
    rw [UInt32.toNat_toUInt64, UInt64.toNat_ofNat_of_lt' hlt]
  have hpos' : 0 < first.toNat := by omega
  have hnames : Names (⟨prpPage prp1, prpOffset prp1, first⟩ :: es)
      (first.toNat + (len.toNat - first.toNat)) (dataAddress mem prp1 prp2 len.toNat) := by
    refine Names.cons hpos' (fun i hi => ?_) (hrest.congr fun b hb => ?_)
    · have hi : i < first.toNat := hi
      have hdiv : ((prpOffset prp1).toNat + i) / 4096 = 0 := Nat.div_eq_of_lt (by omega)
      have hmod : ((prpOffset prp1).toNat + i) % 4096 = (prpOffset prp1).toNat + i :=
        Nat.mod_eq_of_lt (by omega)
      unfold dataAddress
      dsimp only
      rw [hdiv, hmod, hoff64, UInt64.ofNat_add, UInt64.add_assoc]
      rfl
    · -- bytes are left, so the first page was filled
      have hfull : (prpOffset prp1).toNat + (first.toNat + b) = 4096 + b := by omega
      show _ = dataAddress mem prp1 prp2 len.toNat (first.toNat + b)
      unfold dataAddress
      dsimp only
      rw [hfull, Nat.add_mod_left, Nat.add_div_left _ (by decide)]
  rwa [← hsum] at hnames

theorem Names.onePage (hone : dataPageCount prp1 len.toNat = 1) :
    Names [⟨prpPage prp1, prpOffset prp1, first⟩] len.toNat
      (dataAddress mem prp1 prp2 len.toNat) := by
  have hzero : len.toNat - first.toNat = 0 := by
    unfold dataPageCount at hone
    omega
  refine Names.firstPage hfirst hpos ?_
  rw [hzero]
  exact Names.nil _

theorem Names.twoPages (htwo : dataPageCount prp1 len.toNat = 2) (haligned : prpOffset prp2 = 0)
    {rest : UInt32} (hrest : rest.toNat = len.toNat - first.toNat) :
    Names [⟨prpPage prp1, prpOffset prp1, first⟩, ⟨prpPage prp2, 0, rest⟩] len.toNat
      (dataAddress mem prp1 prp2 len.toNat) := by
  have hsecond : 0 < rest.toNat ∧ rest.toNat ≤ 4096 := by
    unfold dataPageCount at htwo
    omega
  refine Names.firstPage hfirst hpos ?_
  rw [← hrest]
  refine Names.cons (n := 0) hsecond.1 (fun i hi => ?_) (Names.nil _)
  have hi : i < rest.toNat := hi
  rw [Nat.div_eq_of_lt (by omega), Nat.mod_eq_of_lt (by omega), htwo, prpPage_of_aligned haligned]
  show prp2 + 0 + _ = prp2 + _
  rw [UInt64.add_zero]

theorem Names.listPages (hlist : dataPageCount prp1 len.toNat ≠ 2) {es : List PrpEntry}
    (hes : Names es (len.toNat - first.toNat) fun b =>
      listEntry mem prp2 (0 + b / 4096) + UInt64.ofNat (b % 4096)) :
    Names (⟨prpPage prp1, prpOffset prp1, first⟩ :: es) len.toNat
      (dataAddress mem prp1 prp2 len.toNat) := by
  refine Names.firstPage hfirst hpos (hes.congr fun b _ => ?_)
  rw [Nat.zero_add, dataPage, if_neg hlist]

end Pages

/-- **The parser.** It accepts aligned PRPs exactly if their addresses are valid, and then the
entries name the data in order. -/
theorem vnvmeParsePrpList_cases {os : Os} (hos : os.Works) {len : UInt32}
    (hpos : 0 < len.toNat) (h : AlignedPrps os.hostMem prp1 prp2 len.toNat) :
    (∃ status, (vnvmeParsePrpList os prp1 prp2 len).1 = .error status ∧
      ¬ ValidPrps os.hostMem prp1 prp2 len.toNat) ∨
    ∃ es, (vnvmeParsePrpList os prp1 prp2 len).1 = .ok es ∧
      Names es len.toNat (dataAddress os.hostMem prp1 prp2 len.toNat) ∧
      (vnvmeParsePrpList os prp1 prp2 len).2.Works ∧
      (vnvmeParsePrpList os prp1 prp2 len).2.hostMem = os.hostMem := by
  have hpages := h.onePage
  have hoff := prpOffset_toNat prp1
  have hmax : len.toNat + 4096 < 2 ^ 32 := by
    unfold dataPageCount at hpages
    omega
  have hcount := prpPageCount_toNat prp1 hpos hmax
  have hfirst := firstLength_toNat prp1 len
  have hne : len ≠ 0 := fun h0 => by
    rw [h0] at hpos
    exact absurd hpos (by decide)
  have h1 : (1 : UInt32).toNat = 1 := rfl
  have h2 : (2 : UInt32).toNat = 2 := rfl
  obtain ⟨hok, hworks, hmem⟩ := hos.call .allocatePool
  unfold vnvmeParsePrpList
  rw [if_neg hne]
  cases hvalid1 : vnvmeIsValidPhysicalAddress prp1 4096 with
  | false =>
      exact Or.inl ⟨_, rfl, fun hv => Bool.false_ne_true (hvalid1.symm.trans hv.first)⟩
  | true =>
  generalize os.call .allocatePool = called at hok hworks hmem
  obtain ⟨allocated, os'⟩ := called
  obtain rfl : allocated = true := hok
  dsimp only at hworks hmem ⊢
  rw [if_neg (by decide : ¬ (!true) = true)]
  generalize prpPageCount (4096 - prpOffset prp1) len = numPages at hcount ⊢
  generalize (if 4096 - prpOffset prp1 ≥ len then len else 4096 - prpOffset prp1) = first
    at hfirst ⊢
  rw [if_neg (by decide : ¬ (!true) = true)]
  by_cases hone : numPages = 1
  · rw [if_pos hone]
    exact Or.inr ⟨_, rfl, Names.onePage hfirst hpos (by rw [← hcount, hone, h1]), hworks, hmem⟩
  have hmany : 1 < dataPageCount prp1 len.toNat := by
    have hne1 : dataPageCount prp1 len.toNat ≠ 1 := fun hc => hone (UInt32.toNat_inj.mp
      (hcount.trans hc))
    unfold dataPageCount at hne1 ⊢
    omega
  rw [if_neg hone]
  cases hvalid2 : vnvmeIsValidPhysicalAddress prp2 4096 with
  | false =>
      exact Or.inl ⟨_, rfl, fun hv => Bool.false_ne_true (hvalid2.symm.trans (hv.second hmany))⟩
  | true =>
  have hrest : (len - (4096 - prpOffset prp1)).toNat = len.toNat - first.toNat := by
    unfold dataPageCount at hmany
    rw [restLength_toNat (by omega)]
    omega
  rw [if_neg (by decide : ¬ (!true) = true)]
  by_cases htwo : numPages = 2
  · rw [if_pos htwo]
    exact Or.inr ⟨_, rfl, Names.twoPages hfirst hpos (by rw [← hcount, htwo, h2])
      (h.second hmany) hrest, hworks, hmem⟩
  have hlist : dataPageCount prp1 len.toNat ≠ 2 := fun hc => htwo (UInt32.toNat_inj.mp
    (hcount.trans hc))
  have hpage (k : Nat) : dataPage os.hostMem prp1 prp2 (dataPageCount prp1 len.toNat) (k + 1) =
      listEntry os.hostMem prp2 (0 + k) := by
    rw [Nat.zero_add, dataPage, if_neg hlist]
  have hlt (k : Nat) (hk : 4096 * k < (len - (4096 - prpOffset prp1)).toNat) :
      k + 1 < dataPageCount prp1 len.toNat := by
    unfold dataPageCount
    omega
  have hroom : (len - (4096 - prpOffset prp1)).toNat ≤ 4096 * (numPages - 1).toNat := by
    rw [UInt32.toNat_sub_of_le _ 1 (UInt32.le_iff_toNat_le.mpr (by omega)), hcount, h1]
    unfold dataPageCount at hmany ⊢
    omega
  obtain ⟨hok', hworks', hmem'⟩ := hworks.call .mapIoSpace
  rw [if_neg htwo, if_neg (by simp [hok']), hmem', hmem]
  rcases parsePrpEntries_cases os.hostMem prp2 (numPages - 1).toNat 0
    (len - (4096 - prpOffset prp1)) hroom
    (fun k hk => hpage k ▸ h.pages (k + 1) (Nat.succ_pos k) (hlt k hk))
    with ⟨status, herr, k, hk, hinvalid⟩ | ⟨es, hes, hnames⟩
  · refine Or.inl ⟨status, by rw [herr]; rfl, fun hv => ?_⟩
    rw [← hpage] at hinvalid
    exact Bool.false_ne_true (hinvalid.symm.trans (hv.pages (k + 1) (Nat.succ_pos k) (hlt k hk)))
  · rw [hrest] at hnames
    exact Or.inr ⟨_, by rw [hes]; rfl, Names.listPages hfirst hpos hlist hnames, hworks', rfl⟩

end Parse

/-! ## Moving the data -/

/-- Addresses from `a` on are distinct until they wrap. -/
theorem injOn_add (a : UInt64) {n : Nat} (hn : n ≤ 2 ^ 64) :
    Set.InjOn (fun i => a + UInt64.ofNat i) {i | i < n} := by
  intro i hi j hj heq
  have hi : i < n := hi
  have hj : j < n := hj
  have hofNat : UInt64.ofNat i = UInt64.ofNat j := (UInt64.add_right_inj a).mp heq
  have hnat := congrArg UInt64.toNat hofNat
  rwa [UInt64.toNat_ofNat_of_lt' (Nat.lt_of_lt_of_le hi hn),
    UInt64.toNat_ofNat_of_lt' (Nat.lt_of_lt_of_le hj hn)] at hnat

/-- A copy stores one byte after another. -/
theorem copyBytes_eq_scatter (dst : UInt64 → UInt8) (a : UInt64) (src : UInt64 → UInt8)
    (b : UInt64) {n : Nat} (hn : n ≤ 2 ^ 64) :
    copyBytes dst a src b n =
      scatter dst (cells (fun i => a + UInt64.ofNat i) (fun i => src (b + UInt64.ofNat i)) n) := by
  funext x
  have hx : a + UInt64.ofNat (x - a).toNat = x := by
    rw [UInt64.ofNat_toNat, UInt64.add_comm, UInt64.sub_add_cancel]
  unfold copyBytes
  split_ifs with hlt
  · have hcell : scatter dst (cells (fun i => a + UInt64.ofNat i)
        (fun i => src (b + UInt64.ofNat i)) n) (a + UInt64.ofNat (x - a).toNat) = _ :=
      scatter_cells_of_lt (injOn_add a hn) hlt
    rw [hx] at hcell
    rw [hcell, UInt64.ofNat_toNat]
  · refine (scatter_cells_of_ne fun i hi heq => hlt ?_).symm
    rw [← heq, UInt64.add_comm, UInt64.add_sub_cancel,
      UInt64.toNat_ofNat_of_lt' (Nat.lt_of_lt_of_le hi hn)]
    exact hi

section Transfer

variable {copy : Transfer → UInt64 → UInt64 → Transfer} {base totalBytes : UInt64}

/-- The transfer after an entry that was mapped. -/
def Transfer.moved (copy : Transfer → UInt64 → UInt64 → Transfer) (t : Transfer) (e : PrpEntry) :
    Transfer :=
  { copy { t with os := (t.os.call .mapIoSpace).2 } (e.physicalAddress + e.offset.toUInt64)
      e.length.toUInt64 with
    bufferOffset := t.bufferOffset + e.length.toUInt64 }

/-- One entry that can be mapped and fits in what is left. -/
theorem prpTransferStep_works {t : Transfer} (ht : t.os.Works) {e : PrpEntry}
    (hpos : 0 < e.length.toNat)
    (hfit : t.bufferOffset.toNat + e.length.toNat ≤ totalBytes.toNat) :
    prpTransferStep copy totalBytes t e = t.moved copy e := by
  have hlen : e.length.toUInt64.toNat = e.length.toNat := UInt32.toNat_toUInt64 _
  have hlt : t.bufferOffset < totalBytes := UInt64.lt_iff_toNat_lt.mpr (by omega)
  have hle : ¬ e.length.toUInt64 > totalBytes - t.bufferOffset := by
    rw [gt_iff_lt, UInt64.lt_iff_toNat_lt, UInt64.toNat_sub_of_le _ _ (UInt64.le_of_lt hlt), hlen]
    omega
  obtain ⟨hok, -, -⟩ := ht.call .mapIoSpace
  unfold prpTransferStep Transfer.moved
  rw [if_pos hlt]
  simp only [hok, if_neg hle, ↓reduceIte]

theorem add_length_toNat {t : Transfer} {e : PrpEntry} {rest : Nat}
    (hfit : t.bufferOffset.toNat + (e.length.toNat + rest) ≤ totalBytes.toNat) :
    (t.bufferOffset + e.length.toUInt64).toNat + rest ≤ totalBytes.toNat := by
  have hlt := totalBytes.toNat_lt
  rw [UInt64.toNat_add, UInt32.toNat_toUInt64]
  omega

/-- A loop that stores bytes. One entry stores the bytes of its pieces (`put`) into the memory
`view`, and does not change what is to be stored; then the list stores the bytes of all pieces. -/
theorem prpTransfer_scatter (copy : Transfer → UInt64 → UInt64 → Transfer)
    (view : Transfer → UInt64 → UInt8)
    {put : Transfer → UInt64 × UInt64 → UInt64 × UInt8}
    (hworks : ∀ (t : Transfer) (e : PrpEntry), t.os.Works → (t.moved copy e).os.Works)
    (hput : ∀ (t : Transfer) (e : PrpEntry), put (t.moved copy e) = put t)
    (hview : ∀ (t : Transfer) (e : PrpEntry), view (t.moved copy e) =
      scatter (view t) ((e.pieces t.bufferOffset).map (put t)))
    (es : List PrpEntry) (t : Transfer) (ht : t.os.Works) (hpos : ∀ e ∈ es, 0 < e.length.toNat)
    (hfit : t.bufferOffset.toNat + (es.map fun e => e.length.toNat).sum ≤ totalBytes.toNat) :
    view (prpTransfer copy totalBytes es t) =
      scatter (view t) ((pieces t.bufferOffset es).map (put t)) := by
  induction es generalizing t with
  | nil => rfl
  | cons e es ih =>
      obtain ⟨hpos0, hpos'⟩ := List.forall_mem_cons.mp hpos
      rw [List.map_cons, List.sum_cons] at hfit
      have hstep : prpTransferStep copy totalBytes t e = _ :=
        prpTransferStep_works ht hpos0 (by omega)
      have hrest := ih (t.moved copy e) (hworks t e ht) hpos' (add_length_toNat hfit)
      rw [prpTransfer, List.foldl_cons, hstep, ← prpTransfer, hrest, hview, hput, pieces,
        List.map_append, scatter_append]
      rfl

theorem PrpEntry.length_le (e : PrpEntry) : e.length.toNat ≤ 2 ^ 64 :=
  Nat.le_of_lt (Nat.lt_trans e.length.toNat_lt (by decide))

/-- To the host: each byte goes to its address. -/
theorem copyToHost_moved (base : UInt64) (t : Transfer) (e : PrpEntry) :
    (t.moved (copyToHost base) e).os.hostMem =
      scatter t.os.hostMem
        ((e.pieces t.bufferOffset).map fun p => (p.2, t.buffer (base + p.1))) := by
  show copyBytes t.os.hostMem _ t.buffer (base + t.bufferOffset) e.length.toUInt64.toNat = _
  rw [UInt32.toNat_toUInt64, copyBytes_eq_scatter _ _ _ _ e.length_le, PrpEntry.pieces, map_cells]
  exact congrArg _ (cells_congr (fun i _ => rfl)
    fun i _ => congrArg t.buffer (UInt64.add_assoc _ _ _))

/-- From the host: each byte comes from its address. -/
theorem copyFromHost_moved (base : UInt64) (t : Transfer) (e : PrpEntry) :
    (t.moved (copyFromHost base) e).buffer =
      scatter t.buffer
        ((e.pieces t.bufferOffset).map fun p => (base + p.1, t.os.hostMem p.2)) := by
  show copyBytes t.buffer (base + t.bufferOffset) t.os.hostMem _ e.length.toUInt64.toNat = _
  rw [UInt32.toNat_toUInt64, copyBytes_eq_scatter _ _ _ _ e.length_le, PrpEntry.pieces, map_cells]
  exact congrArg _ (cells_congr (fun i _ => UInt64.add_assoc _ _ _) fun i _ => rfl)

section Named

variable {es : List PrpEntry} {n : Nat} {address : Nat → UInt64} (hes : Names es n address)
  {os : Os} (hos : os.Works) (buffer : UInt64 → UInt8) (htotal : totalBytes.toNat = n)

include hes htotal

theorem Names.fits :
    (0 : UInt64).toNat + (es.map fun e => e.length.toNat).sum ≤ totalBytes.toNat := by
  rw [hes.total, htotal, UInt64.toNat_zero, Nat.zero_add]

include hos

theorem Names.toHost (hinj : Set.InjOn address {i | i < n}) {i : Nat} (hi : i < n) :
    (prpTransfer (copyToHost base) totalBytes es { os := os, buffer := buffer }).os.hostMem
      (address i) = buffer (base + UInt64.ofNat i) := by
  have hmem := prpTransfer_scatter (copyToHost base) (fun t => t.os.hostMem) (fun _ _ ht => ht)
    (fun _ _ => rfl) (copyToHost_moved base) es { os := os, buffer := buffer } hos hes.nonempty
    (hes.fits htotal)
  rw [hmem, hes.pieces_eq, map_cells]
  refine (scatter_cells_of_lt hinj hi).trans ?_
  show buffer (base + (0 + UInt64.ofNat i)) = _
  rw [UInt64.zero_add]

theorem Names.fromHost (base : UInt64) :
    (prpTransfer (copyFromHost base) totalBytes es { os := os, buffer := buffer }).buffer =
      scatter buffer
        (cells (fun i => base + UInt64.ofNat i) (fun i => os.hostMem (address i)) n) := by
  have hbuffer := prpTransfer_scatter (copyFromHost base) Transfer.buffer (fun _ _ ht => ht)
    (fun _ _ => rfl) (copyFromHost_moved base) es { os := os, buffer := buffer } hos hes.nonempty
    (hes.fits htotal)
  rw [hbuffer, hes.pieces_eq, map_cells]
  refine congrArg _ (cells_congr (fun i _ => ?_) fun _ _ => rfl)
  show base + (0 + UInt64.ofNat i) = _
  rw [UInt64.zero_add]

end Named

end Transfer

end VirtualNvme
