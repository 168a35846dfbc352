import VirtualNvme.Verification.BackedNamespaces
import VirtualNvme.Verification.PrpWindow

/-!
# Segments that cannot be mapped

The loop over the entries of a transfer skips a segment that cannot be mapped, and does not move on
in its buffer either. So a segment behind it lands where the skipped one belongs, and no handler
looks at what was skipped. `prpAttempts` is the loop with nothing but its bookkeeping; the loop
itself is one run over these rounds (`prpTransfer_eq_attempts`).
-/

namespace VirtualNvme

/-! ## The bookkeeping of the loop -/

/-- One round of the loop: the entry, the place of its segment in the data, the position in the
buffer, the number of bytes, and whether they can be mapped. -/
structure PrpAttempt where
  entry : PrpEntry
  place : ℕ
  position : UInt64
  size : UInt64
  mapped : Bool

/-- The rounds of the loop, where the `j`-th mapping from here on succeeds iff `maps j`. -/
def prpAttempts (totalBytes : UInt64) :
    (ℕ → Bool) → UInt64 → ℕ → List PrpEntry → List PrpAttempt
  | _, _, _, [] => []
  | maps, bufferOffset, place, e :: es =>
    if bufferOffset < totalBytes then
      let length := e.length.toUInt64
      let left := totalBytes - bufferOffset
      let mapSize := if length > left then left else length
      ⟨e, place, bufferOffset, mapSize, maps 0⟩ ::
        prpAttempts totalBytes (fun j => maps (j + 1))
          (if maps 0 then bufferOffset + mapSize else bufferOffset) (place + e.length.toNat) es
    else []

/-- What a round does: it asks for the mapping, and copies at its position if it gets it. -/
def PrpAttempt.run (copy : Transfer → UInt64 → UInt64 → Transfer) (t : Transfer)
    (a : PrpAttempt) : Transfer :=
  let t := { t with os := (t.os.call .mapIoSpace).2 }
  if a.mapped then
    { copy { t with bufferOffset := a.position }
        (a.entry.physicalAddress + a.entry.offset.toUInt64) a.size with
      bufferOffset := a.position + a.size }
  else t

/-- The answers to the mappings still to come. -/
def Os.maps (os : Os) (j : ℕ) : Bool := os.ok .mapIoSpace (os.calls + j)

theorem maps_succ (os os' : Os) (hok : os'.ok = os.ok) (hcalls : os'.calls = os.calls + 1) :
    os'.maps = fun j => os.maps (j + 1) := by
  funext j
  rw [Os.maps, Os.maps, hok, hcalls, Nat.add_assoc, Nat.add_comm 1]

/-- Copying leaves the kernel alone. -/
def KeepsKernel (copy : Transfer → UInt64 → UInt64 → Transfer) : Prop :=
  ∀ t phys size, (copy t phys size).os.ok = t.os.ok ∧ (copy t phys size).os.calls = t.os.calls

theorem copyToHost_keepsKernel (base : UInt64) : KeepsKernel (copyToHost base) :=
  fun _ _ _ => ⟨rfl, rfl⟩

theorem copyFromHost_keepsKernel (base : UInt64) : KeepsKernel (copyFromHost base) :=
  fun _ _ _ => ⟨rfl, rfl⟩

section Loop

variable {copy : Transfer → UInt64 → UInt64 → Transfer} (hcopy : KeepsKernel copy)
  {totalBytes : UInt64}

theorem prpTransfer_done {t : Transfer} (hdone : ¬ t.bufferOffset < totalBytes)
    (es : List PrpEntry) : prpTransfer copy totalBytes es t = t := by
  induction es with
  | nil => rfl
  | cons e es ih =>
      rw [prpTransfer, List.foldl_cons, prpTransferStep, if_neg hdone]
      exact ih

include hcopy

/-- **The loop is its rounds.** -/
theorem prpTransfer_eq_attempts (es : List PrpEntry) (t : Transfer) (place : ℕ) :
    prpTransfer copy totalBytes es t =
      (prpAttempts totalBytes t.os.maps t.bufferOffset place es).foldl (PrpAttempt.run copy) t := by
  induction es generalizing t place with
  | nil => rfl
  | cons e es ih =>
      by_cases hmore : t.bufferOffset < totalBytes
      swap
      · rw [prpTransfer_done hmore, prpAttempts, if_neg hmore]
        rfl
      rw [prpAttempts, if_pos hmore]
      dsimp only
      generalize hsize : (if e.length.toUInt64 > totalBytes - t.bufferOffset then
        totalBytes - t.bufferOffset else e.length.toUInt64) = mapSize
      have hstep : prpTransferStep copy totalBytes t e =
          PrpAttempt.run copy t ⟨e, place, t.bufferOffset, mapSize, t.os.maps 0⟩ := by
        rw [prpTransferStep, if_pos hmore, PrpAttempt.run]
        dsimp only
        rw [hsize]
        rfl
      rw [prpTransfer, List.foldl_cons, hstep, ← prpTransfer, List.foldl_cons,
        ih _ (place + e.length.toNat)]
      unfold PrpAttempt.run
      dsimp only
      split_ifs with hmapped
      · obtain ⟨hok, hcalls⟩ := hcopy { t with os := (t.os.call .mapIoSpace).2 }
          (e.physicalAddress + e.offset.toUInt64) mapSize
        rw [maps_succ t.os _ hok hcalls]
      · rw [maps_succ t.os (t.os.call .mapIoSpace).2 rfl rfl]

end Loop

/-! ## Where the segments land -/

/-- No segment is mapped behind one that is not. -/
def NoGap (maps : ℕ → Bool) (n : ℕ) : Prop :=
  ∀ i j, i < j → j < n → maps j = true → maps i = true

theorem NoGap.of_all {maps : ℕ → Bool} {n : ℕ} (h : ∀ j, j < n → maps j = true) :
    NoGap maps n :=
  fun i _ hij hj _ => h i (Nat.lt_trans hij hj)

theorem noGap_succ_of_mapped {maps : ℕ → Bool} (n : ℕ) (hfirst : maps 0 = true) :
    NoGap maps (n + 1) ↔ NoGap (fun j => maps (j + 1)) n := by
  constructor
  · intro h i j hij hj hmapped
    exact h (i + 1) (j + 1) (by omega) (by omega) hmapped
  · intro h i j hij hj hmapped
    cases i with
    | zero => exact hfirst
    | succ i =>
        obtain ⟨j, rfl⟩ : ∃ j', j = j' + 1 := ⟨j - 1, by omega⟩
        exact h i j (by omega) (by omega) hmapped

theorem noGap_succ_of_unmapped {maps : ℕ → Bool} (n : ℕ) (hfirst : maps 0 = false) :
    NoGap maps (n + 1) ↔ ∀ j, j < n → maps (j + 1) = false := by
  constructor
  · intro h j hj
    refine eq_false_of_ne_true fun hmapped => ?_
    rw [h 0 (j + 1) (by omega) (by omega) hmapped] at hfirst
    cases hfirst
  · intro h i j hij hj hmapped
    obtain ⟨j, rfl⟩ : ∃ j', j = j' + 1 := ⟨j - 1, by omega⟩
    rw [h j (by omega)] at hmapped
    cases hmapped

/-- Segments with bytes, no more from `place` on than the transfer has. -/
structure FitsFrom (totalBytes : UInt64) (place : ℕ) (es : List PrpEntry) : Prop where
  positive : ∀ e ∈ es, 0 < e.length.toNat
  total : place + (es.map fun e => e.length.toNat).sum ≤ totalBytes.toNat

section Fits

variable {totalBytes bufferOffset : UInt64} {place : ℕ} {e : PrpEntry} {es : List PrpEntry}

theorem FitsFrom.tail (h : FitsFrom totalBytes place (e :: es)) :
    FitsFrom totalBytes (place + e.length.toNat) es where
  positive := (List.forall_mem_cons.mp h.positive).2
  total := by
    have htotal := h.total
    rw [List.map_cons, List.sum_cons] at htotal
    omega

theorem FitsFrom.skip (h : FitsFrom totalBytes place (e :: es)) : FitsFrom totalBytes place es where
  positive := h.tail.positive
  total := by
    have htotal := h.tail.total
    omega

theorem FitsFrom.next_toNat (h : FitsFrom totalBytes place (e :: es))
    (hle : bufferOffset.toNat ≤ place) :
    (bufferOffset + e.length.toUInt64).toNat = bufferOffset.toNat + e.length.toNat := by
  have htotal := h.tail.total
  have hlt := totalBytes.toNat_lt
  rw [UInt64.toNat_add, UInt32.toNat_toUInt64]
  omega

/-- A segment that fits is not cut, and the loop goes on behind it. -/
theorem FitsFrom.attempts (h : FitsFrom totalBytes place (e :: es))
    (hle : bufferOffset.toNat ≤ place) (maps : ℕ → Bool) :
    prpAttempts totalBytes maps bufferOffset place (e :: es) =
      ⟨e, place, bufferOffset, e.length.toUInt64, maps 0⟩ ::
        prpAttempts totalBytes (fun j => maps (j + 1))
          (if maps 0 then bufferOffset + e.length.toUInt64 else bufferOffset)
          (place + e.length.toNat) es := by
  have hpos := h.positive e List.mem_cons_self
  have htotal := h.tail.total
  have hlength : e.length.toUInt64.toNat = e.length.toNat := UInt32.toNat_toUInt64 _
  have hmore : bufferOffset < totalBytes := UInt64.lt_iff_toNat_lt.mpr (by omega)
  have hleft : ¬ e.length.toUInt64 > totalBytes - bufferOffset := by
    rw [gt_iff_lt, UInt64.lt_iff_toNat_lt, UInt64.toNat_sub_of_le _ _ (UInt64.le_of_lt hmore),
      hlength]
    omega
  rw [prpAttempts, if_pos hmore]
  dsimp only
  rw [if_neg hleft]

/-- Every segment is tried. -/
theorem FitsFrom.mapped_attempts (h : FitsFrom totalBytes place es)
    (hle : bufferOffset.toNat ≤ place) (maps : ℕ → Bool) :
    (prpAttempts totalBytes maps bufferOffset place es).map PrpAttempt.mapped =
      (List.range es.length).map maps := by
  induction es generalizing bufferOffset place maps with
  | nil => rfl
  | cons e es ih =>
      have hnext := h.next_toNat hle
      have hle' : (if maps 0 then bufferOffset + e.length.toUInt64 else bufferOffset).toNat ≤
          place + e.length.toNat := by
        split_ifs <;> omega
      rw [h.attempts hle, List.map_cons, ih h.tail hle', List.length_cons,
        List.range_succ_eq_map, List.map_cons, List.map_map]
      rfl

/-- Once the loop is behind, every segment that it maps is out of place. -/
theorem FitsFrom.inPlace_behind (h : FitsFrom totalBytes place es)
    (hlt : bufferOffset.toNat < place) (maps : ℕ → Bool) :
    (∀ a ∈ prpAttempts totalBytes maps bufferOffset place es, a.mapped = true →
        a.position.toNat = a.place) ↔
      ∀ j, j < es.length → maps j = false := by
  induction es generalizing bufferOffset place maps with
  | nil => exact iff_of_true (fun a ha => by cases ha) fun j hj => absurd hj (Nat.not_lt_zero j)
  | cons e es ih =>
      rw [h.attempts (Nat.le_of_lt hlt), List.forall_mem_cons, List.length_cons,
        Nat.forall_lt_succ_left]
      cases hfirst : maps 0 with
      | true =>
          refine iff_of_false (fun hall => ?_) fun hall => by cases hall.1
          exact absurd (hall.1 rfl) (Nat.ne_of_lt hlt)
      | false =>
          have hlt' : bufferOffset.toNat < place + e.length.toNat := by omega
          rw [if_neg Bool.false_ne_true]
          exact and_congr (iff_of_true (fun hc => by cases hc) rfl) (ih h.tail hlt' _)

/-- **Where the segments land.** Each segment that is mapped lands in its place exactly if none
is mapped behind one that is not. -/
theorem FitsFrom.inPlace_iff (h : FitsFrom totalBytes place es)
    (heq : bufferOffset.toNat = place) (maps : ℕ → Bool) :
    (∀ a ∈ prpAttempts totalBytes maps bufferOffset place es, a.mapped = true →
        a.position.toNat = a.place) ↔
      NoGap maps es.length := by
  induction es generalizing bufferOffset place maps with
  | nil =>
      exact iff_of_true (fun a ha => by cases ha) fun i j _ hj => absurd hj (Nat.not_lt_zero j)
  | cons e es ih =>
      have hpos := h.positive e List.mem_cons_self
      have hnext := h.next_toNat (Nat.le_of_eq heq)
      rw [h.attempts (Nat.le_of_eq heq), List.forall_mem_cons, List.length_cons]
      refine (and_iff_right fun _ => heq).trans ?_
      cases hfirst : maps 0 with
      | true =>
          rw [if_pos rfl, noGap_succ_of_mapped _ hfirst]
          exact ih h.tail (by omega) _
      | false =>
          -- the loop stays where it is, so from here on it is behind
          rw [if_neg Bool.false_ne_true, noGap_succ_of_unmapped _ hfirst]
          exact h.tail.inPlace_behind (by omega) _

end Fits

/-- What the parser returns fits in the transfer it was asked for. -/
theorem parsed_fits {os : Os} {prp1 prp2 totalBytes : UInt64} {len : UInt32}
    {es : List PrpEntry} (htotal : totalBytes.toNat = len.toNat)
    (hmax : len.toNat ≤ 65535 * 4096) (hes : (vnvmeParsePrpList os prp1 prp2 len).1 = .ok es) :
    FitsFrom totalBytes 0 es := by
  by_cases hzero : len = 0
  · rw [vnvmeParsePrpList, if_pos hzero] at hes
    obtain rfl := Except.ok.inj hes
    exact ⟨fun e he => absurd he List.not_mem_nil, Nat.zero_le _⟩
  · have hpos : 0 < len.toNat := UInt32.pos_iff_ne_zero.mpr hzero
    obtain ⟨-, rfl⟩ := (vnvmeParsePrpList_ok_iff hpos (by omega) es).mp hes
    refine ⟨segments_positive hpos _ _ _, ?_⟩
    rw [sum_segments hpos]
    split_ifs <;> omega

/-! ## What the loop leaves -/

/-- The bytes of the segments that are mapped, one segment behind the other. -/
def mappedData (mem : UInt64 → UInt8) : (ℕ → Bool) → List PrpEntry → ℕ → UInt8
  | _, [], _ => 0
  | maps, e :: es, x =>
    if maps 0 then
      if x < e.length.toNat then
        mem (e.physicalAddress + e.offset.toUInt64 + UInt64.ofNat x)
      else mappedData mem (fun j => maps (j + 1)) es (x - e.length.toNat)
    else mappedData mem (fun j => maps (j + 1)) es x

section Effect

variable {copy : Transfer → UInt64 → UInt64 → Transfer} (hcopy : KeepsKernel copy)
  {totalBytes : UInt64} {es : List PrpEntry}

include hcopy

/-- Each segment asks for one mapping. -/
theorem prpTransfer_kernel {t : Transfer} (h : FitsFrom totalBytes t.bufferOffset.toNat es) :
    (prpTransfer copy totalBytes es t).os.ok = t.os.ok ∧
      (prpTransfer copy totalBytes es t).os.calls = t.os.calls + es.length := by
  have hround (a : PrpAttempt) (t : Transfer) : (a.run copy t).os.ok = t.os.ok ∧
      (a.run copy t).os.calls = t.os.calls + 1 := by
    unfold PrpAttempt.run
    dsimp only
    split_ifs
    · exact hcopy _ _ _
    · exact ⟨rfl, rfl⟩
  have hall (as : List PrpAttempt) (t : Transfer) :
      (as.foldl (PrpAttempt.run copy) t).os.ok = t.os.ok ∧
        (as.foldl (PrpAttempt.run copy) t).os.calls = t.os.calls + as.length := by
    induction as generalizing t with
    | nil => exact ⟨rfl, rfl⟩
    | cons a as ih =>
        obtain ⟨hok, hcalls⟩ := ih (a.run copy t)
        rw [List.foldl_cons, hok, hcalls, (hround a t).1, (hround a t).2, List.length_cons]
        exact ⟨rfl, by omega⟩
  have hlength := congrArg List.length (h.mapped_attempts (Nat.le_refl _) t.os.maps)
  rw [List.length_map, List.length_map, List.length_range] at hlength
  rw [prpTransfer_eq_attempts hcopy es t t.bufferOffset.toNat, ← hlength]
  exact hall _ t

/-- One segment that fits. -/
theorem FitsFrom.transfer {t : Transfer} {e : PrpEntry}
    (h : FitsFrom totalBytes t.bufferOffset.toNat (e :: es)) :
    prpTransfer copy totalBytes (e :: es) t = prpTransfer copy totalBytes es
      (PrpAttempt.run copy t
        ⟨e, t.bufferOffset.toNat, t.bufferOffset, e.length.toUInt64, t.os.maps 0⟩) := by
  have hone : FitsFrom totalBytes t.bufferOffset.toNat [e] :=
    ⟨fun e' he' => h.positive e' (by simpa using Or.inl (List.mem_singleton.mp he')), by
      have htotal := h.tail.total
      rw [List.map_singleton, List.sum_singleton]
      omega⟩
  have hstep : prpTransfer copy totalBytes [e] t = _ :=
    prpTransfer_eq_attempts hcopy [e] t t.bufferOffset.toNat
  rw [hone.attempts (Nat.le_refl _)] at hstep
  exact congrArg (prpTransfer copy totalBytes es) hstep

end Effect

theorem copyFromHost_run (t : Transfer) (e : PrpEntry) (place : ℕ) :
    PrpAttempt.run (copyFromHost 0) t ⟨e, place, t.bufferOffset, e.length.toUInt64, true⟩ =
      { os := (t.os.call .mapIoSpace).2
        buffer := copyBytes t.buffer t.bufferOffset t.os.hostMem
          (e.physicalAddress + e.offset.toUInt64) e.length.toNat
        bufferOffset := t.bufferOffset + e.length.toUInt64 } := by
  have hlength : e.length.toUInt64.toNat = e.length.toNat := UInt32.toNat_toUInt64 _
  show Transfer.mk _ (copyBytes t.buffer (0 + t.bufferOffset) t.os.hostMem _ _) _ = _
  rw [UInt64.zero_add, hlength]
  rfl

/-- From the host into an empty buffer: the bytes of the mapped segments, with no space between
them. -/
theorem copyFromHost_data {totalBytes : UInt64} (es : List PrpEntry) (t : Transfer)
    (h : FitsFrom totalBytes t.bufferOffset.toNat es)
    (hempty : ∀ x, t.bufferOffset.toNat ≤ x → x < 2 ^ 64 → t.buffer (UInt64.ofNat x) = 0)
    {x : ℕ} (hx : x < 2 ^ 64) :
    (prpTransfer (copyFromHost 0) totalBytes es t).buffer (UInt64.ofNat x) =
      if x < t.bufferOffset.toNat then t.buffer (UInt64.ofNat x)
      else mappedData t.os.hostMem t.os.maps es (x - t.bufferOffset.toNat) := by
  -- the buffer is empty from its offset on, and each mapped segment is put in there
  induction es generalizing t with
  | nil =>
      split_ifs with hbefore
      · rfl
      · exact hempty x (Nat.not_lt.mp hbefore) hx
  | cons e es ih =>
      have hshift := maps_succ t.os (t.os.call .mapIoSpace).2 rfl rfl
      rw [h.transfer (copyFromHost_keepsKernel 0), mappedData]
      cases hmapped : t.os.maps 0 with
      | false =>
          rw [if_neg Bool.false_ne_true]
          have hrest := ih { t with os := (t.os.call .mapIoSpace).2 } h.skip hempty
          rw [hshift] at hrest
          exact hrest
      | true =>
          have hnext := h.next_toNat (Nat.le_refl _)
          have htail := h.tail
          have hlt := totalBytes.toNat_lt
          have htotal := htail.total
          rw [← hnext] at htail
          have hcopy (y : ℕ) (hy : y < 2 ^ 64) := copyBytes_splice t.buffer
            (by omega : t.bufferOffset.toNat + e.length.toNat ≤ 2 ^ 64)
            t.os.hostMem (e.physicalAddress + e.offset.toUInt64) hy
          rw [if_pos rfl, copyFromHost_run, ih _ htail fun y hy hlt => ?_]
          · dsimp only
            rw [hcopy x hx, splice, hshift, hnext]
            by_cases hbefore : x < t.bufferOffset.toNat
            · rw [if_pos (by omega), if_neg (by omega), if_pos hbefore]
            · rw [if_neg hbefore]
              by_cases hin : x < t.bufferOffset.toNat + e.length.toNat
              · rw [if_pos hin, if_pos (by omega), if_pos (by omega)]
              · rw [if_neg hin, if_neg (by omega), Nat.sub_sub]
                rfl
          · dsimp only at hy ⊢
            rw [hcopy y hlt, splice, if_neg (by omega)]
            exact hempty y (by omega) hlt

/-! ## The commands -/

/-- The kernel when the handler of a Read, Write or Compare asks for the entries of its transfer,
if it comes so far and does not drop its data. -/
def Request.beforeParse (ns : Namespace) (r : Request) : Option Os :=
  let totalBytes := commandBytes ns r.cmd
  let byteOffset := vnvmeBlocksToBytes r.cmd.slba ns.blockSize
  if !vnvmeLbaRangeValid r.cmd.slba r.cmd.nlb.toUInt64 ns.totalBlocks then none
  else if r.cmd.opc = nvmeIoRead then
    let src := readSource ns r.os byteOffset totalBytes
    match src.1 with
    | .ok _ => some src.2.2
    | .error _ => none
  else if r.cmd.opc = nvmeIoWrite then
    let tgt := writeTarget ns r.os byteOffset totalBytes
    match tgt.1 with
    | .ok .discard => none
    | .ok _ => some tgt.2.2
    | .error _ => none
  else if totalBytes > maxBufferedTransfer then none
  else
    let (allocated, os) := r.os.call .allocatePool
    if !allocated then none
    else
      let (allocated, os) := os.call .allocatePool
      if !allocated then none else some os

/-- The loop over the segments starts with the kernel `os` and the entries `es`. -/
def Request.StartsLoop (ns : Namespace) (r : Request) (os : Os) (es : List PrpEntry) : Prop :=
  ∃ before, r.beforeParse ns = some before ∧
    vnvmeParsePrpList before r.cmd.prp1 r.cmd.prp2 (commandBytes ns r.cmd).toUInt32 = (.ok es, os)

/-- The range of the command in the backend is refused, or the file does not answer the next
call behind the loop. -/
def Request.BackendRefuses (ns : Namespace) (r : Request) (os : Os) (es : List PrpEntry)
    (call : OsCall) : Prop :=
  ns.backend.Refuses (os.ok call (os.calls + es.length))
    (vnvmeBlocksToBytes r.cmd.slba ns.blockSize) (commandBytes ns r.cmd).toUInt32

/-- Behind its loop, the command fails for a reason of its own: a Read for none, a Write if the
backend refuses it, and a Compare also if the mapped data differ from the stored bytes. -/
def Request.FailsBehindLoop (ns : Namespace) (r : Request) (os : Os) (es : List PrpEntry) : Prop :=
  if r.cmd.opc = nvmeIoRead then False
  else if r.cmd.opc = nvmeIoWrite then r.BackendRefuses ns os es .writeFile
  else r.BackendRefuses ns os es .readFile ∨
    ∃ x, x < (commandBytes ns r.cmd).toNat ∧ mappedData os.hostMem os.maps es x ≠
      ns.backend.bytes ((vnvmeBlocksToBytes r.cmd.slba ns.blockSize).toNat + x)

/-- A segment that cannot be mapped makes the command fail, and those that can be mapped are
copied to or from their places. -/
def MapsSafely (m : Media) (r : Request) : Prop :=
  ∀ ns os es, activeNamespace m r.cmd.nsid = some ns → r.StartsLoop ns os es →
    let attempts := prpAttempts (commandBytes ns r.cmd) os.maps 0 0 es
    ((∃ a ∈ attempts, a.mapped = false) → ¬ (r.result m).Succeeds) ∧
      ∀ a ∈ attempts, a.mapped = true → a.position.toNat = a.place

theorem mediaError_fails {m : Media} {os : Os} {sc : UInt8} :
    ¬ (IoResult.mk m os nvmeSctMediaError sc).Succeeds := by
  rintro ⟨hsct, -⟩
  have hsct : nvmeSctMediaError = nvmeSctGeneric := hsct
  exact absurd hsct (by decide)

theorem sameBytes_iff (a b : UInt64 → UInt8) (n : ℕ) :
    sameBytes a b n = true ↔ ∀ x, x < n → a (UInt64.ofNat x) = b (UInt64.ofNat x) := by
  unfold sameBytes
  rw [List.all_eq_true]
  simp only [List.mem_range, beq_iff_eq]

/-- A Write that gets to its loop has a pointer into the buffer of the backend, or a buffer of its
own. -/
theorem writeTarget_cases {ns : Namespace} {st : StorageContext} (hst : ns.storage = some st)
    (hready : st.Ready) {os' : Os} {byteOffset totalBytes : UInt64} {target : WriteTarget}
    (hok : (writeTarget ns os' byteOffset totalBytes).1 = .ok target) :
    (target = .direct ∧ st.type = .memory ∧
        st.outOfRange byteOffset totalBytes.toUInt32 = false) ∨
      (target = .buffer ∧ (writeTarget ns os' byteOffset totalBytes).2.1 = ns ∧
        ¬ (st.type = .memory ∧ st.outOfRange byteOffset totalBytes.toUInt32 = false)) := by
  obtain ⟨hdirect, hsame⟩ := hready.getDirect byteOffset totalBytes.toUInt32
  have hkeep (h : (vnvmeStorageGetDirect st byteOffset totalBytes.toUInt32).2 = st) :
      { ns with storage := some (vnvmeStorageGetDirect st byteOffset totalBytes.toUInt32).2 } =
        ns := by
    rw [h, ← hst]
  unfold writeTarget at hok ⊢
  rw [hst] at hok ⊢
  dsimp only at hok ⊢
  by_cases hptr : (vnvmeStorageGetDirect st byteOffset totalBytes.toUInt32).1.ntSuccess = true
  · rw [if_pos hptr] at hok
    obtain rfl := Except.ok.inj hok
    exact Or.inl ⟨rfl, hdirect.mp hptr⟩
  · rw [if_neg hptr] at hok ⊢
    have hns := hkeep (hsame (eq_false_of_ne_true hptr))
    by_cases hbig : totalBytes > maxBufferedTransfer
    · rw [if_pos hbig] at hok
      cases hok
    rw [if_neg hbig] at hok ⊢
    by_cases halloc : (os'.call .allocatePool).1 = true
    · rw [if_pos halloc] at hok ⊢
      obtain rfl := Except.ok.inj hok
      exact Or.inr ⟨rfl, hns, fun hc => hptr (hdirect.mpr hc)⟩
    · rw [if_neg halloc] at hok
      cases hok

/-- No command asks for more than 65535 blocks. -/
theorem commandBytes_le {ns : Namespace} (h : ns.Fits) (cmd : NvmeCommand) :
    (commandBytes ns cmd).toUInt32.toNat ≤ 65535 * 4096 := by
  have hnlb := cmd.nlb.toNat_lt
  rw [(commandBytes_toNat h cmd).2]
  rcases blockSize_toNat h with hbs | hbs
  · rw [hbs]
    omega
  · rw [hbs]
    omega

/-- What `HandleCompare` does once it has both its buffers. -/
def compareBuffered (m : Media) (ns : Namespace) (os : Os) (cmd : NvmeCommand) : IoResult :=
  let prp := vnvmeParsePrpList os cmd.prp1 cmd.prp2 (commandBytes ns cmd).toUInt32
  match prp.1 with
  | .error _ => { media := m, os := prp.2, sc := nvmeScInternalError }
  | .ok entries =>
    let t := prpTransfer (copyFromHost 0) (commandBytes ns cmd) entries
      { os := prp.2, buffer := fun _ => 0 }
    let finish (m : Media) (os : Os) (data : UInt64 → UInt8) : IoResult :=
      if sameBytes t.buffer data (commandBytes ns cmd).toNat then
        { media := m.countCommand, os := os, sc := nvmeScSuccess }
      else
        { media := m.countCommand, os := os, sct := nvmeSctMediaError, sc := nvmeScCompareFailure }
    match ns.storage with
    | none => finish m t.os fun _ => 0
    | some st =>
      let r := vnvmeStorageRead (st, t.os) (vnvmeBlocksToBytes cmd.slba ns.blockSize)
        (commandBytes ns cmd).toUInt32
      let m := m.setNamespace cmd.nsid { ns with storage := some r.2.2.1 }
      if r.1.ntSuccess then finish m r.2.2.2 r.2.1
      else
        { media := m, os := r.2.2.2, sct := nvmeSctMediaError, sc := nvmeScUnrecoveredReadError }

/-- A Compare is refused with nothing changed, or it gets both its buffers. -/
theorem handleCompare_cases {m : Media} {ns : Namespace} {r : Request}
    (hns : activeNamespace m r.cmd.nsid = some ns) (hopc : r.cmd.opc = nvmeIoCompare) :
    (r.beforeParse ns = none ∧ ∃ os sc, sc ≠ nvmeScSuccess ∧
      handleCompare m r.os r.cmd = { media := m, os := os, sc := sc }) ∨
    ∃ before, r.beforeParse ns = some before ∧
      handleCompare m r.os r.cmd = compareBuffered m ns before r.cmd := by
  have hread : r.cmd.opc ≠ nvmeIoRead := by
    rw [hopc]
    decide
  have hwrite : r.cmd.opc ≠ nvmeIoWrite := by
    rw [hopc]
    decide
  rw [Request.beforeParse, if_neg hread, if_neg hwrite, handleCompare, hns]
  dsimp only
  rw [← commandBytes]
  split_ifs with hinvalid hbig hfirst hsecond
  · exact Or.inl ⟨rfl, _, _, by decide, rfl⟩
  · exact Or.inl ⟨rfl, _, _, by decide, rfl⟩
  · exact Or.inl ⟨rfl, _, _, by decide, rfl⟩
  · exact Or.inl ⟨rfl, _, _, by decide, rfl⟩
  · exact Or.inr ⟨_, rfl, rfl⟩

section Command

variable {m : Media} {ns : Namespace} {r : Request} {os : Os} {es : List PrpEntry}
  (hns : activeNamespace m r.cmd.nsid = some ns) (hstart : r.StartsLoop ns os es)

include hstart in
theorem Request.StartsLoop.lbaRangeValid :
    vnvmeLbaRangeValid r.cmd.slba r.cmd.nlb.toUInt64 ns.totalBlocks = true := by
  obtain ⟨before, hbefore, -⟩ := hstart
  by_contra hinvalid
  rw [Request.beforeParse, if_pos (by simpa using hinvalid)] at hbefore
  cases hbefore

include hstart in
theorem Request.StartsLoop.fits (h : ns.Fits) : FitsFrom (commandBytes ns r.cmd) 0 es := by
  obtain ⟨before, -, hparse⟩ := hstart
  obtain ⟨hbytes, hbytes32⟩ := commandBytes_toNat h r.cmd
  exact parsed_fits (hbytes.trans hbytes32.symm) (commandBytes_le h r.cmd)
    (congrArg Prod.fst hparse)

include hns hstart

/-- A Read that gets to its loop succeeds, and what it does to the kernel and to host memory are
its rounds. -/
theorem handleRead_loop (hopc : r.cmd.opc = nvmeIoRead) :
    ∃ src, (readSource ns r.os (vnvmeBlocksToBytes r.cmd.slba ns.blockSize)
        (commandBytes ns r.cmd)).1 = .ok src ∧
      (handleRead m r.os r.cmd).Succeeds ∧
      (handleRead m r.os r.cmd).os = ((prpAttempts (commandBytes ns r.cmd) os.maps 0 0 es).foldl
        (PrpAttempt.run (copyToHost src.2)) { os := os, buffer := src.1 }).os := by
  have hvalid := hstart.lbaRangeValid
  obtain ⟨before, hbefore, hparse⟩ := hstart
  rw [Request.beforeParse, hvalid, if_neg (by decide), if_pos hopc] at hbefore
  rw [handleRead, hns]
  dsimp only
  rw [hvalid, if_neg (by decide : ¬ (!true) = true), ← commandBytes]
  dsimp only at hbefore
  split at hbefore
  · rename_i src hsrc
    obtain rfl := Option.some.inj hbefore
    rw [hsrc]
    dsimp only
    rw [hparse]
    refine ⟨src, rfl, ⟨rfl, rfl⟩, ?_⟩
    exact congrArg Transfer.os (prpTransfer_eq_attempts (copyToHost_keepsKernel src.2) es
      { os := os, buffer := src.1 } 0)
  · cases hbefore

variable {st : StorageContext} (hst : ns.storage = some st) (hready : st.Ready)
  (hfits : FitsFrom (commandBytes ns r.cmd) 0 es)

include hst hready hfits

theorem handleWrite_succeeds_iff (hopc : r.cmd.opc = nvmeIoWrite) :
    (handleWrite m r.os r.cmd).Succeeds ↔ ¬ r.BackendRefuses ns os es .writeFile := by
  have hvalid := hstart.lbaRangeValid
  have hread : r.cmd.opc ≠ nvmeIoRead := by
    rw [hopc]
    decide
  obtain ⟨before, hbefore, hparse⟩ := hstart
  rw [Request.beforeParse, hvalid, if_neg (by decide), if_neg hread, if_pos hopc] at hbefore
  rw [handleWrite, hns, Request.BackendRefuses, backend_eq hst]
  dsimp only
  rw [hvalid, if_neg (by decide : ¬ (!true) = true), ← commandBytes]
  dsimp only at hbefore
  cases htarget : (writeTarget ns r.os (vnvmeBlocksToBytes r.cmd.slba ns.blockSize)
      (commandBytes ns r.cmd)).1 with
  | error e =>
      rw [htarget] at hbefore
      cases hbefore
  | ok target =>
      rw [htarget] at hbefore
      dsimp only
      unfold writeData
      rcases writeTarget_cases hst hready htarget with ⟨rfl, htype, hrange⟩ | ⟨rfl, hsame, hno⟩
      · obtain rfl := Option.some.inj hbefore
        dsimp only
        rw [hparse]
        -- the host writes into the buffer of the backend, and nothing is left to fail
        refine iff_of_true ⟨rfl, rfl⟩ ?_
        rintro (hout | ⟨hne, -⟩)
        · exact Bool.false_ne_true (hrange.symm.trans hout)
        · exact hne htype
      · obtain rfl := Option.some.inj hbefore
        dsimp only
        rw [hparse, hsame, hst]
        dsimp only
        have hloop : FitsFrom (commandBytes ns r.cmd)
            (Transfer.mk os (fun _ => 0) 0).bufferOffset.toNat es := hfits
        obtain ⟨hok, hcalls⟩ := prpTransfer_kernel (copyFromHost_keepsKernel 0) hloop
        have hwrite := fun data => hready.write
          (prpTransfer (copyFromHost 0) (commandBytes ns r.cmd) es ⟨os, fun _ => 0, 0⟩).os
          (vnvmeBlocksToBytes r.cmd.slba ns.blockSize) (commandBytes ns r.cmd).toUInt32 data
        rw [hok, hcalls] at hwrite
        rw [← hwrite (prpTransfer (copyFromHost 0) (commandBytes ns r.cmd) es
          ⟨os, fun _ => 0, 0⟩).buffer]
        split_ifs with hdone
        · exact iff_of_true ⟨rfl, rfl⟩ hdone
        · exact iff_of_false mediaError_fails hdone

theorem handleCompare_succeeds_iff (hopc : r.cmd.opc = nvmeIoCompare) :
    (handleCompare m r.os r.cmd).Succeeds ↔ ¬ r.FailsBehindLoop ns os es := by
  obtain ⟨before, hbefore, hparse⟩ := hstart
  rcases handleCompare_cases hns hopc with ⟨hnone, -⟩ | ⟨before', hbefore', hcompare⟩
  · cases hnone.symm.trans hbefore
  obtain rfl := Option.some.inj (hbefore.symm.trans hbefore')
  rw [hcompare, compareBuffered, hparse, Request.FailsBehindLoop,
    if_neg (by rw [hopc]; decide), if_neg (by rw [hopc]; decide), Request.BackendRefuses,
    backend_eq hst, hst]
  dsimp only
  have hloop : FitsFrom (commandBytes ns r.cmd)
      (Transfer.mk os (fun _ => 0) 0).bufferOffset.toNat es := hfits
  have hmax := (commandBytes ns r.cmd).toNat_lt
  obtain ⟨hok, hcalls⟩ := prpTransfer_kernel (copyFromHost_keepsKernel 0) hloop
  have hdata (x : ℕ) (hx : x < (commandBytes ns r.cmd).toNat) :=
    copyFromHost_data es ⟨os, fun _ => 0, 0⟩ hloop (fun _ _ _ => rfl) (by omega : x < 2 ^ 64)
  generalize prpTransfer (copyFromHost 0) (commandBytes ns r.cmd) es ⟨os, fun _ => 0, 0⟩ = t
    at hok hcalls hdata ⊢
  obtain ⟨hanswer, hbytes⟩ := hready.read t.os (vnvmeBlocksToBytes r.cmd.slba ns.blockSize)
    (commandBytes ns r.cmd).toUInt32
  rw [hok, hcalls] at hanswer
  generalize vnvmeStorageRead (st, t.os) (vnvmeBlocksToBytes r.cmd.slba ns.blockSize)
    (commandBytes ns r.cmd).toUInt32 = stored at hanswer hbytes ⊢
  by_cases hdone : stored.1.ntSuccess = true
  · rw [if_pos hdone, or_iff_right (hanswer.mp hdone), not_exists]
    have hzero : (0 : UInt64).toNat = 0 := rfl
    have hsame : sameBytes t.buffer stored.2.1 (commandBytes ns r.cmd).toNat = true ↔
        ∀ x, x < (commandBytes ns r.cmd).toNat → mappedData os.hostMem os.maps es x =
          st.bytes ((vnvmeBlocksToBytes r.cmd.slba ns.blockSize).toNat + x) := by
      refine (sameBytes_iff _ _ _).trans (forall_congr' fun x => forall_congr' fun hx => ?_)
      rw [hbytes hdone x, hdata x hx, hzero, if_neg (Nat.not_lt_zero x), Nat.sub_zero]
    split_ifs with hequal
    · exact iff_of_true ⟨rfl, rfl⟩ fun x hx => hx.2 (hsame.mp hequal x hx.1)
    · refine iff_of_false mediaError_fails fun hno => hequal (hsame.mpr fun x hx => ?_)
      by_contra hdiffers
      exact hno x ⟨hx, hdiffers⟩
  · rw [if_neg hdone]
    exact iff_of_false mediaError_fails fun hno =>
      hdone (hanswer.mpr fun hrefuses => hno (Or.inl hrefuses))

/-- Behind its loop, a command succeeds unless it fails for a reason of its own. -/
theorem Request.StartsLoop.succeeds_iff (hopc : r.cmd.opc = nvmeIoRead ∨
      r.cmd.opc = nvmeIoWrite ∨ r.cmd.opc = nvmeIoCompare) :
    (r.result m).Succeeds ↔ ¬ r.FailsBehindLoop ns os es := by
  rcases hopc with hopc | hopc | hopc
  · rw [Request.result_read hopc, Request.FailsBehindLoop, if_pos hopc]
    obtain ⟨src, -, hsucceeds, -⟩ := handleRead_loop hns hstart hopc
    exact iff_of_true hsucceeds not_false
  · rw [Request.result_write hopc, Request.FailsBehindLoop, if_neg (by rw [hopc]; decide),
      if_pos hopc]
    exact handleWrite_succeeds_iff hns hstart hst hready hfits hopc
  · rw [Request.result_compare hopc]
    exact handleCompare_succeeds_iff hns hstart hst hready hfits hopc

end Command

/-- The rounds of a transfer that fits: there is one that is not mapped unless all mappings
succeed. -/
theorem FitsFrom.unmapped_iff {totalBytes : UInt64} {es : List PrpEntry}
    (h : FitsFrom totalBytes 0 es) (maps : ℕ → Bool) :
    (∃ a ∈ prpAttempts totalBytes maps 0 0 es, a.mapped = false) ↔
      ¬ ∀ j, j < es.length → maps j = true := by
  have hmem : (∃ a ∈ prpAttempts totalBytes maps 0 0 es, a.mapped = false) ↔
      false ∈ (prpAttempts totalBytes maps 0 0 es).map PrpAttempt.mapped := by
    rw [List.mem_map]
  have hzero : (0 : UInt64).toNat ≤ 0 := Nat.le_refl 0
  rw [hmem, h.mapped_attempts hzero, List.mem_map]
  push Not
  simp only [List.mem_range, Bool.not_eq_true]

/-- **Segments that cannot be mapped.** They do no harm exactly if there are none, or if they are
the last ones and the command fails for a reason of its own. -/
theorem mapsSafely_iff {m : Media} {r : Request} (h : ReachableTable m)
    (hopc : r.cmd.opc = nvmeIoRead ∨ r.cmd.opc = nvmeIoWrite ∨ r.cmd.opc = nvmeIoCompare) :
    MapsSafely m r ↔ ∀ ns os es, activeNamespace m r.cmd.nsid = some ns → r.StartsLoop ns os es →
      (∀ j, j < es.length → os.maps j = true) ∨
        (NoGap os.maps es.length ∧ r.FailsBehindLoop ns os es) := by
  refine forall_congr' fun ns => forall_congr' fun os => forall_congr' fun es =>
    forall_congr' fun hns => forall_congr' fun hstart => ?_
  have hfits := hstart.fits (h.fits.active hns)
  obtain ⟨st, hst, -, hready⟩ := h.ready hns
  dsimp only
  rw [hfits.unmapped_iff, hfits.inPlace_iff rfl,
    Request.StartsLoop.succeeds_iff hns hstart hst hready hfits hopc, not_not]
  by_cases hall : ∀ j, j < es.length → os.maps j = true
  · exact iff_of_true ⟨fun hno => absurd hall hno, NoGap.of_all hall⟩ (Or.inl hall)
  · rw [or_iff_right hall, imp_iff_right hall, and_comm]

/-- A Read of two blocks by a kernel that maps everything. -/
theorem mapsSafely_iff_twoBlocks : MapsSafely memoryTable (twoBlocks nvmeIoRead) := by
  refine (mapsSafely_iff memoryTable_reachable (Or.inl rfl)).mpr fun ns os es hns hstart =>
    Or.inl fun j _ => ?_
  obtain rfl : memoryTable.namespaces 0 = ns := Option.some.inj hns
  obtain ⟨before, hbefore, hparse⟩ := hstart
  obtain rfl : (twoBlocks nvmeIoRead).os = before := Option.some.inj hbefore
  obtain rfl := congrArg Prod.snd hparse
  rfl

/-- The same Read by a kernel that maps nothing: it succeeds without a byte of data. -/
theorem read_succeeds_unmapped :
    ¬ ∀ (m : Media) (r : Request), ReachableTable m →
      (r.cmd.opc = nvmeIoRead ∨ r.cmd.opc = nvmeIoWrite ∨ r.cmd.opc = nvmeIoCompare) →
      MapsSafely m r := by
  intro h
  have hsafe := h memoryTable
    { twoBlocks nvmeIoRead with os := { ok := fun call _ => call ≠ .mapIoSpace } }
    memoryTable_reachable (Or.inl rfl) (memoryTable.namespaces 0)
    { ok := fun call _ => call ≠ .mapIoSpace, calls := 1 } [⟨0x100000, 0, 1024⟩] rfl
    ⟨_, rfl, rfl⟩
  exact hsafe.1 ⟨_, List.mem_cons_self, rfl⟩ ⟨rfl, rfl⟩

end VirtualNvme
