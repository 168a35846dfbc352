import VirtualNvme.Verification.Acceptance
import VirtualNvme.Verification.PrpFaults
import VirtualNvme.Verification.ZeroRange

/-!
# Exactly the range of the command

The bytes of the media that a command zeroes, or moves from or to the host, listed in the order in
which its loop gets to them. A command that succeeds should have listed its range once, from the
first byte to the last. The NLB field 65535 counts as no block at all, the end of a range can wrap,
and the loop over the segments of a transfer posts no error when it comes out too short.
-/

namespace VirtualNvme

/-! ## The rounds of Write Zeroes -/

/-- The calls of the loop to its backend up to the first that fails, with offset and length. -/
def zeroRounds (chunkSize : UInt64) (write : Backing → UInt64 → UInt32 → NtStatus × Backing) :
    ℕ → Backing → UInt64 → UInt64 → List (UInt64 × UInt64)
  | 0, _, _, _ => []
  | fuel + 1, b, offset, remaining =>
    if remaining = 0 then []
    else
      let chunk := nextChunk chunkSize remaining
      let r := write b offset chunk.toUInt32
      if r.1.ntSuccess then
        (offset, chunk) :: zeroRounds chunkSize write fuel r.2 (offset + chunk) (remaining - chunk)
      else []

/-- The bytes of the rounds. -/
def roundBytes (rounds : List (UInt64 × UInt64)) : List ℕ :=
  rounds.flatMap fun c => List.range' c.1.toNat c.2.toNat

section Rounds

variable {chunkSize : UInt64} {write : Backing → UInt64 → UInt32 → NtStatus × Backing}

/-- A loop that succeeds is its rounds. -/
theorem zeroChunks_eq_rounds (fuel : ℕ) (b : Backing) (offset remaining : UInt64)
    (hok : (zeroChunks chunkSize write fuel b offset remaining).1.ntSuccess = true) :
    (zeroChunks chunkSize write fuel b offset remaining).2 =
      (zeroRounds chunkSize write fuel b offset remaining).foldl
        (fun b c => (write b c.1 c.2.toUInt32).2) b := by
  induction fuel generalizing b offset remaining with
  | zero => rfl
  | succ fuel ih =>
      rw [zeroChunks] at hok ⊢
      rw [zeroRounds]
      by_cases hzero : remaining = 0
      · rw [if_pos hzero, if_pos hzero]
        rfl
      · rw [if_neg hzero] at hok ⊢
        rw [if_neg hzero]
        dsimp only at hok ⊢
        by_cases hwrite : (write b offset (nextChunk chunkSize remaining).toUInt32).1.ntSuccess
        · rw [if_pos hwrite] at hok ⊢
          rw [if_pos hwrite, List.foldl_cons]
          exact ih _ _ _ hok
        · rw [if_neg hwrite] at hok
          exact absurd hok hwrite

variable (hpos : 0 < chunkSize.toNat) (hsize : chunkSize.toNat < 2 ^ 32)

include hpos hsize

/-- The rounds of a loop that succeeds start at its offset. -/
theorem zeroRounds_first {fuel : ℕ} {b : Backing} {offset remaining : UInt64}
    (hfuel : remaining.toNat < fuel) (hsome : remaining ≠ 0)
    (hok : (zeroChunks chunkSize write fuel b offset remaining).1.ntSuccess = true) :
    ∃ rest, roundBytes (zeroRounds chunkSize write fuel b offset remaining) =
      offset.toNat :: rest := by
  obtain ⟨fuel, rfl⟩ : ∃ n, fuel = n + 1 := ⟨fuel - 1, by omega⟩
  have hchunk := (nextChunk_chunkOf hpos hsize hsome).positive
  rw [zeroChunks, if_neg hsome] at hok
  rw [zeroRounds, if_neg hsome]
  dsimp only at hok ⊢
  by_cases hwrite : (write b offset (nextChunk chunkSize remaining).toUInt32).1.ntSuccess
  · obtain ⟨n, hn⟩ : ∃ n, (nextChunk chunkSize remaining).toNat = n + 1 :=
      ⟨(nextChunk chunkSize remaining).toNat - 1, by omega⟩
    rw [if_pos hwrite, roundBytes, List.flatMap_cons, hn, List.range'_succ]
    exact ⟨_, rfl⟩
  · rw [if_neg hwrite] at hok
    exact absurd hok hwrite

/-- Without a wrap, the rounds of a loop that succeeds are its range. -/
theorem zeroRounds_bytes (fuel : ℕ) (b : Backing) (offset remaining : UInt64)
    (hfuel : remaining.toNat < fuel) (hends : offset.toNat + remaining.toNat < 2 ^ 64)
    (hok : (zeroChunks chunkSize write fuel b offset remaining).1.ntSuccess = true) :
    roundBytes (zeroRounds chunkSize write fuel b offset remaining) =
      List.range' offset.toNat remaining.toNat := by
  induction fuel generalizing b offset remaining with
  | zero => exact absurd hfuel (Nat.not_lt_zero _)
  | succ fuel ih =>
      rw [zeroChunks] at hok
      rw [zeroRounds]
      by_cases hzero : remaining = 0
      · rw [if_pos hzero, hzero]
        rfl
      · have hchunk := nextChunk_chunkOf hpos hsize hzero
        rw [if_neg hzero] at hok ⊢
        dsimp only at hok ⊢
        generalize nextChunk chunkSize remaining = chunk at hchunk hok ⊢
        have hlength := hchunk.length
        have hrest := hchunk.rest
        have hsome := hchunk.positive
        by_cases hwrite : (write b offset chunk.toUInt32).1.ntSuccess
        · rw [if_pos hwrite] at hok ⊢
          have hoffset : (offset + chunk).toNat = offset.toNat + chunk.toNat := by
            rw [UInt64.toNat_add, Nat.mod_eq_of_lt (by omega)]
          have hbytes := ih _ _ _ (by omega) (by omega) hok
          rw [roundBytes] at hbytes
          rw [roundBytes, List.flatMap_cons, hbytes, hoffset, hrest, List.range'_append_1]
          refine congrArg (List.range' offset.toNat) ?_
          show chunk.toNat + (remaining.toNat - chunk.toNat) = _
          omega
        · rw [if_neg hwrite] at hok
          exact absurd hok hwrite

end Rounds

/-! ## The rounds of a transfer -/

/-- The bytes that a transfer copies, in media that start at `base`. -/
def copiedBytes (base : ℕ) (attempts : List PrpAttempt) : List ℕ :=
  (attempts.filter PrpAttempt.mapped).flatMap fun a =>
    List.range' (base + a.position.toNat) a.size.toNat

/-- The number of bytes in the segments that are mapped. -/
def mappedTotal : (ℕ → Bool) → List PrpEntry → ℕ
  | _, [] => 0
  | maps, e :: es =>
    (if maps 0 then e.length.toNat else 0) + mappedTotal (fun j => maps (j + 1)) es

theorem mappedTotal_le (maps : ℕ → Bool) (es : List PrpEntry) :
    mappedTotal maps es ≤ (es.map fun e => e.length.toNat).sum := by
  induction es generalizing maps with
  | nil => exact Nat.le_refl 0
  | cons e es ih =>
      have hrest := ih fun j => maps (j + 1)
      rw [mappedTotal, List.map_cons, List.sum_cons]
      split_ifs <;> omega

/-- Nothing is left out exactly if every segment is mapped. -/
theorem mappedTotal_eq_iff (maps : ℕ → Bool) {es : List PrpEntry}
    (hpos : ∀ e ∈ es, 0 < e.length.toNat) :
    mappedTotal maps es = (es.map fun e => e.length.toNat).sum ↔
      ∀ j, j < es.length → maps j = true := by
  induction es generalizing maps with
  | nil => exact iff_of_true rfl fun j hj => absurd hj (Nat.not_lt_zero j)
  | cons e es ih =>
      obtain ⟨hfirst, hrest⟩ := List.forall_mem_cons.mp hpos
      have hle := mappedTotal_le (fun j => maps (j + 1)) es
      rw [mappedTotal, List.map_cons, List.sum_cons, List.length_cons, Nat.forall_lt_succ_left]
      cases hmapped : maps 0 with
      | true =>
          rw [if_pos rfl, and_iff_right rfl, ← ih _ hrest]
          omega
      | false =>
          rw [if_neg Bool.false_ne_true]
          exact iff_of_false (by omega) fun hc => Bool.false_ne_true hc.1

/-- What is copied has no space in it: it starts where the loop does. -/
theorem FitsFrom.copiedBytes_eq {totalBytes bufferOffset : UInt64} {place : ℕ}
    {es : List PrpEntry} (h : FitsFrom totalBytes place es) (hle : bufferOffset.toNat ≤ place)
    (base : ℕ) (maps : ℕ → Bool) :
    copiedBytes base (prpAttempts totalBytes maps bufferOffset place es) =
      List.range' (base + bufferOffset.toNat) (mappedTotal maps es) := by
  induction es generalizing bufferOffset place maps with
  | nil => rfl
  | cons e es ih =>
      have hnext := h.next_toNat hle
      have hlength : e.length.toUInt64.toNat = e.length.toNat := UInt32.toNat_toUInt64 _
      rw [h.attempts hle, mappedTotal, copiedBytes]
      cases hmapped : maps 0 with
      | true =>
          have hrest := ih h.tail (hnext.trans_le (by omega)) fun j => maps (j + 1)
          rw [copiedBytes, hnext, ← Nat.add_assoc] at hrest
          rw [if_pos rfl, if_pos rfl, List.filter_cons_of_pos rfl, List.flatMap_cons, hrest,
            hlength, List.range'_append_1]
      | false =>
          have hskip : bufferOffset.toNat ≤ place + e.length.toNat := by omega
          have hrest := ih h.tail hskip fun j => maps (j + 1)
          rw [copiedBytes] at hrest
          rw [if_neg Bool.false_ne_true, if_neg Bool.false_ne_true,
            List.filter_cons_of_neg Bool.false_ne_true, hrest, Nat.zero_add]

/-! ## The commands -/

/-- In order, `bytes` are the bytes of the media that the command zeroes, or that it moves from or
to the host. -/
def Request.Moves (ns : Namespace) (r : Request) (bytes : List ℕ) : Prop :=
  let byteOffset := vnvmeBlocksToBytes r.cmd.slba ns.blockSize
  let totalBytes := commandBytes ns r.cmd
  if r.cmd.opc = nvmeIoWriteZeroes then
    bytes = roundBytes (zeroRounds writeZeroesChunkSize vnvmeStorageWriteZeroes
      (totalBytes.toNat + 1) (ns.backend, r.os) byteOffset totalBytes)
  else
    ∃ os es, r.StartsLoop ns os es ∧
      bytes = copiedBytes byteOffset.toNat (prpAttempts totalBytes os.maps 0 0 es)

/-- Every segment of the transfer is mapped, and the segments make up the whole of it. -/
structure Request.Whole (ns : Namespace) (r : Request) : Prop where
  mapped : ∀ os es, r.StartsLoop ns os es → ∀ j, j < es.length → os.maps j = true
  filled : 2 < dataPageCount r.cmd.prp1 (r.size ns) → r.size ns ≤ firstRoom r.cmd.prp1 +
    listRoom r.os.hostMem r.cmd.prp2 0 (dataPageCount r.cmd.prp1 (r.size ns) - 1)

theorem FailsCommand.fails {e : NvmeError} (he : FailsCommand e) (m : Media) (os : Os) :
    ¬ (IoResult.mk m os e.1 e.2).Succeeds := by
  rintro ⟨hsct, hsc⟩
  have hsct : e.1 = nvmeSctGeneric := hsct
  have hsc : e.2 = nvmeScSuccess := hsc
  rcases he with hmedia | rfl | rfl
  · exact absurd (hmedia.symm.trans hsct) (by decide)
  · exact absurd hsc (by decide)
  · exact absurd hsc (by decide)

theorem lbaOutOfRange_fails (m : Media) (os : Os) :
    ¬ (IoResult.mk m os nvmeSctGeneric nvmeScLbaOutOfRange).Succeeds := by
  rintro ⟨-, hsc⟩
  have hsc : nvmeScLbaOutOfRange = nvmeScSuccess := hsc
  exact absurd hsc (by decide)

section Range

variable {ns : Namespace} (h : ns.Fits) {r : Request}

include h

/-- A range that has passed the check of the handler starts at its byte offset unless its end
wraps. -/
theorem start_eq_iff (hfield : r.cmd.nlbField < 65535)
    (hvalid : vnvmeLbaRangeValid r.cmd.slba r.cmd.nlb.toUInt64 ns.totalBlocks = true) :
    (vnvmeBlocksToBytes r.cmd.slba ns.blockSize).toNat = r.start ns ↔ r.Inside ns := by
  refine ⟨fun heq => ⟨hfield, ?_⟩, fun hr => hr.start_toNat h⟩
  have hnlb := r.nlb_toNat
  rw [Nat.mod_eq_of_lt (by omega)] at hnlb
  rcases (lbaRangeValid_iff _ _ _).mp hvalid with hplain | hwraps
  · rw [UInt16.toNat_toUInt64, hnlb] at hplain
    omega
  · -- a range whose end wraps starts beyond the last byte offset there is
    have hlt := (vnvmeBlocksToBytes r.cmd.slba ns.blockSize).toNat_lt
    have hge := hwraps.1
    rw [UInt16.toNat_toUInt64, hnlb] at hge
    rw [heq, Request.start] at hlt
    rcases blockSize_toNat h with hbs | hbs
    · rw [hbs] at hlt
      omega
    · rw [hbs] at hlt
      omega

/-- The range of the command is not empty, so it tells its first byte and its length. -/
theorem range_eq_iff (base n : ℕ) :
    List.range' base n = List.range' (r.start ns) (r.size ns) ↔
      base = r.start ns ∧ n = r.size ns := by
  constructor
  · intro heq
    have hlength := congrArg List.length heq
    rw [List.length_range', List.length_range'] at hlength
    obtain ⟨k, hk⟩ : ∃ k, r.size ns = k + 1 := ⟨r.size ns - 1, by have := r.size_pos h; omega⟩
    rw [hlength, hk, List.range'_succ, List.range'_succ] at heq
    exact ⟨(List.cons.inj heq).1, hlength⟩
  · rintro ⟨rfl, rfl⟩
    rfl

/-- The largest NLB field makes the transfer empty. -/
theorem commandBytes_largest (hfield : ¬ r.cmd.nlbField < 65535) :
    (commandBytes ns r.cmd).toNat = 0 := by
  have hbytes := (commandBytes_toNat h r.cmd).1
  have hlt : r.cmd.nlbField < 65536 := Nat.mod_lt _ (by decide)
  rw [hbytes, r.nlb_toNat, show r.cmd.nlbField = 65535 by omega, Nat.mod_self, Nat.zero_mul]

end Range

section Command

variable {m : Media} {ns : Namespace} {r : Request}
  (hns : activeNamespace m r.cmd.nsid = some ns)

include hns

theorem handleRead_starts (hopc : r.cmd.opc = nvmeIoRead)
    (hok : (handleRead m r.os r.cmd).Succeeds) : ∃ os es, r.StartsLoop ns os es := by
  rw [handleRead, hns] at hok
  dsimp only at hok
  by_cases hvalid : vnvmeLbaRangeValid r.cmd.slba r.cmd.nlb.toUInt64 ns.totalBlocks = true
  swap
  · rw [if_pos (by simpa using hvalid)] at hok
    exact absurd hok (lbaOutOfRange_fails _ _)
  rw [hvalid, if_neg (by decide : ¬ (!true) = true), ← commandBytes] at hok
  cases hsrc : (readSource ns r.os (vnvmeBlocksToBytes r.cmd.slba ns.blockSize)
      (commandBytes ns r.cmd)).1 with
  | error e =>
      rw [hsrc] at hok
      exact absurd hok ((readSource_failed hsrc).fails _ _)
  | ok src =>
      rw [hsrc] at hok
      dsimp only at hok
      cases hprp : (vnvmeParsePrpList (readSource ns r.os
          (vnvmeBlocksToBytes r.cmd.slba ns.blockSize) (commandBytes ns r.cmd)).2.2 r.cmd.prp1
          r.cmd.prp2 (commandBytes ns r.cmd).toUInt32).1 with
      | error status =>
          rw [hprp] at hok
          exact absurd hok (internalError_fails _ _)
      | ok es =>
          refine ⟨_, es, _, ?_, Prod.ext hprp rfl⟩
          rw [Request.beforeParse, hvalid, if_neg (by decide), if_pos hopc]
          dsimp only
          rw [hsrc]

theorem handleWrite_starts {st : StorageContext} (hst : ns.storage = some st)
    (hready : st.Ready) (hopc : r.cmd.opc = nvmeIoWrite)
    (hok : (handleWrite m r.os r.cmd).Succeeds) : ∃ os es, r.StartsLoop ns os es := by
  have hread : r.cmd.opc ≠ nvmeIoRead := by
    rw [hopc]
    decide
  rw [handleWrite, hns] at hok
  dsimp only at hok
  by_cases hvalid : vnvmeLbaRangeValid r.cmd.slba r.cmd.nlb.toUInt64 ns.totalBlocks = true
  swap
  · rw [if_pos (by simpa using hvalid)] at hok
    exact absurd hok (lbaOutOfRange_fails _ _)
  rw [hvalid, if_neg (by decide : ¬ (!true) = true), ← commandBytes] at hok
  cases htarget : (writeTarget ns r.os (vnvmeBlocksToBytes r.cmd.slba ns.blockSize)
      (commandBytes ns r.cmd)).1 with
  | error e =>
      rw [htarget] at hok
      exact absurd hok ((writeTarget_failed htarget).fails _ _)
  | ok target =>
      rw [htarget] at hok
      dsimp only at hok
      cases hprp : (vnvmeParsePrpList (writeTarget ns r.os
          (vnvmeBlocksToBytes r.cmd.slba ns.blockSize) (commandBytes ns r.cmd)).2.2 r.cmd.prp1
          r.cmd.prp2 (commandBytes ns r.cmd).toUInt32).1 with
      | error status =>
          unfold writeData at hok
          rcases writeTarget_cases hst hready htarget with ⟨rfl, -⟩ | ⟨rfl, -⟩
          · dsimp only at hok
            rw [hprp] at hok
            exact absurd hok (internalError_fails _ _)
          · dsimp only at hok
            rw [hprp] at hok
            exact absurd hok (internalError_fails _ _)
      | ok es =>
          refine ⟨_, es, _, ?_, Prod.ext hprp rfl⟩
          rw [Request.beforeParse, hvalid, if_neg (by decide), if_neg hread, if_pos hopc]
          dsimp only
          rw [htarget]
          rcases writeTarget_cases hst hready htarget with ⟨rfl, -⟩ | ⟨rfl, -⟩
          · rfl
          · rfl

theorem handleCompare_starts (hopc : r.cmd.opc = nvmeIoCompare)
    (hok : (handleCompare m r.os r.cmd).Succeeds) : ∃ os es, r.StartsLoop ns os es := by
  rcases handleCompare_cases hns hopc with ⟨-, os, sc, hsc, hrefused⟩ | ⟨before, hbefore, hcompare⟩
  · rw [hrefused] at hok
    exact absurd hok.2 hsc
  · rw [hcompare, compareBuffered] at hok
    cases hprp : (vnvmeParsePrpList before r.cmd.prp1 r.cmd.prp2
        (commandBytes ns r.cmd).toUInt32).1 with
    | error status =>
        rw [hprp] at hok
        exact absurd hok (internalError_fails _ _)
    | ok es => exact ⟨_, es, before, hbefore, Prod.ext hprp rfl⟩

end Command

/-! ## Host memory before the loop -/

theorem storageRead_hostMem (b : Backing) (offset : UInt64) (length : UInt32) :
    (vnvmeStorageRead b offset length).2.2.2.hostMem = b.2.hostMem := by
  have hfile : (storageFileRead b offset length).2.2.2.hostMem = b.2.hostMem := by
    unfold storageFileRead
    split
    · rfl
    · dsimp only [Os.call]
      split_ifs
      · rfl
      · rfl
      · rfl
  unfold vnvmeStorageRead
  split
  · rfl
  · exact hfile
  · exact hfile
  · rfl

theorem readSource_hostMem (ns : Namespace) (os : Os) (byteOffset totalBytes : UInt64) :
    (readSource ns os byteOffset totalBytes).2.2.hostMem = os.hostMem := by
  unfold readSource
  split
  · have hread := storageRead_hostMem
    dsimp only [Os.call]
    split_ifs
    · rfl
    · rfl
    · rfl
    · exact hread _ _ _
    · exact hread _ _ _
  · dsimp only [Os.call]
    split_ifs
    · rfl
    · rfl

theorem writeTarget_hostMem (ns : Namespace) (os : Os) (byteOffset totalBytes : UInt64) :
    (writeTarget ns os byteOffset totalBytes).2.2.hostMem = os.hostMem := by
  unfold writeTarget
  split
  · dsimp only [Os.call]
    split_ifs
    · rfl
    · rfl
    · rfl
    · rfl
  · dsimp only [Os.call]
    split_ifs
    · rfl
    · rfl
    · rfl

/-- Nothing in front of the loop writes to host memory. -/
theorem Request.beforeParse_hostMem {ns : Namespace} {r : Request} {os : Os}
    (h : r.beforeParse ns = some os) : os.hostMem = r.os.hostMem := by
  unfold Request.beforeParse at h
  dsimp only at h
  split_ifs at h with hvalid hread hwrite hbig hfirst hsecond
  · split at h
    · rw [← Option.some.inj h]
      exact readSource_hostMem _ _ _ _
    · cases h
  · split at h
    · cases h
    · rw [← Option.some.inj h]
      exact writeTarget_hostMem _ _ _ _
    · cases h
  · rw [← Option.some.inj h]
    rfl

/-! ## Exactness -/

theorem Request.StartsLoop.unique {ns : Namespace} {r : Request} {os os' : Os}
    {es es' : List PrpEntry} (h : r.StartsLoop ns os es) (h' : r.StartsLoop ns os' es') :
    os' = os ∧ es' = es := by
  obtain ⟨before, hbefore, hparse⟩ := h
  obtain ⟨before', hbefore', hparse'⟩ := h'
  obtain rfl := Option.some.inj (hbefore.symm.trans hbefore')
  rw [hparse] at hparse'
  obtain ⟨hes, rfl⟩ := Prod.mk.inj hparse'
  exact ⟨rfl, (Except.ok.inj hes).symm⟩

/-- The segments of a transfer make up its range, unless the list has too little room. -/
theorem Request.StartsLoop.total_iff {ns : Namespace} {r : Request} {os : Os}
    {es : List PrpEntry} (hstart : r.StartsLoop ns os es) (h : ns.Fits) (hr : r.Inside ns) :
    (es.map fun e => e.length.toNat).sum = r.size ns ↔
      (2 < dataPageCount r.cmd.prp1 (r.size ns) → r.size ns ≤ firstRoom r.cmd.prp1 +
        listRoom r.os.hostMem r.cmd.prp2 0 (dataPageCount r.cmd.prp1 (r.size ns) - 1)) := by
  obtain ⟨before, hbefore, hparse⟩ := hstart
  have hsize := (hr.size_toNat h).2
  have hmax := commandBytes_le h r.cmd
  have hsome := r.size_pos h
  have hpos : 0 < (commandBytes ns r.cmd).toUInt32.toNat := by omega
  obtain ⟨-, heq⟩ := (vnvmeParsePrpList_ok_iff hpos (by omega) es).mp (congrArg Prod.fst hparse)
  have hiff := VirtualNvme.total_iff hpos r.os.hostMem r.cmd.prp1 r.cmd.prp2
  rw [heq, Request.beforeParse_hostMem hbefore]
  rwa [hsize] at hiff

/-- The commands that move data. -/
def NvmeCommand.MovesData (cmd : NvmeCommand) : Prop :=
  cmd.opc = nvmeIoRead ∨ cmd.opc = nvmeIoWrite ∨ cmd.opc = nvmeIoCompare

section Exact

variable {m : Media} {ns : Namespace} {r : Request} (h : ReachableTable m)
  (hns : activeNamespace m r.cmd.nsid = some ns) (hok : (r.result m).Succeeds)

include h hns hok

theorem starts_of_succeeds (hopc : r.cmd.MovesData) : ∃ os es, r.StartsLoop ns os es := by
  obtain ⟨st, hst, -, hready⟩ := h.ready hns
  rcases hopc with hopc | hopc | hopc
  · rw [Request.result_read hopc] at hok
    exact handleRead_starts hns hopc hok
  · rw [Request.result_write hopc] at hok
    exact handleWrite_starts hns hst hready hopc hok
  · rw [Request.result_compare hopc] at hok
    exact handleCompare_starts hns hopc hok

/-- The segments have the bytes of the range, unless the list has too little room. -/
theorem transfer_moves_iff (hopc : r.cmd.MovesData) (hnz : r.cmd.opc ≠ nvmeIoWriteZeroes) :
    r.Moves ns (List.range' (r.start ns) (r.size ns)) ↔ r.Inside ns ∧ r.Whole ns := by
  have hfit : ns.Fits := h.fits.active hns
  obtain ⟨os, es, hstart⟩ := starts_of_succeeds h hns hok hopc
  have hes := hstart.fits hfit
  have hzero : (0 : UInt64).toNat ≤ 0 := Nat.le_refl 0
  have hcopied := hes.copiedBytes_eq hzero (vnvmeBlocksToBytes r.cmd.slba ns.blockSize).toNat
    os.maps
  have hmoves : r.Moves ns (List.range' (r.start ns) (r.size ns)) ↔
      (vnvmeBlocksToBytes r.cmd.slba ns.blockSize).toNat = r.start ns ∧
        mappedTotal os.maps es = r.size ns := by
    rw [← range_eq_iff hfit, Request.Moves, if_neg hnz]
    constructor
    · rintro ⟨os', es', hstart', heq⟩
      obtain ⟨rfl, rfl⟩ := hstart.unique hstart'
      exact hcopied.symm.trans heq.symm
    · exact fun heq => ⟨os, es, hstart, heq.symm.trans hcopied.symm⟩
  have hle := mappedTotal_le os.maps es
  have htotal := hes.total
  have hsome := r.size_pos hfit
  rw [hmoves]
  by_cases hfield : r.cmd.nlbField < 65535
  · rw [start_eq_iff hfit hfield hstart.lbaRangeValid]
    refine and_congr_right fun hr => ?_
    have hsize := (hr.size_toNat hfit).1
    have hsum := hstart.total_iff hfit hr
    constructor
    · intro hall
      refine ⟨fun os' es' hstart' => ?_, hsum.mp (by omega)⟩
      obtain ⟨rfl, rfl⟩ := hstart.unique hstart'
      exact (mappedTotal_eq_iff _ hes.positive).mp (by omega)
    · intro hwhole
      exact ((mappedTotal_eq_iff _ hes.positive).mpr (hwhole.mapped os es hstart)).trans
        (hsum.mpr hwhole.filled)
  · -- no byte is asked for, and the range has some
    have hnone := commandBytes_largest hfit hfield
    exact iff_of_false (fun hc => by omega) fun hc => hfield hc.1.field

omit h in
theorem writeZeroes_valid (hopc : r.cmd.opc = nvmeIoWriteZeroes) :
    vnvmeLbaRangeValid r.cmd.slba r.cmd.nlb.toUInt64 ns.totalBlocks = true := by
  by_contra hinvalid
  rw [Request.result_writeZeroes hopc, handleWriteZeroes, hns] at hok
  dsimp only at hok
  rw [if_pos (by simpa using hinvalid)] at hok
  exact lbaOutOfRange_fails _ _ hok

/-- A Write Zeroes that succeeds leaves in the backend what its rounds do. -/
theorem writeZeroes_rounds (hopc : r.cmd.opc = nvmeIoWriteZeroes) :
    ((r.result m).media.namespaces (vnvmeNsidToIndex r.cmd.nsid)).backend =
      ((zeroRounds writeZeroesChunkSize vnvmeStorageWriteZeroes
        ((commandBytes ns r.cmd).toNat + 1) (ns.backend, r.os)
        (vnvmeBlocksToBytes r.cmd.slba ns.blockSize) (commandBytes ns r.cmd)).foldl
        (fun b c => (vnvmeStorageWriteZeroes b c.1 c.2.toUInt32).2) (ns.backend, r.os)).1 := by
  obtain ⟨st, -, rfl, hready⟩ := h.ready hns
  obtain ⟨hsucceeds, hnamespaces⟩ := writeZeroes_result hns hopc hready.type
    (writeZeroes_valid hns hok hopc)
  rw [hnamespaces, Function.update_self, ← zeroChunks_eq_rounds _ _ _ _ (hsucceeds.mp hok)]
  rfl

/-- The rounds are the range, unless that is empty or wraps. -/
theorem writeZeroes_moves_iff (hopc : r.cmd.opc = nvmeIoWriteZeroes) :
    r.Moves ns (List.range' (r.start ns) (r.size ns)) ↔ r.Inside ns := by
  have hfit : ns.Fits := h.fits.active hns
  obtain ⟨st, hst, hbackend, hready⟩ := h.ready hns
  have htype : ns.backend.type ≠ .none := hbackend ▸ hready.type
  have hvalid := writeZeroes_valid hns hok hopc
  have hdone := (writeZeroes_result hns hopc htype hvalid).1.mp hok
  have hsome := r.size_pos hfit
  obtain ⟨n, hn⟩ : ∃ n, r.size ns = n + 1 := ⟨r.size ns - 1, by omega⟩
  have hpos : 0 < writeZeroesChunkSize.toNat := by decide
  have hchunk : writeZeroesChunkSize.toNat < 2 ^ 32 := by decide
  rw [Request.Moves, if_pos hopc]
  by_cases hfield : r.cmd.nlbField < 65535
  · have hsize := (Request.size_toNat hfit hfield).1
    by_cases hr : r.Inside ns
    · have hend := hr.end_le hfit
      have hcapacity := hfit.capacity
      have hstart := hr.start_toNat hfit
      have hbytes := zeroRounds_bytes hpos hchunk _ _ _ _ (Nat.lt_succ_self _) (by omega) hdone
      rw [hstart, hsize] at hbytes
      exact iff_of_true (by rw [hsize]; exact hbytes.symm) hr
    · -- the first round starts at the byte offset, which is not where the range starts
      refine iff_of_false (fun heq => hr ?_) hr
      have hne : commandBytes ns r.cmd ≠ 0 := by
        rintro hzero
        rw [hzero] at hsize
        exact absurd hsize.symm (Nat.ne_of_gt hsome)
      obtain ⟨rest, hrest⟩ := zeroRounds_first hpos hchunk (Nat.lt_succ_self _) hne hdone
      rw [hrest, hn, List.range'_succ] at heq
      exact (start_eq_iff hfit hfield hvalid).mp (List.cons.inj heq).1.symm
  · refine iff_of_false (fun heq => ?_) fun hr => hfield hr.field
    have hzero : commandBytes ns r.cmd = 0 :=
      UInt64.toNat_inj.mp (commandBytes_largest hfit hfield)
    rw [hzero, hn, List.range'_succ] at heq
    cases heq

/-- **Exactly the range of the command.** A command that succeeds has zeroed its range, or moved it
from or to the host, exactly if the range has at most 65535 blocks and lies inside the namespace,
and a transfer is whole. -/
theorem moves_exactly_iff (hopc : r.cmd.MovesData ∨ r.cmd.opc = nvmeIoWriteZeroes) :
    r.Moves ns (List.range' (r.start ns) (r.size ns)) ↔
      r.Inside ns ∧ (r.cmd.opc ≠ nvmeIoWriteZeroes → r.Whole ns) := by
  by_cases hzeroes : r.cmd.opc = nvmeIoWriteZeroes
  · rw [writeZeroes_moves_iff h hns hok hzeroes]
    exact (and_iff_left fun hne => absurd hzeroes hne).symm
  · rw [imp_iff_right hzeroes]
    exact transfer_moves_iff h hns hok (hopc.resolve_right hzeroes) hzeroes

end Exact

/-- A Write of two blocks by a kernel that maps everything. -/
theorem moves_exactly_iff_twoBlocks :
    (twoBlocks nvmeIoWrite).Moves (memoryTable.namespaces 0) (List.range' 1024 1024) := by
  have hr := (twoBlocks_proper (Or.inr (Or.inl rfl))).range
  refine (moves_exactly_iff memoryTable_reachable rfl ⟨rfl, rfl⟩
    (Or.inl (Or.inr (Or.inl rfl)))).mpr ⟨hr, fun _ => ⟨fun os es hstart j _ => ?_, fun hlist => ?_⟩⟩
  · obtain ⟨before, hbefore, hparse⟩ := hstart
    obtain rfl : (twoBlocks nvmeIoWrite).os = before := Option.some.inj hbefore
    obtain rfl := congrArg Prod.snd hparse
    rfl
  · exact absurd hlist (by decide)

/-- The largest Read there is. -/
def largestRead : Request where
  os := {}
  cmd := { opc := nvmeIoRead, cid := 1, nsid := 1, prp1 := 0x100000, cdw12 := 65535 }

/-- It asks for 65536 blocks and succeeds with none. -/
theorem largest_read_moves_nothing :
    ¬ ∀ (m : Media) (ns : Namespace) (r : Request), ReachableTable m →
      activeNamespace m r.cmd.nsid = some ns →
      (r.cmd.MovesData ∨ r.cmd.opc = nvmeIoWriteZeroes) → (r.result m).Succeeds →
      r.Moves ns (List.range' (r.start ns) (r.size ns)) := by
  intro h
  have hns : activeNamespace memoryTable 1 = some (memoryTable.namespaces 0) := rfl
  have hok : (largestRead.result memoryTable).Succeeds := by decide
  have hmoves := h memoryTable _ largestRead memoryTable_reachable hns (Or.inl (Or.inl rfl)) hok
  have hmoved := transfer_moves_iff memoryTable_reachable hns hok (Or.inl rfl) (by decide)
  exact absurd (hmoved.mp hmoves).1.field (by decide)

end VirtualNvme
