import VirtualNvme.Driver.IoCmd
import VirtualNvme.Driver.Namespace
import VirtualNvme.Verification.StorageBounds

/-!
# Which commands leave the media

Two checks stand between a command and the buffer of its namespace: the block range
against `TotalBlocks`, and the byte range against `TotalBytes`. Both add in 64-bit
arithmetic. A range whose end does not wrap is checked correctly by the first; a range
whose end wraps to a small block number passes the first and, since both sides are scaled
by the same block size, mostly the second as well.
-/

namespace VirtualNvme

/-- The storage of a namespace; without one, an empty backend that refuses everything. -/
def Namespace.backend (ns : Namespace) : StorageContext := ns.storage.getD {}

/-- The geometry of an active namespace. -/
structure Namespace.Fits (ns : Namespace) : Prop where
  blockSize : ns.blockSize = 512 ∨ ns.blockSize = 4096
  totalBytes : ns.backend.totalBytes.toNat = ns.totalBlocks.toNat * ns.blockSize.toNat
  capacity : ns.backend.totalBytes.toNat ≤ 2 ^ 44
  sound : Sound ns.backend

/-- The end of the block range wraps around to a block of the namespace. -/
def lbaWraps (slba nlb total : UInt64) : Prop :=
  2 ^ 64 ≤ slba.toNat + nlb.toNat ∧ slba.toNat + nlb.toNat ≤ 2 ^ 64 + total.toNat

instance (slba nlb total : UInt64) : Decidable (lbaWraps slba nlb total) :=
  inferInstanceAs (Decidable (_ ∧ _))

/-- A memory namespace, and a block range whose end wraps around into it. -/
def wraps (ns : Namespace) (slba nlb : UInt64) : Prop :=
  ns.backend.type = .memory ∧ lbaWraps slba nlb ns.totalBlocks

instance (ns : Namespace) (slba nlb : UInt64) : Decidable (wraps ns slba nlb) :=
  inferInstanceAs (Decidable (_ ∧ _))

/-- What both checks let through of `length` bytes from the block `slba` on. -/
def gated (ns : Namespace) (slba nlb : UInt64) (length : UInt32) : List (UInt64 × UInt32) :=
  if vnvmeLbaRangeValid slba nlb ns.totalBlocks then
    reached ns.backend (vnvmeBlocksToBytes slba ns.blockSize) length
  else []

/-- The block check, over the natural numbers. -/
theorem lbaRangeValid_iff (slba nlb total : UInt64) :
    vnvmeLbaRangeValid slba nlb total = true ↔
      slba.toNat + nlb.toNat ≤ total.toNat ∨ lbaWraps slba nlb total := by
  have h₁ := slba.toNat_lt
  have h₂ := nlb.toNat_lt
  have h₃ := total.toNat_lt
  unfold lbaWraps vnvmeLbaRangeValid
  rw [decide_eq_true_iff, UInt64.le_iff_toNat_le, UInt64.toNat_add]
  omega

theorem lbaRangeValid_of_wraps {ns : Namespace} {slba nlb : UInt64} (h : wraps ns slba nlb) :
    vnvmeLbaRangeValid slba nlb ns.totalBlocks = true :=
  (lbaRangeValid_iff slba nlb ns.totalBlocks).mpr (Or.inr h.2)

theorem outOfRange_iff (st : StorageContext) (offset : UInt64) (length : UInt32) :
    st.outOfRange offset length = true ↔
      st.totalBytes.toNat < (offset.toNat + length.toNat) % 2 ^ 64 := by
  unfold StorageContext.outOfRange
  rw [decide_eq_true_iff, gt_iff_lt, UInt64.lt_iff_toNat_lt, UInt64.toNat_add,
    UInt32.toNat_toUInt64]

theorem blocksToBytes_toNat (blocks : UInt64) (blockSize : UInt32) :
    (vnvmeBlocksToBytes blocks blockSize).toNat =
      blocks.toNat * blockSize.toNat % 2 ^ 64 := by
  unfold vnvmeBlocksToBytes
  rw [UInt64.toNat_mul, UInt32.toNat_toUInt64]

section Geometry

variable {ns : Namespace} (h : ns.Fits) {slba nlb : UInt64}

include h

theorem blockSize_toNat : ns.blockSize.toNat = 512 ∨ ns.blockSize.toNat = 4096 :=
  h.blockSize.imp (congrArg UInt32.toNat) (congrArg UInt32.toNat)

/-- The byte offset of a block of the namespace does not wrap. -/
theorem byteOffset_of_plain (hslba : slba.toNat ≤ ns.totalBlocks.toNat) :
    (vnvmeBlocksToBytes slba ns.blockSize).toNat = slba.toNat * ns.blockSize.toNat := by
  have hcap := h.capacity
  have hscaled := Nat.mul_le_mul_right ns.blockSize.toNat hslba
  rw [← h.totalBytes] at hscaled
  rw [blocksToBytes_toNat, Nat.mod_eq_of_lt (by omega)]

/-- A block range without a wrap stays in the namespace, whatever part of it is touched. -/
theorem inBounds_of_plain {length : UInt32}
    (hlba : slba.toNat + nlb.toNat ≤ ns.totalBlocks.toNat)
    (hlen : length.toNat ≤ nlb.toNat * ns.blockSize.toNat) :
    InBounds ns.backend.totalBytes (vnvmeBlocksToBytes slba ns.blockSize, length) := by
  have hscaled := Nat.mul_le_mul_right ns.blockSize.toNat hlba
  rw [← h.totalBytes, Nat.add_mul] at hscaled
  show (vnvmeBlocksToBytes slba ns.blockSize).toNat + length.toNat ≤ _
  rw [byteOffset_of_plain h (Nat.le_of_add_right_le hlba)]
  exact (Nat.add_le_add_left hlen _).trans hscaled

/-- A wrapped range starts just below `2 ^ 64`. -/
theorem byteOffset_of_wraps (hnlb : nlb.toNat < 2 ^ 32)
    (hwrap : lbaWraps slba nlb ns.totalBlocks) :
    (vnvmeBlocksToBytes slba ns.blockSize).toNat +
        (2 ^ 64 - slba.toNat) * ns.blockSize.toNat = 2 ^ 64 ∧
      (2 ^ 64 - slba.toNat) * ns.blockSize.toNat ≤ 2 ^ 44 := by
  have hlt := slba.toNat_lt
  have hge := hwrap.1
  rw [blocksToBytes_toNat]
  rcases blockSize_toNat h with hbs | hbs
  · rw [hbs]
    omega
  · rw [hbs]
    omega

/-- Behind the wrap it stays in the namespace. -/
theorem scaled_le_of_wraps (hwrap : lbaWraps slba nlb ns.totalBlocks) :
    nlb.toNat * ns.blockSize.toNat ≤
      (2 ^ 64 - slba.toNat) * ns.blockSize.toNat + ns.backend.totalBytes.toNat := by
  have hend := hwrap.2
  rw [h.totalBytes, ← Nat.add_mul]
  exact Nat.mul_le_mul_right _ (by omega)

theorem not_inBounds_of_wraps (hnlb : nlb.toNat < 2 ^ 32)
    (hwrap : lbaWraps slba nlb ns.totalBlocks) (length : UInt32) :
    ¬ InBounds ns.backend.totalBytes (vnvmeBlocksToBytes slba ns.blockSize, length) := by
  obtain ⟨hoff, hback⟩ := byteOffset_of_wraps h hnlb hwrap
  have hcap := h.capacity
  show ¬ (vnvmeBlocksToBytes slba ns.blockSize).toNat + length.toNat ≤ _
  omega

/-- The byte check lets a wrapped range through exactly when it is long enough to wrap. -/
theorem outOfRange_of_wraps (hnlb : nlb.toNat < 2 ^ 32)
    (hwrap : lbaWraps slba nlb ns.totalBlocks) {length : UInt32}
    (hlen : length.toNat ≤ nlb.toNat * ns.blockSize.toNat) :
    ns.backend.outOfRange (vnvmeBlocksToBytes slba ns.blockSize) length = true ↔
      length.toNat < (2 ^ 64 - slba.toNat) * ns.blockSize.toNat := by
  obtain ⟨hoff, hback⟩ := byteOffset_of_wraps h hnlb hwrap
  have hcap := h.capacity
  have hmax := length.toNat_lt
  have hend := scaled_le_of_wraps h hwrap
  rw [outOfRange_iff]
  omega

/-- **The two checks together.** What they let through stays in the namespace unless the
block range wraps and the bytes reach the wrap. -/
theorem gated_inBounds_iff (slba : UInt64) (hnlb : nlb.toNat < 2 ^ 32) {length : UInt32}
    (hlen : length.toNat ≤ nlb.toNat * ns.blockSize.toNat) :
    (∀ r ∈ gated ns slba nlb length, InBounds ns.backend.totalBytes r) ↔
      ¬ (wraps ns slba nlb ∧
        (2 ^ 64 - slba.toNat) * ns.blockSize.toNat ≤ length.toNat) := by
  unfold gated
  by_cases hlba : vnvmeLbaRangeValid slba nlb ns.totalBlocks = true
  · rw [if_pos hlba]
    by_cases htype : ns.backend.type = .memory
    · rw [reached_of_memory htype, passed]
      rcases (lbaRangeValid_iff slba nlb ns.totalBlocks).mp hlba with hplain | hwrap
      · have hin := inBounds_of_plain h hplain hlen
        have hnot : ¬ lbaWraps slba nlb ns.totalBlocks := by
          intro hw
          have := hw.1
          have := ns.totalBlocks.toNat_lt
          omega
        split_ifs <;> simp [hin, wraps, hnot]
      · have hout := outOfRange_of_wraps h hnlb hwrap hlen
        have hesc := not_inBounds_of_wraps h hnlb hwrap length
        split_ifs with hr
        · simpa [wraps, htype, hwrap] using hout.mp hr
        · simpa [wraps, htype, hwrap, hesc] using fun hlt => hr (hout.mpr hlt)
    · rw [reached_of_not_memory htype]
      simp [wraps, htype]
  · rw [if_neg hlba]
    have hnot : ¬ wraps ns slba nlb := fun hw => hlba (lbaRangeValid_of_wraps hw)
    simp [hnot]

end Geometry

/-! ## The bytes of a command -/

/-- The bytes of a command, `nlb * BlockSize`. -/
def commandBytes (ns : Namespace) (cmd : NvmeCommand) : UInt64 :=
  vnvmeBlocksToBytes cmd.nlb.toUInt64 ns.blockSize

/-- A command of at most 65535 blocks has its byte count in 32 bits. -/
theorem commandBytes_toNat {ns : Namespace} (h : ns.Fits) (cmd : NvmeCommand) :
    (commandBytes ns cmd).toNat = cmd.nlb.toNat * ns.blockSize.toNat ∧
      (commandBytes ns cmd).toUInt32.toNat = cmd.nlb.toNat * ns.blockSize.toNat := by
  have hlt := cmd.nlb.toNat_lt
  unfold commandBytes
  rw [UInt64.toNat_toUInt32, blocksToBytes_toNat, UInt16.toNat_toUInt64]
  rcases blockSize_toNat h with hbs | hbs
  · rw [hbs]
    omega
  · rw [hbs]
    omega

theorem nlb_toUInt64_lt (cmd : NvmeCommand) : cmd.nlb.toUInt64.toNat < 2 ^ 32 := by
  have hlt := cmd.nlb.toNat_lt
  rw [UInt16.toNat_toUInt64]
  omega

/-- The whole range of a command always reaches its wrap. -/
theorem gated_command_inBounds_iff {ns : Namespace} (h : ns.Fits) (cmd : NvmeCommand) :
    (∀ r ∈ gated ns cmd.slba cmd.nlb.toUInt64 (commandBytes ns cmd).toUInt32,
        InBounds ns.backend.totalBytes r) ↔
      ¬ wraps ns cmd.slba cmd.nlb.toUInt64 := by
  have hlen := (commandBytes_toNat h cmd).2
  rw [gated_inBounds_iff h cmd.slba (nlb_toUInt64_lt cmd)
    (by rw [hlen, UInt16.toNat_toUInt64]), hlen]
  refine not_congr ⟨And.left, fun hw => ⟨hw, Nat.mul_le_mul_right _ ?_⟩⟩
  have hge := hw.2.1
  rw [UInt16.toNat_toUInt64] at hge
  omega

/-! ## Write Zeroes -/

/-- The length of a chunk is exact in 32 bits. -/
theorem nextChunk_min {chunkSize : UInt64} (hsize : chunkSize.toNat < 2 ^ 32)
    (remaining : UInt64) :
    (nextChunk chunkSize remaining).toNat = min chunkSize.toNat remaining.toNat ∧
      (nextChunk chunkSize remaining).toUInt32.toNat = min chunkSize.toNat remaining.toNat := by
  have hmin : (nextChunk chunkSize remaining).toNat = min chunkSize.toNat remaining.toNat := by
    unfold nextChunk
    split_ifs with hgt
    · exact (min_eq_left (Nat.le_of_lt (UInt64.lt_iff_toNat_lt.mp hgt))).symm
    · exact (min_eq_right (UInt64.le_iff_toNat_le.mp (UInt64.not_lt.mp hgt))).symm
  refine ⟨hmin, ?_⟩
  rw [UInt64.toNat_toUInt32, hmin]
  exact Nat.mod_eq_of_lt (Nat.lt_of_le_of_lt (min_le_left _ _) hsize)

/-- One chunk of what remains: it has bytes, its length is exact in 32 bits, the rest is left. -/
structure ChunkOf (chunkSize remaining chunk : UInt64) : Prop where
  length : chunk.toNat = min chunkSize.toNat remaining.toNat
  length32 : chunk.toUInt32.toNat = chunk.toNat
  positive : 0 < chunk.toNat
  rest : (remaining - chunk).toNat = remaining.toNat - chunk.toNat

theorem nextChunk_chunkOf {chunkSize : UInt64} (hpos : 0 < chunkSize.toNat)
    (hsize : chunkSize.toNat < 2 ^ 32) {remaining : UInt64} (hsome : remaining ≠ 0) :
    ChunkOf chunkSize remaining (nextChunk chunkSize remaining) := by
  obtain ⟨hchunk, hchunk32⟩ := nextChunk_min hsize remaining
  have hleft : 0 < remaining.toNat := UInt64.pos_iff_ne_zero.mpr hsome
  refine ⟨hchunk, hchunk32.trans hchunk.symm, by omega, ?_⟩
  exact UInt64.toNat_sub_of_le _ _ (UInt64.le_iff_toNat_le.mpr (by omega))

/-- The rule for the loop over chunks: what holds of an empty rest, and of a round whenever it holds
of what comes behind it, holds of the loop. -/
theorem zeroChunks_rule {chunkSize : UInt64} (hpos : 0 < chunkSize.toNat)
    (hsize : chunkSize.toNat < 2 ^ 32) {write : Backing → UInt64 → UInt32 → NtStatus × Backing}
    {P : Backing → UInt64 → UInt64 → NtStatus × Backing → Prop}
    (hdone : ∀ b offset, P b offset 0 (.success, b))
    (hnext : ∀ b offset remaining chunk r, ChunkOf chunkSize remaining chunk →
      (write b offset chunk.toUInt32).1.ntSuccess = true →
      P (write b offset chunk.toUInt32).2 (offset + chunk) (remaining - chunk) r →
      P b offset remaining r)
    (hstop : ∀ b offset remaining chunk, ChunkOf chunkSize remaining chunk →
      ¬ (write b offset chunk.toUInt32).1.ntSuccess = true →
      P b offset remaining (write b offset chunk.toUInt32))
    (fuel : Nat) (b : Backing) (offset remaining : UInt64) (hfuel : remaining.toNat < fuel) :
    P b offset remaining (zeroChunks chunkSize write fuel b offset remaining) := by
  induction fuel generalizing b offset remaining with
  | zero => exact absurd hfuel (Nat.not_lt_zero _)
  | succ fuel ih =>
      rw [zeroChunks]
      by_cases hzero : remaining = 0
      · subst hzero
        exact hdone b offset
      · rw [if_neg hzero]
        have hchunk := nextChunk_chunkOf hpos hsize hzero
        have hlength := hchunk.length
        have hrest := hchunk.rest
        have hsome := hchunk.positive
        dsimp only
        split_ifs with hok
        · exact hnext _ _ _ _ _ hchunk hok (ih _ _ _ (by omega))
        · exact hstop _ _ _ _ hchunk hok

theorem nextChunk_toNat (remaining : UInt64) :
    (nextChunk writeZeroesChunkSize remaining).toNat = min (2 ^ 20) remaining.toNat ∧
      (nextChunk writeZeroesChunkSize remaining).toUInt32.toNat =
        min (2 ^ 20) remaining.toNat :=
  nextChunk_min (by decide : writeZeroesChunkSize.toNat < 2 ^ 32) remaining

/-- The write-zeroes loop of a command. -/
def zeroBlocks (b : Backing) (byteOffset totalBytes : UInt64) : NtStatus × Backing :=
  zeroChunks writeZeroesChunkSize vnvmeStorageWriteZeroes (totalBytes.toNat + 1) b byteOffset
    totalBytes

/-- The loop over a range inside the media: offset and rest stay inside, chunk by chunk. -/
theorem zeroBlocks_inBounds {b : Backing} (hs : Sound b.1) {byteOffset totalBytes : UInt64}
    (hle : byteOffset.toNat + totalBytes.toNat ≤ b.1.totalBytes.toNat) :
    TouchesOnly b.1 (zeroBlocks b byteOffset totalBytes).2.1 (InBounds b.1.totalBytes) := by
  refine zeroChunks_touchesOnly _ _
    (P := fun st offset remaining => Sound st ∧ st.totalBytes = b.1.totalBytes ∧
      offset.toNat + remaining.toNat ≤ b.1.totalBytes.toNat) ?_ _ b _ _ ⟨hs, rfl, hle⟩
  rintro c offset remaining ⟨hsc, htot, hin⟩ hne
  obtain ⟨hchunk, hchunk32⟩ := nextChunk_toNat remaining
  have ht := storageWriteZeroes_reached hsc offset
    (nextChunk writeZeroesChunkSize remaining).toUInt32 c.2
  refine ⟨ht.touchesOnly fun r hr => ?_, hsc.touches ht, ht.totalBytes.trans htot, ?_⟩
  · rw [mem_reached hr]
    show offset.toNat + (nextChunk writeZeroesChunkSize remaining).toUInt32.toNat ≤ _
    omega
  · rw [UInt64.toNat_add, UInt64.toNat_sub_of_le _ _ (by
      rw [UInt64.le_iff_toNat_le]
      omega)]
    omega

/-- The first chunk decides: it is refused and ends the loop, or it is let through. -/
theorem zeroBlocks_first {b : Backing} (hs : Sound b.1) (htype : b.1.type = .memory)
    (byteOffset : UInt64) {totalBytes : UInt64} (hne : totalBytes ≠ 0) :
    ∃ rest, Touches b.1 (zeroBlocks b byteOffset totalBytes).2.1
        (reached b.1 byteOffset (nextChunk writeZeroesChunkSize totalBytes).toUInt32 ++ rest) ∧
      (reached b.1 byteOffset (nextChunk writeZeroesChunkSize totalBytes).toUInt32 = [] →
        rest = []) := by
  obtain ⟨hok, hone⟩ := storageWriteZeroes_memory (hs htype) byteOffset
    (nextChunk writeZeroesChunkSize totalBytes).toUInt32 b.2
  rw [reached_of_memory htype, passed] at *
  unfold zeroBlocks
  rw [zeroChunks, if_neg hne]
  dsimp only
  split
  · rename_i hpass
    rw [hpass] at hok
    have hin : b.1.outOfRange byteOffset
        (nextChunk writeZeroesChunkSize totalBytes).toUInt32 = false := by simpa using hok
    rw [if_neg (by simp [hin])] at hone ⊢
    obtain ⟨rest, hrest, -⟩ := zeroChunks_touchesOnly
      writeZeroesChunkSize vnvmeStorageWriteZeroes
      (P := fun st _ _ => Sound st) (Q := fun _ => True)
      (fun c offset remaining hsc _ =>
        ⟨(storageWriteZeroes_reached hsc offset _ c.2).touchesOnly (by simp),
          hsc.touches (storageWriteZeroes_reached hsc offset _ c.2)⟩)
      totalBytes.toNat _ (byteOffset + nextChunk writeZeroesChunkSize totalBytes)
      (totalBytes - nextChunk writeZeroesChunkSize totalBytes) (hs.touches hone)
    exact ⟨rest, hone.trans hrest, fun hnil => by cases hnil⟩
  · rename_i hfail
    rw [eq_false_of_ne_true hfail] at hok
    have hout : b.1.outOfRange byteOffset
        (nextChunk writeZeroesChunkSize totalBytes).toUInt32 = true := by simpa using hok
    rw [if_pos hout] at hone ⊢
    exact ⟨[], hone, fun _ => rfl⟩

theorem zeroBlocks_not_memory {b : Backing} (htype : b.1.type ≠ .memory)
    (byteOffset totalBytes : UInt64) :
    Touches b.1 (zeroBlocks b byteOffset totalBytes).2.1 [] := by
  refine (zeroChunks_touchesOnly _ _ (P := fun st _ _ => st.type ≠ .memory) ?_ _ b _ _
    htype).touches
  intro c offset remaining hc _
  have ht := storageWriteZeroes_other hc offset
    (nextChunk writeZeroesChunkSize remaining).toUInt32 c.2
  refine ⟨ht.touchesOnly (by simp), ?_⟩
  rw [ht.type]
  exact hc

/-- A wrapped range ends with the first chunk, or that chunk leaves the media. -/
theorem zeroBlocks_of_wraps {ns : Namespace} (h : ns.Fits) (os : Os) {cmd : NvmeCommand}
    (hw : wraps ns cmd.slba cmd.nlb.toUInt64) :
    ∃ new, Touches ns.backend (zeroBlocks (ns.backend, os)
          (vnvmeBlocksToBytes cmd.slba ns.blockSize) (commandBytes ns cmd)).2.1 new ∧
      ((∀ r ∈ new, InBounds ns.backend.totalBytes r) ↔
        ¬ (2 ^ 64 - cmd.slba.toNat) * ns.blockSize.toNat ≤ 2 ^ 20) := by
  have hge := hw.2.1
  rw [UInt16.toNat_toUInt64] at hge
  have hback : (2 ^ 64 - cmd.slba.toNat) * ns.blockSize.toNat ≤ (commandBytes ns cmd).toNat := by
    rw [(commandBytes_toNat h cmd).1]
    exact Nat.mul_le_mul_right _ (by omega)
  have hne : commandBytes ns cmd ≠ 0 := by
    intro hzero
    rw [hzero, UInt64.toNat_zero] at hback
    have hlt := cmd.slba.toNat_lt
    have hpos : 0 < ns.blockSize.toNat := by
      rcases blockSize_toNat h with hbs | hbs <;> omega
    have := Nat.mul_pos (show 0 < 2 ^ 64 - cmd.slba.toNat by omega) hpos
    omega
  obtain ⟨rest, ht, hrest⟩ := zeroBlocks_first (b := (ns.backend, os)) h.sound hw.1
    (vnvmeBlocksToBytes cmd.slba ns.blockSize) hne
  refine ⟨_, ht, ?_⟩
  obtain ⟨-, hchunk⟩ := nextChunk_toNat (commandBytes ns cmd)
  have hlen : (nextChunk writeZeroesChunkSize (commandBytes ns cmd)).toUInt32.toNat ≤
      cmd.nlb.toUInt64.toNat * ns.blockSize.toNat := by
    rw [hchunk, UInt16.toNat_toUInt64, ← (commandBytes_toNat h cmd).1]
    omega
  have hgate := gated_inBounds_iff h cmd.slba (nlb_toUInt64_lt cmd) hlen
  rw [gated, if_pos (lbaRangeValid_of_wraps hw), hchunk] at hgate
  constructor
  · intro hall hle
    refine hgate.mp (fun r hr => hall r (List.mem_append_left _ hr)) ⟨hw, ?_⟩
    omega
  · intro hlong
    -- nothing is let through by the first chunk, so the loop has ended there
    have hin := hgate.mpr fun hc => hlong (by omega)
    have hnil : reached ns.backend (vnvmeBlocksToBytes cmd.slba ns.blockSize)
        (nextChunk writeZeroesChunkSize (commandBytes ns cmd)).toUInt32 = [] := by
      refine List.eq_nil_iff_forall_not_mem.mpr fun r hr => ?_
      have hr' := hin r hr
      rw [mem_reached hr] at hr'
      exact not_inBounds_of_wraps h (nlb_toUInt64_lt cmd) hw.2 _ hr'
    rw [hnil, hrest hnil]
    simp

theorem zeroBlocks_inBounds_iff {ns : Namespace} (h : ns.Fits) (os : Os) {cmd : NvmeCommand}
    (hlba : vnvmeLbaRangeValid cmd.slba cmd.nlb.toUInt64 ns.totalBlocks = true) :
    ∃ new, Touches ns.backend (zeroBlocks (ns.backend, os)
          (vnvmeBlocksToBytes cmd.slba ns.blockSize) (commandBytes ns cmd)).2.1 new ∧
      ((∀ r ∈ new, InBounds ns.backend.totalBytes r) ↔
        ¬ (wraps ns cmd.slba cmd.nlb.toUInt64 ∧
          (2 ^ 64 - cmd.slba.toNat) * ns.blockSize.toNat ≤ 2 ^ 20)) := by
  by_cases hw : wraps ns cmd.slba cmd.nlb.toUInt64
  · obtain ⟨new, ht, hiff⟩ := zeroBlocks_of_wraps h os hw
    refine ⟨new, ht, hiff.trans (not_congr ?_)⟩
    exact (and_iff_right hw).symm
  · by_cases htype : ns.backend.type = .memory
    · have hplain : cmd.slba.toNat + cmd.nlb.toUInt64.toNat ≤ ns.totalBlocks.toNat :=
        ((lbaRangeValid_iff _ _ _).mp hlba).resolve_right fun hl => hw ⟨htype, hl⟩
      have hlen : (commandBytes ns cmd).toUInt32.toNat ≤
          cmd.nlb.toUInt64.toNat * ns.blockSize.toNat := by
        rw [(commandBytes_toNat h cmd).2, UInt16.toNat_toUInt64]
      have hin : (vnvmeBlocksToBytes cmd.slba ns.blockSize).toNat +
          (commandBytes ns cmd).toUInt32.toNat ≤ ns.backend.totalBytes.toNat :=
        inBounds_of_plain h hplain hlen
      rw [(commandBytes_toNat h cmd).2, ← (commandBytes_toNat h cmd).1] at hin
      obtain ⟨new, ht, hall⟩ := zeroBlocks_inBounds (b := (ns.backend, os)) h.sound hin
      exact ⟨new, ht, iff_of_true hall fun hc => hw hc.1⟩
    · exact ⟨[], zeroBlocks_not_memory (b := (ns.backend, os)) htype _ _, by simp [hw]⟩

end VirtualNvme
