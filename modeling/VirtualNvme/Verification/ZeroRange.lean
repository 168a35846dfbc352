import VirtualNvme.Verification.BackedNamespaces

/-!
# Write Zeroes inside a namespace

Two loops, one in the other: the handler asks the backend for chunks of 1 MB, and a backend
without a call of its own for zeroes writes 64 KB at a time. Both loops zero the range from its
first byte on and stop at the first chunk that fails. Inside a namespace, and with plain writes
that succeed, only the allocation of a zero buffer can fail.
-/

namespace VirtualNvme

open RingBuffer (loop loop_inl loop_inr)

/-! ## The loops -/

/-- One round of a loop that writes zeroes. -/
def zeroChunkStep (chunkSize : UInt64)
    (write : Backing → UInt64 → UInt32 → NtStatus × Backing) (s : Backing × UInt64 × UInt64) :
    Option ((Backing × UInt64 × UInt64) ⊕ (NtStatus × Backing)) :=
  if s.2.2 = 0 then some (.inr (.success, s.1))
  else
    let chunk := nextChunk chunkSize s.2.2
    let r := write s.1 s.2.1 chunk.toUInt32
    if r.1.ntSuccess then some (.inl (r.2, s.2.1 + chunk, s.2.2 - chunk)) else some (.inr r)

/-- The loop has come to its end before the fuel has: every round takes at least one byte off. -/
theorem zeroChunks_ends {chunkSize : UInt64} (hpos : 0 < chunkSize.toNat)
    (hsize : chunkSize.toNat < 2 ^ 32) (write : Backing → UInt64 → UInt32 → NtStatus × Backing)
    (fuel : Nat) (b : Backing) (offset remaining : UInt64) (hfuel : remaining.toNat < fuel) :
    loop (zeroChunkStep chunkSize write) fuel (b, offset, remaining) =
      some (zeroChunks chunkSize write fuel b offset remaining) := by
  induction fuel generalizing b offset remaining with
  | zero => exact absurd hfuel (Nat.not_lt_zero _)
  | succ fuel ih =>
      rw [zeroChunks]
      by_cases hzero : remaining = 0
      · have hstep : zeroChunkStep chunkSize write (b, offset, remaining) =
            some (.inr (.success, b)) := if_pos hzero
        rw [loop_inr hstep, if_pos hzero]
      · rw [if_neg hzero]
        have hchunk := nextChunk_chunkOf hpos hsize hzero
        have hsome := hchunk.positive
        have hless := hchunk.rest
        have hlength := hchunk.length
        dsimp only
        by_cases hok : (write b offset (nextChunk chunkSize remaining).toUInt32).1.ntSuccess = true
        · rw [if_pos hok, ← ih _ _ _ (by omega)]
          refine loop_inl ?_ fuel
          simp only [zeroChunkStep, if_neg hzero, if_pos hok]
        · rw [if_neg hok]
          refine loop_inr ?_ fuel
          simp only [zeroChunkStep, if_neg hzero, if_neg hok]

/-! ## What a call zeroes -/

/-- A writable backend of `total` bytes, whose file can be written. -/
structure Zeroable (type : StorageType) (total : UInt64) (b : Backing) : Prop where
  type : b.1.type = type
  total : b.1.totalBytes = total
  writable : b.1.readOnly = false
  store : b.1.store.isSome = true
  writes : ∀ n, b.2.ok .writeFile n = true

/-- The kernel never refuses memory. -/
def Os.Allocates (os : Os) : Prop := ∀ n, os.ok .allocatePool n = true

/-- The call zeroes the range from its first byte on. It zeroes all of it if it succeeds, and it
succeeds if the kernel has the memory for the buffers. -/
structure Zeroes (type : StorageType) (total : UInt64) (offset length : Nat) (b : Backing)
    (r : NtStatus × Backing) : Prop where
  zeroable : Zeroable type total r.2
  kernel : r.2.2.ok = b.2.ok
  contents : ∃ k, k ≤ length ∧ (r.1.ntSuccess = true → k = length) ∧
    ∀ x, x < 2 ^ 64 → r.2.1.bytes x = splice b.1.bytes offset k (fun _ => 0) x
  succeeds : b.2.Allocates → r.1.ntSuccess = true

theorem splice_none (ref : Nat → UInt8) (start : Nat) (bytes : Nat → UInt8) :
    splice ref start 0 bytes = ref := by
  funext x
  exact if_neg fun hx => by omega

/-- Zeroes behind zeroes. -/
theorem splice_zeroes (ref : Nat → UInt8) (start n k : Nat) :
    splice (splice ref start n fun _ => 0) (start + n) k (fun _ => 0) =
      splice ref start (n + k) fun _ => 0 := by
  funext x
  unfold splice
  by_cases hfirst : start + n ≤ x ∧ x < start + n + k
  · rw [if_pos hfirst, if_pos (by omega)]
  · rw [if_neg hfirst]
    exact if_congr (by omega) rfl rfl

section Zeroes

variable {type : StorageType} {total : UInt64} {b : Backing} (h : Zeroable type total b)

include h

theorem Zeroable.keep {b' : Backing} (htype : b'.1.type = b.1.type)
    (htotal : b'.1.totalBytes = b.1.totalBytes) (hwritable : b'.1.readOnly = b.1.readOnly)
    (hstore : b'.1.store.isSome = true) (hok : b'.2.ok = b.2.ok) : Zeroable type total b' where
  type := htype.trans h.type
  total := htotal.trans h.total
  writable := hwritable.trans h.writable
  store := hstore
  writes n := by
    rw [hok]
    exact h.writes n

theorem Zeroable.call (k : OsCall) : Zeroable type total (b.1, (b.2.call k).2) :=
  h.keep rfl rfl rfl h.store rfl

theorem Zeroable.inRange {offset : UInt64} {length : UInt32}
    (hin : offset.toNat + length.toNat ≤ total.toNat) :
    b.1.outOfRange offset length = false :=
  not_outOfRange b.1.totalBytes.toNat_lt (by rwa [h.total])

/-- A call that comes back before it has written anything. -/
theorem Zeroes.refused {status : NtStatus} {offset length : Nat} (k : OsCall)
    (hstatus : status.ntSuccess = false) (hmemory : ¬ b.2.Allocates) :
    Zeroes type total offset length b (status, b.1, (b.2.call k).2) where
  zeroable := h.call k
  kernel := rfl
  contents := by
    refine ⟨0, Nat.zero_le _, fun hok => ?_, fun x _ => ?_⟩
    · rw [hstatus] at hok
      cases hok
    · rw [splice_none]
  succeeds hall := absurd hall hmemory

/-- A call that stores the zeroes at once. -/
theorem Zeroes.stored {b' : Backing} {mem : UInt64 → UInt8} {offset : UInt64} {length : UInt32}
    (hin : offset.toNat + length.toNat ≤ total.toNat) (hmem : b.1.store = some mem)
    (hstore : b'.1.store = some (copyBytes mem offset (fun _ => 0) 0 length.toNat))
    (hkeep : b'.1.type = b.1.type ∧ b'.1.totalBytes = b.1.totalBytes ∧
      b'.1.readOnly = b.1.readOnly ∧ b'.2.ok = b.2.ok) :
    Zeroes type total offset.toNat length.toNat b (.success, b') := by
  obtain ⟨htype, htotal, hwritable, hok⟩ := hkeep
  have hends := Nat.lt_of_le_of_lt hin total.toNat_lt
  refine ⟨h.keep htype htotal hwritable (by rw [hstore]; rfl) hok, hok,
    ⟨length.toNat, Nat.le_refl _, fun _ => rfl, fun x hx => ?_⟩, fun _ => rfl⟩
  rw [bytes_of_store hstore, bytes_of_store hmem]
  exact copyBytes_eq_splice mem hends (fun _ => 0) hx

omit h in
/-- A chunk that is zeroed, and what is zeroed behind it. -/
theorem Zeroes.next {offset chunk length : Nat} {r r' : NtStatus × Backing}
    (hfirst : Zeroes type total offset chunk b r) (hok : r.1.ntSuccess = true)
    (hrest : Zeroes type total (offset + chunk) length r.2 r') :
    Zeroes type total offset (chunk + length) b r' := by
  obtain ⟨k, hk, hwhole, hbytes⟩ := hrest.contents
  obtain ⟨n, -, hn, hchunk⟩ := hfirst.contents
  obtain rfl := hn hok
  refine ⟨hrest.zeroable, hrest.kernel.trans hfirst.kernel, ⟨n + k, by omega, fun hdone => ?_,
    fun x hx => ?_⟩, fun hmemory => hrest.succeeds fun i => ?_⟩
  · rw [hwhole hdone]
  · rw [hbytes x hx, splice_apply (hchunk x hx), splice_zeroes]
  · rw [hfirst.kernel]
    exact hmemory i

omit h in
/-- A chunk that fails leaves the rest of the range alone. -/
theorem Zeroes.stop {offset chunk length : Nat} {r : NtStatus × Backing}
    (hfirst : Zeroes type total offset chunk b r) (hfails : ¬ r.1.ntSuccess = true) :
    Zeroes type total offset (chunk + length) b r := by
  obtain ⟨k, hk, -, hbytes⟩ := hfirst.contents
  exact ⟨hfirst.zeroable, hfirst.kernel,
    ⟨k, Nat.le_add_right_of_le hk, fun hok => absurd hok hfails, hbytes⟩, hfirst.succeeds⟩

end Zeroes

/-- The loop over chunks, for any way to zero one chunk. -/
theorem zeroChunks_zeroes {type : StorageType} {total chunkSize : UInt64}
    (hpos : 0 < chunkSize.toNat) (hsize : chunkSize.toNat < 2 ^ 32)
    {write : Backing → UInt64 → UInt32 → NtStatus × Backing}
    (hwrite : ∀ (b : Backing) (offset : UInt64) (length : UInt32), Zeroable type total b →
      offset.toNat + length.toNat ≤ total.toNat →
      Zeroes type total offset.toNat length.toNat b (write b offset length))
    (fuel : Nat) {b : Backing} (h : Zeroable type total b) (offset remaining : UInt64)
    (hfuel : remaining.toNat < fuel) (hin : offset.toNat + remaining.toNat ≤ total.toNat) :
    Zeroes type total offset.toNat remaining.toNat b
      (zeroChunks chunkSize write fuel b offset remaining) := by
  -- what is zeroed grows by a chunk in each round, and the rest stays inside the backend
  refine zeroChunks_rule hpos hsize (P := fun b offset remaining r => Zeroable type total b →
    offset.toNat + remaining.toNat ≤ total.toNat →
    Zeroes type total offset.toNat remaining.toNat b r) ?_ ?_ ?_ fuel b offset remaining hfuel h hin
  · intro b offset h _
    refine ⟨h, rfl, ⟨0, Nat.zero_le _, fun _ => rfl, fun x _ => ?_⟩, fun _ => rfl⟩
    rw [splice_none]
  · intro b offset remaining chunk r hchunk hok hrest h hin
    have hlength := hchunk.length
    have hleft := hchunk.rest
    have hlt := total.toNat_lt
    have hfirst := hwrite b offset chunk.toUInt32 h (by rw [hchunk.length32]; omega)
    rw [hchunk.length32] at hfirst
    have hoffset : (offset + chunk).toNat = offset.toNat + chunk.toNat := by
      rw [UInt64.toNat_add, Nat.mod_eq_of_lt (by omega)]
    have hnext := hrest hfirst.zeroable (by omega)
    rw [hoffset] at hnext
    have hsum : remaining.toNat = chunk.toNat + (remaining - chunk).toNat := by omega
    rw [hsum]
    exact hfirst.next hok hnext
  · intro b offset remaining chunk hchunk hfails h hin
    have hlength := hchunk.length
    have hfirst := hwrite b offset chunk.toUInt32 h (by rw [hchunk.length32]; omega)
    rw [hchunk.length32] at hfirst
    have hsum : remaining.toNat = chunk.toNat + (remaining.toNat - chunk.toNat) := by omega
    rw [hsum]
    exact hfirst.stop hfails

/-! ## The backends -/

section Backends

variable {type : StorageType} {total : UInt64} {b : Backing} (h : Zeroable type total b)
  {offset : UInt64} {length : UInt32} (hin : offset.toNat + length.toNat ≤ total.toNat)

include h hin

theorem memoryWrite_zeroes (htype : type = .memory) :
    Zeroes type total offset.toNat length.toNat b
      ((storageMemoryWrite b.1 offset (fun _ => 0) length).1,
        (storageMemoryWrite b.1 offset (fun _ => 0) length).2, b.2) := by
  obtain ⟨mem, hmem⟩ := Option.isSome_iff_exists.mp h.store
  have hmemory := h.type.trans htype
  have hbuffer := (store_of_memory hmemory).symm.trans hmem
  simp only [storageMemoryWrite, hbuffer, h.writable, h.inRange hin, Bool.false_eq_true, if_false]
  exact Zeroes.stored h hin hmem (store_of_memory hmemory) ⟨rfl, rfl, rfl, rfl⟩

theorem fileWrite_zeroes (hne : type ≠ .memory) :
    Zeroes type total offset.toNat length.toNat b
      (storageFileWrite b offset (fun _ => 0) length) := by
  obtain ⟨mem, hmem⟩ := Option.isSome_iff_exists.mp h.store
  have hfile : b.1.type ≠ .memory := by rwa [h.type]
  have hbuffer := (store_of_file hfile).symm.trans hmem
  simp only [storageFileWrite, hbuffer, h.writable, h.inRange hin, Bool.false_eq_true, if_false,
    Os.call, h.writes, if_true]
  exact Zeroes.stored h hin hmem (store_of_file hfile) ⟨rfl, rfl, rfl, rfl⟩

theorem zeroThroughBuffer_zeroes (hne : type ≠ .memory) :
    Zeroes type total offset.toNat length.toNat b (zeroThroughBuffer b offset length) := by
  unfold zeroThroughBuffer
  dsimp only
  by_cases hok : (b.2.call .allocatePool).1 = true
  · have hlength : length.toUInt64.toNat = length.toNat := UInt32.toNat_toUInt64 length
    rw [if_pos hok, ← hlength]
    have hchunks := zeroChunks_zeroes (by decide : 0 < (64 * 1024 : UInt64).toNat) (by decide)
      (fun b offset length hb hinside => fileWrite_zeroes hb hinside hne)
      (length.toUInt64.toNat + 1) (h.call .allocatePool) offset length.toUInt64
      (Nat.lt_succ_self _) (by omega)
    exact ⟨hchunks.zeroable, hchunks.kernel, hchunks.contents, hchunks.succeeds⟩
  · rw [if_neg hok]
    exact Zeroes.refused h .allocatePool rfl fun hmemory => hok (hmemory _)

theorem sparseWriteZeroes_zeroes (hne : type ≠ .memory) :
    Zeroes type total offset.toNat length.toNat b (storageSparseWriteZeroes b offset length) := by
  obtain ⟨mem, hmem⟩ := Option.isSome_iff_exists.mp h.store
  have hfile : b.1.type ≠ .memory := by rwa [h.type]
  have hbuffer := (store_of_file hfile).symm.trans hmem
  simp only [storageSparseWriteZeroes, hbuffer, h.writable, h.inRange hin, Bool.false_eq_true,
    if_false]
  -- FSCTL_SET_ZERO_DATA, and the buffer where the file system cannot do that
  by_cases hfsctl : (b.2.call .fsControlFile).1 = true
  · rw [if_pos hfsctl]
    refine Zeroes.stored h hin hmem ?_ ⟨rfl, rfl, rfl, rfl⟩
    exact store_of_file hfile
  · rw [if_neg hfsctl]
    have hbuffered := zeroThroughBuffer_zeroes (h.call .fsControlFile) hin hne
    exact ⟨hbuffered.zeroable, hbuffered.kernel, hbuffered.contents, hbuffered.succeeds⟩

theorem storageWriteZeroes_zeroes (hne : type ≠ .none) :
    Zeroes type total offset.toNat length.toNat b (vnvmeStorageWriteZeroes b offset length) := by
  unfold vnvmeStorageWriteZeroes
  have htype := h.type
  cases type with
  | memory =>
      rw [htype]
      exact memoryWrite_zeroes h hin rfl
  | file =>
      rw [htype]
      exact zeroThroughBuffer_zeroes h hin (by decide)
  | sparse =>
      rw [htype]
      exact sparseWriteZeroes_zeroes h hin (by decide)
  | none => exact absurd rfl hne

end Backends

/-! ## The command -/

/-- The file backends write their zeroes through `StorageFileWrite`. -/
def fileZeroes (b : Backing) (offset : UInt64) (length : UInt32) : NtStatus × Backing :=
  storageFileWrite b offset (fun _ => 0) length

/-- The loop of the handler. -/
def Request.zeroLoop (ns : Namespace) (r : Request) : Option (NtStatus × Backing) :=
  loop (zeroChunkStep writeZeroesChunkSize vnvmeStorageWriteZeroes) (r.size ns + 1)
    ((ns.backend, r.os), vnvmeBlocksToBytes r.cmd.slba ns.blockSize, commandBytes ns r.cmd)

/-- Byte `x` is in the range of the command. -/
def Request.Covers (ns : Namespace) (r : Request) (x : Nat) : Prop :=
  r.start ns ≤ x ∧ x < r.start ns + r.size ns

/-- Both loops end and decide the outcome. A Write Zeroes that succeeds has zeroed exactly its
range, and it succeeds if the kernel has the memory for the buffers. Whatever happens, the bytes
outside the range and the other namespaces stay as they are. -/
structure ZeroesRange (m : Media) (ns : Namespace) (r : Request) : Prop where
  innerEnds : ∀ (b : Backing) (offset : UInt64) (length : UInt32),
    (b.2.call .allocatePool).1 = true →
    loop (zeroChunkStep (64 * 1024) fileZeroes) (length.toNat + 1)
        ((b.1, (b.2.call .allocatePool).2), offset, length.toUInt64) =
      some (zeroThroughBuffer b offset length)
  outerEnds : ∃ res, r.zeroLoop ns = some res ∧
    ((r.result m).Succeeds ↔ res.1.ntSuccess = true) ∧
    ((r.result m).media.namespaces (vnvmeNsidToIndex r.cmd.nsid)).backend = res.2.1
  zeroed : (r.result m).Succeeds → ∀ x, r.Covers ns x →
    ((r.result m).media.namespaces (vnvmeNsidToIndex r.cmd.nsid)).backend.bytes x = 0
  outside : ∀ x, x < ns.backend.totalBytes.toNat → ¬ r.Covers ns x →
    ((r.result m).media.namespaces (vnvmeNsidToIndex r.cmd.nsid)).backend.bytes x =
      ns.backend.bytes x
  others : ∀ i, i ≠ vnvmeNsidToIndex r.cmd.nsid →
    (r.result m).media.namespaces i = m.namespaces i
  succeeds : r.os.Allocates → (r.result m).Succeeds

section Command

variable {m : Media} {ns : Namespace} {r : Request}
  (hns : activeNamespace m r.cmd.nsid = some ns) (hopc : r.cmd.opc = nvmeIoWriteZeroes)
  (hr : r.Inside ns)

/-- A reachable namespace is written to where its file can be. -/
theorem ReachableTable.zeroable (h : ReachableTable m)
    (hns : activeNamespace m r.cmd.nsid = some ns) (hwrites : ∀ n, r.os.ok .writeFile n = true) :
    Zeroable ns.backend.type ns.backend.totalBytes (ns.backend, r.os) ∧
      ns.backend.type ≠ .none := by
  obtain ⟨st, -, rfl, hready⟩ := h.ready hns
  exact ⟨⟨rfl, rfl, hready.writable, hready.store, hwrites⟩, hready.type⟩

include hns hopc

/-- What the loop leaves is what the command leaves. -/
theorem writeZeroes_result (htype : ns.backend.type ≠ .none)
    (hvalid : vnvmeLbaRangeValid r.cmd.slba r.cmd.nlb.toUInt64 ns.totalBlocks = true) :
    let res := zeroBlocks (ns.backend, r.os) (vnvmeBlocksToBytes r.cmd.slba ns.blockSize)
      (commandBytes ns r.cmd)
    ((r.result m).Succeeds ↔ res.1.ntSuccess = true) ∧
      (r.result m).media.namespaces = Function.update m.namespaces (vnvmeNsidToIndex r.cmd.nsid)
        { ns with storage := some res.2.1 } := by
  rw [Request.result_writeZeroes hopc, handleWriteZeroes, hns]
  dsimp only
  rw [hvalid, if_neg (by decide : ¬ (!true) = true)]
  cases hst : ns.storage with
  | none =>
      unfold Namespace.backend at htype
      rw [hst] at htype
      exact absurd rfl htype
  | some st =>
      rw [backend_eq hst]
      dsimp only [zeroBlocks, commandBytes]
      split_ifs with hok
      · exact ⟨iff_of_true ⟨rfl, rfl⟩ hok, rfl⟩
      · refine ⟨iff_of_false (fun hsucceeds => ?_) hok, rfl⟩
        have hsct : nvmeSctMediaError = nvmeSctGeneric := hsucceeds.1
        exact absurd hsct (by decide)

include hr

/-- **Write Zeroes.** Inside a namespace of any kind, with plain writes that succeed, whatever
`FSCTL_SET_ZERO_DATA` answers from call to call. -/
theorem writeZeroes_zeroes_range (h : ReachableTable m)
    (hwrites : ∀ n, r.os.ok .writeFile n = true) : ZeroesRange m ns r := by
  have hfits : ns.Fits := h.fits.active hns
  obtain ⟨hzeroable, htype⟩ := h.zeroable hns hwrites
  obtain ⟨hsucceeds, hnamespaces⟩ := writeZeroes_result hns hopc htype hr.lbaRangeValid
  have hsize := (hr.size_toNat hfits).1
  have hstart := hr.start_toNat hfits
  have hend := hr.end_le hfits
  have hcapacity := hfits.capacity
  have hloop := zeroChunks_zeroes (by decide : 0 < writeZeroesChunkSize.toNat) (by decide)
    (fun b offset length hb hinside => storageWriteZeroes_zeroes hb hinside htype)
    ((commandBytes ns r.cmd).toNat + 1) hzeroable (vnvmeBlocksToBytes r.cmd.slba ns.blockSize)
    (commandBytes ns r.cmd) (Nat.lt_succ_self _) (by omega)
  rw [← zeroBlocks, hsize, hstart] at hloop
  have hends := zeroChunks_ends (by decide : 0 < writeZeroesChunkSize.toNat) (by decide)
    vnvmeStorageWriteZeroes (r.size ns + 1) (ns.backend, r.os)
    (vnvmeBlocksToBytes r.cmd.slba ns.blockSize) (commandBytes ns r.cmd) (by omega)
  have hbackend : ((r.result m).media.namespaces (vnvmeNsidToIndex r.cmd.nsid)).backend =
      (zeroBlocks (ns.backend, r.os) (vnvmeBlocksToBytes r.cmd.slba ns.blockSize)
        (commandBytes ns r.cmd)).2.1 := by
    rw [hnamespaces, Function.update_self]
    rfl
  obtain ⟨k, hk, hwhole, hbytes⟩ := hloop.contents
  refine ⟨fun b offset length hok => ?_, ⟨_, ?_, hsucceeds, hbackend⟩, fun hok x hx => ?_,
    fun x hx hout => ?_, fun i hi => ?_, fun hmemory => hsucceeds.mpr (hloop.succeeds hmemory)⟩
  · unfold zeroThroughBuffer
    dsimp only
    rw [if_pos hok]
    refine zeroChunks_ends (by decide) (by decide) fileZeroes _ _ offset _ ?_
    rw [UInt32.toNat_toUInt64]
    exact Nat.lt_succ_self _
  · unfold Request.zeroLoop zeroBlocks
    rw [hends, hsize]
  · obtain rfl := hwhole (hsucceeds.mp hok)
    rw [hbackend, hbytes x (by unfold Request.Covers at hx; omega)]
    exact if_pos hx
  · rw [hbackend, hbytes x (by omega)]
    refine if_neg fun hin => hout ⟨hin.1, ?_⟩
    omega
  · rw [hnamespaces, Function.update_of_ne hi]

end Command

/-- A table with one namespace of eight blocks in a file, sparse or not. -/
def fileTable (flags : UInt32) : Media :=
  (vnvmeHandleCreateNamespace { Config.allQueues with storageType := .file, storagePath := [0x43] }
    {} {} { totalBlocks := 8, blockSize := 512, flags := flags }).2.2.1

theorem fileTable_reachable (flags : UInt32) : ReachableTable (fileTable flags) :=
  ReachableTable.create _ {} _ ReachableTable.fresh

/-- Zero three blocks from the second one on. -/
def zeroThree (ok : OsCall → Nat → Bool) : Request where
  os := { ok := ok }
  cmd := { opc := nvmeIoWriteZeroes, cid := 1, nsid := 1, prp1 := 0, cdw10 := 1, cdw12 := 2 }

/-- A sparse file on a file system that never zeroes in one call. -/
theorem writeZeroes_zeroes_range_sparse :
    ZeroesRange (fileTable 4) ((fileTable 4).namespaces 0)
      (zeroThree fun call _ => call ≠ .fsControlFile) :=
  writeZeroes_zeroes_range rfl rfl ⟨by decide, by decide⟩ (fileTable_reachable 4) fun _ => rfl

/-- The file with one byte pattern in its first two blocks. -/
def writtenTable : Media :=
  (handleIoCommand (fileTable 0) { hostMem := fun _ => 0xAB }
    { opc := nvmeIoWrite, cid := 1, nsid := 1, prp1 := 0x100000, cdw12 := 1 }).media

theorem writtenTable_reachable : ReachableTable writtenTable :=
  ReachableTable.command _ _ (fileTable_reachable 0)

/-- Plain writes succeed, but there is no memory for the zero buffer. -/
theorem writeZeroes_without_memory :
    ¬ ∀ (m : Media) (ns : Namespace) (r : Request), ReachableTable m →
      activeNamespace m r.cmd.nsid = some ns → r.cmd.opc = nvmeIoWriteZeroes → r.Inside ns →
      (∀ n, r.os.ok .writeFile n = true) → ∀ x, r.Covers ns x →
      ((r.result m).media.namespaces (vnvmeNsidToIndex r.cmd.nsid)).backend.bytes x = 0 := by
  intro h
  have hzero := h writtenTable (writtenTable.namespaces 0) (zeroThree fun call _ =>
    call ≠ .allocatePool) writtenTable_reachable rfl rfl ⟨by decide, by decide⟩ (fun _ => rfl) 512
    ⟨by decide, by decide⟩
  exact absurd hzero (by decide)

end VirtualNvme
