import VirtualNvme.Verification.ReferenceStore

/-!
# What a storage backend leaves

The outcome of a write to one backend whose file, if it has one, can be read and written: whether
it succeeds, and which bytes the backend holds afterwards. Zeroes that go through a buffer are
written in chunks of 64 KB, each of which checks its own range. The loop zeroes chunk after chunk up
to the first that leaves the backend.
-/

namespace VirtualNvme

/-! ## The contents -/

/-- What the backend keeps its bytes in. -/
def StorageContext.store (ctx : StorageContext) : Option (UInt64 → UInt8) :=
  if ctx.type = .memory then ctx.memoryBuffer else ctx.file

/-- The contents of a backend. -/
def StorageContext.bytes (ctx : StorageContext) : Nat → UInt8 :=
  fun x => (ctx.store.getD fun _ => 0) (UInt64.ofNat x)

/-- Byte `x` is in a chunk of 64 KB of the range, and this chunk lies in a backend of `total`
bytes. -/
def ChunkInside (total offset length x : Nat) : Prop :=
  (offset ≤ x ∧ x < offset + length) ∧
    offset + min length (((x - offset) / 65536 + 1) * 65536) ≤ total

instance (total offset length x : Nat) : Decidable (ChunkInside total offset length x) :=
  inferInstanceAs (Decidable (_ ∧ _))

/-! ## A backend in use -/

/-- A writable backend of `total` bytes. Its file can be read and written; other services of the
kernel may fail. -/
structure InUse (type : StorageType) (total : UInt64) (b : Backing) : Prop where
  type : b.1.type = type
  total : b.1.totalBytes = total
  writable : b.1.readOnly = false
  store : b.1.store.isSome = true
  reads : ∀ n, b.2.ok .readFile n = true
  writes : ∀ n, b.2.ok .writeFile n = true

/-- The outcome of a call to a backend in use: it succeeds exactly if `ok`, and it leaves the
bytes of `after`. -/
structure Leaves (type : StorageType) (total : UInt64) (r : NtStatus × Backing) (ok : Prop)
    (after : Nat → UInt8) : Prop where
  inUse : InUse type total r.2
  status : r.1.ntSuccess = true ↔ ok
  contents : ∀ x, x < 2 ^ 64 → r.2.1.bytes x = after x

theorem Leaves.congr {type : StorageType} {total : UInt64} {r : NtStatus × Backing} {ok ok' : Prop}
    {after after' : Nat → UInt8} (h : Leaves type total r ok after) (hok : ok ↔ ok')
    (hafter : ∀ x, after x = after' x) : Leaves type total r ok' after' :=
  ⟨h.inUse, h.status.trans hok, fun x hx => (h.contents x hx).trans (hafter x)⟩

section Outcome

variable {type : StorageType} {total : UInt64} {b : Backing} (h : InUse type total b)

include h

theorem InUse.keep {b' : Backing} (htype : b'.1.type = b.1.type)
    (htotal : b'.1.totalBytes = b.1.totalBytes) (hwritable : b'.1.readOnly = b.1.readOnly)
    (hstore : b'.1.store.isSome = true) (hok : b'.2.ok = b.2.ok) : InUse type total b' where
  type := htype.trans h.type
  total := htotal.trans h.total
  writable := hwritable.trans h.writable
  store := hstore
  reads n := by
    rw [hok]
    exact h.reads n
  writes n := by
    rw [hok]
    exact h.writes n

theorem InUse.call (k : OsCall) : InUse type total (b.1, (b.2.call k).2) :=
  h.keep rfl rfl rfl h.store rfl

theorem Leaves.refused {status : NtStatus} {ok : Prop} (hstatus : status.ntSuccess = false)
    (hok : ¬ ok) : Leaves type total (status, b) ok b.1.bytes where
  inUse := h
  status := iff_of_false (by rw [hstatus]; exact Bool.false_ne_true) hok
  contents _ _ := rfl

/-- The range check of the backends, without the wrap. -/
theorem InUse.outOfRange_iff {offset : UInt64} {length : UInt32}
    (hends : offset.toNat + length.toNat < 2 ^ 64) :
    b.1.outOfRange offset length = true ↔ ¬ offset.toNat + length.toNat ≤ total.toNat := by
  rw [VirtualNvme.outOfRange_iff, h.total, Nat.mod_eq_of_lt hends, Nat.not_le]

end Outcome

/-- A copy into the bytes of a backend replaces a part of them. -/
theorem copyBytes_eq_splice (mem : UInt64 → UInt8) {offset : UInt64} {length : UInt32}
    (hends : offset.toNat + length.toNat < 2 ^ 64) (data : UInt64 → UInt8) {x : Nat}
    (hx : x < 2 ^ 64) :
    copyBytes mem offset data 0 length.toNat (UInt64.ofNat x) =
      splice (fun x => mem (UInt64.ofNat x)) offset.toNat length.toNat
        (fun i => data (UInt64.ofNat i)) x := by
  rw [copyBytes_splice mem (Nat.le_of_lt hends) data 0 hx]
  simp only [UInt64.zero_add]

section Store

variable {ctx : StorageContext} {bytes : UInt64 → UInt8}

theorem store_of_memory (h : ctx.type = .memory) : ctx.store = ctx.memoryBuffer := if_pos h

theorem store_of_file (h : ctx.type ≠ .memory) : ctx.store = ctx.file := if_neg h

theorem bytes_of_store (h : ctx.store = some bytes) :
    ctx.bytes = fun x => bytes (UInt64.ofNat x) := by
  unfold StorageContext.bytes
  rw [h]
  rfl

end Store

/-- A backend that has been created holds zeroes. -/
theorem FreshStorage.store {type : StorageType} {total : UInt64} {st : StorageContext}
    (h : FreshStorage type total st) : st.store = some fun _ => 0 := by
  unfold StorageContext.store
  rw [h.type]
  split_ifs with htype
  · exact h.buffer htype
  · exact h.file htype

/-- A store of bytes into a backend in use. -/
theorem Leaves.stored {type : StorageType} {total : UInt64} {b b' : Backing}
    {mem : UInt64 → UInt8} {offset : UInt64} {length : UInt32} (data : UInt64 → UInt8)
    (h : InUse type total b) (hends : offset.toNat + length.toNat < 2 ^ 64)
    (hin : offset.toNat + length.toNat ≤ total.toNat) (hmem : b.1.store = some mem)
    (hstore : b'.1.store = some (copyBytes mem offset data 0 length.toNat))
    (hkeep : b'.1.type = b.1.type ∧ b'.1.totalBytes = b.1.totalBytes ∧
      b'.1.readOnly = b.1.readOnly ∧ b'.2.ok = b.2.ok) :
    Leaves type total (.success, b') (offset.toNat + length.toNat ≤ total.toNat)
      (splice b.1.bytes offset.toNat length.toNat fun i => data (UInt64.ofNat i)) := by
  obtain ⟨htype, htotal, hwritable, hok⟩ := hkeep
  refine ⟨h.keep htype htotal hwritable (by rw [hstore]; rfl) hok, iff_of_true rfl hin,
    fun x hx => ?_⟩
  rw [bytes_of_store hstore, bytes_of_store hmem]
  exact copyBytes_eq_splice mem hends data hx

/-! ## One write -/

section Write

variable {type : StorageType} {total : UInt64} {b : Backing} {offset : UInt64}
  {length : UInt32} (hends : offset.toNat + length.toNat < 2 ^ 64) (data : UInt64 → UInt8)

include hends

theorem memoryWrite_leaves (h : InUse .memory total b) :
    Leaves .memory total ((storageMemoryWrite b.1 offset data length).1,
        (storageMemoryWrite b.1 offset data length).2, b.2)
      (offset.toNat + length.toNat ≤ total.toNat)
      (if offset.toNat + length.toNat ≤ total.toNat then
        splice b.1.bytes offset.toNat length.toNat fun i => data (UInt64.ofNat i)
      else b.1.bytes) := by
  obtain ⟨mem, hmem⟩ := Option.isSome_iff_exists.mp h.store
  have hbuffer := (store_of_memory h.type).symm.trans hmem
  simp only [storageMemoryWrite, hbuffer, h.writable, Bool.false_eq_true, if_false]
  by_cases hin : offset.toNat + length.toNat ≤ total.toNat
  · rw [if_neg fun hcheck => (h.outOfRange_iff hends).mp hcheck hin, if_pos hin]
    exact Leaves.stored data h hends hin hmem (store_of_memory h.type) ⟨rfl, rfl, rfl, rfl⟩
  · rw [if_pos ((h.outOfRange_iff hends).mpr hin), if_neg hin]
    exact Leaves.refused h rfl hin

theorem fileWrite_leaves (hne : type ≠ .memory) (h : InUse type total b) :
    Leaves type total (storageFileWrite b offset data length)
      (offset.toNat + length.toNat ≤ total.toNat)
      (if offset.toNat + length.toNat ≤ total.toNat then
        splice b.1.bytes offset.toNat length.toNat fun i => data (UInt64.ofNat i)
      else b.1.bytes) := by
  obtain ⟨mem, hmem⟩ := Option.isSome_iff_exists.mp h.store
  have htype : b.1.type ≠ .memory := by
    rw [h.type]
    exact hne
  have hfile := (store_of_file htype).symm.trans hmem
  simp only [storageFileWrite, hfile, h.writable, Bool.false_eq_true, if_false, Os.call,
    h.writes, if_true]
  by_cases hin : offset.toNat + length.toNat ≤ total.toNat
  · rw [if_neg fun hcheck => (h.outOfRange_iff hends).mp hcheck hin, if_pos hin]
    exact Leaves.stored data h hends hin hmem (store_of_file htype) ⟨rfl, rfl, rfl, rfl⟩
  · rw [if_pos ((h.outOfRange_iff hends).mpr hin), if_neg hin]
    exact Leaves.refused h rfl hin

end Write

/-! ## Zeroes in chunks -/

section Chunks

variable {total offset length chunk x : Nat} (hchunk : chunk = min 65536 length)

include hchunk

theorem chunkInside_cons (hfirst : offset + chunk ≤ total) :
    ChunkInside total offset length x ↔
      (offset ≤ x ∧ x < offset + chunk) ∨
        ChunkInside total (offset + chunk) (length - chunk) x := by
  unfold ChunkInside
  by_cases hx : x < offset + chunk
  · have hzero : offset ≤ x → (x - offset) / 65536 = 0 := fun _ => Nat.div_eq_of_lt (by omega)
    constructor
    · rintro ⟨⟨hge, -⟩, -⟩
      exact Or.inl ⟨hge, hx⟩
    · rintro (⟨hge, -⟩ | ⟨⟨hge, -⟩, -⟩)
      · rw [hzero hge]
        omega
      · exact absurd hx (Nat.not_lt.mpr hge)
  · by_cases hlong : length ≤ 65536
    · omega
    -- seen from the second chunk on, the number of the chunk is one less
    · have hone : 65536 ≤ x - offset := by omega
      have hnext : (x - (offset + chunk)) / 65536 + 1 = (x - offset) / 65536 := by
        rw [← Nat.sub_sub, show chunk = 65536 by omega]
        omega
      rw [← hnext]
      omega

/-- The first chunk zeroed, and then the chunks behind it. -/
theorem splice_chunkInside (hfirst : offset + chunk ≤ total) (bytes : Nat → UInt8) :
    (if ChunkInside total (offset + chunk) (length - chunk) x then 0
      else splice bytes offset chunk (fun _ => 0) x) =
      if ChunkInside total offset length x then 0 else bytes x := by
  simp only [chunkInside_cons hchunk hfirst]
  unfold splice
  by_cases hx : offset ≤ x ∧ x < offset + chunk
  · rw [if_pos hx, if_pos (Or.inl hx)]
    exact ite_self 0
  · rw [if_neg hx]
    simp only [or_iff_right hx]

theorem not_chunkInside_of_first (hfirst : ¬ offset + chunk ≤ total) :
    ¬ ChunkInside total offset length x := by
  unfold ChunkInside
  omega

omit hchunk in
theorem chunkInside_of_inside (hin : offset + length ≤ total) :
    ChunkInside total offset length x ↔ offset ≤ x ∧ x < offset + length := by
  unfold ChunkInside
  exact and_iff_left (by omega)

end Chunks

section ZeroChunks

variable {type : StorageType} {total : UInt64} (hne : type ≠ .memory)

include hne

/-- The loop zeroes chunk after chunk up to the first that leaves the backend. -/
theorem zeroChunks_leaves (fuel : Nat) {b : Backing} (h : InUse type total b)
    (offset remaining : UInt64) (hfuel : remaining.toNat < fuel)
    (hends : offset.toNat + remaining.toNat < 2 ^ 64) :
    Leaves type total
      (zeroChunks (64 * 1024) (fun b off len => storageFileWrite b off (fun _ => 0) len) fuel b
        offset remaining)
      (remaining = 0 ∨ offset.toNat + remaining.toNat ≤ total.toNat)
      (fun x => if ChunkInside total.toNat offset.toNat remaining.toNat x then 0
        else b.1.bytes x) := by
  -- the backend stays in use through every chunk, so the next one has the same range check
  refine zeroChunks_rule (by decide) (by decide) (P := fun b offset remaining r =>
    InUse type total b → offset.toNat + remaining.toNat < 2 ^ 64 →
    Leaves type total r (remaining = 0 ∨ offset.toNat + remaining.toNat ≤ total.toNat)
      (fun x => if ChunkInside total.toNat offset.toNat remaining.toNat x then 0
        else b.1.bytes x)) ?_ ?_ ?_ fuel b offset remaining hfuel h hends
  · intro b offset h _
    refine ⟨h, iff_of_true rfl (Or.inl rfl), fun x _ => ?_⟩
    rw [if_neg]
    rintro ⟨⟨hge, hlt⟩, -⟩
    exact absurd hlt (Nat.not_lt.mpr hge)
  · intro b offset remaining chunk r hchunk hok hrest h hends
    have hlength : chunk.toNat = min 65536 remaining.toNat := hchunk.length
    have hleft := hchunk.rest
    have hsome := hchunk.positive
    have hfirst := fileWrite_leaves
      (by rw [hchunk.length32]; omega : offset.toNat + chunk.toUInt32.toNat < 2 ^ 64)
      (fun _ => 0) hne h
    rw [hchunk.length32] at hfirst
    have hin := hfirst.status.mp hok
    have hoffset : (offset + chunk).toNat = offset.toNat + chunk.toNat := by
      rw [UInt64.toNat_add, Nat.mod_eq_of_lt (by omega)]
    have hzero : remaining ≠ 0 := UInt64.pos_iff_ne_zero.mp (by omega : 0 < remaining.toNat)
    obtain ⟨hinUse, hstatus, hcontents⟩ := hrest hfirst.inUse (by omega)
    refine ⟨hinUse, hstatus.trans ?_, fun x hx => (hcontents x hx).trans ?_⟩
    · rw [or_iff_right hzero, hoffset, hleft]
      constructor
      · rintro (hdone | hle)
        · rw [← UInt64.toNat_inj, hleft, UInt64.toNat_zero] at hdone
          omega
        · omega
      · intro hle
        exact Or.inr (by omega)
    · rw [hfirst.contents x hx, if_pos hin, hoffset, hleft]
      exact splice_chunkInside hlength hin b.1.bytes
  · -- the first chunk that leaves the backend ends the loop, and so does every later one
    intro b offset remaining chunk hchunk hfails h hends
    have hlength : chunk.toNat = min 65536 remaining.toNat := hchunk.length
    have hsome := hchunk.positive
    have hfirst := fileWrite_leaves
      (by rw [hchunk.length32]; omega : offset.toNat + chunk.toUInt32.toNat < 2 ^ 64)
      (fun _ => 0) hne h
    rw [hchunk.length32] at hfirst
    have hout : ¬ offset.toNat + chunk.toNat ≤ total.toNat :=
      fun hin => hfails (hfirst.status.mpr hin)
    have hzero : remaining ≠ 0 := UInt64.pos_iff_ne_zero.mp (by omega : 0 < remaining.toNat)
    refine ⟨hfirst.inUse, hfirst.status.trans ?_, fun x hx => ?_⟩
    · rw [or_iff_right hzero]
      omega
    · rw [hfirst.contents x hx, if_neg hout, if_neg (not_chunkInside_of_first hlength hout)]

/-- Zeroes through a buffer, if the kernel has the memory for it. -/
theorem zeroThroughBuffer_leaves {b : Backing} (h : InUse type total b) {offset : UInt64}
    {length : UInt32} (hends : offset.toNat + length.toNat < 2 ^ 64) :
    Leaves type total (zeroThroughBuffer b offset length)
      ((b.2.call .allocatePool).1 = true ∧
        (length = 0 ∨ offset.toNat + length.toNat ≤ total.toNat))
      (fun x => if (b.2.call .allocatePool).1 = true ∧
          ChunkInside total.toNat offset.toNat length.toNat x then 0
        else b.1.bytes x) := by
  have hlength : length.toUInt64.toNat = length.toNat := UInt32.toNat_toUInt64 length
  have hzero : length.toUInt64 = 0 ↔ length = 0 := by
    rw [← UInt64.toNat_inj, hlength, ← UInt32.toNat_inj]
    rfl
  unfold zeroThroughBuffer
  dsimp only
  by_cases hok : (b.2.call .allocatePool).1 = true
  · rw [if_pos hok]
    obtain ⟨hinUse, hstatus, hcontents⟩ := zeroChunks_leaves hne (length.toNat + 1)
      (h.call .allocatePool) offset length.toUInt64 (by omega) (by omega)
    rw [hlength, hzero] at hstatus
    simp only [hlength] at hcontents
    simp only [hok, true_and]
    exact ⟨hinUse, hstatus, hcontents⟩
  · rw [if_neg hok]
    refine (Leaves.refused (h.call .allocatePool) rfl fun hboth => hok hboth.1).congr Iff.rfl
      fun x => ?_
    exact (if_neg fun hboth => hok hboth.1).symm

/-- The kernel can zero a part of a sparse file: in one call, or there is memory for a buffer. -/
def ZeroesSparse (os : Os) : Prop :=
  (os.call .fsControlFile).1 = true ∨ ((os.call .fsControlFile).2.call .allocatePool).1 = true

instance (os : Os) : Decidable (ZeroesSparse os) := inferInstanceAs (Decidable (_ ∨ _))

/-- The sparse backend: the whole range or nothing. -/
theorem sparseWriteZeroes_leaves {b : Backing} (h : InUse type total b) {offset : UInt64}
    {length : UInt32} (hends : offset.toNat + length.toNat < 2 ^ 64) :
    Leaves type total (storageSparseWriteZeroes b offset length)
      (offset.toNat + length.toNat ≤ total.toNat ∧ ZeroesSparse b.2)
      (if offset.toNat + length.toNat ≤ total.toNat ∧ ZeroesSparse b.2 then
        splice b.1.bytes offset.toNat length.toNat fun _ => 0
      else b.1.bytes) := by
  obtain ⟨mem, hmem⟩ := Option.isSome_iff_exists.mp h.store
  have htype : b.1.type ≠ .memory := by
    rw [h.type]
    exact hne
  have hfile := (store_of_file htype).symm.trans hmem
  simp only [storageSparseWriteZeroes, hfile, h.writable, Bool.false_eq_true, if_false]
  by_cases hin : offset.toNat + length.toNat ≤ total.toNat
  · rw [if_neg fun hcheck => (h.outOfRange_iff hends).mp hcheck hin]
    simp only [hin, true_and]
    -- FSCTL_SET_ZERO_DATA, and the buffer if that fails; the range is inside by now
    by_cases hfsctl : (b.2.call .fsControlFile).1 = true
    · have hzeroes : ZeroesSparse b.2 := Or.inl hfsctl
      rw [if_pos hfsctl, if_pos hzeroes]
      refine Leaves.congr (Leaves.stored (fun _ => 0) h hends hin hmem ?_ ⟨rfl, rfl, rfl, rfl⟩)
        (iff_of_true hin hzeroes) fun _ => rfl
      exact store_of_file htype
    · have hzeroes : ZeroesSparse b.2 ↔
          ((b.2.call .fsControlFile).2.call .allocatePool).1 = true := or_iff_right hfsctl
      rw [if_neg hfsctl]
      refine (zeroThroughBuffer_leaves hne (h.call .fsControlFile) hends).congr ?_ fun x => ?_
      · rw [hzeroes]
        exact and_iff_left (Or.inr hin)
      · simp only [hzeroes, chunkInside_of_inside hin]
        unfold splice
        by_cases hok : ((b.2.call .fsControlFile).2.call .allocatePool).1 = true
        · simp only [hok, true_and, if_true]
        · simp only [hok, Bool.false_eq_true, false_and, if_false]
  · rw [if_pos ((h.outOfRange_iff hends).mpr hin), if_neg fun hboth => hin hboth.1]
    exact Leaves.refused h rfl fun hboth => hin hboth.1

end ZeroChunks

end VirtualNvme
