import VirtualNvme.Driver.Storage

/-!
# What a storage backend lets through

The memory backend checks `Offset + Length > TotalBytes` in 64-bit arithmetic and then
hands out an address. `Touches` says what a call has let through, and that it leaves the
geometry of the backend alone. Only the memory backend hands out addresses: the file
backends touch nothing.
-/

namespace VirtualNvme

/-- The range lies in a buffer of `total` bytes, over the natural numbers. -/
def InBounds (total : UInt64) (r : UInt64 × UInt32) : Prop :=
  r.1.toNat + r.2.toNat ≤ total.toNat

/-- From `st` to `st'`, the memory backend has let `new` through. -/
structure Touches (st st' : StorageContext) (new : List (UInt64 × UInt32)) : Prop where
  touched : st'.touched = st.touched ++ new
  type : st'.type = st.type
  totalBytes : st'.totalBytes = st.totalBytes
  readOnly : st'.readOnly = st.readOnly
  buffer : st.memoryBuffer.isSome = true → st'.memoryBuffer.isSome = true

theorem Touches.refl (st : StorageContext) : Touches st st [] :=
  ⟨(List.append_nil _).symm, rfl, rfl, rfl, id⟩

theorem Touches.trans {a b c : StorageContext} {new new' : List (UInt64 × UInt32)}
    (h : Touches a b new) (h' : Touches b c new') : Touches a c (new ++ new') where
  touched := by rw [h'.touched, h.touched, List.append_assoc]
  type := h'.type.trans h.type
  totalBytes := h'.totalBytes.trans h.totalBytes
  readOnly := h'.readOnly.trans h.readOnly
  buffer := h'.buffer ∘ h.buffer

/-- Everything let through from `st` to `st'` satisfies `Q`. -/
def TouchesOnly (st st' : StorageContext) (Q : UInt64 × UInt32 → Prop) : Prop :=
  ∃ new, Touches st st' new ∧ ∀ r ∈ new, Q r

theorem TouchesOnly.refl (st : StorageContext) (Q : UInt64 × UInt32 → Prop) :
    TouchesOnly st st Q :=
  ⟨[], Touches.refl st, by simp⟩

theorem TouchesOnly.trans {a b c : StorageContext} {Q : UInt64 × UInt32 → Prop}
    (h : TouchesOnly a b Q) (h' : TouchesOnly b c Q) : TouchesOnly a c Q := by
  obtain ⟨new, ht, hQ⟩ := h
  obtain ⟨new', ht', hQ'⟩ := h'
  refine ⟨new ++ new', ht.trans ht', fun r hr => ?_⟩
  exact (List.mem_append.mp hr).elim (hQ r) (hQ' r)

theorem Touches.touchesOnly {st st' : StorageContext} {new : List (UInt64 × UInt32)}
    {Q : UInt64 × UInt32 → Prop} (h : Touches st st' new) (hQ : ∀ r ∈ new, Q r) :
    TouchesOnly st st' Q :=
  ⟨new, h, hQ⟩

theorem TouchesOnly.touches {st st' : StorageContext}
    (h : TouchesOnly st st' fun _ => False) : Touches st st' [] := by
  obtain ⟨new, ht, hnone⟩ := h
  rwa [List.eq_nil_iff_forall_not_mem.mpr hnone] at ht

/-- A memory backend in use. -/
structure MemoryBacked (st : StorageContext) : Prop where
  type : st.type = .memory
  buffer : st.memoryBuffer.isSome = true
  writable : st.readOnly = false

theorem MemoryBacked.touches {st st' : StorageContext} {new : List (UInt64 × UInt32)}
    (h : MemoryBacked st) (ht : Touches st st' new) : MemoryBacked st' :=
  ⟨ht.type.trans h.type, ht.buffer h.buffer, ht.readOnly.trans h.writable⟩

/-- The range, if the check lets it through. -/
def passed (st : StorageContext) (offset : UInt64) (length : UInt32) :
    List (UInt64 × UInt32) :=
  if st.outOfRange offset length then [] else [(offset, length)]

/-! ## The memory backend -/

section Memory

variable {st : StorageContext} (h : MemoryBacked st) (offset : UInt64) (length : UInt32)

include h

theorem getDirect_memory :
    (vnvmeStorageGetDirect st offset length).1.ntSuccess = !st.outOfRange offset length ∧
      Touches st (vnvmeStorageGetDirect st offset length).2 (passed st offset length) := by
  obtain ⟨mem, hmem⟩ := Option.isSome_iff_exists.mp h.buffer
  simp only [vnvmeStorageGetDirect, h.type, storageMemoryGetDirect, hmem, passed]
  split_ifs with hout
  · rw [hout]
    exact ⟨rfl, Touches.refl st⟩
  · rw [eq_false_of_ne_true hout]
    exact ⟨rfl, rfl, rfl, rfl, rfl, id⟩

theorem storageRead_memory (os : Os) :
    (vnvmeStorageRead (st, os) offset length).1.ntSuccess = !st.outOfRange offset length ∧
      Touches st (vnvmeStorageRead (st, os) offset length).2.2.1 (passed st offset length) := by
  obtain ⟨mem, hmem⟩ := Option.isSome_iff_exists.mp h.buffer
  simp only [vnvmeStorageRead, h.type, storageMemoryRead, hmem, passed]
  split_ifs with hout
  · rw [hout]
    exact ⟨rfl, Touches.refl st⟩
  · rw [eq_false_of_ne_true hout]
    exact ⟨rfl, rfl, rfl, rfl, rfl, id⟩

theorem memoryWrite_memory (data : UInt64 → UInt8) :
    (storageMemoryWrite st offset data length).1.ntSuccess = !st.outOfRange offset length ∧
      Touches st (storageMemoryWrite st offset data length).2 (passed st offset length) := by
  obtain ⟨mem, hmem⟩ := Option.isSome_iff_exists.mp h.buffer
  simp only [storageMemoryWrite, hmem, h.writable, passed, Bool.false_eq_true, if_false]
  split_ifs with hout
  · rw [hout]
    exact ⟨rfl, Touches.refl st⟩
  · rw [eq_false_of_ne_true hout]
    exact ⟨rfl, rfl, rfl, rfl, rfl, fun _ => rfl⟩

theorem storageWrite_memory (os : Os) (data : UInt64 → UInt8) :
    (vnvmeStorageWrite (st, os) offset data length).1.ntSuccess =
        !st.outOfRange offset length ∧
      Touches st (vnvmeStorageWrite (st, os) offset data length).2.1
        (passed st offset length) := by
  simp only [vnvmeStorageWrite, h.type]
  exact memoryWrite_memory h offset length data

theorem storageWriteZeroes_memory (os : Os) :
    (vnvmeStorageWriteZeroes (st, os) offset length).1.ntSuccess =
        !st.outOfRange offset length ∧
      Touches st (vnvmeStorageWriteZeroes (st, os) offset length).2.1
        (passed st offset length) := by
  simp only [vnvmeStorageWriteZeroes, h.type, storageMemoryWriteZeroes]
  exact memoryWrite_memory h offset length _

end Memory

/-! ## The file backends -/

theorem fileWrite_touches (b : Backing) (offset : UInt64) (data : UInt64 → UInt8)
    (length : UInt32) : Touches b.1 (storageFileWrite b offset data length).2.1 [] := by
  unfold storageFileWrite
  split
  · exact Touches.refl _
  · split
    · exact Touches.refl _
    · split
      · exact Touches.refl _
      · dsimp only [Os.call]
        split
        · exact ⟨(List.append_nil _).symm, rfl, rfl, rfl, id⟩
        · exact Touches.refl _

theorem fileRead_touches (b : Backing) (offset : UInt64) (length : UInt32) :
    Touches b.1 (storageFileRead b offset length).2.2.1 [] := by
  unfold storageFileRead
  split
  · exact Touches.refl _
  · split
    · exact Touches.refl _
    · dsimp only [Os.call]
      split
      · exact ⟨(List.append_nil _).symm, rfl, rfl, rfl, id⟩
      · exact Touches.refl _

/-- Chunk by chunk: `P` describes the backend and what is left to zero, `Q` the ranges one
chunk lets through. -/
theorem zeroChunks_touchesOnly (chunkSize : UInt64)
    (write : Backing → UInt64 → UInt32 → NtStatus × Backing)
    {P : StorageContext → UInt64 → UInt64 → Prop} {Q : UInt64 × UInt32 → Prop}
    (hwrite : ∀ (b : Backing) (offset remaining : UInt64), P b.1 offset remaining →
      remaining ≠ 0 →
      TouchesOnly b.1 (write b offset (nextChunk chunkSize remaining).toUInt32).2.1 Q ∧
        P (write b offset (nextChunk chunkSize remaining).toUInt32).2.1
          (offset + nextChunk chunkSize remaining)
          (remaining - nextChunk chunkSize remaining)) :
    ∀ (fuel : Nat) (b : Backing) (offset remaining : UInt64), P b.1 offset remaining →
      TouchesOnly b.1 (zeroChunks chunkSize write fuel b offset remaining).2.1 Q := by
  intro fuel
  induction fuel with
  | zero => exact fun b _ _ _ => TouchesOnly.refl b.1 Q
  | succ fuel ih =>
      intro b offset remaining hP
      rw [zeroChunks]
      split
      · exact TouchesOnly.refl b.1 Q
      · rename_i hne
        obtain ⟨hone, hP'⟩ := hwrite b offset remaining hP hne
        dsimp only
        split
        · exact hone.trans (ih _ _ _ hP')
        · exact hone

theorem zeroThroughBuffer_touches (b : Backing) (offset : UInt64) (length : UInt32) :
    Touches b.1 (zeroThroughBuffer b offset length).2.1 [] := by
  unfold zeroThroughBuffer
  dsimp only [Os.call]
  split
  · have hwrite : ∀ (b : Backing) (offset : UInt64) (length : UInt32),
        TouchesOnly b.1 (storageFileWrite b offset (fun _ => 0) length).2.1 fun _ => False :=
      fun b offset length => (fileWrite_touches b offset _ length).touchesOnly (by simp)
    exact (zeroChunks_touchesOnly _ _ (P := fun _ _ _ => True)
      (fun b offset _ _ _ => ⟨hwrite b offset _, trivial⟩) _
      (b.1, (b.2.call .allocatePool).2) _ _ trivial).touches
  · exact Touches.refl _

theorem sparseWriteZeroes_touches (b : Backing) (offset : UInt64) (length : UInt32) :
    Touches b.1 (storageSparseWriteZeroes b offset length).2.1 [] := by
  unfold storageSparseWriteZeroes
  split
  · exact Touches.refl _
  · split
    · exact Touches.refl _
    · split
      · exact Touches.refl _
      · dsimp only [Os.call]
        split
        · exact ⟨(List.append_nil _).symm, rfl, rfl, rfl, id⟩
        · exact zeroThroughBuffer_touches (b.1, (b.2.call .fsControlFile).2) offset length

section NotMemory

variable {st : StorageContext} (h : st.type ≠ .memory) (offset : UInt64) (length : UInt32)

include h

theorem getDirect_other :
    (vnvmeStorageGetDirect st offset length).1.ntSuccess = false ∧
      Touches st (vnvmeStorageGetDirect st offset length).2 [] := by
  unfold vnvmeStorageGetDirect
  split
  · contradiction
  · exact ⟨rfl, Touches.refl st⟩

theorem storageRead_other (os : Os) :
    Touches st (vnvmeStorageRead (st, os) offset length).2.2.1 [] := by
  unfold vnvmeStorageRead
  dsimp only
  split
  · contradiction
  · exact fileRead_touches (st, os) offset length
  · exact fileRead_touches (st, os) offset length
  · exact Touches.refl st

theorem storageWrite_other (os : Os) (data : UInt64 → UInt8) :
    Touches st (vnvmeStorageWrite (st, os) offset data length).2.1 [] := by
  unfold vnvmeStorageWrite
  dsimp only
  split
  · contradiction
  · exact fileWrite_touches (st, os) offset data length
  · exact fileWrite_touches (st, os) offset data length
  · exact Touches.refl st

theorem storageWriteZeroes_other (os : Os) :
    Touches st (vnvmeStorageWriteZeroes (st, os) offset length).2.1 [] := by
  unfold vnvmeStorageWriteZeroes
  dsimp only
  split
  · contradiction
  · exact zeroThroughBuffer_touches (st, os) offset length
  · exact sparseWriteZeroes_touches (st, os) offset length
  · exact Touches.refl st

end NotMemory

/-! ## Every backend -/

/-- The range, if it is handed to the memory backend and its check lets it through. -/
def reached (st : StorageContext) (offset : UInt64) (length : UInt32) :
    List (UInt64 × UInt32) :=
  if st.type = .memory then passed st offset length else []

theorem reached_of_memory {st : StorageContext} (h : st.type = .memory) (offset : UInt64)
    (length : UInt32) : reached st offset length = passed st offset length :=
  if_pos h

theorem reached_of_not_memory {st : StorageContext} (h : st.type ≠ .memory) (offset : UInt64)
    (length : UInt32) : reached st offset length = [] :=
  if_neg h

theorem mem_reached {st : StorageContext} {offset : UInt64} {length : UInt32}
    {r : UInt64 × UInt32} (hr : r ∈ reached st offset length) : r = (offset, length) := by
  unfold reached passed at hr
  split_ifs at hr
  · cases hr
  · exact List.mem_singleton.mp hr
  · cases hr

/-- The check depends on the geometry only, which no access changes. -/
theorem Touches.reached_eq {st st' : StorageContext} {new : List (UInt64 × UInt32)}
    (ht : Touches st st' new) (offset : UInt64) (length : UInt32) :
    reached st' offset length = reached st offset length := by
  have hout : st'.outOfRange offset length = st.outOfRange offset length := by
    unfold StorageContext.outOfRange
    rw [ht.totalBytes]
  unfold reached passed
  rw [hout, ht.type]

/-- A memory backend is in use if there is one. -/
def Sound (st : StorageContext) : Prop := st.type = .memory → MemoryBacked st

theorem Sound.touches {st st' : StorageContext} {new : List (UInt64 × UInt32)} (h : Sound st)
    (ht : Touches st st' new) : Sound st' :=
  fun htype => (h (ht.type.symm.trans htype)).touches ht

section Sound

variable {st : StorageContext} (h : Sound st) (offset : UInt64) (length : UInt32)

include h

theorem getDirect_reached :
    Touches st (vnvmeStorageGetDirect st offset length).2 (reached st offset length) := by
  by_cases htype : st.type = .memory
  · rw [reached_of_memory htype]
    exact (getDirect_memory (h htype) offset length).2
  · rw [reached_of_not_memory htype]
    exact (getDirect_other htype offset length).2

/-- A range that was not handed out directly is not let through by any other call. -/
theorem reached_of_getDirect_fails
    (hf : (vnvmeStorageGetDirect st offset length).1.ntSuccess = false) :
    reached st offset length = [] := by
  by_cases htype : st.type = .memory
  · rw [reached_of_memory htype]
    have hout := (getDirect_memory (h htype) offset length).1
    rw [hf] at hout
    exact if_pos (by simpa using hout)
  · exact reached_of_not_memory htype offset length

theorem storageRead_reached (os : Os) :
    Touches st (vnvmeStorageRead (st, os) offset length).2.2.1 (reached st offset length) := by
  by_cases htype : st.type = .memory
  · rw [reached_of_memory htype]
    exact (storageRead_memory (h htype) offset length os).2
  · rw [reached_of_not_memory htype]
    exact storageRead_other htype offset length os

theorem storageWrite_reached (os : Os) (data : UInt64 → UInt8) :
    Touches st (vnvmeStorageWrite (st, os) offset data length).2.1
      (reached st offset length) := by
  by_cases htype : st.type = .memory
  · rw [reached_of_memory htype]
    exact (storageWrite_memory (h htype) offset length os data).2
  · rw [reached_of_not_memory htype]
    exact storageWrite_other htype offset length os data

theorem storageWriteZeroes_reached (os : Os) :
    Touches st (vnvmeStorageWriteZeroes (st, os) offset length).2.1
      (reached st offset length) := by
  by_cases htype : st.type = .memory
  · rw [reached_of_memory htype]
    exact (storageWriteZeroes_memory (h htype) offset length os).2
  · rw [reached_of_not_memory htype]
    exact storageWriteZeroes_other htype offset length os

end Sound

/-! ## Creation -/

/-- A storage context that has just been created: writable, and all zeroes. -/
structure FreshStorage (type : StorageType) (totalBytes : UInt64) (st : StorageContext) :
    Prop where
  buffer : type = .memory → st.memoryBuffer = some fun _ => 0
  file : type ≠ .memory → st.file = some fun _ => 0
  writable : st.readOnly = false
  type : st.type = type
  totalBytes : st.totalBytes = totalBytes

section Init

variable {b : Backing} {totalBytes : UInt64} (hro : b.1.readOnly = false)

include hro

theorem memoryInit_fresh (h : (storageMemoryInit b totalBytes).1.ntSuccess = true) :
    FreshStorage .memory totalBytes (storageMemoryInit b totalBytes).2.1 ∧
      (storageMemoryInit b totalBytes).2.2.ok = b.2.ok := by
  unfold storageMemoryInit at h ⊢
  dsimp only [Os.call] at h ⊢
  split_ifs at h ⊢
  · cases h
  · exact ⟨⟨fun _ => rfl, fun hne => absurd rfl hne, hro, rfl, rfl⟩, rfl⟩
  · cases h

theorem fileInit_fresh {path : List UInt16}
    (h : (storageFileInit b path totalBytes).1.ntSuccess = true) :
    FreshStorage .file totalBytes (storageFileInit b path totalBytes).2.1 ∧
      (storageFileInit b path totalBytes).2.2.ok = b.2.ok := by
  unfold storageFileInit at h ⊢
  dsimp only [Os.call] at h ⊢
  split_ifs at h ⊢
  · cases h
  · cases h
  · cases h
  · exact ⟨⟨(fun hmem => by cases hmem), fun _ => rfl, hro, rfl, rfl⟩, rfl⟩

theorem sparseInit_fresh {path : List UInt16}
    (h : (storageSparseInit b path totalBytes).1.ntSuccess = true) :
    FreshStorage .sparse totalBytes (storageSparseInit b path totalBytes).2.1 ∧
      (storageSparseInit b path totalBytes).2.2.ok = b.2.ok := by
  unfold storageSparseInit at h ⊢
  dsimp only [Os.call] at h ⊢
  split_ifs at h ⊢
  · cases h
  · cases h
  · cases h
  · exact ⟨⟨(fun hmem => by cases hmem), fun _ => rfl, hro, rfl, rfl⟩, rfl⟩

end Init

section Create

variable {os : Os} {type : StorageType} {totalBytes : UInt64} {blockSize : UInt32}
  {path : Option (List UInt16)} {st : StorageContext}
  (h : (vnvmeStorageCreate os type totalBytes blockSize path).2.1 = some st)

include h

/-- What `VnvmeStorageCreate` hands out; the kernel is only asked. -/
theorem storageCreate_fresh :
    FreshStorage type totalBytes st ∧
      (vnvmeStorageCreate os type totalBytes blockSize path).2.2.ok = os.ok := by
  unfold vnvmeStorageCreate at h ⊢
  dsimp only [Os.call] at h ⊢
  split at h
  · cases h
  · rename_i hok
    rw [if_neg hok]
    obtain ⟨hok, hst⟩ := Option.ite_none_right_eq_some.mp h
    rw [← Option.some.inj hst]
    cases type with
    | memory => exact memoryInit_fresh rfl hok
    | file =>
        cases path with
        | none => cases hok
        | some path => exact fileInit_fresh rfl hok
    | sparse =>
        cases path with
        | none => cases hok
        | some path => exact sparseInit_fresh rfl hok
    | none => cases hok

/-- A backend that has been created has the size that was asked for. -/
theorem storageCreate_sound : st.totalBytes = totalBytes ∧ Sound st := by
  obtain ⟨hfresh, -⟩ := storageCreate_fresh h
  refine ⟨hfresh.totalBytes, fun hmem => ⟨hmem, ?_, hfresh.writable⟩⟩
  rw [hfresh.buffer (hfresh.type.symm.trans hmem)]
  rfl

end Create

end VirtualNvme
