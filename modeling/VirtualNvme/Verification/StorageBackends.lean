import VirtualNvme.Runs
import VirtualNvme.Verification.StorageOutcome

/-!
# Three backends for one array of bytes

The memory, file and sparse backends beside each other, with the same calls made to all three.
Memory and sparse check the range of a Write Zeroes before they begin. The file backend does not:
its chunks check their own ranges, so a range that leaves the backend is found when some of it is
already zero, and an empty range is never looked at. The backends agree in a run exactly if this
never shows and the kernel has the memory for the zeroes.
-/

namespace VirtualNvme

open Runs

/-! ## Calls -/

inductive StorageOp where
  | read
  | write (data : UInt64 → UInt8)
  | writeZeroes

/-- A call to a backend, with a range whose end does not wrap. -/
structure StorageCall where
  op : StorageOp
  offset : UInt64
  length : UInt32
  ends : offset.toNat + length.toNat < 2 ^ 64

/-- The status, the caller's buffer and the backend after the call. -/
def StorageCall.exec (c : StorageCall) (b : Backing) : NtStatus × (UInt64 → UInt8) × Backing :=
  match c.op with
  | .read => vnvmeStorageRead b c.offset c.length
  | .write data =>
    let r := vnvmeStorageWrite b c.offset data c.length
    (r.1, data, r.2)
  | .writeZeroes =>
    let r := vnvmeStorageWriteZeroes b c.offset c.length
    (r.1, fun _ => 0, r.2)

/-- The range lies in a backend of `total` bytes. -/
def StorageCall.Inside (total : UInt64) (c : StorageCall) : Prop :=
  c.offset.toNat + c.length.toNat ≤ total.toNat

instance (total : UInt64) (c : StorageCall) : Decidable (c.Inside total) :=
  inferInstanceAs (Decidable (_ ≤ _))

/-! ## A call to an array of bytes -/

/-- The contents after a call that is carried out. -/
def StorageCall.update (c : StorageCall) (ref : Nat → UInt8) : Nat → UInt8 :=
  match c.op with
  | .read => ref
  | .write data => splice ref c.offset.toNat c.length.toNat fun i => data (UInt64.ofNat i)
  | .writeZeroes => splice ref c.offset.toNat c.length.toNat fun _ => 0

/-- The caller's buffer after a call that is carried out. -/
def StorageCall.buffer (c : StorageCall) (ref : Nat → UInt8) : Nat → UInt8 :=
  match c.op with
  | .read => fun i => ref (c.offset.toNat + i)
  | .write data => fun i => data (UInt64.ofNat i)
  | .writeZeroes => fun _ => 0

/-- The backend answers the call as an array of `total` bytes does. -/
structure Serves (type : StorageType) (total : UInt64) (c : StorageCall) (b : Backing) : Prop where
  leaves : Leaves type total ((c.exec b).1, (c.exec b).2.2) (c.Inside total)
    (if c.Inside total then c.update b.1.bytes else b.1.bytes)
  data : c.Inside total → ∀ i, i < c.length.toNat →
    (c.exec b).2.1 (UInt64.ofNat i) = c.buffer b.1.bytes i

section Reads

variable {type : StorageType} {total : UInt64} {b : Backing} {offset : UInt64} {length : UInt32}
  (hends : offset.toNat + length.toNat < 2 ^ 64)

include hends

/-- A read behind the range check, which only counts. -/
theorem Serves.read {b' : Backing} {mem : UInt64 → UInt8} (h : InUse type total b)
    (hmem : b.1.store = some mem)
    (hexec : (StorageCall.mk .read offset length hends).exec b =
      if b.1.outOfRange offset length then (.invalidParameter, fun _ => 0, b)
      else (.success, fun i => mem (offset + i), b'))
    (hkeep : b'.1.store = b.1.store ∧ b'.1.type = b.1.type ∧ b'.1.totalBytes = b.1.totalBytes ∧
      b'.1.readOnly = b.1.readOnly ∧ b'.2.ok = b.2.ok) :
    Serves type total ⟨.read, offset, length, hends⟩ b := by
  obtain ⟨hstore, htype, htotal, hwritable, hok⟩ := hkeep
  by_cases hin : (StorageCall.mk .read offset length hends).Inside total
  · rw [if_neg fun hcheck => (h.outOfRange_iff hends).mp hcheck hin] at hexec
    constructor
    · rw [hexec, if_pos hin]
      refine ⟨h.keep htype htotal hwritable (by rw [hstore]; exact h.store) hok,
        iff_of_true rfl hin, fun x _ => ?_⟩
      exact (congrFun (bytes_of_store (hstore.trans hmem)) x).trans
        (congrFun (bytes_of_store hmem) x).symm
    · intro _ i _
      rw [hexec, StorageCall.buffer, bytes_of_store hmem]
      dsimp only
      rw [UInt64.ofNat_add, UInt64.ofNat_toNat]
  · rw [if_pos ((h.outOfRange_iff hends).mpr hin)] at hexec
    constructor
    · rw [hexec, if_neg hin]
      exact Leaves.refused h rfl hin
    · exact fun hinside => absurd hinside hin

theorem memoryRead_serves (h : InUse .memory total b) :
    Serves .memory total ⟨.read, offset, length, hends⟩ b := by
  obtain ⟨mem, hmem⟩ := Option.isSome_iff_exists.mp h.store
  have hbuffer := (store_of_memory h.type).symm.trans hmem
  have hexec : (StorageCall.mk .read offset length hends).exec b =
      if b.1.outOfRange offset length then (.invalidParameter, fun _ => 0, b)
      else (.success, fun i => mem (offset + i),
        (b.1.touch offset length).countRead length, b.2) := by
    simp only [StorageCall.exec, vnvmeStorageRead, h.type, storageMemoryRead, hbuffer]
    split_ifs <;> rfl
  exact Serves.read hends h hmem hexec ⟨rfl, rfl, rfl, rfl, rfl⟩

theorem fileRead_serves (hfile : type = .file ∨ type = .sparse) (h : InUse type total b) :
    Serves type total ⟨.read, offset, length, hends⟩ b := by
  obtain ⟨mem, hmem⟩ := Option.isSome_iff_exists.mp h.store
  have htype : b.1.type ≠ .memory := by
    rw [h.type]
    rcases hfile with rfl | rfl <;> decide
  have hbuffer := (store_of_file htype).symm.trans hmem
  have hexec : (StorageCall.mk .read offset length hends).exec b =
      if b.1.outOfRange offset length then (.invalidParameter, fun _ => 0, b)
      else (.success, fun i => mem (offset + i), b.1.countRead length,
        (b.2.call .readFile).2) := by
    have hread : (StorageCall.mk .read offset length hends).exec b =
        storageFileRead b offset length := by
      rcases hfile with rfl | rfl
      · simp only [StorageCall.exec, vnvmeStorageRead, h.type]
      · simp only [StorageCall.exec, vnvmeStorageRead, h.type, storageSparseRead]
    rw [hread]
    simp only [storageFileRead, hbuffer, Os.call, h.reads, if_true]
  exact Serves.read hends h hmem hexec ⟨rfl, rfl, rfl, rfl, rfl⟩

end Reads

/-- The memory backend is an array of bytes. -/
theorem memory_serves {total : UInt64} {b : Backing} (h : InUse .memory total b)
    (c : StorageCall) : Serves .memory total c b := by
  obtain ⟨op, offset, length, hends⟩ := c
  cases op with
  | read => exact memoryRead_serves hends h
  | write data =>
      constructor
      · simp only [StorageCall.exec, vnvmeStorageWrite, h.type]
        exact memoryWrite_leaves hends data h
      · exact fun _ _ _ => rfl
  | writeZeroes =>
      constructor
      · simp only [StorageCall.exec, vnvmeStorageWriteZeroes, h.type, storageMemoryWriteZeroes]
        exact memoryWrite_leaves hends _ h
      · exact fun _ _ _ => rfl

/-- The file backends are arrays of bytes as far as Read and Write go. -/
theorem file_serves {type : StorageType} {total : UInt64} {b : Backing}
    (hfile : type = .file ∨ type = .sparse) (h : InUse type total b) {c : StorageCall}
    (hop : c.op ≠ .writeZeroes) : Serves type total c b := by
  obtain ⟨op, offset, length, hends⟩ := c
  have hne : type ≠ .memory := by
    rcases hfile with rfl | rfl <;> decide
  cases op with
  | read => exact fileRead_serves hends hfile h
  | write data =>
      have hexec : vnvmeStorageWrite b offset data length =
          storageFileWrite b offset data length := by
        rcases hfile with rfl | rfl
        · simp only [vnvmeStorageWrite, h.type]
        · simp only [vnvmeStorageWrite, h.type, storageSparseWrite]
      constructor
      · simp only [StorageCall.exec, hexec]
        exact fileWrite_leaves hends data hne h
      · exact fun _ _ _ => rfl
  | writeZeroes => exact absurd rfl hop

/-! ## Three backends -/

/-- The same calls go to all three. -/
structure Backends where
  memory : Backing
  file : Backing
  sparse : Backing

def backendsStep (s : Backends) (c : StorageCall) : Backends where
  memory := (c.exec s.memory).2.2
  file := (c.exec s.file).2.2
  sparse := (c.exec s.sparse).2.2

/-- The backends have the same size and hold the same bytes. -/
structure Alike (total : UInt64) (s : Backends) : Prop where
  memory : InUse .memory total s.memory
  file : InUse .file total s.file
  sparse : InUse .sparse total s.sparse
  sameFile : ∀ x, x < total.toNat → s.memory.1.bytes x = s.file.1.bytes x
  sameSparse : ∀ x, x < total.toNat → s.memory.1.bytes x = s.sparse.1.bytes x

/-- Both succeed or both fail, with the same bytes in the caller's buffer and in the backend. -/
structure SameOutcome (total : UInt64) (c : StorageCall) (b b' : Backing) : Prop where
  status : (c.exec b).1.ntSuccess = (c.exec b').1.ntSuccess
  data : (c.exec b).1.ntSuccess = true → ∀ i, i < c.length.toNat →
    (c.exec b).2.1 (UInt64.ofNat i) = (c.exec b').2.1 (UInt64.ofNat i)
  contents : ∀ x, x < total.toNat → (c.exec b).2.2.1.bytes x = (c.exec b').2.2.1.bytes x

/-- The call fails and changes nothing. -/
structure Refuses (total : UInt64) (c : StorageCall) (b : Backing) : Prop where
  fails : (c.exec b).1.ntSuccess = false
  contents : ∀ x, x < total.toNat → (c.exec b).2.2.1.bytes x = b.1.bytes x

/-- The three backends do the same, and they all refuse a range that leaves them. -/
structure Agrees (total : UInt64) (s : Backends) (c : StorageCall) : Prop where
  file : SameOutcome total c s.memory s.file
  sparse : SameOutcome total c s.memory s.sparse
  refused : ¬ c.Inside total →
    Refuses total c s.memory ∧ Refuses total c s.file ∧ Refuses total c s.sparse

/-- Inside the backends, a Write Zeroes finds the memory it needs. Outside, the file backend fails
before its first chunk, or the range is not empty and every chunk that lies in the backend is
zero already. -/
def ZeroesAgree (total : UInt64) (s : Backends) (c : StorageCall) : Prop :=
  c.op = .writeZeroes →
    if c.Inside total then (s.file.2.call .allocatePool).1 = true ∧ ZeroesSparse s.sparse.2
    else (s.file.2.call .allocatePool).1 = true →
      c.length ≠ 0 ∧ ∀ x, ChunkInside total.toNat c.offset.toNat c.length.toNat x →
        s.file.1.bytes x = 0

section Serves

variable {type type' : StorageType} {total : UInt64} {c : StorageCall} {b b' : Backing}

theorem chunkInside_lt {total offset length x : Nat} (h : ChunkInside total offset length x) :
    x < total := by
  obtain ⟨⟨hge, hlt⟩, hle⟩ := h
  omega

theorem Serves.sameOutcome (h : Serves type total c b) (h' : Serves type' total c b')
    (heq : ∀ x, x < total.toNat → b.1.bytes x = b'.1.bytes x) : SameOutcome total c b b' := by
  have hlt (x : Nat) (hx : x < total.toNat) : x < 2 ^ 64 := Nat.lt_trans hx total.toNat_lt
  refine ⟨?_, fun hok i hi => ?_, fun x hx => ?_⟩
  · exact Bool.eq_iff_iff.mpr (h.leaves.status.trans h'.leaves.status.symm)
  · have hin := h.leaves.status.mp hok
    rw [h.data hin i hi, h'.data hin i hi]
    unfold StorageCall.buffer
    cases c.op with
    -- only a read hands out bytes of the backend, and its range lies inside
    | read => exact heq _ (Nat.lt_of_lt_of_le (Nat.add_lt_add_left hi _) hin)
    | write data => rfl
    | writeZeroes => rfl
  · rw [h.leaves.contents x (hlt x hx), h'.leaves.contents x (hlt x hx)]
    by_cases hin : c.Inside total
    · rw [if_pos hin, if_pos hin]
      unfold StorageCall.update
      cases c.op with
      | read => exact heq x hx
      | write data => exact splice_apply (heq x hx) _ _ _
      | writeZeroes => exact splice_apply (heq x hx) _ _ _
    · rw [if_neg hin, if_neg hin]
      exact heq x hx

theorem Serves.refuses (h : Serves type total c b) (hin : ¬ c.Inside total) :
    Refuses total c b := by
  refine ⟨eq_false_of_ne_true fun hok => hin (h.leaves.status.mp hok), fun x hx => ?_⟩
  rw [h.leaves.contents x (Nat.lt_trans hx total.toNat_lt), if_neg hin]

end Serves

section Alike

variable {total : UInt64} {s : Backends} (h : Alike total s) {c : StorageCall}

include h

theorem Alike.agrees (hfile : Serves .file total c s.file)
    (hsparse : Serves .sparse total c s.sparse) : Agrees total s c where
  file := (memory_serves h.memory c).sameOutcome hfile h.sameFile
  sparse := (memory_serves h.memory c).sameOutcome hsparse h.sameSparse
  refused hin := ⟨(memory_serves h.memory c).refuses hin, hfile.refuses hin, hsparse.refuses hin⟩

theorem Alike.file_zeroes (hop : c.op = .writeZeroes) :
    Leaves .file total ((c.exec s.file).1, (c.exec s.file).2.2)
      ((s.file.2.call .allocatePool).1 = true ∧ (c.length = 0 ∨ c.Inside total))
      (fun x => if (s.file.2.call .allocatePool).1 = true ∧
          ChunkInside total.toNat c.offset.toNat c.length.toNat x then 0
        else s.file.1.bytes x) := by
  have hexec : ((c.exec s.file).1, (c.exec s.file).2.2) =
      zeroThroughBuffer s.file c.offset c.length := by
    simp only [StorageCall.exec, hop, vnvmeStorageWriteZeroes, h.file.type]
  rw [hexec]
  exact zeroThroughBuffer_leaves (by decide) h.file c.ends

theorem Alike.sparse_zeroes (hop : c.op = .writeZeroes) :
    Leaves .sparse total ((c.exec s.sparse).1, (c.exec s.sparse).2.2)
      (c.Inside total ∧ ZeroesSparse s.sparse.2)
      (if c.Inside total ∧ ZeroesSparse s.sparse.2 then c.update s.sparse.1.bytes
        else s.sparse.1.bytes) := by
  have hexec : ((c.exec s.sparse).1, (c.exec s.sparse).2.2) =
      storageSparseWriteZeroes s.sparse c.offset c.length := by
    simp only [StorageCall.exec, hop, vnvmeStorageWriteZeroes, h.sparse.type]
  have hupdate : c.update s.sparse.1.bytes =
      splice s.sparse.1.bytes c.offset.toNat c.length.toNat fun _ => 0 := by
    simp only [StorageCall.update, hop]
  rw [hexec, hupdate]
  exact sparseWriteZeroes_leaves (by decide) h.sparse c.ends

/-- Zeroes that find what they need. -/
theorem Alike.file_serves (hop : c.op = .writeZeroes) (hz : ZeroesAgree total s c) :
    Serves .file total c s.file := by
  have hcond := hz hop
  refine ⟨(h.file_zeroes hop).congr ?_ fun x => ?_, fun _ i _ => ?_⟩
  · by_cases hin : c.Inside total
    · rw [if_pos hin] at hcond
      exact iff_of_true ⟨hcond.1, Or.inr hin⟩ hin
    · rw [if_neg hin] at hcond
      refine iff_of_false ?_ hin
      rintro ⟨hok, hzero | hinside⟩
      · exact (hcond hok).1 hzero
      · exact hin hinside
  · by_cases hin : c.Inside total
    · rw [if_pos hin] at hcond ⊢
      simp only [hcond.1, true_and, chunkInside_of_inside hin, StorageCall.update, hop]
      rfl
    · rw [if_neg hin] at hcond ⊢
      split_ifs with hchunk
      · exact ((hcond hchunk.1).2 x hchunk.2).symm
      · rfl
  · simp only [StorageCall.exec, StorageCall.buffer, hop]

theorem Alike.sparse_serves (hop : c.op = .writeZeroes) (hz : ZeroesAgree total s c) :
    Serves .sparse total c s.sparse := by
  have hcond := hz hop
  have hboth : c.Inside total ∧ ZeroesSparse s.sparse.2 ↔ c.Inside total := by
    refine and_iff_left_of_imp fun hin => ?_
    rw [if_pos hin] at hcond
    exact hcond.2
  refine ⟨(h.sparse_zeroes hop).congr hboth fun x => ?_, fun _ i _ => ?_⟩
  · simp only [hboth]
  · simp only [StorageCall.exec, StorageCall.buffer, hop]

/-- A call that does not run into the gap of the file backend. -/
theorem Alike.serves (hz : ZeroesAgree total s c) :
    Serves .file total c s.file ∧ Serves .sparse total c s.sparse := by
  by_cases hop : c.op = .writeZeroes
  · exact ⟨h.file_serves hop hz, h.sparse_serves hop hz⟩
  · exact ⟨VirtualNvme.file_serves (Or.inl rfl) h.file hop,
      VirtualNvme.file_serves (Or.inr rfl) h.sparse hop⟩

theorem Alike.agrees_iff : Agrees total s c ↔ ZeroesAgree total s c := by
  constructor
  · intro hagrees hop
    -- the memory backend has the outcome of an array; the file backend has to have it too
    have hfile := h.file_zeroes hop
    have hmemory := (memory_serves h.memory c).leaves.status
    split_ifs with hin
    · have hok := hmemory.mpr hin
      constructor
      · exact (hfile.status.mp (hagrees.file.status.symm.trans hok)).1
      · exact ((h.sparse_zeroes hop).status.mp (hagrees.sparse.status.symm.trans hok)).2
    · intro hok
      obtain ⟨-, hrefused, -⟩ := hagrees.refused hin
      -- an empty range succeeds on the file backend, and a chunk that lies inside becomes zero
      refine ⟨fun hzero => ?_, fun x hx => ?_⟩
      · have hsuccess := hfile.status.mpr ⟨hok, Or.inl hzero⟩
        rw [hrefused.fails] at hsuccess
        cases hsuccess
      · have hlt := chunkInside_lt hx
        rw [← hrefused.contents x hlt, hfile.contents x (Nat.lt_trans hlt total.toNat_lt),
          if_pos ⟨hok, hx⟩]
  · intro hz
    exact h.agrees (h.serves hz).1 (h.serves hz).2

/-- Where a call does the same to all three backends, they stay alike. -/
theorem Alike.step (hagrees : Agrees total s c) : Alike total (backendsStep s c) := by
  obtain ⟨hfile, hsparse⟩ := h.serves (h.agrees_iff.mp hagrees)
  exact ⟨(memory_serves h.memory c).leaves.inUse, hfile.leaves.inUse, hsparse.leaves.inUse,
    hagrees.file.contents, hagrees.sparse.contents⟩

end Alike

/-! ## Created backends -/

/-- A backend that has been created is in use and holds zeroes. -/
theorem storageCreate_inUse {os : Os} {type : StorageType} {total : UInt64} {blockSize : UInt32}
    {path : Option (List UInt16)} {st : StorageContext} (hreads : ∀ n, os.ok .readFile n = true)
    (hwrites : ∀ n, os.ok .writeFile n = true)
    (h : (vnvmeStorageCreate os type total blockSize path).2.1 = some st) :
    InUse type total (st, (vnvmeStorageCreate os type total blockSize path).2.2) ∧
      st.bytes = fun _ => 0 := by
  obtain ⟨hfresh, hok⟩ := storageCreate_fresh h
  refine ⟨⟨hfresh.type, hfresh.totalBytes, hfresh.writable, ?_, fun n => ?_, fun n => ?_⟩,
    bytes_of_store hfresh.store⟩
  · rw [hfresh.store]
    rfl
  · rw [hok]
    exact hreads n
  · rw [hok]
    exact hwrites n

/-- A backend of 129 blocks of 512 bytes. -/
def createdBackend (type : StorageType) : Backing :=
  let r := vnvmeStorageCreate {} type 66048 512 (some [])
  (r.2.1.getD {}, r.2.2)

def createdBackends : Backends :=
  ⟨createdBackend .memory, createdBackend .file, createdBackend .sparse⟩

theorem createdBackends_alike : Alike 66048 createdBackends := by
  have hcreated {type : StorageType}
      (h : (vnvmeStorageCreate {} type 66048 512 (some [])).2.1.isSome = true) :
      InUse type 66048 (createdBackend type) ∧ (createdBackend type).1.bytes = fun _ => 0 := by
    obtain ⟨st, hst⟩ := Option.isSome_iff_exists.mp h
    have hinUse := storageCreate_inUse (fun _ => rfl) (fun _ => rfl) hst
    unfold createdBackend
    dsimp only
    rw [hst]
    exact hinUse
  obtain ⟨hmemory, hzero⟩ := hcreated (by decide : (vnvmeStorageCreate {} .memory 66048 512
    (some [])).2.1.isSome = true)
  obtain ⟨hfile, hzero'⟩ := hcreated (by decide : (vnvmeStorageCreate {} .file 66048 512
    (some [])).2.1.isSome = true)
  obtain ⟨hsparse, hzero''⟩ := hcreated (by decide : (vnvmeStorageCreate {} .sparse 66048 512
    (some [])).2.1.isSome = true)
  exact ⟨hmemory, hfile, hsparse, fun x _ => congrFun (hzero.trans hzero'.symm) x,
    fun x _ => congrFun (hzero.trans hzero''.symm) x⟩

/-- Write the first block. -/
def writeBlock : StorageCall := ⟨.write fun _ => 0xAB, 0, 512, by decide⟩

/-- Zero 128 KB, twice as much as the backends have. -/
def zeroPastEnd : StorageCall := ⟨.writeZeroes, 0, 131072, by decide⟩

/-! ## Runs -/

/-- **Three implementations of one array.** From backends of equal size with equal contents, the
calls of a run have the same outcome on all three, and those out of range change nothing, exactly
if every Write Zeroes finds the memory it needs and none leaves the backends in a way the file
backend does not notice in time. -/
theorem storageBackends_agree_iff {total : UInt64} {s : Backends} (h : Alike total s)
    (cs : List StorageCall) :
    EachStep backendsStep (Agrees total) s cs ↔ EachStep backendsStep (ZeroesAgree total) s cs :=
  eachStep_iff (fun _ _ h hagrees => h.step hagrees) (fun _ _ h => h.agrees_iff) h cs

theorem storageBackends_agree_iff_created :
    EachStep backendsStep (Agrees 66048) createdBackends [writeBlock, zeroPastEnd] ↔
      EachStep backendsStep (ZeroesAgree 66048) createdBackends [writeBlock, zeroPastEnd] :=
  storageBackends_agree_iff createdBackends_alike _

/-- All three fail. By then the file backend has zeroed the block that the others keep. -/
theorem zeroes_past_end_disagree :
    ¬ EachStep backendsStep (Agrees 66048) createdBackends [writeBlock, zeroPastEnd] := by
  intro h
  obtain ⟨hwrite, hzeroes⟩ := eachStep_cons.mp h
  have hagrees := (eachStep_cons.mp hzeroes).1
  have hcond := (createdBackends_alike.step hwrite).agrees_iff.mp hagrees rfl
  rw [if_neg (by decide)] at hcond
  have hzero := (hcond rfl).2 0 (by decide)
  exact absurd hzero (by decide)

end VirtualNvme
