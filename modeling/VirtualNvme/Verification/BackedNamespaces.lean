import VirtualNvme.Verification.ReadOnlyNamespace

/-!
# The storage behind an active namespace

An active namespace is created with its storage and loses both in one step, and no command takes
the buffer or the file of a backend away. So in every table the driver can reach, a command to an
active namespace finds a backend with bytes in it, and a read or a write of them fails only at the
range check or in the file.
-/

namespace VirtualNvme

/-! ## The file of a backend -/

/-- A backend with a file still has one. -/
def KeepsFile (st st' : StorageContext) : Prop := st.file.isSome = true → st'.file.isSome = true

theorem KeepsFile.refl (st : StorageContext) : KeepsFile st st := id

theorem KeepsFile.trans {a b c : StorageContext} (h : KeepsFile a b) (h' : KeepsFile b c) :
    KeepsFile a c :=
  h' ∘ h

theorem getDirect_keepsFile (st : StorageContext) (offset : UInt64) (length : UInt32) :
    KeepsFile st (vnvmeStorageGetDirect st offset length).2 := by
  unfold vnvmeStorageGetDirect storageMemoryGetDirect
  split
  · split
    · exact KeepsFile.refl st
    · split_ifs
      · exact KeepsFile.refl st
      · exact id
  · exact KeepsFile.refl st

theorem memoryWrite_keepsFile (st : StorageContext) (offset : UInt64) (data : UInt64 → UInt8)
    (length : UInt32) : KeepsFile st (storageMemoryWrite st offset data length).2 := by
  unfold storageMemoryWrite
  split
  · exact KeepsFile.refl st
  · split_ifs
    · exact KeepsFile.refl st
    · exact KeepsFile.refl st
    · exact id

theorem fileRead_keepsFile (b : Backing) (offset : UInt64) (length : UInt32) :
    KeepsFile b.1 (storageFileRead b offset length).2.2.1 := by
  unfold storageFileRead
  split
  · exact KeepsFile.refl b.1
  · dsimp only
    split_ifs
    · exact KeepsFile.refl b.1
    · exact id
    · exact KeepsFile.refl b.1

theorem fileWrite_keepsFile (b : Backing) (offset : UInt64) (data : UInt64 → UInt8)
    (length : UInt32) : KeepsFile b.1 (storageFileWrite b offset data length).2.1 := by
  unfold storageFileWrite
  split
  · exact KeepsFile.refl b.1
  · dsimp only
    split_ifs
    · exact KeepsFile.refl b.1
    · exact KeepsFile.refl b.1
    · exact fun _ => rfl
    · exact KeepsFile.refl b.1

theorem zeroChunks_keepsFile (chunkSize : UInt64)
    (write : Backing → UInt64 → UInt32 → NtStatus × Backing)
    (hwrite : ∀ b offset length, KeepsFile b.1 (write b offset length).2.1) (fuel : Nat)
    (b : Backing) (offset remaining : UInt64) :
    KeepsFile b.1 (zeroChunks chunkSize write fuel b offset remaining).2.1 := by
  induction fuel generalizing b offset remaining with
  | zero => exact KeepsFile.refl b.1
  | succ fuel ih =>
      rw [zeroChunks]
      dsimp only
      split_ifs
      · exact KeepsFile.refl b.1
      · exact (hwrite _ _ _).trans (ih _ _ _)
      · exact hwrite _ _ _

theorem zeroThroughBuffer_keepsFile (b : Backing) (offset : UInt64) (length : UInt32) :
    KeepsFile b.1 (zeroThroughBuffer b offset length).2.1 := by
  unfold zeroThroughBuffer
  dsimp only
  split_ifs
  · have hwrite (b : Backing) (offset : UInt64) (length : UInt32) :=
      fileWrite_keepsFile b offset (fun _ => 0) length
    exact zeroChunks_keepsFile _ _ hwrite _ (b.1, (b.2.call .allocatePool).2) _ _
  · exact KeepsFile.refl b.1

theorem storageRead_keepsFile (b : Backing) (offset : UInt64) (length : UInt32) :
    KeepsFile b.1 (vnvmeStorageRead b offset length).2.2.1 := by
  unfold vnvmeStorageRead
  split
  · unfold storageMemoryRead
    split
    · exact KeepsFile.refl b.1
    · dsimp only
      split_ifs
      · exact KeepsFile.refl b.1
      · exact id
  · exact fileRead_keepsFile b offset length
  · exact fileRead_keepsFile b offset length
  · exact KeepsFile.refl b.1

theorem storageWrite_keepsFile (b : Backing) (offset : UInt64) (data : UInt64 → UInt8)
    (length : UInt32) : KeepsFile b.1 (vnvmeStorageWrite b offset data length).2.1 := by
  unfold vnvmeStorageWrite
  split
  · exact memoryWrite_keepsFile b.1 offset data length
  · exact fileWrite_keepsFile b offset data length
  · exact fileWrite_keepsFile b offset data length
  · exact KeepsFile.refl b.1

theorem storageWriteZeroes_keepsFile (b : Backing) (offset : UInt64) (length : UInt32) :
    KeepsFile b.1 (vnvmeStorageWriteZeroes b offset length).2.1 := by
  unfold vnvmeStorageWriteZeroes
  split
  · exact memoryWrite_keepsFile b.1 offset _ length
  · exact zeroThroughBuffer_keepsFile b offset length
  · unfold storageSparseWriteZeroes
    split
    · exact KeepsFile.refl b.1
    · dsimp only
      split_ifs
      · exact KeepsFile.refl b.1
      · exact KeepsFile.refl b.1
      · exact fun _ => rfl
      · exact zeroThroughBuffer_keepsFile (b.1, (b.2.call .fsControlFile).2) offset length
  · exact KeepsFile.refl b.1

/-! ## The commands -/

/-- The namespace has kept its file. -/
def Namespace.KeepsFile (ns ns' : Namespace) : Prop :=
  VirtualNvme.KeepsFile ns.backend ns'.backend

theorem Namespace.KeepsFile.of_storage {ns : Namespace} {st st' : StorageContext}
    (hst : ns.storage = some st) (h : VirtualNvme.KeepsFile st st') :
    ns.KeepsFile { ns with storage := some st' } := by
  unfold Namespace.KeepsFile
  rw [backend_eq hst]
  exact h

theorem readSource_keepsFile (ns : Namespace) (os : Os) (byteOffset totalBytes : UInt64) :
    ns.KeepsFile (readSource ns os byteOffset totalBytes).2.1 := by
  unfold readSource
  cases hst : ns.storage with
  | none =>
      dsimp only
      split_ifs <;> exact KeepsFile.refl ns.backend
  | some st =>
      have hdirect := getDirect_keepsFile st byteOffset totalBytes.toUInt32
      have hread := hdirect.trans (storageRead_keepsFile
        ((vnvmeStorageGetDirect st byteOffset totalBytes.toUInt32).2,
          (os.call .allocatePool).2) byteOffset totalBytes.toUInt32)
      dsimp only
      split_ifs
      · exact Namespace.KeepsFile.of_storage hst hdirect
      · exact Namespace.KeepsFile.of_storage hst hdirect
      · exact Namespace.KeepsFile.of_storage hst hdirect
      · exact Namespace.KeepsFile.of_storage hst hread
      · exact Namespace.KeepsFile.of_storage hst hread

theorem writeTarget_keepsFile (ns : Namespace) (os : Os) (byteOffset totalBytes : UInt64) :
    ns.KeepsFile (writeTarget ns os byteOffset totalBytes).2.1 := by
  unfold writeTarget
  cases hst : ns.storage with
  | none =>
      dsimp only
      split_ifs <;> exact KeepsFile.refl ns.backend
  | some st =>
      have hdirect := getDirect_keepsFile st byteOffset totalBytes.toUInt32
      dsimp only
      split_ifs
      · exact Namespace.KeepsFile.of_storage hst hdirect
      · exact Namespace.KeepsFile.of_storage hst hdirect
      · exact Namespace.KeepsFile.of_storage hst hdirect
      · exact Namespace.KeepsFile.of_storage hst hdirect

theorem writeData_keepsFile (ns : Namespace) (os : Os) (cmd : NvmeCommand)
    (byteOffset totalBytes : UInt64) (target : WriteTarget) :
    ns.KeepsFile (writeData ns os cmd byteOffset totalBytes target).2.1 := by
  have hrefl : ns.KeepsFile ns := KeepsFile.refl ns.backend
  unfold writeData
  cases target with
  | discard => exact hrefl
  | direct =>
      dsimp only
      split
      · exact hrefl
      · unfold Namespace.KeepsFile Namespace.backend
        dsimp only
        cases ns.storage with
        | none => exact KeepsFile.refl _
        | some st => exact KeepsFile.refl st
  | buffer =>
      dsimp only
      split
      · exact hrefl
      · cases hst : ns.storage with
        | none => exact hrefl
        | some st =>
            have hwrite (os : Os) (data : UInt64 → UInt8) :=
              Namespace.KeepsFile.of_storage hst
                (storageWrite_keepsFile (st, os) byteOffset data totalBytes.toUInt32)
            dsimp only
            split_ifs
            · exact hwrite _ _
            · exact hwrite _ _

/-- Every namespace of the table has kept its file. -/
def FilesKept (m m' : Media) : Prop := ∀ i, (m.namespaces i).KeepsFile (m'.namespaces i)

theorem FilesKept.refl (m : Media) : FilesKept m m := fun _ => KeepsFile.refl _

theorem FilesKept.replaced {m m' : Media} {nsid : UInt32} {ns ns' : Namespace}
    (hns : activeNamespace m nsid = some ns) (h : ns.KeepsFile ns')
    (heq : m'.namespaces = Function.update m.namespaces (vnvmeNsidToIndex nsid) ns') :
    FilesKept m m' := by
  obtain ⟨rfl, -⟩ := activeNamespace_eq hns
  unfold FilesKept
  rw [heq, Function.forall_update_iff m.namespaces fun i ns' => (m.namespaces i).KeepsFile ns']
  exact ⟨h, fun i _ => KeepsFile.refl _⟩

section Handlers

variable {m : Media} {os : Os} {cmd : NvmeCommand} {ns : Namespace}
  (hns : activeNamespace m cmd.nsid = some ns)

include hns

theorem handleRead_filesKept : FilesKept m (handleRead m os cmd).media := by
  unfold handleRead
  rw [hns]
  dsimp only
  have hsource := readSource_keepsFile ns os (vnvmeBlocksToBytes cmd.slba ns.blockSize)
    (vnvmeBlocksToBytes cmd.nlb.toUInt64 ns.blockSize)
  split_ifs
  · exact FilesKept.refl m
  · split
    · exact FilesKept.replaced hns hsource rfl
    · split
      · exact FilesKept.replaced hns hsource rfl
      · rw [setNamespace_setNamespace]
        refine FilesKept.replaced hns ?_ rfl
        exact hsource

theorem handleWrite_filesKept : FilesKept m (handleWrite m os cmd).media := by
  unfold handleWrite
  rw [hns]
  dsimp only
  have htarget := writeTarget_keepsFile ns os (vnvmeBlocksToBytes cmd.slba ns.blockSize)
    (vnvmeBlocksToBytes cmd.nlb.toUInt64 ns.blockSize)
  split_ifs
  · exact FilesKept.refl m
  · split
    · exact FilesKept.replaced hns htarget rfl
    · have hdata (os : Os) (byteOffset totalBytes : UInt64) (target : WriteTarget) :=
        htarget.trans (writeData_keepsFile _ os cmd byteOffset totalBytes target)
      split
      · exact FilesKept.replaced hns (hdata _ _ _ _) rfl
      · refine FilesKept.replaced hns ?_ rfl
        exact hdata _ _ _ _

theorem handleWriteZeroes_filesKept : FilesKept m (handleWriteZeroes m os cmd).media := by
  unfold handleWriteZeroes
  rw [hns]
  dsimp only
  split_ifs
  · exact FilesKept.refl m
  · cases hst : ns.storage with
    | none => exact FilesKept.refl m
    | some st =>
        have hzero := Namespace.KeepsFile.of_storage hst (zeroChunks_keepsFile
          writeZeroesChunkSize vnvmeStorageWriteZeroes storageWriteZeroes_keepsFile
          ((vnvmeBlocksToBytes cmd.nlb.toUInt64 ns.blockSize).toNat + 1) (st, os)
          (vnvmeBlocksToBytes cmd.slba ns.blockSize)
          (vnvmeBlocksToBytes cmd.nlb.toUInt64 ns.blockSize))
        dsimp only
        split_ifs
        · exact FilesKept.replaced hns hzero rfl
        · exact FilesKept.replaced hns hzero rfl

omit hns in
theorem dsmFold_keepsFile (ns : Namespace) (ranges : List NvmeDsmRange) (b : Backing) :
    KeepsFile b.1 (ranges.foldl (dsmStep ns) b).1 := by
  induction ranges generalizing b with
  | nil => exact KeepsFile.refl b.1
  | cons range ranges ih =>
      have hone : KeepsFile b.1 (dsmStep ns b range).1 := by
        unfold dsmStep
        dsimp only
        split_ifs
        · exact KeepsFile.refl b.1
        · exact KeepsFile.refl b.1
        · exact storageWriteZeroes_keepsFile b _ _
      rw [List.foldl_cons]
      exact hone.trans (ih _)

theorem handleDatasetManagement_filesKept :
    FilesKept m (handleDatasetManagement m os cmd).media := by
  unfold handleDatasetManagement
  rw [hns]
  dsimp only
  split_ifs
  · exact FilesKept.refl m
  · exact FilesKept.refl m
  · cases hst : ns.storage with
    | none => exact FilesKept.refl m
    | some st =>
        exact FilesKept.replaced hns
          (Namespace.KeepsFile.of_storage hst (dsmFold_keepsFile ns _ (st, _))) rfl

theorem handleCompare_filesKept : FilesKept m (handleCompare m os cmd).media := by
  obtain ⟨ns', hkeeps, heq⟩ : Replaces m (handleCompare m os cmd).media cmd.nsid ns.KeepsFile := by
    refine handleCompare_replaces_of hns (KeepsFile.refl _) fun st os offset length hst => ?_
    exact Namespace.KeepsFile.of_storage hst (storageRead_keepsFile (st, os) offset length)
  exact FilesKept.replaced hns hkeeps heq

end Handlers

theorem handleFlush_filesKept (m : Media) (os : Os) (cmd : NvmeCommand) :
    FilesKept m (handleFlush m os cmd).media := by
  intro i
  unfold handleFlush
  split
  · show (m.namespaces i).KeepsFile (if _ then _ else _)
    split
    · exact KeepsFile.refl _
    · exact KeepsFile.refl _
  · split
    · exact KeepsFile.refl _
    · rename_i ns hns
      refine FilesKept.replaced hns ?_ rfl i
      exact KeepsFile.refl ns.backend

theorem handleIoCommand_filesKept (m : Media) (os : Os) (cmd : NvmeCommand) :
    FilesKept m (handleIoCommand m os cmd).media := by
  unfold handleIoCommand
  cases hns : activeNamespace m cmd.nsid with
  | none =>
      split_ifs
      · rw [handleRead, hns]
        exact FilesKept.refl m
      · rw [handleWrite, hns]
        exact FilesKept.refl m
      · exact handleFlush_filesKept m os cmd
      · rw [handleWriteZeroes, hns]
        exact FilesKept.refl m
      · rw [handleDatasetManagement, hns]
        exact FilesKept.refl m
      · rw [handleCompare, hns]
        exact FilesKept.refl m
      · exact FilesKept.refl m
  | some ns =>
      split_ifs
      · exact handleRead_filesKept hns
      · exact handleWrite_filesKept hns
      · exact handleFlush_filesKept m os cmd
      · exact handleWriteZeroes_filesKept hns
      · exact handleDatasetManagement_filesKept hns
      · exact handleCompare_filesKept hns
      · exact FilesKept.refl m

/-! ## Reachable tables -/

/-- Every active namespace has a backend of some type, and that has its bytes somewhere. -/
def Backed (m : Media) : Prop :=
  ∀ i, (m.namespaces i).active = true →
    (m.namespaces i).backend.type ≠ .none ∧ (m.namespaces i).backend.store.isSome = true

theorem Backed.update {m m' : Media} (h : Backed m) {slot : Nat} {ns : Namespace}
    (hm : m'.namespaces = Function.update m.namespaces slot ns)
    (hns : ns.active = true → ns.backend.type ≠ .none ∧ ns.backend.store.isSome = true) :
    Backed m' := by
  unfold Backed
  rw [hm, Function.forall_update_iff m.namespaces fun _ ns =>
    ns.active = true → ns.backend.type ≠ .none ∧ ns.backend.store.isSome = true]
  exact ⟨hns, fun i _ => h i⟩

theorem storageCreate_backed {os : Os} {type : StorageType} {total : UInt64} {blockSize : UInt32}
    {path : Option (List UInt16)} {st : StorageContext}
    (h : (vnvmeStorageCreate os type total blockSize path).2.1 = some st) :
    st.type ≠ .none ∧ st.store.isSome = true := by
  have hfresh := (storageCreate_fresh h).1
  constructor
  · rw [hfresh.type]
    rintro rfl
    unfold vnvmeStorageCreate at h
    dsimp only [Os.call] at h
    split_ifs at h with _ hok
    cases hok
  · rw [hfresh.store]
    rfl

theorem createNamespace_backed {m : Media} (h : Backed m) (cfg : Config) (os : Os)
    (c : NamespaceConfig) : Backed (vnvmeHandleCreateNamespace cfg m os c).2.2.1 := by
  unfold vnvmeHandleCreateNamespace
  dsimp only
  split
  · exact h
  · split_ifs
    · exact h
    · split
      · exact h
      · split
        · rename_i hst
          exact h.update rfl fun _ => storageCreate_backed hst
        · exact h.update rfl fun hi => by cases hi

theorem command_backed {m : Media} (hfits : TableFits m) (h : Backed m) (os : Os)
    (cmd : NvmeCommand) : Backed (handleIoCommand m os cmd).media := by
  obtain ⟨new, ha, -⟩ := handleIoCommand_accessed hfits os cmd
  intro i hi
  rw [(ha i).active] at hi
  obtain ⟨htype, hstore⟩ := h i hi
  have hsame := (ha i).touches.type
  refine ⟨by rwa [hsame], ?_⟩
  unfold StorageContext.store at hstore ⊢
  rw [hsame]
  split_ifs at hstore ⊢
  · exact (ha i).touches.buffer hstore
  · exact handleIoCommand_filesKept m os cmd i hstore

/-- In every table that the driver can reach, an active namespace has its bytes somewhere. -/
theorem ReachableTable.backed {m : Media} (h : ReachableTable m) : Backed m := by
  induction h with
  | fresh => exact fun i hi => by cases hi
  | create cfg os c _ ih => exact createNamespace_backed ih cfg os c
  | delete nsid _ ih =>
      unfold vnvmeHandleDeleteNamespace
      dsimp only
      split
      · exact ih
      · split
        · exact ih
        · exact ih.update rfl fun hi => by cases hi
  | command os cmd hreach ih => exact command_backed hreach.fits ih os cmd
  | count _ ih => exact ih

/-! ## A backend in use by the driver -/

/-- A backend that can be written to. -/
structure StorageContext.Ready (st : StorageContext) : Prop where
  type : st.type ≠ .none
  store : st.store.isSome = true
  writable : st.readOnly = false

/-- The backend refuses the range, or its file does not `answer`. -/
def StorageContext.Refuses (st : StorageContext) (answer : Bool) (offset : UInt64)
    (length : UInt32) : Prop :=
  st.outOfRange offset length = true ∨ (st.type ≠ .memory ∧ answer = false)

section Backend

variable {st : StorageContext} (h : st.Ready) (os : Os) (offset : UInt64) (length : UInt32)

include h

/-- A pointer into the buffer, for a range inside a memory backend. -/
theorem StorageContext.Ready.getDirect :
    ((vnvmeStorageGetDirect st offset length).1.ntSuccess = true ↔
        st.type = .memory ∧ st.outOfRange offset length = false) ∧
      ((vnvmeStorageGetDirect st offset length).1.ntSuccess = false →
        (vnvmeStorageGetDirect st offset length).2 = st) := by
  unfold vnvmeStorageGetDirect
  split
  · rename_i htype
    obtain ⟨mem, hmem⟩ := Option.isSome_iff_exists.mp h.store
    rw [store_of_memory htype] at hmem
    simp only [storageMemoryGetDirect, hmem, htype, true_and]
    cases hrange : st.outOfRange offset length with
    | true => exact ⟨iff_of_false Bool.false_ne_true (by decide), fun _ => rfl⟩
    | false => exact ⟨iff_of_true rfl rfl, fun hc => by cases hc⟩
  · rename_i htype
    exact ⟨iff_of_false Bool.false_ne_true fun hc => htype hc.1, fun _ => rfl⟩

theorem StorageContext.Ready.fileWrite (htype : st.type ≠ .memory) (data : UInt64 → UInt8) :
    (storageFileWrite (st, os) offset data length).1.ntSuccess = true ↔
      ¬ st.Refuses (os.ok .writeFile os.calls) offset length := by
  obtain ⟨file, hfile⟩ := Option.isSome_iff_exists.mp h.store
  rw [store_of_file htype] at hfile
  simp only [StorageContext.Refuses, storageFileWrite, hfile, h.writable, Bool.false_eq_true,
    if_false]
  cases hrange : st.outOfRange offset length with
  | true => exact iff_of_false Bool.false_ne_true fun hc => hc (Or.inl rfl)
  | false =>
      rw [if_neg Bool.false_ne_true]
      by_cases hok : (os.call .writeFile).1 = true
      · rw [if_pos hok]
        refine iff_of_true rfl ?_
        rintro (hc | ⟨-, hc⟩)
        · cases hc
        · exact Bool.false_ne_true (hc.symm.trans hok)
      · rw [if_neg hok]
        exact iff_of_false Bool.false_ne_true fun hc =>
          hc (Or.inr ⟨htype, eq_false_of_ne_true hok⟩)

/-- A write succeeds unless it is refused. -/
theorem StorageContext.Ready.write (data : UInt64 → UInt8) :
    (vnvmeStorageWrite (st, os) offset data length).1.ntSuccess = true ↔
      ¬ st.Refuses (os.ok .writeFile os.calls) offset length := by
  unfold vnvmeStorageWrite
  split
  · rename_i htype
    have htype : st.type = .memory := htype
    obtain ⟨mem, hmem⟩ := Option.isSome_iff_exists.mp h.store
    rw [store_of_memory htype] at hmem
    simp only [StorageContext.Refuses, storageMemoryWrite, hmem, h.writable, Bool.false_eq_true,
      if_false, htype]
    cases hrange : st.outOfRange offset length with
    | true => exact iff_of_false Bool.false_ne_true fun hc => hc (Or.inl rfl)
    | false => exact iff_of_true rfl fun hc => by simp at hc
  · rename_i htype
    exact h.fileWrite os offset length (by rw [htype]; decide) data
  · rename_i htype
    exact h.fileWrite os offset length (by rw [htype]; decide) data
  · rename_i htype
    exact absurd htype h.type

/-- The read succeeds unless it is refused, and gives the bytes of the range. -/
def StorageContext.ReadsRange (st : StorageContext) (answer : Bool) (offset : UInt64)
    (length : UInt32) (r : NtStatus × (UInt64 → UInt8) × Backing) : Prop :=
  (r.1.ntSuccess = true ↔ ¬ st.Refuses answer offset length) ∧
    (r.1.ntSuccess = true → ∀ x, r.2.1 (UInt64.ofNat x) = st.bytes (offset.toNat + x))

omit h in
theorem bytes_of_offset {mem : UInt64 → UInt8} (hmem : st.store = some mem) (x : ℕ) :
    mem (offset + UInt64.ofNat x) = st.bytes (offset.toNat + x) := by
  rw [bytes_of_store hmem]
  dsimp only
  rw [UInt64.ofNat_add, UInt64.ofNat_toNat]

theorem StorageContext.Ready.fileRead (htype : st.type ≠ .memory) :
    st.ReadsRange (os.ok .readFile os.calls) offset length
      (storageFileRead (st, os) offset length) := by
  obtain ⟨file, hmem⟩ := Option.isSome_iff_exists.mp h.store
  have hfile := (store_of_file htype).symm.trans hmem
  simp only [StorageContext.ReadsRange, StorageContext.Refuses, storageFileRead, hfile]
  cases hrange : st.outOfRange offset length with
  | true =>
      exact ⟨iff_of_false Bool.false_ne_true fun hc => hc (Or.inl rfl), fun hc => by cases hc⟩
  | false =>
      rw [if_neg Bool.false_ne_true]
      by_cases hok : (os.call .readFile).1 = true
      · rw [if_pos hok]
        refine ⟨iff_of_true rfl ?_, fun _ => bytes_of_offset offset hmem⟩
        rintro (hc | ⟨-, hc⟩)
        · cases hc
        · exact Bool.false_ne_true (hc.symm.trans hok)
      · rw [if_neg hok]
        exact ⟨iff_of_false Bool.false_ne_true fun hc =>
            hc (Or.inr ⟨htype, eq_false_of_ne_true hok⟩),
          fun hc => by cases hc⟩

theorem StorageContext.Ready.read :
    st.ReadsRange (os.ok .readFile os.calls) offset length
      (vnvmeStorageRead (st, os) offset length) := by
  unfold vnvmeStorageRead
  split
  · rename_i htype
    have htype : st.type = .memory := htype
    obtain ⟨mem, hmem⟩ := Option.isSome_iff_exists.mp h.store
    have hbuffer := (store_of_memory htype).symm.trans hmem
    simp only [StorageContext.ReadsRange, StorageContext.Refuses, storageMemoryRead, hbuffer, htype]
    cases hrange : st.outOfRange offset length with
    | true =>
        exact ⟨iff_of_false Bool.false_ne_true fun hc => hc (Or.inl rfl), fun hc => by cases hc⟩
    | false =>
        exact ⟨iff_of_true rfl fun hc => by simp at hc, fun _ => bytes_of_offset offset hmem⟩
  · rename_i htype
    exact h.fileRead os offset length (by rw [htype]; decide)
  · rename_i htype
    exact h.fileRead os offset length (by rw [htype]; decide)
  · rename_i htype
    exact absurd htype h.type

end Backend

/-- In a reachable table, an active namespace has a backend that can be written to. -/
theorem ReachableTable.ready {m : Media} (h : ReachableTable m) {nsid : UInt32} {ns : Namespace}
    (hns : activeNamespace m nsid = some ns) :
    ∃ st, ns.storage = some st ∧ ns.backend = st ∧ st.Ready := by
  obtain ⟨rfl, hactive⟩ := activeNamespace_eq hns
  obtain ⟨htype, hstore⟩ := h.backed _ hactive
  cases hst : (m.namespaces (vnvmeNsidToIndex nsid)).storage with
  | none =>
      unfold Namespace.backend at htype
      rw [hst] at htype
      exact absurd rfl htype
  | some st =>
      have hwritable := h.storageWritable (vnvmeNsidToIndex nsid)
      rw [backend_eq hst] at htype hstore hwritable ⊢
      exact ⟨st, rfl, rfl, htype, hstore, hwritable⟩

end VirtualNvme
