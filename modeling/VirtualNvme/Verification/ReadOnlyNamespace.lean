import VirtualNvme.Verification.NamespaceLifecycle
import VirtualNvme.Verification.StorageOutcome

/-!
# A namespace that is created read-only

The flag of the ioctl ends up in the namespace record, where the list of namespaces shows it. It
does not reach the storage context, and no I/O handler looks at it. So the contents of such a
namespace stay as long as no command gets past the range check with something to store; Read,
Compare and Flush, commands to other namespaces and commands that are refused change nothing.
-/

namespace VirtualNvme

open Runs

/-! ## What a command stores into -/

/-- `HandleDatasetManagement` deallocates the range: it is not empty, and its check passes. -/
def NvmeDsmRange.Deallocates (ns : Namespace) (range : NvmeDsmRange) : Prop :=
  range.lengthInLogicalBlocks.toUInt64 ≠ 0 ∧
    range.startingLba + range.lengthInLogicalBlocks.toUInt64 ≤ ns.totalBlocks

instance (ns : Namespace) (range : NvmeDsmRange) : Decidable (range.Deallocates ns) :=
  inferInstanceAs (Decidable (_ ∧ _))

/-- A Write or Write Zeroes with a range that passes the check, or a list of ranges of which one
is deallocated. -/
def Request.StoresInto (ns : Namespace) (r : Request) : Prop :=
  ((r.cmd.opc = nvmeIoWrite ∨ r.cmd.opc = nvmeIoWriteZeroes) ∧
      vnvmeLbaRangeValid r.cmd.slba r.cmd.nlb.toUInt64 ns.totalBlocks = true) ∨
    (r.cmd.opc = nvmeIoDatasetManagement ∧ r.cmd.deallocate = true ∧
      (r.os.call .mapIoSpace).1 = true ∧
      ∃ i, i < r.cmd.rangeCount ∧ (dsmRange r.os.hostMem r.cmd.prp1 i).Deallocates ns)

instance (ns : Namespace) (r : Request) : Decidable (r.StoresInto ns) :=
  inferInstanceAs (Decidable (_ ∨ _))

/-! ## The storage -/

/-- The storage holds the same bytes. -/
structure SameStore (st st' : StorageContext) : Prop where
  store : st'.store = st.store
  totalBytes : st'.totalBytes = st.totalBytes

theorem getDirect_sameStore (st : StorageContext) (offset : UInt64) (length : UInt32) :
    SameStore st (vnvmeStorageGetDirect st offset length).2 := by
  unfold vnvmeStorageGetDirect
  split
  · unfold storageMemoryGetDirect
    split
    · exact ⟨rfl, rfl⟩
    · split_ifs
      · exact ⟨rfl, rfl⟩
      · exact ⟨rfl, rfl⟩
  · exact ⟨rfl, rfl⟩

theorem fileRead_sameStore (b : Backing) (offset : UInt64) (length : UInt32) :
    SameStore b.1 (storageFileRead b offset length).2.2.1 := by
  unfold storageFileRead
  split
  · exact ⟨rfl, rfl⟩
  · dsimp only [Os.call]
    split_ifs
    · exact ⟨rfl, rfl⟩
    · exact ⟨rfl, rfl⟩
    · exact ⟨rfl, rfl⟩

theorem storageRead_sameStore (b : Backing) (offset : UInt64) (length : UInt32) :
    SameStore b.1 (vnvmeStorageRead b offset length).2.2.1 := by
  unfold vnvmeStorageRead
  split
  · dsimp only
    unfold storageMemoryRead
    split
    · exact ⟨rfl, rfl⟩
    · split_ifs
      · exact ⟨rfl, rfl⟩
      · exact ⟨rfl, rfl⟩
  · exact fileRead_sameStore b offset length
  · exact fileRead_sameStore b offset length
  · exact ⟨rfl, rfl⟩

/-! ## The namespace -/

/-- The namespace is marked as before and holds the same bytes. -/
structure SameData (ns ns' : Namespace) : Prop where
  readOnly : ns'.readOnly = ns.readOnly
  totalBytes : ns'.backend.totalBytes = ns.backend.totalBytes
  bytes : ns'.backend.bytes = ns.backend.bytes

theorem SameData.refl (ns : Namespace) : SameData ns ns := ⟨rfl, rfl, rfl⟩

theorem SameData.trans {a b c : Namespace} (h : SameData a b) (h' : SameData b c) :
    SameData a c :=
  ⟨h'.readOnly.trans h.readOnly, h'.totalBytes.trans h.totalBytes, h'.bytes.trans h.bytes⟩

theorem SameData.of_store {ns : Namespace} {st st' : StorageContext} (hst : ns.storage = some st)
    (h : SameStore st st') : SameData ns { ns with storage := some st' } := by
  refine ⟨rfl, ?_, ?_⟩
  · rw [backend_eq hst]
    exact h.totalBytes
  · rw [backend_eq hst]
    unfold StorageContext.bytes
    rw [← h.store]
    rfl

theorem readSource_sameData (ns : Namespace) (os : Os) (byteOffset totalBytes : UInt64) :
    SameData ns (readSource ns os byteOffset totalBytes).2.1 := by
  unfold readSource
  cases hst : ns.storage with
  | none =>
      dsimp only
      split_ifs <;> exact SameData.refl ns
  | some st =>
      have hdirect := getDirect_sameStore st byteOffset totalBytes.toUInt32
      dsimp only
      split_ifs
      · exact SameData.of_store hst hdirect
      · exact SameData.of_store hst hdirect
      · exact SameData.of_store hst hdirect
      · have hread := storageRead_sameStore ((vnvmeStorageGetDirect st byteOffset
          totalBytes.toUInt32).2, (os.call .allocatePool).2) byteOffset totalBytes.toUInt32
        exact SameData.of_store hst
          ⟨hread.store.trans hdirect.store, hread.totalBytes.trans hdirect.totalBytes⟩
      · have hread := storageRead_sameStore ((vnvmeStorageGetDirect st byteOffset
          totalBytes.toUInt32).2, (os.call .allocatePool).2) byteOffset totalBytes.toUInt32
        exact SameData.of_store hst
          ⟨hread.store.trans hdirect.store, hread.totalBytes.trans hdirect.totalBytes⟩

/-! ## The table -/

/-- Only the namespace of the command is replaced, by one that satisfies `P`. -/
def Replaces (m m' : Media) (nsid : UInt32) (P : Namespace → Prop) : Prop :=
  ∃ ns', P ns' ∧ m'.namespaces = Function.update m.namespaces (vnvmeNsidToIndex nsid) ns'

theorem Replaces.unchanged {m m' : Media} {nsid : UInt32} {P : Namespace → Prop} {ns : Namespace}
    (hns : activeNamespace m nsid = some ns) (h : P ns) (heq : m'.namespaces = m.namespaces) :
    Replaces m m' nsid P := by
  refine ⟨ns, h, ?_⟩
  rw [heq, ← (activeNamespace_eq hns).1, Function.update_eq_self]

section Handlers

variable {m : Media} {os : Os} {cmd : NvmeCommand} {ns : Namespace}
  (hns : activeNamespace m cmd.nsid = some ns)

include hns

theorem handleRead_replaces :
    Replaces m (handleRead m os cmd).media cmd.nsid (SameData ns) := by
  unfold handleRead
  rw [hns]
  dsimp only
  split_ifs
  · exact Replaces.unchanged hns (SameData.refl ns) rfl
  · have hsource := readSource_sameData ns os (vnvmeBlocksToBytes cmd.slba ns.blockSize)
      (vnvmeBlocksToBytes cmd.nlb.toUInt64 ns.blockSize)
    split
    · exact ⟨_, hsource, rfl⟩
    · split
      · exact ⟨_, hsource, rfl⟩
      · rw [setNamespace_setNamespace]
        refine ⟨_, hsource.trans ?_, rfl⟩
        exact ⟨rfl, rfl, rfl⟩

/-- A Compare leaves its namespace, or it reads from the backend. -/
theorem handleCompare_replaces_of {P : Namespace → Prop} (hsame : P ns)
    (hread : ∀ (st : StorageContext) (os : Os) (offset : UInt64) (length : UInt32),
      ns.storage = some st →
        P { ns with storage := some (vnvmeStorageRead (st, os) offset length).2.2.1 }) :
    Replaces m (handleCompare m os cmd).media cmd.nsid P := by
  have hunchanged : Replaces m m cmd.nsid P := Replaces.unchanged hns hsame rfl
  unfold handleCompare
  rw [hns]
  dsimp only
  split
  · exact hunchanged
  split
  · exact hunchanged
  split
  · exact hunchanged
  split
  · exact hunchanged
  split
  · exact hunchanged
  · -- the transfer is there; what follows reads the backend
    cases hst : ns.storage with
    | none =>
        dsimp only
        split <;> exact hunchanged
    | some st =>
        dsimp only
        split
        · split
          · exact ⟨_, hread st _ _ _ hst, rfl⟩
          · exact ⟨_, hread st _ _ _ hst, rfl⟩
        · exact ⟨_, hread st _ _ _ hst, rfl⟩

theorem handleCompare_replaces :
    Replaces m (handleCompare m os cmd).media cmd.nsid (SameData ns) := by
  refine handleCompare_replaces_of hns (SameData.refl ns) fun st os offset length hst => ?_
  exact SameData.of_store hst (storageRead_sameStore (st, os) offset length)

/-- Whatever a Write does, it does it to its own namespace. -/
theorem handleWrite_replaces :
    Replaces m (handleWrite m os cmd).media cmd.nsid fun ns' =>
      ¬ vnvmeLbaRangeValid cmd.slba cmd.nlb.toUInt64 ns.totalBlocks = true → SameData ns ns' := by
  unfold handleWrite
  rw [hns]
  dsimp only
  by_cases hrange : vnvmeLbaRangeValid cmd.slba cmd.nlb.toUInt64 ns.totalBlocks = true
  · rw [if_neg (by rw [hrange]; decide)]
    split
    · exact ⟨_, fun hno => absurd hrange hno, rfl⟩
    · split
      · exact ⟨_, fun hno => absurd hrange hno, rfl⟩
      · exact ⟨_, fun hno => absurd hrange hno, rfl⟩
  · rw [if_pos (by simpa using hrange)]
    exact Replaces.unchanged hns (fun _ => SameData.refl ns) rfl

theorem handleWriteZeroes_replaces :
    Replaces m (handleWriteZeroes m os cmd).media cmd.nsid fun ns' =>
      ¬ vnvmeLbaRangeValid cmd.slba cmd.nlb.toUInt64 ns.totalBlocks = true → SameData ns ns' := by
  unfold handleWriteZeroes
  rw [hns]
  dsimp only
  by_cases hrange : vnvmeLbaRangeValid cmd.slba cmd.nlb.toUInt64 ns.totalBlocks = true
  · rw [if_neg (by rw [hrange]; decide)]
    split
    · exact Replaces.unchanged hns (fun _ => SameData.refl ns) rfl
    · split_ifs
      · exact ⟨_, fun hno => absurd hrange hno, rfl⟩
      · exact ⟨_, fun hno => absurd hrange hno, rfl⟩
  · rw [if_pos (by simpa using hrange)]
    exact Replaces.unchanged hns (fun _ => SameData.refl ns) rfl

end Handlers

/-- A list without a range to deallocate. -/
theorem dsmFold_skip {ns : Namespace} (b : Backing) {ranges : List NvmeDsmRange}
    (h : ∀ range ∈ ranges, ¬ range.Deallocates ns) : ranges.foldl (dsmStep ns) b = b := by
  induction ranges with
  | nil => rfl
  | cons range ranges ih =>
      have hskip : dsmStep ns b range = b := by
        unfold dsmStep
        dsimp only
        split_ifs with hzero hgt
        · rfl
        · rfl
        · exact absurd ⟨hzero, UInt64.not_lt.mp hgt⟩ (h range List.mem_cons_self)
      rw [List.foldl_cons, hskip]
      exact ih fun range' hmem => h range' (List.mem_cons_of_mem range hmem)

theorem handleDatasetManagement_replaces {m : Media} {os : Os} {cmd : NvmeCommand}
    {ns : Namespace} (hns : activeNamespace m cmd.nsid = some ns) :
    Replaces m (handleDatasetManagement m os cmd).media cmd.nsid fun ns' =>
      ¬ (cmd.deallocate = true ∧ (os.call .mapIoSpace).1 = true ∧
        ∃ i, i < cmd.rangeCount ∧ (dsmRange os.hostMem cmd.prp1 i).Deallocates ns) →
      SameData ns ns' := by
  have hsame {m' : Media} (heq : m'.namespaces = m.namespaces) {escape : Prop} :
      Replaces m m' cmd.nsid fun ns' => ¬ escape → SameData ns ns' :=
    Replaces.unchanged hns (fun _ => SameData.refl ns) heq
  unfold handleDatasetManagement
  rw [hns]
  dsimp only
  split
  · exact hsame rfl
  · rename_i hdealloc
    split
    · exact hsame rfl
    · rename_i hmapped
      cases hst : ns.storage with
      | none => exact hsame rfl
      | some st =>
          refine ⟨_, fun hno => ?_, rfl⟩
          refine SameData.of_store hst ?_
          rw [dsmFold_skip]
          · exact ⟨rfl, rfl⟩
          · intro range hmem
            obtain ⟨i, hi, rfl⟩ := List.mem_map.mp hmem
            intro hrange
            exact hno ⟨by simpa using hdealloc, by simpa using hmapped, i, List.mem_range.mp hi,
              hrange⟩

/-- A command that reaches a namespace replaces it, and only by one with other data if it stores
into it. A Flush may reach them all. -/
theorem handleIoCommand_replaces {m : Media} {r : Request} {ns : Namespace}
    (hns : activeNamespace m r.cmd.nsid = some ns) (hflush : r.cmd.opc ≠ nvmeIoFlush) :
    Replaces m (r.result m).media r.cmd.nsid fun ns' => ¬ r.StoresInto ns → SameData ns ns' := by
  have hweaken {m' : Media} {P : Prop} (hP : P → r.StoresInto ns)
      (h : Replaces m m' r.cmd.nsid fun ns' => ¬ P → SameData ns ns') :
      Replaces m m' r.cmd.nsid fun ns' => ¬ r.StoresInto ns → SameData ns ns' := by
    obtain ⟨ns', hdata, heq⟩ := h
    exact ⟨ns', fun hno => hdata fun hp => hno (hP hp), heq⟩
  have halways {m' : Media} (h : Replaces m m' r.cmd.nsid (SameData ns)) :
      Replaces m m' r.cmd.nsid fun ns' => ¬ r.StoresInto ns → SameData ns ns' := by
    obtain ⟨ns', hdata, heq⟩ := h
    exact ⟨ns', fun _ => hdata, heq⟩
  unfold Request.result handleIoCommand
  by_cases hread : r.cmd.opc = nvmeIoRead
  · rw [if_pos hread]
    exact halways (handleRead_replaces hns)
  rw [if_neg hread]
  by_cases hwrite : r.cmd.opc = nvmeIoWrite
  · rw [if_pos hwrite]
    exact hweaken (fun hrange => Or.inl ⟨Or.inl hwrite, hrange⟩) (handleWrite_replaces hns)
  rw [if_neg hwrite]
  rw [if_neg hflush]
  by_cases hzeroes : r.cmd.opc = nvmeIoWriteZeroes
  · rw [if_pos hzeroes]
    exact hweaken (fun hrange => Or.inl ⟨Or.inr hzeroes, hrange⟩)
      (handleWriteZeroes_replaces hns)
  rw [if_neg hzeroes]
  by_cases hdsm : r.cmd.opc = nvmeIoDatasetManagement
  · rw [if_pos hdsm]
    exact hweaken (fun hranges => Or.inr ⟨hdsm, hranges⟩) (handleDatasetManagement_replaces hns)
  rw [if_neg hdsm]
  by_cases hcompare : r.cmd.opc = nvmeIoCompare
  · rw [if_pos hcompare]
    exact halways (handleCompare_replaces hns)
  rw [if_neg hcompare]
  exact halways (Replaces.unchanged hns (SameData.refl ns) rfl)

/-! ## The flag -/

/-- No storage context is read-only. -/
def StorageWritable (m : Media) : Prop := ∀ i, (m.namespaces i).backend.readOnly = false

theorem StorageWritable.update {m m' : Media} (h : StorageWritable m) {slot : Nat}
    {ns : Namespace} (hm : m'.namespaces = Function.update m.namespaces slot ns)
    (hns : ns.backend.readOnly = false) : StorageWritable m' := by
  intro i
  rw [hm]
  by_cases hi : i = slot
  · subst hi
    rw [Function.update_self]
    exact hns
  · rw [Function.update_of_ne hi]
    exact h i

theorem createNamespace_writable {m : Media} (h : StorageWritable m) (cfg : Config) (os : Os)
    (c : NamespaceConfig) :
    StorageWritable (vnvmeHandleCreateNamespace cfg m os c).2.2.1 := by
  have houtcome := createNamespace_outcome cfg m os c
  generalize vnvmeHandleCreateNamespace cfg m os c = r at houtcome ⊢
  cases houtcome with
  | refused _ os => exact h
  | filled _ _ os => exact h.update rfl rfl
  | created _ _ hst os => exact h.update rfl hst.1.writable

/-- Whatever flags the namespaces are created with, no storage context is ever read-only. -/
theorem ReachableTable.storageWritable {m : Media} (h : ReachableTable m) : StorageWritable m := by
  induction h with
  | fresh => exact fun _ => rfl
  | create cfg os c _ ih => exact createNamespace_writable ih cfg os c
  | @delete m nsid _ ih =>
      unfold vnvmeHandleDeleteNamespace
      dsimp only
      split
      · exact ih
      · split
        · exact ih
        · exact ih.update rfl rfl
  | command os cmd hreach ih =>
      obtain ⟨new, ha, -⟩ := handleIoCommand_accessed hreach.fits os cmd
      exact fun i => (ha i).touches.readOnly.trans (ih i)
  | count _ ih => exact ih

/-! ## Runs -/

/-- The command does not get to store into the namespace. -/
def Spares (nsid : UInt32) (m : Media) (r : Request) : Prop :=
  r.cmd.nsid = nsid → ¬ r.StoresInto (m.namespaces (vnvmeNsidToIndex nsid))

instance (nsid : UInt32) (m : Media) (r : Request) : Decidable (Spares nsid m r) :=
  inferInstanceAs (Decidable (_ → _))

def commandStep (m : Media) (r : Request) : Media := (r.result m).media

/-- Namespace ids that are valid name different slots. -/
theorem vnvmeNsidToIndex_inj {a b : UInt32} (ha : vnvmeNsidValid a = true)
    (hb : vnvmeNsidValid b = true) (h : vnvmeNsidToIndex a = vnvmeNsidToIndex b) : a = b := by
  have hpos {x : UInt32} (hx : vnvmeNsidValid x = true) : 0 < x.toNat := by
    simp only [vnvmeNsidValid, Bool.and_eq_true, decide_eq_true_eq] at hx
    exact UInt32.lt_iff_toNat_lt.mp hx.1
  have ha := hpos ha
  have hb := hpos hb
  unfold vnvmeNsidToIndex at h
  exact UInt32.toNat_inj.mp (by omega)

theorem activeNamespace_valid {m : Media} {nsid : UInt32} {ns : Namespace}
    (h : activeNamespace m nsid = some ns) : vnvmeNsidValid nsid = true := by
  unfold activeNamespace at h
  dsimp only at h
  split at h
  · rename_i hv
    exact (Bool.and_eq_true_iff.mp hv).1
  · cases h

theorem handleFlush_sameData (m : Media) (os : Os) (cmd : NvmeCommand) (i : Nat) :
    SameData (m.namespaces i) ((handleFlush m os cmd).media.namespaces i) := by
  -- a Flush of all namespaces only counts
  have hcount (ns : Namespace) : SameData ns ns.countFlush := ⟨rfl, rfl, rfl⟩
  unfold handleFlush
  split
  · show SameData _ (if _ then _ else _)
    split
    · exact hcount _
    · exact SameData.refl _
  · split
    · exact SameData.refl _
    · rename_i ns hns
      show SameData _ (Function.update m.namespaces _ _ i)
      by_cases hi : i = vnvmeNsidToIndex cmd.nsid
      · subst hi
        rw [Function.update_self, (activeNamespace_eq hns).1]
        exact hcount ns
      · rw [Function.update_of_ne hi]
        exact SameData.refl _

/-- A command that names no active namespace. -/
theorem handleIoCommand_refused {m : Media} {r : Request}
    (hns : activeNamespace m r.cmd.nsid = none) (hflush : r.cmd.opc ≠ nvmeIoFlush) :
    (r.result m).media = m := by
  unfold Request.result handleIoCommand
  split_ifs
  · rw [handleRead, hns]
  · rw [handleWrite, hns]
  · rw [handleWriteZeroes, hns]
  · rw [handleDatasetManagement, hns]
  · rw [handleCompare, hns]
  · rfl

/-- One command. -/
theorem commandStep_sameData {m : Media} {nsid : UInt32} (hnsid : vnvmeNsidValid nsid = true)
    {r : Request} (h : Spares nsid m r) :
    SameData (m.namespaces (vnvmeNsidToIndex nsid))
      ((commandStep m r).namespaces (vnvmeNsidToIndex nsid)) := by
  unfold commandStep
  by_cases hflush : r.cmd.opc = nvmeIoFlush
  · unfold Request.result handleIoCommand
    rw [if_neg (by rw [hflush]; decide), if_neg (by rw [hflush]; decide), if_pos hflush]
    exact handleFlush_sameData m r.os r.cmd _
  cases hns : activeNamespace m r.cmd.nsid with
  | none =>
      rw [handleIoCommand_refused hns hflush]
      exact SameData.refl _
  | some ns =>
      obtain ⟨ns', hdata, heq⟩ := handleIoCommand_replaces hns hflush
      rw [heq]
      -- the slot of the command is the only one that is replaced
      by_cases hsame : vnvmeNsidToIndex nsid = vnvmeNsidToIndex r.cmd.nsid
      · have hcmd := vnvmeNsidToIndex_inj (activeNamespace_valid hns) hnsid hsame.symm
        have hspares := h hcmd
        rw [hsame, (activeNamespace_eq hns).1] at hspares ⊢
        rw [Function.update_self]
        exact hdata hspares
      · rw [Function.update_of_ne hsame]
        exact SameData.refl _

/-- The namespace is marked read-only, and its contents are those it has in `start`. -/
structure HeldReadOnly (nsid : UInt32) (start m : Media) : Prop where
  marked : (m.namespaces (vnvmeNsidToIndex nsid)).readOnly = true
  contents : ∀ x, x < (start.namespaces (vnvmeNsidToIndex nsid)).backend.totalBytes.toNat →
    (m.namespaces (vnvmeNsidToIndex nsid)).backend.bytes x =
      (start.namespaces (vnvmeNsidToIndex nsid)).backend.bytes x

/-- The id of a slot. -/
theorem slotNsid : ∀ i, i < 16 → vnvmeNsidValid (UInt32.ofNat (i + 1)) = true ∧
    vnvmeNsidToIndex (UInt32.ofNat (i + 1)) = i := by
  decide

/-- The namespace that a creation makes is marked as the request says. -/
theorem createNamespace_marks {cfg : Config} {m₀ m : Media} {os os' : Os} {c : NamespaceConfig}
    {nsid : UInt32} (h : vnvmeHandleCreateNamespace cfg m₀ os c = (.success, nsid, m, os')) :
    vnvmeNsidValid nsid = true ∧
      (m.namespaces (vnvmeNsidToIndex nsid)).readOnly = c.readOnly := by
  have houtcome := createNamespace_outcome cfg m₀ os c
  rw [h] at houtcome
  cases houtcome with
  | refused hfails os => cases hfails
  | filled _ hfails os => cases hfails
  | @created i _ _ _ hfind _ os =>
      obtain ⟨hvalid, hindex⟩ := slotNsid i (lowestFree_of_find hfind).lt
      rw [hindex]
      dsimp only
      rw [Function.update_self]
      exact ⟨hvalid, rfl⟩

/-- **Nothing is stored in a read-only namespace by commands that have nothing to store.** From
the creation of a namespace with the flag on, its contents stay the same in every run in which no
Write, Write Zeroes or deallocation for it gets past the range check. -/
theorem readOnlyNamespace_kept {cfg : Config} {m₀ m : Media} {os os' : Os} {c : NamespaceConfig}
    {nsid : UInt32} (h : vnvmeHandleCreateNamespace cfg m₀ os c = (.success, nsid, m, os'))
    (hflag : c.readOnly = true) {rs : List Request}
    (hrs : EachStep commandStep (Spares nsid) m rs) :
    Throughout commandStep (HeldReadOnly nsid m) m rs := by
  obtain ⟨hnsid, hmarked⟩ := createNamespace_marks h
  -- the mark and the bytes together are what one command keeps
  have hkeeps : Throughout commandStep (fun m' => SameData (m.namespaces (vnvmeNsidToIndex nsid))
      (m'.namespaces (vnvmeNsidToIndex nsid))) m rs := by
    refine throughout_of_eachStep (J := fun m' => SameData
      (m.namespaces (vnvmeNsidToIndex nsid)) (m'.namespaces (vnvmeNsidToIndex nsid)))
      (fun m' r hdata hspares => ?_) (SameData.refl _) hrs
    exact hdata.trans (commandStep_sameData hnsid hspares)
  intro pre post heq
  have hdata := hkeeps pre post heq
  exact ⟨hdata.readOnly.trans (hmarked.trans hflag), fun x _ => congrFun hdata.bytes x⟩

/-- A read-only namespace of eight blocks. -/
def readOnlyConfig : NamespaceConfig := { totalBlocks := 8, blockSize := 512, flags := 0x0002 }

def readOnlyTable : Media := (vnvmeHandleCreateNamespace .allQueues {} {} readOnlyConfig).2.2.1

theorem readOnlyTable_created :
    vnvmeHandleCreateNamespace .allQueues {} {} readOnlyConfig = (.success, 1, readOnlyTable,
      (vnvmeHandleCreateNamespace .allQueues {} {} readOnlyConfig).2.2.2) := rfl

/-- One block from `slba` on, with 0xAB all over host memory. -/
def oneBlock (opc : UInt8) (slba : UInt32) : Request where
  os := { hostMem := fun _ => 0xAB }
  cmd := { opc := opc, nsid := 1, prp1 := 0x100000, cdw10 := slba }

/-- A Read, and a Write past the end. -/
theorem readOnlyNamespace_kept_refusedWrite :
    Throughout commandStep (HeldReadOnly 1 readOnlyTable) readOnlyTable
      [oneBlock nvmeIoRead 0, oneBlock nvmeIoWrite 8] := by
  refine readOnlyNamespace_kept readOnlyTable_created rfl ?_
  exact eachStep_cons.mpr ⟨by decide, eachStep_cons.mpr ⟨by decide, eachStep_nil⟩⟩

/-- A Write to the first block is carried out, flag or no flag. -/
theorem readOnlyNamespace_overwritten :
    (∃ os, vnvmeHandleCreateNamespace .allQueues {} {} readOnlyConfig =
      (.success, 1, readOnlyTable, os)) ∧ readOnlyConfig.readOnly = true ∧
      ¬ Throughout commandStep (HeldReadOnly 1 readOnlyTable) readOnlyTable
        [oneBlock nvmeIoWrite 0] := by
  refine ⟨⟨_, readOnlyTable_created⟩, rfl, fun h => ?_⟩
  have hbyte := (h [oneBlock nvmeIoWrite 0] [] rfl).contents 0 (by decide)
  exact absurd hbyte (by decide)

end VirtualNvme
