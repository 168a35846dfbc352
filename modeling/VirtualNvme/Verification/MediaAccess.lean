import VirtualNvme.Verification.MediaBounds

/-!
# What the I/O commands let through

Every I/O handler against the two range checks: `Accessed` follows a namespace through a
handler, and for each opcode there is an exact condition under which a range outside the
media is let through. The reachable namespace tables are those the two namespace ioctls
and the I/O commands build; their active namespaces all fit their storage.
-/

namespace VirtualNvme

/-! ## Access by a command -/

/-- `ns'` is `ns` after its backend has let `new` through. -/
structure Accessed (ns ns' : Namespace) (new : List (UInt64 × UInt32)) : Prop where
  active : ns'.active = ns.active
  blockSize : ns'.blockSize = ns.blockSize
  totalBlocks : ns'.totalBlocks = ns.totalBlocks
  touches : Touches ns.backend ns'.backend new

theorem Accessed.refl (ns : Namespace) : Accessed ns ns [] :=
  ⟨rfl, rfl, rfl, Touches.refl _⟩

theorem Accessed.trans {a b c : Namespace} {new new' : List (UInt64 × UInt32)}
    (h : Accessed a b new) (h' : Accessed b c new') : Accessed a c (new ++ new') :=
  ⟨h'.active.trans h.active, h'.blockSize.trans h.blockSize,
    h'.totalBlocks.trans h.totalBlocks, h.touches.trans h'.touches⟩

/-- Only the backend has moved. -/
theorem Accessed.of_storage {ns : Namespace} {st st' : StorageContext}
    {new : List (UInt64 × UInt32)} (hst : ns.storage = some st) (h : Touches st st' new) :
    Accessed ns { ns with storage := some st' } new := by
  refine ⟨rfl, rfl, rfl, ?_⟩
  unfold Namespace.backend
  rw [hst]
  exact h

theorem Namespace.Fits.accessed {ns ns' : Namespace} {new : List (UInt64 × UInt32)}
    (h : ns.Fits) (ha : Accessed ns ns' new) : ns'.Fits where
  blockSize := by
    rw [ha.blockSize]
    exact h.blockSize
  totalBytes := by
    rw [ha.touches.totalBytes, ha.blockSize, ha.totalBlocks]
    exact h.totalBytes
  capacity := by
    rw [ha.touches.totalBytes]
    exact h.capacity
  sound := h.sound.touches ha.touches

theorem backend_eq {ns : Namespace} {st : StorageContext} (h : ns.storage = some st) :
    ns.backend = st := by
  unfold Namespace.backend
  rw [h]
  rfl

/-- Every namespace of the table has been accessed as `new` says. -/
def MediaAccessed (m m' : Media) (new : Nat → List (UInt64 × UInt32)) : Prop :=
  ∀ i, Accessed (m.namespaces i) (m'.namespaces i) (new i)

/-- The ranges `new` in namespace `i` and nothing elsewhere. -/
def atSlot (i : Nat) (new : List (UInt64 × UInt32)) : Nat → List (UInt64 × UInt32) :=
  Function.update (fun _ => []) i new

theorem activeNamespace_eq {m : Media} {nsid : UInt32} {ns : Namespace}
    (h : activeNamespace m nsid = some ns) :
    m.namespaces (vnvmeNsidToIndex nsid) = ns ∧ ns.active = true := by
  unfold activeNamespace at h
  dsimp only at h
  split at h
  · rename_i hv
    have hns := Option.some.inj h
    refine ⟨hns, ?_⟩
    rw [← hns]
    exact (Bool.and_eq_true_iff.mp hv).2
  · cases h

theorem MediaAccessed.refl (m : Media) (i : Nat) : MediaAccessed m m (atSlot i []) := by
  intro j
  rw [atSlot, Function.update_eq_self i (fun _ => ([] : List (UInt64 × UInt32)))]
  exact Accessed.refl _

theorem setNamespace_accessed {m : Media} {nsid : UInt32} {ns ns' : Namespace}
    {new : List (UInt64 × UInt32)} (hns : activeNamespace m nsid = some ns)
    (h : Accessed ns ns' new) :
    MediaAccessed m (m.setNamespace nsid ns') (atSlot (vnvmeNsidToIndex nsid) new) := by
  intro j
  by_cases hj : j = vnvmeNsidToIndex nsid
  · subst hj
    simp only [Media.setNamespace, atSlot, Function.update_self, (activeNamespace_eq hns).1]
    exact h
  · simp only [Media.setNamespace, atSlot, Function.update_of_ne hj]
    exact Accessed.refl _

theorem setNamespace_setNamespace (m : Media) (nsid : UInt32) (a b : Namespace) :
    (m.setNamespace nsid a).setNamespace nsid b = m.setNamespace nsid b := by
  unfold Media.setNamespace
  rw [Function.update_idem]

/-! ## Read and Write -/

theorem not_wraps_of_no_storage {ns : Namespace} (h : ns.storage = none) {slba nlb : UInt64} :
    ¬ wraps ns slba nlb := by
  rintro ⟨htype, -⟩
  unfold Namespace.backend at htype
  rw [h] at htype
  cases htype

theorem reached_of_no_storage {ns : Namespace} (h : ns.storage = none) (offset : UInt64)
    (length : UInt32) : reached ns.backend offset length = [] := by
  refine reached_of_not_memory ?_ offset length
  unfold Namespace.backend
  rw [h]
  decide

section ReadWrite

variable {ns : Namespace} (h : Sound ns.backend) (os : Os) (byteOffset totalBytes : UInt64)

include h

theorem readSource_accessed :
    Accessed ns (readSource ns os byteOffset totalBytes).2.1
      (reached ns.backend byteOffset totalBytes.toUInt32) := by
  unfold readSource
  cases hst : ns.storage with
  | none =>
      rw [reached_of_no_storage hst]
      dsimp only [Os.call]
      split <;> exact Accessed.refl ns
  | some st =>
      rw [backend_eq hst] at h ⊢
      have hdirect := getDirect_reached h byteOffset totalBytes.toUInt32
      dsimp only [Os.call]
      split
      · exact Accessed.of_storage hst hdirect
      · rename_i hfail
        split
        · exact Accessed.of_storage hst hdirect
        · split
          · exact Accessed.of_storage hst hdirect
          · -- the buffered read asks the same check again, and it has just failed
            have hnone := reached_of_getDirect_fails h byteOffset totalBytes.toUInt32
              (eq_false_of_ne_true hfail)
            have hread := storageRead_reached (h.touches hdirect) byteOffset
              totalBytes.toUInt32 { os with calls := os.calls + 1 }
            rw [hdirect.reached_eq] at hread
            have hboth := hdirect.trans hread
            rw [hnone] at hboth ⊢
            split <;> exact Accessed.of_storage hst hboth

theorem writeTarget_accessed :
    Accessed ns (writeTarget ns os byteOffset totalBytes).2.1
        (reached ns.backend byteOffset totalBytes.toUInt32) ∧
      ((writeTarget ns os byteOffset totalBytes).1 = .ok .buffer →
        reached ns.backend byteOffset totalBytes.toUInt32 = []) := by
  unfold writeTarget
  cases hst : ns.storage with
  | none =>
      rw [reached_of_no_storage hst]
      dsimp only [Os.call]
      split
      · exact ⟨Accessed.refl ns, fun _ => rfl⟩
      · exact ⟨Accessed.refl ns, fun _ => rfl⟩
  | some st =>
      rw [backend_eq hst] at h ⊢
      have hdirect := getDirect_reached h byteOffset totalBytes.toUInt32
      dsimp only [Os.call]
      split
      · exact ⟨Accessed.of_storage hst hdirect, fun hb => by cases hb⟩
      · rename_i hfail
        have hnone := reached_of_getDirect_fails h byteOffset totalBytes.toUInt32
          (eq_false_of_ne_true hfail)
        split
        · exact ⟨Accessed.of_storage hst hdirect, fun _ => hnone⟩
        · split <;> exact ⟨Accessed.of_storage hst hdirect, fun _ => hnone⟩

theorem writeData_accessed (cmd : NvmeCommand) (target : WriteTarget)
    (hnone : target = .buffer → reached ns.backend byteOffset totalBytes.toUInt32 = []) :
    Accessed ns (writeData ns os cmd byteOffset totalBytes target).2.1 [] := by
  unfold writeData
  cases target with
  | discard => exact Accessed.refl ns
  | direct =>
      dsimp only
      split
      · exact Accessed.refl ns
      · cases hst : ns.storage with
        | none =>
            refine ⟨rfl, rfl, rfl, ?_⟩
            unfold Namespace.backend
            rw [hst]
            exact Touches.refl _
        | some st =>
            exact Accessed.of_storage hst
              ⟨(List.append_nil _).symm, rfl, rfl, rfl, fun _ => rfl⟩
  | buffer =>
      dsimp only
      split
      · exact Accessed.refl ns
      · cases hst : ns.storage with
        | none => exact Accessed.refl ns
        | some st =>
            have hnone' := hnone rfl
            rw [backend_eq hst] at h hnone'
            dsimp only
            split
            all_goals
              refine Accessed.of_storage hst ?_
              rw [← hnone']
              exact storageWrite_reached h _ _ _ _

end ReadWrite

/-- A command on the namespace of slot `i` stays in its media unless `escape`. -/
def StaysUnless (m m' : Media) (i : Nat) (escape : Prop) : Prop :=
  ∃ new, MediaAccessed m m' (atSlot i new) ∧
    ((∀ r ∈ new, InBounds (m.namespaces i).backend.totalBytes r) ↔ ¬ escape)

/-- A table that stays as it is has nothing let through. -/
theorem StaysUnless.unchanged {m : Media} {i : Nat} {escape : Prop} (hno : ¬ escape) :
    StaysUnless m m i escape :=
  ⟨[], MediaAccessed.refl m i, iff_of_true (by simp) hno⟩

/-- A command that hands its whole range to the two checks. -/
theorem StaysUnless.of_gated {m m' : Media} {cmd : NvmeCommand} {ns : Namespace}
    (hns : activeNamespace m cmd.nsid = some ns) (h : ns.Fits)
    (ha : MediaAccessed m m' (atSlot (vnvmeNsidToIndex cmd.nsid)
      (gated ns cmd.slba cmd.nlb.toUInt64 (commandBytes ns cmd).toUInt32))) :
    StaysUnless m m' (vnvmeNsidToIndex cmd.nsid) (wraps ns cmd.slba cmd.nlb.toUInt64) := by
  refine ⟨_, ha, ?_⟩
  rw [(activeNamespace_eq hns).1]
  exact gated_command_inBounds_iff h cmd

/-- `HandleCompare` gets as far as the read: the transfer fits the buffers, both can be
allocated and the PRP list is accepted. -/
def compareReads (ns : Namespace) (os : Os) (cmd : NvmeCommand) : Prop :=
  commandBytes ns cmd ≤ maxBufferedTransfer ∧ (os.call .allocatePool).1 = true ∧
    ((os.call .allocatePool).2.call .allocatePool).1 = true ∧
    (vnvmeParsePrpList ((os.call .allocatePool).2.call .allocatePool).2 cmd.prp1 cmd.prp2
      (commandBytes ns cmd).toUInt32).1.isOk = true

section Handlers

variable {m : Media} (os : Os) {cmd : NvmeCommand} {ns : Namespace}
  (hns : activeNamespace m cmd.nsid = some ns) (h : ns.Fits)

include hns h

theorem handleRead_accessed :
    MediaAccessed m (handleRead m os cmd).media (atSlot (vnvmeNsidToIndex cmd.nsid)
      (gated ns cmd.slba cmd.nlb.toUInt64 (commandBytes ns cmd).toUInt32)) := by
  unfold handleRead gated
  rw [hns]
  dsimp only
  by_cases hlba : vnvmeLbaRangeValid cmd.slba cmd.nlb.toUInt64 ns.totalBlocks = true
  · rw [if_neg (by simp [hlba]), if_pos hlba]
    have hsrc := readSource_accessed h.sound os (vnvmeBlocksToBytes cmd.slba ns.blockSize)
      (commandBytes ns cmd)
    split
    · exact setNamespace_accessed hns hsrc
    · split
      · exact setNamespace_accessed hns hsrc
      · rw [setNamespace_setNamespace]
        exact setNamespace_accessed hns
          ⟨hsrc.active, hsrc.blockSize, hsrc.totalBlocks, hsrc.touches⟩
  · rw [if_pos (by simp [hlba]), if_neg hlba]
    exact MediaAccessed.refl m _

theorem handleWrite_accessed :
    MediaAccessed m (handleWrite m os cmd).media (atSlot (vnvmeNsidToIndex cmd.nsid)
      (gated ns cmd.slba cmd.nlb.toUInt64 (commandBytes ns cmd).toUInt32)) := by
  unfold handleWrite gated
  rw [hns]
  dsimp only
  by_cases hlba : vnvmeLbaRangeValid cmd.slba cmd.nlb.toUInt64 ns.totalBlocks = true
  · rw [if_neg (by simp [hlba]), if_pos hlba]
    obtain ⟨htgt, hbuf⟩ := writeTarget_accessed h.sound os
      (vnvmeBlocksToBytes cmd.slba ns.blockSize) (commandBytes ns cmd)
    split
    · exact setNamespace_accessed hns htgt
    · rename_i target heq
      have hdata := writeData_accessed (h.sound.touches htgt.touches)
        (writeTarget ns os (vnvmeBlocksToBytes cmd.slba ns.blockSize)
          (commandBytes ns cmd)).2.2
        (vnvmeBlocksToBytes cmd.slba ns.blockSize) (commandBytes ns cmd) cmd target
        (fun ht => (htgt.touches.reached_eq _ _).trans (hbuf (ht ▸ heq)))
      have hboth := htgt.trans hdata
      rw [List.append_nil] at hboth
      split
      · exact setNamespace_accessed hns hboth
      · exact setNamespace_accessed hns
          ⟨hboth.active, hboth.blockSize, hboth.totalBlocks, hboth.touches⟩
  · rw [if_pos (by simp [hlba]), if_neg hlba]
    exact MediaAccessed.refl m _

theorem handleWriteZeroes_stays :
    StaysUnless m (handleWriteZeroes m os cmd).media (vnvmeNsidToIndex cmd.nsid)
      (wraps ns cmd.slba cmd.nlb.toUInt64 ∧
        (2 ^ 64 - cmd.slba.toNat) * ns.blockSize.toNat ≤ 2 ^ 20) := by
  unfold handleWriteZeroes
  rw [hns]
  dsimp only
  by_cases hlba : vnvmeLbaRangeValid cmd.slba cmd.nlb.toUInt64 ns.totalBlocks = true
  · rw [if_neg (by simp [hlba])]
    obtain ⟨new, ht, hiff⟩ := zeroBlocks_inBounds_iff h os hlba
    cases hst : ns.storage with
    | none => exact StaysUnless.unchanged fun hc => not_wraps_of_no_storage hst hc.1
    | some st =>
        rw [← (activeNamespace_eq hns).1] at hiff
        rw [backend_eq hst] at ht
        have hset := setNamespace_accessed hns (Accessed.of_storage hst ht)
        dsimp only
        split
        · exact ⟨new, hset, (activeNamespace_eq hns).1 ▸ hiff⟩
        · exact ⟨new, hset, (activeNamespace_eq hns).1 ▸ hiff⟩
  · rw [if_pos (by simp [hlba])]
    exact StaysUnless.unchanged fun hc => hlba (lbaRangeValid_of_wraps hc.1)

theorem handleCompare_stays :
    StaysUnless m (handleCompare m os cmd).media (vnvmeNsidToIndex cmd.nsid)
      (wraps ns cmd.slba cmd.nlb.toUInt64 ∧ compareReads ns os cmd) := by
  unfold handleCompare
  rw [hns]
  dsimp only
  by_cases hlba : vnvmeLbaRangeValid cmd.slba cmd.nlb.toUInt64 ns.totalBlocks = true
  · rw [if_neg (by simp [hlba])]
    split
    · rename_i hbig
      exact StaysUnless.unchanged fun hc => UInt64.not_le.mpr hbig hc.2.1
    · rename_i hsmall
      split
      · rename_i hfail
        exact StaysUnless.unchanged fun hc => by simp [hc.2.2.1] at hfail
      · rename_i halloc
        split
        · rename_i hfail
          exact StaysUnless.unchanged fun hc => by simp [hc.2.2.2.1] at hfail
        · rename_i halloc'
          split
          · rename_i e herr
            refine StaysUnless.unchanged fun hc => ?_
            have hok := hc.2.2.2.2
            unfold commandBytes at hok
            rw [herr] at hok
            cases hok
          · rename_i entries hprp
            have hreads : compareReads ns os cmd := by
              refine ⟨UInt64.not_lt.mp hsmall, by simpa using halloc, by simpa using halloc', ?_⟩
              unfold commandBytes
              rw [hprp]
              rfl
            rw [and_iff_left hreads]
            cases hst : ns.storage with
            | none =>
                dsimp only
                split <;> exact StaysUnless.unchanged (not_wraps_of_no_storage hst)
            | some st =>
                have hs := h.sound
                rw [backend_eq hst] at hs
                refine StaysUnless.of_gated hns h ?_
                rw [gated, if_pos hlba, backend_eq hst]
                have hset := setNamespace_accessed hns (Accessed.of_storage hst
                  (storageRead_reached hs (vnvmeBlocksToBytes cmd.slba ns.blockSize)
                    (commandBytes ns cmd).toUInt32
                    (prpTransfer (copyFromHost 0) (commandBytes ns cmd) entries
                      { os := (vnvmeParsePrpList
                          ((os.call .allocatePool).2.call .allocatePool).2 cmd.prp1 cmd.prp2
                          (commandBytes ns cmd).toUInt32).2
                        buffer := fun _ => 0 }).os))
                dsimp only
                split
                · split <;> exact hset
                · exact hset
  · rw [if_pos (by simp [hlba])]
    exact StaysUnless.unchanged fun hc => hlba (lbaRangeValid_of_wraps hc.1)

end Handlers

/-! ## Dataset Management -/

/-- What one range of the list lets through. -/
def dsmReached (ns : Namespace) (range : NvmeDsmRange) : List (UInt64 × UInt32) :=
  if range.lengthInLogicalBlocks.toUInt64 = 0 then []
  else
    gated ns range.startingLba range.lengthInLogicalBlocks.toUInt64
      (vnvmeBlocksToBytes range.lengthInLogicalBlocks.toUInt64 ns.blockSize).toUInt32

/-- One range leaves the media. The byte count is cut to 32 bits, and has to reach the
wrap nevertheless. -/
def dsmEscapes (ns : Namespace) (range : NvmeDsmRange) : Prop :=
  wraps ns range.startingLba range.lengthInLogicalBlocks.toUInt64 ∧
    (2 ^ 64 - range.startingLba.toNat) * ns.blockSize.toNat ≤
      range.lengthInLogicalBlocks.toNat * ns.blockSize.toNat % 2 ^ 32

theorem dsmLength_toNat (ns : Namespace) (range : NvmeDsmRange) :
    (vnvmeBlocksToBytes range.lengthInLogicalBlocks.toUInt64 ns.blockSize).toUInt32.toNat =
      range.lengthInLogicalBlocks.toNat * ns.blockSize.toNat % 2 ^ 32 := by
  rw [UInt64.toNat_toUInt32, blocksToBytes_toNat, UInt32.toNat_toUInt64]
  exact Nat.mod_mod_of_dvd _ (by decide)

theorem dsmReached_inBounds_iff {ns : Namespace} (h : ns.Fits) (range : NvmeDsmRange) :
    (∀ r ∈ dsmReached ns range, InBounds ns.backend.totalBytes r) ↔ ¬ dsmEscapes ns range := by
  have hlen := dsmLength_toNat ns range
  unfold dsmReached dsmEscapes
  split_ifs with hzero
  · refine iff_of_true (by simp) fun hc => ?_
    have hge := hc.1.2.1
    have hlt := range.startingLba.toNat_lt
    rw [hzero, UInt64.toNat_zero] at hge
    omega
  · rw [gated_inBounds_iff h _ (by rw [UInt32.toNat_toUInt64]; exact UInt32.toNat_lt _)
      (by rw [hlen, UInt32.toNat_toUInt64]; exact Nat.mod_le _ _), hlen]

theorem dsmStep_touches {ns : Namespace} (h : Sound ns.backend) {b : Backing}
    {old : List (UInt64 × UInt32)} (hb : Touches ns.backend b.1 old) (range : NvmeDsmRange) :
    Touches b.1 (dsmStep ns b range).1 (dsmReached ns range) := by
  unfold dsmStep dsmReached gated vnvmeLbaRangeValid
  dsimp only
  split_ifs with hzero hgt hle hle
  · exact Touches.refl _
  · exact absurd (decide_eq_true_iff.mp hle) (UInt64.not_le.mpr hgt)
  · exact Touches.refl _
  · rw [← hb.reached_eq]
    exact storageWriteZeroes_reached (h.touches hb) _ _ b.2
  · exact absurd (decide_eq_true (UInt64.not_lt.mp hgt)) hle

/-- The loop over the ranges, by induction on the list. -/
theorem dsmFold_touches {ns : Namespace} (h : Sound ns.backend) :
    ∀ (ranges : List NvmeDsmRange) {b : Backing} {old : List (UInt64 × UInt32)},
      Touches ns.backend b.1 old →
      Touches b.1 (ranges.foldl (dsmStep ns) b).1 (ranges.flatMap (dsmReached ns)) := by
  intro ranges
  induction ranges with
  | nil => exact fun _ => Touches.refl _
  | cons range ranges ih =>
      intro b old hb
      have hone := dsmStep_touches h hb range
      rw [List.foldl_cons, List.flatMap_cons]
      exact hone.trans (ih (hb.trans hone))

theorem handleDatasetManagement_stays {m : Media} (os : Os) {cmd : NvmeCommand}
    {ns : Namespace} (hns : activeNamespace m cmd.nsid = some ns) (h : ns.Fits) :
    StaysUnless m (handleDatasetManagement m os cmd).media (vnvmeNsidToIndex cmd.nsid)
      (cmd.deallocate = true ∧ (os.call .mapIoSpace).1 = true ∧
        ∃ i < cmd.rangeCount, dsmEscapes ns (dsmRange os.hostMem cmd.prp1 i)) := by
  unfold handleDatasetManagement
  rw [hns]
  dsimp only
  split
  · rename_i hkeep
    exact StaysUnless.unchanged fun hc => by simp [hc.1] at hkeep
  · rename_i hdealloc
    split
    · rename_i hunmapped
      exact StaysUnless.unchanged fun hc => by simp [hc.2.1] at hunmapped
    · rename_i hmapped
      cases hst : ns.storage with
      | none =>
          refine StaysUnless.unchanged ?_
          rintro ⟨-, -, i, -, hesc⟩
          exact not_wraps_of_no_storage hst hesc.1
      | some st =>
          have hfold := dsmFold_touches h.sound
            ((List.range cmd.rangeCount).map (dsmRange os.hostMem cmd.prp1))
            (b := (ns.backend, (os.call .mapIoSpace).2)) (Touches.refl _)
          rw [backend_eq hst] at hfold
          refine ⟨_, setNamespace_accessed hns (Accessed.of_storage hst hfold), ?_⟩
          rw [(activeNamespace_eq hns).1]
          simp only [List.forall_mem_flatMap, List.forall_mem_map, List.mem_range,
            dsmReached_inBounds_iff h]
          simp only [Bool.not_eq_true', Bool.not_eq_false] at hdealloc hmapped
          simp [hdealloc, hmapped]

/-! ## Dispatch -/

/-- The condition under which a command on `ns` makes the backend let a range outside the
media through, by opcode. -/
def commandEscapes (ns : Namespace) (os : Os) (cmd : NvmeCommand) : Prop :=
  if cmd.opc = nvmeIoRead ∨ cmd.opc = nvmeIoWrite then wraps ns cmd.slba cmd.nlb.toUInt64
  else if cmd.opc = nvmeIoWriteZeroes then
    wraps ns cmd.slba cmd.nlb.toUInt64 ∧
      (2 ^ 64 - cmd.slba.toNat) * ns.blockSize.toNat ≤ 2 ^ 20
  else if cmd.opc = nvmeIoCompare then
    wraps ns cmd.slba cmd.nlb.toUInt64 ∧ compareReads ns os cmd
  else if cmd.opc = nvmeIoDatasetManagement then
    cmd.deallocate = true ∧ (os.call .mapIoSpace).1 = true ∧
      ∃ i < cmd.rangeCount, dsmEscapes ns (dsmRange os.hostMem cmd.prp1 i)
  else False

theorem handleFlush_accessed (m : Media) (os : Os) (cmd : NvmeCommand) :
    MediaAccessed m (handleFlush m os cmd).media fun _ => [] := by
  have hcount : ∀ ns : Namespace, Accessed ns ns.countFlush [] :=
    fun ns => ⟨rfl, rfl, rfl, Touches.refl _⟩
  intro i
  unfold handleFlush
  split
  · show Accessed _ (if _ then _ else _) []
    split
    · exact hcount _
    · exact Accessed.refl _
  · split
    · exact Accessed.refl _
    · rename_i ns hns
      have hset := setNamespace_accessed hns (hcount ns) i
      rwa [atSlot, Function.update_eq_self _ (fun _ => ([] : List (UInt64 × UInt32)))] at hset

/-- On an active namespace, what a command lets through stays inside unless it escapes. -/
theorem handleIoCommand_stays {m : Media} (os : Os) {cmd : NvmeCommand} {ns : Namespace}
    (hns : activeNamespace m cmd.nsid = some ns) (h : ns.Fits) :
    StaysUnless m (handleIoCommand m os cmd).media (vnvmeNsidToIndex cmd.nsid)
      (commandEscapes ns os cmd) := by
  unfold handleIoCommand commandEscapes
  by_cases hread : cmd.opc = nvmeIoRead
  · rw [if_pos hread, if_pos (Or.inl hread)]
    exact StaysUnless.of_gated hns h (handleRead_accessed os hns h)
  rw [if_neg hread]
  by_cases hwrite : cmd.opc = nvmeIoWrite
  · rw [if_pos hwrite, if_pos (Or.inr hwrite)]
    exact StaysUnless.of_gated hns h (handleWrite_accessed os hns h)
  rw [if_neg hwrite, if_neg (not_or.mpr ⟨hread, hwrite⟩)]
  by_cases hflush : cmd.opc = nvmeIoFlush
  · rw [if_pos hflush, hflush, if_neg (by decide), if_neg (by decide), if_neg (by decide)]
    refine ⟨[], ?_, iff_of_true (by simp) not_false⟩
    rw [atSlot, Function.update_eq_self _ (fun _ => ([] : List (UInt64 × UInt32)))]
    exact handleFlush_accessed m os cmd
  rw [if_neg hflush]
  by_cases hzeroes : cmd.opc = nvmeIoWriteZeroes
  · rw [if_pos hzeroes, if_pos hzeroes]
    exact handleWriteZeroes_stays os hns h
  rw [if_neg hzeroes, if_neg hzeroes]
  by_cases hdsm : cmd.opc = nvmeIoDatasetManagement
  · rw [if_pos hdsm, if_pos hdsm, if_neg (by rw [hdsm]; decide)]
    exact handleDatasetManagement_stays os hns h
  rw [if_neg hdsm, if_neg hdsm]
  by_cases hcompare : cmd.opc = nvmeIoCompare
  · rw [if_pos hcompare, if_pos hcompare]
    exact handleCompare_stays os hns h
  rw [if_neg hcompare, if_neg hcompare]
  exact StaysUnless.unchanged not_false

/-- Without an active namespace no backend is asked. -/
theorem handleIoCommand_no_namespace {m : Media} (os : Os) {cmd : NvmeCommand}
    (hns : activeNamespace m cmd.nsid = none) :
    MediaAccessed m (handleIoCommand m os cmd).media fun _ => [] := by
  have hrefl : MediaAccessed m m fun _ => [] := fun i => Accessed.refl _
  unfold handleIoCommand
  split_ifs
  · rwa [handleRead, hns]
  · rwa [handleWrite, hns]
  · exact handleFlush_accessed m os cmd
  · rwa [handleWriteZeroes, hns]
  · rwa [handleDatasetManagement, hns]
  · rwa [handleCompare, hns]
  · exact hrefl

/-! ## Reachable namespace tables -/

/-- The namespace tables that the namespace ioctls and the I/O commands lead to. -/
inductive ReachableTable : Media → Prop
  | fresh : ReachableTable {}
  | create {m : Media} (cfg : Config) (os : Os) (c : NamespaceConfig) :
      ReachableTable m → ReachableTable (vnvmeHandleCreateNamespace cfg m os c).2.2.1
  | delete {m : Media} (nsid : UInt32) :
      ReachableTable m → ReachableTable (vnvmeHandleDeleteNamespace m nsid).2
  | command {m : Media} (os : Os) (cmd : NvmeCommand) :
      ReachableTable m → ReachableTable (handleIoCommand m os cmd).media
  | count {m : Media} : ReachableTable m → ReachableTable m.countCommand

/-- Every active namespace fits its storage. -/
def TableFits (m : Media) : Prop :=
  ∀ i, (m.namespaces i).active = true → (m.namespaces i).Fits

/-- The overflow check of the ioctl: the capacity is the product over the naturals. -/
theorem checkNamespaceConfig_ok {c : NamespaceConfig} (h : checkNamespaceConfig c = .ok ()) :
    (c.effectiveBlockSize = 512 ∨ c.effectiveBlockSize = 4096) ∧
      (c.totalBlocks * c.effectiveBlockSize.toUInt64).toNat =
        c.totalBlocks.toNat * c.effectiveBlockSize.toNat ∧
      (c.totalBlocks * c.effectiveBlockSize.toUInt64).toNat ≤ 2 ^ 44 := by
  simp only [checkNamespaceConfig] at h
  split_ifs at h with hbs hzero hover hcap
  refine ⟨?_, ?_, ?_⟩
  · unfold NamespaceConfig.effectiveBlockSize
    split_ifs with h0
    · exact Or.inl rfl
    · by_contra hne
      rw [not_or] at hne
      exact hbs ⟨h0, hne.1, hne.2⟩
  · have hdiv := congrArg UInt64.toNat (not_not.mp hover)
    rw [UInt64.toNat_div, UInt32.toNat_toUInt64] at hdiv
    have hle := Nat.div_mul_le_self (c.totalBlocks * c.effectiveBlockSize.toUInt64).toNat
      c.effectiveBlockSize.toNat
    rw [hdiv] at hle
    refine Nat.le_antisymm ?_ hle
    rw [UInt64.toNat_mul, UInt32.toNat_toUInt64]
    exact Nat.mod_le _ _
  · have hle := UInt64.not_lt.mp hcap
    rw [UInt64.le_iff_toNat_le] at hle
    exact hle

theorem TableFits.active {m : Media} (h : TableFits m) {nsid : UInt32} {ns : Namespace}
    (hns : activeNamespace m nsid = some ns) : ns.Fits := by
  obtain ⟨rfl, hactive⟩ := activeNamespace_eq hns
  exact h _ hactive

theorem TableFits.update {m m' : Media} (h : TableFits m) {slot : Nat} {ns : Namespace}
    (hm : m'.namespaces = Function.update m.namespaces slot ns)
    (hns : ns.active = true → ns.Fits) : TableFits m' := by
  intro i hi
  rw [hm] at hi ⊢
  by_cases heq : i = slot
  · subst heq
    rw [Function.update_self] at hi ⊢
    exact hns hi
  · rw [Function.update_of_ne heq] at hi ⊢
    exact h i hi

theorem checkNamespaceConfig_error {c : NamespaceConfig} {status : NtStatus}
    (h : checkNamespaceConfig c = .error status) : status.ntSuccess = false := by
  simp only [checkNamespaceConfig] at h
  split_ifs at h <;> cases h <;> rfl

/-- There is a storage context exactly if the creation of the storage succeeds. -/
theorem storageCreate_success_iff (os : Os) (type : StorageType) (totalBytes : UInt64)
    (blockSize : UInt32) (path : Option (List UInt16)) :
    (vnvmeStorageCreate os type totalBytes blockSize path).1.ntSuccess =
      (vnvmeStorageCreate os type totalBytes blockSize path).2.1.isSome := by
  unfold vnvmeStorageCreate
  dsimp only [Os.call]
  split
  · rfl
  · dsimp only
    split_ifs with hok
    · rw [hok]
      rfl
    · rw [eq_false_of_ne_true hok]
      rfl

/-- The namespace as it is before it has its storage. -/
def NamespaceConfig.record (c : NamespaceConfig) (i : Nat) : Namespace where
  nsId := UInt32.ofNat (i + 1)
  totalBlocks := c.totalBlocks
  blockSize := c.effectiveBlockSize
  totalBytes := c.totalBlocks * c.effectiveBlockSize.toUInt64
  readOnly := c.readOnly
  thinProvisioned := c.sparse

/-- What a creation can do: refuse, fill a free slot and fail, or activate it with its storage. -/
inductive CreateOutcome (m : Media) (c : NamespaceConfig) :
    NtStatus × UInt32 × Media × Os → Prop
  | refused {status : NtStatus} (hfails : status.ntSuccess = false) (os : Os) :
      CreateOutcome m c (status, 0, m, os)
  | filled {i : Nat} {status : NtStatus}
      (hfind : (List.range 16).find? (fun i => !(m.namespaces i).active) = some i)
      (hfails : status.ntSuccess = false) (os : Os) :
      CreateOutcome m c
        (status, 0, { m with namespaces := Function.update m.namespaces i (c.record i) }, os)
  | created {i : Nat} {st : StorageContext} {type : StorageType}
      (hcheck : checkNamespaceConfig c = .ok ())
      (hfind : (List.range 16).find? (fun i => !(m.namespaces i).active) = some i)
      (hst : FreshStorage type (c.record i).totalBytes st ∧ Sound st) (os : Os) :
      CreateOutcome m c
        (.success, UInt32.ofNat (i + 1),
          { m with
            namespaces := Function.update m.namespaces i
              { c.record i with storage := some st, active := true }
            namespaceCount := m.namespaceCount + 1 }, os)

theorem createNamespace_outcome (cfg : Config) (m : Media) (os : Os) (c : NamespaceConfig) :
    CreateOutcome m c (vnvmeHandleCreateNamespace cfg m os c) := by
  unfold vnvmeHandleCreateNamespace
  cases hcheck : checkNamespaceConfig c with
  | error status => exact .refused (checkNamespaceConfig_error hcheck) os
  | ok _ =>
      dsimp only
      split_ifs
      · exact .refused rfl os
      · split
        · exact .refused rfl os
        · rename_i i hfind
          have hfresh := @storageCreate_fresh os (chooseStorage cfg c.sparse).1
            (c.totalBlocks * c.effectiveBlockSize.toUInt64) c.effectiveBlockSize
            (chooseStorage cfg c.sparse).2
          have hsound := @storageCreate_sound os (chooseStorage cfg c.sparse).1
            (c.totalBlocks * c.effectiveBlockSize.toUInt64) c.effectiveBlockSize
            (chooseStorage cfg c.sparse).2
          have hiff := storageCreate_success_iff os (chooseStorage cfg c.sparse).1
            (c.totalBlocks * c.effectiveBlockSize.toUInt64) c.effectiveBlockSize
            (chooseStorage cfg c.sparse).2
          generalize vnvmeStorageCreate os _ _ _ _ = r at hfresh hsound hiff ⊢
          obtain ⟨status, storage, os'⟩ := r
          cases storage with
          | none =>
              have hfails : status.ntSuccess = false := hiff
              cases status with
              | success => cases hfails
              | _ => exact .filled hfind rfl os'
          | some st =>
              obtain rfl : status = .success := by simpa [NtStatus.ntSuccess] using hiff
              exact .created hcheck hfind ⟨(hfresh rfl).1, (hsound rfl).2⟩ os'

theorem createNamespace_fits {m : Media} (h : TableFits m) (cfg : Config) (os : Os)
    (c : NamespaceConfig) : TableFits (vnvmeHandleCreateNamespace cfg m os c).2.2.1 := by
  have houtcome := createNamespace_outcome cfg m os c
  generalize vnvmeHandleCreateNamespace cfg m os c = r at houtcome ⊢
  cases houtcome with
  | refused _ os => exact h
  | filled _ _ os => exact h.update rfl fun hi => by cases hi
  | created hcheck _ hst os =>
      obtain ⟨hbs, hbytes, hcap⟩ := checkNamespaceConfig_ok hcheck
      have htot := congrArg UInt64.toNat hst.1.totalBytes
      exact h.update rfl fun _ => ⟨hbs, htot.trans hbytes, htot.trans_le hcap, hst.2⟩

theorem deleteNamespace_fits {m : Media} (h : TableFits m) (nsid : UInt32) :
    TableFits (vnvmeHandleDeleteNamespace m nsid).2 := by
  unfold vnvmeHandleDeleteNamespace
  dsimp only
  split
  · exact h
  · split
    · exact h
    · exact h.update rfl fun hi => by cases hi

/-- What a command lets through, and whether all of it stays in the media. -/
theorem handleIoCommand_accessed {m : Media} (h : TableFits m) (os : Os) (cmd : NvmeCommand) :
    ∃ new, MediaAccessed m (handleIoCommand m os cmd).media new ∧
      ((∀ i, ∀ r ∈ new i, InBounds (m.namespaces i).backend.totalBytes r) ↔
        ∀ ns, activeNamespace m cmd.nsid = some ns → ¬ commandEscapes ns os cmd) := by
  cases hns : activeNamespace m cmd.nsid with
  | none => exact ⟨_, handleIoCommand_no_namespace os hns, iff_of_true (by simp) (by simp)⟩
  | some ns =>
      have hslot := (activeNamespace_eq hns).1
      obtain ⟨new, ha, hiff⟩ := handleIoCommand_stays os hns (h.active hns)
      refine ⟨_, ha, ⟨fun hall ns' hns' => ?_, fun hno i r hr => ?_⟩⟩
      · rw [← Option.some.inj hns']
        refine hiff.mp fun r hr => hall _ r ?_
        rwa [atSlot, Function.update_self]
      · by_cases hi : i = vnvmeNsidToIndex cmd.nsid
        · subst hi
          rw [atSlot, Function.update_self] at hr
          exact hiff.mpr (hno ns rfl) r hr
        · rw [atSlot, Function.update_of_ne hi] at hr
          cases hr

theorem command_fits {m : Media} (h : TableFits m) (os : Os) (cmd : NvmeCommand) :
    TableFits (handleIoCommand m os cmd).media := by
  obtain ⟨new, ha, -⟩ := handleIoCommand_accessed h os cmd
  intro i hi
  rw [(ha i).active] at hi
  exact (h i hi).accessed (ha i)

theorem ReachableTable.fits {m : Media} (h : ReachableTable m) : TableFits m := by
  induction h with
  | fresh => exact fun i hi => by cases hi
  | create cfg os c _ ih => exact createNamespace_fits ih cfg os c
  | delete nsid _ ih => exact deleteNamespace_fits ih nsid
  | command os cmd _ ih => exact command_fits ih os cmd
  | count _ ih => exact ih

/-- The ranges of namespace `i` that have been let through from `m` to `m'`. -/
def newlyTouched (m m' : Media) (i : Nat) : List (UInt64 × UInt32) :=
  (m'.namespaces i).backend.touched.drop (m.namespaces i).backend.touched.length

theorem MediaAccessed.newlyTouched_eq {m m' : Media} {new : Nat → List (UInt64 × UInt32)}
    (h : MediaAccessed m m' new) (i : Nat) : newlyTouched m m' i = new i := by
  unfold newlyTouched
  rw [(h i).touches.touched, List.drop_left]

/-- **No command leaves the media, but for those whose block range wraps.** For every
reachable namespace table and every command. -/
theorem touched_in_bounds_iff {m : Media} (h : ReachableTable m) (os : Os)
    (cmd : NvmeCommand) :
    (∀ i, ∀ r ∈ newlyTouched m (handleIoCommand m os cmd).media i,
        InBounds (m.namespaces i).backend.totalBytes r) ↔
      ∀ ns, activeNamespace m cmd.nsid = some ns → ¬ commandEscapes ns os cmd := by
  obtain ⟨new, ha, hiff⟩ := handleIoCommand_accessed h.fits os cmd
  simp only [ha.newlyTouched_eq]
  exact hiff

/-- A table with one memory namespace of eight 512-byte blocks. -/
def memoryTable : Media :=
  (vnvmeHandleCreateNamespace .allQueues {} {} { totalBlocks := 8, blockSize := 512 }).2.2.1

/-- Read two blocks from `slba` on into the page at 1 MB. -/
def readTwo (slbaLow slbaHigh : UInt32) : NvmeCommand :=
  { opc := nvmeIoRead, cid := 1, nsid := 1, prp1 := 0x100000, cdw10 := slbaLow,
    cdw11 := slbaHigh, cdw12 := 1 }

theorem memoryTable_reachable : ReachableTable memoryTable :=
  ReachableTable.create .allQueues {} _ ReachableTable.fresh

theorem touched_in_bounds_iff_readTwo :
    ReachableTable memoryTable ∧
      ∀ i, ∀ r ∈ newlyTouched memoryTable
        (handleIoCommand memoryTable {} (readTwo 6 0)).media i,
        InBounds (memoryTable.namespaces i).backend.totalBytes r := by
  refine ⟨memoryTable_reachable,
    (touched_in_bounds_iff memoryTable_reachable {} (readTwo 6 0)).mpr fun ns hns => ?_⟩
  obtain rfl := Option.some.inj hns
  have hread : (readTwo 6 0).opc = nvmeIoRead := rfl
  rw [commandEscapes, if_pos (Or.inl hread)]
  decide

/-- The last block number and two blocks: the end wraps to block 1. -/
theorem read_escapes_media :
    ReachableTable memoryTable ∧
      ∃ r ∈ newlyTouched memoryTable
        (handleIoCommand memoryTable {} (readTwo 0xFFFFFFFF 0xFFFFFFFF)).media 0,
        ¬ InBounds (memoryTable.namespaces 0).backend.totalBytes r := by
  refine ⟨memoryTable_reachable, (0xFFFFFFFFFFFFFE00, 1024), ?_, ?_⟩
  · rw [show newlyTouched memoryTable
      (handleIoCommand memoryTable {} (readTwo 0xFFFFFFFF 0xFFFFFFFF)).media 0 =
        [(0xFFFFFFFFFFFFFE00, 1024)] from rfl]
    exact List.mem_singleton.mpr rfl
  · exact Nat.not_le.mpr (by decide)

end VirtualNvme
