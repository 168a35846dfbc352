import VirtualNvme.Verification.IoCompletion
import VirtualNvme.Verification.KernelMode
import VirtualNvme.Verification.PrpFaults
import VirtualNvme.Verification.SqHead

/-!
# Counting I/O commands

`VnvmeProcessIoCommands` counts every command that it has processed in `IoCommandsProcessed`. The
handlers count in the same place, at the statement in front of their last exit. A command is
counted once exactly if its handler leaves before.
-/

namespace VirtualNvme

open RingBuffer

/-! ## The answers of the backend -/

/-- The backend hands out the bytes of a range; `answer` is that of the file. -/
def StorageContext.Gives (ctx : StorageContext) (answer : Bool) (offset : UInt64)
    (length : UInt32) : Prop :=
  match ctx.type with
  | .memory => ctx.memoryBuffer.isSome ∧ ctx.outOfRange offset length = false
  | .none => False
  | _ => ctx.file.isSome ∧ ctx.outOfRange offset length = false ∧ answer = true

/-- The backend takes the bytes of a range. -/
def StorageContext.Takes (ctx : StorageContext) (answer : Bool) (offset : UInt64)
    (length : UInt32) : Prop :=
  ctx.readOnly = false ∧ ctx.Gives answer offset length

section Backend

variable (ctx : StorageContext) (os : Os) (offset : UInt64) (length : UInt32)

theorem storageFileRead_success_iff : (storageFileRead (ctx, os) offset length).1 = .success ↔
    ctx.file.isSome ∧ ctx.outOfRange offset length = false ∧ os.ok .readFile os.calls = true := by
  unfold storageFileRead
  cases hfile : ctx.file with
  | none => simp
  | some file =>
      by_cases hout : ctx.outOfRange offset length = true
      · simp [hout]
      · by_cases hok : os.ok .readFile os.calls = true
        · simp [hout, hok, Os.call]
        · simp [hout, hok, Os.call]

theorem storageFileWrite_success_iff (data : UInt64 → UInt8) :
    (storageFileWrite (ctx, os) offset data length).1 = .success ↔
      ctx.readOnly = false ∧ ctx.file.isSome ∧ ctx.outOfRange offset length = false ∧
        os.ok .writeFile os.calls = true := by
  unfold storageFileWrite
  cases hfile : ctx.file with
  | none => simp
  | some file =>
      by_cases hro : ctx.readOnly = true
      · simp [hro]
      · by_cases hout : ctx.outOfRange offset length = true
        · simp [hro, hout]
        · by_cases hok : os.ok .writeFile os.calls = true
          · simp [hro, hout, hok, Os.call]
          · simp [hro, hout, hok, Os.call]

theorem vnvmeStorageRead_success_iff :
    (vnvmeStorageRead (ctx, os) offset length).1.ntSuccess = true ↔
      ctx.Gives (os.ok .readFile os.calls) offset length := by
  rw [NtStatus.ntSuccess, decide_eq_true_iff]
  unfold vnvmeStorageRead StorageContext.Gives
  cases htype : ctx.type with
  | none => simp
  | memory =>
      unfold storageMemoryRead
      cases hbuffer : ctx.memoryBuffer with
      | none => simp
      | some mem => by_cases hout : ctx.outOfRange offset length = true <;> simp [hout]
  | file => exact storageFileRead_success_iff ctx os offset length
  | sparse => exact storageFileRead_success_iff ctx os offset length

theorem vnvmeStorageWrite_success_iff (data : UInt64 → UInt8) :
    (vnvmeStorageWrite (ctx, os) offset data length).1.ntSuccess = true ↔
      ctx.Takes (os.ok .writeFile os.calls) offset length := by
  rw [NtStatus.ntSuccess, decide_eq_true_iff]
  unfold vnvmeStorageWrite StorageContext.Takes StorageContext.Gives
  cases htype : ctx.type with
  | none => simp
  | memory =>
      unfold storageMemoryWrite
      cases hbuffer : ctx.memoryBuffer with
      | none => simp
      | some mem =>
          by_cases hro : ctx.readOnly = true
          · simp [hro]
          · by_cases hout : ctx.outOfRange offset length = true <;> simp [hro, hout]
  | file => exact storageFileWrite_success_iff ctx os offset length data
  | sparse => exact storageFileWrite_success_iff ctx os offset length data

end Backend

/-! ## Where a handler counts -/

/-- The kernel behind the loop over the segments. -/
def Request.behindLoop (ns : Namespace) (r : Request) (os : Os) (es : List PrpEntry) : Os :=
  (prpTransfer (copyFromHost 0) (commandBytes ns r.cmd) es { os := os, buffer := fun _ => 0 }).os

/-- Behind the loop, the backend refuses the range of a buffered Write or of a Compare. -/
def Request.RefusedBehindLoop (ns : Namespace) (r : Request) (os : Os) (es : List PrpEntry) :
    Prop :=
  let totalBytes := commandBytes ns r.cmd
  let byteOffset := vnvmeBlocksToBytes r.cmd.slba ns.blockSize
  let os := r.behindLoop ns os es
  if r.cmd.opc = nvmeIoWrite then
    let target := writeTarget ns r.os byteOffset totalBytes
    target.1 = .ok .buffer ∧ ∃ st, target.2.1.storage = some st ∧
      ¬ st.Takes (os.ok .writeFile os.calls) byteOffset totalBytes.toUInt32
  else
    r.cmd.opc = nvmeIoCompare ∧ ∃ st, ns.storage = some st ∧
      ¬ st.Gives (os.ok .readFile os.calls) byteOffset totalBytes.toUInt32

/-- The command comes through its loop, and then the backend does not refuse it. -/
def Request.Completes (ns : Namespace) (r : Request) : Prop :=
  ∃ os es, r.StartsLoop ns os es ∧ ¬ r.RefusedBehindLoop ns os es

/-- A Write that drops its data: there is neither a backend nor a buffer. -/
def Request.DropsData (ns : Namespace) (r : Request) : Prop :=
  r.cmd.opc = nvmeIoWrite ∧
    vnvmeLbaRangeValid r.cmd.slba r.cmd.nlb.toUInt64 ns.totalBlocks = true ∧
    (writeTarget ns r.os (vnvmeBlocksToBytes r.cmd.slba ns.blockSize)
      (commandBytes ns r.cmd)).1 = .ok .discard

/-- The blocks of a Write Zeroes are there, and the backend takes all of its chunks. -/
def Request.TakesZeroes (ns : Namespace) (r : Request) : Prop :=
  vnvmeLbaRangeValid r.cmd.slba r.cmd.nlb.toUInt64 ns.totalBlocks = true ∧
    ∀ st, ns.storage = some st →
      (zeroChunks writeZeroesChunkSize vnvmeStorageWriteZeroes
        ((commandBytes ns r.cmd).toNat + 1) (st, r.os)
        (vnvmeBlocksToBytes r.cmd.slba ns.blockSize) (commandBytes ns r.cmd)).1 = .success

/-- On an active namespace, the command comes to the statement where its handler counts it. -/
def Request.CountedIn (ns : Namespace) (r : Request) : Prop :=
  if r.cmd.opc = nvmeIoRead ∨ r.cmd.opc = nvmeIoCompare then r.Completes ns
  else if r.cmd.opc = nvmeIoWrite then r.Completes ns ∨ r.DropsData ns
  else if r.cmd.opc = nvmeIoWriteZeroes then r.TakesZeroes ns
  else r.cmd.opc = nvmeIoFlush ∨ r.cmd.opc = nvmeIoDatasetManagement

/-- The handler counts the command. A Flush may be for all namespaces. -/
def Request.CountsItself (m : Media) (r : Request) : Prop :=
  (r.cmd.opc = nvmeIoFlush ∧ r.cmd.nsid = 0xFFFFFFFF) ∨
    ∃ ns, activeNamespace m r.cmd.nsid = some ns ∧ r.CountedIn ns

/-- The handler counts exactly under the condition. -/
def IoResult.Counts (m : Media) (res : IoResult) (counted : Prop) : Prop :=
  (counted ∧ res.media.ioCommandsProcessed = m.ioCommandsProcessed + 1) ∨
    (¬ counted ∧ res.media.ioCommandsProcessed = m.ioCommandsProcessed)

theorem IoResult.Counts.congr {m : Media} {res : IoResult} {p p' : Prop} (h : res.Counts m p)
    (hp : p ↔ p') : res.Counts m p' := by
  rwa [← propext hp]

/-- A handler that stops before it counts. -/
theorem IoResult.Counts.none {m : Media} {res : IoResult} {counted : Prop} (hno : ¬ counted)
    (h : res.media.ioCommandsProcessed = m.ioCommandsProcessed) : res.Counts m counted :=
  Or.inr ⟨hno, h⟩

section Completes

variable {ns : Namespace} {r : Request}

theorem Request.not_completes (h : r.beforeParse ns = none) : ¬ r.Completes ns := by
  rintro ⟨os, es, ⟨before, hbefore, -⟩, -⟩
  rw [h] at hbefore
  cases hbefore

theorem Request.not_completes_of_error {before os : Os} {status : NtStatus}
    (h : r.beforeParse ns = some before)
    (hparse : vnvmeParsePrpList before r.cmd.prp1 r.cmd.prp2 (commandBytes ns r.cmd).toUInt32 =
      (.error status, os)) : ¬ r.Completes ns := by
  rintro ⟨os', es, ⟨before', hbefore, hparsed⟩, -⟩
  obtain rfl := Option.some.inj (h.symm.trans hbefore)
  cases hparse.symm.trans hparsed

theorem Request.completes_iff {before os : Os} {es : List PrpEntry}
    (h : r.beforeParse ns = some before)
    (hparse : vnvmeParsePrpList before r.cmd.prp1 r.cmd.prp2 (commandBytes ns r.cmd).toUInt32 =
      (.ok es, os)) : r.Completes ns ↔ ¬ r.RefusedBehindLoop ns os es := by
  constructor
  · rintro ⟨os', es', ⟨before', hbefore, hparsed⟩, hgoes⟩
    obtain rfl := Option.some.inj (h.symm.trans hbefore)
    obtain ⟨hes, rfl⟩ := Prod.mk.inj (hparse.symm.trans hparsed)
    obtain rfl := Except.ok.inj hes
    exact hgoes
  · intro hgoes
    exact ⟨os, es, ⟨before, h, hparse⟩, hgoes⟩

end Completes

section Handlers

variable {m : Media} {ns : Namespace} {r : Request}
  (hns : activeNamespace m r.cmd.nsid = some ns)

include hns

theorem handleRead_counts (hopc : r.cmd.opc = nvmeIoRead) :
    (handleRead m r.os r.cmd).Counts m (r.Completes ns) := by
  have hrefused (os : Os) (es : List PrpEntry) : ¬ r.RefusedBehindLoop ns os es := by
    rw [Request.RefusedBehindLoop, hopc, if_neg (by decide)]
    exact fun h => absurd h.1 (by decide)
  rw [handleRead, hns]
  dsimp only
  by_cases hvalid : vnvmeLbaRangeValid r.cmd.slba r.cmd.nlb.toUInt64 ns.totalBlocks = true
  swap
  · rw [if_pos (by simpa using hvalid)]
    refine IoResult.Counts.none (Request.not_completes ?_) rfl
    rw [Request.beforeParse, if_pos (by simpa using hvalid)]
  have hbefore := Request.beforeParse.eq_def ns r
  rw [if_neg (by simp [hvalid]), if_pos hopc] at hbefore
  rw [if_neg (by simp [hvalid]), ← commandBytes]
  dsimp only at hbefore
  cases hsrc : (readSource ns r.os (vnvmeBlocksToBytes r.cmd.slba ns.blockSize)
      (commandBytes ns r.cmd)).1 with
  | error e =>
      rw [hsrc] at hbefore
      exact IoResult.Counts.none (Request.not_completes hbefore) rfl
  | ok src =>
      rw [hsrc] at hbefore
      dsimp only
      rcases hparse : vnvmeParsePrpList (readSource ns r.os
          (vnvmeBlocksToBytes r.cmd.slba ns.blockSize) (commandBytes ns r.cmd)).2.2 r.cmd.prp1
          r.cmd.prp2 (commandBytes ns r.cmd).toUInt32 with ⟨_ | es, os⟩
      · exact IoResult.Counts.none (Request.not_completes_of_error hbefore hparse) rfl
      · exact Or.inl ⟨(Request.completes_iff hbefore hparse).mpr (hrefused os es), rfl⟩

omit hns in
/-- The data gets to a direct or a buffered target exactly if the command completes. -/
theorem writeData_ok_iff (hopc : r.cmd.opc = nvmeIoWrite) {target : WriteTarget}
    {ns' : Namespace} {os' : Os} (hkeeps : target ≠ .discard)
    (hbefore : r.beforeParse ns = some os')
    (htarget : writeTarget ns r.os (vnvmeBlocksToBytes r.cmd.slba ns.blockSize)
      (commandBytes ns r.cmd) = (.ok target, ns', os')) :
    (writeData ns' os' r.cmd (vnvmeBlocksToBytes r.cmd.slba ns.blockSize)
      (commandBytes ns r.cmd) target).1 = .ok () ↔ r.Completes ns := by
  have hrefused (os : Os) (es : List PrpEntry) :
      r.RefusedBehindLoop ns os es ↔ _ := iff_of_eq (if_pos hopc)
  rw [htarget] at hrefused
  unfold writeData
  rcases hparse : vnvmeParsePrpList os' r.cmd.prp1 r.cmd.prp2
      (commandBytes ns r.cmd).toUInt32 with ⟨_ | es, os⟩
  · have hfails := Request.not_completes_of_error hbefore hparse
    cases target with
    | discard => exact absurd rfl hkeeps
    | direct => exact iff_of_false nofun hfails
    | buffer => exact iff_of_false nofun hfails
  have hgoes := Request.completes_iff hbefore hparse
  rw [hrefused] at hgoes
  cases target with
  | discard => exact absurd rfl hkeeps
  | direct =>
      refine iff_of_true rfl (hgoes.mpr ?_)
      -- nothing is left to do for the backend
      rintro ⟨hbuffer, -⟩
      cases hbuffer
  | buffer =>
      rw [Request.behindLoop] at hgoes
      dsimp only
      generalize prpTransfer (copyFromHost 0) (commandBytes ns r.cmd) es
        { os := os, buffer := fun _ => 0 } = t at hgoes ⊢
      cases hst : ns'.storage with
      | none =>
          refine iff_of_true rfl (hgoes.mpr ?_)
          rintro ⟨-, st, hst', -⟩
          cases hst.symm.trans hst'
      | some st =>
          have htakes := vnvmeStorageWrite_success_iff st t.os
            (vnvmeBlocksToBytes r.cmd.slba ns.blockSize) (commandBytes ns r.cmd).toUInt32
            t.buffer
          rw [hst] at hgoes
          dsimp only
          generalize vnvmeStorageWrite (st, t.os) _ t.buffer _ = written at htakes ⊢
          by_cases hok : written.1.ntSuccess = true
          · rw [if_pos hok]
            refine iff_of_true rfl (hgoes.mpr ?_)
            rintro ⟨-, st', hst', hrefuses⟩
            obtain rfl := Option.some.inj hst'
            exact hrefuses (htakes.mp hok)
          · rw [if_neg hok]
            refine iff_of_false nofun fun h => ?_
            exact hgoes.mp h ⟨rfl, st, rfl, fun h => hok (htakes.mpr h)⟩

theorem handleWrite_counts (hopc : r.cmd.opc = nvmeIoWrite) :
    (handleWrite m r.os r.cmd).Counts m (r.Completes ns ∨ r.DropsData ns) := by
  have hread : r.cmd.opc ≠ nvmeIoRead := by
    rw [hopc]
    decide
  rw [handleWrite, hns]
  dsimp only
  by_cases hvalid : vnvmeLbaRangeValid r.cmd.slba r.cmd.nlb.toUInt64 ns.totalBlocks = true
  swap
  · rw [if_pos (by simpa using hvalid)]
    refine IoResult.Counts.none (not_or.mpr ⟨Request.not_completes ?_, ?_⟩) rfl
    · rw [Request.beforeParse, if_pos (by simpa using hvalid)]
    · exact fun h => hvalid h.2.1
  have hbefore := Request.beforeParse.eq_def ns r
  rw [if_neg (by simp [hvalid]), if_neg hread, if_pos hopc] at hbefore
  rw [if_neg (by simp [hvalid]), ← commandBytes]
  have hdrops : r.DropsData ns ↔ (writeTarget ns r.os
      (vnvmeBlocksToBytes r.cmd.slba ns.blockSize) (commandBytes ns r.cmd)).1 = .ok .discard :=
    ⟨fun h => h.2.2, fun h => ⟨hopc, hvalid, h⟩⟩
  rcases htarget : writeTarget ns r.os (vnvmeBlocksToBytes r.cmd.slba ns.blockSize)
    (commandBytes ns r.cmd) with ⟨target, ns', os'⟩
  rw [htarget] at hbefore hdrops
  dsimp only at hbefore hdrops ⊢
  rcases target with e | target
  · have hno : ¬ r.DropsData ns := fun h => by cases hdrops.mp h
    exact IoResult.Counts.none (not_or.mpr ⟨Request.not_completes hbefore, hno⟩) rfl
  by_cases hdiscard : target = .discard
  · subst hdiscard
    exact Or.inl ⟨Or.inr (hdrops.mpr rfl), rfl⟩
  have hno : ¬ r.DropsData ns := fun h => hdiscard (Except.ok.inj (hdrops.mp h))
  have hbefore' : r.beforeParse ns = some os' := by
    rw [hbefore]
    cases target with
    | discard => exact absurd rfl hdiscard
    | direct => rfl
    | buffer => rfl
  have hwritten := writeData_ok_iff hopc hdiscard hbefore' htarget
  dsimp only
  generalize writeData ns' os' r.cmd _ _ target = written at hwritten ⊢
  obtain ⟨_ | ⟨⟩, ns'', os''⟩ := written
  · have hfails : ¬ r.Completes ns := fun h => by cases hwritten.mpr h
    exact IoResult.Counts.none (not_or.mpr ⟨hfails, hno⟩) rfl
  · exact Or.inl ⟨Or.inl (hwritten.mp rfl), rfl⟩

theorem handleCompare_counts (hopc : r.cmd.opc = nvmeIoCompare) :
    (handleCompare m r.os r.cmd).Counts m (r.Completes ns) := by
  have hrefused (os : Os) (es : List PrpEntry) :
      r.RefusedBehindLoop ns os es ↔ _ := iff_of_eq (if_neg (by rw [hopc]; decide))
  rcases handleCompare_cases hns hopc with ⟨hnone, os, sc, -, hresult⟩ | ⟨before, hbefore, hcompare⟩
  · rw [hresult]
    exact IoResult.Counts.none (Request.not_completes hnone) rfl
  rw [hcompare, compareBuffered]
  rcases hparse : vnvmeParsePrpList before r.cmd.prp1 r.cmd.prp2
      (commandBytes ns r.cmd).toUInt32 with ⟨_ | es, os⟩
  · exact IoResult.Counts.none (Request.not_completes_of_error hbefore hparse) rfl
  have hgoes := Request.completes_iff hbefore hparse
  rw [hrefused, Request.behindLoop, and_iff_right hopc] at hgoes
  dsimp only
  generalize prpTransfer (copyFromHost 0) (commandBytes ns r.cmd) es
    { os := os, buffer := fun _ => 0 } = t at hgoes ⊢
  cases hst : ns.storage with
  | none =>
      have hcompletes : r.Completes ns := by
        refine hgoes.mpr ?_
        rintro ⟨st, hst', -⟩
        cases hst.symm.trans hst'
      dsimp only
      split_ifs
      · exact Or.inl ⟨hcompletes, rfl⟩
      · exact Or.inl ⟨hcompletes, rfl⟩
  | some st =>
      have hgives := vnvmeStorageRead_success_iff st t.os
        (vnvmeBlocksToBytes r.cmd.slba ns.blockSize) (commandBytes ns r.cmd).toUInt32
      rw [hst] at hgoes
      dsimp only
      generalize vnvmeStorageRead (st, t.os) _ _ = stored at hgives ⊢
      by_cases hok : stored.1.ntSuccess = true
      · have hcompletes : r.Completes ns := by
          refine hgoes.mpr ?_
          rintro ⟨st', hst', hrefuses⟩
          obtain rfl := Option.some.inj hst'
          exact hrefuses (hgives.mp hok)
        rw [if_pos hok]
        split_ifs
        · exact Or.inl ⟨hcompletes, rfl⟩
        · exact Or.inl ⟨hcompletes, rfl⟩
      · rw [if_neg hok]
        refine IoResult.Counts.none (fun h => ?_) rfl
        exact hgoes.mp h ⟨st, rfl, fun h => hok (hgives.mpr h)⟩

theorem handleWriteZeroes_counts :
    (handleWriteZeroes m r.os r.cmd).Counts m (r.TakesZeroes ns) := by
  rw [handleWriteZeroes, hns]
  dsimp only
  by_cases hvalid : vnvmeLbaRangeValid r.cmd.slba r.cmd.nlb.toUInt64 ns.totalBlocks = true
  swap
  · rw [if_pos (by simpa using hvalid)]
    exact IoResult.Counts.none (fun h => hvalid h.1) rfl
  rw [if_neg (by simp [hvalid]), ← commandBytes]
  cases hst : ns.storage with
  | none => exact Or.inl ⟨⟨hvalid, fun st hst' => by cases hst.symm.trans hst'⟩, rfl⟩
  | some st =>
      have htakes : r.TakesZeroes ns ↔ (zeroChunks writeZeroesChunkSize vnvmeStorageWriteZeroes
          ((commandBytes ns r.cmd).toNat + 1) (st, r.os)
          (vnvmeBlocksToBytes r.cmd.slba ns.blockSize) (commandBytes ns r.cmd)).1 = .success := by
        constructor
        · exact fun h => h.2 st hst
        · intro h
          refine ⟨hvalid, fun st' hst' => ?_⟩
          obtain rfl := Option.some.inj (hst.symm.trans hst')
          exact h
      dsimp only
      generalize zeroChunks writeZeroesChunkSize vnvmeStorageWriteZeroes _ (st, r.os) _ _ = zeroed
        at htakes ⊢
      by_cases hok : zeroed.1.ntSuccess = true
      · rw [if_pos hok]
        exact Or.inl ⟨htakes.mpr (by simpa [NtStatus.ntSuccess] using hok), rfl⟩
      · rw [if_neg hok]
        refine IoResult.Counts.none (fun h => hok ?_) rfl
        rw [htakes.mp h]
        rfl

theorem handleDatasetManagement_counts :
    (handleDatasetManagement m r.os r.cmd).Counts m True := by
  refine Or.inl ⟨trivial, ?_⟩
  rw [handleDatasetManagement, hns]
  dsimp only
  by_cases hdeallocate : (!r.cmd.deallocate) = true
  · rw [if_pos hdeallocate]
    rfl
  rw [if_neg hdeallocate]
  by_cases hmapped : (!(r.os.call .mapIoSpace).1) = true
  · rw [if_pos hmapped]
    rfl
  rw [if_neg hmapped]
  cases ns.storage with
  | none => rfl
  | some st => rfl

theorem handleFlush_counts :
    (handleFlush m r.os r.cmd).Counts m True := by
  refine Or.inl ⟨trivial, ?_⟩
  rw [handleFlush, hns]
  split_ifs
  · rfl
  · rfl

theorem handleIoCommand_counts_active :
    (handleIoCommand m r.os r.cmd).Counts m (r.CountedIn ns) := by
  unfold handleIoCommand Request.CountedIn
  by_cases hread : r.cmd.opc = nvmeIoRead
  · rw [if_pos hread, if_pos (Or.inl hread)]
    exact handleRead_counts hns hread
  rw [if_neg hread]
  by_cases hwrite : r.cmd.opc = nvmeIoWrite
  · rw [if_pos hwrite, if_pos hwrite, if_neg (by rw [hwrite]; decide)]
    exact handleWrite_counts hns hwrite
  rw [if_neg hwrite, if_neg hwrite]
  by_cases hflush : r.cmd.opc = nvmeIoFlush
  · rw [if_pos hflush, if_neg (by rw [hflush]; decide), if_neg (by rw [hflush]; decide)]
    exact (handleFlush_counts hns).congr (iff_of_true trivial (Or.inl hflush))
  rw [if_neg hflush]
  by_cases hzeroes : r.cmd.opc = nvmeIoWriteZeroes
  · rw [if_pos hzeroes, if_pos hzeroes, if_neg (by rw [hzeroes]; decide)]
    exact handleWriteZeroes_counts hns
  rw [if_neg hzeroes, if_neg hzeroes]
  by_cases hdsm : r.cmd.opc = nvmeIoDatasetManagement
  · rw [if_pos hdsm, if_neg (by rw [hdsm]; decide)]
    exact (handleDatasetManagement_counts hns).congr (iff_of_true trivial (Or.inr hdsm))
  rw [if_neg hdsm]
  by_cases hcompare : r.cmd.opc = nvmeIoCompare
  · rw [if_pos hcompare, if_pos (Or.inr hcompare)]
    exact handleCompare_counts hns hcompare
  rw [if_neg hcompare, if_neg (not_or.mpr ⟨hread, hcompare⟩)]
  exact IoResult.Counts.none (not_or.mpr ⟨hflush, hdsm⟩) rfl

end Handlers

/-- Without an active namespace, only a Flush for all of them is counted. -/
theorem handleIoCommand_counts_inactive {m : Media} {r : Request}
    (hns : activeNamespace m r.cmd.nsid = none) :
    (handleIoCommand m r.os r.cmd).Counts m
      (r.cmd.opc = nvmeIoFlush ∧ r.cmd.nsid = 0xFFFFFFFF) := by
  by_cases hflush : r.cmd.opc = nvmeIoFlush
  · rw [handleIoCommand, hflush, if_neg (by decide), if_neg (by decide), if_pos rfl, handleFlush,
      hns]
    by_cases hall : r.cmd.nsid = 0xFFFFFFFF
    · rw [if_pos hall]
      exact Or.inl ⟨⟨rfl, hall⟩, rfl⟩
    · rw [if_neg hall]
      exact IoResult.Counts.none (fun h => hall h.2) rfl
  · refine IoResult.Counts.none (fun h => hflush h.1) ?_
    rw [handleIoCommand, if_neg hflush]
    split_ifs
    · rw [handleRead, hns]
    · rw [handleWrite, hns]
    · rw [handleWriteZeroes, hns]
    · rw [handleDatasetManagement, hns]
    · rw [handleCompare, hns]
    · rfl

theorem handleIoCommand_counts (m : Media) (r : Request) :
    (handleIoCommand m r.os r.cmd).Counts m (r.CountsItself m) := by
  cases hns : activeNamespace m r.cmd.nsid with
  | none =>
      refine (handleIoCommand_counts_inactive hns).congr (or_iff_left ?_).symm
      rintro ⟨ns, hns', -⟩
      cases hns.symm.trans hns'
  | some ns =>
      refine (handleIoCommand_counts_active hns).congr ?_
      constructor
      · exact fun h => Or.inr ⟨ns, hns, h⟩
      · rintro (⟨-, hall⟩ | ⟨ns', hns', h⟩)
        · -- the id that stands for all namespaces is that of none
          rw [activeNamespace, hall] at hns
          cases hns
        · obtain rfl := Option.some.inj (hns.symm.trans hns')
          exact h

/-! ## The loop -/

/-- The command that the next round takes, with the kernel and the namespace table that it
finds. -/
def takenRequest (q : Nat) (s : UInt32 × Driver) : Media × Request :=
  (s.2.pdo.toMedia,
    { os := s.2.os
      cmd := (s.2.shm.map fun shm => shm.sqMem q (shm.sq q).head).getD {} })

/-- `VnvmeProcessIoCommands` processes the commands of `l`, in this order, and leaves `d'`. -/
def IoProcesses (d : Driver) (q : UInt16) (newTail : UInt32) (l : List (Media × Request))
    (d' : Driver) : Prop :=
  if IoSkipped d q then l = [] ∧ d' = d
  else
    LoopTrace (processIoStep q (d.pdo.sq q.toNat).size newTail) (takenRequest q.toNat)
      ((d.pdo.sq q.toNat).head, d) l d'

/-- This is what the function does, given fuel for its rounds. -/
theorem vnvmeProcessIoCommands_processes {d d' : Driver} {q : UInt16} {newTail : UInt32} :
    (∃ fuel, vnvmeProcessIoCommands fuel d q newTail = some d') ↔
      ∃ l, IoProcesses d q newTail l d' := by
  rw [vnvmeProcessIoCommands_iff]
  unfold IoProcesses IoExecutes
  by_cases hskip : IoSkipped d q
  · simp only [if_pos hskip]
    exact ⟨fun ⟨_, _, hd⟩ => ⟨[], rfl, hd⟩, fun ⟨_, _, hd⟩ => ⟨[], rfl, hd⟩⟩
  · simp only [if_neg hskip]
    constructor
    · rintro ⟨l, htrace⟩
      obtain ⟨l', htrace', -⟩ := htrace.retake (takenRequest q.toNat)
      exact ⟨l', htrace'⟩
    · rintro ⟨l, htrace⟩
      obtain ⟨l', htrace', -⟩ := htrace.retake (takenSlot q.toNat)
      exact ⟨l', htrace'⟩

/-- Posting a completion leaves the namespaces and the counters alone. -/
theorem vnvmePostCompletion_media (d : Driver) (q : UInt16) (c : NvmeCompletion) :
    (vnvmePostCompletion d q c).2.pdo.toMedia = d.pdo.toMedia := by
  rcases vnvmePostCompletion_cases d q c with ⟨-, hd⟩ | ⟨shm, -, hd⟩
  · rw [hd]
  · rw [hd]
    rfl

theorem vnvmeProcessIoCommand_media (d : Driver) (q : UInt16) (cmd : NvmeCommand) :
    (vnvmeProcessIoCommand d q cmd).2.pdo.toMedia =
      (handleIoCommand d.pdo.toMedia d.os cmd).media := by
  obtain ⟨sct, sc, heq⟩ := vnvmeProcessIoCommand_eq d q cmd
  rw [heq]
  rcases postIoCompletion_cases (ioHandled d cmd) q cmd.cid sct sc with ⟨-, hd⟩ | ⟨c, -, -, hd⟩
  · rw [hd]
    rfl
  · rw [hd, vnvmePostCompletion_media]
    rfl

/-- A list that misses one pair of words. -/
theorem length_lt_of_nodup {l : List (UInt32 × UInt32)} (hnodup : l.Nodup)
    {p : UInt32 × UInt32} (hp : p ∉ l) : l.length < 2 ^ 64 := by
  let code (x : UInt32 × UInt32) : ℕ := x.1.toNat * 2 ^ 32 + x.2.toNat
  have hbound (x : UInt32 × UInt32) : code x < 2 ^ 64 := by
    have h1 := x.1.toNat_lt
    have h2 := x.2.toNat_lt
    show x.1.toNat * 2 ^ 32 + x.2.toNat < 2 ^ 64
    omega
  have hinj : Function.Injective code := by
    intro x y (hxy : x.1.toNat * 2 ^ 32 + x.2.toNat = y.1.toNat * 2 ^ 32 + y.2.toNat)
    have hx := x.2.toNat_lt
    have hy := y.2.toNat_lt
    exact Prod.ext (UInt32.toNat_inj.mp (by omega)) (UInt32.toNat_inj.mp (by omega))
  have hall : ((p :: l).map code).Nodup :=
    (List.nodup_cons.mpr ⟨hp, hnodup⟩).map hinj
  have hsub : (p :: l).map code ⊆ List.range (2 ^ 64) := by
    intro n hn
    obtain ⟨x, -, rfl⟩ := List.mem_map.mp hn
    exact List.mem_range.mpr (hbound x)
  have hle := (hall.subperm hsub).length_le
  rwa [List.length_map, List.length_cons, List.length_range] at hle

section Round

variable {q : UInt16} {size tail : UInt32} {s s' : UInt32 × Driver}

/-- A round counts its command, behind the handler. -/
theorem processIoStep_media (h : processIoStep q size tail s = some (.inl s')) :
    s'.2.pdo.toMedia = (handleIoCommand (takenRequest q.toNat s).1
      (takenRequest q.toNat s).2.os (takenRequest q.toNat s).2.cmd).media.countCommand := by
  unfold processIoStep at h
  dsimp only at h
  by_cases hend : s.1 = tail
  · rw [if_pos hend] at h
    cases h
  rw [if_neg hend] at h
  by_cases hfetch : (vnvmeFetchCommand s.2 q).1.ntSuccess = true
  · rw [if_pos hfetch] at h
    obtain ⟨shm, hshm, heq⟩ := fetch_success hfetch
    obtain rfl := Sum.inl.inj (Option.some.inj h)
    rw [heq, takenRequest, hshm]
    refine congrArg Media.countCommand ?_
    exact vnvmeProcessIoCommand_media (applyFetch s.2 shm q.toNat) q _
  · rw [if_neg hfetch] at h
    cases h

/-- The loop is left with the driver as it is. -/
theorem processIoStep_exit {d' : Driver} (h : processIoStep q size tail s = some (.inr d')) :
    d' = s.2 := by
  unfold processIoStep at h
  dsimp only at h
  by_cases hend : s.1 = tail
  · rw [if_pos hend] at h
    exact (Sum.inr.inj (Option.some.inj h)).symm
  rw [if_neg hend] at h
  by_cases hfetch : (vnvmeFetchCommand s.2 q).1.ntSuccess = true
  · rw [if_pos hfetch] at h
    cases h
  · rw [if_neg hfetch] at h
    obtain rfl := Sum.inr.inj (Option.some.inj h)
    rcases vnvmeFetchCommand_cases s.2 q with ⟨-, hd⟩ | ⟨shm, -, -, heq⟩
    · rw [hd]
    · rw [heq] at hfetch
      exact absurd rfl hfetch

/-- A round counts its command, and once more if the handler does. -/
theorem processIoStep_counts (h : processIoStep q size tail s = some (.inl s')) :
    ∃ n, n ≤ 1 ∧ (n = 0 ↔ ¬ (takenRequest q.toNat s).2.CountsItself (takenRequest q.toNat s).1) ∧
      s'.2.pdo.ioCommandsProcessed = s.2.pdo.ioCommandsProcessed + UInt64.ofNat (1 + n) := by
  have hmedia := congrArg Media.ioCommandsProcessed (processIoStep_media h)
  rcases handleIoCommand_counts (takenRequest q.toNat s).1 (takenRequest q.toNat s).2 with
    ⟨hcounted, hcount⟩ | ⟨hnot, hcount⟩
  · refine ⟨1, le_rfl, iff_of_false Nat.one_ne_zero (not_not.mpr hcounted), hmedia.trans ?_⟩
    rw [Media.countCommand, hcount, UInt64.add_assoc]
    rfl
  · refine ⟨0, Nat.zero_le 1, iff_of_true rfl hnot, hmedia.trans ?_⟩
    rw [Media.countCommand, hcount]
    rfl

/-- The counter behind a run of the loop. -/
theorem ioLoop_counts {l : List (Media × Request)} {d' : Driver}
    (h : LoopTrace (processIoStep q size tail) (takenRequest q.toNat) s l d') :
    ∃ n, n ≤ l.length ∧ (n = 0 ↔ ∀ x ∈ l, ¬ x.2.CountsItself x.1) ∧
      d'.pdo.ioCommandsProcessed =
        s.2.pdo.ioCommandsProcessed + UInt64.ofNat (l.length + n) := by
  induction h with
  | @exit s d' hexit =>
      rw [processIoStep_exit hexit]
      exact ⟨0, le_rfl, iff_of_true rfl (List.forall_mem_nil _), (UInt64.add_zero _).symm⟩
  | @round s s' l d' hround _ ih =>
      obtain ⟨n, hn, hzero, hcount⟩ := ih
      obtain ⟨k, hk, hfirst, hstep⟩ := processIoStep_counts hround
      refine ⟨k + n, ?_, ?_, ?_⟩
      · rw [List.length_cons]
        omega
      · rw [Nat.add_eq_zero_iff, List.forall_mem_cons, hzero, hfirst]
      · rw [hcount, hstep, UInt64.add_assoc, ← UInt64.ofNat_add, List.length_cons]
        congr 2
        omega

/-- What has been seen of the queue when a round starts: the index of the loop, and the head in
the descriptor. Together they decide whether the loop goes on. -/
def ringPlace (q : Nat) (s : UInt32 × Driver) : UInt32 × UInt32 := (s.1, takenSlot q s)

theorem processIoStep_determined (hq : q ≠ 0) {desc : QueueDescriptor} {off : UInt32}
    (t : UInt32 × Driver)
    (hs : ∃ k, (s.2.sqView q.toNat).Accepts q { desc with head := k } off)
    (ht : ∃ k, (t.2.sqView q.toNat).Accepts q { desc with head := k } off)
    (hplace : ringPlace q.toNat s = ringPlace q.toNat t)
    (h : processIoStep q size tail s = some (.inl s')) :
    (∃ k, (s'.2.sqView q.toNat).Accepts q { desc with head := k } off) ∧
      ∃ t', processIoStep q size tail t = some (.inl t') ∧
        ringPlace q.toNat s' = ringPlace q.toNat t' := by
  obtain ⟨k, hk⟩ := hs
  obtain ⟨k', hk'⟩ := ht
  obtain ⟨hindex, hslot⟩ := Prod.mk.inj hplace
  rw [hk.takenSlot, hk'.takenSlot] at hslot
  obtain rfl : k = k' := hslot
  obtain ⟨hne, desc', off', hacc, hpending⟩ := processIoStep_inl (s := s') hq h
  obtain ⟨rfl, rfl⟩ := hacc.unique hk
  have hround (u : UInt32 × Driver) (hindex : u.1 = s.1)
      (hu : (u.2.sqView q.toNat).Accepts q { desc with head := k } off') :
      ∃ u', processIoStep q size tail u = some (.inl u') ∧
        (u'.2.sqView q.toNat).Accepts q { desc with head := next desc.capacity k } off' ∧
        ringPlace q.toNat u' = (next size s.1, next desc.capacity k) := by
    obtain ⟨d', hstep, hview⟩ := processIoStep_takes hq (hindex ▸ hne) hu hpending
    have hnext : (d'.sqView q.toNat).Accepts q { desc with head := next desc.capacity k } off' := by
      rw [hview]
      exact ⟨rfl, hu.offset, hu.limit, hu.created, hu.valid⟩
    refine ⟨_, hstep, hnext, Prod.ext (congrArg (next size) hindex) ?_⟩
    exact hnext.takenSlot (s := (next size u.1, d'))
  obtain ⟨u, hu, hacc', hplace'⟩ := hround s rfl hk
  obtain rfl := Sum.inl.inj (Option.some.inj (h.symm.trans hu))
  obtain ⟨t', ht', -, hplace''⟩ := hround t hindex.symm hk'
  exact ⟨⟨_, hacc'⟩, t', ht', hplace'.trans hplace''.symm⟩

/-- The loop cannot run through all the pairs of an index and a head. -/
theorem ioLoop_length_lt (hq : q ≠ 0) {α : Type} {take : UInt32 × Driver → α} {l : List α}
    {d' : Driver} (h : LoopTrace (processIoStep q size tail) take s l d') :
    l.length < 2 ^ 64 := by
  obtain ⟨places, htrace, hlength⟩ := h.retake (ringPlace q.toNat)
  rw [← hlength]
  cases htrace with
  | exit _ => decide
  | @round _ s' l' _ hround hrest =>
      obtain ⟨-, desc, off, hacc, -⟩ := processIoStep_inl hq hround
      have hnodup := (LoopTrace.round hround hrest).nodup
        (fun s t s' => processIoStep_determined hq t) ⟨desc.head, hacc⟩
      have hne : ∀ p ∈ ringPlace q.toNat s :: l', p.1 ≠ tail :=
        LoopTrace.forall_take (I := fun _ => True) (P := fun p : UInt32 × UInt32 => p.1 ≠ tail)
          (fun s s' _ h => ⟨(processIoStep_inl hq h).1, trivial⟩)
          (LoopTrace.round hround hrest) trivial
      exact length_lt_of_nodup hnodup (p := (tail, 0)) fun hmem => hne _ hmem rfl

end Round

/-- `IoCommandsProcessed` has gone up by one for each of the commands. -/
def CountsEach (d : Driver) (l : List (Media × Request)) (d' : Driver) : Prop :=
  d'.pdo.ioCommandsProcessed = d.pdo.ioCommandsProcessed + UInt64.ofNat l.length

theorem IoProcesses.countsEach_iff {d d' : Driver} {q : UInt16} {newTail : UInt32}
    {l : List (Media × Request)} (h : IoProcesses d q newTail l d') :
    CountsEach d l d' ↔ ∀ x ∈ l, ¬ x.2.CountsItself x.1 := by
  unfold IoProcesses at h
  by_cases hskip : IoSkipped d q
  · rw [if_pos hskip] at h
    obtain ⟨rfl, rfl⟩ := h
    exact iff_of_true (UInt64.add_zero _).symm (List.forall_mem_nil _)
  · rw [if_neg hskip] at h
    have hq : q ≠ 0 := fun hq => hskip (Or.inl (Or.inl hq))
    obtain ⟨n, hn, hzero, hcount⟩ := ioLoop_counts h
    have hlt := ioLoop_length_lt hq h
    have hsmall : (UInt64.ofNat n).toNat = n := UInt64.toNat_ofNat_of_lt' (hn.trans_lt hlt)
    rw [← hzero, CountsEach, hcount, UInt64.add_right_inj, UInt64.ofNat_add, UInt64.add_eq_left,
      ← UInt64.toNat_inj, hsmall]
    rfl

/-- **Counting commands.** A call counts each command that it processes once exactly if none of
them comes to the statement where its handler counts it. -/
theorem commandCount_iff {fuel : Nat} {d d' : Driver} {q : UInt16} {newTail : UInt32}
    (h : vnvmeProcessIoCommands fuel d q newTail = some d') :
    ∃ l, IoProcesses d q newTail l d' ∧
      (CountsEach d l d' ↔ ∀ x ∈ l, ¬ x.2.CountsItself x.1) := by
  obtain ⟨l, hl⟩ := vnvmeProcessIoCommands_processes.mp ⟨fuel, h⟩
  exact ⟨l, hl, hl.countsEach_iff⟩

/-- Two commands for a namespace that does not exist. -/
theorem commandCount_iff_forwarded :
    ∃ d', vnvmeProcessIoCommands 3 forwardedDriver 1 2 = some d' ∧
      ∃ l, IoProcesses forwardedDriver 1 2 l d' ∧
        (CountsEach forwardedDriver l d' ↔ ∀ x ∈ l, ¬ x.2.CountsItself x.1) := by
  have hrun : ∃ d', vnvmeProcessIoCommands 3 forwardedDriver 1 2 = some d' :=
    Option.isSome_iff_exists.mp (by decide)
  obtain ⟨d', hd'⟩ := hrun
  exact ⟨d', hd', commandCount_iff hd'⟩

/-- The same controller, with a Flush of all namespaces in every slot. -/
def flushingDriver : Driver :=
  { forwardedDriver with
    shm := forwardedDriver.shm.map fun shm =>
      { shm with sqMem := fun _ _ => { opc := nvmeIoFlush, nsid := 0xFFFFFFFF } } }

theorem flushes_counted_twice :
    ∃ l d', IoProcesses flushingDriver 1 2 l d' ∧ l.length = 2 ∧
      flushingDriver.pdo.ioCommandsProcessed = 0 ∧ d'.pdo.ioCommandsProcessed = 4 ∧
      ¬ CountsEach flushingDriver l d' := by
  refine ⟨_, _, (if_neg (by decide)).mpr (LoopTrace.round rfl (LoopTrace.round rfl
    (LoopTrace.exit rfl))), rfl, rfl, ?_, ?_⟩
  · decide
  · unfold CountsEach
    decide

end VirtualNvme
