import VirtualNvme.Assignments
import VirtualNvme.Server.Backend
import VirtualNvme.Verification.ServerTransfers

/-!
# What is stored in the server's file

A server with a file backend may be stopped, or killed, and started again with another size,
read-only, or with a memory backend in between. The file holds at each place the byte that was
stored there last, whichever server did it: creating a backend extends the file and changes
nothing else, and a command that succeeds has gone through to the file.
-/

namespace VirtualNvme

open Runs

/-! ## The sessions -/

/-- The file that the server is configured for, and the server while it runs. -/
structure ServerStorage where
  file : Option DiskFile := none
  server : Option IoCmdContext := none

/-- The byte of the file at `x`, if the file goes that far. -/
def fileByte (file : Option DiskFile) (x : UInt64) : Option UInt8 :=
  file.bind fun f => if x < f.size then some (f.data x) else none

def ServerStorage.backend (s : ServerStorage) : Option Backend := s.server.bind (·.backend)

/-- The file as it is now. It stays so if the server ends, in whatever way. -/
def ServerStorage.current (s : ServerStorage) : Option DiskFile :=
  match s.backend with
  | none => s.file
  | some b => backendDestroy b s.file

def ServerStorage.byte (s : ServerStorage) (x : UInt64) : Option UInt8 := fileByte s.current x

/-- `main` from the backend on to the main loop. -/
def startServer (shm : Shm) (storage : StorageConfig) (calls : BackendCalls)
    (file : Option DiskFile) : ServerStorage :=
  let (file, backend) := backendCreate storage.backendConfig calls file
  match backend with
  | none => { file := file }
  | some b =>
    let (ok, ctx) := cmdEngineInitSimple {} shm (some b)
    if ok then { file := file, server := some ctx.ioCtx }
    else { file := backendDestroy b file }

/-- What happens to the server and its file. -/
inductive SessionEvent where
  | start (shm : Shm) (storage : StorageConfig) (calls : BackendCalls)
  | command (c : BufferedCommand)
  | stop

/-- One event; there is one server at a time. -/
def sessionStep (s : ServerStorage) : SessionEvent → ServerStorage
  | .start shm storage calls =>
    if s.server.isSome then s else startServer shm storage calls s.file
  | .command c => { s with server := s.server.map fun ctx => bufferedCommandStep ctx c }
  | .stop => { file := s.current }

/-! ## What the events store -/

/-- The byte that comes to the file at `x` as the backend is created. -/
def BackendConfig.stores (config : BackendConfig) (calls : BackendCalls) (file : Option DiskFile)
    (x : UInt64) : Option UInt8 :=
  if (config.type = .file ∧ config.readOnly = false ∧
      (backendCreate config calls file).2.isSome) ∧
      (file.elim 0 DiskFile.size ≤ x ∧ x < config.size) then
    some (extensionByte config calls x)
  else none

/-- The byte that an event puts into the file at `x`, if it does. -/
def SessionEvent.stores (x : UInt64) (s : ServerStorage) : SessionEvent → Option UInt8
  | .start _ storage calls =>
    if s.server.isSome then none else storage.backendConfig.stores calls s.file x
  | .command c =>
    s.server.bind fun ctx => ctx.backend.bind fun b =>
      if b.type = .file then c.stored ctx b x else none
  | .stop => none

/-! ## Opening the file -/

/-- The backend ends with the file, or it can neither be written nor read. -/
def Backend.Fits (b : Backend) (f : DiskFile) : Prop :=
  b.size ≤ f.size ∨ b.readOnly = true ∧ ∀ n, b.fileOk n = false

section Open

variable {config : BackendConfig} {calls : BackendCalls} {file : Option DiskFile}

/-- What opening a file leaves, case by case. -/
theorem backendFileCreate_cases (config : BackendConfig) (calls : BackendCalls)
    (file : Option DiskFile) :
    backendFileCreate config calls file = (file, none) ∨
      ∃ opened, createFile config calls file = some opened ∧
        (backendFileCreate config calls file = (some opened, none) ∨
          (opened.size < config.size ∧ config.readOnly = false ∧
            backendFileCreate config calls file =
              (some (opened.extend config calls),
                some ((opened.extend config calls).backend config calls config.size))) ∨
          ((config.size ≤ opened.size ∨ config.readOnly = true) ∧
            backendFileCreate config calls file =
              (some opened, some (opened.backend config calls
                (if opened.size > 0 ∧ opened.size < config.size then opened.size
                  else config.size))))) := by
  unfold backendFileCreate
  by_cases hempty : config.size = 0 ∨ config.filePath = []
  · rw [if_pos hempty]
    exact Or.inl rfl
  rw [if_neg hempty]
  by_cases hmemory : (!calls.contextAllocated) = true
  · rw [if_pos hmemory]
    exact Or.inl rfl
  rw [if_neg hmemory]
  cases hopened : createFile config calls file with
  | none => exact Or.inl rfl
  | some opened =>
      refine Or.inr ⟨opened, rfl, ?_⟩
      dsimp only
      by_cases hknown : (!calls.sizeKnown) = true
      · rw [if_pos hknown]
        exact Or.inl rfl
      rw [if_neg hknown]
      by_cases hextends : config.extends opened = true
      · rw [if_pos hextends]
        obtain ⟨hshort, hwritable⟩ : opened.size < config.size ∧ config.readOnly = false := by
          simpa [BackendConfig.extends] using hextends
        by_cases hextended : config.size < 0x8000000000000000 ∧ calls.extended
        · rw [if_pos hextended]
          exact Or.inr (Or.inl ⟨hshort, hwritable, rfl⟩)
        · rw [if_neg hextended]
          exact Or.inl rfl
      · rw [if_neg hextends]
        refine Or.inr (Or.inr ⟨?_, rfl⟩)
        by_cases hshort : opened.size < config.size
        · exact Or.inr (by simpa [BackendConfig.extends, hshort] using hextends)
        · exact Or.inl (UInt64.not_lt.mp hshort)

/-- The file that is opened has the bytes that were there. -/
theorem createFile_some {opened : DiskFile} (h : createFile config calls file = some opened) :
    file.elim 0 DiskFile.size = opened.size ∧ ∀ x, fileByte (some opened) x = fileByte file x := by
  unfold createFile at h
  split_ifs at h
  · subst h
    exact ⟨rfl, fun x => rfl⟩
  · obtain rfl := Option.some.inj h
    cases file with
    | some f => exact ⟨rfl, fun x => rfl⟩
    | none =>
        refine ⟨rfl, fun x => ?_⟩
        simp [fileByte]

theorem extend_byte (opened : DiskFile) (hshort : opened.size < config.size) (x : UInt64) :
    fileByte (some (opened.extend config calls)) x =
      (if opened.size ≤ x ∧ x < config.size then some (extensionByte config calls x)
        else none).or (fileByte (some opened) x) := by
  show (if x < config.size then
      some (if x < opened.size then opened.data x else extensionByte config calls x) else none) =
    Option.or _ (if x < opened.size then some (opened.data x) else none)
  by_cases hold : x < opened.size
  · rw [if_pos (UInt64.lt_trans hold hshort), if_pos hold, if_pos hold,
      if_neg fun h => UInt64.not_lt.mpr h.1 hold]
    rfl
  · rw [if_neg hold, if_neg hold]
    have hnew : opened.size ≤ x := UInt64.not_lt.mp hold
    simp [hnew]

/-- Creating a backend changes the file by its extension only. -/
theorem backendCreate_byte (config : BackendConfig) (calls : BackendCalls)
    (file : Option DiskFile) (x : UInt64) :
    fileByte (backendCreate config calls file).1 x =
      (config.stores calls file x).or (fileByte file x) := by
  unfold BackendConfig.stores backendCreate
  cases htype : config.type with
  | memory => simp
  | file =>
      rcases backendFileCreate_cases config calls file with
        hfail | ⟨opened, hopened, hfail | ⟨hshort, hwritable, hmade⟩ | ⟨hlarge, hmade⟩⟩
      · simp [hfail]
      · obtain ⟨-, hsame⟩ := createFile_some hopened
        simp [hfail, hsame]
      · obtain ⟨hsize, hsame⟩ := createFile_some hopened
        simp only [hmade]
        rw [extend_byte opened hshort, hsame, hsize]
        simp [hwritable]
      · obtain ⟨hsize, hsame⟩ := createFile_some hopened
        simp only [hmade]
        rw [hsame, hsize, if_neg]
        · rfl
        · rintro ⟨⟨-, hwritable, -⟩, hfrom, hto⟩
          rcases hlarge with hle | hro
          · exact UInt64.not_lt.mpr (UInt64.le_trans hle hfrom) hto
          · rw [hwritable] at hro
            cases hro

theorem backendMemoryCreate_type {b : Backend} (h : backendMemoryCreate config calls = some b) :
    b.type = .memory := by
  unfold backendMemoryCreate at h
  split at h
  · cases h
  · split at h
    · obtain rfl := Option.some.inj h
      rfl
    · cases h

/-- The backend of a file has the bytes of the file. -/
theorem backendCreate_backend {b : Backend} (h : (backendCreate config calls file).2 = some b)
    (hfile : b.type = .file) :
    ∃ f, (backendCreate config calls file).1 = some f ∧ b.data = f.data ∧ b.Fits f := by
  unfold backendCreate at h ⊢
  cases htype : config.type with
  | memory =>
      rw [htype] at h
      rw [backendMemoryCreate_type h] at hfile
      cases hfile
  | file =>
      rw [htype] at h
      rcases backendFileCreate_cases config calls file with
        hfail | ⟨opened, hopened, hfail | ⟨hshort, hwritable, hmade⟩ | ⟨hlarge, hmade⟩⟩
      · simp [hfail] at h
      · simp [hfail] at h
      · simp only [hmade] at h ⊢
        obtain rfl := Option.some.inj h
        exact ⟨_, rfl, rfl, Or.inl (UInt64.le_refl _)⟩
      · simp only [hmade] at h ⊢
        obtain rfl := Option.some.inj h
        refine ⟨opened, rfl, rfl, ?_⟩
        show (if _ then _ else _) ≤ opened.size ∨ _
        split_ifs with hshort
        · exact Or.inl (UInt64.le_refl _)
        · by_cases hle : config.size ≤ opened.size
          · exact Or.inl hle
          · have hempty : opened.size = 0 := by
              by_contra hne
              exact hshort ⟨UInt64.pos_iff_ne_zero.mpr hne, UInt64.not_le.mp hle⟩
            refine Or.inr ⟨hlarge.resolve_left hle, fun n => ?_⟩
            simp [DiskFile.backend, hempty]

/-- Closing at once changes nothing. -/
theorem backendCreate_destroy {b : Backend} (h : (backendCreate config calls file).2 = some b) :
    backendDestroy b (backendCreate config calls file).1 =
      (backendCreate config calls file).1 := by
  unfold backendDestroy
  cases htype : b.type with
  | memory => rfl
  | file =>
      obtain ⟨f, hf, hdata, -⟩ := backendCreate_backend h htype
      rw [hf, hdata]
      rfl

end Open

/-! ## Commands -/

/-- What a command does not change about a backend, apart from the size. -/
structure SameDevice (b b' : Backend) : Prop where
  type : b'.type = b.type
  readOnly : b'.readOnly = b.readOnly
  fileOk : b'.fileOk = b.fileOk

theorem SameDevice.refl (b : Backend) : SameDevice b b := ⟨rfl, rfl, rfl⟩

theorem fileCall_device (b : Backend) : SameDevice b b.fileCall.2 := by
  unfold Backend.fileCall
  cases htype : b.type with
  | memory => exact SameDevice.refl b
  | file => exact ⟨htype.symm, rfl, rfl⟩

theorem backendZeroChunks_device (fuel : Nat) {b : Backend} (hfile : b.type = .file)
    (offset remaining : UInt64) : SameDevice b (backendZeroChunks fuel b offset remaining).2 := by
  induction fuel generalizing b offset remaining with
  | zero => exact SameDevice.refl b
  | succ fuel ih =>
      by_cases hzero : remaining = 0
      · rw [backendZeroChunks, if_pos hzero]
        exact SameDevice.refl b
      · have hpos : 0 < remaining.toNat := UInt64.pos_iff_ne_zero.mpr hzero
        obtain ⟨chunk, -, -, hround⟩ := backendZeroChunks_succ fuel hfile offset hpos
        rw [hround]
        split_ifs
        · obtain ⟨htype, hro, hok⟩ := @ih { b with
            fileCalls := b.fileCalls + 1
            data := copyBytes b.data offset (fun _ => 0) 0 chunk.toNat } hfile (offset + chunk)
            (remaining - chunk)
          exact ⟨htype, hro, hok⟩
        · exact ⟨rfl, rfl, rfl⟩

theorem perform_device (b : Backend) (data : UInt32 → UInt8) (call : BackendCall) :
    SameDevice b (call.perform b data).2.2 := by
  have hcall := fileCall_device b
  cases call with
  | read offset length =>
      simp only [BackendCall.perform, backendRead]
      split_ifs
      · exact SameDevice.refl b
      · exact hcall
      · exact hcall
  | write offset length =>
      simp only [BackendCall.perform, backendWrite]
      split_ifs
      · exact SameDevice.refl b
      · exact SameDevice.refl b
      · exact ⟨hcall.type, hcall.readOnly, hcall.fileOk⟩
      · exact hcall
  | writeZeroes offset length =>
      simp only [BackendCall.perform, backendWriteZeroes]
      split_ifs
      · exact SameDevice.refl b
      · exact SameDevice.refl b
      · cases htype : b.type with
        | memory => exact ⟨htype.symm, rfl, rfl⟩
        | file => exact backendZeroChunks_device _ htype _ _

/-- A command stores nothing on a backend that may only be read. -/
theorem stored_readOnly (ctx : IoCmdContext) {b : Backend} (c : BufferedCommand)
    (hro : b.readOnly = true) (x : UInt64) : c.stored ctx b x = none := by
  unfold BufferedCommand.stored Backend.written Backend.zeroed
  simp [hro]

section Command

variable {ctx : IoCmdContext} {b : Backend} (hb : ctx.backend = some b) (c : BufferedCommand)

include hb

theorem command_device : ∃ b', (bufferedCommandStep ctx c).backend = some b' ∧ SameDevice b b' := by
  by_cases hc : c.Ranged
  · refine ⟨_, (reply_replies hc hb).backend, ?_⟩
    unfold BufferedCommand.outcome
    cases c.backendCall ctx with
    | none => exact SameDevice.refl b
    | some call => exact perform_device b c.data call
  · simp only [BufferedCommand.Ranged, not_or] at hc
    obtain ⟨hread, hwrite, hzeroes⟩ := hc
    unfold bufferedCommandStep BufferedCommand.reply ioCmdDispatch
    dsimp only
    rw [if_neg hread, if_neg hwrite, if_neg hzeroes]
    split_ifs
    · unfold ioCmdFlush
      rw [hb]
      dsimp only
      split_ifs
      · exact ⟨_, rfl, fileCall_device b⟩
      · exact ⟨_, rfl, fileCall_device b⟩
    · exact ⟨b, hb, SameDevice.refl b⟩
    · exact ⟨b, hb, SameDevice.refl b⟩

/-- A command stores its bytes in the same device, which keeps its size. -/
theorem command_stores : ∃ b', (bufferedCommandStep ctx c).backend = some b' ∧
    SameDevice b b' ∧ Stores b b' (c.stored ctx b) := by
  obtain ⟨b', hb', hdevice⟩ := command_device hb c
  obtain ⟨b₁, stats, hstep, hstores⟩ := (bufferedCommandStep_carries ctx c).2 b hb
  rw [hstep] at hb'
  obtain rfl : b₁ = b' := Option.some.inj hb'
  exact ⟨b₁, by rw [hstep], hdevice, hstores⟩

/-- It stores nothing behind the end of the backend. -/
theorem stored_behind (hblocks : WholeBlocks ctx) {x : UInt64} (hx : b.size ≤ x) :
    c.stored ctx b x = none := by
  have hbehind {call : BackendCall} (hcall : c.backendCall ctx = some call) :
      ¬ (x - call.offset).toNat < call.length.toNat :=
    place_of_inside (hblocks.inside hb hcall) hx
  unfold BufferedCommand.stored
  by_cases hrefused : ioCmdValidateLbaRange ctx c.cmd.nsid c.cmd.slba c.cmd.nlb.toUInt32 = false ∨
      (ctx.nsConfig c.cmd.nsid).readOnly = true
  · rw [if_pos hrefused]
  · rw [if_neg hrefused]
    obtain ⟨hrange, hro⟩ := not_or.mp hrefused
    have ha : c.Accepted ctx := ⟨eq_true_of_ne_false hrange, Or.inr (eq_false_of_ne_true hro)⟩
    split_ifs with hwrite hfits hzeroes
    · have hplace := hbehind ((backendCall_write hwrite ha).trans (if_pos hfits))
      rw [Backend.written, if_neg]
      exact fun h => hplace ((UInt32.toNat_toUInt64 _).symm ▸ h.2)
    · rfl
    · have hplace := hbehind (backendCall_writeZeroes hzeroes ha)
      rw [Backend.zeroed, if_neg]
      exact fun h => hplace h.2.1
    · rfl

end Command

/-! ## One event -/

/-- The tables of the server fit its backend, and the backend fits the file. -/
def OnFile (s : ServerStorage) : Prop :=
  ∀ ctx, s.server = some ctx → WholeBlocks ctx ∧
    ∀ b, ctx.backend = some b → b.type = .file → ∃ f, s.file = some f ∧ b.Fits f

theorem cmdEngineInitSimple_backend {shm : Shm} {b : Backend}
    (h : (cmdEngineInitSimple {} shm (some b)).1 = true) :
    (cmdEngineInitSimple {} shm (some b)).2.ioCtx.backend = some b := by
  unfold cmdEngineInitSimple cmdEngineInit at h ⊢
  by_cases hmagic : shm.magic ≠ 0x454D564E
  · rw [if_pos hmagic] at h
    cases h
  · rw [if_neg hmagic]
    rfl

/-- The server runs on the backend that it has created, or it is gone and has left the file. -/
theorem startServer_cases (shm : Shm) (storage : StorageConfig) (calls : BackendCalls)
    (file : Option DiskFile) :
    let r := backendCreate storage.backendConfig calls file
    startServer shm storage calls file = { file := r.1 } ∨
      ∃ b ctx, r.2 = some b ∧ ctx.backend = some b ∧ WholeBlocks ctx ∧
        startServer shm storage calls file = { file := r.1, server := some ctx } := by
  intro r
  have hr : backendCreate storage.backendConfig calls file = (r.1, r.2) := rfl
  unfold startServer
  rw [hr]
  cases hbackend : r.2 with
  | none => exact Or.inl rfl
  | some b =>
      dsimp only
      cases hok : (cmdEngineInitSimple {} shm (some b)).1 with
      | false =>
          refine Or.inl ?_
          rw [if_neg Bool.false_ne_true, backendCreate_destroy hbackend]
      | true =>
          rw [if_pos rfl]
          exact Or.inr ⟨b, _, rfl, cmdEngineInitSimple_backend hok,
            cmdEngineInitSimple_wholeBlocks shm (some b), rfl⟩

theorem current_none {s : ServerStorage} (h : s.server = none) : s.current = s.file := by
  unfold ServerStorage.current ServerStorage.backend
  rw [h]
  rfl

theorem current_some {s : ServerStorage} {ctx : IoCmdContext} {b : Backend}
    (h : s.server = some ctx) (hb : ctx.backend = some b) :
    s.current = backendDestroy b s.file := by
  have hbackend : s.backend = some b := by
    unfold ServerStorage.backend
    rw [h]
    exact hb
  unfold ServerStorage.current
  rw [hbackend]

theorem OnFile.step {s : ServerStorage} (h : OnFile s) (e : SessionEvent) :
    OnFile (sessionStep s e) := by
  cases e with
  | stop =>
      rintro ctx ⟨⟩
  | start shm storage calls =>
      unfold sessionStep
      dsimp only
      split
      · exact h
      · rcases startServer_cases shm storage calls s.file with
          hfail | ⟨b, ctx, hmade, hb, hblocks, hstart⟩
        · rw [hfail]
          rintro ctx ⟨⟩
        · rw [hstart]
          intro ctx' hctx'
          obtain rfl := Option.some.inj hctx'
          refine ⟨hblocks, fun b' hb' hfile => ?_⟩
          obtain rfl := Option.some.inj (hb.symm.trans hb')
          obtain ⟨f, hf, -, hfits⟩ := backendCreate_backend hmade hfile
          exact ⟨f, hf, hfits⟩
  | command c =>
      intro ctx' hctx'
      obtain ⟨ctx, hctx, rfl⟩ := Option.map_eq_some_iff.mp hctx'
      obtain ⟨hblocks, hfits⟩ := h ctx hctx
      refine ⟨hblocks.step c, fun b' hb' hfile => ?_⟩
      cases hb : ctx.backend with
      | none =>
          obtain ⟨stats, hstep⟩ := (bufferedCommandStep_carries ctx c).1 hb
          rw [hstep, hb] at hb'
          cases hb'
      | some b =>
          obtain ⟨b₁, hb₁, hdevice, hstores⟩ := command_stores hb c
          obtain rfl := Option.some.inj (hb₁.symm.trans hb')
          obtain ⟨f, hf, hfit⟩ := hfits b hb (hdevice.type ▸ hfile)
          refine ⟨f, hf, ?_⟩
          unfold Backend.Fits
          rw [hstores.size, hdevice.readOnly, hdevice.fileOk]
          exact hfit

/-- An event stores its byte in the file, or the file keeps the one that it had. -/
theorem sessionStep_byte {s : ServerStorage} (h : OnFile s) (e : SessionEvent) (x : UInt64) :
    (sessionStep s e).byte x = (e.stores x s).or (s.byte x) := by
  cases e with
  | stop => rfl
  | start shm storage calls =>
      unfold sessionStep SessionEvent.stores
      cases hserver : s.server with
      | some ctx => rfl
      | none =>
          dsimp only
          rw [if_neg (by simp), if_neg (by simp)]
          have hbyte : (startServer shm storage calls s.file).byte x =
              fileByte (backendCreate storage.backendConfig calls s.file).1 x := by
            unfold ServerStorage.byte
            rcases startServer_cases shm storage calls s.file with
              hfail | ⟨b, ctx, hmade, hb, -, hstart⟩
            · rw [hfail, current_none rfl]
            · rw [hstart, current_some rfl hb, backendCreate_destroy hmade]
          rw [hbyte, backendCreate_byte, ServerStorage.byte, current_none hserver]
  | command c =>
      cases hserver : s.server with
      | none => simp [sessionStep, SessionEvent.stores, hserver, ServerStorage.byte, current_none]
      | some ctx =>
          have hserver' : (sessionStep s (.command c)).server =
              some (bufferedCommandStep ctx c) := by
            simp [sessionStep, hserver]
          have hstored : SessionEvent.stores x s (.command c) = ctx.backend.bind fun b =>
              if b.type = .file then c.stored ctx b x else none := by
            simp [SessionEvent.stores, hserver]
          rw [hstored]
          obtain ⟨hblocks, hfits⟩ := h ctx hserver
          cases hb : ctx.backend with
          | none =>
              obtain ⟨stats, hstep⟩ := (bufferedCommandStep_carries ctx c).1 hb
              have hsame : (sessionStep s (.command c)).current = s.current := by
                unfold ServerStorage.current ServerStorage.backend
                rw [hserver', hserver, hstep]
                rfl
              unfold ServerStorage.byte
              rw [hsame]
              rfl
          | some b =>
              obtain ⟨b', hb', hdevice, hstores⟩ := command_stores hb c
              unfold ServerStorage.byte
              rw [current_some hserver' hb', current_some hserver hb]
              unfold backendDestroy
              rw [hdevice.type]
              cases htype : b.type with
              | memory => simp [sessionStep, htype]
              | file =>
                  obtain ⟨f, hf, hfit⟩ := hfits b hb htype
                  have hf' : (sessionStep s (.command c)).file = some f := hf
                  rw [hf, hf']
                  show (if x < f.size then some (b'.data x) else none) =
                    Option.or (if b.type = .file then c.stored ctx b x else none)
                      (if x < f.size then some (b.data x) else none)
                  rw [if_pos htype, hstores.data]
                  by_cases hx : x < f.size
                  · rw [if_pos hx, if_pos hx]
                    cases c.stored ctx b x <;> rfl
                  · have hnone : c.stored ctx b x = none := by
                      rcases hfit with hle | ⟨hro, -⟩
                      · exact stored_behind hb c hblocks
                          (UInt64.le_trans hle (UInt64.not_lt.mp hx))
                      · exact stored_readOnly ctx c hro x
                    rw [if_neg hx, if_neg hx, hnone]
                    rfl

/-! ## What is served -/

theorem backendZeroChunks_ok (fuel : Nat) {b : Backend} (hfile : b.type = .file)
    {offset remaining : UInt64} (hfuel : remaining.toNat < fuel)
    (h : (backendZeroChunks fuel b offset remaining).1 = true) :
    ∀ j, j * 65536 < remaining.toNat → b.fileOk (b.fileCalls + j) = true := by
  induction fuel generalizing b offset remaining with
  | zero => exact absurd hfuel (Nat.not_lt_zero _)
  | succ fuel ih =>
      intro j hj
      have hpos : 0 < remaining.toNat := Nat.lt_of_le_of_lt (Nat.zero_le _) hj
      obtain ⟨chunk, hchunk, hsub, hround⟩ := backendZeroChunks_succ fuel hfile offset hpos
      rw [hround] at h
      by_cases hok : b.fileOk b.fileCalls = true
      · rw [if_pos hok] at h
        cases j with
        | zero => exact hok
        | succ j =>
            have hnext : j * 65536 < (remaining - chunk).toNat := by
              have hsucc : (j + 1) * 65536 = j * 65536 + 65536 := Nat.succ_mul j 65536
              have hj : j * 65536 + 65536 < remaining.toNat := hsucc ▸ hj
              have hle : chunk.toNat ≤ 65536 := hchunk ▸ Nat.min_le_right _ _
              calc j * 65536 < remaining.toNat - 65536 := Nat.lt_sub_of_add_lt hj
                _ ≤ remaining.toNat - chunk.toNat := Nat.sub_le_sub_left hle _
                _ = (remaining - chunk).toNat := hsub.symm
            have hrest := @ih { b with
              fileCalls := b.fileCalls + 1
              data := copyBytes b.data offset (fun _ => 0) 0 chunk.toNat } hfile (offset + chunk)
              (remaining - chunk) (by omega) h j hnext
            rw [Nat.add_comm j 1, ← Nat.add_assoc]
            exact hrest
      · rw [if_neg hok] at h
        cases h

theorem backendWriteZeroes_ok {b : Backend} {offset size : UInt64}
    (h : (backendWriteZeroes b offset size).1 = true) :
    (b.readOnly = false ∧ offset + size ≤ b.size) ∧
      ∀ j, j * 65536 < size.toNat → b.CallOk j := by
  unfold backendWriteZeroes at h
  split_ifs at h with hro hrange
  refine ⟨⟨eq_false_of_ne_true hro, UInt64.not_lt.mp hrange⟩, fun j hj => ?_⟩
  unfold Backend.CallOk
  cases htype : b.type with
  | memory => exact Or.inl rfl
  | file =>
      rw [htype] at h
      have hfuel : size.toNat < size.toNat + 1 := Nat.lt_succ_self _
      exact Or.inr (backendZeroChunks_ok _ htype hfuel h j hj)

/-- The server that runs serves the file: what a Read returns is in the file, and what a Write or
Write Zeroes was to store is there once it has succeeded. -/
structure ServesFile (s : ServerStorage) (ctx : IoCmdContext) (c : BufferedCommand) : Prop where
  read : c.cmd.opc = nvmeIoRead → BufferFits ctx c.cmd → ∀ i, i < transferLength ctx c.cmd →
    s.byte (backendOffset ctx c.cmd + i.toUInt64) = some ((c.reply ctx).data i)
  write : c.cmd.opc = nvmeIoWrite → BufferFits ctx c.cmd → ∀ i, i < transferLength ctx c.cmd →
    (sessionStep s (.command c)).byte (backendOffset ctx c.cmd + i.toUInt64) = some (c.data i)
  writeZeroes : c.cmd.opc = nvmeIoWriteZeroes → ∀ i, i < zeroLength ctx c.cmd →
    (sessionStep s (.command c)).byte (backendOffset ctx c.cmd + i) = some 0

section Served

variable {s : ServerStorage} {ctx : IoCmdContext} {b : Backend} {c : BufferedCommand}

theorem offset_sub (offset i : UInt64) : offset + i - offset = i := by
  rw [UInt64.add_comm, UInt64.add_sub_cancel]

theorem command_byte (h : OnFile s) (hserver : s.server = some ctx) (hb : ctx.backend = some b)
    (hfile : b.type = .file) {x : UInt64} {v : UInt8} (hstored : c.stored ctx b x = some v) :
    (sessionStep s (.command c)).byte x = some v := by
  rw [sessionStep_byte h]
  have hstores : SessionEvent.stores x s (.command c) = some v := by
    simp only [SessionEvent.stores, hserver, hb, Option.bind_some, hfile, if_true, hstored]
  rw [hstores]
  rfl

theorem outcome_writeZeroes (hopc : c.cmd.opc = nvmeIoWriteZeroes) (ha : c.Accepted ctx) :
    (c.outcome ctx b).1 =
      (backendWriteZeroes b (backendOffset ctx c.cmd) (zeroLength ctx c.cmd)).1 := by
  rw [BufferedCommand.outcome, backendCall_writeZeroes hopc ha]
  rfl

/-- A backend that can be read ends with the file. -/
theorem Backend.Fits.size_le {f : DiskFile} (h : b.Fits f) (hfile : b.type = .file)
    (hok : b.CallOk 0) : b.size ≤ f.size := by
  rcases h with hle | ⟨-, hnone⟩
  · exact hle
  · rcases hok with hmemory | hok
    · rw [hfile] at hmemory
      cases hmemory
    · rw [hnone] at hok
      cases hok

variable (h : OnFile s) (hserver : s.server = some ctx) (hb : ctx.backend = some b)
  (hfile : b.type = .file) (hok : (c.reply ctx).Succeeds)

include h hserver hb hfile hok

theorem read_served (hopc : c.cmd.opc = nvmeIoRead) (hbuffer : BufferFits ctx c.cmd) {i : UInt32}
    (hi : i < transferLength ctx c.cmd) :
    s.byte (backendOffset ctx c.cmd + i.toUInt64) = some ((c.reply ctx).data i) := by
  have hreplies := reply_replies (Or.inl hopc) hb
  obtain ⟨ha, hcalled⟩ := hreplies.success hok
  rw [outcome_read hopc ha hbuffer] at hcalled
  obtain ⟨hblocks, hfits⟩ := h ctx hserver
  obtain ⟨f, hf, hfit⟩ := hfits b hb hfile
  have hcall := (backendCall_read hopc ha).trans (if_pos hbuffer)
  have hplace : backendOffset ctx c.cmd + i.toUInt64 < f.size := by
    have hinside : (backendOffset ctx c.cmd).toNat +
        (transferLength ctx c.cmd).toUInt64.toNat ≤ b.size.toNat := hblocks.inside hb hcall
    rw [UInt32.toNat_toUInt64] at hinside
    have hi : i.toNat < (transferLength ctx c.cmd).toNat := UInt32.lt_iff_toNat_lt.mp hi
    have hsize : b.size.toNat ≤ f.size.toNat := UInt64.le_iff_toNat_le.mp
      (hfit.size_le hfile ((backendRead_ok _ _ _).mp hcalled).2)
    have hmax := f.size.toNat_lt
    rw [UInt64.lt_iff_toNat_lt, UInt64.toNat_add, UInt32.toNat_toUInt64]
    omega
  have hdata : (c.reply ctx).data i = b.data (backendOffset ctx c.cmd + i.toUInt64) := by
    rw [hreplies.data, outcome_read hopc ha hbuffer, backendRead_data, if_pos hcalled]
    exact if_pos hi
  rw [hdata, ServerStorage.byte, current_some hserver hb, backendDestroy, hfile, hf]
  exact if_pos hplace

theorem write_served (hopc : c.cmd.opc = nvmeIoWrite) (hbuffer : BufferFits ctx c.cmd)
    {i : UInt32} (hi : i < transferLength ctx c.cmd) :
    (sessionStep s (.command c)).byte (backendOffset ctx c.cmd + i.toUInt64) =
      some (c.data i) := by
  obtain ⟨ha, hcalled⟩ := (reply_replies (Or.inr (Or.inl hopc)) hb).success hok
  rw [outcome_write hopc ha hbuffer] at hcalled
  have hro : (ctx.nsConfig c.cmd.nsid).readOnly = false := by
    refine ha.2.resolve_left ?_
    rw [hopc]
    decide
  have hgate := (backendWrite_ok _ _ _).mp hcalled
  refine command_byte h hserver hb hfile ?_
  rw [stored_accepted ctx c b ha.1 (by simp [hro]), if_pos hopc, if_pos hbuffer,
    Backend.written, offset_sub, UInt32.toNat_toUInt64, if_pos ⟨hgate, hi⟩,
    UInt32.toUInt32_toUInt64]

theorem writeZeroes_served (hopc : c.cmd.opc = nvmeIoWriteZeroes) {i : UInt64}
    (hi : i < zeroLength ctx c.cmd) :
    (sessionStep s (.command c)).byte (backendOffset ctx c.cmd + i) = some 0 := by
  obtain ⟨ha, hcalled⟩ := (reply_replies (Or.inr (Or.inr hopc)) hb).success hok
  rw [outcome_writeZeroes hopc ha] at hcalled
  have hro : (ctx.nsConfig c.cmd.nsid).readOnly = false := by
    refine ha.2.resolve_left ?_
    rw [hopc]
    decide
  have hwrite : c.cmd.opc ≠ nvmeIoWrite := by
    rw [hopc]
    decide
  obtain ⟨hgate, hchunks⟩ := backendWriteZeroes_ok hcalled
  have hi : i.toNat < (zeroLength ctx c.cmd).toNat := UInt64.lt_iff_toNat_lt.mp hi
  refine command_byte h hserver hb hfile ?_
  rw [stored_accepted ctx c b ha.1 (by simp [hro]), if_neg hwrite, if_pos hopc, Backend.zeroed,
    offset_sub, if_pos]
  exact ⟨hgate, hi, fun j hj => hchunks j (by omega)⟩

theorem servesFile_of_succeeds : ServesFile s ctx c :=
  ⟨fun hopc hbuffer _ hi => read_served h hserver hb hfile hok hopc hbuffer hi,
    fun hopc hbuffer _ hi => write_served h hserver hb hfile hok hopc hbuffer hi,
    fun hopc _ hi => writeZeroes_served h hserver hb hfile hok hopc hi⟩

end Served

/-! ## Any number of sessions -/

/-- **What is stored stays.** The server is started, runs commands and ends, any number of times
and each time with a configuration of its own. Each byte of the file is the last one that was
stored at its place, or the one that was there at the beginning. As long as a server runs on the
file, its Reads return these bytes, and its Writes that succeed are among those that stay. -/
theorem sessions_keep_data (file : Option DiskFile) (es : List SessionEvent) :
    let s := run sessionStep { file := file } es
    (∀ x, s.byte x = (Assignments.lastAlong sessionStep (SessionEvent.stores x)
        { file := file } es).or (fileByte file x)) ∧
      ∀ ctx b c, s.server = some ctx → ctx.backend = some b → b.type = .file →
        (c.reply ctx).Succeeds → ServesFile s ctx c := by
  intro s
  have hinit : OnFile { file := file } := by
    rintro ctx ⟨⟩
  refine ⟨fun x => ?_, fun ctx b c hserver hb hfile hok => ?_⟩
  · exact Assignments.foldl_lastAlong sessionStep (fun s => s.byte x) (SessionEvent.stores x)
      (J := OnFile) (fun _ e h => h.step e) (fun _ e h => sessionStep_byte h e x) hinit es
  · have hbacked : OnFile s := run_induct (P := OnFile) (fun _ e h => h.step e) hinit es
    exact servesFile_of_succeeds hbacked hserver hb hfile hok

/-- What a server has written before it was killed is in the file of the next one, which may only
read it. -/
theorem sessions_keep_data_restart :
    let shm := { vnvmeAllocateShm with dataBufferOffset := 0x10000, dataBufferSize := 4096 }
    let storage : StorageConfig := { backendType := .file, size := 4096, filePath := [0x76] }
    let write : BufferedCommand :=
      { data := fun _ => 0xAB, cmd := { opc := nvmeIoWrite, nsid := 1 } }
    let s := run sessionStep {}
      [.start shm storage {}, .command write, .stop,
        .start shm { storage with readOnly := true } {}]
    s.server.isSome ∧ s.byte 511 = some 0xAB ∧ s.byte 512 = some 0 := by
  intro shm storage write s
  obtain ⟨hbytes, -⟩ := sessions_keep_data none
    [.start shm storage {}, .command write, .stop, .start shm { storage with readOnly := true } {}]
  exact ⟨by decide, (hbytes 511).trans (by decide), (hbytes 512).trans (by decide)⟩

end VirtualNvme
