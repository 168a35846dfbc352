import VirtualNvme.Runs
import VirtualNvme.Server.CommandEngine

/-!
# One backend for all namespaces of the server

The server checks a command against its own namespace, but it computes the place in the backend
from the block number alone. All namespaces start at the same place of the one backend. A command
to one namespace leaves the data of another one alone exactly if what it stores where the other
one reads is there already.
-/

namespace VirtualNvme

open Runs

/-! ## What a command stores -/

/-- The `j`-th file call from now on succeeds; the memory backend makes none. -/
def Backend.CallOk (b : Backend) (j : Nat) : Prop :=
  b.type = .memory ∨ b.fileOk (b.fileCalls + j) = true

instance (b : Backend) (j : Nat) : Decidable (b.CallOk j) := inferInstanceAs (Decidable (_ ∨ _))

/-- A command with the data buffer that the driver has filled for it. -/
structure BufferedCommand where
  actx : AdminCmdContext := {}
  data : UInt32 → UInt8 := fun _ => 0
  cmd : NvmeCommand
  queueId : UInt16 := 1

def BufferedCommand.reply (c : BufferedCommand) (ctx : IoCmdContext) : IoReply :=
  ioCmdDispatch c.actx ctx c.data c.cmd c.queueId

def bufferedCommandStep (ctx : IoCmdContext) (c : BufferedCommand) : IoCmdContext :=
  (c.reply ctx).ctx

/-- `slba * blockSize`, the place of a command in the backend. -/
def backendOffset (ctx : IoCmdContext) (cmd : NvmeCommand) : UInt64 :=
  cmd.slba * (ctx.nsConfig cmd.nsid).blockSize.toUInt64

/-- `nlb * blockSize` in 32 bits, as Read and Write have it. -/
def transferLength (ctx : IoCmdContext) (cmd : NvmeCommand) : UInt32 :=
  cmd.nlb.toUInt32 * (ctx.nsConfig cmd.nsid).blockSize

/-- `nlb * blockSize` in 64 bits, as Write Zeroes has it. -/
def zeroLength (ctx : IoCmdContext) (cmd : NvmeCommand) : UInt64 :=
  cmd.nlb.toUInt64 * (ctx.nsConfig cmd.nsid).blockSize.toUInt64

/-- The byte that `BackendWrite` stores at `x`, if it does. -/
def Backend.written (b : Backend) (offset : UInt64) (buffer : UInt32 → UInt8) (size : UInt32)
    (x : UInt64) : Option UInt8 :=
  if (b.readOnly = false ∧ offset + size.toUInt64 ≤ b.size ∧ b.CallOk 0) ∧
      (x - offset).toNat < size.toNat then some (buffer (x - offset).toUInt32)
  else none

/-- The byte that `BackendWriteZeroes` stores at `x`, if it does; the file backend writes chunks
of 64 KB up to the first that fails. -/
def Backend.zeroed (b : Backend) (offset size x : UInt64) : Option UInt8 :=
  if (b.readOnly = false ∧ offset + size ≤ b.size) ∧ (x - offset).toNat < size.toNat ∧
      ∀ j, j ≤ (x - offset).toNat / 65536 → b.CallOk j then some 0
  else none

/-- The data buffer has room for the blocks of a Read or Write. -/
def BufferFits (ctx : IoCmdContext) (cmd : NvmeCommand) : Prop :=
  ctx.dataBuffer ∧ transferLength ctx cmd ≤ ctx.dataBufferSize

instance (ctx : IoCmdContext) (cmd : NvmeCommand) : Decidable (BufferFits ctx cmd) :=
  inferInstanceAs (Decidable (_ ∧ _))

/-- The byte that the command stores at address `x` of the backend, if it does. -/
def BufferedCommand.stored (ctx : IoCmdContext) (c : BufferedCommand) (b : Backend) (x : UInt64) :
    Option UInt8 :=
  if ioCmdValidateLbaRange ctx c.cmd.nsid c.cmd.slba c.cmd.nlb.toUInt32 = false ∨
      (ctx.nsConfig c.cmd.nsid).readOnly = true then none
  else if c.cmd.opc = nvmeIoWrite then
    if BufferFits ctx c.cmd then
      b.written (backendOffset ctx c.cmd) c.data (transferLength ctx c.cmd) x
    else none
  else if c.cmd.opc = nvmeIoWriteZeroes then
    b.zeroed (backendOffset ctx c.cmd) (zeroLength ctx c.cmd) x
  else none

/-- The size stays, and the data changes as `f` says. -/
structure Stores (b b' : Backend) (f : UInt64 → Option UInt8) : Prop where
  size : b'.size = b.size
  data : ∀ x, b'.data x = (f x).getD (b.data x)

theorem Stores.none {b b' : Backend} (hsize : b'.size = b.size) (hdata : b'.data = b.data) :
    Stores b b' fun _ => none :=
  ⟨hsize, fun x => congrFun hdata x⟩

theorem fileCall_ok (b : Backend) : b.fileCall.1 = true ↔ b.CallOk 0 := by
  unfold Backend.fileCall Backend.CallOk
  cases htype : b.type <;> simp

theorem fileCall_frame (b : Backend) :
    b.fileCall.2.size = b.size ∧ b.fileCall.2.data = b.data := by
  unfold Backend.fileCall
  cases b.type <;> exact ⟨rfl, rfl⟩

theorem copyBytes_zero (data : UInt64 → UInt8) (offset x : UInt64) (n : Nat) :
    copyBytes data offset (fun _ => 0) 0 n x = if (x - offset).toNat < n then 0 else data x := rfl

/-- A place seen from a point further on; in front of that point it wraps. -/
theorem place_add (x offset c : UInt64) :
    (x - (offset + c)).toNat =
      if c.toNat ≤ (x - offset).toNat then (x - offset).toNat - c.toNat
      else 2 ^ 64 + (x - offset).toNat - c.toNat := by
  have hsub : x - (offset + c) = (x - offset) - c := by
    rw [UInt64.sub_eq_add_neg, UInt64.neg_add, UInt64.sub_eq_add_neg, UInt64.sub_eq_add_neg,
      UInt64.sub_eq_add_neg, UInt64.add_assoc]
  have hc := c.toNat_lt
  have hp := (x - offset).toNat_lt
  rw [hsub, UInt64.toNat_sub]
  split_ifs <;> omega

/-- The first chunk is zeroed, and the rest as the loop goes on from there. -/
theorem zeroed_cons {ok : Nat → Bool} {calls place rest remaining chunk : Nat}
    (hchunk : chunk = min remaining 65536) (hremaining : remaining < 2 ^ 64)
    (hrest : rest = if chunk ≤ place then place - chunk else 2 ^ 64 + place - chunk)
    (hok : ok calls = true) :
    (place < remaining ∧ ∀ j, j ≤ place / 65536 → ok (calls + j) = true) ↔
      place < chunk ∨
        (rest < remaining - chunk ∧ ∀ j, j ≤ rest / 65536 → ok (calls + 1 + j) = true) := by
  by_cases hplace : place < chunk
  · refine iff_of_true ⟨by omega, fun j hj => ?_⟩ (Or.inl hplace)
    obtain rfl : j = 0 := by omega
    exact hok
  · rw [if_pos (Nat.not_lt.mp hplace)] at hrest
    constructor
    · rintro ⟨hlt, hall⟩
      refine Or.inr ⟨by omega, fun j hj => ?_⟩
      rw [Nat.add_assoc, Nat.add_comm 1 j]
      exact hall (j + 1) (by omega)
    · rintro (hlt | ⟨hlt, hall⟩)
      · exact absurd hlt hplace
      · refine ⟨by omega, fun j hj => ?_⟩
        cases j with
        | zero => exact hok
        | succ j =>
            rw [Nat.add_comm j 1, ← Nat.add_assoc]
            exact hall j (by omega)

/-- One round of the chunk loop of the file backend. -/
theorem backendZeroChunks_succ (fuel : Nat) {b : Backend} (hfile : b.type = .file)
    (offset : UInt64) {remaining : UInt64} (hpos : 0 < remaining.toNat) :
    ∃ chunk : UInt64, chunk.toNat = min remaining.toNat 65536 ∧
      (remaining - chunk).toNat = remaining.toNat - chunk.toNat ∧
      backendZeroChunks (fuel + 1) b offset remaining =
        if b.fileOk b.fileCalls = true then
          backendZeroChunks fuel
            { b with
              fileCalls := b.fileCalls + 1
              data := copyBytes b.data offset (fun _ => 0) 0 chunk.toNat }
            (offset + chunk) (remaining - chunk)
        else (false, { b with fileCalls := b.fileCalls + 1 }) := by
  have h64 : (65536 : UInt64).toNat = 65536 := rfl
  have hchunk : (if remaining > 65536 then 65536 else remaining).toNat =
      min remaining.toNat 65536 := by
    simp only [gt_iff_lt, UInt64.lt_iff_toNat_lt, h64]
    split_ifs <;> omega
  have hcall : b.fileCall =
      (b.fileOk b.fileCalls, { b with fileCalls := b.fileCalls + 1 }) := by
    unfold Backend.fileCall
    rw [hfile]
  refine ⟨_, hchunk, ?_, ?_⟩
  · exact UInt64.toNat_sub_of_le _ _ (UInt64.le_iff_toNat_le.mpr (by omega))
  · rw [backendZeroChunks, if_neg (UInt64.pos_iff_ne_zero.mp hpos), hcall]

/-- The chunk loop of the file backend: zeroes up to the first chunk whose call fails. -/
theorem backendZeroChunks_stores (fuel : Nat) {b : Backend} (hfile : b.type = .file)
    (offset remaining : UInt64) (hfuel : remaining.toNat < fuel) :
    Stores b (backendZeroChunks fuel b offset remaining).2 fun x =>
      if (x - offset).toNat < remaining.toNat ∧
          ∀ j, j ≤ (x - offset).toNat / 65536 → b.fileOk (b.fileCalls + j) = true then some 0
      else none := by
  -- the count of file calls moves along with the place, so chunk `j` of the range is call `j`
  induction fuel generalizing b offset remaining with
  | zero => exact absurd hfuel (Nat.not_lt_zero _)
  | succ fuel ih =>
      by_cases hzero : remaining = 0
      · subst hzero
        rw [backendZeroChunks, if_pos rfl]
        refine ⟨rfl, fun x => ?_⟩
        rw [if_neg (fun h => absurd h.1 (Nat.not_lt_zero _))]
        rfl
      · have hpos : 0 < remaining.toNat := UInt64.pos_iff_ne_zero.mpr hzero
        obtain ⟨chunk, hchunk, hsub, hround⟩ := backendZeroChunks_succ fuel hfile offset hpos
        rw [hround]
        by_cases hok : b.fileOk b.fileCalls = true
        · rw [if_pos hok]
          obtain ⟨hsize, hdata⟩ := @ih { b with
            fileCalls := b.fileCalls + 1
            data := copyBytes b.data offset (fun _ => 0) 0 chunk.toNat } hfile (offset + chunk)
            (remaining - chunk) (by omega)
          refine ⟨hsize, fun x => (hdata x).trans ?_⟩
          dsimp only
          rw [copyBytes_zero, hsub]
          have hiff := zeroed_cons hchunk remaining.toNat_lt (place_add x offset chunk) hok
          -- in this chunk or behind it
          by_cases hfirst : (x - offset).toNat < chunk.toNat
          · rw [if_pos hfirst, if_pos (hiff.mpr (Or.inl hfirst))]
            split_ifs <;> rfl
          · rw [if_neg hfirst]
            congr 1
            simp only [hiff, hfirst, false_or]
        · rw [if_neg hok]
          refine ⟨rfl, fun x => ?_⟩
          rw [if_neg (fun h => hok (h.2 0 (Nat.zero_le _)))]
          rfl

/-! ## The backend -/

section Backend

variable (b : Backend) (offset : UInt64) (buffer : UInt32 → UInt8)

theorem backendRead_stores (size : UInt32) :
    Stores b (backendRead b offset buffer size).2.2 fun _ => none := by
  unfold backendRead
  split_ifs
  · exact Stores.none rfl rfl
  · dsimp only
    split_ifs
    · exact Stores.none (fileCall_frame b).1 (fileCall_frame b).2
    · exact Stores.none (fileCall_frame b).1 (fileCall_frame b).2

theorem backendFlush_stores : Stores b (backendFlush b).2 fun _ => none :=
  Stores.none (fileCall_frame b).1 (fileCall_frame b).2

theorem backendWrite_stores (size : UInt32) :
    Stores b (backendWrite b offset buffer size).2 (b.written offset buffer size) := by
  unfold backendWrite
  split_ifs with hro hrange
  · refine ⟨rfl, fun x => ?_⟩
    rw [Backend.written, if_neg (fun h => by simp [hro] at h)]
    rfl
  · refine ⟨rfl, fun x => ?_⟩
    rw [Backend.written, if_neg (fun h => absurd h.1.2.1 (UInt64.not_le.mpr hrange))]
    rfl
  · obtain ⟨hsize, hdata⟩ := fileCall_frame b
    dsimp only
    split_ifs with hok
    · refine ⟨hsize, fun x => ?_⟩
      have hgate : b.readOnly = false ∧ offset + size.toUInt64 ≤ b.size ∧ b.CallOk 0 :=
        ⟨eq_false_of_ne_true hro, UInt64.not_lt.mp hrange, (fileCall_ok b).mp hok⟩
      simp only [Backend.written, hgate, and_self, true_and, copyBytes, hdata, UInt64.zero_add]
      split_ifs <;> rfl
    · refine ⟨hsize, fun x => ?_⟩
      rw [Backend.written, if_neg (fun h => hok ((fileCall_ok b).mpr h.1.2.2)), hdata]
      rfl

theorem backendWriteZeroes_stores (size : UInt64) :
    Stores b (backendWriteZeroes b offset size).2 (b.zeroed offset size) := by
  unfold backendWriteZeroes
  split_ifs with hro hrange
  · refine ⟨rfl, fun x => ?_⟩
    rw [Backend.zeroed, if_neg (fun h => by simp [hro] at h)]
    rfl
  · refine ⟨rfl, fun x => ?_⟩
    rw [Backend.zeroed, if_neg (fun h => absurd h.1.2 (UInt64.not_le.mpr hrange))]
    rfl
  · have hgate : b.readOnly = false ∧ offset + size ≤ b.size :=
      ⟨eq_false_of_ne_true hro, UInt64.not_lt.mp hrange⟩
    cases htype : b.type with
    | memory =>
        refine ⟨rfl, fun x => ?_⟩
        simp only [Backend.zeroed, hgate, Backend.CallOk, htype, true_or, implies_true, and_true,
          and_self, true_and, copyBytes_zero]
        split_ifs <;> rfl
    | file =>
        have hchunks := backendZeroChunks_stores (size.toNat + 1) htype offset size
          (Nat.lt_succ_self _)
        refine ⟨hchunks.size, fun x => (hchunks.data x).trans ?_⟩
        simp [Backend.zeroed, Backend.CallOk, htype, hgate]

end Backend

/-! ## One command -/

/-- A command changes the backend as `f` says, and the statistics. -/
def Carries (ctx ctx' : IoCmdContext) (f : Backend → UInt64 → Option UInt8) : Prop :=
  (ctx.backend = none → ∃ stats, ctx' = { ctx with stats := stats }) ∧
    ∀ b, ctx.backend = some b →
      ∃ b' stats, ctx' = { ctx with backend := some b', stats := stats } ∧ Stores b b' (f b)

/-- The backend is not asked. -/
theorem Carries.skip {ctx : IoCmdContext} {f : Backend → UInt64 → Option UInt8} (stats : IoStats)
    (hf : ∀ b, ctx.backend = some b → f b = fun _ => none) :
    Carries ctx { ctx with stats := stats } f := by
  refine ⟨fun _ => ⟨stats, rfl⟩, fun b hb => ⟨b, stats, ?_, ?_⟩⟩
  · rw [← hb]
  · rw [hf b hb]
    exact Stores.none rfl rfl

/-- There is no backend to ask. -/
theorem Carries.missing {ctx : IoCmdContext} {f : Backend → UInt64 → Option UInt8} (stats : IoStats)
    (hnone : ctx.backend = none) : Carries ctx { ctx with stats := stats } f := by
  refine Carries.skip stats fun b hb => ?_
  rw [hnone] at hb
  cases hb

/-- The backend is asked. -/
theorem Carries.ask {ctx : IoCmdContext} {f : Backend → UInt64 → Option UInt8} {b b' : Backend}
    (stats : IoStats) (hb : ctx.backend = some b) (h : Stores b b' (f b)) :
    Carries ctx { ctx with backend := some b', stats := stats } f := by
  refine ⟨fun hnone => ?_, fun b₁ hb₁ => ?_⟩
  · rw [hb] at hnone
    cases hnone
  · obtain rfl : b = b₁ := Option.some.inj (hb.symm.trans hb₁)
    exact ⟨b', stats, rfl, h⟩

theorem validateLbaRange_valid {ctx : IoCmdContext} {nsid : UInt32} {slba : UInt64} {nlb : UInt32}
    (h : ioCmdIsNamespaceValid ctx nsid = false) :
    ioCmdValidateLbaRange ctx nsid slba nlb = false := by
  unfold ioCmdValidateLbaRange
  simp [h]

section Handlers

variable (ctx : IoCmdContext) (c : BufferedCommand) (phase : UInt8)

/-- A command that the checks refuse. -/
theorem stored_refused (b : Backend)
    (h : ioCmdValidateLbaRange ctx c.cmd.nsid c.cmd.slba c.cmd.nlb.toUInt32 = false ∨
      (ctx.nsConfig c.cmd.nsid).readOnly = true) : c.stored ctx b = fun _ => none := by
  funext x
  rw [BufferedCommand.stored, if_pos h]

/-- A command that they let through. -/
theorem stored_accepted (b : Backend)
    (hrange : ioCmdValidateLbaRange ctx c.cmd.nsid c.cmd.slba c.cmd.nlb.toUInt32 = true)
    (hro : ¬ (ctx.nsConfig c.cmd.nsid).readOnly = true) (x : UInt64) :
    c.stored ctx b x =
      if c.cmd.opc = nvmeIoWrite then
        if BufferFits ctx c.cmd then
          b.written (backendOffset ctx c.cmd) c.data (transferLength ctx c.cmd) x
        else none
      else if c.cmd.opc = nvmeIoWriteZeroes then
        b.zeroed (backendOffset ctx c.cmd) (zeroLength ctx c.cmd) x
      else none := by
  rw [BufferedCommand.stored, if_neg]
  rintro (h | h)
  · rw [hrange] at h
    cases h
  · exact hro h

theorem stored_other (hwrite : c.cmd.opc ≠ nvmeIoWrite) (hzeroes : c.cmd.opc ≠ nvmeIoWriteZeroes)
    (b : Backend) : c.stored ctx b = fun _ => none := by
  funext x
  rw [BufferedCommand.stored, if_neg hwrite, if_neg hzeroes, ite_self]

/-- The end of a handler that asks the backend: it is stored back, and a failure is counted. -/
theorem Carries.asked {ctx : IoCmdContext} {f : Backend → UInt64 → Option UInt8} {b b' : Backend}
    (hb : ctx.backend = some b) (h : Stores b b' (f b)) (ok : Bool) (stats : IoStats)
    (done : UInt16) (data data' : UInt32 → UInt8) (sct sc : UInt8) :
    Carries ctx (if ok then
      (⟨done, { ctx with backend := some b', stats := stats }, data⟩ : IoReply)
      else IoCmdContext.fail { ctx with backend := some b' } data' sct sc phase).ctx f := by
  split_ifs
  · exact Carries.ask _ hb h
  · exact Carries.ask _ hb h

theorem ioCmdRead_carries (f : Backend → UInt64 → Option UInt8) (hf : ∀ b, f b = fun _ => none) :
    Carries ctx (ioCmdRead ctx c.data c.cmd phase).ctx f := by
  have hskip (stats : IoStats) : Carries ctx { ctx with stats := stats } f :=
    Carries.skip stats fun b _ => hf b
  unfold ioCmdRead
  dsimp only
  by_cases hvalid : (!ioCmdIsNamespaceValid ctx c.cmd.nsid) = true
  · rw [if_pos hvalid]
    exact hskip _
  rw [if_neg hvalid]
  by_cases hrange : (!ioCmdValidateLbaRange ctx c.cmd.nsid c.cmd.slba c.cmd.nlb.toUInt32) = true
  · rw [if_pos hrange]
    exact hskip _
  rw [if_neg hrange]
  split
  · exact hskip _
  · rename_i b hb
    by_cases hbuffer : ctx.dataBuffer ∧
        c.cmd.nlb.toUInt32 * ioCmdGetBlockSize ctx c.cmd.nsid ≤ ctx.dataBufferSize
    · rw [if_pos hbuffer]
      have hstores := backendRead_stores b
        (c.cmd.slba * (ioCmdGetBlockSize ctx c.cmd.nsid).toUInt64) c.data
        (c.cmd.nlb.toUInt32 * ioCmdGetBlockSize ctx c.cmd.nsid)
      rw [← hf b] at hstores
      exact Carries.asked phase hb hstores _ _ _ _ _ _ _
    · rw [if_neg hbuffer]
      exact hskip _

theorem ioCmdFlush_carries (f : Backend → UInt64 → Option UInt8) (hf : ∀ b, f b = fun _ => none) :
    Carries ctx (ioCmdFlush ctx c.data phase).ctx f := by
  unfold ioCmdFlush
  dsimp only
  split
  · exact Carries.skip _ fun b _ => hf b
  · rename_i b hb
    have hstores := backendFlush_stores b
    rw [← hf b] at hstores
    exact Carries.asked phase hb hstores _ _ _ _ _ _ _

/-- The checks that Write and Write Zeroes have in common. -/
theorem Carries.gated {reply : IoReply}
    (h : ioCmdValidateLbaRange ctx c.cmd.nsid c.cmd.slba c.cmd.nlb.toUInt32 = true →
      ¬ (ctx.nsConfig c.cmd.nsid).readOnly = true → Carries ctx reply.ctx (c.stored ctx)) :
    Carries ctx
      (if !ioCmdIsNamespaceValid ctx c.cmd.nsid then ctx.fail c.data 0 0x0B phase
      else if (ctx.nsConfig c.cmd.nsid).readOnly then ctx.fail c.data 0 0x82 phase
      else if !ioCmdValidateLbaRange ctx c.cmd.nsid c.cmd.slba c.cmd.nlb.toUInt32 then
        ctx.fail c.data 0 0x80 phase
      else reply).ctx (c.stored ctx) := by
  split_ifs with hvalid hro hrange
  · refine Carries.skip _ fun b _ => stored_refused ctx c b (Or.inl ?_)
    exact validateLbaRange_valid (by simpa using hvalid)
  · exact Carries.skip _ fun b _ => stored_refused ctx c b (Or.inr hro)
  · exact Carries.skip _ fun b _ => stored_refused ctx c b (Or.inl (by simpa using hrange))
  · exact h (by simpa using hrange) hro

theorem ioCmdWrite_carries (hopc : c.cmd.opc = nvmeIoWrite) :
    Carries ctx (ioCmdWrite ctx c.data c.cmd phase).ctx (c.stored ctx) := by
  unfold ioCmdWrite
  apply Carries.gated
  intro hrange hro
  have hstored (b : Backend) : c.stored ctx b = fun x =>
      if BufferFits ctx c.cmd then
        b.written (backendOffset ctx c.cmd) c.data (transferLength ctx c.cmd) x
      else none := by
    funext x
    rw [stored_accepted ctx c b hrange hro, if_pos hopc]
  split
  · rename_i hnone
    exact Carries.missing _ hnone
  · rename_i b hb
    dsimp only
    by_cases hbuffer : BufferFits ctx c.cmd
    · have hfits : ctx.dataBuffer = true ∧
          c.cmd.nlb.toUInt32 * (ctx.nsConfig c.cmd.nsid).blockSize ≤ ctx.dataBufferSize := hbuffer
      rw [if_pos hfits]
      have hstores := backendWrite_stores b (backendOffset ctx c.cmd) c.data
        (transferLength ctx c.cmd)
      refine Carries.asked phase hb ?_ _ _ _ _ _ _ _
      simp only [hstored, if_pos hbuffer]
      exact hstores
    · have hfits : ¬ (ctx.dataBuffer = true ∧
          c.cmd.nlb.toUInt32 * (ctx.nsConfig c.cmd.nsid).blockSize ≤ ctx.dataBufferSize) := hbuffer
      rw [if_neg hfits]
      refine Carries.skip _ fun b _ => ?_
      simp only [hstored, if_neg hbuffer]

theorem ioCmdWriteZeroes_carries (hopc : c.cmd.opc = nvmeIoWriteZeroes) :
    Carries ctx (ioCmdWriteZeroes ctx c.data c.cmd phase).ctx (c.stored ctx) := by
  unfold ioCmdWriteZeroes
  apply Carries.gated
  intro hrange hro
  have hne : c.cmd.opc ≠ nvmeIoWrite := by
    rw [hopc]
    decide
  have hstored (b : Backend) : c.stored ctx b =
      b.zeroed (backendOffset ctx c.cmd) (zeroLength ctx c.cmd) := by
    funext x
    rw [stored_accepted ctx c b hrange hro, if_neg hne, if_pos hopc]
  split
  · rename_i hnone
    exact Carries.missing _ hnone
  · rename_i b hb
    refine Carries.asked phase hb ?_ _ _ _ _ _ _ _
    rw [hstored]
    exact backendWriteZeroes_stores b _ _

/-- A command changes the data of the backend where it stores a byte, and nowhere else. -/
theorem bufferedCommandStep_carries : Carries ctx (bufferedCommandStep ctx c) (c.stored ctx) := by
  unfold bufferedCommandStep BufferedCommand.reply ioCmdDispatch
  dsimp only
  by_cases hread : c.cmd.opc = nvmeIoRead
  · rw [if_pos hread]
    exact ioCmdRead_carries ctx c _ _ (stored_other ctx c (by rw [hread]; decide)
      (by rw [hread]; decide))
  rw [if_neg hread]
  by_cases hwrite : c.cmd.opc = nvmeIoWrite
  · rw [if_pos hwrite]
    exact ioCmdWrite_carries ctx c _ hwrite
  rw [if_neg hwrite]
  by_cases hflush : c.cmd.opc = nvmeIoFlush
  · rw [if_pos hflush]
    exact ioCmdFlush_carries ctx c _ _ (stored_other ctx c hwrite (by rw [hflush]; decide))
  rw [if_neg hflush]
  by_cases hzeroes : c.cmd.opc = nvmeIoWriteZeroes
  · rw [if_pos hzeroes]
    exact ioCmdWriteZeroes_carries ctx c _ hzeroes
  rw [if_neg hzeroes]
  have hother (b : Backend) : c.stored ctx b = fun _ => none := stored_other ctx c hwrite hzeroes b
  split_ifs
  · exact Carries.skip ctx.stats fun b _ => hother b
  · exact Carries.skip _ fun b _ => hother b

end Handlers

/-! ## What a Read returns -/

/-- The data buffer after a Read whose file call, if it makes one, succeeds. -/
def readReturns (ctx : IoCmdContext) (data : UInt32 → UInt8) (cmd : NvmeCommand) :
    UInt32 → UInt8 :=
  (ioCmdRead
    { ctx with backend := ctx.backend.map fun b => { b with fileOk := fun _ => true } }
    data cmd 0).data

/-- A Read that the checks let through, on a backend of this size. -/
structure ReadAccepted (ctx : IoCmdContext) (size : UInt64) (cmd : NvmeCommand) : Prop where
  range : ioCmdValidateLbaRange ctx cmd.nsid cmd.slba cmd.nlb.toUInt32 = true
  buffer : BufferFits ctx cmd
  backend : backendOffset ctx cmd + (transferLength ctx cmd).toUInt64 ≤ size

/-- The Read returns the byte at address `x` of the backend. -/
def ReadsByte (ctx : IoCmdContext) (size : UInt64) (cmd : NvmeCommand) (x : UInt64) : Prop :=
  ReadAccepted ctx size cmd ∧
    ∃ i, i < transferLength ctx cmd ∧ x = backendOffset ctx cmd + i.toUInt64

theorem ioCmdGetBlockSize_eq {ctx : IoCmdContext} {nsid : UInt32}
    (h : ioCmdIsNamespaceValid ctx nsid = true) :
    ioCmdGetBlockSize ctx nsid = (ctx.nsConfig nsid).blockSize := by
  rw [ioCmdGetBlockSize, if_neg]
  simp only [ioCmdIsNamespaceValid, Bool.and_eq_true, Bool.not_eq_true', Bool.or_eq_false_iff,
    decide_eq_false_iff_not] at h
  rintro (h0 | hgt)
  · exact h.1.1 h0
  · exact h.1.2 hgt

theorem backendRead_reliable (b : Backend) (offset : UInt64) (data : UInt32 → UInt8)
    (size : UInt32) :
    (backendRead { b with fileOk := fun _ => true } offset data size).2.1 =
      if offset + size.toUInt64 ≤ b.size then
        fun i => if i < size then b.data (offset + i.toUInt64) else data i
      else data := by
  have hok : Backend.fileCall { b with fileOk := fun _ => true } =
      (true, (Backend.fileCall { b with fileOk := fun _ => true }).2) := by
    unfold Backend.fileCall
    cases b.type <;> rfl
  unfold backendRead
  by_cases hrange : offset + size.toUInt64 > b.size
  · rw [if_pos hrange, if_neg (UInt64.not_le.mpr hrange)]
  · rw [if_neg hrange, if_pos (UInt64.not_lt.mp hrange), hok]
    dsimp only
    rw [if_pos rfl, (fileCall_frame _).2]

/-- The data buffer after a Read is that of the backend's read, if it comes to that. -/
theorem ioCmdRead_data {ctx : IoCmdContext} {b : Backend} (hb : ctx.backend = some b)
    (data : UInt32 → UInt8) (cmd : NvmeCommand) (phase : UInt8) :
    (ioCmdRead ctx data cmd phase).data =
      if ioCmdValidateLbaRange ctx cmd.nsid cmd.slba cmd.nlb.toUInt32 = true ∧
          BufferFits ctx cmd then
        (backendRead b (backendOffset ctx cmd) data (transferLength ctx cmd)).2.1
      else data := by
  unfold ioCmdRead
  dsimp only
  by_cases hvalid : ioCmdIsNamespaceValid ctx cmd.nsid = true
  · rw [if_neg (by rw [hvalid]; decide), ioCmdGetBlockSize_eq hvalid]
    by_cases hrange : ioCmdValidateLbaRange ctx cmd.nsid cmd.slba cmd.nlb.toUInt32 = true
    · rw [if_neg (by rw [hrange]; decide)]
      split
      · rename_i hnone
        rw [hb] at hnone
        cases hnone
      · rename_i b₁ hb₁
        obtain rfl : b = b₁ := Option.some.inj (hb.symm.trans hb₁)
        by_cases hbuffer : BufferFits ctx cmd
        · have hfits : ctx.dataBuffer = true ∧
              cmd.nlb.toUInt32 * (ctx.nsConfig cmd.nsid).blockSize ≤ ctx.dataBufferSize := hbuffer
          have hgate : ioCmdValidateLbaRange ctx cmd.nsid cmd.slba cmd.nlb.toUInt32 = true ∧
              BufferFits ctx cmd := ⟨hrange, hbuffer⟩
          rw [if_pos hfits, if_pos hgate]
          split_ifs <;> rfl
        · have hfits : ¬ (ctx.dataBuffer = true ∧
              cmd.nlb.toUInt32 * (ctx.nsConfig cmd.nsid).blockSize ≤ ctx.dataBufferSize) := hbuffer
          rw [if_neg hfits, if_neg fun h => hbuffer h.2]
    · rw [if_pos (by simpa using hrange), if_neg fun h => hrange h.1]
      rfl
  · rw [if_pos (by simpa using hvalid), if_neg]
    · rfl
    · rintro ⟨hrange, -⟩
      rw [validateLbaRange_valid (eq_false_of_ne_true hvalid)] at hrange
      cases hrange

/-- A Read returns what the backend holds, or it leaves the data buffer as it is. -/
theorem readReturns_eq {ctx : IoCmdContext} {b : Backend} (hb : ctx.backend = some b)
    (data : UInt32 → UInt8) (cmd : NvmeCommand) :
    (ReadAccepted ctx b.size cmd → readReturns ctx data cmd = fun i =>
      if i < transferLength ctx cmd then b.data (backendOffset ctx cmd + i.toUInt64)
      else data i) ∧
    (¬ ReadAccepted ctx b.size cmd → readReturns ctx data cmd = data) := by
  have hreturns : readReturns ctx data cmd =
      if ioCmdValidateLbaRange ctx cmd.nsid cmd.slba cmd.nlb.toUInt32 = true ∧
          BufferFits ctx cmd then
        (backendRead { b with fileOk := fun _ => true } (backendOffset ctx cmd) data
          (transferLength ctx cmd)).2.1
      else data := by
    unfold readReturns
    rw [hb]
    exact ioCmdRead_data rfl data cmd 0
  rw [hreturns, backendRead_reliable]
  constructor
  · rintro ⟨hrange, hbuffer, hbackend⟩
    rw [if_pos ⟨hrange, hbuffer⟩, if_pos hbackend]
  · intro hno
    split_ifs with hgate hbackend
    · exact absurd ⟨hgate.1, hgate.2, hbackend⟩ hno
    · rfl
    · rfl

theorem readReturns_none {ctx : IoCmdContext} (hb : ctx.backend = none) (data : UInt32 → UInt8)
    (cmd : NvmeCommand) : readReturns ctx data cmd = data := by
  unfold readReturns ioCmdRead
  rw [hb]
  dsimp only [Option.map_none]
  split_ifs <;> rfl

/-- Two servers with the same tables, and backends of the same size: a Read returns the same
exactly if the backends hold the same bytes where it reads. -/
theorem readReturns_eq_iff {ctx : IoCmdContext} {b b' : Backend} (hb : ctx.backend = some b)
    (hsize : b'.size = b.size) (stats : IoStats) (cmd : NvmeCommand) :
    (∀ data, readReturns { ctx with backend := some b', stats := stats } data cmd =
        readReturns ctx data cmd) ↔
      ∀ x, ReadsByte ctx b.size cmd x → b'.data x = b.data x := by
  by_cases haccepted : ReadAccepted ctx b.size cmd
  · have hafter : ReadAccepted { ctx with backend := some b', stats := stats } b'.size cmd := by
      rw [hsize]
      exact ⟨haccepted.range, haccepted.buffer, haccepted.backend⟩
    have hreturns (data : UInt32 → UInt8) := (readReturns_eq hb data cmd).1 haccepted
    have hreturns' (data : UInt32 → UInt8) :
        readReturns { ctx with backend := some b', stats := stats } data cmd = fun i =>
          if i < transferLength ctx cmd then b'.data (backendOffset ctx cmd + i.toUInt64)
          else data i := (readReturns_eq rfl data cmd).1 hafter
    constructor
    -- any data buffer will do, as the Read fills the whole range
    · rintro h x ⟨-, i, hi, rfl⟩
      have hbyte := congrFun (h fun _ => 0) i
      rw [hreturns, hreturns'] at hbyte
      dsimp only at hbyte
      rwa [if_pos hi, if_pos hi] at hbyte
    · intro h data
      rw [hreturns, hreturns']
      funext i
      split_ifs with hi
      · exact h _ ⟨haccepted, i, hi, rfl⟩
      · rfl
  · have hafter : ¬ ReadAccepted { ctx with backend := some b', stats := stats } b'.size cmd := by
      rw [hsize]
      exact fun h => haccepted ⟨h.range, h.buffer, h.backend⟩
    refine iff_of_true (fun data => ?_) fun x hx => absurd hx.1 haccepted
    rw [(readReturns_eq hb data cmd).2 haccepted, (readReturns_eq rfl data cmd).2 hafter]

/-! ## Two namespaces -/

/-- No Read of another namespace returns anything else after the command. -/
def LeavesOthers (ctx : IoCmdContext) (c : BufferedCommand) : Prop :=
  ∀ read : NvmeCommand, read.nsid ≠ c.cmd.nsid →
    ∀ data, readReturns (bufferedCommandStep ctx c) data read = readReturns ctx data read

/-- Where a Read of another namespace reads, the command stores only what is there. -/
def StoresHarmlessly (ctx : IoCmdContext) (c : BufferedCommand) : Prop :=
  ∀ b ∈ ctx.backend, ∀ read : NvmeCommand, read.nsid ≠ c.cmd.nsid →
    ∀ x, ReadsByte ctx b.size read x → ∀ v ∈ c.stored ctx b x, v = b.data x

theorem leavesOthers_iff (ctx : IoCmdContext) (c : BufferedCommand) :
    LeavesOthers ctx c ↔ StoresHarmlessly ctx c := by
  -- the step keeps the tables and the size, so only the bytes of the backend matter
  obtain ⟨hnone, hsome⟩ := bufferedCommandStep_carries ctx c
  unfold LeavesOthers StoresHarmlessly
  cases hb : ctx.backend with
  | none =>
      obtain ⟨stats, hstep⟩ := hnone hb
      refine iff_of_true (fun read _ data => ?_) fun b hmem => by cases hmem
      rw [readReturns_none hb, readReturns_none (by rw [hstep]; exact hb)]
  | some b =>
      obtain ⟨b', stats, hstep, hsize, hdata⟩ := hsome b hb
      simp only [Option.mem_some_iff, forall_eq', hstep]
      refine forall₂_congr fun read _ => ?_
      rw [readReturns_eq_iff hb hsize stats read]
      refine forall₂_congr fun x _ => ?_
      rw [hdata x]
      cases c.stored ctx b x with
      | none => simp
      | some v => simp

/-- In a run of commands to the server, no command changes what a Read of another namespace
returns, exactly if every byte that one stores where another namespace is read is there
already. -/
theorem otherNamespaces_kept_iff (ctx : IoCmdContext) (cs : List BufferedCommand) :
    EachStep bufferedCommandStep LeavesOthers ctx cs ↔
      EachStep bufferedCommandStep StoresHarmlessly ctx cs :=
  eachStep_congr (J := fun _ => True) (fun _ _ _ => trivial) (fun ctx c _ => leavesOthers_iff ctx c)
    trivial cs

/-- A server with two namespaces of eight blocks each on a memory backend of sixteen. -/
def twoNamespaces : IoCmdContext :=
  (cmdEngineInit {} { vnvmeAllocateShm with dataBufferOffset := 0x10000, dataBufferSize := 4096 }
    { backend := some { type := .memory, size := 8192 }
      namespaces := fun _ => { size := 8, blockSize := 512, active := true }
      namespaceCount := 2 }).2.ioCtx

/-- Write the first block of namespace 1. -/
def writeFirstBlock : BufferedCommand where
  data := fun _ => 0xAB
  cmd := { opc := nvmeIoWrite, nsid := 1 }

/-- It is also the first block of namespace 2. -/
theorem write_changes_other_namespace :
    ¬ EachStep bufferedCommandStep LeavesOthers twoNamespaces [writeFirstBlock] := by
  intro h
  have hreads := h [] writeFirstBlock [] rfl { opc := nvmeIoRead, nsid := 2 } (by decide)
    fun _ => 0
  have hbyte := congrFun hreads 0
  exact absurd hbyte (by decide)

end VirtualNvme
