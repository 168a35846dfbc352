import VirtualNvme.Verification.ReferenceStore
import VirtualNvme.Verification.ServerBounds

/-!
# What a successful Read or Write of the server has moved

The NLB field `n` asks for `n + 1` blocks. The handlers count them in 16 bits and their bytes in
32, and they skip the call of the backend when the data buffer is too small, with success all the
same.
-/

namespace VirtualNvme

/-! ## What is asked for -/

/-- `(n + 1) * blockSize` -/
def askedBytes (ctx : IoCmdContext) (cmd : NvmeCommand) : Nat :=
  (cmd.nlbField + 1) * (ctx.nsConfig cmd.nsid).blockSize.toNat

/-- `SLBA * blockSize` -/
def askedOffset (ctx : IoCmdContext) (cmd : NvmeCommand) : Nat :=
  cmd.slba.toNat * (ctx.nsConfig cmd.nsid).blockSize.toNat

/-- The data buffer, with `n` bytes of the backend at its start. -/
def filled (data : UInt32 → UInt8) (bytes : UInt64 → UInt8) (offset n : Nat) : UInt32 → UInt8 :=
  fun i => if i.toNat < n then bytes (UInt64.ofNat (offset + i.toNat)) else data i

/-- The bytes of the backend, with `n` bytes of the data buffer at `offset`. -/
def overwritten (bytes : UInt64 → UInt8) (data : UInt32 → UInt8) (offset n : Nat) :
    UInt64 → UInt8 :=
  fun x => if offset ≤ x.toNat ∧ x.toNat < offset + n then data (UInt32.ofNat (x.toNat - offset))
    else bytes x

/-- The reply with this in the data buffer and in the backend. -/
def BufferedCommand.replyOn (ctx : IoCmdContext) (c : BufferedCommand) (b : Backend)
    (data : UInt32 → UInt8) (bytes : UInt64 → UInt8) : IoReply :=
  BufferedCommand.reply { c with data := data }
    { ctx with backend := some { b with data := bytes } }

/-- Exactly the bytes that the command asks for are moved, whatever the data buffer and the
backend hold. -/
structure MovesAsked (ctx : IoCmdContext) (c : BufferedCommand) (b : Backend) : Prop where
  fitsBuffer : askedBytes ctx c.cmd ≤ ctx.dataBufferSize.toNat
  fitsBackend : askedOffset ctx c.cmd + askedBytes ctx c.cmd ≤ b.size.toNat
  data : ∀ data bytes, (c.replyOn ctx b data bytes).data =
    if c.cmd.opc = nvmeIoRead then
      filled data bytes (askedOffset ctx c.cmd) (askedBytes ctx c.cmd)
    else data
  backend : ∀ data bytes, (c.replyOn ctx b data bytes).ctx.backend.map Backend.data =
    some (if c.cmd.opc = nvmeIoWrite then
      overwritten bytes data (askedOffset ctx c.cmd) (askedBytes ctx c.cmd)
    else bytes)

/-- The transfer goes through 16 and 32 bits unchanged, and there is a data buffer for it. -/
structure TransferFits (ctx : IoCmdContext) (cmd : NvmeCommand) (b : Backend) : Prop where
  field : cmd.nlbField < 65535
  buffer : ctx.dataBuffer = true
  fitsBuffer : askedBytes ctx cmd ≤ ctx.dataBufferSize.toNat
  fitsBackend : askedOffset ctx cmd + askedBytes ctx cmd ≤ b.size.toNat

/-! ## The transfer -/

theorem nlb_toNat (cmd : NvmeCommand) : cmd.nlb.toNat = (cmd.nlbField + 1) % 65536 := by
  unfold NvmeCommand.nlb NvmeCommand.nlbField
  rw [UInt16.toNat_add, UInt32.toNat_toUInt16]
  rfl

section Transfer

variable {ctx : IoCmdContext} {c : BufferedCommand} {b : Backend}

theorem transferLength_toNat (hfield : c.cmd.nlbField < 65535)
    (hsize : askedBytes ctx c.cmd < 2 ^ 32) :
    (transferLength ctx c.cmd).toNat = askedBytes ctx c.cmd := by
  rw [transferLength, UInt32.toNat_mul, UInt16.toNat_toUInt32, nlb_toNat,
    Nat.mod_eq_of_lt (by omega : c.cmd.nlbField + 1 < 65536)]
  exact Nat.mod_eq_of_lt hsize

theorem backendOffset_toNat (hoffset : askedOffset ctx c.cmd < 2 ^ 64) :
    (backendOffset ctx c.cmd).toNat = askedOffset ctx c.cmd := by
  rw [backendOffset, UInt64.toNat_mul, UInt32.toNat_toUInt64]
  exact Nat.mod_eq_of_lt hoffset

/-- No blocks are left of 65536. -/
theorem transferLength_full (hfield : ¬ c.cmd.nlbField < 65535) : transferLength ctx c.cmd = 0 := by
  have hlt : c.cmd.nlbField < 65536 := Nat.mod_lt _ (by decide)
  have hnlb : c.cmd.nlb = 0 := by
    apply UInt16.toNat_inj.mp
    rw [nlb_toNat, (by omega : c.cmd.nlbField = 65535)]
    rfl
  rw [transferLength, hnlb]
  exact UInt32.zero_mul

/-- The data buffer and the bytes of the backend after a command, by its call. -/
theorem replyOn_outcome (hc : c.Ranged) (data : UInt32 → UInt8) (bytes : UInt64 → UInt8) :
    (c.replyOn ctx b data bytes).data =
        (BufferedCommand.outcome ctx { c with data := data } { b with data := bytes }).2.1 ∧
      (c.replyOn ctx b data bytes).ctx.backend.map Backend.data =
        some (BufferedCommand.outcome ctx { c with data := data }
          { b with data := bytes }).2.2.data := by
  have hreplies : Replies { ctx with backend := some { b with data := bytes } }
      { c with data := data } { b with data := bytes } (c.replyOn ctx b data bytes) :=
    reply_replies hc rfl
  refine ⟨hreplies.data, ?_⟩
  rw [hreplies.backend]
  rfl

/-- Without room in the data buffer nothing is called. -/
theorem outcome_skipped (hopc : c.cmd.opc = nvmeIoRead ∨ c.cmd.opc = nvmeIoWrite)
    (h : ¬ BufferFits ctx c.cmd) : c.outcome ctx b = (true, c.data, b) := by
  have hcall : c.backendCall ctx = none := by
    unfold BufferedCommand.backendCall
    rcases hopc with hopc | hopc <;> simp [h, hopc, nvmeIoRead, nvmeIoWrite]
  rw [BufferedCommand.outcome, hcall]

theorem outcome_read (hopc : c.cmd.opc = nvmeIoRead) (ha : c.Accepted ctx)
    (h : BufferFits ctx c.cmd) : c.outcome ctx b =
      backendRead b (backendOffset ctx c.cmd) c.data (transferLength ctx c.cmd) := by
  rw [BufferedCommand.outcome, backendCall_read hopc ha, if_pos h]
  rfl

theorem outcome_write (hopc : c.cmd.opc = nvmeIoWrite) (ha : c.Accepted ctx)
    (h : BufferFits ctx c.cmd) : c.outcome ctx b =
      ((backendWrite b (backendOffset ctx c.cmd) c.data (transferLength ctx c.cmd)).1, c.data,
        (backendWrite b (backendOffset ctx c.cmd) c.data (transferLength ctx c.cmd)).2) := by
  rw [BufferedCommand.outcome, backendCall_write hopc ha, if_pos h]
  rfl

/-! ## The calls of the backend -/

theorem backendRead_ok (offset : UInt64) (data : UInt32 → UInt8) (length : UInt32) :
    (backendRead b offset data length).1 = true ↔
      offset + length.toUInt64 ≤ b.size ∧ b.CallOk 0 := by
  rw [← fileCall_ok]
  unfold backendRead
  by_cases hrange : offset + length.toUInt64 > b.size
  · simp [hrange, UInt64.not_le.mpr hrange]
  · rw [if_neg hrange]
    by_cases hok : b.fileCall.1 = true
    · simp [hok, UInt64.not_lt.mp hrange]
    · simp [hok]

theorem backendWrite_ok (offset : UInt64) (data : UInt32 → UInt8) (length : UInt32) :
    (backendWrite b offset data length).1 = true ↔
      b.readOnly = false ∧ offset + length.toUInt64 ≤ b.size ∧ b.CallOk 0 := by
  rw [← fileCall_ok]
  unfold backendWrite
  by_cases hro : b.readOnly = true
  · simp [hro]
  rw [if_neg hro]
  by_cases hrange : offset + length.toUInt64 > b.size
  · simp [hrange, UInt64.not_le.mpr hrange]
  · rw [if_neg hrange]
    by_cases hok : b.fileCall.1 = true
    · simp [hok, hro, UInt64.not_lt.mp hrange]
    · simp [hok]

theorem backendRead_data (offset : UInt64) (data : UInt32 → UInt8) (length : UInt32) :
    (backendRead b offset data length).2.1 =
      if (backendRead b offset data length).1 = true then
        fun i => if i < length then b.data (offset + i.toUInt64) else data i
      else data := by
  unfold backendRead
  by_cases hrange : offset + length.toUInt64 > b.size
  · simp [hrange]
  · rw [if_neg hrange]
    by_cases hok : b.fileCall.1 = true
    · simp [hok, (fileCall_frame b).2]
    · simp [hok]

/-- A read that does not wrap fills the buffer from the offset on. -/
theorem backendRead_filled {offset : UInt64} {length : UInt32}
    (data : UInt32 → UInt8) (hok : (backendRead b offset data length).1 = true) :
    (backendRead b offset data length).2.1 =
      filled data b.data offset.toNat length.toNat := by
  rw [backendRead_data, if_pos hok]
  funext i
  unfold filled
  simp only [UInt32.lt_iff_toNat_lt]
  have hplace : UInt64.ofNat (offset.toNat + i.toNat) = offset + i.toUInt64 := by
    rw [UInt64.ofNat_add, UInt64.ofNat_toNat]
    exact congrArg _ (UInt64.toNat_inj.mp (by simp))
  rw [hplace]

/-- The bytes from a place on, without a wrap. -/
theorem place_lt_iff {x offset : UInt64} {n : Nat} (h : offset.toNat + n ≤ 2 ^ 64) :
    (x - offset).toNat < n ↔ offset.toNat ≤ x.toNat ∧ x.toNat < offset.toNat + n := by
  have hx := x.toNat_lt
  have hoffset := offset.toNat_lt
  rw [UInt64.toNat_sub]
  omega

theorem backendWrite_overwritten {offset : UInt64} {length : UInt32}
    (hends : offset.toNat + length.toNat ≤ 2 ^ 64) (data : UInt32 → UInt8)
    (hok : (backendWrite b offset data length).1 = true) :
    (backendWrite b offset data length).2.data =
      overwritten b.data data offset.toNat length.toNat := by
  have hgate := (backendWrite_ok offset data length).mp hok
  funext x
  rw [(backendWrite_stores b offset data length).data x]
  unfold overwritten Backend.written
  simp only [hgate, and_self, true_and, place_lt_iff hends]
  split_ifs with hin
  · have hle : offset ≤ x := UInt64.le_iff_toNat_le.mpr hin.1
    rw [Option.getD_some, ← UInt64.toNat_sub_of_le _ _ hle]
    congr 1
  · rfl

/-- A command of no bytes, or without room in the data buffer, moves nothing. -/
theorem outcome_idle (hopc : c.cmd.opc = nvmeIoRead ∨ c.cmd.opc = nvmeIoWrite)
    (h : ¬ BufferFits ctx c.cmd ∨ transferLength ctx c.cmd = 0) :
    (c.outcome ctx b).2.1 = c.data ∧ (c.outcome ctx b).2.2.data = b.data := by
  by_cases hbuffer : BufferFits ctx c.cmd
  · have hzero := h.resolve_left (not_not_intro hbuffer)
    by_cases ha : c.Accepted ctx
    · rcases hopc with hopc | hopc
      · rw [outcome_read hopc ha hbuffer, hzero]
        refine ⟨?_, funext (backendRead_stores b _ c.data 0).data⟩
        rw [backendRead_data]
        split_ifs
        · funext i
          exact if_neg UInt32.not_lt_zero
        · rfl
      · rw [outcome_write hopc ha hbuffer, hzero]
        refine ⟨rfl, funext fun x => ?_⟩
        dsimp only
        rw [(backendWrite_stores b _ c.data 0).data x, Backend.written,
          if_neg fun h => Nat.not_lt_zero _ h.2]
        rfl
    · rw [outcome_refused ha]
      exact ⟨rfl, rfl⟩
  · rw [outcome_skipped hopc hbuffer]
    exact ⟨rfl, rfl⟩

/-! ## When the bytes are moved -/

variable (hopc : c.cmd.opc = nvmeIoRead ∨ c.cmd.opc = nvmeIoWrite)

include hopc

theorem moves_of_noBytes (hbs : (ctx.nsConfig c.cmd.nsid).blockSize = 0) :
    MovesAsked ctx c b := by
  have hbytes : askedBytes ctx c.cmd = 0 := by
    rw [askedBytes, hbs]
    rfl
  have hoffset : askedOffset ctx c.cmd = 0 := by
    rw [askedOffset, hbs]
    rfl
  have hzero : transferLength ctx c.cmd = 0 := by
    rw [transferLength, hbs]
    exact UInt32.mul_zero
  have hc : c.Ranged := hopc.imp_right Or.inl
  constructor
  · omega
  · omega
  · intro data bytes
    rw [(replyOn_outcome hc data bytes).1, hbytes]
    refine (outcome_idle (c := { c with data := data }) hopc (Or.inr hzero)).1.trans ?_
    split_ifs
    · funext i
      exact (if_neg (Nat.not_lt_zero _)).symm
    · rfl
  · intro data bytes
    rw [(replyOn_outcome hc data bytes).2, hbytes, hoffset]
    refine congrArg some
      ((outcome_idle (c := { c with data := data }) hopc (Or.inr hzero)).2.trans ?_)
    split_ifs
    · funext x
      exact (if_neg (by omega)).symm
    · rfl

/-- If the bytes are moved then the backend is called for some of them. -/
theorem MovesAsked.busy (h : MovesAsked ctx c b) (hpos : 0 < askedBytes ctx c.cmd) :
    BufferFits ctx c.cmd ∧ transferLength ctx c.cmd ≠ 0 := by
  by_contra hidle
  have hidle : ¬ BufferFits ctx c.cmd ∨ transferLength ctx c.cmd = 0 := by
    by_cases hbuffer : BufferFits ctx c.cmd
    · exact Or.inr (not_not.mp fun hne => hidle ⟨hbuffer, hne⟩)
    · exact Or.inl hbuffer
  have hc : c.Ranged := hopc.imp_right Or.inl
  -- zeroes in the data buffer, ones in the backend
  obtain ⟨hdata, hbackend⟩ := outcome_idle (c := { c with data := fun _ => 0 })
    (b := { b with data := fun _ => 1 }) hopc hidle
  have hmoved := h.data (fun _ => 0) (fun _ => 1)
  have hstored := h.backend (fun _ => 0) (fun _ => 1)
  rw [(replyOn_outcome hc _ _).1, hdata] at hmoved
  rw [(replyOn_outcome hc _ _).2, hbackend] at hstored
  have hend := h.fitsBackend
  have hsize := b.size.toNat_lt
  rcases hopc with hread | hwrite
  · rw [if_pos hread] at hmoved
    have hbyte := congrFun hmoved 0
    rw [filled, if_pos (by simpa using hpos)] at hbyte
    cases hbyte
  · rw [if_pos hwrite] at hstored
    have hbyte := congrFun (Option.some.inj hstored) (UInt64.ofNat (askedOffset ctx c.cmd))
    have hplace : (UInt64.ofNat (askedOffset ctx c.cmd)).toNat = askedOffset ctx c.cmd :=
      UInt64.toNat_ofNat_of_lt' (by omega : askedOffset ctx c.cmd < 2 ^ 64)
    rw [overwritten, if_pos (by omega)] at hbyte
    cases hbyte

theorem moves_of_fits (ha : c.Accepted ctx) (hok : (c.outcome ctx b).1 = true)
    (hfits : TransferFits ctx c.cmd b) : MovesAsked ctx c b := by
  obtain ⟨hfield, hbuffer, hroom, hend⟩ := hfits
  have hsize := b.size.toNat_lt
  have hlength : (transferLength ctx c.cmd).toNat = askedBytes ctx c.cmd :=
    transferLength_toNat hfield (Nat.lt_of_le_of_lt hroom ctx.dataBufferSize.toNat_lt)
  have hoffset : (backendOffset ctx c.cmd).toNat = askedOffset ctx c.cmd :=
    backendOffset_toNat (by omega)
  have hends : (backendOffset ctx c.cmd).toNat + (transferLength ctx c.cmd).toNat ≤ 2 ^ 64 := by
    omega
  have hfits : BufferFits ctx c.cmd :=
    ⟨hbuffer, UInt32.le_iff_toNat_le.mpr (by omega)⟩
  have hc : c.Ranged := hopc.imp_right Or.inl
  refine ⟨hroom, hend, fun data bytes => ?_, fun data bytes => ?_⟩
  · rw [(replyOn_outcome hc data bytes).1]
    rcases hopc with hread | hwrite
    · rw [outcome_read hread ha hfits, backendRead_ok] at hok
      rw [if_pos hread, ← hoffset, ← hlength,
        outcome_read (c := { c with data := data }) hread ha hfits]
      exact backendRead_filled data ((backendRead_ok _ _ _).mpr hok)
    · rw [if_neg (by rw [hwrite]; decide),
        outcome_write (c := { c with data := data }) hwrite ha hfits]
  · rw [(replyOn_outcome hc data bytes).2]
    refine congrArg some ?_
    rcases hopc with hread | hwrite
    · rw [if_neg (by rw [hread]; decide),
        outcome_read (c := { c with data := data }) hread ha hfits]
      exact funext (backendRead_stores { b with data := bytes } _ data _).data
    · rw [outcome_write hwrite ha hfits, backendWrite_ok] at hok
      rw [if_pos hwrite, ← hoffset, ← hlength,
        outcome_write (c := { c with data := data }) hwrite ha hfits]
      exact backendWrite_overwritten (b := { b with data := bytes }) hends data
        ((backendWrite_ok _ _ _).mpr hok)

theorem MovesAsked.fits (h : MovesAsked ctx c b)
    (hbs : (ctx.nsConfig c.cmd.nsid).blockSize ≠ 0) : TransferFits ctx c.cmd b := by
  have hpos : 0 < askedBytes ctx c.cmd := by
    refine Nat.mul_pos (Nat.succ_pos _) (Nat.pos_of_ne_zero fun hzero => hbs ?_)
    exact UInt32.toNat_inj.mp hzero
  obtain ⟨hbuffer, hbusy⟩ := h.busy hopc hpos
  refine ⟨?_, hbuffer.1, h.fitsBuffer, h.fitsBackend⟩
  by_contra hfull
  exact hbusy (transferLength_full hfull)

/-- **What success means.** A Read or Write that succeeds has moved exactly the bytes it asks for
if and only if they are less than 65536 blocks, within the data buffer and within the backend; or
the blocks are empty. -/
theorem success_moves_iff (hb : ctx.backend = some b) (hsucc : (c.reply ctx).Succeeds) :
    MovesAsked ctx c b ↔
      (ctx.nsConfig c.cmd.nsid).blockSize = 0 ∨ TransferFits ctx c.cmd b := by
  obtain ⟨ha, hok⟩ := (reply_replies (hopc.imp_right Or.inl) hb).success hsucc
  constructor
  · intro h
    by_cases hbs : (ctx.nsConfig c.cmd.nsid).blockSize = 0
    · exact Or.inl hbs
    · exact Or.inr (h.fits hopc hbs)
  · rintro (hbs | hfits)
    · exact moves_of_noBytes hopc hbs
    · exact moves_of_fits hopc ha hok hfits

end Transfer

/-! ## A Read of 65536 blocks -/

/-- A memory backend of 64 MiB. -/
def serverDisk : Backend where
  type := .memory
  size := 0x4000000

/-- What `CmdEngineInitSimple` makes of it, with the data buffer of the driver. -/
def serverDiskContext : IoCmdContext :=
  cmdEngineInitIo (CmdEngineConfig.simple (some serverDisk)) true 0x3FAB000

/-- A Read from block 0 on. -/
def readFromStart (nlbField : UInt32) : BufferedCommand where
  cmd := { opc := nvmeIoRead, nsid := 1, cdw12 := nlbField }

theorem success_moves_iff_twoBlocks :
    MovesAsked serverDiskContext (readFromStart 1) serverDisk ↔
      (serverDiskContext.nsConfig 1).blockSize = 0 ∨
        TransferFits serverDiskContext (readFromStart 1).cmd serverDisk :=
  success_moves_iff (Or.inl rfl) rfl (by decide)

/-- It succeeds and moves nothing. -/
theorem success_moves_nothing :
    serverDiskContext.backend = some serverDisk ∧
      ((readFromStart 65535).reply serverDiskContext).Succeeds ∧
      ¬ MovesAsked serverDiskContext (readFromStart 65535) serverDisk := by
  refine ⟨rfl, by decide, fun h => ?_⟩
  have hbs : (serverDiskContext.nsConfig 1).blockSize ≠ 0 := by decide
  exact Nat.lt_irrefl 65535 (h.fits (Or.inl rfl) hbs).field

end VirtualNvme
