import VirtualNvme.Verification.NamespaceTables
import VirtualNvme.Verification.SharedBackend

/-!
# The server stays inside its backend

`CmdEngineInitSimple` makes one namespace of all the whole blocks of the backend. A Read, Write
or Write Zeroes leads to at most one call of the backend (`backendCall`), and that call is all
that happens to the backend and to the data buffer. In a run of commands from there, every call
is for bytes of the backend.
-/

namespace VirtualNvme

open Runs

/-! ## The call that a command makes -/

/-- A call of the backend for a range of bytes. -/
inductive BackendCall where
  | read (offset : UInt64) (length : UInt32)
  | write (offset : UInt64) (length : UInt32)
  | writeZeroes (offset length : UInt64)
  deriving Repr, DecidableEq

def BackendCall.offset : BackendCall → UInt64
  | read offset _ => offset
  | write offset _ => offset
  | writeZeroes offset _ => offset

def BackendCall.length : BackendCall → UInt64
  | read _ length => length.toUInt64
  | write _ length => length.toUInt64
  | writeZeroes _ length => length

/-- Success, data buffer and backend after a call. -/
def BackendCall.perform (b : Backend) (data : UInt32 → UInt8) :
    BackendCall → Bool × (UInt32 → UInt8) × Backend
  | read offset length => backendRead b offset data length
  | write offset length =>
    let r := backendWrite b offset data length
    (r.1, data, r.2)
  | writeZeroes offset length =>
    let r := backendWriteZeroes b offset length
    (r.1, data, r.2)

/-- A Read, Write or Write Zeroes. -/
def BufferedCommand.Ranged (c : BufferedCommand) : Prop :=
  c.cmd.opc = nvmeIoRead ∨ c.cmd.opc = nvmeIoWrite ∨ c.cmd.opc = nvmeIoWriteZeroes

/-- The checks on the namespace, the write protection and the block range let it through. -/
def BufferedCommand.Accepted (ctx : IoCmdContext) (c : BufferedCommand) : Prop :=
  ioCmdValidateLbaRange ctx c.cmd.nsid c.cmd.slba c.cmd.nlb.toUInt32 = true ∧
    (c.cmd.opc = nvmeIoRead ∨ (ctx.nsConfig c.cmd.nsid).readOnly = false)

instance (ctx : IoCmdContext) (c : BufferedCommand) : Decidable (c.Accepted ctx) :=
  inferInstanceAs (Decidable (_ ∧ _))

/-- The call of the backend, if there is a backend to call. -/
def BufferedCommand.backendCall (ctx : IoCmdContext) (c : BufferedCommand) :
    Option BackendCall :=
  if ¬ c.Accepted ctx then none
  else if c.cmd.opc = nvmeIoRead then
    if BufferFits ctx c.cmd then
      some (.read (backendOffset ctx c.cmd) (transferLength ctx c.cmd))
    else none
  else if c.cmd.opc = nvmeIoWrite then
    if BufferFits ctx c.cmd then
      some (.write (backendOffset ctx c.cmd) (transferLength ctx c.cmd))
    else none
  else if c.cmd.opc = nvmeIoWriteZeroes then
    some (.writeZeroes (backendOffset ctx c.cmd) (zeroLength ctx c.cmd))
  else none

/-- Success, data buffer and backend after the call, if there is one. -/
def BufferedCommand.outcome (ctx : IoCmdContext) (c : BufferedCommand) (b : Backend) :
    Bool × (UInt32 → UInt8) × Backend :=
  match c.backendCall ctx with
  | none => (true, c.data, b)
  | some call => call.perform b c.data

/-- The completion will carry status code type 0 and status code 0. -/
def IoReply.Succeeds (r : IoReply) : Prop :=
  nvmeStatusSct r.status = 0 ∧ nvmeStatusSc r.status = 0

instance IoReply.decidableSucceeds (r : IoReply) : Decidable r.Succeeds :=
  inferInstanceAs (Decidable (_ ∧ _))

/-! ## The reply -/

/-- A status code stays in its bits, whatever the phase. -/
theorem statusCode_eq_zero {sct sc phase : UInt8}
    (h : nvmeStatusSc (nvmeMakeStatus sct sc phase) = 0) : sc = 0 := by
  apply UInt8.toBitVec_inj.mp
  ext i hi
  have hlt : 1 + i < 16 ∧ i < 16 := by omega
  have hmask : (255#16)[i] = true := by
    interval_cases i <;> simp
  have hbit := congrArg (fun x : UInt16 => x.toBitVec.getLsbD i) h
  simp only [nvmeStatusSc, nvmeMakeStatus] at hbit
  simp [hlt, hmask] at hbit
  simpa [hi] using hbit.1.2

theorem fail_not_succeeds (ctx : IoCmdContext) (data : UInt32 → UInt8) {sct sc : UInt8}
    (hsc : sc ≠ 0) (phase : UInt8) : ¬ (ctx.fail data sct sc phase).Succeeds :=
  fun h => hsc (statusCode_eq_zero h.2)

section Reply

variable {ctx : IoCmdContext} {c : BufferedCommand} {b : Backend} (phase : UInt8)

/-- The reply of a handler: what the call leaves, with success only if the call succeeds; or the
command is refused and nothing happens. -/
structure Replies (ctx : IoCmdContext) (c : BufferedCommand) (b : Backend) (r : IoReply) :
    Prop where
  data : r.data = (c.outcome ctx b).2.1
  backend : r.ctx.backend = some (c.outcome ctx b).2.2
  success : r.Succeeds → c.Accepted ctx ∧ (c.outcome ctx b).1 = true

theorem backendCall_read (hopc : c.cmd.opc = nvmeIoRead) (ha : c.Accepted ctx) :
    c.backendCall ctx = if BufferFits ctx c.cmd then
      some (.read (backendOffset ctx c.cmd) (transferLength ctx c.cmd)) else none := by
  rw [BufferedCommand.backendCall, if_neg (not_not_intro ha), if_pos hopc]

theorem backendCall_write (hopc : c.cmd.opc = nvmeIoWrite) (ha : c.Accepted ctx) :
    c.backendCall ctx = if BufferFits ctx c.cmd then
      some (.write (backendOffset ctx c.cmd) (transferLength ctx c.cmd)) else none := by
  have hread : c.cmd.opc ≠ nvmeIoRead := by
    rw [hopc]
    decide
  rw [BufferedCommand.backendCall, if_neg (not_not_intro ha), if_neg hread, if_pos hopc]

theorem backendCall_writeZeroes (hopc : c.cmd.opc = nvmeIoWriteZeroes) (ha : c.Accepted ctx) :
    c.backendCall ctx =
      some (.writeZeroes (backendOffset ctx c.cmd) (zeroLength ctx c.cmd)) := by
  have hne : c.cmd.opc ≠ nvmeIoRead ∧ c.cmd.opc ≠ nvmeIoWrite := by
    rw [hopc]
    decide
  rw [BufferedCommand.backendCall, if_neg (not_not_intro ha), if_neg hne.1, if_neg hne.2,
    if_pos hopc]

theorem outcome_refused (h : ¬ c.Accepted ctx) : c.outcome ctx b = (true, c.data, b) := by
  rw [BufferedCommand.outcome, BufferedCommand.backendCall, if_pos h]

/-- A command that a check refuses. -/
theorem Replies.refused (hb : ctx.backend = some b) (h : ¬ c.Accepted ctx) (sct : UInt8)
    {sc : UInt8} (hsc : sc ≠ 0) : Replies ctx c b (ctx.fail c.data sct sc phase) where
  data := by
    rw [outcome_refused h]
    rfl
  backend := by
    rw [outcome_refused h]
    exact hb
  success hs := absurd hs (fail_not_succeeds ctx c.data hsc phase)

theorem not_accepted_of_invalid (h : (!ioCmdIsNamespaceValid ctx c.cmd.nsid) = true) :
    ¬ c.Accepted ctx := by
  intro ha
  have hfalse : ioCmdValidateLbaRange ctx c.cmd.nsid c.cmd.slba c.cmd.nlb.toUInt32 = false :=
    validateLbaRange_valid (by simpa using h)
  exact Bool.false_ne_true (hfalse.symm.trans ha.1)

theorem not_accepted_of_range
    (h : (!ioCmdValidateLbaRange ctx c.cmd.nsid c.cmd.slba c.cmd.nlb.toUInt32) = true) :
    ¬ c.Accepted ctx := by
  intro ha
  rw [ha.1] at h
  exact Bool.false_ne_true h

theorem not_accepted_of_readOnly (hopc : c.cmd.opc ≠ nvmeIoRead)
    (h : (ctx.nsConfig c.cmd.nsid).readOnly = true) : ¬ c.Accepted ctx := by
  intro ha
  have hwritable := ha.2.resolve_left hopc
  exact Bool.false_ne_true (hwritable.symm.trans h)

/-- A command that makes its call and reports what becomes of it. -/
theorem Replies.called (h : c.Accepted ctx) {call : BackendCall}
    (hcall : c.backendCall ctx = some call) (done : UInt16) (stats : IoStats) (sct : UInt8)
    {sc : UInt8} (hsc : sc ≠ 0) :
    Replies ctx c b
      (if (call.perform b c.data).1 then
        (⟨done, { ctx with backend := some (call.perform b c.data).2.2, stats := stats },
          (call.perform b c.data).2.1⟩ : IoReply)
      else IoCmdContext.fail { ctx with backend := some (call.perform b c.data).2.2 }
        (call.perform b c.data).2.1 sct sc phase) := by
  have hout : c.outcome ctx b = call.perform b c.data := by
    rw [BufferedCommand.outcome, hcall]
  rw [← hout]
  by_cases hok : (c.outcome ctx b).1 = true
  · rw [if_pos hok]
    exact ⟨rfl, rfl, fun _ => ⟨h, hok⟩⟩
  · rw [if_neg hok]
    exact ⟨rfl, rfl, fun hs => absurd hs (fail_not_succeeds _ _ hsc phase)⟩

/-- A command that is done without a call. -/
theorem Replies.uncalled (hb : ctx.backend = some b) (h : c.Accepted ctx)
    (hcall : c.backendCall ctx = none) (done : UInt16) (stats : IoStats) :
    Replies ctx c b ⟨done, { ctx with stats := stats }, c.data⟩ := by
  have hnone : c.outcome ctx b = (true, c.data, b) := by
    rw [BufferedCommand.outcome, hcall]
  constructor
  · rw [hnone]
  · rw [hnone]
    exact hb
  · exact fun _ => ⟨h, by rw [hnone]⟩

/-- The transfer of a Read or Write, if there is room for it in the data buffer. -/
theorem Replies.transfer (hb : ctx.backend = some b) (h : c.Accepted ctx) {call : BackendCall}
    (hcall : c.backendCall ctx = if BufferFits ctx c.cmd then some call else none)
    (done : UInt16) (stats : IoStats) (sct : UInt8) {sc : UInt8} (hsc : sc ≠ 0) :
    Replies ctx c b
      (if BufferFits ctx c.cmd then
        if (call.perform b c.data).1 then
          (⟨done, { ctx with backend := some (call.perform b c.data).2.2, stats := stats },
            (call.perform b c.data).2.1⟩ : IoReply)
        else IoCmdContext.fail { ctx with backend := some (call.perform b c.data).2.2 }
          (call.perform b c.data).2.1 sct sc phase
      else ⟨done, { ctx with stats := stats }, c.data⟩) := by
  by_cases hbuffer : BufferFits ctx c.cmd
  · rw [if_pos hbuffer] at hcall ⊢
    exact Replies.called phase h hcall done stats sct hsc
  · rw [if_neg hbuffer] at hcall ⊢
    exact Replies.uncalled hb h hcall done stats

theorem ioCmdRead_replies (hopc : c.cmd.opc = nvmeIoRead) (hb : ctx.backend = some b) :
    Replies ctx c b (ioCmdRead ctx c.data c.cmd phase) := by
  unfold ioCmdRead
  dsimp only
  by_cases hvalid : (!ioCmdIsNamespaceValid ctx c.cmd.nsid) = true
  · rw [if_pos hvalid]
    exact Replies.refused phase hb (not_accepted_of_invalid hvalid) 0 (by decide)
  rw [if_neg hvalid, ioCmdGetBlockSize_eq (by simpa using hvalid)]
  by_cases hrange :
      (!ioCmdValidateLbaRange ctx c.cmd.nsid c.cmd.slba c.cmd.nlb.toUInt32) = true
  · rw [if_pos hrange]
    exact Replies.refused phase hb (not_accepted_of_range hrange) 0 (by decide)
  rw [if_neg hrange]
  have ha : c.Accepted ctx := ⟨by simpa using hrange, Or.inl hopc⟩
  split
  · rename_i hnone
    rw [hb] at hnone
    cases hnone
  · rename_i b₁ hb₁
    obtain rfl : b = b₁ := Option.some.inj (hb.symm.trans hb₁)
    exact Replies.transfer phase hb ha (backendCall_read hopc ha) _ _ 0x02
      (by decide : (0x81 : UInt8) ≠ 0)

/-- The checks that Write and Write Zeroes have in common. -/
theorem Replies.gated (hopc : c.cmd.opc ≠ nvmeIoRead) (hb : ctx.backend = some b) {r : IoReply}
    (h : c.Accepted ctx → Replies ctx c b r) :
    Replies ctx c b
      (if !ioCmdIsNamespaceValid ctx c.cmd.nsid then ctx.fail c.data 0 0x0B phase
      else if (ctx.nsConfig c.cmd.nsid).readOnly then ctx.fail c.data 0 0x82 phase
      else if !ioCmdValidateLbaRange ctx c.cmd.nsid c.cmd.slba c.cmd.nlb.toUInt32 then
        ctx.fail c.data 0 0x80 phase
      else r) := by
  split_ifs with hvalid hro hrange
  · exact Replies.refused phase hb (not_accepted_of_invalid hvalid) 0 (by decide)
  · exact Replies.refused phase hb (not_accepted_of_readOnly hopc hro) 0 (by decide)
  · exact Replies.refused phase hb (not_accepted_of_range hrange) 0 (by decide)
  · exact h ⟨by simpa using hrange, Or.inr (eq_false_of_ne_true hro)⟩

theorem ioCmdWrite_replies (hopc : c.cmd.opc = nvmeIoWrite) (hb : ctx.backend = some b) :
    Replies ctx c b (ioCmdWrite ctx c.data c.cmd phase) := by
  have hne : c.cmd.opc ≠ nvmeIoRead := by
    rw [hopc]
    decide
  unfold ioCmdWrite
  apply Replies.gated phase hne hb
  intro ha
  split
  · rename_i hnone
    rw [hb] at hnone
    cases hnone
  · rename_i b₁ hb₁
    obtain rfl : b = b₁ := Option.some.inj (hb.symm.trans hb₁)
    exact Replies.transfer phase hb ha (backendCall_write hopc ha) _ _ 0x02
      (by decide : (0x82 : UInt8) ≠ 0)

theorem ioCmdWriteZeroes_replies (hopc : c.cmd.opc = nvmeIoWriteZeroes)
    (hb : ctx.backend = some b) :
    Replies ctx c b (ioCmdWriteZeroes ctx c.data c.cmd phase) := by
  have hne : c.cmd.opc ≠ nvmeIoRead := by
    rw [hopc]
    decide
  unfold ioCmdWriteZeroes
  apply Replies.gated phase hne hb
  intro ha
  split
  · rename_i hnone
    rw [hb] at hnone
    cases hnone
  · rename_i b₁ hb₁
    obtain rfl : b = b₁ := Option.some.inj (hb.symm.trans hb₁)
    exact Replies.called phase ha (backendCall_writeZeroes hopc ha) _ _ 0x02
      (by decide : (0x82 : UInt8) ≠ 0)

/-- **One call.** What a Read, Write or Write Zeroes does to the backend and to the data buffer
is what its call does. -/
theorem reply_replies (hc : c.Ranged) (hb : ctx.backend = some b) :
    Replies ctx c b (c.reply ctx) := by
  unfold BufferedCommand.reply ioCmdDispatch
  dsimp only
  rcases hc with hopc | hopc | hopc
  · rw [if_pos hopc]
    exact ioCmdRead_replies _ hopc hb
  · rw [if_neg (by rw [hopc]; decide), if_pos hopc]
    exact ioCmdWrite_replies _ hopc hb
  · rw [if_neg (by rw [hopc]; decide), if_neg (by rw [hopc]; decide),
      if_neg (by rw [hopc]; decide), if_pos hopc]
    exact ioCmdWriteZeroes_replies _ hopc hb

end Reply

/-! ## Inside the backend -/

/-- The call is for bytes of a backend of this size, over the natural numbers. -/
def BackendCall.Inside (size : UInt64) (call : BackendCall) : Prop :=
  call.offset.toNat + call.length.toNat ≤ size.toNat

section Inside

variable {b : Backend} {call : BackendCall} (h : call.Inside b.size)

include h

theorem place_of_inside {x : UInt64} (hx : b.size ≤ x) :
    ¬ (x - call.offset).toNat < call.length.toNat := by
  have hle : b.size.toNat ≤ x.toNat := UInt64.le_iff_toNat_le.mp hx
  have h : call.offset.toNat + call.length.toNat ≤ b.size.toNat := h
  rw [UInt64.toNat_sub_of_le _ _ (UInt64.le_iff_toNat_le.mpr (by omega))]
  omega

/-- It stores nothing behind the end. -/
theorem perform_keeps (data : UInt32 → UInt8) {x : UInt64} (hx : b.size ≤ x) :
    (call.perform b data).2.2.data x = b.data x := by
  have hplace := place_of_inside h hx
  cases call with
  | read offset length => exact (backendRead_stores b offset data length).data x
  | write offset length =>
      have hlength : length.toUInt64.toNat = length.toNat := UInt32.toNat_toUInt64 length
      have hplace : ¬ (x - offset).toNat < length.toUInt64.toNat := hplace
      refine ((backendWrite_stores b offset data length).data x).trans ?_
      rw [Backend.written, if_neg fun hw => hplace (hlength ▸ hw.2)]
      rfl
  | writeZeroes offset length =>
      have hplace : ¬ (x - offset).toNat < length.toNat := hplace
      refine ((backendWriteZeroes_stores b offset length).data x).trans ?_
      rw [Backend.zeroed, if_neg fun hz => hplace hz.2.1]
      rfl

/-- It hands out nothing from behind the end. -/
theorem perform_reads (data : UInt32 → UInt8) {bytes : UInt64 → UInt8}
    (hsame : ∀ x, x < b.size → bytes x = b.data x) :
    (call.perform { b with data := bytes } data).2.1 = (call.perform b data).2.1 := by
  cases call with
  | write offset length => rfl
  | writeZeroes offset length => rfl
  | read offset length =>
      have h : offset.toNat + length.toUInt64.toNat ≤ b.size.toNat := h
      have hlength : length.toUInt64.toNat = length.toNat := UInt32.toNat_toUInt64 length
      have hsize := b.size.toNat_lt
      have hcall : Backend.fileCall { b with data := bytes } =
          (b.fileCall.1, { b.fileCall.2 with data := bytes }) := by
        obtain ⟨type, _, _, _, _, _, _⟩ := b
        cases type <;> rfl
      simp only [BackendCall.perform, backendRead, hcall, (fileCall_frame b).2]
      split_ifs
      · rfl
      · funext i
        dsimp only
        split_ifs with hi
        · refine hsame _ (UInt64.lt_iff_toNat_lt.mpr ?_)
          have hi : i.toNat < length.toNat := hi
          rw [UInt64.toNat_add, UInt32.toNat_toUInt64]
          omega
        · rfl
      · rfl

end Inside

/-- What a Read, Write or Write Zeroes makes of the backend is what its one call makes of it,
and the call is for bytes of the backend; nothing behind the end is changed, and the data buffer
does not depend on what is there. -/
structure StaysInside (ctx : IoCmdContext) (c : BufferedCommand) (b : Backend) : Prop where
  inside : ∀ call ∈ c.backendCall ctx, call.Inside (backendGetSize ctx.backend)
  outcome : Replies ctx c b (c.reply ctx)
  keeps : ∀ x, b.size ≤ x → (c.outcome ctx b).2.2.data x = b.data x
  reads : ∀ bytes : UInt64 → UInt8, (∀ x, x < b.size → bytes x = b.data x) →
    (c.outcome ctx { b with data := bytes }).2.1 = (c.outcome ctx b).2.1

theorem staysInside_of_inside {ctx : IoCmdContext} {c : BufferedCommand} {b : Backend}
    (hc : c.Ranged) (hb : ctx.backend = some b)
    (h : ∀ call ∈ c.backendCall ctx, call.Inside b.size) : StaysInside ctx c b := by
  have hsize : backendGetSize ctx.backend = b.size := by
    rw [hb]
    rfl
  refine ⟨hsize ▸ h, reply_replies hc hb, fun x hx => ?_, fun bytes hsame => ?_⟩
  · unfold BufferedCommand.outcome
    cases hcall : c.backendCall ctx with
    | none => rfl
    | some call => exact perform_keeps (h call hcall) c.data hx
  · unfold BufferedCommand.outcome
    cases hcall : c.backendCall ctx with
    | none => rfl
    | some call => exact perform_reads (h call hcall) c.data hsame

/-! ## From `CmdEngineInitSimple` on -/

/-- Every namespace has the whole blocks of the backend, 512 bytes each. -/
def WholeBlocks (ctx : IoCmdContext) : Prop :=
  ∀ b ∈ ctx.backend, ∀ nsid, ioCmdIsNamespaceValid ctx nsid = true →
    (ctx.nsConfig nsid).blockSize = 512 ∧ (ctx.nsConfig nsid).size = b.size / 512

theorem cmdEngineInitSimple_wholeBlocks (shm : Shm) (backend : Option Backend) :
    WholeBlocks (cmdEngineInitSimple {} shm backend).2.ioCtx := by
  unfold cmdEngineInitSimple cmdEngineInit
  by_cases hmagic : shm.magic ≠ 0x454D564E
  · rw [if_pos hmagic]
    rintro b ⟨⟩
  · rw [if_neg hmagic]
    intro b hb nsid hvalid
    obtain rfl : backend = some b := hb
    obtain ⟨hne, hle, -⟩ := (isNamespaceValid_iff _ _).mp hvalid
    -- one namespace, so it is the first
    obtain rfl : nsid = 1 := by
      have hle : nsid.toNat ≤ 1 := UInt32.le_iff_toNat_le.mp hle
      have hpos : nsid.toNat ≠ 0 := fun h => hne (UInt32.toNat_inj.mp h)
      exact UInt32.toNat_inj.mp (by simp; omega)
    exact ⟨rfl, rfl⟩

/-- The tables stay, and so does the size of the backend. -/
theorem WholeBlocks.step {ctx : IoCmdContext} (h : WholeBlocks ctx) (c : BufferedCommand) :
    WholeBlocks (bufferedCommandStep ctx c) := by
  obtain ⟨hnone, hsome⟩ := bufferedCommandStep_carries ctx c
  cases hb : ctx.backend with
  | none =>
      obtain ⟨stats, hstep⟩ := hnone hb
      rw [hstep]
      exact h
  | some b =>
      obtain ⟨b', stats, hstep, hstores⟩ := hsome b hb
      rw [hstep]
      intro b₁ hb₁ nsid hvalid
      obtain rfl : b' = b₁ := Option.some.inj hb₁
      rw [hstores.size]
      exact h b hb nsid hvalid

/-- The block check, the block size and the division make the byte range. -/
theorem WholeBlocks.inside {ctx : IoCmdContext} (h : WholeBlocks ctx) {c : BufferedCommand}
    {b : Backend} (hb : ctx.backend = some b) {call : BackendCall}
    (hcall : c.backendCall ctx = some call) : call.Inside b.size := by
  have ha : c.Accepted ctx := by
    by_contra hrefused
    rw [BufferedCommand.backendCall, if_pos hrefused] at hcall
    cases hcall
  have hvalid : ioCmdIsNamespaceValid ctx c.cmd.nsid = true := by
    by_contra hinvalid
    exact not_accepted_of_invalid (by simpa using hinvalid) ha
  obtain ⟨hbs, hblocks⟩ := h b hb _ hvalid
  have hrange := ha.1
  rw [ioCmdValidateLbaRange_eq hvalid, hblocks] at hrange
  have hrange : c.cmd.slba.toNat + c.cmd.nlb.toUInt32.toNat ≤ (b.size / 512).toNat :=
    of_decide_eq_true hrange
  have hsize := b.size.toNat_lt
  have hnlb := c.cmd.nlb.toNat_lt
  have hdiv : (b.size / 512).toNat = b.size.toNat / 512 := UInt64.toNat_div b.size 512
  rw [hdiv, UInt16.toNat_toUInt32] at hrange
  have hoffset : (backendOffset ctx c.cmd).toNat = c.cmd.slba.toNat * 512 := by
    rw [backendOffset, hbs, UInt64.toNat_mul, UInt32.toNat_toUInt64]
    exact Nat.mod_eq_of_lt (by simp; omega)
  have hlength : (transferLength ctx c.cmd).toNat = c.cmd.nlb.toNat * 512 := by
    rw [transferLength, hbs, UInt32.toNat_mul, UInt16.toNat_toUInt32]
    exact Nat.mod_eq_of_lt (by simp; omega)
  have hzero : (zeroLength ctx c.cmd).toNat = c.cmd.nlb.toNat * 512 := by
    rw [zeroLength, hbs, UInt64.toNat_mul, UInt16.toNat_toUInt64, UInt32.toNat_toUInt64]
    exact Nat.mod_eq_of_lt (by simp; omega)
  have hbound : c.cmd.slba.toNat * 512 + c.cmd.nlb.toNat * 512 ≤ b.size.toNat := by
    omega
  rw [BufferedCommand.backendCall, if_neg (not_not_intro ha)] at hcall
  unfold BackendCall.Inside
  split_ifs at hcall
  all_goals
    cases hcall
    simp only [BackendCall.offset, BackendCall.length, UInt32.toNat_toUInt64, hoffset, hlength,
      hzero]
    exact hbound

/-- **The server stays inside its backend.** -/
theorem serverCalls_inside (shm : Shm) (backend : Option Backend) (cs : List BufferedCommand) :
    EachStep bufferedCommandStep
      (fun ctx c => c.Ranged → ∀ b, ctx.backend = some b → StaysInside ctx c b)
      (cmdEngineInitSimple {} shm backend).2.ioCtx cs := by
  rintro pre c post - hc b hb
  have hstep : ∀ ctx c, WholeBlocks ctx → WholeBlocks (bufferedCommandStep ctx c) :=
    fun _ c h => h.step c
  have hblocks := run_induct hstep (cmdEngineInitSimple_wholeBlocks shm backend) pre
  exact staysInside_of_inside hc hb fun call hcall => hblocks.inside hb hcall

end VirtualNvme
