import VirtualNvme.Runs
import VirtualNvme.ShiftQueue
import VirtualNvme.Verification.ServerBounds
import VirtualNvme.Verification.SqHead

/-!
# Pending asynchronous event requests

An asynchronous event request is not completed when it arrives. Its command id is kept in
`AerCids` until `VnvmeCompleteAer` has an event for it. The array and its count hold a queue of at
most four ids. `VnvmeCompleteAer` removes the id before it posts the completion, so a post that
is refused loses the request.
-/

namespace VirtualNvme

open Runs ShiftQueue

/-! ## The array -/

/-- `VNVME_MAX_AER_COMMANDS` -/
def vnvmeMaxAerCommands : UInt16 := 4

/-- `AerCids` and `AerCount` -/
structure AerTable where
  aerCids : Nat → UInt16 := fun _ => 0
  aerCount : UInt16 := 0

/-- The stored ids. -/
def AerTable.pending (t : AerTable) : List UInt16 := contents t.aerCids t.aerCount.toNat

/-- What `HandleAsyncEventRequest` does to the array, if it stores the id. -/
def AerTable.store (t : AerTable) (cid : UInt16) : Option AerTable :=
  if t.aerCount ≥ vnvmeMaxAerCommands then none
  else
    some
      { aerCids := Function.update t.aerCids t.aerCount.toNat cid
        aerCount := t.aerCount + 1 }

/-- What `VnvmeCompleteAer` takes from the array, and what it leaves there. -/
def AerTable.take (t : AerTable) : Option (UInt16 × AerTable) :=
  if t.aerCount = 0 then none
  else
    some (t.aerCids 0,
      { aerCids := shiftDown t.aerCids (t.aerCount.toNat - 1)
        aerCount := t.aerCount - 1 })

theorem AerTable.length_pending (t : AerTable) : t.pending.length = t.aerCount.toNat :=
  length_contents _ _

theorem AerTable.pending_eq_nil_iff (t : AerTable) : t.pending = [] ↔ t.aerCount = 0 := by
  rw [← List.length_eq_zero_iff, t.length_pending]
  exact UInt16.toNat_inj (b := 0)

/-- The test of the count, on the list. -/
theorem AerTable.full_iff (t : AerTable) :
    t.aerCount ≥ vnvmeMaxAerCommands ↔ t.pending.length ≥ 4 := by
  rw [t.length_pending]
  exact UInt16.le_iff_toNat_le

theorem AerTable.store_none {t : AerTable} (h : t.pending.length ≥ 4) (cid : UInt16) :
    t.store cid = none := if_pos (t.full_iff.mpr h)

theorem AerTable.store_some {t : AerTable} (h : ¬ t.pending.length ≥ 4) (cid : UInt16) :
    ∃ t', t.store cid = some t' ∧ t'.pending = t.pending ++ [cid] := by
  refine ⟨_, if_neg fun hfull => h (t.full_iff.mp hfull), ?_⟩
  rw [t.length_pending] at h
  have hcount : (t.aerCount + 1).toNat = t.aerCount.toNat + 1 := by
    rw [UInt16.toNat_add]
    exact Nat.mod_eq_of_lt (show t.aerCount.toNat + 1 < 65536 by omega)
  unfold AerTable.pending
  rw [hcount]
  exact contents_push _ _ _

theorem AerTable.take_none {t : AerTable} (h : t.pending = []) : t.take = none :=
  if_pos (t.pending_eq_nil_iff.mp h)

theorem AerTable.take_some {t : AerTable} {cid : UInt16} {rest : List UInt16}
    (h : t.pending = cid :: rest) :
    t.aerCids 0 = cid ∧ ∃ t', t.take = some (cid, t') ∧ t'.pending = rest := by
  have hne : t.aerCount ≠ 0 := by
    intro hzero
    rw [t.pending_eq_nil_iff.mpr hzero] at h
    cases h
  have hcount : (t.aerCount - 1).toNat = t.aerCount.toNat - 1 :=
    UInt16.toNat_sub_of_le _ _ (UInt16.le_iff_toNat_le.mpr (UInt16.pos_iff_ne_zero.mpr hne))
  have hpos : 0 < t.aerCount.toNat := UInt16.pos_iff_ne_zero.mpr hne
  have hshift := contents_shiftDown t.aerCids (t.aerCount.toNat - 1)
  rw [Nat.sub_add_cancel hpos] at hshift
  obtain ⟨hfirst, hrest⟩ := List.cons.inj (hshift.trans h)
  refine ⟨hfirst, _, (if_neg hne).trans (by rw [hfirst]), ?_⟩
  unfold AerTable.pending
  rw [hcount]
  exact hrest

/-! ## The pending requests of the driver -/

theorem vnvmePostCompletion_aerCids (d : Driver) (q : UInt16) (c : NvmeCompletion) :
    (vnvmePostCompletion d q c).2.pdo.aerCids = d.pdo.aerCids := by
  rcases vnvmePostCompletion_cases d q c with ⟨-, hd⟩ | ⟨shm, -, hd⟩
  · rw [hd]
  · rw [hd]
    rfl

/-- Behind its handler, an admin command leaves the pending requests alone. -/
theorem vnvmeProcessAdminCommand_aerCids (d : Driver) (cmd : NvmeCommand) :
    (vnvmeProcessAdminCommand d cmd).2.pdo.aerCids =
      (handleAdminCommand d.config d.pdo d.os cmd).pdo.aerCids := by
  have hposted : ∀ c, (postAdminOutcome (adminHandled d cmd) cmd.cid c).2.pdo.aerCids =
      (adminHandled d cmd).pdo.aerCids := by
    rintro (_ | ⟨dw0, sct, sc⟩)
    · rfl
    · exact vnvmePostCompletion_aerCids _ 0 _
  exact hposted _

/-- Only an asynchronous event request writes to them. -/
theorem handleAdminCommand_aerCids (cfg : Config) (p : PdoContext) (os : Os) {cmd : NvmeCommand}
    (hopc : cmd.opc ≠ nvmeAdminAsyncEventRequest) :
    (handleAdminCommand cfg p os cmd).pdo.aerCids = p.aerCids :=
  handleAdminCommand_keeps (fun _ _ => rfl) (fun _ _ _ _ => rfl) (fun _ => rfl)
    (fun h => absurd h hopc) cfg

theorem handleAdminCommand_asyncEvent (cfg : Config) (p : PdoContext) (os : Os)
    {cmd : NvmeCommand} (hopc : cmd.opc = nvmeAdminAsyncEventRequest) :
    handleAdminCommand cfg p os cmd = handleAsyncEventRequest p os cmd := by
  unfold handleAdminCommand
  rw [hopc]
  rfl

/-- A request that finds room is stored and not completed. -/
theorem asyncEventRequest_room {d : Driver} {cmd : NvmeCommand}
    (hopc : cmd.opc = nvmeAdminAsyncEventRequest) (hroom : ¬ d.pdo.aerCids.length ≥ 4) :
    (vnvmeProcessAdminCommand d cmd).1 = .success ∧
      (vnvmeProcessAdminCommand d cmd).2.shm = d.shm ∧
      (vnvmeProcessAdminCommand d cmd).2.pdo.aerCids = d.pdo.aerCids ++ [cmd.cid] := by
  have hhandled := handleAdminCommand_asyncEvent d.config d.pdo d.os hopc
  rw [handleAsyncEventRequest, if_neg hroom] at hhandled
  rw [vnvmeProcessAdminCommand, hhandled]
  exact ⟨rfl, rfl, rfl⟩

/-- A request that finds none is answered with an error. -/
theorem asyncEventRequest_full {d : Driver} {cmd : NvmeCommand}
    (hopc : cmd.opc = nvmeAdminAsyncEventRequest) (hfull : d.pdo.aerCids.length ≥ 4) :
    (vnvmeProcessAdminCommand d cmd).1 =
        (postAdminCompletion d cmd.cid 0 nvmeSctCommand nvmeScAsyncEventLimitExceeded).1 ∧
      (vnvmeProcessAdminCommand d cmd).2.shm =
        (postAdminCompletion d cmd.cid 0 nvmeSctCommand nvmeScAsyncEventLimitExceeded).2.shm ∧
      (vnvmeProcessAdminCommand d cmd).2.pdo.aerCids = d.pdo.aerCids := by
  have hhandled := handleAdminCommand_asyncEvent d.config d.pdo d.os hopc
  rw [handleAsyncEventRequest, if_pos hfull] at hhandled
  refine ⟨?_, ?_, ?_⟩
  · rw [vnvmeProcessAdminCommand, hhandled]
    rfl
  · rw [vnvmeProcessAdminCommand, hhandled]
    rfl
  · rw [vnvmeProcessAdminCommand_aerCids, hhandled]
    rfl

theorem vnvmeCompleteAer_nil {d : Driver} (h : d.pdo.aerCids = []) (t i l : UInt8) :
    vnvmeCompleteAer d t i l = (.unsuccessful, d) := by
  rw [vnvmeCompleteAer, h]

/-- An event takes the oldest request and posts a completion for it. -/
theorem vnvmeCompleteAer_cons {d : Driver} {cid : UInt16} {rest : List UInt16}
    (h : d.pdo.aerCids = cid :: rest) (t i l : UInt8) :
    ∃ c : NvmeCompletion, c.cid = cid ∧ vnvmeCompleteAer d t i l =
      vnvmePostCompletion { d with pdo := { d.pdo with aerCids := rest } } 0 c := by
  unfold vnvmeCompleteAer
  rw [h]
  exact ⟨_, rfl, rfl⟩

/-! ## Histories -/

/-- What can happen: an admin command is processed, an event comes in, or the driver does
something else. Nothing else in the driver writes to `AerCids` and `AerCount`, so it may leave
any driver behind that has the same requests pending. -/
inductive AerEvent where
  | command (cmd : NvmeCommand)
  | complete (eventType eventInfo logPage : UInt8)
  | other (d : Driver)

/-- The driver with the array beside it, the ids of all requests it has accepted and of all that
have been removed again. -/
structure AerRun where
  driver : Driver
  table : AerTable
  accepted : List UInt16
  removed : List UInt16

/-- No request is pending in a new controller. -/
def AerRun.start (d : Driver) : AerRun where
  driver := { d with pdo := { d.pdo with aerCids := [] } }
  table := {}
  accepted := []
  removed := []

def aerStep (s : AerRun) : AerEvent → AerRun
  | .command cmd =>
    let s := { s with driver := (vnvmeProcessAdminCommand s.driver cmd).2 }
    if cmd.opc = nvmeAdminAsyncEventRequest then
      match s.table.store cmd.cid with
      | none => s
      | some table => { s with table := table, accepted := s.accepted ++ [cmd.cid] }
    else s
  | .complete eventType eventInfo logPage =>
    let s := { s with driver := (vnvmeCompleteAer s.driver eventType eventInfo logPage).2 }
    match s.table.take with
    | none => s
    | some (cid, table) => { s with table := table, removed := s.removed ++ [cid] }
  | .other d =>
    { s with driver := { d with pdo := { d.pdo with aerCids := s.driver.pdo.aerCids } } }

/-- The pending requests are those accepted and not yet removed, oldest first, and there are at
most four of them. -/
structure AerFifo (s : AerRun) : Prop where
  count_le : s.table.aerCount ≤ vnvmeMaxAerCommands
  count_eq : s.removed.length + s.table.aerCount.toNat = s.accepted.length
  order : s.accepted = s.removed ++ s.table.pending
  list : s.driver.pdo.aerCids = s.table.pending

/-- The command is answered with an error: one completion for it goes to the admin queue. If the
queue takes none, the error of the post is returned instead. -/
def AnsweredWithError (d : Driver) (cid : UInt16) (r : NtStatus × Driver) : Prop :=
  match cqCheck d 0 with
  | .error status => r.1 = status ∧ status ≠ .success ∧ r.2.shm = d.shm
  | .ok _ => r.1 = .success ∧ ∃ e, newEntries (d.cqEntries 0) (r.2.cqEntries 0) = [e] ∧
      e.cid = cid ∧ nvmeStatusSc e.status ≠ 0

/-- What a request and an event are answered with. A request that finds room gets no completion;
one that finds none gets an error, and the list stays. An event completes the oldest request; if
there is none it fails, and nothing changes. -/
def AerAnswer (s : AerRun) : AerEvent → Prop
  | .command cmd => cmd.opc = nvmeAdminAsyncEventRequest →
    let r := vnvmeProcessAdminCommand s.driver cmd
    if s.table.aerCount < vnvmeMaxAerCommands then r.1 = .success ∧ r.2.shm = s.driver.shm
    else
      AnsweredWithError s.driver cmd.cid r ∧ r.2.pdo.aerCids = s.driver.pdo.aerCids ∧
        (aerStep s (.command cmd)).table = s.table
  | .complete eventType eventInfo logPage =>
    let r := vnvmeCompleteAer s.driver eventType eventInfo logPage
    if s.table.aerCount = 0 then
      r = (.unsuccessful, s.driver) ∧ aerStep s (.complete eventType eventInfo logPage) = s
    else ∀ e ∈ newEntries (s.driver.cqEntries 0) (r.2.cqEntries 0), e.cid = s.table.aerCids 0
  | .other _ => True

/-! ## One step -/

/-- The phase tag is not part of the status code. -/
theorem nvmeStatusSc_withPhase (c : NvmeCompletion) (phase : Bool) :
    nvmeStatusSc (withPhase c phase).status = nvmeStatusSc c.status := by
  have hcut : ∀ s : UInt16, nvmeStatusSc s = nvmeStatusSc (s &&& 0xFFFE) := by
    intro s
    unfold nvmeStatusSc
    rw [UInt16.shiftRight_and, UInt16.and_assoc]
    rfl
  rw [hcut, withPhase_status_high, ← hcut]

/-- A completion with an error is an answer with an error. -/
theorem answeredWithError_of_post {d : Driver} {cid : UInt16} {sct sc : UInt8} (hsc : sc ≠ 0)
    {r : NtStatus × Driver} (hstatus : r.1 = (postAdminCompletion d cid 0 sct sc).1)
    (hshm : r.2.shm = (postAdminCompletion d cid 0 sct sc).2.shm) :
    AnsweredWithError d cid r := by
  have hentries := vnvmePostCompletion_newEntries d 0
    { cid := cid, dw0 := 0, sqid := 0, sqhd := d.pdo.lastAdminSqTail.toUInt16
      status := nvmeMakeStatus sct sc d.pdo.adminCqPhase.toUInt8 }
  rw [show (vnvmePostCompletion d 0 _).2.cqEntries = r.2.cqEntries by
    funext q
    rw [Driver.cqEntries, Driver.cqEntries, hshm]
    rfl] at hentries
  unfold AnsweredWithError
  cases hcheck : cqCheck d 0 with
  | error status =>
      rw [postAdminCompletion, vnvmePostCompletion_error hcheck] at hstatus hshm
      exact ⟨hstatus, cqCheck_error hcheck, hshm⟩
  | ok shm =>
      rw [postAdminCompletion, vnvmePostCompletion_ok hcheck] at hstatus
      rw [vnvmePostCompletion_ok hcheck, if_pos rfl] at hentries
      refine ⟨hstatus, _, hentries, rfl, ?_⟩
      rw [nvmeStatusSc_withPhase]
      exact fun hzero => hsc (statusCode_eq_zero hzero)

/-- The list of the driver is what the array holds. -/
theorem AerFifo.of_order {s : AerRun} (hle : s.table.pending.length ≤ 4)
    (horder : s.accepted = s.removed ++ s.table.pending)
    (hlist : s.driver.pdo.aerCids = s.table.pending) : AerFifo s := by
  refine ⟨?_, ?_, horder, hlist⟩
  · rw [s.table.length_pending] at hle
    exact UInt16.le_iff_toNat_le.mpr hle
  · rw [horder, List.length_append, s.table.length_pending]

theorem AerFifo.start (d : Driver) : AerFifo (AerRun.start d) :=
  .of_order (Nat.zero_le 4) rfl rfl

theorem AerFifo.pending_le {s : AerRun} (h : AerFifo s) : s.table.pending.length ≤ 4 := by
  rw [s.table.length_pending]
  exact UInt16.le_iff_toNat_le.mp h.count_le

theorem AerFifo.step (s : AerRun) (e : AerEvent) (h : AerFifo s) : AerFifo (aerStep s e) := by
  cases e with
  | command cmd =>
      unfold aerStep
      dsimp only
      split_ifs with hopc
      · by_cases hfull : s.table.pending.length ≥ 4
        · rw [AerTable.store_none hfull]
          refine .of_order h.pending_le h.order ?_
          exact (asyncEventRequest_full hopc (h.list ▸ hfull)).2.2.trans h.list
        · obtain ⟨table, hstore, hpending⟩ := AerTable.store_some hfull cmd.cid
          rw [hstore]
          refine .of_order ?_ ?_ ?_
          · dsimp only
            rw [hpending, List.length_append, List.length_singleton]
            omega
          · dsimp only
            rw [hpending, h.order, List.append_assoc]
          · dsimp only
            rw [(asyncEventRequest_room hopc (h.list ▸ hfull)).2.2, h.list, hpending]
      · refine .of_order h.pending_le h.order ?_
        dsimp only
        rw [vnvmeProcessAdminCommand_aerCids, handleAdminCommand_aerCids _ _ _ hopc, h.list]
  | complete t i l =>
      unfold aerStep
      dsimp only
      cases hpending : s.table.pending with
      | nil =>
          rw [AerTable.take_none hpending]
          refine .of_order h.pending_le h.order ?_
          dsimp only
          rw [vnvmeCompleteAer_nil (h.list.trans hpending)]
          exact h.list
      | cons cid rest =>
          obtain ⟨-, table, htake, hrest⟩ := AerTable.take_some hpending
          have hle := h.pending_le
          rw [hpending, List.length_cons] at hle
          rw [htake]
          refine .of_order ?_ ?_ ?_
          · dsimp only
            rw [hrest]
            omega
          · dsimp only
            rw [hrest, h.order, hpending, List.append_assoc]
            rfl
          · dsimp only
            obtain ⟨c, -, heq⟩ := vnvmeCompleteAer_cons (h.list.trans hpending) t i l
            rw [heq, vnvmePostCompletion_aerCids, hrest]
  | other d => exact .of_order h.pending_le h.order h.list

theorem aerAnswer_of_fifo {s : AerRun} (h : AerFifo s) (e : AerEvent) : AerAnswer s e := by
  have hfull_iff := s.table.full_iff
  cases e with
  | command cmd =>
      intro hopc
      dsimp only
      split_ifs with hroom
      · have hroom : ¬ s.driver.pdo.aerCids.length ≥ 4 := by
          rw [h.list, ← hfull_iff]
          exact UInt16.not_le.mpr hroom
        obtain ⟨hok, hshm, -⟩ := asyncEventRequest_room hopc hroom
        exact ⟨hok, hshm⟩
      · have hfull : s.table.pending.length ≥ 4 := hfull_iff.mp (UInt16.not_lt.mp hroom)
        obtain ⟨hstatus, hshm, hlist⟩ := asyncEventRequest_full hopc (h.list ▸ hfull)
        refine ⟨answeredWithError_of_post (by decide) hstatus hshm, hlist, ?_⟩
        simp only [aerStep, if_pos hopc, AerTable.store_none hfull]
  | complete t i l =>
      dsimp only [AerAnswer]
      split_ifs with hzero
      · have hnil := s.table.pending_eq_nil_iff.mpr hzero
        have heq := vnvmeCompleteAer_nil (h.list.trans hnil) t i l
        refine ⟨heq, ?_⟩
        simp only [aerStep, heq, AerTable.take_none hnil]
      · intro e he
        have hne := mt s.table.pending_eq_nil_iff.mp hzero
        obtain ⟨cid, rest, hpending⟩ := List.exists_cons_of_ne_nil hne
        obtain ⟨c, hcid, heq⟩ := vnvmeCompleteAer_cons (h.list.trans hpending) t i l
        rw [heq] at he
        have hentries := vnvmePostCompletion_newEntries
          { s.driver with pdo := { s.driver.pdo with aerCids := rest } } 0 c
        rw [(AerTable.take_some hpending).1, ← hcid]
        replace he := hentries ▸ he
        split_ifs at he
        · obtain rfl := List.mem_singleton.mp he
          rfl
        · cases he
  | other d => trivial

/-- **The pending requests are a bounded queue.** Through every sequence of requests and events,
whatever the driver does in between, at most four requests are pending, they are those accepted
and not yet removed, and they leave in the order in which they came. -/
theorem pendingAers_fifo (d : Driver) (es : List AerEvent) :
    Throughout aerStep AerFifo (AerRun.start d) es ∧
      EachStep aerStep AerAnswer (AerRun.start d) es := by
  have hinv : ∀ pre, AerFifo (run aerStep (AerRun.start d) pre) :=
    run_induct AerFifo.step (AerFifo.start d)
  exact ⟨fun pre _ _ => hinv pre, fun pre e _ _ => aerAnswer_of_fifo (hinv pre) e⟩

/-! ## A refused completion -/

/-- **When a failed completion keeps the request.** `VnvmeCompleteAer` keeps the list on failure
exactly if there is no request, or the admin completion queue is there and valid, so that the
post cannot fail. -/
theorem completeAer_keeps_iff (d : Driver) (eventType eventInfo logPage : UInt8) :
    ((vnvmeCompleteAer d eventType eventInfo logPage).1 ≠ .success →
        (vnvmeCompleteAer d eventType eventInfo logPage).2.pdo.aerCids = d.pdo.aerCids) ↔
      d.pdo.aerCids = [] ∨ ∃ shm, d.shm = some shm ∧ (shm.cq 0).valid ≠ 0 := by
  cases hlist : d.pdo.aerCids with
  | nil =>
      rw [vnvmeCompleteAer_nil hlist]
      exact iff_of_true (fun _ => hlist) (Or.inl rfl)
  | cons cid rest =>
      obtain ⟨c, -, heq⟩ := vnvmeCompleteAer_cons hlist eventType eventInfo logPage
      have hne : rest ≠ cid :: rest := by
        intro h
        exact absurd (congrArg List.length h) (Nat.ne_of_lt (Nat.lt_succ_self _))
      have hposts : (vnvmePostCompletion { d with pdo := { d.pdo with aerCids := rest } } 0 c).1 =
          .success ↔ ∃ shm, d.shm = some shm ∧ (shm.cq 0).valid ≠ 0 := by
        rw [vnvmePostCompletion_accepts_iff]
        refine exists_congr fun shm => ?_
        rw [cqCheck_ok_iff]
        exact ⟨fun h => ⟨h.1, h.2.2⟩, fun h => ⟨h.1, fun h0 => absurd rfl h0, h.2⟩⟩
      rw [heq, vnvmePostCompletion_aerCids, ← hposts]
      constructor
      · intro hkeeps
        by_contra hno
        exact hne (hkeeps fun hok => hno (Or.inr hok))
      · rintro (h | hok) hfail
        · cases h
        · exact absurd hok hfail

/-- A new controller that has accepted a request with command id 7. -/
def requestedDriver : Driver :=
  (vnvmeProcessAdminCommand (Driver.fresh Config.allQueues)
    { opc := nvmeAdminAsyncEventRequest, cid := 7 }).2

/-- The admin completion queue is not valid, so the event is refused and the request is gone. -/
theorem refused_event_loses_request :
    requestedDriver.pdo.aerCids = [7] ∧
      (vnvmeCompleteAer requestedDriver 2 0 0).1 = .invalidDeviceState ∧
      (vnvmeCompleteAer requestedDriver 2 0 0).2.pdo.aerCids = [] ∧
      ¬ ((vnvmeCompleteAer requestedDriver 2 0 0).1 ≠ .success →
        (vnvmeCompleteAer requestedDriver 2 0 0).2.pdo.aerCids =
          requestedDriver.pdo.aerCids) := by
  refine ⟨by decide, by decide, by decide, fun h => ?_⟩
  exact absurd (h (by decide)) (by decide)

end VirtualNvme
