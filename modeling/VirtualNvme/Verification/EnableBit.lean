import VirtualNvme.Driver.Bar0
import VirtualNvme.Runs
import VirtualNvme.Verification.PollFrame

/-!
# The enable bit

The host enables and disables the controller through `CC`, and `VnvmeProcessDoorbells`
answers in `CSTS` when it finds that the enable bit differs from the copy it took at the last
poll. A subsystem reset clears both registers and leaves the copy alone. If the host has
enabled the controller again before the next poll, the poller sees no change, and the
controller is never reported as ready.
-/

namespace VirtualNvme

open Runs (run Throughout EachStep)

/-! ## Host writes -/

/-- A register that is neither `CC` nor `CSTS`. -/
theorem Bar0.setDword_other (regs : Bar0) (v : UInt32) {i : Nat} (h5 : i ≠ 5) (h7 : i ≠ 7) :
    (regs.setDword v i).cc = regs.cc ∧ (regs.setDword v i).csts = regs.csts := by
  unfold Bar0.setDword
  split
  all_goals first
    | exact absurd rfl h5
    | exact absurd rfl h7
    | exact ⟨rfl, rfl⟩
    | (split <;> exact ⟨rfl, rfl⟩)

/-- A write that resets the subsystem. -/
def IsReset (offset value : UInt32) : Prop := offset = 0x20 ∧ value = nssrReset

instance (offset value : UInt32) : Decidable (IsReset offset value) :=
  inferInstanceAs (Decidable (_ ∧ _))

/-- What an aligned write does to `CSTS`: only a reset reaches it. -/
theorem Bar0.write_csts (regs : Bar0) {offset value : UInt32} (halign : offset.toNat % 4 = 0) :
    (regs.write offset value).csts = if IsReset offset value then 0 else regs.csts := by
  by_cases hreset : IsReset offset value
  · obtain ⟨rfl, rfl⟩ := hreset
    rfl
  rw [if_neg hreset]
  let M : Bar0 → Prop := fun r => r.csts = regs.csts
  show M (regs.write offset value)
  unfold Bar0.write
  refine iteInduction (fun _ => rfl) fun _ => ?_
  refine iteInduction (fun _ => rfl) fun hro => ?_
  refine iteInduction (fun _ => rfl) fun _ => ?_
  refine iteInduction (fun _ => rfl) fun _ => ?_
  refine iteInduction (fun _ => rfl) fun hcc => ?_
  refine iteInduction (fun hnssr => ?_) fun _ => ?_
  · rw [if_neg fun hv => hreset ⟨hnssr, hv⟩]
  refine iteInduction (fun _ => rfl) fun _ => ?_
  have hstore : regs.store32 offset.toNat value = regs.setDword value (offset.toNat / 4) :=
    if_pos halign
  rw [hstore]
  refine (regs.setDword_other value ?_ ?_).2
  · intro h5
    exact hcc (UInt32.toNat_inj.mp (show offset.toNat = 20 by omega))
  · intro h7
    have hoff : offset = 0x1C := UInt32.toNat_inj.mp (show offset.toNat = 28 by omega)
    exact hro (by rw [hoff]; decide)

/-! ## Polls -/

/-- What a poll answers, from the registers and the copy it finds. -/
theorem processCc_regs (d : Driver) {regs : Bar0} (hregs : d.pdo.bar0 = some regs) :
    ∃ regs', (processCc d regs).2.pdo.bar0 = some regs' ∧
      (processCc d regs).2.pdo.cachedCC = regs'.cc ∧
      bit0 regs'.csts =
        (if bit0 regs.cc = bit0 d.pdo.cachedCC then bit0 regs.csts else bit0 regs'.cc) ∧
      regs'.cc = regs.cc := by
  by_cases hcc : regs.cc = d.pdo.cachedCC
  · rw [processCc, if_pos hcc]
    exact ⟨regs, hregs, hcc.symm, by rw [if_pos (by rw [hcc])], rfl⟩
  · rw [processCc, if_neg hcc]
    dsimp only
    by_cases hen : bit0 regs.cc = true
    · by_cases hcached : bit0 d.pdo.cachedCC = true
      · rw [if_neg (by simp [hcached]), if_neg (by simp [hen])]
        exact ⟨regs, hregs, rfl, by rw [hen, hcached, if_pos rfl], rfl⟩
      · rw [if_pos ⟨hen, by simpa using hcached⟩]
        refine ⟨_, rfl, rfl, ?_, rfl⟩
        rw [if_neg (by rw [hen]; exact fun h => hcached h.symm), hen]
        exact show bit0 1 = true by decide
    · rw [Bool.not_eq_true] at hen
      by_cases hcached : bit0 d.pdo.cachedCC = true
      · rw [if_neg (by simp [hen]), if_pos ⟨by simp [hen], hcached⟩]
        refine ⟨_, rfl, rfl, ?_, rfl⟩
        rw [if_neg (by simp [hen, hcached]), hen]
        exact show bit0 0 = false by decide
      · rw [Bool.not_eq_true] at hcached
        rw [if_neg (by simp [hen]), if_neg (by simp [hcached])]
        exact ⟨regs, hregs, rfl, by rw [hen, hcached, if_pos rfl], rfl⟩

/-- The rest of the poll leaves the registers and the copy as they are. -/
theorem vnvmeProcessDoorbells_regs {fuel : Nat} {d : Driver} {regs : Bar0}
    (hregs : d.pdo.bar0 = some regs) {r : Bool × Driver}
    (h : vnvmeProcessDoorbells fuel d = some r) :
    ∃ regs', r.2.pdo.bar0 = some regs' ∧ r.2.pdo.cachedCC = regs'.cc ∧
      bit0 regs'.csts =
        (if bit0 regs.cc = bit0 d.pdo.cachedCC then bit0 regs.csts else bit0 regs'.cc) ∧
      regs'.cc = regs.cc := by
  have hfixed := keptByPoll_fixed.serving.poll hregs h
  have hbar0 : r.2.pdo.bar0 = (processCc d regs).2.pdo.bar0 := congrArg FixedFields.bar0 hfixed
  have hcached : r.2.pdo.cachedCC = (processCc d regs).2.pdo.cachedCC :=
    congrArg FixedFields.cachedCC hfixed
  rw [hbar0, hcached]
  exact processCc_regs d hregs

/-! ## Interleavings -/

/-- A host write at a dword boundary, or a poll. -/
inductive RegisterEvent where
  | write (offset value : UInt32) (aligned : offset.toNat % 4 = 0)
  | poll (fuel : Nat)

/-- The driver (`none` once a poll has not come back), whether the host has reset the
subsystem since the last poll, and whether the last event was a poll. -/
structure RegisterRun where
  driver : Option Driver
  resetSincePoll : Bool := false
  polled : Bool := false

def registerStep (s : RegisterRun) (e : RegisterEvent) : RegisterRun :=
  match s.driver with
  | none => s
  | some d =>
    match e with
    | .write offset value _ =>
      { driver := some { d with pdo := vnvmeWriteBar0Register d.pdo offset value }
        resetSincePoll := s.resetSincePoll || decide (IsReset offset value) }
    | .poll fuel =>
      { driver := (vnvmeProcessDoorbells fuel d).map Prod.snd, polled := true }

/-- After a poll, ready says what enable says, and the copy is up to date. -/
def ReadyMatches (s : RegisterRun) : Prop :=
  ∀ d regs, s.driver = some d → s.polled = true → d.pdo.bar0 = some regs →
    bit0 regs.csts = bit0 regs.cc ∧ d.pdo.cachedCC = regs.cc

/-- No poll finds the enable bit set, as it was at the last poll, after a reset. -/
def NoHiddenReset (s : RegisterRun) : RegisterEvent → Prop
  | .write _ _ _ => True
  | .poll fuel => ∀ d regs, s.driver = some d → d.pdo.bar0 = some regs →
      (vnvmeProcessDoorbells fuel d).isSome = true →
      ¬ (s.resetSincePoll = true ∧ bit0 d.pdo.cachedCC = true ∧ bit0 regs.cc = true)

/-- Between polls, ready says what enable said at the last poll, unless a reset has cleared
it. -/
structure RegisterInv (s : RegisterRun) : Prop where
  bar0 : ∀ d, s.driver = some d → ∃ regs, d.pdo.bar0 = some regs
  ready : ∀ d regs, s.driver = some d → d.pdo.bar0 = some regs →
    bit0 regs.csts = (!s.resetSincePoll && bit0 d.pdo.cachedCC)
  poll : ReadyMatches s

theorem registerInv_none {s : RegisterRun} (h : s.driver = none) : RegisterInv s := by
  constructor
  · intro d hd
    rw [h] at hd
    cases hd
  · intro d regs hd
    rw [h] at hd
    cases hd
  · intro d regs hd
    rw [h] at hd
    cases hd

theorem registerInv_write {s : RegisterRun} (hs : RegisterInv s) {offset value : UInt32}
    (aligned : offset.toNat % 4 = 0) :
    RegisterInv (registerStep s (.write offset value aligned)) := by
  cases hd : s.driver with
  | none =>
      simp only [registerStep, hd]
      exact hs
  | some d =>
      simp only [registerStep, hd]
      obtain ⟨regs, hregs⟩ := hs.bar0 d hd
      have hnew : (vnvmeWriteBar0Register d.pdo offset value).bar0 =
          some (regs.write offset value) := by
        rw [vnvmeWriteBar0Register, hregs]
        rfl
      constructor
      · rintro _ ⟨⟩
        exact ⟨_, hnew⟩
      · rintro _ regs' ⟨⟩ hregs'
        rw [hnew] at hregs'
        cases hregs'
        rw [regs.write_csts aligned]
        have hready := hs.ready d regs hd hregs
        by_cases hreset : IsReset offset value
        · simp only [hreset, if_true, decide_true, Bool.or_true, Bool.not_true, Bool.false_and]
          decide
        · simp only [hreset, if_false, decide_false, Bool.or_false]
          exact hready
      · rintro _ _ _ hpolled
        cases hpolled

/-- A poll that does not come back, or has no driver to poll, ends the run. -/
theorem registerStep_stops {s : RegisterRun} {fuel : Nat}
    (h : ∀ d, s.driver = some d → vnvmeProcessDoorbells fuel d = none) :
    (registerStep s (.poll fuel)).driver = none := by
  cases hd : s.driver with
  | none => simp only [registerStep, hd]
  | some d =>
      simp only [registerStep, hd, h d hd]
      rfl

theorem registerStep_poll {s : RegisterRun} {fuel : Nat} {d : Driver} {r : Bool × Driver}
    (hd : s.driver = some d) (hpoll : vnvmeProcessDoorbells fuel d = some r) :
    registerStep s (.poll fuel) = ⟨some r.2, false, true⟩ := by
  simp only [registerStep, hd, hpoll]
  rfl

theorem registerStep_poll_cases (s : RegisterRun) (fuel : Nat) :
    (∀ d, s.driver = some d → vnvmeProcessDoorbells fuel d = none) ∨
      ∃ d r, s.driver = some d ∧ vnvmeProcessDoorbells fuel d = some r := by
  by_cases h : ∀ d, s.driver = some d → vnvmeProcessDoorbells fuel d = none
  · exact Or.inl h
  · push Not at h
    obtain ⟨d, hd, hne⟩ := h
    obtain ⟨r, hr⟩ := Option.ne_none_iff_exists'.mp hne
    exact Or.inr ⟨d, r, hd, hr⟩

/-- Ready is what it was, if the enable bit looks unchanged. -/
theorem readyBit_iff (reset old en : Bool) :
    (if en = old then (!reset && old) else en) = en ↔
      ¬ (reset = true ∧ old = true ∧ en = true) := by
  cases reset <;> cases old <;> cases en <;> decide

theorem registerInv_poll_iff {s : RegisterRun} (hs : RegisterInv s) (fuel : Nat) :
    ReadyMatches (registerStep s (.poll fuel)) ↔ NoHiddenReset s (.poll fuel) := by
  rcases registerStep_poll_cases s fuel with hstop | ⟨d, r, hd, hpoll⟩
  · refine iff_of_true (registerInv_none (registerStep_stops hstop)).poll ?_
    intro d regs hd _ hsome
    rw [hstop d hd] at hsome
    cases hsome
  · obtain ⟨regs, hregs⟩ := hs.bar0 d hd
    obtain ⟨regs', hregs', hcached, hcsts, hcc⟩ := vnvmeProcessDoorbells_regs hregs hpoll
    have hbit : bit0 regs'.csts = bit0 regs'.cc ↔
        ¬ (s.resetSincePoll = true ∧ bit0 d.pdo.cachedCC = true ∧ bit0 regs.cc = true) := by
      rw [hcsts, hcc, hs.ready d regs hd hregs]
      exact readyBit_iff _ _ _
    rw [registerStep_poll hd hpoll]
    constructor
    · intro hmatch d' regs'' hd' hregs'' _
      obtain rfl : d = d' := Option.some.inj (hd.symm.trans hd')
      obtain rfl : regs = regs'' := Option.some.inj (hregs.symm.trans hregs'')
      exact hbit.mp (hmatch r.2 regs' rfl rfl hregs').1
    · intro hgood d' regs'' hd' _ hregs''
      obtain rfl : r.2 = d' := Option.some.inj hd'
      obtain rfl : regs' = regs'' := Option.some.inj (hregs'.symm.trans hregs'')
      exact ⟨hbit.mpr (hgood d regs hd hregs (by rw [hpoll]; rfl)), hcached⟩

theorem registerInv_poll {s : RegisterRun} (hs : RegisterInv s) {fuel : Nat}
    (h : ReadyMatches (registerStep s (.poll fuel))) :
    RegisterInv (registerStep s (.poll fuel)) := by
  rcases registerStep_poll_cases s fuel with hstop | ⟨d, r, hd, hpoll⟩
  · exact registerInv_none (registerStep_stops hstop)
  · obtain ⟨regs, hregs⟩ := hs.bar0 d hd
    obtain ⟨regs', hregs', hcached, -, -⟩ := vnvmeProcessDoorbells_regs hregs hpoll
    rw [registerStep_poll hd hpoll] at h ⊢
    refine ⟨?_, ?_, h⟩
    · rintro _ ⟨⟩
      exact ⟨regs', hregs'⟩
    · rintro _ regs'' ⟨⟩ hregs''
      obtain rfl : regs' = regs'' := Option.some.inj (hregs'.symm.trans hregs'')
      rw [(h r.2 regs' rfl rfl hregs').1, hcached]
      rfl

/-- A controller whose registers have just been initialised. -/
theorem registerInv_initialised (d : Driver) (h : d.pdo.bar0.isSome = true) :
    RegisterInv { driver := some { d with pdo := vnvmeInitializeBar0Registers d.pdo } } := by
  obtain ⟨regs, hregs⟩ := Option.isSome_iff_exists.mp h
  have hinit : ∃ regs', (vnvmeInitializeBar0Registers d.pdo).bar0 = some regs' ∧
      regs'.csts = 0 ∧ (vnvmeInitializeBar0Registers d.pdo).cachedCC = 0 := by
    rw [vnvmeInitializeBar0Registers, hregs]
    exact ⟨_, rfl, rfl, rfl⟩
  obtain ⟨regs', hregs', hcsts, hcached⟩ := hinit
  constructor
  · rintro _ ⟨⟩
    exact ⟨regs', hregs'⟩
  · rintro _ regs'' ⟨⟩ hregs''
    have heq : regs'' = regs' := Option.some.inj (hregs''.symm.trans hregs')
    show bit0 regs''.csts = (!false && bit0 (vnvmeInitializeBar0Registers d.pdo).cachedCC)
    rw [heq, hcsts, hcached]
    decide
  · rintro _ _ _ hpolled
    cases hpolled

/-- **Ready follows enable, but for a reset that the poller does not notice**: in every
interleaving of aligned host writes and polls from initialised registers, each poll leaves
`CSTS.RDY` equal to `CC.EN` and the cached copy equal to `CC`, exactly if no poll finds the
controller enabled, as it was at the poll before, with a subsystem reset in between. -/
theorem ready_matches_iff (d : Driver) (h : d.pdo.bar0.isSome = true)
    (events : List RegisterEvent) :
    Throughout registerStep ReadyMatches
        { driver := some { d with pdo := vnvmeInitializeBar0Registers d.pdo } } events ↔
      EachStep registerStep NoHiddenReset
        { driver := some { d with pdo := vnvmeInitializeBar0Registers d.pdo } } events := by
  refine Runs.throughout_iff (J := RegisterInv) ?_ ?_ ?_ (registerInv_initialised d h) events
  · exact fun s hs => hs.poll
  · rintro s (⟨offset, value, aligned⟩ | ⟨fuel⟩) hs hgood
    · exact registerInv_write hs aligned
    · exact registerInv_poll hs ((registerInv_poll_iff hs fuel).mpr hgood)
  · rintro s (⟨offset, value, aligned⟩ | ⟨fuel⟩) hs hbad hmatch
    · exact hbad trivial
    · exact hbad ((registerInv_poll_iff hs fuel).mp hmatch)

theorem aligned_cc : (0x14 : UInt32).toNat % 4 = 0 := by decide

theorem aligned_nssr : (0x20 : UInt32).toNat % 4 = 0 := by decide

/-- Enable the controller, let the poller see it, then reset the subsystem. -/
def enableAndReset : List RegisterEvent :=
  [.write 0x14 1 aligned_cc, .poll 0, .write 0x20 nssrReset aligned_nssr]

/-- A controller that has just been set up. -/
def initialisedRun : RegisterRun :=
  { driver := some { Driver.fresh Config.allQueues with
      pdo := vnvmeInitializeBar0Registers (Driver.fresh Config.allQueues).pdo } }

/-- The host enables it again at once, and the next poll does not report it as ready. -/
theorem ready_not_matches :
    ¬ ReadyMatches (run registerStep initialisedRun
      (enableAndReset ++ [.write 0x14 1 aligned_cc, .poll 0])) := by
  intro h
  have hmatch := (h _ _ rfl rfl rfl).1
  exact absurd hmatch (by decide)

/-- With a poll after the reset there is nothing to miss. -/
theorem ready_matches_example :
    (Driver.fresh Config.allQueues).pdo.bar0.isSome = true ∧
      Throughout registerStep ReadyMatches initialisedRun (enableAndReset ++ [.poll 0]) := by
  refine ⟨rfl, (ready_matches_iff (Driver.fresh Config.allQueues) rfl _).mpr ?_⟩
  refine Runs.eachStep_cons.mpr ⟨trivial, Runs.eachStep_cons.mpr ⟨?_,
    Runs.eachStep_cons.mpr ⟨trivial, Runs.eachStep_cons.mpr ⟨?_, Runs.eachStep_nil⟩⟩⟩⟩
  · rintro d regs - - - ⟨hreset, -⟩
    exact absurd hreset (by decide)
  · rintro d regs hd hregs - ⟨-, -, hen⟩
    obtain rfl := Option.some.inj hd
    obtain rfl := Option.some.inj hregs
    exact absurd hen (by decide)

end VirtualNvme
