import VirtualNvme.AdaptiveInterval
import VirtualNvme.Driver.Polling
import VirtualNvme.Verification.Configuration

/-!
# The polling interval

`AdjustPollingInterval` is an adaptive interval in 32-bit words: between its bounds nothing
overflows, so it keeps to them, whatever the polls find and whatever SET_CONFIG asks for. But it
grows by a quarter that is rounded down, and an interval of less than four microseconds has none.
-/

namespace VirtualNvme

open Runs (run Throughout EachStep)

/-! ## One step -/

/-- The configured interval is one that the driver admits. -/
def VnvmeConfig.PollAdmitted (g : VnvmeConfig) : Prop := Within 1 10000 g.doorbellPollIntervalUs

/-- The configured interval in microseconds. -/
def VnvmeConfig.pollUs (g : VnvmeConfig) : ℕ := g.doorbellPollIntervalUs.toNat

/-- The bounds of the interval. -/
def VnvmeConfig.leastUs (g : VnvmeConfig) : ℕ := max 1 (g.pollUs / 10)
def VnvmeConfig.mostUs (g : VnvmeConfig) : ℕ := min (100 * g.pollUs) 10000

section Step

variable {g : VnvmeConfig} (hg : g.PollAdmitted)

include hg

theorem VnvmeConfig.PollAdmitted.pollUs : 1 ≤ g.pollUs ∧ g.pollUs ≤ 10000 := within_iff.mp hg

theorem VnvmeConfig.PollAdmitted.least : 1 ≤ g.leastUs ∧ g.leastUs ≤ 10000 := by
  have hc := hg.pollUs
  unfold VnvmeConfig.leastUs
  omega

theorem VnvmeConfig.PollAdmitted.most : 100 ≤ g.mostUs ∧ g.mostUs ≤ 10000 := by
  have hc := hg.pollUs
  unfold VnvmeConfig.mostUs
  omega

/-- The configured interval lies between its own bounds. -/
theorem VnvmeConfig.PollAdmitted.between : g.leastUs ≤ g.pollUs ∧ g.pollUs ≤ g.mostUs := by
  have hc := hg.pollUs
  unfold VnvmeConfig.leastUs VnvmeConfig.mostUs
  omega

omit hg in
theorem minInterval_toNat (g : VnvmeConfig) : g.minInterval.toNat = g.leastUs := by
  have hdiv : (g.doorbellPollIntervalUs / vnvmePollIntervalDivisor).toNat = g.pollUs / 10 :=
    UInt32.toNat_div _ _
  have hone : vnvmeMinPollIntervalUs.toNat = 1 := rfl
  unfold VnvmeConfig.minInterval VnvmeConfig.leastUs
  dsimp only
  split_ifs with hlt
  · rw [UInt32.lt_iff_toNat_lt, hdiv] at hlt
    omega
  · rw [UInt32.lt_iff_toNat_lt, hdiv] at hlt
    omega

theorem maxInterval_toNat : g.maxInterval.toNat = g.mostUs := by
  have hc := hg.pollUs
  have hmul : (g.doorbellPollIntervalUs * vnvmePollIntervalMultiplier).toNat =
      100 * g.pollUs := by
    rw [UInt32.toNat_mul, Nat.mul_comm]
    exact Nat.mod_eq_of_lt (show 100 * g.pollUs < 2 ^ 32 by omega)
  have hmost : vnvmeMaxPollIntervalUs.toNat = 10000 := rfl
  unfold VnvmeConfig.maxInterval VnvmeConfig.mostUs
  dsimp only
  split_ifs with hgt
  · rw [gt_iff_lt, UInt32.lt_iff_toNat_lt, hmul] at hgt
    omega
  · rw [gt_iff_lt, UInt32.lt_iff_toNat_lt, hmul] at hgt
    omega

/-- **The refinement.** One adjustment is one step of the adaptive interval. -/
theorem adjustPollingInterval_toNat {v : UInt32} (hv : v.toNat ≤ 10000) (hadWork : Bool) :
    (adjustPollingInterval g v hadWork).toNat =
      AdaptiveInterval.step 4 g.leastUs g.mostUs v.toNat hadWork := by
  have hleast := minInterval_toNat g
  have hmost := maxInterval_toNat hg
  unfold adjustPollingInterval AdaptiveInterval.step
  dsimp only
  cases hadWork with
  | true =>
      have hhalf : (v / 2).toNat = v.toNat / 2 := UInt32.toNat_div _ _
      rw [if_pos rfl, if_pos rfl]
      split_ifs with hlt
      · rw [UInt32.lt_iff_toNat_lt, hhalf] at hlt
        omega
      · rw [UInt32.lt_iff_toNat_lt, hhalf] at hlt
        omega
  | false =>
      have hquarter : (v / 4).toNat = v.toNat / 4 := UInt32.toNat_div _ _
      have hgrown : (v + v / 4).toNat = v.toNat + v.toNat / 4 := by
        rw [UInt32.toNat_add, hquarter]
        exact Nat.mod_eq_of_lt (show v.toNat + v.toNat / 4 < 2 ^ 32 by omega)
      rw [if_neg Bool.false_ne_true, if_neg Bool.false_ne_true]
      split_ifs with hgt
      · rw [gt_iff_lt, UInt32.lt_iff_toNat_lt, hgrown] at hgt
        omega
      · rw [gt_iff_lt, UInt32.lt_iff_toNat_lt, hgrown] at hgt
        omega

/-- Adjustments keep to the limits of the driver. -/
theorem adjustPollingInterval_inLimits {v : UInt32} (hv : 1 ≤ v.toNat ∧ v.toNat ≤ 10000)
    (hadWork : Bool) :
    1 ≤ (adjustPollingInterval g v hadWork).toNat ∧
      (adjustPollingInterval g v hadWork).toNat ≤ 10000 := by
  have hmost := hg.most
  rw [adjustPollingInterval_toNat hg hv.2]
  exact AdaptiveInterval.step_within hg.least ⟨by omega, hmost.2⟩ hv hadWork

/-- The refinement, for runs. -/
theorem run_adjust_toNat {v : UInt32} (hv : 1 ≤ v.toNat ∧ v.toNat ≤ 10000)
    (outcomes : List Bool) :
    (run (adjustPollingInterval g) v outcomes).toNat =
      run (AdaptiveInterval.step 4 g.leastUs g.mostUs) v.toNat outcomes := by
  induction outcomes generalizing v with
  | nil => rfl
  | cons hadWork outcomes ih =>
      have hnext := ih (adjustPollingInterval_inLimits hg hv hadWork)
      rw [adjustPollingInterval_toNat hg hv.2] at hnext
      exact hnext

end Step

/-! ## Histories -/

/-- The global configuration and the interval of a controller. -/
structure PollingTimer where
  config : VnvmeConfig
  intervalUs : UInt32

/-- The timer as `VnvmeInitializePollingTimer` leaves it. -/
def PollingTimer.start (g : VnvmeConfig) : PollingTimer := ⟨g, g.doorbellPollIntervalUs⟩

/-- A poll had work or not, or a SET_CONFIG request comes in between. -/
inductive PollingEvent where
  | adjust (hadWork : Bool)
  | setConfig (request : Ioctl SetConfigInput)

def pollingStep (t : PollingTimer) : PollingEvent → PollingTimer
  | .adjust hadWork =>
    { t with intervalUs := adjustPollingInterval t.config t.intervalUs hadWork }
  | .setConfig request => { t with config := setConfigStep t.config request }

theorem vnvmeInitializePollingTimer_start (g : VnvmeConfig) (c : PolledController) :
    (vnvmeInitializePollingTimer .success g c).2.pollingIntervalUs =
      (PollingTimer.start g).intervalUs := rfl

/-- A timer callback that comes back has made one such step. -/
theorem vnvmeEvtPollingTimer_adjusts {fuel : ℕ} {now : Int} {g : VnvmeConfig}
    {c c' : PolledController} (h : vnvmeEvtPollingTimer fuel now g c = some c') :
    ∃ hadWork, pollingStep ⟨g, c.pollingIntervalUs⟩ (.adjust hadWork) =
      ⟨g, c'.pollingIntervalUs⟩ := by
  obtain ⟨r, -, rfl⟩ := Option.map_eq_some_iff.mp h
  exact ⟨r.1, rfl⟩

/-- SET_CONFIG admits no other intervals. -/
theorem setConfigStep_pollAdmitted {g : VnvmeConfig} (hg : g.PollAdmitted)
    (request : Ioctl SetConfigInput) : (setConfigStep g request).PollAdmitted := by
  unfold setConfigStep
  by_cases haccepted : SetConfigAccepted request
  · rw [vnvmeHandleSetConfig_accepted haccepted]
    exact guarded_holds (P := fun v => v ≥ vnvmeMinPollIntervalUs ∧ v ≤ vnvmeMaxPollIntervalUs)
      (request.input.applyTo g).doorbellPollIntervalUs hg
  · rw [(vnvmeHandleSetConfig_rejected haccepted g).2]
    exact hg

/-- The configured interval is admitted, and the interval keeps to the limits of the driver. -/
structure PollingTimer.InLimits (t : PollingTimer) : Prop where
  config : t.config.PollAdmitted
  interval : 1 ≤ t.intervalUs.toNat ∧ t.intervalUs.toNat ≤ 10000

theorem PollingTimer.InLimits.start {g : VnvmeConfig} (hg : g.PollAdmitted) :
    (PollingTimer.start g).InLimits := ⟨hg, hg.pollUs⟩

theorem PollingTimer.InLimits.step (t : PollingTimer) (e : PollingEvent) (h : t.InLimits) :
    (pollingStep t e).InLimits := by
  cases e with
  | adjust hadWork => exact ⟨h.config, adjustPollingInterval_inLimits h.config h.interval hadWork⟩
  | setConfig request => exact ⟨setConfigStep_pollAdmitted h.config request, h.interval⟩

/-- **The interval keeps to its bounds.** While the configuration stays as it is, they are those
of the configured interval; whatever SET_CONFIG does in between, they are those of the driver. -/
theorem pollingInterval_bounded {g : VnvmeConfig} (hg : g.PollAdmitted) :
    (∀ outcomes : List Bool,
      Throughout (adjustPollingInterval g)
        (fun v => max 1 (g.pollUs / 10) ≤ v.toNat ∧ v.toNat ≤ min (100 * g.pollUs) 10000)
        g.doorbellPollIntervalUs outcomes) ∧
    ∀ events : List PollingEvent,
      Throughout pollingStep (fun t => 1 ≤ t.intervalUs.toNat ∧ t.intervalUs.toNat ≤ 10000)
        (PollingTimer.start g) events := by
  constructor
  · intro outcomes pre post _
    have hbetween := Runs.run_induct
      (P := fun v => g.leastUs ≤ v ∧ v ≤ g.mostUs)
      (fun v hadWork h => AdaptiveInterval.step_between (k := 4) (h.1.trans h.2) h hadWork)
      hg.between pre
    have hrun : (run (adjustPollingInterval g) g.doorbellPollIntervalUs pre).toNat =
        run (AdaptiveInterval.step 4 g.leastUs g.mostUs) g.pollUs pre :=
      run_adjust_toNat hg hg.pollUs pre
    rw [← hrun] at hbetween
    exact hbetween
  · intro events pre post _
    exact (Runs.run_induct PollingTimer.InLimits.step (.start hg) pre).interval

/-- The default configuration. -/
theorem pollingInterval_bounded_default :
    (∀ outcomes : List Bool,
      Throughout (adjustPollingInterval {})
        (fun v => 10 ≤ v.toNat ∧ v.toNat ≤ 10000) 100 outcomes) ∧
    ∀ events : List PollingEvent,
      Throughout pollingStep (fun t => 1 ≤ t.intervalUs.toNat ∧ t.intervalUs.toNat ≤ 10000)
        (PollingTimer.start {}) events :=
  pollingInterval_bounded (show Within 1 10000 100 by decide)

/-! ## Progress -/

/-- Consecutive polls without work bring the interval to its maximum, and below it each of them
makes it longer. -/
def IdleProgress (g : VnvmeConfig) (v : UInt32) : Prop :=
  (∃ n, (run (adjustPollingInterval g) v (List.replicate n false)).toNat =
    min (100 * g.pollUs) 10000) ∧
  (v.toNat < min (100 * g.pollUs) 10000 → v.toNat < (adjustPollingInterval g v false).toNat)

/-- An interval of less than four microseconds has no quarter. -/
theorem idleProgress_iff {g : VnvmeConfig} (hg : g.PollAdmitted) {v : UInt32}
    (hv : 1 ≤ v.toNat ∧ v.toNat ≤ 10000) : IdleProgress g v ↔ 4 ≤ v.toNat := by
  have hmost : 100 ≤ g.mostUs := hg.most.1
  have hreach : (∃ n, (run (adjustPollingInterval g) v (List.replicate n false)).toNat =
      g.mostUs) ↔ 4 ≤ v.toNat ∨ g.mostUs ≤ v.toNat := by
    have hidle : (∃ n, run (AdaptiveInterval.step 4 g.leastUs g.mostUs) v.toNat
        (List.replicate n false) = g.mostUs) ↔ 4 ≤ v.toNat ∨ g.mostUs ≤ v.toNat :=
      AdaptiveInterval.exists_idle_eq_iff (by decide)
    rw [← hidle]
    exact exists_congr fun n => by rw [run_adjust_toNat hg hv]
  have hgrow : v.toNat < g.mostUs →
      (v.toNat < (adjustPollingInterval g v false).toNat ↔ 4 ≤ v.toNat) := by
    intro hbelow
    rw [adjustPollingInterval_toNat hg hv.2]
    exact AdaptiveInterval.lt_step_idle_iff (by decide) hbelow
  constructor
  · rintro ⟨hn, -⟩
    exact (hreach.mp hn).elim id fun hthere => by omega
  · intro hlarge
    exact ⟨hreach.mpr (Or.inl hlarge), fun hbelow => (hgrow hbelow).mpr hlarge⟩

/-- When a poll with work leaves an interval that can grow again. -/
theorem four_le_busy_iff {g : VnvmeConfig} (hg : g.PollAdmitted) {v : UInt32}
    (hv : v.toNat ≤ 10000) :
    4 ≤ (adjustPollingInterval g v true).toNat ↔ 8 ≤ v.toNat ∨ 40 ≤ g.pollUs := by
  rw [adjustPollingInterval_toNat hg hv]
  show 4 ≤ max (v.toNat / 2) (max 1 (g.pollUs / 10)) ↔ 8 ≤ v.toNat ∨ 40 ≤ g.pollUs
  omega

/-- An interval that can grow stays one, except when a poll with work halves it too far. -/
theorem four_le_adjust {g : VnvmeConfig} (hg : g.PollAdmitted) {v : UInt32}
    (hv : v.toNat ≤ 10000) (h : 4 ≤ v.toNat) {hadWork : Bool}
    (hbusy : hadWork → 8 ≤ v.toNat ∨ 40 ≤ g.pollUs) :
    4 ≤ (adjustPollingInterval g v hadWork).toNat := by
  cases hadWork with
  | true => exact (four_le_busy_iff hg hv).mpr (hbusy rfl)
  | false =>
      have hmost := hg.most
      rw [adjustPollingInterval_toNat hg hv]
      exact le_min (Nat.le_add_right_of_le h) (by omega)

/-- With a configured interval of 40 µs or more the minimum is at least four. With less, a few
polls with work in a row reach an interval that no idle poll brings up again. -/
theorem idleProgress_forall_iff {g : VnvmeConfig} (hg : g.PollAdmitted) :
    (∀ outcomes : List Bool,
      IdleProgress g (run (adjustPollingInterval g) g.doorbellPollIntervalUs outcomes)) ↔
        40 ≤ g.pollUs := by
  have hlimits : ∀ outcomes : List Bool,
      1 ≤ (run (adjustPollingInterval g) g.doorbellPollIntervalUs outcomes).toNat ∧
        (run (adjustPollingInterval g) g.doorbellPollIntervalUs outcomes).toNat ≤ 10000 :=
    Runs.run_induct (P := fun v : UInt32 => 1 ≤ v.toNat ∧ v.toNat ≤ 10000)
      (fun _ hadWork h => adjustPollingInterval_inLimits hg h hadWork) hg.pollUs
  constructor
  · intro hall
    obtain ⟨n, hn⟩ : ∃ n, run (AdaptiveInterval.step 4 g.leastUs g.mostUs) g.pollUs
        (List.replicate n true) = g.leastUs :=
      AdaptiveInterval.exists_busy_eq hg.least.1 hg.between.1
    have hrun : (run (adjustPollingInterval g) g.doorbellPollIntervalUs
        (List.replicate n true)).toNat = g.leastUs :=
      (run_adjust_toNat hg hg.pollUs _).trans hn
    have hfour := (idleProgress_iff hg (hlimits _)).mp (hall (List.replicate n true))
    rw [hrun] at hfour
    unfold VnvmeConfig.leastUs at hfour
    omega
  · intro hforty outcomes
    have hkept : 4 ≤ (run (adjustPollingInterval g) g.doorbellPollIntervalUs outcomes).toNat :=
      (Runs.run_induct
        (P := fun v : UInt32 => 4 ≤ v.toNat ∧ 1 ≤ v.toNat ∧ v.toNat ≤ 10000)
        (fun _ hadWork h => ⟨four_le_adjust hg h.2.2 h.1 fun _ => Or.inr hforty,
          adjustPollingInterval_inLimits hg h.2 hadWork⟩)
        ⟨show 4 ≤ g.pollUs by omega, hg.pollUs⟩ outcomes).1
    exact (idleProgress_iff hg (hlimits outcomes)).mpr hkept

/-- Whenever a poll has work, the interval is long enough to be halved, or the configured one is
at least 40 µs. -/
def PollingEvent.Good (t : PollingTimer) : PollingEvent → Prop
  | .adjust true => 8 ≤ t.intervalUs.toNat ∨ 40 ≤ t.config.pollUs
  | _ => True

theorem PollingTimer.InLimits.idleProgress_iff {t : PollingTimer} (h : t.InLimits) :
    IdleProgress t.config t.intervalUs ↔ 4 ≤ t.intervalUs.toNat :=
  VirtualNvme.idleProgress_iff h.config h.interval

/-- An interval within the limits of the driver that can grow. -/
structure PollingTimer.CanGrow (t : PollingTimer) : Prop extends t.InLimits where
  large : 4 ≤ t.intervalUs.toNat

theorem PollingTimer.canGrow_step {t : PollingTimer} (h : t.CanGrow) {e : PollingEvent}
    (he : e.Good t) : (pollingStep t e).CanGrow := by
  refine ⟨h.toInLimits.step t e, ?_⟩
  cases e with
  | adjust hadWork =>
      refine four_le_adjust h.config h.interval.2 h.large fun hbusy => ?_
      subst hbusy
      exact he
  | setConfig request => exact h.large

/-- Any other poll ends the growth. -/
theorem PollingTimer.not_large_step {t : PollingTimer} (h : t.InLimits) {e : PollingEvent}
    (he : ¬ e.Good t) : ¬ 4 ≤ (pollingStep t e).intervalUs.toNat := by
  cases e with
  | adjust hadWork =>
      cases hadWork with
      | true => exact fun hlarge => he ((four_le_busy_iff h.config h.interval.2).mp hlarge)
      | false => exact (he trivial).elim
  | setConfig request => exact (he trivial).elim

/-- **When idle polls bring the interval to its maximum.** With one configuration they do after
every sequence of polls if the configured interval is at least 40 µs, and not otherwise. With
requests in between they do throughout the runs that start with at least 4 µs and in which no
poll halves an interval of less than 8 µs, unless the configured interval keeps it from it. -/
theorem pollingInterval_progress {g : VnvmeConfig} (hg : g.PollAdmitted) :
    ((∀ outcomes : List Bool,
      IdleProgress g (run (adjustPollingInterval g) g.doorbellPollIntervalUs outcomes)) ↔
        40 ≤ g.pollUs) ∧
    ∀ events : List PollingEvent,
      Throughout pollingStep (fun t => IdleProgress t.config t.intervalUs) (.start g) events ↔
        4 ≤ g.pollUs ∧
          EachStep pollingStep (fun t e => e.Good t) (PollingTimer.start g) events := by
  refine ⟨idleProgress_forall_iff hg, fun events => ?_⟩
  have hiff : 4 ≤ g.pollUs →
      (Throughout pollingStep (fun t => IdleProgress t.config t.intervalUs) (.start g) events ↔
        EachStep pollingStep (fun t e => e.Good t) (.start g) events) := fun hlarge =>
    Runs.throughout_iff (J := PollingTimer.CanGrow)
      (fun _ h => h.toInLimits.idleProgress_iff.mpr h.large)
      (fun _ _ h he => PollingTimer.canGrow_step h he)
      (fun t e h he hprogress =>
        PollingTimer.not_large_step h.toInLimits he
          ((h.toInLimits.step t e).idleProgress_iff.mp hprogress))
      ⟨.start hg, hlarge⟩ events
  constructor
  · intro hall
    have hlarge : 4 ≤ g.pollUs :=
      (PollingTimer.InLimits.start hg).idleProgress_iff.mp (hall [] events rfl)
    exact ⟨hlarge, (hiff hlarge).mp hall⟩
  · rintro ⟨hlarge, hgood⟩
    exact (hiff hlarge).mpr hgood

/-- With 40 µs this is so after every sequence of polls. -/
theorem pollingInterval_progress_forty :
    (∀ outcomes : List Bool,
      IdleProgress { doorbellPollIntervalUs := 40 }
        (run (adjustPollingInterval { doorbellPollIntervalUs := 40 }) 40 outcomes)) ∧
    Throughout pollingStep (fun t => IdleProgress t.config t.intervalUs)
      (PollingTimer.start { doorbellPollIntervalUs := 40 })
      [.adjust true, .adjust true, .adjust false] := by
  have hg : VnvmeConfig.PollAdmitted { doorbellPollIntervalUs := 40 } :=
    show Within 1 10000 40 by decide
  obtain ⟨hconstant, hruns⟩ := pollingInterval_progress hg
  refine ⟨hconstant.mpr (by decide), (hruns _).mpr ⟨by decide, ?_⟩⟩
  rw [Runs.eachStep_cons, Runs.eachStep_cons, Runs.eachStep_cons]
  exact ⟨Or.inl (by decide), Or.inl (by decide), trivial, Runs.eachStep_nil⟩

/-- With 20 µs three polls with work leave 2 µs, and however many polls without work follow,
the interval stays there, far below its maximum of 2000 µs. -/
theorem pollingInterval_stuck :
    VnvmeConfig.PollAdmitted { doorbellPollIntervalUs := 20 } ∧
    run (adjustPollingInterval { doorbellPollIntervalUs := 20 }) 20 [true, true, true] = 2 ∧
    (∀ n, run (adjustPollingInterval { doorbellPollIntervalUs := 20 }) 2
      (List.replicate n false) = 2) ∧
    VnvmeConfig.mostUs { doorbellPollIntervalUs := 20 } = 2000 ∧
    ¬ ∀ g : VnvmeConfig, g.PollAdmitted → ∀ outcomes : List Bool,
      IdleProgress g (run (adjustPollingInterval g) g.doorbellPollIntervalUs outcomes) := by
  have hg : VnvmeConfig.PollAdmitted { doorbellPollIntervalUs := 20 } :=
    show Within 1 10000 20 by decide
  refine ⟨hg, by decide, Runs.run_replicate_of_fixed (by decide), by decide, fun hall => ?_⟩
  have hprogress : IdleProgress { doorbellPollIntervalUs := 20 } 2 := hall _ hg [true, true, true]
  exact absurd ((idleProgress_iff hg (by decide)).mp hprogress) (by decide)

end VirtualNvme
