import Mathlib.Order.MinMax
import Mathlib.Algebra.Order.Group.Int
import VirtualNvme.Runs
import VirtualNvme.Driver.Debug

/-!
# Latencies recorded by many threads at once

Any number of calls of `VnvmeDebugRecordLatency`, interleaved at their accesses. The statistics
are at each moment those of the calls that have come past the field in question, and no call is
held up for long by the others.
-/

namespace VirtualNvme

open CasLoops
open Runs

/-! ## The smaller and the larger of two latencies -/

theorem toInt_min (a b : Int64) : (min a b).toInt = min a.toInt b.toInt := by
  show (if a ≤ b then a else b).toInt = _
  split_ifs with h
  · exact (min_eq_left (Int64.le_iff_toInt_le.mp h)).symm
  · exact (min_eq_right (Int64.lt_iff_toInt_lt.mp (Int64.not_le.mp h)).le).symm

theorem toInt_max (a b : Int64) : (max a b).toInt = max a.toInt b.toInt := by
  show (if a ≤ b then b else a).toInt = _
  split_ifs with h
  · exact (max_eq_right (Int64.le_iff_toInt_le.mp h)).symm
  · exact (max_eq_left (Int64.lt_iff_toInt_lt.mp (Int64.not_le.mp h)).le).symm

instance min_associative : Std.Associative (min : Int64 → Int64 → Int64) :=
  ⟨fun a b c => Int64.toInt_inj.mp (by simp only [toInt_min, min_assoc])⟩

instance min_commutative : Std.Commutative (min : Int64 → Int64 → Int64) :=
  ⟨fun a b => Int64.toInt_inj.mp (by simp only [toInt_min, min_comm])⟩

instance max_associative : Std.Associative (max : Int64 → Int64 → Int64) :=
  ⟨fun a b c => Int64.toInt_inj.mp (by simp only [toInt_max, max_assoc])⟩

instance max_commutative : Std.Commutative (max : Int64 → Int64 → Int64) :=
  ⟨fun a b => Int64.toInt_inj.mp (by simp only [toInt_max, max_comm])⟩

theorem combines_min :
    Combines (min : Int64 → Int64 → Int64) fun latency oldMin => latency ≥ oldMin :=
  ⟨fun h => if_pos (of_decide_eq_true h), fun h => if_neg (of_decide_eq_false h)⟩

theorem combines_max :
    Combines (max : Int64 → Int64 → Int64) fun latency oldMax => latency ≤ oldMax := by
  refine ⟨fun h => ?_, fun h => ?_⟩
  · rw [← Int64.toInt_inj, toInt_max]
    exact max_eq_left (Int64.le_iff_toInt_le.mp (of_decide_eq_true h))
  · have hlt := Int64.not_le.mp (of_decide_eq_false h)
    rw [← Int64.toInt_inj, toInt_max]
    exact max_eq_right (Int64.lt_iff_toInt_lt.mp hlt).le

/-! ## What the statistics say -/

/-- How many fields a call has come past. -/
def LatencyPhase.stage : LatencyPhase → Nat
  | .total => 0
  | .samples => 1
  | .minimum _ => 2
  | .maximum _ => 3
  | .done => 4

/-- What a call has put into a field so far. -/
def LatencyCall.share (value : LatencyCall → Int64) (e : Int64) (field : Nat) (c : LatencyCall) :
    Int64 :=
  if field < c.phase.stage then value c else e

/-- The values of the calls that have come past a field. -/
def tally (op : Int64 → Int64 → Int64) (e : Int64) (value : LatencyCall → Int64) (field : Nat)
    (calls : List LatencyCall) : Int64 :=
  (calls.map (·.share value e field)).foldl op e

/-- A call that has read the smallest latency so far has a smaller one. -/
def LatencyCall.Valid (c : LatencyCall) : Prop :=
  match c.phase with
  | .minimum a => a.Valid (fun latency oldMin => latency ≥ oldMin) c.latencyIn100ns
  | .maximum a => a.Valid (fun latency oldMax => latency ≤ oldMax) c.latencyIn100ns
  | _ => True

/-- The statistics are those of the calls that have come past each field. -/
structure StatsExact (s : LatencyRun) : Prop where
  total : s.stats.totalLatency = tally (· + ·) 0 (·.latencyIn100ns) 0 s.calls
  samples : s.stats.latencySamples = tally (· + ·) 0 (fun _ => 1) 1 s.calls
  minimum : s.stats.minLatency = tally min Int64.maxValue (·.latencyIn100ns) 2 s.calls
  maximum : s.stats.maxLatency = tally max 0 (·.latencyIn100ns) 3 s.calls
  valid : ∀ c ∈ s.calls, c.Valid

section Tally

variable {op : Int64 → Int64 → Int64} {e : Int64} {value : LatencyCall → Int64} {field : Nat}
  {calls : List LatencyCall} {i : Nat} {c c' : LatencyCall}

/-- A call moves without coming past the field. -/
theorem tally_kept (hc : calls[i]? = some c) (hvalue : value c' = value c)
    (hstage : field < c'.phase.stage ↔ field < c.phase.stage) :
    tally op e value field (calls.set i c') = tally op e value field calls := by
  obtain ⟨hi, rfl⟩ := List.getElem?_eq_some_iff.mp hc
  have hshare : c'.share value e field = calls[i].share value e field := by
    simp only [LatencyCall.share, hvalue, hstage]
  rw [tally, List.map_set, hshare, ← List.map_set, List.set_getElem_self, tally]

variable [Std.Associative op] [Std.Commutative op]

/-- A call comes past the field in front of which it was. -/
theorem tally_passed (he : op e e = e) (hc : calls[i]? = some c) (hvalue : value c' = value c)
    (hstage : c'.phase.stage = c.phase.stage + 1) :
    tally op e value field (calls.set i c') =
      if c.phase.stage = field then op (tally op e value field calls) (value c)
      else tally op e value field calls := by
  split_ifs with hfield
  · obtain ⟨hi, hget⟩ := List.getElem?_eq_some_iff.mp hc
    have hshare : c'.share value e field = value c :=
      (if_pos (by rw [hstage, hfield]; exact Nat.lt_succ_self field)).trans hvalue
    rw [tally, List.map_set, hshare]
    refine foldl_set he (by simpa using hi) ?_ _
    rw [List.getElem_map, hget]
    exact if_neg (by rw [hfield]; exact Nat.lt_irrefl field)
  · refine tally_kept hc hvalue ?_
    rw [hstage]
    omega

theorem tally_append (he : op e e = e) (hstage : ¬ field < c.phase.stage) :
    tally op e value field (calls ++ [c]) = tally op e value field calls := by
  have hshare : c.share value e field = e := if_neg hstage
  have hneutral : op (tally op e value field calls) e = tally op e value field calls := by
    have h : (e :: calls.map (·.share value e field)).foldl op e =
        op (tally op e value field calls) e := foldl_cons_comm _ _
    rw [← h, List.foldl_cons, he, tally]
  rw [tally, List.map_append, List.foldl_append, List.map_singleton, hshare]
  exact hneutral

end Tally

/-! ## One access -/

section Steps

variable {s : LatencyRun} {i : Nat} {c c' : LatencyCall}

theorem latencyStep_access (hc : s.calls[i]? = some c) :
    latencyStep s (.access i) =
      { stats := (c.access s.stats).1, calls := s.calls.set i (c.access s.stats).2 } := by
  simp only [latencyStep, hc]

section Access

variable {latency : Int64} {a : Attempt Int64} {stats : DebugStats}
  {r : Int64 × Option (Attempt Int64)}

theorem access_minimum
    (h : attempt (fun latency oldMin => latency ≥ oldMin) latency stats.minLatency a = r) :
    LatencyCall.access ⟨latency, .minimum a⟩ stats =
      ({ stats with minLatency := r.1 },
        ⟨latency, (r.2.map .minimum).getD (.maximum .read)⟩) := by
  subst h
  rfl

theorem access_maximum
    (h : attempt (fun latency oldMax => latency ≤ oldMax) latency stats.maxLatency a = r) :
    LatencyCall.access ⟨latency, .maximum a⟩ stats =
      ({ stats with maxLatency := r.1 }, ⟨latency, (r.2.map .maximum).getD .done⟩) := by
  subst h
  rfl

end Access

theorem StatsExact.valid_set (h : StatsExact s) (hvalid : c'.Valid) :
    ∀ c ∈ s.calls.set i c', c.Valid := by
  intro c hmem
  rcases List.mem_or_eq_of_mem_set hmem with hmem | rfl
  · exact h.valid c hmem
  · exact hvalid

/-- A call that goes on in front of the same field. -/
theorem StatsExact.stays (h : StatsExact s) (hc : s.calls[i]? = some c)
    (hlatency : c'.latencyIn100ns = c.latencyIn100ns) (hstage : c'.phase.stage = c.phase.stage)
    (hvalid : c'.Valid) : StatsExact { s with calls := s.calls.set i c' } := by
  have hkept : ∀ field, field < c'.phase.stage ↔ field < c.phase.stage := fun field => by
    rw [hstage]
  refine ⟨h.total.trans ?_, h.samples.trans ?_, h.minimum.trans ?_, h.maximum.trans ?_,
    h.valid_set hvalid⟩
  · exact (tally_kept hc hlatency (hkept 0)).symm
  · exact (tally_kept hc (congrArg (fun _ => 1) hlatency) (hkept 1)).symm
  · exact (tally_kept hc hlatency (hkept 2)).symm
  · exact (tally_kept hc hlatency (hkept 3)).symm

/-- A call that comes past a field. -/
theorem StatsExact.passes (h : StatsExact s) (hc : s.calls[i]? = some c) {stats : DebugStats}
    (hlatency : c'.latencyIn100ns = c.latencyIn100ns)
    (hstage : c'.phase.stage = c.phase.stage + 1) (hvalid : c'.Valid)
    (htotal : stats.totalLatency = if c.phase.stage = 0 then
      s.stats.totalLatency + c.latencyIn100ns else s.stats.totalLatency)
    (hsamples : stats.latencySamples = if c.phase.stage = 1 then
      s.stats.latencySamples + 1 else s.stats.latencySamples)
    (hminimum : stats.minLatency = if c.phase.stage = 2 then
      min s.stats.minLatency c.latencyIn100ns else s.stats.minLatency)
    (hmaximum : stats.maxLatency = if c.phase.stage = 3 then
      max s.stats.maxLatency c.latencyIn100ns else s.stats.maxLatency) :
    StatsExact { stats := stats, calls := s.calls.set i c' } := by
  refine ⟨htotal.trans ?_, hsamples.trans ?_, hminimum.trans ?_, hmaximum.trans ?_,
    h.valid_set hvalid⟩
  · rw [tally_passed rfl hc hlatency hstage, h.total]
  · rw [tally_passed rfl hc (congrArg (fun _ => 1) hlatency) hstage, h.samples]
  · rw [tally_passed rfl hc hlatency hstage, h.minimum]
  · rw [tally_passed rfl hc hlatency hstage, h.maximum]

theorem statsExact_record (h : StatsExact s) (latency : Int64) :
    StatsExact (latencyStep s (.record latency)) := by
  have hnew : ∀ field, ¬ field < ({ latencyIn100ns := latency } : LatencyCall).phase.stage :=
    fun field => Nat.not_lt_zero field
  refine ⟨h.total.trans (tally_append rfl (hnew 0)).symm,
    h.samples.trans (tally_append rfl (hnew 1)).symm,
    h.minimum.trans (tally_append rfl (hnew 2)).symm,
    h.maximum.trans (tally_append rfl (hnew 3)).symm, fun c hc => ?_⟩
  rcases List.mem_append.mp hc with hc | hc
  · exact h.valid c hc
  · obtain rfl := List.mem_singleton.mp hc
    trivial

theorem statsExact_access (h : StatsExact s) (i : Nat) :
    StatsExact (latencyStep s (.access i)) := by
  cases hc : s.calls[i]? with
  | none =>
      have hstep : latencyStep s (.access i) = s := by simp only [latencyStep, hc]
      rw [hstep]
      exact h
  | some c =>
      have hvalid := h.valid c (List.mem_of_getElem? hc)
      rw [latencyStep_access hc]
      obtain ⟨latency, phase⟩ := c
      cases phase with
      | total => exact h.passes hc rfl rfl trivial rfl rfl rfl rfl
      | samples => exact h.passes hc rfl rfl trivial rfl rfl rfl rfl
      | minimum a =>
          rcases attempt_cases combines_min hvalid with heq | ⟨a', heq, hvalid', -⟩
          · rw [access_minimum heq]
            exact h.passes hc rfl rfl trivial rfl rfl rfl rfl
          · rw [access_minimum heq]
            exact h.stays hc rfl rfl hvalid'
      | maximum a =>
          rcases attempt_cases combines_max hvalid with heq | ⟨a', heq, hvalid', -⟩
          · rw [access_maximum heq]
            exact h.passes hc rfl rfl trivial rfl rfl rfl rfl
          · rw [access_maximum heq]
            exact h.stays hc rfl rfl hvalid'
      | done => exact h.stays hc rfl rfl trivial

/-! ## How long a call takes -/

/-- The calls that have come past a field. -/
def LatencyRun.passed (s : LatencyRun) (field : Nat) : Nat :=
  s.calls.countP fun c => field < c.phase.stage

theorem passed_append (field : Nat) (latency : Int64) :
    (latencyStep s (.record latency)).passed field = s.passed field := by
  show (s.calls ++ [_]).countP _ = s.calls.countP _
  rw [List.countP_append]
  rfl

theorem passed_set (hc : s.calls[i]? = some c) (stats : DebugStats) (c' : LatencyCall)
    (field : Nat) :
    LatencyRun.passed { stats := stats, calls := s.calls.set i c' } field +
        (if field < c.phase.stage then 1 else 0) =
      s.passed field + (if field < c'.phase.stage then 1 else 0) := by
  obtain ⟨hi, rfl⟩ := List.getElem?_eq_some_iff.mp hc
  have hset := (List.set_perm_cons_eraseIdx hi c').countP_eq fun c => field < c.phase.stage
  have hold := (List.getElem_cons_eraseIdx_perm hi).countP_eq fun c => field < c.phase.stage
  rw [List.countP_cons] at hset hold
  simp only [decide_eq_true_eq] at hset hold
  show (s.calls.set i c').countP _ + _ = s.calls.countP _ + _
  omega

/-- A call that has not come past the field is not among those that have. -/
theorem passed_lt (hc : s.calls[i]? = some c) {field : Nat} (hstage : ¬ field < c.phase.stage) :
    s.passed field < s.calls.length := by
  refine Nat.lt_of_le_of_ne List.countP_le_length fun hall => hstage ?_
  exact of_decide_eq_true (List.countP_eq_length.mp hall c (List.mem_of_getElem? hc))

/-- The accesses a call still needs, if there are `others` more calls. -/
def LatencyRun.remaining (others : Nat) (s : LatencyRun) (c : LatencyCall) : Nat :=
  match c.phase with
  | .total => 4 * others + 6
  | .samples => 4 * others + 5
  | .minimum a => 2 * (others - s.passed 2) + a.cost s.stats.minLatency + (2 * others + 2)
  | .maximum a => 2 * (others - s.passed 3) + a.cost s.stats.maxLatency
  | .done => 0

/-- An access brings a call nearer to its end. -/
theorem remaining_access (h : StatsExact s) (others : Nat) (hc : s.calls[i]? = some c)
    (hdone : c.phase ≠ .done) :
    (latencyStep s (.access i)).remaining others (c.access s.stats).2 < s.remaining others c := by
  have hvalid := h.valid c (List.mem_of_getElem? hc)
  rw [latencyStep_access hc]
  obtain ⟨latency, phase⟩ := c
  cases phase with
  | total => exact Nat.lt_succ_self _
  | samples =>
      show 2 * (others - _) + 2 + (2 * others + 2) < 4 * others + 5
      omega
  | minimum a =>
      have hpos := a.cost_pos s.stats.minLatency
      rcases attempt_cases combines_min hvalid with heq | ⟨a', heq, hvalid', hless⟩
      · rw [access_minimum heq]
        show 2 * (others - _) + 2 <
          2 * (others - _) + a.cost s.stats.minLatency + (2 * others + 2)
        omega
      · rw [access_minimum heq]
        have hpassed : LatencyRun.passed
            { stats := s.stats, calls := s.calls.set i ⟨latency, .minimum a'⟩ } 2 = s.passed 2 :=
          passed_set hc s.stats ⟨latency, .minimum a'⟩ 2
        show 2 * (others - LatencyRun.passed
              { stats := s.stats, calls := s.calls.set i ⟨latency, .minimum a'⟩ } 2) +
            a'.cost s.stats.minLatency + (2 * others + 2) <
          2 * (others - s.passed 2) + a.cost s.stats.minLatency + (2 * others + 2)
        rw [hpassed]
        omega
  | maximum a =>
      have hpos := a.cost_pos s.stats.maxLatency
      rcases attempt_cases combines_max hvalid with heq | ⟨a', heq, hvalid', hless⟩
      · rw [access_maximum heq]
        show 0 < 2 * (others - _) + a.cost s.stats.maxLatency
        omega
      · rw [access_maximum heq]
        have hpassed : LatencyRun.passed
            { stats := s.stats, calls := s.calls.set i ⟨latency, .maximum a'⟩ } 3 = s.passed 3 :=
          passed_set hc s.stats ⟨latency, .maximum a'⟩ 3
        show 2 * (others - LatencyRun.passed
              { stats := s.stats, calls := s.calls.set i ⟨latency, .maximum a'⟩ } 3) +
            a'.cost s.stats.maxLatency <
          2 * (others - s.passed 3) + a.cost s.stats.maxLatency
        rw [hpassed]
        omega
  | done => exact absurd rfl hdone

/-- What an access of another call does to a field: it leaves it alone, or it comes past it. -/
def Moves (s s' : LatencyRun) (field : Nat) (cell : DebugStats → Int64) : Prop :=
  (s'.passed field = s.passed field ∧ cell s'.stats = cell s.stats) ∨
    s'.passed field = s.passed field + 1

theorem moves_set (hc : s.calls[i]? = some c) {stats : DebugStats} {field : Nat}
    {cell : DebugStats → Int64}
    (hcell : c.phase.stage ≠ field ∨ c'.phase.stage = c.phase.stage →
      cell stats = cell s.stats)
    (hstage : c'.phase.stage = c.phase.stage ∨ c'.phase.stage = c.phase.stage + 1) :
    Moves s { stats := stats, calls := s.calls.set i c' } field cell := by
  have hpassed := passed_set hc stats c' field
  by_cases hfield : c.phase.stage = field ∧ c'.phase.stage = c.phase.stage + 1
  · right
    obtain ⟨rfl, hnext⟩ := hfield
    rwa [if_neg (Nat.lt_irrefl _), if_pos (hnext ▸ Nat.lt_succ_self _)] at hpassed
  · left
    refine ⟨?_, hcell (by omega)⟩
    have hsame : c.phase.stage > field ↔ c'.phase.stage > field := by omega
    simp only [gt_iff_lt] at hsame
    simp only [hsame] at hpassed
    exact Nat.add_right_cancel hpassed

theorem access_moves (h : StatsExact s) (i : Nat) :
    Moves s (latencyStep s (.access i)) 2 (·.minLatency) ∧
      Moves s (latencyStep s (.access i)) 3 (·.maxLatency) := by
  cases hc : s.calls[i]? with
  | none =>
      have hstep : latencyStep s (.access i) = s := by simp only [latencyStep, hc]
      rw [hstep]
      exact ⟨.inl ⟨rfl, rfl⟩, .inl ⟨rfl, rfl⟩⟩
  | some c =>
      have hvalid := h.valid c (List.mem_of_getElem? hc)
      rw [latencyStep_access hc]
      obtain ⟨latency, phase⟩ := c
      cases phase with
      | total =>
          exact ⟨moves_set hc (fun _ => rfl) (.inr rfl), moves_set hc (fun _ => rfl) (.inr rfl)⟩
      | samples =>
          exact ⟨moves_set hc (fun _ => rfl) (.inr rfl), moves_set hc (fun _ => rfl) (.inr rfl)⟩
      | minimum a =>
          rcases attempt_cases combines_min hvalid with heq | ⟨a', heq, -, -⟩
          · rw [access_minimum heq]
            refine ⟨moves_set hc (fun hor => ?_) (.inr rfl), moves_set hc (fun _ => rfl) (.inr rfl)⟩
            rcases hor with hne | hsame
            · exact absurd rfl hne
            · cases hsame
          · rw [access_minimum heq]
            exact ⟨moves_set hc (fun _ => rfl) (.inl rfl), moves_set hc (fun _ => rfl) (.inl rfl)⟩
      | maximum a =>
          rcases attempt_cases combines_max hvalid with heq | ⟨a', heq, -, -⟩
          · rw [access_maximum heq]
            refine ⟨moves_set hc (fun _ => rfl) (.inr rfl), moves_set hc (fun hor => ?_) (.inr rfl)⟩
            rcases hor with hne | hsame
            · exact absurd rfl hne
            · cases hsame
          · rw [access_maximum heq]
            exact ⟨moves_set hc (fun _ => rfl) (.inl rfl), moves_set hc (fun _ => rfl) (.inl rfl)⟩
      | done =>
          exact ⟨moves_set hc (fun _ => rfl) (.inl rfl), moves_set hc (fun _ => rfl) (.inl rfl)⟩

/-- The others cost a call no more than their number allows. -/
theorem remaining_le {s' : LatencyRun} {others : Nat} (hc : s'.calls[i]? = some c)
    (hmin : Moves s s' 2 (·.minLatency)) (hmax : Moves s s' 3 (·.maxLatency))
    (hlen : s'.calls.length ≤ others + 1) : s'.remaining others c ≤ s.remaining others c := by
  obtain ⟨latency, phase⟩ := c
  cases phase with
  | total => exact Nat.le_refl _
  | samples => exact Nat.le_refl _
  | minimum a =>
      have hlt := passed_lt hc (Nat.lt_irrefl 2)
      show 2 * (others - s'.passed 2) + a.cost s'.stats.minLatency + (2 * others + 2) ≤
        2 * (others - s.passed 2) + a.cost s.stats.minLatency + (2 * others + 2)
      rcases hmin with ⟨hpassed, hcell⟩ | hpassed
      · rw [hpassed, show s'.stats.minLatency = s.stats.minLatency from hcell]
      · have hcost := a.cost_le s.stats.minLatency s'.stats.minLatency
        omega
  | maximum a =>
      have hlt := passed_lt hc (Nat.lt_irrefl 3)
      show 2 * (others - s'.passed 3) + a.cost s'.stats.maxLatency ≤
        2 * (others - s.passed 3) + a.cost s.stats.maxLatency
      rcases hmax with ⟨hpassed, hcell⟩ | hpassed
      · rw [hpassed, show s'.stats.maxLatency = s.stats.maxLatency from hcell]
      · have hcost := a.cost_le s.stats.maxLatency s'.stats.maxLatency
        omega
  | done => exact Nat.le_refl _

end Steps

/-! ## Runs -/

/-- The latencies that a run records, in the order in which the calls start. -/
def recorded (es : List LatencyEvent) : List Int64 :=
  es.filterMap fun e => match e with
    | .record latency => some latency
    | .access _ => none

/-- The accesses of call `i` in a run. -/
def ownAccesses (i : Nat) : LatencyRun → List LatencyEvent → Nat
  | _, [] => 0
  | s, e :: es =>
    (if e = .access i ∧ (s.calls[i]?.any (·.phase ≠ .done)) = true then 1 else 0) +
      ownAccesses i (latencyStep s e) es

/-- The statistics of a list of latencies. -/
def DebugStats.ofLatencies (latencies : List Int64) : DebugStats where
  totalLatency := latencies.foldl (· + ·) 0
  minLatency := latencies.foldl min Int64.maxValue
  maxLatency := latencies.foldl max 0
  latencySamples := Int64.ofNat latencies.length

section Runs

variable {s : LatencyRun}

theorem latencyStep_exact (h : StatsExact s) (e : LatencyEvent) : StatsExact (latencyStep s e) := by
  cases e with
  | record latency => exact statsExact_record h latency
  | access i => exact statsExact_access h i

theorem access_latency (c : LatencyCall) (stats : DebugStats) :
    (c.access stats).2.latencyIn100ns = c.latencyIn100ns := by
  obtain ⟨latency, phase⟩ := c
  cases phase <;> rfl

theorem latencyStep_latencies (s : LatencyRun) (e : LatencyEvent) :
    (latencyStep s e).calls.map (·.latencyIn100ns) =
      s.calls.map (·.latencyIn100ns) ++ recorded [e] := by
  cases e with
  | record latency => exact List.map_append
  | access i =>
      rw [show recorded [.access i] = [] from rfl, List.append_nil]
      cases hc : s.calls[i]? with
      | none => simp only [latencyStep, hc]
      | some c =>
          obtain ⟨hi, rfl⟩ := List.getElem?_eq_some_iff.mp hc
          rw [latencyStep_access hc]
          show (s.calls.set i _).map _ = _
          rw [List.map_set, access_latency, ← List.map_set, List.set_getElem_self]

theorem recorded_cons (e : LatencyEvent) (es : List LatencyEvent) :
    recorded (e :: es) = recorded [e] ++ recorded es := by
  cases e <;> rfl

theorem run_latencies (s : LatencyRun) (es : List LatencyEvent) :
    (run latencyStep s es).calls.map (·.latencyIn100ns) =
      s.calls.map (·.latencyIn100ns) ++ recorded es := by
  induction es generalizing s with
  | nil => exact (List.append_nil _).symm
  | cons e es ih =>
      show (run latencyStep (latencyStep s e) es).calls.map (·.latencyIn100ns) = _
      rw [ih, latencyStep_latencies, recorded_cons e es, List.append_assoc]

theorem foldl_one (n : Nat) (a : Int64) :
    (List.replicate n (1 : Int64)).foldl (· + ·) a = a + Int64.ofNat n := by
  induction n generalizing a with
  | zero => exact (Int64.add_zero a).symm
  | succ n ih =>
      rw [List.replicate_succ, List.foldl_cons, ih, Int64.add_assoc, Int64.add_comm 1,
        Int64.ofNat_add]
      rfl

/-- With no call under way, the statistics are those of all latencies. -/
theorem StatsExact.stats_eq (h : StatsExact s) (hidle : ∀ c ∈ s.calls, c.phase = .done) :
    s.stats = .ofLatencies (s.calls.map (·.latencyIn100ns)) := by
  have hall : ∀ op e value field, field < 4 →
      tally op e value field s.calls = (s.calls.map value).foldl op e := by
    intro op e value field hfield
    have hshare : s.calls.map (·.share value e field) = s.calls.map value := by
      refine List.map_congr_left fun c hc => if_pos ?_
      rw [hidle c hc]
      exact hfield
    rw [tally, hshare]
  have hsamples : s.stats.latencySamples = Int64.ofNat s.calls.length := by
    rw [h.samples, hall _ _ _ 1 (by decide), List.map_const', foldl_one, Int64.zero_add]
  have htotal := h.total.trans (hall _ _ _ 0 (by decide))
  have hminimum := h.minimum.trans (hall _ _ _ 2 (by decide))
  have hmaximum := h.maximum.trans (hall _ _ _ 3 (by decide))
  rw [← List.length_map (f := (·.latencyIn100ns))] at hsamples
  exact DebugStats.mk.injEq .. ▸ ⟨htotal, hminimum, hmaximum, hsamples⟩

/-- The accesses left to call `i`, which may not have started yet. -/
def LatencyRun.remainingAt (others i : Nat) (s : LatencyRun) : Nat :=
  match s.calls[i]? with
  | none => 4 * others + 6
  | some c => s.remaining others c

/-- An access of call `i` takes one off, and nothing adds to what is left. -/
theorem remainingAt_step (h : StatsExact s) {others : Nat} (e : LatencyEvent)
    (hlen : (latencyStep s e).calls.length ≤ others + 1) (i : Nat) :
    (if e = .access i ∧ (s.calls[i]?.any (·.phase ≠ .done)) = true then 1 else 0) +
      (latencyStep s e).remainingAt others i ≤ s.remainingAt others i := by
  cases e with
  | record latency =>
      rw [if_neg (by simp), Nat.zero_add]
      have hcalls : (latencyStep s (.record latency)).calls[i]? =
          (s.calls ++ [{ latencyIn100ns := latency }])[i]? := rfl
      unfold LatencyRun.remainingAt
      rw [hcalls, List.getElem?_append]
      split_ifs with hi
      · rw [List.getElem?_eq_getElem hi]
        have hget : (latencyStep s (.record latency)).calls[i]? = some s.calls[i] := by
          rw [hcalls, List.getElem?_append_left hi, List.getElem?_eq_getElem hi]
        exact remaining_le hget (.inl ⟨passed_append 2 latency, rfl⟩)
          (.inl ⟨passed_append 3 latency, rfl⟩) hlen
      · rw [List.getElem?_eq_none (Nat.not_lt.mp hi)]
        cases i - s.calls.length with
        | zero => exact Nat.le_refl _
        | succ j => exact Nat.le_refl _
  | access j =>
      obtain ⟨hmin, hmax⟩ := access_moves h j
      cases hc : s.calls[j]? with
      | none =>
          have hstep : latencyStep s (.access j) = s := by simp only [latencyStep, hc]
          rw [hstep, if_neg, Nat.zero_add]
          rintro ⟨heq, hany⟩
          obtain rfl := LatencyEvent.access.inj heq
          rw [hc] at hany
          cases hany
      | some c =>
          have hcalls : (latencyStep s (.access j)).calls = s.calls.set j (c.access s.stats).2 := by
            rw [latencyStep_access hc]
          obtain ⟨hj, -⟩ := List.getElem?_eq_some_iff.mp hc
          rcases eq_or_ne i j with rfl | hij
          · have hget : (latencyStep s (.access i)).calls[i]? = some (c.access s.stats).2 := by
              rw [hcalls, List.getElem?_set_self hj]
            unfold LatencyRun.remainingAt
            rw [hget, hc]
            by_cases hdone : c.phase = .done
            · have hsame : (c.access s.stats).2 = c := by
                simp only [LatencyCall.access, hdone]
              rw [if_neg (by simp [hdone]), Nat.zero_add]
              rw [hsame] at hget ⊢
              exact remaining_le hget hmin hmax hlen
            · have hless := remaining_access h others hc hdone
              split_ifs <;> dsimp only <;> omega
          · have hget : (latencyStep s (.access j)).calls[i]? = s.calls[i]? := by
              rw [hcalls, List.getElem?_set_ne hij.symm]
            rw [if_neg fun hboth => hij (LatencyEvent.access.inj hboth.1).symm, Nat.zero_add]
            unfold LatencyRun.remainingAt
            rw [hget]
            cases hi : s.calls[i]? with
            | none => exact Nat.le_refl _
            | some ci => exact remaining_le (hget.trans hi) hmin hmax hlen

theorem ownAccesses_le (h : StatsExact s) {others : Nat} (es : List LatencyEvent)
    (hlen : s.calls.length + (recorded es).length ≤ others + 1) (i : Nat) :
    ownAccesses i s es ≤ s.remainingAt others i := by
  induction es generalizing s with
  | nil => exact Nat.zero_le _
  | cons e es ih =>
      have hlength : (latencyStep s e).calls.length = s.calls.length + (recorded [e]).length := by
        have := congrArg List.length (latencyStep_latencies s e)
        simpa using this
      rw [recorded_cons, List.length_append, ← Nat.add_assoc, ← hlength] at hlen
      have hstep := remainingAt_step h e (Nat.le_of_add_right_le hlen) i
      have hrest := ih (latencyStep_exact h e) hlen
      rw [ownAccesses]
      exact (Nat.add_le_add_left hrest _).trans hstep

/-- Whatever the interleaving of the calls, the statistics are those of the calls that have come
past each field; with no call under way they are those of all latencies; and a call makes at
most six accesses and four more for each other call, whatever the others do. -/
theorem recordLatency_exact (es : List LatencyEvent) :
    StatsExact (run latencyStep {} es) ∧
      ((∀ c ∈ (run latencyStep {} es).calls, c.phase = .done) →
        (run latencyStep {} es).stats = .ofLatencies (recorded es)) ∧
      ∀ i, ownAccesses i {} es ≤ 4 * ((recorded es).length - 1) + 6 := by
  have hstart : StatsExact {} := ⟨rfl, rfl, rfl, rfl, fun c hc => absurd hc List.not_mem_nil⟩
  have hrun := run_induct (P := StatsExact) (fun s e h => latencyStep_exact h e) hstart es
  refine ⟨hrun, fun hidle => ?_, fun i => ?_⟩
  · have hlatencies := run_latencies {} es
    rw [show (({} : LatencyRun).calls.map (·.latencyIn100ns)) = [] from rfl, List.nil_append]
      at hlatencies
    rw [hrun.stats_eq hidle, hlatencies]
  · refine ownAccesses_le hstart es ?_ i
    show 0 + (recorded es).length ≤ (recorded es).length - 1 + 1
    omega

/-- Both calls read the initial minimum, and the exchange of the second one fails once. -/
example : (run latencyStep {} ([.record 7, .record 5] ++ [.access 0, .access 0, .access 1,
    .access 1, .access 0, .access 1, .access 0, .access 1, .access 1, .access 1])).stats =
      ⟨12, 5, 0, 2⟩ := by decide

end Runs

end VirtualNvme
