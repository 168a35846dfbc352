import VirtualNvme.CasLoop

/-!
# Latency statistics

`VnvmeDebugRecordLatency` of `debug.c` access by access, so that calls can be interleaved. Of
`VNVME_DEBUG_STATS` only the four fields for latencies are here: the others have macros that
would count, but nothing uses them.
-/

namespace VirtualNvme

open CasLoops (Attempt attempt)

/-- The latency fields of `VNVME_DEBUG_STATS`, in units of 100 ns. -/
structure DebugStats where
  totalLatency : Int64
  minLatency : Int64
  maxLatency : Int64
  latencySamples : Int64
  deriving Repr, DecidableEq

/-- `VnvmeDebugResetStats` -/
def vnvmeDebugResetStats : DebugStats where
  totalLatency := 0
  minLatency := Int64.maxValue
  maxLatency := 0
  latencySamples := 0

/-- The next access of a call of `VnvmeDebugRecordLatency`. -/
inductive LatencyPhase where
  | total
  | samples
  | minimum (a : Attempt Int64)
  | maximum (a : Attempt Int64)
  | done
  deriving Repr, DecidableEq

/-- A call with its argument. -/
structure LatencyCall where
  latencyIn100ns : Int64
  phase : LatencyPhase := .total
  deriving Repr, DecidableEq

/-- One access of `VnvmeDebugRecordLatency`. -/
def LatencyCall.access (c : LatencyCall) (stats : DebugStats) : DebugStats × LatencyCall :=
  match c.phase with
  | .total =>
    ({ stats with totalLatency := stats.totalLatency + c.latencyIn100ns },
      { c with phase := .samples })
  | .samples =>
    ({ stats with latencySamples := stats.latencySamples + 1 },
      { c with phase := .minimum .read })
  | .minimum a =>
    let r := attempt (fun latency oldMin => latency ≥ oldMin) c.latencyIn100ns stats.minLatency a
    ({ stats with minLatency := r.1 },
      { c with phase := (r.2.map .minimum).getD (.maximum .read) })
  | .maximum a =>
    let r := attempt (fun latency oldMax => latency ≤ oldMax) c.latencyIn100ns stats.maxLatency a
    ({ stats with maxLatency := r.1 }, { c with phase := (r.2.map .maximum).getD .done })
  | .done => (stats, c)

/-- The statistics with all calls there have been, in the order in which they started. -/
structure LatencyRun where
  stats : DebugStats := vnvmeDebugResetStats
  calls : List LatencyCall := []
  deriving Repr, DecidableEq

inductive LatencyEvent where
  | record (latencyIn100ns : Int64)
  /-- the next access of call `i` -/
  | access (i : Nat)
  deriving Repr, DecidableEq

def latencyStep (s : LatencyRun) : LatencyEvent → LatencyRun
  | .record latencyIn100ns =>
    { s with calls := s.calls ++ [{ latencyIn100ns := latencyIn100ns }] }
  | .access i =>
    match s.calls[i]? with
    | none => s
    | some c =>
      let r := c.access s.stats
      { stats := r.1, calls := s.calls.set i r.2 }

end VirtualNvme
