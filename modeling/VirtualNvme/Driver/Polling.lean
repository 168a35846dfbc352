import VirtualNvme.Driver.Config
import VirtualNvme.Driver.Doorbell

/-!
# The polling timer

The timer of `doorbell.c` polls the doorbells and schedules itself again. Its interval is halved
after a poll with work and grows by a quarter after one without, between bounds that come from the
configured interval.
-/

namespace VirtualNvme

/-- `VNVME_POLL_INTERVAL_DIVISOR` and `VNVME_POLL_INTERVAL_MULTIPLIER` -/
def vnvmePollIntervalDivisor : UInt32 := 10
def vnvmePollIntervalMultiplier : UInt32 := 100

/-- `minInterval` -/
def VnvmeConfig.minInterval (config : VnvmeConfig) : UInt32 :=
  let minInterval := config.doorbellPollIntervalUs / vnvmePollIntervalDivisor
  if minInterval < vnvmeMinPollIntervalUs then vnvmeMinPollIntervalUs else minInterval

/-- `maxInterval` -/
def VnvmeConfig.maxInterval (config : VnvmeConfig) : UInt32 :=
  let maxInterval := config.doorbellPollIntervalUs * vnvmePollIntervalMultiplier
  if maxInterval > vnvmeMaxPollIntervalUs then vnvmeMaxPollIntervalUs else maxInterval

/-- What `AdjustPollingInterval` makes of `PollingIntervalUs`. -/
def adjustPollingInterval (config : VnvmeConfig) (pollingIntervalUs : UInt32) (hadWork : Bool) :
    UInt32 :=
  if hadWork then
    let newInterval := pollingIntervalUs / 2
    if newInterval < config.minInterval then config.minInterval else newInterval
  else
    let newInterval := pollingIntervalUs + pollingIntervalUs / 4
    if newInterval > config.maxInterval then config.maxInterval else newInterval

/-- A controller with its timer. `VnvmeCreateControllerPdo` starts with an interval of
`VNVME_POLLING_INTERVAL_MS`. -/
structure PolledController where
  driver : Driver
  pollingIntervalUs : UInt32 := 1000

/-- `VnvmeInitializePollingTimer`; `created` is what `WdfTimerCreate` returns. -/
def vnvmeInitializePollingTimer (created : NtStatus) (config : VnvmeConfig)
    (c : PolledController) : NtStatus × PolledController :=
  if !created.ntSuccess then (created, c)
  else (.success, { c with pollingIntervalUs := config.doorbellPollIntervalUs })

/-- `VnvmeEvtPollingTimer` at the time `now`, on a bus with this controller. -/
def vnvmeEvtPollingTimer (fuel : Nat) (now : Int) (config : VnvmeConfig) (c : PolledController) :
    Option PolledController :=
  let checked :=
    match c.driver.fdo.commandMode with
    | .user => checkUserModeHeartbeat fuel now c.driver
    | .kernel => some c.driver
  (checked.bind (vnvmeProcessDoorbells fuel)).map fun r =>
    { driver := r.2
      pollingIntervalUs := adjustPollingInterval config c.pollingIntervalUs r.1 }

end VirtualNvme
