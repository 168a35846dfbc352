import VirtualNvme.Ledger
import VirtualNvme.Driver.Bar0
import VirtualNvme.Driver.PcieConfig
import VirtualNvme.Driver.Polling

/-!
# The hardware of a controller

The PnP and power callbacks of `pdo.c`, with what they call: the allocation of BAR0 and of the
configuration space, and the start and stop of the polling timer. Memory and timers come from
the kernel's ledger. A timer belongs to the device and is deleted with it, so nothing in the
driver deletes one.
-/

namespace VirtualNvme

open Ledgers (Ledger Resource)

inductive PdoObject where
  | bar0Memory
  | configSpace
  | pollingTimer
  deriving Repr, DecidableEq

/-- A controller with the rest of `VNVME_PDO_CONTEXT`. Nothing ever sets `PollingEnabled`.
`queued` are the timers that are due, which is the framework's side. -/
structure PdoDevice where
  controller : PolledController
  pcie : PcieContext := {}
  bar0VirtAddr : Option Nat := none
  pcieConfigAddr : Option Nat := none
  pollingTimer : Option Nat := none
  pollingActive : Bool := false
  pollingEnabled : Bool := false
  queued : List Nat := []
  objects : Ledger PdoObject := {}

namespace PdoDevice

def setPdo (d : PdoDevice) (pdo : PdoContext) : PdoDevice :=
  { d with controller := { d.controller with driver := { d.controller.driver with pdo := pdo } } }

def pdo (d : PdoDevice) : PdoContext := d.controller.driver.pdo

/-- A timer becomes due; one that is due already stays so. -/
def timerStart (d : PdoDevice) (timer : Nat) : PdoDevice :=
  { d with queued := if timer ∈ d.queued then d.queued else timer :: d.queued }

def timerStop (d : PdoDevice) (timer : Nat) : PdoDevice :=
  { d with queued := d.queued.filter (· ≠ timer) }

end PdoDevice

/-! ## Allocation -/

/-- `VnvmeAllocateBar0` -/
def vnvmeAllocateBar0 (allocated : Bool) (d : PdoDevice) : NtStatus × PdoDevice :=
  if !allocated then (.insufficientResources, d)
  else
    let (bar0, objects) := d.objects.acquire .bar0Memory none
    let d := { d with bar0VirtAddr := some bar0, objects := objects }
    let pdo := vnvmeInitializeBar0Registers { d.pdo with bar0 := some { cap := 0, vs := 0 } }
    (.success, d.setPdo pdo)

/-- `VnvmeFreeBar0` -/
def vnvmeFreeBar0 (d : PdoDevice) : PdoDevice :=
  match d.bar0VirtAddr with
  | none => d
  | some bar0 =>
    { d.setPdo { d.pdo with bar0 := none } with
      bar0VirtAddr := none
      objects := d.objects.release .bar0Memory bar0 }

/-- `VnvmeAllocatePcieConfig` with the kernel's side of it. -/
def PdoDevice.allocatePcieConfig (allocated : Bool) (d : PdoDevice) : NtStatus × PdoDevice :=
  let r := vnvmeAllocatePcieConfig allocated d.pcie
  if !allocated then (r.1, d)
  else
    let (configSpace, objects) := d.objects.acquire .configSpace none
    (r.1, { d with pcie := r.2, pcieConfigAddr := some configSpace, objects := objects })

/-- `VnvmeFreePcieConfig` -/
def vnvmeFreePcieConfig (d : PdoDevice) : PdoDevice :=
  match d.pcieConfigAddr with
  | none => d
  | some configSpace =>
    { d with
      pcie := { pcieConfig := none, pcieConfigSize := 0 }
      pcieConfigAddr := none
      objects := d.objects.release .configSpace configSpace }

/-- `VnvmeInitializePollingTimer` with the framework's side of it. -/
def PdoDevice.initializePollingTimer (created : NtStatus) (config : VnvmeConfig) (d : PdoDevice) :
    NtStatus × PdoDevice :=
  let r := vnvmeInitializePollingTimer created config d.controller
  if !created.ntSuccess then (r.1, d)
  else
    let (timer, objects) := d.objects.acquire .pollingTimer none
    (r.1, { d with controller := r.2, pollingTimer := some timer, objects := objects })

/-! ## The polling timer -/

/-- `VnvmeStartPollingTimer` -/
def vnvmeStartPollingTimer (d : PdoDevice) : PdoDevice :=
  match d.pollingTimer with
  | none => d
  | some timer => { d.timerStart timer with pollingActive := true }

/-- `VnvmeStopPollingTimer` -/
def vnvmeStopPollingTimer (d : PdoDevice) : PdoDevice :=
  match d.pollingTimer with
  | none => d
  | some timer =>
    if d.pollingActive then { d.timerStop timer with pollingActive := false } else d

/-- The last step of `VnvmeEvtPollingTimer`. -/
def reschedulePollingTimer (d : PdoDevice) : PdoDevice :=
  match d.pollingTimer with
  | none => d
  | some timer => if d.pollingActive && d.pollingEnabled then d.timerStart timer else d

/-- A timer that is due runs its callback. A callback that never comes back does not schedule
anything either. -/
def PdoDevice.timerExpires (fuel : Nat) (now : Int) (config : VnvmeConfig) (timer : Nat)
    (d : PdoDevice) : PdoDevice :=
  let d := d.timerStop timer
  match vnvmeEvtPollingTimer fuel now config d.controller with
  | none => d
  | some controller => reschedulePollingTimer { d with controller := controller }

/-! ## Callbacks -/

/-- `VnvmePdoEvtDevicePrepareHardware` -/
def vnvmePdoEvtDevicePrepareHardware (bar0 configSpace : Bool) (timer : NtStatus)
    (config : VnvmeConfig) (d : PdoDevice) : NtStatus × PdoDevice :=
  let (status, d) := vnvmeAllocateBar0 bar0 d
  if !status.ntSuccess then (status, d)
  else
    let d := d.setPdo (vnvmeInitializeBar0Registers d.pdo)
    let (status, d) := d.allocatePcieConfig configSpace
    if !status.ntSuccess then (status, vnvmeFreeBar0 d)
    else
      let d := { d with pcie := vnvmeInitializePcieConfig d.pcie }
      let (status, d) := d.initializePollingTimer timer config
      if !status.ntSuccess then (status, vnvmeFreeBar0 (vnvmeFreePcieConfig d))
      else (.success, d)

/-- `VnvmePdoEvtDeviceReleaseHardware` -/
def vnvmePdoEvtDeviceReleaseHardware (d : PdoDevice) : PdoDevice :=
  vnvmeFreeBar0 (vnvmeFreePcieConfig (vnvmeStopPollingTimer d))

/-- `VnvmePdoEvtDeviceD0Entry` -/
def vnvmePdoEvtDeviceD0Entry (d : PdoDevice) : PdoDevice := vnvmeStartPollingTimer d

/-- `VnvmePdoEvtDeviceD0Exit` -/
def vnvmePdoEvtDeviceD0Exit (d : PdoDevice) : PdoDevice := vnvmeStopPollingTimer d

end VirtualNvme
