import VirtualNvme.Ledger
import VirtualNvme.Driver.Bus
import VirtualNvme.Driver.Config
import VirtualNvme.Driver.CtrlDev

/-!
# The bus device and its shared memory

`shm.c`, the PnP and power callbacks of `vnvme.c`, and the requests of `ctrl_dev.c` by which a
process gets at the shared memory and the command event. Every call that hands out or takes
back a kernel object goes through the kernel's ledger, so that the fields of the context can
be compared with what is out. A user mapping and an event handle belong to the process in
whose context they were made.
-/

namespace VirtualNvme

open Ledgers (Ledger Resource)

/-- The kernel objects behind the fields of `VNVME_FDO_CONTEXT`. -/
inductive BusObject where
  | contiguousMemory
  | mdl
  | userMapping (process : Nat)
  | eventHandle (process : Nat)
  deriving Repr, DecidableEq

def BusObject.ofProcess (p : Nat) : BusObject → Bool
  | .userMapping q => q = p
  | .eventHandle q => q = p
  | _ => false

/-- The statuses that only the bus device returns, beside those of `NtStatus`. -/
inductive DeviceStatus where
  | nt (status : NtStatus)
  | accessViolation
  | invalidDeviceRequest
  deriving Repr, DecidableEq

def DeviceStatus.ntSuccess : DeviceStatus → Bool
  | .nt status => status.ntSuccess
  | _ => false

/-- `VNVME_SHM_SIZE` -/
def vnvmeShmSize : UInt64 := 64 * 1024 * 1024

/-- The bus with the rest of `VNVME_FDO_CONTEXT`. The contents of the memory at
`ShmKernelVirtAddr` are those of the bus and, of the control block, `ShutdownRequested`;
`controlQueue` is whether the framework hands out requests from `ControlQueue`, and `objects`
is the kernel's ledger. -/
structure BusDevice extends Bus where
  shmKernelVirtAddr : Option Nat := none
  shmSize : UInt64 := 0
  shmMdl : Option Nat := none
  shmUserVirtAddr : Option Nat := none
  userEventHandle : Option Nat := none
  eventNotificationEnabled : Bool := false
  shmShutdownRequested : Bool := false
  shutdownRequested : Bool := false
  shutdownEvent : Bool := false
  controlQueue : Bool := true
  childDeviceCount : UInt32 := 0
  nextControllerId : UInt32 := 1
  maxControllers : UInt32 := 16
  commandsProcessed : UInt64 := 0
  startTime : Int := 0
  globalConfig : VnvmeConfig := {}
  objects : Ledger BusObject := {}

/-- The bus device after `VnvmeEvtDeviceAdd`. -/
def BusDevice.added (config : Config) (globalConfig : VnvmeConfig) (startTime : Int) :
    BusDevice :=
  { config := config, shm := none, globalConfig := globalConfig, startTime := startTime }

/-! ## Shared memory -/

/-- `VnvmeAllocateShm`; `allocated` is whether there is contiguous memory. -/
def BusDevice.allocateShm (allocated : Bool) (d : BusDevice) : NtStatus × BusDevice :=
  if !allocated then (.insufficientResources, d)
  else
    let (addr, objects) := d.objects.acquire .contiguousMemory none
    (.success,
      { d with
        shmKernelVirtAddr := some addr
        shmSize := vnvmeShmSize
        shm := some vnvmeAllocateShm
        shmShutdownRequested := false
        objects := objects })

/-- `VnvmeUnmapShmFromUser` in the context of `process`. -/
def vnvmeUnmapShmFromUser (process : Nat) (d : BusDevice) : BusDevice :=
  match d.shmUserVirtAddr, d.shmMdl with
  | some addr, some _ =>
    { d with
      shmUserVirtAddr := none
      objects := d.objects.release (.userMapping process) addr }
  | _, _ => d

/-- The second step of `VnvmeFreeShm`. -/
def freeShmMdl (d : BusDevice) : BusDevice :=
  match d.shmMdl with
  | some mdl => { d with shmMdl := none, objects := d.objects.release .mdl mdl }
  | none => d

/-- The third step of `VnvmeFreeShm`. -/
def freeShmMemory (d : BusDevice) : BusDevice :=
  match d.shmKernelVirtAddr with
  | some addr =>
    { d with
      shmKernelVirtAddr := none
      shmSize := 0
      shm := none
      objects := d.objects.release .contiguousMemory addr }
  | none => d

/-- `VnvmeFreeShm` in the context of `process`. -/
def vnvmeFreeShm (process : Nat) (d : BusDevice) : BusDevice :=
  freeShmMemory (freeShmMdl (vnvmeUnmapShmFromUser process d))

/-- The list for the pages of the shared memory, a new one or the one that is there already. -/
def shmMdlFor (addr : Nat) (allocated : Bool) (d : BusDevice) : Option (Nat × BusDevice) :=
  match d.shmMdl with
  | some mdl => some (mdl, d)
  | none =>
    if !allocated then none
    else
      let (mdl, objects) := d.objects.acquire .mdl (some addr)
      some (mdl, { d with shmMdl := some mdl, objects := objects })

/-- What `MmMapLockedPagesSpecifyCache` does. -/
inductive MapOutcome where
  | mapped
  | null
  | exception
  deriving Repr, DecidableEq

/-- `VnvmeMapShmToUser` in the context of `process`. -/
def vnvmeMapShmToUser (process : Nat) (mdlAllocated : Bool) (outcome : MapOutcome)
    (d : BusDevice) : DeviceStatus × BusDevice :=
  match d.shmKernelVirtAddr with
  | none => (.nt .invalidDeviceState, d)
  | some addr =>
    match shmMdlFor addr mdlAllocated d with
    | none => (.nt .insufficientResources, d)
    | some (mdl, d) =>
      match outcome with
      | .exception => (.accessViolation, d)
      | .null => (.nt .insufficientResources, d)
      | .mapped =>
        let (userAddr, objects) := d.objects.acquire (.userMapping process) (some mdl)
        (.nt .success, { d with shmUserVirtAddr := some userAddr, objects := objects })

/-! ## Requests for kernel objects -/

/-- `VNVME_MAP_SHM_OUTPUT`, 24 bytes; the command event is always null. -/
structure MapShmOutput where
  userAddress : Option Nat
  actualSize : UInt32
  reserved : UInt32 := 0
  commandEventHandle : Option Nat := none
  deriving Repr, DecidableEq

structure MapShmReply where
  status : DeviceStatus
  bytesReturned : Nat := 0
  output : Option MapShmOutput := none
  deriving Repr, DecidableEq

/-- The unmapping of `VnvmeHandleMapShm`. -/
def unmapOldMapping (process : Nat) (d : BusDevice) : BusDevice :=
  if d.shmUserVirtAddr.isSome then vnvmeUnmapShmFromUser process d else d

/-- `VnvmeHandleMapShm` on a request of `process`. -/
def vnvmeHandleMapShm (process : Nat) (request : Ioctl Unit) (mdlAllocated : Bool)
    (outcome : MapOutcome) (d : BusDevice) : MapShmReply × BusDevice :=
  match d.fdo with
  | none => ({ status := .nt .deviceNotReady }, d)
  | some _ =>
    if request.outputBufferLength < 24 then ({ status := .nt .bufferTooSmall }, d)
    else if !request.outputStatus.ntSuccess then ({ status := .nt request.outputStatus }, d)
    else
      let r := vnvmeMapShmToUser process mdlAllocated outcome (unmapOldMapping process d)
      if !r.1.ntSuccess then ({ status := r.1 }, r.2)
      else
        ({ status := .nt .success
           bytesReturned := 24
           output := some
             { userAddress := r.2.shmUserVirtAddr, actualSize := r.2.shmSize.toUInt32 } },
          r.2)

/-- `VnvmeHandleUnmapShm` leaves the unmapping to the process. -/
def vnvmeHandleUnmapShm (d : BusDevice) : NtStatus × BusDevice :=
  match d.fdo with
  | none => (.deviceNotReady, d)
  | some _ => (.success, d)

/-- The answer to a request for the command event; the handle is null in polling mode. -/
structure CommandEventReply where
  status : NtStatus
  bytesReturned : Nat := 0
  eventHandle : Option Nat := none
  deriving Repr, DecidableEq

/-- `VnvmeHandleGetCommandEvent` on a request of `process`; `opened` is what
`ObOpenObjectByPointer` returns. -/
def vnvmeHandleGetCommandEvent (process : Nat) (request : Ioctl Unit) (opened : NtStatus)
    (d : BusDevice) : CommandEventReply × BusDevice :=
  match d.fdo with
  | none => ({ status := .deviceNotReady }, d)
  | some _ =>
    if request.outputBufferLength < 8 then ({ status := .bufferTooSmall }, d)
    else if !request.outputStatus.ntSuccess then ({ status := request.outputStatus }, d)
    else
      match d.userEventHandle with
      | some handle =>
        ({ status := .success, bytesReturned := 8, eventHandle := some handle }, d)
      | none =>
        if opened.ntSuccess then
          let (handle, objects) := d.objects.acquire (.eventHandle process) none
          ({ status := .success, bytesReturned := 8, eventHandle := some handle },
            { d with
              userEventHandle := some handle
              eventNotificationEnabled := true
              objects := objects })
        else ({ status := .success, bytesReturned := 8 }, d)

/-! ## PnP and power callbacks -/

/-- `VnvmeEvtDevicePrepareHardware` -/
def vnvmeEvtDevicePrepareHardware (allocated : Bool) (d : BusDevice) : NtStatus × BusDevice :=
  d.allocateShm allocated

/-- The first step of `VnvmeEvtDeviceReleaseHardware`. -/
def closeUserEvent (process : Nat) (d : BusDevice) : BusDevice :=
  match d.userEventHandle with
  | some handle =>
    { d with
      userEventHandle := none
      eventNotificationEnabled := false
      objects := d.objects.release (.eventHandle process) handle }
  | none => d

/-- `VnvmeEvtDeviceReleaseHardware` in the context of `process`. -/
def vnvmeEvtDeviceReleaseHardware (process : Nat) (d : BusDevice) : BusDevice :=
  vnvmeFreeShm process (closeUserEvent process d)

/-- `VnvmeEvtDeviceD0Exit`. It also waits, at most five seconds, for `UserReadyEvent`, which a
server that is ready has set. -/
def vnvmeEvtDeviceD0Exit (d : BusDevice) : BusDevice :=
  { d with
    shutdownRequested := true
    controlQueue := false
    shutdownEvent := true
    shmShutdownRequested := d.shmShutdownRequested || d.shmKernelVirtAddr.isSome }

/-- A process ends: the system takes back its mappings and its handles. -/
def BusDevice.processExit (process : Nat) (d : BusDevice) : BusDevice :=
  { d with objects := d.objects.reclaim (·.ofProcess process) }

end VirtualNvme
