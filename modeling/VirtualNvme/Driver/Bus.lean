import VirtualNvme.Driver.Context

/-!
# Controllers of the bus

Creation and deletion of controllers, `bus.c`. Both work on the list of controllers under its
lock. A creation holds the lock twice: to check the id and the number of controllers, and to put
the new controller into the list; in between it creates the device, which may fail. Each
function here is one of these critical sections, so that calls can be interleaved.
-/

namespace VirtualNvme

/-- `ChildDeviceList`, `ChildDeviceCount` and `MaxControllers` of `VNVME_FDO_CONTEXT`, and beside
them the ids of the creations that are between their critical sections. -/
structure ChildDevices where
  list : List PdoContext := []
  count : UInt32 := 0
  maxControllers : UInt32 := 16
  creating : List UInt32 := []

/-- The ids of the listed controllers. -/
def ChildDevices.ids (s : ChildDevices) : List UInt32 := s.list.map (·.controllerId)

/-- The first critical section of `VnvmeCreateVirtualController`: the status with which the call
ends here, or none if it goes on. -/
def createControllerCheck (controllerId : UInt32) (s : ChildDevices) :
    Option NtStatus × ChildDevices :=
  if s.list.any (·.controllerId = controllerId) then (some .objectNameCollision, s)
  else if s.count ≥ s.maxControllers then (some .insufficientResources, s)
  else (none, { s with count := s.count + 1, creating := s.creating ++ [controllerId] })

/-- The second critical section of `VnvmeCreateVirtualController`, of the `k`-th of the creations
under way, given what `VnvmeCreateControllerPdo` returned. -/
def createControllerFinish (k : Nat) (pdoStatus : NtStatus) (s : ChildDevices) :
    NtStatus × ChildDevices :=
  match s.creating[k]? with
  | none => (.success, s)
  | some controllerId =>
    let s := { s with creating := s.creating.eraseIdx k }
    if !pdoStatus.ntSuccess then (pdoStatus, { s with count := s.count - 1 })
    else (.success, { s with list := s.list ++ [{ controllerId := controllerId }] })

/-- `VnvmeCreateVirtualController`, when nothing happens in between. -/
def vnvmeCreateVirtualController (controllerId : UInt32) (pdoStatus : NtStatus)
    (s : ChildDevices) : NtStatus × ChildDevices :=
  match createControllerCheck controllerId s with
  | (some status, s) => (status, s)
  | (none, s) => createControllerFinish (s.creating.length - 1) pdoStatus s

/-- `VnvmeDeleteVirtualController` -/
def vnvmeDeleteVirtualController (controllerId : UInt32) (s : ChildDevices) :
    NtStatus × ChildDevices :=
  if s.list.any (·.controllerId = controllerId) then
    (.success, { s with
      list := s.list.eraseP (·.controllerId = controllerId)
      count := s.count - 1 })
  else (.notFound, s)

end VirtualNvme
