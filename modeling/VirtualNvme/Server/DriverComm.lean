import VirtualNvme.Driver.CtrlDev

/-!
# The server's messages to the driver

`DriverSendUserReady` and `DriverSendHeartbeat` of `driver_comm.c`. Both call
`DeviceIoControl` without any buffer, so what the driver's handlers see are two lengths of 0.
-/

namespace VirtualNvme

/-- The request of `DeviceIoControl(handle, code, NULL, 0, NULL, 0, ...)`. The framework finds
no buffer to retrieve in it. -/
def emptyRequest {α : Type} (input : α) : Ioctl α :=
  { inputBufferLength := 0
    outputBufferLength := 0
    inputStatus := .bufferTooSmall
    outputStatus := .bufferTooSmall
    input := input }

/-- `DRIVER_COMM_CONTEXT`: whether the device handle is a valid one. -/
structure DriverCommContext where
  deviceHandle : Bool := true

/-- `DriverSendUserReady` at the time `now`. -/
def driverSendUserReady (ctx : DriverCommContext) (now : Int) (b : Bus) : Bool × Bus :=
  if !ctx.deviceHandle then (false, b)
  else
    let r := vnvmeHandleUserReady now (emptyRequest {}) b
    (r.1.ntSuccess, r.2)

/-- `DriverSendHeartbeat` at the time `now`. -/
def driverSendHeartbeat (ctx : DriverCommContext) (now : Int) (b : Bus) : Bool × Bus :=
  if !ctx.deviceHandle then (false, b)
  else
    let r := vnvmeHandleHeartbeat now (emptyRequest {}) b
    (r.1.status.ntSuccess, r.2)

end VirtualNvme
