import VirtualNvme.Driver.CtrlDev
import VirtualNvme.Driver.Namespace

/-!
# The namespace requests of the control device

`IOCTL_VNVME_CREATE_NAMESPACE` and `IOCTL_VNVME_DELETE_NAMESPACE` from the request on: its
buffers are checked, the controller is looked up, and the request goes to the namespace table of
that controller.
-/

namespace VirtualNvme

/-- `VNVME_CREATE_NAMESPACE_INPUT`, 284 bytes; the id and the path of the configuration are
not read. -/
structure CreateNamespaceInput where
  controllerId : UInt32
  config : NamespaceConfig
  deriving Repr, DecidableEq

/-- `VNVME_CREATE_NAMESPACE_OUTPUT`, 8 bytes. -/
structure CreateNamespaceOutput where
  nsid : UInt32
  reserved : UInt32 := 0
  deriving Repr, DecidableEq

/-- `VNVME_DELETE_NAMESPACE_INPUT`, 8 bytes. -/
structure DeleteNamespaceInput where
  controllerId : UInt32
  nsid : UInt32
  deriving Repr, DecidableEq

/-- The answer to a request to create a namespace. -/
structure CreateNamespaceReply where
  status : NtStatus
  bytesReturned : Nat := 0
  output : Option CreateNamespaceOutput := none

/-- `CtrlDevFindController`: the place of the first controller with the id. -/
def ctrlDevFindController (b : Bus) (controllerId : UInt32) : Option Nat :=
  b.controllers.findIdx? (·.controllerId = controllerId)

/-- The namespace table of the controller at place `k`. -/
def Bus.media (b : Bus) (k : Nat) : Media := (b.controllers.getD k {}).toMedia

def Bus.setMedia (b : Bus) (k : Nat) (m : Media) : Bus :=
  { b with controllers := b.controllers.modify k fun pdo => { pdo with toMedia := m } }

/-- `VnvmeHandleCreateNamespace`, the whole handler. -/
def handleCreateNamespaceRequest (request : Ioctl CreateNamespaceInput) (b : Bus) :
    CreateNamespaceReply × Bus :=
  match b.fdo with
  | none => ({ status := .deviceNotReady }, b)
  | some _ =>
    if request.inputBufferLength < 284 then ({ status := .bufferTooSmall }, b)
    else if request.outputBufferLength < 8 then ({ status := .bufferTooSmall }, b)
    else if !request.inputStatus.ntSuccess then ({ status := request.inputStatus }, b)
    else if !request.outputStatus.ntSuccess then ({ status := request.outputStatus }, b)
    else
      match ctrlDevFindController b request.input.controllerId with
      | none => ({ status := .notFound }, b)
      | some k =>
        let (status, nsid, m, os) :=
          vnvmeHandleCreateNamespace b.config (b.media k) b.os request.input.config
        let b := { b.setMedia k m with os := os }
        if status.ntSuccess then
          ({ status := status, bytesReturned := 8, output := some { nsid := nsid } }, b)
        else ({ status := status }, b)

/-- `VnvmeHandleDeleteNamespace`, the whole handler. -/
def handleDeleteNamespaceRequest (request : Ioctl DeleteNamespaceInput) (b : Bus) :
    NtStatus × Bus :=
  match b.fdo with
  | none => (.deviceNotReady, b)
  | some _ =>
    if request.inputBufferLength < 8 then (.bufferTooSmall, b)
    else if !request.inputStatus.ntSuccess then (request.inputStatus, b)
    else
      match ctrlDevFindController b request.input.controllerId with
      | none => (.notFound, b)
      | some k =>
        let (status, m) := vnvmeHandleDeleteNamespace (b.media k) request.input.nsid
        (status, b.setMedia k m)

end VirtualNvme
