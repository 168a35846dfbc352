import VirtualNvme.Driver.AdminCmd
import VirtualNvme.Driver.UserForward

/-!
# The doorbell poller

`VnvmeProcessDoorbells` of `doorbell.c`: it reacts to the host's writes to the enable bit
and to the doorbells, and hands new submission tails to the kernel handlers or to the
server. In kernel mode a tail starts a loop over a queue, so the poller takes fuel. The
polling timer calls `CheckUserModeHeartbeat` first, which switches to kernel mode when the
server has gone silent.
-/

namespace VirtualNvme

/-- Bit 0 of a register, `EN` of `CC` and `RDY` of `CSTS`. -/
def bit0 (r : UInt32) : Bool := r &&& 1 ≠ 0

/-- Step 1 of `VnvmeProcessDoorbells`: a change of `CC`. -/
def processCc (d : Driver) (regs : Bar0) : Bool × Driver :=
  if regs.cc = d.pdo.cachedCC then (false, d)
  else
    let pdo :=
      if bit0 regs.cc ∧ !bit0 d.pdo.cachedCC then
        { (vnvmeInitializeAdminQueues d.pdo).2 with bar0 := some { regs with csts := 1 } }
      else if !bit0 regs.cc ∧ bit0 d.pdo.cachedCC then
        { d.pdo with bar0 := some { regs with csts := 0 } }
      else d.pdo
    (true, { d with pdo := { pdo with cachedCC := regs.cc } })

/-- Hand a new admin tail over. -/
def dispatchAdminTail (fuel : Nat) (d : Driver) (sqTail : UInt32) : Option Driver :=
  match d.fdo.commandMode with
  | .kernel => vnvmeProcessAdminCommands fuel d sqTail
  | .user => some (vnvmeForwardAdminCommandsToUser d sqTail)

/-- Hand a new tail of an I/O queue over. -/
def dispatchIoTail (fuel : Nat) (d : Driver) (qid : UInt16) (sqTail : UInt32) : Option Driver :=
  match d.fdo.commandMode with
  | .kernel => vnvmeProcessIoCommands fuel d qid sqTail
  | .user => some (vnvmeForwardIoCommandsToUser d qid sqTail)

/-- Step 3: the admin queue. The tail is recorded whatever became of it. -/
def processAdminDoorbells (fuel : Nat) (regs : Bar0) (hadWork : Bool) (d : Driver) :
    Option (Bool × Driver) :=
  let sqTail := regs.doorbells 0 &&& 0xFFFF
  let served : Option (Bool × Driver) :=
    if sqTail = d.pdo.lastAdminSqTail then some (hadWork, d)
    else
      (dispatchAdminTail fuel d sqTail).map fun d =>
        (true, { d with pdo := { d.pdo with lastAdminSqTail := sqTail } })
  served.map fun r =>
    (r.1, { r.2 with
      pdo := { r.2.pdo with lastAdminCqHead := regs.doorbells 1 &&& 0xFFFF } })

/-- One round of step 4: I/O queue `i + 1`. -/
def processIoDoorbells (fuel : Nat) (regs : Bar0) (r : Bool × Driver) (i : Nat) :
    Option (Bool × Driver) :=
  let q := i + 1
  if !(r.2.pdo.sq q).created then some r
  else
    let sqTail := regs.doorbells (2 * q) &&& 0xFFFF
    let served : Option (Bool × Driver) :=
      if sqTail = (r.2.pdo.sq q).tail then some r
      else
        (dispatchIoTail fuel r.2 (UInt16.ofNat q) sqTail).map fun d =>
          (true, { d with pdo := d.pdo.setSq q { d.pdo.sq q with tail := sqTail } })
    let cqHead := regs.doorbells (2 * q + 1) &&& 0xFFFF
    served.map fun r =>
      (r.1, { r.2 with pdo := r.2.pdo.setCq q { r.2.pdo.cq q with head := cqHead } })

/-- `VnvmeProcessDoorbells`; the result says whether there was work. -/
def vnvmeProcessDoorbells (fuel : Nat) (d : Driver) : Option (Bool × Driver) :=
  match d.pdo.bar0 with
  | none => some (false, d)
  | some regs =>
    let r := processCc d regs
    let regs := r.2.pdo.bar0.getD regs
    if !(bit0 regs.cc && bit0 regs.csts) then some r
    else
      (processAdminDoorbells fuel regs r.1 r.2).bind fun r =>
        (List.range r.2.pdo.ioQueueCount.toNat).foldlM (processIoDoorbells fuel regs) r

/-- `CheckUserModeHeartbeat` at the time `now`, on a bus with this controller: if the server has
gone silent, its pending commands are aborted and the kernel takes over. -/
def checkUserModeHeartbeat (fuel : Nat) (now : Int) (d : Driver) : Option Driver :=
  if !d.fdo.userReady || d.fdo.userCrashed then some d
  else if now - d.fdo.lastHeartbeat > d.config.heartbeatTimeout100ns then
    let crashed := { d with fdo := { d.fdo with userCrashed := true, userReady := false } }
    (vnvmeAbortPendingUserCommands fuel crashed).map fun r =>
      { r.2 with fdo := { r.2.fdo with commandMode := .kernel } }
  else some d

end VirtualNvme
