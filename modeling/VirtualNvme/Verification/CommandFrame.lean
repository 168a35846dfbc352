import VirtualNvme.Driver.AdminCmd
import VirtualNvme.Verification.CompletionQueue

/-!
# What a command in the kernel does to the queues

A handler works on the controller, the namespaces and host memory. The shared memory is
reached in one place only, the completion it posts at the end: an I/O command posts one
to the completion queue with its own queue id, an admin command at most one to queue 0.
-/

namespace VirtualNvme

/-- `PostIoCompletion` for a queue whose completion queue has been created. -/
theorem postIoCompletion_posts {d : Driver} {q : UInt16} (hq : q ≠ 0) (hle : q ≤ 16)
    (hcreated : (d.pdo.cq q.toNat).created = true) (cid : UInt16) (sct sc : UInt8) :
    ∃ c : NvmeCompletion, c.cid = cid ∧ c.sqid = q ∧
      postIoCompletion d q cid sct sc = vnvmePostCompletion d q c :=
  ⟨_, rfl, rfl, (if_neg hq).trans (if_pos ⟨hle, hcreated⟩)⟩

/-- `PostIoCompletion` is refused, or it is one `VnvmePostCompletion` for the command. -/
theorem postIoCompletion_cases (d : Driver) (q cid : UInt16) (sct sc : UInt8) :
    ((postIoCompletion d q cid sct sc).1 ≠ .success ∧
        (postIoCompletion d q cid sct sc).2 = d) ∨
      ∃ c : NvmeCompletion, c.cid = cid ∧ c.sqid = q ∧
        postIoCompletion d q cid sct sc = vnvmePostCompletion d q c := by
  by_cases hq : q = 0
  · exact Or.inr ⟨_, rfl, rfl, if_pos hq⟩
  · by_cases hcq : q ≤ 16 ∧ (d.pdo.cq q.toNat).created = true
    · exact Or.inr (postIoCompletion_posts hq hcq.1 hcq.2 cid sct sc)
    · have h : postIoCompletion d q cid sct sc = (.invalidParameter, d) :=
        (if_neg hq).trans (if_neg hcq)
      rw [h]
      exact Or.inl ⟨NtStatus.noConfusion, rfl⟩

/-- The driver in which the completion of an I/O command is posted. -/
def ioHandled (d : Driver) (cmd : NvmeCommand) : Driver :=
  let r := handleIoCommand d.pdo.toMedia d.os cmd
  { d with pdo := { d.pdo with toMedia := r.media }, os := r.os }

theorem vnvmeProcessIoCommand_eq (d : Driver) (q : UInt16) (cmd : NvmeCommand) :
    ∃ sct sc, vnvmeProcessIoCommand d q cmd =
      postIoCompletion (ioHandled d cmd) q cmd.cid sct sc := ⟨_, _, rfl⟩

/-- The driver in which the completion of an admin command is posted. -/
def adminHandled (d : Driver) (cmd : NvmeCommand) : Driver :=
  let r := handleAdminCommand d.config d.pdo d.os cmd
  { d with pdo := r.pdo, os := r.os }

/-- An admin command posts nothing, or one completion to the admin queue. -/
theorem vnvmeProcessAdminCommand_shm (d : Driver) (cmd : NvmeCommand) :
    (vnvmeProcessAdminCommand d cmd).2.shm = d.shm ∨
      ∃ c : NvmeCompletion, (vnvmeProcessAdminCommand d cmd).2.shm =
        (vnvmePostCompletion (adminHandled d cmd) 0 c).2.shm := by
  have hshm : (vnvmeProcessAdminCommand d cmd).2.shm = (postAdminOutcome (adminHandled d cmd)
      cmd.cid (handleAdminCommand d.config d.pdo d.os cmd).completion).2.shm := rfl
  rw [hshm]
  cases (handleAdminCommand d.config d.pdo d.os cmd).completion with
  | none => exact Or.inl rfl
  | some c => exact Or.inr ⟨_, rfl⟩

/-! ## What a completion keeps, a command keeps -/

section Kept

variable {α : Type} {F : Shm → α}
  (hpost : ∀ d q c, (vnvmePostCompletion d q c).2.shm.map F = d.shm.map F)

include hpost

theorem vnvmeProcessIoCommand_kept (d : Driver) (q : UInt16) (cmd : NvmeCommand) :
    (vnvmeProcessIoCommand d q cmd).2.shm.map F = d.shm.map F := by
  obtain ⟨sct, sc, heq⟩ := vnvmeProcessIoCommand_eq d q cmd
  rw [heq]
  rcases postIoCompletion_cases (ioHandled d cmd) q cmd.cid sct sc with
    ⟨_, hd⟩ | ⟨c, _, _, hd⟩
  · rw [hd]
    rfl
  · rw [hd]
    exact hpost _ q c

theorem vnvmeProcessAdminCommand_kept (d : Driver) (cmd : NvmeCommand) :
    (vnvmeProcessAdminCommand d cmd).2.shm.map F = d.shm.map F := by
  rcases vnvmeProcessAdminCommand_shm d cmd with hd | ⟨c, hd⟩
  · rw [hd]
  · rw [hd]
    exact hpost _ 0 c

end Kept

theorem vnvmePostCompletion_sq (d : Driver) (q : UInt16) (c : NvmeCompletion) :
    (vnvmePostCompletion d q c).2.shm.map Shm.sq = d.shm.map Shm.sq := by
  rcases vnvmePostCompletion_cases d q c with ⟨_, hd⟩ | ⟨shm, hok, hd⟩
  · rw [hd]
  · rw [hd, (cqCheck_ok_iff.mp hok).1]
    rfl

end VirtualNvme
