import Mathlib.Data.List.Nodup
import VirtualNvme.Runs
import VirtualNvme.Driver.Bus

/-!
# The list of controllers under concurrent calls

Calls of `VnvmeCreateVirtualController` and `VnvmeDeleteVirtualController` in any interleaving
of their critical sections. The count is raised in the first section of a creation, so it is
right at every moment. The id is checked there too, but it gets into the list only in the
second section, and two creations with one id can both be past the check.
-/

namespace VirtualNvme

open Runs

/-- A critical section of one of the calls. -/
inductive ChildDeviceStep where
  | check (controllerId : UInt32)
  | finish (k : Nat) (pdoStatus : NtStatus)
  | delete (controllerId : UInt32)

def childDeviceStep (s : ChildDevices) : ChildDeviceStep → ChildDevices
  | .check controllerId => (createControllerCheck controllerId s).2
  | .finish k pdoStatus => (createControllerFinish k pdoStatus s).2
  | .delete controllerId => (vnvmeDeleteVirtualController controllerId s).2

/-- A call that nothing interrupts is its two sections in a row. -/
theorem vnvmeCreateVirtualController_eq_run (controllerId : UInt32) (pdoStatus : NtStatus)
    (s : ChildDevices) :
    (vnvmeCreateVirtualController controllerId pdoStatus s).2 =
      run childDeviceStep s
        (.check controllerId ::
          if (createControllerCheck controllerId s).1.isNone then
            [.finish s.creating.length pdoStatus]
          else []) := by
  cases hcheck : createControllerCheck controllerId s with
  | mk ended s' =>
      cases ended with
      | some status => simp [vnvmeCreateVirtualController, run, childDeviceStep, hcheck]
      | none =>
          have hcreating : s'.creating.length - 1 = s.creating.length := by
            unfold createControllerCheck at hcheck
            split_ifs at hcheck
            · cases congrArg Prod.fst hcheck
            · cases congrArg Prod.fst hcheck
            · obtain rfl : _ = s' := congrArg Prod.snd hcheck
              simp
          simp [vnvmeCreateVirtualController, run, childDeviceStep, hcheck, hcreating]

/-! ## The count -/

/-- The count is that of the listed controllers and the creations under way, and within the
limit. -/
structure Counted (s : ChildDevices) : Prop where
  count : s.count.toNat = s.list.length + s.creating.length
  le_max : s.count ≤ s.maxControllers

theorem Counted.check {s : ChildDevices} (h : Counted s) (controllerId : UInt32) :
    Counted (createControllerCheck controllerId s).2 := by
  unfold createControllerCheck
  split_ifs with hexists hfull
  · exact h
  · exact h
  -- below the limit, so raising the count does not wrap
  · have hlt : s.count.toNat < s.maxControllers.toNat :=
      UInt32.lt_iff_toNat_lt.mp (UInt32.not_le.mp hfull)
    have hmax := s.maxControllers.toNat_lt
    have hadd : (s.count + 1).toNat = s.count.toNat + 1 := by
      rw [UInt32.toNat_add]
      exact Nat.mod_eq_of_lt (Nat.lt_of_le_of_lt hlt hmax)
    constructor
    · change (s.count + 1).toNat = s.list.length + (s.creating ++ [controllerId]).length
      rw [hadd, h.count, List.length_append, List.length_singleton, Nat.add_assoc]
    · exact UInt32.le_iff_toNat_le.mpr (hadd ▸ hlt)

/-- A count that is not zero, lowered. -/
theorem Counted.pred {s : ChildDevices} (h : Counted s) (hpos : 0 < s.count.toNat) :
    (s.count - 1).toNat + 1 = s.count.toNat ∧ s.count - 1 ≤ s.maxControllers := by
  have hone : (1 : UInt32) ≤ s.count := UInt32.le_iff_toNat_le.mpr hpos
  have hsub : (s.count - 1).toNat = s.count.toNat - 1 := UInt32.toNat_sub_of_le _ _ hone
  refine ⟨by rw [hsub]; exact Nat.sub_add_cancel hpos, ?_⟩
  refine UInt32.le_trans (UInt32.le_iff_toNat_le.mpr ?_) h.le_max
  rw [hsub]
  exact Nat.sub_le _ _

theorem Counted.finish {s : ChildDevices} (h : Counted s) (k : Nat) (pdoStatus : NtStatus) :
    Counted (createControllerFinish k pdoStatus s).2 := by
  unfold createControllerFinish
  cases hk : s.creating[k]? with
  | none => exact h
  | some controllerId =>
      -- one creation fewer is under way: its place in the count is given back or goes to the list
      obtain ⟨hlt, -⟩ := List.getElem?_eq_some_iff.mp hk
      have herase := List.length_eraseIdx_add_one hlt
      have hcount := h.count
      dsimp only
      split_ifs
      · obtain ⟨hpred, hle⟩ := h.pred (by omega)
        refine ⟨?_, hle⟩
        dsimp only
        omega
      · refine ⟨?_, h.le_max⟩
        dsimp only
        rw [List.length_append, List.length_singleton]
        omega

theorem Counted.delete {s : ChildDevices} (h : Counted s) (controllerId : UInt32) :
    Counted (vnvmeDeleteVirtualController controllerId s).2 := by
  unfold vnvmeDeleteVirtualController
  split_ifs with hexists
  · obtain ⟨pdo, hmem, hid⟩ := List.any_eq_true.mp hexists
    have hlength : (s.list.eraseP (·.controllerId = controllerId)).length = s.list.length - 1 :=
      List.length_eraseP_of_mem (p := (·.controllerId = controllerId)) hmem hid
    have hpos := List.length_pos_of_mem hmem
    have hcount := h.count
    obtain ⟨hpred, hle⟩ := h.pred (by omega)
    refine ⟨?_, hle⟩
    dsimp only
    omega
  · exact h

theorem Counted.step {s : ChildDevices} (h : Counted s) (e : ChildDeviceStep) :
    Counted (childDeviceStep s e) := by
  cases e with
  | check controllerId => exact h.check controllerId
  | finish k pdoStatus => exact h.finish k pdoStatus
  | delete controllerId => exact h.delete controllerId

/-- The count is right throughout every run, whatever the ids. -/
theorem childDevices_counted (maxControllers : UInt32) (es : List ChildDeviceStep) :
    Throughout childDeviceStep Counted { maxControllers } es := by
  intro pre post _
  exact run_induct (fun s e h => h.step e) ⟨rfl, UInt32.zero_le⟩ pre

/-! ## The ids -/

/-- What the list of controllers is meant to be. -/
structure ListedOnce (s : ChildDevices) : Prop extends Counted s where
  distinct : s.ids.Nodup

/-- A creation comes to its end only while no listed controller has its id. -/
def FinishesFresh (s : ChildDevices) : ChildDeviceStep → Prop
  | .finish k pdoStatus =>
    pdoStatus.ntSuccess → ∀ controllerId ∈ s.creating[k]?, controllerId ∉ s.ids
  | _ => True

theorem createControllerFinish_ids (k : Nat) {pdoStatus : NtStatus} (hok : pdoStatus.ntSuccess)
    (s : ChildDevices) :
    (createControllerFinish k pdoStatus s).2.ids = s.ids ++ s.creating[k]?.toList := by
  unfold createControllerFinish
  cases s.creating[k]? with
  | none => simp
  | some controllerId => simp [hok, ChildDevices.ids]

theorem createControllerFinish_ids_failed (k : Nat) {pdoStatus : NtStatus}
    (hfail : ¬ pdoStatus.ntSuccess) (s : ChildDevices) :
    (createControllerFinish k pdoStatus s).2.ids = s.ids := by
  unfold createControllerFinish
  cases s.creating[k]? with
  | none => rfl
  | some controllerId => simp [hfail, ChildDevices.ids]

theorem vnvmeDeleteVirtualController_ids (controllerId : UInt32) (s : ChildDevices) :
    ((vnvmeDeleteVirtualController controllerId s).2.ids).Sublist s.ids := by
  unfold vnvmeDeleteVirtualController
  split_ifs
  · exact List.eraseP_sublist.map _
  · exact List.Sublist.refl _

/-- One step keeps the ids distinct exactly if it is no creation that ends with a listed id. -/
theorem childDeviceStep_distinct_iff {s : ChildDevices} (h : s.ids.Nodup) (e : ChildDeviceStep) :
    (childDeviceStep s e).ids.Nodup ↔ FinishesFresh s e := by
  cases e with
  | check controllerId =>
      refine iff_of_true ?_ trivial
      change (createControllerCheck controllerId s).2.ids.Nodup
      unfold createControllerCheck
      split_ifs <;> exact h
  | delete controllerId =>
      exact iff_of_true (h.sublist (vnvmeDeleteVirtualController_ids controllerId s)) trivial
  | finish k pdoStatus =>
      by_cases hok : pdoStatus.ntSuccess
      -- the id goes to the end of the list, where nothing looks for it first
      · simp only [childDeviceStep, FinishesFresh, hok, true_imp_iff,
          createControllerFinish_ids k hok]
        cases s.creating[k]? with
        | none => simp [h]
        | some controllerId =>
            simp only [Option.toList_some, List.nodup_append_comm, List.singleton_append,
              List.nodup_cons, h, and_true, Option.mem_some_iff, forall_eq']
      · refine iff_of_true ?_ fun hp => absurd hp hok
        change (createControllerFinish k pdoStatus s).2.ids.Nodup
        rwa [createControllerFinish_ids_failed k hok]

/-- In a run of interleaved calls on an empty bus the count is right, it keeps to the limit and
all listed ids differ, exactly if no creation puts its controller into a list that has its id
already. -/
theorem controllerList_iff (maxControllers : UInt32) (es : List ChildDeviceStep) :
    Throughout childDeviceStep ListedOnce { maxControllers } es ↔
      EachStep childDeviceStep FinishesFresh { maxControllers } es := by
  refine throughout_iff (fun _ h => h) (fun s e h hgood => ?_) (fun s e h hbad hlisted => ?_)
    (⟨⟨rfl, UInt32.zero_le⟩, List.nodup_nil⟩ : ListedOnce { maxControllers }) es
  · exact ⟨h.toCounted.step e, (childDeviceStep_distinct_iff h.distinct e).mpr hgood⟩
  · exact hbad ((childDeviceStep_distinct_iff h.distinct e).mp hlisted.distinct)

/-- Two creations with one id, both past the check before the first one ends. -/
theorem two_creations_one_id :
    ¬ Throughout childDeviceStep ListedOnce {}
      [.check 1, .check 1, .finish 0 .success, .finish 0 .success] := by
  intro h
  have hlisted := h [.check 1, .check 1, .finish 0 .success, .finish 0 .success] [] rfl
  exact absurd hlisted.distinct (by decide)

end VirtualNvme
