import VirtualNvme.Tallies
import VirtualNvme.Verification.BusRequests

/-!
# What the control device reports about the bus

The four reports, `LIST_CONTROLLERS`, `LIST_NAMESPACES`, `GET_STATUS` and `GET_STATS`, each
count on their own: from the list of controllers, from a controller's `NamespaceCount`, from
the flags of its slots. Over any run they agree with the list of controllers and with each
other.
-/

namespace VirtualNvme

open Runs Tallies

/-! ## The active namespaces -/

/-- The active namespaces of a table, in the order of their slots. -/
def Media.active (m : Media) : List Namespace :=
  ((List.range 16).filter fun i => (m.namespaces i).active).map m.namespaces

theorem length_active (m : Media) : m.active.length = m.activeSlots.card := by
  have hnodup : ((List.range 16).filter fun i => (m.namespaces i).active).Nodup :=
    List.nodup_range.filter _
  have hslots : m.activeSlots =
      ((List.range 16).filter fun i => (m.namespaces i).active).toFinset := by
    ext i
    simp [mem_activeSlots]
  rw [Media.active, List.length_map, hslots, List.toFinset_card_of_nodup hnodup]

theorem length_active_le (m : Media) : m.active.length ≤ 16 := by
  rw [length_active]
  exact card_activeSlots_le m

theorem consistent_of_mem_active {m : Media} (h : m.Consistent) {ns : Namespace}
    (hns : ns ∈ m.active) : ∃ i, i < 16 ∧ ns.Consistent i := by
  obtain ⟨i, hi, rfl⟩ := List.mem_map.mp hns
  obtain ⟨hrange, hactive⟩ := List.mem_filter.mp hi
  have hlt : i < 16 := List.mem_range.mp hrange
  exact ⟨i, hlt, h.slots i (mem_activeSlots.mpr ⟨hlt, hactive⟩)⟩

/-- The ids of the active namespaces come in order. -/
theorem active_nsIds {m : Media} (h : m.Consistent) :
    (m.active.map (·.nsId)).Pairwise (· < ·) := by
  rw [Media.active, List.map_map, List.pairwise_map]
  have hsorted : ((List.range 16).filter fun i => (m.namespaces i).active).Pairwise (· < ·) :=
    List.pairwise_lt_range.filter _
  refine hsorted.imp_of_mem fun hi hj hlt => ?_
  have hslot : ∀ i ∈ (List.range 16).filter fun i => (m.namespaces i).active,
      (m.namespaces i).nsId.toNat = i + 1 := by
    intro i hi
    obtain ⟨hrange, hactive⟩ := List.mem_filter.mp hi
    exact (h.slots i (mem_activeSlots.mpr ⟨List.mem_range.mp hrange, hactive⟩)).nsId
  show (m.namespaces _).nsId < (m.namespaces _).nsId
  rw [UInt32.lt_iff_toNat_lt, hslot _ hi, hslot _ hj]
  exact Nat.succ_lt_succ hlt

/-! ## The loops of the handlers -/

section Loops

variable (m : Media)

/-- `VnvmeHandleListNamespaces` lists them all. -/
theorem listNamespacesLoop_eq : listNamespacesLoop m = m.active.map namespaceInfo := by
  rw [listNamespacesLoop, Media.active, List.map_map]
  induction List.range 16 with
  | nil => rfl
  | cons i is ih =>
      cases hactive : (m.namespaces i).active with
      | false =>
          rw [List.filterMap_cons_none (by simp [hactive]),
            List.filter_cons_of_neg (by simp [hactive]), ih]
      | true =>
          rw [List.filterMap_cons_some (by simp [hactive]; rfl),
            List.filter_cons_of_pos (by simp [hactive]), List.map_cons, ih]
          rfl

/-- `VnvmeHandleGetStatus` counts the same ones. -/
theorem countActive_toNat (n : UInt32) (pdo : PdoContext)
    (h : n.toNat + pdo.toMedia.active.length < 2 ^ 32) :
    (countActive n pdo).toNat = n.toNat + pdo.toMedia.active.length := by
  have hsum : ((((List.range 16).filter fun i => (pdo.namespaces i).active).map
      fun _ => 1).sum) = pdo.toMedia.active.length := by
    simp [Media.active]
  rw [countActive, ← List.foldl_filter, ← hsum]
  rw [← hsum] at h
  have hadd : ∀ a : UInt32, ∀ i ∈ (List.range 16).filter fun i => (pdo.namespaces i).active,
      a.toNat + 1 < 2 ^ 32 → (a + 1).toNat = a.toNat + 1 := by
    intro a i _ hlt
    rw [UInt32.toNat_add]
    exact Nat.mod_eq_of_lt hlt
  exact foldl_toNat hadd n h

/-- The capacity of a namespace over the naturals. -/
def Namespace.capacity (ns : Namespace) : Nat := ns.totalBlocks.toNat * ns.blockSize.toNat

theorem Namespace.Consistent.capacity_le {ns : Namespace} {i : Nat} (h : ns.Consistent i) :
    ns.capacity ≤ 2 ^ 44 := by
  rw [Namespace.capacity, ← h.totalBytes]
  exact h.capacity.trans (by decide)

theorem sum_capacity_le (h : m.Consistent) :
    (m.active.map (·.capacity)).sum ≤ 16 * 2 ^ 44 := by
  have hle := sum_map_le Namespace.capacity (2 ^ 44) m.active fun ns hns => by
    obtain ⟨i, -, hcons⟩ := consistent_of_mem_active h hns
    exact hcons.capacity_le
  exact hle.trans (Nat.mul_le_mul_right _ (length_active_le m))

/-- The capacity that `VnvmeHandleListControllers` adds up. -/
theorem totalCapacity_toNat (pdo : PdoContext) (h : pdo.toMedia.Consistent) :
    (totalCapacity pdo).toNat = (pdo.toMedia.active.map (·.capacity)).sum := by
  have hsum : (((List.range 16).filter fun i => (pdo.namespaces i).active).map
      fun i => (pdo.namespaces i).capacity).sum = (pdo.toMedia.active.map (·.capacity)).sum := by
    rw [Media.active, List.map_map]
    rfl
  have hadd : ∀ a : UInt64, ∀ i ∈ (List.range 16).filter fun i => (pdo.namespaces i).active,
      a.toNat + (pdo.namespaces i).capacity < 2 ^ 64 →
        (a + (pdo.namespaces i).totalBlocks * (pdo.namespaces i).blockSize.toUInt64).toNat =
          a.toNat + (pdo.namespaces i).capacity := by
    intro a i hi hlt
    have hmul : ((pdo.namespaces i).totalBlocks *
        (pdo.namespaces i).blockSize.toUInt64).toNat = (pdo.namespaces i).capacity := by
      rw [UInt64.toNat_mul, UInt32.toNat_toUInt64]
      refine Nat.mod_eq_of_lt (Nat.lt_of_le_of_lt ?_ hlt)
      exact Nat.le_add_left _ _
    rw [UInt64.toNat_add, hmul]
    exact Nat.mod_eq_of_lt hlt
  rw [totalCapacity, ← List.foldl_filter, ← hsum]
  refine (foldl_toNat hadd 0 ?_).trans (Nat.zero_add _)
  rw [hsum]
  have hbound := sum_capacity_le pdo.toMedia h
  show 0 + _ < 2 ^ 64
  omega

/-- `NamespaceCount` is the number of them. -/
theorem namespaceCount_toNat (h : m.Consistent) :
    m.namespaceCount.toUInt32.toNat = m.active.length := by
  rw [UInt16.toNat_toUInt32, h.count, length_active]

/-- `VnvmeHandleListControllers` has room for sixteen. -/
theorem listControllersLoop_eq (index : Nat) (ps : List PdoContext) :
    listControllersLoop index ps = (ps.take (16 - index)).map controllerInfo := by
  induction ps generalizing index with
  | nil => rw [listControllersLoop, List.take_nil, List.map_nil]
  | cons pdo ps ih =>
      rw [listControllersLoop]
      split_ifs with hlt
      · have hsucc : 16 - index = 16 - (index + 1) + 1 := by omega
        rw [ih, hsucc, List.take_succ_cons, List.map_cons]
      · have hzero : 16 - index = 0 := by omega
        rw [hzero, List.take_zero, List.map_nil]

/-- The arrays of the statistics and their lengths. -/
structure StatsFilled (output : GetStatsOutput) : Prop where
  controllers_le : output.controllers.length ≤ 8
  namespaces_le : output.namespaces.length ≤ 16
  count : output.totalNamespaceCount.toNat = output.namespaces.length

/-- The slots of one controller, as `VnvmeHandleGetStats` collects them. -/
theorem collectNamespace_foldl (is : List Nat) (output : GetStatsOutput)
    (h : StatsFilled output) :
    StatsFilled (is.foldl (collectNamespace m) output) ∧
      (is.foldl (collectNamespace m) output).controllers = output.controllers ∧
      (is.foldl (collectNamespace m) output).namespaces =
        is.foldl (fun acc i => if acc.length < 16 ∧ (m.namespaces i).active = true then
          acc ++ [namespaceStats (m.namespaces i)] else acc) output.namespaces := by
  induction is generalizing output with
  | nil => exact ⟨h, rfl, rfl⟩
  | cons i is ih =>
      rw [List.foldl_cons, List.foldl_cons]
      by_cases hroom : output.namespaces.length < 16 ∧ (m.namespaces i).active = true
      · have hone : collectNamespace m output i = { output with
            namespaces := output.namespaces ++ [namespaceStats (m.namespaces i)]
            totalNamespaceCount := output.totalNamespaceCount + 1 } := if_pos hroom
        have hlength : (output.namespaces ++ [namespaceStats (m.namespaces i)]).length =
            output.namespaces.length + 1 := by
          rw [List.length_append, List.length_singleton]
        have hcount : (output.totalNamespaceCount + 1).toNat =
            output.totalNamespaceCount.toNat + 1 := by
          have hcount := h.count
          rw [UInt32.toNat_add]
          exact Nat.mod_eq_of_lt (show output.totalNamespaceCount.toNat + 1 < 2 ^ 32 by omega)
        rw [hone, if_pos hroom]
        refine ih _ ⟨h.controllers_le, ?_, ?_⟩
        · show (output.namespaces ++ [namespaceStats (m.namespaces i)]).length ≤ 16
          rw [hlength]
          exact hroom.1
        · show (output.totalNamespaceCount + 1).toNat =
            (output.namespaces ++ [namespaceStats (m.namespaces i)]).length
          rw [hlength, hcount, h.count]
      · have hnone : collectNamespace m output i = output := if_neg hroom
        rw [hnone, if_neg hroom]
        exact ih output h

/-- The controllers asked for, 0 for all. -/
def asked (targetControllerId : UInt32) (ps : List PdoContext) : List PdoContext :=
  ps.filter fun pdo => targetControllerId = 0 ∨ pdo.controllerId = targetControllerId

/-- `VnvmeHandleGetStats` has room for eight controllers and sixteen namespaces. -/
theorem collectStats_eq (targetControllerId : UInt32) (output : GetStatsOutput)
    (ps : List PdoContext) (h : StatsFilled output) :
    let found := (asked targetControllerId ps).take (8 - output.controllers.length)
    StatsFilled (collectStats targetControllerId output ps) ∧
      (collectStats targetControllerId output ps).controllers =
        output.controllers ++ found.map controllerStats ∧
      (collectStats targetControllerId output ps).namespaces =
        (output.namespaces ++ (found.flatMap (·.active)).map namespaceStats).take 16 := by
  induction ps generalizing output with
  | nil =>
      simp [asked, collectStats, h, List.take_of_length_le h.namespaces_le]
  | cons pdo ps ih =>
      by_cases hroom : output.controllers.length < 8
      · by_cases hother : targetControllerId ≠ 0 ∧ pdo.controllerId ≠ targetControllerId
        · have hskip : collectStats targetControllerId output (pdo :: ps) =
              collectStats targetControllerId output ps := by
            rw [collectStats, if_pos hroom, if_pos hother]
          have hasked : asked targetControllerId (pdo :: ps) = asked targetControllerId ps := by
            refine List.filter_cons_of_neg ?_
            simp [hother.1, hother.2]
          rw [hskip, hasked]
          exact ih output h
        · have hasked : asked targetControllerId (pdo :: ps) =
              pdo :: asked targetControllerId ps := by
            refine List.filter_cons_of_pos ?_
            rw [decide_eq_true_iff]
            exact (not_and_or.mp hother).imp (not_not.mp ·) (not_not.mp ·)
          have hone : StatsFilled
              { output with controllers := output.controllers ++ [controllerStats pdo] } := by
            refine ⟨?_, h.namespaces_le, h.count⟩
            show (output.controllers ++ [controllerStats pdo]).length ≤ 8
            rw [List.length_append, List.length_singleton]
            exact hroom
          obtain ⟨hfilled, hcontrollers, hnamespaces⟩ :=
            collectNamespace_foldl pdo.toMedia (List.range 16) _ hone
          rw [foldl_capped 16 (fun i => (pdo.namespaces i).active)
            (fun i => namespaceStats (pdo.namespaces i)) _ _ h.namespaces_le] at hnamespaces
          have hactive : ((List.range 16).filter fun i => (pdo.namespaces i).active).map
              (fun i => namespaceStats (pdo.namespaces i)) =
                pdo.toMedia.active.map namespaceStats := by
            rw [Media.active, List.map_map]
            rfl
          rw [hactive] at hnamespaces
          obtain ⟨hall, hrest, hothers⟩ := ih _ hfilled
          have hstep : collectStats targetControllerId output (pdo :: ps) =
              collectStats targetControllerId ((List.range 16).foldl (collectNamespace pdo.toMedia)
                { output with controllers := output.controllers ++ [controllerStats pdo] }) ps := by
            rw [collectStats, if_pos hroom, if_neg hother]
          have hlength : (output.controllers ++ [controllerStats pdo]).length =
              output.controllers.length + 1 := by
            rw [List.length_append, List.length_singleton]
          have hsucc : 8 - output.controllers.length = 8 - (output.controllers.length + 1) + 1 := by
            omega
          rw [hcontrollers, hlength] at hrest hothers
          rw [hnamespaces, take_take_append] at hothers
          rw [hstep, hasked, hsucc, List.take_succ_cons]
          refine ⟨hall, ?_, ?_⟩
          · rw [hrest, List.map_cons, List.append_assoc]
            rfl
          · rw [hothers, List.flatMap_cons, List.map_append, List.append_assoc]
      · -- the array of controllers is full
        have hfull : 8 - output.controllers.length = 0 := by omega
        have hend : collectStats targetControllerId output (pdo :: ps) = output := by
          rw [collectStats, if_neg hroom]
        rw [hend, hfull]
        simp [h, List.take_of_length_le h.namespaces_le]

end Loops

/-! ## The controllers by their ids -/

section Ids

variable {d : BusDevice} {pdo : PdoContext}

/-- The first controller with the id of a listed one is this one. -/
theorem ControllersListed.find (h : ControllersListed d) (hpdo : pdo ∈ d.controllers) :
    ∃ k, ctrlDevFindController d.toBus pdo.controllerId = some k ∧ d.media k = pdo.toMedia := by
  obtain ⟨k, hk, rfl⟩ := List.getElem_of_mem hpdo
  refine ⟨k, List.findIdx?_eq_some_iff_getElem.mpr ⟨hk, decide_eq_true rfl, fun j hj => ?_⟩, ?_⟩
  · have hlt := List.pairwise_iff_getElem.mp (List.pairwise_map.mp h.ids) j k (hj.trans hk) hk hj
    have hne := UInt32.ne_of_lt hlt
    simpa using hne
  · rw [Bus.media, List.getD_eq_getElem?_getD, List.getElem?_eq_getElem hk, Option.getD_some]

/-- It is also the only one. -/
theorem ControllersListed.asked_eq (h : ControllersListed d) (hpdo : pdo ∈ d.controllers) :
    asked pdo.controllerId d.controllers = [pdo] := by
  have hne : pdo.controllerId ≠ 0 :=
    (UInt32.ne_of_lt (h.ids_pos _ (List.mem_map_of_mem hpdo))).symm
  obtain ⟨before, after, heq⟩ := List.append_of_mem hpdo
  have hids := List.pairwise_map.mp h.ids
  rw [heq, List.pairwise_append] at hids
  obtain ⟨-, hafter, hbefore⟩ := hids
  have hnone : ∀ ps : List PdoContext, (∀ p ∈ ps, p.controllerId ≠ pdo.controllerId) →
      asked pdo.controllerId ps = [] := by
    intro ps hps
    refine List.filter_eq_nil_iff.mpr fun p hp => ?_
    simp [hne, hps p hp]
  have hfirst := hnone before fun p hp =>
    UInt32.ne_of_lt (hbefore p hp pdo List.mem_cons_self)
  have hlast := hnone after fun p hp =>
    (UInt32.ne_of_lt ((List.pairwise_cons.mp hafter).1 p hp)).symm
  have hmiddle : asked pdo.controllerId (pdo :: after) = pdo :: asked pdo.controllerId after :=
    List.filter_cons_of_pos (by simp)
  rw [heq, asked, List.filter_append, ← asked, ← asked, hfirst, hmiddle, hlast, List.nil_append]

end Ids

/-! ## The reports -/

/-- The list of a controller's namespaces against what the list of controllers says. -/
structure NamespacesAgree (pdo : PdoContext) (output : ListNamespacesOutput) : Prop where
  count : output.count.toNat = output.namespaces.length
  reported : (controllerInfo pdo).namespaceCount = output.count
  capacity : (controllerInfo pdo).totalCapacity.toNat =
    (output.namespaces.map fun info => info.totalBlocks.toNat * info.blockSize.toNat).sum
  nsids : (output.namespaces.map (·.nsid)).Pairwise (· < ·)

/-- What the statistics are filled with. -/
structure StatsAgree (found : List PdoContext) (output : GetStatsOutput) : Prop where
  controllers : output.controllers = found.map controllerStats
  namespaces : output.namespaces = ((found.flatMap (·.active)).map namespaceStats).take 16
  controllerCount : output.controllerCount.toNat = output.controllers.length
  namespaceCount : output.totalNamespaceCount.toNat = output.namespaces.length

/-- The reports agree with the list of controllers and with each other. Only the statistics of
all controllers are cut, at eight controllers and sixteen namespaces. -/
structure ReportsAgree (d : BusDevice) : Prop where
  listControllers : ∀ request output,
    vnvmeHandleListControllers request d = (.success, some output) →
      output.controllers = d.controllers.map controllerInfo ∧
        output.controllerCount.toNat = d.controllers.length
  listNamespaces : ∀ pdo ∈ d.controllers, ∀ request output,
    request.input.controllerId = pdo.controllerId →
      vnvmeHandleListNamespaces request d = (.success, some output) → NamespacesAgree pdo output
  status : ∀ request output, vnvmeHandleGetStatus request d = (.success, some output) →
    output.controllerCount.toNat = d.controllers.length ∧
      output.namespaceCount.toNat =
        (d.controllers.map fun pdo => (controllerInfo pdo).namespaceCount.toNat).sum
  stats : ∀ now request output, vnvmeHandleGetStats now request d = (.success, some output) →
    StatsAgree ((asked (GetStatsInput.target request) d.controllers).take 8) output
  statsOfOne : ∀ pdo ∈ d.controllers, ∀ now request output,
    GetStatsInput.target request = pdo.controllerId →
      vnvmeHandleGetStats now request d = (.success, some output) →
        output.controllers = [controllerStats pdo] ∧
          output.namespaces = pdo.active.map namespaceStats

section Reports

variable {d : BusDevice} (h : ControllersListed d)

include h

theorem ControllersListed.listControllers {request : Ioctl Unit} {output : ListControllersOutput}
    (heq : vnvmeHandleListControllers request d = (.success, some output)) :
    output.controllers = d.controllers.map controllerInfo ∧
      output.controllerCount.toNat = d.controllers.length := by
  have hlen : d.controllers.length ≤ 16 := by
    have := h.count_le
    rwa [BusDevice.ids, List.length_map] at this
  have hall : listControllersLoop 0 d.controllers = d.controllers.map controllerInfo := by
    rw [listControllersLoop_eq, List.take_of_length_le hlen]
  unfold vnvmeHandleListControllers at heq
  split at heq
  · cases heq
  · split at heq
    · cases heq
    · cases heq
      rw [hall]
      refine ⟨rfl, ?_⟩
      rw [List.length_map]
      exact UInt32.toNat_ofNat_of_lt' (Nat.lt_of_le_of_lt hlen (by decide))

theorem ControllersListed.listNamespaces {pdo : PdoContext} (hpdo : pdo ∈ d.controllers)
    {request : Ioctl ListNamespacesInput} {output : ListNamespacesOutput}
    (hid : request.input.controllerId = pdo.controllerId)
    (heq : vnvmeHandleListNamespaces request d = (.success, some output)) :
    NamespacesAgree pdo output := by
  have hcons := h.tables pdo hpdo
  obtain ⟨k, hfind, hmedia⟩ := h.find hpdo
  unfold vnvmeHandleListNamespaces at heq
  split at heq
  · cases heq
  · split at heq
    · cases heq
    · rw [hid, hfind] at heq
      cases heq
      simp only [hmedia, listNamespacesLoop_eq]
      have hlength : (pdo.toMedia.active.map namespaceInfo).length < 2 ^ 32 := by
        rw [List.length_map]
        exact Nat.lt_of_le_of_lt (length_active_le _) (by decide)
      have hcount := UInt32.toNat_ofNat_of_lt' hlength
      refine ⟨hcount, ?_, ?_, ?_⟩
      · refine UInt32.toNat_inj.mp ?_
        rw [hcount, List.length_map]
        exact namespaceCount_toNat pdo.toMedia hcons
      · rw [List.map_map]
        exact totalCapacity_toNat pdo hcons
      · rw [List.map_map]
        exact active_nsIds hcons

theorem ControllersListed.status {request : Ioctl Unit} {output : GetStatusOutput}
    (heq : vnvmeHandleGetStatus request d = (.success, some output)) :
    output.controllerCount.toNat = d.controllers.length ∧
      output.namespaceCount.toNat =
        (d.controllers.map fun pdo => (controllerInfo pdo).namespaceCount.toNat).sum := by
  have hsum : (d.controllers.map fun pdo => (controllerInfo pdo).namespaceCount.toNat) =
      d.controllers.map fun pdo => pdo.toMedia.active.length :=
    List.map_congr_left fun pdo hpdo => namespaceCount_toNat pdo.toMedia (h.tables pdo hpdo)
  have hbound : (d.controllers.map fun pdo => pdo.toMedia.active.length).sum < 2 ^ 32 := by
    have hle := sum_map_le (fun pdo : PdoContext => pdo.toMedia.active.length) 16 d.controllers
      fun pdo _ => length_active_le pdo.toMedia
    have hlen := h.count_le
    rw [BusDevice.ids, List.length_map] at hlen
    omega
  have hadd : ∀ n : UInt32, ∀ pdo ∈ d.controllers,
      n.toNat + pdo.toMedia.active.length < 2 ^ 32 →
        (countActive n pdo).toNat = n.toNat + pdo.toMedia.active.length :=
    fun n pdo _ hlt => countActive_toNat n pdo hlt
  have hfold := foldl_toNat hadd 0 (by simpa using hbound)
  unfold vnvmeHandleGetStatus at heq
  split at heq
  · cases heq
  · split at heq
    · cases heq
    · cases heq
      refine ⟨?_, ?_⟩
      · show d.childDeviceCount.toNat = _
        rw [h.count, BusDevice.ids, List.length_map]
      · rw [hsum]
        exact hfold.trans (Nat.zero_add _)

omit h in
theorem stats_agree {now : Int} {request : Ioctl GetStatsInput} {output : GetStatsOutput}
    (heq : vnvmeHandleGetStats now request d = (.success, some output)) :
    StatsAgree ((asked (GetStatsInput.target request) d.controllers).take 8) output := by
  unfold vnvmeHandleGetStats at heq
  split at heq
  · cases heq
  · split at heq
    · cases heq
    · cases heq
      obtain ⟨hfilled, hcontrollers, hnamespaces⟩ :=
        collectStats_eq (GetStatsInput.target request)
          { uptime := UInt64.ofInt (Int.tdiv (now - d.startTime) 10000)
            totalCommandsProcessed := d.commandsProcessed } d.controllers
          ⟨Nat.zero_le _, Nat.zero_le _, rfl⟩
      refine ⟨hcontrollers, hnamespaces, ?_, hfilled.count⟩
      exact UInt32.toNat_ofNat_of_lt' (Nat.lt_of_le_of_lt hfilled.controllers_le (by decide))

theorem ControllersListed.reportsAgree : ReportsAgree d where
  listControllers _ _ heq := h.listControllers heq
  listNamespaces _ hpdo _ _ hid heq := h.listNamespaces hpdo hid heq
  status _ _ heq := h.status heq
  stats _ _ _ heq := stats_agree heq
  statsOfOne pdo hpdo now request output hid heq := by
    have hagree := stats_agree heq
    have hfound : (asked (GetStatsInput.target request) d.controllers).take 8 = [pdo] := by
      rw [hid, h.asked_eq hpdo]
      rfl
    rw [hfound] at hagree
    refine ⟨hagree.controllers, hagree.namespaces.trans ?_⟩
    rw [List.flatMap_singleton, List.take_of_length_le]
    rw [List.length_map]
    exact length_active_le pdo.toMedia

end Reports

/-- Through any run of the bus device with fewer creations than there are ids, the four reports
of the control device agree with the controllers and with each other. -/
theorem reports_agree (config : Config) (g : VnvmeConfig) (startTime : Int)
    {es : List DeviceEvent} (hids : creations es < 2 ^ 32 - 1)
    (hkeeps : EachStep deviceStep KeepsTables (.added config g startTime) es) :
    Throughout deviceStep ReportsAgree (.added config g startTime) es := by
  obtain ⟨hlisted, -⟩ := idsLeft_run (idsLeft_added config g startTime hids) hkeeps
  intro pre post heq
  exact (hlisted pre post heq).reportsAgree

/-- A controller with one namespace. -/
def oneNamespace : List DeviceEvent :=
  [createRequest, .createNamespace (createEightBlocks 512)].map .control

theorem reports_agree_one :
    Throughout deviceStep ReportsAgree (.added .allQueues {} 0) oneNamespace ∧
      ((vnvmeHandleGetStatus { inputBufferLength := 0, outputBufferLength := 88, input := () }
        (run deviceStep (.added .allQueues {} 0) oneNamespace)).2.map (·.namespaceCount)) =
          some 1 :=
  ⟨reports_agree .allQueues {} 0 (by decide) keepsTables_of_control, by decide⟩

end VirtualNvme
