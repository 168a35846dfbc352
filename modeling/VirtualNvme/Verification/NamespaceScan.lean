import VirtualNvme.Verification.ActiveNsList
import VirtualNvme.Verification.NamespaceLifecycle

/-!
# Scanning for namespaces

Identify Controller reports the number of namespaces (`NN`), and a host may look for them at the
ids from 1 to `NN`. The kernel reports how many namespaces are active. A new namespace takes the
lowest free id, so this finds them all as long as there is no hole among the ids; a deletion below
the highest id makes one.
-/

namespace VirtualNvme

open Runs

/-! ## What the host reads -/

/-- The `NN` field of Identify Controller, at byte 516. -/
def readNn (page : UInt32 → UInt8) : UInt32 := readUlong page 0x204

/-- `NamespaceCount > 0 ? NamespaceCount : 1` -/
def Media.nn (m : Media) : UInt32 :=
  (if m.namespaceCount > 0 then m.namespaceCount else 1).toUInt32

/-- Every active namespace that the controller lists is within the `NN` that it reports, whenever
the two commands succeed. -/
def ScanFindsAll (pdo : PdoContext) : Prop :=
  ∀ (os os' : Os) (identify list : NvmeCommand),
    (handleIdentifyController pdo os identify).completion = some (0, 0, 0) →
    (handleIdentifyActiveNsList pdo os' list).completion = some (0, 0, 0) →
    ∀ nsid ∈ listedNsids
        (hostPage (handleIdentifyActiveNsList pdo os' list).os.hostMem list.prp1),
      nsid ≤ readNn (hostPage (handleIdentifyController pdo os identify).os.hostMem identify.prp1)

/-- A byte of what has been stored. -/
theorem putBytes_at (buf : UInt32 → UInt8) {off : UInt32} {bytes : List UInt8} {j : Nat}
    (hj : j < bytes.length) (hoff : off.toNat + j < 2 ^ 32) :
    putBytes buf off bytes (off + UInt32.ofNat j) = bytes.getD j 0 := by
  have hnat : (UInt32.ofNat j).toNat = j := UInt32.toNat_ofNat_of_lt' (show j < 2 ^ 32 by omega)
  have hsub : off + UInt32.ofNat j - off = UInt32.ofNat j := by
    rw [UInt32.add_comm, UInt32.add_sub_cancel]
  have hle : off ≤ off + UInt32.ofNat j := by
    rw [UInt32.le_iff_toNat_le, UInt32.toNat_add, hnat, Nat.mod_eq_of_lt hoff]
    exact Nat.le_add_right _ _
  rw [putBytes, hsub, hnat, if_pos ⟨hle, hj⟩]

theorem readNn_identifyControllerData (pdo : PdoContext) :
    readNn (identifyControllerData pdo) = pdo.toMedia.nn := by
  refine readUlong_eq fun j hj => ?_
  have hlt : (0x204 : UInt32) + UInt32.ofNat j < 0x208 := by
    rw [UInt32.lt_iff_toNat_lt, UInt32.toNat_add,
      UInt32.toNat_ofNat_of_lt' (show j < 2 ^ 32 by omega)]
    exact Nat.mod_lt_of_lt (show 516 + j < 520 by omega)
  unfold identifyControllerData
  -- `ONCS`, `VWC` and `AWUN` come behind `NN`
  rw [putBytes_of_lt _ _ (UInt32.lt_trans hlt (by decide)),
    putBytes_of_lt _ _ (UInt32.lt_trans hlt (by decide)), putBytes_of_lt _ _ hlt]
  exact putBytes_at _ hj (show 516 + j < 2 ^ 32 by omega)

/-- The ids in a page are in its 4096 bytes. -/
theorem listedNsids_congr {page page' : UInt32 → UInt8}
    (h : ∀ i, i < 4096 → page i = page' i) : listedNsids page = listedNsids page' := by
  unfold listedNsids
  refine congrArg (List.takeWhile _) (List.map_congr_left fun k hk => ?_)
  have hk := List.mem_range.mp hk
  refine readUlong_congr fun j hj => h _ ?_
  rw [← UInt32.ofNat_add, UInt32.lt_iff_toNat_lt,
    UInt32.toNat_ofNat_of_lt' (show 4 * k + j < 2 ^ 32 by omega)]
  exact show 4 * k + j < 4096 by omega

/-- The `NN` that the host has got. -/
theorem handleIdentifyController_nn {pdo : PdoContext} {os : Os} {cmd : NvmeCommand}
    (hok : (handleIdentifyController pdo os cmd).completion = some (0, 0, 0)) :
    readNn (hostPage (handleIdentifyController pdo os cmd).os.hostMem cmd.prp1) =
      pdo.toMedia.nn := by
  rw [allocated_sent (r := handleIdentifyController pdo os cmd) rfl hok,
    ← readNn_identifyControllerData]
  refine readUlong_congr fun j hj => hostPage_hostCopy _ _ _ ?_
  rw [UInt32.lt_iff_toNat_lt, UInt32.toNat_add,
    UInt32.toNat_ofNat_of_lt' (show j < 2 ^ 32 by omega)]
  exact Nat.mod_lt_of_lt (show 516 + j < 4096 by omega)

/-- The ids that the host has got. -/
theorem handleIdentifyActiveNsList_ids {pdo : PdoContext} {os : Os} {cmd : NvmeCommand}
    (hok : (handleIdentifyActiveNsList pdo os cmd).completion = some (0, 0, 0)) :
    listedNsids (hostPage (handleIdentifyActiveNsList pdo os cmd).os.hostMem cmd.prp1) =
      activeNsList pdo.toMedia cmd.nsid := by
  rw [listedNsids_congr fun i hi => handleIdentifyActiveNsList_page hok hi]
  refine listedNsids_page _ ((activeNsList_length_le _ _).trans (by decide)) fun nsid hmem => ?_
  have hpos := ((mem_activeNsList _ _ _).mp hmem).1
  exact UInt32.pos_iff_ne_zero.mp (UInt32.lt_of_le_of_lt UInt32.zero_le hpos)

theorem scanFindsAll_iff_active (pdo : PdoContext) :
    ScanFindsAll pdo ↔ ∀ nsid, pdo.toMedia.ActiveNsid nsid → nsid ≤ pdo.toMedia.nn := by
  constructor
  · intro h nsid hactive
    have hpos : 0 < nsid := UInt32.pos_iff_ne_zero.mpr ((activeNsid_iff _ _).mp hactive).1
    have hle := h {} {} { prp1 := 0x100000 } { prp1 := 0x100000 } rfl rfl nsid
    rw [handleIdentifyActiveNsList_ids rfl, handleIdentifyController_nn rfl] at hle
    exact hle ((mem_activeNsList _ _ _).mpr ⟨hpos, hactive⟩)
  · intro h os os' identify list hok hok' nsid hmem
    rw [handleIdentifyActiveNsList_ids hok'] at hmem
    rw [handleIdentifyController_nn hok]
    exact h nsid ((mem_activeNsList _ _ _).mp hmem).2

/-! ## Holes -/

/-- Below an active slot every slot is active. -/
def Media.NoHoles (m : Media) : Prop := ∀ i ∈ m.activeSlots, ∀ j, j < i → j ∈ m.activeSlots

theorem Media.Fresh.noHoles {m : Media} (h : m.Fresh) : m.NoHoles := by
  intro i hi
  rw [h.activeSlots] at hi
  exact absurd hi (Finset.notMem_empty i)

theorem nn_toNat (m : Media) : m.nn.toNat = max 1 m.namespaceCount.toNat := by
  unfold Media.nn
  rw [UInt16.toNat_toUInt32]
  split_ifs with h
  · have hpos : 0 < m.namespaceCount.toNat := h
    omega
  · have hzero : m.namespaceCount.toNat = 0 := Nat.eq_zero_of_not_pos h
    rw [hzero]
    rfl

/-- A bound on the active ids is one on the active slots. -/
theorem activeNsids_le_iff (m : Media) (bound : UInt32) :
    (∀ nsid, m.ActiveNsid nsid → nsid ≤ bound) ↔ ∀ i ∈ m.activeSlots, i < bound.toNat := by
  constructor
  · intro h i hi
    obtain ⟨hlt, hactive⟩ := mem_activeSlots.mp hi
    have hnat : (UInt32.ofNat (i + 1)).toNat = i + 1 :=
      UInt32.toNat_ofNat_of_lt' (show i + 1 < 2 ^ 32 by omega)
    have hle := h (UInt32.ofNat (i + 1)) ((activeNsid_iff _ _).mpr ⟨?_, ?_, ?_⟩)
    · rwa [UInt32.le_iff_toNat_le, hnat] at hle
    · intro hzero
      rw [hzero] at hnat
      cases hnat
    · rw [hnat]
      exact hlt
    · rwa [hnat]
  · intro h nsid hactive
    obtain ⟨hne, hle, hactive⟩ := (activeNsid_iff _ _).mp hactive
    have hpos : nsid.toNat ≠ 0 := fun hzero => hne (UInt32.toNat_inj.mp hzero)
    have hlt := h (nsid.toNat - 1) (mem_activeSlots.mpr ⟨by omega, hactive⟩)
    exact UInt32.le_iff_toNat_le.mpr (by omega)

/-- As many slots are active as the count says, so they are the first ones exactly if there is no
hole among them. -/
theorem activeSlots_lt_nn_iff {m : Media} (hm : m.Consistent) :
    (∀ i ∈ m.activeSlots, i < m.nn.toNat) ↔ m.NoHoles := by
  rw [nn_toNat, hm.count]
  constructor
  · intro h i hi j hj
    have hpos : 0 < m.activeSlots.card := Finset.card_pos.mpr ⟨i, hi⟩
    have hsub : m.activeSlots ⊆ Finset.range m.activeSlots.card := by
      intro i hi
      have hlt := h i hi
      exact Finset.mem_range.mpr (by omega)
    have heq := Finset.eq_of_subset_of_card_le hsub (Finset.card_range _).le
    have hlt := Finset.mem_range.mp (hsub hi)
    rw [heq]
    exact Finset.mem_range.mpr (hj.trans hlt)
  · intro h i hi
    have hsub : Finset.range (i + 1) ⊆ m.activeSlots := by
      intro j hj
      rcases Nat.lt_succ_iff_lt_or_eq.mp (Finset.mem_range.mp hj) with hlt | rfl
      · exact h i hi j hlt
      · exact hi
    have hcard := Finset.card_le_card hsub
    rw [Finset.card_range] at hcard
    exact lt_max_of_lt_right hcard

theorem scanFindsAll_iff_noHoles {pdo : PdoContext} (hm : pdo.toMedia.Consistent) :
    ScanFindsAll pdo ↔ pdo.toMedia.NoHoles :=
  (scanFindsAll_iff_active pdo).trans
    ((activeNsids_le_iff _ _).trans (activeSlots_lt_nn_iff hm))

/-! ## Requests -/

/-- The checks of `VnvmeHandleDeleteNamespace`: the buffer, the controller, at place `k`, and the
namespace id. -/
structure DeleteAccepted (b : Bus) (request : Ioctl DeleteNamespaceInput) (k : Nat) : Prop where
  fdo : b.fdo ≠ none
  length : 8 ≤ request.inputBufferLength
  status : request.inputStatus.ntSuccess = true
  controller : ctrlDevFindController b request.input.controllerId = some k
  active : (b.media k).ActiveNsid request.input.nsid

theorem deleteNamespace_success_iff (m : Media) (nsid : UInt32) :
    (vnvmeHandleDeleteNamespace m nsid).1.ntSuccess = true ↔ m.ActiveNsid nsid := by
  rw [activeNsid_iff]
  unfold vnvmeHandleDeleteNamespace
  dsimp only
  split_ifs with hrange hinactive
  · refine iff_of_false Bool.false_ne_true fun h => ?_
    rcases hrange with hzero | hover
    · exact h.1 hzero
    · exact absurd h.2.1 (Nat.not_le.mpr (UInt32.lt_iff_toNat_lt.mp hover))
  · refine iff_of_false Bool.false_ne_true fun h => ?_
    rw [h.2.2] at hinactive
    cases hinactive
  · obtain ⟨hne, hle⟩ := not_or.mp hrange
    refine iff_of_true rfl ⟨hne, UInt32.le_iff_toNat_le.mp (UInt32.not_lt.mp hle), ?_⟩
    simpa using hinactive

theorem deleteRequest_success_iff (request : Ioctl DeleteNamespaceInput) (b : Bus) :
    (handleDeleteNamespaceRequest request b).1.ntSuccess = true ↔
      ∃ k, DeleteAccepted b request k := by
  unfold handleDeleteNamespaceRequest
  cases hfdo : b.fdo with
  | none => exact iff_of_false Bool.false_ne_true fun ⟨k, h⟩ => h.fdo hfdo
  | some fdo =>
      dsimp only
      split_ifs with hin hinput
      · refine iff_of_false Bool.false_ne_true fun ⟨k, h⟩ => ?_
        exact absurd h.length (Nat.not_le.mpr hin)
      · have hfail : request.inputStatus.ntSuccess = false := by simpa using hinput
        rw [hfail]
        refine iff_of_false Bool.false_ne_true fun ⟨k, h⟩ => ?_
        exact Bool.false_ne_true (hfail.symm.trans h.status)
      · have hok : request.inputStatus.ntSuccess = true := by simpa using hinput
        cases hfind : ctrlDevFindController b request.input.controllerId with
        | none =>
            refine iff_of_false Bool.false_ne_true fun ⟨k, h⟩ => ?_
            rw [h.controller] at hfind
            cases hfind
        | some k =>
            refine (deleteNamespace_success_iff _ _).trans ⟨fun hactive => ?_, fun ⟨k', h⟩ => ?_⟩
            · refine ⟨k, fun hnone => ?_, Nat.not_lt.mp hin, hok, hfind, hactive⟩
              rw [hfdo] at hnone
              cases hnone
            · obtain rfl := Option.some.inj (hfind.symm.trans h.controller)
              exact h.active

/-- A deletion that is accepted takes the highest namespace id of its controller. -/
def DeletesLast (b : Bus) : NamespaceRequest → Prop
  | .create _ => True
  | .delete request => ∀ k, DeleteAccepted b request k →
    ∀ nsid, (b.media k).ActiveNsid nsid → nsid ≤ request.input.nsid

theorem Created.noHoles {m m' : Media} {i : Nat} (h : Created m m' i) (hm : m.NoHoles) :
    m'.NoHoles := by
  intro j hj l hl
  rw [h.slots, Finset.mem_insert] at hj ⊢
  -- below the new slot all are active
  rcases hj with rfl | hj
  · exact Or.inr (h.lowest.lowest l hl)
  · exact Or.inr (hm j hj l hl)

theorem SameActive.noHoles {m m' : Media} (h : SameActive m m') (hm : m.NoHoles) :
    m'.NoHoles := by
  unfold Media.NoHoles
  rw [h.slots]
  exact hm

/-- A deletion leaves no hole exactly if it takes the last active slot. -/
theorem Deleted.noHoles_iff {m m' : Media} {i : Nat} (h : Deleted m m' i) (hm : m.NoHoles) :
    m'.NoHoles ↔ ∀ j ∈ m.activeSlots, j ≤ i := by
  unfold Media.NoHoles
  rw [h.slots]
  constructor
  · intro hholes j hj
    by_contra hover
    have hlt : i < j := Nat.not_le.mp hover
    have hne := hholes j (Finset.mem_erase.mpr ⟨hlt.ne', hj⟩) i hlt
    exact (Finset.mem_erase.mp hne).1 rfl
  · intro hlast j hj l hl
    obtain ⟨hne, hj⟩ := Finset.mem_erase.mp hj
    have hle := hlast j hj
    exact Finset.mem_erase.mpr ⟨by omega, hm j hj l hl⟩

/-- No active slot is missed: the tables are consistent and have no holes. -/
structure TablesFilled (b : Bus) : Prop where
  consistent : TablesConsistent b
  noHoles : ∀ k, (b.media k).NoHoles

theorem TablesFilled.scanFindsAll {b : Bus} (h : TablesFilled b) :
    ∀ pdo ∈ b.controllers, ScanFindsAll pdo := by
  intro pdo hmem
  refine (scanFindsAll_iff_noHoles (h.consistent pdo hmem)).mpr ?_
  exact (forall_media_iff (P := Media.NoHoles) (fun _ hm => hm.noHoles) b).mpr h.noHoles pdo hmem

theorem TablesFilled.step (b : Bus) (e : NamespaceRequest) (h : TablesFilled b)
    (hgood : DeletesLast b e) : TablesFilled (namespaceStep b e) := by
  refine ⟨namespaceStep_consistent b e h.consistent, fun j => ?_⟩
  cases e with
  | create request =>
      rcases createRequest_cases request b with ⟨k, i, -, -, -, hcreated, hother⟩ | ⟨-, hsame⟩
      · rcases eq_or_ne j k with rfl | hj
        · exact hcreated.noHoles (h.noHoles j)
        · exact (hother j hj).symm ▸ h.noHoles j
      · exact (hsame j).noHoles (h.noHoles j)
  | delete request =>
      rcases deleteRequest_cases request b with ⟨k, hfind, hok, hdeleted, hother⟩ | ⟨-, hsame⟩
      · rcases eq_or_ne j k with rfl | hj
        · obtain ⟨k', haccepted⟩ := (deleteRequest_success_iff request b).mp hok
          obtain rfl := Option.some.inj (haccepted.controller.symm.trans hfind)
          refine (hdeleted.noHoles_iff (h.noHoles k')).mpr fun i hi => ?_
          exact Nat.le_sub_one_of_lt ((activeNsids_le_iff _ _).mp (hgood k' haccepted) i hi)
        · exact (hother j hj).symm ▸ h.noHoles j
      · exact (hsame j).noHoles (h.noHoles j)

/-- A deletion below the highest id hides that id from the scan. -/
theorem TablesFilled.step_hides (b : Bus) (e : NamespaceRequest) (h : TablesFilled b)
    (hbad : ¬ DeletesLast b e) : ¬ ∀ pdo ∈ (namespaceStep b e).controllers, ScanFindsAll pdo := by
  intro hfinds
  have hconsistent := namespaceStep_consistent b e h.consistent
  have hholes : ∀ k, ((namespaceStep b e).media k).NoHoles :=
    (forall_media_iff (P := Media.NoHoles) (fun _ hm => hm.noHoles) _).mp fun pdo hmem =>
      (scanFindsAll_iff_noHoles (hconsistent pdo hmem)).mp (hfinds pdo hmem)
  cases e with
  | create request => exact hbad trivial
  | delete request =>
      refine hbad fun k haccepted => (activeNsids_le_iff _ _).mpr fun i hi => ?_
      have hok := (deleteRequest_success_iff request b).mpr ⟨k, haccepted⟩
      rcases deleteRequest_cases request b with ⟨k', hfind, -, hdeleted, -⟩ | ⟨hfail, -⟩
      · obtain rfl := Option.some.inj (hfind.symm.trans haccepted.controller)
        have hle := (hdeleted.noHoles_iff (h.noHoles k')).mp (hholes k') i hi
        have hne := ((activeNsid_iff _ _).mp haccepted.active).1
        have hpos : request.input.nsid.toNat ≠ 0 := fun hzero => hne (UInt32.toNat_inj.mp hzero)
        omega
      · rw [hok] at hfail
        cases hfail

/-! ## Runs -/

/-- **When a scan finds every namespace.** Through any run of requests, from controllers without
namespaces: every active namespace that a controller lists is within the `NN` that it reports
exactly if every deletion that is accepted takes the highest id of its controller. -/
theorem scanFindsAll_iff (b : Bus) (hfresh : ∀ pdo ∈ b.controllers, pdo.toMedia.Fresh)
    (es : List NamespaceRequest) :
    Throughout namespaceStep (fun b => ∀ pdo ∈ b.controllers, ScanFindsAll pdo) b es ↔
      EachStep namespaceStep DeletesLast b es := by
  refine throughout_iff (fun _ h => h.scanFindsAll) TablesFilled.step TablesFilled.step_hides ?_ es
  refine ⟨fun pdo hmem => (hfresh pdo hmem).consistent, ?_⟩
  exact (forall_media_iff (fun _ hm => hm.noHoles) b).mp fun pdo hmem => (hfresh pdo hmem).noHoles

/-- Create two namespaces and delete the second. -/
theorem scanFindsAll_iff_freshBus :
    let es : List NamespaceRequest :=
      [.create (createEightBlocks 512), .create (createEightBlocks 512),
        .delete { inputBufferLength := 8, input := { controllerId := 1, nsid := 2 } }]
    Throughout namespaceStep (fun b => ∀ pdo ∈ b.controllers, ScanFindsAll pdo) freshBus es ↔
      EachStep namespaceStep DeletesLast freshBus es := by
  refine scanFindsAll_iff freshBus (fun pdo hmem => ?_) _
  obtain rfl := List.mem_singleton.mp hmem
  exact ⟨rfl, fun _ => rfl⟩

/-- Create two namespaces and delete the first: one namespace is left, with id 2. -/
def secondNamespaceBus : Bus :=
  run namespaceStep freshBus
    [.create (createEightBlocks 512), .create (createEightBlocks 512),
      .delete { inputBufferLength := 8, input := { controllerId := 1, nsid := 1 } }]

theorem scan_misses_second :
    (∀ pdo ∈ secondNamespaceBus.controllers, pdo.toMedia.nn = 1 ∧
      activeNsList pdo.toMedia 0 = [2]) ∧
      ¬ ∀ pdo ∈ secondNamespaceBus.controllers, ScanFindsAll pdo := by
  have hbus : ∀ pdo ∈ secondNamespaceBus.controllers, pdo.toMedia.nn = 1 ∧
      activeNsList pdo.toMedia 0 = [2] := by decide
  refine ⟨hbus, fun hfinds => ?_⟩
  obtain ⟨pdo, hmem⟩ : ∃ pdo, pdo ∈ secondNamespaceBus.controllers :=
    List.exists_mem_of_length_pos (by decide)
  obtain ⟨hnn, hlist⟩ := hbus pdo hmem
  have hactive : (2 : UInt32) ∈ activeNsList pdo.toMedia 0 := by
    rw [hlist]
    exact List.mem_singleton_self 2
  have hle := (scanFindsAll_iff_active pdo).mp (hfinds pdo hmem) 2
    ((mem_activeNsList _ _ _).mp hactive).2
  rw [hnn] at hle
  exact absurd hle (by decide)

end VirtualNvme
