import Mathlib.Data.Finset.Card
import VirtualNvme.Runs
import VirtualNvme.Driver.NamespaceIoctl
import VirtualNvme.Verification.MediaAccess

/-!
# Creating and deleting namespaces

The namespace tables of the controllers under every sequence of requests to create and delete
namespaces. A creation fills its slot before it asks for the storage; the slot becomes active
only when the storage is there, so a creation that fails leaves the active namespaces alone.
-/

namespace VirtualNvme

open Runs

/-! ## Consistent tables -/

/-- The slots with an active namespace. -/
def Media.activeSlots (m : Media) : Finset Nat :=
  (Finset.range 16).filter fun i => (m.namespaces i).active

theorem mem_activeSlots {m : Media} {i : Nat} :
    i ∈ m.activeSlots ↔ i < 16 ∧ (m.namespaces i).active := by
  rw [Media.activeSlots, Finset.mem_filter, Finset.mem_range]

/-- The namespace in slot `i`: its id, its geometry over the naturals, and its storage. -/
structure Namespace.Consistent (ns : Namespace) (i : Nat) : Prop where
  nsId : ns.nsId.toNat = i + 1
  blockSize : ns.blockSize = 512 ∨ ns.blockSize = 4096
  pos : 0 < ns.totalBytes.toNat
  totalBytes : ns.totalBytes.toNat = ns.totalBlocks.toNat * ns.blockSize.toNat
  capacity : ns.totalBytes.toNat ≤ 16 * 2 ^ 40
  storage : ∃ st, ns.storage = some st ∧ st.totalBytes = ns.totalBytes

structure Media.Consistent (m : Media) : Prop where
  count : m.namespaceCount.toNat = m.activeSlots.card
  count_le : m.namespaceCount.toNat ≤ 16
  slots : ∀ i ∈ m.activeSlots, (m.namespaces i).Consistent i

/-- A table without namespaces. -/
structure Media.Fresh (m : Media) : Prop where
  count : m.namespaceCount = 0
  inactive : ∀ i, (m.namespaces i).active = false

theorem Media.Fresh.activeSlots {m : Media} (h : m.Fresh) : m.activeSlots = ∅ := by
  ext i
  simp [mem_activeSlots, h.inactive]

theorem Media.Fresh.consistent {m : Media} (h : m.Fresh) : m.Consistent := by
  refine ⟨?_, ?_, fun i hi => ?_⟩
  · rw [h.activeSlots, h.count]
    rfl
  · rw [h.count]
    exact Nat.zero_le _
  · rw [h.activeSlots] at hi
    exact absurd hi (Finset.notMem_empty i)

theorem card_activeSlots_le (m : Media) : m.activeSlots.card ≤ 16 := by
  refine (Finset.card_filter_le _ _).trans ?_
  rw [Finset.card_range]

/-- The active namespaces of the two tables are the same, with all they contain. -/
structure SameActive (m m' : Media) : Prop where
  count : m'.namespaceCount = m.namespaceCount
  slots : m'.activeSlots = m.activeSlots
  same : ∀ i ∈ m.activeSlots, m'.namespaces i = m.namespaces i

theorem SameActive.refl (m : Media) : SameActive m m := ⟨rfl, rfl, fun _ _ => rfl⟩

theorem SameActive.consistent {m m' : Media} (h : SameActive m m') (hm : m.Consistent) :
    m'.Consistent := by
  refine ⟨?_, ?_, fun i hi => ?_⟩
  · rw [h.count, h.slots]
    exact hm.count
  · rw [h.count]
    exact hm.count_le
  · rw [h.slots] at hi
    rw [h.same i hi]
    exact hm.slots i hi

/-- The slot that the next namespace gets. -/
structure LowestFree (m : Media) (i : Nat) : Prop where
  lt : i < 16
  free : i ∉ m.activeSlots
  lowest : ∀ j, j < i → j ∈ m.activeSlots

/-! ## One slot replaced -/

section Update

variable (m : Media) {i : Nat} (hi : i < 16) (ns : Namespace) (count : UInt16)

include hi

theorem activeSlots_update_active (h : ns.active = true) :
    Media.activeSlots { m with
      namespaces := Function.update m.namespaces i ns, namespaceCount := count } =
      insert i m.activeSlots := by
  ext j
  rw [mem_activeSlots, Finset.mem_insert, mem_activeSlots]
  rcases eq_or_ne j i with rfl | hj
  · simp [h, hi]
  · simp [hj]

theorem activeSlots_update_inactive (h : ns.active = false) :
    Media.activeSlots { m with
      namespaces := Function.update m.namespaces i ns, namespaceCount := count } =
      m.activeSlots.erase i := by
  ext j
  rw [mem_activeSlots, Finset.mem_erase, mem_activeSlots]
  rcases eq_or_ne j i with rfl | hj
  · simp [h]
  · simp [hj]

end Update

/-! ## The handlers on one table -/

/-- What a creation that succeeds does to the table. -/
structure Created (m m' : Media) (i : Nat) : Prop where
  lowest : LowestFree m i
  count : m'.namespaceCount = m.namespaceCount + 1
  slots : m'.activeSlots = insert i m.activeSlots
  consistent : (m'.namespaces i).Consistent i
  same : ∀ j, j ≠ i → m'.namespaces j = m.namespaces j

/-- What a deletion that succeeds does to the table. -/
structure Deleted (m m' : Media) (i : Nat) : Prop where
  active : i ∈ m.activeSlots
  count : m'.namespaceCount = m.namespaceCount - 1
  slots : m'.activeSlots = m.activeSlots.erase i
  same : ∀ j, j ≠ i → m'.namespaces j = m.namespaces j

theorem Created.table {m m' : Media} {i : Nat} (h : Created m m' i) (hm : m.Consistent) :
    m'.Consistent := by
  have hcard : m'.activeSlots.card = m.activeSlots.card + 1 := by
    rw [h.slots, Finset.card_insert_of_notMem h.lowest.free]
  have hle := card_activeSlots_le m'
  have hadd : m'.namespaceCount.toNat = m.namespaceCount.toNat + 1 := by
    have hcount := hm.count
    rw [h.count, UInt16.toNat_add]
    exact Nat.mod_eq_of_lt (show m.namespaceCount.toNat + 1 < 65536 by omega)
  refine ⟨?_, ?_, fun j hj => ?_⟩
  · rw [hadd, hcard, hm.count]
  · rw [hadd, hm.count, ← hcard]
    exact hle
  -- the new slot, or one that was active before
  · rcases eq_or_ne j i with rfl | hne
    · exact h.consistent
    · rw [h.slots, Finset.mem_insert] at hj
      rw [h.same j hne]
      exact hm.slots j (hj.resolve_left hne)

theorem Deleted.table {m m' : Media} {i : Nat} (h : Deleted m m' i) (hm : m.Consistent) :
    m'.Consistent := by
  have hpos : 0 < m.activeSlots.card := Finset.card_pos.mpr ⟨i, h.active⟩
  have hcard : m'.activeSlots.card = m.activeSlots.card - 1 := by
    rw [h.slots, Finset.card_erase_of_mem h.active]
  have hone : (1 : UInt16) ≤ m.namespaceCount := UInt16.le_iff_toNat_le.mpr (hm.count ▸ hpos)
  have hsub : m'.namespaceCount.toNat = m.namespaceCount.toNat - 1 := by
    rw [h.count]
    exact UInt16.toNat_sub_of_le _ _ hone
  refine ⟨?_, ?_, fun j hj => ?_⟩
  · rw [hsub, hcard, hm.count]
  · rw [hsub]
    exact (Nat.sub_le _ _).trans hm.count_le
  · rw [h.slots, Finset.mem_erase] at hj
    rw [h.same j hj.1]
    exact hm.slots j hj.2

/-- The geometry that the checks let through. -/
theorem consistent_of_check {c : NamespaceConfig} (hcheck : checkNamespaceConfig c = .ok ())
    {ns : Namespace} {i : Nat} (hi : i < 16) (st : StorageContext)
    (hid : ns.nsId = UInt32.ofNat (i + 1)) (hblocks : ns.totalBlocks = c.totalBlocks)
    (hsize : ns.blockSize = c.effectiveBlockSize)
    (hbytes : ns.totalBytes = c.totalBlocks * c.effectiveBlockSize.toUInt64)
    (hstorage : ns.storage = some st) (hst : st.totalBytes = ns.totalBytes) :
    ns.Consistent i := by
  obtain ⟨hblock, htotal, hcap⟩ := checkNamespaceConfig_ok hcheck
  -- the check refuses a namespace without blocks
  have hne : c.totalBlocks ≠ 0 := by
    intro hzero
    simp only [checkNamespaceConfig, hzero, if_true] at hcheck
    split_ifs at hcheck
  have hblocksPos : 0 < c.totalBlocks.toNat := UInt64.pos_iff_ne_zero.mpr hne
  have hsizePos : 0 < c.effectiveBlockSize.toNat := by
    rcases hblock with h | h <;> rw [h] <;> decide
  have hlt : i + 1 ≤ 16 := hi
  refine ⟨?_, ?_, ?_, ?_, ?_, st, hstorage, hst⟩
  · rw [hid, UInt32.toNat_ofNat_of_lt' (Nat.lt_of_le_of_lt hlt (by decide))]
  · rwa [hsize]
  · rw [hbytes, htotal]
    exact Nat.mul_pos hblocksPos hsizePos
  · rw [hbytes, htotal, hblocks, hsize]
  · rw [hbytes]
    exact hcap

theorem lowestFree_of_find {m : Media} {i : Nat}
    (h : (List.range 16).find? (fun i => !(m.namespaces i).active) = some i) :
    LowestFree m i := by
  obtain ⟨hfree, hmem, hbelow⟩ := List.find?_range_eq_some.mp h
  have hi : i < 16 := List.mem_range.mp hmem
  refine ⟨hi, fun hact => ?_, fun j hj => ?_⟩
  · rw [(mem_activeSlots.mp hact).2] at hfree
    cases hfree
  · exact mem_activeSlots.mpr ⟨hj.trans hi, by simpa using hbelow j hj⟩

/-- A free slot that is filled but not activated. -/
theorem sameActive_update (m : Media) {i : Nat} (h : LowestFree m i) (ns : Namespace)
    (hns : ns.active = false) :
    SameActive m { m with namespaces := Function.update m.namespaces i ns } := by
  refine ⟨rfl, ?_, fun j hj => ?_⟩
  · have hslots := activeSlots_update_inactive m h.lt ns m.namespaceCount hns
    rwa [Finset.erase_eq_of_notMem h.free] at hslots
  · exact Function.update_of_ne (fun heq : j = i => h.free (heq ▸ hj)) _ _

/-- A creation activates the lowest free slot and answers its id, or it changes no active
namespace. -/
theorem createNamespace_cases (cfg : Config) (m : Media) (os : Os) (c : NamespaceConfig) :
    (∃ i, (vnvmeHandleCreateNamespace cfg m os c).1.ntSuccess = true ∧
      (vnvmeHandleCreateNamespace cfg m os c).2.1 = UInt32.ofNat (i + 1) ∧
      Created m (vnvmeHandleCreateNamespace cfg m os c).2.2.1 i) ∨
    ((vnvmeHandleCreateNamespace cfg m os c).1.ntSuccess = false ∧
      SameActive m (vnvmeHandleCreateNamespace cfg m os c).2.2.1) := by
  have houtcome := createNamespace_outcome cfg m os c
  generalize vnvmeHandleCreateNamespace cfg m os c = r at houtcome ⊢
  cases houtcome with
  | refused hfails os => exact Or.inr ⟨hfails, SameActive.refl m⟩
  | filled hfind hfails os =>
      exact Or.inr ⟨hfails, sameActive_update m (lowestFree_of_find hfind) _ rfl⟩
  | @created i st _ hcheck hfind hst os =>
      have hlowest := lowestFree_of_find hfind
      refine Or.inl ⟨i, rfl, rfl, hlowest, rfl, ?_, ?_, fun j hj => ?_⟩
      · exact activeSlots_update_active m hlowest.lt _ _ rfl
      · refine consistent_of_check hcheck hlowest.lt st ?_ ?_ ?_ ?_ ?_ ?_
        all_goals dsimp only
        all_goals rw [Function.update_self]
        exacts [rfl, rfl, rfl, rfl, hst.1.totalBytes]
      · exact Function.update_of_ne hj _ _

theorem deleteNamespace_cases (m : Media) (nsid : UInt32) :
    ((vnvmeHandleDeleteNamespace m nsid).1.ntSuccess = true ∧
      Deleted m (vnvmeHandleDeleteNamespace m nsid).2 (nsid.toNat - 1)) ∨
    ((vnvmeHandleDeleteNamespace m nsid).1.ntSuccess = false ∧
      SameActive m (vnvmeHandleDeleteNamespace m nsid).2) := by
  unfold vnvmeHandleDeleteNamespace
  dsimp only
  split_ifs with hrange hinactive
  · exact Or.inr ⟨rfl, SameActive.refl m⟩
  · exact Or.inr ⟨rfl, SameActive.refl m⟩
  · obtain ⟨hpos, hle⟩ := not_or.mp hrange
    have hle : nsid.toNat ≤ 16 := UInt32.le_iff_toNat_le.mp (UInt32.not_lt.mp hle)
    have hpos : nsid.toNat ≠ 0 := fun h => hpos (UInt32.toNat_inj.mp h)
    have hlt : nsid.toNat - 1 < 16 := by omega
    refine Or.inl ⟨rfl, mem_activeSlots.mpr ⟨hlt, by simpa using hinactive⟩, rfl, ?_, ?_⟩
    · exact activeSlots_update_inactive m hlt _ _ rfl
    · exact fun j hj => Function.update_of_ne hj _ _

/-! ## The requests on the bus -/

/-- A request to create or to delete a namespace. -/
inductive NamespaceRequest where
  | create (request : Ioctl CreateNamespaceInput)
  | delete (request : Ioctl DeleteNamespaceInput)

def namespaceStep (b : Bus) : NamespaceRequest → Bus
  | .create request => (handleCreateNamespaceRequest request b).2
  | .delete request => (handleDeleteNamespaceRequest request b).2

/-- The status with which the request ends. -/
def NamespaceRequest.status (b : Bus) : NamespaceRequest → NtStatus
  | .create request => (handleCreateNamespaceRequest request b).1.status
  | .delete request => (handleDeleteNamespaceRequest request b).1

/-- A creation that succeeds activates the lowest free slot of its controller and answers its
id; nothing else changes. -/
def CreatesLowest (b : Bus) : NamespaceRequest → Prop
  | .create request =>
    (handleCreateNamespaceRequest request b).1.status.ntSuccess →
      ∃ k i, ctrlDevFindController b request.input.controllerId = some k ∧
        LowestFree (b.media k) i ∧
        (handleCreateNamespaceRequest request b).1.output = some { nsid := UInt32.ofNat (i + 1) } ∧
        ((handleCreateNamespaceRequest request b).2.media k).activeSlots =
          insert i (b.media k).activeSlots ∧
        (∀ j, j ≠ i → ((handleCreateNamespaceRequest request b).2.media k).namespaces j =
          (b.media k).namespaces j) ∧
        ∀ j, j ≠ k → (handleCreateNamespaceRequest request b).2.media j = b.media j
  | .delete _ => True

/-- A request that fails leaves the active namespaces of every controller as they are. -/
def FailsUnchanged (b : Bus) (e : NamespaceRequest) : Prop :=
  e.status b ≠ .success → ∀ k, SameActive (b.media k) ((namespaceStep b e).media k)

theorem ctrlDevFindController_lt {b : Bus} {controllerId : UInt32} {k : Nat}
    (h : ctrlDevFindController b controllerId = some k) : k < b.controllers.length :=
  (List.findIdx?_eq_some_iff_getElem.mp h).1

theorem media_setMedia {b : Bus} {k : Nat} (hk : k < b.controllers.length) (m : Media) (j : Nat) :
    (b.setMedia k m).media j = if j = k then m else b.media j := by
  unfold Bus.setMedia Bus.media
  rw [List.getD_eq_getElem?_getD, List.getElem?_modify, List.getD_eq_getElem?_getD]
  split_ifs with hj hk' hk'
  · rw [← hj, List.getElem?_eq_getElem hk]
    rfl
  · exact absurd hj.symm hk'
  · exact absurd hk'.symm hj
  · simp

/-- The table at place `k` is replaced by one with the same active namespaces. -/
theorem setMedia_sameActive {b : Bus} {k : Nat} (hk : k < b.controllers.length) {m : Media}
    (h : SameActive (b.media k) m) (j : Nat) :
    SameActive (b.media j) ((b.setMedia k m).media j) := by
  rw [media_setMedia hk]
  split_ifs with hj
  · exact hj ▸ h
  · exact SameActive.refl _

theorem createRequest_cases (request : Ioctl CreateNamespaceInput) (b : Bus) :
    (∃ k i, ctrlDevFindController b request.input.controllerId = some k ∧
      (handleCreateNamespaceRequest request b).1.status.ntSuccess = true ∧
      (handleCreateNamespaceRequest request b).1.output = some { nsid := UInt32.ofNat (i + 1) } ∧
      Created (b.media k) ((handleCreateNamespaceRequest request b).2.media k) i ∧
      ∀ j, j ≠ k → (handleCreateNamespaceRequest request b).2.media j = b.media j) ∨
    ((handleCreateNamespaceRequest request b).1.status.ntSuccess = false ∧
      ∀ k, SameActive (b.media k) ((handleCreateNamespaceRequest request b).2.media k)) := by
  have hrefl : ∀ k, SameActive (b.media k) (b.media k) := fun k => SameActive.refl _
  unfold handleCreateNamespaceRequest
  cases b.fdo with
  | none => exact Or.inr ⟨rfl, hrefl⟩
  | some fdo =>
      dsimp only
      split_ifs with hin hout hinput houtput
      · exact Or.inr ⟨rfl, hrefl⟩
      · exact Or.inr ⟨rfl, hrefl⟩
      · exact Or.inr ⟨by simpa using hinput, hrefl⟩
      · exact Or.inr ⟨by simpa using houtput, hrefl⟩
      · cases hfind : ctrlDevFindController b request.input.controllerId with
        | none => exact Or.inr ⟨rfl, hrefl⟩
        | some k =>
            have hk := ctrlDevFindController_lt hfind
            dsimp only
            -- the table of controller `k` is replaced, whether the handler succeeds or not
            rcases createNamespace_cases b.config (b.media k) b.os request.input.config with
              ⟨i, hok, hnsid, hcreated⟩ | ⟨hfail, hsame⟩
            · rw [if_pos hok]
              refine Or.inl ⟨k, i, rfl, hok, ?_, ?_, fun j hj => ?_⟩
              · dsimp only
                rw [hnsid]
              · refine Eq.subst (motive := fun m => Created (b.media k) m i) ?_ hcreated
                exact ((media_setMedia hk _ k).trans (if_pos rfl)).symm
              · exact (media_setMedia hk _ j).trans (if_neg hj)
            · rw [if_neg (by rw [hfail]; exact Bool.false_ne_true)]
              exact Or.inr ⟨hfail, setMedia_sameActive hk hsame⟩

theorem deleteRequest_cases (request : Ioctl DeleteNamespaceInput) (b : Bus) :
    (∃ k, ctrlDevFindController b request.input.controllerId = some k ∧
      (handleDeleteNamespaceRequest request b).1.ntSuccess = true ∧
      Deleted (b.media k) ((handleDeleteNamespaceRequest request b).2.media k)
        (request.input.nsid.toNat - 1) ∧
      ∀ j, j ≠ k → (handleDeleteNamespaceRequest request b).2.media j = b.media j) ∨
    ((handleDeleteNamespaceRequest request b).1.ntSuccess = false ∧
      ∀ k, SameActive (b.media k) ((handleDeleteNamespaceRequest request b).2.media k)) := by
  have hrefl : ∀ k, SameActive (b.media k) (b.media k) := fun k => SameActive.refl _
  unfold handleDeleteNamespaceRequest
  cases b.fdo with
  | none => exact Or.inr ⟨rfl, hrefl⟩
  | some fdo =>
      dsimp only
      split_ifs with hin hinput
      · exact Or.inr ⟨rfl, hrefl⟩
      · exact Or.inr ⟨by simpa using hinput, hrefl⟩
      · cases hfind : ctrlDevFindController b request.input.controllerId with
        | none => exact Or.inr ⟨rfl, hrefl⟩
        | some k =>
            have hk := ctrlDevFindController_lt hfind
            dsimp only
            rcases deleteNamespace_cases (b.media k) request.input.nsid with
              ⟨hok, hdeleted⟩ | ⟨hfail, hsame⟩
            · refine Or.inl ⟨k, rfl, hok, ?_, fun j hj => ?_⟩
              · rw [media_setMedia hk, if_pos rfl]
                exact hdeleted
              · rw [media_setMedia hk, if_neg hj]
            · exact Or.inr ⟨hfail, setMedia_sameActive hk hsame⟩

/-! ## Runs -/

/-- Every controller has a consistent table. -/
def TablesConsistent (b : Bus) : Prop := ∀ pdo ∈ b.controllers, pdo.toMedia.Consistent

/-- What holds of a table without namespaces, and of the table of every controller. -/
theorem forall_media_iff {P : Media → Prop} (hfresh : ∀ m : Media, m.Fresh → P m) (b : Bus) :
    (∀ pdo ∈ b.controllers, P pdo.toMedia) ↔ ∀ k, P (b.media k) := by
  constructor
  · intro h k
    unfold Bus.media
    rw [List.getD_eq_getElem?_getD]
    cases hk : b.controllers[k]? with
    | none => exact hfresh _ (Media.Fresh.mk rfl fun _ => rfl)
    | some pdo => exact h pdo (List.mem_of_getElem? hk)
  · intro h pdo hmem
    obtain ⟨k, hk, rfl⟩ := List.getElem_of_mem hmem
    have hmedia := h k
    rwa [Bus.media, List.getD_eq_getElem?_getD, List.getElem?_eq_getElem hk] at hmedia

theorem tablesConsistent_iff (b : Bus) : TablesConsistent b ↔ ∀ k, (b.media k).Consistent :=
  forall_media_iff (fun _ h => h.consistent) b

/-- One request keeps the tables consistent. -/
theorem namespaceStep_consistent (b : Bus) (e : NamespaceRequest) (h : TablesConsistent b) :
    TablesConsistent (namespaceStep b e) := by
  rw [tablesConsistent_iff] at h ⊢
  intro j
  cases e with
  | create request =>
      rcases createRequest_cases request b with ⟨k, i, -, -, -, hcreated, hother⟩ | ⟨-, hsame⟩
      · rcases eq_or_ne j k with rfl | hj
        · exact hcreated.table (h j)
        · exact (hother j hj).symm ▸ h j
      · exact (hsame j).consistent (h j)
  | delete request =>
      rcases deleteRequest_cases request b with ⟨k, -, -, hdeleted, hother⟩ | ⟨-, hsame⟩
      · rcases eq_or_ne j k with rfl | hj
        · exact hdeleted.table (h j)
        · exact (hother j hj).symm ▸ h j
      · exact (hsame j).consistent (h j)

theorem namespaceStep_createsLowest (b : Bus) (e : NamespaceRequest) : CreatesLowest b e := by
  cases e with
  | delete request => trivial
  | create request =>
      intro hok
      rcases createRequest_cases request b with
        ⟨k, i, hfind, -, houtput, hcreated, hother⟩ | ⟨hfail, -⟩
      · exact ⟨k, i, hfind, hcreated.lowest, houtput, hcreated.slots, hcreated.same, hother⟩
      · rw [hfail] at hok
        cases hok

theorem namespaceStep_failsUnchanged (b : Bus) (e : NamespaceRequest) : FailsUnchanged b e := by
  intro hstatus
  have hfail : ¬ (e.status b).ntSuccess = true := by
    intro hok
    exact hstatus (by simpa [NtStatus.ntSuccess] using hok)
  cases e with
  | create request =>
      rcases createRequest_cases request b with ⟨k, i, -, hok, -⟩ | ⟨-, hsame⟩
      · exact absurd hok hfail
      · exact hsame
  | delete request =>
      rcases deleteRequest_cases request b with ⟨k, -, hok, -⟩ | ⟨-, hsame⟩
      · exact absurd hok hfail
      · exact hsame

/-- **The namespace tables under creations and deletions.** Through any run of requests, from
controllers without namespaces: every table is consistent all along, a creation that succeeds
activates the lowest free slot and answers its id, and a request that fails leaves the active
namespaces and their contents as they are. -/
theorem namespaceTables_consistent (b : Bus) (hfresh : ∀ pdo ∈ b.controllers, pdo.toMedia.Fresh)
    (es : List NamespaceRequest) :
    Throughout namespaceStep TablesConsistent b es ∧
      EachStep namespaceStep CreatesLowest b es ∧
      EachStep namespaceStep FailsUnchanged b es := by
  refine ⟨fun pre post _ => ?_, fun pre e post _ => ?_, fun pre e post _ => ?_⟩
  · exact run_induct namespaceStep_consistent (fun pdo hmem => (hfresh pdo hmem).consistent) pre
  · exact namespaceStep_createsLowest _ e
  · exact namespaceStep_failsUnchanged _ e

/-- One controller without namespaces. -/
def freshBus : Bus where
  config := .allQueues
  shm := none
  controllers := [{ controllerId := 1 }]

/-- A request to create a namespace of eight blocks on that controller. -/
def createEightBlocks (blockSize : UInt32) : Ioctl CreateNamespaceInput where
  inputBufferLength := 284
  outputBufferLength := 8
  input := { controllerId := 1, config := { totalBlocks := 8, blockSize := blockSize } }

/-- Create a namespace, fail to create one, create another, delete the first. -/
theorem namespaceTables_consistent_freshBus :
    let es : List NamespaceRequest :=
      [.create (createEightBlocks 512), .create (createEightBlocks 1024),
        .create (createEightBlocks 0),
        .delete { inputBufferLength := 8, input := { controllerId := 1, nsid := 1 } }]
    Throughout namespaceStep TablesConsistent freshBus es ∧
      EachStep namespaceStep CreatesLowest freshBus es ∧
      EachStep namespaceStep FailsUnchanged freshBus es := by
  refine namespaceTables_consistent freshBus (fun pdo hmem => ?_) _
  obtain rfl := List.mem_singleton.mp hmem
  exact ⟨rfl, fun _ => rfl⟩

end VirtualNvme
