import VirtualNvme.Runs
import VirtualNvme.Driver.Config

/-!
# What the configuration promises

The values that the registry and the SET_CONFIG requests can leave in the configuration, and what
a SET_CONFIG request makes of the fields it names. The range checks hold on every path; a value
that fails one is dropped, and the request succeeds nevertheless.
-/

namespace VirtualNvme

open Runs

/-! ## Ranges -/

/-- The value lies between the limits. -/
def Within (lo hi v : UInt32) : Prop := lo ≤ v ∧ v ≤ hi

instance (lo hi v : UInt32) : Decidable (Within lo hi v) := inferInstanceAs (Decidable (_ ∧ _))

theorem within_iff {lo hi v : UInt32} :
    Within lo hi v ↔ lo.toNat ≤ v.toNat ∧ v.toNat ≤ hi.toNat := by
  rw [Within, UInt32.le_iff_toNat_le, UInt32.le_iff_toNat_le]

theorem clampDword_within {lo hi : UInt32} (h : lo ≤ hi) (v : UInt32) :
    Within lo hi (clampDword v lo hi) := by
  unfold clampDword
  split_ifs with hlt hgt
  · exact ⟨UInt32.le_refl lo, h⟩
  · exact ⟨h, UInt32.le_refl hi⟩
  · exact ⟨UInt32.not_lt.mp hlt, UInt32.not_lt.mp hgt⟩

theorem configReadDwordClamped_within {lo hi value : UInt32} (h : Within lo hi value)
    (registry : Registry) (name : String) :
    Within lo hi (configReadDwordClamped registry name value lo hi) := by
  unfold configReadDwordClamped
  split
  · exact h
  · exact clampDword_within (UInt32.le_trans h.1 h.2) _

/-- The heartbeat time-out, in units of 100 ns, comes from milliseconds between the limits. -/
theorem msTo100ns_within_iff (ms : UInt32) :
    msTo100ns vnvmeMinHeartbeatMs ≤ msTo100ns ms ∧ msTo100ns ms ≤ msTo100ns vnvmeMaxHeartbeatMs ↔
      Within vnvmeMinHeartbeatMs vnvmeMaxHeartbeatMs ms := by
  rw [within_iff]
  unfold msTo100ns
  omega

/-- The configuration of the driver keeps to its limits. Times are in units of 100 ns. -/
structure VnvmeConfig.InRange (c : VnvmeConfig) : Prop where
  heartbeat : 10000000 ≤ c.heartbeatTimeout100ns ∧ c.heartbeatTimeout100ns ≤ 600000000
  pollInterval : Within 1 10000 c.doorbellPollIntervalUs
  batchSize : Within 1 256 c.batchSize
  maxIOQueues : Within 1 16 c.maxIOQueues
  adminQueueDepth : Within 16 64 c.adminQueueDepth
  ioQueueDepth : Within 16 256 c.ioQueueDepth
  storageType : c.storageType ≤ 3

/-- The fields that are fixed when the driver starts. -/
structure StartupFields where
  storageType : UInt32
  storagePath : List UInt16
  storageSizeGB : UInt32
  maxIOQueues : UInt32
  adminQueueDepth : UInt32
  ioQueueDepth : UInt32
  allowUserModeAccess : Bool
  requireAdminPrivilege : Bool
  deriving Repr, DecidableEq

def VnvmeConfig.startup (c : VnvmeConfig) : StartupFields :=
  { storageType := c.storageType
    storagePath := c.storagePath
    storageSizeGB := c.storageSizeGB
    maxIOQueues := c.maxIOQueues
    adminQueueDepth := c.adminQueueDepth
    ioQueueDepth := c.ioQueueDepth
    allowUserModeAccess := c.allowUserModeAccess
    requireAdminPrivilege := c.requireAdminPrivilege }

theorem defaultConfig_inRange : VnvmeConfig.InRange {} where
  heartbeat := by decide
  pollInterval := by decide
  batchSize := by decide
  maxIOQueues := by decide
  adminQueueDepth := by decide
  ioQueueDepth := by decide
  storageType := by decide

/-! ## The registry -/

/-- Whatever the registry holds, the loaded configuration is in range if it was before. -/
theorem vnvmeConfigInit_inRange (registry : Option Registry) {g : VnvmeConfig} (h : g.InRange) :
    (vnvmeConfigInit registry g).InRange := by
  cases registry with
  | none => exact h
  | some reg =>
      have hheartbeat : 10000000 ≤ (vnvmeConfigInit (some reg) g).heartbeatTimeout100ns ∧
          (vnvmeConfigInit (some reg) g).heartbeatTimeout100ns ≤ 600000000 := by
        -- the registry holds milliseconds, which are clamped before the conversion
        unfold vnvmeConfigInit
        dsimp only
        split
        · exact h.heartbeat
        · exact (msTo100ns_within_iff _).mpr (clampDword_within (by decide) _)
      have hstorage : (vnvmeConfigInit (some reg) g).storageType ≤ 3 := by
        -- not clamped: a storage type above 3 is dropped
        unfold vnvmeConfigInit
        dsimp only
        split
        · exact h.storageType
        · split_ifs with hle
          · exact hle
          · exact h.storageType
      exact
        { heartbeat := hheartbeat
          pollInterval := configReadDwordClamped_within h.pollInterval reg _
          batchSize := configReadDwordClamped_within h.batchSize reg _
          maxIOQueues := configReadDwordClamped_within h.maxIOQueues reg _
          adminQueueDepth := configReadDwordClamped_within h.adminQueueDepth reg _
          ioQueueDepth := configReadDwordClamped_within h.ioQueueDepth reg _
          storageType := hstorage }

/-! ## Requests -/

/-- What a check lets through satisfies it, and so does what is kept instead. -/
theorem guarded_holds {α : Type} {P : α → Prop} [DecidablePred P] (new : α) {old : α}
    (h : P old) : P (if P new then new else old) := by
  split_ifs with hnew
  · exact hnew
  · exact h

/-- A configuration in range satisfies the checks of `VnvmeConfigUpdate`, so an update keeps to
the limits whatever it asks for. -/
theorem vnvmeConfigUpdate_inRange {g : VnvmeConfig} (h : g.InRange) (c : Option VnvmeConfig) :
    (vnvmeConfigUpdate g c).2.InRange ∧ (vnvmeConfigUpdate g c).2.startup = g.startup := by
  cases c with
  | none => exact ⟨h, rfl⟩
  | some c =>
      -- three of the updated fields have limits; each is kept if the new value is outside them
      have hheartbeat := guarded_holds
        (P := fun v => v ≥ msTo100ns vnvmeMinHeartbeatMs ∧ v ≤ msTo100ns vnvmeMaxHeartbeatMs)
        c.heartbeatTimeout100ns h.heartbeat
      have hpoll := guarded_holds
        (P := fun v => v ≥ vnvmeMinPollIntervalUs ∧ v ≤ vnvmeMaxPollIntervalUs)
        c.doorbellPollIntervalUs h.pollInterval
      have hbatch := guarded_holds (P := fun v => v ≥ vnvmeMinBatchSize ∧ v ≤ vnvmeMaxBatchSize)
        c.batchSize h.batchSize
      exact ⟨⟨hheartbeat, hpoll, hbatch, h.maxIOQueues, h.adminQueueDepth, h.ioQueueDepth,
        h.storageType⟩, rfl⟩

/-- The request gets as far as the update: its buffer is there and its mask names dynamic fields
only. -/
def SetConfigAccepted (request : Ioctl SetConfigInput) : Prop :=
  584 ≤ request.inputBufferLength ∧ request.inputStatus = .success ∧
    request.input.names (~~~ vnvmeConfigFieldAllDynamic) = false

instance (request : Ioctl SetConfigInput) : Decidable (SetConfigAccepted request) :=
  inferInstanceAs (Decidable (_ ∧ _ ∧ _))

theorem vnvmeHandleSetConfig_accepted {request : Ioctl SetConfigInput}
    (h : SetConfigAccepted request) (g : VnvmeConfig) :
    vnvmeHandleSetConfig request g = vnvmeConfigUpdate g (some (request.input.applyTo g)) := by
  obtain ⟨hlen, hstatus, hmask⟩ := h
  unfold vnvmeHandleSetConfig
  rw [if_neg (Nat.not_lt.mpr hlen), hstatus, if_neg (by decide), hmask, if_neg (by decide)]

/-- A request that is turned away fails and changes nothing. -/
theorem vnvmeHandleSetConfig_rejected {request : Ioctl SetConfigInput}
    (h : ¬ SetConfigAccepted request) (g : VnvmeConfig) :
    (vnvmeHandleSetConfig request g).1.ntSuccess = false ∧
      (vnvmeHandleSetConfig request g).2 = g := by
  unfold vnvmeHandleSetConfig
  split_ifs with hlen hstatus hmask
  · exact ⟨rfl, rfl⟩
  · exact ⟨by simpa using hstatus, rfl⟩
  · exact ⟨rfl, rfl⟩
  -- all three checks passed, so it was accepted after all
  · refine absurd ⟨Nat.not_lt.mp hlen, ?_, eq_false_of_ne_true hmask⟩ h
    simpa [NtStatus.ntSuccess] using hstatus

/-- One SET_CONFIG request. -/
def setConfigStep (c : VnvmeConfig) (request : Ioctl SetConfigInput) : VnvmeConfig :=
  (vnvmeHandleSetConfig request c).2

theorem setConfigStep_inRange {c : VnvmeConfig} (h : c.InRange) (request : Ioctl SetConfigInput) :
    (setConfigStep c request).InRange ∧ (setConfigStep c request).startup = c.startup := by
  unfold setConfigStep
  by_cases hacc : SetConfigAccepted request
  · rw [vnvmeHandleSetConfig_accepted hacc]
    exact vnvmeConfigUpdate_inRange h _
  · rw [(vnvmeHandleSetConfig_rejected hacc c).2]
    exact ⟨h, rfl⟩

/-- A SET_CONFIG whose mask names a field outside the dynamic ones fails and changes nothing. -/
def ReadOnlyRejected (c : VnvmeConfig) (request : Ioctl SetConfigInput) : Prop :=
  request.input.names (~~~ vnvmeConfigFieldAllDynamic) = true →
    (vnvmeHandleSetConfig request c).1.ntSuccess = false ∧ setConfigStep c request = c

/-- **The configuration stays in range.** Whatever the registry held when the driver started and
whatever is requested afterwards, every value keeps to its limits, the start-up fields stay as
they were loaded, and a request that names a read-only field is rejected. -/
theorem config_stays_in_range (registry : Option Registry)
    (requests : List (Ioctl SetConfigInput)) :
    Throughout setConfigStep
        (fun c => c.InRange ∧ c.startup = (vnvmeConfigInit registry).startup)
        (vnvmeConfigInit registry) requests ∧
      EachStep setConfigStep ReadOnlyRejected (vnvmeConfigInit registry) requests := by
  constructor
  · intro pre post _
    apply run_induct (P := fun c : VnvmeConfig =>
      c.InRange ∧ c.startup = (vnvmeConfigInit registry).startup)
    · rintro c request ⟨hrange, hstartup⟩
      obtain ⟨hrange', hstartup'⟩ := setConfigStep_inRange hrange request
      exact ⟨hrange', hstartup'.trans hstartup⟩
    · exact ⟨vnvmeConfigInit_inRange registry defaultConfig_inRange, rfl⟩
  · intro pre request post _ hnames
    exact vnvmeHandleSetConfig_rejected (fun hacc => by simp [hacc.2.2] at hnames) _

/-! ## What the other modules read -/

/-- The number of the storage type as a backend; `VnvmeStorageCreate` treats any other number as
no backend at all. -/
def storageTypeOfWord (w : UInt32) : StorageType :=
  if w = 1 then .memory else if w = 2 then .file else if w = 3 then .sparse else .none

/-- The path up to its terminator. -/
def VnvmeConfig.path (c : VnvmeConfig) : List UInt16 := c.storagePath.takeWhile fun w => w != 0

/-- The part of a configuration in range that the command paths work with. -/
def VnvmeConfig.toConfig (c : VnvmeConfig) (h : c.InRange) : Config :=
  { maxIOQueues := c.maxIOQueues
    storageType := storageTypeOfWord c.storageType
    storagePath := c.path
    heartbeatTimeout100ns := c.heartbeatTimeout100ns
    maxIOQueues_pos := h.maxIOQueues.1
    maxIOQueues_le := h.maxIOQueues.2 }

/-- For the command paths the requests change nothing but the heartbeat time-out. -/
theorem toConfig_setConfigStep {c : VnvmeConfig} (h : c.InRange)
    (request : Ioctl SetConfigInput) :
    (setConfigStep c request).toConfig (setConfigStep_inRange h request).1 =
      { c.toConfig h with
        heartbeatTimeout100ns := (setConfigStep c request).heartbeatTimeout100ns } := by
  have hstartup := (setConfigStep_inRange h request).2
  have hmax : (setConfigStep c request).maxIOQueues = c.maxIOQueues :=
    congrArg StartupFields.maxIOQueues hstartup
  have htype : (setConfigStep c request).storageType = c.storageType :=
    congrArg StartupFields.storageType hstartup
  have hpath : (setConfigStep c request).storagePath = c.storagePath :=
    congrArg StartupFields.storagePath hstartup
  unfold VnvmeConfig.toConfig VnvmeConfig.path
  congr 1
  · rw [htype]
  · rw [hpath]

/-! ## Set, then get -/

/-- What GET_CONFIG reports: the contents of its output buffer, for a request with enough room. -/
def VnvmeConfig.report (c : VnvmeConfig) : Option GetConfigOutput :=
  (vnvmeHandleGetConfig { inputBufferLength := 0, outputBufferLength := 584, input := () } c).output

/-- The masked fields as requested, all others as they were. -/
def SetConfigInput.expected (input : SetConfigInput) (old : GetConfigOutput) : GetConfigOutput :=
  { old with
    config := { old.config with
      debugLevel := if input.names 0x0001 then input.config.debugLevel else old.config.debugLevel
      debugFlags := if input.names 0x0002 then input.config.debugFlags else old.config.debugFlags
      heartbeatTimeoutMs :=
        if input.names 0x0004 then input.config.heartbeatTimeoutMs
        else old.config.heartbeatTimeoutMs
      doorbellPollIntervalUs :=
        if input.names 0x0008 then input.config.doorbellPollIntervalUs
        else old.config.doorbellPollIntervalUs
      batchSize := if input.names 0x0010 then input.config.batchSize else old.config.batchSize } }

/-- Every masked value that has limits lies between them. -/
structure SetConfigInput.ValuesInRange (input : SetConfigInput) : Prop where
  heartbeat : input.names 0x0004 = true →
    Within vnvmeMinHeartbeatMs vnvmeMaxHeartbeatMs input.config.heartbeatTimeoutMs
  pollInterval : input.names 0x0008 = true →
    Within vnvmeMinPollIntervalUs vnvmeMaxPollIntervalUs input.config.doorbellPollIntervalUs
  batchSize : input.names 0x0010 = true →
    Within vnvmeMinBatchSize vnvmeMaxBatchSize input.config.batchSize

/-- The contract of SET_CONFIG: after a success GET_CONFIG reports what was asked for, and a value
out of range makes the request fail without effect. -/
def SetConfigContract (c : VnvmeConfig) (request : Ioctl SetConfigInput) : Prop :=
  ((vnvmeHandleSetConfig request c).1.ntSuccess = true →
    (setConfigStep c request).report = c.report.map request.input.expected) ∧
  (¬ request.input.ValuesInRange →
    (vnvmeHandleSetConfig request c).1.ntSuccess = false ∧ setConfigStep c request = c)

/-- Milliseconds survive the conversion to units of 100 ns and back. -/
theorem ofInt_msTo100ns (ms : UInt32) : UInt32.ofInt (Int.tdiv (msTo100ns ms) 10000) = ms := by
  have hdiv : Int.tdiv (msTo100ns ms) 10000 = ms.toNat :=
    Int.mul_tdiv_cancel _ (by decide)
  have hmod : ((ms.toNat : Int) % 2 ^ 32).toNat = ms.toNat := by
    have hlt := ms.toNat_lt
    omega
  rw [hdiv, UInt32.ofInt, hmod, UInt32.ofNat_toNat]

/-- A check that passes whenever the field is named makes no difference to the field. -/
theorem guarded_eq {α : Type} {P : α → Prop} [DecidablePred P] {named : Bool} {new : α}
    (h : named = true → P new) (old : α) :
    (if P (if named then new else old) then if named then new else old else old) =
      if named then new else old := by
  cases named with
  | false => exact ite_self old
  | true => exact if_pos (h rfl)

/-- In range, the update leaves exactly the configuration that was asked for. -/
theorem update_eq_applyTo {input : SetConfigInput} (h : input.ValuesInRange) (g : VnvmeConfig) :
    (vnvmeConfigUpdate g (some (input.applyTo g))).2 = input.applyTo g := by
  have hheartbeat := guarded_eq
    (P := fun v => v ≥ msTo100ns vnvmeMinHeartbeatMs ∧ v ≤ msTo100ns vnvmeMaxHeartbeatMs)
    (fun hnamed => (msTo100ns_within_iff _).mpr (h.heartbeat hnamed)) g.heartbeatTimeout100ns
  have hpoll := guarded_eq
    (P := fun v => v ≥ vnvmeMinPollIntervalUs ∧ v ≤ vnvmeMaxPollIntervalUs)
    h.pollInterval g.doorbellPollIntervalUs
  have hbatch := guarded_eq (P := fun v => v ≥ vnvmeMinBatchSize ∧ v ≤ vnvmeMaxBatchSize)
    h.batchSize g.batchSize
  unfold vnvmeConfigUpdate SetConfigInput.applyTo
  dsimp only
  rw [hheartbeat, hpoll, hbatch]

/-- GET_CONFIG of the configuration that was asked for. -/
theorem report_applyTo (input : SetConfigInput) (g : VnvmeConfig) :
    (input.applyTo g).report = g.report.map input.expected := by
  have hheartbeat :
      UInt32.ofInt (Int.tdiv (input.applyTo g).heartbeatTimeout100ns 10000) =
        if input.names 0x0004 then input.config.heartbeatTimeoutMs
        else UInt32.ofInt (Int.tdiv g.heartbeatTimeout100ns 10000) := by
    cases hnamed : input.names 0x0004 with
    | false => simp [SetConfigInput.applyTo, hnamed]
    | true =>
        have hnew : (input.applyTo g).heartbeatTimeout100ns =
            msTo100ns input.config.heartbeatTimeoutMs := by
          simp [SetConfigInput.applyTo, hnamed]
        rw [hnew, ofInt_msTo100ns]
        rfl
  show some _ = some _
  congr 1
  unfold SetConfigInput.expected
  dsimp only
  rw [hheartbeat]
  rfl

/-- **Set, then get.** For every configuration and every request, the contract is kept exactly if
a request that gets as far as the update asks for values in range. -/
theorem setConfig_contract_iff (c : VnvmeConfig) (request : Ioctl SetConfigInput) :
    SetConfigContract c request ↔
      (SetConfigAccepted request → request.input.ValuesInRange) := by
  by_cases hacc : SetConfigAccepted request
  · have hset := vnvmeHandleSetConfig_accepted hacc c
    have hsuccess : (vnvmeHandleSetConfig request c).1.ntSuccess = true := by
      rw [hset]
      rfl
    constructor
    -- past the mask the request always succeeds, so no value may be out of range
    · rintro ⟨-, hfails⟩ -
      by_contra hout
      exact Bool.false_ne_true ((hfails hout).1.symm.trans hsuccess)
    · intro hin
      refine ⟨fun _ => ?_, fun hout => absurd (hin hacc) hout⟩
      rw [setConfigStep, hset, update_eq_applyTo (hin hacc)]
      exact report_applyTo request.input c
  · obtain ⟨hfails, hsame⟩ := vnvmeHandleSetConfig_rejected hacc c
    refine iff_of_true ⟨fun hok => ?_, fun _ => ⟨hfails, hsame⟩⟩ fun h => absurd h hacc
    exact absurd (hfails.symm.trans hok) Bool.false_ne_true

/-- A request for a batch size of 0. -/
def zeroBatchRequest : Ioctl SetConfigInput :=
  { inputBufferLength := 584, input := { fieldMask := 0x0010, config := { batchSize := 0 } } }

/-- It succeeds and changes nothing. -/
theorem setConfig_drops_value :
    ¬ SetConfigContract {} zeroBatchRequest ∧
      (vnvmeHandleSetConfig zeroBatchRequest {}).1 = .success ∧
      (setConfigStep {} zeroBatchRequest).batchSize = 32 := by
  refine ⟨fun h => ?_, by decide, by decide⟩
  have hout : ¬ zeroBatchRequest.input.ValuesInRange := fun hin =>
    absurd (hin.batchSize (by decide)) (by decide)
  exact absurd (h.2 hout).1 (by decide)

end VirtualNvme
