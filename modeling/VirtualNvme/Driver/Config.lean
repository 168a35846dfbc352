import VirtualNvme.Driver.CtrlDev

/-!
# The configuration of the driver

`config.c` and the two configuration requests of `ctrl_dev.c`. `VnvmeConfigInit` loads the one
global `VNVME_CONFIG` from the registry, over its defaults; afterwards only `VnvmeConfigUpdate`
writes to it, on behalf of SET_CONFIG. The other modules work with the part of it that they read
(`Config`).
-/

namespace VirtualNvme

/-- `VNVME_CONFIG`, with the values of `g_Config` before it is loaded. The storage type is the
number behind the enumeration; `storagePath` is the whole array of 260 characters. -/
structure VnvmeConfig where
  debugLevel : UInt32 := 4
  debugFlags : UInt32 := 0xFFFFFFFF
  heartbeatTimeout100ns : Int := 10000 * 10000
  storageType : UInt32 := 1
  storagePath : List UInt16 := List.replicate 260 0
  storageSizeGB : UInt32 := 1
  maxIOQueues : UInt32 := 16
  adminQueueDepth : UInt32 := 64
  ioQueueDepth : UInt32 := 256
  doorbellPollIntervalUs : UInt32 := 100
  batchSize : UInt32 := 32
  allowUserModeAccess : Bool := true
  requireAdminPrivilege : Bool := true
  deriving Repr, DecidableEq

/-! ## Limits -/

/-- `VNVME_MIN_HEARTBEAT_MS` and `VNVME_MAX_HEARTBEAT_MS` -/
def vnvmeMinHeartbeatMs : UInt32 := 1000
def vnvmeMaxHeartbeatMs : UInt32 := 60000

/-- `VNVME_MIN_POLL_INTERVAL_US` and `VNVME_MAX_POLL_INTERVAL_US` -/
def vnvmeMinPollIntervalUs : UInt32 := 1
def vnvmeMaxPollIntervalUs : UInt32 := 10000

/-- `VNVME_MIN_BATCH_SIZE` and `VNVME_MAX_BATCH_SIZE` -/
def vnvmeMinBatchSize : UInt32 := 1
def vnvmeMaxBatchSize : UInt32 := 256

/-- `(LONGLONG)value * 10000LL`; the product of a 32-bit value fits 64 bits. -/
def msTo100ns (value : UInt32) : Int := value.toNat * 10000

/-! ## The registry -/

/-- A value of the registry: its type and its data. -/
structure RegValue where
  type : UInt32
  data : List UInt8
  deriving Repr, DecidableEq

/-- The values below the `Parameters` key, by name; `none` where the query fails. -/
abbrev Registry := String → Option RegValue

def wordOfBytes (bytes : List UInt8) : UInt32 :=
  bytes.foldr (fun b w => (w <<< 8) ||| b.toUInt32) 0

/-- Bytes as 16-bit characters. -/
def wideChars : List UInt8 → List UInt16
  | lo :: hi :: rest => (lo.toUInt16 ||| (hi.toUInt16 <<< 8)) :: wideChars rest
  | _ => []

/-- `ConfigReadDword`. Data of more than 8 bytes overflow the query buffer, which is a warning and
no success; any other length but 4 is refused. -/
def configReadDword (registry : Registry) (valueName : String) : Option UInt32 :=
  (registry valueName).bind fun v =>
    -- REG_DWORD
    if v.type = 4 ∧ v.data.length = 4 then some (wordOfBytes v.data) else none

/-- `ConfigReadString` into a buffer of `bufferLength` characters. An odd last byte is written
too, but the terminator goes over it. -/
def configReadString (registry : Registry) (valueName : String) (buffer : List UInt16)
    (bufferLength : Nat) : List UInt16 :=
  match registry valueName with
  | none => buffer
  | some v =>
    -- REG_SZ and REG_EXPAND_SZ, of what fits the query buffer
    if v.data.length ≤ 524 ∧ (v.type = 1 ∨ v.type = 2) then
      let copyLen := min v.data.length ((bufferLength - 1) * 2)
      wideChars (v.data.take copyLen) ++ 0 :: buffer.drop (copyLen / 2 + 1)
    else buffer

/-- `if (v < lo) v = lo; else if (v > hi) v = hi;` -/
def clampDword (v minValue maxValue : UInt32) : UInt32 :=
  if v < minValue then minValue else if v > maxValue then maxValue else v

/-- `ConfigReadDwordClamped` -/
def configReadDwordClamped (registry : Registry) (valueName : String)
    (value minValue maxValue : UInt32) : UInt32 :=
  match configReadDword registry valueName with
  | none => value
  | some regValue => clampDword regValue minValue maxValue

/-- What `VnvmeConfigInit` makes of the global configuration. The registry is `none` when the path
of the key is too long or the key cannot be opened. The first, clamped read of the heartbeat
time-out only sets a local variable, so it is left out. -/
def vnvmeConfigInit (registry : Option Registry) (g : VnvmeConfig := {}) : VnvmeConfig :=
  match registry with
  | none => g
  | some reg =>
    { g with
      debugLevel := (configReadDword reg "DebugLevel").getD g.debugLevel
      debugFlags := (configReadDword reg "DebugFlags").getD g.debugFlags
      heartbeatTimeout100ns :=
        match configReadDword reg "HeartbeatTimeoutMs" with
        | none => g.heartbeatTimeout100ns
        | some value => msTo100ns (clampDword value vnvmeMinHeartbeatMs vnvmeMaxHeartbeatMs)
      storageType :=
        match configReadDword reg "StorageType" with
        | none => g.storageType
        | some value => if value ≤ 3 then value else g.storageType
      storagePath := configReadString reg "StoragePath" g.storagePath 260
      storageSizeGB := configReadDwordClamped reg "StorageSizeGB" g.storageSizeGB 1 1024
      maxIOQueues := configReadDwordClamped reg "MaxIOQueues" g.maxIOQueues 1 16
      adminQueueDepth := configReadDwordClamped reg "AdminQueueDepth" g.adminQueueDepth 16 64
      ioQueueDepth := configReadDwordClamped reg "IOQueueDepth" g.ioQueueDepth 16 256
      doorbellPollIntervalUs := configReadDwordClamped reg "DoorbellPollIntervalUs"
        g.doorbellPollIntervalUs vnvmeMinPollIntervalUs vnvmeMaxPollIntervalUs
      batchSize := configReadDwordClamped reg "BatchSize" g.batchSize vnvmeMinBatchSize
        vnvmeMaxBatchSize }

/-! ## Updates -/

/-- `VnvmeConfigUpdate` of the global configuration. A value out of range is passed over. -/
def vnvmeConfigUpdate (g : VnvmeConfig) (config : Option VnvmeConfig) : NtStatus × VnvmeConfig :=
  match config with
  | none => (.invalidParameter, g)
  | some c =>
    (.success,
      { g with
        debugLevel := c.debugLevel
        debugFlags := c.debugFlags
        heartbeatTimeout100ns :=
          if c.heartbeatTimeout100ns ≥ msTo100ns vnvmeMinHeartbeatMs ∧
              c.heartbeatTimeout100ns ≤ msTo100ns vnvmeMaxHeartbeatMs then
            c.heartbeatTimeout100ns
          else g.heartbeatTimeout100ns
        doorbellPollIntervalUs :=
          if c.doorbellPollIntervalUs ≥ vnvmeMinPollIntervalUs ∧
              c.doorbellPollIntervalUs ≤ vnvmeMaxPollIntervalUs then
            c.doorbellPollIntervalUs
          else g.doorbellPollIntervalUs
        batchSize :=
          if c.batchSize ≥ vnvmeMinBatchSize ∧ c.batchSize ≤ vnvmeMaxBatchSize then c.batchSize
          else g.batchSize })

/-! ## The configuration requests -/

/-- `VNVME_IOCTL_CONFIG`, without its reserved words. -/
structure VnvmeIoctlConfig where
  debugLevel : UInt32 := 0
  debugFlags : UInt32 := 0
  heartbeatTimeoutMs : UInt32 := 0
  storageType : UInt32 := 0
  storageSizeGB : UInt32 := 0
  storagePath : List UInt16 := List.replicate 260 0
  maxIOQueues : UInt32 := 0
  adminQueueDepth : UInt32 := 0
  ioQueueDepth : UInt32 := 0
  doorbellPollIntervalUs : UInt32 := 0
  batchSize : UInt32 := 0
  allowUserModeAccess : UInt32 := 0
  requireAdminPrivilege : UInt32 := 0
  deriving Repr, DecidableEq

/-- `VNVME_CONFIG_FIELD_ALL_DYNAMIC` -/
def vnvmeConfigFieldAllDynamic : UInt32 := 0x001F

/-- `VNVME_GET_CONFIG_OUTPUT`, 584 bytes. -/
structure GetConfigOutput where
  config : VnvmeIoctlConfig
  dynamicFieldMask : UInt32
  deriving Repr, DecidableEq

/-- `VNVME_SET_CONFIG_INPUT`, 584 bytes. -/
structure SetConfigInput where
  fieldMask : UInt32 := 0
  config : VnvmeIoctlConfig := {}
  deriving Repr, DecidableEq

/-- The answer to GET_CONFIG. -/
structure GetConfigReply where
  status : NtStatus
  bytesReturned : Nat := 0
  output : Option GetConfigOutput := none
  deriving Repr, DecidableEq

/-- `VnvmeHandleGetConfig` -/
def vnvmeHandleGetConfig (request : Ioctl Unit) (config : VnvmeConfig) : GetConfigReply :=
  if request.outputBufferLength < 584 then { status := .bufferTooSmall }
  else if !request.outputStatus.ntSuccess then { status := request.outputStatus }
  else
    { status := .success
      bytesReturned := 584
      output := some
        { config :=
            { debugLevel := config.debugLevel
              debugFlags := config.debugFlags
              heartbeatTimeoutMs := UInt32.ofInt (Int.tdiv config.heartbeatTimeout100ns 10000)
              storageType := config.storageType
              storageSizeGB := config.storageSizeGB
              storagePath := config.storagePath
              maxIOQueues := config.maxIOQueues
              adminQueueDepth := config.adminQueueDepth
              ioQueueDepth := config.ioQueueDepth
              doorbellPollIntervalUs := config.doorbellPollIntervalUs
              batchSize := config.batchSize
              allowUserModeAccess := if config.allowUserModeAccess then 1 else 0
              requireAdminPrivilege := if config.requireAdminPrivilege then 1 else 0 }
          dynamicFieldMask := vnvmeConfigFieldAllDynamic } }

/-- `fieldMask & VNVME_CONFIG_FIELD_...` -/
def SetConfigInput.names (input : SetConfigInput) (field : UInt32) : Bool :=
  input.fieldMask &&& field ≠ 0

/-- The current configuration with the named fields replaced. -/
def SetConfigInput.applyTo (input : SetConfigInput) (g : VnvmeConfig) : VnvmeConfig :=
  { g with
    debugLevel := if input.names 0x0001 then input.config.debugLevel else g.debugLevel
    debugFlags := if input.names 0x0002 then input.config.debugFlags else g.debugFlags
    heartbeatTimeout100ns :=
      if input.names 0x0004 then msTo100ns input.config.heartbeatTimeoutMs
      else g.heartbeatTimeout100ns
    doorbellPollIntervalUs :=
      if input.names 0x0008 then input.config.doorbellPollIntervalUs
      else g.doorbellPollIntervalUs
    batchSize := if input.names 0x0010 then input.config.batchSize else g.batchSize }

/-- `VnvmeHandleSetConfig` -/
def vnvmeHandleSetConfig (request : Ioctl SetConfigInput) (g : VnvmeConfig) :
    NtStatus × VnvmeConfig :=
  if request.inputBufferLength < 584 then (.bufferTooSmall, g)
  else if !request.inputStatus.ntSuccess then (request.inputStatus, g)
  else if request.input.names (~~~ vnvmeConfigFieldAllDynamic) then (.accessDenied, g)
  else vnvmeConfigUpdate g (some (request.input.applyTo g))

end VirtualNvme
