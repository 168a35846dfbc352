import VirtualNvme.Server.Context
import VirtualNvme.Vnvmectl
import Mathlib.Data.Rat.Floor
import Mathlib.Data.List.DropRight

/-!
# The server's configuration

`config.c` of the server: the defaults, the command line and the configuration file. A string
is the list of its bytes, each written as a character; a string for the system is a list of
UTF-16 code units.
-/

namespace VirtualNvme

/-- `LOG_LEVEL` -/
inductive LogLevel where
  | none
  | error
  | warning
  | info
  | debug
  | verbose
  deriving Repr, DecidableEq

/-- The field `log` of `SERVER_CONFIG`. The defaults here and below are those of
`ConfigSetDefaults`. -/
structure LogConfig where
  level : LogLevel := .info
  enableConsole : Bool := true
  enableFile : Bool := false
  filePath : List UInt16 := []
  deriving Repr, DecidableEq

/-- `STORAGE_CONFIG` -/
structure StorageConfig where
  backendType : BackendType := .memory
  size : UInt64 := 100 * 1024 * 1024 * 1024
  blockSize : UInt32 := 512
  filePath : List UInt16 := []
  readOnly : Bool := false
  directIO : Bool := false
  preallocate : Bool := false
  deriving Repr, DecidableEq

/-- `CONTROLLER_CONFIG` -/
structure ControllerConfig where
  modelNumber : List Char := "Virtual NVMe SSD".toList
  serialNumber : List Char := "VNVME00000001".toList
  vendorId : UInt16 := 0x1B36
  deviceId : UInt16 := 0x0010
  deriving Repr, DecidableEq

/-- `SERVER_CONFIG` -/
structure ServerConfig where
  log : LogConfig := {}
  storage : StorageConfig := {}
  controller : ControllerConfig := {}
  heartbeatIntervalMs : UInt32 := 1000
  pollIntervalUs : UInt32 := 100
  daemonMode : Bool := false
  configFilePath : List UInt16 := []
  deriving Repr, DecidableEq

/-! ## Strings and numbers -/

/-- The value of a `double` -/
inductive Double where
  | finite (value : ℚ)
  | infinite (negative : Bool)
  | nan
  deriving DecidableEq

/-- What the system makes of a string: the number at its start with what follows it, and what
`MultiByteToWideChar` leaves of it in a buffer of 260 characters that held something before. -/
structure StringCalls where
  strtod : List Char → Double × List Char
  multiByteToWideChar : List Char → List UInt16 → List UInt16

/-- `value < 0` -/
def Double.isNegative : Double → Bool
  | .finite value => decide (value < 0)
  | .infinite negative => negative
  | .nan => false

/-- `(UINT64)(value * multiplier)`, which the language leaves undefined when the product does not
fit. The multiplier is a power of two, so that the product is exact. -/
def Double.toUInt64 (multiplier : ℕ) : Double → Option UInt64
  | .finite value =>
    if value * multiplier < 2 ^ 64 then some (UInt64.ofNat ⌊value * multiplier⌋₊) else none
  | _ => none

/-- The multiplier that `ConfigParseSize` reads off what follows the number. -/
def sizeMultiplier (rest : List Char) : Option ℕ :=
  match rest.head?.map Char.toUpper with
  | some 'K' => some 1024
  | some 'M' => some (1024 * 1024)
  | some 'G' => some (1024 * 1024 * 1024)
  | some 'T' => some (1024 * 1024 * 1024 * 1024)
  | none | some 'B' => some 1
  | some _ => none

/-- `ConfigParseSize`; without a result where the conversion is undefined. -/
def configParseSize (calls : StringCalls) (str : List Char) : Option UInt64 :=
  if str = [] then some 0
  else
    let (value, rest) := calls.strtod str
    if value.isNegative then some 0
    else
      match sizeMultiplier rest with
      | some multiplier => value.toUInt64 multiplier
      | none => some 0

/-- `_stricmp(str, text) == 0` -/
def stricmp (str : List Char) (text : String) : Bool :=
  str.map Char.toLower == text.toList.map Char.toLower

/-- `ParseLogLevel` -/
def parseLogLevel (str : List Char) : LogLevel :=
  if stricmp str "error" then .error
  else if stricmp str "warn" || stricmp str "warning" then .warning
  else if stricmp str "info" then .info
  else if stricmp str "debug" then .debug
  else if stricmp str "verbose" then .verbose
  else if stricmp str "none" then .none
  else .info

/-! ## The command line -/

/-- How `ConfigParseArgs` ends: with a configuration, with an error that it logs, with `exit(0)`,
or without a defined result. -/
inductive ParsedArgs where
  | config (c : ServerConfig)
  | failed (message : List Char)
  | exits
  | undefined
  deriving DecidableEq

/-- What the loop of `ConfigParseArgs` does with an argument: it ends, goes on after it, or goes
on after the argument that follows it. -/
inductive ArgStep where
  | stop (result : ParsedArgs)
  | flag (c : ServerConfig)
  | took (c : ServerConfig)
  deriving DecidableEq

/-- `strcmp(arg, short) == 0 || strcmp(arg, long) == 0` -/
def namesOption (arg : List Char) (short long : String) : Bool :=
  arg == short.toList || arg == long.toList

/-- The value of an option: the next argument, if there is one. -/
def optionValue (arg : List Char) (next : Option (List Char)) (short long : String) :
    Option (List Char) :=
  if namesOption arg short long then next else none

/-- The body of the loop of `ConfigParseArgs`. -/
def configArgument (calls : StringCalls) (c : ServerConfig) (arg : List Char)
    (next : Option (List Char)) : ArgStep :=
  if namesOption arg "-h" "--help" then .stop .exits
  else if namesOption arg "-v" "--version" then .stop .exits
  else if let some path := optionValue arg next "-c" "--config" then
    .took { c with configFilePath := calls.multiByteToWideChar path c.configFilePath }
  else if let some str := optionValue arg next "-s" "--size" then
    match configParseSize calls str with
    | none => .stop .undefined
    | some size =>
      if size = 0 then .stop (.failed ("Invalid size: ".toList ++ str))
      else .took { c with storage := { c.storage with size } }
  else if let some type := optionValue arg next "-b" "--backend" then
    if stricmp type "memory" || stricmp type "mem" then
      .took { c with storage := { c.storage with backendType := .memory } }
    else if stricmp type "file" then
      .took { c with storage := { c.storage with backendType := .file } }
    else .stop (.failed ("Unknown backend type: ".toList ++ type))
  else if let some path := optionValue arg next "-f" "--file" then
    .took { c with storage := { c.storage with
      filePath := calls.multiByteToWideChar path c.storage.filePath } }
  else if arg == "--direct-io".toList then
    .flag { c with storage := { c.storage with directIO := true } }
  else if arg == "--preallocate".toList then
    .flag { c with storage := { c.storage with preallocate := true } }
  else if let some name := optionValue arg next "-m" "--model" then
    .took { c with controller := { c.controller with modelNumber := name.take 39 } }
  else if let some sn := optionValue arg next "-n" "--serial" then
    .took { c with controller := { c.controller with serialNumber := sn.take 19 } }
  else if let some level := optionValue arg next "--log-level" "--log-level" then
    .took { c with log := { c.log with level := parseLogLevel level } }
  else if let some path := optionValue arg next "--log-file" "--log-file" then
    .took { c with log := { c.log with
      filePath := calls.multiByteToWideChar path c.log.filePath, enableFile := true } }
  else if arg == "--daemon".toList then .flag { c with daemonMode := true }
  else .stop (.failed ("Unknown option: ".toList ++ arg))

/-- The loop of `ConfigParseArgs` over the arguments after the program's name. -/
def configParseArgs (calls : StringCalls) (c : ServerConfig) : List (List Char) → ParsedArgs
  | [] => .config c
  | [arg] =>
    match configArgument calls c arg none with
    | .stop result => result
    | .flag c' | .took c' => .config c'
  | arg :: value :: args =>
    match configArgument calls c arg (some value) with
    | .stop result => result
    | .flag c' => configParseArgs calls c' (value :: args)
    | .took c' => configParseArgs calls c' args

/-! ## The configuration file -/

/-- `TrimString` -/
def trimString (str : List Char) : List Char := (str.dropWhile isSpace).rdropWhile isSpace

/-- The value of a digit of a number with the given base. -/
def digitValue (base : Nat) (c : Char) : Option Nat :=
  let digit :=
    if c.isDigit then some (c.toNat - '0'.toNat)
    else if c.isAlpha then some (c.toUpper.toNat - 'A'.toNat + 10)
    else none
  digit.filter (· < base)

/-- The number that the digits at the start of a string make. -/
def strtoulDigits (base : Nat) (str : List Char) : Nat :=
  (str.map (digitValue base)).takeWhile Option.isSome |>.foldl
    (fun value digit => value * base + digit.getD 0) 0

/-- `strtoul(str, NULL, 0)`, where a prefix says which base it is. What does not fit into 32 bits is
`ULONG_MAX`. -/
def strtoul (str : List Char) : UInt32 :=
  let str := str.dropWhile isSpace
  let negative := str.head? == some '-'
  let str := if str.head? == some '-' || str.head? == some '+' then str.tail else str
  let value :=
    match str with
    | '0' :: 'x' :: digits | '0' :: 'X' :: digits => strtoulDigits 16 digits
    | '0' :: digits => strtoulDigits 8 digits
    | digits => strtoulDigits 10 digits
  if value ≥ 2 ^ 32 then 0xFFFFFFFF
  else if negative then 0 - UInt32.ofNat value
  else UInt32.ofNat value

/-- `_stricmp(value, "true") == 0 || _stricmp(value, "1") == 0` -/
def isTrueValue (value : List Char) : Bool := stricmp value "true" || stricmp value "1"

/-- What a key of the sections `storage` and `namespace` sets. -/
def configStorageKey (calls : StringCalls) (key value : List Char) (c : StorageConfig) :
    Option StorageConfig :=
  if stricmp key "Size" || stricmp key "NamespaceSize" then
    (configParseSize calls value).map fun size => { c with size }
  else if stricmp key "Type" || stricmp key "BackendType" then
    if stricmp value "memory" then some { c with backendType := .memory }
    else if stricmp value "file" then some { c with backendType := .file }
    else some c
  else if stricmp key "File" || stricmp key "BackendFile" then
    some { c with filePath := calls.multiByteToWideChar value c.filePath }
  else if stricmp key "ReadOnly" then some { c with readOnly := isTrueValue value }
  else if stricmp key "DirectIO" then some { c with directIO := isTrueValue value }
  else some c

/-- What a key of the section `controller` sets. -/
def configControllerKey (key value : List Char) (c : ControllerConfig) : ControllerConfig :=
  if stricmp key "Model" || stricmp key "ModelNumber" then { c with modelNumber := value.take 39 }
  else if stricmp key "Serial" || stricmp key "SerialNumber" then
    { c with serialNumber := value.take 19 }
  else if stricmp key "VendorId" then { c with vendorId := (strtoul value).toUInt16 }
  else if stricmp key "DeviceId" then { c with deviceId := (strtoul value).toUInt16 }
  else c

/-- What a key of the sections `log` and `logging` sets. -/
def configLogKey (calls : StringCalls) (key value : List Char) (c : LogConfig) : LogConfig :=
  if stricmp key "Level" then { c with level := parseLogLevel value }
  else if stricmp key "File" then
    { c with filePath := calls.multiByteToWideChar value c.filePath, enableFile := true }
  else if stricmp key "Console" then { c with enableConsole := isTrueValue value }
  else c

/-- What a key of the sections `runtime` and `server` sets. -/
def configRuntimeKey (key value : List Char) (c : ServerConfig) : ServerConfig :=
  if stricmp key "HeartbeatInterval" then { c with heartbeatIntervalMs := strtoul value }
  else if stricmp key "PollInterval" then { c with pollIntervalUs := strtoul value }
  else if stricmp key "Daemon" then { c with daemonMode := isTrueValue value }
  else c

/-- What a key sets in a section. There is no result where `ConfigParseSize` has none. -/
def configKey (calls : StringCalls) (currentSection key value : List Char) (c : ServerConfig) :
    Option ServerConfig :=
  if stricmp currentSection "storage" || stricmp currentSection "namespace" then
    (configStorageKey calls key value c.storage).map fun storage => { c with storage }
  else if stricmp currentSection "controller" then
    some { c with controller := configControllerKey key value c.controller }
  else if stricmp currentSection "log" || stricmp currentSection "logging" then
    some { c with log := configLogKey calls key value c.log }
  else if stricmp currentSection "runtime" || stricmp currentSection "server" then
    some (configRuntimeKey key value c)
  else some c

/-- Where `ConfigLoadFile` is: the section, and the configuration so far. -/
structure ConfigLoading where
  currentSection : List Char := []
  config : ServerConfig
  deriving DecidableEq

/-- One round of the loop of `ConfigLoadFile`. -/
def configLine (calls : StringCalls) (s : ConfigLoading) (line : List Char) :
    Option ConfigLoading :=
  match trimString line with
  | [] => some s
  | c :: rest =>
    if c = ';' ∨ c = '#' then some s
    else if c = '[' then
      if ']' ∈ rest then some { s with currentSection := (rest.takeWhile (· ≠ ']')).take 63 }
      else some s
    else if '=' ∈ c :: rest then
      let key := trimString ((c :: rest).takeWhile (· ≠ '='))
      let value := trimString ((c :: rest).dropWhile (· ≠ '=')).tail
      (configKey calls s.currentSection key value s.config).map fun config => { s with config }
    else some s

/-- What `fgets` returns call by call, with a buffer of 1024 bytes; `line` is what it has read of
the present one. -/
def fgetsLines (line : List Char) : List Char → List (List Char)
  | [] => if line = [] then [] else [line]
  | c :: rest =>
    if c = '\n' ∨ line.length + 1 = 1023 then (line ++ [c]) :: fgetsLines [] rest
    else fgetsLines (line ++ [c]) rest

/-- `ConfigLoadFile` on a file that can be opened. The file has no byte 0. -/
def configLoadFile (calls : StringCalls) (content : List Char) (c : ServerConfig) :
    Option ServerConfig :=
  ((fgetsLines [] content).foldlM (configLine calls) { config := c }).map (·.config)

/-- `ConfigValidate` -/
def configValidate (c : ServerConfig) : Bool :=
  c.storage.size != 0 &&
    !(c.storage.backendType == .file && c.storage.filePath.isEmpty) &&
    !c.controller.serialNumber.isEmpty

end VirtualNvme
