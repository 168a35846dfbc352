import Mathlib.Algebra.Order.Ring.Int

/-!
# The command line tool

How `vnvmectl create` reads its options, as of `main.c` of `vnvmectl`. A string is the list of its
characters.
-/

namespace VirtualNvme

/-! ## Numbers -/

/-- `isspace` in the C locale -/
def isSpace (c : Char) : Bool := c == ' ' || (9 ≤ c.toNat && c.toNat ≤ 13)

/-- The digits at the start of a string, as a number. -/
def leadingNumber (str : List Char) : ℕ := Nat.ofDigitChars 10 (str.takeWhile Char.isDigit) 0

/-- `_atoi64`: white space, a sign and digits. What does not fit into 64 bits is saturated. -/
def atoi64 (str : List Char) : Int :=
  match str.dropWhile isSpace with
  | '-' :: digits => max (-(leadingNumber digits : Int)) (-2 ^ 63)
  | '+' :: digits => min (leadingNumber digits : Int) (2 ^ 63 - 1)
  | digits => min (leadingNumber digits : Int) (2 ^ 63 - 1)

/-- The letters that `ParseSizeString` looks for at the end. -/
def isSizeSuffix (c : Char) : Bool :=
  c == 'K' || c == 'k' || c == 'M' || c == 'm' || c == 'G' || c == 'g' || c == 'T' || c == 't'

/-- The last `switch` of `ParseSizeString` -/
def applySuffix (value : UInt64) (suffix : Char) : UInt64 :=
  if suffix == 'K' || suffix == 'k' then value * 1024
  else if suffix == 'M' || suffix == 'm' then value * (1024 * 1024)
  else if suffix == 'G' || suffix == 'g' then value * (1024 * 1024 * 1024)
  else if suffix == 'T' || suffix == 't' then value * (1024 * 1024 * 1024 * 1024)
  else value

/-- `ParseSizeString`; `copied` says whether `_strdup` has memory for a copy. The length is cast to
an `int`, and with a negative one the suffix is read before the string: there is no result. -/
def parseSizeString (copied : Bool) (str : List Char) : Option UInt64 :=
  let len : Int := (str.length : Int).bmod (2 ^ 32)
  if len = 0 then some 0
  else if len < 0 then none
  else (str[(len - 1).toNat]?).map fun suffix =>
    if isSizeSuffix suffix then
      let value := if copied then UInt64.ofInt (atoi64 (str.take (len - 1).toNat)) else 0
      applySuffix value suffix
    -- `suffix = 0`, so nothing is applied
    else UInt64.ofInt (atoi64 str)

/-! ## The options of `create` -/

/-- `VNVME_CONTROLLER_CONFIG`, with the defaults of `CmdCreate` -/
structure VnvmeControllerConfig where
  serialNumber : List Char := "VNVME00001".toList
  modelNumber : List Char := "Virtual NVMe".toList
  firmwareRevision : List Char := "1.0.0".toList
  maxNamespaces : UInt32 := 1
  maxQueuePairs : UInt32 := 16
  maxQueueDepth : UInt32 := 256
  maxTransferSize : UInt32 := 1024 * 1024
  storageType : UInt32 := 1
  namespaceSize : UInt64 := 64 * 1024 * 1024
  blockSize : UInt32 := 512
  filePath : List UInt16 := []

/-- An argument, and what the system does with it: whether `_strdup` has memory for its value, and
what `MultiByteToWideChar` makes of that within 260 characters, `none` when it fails. -/
structure CtlArgument where
  text : List Char
  copied : Bool := true
  wide : Option (List UInt16) := none

/-- The value of an argument that starts with the name of an option. -/
def CtlArgument.value (option : String) (arg : CtlArgument) : Option (List Char) :=
  option.toList.isPrefixOf? arg.text

/-- `fprintf(stderr, "Error: … '%s'\n", str)` -/
def ctlError (what : String) (str : List Char) : List Char :=
  "Error: ".toList ++ what.toList ++ " '".toList ++ str ++ "'\n".toList

/-- The body of the loop of `CmdCreate` over its arguments. -/
def cmdCreateArgument (config : VnvmeControllerConfig) (arg : CtlArgument) :
    Option (Except (List Char) VnvmeControllerConfig) :=
  if let some str := arg.value "--size=" then
    (parseSizeString arg.copied str).map fun size =>
      if size = 0 then .error (ctlError "Invalid size" str)
      else .ok { config with namespaceSize := size }
  else if let some backend := arg.value "--backend=" then
    if backend = "memory".toList then some (.ok { config with storageType := 1 })
    else if backend = "file".toList then some (.ok { config with storageType := 2 })
    else some (.error (ctlError "Unknown backend" backend))
  else if let some path := arg.value "--file=" then
    match arg.wide with
    | some filePath => some (.ok { config with filePath })
    | none => some (.error (ctlError "Invalid file path" path))
  else if let some model := arg.value "--model=" then
    some (.ok { config with modelNumber := model.take 39 })
  else if let some serial := arg.value "--serial=" then
    some (.ok { config with serialNumber := serial.take 19 })
  else some (.error (ctlError "Unknown option" arg.text))

/-- `CmdCreate` up to the request: the configuration that it sends, or the error that it reports. -/
def cmdCreate (config : VnvmeControllerConfig) :
    List CtlArgument → Option (Except (List Char) VnvmeControllerConfig)
  | [] =>
    if config.storageType = 2 ∧ config.filePath = [] then
      some (.error "Error: File backend requires --file=<path>\n".toList)
    else some (.ok config)
  | arg :: args =>
    match cmdCreateArgument config arg with
    | some (.ok config) => cmdCreate config args
    | result => result

end VirtualNvme
