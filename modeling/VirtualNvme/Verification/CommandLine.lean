import VirtualNvme.Server.Config
import VirtualNvme.Assignments

/-!
# The server's command line

The options of the server as data (`ServerOption`): the words they are written with, what each
sets, and which values are refused. `ConfigParseArgs` accepts exactly the sequences of options
with no refused value, and the configuration then holds, field by field, what the last option for
it says. Every other command line ends where its options do: at a request for help, at a refused
value or at a word that is no option there.
-/

namespace VirtualNvme

open Assignments

/-- An option of the server, with its value. -/
inductive ServerOption where
  | config (path : List Char)
  | size (str : List Char)
  | backend (type : List Char)
  | file (path : List Char)
  | directIO
  | preallocate
  | model (name : List Char)
  | serial (sn : List Char)
  | logLevel (level : List Char)
  | logFile (path : List Char)
  | daemon
  deriving DecidableEq

namespace ServerOption

/-- The name of an option, in its short or its long spelling. -/
def name (short : Bool) : ServerOption → List Char
  | config _ => if short then "-c".toList else "--config".toList
  | size _ => if short then "-s".toList else "--size".toList
  | backend _ => if short then "-b".toList else "--backend".toList
  | file _ => if short then "-f".toList else "--file".toList
  | directIO => "--direct-io".toList
  | preallocate => "--preallocate".toList
  | model _ => if short then "-m".toList else "--model".toList
  | serial _ => if short then "-n".toList else "--serial".toList
  | logLevel _ => "--log-level".toList
  | logFile _ => "--log-file".toList
  | daemon => "--daemon".toList

def value : ServerOption → Option (List Char)
  | config str | size str | backend str | file str | model str | serial str | logLevel str
  | logFile str => some str
  | directIO | preallocate | daemon => none

/-- The words of an option. -/
def words (short : Bool) (o : ServerOption) : List (List Char) := o.name short :: o.value.toList

/-- How an option with a value that is refused ends the command line. -/
def refusal (calls : StringCalls) : ServerOption → Option ParsedArgs
  | size str =>
    match configParseSize calls str with
    | none => some .undefined
    | some bytes => if bytes = 0 then some (.failed ("Invalid size: ".toList ++ str)) else none
  | backend type =>
    if stricmp type "memory" || stricmp type "mem" || stricmp type "file" then none
    else some (.failed ("Unknown backend type: ".toList ++ type))
  | _ => none

/-- What an option sets. -/
def apply (calls : StringCalls) (c : ServerConfig) : ServerOption → ServerConfig
  | config path =>
    { c with configFilePath := calls.multiByteToWideChar path c.configFilePath }
  | size str =>
    { c with storage := { c.storage with size := (configParseSize calls str).getD 0 } }
  | backend type => { c with storage := { c.storage with
      backendType := if stricmp type "memory" || stricmp type "mem" then .memory else .file } }
  | file path => { c with storage := { c.storage with
      filePath := calls.multiByteToWideChar path c.storage.filePath } }
  | directIO => { c with storage := { c.storage with directIO := true } }
  | preallocate => { c with storage := { c.storage with preallocate := true } }
  | model name => { c with controller := { c.controller with modelNumber := name.take 39 } }
  | serial sn => { c with controller := { c.controller with serialNumber := sn.take 19 } }
  | logLevel level => { c with log := { c.log with level := parseLogLevel level } }
  | logFile path => { c with log := { c.log with
      filePath := calls.multiByteToWideChar path c.log.filePath, enableFile := true } }
  | daemon => { c with daemonMode := true }

end ServerOption

/-- The arguments that only print something. -/
def AsksForHelp (arg : List Char) : Prop :=
  namesOption arg "-h" "--help" = true ∨ namesOption arg "-v" "--version" = true

/-- `arg` is an option there: it has no value, or it is followed by its value. -/
def StartsOption (arg : List Char) (next : Option (List Char)) : Prop :=
  ∃ o short, arg = ServerOption.name short o ∧ (o.value.isSome → next = o.value)

/-! ## One argument -/

section Argument

variable (calls : StringCalls) (c : ServerConfig)

theorem namesOption_iff {arg : List Char} {short long : String} :
    namesOption arg short long = true ↔ arg = short.toList ∨ arg = long.toList := by
  unfold namesOption
  rw [Bool.or_eq_true, beq_iff_eq, beq_iff_eq]

theorem optionValue_eq_some {arg : List Char} {next : Option (List Char)} {short long : String}
    {value : List Char} :
    optionValue arg next short long = some value ↔
      (arg = short.toList ∨ arg = long.toList) ∧ next = some value := by
  unfold optionValue
  rw [← namesOption_iff]
  split_ifs with h
  · exact (and_iff_right h).symm
  · exact iff_of_false (fun hnone => by cases hnone) (fun hsome => h hsome.1)

theorem configArgument_help {arg : List Char} (h : AsksForHelp arg)
    (next : Option (List Char)) : configArgument calls c arg next = .stop .exits := by
  unfold configArgument
  rcases h with h | h
  · rw [if_pos h]
  · rw [if_pos h]
    split <;> rfl

/-- What the loop does with an option. -/
theorem configArgument_name (short : Bool) (o : ServerOption) {next : Option (List Char)}
    (h : o.value.isSome → next = o.value) :
    configArgument calls c (o.name short) next =
      match o.refusal calls with
      | some result => .stop result
      | none => if o.value.isSome then .took (o.apply calls c) else .flag (o.apply calls c) := by
  cases o with
  | directIO => rfl
  | preallocate => rfl
  | daemon => rfl
  | size str =>
      obtain rfl := h rfl
      have hstep : configArgument calls c ((ServerOption.size str).name short) (some str) =
          match configParseSize calls str with
          | none => .stop .undefined
          | some size =>
            if size = 0 then .stop (.failed ("Invalid size: ".toList ++ str))
            else .took { c with storage := { c.storage with size } } := by
        cases short <;> rfl
      refine hstep.trans ?_
      cases hsize : configParseSize calls str with
      | none => simp only [ServerOption.refusal, hsize]
      | some bytes =>
          by_cases hzero : bytes = 0
          · simp only [ServerOption.refusal, hsize, if_pos hzero]
          · simp only [ServerOption.refusal, hsize, if_neg hzero, ServerOption.apply,
              ServerOption.value, Option.isSome_some, if_true, Option.getD_some]
  | backend type =>
      obtain rfl := h rfl
      have hstep : configArgument calls c ((ServerOption.backend type).name short) (some type) =
          if stricmp type "memory" || stricmp type "mem" then
            .took { c with storage := { c.storage with backendType := .memory } }
          else if stricmp type "file" then
            .took { c with storage := { c.storage with backendType := .file } }
          else .stop (.failed ("Unknown backend type: ".toList ++ type)) := by
        cases short <;> rfl
      refine hstep.trans ?_
      by_cases hmemory : (stricmp type "memory" || stricmp type "mem") = true
      · simp only [ServerOption.refusal, ServerOption.apply, ServerOption.value, hmemory,
          Bool.true_or, if_true, Option.isSome_some]
      · rw [if_neg hmemory]
        by_cases hfile : stricmp type "file" = true
        · simp only [ServerOption.refusal, ServerOption.apply, ServerOption.value, hfile,
            Bool.or_true, if_true, Option.isSome_some, if_neg hmemory]
        · simp only [ServerOption.refusal, hfile, hmemory, Bool.or_self]
          rfl
  | _ =>
      obtain rfl := h rfl
      cases short <;> rfl

/-- Anything else is an unknown option. -/
theorem configArgument_unknown {arg : List Char} {next : Option (List Char)}
    (hhelp : ¬ AsksForHelp arg) (h : ¬ StartsOption arg next) :
    configArgument calls c arg next = .stop (.failed ("Unknown option: ".toList ++ arg)) := by
  -- a name and a value that the source finds would start an option
  have hnone : ∀ {short long : String} (o : List Char → ServerOption),
      (∀ value, (o value).value = some value) →
      (∀ value, (o value).name true = short.toList ∧ (o value).name false = long.toList) →
      optionValue arg next short long = none := by
    intro short long o hvalue hname
    refine Option.eq_none_iff_forall_ne_some.mpr fun value hsome => h ?_
    obtain ⟨harg | harg, hnext⟩ := optionValue_eq_some.mp hsome
    · exact ⟨o value, true, harg.trans (hname value).1.symm,
        fun _ => hnext.trans (hvalue value).symm⟩
    · exact ⟨o value, false, harg.trans (hname value).2.symm,
        fun _ => hnext.trans (hvalue value).symm⟩
  have hflag : ∀ o : ServerOption, o.value = none → ¬ (arg == o.name true) = true := by
    intro o hvalue hname
    refine h ⟨o, true, beq_iff_eq.mp hname, fun hsome => ?_⟩
    rw [hvalue] at hsome
    cases hsome
  unfold configArgument
  rw [if_neg fun hname => hhelp (Or.inl hname), if_neg fun hname => hhelp (Or.inr hname),
    hnone .config (fun _ => rfl) (fun _ => ⟨rfl, rfl⟩),
    hnone .size (fun _ => rfl) (fun _ => ⟨rfl, rfl⟩),
    hnone .backend (fun _ => rfl) (fun _ => ⟨rfl, rfl⟩),
    hnone .file (fun _ => rfl) (fun _ => ⟨rfl, rfl⟩),
    hnone .model (fun _ => rfl) (fun _ => ⟨rfl, rfl⟩),
    hnone .serial (fun _ => rfl) (fun _ => ⟨rfl, rfl⟩),
    hnone .logLevel (fun _ => rfl) (fun _ => ⟨rfl, rfl⟩),
    hnone .logFile (fun _ => rfl) (fun _ => ⟨rfl, rfl⟩)]
  exact (if_neg (hflag ServerOption.directIO rfl)).trans ((if_neg (hflag .preallocate rfl)).trans
    (if_neg (hflag .daemon rfl)))

end Argument

/-! ## The whole command line -/

/-- The words of a list of options, each in one of its spellings. -/
def optionWords (options : List (Bool × ServerOption)) : List (List Char) :=
  options.flatMap fun o => o.2.words o.1

/-- How the command line ends after its options, when those have set `c`. -/
inductive EndsWith (calls : StringCalls) (c : ServerConfig) : List (List Char) → ParsedArgs → Prop
  | all : EndsWith calls c [] (.config c)
  | help {arg : List Char} {args : List (List Char)} (h : AsksForHelp arg) :
      EndsWith calls c (arg :: args) .exits
  | refused {o : ServerOption} {short : Bool} {args : List (List Char)} {result : ParsedArgs}
      (h : o.refusal calls = some result) : EndsWith calls c (o.words short ++ args) result
  | unknown {arg : List Char} {args : List (List Char)} (hhelp : ¬ AsksForHelp arg)
      (h : ¬ StartsOption arg args.head?) :
      EndsWith calls c (arg :: args) (.failed ("Unknown option: ".toList ++ arg))

section Arguments

variable {calls : StringCalls}

/-- One round of the loop. -/
theorem configParseArgs_cons (c : ServerConfig) (arg : List Char) (args : List (List Char)) :
    configParseArgs calls c (arg :: args) =
      match configArgument calls c arg args.head? with
      | .stop result => result
      | .flag c' => configParseArgs calls c' args
      | .took c' => configParseArgs calls c' args.tail := by
  cases args with
  | nil =>
      rw [configParseArgs, List.head?_nil]
      cases configArgument calls c arg none <;> rfl
  | cons value args => rfl

/-- An option is followed by its value among its words. -/
theorem head?_words (o : ServerOption) (args : List (List Char)) (h : o.value.isSome) :
    (o.value.toList ++ args).head? = o.value := by
  obtain ⟨value, hvalue⟩ := Option.isSome_iff_exists.mp h
  rw [hvalue]
  rfl

theorem configParseArgs_option (c : ServerConfig) (short : Bool) {o : ServerOption}
    (h : o.refusal calls = none) (args : List (List Char)) :
    configParseArgs calls c (o.words short ++ args) =
      configParseArgs calls (o.apply calls c) args := by
  show configParseArgs calls c (o.name short :: (o.value.toList ++ args)) = _
  rw [configParseArgs_cons, configArgument_name calls c short o (head?_words o args), h]
  cases o.value <;> rfl

theorem configParseArgs_options (c : ServerConfig) {options : List (Bool × ServerOption)}
    (h : ∀ o ∈ options, o.2.refusal calls = none) (args : List (List Char)) :
    configParseArgs calls c (optionWords options ++ args) =
      configParseArgs calls ((options.map Prod.snd).foldl (ServerOption.apply calls) c) args := by
  induction options generalizing c with
  | nil => rfl
  | cons o options ih =>
      obtain ⟨hfirst, hrest⟩ := List.forall_mem_cons.mp h
      show configParseArgs calls c ((o.2.words o.1 ++ optionWords options) ++ args) = _
      rw [List.append_assoc, configParseArgs_option c o.1 hfirst, ih _ hrest]
      rfl

theorem configParseArgs_endsWith {c : ServerConfig} {args : List (List Char)}
    {result : ParsedArgs} (h : EndsWith calls c args result) :
    configParseArgs calls c args = result := by
  cases h with
  | all => rfl
  | help h => rw [configParseArgs_cons, configArgument_help calls c h]
  | @refused o short args _ h =>
      show configParseArgs calls c (o.name short :: (o.value.toList ++ args)) = _
      rw [configParseArgs_cons, configArgument_name calls c short o (head?_words o args), h]
  | unknown hhelp h => rw [configParseArgs_cons, configArgument_unknown calls c hhelp h]

/-- Every command line is a list of options that are not refused and an end. -/
theorem exists_options (c : ServerConfig) (args : List (List Char)) :
    ∃ options rest result, args = optionWords options ++ rest ∧
      (∀ o ∈ options, o.2.refusal calls = none) ∧
      EndsWith calls ((options.map Prod.snd).foldl (ServerOption.apply calls) c) rest result := by
  -- on the number of arguments, since an option takes one or two
  induction hlen : args.length using Nat.strongRecOn generalizing c args with
  | ind n ih =>
      cases args with
      | nil => exact ⟨[], [], _, rfl, fun o ho => absurd ho List.not_mem_nil, .all⟩
      | cons arg args =>
          by_cases hhelp : AsksForHelp arg
          · exact ⟨[], arg :: args, _, rfl, fun o ho => absurd ho List.not_mem_nil, .help hhelp⟩
          by_cases hstart : StartsOption arg args.head?
          swap
          · exact ⟨[], arg :: args, _, rfl, fun o ho => absurd ho List.not_mem_nil,
              .unknown hhelp hstart⟩
          obtain ⟨o, short, rfl, hnext⟩ := hstart
          obtain ⟨after, hafter⟩ : ∃ after, args = o.value.toList ++ after := by
            cases hvalue : o.value with
            | none => exact ⟨args, rfl⟩
            | some value =>
                rw [hvalue] at hnext
                exact ⟨args.tail, (List.eq_cons_of_mem_head? (hnext rfl)).trans rfl⟩
          have hargs : o.name short :: args = o.words short ++ after := by
            rw [hafter]
            rfl
          rw [hargs]
          cases hrefusal : o.refusal calls with
          | some result =>
              exact ⟨[], _, result, rfl, fun o ho => absurd ho List.not_mem_nil,
                .refused hrefusal⟩
          | none =>
              have hless : after.length < n := by
                rw [← hlen, hargs, List.length_append]
                exact Nat.lt_add_of_pos_left (Nat.succ_pos _)
              obtain ⟨options, rest, result, rfl, haccepted, hends⟩ :=
                ih _ hless (o.apply calls c) after rfl
              refine ⟨(short, o) :: options, rest, result, ?_, ?_, hends⟩
              · exact (List.append_assoc _ _ _).symm
              · exact List.forall_mem_cons.mpr ⟨hrefusal, haccepted⟩

theorem configParseArgs_iff_endsWith (c : ServerConfig) (args : List (List Char))
    (result : ParsedArgs) :
    configParseArgs calls c args = result ↔
      ∃ options rest, args = optionWords options ++ rest ∧
        (∀ o ∈ options, o.2.refusal calls = none) ∧
        EndsWith calls ((options.map Prod.snd).foldl (ServerOption.apply calls) c) rest
          result := by
  constructor
  · intro hresult
    obtain ⟨options, rest, result', rfl, haccepted, hends⟩ := @exists_options calls c args
    rw [configParseArgs_options c haccepted, configParseArgs_endsWith hends] at hresult
    exact ⟨options, rest, rfl, haccepted, hresult ▸ hends⟩
  · rintro ⟨options, rest, rfl, haccepted, hends⟩
    rw [configParseArgs_options c haccepted, configParseArgs_endsWith hends]

end Arguments

/-! ## What the options say -/

/-- What the calls for some of the options leave in a buffer that was empty. -/
def pathLeft (calls : StringCalls) (path : ServerOption → Option (List Char))
    (options : List ServerOption) : List UInt16 :=
  (options.filterMap path).foldl (fun old text => calls.multiByteToWideChar text old) []

namespace ServerOption

def levelSet : ServerOption → Option LogLevel
  | logLevel level => some (parseLogLevel level)
  | _ => none

def logPath : ServerOption → Option (List Char)
  | logFile path => some path
  | _ => none

def typeSet : ServerOption → Option BackendType
  | backend type =>
    some (if stricmp type "memory" || stricmp type "mem" then .memory else .file)
  | _ => none

def sizeSet (calls : StringCalls) : ServerOption → Option UInt64
  | size str => some ((configParseSize calls str).getD 0)
  | _ => none

def storagePath : ServerOption → Option (List Char)
  | file path => some path
  | _ => none

def modelSet : ServerOption → Option (List Char)
  | model name => some (name.take 39)
  | _ => none

def serialSet : ServerOption → Option (List Char)
  | serial sn => some (sn.take 19)
  | _ => none

def configPath : ServerOption → Option (List Char)
  | config path => some path
  | _ => none

end ServerOption

open ServerOption in
/-- The configuration that a list of options describes. -/
def optionsConfig (calls : StringCalls) (options : List ServerOption) : ServerConfig where
  log := {
    level := (last levelSet options).getD .info
    enableFile := options.any fun o => o.logPath.isSome
    filePath := pathLeft calls logPath options }
  storage := {
    backendType := (last typeSet options).getD .memory
    size := (last (sizeSet calls) options).getD (100 * 1024 * 1024 * 1024)
    filePath := pathLeft calls storagePath options
    directIO := options.any fun o => o = directIO
    preallocate := options.any fun o => o = preallocate }
  controller := {
    modelNumber := (last modelSet options).getD "Virtual NVMe SSD".toList
    serialNumber := (last serialSet options).getD "VNVME00000001".toList }
  daemonMode := options.any fun o => o = daemon
  configFilePath := pathLeft calls configPath options

section OptionsConfig

open ServerOption

variable (calls : StringCalls) (options : List ServerOption)

theorem log_foldl : (options.foldl (apply calls) {}).log = (optionsConfig calls options).log := by
  have hlevel : (options.foldl (apply calls) {}).log.level = _ :=
    foldl_field (apply calls) (fun c => c.log.level) levelSet (fun c o => by cases o <;> rfl) {}
      options
  have hconsole : (options.foldl (apply calls) {}).log.enableConsole = true :=
    foldl_unset (apply calls) (fun c => c.log.enableConsole) (fun c o => by cases o <;> rfl) {}
      options
  have hfile : (options.foldl (apply calls) {}).log.enableFile = _ :=
    foldl_switch (apply calls) (fun c => c.log.enableFile) (fun o => o.logPath.isSome)
      (fun c o => by cases o <;> simp [apply, logPath]) {} options
  have hpath : (options.foldl (apply calls) {}).log.filePath = _ :=
    foldl_update (apply calls) (fun c => c.log.filePath)
      (fun old text => calls.multiByteToWideChar text old) logPath
      (fun c o => by cases o <;> rfl) {} options
  show LogConfig.mk _ _ _ _ = _
  rw [hlevel, hconsole, hfile, hpath]
  rfl

theorem storage_foldl :
    (options.foldl (apply calls) {}).storage = (optionsConfig calls options).storage := by
  have htype : (options.foldl (apply calls) {}).storage.backendType = _ :=
    foldl_field (apply calls) (fun c => c.storage.backendType) typeSet
      (fun c o => by cases o <;> rfl) {} options
  have hsize : (options.foldl (apply calls) {}).storage.size = _ :=
    foldl_field (apply calls) (fun c => c.storage.size) (sizeSet calls)
      (fun c o => by cases o <;> rfl) {} options
  have hblock : (options.foldl (apply calls) {}).storage.blockSize = 512 :=
    foldl_unset (apply calls) (fun c => c.storage.blockSize) (fun c o => by cases o <;> rfl) {}
      options
  have hpath : (options.foldl (apply calls) {}).storage.filePath = _ :=
    foldl_update (apply calls) (fun c => c.storage.filePath)
      (fun old text => calls.multiByteToWideChar text old) storagePath
      (fun c o => by cases o <;> rfl) {} options
  have hreadOnly : (options.foldl (apply calls) {}).storage.readOnly = false :=
    foldl_unset (apply calls) (fun c => c.storage.readOnly) (fun c o => by cases o <;> rfl) {}
      options
  have hdirect : StorageConfig.directIO (options.foldl (apply calls) {}).storage = _ :=
    foldl_switch (apply calls) (fun c => c.storage.directIO) (fun o => o = directIO)
      (fun c o => by cases o <;> simp [apply]) {} options
  have hpreallocate : (options.foldl (apply calls) {}).storage.preallocate = _ :=
    foldl_switch (apply calls) (fun c => c.storage.preallocate) (fun o => o = preallocate)
      (fun c o => by cases o <;> simp [apply]) {} options
  show StorageConfig.mk _ _ _ _ _ _ _ = _
  rw [htype, hsize, hblock, hpath, hreadOnly, hdirect, hpreallocate]
  rfl

theorem controller_foldl :
    (options.foldl (apply calls) {}).controller = (optionsConfig calls options).controller := by
  have hmodel : (options.foldl (apply calls) {}).controller.modelNumber = _ :=
    foldl_field (apply calls) (fun c => c.controller.modelNumber) modelSet
      (fun c o => by cases o <;> rfl) {} options
  have hserial : (options.foldl (apply calls) {}).controller.serialNumber = _ :=
    foldl_field (apply calls) (fun c => c.controller.serialNumber) serialSet
      (fun c o => by cases o <;> rfl) {} options
  have hvendor : (options.foldl (apply calls) {}).controller.vendorId = 0x1B36 :=
    foldl_unset (apply calls) (fun c => c.controller.vendorId) (fun c o => by cases o <;> rfl) {}
      options
  have hdevice : (options.foldl (apply calls) {}).controller.deviceId = 0x0010 :=
    foldl_unset (apply calls) (fun c => c.controller.deviceId) (fun c o => by cases o <;> rfl) {}
      options
  show ControllerConfig.mk _ _ _ _ = _
  rw [hmodel, hserial, hvendor, hdevice]
  rfl

/-- The options set what they describe: each field is what the last option for it says. -/
theorem foldl_apply : options.foldl (apply calls) {} = optionsConfig calls options := by
  have hheartbeat : (options.foldl (apply calls) {}).heartbeatIntervalMs = 1000 :=
    foldl_unset (apply calls) (fun c => c.heartbeatIntervalMs) (fun c o => by cases o <;> rfl) {}
      options
  have hpoll : (options.foldl (apply calls) {}).pollIntervalUs = 100 :=
    foldl_unset (apply calls) (fun c => c.pollIntervalUs) (fun c o => by cases o <;> rfl) {}
      options
  have hdaemon : (options.foldl (apply calls) {}).daemonMode = _ :=
    foldl_switch (apply calls) (fun c => c.daemonMode) (fun o => o = daemon)
      (fun c o => by cases o <;> simp [apply]) {} options
  have hpath : (options.foldl (apply calls) {}).configFilePath = _ :=
    foldl_update (apply calls) (fun c => c.configFilePath)
      (fun old text => calls.multiByteToWideChar text old) configPath
      (fun c o => by cases o <;> rfl) {} options
  show ServerConfig.mk _ _ _ _ _ _ _ = _
  rw [log_foldl, storage_foldl, controller_foldl, hheartbeat, hpoll, hdaemon, hpath]
  rfl

end OptionsConfig

/-- The size that the options set is never zero, unless one of them is refused. -/
theorem size_ne_zero {calls : StringCalls} {options : List ServerOption}
    (h : ∀ o ∈ options, o.refusal calls = none) :
    (optionsConfig calls options).storage.size ≠ 0 := by
  show (last (ServerOption.sizeSet calls) options).getD _ ≠ 0
  cases hlast : last (ServerOption.sizeSet calls) options with
  | none => decide
  | some bytes =>
      obtain ⟨o, hmem, hset⟩ := mem_of_last hlast
      cases o with
      | size str =>
          have haccepted := h _ hmem
          have hbytes : (configParseSize calls str).getD 0 = bytes := Option.some_inj.mp hset
          intro hzero
          cases hsize : configParseSize calls str with
          | none => simp only [ServerOption.refusal, hsize] at haccepted; cases haccepted
          | some read =>
              rw [hsize] at hbytes
              obtain rfl : read = 0 := hbytes.trans hzero
              simp only [ServerOption.refusal, hsize, if_true] at haccepted
              cases haccepted
      | _ => cases hset

/-- `ConfigParseArgs` reads a command line as the options at its start, none of them with a value
that is refused, and an end. The configuration holds what these options describe, each field what
the last option for it says; `ConfigValidate` would still turn it down exactly if it has a file
backend without a path or no serial number. -/
theorem configParseArgs_iff (calls : StringCalls) (args : List (List Char)) :
    (∀ result, configParseArgs calls {} args = result ↔
      ∃ options rest, args = optionWords options ++ rest ∧
        (∀ o ∈ options, o.2.refusal calls = none) ∧
        EndsWith calls (optionsConfig calls (options.map Prod.snd)) rest result) ∧
    ∀ c, configParseArgs calls {} args = .config c →
      (configValidate c = false ↔
        (c.storage.backendType = .file ∧ c.storage.filePath = []) ∨
          c.controller.serialNumber = []) := by
  refine ⟨fun result => by simp only [configParseArgs_iff_endsWith, foldl_apply],
    fun c hparsed => ?_⟩
  obtain ⟨options, rest, rfl, haccepted, hends⟩ := (configParseArgs_iff_endsWith _ _ _).mp hparsed
  rw [foldl_apply] at hends
  have hc : c = optionsConfig calls (options.map Prod.snd) := by
    cases hends with
    | all => rfl
    | @refused o _ _ _ hrefused =>
        -- a refusal is not a configuration
        cases o with
        | size str =>
            simp only [ServerOption.refusal] at hrefused
            split at hrefused
            · cases hrefused
            · split_ifs at hrefused
              cases hrefused
        | backend type =>
            simp only [ServerOption.refusal] at hrefused
            split_ifs at hrefused
            cases hrefused
        | _ => cases hrefused
  have hsize : c.storage.size ≠ 0 := by
    rw [hc]
    exact size_ne_zero (List.forall_mem_map.mpr haccepted)
  simp only [configValidate, bne_iff_ne.mpr hsize, Bool.true_and, Bool.and_eq_false_iff,
    Bool.not_eq_false', Bool.and_eq_true, beq_iff_eq, List.isEmpty_iff]

end VirtualNvme
