import OpticalLink.Console.Grammar
import OpticalLink.Console.Report
import OpticalLink.Text.Numeral

/-!
# The command line

The commands and their options. The format and the logging of the program may be
chosen before and after the command; after it they weigh more. No option may be
given twice at one level, but for the parts of a position.
-/

namespace OpticalLink.Console

/-- The formats of the log. -/
inductive LogFormat where
  | text
  | json
deriving DecidableEq, Repr

/-- How much is logged. -/
inductive LogLevel where
  | error
  | warn
  | info
  | debug
  | trace
deriving DecidableEq, Repr

/-- The options of every level. -/
structure CommonOptions where
  format : Option OutputFormat
  logFormat : Option LogFormat
  logLevel : Option LogLevel
deriving DecidableEq, Repr

/-- What to supervise, and for how long. -/
structure RunOptions where
  config : Option String
  motorsDevice : Option String
  accelerometerDevice : Option String
  baud : Option UInt32
  duration : Option String
deriving DecidableEq, Repr

/-- What to encode. -/
structure EncodeOptions where
  command : Option Command
  position : Option (List Int32)
  power : Option UInt16
deriving DecidableEq, Repr

/-- What to decode. -/
structure DecodeOptions where
  /-- Hexadecimal input; what comes from outside if there is none. -/
  hex : Option String
  /-- Whether the input is a bare payload. -/
  payload : Bool
deriving DecidableEq, Repr

/-- What to tell about the program. -/
structure VersionOptions where
  extended : Bool
deriving DecidableEq, Repr

/-- The commands of the program. -/
inductive Task where
  | run (options : RunOptions)
  | encode (command : Command) (position : Option (List Int32)) (power : Option UInt16)
  | decode (options : DecodeOptions)
  | version (options : VersionOptions)
deriving DecidableEq, Repr

/-- A command line that follows its grammar. -/
structure Invocation where
  common : CommonOptions
  task : Task
deriving DecidableEq, Repr

/-! Values -/

/-- Sets an option that has no value yet. -/
def once {α : Type} (current : Option α) (value : Option α) : Except Interruption (Option α) :=
  match current, value with
  | none, some value => .ok (some value)
  | _, _ => .error .usage

/-- An output format. -/
def outputFormat? : String → Option OutputFormat
  | "json" => some .json
  | "table" => some .table
  | "pretty" => some .pretty
  | "raw" => some .raw
  | _ => none

/-- A format of the log. -/
def logFormat? : String → Option LogFormat
  | "text" => some .text
  | "json" => some .json
  | _ => none

/-- A level of the log. -/
def logLevel? : String → Option LogLevel
  | "error" => some .error
  | "warn" => some .warn
  | "info" => some .info
  | "debug" => some .debug
  | "trace" => some .trace
  | _ => none

/-- A whole number within limits. -/
def number? (low high : Int) (text : String) : Option Int :=
  (Text.integer? text.toList).filter (Text.between low high)

/-- A number of 16 unsigned bits. -/
def unsigned16? (text : String) : Option UInt16 :=
  (number? 0 65535 text).map fun value => UInt16.ofNat value.toNat

/-- A number of 32 unsigned bits. -/
def unsigned32? (text : String) : Option UInt32 :=
  (number? 0 4294967295 text).map fun value => UInt32.ofNat value.toNat

/-- Numbers of 32 signed bits between commas. -/
def coordinates? (text : String) : Option (List Int32) :=
  (text.splitOn ",").mapM fun part =>
    (number? (-2147483648) 2147483647 part).map Int32.ofInt

/-- A path, which is not empty. -/
def path? (text : String) : Option String := if text = "" then none else some text

/-! Levels -/

/-- Options of which none was given. -/
def CommonOptions.none : CommonOptions := ⟨.none, .none, .none⟩

/-- The arity of the options of every level. -/
def commonArity? : String → Option Arity
  | "format" | "log-format" | "log-level" => some .value
  | "help" => some .flag
  | _ => none

/-- Takes an option of every level. -/
def CommonOptions.take (options : CommonOptions) (name value : String) :
    Except Interruption CommonOptions :=
  match name with
  | "format" => (once options.format (outputFormat? value)).map fun format =>
      { options with format }
  | "log-format" => (once options.logFormat (logFormat? value)).map fun logFormat =>
      { options with logFormat }
  | "log-level" => (once options.logLevel (logLevel? value)).map fun logLevel =>
      { options with logLevel }
  | "help" => .error .help
  | _ => .error .usage

/-- Options over those of an outer level. -/
def CommonOptions.over (inner outer : CommonOptions) : CommonOptions where
  format := inner.format.orElse fun _ => outer.format
  logFormat := inner.logFormat.orElse fun _ => outer.logFormat
  logLevel := inner.logLevel.orElse fun _ => outer.logLevel

/-- The level before the command. -/
def outerGrammar : Grammar CommonOptions where
  arity? name := if name = "version" then some .flag else commonArity? name
  option options name value :=
    if name = "version" then .error .version else options.take name value
  operand := none
  hasVersion := true

/-- The level of a command with options of its own. -/
def taskGrammar {Options : Type} (arity? : String → Option Arity)
    (option : Options → String → String → Except Interruption Options)
    (operand : Options → String → Except Interruption Options) :
    Grammar (CommonOptions × Options) where
  arity? name := (arity? name).orElse fun _ => commonArity? name
  option state name value :=
    if (arity? name).isSome then (option state.2 name value).map fun options => (state.1, options)
    else (state.1.take name value).map fun common => (common, state.2)
  operand := some fun state argument =>
    (operand state.2 argument).map fun options => (state.1, options)
  hasVersion := false

/-- Refuses operands. -/
def noOperand {Options : Type} (_ : Options) (_ : String) : Except Interruption Options :=
  .error .usage

/-- The options of `run`. -/
def runGrammar : Grammar (CommonOptions × RunOptions) :=
  taskGrammar
    (fun name => match name with
      | "config" | "motors-device" | "accelerometer-device" | "baud" | "duration" => some .value
      | _ => none)
    (fun options name value => match name with
      | "config" => (once options.config (path? value)).map fun config => { options with config }
      | "motors-device" => (once options.motorsDevice (path? value)).map fun motorsDevice =>
          { options with motorsDevice }
      | "accelerometer-device" => (once options.accelerometerDevice (path? value)).map
          fun accelerometerDevice => { options with accelerometerDevice }
      | "baud" => (once options.baud (unsigned32? value)).map fun baud => { options with baud }
      | _ => (once options.duration (some value)).map fun duration => { options with duration })
    noOperand

/-- The options of `encode`. A position may come in parts. -/
def encodeGrammar : Grammar (CommonOptions × EncodeOptions) :=
  taskGrammar
    (fun name => match name with
      | "position" => some .dashedValue
      | "power" => some .value
      | _ => none)
    (fun options name value => match name with
      | "position" => match coordinates? value with
        | some part => .ok { options with position := some (options.position.getD [] ++ part) }
        | none => .error .usage
      | _ => (once options.power (unsigned16? value)).map fun power => { options with power })
    (fun options argument => (once options.command (Command.ofName? argument)).map fun command =>
      { options with command })

/-- The options of `decode`. -/
def decodeGrammar : Grammar (CommonOptions × DecodeOptions) :=
  taskGrammar
    (fun name => if name = "payload" then some .flag else none)
    (fun options _ _ =>
      if options.payload then .error .usage else .ok { options with payload := true })
    (fun options argument => (once options.hex (some argument)).map fun hex =>
      { options with hex })

/-- The options of `version`. -/
def versionGrammar : Grammar (CommonOptions × VersionOptions) :=
  taskGrammar
    (fun name => if name = "extended" then some .flag else none)
    (fun options _ _ => if options.extended then .error .usage else .ok ⟨true⟩)
    noOperand

/-! Whole command lines -/

/-- The names of the commands. -/
def taskNames : List String := ["run", "encode", "decode", "version", "help"]

/-- Completes the options of `run` with the path that the environment gives. -/
def RunOptions.complete (options : RunOptions) (environment : Option String) :
    Except Interruption RunOptions :=
  match options.config, environment with
  | none, some path => (once none (path? path)).map fun config => { options with config }
  | _, _ => .ok options

/-- Reads the command and what follows it. -/
def readTask (environment : Option String) (name : String) (arguments : List String) :
    Except Interruption (CommonOptions × Task) := do
  match name with
  | "run" =>
    let ((common, options), _) ←
      runGrammar.read (.none, ⟨none, none, none, none, none⟩) arguments
    return (common, .run (← options.complete environment))
  | "encode" =>
    let ((common, options), _) ← encodeGrammar.read (.none, ⟨none, none, none⟩) arguments
    match options.command with
    | none => throw .usage
    | some command => return (common, .encode command options.position options.power)
  | "decode" =>
    let ((common, options), _) ← decodeGrammar.read (.none, ⟨none, false⟩) arguments
    return (common, .decode options)
  | "version" =>
    let ((common, options), _) ← versionGrammar.read (.none, ⟨false⟩) arguments
    return (common, .version options)
  | "help" =>
    match arguments with
    | [] => throw .help
    | [topic] => throw (if topic ∈ taskNames then .help else .usage)
    | _ => throw .usage
  | _ => throw .usage

/-- Reads a command line. The environment may give the path of the settings. -/
def Invocation.read (environment : Option String) (arguments : List String) :
    Except Interruption Invocation := do
  let (outer, rest) ← outerGrammar.read .none arguments
  match rest with
  | [] => throw .usage
  | name :: rest =>
    let (inner, task) ← readTask environment name rest
    return ⟨inner.over outer, task⟩

end OpticalLink.Console
