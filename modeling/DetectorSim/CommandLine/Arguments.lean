import DetectorSim.Decimal.Literal
import DetectorSim.Files.Path

/-!
The arguments of the program: one configuration file, and options that override
settings of it. Options may stand before and after the file; a value follows its
option or is attached to it.
-/

namespace DetectorSim.CommandLine

/-- The options with a value. -/
inductive OptionName where
  | events
  | workers
  | seed
  | logLevel
  deriving DecidableEq, Repr

/-- The long name of an option. -/
def OptionName.long : OptionName → String
  | .events => "events"
  | .workers => "workers"
  | .seed => "seed"
  | .logLevel => "log-level"

/-- The letter of an option. -/
def OptionName.letter : OptionName → Option Char
  | .events => some 'e'
  | .workers => some 'w'
  | .seed => none
  | .logLevel => some 'l'

/-- All options with a value. -/
def OptionName.all : List OptionName :=
  [.events, .workers, .seed, .logLevel]

/-- What the arguments ask for. -/
structure Arguments where
  config : Path
  events : Option UInt64
  workers : Option UInt64
  seed : Option UInt64
  logLevel : Option String
  deriving DecidableEq, Repr

/-- Why arguments are refused. -/
inductive UsageError where
  | noConfig
  | emptyConfig
  | unexpected (argument : String)
  | repeated (name : OptionName)
  | noValue (name : OptionName)
  | invalidNumber (name : OptionName) (text : String)
  deriving DecidableEq, Repr

/-- The wording of an error. -/
def UsageError.message : UsageError → String
  | .noConfig => "a configuration file is required"
  | .emptyConfig => "the configuration file needs a name"
  | .unexpected argument => s!"unexpected argument '{argument}'"
  | .repeated name => s!"the option --{name.long} is given more than once"
  | .noValue name => s!"the option --{name.long} needs a value"
  | .invalidNumber name text => s!"invalid value '{text}' for the option --{name.long}"

/-- A request of the user: a run, or information about the program. -/
inductive Request where
  | run (arguments : Arguments)
  | information
  deriving DecidableEq, Repr

/-- The arguments read so far: the file, and the texts of options. -/
structure Collected where
  config : Option String
  options : List (OptionName × String)

/-- An argument that starts with a dash, classified. -/
inductive Flag where
  | option (name : OptionName) (attached : Option String)
  | information
  | unknown
  deriving DecidableEq, Repr

/-- Splits a long option at its first equals sign. -/
def splitLong (body : List Char) : String × Option String :=
  match body.span (· != '=') with
  | (name, []) => (String.ofList name, none)
  | (name, _ :: value) => (String.ofList name, some (String.ofList value))

/-- The value attached to a letter; an equals sign before it is not part of it. -/
def attachedValue : List Char → Option String
  | [] => none
  | '=' :: value => some (String.ofList value)
  | value => some (String.ofList value)

/-- Classifies an argument without its first dash. -/
def Flag.ofBody : List Char → Flag
  | [] => .unknown
  | '-' :: body =>
    let (name, attached) := splitLong body
    if name == "help" || name == "version" then if attached.isNone then .information else .unknown
    else match OptionName.all.find? (·.long == name) with
      | some found => .option found attached
      | none => .unknown
  | letter :: rest =>
    if letter == 'h' || letter == 'V' then .information
    else match OptionName.all.find? (·.letter == some letter) with
      | some found => .option found (attachedValue rest)
      | none => .unknown

/-- Whether an argument is a value by itself. A lone dash is one. -/
def isPlain (argument : String) : Bool :=
  argument.toList.head? != some '-' || argument == "-"

/-- Reads the number of an option. -/
def readNumber (name : OptionName) (text : String) : Except UsageError UInt64 :=
  match Decimal.readInteger 0 0xffffffffffffffff text.toList with
  | .ok n => .ok (UInt64.ofNat n.toNat)
  | .error _ => .error (.invalidNumber name text)

namespace Collected

/-- Nothing read. -/
def empty : Collected :=
  ⟨none, []⟩

/-- Adds the file. -/
def addFile (c : Collected) (text : String) : Except UsageError Collected :=
  if c.config.isSome then .error (.unexpected text)
  else if text.isEmpty then .error .emptyConfig
  else .ok { c with config := some text }

/-- Adds an option with its value. -/
def addOption (c : Collected) (name : OptionName) (text : String) : Except UsageError Collected :=
  if (c.options.lookup name).isSome then .error (.repeated name)
  else match name with
    | .logLevel => .ok { c with options := (name, text) :: c.options }
    | _ => (readNumber name text).map fun _ => { c with options := (name, text) :: c.options }

/-- The number of an option, if it is given. -/
def number (c : Collected) (name : OptionName) : Except UsageError (Option UInt64) :=
  match c.options.lookup name with
  | none => .ok none
  | some text => (readNumber name text).map some

/-- The request that the arguments make. -/
def request (c : Collected) : Except UsageError Request := do
  match c.config with
  | none => throw .noConfig
  | some config =>
    return .run {
      config := ⟨config⟩
      events := ← c.number .events
      workers := ← c.number .workers
      seed := ← c.number .seed
      logLevel := c.options.lookup .logLevel }

/-- Reads files up to the end. -/
def readFiles (c : Collected) (arguments : List String) : Except UsageError Request :=
  (arguments.foldlM addFile c).bind request

/-- Reads arguments from left to right; the first error is reported. Behind two dashes there are
only files. -/
def read (c : Collected) : List String → Except UsageError Request
  | [] => c.request
  | argument :: rest =>
    if argument == "--" then c.readFiles rest
    else if isPlain argument then (c.addFile argument).bind (read · rest)
    else match Flag.ofBody (argument.toList.drop 1) with
      | .unknown => .error (.unexpected argument)
      | .information => .ok .information
      | .option name (some text) => (c.addOption name text).bind (read · rest)
      | .option name none =>
        match rest with
        | [] => .error (.noValue name)
        | text :: rest =>
          if isPlain text then (c.addOption name text).bind (read · rest)
          else .error (.noValue name)

end Collected

/-- The request that a list of arguments makes. -/
def Request.ofArguments (arguments : List String) : Except UsageError Request :=
  Collected.empty.read arguments

end DetectorSim.CommandLine
