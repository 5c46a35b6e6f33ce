import DetectorSim.Config.Error
import DetectorSim.Dictionary
import DetectorSim.Text.Quoted

/-!
Sections of a configuration: raw values under keys, and which keys have been read
so far. Reading goes through `Access`, which marks the key it is asked for.
-/

namespace DetectorSim.Config

/-- A section, named by a module and optionally a detector. `marks` holds the keys that have
been asked for. -/
structure Section where
  name : String
  detector : Option String
  origin : Option Path
  values : Dictionary String
  marks : List String
  deriving Inhabited

namespace Section

/-- A section without keys. -/
def new (name : String) (detector : Option String) : Section :=
  ⟨name, detector, none, .empty, []⟩

/-- The identifier as it is written in a header. -/
def identifier (s : Section) : String :=
  match s.detector with
  | some detector => s.name ++ ":" ++ detector
  | none => s.name

/-- Whether a key is set. -/
def has (s : Section) (key : String) : Bool :=
  s.values.contains key

/-- Sets a key. -/
def set (s : Section) (key value : String) : Section :=
  { s with values := s.values.insert key value }

/-- Sets a key unless it is set. -/
def setDefault (s : Section) (key value : String) : Section :=
  if s.has key then s else s.set key value

/-- Sets a key to a bracketed list. -/
def setList (s : Section) (key : String) (items : List String) : Section :=
  s.set key (Text.bracketed items)

/-- Marks a key as asked for. -/
def mark (s : Section) (key : String) : Section :=
  if key ∈ s.marks then s else { s with marks := key :: s.marks }

/-- The keys that are set and were never asked for, in order. -/
def unusedKeys (s : Section) : List String :=
  s.values.keys.filter fun key => !s.marks.contains key

/-- The section as a debugging text. -/
def debug (s : Section) : String :=
  let values := s.values.entries.map fun (key, value) => Text.quoted key ++ ": " ++ Text.quoted value
  Text.record "Configuration"
    [("name", Text.quoted s.name), ("detector", Text.quotedOption s.detector),
      ("values", "\x7b" ++ ", ".intercalate values ++ "\x7d")] true

end Section

/-- Reading from a section: marks stay also when reading fails. -/
abbrev Access : Type → Type :=
  ExceptT ConfigError (StateM Section)

/-- Where a path written in a section leads: relative paths start at the directory of the file
that the section was read from. -/
def Section.locate (s : Section) (path : Path) : Path :=
  match s.origin.bind Path.parent with
  | some directory => directory.join path
  | none => path

namespace Access

/-- Reads from a section; the section comes back with the new marks. -/
def on {α : Type} (access : Access α) (s : Section) : Except ConfigError α × Section :=
  access.run.run s

/-- The section as it is. -/
def current : Access Section :=
  ExceptT.lift get

/-- Refuses the value of a key. -/
def refuse {α : Type} (key : String) (rule : ValueRule) : Access α := do
  let s ← current
  throw (.unacceptable s.identifier key rule)

/-- Whether a key is set. -/
def has (key : String) : Access Bool := do
  return (← current).has key

/-- The raw text of a key. -/
def text (key : String) : Access String := do
  modify (·.mark key)
  let s ← current
  match s.values.find? key with
  | some raw => return raw
  | none => throw (.missingKey s.identifier key)

/-- The value of a key as a kind. -/
def read (kind : Kind) (key : String) : Access kind.Carrier := do
  let raw ← text key
  match kind.readText raw with
  | .ok value => return value
  | .error fault => throw (.wrongKind (← current).identifier key raw kind fault)

/-- The value of a key, or a default if the key is not set. -/
def readOr (kind : Kind) (key : String) (default : kind.Carrier) : Access kind.Carrier := do
  if ← has key then read kind key
  else
    modify (·.mark key)
    return default

/-- The value of a key if it is set. A key that is not set stays unmarked. -/
def read? (kind : Kind) (key : String) : Access (Option kind.Carrier) := do
  if ← has key then
    let value ← read kind key
    return some value
  else return none

/-- Which of the choices the value of a key names, in any case of letters. -/
def choice (key : String) (choices : List String) : Access String := do
  let given : String ← read .text key
  match choices.find? (Text.sameLetters · given) with
  | some chosen => return chosen
  | none => refuse key (.notAChoice given choices)

/-- The path under a key. -/
def path (key : String) : Access Path := do
  let written : Path ← read .path key
  return (← current).locate written

end Access

/-- The path under a key, refused if `mustExist` and there is nothing at the path. -/
def Section.path (s : Section) (key : String) (mustExist : Bool) :
    FileProgram (Except ConfigError Path × Section) :=
  match (Access.path key).on s with
  | (.error fault, after) => pure (.error fault, after)
  | (.ok path, after) =>
    if mustExist then do
      if ← FileProgram.present path then return (.ok path, after)
      else return (.error (.unacceptable after.identifier key (.pathAbsent path)), after)
    else pure (.ok path, after)

end DetectorSim.Config
