import DetectorSim.Config.Section

/-!
Configuration texts: headers `[name]` or `[name:detector]`, each followed by lines
`key = value`. Lines starting with `#` or `;` are comments, and so is the rest of
a value from the first `#` outside quotes.
-/

namespace DetectorSim.Config

/-- The name of the section with run-wide parameters, in any case of letters. -/
def globalName : String := "Pixsim"

/-- Letters, digits, underscores, hyphens and dots, at least one; ASCII only. -/
def isIdentifier (cs : List Char) : Bool :=
  !cs.isEmpty && cs.all fun c => c.isAlphanum || c == '_' || c == '-' || c == '.'

/-- Cuts a value at the first `#` outside quotes. `quote` is the quote that is open. -/
def stripComment : (quote : Option Char) → List Char → List Char
  | _, [] => []
  | none, c :: rest =>
    if Value.isQuote c then c :: stripComment (some c) rest
    else if c = '#' then []
    else c :: stripComment none rest
  | some quote, c :: rest => c :: stripComment (if c = quote then none else some quote) rest

/-- What a line says. -/
inductive Line where
  | blank
  | header (name : String) (detector : Option String)
  | assignment (key value : String)
  deriving DecidableEq, Repr

namespace Line

/-- Reads what stands between the brackets of a header. -/
def readHeader (cs : List Char) : Except SyntaxFault Line :=
  let (name, detector) := match Text.splitAtFirst (· == ':') cs with
    | some (name, detector) => (Text.trim name, some (Text.trim detector))
    | none => (Text.trim cs, none)
  if !isIdentifier name then .error .sectionName
  else if detector.any (!isIdentifier ·) then .error .detectorQualifier
  else if detector.isSome && Text.sameLetters (String.ofList name) globalName then
    .error .globalWithDetector
  else .ok (.header (String.ofList name) (detector.map String.ofList))

/-- Reads `key = value`. -/
def readAssignment (cs : List Char) : Except SyntaxFault Line :=
  match Text.splitAtFirst (· == '=') cs with
  | none => .error .noAssignment
  | some (key, value) =>
    if isIdentifier (Text.trim key) then
      .ok (.assignment (String.ofList (Text.trim key))
        (String.ofList (Text.trim (stripComment none value))))
    else .error .keyName

/-- Reads a line. -/
def read (cs : List Char) : Except SyntaxFault Line :=
  match Text.trim cs with
  | [] => .ok .blank
  | c :: rest =>
    if c = '#' ∨ c = ';' then .ok .blank
    else if c = '[' then
      if rest.getLast? = some ']' then readHeader rest.dropLast else .error .unclosedHeader
    else readAssignment (c :: rest)

end Line

namespace Document

/-- A fault and the number of its line. -/
structure Fault where
  line : Nat
  reason : SyntaxFault
  deriving DecidableEq, Repr

/-- Adds a line to the sections read so far, last first. -/
def addLine (origin : Option Path) (sections : List Section) : Line → Except SyntaxFault (List Section)
  | .blank => .ok sections
  | .header name detector => .ok ({ Section.new name detector with origin := origin } :: sections)
  | .assignment key value =>
    match sections with
    | [] => .error .keyBeforeHeader
    | current :: before => .ok (current.set key value :: before)

/-- Reads lines from the given number on; the sections come back last first. -/
def readLines (origin : Option Path) : Nat → List Section → List (List Char) →
    Except Fault (List Section)
  | _, sections, [] => .ok sections
  | number, sections, line :: rest =>
    match (Line.read line).bind (addLine origin sections) with
    | .error reason => .error ⟨number, reason⟩
    | .ok sections => readLines origin (number + 1) sections rest

/-- The sections of a text in order, each with the given origin. -/
def sections (origin : Option Path) (text : String) : Except Fault (List Section) :=
  (readLines origin 1 [] (Text.lines text.toList)).map List.reverse

/-- Reads a text. Texts without origin are called `<string>`. -/
def read (origin : Option Path) (text : String) : Except ConfigError (List Section) :=
  (sections origin text).mapError fun fault =>
    .malformed ((origin.map Path.text).getD "<string>") fault.line fault.reason

/-- Reads a file. -/
def load (path : Path) : FileProgram (Except ConfigError (List Section)) := do
  match ← FileProgram.read path with
  | .ok text => return read (some path) text
  | .error fault => return .error (.unreadable path fault)

end Document

end DetectorSim.Config
