import DetectorSim.Decimal.Literal
import DetectorSim.Pipeline.Report
import DetectorSim.Text.Pattern.Reader

/-!
The directives of log filters: `target[span{field=value}]=level`, where any part may be
missing. A directive is read without the blanks around it, yet its parts are cut out of the
whole text at the places where they were found, so that leading blanks shift the parts.
-/

namespace DetectorSim.CommandLine

/-- The most verbose level that is shown, or nothing. -/
structure Threshold where
  level : Option Level
  deriving DecidableEq, Repr

namespace Threshold

/-- Everything is shown. -/
def trace : Threshold :=
  ⟨some .trace⟩

/-- The rank of the most verbose level, zero if nothing is shown. -/
def rank (t : Threshold) : Nat :=
  (t.level.map Level.rank).getD 0

/-- Whether reports of a level are shown. -/
def admits (t : Threshold) (level : Level) : Bool :=
  level.rank ≤ t.rank

/-- The names of thresholds, by rank. -/
def names : List (String × Threshold) :=
  [("off", ⟨none⟩), ("error", ⟨some .error⟩), ("warn", ⟨some .warn⟩), ("info", ⟨some .info⟩),
    ("debug", ⟨some .debug⟩), ("trace", ⟨some .trace⟩)]

/-- Reads a threshold: its rank, or its name in any case of letters. -/
def read (text : String) : Option Threshold :=
  match Decimal.readInteger 0 0xffffffffffffffff text.toList with
  | .ok n => names[n.toNat]?.map Prod.snd
  | .error _ => (names.find? fun (name, _) => Text.sameLetters name text).map Prod.snd

end Threshold

/-- Why a text is not a directive. -/
inductive DirectiveFault where
  | malformed
  | unknownLevel
  | badPattern (fault : Text.Pattern.Fault)
  deriving DecidableEq, Repr

/-- The wording of a fault. -/
def DirectiveFault.message : DirectiveFault → String
  | .malformed => "invalid filter directive"
  | .unknownLevel =>
    "error parsing level filter: expected one of \"off\", \"error\", \"warn\", \"info\", " ++
      "\"debug\", \"trace\", or a number 0-5"
  | .badPattern .malformed => "invalid field filter: error building NFA"
  | .badPattern .wordsOfAllScripts =>
    "invalid field filter: unsupported regex feature for DFAs: cannot build DFAs for regexes " ++
      "with Unicode word boundaries; switch to ASCII word boundaries, or heuristically enable " ++
      "Unicode word boundaries or use a different regex engine"

/-- A condition on the value of a field: a truth value or a number, which no text satisfies, or a
pattern whose preferred match has to reach the end of the text. Patterns that are written differently
are different conditions. -/
inductive ValueTest where
  | constant
  | pattern (written : String) (p : Text.Pattern)
  deriving DecidableEq, Repr

namespace ValueTest

/-- Whether a text is a truth value or a number. -/
def isConstant (text : String) : Bool :=
  text == "true" || text == "false" ||
    (Decimal.readInteger (-0x8000000000000000) 0xffffffffffffffff text.toList).toOption.isSome ||
    (Decimal.readLiteral text.toList).toOption.isSome

/-- Reads a condition. -/
def read (text : String) : Except DirectiveFault ValueTest :=
  if isConstant text then .ok .constant
  else match Text.Pattern.read text with
    | .ok p => .ok (.pattern text p)
    | .error fault => .error (.badPattern fault)

/-- Whether a text satisfies a condition. -/
def holds : ValueTest → String → Bool
  | .constant, _ => false
  | .pattern _ p, text => p.reachesEnd text

end ValueTest

/-- A field that has to be there, and a condition on its value. -/
structure FieldTest where
  name : String
  value : Option ValueTest
  deriving DecidableEq, Repr

/-- Reads `field` or `field=value`; a second equals sign ends the value. -/
def FieldTest.read (text : String) : Except DirectiveFault FieldTest :=
  match Text.splitAtFirst (· == '=') text.toList with
  | none => .ok ⟨text, none⟩
  | some (name, value) =>
    (ValueTest.read (String.ofList (value.takeWhile (· != '=')))).map fun test =>
      ⟨String.ofList name, some test⟩

/-- A threshold for the reports of some targets, inside of some spans. -/
structure Directive where
  target : Option String
  span : Option String
  field : Option FieldTest
  threshold : Threshold
  deriving DecidableEq, Repr

namespace Directive

/-- A directive about all targets. -/
def general (threshold : Threshold) : Directive :=
  ⟨none, none, none, threshold⟩

/-- Where the reading of a directive stands, with the place where the current part begins: before
everything, in a target or level, in the name of a span, in a field, behind a field, behind a span,
or in a level. -/
inductive Scan where
  | start
  | targetOrLevel (first : Nat)
  | span (first : Nat)
  | field (first : Nat)
  | fieldDone
  | spanDone
  | level (first : Nat)

/-- Drops bytes from the beginning. -/
def dropBytes : Nat → List Char → List Char
  | _, [] => []
  | n, c :: rest => if n = 0 then c :: rest else dropBytes (n - c.utf8Size) rest

/-- Takes bytes from the beginning. -/
def takeBytes : Nat → List Char → List Char
  | _, [] => []
  | n, c :: rest => if n = 0 then [] else c :: takeBytes (n - c.utf8Size) rest

/-- The part of a text between two places, counted in bytes. -/
def cut (whole : List Char) (first last : Nat) : String :=
  String.ofList (takeBytes (last - first) (dropBytes first whole))

/-- The part of a text behind a place. -/
def cutRest (whole : List Char) (first : Nat) : String :=
  String.ofList (dropBytes first whole)

/-- Whether a character may begin a target or a level. -/
def isOpening (c : Char) : Bool :=
  c == '-' || c == ':' || c == '_' || Text.isAlphanumeric c

/-- Reads the character at a place. -/
def step (whole : List Char) (place : Nat) (c : Char) (d : Directive) :
    Scan → Except DirectiveFault (Scan × Directive)
  | .start =>
    if c = '[' then .ok (.span (place + 1), d)
    else if isOpening c then .ok (.targetOrLevel place, d)
    else .error .malformed
  | .targetOrLevel first =>
    if c = '=' then .ok (.level (place + 1), { d with target := some (cut whole first place) })
    else if c = '[' then
      .ok (.span (place + 1), { d with target := some (cut whole first place) })
    else .ok (.targetOrLevel first, d)
  | .span first =>
    if c = ']' then .ok (.spanDone, { d with span := some (cut whole first place) })
    else if c = '\x7b' then
      let name := cut whole first place
      .ok (.field (place + 1), { d with span := if name.isEmpty then none else some name })
    else .ok (.span first, d)
  | .field first =>
    if c = '\x7d' then
      let text := cut whole first place
      if text.isEmpty then .error .malformed
      else (FieldTest.read text).map fun test => (.fieldDone, { d with field := some test })
    else .ok (.field first, d)
  | .fieldDone => if c = ']' then .ok (.spanDone, d) else .error .malformed
  | .spanDone => if c = '=' then .ok (.level (place + 1), d) else .error .malformed
  | .level first => .ok (.level first, d)

/-- Concludes the reading. A target without a level shows everything of the target. -/
def finish (whole : List Char) (d : Directive) : Scan → Except DirectiveFault Directive
  | .targetOrLevel first =>
    let text := cutRest whole first
    match Threshold.read text with
    | some threshold => .ok { d with threshold }
    | none => .ok { d with target := some text }
  | .level first =>
    let text := cutRest whole first
    if text.isEmpty then .ok d
    else match Threshold.read text with
      | some threshold => .ok { d with threshold }
      | none => .error .unknownLevel
  | .spanDone => .ok d
  | .start | .span _ | .field _ | .fieldDone => .error .malformed

/-- Reads the characters from a place on. -/
def readFrom (whole : List Char) : Nat → Scan → Directive → List Char →
    Except DirectiveFault Directive
  | _, scan, d, [] => finish whole d scan
  | place, scan, d, c :: rest =>
    match step whole place c d scan with
    | .error fault => .error fault
    | .ok (scan, d) => readFrom whole (place + c.utf8Size) scan d rest

/-- Reads a directive. -/
def read (text : String) : Except DirectiveFault Directive :=
  readFrom text.toList 0 .start (general .trace) (Text.trim text.toList)

/-- Whether a directive is about a target. -/
def covers (d : Directive) (target : String) : Bool :=
  d.target.all fun beginning => beginning.toList.isPrefixOf target.toList

/-- Whether a directive is about what happens inside of spans. -/
def isScoped (d : Directive) : Bool :=
  d.span.isSome || d.field.isSome

/-- Whether a directive is about reports by themselves: it may ask for a field, but not for a span
or a value. -/
def isPlain (d : Directive) : Bool :=
  d.span.isNone && d.field.all (·.value.isNone)

/-- Whether a directive takes the place of another one. -/
def replaces (d other : Directive) : Bool :=
  d.target == other.target && d.span == other.span && d.field == other.field

end Directive

end DetectorSim.CommandLine
