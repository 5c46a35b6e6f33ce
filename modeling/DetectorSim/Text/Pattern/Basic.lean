import DetectorSim.Text.CharSet

/-!
Regular patterns. Patterns are combined by functions that keep them in a normal form:
nested sequences and choices are joined, neighbouring literals are one literal, a choice
between sets is one set, and what all choices begin with stands before them.
-/

namespace DetectorSim.Text

/-- A condition on a place in a text: its beginning or end, the beginning or end of a line, or a
relation to the words around it. Lines end at a line feed, or also at a carriage return. -/
inductive Place where
  | textStart
  | textEnd
  | lineStart (atReturns : Bool)
  | lineEnd (atReturns : Bool)
  | wordEdge
  | noWordEdge
  | wordStart
  | wordEnd
  deriving DecidableEq, Repr

namespace Place

/-- A letter, a digit or an underscore. Words consist of these. -/
def isWordChar (c : Char) : Bool :=
  c.isAlphanum || c == '_'

/-- Whether a condition is met between two characters, or at an end of the text. -/
def holds (before after : Option Char) : Place → Bool
  | textStart => before.isNone
  | textEnd => after.isNone
  | lineStart atReturns =>
    before.all (· == '\n') || (atReturns && before == some '\r' && after != some '\n')
  | lineEnd atReturns =>
    if atReturns then after.all fun c => c == '\r' || (c == '\n' && before != some '\r')
    else after.all (· == '\n')
  | wordEdge => before.any isWordChar != after.any isWordChar
  | noWordEdge => before.any isWordChar == after.any isWordChar
  | wordStart => !before.any isWordChar && after.any isWordChar
  | wordEnd => before.any isWordChar && !after.any isWordChar

/-- Whether a condition is about the words around a place. -/
def isAboutWords : Place → Bool
  | wordEdge | noWordEdge | wordStart | wordEnd => true
  | textStart | textEnd | lineStart _ | lineEnd _ => false

end Place

/-- How often a repeated pattern may match: at most once, any number of times, or at least
once. -/
inductive Count where
  | optional
  | many
  | some
  deriving DecidableEq, Repr

/-- A regular pattern. A repetition is greedy if it prefers more repetitions to fewer; captures are
numbered. -/
inductive Pattern where
  | nothing
  | literal (text : List Char)
  | one (set : CharSet)
  | place (p : Place)
  | repeated (count : Count) (greedy : Bool) (p : Pattern)
  | capture (number : Nat) (p : Pattern)
  | sequence (first next : Pattern)
  | choice (first next : Pattern)
  deriving DecidableEq, Repr

namespace Pattern

/-- Whether a pattern matches nothing but the empty text. -/
def isEmptyOnly : Pattern → Bool
  | nothing | place _ => true
  | literal _ | one _ => false
  | repeated count _ p => count == .optional && p.isEmptyOnly
  | capture _ p => p.isEmptyOnly
  | sequence p q | choice p q => p.isEmptyOnly && q.isEmptyOnly

/-- Whether a pattern does not match the empty text. -/
def consumes : Pattern → Bool
  | nothing | place _ => false
  | literal _ | one _ => true
  | repeated count _ p => count == .some && p.consumes
  | capture _ p => p.consumes
  | sequence p q => p.consumes || q.consumes
  | choice p q => p.consumes && q.consumes

/-- The parts of a sequence, none if there is nothing to match. -/
def parts : Pattern → List Pattern
  | nothing => []
  | sequence p q => p :: q.parts
  | p => [p]

/-- The patterns of a choice. -/
def branches : Pattern → List Pattern
  | choice p q => p :: q.branches
  | p => [p]

/-- The sequence of some parts, as they are. -/
def ofParts : List Pattern → Pattern
  | [] => nothing
  | [p] => p
  | p :: ps => sequence p (ofParts ps)

/-- The choice between some patterns, as they are. Without any there is no match. -/
def ofBranches : List Pattern → Pattern
  | [] => one .none
  | [p] => p
  | p :: ps => choice p (ofBranches ps)

/-- Puts a part before others. -/
def before (p : Pattern) (ps : List Pattern) : List Pattern :=
  match p, ps with
  | literal a, literal b :: rest => literal (a ++ b) :: rest
  | p, ps => p :: ps

/-- The patterns one after the other. -/
def inOrder (ps : List Pattern) : Pattern :=
  ofParts ((ps.flatMap parts).foldr before [])

/-- One character of a set. A set of one character is a literal. -/
def ofSet (s : CharSet) : Pattern :=
  match s.single? with
  | some c => literal [c]
  | none => one s

/-- The only character of a literal. -/
def asChar : Pattern → Option CharSet
  | literal [c] => some (.single c)
  | _ => none

/-- The set that a pattern stands for. -/
def asSet : Pattern → Option CharSet
  | one s => some s
  | _ => none

/-- The choice between patterns that are no choices. -/
def merged (ps : List Pattern) : Pattern :=
  match (ps.mapM asChar).orElse fun _ => ps.mapM asSet with
  | some sets => ofSet (sets.foldl .union .none)
  | none => ofBranches ps

/-- What two lists begin with. -/
def sharedParts : List Pattern → List Pattern → List Pattern
  | p :: ps, q :: qs => if p = q then p :: sharedParts ps qs else []
  | _, _ => []

/-- The parts that all branches begin with, if all are sequences. -/
def sharedBeginning (ps : List Pattern) : List Pattern :=
  match ps.map parts with
  | first :: rest =>
    if (first :: rest).all (2 ≤ ·.length) then rest.foldl sharedParts first else []
  | [] => []

/-- The choice between some patterns, the first that matches. -/
def anyOf (ps : List Pattern) : Pattern :=
  let flat := ps.flatMap branches
  match sharedBeginning flat with
  | [] => merged flat
  | shared =>
    let rests := flat.map fun p => ofParts (p.parts.drop shared.length)
    inOrder (shared ++ [merged (rests.flatMap branches)])

/-- A pattern repeated. Repeating what matches only the empty text adds nothing, but it may be left
out. -/
def times (count : Count) (greedy : Bool) (p : Pattern) : Pattern :=
  if p.isEmptyOnly then
    match count with
    | .some => p
    | .optional | .many => repeated .optional greedy p
  else repeated count greedy p

end Pattern

end DetectorSim.Text
