import DetectorSim.Text.CharSet
import DetectorSim.Text.Space

/-!
The options of a pattern, which can change from one part of it to the next. Without further
notice a pattern is about the characters of all scripts; then it can use neither both cases
of a letter nor letters or digits as a kind of character. About ASCII it can.
-/

namespace DetectorSim.Text.Pattern

/-- The options: whether letters match in both cases, `^` and `$` match at lines, `.` matches line
ends, repetitions are rather lazy, the characters are those of all scripts, lines end at carriage
returns too, and blanks and comments are left out. -/
structure Options where
  bothCases : Bool
  atLines : Bool
  dotMatchesAll : Bool
  ratherLazy : Bool
  allScripts : Bool
  atReturns : Bool
  spaced : Bool
  deriving DecidableEq, Repr

namespace Options

/-- The options at the beginning of a pattern. -/
def standard : Options :=
  ⟨false, false, false, false, true, false, false⟩

/-- Turns the option of a letter on or off. -/
def turn (o : Options) (on : Bool) : Char → Option Options
  | 'i' => some { o with bothCases := on }
  | 'm' => some { o with atLines := on }
  | 's' => some { o with dotMatchesAll := on }
  | 'U' => some { o with ratherLazy := on }
  | 'u' => some { o with allScripts := on }
  | 'R' => some { o with atReturns := on }
  | 'x' => some { o with spaced := on }
  | _ => none

/-- Reads the letters of options up to a colon, which begins a group, or a closing parenthesis. The
letters after a dash turn options off. No letter stands twice, and one follows the dash. -/
def readFrom (on : Bool) (before : List Char) (o : Options) :
    List Char → Option (Options × Bool × List Char)
  | [] => none
  | c :: rest =>
    if c = ':' then if before.head? == some '-' then none else some (o, true, rest)
    else if c = ')' then
      if before.isEmpty || before.head? == some '-' then none else some (o, false, rest)
    else if before.contains c then none
    else if c = '-' then readFrom false ('-' :: before) o rest
    else match o.turn on c with
      | none => none
      | some o => readFrom on (c :: before) o rest

/-- Reads changes of the options: the changed options, whether they are those of a group, and what
follows. -/
def read (o : Options) (cs : List Char) : Option (Options × Bool × List Char) :=
  readFrom true [] o cs

/-- Drops blanks and comments. A comment goes from a number sign to the end of the line. -/
def dropSpace (inComment : Bool) : List Char → List Char
  | [] => []
  | c :: rest =>
    if inComment then dropSpace (c != '\n') rest
    else if isSpace c then dropSpace false rest
    else if c = '#' then dropSpace true rest
    else c :: rest

/-- Drops what is left out. -/
def skip (o : Options) (cs : List Char) : List Char :=
  if o.spaced then dropSpace false cs else cs

/-- The first character that is no blank, where a number sign is passed over once. -/
def firstVisible (passed : Bool) : List Char → Option Char
  | [] => none
  | c :: rest =>
    if isSpace c then firstVisible passed rest
    else if c = '#' && !passed then firstVisible true rest
    else some c

/-- The next character by which a dash is judged. If blanks are left out it is the next visible one;
a comment is not recognized here. -/
def ahead (o : Options) (cs : List Char) : Option Char :=
  if o.spaced then (firstVisible false cs).or cs.head? else cs.head?

/-- The characters that a set in the pattern gets if some characters are written in it. -/
def written (o : Options) (s : CharSet) : Option CharSet :=
  if o.allScripts then if o.bothCases then none else some s
  else if s.isAscii then some (if o.bothCases then s.withBothCases else s)
  else none

end Options

end DetectorSim.Text.Pattern
