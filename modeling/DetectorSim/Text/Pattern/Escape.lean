import DetectorSim.Text.Pattern.Basic
import DetectorSim.Text.Pattern.Options

/-!
What stands behind a backslash in a pattern: a character by itself, by name or by number, a
kind of character, or a place.
-/

namespace DetectorSim.Text.Pattern

/-- A part of a pattern that no other parts are written in. -/
inductive Atom where
  | char (c : Char)
  | kind (set : CharSet)
  | place (p : Place)
  deriving DecidableEq, Repr

/-- The value of a hexadecimal digit. -/
def hexDigit (c : Char) : Option Nat :=
  if '0' ≤ c && c ≤ '9' then some (c.toNat - '0'.toNat)
  else if 'a' ≤ c && c ≤ 'f' then some (c.toNat - 'a'.toNat + 10)
  else if 'A' ≤ c && c ≤ 'F' then some (c.toNat - 'A'.toNat + 10)
  else none

/-- Reads hexadecimal digits behind a number. -/
def readHex (o : Options) : Nat → Nat → List Char → Option (Nat × List Char)
  | 0, value, cs => some (value, o.skip cs)
  | digits + 1, value, cs =>
    match o.skip cs with
    | [] => none
    | c :: rest =>
      match hexDigit c with
      | none => none
      | some digit => readHex o digits (16 * value + digit) rest

/-- Reads a character by its number. With two digits and about ASCII it has to be an ASCII one. -/
def readNumbered (o : Options) (digits : Nat) (cs : List Char) : Option (Atom × List Char) :=
  match readHex o digits 0 cs with
  | none => none
  | some (n, rest) =>
    let c := Char.ofNat n
    if c.toNat ≠ n || (!o.allScripts && digits == 2 && 0x80 ≤ n) then none
    else some (.char c, rest)

/-- The kinds of characters: digits, blanks, and characters of words. -/
def kindOf : Char → Option CharSet
  | 'd' => some (.ofRanges [(0x30, 0x39)])
  | 's' => some (.ofRanges [(0x09, 0x0d), (0x20, 0x20)])
  | 'w' => some (.ofRanges [(0x30, 0x39), (0x41, 0x5a), (0x5f, 0x5f), (0x61, 0x7a)])
  | _ => none

/-- The characters that have a letter of their own. -/
def controlOf : Char → Option Char
  | 'a' => some '\x07'
  | 'f' => some '\x0c'
  | 't' => some '\t'
  | 'n' => some '\n'
  | 'r' => some '\r'
  | 'v' => some '\x0b'
  | _ => none

/-- The places that have a character of their own. -/
def placeOf : Char → Option Place
  | 'A' => some .textStart
  | 'z' => some .textEnd
  | 'b' => some .wordEdge
  | 'B' => some .noWordEdge
  | '<' => some .wordStart
  | '>' => some .wordEnd
  | _ => none

/-- Reads what stands behind a backslash. -/
def readEscape (o : Options) : List Char → Option (Atom × List Char)
  | [] => none
  | 'x' :: rest => readNumbered o 2 rest
  | 'u' :: rest => readNumbered o 4 rest
  | 'U' :: rest => readNumbered o 8 rest
  | 'b' :: '\x7b' :: _ => none
  | c :: rest =>
    match controlOf c, placeOf c, kindOf c with
    | some control, _, _ => some (.char control, rest)
    | _, some p, _ => some (.place p, rest)
    | _, _, some set => if o.allScripts then none else some (.kind set, rest)
    | none, none, none => if c.isAlphanum || 0x80 ≤ c.toNat then none else some (.char c, rest)

/-- The pattern of a character. About all scripts there is none for both cases. -/
def ofChar (o : Options) (c : Char) : Option Pattern :=
  if o.bothCases && o.allScripts then none
  else some (ofSet (if o.bothCases then (CharSet.single c).withBothCases else .single c))

/-- The pattern of any character but line ends. -/
def dot (o : Options) : Option Pattern :=
  let lineEnds := if o.atReturns then [(0x0a, 0x0a), (0x0d, 0x0d)] else [(0x0a, 0x0a)]
  if !o.allScripts then none
  else some (one (if o.dotMatchesAll then .all else (CharSet.ofRanges lineEnds).complement))

/-- The beginning that `^` stands for. -/
def Options.beginning (o : Options) : Place :=
  if o.atLines then .lineStart o.atReturns else .textStart

/-- The end that `$` stands for. -/
def Options.ending (o : Options) : Place :=
  if o.atLines then .lineEnd o.atReturns else .textEnd

end DetectorSim.Text.Pattern
