import DetectorSim.Text.Alphanumeric
import DetectorSim.Text.Pattern.Bracket
import DetectorSim.Text.Pattern.Machine

/-!
Reading regular patterns. Groups restore the options that they change. Braces have no
meaning in a pattern, and the edges of words are those of ASCII words only.
-/

namespace DetectorSim.Text.Pattern

/-- Why a text is not read as a pattern: it is none, or it is about the edges of words of all
scripts. -/
inductive Fault where
  | malformed
  | wordsOfAllScripts
  deriving DecidableEq, Repr

/-- An item of a sequence. A change of options is an item that cannot be repeated. -/
structure Item where
  pattern : Nested Pattern
  repeatable : Bool

/-- A group that is being read: the options and the number of the capture that it ends with, its
earlier branches and the items of its current one, both last first. -/
structure OpenGroup where
  options : Options
  number : Option Nat
  branches : List (Nested Pattern)
  items : List Item

namespace OpenGroup

/-- All branches, the last one first. -/
def allBranches (g : OpenGroup) : List (Nested Pattern) :=
  Nested.combine (fun items => inOrder items.reverse) (g.items.map (·.pattern)) :: g.branches

/-- The pattern inside of a group. -/
def value (g : OpenGroup) : Nested Pattern :=
  Nested.combine (fun branches => anyOf branches.reverse) g.allBranches

end OpenGroup

/-- A pattern that is being read: the current options, the innermost group and those around it, the
number of captures and their names, and whether it is about the edges of words of all scripts. -/
structure Reader where
  options : Options
  group : OpenGroup
  outer : List OpenGroup
  captures : Nat
  names : List (List Char)
  wordsOfAllScripts : Bool

namespace Reader

/-- The reader at the beginning. -/
def start : Reader :=
  ⟨.standard, ⟨.standard, none, [], []⟩, [], 0, [], false⟩

/-- Adds an item. -/
def pushItem (r : Reader) (item : Item) : Reader :=
  { r with group := { r.group with items := item :: r.group.items } }

/-- Adds a pattern that can be repeated. -/
def push (r : Reader) (p : Nested Pattern) : Reader :=
  r.pushItem ⟨p, true⟩

/-- Adds an atom. -/
def pushAtom (r : Reader) : Atom → Option Reader
  | .char c => (ofChar r.options c).map fun p => r.push ⟨p, 0⟩
  | .kind set => some (r.push ⟨one set, 0⟩)
  | .place p =>
    some { r.push ⟨.place p, 0⟩ with
      wordsOfAllScripts := r.wordsOfAllScripts || (r.options.allScripts && p.isAboutWords) }

/-- Begins a group with options of its own. -/
def openGroup (r : Reader) (inside : Options) (number : Option Nat) : Reader :=
  { r with
    options := inside
    group := ⟨r.options, number, [], []⟩
    outer := r.group :: r.outer }

/-- Begins a capture. -/
def openCapture (r : Reader) : Reader :=
  { r.openGroup r.options (some r.captures) with captures := r.captures + 1 }

/-- Ends the innermost group. -/
def closeGroup (r : Reader) : Option Reader :=
  match r.outer with
  | [] => none
  | around :: outer =>
    let wrap (p : Pattern) : Pattern :=
      match r.group.number with
      | some n => capture n p
      | none => p
    some ({ r with options := r.group.options, group := around, outer }.push
      (r.group.value.around wrap))

/-- Begins a further branch of the innermost group. -/
def nextBranch (r : Reader) : Reader :=
  { r with group := { r.group with branches := r.group.allBranches, items := [] } }

/-- Whether a character may be in the name of a capture, or begin it. -/
def isNameChar (first : Bool) (c : Char) : Bool :=
  if first then c == '_' || isAlphabetic c
  else c == '_' || c == '.' || c == '[' || c == ']' || isAlphanumeric c

/-- Begins a capture with a name. No two captures share a name. -/
def openNamed (r : Reader) (cs : List Char) : Option (Reader × List Char) :=
  match splitAtFirst (· == '>') cs with
  | some (c :: more, rest) =>
    if isNameChar true c && more.all (isNameChar false) && !r.names.contains (c :: more) then
      some ({ r.openCapture with names := (c :: more) :: r.names }, rest)
    else none
  | _ => none

/-- Reads what stands behind an opening parenthesis: the name of a capture, or options for a group
or for what follows. -/
def stepGroup (r : Reader) (cs : List Char) : Option (Reader × List Char) :=
  match cs with
  | '?' :: 'P' :: '<' :: rest | '?' :: '<' :: rest => r.openNamed rest
  | '?' :: rest =>
    match r.options.read rest with
    | none => none
    | some (inside, true, rest) => some (r.openGroup inside none, rest)
    | some (options, false, rest) =>
      some ({ r with options }.pushItem ⟨⟨nothing, 0⟩, false⟩, rest)
  | cs => some (r.openCapture, cs)

/-- The count that a character asks for. -/
def countOf : Char → Option Count
  | '?' => some .optional
  | '*' => some .many
  | '+' => some .some
  | _ => none

/-- Repeats the last item. A question mark directly behind the count makes the repetition lazy, or
greedy where repetitions are rather lazy. -/
def repeatLast (r : Reader) (count : Count) (cs : List Char) : Option (Reader × List Char) :=
  match r.group.items with
  | ⟨p, true⟩ :: items =>
    let (marked, rest) :=
      match cs with
      | '?' :: rest => (true, rest)
      | cs => (false, cs)
    let again := p.around (times count (r.options.ratherLazy == marked))
    some ({ r with group := { r.group with items := ⟨again, true⟩ :: items } }, rest)
  | _ => none

/-- Reads a character and what belongs to it. -/
def step (r : Reader) (c : Char) (rest : List Char) : Option (Reader × List Char) :=
  match countOf c with
  | some count => r.repeatLast count rest
  | none =>
    let pushed (p : Option Pattern) : Option (Reader × List Char) :=
      p.map fun p => (r.push ⟨p, 0⟩, rest)
    match c with
    | '(' => r.stepGroup (r.options.skip rest)
    | ')' => r.closeGroup.map fun r => (r, rest)
    | '|' => some (r.nextBranch, rest)
    | '[' =>
      (readSet r.options rest).map fun (set, rest) => (r.push ⟨ofSet set.value, set.depth⟩, rest)
    | '\\' =>
      match readEscape r.options rest with
      | none => none
      | some (atom, rest) => (r.pushAtom atom).map fun r => (r, rest)
    | '\x7b' => none
    | '.' => pushed (dot r.options)
    | '^' => pushed (some (.place r.options.beginning))
    | '$' => pushed (some (.place r.options.ending))
    | c => pushed (ofChar r.options c)

/-- Reads a text. Every step consumes a character. -/
def run : Nat → Reader → List Char → Option Reader
  | 0, _, _ => none
  | fuel + 1, r, cs =>
    match r.options.skip cs with
    | [] => some r
    | c :: rest =>
      match r.step c rest with
      | none => none
      | some (r, rest) => run fuel r rest

/-- The greatest number of levels in a pattern. -/
def deepest : Nat :=
  250

/-- The pattern, if all of its groups are closed. -/
def finish (r : Reader) : Except Fault Pattern :=
  if !r.outer.isEmpty || deepest < r.group.value.depth then .error .malformed
  else if r.wordsOfAllScripts then .error .wordsOfAllScripts
  else .ok r.group.value.value

end Reader

/-- Reads a pattern. -/
def read (text : String) : Except Fault Pattern :=
  match Reader.start.run (text.toList.length + 1) text.toList with
  | none => .error .malformed
  | some r => r.finish

end DetectorSim.Text.Pattern
