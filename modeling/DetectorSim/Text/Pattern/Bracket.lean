import DetectorSim.Text.Pattern.Escape
import DetectorSim.Text.Pattern.Nested

/-!
Sets of characters between brackets: characters, ranges, kinds of characters, sets inside
of sets, and the operations `&&`, `--` and `~~` on what stands to the left and to the right.
-/

namespace DetectorSim.Text.Pattern

/-- An operation on two sets. -/
inductive SetOperation where
  | intersection
  | difference
  | symmetricDifference
  deriving DecidableEq, Repr

/-- The result of an operation. -/
def SetOperation.apply : SetOperation → CharSet → CharSet → CharSet
  | intersection => .intersection
  | difference => .difference
  | symmetricDifference => .symmetricDifference

/-- A set that is being read: whether it is negated, the left side of a pending operation, and the
items since then, the last one first. -/
structure OpenSet where
  negated : Bool
  left : Option (SetOperation × Nested CharSet)
  items : List (Nested CharSet)

namespace OpenSet

/-- Adds an item. -/
def push (s : OpenSet) (item : Nested CharSet) : OpenSet :=
  { s with items := item :: s.items }

/-- The value of what has been read. Operations apply from left to right. -/
def value (s : OpenSet) : Nested CharSet :=
  let right := Nested.combine (·.foldl .union .none) s.items
  match s.left with
  | none => right
  | some (operation, left) =>
    ⟨operation.apply left.value right.value, 1 + max left.depth right.depth⟩

/-- Begins the right side of an operation. -/
def operate (s : OpenSet) (operation : SetOperation) : OpenSet :=
  ⟨s.negated, some (operation, s.value), []⟩

/-- The set, once it is closed. About ASCII it cannot be negated. -/
def close (o : Options) (s : OpenSet) : Option (Nested CharSet) :=
  if s.negated && !o.allScripts then none
  else some (s.value.around fun set => if s.negated then set.complement else set)

/-- Reads the dashes at the beginning of a set, which stand for themselves. Every step consumes
one. -/
def openDashes (o : Options) : Nat → OpenSet → List Char → Option (OpenSet × List Char)
  | fuel + 1, s, '-' :: rest =>
    match o.written (.single '-') with
    | none => none
    | some set => openDashes o fuel (s.push ⟨set, 0⟩) (o.skip rest)
  | _, s, cs => some (s, cs)

/-- Reads what stands directly behind an opening bracket: a caret for negation, dashes, and a
closing bracket that stands for itself because nothing is before it. -/
def opened (o : Options) (cs : List Char) : Option (OpenSet × List Char) :=
  let (negated, cs) :=
    match o.skip cs with
    | '^' :: rest => (true, o.skip rest)
    | cs => (false, cs)
  match cs with
  | ']' :: rest =>
    (o.written (.single ']')).map fun set => (⟨negated, none, [⟨set, 0⟩]⟩, o.skip rest)
  | cs => openDashes o cs.length ⟨negated, none, []⟩ cs

end OpenSet

/-- The named kinds of ASCII characters. -/
def asciiKinds : List (String × List (Nat × Nat)) :=
  [("alnum", [(0x30, 0x39), (0x41, 0x5a), (0x61, 0x7a)]),
    ("alpha", [(0x41, 0x5a), (0x61, 0x7a)]),
    ("ascii", [(0x00, 0x7f)]),
    ("blank", [(0x09, 0x09), (0x20, 0x20)]),
    ("cntrl", [(0x00, 0x1f), (0x7f, 0x7f)]),
    ("digit", [(0x30, 0x39)]),
    ("graph", [(0x21, 0x7e)]),
    ("lower", [(0x61, 0x7a)]),
    ("print", [(0x20, 0x7e)]),
    ("punct", [(0x21, 0x2f), (0x3a, 0x40), (0x5b, 0x60), (0x7b, 0x7e)]),
    ("space", [(0x09, 0x0d), (0x20, 0x20)]),
    ("upper", [(0x41, 0x5a)]),
    ("word", [(0x30, 0x39), (0x41, 0x5a), (0x5f, 0x5f), (0x61, 0x7a)]),
    ("xdigit", [(0x30, 0x39), (0x41, 0x46), (0x61, 0x66)])]

/-- Reads a named kind, `[:name:]` or `[:^name:]`, behind its bracket. -/
def readAsciiKind (cs : List Char) : Option (CharSet × List Char) :=
  match cs with
  | ':' :: rest =>
    let (negated, rest) :=
      match rest with
      | '^' :: rest => (true, rest)
      | rest => (false, rest)
    match splitAtFirst (· == ':') rest with
    | some (name, ']' :: rest) =>
      (asciiKinds.lookup (String.ofList name)).map fun ranges =>
        let set := CharSet.ofRanges ranges
        (if negated then set.complement else set, rest)
    | _ => none
  | _ => none

/-- Reads a part of a set. -/
def readSetAtom (o : Options) : List Char → Option (Atom × List Char)
  | [] => none
  | '\\' :: rest => readEscape o rest
  | c :: rest => some (.char c, rest)

/-- The set of an atom. A place is no part of a set. -/
def Atom.set? : Atom → Option CharSet
  | char c => some (.single c)
  | kind set => some set
  | place _ => none

/-- The range between two atoms, which have to be characters in their order. -/
def Atom.range? : Atom → Atom → Option CharSet
  | char first, char last => if first ≤ last then some (.between first last) else none
  | _, _ => none

/-- Reads an item of a set: an atom, or a range. A dash makes a range unless another dash or the end
of the set follows. -/
def readSetItem (o : Options) (cs : List Char) : Option (Nested CharSet × List Char) :=
  match readSetAtom o cs with
  | none => none
  | some (first, rest) =>
    let alone := (first.set?.bind o.written).map fun set => (⟨set, 0⟩, o.skip rest)
    match o.skip rest with
    | '-' :: more =>
      if o.ahead more == some ']' || o.ahead more == some '-' then alone
      else match readSetAtom o (o.skip more) with
        | none => none
        | some (last, rest) =>
          ((first.range? last).bind o.written).map fun set => (⟨set, 0⟩, rest)
    | _ => alone

/-- Reads the inside of a set and of the sets around it. Every step consumes a character. -/
def readSetFrom (o : Options) :
    Nat → OpenSet → List OpenSet → List Char → Option (Nested CharSet × List Char)
  | 0, _, _, _ => none
  | fuel + 1, s, outer, cs =>
    match o.skip cs with
    | [] => none
    | ']' :: rest =>
      match s.close o, outer with
      | none, _ => none
      | some set, [] => some (set, rest)
      | some set, around :: outer => readSetFrom o fuel (around.push set) outer rest
    | '[' :: rest =>
      match readAsciiKind rest with
      | some (set, rest) =>
        match o.written set with
        | none => none
        | some set => readSetFrom o fuel (s.push ⟨set, 0⟩) outer rest
      | none =>
        match OpenSet.opened o rest with
        | none => none
        | some (inner, rest) => readSetFrom o fuel inner (s :: outer) rest
    | '&' :: '&' :: rest => readSetFrom o fuel (s.operate .intersection) outer rest
    | '-' :: '-' :: rest => readSetFrom o fuel (s.operate .difference) outer rest
    | '~' :: '~' :: rest => readSetFrom o fuel (s.operate .symmetricDifference) outer rest
    | cs =>
      match readSetItem o cs with
      | none => none
      | some (item, rest) => readSetFrom o fuel (s.push item) outer rest

/-- Reads a set behind its opening bracket. -/
def readSet (o : Options) (cs : List Char) : Option (Nested CharSet × List Char) :=
  match OpenSet.opened o cs with
  | none => none
  | some (s, rest) => readSetFrom o (rest.length + 1) s [] rest

end DetectorSim.Text.Pattern
