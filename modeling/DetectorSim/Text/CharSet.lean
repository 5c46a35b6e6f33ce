/-!
Sets of characters. A set is kept as inclusive ranges of code points that ascend and
neither overlap nor touch, so that sets with the same characters are equal.
-/

namespace DetectorSim.Text

/-- A set of characters, by its ranges. -/
structure CharSet where
  ranges : List (Nat × Nat)
  deriving DecidableEq, Repr

namespace CharSet

/-- The greatest code point. -/
def greatest : Nat :=
  0x10ffff

/-- Whether a code point is in one of some ranges. -/
def covers (ranges : List (Nat × Nat)) (n : Nat) : Bool :=
  ranges.any fun (first, last) => first ≤ n && n ≤ last

/-- Whether a character is in a set. -/
def contains (s : CharSet) (c : Char) : Bool :=
  covers s.ranges c.toNat

/-- Adds a range to ranges that ascend and do not touch. -/
def insertRange (first last : Nat) : List (Nat × Nat) → List (Nat × Nat)
  | [] => [(first, last)]
  | (a, b) :: rest =>
    if last + 1 < a then (first, last) :: (a, b) :: rest
    else if b + 1 < first then (a, b) :: insertRange first last rest
    else insertRange (min first a) (max last b) rest

/-- The ranges between some ranges, from a code point on. -/
def gaps (next : Nat) : List (Nat × Nat) → List (Nat × Nat)
  | [] => if next ≤ greatest then [(next, greatest)] else []
  | (a, b) :: rest => if next < a then (next, a - 1) :: gaps (b + 1) rest else gaps (b + 1) rest

/-- The set without characters. -/
def none : CharSet :=
  ⟨[]⟩

/-- The set of all characters. -/
def all : CharSet :=
  ⟨[(0, greatest)]⟩

/-- The set of the characters in some ranges. -/
def ofRanges (ranges : List (Nat × Nat)) : CharSet :=
  ⟨ranges.foldr (fun (first, last) rest => insertRange first last rest) []⟩

/-- The characters from one to another. -/
def between (first last : Char) : CharSet :=
  ⟨[(first.toNat, last.toNat)]⟩

/-- A character by itself. -/
def single (c : Char) : CharSet :=
  between c c

/-- The only character of a set, if it is the only one. -/
def single? (s : CharSet) : Option Char :=
  match s.ranges with
  | [(first, last)] => if first = last then some (Char.ofNat first) else .none
  | _ => .none

/-- The characters in either of two sets. -/
def union (s t : CharSet) : CharSet :=
  ofRanges (s.ranges ++ t.ranges)

/-- The characters that are not in a set. -/
def complement (s : CharSet) : CharSet :=
  ⟨gaps 0 s.ranges⟩

/-- The characters in both of two sets. -/
def intersection (s t : CharSet) : CharSet :=
  (s.complement.union t.complement).complement

/-- The characters in the first of two sets only. -/
def difference (s t : CharSet) : CharSet :=
  s.intersection t.complement

/-- The characters in exactly one of two sets. -/
def symmetricDifference (s t : CharSet) : CharSet :=
  (s.difference t).union (t.difference s)

/-- The part of a range between two code points, shifted. -/
def shifted (low high : Nat) (shift : Nat → Nat) (range : Nat × Nat) : Option (Nat × Nat) :=
  let first := max low range.1
  let last := min high range.2
  if first ≤ last then some (shift first, shift last) else .none

/-- The set with both cases of the ASCII letters that it has in one case. -/
def withBothCases (s : CharSet) : CharSet :=
  ofRanges (s.ranges ++ s.ranges.filterMap (shifted 0x41 0x5a (· + 0x20)) ++
    s.ranges.filterMap (shifted 0x61 0x7a (· - 0x20)))

/-- Whether all characters of a set are ASCII ones. -/
def isAscii (s : CharSet) : Bool :=
  s.ranges.all fun (_, last) => last ≤ 0x7f

end CharSet

end DetectorSim.Text
