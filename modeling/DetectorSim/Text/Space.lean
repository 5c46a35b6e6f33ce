/-!
White space and trimming. The white-space characters are those of the Unicode
property `White_Space`, so a no-break or ideographic space separates words as
well as a blank does.
-/

namespace DetectorSim.Text

/-- The characters of the Unicode property `White_Space`. -/
def isSpace (c : Char) : Bool :=
  let n := c.toNat
  (0x09 ≤ n && n ≤ 0x0d) || n == 0x20 || n == 0x85 || n == 0xa0 || n == 0x1680 ||
    (0x2000 ≤ n && n ≤ 0x200a) || n == 0x2028 || n == 0x2029 || n == 0x202f ||
    n == 0x205f || n == 0x3000

/-- Drops the characters satisfying `p` from both ends. -/
def trimBy (p : Char → Bool) (cs : List Char) : List Char :=
  ((cs.dropWhile p).reverse.dropWhile p).reverse

/-- Drops white space from both ends. -/
def trim (cs : List Char) : List Char :=
  trimBy isSpace cs

theorem trimBy_eq_self (p : Char → Bool) (cs : List Char)
    (first : ∀ c, cs.head? = some c → p c = false) (last : ∀ c, cs.getLast? = some c → p c = false) :
    trimBy p cs = cs := by
  have keep : ∀ (ds : List Char), (∀ c, ds.head? = some c → p c = false) → ds.dropWhile p = ds := by
    intro ds head
    cases ds with
    | nil => rfl
    | cons d rest => simp [head d rfl]
  unfold trimBy
  rw [keep cs first, keep cs.reverse (by simpa using last), List.reverse_reverse]

/-- Splits before the first character satisfying `p`, leaving that character out. -/
def splitAtFirst (p : Char → Bool) : List Char → Option (List Char × List Char)
  | [] => none
  | c :: rest => if p c then some ([], rest) else (splitAtFirst p rest).map fun (a, b) => (c :: a, b)

/-- The lines of a text. A line ends at a line feed; a final line feed opens no further line. -/
def lines : List Char → List (List Char)
  | [] => []
  | c :: rest =>
    if c = '\n' then [] :: lines rest
    else match lines rest with
      | [] => [[c]]
      | line :: more => (c :: line) :: more

/-- Two texts that differ at most in the case of ASCII letters. -/
def sameLetters (a b : String) : Bool :=
  a.toList.map Char.toLower == b.toList.map Char.toLower

@[simp] theorem sameLetters_refl (a : String) : sameLetters a a = true := by
  simp [sameLetters]

end DetectorSim.Text
