/-!
The shortest decimal that reads back as a given binary number. A binary number
stands for all reals that round to it; of the decimals with the fewest digits
among these reals, the one nearest to the number is taken.
-/

namespace DetectorSim.Decimal

/-- A binary floating-point format: bits of the stored significand and of the exponent. -/
structure BinaryFormat where
  significandBits : Nat
  exponentBits : Nat

/-- The format of 64 bits. -/
def binary64 : BinaryFormat := ⟨52, 11⟩

/-- The format of 32 bits. -/
def binary32 : BinaryFormat := ⟨23, 8⟩

/-- The positive number `significand * 2 ^ exponent`; below a power of two its neighbours
are half as far apart as above it. -/
structure Binary where
  significand : Nat
  exponent : Int
  narrowBelow : Bool

/-- What the bits of a floating-point number stand for. -/
inductive Number where
  | notANumber
  | infinite (negative : Bool)
  | zero (negative : Bool)
  | finite (negative : Bool) (magnitude : Binary)

/-- The number that a bit pattern stands for. -/
def Number.ofBits (format : BinaryFormat) (bits : Nat) : Number :=
  let stored := bits % Nat.pow 2 format.significandBits
  let scale := bits / Nat.pow 2 format.significandBits % Nat.pow 2 format.exponentBits
  let negative := bits / Nat.pow 2 (format.significandBits + format.exponentBits) % 2 == 1
  let least : Int := 2 - Nat.pow 2 (format.exponentBits - 1) - format.significandBits
  if scale = Nat.pow 2 format.exponentBits - 1 then
    if stored = 0 then .infinite negative else .notANumber
  else if scale = 0 then
    if stored = 0 then .zero negative else .finite negative ⟨stored, least, false⟩
  else
    .finite negative
      ⟨Nat.pow 2 format.significandBits + stored, least + (scale - 1 : Nat),
        stored == 0 && scale != 1⟩

/-- The positive number `digits * 10 ^ exponent`. -/
structure Digits where
  digits : Nat
  exponent : Int
  deriving DecidableEq, Repr

/-- Compares `a * 10 ^ k` with `b * 2 ^ q`. -/
def comparePowers (a : Nat) (k : Int) (b : Nat) (q : Int) : Ordering :=
  compare (a * Nat.pow 10 k.toNat * Nat.pow 2 (-q).toNat)
    (b * Nat.pow 2 q.toNat * Nat.pow 10 (-k).toNat)

/-- Whether `a * 10 ^ k` rounds to `v`. The ends of the interval belong to it when the
significand is even. -/
def Binary.covers (v : Binary) (a : Nat) (k : Int) : Bool :=
  let low := comparePowers a k (4 * v.significand - if v.narrowBelow then 1 else 2) (v.exponent - 2)
  let high := comparePowers a k (4 * v.significand + 2) (v.exponent - 2)
  if v.significand % 2 = 0 then low != .lt && high != .gt else low == .gt && high == .lt

/-- The largest `a` with `a * 10 ^ k` at most `v`. -/
def Binary.floorAt (v : Binary) (k : Int) : Nat :=
  v.significand * Nat.pow 2 v.exponent.toNat * Nat.pow 10 (-k).toNat /
    (Nat.pow 10 k.toNat * Nat.pow 2 (-v.exponent).toNat)

/-- The decimal on the grid `10 ^ k` that rounds to `v` and is nearest to it, if there is one.
Half way between two of them the larger is taken. -/
def Binary.onGrid (v : Binary) (k : Int) : Option Digits :=
  let below := v.floorAt k
  match v.covers below k, v.covers (below + 1) k with
  | false, false => none
  | true, false => some ⟨below, k⟩
  | false, true => some ⟨below + 1, k⟩
  | true, true =>
    if comparePowers (2 * below + 1) k (2 * v.significand) v.exponent == .gt then some ⟨below, k⟩
    else some ⟨below + 1, k⟩

/-- The exponent of the leading decimal digit. -/
def Binary.leadingExponent (v : Binary) : Int :=
  let shift := (-v.exponent).toNat
  ((Nat.toDigits 10 (v.floorAt (-shift))).length : Int) - 1 - shift

/-- Moves trailing zeros of the digits into the exponent. -/
def Digits.strip : Nat → Digits → Digits
  | 0, d => d
  | fuel + 1, d =>
    if d.digits % 10 = 0 ∧ d.digits ≠ 0 then strip fuel ⟨d.digits / 10, d.exponent + 1⟩ else d

/-- The shortest decimal that rounds to `v`: the first grid with a hit, coarsest first. Every
format up to 64 bits has a hit within seventeen digits. -/
def Binary.shortest (v : Binary) : Digits :=
  let top := v.leadingExponent
  let found := (List.range 17).findSome? fun (n : Nat) => v.onGrid (top - n)
  let d := found.getD ⟨v.floorAt (top - 17), top - 17⟩
  Digits.strip (Nat.toDigits 10 d.digits).length d

end DetectorSim.Decimal
