import DetectorSim.Decimal.Shortest

/-!
Written forms of floating-point numbers. A plain form never has an exponent; a
marked form shows by a point or an exponent that the number is a floating-point
number.
-/

namespace DetectorSim.Decimal

/-- The digits without exponent; `places` zeros at least follow the point of a whole number. -/
def Digits.positional (d : Digits) (places : Nat) : String :=
  let ds := Nat.toDigits 10 d.digits
  let whole := ds.length + d.exponent
  let zeros := List.replicate places '0'
  let chars :=
    if 0 ≤ d.exponent then
      ds ++ List.replicate d.exponent.toNat '0' ++ (if places = 0 then [] else '.' :: zeros)
    else if 0 < whole then ds.take whole.toNat ++ '.' :: ds.drop whole.toNat
    else '0' :: '.' :: List.replicate (-whole).toNat '0' ++ ds
  String.ofList chars

/-- The exponent of the leading digit. -/
def Digits.leadingExponent (d : Digits) : Int :=
  (Nat.toDigits 10 d.digits).length + d.exponent - 1

/-- One digit before the point and the exponent after an `e`. -/
def Digits.scientific (d : Digits) : String :=
  let mantissa := match Nat.toDigits 10 d.digits with
    | [] => []
    | [c] => [c]
    | c :: rest => c :: '.' :: rest
  String.ofList mantissa ++ "e" ++ toString d.leadingExponent

/-- A sign before negative numbers. -/
def signed (negative : Bool) (text : String) : String :=
  if negative then "-" ++ text else text

/-- The plain form: no exponent, no point after a whole number. -/
def Number.plain : Number → String
  | .notANumber => "NaN"
  | .infinite negative => signed negative "inf"
  | .zero negative => signed negative "0"
  | .finite negative v => signed negative (v.shortest.positional 0)

/-- The marked form: an exponent below `10 ^ -4` and from `10 ^ 16` on, else a point. -/
def Number.marked : Number → String
  | .notANumber => "NaN"
  | .infinite negative => signed negative "inf"
  | .zero negative => signed negative "0.0"
  | .finite negative v =>
    let d := v.shortest
    let e := d.leadingExponent
    signed negative (if e < -4 ∨ 16 ≤ e then d.scientific else d.positional 1)

/-- The plain form of a number of 64 bits. -/
def plain64 (x : Float) : String :=
  (Number.ofBits binary64 x.toBits.toNat).plain

/-- The plain form of a number of 32 bits. -/
def plain32 (x : Float32) : String :=
  (Number.ofBits binary32 x.toBits.toNat).plain

/-- The marked form of a number of 64 bits. -/
def marked64 (x : Float) : String :=
  (Number.ofBits binary64 x.toBits.toNat).marked

end DetectorSim.Decimal
