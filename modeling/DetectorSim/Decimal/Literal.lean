/-!
Reading numbers. Integers are decimal digits after an optional sign; numbers with
a fraction or an exponent are read to the nearest number of the format, and words
for infinity and not-a-number are accepted in any case.
-/

namespace DetectorSim.Decimal

/-- Why a text is not an integer of the wanted range. -/
inductive IntegerFault where
  | empty
  | invalidDigit
  | tooLarge
  | tooSmall
  deriving DecidableEq, Repr

/-- The wording of a fault. -/
def IntegerFault.message : IntegerFault → String
  | .empty => "cannot parse integer from empty string"
  | .invalidDigit => "invalid digit found in string"
  | .tooLarge => "number too large to fit in target type"
  | .tooSmall => "number too small to fit in target type"

/-- The value of a decimal digit. -/
def digit? (c : Char) : Option Nat :=
  if '0' ≤ c ∧ c ≤ '9' then some (c.toNat - '0'.toNat) else none

/-- Reads digits from left to right; the first character that is no digit or lifts the value
above the limit decides the fault. -/
def readDigits (limit : Nat) (beyond : IntegerFault) : Nat → List Char → Except IntegerFault Nat
  | value, [] => .ok value
  | value, c :: rest =>
    match digit? c with
    | none => .error .invalidDigit
    | some d => if limit < 10 * value + d then .error beyond
      else readDigits limit beyond (10 * value + d) rest

/-- The digits of a number, of which there has to be one. -/
def readMagnitude (limit : Nat) (beyond : IntegerFault) (cs : List Char) :
    Except IntegerFault Nat :=
  if cs.isEmpty then .error .invalidDigit else readDigits limit beyond 0 cs

/-- Reads an integer between `low` and `high`. A minus sign is a sign only if `low` is negative. -/
def readInteger (low high : Int) : List Char → Except IntegerFault Int
  | [] => .error .empty
  | c :: rest =>
    if c = '+' then (readMagnitude high.toNat .tooLarge rest).map Int.ofNat
    else if c = '-' ∧ low < 0 then
      (readMagnitude (-low).toNat .tooSmall rest).map fun n => -Int.ofNat n
    else (readDigits high.toNat .tooLarge 0 (c :: rest)).map Int.ofNat

theorem readDigits_le {limit value result : Nat} {beyond : IntegerFault} {cs : List Char}
    (small : value ≤ limit) (read : readDigits limit beyond value cs = .ok result) :
    result ≤ limit := by
  induction cs generalizing value with
  | nil =>
    simp only [readDigits, Except.ok.injEq] at read
    omega
  | cons c rest ih =>
    simp only [readDigits] at read
    split at read
    · exact absurd read (by simp)
    · split at read
      · exact absurd read (by simp)
      · exact ih (by omega) read

theorem readInteger_bounds {low high n : Int} {cs : List Char} (zero : low ≤ 0 ∧ 0 ≤ high)
    (read : readInteger low high cs = .ok n) : low ≤ n ∧ n ≤ high := by
  have magnitude : ∀ {limit : Nat} {beyond : IntegerFault} {cs : List Char} {m : Nat},
      readMagnitude limit beyond cs = .ok m → m ≤ limit := by
    intro limit beyond cs m read
    simp only [readMagnitude] at read
    split at read
    · exact absurd read (by simp)
    · exact readDigits_le (Nat.zero_le _) read
  cases cs with
  | nil => exact absurd read (by simp [readInteger])
  | cons c rest =>
    simp only [readInteger] at read
    split at read
    · cases digits : readMagnitude high.toNat .tooLarge rest with
      | error fault => simp [digits, Except.map] at read
      | ok m =>
        simp only [digits, Except.map, Except.ok.injEq] at read
        have := magnitude digits
        simp only [Int.ofNat_eq_natCast] at read
        omega
    · split at read
      · cases digits : readMagnitude (-low).toNat .tooSmall rest with
        | error fault => simp [digits, Except.map] at read
        | ok m =>
          simp only [digits, Except.map, Except.ok.injEq] at read
          have := magnitude digits
          simp only [Int.ofNat_eq_natCast] at read
          omega
      · cases digits : readDigits high.toNat .tooLarge 0 (c :: rest) with
        | error fault => simp [digits, Except.map] at read
        | ok m =>
          simp only [digits, Except.map, Except.ok.injEq] at read
          have := readDigits_le (Nat.zero_le _) digits
          simp only [Int.ofNat_eq_natCast] at read
          omega

/-- Why a text is not a floating-point number. -/
inductive FloatFault where
  | empty
  | invalid
  deriving DecidableEq, Repr

/-- The wording of a fault. -/
def FloatFault.message : FloatFault → String
  | .empty => "cannot parse float from empty string"
  | .invalid => "invalid float literal"

/-- A number as it is written, before rounding. -/
inductive Literal where
  | notANumber
  | infinite
  | finite (digits : Nat) (exponent : Int)
  deriving DecidableEq, Repr

/-- The value of a digit string. -/
def digitsValue (cs : List Char) : Nat :=
  cs.foldl (fun value c => 10 * value + (c.toNat - '0'.toNat)) 0

/-- The exponent after its letter: an optional sign and at least one digit. -/
def readExponent (cs : List Char) : Option Int :=
  let (negative, ds) := match cs with
    | '+' :: rest => (false, rest)
    | '-' :: rest => (true, rest)
    | _ => (false, cs)
  if ds.isEmpty || !ds.all Char.isDigit then none
  else some (if negative then -(digitsValue ds : Int) else digitsValue ds)

/-- A number without sign. -/
def readUnsigned (cs : List Char) : Option Literal :=
  let word := String.ofList (cs.map Char.toLower)
  if word = "inf" ∨ word = "infinity" then some .infinite
  else if word = "nan" then some .notANumber
  else
    let whole := cs.takeWhile Char.isDigit
    let afterWhole := cs.dropWhile Char.isDigit
    let (fraction, afterFraction) := match afterWhole with
      | '.' :: rest => (rest.takeWhile Char.isDigit, rest.dropWhile Char.isDigit)
      | _ => ([], afterWhole)
    if whole.isEmpty && fraction.isEmpty then none
    else
      let literal (e : Int) : Literal := .finite (digitsValue (whole ++ fraction)) (e - fraction.length)
      match afterFraction with
      | [] => some (literal 0)
      | c :: rest => if c = 'e' ∨ c = 'E' then (readExponent rest).map literal else none

/-- A number with an optional sign; the flag tells whether it is negative. -/
def readLiteral : List Char → Except FloatFault (Bool × Literal)
  | [] => .error .empty
  | c :: rest =>
    let (negative, body) := if c = '+' then (false, rest) else if c = '-' then (true, rest)
      else (false, c :: rest)
    match readUnsigned body with
    | some literal => .ok (negative, literal)
    | none => .error .invalid

/-- Decimal orders of magnitude that no format reaches: `digits * 10 ^ exponent` counts as
infinite from the upper bound on and as zero below the lower one. -/
def overflowOrder : Int := 400

/-- Rounds a literal to 64 bits, with care for exponents that no number needs. -/
def Literal.toFloat (negative : Bool) : Literal → Float
  | .notANumber => 0.0 / 0.0
  | .infinite => if negative then -(1.0 / 0.0) else 1.0 / 0.0
  | .finite digits exponent =>
    let order := (Nat.toDigits 10 digits).length + exponent
    let magnitude : Float :=
      if digits = 0 ∨ order < -overflowOrder then 0.0
      else if overflowOrder < order then 1.0 / 0.0
      else Float.ofScientific digits (exponent < 0) exponent.natAbs
    if negative then -magnitude else magnitude

/-- Rounds a literal to 32 bits. -/
def Literal.toFloat32 (negative : Bool) : Literal → Float32
  | .notANumber => 0.0 / 0.0
  | .infinite => if negative then -(1.0 / 0.0) else 1.0 / 0.0
  | .finite digits exponent =>
    let order := (Nat.toDigits 10 digits).length + exponent
    let magnitude : Float32 :=
      if digits = 0 ∨ order < -overflowOrder then 0.0
      else if overflowOrder < order then 1.0 / 0.0
      else Float32.ofScientific digits (exponent < 0) exponent.natAbs
    if negative then -magnitude else magnitude

end DetectorSim.Decimal
