import DetectorSim.Text.Printable

/-!
Quoted texts. A text is written between double quotes, each character by itself,
by a short escape, or by its number in hexadecimal.
-/

namespace DetectorSim.Text

/-- The hexadecimal digits of a number, most significant first. -/
def hexDigits (n : Nat) : List Char :=
  Nat.toDigits 16 n

/-- The written form of one character inside quotes. -/
def quotedChar (c : Char) : List Char :=
  if c = '\x22' then ['\\', '\x22']
  else if c = '\\' then ['\\', '\\']
  else if c = '\n' then ['\\', 'n']
  else if c = '\t' then ['\\', 't']
  else if c = '\r' then ['\\', 'r']
  else if c = '\x00' then ['\\', '0']
  else if isPrintable c then [c]
  else ['\\', 'u', '\x7b'] ++ hexDigits c.toNat ++ ['\x7d']

/-- A text between double quotes. -/
def quoted (s : String) : String :=
  String.ofList ('\x22' :: s.toList.flatMap quotedChar ++ ['\x22'])

/-- An optional text: `None`, or the quoted text inside `Some`. -/
def quotedOption : Option String → String
  | none => "None"
  | some s => "Some(" ++ quoted s ++ ")"

/-- The items of a list between brackets, separated by commas. -/
def bracketed (items : List String) : String :=
  "[" ++ ", ".intercalate items ++ "]"

/-- The fields of a record between braces, after its name; `open` records end in two dots. -/
def record (name : String) (fields : List (String × String)) (isOpen : Bool) : String :=
  let shown := fields.map fun (field, value) => field ++ ": " ++ value
  name ++ " \x7b " ++ ", ".intercalate (if isOpen then shown ++ [".."] else shown) ++ " \x7d"

end DetectorSim.Text
