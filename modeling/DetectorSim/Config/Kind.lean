import DetectorSim.Config.Value
import DetectorSim.Decimal.Literal
import DetectorSim.Files.Path

/-!
The kinds of data that a configuration value can be read as. A kind names its
carrier type, its written name, and how a value tree is converted to it.
-/

namespace DetectorSim.Config

/-- The integer types; the size types have 64 bits. -/
inductive IntegerType where
  | i8 | i16 | i32 | i64 | isize | u8 | u16 | u32 | u64 | usize
  deriving DecidableEq, Repr

namespace IntegerType

/-- The written name. -/
def name : IntegerType → String
  | .i8 => "i8"
  | .i16 => "i16"
  | .i32 => "i32"
  | .i64 => "i64"
  | .isize => "isize"
  | .u8 => "u8"
  | .u16 => "u16"
  | .u32 => "u32"
  | .u64 => "u64"
  | .usize => "usize"

/-- The least value. -/
def low : IntegerType → Int
  | .i8 => -0x80
  | .i16 => -0x8000
  | .i32 => -0x80000000
  | .i64 | .isize => -0x8000000000000000
  | _ => 0

/-- The greatest value. -/
def high : IntegerType → Int
  | .i8 => 0x7f
  | .i16 => 0x7fff
  | .i32 => 0x7fffffff
  | .i64 | .isize => 0x7fffffffffffffff
  | .u8 => 0xff
  | .u16 => 0xffff
  | .u32 => 0xffffffff
  | .u64 | .usize => 0xffffffffffffffff

theorem low_le_zero_le_high (t : IntegerType) : t.low ≤ 0 ∧ 0 ≤ t.high := by
  cases t <;> decide

/-- The integers of a type. -/
abbrev Carrier (t : IntegerType) : Type :=
  { n : Int // t.low ≤ n ∧ n ≤ t.high }

instance (t : IntegerType) : Inhabited t.Carrier := ⟨⟨0, t.low_le_zero_le_high⟩⟩

end IntegerType

/-- The kinds of data. -/
inductive Kind where
  | integer (type : IntegerType)
  | float64
  | float32
  | boolean
  | text
  | path
  | list (items : Kind)
  | array (length : Nat) (items : Kind)
  deriving DecidableEq, Repr

namespace Kind

/-- The data of a kind. -/
def Carrier : Kind → Type
  | .integer type => type.Carrier
  | .float64 => Float
  | .float32 => Float32
  | .boolean => Bool
  | .text => String
  | .path => Path
  | .list items => List items.Carrier
  | .array length items => Vector items.Carrier length

/-- The written name. -/
def name : Kind → String
  | .integer type => type.name
  | .float64 => "f64"
  | .float32 => "f32"
  | .boolean => "bool"
  | .text => "alloc::string::String"
  | .path => "std::path::PathBuf"
  | .list items => "alloc::vec::Vec<" ++ items.name ++ ">"
  | .array length items => "[" ++ items.name ++ "; " ++ toString length ++ "]"

end Kind

/-- Why a value is not of the wanted kind. -/
inductive ReadFault where
  | malformed (fault : ValueFault)
  | notSingle (found : Nat)
  | integer (fault : Decimal.IntegerFault)
  | float (fault : Decimal.FloatFault)
  | boolean (text : String)
  | length (expected found : Nat)
  deriving DecidableEq, Repr

/-- The wording of a fault. -/
def ReadFault.message : ReadFault → String
  | .malformed fault => fault.message
  | .notSingle found => s!"expected a single value, found a list of {found} elements"
  | .integer fault => fault.message
  | .float fault => fault.message
  | .boolean text => s!"'{text}' is neither 'true' nor 'false'"
  | .length expected found => s!"expected {expected} elements, found {found}"

namespace Value

/-- The scalar of a value, as far as it holds a single one. -/
def single (v : Value) : Except ReadFault String :=
  v.asScalar.mapError .notSingle

/-- The items of a value; a scalar is its own single item. -/
def items : Value → List Value
  | .scalar text => [.scalar text]
  | .list items => items

end Value

namespace Kind

/-- Reads an integer of a type. -/
def readInteger (type : IntegerType) (text : String) : Except ReadFault type.Carrier :=
  match read : Decimal.readInteger type.low type.high text.toList with
  | .ok n => .ok ⟨n, Decimal.readInteger_bounds type.low_le_zero_le_high read⟩
  | .error fault => .error (.integer fault)

/-- Reads a truth value in any case of letters. -/
def readBoolean (text : String) : Except ReadFault Bool :=
  if Text.sameLetters text "true" then .ok true
  else if Text.sameLetters text "false" then .ok false
  else .error (.boolean text)

/-- Converts every item, up to the first fault. -/
def readItems {α : Type} (read : Value → Except ReadFault α) : List Value → Except ReadFault (List α)
  | [] => .ok []
  | v :: rest =>
    match read v with
    | .error fault => .error fault
    | .ok a => (readItems read rest).map (a :: ·)

/-- Converts a value to a kind. The items of an array are converted before they are counted. -/
def read : (k : Kind) → Value → Except ReadFault k.Carrier
  | .integer type, v => v.single.bind (readInteger type)
  | .float64, v => v.single.bind fun text =>
    match Decimal.readLiteral text.toList with
    | .ok (negative, literal) => .ok (literal.toFloat negative)
    | .error fault => .error (.float fault)
  | .float32, v => v.single.bind fun text =>
    match Decimal.readLiteral text.toList with
    | .ok (negative, literal) => .ok (literal.toFloat32 negative)
    | .error fault => .error (.float fault)
  | .boolean, v => v.single.bind readBoolean
  | .text, v => v.single
  | .path, v => v.single.map Path.mk
  | .list items, v => readItems (read items) v.items
  | .array length items, v => (readItems (read items) v.items).bind fun xs =>
    if h : xs.length = length then .ok ⟨xs.toArray, by simpa using h⟩
    else .error (.length length xs.length)

/-- Reads a raw text as a kind. -/
def readText (k : Kind) (raw : String) : Except ReadFault k.Carrier :=
  match Value.parse raw with
  | .error fault => .error (.malformed fault)
  | .ok v => k.read v

end Kind

/-- Integers without sign of 32 bits. -/
abbrev Kind.u32 : Kind := .integer .u32

/-- Integers without sign of 64 bits. -/
abbrev Kind.u64 : Kind := .integer .u64

/-- Counts. -/
abbrev Kind.count : Kind := .integer .usize

/-- The nearest count to a number. -/
def Kind.countOf (n : Nat) : Kind.count.Carrier :=
  have low : IntegerType.usize.low = 0 := rfl
  have high : IntegerType.usize.high = 0xffffffffffffffff := rfl
  ⟨min n 0xffffffffffffffff, by omega, by omega⟩

end DetectorSim.Config
