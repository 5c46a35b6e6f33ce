import DetectorSim.Decimal.Notation
import DetectorSim.Geometry.Model

/-!
Detectors placed in the setup, and the typed objects that can be attached to them.
-/

namespace DetectorSim

/-- The types of attached objects. -/
inductive ObjectKind where
  | integer
  | number
  | text
  | numbers
  deriving DecidableEq, Repr

/-- The objects of a type. -/
def ObjectKind.Carrier : ObjectKind → Type
  | .integer => Int
  | .number => Float
  | .text => String
  | .numbers => List Float

/-- The written name of a type. -/
def ObjectKind.name : ObjectKind → String
  | .integer => "i64"
  | .number => "f64"
  | .text => "alloc::string::String"
  | .numbers => "alloc::vec::Vec<f64>"

/-- An attached object with its type. -/
structure AttachedObject where
  kind : ObjectKind
  value : kind.Carrier

/-- The object as one of the wanted type. -/
def AttachedObject.as? (object : AttachedObject) (kind : ObjectKind) : Option kind.Carrier :=
  if same : object.kind = kind then some (same ▸ object.value) else none

/-- Why a table of objects does not answer. -/
inductive ObjectFault where
  | missing
  | otherKind (expected : ObjectKind)
  | frozen
  deriving DecidableEq, Repr

/-- Objects under text keys. A frozen table can only be read. -/
structure ObjectTable where
  entries : Dictionary AttachedObject
  isFrozen : Bool

namespace ObjectTable

/-- The table without objects. -/
def empty : ObjectTable :=
  ⟨.empty, false⟩

/-- Puts an object in place of an object under the same key. -/
def insert (t : ObjectTable) (key : String) (object : AttachedObject) :
    Except ObjectFault ObjectTable :=
  if t.isFrozen then .error .frozen
  else .ok { t with entries := t.entries.insert key object }

/-- The object under a key, which has to be of the wanted type. -/
def get (t : ObjectTable) (key : String) (kind : ObjectKind) : Except ObjectFault kind.Carrier :=
  match t.entries.find? key with
  | none => .error .missing
  | some object =>
    match object.as? kind with
    | some value => .ok value
    | none => .error (.otherKind kind)

/-- Whether there is an object under a key. -/
def contains (t : ObjectTable) (key : String) : Bool :=
  t.entries.contains key

/-- Freezes the table. -/
def freeze (t : ObjectTable) : ObjectTable :=
  { t with isFrozen := true }

end ObjectTable

/-- A named detector. Whoever holds it reaches the objects attached to it, which are kept at its slot
in the setup. Detectors with the same model slot share one registered model. -/
structure Detector where
  name : String
  slot : Nat
  modelSlot : Nat
  model : DetectorModel
  position : Vector Float 3
  orientation : Vector Float 3

/-- The model type of a detector. -/
def Detector.modelType (d : Detector) : String :=
  d.model.typeName

/-- A detector with the objects attached to it. -/
structure Placement where
  detector : Detector
  objects : ObjectTable

/-- A triple of numbers as a debugging text. -/
def debugTriple (v : Vector Float 3) : String :=
  Text.bracketed (v.toList.map Decimal.marked64)

/-- The placement as a debugging text; of the objects only the keys are shown. -/
def Placement.debug (p : Placement) : String :=
  Text.record "Detector"
    [("name", Text.quoted p.detector.name), ("model", Text.quoted p.detector.modelType),
      ("position", debugTriple p.detector.position),
      ("orientation", debugTriple p.detector.orientation),
      ("external",
        "ExternalObjects " ++ Text.bracketed (p.objects.entries.keys.map Text.quoted))] false

end DetectorSim
