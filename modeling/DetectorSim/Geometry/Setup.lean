import DetectorSim.Config.Document
import DetectorSim.Geometry.Detector

/-!
The detector setup: registered models, detectors in the order they were added, and
the index of their names. Names are unique. Whoever holds a detector reaches its objects
without looking it up again, so that freezing the setup freezes the objects of each detector.
-/

namespace DetectorSim

open Config

/-- The errors of the detector setup. -/
inductive GeometryError where
  | duplicateDetector (name : String)
  | duplicateModel (name : String)
  | unknownModel (detector model : String)
  | unknownDetector (name : String)
  | missingObject (detector key : String)
  | objectKind (detector key : String) (expected : ObjectKind)
  | objectsSealed (detector key : String)
  | setupSealed
  | config (error : ConfigError)
  deriving DecidableEq, Repr

/-- The wording of an error. -/
def GeometryError.message : GeometryError → String
  | .duplicateDetector name => s!"detector '{name}' is defined more than once"
  | .duplicateModel name => s!"detector model '{name}' is defined more than once"
  | .unknownModel detector model => s!"detector '{detector}' refers to unknown model type '{model}'"
  | .unknownDetector name => s!"detector '{name}' does not exist"
  | .missingObject detector key => s!"detector '{detector}' has no external object '{key}'"
  | .objectKind detector key expected =>
    s!"external object '{key}' of detector '{detector}' is not of type {expected.name}"
  | .objectsSealed detector key =>
    s!"cannot attach external object '{key}' to detector '{detector}' after setup"
  | .setupSealed => "the geometry is sealed"
  | .config error => error.message

/-- The error of a detector whose table of objects does not answer. -/
def Detector.objectError (d : Detector) (key : String) : ObjectFault → GeometryError
  | .missing => .missingObject d.name key
  | .otherKind expected => .objectKind d.name key expected
  | .frozen => .objectsSealed d.name key

namespace Placement

/-- Attaches an object, in place of an object under the same key. -/
def attach (p : Placement) (key : String) (object : AttachedObject) :
    Except GeometryError Placement :=
  match p.objects.insert key object with
  | .ok objects => .ok { p with objects }
  | .error fault => .error (p.detector.objectError key fault)

/-- The object under a key, which has to be of the wanted type. -/
def attached (p : Placement) (key : String) (kind : ObjectKind) :
    Except GeometryError kind.Carrier :=
  (p.objects.get key kind).mapError (p.detector.objectError key)

/-- Whether an object is attached under a key. -/
def hasAttached (p : Placement) (key : String) : Bool :=
  p.objects.contains key

/-- Freezes the objects. -/
def freeze (p : Placement) : Placement :=
  { p with objects := p.objects.freeze }

end Placement

/-- The uses of detectors: looking one up, and with a detector attaching an object to it, looking
at one, and asking for one. -/
inductive ObjectQuestion where
  | detector (name : String)
  | attach (d : Detector) (key : String) (object : AttachedObject)
  | attached (d : Detector) (key : String) (kind : ObjectKind)
  | has (d : Detector) (key : String)

/-- The answer to each use. -/
def ObjectQuestion.Answer : ObjectQuestion → Type
  | .detector _ => Except GeometryError Detector
  | .attach .. => Except GeometryError Unit
  | .attached _ _ kind => Except GeometryError kind.Carrier
  | .has .. => Bool

/-- A detector setup. `index` leads from the name of a detector to its place. -/
structure Geometry where
  models : List DetectorModel
  placements : List Placement
  index : Dictionary Nat
  isSealed : Bool

namespace Geometry

/-- The setup without detectors. -/
def empty : Geometry :=
  ⟨[], [], .empty, false⟩

instance : Inhabited Geometry := ⟨empty⟩

/-- The detectors in the order they were added. -/
def detectors (g : Geometry) : List Detector :=
  g.placements.map Placement.detector

/-- The model of a type. -/
def model? (g : Geometry) (typeName : String) : Option DetectorModel :=
  g.models.find? (·.typeName == typeName)

/-- The place of a detector. -/
def place? (g : Geometry) (name : String) : Option (Nat × Placement) := do
  let slot ← g.index.find? name
  let placement ← g.placements[slot]?
  return (slot, placement)

/-- Whether there is a detector of this name. -/
def hasDetector (g : Geometry) (name : String) : Bool :=
  g.index.contains name

/-- The place of a detector, which has to exist. -/
def place (g : Geometry) (name : String) : Except GeometryError (Nat × Placement) :=
  match g.place? name with
  | some found => .ok found
  | none => .error (.unknownDetector name)

/-- The detector of a name. -/
def detector (g : Geometry) (name : String) : Except GeometryError Detector :=
  (g.place name).map (·.2.detector)

/-- The detectors of a model type, in order. -/
def detectorsOfType (g : Geometry) (typeName : String) : List Detector :=
  g.detectors.filter (·.modelType == typeName)

/-- Appends a text that is not in the list yet. -/
def addDistinct (seen : List String) (text : String) : List String :=
  if text ∈ seen then seen else seen ++ [text]

/-- The model types in use, in the order of the first detector of each. -/
def modelTypes (g : Geometry) : List String :=
  (g.detectors.map Detector.modelType).foldl addDistinct []

/-- Registers a model. -/
def addModel (g : Geometry) (m : DetectorModel) : Except GeometryError Geometry :=
  if g.isSealed then .error .setupSealed
  else if (g.model? m.typeName).isSome then .error (.duplicateModel m.typeName)
  else .ok { g with models := g.models ++ [m] }

/-- Adds a detector of a registered model type. -/
def addDetector (g : Geometry) (name typeName : String) (position orientation : Vector Float 3) :
    Except GeometryError Geometry :=
  if g.isSealed then .error .setupSealed
  else if g.hasDetector name then .error (.duplicateDetector name)
  else match g.models.findFinIdx? (·.typeName == typeName) with
    | none => .error (.unknownModel name typeName)
    | some slot =>
      let detector : Detector :=
        ⟨name, g.placements.length, slot, g.models[slot], position, orientation⟩
      .ok { g with
        placements := g.placements ++ [⟨detector, .empty⟩]
        index := g.index.insert name g.placements.length }

/-- Attaches an object to a detector, in place of an object under the same key. -/
def attach (g : Geometry) (d : Detector) (key : String) (object : AttachedObject) :
    Except GeometryError Geometry :=
  match g.placements[d.slot]? with
  | none => .error (.unknownDetector d.name)
  | some placement => (placement.attach key object).map fun changed =>
    { g with placements := g.placements.set d.slot changed }

/-- The object under a key of a detector, which has to be of the wanted type. -/
def attached (g : Geometry) (d : Detector) (key : String) (kind : ObjectKind) :
    Except GeometryError kind.Carrier :=
  match g.placements[d.slot]? with
  | none => .error (.unknownDetector d.name)
  | some placement => placement.attached key kind

/-- Whether an object is attached under a key of a detector. -/
def hasAttached (g : Geometry) (d : Detector) (key : String) : Bool :=
  g.placements[d.slot]?.any (·.hasAttached key)

/-- Uses the detectors of a setup and their objects. -/
def use (g : Geometry) : (q : ObjectQuestion) → q.Answer × Geometry
  | .detector name => (g.detector name, g)
  | .attach d key object =>
    match g.attach d key object with
    | .ok g => (.ok (), g)
    | .error e => (.error e, g)
  | .attached d key kind => (g.attached d key kind, g)
  | .has d key => (g.hasAttached d key, g)

/-- Freezes the objects of a detector. -/
def freezeObjects (g : Geometry) (d : Detector) : Geometry :=
  { g with placements := g.placements.modify d.slot Placement.freeze }

/-- Freezes the setup: seals it against more models and detectors, and then freezes the objects of
one detector after the other. -/
def freeze (g : Geometry) : Geometry :=
  g.detectors.foldl freezeObjects { g with isSealed := true }

/-- Adds the models of all sections, each section being one. -/
def addModels (g : Geometry) : List Section → Except GeometryError Geometry
  | [] => .ok g
  | s :: rest =>
    match (DetectorModel.read.on s).1 with
    | .error e => .error (.config e)
    | .ok m => (g.addModel m).bind (addModels · rest)

/-- The model type, position and orientation of a detector section. -/
def readPlacement : Access (String × Vector Float 3 × Vector Float 3) := do
  let origin : Vector Float 3 := #v[0.0, 0.0, 0.0]
  let typeName : String ← Access.read .text "type"
  let position : Vector Float 3 ← Access.readOr (.array 3 .float64) "position" origin
  let orientation : Vector Float 3 ← Access.readOr (.array 3 .float64) "orientation" origin
  return (typeName, position, orientation)

/-- Adds the detectors of all sections, each section being one. -/
def addDetectors (g : Geometry) : List Section → Except GeometryError Geometry
  | [] => .ok g
  | s :: rest =>
    match (readPlacement.on s).1 with
    | .error e => .error (.config e)
    | .ok (typeName, position, orientation) =>
      (g.addDetector s.name typeName position orientation).bind (addDetectors · rest)

/-- The setup described by sections of models and of detectors. -/
def ofSections (models detectors : List Section) : Except GeometryError Geometry :=
  (empty.addModels models).bind (addDetectors · detectors)

/-- The setup described by a text of models and a text of detectors. -/
def ofTexts (models detectors : String) : Except GeometryError Geometry := do
  let modelSections ← (Document.read none models).mapError .config
  let detectorSections ← (Document.read none detectors).mapError .config
  ofSections modelSections detectorSections

/-- The setup described by a file of models and a file of detectors. -/
def ofFiles (models detectors : Path) : FileProgram (Except GeometryError Geometry) := do
  match ← Document.load models with
  | .error e => return .error (.config e)
  | .ok modelSections =>
    match ← Document.load detectors with
    | .error e => return .error (.config e)
    | .ok detectorSections => return ofSections modelSections detectorSections

/-- The setup described by one file: sections with a key `type` are detectors, the others
models. -/
def ofFile (path : Path) : FileProgram (Except ConfigError (Except GeometryError Geometry)) := do
  return (← Document.load path).map fun sections =>
    ofSections (sections.filter (!·.has "type")) (sections.filter (·.has "type"))

end Geometry

end DetectorSim
