import DetectorSim.Pipeline.Event
import DetectorSim.Pipeline.Identifier
import DetectorSim.Pipeline.Report

/-!
Modules and the stages of their life. A constructor builds a module from its
section, the module is initialized, runs on events, and is finalized at the end.
Each stage is a program over an interface of its own.
-/

namespace DetectorSim

open Config

/-- A subscription that a module asks for; the table adds the module to it. -/
structure SubscriptionRequest (ω : Type) where
  topic : Topic
  filter : Filter
  flags : Flags
  handler : Option (Message topic → ω)

/-- The subscription that a request of a module stands for. -/
def SubscriptionRequest.madeBy {ω : Type} (r : SubscriptionRequest ω) (module : ModuleId) :
    Subscription ω :=
  ⟨module, r.topic, r.filter, r.flags, r.handler⟩

/-- The questions of a constructor. A change of the own section answers with the section before
it. -/
inductive BuildQuestion (ω : Type) where
  | own (change : Section → Section)
  | subscribe (request : SubscriptionRequest ω)
  | table
  | object (q : ObjectQuestion)
  | present (path : Path)
  | note (n : ω)

/-- The answer to each question. -/
def BuildQuestion.Answer {ω : Type} : BuildQuestion ω → Type
  | .own _ => Section
  | .subscribe _ => Unit
  | .table => SubscriptionTable ω
  | .object q => q.Answer
  | .present _ => Bool
  | .note _ => Unit

/-- Construction as an interface. -/
def buildInterface (ω : Type) : Interface :=
  ⟨BuildQuestion ω, BuildQuestion.Answer⟩

/-- The questions of an initialization: those of construction, of which changes of the own section
only leave marks, and changes of the global section. -/
inductive InitQuestion (ω : Type) where
  | build (q : BuildQuestion ω)
  | globals (change : Section → Section)

/-- The answer to each question. -/
def InitQuestion.Answer {ω : Type} : InitQuestion ω → Type
  | .build q => q.Answer
  | .globals _ => Section

/-- Initialization as an interface. -/
def initInterface (ω : Type) : Interface :=
  ⟨InitQuestion ω, InitQuestion.Answer⟩

/-- The questions of a finalization. -/
inductive EndQuestion (ω : Type) where
  | write (path : Path) (text : String)
  | report (finding : Finding)
  | note (n : ω)

/-- The answer to each question. -/
def EndQuestion.Answer {ω : Type} : EndQuestion ω → Type
  | .write .. => Except FileFault Unit
  | .report _ => Unit
  | .note _ => Unit

/-- Finalization as an interface. -/
def endInterface (ω : Type) : Interface :=
  ⟨EndQuestion ω, EndQuestion.Answer⟩

/-- The construction of a module. -/
abbrev BuildProgram (ω : Type) : Type → Type :=
  ExceptT ModuleError (Interaction (buildInterface ω))

/-- The initialization of a module. -/
abbrev InitProgram (ω : Type) : Type → Type :=
  ExceptT ModuleError (Interaction (initInterface ω))

/-- The finalization of a module. -/
abbrev EndProgram (ω : Type) : Type → Type :=
  ExceptT ModuleError (Interaction (endInterface ω))

/-- What a module knows while it is constructed or initialized: its identity, the detectors it is
bound to, and the detector setup. -/
structure SetupView where
  id : ModuleId
  identifier : Identifier
  detectors : List Detector
  geometry : Geometry

namespace SetupView

/-- The detector of a module bound to a single one. -/
def ownDetector (view : SetupView) : Option Detector :=
  match view.identifier.binding with
  | .detector _ => view.detectors.head?
  | _ => none

/-- The view as a debugging text. -/
def debug (view : SetupView) (stage : String) : String :=
  Text.record stage
    [("id", s!"ModuleId({view.id})"), ("identifier", Text.quoted view.identifier.display)] true

end SetupView

/-- A module that is ready to run, with its memory before the first event. -/
structure Module (σ ω : Type) where
  memory : σ
  run : EventView → EventProgram σ ω Unit
  finalize : σ → EndProgram ω Unit

/-- A constructed module, which its initialization makes ready. -/
structure Blueprint (σ ω : Type) where
  init : SetupView → InitProgram ω (Module σ ω)

/-- A constructed module without initialization of its own. -/
def Module.blueprint {σ ω : Type} (m : Module σ ω) : Blueprint σ ω :=
  ⟨fun _ => pure m⟩

/-- A module type: its name, how many instances it has, whether they may run on several events at
once, and its constructor. -/
structure ModuleType (σ ω : Type) where
  name : String
  scope : Scope
  concurrent : Bool
  construct : SetupView → BuildProgram ω (Blueprint σ ω)

/-- The module type as a debugging text. -/
def ModuleType.debug {σ ω : Type} (t : ModuleType σ ω) : String :=
  Text.record "ModuleDescriptor"
    [("name", Text.quoted t.name), ("scope", t.scope.debug),
      ("multithreading", toString t.concurrent)] true

namespace BuildProgram

variable {ω : Type}

/-- Asks a question of construction. -/
def query (q : BuildQuestion ω) : BuildProgram ω q.Answer :=
  ExceptT.lift (Interaction.query (I := buildInterface ω) q)

/-- The own section as it is. -/
def ownSection : BuildProgram ω Section :=
  query (.own id)

/-- Reads from the own section. -/
def access {α : Type} (a : Access α) : BuildProgram ω α := do
  let before : Section ← query (.own fun s => (a.on s).2)
  match (a.on before).1 with
  | .ok value => return value
  | .error e => throw (.configuration e)

/-- Subscribes the module. -/
def subscribe (request : SubscriptionRequest ω) : BuildProgram ω Unit :=
  query (.subscribe request)

/-- The path under a key of the own section, refused if `mustExist` and there is nothing at the
path. -/
def path (key : String) (mustExist : Bool) : BuildProgram ω Path := do
  let path ← access (Access.path key)
  if mustExist then
    let found : Bool ← query (.present path)
    if !found then access (Access.refuse key (.pathAbsent path))
  return path

end BuildProgram

namespace InitProgram

variable {ω : Type}

/-- Asks a question of initialization. -/
def query (q : InitQuestion ω) : InitProgram ω q.Answer :=
  ExceptT.lift (Interaction.query (I := initInterface ω) q)

/-- Reads from the own section. -/
def access {α : Type} (a : Access α) : InitProgram ω α := do
  let before : Section ← query (.build (.own fun s => (a.on s).2))
  match (a.on before).1 with
  | .ok value => return value
  | .error e => throw (.configuration e)

/-- Reads from the global section. -/
def accessGlobals {α : Type} (a : Access α) : InitProgram ω α := do
  let before : Section ← query (.globals fun s => (a.on s).2)
  match (a.on before).1 with
  | .ok value => return value
  | .error e => throw (.configuration e)

end InitProgram

namespace EndProgram

variable {ω : Type}

/-- Asks a question of finalization. -/
def query (q : EndQuestion ω) : EndProgram ω q.Answer :=
  ExceptT.lift (Interaction.query (I := endInterface ω) q)

/-- Writes a file, or ends with the fault. -/
def write (path : Path) (text : String) : EndProgram ω Unit := do
  match ← query (.write path text) with
  | .ok _ => return ()
  | .error fault => throw (.file fault)

/-- Reports a finding. -/
def report (finding : Finding) : EndProgram ω Unit :=
  query (.report finding)

end EndProgram

end DetectorSim
