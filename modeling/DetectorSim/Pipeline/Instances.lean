import DetectorSim.Pipeline.Registry

/-!
Module instances from sections. Each section is bound according to the scope of
its module type, and each binding yields an instance with its own copy of the
section. The order of the instances is the order of execution.
-/

namespace DetectorSim

open Config

/-- An instance with its identity, section and detectors. `β` is the stage of its module. -/
structure Instance (β : Type) where
  id : ModuleId
  identifier : Identifier
  config : Section
  detectors : List Detector
  concurrent : Bool
  body : β

/-- The instance as a debugging text. -/
def Instance.debug {β : Type} (i : Instance β) (stage : String) : String :=
  Text.record "ModuleInstance"
    [("id", s!"ModuleId({i.id})"), ("identifier", Text.quoted i.identifier.display),
      ("state", stage)] true

/-- The calls made to modules, by their instances. Those of the setup and of the finalization are
known by the error that they returned, if any. -/
inductive ModuleCall where
  | construct (module : ModuleId) (error : Option ModuleError)
  | init (module : ModuleId) (error : Option ModuleError)
  | run (event : UInt64) (module : ModuleId)
  | finalize (module : ModuleId) (error : Option ModuleError)
  deriving DecidableEq, Repr

/-- What is shared while modules are set up: the subscriptions, the detector setup, and what has
been noted, reported and called so far. -/
structure SetupState (ω : Type) where
  table : SubscriptionTable ω
  geometry : Geometry
  notes : List ω
  reports : List Report
  calls : List ModuleCall

/-- The state before any module is built. -/
def SetupState.start {ω : Type} (geometry : Geometry) : SetupState ω :=
  ⟨.empty, geometry, [], [], []⟩

/-- A step of the setup. What was shared before an error stays. -/
abbrev SetupM (ω : Type) : Type → Type :=
  ExceptT SetupError (StateT (SetupState ω) FileProgram)

namespace SetupM

variable {ω : Type}

/-- The state as it is. -/
def state : SetupM ω (SetupState ω) :=
  ExceptT.lift get

/-- Changes the state. -/
def change (f : SetupState ω → SetupState ω) : SetupM ω Unit :=
  ExceptT.lift (modify f)

/-- Makes a report. -/
def report (r : Report) : SetupM ω Unit :=
  change fun a => { a with reports := a.reports ++ [r] }

/-- Records a call to a module. -/
def called (c : ModuleCall) : SetupM ω Unit :=
  change fun a => { a with calls := a.calls ++ [c] }

/-- Works on files. -/
def onFiles {α : Type} (p : FileProgram α) : SetupM ω α :=
  ExceptT.lift (StateT.lift p)

end SetupM

/-- Answers the questions of a constructor. The state is the own section and the state. -/
def answerBuild {ω : Type} (module : ModuleId) :
    (q : BuildQuestion ω) → StateT (Section × SetupState ω) FileProgram q.Answer
  | .own change => modifyGet fun (s, a) => (s, change s, a)
  | .subscribe request =>
    modify fun (s, a) => (s, { a with table := a.table.add (request.madeBy module) })
  | .table => return (← get).2.table
  | .object q => modifyGet fun (s, a) =>
    let (answer, geometry) := a.geometry.use q
    (answer, s, { a with geometry })
  | .present path => StateT.lift (FileProgram.present path)
  | .note n => modify fun (s, a) => (s, { a with notes := a.notes ++ [n] })

/-- Answers the questions of an initialization. The state is the own section, the global section
and the state; of the own section only the marks change. -/
def answerInit {ω : Type} (module : ModuleId) :
    (q : InitQuestion ω) → StateT (Section × Section × SetupState ω) FileProgram q.Answer
  | .build q => fun (own, globals, a) => do
    let (answer, after, a) ← (answerBuild module q).run (own, a)
    return (answer, { own with marks := after.marks }, globals, a)
  | .globals change => modifyGet fun (own, globals, a) => (globals, own, change globals, a)

/-- The bindings of a section and the detectors of each. Reading the key `type` marks it. -/
def bindings (scope : Scope) (s : Section) (g : Geometry) :
    Except SetupError (List (Binding × List Detector)) × Section :=
  let invalid (fault : BindingFault) : Except SetupError (List (Binding × List Detector)) :=
    .error (.invalidBinding s.identifier fault)
  match scope with
  | .global =>
    if s.detector.isSome then (invalid .globalWithDetector, s) else (.ok [(.global, [])], s)
  | .perDetectorType =>
    match (Access.read? (.list .text) "type").on s with
    | (.error e, after) => (.error (.config e), after)
    | (.ok types, after) =>
      if s.detector.isSome then (invalid .typeWithDetector, after)
      else
        let listed (model : String) : Bool := types.all fun (names : List String) => model ∈ names
        (.ok ((g.modelTypes.filter listed).map fun model =>
          (.detectorType model, g.detectorsOfType model)), after)
  | .perDetector =>
    match (Access.read? (.list .text) "type").on s with
    | (.error e, after) => (.error (.config e), after)
    | (.ok types, after) =>
      match s.detector with
      | some name =>
        if types.isSome then (invalid .qualifierWithTypes, after)
        else match g.detector name with
          | .ok detector => (.ok [(.detector name, [detector])], after)
          | .error _ => (.error (.unknownDetector s.identifier name), after)
      | none =>
        let listed (model : String) : Bool := types.all fun (names : List String) => model ∈ names
        (.ok ((g.detectors.filter (listed ·.modelType)).map fun d => (.detector d.name, [d])), after)

namespace Instance

variable {σ ω : Type}

/-- Constructs the instance of a binding. -/
def construct (type : ModuleType σ ω) (s : Section) (id : ModuleId) (identifier : Identifier)
    (detectors : List Detector) : SetupM ω (Instance (Blueprint σ ω)) := do
  let a ← SetupM.state
  let program := type.construct ⟨id, identifier, detectors, a.geometry⟩
  let (built, own, a) ← SetupM.onFiles ((program.run.interpret (answerBuild id)).run (s, a))
  SetupM.change fun _ => a
  match built with
  | .ok body =>
    SetupM.called (.construct id none)
    return ⟨id, identifier, own, detectors, type.concurrent, body⟩
  | .error e =>
    SetupM.called (.construct id (some e))
    throw (.construction identifier.display e)

/-- Constructs the instances of all bindings of a section, behind those built before. -/
def ofBindings (type : ModuleType σ ω) (s : Section) :
    List (Binding × List Detector) → List (Instance (Blueprint σ ω)) →
      SetupM ω (List (Instance (Blueprint σ ω)))
  | [], built => return built
  | (binding, detectors) :: rest, built => do
    let identifier : Identifier := ⟨type.name, binding⟩
    if built.any (·.identifier == identifier) then throw (.duplicateInstance identifier.display)
    let made ← construct type s built.length identifier detectors
    ofBindings type s rest (built ++ [made])

/-- Constructs the instances of all sections, behind those built before. -/
def ofSections (registry : Registry σ ω) :
    List Section → List (Instance (Blueprint σ ω)) → SetupM ω (List (Instance (Blueprint σ ω)))
  | [], built => return built
  | s :: rest, built => do
    match registry.resolve s.name with
    | .error e => throw (.unknownModule s.identifier e)
    | .ok type =>
      let a ← SetupM.state
      match bindings type.scope s a.geometry with
      | (.error e, _) => throw e
      | (.ok bound, s) =>
        if bound.isEmpty then SetupM.report (.nothingBound s.identifier)
        let built ← ofBindings type s bound built
        ofSections registry rest built

/-- The instances of all sections in the order of execution. -/
def instantiate (registry : Registry σ ω) (sections : List Section) :
    SetupM ω (List (Instance (Blueprint σ ω))) :=
  ofSections registry sections []

/-- Initializes an instance. -/
def init (i : Instance (Blueprint σ ω)) (globals : Section) :
    SetupM ω (Instance (Module σ ω) × Section) := do
  let a ← SetupM.state
  let program := i.body.init ⟨i.id, i.identifier, i.detectors, a.geometry⟩
  let (ready, own, globals, a) ←
    SetupM.onFiles ((program.run.interpret (answerInit i.id)).run (i.config, globals, a))
  SetupM.change fun _ => a
  match ready with
  | .ok body =>
    SetupM.called (.init i.id none)
    return ({ i with config := own, body }, globals)
  | .error e =>
    SetupM.called (.init i.id (some e))
    throw (.initialization i.identifier.display e)

/-- Initializes instances in order. -/
def initAll : List (Instance (Blueprint σ ω)) → Section →
    SetupM ω (List (Instance (Module σ ω)) × Section)
  | [], globals => return ([], globals)
  | i :: rest, globals => do
    let (ready, globals) ← i.init globals
    let (others, globals) ← initAll rest globals
    return (ready :: others, globals)

end Instance

end DetectorSim
