import DetectorSim.Pipeline.Error

/-!
What a simulation reports while it is set up and run. A report is a fact with a
level, the part of the program that states it, and one wording.
-/

namespace DetectorSim

/-- Levels, the most urgent first. -/
inductive Level where
  | error
  | warn
  | info
  | debug
  | trace
  deriving DecidableEq, Repr

/-- The written name of a level. -/
def Level.name : Level → String
  | .error => "ERROR"
  | .warn => "WARN"
  | .info => "INFO"
  | .debug => "DEBUG"
  | .trace => "TRACE"

/-- The place of a level, from the most urgent on. -/
def Level.rank : Level → Nat
  | .error => 1
  | .warn => 2
  | .info => 3
  | .debug => 4
  | .trace => 5

/-- What a module finds at its end. -/
inductive Finding where
  | hitCount (detector : String) (hits : UInt64)
  | countsWritten (path : Path)
  deriving DecidableEq, Repr

/-- The wording of a finding. -/
def Finding.message : Finding → String
  | .hitCount .. => "hit count"
  | .countsWritten _ => "hit counts written"

/-- The named values of a finding. -/
def Finding.fields : Finding → List (String × String)
  | .hitCount detector hits => [("detector", detector), ("hits", toString hits.toNat)]
  | .countsWritten path => [("path", path.text)]

/-- A stretch of the program that its reports belong to, with one named value. -/
structure Span where
  name : String
  target : String
  level : Level
  field : String
  value : String
  deriving DecidableEq, Repr

/-- The span of a module. -/
def Span.ofModule (module : String) : Span :=
  ⟨"module", "pixsim::simulation", .info, "name", module⟩

/-- The span as it is written before a report. -/
def Span.text (s : Span) : String :=
  s.name ++ "\x7b" ++ s.field ++ "=" ++ s.value ++ "\x7d: "

/-- The reports of a simulation. Modules are named by the texts of their identifiers. -/
inductive Report where
  | setupLoaded (detectors models : Nat)
  | nothingBound (owner : String)
  | modulesConstructed (count : Nat)
  | keyUnused (owner key : String)
  | multithreadingOff
  | serialModules (modules : List String)
  | runStarting (events : UInt64) (workers : Nat) (seed : UInt64)
  | undelivered (topic : Topic) (origin : String) (detector : Option String)
  | moduleFailed (error : ModuleError) (event : UInt64) (module : String)
  | found (module : String) (finding : Finding)
  | finalizationFailed (module : String) (error : ModuleError)
  | runFinished (completed skipped : UInt64)
  | simulationReady (modules workers : Nat)
  | simulationDone (completed skipped : UInt64)
  | gaveUp (text : String)
  deriving DecidableEq, Repr

namespace Report

/-- The level of a report. -/
def level : Report → Level
  | .keyUnused .. | .serialModules _ | .undelivered .. => .warn
  | .moduleFailed .. | .finalizationFailed .. | .gaveUp _ => .error
  | _ => .info

/-- The part of the program that states a report. -/
def target : Report → String
  | .setupLoaded .. | .modulesConstructed _ | .keyUnused .. | .multithreadingOff
  | .serialModules _ => "pixsim::simulation::sim_init"
  | .nothingBound _ => "pixsim::registry::factory"
  | .runStarting .. | .finalizationFailed .. | .runFinished .. => "pixsim::simulation"
  | .undelivered .. => "pixsim::messenger"
  | .moduleFailed .. => "pixsim::simulation::worker"
  | .found .. => "pixsim_util::helper_modules"
  | .simulationReady .. | .simulationDone .. | .gaveUp _ => "pixsim"

/-- Whether a report is made by a worker, while events are processed. -/
def byWorker : Report → Bool
  | .undelivered .. | .moduleFailed .. => true
  | _ => false

/-- The span that a report is made in: that of the module which is being finalized. -/
def span : Report → Option Span
  | .found module _ | .finalizationFailed module _ => some (.ofModule module)
  | _ => none

/-- The wording of a report, without its values. -/
def message : Report → String
  | .setupLoaded .. => "detector setup loaded"
  | .nothingBound _ => "no detector matches the module, no instance created"
  | .modulesConstructed _ => "modules constructed"
  | .keyUnused .. => "configuration key was never used"
  | .multithreadingOff => "multithreading disabled in the configuration, using a single worker"
  | .serialModules _ => "some modules do not support multithreading, using a single worker"
  | .runStarting .. => "starting run"
  | .undelivered topic origin _ => (MessageError.noSubscriber topic origin).message
  | .moduleFailed error _ _ => error.wording
  | .found _ finding => finding.message
  | .finalizationFailed _ error => "finalization failed: " ++ error.wording
  | .runFinished .. => "run finished"
  | .simulationReady .. => "simulation initialized"
  | .simulationDone .. => "simulation done"
  | .gaveUp text => text

/-- The named values of a report. -/
def fields : Report → List (String × String)
  | .setupLoaded detectors models =>
    [("detectors", toString detectors), ("models", toString models)]
  | .nothingBound owner => [("section", owner)]
  | .modulesConstructed count => [("modules", toString count)]
  | .keyUnused owner key => [("section", owner), ("key", key)]
  | .multithreadingOff => []
  | .serialModules modules => [("modules", ", ".intercalate modules)]
  | .runStarting events workers seed =>
    [("events", toString events.toNat), ("workers", toString workers),
      ("seed", toString seed.toNat)]
  | .undelivered _ _ detector => detector.toList.map fun name => ("detector", name)
  | .moduleFailed _ event module => [("event", toString event.toNat), ("module", module)]
  | .found _ finding => finding.fields
  | .finalizationFailed .. => []
  | .runFinished completed skipped =>
    [("completed", toString completed.toNat), ("skipped", toString skipped.toNat)]
  | .simulationReady modules workers =>
    [("modules", toString modules), ("workers", toString workers)]
  | .simulationDone completed skipped =>
    [("completed", toString completed.toNat), ("skipped", toString skipped.toNat)]
  | .gaveUp _ => []

/-- A wording followed by the named values of the report. -/
def detailed (r : Report) (wording : String) : String :=
  r.fields.foldl (fun text (name, value) => text ++ " " ++ name ++ "=" ++ value) wording

/-- The report as a line that begins with its level. -/
def line (r : Report) : String :=
  r.level.name ++ " " ++ r.detailed r.message

end Report

end DetectorSim
