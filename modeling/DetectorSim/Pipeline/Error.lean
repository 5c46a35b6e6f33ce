import DetectorSim.Geometry.Setup
import DetectorSim.Message.Topic

/-!
The errors of modules, of the setup and of a run.
-/

namespace DetectorSim

open Config

/-- The errors that a module returns. -/
inductive ModuleError where
  | configuration (error : ConfigError)
  | geometry (error : GeometryError)
  | skip (reason : String)
  | fatal (reason : String)
  | message (error : MessageError)
  | file (fault : FileFault)
  deriving DecidableEq, Repr

/-- The wording of an error. -/
def ModuleError.wording : ModuleError → String
  | .configuration error => error.message
  | .geometry error => error.message
  | .skip reason => s!"event skipped: {reason}"
  | .fatal reason => reason
  | .message error => error.message
  | .file fault => fault.message

/-- Whether only the current event is given up. -/
def ModuleError.isSkip : ModuleError → Bool
  | .skip _ => true
  | _ => false

/-- Why no module is found for a name. -/
inductive ResolveError where
  | unresolved (name : String)
  | ambiguous (name : String) (candidates : List String)
  deriving DecidableEq, Repr

/-- The wording of an error. -/
def ResolveError.message : ResolveError → String
  | .unresolved name => s!"no module named '{name}' is registered"
  | .ambiguous name candidates =>
    s!"module name '{name}' is ambiguous between " ++ ", ".intercalate candidates

/-- Why a section cannot be bound. -/
inductive BindingFault where
  | globalWithDetector
  | typeWithDetector
  | qualifierWithTypes
  deriving DecidableEq, Repr

/-- The wording of a fault. -/
def BindingFault.message : BindingFault → String
  | .globalWithDetector => "a global module cannot target a detector"
  | .typeWithDetector => "a per-detector-type module cannot target a detector"
  | .qualifierWithTypes => "a detector qualifier cannot be combined with a 'type' restriction"

/-- The errors of the setup. -/
inductive SetupError where
  | config (error : ConfigError)
  | geometry (error : GeometryError)
  | unknownModule (owner : String) (error : ResolveError)
  | unknownDetector (owner detector : String)
  | duplicateInstance (identifier : String)
  | invalidBinding (owner : String) (fault : BindingFault)
  | construction (module : String) (error : ModuleError)
  | initialization (module : String) (error : ModuleError)
  deriving DecidableEq, Repr

/-- The wording of an error. -/
def SetupError.message : SetupError → String
  | .config error => error.message
  | .geometry error => error.message
  | .unknownModule owner error => s!"section [{owner}]: {error.message}"
  | .unknownDetector owner detector => s!"section [{owner}]: detector '{detector}' does not exist"
  | .duplicateInstance identifier =>
    s!"module instance {identifier} is configured more than once"
  | .invalidBinding owner fault => s!"section [{owner}]: {fault.message}"
  | .construction module error => s!"could not construct module {module}: " ++ error.wording
  | .initialization module error => s!"could not initialize module {module}: " ++ error.wording

/-- The errors of a run. -/
inductive ExecutionError where
  | moduleFatal (module : String) (event : UInt64) (error : ModuleError)
  | workerPanic (worker : Nat)
  deriving DecidableEq, Repr

/-- The wording of an error. -/
def ExecutionError.message : ExecutionError → String
  | .moduleFatal module event error =>
    s!"module {module} failed in event {event}: " ++ error.wording
  | .workerPanic worker => s!"worker {worker} panicked"

end DetectorSim
