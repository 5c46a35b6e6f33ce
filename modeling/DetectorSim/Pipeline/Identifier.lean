import DetectorSim.Message.Subscription

/-!
Identities of module instances: the name of the module type and what the instance
is bound to.
-/

namespace DetectorSim

/-- How many instances a module type has. -/
inductive Scope where
  | global
  | perDetector
  | perDetectorType
  deriving DecidableEq, Repr

/-- The scope as a debugging text. -/
def Scope.debug : Scope → String
  | .global => "Global"
  | .perDetector => "PerDetector"
  | .perDetectorType => "PerDetectorType"

/-- What an instance is bound to. -/
inductive Binding where
  | global
  | detector (name : String)
  | detectorType (name : String)
  deriving DecidableEq, Repr

/-- The rank of the form of a binding, and its label. -/
def Binding.key : Binding → Nat × String
  | .global => (0, "")
  | .detector name => (1, name)
  | .detectorType name => (2, name)

/-- The identity of an instance. -/
structure Identifier where
  name : String
  binding : Binding
  deriving DecidableEq, Repr

namespace Identifier

/-- The name, followed by the label of the binding if there is one. -/
def display (i : Identifier) : String :=
  match i.binding with
  | .global => i.name
  | .detector label | .detectorType label => i.name ++ ":" ++ label

/-- Orders by name, then form of binding, then label. -/
def before (a b : Identifier) : Bool :=
  a.name < b.name ||
    (a.name == b.name && (a.binding.key.1 < b.binding.key.1 ||
      (a.binding.key.1 == b.binding.key.1 && a.binding.key.2 < b.binding.key.2)))

/-- The filter for messages to the instance's own detector; instances without a single detector
accept any message. -/
def ownFilter (i : Identifier) : Filter :=
  match i.binding with
  | .detector name => .detector name
  | _ => .any

end Identifier

end DetectorSim
