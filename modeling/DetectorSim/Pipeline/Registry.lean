import DetectorSim.Pipeline.Module

/-!
The registered module types, under distinct names. A name written in a section
means the type of exactly this name, or else the only one that differs from it in
the case of letters.
-/

namespace DetectorSim

/-- Module types in the order they were registered. -/
structure Registry (σ ω : Type) where
  types : List (ModuleType σ ω)

namespace Registry

variable {σ ω : Type}

/-- The registry without module types. -/
def empty : Registry σ ω :=
  ⟨[]⟩

/-- The module type of exactly this name. -/
def get? (r : Registry σ ω) (name : String) : Option (ModuleType σ ω) :=
  r.types.find? (·.name == name)

/-- Registers a module type. A name in use is refused with its type. -/
def add (r : Registry σ ω) (t : ModuleType σ ω) : Except (ModuleType σ ω) (Registry σ ω) :=
  if (r.get? t.name).isSome then .error t else .ok ⟨r.types ++ [t]⟩

/-- Registers module types up to the first that is refused. -/
def addAll (r : Registry σ ω) : List (ModuleType σ ω) → Registry σ ω × Option (ModuleType σ ω)
  | [] => (r, none)
  | t :: rest =>
    match r.add t with
    | .ok r => r.addAll rest
    | .error refused => (r, some refused)

/-- Puts a name before the first one that is not before it. -/
def insertName (name : String) : List String → List String
  | [] => [name]
  | first :: rest => if first < name then first :: insertName name rest else name :: first :: rest

/-- Names in order. -/
def sortNames (names : List String) : List String :=
  names.foldr insertName []

/-- The registered names, in order. -/
def names (r : Registry σ ω) : List String :=
  sortNames (r.types.map (·.name))

/-- The module type that a name means. -/
def resolve (r : Registry σ ω) (name : String) : Except ResolveError (ModuleType σ ω) :=
  match r.get? name with
  | some t => .ok t
  | none =>
    match r.types.filter fun t => Text.sameLetters t.name name with
    | [] => .error (.unresolved name)
    | [t] => .ok t
    | several => .error (.ambiguous name (sortNames (several.map (·.name))))

/-- The registry as a debugging text. -/
def debug (r : Registry σ ω) : String :=
  s!"ModuleRegistry ({r.types.length} modules)"

end Registry

end DetectorSim
