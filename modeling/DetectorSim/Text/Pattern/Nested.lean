/-!
What is read out of parts, with the depth to which it is nested.
-/

namespace DetectorSim.Text.Pattern

/-- Something that has been read, with the number of levels inside of it. -/
structure Nested (α : Type) where
  value : α
  depth : Nat
  deriving DecidableEq, Repr

namespace Nested

/-- The depth of parts that stand together. One part by itself adds no level. -/
def depthOf : List Nat → Nat
  | [] => 0
  | [depth] => depth
  | depths => 1 + depths.foldl max 0

/-- Parts that stand together. -/
def combine {α β : Type} (join : List α → β) (parts : List (Nested α)) : Nested β :=
  ⟨join (parts.map (·.value)), depthOf (parts.map (·.depth))⟩

/-- Something around a part. -/
def around {α β : Type} (wrap : α → β) (part : Nested α) : Nested β :=
  ⟨wrap part.value, part.depth + 1⟩

end Nested

end DetectorSim.Text.Pattern
