import DetectorSim.Config.Document

/-!
The configuration of a run. The sections named like the global one are merged into
a single section, later values winning; the others stay in order as module
sections.
-/

namespace DetectorSim.Config

/-- Whether a section holds run-wide parameters. -/
def Section.isGlobal (s : Section) : Bool :=
  Text.sameLetters s.name globalName

/-- Sets all keys of another section. -/
def Section.absorb (s other : Section) : Section :=
  other.values.entries.foldl (fun s (key, value) => s.set key value) s

/-- The global section and the module sections. -/
structure RunConfig where
  globals : Section
  modules : List Section

namespace RunConfig

/-- Merges sections into the first of them. -/
def mergeGlobals : List Section → Section
  | [] => Section.new globalName none
  | first :: later => later.foldl Section.absorb first

/-- Sorts sections into global and module ones. The seed is used if none is configured. -/
def ofSections (seed : UInt64) (sections : List Section) : RunConfig where
  globals := (mergeGlobals (sections.filter Section.isGlobal)).setDefault "random_seed"
    (toString seed.toNat)
  modules := sections.filter (!·.isGlobal)

/-- Sets keys of the global section. -/
def override (c : RunConfig) (pairs : List (String × String)) : RunConfig :=
  { c with globals := pairs.foldl (fun s (key, value) => s.set key value) c.globals }

/-- Reads a run configuration from a text without origin. -/
def read (seed : UInt64) (text : String) : Except ConfigError RunConfig :=
  (Document.read none text).map (ofSections seed)

/-- Reads a run configuration from a file. -/
def load (seed : UInt64) (path : Path) : FileProgram (Except ConfigError RunConfig) := do
  return (← Document.load path).map (ofSections seed)

end RunConfig

/-- The run-wide parameters. -/
structure Settings where
  events : UInt64
  workers : Nat
  seed : UInt64
  multithreading : Bool
  deriving DecidableEq, Repr

/-- Reads the settings from the global section; without a number of workers there are as many
as processors. -/
def Settings.read (processors : Nat) : Access Settings := do
  let workers : IntegerType.usize.Carrier ← Access.readOr .count "workers" (Kind.countOf processors)
  if workers.val = 0 then Access.refuse "workers" .noWorker
  let events : IntegerType.u64.Carrier ←
    Access.readOr .u64 "number_of_events" (⟨1, by decide⟩ : IntegerType.u64.Carrier)
  let seed : IntegerType.u64.Carrier ← Access.read .u64 "random_seed"
  let multithreading : Bool ← Access.readOr .boolean "multithreading" true
  return {
    events := UInt64.ofNat events.val.toNat
    workers := workers.val.toNat
    seed := UInt64.ofNat seed.val.toNat
    multithreading }

end DetectorSim.Config
