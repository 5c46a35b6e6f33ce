import DetectorSim.Config.Settings
import DetectorSim.Run.Workers

/-!
Simulations. Preparing one reads the settings, loads the detector setup, instantiates
and initializes the modules, reports unused keys and freezes the setup; running one
processes all events with its workers, all of which start, and then finalizes every
module.
-/

namespace DetectorSim

open Config

/-- A simulation that is ready to run. -/
structure Simulation (σ ω : Type) where
  modules : List (ReadyModule σ ω)
  table : SubscriptionTable ω
  geometry : Geometry
  globals : Section
  settings : Settings
  workers : Nat

/-- The number of workers that are started, and what is reported about it. A single worker is
started if multithreading is off or some modules are serial, and never more than there are
events. -/
def effectiveWorkers (settings : Settings) (serial : List String) : Nat × List Report :=
  let requested := max settings.workers 1
  let (allowed, reports) : Nat × List Report :=
    if requested ≤ 1 then (requested, [])
    else if !settings.multithreading then (1, [.multithreadingOff])
    else if serial.isEmpty then (requested, [])
    else (1, [.serialModules serial])
  (min allowed (max settings.events.toNat 1), reports)

namespace SetupM

variable {ω : Type}

/-- Reads from a section, which comes back with the new marks. -/
def access {α : Type} (a : Access α) (s : Section) : SetupM ω (α × Section) :=
  match a.on s with
  | (.ok value, after) => return (value, after)
  | (.error e, _) => throw (.config e)

/-- The path under a key of a section, at which there has to be something. -/
def path (s : Section) (key : String) : SetupM ω (Path × Section) := do
  match ← onFiles (s.path key true) with
  | (.ok path, after) => return (path, after)
  | (.error e, _) => throw (.config e)

/-- The result of a reading, or an error of the setup. -/
def ensure {ε α : Type} (wrap : ε → SetupError) : Except ε α → SetupM ω α
  | .ok value => return value
  | .error e => throw (wrap e)

/-- Loads the detector setup that the global section names; without a file of detectors it is
empty. -/
def loadGeometry (globals : Section) : SetupM ω (Geometry × Section) := do
  if !globals.has "detectors_file" then return (.empty, globals)
  let (detectors, globals) ← path globals "detectors_file"
  if globals.has "models_file" then
    let (models, globals) ← path globals "models_file"
    let geometry ← ensure .geometry (← onFiles (Geometry.ofFiles models detectors))
    return (geometry, globals)
  else
    let read ← ensure .config (← onFiles (Geometry.ofFile detectors))
    return (← ensure .geometry read, globals)

end SetupM

/-- The reports of keys that were never used in a section. -/
def unusedKeyReports (owner : String) (s : Section) : List Report :=
  s.unusedKeys.map fun key => .keyUnused owner key

/-- The number of events and what became of them. -/
structure RunSummary where
  requested : UInt64
  completed : UInt64
  skipped : UInt64
  workers : Nat
  failed : Bool
  deriving DecidableEq, Repr

/-- The number of events that were never processed. -/
def RunSummary.unprocessed (s : RunSummary) : UInt64 :=
  if s.completed + s.skipped ≤ s.requested then s.requested - (s.completed + s.skipped) else 0

/-- What finalization leaves: notes, reports and calls. -/
structure Ending (ω : Type) where
  notes : List ω
  reports : List Report
  calls : List ModuleCall

/-- What a run leaves. -/
structure RunResult (ω : Type) where
  summary : RunSummary
  error : Option ExecutionError
  processed : List (Processed ω)
  notes : List ω
  reports : List Report
  calls : List ModuleCall

/-- Answers the questions of a finalization. -/
def answerEnd {ω : Type} (module : String) :
    (q : EndQuestion ω) → StateT (Ending ω) FileProgram q.Answer
  | .write path text => StateT.lift (FileProgram.write path text)
  | .report finding => modify fun e => { e with reports := e.reports ++ [.found module finding] }
  | .note n => modify fun e => { e with notes := e.notes ++ [n] }

/-- Finalizes modules in order, each with its memory. Errors are reported. -/
def finalizeAll {σ ω : Type} [Inhabited σ] (memories : List σ) :
    List (ReadyModule σ ω) → StateT (Ending ω) FileProgram Unit
  | [] => return ()
  | i :: rest => do
    let name := i.identifier.display
    match ← (i.body.finalize (memories.getD i.id default)).run.interpret (answerEnd name) with
    | .ok _ => modify fun e => { e with calls := e.calls ++ [.finalize i.id none] }
    | .error fault => modify fun e => { e with
        reports := e.reports ++ [.finalizationFailed name fault]
        calls := e.calls ++ [.finalize i.id (some fault)] }
    finalizeAll memories rest

namespace Simulation

variable {σ ω : Type}

/-- Makes a simulation of sections in a detector setup: constructs and initializes the modules,
reports unused keys and freezes the setup. -/
def assemble (registry : Registry σ ω) (sections : List Section) (settings : Settings)
    (geometry : Geometry) (globals : Section) : SetupM ω (Simulation σ ω) := do
  SetupM.change fun s => { s with geometry }
  SetupM.report (.setupLoaded geometry.placements.length geometry.models.length)
  let built ← Instance.instantiate registry sections
  SetupM.report (.modulesConstructed built.length)
  let (modules, globals) ← Instance.initAll built globals
  let unused := unusedKeyReports globals.identifier globals ++
    modules.flatMap fun i => unusedKeyReports i.identifier.display i.config
  unused.forM SetupM.report
  let serial := (modules.filter (!·.concurrent)).map (·.identifier.display)
  let (workers, reports) := effectiveWorkers settings serial
  reports.forM SetupM.report
  SetupM.change fun s => { s with geometry := s.geometry.freeze }
  let state ← SetupM.state
  return ⟨modules, state.table, state.geometry, globals, settings, workers⟩

/-- Prepares a simulation. A setup that is given is used as it is. -/
def prepare (registry : Registry σ ω) (config : RunConfig) (given : Option Geometry)
    (processors : Nat) : SetupM ω (Simulation σ ω) := do
  let (settings, globals) ← SetupM.access (Settings.read processors) config.globals
  match given with
  | some geometry => assemble registry config.modules settings geometry globals
  | none =>
    let (geometry, globals) ← SetupM.loadGeometry globals
    assemble registry config.modules settings geometry globals

/-- What the run of a simulation works on. -/
def plan (s : Simulation σ ω) : RunPlan σ ω :=
  ⟨s.modules, s.table, s.geometry, s.settings.events, s.settings.seed⟩

/-- The summary of a run when all workers are at their end. -/
def summary (s : Simulation σ ω) (m : Machine σ ω) : RunSummary where
  requested := s.settings.events
  completed := m.completed
  skipped := m.skipped
  workers := s.workers
  failed := m.failure.isSome || m.panickedWorker.isSome

/-- The error of a run when all workers are at their end: the failure stored first, or else the
panic of the first worker that panicked. -/
def errorOf (m : Machine σ ω) : Option ExecutionError :=
  match m.failure with
  | some f => some (.moduleFatal f.name f.event f.error)
  | none => m.panickedWorker.map .workerPanic

variable [Inhabited σ]

/-- Finalizes all modules when all workers are at their end. -/
def conclude (s : Simulation σ ω) (m : Machine σ ω) : FileProgram (RunResult ω) := do
  let summary := s.summary m
  let starting : Report := .runStarting s.settings.events s.workers s.settings.seed
  let finished : Report := .runFinished summary.completed summary.skipped
  let (_, ending) ← (finalizeAll m.commons.memories s.modules).run ⟨[], [], []⟩
  return {
    summary
    error := errorOf m
    processed := m.processed.reverse
    notes := ending.notes
    reports := starting :: (m.commons.reports.reverse ++ ending.reports ++ [finished])
    calls := m.commons.calls.reverse ++ ending.calls }

/-- Processes all events, then finalizes all modules. -/
def run (s : Simulation σ ω) : FileProgram (RunResult ω) :=
  s.conclude ((Machine.start s.plan s.workers).complete s.plan)

end Simulation

end DetectorSim
