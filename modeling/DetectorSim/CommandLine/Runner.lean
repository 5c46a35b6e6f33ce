import DetectorSim.Chain.HitCounter
import DetectorSim.CommandLine.Arguments
import DetectorSim.CommandLine.LogFilter
import DetectorSim.Run.Simulation
import DetectorSim.Text.Terminal

/-!
The command line as a program over files: it reads the configuration, applies the
overrides, runs the simulation with the modules of the chain, and leaves a transcript.
-/

namespace DetectorSim.CommandLine

open Config

/-- What a run of the program leaves: its status, the lines for errors, and the log. -/
structure Transcript where
  status : UInt32
  errors : List String
  log : List String
  deriving DecidableEq, Repr

/-- A report as a line of the log, after its span if that is entered. -/
def logLine (filter : LogFilter) (r : Report) : String :=
  let around := ((r.span.filter filter.enters).map Span.text).getD ""
  r.level.name ++ " " ++ around ++ r.target ++ ": " ++ r.detailed (Text.harmless r.message)

/-- The log of the main thread. -/
def logOf (filter : LogFilter) (reports : List Report) : List String :=
  (reports.filter fun r => !r.byWorker && filter.shows r).map (logLine filter)

/-- Drops quotation marks from both ends. -/
def unquote (cs : List Char) : List Char :=
  Text.trimBy (· == '"') cs

/-- The filter text of the global section, which has to be set. -/
def configuredFilter : Access String := do
  let raw ← Access.text "log_level"
  return String.ofList (unquote (Text.trim raw.toList))

/-- The settings that the arguments override. -/
def Arguments.overrides (a : Arguments) : List (String × String) :=
  let set (key : String) (value : Option UInt64) : List (String × String) :=
    value.toList.map fun n => (key, toString n.toNat)
  set "number_of_events" a.events ++ set "workers" a.workers ++ set "random_seed" a.seed

/-- Simulates a configuration. The reports are those of the setup and the run, and at last how it
ended. -/
def simulate (config : RunConfig) (processors : Nat) : FileProgram (List Report × Bool) := do
  let registry : Registry HitCounts Unit := (Registry.empty.addAll chainModules).1
  let (prepared, state) ←
    (Simulation.prepare registry config none processors).run.run (.start .empty)
  match prepared with
  | .error e => return (state.reports ++ [.gaveUp e.message], false)
  | .ok s =>
    let result ← s.run
    let reports :=
      state.reports ++ .simulationReady s.modules.length s.workers :: result.reports
    match result.error with
    | some e => return (reports ++ [.gaveUp e.message], false)
    | none =>
      return (reports ++ [.simulationDone result.summary.completed result.summary.skipped], true)

/-- Runs the program on its arguments. The seed is used if none is configured. -/
def run (arguments : List String) (seed : UInt64) (processors : Nat) :
    FileProgram Transcript := do
  match Request.ofArguments arguments with
  | .error e => return ⟨2, ["error: " ++ e.message], []⟩
  | .ok .information => return ⟨0, [], []⟩
  | .ok (.run a) =>
    match ← RunConfig.load seed a.config with
    | .error e => return ⟨1, ["error: " ++ e.message], []⟩
    | .ok config =>
      let (filterText, globals) : String × Section :=
        match a.logLevel with
        | some text => (text, config.globals)
        | none =>
          let (found, after) := configuredFilter.on config.globals
          (found.toOption.getD "info", after)
      let ignored := (LogFilter.refused filterText).map fun (part, fault) =>
        s!"ignoring \x60{part}\x60: {fault.message}"
      let (reports, succeeded) ←
        simulate (RunConfig.override { config with globals } a.overrides) processors
      return ⟨if succeeded then 0 else 1, ignored, logOf (.read filterText) reports⟩

end DetectorSim.CommandLine
