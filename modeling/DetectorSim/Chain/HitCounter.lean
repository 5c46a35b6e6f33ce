import DetectorSim.Chain.ThresholdDigitizer
import DetectorSim.Pipeline.Registry

/-!
The end of a chain: it counts the hits of all detectors, and writes them to a file if
one is named. The three module types of the chain are registered together.
-/

namespace DetectorSim

open Config

namespace HitCounter

variable {ω : Type}

/-- Counts the hits received in an event. -/
def run : EventProgram HitCounts ω Unit := do
  let messages ← EventProgram.fetchAll .hits
  if messages.any fun m => !(Hits.pixels m.payload).isEmpty then
    EventProgram.update HitCounts.countEvent
  EventProgram.update (HitCounts.addMessages messages)

/-- Reports the counts, and writes them to the output file. -/
def finalize (output : Option Path) (counts : HitCounts) : EndProgram ω Unit := do
  counts.hits.entries.forM fun (detector, hits) => EndProgram.report (.hitCount detector hits)
  match output with
  | none => return ()
  | some path =>
    EndProgram.write path counts.report
    EndProgram.report (.countsWritten path)

/-- Reads the output file. -/
def readOutput : Access (Option Path) := do
  if ← Access.has "output_file" then
    let path ← Access.path "output_file"
    return some path
  else return none

/-- Hit counters as a module type. -/
def moduleType : ModuleType HitCounts ω where
  name := "HitCounter"
  scope := .global
  concurrent := true
  construct _ := do
    let output ← BuildProgram.access readOutput
    BuildProgram.subscribe ⟨.hits, .any, .none, none⟩
    return (Module.mk .empty (fun _ => run) (finalize output)).blueprint

end HitCounter

/-- The module types of a chain. -/
def chainModules {ω : Type} : List (ModuleType HitCounts ω) :=
  [ChargeDepositor.moduleType, ThresholdDigitizer.moduleType, HitCounter.moduleType]

end DetectorSim
