import DetectorSim.Chain.ChargeDepositor

/-!
The middle of a chain: it keeps the pixels whose charge reaches a threshold.
-/

namespace DetectorSim

open Config

/-- What is done with an event in which no pixel reaches the threshold. -/
inductive EmptyPolicy where
  | keep
  | skip
  | abort
  deriving DecidableEq, Repr

/-- A threshold digitizer: its detector, the threshold in electrons, and its policy. -/
structure ThresholdDigitizer where
  detector : Detector
  threshold : Float
  onEmpty : EmptyPolicy

namespace ThresholdDigitizer

variable {ω : Type}

/-- The written names of policies. -/
def policies : List (String × EmptyPolicy) :=
  [("keep", .keep), ("skip", .skip), ("abort", .abort)]

/-- Reads the threshold and the policy. -/
def readParameters : Access (Float × EmptyPolicy) := do
  let threshold : Float ← Access.readOr .float64 "threshold" (1000.0 : Float)
  if threshold < 0.0 then Access.refuse "threshold" .negativeThreshold
  if ← Access.has "on_empty" then
    let chosen ← Access.choice "on_empty" (policies.map Prod.fst)
    return (threshold, (policies.lookup chosen).getD .keep)
  else return (threshold, .keep)

/-- The charges that reach the threshold. -/
def hitsOf (d : ThresholdDigitizer) (deposits : Deposits) : Hits :=
  ⟨deposits.charges.filter fun c => d.threshold ≤ c.charge⟩

/-- Applies the policy to an event. -/
def checkEmpty (d : ThresholdDigitizer) (view : EventView) (hits : Hits) :
    EventProgram HitCounts ω Unit :=
  if hits.pixels.isEmpty then
    match d.onEmpty with
    | .keep => return ()
    | .skip => EventProgram.fail (.skip "no pixel above threshold")
    | .abort => EventProgram.fail
        (.fatal s!"no pixel of {d.detector.name} above threshold in event {view.index.toNat}")
  else return ()

/-- Digitizes the latest deposit. -/
def run (d : ThresholdDigitizer) (view : EventView) : EventProgram HitCounts ω Unit := do
  let deposits ← EventProgram.fetch .deposits
  let hits := d.hitsOf deposits.payload
  d.checkEmpty view hits
  let message ← EventProgram.make .hits hits (some d.detector)
  let _ ← EventProgram.dispatch message

/-- The module of a digitizer. -/
def toModule (d : ThresholdDigitizer) : Module HitCounts ω :=
  ⟨.empty, d.run, fun _ => return ()⟩

/-- Threshold digitizers as a module type. -/
def moduleType : ModuleType HitCounts ω where
  name := "ThresholdDigitizer"
  scope := .perDetector
  concurrent := true
  construct view := do
    let detector ← view.boundDetector
    let (threshold, onEmpty) ← BuildProgram.access readParameters
    BuildProgram.subscribe ⟨.deposits, view.identifier.ownFilter, .onlyRequired, none⟩
    return (ThresholdDigitizer.mk detector threshold onEmpty).toModule.blueprint

end ThresholdDigitizer

end DetectorSim
