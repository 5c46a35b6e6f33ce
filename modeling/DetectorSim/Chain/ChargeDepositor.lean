import DetectorSim.Chain.HitCounts

/-!
The source of a chain: it deposits normally distributed charges in randomly chosen
pixels of its detector.
-/

namespace DetectorSim

open Config

/-- The detector of a module bound to a single one, or an error of the module. -/
def SetupView.boundDetector {ω : Type} (view : SetupView) : BuildProgram ω Detector :=
  match view.ownDetector with
  | some detector => return detector
  | none => throw (.fatal (view.identifier.display ++ " is not bound to a detector"))

/-- A charge depositor: its detector, the number of charges in each event, and their mean and
spread in electrons. -/
structure ChargeDepositor where
  detector : Detector
  pixels : Nat
  mean : Float
  spread : Float

namespace ChargeDepositor

variable {ω : Type}

/-- Reads the number, the mean and the spread of the charges. -/
def readParameters : Access (Nat × Float × Float) := do
  let pixels : IntegerType.usize.Carrier ←
    Access.readOr .count "pixels_per_event" (Kind.countOf 10)
  let mean : Float ← Access.readOr .float64 "mean_charge" (5000.0 : Float)
  let spread : Float ← Access.readOr .float64 "spread" (1000.0 : Float)
  if spread < 0.0 then Access.refuse "spread" .negativeSpread
  if !spread.isFinite then Access.refuse "spread" .spreadNotFinite
  return (pixels.val.toNat, mean, spread)

/-- A charge below zero counts as none. -/
def clip (charge : Float) : Float :=
  if 0.0 < charge then charge else 0.0

/-- Draws one charge. -/
def drawCharge (d : ChargeDepositor) : EventProgram HitCounts ω PixelCharge := do
  let column ← EventProgram.below d.detector.model.columns
  let row ← EventProgram.below d.detector.model.rows
  let charge : Float ← EventProgram.draw (.normal d.mean d.spread)
  return ⟨column, row, clip charge⟩

/-- Draws charges behind those drawn before, the latest first. -/
def drawCharges (d : ChargeDepositor) :
    Nat → List PixelCharge → EventProgram HitCounts ω (List PixelCharge)
  | 0, drawn => return drawn.reverse
  | more + 1, drawn => do
    let charge ← d.drawCharge
    d.drawCharges more (charge :: drawn)

/-- The most charges that fit into one list: they take sixteen bytes each, and a list takes less than
half of the addresses. -/
def mostCharges : Nat := 0x7fffffffffffffff / 16

/-- Deposits charges if anything would receive them. More charges than fit end the worker. -/
def run (d : ChargeDepositor) : EventProgram HitCounts ω Unit := do
  if ← EventProgram.hasSubscribers .deposits (some d.detector.name) then
    if mostCharges < d.pixels then EventProgram.panic
    let charges ← d.drawCharges d.pixels []
    let message ← EventProgram.make .deposits ⟨charges⟩ (some d.detector)
    let _ ← EventProgram.dispatch message

/-- The module of a depositor. -/
def toModule (d : ChargeDepositor) : Module HitCounts ω :=
  ⟨.empty, fun _ => d.run, fun _ => return ()⟩

/-- Charge depositors as a module type. -/
def moduleType : ModuleType HitCounts ω where
  name := "ChargeDepositor"
  scope := .perDetector
  concurrent := true
  construct view := do
    let detector ← view.boundDetector
    let (pixels, mean, spread) ← BuildProgram.access readParameters
    return (ChargeDepositor.mk detector pixels mean spread).toModule.blueprint

end ChargeDepositor

end DetectorSim
