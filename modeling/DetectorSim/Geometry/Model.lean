import DetectorSim.Config.Section

/-!
Detector models: the static description that all detectors of one type share.
Lengths are in millimetres.
-/

namespace DetectorSim

open Config

/-- How a model is assembled: with integrated readout, or bonded to a separate chip. -/
inductive Assembly where
  | monolithic
  | hybrid (chipThickness bumpHeight : Float)

/-- A detector model with its matrix of pixel columns and rows. -/
structure DetectorModel where
  typeName : String
  columns : UInt32
  rows : UInt32
  pitch : Vector Float 2
  thickness : Float
  assembly : Assembly

namespace DetectorModel

/-- The number of pixels, which always fits 64 bits. -/
def pixelCount (m : DetectorModel) : UInt64 :=
  m.columns.toUInt64 * m.rows.toUInt64

theorem toNat_pixelCount (m : DetectorModel) :
    m.pixelCount.toNat = m.columns.toNat * m.rows.toNat := by
  have bound := Nat.mul_lt_mul_of_lt_of_lt m.columns.toNat_lt m.rows.toNat_lt
  simpa [pixelCount] using bound

/-- The extent of the matrix along both axes and the thickness. -/
def sensorSize (m : DetectorModel) : Vector Float 3 :=
  #v[m.columns.toFloat * m.pitch[0], m.rows.toFloat * m.pitch[1], m.thickness]

/-- Whether the model carries a separate readout chip. -/
def isHybrid (m : DetectorModel) : Bool :=
  match m.assembly with
  | .monolithic => false
  | .hybrid .. => true

/-- Reads the assembly of a model. -/
def readAssembly : Access Assembly := do
  let kind ← Access.choice "assembly" ["monolithic", "hybrid"]
  if kind = "hybrid" then
    let chip : Float ← Access.read .float64 "chip_thickness"
    let bump : Float ← Access.readOr .float64 "bump_height" (0.0 : Float)
    return .hybrid chip bump
  else return .monolithic

/-- Reads a model from a section named by its type. A matrix without pixels and a pitch at or
below zero are refused. -/
def read : Access DetectorModel := do
  let assembly ← readAssembly
  let pixels : Vector IntegerType.u32.Carrier 2 ← Access.read (.array 2 .u32) "number_of_pixels"
  if pixels.any (·.val == 0) then Access.refuse "number_of_pixels" .emptyMatrix
  let pitch : Vector Float 2 ← Access.read (.array 2 .float64) "pixel_size"
  if pitch.any (· ≤ 0.0) then Access.refuse "pixel_size" .pitchNotPositive
  let thickness : Float ← Access.read .float64 "sensor_thickness"
  return {
    typeName := (← Access.current).name
    columns := UInt32.ofNat pixels[0].val.toNat
    rows := UInt32.ofNat pixels[1].val.toNat
    pitch, thickness, assembly }

end DetectorModel

end DetectorSim
