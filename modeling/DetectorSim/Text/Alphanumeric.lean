import DetectorSim.Text.Alphabetic
import DetectorSim.Text.Numeric

/-!
Letters and digits of all scripts.
-/

namespace DetectorSim.Text

/-- A letter or a digit of any script. -/
def isAlphanumeric (c : Char) : Bool :=
  isAlphabetic c || isNumeric c

end DetectorSim.Text
