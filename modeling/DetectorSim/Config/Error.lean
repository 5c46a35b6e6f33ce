import DetectorSim.Config.Kind
import DetectorSim.Files.Access

/-!
The errors of reading and querying configurations, as causes with one wording.
-/

namespace DetectorSim.Config

/-- Why a line of a configuration text is refused. -/
inductive SyntaxFault where
  | unclosedHeader
  | sectionName
  | detectorQualifier
  | globalWithDetector
  | noAssignment
  | keyName
  | keyBeforeHeader
  deriving DecidableEq, Repr

/-- The wording of a fault. -/
def SyntaxFault.message : SyntaxFault → String
  | .unclosedHeader => "section header is missing the closing ']'"
  | .sectionName => "section name must be a non-empty identifier"
  | .detectorQualifier => "detector qualifier must be a non-empty identifier"
  | .globalWithDetector => "the global section cannot target a detector"
  | .noAssignment => "expected 'key = value' or a section header"
  | .keyName => "key must be a non-empty identifier"
  | .keyBeforeHeader => "key defined before the first section header"

/-- Why a value of the right kind is not acceptable. -/
inductive ValueRule where
  | notAChoice (text : String) (choices : List String)
  | pathAbsent (path : Path)
  | noWorker
  | emptyMatrix
  | pitchNotPositive
  | negativeSpread
  | spreadNotFinite
  | negativeThreshold
  | stated (reason : String)
  deriving DecidableEq, Repr

/-- The wording of a rule. -/
def ValueRule.message : ValueRule → String
  | .notAChoice text choices => s!"'{text}' is not one of " ++ ", ".intercalate choices
  | .pathAbsent path => s!"path '{path.text}' does not exist"
  | .noWorker => "at least one worker is required"
  | .emptyMatrix => "pixel matrix cannot be empty"
  | .pitchNotPositive => "pixel pitch must be positive"
  | .negativeSpread => "spread cannot be negative"
  | .spreadNotFinite => "variation parameter is non-finite in (log)normal distribution"
  | .negativeThreshold => "threshold cannot be negative"
  | .stated reason => reason

/-- The errors of configurations. Sections are named by their identifiers. -/
inductive ConfigError where
  | unreadable (path : Path) (fault : FileFault)
  | malformed (origin : String) (line : Nat) (fault : SyntaxFault)
  | missingKey (owner key : String)
  | wrongKind (owner key value : String) (kind : Kind) (fault : ReadFault)
  | unacceptable (owner key : String) (rule : ValueRule)
  deriving DecidableEq, Repr

/-- The wording of an error. -/
def ConfigError.message : ConfigError → String
  | .unreadable path fault =>
    s!"could not read configuration file '{path.text}': {fault.message}"
  | .malformed origin line fault => s!"syntax error in {origin} at line {line}: {fault.message}"
  | .missingKey owner key => s!"key '{key}' in section [{owner}] does not exist"
  | .wrongKind owner key value kind fault =>
    s!"could not convert value '{value}' of key '{key}' in section [{owner}] to type " ++
      s!"{kind.name}: {fault.message}"
  | .unacceptable owner key rule =>
    s!"invalid value for key '{key}' in section [{owner}]: {rule.message}"

end DetectorSim.Config
