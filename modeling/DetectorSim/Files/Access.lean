import DetectorSim.Files.Path
import DetectorSim.Interaction

/-!
Access to files as an interface: whether a path exists, the text of a file, and
the writing of a file. Programs over it run on a file tree held in memory or on
the real one.
-/

namespace DetectorSim

/-- Why a file could not be read or written. -/
inductive FileFault where
  | notFound
  | isDirectory
  | notDirectory
  | nameTooLong
  | nullInName
  | notText
  | other (text : String)
  deriving DecidableEq, Repr

/-- The wording of a fault. -/
def FileFault.message : FileFault → String
  | .notFound => "No such file or directory (os error 2)"
  | .isDirectory => "Is a directory (os error 21)"
  | .notDirectory => "Not a directory (os error 20)"
  | .nameTooLong => "File name too long (os error 36)"
  | .nullInName => "file name contained an unexpected NUL byte"
  | .notText => "stream did not contain valid UTF-8"
  | .other text => text

/-- The longest name in a path, in bytes. -/
def FileFault.longestName : Nat := 255

/-- The longest path, in bytes. -/
def FileFault.longestPath : Nat := 4095

/-- What is wrong with a path wherever it leads: it is too long, empty, or holds a null
character. -/
def Path.fault? (p : Path) : Option FileFault :=
  if '\x00' ∈ p.text.toList then some .nullInName
  else if p.text.isEmpty then some .notFound
  else if FileFault.longestPath < p.text.utf8ByteSize then some .nameTooLong
  else none

/-- The questions about files. -/
inductive FileQuestion where
  | present (path : Path)
  | read (path : Path)
  | write (path : Path) (text : String)

/-- Files as an interface. -/
def fileInterface : Interface where
  Question := FileQuestion
  Answer
    | .present _ => Bool
    | .read _ => Except FileFault String
    | .write _ _ => Except FileFault Unit

/-- A program that works on files. -/
abbrev FileProgram (α : Type) : Type := Interaction fileInterface α

namespace FileProgram

/-- Whether a path exists. -/
def present (path : Path) : FileProgram Bool :=
  Interaction.query (I := fileInterface) (.present path)

/-- The text of a file. -/
def read (path : Path) : FileProgram (Except FileFault String) :=
  Interaction.query (I := fileInterface) (.read path)

/-- Writes a file anew. -/
def write (path : Path) (text : String) : FileProgram (Except FileFault Unit) :=
  Interaction.query (I := fileInterface) (.write path text)

end FileProgram

end DetectorSim
