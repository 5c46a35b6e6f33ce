import DetectorSim.Files.Access

/-!
A file tree held in memory. A directory is whatever has a file below it; the
current directory, the directories above it and the root always exist. Paths are
followed component by component, each through an existing directory.
-/

namespace DetectorSim

/-- Files by their components; absolute ones start with a slash, and those above the current
directory with two dots. A file without text holds bytes that are no text. -/
structure FileTree where
  files : List (List String × Option String)

namespace FileTree

/-- Whether a place is the current directory or one above it. -/
def isAbove (place : List String) : Bool :=
  place.all (· == "..")

/-- The directory that holds a place; the root holds itself. -/
def up (place : List String) : List String :=
  if place == ["/"] then place
  else if isAbove place then ".." :: place
  else place.dropLast

/-- Where a segment leads from a place. -/
def enter (place : List String) (segment : List Char) : List String :=
  if segment.isEmpty || segment == ['.'] then place
  else if segment == ['.', '.'] then up place
  else place ++ [String.ofList segment]

/-- The place where a path starts. -/
def start (p : Path) : List String :=
  if p.isAbsolute then ["/"] else []

/-- The tree of files at relative paths. -/
def ofList (files : List (Path × Option String)) : FileTree :=
  ⟨files.map fun (path, text) => ((Path.segments path.body).foldl enter (start path), text)⟩

/-- The content of a file, if there is one at this place. -/
def file? (t : FileTree) (place : List String) : Option (Option String) :=
  t.files.lookup place

/-- Whether a place is a directory. -/
def isDirectory (t : FileTree) (place : List String) : Bool :=
  isAbove place || place == ["/"] ||
    t.files.any fun (file, _) => place.isPrefixOf file && place.length < file.length

/-- Whether the last name of a place is too long for a file. -/
def isTooLong (place : List String) : Bool :=
  place.getLast?.any fun name => FileFault.longestName < name.utf8ByteSize

/-- Why there is nothing at a place. -/
def absence (place : List String) : FileFault :=
  if isTooLong place then .nameTooLong else .notFound

/-- Follows segments from a place. Only a directory has anything below it. -/
def follow (t : FileTree) : List String → List (List Char) → Except FileFault (List String)
  | place, [] => .ok place
  | place, segment :: rest =>
    if t.isDirectory place then t.follow (enter place segment) rest
    else if (t.file? place).isSome then .error .notDirectory
    else .error (absence place)

/-- The place that a path names, which need not exist. -/
def resolve (t : FileTree) (p : Path) : Except FileFault (List String) :=
  match p.fault? with
  | some fault => .error fault
  | none => t.follow (start p) (Path.segments p.body)

/-- Whether a path exists. -/
def present (t : FileTree) (p : Path) : Bool :=
  match t.resolve p with
  | .ok place => t.isDirectory place || (t.file? place).isSome
  | .error _ => false

/-- The text of a file. -/
def read (t : FileTree) (p : Path) : Except FileFault String :=
  match t.resolve p with
  | .error fault => .error fault
  | .ok place =>
    if t.isDirectory place then .error .isDirectory
    else match t.file? place with
      | some (some text) => .ok text
      | some none => .error .notText
      | none => .error (absence place)

/-- The text of a path without slashes at its end. -/
def unslashed (p : Path) : List Char :=
  (p.body.reverse.dropWhile (· == '/')).reverse

/-- Writes a file anew. A path that ends in a slash names a directory. -/
def write (t : FileTree) (p : Path) (text : String) : Except FileFault Unit × FileTree :=
  match p.fault? with
  | some fault => (.error fault, t)
  | none =>
    match t.follow (start p) (Path.segments (unslashed p)) with
    | .error fault => (.error fault, t)
    | .ok place =>
      if p.text.toList.getLast? == some '/' || t.isDirectory place then (.error .isDirectory, t)
      else if isTooLong place then (.error .nameTooLong, t)
      else (.ok (), ⟨(place, some text) :: t.files.filter fun (file, _) => file != place⟩)

/-- Answers questions about files from the tree. -/
def answers : Interaction.Answers fileInterface FileTree
  | .present p, t => (t.present p, t)
  | .read p, t => (t.read p, t)
  | .write p text, t => t.write p text

end FileTree

/-- Runs a program on a file tree. -/
def FileProgram.runOn {α : Type} (p : FileProgram α) (t : FileTree) : α × FileTree :=
  p.run FileTree.answers t

end DetectorSim
