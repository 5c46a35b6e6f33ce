/-!
Paths as texts. Components are separated by slashes; empty components and dots
between slashes name nothing, and a path starting with a slash is absolute.
-/

namespace DetectorSim

/-- A path, kept as it was written. -/
structure Path where
  text : String
  deriving DecidableEq, Repr, Inhabited

namespace Path

/-- Splits at every slash. -/
def segments : List Char → List (List Char)
  | [] => [[]]
  | c :: rest =>
    if c = '/' then [] :: segments rest
    else match segments rest with
      | [] => [[c]]
      | first :: more => (c :: first) :: more

/-- Whether the path starts at the root. -/
def isAbsolute (p : Path) : Bool :=
  p.text.toList.head? == some '/'

/-- The part after the leading slash of an absolute path, or the whole of a relative one. -/
def body (p : Path) : List Char :=
  if p.isAbsolute then p.text.toList.drop 1 else p.text.toList

/-- A segment that names nothing. A dot names the current directory only at the start of a
relative path. -/
def isVoid (atStart : Bool) (segment : List Char) : Bool :=
  segment.isEmpty || (segment == ['.'] && !atStart)

/-- Drops segments that name nothing from the end of a reversed list of segments. -/
def dropVoid (absolute : Bool) : List (List Char) → List (List Char)
  | [] => []
  | [first] => if isVoid (!absolute) first then [] else [first]
  | last :: before => if isVoid false last then dropVoid absolute before else last :: before

/-- The path without its last component; a path without components has no parent. -/
def parent (p : Path) : Option Path :=
  match dropVoid p.isAbsolute (segments p.body).reverse with
  | [] => none
  | _ :: before =>
    let kept := (dropVoid p.isAbsolute before).reverse.map String.ofList
    some ⟨(if p.isAbsolute then "/" else "") ++ "/".intercalate kept⟩

/-- A path below a directory; an absolute path stays as it is. -/
def join (directory path : Path) : Path :=
  if path.isAbsolute then path
  else if directory.text.isEmpty || directory.text.toList.getLast? == some '/' then
    ⟨directory.text ++ path.text⟩
  else ⟨directory.text ++ "/" ++ path.text⟩

end Path

end DetectorSim
