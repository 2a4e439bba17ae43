import ContainerReplay.Text.Blank

/-!
# File paths

A path compares by its segments: repeated separators, trailing separators and inner `.` segments do
not count, a leading `.` of a relative path does, and `..` is kept as it is.
-/

set_option autoImplicit false

namespace ContainerReplay

/-- A path as a list of segments. -/
structure Path where
  isAbsolute : Bool
  segments : List String
  deriving Repr, DecidableEq

namespace Path

/-- The segments that count, after the first one. -/
def significant (pieces : List (List Char)) : List String :=
  (pieces.filter fun piece => piece ≠ [] ∧ piece ≠ ['.']).map String.ofList

def ofString (text : String) : Path :=
  match Text.splitAt '/' text.toList with
  | [] => ⟨false, []⟩
  | [[]] => ⟨false, []⟩
  | [] :: pieces => ⟨true, significant pieces⟩
  -- only in front does the current directory count as a segment
  | ['.'] :: pieces => ⟨false, "." :: significant pieces⟩
  | pieces => ⟨false, significant pieces⟩

/-- A path below another one; an absolute path stands alone. -/
def join (base path : Path) : Path :=
  if path.isAbsolute then path
  else if base.isAbsolute = false ∧ base.segments = [] then path
  else ⟨base.isAbsolute, base.segments ++ path.segments.filter (· ≠ ".")⟩

def joinText (base relative : String) : String :=
  match base.toList.getLast? with
  | none => relative
  | some '/' => base ++ relative
  | some _ => base ++ "/" ++ relative

/-- The nonempty initial parts of a list of segments, shortest first. -/
def initialParts : List String → List (List String)
  | [] => []
  | segment :: rest => [segment] :: (initialParts rest).map (segment :: ·)

/-- The paths of the directories above a path, outermost first. -/
def ancestors (path : Path) : List Path :=
  match path.segments.dropLast, path.segments with
  | _, [] => []
  | above, _ =>
      let top := if path.isAbsolute then [Path.mk true []] else []
      top ++ (initialParts above).map (Path.mk path.isAbsolute)

end Path

end ContainerReplay
