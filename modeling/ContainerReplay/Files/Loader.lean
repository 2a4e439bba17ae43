import ContainerReplay.Detection.Error
import ContainerReplay.Files.Path

/-!
# Resource loaders

Logical paths are the ones that descriptors hold.  A loader serves them from below its root: leading
slashes do not escape it, and a path with a `..` segment names nothing.
-/

set_option autoImplicit false

namespace ContainerReplay

/-- Where the resources of an application come from. -/
inductive Loader where
  /-- The files below a directory, up to an optional size. -/
  | directory (files : Path → Option ByteArray) (root : String) (limit : Option Nat)
  /-- The first of several loaders that has the resource. -/
  | classpath (entries : List Loader)

namespace Loader

/-- The segments below the root that a logical path stands for. -/
def logicalSegments? (path : String) : Option (List String) :=
  let relative := Path.ofString
    (String.ofList (Text.dropLeading '/' (Text.trimmed path.toList)))
  -- refused wherever it stands, also where it would not lead out of the root
  if ".." ∈ relative.segments then none
  else some (relative.segments.filter (· ≠ "."))

def resolve? (root path : String) : Option Path :=
  match logicalSegments? path with
  | none => none
  | some segments => some ((Path.ofString root).join ⟨false, segments⟩)

def content? (files : Path → Option ByteArray) (root path : String) : Option ByteArray :=
  match resolve? root path with
  | none => none
  | some resolved => files resolved

def readFrom (files : Path → Option ByteArray) (root : String) (limit : Option Nat)
    (path : String) : Except DetectionError ByteArray :=
  match content? files root path with
  | none => .error (.notFound path)
  | some content =>
      match limit with
      | none => .ok content
      | some limit =>
          if content.size ≤ limit then .ok content
          else .error (.unreadable path s!"{content.size} bytes exceeds limit of {limit} bytes")

mutual

def hasResource : Loader → String → Bool
  | directory files root _, path => (content? files root path).isSome
  | classpath entries, path => anyHasResource entries path

def anyHasResource : List Loader → String → Bool
  | [], _ => false
  | entry :: rest, path => entry.hasResource path || anyHasResource rest path

end

mutual

def read : Loader → String → Except DetectionError ByteArray
  | directory files root limit, path => readFrom files root limit path
  | classpath entries, path => readFirst entries path

/-- Reads from the first loader that has the resource. -/
def readFirst : List Loader → String → Except DetectionError ByteArray
  | [], path => .error (.notFound path)
  | entry :: rest, path =>
      -- a resource that is too large is not looked for further on
      if entry.hasResource path then entry.read path else readFirst rest path

end

mutual

def describe : Loader → String
  | directory _ root _ => root
  | classpath entries => "classpath[" ++ ", ".intercalate (describeAll entries) ++ "]"

def describeAll : List Loader → List String
  | [] => []
  | entry :: rest => entry.describe :: describeAll rest

end

def inspect (loader : Loader) : String :=
  s!"ResourceLoader({loader.describe})"

/-- The lookup order of an exploded web application: the document root, then `WEB-INF/classes`. -/
def forWebapp (files : Path → Option ByteArray) (root : String) (limit : Option Nat) : Loader :=
  classpath
    [directory files root limit,
      directory files (Path.joinText (Path.joinText root "WEB-INF") "classes") limit]

end Loader

end ContainerReplay
