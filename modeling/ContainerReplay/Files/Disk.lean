import ContainerReplay.Files.Path
import ContainerReplay.Text.Quoted
import ContainerReplay.Text.Utf8

/-!
# A working directory on disk

A snapshot of a directory tree as an operating system resolves paths in it: a path is walked piece
by piece from the working directory, `..` goes up, and every piece but the last must be a
directory. Nothing is known above the working directory but that directories lie there.
-/

set_option autoImplicit false

namespace ContainerReplay

/-- A file or a directory with its named entries. -/
inductive DiskNode where
  | file (content : ByteArray)
  | directory (entries : List (String × DiskNode))

/-- What the operating system refuses. -/
inductive SystemError where
  | noSuchFile
  | notDirectory
  | isDirectory
  | nameTooLong
  | nulByte
  | invalidText
  /-- Any other refusal, in the system's words. -/
  | refused (reason : String)
  deriving Repr, DecidableEq

def SystemError.message : SystemError → String
  | noSuchFile => "No such file or directory (os error 2)"
  | notDirectory => "Not a directory (os error 20)"
  | isDirectory => "Is a directory (os error 21)"
  | nameTooLong => "File name too long (os error 36)"
  | nulByte => "file name contained an unexpected NUL byte"
  | invalidText => "stream did not contain valid UTF-8"
  | refused reason => reason

namespace DiskNode

def isDirectory : DiskNode → Bool
  | file _ => false
  | directory _ => true

def isFile : DiskNode → Bool
  | file _ => true
  | directory _ => false

def child? (name : String) : DiskNode → Option DiskNode
  | file _ => none
  | directory entries =>
      match entries.find? (fun entry => entry.1 == name) with
      | some entry => some entry.2
      | none => none

def putEntry (name : String) (node : DiskNode) :
    List (String × DiskNode) → List (String × DiskNode)
  | [] => [(name, node)]
  | (other, existing) :: rest =>
      if other = name then (name, node) :: rest else (other, existing) :: putEntry name node rest

/-- The directory with one entry set; a file is unchanged. -/
def put (place : DiskNode) (name : String) (node : DiskNode) : DiskNode :=
  match place with
  | file content => file content
  | directory entries => directory (putEntry name node entries)

def content : DiskNode → Except SystemError ByteArray
  | file content => .ok content
  | directory _ => .error .isDirectory

def text (node : DiskNode) : Except SystemError String :=
  match node.content with
  | .error error => .error error
  | .ok content => (Text.decodeUtf8 content).mapError fun _ => .invalidText

def descend? (node : DiskNode) : List String → Option DiskNode
  | [] => some node
  | name :: rest =>
      match node.child? name with
      | none => none
      | some child => child.descend? rest

def file? (node : DiskNode) (path : Path) : Option ByteArray :=
  match node.descend? path.segments with
  | some (file content) => some content
  | some (directory _) => none
  | none => none

end DiskNode

/-- Where a walk stands: the current node, and the named steps that led to it, latest first. -/
structure DiskPlace where
  node : DiskNode
  above : List (String × DiskNode)

/-- A working directory. -/
structure Disk where
  workingDirectory : DiskNode := .directory []

namespace Disk

/-- The bytes that the name of an entry may have. -/
def nameLimit : Nat := 255

/-- The bytes that a path text may have. -/
def pathLimit : Nat := 4095

def step (place : DiskPlace) (piece : String) : Except SystemError DiskPlace :=
  -- even the empty piece behind a trailing separator needs a directory to stand in
  if place.node.isDirectory = false then .error .notDirectory
  else if piece = "" ∨ piece = "." then .ok place
  else if piece = ".." then
    match place.above with
    -- nothing is known above the top, and so it is an empty directory
    | [] => .ok ⟨.directory [], []⟩
    | (_, parent) :: above => .ok ⟨parent, above⟩
  else if nameLimit < piece.utf8ByteSize then .error .nameTooLong
  else
    match place.node.child? piece with
    | none => .error .noSuchFile
    | some node => .ok ⟨node, (piece, place.node) :: place.above⟩

def walk (place : DiskPlace) : List String → Except SystemError DiskPlace
  | [] => .ok place
  | piece :: rest =>
      match step place piece with
      | .error error => .error error
      | .ok next => walk next rest

def start (disk : Disk) (isAbsolute : Bool) : DiskPlace :=
  if isAbsolute then ⟨.directory [], []⟩ else ⟨disk.workingDirectory, []⟩

def pieces (text : String) : List String :=
  (Text.splitAt '/' text.toList).map String.ofList

def unspellable? (text : String) : Option SystemError :=
  if text = "" then some .noSuchFile
  else if '\x00' ∈ text.toList then some .nulByte
  else if pathLimit < text.utf8ByteSize then some .nameTooLong
  else none

def node (disk : Disk) (text : String) : Except SystemError DiskNode :=
  match unspellable? text with
  | some error => .error error
  | none =>
      match walk (disk.start (Path.ofString text).isAbsolute) (pieces text) with
      | .error error => .error error
      | .ok place => .ok place.node

def pathExists (disk : Disk) (text : String) : Bool :=
  match disk.node text with
  | .ok _ => true
  | .error _ => false

def isDirectory (disk : Disk) (text : String) : Bool :=
  match disk.node text with
  | .ok node => node.isDirectory
  | .error _ => false

def isFile (disk : Disk) (text : String) : Bool :=
  match disk.node text with
  | .ok node => node.isFile
  | .error _ => false

def read (disk : Disk) (text : String) : Except SystemError ByteArray :=
  match disk.node text with
  | .error error => .error error
  | .ok node => node.content

def rebuilt (node : DiskNode) : List (String × DiskNode) → DiskNode
  | [] => node
  | (name, parent) :: above => rebuilt (parent.put name node) above

/-- The pieces of a path text without the empty ones after a trailing separator. -/
def namedPieces (text : String) : List String :=
  ((pieces text).reverse.dropWhile (· = "")).reverse

def spellsDirectory (text : String) : Bool :=
  match (pieces text).getLast? with
  | some piece => piece = "" ∨ piece = "." ∨ piece = ".."
  | none => true

/-- Writes a file: in place of the one that stands at the path, else as a new entry of the directory
above it, which must be there. -/
def write (disk : Disk) (text : String) (content : ByteArray) : Except SystemError Disk :=
  match unspellable? text, (namedPieces text).getLast? with
  | some error, _ => .error error
  | none, none => .error .isDirectory
  | none, some last =>
      match walk (disk.start (Path.ofString text).isAbsolute) (namedPieces text).dropLast with
      | .error error => .error error
      | .ok place =>
          match place.node with
          | .file _ => .error .notDirectory
          | .directory _ =>
              -- the directory above was walked to first, so that its errors come first
              if spellsDirectory text then .error .isDirectory
              else if nameLimit < last.utf8ByteSize then .error .nameTooLong
              else
                match place.node.child? last with
                | some (.directory _) => .error .isDirectory
                | _ => .ok ⟨rebuilt (place.node.put last (.file content)) place.above⟩

/-- The tree with a directory at a path, and the directories above it. -/
def withDirectory (node : DiskNode) : List String → DiskNode
  | [] => node
  | name :: rest =>
      match node.child? name with
      | some child => node.put name (withDirectory child rest)
      | none => node.put name (withDirectory (.directory []) rest)

/-- The tree with a file at a path, and the directories above it. -/
def withFile (content : ByteArray) (node : DiskNode) : List String → DiskNode
  | [] => node
  | [name] => node.put name (.file content)
  | name :: rest =>
      match node.child? name with
      | some child => node.put name (withFile content child rest)
      | none => node.put name (withFile content (.directory []) rest)

def addDirectory (disk : Disk) (text : String) : Disk :=
  ⟨withDirectory disk.workingDirectory (Path.ofString text).segments⟩

def addFile (disk : Disk) (text : String) (content : ByteArray) : Disk :=
  ⟨withFile content disk.workingDirectory (Path.ofString text).segments⟩

end Disk

end ContainerReplay
