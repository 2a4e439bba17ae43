import ContainerReplay.Files.Disk
import ContainerReplay.Files.Tree

/-!
# Access to files

What can be asked about files, wherever they are: in a tree in memory or on disk.  Each of the two
has its own words for a refusal.
-/

set_option autoImplicit false

namespace ContainerReplay

/-- Why a file cannot be looked at. -/
inductive AccessError where
  | tree (error : FileError)
  | notText (fault : Text.Utf8Fault)
  | metadata (path : String) (cause : SystemError)
  | unreadable (path : String) (cause : SystemError)
  deriving Repr, DecidableEq

def AccessError.message : AccessError → String
  | tree error => error.message
  | notText fault => fault.message
  | metadata path cause => s!"Failed to get metadata for {Text.quoted path}: {cause.message}"
  | unreadable path cause => s!"Failed to read file {Text.quoted path}: {cause.message}"

/-- What can be asked about files. -/
structure FileAccess where
  pathExists : String → Bool
  isDirectory : String → Bool
  isFile : String → Bool
  metadata : String → Except AccessError FileEntry
  read : String → Except AccessError ByteArray

def FileAccess.readText (files : FileAccess) (path : String) : Except AccessError String :=
  match files.read path with
  | .error error => .error error
  | .ok content => (Text.decodeUtf8 content).mapError .notText

def FileTree.access (tree : FileTree) : FileAccess where
  pathExists := tree.fileExists
  isDirectory := tree.isDirectory
  isFile := tree.isFile
  metadata := fun path => (tree.metadata path).mapError .tree
  read := fun path => (tree.read path).mapError .tree

def DiskNode.entry : DiskNode → FileEntry
  | file content => .file content
  | directory _ => .directory

def Disk.access (disk : Disk) : FileAccess where
  pathExists := disk.pathExists
  isDirectory := disk.isDirectory
  isFile := disk.isFile
  metadata := fun path =>
    match disk.node path with
    | .ok node => .ok node.entry
    | .error cause => .error (.metadata path cause)
  read := fun path => (disk.read path).mapError (.unreadable path)

end ContainerReplay
