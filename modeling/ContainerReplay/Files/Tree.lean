import ContainerReplay.Files.Path
import ContainerReplay.Text.Quoted

/-!
# File trees in memory

A tree of files and directories below a root.  Relative paths land under the root, and adding a file
also adds the directories above it.
-/

set_option autoImplicit false

namespace ContainerReplay

inductive FileEntry where
  | file (content : ByteArray)
  | directory

namespace FileEntry

def isFile : FileEntry → Bool
  | file _ => true
  | directory => false

def isDirectory : FileEntry → Bool
  | file _ => false
  | directory => true

def size : FileEntry → Nat
  | file content => content.size
  | directory => 0

end FileEntry

/-- Why a tree cannot answer; each cause holds the path as it was given. -/
inductive FileError where
  | noEntry (path : String)
  | noFile (path : String)
  | notFile (path : String)
  deriving Repr, DecidableEq

def FileError.message : FileError → String
  | noEntry path => s!"Path not found: {Text.quoted path}"
  | noFile path => s!"File not found: {Text.quoted path}"
  | notFile path => s!"Not a file: {Text.quoted path}"

/-- Files and directories by path, below a root. -/
structure FileTree where
  root : String
  entries : List (Path × FileEntry) := []

namespace FileTree

def locate (tree : FileTree) (path : Path) : Path :=
  (Path.ofString tree.root).join path

def entryAt? (entries : List (Path × FileEntry)) (path : Path) : Option FileEntry :=
  match entries.find? (fun entry => entry.1 = path) with
  | none => none
  | some entry => some entry.2

/-- Puts an entry in place of the one at its path, else at the end. -/
def putEntry (path : Path) (entry : FileEntry) :
    List (Path × FileEntry) → List (Path × FileEntry)
  | [] => [(path, entry)]
  | (other, existing) :: rest =>
      if other = path then (path, entry) :: rest
      else (other, existing) :: putEntry path entry rest

def ensureDirectory (entries : List (Path × FileEntry)) (path : Path) : List (Path × FileEntry) :=
  match entryAt? entries path with
  | some _ => entries
  | none => entries ++ [(path, .directory)]

/-- Adds a file, in place of whatever stood there, and the directories above it. -/
def add (tree : FileTree) (path : String) (content : ByteArray) : FileTree :=
  let place := tree.locate (Path.ofString path)
  let entries := place.ancestors.foldl ensureDirectory tree.entries
  { tree with entries := putEntry place (.file content) entries }

def entry? (tree : FileTree) (path : Path) : Option FileEntry :=
  entryAt? tree.entries (tree.locate path)

def file? (tree : FileTree) (path : Path) : Option ByteArray :=
  match tree.entry? path with
  | some (.file content) => some content
  | some .directory => none
  | none => none

def fileExists (tree : FileTree) (path : String) : Bool :=
  (tree.entry? (Path.ofString path)).isSome

def isDirectory (tree : FileTree) (path : String) : Bool :=
  (tree.entry? (Path.ofString path)).any FileEntry.isDirectory

def isFile (tree : FileTree) (path : String) : Bool :=
  (tree.entry? (Path.ofString path)).any FileEntry.isFile

def metadata (tree : FileTree) (path : String) : Except FileError FileEntry :=
  match tree.entry? (Path.ofString path) with
  | some entry => .ok entry
  | none => .error (.noEntry path)

def read (tree : FileTree) (path : String) : Except FileError ByteArray :=
  match tree.entry? (Path.ofString path) with
  | some (.file content) => .ok content
  | some .directory => .error (.notFile path)
  | none => .error (.noFile path)

end FileTree

end ContainerReplay
