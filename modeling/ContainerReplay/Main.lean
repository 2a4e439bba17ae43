import ContainerReplay.CommandLine.Run

/-!
# The program

Looks at the environment and the named paths, runs the command that the arguments ask for, and
prints its outcome.
-/

set_option autoImplicit false

namespace ContainerReplay.CommandLine

def usage : String :=
  "Usage: container-replay [OPTIONS] synth PATH [-c FILE] [-f FORMAT] [-o FILE] [-d NAMES]\n" ++
    "           [--driver-class CLASS] [--strict-check-files] [--fail-on-error]\n" ++
    "       container-replay [OPTIONS] detectors [-f FORMAT]\n" ++
    "Options: [-v | -q] [--log-level LEVEL]\n"

def Refusal.message : Refusal → String
  | helpAsked => usage
  | versionAsked => "container-replay 0.1.0\n"
  | nothingGiven => usage
  | missingCommand => "error: a command is required\n"
  | missingPath => "error: a path is required\n"
  | unknownCommand => "error: there is no such command\n"
  | unknownOption => "error: there is no such option\n"
  | unwantedValue => "error: the option takes no value\n"
  | invalidValue => "error: a value is missing or is not one of those allowed\n"
  | conflict => "error: options exclude each other, or one is repeated\n"

def systemError (error : IO.Error) : SystemError :=
  match error with
  | .noFileOrDirectory _ _ _ => .noSuchFile
  | .inappropriateType _ code _ => if code = 21 ∨ code = -21 then .isDirectory else .notDirectory
  | .invalidArgument _ 36 _ => .nameTooLong
  | other => .refused (toString other)

/-- What stands at the root of a listing; directories are entered up to a depth. -/
def readNode : Nat → IO.FS.DirEntry → IO DiskNode
  | 0, _ => return .directory []
  | depth + 1, place => do
      if ← place.root.isDir then
        let children ← place.root.readDir
        let nodes ← children.toList.mapM fun child => do
          return (child.fileName, ← readNode depth ⟨child.path, child.fileName⟩)
        return .directory nodes
      else return .file (← IO.FS.readBinFile place.root)

/-- The deepest nesting of directories that is entered. -/
def depthLimit : Nat := 64

def lookAt (path : String) : IO (Except SystemError DiskNode) := do
  try
    return .ok (← readNode depthLimit ⟨path, path⟩)
  catch error => return .error (systemError error)

def readEnvironment : IO Environment := do
  let names := [Settings.detectorsVariable, Settings.maxResourceSizeVariable,
    Settings.strictCheckFilesVariable]
  let values ← names.mapM fun name => do return (name, ← IO.getEnv name)
  return fun name => (values.lookup name).getD none

def surroundings (options : SynthOptions) : IO Surroundings := do
  let webapp ← lookAt options.webapp
  let classes ← match options.classes with
    | none => pure (.error .noSuchFile)
    | some path => lookAt path
  let environment ← readEnvironment
  return ⟨environment, fun path => if path = options.webapp then webapp else classes⟩

def writeReport (options : SynthOptions) (entry : EntryPoint) : IO (Option Outcome) := do
  match options.output with
  | none => return none
  | some path =>
      try
        IO.FS.writeFile path (entry.report options.format)
        return none
      catch error => return some (SynthOptions.unwritten path (systemError error))

def synthesize (options : SynthOptions) (quiet : Bool) : IO Outcome := do
  match options.entryPoint (← surroundings options) with
  | .error reason => return .failure reason
  | .ok entry =>
      match ← writeReport options entry with
      | some failed => return failed
      | none => return options.outcome quiet entry

def perform (invocation : Invocation) : IO Outcome :=
  match invocation.command with
  | .synth options => synthesize options invocation.quiet
  | .detectors format => return listDetectors format

def finish (outcome : Outcome) : IO UInt32 := do
  IO.print outcome.stdout
  IO.eprint outcome.stderr
  return outcome.exit.toUInt32

def runArguments (arguments : List String) : IO UInt32 := do
  match Invocation.ofArguments arguments with
  | .ok invocation => finish (← perform invocation)
  | .error refusal =>
      if refusal.exit = 0 then finish { stdout := refusal.message }
      else finish { exit := refusal.exit, stderr := refusal.message }

end ContainerReplay.CommandLine

def main (arguments : List String) : IO UInt32 :=
  ContainerReplay.CommandLine.runArguments arguments
