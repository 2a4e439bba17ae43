import ContainerReplay.CommandLine.Invocation
import ContainerReplay.Files.Disk
import ContainerReplay.Interchange.Reading

/-!
# Running a command

What a command prints and how it ends.  Everything it reads is given beforehand: the environment,
and what stands at the paths that it names.
-/

set_option autoImplicit false

namespace ContainerReplay.CommandLine

/-- What a command leaves behind for its caller. -/
structure Outcome where
  exit : Nat := 0
  stdout : String := ""
  stderr : String := ""
  deriving Repr, DecidableEq

/-- What a command finds around it. -/
structure Surroundings where
  environment : Environment
  /-- What stands at a path. -/
  node : String → Except SystemError DiskNode

def Outcome.failure (reason : String) : Outcome :=
  { exit := 1, stderr := s!"Error: {reason}\n" }

/-- The class index at a path; without a path no class is known. -/
def readClasses (around : Surroundings) (path : Option String) : Except String ClassIndex :=
  match path with
  | none => .ok .empty
  | some path =>
      match (around.node path).bind DiskNode.text with
      | .error error => .error s!"Failed to read class index {path}: {error.message}"
      | .ok content =>
          (ClassIndex.ofText content).mapError fun fault =>
            s!"Invalid class index {path}: {fault.message}"

namespace SynthOptions

/-- The settings of a run: those of the environment, and options that go before them. -/
def settings (options : SynthOptions) (environment : Environment) :
    Except SettingsError Settings :=
  match Settings.ofEnvironment environment with
  | .error error => .error error
  | .ok settings =>
      let named := match options.detectors with
        | none => settings
        | some listed => settings.withDetectors listed
      -- an option can only make the run stricter than the environment asks for
      .ok { named with strictCheckFiles := named.strictCheckFiles || options.strictCheckFiles }

def directory? (options : SynthOptions) (around : Surroundings) : Option DiskNode :=
  match around.node options.webapp with
  | .error _ => none
  | .ok node => if node.isDirectory then some node else none

def site (options : SynthOptions) (around : Surroundings) (limit : Nat) : Except String Site :=
  match options.directory? around with
  | none => .error s!"{options.webapp} is not a directory"
  | some node =>
      match readClasses around options.classes with
      | .error reason => .error reason
      | .ok classes => .ok ⟨classes, Loader.forWebapp node.file? "" (some limit)⟩

def entryPoint (options : SynthOptions) (around : Surroundings) : Except String EntryPoint :=
  match options.settings around.environment with
  | .error error => .error s!"Invalid WEBENTRY_* environment: {error.message}"
  | .ok settings =>
      match Creator.ofSettings settings with
      | .error error => .error error.message
      | .ok creator =>
          match options.site around settings.maxResourceSize with
          | .error reason => .error reason
          | .ok site =>
              let named := match options.driverClass with
                | none => creator
                | some driverClass => { creator with driverClass := driverClass }
              .ok (named.create site)

/-- The outcome once the report is printed or written; diagnostics go with text for people only. -/
def outcome (options : SynthOptions) (quiet : Bool) (entry : EntryPoint) : Outcome where
  exit := if options.failOnError && Diagnostic.hasErrors entry.diagnostics then 2 else 0
  stdout := if options.output.isSome then "" else entry.report options.format
  stderr :=
    if quiet || options.format ≠ .text then "" else Diagnostic.report entry.diagnostics

def unwritten (path : String) (error : SystemError) : Outcome :=
  .failure s!"Failed to write {path}: {error.message}"

def run (options : SynthOptions) (quiet : Bool) (environment : Environment) (disk : Disk) :
    Outcome × Disk :=
  match options.entryPoint ⟨environment, disk.node⟩ with
  | .error reason => (.failure reason, disk)
  | .ok entry =>
      match options.output with
      | none => (options.outcome quiet entry, disk)
      | some path =>
          match disk.write path (entry.report options.format).toUTF8 with
          | .error error => (unwritten path error, disk)
          | .ok written => (options.outcome quiet entry, written)

end SynthOptions

def listDetectors (format : ReportFormat) : Outcome :=
  { stdout := DetectorInfo.report (Registry.builtin.detectors.map Detector.info) format }

def Invocation.run (invocation : Invocation) (environment : Environment) (disk : Disk) :
    Outcome × Disk :=
  match invocation.command with
  | .synth options => options.run invocation.quiet environment disk
  | .detectors format => (listDetectors format, disk)

end ContainerReplay.CommandLine
