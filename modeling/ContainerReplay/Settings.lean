import ContainerReplay.Detection.Registry
import ContainerReplay.Text.Numeral

/-!
# Settings of a run

Settings come from environment variables, and a variable that is not set keeps its default.  They
are valid if the size limit is sensible and every detector that they name is built in.
-/

set_option autoImplicit false

namespace ContainerReplay

/-- The value of each environment variable that is set. -/
abbrev Environment := String → Option String

structure Settings where
  /-- The detectors to run; none means all. -/
  detectors : List String := []
  /-- The size in bytes of the largest descriptor that is read. -/
  maxResourceSize : Nat := 8388608
  /-- Whether a detector without its check files has no source pass either. -/
  strictCheckFiles : Bool := false
  deriving Repr, DecidableEq

/-- Why settings cannot be used. -/
inductive SettingsError where
  | unknownDetector (name : String) (available : List String)
  | noSize
  | excessiveSize
  | unreadable (variableName : String) (cause : Text.NumeralError)
  | unsound (cause : ContractError)
  deriving Repr, DecidableEq

def SettingsError.message : SettingsError → String
  | unknownDetector name available =>
      let names := ", ".intercalate available
      s!"Unknown detector '{name}'. Available: {names}"
  | noSize => "Configuration validation failed: Max resource size must be at least 1 byte"
  | excessiveSize => "Configuration validation failed: Max resource size cannot exceed 256MB"
  | unreadable variableName cause => s!"Failed to parse {variableName}: {cause.message}"
  | unsound cause => s!"Configuration validation failed: {cause.message}"

namespace Settings

def detectorsVariable : String := "WEBENTRY_DETECTORS"

def maxResourceSizeVariable : String := "WEBENTRY_MAX_RESOURCE_SIZE"

def strictCheckFilesVariable : String := "WEBENTRY_STRICT_CHECK_FILES"

/-- The largest size that a setting may allow, in bytes. -/
def sizeBound : Nat := 268435456

def withDetectors (settings : Settings) (listed : String) : Settings :=
  { settings with detectors := Text.listItems listed }

def readVariable {α : Type} (environment : Environment) (variableName : String) (default : α)
    (read : String → Except Text.NumeralError α) : Except SettingsError α :=
  match environment variableName with
  | none => .ok default
  | some text => (read (Text.trim text)).mapError (.unreadable variableName)

/-- Reads all variables; the first that cannot be read is the error. -/
def ofEnvironment (environment : Environment) : Except SettingsError Settings :=
  let defaults : Settings := {}
  let named := match environment detectorsVariable with
    | none => defaults
    | some listed => defaults.withDetectors listed
  match readVariable environment maxResourceSizeVariable named.maxResourceSize
      (Text.readNat Text.maxUInt64) with
  | .error error => .error error
  | .ok size =>
      match readVariable environment strictCheckFilesVariable named.strictCheckFiles
          Text.readBool with
      | .error error => .error error
      | .ok strict => .ok { named with maxResourceSize := size, strictCheckFiles := strict }

def validate (settings : Settings) : Except SettingsError Unit :=
  if settings.maxResourceSize = 0 then .error .noSize
  else if sizeBound < settings.maxResourceSize then .error .excessiveSize
  else
    match Registry.builtin.unknown? settings.detectors with
    | some name => .error (.unknownDetector name Registry.builtin.names)
    | none => .ok ()

def selectionError : ContractError → SettingsError
  | .unknownDetector name => .unknownDetector name Registry.builtin.names
  | other => .unsound other

def registry (settings : Settings) : Except SettingsError Registry :=
  match settings.detectors with
  | [] => .ok Registry.builtin
  | names => (Registry.builtin.select names).mapError selectionError

def listing (settings : Settings) : String :=
  let names := match settings.detectors with
    | [] => "all"
    | detectors => ", ".intercalate detectors
  s!"Webentry Configuration:\n  Detectors: {names}\n" ++
    s!"  Max Resource Size: {settings.maxResourceSize} bytes\n" ++
    s!"  Strict Check Files: {settings.strictCheckFiles}\n"

end Settings

end ContainerReplay
