import ContainerReplay.Settings

/-!
# Logging settings

How much a run logs and in which form.  Values that make no sense count as unset.
-/

set_option autoImplicit false

namespace ContainerReplay

inductive LogLevel where
  | trace
  | debug
  | info
  | warn
  | error
  deriving Repr, DecidableEq

namespace LogLevel

def key : LogLevel → String
  | trace => "trace"
  | debug => "debug"
  | info => "info"
  | warn => "warn"
  | error => "error"

def name : LogLevel → String
  | trace => "TRACE"
  | debug => "DEBUG"
  | info => "INFO"
  | warn => "WARN"
  | error => "ERROR"

/-- The level that a text names, in any letter case and with blanks around it. -/
def ofText? (text : String) : Option LogLevel :=
  match Text.lowerAscii (Text.trim text) with
  | "trace" => some trace
  | "debug" => some debug
  | "info" => some info
  | "warn" => some warn
  | "warning" => some warn
  | "error" => some error
  | _ => none

end LogLevel

structure LogSettings where
  level : LogLevel := .warn
  /-- One object to a line in place of text. -/
  useJson : Bool := false
  includeTarget : Bool := false
  includeLocation : Bool := false
  deriving Repr, DecidableEq

namespace LogSettings

def levelVariable : String := "WEBENTRY_LOG_LEVEL"

def jsonVariable : String := "WEBENTRY_LOG_JSON"

def levelOf (environment : Environment) : LogLevel :=
  match environment levelVariable with
  | none => .warn
  | some text =>
      match LogLevel.ofText? text with
      | none => .warn
      | some level => level

/-- Whether the environment asks for objects; only exact words count. -/
def jsonOf (environment : Environment) : Bool :=
  match environment jsonVariable with
  | none => false
  | some text =>
      match Text.readBool text with
      | .ok value => value
      | .error _ => false

def ofEnvironment (environment : Environment) : LogSettings :=
  let useJson := jsonOf environment
  { level := levelOf environment, useJson := useJson, includeTarget := useJson }

/-- What is let through: the program's own events from a level on, and errors of all others. -/
def filter (settings : LogSettings) : String :=
  s!"webentry={settings.level.key},error"

end LogSettings

end ContainerReplay
