import ContainerReplay.Component.Kind
import ContainerReplay.Diagnostic

/-!
# What can go wrong in a run

A detection error concerns one resource or class and is recoverable: it becomes a diagnostic and the
run goes on.  A contract error says that a set of detectors cannot yield a sound driver, before any
input is read.
-/

set_option autoImplicit false

namespace ContainerReplay

/-- A recoverable failure while an application is detected or its driver is written. -/
inductive DetectionError where
  | notFound (path : String)
  | unreadable (path message : String)
  | malformed (resource message : String)
  /-- The detector has no way to recognize components in this pass. -/
  | unrecognized (detector reason : String)
  | unresolvedClass (className referrer : String)
  | missingTemplate (kind : Kind) (className : String)
  deriving Repr, DecidableEq

namespace DetectionError

def message : DetectionError → String
  | notFound path => s!"Resource not found: {path}"
  | unreadable path message => s!"Failed to read resource {path}: {message}"
  | malformed resource message => s!"Failed to parse {resource}: {message}"
  | unrecognized detector reason =>
      s!"Detector '{detector}' cannot recognize components here: {reason}"
  | unresolvedClass className referrer =>
      s!"Class {className} referenced by {referrer} cannot be loaded"
  | missingTemplate kind className =>
      s!"No template registered for {kind.name} component {className}"

def severity : DetectionError → Severity
  | unrecognized _ _ => .info
  | unresolvedClass _ _ => .warn
  | missingTemplate _ _ => .warn
  | notFound _ => .error
  | unreadable _ _ => .error
  | malformed _ _ => .error

def resource? : DetectionError → Option String
  | notFound path => some path
  | unreadable path _ => some path
  | malformed resource _ => some resource
  | unrecognized _ _ => none
  | unresolvedClass className _ => some className
  | missingTemplate _ className => some className

def diagnostic (error : DetectionError) : Diagnostic :=
  ⟨error.severity, error.message, error.resource?⟩

end DetectionError

/-- Why a set of detectors cannot yield a sound driver. -/
inductive ContractError where
  | uncoveredExtension (detector : String) (kind : Kind)
  | unknownTemplate (detector template : String)
  | undeclaredTemplateKind (detector template : String) (kind : Kind)
  | duplicateTemplate (kind : Kind) (first second : String)
  | unknownDetector (name : String)
  deriving Repr, DecidableEq

def ContractError.message : ContractError → String
  | uncoveredExtension detector kind =>
      s!"Detector '{detector}' declares model extension {kind.name} " ++
        "but contributes no template for it"
  | unknownTemplate detector template =>
      s!"Detector '{detector}' references unknown template '{template}'"
  | undeclaredTemplateKind detector template kind =>
      s!"Template '{template}' for {kind.name} is contributed by a detector " ++
        s!"that does not declare {kind.name} as an extension ('{detector}')"
  | duplicateTemplate kind first second =>
      s!"Component kind {kind.name} is claimed by both '{first}' and '{second}'"
  | unknownDetector name => s!"Unknown detector '{name}'"

end ContainerReplay
