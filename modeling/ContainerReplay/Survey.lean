import ContainerReplay.Application
import ContainerReplay.Classes.Index
import ContainerReplay.Detection.Error
import ContainerReplay.Files.Loader

/-!
# Surveys

What has been found out so far about an application, together with the remarks made on the way, and
the sites that are surveyed: the classes and resources of one application.
-/

set_option autoImplicit false

namespace ContainerReplay

/-- What a run may look at. -/
structure Site where
  classes : ClassIndex
  loader : Loader

/-- An application as far as it is known, and the diagnostics so far. -/
structure Survey where
  app : Application := {}
  diagnostics : List Diagnostic := []
  deriving DecidableEq

namespace Survey

def record (survey : Survey) (severity : Severity) (message : String)
    (resource : Option String) : Survey :=
  { survey with diagnostics := survey.diagnostics ++ [⟨severity, message, resource⟩] }

def report (survey : Survey) (error : DetectionError) : Survey :=
  { survey with diagnostics := survey.diagnostics ++ [error.diagnostic] }

def update (survey : Survey) (change : Application → Application) : Survey :=
  { survey with app := change survey.app }

def conflictMessage (className : String) (kept rejected : Kind) : String :=
  s!"{className} is already registered as {kept.name}, ignoring its {rejected.name} declaration"

/-- Registers a component and warns when its kind is unrelated to the one on record. -/
def register (survey : Survey) (component : Component) : Survey :=
  let registered := survey.update fun app => app.register component
  -- judged by the component on record before the registration
  match survey.app.outcome component with
  | .conflict kept rejected =>
      registered.record .warn (conflictMessage component.className kept rejected)
        (some component.className)
  | .inserted => registered
  | .enriched => registered
  | .upgraded _ _ => registered

end Survey

end ContainerReplay
