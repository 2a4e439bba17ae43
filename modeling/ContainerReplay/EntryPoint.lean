import ContainerReplay.Detection.Chain
import ContainerReplay.Settings

/-!
# Entry points

Detection and then synthesis in one step.  Whether the detectors and the templates fit together is
settled before any application is looked at.
-/

set_option autoImplicit false

namespace ContainerReplay

/-- What one run yields. -/
structure EntryPoint where
  app : Application
  driver : Driver
  diagnostics : List Diagnostic
  deriving DecidableEq

/-- Detectors with the templates that go with them. -/
structure Creator where
  registry : Registry
  templates : TemplateSet
  strict : Bool := false
  driverClass : String := Driver.defaultClass

inductive SetupError where
  | settings (error : SettingsError)
  | contract (error : ContractError)
  deriving Repr, DecidableEq

def SetupError.message : SetupError → String
  | settings error => error.message
  | contract error => error.message

namespace Creator

def ofRegistry (registry : Registry) (catalog : Catalog) : Except ContractError Creator :=
  match registry.validate catalog with
  | .error error => .error error
  | .ok templates => .ok { registry := registry, templates := templates }

def ofSettings (settings : Settings) : Except SetupError Creator :=
  match settings.validate with
  | .error error => .error (.settings error)
  | .ok () =>
      match settings.registry with
      | .error error => .error (.settings error)
      | .ok registry =>
          match ofRegistry registry Synthesis.builtinCatalog with
          | .error error => .error (.contract error)
          | .ok creator => .ok { creator with strict := settings.strictCheckFiles }

def detect (creator : Creator) (site : Site) : Survey :=
  creator.registry.run creator.strict site {}

def create (creator : Creator) (site : Site) : EntryPoint :=
  let survey := creator.detect site
  let replay := Synthesis.synthesize creator.templates ⟨survey.app, site.classes⟩
  { app := survey.app
    driver := ⟨creator.driverClass, replay.units⟩
    diagnostics := survey.diagnostics ++ replay.diagnostics }

end Creator

end ContainerReplay
