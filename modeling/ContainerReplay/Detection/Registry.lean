import ContainerReplay.Detection.Actions
import ContainerReplay.Detection.Servlets
import ContainerReplay.Synthesis.Basic

/-!
# Detector registries

The active detectors in their order.  A registry is sound for a catalog if every template that a
detector names exists and is for a kind of that detector, no kind has two templates, and every kind
of a detector has a template of that detector.
-/

set_option autoImplicit false

namespace ContainerReplay

/-- Detectors in the order in which they run. -/
structure Registry where
  detectors : List Detector := []

namespace Registry

def empty : Registry := {}

/-- A list of detectors with one of them set: in place of the one with its name, else at the end. -/
def put (detector : Detector) : List Detector → List Detector
  | [] => [detector]
  | existing :: rest =>
      if existing.name = detector.name then detector :: rest else existing :: put detector rest

def register (registry : Registry) (detector : Detector) : Registry :=
  ⟨put detector registry.detectors⟩

def builtin : Registry :=
  (empty.register Detection.servlets).register Detection.actions

def get? (registry : Registry) (name : String) : Option Detector :=
  registry.detectors.find? fun detector => detector.name == name

def names (registry : Registry) : List String :=
  registry.detectors.map Detector.name

def size (registry : Registry) : Nat :=
  registry.detectors.length

def unknown? (registry : Registry) (names : List String) : Option String :=
  names.find? fun name => (registry.get? name).isNone

/-- The named detectors in the order of the registry. -/
def select (registry : Registry) (names : List String) : Except ContractError Registry :=
  match registry.unknown? names with
  | some name => .error (.unknownDetector name)
  | none => .ok ⟨registry.detectors.filter fun detector => names.contains detector.name⟩

def adoptTemplate (catalog : Catalog) (detector : Detector) (templates : TemplateSet)
    (id : String) : Except ContractError TemplateSet :=
  match catalog.get? id with
  | none => .error (.unknownTemplate detector.name id)
  | some template =>
      if detector.extensions.contains template.kind then
        match templates.insert template with
        | .ok extended => .ok extended
        | .error existing => .error (.duplicateTemplate template.kind existing.id id)
      else .error (.undeclaredTemplateKind detector.name id template.kind)

def coversOwn (detector : Detector) (templates : TemplateSet) (kind : Kind) : Bool :=
  match templates.get? kind with
  | none => false
  | some template => detector.templates.contains template.id

def adopt (catalog : Catalog) (templates : TemplateSet) (detector : Detector) :
    Except ContractError TemplateSet :=
  match detector.templates.foldlM (adoptTemplate catalog detector) templates with
  | .error error => .error error
  | .ok extended =>
      -- a template that an earlier detector brought does not cover a kind of this one
      match detector.extensions.find? (fun kind => coversOwn detector extended kind = false) with
      | some kind => .error (.uncoveredExtension detector.name kind)
      | none => .ok extended

/-- The templates of all detectors, if the registry is sound for the catalog. -/
def validate (registry : Registry) (catalog : Catalog) : Except ContractError TemplateSet :=
  registry.detectors.foldlM (adopt catalog) TemplateSet.empty

end Registry

end ContainerReplay
