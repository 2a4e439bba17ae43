import ContainerReplay.Application
import ContainerReplay.Classes.Index
import ContainerReplay.Diagnostic
import ContainerReplay.Driver.Basic

/-!
# Templates

A template knows how to replay the components of one kind.  A catalog holds templates by their
names; a template set holds those in force, at most one for each kind.
-/

set_option autoImplicit false

namespace ContainerReplay

/-- What a template may look at besides its component. -/
structure Scene where
  app : Application
  classes : ClassIndex

/-- Units together with the remarks made while they were written. -/
structure Replay where
  units : List DriverUnit := []
  diagnostics : List Diagnostic := []
  deriving DecidableEq

def Replay.append (first second : Replay) : Replay :=
  ⟨first.units ++ second.units, first.diagnostics ++ second.diagnostics⟩

/-- How the components of one kind are replayed. -/
structure Template where
  id : String
  kind : Kind
  instantiate : Scene → Component → Replay

/-- Templates by name. -/
structure Catalog where
  templates : Std.ExtTreeMap String Template := ∅

namespace Catalog

def empty : Catalog := {}

def register (catalog : Catalog) (template : Template) : Catalog :=
  ⟨catalog.templates.insert template.id template⟩

def ofList (templates : List Template) : Catalog :=
  templates.foldl register empty

def get? (catalog : Catalog) (id : String) : Option Template :=
  catalog.templates[id]?

def ids (catalog : Catalog) : List String :=
  catalog.templates.keys

end Catalog

/-- At most one template for each kind. -/
structure TemplateSet where
  templates : List Template := []

namespace TemplateSet

def empty : TemplateSet := {}

def get? (set : TemplateSet) (kind : Kind) : Option Template :=
  set.templates.find? fun template => template.kind == kind

def covers (set : TemplateSet) (kind : Kind) : Bool :=
  (set.get? kind).isSome

/-- Adds a template; a kind that has one keeps it, and that one is the error. -/
def insert (set : TemplateSet) (template : Template) : Except Template TemplateSet :=
  match set.get? template.kind with
  | some existing => .error existing
  | none => .ok ⟨set.templates ++ [template]⟩

def insertNew (set : TemplateSet) (template : Template) : TemplateSet :=
  match set.insert template with
  | .error _ => set
  | .ok extended => extended

def kinds (set : TemplateSet) : List Kind :=
  Kind.all.filter set.covers

def size (set : TemplateSet) : Nat :=
  set.templates.length

end TemplateSet

end ContainerReplay
