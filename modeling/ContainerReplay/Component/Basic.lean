import Std.Data.ExtTreeMap
import Std.Data.ExtTreeSet
import ContainerReplay.Component.ActionMapping
import ContainerReplay.Component.Kind

/-!
# Components

A container-managed class and everything the container knows about it.  Several sources may describe
one class; merging only ever adds, and the kind moves only along specialization.

A component has no loader of its own: whoever makes one gives it the loader of the application, and no
merge changes that, so that the loader is kept once, with the site.
-/

set_option autoImplicit false

namespace ContainerReplay

/-- What became of a component that was registered. -/
inductive MergeOutcome where
  | inserted
  /-- The same or a less specific kind: attributes were added. -/
  | enriched
  | upgraded (source target : Kind)
  /-- An unrelated kind: attributes were added, and the kind stayed. -/
  | conflict (kept rejected : Kind)
  deriving Repr, DecidableEq

namespace MergeOutcome

/-- How a declaration of kind `other` meets a component of kind `kept`. -/
def ofKinds (kept other : Kind) : MergeOutcome :=
  if other = kept ∨ kept.refines other then enriched
  else if other.refines kept then upgraded kept other
  else conflict kept other

/-- The kind after a merge into a component of kind `kept`. -/
def kindAfter (kept : Kind) : MergeOutcome → Kind
  | upgraded _ target => target
  | inserted => kept
  | enriched => kept
  | conflict _ _ => kept

end MergeOutcome

/-- A container-managed class. -/
structure Component where
  className : String
  kind : Kind
  names : Std.ExtTreeSet String := ∅
  parameters : Std.ExtTreeMap String String := ∅
  urlPatterns : Std.ExtTreeSet String := ∅
  /-- For filters: the names of the servlets in front of which the filter stands. -/
  servletNames : Std.ExtTreeSet String := ∅
  /-- A 32-bit integer when present. -/
  loadOnStartup : Option Int := none
  actionMappings : List ActionMapping := []
  deriving DecidableEq

namespace Component

def hasName (component : Component) (name : String) : Bool :=
  component.names.contains name

def addName (component : Component) (name : String) : Component :=
  { component with names := component.names.insert name }

def addUrlPattern (component : Component) (pattern : String) : Component :=
  { component with urlPatterns := component.urlPatterns.insert pattern }

def addServletName (component : Component) (name : String) : Component :=
  { component with servletNames := component.servletNames.insert name }

/-- Adds a parameter; a name that has a value keeps it. -/
def addParameter (component : Component) (name value : String) : Component :=
  { component with parameters := component.parameters.insertIfNew name value }

def putMapping (component : Component) (mapping : ActionMapping) : Component :=
  { component with actionMappings := mapping.putInto component.actionMappings }

def putMappings (component : Component) (mappings : List ActionMapping) : Component :=
  mappings.foldl putMapping component

/-- Adds the attributes of another description of the class; what is present wins, except that a
mapping replaces the one with its path. -/
def absorb (component other : Component) : Component :=
  ({ component with
      names := component.names ∪ other.names
      urlPatterns := component.urlPatterns ∪ other.urlPatterns
      servletNames := component.servletNames ∪ other.servletNames
      -- of a union the right operand counts where both have a value
      parameters := other.parameters ∪ component.parameters
      loadOnStartup := component.loadOnStartup.or other.loadOnStartup } : Component).putMappings
    other.actionMappings

/-- How a description of the class meets this one. -/
def outcome (component other : Component) : MergeOutcome :=
  .ofKinds component.kind other.kind

def merge (component other : Component) : Component :=
  ({ component with kind := (component.outcome other).kindAfter component.kind } :
    Component).absorb other

def title (component : Component) : String :=
  s!"{component.className} ({component.kind.name})"

end Component

end ContainerReplay
