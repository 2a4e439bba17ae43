import ContainerReplay.Component.Basic
import ContainerReplay.Component.Injection

/-!
# Applications

Everything that is known about a web application: its components by class name, its context
parameters and its injections.  The operations only ever add to it.
-/

set_option autoImplicit false

namespace ContainerReplay

structure Application where
  displayName : Option String := none
  components : Std.ExtTreeMap String Component := ∅
  contextParams : Std.ExtTreeMap String String := ∅
  injections : Std.ExtTreeSet Injection := ∅
  deriving DecidableEq

namespace Application

def empty : Application := {}

def componentList (app : Application) : List Component :=
  app.components.values

def classNames (app : Application) : List String :=
  app.components.keys

def component? (app : Application) (className : String) : Option Component :=
  app.components[className]?

def contains (app : Application) (className : String) : Bool :=
  app.components.contains className

/-- What registering a component would amount to. -/
def outcome (app : Application) (component : Component) : MergeOutcome :=
  match app.component? component.className with
  | none => .inserted
  | some existing => existing.outcome component

/-- Adds a component, or folds it into the one with the same class name. -/
def register (app : Application) (component : Component) : Application :=
  match app.component? component.className with
  | none => { app with components := app.components.insert component.className component }
  | some existing =>
      { app with
        components := app.components.insert component.className (existing.merge component) }

/-- The first component, in class-name order, that was declared under a name. -/
def named? (app : Application) (name : String) : Option Component :=
  app.componentList.find? fun component => component.hasName name

def modify (app : Application) (className : String) (change : Component → Component) :
    Application :=
  match app.component? className with
  | none => app
  | some existing => { app with components := app.components.insert className (change existing) }

/-- Sets the display name unless there is one. -/
def setDisplayName (app : Application) (name : String) : Application :=
  { app with displayName := app.displayName.or (some name) }

/-- Adds a context parameter; a name that has a value keeps it. -/
def addContextParam (app : Application) (name value : String) : Application :=
  { app with contextParams := app.contextParams.insertIfNew name value }

def addInjection (app : Application) (injection : Injection) : Application :=
  { app with injections := app.injections.insert injection }

def ofKind (app : Application) (kind : Kind) : List Component :=
  app.componentList.filter fun component => component.kind == kind

def injectionsFor (app : Application) (className : String) : List Injection :=
  app.injections.toList.filter fun injection => injection.target.targetClass == className

end Application

end ContainerReplay
