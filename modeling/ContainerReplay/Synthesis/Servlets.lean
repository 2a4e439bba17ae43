import ContainerReplay.Classes.ServletApi
import ContainerReplay.Driver.Draft
import ContainerReplay.Synthesis.Template

/-!
# Replaying servlets, filters and listeners

A unit allocates the component, stores the resources that are injected into it, and then invokes its
life-cycle methods with stand-ins for the objects of the container.
-/

set_option autoImplicit false

namespace ContainerReplay.Synthesis

def storeInjections (app : Application) (className receiver : String) (draft : Draft) : Draft :=
  (app.injectionsFor className).foldl
    (fun draft injection =>
      draft.store receiver injection.target.targetName (.resource injection.resourceName))
    draft

def allocateInjected (app : Application) (className : String) (draft : Draft) : Draft :=
  storeInjections app className draft.next (draft.allocate className)

def addInitParameters (className receiver : String) (parameters : List (String × String))
    (draft : Draft) : Draft :=
  parameters.foldl
    (fun draft parameter =>
      draft.invoke receiver className "addInitParameter" [.text parameter.1, .text parameter.2])
    draft

def configuration (className : String) (component : Component) (draft : Draft) : Draft :=
  addInitParameters className draft.next component.parameters.toList (draft.allocate className)

/-- The request, and then the response, of one call. -/
def exchange (path : Option String) (draft : Draft) : Draft :=
  let requestClass := Driver.synthetic "HttpServletRequest"
  let allocated := draft.allocate requestClass
  let addressed := match path with
    | none => allocated
    | some path => allocated.invoke draft.next requestClass "setServletPath" [.text path]
  addressed.allocate (Driver.synthetic "HttpServletResponse")

/-- The local of the request of an exchange that starts from a draft. -/
def requestOf (draft : Draft) : Value :=
  .localVar draft.next

def responseOf (draft : Draft) : Value :=
  .localVar (Draft.localName (draft.locals + 1))

def serviceCall (interface servlet : String) (draft : Draft) (path : Option String) : Draft :=
  (exchange path draft).invoke servlet interface "service" [requestOf draft, responseOf draft]

/-- The addresses that a component answers; without any, one call has none. -/
def orNone {α : Type} (targets : List α) (missing : α) : List α :=
  match targets with
  | [] => [missing]
  | _ => targets

def initCall (interface receiver configClass : String) (component : Component)
    (draft : Draft) : Draft :=
  (configuration configClass component draft).invoke receiver interface "init"
    [.localVar draft.next]

def unitOf (component : Component) (template : String) (draft : Draft) : DriverUnit :=
  ⟨component.className, component.kind.role, component.className, template, draft.statements⟩

/-- Replays a servlet: initialization, one request for each pattern, destruction. -/
def servletDraft (scene : Scene) (component : Component) : Draft :=
  let package := scene.classes.namespaceFor component.className
  let interface := package.qualify ServletApi.servletInterface
  let servlet := Draft.localName 0
  let ready := initCall interface servlet (Driver.synthetic "ServletConfig") component
    (allocateInjected scene.app component.className {})
  let patterns := orNone (component.urlPatterns.toList.map some) none
  (patterns.foldl (serviceCall interface servlet) ready).invoke servlet interface "destroy" []

/-- What a call of a filter is addressed to. -/
inductive FilterTarget where
  | pattern (path : String)
  | servlet (name : String)
  | anything
  deriving Repr, DecidableEq

namespace FilterTarget

def path? : FilterTarget → Option String
  | pattern path => some path
  | servlet _ => none
  | anything => none

end FilterTarget

/-- The patterns of a filter, then the names of its servlets. -/
def filterTargets (component : Component) : List FilterTarget :=
  orNone
    (component.urlPatterns.toList.map FilterTarget.pattern ++
      component.servletNames.toList.map FilterTarget.servlet)
    .anything

def filterChain (target : FilterTarget) (draft : Draft) : Draft :=
  let chainClass := Driver.synthetic "FilterChain"
  let allocated := draft.allocate chainClass
  match target with
  | .servlet name => allocated.invoke draft.next chainClass "setTargetServlet" [.text name]
  | .pattern _ => allocated
  | .anything => allocated

def filterCall (interface filter : String) (draft : Draft) (target : FilterTarget) : Draft :=
  let exchanged := exchange target.path? draft
  (filterChain target exchanged).invoke filter interface "doFilter"
    [requestOf draft, responseOf draft, .localVar exchanged.next]

def filterDraft (scene : Scene) (component : Component) : Draft :=
  let package := scene.classes.namespaceFor component.className
  let interface := package.qualify ServletApi.filterInterface
  let filter := Draft.localName 0
  let ready := initCall interface filter (Driver.synthetic "FilterConfig") component
    (allocateInjected scene.app component.className {})
  ((filterTargets component).foldl (filterCall interface filter) ready).invoke filter interface
    "destroy" []

/-- The callbacks of the listener interfaces that a class implements in one package; without any,
that of the context. -/
def callbacksOf (classes : ClassIndex) (package : Namespace) (className : String) :
    List ListenerCallback :=
  orNone
    (ServletApi.listenerCallbacks.filter fun callback =>
      classes.implements className (package.qualify callback.interface))
    ServletApi.contextCallback

def notify (package : Namespace) (listener : String) (draft : Draft)
    (callback : ListenerCallback) : Draft :=
  (draft.allocate (package.qualify callback.event)).invoke listener
    (package.qualify callback.interface) callback.method [.localVar draft.next]

def listenerDraft (scene : Scene) (component : Component) : Draft :=
  let package := scene.classes.namespaceFor component.className
  let callbacks := callbacksOf scene.classes package component.className
  callbacks.foldl (notify package (Draft.localName 0))
    (allocateInjected scene.app component.className {})

def singleUnit (id : String) (kind : Kind) (draft : Scene → Component → Draft) : Template where
  id := id
  kind := kind
  instantiate := fun scene component => ⟨[unitOf component id (draft scene component)], []⟩

def servletTemplateId : String := "servlet::HttpServlet::main"

def filterTemplateId : String := "servlet::Filter::main"

def listenerTemplateId : String := "servlet::Listener::main"

def servletTemplate : Template := singleUnit servletTemplateId .servlet servletDraft

def filterTemplate : Template := singleUnit filterTemplateId .filter filterDraft

def listenerTemplate : Template := singleUnit listenerTemplateId .listener listenerDraft

end ContainerReplay.Synthesis
