import ContainerReplay.Descriptor.Reading
import ContainerReplay.Text.Numeral

/-!
# Deployment descriptors

Servlets, filters, their mappings, listeners, parameters and injections, as a web application or a
fragment of one declares them.  Sections are read kind by kind, so that a mapping may precede the
declaration that it names.
-/

set_option autoImplicit false

namespace ContainerReplay.Descriptor

/-- Declared names with the classes that they stand for, latest first. -/
abbrev Declarations := List (String × String)

/-- The class that a name was last declared for. -/
def Declarations.class? (declarations : Declarations) (name : String) : Option String :=
  match declarations.find? (fun declaration => declaration.1 == name) with
  | some declaration => some declaration.2
  | none => none

/-- A reference element that may carry injection targets, with its name and type children. -/
structure ReferenceElement where
  element : String
  nameChild : String
  typeChild : String
  deriving Repr, DecidableEq

def referenceElements : List ReferenceElement :=
  [⟨"env-entry", "env-entry-name", "env-entry-type"⟩,
    ⟨"ejb-ref", "ejb-ref-name", "remote"⟩,
    ⟨"ejb-local-ref", "ejb-ref-name", "local"⟩,
    ⟨"service-ref", "service-ref-name", "service-interface"⟩,
    ⟨"resource-ref", "res-ref-name", "res-type"⟩,
    ⟨"resource-env-ref", "resource-env-ref-name", "resource-env-ref-type"⟩,
    ⟨"message-destination-ref", "message-destination-ref-name", "message-destination-type"⟩,
    ⟨"persistence-context-ref", "persistence-context-ref-name", "persistence-unit-name"⟩,
    ⟨"persistence-unit-ref", "persistence-unit-ref-name", "persistence-unit-name"⟩]

namespace Deployment

/-- The name and value of a parameter; a blank value is legitimate. -/
def parameter? (element : Markup.Element) : Option (String × String) :=
  match childText? element "param-name" with
  | none => none
  | some name => some (name, (childText? element "param-value").getD "")

def skipParameter (source : Source) (reading : Reading) (element : Markup.Element) : Reading :=
  reading.skip source element "parameter without <param-name>"

def contextParam (source : Source) (reading : Reading) (element : Markup.Element) : Reading :=
  match parameter? element with
  | none => skipParameter source reading element
  | some (name, value) => reading.updateApp fun app => app.addContextParam name value

def initParam (source : Source) (state : Reading × Component) (element : Markup.Element) :
    Reading × Component :=
  match parameter? element with
  | none => (skipParameter source state.1 element, state.2)
  | some (name, value) => (state.1, state.2.addParameter name value)

def initParams (source : Source) (element : Markup.Element) (reading : Reading)
    (component : Component) : Reading × Component :=
  (element.childrenNamed "init-param").foldl (initParam source) (reading, component)

/-- Takes the start-up order of a servlet, unless it is no 32-bit integer. -/
def startupOrder (source : Source) (element : Markup.Element) (name : String)
    (state : Reading × Component) : Reading × Component :=
  match childText? element "load-on-startup" with
  | none => state
  | some order =>
      match Text.readInt Text.maxInt32 order with
      | .ok value => (state.1, { state.2 with loadOnStartup := some value })
      | .error _ =>
          (state.1.remark source .warn s!"Ignoring load-on-startup '{order}' of servlet '{name}'",
            state.2)

def declare (name : String) (declarations : Declarations) (state : Reading × Component) :
    Reading × Declarations :=
  ((state.1.update fun survey => survey.register state.2).count,
    (name, state.2.className) :: declarations)

def servlet (source : Source) (state : Reading × Declarations) (element : Markup.Element) :
    Reading × Declarations :=
  match childText? element "servlet-name" with
  | none => (state.1.skip source element "<servlet> without <servlet-name>", state.2)
  | some name =>
      match childText? element "servlet-class" with
      | some className =>
          let component := ({ className, kind := .servlet } : Component).addName name
          declare name state.2
            (startupOrder source element name (initParams source element state.1 component))
      | none =>
          match childText? element "jsp-file" with
          -- a page is neither an entry nor skipped, and its name is not declared
          | some _ =>
              (state.1.remark source .info
                s!"Servlet '{name}' is a JSP page and has no class to dispatch to", state.2)
          | none =>
              (state.1.skip source element s!"servlet '{name}' without <servlet-class>", state.2)

def filter (source : Source) (state : Reading × Declarations) (element : Markup.Element) :
    Reading × Declarations :=
  match childText? element "filter-name", childText? element "filter-class" with
  | some name, some className =>
      let component := ({ className, kind := .filter } : Component).addName name
      declare name state.2 (initParams source element state.1 component)
  | _, _ =>
      (state.1.skip source element "<filter> without <filter-name> or <filter-class>", state.2)

/-- The class of the component that a mapping is for: the one that the descriptor declares under the
name, else the one that is on record under it. -/
def mappingTarget? (app : Application) (declarations : Declarations) (name : String) :
    Option String :=
  match declarations.class? name with
  | some className => (app.component? className).map Component.className
  -- whatever the kind of the component that has the name
  | none => (app.named? name).map Component.className

def servletMapping (source : Source) (declarations : Declarations) (reading : Reading)
    (element : Markup.Element) : Reading :=
  match childText? element "servlet-name" with
  | none => reading.skip source element "<servlet-mapping> without <servlet-name>"
  | some name =>
      match mappingTarget? reading.survey.app declarations name with
      | none => reading.skip source element s!"mapping for unknown servlet '{name}'"
      | some className =>
          let patterns := childTexts element "url-pattern"
          (reading.updateApp fun app => app.modify className fun component =>
            patterns.foldl Component.addUrlPattern component).count

def filterMapping (source : Source) (declarations : Declarations) (reading : Reading)
    (element : Markup.Element) : Reading :=
  match childText? element "filter-name" with
  | none => reading.skip source element "<filter-mapping> without <filter-name>"
  | some name =>
      match mappingTarget? reading.survey.app declarations name with
      | none => reading.skip source element s!"mapping for unknown filter '{name}'"
      | some className =>
          let patterns := childTexts element "url-pattern"
          let servlets := childTexts element "servlet-name"
          (reading.updateApp fun app => app.modify className fun component =>
            servlets.foldl Component.addServletName
              (patterns.foldl Component.addUrlPattern component)).count

def listener (source : Source) (reading : Reading) (element : Markup.Element) : Reading :=
  match childText? element "listener-class" with
  | none => reading.skip source element "<listener> without <listener-class>"
  | some className =>
      (reading.update fun survey => survey.register { className, kind := .listener }).count

def injection? (resourceName : String) (resourceType : Option String)
    (target : Markup.Element) : Option Injection :=
  match childText? target "injection-target-class", childText? target "injection-target-name" with
  | some targetClass, some targetName =>
      some ⟨resourceName, resourceType, ⟨targetClass, targetName⟩⟩
  | _, _ => none

def injections (reference : ReferenceElement) (element : Markup.Element) : List Injection :=
  match childText? element reference.nameChild with
  | none => []
  | some resourceName =>
      (element.childrenNamed "injection-target").filterMap
        (injection? resourceName (childText? element reference.typeChild))

def allInjections (root : Markup.Element) : List Injection :=
  referenceElements.flatMap fun reference =>
    (root.childrenNamed reference.element).flatMap (injections reference)

def displayName (root : Markup.Element) (reading : Reading) : Reading :=
  match childText? root "display-name" with
  | none => reading
  | some name => reading.updateApp fun app => app.setDisplayName name

def readRoot (source : Source) (reading : Reading) : Reading :=
  let root := source.document.root
  let reading := displayName root reading
  let reading := (root.childrenNamed "context-param").foldl (contextParam source) reading
  let (reading, servlets) := (root.childrenNamed "servlet").foldl (servlet source) (reading, [])
  let (reading, filters) := (root.childrenNamed "filter").foldl (filter source) (reading, [])
  -- mappings come after every declaration, wherever they stand in the document
  let reading :=
    (root.childrenNamed "servlet-mapping").foldl (servletMapping source servlets) reading
  let reading :=
    (root.childrenNamed "filter-mapping").foldl (filterMapping source filters) reading
  let reading := (root.childrenNamed "listener").foldl (listener source) reading
  reading.updateApp fun app => (allInjections root).foldl Application.addInjection app

def roots : List String := ["web-app", "web-fragment"]

def readBytes (resource : String) (bytes : ByteArray) (survey : Survey) :
    Except DetectionError Reading :=
  match openSource resource roots bytes with
  | .error error => .error error
  | .ok source => .ok (readRoot source ⟨survey, {}⟩)

def read (loader : Loader) (path : String) (survey : Survey) : Except DetectionError Reading :=
  match loader.read path with
  | .error error => .error error
  | .ok bytes => readBytes path bytes survey

end Deployment

end ContainerReplay.Descriptor
