import ContainerReplay.Descriptor.Deployment
import ContainerReplay.Proofs.Growth

/-!
# What a deployment descriptor says

The content of a descriptor, free of where each entry stands and of what a run remarks on it, and
the proof that reading a descriptor changes an application exactly as installing its content does.
-/

set_option autoImplicit false

namespace ContainerReplay

/-! ## Outcomes -/

theorem toOption_eq_some_iff {ε α : Type} {outcome : Except ε α} {answer : α} :
    outcome.toOption = some answer ↔ outcome = .ok answer := by
  cases outcome <;> simp [Except.toOption]

/-- What passes a check is the answer of an attempt that succeeded. -/
theorem exists_ok_of_any {ε α : Type} {outcome : Except ε α} {check : α → Bool}
    (checked : outcome.toOption.any check = true) :
    ∃ answer, outcome = .ok answer ∧ check answer = true := by
  obtain ⟨answer, taken, holds⟩ := (Option.any_eq_true _ _).mp checked
  exact ⟨answer, toOption_eq_some_iff.mp taken, holds⟩

/-! ## Surveys and readings by their application -/

@[simp] theorem Survey.report_app (survey : Survey) (error : DetectionError) :
    (survey.report error).app = survey.app := rfl

@[simp] theorem Survey.register_app (survey : Survey) (component : Component) :
    (survey.register component).app = survey.app.register component := by
  unfold Survey.register
  cases survey.app.outcome component <;> rfl

/-- What is said about a component that met another description of its class. -/
def Survey.remarksOn (component : Component) : MergeOutcome → List Diagnostic
  | .conflict kept rejected =>
      [⟨.warn, Survey.conflictMessage component.className kept rejected, some component.className⟩]
  | .inserted => []
  | .enriched => []
  | .upgraded _ _ => []

theorem Survey.register_diagnostics (survey : Survey) (component : Component) :
    (survey.register component).diagnostics =
      survey.diagnostics ++ Survey.remarksOn component (survey.app.outcome component) := by
  unfold Survey.register
  cases survey.app.outcome component with
  | conflict kept rejected => rfl
  | inserted => exact (List.append_nil _).symm
  | enriched => exact (List.append_nil _).symm
  | upgraded source target => exact (List.append_nil _).symm

namespace Descriptor

@[simp] theorem Reading.count_app (reading : Reading) :
    reading.count.survey.app = reading.survey.app := rfl

@[simp] theorem Reading.updateApp_app (reading : Reading)
    (change : Application → Application) :
    (reading.updateApp change).survey.app = change reading.survey.app := rfl

/-! ## The content of a descriptor -/

/-- A component under the name for which a descriptor declares it. -/
structure NamedComponent where
  name : String
  component : Component

/-- A mapping: what it adds to the component that has a name. -/
structure Mapping where
  name : String
  urlPatterns : List String
  servletNames : List String

/-- All that a descriptor adds to an application, section by section. -/
structure Content where
  displayName : Option String
  contextParams : List (String × String)
  servlets : List NamedComponent
  filters : List NamedComponent
  servletMappings : List Mapping
  filterMappings : List Mapping
  listeners : List Component
  injections : List Injection

def componentsOf (declared : List NamedComponent) : List Component :=
  declared.map NamedComponent.component

/-- The component with what a mapping adds to it. -/
def Mapping.addTo (mapping : Mapping) (component : Component) : Component :=
  mapping.servletNames.foldl Component.addServletName
    (mapping.urlPatterns.foldl Component.addUrlPattern component)

/-- The names of declared components with their classes, latest first. -/
def declarationsOf (declared : List NamedComponent) : Declarations :=
  (declared.map fun entry => (entry.name, entry.component.className)).reverse

/-- Adds a mapping to the component that it is for, if there is one. -/
def route (declarations : Declarations) (app : Application) (mapping : Mapping) : Application :=
  match Deployment.mappingTarget? app declarations mapping.name with
  | none => app
  | some className => app.modify className mapping.addTo

def addContextPair (app : Application) (parameter : String × String) : Application :=
  app.addContextParam parameter.1 parameter.2

namespace Content

/-- The application with the display name of a descriptor. -/
def entitle (content : Content) (app : Application) : Application :=
  match content.displayName with
  | none => app
  | some name => app.setDisplayName name

/-- The application with the display name and the parameters of a descriptor. -/
def configure (content : Content) (app : Application) : Application :=
  content.contextParams.foldl addContextPair (content.entitle app)

/-- The application with the name, the parameters and the declared components of a descriptor. -/
def declare (content : Content) (app : Application) : Application :=
  ((content.configure app).registerAll (componentsOf content.servlets)).registerAll
    (componentsOf content.filters)

/-- The application with the mappings of a descriptor. -/
def routeAll (content : Content) (app : Application) : Application :=
  content.filterMappings.foldl (route (declarationsOf content.filters))
    (content.servletMappings.foldl (route (declarationsOf content.servlets)) app)

/-- The application with the listeners and the injections of a descriptor. -/
def complete (content : Content) (app : Application) : Application :=
  content.injections.foldl Application.addInjection
    (app.registerAll content.listeners)

/-- The application with all that a descriptor adds to it. -/
def install (content : Content) (app : Application) : Application :=
  content.complete (content.routeAll (content.declare app))

end Content

namespace Deployment

def initParameters (element : Markup.Element) : List (String × String) :=
  (element.childrenNamed "init-param").filterMap parameter?

/-- The start-up order that a servlet asks for, if it is an integer of 32 bits. -/
def startupOrder? (element : Markup.Element) : Option Int :=
  (childText? element "load-on-startup").bind fun order =>
    (Text.readInt Text.maxInt32 order).toOption

/-- A class declared under a name with parameters. -/
def declaredComponent (className : String) (kind : Kind) (name : String)
    (parameters : List (String × String)) : Component :=
  parameters.foldl (fun component parameter => component.addParameter parameter.1 parameter.2)
    (({ className, kind } : Component).addName name)

def declaredServlet? (element : Markup.Element) : Option NamedComponent :=
  match childText? element "servlet-name", childText? element "servlet-class" with
  | some name, some className =>
      some ⟨name,
        { declaredComponent className .servlet name (initParameters element) with
          loadOnStartup := startupOrder? element }⟩
  | _, _ => none

def declaredFilter? (element : Markup.Element) : Option NamedComponent :=
  match childText? element "filter-name", childText? element "filter-class" with
  | some name, some className =>
      some ⟨name, declaredComponent className .filter name (initParameters element)⟩
  | _, _ => none

def servletMapping? (element : Markup.Element) : Option Mapping :=
  (childText? element "servlet-name").map fun name =>
    ⟨name, childTexts element "url-pattern", []⟩

def filterMapping? (element : Markup.Element) : Option Mapping :=
  (childText? element "filter-name").map fun name =>
    ⟨name, childTexts element "url-pattern", childTexts element "servlet-name"⟩

def declaredListener? (element : Markup.Element) : Option Component :=
  (childText? element "listener-class").map fun className => { className, kind := .listener }

/-- All that a descriptor with a root says. -/
def contentOf (root : Markup.Element) : Content where
  displayName := childText? root "display-name"
  contextParams := (root.childrenNamed "context-param").filterMap parameter?
  servlets := (root.childrenNamed "servlet").filterMap declaredServlet?
  filters := (root.childrenNamed "filter").filterMap declaredFilter?
  servletMappings := (root.childrenNamed "servlet-mapping").filterMap servletMapping?
  filterMappings := (root.childrenNamed "filter-mapping").filterMap filterMapping?
  listeners := (root.childrenNamed "listener").filterMap declaredListener?
  injections := allInjections root

/-! ## Reading installs the content -/

/-- Elements that each change the application by what they say change it together by all they
say. -/
theorem foldl_app_eq {α : Type} {take : Reading → Markup.Element → Reading}
    {said? : Markup.Element → Option α} {add : Application → α → Application}
    (taken : ∀ reading element, (take reading element).survey.app =
      (said? element).elim reading.survey.app (add reading.survey.app))
    (elements : List Markup.Element) (reading : Reading) :
    (elements.foldl take reading).survey.app =
      (elements.filterMap said?).foldl add reading.survey.app := by
  induction elements generalizing reading with
  | nil => rfl
  | cons element rest ih =>
      rw [List.foldl_cons, ih, taken, List.filterMap_cons]
      cases said? element <;> rfl

/-- The same for elements that declare components under names. -/
theorem foldl_declare_eq
    {take : Reading × Declarations → Markup.Element → Reading × Declarations}
    {declared? : Markup.Element → Option NamedComponent}
    (taken : ∀ state element,
      (take state element).1.survey.app = (declared? element).elim state.1.survey.app
          (fun entry => state.1.survey.app.register entry.component) ∧
        (take state element).2 = (declared? element).elim state.2
          (fun entry => (entry.name, entry.component.className) :: state.2))
    (elements : List Markup.Element) (state : Reading × Declarations) :
    (elements.foldl take state).1.survey.app =
        state.1.survey.app.registerAll (componentsOf (elements.filterMap declared?)) ∧
      (elements.foldl take state).2 =
        declarationsOf (elements.filterMap declared?) ++ state.2 := by
  induction elements generalizing state with
  | nil => exact ⟨rfl, rfl⟩
  | cons element rest ih =>
      obtain ⟨appTaken, namesTaken⟩ := taken state element
      obtain ⟨appRest, namesRest⟩ := ih (take state element)
      rw [List.foldl_cons, appRest, namesRest, appTaken, namesTaken, List.filterMap_cons]
      cases declared? element with
      | none => exact ⟨rfl, rfl⟩
      | some entry => exact ⟨rfl, by simp [declarationsOf]⟩

theorem initParams_eq (source : Source) (element : Markup.Element) (reading : Reading)
    (component : Component) :
    (initParams source element reading component).1.survey.app = reading.survey.app ∧
      (initParams source element reading component).2 =
        (initParameters element).foldl
          (fun component parameter => component.addParameter parameter.1 parameter.2)
          component := by
  unfold initParams initParameters
  induction element.childrenNamed "init-param" generalizing reading component with
  | nil => exact ⟨rfl, rfl⟩
  | cons parameter rest ih =>
      rw [List.foldl_cons, List.filterMap_cons]
      cases read : parameter? parameter with
      | none =>
          simp only [initParam, read]
          exact ih (skipParameter source reading parameter) component
      | some pair =>
          simp only [initParam, read]
          exact ih reading (component.addParameter pair.1 pair.2)

theorem startupOrder_eq (source : Source) (element : Markup.Element) (name : String)
    (state : Reading × Component) :
    (startupOrder source element name state).1.survey.app = state.1.survey.app ∧
      (startupOrder source element name state).2 =
        { state.2 with
          loadOnStartup := (startupOrder? element).or state.2.loadOnStartup } := by
  unfold startupOrder startupOrder?
  cases childText? element "load-on-startup" with
  | none => exact ⟨rfl, rfl⟩
  | some order =>
      simp only [Option.bind_some]
      cases Text.readInt Text.maxInt32 order with
      | ok value => exact ⟨rfl, rfl⟩
      | error fault => exact ⟨rfl, rfl⟩

theorem foldl_addParameter_loadOnStartup (parameters : List (String × String))
    (component : Component) :
    (parameters.foldl (fun component parameter => component.addParameter parameter.1 parameter.2)
      component).loadOnStartup = component.loadOnStartup := by
  induction parameters generalizing component with
  | nil => rfl
  | cons parameter rest ih => exact ih (component.addParameter parameter.1 parameter.2)

@[simp] theorem addName_loadOnStartup (component : Component) (name : String) :
    (component.addName name).loadOnStartup = component.loadOnStartup := rfl

/-- A servlet with a name and a class is read to the component that it declares. -/
theorem servlet_read (source : Source) (reading : Reading) {element : Markup.Element}
    {name className : String} (named : childText? element "servlet-name" = some name)
    (ofClass : childText? element "servlet-class" = some className) :
    let read := startupOrder source element name
      (initParams source element reading (({ className, kind := .servlet } : Component).addName name))
    read.1.survey.app = reading.survey.app ∧ declaredServlet? element = some ⟨name, read.2⟩ := by
  obtain ⟨paramsApp, params⟩ := initParams_eq source element reading
    (({ className, kind := .servlet } : Component).addName name)
  obtain ⟨orderApp, order⟩ := startupOrder_eq source element name
    (initParams source element reading (({ className, kind := .servlet } : Component).addName name))
  refine ⟨orderApp.trans paramsApp, ?_⟩
  rw [params, foldl_addParameter_loadOnStartup] at order
  simp only [declaredServlet?, named, ofClass, order, declaredComponent, initParameters,
    addName_loadOnStartup, Option.or_none]

/-- A filter with a name and a class is read to the component that it declares. -/
theorem filter_read (source : Source) (reading : Reading) {element : Markup.Element}
    {name className : String} (named : childText? element "filter-name" = some name)
    (ofClass : childText? element "filter-class" = some className) :
    let read := initParams source element reading
      (({ className, kind := .filter } : Component).addName name)
    read.1.survey.app = reading.survey.app ∧ declaredFilter? element = some ⟨name, read.2⟩ := by
  obtain ⟨paramsApp, params⟩ := initParams_eq source element reading
    (({ className, kind := .filter } : Component).addName name)
  refine ⟨paramsApp, ?_⟩
  simp only [declaredFilter?, named, ofClass, params, declaredComponent]

theorem declare_eq (name : String) (declarations : Declarations) (state : Reading × Component) :
    (declare name declarations state).1.survey.app = state.1.survey.app.register state.2 := by
  simp only [declare, Reading.count_app, Reading.update, Survey.register_app]

theorem servlet_eq (source : Source) (state : Reading × Declarations)
    (element : Markup.Element) :
    (servlet source state element).1.survey.app =
        (declaredServlet? element).elim state.1.survey.app
          (fun entry => state.1.survey.app.register entry.component) ∧
      (servlet source state element).2 =
        (declaredServlet? element).elim state.2
          (fun entry => (entry.name, entry.component.className) :: state.2) := by
  cases named : childText? element "servlet-name" with
  | none =>
      simp only [servlet, declaredServlet?, named]
      exact ⟨rfl, rfl⟩
  | some name =>
      cases ofClass : childText? element "servlet-class" with
      | none =>
          simp only [servlet, declaredServlet?, named, ofClass]
          cases childText? element "jsp-file" <;> exact ⟨rfl, rfl⟩
      | some className =>
          obtain ⟨app, declared⟩ := servlet_read source state.1 named ofClass
          simp only [servlet, named, ofClass, declared, declare_eq, app, Option.elim_some]
          exact ⟨trivial, rfl⟩

theorem filter_eq (source : Source) (state : Reading × Declarations)
    (element : Markup.Element) :
    (filter source state element).1.survey.app =
        (declaredFilter? element).elim state.1.survey.app
          (fun entry => state.1.survey.app.register entry.component) ∧
      (filter source state element).2 =
        (declaredFilter? element).elim state.2
          (fun entry => (entry.name, entry.component.className) :: state.2) := by
  cases named : childText? element "filter-name" with
  | none =>
      simp only [filter, declaredFilter?, named]
      exact ⟨rfl, rfl⟩
  | some name =>
      cases ofClass : childText? element "filter-class" with
      | none =>
          simp only [filter, declaredFilter?, named, ofClass]
          exact ⟨rfl, rfl⟩
      | some className =>
          obtain ⟨app, declared⟩ := filter_read source state.1 named ofClass
          simp only [filter, named, ofClass, declared, declare_eq, app, Option.elim_some]
          exact ⟨trivial, rfl⟩

theorem contextParam_eq (source : Source) (reading : Reading) (element : Markup.Element) :
    (contextParam source reading element).survey.app =
      (parameter? element).elim reading.survey.app (addContextPair reading.survey.app) := by
  unfold contextParam
  cases parameter? element <;> rfl

theorem servletMapping_eq (source : Source) (declarations : Declarations) (reading : Reading)
    (element : Markup.Element) :
    (servletMapping source declarations reading element).survey.app =
      (servletMapping? element).elim reading.survey.app
        (route declarations reading.survey.app) := by
  unfold servletMapping servletMapping?
  cases childText? element "servlet-name" with
  | none => rfl
  | some name =>
      simp only [Option.map_some, Option.elim_some, route]
      cases mappingTarget? reading.survey.app declarations name <;> rfl

theorem filterMapping_eq (source : Source) (declarations : Declarations) (reading : Reading)
    (element : Markup.Element) :
    (filterMapping source declarations reading element).survey.app =
      (filterMapping? element).elim reading.survey.app
        (route declarations reading.survey.app) := by
  unfold filterMapping filterMapping?
  cases childText? element "filter-name" with
  | none => rfl
  | some name =>
      simp only [Option.map_some, Option.elim_some, route]
      cases mappingTarget? reading.survey.app declarations name <;> rfl

theorem listener_eq (source : Source) (reading : Reading) (element : Markup.Element) :
    (listener source reading element).survey.app =
      (declaredListener? element).elim reading.survey.app reading.survey.app.register := by
  unfold listener declaredListener?
  cases childText? element "listener-class" with
  | none => rfl
  | some className =>
      simp only [Option.map_some, Option.elim_some, Reading.count_app, Reading.update,
        Survey.register_app]

theorem displayName_eq (root : Markup.Element) (reading : Reading) :
    (displayName root reading).survey.app =
      match childText? root "display-name" with
      | none => reading.survey.app
      | some name => reading.survey.app.setDisplayName name := by
  unfold displayName
  cases childText? root "display-name" <;> rfl

/-- Reading a descriptor changes the application exactly as installing its content does. -/
theorem readRoot_app (source : Source) (reading : Reading) :
    (readRoot source reading).survey.app =
      (contentOf source.document.root).install reading.survey.app := by
  obtain ⟨servletsApp, servletNames⟩ := foldl_declare_eq (servlet_eq source)
    (source.document.root.childrenNamed "servlet")
    ((source.document.root.childrenNamed "context-param").foldl (contextParam source)
      (displayName source.document.root reading), [])
  obtain ⟨filtersApp, filterNames⟩ := foldl_declare_eq (filter_eq source)
    (source.document.root.childrenNamed "filter")
    (((source.document.root.childrenNamed "servlet").foldl (servlet source)
      ((source.document.root.childrenNamed "context-param").foldl (contextParam source)
        (displayName source.document.root reading), [])).1, [])
  rw [List.append_nil] at servletNames filterNames
  simp only [readRoot, Reading.updateApp_app, foldl_app_eq (listener_eq source), servletNames,
    filterNames, foldl_app_eq (filterMapping_eq source _),
    foldl_app_eq (servletMapping_eq source _), filtersApp, servletsApp,
    foldl_app_eq (contextParam_eq source), displayName_eq]
  rfl

/-! ## What is read is regular -/

theorem declaredComponent_eq (className : String) (kind : Kind) (name : String)
    (parameters : List (String × String)) :
    ∃ table, declaredComponent className kind name parameters =
      { (({ className, kind } : Component).addName name) with parameters := table } := by
  have general : ∀ component : Component, ∃ table, parameters.foldl
      (fun component parameter => component.addParameter parameter.1 parameter.2) component =
        { component with parameters := table } := by
    induction parameters with
    | nil => exact fun component => ⟨component.parameters, rfl⟩
    | cons parameter rest ih =>
        intro component
        obtain ⟨table, same⟩ := ih (component.addParameter parameter.1 parameter.2)
        exact ⟨table, same⟩
  exact general _

end Deployment

/-- What holds of an entry that declares a class under a name. -/
structure NamedComponent.Regular (entry : NamedComponent) (kind : Kind) : Prop where
  kind : entry.component.kind = kind
  names : ∀ name, name ∈ entry.component.names ↔ name = entry.name
  noActions : entry.component.actionMappings = []

/-- What holds of every content that is read from a descriptor. -/
structure Content.Regular (content : Content) : Prop where
  servlets : ∀ entry ∈ content.servlets, entry.Regular .servlet
  filters : ∀ entry ∈ content.filters, entry.Regular .filter
  listenerNames : ∀ component ∈ content.listeners, component.names = ∅
  listenerActions : ∀ component ∈ content.listeners, component.actionMappings = []

namespace Deployment

theorem mem_names_fresh (className : String) (kind : Kind) (name other : String) :
    other ∈ (({ className, kind } : Component).addName name).names ↔ other = name := by
  rw [Component.addName, Std.ExtTreeSet.mem_insert, Std.compare_eq_iff_eq]
  simp [eq_comm]

theorem declaredComponent_regular (className : String) (kind : Kind) (name : String)
    (parameters : List (String × String)) :
    (NamedComponent.mk name (declaredComponent className kind name parameters)).Regular kind := by
  obtain ⟨table, same⟩ := declaredComponent_eq className kind name parameters
  rw [same]
  exact ⟨rfl, fun other => mem_names_fresh className kind name other, rfl⟩

theorem declaredServlet?_regular {element : Markup.Element} {entry : NamedComponent}
    (declared : declaredServlet? element = some entry) : entry.Regular .servlet := by
  unfold declaredServlet? at declared
  split at declared
  · rename_i name className _ _
    -- the start-up order is set afterwards and has no part in it
    have regular := declaredComponent_regular className .servlet name (initParameters element)
    cases declared
    exact ⟨regular.kind, regular.names, regular.noActions⟩
  · cases declared

theorem declaredFilter?_regular {element : Markup.Element} {entry : NamedComponent}
    (declared : declaredFilter? element = some entry) : entry.Regular .filter := by
  unfold declaredFilter? at declared
  split at declared
  · rename_i name className _ _
    cases declared
    exact declaredComponent_regular className .filter name (initParameters element)
  · cases declared

theorem contentOf_regular (root : Markup.Element) : (contentOf root).Regular where
  servlets := by
    intro entry member
    obtain ⟨element, _, declared⟩ := List.mem_filterMap.mp member
    exact declaredServlet?_regular declared
  filters := by
    intro entry member
    obtain ⟨element, _, declared⟩ := List.mem_filterMap.mp member
    exact declaredFilter?_regular declared
  listenerNames := by
    intro component member
    obtain ⟨element, _, declared⟩ := List.mem_filterMap.mp member
    obtain ⟨className, _, rfl⟩ := Option.map_eq_some_iff.mp declared
    rfl
  listenerActions := by
    intro component member
    obtain ⟨element, _, declared⟩ := List.mem_filterMap.mp member
    obtain ⟨className, _, rfl⟩ := Option.map_eq_some_iff.mp declared
    rfl

end Deployment

/-! ## Installing evolves -/

theorem noActions_of_regular {entries : List NamedComponent} {kind : Kind}
    (regular : ∀ entry ∈ entries, entry.Regular kind) :
    ∀ component ∈ componentsOf entries, component.actionMappings = [] := by
  intro component member
  obtain ⟨entry, entryMember, rfl⟩ := List.mem_map.mp member
  exact (regular entry entryMember).noActions

theorem evolves_registerBare {components : List Component}
    (bare : ∀ component ∈ components, component.actionMappings = []) (app : Application) :
    app.Evolves (app.registerAll components) := by
  refine Application.evolves_registerAll components (fun component member => ?_) app
  rw [Component.mappingPaths, bare component member]
  exact List.nodup_nil

theorem Mapping.grows_addTo (mapping : Mapping) (component : Component) :
    component.Grows (mapping.addTo component) :=
  (Component.grows_foldl Component.grows_addUrlPattern mapping.urlPatterns component).trans
    (Component.grows_foldl Component.grows_addServletName mapping.servletNames _)

theorem evolves_route (declarations : Declarations) (app : Application) (mapping : Mapping) :
    app.Evolves (route declarations app mapping) := by
  unfold route
  split
  · exact Application.Evolves.refl app
  · exact Application.evolves_modify app _ mapping.grows_addTo

namespace Content

theorem evolves_entitle (content : Content) (app : Application) :
    app.Evolves (content.entitle app) := by
  unfold entitle
  split
  · exact Application.Evolves.refl app
  · exact Application.evolves_setDisplayName app _

theorem evolves_foldl_addContextPair (parameters : List (String × String))
    (app : Application) : app.Evolves (parameters.foldl addContextPair app) :=
  Application.evolves_foldl id parameters
    (fun parameter _ app => Application.evolves_addContextParam app parameter.1 parameter.2) app

theorem evolves_configure (content : Content) (app : Application) :
    app.Evolves (content.configure app) :=
  (content.evolves_entitle app).trans (evolves_foldl_addContextPair content.contextParams _)

theorem evolves_declare {content : Content} (regular : content.Regular)
    (app : Application) : app.Evolves (content.declare app) :=
  ((content.evolves_configure app).trans
    (evolves_registerBare (noActions_of_regular regular.servlets) _)).trans
    (evolves_registerBare (noActions_of_regular regular.filters) _)

theorem evolves_routeAll (content : Content) (app : Application) :
    app.Evolves (content.routeAll app) :=
  (Application.evolves_foldl id content.servletMappings
    (fun mapping _ app => evolves_route _ app mapping) app).trans
    (Application.evolves_foldl id content.filterMappings
      (fun mapping _ app => evolves_route _ app mapping) _)

theorem evolves_complete {content : Content} (regular : content.Regular)
    (app : Application) : app.Evolves (content.complete app) :=
  (evolves_registerBare regular.listenerActions app).trans
    (Application.evolves_foldl id content.injections
      (fun injection _ app => Application.evolves_addInjection app injection) _)

theorem evolves_install {content : Content} (regular : content.Regular)
    (app : Application) : app.Evolves (content.install app) :=
  ((evolves_declare regular app).trans (content.evolves_routeAll _)).trans
    (evolves_complete regular _)

end Content

end Descriptor

end ContainerReplay
