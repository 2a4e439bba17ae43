import ContainerReplay.Proofs.DeploymentContent

/-!
# The stages of reading a descriptor

A descriptor is read in three stages: all that it declares, the mappings of its two sections, and
what comes after the mappings.  What a stage does to the application is what the content says for
it, and the names under which mappings are looked up are those of the content's sections.
-/

set_option autoImplicit false

namespace ContainerReplay.Descriptor

/-- How a descriptor maps to the components of one family: the elements, and what is said about one
that cannot be taken. -/
structure MappingForm where
  element : String
  mapping? : Markup.Element → Option Mapping
  unnamed : String
  unknown : String → String

namespace MappingForm

def servlets : MappingForm where
  element := "servlet-mapping"
  mapping? := Deployment.servletMapping?
  unnamed := "<servlet-mapping> without <servlet-name>"
  unknown := fun name => s!"mapping for unknown servlet '{name}'"

def filters : MappingForm where
  element := "filter-mapping"
  mapping? := Deployment.filterMapping?
  unnamed := "<filter-mapping> without <filter-name>"
  unknown := fun name => s!"mapping for unknown filter '{name}'"

/-- Takes a mapping, or skips it. -/
def take (form : MappingForm) (source : Source) (declarations : Declarations) (reading : Reading)
    (element : Markup.Element) : Reading :=
  match form.mapping? element with
  | none => reading.skip source element form.unnamed
  | some mapping =>
      match Deployment.mappingTarget? reading.survey.app declarations mapping.name with
      | none => reading.skip source element (form.unknown mapping.name)
      | some className => (reading.updateApp fun app => app.modify className mapping.addTo).count

theorem take_app (form : MappingForm) (source : Source) (declarations : Declarations)
    (reading : Reading) (element : Markup.Element) :
    (form.take source declarations reading element).survey.app =
      (form.mapping? element).elim reading.survey.app (route declarations reading.survey.app) := by
  unfold take
  cases form.mapping? element with
  | none => rfl
  | some mapping =>
      simp only [Option.elim_some, route]
      cases Deployment.mappingTarget? reading.survey.app declarations mapping.name <;> rfl

theorem servlets_take : servlets.take = Deployment.servletMapping := by
  funext source declarations reading element
  simp only [take, servlets, Deployment.servletMapping?, Deployment.servletMapping]
  cases childText? element "servlet-name" with
  | none => rfl
  | some name =>
      cases Deployment.mappingTarget? reading.survey.app declarations name <;> rfl

theorem filters_take : filters.take = Deployment.filterMapping := by
  funext source declarations reading element
  simp only [take, filters, Deployment.filterMapping?, Deployment.filterMapping]
  cases childText? element "filter-name" with
  | none => rfl
  | some name =>
      cases Deployment.mappingTarget? reading.survey.app declarations name <;> rfl

end MappingForm

namespace Deployment

variable (source : Source) (reading : Reading)

/-- A reading with the display name and the parameters. -/
def configured : Reading :=
  (source.document.root.childrenNamed "context-param").foldl (contextParam source)
    (displayName source.document.root reading)

/-- A reading with the servlets, and the names that these declare. -/
def withServlets : Reading × Declarations :=
  (source.document.root.childrenNamed "servlet").foldl (servlet source)
    (configured source reading, [])

/-- A reading with the filters, and the names that these declare. -/
def withFilters : Reading × Declarations :=
  (source.document.root.childrenNamed "filter").foldl (filter source)
    ((withServlets source reading).1, [])

/-- A reading as it stands when the first mapping is taken. -/
def declaring : Reading := (withFilters source reading).1

/-- A reading after some servlet mappings. -/
def routingServlets (mappings : List Markup.Element) : Reading :=
  mappings.foldl
    (MappingForm.servlets.take source
      (declarationsOf (contentOf source.document.root).servlets))
    (declaring source reading)

/-- A reading after all servlet mappings and some filter mappings. -/
def routingFilters (mappings : List Markup.Element) : Reading :=
  mappings.foldl
    (MappingForm.filters.take source
      (declarationsOf (contentOf source.document.root).filters))
    (routingServlets source reading (source.document.root.childrenNamed "servlet-mapping"))

/-- A reading as it stands when the last mapping was taken. -/
def routed : Reading :=
  routingFilters source reading (source.document.root.childrenNamed "filter-mapping")

/-- A reading with the listeners. -/
def withListeners : Reading :=
  (source.document.root.childrenNamed "listener").foldl (listener source) (routed source reading)

theorem withServlets_eq :
    (withServlets source reading).1.survey.app =
        (configured source reading).survey.app.registerAll
          (componentsOf (contentOf source.document.root).servlets) ∧
      (withServlets source reading).2 =
        declarationsOf (contentOf source.document.root).servlets := by
  obtain ⟨app, names⟩ := foldl_declare_eq (servlet_eq source)
    (source.document.root.childrenNamed "servlet") (configured source reading, [])
  rw [List.append_nil] at names
  exact ⟨app, names⟩

theorem withFilters_eq :
    (withFilters source reading).1.survey.app =
        (withServlets source reading).1.survey.app.registerAll
          (componentsOf (contentOf source.document.root).filters) ∧
      (withFilters source reading).2 =
        declarationsOf (contentOf source.document.root).filters := by
  obtain ⟨app, names⟩ := foldl_declare_eq (filter_eq source)
    (source.document.root.childrenNamed "filter") ((withServlets source reading).1, [])
  rw [List.append_nil] at names
  exact ⟨app, names⟩

theorem readRoot_eq :
    readRoot source reading =
      (withListeners source reading).updateApp fun app =>
        (allInjections source.document.root).foldl Application.addInjection app := by
  have servletNames := (withServlets_eq source reading).2
  have filterNames := (withFilters_eq source reading).2
  unfold withListeners routed routingFilters routingServlets
  rw [← servletNames, ← filterNames, MappingForm.servlets_take, MappingForm.filters_take]
  rfl

theorem configured_app :
    (configured source reading).survey.app =
      (contentOf source.document.root).configure reading.survey.app := by
  rw [configured, foldl_app_eq (contextParam_eq source), displayName_eq]
  rfl

theorem declaring_app :
    (declaring source reading).survey.app =
      (contentOf source.document.root).declare reading.survey.app := by
  rw [declaring, (withFilters_eq source reading).1, (withServlets_eq source reading).1,
    configured_app]
  rfl

theorem routingServlets_app (mappings : List Markup.Element) :
    (routingServlets source reading mappings).survey.app =
      (mappings.filterMap MappingForm.servlets.mapping?).foldl
        (route (declarationsOf (contentOf source.document.root).servlets))
        ((contentOf source.document.root).declare reading.survey.app) := by
  rw [routingServlets, foldl_app_eq (MappingForm.servlets.take_app source _), declaring_app]

theorem routingFilters_app (mappings : List Markup.Element) :
    (routingFilters source reading mappings).survey.app =
      (mappings.filterMap MappingForm.filters.mapping?).foldl
        (route (declarationsOf (contentOf source.document.root).filters))
        ((contentOf source.document.root).servletMappings.foldl
          (route (declarationsOf (contentOf source.document.root).servlets))
          ((contentOf source.document.root).declare reading.survey.app)) := by
  rw [routingFilters, foldl_app_eq (MappingForm.filters.take_app source _), routingServlets_app]
  rfl

theorem routed_app :
    (routed source reading).survey.app =
      (contentOf source.document.root).routeAll
        ((contentOf source.document.root).declare reading.survey.app) :=
  routingFilters_app source reading _

end Deployment

end ContainerReplay.Descriptor
