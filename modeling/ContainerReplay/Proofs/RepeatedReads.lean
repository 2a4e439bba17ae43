import ContainerReplay.Proofs.DeploymentStages
import ContainerReplay.Proofs.Reinstalling

/-!
# Descriptors read again

A descriptor that is read twice in a row changes nothing the second time, and the second read counts
and remarks what the first one did.  The two reads are followed element by element: the first on an
application that grows towards the final one, the second on the final one.
-/

set_option autoImplicit false

namespace ContainerReplay

/-! ## Growth that keeps kinds -/

/-- Nothing is lost, and every component keeps its kind. -/
structure Application.Precedes (before after : Application) : Prop where
  grows : before.Grows after
  kind : ∀ className component later, before.component? className = some component →
    after.component? className = some later → later.kind = component.kind

namespace Application

theorem Precedes.refl (app : Application) : app.Precedes app where
  grows := Grows.refl app
  kind := by
    intro className component later found foundLater
    rw [found] at foundLater
    cases foundLater
    rfl

theorem Precedes.trans {first second third : Application} (lower : first.Precedes second)
    (upper : second.Precedes third) : first.Precedes third where
  grows := lower.grows.trans upper.grows
  kind := by
    intro className component later found foundLater
    obtain ⟨between, foundBetween, _⟩ := lower.grows.components className component found
    rw [upper.kind className between later foundBetween foundLater]
    exact lower.kind className component between found foundBetween

theorem precedes_of_components {before after : Application} (evolves : before.Evolves after)
    (components : ∀ className, after.component? className = before.component? className) :
    before.Precedes after where
  grows := evolves.grows
  kind := by
    intro className component later found foundLater
    rw [components, found] at foundLater
    cases foundLater
    rfl

theorem precedes_register (app : Application) {component : Component}
    (plain : component.kind ≠ .actionServlet) : app.Precedes (app.register component) where
  grows := grows_register app component
  kind := by
    intro className existing later found foundLater
    rw [component?_register] at foundLater
    by_cases same : component.className = className
    · rw [if_pos same, found] at foundLater
      cases foundLater
      rw [Component.meeting, Component.merge_eq, Component.kindAfter_outcome, if_neg]
      intro refined
      exact plain ((Kind.refines_iff _ _).mp refined).1
    · rw [if_neg same, found] at foundLater
      cases foundLater
      rfl

theorem precedes_modify (app : Application) (target : String) {change : Component → Component}
    (grows : ∀ component : Component, component.Grows (change component))
    (kind : ∀ component : Component, (change component).kind = component.kind) :
    app.Precedes (app.modify target change) where
  grows := (evolves_modify app target grows).grows
  kind := by
    intro className existing later found foundLater
    rw [component?_modify] at foundLater
    by_cases same : target = className
    · rw [if_pos same, found] at foundLater
      cases foundLater
      exact kind existing
    · rw [if_neg same, found] at foundLater
      cases foundLater
      rfl

end Application

theorem foldl_precedes {σ α : Type} (view : σ → Application) {take : σ → α → σ}
    (precedes : ∀ state item, (view state).Precedes (view (take state item))) (items : List α)
    (state : σ) : (view state).Precedes (view (items.foldl take state)) := by
  induction items generalizing state with
  | nil => exact Application.Precedes.refl (view state)
  | cons item rest ih => exact (precedes state item).trans (ih (take state item))

/-- Two states that are related stay so while items are taken, as long as the first one has not
passed a final application. -/
theorem foldl_related {σ α : Type} (view : σ → Application) {final : Application}
    {Related : σ → σ → Prop} {take : σ → α → σ}
    (precedes : ∀ state item, (view state).Precedes (view (take state item)))
    (step : ∀ first second item, Related first second →
      (view (take first item)).Precedes final → Related (take first item) (take second item))
    (items : List α) {first second : σ} (related : Related first second)
    (within : (view (items.foldl take first)).Precedes final) :
    Related (items.foldl take first) (items.foldl take second) := by
  induction items generalizing first second with
  | nil => exact related
  | cons item rest ih =>
      have later := foldl_precedes view precedes rest (take first item)
      exact ih (step first second item related (later.trans within)) within

namespace Descriptor

/-! ## Two reads side by side -/

/-- The second reading stands where a finished read has left the application; since they began the
two have counted and remarked the same. -/
structure Echoes (began finished : Survey) (first second : Reading) : Prop where
  app : second.survey.app = finished.app
  summary : second.summary = first.summary
  diagnostics : ∃ said, first.survey.diagnostics = began.diagnostics ++ said ∧
    second.survey.diagnostics = finished.diagnostics ++ said

namespace Echoes

variable {began finished : Survey} {first second : Reading}

theorem start (began finished : Survey) : Echoes began finished ⟨began, {}⟩ ⟨finished, {}⟩ where
  app := rfl
  summary := rfl
  diagnostics := ⟨[], (List.append_nil _).symm, (List.append_nil _).symm⟩

theorem count (echoes : Echoes began finished first second) :
    Echoes began finished first.count second.count where
  app := echoes.app
  summary := by simp only [Reading.count, echoes.summary]
  diagnostics := echoes.diagnostics

theorem remark (echoes : Echoes began finished first second) (source : Source)
    (severity : Severity) (message : String) :
    Echoes began finished (first.remark source severity message)
      (second.remark source severity message) where
  app := echoes.app
  summary := echoes.summary
  diagnostics := by
    obtain ⟨said, saidFirst, saidSecond⟩ := echoes.diagnostics
    refine ⟨said ++ [⟨severity, message, some source.resource⟩], ?_, ?_⟩
    · simp only [Reading.remark, Reading.update, Survey.record, saidFirst, List.append_assoc]
    · simp only [Reading.remark, Reading.update, Survey.record, saidSecond, List.append_assoc]

theorem skip (echoes : Echoes began finished first second) (source : Source)
    (element : Markup.Element) (reason : String) :
    Echoes began finished (first.skip source element reason)
      (second.skip source element reason) where
  app := echoes.app
  summary := by
    simp only [Reading.skip, Reading.skipSaying, Reading.remark, Reading.update, echoes.summary]
  diagnostics :=
    (echoes.remark source .warn s!"Skipping {reason} at {source.position element}").diagnostics

/-- What the first reading does to the application has been done in the second. -/
theorem updateApp (echoes : Echoes began finished first second)
    {change : Application → Application} (done : change finished.app = finished.app) :
    Echoes began finished (first.updateApp change) (second.updateApp change) where
  app := by rw [Reading.updateApp_app, echoes.app, done]
  summary := echoes.summary
  diagnostics := echoes.diagnostics

/-- A component that is no front controller is remarked on in the finished application as it was when
it was registered first. -/
theorem remarksOn_eq {app final : Application} {component : Component}
    (plain : component.kind ≠ .actionServlet)
    (within : (app.register component).Precedes final) :
    Survey.remarksOn component (app.outcome component) =
      Survey.remarksOn component (final.outcome component) := by
  obtain ⟨stored, found, _⟩ := Application.covers_register app component
  obtain ⟨later, foundLater, _⟩ := within.grows.components _ stored found
  have kept := within.kind _ stored later found foundLater
  have registered := found
  rw [Application.component?_register, if_pos rfl] at registered
  simp only [Application.outcome, foundLater]
  cases present : app.component? component.className with
  | none =>
      -- what is new becomes the component itself, which meets its own kind from then on
      rw [present] at registered
      cases registered
      have own : later.kind = component.kind := kept
      simp [Component.outcome, MergeOutcome.ofKinds, own, Survey.remarksOn]
  | some existing =>
      have same := (Application.precedes_register app plain).kind _ existing stored present found
      simp only [Component.outcome, kept, same]

theorem register (echoes : Echoes began finished first second) {component : Component}
    (plain : component.kind ≠ .actionServlet) (noActions : component.actionMappings = [])
    (within : (first.survey.app.register component).Precedes finished.app) :
    Echoes began finished (first.update fun survey => survey.register component)
      (second.update fun survey => survey.register component) where
  app := by
    have covered := (Application.covers_register first.survey.app component).grows within.grows
    rw [Reading.update, Survey.register_app, echoes.app,
      Application.register_eq_self covered noActions]
  summary := echoes.summary
  diagnostics := by
    obtain ⟨said, saidFirst, saidSecond⟩ := echoes.diagnostics
    refine ⟨said ++ Survey.remarksOn component (first.survey.app.outcome component), ?_, ?_⟩
    · rw [Reading.update, Survey.register_diagnostics, saidFirst, List.append_assoc]
    · rw [Reading.update, Survey.register_diagnostics, saidSecond, echoes.app, List.append_assoc,
        remarksOn_eq plain within]

end Echoes

/-- The pairs of readings and declared names that two reads have come to. -/
def EchoesDeclaring (began finished : Survey) (first second : Reading × Declarations) : Prop :=
  Echoes began finished first.1 second.1 ∧ second.2 = first.2

namespace Deployment

open Application

variable {began finished : Survey}

/-! ## Elements that declare -/

theorem precedes_contextParam (source : Source) (reading : Reading) (element : Markup.Element) :
    reading.survey.app.Precedes (contextParam source reading element).survey.app := by
  rw [contextParam_eq]
  cases parameter? element with
  | none => exact Precedes.refl _
  | some pair => exact precedes_of_components (evolves_addContextParam _ _ _) fun _ => rfl

theorem precedes_servlet (source : Source) (state : Reading × Declarations)
    (element : Markup.Element) :
    state.1.survey.app.Precedes (servlet source state element).1.survey.app := by
  rw [(servlet_eq source state element).1]
  cases declared : declaredServlet? element with
  | none => exact Precedes.refl _
  | some entry =>
      refine precedes_register _ ?_
      rw [(declaredServlet?_regular declared).kind]
      decide

theorem precedes_filter (source : Source) (state : Reading × Declarations)
    (element : Markup.Element) :
    state.1.survey.app.Precedes (filter source state element).1.survey.app := by
  rw [(filter_eq source state element).1]
  cases declared : declaredFilter? element with
  | none => exact Precedes.refl _
  | some entry =>
      refine precedes_register _ ?_
      rw [(declaredFilter?_regular declared).kind]
      decide

theorem precedes_listener (source : Source) (reading : Reading) (element : Markup.Element) :
    reading.survey.app.Precedes (listener source reading element).survey.app := by
  rw [listener_eq]
  cases declared : declaredListener? element with
  | none => exact Precedes.refl _
  | some component =>
      obtain ⟨className, _, rfl⟩ := Option.map_eq_some_iff.mp declared
      refine precedes_register _ ?_
      intro same
      cases same

theorem echoes_displayName {first second : Reading} (root : Markup.Element)
    (echoes : Echoes began finished first second)
    (within : (displayName root first).survey.app.Precedes finished.app) :
    Echoes began finished (displayName root first) (displayName root second) := by
  unfold displayName at within ⊢
  cases named : childText? root "display-name" with
  | none => exact echoes
  | some name =>
      rw [named] at within
      refine echoes.updateApp ?_
      have present : ((first.updateApp fun app => app.setDisplayName name).survey.app).displayName =
          some (first.survey.app.displayName.getD name) := by
        simp only [Reading.updateApp_app, setDisplayName]
        cases first.survey.app.displayName <;> rfl
      rw [setDisplayName, within.grows.displayName _ present, Option.some_or,
        ← within.grows.displayName _ present]

theorem echoes_contextParam (source : Source) {first second : Reading} (element : Markup.Element)
    (echoes : Echoes began finished first second)
    (within : (contextParam source first element).survey.app.Precedes finished.app) :
    Echoes began finished (contextParam source first element)
      (contextParam source second element) := by
  unfold contextParam at within ⊢
  cases read : parameter? element with
  | none => exact echoes.skip source element _
  | some pair =>
      rw [read] at within
      have present : pair.1 ∈ (addContextPair first.survey.app pair).contextParams :=
        Std.ExtTreeMap.mem_insertIfNew.mpr (Or.inl Std.compare_self)
      have kept : [pair].foldl addContextPair finished.app = finished.app := by
        refine Content.foldl_addContextPair_eq_self fun parameter member => ?_
        rw [List.mem_singleton.mp member]
        rw [Std.ExtTreeMap.mem_iff_isSome_getElem?, Option.isSome_iff_exists] at present ⊢
        obtain ⟨value, found⟩ := present
        exact ⟨value, within.grows.contextParams _ value found⟩
      exact echoes.updateApp kept

theorem echoes_initParams (source : Source) (element : Markup.Element) {first second : Reading}
    (component : Component) (echoes : Echoes began finished first second) :
    Echoes began finished (initParams source element first component).1
        (initParams source element second component).1 ∧
      (initParams source element second component).2 =
        (initParams source element first component).2 := by
  unfold initParams
  induction element.childrenNamed "init-param" generalizing first second component with
  | nil => exact ⟨echoes, rfl⟩
  | cons parameter rest ih =>
      simp only [List.foldl_cons, initParam]
      cases parameter? parameter with
      | none => exact ih component (echoes.skip source parameter _)
      | some pair => exact ih (component.addParameter pair.1 pair.2) echoes

theorem echoes_startupOrder (source : Source) (element : Markup.Element) (name : String)
    {first second : Reading × Component} (echoes : Echoes began finished first.1 second.1)
    (same : second.2 = first.2) :
    Echoes began finished (startupOrder source element name first).1
        (startupOrder source element name second).1 ∧
      (startupOrder source element name second).2 =
        (startupOrder source element name first).2 := by
  unfold startupOrder
  cases childText? element "load-on-startup" with
  | none => exact ⟨echoes, same⟩
  | some order =>
      simp only
      cases Text.readInt Text.maxInt32 order with
      | ok value => exact ⟨echoes, by simp only [same]⟩
      | error fault => exact ⟨echoes.remark source .warn _, same⟩

theorem echoes_declare (name : String) (declarations : Declarations)
    {first second : Reading × Component} (echoes : Echoes began finished first.1 second.1)
    (same : second.2 = first.2) (plain : first.2.kind ≠ .actionServlet)
    (noActions : first.2.actionMappings = [])
    (within : (declare name declarations first).1.survey.app.Precedes finished.app) :
    EchoesDeclaring began finished (declare name declarations first)
      (declare name declarations second) := by
  simp only [declare, Reading.count_app, Reading.update, Survey.register_app] at within
  unfold declare
  rw [same]
  exact ⟨(echoes.register plain noActions within).count, rfl⟩

/-- What the init parameters of an element leave of the component that they are added to. -/
theorem initParams_regular (source : Source) (element : Markup.Element) (reading : Reading)
    (className : String) (kind : Kind) (name : String) :
    (initParams source element reading
        (({ className, kind } : Component).addName name)).2.kind = kind ∧
      (initParams source element reading
        (({ className, kind } : Component).addName name)).2.actionMappings = [] := by
  obtain ⟨table, built⟩ := declaredComponent_eq className kind name (initParameters element)
  have params := (initParams_eq source element reading
    (({ className, kind } : Component).addName name)).2
  rw [declaredComponent] at built
  rw [params, built]
  exact ⟨rfl, rfl⟩

theorem echoes_servlet (source : Source) {first second : Reading × Declarations}
    (element : Markup.Element) (echoes : EchoesDeclaring began finished first second)
    (within : (servlet source first element).1.survey.app.Precedes finished.app) :
    EchoesDeclaring began finished (servlet source first element)
      (servlet source second element) := by
  obtain ⟨readings, names⟩ := echoes
  unfold servlet at within ⊢
  cases named : childText? element "servlet-name" with
  | none => exact ⟨readings.skip source element _, names⟩
  | some name =>
      cases ofClass : childText? element "servlet-class" with
      | none =>
          cases childText? element "jsp-file" with
          | none => exact ⟨readings.skip source element _, names⟩
          | some file => exact ⟨readings.remark source .info _, names⟩
      | some className =>
          simp only [named, ofClass] at within ⊢
          let bare := ({ className, kind := .servlet } : Component).addName name
          obtain ⟨params, sameParams⟩ := echoes_initParams source element bare readings
          obtain ⟨order, sameOrder⟩ := echoes_startupOrder source element name params sameParams
          obtain ⟨kind, noActions⟩ :=
            initParams_regular source element first.1 className .servlet name
          have started := (startupOrder_eq source element name
            (initParams source element first.1 bare)).2
          rw [names]
          refine echoes_declare name first.2 order sameOrder ?_ ?_ within
          · rw [started]
            simp only [bare, kind]
            decide
          · rw [started]
            exact noActions

theorem echoes_filter (source : Source) {first second : Reading × Declarations}
    (element : Markup.Element) (echoes : EchoesDeclaring began finished first second)
    (within : (filter source first element).1.survey.app.Precedes finished.app) :
    EchoesDeclaring began finished (filter source first element)
      (filter source second element) := by
  obtain ⟨readings, names⟩ := echoes
  unfold filter at within ⊢
  cases named : childText? element "filter-name" with
  | none => exact ⟨readings.skip source element _, names⟩
  | some name =>
      cases ofClass : childText? element "filter-class" with
      | none => exact ⟨readings.skip source element _, names⟩
      | some className =>
          simp only [named, ofClass] at within ⊢
          let bare := ({ className, kind := .filter } : Component).addName name
          obtain ⟨params, sameParams⟩ := echoes_initParams source element bare readings
          obtain ⟨kind, noActions⟩ :=
            initParams_regular source element first.1 className .filter name
          rw [names]
          refine echoes_declare name first.2 params sameParams ?_ noActions within
          rw [kind]
          decide

theorem echoes_listener (source : Source) {first second : Reading} (element : Markup.Element)
    (echoes : Echoes began finished first second)
    (within : (listener source first element).survey.app.Precedes finished.app) :
    Echoes began finished (listener source first element) (listener source second element) := by
  unfold listener at within ⊢
  cases named : childText? element "listener-class" with
  | none => exact echoes.skip source element _
  | some className =>
      simp only [named, Reading.count_app, Reading.update, Survey.register_app] at within
      refine (echoes.register ?_ rfl within).count
      intro same
      cases same

/-! ## Mappings -/

/-- What stands when mappings are taken: the application that declares the same classes under the
same names as the finished one, and the classes that a section declares. -/
structure Routing (declared : List NamedComponent) (app final : Application) : Prop where
  wellFormed : app.WellFormed
  stands : Stands declared app
  declares : ∀ className name, app.Declares className name ↔ final.Declares className name

theorem Routing.route {declared : List NamedComponent} {app final : Application}
    (routing : Routing declared app final) (declarations : Declarations) (mapping : Mapping) :
    Routing declared (route declarations app mapping) final where
  wellFormed := (evolves_route declarations app mapping).wellFormed routing.wellFormed
  stands := routing.stands.grows (evolves_route declarations app mapping).grows
  declares := fun className name =>
    (declares_route declarations app mapping className name).trans (routing.declares className name)

/-- A mapping is for the same class as in the finished application, and has been taken there. -/
theorem Routing.taken {declared : List NamedComponent} {app final : Application}
    (routing : Routing declared app final) (finalKeyed : final.Keyed) (mapping : Mapping)
    (within : (Descriptor.route (declarationsOf declared) app mapping).Grows final) :
    mappingTarget? final (declarationsOf declared) mapping.name =
        mappingTarget? app (declarationsOf declared) mapping.name ∧
      Descriptor.route (declarationsOf declared) final mapping = final := by
  have grown := (evolves_route (declarationsOf declared) app mapping).grows.trans within
  have same := mappingTarget?_congr finalKeyed routing.wellFormed.keyed
    (routing.stands.grows grown) routing.stands
    fun _ className => (routing.declares className mapping.name).symm
  refine ⟨same, route_eq_self fun className target => ?_⟩
  rw [same] at target
  exact (route_carries routing.wellFormed.keyed target).grows within

/-- Two reads that have come to the same mapping of a section. -/
structure EchoesRouting (began finished : Survey) (declared : List NamedComponent)
    (first second : Reading) : Prop where
  echoes : Echoes began finished first second
  routing : Routing declared first.survey.app finished.app

theorem echoes_take (form : MappingForm) (source : Source) {declared : List NamedComponent}
    (finishedKeyed : finished.app.Keyed) {first second : Reading} (element : Markup.Element)
    (related : EchoesRouting began finished declared first second)
    (within : (form.take source (declarationsOf declared) first element).survey.app.Precedes
      finished.app) :
    EchoesRouting began finished declared
      (form.take source (declarationsOf declared) first element)
      (form.take source (declarationsOf declared) second element) := by
  obtain ⟨echoes, routing⟩ := related
  have reached := form.take_app source (declarationsOf declared) first element
  rw [reached] at within
  cases read : form.mapping? element with
  | none =>
      rw [read] at reached
      simp only [MappingForm.take, read]
      exact ⟨echoes.skip source element _, routing⟩
  | some mapping =>
      simp only [read, Option.elim_some] at within reached
      obtain ⟨same, done⟩ := routing.taken finishedKeyed mapping within.grows
      refine ⟨?_, reached ▸ routing.route _ mapping⟩
      simp only [MappingForm.take, read]
      rw [echoes.app, same]
      cases target : mappingTarget? first.survey.app (declarationsOf declared) mapping.name with
      | none => exact echoes.skip source element _
      | some className =>
          rw [route, same, target] at done
          exact (echoes.updateApp done).count

theorem precedes_take (form : MappingForm) (source : Source) (declarations : Declarations)
    (reading : Reading) (element : Markup.Element) :
    reading.survey.app.Precedes (form.take source declarations reading element).survey.app := by
  rw [form.take_app]
  cases form.mapping? element with
  | none => exact Precedes.refl _
  | some mapping =>
      simp only [Option.elim_some, route]
      split
      · exact Precedes.refl _
      · refine precedes_modify _ _ mapping.grows_addTo fun component => ?_
        rw [Mapping.addTo_eq]

/-! ## The whole read -/

section

variable (source : Source) (survey : Survey)

theorem precedes_configured (reading : Reading) :
    (displayName source.document.root reading).survey.app.Precedes
      (configured source reading).survey.app :=
  foldl_precedes (fun reading : Reading => reading.survey.app) (precedes_contextParam source) _ _

theorem precedes_withServlets (reading : Reading) :
    (configured source reading).survey.app.Precedes (withServlets source reading).1.survey.app :=
  foldl_precedes (fun state : Reading × Declarations => state.1.survey.app)
    (precedes_servlet source) _ (configured source reading, [])

theorem precedes_withFilters (reading : Reading) :
    (withServlets source reading).1.survey.app.Precedes (declaring source reading).survey.app :=
  foldl_precedes (fun state : Reading × Declarations => state.1.survey.app)
    (precedes_filter source) _ ((withServlets source reading).1, [])

theorem precedes_routingServlets (reading : Reading) (mappings : List Markup.Element) :
    (declaring source reading).survey.app.Precedes
      (routingServlets source reading mappings).survey.app :=
  foldl_precedes (fun reading : Reading => reading.survey.app)
    (precedes_take MappingForm.servlets source _) mappings _

theorem precedes_routingFilters (reading : Reading) (mappings : List Markup.Element) :
    (routingServlets source reading
        (source.document.root.childrenNamed "servlet-mapping")).survey.app.Precedes
      (routingFilters source reading mappings).survey.app :=
  foldl_precedes (fun reading : Reading => reading.survey.app)
    (precedes_take MappingForm.filters source _) mappings _

theorem precedes_withListeners (reading : Reading) :
    (routed source reading).survey.app.Precedes (withListeners source reading).survey.app :=
  foldl_precedes (fun reading : Reading => reading.survey.app) (precedes_listener source) _ _

theorem precedes_readRoot (reading : Reading) :
    (withListeners source reading).survey.app.Precedes
      (readRoot source reading).survey.app := by
  rw [readRoot_eq, Reading.updateApp_app]
  refine foldl_precedes id (fun app injection => ?_) _ _
  exact precedes_of_components (evolves_addInjection app injection) fun _ => rfl

/-- What stands when the first mapping is taken. -/
theorem routing_declaring (wellFormed : survey.app.WellFormed) :
    Routing (contentOf source.document.root).servlets
      (declaring source ⟨survey, {}⟩).survey.app (readRoot source ⟨survey, {}⟩).survey.app := by
  have regular := contentOf_regular source.document.root
  rw [declaring_app, readRoot_app]
  refine ⟨(Content.evolves_declare regular survey.app).wellFormed wellFormed,
    Content.stands_servlets survey.app, fun className name => ?_⟩
  rw [Content.declares_declare, Content.declares_install regular]

/-- The second read has declared what the first one had declared. -/
theorem echoes_declaring {finished : Survey}
    (within : (declaring source ⟨survey, {}⟩).survey.app.Precedes finished.app) :
    Echoes survey finished (declaring source ⟨survey, {}⟩) (declaring source ⟨finished, {}⟩) := by
  -- what a section leaves precedes what the later ones leave
  have withinServlets := (precedes_withFilters source ⟨survey, {}⟩).trans within
  have withinParams := (precedes_withServlets source ⟨survey, {}⟩).trans withinServlets
  have withinName := (precedes_configured source ⟨survey, {}⟩).trans withinParams
  have entitled :=
    echoes_displayName source.document.root (Echoes.start survey finished) withinName
  have configured : Echoes survey finished (configured source ⟨survey, {}⟩)
      (configured source ⟨finished, {}⟩) :=
    foldl_related (fun reading : Reading => reading.survey.app) (precedes_contextParam source)
      (fun _ _ element => echoes_contextParam source element) _ entitled withinParams
  have servlets : EchoesDeclaring survey finished (withServlets source ⟨survey, {}⟩)
      (withServlets source ⟨finished, {}⟩) :=
    foldl_related (fun state : Reading × Declarations => state.1.survey.app)
      (precedes_servlet source) (fun _ _ element => echoes_servlet source element) _
      ⟨configured, rfl⟩ withinServlets
  have filters : EchoesDeclaring survey finished (withFilters source ⟨survey, {}⟩)
      (withFilters source ⟨finished, {}⟩) :=
    foldl_related (fun state : Reading × Declarations => state.1.survey.app)
      (precedes_filter source) (fun _ _ element => echoes_filter source element) _
      ⟨servlets.1, rfl⟩ within
  exact filters.1

/-- The second read has taken the mappings that the first one had taken. -/
theorem echoes_routed {finished : Survey} (finishedKeyed : finished.app.Keyed)
    (declared : Echoes survey finished (declaring source ⟨survey, {}⟩)
      (declaring source ⟨finished, {}⟩))
    (routing : Routing (contentOf source.document.root).servlets
      (declaring source ⟨survey, {}⟩).survey.app finished.app)
    (within : (routed source ⟨survey, {}⟩).survey.app.Precedes finished.app) :
    Echoes survey finished (routed source ⟨survey, {}⟩) (routed source ⟨finished, {}⟩) := by
  let mappings := source.document.root.childrenNamed "servlet-mapping"
  have withinServlets := (precedes_routingFilters source ⟨survey, {}⟩ _).trans within
  have servlets : EchoesRouting survey finished (contentOf source.document.root).servlets
      (routingServlets source ⟨survey, {}⟩ mappings)
      (routingServlets source ⟨finished, {}⟩ mappings) :=
    foldl_related (fun reading : Reading => reading.survey.app)
      (precedes_take MappingForm.servlets source _)
      (fun _ _ element => echoes_take MappingForm.servlets source finishedKeyed element) _
      ⟨declared, routing⟩ withinServlets
  -- the names of the filters are looked up in what the mappings of servlets have left
  have filtersStand : Stands (contentOf source.document.root).filters
      (routingServlets source ⟨survey, {}⟩ mappings).survey.app := by
    have stands := @Content.stands_filters (contentOf source.document.root) survey.app
    rw [← declaring_app source ⟨survey, {}⟩] at stands
    exact stands.grows (precedes_routingServlets source ⟨survey, {}⟩ _).grows
  have filters : EchoesRouting survey finished (contentOf source.document.root).filters
      (routed source ⟨survey, {}⟩) (routed source ⟨finished, {}⟩) :=
    foldl_related (fun reading : Reading => reading.survey.app)
      (precedes_take MappingForm.filters source _)
      (fun _ _ element => echoes_take MappingForm.filters source finishedKeyed element) _
      ⟨servlets.echoes, servlets.routing.wellFormed, filtersStand, servlets.routing.declares⟩
      within
  exact filters.echoes

/-- A read of what the same read has left echoes it, and changes nothing. -/
theorem readRoot_echoes (wellFormed : survey.app.WellFormed) :
    Echoes survey (readRoot source ⟨survey, {}⟩).survey (readRoot source ⟨survey, {}⟩)
      (readRoot source ⟨(readRoot source ⟨survey, {}⟩).survey, {}⟩) := by
  let finished := (readRoot source ⟨survey, {}⟩).survey
  have regular := contentOf_regular source.document.root
  have finishedKeyed : finished.app.Keyed := by
    simp only [finished, readRoot_app]
    exact ((Content.evolves_install regular survey.app).wellFormed wellFormed).keyed
  have withinListeners : (withListeners source ⟨survey, {}⟩).survey.app.Precedes finished.app :=
    precedes_readRoot source ⟨survey, {}⟩
  have withinRouted := (precedes_withListeners source ⟨survey, {}⟩).trans withinListeners
  have withinDeclared := (precedes_routingServlets source ⟨survey, {}⟩ _).trans
    ((precedes_routingFilters source ⟨survey, {}⟩ _).trans withinRouted)
  have routed := echoes_routed source survey finishedKeyed
    (echoes_declaring source survey withinDeclared) (routing_declaring source survey wellFormed)
    withinRouted
  have listeners : Echoes survey finished (withListeners source ⟨survey, {}⟩)
      (withListeners source ⟨finished, {}⟩) :=
    foldl_related (fun reading : Reading => reading.survey.app) (precedes_listener source)
      (fun _ _ element => echoes_listener source element) _ routed withinListeners
  have injected : (allInjections source.document.root).foldl Application.addInjection finished.app =
      finished.app := by
    have held := Content.held_install regular survey.app
    rw [← readRoot_app source ⟨survey, {}⟩] at held
    exact Content.foldl_addInjection_eq_self held.injections
  have complete : Echoes survey finished (readRoot source ⟨survey, {}⟩)
      (readRoot source ⟨finished, {}⟩) := by
    rw [readRoot_eq source ⟨survey, {}⟩, readRoot_eq source ⟨finished, {}⟩]
    exact listeners.updateApp injected
  exact complete

end

/-- A descriptor that was read can be read again: the second read leaves the application as the first
one left it, counts the same entries and adds the same diagnostics.  Every application that can be
built is well formed. -/
theorem readBytes_again {resource : String} {bytes : ByteArray} {survey : Survey}
    (wellFormed : survey.app.WellFormed) {first : Reading}
    (read : readBytes resource bytes survey = .ok first) :
    ∃ second, readBytes resource bytes first.survey = .ok second ∧
      second.survey.app = first.survey.app ∧ second.summary = first.summary ∧
      ∃ said, first.survey.diagnostics = survey.diagnostics ++ said ∧
        second.survey.diagnostics = first.survey.diagnostics ++ said := by
  unfold readBytes at read ⊢
  cases opened : openSource resource roots bytes with
  | error error =>
      rw [opened] at read
      cases read
  | ok source =>
      rw [opened] at read
      cases read
      have echoes := readRoot_echoes source survey wellFormed
      exact ⟨_, rfl, echoes.app, echoes.summary, echoes.diagnostics⟩

/-- A descriptor that takes a listener for a servlet and maps a name that nothing has. -/
def conflictingDescriptor : ByteArray :=
  String.toUTF8 <|
    "<web-app><servlet><servlet-name>n</servlet-name><servlet-class>C</servlet-class></servlet>" ++
      "<servlet-mapping><servlet-name>m</servlet-name></servlet-mapping></web-app>"

/-- Both reads warn about the kind and about the mapping. -/
theorem readBytes_again_after_conflict :
    let survey := ({} : Survey).register { className := "C", kind := .listener }
    survey.app.WellFormed ∧
      ∃ first second, readBytes "web.xml" conflictingDescriptor survey = .ok first ∧
        readBytes "web.xml" conflictingDescriptor first.survey = .ok second ∧
        second.survey.app = first.survey.app ∧ first.summary = ⟨1, 1⟩ ∧
        second.summary = ⟨1, 1⟩ ∧ first.survey.diagnostics.length = 2 ∧
        second.survey.diagnostics = first.survey.diagnostics ++ first.survey.diagnostics := by
  intro survey
  have wellFormed : survey.app.WellFormed :=
    Application.wellFormed_register Application.wellFormed_empty List.nodup_nil
  have readable : (readBytes "web.xml" conflictingDescriptor survey).toOption.any (fun first =>
      first.summary == ⟨1, 1⟩ && first.survey.diagnostics.length == 2) = true := by
    decide +kernel
  obtain ⟨first, read, counted⟩ := exists_ok_of_any readable
  simp only [Bool.and_eq_true, beq_iff_eq] at counted
  obtain ⟨second, readSecond, app, summary, said, saidFirst, saidSecond⟩ :=
    readBytes_again wellFormed read
  have all : first.survey.diagnostics = said := saidFirst
  refine ⟨wellFormed, first, second, read, readSecond, app, counted.1, ?_, counted.2, ?_⟩
  · rw [summary, counted.1]
  · rw [saidSecond, ← all]

end Deployment

end Descriptor

end ContainerReplay
