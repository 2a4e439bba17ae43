import ContainerReplay.Proofs.Merging

/-!
# Growth

What is known about an application only ever increases.  `Component.Grows` and `Application.Grows`
say what may not be lost; every operation of the model is shown to respect them, and to keep an
application well formed.
-/

set_option autoImplicit false

namespace ContainerReplay

theorem Kind.refines_trans {first second third : Kind} (upper : third.refines second = true)
    (lower : second.refines first = true) : third.refines first = true := by
  rw [Kind.refines_iff] at upper lower
  rw [upper.2] at lower
  cases lower.1

/-! ## Components -/

/-- Nothing that is known about a component is lost. -/
structure Component.Grows (before after : Component) : Prop where
  className : after.className = before.className
  kind : after.kind = before.kind ∨ after.kind.refines before.kind = true
  names : ∀ name ∈ before.names, name ∈ after.names
  urlPatterns : ∀ pattern ∈ before.urlPatterns, pattern ∈ after.urlPatterns
  servletNames : ∀ name ∈ before.servletNames, name ∈ after.servletNames
  parameters : ∀ name value : String,
    before.parameters[name]? = some value → after.parameters[name]? = some value
  loadOnStartup : ∀ order, before.loadOnStartup = some order → after.loadOnStartup = some order
  mappingPaths : before.mappingPaths <+: after.mappingPaths
  distinctPaths : before.mappingPaths.Nodup → after.mappingPaths.Nodup

namespace Component

theorem Grows.refl (component : Component) : component.Grows component where
  className := rfl
  kind := Or.inl rfl
  names := fun _ member => member
  urlPatterns := fun _ member => member
  servletNames := fun _ member => member
  parameters := fun _ _ found => found
  loadOnStartup := fun _ present => present
  mappingPaths := List.prefix_rfl
  distinctPaths := fun distinct => distinct

theorem Grows.trans {first second third : Component} (lower : first.Grows second)
    (upper : second.Grows third) : first.Grows third where
  className := upper.className.trans lower.className
  kind := by
    rcases upper.kind with same | refined
    · rw [same]
      exact lower.kind
    · rcases lower.kind with same | refinedBefore
      · rw [← same]
        exact Or.inr refined
      · exact Or.inr (Kind.refines_trans refined refinedBefore)
  names := fun name member => upper.names name (lower.names name member)
  urlPatterns := fun pattern member => upper.urlPatterns pattern (lower.urlPatterns pattern member)
  servletNames := fun name member => upper.servletNames name (lower.servletNames name member)
  parameters := fun name value found =>
    upper.parameters name value (lower.parameters name value found)
  loadOnStartup := fun order present =>
    upper.loadOnStartup order (lower.loadOnStartup order present)
  mappingPaths := lower.mappingPaths.trans upper.mappingPaths
  distinctPaths := fun distinct => upper.distinctPaths (lower.distinctPaths distinct)

theorem grows_addName (component : Component) (name : String) :
    component.Grows (component.addName name) :=
  { Grows.refl component with
    names := fun _ member => Std.ExtTreeSet.mem_insert.mpr (Or.inr member) }

theorem grows_addUrlPattern (component : Component) (pattern : String) :
    component.Grows (component.addUrlPattern pattern) :=
  { Grows.refl component with
    urlPatterns := fun _ member => Std.ExtTreeSet.mem_insert.mpr (Or.inr member) }

theorem grows_addServletName (component : Component) (name : String) :
    component.Grows (component.addServletName name) :=
  { Grows.refl component with
    servletNames := fun _ member => Std.ExtTreeSet.mem_insert.mpr (Or.inr member) }

theorem getElem?_insertIfNew_of_some {table : Std.ExtTreeMap String String}
    {name value : String} (found : table[name]? = some value) (otherName otherValue : String) :
    (table.insertIfNew otherName otherValue)[name]? = some value := by
  rw [Std.ExtTreeMap.getElem?_insertIfNew, if_neg, found]
  rintro ⟨same, absent⟩
  rw [Std.compare_eq_iff_eq] at same
  subst same
  rw [Std.ExtTreeMap.getElem?_eq_none absent] at found
  cases found

theorem grows_addParameter (component : Component) (name value : String) :
    component.Grows (component.addParameter name value) :=
  { Grows.refl component with
    parameters := fun _ _ found => getElem?_insertIfNew_of_some found name value }

theorem grows_putMapping (component : Component) (mapping : ActionMapping) :
    component.Grows (component.putMapping mapping) :=
  { Grows.refl component with
    mappingPaths := ActionMapping.putAll_paths_grow [mapping] component.actionMappings
    distinctPaths := ActionMapping.putAll_paths_nodup [mapping] }

theorem grows_merge (component other : Component) : component.Grows (component.merge other) := by
  rw [merge_eq]
  constructor
  · rfl
  · simp only [kindAfter_outcome]
    split
    · rename_i refined
      exact Or.inr refined
    · exact Or.inl rfl
  · exact fun _ member => Std.ExtTreeSet.mem_union_iff.mpr (Or.inl member)
  · exact fun _ member => Std.ExtTreeSet.mem_union_iff.mpr (Or.inl member)
  · exact fun _ member => Std.ExtTreeSet.mem_union_iff.mpr (Or.inl member)
  · intro name value found
    rw [Std.ExtTreeMap.getElem?_union, found, Option.some_or]
  · intro order present
    simp only [present, Option.some_or]
  · exact ActionMapping.putAll_paths_grow other.actionMappings component.actionMappings
  · exact ActionMapping.putAll_paths_nodup other.actionMappings

theorem grows_foldl {α : Type} {change : Component → α → Component}
    (grows : ∀ (component : Component) (item : α), component.Grows (change component item))
    (items : List α) (component : Component) :
    component.Grows (items.foldl change component) := by
  induction items generalizing component with
  | nil => exact Grows.refl component
  | cons item rest ih => exact (grows component item).trans (ih (change component item))

end Component

/-! ## Applications -/

/-- Nothing that is known about an application is lost. -/
structure Application.Grows (before after : Application) : Prop where
  components : ∀ className component, before.component? className = some component →
    ∃ grown, after.component? className = some grown ∧ component.Grows grown
  displayName : ∀ name, before.displayName = some name → after.displayName = some name
  contextParams : ∀ name value : String,
    before.contextParams[name]? = some value → after.contextParams[name]? = some value
  injections : ∀ injection ∈ before.injections, injection ∈ after.injections

/-- Every component is stored under its own class name, and its action mappings answer distinct
paths. -/
structure Application.WellFormed (app : Application) : Prop where
  keyed : app.Keyed
  distinctPaths : ∀ className component, app.component? className = some component →
    component.mappingPaths.Nodup

/-- What every operation of the model does to an application: it grows and stays well formed. -/
structure Application.Evolves (before after : Application) : Prop where
  grows : before.Grows after
  wellFormed : before.WellFormed → after.WellFormed

namespace Application

theorem Grows.refl (app : Application) : app.Grows app where
  components := fun _ component found => ⟨component, found, Component.Grows.refl component⟩
  displayName := fun _ present => present
  contextParams := fun _ _ found => found
  injections := fun _ member => member

theorem Grows.trans {first second third : Application} (lower : first.Grows second)
    (upper : second.Grows third) : first.Grows third where
  components := by
    intro className component found
    obtain ⟨grown, foundGrown, growth⟩ := lower.components className component found
    obtain ⟨final, foundFinal, laterGrowth⟩ := upper.components className grown foundGrown
    exact ⟨final, foundFinal, growth.trans laterGrowth⟩
  displayName := fun name present => upper.displayName name (lower.displayName name present)
  contextParams := fun name value found =>
    upper.contextParams name value (lower.contextParams name value found)
  injections := fun injection member =>
    upper.injections injection (lower.injections injection member)

theorem Evolves.refl (app : Application) : app.Evolves app :=
  ⟨Grows.refl app, fun wellFormed => wellFormed⟩

theorem Evolves.trans {first second third : Application} (lower : first.Evolves second)
    (upper : second.Evolves third) : first.Evolves third :=
  ⟨lower.grows.trans upper.grows, fun wellFormed => upper.wellFormed (lower.wellFormed wellFormed)⟩

theorem wellFormed_empty : ({} : Application).WellFormed where
  keyed := by
    intro className component found
    simp at found
  distinctPaths := by
    intro className component found
    simp at found

theorem grows_register (app : Application) (component : Component) :
    app.Grows (app.register component) := by
  obtain ⟨displayName, contextParams, injections⟩ := register_preserves_rest app component
  constructor
  · intro className existing found
    rw [component?_register]
    split
    · rw [found]
      exact ⟨_, rfl, Component.grows_merge existing component⟩
    · exact ⟨existing, found, Component.Grows.refl existing⟩
  · rw [displayName]
    exact fun _ present => present
  · rw [contextParams]
    exact fun _ _ found => found
  · rw [injections]
    exact fun _ member => member

theorem wellFormed_register {app : Application} (wellFormed : app.WellFormed)
    {component : Component} (distinct : component.mappingPaths.Nodup) :
    (app.register component).WellFormed := by
  have joined : ∀ className existing,
      (app.register component).component? className = some existing →
        existing.className = className ∧ existing.mappingPaths.Nodup := by
    intro className existing found
    rw [component?_register] at found
    split at found
    · rename_i same
      cases previous : app.component? className with
      | none =>
          rw [previous] at found
          cases found
          exact ⟨same, distinct⟩
      | some stored =>
          rw [previous] at found
          cases found
          have growth := Component.grows_merge stored component
          exact ⟨growth.className.trans (wellFormed.keyed className stored previous),
            growth.distinctPaths (wellFormed.distinctPaths className stored previous)⟩
    · exact ⟨wellFormed.keyed className existing found,
        wellFormed.distinctPaths className existing found⟩
  exact ⟨fun className existing found => (joined className existing found).1,
    fun className existing found => (joined className existing found).2⟩

theorem evolves_register (app : Application) {component : Component}
    (distinct : component.mappingPaths.Nodup) : app.Evolves (app.register component) :=
  ⟨grows_register app component, fun wellFormed => wellFormed_register wellFormed distinct⟩

theorem evolves_modify (app : Application) (className : String)
    {change : Component → Component}
    (grows : ∀ component : Component, component.Grows (change component)) :
    app.Evolves (app.modify className change) := by
  obtain ⟨displayName, contextParams, injections⟩ := modify_preserves_rest app className change
  refine ⟨⟨?_, ?_, ?_, ?_⟩, fun wellFormed => ⟨?_, ?_⟩⟩
  · intro other component found
    rw [component?_modify]
    split
    · rw [found]
      exact ⟨change component, rfl, grows component⟩
    · exact ⟨component, found, Component.Grows.refl component⟩
  · rw [displayName]
    exact fun _ present => present
  · rw [contextParams]
    exact fun _ _ found => found
  · rw [injections]
    exact fun _ member => member
  · intro other component found
    rw [component?_modify] at found
    split at found
    · obtain ⟨stored, foundStored, rfl⟩ := Option.map_eq_some_iff.mp found
      exact (grows stored).className.trans (wellFormed.keyed other stored foundStored)
    · exact wellFormed.keyed other component found
  · intro other component found
    rw [component?_modify] at found
    split at found
    · obtain ⟨stored, foundStored, rfl⟩ := Option.map_eq_some_iff.mp found
      exact (grows stored).distinctPaths (wellFormed.distinctPaths other stored foundStored)
    · exact wellFormed.distinctPaths other component found

/-- Of a change that keeps the components only the rest has to be looked at. -/
theorem evolves_of_components {before after : Application}
    (components : ∀ className, after.component? className = before.component? className)
    (displayName : ∀ name, before.displayName = some name → after.displayName = some name)
    (contextParams : ∀ name value : String,
      before.contextParams[name]? = some value → after.contextParams[name]? = some value)
    (injections : ∀ injection ∈ before.injections, injection ∈ after.injections) :
    before.Evolves after := by
  refine ⟨⟨?_, displayName, contextParams, injections⟩, fun wellFormed => ⟨?_, ?_⟩⟩
  · intro className component found
    exact ⟨component, (components className).trans found, Component.Grows.refl component⟩
  · intro className component found
    exact wellFormed.keyed className component ((components className).symm.trans found)
  · intro className component found
    exact wellFormed.distinctPaths className component ((components className).symm.trans found)

theorem evolves_setDisplayName (app : Application) (name : String) :
    app.Evolves (app.setDisplayName name) :=
  evolves_of_components (fun _ => rfl)
    (fun _ present => by rw [setDisplayName, present, Option.some_or])
    (fun _ _ found => found) (fun _ member => member)

theorem evolves_addContextParam (app : Application) (name value : String) :
    app.Evolves (app.addContextParam name value) :=
  evolves_of_components (fun _ => rfl) (fun _ present => present)
    (fun _ _ found => Component.getElem?_insertIfNew_of_some found name value)
    (fun _ member => member)

theorem evolves_addInjection (app : Application) (injection : Injection) :
    app.Evolves (app.addInjection injection) :=
  evolves_of_components (fun _ => rfl) (fun _ present => present) (fun _ _ found => found)
    (fun _ member => Std.ExtTreeSet.mem_insert.mpr (Or.inr member))

/-- A fold of steps that each evolve the application of a state evolves it. -/
theorem evolves_foldl {σ α : Type} (view : σ → Application) {step : σ → α → σ} (items : List α)
    (evolves : ∀ item ∈ items, ∀ state, (view state).Evolves (view (step state item)))
    (state : σ) : (view state).Evolves (view (items.foldl step state)) := by
  induction items generalizing state with
  | nil => exact Evolves.refl (view state)
  | cons item rest ih =>
      have first := evolves item List.mem_cons_self state
      have later := ih (fun other member => evolves other (List.mem_cons_of_mem _ member))
      exact first.trans (later (step state item))

theorem grows_registerAll (app : Application) (components : List Component) :
    app.Grows (app.registerAll components) := by
  induction components generalizing app with
  | nil => exact Grows.refl app
  | cons component rest ih => exact (grows_register app component).trans (ih _)

theorem evolves_registerAll (components : List Component)
    (distinct : ∀ component ∈ components, component.mappingPaths.Nodup) (app : Application) :
    app.Evolves (app.registerAll components) :=
  evolves_foldl id components
    (fun component member app => evolves_register app (distinct component member)) app

end Application

end ContainerReplay
