import ContainerReplay.Proofs.MappingTargets

/-!
# Descriptions that add nothing

A component covers a description of its class when merging the description changes nothing but
action mappings.  What was merged once is covered from then on, so that it can be read again
without an effect.
-/

set_option autoImplicit false

namespace ContainerReplay

/-! ## Components -/

/-- Merging the description adds nothing but action mappings. -/
structure Component.Covers (component other : Component) : Prop where
  kind : other.kind.refines component.kind = false
  names : ∀ name ∈ other.names, name ∈ component.names
  urlPatterns : ∀ pattern ∈ other.urlPatterns, pattern ∈ component.urlPatterns
  servletNames : ∀ name ∈ other.servletNames, name ∈ component.servletNames
  parameters : ∀ name ∈ other.parameters, name ∈ component.parameters
  loadOnStartup : ∀ order, other.loadOnStartup = some order →
    ∃ kept, component.loadOnStartup = some kept

namespace Component

theorem Covers.refl (component : Component) : component.Covers component where
  kind := by cases component.kind <;> rfl
  names := fun _ member => member
  urlPatterns := fun _ member => member
  servletNames := fun _ member => member
  parameters := fun _ member => member
  loadOnStartup := fun order present => ⟨order, present⟩

theorem Covers.grows {component grown other : Component} (covered : component.Covers other)
    (growth : component.Grows grown) : grown.Covers other where
  kind := by
    have unrefined := covered.kind
    -- only a servlet is refined, and nothing refined turns into a servlet again
    rcases growth.kind with same | refined
    · rw [same]
      exact unrefined
    · obtain ⟨isAction, _⟩ := (Kind.refines_iff _ _).mp refined
      rw [isAction]
      cases other.kind <;> rfl
  names := fun name member => growth.names name (covered.names name member)
  urlPatterns := fun pattern member =>
    growth.urlPatterns pattern (covered.urlPatterns pattern member)
  servletNames := fun name member => growth.servletNames name (covered.servletNames name member)
  parameters := by
    intro name member
    have present := covered.parameters name member
    rw [Std.ExtTreeMap.mem_iff_isSome_getElem?, Option.isSome_iff_exists] at present ⊢
    obtain ⟨value, found⟩ := present
    exact ⟨value, growth.parameters name value found⟩
  loadOnStartup := by
    intro order asked
    obtain ⟨kept, present⟩ := covered.loadOnStartup order asked
    exact ⟨kept, growth.loadOnStartup kept present⟩

theorem covers_merge (component other : Component) : (component.merge other).Covers other := by
  rw [merge_eq]
  constructor
  · simp only [kindAfter_outcome]
    cases component.kind <;> cases other.kind <;> rfl
  · exact fun _ member => Std.ExtTreeSet.mem_union_iff.mpr (Or.inr member)
  · exact fun _ member => Std.ExtTreeSet.mem_union_iff.mpr (Or.inr member)
  · exact fun _ member => Std.ExtTreeSet.mem_union_iff.mpr (Or.inr member)
  · exact fun _ member => Std.ExtTreeMap.mem_union_iff.mpr (Or.inl member)
  · intro order asked
    cases present : component.loadOnStartup with
    | none => exact ⟨order, by simp [asked]⟩
    | some kept => exact ⟨kept, by simp⟩

theorem union_eq_self {names others : Std.ExtTreeSet String}
    (present : ∀ name ∈ others, name ∈ names) : names ∪ others = names := by
  refine Std.ExtTreeSet.ext_mem fun name => ?_
  rw [Std.ExtTreeSet.mem_union_iff]
  exact ⟨fun member => member.elim id (present name), Or.inl⟩

theorem overlay_eq_self {table others : Std.ExtTreeMap String String}
    (present : ∀ name ∈ others, name ∈ table) : others ∪ table = table := by
  refine Std.ExtTreeMap.ext_getElem? fun name => ?_
  rw [Std.ExtTreeMap.getElem?_union]
  cases found : table[name]? with
  | some value => rfl
  | none =>
      rw [Option.none_or]
      refine Std.ExtTreeMap.getElem?_eq_none fun member => ?_
      have known := present name member
      rw [Std.ExtTreeMap.mem_iff_isSome_getElem?, found] at known
      cases known

theorem merge_of_covers {component other : Component} (covered : component.Covers other) :
    component.merge other =
      { component with
        actionMappings :=
          ActionMapping.putAll other.actionMappings component.actionMappings } := by
  have order : component.loadOnStartup.or other.loadOnStartup = component.loadOnStartup := by
    cases asked : other.loadOnStartup with
    | none => exact Option.or_none
    | some order =>
        obtain ⟨kept, present⟩ := covered.loadOnStartup order asked
        rw [present, Option.some_or]
  rw [merge_eq, kindAfter_outcome, covered.kind, union_eq_self covered.names,
    union_eq_self covered.urlPatterns, union_eq_self covered.servletNames,
    overlay_eq_self covered.parameters, order]
  rfl

/-- A component after several descriptions of its class were merged into it in order. -/
def mergeAll (component : Component) (others : List Component) : Component :=
  others.foldl merge component

theorem grows_mergeAll (component : Component) (others : List Component) :
    component.Grows (component.mergeAll others) :=
  grows_foldl grows_merge others component

theorem covers_mergeAll (component : Component) (others : List Component) :
    ∀ other ∈ others, (component.mergeAll others).Covers other := by
  induction others generalizing component with
  | nil =>
      intro other member
      cases member
  | cons first rest ih =>
      intro other member
      rcases List.mem_cons.mp member with rfl | later
      · exact (covers_merge component other).grows (grows_mergeAll (component.merge other) rest)
      · exact ih (component.merge first) other later

theorem mergeAll_actionMappings (component : Component) (others : List Component) :
    (component.mergeAll others).actionMappings =
      ActionMapping.putAll (others.flatMap actionMappings) component.actionMappings := by
  induction others generalizing component with
  | nil => rfl
  | cons first rest ih =>
      rw [mergeAll, List.foldl_cons, List.flatMap_cons, ActionMapping.putAll_append]
      have merged : (component.merge first).actionMappings =
          ActionMapping.putAll first.actionMappings component.actionMappings := by rw [merge_eq]
      rw [← merged]
      exact ih (component.merge first)

theorem mergeAll_of_covers {component : Component} {others : List Component}
    (covered : ∀ other ∈ others, component.Covers other) :
    component.mergeAll others =
      { component with
        actionMappings := (component.mergeAll others).actionMappings } := by
  induction others generalizing component with
  | nil => rfl
  | cons first rest ih =>
      have merged := merge_of_covers (covered first List.mem_cons_self)
      have still : ∀ other ∈ rest, (component.merge first).Covers other := fun other member =>
        (covered other (List.mem_cons_of_mem _ member)).grows (grows_merge component first)
      have later := ih still
      rw [mergeAll] at later
      rw [mergeAll, List.foldl_cons, later, merged]

theorem mergeAll_again {component : Component} (distinct : component.mappingPaths.Nodup)
    (others : List Component) :
    (component.mergeAll others).mergeAll others = component.mergeAll others := by
  rw [mergeAll_of_covers (covers_mergeAll component others), mergeAll_actionMappings,
    mergeAll_actionMappings, ActionMapping.putAll_again _ distinct]
  rw [← mergeAll_actionMappings]

end Component

/-! ## Applications -/

namespace Application

/-- The component of the class covers the description. -/
def Covers (app : Application) (component : Component) : Prop :=
  ∃ stored, app.component? component.className = some stored ∧ stored.Covers component

theorem Covers.grows {before after : Application} {component : Component}
    (covered : before.Covers component) (grows : before.Grows after) :
    after.Covers component := by
  obtain ⟨stored, found, covers⟩ := covered
  obtain ⟨grown, foundGrown, growth⟩ := grows.components _ stored found
  exact ⟨grown, foundGrown, covers.grows growth⟩

theorem covers_register (app : Application) (component : Component) :
    (app.register component).Covers component := by
  refine ⟨component.meeting (app.component? component.className), ?_, ?_⟩
  · rw [component?_register, if_pos rfl]
  · cases app.component? component.className with
    | none => exact Component.Covers.refl component
    | some existing => exact Component.covers_merge existing component

theorem covers_registerAll (app : Application) (components : List Component) :
    ∀ component ∈ components, (app.registerAll components).Covers component := by
  induction components generalizing app with
  | nil =>
      intro component member
      cases member
  | cons first rest ih =>
      intro component member
      rcases List.mem_cons.mp member with rfl | later
      · exact (covers_register app component).grows (grows_registerAll _ rest)
      · exact ih (app.register first) component later

theorem register_eq_self {app : Application} {component : Component}
    (covered : app.Covers component) (noActions : component.actionMappings = []) :
    app.register component = app := by
  obtain ⟨displayName, contextParams, injections⟩ := register_preserves_rest app component
  refine ext_component? (fun className => ?_) displayName contextParams injections
  rw [component?_register]
  split
  · rename_i same
    subst same
    obtain ⟨stored, found, covers⟩ := covered
    rw [found, Component.meeting, Component.merge_of_covers covers, noActions]
    rfl
  · rfl

theorem registerAll_eq_self {app : Application} {components : List Component}
    (covered : ∀ component ∈ components, app.Covers component)
    (noActions : ∀ component ∈ components, component.actionMappings = []) :
    app.registerAll components = app := by
  induction components with
  | nil => rfl
  | cons first rest ih =>
      rw [registerAll, List.foldl_cons,
        register_eq_self (covered first List.mem_cons_self) (noActions first List.mem_cons_self)]
      exact ih (fun component member => covered component (List.mem_cons_of_mem _ member))
        (fun component member => noActions component (List.mem_cons_of_mem _ member))

/-- What registering descriptions leaves at a class that stood there before. -/
theorem component?_registerAll {app : Application} {className : String} {stored : Component}
    (found : app.component? className = some stored) (components : List Component) :
    (app.registerAll components).component? className =
      some (stored.mergeAll
        (components.filter fun component => component.className == className)) := by
  induction components generalizing app stored with
  | nil => exact found
  | cons first rest ih =>
      rw [registerAll, List.foldl_cons, List.filter_cons]
      by_cases same : first.className = className
      · have merged : (app.register first).component? className = some (stored.merge first) := by
          rw [component?_register, if_pos same, found]
          rfl
        rw [if_pos (beq_iff_eq.mpr same)]
        exact ih merged
      · have kept : (app.register first).component? className = some stored := by
          rw [component?_register, if_neg same, found]
        rw [if_neg (fun equal => same (beq_iff_eq.mp equal))]
        exact ih kept

theorem registerAll_preserves_rest (app : Application) (components : List Component) :
    (app.registerAll components).displayName = app.displayName ∧
      (app.registerAll components).contextParams = app.contextParams ∧
        (app.registerAll components).injections = app.injections := by
  induction components generalizing app with
  | nil => exact ⟨rfl, rfl, rfl⟩
  | cons first rest ih =>
      obtain ⟨displayName, contextParams, injections⟩ := register_preserves_rest app first
      obtain ⟨laterName, laterParams, laterInjections⟩ := ih (app.register first)
      exact ⟨laterName.trans displayName, laterParams.trans contextParams,
        laterInjections.trans injections⟩

theorem component?_registerAll_of_ne {app : Application} {className : String}
    {components : List Component}
    (other : ∀ component ∈ components, component.className ≠ className) :
    (app.registerAll components).component? className = app.component? className := by
  induction components generalizing app with
  | nil => rfl
  | cons first rest ih =>
      rw [registerAll, List.foldl_cons]
      refine (ih fun component member => other component (List.mem_cons_of_mem _ member)).trans ?_
      rw [component?_register, if_neg (other first List.mem_cons_self)]

/-- Registering the same descriptions of classes on record again changes nothing. -/
theorem registerAll_again {app : Application} (wellFormed : app.WellFormed)
    {components : List Component}
    (present : ∀ component ∈ components, ∃ stored,
      app.component? component.className = some stored) :
    (app.registerAll components).registerAll components = app.registerAll components := by
  obtain ⟨displayName, contextParams, injections⟩ :=
    registerAll_preserves_rest (app.registerAll components) components
  refine ext_component? (fun className => ?_) displayName contextParams injections
  cases found : app.component? className with
  | some stored =>
      have once := component?_registerAll found components
      rw [component?_registerAll once components, once,
        Component.mergeAll_again (wellFormed.distinctPaths className stored found)]
  | none =>
      refine component?_registerAll_of_ne fun component member same => ?_
      obtain ⟨stored, foundStored⟩ := present component member
      rw [same, found] at foundStored
      cases foundStored

end Application

end ContainerReplay
