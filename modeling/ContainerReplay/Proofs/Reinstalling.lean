import ContainerReplay.Proofs.Covering

/-!
# Installing a content again

An application holds a content when all that the content declares is there, and the content is in
effect when each of its mappings has reached the class that it is for.  Installing a content that is
held and in effect changes nothing.
-/

set_option autoImplicit false

namespace ContainerReplay.Descriptor

/-! ## Contents that are held -/

/-- All that a content declares is on record. -/
structure Content.Held (content : Content) (app : Application) : Prop where
  displayName : ∀ name, content.displayName = some name → ∃ kept, app.displayName = some kept
  contextParams : ∀ parameter ∈ content.contextParams, parameter.1 ∈ app.contextParams
  servlets : ∀ component ∈ componentsOf content.servlets, app.Covers component
  filters : ∀ component ∈ componentsOf content.filters, app.Covers component
  listeners : ∀ component ∈ content.listeners, app.Covers component
  injections : ∀ injection ∈ content.injections, injection ∈ app.injections

namespace Content

theorem Held.grows {content : Content} {before after : Application} (held : content.Held before)
    (grows : before.Grows after) : content.Held after where
  displayName := by
    intro name asked
    obtain ⟨kept, present⟩ := held.displayName name asked
    exact ⟨kept, grows.displayName kept present⟩
  contextParams := by
    intro parameter member
    have present := held.contextParams parameter member
    rw [Std.ExtTreeMap.mem_iff_isSome_getElem?, Option.isSome_iff_exists] at present ⊢
    obtain ⟨value, found⟩ := present
    exact ⟨value, grows.contextParams _ value found⟩
  servlets := fun component member => (held.servlets component member).grows grows
  filters := fun component member => (held.filters component member).grows grows
  listeners := fun component member => (held.listeners component member).grows grows
  injections := fun injection member => grows.injections injection (held.injections injection member)

/-! ## Installing makes a content held -/

theorem component?_foldl_addContextPair (parameters : List (String × String))
    (app : Application) (className : String) :
    (parameters.foldl addContextPair app).component? className = app.component? className := by
  induction parameters generalizing app with
  | nil => rfl
  | cons parameter rest ih => exact ih (addContextPair app parameter)

theorem component?_configure (content : Content) (app : Application) (className : String) :
    (content.configure app).component? className = app.component? className := by
  rw [configure, component?_foldl_addContextPair, entitle]
  split <;> rfl

theorem mem_contextParams_foldl (parameters : List (String × String)) (app : Application)
    (name : String) :
    name ∈ (parameters.foldl addContextPair app).contextParams ↔
      name ∈ app.contextParams ∨ ∃ parameter ∈ parameters, parameter.1 = name := by
  induction parameters generalizing app with
  | nil => simp
  | cons parameter rest ih =>
      rw [List.foldl_cons, ih]
      simp only [addContextPair, Application.addContextParam, Std.ExtTreeMap.mem_insertIfNew,
        Std.compare_eq_iff_eq, List.mem_cons, exists_eq_or_imp]
      constructor
      · rintro ((same | known) | later)
        · exact Or.inr (Or.inl same)
        · exact Or.inl known
        · exact Or.inr (Or.inr later)
      · rintro (known | same | later)
        · exact Or.inl (Or.inr known)
        · exact Or.inl (Or.inl same)
        · exact Or.inr later

theorem mem_injections_foldl (injections : List Injection) (app : Application)
    (injection : Injection) :
    injection ∈ (injections.foldl Application.addInjection app).injections ↔
      injection ∈ injections ∨ injection ∈ app.injections := by
  induction injections generalizing app with
  | nil => simp
  | cons first rest ih =>
      rw [List.foldl_cons, ih]
      simp only [Application.addInjection, Std.ExtTreeSet.mem_insert, Std.compare_eq_iff_eq,
        List.mem_cons]
      constructor
      · rintro (later | same | known)
        · exact Or.inl (Or.inr later)
        · exact Or.inl (Or.inl same.symm)
        · exact Or.inr known
      · rintro ((same | later) | known)
        · exact Or.inr (Or.inl same.symm)
        · exact Or.inl later
        · exact Or.inr (Or.inr known)

theorem declare_grows_install {content : Content} (regular : content.Regular)
    (app : Application) : (content.declare app).Grows (content.install app) :=
  ((content.evolves_routeAll _).trans (evolves_complete regular _)).grows

theorem held_install {content : Content} (regular : content.Regular) (app : Application) :
    content.Held (content.install app) := by
  have named : ∀ name, content.displayName = some name →
      ∃ kept, (content.configure app).displayName = some kept := by
    intro name asked
    have present : (content.entitle app).displayName = some (app.displayName.getD name) := by
      simp only [entitle, asked, Application.setDisplayName]
      cases app.displayName <;> rfl
    exact ⟨_, (evolves_foldl_addContextPair content.contextParams _).grows.displayName _ present⟩
  have declared : (content.configure app).Grows (content.declare app) :=
    (Application.grows_registerAll _ _).trans (Application.grows_registerAll _ _)
  have installed := declare_grows_install regular app
  have completed : ((content.routeAll (content.declare app)).registerAll content.listeners).Grows
      (content.install app) :=
    (Application.evolves_foldl id content.injections
      (fun injection _ app => Application.evolves_addInjection app injection) _).grows
  constructor
  · intro name asked
    obtain ⟨kept, present⟩ := named name asked
    exact ⟨kept, (declared.trans installed).displayName kept present⟩
  · intro parameter member
    have present : parameter.1 ∈ (content.configure app).contextParams :=
      (mem_contextParams_foldl _ _ _).mpr (Or.inr ⟨parameter, member, rfl⟩)
    rw [Std.ExtTreeMap.mem_iff_isSome_getElem?, Option.isSome_iff_exists] at present ⊢
    obtain ⟨value, found⟩ := present
    exact ⟨value, (declared.trans installed).contextParams _ value found⟩
  · intro component member
    have covered := Application.covers_registerAll (content.configure app) _ component member
    exact (covered.grows (Application.grows_registerAll _ _)).grows installed
  · intro component member
    exact (Application.covers_registerAll _ _ component member).grows installed
  · intro component member
    exact (Application.covers_registerAll _ _ component member).grows completed
  · intro injection member
    exact (mem_injections_foldl _ _ _).mpr (Or.inl member)

/-! ## A content that is held declares and completes nothing -/

theorem entitle_eq_self {content : Content} {app : Application} (held : content.Held app) :
    content.entitle app = app := by
  unfold entitle
  split
  · rfl
  · rename_i name asked
    obtain ⟨kept, present⟩ := held.displayName name asked
    rw [Application.setDisplayName, present, Option.some_or, ← present]

theorem foldl_addContextPair_eq_self {parameters : List (String × String)} {app : Application}
    (present : ∀ parameter ∈ parameters, parameter.1 ∈ app.contextParams) :
    parameters.foldl addContextPair app = app := by
  induction parameters with
  | nil => rfl
  | cons first rest ih =>
      have kept : addContextPair app first = app := by
        have known := present first List.mem_cons_self
        have table : app.contextParams.insertIfNew first.1 first.2 = app.contextParams := by
          refine Std.ExtTreeMap.ext_getElem? fun name => ?_
          rw [Std.ExtTreeMap.getElem?_insertIfNew, if_neg fun absent => absent.2 known]
        rw [addContextPair, Application.addContextParam, table]
      rw [List.foldl_cons, kept]
      exact ih fun parameter member => present parameter (List.mem_cons_of_mem _ member)

theorem foldl_addInjection_eq_self {injections : List Injection} {app : Application}
    (present : ∀ injection ∈ injections, injection ∈ app.injections) :
    injections.foldl Application.addInjection app = app := by
  induction injections with
  | nil => rfl
  | cons first rest ih =>
      have kept : app.addInjection first = app := by
        have known := present first List.mem_cons_self
        have all : app.injections.insert first = app.injections := by
          refine Std.ExtTreeSet.ext_mem fun injection => ?_
          rw [Std.ExtTreeSet.mem_insert, Std.compare_eq_iff_eq]
          refine ⟨fun member => member.elim (fun same => same ▸ known) id, Or.inr⟩
        rw [Application.addInjection, all]
      rw [List.foldl_cons, kept]
      exact ih fun injection member => present injection (List.mem_cons_of_mem _ member)

theorem declare_eq_self {content : Content} (regular : content.Regular) {app : Application}
    (held : content.Held app) : content.declare app = app := by
  rw [declare, configure, entitle_eq_self held, foldl_addContextPair_eq_self held.contextParams,
    Application.registerAll_eq_self held.servlets (noActions_of_regular regular.servlets),
    Application.registerAll_eq_self held.filters (noActions_of_regular regular.filters)]

theorem complete_eq_self {content : Content} (regular : content.Regular) {app : Application}
    (held : content.Held app) : content.complete app = app := by
  rw [complete, Application.registerAll_eq_self held.listeners regular.listenerActions,
    foldl_addInjection_eq_self held.injections]

end Content

/-! ## Contents in effect -/

/-- The class that a mapping is for, if there is one, has all that the mapping adds. -/
def Mapping.InEffect (declared : List NamedComponent) (app : Application) (mapping : Mapping) :
    Prop :=
  ∀ className,
    Deployment.mappingTarget? app (declarationsOf declared) mapping.name = some className →
      Carries app className mapping

/-- The declarations of a content together with the mappings that refer to them first. -/
structure MappingSection where
  declared : List NamedComponent
  mappings : List Mapping

/-- The sections of a content in the order in which they are taken. -/
def Content.sections (content : Content) : List MappingSection :=
  [⟨content.servlets, content.servletMappings⟩, ⟨content.filters, content.filterMappings⟩]

/-- Every mapping of a content has reached the class that it is for. -/
def Content.InEffect (content : Content) (app : Application) : Prop :=
  ∀ part ∈ content.sections, ∀ mapping ∈ part.mappings, mapping.InEffect part.declared app

namespace Content

theorem foldl_route_eq_self {declared : List NamedComponent} {mappings : List Mapping}
    {app : Application} (inEffect : ∀ mapping ∈ mappings, mapping.InEffect declared app) :
    mappings.foldl (route (declarationsOf declared)) app = app := by
  induction mappings with
  | nil => rfl
  | cons first rest ih =>
      rw [List.foldl_cons, route_eq_self (inEffect first List.mem_cons_self)]
      exact ih fun mapping member => inEffect mapping (List.mem_cons_of_mem _ member)

theorem install_eq_self {content : Content} (regular : content.Regular) {app : Application}
    (held : content.Held app) (inEffect : content.InEffect app) : content.install app = app := by
  have routed : content.routeAll app = app := by
    rw [routeAll, foldl_route_eq_self (inEffect ⟨content.servlets, _⟩ (by simp [sections])),
      foldl_route_eq_self (inEffect ⟨content.filters, _⟩ (by simp [sections]))]
  rw [install, declare_eq_self regular held, routed, complete_eq_self regular held]

/-! ## Declared names after a content was installed -/

/-- A content declares a class under a name. -/
def Declares (content : Content) (className name : String) : Prop :=
  ∃ component ∈ componentsOf content.servlets ++ componentsOf content.filters,
    component.className = className ∧ name ∈ component.names

/-- A regular content declares classes only under the names of its entries. -/
theorem Declares.named {content : Content} {className name : String}
    (declared : content.Declares className name) (regular : content.Regular) :
    ∃ entry ∈ content.servlets ++ content.filters, entry.name = name := by
  obtain ⟨component, member, _, named⟩ := declared
  rcases List.mem_append.mp member with servlet | filter
  · obtain ⟨entry, entryMember, rfl⟩ := List.mem_map.mp servlet
    exact ⟨entry, List.mem_append.mpr (Or.inl entryMember),
      (((regular.servlets entry entryMember).names name).mp named).symm⟩
  · obtain ⟨entry, entryMember, rfl⟩ := List.mem_map.mp filter
    exact ⟨entry, List.mem_append.mpr (Or.inr entryMember),
      (((regular.filters entry entryMember).names name).mp named).symm⟩

theorem declares_declare (content : Content) (app : Application) (className name : String) :
    (content.declare app).Declares className name ↔
      app.Declares className name ∨ content.Declares className name := by
  rw [declare, Application.declares_registerAll, Application.declares_registerAll,
    Application.declares_congr (component?_configure content app), Declares]
  simp only [List.mem_append, or_and_right, exists_or, or_assoc]

theorem declares_complete {content : Content} (regular : content.Regular) (app : Application)
    (className name : String) :
    (content.complete app).Declares className name ↔ app.Declares className name := by
  have injected : ∀ (injections : List Injection) (app : Application) (className : String),
      (injections.foldl Application.addInjection app).component? className =
        app.component? className := by
    intro injections
    induction injections with
    | nil => exact fun _ _ => rfl
    | cons first rest ih => exact fun app className => ih (app.addInjection first) className
  rw [complete, Application.declares_congr (injected content.injections _)]
  exact Application.declares_registerAll_nameless app regular.listenerNames className name

theorem declares_install {content : Content} (regular : content.Regular) (app : Application)
    (className name : String) :
    (content.install app).Declares className name ↔
      app.Declares className name ∨ content.Declares className name := by
  rw [install, declares_complete regular, routeAll, declares_foldl_route, declares_foldl_route,
    declares_declare]

/-- A content that is held declares no names that are not on record. -/
theorem Held.declares {content : Content} {app : Application} (held : content.Held app)
    {className name : String} (declared : content.Declares className name) :
    app.Declares className name := by
  obtain ⟨component, member, rfl, named⟩ := declared
  have covered : app.Covers component := by
    rcases List.mem_append.mp member with servlet | filter
    · exact held.servlets component servlet
    · exact held.filters component filter
  obtain ⟨stored, found, covers⟩ := covered
  exact ⟨stored, found, covers.names name named⟩

/-! ## Installed mappings are in effect -/

theorem stands_servlets {content : Content} (app : Application) :
    Stands content.servlets (content.declare app) := by
  intro component member
  have covered := (Application.covers_registerAll (content.configure app) _ component member).grows
    (Application.grows_registerAll _ (componentsOf content.filters))
  obtain ⟨stored, found, _⟩ := covered
  exact ⟨stored, found⟩

theorem stands_filters {content : Content} (app : Application) :
    Stands content.filters (content.declare app) := by
  intro component member
  obtain ⟨stored, found, _⟩ := Application.covers_registerAll
    ((content.configure app).registerAll (componentsOf content.servlets)) _ component member
  exact ⟨stored, found⟩

/-- A mapping that was taken while a content was installed is in effect for good, unless its own
section does not declare its name and classes were declared under the name later on. -/
theorem inEffect_of_route {declared : List NamedComponent} {mappings : List Mapping}
    {start final : Application} (wellFormed : start.WellFormed) (finalKeyed : final.Keyed)
    (stands : Stands declared start)
    (grows : (mappings.foldl (route (declarationsOf declared)) start).Grows final)
    {mapping : Mapping} (member : mapping ∈ mappings)
    (settled : (declarationsOf declared).class? mapping.name = none →
      ∀ className, final.Declares className mapping.name → start.Declares className mapping.name) :
    mapping.InEffect declared final := by
  intro className target
  have grown := (evolves_foldl_route (declarationsOf declared) mappings start).grows.trans grows
  -- the mapping is for the same class in the end as it was when it was taken
  have targetThen : Deployment.mappingTarget? start (declarationsOf declared) mapping.name =
      some className := by
    rw [← target]
    refine mappingTarget?_congr wellFormed.keyed finalKeyed stands (stands.grows grown)
      fun undeclared other => ?_
    exact ⟨grown.declares, settled undeclared other⟩
  exact (foldl_route_carries wellFormed stands mapping member className targetThen).grows grows

/-- The same for any mapping of a content. -/
theorem inEffect_of_install {content : Content} (regular : content.Regular)
    {before final : Application} (wellFormed : before.WellFormed) (finalKeyed : final.Keyed)
    (grows : (content.install before).Grows final) {part : MappingSection}
    (partMember : part ∈ content.sections) {mapping : Mapping} (member : mapping ∈ part.mappings)
    (settled : (declarationsOf part.declared).class? mapping.name = none →
      ∀ className, final.Declares className mapping.name →
        (content.declare before).Declares className mapping.name) :
    mapping.InEffect part.declared final := by
  have declared := evolves_declare regular before
  have servletsRouted := evolves_foldl_route (declarationsOf content.servlets)
    content.servletMappings (content.declare before)
  have filtersRouted := evolves_foldl_route (declarationsOf content.filters)
    content.filterMappings (content.servletMappings.foldl
      (route (declarationsOf content.servlets)) (content.declare before))
  have completed := (evolves_complete regular (content.routeAll (content.declare before))).grows
  rcases List.mem_cons.mp partMember with rfl | later
  · exact inEffect_of_route (declared.wellFormed wellFormed) finalKeyed
      (stands_servlets before) ((filtersRouted.grows.trans completed).trans grows) member settled
  · rw [List.mem_singleton.mp later] at member settled ⊢
    refine inEffect_of_route (servletsRouted.wellFormed (declared.wellFormed wellFormed))
      finalKeyed ((stands_filters before).grows servletsRouted.grows) (completed.trans grows)
      member fun undeclared className inFinal => ?_
    exact (declares_foldl_route _ _ _ _ _).mpr (settled undeclared className inFinal)

end Content

end ContainerReplay.Descriptor
