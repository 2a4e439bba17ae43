import ContainerReplay.Proofs.DeploymentContent

/-!
# Where mappings go

Which class a mapping is for depends on the names under which classes are declared and on nothing
else.  A mapping whose class stays the same while a section is read ends up on that class.
-/

set_option autoImplicit false

namespace ContainerReplay

theorem className_antisymm {first second : String} (lower : compare first second ≠ .gt)
    (upper : compare second first ≠ .gt) : first = second := by
  cases ordered : compare first second with
  | lt => exact absurd (Std.OrientedCmp.gt_of_lt ordered) upper
  | eq => exact Std.LawfulEqCmp.eq_of_compare ordered
  | gt => exact absurd ordered lower

/-! ## Declared names -/

namespace Application

/-- A class stands in an application under a declared name. -/
def Declares (app : Application) (className name : String) : Prop :=
  ∃ component, app.component? className = some component ∧ name ∈ component.names

theorem declares_congr {first second : Application}
    (components : ∀ className, first.component? className = second.component? className)
    (className name : String) :
    first.Declares className name ↔ second.Declares className name := by
  rw [Declares, Declares, components]

theorem Grows.declares {before after : Application} (grows : before.Grows after)
    {className name : String} (declared : before.Declares className name) :
    after.Declares className name := by
  obtain ⟨component, found, member⟩ := declared
  obtain ⟨grown, foundGrown, growth⟩ := grows.components className component found
  exact ⟨grown, foundGrown, growth.names name member⟩

theorem declares_register (app : Application) (component : Component)
    (className name : String) :
    (app.register component).Declares className name ↔
      app.Declares className name ∨ component.className = className ∧ name ∈ component.names := by
  simp only [Declares, component?_register]
  by_cases same : component.className = className
  · cases found : app.component? className with
    | none => simp [same, Component.meeting]
    | some existing => simp [same, Component.meeting, Component.merge_eq,
        Std.ExtTreeSet.mem_union_iff]
  · simp [same]

theorem declares_registerAll (app : Application) (components : List Component)
    (className name : String) :
    (app.registerAll components).Declares className name ↔
      app.Declares className name ∨
        ∃ component ∈ components, component.className = className ∧ name ∈ component.names := by
  induction components generalizing app with
  | nil => simp [registerAll]
  | cons component rest ih =>
      have later := ih (app.register component)
      simp only [registerAll, List.foldl_cons] at later ⊢
      rw [later, declares_register]
      simp only [List.mem_cons, exists_eq_or_imp]
      exact or_assoc

theorem declares_registerAll_nameless (app : Application) {components : List Component}
    (nameless : ∀ component ∈ components, component.names = ∅) (className name : String) :
    (app.registerAll components).Declares className name ↔ app.Declares className name := by
  rw [declares_registerAll]
  constructor
  · rintro (declared | ⟨component, member, _, named⟩)
    · exact declared
    · rw [nameless component member] at named
      exact absurd named Std.ExtTreeSet.not_mem_empty
  · exact Or.inl

theorem declares_modify (app : Application) (target : String) {change : Component → Component}
    (names : ∀ component : Component, (change component).names = component.names)
    (className name : String) :
    (app.modify target change).Declares className name ↔ app.Declares className name := by
  simp only [Declares, component?_modify]
  split
  · simp only [Option.map_eq_some_iff]
    constructor
    · rintro ⟨_, ⟨component, found, rfl⟩, member⟩
      exact ⟨component, found, names component ▸ member⟩
    · rintro ⟨component, found, member⟩
      exact ⟨_, ⟨component, found, rfl⟩, (names component).symm ▸ member⟩
  · rfl

/-- The class on record under a name declares it, and no class before it does. -/
theorem named?_some {app : Application} (keyed : app.Keyed) {name : String}
    {component : Component} (found : app.named? name = some component) :
    app.Declares component.className name ∧
      ∀ className, app.Declares className name → compare component.className className ≠ .gt := by
  obtain ⟨hasName, before, after, divided, earlier⟩ := List.find?_eq_some_iff_append.mp found
  have member : component ∈ app.componentList := by
    rw [divided]
    simp
  have stored := (keyed.mem_componentList component).mp member
  refine ⟨⟨component, stored, Std.ExtTreeSet.contains_iff_mem.mp hasName⟩, ?_⟩
  rintro className ⟨other, foundOther, named⟩
  have otherClass := keyed className other foundOther
  have otherMember : other ∈ before ++ component :: after := by
    rw [← divided]
    exact (mem_componentList_iff app other).mpr ⟨className, foundOther⟩
  rcases List.mem_append.mp otherMember with inBefore | inRest
  · have unnamed := earlier other inBefore
    rw [Component.hasName, Std.ExtTreeSet.contains_iff_mem.mpr named] at unnamed
    cases unnamed
  · rcases List.mem_cons.mp inRest with same | inAfter
    · rw [← otherClass, same, Std.compare_self]
      decide
    · -- the list goes by class names, so that what comes later is no smaller
      have sorted := keyed.componentList_sorted
      rw [divided] at sorted
      have ordered := (List.pairwise_cons.mp (List.pairwise_append.mp sorted).2.1).1 other inAfter
      rw [← otherClass, ordered]
      decide

theorem named?_none {app : Application} {name : String} (missing : app.named? name = none)
    (className : String) : ¬ app.Declares className name := by
  rintro ⟨component, found, named⟩
  have member := (mem_componentList_iff app component).mpr ⟨className, found⟩
  have unnamed := List.find?_eq_none.mp missing component member
  exact unnamed (Std.ExtTreeSet.contains_iff_mem.mpr named)

theorem named?_isSome_iff (app : Application) (name : String) :
    (app.named? name).isSome = true ↔ ∃ className, app.Declares className name := by
  constructor
  · intro found
    obtain ⟨component, answer⟩ := Option.isSome_iff_exists.mp found
    have member := List.mem_of_find?_eq_some answer
    obtain ⟨className, stored⟩ := (mem_componentList_iff app component).mp member
    have named := List.find?_some answer
    exact ⟨className, component, stored, Std.ExtTreeSet.contains_iff_mem.mp named⟩
  · rintro ⟨className, declared⟩
    cases answer : app.named? name with
    | some component => rfl
    | none => exact absurd declared (named?_none answer className)

/-- The class on record under a name is decided by which classes are declared under it. -/
theorem named?_className_congr {first second : Application} (firstKeyed : first.Keyed)
    (secondKeyed : second.Keyed) {name : String}
    (same : ∀ className, first.Declares className name ↔ second.Declares className name) :
    (first.named? name).map Component.className =
      (second.named? name).map Component.className := by
  cases inFirst : first.named? name with
  | none =>
      cases inSecond : second.named? name with
      | none => rfl
      | some component =>
          have declared := (named?_some secondKeyed inSecond).1
          exact absurd ((same _).mpr declared) (named?_none inFirst _)
  | some component =>
      obtain ⟨declared, least⟩ := named?_some firstKeyed inFirst
      cases inSecond : second.named? name with
      | none => exact absurd ((same _).mp declared) (named?_none inSecond _)
      | some other =>
          obtain ⟨otherDeclared, otherLeast⟩ := named?_some secondKeyed inSecond
          have lower := least other.className ((same _).mpr otherDeclared)
          have upper := otherLeast component.className ((same _).mp declared)
          exact congrArg some (className_antisymm lower upper)

end Application

namespace Descriptor

/-! ## Targets -/

/-- All classes that a section declares stand in an application. -/
def Stands (declared : List NamedComponent) (app : Application) : Prop :=
  ∀ component ∈ componentsOf declared, ∃ stored,
    app.component? component.className = some stored

theorem Stands.grows {declared : List NamedComponent} {before after : Application}
    (stands : Stands declared before) (grows : before.Grows after) : Stands declared after := by
  intro component member
  obtain ⟨stored, found⟩ := stands component member
  obtain ⟨grown, foundGrown, _⟩ := grows.components _ stored found
  exact ⟨grown, foundGrown⟩

/-- A name that a section declares stands for the class of its last declaration. -/
theorem class?_some {declared : List NamedComponent} {name className : String}
    (found : (declarationsOf declared).class? name = some className) :
    ∃ entry ∈ declared, entry.name = name ∧ entry.component.className = className := by
  unfold Declarations.class? at found
  split at found
  · rename_i declaration answer
    cases found
    have member := List.mem_of_find?_eq_some answer
    have named := List.find?_some answer
    rw [declarationsOf, List.mem_reverse] at member
    obtain ⟨entry, entryMember, rfl⟩ := List.mem_map.mp member
    exact ⟨entry, entryMember, beq_iff_eq.mp named, rfl⟩
  · cases found

theorem class?_none {declared : List NamedComponent} {name : String}
    (missing : (declarationsOf declared).class? name = none) :
    ∀ entry ∈ declared, entry.name ≠ name := by
  intro entry member named
  unfold Declarations.class? at missing
  split at missing
  · cases missing
  · rename_i answer
    have listed : (entry.name, entry.component.className) ∈ declarationsOf declared :=
      List.mem_reverse.mpr (List.mem_map.mpr ⟨entry, member, rfl⟩)
    exact List.find?_eq_none.mp answer _ listed (beq_iff_eq.mpr named)

theorem mappingTarget?_declared {app : Application} (keyed : app.Keyed)
    {declared : List NamedComponent} (stands : Stands declared app) {name className : String}
    (found : (declarationsOf declared).class? name = some className) :
    Deployment.mappingTarget? app (declarationsOf declared) name = some className := by
  obtain ⟨entry, member, _, rfl⟩ := class?_some found
  obtain ⟨stored, foundStored⟩ := stands entry.component (List.mem_map.mpr ⟨entry, member, rfl⟩)
  simp only [Deployment.mappingTarget?, found, foundStored, Option.map_some]
  rw [keyed _ stored foundStored]

/-- A mapping is for the same class in two applications if a section declares its name, or if the
two declare the same classes under it. -/
theorem mappingTarget?_congr {first second : Application} (firstKeyed : first.Keyed)
    (secondKeyed : second.Keyed) {declared : List NamedComponent}
    (firstStands : Stands declared first) (secondStands : Stands declared second) {name : String}
    (same : (declarationsOf declared).class? name = none →
      ∀ className, first.Declares className name ↔ second.Declares className name) :
    Deployment.mappingTarget? first (declarationsOf declared) name =
      Deployment.mappingTarget? second (declarationsOf declared) name := by
  cases found : (declarationsOf declared).class? name with
  | some className =>
      rw [mappingTarget?_declared firstKeyed firstStands found,
        mappingTarget?_declared secondKeyed secondStands found]
  | none =>
      simp only [Deployment.mappingTarget?, found]
      exact Application.named?_className_congr firstKeyed secondKeyed (same found)

/-! ## Mappings in effect -/

/-- The component of a class has all that a mapping adds. -/
def Carries (app : Application) (className : String) (mapping : Mapping) : Prop :=
  ∃ component, app.component? className = some component ∧
    (∀ pattern ∈ mapping.urlPatterns, pattern ∈ component.urlPatterns) ∧
    ∀ name ∈ mapping.servletNames, name ∈ component.servletNames

theorem Carries.grows {before after : Application} {className : String} {mapping : Mapping}
    (carried : Carries before className mapping) (grows : before.Grows after) :
    Carries after className mapping := by
  obtain ⟨component, found, patterns, names⟩ := carried
  obtain ⟨grown, foundGrown, growth⟩ := grows.components className component found
  exact ⟨grown, foundGrown, fun pattern member => growth.urlPatterns pattern (patterns pattern member),
    fun name member => growth.servletNames name (names name member)⟩

theorem foldl_addUrlPattern_eq (patterns : List String) (component : Component) :
    patterns.foldl Component.addUrlPattern component =
      { component with urlPatterns := component.urlPatterns.insertMany patterns } := by
  induction patterns generalizing component with
  | nil => rfl
  | cons pattern rest ih =>
      rw [List.foldl_cons, ih, Std.ExtTreeSet.insertMany_cons]
      rfl

theorem foldl_addServletName_eq (names : List String) (component : Component) :
    names.foldl Component.addServletName component =
      { component with servletNames := component.servletNames.insertMany names } := by
  induction names generalizing component with
  | nil => rfl
  | cons name rest ih =>
      rw [List.foldl_cons, ih, Std.ExtTreeSet.insertMany_cons]
      rfl

theorem Mapping.addTo_eq (mapping : Mapping) (component : Component) :
    mapping.addTo component =
      { component with
        urlPatterns := component.urlPatterns.insertMany mapping.urlPatterns
        servletNames := component.servletNames.insertMany mapping.servletNames } := by
  rw [addTo, foldl_addServletName_eq, foldl_addUrlPattern_eq]

theorem insertMany_eq_self {names : Std.ExtTreeSet String} {added : List String}
    (present : ∀ name ∈ added, name ∈ names) : names.insertMany added = names := by
  refine Std.ExtTreeSet.ext_mem fun name => ?_
  rw [Std.ExtTreeSet.mem_insertMany_list, List.contains_iff_mem]
  constructor
  · rintro (member | new)
    · exact member
    · exact present name new
  · exact Or.inl

theorem route_eq_self {declarations : Declarations} {app : Application} {mapping : Mapping}
    (carried : ∀ className,
      Deployment.mappingTarget? app declarations mapping.name = some className →
        Carries app className mapping) : route declarations app mapping = app := by
  unfold route
  split
  · rfl
  · rename_i className target
    refine Application.modify_eq_self fun component found => ?_
    obtain ⟨stored, foundStored, patterns, names⟩ := carried className target
    rw [found] at foundStored
    cases foundStored
    rw [Mapping.addTo_eq, insertMany_eq_self patterns, insertMany_eq_self names]

theorem mappingTarget?_found {app : Application} (keyed : app.Keyed)
    {declarations : Declarations} {name className : String}
    (target : Deployment.mappingTarget? app declarations name = some className) :
    ∃ component, app.component? className = some component := by
  unfold Deployment.mappingTarget? at target
  split at target
  · rename_i declaredClass _
    obtain ⟨component, found, rfl⟩ := Option.map_eq_some_iff.mp target
    exact ⟨component, by rw [keyed declaredClass component found]; exact found⟩
  · obtain ⟨component, found, rfl⟩ := Option.map_eq_some_iff.mp target
    obtain ⟨stored, foundStored, _⟩ := (Application.named?_some keyed found).1
    exact ⟨stored, foundStored⟩

theorem route_carries {app : Application} (keyed : app.Keyed) {declarations : Declarations}
    {mapping : Mapping} {className : String}
    (target : Deployment.mappingTarget? app declarations mapping.name = some className) :
    Carries (route declarations app mapping) className mapping := by
  obtain ⟨component, found⟩ := mappingTarget?_found keyed target
  refine ⟨mapping.addTo component, ?_, fun pattern member => ?_, fun name member => ?_⟩
  · simp only [route, target, Application.component?_modify, if_true, found, Option.map_some]
  · rw [Mapping.addTo_eq, Std.ExtTreeSet.mem_insertMany_list]
    exact Or.inr (List.contains_iff_mem.mpr member)
  · rw [Mapping.addTo_eq, Std.ExtTreeSet.mem_insertMany_list]
    exact Or.inr (List.contains_iff_mem.mpr member)

theorem declares_route (declarations : Declarations) (app : Application) (mapping : Mapping)
    (className name : String) :
    (route declarations app mapping).Declares className name ↔ app.Declares className name := by
  unfold route
  split
  · rfl
  · exact Application.declares_modify app _
      (fun component => by rw [Mapping.addTo_eq]) className name

theorem declares_foldl_route (declarations : Declarations) (mappings : List Mapping)
    (app : Application) (className name : String) :
    (mappings.foldl (route declarations) app).Declares className name ↔
      app.Declares className name := by
  induction mappings generalizing app with
  | nil => rfl
  | cons mapping rest ih =>
      rw [List.foldl_cons, ih]
      exact declares_route declarations app mapping className name

/-- The same names stand for a class in two applications. -/
def SameLookups (declarations : Declarations) (first second : Application) : Prop :=
  ∀ name, (Deployment.mappingTarget? first declarations name).isSome =
    (Deployment.mappingTarget? second declarations name).isSome

/-- A mapping that is taken adds no class and no name. -/
theorem sameLookups_route (declarations routed : Declarations) (app : Application)
    (mapping : Mapping) : SameLookups declarations (route routed app mapping) app := by
  intro name
  rw [Bool.eq_iff_iff]
  unfold Deployment.mappingTarget?
  cases declarations.class? name with
  | none => simp only [Option.isSome_map, Application.named?_isSome_iff, declares_route]
  | some className =>
      simp only [Option.isSome_map, Option.isSome_iff_exists, ← Application.contains_iff]
      unfold route
      split
      · rfl
      · exact Application.contains_modify app _ _ className

theorem sameLookups_foldl_route (declarations routed : Declarations) (mappings : List Mapping)
    (app : Application) : SameLookups declarations (mappings.foldl (route routed) app) app := by
  induction mappings generalizing app with
  | nil => exact fun name => rfl
  | cons mapping rest ih =>
      intro name
      rw [List.foldl_cons, ih, sameLookups_route]

theorem evolves_foldl_route (declarations : Declarations) (mappings : List Mapping)
    (app : Application) : app.Evolves (mappings.foldl (route declarations) app) :=
  Application.evolves_foldl id mappings
    (fun mapping _ app => evolves_route declarations app mapping) app

/-- While the mappings of a section are taken each stays for the same class, so that in the end
every class carries the mappings that were for it in the beginning. -/
theorem foldl_route_carries {declared : List NamedComponent} {mappings : List Mapping}
    {app : Application} (wellFormed : app.WellFormed) (stands : Stands declared app) :
    ∀ mapping ∈ mappings, ∀ className,
      Deployment.mappingTarget? app (declarationsOf declared) mapping.name = some className →
        Carries (mappings.foldl (route (declarationsOf declared)) app) className mapping := by
  induction mappings generalizing app with
  | nil =>
      intro mapping member
      cases member
  | cons first rest ih =>
      intro mapping member className target
      have step := evolves_route (declarationsOf declared) app first
      rw [List.foldl_cons]
      rcases List.mem_cons.mp member with rfl | later
      · have carried := route_carries wellFormed.keyed target
        exact carried.grows (evolves_foldl_route (declarationsOf declared) rest _).grows
      · refine ih (step.wellFormed wellFormed) (stands.grows step.grows) mapping later className ?_
        -- the first mapping adds no names, so that the later one is still for its class
        rw [← target]
        refine mappingTarget?_congr (step.wellFormed wellFormed).keyed wellFormed.keyed
          (stands.grows step.grows) stands fun _ other => ?_
        exact declares_route (declarationsOf declared) app first other mapping.name

end Descriptor

end ContainerReplay
