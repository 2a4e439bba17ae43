import ContainerReplay.Proofs.ClassOrigins
import ContainerReplay.Proofs.ServletPackages
import Mathlib.Data.List.Basic

/-!
# Which classes a container deploys by their signature

The grounds on which a class is deployed, said of annotations and of the hierarchy, and that the
source pass registers exactly the classes with such a ground, each as the kind of its first one.
-/

set_option autoImplicit false

namespace ContainerReplay

namespace Survey

/-- The first description of a class is put on record as it is, without a remark. -/
theorem register_new {survey : Survey} {component : Component}
    (absent : survey.app.component? component.className = none) :
    (survey.register component).diagnostics = survey.diagnostics ∧
      ∀ className, (survey.register component).app.component? className =
        if component.className = className then some component
        else survey.app.component? className := by
  constructor
  · rw [register_diagnostics, Application.outcome, absent]
    exact List.append_nil _
  · intro className
    rw [register_app, Application.component?_register]
    split
    · rename_i same
      rw [← same, absent]
      rfl
    · rfl

theorem foldl_register_new {components : List Component} {survey : Survey}
    (distinct : (components.map Component.className).Nodup)
    (new : ∀ component ∈ components, survey.app.component? component.className = none) :
    (components.foldl register survey).diagnostics = survey.diagnostics ∧
      ∀ className component,
        (components.foldl register survey).app.component? className = some component ↔
          survey.app.component? className = some component ∨
            component ∈ components ∧ component.className = className := by
  induction components generalizing survey with
  | nil => simp
  | cons first rest ih =>
      have absent := new first List.mem_cons_self
      obtain ⟨silent, stored⟩ := register_new absent
      rw [List.map_cons, List.nodup_cons] at distinct
      -- the rest is registered on an application that holds the first one and nothing else new
      have later : ∀ component ∈ rest, component.className ≠ first.className :=
        fun component member same => distinct.1 (same ▸ List.mem_map_of_mem member)
      obtain ⟨diagnostics, onRecord⟩ := ih distinct.2 fun component member => by
        rw [stored, if_neg (later component member).symm]
        exact new component (List.mem_cons_of_mem _ member)
      rw [List.foldl_cons]
      refine ⟨diagnostics.trans silent, fun className component => ?_⟩
      rw [onRecord, stored, List.mem_cons, or_and_right]
      by_cases same : first.className = className
      · subst same
        rw [if_pos rfl, absent]
        constructor
        · rintro (found | listed)
          · cases found
            exact Or.inr (Or.inl ⟨rfl, rfl⟩)
          · exact Or.inr (Or.inr listed)
        · rintro (found | ⟨rfl, -⟩ | listed)
          · cases found
          · exact Or.inl rfl
          · exact Or.inr listed
      · have other : ¬ (component = first ∧ component.className = className) :=
          fun ⟨isFirst, named⟩ => same (isFirst ▸ named)
        rw [if_neg same, or_iff_right other]

end Survey

theorem ClassIndex.Keyed.names_nodup {index : ClassIndex} (keyed : index.Keyed) :
    (index.toList.map ClassInfo.name).Nodup := by
  have names : index.toList.map ClassInfo.name = index.classes.keys := by
    rw [toList, treeMap_values_eq, ← Std.ExtTreeMap.map_fst_toList_eq_keys, List.map_map]
    refine List.map_congr_left fun entry member => ?_
    exact keyed entry.1 entry.2 (Std.ExtTreeMap.mem_toList_iff_getElem?_eq_some.mp member)
  rw [names]
  exact Std.ExtTreeMap.nodup_keys

namespace Detection

/-! ## Grounds

A type or an annotation goes by its name within the API, and either package will do. -/

def Carries (info : ClassInfo) (simple : String) : Prop :=
  ∃ package : Namespace, package.qualify simple ∈ info.annotations

def ExtendsEither (classes : ClassIndex) (className simple : String) : Prop :=
  ∃ package : Namespace, classes.Descends className (package.qualify simple)

def ImplementsEither (classes : ClassIndex) (className simple : String) : Prop :=
  ∃ package : Namespace, classes.Implements className (package.qualify simple)

/-- The grounds on which a container deploys a class. -/
inductive Ground where
  | annotatedServlet
  | annotatedFilter
  | annotatedListener
  | servletType
  | filterType
  | listenerType
  deriving DecidableEq

namespace Ground

/-- All grounds, those that decide the kind first at the front. -/
def all : List Ground :=
  [annotatedServlet, annotatedFilter, annotatedListener, servletType, filterType, listenerType]

def kind : Ground → Kind
  | annotatedServlet => .servlet
  | annotatedFilter => .filter
  | annotatedListener => .listener
  | servletType => .servlet
  | filterType => .filter
  | listenerType => .listener

def Holds (classes : ClassIndex) (info : ClassInfo) : Ground → Prop
  | annotatedServlet => Carries info ServletApi.servletAnnotation
  | annotatedFilter => Carries info ServletApi.filterAnnotation
  | annotatedListener => Carries info ServletApi.listenerAnnotation
  | servletType =>
      (∃ base ∈ ServletApi.servletBases, ExtendsEither classes info.name base) ∨
        ImplementsEither classes info.name ServletApi.servletInterface
  | filterType => ImplementsEither classes info.name ServletApi.filterInterface
  | listenerType =>
      ∃ callback ∈ ServletApi.listenerCallbacks,
        ImplementsEither classes info.name callback.interface

/-- The search for a ground in the index. -/
def test (classes : ClassIndex) (className : String) : Ground → Bool
  | annotatedServlet => isAnnotated classes className ServletApi.servletAnnotation
  | annotatedFilter => isAnnotated classes className ServletApi.filterAnnotation
  | annotatedListener => isAnnotated classes className ServletApi.listenerAnnotation
  | servletType => isServletClass classes className
  | filterType => implementsAny classes className ServletApi.filterInterface
  | listenerType => isListenerClass classes className

@[simp] theorem mem_all (ground : Ground) : ground ∈ all := by
  cases ground <;> simp [all]

end Ground

/-- A class is deployed as a kind: it can be instantiated, it does not belong to the API, and of the
grounds that there are for it the first one decides for that kind. -/
structure DeploysAs (classes : ClassIndex) (info : ClassInfo) (kind : Kind) : Prop where
  concrete : info.isAbstract = false
  foreign : ∀ (package : Namespace) (simple : String), info.name ≠ package.qualify simple
  first : ∃ earlier ground later, Ground.all = earlier ++ ground :: later ∧
    ground.Holds classes info ∧ (∀ other ∈ earlier, ¬ other.Holds classes info) ∧
      ground.kind = kind

variable {classes : ClassIndex} {info : ClassInfo}

theorem extendsAny_iff {className simple : String} :
    extendsAny classes className simple = true ↔ ExtendsEither classes className simple := by
  simp only [extendsAny, ExtendsEither, ServletApi.any_inAllNamespaces,
    ClassIndex.isSubclassOf_iff]

theorem implementsAny_iff {className simple : String} :
    implementsAny classes className simple = true ↔
      ImplementsEither classes className simple := by
  simp only [implementsAny, ImplementsEither, ServletApi.any_inAllNamespaces,
    ClassIndex.implements_iff]

/-- The cascade of tests is a search for the first ground. -/
theorem deployedAs?_eq :
    deployedAs? classes info =
      if info.isAbstract || ServletApi.isApiClass info.name then none
      else (Ground.all.find? (Ground.test classes info.name)).map Ground.kind := by
  simp only [deployedAs?, Ground.all, List.find?_cons, List.find?_nil, Ground.test]
  repeat' split
  all_goals first | rfl | simp_all

theorem deployable_iff :
    (info.isAbstract || ServletApi.isApiClass info.name) = false ↔
      info.isAbstract = false ∧
        ∀ (package : Namespace) (simple : String), info.name ≠ package.qualify simple := by
  rw [Bool.or_eq_false_iff, ← Bool.not_eq_true (ServletApi.isApiClass _),
    ServletApi.isApiClass_iff]
  simp only [not_exists, ne_eq]

section

variable (stored : classes.get? info.name = some info)

include stored

theorem isAnnotated_iff {simple : String} :
    isAnnotated classes info.name simple = true ↔ Carries info simple := by
  simp only [isAnnotated, Carries, ServletApi.any_inAllNamespaces, ClassIndex.hasAnnotation,
    stored, List.contains_iff_mem]

theorem Ground.test_iff {ground : Ground} :
    ground.test classes info.name = true ↔ ground.Holds classes info := by
  cases ground with
  | annotatedServlet => exact isAnnotated_iff stored
  | annotatedFilter => exact isAnnotated_iff stored
  | annotatedListener => exact isAnnotated_iff stored
  | servletType =>
      simp only [test, Holds, isServletClass, Bool.or_eq_true, List.any_eq_true, extendsAny_iff,
        implementsAny_iff]
  | filterType => exact implementsAny_iff
  | listenerType =>
      simp only [test, Holds, isListenerClass, List.any_eq_true, implementsAny_iff]

theorem deployedAs?_eq_some_iff {kind : Kind} :
    deployedAs? classes info = some kind ↔ DeploysAs classes info kind := by
  have firstGround : (Ground.all.find? (Ground.test classes info.name)).map Ground.kind =
      some kind ↔ ∃ earlier ground later, Ground.all = earlier ++ ground :: later ∧
        ground.Holds classes info ∧ (∀ other ∈ earlier, ¬ other.Holds classes info) ∧
          ground.kind = kind := by
    simp only [Option.map_eq_some_iff, List.find?_eq_some_iff_append, Bool.not_eq_true',
      ← Bool.not_eq_true, Ground.test_iff stored]
    constructor
    · rintro ⟨ground, ⟨holds, earlier, later, divided, none⟩, decided⟩
      exact ⟨earlier, ground, later, divided, holds, none, decided⟩
    · rintro ⟨earlier, ground, later, divided, holds, none, decided⟩
      exact ⟨ground, ⟨holds, earlier, later, divided, none⟩, decided⟩
  rw [deployedAs?_eq]
  constructor
  · intro deployed
    split at deployed
    · cases deployed
    · rename_i allowed
      obtain ⟨concrete, foreign⟩ := deployable_iff.mp (Bool.not_eq_true _ ▸ allowed)
      exact ⟨concrete, foreign, firstGround.mp deployed⟩
  · intro deploys
    rw [deployable_iff.mpr ⟨deploys.concrete, deploys.foreign⟩]
    exact firstGround.mpr deploys.first

theorem exists_deploysAs_iff :
    (∃ kind, DeploysAs classes info kind) ↔
      info.isAbstract = false ∧
        (∀ (package : Namespace) (simple : String), info.name ≠ package.qualify simple) ∧
          ∃ ground : Ground, ground.Holds classes info := by
  constructor
  · rintro ⟨kind, concrete, foreign, _, ground, _, _, holds, _⟩
    exact ⟨concrete, foreign, ground, holds⟩
  · rintro ⟨concrete, foreign, ground, holds⟩
    have answered : (Ground.all.find? (Ground.test classes info.name)).isSome = true :=
      List.find?_isSome.mpr ⟨ground, ground.mem_all, (Ground.test_iff stored).mpr holds⟩
    obtain ⟨first, found⟩ := Option.isSome_iff_exists.mp answered
    refine ⟨first.kind, (deployedAs?_eq_some_iff stored).mp ?_⟩
    rw [deployedAs?_eq, deployable_iff.mpr ⟨concrete, foreign⟩, found]
    rfl

end

/-! ## The source pass -/

theorem mem_deployedComponents_iff (keyed : classes.Keyed) (className : String)
    (component : Component) :
    component ∈ deployedComponents classes ∧ component.className = className ↔
      ∃ info kind, classes.get? className = some info ∧ DeploysAs classes info kind ∧
        component = { className, kind } := by
  rw [mem_deployedComponents]
  constructor
  · rintro ⟨⟨info, listed, kind, decided, rfl⟩, rfl⟩
    obtain ⟨name, stored⟩ := (ClassIndex.mem_toList_iff classes info).mp listed
    have ofName := keyed name info stored
    subst ofName
    exact ⟨info, kind, stored, (deployedAs?_eq_some_iff stored).mp decided, rfl⟩
  · rintro ⟨info, kind, stored, deploys, rfl⟩
    have ofName := keyed className info stored
    subst ofName
    have listed := (ClassIndex.mem_toList_iff classes info).mpr ⟨_, stored⟩
    exact ⟨⟨info, listed, kind, (deployedAs?_eq_some_iff stored).mpr deploys, rfl⟩, rfl⟩

theorem deployedComponents_distinct (keyed : classes.Keyed) :
    ((deployedComponents classes).map Component.className).Nodup := by
  rw [deployedComponents, List.Nodup, List.pairwise_map, List.pairwise_filterMap]
  have names := keyed.names_nodup
  rw [List.Nodup, List.pairwise_map] at names
  refine names.imp fun differ first ofFirst second ofSecond => ?_
  obtain ⟨_, _, rfl⟩ := deployed?_eq_some_iff.mp ofFirst
  obtain ⟨_, _, rfl⟩ := deployed?_eq_some_iff.mp ofSecond
  exact differ

/-- On an application of which nothing is known the source pass succeeds without a remark.  It
registers the classes of the index for which there is a ground, and no others, each as the kind that
its first ground decides for and with no attributes. -/
theorem source_registers_deployable {site : Site} (keyed : site.classes.Keyed)
    (remarks : List Diagnostic) :
    let result := servletSource site ⟨{}, remarks⟩
    result.failure = none ∧ result.survey.diagnostics = remarks ∧
      (∀ className, result.survey.app.contains className = true ↔
        ∃ info, site.classes.get? className = some info ∧ info.isAbstract = false ∧
          (∀ (package : Namespace) (simple : String), className ≠ package.qualify simple) ∧
            ∃ ground : Ground, ground.Holds site.classes info) ∧
      ∀ className component, result.survey.app.component? className = some component ↔
        ∃ info kind, site.classes.get? className = some info ∧
          DeploysAs site.classes info kind ∧ component = { className, kind } := by
  intro result
  have new : ∀ component ∈ deployedComponents site.classes,
      (⟨{}, remarks⟩ : Survey).app.component? component.className = none :=
    fun component _ => Application.component?_empty component.className
  obtain ⟨diagnostics, onRecord⟩ :=
    Survey.foldl_register_new (deployedComponents_distinct keyed) new
  have registered : ∀ className component,
      result.survey.app.component? className = some component ↔
        ∃ info kind, site.classes.get? className = some info ∧
          DeploysAs site.classes info kind ∧ component = { className, kind } := by
    intro className component
    refine (onRecord className component).trans ?_
    rw [Application.component?_empty, mem_deployedComponents_iff keyed]
    simp only [reduceCtorEq, false_or]
  refine ⟨rfl, diagnostics, fun className => ?_, registered⟩
  rw [Application.contains_iff]
  simp only [registered]
  constructor
  · rintro ⟨component, info, kind, stored, deploys, rfl⟩
    have ofName := keyed className info stored
    subst ofName
    exact ⟨info, stored, (exists_deploysAs_iff stored).mp ⟨kind, deploys⟩⟩
  · rintro ⟨info, stored, deployable⟩
    have ofName := keyed className info stored
    subst ofName
    obtain ⟨kind, deploys⟩ := (exists_deploysAs_iff stored).mpr deployable
    exact ⟨_, info, kind, stored, deploys, rfl⟩

/-- Two classes that extend each other and name interfaces of which the index knows nothing. -/
def circularHierarchy : Site where
  classes := .ofList
    [{ name := "com.example.Inner", superClass := some "com.example.Outer" },
      { name := "com.example.Outer", superClass := some "com.example.Inner",
        interfaces := ["com.example.Missing", "jakarta.servlet.Filter"] }]
  loader := .classpath []

/-- The first of them is a filter through the other one. -/
theorem circularHierarchy_filter :
    circularHierarchy.classes.Keyed ∧
      ∃ info, circularHierarchy.classes.get? "com.example.Inner" = some info ∧
        DeploysAs circularHierarchy.classes info .filter := by
  have keyed : circularHierarchy.classes.Keyed := ClassIndex.keyed_ofList _
  refine ⟨keyed, ?_⟩
  obtain ⟨_, _, _, registered⟩ := source_registers_deployable keyed []
  have found : (servletSource circularHierarchy ⟨{}, []⟩).survey.app.component?
      "com.example.Inner" = some { className := "com.example.Inner", kind := .filter } := by
    decide +kernel
  obtain ⟨info, kind, stored, deploys, same⟩ := (registered _ _).mp found
  cases same
  exact ⟨info, stored, deploys⟩

end Detection

end ContainerReplay
