import ContainerReplay.Proofs.ActionOwnership
import ContainerReplay.Proofs.DeclaredDispatch

/-!
# Where the classes of an application come from

A run puts a class on record for exactly two reasons: its signature makes a container deploy it, or a
deployment descriptor declares it.  Action configurations add to classes that are on record already.
-/

set_option autoImplicit false

namespace ContainerReplay

open Descriptor Detection

/-! ## Class indexes -/

namespace ClassIndex

/-- Every signature is stored under its own class name. -/
def Keyed (index : ClassIndex) : Prop :=
  ∀ name info, index.get? name = some info → info.name = name

theorem keyed_empty : empty.Keyed := by
  intro name info found
  simp [get?, empty] at found

theorem Keyed.insert {index : ClassIndex} (keyed : index.Keyed) (info : ClassInfo) :
    (index.insert info).Keyed := by
  intro name stored found
  simp only [get?, ClassIndex.insert, Std.ExtTreeMap.getElem?_insert,
    Std.compare_eq_iff_eq] at found
  split at found
  · rename_i same
    cases found
    exact same
  · exact keyed name stored found

theorem keyed_ofList (infos : List ClassInfo) : (ofList infos).Keyed :=
  List.foldlRecOn infos ClassIndex.insert keyed_empty fun _ keyed info _ => keyed.insert info

theorem mem_toList_iff (index : ClassIndex) (info : ClassInfo) :
    info ∈ index.toList ↔ ∃ name, index.get? name = some info := by
  simp only [toList, treeMap_values_eq, List.mem_map, Prod.exists, exists_eq_right,
    Std.ExtTreeMap.mem_toList_iff_getElem?_eq_some, get?]

theorem isSubclassOf_of_absent {index : ClassIndex} {name : String} (absent : index.get? name = none)
    (base : String) : index.isSubclassOf name base = false := by
  have top : index.superOf? name = none := by
    rw [superOf?, absent]
  have none : index.superclasses name = [] := by
    rw [superclasses, top]
    rfl
  rw [isSubclassOf, none]
  rfl

end ClassIndex

/-! ## Descriptors -/

namespace Descriptor

/-- The root of a deployment descriptor declares a class: as a servlet or a filter under a name, or
as a listener. -/
inductive DeclaresClass (root : Markup.Element) (className : String) : Prop where
  | named {form : DeclarationForm} {element : Markup.Element} {name : String}
      (known : form ∈ [servletForm, filterForm])
      (listed : element ∈ root.childrenNamed form.element)
      (declares : form.Declares element name className)
  | listener {element : Markup.Element} (listed : element ∈ root.childrenNamed "listener")
      (declares : childText? element "listener-class" = some className)

theorem contains_route (declarations : Declarations) (app : Application) (mapping : Mapping)
    (className : String) :
    (route declarations app mapping).contains className = true ↔ app.contains className = true := by
  unfold route
  split
  · exact Iff.rfl
  · exact app.contains_modify _ _ className

theorem contains_foldl_route (declarations : Declarations) (mappings : List Mapping)
    (app : Application) (className : String) :
    (mappings.foldl (route declarations) app).contains className = true ↔
      app.contains className = true := by
  induction mappings generalizing app with
  | nil => exact Iff.rfl
  | cons mapping rest ih =>
      rw [List.foldl_cons, ih]
      exact contains_route declarations app mapping className

namespace Content

def classNames (content : Content) : List String :=
  (componentsOf content.servlets ++ componentsOf content.filters ++ content.listeners).map
    Component.className

theorem contains_install_iff (content : Content) (app : Application) (className : String) :
    (content.install app).contains className = true ↔
      app.contains className = true ∨ className ∈ content.classNames := by
  have injected : ∀ (injections : List Injection) (app : Application),
      (injections.foldl Application.addInjection app).contains className =
        app.contains className := by
    intro injections
    induction injections with
    | nil => exact fun _ => rfl
    | cons injection rest ih => exact fun app => ih (app.addInjection injection)
  have configured : (content.configure app).contains className = true ↔
      app.contains className = true := by
    rw [Application.contains_iff, Application.contains_iff, component?_configure]
  rw [install, complete, injected, Application.contains_registerAll_iff, routeAll,
    contains_foldl_route, contains_foldl_route, declare, Application.contains_registerAll_iff,
    Application.contains_registerAll_iff, configured, classNames]
  simp only [List.map_append, List.mem_append, or_assoc]

end Content

theorem mem_classNames_contentOf (root : Markup.Element) (className : String) :
    className ∈ (Deployment.contentOf root).classNames ↔ DeclaresClass root className := by
  unfold Content.classNames componentsOf
  rw [List.map_append, List.map_append, List.mem_append, List.mem_append]
  simp only [List.map_map, List.mem_map, Function.comp_apply]
  constructor
  · rintro ((⟨entry, member, rfl⟩ | ⟨entry, member, rfl⟩) | ⟨component, member, rfl⟩)
    · obtain ⟨element, listed, taken⟩ := List.mem_filterMap.mp member
      exact .named List.mem_cons_self listed (DeclarationForm.declares_of_declaredServlet taken)
    · obtain ⟨element, listed, taken⟩ := List.mem_filterMap.mp member
      exact .named (List.mem_cons_of_mem _ (List.mem_singleton_self _)) listed
        (DeclarationForm.declares_of_declaredFilter taken)
    · obtain ⟨element, listed, taken⟩ := List.mem_filterMap.mp member
      obtain ⟨className, declares, rfl⟩ := Option.map_eq_some_iff.mp taken
      exact .listener listed declares
  · intro declared
    cases declared with
    | listener listed declares =>
        refine Or.inr ⟨{ className, kind := .listener }, ?_, rfl⟩
        refine List.mem_filterMap.mpr ⟨_, listed, ?_⟩
        rw [Deployment.declaredListener?, declares]
        rfl
    | named known listed declares =>
        rcases List.mem_cons.mp known with rfl | later
        · obtain ⟨entry, member, _, ofClass⟩ :=
            (DeclarationForm.servletForm_fits root).declared _ listed _ _ declares
          exact Or.inl (Or.inl ⟨entry, member, ofClass⟩)
        · rw [List.mem_singleton.mp later] at listed declares
          obtain ⟨entry, member, _, ofClass⟩ :=
            (DeclarationForm.filterForm_fits root).declared _ listed _ _ declares
          exact Or.inl (Or.inr ⟨entry, member, ofClass⟩)

/-- The descriptor at a path can be read, and it declares the class. -/
def DeclaredAt (loader : Loader) (path className : String) : Prop :=
  ∃ bytes source, loader.read path = .ok bytes ∧
    openSource path Deployment.roots bytes = .ok source ∧
    DeclaresClass source.document.root className

theorem declaredAt_iff (loader : Loader) (path className : String) :
    DeclaredAt loader path className ↔
      ∃ content, descriptorContent? loader path = some content ∧
        className ∈ content.classNames := by
  unfold DeclaredAt
  constructor
  · rintro ⟨bytes, source, read, opened, declared⟩
    refine ⟨Deployment.contentOf source.document.root, ?_,
      (mem_classNames_contentOf _ className).mpr declared⟩
    simp only [descriptorContent?, read, opened]
  · rintro ⟨content, found, member⟩
    unfold descriptorContent? at found
    split at found
    · cases found
    · rename_i bytes read
      split at found
      · cases found
      · rename_i source opened
        cases found
        exact ⟨bytes, source, read, opened, (mem_classNames_contentOf _ className).mp member⟩

theorem contains_installAt (loader : Loader) (path : String) (app : Application)
    (className : String) :
    (installAt loader path app).contains className = true ↔
      app.contains className = true ∨ DeclaredAt loader path className := by
  rw [declaredAt_iff, installAt]
  cases descriptorContent? loader path with
  | none => simp
  | some content => simp [Content.contains_install_iff]

end Descriptor

/-! ## Runs -/

namespace Detection

/-- The signature of a class of the index makes a container deploy it. -/
def Deployed (classes : ClassIndex) (className : String) : Prop :=
  ∃ info ∈ classes.toList, info.name = className ∧ ∃ kind, deployedAs? classes info = some kind

theorem mem_deployedComponents_names (classes : ClassIndex) (className : String) :
    className ∈ (deployedComponents classes).map Component.className ↔
      Deployed classes className := by
  simp only [Deployed, List.mem_map, mem_deployedComponents]
  constructor
  · rintro ⟨_, ⟨info, listed, kind, decided, rfl⟩, rfl⟩
    exact ⟨info, listed, rfl, kind, decided⟩
  · rintro ⟨info, listed, rfl, kind, decided⟩
    exact ⟨_, ⟨info, listed, kind, decided, rfl⟩, rfl⟩

/-- A deployment descriptor of a site declares the class; a fragment counts only beside the main
descriptor. -/
def Described (site : Site) (className : String) : Prop :=
  site.loader.hasResource deploymentDescriptor = true ∧
    (DeclaredAt site.loader deploymentDescriptor className ∨
      DeclaredAt site.loader deploymentFragment className)

theorem described_of_content {site : Site} {className : String} {content : Content}
    (read : descriptorContent? site.loader deploymentDescriptor = some content)
    (declared : className ∈ content.classNames) : Described site className :=
  ⟨hasResource_of_content read, Or.inl ((declaredAt_iff _ _ _).mpr ⟨content, read, declared⟩)⟩

end Detection

theorem Course.contains_effect (course : Course) (site : Site) (className : String) :
    (course.effect site {}).contains className = true ↔
      course.sourceStage = true ∧ Deployed site.classes className ∨
        course.descriptorStage = true ∧
          (DeclaredAt site.loader deploymentDescriptor className ∨
            DeclaredAt site.loader deploymentFragment className) := by
  have keyed := (course.wellFormed_described site).keyed
  -- upgrades belong to components that are there already
  have kept : (course.effect site {}).contains className = true ↔
      (course.described site (course.surveyed site {})).contains className = true := by
    unfold effect upgraded
    split
    · rw [Application.contains_iff, Application.contains_iff,
        component?_registerAll_upgrades site keyed]
      simp
    · exact Iff.rfl
  have surveyed : (course.surveyed site {}).contains className = true ↔
      course.sourceStage = true ∧ Deployed site.classes className := by
    unfold surveyed
    split
    · rename_i stage
      rw [Application.contains_registerAll_iff, mem_deployedComponents_names,
        Application.contains_empty]
      simp [stage]
    · rename_i stage
      rw [Application.contains_empty]
      simp [stage]
  rw [kept]
  unfold described
  split
  · rename_i stage
    rw [contains_installAt, contains_installAt, surveyed]
    simp [stage, or_assoc]
  · rename_i stage
    rw [surveyed]
    simp [stage]

/-- A class is on record after a run of the built-in detectors exactly if it is deployed by its
signature or described. -/
theorem Creator.standard_contains (site : Site) (className : String) :
    (∃ component, (Creator.standard.create site).app.component? className = some component) ↔
      Deployed site.classes className ∨ Described site className := by
  rw [← Application.contains_iff, Creator.standard_app, Course.contains_effect]
  simp [Course.ofSelection, Described]

end ContainerReplay
