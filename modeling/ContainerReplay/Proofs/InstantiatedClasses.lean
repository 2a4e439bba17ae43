import ContainerReplay.Proofs.Allocations
import ContainerReplay.Proofs.ClassOrigins

/-!
# Which classes a driver instantiates

A class reaches an allocation as a component of its own, as the handler or the form bean of an
action, or as a stand-in.  Signatures and actions are checked on the way.  A class that a deployment
descriptor declares is not: it is instantiated even if its text is no class name, and even if the
index says that the class is abstract.
-/

set_option autoImplicit false

namespace ContainerReplay

open Descriptor Detection Synthesis

/-! ## Routes -/

/-- A controller replays an action that has the class as its handler or its form bean. -/
def ActsWith (classes : ClassIndex) (app : Application) (className : String) : Prop :=
  ∃ component ∈ app.componentList, component.kind = .actionServlet ∧
    ∃ mapping ∈ component.actionMappings, classes.resolves mapping.handlerClass = true ∧
      (mapping.handlerClass = className ∨ loadableForm? classes mapping = some className)

/-- The class is on record as something else than a controller. -/
def ReplayedItself (app : Application) (className : String) : Prop :=
  ∃ component, app.component? className = some component ∧ component.kind ≠ .actionServlet

def StandsIn (classes : ClassIndex) (app : Application) (className : String) : Prop :=
  ∃ component ∈ app.componentList, className ∈ standIns classes component

theorem mem_instancesOf_plain {classes : ClassIndex} {component : Component}
    (plain : component.kind ≠ .actionServlet) (className : String) :
    className ∈ instancesOf classes component ↔ className = component.className := by
  unfold instancesOf
  cases kind : component.kind with
  | servlet => exact List.mem_singleton
  | filter => exact List.mem_singleton
  | listener => exact List.mem_singleton
  | actionServlet => exact absurd kind plain

theorem mem_instancesOf_controller {classes : ClassIndex} {component : Component}
    (controller : component.kind = .actionServlet) (className : String) :
    className ∈ instancesOf classes component ↔
      ∃ mapping ∈ component.actionMappings, classes.resolves mapping.handlerClass = true ∧
        (mapping.handlerClass = className ∨ loadableForm? classes mapping = some className) := by
  simp only [instancesOf, controller, replayedMappings, List.mem_flatMap, List.mem_filter,
    List.mem_cons, Option.mem_toList, and_assoc, @eq_comm _ className]

theorem Creator.standard_instantiates_iff (site : Site) (className : String) :
    (Creator.standard.create site).driver.Instantiates className ↔
      ReplayedItself (Creator.standard.create site).app className ∨
        ActsWith site.classes (Creator.standard.create site).app className ∨
          StandsIn site.classes (Creator.standard.create site).app className := by
  have keyed := Creator.standard_keyed site
  refine (driver_instantiates_iff ⟨(Creator.standard.create site).app, site.classes⟩
    Driver.defaultClass className).trans ?_
  constructor
  · rintro ⟨component, listed, own | around⟩
    · by_cases controller : component.kind = .actionServlet
      · exact Or.inr (Or.inl ⟨component, listed, controller,
          (mem_instancesOf_controller controller className).mp own⟩)
      · have same := (mem_instancesOf_plain controller className).mp own
        have stored := (keyed.mem_componentList component).mp listed
        exact Or.inl ⟨component, same ▸ stored, controller⟩
    · exact Or.inr (Or.inr ⟨component, listed, around⟩)
  · rintro (⟨component, stored, plain⟩ | ⟨component, listed, controller, acts⟩ |
      ⟨component, listed, around⟩)
    · have listed := (Application.mem_componentList_iff _ component).mpr ⟨className, stored⟩
      have same := (keyed className component stored).symm
      exact ⟨component, listed, Or.inl ((mem_instancesOf_plain plain className).mpr same)⟩
    · exact ⟨component, listed,
        Or.inl ((mem_instancesOf_controller controller className).mpr acts)⟩
    · exact ⟨component, listed, Or.inr around⟩

/-! ## Malformed class names -/

section Malformed

variable {site : Site} {className : String}

theorem absent_of_malformed (keyed : site.classes.Keyed)
    (wellNamed : ∀ info ∈ site.classes.toList, isClassName info.name = true)
    (malformed : isClassName className = false) : site.classes.get? className = none := by
  cases found : site.classes.get? className with
  | none => rfl
  | some info =>
      have valid := wellNamed info ((ClassIndex.mem_toList_iff _ info).mpr ⟨className, found⟩)
      rw [keyed className info found, malformed] at valid
      cases valid

/-- Only a class that is or extends the action servlet turns into a controller. -/
theorem plain_of_no_owner (notController : className ≠ actionServletClass)
    (notBelow : site.classes.isSubclassOf className actionServletClass = false)
    {component : Component}
    (stored : (Creator.standard.create site).app.component? className = some component) :
    component.kind ≠ .actionServlet := by
  rw [Creator.standard_app] at stored
  obtain ⟨found, plain, foundStored, same⟩ := Course.upgraded_component stored
  have named := (Course.wellFormed_described _ site).keyed className found foundStored
  -- without an owner's class nothing is read for the component, and it stays as it was
  have unowned : ownsActions site.classes found ≠ true := by
    rw [ne_eq, ownsActions_of_plain plain, named, notBelow]
    simp [notController]
  have noShare : shareOf site found = [] := by
    rw [shareOf, if_neg unowned]
  rw [noShare] at same
  have untouched : component = found := by
    rw [same]
    split <;> rfl
  rw [untouched]
  exact plain.kind

theorem not_actsWith_of_malformed (malformed : isClassName className = false)
    (app : Application) : ¬ ActsWith site.classes app className := by
  have unresolved : site.classes.resolves className = false := by
    rw [ClassIndex.resolves, malformed, Bool.false_and]
  rintro ⟨component, _, _, mapping, _, resolved, rfl | form⟩
  · rw [unresolved] at resolved
    cases resolved
  · unfold loadableForm? at form
    split at form
    · cases form
    · split at form
      · rename_i loadable
        cases form
        rw [unresolved] at loadable
        cases loadable
      · cases form

theorem not_standsIn_of_malformed (malformed : isClassName className = false)
    (app : Application) : ¬ StandsIn site.classes app className := by
  rintro ⟨component, _, around⟩
  rw [isClassName_standIns _ component className around] at malformed
  cases malformed

end Malformed

/-- With an index of valid class names the default creator writes a driver that instantiates a
malformed one exactly if a deployment descriptor declares it. -/
theorem malformed_class_instantiated_iff {creator : Creator}
    (default : Creator.ofRegistry Registry.builtin builtinCatalog = .ok creator) (site : Site)
    (keyed : site.classes.Keyed)
    (wellNamed : ∀ info ∈ site.classes.toList, isClassName info.name = true) {className : String}
    (malformed : isClassName className = false) :
    (creator.create site).driver.Instantiates className ↔ Described site className := by
  cases Except.ok.inj (default.symm.trans Creator.ofRegistry_builtin)
  have absent := absent_of_malformed keyed wellNamed malformed
  rw [Creator.standard_instantiates_iff]
  constructor
  · rintro (⟨component, stored, _⟩ | acts | around)
    · rcases (Creator.standard_contains site className).mp ⟨component, stored⟩ with
        ⟨info, listed, rfl, _⟩ | described
      · rw [wellNamed info listed] at malformed
        cases malformed
      · exact described
    · exact absurd acts (not_actsWith_of_malformed malformed _)
    · exact absurd around (not_standsIn_of_malformed malformed _)
  · intro described
    obtain ⟨component, stored⟩ :=
      (Creator.standard_contains site className).mpr (Or.inr described)
    -- the class is not in the index, so that it extends nothing
    have notController : className ≠ actionServletClass := by
      rintro rfl
      revert malformed
      decide +kernel
    exact Or.inl ⟨component, stored, plain_of_no_owner notController
      (ClassIndex.isSubclassOf_of_absent absent actionServletClass) stored⟩

/-- A descriptor that declares a servlet of a class whose name has a blank. -/
def blankClassServlet : Site :=
  Site.ofTexts
    [("app/WEB-INF/web.xml",
      "<web-app><servlet><servlet-name>n</servlet-name><servlet-class>no class</servlet-class>" ++
        "</servlet></web-app>")]

theorem malformed_class_instantiated_with_blank :
    isClassName "no class" = false ∧
      (Creator.standard.create blankClassServlet).driver.Instantiates "no class" := by
  have malformed : isClassName "no class" = false := by decide +kernel
  have declared : (descriptorContent? blankClassServlet.loader deploymentDescriptor).map
      Content.classNames = some ["no class"] := by decide +kernel
  obtain ⟨content, read, classes⟩ := Option.map_eq_some_iff.mp declared
  have described : Described blankClassServlet "no class" :=
    described_of_content read (classes ▸ List.mem_singleton_self _)
  refine ⟨malformed, ?_⟩
  exact (malformed_class_instantiated_iff Creator.ofRegistry_builtin blankClassServlet
    ClassIndex.keyed_empty (by decide +kernel) malformed).mpr described

/-! ## Abstract classes -/

/-- The default creator writes a driver that instantiates an abstract class of the index exactly if a
deployment descriptor declares it and nothing has made it a controller, if an action has it as its
handler or its form bean, or if it has the name of a stand-in.  Its signature alone never makes it a
component. -/
theorem abstract_class_instantiated_iff {creator : Creator}
    (default : Creator.ofRegistry Registry.builtin builtinCatalog = .ok creator) (site : Site)
    (keyed : site.classes.Keyed) {className : String} {info : ClassInfo}
    (known : site.classes.get? className = some info) (isAbstract : info.isAbstract = true) :
    (¬ Deployed site.classes className) ∧
      ((creator.create site).driver.Instantiates className ↔
        (Described site className ∧ ReplayedItself (creator.create site).app className) ∨
          ActsWith site.classes (creator.create site).app className ∨
            StandsIn site.classes (creator.create site).app className) := by
  cases Except.ok.inj (default.symm.trans Creator.ofRegistry_builtin)
  have undeployed : ¬ Deployed site.classes className := by
    rintro ⟨other, listed, same, kind, deployed⟩
    obtain ⟨name, found⟩ := (ClassIndex.mem_toList_iff _ other).mp listed
    have ofName : className = name := same.symm.trans (keyed name other found)
    rw [← ofName, known] at found
    cases found
    rw [deployedAs?, isAbstract] at deployed
    cases deployed
  refine ⟨undeployed, ?_⟩
  rw [Creator.standard_instantiates_iff]
  have described : ReplayedItself (Creator.standard.create site).app className →
      Described site className := by
    rintro ⟨component, stored, _⟩
    exact ((Creator.standard_contains site className).mp ⟨component, stored⟩).resolve_left
      undeployed
  constructor
  · rintro (itself | other)
    · exact Or.inl ⟨described itself, itself⟩
    · exact Or.inr other
  · rintro (⟨_, itself⟩ | other)
    · exact Or.inl itself
    · exact Or.inr other

/-- A descriptor that declares a servlet of a class that is abstract. -/
def abstractServlet : Site where
  classes := .ofList [{ name := "com.example.Base", isAbstract := true }]
  loader := (Site.ofTexts
    [("app/WEB-INF/web.xml",
      "<web-app><servlet><servlet-name>n</servlet-name>" ++
        "<servlet-class>com.example.Base</servlet-class></servlet></web-app>")]).loader

theorem abstract_class_instantiated_as_servlet :
    abstractServlet.classes.get? "com.example.Base" =
        some { name := "com.example.Base", isAbstract := true } ∧
      (Creator.standard.create abstractServlet).driver.Instantiates "com.example.Base" := by
  have known : abstractServlet.classes.get? "com.example.Base" =
      some { name := "com.example.Base", isAbstract := true } := by decide +kernel
  have declared : (descriptorContent? abstractServlet.loader deploymentDescriptor).map
      Content.classNames = some ["com.example.Base"] := by decide +kernel
  obtain ⟨content, read, classes⟩ := Option.map_eq_some_iff.mp declared
  have described : Described abstractServlet "com.example.Base" :=
    described_of_content read (classes ▸ List.mem_singleton_self _)
  obtain ⟨component, stored⟩ :=
    (Creator.standard_contains abstractServlet "com.example.Base").mpr (Or.inr described)
  have plain : component.kind ≠ .actionServlet :=
    plain_of_no_owner (by decide) (by decide +kernel) stored
  refine ⟨known, ?_⟩
  exact ((abstract_class_instantiated_iff Creator.ofRegistry_builtin abstractServlet
    (ClassIndex.keyed_ofList _) known rfl).2).mpr (Or.inl ⟨described, component, stored, plain⟩)

end ContainerReplay
