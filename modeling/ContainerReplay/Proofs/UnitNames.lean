import Mathlib.Data.List.Nodup
import Mathlib.Data.List.Pairwise
import ContainerReplay.Proofs.Allocations
import ContainerReplay.Proofs.DeclaredDispatch
import ContainerReplay.Proofs.ModulePaths

/-!
# Names of units

A unit is named by the class of its component; behind the class of a controller stands the path of
the action, with nothing between them.  Class names hold no slash, so that a path with a slash in
front is told apart from the class name before it, and paths in modules have one.  A relative path of
the default module may complete the class name of its controller to another name.
-/

set_option autoImplicit false

namespace ContainerReplay

open Descriptor Detection Synthesis

/-! ## Class names as parts of texts -/

namespace Text

/-- Of two ways to cut one text the front of one begins with the front of the other. -/
theorem append_eq_append {first second tail otherTail : String}
    (same : first ++ tail = second ++ otherTail) :
    (∃ rest, second = first ++ rest ∧ tail = rest ++ otherTail) ∨
      ∃ rest, first = second ++ rest ∧ otherTail = rest ++ tail := by
  have lists := congrArg String.toList same
  simp only [String.toList_append] at lists
  rcases List.append_eq_append_iff.mp lists with ⟨rest, longer, behind⟩ | ⟨rest, longer, behind⟩
  · exact Or.inl ⟨String.ofList rest, String.toList_inj.mp (by simp [longer]),
      String.toList_inj.mp (by simp [behind])⟩
  · exact Or.inr ⟨String.ofList rest, String.toList_inj.mp (by simp [longer]),
      String.toList_inj.mp (by simp [behind])⟩

end Text

theorem Dotted.noSlash {cs : List Char} (name : Dotted cs) : '/' ∉ cs := by
  have noPart : ¬ (Letter '/' ∨ ('0' ≤ '/' ∧ '/' ≤ '9')) := by
    unfold Letter
    decide
  induction name with
  | single name => exact fun member => noPart (name.letters '/' member)
  | joined name behind ih =>
      rw [List.mem_append, List.mem_cons, not_or, not_or]
      exact ⟨fun member => noPart (name.letters '/' member), by decide, ih⟩

theorem noSlash_of_isClassName {name : String} (valid : isClassName name = true) :
    '/' ∉ name.toList :=
  (isClassName_iff.mp valid).noSlash

/-! ## What stands behind a class name -/

namespace Synthesis

/-- What the units of a component have behind its class name: the paths of the actions that are
replayed, or nothing. -/
def unitTails (classes : ClassIndex) (component : Component) : List String :=
  match component.kind with
  | .servlet => [""]
  | .filter => [""]
  | .listener => [""]
  | .actionServlet => (replayedMappings classes component).map ActionMapping.path

theorem unitTails_controller {component : Component} (controller : component.kind = .actionServlet)
    (classes : ClassIndex) :
    unitTails classes component = (replayedMappings classes component).map ActionMapping.path := by
  rw [unitTails, controller]

theorem unitTails_plain {component : Component} (plain : component.kind ≠ .actionServlet)
    (classes : ClassIndex) : unitTails classes component = [""] := by
  unfold unitTails
  cases kind : component.kind with
  | servlet => rfl
  | filter => rfl
  | listener => rfl
  | actionServlet => exact absurd kind plain

theorem mem_unitTails_of_ne {classes : ClassIndex} {component : Component} {tail : String}
    (member : tail ∈ unitTails classes component) (nonempty : tail ≠ "") :
    component.kind = .actionServlet ∧ ∃ mapping ∈ component.actionMappings,
      classes.resolves mapping.handlerClass = true ∧ mapping.path = tail := by
  by_cases controller : component.kind = .actionServlet
  · rw [unitTails_controller controller] at member
    obtain ⟨mapping, kept, rfl⟩ := List.mem_map.mp member
    obtain ⟨mapped, resolved⟩ := List.mem_filter.mp kept
    exact ⟨controller, mapping, mapped, resolved, rfl⟩
  · rw [unitTails_plain controller] at member
    exact absurd (List.mem_singleton.mp member) nonempty

def namesOf (classes : ClassIndex) (component : Component) : List String :=
  (unitTails classes component).map (component.className ++ ·)

theorem names_replayComponent (scene : Scene) (component : Component) :
    (replayComponent (.ofList builtinTemplates) scene component).units.map DriverUnit.name =
      namesOf scene.classes component := by
  have accounts := replayComponent_accounts (fun template member => member) scene component
  have covered := builtin_covers component.kind
  by_cases controller : component.kind = .actionServlet
  · have headings := congrArg (List.map UnitHeading.name) (accounts.actions covered controller).1
    rw [List.map_map, List.map_map] at headings
    rw [namesOf, unitTails_controller controller, List.map_map]
    exact headings
  · obtain ⟨⟨only, template, units, heading⟩, -⟩ := accounts.single covered controller
    rw [namesOf, unitTails_plain controller, units]
    have named : only.name = component.className := congrArg UnitHeading.name heading
    simp [named]

theorem nodup_namesOf (classes : ClassIndex) {component : Component}
    (distinct : component.mappingPaths.Nodup) : (namesOf classes component).Nodup := by
  have tails : (unitTails classes component).Nodup := by
    by_cases controller : component.kind = .actionServlet
    · rw [unitTails_controller controller]
      exact distinct.sublist (List.filter_sublist.map _)
    · rw [unitTails_plain controller]
      exact List.nodup_singleton ""
  exact tails.map fun first second same => String.append_right_inj _ |>.mp same

/-- The names of a driver are distinct exactly if no two components share one. -/
theorem names_nodup_iff {scene : Scene} (wellFormed : scene.app.WellFormed) :
    ((synthesize (.ofList builtinTemplates) scene).units.map DriverUnit.name).Nodup ↔
      ∀ first ∈ scene.app.componentList, ∀ second ∈ scene.app.componentList, first ≠ second →
        (namesOf scene.classes first).Disjoint (namesOf scene.classes second) := by
  have ordered := Component.inContainerOrder_perm scene.app.componentList
  have names : (synthesize (.ofList builtinTemplates) scene).units.map DriverUnit.name =
      (Component.inContainerOrder scene.app.componentList).flatMap (namesOf scene.classes) := by
    simp only [synthesize, replayAll, List.map_flatMap, names_replayComponent]
  have within : ∀ component ∈ scene.app.componentList,
      (namesOf scene.classes component).Nodup := by
    intro component listed
    obtain ⟨className, stored⟩ := (Application.mem_componentList_iff _ component).mp listed
    exact nodup_namesOf _ (wellFormed.distinctPaths className component stored)
  have apart : scene.app.componentList.Pairwise (· ≠ ·) :=
    List.Nodup.of_map _ wellFormed.keyed.classNames_nodup
  rw [names, (ordered.flatMap_right _).nodup_iff, List.nodup_flatMap]
  constructor
  · rintro ⟨-, disjoint⟩
    have symmetric : Std.Symm (Function.onFun List.Disjoint (namesOf scene.classes)) :=
      ⟨fun _ _ disjoint _ inSecond inFirst => disjoint inFirst inSecond⟩
    exact fun first firstListed second secondListed different =>
      disjoint.forall firstListed secondListed different
  · intro disjoint
    refine ⟨within, apart.imp_of_mem ?_⟩
    exact fun firstListed secondListed different =>
      disjoint _ firstListed _ secondListed different

theorem exists_unit_of_name (scene : Scene) {component : Component}
    (listed : component ∈ scene.app.componentList) {name : String}
    (member : name ∈ namesOf scene.classes component) :
    ∃ unit ∈ (synthesize (.ofList builtinTemplates) scene).units,
      unit.component = component.className ∧ unit.name = name := by
  rw [← names_replayComponent] at member
  obtain ⟨unit, own, rfl⟩ := List.mem_map.mp member
  have accounts := replayComponent_accounts (fun template member => member) scene component
  exact ⟨unit, (replayComponent_subset _ listed).1 unit own,
    (accounts.unit_of_component unit own).1, rfl⟩

theorem exists_component_of_unit {scene : Scene} {unit : DriverUnit}
    (written : unit ∈ (synthesize (.ofList builtinTemplates) scene).units) :
    ∃ component ∈ scene.app.componentList,
      unit.component = component.className ∧ unit.name ∈ namesOf scene.classes component := by
  obtain ⟨component, processed, own⟩ := List.mem_flatMap.mp written
  have listed := (Component.inContainerOrder_perm scene.app.componentList).mem_iff.mp processed
  have accounts := replayComponent_accounts (fun template member => member) scene component
  refine ⟨component, listed, (accounts.unit_of_component unit own).1, ?_⟩
  rw [← names_replayComponent]
  exact List.mem_map_of_mem own

end Synthesis

/-! ## Where mappings come from -/

/-- Every mapping of a component after a run is read from a file that the component names. -/
theorem Creator.standard_mapping_read (site : Site) {className : String} {component : Component}
    (stored : (Creator.standard.create site).app.component? className = some component)
    {mapping : ActionMapping} (mapped : mapping ∈ component.actionMappings) :
    ∃ file, NamesFile component file ∧ ∃ path, ReadFrom site.loader file path mapping := by
  rw [Creator.standard_app] at stored
  obtain ⟨found, plain, foundStored, same⟩ := Course.upgraded_component stored
  let course := Course.ofSelection ["servlet", "struts"] false site.loader
  have keyed := (course.wellFormed_described site).keyed
  have listed := (Application.mem_componentList_iff _ found).mpr ⟨_, foundStored⟩
  have stage : course.actionStage = true := rfl
  have upgraded : component = found.mergeAll (shareOf site found) := by
    rw [same, if_pos stage]
  have merged := found.mergeAll_upgrades (isUpgrade_of_shareOf site keyed listed)
  have sameFiles : actionFiles component = actionFiles found := by
    rw [upgraded, merged]
    rfl
  rw [upgraded, merged, plain.noActions] at mapped
  have shared := ActionMapping.mem_of_mem_putAll mapped
  have owns : ownsActions site.classes found = true :=
    (share_gives_iff.mp (List.ne_nil_of_mem shared)).1
  rw [shareOf_actionMappings owns] at shared
  obtain ⟨file, named, taken⟩ := List.mem_flatMap.mp shared
  rw [← sameFiles] at named
  exact ⟨file, (mem_actionFiles_iff component file).mp named,
    mem_actionsOf_iff.mp (ActionMapping.mem_of_mem_putAll taken)⟩

/-! ## Relative paths -/

/-- A relative path completes the class name of its controller to the name of a unit of another
component, whose class name begins with that of the controller.  It is the path of an action of the
default module as it stands there. -/
structure Completes (site : Site) (entry : EntryPoint) (controller : Component)
    (mapping : ActionMapping) (unit : DriverUnit) : Prop where
  listed : controller ∈ entry.app.componentList
  kind : controller.kind = .actionServlet
  mapped : mapping ∈ controller.actionMappings
  resolved : site.classes.resolves mapping.handlerClass = true
  relative : mapping.path.toList.head? ≠ some '/'
  read : ∃ file ∈ defaultFiles controller, ReadFrom site.loader file mapping.path mapping
  written : unit ∈ entry.driver.units
  longer : ∃ rest, rest ≠ "" ∧ unit.component = controller.className ++ rest
  name : unit.name = controller.className ++ mapping.path

theorem read_of_relative {site : Site} {controller : Component} {file : ActionFile} {path : String}
    {mapping : ActionMapping} (named : NamesFile controller file)
    (read : ReadFrom site.loader file path mapping) (relative : mapping.path.toList.head? ≠ some '/') :
    ∃ file ∈ defaultFiles controller, ReadFrom site.loader file mapping.path mapping := by
  cases named with
  | default listed =>
      refine ⟨_, (mem_defaultFiles_iff controller _).mpr ⟨_, listed, rfl⟩, ?_⟩
      have same : mapping.path = path := read.path_eq
      rwa [same]
  | module given named listed =>
      rw [read.path_eq, modulePath_module named] at relative
      simp at relative

theorem completes_of_longer {site : Site} {controller other : Component}
    (listed : controller ∈ (Creator.standard.create site).app.componentList)
    (otherListed : other ∈ (Creator.standard.create site).app.componentList)
    (wellNamed : isClassName other.className = true) {rest tail : String} (nonempty : rest ≠ "")
    (longer : other.className = controller.className ++ rest)
    (own : tail ∈ unitTails site.classes other)
    (completed : rest ++ tail ∈ unitTails site.classes controller) :
    ∃ mapping unit, Completes site (Creator.standard.create site) controller mapping unit := by
  have some : rest.toList ≠ [] := by simpa using nonempty
  have path : rest ++ tail ≠ "" := by simp [nonempty]
  obtain ⟨kind, mapping, mapped, resolved, same⟩ := mem_unitTails_of_ne completed path
  have relative : mapping.path.toList.head? ≠ .some '/' := by
    rw [same, String.toList_append, List.head?_append_of_ne_nil _ some]
    intro slash
    apply noSlash_of_isClassName wellNamed
    rw [longer, String.toList_append]
    exact List.mem_append_right _ (List.mem_of_mem_head? slash)
  have keyed := Creator.standard_keyed site
  obtain ⟨file, named, written, read⟩ :=
    Creator.standard_mapping_read site ((keyed.mem_componentList controller).mp listed) mapped
  obtain ⟨unit, unitWritten, ofOther, unitName⟩ :=
    exists_unit_of_name ⟨(Creator.standard.create site).app, site.classes⟩ otherListed
      (List.mem_map_of_mem own)
  refine ⟨mapping, unit, ?_⟩
  exact {
    listed, kind, mapped, resolved, relative
    read := read_of_relative named read relative
    written := unitWritten
    longer := ⟨rest, nonempty, ofOther.trans longer⟩
    name := by rw [unitName, longer, same, String.append_assoc] }

/-- Where all class names are valid, the default creator gives two units one name exactly if a
relative path of the default module completes a class name. -/
theorem unit_names_distinct_iff {creator : Creator}
    (default : Creator.ofRegistry Registry.builtin builtinCatalog = .ok creator) (site : Site)
    (wellNamed : ∀ component ∈ (creator.create site).app.componentList,
      isClassName component.className = true) :
    ((creator.create site).driver.units.map DriverUnit.name).Nodup ↔
      ¬ ∃ controller mapping unit, Completes site (creator.create site) controller mapping unit := by
  cases Except.ok.inj (default.symm.trans Creator.ofRegistry_builtin)
  let scene : Scene := ⟨(Creator.standard.create site).app, site.classes⟩
  have wellFormed : scene.app.WellFormed := by
    simp only [scene, Creator.standard_app]
    exact Course.wellFormed_effect _ site Application.wellFormed_empty
  refine (names_nodup_iff wellFormed).trans ?_
  constructor
  · rintro disjoint ⟨controller, mapping, unit, completes⟩
    obtain ⟨other, otherListed, ofOther, named⟩ := exists_component_of_unit completes.written
    obtain ⟨rest, nonempty, longer⟩ := completes.longer
    have different : controller ≠ other := by
      rintro rfl
      have spelled := congrArg String.toList (ofOther.symm.trans longer)
      simp [nonempty] at spelled
    refine disjoint controller completes.listed other otherListed different ?_ named
    rw [completes.name, namesOf, unitTails_controller completes.kind]
    refine List.mem_map_of_mem (List.mem_map_of_mem ?_)
    exact List.mem_filter.mpr ⟨completes.mapped, completes.resolved⟩
  · intro none first firstListed second secondListed different name inFirst inSecond
    obtain ⟨tail, own, rfl⟩ := List.mem_map.mp inFirst
    obtain ⟨otherTail, otherOwn, same⟩ := List.mem_map.mp inSecond
    have apart : first.className ≠ second.className := fun equal =>
      different (List.inj_on_of_nodup_map wellFormed.keyed.classNames_nodup firstListed
        secondListed equal)
    -- the component with the shorter class name is a controller, whose path holds what is missing
    rcases Text.append_eq_append same with ⟨rest, longer, rfl⟩ | ⟨rest, longer, rfl⟩
    · have nonempty : rest ≠ "" := by
        rintro rfl
        exact apart (longer.trans String.append_empty)
      exact none ⟨second, completes_of_longer secondListed firstListed
        (wellNamed first firstListed) nonempty longer own otherOwn⟩
    · have nonempty : rest ≠ "" := by
        rintro rfl
        exact apart (longer.trans String.append_empty).symm
      exact none ⟨first, completes_of_longer firstListed secondListed
        (wellNamed second secondListed) nonempty longer otherOwn own⟩

/-- A controller `Admin` with an action whose path is `Login`, beside a servlet `AdminLogin`. -/
def gluedNames : Site where
  classes := .ofList
    [{ name := "com.example.Admin", superClass := some actionServletClass,
       annotations := ["javax.servlet.annotation.WebServlet"] },
     { name := "com.example.AdminLogin", annotations := ["javax.servlet.annotation.WebServlet"] },
     { name := "com.example.LoginAction" }]
  loader := (Site.ofTexts
    [("app/WEB-INF/struts-config.xml",
      "<struts-config><action-mappings>" ++
        "<action path=\"Login\" type=\"com.example.LoginAction\"/>" ++
        "</action-mappings></struts-config>")]).loader

theorem gluedNames_names :
    (∀ component ∈ (Creator.standard.create gluedNames).app.componentList,
      isClassName component.className = true) ∧
    (Creator.standard.create gluedNames).driver.units.map DriverUnit.name =
      ["com.example.AdminLogin", "com.example.AdminLogin"] := by
  decide +kernel

theorem unit_names_glued :
    (∀ component ∈ (Creator.standard.create gluedNames).app.componentList,
      isClassName component.className = true) ∧
    ∃ controller mapping unit,
      Completes gluedNames (Creator.standard.create gluedNames) controller mapping unit := by
  obtain ⟨wellNamed, names⟩ := gluedNames_names
  have repeated : ¬ ((Creator.standard.create gluedNames).driver.units.map
      DriverUnit.name).Nodup := by
    rw [names]
    decide
  refine ⟨wellNamed, ?_⟩
  by_contra none
  exact repeated ((unit_names_distinct_iff Creator.ofRegistry_builtin gluedNames wellNamed).mpr none)

/-- Valid class names alone do not keep the names of units apart. -/
theorem unit_names_not_distinct :
    ¬ ∀ creator : Creator, Creator.ofRegistry Registry.builtin builtinCatalog = .ok creator →
      ∀ site : Site,
        (∀ component ∈ (creator.create site).app.componentList,
          isClassName component.className = true) →
        ((creator.create site).driver.units.map DriverUnit.name).Nodup := by
  intro distinct
  obtain ⟨wellNamed, names⟩ := gluedNames_names
  have nodup := distinct _ Creator.ofRegistry_builtin gluedNames wellNamed
  rw [names] at nodup
  exact (List.nodup_cons.mp nodup).1 (List.mem_singleton_self _)

end ContainerReplay
