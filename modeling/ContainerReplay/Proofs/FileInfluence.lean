import ContainerReplay.Proofs.ActionOwnership

/-!
# What one file can influence

Two runs over files that differ at one path, where no deployment descriptor lies.  What signatures
and descriptors say is the same in both.  A component that names the file as a configuration may
become an action servlet in one of the runs only, and its action mappings differ at most at the paths
that the file itself declares for it.
-/

set_option autoImplicit false

namespace ContainerReplay

open Descriptor Detection

/-- Two versions of the files below a root.  They differ at most at one path, and no deployment
descriptor lies there. -/
structure FileVersions where
  root : String
  limit : Option Nat
  file : Path
  before : Path → Option ByteArray
  after : Path → Option ByteArray
  elsewhere : ∀ path, path ≠ file → before path = after path
  notDescriptor : Loader.resolve? root deploymentDescriptor ≠ some file
  notFragment : Loader.resolve? root deploymentFragment ≠ some file

namespace FileVersions

variable (versions : FileVersions)

def oldLoader : Loader := .directory versions.before versions.root versions.limit

def newLoader : Loader := .directory versions.after versions.root versions.limit

/-- A logical path leads to the file in which the versions differ. -/
def Reaches (path : String) : Prop :=
  Loader.resolve? versions.root path = some versions.file

/-- A component names the file as one of its configurations. -/
def NamedBy (component : Component) : Prop :=
  ∃ config ∈ actionFiles component, versions.Reaches config.path

/-- An accepted action of either version of the file gives a path to a component. -/
def Produces (component : Component) (path : String) : Prop :=
  ∃ config ∈ actionFiles component, versions.Reaches config.path ∧ ∃ mapping,
    (mapping ∈ actionsOf versions.oldLoader config ∨
      mapping ∈ actionsOf versions.newLoader config) ∧ mapping.path = path

/-- Two components that differ at most in what the file may say. -/
structure Agree (first second : Component) : Prop where
  className : first.className = second.className
  names : first.names = second.names
  parameters : first.parameters = second.parameters
  urlPatterns : first.urlPatterns = second.urlPatterns
  servletNames : first.servletNames = second.servletNames
  loadOnStartup : first.loadOnStartup = second.loadOnStartup
  unnamed : ¬ versions.NamedBy first → first = second
  kind : first.kind = second.kind ∨
    (first.kind = .servlet ∧ second.kind = .actionServlet) ∨
      (first.kind = .actionServlet ∧ second.kind = .servlet)
  mappings : ∀ path, ¬ versions.Produces first path →
    ActionMapping.at? first.actionMappings path = ActionMapping.at? second.actionMappings path

structure AgreeThroughout (first second : Application) : Prop where
  classNames : first.classNames = second.classNames
  displayName : first.displayName = second.displayName
  contextParams : first.contextParams = second.contextParams
  injections : first.injections = second.injections
  components : ∀ className one other, first.component? className = some one →
    second.component? className = some other → versions.Agree one other

/-! ## Reading away from the file -/

variable {versions}

theorem content?_congr {path : String} (away : ¬ versions.Reaches path) :
    Loader.content? versions.before versions.root path =
      Loader.content? versions.after versions.root path := by
  unfold Loader.content?
  cases resolved : Loader.resolve? versions.root path with
  | none => rfl
  | some place =>
      apply versions.elsewhere
      intro same
      apply away
      rw [Reaches, resolved, same]

theorem read_congr {path : String} (away : ¬ versions.Reaches path) :
    versions.oldLoader.read path = versions.newLoader.read path := by
  simp only [oldLoader, newLoader, Loader.read, Loader.readFrom, content?_congr away]

theorem hasResource_congr {path : String} (away : ¬ versions.Reaches path) :
    versions.oldLoader.hasResource path = versions.newLoader.hasResource path := by
  simp only [oldLoader, newLoader, Loader.hasResource, content?_congr away]

theorem installAt_congr {path : String} (away : ¬ versions.Reaches path) (app : Application) :
    installAt versions.oldLoader path app = installAt versions.newLoader path app := by
  simp only [installAt, descriptorContent?, read_congr away]

theorem actionsOf_congr {config : ActionFile} (away : ¬ versions.Reaches config.path) :
    actionsOf versions.oldLoader config = actionsOf versions.newLoader config := by
  simp only [actionsOf, read_congr away]

theorem upgrade?_congr {config : ActionFile} (away : ¬ versions.Reaches config.path)
    (owner : String) :
    upgrade? versions.oldLoader owner config = upgrade? versions.newLoader owner config := by
  simp only [upgrade?, read_congr away]

variable (versions)

/-- Before any action configuration is read both runs have come to the same application. -/
theorem described_congr (course : Course) (classes : ClassIndex) (app : Application) :
    course.described ⟨classes, versions.oldLoader⟩
        (course.surveyed ⟨classes, versions.oldLoader⟩ app) =
      course.described ⟨classes, versions.newLoader⟩
        (course.surveyed ⟨classes, versions.newLoader⟩ app) := by
  have descriptor := installAt_congr versions.notDescriptor
  have fragment := installAt_congr versions.notFragment
  simp only [Course.described, Course.surveyed, descriptor, fragment]

theorem ofSelection_congr (names : List String) (strict : Bool) :
    Course.ofSelection names strict versions.oldLoader =
      Course.ofSelection names strict versions.newLoader := by
  simp only [Course.ofSelection, hasResource_congr versions.notDescriptor]

end FileVersions

/-! ## Upgrading a component in both runs -/

/-- Mappings with the same entries for a path leave the same answer for it. -/
theorem ActionMapping.at?_putAll_congr {first second : List ActionMapping} {path : String}
    (same : (first.filter fun mapping => mapping.path == path) =
      second.filter fun mapping => mapping.path == path) (list : List ActionMapping) :
    at? (putAll first list) path = at? (putAll second list) path := by
  have last : ∀ mappings : List ActionMapping, at? mappings.reverse path =
      (mappings.filter fun mapping => mapping.path == path).reverse.head? := by
    intro mappings
    rw [← List.filter_reverse, List.head?_filter]
    rfl
  rw [at?_putAll, at?_putAll, last, last, same]

/-- A path that no mapping has is not among the mappings after they were put either. -/
theorem ActionMapping.filter_putAll_eq_nil {mappings : List ActionMapping} {path : String}
    (absent : ∀ mapping ∈ mappings, mapping.path ≠ path) :
    ((putAll mappings []).filter fun mapping => mapping.path == path) = [] := by
  have unanswered : at? (putAll mappings []) path = none := by
    have reversed : at? mappings.reverse path = none := by
      rw [at?_eq_none_iff]
      intro mapping member
      exact absent mapping (List.mem_reverse.mp member)
    rw [at?_putAll, reversed]
    rfl
  rw [List.filter_eq_nil_iff]
  intro mapping member
  simpa using at?_eq_none_iff.mp unanswered mapping member

namespace FileVersions

variable {versions : FileVersions} {classes : ClassIndex}

theorem shareOf_congr {component : Component} (unnamed : ¬ versions.NamedBy component) :
    shareOf ⟨classes, versions.oldLoader⟩ component =
      shareOf ⟨classes, versions.newLoader⟩ component := by
  have same : upgradesOf versions.oldLoader component =
      upgradesOf versions.newLoader component := by
    apply List.filterMap_congr
    intro config member
    apply upgrade?_congr
    intro reaches
    exact unnamed ⟨config, member, reaches⟩
  simp only [shareOf, same]

theorem share_mappings_congr {component : Component} {path : String}
    (unproduced : ¬ versions.Produces component path) (list : List ActionMapping) :
    ActionMapping.at? (ActionMapping.putAll ((shareOf ⟨classes, versions.oldLoader⟩
        component).flatMap Component.actionMappings) list) path =
      ActionMapping.at? (ActionMapping.putAll ((shareOf ⟨classes, versions.newLoader⟩
        component).flatMap Component.actionMappings) list) path := by
  apply ActionMapping.at?_putAll_congr
  by_cases owns : ownsActions classes component = true
  · rw [shareOf_actionMappings owns, shareOf_actionMappings owns, List.filter_flatMap,
      List.filter_flatMap]
    apply List.flatMap_congr
    intro config member
    by_cases reaches : versions.Reaches config.path
    · -- neither version of the file has anything for the path
      have oldAbsent : ∀ mapping ∈ actionsOf versions.oldLoader config, mapping.path ≠ path :=
        fun mapping given same =>
          unproduced ⟨config, member, reaches, mapping, Or.inl given, same⟩
      have newAbsent : ∀ mapping ∈ actionsOf versions.newLoader config, mapping.path ≠ path :=
        fun mapping given same =>
          unproduced ⟨config, member, reaches, mapping, Or.inr given, same⟩
      simp only [ActionMapping.filter_putAll_eq_nil oldAbsent,
        ActionMapping.filter_putAll_eq_nil newAbsent]
    · rw [actionsOf_congr reaches]
  · simp [shareOf, owns]

/-- The same component, upgraded from either version. -/
theorem agree_mergeAll {app : Application} (keyed : app.Keyed) {found : Component}
    (listed : found ∈ app.componentList) :
    versions.Agree (found.mergeAll (shareOf ⟨classes, versions.oldLoader⟩ found))
      (found.mergeAll (shareOf ⟨classes, versions.newLoader⟩ found)) := by
  have old := found.mergeAll_upgrades
    (isUpgrade_of_shareOf ⟨classes, versions.oldLoader⟩ keyed listed)
  have new := found.mergeAll_upgrades
    (isUpgrade_of_shareOf ⟨classes, versions.newLoader⟩ keyed listed)
  have files : actionFiles (found.mergeAll (shareOf ⟨classes, versions.oldLoader⟩ found)) =
      actionFiles found := by
    rw [old]
    rfl
  constructor
  case className => rw [old, new]
  case names => rw [old, new]
  case parameters => rw [old, new]
  case urlPatterns => rw [old, new]
  case servletNames => rw [old, new]
  case loadOnStartup => rw [old, new]
  case unnamed =>
    intro unnamed
    rw [NamedBy, files] at unnamed
    rw [shareOf_congr unnamed]
  case kind =>
    rw [old, new]
    simp only
    split <;> split
    · exact Or.inl rfl
    · cases found.kind <;> simp [Kind.withActions]
    · cases found.kind <;> simp [Kind.withActions]
    · exact Or.inl rfl
  case mappings =>
    intro path unproduced
    rw [Produces, files] at unproduced
    rw [old, new]
    exact share_mappings_congr unproduced found.actionMappings

/-! ## Two runs -/

theorem agree_upgraded {app : Application} (keyed : app.Keyed) :
    versions.AgreeThroughout
      (app.registerAll (allUpgrades ⟨classes, versions.oldLoader⟩ app))
      (app.registerAll (allUpgrades ⟨classes, versions.newLoader⟩ app)) := by
  obtain ⟨oldName, oldParams, oldInjections⟩ := Application.registerAll_preserves_rest app
    (allUpgrades ⟨classes, versions.oldLoader⟩ app)
  obtain ⟨newName, newParams, newInjections⟩ := Application.registerAll_preserves_rest app
    (allUpgrades ⟨classes, versions.newLoader⟩ app)
  have old := component?_registerAll_upgrades ⟨classes, versions.oldLoader⟩ keyed
  have new := component?_registerAll_upgrades ⟨classes, versions.newLoader⟩ keyed
  refine ⟨?_, oldName.trans newName.symm, oldParams.trans newParams.symm,
    oldInjections.trans newInjections.symm, ?_⟩
  · apply Application.classNames_congr
    intro className
    rw [Application.mem_classNames_iff, Application.mem_classNames_iff, old, new]
    cases app.component? className <;> simp
  · intro className one other oldStored newStored
    rw [old] at oldStored
    rw [new] at newStored
    obtain ⟨found, stored, rfl⟩ := Option.map_eq_some_iff.mp oldStored
    rw [stored, Option.map_some] at newStored
    cases newStored
    exact agree_mergeAll keyed
      ((Application.mem_componentList_iff app found).mpr ⟨className, stored⟩)

/-- Whatever a file holds, it has no influence beyond the actions of the components that name it. -/
theorem runs_agree (versions : FileVersions) (classes : ClassIndex) (strict : Bool) :
    versions.AgreeThroughout
      (Registry.builtin.run strict ⟨classes, versions.oldLoader⟩ {}).app
      (Registry.builtin.run strict ⟨classes, versions.newLoader⟩ {}).app := by
  have selected : Registry.builtin.select ["servlet", "struts"] = .ok Registry.builtin := rfl
  let course := Course.ofSelection ["servlet", "struts"] strict versions.newLoader
  have old := Registry.run_app selected strict ⟨classes, versions.oldLoader⟩ {}
    Application.wellFormed_empty
  have new := Registry.run_app selected strict ⟨classes, versions.newLoader⟩ {}
    Application.wellFormed_empty
  have keyed := (course.wellFormed_described ⟨classes, versions.newLoader⟩).keyed
  have described := versions.described_congr course classes {}
  have upgrades : course.actionStage = true := rfl
  rw [old, new, versions.ofSelection_congr]
  show versions.AgreeThroughout (course.upgraded _ (course.described _ (course.surveyed _ _)))
    (course.upgraded _ (course.described _ (course.surveyed _ _)))
  rw [described, Course.upgraded, Course.upgraded, if_pos upgrades, if_pos upgrades]
  exact agree_upgraded keyed

/-- A configuration of the default module that appears where there was no file. -/
def appearing : FileVersions where
  root := "app"
  limit := none
  file := ⟨false, ["app", "WEB-INF", "struts-config.xml"]⟩
  before := fun _ => none
  after := fun path =>
    if path = ⟨false, ["app", "WEB-INF", "struts-config.xml"]⟩ then
      some ("<struts-config><action-mappings><action path=\"/a\" type=\"A\"/>" ++
        "</action-mappings></struts-config>").toUTF8
    else none
  elsewhere := by
    intro path other
    rw [if_neg other]
  notDescriptor := by decide
  notFragment := by decide

/-- A class that its signature makes a servlet, and that owns action configurations by its name. -/
def actionServletOnly : ClassIndex :=
  .ofList [{ name := actionServletClass, superClass := some "javax.servlet.http.HttpServlet" }]

theorem runs_agree_when_appearing :
    (Registry.builtin.run false ⟨actionServletOnly, appearing.oldLoader⟩ {}).app ≠
        (Registry.builtin.run false ⟨actionServletOnly, appearing.newLoader⟩ {}).app ∧
      appearing.AgreeThroughout
        (Registry.builtin.run false ⟨actionServletOnly, appearing.oldLoader⟩ {}).app
        (Registry.builtin.run false ⟨actionServletOnly, appearing.newLoader⟩ {}).app := by
  have differ : (Registry.builtin.run false ⟨actionServletOnly, appearing.oldLoader⟩ {}).app ≠
      (Registry.builtin.run false ⟨actionServletOnly, appearing.newLoader⟩ {}).app := by
    decide +kernel
  exact ⟨differ, runs_agree appearing actionServletOnly false⟩

end FileVersions

end ContainerReplay
