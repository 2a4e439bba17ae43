import ContainerReplay.Proofs.ActionOwnership
import ContainerReplay.Proofs.ActionReading

/-!
# Paths of actions in modules

A parameter `config/` with the name of a module gives the paths of its actions that name in front.
The slashes around the name are dropped when the parameter is read.  A slash is added when the path
of an action has none in front, but of several slashes there none is dropped, so that the module and
the path are joined with exactly one slash unless the path begins with two.
-/

set_option autoImplicit false

namespace ContainerReplay

namespace Text

/-! ## Slashes in front of a text -/

def slashes (count : Nat) : String :=
  String.ofList (List.replicate count '/')

def leadingSlashes (text : String) : Nat :=
  (text.toList.takeWhile (· == '/')).length

def withoutLeadingSlashes (text : String) : String :=
  String.ofList (dropLeading '/' text.toList)

@[simp] theorem slashes_toList (count : Nat) : (slashes count).toList = List.replicate count '/' := by
  rw [slashes, String.toList_ofList]

@[simp] theorem withoutLeadingSlashes_toList (text : String) :
    (withoutLeadingSlashes text).toList = dropLeading '/' text.toList := by
  rw [withoutLeadingSlashes, String.toList_ofList]

theorem toList_eq_slashes (text : String) :
    text.toList =
      List.replicate (leadingSlashes text) '/' ++ (withoutLeadingSlashes text).toList := by
  rw [withoutLeadingSlashes_toList]
  exact eq_replicate_append '/' text.toList

end Text

namespace Detection

open Text Descriptor

/-! ## Names of modules -/

/-- A parameter names a module: `config/` and the name, with any number of slashes on each side of
the name, which has none at its ends and is not empty. -/
structure NamesModule (parameter module : String) : Prop where
  written : ∃ before behind, parameter = "config/" ++ slashes before ++ module ++ slashes behind
  nonempty : module ≠ ""
  front : module.toList.head? ≠ some '/'
  back : module.toList.getLast? ≠ some '/'

theorem NamesModule.toList_nonempty {parameter module : String}
    (names : NamesModule parameter module) : module.toList ≠ [] := by
  simpa using names.nonempty

theorem module?_eq_some_iff (parameter module : String) :
    module? parameter = some module ↔ NamesModule parameter module := by
  constructor
  · intro named
    unfold module? at named
    split at named
    · rename_i rest written
      split at named
      · cases named
      · rename_i nonempty
        obtain ⟨⟨before, behind, divided⟩, front, back⟩ := (dropEnds_eq_iff nonempty).mp rfl
        cases named
        refine ⟨⟨before, behind, ?_⟩, by simpa using nonempty, by simpa using front,
          by simpa using back⟩
        apply String.toList_inj.mp
        simp [written, ← divided]
    · cases named
  · intro names
    obtain ⟨before, behind, rfl⟩ := names.written
    have kept : dropTrailing '/' (dropLeading '/'
        (List.replicate before '/' ++ (module.toList ++ List.replicate behind '/'))) =
          module.toList :=
      (dropEnds_eq_iff names.toList_nonempty).mpr ⟨⟨before, behind, rfl⟩, names.front, names.back⟩
    have nonempty := names.toList_nonempty
    simp only [module?, String.toList_append, slashes_toList, List.append_assoc]
    cases spelled : module.toList with
    | nil => exact absurd spelled nonempty
    | cons first rest =>
        rw [spelled, List.cons_append] at kept
        have same : String.ofList (first :: rest) = module := by
          rw [← spelled, String.ofList_toList]
        simp [kept, same]

/-! ## Files of modules -/

/-- A file that a component names, with what its action paths begin with: nothing in the default
module, else a slash and the name of the module. -/
inductive NamesFile (component : Component) : ActionFile → Prop where
  | default {item : String}
      (listed : item ∈ listItems (component.parameters["config"]?.getD defaultActionConfig)) :
      NamesFile component ⟨item, ""⟩
  | module {parameter value module item : String}
      (given : component.parameters[parameter]? = some value)
      (named : NamesModule parameter module) (listed : item ∈ listItems value) :
      NamesFile component ⟨item, "/" ++ module⟩

theorem mem_defaultFiles_iff (component : Component) (file : ActionFile) :
    file ∈ defaultFiles component ↔
      ∃ item ∈ listItems (component.parameters["config"]?.getD defaultActionConfig),
        file = ⟨item, ""⟩ := by
  unfold defaultFiles
  cases component.parameters["config"]? <;> simp [@eq_comm _ file]

theorem mem_moduleFiles_iff (parameter value : String) (file : ActionFile) :
    file ∈ moduleFiles (parameter, value) ↔
      ∃ module, NamesModule parameter module ∧ ∃ item ∈ listItems value,
        file = ⟨item, "/" ++ module⟩ := by
  simp only [← module?_eq_some_iff]
  unfold moduleFiles
  cases module? parameter <;> simp [@eq_comm _ file]

theorem mem_actionFiles_iff (component : Component) (file : ActionFile) :
    file ∈ actionFiles component ↔ NamesFile component file := by
  have ofParameters : file ∈ component.parameters.toList.flatMap moduleFiles ↔
      ∃ parameter value, component.parameters[parameter]? = some value ∧
        file ∈ moduleFiles (parameter, value) := by
    simp only [List.mem_flatMap, Prod.exists, Std.ExtTreeMap.mem_toList_iff_getElem?_eq_some]
  rw [actionFiles, List.mem_append, mem_defaultFiles_iff, ofParameters]
  simp only [mem_moduleFiles_iff]
  constructor
  · rintro (⟨item, listed, rfl⟩ | ⟨parameter, value, given, module, named, item, listed, rfl⟩)
    · exact .default listed
    · exact .module given named listed
  · rintro (listed | ⟨given, named, listed⟩)
    · exact Or.inl ⟨_, listed, rfl⟩
    · exact Or.inr ⟨_, _, given, _, named, _, listed, rfl⟩

/-! ## Paths in modules -/

theorem modulePath_default (path : String) : ActionConfig.modulePath "" path = path := rfl

theorem dropTrailing_module {parameter module : String} (named : NamesModule parameter module) :
    dropTrailing '/' ("/" ++ module).toList = ("/" ++ module).toList := by
  have back : ("/" ++ module).toList.getLast? ≠ some '/' := by
    rw [String.toList_append, List.getLast?_append_of_ne_nil _ named.toList_nonempty]
    exact named.back
  exact (congrArg _ (List.append_nil _).symm).trans (dropTrailing_replicate 0 back)

/-- A path in a module: the slashes in front of it stay, and one is added if there is none. -/
theorem modulePath_module {parameter module : String} (named : NamesModule parameter module)
    (path : String) :
    ActionConfig.modulePath ("/" ++ module) path =
      "/" ++ module ++ slashes (max 1 (leadingSlashes path)) ++ withoutLeadingSlashes path := by
  have nonempty : "/" ++ module ≠ "" := by simp
  have divided := toList_eq_slashes path
  unfold ActionConfig.modulePath
  rw [if_neg nonempty, dropTrailing_module named, String.ofList_toList]
  split
  · -- every slash in front of the path is kept
    rename_i rest slashed
    apply String.toList_inj.mp
    have some : max 1 (leadingSlashes path) = leadingSlashes path := by
      simp [leadingSlashes, slashed]
    simp only [String.toList_append, slashes_toList, some, List.append_assoc, ← divided]
  · rename_i unslashed
    have none : leadingSlashes path = 0 := by
      cases spelled : path.toList with
      | nil => simp [leadingSlashes, spelled]
      | cons first rest =>
          have other : first ≠ '/' := fun same => unslashed rest (by rw [spelled, same])
          simp [leadingSlashes, spelled, other]
    rw [none, List.replicate_zero, List.nil_append] at divided
    have whole : withoutLeadingSlashes path = path := String.toList_inj.mp divided.symm
    rw [none, whole]
    rfl

theorem joined_once_iff (front path : String) :
    front ++ slashes (max 1 (leadingSlashes path)) ++ withoutLeadingSlashes path =
        front ++ "/" ++ withoutLeadingSlashes path ↔ leadingSlashes path ≤ 1 := by
  constructor
  · intro same
    have lengths := congrArg (fun text : String => text.toList.length) same
    simp only [String.toList_append, slashes_toList, List.length_append, List.length_replicate]
      at lengths
    have one : "/".toList.length = 1 := rfl
    omega
  · intro few
    rw [Nat.max_eq_left few]
    rfl

/-! ## What the pass reads -/

/-- The root of the action configuration at a path, if the file can be read. -/
def configRoot? (loader : Loader) (path : String) : Option Markup.Element :=
  match loader.read path with
  | .error _ => none
  | .ok bytes =>
      match openSource path ActionConfig.roots bytes with
      | .error _ => none
      | .ok source => some source.document.root

/-- A mapping is read from a file: it stands for an accepted action there, which has a path. -/
def ReadFrom (loader : Loader) (file : ActionFile) (path : String) (mapping : ActionMapping) :
    Prop :=
  ∃ root element, configRoot? loader file.path = some root ∧
    element ∈ ActionConfig.sectionEntries root "action-mappings" "action" ∧
    attributeText? element "path" = some path ∧
    ActionConfig.mapping file.modulePrefix (ActionConfig.formBeans root)
      (ActionConfig.globalForwards root) element = .ok mapping

theorem actionsOf_eq (loader : Loader) (file : ActionFile) :
    actionsOf loader file =
      (configRoot? loader file.path).elim [] (ActionConfig.acceptedActions file.modulePrefix) := by
  unfold actionsOf configRoot?
  cases loader.read file.path with
  | error error => rfl
  | ok bytes =>
      simp only
      cases openSource file.path ActionConfig.roots bytes <;> rfl

theorem path_of_mapping {modulePrefix : String} {root element : Markup.Element}
    {mapping : ActionMapping}
    (accepted : ActionConfig.mapping modulePrefix (ActionConfig.formBeans root)
      (ActionConfig.globalForwards root) element = .ok mapping) :
    ∃ path, attributeText? element "path" = some path ∧
      mapping.path = ActionConfig.modulePath modulePrefix path := by
  rcases ActionConfig.mapping_cases modulePrefix root element with
    ⟨described, same, _, describes⟩ | ⟨fault, failed, _, _⟩
  · rw [accepted] at same
    cases same
    obtain ⟨path, given, placed⟩ := describes.path
    exact ⟨path, attributeText?_eq_some_iff.mpr given,
      (ActionConfig.modulePath_eq_iff.mpr placed).symm⟩
  · rw [accepted] at failed
    cases failed

theorem mem_actionsOf_iff {loader : Loader} {file : ActionFile} {mapping : ActionMapping} :
    mapping ∈ actionsOf loader file ↔ ∃ path, ReadFrom loader file path mapping := by
  rw [actionsOf_eq]
  constructor
  · intro member
    cases opened : configRoot? loader file.path with
    | none => simp [opened] at member
    | some root =>
        rw [opened, Option.elim_some] at member
        obtain ⟨element, listed, taken⟩ := List.mem_filterMap.mp member
        have accepted := toOption_eq_some_iff.mp taken
        obtain ⟨path, given, _⟩ := path_of_mapping accepted
        exact ⟨path, root, element, opened, listed, given, accepted⟩
  · rintro ⟨path, root, element, opened, listed, _, accepted⟩
    rw [opened, Option.elim_some]
    exact List.mem_filterMap.mpr ⟨element, listed, toOption_eq_some_iff.mpr accepted⟩

theorem ReadFrom.path_eq {loader : Loader} {file : ActionFile} {path : String}
    {mapping : ActionMapping} (read : ReadFrom loader file path mapping) :
    mapping.path = ActionConfig.modulePath file.modulePrefix path := by
  obtain ⟨root, element, _, _, given, accepted⟩ := read
  obtain ⟨same, again, mapped⟩ := path_of_mapping accepted
  rw [given, Option.some_inj] at again
  rw [mapped, again]

theorem putAll_flatMap (files : List ActionFile) (actions : ActionFile → List ActionMapping)
    (list : List ActionMapping) :
    ActionMapping.putAll (files.flatMap fun file => ActionMapping.putAll (actions file) []) list =
      ActionMapping.putAll (files.flatMap actions) list := by
  induction files generalizing list with
  | nil => rfl
  | cons file rest ih =>
      rw [List.flatMap_cons, List.flatMap_cons, ActionMapping.putAll_append,
        ActionMapping.putAll_append, ActionMapping.putAll_putAll, ih]

/-- The pass puts the actions of all files of an owner into its mappings, in reading order. -/
theorem mappings_after_pass {site : Site} {survey : Survey} (keyed : survey.app.Keyed)
    {owner : Component} (owns : owner ∈ actionOwners site.classes survey.app) :
    ∃ after, (actionConfig site survey).reported.app.component? owner.className = some after ∧
      after.actionMappings =
        ActionMapping.putAll ((actionFiles owner).flatMap (actionsOf site.loader))
          owner.actionMappings := by
  obtain ⟨listed, ownsActions⟩ := List.mem_filter.mp owns
  have stored := (keyed.mem_componentList owner).mp listed
  refine ⟨owner.mergeAll (shareOf site owner), ?_, ?_⟩
  · rw [actionConfig_app site survey keyed, component?_registerAll_upgrades site keyed, stored]
    rfl
  · rw [Component.mergeAll_upgrades owner (isUpgrade_of_shareOf site keyed listed),
      shareOf_actionMappings ownsActions]
    exact putAll_flatMap _ _ _

/-- A mapping that is read through the parameter of a module has the path of its action behind the
name of the module, joined with exactly one slash if and only if that path begins with at most one;
else all slashes of the path stay.  A mapping of the default module has the path of its action.  The
pass reads no other mappings, and it puts them all into the mappings of their owner. -/
theorem module_paths_joined_iff {site : Site} {survey : Survey} (keyed : survey.app.Keyed)
    {owner : Component} (owns : owner ∈ actionOwners site.classes survey.app) :
    (∀ parameter value module, owner.parameters[parameter]? = some value →
      NamesModule parameter module → ∀ item ∈ listItems value,
        ⟨item, "/" ++ module⟩ ∈ actionFiles owner ∧
        ∀ path mapping, ReadFrom site.loader ⟨item, "/" ++ module⟩ path mapping →
          mapping.path = "/" ++ module ++ slashes (max 1 (leadingSlashes path)) ++
            withoutLeadingSlashes path ∧
          (mapping.path = "/" ++ module ++ "/" ++ withoutLeadingSlashes path ↔
            leadingSlashes path ≤ 1)) ∧
    (∀ item ∈ listItems (owner.parameters["config"]?.getD defaultActionConfig),
      ⟨item, ""⟩ ∈ actionFiles owner ∧
      ∀ path mapping, ReadFrom site.loader ⟨item, ""⟩ path mapping → mapping.path = path) ∧
    (∀ file ∈ actionFiles owner, NamesFile owner file ∧
      ∀ mapping ∈ actionsOf site.loader file, ∃ path, ReadFrom site.loader file path mapping) ∧
    ∃ after, (actionConfig site survey).reported.app.component? owner.className = some after ∧
      after.actionMappings =
        ActionMapping.putAll ((actionFiles owner).flatMap (actionsOf site.loader))
          owner.actionMappings := by
  refine ⟨?ofModule, ?ofDefault, ?nothingElse, mappings_after_pass keyed owns⟩
  case ofModule =>
    intro parameter value module given named item listed
    refine ⟨(mem_actionFiles_iff owner _).mpr (.module given named listed), ?_⟩
    intro path mapping read
    have joined := read.path_eq.trans (modulePath_module named path)
    exact ⟨joined, by rw [joined]; exact joined_once_iff _ path⟩
  case ofDefault =>
    intro item listed
    refine ⟨(mem_actionFiles_iff owner _).mpr (.default listed), ?_⟩
    intro path mapping read
    exact read.path_eq.trans (modulePath_default path)
  case nothingElse =>
    intro file member
    exact ⟨(mem_actionFiles_iff owner file).mp member, fun mapping => mem_actionsOf_iff.mp⟩

/-- A module with one action, whose path begins with two slashes. -/
def doubledPath : Site :=
  Site.ofTexts
    [("app/WEB-INF/admin.xml",
      "<struts-config><action-mappings>" ++
        "<action path=\"//login\" type=\"com.example.LoginAction\"/>" ++
        "</action-mappings></struts-config>")]

theorem doubledPath_joined_twice :
    let owner : Component :=
      { className := actionServletClass, kind := .servlet,
        parameters := .ofList [("config//admin/", "/WEB-INF/admin.xml")] }
    let survey := ({} : Survey).register owner
    survey.app.Keyed ∧ owner ∈ actionOwners doubledPath.classes survey.app ∧
      NamesModule "config//admin/" "admin" ∧
      ∃ mapping, ReadFrom doubledPath.loader ⟨"/WEB-INF/admin.xml", "/admin"⟩ "//login" mapping ∧
        mapping.path = "/admin//login" ∧
        mapping.path ≠ "/admin/" ++ withoutLeadingSlashes "//login" := by
  intro owner survey
  have noPaths : owner.mappingPaths.Nodup := List.nodup_nil
  have keyed : survey.app.Keyed :=
    (Application.wellFormed_register Application.wellFormed_empty noPaths).keyed
  have owns : owner ∈ actionOwners doubledPath.classes survey.app := by decide +kernel
  have given : owner.parameters["config//admin/"]? = some "/WEB-INF/admin.xml" := by
    decide +kernel
  have named : NamesModule "config//admin/" "admin" := by
    apply (module?_eq_some_iff _ _).mp
    decide +kernel
  have listed : "/WEB-INF/admin.xml" ∈ listItems "/WEB-INF/admin.xml" := by decide +kernel
  have taken : (configRoot? doubledPath.loader "/WEB-INF/admin.xml").any (fun root =>
      (ActionConfig.sectionEntries root "action-mappings" "action").any fun element =>
        attributeText? element "path" == some "//login" &&
          (ActionConfig.mapping "/admin" (ActionConfig.formBeans root)
            (ActionConfig.globalForwards root) element).toOption.isSome) = true := by
    decide +kernel
  obtain ⟨root, opened, actions⟩ := (Option.any_eq_true _ _).mp taken
  obtain ⟨element, member, facts⟩ := List.any_eq_true.mp actions
  obtain ⟨path, accepted⟩ := (Bool.and_eq_true _ _).mp facts
  obtain ⟨mapping, isMapping⟩ := Option.isSome_iff_exists.mp accepted
  have read : ReadFrom doubledPath.loader ⟨"/WEB-INF/admin.xml", "/admin"⟩ "//login" mapping := by
    exact ⟨root, element, opened, member, beq_iff_eq.mp path,
      toOption_eq_some_iff.mp isMapping⟩
  obtain ⟨-, law⟩ := (module_paths_joined_iff keyed owns).1 _ _ _ given named _ listed
  obtain ⟨joined, once⟩ := law _ mapping read
  refine ⟨keyed, owns, named, mapping, read, ?_, ?_⟩
  · rw [joined]
    decide +kernel
  · intro single
    have many : ¬ leadingSlashes "//login" ≤ 1 := by decide +kernel
    exact many (once.mp single)

end Detection

end ContainerReplay
