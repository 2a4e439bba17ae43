import ContainerReplay.Proofs.ActionReading
import ContainerReplay.Proofs.RunStages

/-!
# The configuration pass for actions run twice

What the pass says depends on its files and on whether an owner is of an unrelated kind.  Reading the
files changes neither, so that a second pass says the same; and what it puts is there already, even
where several files declare one path: the second pass puts the mapping of an earlier file back in place
for a while, and the last file has the last word again.
-/

set_option autoImplicit false

namespace ContainerReplay

namespace Descriptor.ActionConfig

/-! ## What reading a configuration says -/

/-- The warning about an action that is not taken. -/
def skipWarning? (source : Source) (modulePrefix : String) (element : Markup.Element) :
    Option Diagnostic :=
  match mapping modulePrefix (formBeans source.document.root) (globalForwards source.document.root)
      element with
  | .ok _ => none
  | .error fault =>
      some ⟨.warn, s!"Skipping action at {source.position element}: {fault.message}",
        some source.resource⟩

def skipWarnings (source : Source) (modulePrefix : String) : List Diagnostic :=
  (sectionEntries source.document.root "action-mappings" "action").filterMap
    (skipWarning? source modulePrefix)

theorem foldl_action_diagnostics (source : Source) (modulePrefix : String)
    (elements : List Markup.Element) (state : Reading × List ActionMapping) :
    (elements.foldl (action source modulePrefix (formBeans source.document.root)
        (globalForwards source.document.root)) state).1.survey.diagnostics =
      state.1.survey.diagnostics ++ elements.filterMap (skipWarning? source modulePrefix) := by
  induction elements generalizing state with
  | nil => exact (List.append_nil _).symm
  | cons element rest ih =>
      rw [List.foldl_cons, ih, List.filterMap_cons, action, skipWarning?]
      cases mapping modulePrefix (formBeans source.document.root)
          (globalForwards source.document.root) element with
      | ok taken => rfl
      | error fault => exact List.append_assoc _ [_] _

theorem readRoot_diagnostics (source : Source) {owner : String} (modulePrefix : String)
    {reading : Reading} {existing : Component}
    (owned : reading.survey.app.component? owner = some existing) :
    (readRoot source owner modulePrefix reading).survey.diagnostics =
      reading.survey.diagnostics ++
        (skipWarnings source modulePrefix ++ ownerRemarks owner existing.kind) := by
  have app := (foldl_action_eq source modulePrefix (formBeans source.document.root)
    (globalForwards source.document.root)
    (sectionEntries source.document.root "action-mappings" "action") (reading, [])).1
  have ofOwner : (upgradeOf owner modulePrefix source.document.root).className = owner := by
    rw [upgradeOf_eq]
  rw [readRoot_eq, Reading.update, Survey.register_diagnostics, foldl_action_diagnostics, app,
    Application.outcome, ofOwner, owned, List.append_assoc]
  simp only [remarksOn_upgrade]
  rfl

/-- An owner of an unrelated kind stays of it, and every other owner stays without remarks. -/
theorem ownerRemarks_grown {component grown : Component} (growth : component.Grows grown)
    (owner : String) : ownerRemarks owner grown.kind = ownerRemarks owner component.kind := by
  rcases growth.kind with same | refined
  · rw [same]
  · obtain ⟨isAction, wasServlet⟩ := (Kind.refines_iff _ _).mp refined
    rw [isAction, wasServlet]
    rfl

end Descriptor.ActionConfig

namespace Detection

open Descriptor ActionConfig

/-! ## What a pass says -/

/-- What is said when a file of an owner is read. -/
def fileRemarks (site : Site) (owner : Component) (file : ActionFile) : List Diagnostic :=
  match site.loader.read file.path with
  | .error error => [error.diagnostic]
  | .ok bytes =>
      match openSource file.path ActionConfig.roots bytes with
      | .error error => [error.diagnostic]
      | .ok source =>
          skipWarnings source file.modulePrefix ++ ownerRemarks owner.className owner.kind

/-- What is said about a component in a pass, if it owns configurations. -/
def passRemarks (site : Site) (component : Component) : List Diagnostic :=
  if ownsActions site.classes component then
    (actionFiles component).flatMap (fileRemarks site component)
  else []

/-- The owner is on record, with at least what is known about it. -/
def OnRecord (owner : Component) (app : Application) : Prop :=
  ∃ current, app.component? owner.className = some current ∧ owner.Grows current

theorem OnRecord.grows {owner : Component} {before after : Application}
    (known : OnRecord owner before) (grows : before.Grows after) : OnRecord owner after := by
  obtain ⟨current, found, growth⟩ := known
  obtain ⟨later, foundLater, laterGrowth⟩ := grows.components _ current found
  exact ⟨later, foundLater, growth.trans laterGrowth⟩

theorem readActionFile_diagnostics (site : Site) {owner : Component} {survey : Survey}
    (known : OnRecord owner survey.app) (file : ActionFile) :
    (readActionFile site owner.className survey file).diagnostics =
      survey.diagnostics ++ fileRemarks site owner file := by
  obtain ⟨current, found, growth⟩ := known
  unfold readActionFile fileRemarks ActionConfig.read ActionConfig.readBytes
  cases site.loader.read file.path with
  | error error => rfl
  | ok bytes =>
      simp only
      cases openSource file.path ActionConfig.roots bytes with
      | error error => rfl
      | ok source =>
          have owned : survey.app.contains owner.className = true :=
            (Application.contains_iff _ _).mpr ⟨current, found⟩
          simp only [if_pos owned]
          rw [← ownerRemarks_grown growth]
          exact readRoot_diagnostics source file.modulePrefix found

theorem readActionFiles_diagnostics (site : Site) {owner : Component} {survey : Survey}
    (known : OnRecord owner survey.app) :
    (readActionFiles site survey owner).diagnostics =
      survey.diagnostics ++ (actionFiles owner).flatMap (fileRemarks site owner) := by
  unfold readActionFiles
  generalize actionFiles owner = files
  induction files generalizing survey with
  | nil => exact (List.append_nil _).symm
  | cons file rest ih =>
      have read := evolves_readActionFile site owner.className survey file
      rw [List.foldl_cons, ih (known.grows read.grows), readActionFile_diagnostics site known,
        List.flatMap_cons, List.append_assoc]

theorem foldl_readActionFiles_diagnostics (site : Site) (owners : List Component)
    {survey : Survey} (known : ∀ owner ∈ owners, OnRecord owner survey.app) :
    (owners.foldl (readActionFiles site) survey).diagnostics =
      survey.diagnostics ++
        owners.flatMap fun owner => (actionFiles owner).flatMap (fileRemarks site owner) := by
  induction owners generalizing survey with
  | nil => exact (List.append_nil _).symm
  | cons owner rest ih =>
      have read : survey.app.Grows (readActionFiles site survey owner).app :=
        (Application.evolves_foldl Survey.app (actionFiles owner)
          (fun file _ survey => evolves_readActionFile site owner.className survey file)
          survey).grows
      -- the owners are those from before the pass, and by now another may have grown
      have later : ∀ other ∈ rest, OnRecord other (readActionFiles site survey owner).app := by
        intro other member
        exact (known other (List.mem_cons_of_mem _ member)).grows read
      rw [List.foldl_cons, ih later, readActionFiles_diagnostics site (known owner List.mem_cons_self),
        List.flatMap_cons, List.append_assoc]

theorem actionConfig_diagnostics (site : Site) {survey : Survey} (keyed : survey.app.Keyed) :
    (actionConfig site survey).survey.diagnostics =
      survey.diagnostics ++ survey.app.componentList.flatMap (passRemarks site) := by
  have known : ∀ owner ∈ actionOwners site.classes survey.app, OnRecord owner survey.app := by
    intro owner member
    have found := (keyed.mem_componentList owner).mp (List.mem_filter.mp member).1
    exact ⟨owner, found, Component.Grows.refl owner⟩
  refine (foldl_readActionFiles_diagnostics site _ known).trans ?_
  rw [actionOwners, flatMap_filter_eq]
  rfl

/-! ## The second pass -/

theorem fileRemarks_grown {site : Site} {component grown : Component}
    (growth : component.Grows grown) : fileRemarks site grown = fileRemarks site component := by
  funext file
  unfold fileRemarks
  rw [growth.className, ownerRemarks_grown growth]

theorem passRemarks_grown {site : Site} {component grown : Component}
    (owns : ownsActions site.classes component = true) (growth : component.Grows grown)
    (parameters : grown.parameters = component.parameters) :
    passRemarks site grown = passRemarks site component := by
  rw [passRemarks, passRemarks, if_pos owns, if_pos (ownsActions_grown owns growth),
    actionFiles_congr parameters, fileRemarks_grown growth]

/-- The configuration pass for actions does not fail, and a second pass leaves what the first one left
and says what the first one said.  Every application that can be built is well formed. -/
theorem actionConfig_again (site : Site) {survey : Survey} (wellFormed : survey.app.WellFormed) :
    let first := actionConfig site survey
    let second := actionConfig site first.survey
    first.failure = none ∧ second.failure = none ∧
      second.survey.app = first.survey.app ∧
      ∃ said, first.survey.diagnostics = survey.diagnostics ++ said ∧
        second.survey.diagnostics = first.survey.diagnostics ++ said := by
  intro first second
  have once : first.survey.app = survey.app.registerAll (allUpgrades site survey.app) := by
    rw [← actionConfig_app site survey wellFormed.keyed, reported_app]
  have keyed : first.survey.app.Keyed := by
    have evolves := evolves_actionConfig site survey
    rw [reported_app] at evolves
    exact (evolves.wellFormed wellFormed).keyed
  have twice : second.survey.app =
      first.survey.app.registerAll (allUpgrades site first.survey.app) := by
    rw [← actionConfig_app site first.survey keyed, reported_app]
  have sameRemarks : first.survey.app.componentList.flatMap (passRemarks site) =
      survey.app.componentList.flatMap (passRemarks site) := by
    rw [once]
    -- only owners have changed, and a grown owner still owns the same files
    refine flatMap_upgraded wellFormed.keyed ?_
    intro component grown owns growth parameters
    exact passRemarks_grown owns growth parameters
  refine ⟨rfl, rfl, ?_, survey.app.componentList.flatMap (passRemarks site),
    actionConfig_diagnostics site wellFormed.keyed, ?_⟩
  · rw [twice, once, upgrade_again site wellFormed]
  · rw [← sameRemarks]
    exact actionConfig_diagnostics site keyed

/-- Two configurations that declare one path. -/
def rivalConfigs : Site :=
  Site.ofTexts
    [("app/a.xml",
      "<struts-config><action-mappings><action path=\"/login\" type=\"A\"/>" ++
        "</action-mappings></struts-config>"),
      ("app/b.xml",
        "<struts-config><action-mappings><action path=\"/login\" type=\"B\"/>" ++
          "</action-mappings></struts-config>")]

/-- A filter that owns both keeps the action of the second file, and each pass warns twice about its
kind. -/
theorem actionConfig_again_for_filter :
    let survey := ({} : Survey).register
      { className := actionServletClass, kind := .filter,
        parameters := .ofList [("config", "a.xml,b.xml")] }
    let first := actionConfig rivalConfigs survey
    let second := actionConfig rivalConfigs first.survey
    survey.app.WellFormed ∧
      (first.survey.app.componentList.map fun component =>
        component.actionMappings.map ActionMapping.handlerClass) = [["B"]] ∧
      first.survey.diagnostics.map Diagnostic.severity = [.warn, .warn] ∧
      second.survey.app = first.survey.app ∧
      second.survey.diagnostics = first.survey.diagnostics ++ first.survey.diagnostics := by
  intro survey first second
  have wellFormed : survey.app.WellFormed :=
    Application.wellFormed_register Application.wellFormed_empty List.nodup_nil
  obtain ⟨handlers, warnings⟩ :
      (first.survey.app.componentList.map fun component =>
          component.actionMappings.map ActionMapping.handlerClass) = [["B"]] ∧
        first.survey.diagnostics.map Diagnostic.severity = [.warn, .warn] := by
    decide +kernel
  obtain ⟨-, -, sameApp, said, saidFirst, saidSecond⟩ :=
    actionConfig_again rivalConfigs wellFormed
  have all : first.survey.diagnostics = said := saidFirst
  refine ⟨wellFormed, handlers, warnings, sameApp, ?_⟩
  rw [saidSecond, ← all]

end Detection

end ContainerReplay
