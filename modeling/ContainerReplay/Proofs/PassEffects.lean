import ContainerReplay.Detection.Chain
import ContainerReplay.Proofs.ClassPaths
import ContainerReplay.Proofs.DeploymentContent

/-!
# What detection does to an application

Each pass of a built-in detector, and a whole run, as a change of the application alone: which
components it registers and which contents it installs.  Growth of a run follows from these
equations.
-/

set_option autoImplicit false

namespace ContainerReplay

namespace Descriptor.ActionConfig

/-! ## Action configurations -/

/-- The mappings of the accepted actions of a configuration, in document order. -/
def acceptedActions (modulePrefix : String) (root : Markup.Element) : List ActionMapping :=
  (sectionEntries root "action-mappings" "action").filterMap fun element =>
    (mapping modulePrefix (formBeans root) (globalForwards root) element).toOption

/-- What a configuration adds to the component that owns it. -/
def upgradeOf (owner modulePrefix : String) (root : Markup.Element) : Component :=
  ({ className := owner, kind := .actionServlet } : Component).putMappings
    (acceptedActions modulePrefix root)

theorem foldl_action_eq (source : Source) (modulePrefix : String)
    (beans : List (String × String)) (globals : List Forward) (elements : List Markup.Element)
    (state : Reading × List ActionMapping) :
    (elements.foldl (action source modulePrefix beans globals) state).1.survey.app =
        state.1.survey.app ∧
      (elements.foldl (action source modulePrefix beans globals) state).2 =
        state.2 ++ elements.filterMap fun element =>
          (mapping modulePrefix beans globals element).toOption := by
  induction elements generalizing state with
  | nil => exact ⟨rfl, (List.append_nil _).symm⟩
  | cons element rest ih =>
      obtain ⟨app, mappings⟩ := ih (action source modulePrefix beans globals state element)
      rw [List.foldl_cons, app, mappings, List.filterMap_cons]
      unfold action
      cases mapping modulePrefix beans globals element with
      | error fault => exact ⟨rfl, rfl⟩
      | ok accepted => exact ⟨rfl, by simp [Except.toOption]⟩

theorem readRoot_app (source : Source) (owner modulePrefix : String) (reading : Reading) :
    (readRoot source owner modulePrefix reading).survey.app =
      reading.survey.app.register (upgradeOf owner modulePrefix source.document.root) := by
  obtain ⟨app, mappings⟩ := foldl_action_eq source modulePrefix
    (formBeans source.document.root) (globalForwards source.document.root)
    (sectionEntries source.document.root "action-mappings" "action") (reading, [])
  rw [List.nil_append] at mappings
  simp only [readRoot, Reading.update, Survey.register_app, app, mappings]
  rfl

theorem upgradeOf_distinct (owner modulePrefix : String) (root : Markup.Element) :
    (upgradeOf owner modulePrefix root).mappingPaths.Nodup := by
  rw [upgradeOf, Component.putMappings_eq]
  exact ActionMapping.putAll_paths_nodup _ List.nodup_nil

end Descriptor.ActionConfig

namespace Detection

open Descriptor

/-! ## Passes -/

def deployedComponents (classes : ClassIndex) : List Component :=
  classes.toList.filterMap (deployed? classes)

theorem deployed?_eq_some_iff {classes : ClassIndex} {info : ClassInfo} {component : Component} :
    deployed? classes info = some component ↔
      ∃ kind, deployedAs? classes info = some kind ∧
        component = { className := info.name, kind } := by
  unfold deployed?
  cases deployedAs? classes info with
  | none => simp
  | some kind => simp [@eq_comm _ component]

theorem mem_deployedComponents {classes : ClassIndex} {component : Component} :
    component ∈ deployedComponents classes ↔
      ∃ info ∈ classes.toList, ∃ kind, deployedAs? classes info = some kind ∧
        component = { className := info.name, kind } := by
  simp only [deployedComponents, List.mem_filterMap, deployed?_eq_some_iff]

/-- The content of the deployment descriptor at a path, if it can be read. -/
def descriptorContent? (loader : Loader) (path : String) : Option Content :=
  match loader.read path with
  | .error _ => none
  | .ok bytes =>
      match openSource path Deployment.roots bytes with
      | .error _ => none
      | .ok source => some (Deployment.contentOf source.document.root)

def installAt (loader : Loader) (path : String) (app : Application) : Application :=
  match descriptorContent? loader path with
  | none => app
  | some content => content.install app

/-- What the configuration file of an owner adds to it, if the file can be read. -/
def upgrade? (loader : Loader) (owner : String) (file : ActionFile) : Option Component :=
  match loader.read file.path with
  | .error _ => none
  | .ok bytes =>
      match openSource file.path ActionConfig.roots bytes with
      | .error _ => none
      | .ok source =>
          some (ActionConfig.upgradeOf owner file.modulePrefix source.document.root)

def upgradesOf (loader : Loader) (owner : Component) : List Component :=
  (actionFiles owner).filterMap (upgrade? loader owner.className)

/-- What all configuration files add to their owners, in reading order. -/
def allUpgrades (site : Site) (app : Application) : List Component :=
  (actionOwners site.classes app).flatMap (upgradesOf site.loader)

theorem servletSource_app (site : Site) (survey : Survey) :
    (servletSource site survey).reported.app =
      survey.app.registerAll (deployedComponents site.classes) := by
  have general : ∀ (components : List Component) (survey : Survey),
      (components.foldl Survey.register survey).app = survey.app.registerAll components := by
    intro components
    induction components with
    | nil => exact fun _ => rfl
    | cons component rest ih =>
        intro survey
        rw [List.foldl_cons, ih, Survey.register_app]
        rfl
  exact general _ survey

theorem readDeployment_app (path : String) (site : Site) (survey : Survey) :
    (readDeployment path site survey).survey.app = installAt site.loader path survey.app := by
  unfold readDeployment installAt descriptorContent? Deployment.read Deployment.readBytes
  cases site.loader.read path with
  | error error => rfl
  | ok bytes =>
      simp only
      cases openSource path Deployment.roots bytes with
      | error error => rfl
      | ok source => exact Deployment.readRoot_app source ⟨survey, {}⟩

@[simp] theorem reported_app (result : PassResult) : result.reported.app = result.survey.app := by
  unfold PassResult.reported
  cases result.failure <;> rfl

theorem hasResource_of_read {loader : Loader} {path : String} {bytes : ByteArray}
    (success : loader.read path = .ok bytes) : loader.hasResource path = true := by
  cases has : loader.hasResource path with
  | true => rfl
  | false =>
      rw [Loader.read_of_absent path loader has] at success
      cases success

theorem hasResource_of_content {loader : Loader} {path : String} {content : Content}
    (taken : descriptorContent? loader path = some content) : loader.hasResource path = true := by
  unfold descriptorContent? at taken
  split at taken
  · cases taken
  · rename_i bytes success
    exact hasResource_of_read success

theorem installAt_of_absent {loader : Loader} {path : String}
    (absent : loader.hasResource path = false) (app : Application) :
    installAt loader path app = app := by
  unfold installAt descriptorContent?
  cases read : loader.read path with
  | error error => rfl
  | ok bytes =>
      have present := hasResource_of_read read
      rw [absent] at present
      cases present

theorem servletConfig_app (site : Site) (survey : Survey) :
    (servletConfig site survey).reported.app =
      installAt site.loader deploymentFragment
        (installAt site.loader deploymentDescriptor survey.app) := by
  unfold servletConfig
  cases present : site.loader.hasResource deploymentFragment with
  | true =>
      simp only [if_true, reported_app, readDeployment_app]
  | false =>
      simp only [Bool.false_eq_true, if_false, reported_app, readDeployment_app]
      exact (installAt_of_absent present _).symm

theorem readActionFile_app (site : Site) (owner : String) (survey : Survey) (file : ActionFile) :
    (readActionFile site owner survey file).app =
      (upgrade? site.loader owner file).elim survey.app fun upgrade =>
        if survey.app.contains owner then survey.app.register upgrade else survey.app := by
  unfold readActionFile upgrade? ActionConfig.read ActionConfig.readBytes
  cases site.loader.read file.path with
  | error error => rfl
  | ok bytes =>
      simp only
      cases openSource file.path ActionConfig.roots bytes with
      | error error => rfl
      | ok source =>
          simp only [Option.elim_some]
          by_cases owned : survey.app.contains owner = true
          · simp only [if_pos owned]
            exact ActionConfig.readRoot_app source owner file.modulePrefix ⟨survey, {}⟩
          · simp only [if_neg owned, Survey.report_app]

/-- What a configuration file adds is a front controller of the owner's class with nothing but
action mappings. -/
theorem upgrade?_eq {loader : Loader} {owner : String} {file : ActionFile} {upgrade : Component}
    (read : upgrade? loader owner file = some upgrade) :
    ∃ root, upgrade = ActionConfig.upgradeOf owner file.modulePrefix root := by
  unfold upgrade? at read
  split at read
  · cases read
  · split at read
    · cases read
    · rename_i source _
      exact ⟨source.document.root, (Option.some.inj read).symm⟩

theorem foldl_readActionFile_app (site : Site) (owner : String) (files : List ActionFile)
    (survey : Survey) (owned : survey.app.contains owner = true) :
    (files.foldl (readActionFile site owner) survey).app =
      survey.app.registerAll (files.filterMap (upgrade? site.loader owner)) := by
  induction files generalizing survey with
  | nil => rfl
  | cons file rest ih =>
      have taken := readActionFile_app site owner survey file
      rw [List.foldl_cons, List.filterMap_cons]
      cases upgrade : upgrade? site.loader owner file with
      | none =>
          rw [upgrade, Option.elim_none] at taken
          rw [ih _ (by rw [taken]; exact owned), taken]
      | some component =>
          rw [upgrade, Option.elim_some, if_pos owned] at taken
          -- the owner is still on record when the next file is read
          have stillOwned : (readActionFile site owner survey file).app.contains owner = true := by
            rw [taken]
            exact (Application.contains_register _ component owner).mpr (Or.inl owned)
          rw [ih _ stillOwned, taken]
          rfl

theorem foldl_readActionFiles_app (site : Site) (owners : List Component) (survey : Survey)
    (owned : ∀ owner ∈ owners, survey.app.contains owner.className = true) :
    (owners.foldl (readActionFiles site) survey).app =
      survey.app.registerAll (owners.flatMap (upgradesOf site.loader)) := by
  induction owners generalizing survey with
  | nil => rfl
  | cons owner rest ih =>
      have taken : (readActionFiles site survey owner).app =
          survey.app.registerAll (upgradesOf site.loader owner) :=
        foldl_readActionFile_app site owner.className (actionFiles owner) survey
          (owned owner List.mem_cons_self)
      rw [List.foldl_cons, List.flatMap_cons, Application.registerAll_append, ih, taken]
      intro later member
      rw [taken]
      have before := owned later (List.mem_cons_of_mem _ member)
      exact (Application.contains_registerAll_iff _ _ _).mpr (Or.inl before)

theorem actionConfig_app (site : Site) (survey : Survey) (keyed : survey.app.Keyed) :
    (actionConfig site survey).reported.app =
      survey.app.registerAll (allUpgrades site survey.app) := by
  rw [reported_app]
  refine foldl_readActionFiles_app site _ survey fun owner member => ?_
  have stored := (keyed.mem_componentList owner).mp (List.mem_filter.mp member).1
  exact (Application.contains_iff _ _).mpr ⟨owner, stored⟩

theorem actionSource_app (site : Site) (survey : Survey) :
    (actionSource site survey).reported.app = survey.app := rfl

/-! ## Passes evolve -/

theorem noActions_deployed (classes : ClassIndex) :
    ∀ component ∈ deployedComponents classes, component.actionMappings = [] := by
  intro component member
  obtain ⟨info, _, kind, _, rfl⟩ := mem_deployedComponents.mp member
  rfl

theorem evolves_servletSource (site : Site) (survey : Survey) :
    survey.app.Evolves (servletSource site survey).reported.app := by
  rw [servletSource_app]
  exact evolves_registerBare (noActions_deployed site.classes) survey.app

theorem descriptorContent?_regular {loader : Loader} {path : String} {content : Content}
    (read : descriptorContent? loader path = some content) : content.Regular := by
  unfold descriptorContent? at read
  split at read
  · cases read
  · split at read
    · cases read
    · cases read
      exact Deployment.contentOf_regular _

theorem evolves_installAt (loader : Loader) (path : String) (app : Application) :
    app.Evolves (installAt loader path app) := by
  unfold installAt
  cases read : descriptorContent? loader path with
  | none => exact Application.Evolves.refl app
  | some content => exact Content.evolves_install (descriptorContent?_regular read) app

theorem evolves_servletConfig (site : Site) (survey : Survey) :
    survey.app.Evolves (servletConfig site survey).reported.app := by
  rw [servletConfig_app]
  exact (evolves_installAt _ _ survey.app).trans (evolves_installAt _ _ _)

theorem evolves_readActionFile (site : Site) (owner : String) (survey : Survey)
    (file : ActionFile) :
    survey.app.Evolves (readActionFile site owner survey file).app := by
  rw [readActionFile_app]
  cases read : upgrade? site.loader owner file with
  | none => exact Application.Evolves.refl survey.app
  | some upgrade =>
      obtain ⟨root, rfl⟩ := upgrade?_eq read
      simp only [Option.elim_some]
      split
      · exact Application.evolves_register survey.app (ActionConfig.upgradeOf_distinct _ _ root)
      · exact Application.Evolves.refl survey.app

theorem evolves_actionConfig (site : Site) (survey : Survey) :
    survey.app.Evolves (actionConfig site survey).reported.app := by
  rw [reported_app]
  refine Application.evolves_foldl Survey.app _ (fun owner _ survey => ?_) survey
  exact Application.evolves_foldl Survey.app _
    (fun file _ survey => evolves_readActionFile site owner.className survey file) survey

end Detection

/-! ## Runs -/

namespace Registry

theorem builtin_detectors : builtin.detectors = [Detection.servlets, Detection.actions] := rfl

def IsBuiltin (registry : Registry) : Prop :=
  ∀ detector ∈ registry.detectors, detector ∈ builtin.detectors

theorem evolves_source {detector : Detector} (isBuiltin : detector ∈ builtin.detectors)
    (site : Site) (survey : Survey) :
    survey.app.Evolves (detector.source site survey).reported.app := by
  rw [builtin_detectors, List.mem_cons, List.mem_singleton] at isBuiltin
  rcases isBuiltin with rfl | rfl
  · exact Detection.evolves_servletSource site survey
  · exact Application.Evolves.refl survey.app

theorem evolves_config {detector : Detector} (isBuiltin : detector ∈ builtin.detectors)
    (site : Site) (survey : Survey) :
    survey.app.Evolves (detector.config site survey).reported.app := by
  rw [builtin_detectors, List.mem_cons, List.mem_singleton] at isBuiltin
  rcases isBuiltin with rfl | rfl
  · exact Detection.evolves_servletConfig site survey
  · exact Detection.evolves_actionConfig site survey

theorem IsBuiltin.enabled {registry : Registry} (isBuiltin : registry.IsBuiltin)
    (loader : Loader) : (registry.enabled loader).IsBuiltin :=
  fun detector member => isBuiltin detector (List.mem_filter.mp member).1

theorem evolves_run {registry : Registry} (isBuiltin : registry.IsBuiltin) (strict : Bool)
    (site : Site) (survey : Survey) :
    survey.app.Evolves (registry.run strict site survey).app := by
  have sources : ∀ (registry : Registry), registry.IsBuiltin → ∀ survey : Survey,
      survey.app.Evolves (registry.runSources site survey).app := fun registry isBuiltin survey =>
    Application.evolves_foldl Survey.app _
      (fun detector member survey => evolves_source (isBuiltin detector member) site survey) survey
  have configs : ∀ (registry : Registry), registry.IsBuiltin → ∀ survey : Survey,
      survey.app.Evolves (registry.runConfigs site survey).app := fun registry isBuiltin survey =>
    Application.evolves_foldl Survey.app _
      (fun detector member survey => evolves_config (isBuiltin detector member) site survey) survey
  let noted : Survey :=
    { survey with diagnostics := survey.diagnostics ++ registry.skipNotes site.loader }
  refine Application.Evolves.trans ?_ (configs _ (isBuiltin.enabled site.loader) _)
  -- a strict run takes the sources of enabled detectors only, any other run those of all
  split
  · exact sources _ (isBuiltin.enabled site.loader) noted
  · exact sources _ isBuiltin noted

end Registry

end ContainerReplay
