import ContainerReplay.Proofs.DeploymentStages
import ContainerReplay.Proofs.PassEffects

/-!
# Remarks made earlier

The built-in passes only ever add remarks and never look at those that are there.  What they do to an
application and what they say of it is therefore the same after any remarks, which stay in front.
-/

set_option autoImplicit false

namespace ContainerReplay

/-! ## Remarks in front -/

/-- The survey with remarks in front of its own. -/
def Survey.after (remarks : List Diagnostic) (survey : Survey) : Survey :=
  { survey with diagnostics := remarks ++ survey.diagnostics }

def PassResult.after (remarks : List Diagnostic) (result : PassResult) : PassResult :=
  { result with survey := result.survey.after remarks }

/-- The pass does the same after any remarks. -/
def Pass.OnlyAdds (pass : Pass) : Prop :=
  ∀ (site : Site) (remarks : List Diagnostic) (survey : Survey),
    pass site (survey.after remarks) = (pass site survey).after remarks

/-- Both passes of the detector do the same after any remarks. -/
def Detector.OnlyAdds (detector : Detector) : Prop :=
  detector.source.OnlyAdds ∧ detector.config.OnlyAdds

variable (remarks : List Diagnostic)

namespace Survey

variable (survey : Survey)

@[simp] theorem after_app : (survey.after remarks).app = survey.app := rfl

@[simp] theorem after_report (error : DetectionError) :
    (survey.after remarks).report error = (survey.report error).after remarks := by
  simp [after, report]

@[simp] theorem after_record (severity : Severity) (message : String) (resource : Option String) :
    (survey.after remarks).record severity message resource =
      (survey.record severity message resource).after remarks := by
  simp [after, record]

@[simp] theorem after_update (change : Application → Application) :
    (survey.after remarks).update change = (survey.update change).after remarks := rfl

@[simp] theorem after_register (component : Component) :
    (survey.after remarks).register component = (survey.register component).after remarks := by
  simp only [register, after_app, after_update, after_record]
  cases survey.app.outcome component <;> rfl

theorem after_registerAll (components : List Component) :
    components.foldl register (survey.after remarks) =
      (components.foldl register survey).after remarks :=
  List.foldl_hom (Survey.after remarks) fun survey component =>
    survey.after_register remarks component

end Survey

@[simp] theorem PassResult.after_survey (result : PassResult) :
    (result.after remarks).survey = result.survey.after remarks := rfl

@[simp] theorem PassResult.after_reported (result : PassResult) :
    (result.after remarks).reported = result.reported.after remarks := by
  obtain ⟨survey, failure⟩ := result
  cases failure with
  | none => rfl
  | some error => exact survey.after_report remarks error

/-! ## Reading a descriptor -/

namespace Descriptor

namespace Reading

variable (reading : Reading)

def after : Reading :=
  { reading with survey := reading.survey.after remarks }

@[simp] theorem after_app : (reading.after remarks).survey.app = reading.survey.app := rfl

@[simp] theorem after_count : (reading.after remarks).count = reading.count.after remarks := rfl

@[simp] theorem after_updateApp (change : Application → Application) :
    (reading.after remarks).updateApp change = (reading.updateApp change).after remarks := rfl

@[simp] theorem after_register (component : Component) :
    (reading.after remarks).update (fun survey => survey.register component) =
      (reading.update fun survey => survey.register component).after remarks := by
  simp [update, after]

@[simp] theorem after_remark (source : Source) (severity : Severity) (message : String) :
    (reading.after remarks).remark source severity message =
      (reading.remark source severity message).after remarks := by
  simp [remark, update, after]

@[simp] theorem after_skipSaying (source : Source) (message : String) :
    (reading.after remarks).skipSaying source message =
      (reading.skipSaying source message).after remarks := by
  simp only [skipSaying, after_remark]
  rfl

@[simp] theorem after_skip (source : Source) (element : Markup.Element) (reason : String) :
    (reading.after remarks).skip source element reason =
      (reading.skip source element reason).after remarks :=
  reading.after_skipSaying remarks source _

end Reading

/-- A reading with remarks in front, and what is read besides. -/
def afterWith {α : Type} (state : Reading × α) : Reading × α :=
  (state.1.after remarks, state.2)

theorem foldl_afterWith {α β : Type} {step : Reading × α → β → Reading × α}
    (steps : ∀ state item, step (afterWith remarks state) item =
      afterWith remarks (step state item))
    (items : List β) (state : Reading × α) :
    items.foldl step (afterWith remarks state) = afterWith remarks (items.foldl step state) :=
  List.foldl_hom (afterWith remarks) fun state item => steps state item

namespace Deployment

variable (source : Source) (element : Markup.Element)

theorem contextParam_after (reading : Reading) :
    contextParam source (reading.after remarks) element =
      (contextParam source reading element).after remarks := by
  unfold contextParam skipParameter
  split <;> simp

theorem initParam_after (state : Reading × Component) :
    initParam source (afterWith remarks state) element =
      afterWith remarks (initParam source state element) := by
  unfold initParam skipParameter afterWith
  split <;> simp

theorem initParams_after (reading : Reading) (component : Component) :
    initParams source element (reading.after remarks) component =
      afterWith remarks (initParams source element reading component) :=
  foldl_afterWith remarks (fun state child => initParam_after remarks source child state)
    (element.childrenNamed "init-param") (reading, component)

theorem startupOrder_after (name : String) (state : Reading × Component) :
    startupOrder source element name (afterWith remarks state) =
      afterWith remarks (startupOrder source element name state) := by
  unfold startupOrder afterWith
  split
  · rfl
  · split <;> simp

theorem declare_after (name : String) (declarations : Declarations)
    (state : Reading × Component) :
    declare name declarations (afterWith remarks state) =
      afterWith remarks (declare name declarations state) := by
  simp [declare, afterWith]

theorem servlet_after (state : Reading × Declarations) :
    servlet source (afterWith remarks state) element =
      afterWith remarks (servlet source state element) := by
  unfold servlet
  split
  · simp [afterWith]
  · split
    · rw [← declare_after, ← startupOrder_after, ← initParams_after]
      rfl
    · split <;> simp [afterWith]

theorem filter_after (state : Reading × Declarations) :
    filter source (afterWith remarks state) element =
      afterWith remarks (filter source state element) := by
  unfold filter
  split
  · rw [← declare_after, ← initParams_after]
    rfl
  · simp [afterWith]

theorem take_after (form : MappingForm) (declarations : Declarations) (reading : Reading) :
    form.take source declarations (reading.after remarks) element =
      (form.take source declarations reading element).after remarks := by
  unfold MappingForm.take
  split
  · simp
  · rw [Reading.after_app]
    split <;> simp

theorem listener_after (reading : Reading) :
    listener source (reading.after remarks) element =
      (listener source reading element).after remarks := by
  unfold listener
  split <;> simp

theorem displayName_after (root : Markup.Element) (reading : Reading) :
    displayName root (reading.after remarks) = (displayName root reading).after remarks := by
  unfold displayName
  split <;> simp

/-! ### The stages -/

variable (reading : Reading)

theorem configured_after :
    configured source (reading.after remarks) = (configured source reading).after remarks := by
  rw [configured, displayName_after]
  exact List.foldl_hom (Reading.after remarks) fun reading child =>
    contextParam_after remarks source child reading

theorem withServlets_after :
    withServlets source (reading.after remarks) =
      afterWith remarks (withServlets source reading) := by
  rw [withServlets, configured_after]
  exact foldl_afterWith remarks (fun state child => servlet_after remarks source child state) _
    (configured source reading, [])

theorem withFilters_after :
    withFilters source (reading.after remarks) =
      afterWith remarks (withFilters source reading) := by
  rw [withFilters, withServlets_after]
  exact foldl_afterWith remarks (fun state child => filter_after remarks source child state) _
    ((withServlets source reading).1, [])

theorem routingServlets_after (mappings : List Markup.Element) :
    routingServlets source (reading.after remarks) mappings =
      (routingServlets source reading mappings).after remarks := by
  rw [routingServlets, declaring, withFilters_after]
  exact List.foldl_hom (Reading.after remarks) fun reading child =>
    take_after remarks source child _ _ reading

theorem routingFilters_after (mappings : List Markup.Element) :
    routingFilters source (reading.after remarks) mappings =
      (routingFilters source reading mappings).after remarks := by
  rw [routingFilters, routingServlets_after]
  exact List.foldl_hom (Reading.after remarks) fun reading child =>
    take_after remarks source child _ _ reading

theorem withListeners_after :
    withListeners source (reading.after remarks) =
      (withListeners source reading).after remarks := by
  rw [withListeners, routed, routingFilters_after]
  exact List.foldl_hom (Reading.after remarks) fun reading child =>
    listener_after remarks source child reading

theorem readRoot_after :
    readRoot source (reading.after remarks) = (readRoot source reading).after remarks := by
  rw [readRoot_eq, readRoot_eq, withListeners_after, Reading.after_updateApp]

theorem read_after (loader : Loader) (path : String) (survey : Survey) :
    read loader path (survey.after remarks) =
      (read loader path survey).map (Reading.after remarks) := by
  unfold read readBytes
  cases loader.read path with
  | error error => rfl
  | ok bytes =>
      simp only
      cases openSource path roots bytes with
      | error error => rfl
      | ok source => exact congrArg Except.ok (readRoot_after remarks source ⟨survey, {}⟩)

end Deployment

namespace ActionConfig

theorem action_after (source : Source) (modulePrefix : String) (beans : List (String × String))
    (globals : List Forward) (state : Reading × List ActionMapping) (element : Markup.Element) :
    action source modulePrefix beans globals (afterWith remarks state) element =
      afterWith remarks (action source modulePrefix beans globals state element) := by
  unfold action afterWith
  split <;> simp

theorem readRoot_after (source : Source) (owner modulePrefix : String) (reading : Reading) :
    readRoot source owner modulePrefix (reading.after remarks) =
      (readRoot source owner modulePrefix reading).after remarks := by
  have taken :
      (sectionEntries source.document.root "action-mappings" "action").foldl
          (action source modulePrefix (formBeans source.document.root)
            (globalForwards source.document.root)) (reading.after remarks, []) =
        afterWith remarks
          ((sectionEntries source.document.root "action-mappings" "action").foldl
            (action source modulePrefix (formBeans source.document.root)
              (globalForwards source.document.root)) (reading, [])) :=
    foldl_afterWith remarks
      (fun state child => action_after remarks source modulePrefix _ _ state child) _ (reading, [])
  simp only [readRoot, taken, afterWith, Reading.after_register]

theorem read_after (loader : Loader) (owner modulePrefix path : String) (survey : Survey) :
    read loader owner modulePrefix path (survey.after remarks) =
      (read loader owner modulePrefix path survey).map (Reading.after remarks) := by
  unfold read readBytes
  cases loader.read path with
  | error error => rfl
  | ok bytes =>
      simp only
      cases openSource path roots bytes with
      | error error => rfl
      | ok source =>
          by_cases owned : survey.app.contains owner = true
          · have still : (survey.after remarks).app.contains owner = true := owned
            simp only [if_pos owned, if_pos still]
            exact congrArg Except.ok
              (readRoot_after remarks source owner modulePrefix ⟨survey, {}⟩)
          · have still : ¬ (survey.after remarks).app.contains owner = true := owned
            simp only [if_neg owned, if_neg still]
            rfl

end ActionConfig

end Descriptor

/-! ## The built-in passes -/

namespace Detection

theorem onlyAdds_servletSource : servletSource.OnlyAdds := by
  intro site remarks survey
  rw [servletSource, Survey.after_registerAll]
  rfl

theorem onlyAdds_readDeployment (path : String) : (readDeployment path).OnlyAdds := by
  intro site remarks survey
  rw [readDeployment, readDeployment, Descriptor.Deployment.read_after]
  cases Descriptor.Deployment.read site.loader path survey <;> rfl

theorem onlyAdds_servletConfig : servletConfig.OnlyAdds := by
  intro site remarks survey
  have descriptor := onlyAdds_readDeployment deploymentDescriptor site remarks survey
  have fragment := onlyAdds_readDeployment deploymentFragment site remarks
    (readDeployment deploymentDescriptor site survey).survey
  simp only [servletConfig, descriptor]
  cases site.loader.hasResource deploymentFragment with
  | false => rfl
  | true =>
      simp only [PassResult.after_survey, fragment, PassResult.after_reported]
      rfl

theorem readActionFile_after (site : Site) (owner : String) (survey : Survey) (file : ActionFile) :
    readActionFile site owner (survey.after remarks) file =
      (readActionFile site owner survey file).after remarks := by
  rw [readActionFile, readActionFile, Descriptor.ActionConfig.read_after]
  cases Descriptor.ActionConfig.read site.loader owner file.modulePrefix file.path survey with
  | error error => exact survey.after_report remarks error
  | ok reading => rfl

theorem readActionFiles_after (site : Site) (survey : Survey) (owner : Component) :
    readActionFiles site (survey.after remarks) owner =
      (readActionFiles site survey owner).after remarks :=
  List.foldl_hom (Survey.after remarks) fun survey file =>
    readActionFile_after remarks site owner.className survey file

theorem onlyAdds_actionConfig : actionConfig.OnlyAdds := by
  intro site remarks survey
  have read : (actionOwners site.classes survey.app).foldl (readActionFiles site)
      (survey.after remarks) =
        ((actionOwners site.classes survey.app).foldl (readActionFiles site) survey).after
          remarks :=
    List.foldl_hom (Survey.after remarks) fun survey owner =>
      readActionFiles_after remarks site survey owner
  simp only [actionConfig, Survey.after_app, read]
  rfl

theorem onlyAdds_actionSource : actionSource.OnlyAdds :=
  fun _ _ _ => rfl

end Detection

/-- The built-in detectors only add remarks. -/
theorem Registry.builtin_onlyAdds : ∀ detector ∈ builtin.detectors, detector.OnlyAdds := by
  intro detector member
  rw [builtin_detectors] at member
  rcases List.mem_cons.mp member with rfl | member
  · exact ⟨Detection.onlyAdds_servletSource, Detection.onlyAdds_servletConfig⟩
  · obtain rfl := List.mem_singleton.mp member
    exact ⟨Detection.onlyAdds_actionSource, Detection.onlyAdds_actionConfig⟩

end ContainerReplay
