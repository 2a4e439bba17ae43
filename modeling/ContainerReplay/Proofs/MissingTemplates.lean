import ContainerReplay.Proofs.ClassPaths
import ContainerReplay.Proofs.DeploymentStages
import ContainerReplay.Proofs.FailedReads
import ContainerReplay.Proofs.RegisteredKinds

/-!
# Who reports a missing template

That a component has no template is said in a warning of its own, which no other remark looks like.
The built-in detectors and templates have much to say, but they never say this.
-/

set_option autoImplicit false

namespace ContainerReplay

/-! ## The warning about a missing template -/

/-- A diagnostic says that there is no template for a component. -/
def Diagnostic.MissesTemplate (diagnostic : Diagnostic) : Prop :=
  ∃ kind className, diagnostic = (DetectionError.missingTemplate kind className).diagnostic

theorem DetectionError.missingTemplate_message (kind : Kind) (className : String) :
    (missingTemplate kind className).message =
      "No template registered for " ++ kind.name ++ " component " ++ className := rfl

theorem Survey.conflictMessage_eq (className : String) (kept rejected : Kind) :
    conflictMessage className kept rejected =
      className ++ " is already registered as " ++ kept.name ++ ", ignoring its " ++
        rejected.name ++ " declaration" := rfl

/-- A text begins as the first of its parts does. -/
theorem begins_append {front : String} {first : Char} (begins : front.toList.head? = some first)
    (rest : String) : (front ++ rest).toList.head? = some first := by
  rw [String.toList_append, List.head?_append, begins, Option.some_or]

namespace Diagnostic

variable {message : String} {resource : Option String}

theorem warning_of_missesTemplate {diagnostic : Diagnostic} (misses : diagnostic.MissesTemplate) :
    diagnostic.severity = .warn := by
  obtain ⟨kind, className, rfl⟩ := misses
  rfl

/-- No warning that begins otherwise is about a missing template. -/
theorem not_missesTemplate_of_head {first : Char} (begins : message.toList.head? = some first)
    (other : first ≠ 'N') : ¬ MissesTemplate ⟨.warn, message, resource⟩ := by
  rintro ⟨kind, className, same⟩
  have letter : "No template registered for ".toList.head? = some 'N' := by decide +kernel
  have spelled := begins_append (begins_append (begins_append letter kind.name) " component ")
    className
  rw [← DetectionError.missingTemplate_message] at spelled
  have sameText : message = (DetectionError.missingTemplate kind className).message :=
    congrArg Diagnostic.message same
  rw [← sameText, begins, Option.some_inj] at spelled
  exact other spelled

/-- What stands around the class name is longer in every warning about a conflict. -/
theorem conflict_not_missesTemplate (className : String) (kept rejected : Kind) :
    ¬ MissesTemplate ⟨.warn, Survey.conflictMessage className kept rejected, some className⟩ := by
  rintro ⟨kind, other, same⟩
  have sameClass : some className = some other := congrArg Diagnostic.resource same
  rw [← Option.some_inj.mp sameClass] at same
  have lengths := congrArg (fun diagnostic : Diagnostic => diagnostic.message.toList.length) same
  have names : ∀ kind : Kind, kind.name.toList.length ≤ 13 := by
    intro kind
    cases kind <;> decide +kernel
  have short := names kind
  have around : "No template registered for ".toList.length = 27 ∧
      " component ".toList.length = 11 ∧ " is already registered as ".toList.length = 26 ∧
        ", ignoring its ".toList.length = 15 ∧ " declaration".toList.length = 12 := by
    decide +kernel
  simp only [DetectionError.diagnostic, DetectionError.missingTemplate_message,
    Survey.conflictMessage_eq, String.toList_append, List.length_append] at lengths
  omega

end Diagnostic

/-- Since a survey no component was found to have no template. -/
def Survey.MissesNoMore (before after : Survey) : Prop :=
  ∀ diagnostic ∈ after.diagnostics, diagnostic.MissesTemplate → diagnostic ∈ before.diagnostics

namespace Survey

theorem MissesNoMore.refl (survey : Survey) : survey.MissesNoMore survey :=
  fun _ said _ => said

theorem MissesNoMore.trans {first second third : Survey} (earlier : first.MissesNoMore second)
    (later : second.MissesNoMore third) : first.MissesNoMore third :=
  fun diagnostic said misses => earlier diagnostic (later diagnostic said misses) misses

theorem missesNoMore_foldl {σ α : Type} (view : σ → Survey) {step : σ → α → σ}
    (each : ∀ state item, (view state).MissesNoMore (view (step state item))) (items : List α)
    (state : σ) : (view state).MissesNoMore (view (items.foldl step state)) :=
  List.foldlRecOn (motive := fun reached => (view state).MissesNoMore (view reached))
    items step (.refl (view state)) fun reached sofar item _ => sofar.trans (each reached item)

variable (survey : Survey)

theorem missesNoMore_update (change : Application → Application) :
    survey.MissesNoMore (survey.update change) :=
  fun _ said _ => said

theorem missesNoMore_add {said : List Diagnostic} {app : Application}
    (none : ∀ diagnostic ∈ said, ¬ diagnostic.MissesTemplate) :
    survey.MissesNoMore ⟨app, survey.diagnostics ++ said⟩ := by
  intro diagnostic member misses
  rcases List.mem_append.mp member with earlier | later
  · exact earlier
  · exact absurd misses (none diagnostic later)

theorem missesNoMore_record {severity : Severity} {message : String} {resource : Option String}
    (other : ¬ Diagnostic.MissesTemplate ⟨severity, message, resource⟩) :
    survey.MissesNoMore (survey.record severity message resource) :=
  survey.missesNoMore_add (List.forall_mem_singleton.mpr other)

theorem missesNoMore_report {error : DetectionError} (other : error.severity ≠ .warn) :
    survey.MissesNoMore (survey.report error) :=
  survey.missesNoMore_add
    (List.forall_mem_singleton.mpr fun misses => other (Diagnostic.warning_of_missesTemplate misses))

theorem missesNoMore_register (component : Component) :
    survey.MissesNoMore (survey.register component) := by
  unfold register
  cases survey.app.outcome component with
  | conflict kept rejected =>
      exact (survey.missesNoMore_update _).trans
        (missesNoMore_record _ (Diagnostic.conflict_not_missesTemplate _ kept rejected))
  | inserted => exact survey.missesNoMore_update _
  | enriched => exact survey.missesNoMore_update _
  | upgraded source target => exact survey.missesNoMore_update _

end Survey

/-! ## Descriptors -/

namespace Descriptor

theorem severity_of_loader_read {loader : Loader} {path : String} {error : DetectionError}
    (failed : loader.read path = .error error) : error.severity = .error := by
  cases has : loader.hasResource path with
  | false =>
      rw [Loader.read_of_absent path loader has] at failed
      cases failed
      rfl
  | true =>
      obtain ⟨message, rfl⟩ := Loader.unreadable_of_present path has failed
      rfl

theorem severity_of_unopenable {resource : String} {roots : List String} {bytes : ByteArray}
    {error : DetectionError} (cause : Unopenable resource roots bytes error) :
    error.severity = .error := by
  cases cause <;> rfl

namespace Reading

variable (source : Source) (reading : Reading)

theorem missesNoMore_remark {severity : Severity} {message : String}
    (other : ¬ Diagnostic.MissesTemplate ⟨severity, message, some source.resource⟩) :
    reading.survey.MissesNoMore (reading.remark source severity message).survey :=
  reading.survey.missesNoMore_record other

theorem missesNoMore_note (message : String) :
    reading.survey.MissesNoMore (reading.remark source .info message).survey :=
  reading.missesNoMore_remark source fun misses =>
    Severity.noConfusion (Diagnostic.warning_of_missesTemplate misses)

theorem missesNoMore_skipSaying {message : String} {first : Char}
    (begins : message.toList.head? = some first) (other : first ≠ 'N') :
    reading.survey.MissesNoMore (reading.skipSaying source message).survey :=
  reading.missesNoMore_remark source (Diagnostic.not_missesTemplate_of_head begins other)

theorem missesNoMore_skip (element : Markup.Element) (reason : String) :
    reading.survey.MissesNoMore (reading.skip source element reason).survey := by
  have letter : "Skipping ".toList.head? = some 'S' := by decide +kernel
  have begins := begins_append (begins_append (begins_append letter reason) " at ")
    (source.position element)
  exact reading.missesNoMore_skipSaying source begins (by decide)

theorem missesNoMore_updateApp (change : Application → Application) :
    reading.survey.MissesNoMore (reading.updateApp change).survey :=
  reading.survey.missesNoMore_update change

theorem missesNoMore_register (component : Component) :
    reading.survey.MissesNoMore (reading.update fun survey => survey.register component).survey :=
  reading.survey.missesNoMore_register component

end Reading

namespace Deployment

open Reading

variable (source : Source) (element : Markup.Element)

theorem missesNoMore_contextParam (reading : Reading) :
    reading.survey.MissesNoMore (contextParam source reading element).survey := by
  unfold contextParam
  split
  · exact reading.missesNoMore_skip source element _
  · exact reading.missesNoMore_updateApp _

theorem missesNoMore_initParams (reading : Reading) (component : Component) :
    reading.survey.MissesNoMore (initParams source element reading component).1.survey := by
  refine Survey.missesNoMore_foldl (fun state : Reading × Component => state.1.survey) ?_ _
    (reading, component)
  intro state child
  unfold initParam
  split
  · exact state.1.missesNoMore_skip source child _
  · exact .refl _

theorem missesNoMore_startupOrder (name : String) (state : Reading × Component) :
    state.1.survey.MissesNoMore (startupOrder source element name state).1.survey := by
  unfold startupOrder
  split
  · exact .refl _
  · rename_i order given
    split
    · exact .refl _
    · have letter : "Ignoring load-on-startup '".toList.head? = some 'I' := by decide +kernel
      have begins := begins_append (begins_append (begins_append (begins_append letter order)
        "' of servlet '") name) "'"
      exact state.1.missesNoMore_remark source
        (Diagnostic.not_missesTemplate_of_head begins (by decide))

theorem missesNoMore_declare (name : String) (declarations : Declarations)
    (state : Reading × Component) :
    state.1.survey.MissesNoMore (declare name declarations state).1.survey :=
  state.1.missesNoMore_register state.2

theorem missesNoMore_servlet (state : Reading × Declarations) :
    state.1.survey.MissesNoMore (servlet source state element).1.survey := by
  unfold servlet
  split
  · exact state.1.missesNoMore_skip source element _
  · split
    · exact (missesNoMore_initParams source element state.1 _).trans
        ((missesNoMore_startupOrder source element _ _).trans (missesNoMore_declare _ _ _))
    · split
      · exact state.1.missesNoMore_note source _
      · exact state.1.missesNoMore_skip source element _

theorem missesNoMore_filter (state : Reading × Declarations) :
    state.1.survey.MissesNoMore (filter source state element).1.survey := by
  unfold filter
  split
  · exact (missesNoMore_initParams source element state.1 _).trans (missesNoMore_declare _ _ _)
  · exact state.1.missesNoMore_skip source element _

theorem missesNoMore_take (form : MappingForm) (declarations : Declarations) (reading : Reading) :
    reading.survey.MissesNoMore (form.take source declarations reading element).survey := by
  unfold MappingForm.take
  split
  · exact reading.missesNoMore_skip source element _
  · split
    · exact reading.missesNoMore_skip source element _
    · exact reading.missesNoMore_updateApp _

theorem missesNoMore_listener (reading : Reading) :
    reading.survey.MissesNoMore (listener source reading element).survey := by
  unfold listener
  split
  · exact reading.missesNoMore_skip source element _
  · exact reading.missesNoMore_register _

theorem missesNoMore_displayName (root : Markup.Element) (reading : Reading) :
    reading.survey.MissesNoMore (displayName root reading).survey := by
  unfold displayName
  split
  · exact .refl _
  · exact reading.missesNoMore_updateApp _

theorem missesNoMore_readRoot (reading : Reading) :
    reading.survey.MissesNoMore (readRoot source reading).survey := by
  have configures : reading.survey.MissesNoMore (configured source reading).survey :=
    (missesNoMore_displayName _ reading).trans
      (Survey.missesNoMore_foldl Reading.survey
        (fun reading child => missesNoMore_contextParam source child reading) _ _)
  have servlets : (configured source reading).survey.MissesNoMore
      (withServlets source reading).1.survey :=
    Survey.missesNoMore_foldl (fun state : Reading × Declarations => state.1.survey)
      (fun state child => missesNoMore_servlet source child state) _ _
  have filters : (withServlets source reading).1.survey.MissesNoMore
      (declaring source reading).survey :=
    Survey.missesNoMore_foldl (fun state : Reading × Declarations => state.1.survey)
      (fun state child => missesNoMore_filter source child state) _ _
  have mappings : (declaring source reading).survey.MissesNoMore (routed source reading).survey :=
    (Survey.missesNoMore_foldl Reading.survey
      (fun reading child => missesNoMore_take source child _ _ reading) _ _).trans
      (Survey.missesNoMore_foldl Reading.survey
        (fun reading child => missesNoMore_take source child _ _ reading) _ _)
  have listeners : (routed source reading).survey.MissesNoMore
      (withListeners source reading).survey :=
    Survey.missesNoMore_foldl Reading.survey
      (fun reading child => missesNoMore_listener source child reading) _ _
  rw [readRoot_eq]
  exact configures.trans (servlets.trans (filters.trans (mappings.trans
    (listeners.trans (Reading.missesNoMore_updateApp _ _)))))

end Deployment

theorem ActionConfig.missesNoMore_readRoot (source : Source) (owner modulePrefix : String)
    (reading : Reading) :
    reading.survey.MissesNoMore (readRoot source owner modulePrefix reading).survey := by
  have letter : "Skipping action at ".toList.head? = some 'S' := by decide +kernel
  have action : ∀ (state : Reading × List ActionMapping) (element : Markup.Element),
      state.1.survey.MissesNoMore (action source modulePrefix (formBeans source.document.root)
        (globalForwards source.document.root) state element).1.survey := by
    intro state element
    unfold ActionConfig.action
    split
    · exact .refl _
    · rename_i fault refused
      have begins := begins_append (begins_append (begins_append letter (source.position element))
        ": ") fault.message
      exact state.1.missesNoMore_skipSaying source begins (by decide)
  have actions := Survey.missesNoMore_foldl
    (fun state : Reading × List ActionMapping => state.1.survey) action
    (sectionEntries source.document.root "action-mappings" "action") (reading, [])
  exact actions.trans (Reading.missesNoMore_register _ _)

/-- A descriptor that is not read says so in an error. -/
theorem Deployment.severity_of_read {loader : Loader} {path : String} {survey : Survey}
    {error : DetectionError} (failed : read loader path survey = .error error) :
    error.severity = .error := by
  rcases (readPath_eq_error_iff
    (fun bytes error => readBytes_eq_error_iff path bytes survey error) error).mp failed with
    unloaded | ⟨_, cause⟩
  · exact severity_of_loader_read unloaded
  · exact severity_of_unopenable cause

theorem ActionConfig.severity_of_read {loader : Loader} {owner modulePrefix path : String}
    {survey : Survey} {error : DetectionError}
    (failed : read loader owner modulePrefix path survey = .error error) :
    error.severity = .error := by
  rcases (readPath_eq_error_iff
    (fun bytes error => readBytes_eq_error_iff owner modulePrefix path bytes survey error)
      error).mp failed with unloaded | ⟨_, cause⟩
  · exact severity_of_loader_read unloaded
  · cases cause with
    | unopenable cause => exact severity_of_unopenable cause
    | unowned opens absent => rfl

theorem Deployment.missesNoMore_read {loader : Loader} {path : String} {survey : Survey}
    {reading : Reading} (succeeded : read loader path survey = .ok reading) :
    survey.MissesNoMore reading.survey := by
  unfold read readBytes at succeeded
  split at succeeded
  · cases succeeded
  · split at succeeded
    · cases succeeded
    · rw [← Except.ok.inj succeeded]
      exact missesNoMore_readRoot _ ⟨survey, {}⟩

theorem ActionConfig.missesNoMore_read {loader : Loader} {owner modulePrefix path : String}
    {survey : Survey} {reading : Reading}
    (succeeded : read loader owner modulePrefix path survey = .ok reading) :
    survey.MissesNoMore reading.survey := by
  unfold read readBytes at succeeded
  split at succeeded
  · cases succeeded
  · split at succeeded
    · cases succeeded
    · split at succeeded
      · rw [← Except.ok.inj succeeded]
        exact missesNoMore_readRoot _ owner modulePrefix ⟨survey, {}⟩
      · cases succeeded

end Descriptor

/-! ## Detectors and templates -/

/-- The pass reports no missing template, neither on the way nor by its failure. -/
def Pass.MissesNone (pass : Pass) : Prop :=
  ∀ (site : Site) (survey : Survey), survey.MissesNoMore (pass site survey).reported

def Detector.MissesNone (detector : Detector) : Prop :=
  detector.source.MissesNone ∧ detector.config.MissesNone

def Template.MissesNone (template : Template) : Prop :=
  ∀ (scene : Scene) (component : Component),
    ∀ diagnostic ∈ (template.instantiate scene component).diagnostics, ¬ diagnostic.MissesTemplate

namespace Detection

theorem missesNone_servletSource : servletSource.MissesNone := by
  intro site survey
  exact Survey.missesNoMore_foldl id
    (fun survey component => survey.missesNoMore_register component) _ survey

theorem missesNoMore_readDeployment (path : String) (site : Site) (survey : Survey) :
    survey.MissesNoMore (readDeployment path site survey).survey ∧
      ∀ error, (readDeployment path site survey).failure = some error → error.severity ≠ .warn := by
  unfold readDeployment
  cases outcome : Descriptor.Deployment.read site.loader path survey with
  | ok reading => exact ⟨Descriptor.Deployment.missesNoMore_read outcome, by simp⟩
  | error failure =>
      refine ⟨.refl survey, fun error failed => ?_⟩
      rw [← Option.some_inj.mp failed, Descriptor.Deployment.severity_of_read outcome]
      exact Severity.noConfusion

theorem missesNoMore_reported {result : PassResult}
    (serious : ∀ error, result.failure = some error → error.severity ≠ .warn) :
    result.survey.MissesNoMore result.reported := by
  unfold PassResult.reported
  cases failed : result.failure with
  | none => exact .refl _
  | some error => exact result.survey.missesNoMore_report (serious error failed)

theorem missesNone_servletConfig : servletConfig.MissesNone := by
  intro site survey
  obtain ⟨described, serious⟩ := missesNoMore_readDeployment deploymentDescriptor site survey
  let result := readDeployment deploymentDescriptor site survey
  obtain ⟨further, seriously⟩ :=
    missesNoMore_readDeployment deploymentFragment site result.survey
  unfold servletConfig
  split
  · have both (survey : Survey) :
        survey.MissesNoMore (PassResult.mk survey result.failure).reported :=
      missesNoMore_reported serious
    exact described.trans (further.trans ((missesNoMore_reported seriously).trans (both _)))
  · exact described.trans (missesNoMore_reported serious)

theorem missesNone_actionConfig : actionConfig.MissesNone := by
  intro site survey
  refine Survey.missesNoMore_foldl id (fun survey owner => ?_) _ survey
  refine Survey.missesNoMore_foldl id (fun survey file => ?_) _ survey
  simp only [id, readActionFile]
  split
  · rename_i error failed
    refine survey.missesNoMore_report ?_
    rw [Descriptor.ActionConfig.severity_of_read failed]
    exact Severity.noConfusion
  · rename_i reading succeeded
    exact Descriptor.ActionConfig.missesNoMore_read succeeded

theorem missesNone_actionSource : actionSource.MissesNone :=
  fun _ survey => survey.missesNoMore_report Severity.noConfusion

end Detection

/-- The built-in detectors never report that a template is missing. -/
theorem Registry.builtin_missesNone : ∀ detector ∈ builtin.detectors, detector.MissesNone := by
  intro detector member
  rw [builtin_detectors, List.mem_cons, List.mem_singleton] at member
  rcases member with rfl | rfl
  · exact ⟨Detection.missesNone_servletSource, Detection.missesNone_servletConfig⟩
  · exact ⟨Detection.missesNone_actionSource, Detection.missesNone_actionConfig⟩

namespace Synthesis

theorem missesNone_singleUnit (id : String) (kind : Kind) (draft : Scene → Component → Draft) :
    (singleUnit id kind draft).MissesNone :=
  fun _ _ _ said => absurd said List.not_mem_nil

theorem missesNone_actionTemplate : actionTemplate.MissesNone := by
  intro scene component diagnostic said misses
  simp only [actionTemplate, replayActions] at said
  split at said
  · rw [List.mem_singleton.mp said] at misses
    exact Severity.noConfusion (Diagnostic.warning_of_missesTemplate misses)
  · obtain ⟨mapping, listed, said⟩ := List.mem_flatMap.mp said
    unfold replayMapping at said
    split at said
    · cases said
    · rw [List.mem_singleton.mp said] at misses
      have letter : "Class ".toList.head? = some 'C' := by decide +kernel
      have begins := begins_append (begins_append (begins_append (begins_append letter
        mapping.handlerClass) " referenced by ")
          s!"action {mapping.path} of {component.className}") " cannot be loaded"
      exact Diagnostic.not_missesTemplate_of_head begins (by decide) misses

/-- The built-in templates never report that a template is missing. -/
theorem builtin_missesNone : ∀ template ∈ builtinTemplates, template.MissesNone := by
  intro template member
  simp only [builtinTemplates, List.mem_cons, List.not_mem_nil, or_false] at member
  rcases member with rfl | rfl | rfl | rfl
  · exact missesNone_singleUnit _ _ _
  · exact missesNone_singleUnit _ _ _
  · exact missesNone_singleUnit _ _ _
  · exact missesNone_actionTemplate

end Synthesis

/-- A run of detectors that report no missing template reports none. -/
theorem Registry.missesNoMore_run {registry : Registry}
    (none : ∀ detector ∈ registry.detectors, detector.MissesNone) (strict : Bool) (site : Site)
    (survey : Survey) : survey.MissesNoMore (registry.run strict site survey) := by
  let noted : Survey :=
    { survey with diagnostics := survey.diagnostics ++ registry.skipNotes site.loader }
  have notes : survey.MissesNoMore noted := by
    refine survey.missesNoMore_add fun note member misses => ?_
    obtain ⟨detector, _, rfl⟩ := List.mem_map.mp member
    exact Severity.noConfusion (Diagnostic.warning_of_missesTemplate misses)
  have passes : ∀ (pass : Detector → Pass) (detectors : List Detector) (survey : Survey),
      (∀ detector ∈ detectors, (pass detector).MissesNone) →
        survey.MissesNoMore (detectors.foldl
          (fun survey detector => (pass detector site survey).reported) survey) := by
    intro pass detectors survey all
    exact List.foldlRecOn (motive := survey.MissesNoMore) detectors _ (.refl survey)
      fun reached sofar detector member => sofar.trans (all detector member site reached)
  have enabled : ∀ detector ∈ (registry.enabled site.loader).detectors, detector.MissesNone :=
    fun detector member => none detector (List.mem_filter.mp member).1
  refine notes.trans (Survey.MissesNoMore.trans ?_
    (passes Detector.config _ _ fun detector member => (enabled detector member).2))
  cases strict with
  | true => exact passes Detector.source _ noted fun detector member => (enabled detector member).1
  | false => exact passes Detector.source _ noted fun detector member => (none detector member).1

end ContainerReplay
