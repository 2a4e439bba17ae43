import ContainerReplay.Proofs.PassEffects

/-!
# Growth under every operation

All that may be done to an application while it is being built, as data: registering components,
adding to them, reading descriptors, passes of detectors and whole runs.  Whatever sequence of
operations is performed, nothing that was known is lost, and what starts well formed stays so.
-/

set_option autoImplicit false

namespace ContainerReplay

/-! ## What may be added to a component -/

/-- One thing that may be added to a component. -/
inductive Addition where
  | name (name : String)
  | urlPattern (pattern : String)
  | servletName (name : String)
  | parameter (name value : String)
  | mapping (mapping : ActionMapping)

namespace Component

def add (component : Component) : Addition → Component
  | .name name => component.addName name
  | .urlPattern pattern => component.addUrlPattern pattern
  | .servletName name => component.addServletName name
  | .parameter name value => component.addParameter name value
  | .mapping mapping => component.putMapping mapping

theorem grows_add (component : Component) (addition : Addition) :
    component.Grows (component.add addition) := by
  cases addition with
  | name name => exact grows_addName component name
  | urlPattern pattern => exact grows_addUrlPattern component pattern
  | servletName name => exact grows_addServletName component name
  | parameter name value => exact grows_addParameter component name value
  | mapping mapping => exact grows_putMapping component mapping

/-- The components that can be built: from a class and a kind by additions, setting the
start-up order, and merging. -/
inductive Built : Component → Prop where
  | fresh (className : String) (kind : Kind) : Built { className, kind }
  | startedAt {component : Component} (built : Built component) (order : Int) :
      Built { component with loadOnStartup := some order }
  | added {component : Component} (built : Built component) (addition : Addition) :
      Built (component.add addition)
  | merged {component other : Component} (built : Built component) (otherBuilt : Built other) :
      Built (component.merge other)

theorem Built.distinctPaths {component : Component} (built : component.Built) :
    component.mappingPaths.Nodup := by
  induction built with
  | fresh className kind => exact List.nodup_nil
  | startedAt _ _ ih => exact ih
  | @added component _ addition ih => exact (grows_add component addition).distinctPaths ih
  | @merged component other _ _ ih _ => exact (grows_merge component other).distinctPaths ih

end Component

theorem Application.evolves_add (app : Application) (className : String)
    (addition : Addition) :
    app.Evolves (app.modify className fun component => component.add addition) :=
  evolves_modify app className fun component => Component.grows_add component addition

/-! ## Operations -/

/-- What may be done to an application while it is being built. -/
inductive Operation where
  | register (component : Component) (built : component.Built)
  /-- Adds to the component of a class, if there is one. -/
  | enrich (className : String) (addition : Addition)
  /-- Adds to the first component that was declared under a name, if there is one. -/
  | enrichNamed (name : String) (addition : Addition)
  | setDisplayName (name : String)
  | addContextParam (name value : String)
  | addInjection (injection : Injection)
  | readDeployment (loader : Loader) (path : String)
  | readDeploymentBytes (resource : String) (bytes : ByteArray)
  | readActions (loader : Loader) (owner modulePrefix path : String)
  | readActionsBytes (owner modulePrefix resource : String) (bytes : ByteArray)
  | sourcePass (detector : Detector) (isBuiltin : detector ∈ Registry.builtin.detectors)
      (site : Site)
  | configPass (detector : Detector) (isBuiltin : detector ∈ Registry.builtin.detectors)
      (site : Site)
  | run (registry : Registry) (isBuiltin : registry.IsBuiltin) (strict : Bool) (site : Site)

/-- What a read leaves behind: a failed one leaves the survey as it was. -/
def Survey.afterRead (survey : Survey) (result : Except DetectionError Descriptor.Reading) :
    Survey :=
  match result with
  | .error _ => survey
  | .ok reading => reading.survey

namespace Operation

/-- What an operation leaves behind, whether it succeeds or fails. -/
def perform (survey : Survey) : Operation → Survey
  | register component _ => survey.update fun app => app.register component
  | enrich className addition =>
      survey.update fun app => app.modify className fun component => component.add addition
  | enrichNamed name addition =>
      survey.update fun app =>
        match app.named? name with
        | none => app
        | some named => app.modify named.className fun component => component.add addition
  | setDisplayName name => survey.update fun app => app.setDisplayName name
  | addContextParam name value => survey.update fun app => app.addContextParam name value
  | addInjection injection => survey.update fun app => app.addInjection injection
  | readDeployment loader path =>
      survey.afterRead (Descriptor.Deployment.read loader path survey)
  | readDeploymentBytes resource bytes =>
      survey.afterRead (Descriptor.Deployment.readBytes resource bytes survey)
  | readActions loader owner modulePrefix path =>
      survey.afterRead (Descriptor.ActionConfig.read loader owner modulePrefix path survey)
  | readActionsBytes owner modulePrefix resource bytes =>
      survey.afterRead
        (Descriptor.ActionConfig.readBytes owner modulePrefix resource bytes survey)
  | sourcePass detector _ site => (detector.source site survey).reported
  | configPass detector _ site => (detector.config site survey).reported
  | run registry _ strict site => registry.run strict site survey

def declare (className : String) (kind : Kind) : Operation :=
  register { className, kind } (Component.Built.fresh className kind)

def performAll (operations : List Operation) (survey : Survey) : Survey :=
  operations.foldl perform survey

theorem evolves_readDeploymentBytes (resource : String) (bytes : ByteArray) (survey : Survey) :
    survey.app.Evolves
      (survey.afterRead (Descriptor.Deployment.readBytes resource bytes survey)).app := by
  unfold Descriptor.Deployment.readBytes
  cases Descriptor.openSource resource Descriptor.Deployment.roots bytes with
  | error error => exact Application.Evolves.refl survey.app
  | ok source =>
      simp only [Survey.afterRead, Descriptor.Deployment.readRoot_app]
      exact Descriptor.Content.evolves_install
        (Descriptor.Deployment.contentOf_regular source.document.root) survey.app

theorem evolves_readActionsBytes (owner modulePrefix resource : String) (bytes : ByteArray)
    (survey : Survey) :
    survey.app.Evolves (survey.afterRead
      (Descriptor.ActionConfig.readBytes owner modulePrefix resource bytes survey)).app := by
  unfold Descriptor.ActionConfig.readBytes
  cases Descriptor.openSource resource Descriptor.ActionConfig.roots bytes with
  | error error => exact Application.Evolves.refl survey.app
  | ok source =>
      by_cases owned : survey.app.contains owner = true
      · simp only [if_pos owned, Survey.afterRead, Descriptor.ActionConfig.readRoot_app]
        exact Application.evolves_register survey.app
          (Descriptor.ActionConfig.upgradeOf_distinct owner modulePrefix source.document.root)
      · simp only [if_neg owned]
        exact Application.Evolves.refl survey.app

theorem evolves_perform (survey : Survey) (operation : Operation) :
    survey.app.Evolves (perform survey operation).app := by
  cases operation with
  | register component built =>
      exact Application.evolves_register survey.app built.distinctPaths
  | enrich className addition => exact Application.evolves_add survey.app className addition
  | enrichNamed name addition =>
      simp only [perform, Survey.update]
      cases survey.app.named? name with
      | none => exact Application.Evolves.refl survey.app
      | some named => exact Application.evolves_add survey.app named.className addition
  | setDisplayName name => exact Application.evolves_setDisplayName survey.app name
  | addContextParam name value => exact Application.evolves_addContextParam survey.app name value
  | addInjection injection => exact Application.evolves_addInjection survey.app injection
  | readDeployment loader path =>
      simp only [perform, Descriptor.Deployment.read]
      cases loader.read path with
      | error error => exact Application.Evolves.refl survey.app
      | ok bytes => exact evolves_readDeploymentBytes path bytes survey
  | readDeploymentBytes resource bytes =>
      exact evolves_readDeploymentBytes resource bytes survey
  | readActions loader owner modulePrefix path =>
      simp only [perform, Descriptor.ActionConfig.read]
      cases loader.read path with
      | error error => exact Application.Evolves.refl survey.app
      | ok bytes => exact evolves_readActionsBytes owner modulePrefix path bytes survey
  | readActionsBytes owner modulePrefix resource bytes =>
      exact evolves_readActionsBytes owner modulePrefix resource bytes survey
  | sourcePass detector isBuiltin site => exact Registry.evolves_source isBuiltin site survey
  | configPass detector isBuiltin site => exact Registry.evolves_config isBuiltin site survey
  | run registry isBuiltin strict site =>
      exact Registry.evolves_run isBuiltin strict site survey

theorem evolves_performAll (operations : List Operation) (survey : Survey) :
    survey.app.Evolves (performAll operations survey).app :=
  Application.evolves_foldl Survey.app operations
    (fun operation _ survey => evolves_perform survey operation) survey

/-- Whatever is done, nothing that was known about an application is lost, distinct paths stay
distinct, and all that can be reached from nothing is well formed. -/
theorem model_only_grows (operations : List Operation) :
    (∀ before : Survey, before.app.Grows (performAll operations before).app ∧
      (before.app.WellFormed → (performAll operations before).app.WellFormed)) ∧
    (performAll operations {}).app.WellFormed := by
  refine ⟨fun before => ?_, ?_⟩
  · obtain ⟨grows, wellFormed⟩ := evolves_performAll operations before
    exact ⟨grows, wellFormed⟩
  · exact (evolves_performAll operations {}).wellFormed Application.wellFormed_empty

/-- A class that is declared as a servlet and then as a filter, before a read that fails. -/
theorem model_only_grows_after_conflict :
    (performAll [declare "C" .servlet] {}).app.WellFormed ∧
      (performAll [declare "C" .servlet] {}).app.Grows
        (performAll [declare "C" .filter, .readDeploymentBytes "web.xml" ByteArray.empty]
          (performAll [declare "C" .servlet] {})).app ∧
      (performAll [declare "C" .filter, .readDeploymentBytes "web.xml" ByteArray.empty]
        (performAll [declare "C" .servlet] {})).app.WellFormed := by
  have reached := (model_only_grows [declare "C" .servlet]).2
  obtain ⟨grows, wellFormed⟩ :=
    (model_only_grows [declare "C" .filter, .readDeploymentBytes "web.xml" ByteArray.empty]).1
      (performAll [declare "C" .servlet] {})
  exact ⟨reached, grows, wellFormed reached⟩

end Operation

end ContainerReplay
