import ContainerReplay.Proofs.ActionOwnership

/-!
# What a unit allocates

The classes of the objects that a unit allocates, in order, and from them the classes that a driver
instantiates: those that a component stands for, and the stand-ins that surround it.
-/

set_option autoImplicit false

namespace ContainerReplay

def Statement.allocated? : Statement → Option String
  | allocate _ className => some className
  | invoke _ _ _ _ _ => none
  | store _ _ _ => none

/-- The classes of the objects that statements allocate, in order. -/
def allocatedClasses (statements : List Statement) : List String :=
  statements.filterMap Statement.allocated?

/-- Some unit of the driver allocates an object of the class. -/
def Driver.Instantiates (driver : Driver) (className : String) : Prop :=
  ∃ unit ∈ driver.units, className ∈ allocatedClasses unit.statements

/-! ## Steps of a draft -/

namespace Draft

def classes (draft : Draft) : List String :=
  allocatedClasses draft.statements

@[simp] theorem classes_empty : ({} : Draft).classes = [] := rfl

@[simp] theorem classes_allocate (draft : Draft) (className : String) :
    (draft.allocate className).classes = draft.classes ++ [className] := by
  simp [classes, allocatedClasses, allocate, define, Statement.allocated?]

@[simp] theorem classes_invoke (draft : Draft) (receiver owner method : String)
    (arguments : List Value) :
    (draft.invoke receiver owner method arguments).classes = draft.classes := by
  simp [classes, allocatedClasses, invoke, write, Statement.allocated?]

@[simp] theorem classes_invokeInto (draft : Draft) (receiver owner method : String)
    (arguments : List Value) :
    (draft.invokeInto receiver owner method arguments).classes = draft.classes := by
  simp [classes, allocatedClasses, invokeInto, define, Statement.allocated?]

@[simp] theorem classes_store (draft : Draft) (receiver field : String) (value : Value) :
    (draft.store receiver field value).classes = draft.classes := by
  simp [classes, allocatedClasses, store, write, Statement.allocated?]

/-- Steps that each allocate what belongs to their item allocate it item by item. -/
theorem classes_foldl {α : Type} {step : Draft → α → Draft} {added : α → List String}
    (steps : ∀ draft item, (step draft item).classes = draft.classes ++ added item)
    (items : List α) (draft : Draft) :
    (items.foldl step draft).classes = draft.classes ++ items.flatMap added := by
  induction items generalizing draft with
  | nil => simp
  | cons item rest ih => rw [List.foldl_cons, ih, steps, List.flatMap_cons, List.append_assoc]

theorem classes_foldl_silent {α : Type} {step : Draft → α → Draft}
    (steps : ∀ draft item, (step draft item).classes = draft.classes)
    (items : List α) (draft : Draft) : (items.foldl step draft).classes = draft.classes := by
  induction items generalizing draft with
  | nil => rfl
  | cons item rest ih => rw [List.foldl_cons, ih, steps]

end Draft

namespace Synthesis

@[simp] theorem classes_allocateInjected (app : Application) (className : String) (draft : Draft) :
    (allocateInjected app className draft).classes = draft.classes ++ [className] := by
  rw [allocateInjected, storeInjections,
    Draft.classes_foldl_silent fun draft injection => draft.classes_store _ _ _]
  exact draft.classes_allocate className

@[simp] theorem classes_initCall (interface receiver configClass : String) (component : Component)
    (draft : Draft) :
    (initCall interface receiver configClass component draft).classes =
      draft.classes ++ [configClass] := by
  rw [initCall, Draft.classes_invoke, configuration, addInitParameters,
    Draft.classes_foldl_silent fun draft parameter => draft.classes_invoke _ _ _ _]
  exact draft.classes_allocate configClass

def exchangeClasses : List String :=
  [Driver.synthetic "HttpServletRequest", Driver.synthetic "HttpServletResponse"]

@[simp] theorem classes_exchange (path : Option String) (draft : Draft) :
    (exchange path draft).classes = draft.classes ++ exchangeClasses := by
  cases path with
  | none => simp [exchange, exchangeClasses]
  | some path => simp [exchange, exchangeClasses]

@[simp] theorem classes_serviceCall (interface servlet : String) (draft : Draft)
    (path : Option String) :
    (serviceCall interface servlet draft path).classes = draft.classes ++ exchangeClasses := by
  simp [serviceCall]

def filterCallClasses : List String :=
  exchangeClasses ++ [Driver.synthetic "FilterChain"]

@[simp] theorem classes_filterCall (interface filter : String) (draft : Draft)
    (target : FilterTarget) :
    (filterCall interface filter draft target).classes = draft.classes ++ filterCallClasses := by
  cases target <;> simp [filterCall, filterChain, filterCallClasses]

@[simp] theorem classes_notify (package : Namespace) (listener : String) (draft : Draft)
    (callback : ListenerCallback) :
    (notify package listener draft callback).classes =
      draft.classes ++ [package.qualify callback.event] := by
  simp [notify]

@[simp] theorem classes_mappingObject (mapping : ActionMapping) (draft : Draft) :
    (mappingObject mapping draft).classes = draft.classes ++ [actionMappingClass] := by
  have silent : ∀ (target method : String) (value : Option String) (draft : Draft),
      (setMappingText? target method value draft).classes = draft.classes := by
    intro target method value draft
    cases value <;> simp [setMappingText?, setMappingText]
  simp [mappingObject, silent, setMappingText]

@[simp] theorem classes_addForwardObject (mapping : String) (draft : Draft) (forward : Forward) :
    (addForwardObject mapping draft forward).classes = draft.classes ++ [actionForwardClass] := by
  cases redirect : forward.redirect <;> simp [addForwardObject, redirect]

@[simp] theorem classes_formObject (form : Option String) (draft : Draft) :
    (formObject form draft).classes = draft.classes ++ form.toList := by
  cases form <;> simp [formObject]

/-! ## Whole units -/

theorem classes_servletDraft (scene : Scene) (component : Component) :
    (servletDraft scene component).classes =
      component.className :: Driver.synthetic "ServletConfig" ::
        (orNone (component.urlPatterns.toList.map some) none).flatMap fun _ => exchangeClasses := by
  simp only [servletDraft, Draft.classes_invoke, Draft.classes_foldl (classes_serviceCall _ _)]
  simp

theorem classes_filterDraft (scene : Scene) (component : Component) :
    (filterDraft scene component).classes =
      component.className :: Driver.synthetic "FilterConfig" ::
        (filterTargets component).flatMap fun _ => filterCallClasses := by
  simp only [filterDraft, Draft.classes_invoke, Draft.classes_foldl (classes_filterCall _ _)]
  simp

theorem classes_listenerDraft (scene : Scene) (component : Component) :
    (listenerDraft scene component).classes =
      component.className ::
        (callbacksOf scene.classes (scene.classes.namespaceFor component.className)
          component.className).map fun callback =>
            (scene.classes.namespaceFor component.className).qualify callback.event := by
  simp only [listenerDraft, Draft.classes_foldl (classes_notify _ _)]
  simp [List.map_eq_flatMap]

theorem classes_actionDraft (scene : Scene) (mapping : ActionMapping) :
    (actionDraft scene mapping).classes =
      mapping.handlerClass :: actionMappingClass ::
        (mapping.forwards.map fun _ => actionForwardClass) ++
          (loadableForm? scene.classes mapping).toList ++ exchangeClasses := by
  simp only [actionDraft, Draft.classes_invokeInto, classes_exchange, classes_formObject,
    Draft.classes_foldl (classes_addForwardObject _)]
  simp [List.map_eq_flatMap]

/-! ## Components -/

/-- The mappings of a controller that have a unit. -/
def replayedMappings (classes : ClassIndex) (component : Component) : List ActionMapping :=
  component.actionMappings.filter fun mapping => classes.resolves mapping.handlerClass

/-- The classes of the application that the units of a component allocate. -/
def instancesOf (classes : ClassIndex) (component : Component) : List String :=
  match component.kind with
  | .servlet => [component.className]
  | .filter => [component.className]
  | .listener => [component.className]
  | .actionServlet =>
      (replayedMappings classes component).flatMap fun mapping =>
        mapping.handlerClass :: (loadableForm? classes mapping).toList

/-- The stand-ins that the units of a component allocate around it. -/
def standIns (classes : ClassIndex) (component : Component) : List String :=
  match component.kind with
  | .servlet => Driver.synthetic "ServletConfig" :: exchangeClasses
  | .filter => Driver.synthetic "FilterConfig" :: filterCallClasses
  | .listener =>
      let package := classes.namespaceFor component.className
      (callbacksOf classes package component.className).map fun callback =>
        package.qualify callback.event
  | .actionServlet =>
      (replayedMappings classes component).flatMap fun mapping =>
        actionMappingClass :: (mapping.forwards.map fun _ => actionForwardClass) ++ exchangeClasses

theorem orNone_ne_nil {α : Type} (targets : List α) (missing : α) : orNone targets missing ≠ [] := by
  cases targets <;> simp [orNone]

theorem mem_flatMap_const {α : Type} {items : List α} (some : items ≠ []) (added : List String)
    (className : String) : className ∈ (items.flatMap fun _ => added) ↔ className ∈ added := by
  obtain ⟨first, member⟩ := List.exists_mem_of_ne_nil items some
  rw [List.mem_flatMap]
  constructor
  · rintro ⟨_, _, listed⟩
    exact listed
  · intro listed
    exact ⟨first, member, listed⟩

theorem units_of_kind (scene : Scene) (component : Component) :
    (replayComponent (.ofList builtinTemplates) scene component).units =
      match component.kind with
      | .servlet => [unitOf component servletTemplateId (servletDraft scene component)]
      | .filter => [unitOf component filterTemplateId (filterDraft scene component)]
      | .listener => [unitOf component listenerTemplateId (listenerDraft scene component)]
      | .actionServlet => (replayActions scene component).units := by
  unfold replayComponent
  rw [TemplateSet.get?_ofList]
  cases component.kind <;> rfl

theorem mem_replayActions_units (scene : Scene) (component : Component) (unit : DriverUnit) :
    unit ∈ (replayActions scene component).units ↔
      ∃ mapping ∈ replayedMappings scene.classes component,
        unit = actionUnit scene component mapping := by
  have units : (replayActions scene component).units =
      component.actionMappings.flatMap fun mapping =>
        (replayMapping scene component mapping).units := by
    unfold replayActions
    cases component.actionMappings <;> rfl
  rw [units, List.mem_flatMap]
  constructor
  · rintro ⟨mapping, listed, written⟩
    cases resolved : scene.classes.resolves mapping.handlerClass with
    | false =>
        rw [replayMapping_of_unresolved resolved] at written
        cases written
    | true =>
        rw [replayMapping_of_resolved resolved] at written
        exact ⟨mapping, List.mem_filter.mpr ⟨listed, resolved⟩, List.mem_singleton.mp written⟩
  · rintro ⟨mapping, replayed, rfl⟩
    obtain ⟨listed, resolved⟩ := List.mem_filter.mp replayed
    refine ⟨mapping, listed, ?_⟩
    rw [replayMapping_of_resolved resolved]
    exact List.mem_singleton_self _

theorem action_allocates_iff (scene : Scene) (component : Component) (mapping : ActionMapping)
    (className : String) :
    className ∈ allocatedClasses (actionUnit scene component mapping).statements ↔
      className ∈ mapping.handlerClass :: (loadableForm? scene.classes mapping).toList ∨
        className ∈ actionMappingClass :: (mapping.forwards.map fun _ => actionForwardClass) ++
          exchangeClasses := by
  change className ∈ (actionDraft scene mapping).classes ↔ _
  simp only [classes_actionDraft, List.mem_append, List.mem_cons]
  tauto

/-- The units of a component allocate its own classes and its stand-ins, and nothing else. -/
theorem component_allocates_iff (scene : Scene) (component : Component) (className : String) :
    (∃ unit ∈ (replayComponent (.ofList builtinTemplates) scene component).units,
        className ∈ allocatedClasses unit.statements) ↔
      className ∈ instancesOf scene.classes component ∨
        className ∈ standIns scene.classes component := by
  have single : ∀ (id : String) (draft : Draft),
      (∃ unit ∈ [unitOf component id draft], className ∈ allocatedClasses unit.statements) ↔
        className ∈ draft.classes := by
    intro id draft
    simp [unitOf, Draft.classes]
  -- a component answers at least one call, so that no stand-in of a call is left out
  rw [units_of_kind]
  unfold instancesOf standIns
  cases component.kind with
  | servlet =>
      refine (single _ _).trans ?_
      rw [classes_servletDraft, List.mem_cons, List.mem_cons,
        mem_flatMap_const (orNone_ne_nil _ _), List.mem_singleton, List.mem_cons]
  | filter =>
      have targets : filterTargets component ≠ [] := orNone_ne_nil _ _
      refine (single _ _).trans ?_
      rw [classes_filterDraft, List.mem_cons, List.mem_cons, mem_flatMap_const targets,
        List.mem_singleton, List.mem_cons]
  | listener =>
      refine (single _ _).trans ?_
      rw [classes_listenerDraft, List.mem_cons, List.mem_singleton]
  | actionServlet =>
      have ofMapping mapping := action_allocates_iff scene component mapping className
      simp only [mem_replayActions_units, List.mem_flatMap]
      constructor
      · rintro ⟨unit, ⟨mapping, replayed, rfl⟩, allocated⟩
        rcases (ofMapping mapping).mp allocated with own | around
        · exact Or.inl ⟨mapping, replayed, own⟩
        · exact Or.inr ⟨mapping, replayed, around⟩
      · rintro (⟨mapping, replayed, own⟩ | ⟨mapping, replayed, around⟩)
        · exact ⟨_, ⟨mapping, replayed, rfl⟩, (ofMapping mapping).mpr (Or.inl own)⟩
        · exact ⟨_, ⟨mapping, replayed, rfl⟩, (ofMapping mapping).mpr (Or.inr around)⟩

/-- A driver instantiates the own classes and the stand-ins of the components, and nothing else. -/
theorem driver_instantiates_iff (scene : Scene) (driverClass className : String) :
    (Driver.mk driverClass (synthesize (.ofList builtinTemplates) scene).units).Instantiates
        className ↔
      ∃ component ∈ scene.app.componentList,
        className ∈ instancesOf scene.classes component ∨
          className ∈ standIns scene.classes component := by
  have ordered := fun component =>
    (Component.inContainerOrder_perm scene.app.componentList).mem_iff (a := component)
  constructor
  · rintro ⟨unit, written, allocated⟩
    obtain ⟨component, member, ofComponent⟩ := List.mem_flatMap.mp written
    exact ⟨component, (ordered component).mp member,
      (component_allocates_iff scene component className).mp ⟨unit, ofComponent, allocated⟩⟩
  · rintro ⟨component, member, own⟩
    obtain ⟨unit, ofComponent, allocated⟩ :=
      (component_allocates_iff scene component className).mpr own
    exact ⟨unit, List.mem_flatMap.mpr ⟨component, (ordered component).mpr member, ofComponent⟩,
      allocated⟩

/-! ## Names of stand-ins -/

theorem isClassName_exchange : ∀ className ∈ exchangeClasses, isClassName className = true := by
  decide +kernel

theorem isClassName_filterCall : ∀ className ∈ filterCallClasses, isClassName className = true := by
  decide +kernel

theorem isClassName_event (package : Namespace) :
    ∀ callback ∈ ServletApi.listenerCallbacks,
      isClassName (package.qualify callback.event) = true := by
  cases package <;> decide +kernel

theorem mem_callbacksOf {classes : ClassIndex} {package : Namespace} {className : String}
    {callback : ListenerCallback} (member : callback ∈ callbacksOf classes package className) :
    callback ∈ ServletApi.listenerCallbacks := by
  unfold callbacksOf orNone at member
  split at member
  · rw [List.mem_singleton.mp member]
    exact List.mem_cons_self
  · exact (List.mem_filter.mp member).1

theorem isClassName_standIns (classes : ClassIndex) (component : Component) :
    ∀ className ∈ standIns classes component, isClassName className = true := by
  intro className member
  unfold standIns at member
  cases kind : component.kind with
  | servlet =>
      rw [kind] at member
      rcases List.mem_cons.mp member with rfl | call
      · decide +kernel
      · exact isClassName_exchange className call
  | filter =>
      rw [kind] at member
      rcases List.mem_cons.mp member with rfl | call
      · decide +kernel
      · exact isClassName_filterCall className call
  | listener =>
      rw [kind] at member
      obtain ⟨callback, listed, rfl⟩ := List.mem_map.mp member
      exact isClassName_event _ callback (mem_callbacksOf listed)
  | actionServlet =>
      rw [kind] at member
      obtain ⟨mapping, _, around⟩ := List.mem_flatMap.mp member
      rcases List.mem_append.mp around with object | call
      · rcases List.mem_cons.mp object with rfl | forward
        · decide +kernel
        · obtain ⟨_, _, rfl⟩ := List.mem_map.mp forward
          decide +kernel
      · exact isClassName_exchange className call

end Synthesis

end ContainerReplay
