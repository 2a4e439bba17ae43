import ContainerReplay.Proofs.ObjectHistories

/-!
# The protocol between a container and its components

A container allocates a servlet or a filter, injects its resources, initializes it with its parameters,
calls it once for each thing that it answers, and destroys it.  The units that replay servlets and
filters keep this protocol: what happens to the instance, to its configuration and to the objects of
each call is told by their histories.
-/

set_option autoImplicit false

namespace ContainerReplay

open Synthesis

/-! ## The protocol -/

/-- The pattern that a call is addressed to. -/
def Synthesis.FilterTarget.pattern? : FilterTarget → Option String
  | .pattern path => some path
  | .servlet _ => none
  | .anything => none

/-- The servlet that the call goes to behind a filter. -/
def Synthesis.FilterTarget.servletName? : FilterTarget → Option String
  | .pattern _ => none
  | .servlet name => some name
  | .anything => none

/-- The locals of the objects that one call passes; only a filter is passed a chain. -/
structure CallObjects where
  request : String
  response : String
  chain : Option String

namespace CallObjects

def locals (objects : CallObjects) : List String :=
  objects.request :: objects.response :: objects.chain.toList

def arguments (objects : CallObjects) : List Value :=
  objects.locals.map Value.localVar

end CallObjects

/-- What the protocols of servlets and filters differ in. -/
structure CallProtocol where
  interface : String
  configClass : String
  method : String
  /-- Whether a call passes a chain. -/
  chained : Bool

namespace CallProtocol

variable (protocol : CallProtocol) (object : String)

def initialization (config : String) : Statement :=
  .invoke none object protocol.interface "init" [.localVar config]

def call (objects : CallObjects) : Statement :=
  .invoke none object protocol.interface protocol.method objects.arguments

def destruction : Statement :=
  .invoke none object protocol.interface "destroy" []

/-- The statements that tell a configuration the parameters of a component, in the order of their
names. -/
def parameterCalls (component : Component) (config : String) : List Statement :=
  component.parameters.toList.map fun parameter =>
    .invoke none config protocol.configClass "addInitParameter"
      [.text parameter.1, .text parameter.2]

end CallProtocol

/-- The statements that tell a chain the servlet behind it. -/
def targeting (chain : String) (servletName : Option String) : List Statement :=
  servletName.toList.map fun name =>
    .invoke none chain (Driver.synthetic "FilterChain") "setTargetServlet" [.text name]

/-- The objects of a call are allocated for it, told what it is addressed to, and passed to it, and
nothing else happens to them. -/
structure Serves (protocol : CallProtocol) (statements : List Statement) (object : String)
    (target : FilterTarget) (objects : CallObjects) : Prop where
  request : history objects.request statements =
    .allocate objects.request (Driver.synthetic "HttpServletRequest") ::
      addressing objects.request target.pattern? ++ [protocol.call object objects]
  response : history objects.response statements =
    [.allocate objects.response (Driver.synthetic "HttpServletResponse"),
      protocol.call object objects]
  chained : objects.chain.isSome = protocol.chained
  chain : ∀ chain ∈ objects.chain, history chain statements =
    .allocate chain (Driver.synthetic "FilterChain") ::
      targeting chain target.servletName? ++ [protocol.call object objects]

/-- The life of an instance, from its allocation to its destruction. -/
structure LifeCycle (protocol : CallProtocol) (app : Application) (component : Component)
    (targets : List FilterTarget) (statements : List Statement) (object config : String)
    (calls : List CallObjects) : Prop where
  begins : .allocate object component.className ::
    injectionStores app component.className object <+: statements
  ends : statements.getLast? = some (protocol.destruction object)
  ofObject : history object statements =
    .allocate object component.className :: injectionStores app component.className object ++
      protocol.initialization object config :: calls.map (protocol.call object) ++
        [protocol.destruction object]
  ofConfig : history config statements =
    .allocate config protocol.configClass :: protocol.parameterCalls component config ++
      [protocol.initialization object config]
  served : List.Forall₂ (Serves protocol statements object)
    (if targets.isEmpty then [.anything] else targets) calls
  apart : (object :: config :: calls.flatMap CallObjects.locals).Nodup
  count : calls.length = max 1 targets.length

/-- The statements are the life of one instance of the component. -/
def KeepsProtocol (protocol : CallProtocol) (app : Application) (component : Component)
    (targets : List FilterTarget) (statements : List Statement) : Prop :=
  ∃ object config calls, LifeCycle protocol app component targets statements object config calls

/-! ## Calls -/

open Draft

variable {protocol : CallProtocol} {target : FilterTarget} {objects : CallObjects}

@[simp] theorem CallObjects.usedLocals_arguments (objects : CallObjects) :
    objects.arguments.flatMap Value.usedLocals = objects.locals := by
  simp [arguments, List.flatMap_map]

/-- Only the histories of its objects matter to a call. -/
theorem Serves.congr {object : String} {first second : List Statement}
    (same : ∀ name ∈ objects.locals, history name second = history name first)
    (serves : Serves protocol first object target objects) :
    Serves protocol second object target objects := by
  refine ⟨?_, ?_, serves.chained, fun chain member => ?_⟩
  · rw [same _ (by simp [CallObjects.locals]), serves.request]
  · rw [same _ (by simp [CallObjects.locals]), serves.response]
  · rw [same _ (by simp [CallObjects.locals, Option.mem_def.mp member]), serves.chain chain member]

/-- The calls of an instance, one for each target. -/
def CallProtocol.calls (protocol : CallProtocol) (object : String) :
    Loop FilterTarget CallObjects where
  object := object
  locals := CallObjects.locals
  statement := protocol.call object
  Outcome := fun target objects statements => Serves protocol statements object target objects
  outcome_congr := Serves.congr

/-- The objects of a call are at hand: allocated, told what the call is addressed to, and untouched
otherwise. -/
structure Prepares (before after : Draft) (target : FilterTarget) (objects : CallObjects) :
    Prop where
  holds : after.Holds (objects.locals ++ [localName 0])
  spares : before.Spares after []
  new : before.Introduces after objects.locals
  request : after.historyOf objects.request =
    .allocate objects.request (Driver.synthetic "HttpServletRequest") ::
      addressing objects.request target.pattern?
  response : after.historyOf objects.response =
    [.allocate objects.response (Driver.synthetic "HttpServletResponse")]
  chain : ∀ chain ∈ objects.chain, after.historyOf chain =
    .allocate chain (Driver.synthetic "FilterChain") :: targeting chain target.servletName?

/-- A call of the instance with prepared objects serves one target. -/
theorem Prepares.serves {before after : Draft} (holds : before.Holds [localName 0])
    (prepares : Prepares before after target objects)
    (chained : objects.chain.isSome = protocol.chained) :
    (protocol.calls (localName 0)).Runs before
      (after.invoke (localName 0) protocol.interface protocol.method objects.arguments)
      [target] [objects] := by
  have about : ∀ name ∈ objects.arguments.flatMap Value.usedLocals,
      name ∈ objects.locals ++ [localName 0] := by
    intro name used
    rw [CallObjects.usedLocals_arguments] at used
    exact List.mem_append_left _ used
  have object : localName 0 ∈ objects.locals ++ [localName 0] :=
    List.mem_append_right _ List.mem_cons_self
  -- the call is the last thing that happens to the instance and to its own objects
  have history (name : String) (member : name ∈ localName 0 :: objects.locals) :
      (after.invoke (localName 0) protocol.interface protocol.method
        objects.arguments).historyOf name =
          after.historyOf name ++ [protocol.call (localName 0) objects] := by
    rw [historyOf_invoke, CallObjects.usedLocals_arguments, if_pos member]
    rfl
  constructor
  case spares =>
    have prepared := prepares.spares.mono (List.nil_subset (objects.locals ++ [localName 0]))
    exact (prepared.trans (spares_invoke _ object about _ _)).forget
      (prepares.new.later (Nat.le_refl _))
  case ofObject =>
    rw [CallProtocol.calls, history _ List.mem_cons_self,
      prepares.spares.historyOf holds List.mem_cons_self List.not_mem_nil]
    rfl
  case new =>
    rw [List.flatMap_singleton]
    exact prepares.new.later (Nat.le_refl _)
  case outcomes =>
    refine .cons ⟨?_, ?_, chained, fun chain member => ?_⟩ .nil
    · rw [← Draft.historyOf, history _ (by simp [CallObjects.locals]), prepares.request]
    · rw [← Draft.historyOf, history _ (by simp [CallObjects.locals]), prepares.response]
      rfl
    · rw [← Draft.historyOf,
        history _ (by simp [CallObjects.locals, Option.mem_def.mp member]),
        prepares.chain chain member]

namespace Synthesis

theorem filterChain_locals (target : FilterTarget) (draft : Draft) :
    (filterChain target draft).locals = draft.locals + 1 := by
  cases target <;> rfl

theorem spares_filterChain (target : FilterTarget) (draft : Draft) (objects : List String) :
    draft.Spares (filterChain target draft) objects := by
  have allocated : draft.Spares (draft.allocate (Driver.synthetic "FilterChain"))
      ([draft.next] ++ objects) := draft.spares_allocate _
  refine Spares.forget ?_ (draft.introduces_next (by rw [filterChain_locals]; omega))
  cases target with
  | pattern path => exact allocated
  | servlet name =>
      exact allocated.trans (spares_invoke _ List.mem_cons_self (by simp) _ _)
  | anything => exact allocated

theorem historyOf_chain (target : FilterTarget) {draft : Draft} (sound : draft.Sound) :
    (filterChain target draft).historyOf draft.next =
      .allocate draft.next (Driver.synthetic "FilterChain") ::
        targeting draft.next target.servletName? := by
  have new := sound.historyOf_new (Nat.le_refl draft.locals)
  cases target <;> simp [filterChain, targeting, FilterTarget.servletName?, next, new]

theorem prepares_exchange (target : FilterTarget) {draft : Draft}
    (holds : draft.Holds [localName 0]) :
    Prepares draft (exchange target.path? draft) target
      ⟨draft.next, localName (draft.locals + 1), none⟩ := by
  have exchanged := holds_exchange holds target.path?
  constructor
  case holds =>
    exact exchanged.mono (by simp [CallObjects.locals])
  case spares => exact spares_exchange target.path? draft []
  case new => exact introduces_exchange target.path? draft
  case request =>
    have address : target.path? = target.pattern? := by cases target <;> rfl
    rw [historyOf_request target.path? holds.sound, address]
  case response => exact historyOf_response target.path? holds.sound
  case chain => simp

/-- A filter is passed a chain besides. -/
theorem prepares_filterChain {before after : Draft} {request response : String}
    (prepares : Prepares before after target ⟨request, response, none⟩) :
    Prepares before (filterChain target after) target ⟨request, response, some after.next⟩ := by
  have chained := holds_filterChain prepares.holds target
  have spares := spares_filterChain target after []
  have locals : CallObjects.locals ⟨request, response, some after.next⟩ =
      CallObjects.locals ⟨request, response, none⟩ ++ [after.next] := rfl
  have last : after.Introduces (filterChain target after) [after.next] :=
    after.introduces_next (by rw [filterChain_locals]; omega)
  have still : ∀ name ∈ CallObjects.locals ⟨request, response, none⟩,
      (filterChain target after).historyOf name = after.historyOf name := fun name member =>
    spares.historyOf prepares.holds (List.mem_append_left _ member) List.not_mem_nil
  constructor
  case holds =>
    exact chained.mono (by simp [CallObjects.locals])
  case spares => exact prepares.spares.trans spares
  case new =>
    rw [locals]
    exact prepares.new.append last
  case request => rw [still _ (by simp [CallObjects.locals]), prepares.request]
  case response => rw [still _ (by simp [CallObjects.locals]), prepares.response]
  case chain =>
    intro chain member
    cases Option.mem_some.mp member
    exact historyOf_chain target prepares.holds.sound

theorem serviceCall_serves (interface configClass : String) (target : FilterTarget)
    {draft : Draft} (holds : draft.Holds [localName 0]) :
    ∃ objects, (CallProtocol.calls ⟨interface, configClass, "service", false⟩ (localName 0)).Runs
      draft (serviceCall interface (localName 0) draft target.path?) [target] [objects] :=
  ⟨_, (prepares_exchange target holds).serves holds rfl⟩

theorem filterCall_serves (interface configClass : String) (target : FilterTarget)
    {draft : Draft} (holds : draft.Holds [localName 0]) :
    ∃ objects, (CallProtocol.calls ⟨interface, configClass, "doFilter", true⟩ (localName 0)).Runs
      draft (filterCall interface (localName 0) draft target) [target] [objects] :=
  ⟨_, (prepares_filterChain (prepares_exchange target holds)).serves holds rfl⟩

/-! ## The whole life -/

theorem initCall_eq (protocol : CallProtocol) (object : String) (component : Component)
    (draft : Draft) :
    initCall protocol.interface object protocol.configClass component draft =
      ⟨draft.statements ++
        (.allocate draft.next protocol.configClass ::
          protocol.parameterCalls component draft.next ++
            [protocol.initialization object draft.next]), draft.locals + 1⟩ := by
  rw [initCall, configuration, addInitParameters]
  unfold invoke
  rw [statements_foldl_write]
  simp [CallProtocol.parameterCalls, CallProtocol.initialization, allocate, define, write]

/-- An instance whose resources are injected and that was initialized. -/
def initialized (protocol : CallProtocol) (app : Application) (component : Component) : Draft :=
  initCall protocol.interface (localName 0) protocol.configClass component
    (allocateInjected app component.className {})

variable (protocol : CallProtocol) (app : Application) (component : Component)

theorem holds_initialized : (initialized protocol app component).Holds [localName 0] :=
  holds_initCall (holds_allocateInjected holds_empty app component.className) List.mem_cons_self
    protocol.interface protocol.configClass component

theorem statements_initialized :
    (initialized protocol app component).statements =
      .allocate (localName 0) component.className ::
        injectionStores app component.className (localName 0) ++
          (.allocate (localName 1) protocol.configClass ::
            protocol.parameterCalls component (localName 1) ++
              [protocol.initialization (localName 0) (localName 1)]) := by
  rw [initialized, initCall_eq, allocateInjected_eq]
  rfl

@[simp] theorem history_parameterCalls (config name : String) :
    history name (protocol.parameterCalls component config) =
      if name = config then protocol.parameterCalls component config else [] := by
  refine history_of_single (fun statement member => ?_) name
  obtain ⟨parameter, -, rfl⟩ := List.mem_map.mp member
  rfl

theorem historyOf_initialized_object :
    (initialized protocol app component).historyOf (localName 0) =
      .allocate (localName 0) component.className ::
        injectionStores app component.className (localName 0) ++
          [protocol.initialization (localName 0) (localName 1)] := by
  rw [historyOf, statements_initialized]
  simp [history_append, history_cons, Statement.mentioned, Statement.defined?,
    Statement.usedLocals, CallProtocol.initialization]

theorem historyOf_initialized_config :
    (initialized protocol app component).historyOf (localName 1) =
      .allocate (localName 1) protocol.configClass ::
        protocol.parameterCalls component (localName 1) ++
          [protocol.initialization (localName 0) (localName 1)] := by
  rw [historyOf, statements_initialized]
  simp [history_append, history_cons, Statement.mentioned, Statement.defined?,
    Statement.usedLocals, CallProtocol.initialization]

/-- An instance that is initialized, called for the targets, and destroyed keeps the protocol. -/
theorem keepsProtocol_of_calls {targets : List FilterTarget} {called : Draft}
    {calls : List CallObjects}
    (runs : (protocol.calls (localName 0)).Runs (initialized protocol app component) called
      (if targets.isEmpty then [.anything] else targets) calls) :
    KeepsProtocol protocol app component targets
      (called.invoke (localName 0) protocol.interface "destroy" []).statements := by
  let destroyed := called.invoke (localName 0) protocol.interface "destroy" []
  have two : (initialized protocol app component).locals = 2 := by
    rw [initialized, initCall_eq, allocateInjected_eq]
  -- after its call an object of the call is out of reach, so that the destruction changes nothing
  have destruction : called.Spares destroyed [localName 0] :=
    called.spares_invoke List.mem_cons_self (by simp) _ _
  have spares : (initialized protocol app component).Spares destroyed [localName 0] :=
    runs.spares.trans destruction
  refine ⟨localName 0, localName 1, calls, ?_⟩
  constructor
  case begins =>
    refine List.IsPrefix.trans ?_ spares.written
    rw [statements_initialized]
    exact List.prefix_append _ _
  case ends => exact List.getLast?_concat
  case ofObject =>
    have calledFor := runs.ofObject
    simp only [CallProtocol.calls, historyOf_initialized_object] at calledFor
    rw [← Draft.historyOf, historyOf_invoke, if_pos List.mem_cons_self, calledFor]
    simp [CallProtocol.destruction]
  case ofConfig =>
    rw [← Draft.historyOf, spares.history 1 (by omega) (by simp)]
    exact historyOf_initialized_config protocol app component
  case served => exact runs.outcomes_later (holds_initialized protocol app component) destruction
  case apart =>
    have older (number : Nat) (early : number < 2) :
        localName number ∉ calls.flatMap CallObjects.locals :=
      runs.new.not_older (two ▸ early)
    have apart : (calls.flatMap CallObjects.locals).Nodup := runs.new.apart
    simp [apart, older 0, older 1]
  case count =>
    rw [← runs.outcomes.length_eq]
    cases targets <;> simp

theorem orNone_eq (targets : List FilterTarget) :
    orNone targets .anything = if targets.isEmpty then [.anything] else targets := by
  cases targets <;> rfl

/-- The URL patterns of a component, in order. -/
def patternTargets (component : Component) : List FilterTarget :=
  component.urlPatterns.toList.map .pattern

/-- The names of the servlets behind a filter, in order. -/
def servletTargets (component : Component) : List FilterTarget :=
  component.servletNames.toList.map .servlet

def servletProtocol (scene : Scene) (component : Component) : CallProtocol where
  interface := (scene.classes.namespaceFor component.className).qualify
    ServletApi.servletInterface
  configClass := Driver.synthetic "ServletConfig"
  method := "service"
  chained := false

def filterProtocol (scene : Scene) (component : Component) : CallProtocol where
  interface := (scene.classes.namespaceFor component.className).qualify
    ServletApi.filterInterface
  configClass := Driver.synthetic "FilterConfig"
  method := "doFilter"
  chained := true

theorem servletDraft_keeps (scene : Scene) (component : Component) :
    KeepsProtocol (servletProtocol scene component) scene.app component
      (patternTargets component) (servletDraft scene component).statements := by
  let protocol := servletProtocol scene component
  obtain ⟨-, calls, runs⟩ := Loop.runs_foldl List.mem_cons_self
    (fun draft target holds =>
      ⟨holds_serviceCall holds List.mem_cons_self protocol.interface target.path?,
        serviceCall_serves protocol.interface protocol.configClass target holds⟩)
    (if (patternTargets component).isEmpty then [.anything] else patternTargets component)
    (holds_initialized protocol scene.app component)
  have paths : orNone (component.urlPatterns.toList.map some) none =
      (if (patternTargets component).isEmpty then [.anything] else
        patternTargets component).map FilterTarget.path? := by
    rw [patternTargets]
    cases component.urlPatterns.toList <;> simp [orNone, FilterTarget.path?]
  have kept := keepsProtocol_of_calls protocol scene.app component runs
  rw [← List.foldl_map (f := FilterTarget.path?)] at kept
  rw [servletDraft, paths]
  exact kept

theorem filterDraft_keeps (scene : Scene) (component : Component) :
    KeepsProtocol (filterProtocol scene component) scene.app component
      (patternTargets component ++ servletTargets component)
      (filterDraft scene component).statements := by
  let protocol := filterProtocol scene component
  let targets := patternTargets component ++ servletTargets component
  obtain ⟨-, calls, runs⟩ := Loop.runs_foldl List.mem_cons_self
    (fun draft target holds =>
      ⟨holds_filterCall holds List.mem_cons_self protocol.interface target,
        filterCall_serves protocol.interface protocol.configClass target holds⟩)
    (if targets.isEmpty then [.anything] else targets)
    (holds_initialized protocol scene.app component)
  have same : filterTargets component = if targets.isEmpty then [.anything] else targets :=
    orNone_eq targets
  rw [filterDraft, same]
  exact keepsProtocol_of_calls protocol scene.app component runs

theorem units_keep_protocol (scene : Scene) (component : Component) :
    (∃ unit, (servletTemplate.instantiate scene component).units = [unit] ∧
      KeepsProtocol (servletProtocol scene component) scene.app component
        (patternTargets component) unit.statements) ∧
    ∃ unit, (filterTemplate.instantiate scene component).units = [unit] ∧
      KeepsProtocol (filterProtocol scene component) scene.app component
        (patternTargets component ++ servletTargets component) unit.statements :=
  ⟨⟨_, rfl, servletDraft_keeps scene component⟩, ⟨_, rfl, filterDraft_keeps scene component⟩⟩

end Synthesis

end ContainerReplay
