import ContainerReplay.Synthesis.Servlets

/-!
# What the unit of a servlet or a filter does

Writing a draft only ever appends statements.  From that it follows that a unit starts with the
allocation of its component, and that every path that the component answers is requested from it.
-/

set_option autoImplicit false

namespace ContainerReplay

namespace Draft

/-- A draft was written on: its statements stand at the beginning of the later ones. -/
def Extends (before after : Draft) : Prop :=
  before.statements <+: after.statements

theorem Extends.refl (draft : Draft) : draft.Extends draft :=
  List.prefix_rfl

theorem Extends.trans {first second third : Draft} (lower : first.Extends second)
    (upper : second.Extends third) : first.Extends third :=
  List.IsPrefix.trans lower upper

theorem extends_write (draft : Draft) (statement : Statement) :
    draft.Extends (draft.write statement) :=
  List.prefix_append _ _

theorem extends_define (draft : Draft) (statement : String → Statement) :
    draft.Extends (draft.define statement) :=
  List.prefix_append _ _

theorem extends_allocate (draft : Draft) (className : String) :
    draft.Extends (draft.allocate className) :=
  draft.extends_define _

theorem extends_invoke (draft : Draft) (receiver owner method : String)
    (arguments : List Value) : draft.Extends (draft.invoke receiver owner method arguments) :=
  draft.extends_write _

theorem extends_store (draft : Draft) (receiver field : String) (value : Value) :
    draft.Extends (draft.store receiver field value) :=
  draft.extends_write _

theorem extends_foldl {α : Type} {step : Draft → α → Draft}
    (steps : ∀ (draft : Draft) (item : α), draft.Extends (step draft item)) (items : List α)
    (draft : Draft) : draft.Extends (items.foldl step draft) := by
  induction items generalizing draft with
  | nil => exact Extends.refl draft
  | cons item rest ih => exact (steps draft item).trans (ih (step draft item))

/-- Every item of a fold has its step, between what was written before and what is written after. -/
theorem step_of_foldl {α : Type} {step : Draft → α → Draft}
    (steps : ∀ (draft : Draft) (item : α), draft.Extends (step draft item)) {items : List α}
    {item : α} (member : item ∈ items) (start : Draft) :
    ∃ draft, start.Extends draft ∧ (step draft item).Extends (items.foldl step start) := by
  induction items generalizing start with
  | nil => cases member
  | cons first rest ih =>
      rw [List.foldl_cons]
      rcases List.mem_cons.mp member with rfl | later
      · exact ⟨start, Extends.refl start, extends_foldl steps rest (step start item)⟩
      · obtain ⟨draft, before, after⟩ := ih later (step start first)
        exact ⟨draft, (steps start first).trans before, after⟩

end Draft

/-- A request on which a path was set before is the first argument of a call of an object. -/
def Dispatches (statements : List Statement) (object method path : String) : Prop :=
  ∃ (before between after : List Statement) (request interface : String) (others : List Value),
    statements = before ++
      .invoke none request (Driver.synthetic "HttpServletRequest") "setServletPath" [.text path] ::
        between ++ .invoke none object interface method (.localVar request :: others) :: after

theorem Dispatches.grown {statements later : List Statement} {object method path : String}
    (dispatched : Dispatches statements object method path) (written : statements <+: later) :
    Dispatches later object method path := by
  obtain ⟨before, between, after, request, interface, others, rfl⟩ := dispatched
  obtain ⟨rest, rfl⟩ := written
  exact ⟨before, between, after ++ rest, request, interface, others, by simp⟩

namespace Synthesis

/-! ## Steps that append -/

theorem extends_storeInjections (app : Application) (className receiver : String)
    (draft : Draft) : draft.Extends (storeInjections app className receiver draft) :=
  Draft.extends_foldl (fun draft _ => draft.extends_store _ _ _) _ draft

theorem extends_allocateInjected (app : Application) (className : String) (draft : Draft) :
    (draft.allocate className).Extends (allocateInjected app className draft) :=
  extends_storeInjections app className draft.next _

theorem extends_initCall (interface receiver configClass : String) (component : Component)
    (draft : Draft) : draft.Extends (initCall interface receiver configClass component draft) := by
  have configured : (draft.allocate configClass).Extends
      (configuration configClass component draft) :=
    Draft.extends_foldl (fun draft _ => draft.extends_invoke _ _ _ _) _ _
  exact ((draft.extends_allocate configClass).trans configured).trans
    (Draft.extends_invoke _ _ _ _ _)

theorem extends_exchange (path : Option String) (draft : Draft) :
    draft.Extends (exchange path draft) := by
  refine Draft.Extends.trans ?_ (Draft.extends_allocate _ _)
  cases path with
  | none => exact draft.extends_allocate _
  | some path => exact (draft.extends_allocate _).trans (Draft.extends_invoke _ _ _ _ _)

theorem extends_serviceCall (interface servlet : String) (draft : Draft)
    (path : Option String) : draft.Extends (serviceCall interface servlet draft path) :=
  (extends_exchange path draft).trans (Draft.extends_invoke _ _ _ _ _)

theorem extends_filterCall (interface filter : String) (draft : Draft) (target : FilterTarget) :
    draft.Extends (filterCall interface filter draft target) := by
  refine ((extends_exchange target.path? draft).trans ?_).trans (Draft.extends_invoke _ _ _ _ _)
  unfold filterChain
  cases target with
  | pattern path => exact Draft.extends_allocate _ _
  | servlet name => exact (Draft.extends_allocate _ _).trans (Draft.extends_invoke _ _ _ _ _)
  | anything => exact Draft.extends_allocate _ _

/-! ## Calls with a path -/

theorem serviceCall_dispatches (interface servlet path : String) (draft : Draft) :
    Dispatches (serviceCall interface servlet draft (some path)).statements servlet "service"
      path := by
  refine ⟨draft.statements ++
      [.allocate draft.next (Driver.synthetic "HttpServletRequest")],
    [.allocate (Draft.localName (draft.locals + 1)) (Driver.synthetic "HttpServletResponse")],
    [], draft.next, interface, [responseOf draft], ?_⟩
  simp [serviceCall, exchange, Draft.allocate, Draft.define, Draft.invoke, Draft.write, Draft.next,
    requestOf]

theorem filterCall_dispatches (interface filter path : String) (draft : Draft) :
    Dispatches (filterCall interface filter draft (.pattern path)).statements filter "doFilter"
      path := by
  refine ⟨draft.statements ++
      [.allocate draft.next (Driver.synthetic "HttpServletRequest")],
    [.allocate (Draft.localName (draft.locals + 1)) (Driver.synthetic "HttpServletResponse"),
      .allocate (Draft.localName (draft.locals + 2)) (Driver.synthetic "FilterChain")],
    [], draft.next, interface,
    [responseOf draft, .localVar (Draft.localName (draft.locals + 2))], ?_⟩
  simp [filterCall, filterChain, exchange, FilterTarget.path?, Draft.allocate, Draft.define,
    Draft.invoke, Draft.write, Draft.next, requestOf]

/-! ## Units -/

theorem mem_orNone {α : Type} {targets : List α} {target : α} (member : target ∈ targets)
    (missing : α) : target ∈ orNone targets missing := by
  unfold orNone
  cases targets with
  | nil => cases member
  | cons first rest => exact member

/-- The statements of a unit that replays the calls of a component: the component is allocated
first, and for each of its URL patterns there is a call with a request for it. -/
def ReplaysCalls (statements : List Statement) (component : Component) (method : String) : Prop :=
  ∃ (object : String) (rest : List Statement),
    statements = .allocate object component.className :: rest ∧
      ∀ pattern ∈ component.urlPatterns, Dispatches statements object method pattern

theorem statements_of_allocated {draft : Draft} {className : String}
    (written : (({} : Draft).allocate className).Extends draft) :
    ∃ rest, draft.statements = .allocate (Draft.localName 0) className :: rest := by
  obtain ⟨rest, same⟩ := written
  exact ⟨rest, same.symm⟩

theorem servletDraft_replays (scene : Scene) (component : Component) :
    ReplaysCalls (servletDraft scene component).statements component "service" := by
  let interface := (scene.classes.namespaceFor component.className).qualify
    ServletApi.servletInterface
  let ready := initCall interface (Draft.localName 0) (Driver.synthetic "ServletConfig") component
    (allocateInjected scene.app component.className {})
  let patterns := orNone (component.urlPatterns.toList.map some) none
  let called := patterns.foldl (serviceCall interface (Draft.localName 0)) ready
  have calls := extends_serviceCall interface (Draft.localName 0)
  have prepared : (({} : Draft).allocate component.className).Extends ready :=
    (extends_allocateInjected scene.app component.className {}).trans
      (extends_initCall _ _ _ component _)
  have finished : called.Extends (servletDraft scene component) := Draft.extends_invoke _ _ _ _ _
  obtain ⟨rest, statements⟩ := statements_of_allocated
    ((prepared.trans (Draft.extends_foldl calls patterns ready)).trans finished)
  refine ⟨Draft.localName 0, rest, statements, fun pattern member => ?_⟩
  -- the call is there after the step of its pattern, and nothing written is ever taken back
  have listed : some pattern ∈ patterns :=
    mem_orNone (List.mem_map_of_mem (Std.ExtTreeSet.mem_toList.mpr member)) none
  obtain ⟨draft, _, later⟩ := Draft.step_of_foldl calls listed ready
  exact (serviceCall_dispatches interface _ pattern draft).grown (later.trans finished)

theorem filterDraft_replays (scene : Scene) (component : Component) :
    ReplaysCalls (filterDraft scene component).statements component "doFilter" := by
  let interface := (scene.classes.namespaceFor component.className).qualify
    ServletApi.filterInterface
  let ready := initCall interface (Draft.localName 0) (Driver.synthetic "FilterConfig") component
    (allocateInjected scene.app component.className {})
  let called := (filterTargets component).foldl (filterCall interface (Draft.localName 0)) ready
  have calls := extends_filterCall interface (Draft.localName 0)
  have prepared : (({} : Draft).allocate component.className).Extends ready :=
    (extends_allocateInjected scene.app component.className {}).trans
      (extends_initCall _ _ _ component _)
  have finished : called.Extends (filterDraft scene component) := Draft.extends_invoke _ _ _ _ _
  obtain ⟨rest, statements⟩ := statements_of_allocated
    ((prepared.trans (Draft.extends_foldl calls (filterTargets component) ready)).trans finished)
  refine ⟨Draft.localName 0, rest, statements, fun pattern member => ?_⟩
  have listed : FilterTarget.pattern pattern ∈ filterTargets component :=
    mem_orNone (List.mem_append.mpr (Or.inl
      (List.mem_map_of_mem (Std.ExtTreeSet.mem_toList.mpr member)))) FilterTarget.anything
  obtain ⟨draft, _, later⟩ := Draft.step_of_foldl calls listed ready
  exact (filterCall_dispatches interface _ pattern draft).grown (later.trans finished)

end Synthesis

end ContainerReplay
