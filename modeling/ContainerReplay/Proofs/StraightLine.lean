import ContainerReplay.Proofs.DriverAccounting
import ContainerReplay.Proofs.UnitStatements

/-!
# Units are straight-line code

Every unit of a driver numbers its locals from zero on, defines each of them once, and uses a local
only after the statement that defines it.  The invariant is carried through the drafts of all built-in
templates: a step keeps it when the objects that the step works on are known.
-/

set_option autoImplicit false

namespace ContainerReplay

@[simp] def Value.usedLocals : Value → List String
  | localVar name => [name]
  | text _ => []
  | integer _ => []
  | truth _ => []
  | null => []
  | resource _ => []

/-- The receiver of a statement and the locals among its arguments or its value. -/
def Statement.usedLocals : Statement → List String
  | allocate _ _ => []
  | invoke _ receiver _ _ arguments => receiver :: arguments.flatMap Value.usedLocals
  | store receiver _ value => receiver :: value.usedLocals

/-- The locals that statements define, in the order of their definitions. -/
def definedLocals (statements : List Statement) : List String :=
  statements.filterMap Statement.defined?

def DefinedBeforeUse (statements : List Statement) : Prop :=
  ∀ before statement after, statements = before ++ statement :: after →
    ∀ name ∈ statement.usedLocals, name ∈ definedLocals before

structure StraightLine (statements : List Statement) : Prop where
  numbered : ∃ count, definedLocals statements = (List.range count).map Draft.localName
  definedOnce : (definedLocals statements).Nodup
  definedBeforeUse : DefinedBeforeUse statements

theorem DefinedBeforeUse.concat {statements : List Statement} {last : Statement}
    (earlier : DefinedBeforeUse statements)
    (known : ∀ name ∈ last.usedLocals, name ∈ definedLocals statements) :
    DefinedBeforeUse (statements ++ [last]) := by
  intro before statement after divided
  rcases List.eq_nil_or_concat after with rfl | ⟨front, final, rfl⟩
  · obtain ⟨rfl, same⟩ := List.append_inj' divided rfl
    cases same
    exact known
  · rw [List.concat_eq_append, ← List.cons_append, ← List.append_assoc] at divided
    obtain ⟨rfl, -⟩ := List.append_inj' divided rfl
    exact earlier before statement front rfl

namespace Draft

theorem localName_injective {first second : Nat} (same : localName first = localName second) :
    first = second := by
  have texts : ("$r" ++ Text.decimal first).toList = ("$r" ++ Text.decimal second).toList :=
    congrArg String.toList same
  have digits : Nat.toDigits 10 first = Nat.toDigits 10 second := by
    simpa [Text.decimal] using texts
  have values := congrArg (fun digits => Nat.ofDigitChars 10 digits 0) digits
  simpa [Nat.ofDigitChars_toDigits] using values

/-! ## Sound drafts -/

structure Sound (draft : Draft) : Prop where
  numbered : definedLocals draft.statements = (List.range draft.locals).map localName
  definedBeforeUse : DefinedBeforeUse draft.statements

def Knows (draft : Draft) (name : String) : Prop :=
  name ∈ definedLocals draft.statements

theorem Knows.later {before after : Draft} {name : String} (known : before.Knows name)
    (written : before.Extends after) : after.Knows name :=
  (written.filterMap Statement.defined?).subset known

theorem Sound.knows {draft : Draft} (sound : draft.Sound) {number : Nat}
    (defined : number < draft.locals) : draft.Knows (localName number) := by
  rw [Knows, sound.numbered]
  exact List.mem_map_of_mem (List.mem_range.mpr defined)

theorem Sound.straightLine {draft : Draft} (sound : draft.Sound) :
    StraightLine draft.statements := by
  refine ⟨⟨draft.locals, sound.numbered⟩, ?_, sound.definedBeforeUse⟩
  rw [sound.numbered]
  rw [List.Nodup, List.pairwise_map]
  exact List.nodup_range.imp fun different same => different (localName_injective same)

theorem sound_empty : ({} : Draft).Sound where
  numbered := rfl
  definedBeforeUse := by
    intro before statement after divided
    simp at divided

/-- The draft is sound, and some objects are at hand for the statements that follow. -/
structure Holds (draft : Draft) (objects : List String) : Prop where
  sound : draft.Sound
  known : ∀ name ∈ objects, draft.Knows name

variable {draft : Draft} {objects : List String}

theorem holds_empty : ({} : Draft).Holds [] where
  sound := sound_empty
  known := by simp

theorem Holds.forget (object : String) (holds : draft.Holds (object :: objects)) :
    draft.Holds objects where
  sound := holds.sound
  known := fun name member => holds.known name (List.mem_cons_of_mem _ member)

theorem Holds.write (holds : draft.Holds objects) {statement : Statement}
    (silent : statement.defined? = none)
    (used : ∀ name ∈ statement.usedLocals, name ∈ objects) :
    (draft.write statement).Holds objects := by
  refine ⟨⟨?_, ?_⟩, fun name member => (holds.known name member).later (draft.extends_write _)⟩
  · have numbered := holds.sound.numbered
    simp only [definedLocals] at numbered
    simp [Draft.write, definedLocals, numbered, silent]
  · apply holds.sound.definedBeforeUse.concat
    intro name member
    exact holds.known name (used name member)

theorem Holds.define (holds : draft.Holds objects) {statement : String → Statement}
    (defines : (statement draft.next).defined? = some draft.next)
    (used : ∀ name ∈ (statement draft.next).usedLocals, name ∈ objects) :
    (draft.define statement).Holds (draft.next :: objects) := by
  have sound : (draft.define statement).Sound := by
    constructor
    · have numbered := holds.sound.numbered
      simp only [definedLocals] at numbered
      rw [next] at defines
      simp [Draft.define, definedLocals, numbered, defines, next, List.range_succ]
    · apply holds.sound.definedBeforeUse.concat
      intro name member
      exact holds.known name (used name member)
  refine ⟨sound, fun name member => ?_⟩
  rcases List.mem_cons.mp member with rfl | earlier
  · exact sound.knows (Nat.lt_succ_self draft.locals)
  · exact (holds.known name earlier).later (draft.extends_define _)

theorem Holds.allocate (holds : draft.Holds objects) (className : String) :
    (draft.allocate className).Holds (draft.next :: objects) := by
  apply holds.define rfl
  simp [Statement.usedLocals]

theorem Holds.invoke (holds : draft.Holds objects) {receiver : String} {arguments : List Value}
    (object : receiver ∈ objects)
    (used : ∀ name ∈ arguments.flatMap Value.usedLocals, name ∈ objects)
    (owner method : String) : (draft.invoke receiver owner method arguments).Holds objects := by
  apply holds.write rfl
  intro name member
  rcases List.mem_cons.mp member with rfl | inArguments
  · exact object
  · exact used name inArguments

theorem Holds.invokeInto (holds : draft.Holds objects) {receiver : String}
    {arguments : List Value} (object : receiver ∈ objects)
    (used : ∀ name ∈ arguments.flatMap Value.usedLocals, name ∈ objects)
    (owner method : String) :
    (draft.invokeInto receiver owner method arguments).Holds (draft.next :: objects) := by
  apply holds.define rfl
  intro name member
  rcases List.mem_cons.mp member with rfl | inArguments
  · exact object
  · exact used name inArguments

theorem Holds.store (holds : draft.Holds objects) {receiver : String} {value : Value}
    (object : receiver ∈ objects) (used : ∀ name ∈ value.usedLocals, name ∈ objects)
    (field : String) : (draft.store receiver field value).Holds objects := by
  apply holds.write rfl
  intro name member
  rcases List.mem_cons.mp member with rfl | inValue
  · exact object
  · exact used name inValue

theorem Holds.foldl {α : Type} {step : Draft → α → Draft} (holds : draft.Holds objects)
    (steps : ∀ (draft : Draft) (item : α), draft.Holds objects → (step draft item).Holds objects)
    (items : List α) : (items.foldl step draft).Holds objects := by
  induction items generalizing draft with
  | nil => exact holds
  | cons item rest ih => exact ih (steps draft item holds)

end Draft

namespace Synthesis

open Draft

variable {draft : Draft} {objects : List String}

/-! ## Parts of a unit -/

theorem holds_allocateInjected (holds : draft.Holds objects) (app : Application)
    (className : String) :
    (allocateInjected app className draft).Holds (draft.next :: objects) := by
  apply (holds.allocate className).foldl
  intro draft injection holds
  exact holds.store (by simp) (by simp) _

theorem holds_initCall (holds : draft.Holds objects) {receiver : String}
    (object : receiver ∈ objects) (interface configClass : String) (component : Component) :
    (initCall interface receiver configClass component draft).Holds objects := by
  have configured : (configuration configClass component draft).Holds (draft.next :: objects) := by
    apply (holds.allocate configClass).foldl
    intro draft parameter holds
    exact holds.invoke (by simp) (by simp) _ _
  apply Holds.forget draft.next
  exact configured.invoke (List.mem_cons_of_mem _ object) (by simp) _ _

/-- The request and the response of an exchange are at hand afterwards. -/
theorem holds_exchange (holds : draft.Holds objects) (path : Option String) :
    (exchange path draft).Holds (localName (draft.locals + 1) :: draft.next :: objects) := by
  have allocated := holds.allocate (Driver.synthetic "HttpServletRequest")
  cases path with
  | none => exact allocated.allocate _
  | some path => exact (allocated.invoke (by simp) (by simp) _ _).allocate _

theorem holds_serviceCall (holds : draft.Holds objects) {servlet : String}
    (object : servlet ∈ objects) (interface : String) (path : Option String) :
    (serviceCall interface servlet draft path).Holds objects := by
  apply Holds.forget draft.next
  apply Holds.forget (localName (draft.locals + 1))
  apply (holds_exchange holds path).invoke
  · simp [object]
  · simp [requestOf, responseOf]

theorem holds_filterChain (holds : draft.Holds objects) (target : FilterTarget) :
    (filterChain target draft).Holds (draft.next :: objects) := by
  have allocated := holds.allocate (Driver.synthetic "FilterChain")
  cases target with
  | servlet name => exact allocated.invoke (by simp) (by simp) _ _
  | pattern path => exact allocated
  | anything => exact allocated

theorem holds_filterCall (holds : draft.Holds objects) {filter : String}
    (object : filter ∈ objects) (interface : String) (target : FilterTarget) :
    (filterCall interface filter draft target).Holds objects := by
  have exchanged := holds_exchange holds target.path?
  apply Holds.forget draft.next
  apply Holds.forget (localName (draft.locals + 1))
  apply Holds.forget (exchange target.path? draft).next
  apply (holds_filterChain exchanged target).invoke
  · simp [object]
  · simp [requestOf, responseOf]

theorem holds_notify (holds : draft.Holds objects) {listener : String}
    (object : listener ∈ objects) (package : Namespace) (callback : ListenerCallback) :
    (notify package listener draft callback).Holds objects := by
  apply Holds.forget draft.next
  apply (holds.allocate _).invoke
  · simp [object]
  · simp

theorem holds_setMappingText? (holds : draft.Holds objects) {mapping : String}
    (object : mapping ∈ objects) (method : String) (value : Option String) :
    (setMappingText? mapping method value draft).Holds objects := by
  cases value with
  | none => exact holds
  | some value => exact holds.invoke object (by simp) _ _

theorem holds_mappingObject (holds : draft.Holds objects) (mapping : ActionMapping) :
    (mappingObject mapping draft).Holds (draft.next :: objects) := by
  have allocated := holds.allocate actionMappingClass
  have target : draft.next ∈ draft.next :: objects := List.mem_cons_self
  apply holds_setMappingText? _ target
  apply holds_setMappingText? _ target
  apply Holds.invoke _ target (by simp)
  exact allocated.invoke target (by simp) _ _

theorem holds_addForwardObject (holds : draft.Holds objects) {mapping : String}
    (object : mapping ∈ objects) (forward : Forward) :
    (addForwardObject mapping draft forward).Holds objects := by
  have target : draft.next ∈ draft.next :: objects := List.mem_cons_self
  have addressed : (((draft.allocate actionForwardClass).invoke draft.next actionForwardClass
      "setName" [.text forward.name]).invoke draft.next actionForwardClass
        "setPath" [.text forward.path]).Holds (draft.next :: objects) := by
    apply Holds.invoke _ target (by simp)
    exact (holds.allocate actionForwardClass).invoke target (by simp) _ _
  apply Holds.forget draft.next
  apply Holds.invoke _ (List.mem_cons_of_mem _ object) (by simp)
  by_cases redirect : forward.redirect = true
  · rw [if_pos redirect]
    exact addressed.invoke target (by simp) _ _
  · rw [if_neg redirect]
    exact addressed

/-- The form bean is at hand after it was allocated, if there is one. -/
theorem holds_formObject (holds : draft.Holds objects) (form : Option String) :
    (formObject form draft).Holds ((formOf form draft).usedLocals ++ objects) := by
  cases form with
  | none => exact holds
  | some formClass => exact holds.allocate formClass

/-! ## Units of the built-in templates -/

theorem sound_servletDraft (scene : Scene) (component : Component) :
    (servletDraft scene component).Sound := by
  have allocated := holds_allocateInjected holds_empty scene.app component.className
  have object : localName 0 ∈ [localName 0] := List.mem_cons_self
  refine (Holds.invoke (Holds.foldl ?ready ?calls _) object (by simp) _ _).sound
  case ready => exact holds_initCall allocated object _ _ component
  case calls => exact fun draft path holds => holds_serviceCall holds object _ path

theorem sound_filterDraft (scene : Scene) (component : Component) :
    (filterDraft scene component).Sound := by
  have allocated := holds_allocateInjected holds_empty scene.app component.className
  have object : localName 0 ∈ [localName 0] := List.mem_cons_self
  refine (Holds.invoke (Holds.foldl ?ready ?calls _) object (by simp) _ _).sound
  case ready => exact holds_initCall allocated object _ _ component
  case calls => exact fun draft target holds => holds_filterCall holds object _ target

theorem sound_listenerDraft (scene : Scene) (component : Component) :
    (listenerDraft scene component).Sound := by
  have allocated := holds_allocateInjected holds_empty scene.app component.className
  refine (allocated.foldl ?events _).sound
  intro draft callback holds
  exact holds_notify holds List.mem_cons_self _ callback

theorem sound_execution {handler config : String} {form : Value}
    (holds : draft.Holds (form.usedLocals ++ [config, handler])) (path : Option String) :
    ((exchange path draft).invokeInto handler actionClass "execute"
      [.localVar config, form, requestOf draft, responseOf draft]).Sound := by
  refine ((holds_exchange holds path).invokeInto (by simp) ?_ _ _).sound
  intro name used
  simp only [List.flatMap_cons, List.flatMap_nil, requestOf, responseOf, Value.usedLocals,
    List.mem_append, List.mem_cons, List.not_mem_nil, or_false] at used ⊢
  rcases used with isConfig | inForm | isRequest | isResponse
  · simp [isConfig]
  · exact Or.inr (Or.inr (Or.inl inForm))
  · simp [isRequest]
  · simp [isResponse]

theorem sound_actionDraft (scene : Scene) (mapping : ActionMapping) :
    (actionDraft scene mapping).Sound := by
  have handler : (allocateInjected scene.app mapping.handlerClass {}).Holds [localName 0] :=
    holds_allocateInjected holds_empty scene.app mapping.handlerClass
  apply sound_execution
  apply holds_formObject
  apply (holds_mappingObject handler mapping).foldl
  intro draft forward holds
  exact holds_addForwardObject holds List.mem_cons_self forward

theorem action_of_unit {scene : Scene} {component : Component} {unit : DriverUnit}
    (member : unit ∈ (replayActions scene component).units) :
    ∃ mapping ∈ component.actionMappings, unit = actionUnit scene component mapping := by
  unfold replayActions at member
  split at member
  · cases member
  · obtain ⟨mapping, listed, replayed⟩ := List.mem_flatMap.mp member
    refine ⟨mapping, listed, ?_⟩
    by_cases resolved : scene.classes.resolves mapping.handlerClass = true
    · rw [replayMapping_of_resolved resolved] at replayed
      exact List.mem_singleton.mp replayed
    · rw [replayMapping_of_unresolved (by simpa using resolved)] at replayed
      cases replayed

/-- What a built-in template writes is the content of a sound draft. -/
theorem statements_sound {template : Template} (builtin : template ∈ builtinTemplates)
    (scene : Scene) (component : Component) :
    ∀ unit ∈ (template.instantiate scene component).units,
      ∃ draft : Draft, draft.Sound ∧ unit.statements = draft.statements := by
  intro unit member
  simp only [builtinTemplates, List.mem_cons, List.not_mem_nil, or_false] at builtin
  rcases builtin with rfl | rfl | rfl | rfl
  · cases List.mem_singleton.mp member
    exact ⟨_, sound_servletDraft scene component, rfl⟩
  · cases List.mem_singleton.mp member
    exact ⟨_, sound_filterDraft scene component, rfl⟩
  · cases List.mem_singleton.mp member
    exact ⟨_, sound_listenerDraft scene component, rfl⟩
  · obtain ⟨mapping, _, rfl⟩ := action_of_unit member
    exact ⟨_, sound_actionDraft scene mapping, rfl⟩

theorem units_straight_line {templates : List Template}
    (builtin : ∀ template ∈ templates, template ∈ builtinTemplates) (scene : Scene) :
    ∀ unit ∈ (synthesize (TemplateSet.ofList templates) scene).units,
      StraightLine unit.statements := by
  intro unit member
  obtain ⟨component, _, replayed⟩ := List.mem_flatMap.mp member
  unfold replayComponent at replayed
  rw [TemplateSet.get?_ofList] at replayed
  cases found : templates.find? fun template => template.kind == component.kind with
  | none =>
      rw [found] at replayed
      cases replayed
  | some template =>
      rw [found] at replayed
      have listed := builtin template (List.mem_of_find?_eq_some found)
      obtain ⟨draft, sound, same⟩ := statements_sound listed scene component unit replayed
      rw [same]
      exact sound.straightLine

def forwardingAction : Application :=
  ({} : Application).register
    { className := "c.Controller"
      kind := .actionServlet
      actionMappings := [⟨"/login", "c.Login", none, none, some "request",
        [⟨"success", "/home.jsp", true⟩]⟩] }

/-- The unit of an action with a forward, whose result takes the last local. -/
theorem units_straight_line_with_forward :
    (synthesize (TemplateSet.ofList builtinTemplates) ⟨forwardingAction, .empty⟩).units.map
        (fun unit => definedLocals unit.statements) =
      [["$r0", "$r1", "$r2", "$r3", "$r4", "$r5"]] ∧
    ∀ unit ∈ (synthesize (TemplateSet.ofList builtinTemplates) ⟨forwardingAction, .empty⟩).units,
      StraightLine unit.statements := by
  constructor
  · decide +kernel
  · exact units_straight_line (fun template member => member) _

end Synthesis

end ContainerReplay
