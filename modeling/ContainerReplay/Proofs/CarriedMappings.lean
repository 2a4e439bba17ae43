import ContainerReplay.Proofs.ObjectHistories

/-!
# Mappings that units carry

The unit of an action builds the mapping that its controller would pass, with an object for each
forward, and executes the handler.  Reading a unit goes the other way: from the last statement to the
objects that it passes, and from their histories to the mapping.  Nothing of a mapping is lost on the
way, apart from a form class that cannot be loaded.
-/

set_option autoImplicit false

namespace ContainerReplay

open Synthesis

/-! ## Reading a unit -/

/-- The class of an object with a history. -/
def allocatedClass? (statements : List Statement) : Option String :=
  statements.findSome? fun
    | .allocate _ className => some className
    | _ => none

/-- The text that an object was told with a method. -/
def toldText? (method : String) (statements : List Statement) : Option String :=
  statements.findSome? fun
    | .invoke _ _ _ called [.text value] => if called = method then some value else none
    | _ => none

/-- Whether an object was told that something is true. -/
def toldTrue (method : String) (statements : List Statement) : Bool :=
  statements.any fun
    | .invoke _ _ _ called [.truth value] => called == method && value
    | _ => false

/-- The objects that were passed to a method, in order. -/
def passedObjects (method : String) (statements : List Statement) : List String :=
  statements.filterMap fun
    | .invoke _ _ _ called [.localVar name] => if called = method then some name else none
    | _ => none

/-- The forward that an object stands for. -/
def readForward? (statements : List Statement) (object : String) : Option Forward := do
  let told := history object statements
  let name ← toldText? "setName" told
  let path ← toldText? "setPath" told
  some ⟨name, path, toldTrue "setRedirect" told⟩

/-- The class of a form that is passed. -/
def formClass? (statements : List Statement) : Value → Option String
  | .localVar form => allocatedClass? (history form statements)
  | _ => none

/-- The mapping that a unit carries. -/
def readMapping? (statements : List Statement) : Option ActionMapping :=
  match statements.getLast? with
  | some (.invoke _ handler _ _ [.localVar config, form, _, _]) => do
      let told := history config statements
      let handlerClass ← allocatedClass? (history handler statements)
      let path ← toldText? "setPath" told
      let forwards ← (passedObjects "addForwardConfig" told).mapM (readForward? statements)
      some ⟨path, handlerClass, toldText? "setName" told, formClass? statements form,
        toldText? "setScope" told, forwards⟩
  | _ => none

/-! ## What a unit builds -/

/-- The locals of the objects that execute an action, its result included. -/
structure ActionObjects where
  handler : String
  config : String
  forwards : List String
  form : Option String
  request : String
  response : String
  result : String

namespace ActionObjects

variable (objects : ActionObjects)

/-- What is passed as the form. -/
def formValue : Value :=
  match objects.form with
  | none => .null
  | some form => .localVar form

def execution : Statement :=
  .invoke (some objects.result) objects.handler actionClass "execute"
    [.localVar objects.config, objects.formValue, .localVar objects.request,
      .localVar objects.response]

def locals : List String :=
  [objects.handler, objects.config] ++ objects.forwards ++
    (objects.form.toList ++ [objects.request, objects.response]) ++ [objects.result]

end ActionObjects

def Statement.method? : Statement → Option String
  | .allocate _ _ => none
  | .invoke _ _ _ method _ => some method
  | .store _ _ _ => none

/-- The texts that a mapping object is told. -/
def mappingTexts (mapping : ActionMapping) (config : String) : List Statement :=
  let tell (method value : String) : Statement :=
    .invoke none config actionMappingClass method [.text value]
  [tell "setPath" mapping.path, tell "setType" mapping.handlerClass] ++
    mapping.formName.toList.map (tell "setName") ++ mapping.scope.toList.map (tell "setScope")

/-- Adds the object of a forward to a mapping object. -/
def adding (config object : String) : Statement :=
  .invoke none config actionMappingClass "addForwardConfig" [.localVar object]

/-- What happens to the object of a forward. -/
def forwardHistory (config object : String) (forward : Forward) : List Statement :=
  [.allocate object actionForwardClass,
    .invoke none object actionForwardClass "setName" [.text forward.name],
    .invoke none object actionForwardClass "setPath" [.text forward.path]] ++
  (if forward.redirect then
    [.invoke none object actionForwardClass "setRedirect" [.truth true]] else []) ++
  [adding config object]

/-- The statements build the objects of a mapping and execute its handler with them. -/
structure Executes (app : Application) (mapping : ActionMapping) (formClass : Option String)
    (statements : List Statement) (objects : ActionObjects) : Prop where
  ends : statements.getLast? = some objects.execution
  only : (statements.filter fun statement => statement.method? = some "execute") =
    [objects.execution]
  apart : objects.locals.Nodup
  ofHandler : history objects.handler statements =
    .allocate objects.handler mapping.handlerClass ::
      injectionStores app mapping.handlerClass objects.handler ++ [objects.execution]
  ofConfig : history objects.config statements =
    .allocate objects.config actionMappingClass :: mappingTexts mapping objects.config ++
      objects.forwards.map (adding objects.config) ++ [objects.execution]
  ofForwards : List.Forall₂ (fun forward object =>
    history object statements = forwardHistory objects.config object forward)
      mapping.forwards objects.forwards
  ofForm : Option.Rel (fun className form =>
    history form statements = [.allocate form className, objects.execution])
      formClass objects.form
  ofRequest : history objects.request statements =
    .allocate objects.request (Driver.synthetic "HttpServletRequest") ::
      addressing objects.request (some mapping.path) ++ [objects.execution]
  ofResponse : history objects.response statements =
    [.allocate objects.response (Driver.synthetic "HttpServletResponse"), objects.execution]

/-! ## Reading what was built -/

section Reading

variable {app : Application} {mapping : ActionMapping} {formClass : Option String}
  {statements : List Statement} {objects : ActionObjects}

theorem toldText?_append (method : String) (first second : List Statement) :
    toldText? method (first ++ second) = (toldText? method first).or (toldText? method second) :=
  List.findSome?_append

theorem passedObjects_append (method : String) (first second : List Statement) :
    passedObjects method (first ++ second) =
      passedObjects method first ++ passedObjects method second :=
  List.filterMap_append

@[simp] theorem toldText?_adding (method config : String) (forwards : List String) :
    toldText? method (forwards.map (adding config)) = none := by
  rw [toldText?, List.findSome?_eq_none_iff]
  intro statement member
  obtain ⟨object, -, rfl⟩ := List.mem_map.mp member
  rfl

@[simp] theorem passedObjects_adding (config : String) (forwards : List String) :
    passedObjects "addForwardConfig" (forwards.map (adding config)) = forwards := by
  induction forwards with
  | nil => rfl
  | cons object rest ih => exact congrArg (object :: ·) ih

@[simp] theorem passedObjects_mappingTexts (method config : String) :
    passedObjects method (mappingTexts mapping config) = [] := by
  rw [passedObjects, List.filterMap_eq_nil_iff]
  simp [mappingTexts, or_imp, forall_and]

theorem readForward?_of_history {config object : String} {forward : Forward}
    (told : history object statements = forwardHistory config object forward) :
    readForward? statements object = some forward := by
  rw [readForward?, told]
  cases forward with
  | mk name path redirect => cases redirect <;> rfl

theorem readForwards {config : String} {forwards : List Forward} {names : List String}
    (told : List.Forall₂ (fun forward object =>
      history object statements = forwardHistory config object forward) forwards names) :
    names.mapM (readForward? statements) = some forwards := by
  induction told with
  | nil => rfl
  | cons one _ ih => simp [List.mapM_cons, readForward?_of_history one, ih]

namespace Executes

variable (executes : Executes app mapping formClass statements objects)
include executes

theorem read_handlerClass :
    allocatedClass? (history objects.handler statements) = some mapping.handlerClass := by
  rw [executes.ofHandler]
  rfl

theorem read_text (method : String) :
    toldText? method (history objects.config statements) =
      toldText? method (mappingTexts mapping objects.config) := by
  have executed : toldText? method [objects.execution] = none := rfl
  -- neither the forwards nor the execution pass a text
  rw [executes.ofConfig, toldText?_append, toldText?_append, toldText?_adding, executed]
  simp [toldText?]

theorem read_forwards :
    passedObjects "addForwardConfig" (history objects.config statements) = objects.forwards := by
  have texts : passedObjects "addForwardConfig"
      (.allocate objects.config actionMappingClass :: mappingTexts mapping objects.config) = [] :=
    passedObjects_mappingTexts "addForwardConfig" objects.config
  have executed : passedObjects "addForwardConfig" [objects.execution] = [] := rfl
  rw [executes.ofConfig, passedObjects_append, passedObjects_append, passedObjects_adding, texts,
    executed, List.nil_append, List.append_nil]

theorem read_formClass : formClass? statements objects.formValue = formClass := by
  have ofForm := executes.ofForm
  rw [ActionObjects.formValue]
  cases passed : objects.form with
  | none =>
      rw [passed] at ofForm
      cases ofForm
      rfl
  | some form =>
      rw [passed] at ofForm
      cases ofForm with
      | some told =>
          rw [formClass?, told]
          rfl

/-- Reading what was built yields the mapping. -/
theorem reads : readMapping? statements = some { mapping with formClass := formClass } := by
  have path : toldText? "setPath" (mappingTexts mapping objects.config) = some mapping.path := rfl
  have name : toldText? "setName" (mappingTexts mapping objects.config) = mapping.formName := by
    cases mapping with
    | mk _ _ formName _ scope _ => cases formName <;> cases scope <;> rfl
  have scope : toldText? "setScope" (mappingTexts mapping objects.config) = mapping.scope := by
    cases mapping with
    | mk _ _ formName _ scope _ => cases formName <;> cases scope <;> rfl
  rw [readMapping?, executes.ends]
  simp [ActionObjects.execution, executes.read_handlerClass, executes.read_text, path, name, scope,
    executes.read_forwards, readForwards executes.ofForwards, executes.read_formClass]

end Executes

end Reading

/-! ## Building -/

/-- No statement of the draft calls a method of that name. -/
def Draft.Avoids (draft : Draft) (method : String) : Prop :=
  ∀ statement ∈ draft.statements, statement.method? ≠ some method

open Draft

theorem Draft.Avoids.write {draft : Draft} {method : String} {statement : Statement}
    (avoids : draft.Avoids method) (other : statement.method? ≠ some method) :
    (draft.write statement).Avoids method := by
  intro statement' member
  rcases List.mem_append.mp member with earlier | last
  · exact avoids statement' earlier
  · exact List.mem_singleton.mp last ▸ other

theorem Draft.Avoids.allocate {draft : Draft} {method : String} (avoids : draft.Avoids method)
    (className : String) : (draft.allocate className).Avoids method :=
  avoids.write (by simp [Statement.method?])

theorem Draft.Avoids.invoke {draft : Draft} {method called : String} (avoids : draft.Avoids method)
    (receiver owner : String) (arguments : List Value) (other : called ≠ method) :
    (draft.invoke receiver owner called arguments).Avoids method :=
  avoids.write (by simpa [Statement.method?] using other)

/-- The rounds of a loop that adds forwards to a mapping object. -/
def forwardRounds (config : String) : Loop Forward String where
  object := config
  locals := fun object => [object]
  statement := adding config
  Outcome := fun forward object statements =>
    history object statements = forwardHistory config object forward
  outcome_congr := fun same told => (same _ List.mem_cons_self).trans told

namespace Synthesis

theorem addForwardObject_eq (config : String) (draft : Draft) (forward : Forward) :
    addForwardObject config draft forward =
      ⟨draft.statements ++ forwardHistory config draft.next forward, draft.locals + 1⟩ := by
  cases forward with
  | mk name path redirect =>
      cases redirect <;>
        simp [addForwardObject, forwardHistory, adding, allocate, define, next, invoke, write]

theorem history_forwardHistory (config object : String) (forward : Forward) (name : String) :
    history name (forwardHistory config object forward) =
      if name = object then forwardHistory config object forward
      else if name = config then [adding config object] else [] := by
  cases forward with
  | mk text path redirect =>
      rcases eq_or_ne name object with rfl | notObject <;>
        rcases eq_or_ne name config with rfl | notConfig <;> cases redirect <;>
          simp_all [forwardHistory, adding, history_cons, Statement.mentioned, Statement.defined?,
            Statement.usedLocals]

/-- Adding one forward is one round. -/
theorem addForwardObject_runs {config : String} {draft : Draft} (holds : draft.Holds [config])
    (forward : Forward) :
    (forwardRounds config).Runs draft (addForwardObject config draft forward) [forward]
      [draft.next] := by
  obtain ⟨number, older, rfl⟩ := holds.numbered List.mem_cons_self
  have different : localName number ≠ draft.next := fun same =>
    Nat.ne_of_lt older (localName_inj.mp same)
  rw [addForwardObject_eq]
  constructor
  case spares =>
    refine draft.spares_append (fun other earlier apart => ?_) (Nat.le_succ _)
    have old : localName other ≠ draft.next := fun same =>
      Nat.ne_of_lt earlier (localName_inj.mp same)
    rw [history_forwardHistory, if_neg old, if_neg (by simpa [forwardRounds] using apart)]
  case ofObject =>
    simp [historyOf, history_append, history_forwardHistory, forwardRounds, different]
  case new =>
    rw [List.flatMap_singleton]
    exact draft.introduces_next (Nat.lt_succ_self _)
  case outcomes =>
    refine .cons ?_ .nil
    have new : history draft.next draft.statements = [] :=
      holds.sound.historyOf_new (Nat.le_refl _)
    simp [history_append, history_forwardHistory, forwardRounds, new]

theorem avoids_addForwardObject {config : String} {draft : Draft} (avoids : draft.Avoids "execute")
    (forward : Forward) : (addForwardObject config draft forward).Avoids "execute" := by
  rw [addForwardObject_eq]
  intro statement member
  rcases List.mem_append.mp member with earlier | added
  · exact avoids statement earlier
  · simp only [forwardHistory, adding, List.mem_append, List.mem_cons, List.mem_ite_nil_right,
      List.not_mem_nil, or_false] at added
    rcases added with ((rfl | rfl | rfl) | ⟨_, rfl⟩) | rfl <;> simp [Statement.method?]

theorem mappingObject_eq (mapping : ActionMapping) (draft : Draft) :
    mappingObject mapping draft =
      ⟨draft.statements ++ .allocate draft.next actionMappingClass ::
        mappingTexts mapping draft.next, draft.locals + 1⟩ := by
  cases mapping with
  | mk path handlerClass formName formClass scope forwards =>
      cases formName <;> cases scope <;>
        simp [mappingObject, setMappingText, setMappingText?, mappingTexts, allocate, define, next,
          invoke, write]

@[simp] theorem history_mappingTexts (mapping : ActionMapping) (config name : String) :
    history name (mappingTexts mapping config) =
      if name = config then mappingTexts mapping config else [] := by
  refine history_of_single (fun statement member => ?_) name
  simp only [mappingTexts, List.mem_append, List.mem_cons, List.mem_map, List.not_mem_nil,
    or_false] at member
  rcases member with ((rfl | rfl) | ⟨_, -, rfl⟩) | ⟨_, -, rfl⟩ <;> rfl

/-- A handler whose resources are injected, and the mapping object that is told the texts of a
mapping. -/
def configured (app : Application) (mapping : ActionMapping) : Draft :=
  mappingObject mapping (allocateInjected app mapping.handlerClass {})

variable (app : Application) (mapping : ActionMapping)

theorem holds_configured : (configured app mapping).Holds [localName 1, localName 0] := by
  have allocated := holds_allocateInjected holds_empty app mapping.handlerClass
  have config : (allocateInjected app mapping.handlerClass {}).next = localName 1 := by
    rw [allocateInjected_eq]
    rfl
  exact config ▸ holds_mappingObject allocated mapping

theorem statements_configured :
    (configured app mapping).statements =
      .allocate (localName 0) mapping.handlerClass ::
        injectionStores app mapping.handlerClass (localName 0) ++
          .allocate (localName 1) actionMappingClass :: mappingTexts mapping (localName 1) := by
  rw [configured, mappingObject_eq, allocateInjected_eq]
  rfl

theorem avoids_configured : (configured app mapping).Avoids "execute" := by
  intro statement member
  rw [statements_configured] at member
  simp only [injectionStores, mappingTexts, List.mem_append, List.mem_cons, List.mem_map,
    List.not_mem_nil, or_false] at member
  rcases member with (rfl | ⟨_, -, rfl⟩) | rfl | ((rfl | rfl) | ⟨_, -, rfl⟩) | ⟨_, -, rfl⟩ <;>
    simp [Statement.method?]

theorem historyOf_configured_handler :
    (configured app mapping).historyOf (localName 0) =
      .allocate (localName 0) mapping.handlerClass ::
        injectionStores app mapping.handlerClass (localName 0) := by
  rw [historyOf, statements_configured]
  simp [history_append, history_cons, Statement.mentioned, Statement.defined?,
    Statement.usedLocals]

theorem historyOf_configured_config :
    (configured app mapping).historyOf (localName 1) =
      .allocate (localName 1) actionMappingClass :: mappingTexts mapping (localName 1) := by
  rw [historyOf, statements_configured]
  simp [history_append, history_cons, Statement.mentioned, Statement.defined?,
    Statement.usedLocals]

/-! ## The last statement -/

/-- The objects with which an action is executed, from the draft in which the forwards are added. -/
def actionObjects (form : Option String) (complete : Draft) (names : List String) :
    ActionObjects :=
  let formed := formObject form complete
  { handler := localName 0
    config := localName 1
    forwards := names
    form := form.map fun _ => complete.next
    request := formed.next
    response := localName (formed.locals + 1)
    result := localName (formed.locals + 2) }

/-- The request and the response of an action after its form. -/
def exchanged (path : String) (form : Option String) (complete : Draft) : Draft :=
  exchange (some path) (formObject form complete)

theorem avoids_exchanged {form : Option String} {complete : Draft} (path : String)
    (avoids : complete.Avoids "execute") : (exchanged path form complete).Avoids "execute" := by
  have formed : (formObject form complete).Avoids "execute" := by
    cases form with
    | none => exact avoids
    | some formClass => exact avoids.allocate formClass
  exact ((formed.allocate _).invoke _ _ _ (by decide)).allocate _

/-- The execution of an action. -/
def executed (path : String) (form : Option String) (complete : Draft) (names : List String) :
    Draft :=
  (exchanged path form complete).define fun _ => (actionObjects form complete names).execution

theorem mentioned_execution (objects : ActionObjects) :
    objects.execution.mentioned =
      [objects.result, objects.handler, objects.config] ++ objects.form.toList ++
        [objects.request, objects.response] := by
  cases objects with
  | mk handler config forwards form request response result => cases form <;> rfl

variable (path : String) (form : Option String) (complete : Draft) (names : List String)

theorem spares_formObject (draft : Draft) (objects : List String) :
    draft.Spares (formObject form draft) objects := by
  cases form with
  | none => exact Spares.refl draft objects
  | some formClass => exact draft.spares_allocate formClass

theorem spares_exchanged (objects : List String) :
    complete.Spares (exchanged path form complete) objects :=
  (spares_formObject form complete objects).trans (spares_exchange (some path) _ objects)

theorem historyOf_executed (name : String) :
    (executed path form complete names).historyOf name =
      (exchanged path form complete).historyOf name ++
        if name ∈ (actionObjects form complete names).execution.mentioned then
          [(actionObjects form complete names).execution] else [] :=
  historyOf_define _ name _

/-- The execution comes last for all that it mentions. -/
theorem history_executed {name : String}
    (mentioned : name ∈ (actionObjects form complete names).execution.mentioned) :
    history name (executed path form complete names).statements =
      (exchanged path form complete).historyOf name ++
        [(actionObjects form complete names).execution] := by
  rw [← Draft.historyOf, historyOf_executed, if_pos mentioned]

theorem historyOf_form (sound : complete.Sound) (formClass : String) :
    (exchanged path (some formClass) complete).historyOf complete.next =
      [.allocate complete.next formClass] := by
  have new : complete.historyOf complete.next = [] := sound.historyOf_new (Nat.le_refl _)
  have still : (exchanged path (some formClass) complete).historyOf complete.next =
      (complete.allocate formClass).historyOf complete.next :=
    (spares_exchange (some path) (complete.allocate formClass) []).history
      complete.locals (Nat.lt_succ_self _) List.not_mem_nil
  rw [still, historyOf_allocate, new, if_pos rfl]
  rfl

theorem only_executed (avoids : (exchanged path form complete).Avoids "execute") :
    (executed path form complete names).statements.filter
        (fun statement => statement.method? = some "execute") =
      [(actionObjects form complete names).execution] := by
  have earlier : (exchanged path form complete).statements.filter
      (fun statement => statement.method? = some "execute") = [] := by
    rw [List.filter_eq_nil_iff]
    intro statement member
    simpa using avoids statement member
  rw [executed, define, List.filter_append, earlier]
  rfl

theorem introduces_form :
    complete.Introduces (formObject form complete)
      (actionObjects form complete names).form.toList := by
  cases form with
  | none => exact introduces_nil (Nat.le_refl _)
  | some formClass => exact complete.introduces_next (Nat.lt_succ_self _)

theorem introduces_exchanged :
    complete.Introduces (exchanged path form complete)
      ((actionObjects form complete names).form.toList ++
        [(actionObjects form complete names).request,
          (actionObjects form complete names).response]) :=
  (introduces_form form complete names).append (introduces_exchange (some path) _)

theorem result_eq :
    (actionObjects form complete names).result = (exchanged path form complete).next := by
  rw [next, exchanged, exchange_locals]
  rfl

theorem executed_eq :
    executed path form complete names =
      (exchanged path form complete).invokeInto (localName 0) actionClass "execute"
        [.localVar (localName 1), formOf form complete, requestOf (formObject form complete),
          responseOf (formObject form complete)] := by
  rw [executed, invokeInto, define, define, ← result_eq path form complete names]
  cases form <;> rfl

theorem actionDraft_eq (scene : Scene) (mapping : ActionMapping) :
    actionDraft scene mapping =
      executed mapping.path (loadableForm? scene.classes mapping)
        (mapping.forwards.foldl (addForwardObject (localName 1)) (configured scene.app mapping))
        names := by
  have config : (allocateInjected scene.app mapping.handlerClass {}).next = localName 1 := by
    rw [allocateInjected_eq]
    rfl
  rw [executed_eq, ← config]
  rfl

/-- The execution works on the handler and the mapping object, and on objects that are new to it. -/
theorem spares_executed :
    complete.Spares (executed path form complete names) [localName 1, localName 0] := by
  refine Spares.forget ((spares_exchanged path form complete _).trans
    (spares_define _ fun name mentioned => ?_))
    ((introduces_exchanged path form complete names).later (Nat.le_succ _))
  rw [← result_eq path form complete names]
  simp only [mentioned_execution, List.mem_append, List.mem_cons, List.not_mem_nil, or_false]
    at mentioned ⊢
  rcases mentioned with ((isResult | isHandler | isConfig) | isForm) | passed
  · exact Or.inl isResult
  · exact Or.inr (Or.inr (Or.inr isHandler))
  · exact Or.inr (Or.inr (Or.inl isConfig))
  · exact Or.inr (Or.inl (Or.inl isForm))
  · exact Or.inr (Or.inl (Or.inr passed))

variable {path app mapping form complete names}
  (holds : complete.Holds [localName 1, localName 0])
  (runs : (forwardRounds (localName 1)).Runs (configured app mapping) complete mapping.forwards
    names)

include runs in
theorem nodup_locals : (actionObjects form complete names).locals.Nodup := by
  have two : (configured app mapping).locals = 2 := by
    rw [configured, mappingObject_eq, allocateInjected_eq]
  have first : ({} : Draft).Introduces (configured app mapping) [localName 0, localName 1] := by
    refine ⟨Nat.zero_le _, fun name member => ?_, by simp⟩
    rw [two]
    rcases List.mem_pair.mp member with rfl | rfl
    · exact ⟨0, Nat.le_refl _, by omega, rfl⟩
    · exact ⟨1, Nat.zero_le _, by omega, rfl⟩
  have second : (configured app mapping).Introduces complete names := by
    simpa [forwardRounds] using runs.new
  have third := introduces_exchanged mapping.path form complete names
  have fourth : (exchanged mapping.path form complete).Introduces
      (executed mapping.path form complete names) [(actionObjects form complete names).result] := by
    rw [result_eq mapping.path form complete names]
    exact introduces_next _ (Nat.lt_succ_self _)
  exact (((first.append second).append third).append fourth).apart

include holds runs in
theorem executes_of_runs (avoids : (exchanged mapping.path form complete).Avoids "execute") :
    Executes app mapping form (executed mapping.path form complete names).statements
      (actionObjects form complete names) := by
  have formed : (formObject form complete).Sound := (holds_formObject holds form).sound
  -- what the execution does not mention, the forwards, is out of its reach
  have last {name : String} := @history_executed mapping.path form complete names name
  have later : (configured app mapping).Spares (exchanged mapping.path form complete)
      [localName 1] := runs.spares.trans (spares_exchanged mapping.path form complete _)
  constructor
  case ends => exact List.getLast?_concat
  case only => exact only_executed mapping.path form complete names avoids
  case apart => exact nodup_locals runs
  case ofHandler =>
    rw [last (by simp [mentioned_execution])]
    have still : (exchanged mapping.path form complete).historyOf (localName 0) =
        (configured app mapping).historyOf (localName 0) :=
      later.historyOf (holds_configured app mapping) (by simp) (by simp)
    exact congrArg (· ++ _) (still.trans (historyOf_configured_handler app mapping))
  case ofConfig =>
    rw [last (by simp [mentioned_execution])]
    have still : (exchanged mapping.path form complete).historyOf (localName 1) =
        complete.historyOf (localName 1) :=
      (spares_exchanged mapping.path form complete []).historyOf holds (by simp) (by simp)
    have added := runs.ofObject
    rw [forwardRounds, historyOf_configured_config] at added
    exact congrArg (· ++ _) (still.trans added)
  case ofForwards =>
    exact runs.outcomes_later (holds_configured app mapping)
      (spares_executed mapping.path form complete names)
  case ofForm =>
    cases form with
    | none => exact .none
    | some formClass =>
        refine .some ?_
        rw [last (by simp [mentioned_execution, actionObjects]),
          historyOf_form mapping.path complete holds.sound formClass]
        rfl
  case ofRequest =>
    rw [last (by simp [mentioned_execution])]
    exact congrArg (· ++ _) (historyOf_request (some mapping.path) formed)
  case ofResponse =>
    rw [last (by simp [mentioned_execution])]
    exact congrArg (· ++ _) (historyOf_response (some mapping.path) formed)

theorem actionDraft_executes (scene : Scene) (mapping : ActionMapping) :
    ∃ objects, Executes scene.app mapping (loadableForm? scene.classes mapping)
      (actionDraft scene mapping).statements objects := by
  have isConfig : localName 1 ∈ [localName 1, localName 0] := List.mem_cons_self
  -- the loop keeps the mapping object and the handler at hand, and each forward is a round
  have rounds (draft : Draft) (forward : Forward)
      (holds : draft.Holds [localName 1, localName 0]) :
      (addForwardObject (localName 1) draft forward).Holds [localName 1, localName 0] ∧
        ∃ name, (forwardRounds (localName 1)).Runs draft
          (addForwardObject (localName 1) draft forward) [forward] [name] :=
    ⟨holds_addForwardObject holds isConfig forward, draft.next,
      addForwardObject_runs (holds.mono (by simp)) forward⟩
  obtain ⟨holds, names, runs⟩ := Loop.runs_foldl isConfig rounds mapping.forwards
    (holds_configured scene.app mapping)
  have avoids : (mapping.forwards.foldl (addForwardObject (localName 1))
      (configured scene.app mapping)).Avoids "execute" :=
    List.foldlRecOn (motive := fun (draft : Draft) => draft.Avoids "execute") mapping.forwards _
      (avoids_configured scene.app mapping)
      fun draft avoids forward _ => avoids_addForwardObject avoids forward
  exact ⟨_, actionDraft_eq names scene mapping ▸
    executes_of_runs holds runs (avoids_exchanged mapping.path avoids)⟩

theorem loadableForm?_eq (classes : ClassIndex) (mapping : ActionMapping) :
    loadableForm? classes mapping = mapping.formClass.filter classes.resolves := by
  rw [loadableForm?]
  cases mapping.formClass <;> simp [Option.filter]

theorem replayActions_units (scene : Scene) (component : Component) :
    (replayActions scene component).units =
      (component.actionMappings.filter fun mapping =>
        scene.classes.resolves mapping.handlerClass).map (actionUnit scene component) := by
  have units : (replayActions scene component).units = component.actionMappings.flatMap
      fun mapping => (replayMapping scene component mapping).units := by
    rw [replayActions]
    cases component.actionMappings <;> rfl
  rw [units]
  induction component.actionMappings with
  | nil => rfl
  | cons mapping rest ih =>
      rw [List.flatMap_cons, ih, List.filter_cons]
      by_cases resolved : scene.classes.resolves mapping.handlerClass = true
      · rw [replayMapping_of_resolved resolved, if_pos resolved]
        rfl
      · rw [replayMapping_of_unresolved (by simpa using resolved), if_neg resolved]
        rfl

theorem units_carry_mappings (scene : Scene) (component : Component) :
    List.Forall₂
      (fun mapping unit =>
        let formClass := mapping.formClass.filter scene.classes.resolves
        readMapping? unit.statements = some { mapping with formClass := formClass } ∧
          ∃ objects, Executes scene.app mapping formClass unit.statements objects)
      (component.actionMappings.filter fun mapping => scene.classes.resolves mapping.handlerClass)
      (actionTemplate.instantiate scene component).units := by
  have units : (actionTemplate.instantiate scene component).units = _ :=
    replayActions_units scene component
  rw [units, List.forall₂_map_right_iff]
  refine List.forall₂_same.mpr fun mapping _ => ?_
  obtain ⟨objects, executes⟩ := actionDraft_executes scene mapping
  rw [loadableForm?_eq] at executes
  exact ⟨executes.reads, objects, executes⟩

/-- A form class is not built unless it can be loaded. -/
example :
    let mapping : ActionMapping :=
      ⟨"/login", "c.Login", some "login", some "", some "request", [⟨"ok", "/home.jsp", true⟩]⟩
    let component : Component :=
      { className := "c.Controller", kind := .actionServlet, actionMappings := [mapping] }
    (actionTemplate.instantiate ⟨{}, .empty⟩ component).units.map
      (fun unit => readMapping? unit.statements) = [some { mapping with formClass := none }] := by
  decide +kernel

end Synthesis

end ContainerReplay
