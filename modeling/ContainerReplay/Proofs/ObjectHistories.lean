import ContainerReplay.Proofs.StraightLine
import Mathlib.Data.List.Forall2

/-!
# Histories of objects

What a unit does with one object is the statements that mention its local, in their order.  A step of a
draft adds to the histories of the objects that it works on and of those that it allocates, and leaves
every other object alone.  A loop that works on one object and gives each item objects of its own is
told by the histories of the one and of the others.
-/

set_option autoImplicit false

namespace ContainerReplay

/-- The locals that a statement defines or uses. -/
def Statement.mentioned (statement : Statement) : List String :=
  statement.defined?.toList ++ statement.usedLocals

/-- The statements that mention a local, in their order. -/
def history (name : String) (statements : List Statement) : List Statement :=
  statements.filter fun statement => name ∈ statement.mentioned

theorem history_append (name : String) (first second : List Statement) :
    history name (first ++ second) = history name first ++ history name second :=
  List.filter_append ..

theorem history_cons (name : String) (statement : Statement) (rest : List Statement) :
    history name (statement :: rest) =
      (if name ∈ statement.mentioned then [statement] else []) ++ history name rest := by
  by_cases mentioned : name ∈ statement.mentioned <;> simp [history, mentioned]

@[simp] theorem history_nil (name : String) : history name [] = [] := rfl

theorem history_eq_nil {name : String} {statements : List Statement}
    (unmentioned : ∀ statement ∈ statements, name ∉ statement.mentioned) :
    history name statements = [] := by
  rw [history, List.filter_eq_nil_iff]
  intro statement member
  simpa using unmentioned statement member

/-- Statements that mention one object only are in its history and in no other. -/
theorem history_of_single {object : String} {statements : List Statement}
    (single : ∀ statement ∈ statements, statement.mentioned = [object]) (name : String) :
    history name statements = if name = object then statements else [] := by
  split
  case isTrue same =>
    rw [history, List.filter_eq_self]
    intro statement member
    simp [single statement member, same]
  case isFalse other =>
    refine history_eq_nil fun statement member => ?_
    rwa [single statement member, List.mem_singleton]

namespace Draft

/-- The statements of the draft that mention a local. -/
def historyOf (draft : Draft) (name : String) : List Statement :=
  history name draft.statements

@[simp] theorem localName_inj {first second : Nat} :
    localName first = localName second ↔ first = second :=
  ⟨localName_injective, congrArg localName⟩

variable (draft : Draft) (name : String)

@[simp] theorem allocate_locals (className : String) :
    (draft.allocate className).locals = draft.locals + 1 := rfl

@[simp] theorem invoke_locals (receiver owner method : String) (arguments : List Value) :
    (draft.invoke receiver owner method arguments).locals = draft.locals := rfl

/-! ## Steps -/

theorem historyOf_write (statement : Statement) :
    (draft.write statement).historyOf name =
      draft.historyOf name ++ if name ∈ statement.mentioned then [statement] else [] := by
  simp [historyOf, write, history, List.filter_cons]

theorem historyOf_define (statement : String → Statement) :
    (draft.define statement).historyOf name =
      draft.historyOf name ++
        if name ∈ (statement draft.next).mentioned then [statement draft.next] else [] := by
  simp [historyOf, define, history, List.filter_cons]

@[simp] theorem historyOf_allocate (className : String) :
    (draft.allocate className).historyOf name =
      draft.historyOf name ++
        if name = draft.next then [.allocate draft.next className] else [] := by
  rw [allocate, historyOf_define]
  simp [Statement.mentioned, Statement.defined?, Statement.usedLocals]

@[simp] theorem historyOf_invoke (receiver owner method : String) (arguments : List Value) :
    (draft.invoke receiver owner method arguments).historyOf name =
      draft.historyOf name ++
        if name ∈ receiver :: arguments.flatMap Value.usedLocals then
          [.invoke none receiver owner method arguments] else [] := by
  rw [invoke, historyOf_write]
  simp [Statement.mentioned, Statement.defined?, Statement.usedLocals]

/-! ## New locals -/

variable {draft}

/-- A local that is yet to come has no history. -/
theorem Sound.historyOf_new (sound : draft.Sound) {number : Nat} (new : draft.locals ≤ number) :
    draft.historyOf (localName number) = [] := by
  have undefined : localName number ∉ definedLocals draft.statements := by
    rw [sound.numbered, List.mem_map]
    rintro ⟨other, earlier, same⟩
    rw [List.mem_range] at earlier
    rw [localName_inj] at same
    omega
  refine history_eq_nil fun statement member mentioned => ?_
  rcases List.mem_append.mp mentioned with defined | used
  · exact undefined (List.mem_filterMap.mpr ⟨statement, member, by simpa using defined⟩)
  · obtain ⟨before, after, divided⟩ := List.append_of_mem member
    have earlier := sound.definedBeforeUse before statement after divided _ used
    rw [divided, definedLocals, List.filterMap_append] at undefined
    exact undefined (List.mem_append_left _ earlier)

theorem Holds.mono {objects others : List String} (holds : draft.Holds objects)
    (included : others ⊆ objects) : draft.Holds others :=
  ⟨holds.sound, fun name member => holds.known name (included member)⟩

/-- Objects that are at hand are in locals so far. -/
theorem Holds.numbered {objects : List String} (holds : draft.Holds objects) {name : String}
    (object : name ∈ objects) : ∃ number < draft.locals, name = localName number := by
  have known := holds.known name object
  rw [Knows, holds.sound.numbered, List.mem_map] at known
  obtain ⟨number, earlier, same⟩ := known
  exact ⟨number, List.mem_range.mp earlier, same.symm⟩

/-- Distinct locals that were defined between two drafts. -/
structure Introduces (before after : Draft) (names : List String) : Prop where
  locals : before.locals ≤ after.locals
  among : ∀ name ∈ names, ∃ number,
    before.locals ≤ number ∧ number < after.locals ∧ name = localName number
  apart : names.Nodup

namespace Introduces

variable {first second third : Draft} {names others : List String}

theorem not_older (introduces : first.Introduces second names) {number : Nat}
    (older : number < first.locals) : localName number ∉ names := by
  intro member
  obtain ⟨other, later, -, same⟩ := introduces.among _ member
  rw [localName_inj] at same
  omega

theorem later (introduces : first.Introduces second names)
    (later : second.locals ≤ third.locals) : first.Introduces third names := by
  refine ⟨Nat.le_trans introduces.locals later, fun name member => ?_, introduces.apart⟩
  obtain ⟨number, lower, upper, same⟩ := introduces.among name member
  exact ⟨number, lower, Nat.lt_of_lt_of_le upper later, same⟩

theorem append (introduces : first.Introduces second names)
    (further : second.Introduces third others) : first.Introduces third (names ++ others) := by
  constructor
  case locals => exact Nat.le_trans introduces.locals further.locals
  case among =>
    intro name member
    rcases List.mem_append.mp member with earlier | after
    · exact (introduces.later further.locals).among name earlier
    · obtain ⟨number, lower, upper, same⟩ := further.among name after
      exact ⟨number, Nat.le_trans introduces.locals lower, upper, same⟩
  case apart =>
    rw [List.nodup_append]
    refine ⟨introduces.apart, further.apart, fun name member other member' same => ?_⟩
    obtain ⟨number, -, earlier, rfl⟩ := introduces.among name member
    exact further.not_older earlier (same ▸ member')

end Introduces

theorem introduces_nil {before after : Draft} (later : before.locals ≤ after.locals) :
    before.Introduces after [] :=
  ⟨later, by simp, by simp⟩

theorem introduces_next (draft : Draft) {after : Draft} (later : draft.locals < after.locals) :
    draft.Introduces after [draft.next] :=
  ⟨Nat.le_of_lt later, fun _ member =>
    ⟨draft.locals, Nat.le_refl _, later, List.mem_singleton.mp member⟩, by simp⟩

/-! ## Objects that are left alone -/

/-- What is written between two drafts touches none of the objects so far, some objects apart. -/
structure Spares (before after : Draft) (objects : List String) : Prop where
  written : before.Extends after
  locals : before.locals ≤ after.locals
  history : ∀ number < before.locals, localName number ∉ objects →
    after.historyOf (localName number) = before.historyOf (localName number)

namespace Spares

variable {first second third : Draft} {objects : List String}

theorem refl (draft : Draft) (objects : List String) : draft.Spares draft objects :=
  ⟨Extends.refl draft, Nat.le_refl _, fun _ _ _ => rfl⟩

theorem trans (lower : first.Spares second objects) (upper : second.Spares third objects) :
    first.Spares third objects := by
  refine ⟨lower.written.trans upper.written, Nat.le_trans lower.locals upper.locals,
    fun number earlier other => ?_⟩
  have still := Nat.lt_of_lt_of_le earlier lower.locals
  rw [upper.history number still other, lower.history number earlier other]

theorem mono {others : List String} (spares : first.Spares second objects)
    (included : objects ⊆ others) : first.Spares second others :=
  ⟨spares.written, spares.locals, fun number earlier apart =>
    spares.history number earlier fun member => apart (included member)⟩

/-- Objects that are allocated on the way need not be named. -/
theorem forget {newer : List String} (spares : first.Spares second (newer ++ objects))
    (new : first.Introduces second newer) : first.Spares second objects := by
  refine ⟨spares.written, spares.locals, fun number earlier apart =>
    spares.history number earlier fun member => ?_⟩
  rcases List.mem_append.mp member with isNew | named
  · exact new.not_older earlier isNew
  · exact apart named

/-- What is at hand keeps its history. -/
theorem historyOf {names : List String} (spares : first.Spares second objects)
    (holds : first.Holds names) {name : String} (object : name ∈ names)
    (apart : name ∉ objects) : second.historyOf name = first.historyOf name := by
  obtain ⟨number, earlier, rfl⟩ := holds.numbered object
  exact spares.history number earlier apart

/-- What is introduced keeps its history while only older objects are worked on. -/
theorem historyOf_introduced {names : List String} (spares : second.Spares third objects)
    (holds : first.Holds objects) (new : first.Introduces second names) {name : String}
    (member : name ∈ names) : third.historyOf name = second.historyOf name := by
  obtain ⟨number, -, earlier, rfl⟩ := new.among name member
  refine spares.history number earlier fun object => ?_
  obtain ⟨other, older, same⟩ := holds.numbered object
  exact new.not_older older (same ▸ member)

end Spares

variable (draft) {objects : List String}

theorem spares_write {statement : Statement}
    (about : ∀ name ∈ statement.mentioned, name ∈ objects) :
    draft.Spares (draft.write statement) objects := by
  refine ⟨draft.extends_write statement, Nat.le_refl _, fun number _ apart => ?_⟩
  rw [historyOf_write, if_neg fun mentioned => apart (about _ mentioned), List.append_nil]

theorem spares_define {statement : String → Statement}
    (about : ∀ name ∈ (statement draft.next).mentioned, name = draft.next ∨ name ∈ objects) :
    draft.Spares (draft.define statement) objects := by
  refine ⟨draft.extends_define statement, Nat.le_succ _, fun number earlier apart => ?_⟩
  rw [historyOf_define, if_neg, List.append_nil]
  intro mentioned
  rcases about _ mentioned with new | member
  · exact absurd earlier (Nat.not_lt.mpr (Nat.le_of_eq (localName_inj.mp new).symm))
  · exact apart member

theorem spares_allocate (className : String) :
    draft.Spares (draft.allocate className) objects :=
  draft.spares_define fun name mentioned => Or.inl (by
    simpa [Statement.mentioned, Statement.defined?, Statement.usedLocals] using mentioned)

theorem spares_invoke {receiver : String} {arguments : List Value} (object : receiver ∈ objects)
    (used : ∀ name ∈ arguments.flatMap Value.usedLocals, name ∈ objects)
    (owner method : String) :
    draft.Spares (draft.invoke receiver owner method arguments) objects := by
  refine draft.spares_write fun name mentioned => ?_
  rcases List.mem_cons.mp mentioned with rfl | inArguments
  · exact object
  · exact used name inArguments

/-- Statements that mention no object so far, some objects apart. -/
theorem spares_append {more : List Statement} {locals : Nat}
    (untouched : ∀ number < draft.locals, localName number ∉ objects →
      ContainerReplay.history (localName number) more = [])
    (grown : draft.locals ≤ locals) : draft.Spares ⟨draft.statements ++ more, locals⟩ objects := by
  refine ⟨List.prefix_append _ _, grown, fun number earlier apart => ?_⟩
  rw [historyOf, historyOf, history_append, untouched number earlier apart, List.append_nil]

end Draft

/-! ## Loops about one object -/

/-- A loop that works on one object: each round introduces objects of its own and passes them in one
statement about the object. -/
structure Loop (Item Round : Type) where
  object : String
  locals : Round → List String
  statement : Round → Statement
  /-- What a round for an item makes of its objects. -/
  Outcome : Item → Round → List Statement → Prop
  /-- Nothing but the histories of its objects matters to an outcome. -/
  outcome_congr : ∀ {item round first second},
    (∀ name ∈ locals round, history name second = history name first) →
      Outcome item round first → Outcome item round second

namespace Loop

open Draft

variable {Item Round : Type} {loop : Loop Item Round} {objects : List String}
  {first second third : Draft} {item : Item} {round : Round} {items : List Item}
  {rounds : List Round}

/-- Between two drafts the loop has one round for each item. -/
structure Runs (loop : Loop Item Round) (before after : Draft) (items : List Item)
    (rounds : List Round) : Prop where
  spares : before.Spares after [loop.object]
  ofObject : after.historyOf loop.object =
    before.historyOf loop.object ++ rounds.map loop.statement
  new : before.Introduces after (rounds.flatMap loop.locals)
  outcomes : List.Forall₂ (fun item round => loop.Outcome item round after.statements) items rounds

namespace Runs

theorem nil (draft : Draft) : loop.Runs draft draft [] [] :=
  ⟨Spares.refl draft _, by simp, introduces_nil (Nat.le_refl _), .nil⟩

/-- Outcomes stay while only older objects are worked on. -/
theorem outcomes_later (runs : loop.Runs first second items rounds) (holds : first.Holds objects)
    (spares : second.Spares third objects) :
    List.Forall₂ (fun item round => loop.Outcome item round third.statements) items rounds := by
  refine List.forall₂_iff_zip.mpr ⟨runs.outcomes.length_eq, fun {item round} paired => ?_⟩
  refine loop.outcome_congr (fun name member => ?_)
    ((List.forall₂_iff_zip.mp runs.outcomes).2 paired)
  exact spares.historyOf_introduced holds runs.new
    (List.mem_flatMap.mpr ⟨round, (List.of_mem_zip paired).2, member⟩)

theorem cons (holds : first.Holds [loop.object]) (one : loop.Runs first second [item] [round])
    (rest : loop.Runs second third items rounds) :
    loop.Runs first third (item :: items) (round :: rounds) := by
  have new : first.Introduces second (loop.locals round) := by simpa using one.new
  constructor
  case spares => exact one.spares.trans rest.spares
  case ofObject => simp [rest.ofObject, one.ofObject]
  case new =>
    rw [List.flatMap_cons]
    exact new.append rest.new
  case outcomes =>
    -- what the later rounds do to the object leaves the objects of this round alone
    have still := one.outcomes_later holds rest.spares
    exact .cons (List.forall₂_cons.mp still).1 rest.outcomes

end Runs

/-- If each step is a round, then the fold of the steps is a run. -/
theorem runs_foldl {step : Draft → Item → Draft} (object : loop.object ∈ objects)
    (steps : ∀ (draft : Draft) (item : Item), draft.Holds objects →
      (step draft item).Holds objects ∧
        ∃ round, loop.Runs draft (step draft item) [item] [round])
    (items : List Item) {draft : Draft} (holds : draft.Holds objects) :
    (items.foldl step draft).Holds objects ∧
      ∃ rounds, loop.Runs draft (items.foldl step draft) items rounds := by
  induction items generalizing draft with
  | nil => exact ⟨holds, [], .nil draft⟩
  | cons item rest ih =>
      obtain ⟨still, round, one⟩ := steps draft item holds
      obtain ⟨done, rounds, others⟩ := ih still
      have first : draft.Holds [loop.object] := holds.mono (by simpa using object)
      exact ⟨done, round :: rounds, one.cons first others⟩

end Loop

namespace Synthesis

open Draft

/-! ## Injected resources -/

/-- A store for every injection of the application that has the class as its target, in order. -/
def injectionStores (app : Application) (className receiver : String) : List Statement :=
  (app.injections.toList.filter fun injection => injection.target.targetClass = className).map
    fun injection =>
      .store receiver injection.target.targetName (.resource injection.resourceName)

theorem exists_of_mem_injectionStores {app : Application} {className receiver : String}
    {statement : Statement} (member : statement ∈ injectionStores app className receiver) :
    ∃ field resource, statement = .store receiver field (.resource resource) := by
  obtain ⟨injection, -, rfl⟩ := List.mem_map.mp member
  exact ⟨_, _, rfl⟩

@[simp] theorem history_injectionStores (app : Application) (className receiver name : String) :
    history name (injectionStores app className receiver) =
      if name = receiver then injectionStores app className receiver else [] := by
  refine history_of_single (fun statement member => ?_) name
  obtain ⟨field, resource, rfl⟩ := exists_of_mem_injectionStores member
  rfl

theorem statements_foldl_write {α : Type} (statement : α → Statement) (items : List α)
    (draft : Draft) :
    items.foldl (fun draft item => draft.write (statement item)) draft =
      ⟨draft.statements ++ items.map statement, draft.locals⟩ := by
  induction items generalizing draft with
  | nil => simp
  | cons item rest ih =>
      rw [List.foldl_cons, ih]
      simp [Draft.write]

theorem allocateInjected_eq (app : Application) (className : String) (draft : Draft) :
    allocateInjected app className draft =
      ⟨draft.statements ++ .allocate draft.next className ::
        injectionStores app className draft.next, draft.locals + 1⟩ := by
  have targeted : app.injectionsFor className = app.injections.toList.filter fun injection =>
      injection.target.targetClass = className := List.filter_congr fun _ _ => beq_eq_decide _ _
  rw [allocateInjected, storeInjections, targeted]
  unfold Draft.store
  rw [statements_foldl_write]
  simp [injectionStores, Draft.allocate, Draft.define]

/-! ## Exchanges -/

theorem exchange_locals (path : Option String) (draft : Draft) :
    (exchange path draft).locals = draft.locals + 2 := by
  cases path <;> rfl

theorem introduces_exchange (path : Option String) (draft : Draft) :
    draft.Introduces (exchange path draft) [draft.next, localName (draft.locals + 1)] := by
  refine ⟨by rw [exchange_locals]; omega, fun name member => ?_, by simp [next]⟩
  rw [exchange_locals]
  rcases List.mem_pair.mp member with rfl | rfl
  · exact ⟨draft.locals, by omega, by omega, rfl⟩
  · exact ⟨draft.locals + 1, by omega, by omega, rfl⟩

theorem spares_exchange (path : Option String) (draft : Draft) (objects : List String) :
    draft.Spares (exchange path draft) objects := by
  have allocated : draft.Spares (draft.allocate (Driver.synthetic "HttpServletRequest"))
      ([draft.next] ++ objects) := draft.spares_allocate _
  refine Spares.forget ?_ (draft.introduces_next (by rw [exchange_locals]; omega))
  cases path with
  | none => exact allocated.trans (spares_allocate _ _)
  | some path =>
      exact (allocated.trans (spares_invoke _ List.mem_cons_self (by simp) _ _)).trans
        (spares_allocate _ _)

/-- The statements that address a request. -/
def addressing (request : String) (path : Option String) : List Statement :=
  path.toList.map fun path =>
    .invoke none request (Driver.synthetic "HttpServletRequest") "setServletPath" [.text path]

theorem historyOf_request (path : Option String) {draft : Draft} (sound : draft.Sound) :
    (exchange path draft).historyOf draft.next =
      .allocate draft.next (Driver.synthetic "HttpServletRequest") ::
        addressing draft.next path := by
  have new := sound.historyOf_new (Nat.le_refl draft.locals)
  cases path <;> simp [exchange, addressing, next, new]

theorem historyOf_response (path : Option String) {draft : Draft} (sound : draft.Sound) :
    (exchange path draft).historyOf (localName (draft.locals + 1)) =
      [.allocate (localName (draft.locals + 1)) (Driver.synthetic "HttpServletResponse")] := by
  have new : draft.historyOf (localName (draft.locals + 1)) = [] :=
    sound.historyOf_new (Nat.le_succ draft.locals)
  cases path <;> simp [exchange, next, new]

end Synthesis

end ContainerReplay
