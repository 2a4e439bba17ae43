import ContainerReplay.Proofs.DeploymentStages
import ContainerReplay.Proofs.MappingTargets

/-!
# What the parts of a read add up to

Every handler of a descriptor's elements counts and remarks what its element tells it to, and the
tallies of the elements add up to the tally of their section.  Only whether a registered class is on
record with an unrelated kind depends on what was read before.
-/

set_option autoImplicit false

namespace ContainerReplay

/-! ## Outcomes of registrations -/

def MergeOutcome.isConflict : MergeOutcome → Bool
  | .conflict _ _ => true
  | .inserted => false
  | .enriched => false
  | .upgraded _ _ => false

namespace Application

/-- The outcomes of registering components one after the other. -/
def outcomes : Application → List Component → List MergeOutcome
  | _, [] => []
  | app, component :: rest => app.outcome component :: (app.register component).outcomes rest

theorem outcomes_append (app : Application) (first second : List Component) :
    app.outcomes (first ++ second) = app.outcomes first ++ (app.registerAll first).outcomes second := by
  induction first generalizing app with
  | nil => rfl
  | cons component rest ih =>
      rw [List.cons_append, outcomes, ih]
      rfl

def conflicts (app : Application) (components : List Component) : Nat :=
  (app.outcomes components).countP MergeOutcome.isConflict

theorem conflicts_append (app : Application) (first second : List Component) :
    app.conflicts (first ++ second) =
      app.conflicts first + (app.registerAll first).conflicts second := by
  rw [conflicts, outcomes_append, List.countP_append]
  rfl

end Application

namespace Descriptor

open Markup (Element)

/-! ## Tallies -/

/-- What a part of a read adds to the summary and to the diagnostics: entries that are taken, what is
skipped with a warning, warnings about what is taken, and notes. -/
@[ext] structure Tally where
  entries : Nat := 0
  skipped : Nat := 0
  complaints : Nat := 0
  notes : List Diagnostic := []

namespace Tally

instance : Append Tally where
  append first second :=
    { entries := first.entries + second.entries
      skipped := first.skipped + second.skipped
      complaints := first.complaints + second.complaints
      notes := first.notes ++ second.notes }

variable (first second : Tally)

@[simp] theorem append_entries : (first ++ second).entries = first.entries + second.entries := rfl

@[simp] theorem append_skipped : (first ++ second).skipped = first.skipped + second.skipped := rfl

@[simp] theorem append_complaints :
    (first ++ second).complaints = first.complaints + second.complaints := rfl

@[simp] theorem append_notes : (first ++ second).notes = first.notes ++ second.notes := rfl

theorem empty_append : ({} : Tally) ++ first = first := by
  ext1 <;> simp

/-- What all of some elements add. -/
def total (tally : Element → Tally) (elements : List Element) : Tally :=
  elements.foldr (fun element rest => tally element ++ rest) {}

theorem total_cons (tally : Element → Tally) (element : Element) (rest : List Element) :
    total tally (element :: rest) = tally element ++ total tally rest := rfl

theorem append_complaints_comm (complaints later : Nat) :
    (first ++ ({ complaints := complaints } : Tally)) ++ (second ++ { complaints := later }) =
      (first ++ second) ++ { complaints := complaints + later } := by
  ext1
  · simp only [append_entries]
    omega
  · simp only [append_skipped]
    omega
  · simp only [append_complaints]
    omega
  · simp only [append_notes, List.append_nil]

theorem append_declared (nameless bad conflicts : Nat) :
    ({ skipped := nameless } ++ { complaints := bad }) ++
        ({ entries := 1 } ++ { complaints := conflicts }) =
      ({ entries := 1, skipped := nameless, complaints := bad } : Tally) ++
        { complaints := conflicts } := by
  ext1 <;> simp

end Tally

/-- A tally accounts for what lies between two readings. -/
structure Adds (tally : Tally) (before after : Reading) : Prop where
  entries : after.summary.entries = before.summary.entries + tally.entries
  skipped : after.summary.skipped = before.summary.skipped + tally.skipped
  said : ∃ said, after.survey.diagnostics = before.survey.diagnostics ++ said ∧
    Diagnostic.count .warn said = tally.skipped + tally.complaints ∧
    said.filter (fun diagnostic => diagnostic.severity == .info) = tally.notes ∧
    Diagnostic.count .error said = 0

section

variable {tally other : Tally} {first second third : Reading}

theorem Adds.trans (adds : Adds tally first second) (more : Adds other second third) :
    Adds (tally ++ other) first third := by
  obtain ⟨said, diagnostics, warnings, notes, errors⟩ := adds.said
  obtain ⟨later, laterDiagnostics, laterWarnings, laterNotes, laterErrors⟩ := more.said
  refine ⟨?_, ?_, said ++ later, ?_, ?_, ?_, ?_⟩
  · rw [more.entries, adds.entries, Tally.append_entries, Nat.add_assoc]
  · rw [more.skipped, adds.skipped, Tally.append_skipped, Nat.add_assoc]
  · rw [laterDiagnostics, diagnostics, List.append_assoc]
  · rw [Diagnostic.count, List.countP_append, ← Diagnostic.count, ← Diagnostic.count, warnings,
      laterWarnings, Tally.append_skipped, Tally.append_complaints]
    omega
  · rw [List.filter_append, notes, laterNotes, Tally.append_notes]
  · rw [Diagnostic.count, List.countP_append, ← Diagnostic.count, ← Diagnostic.count, errors,
      laterErrors]

theorem Adds.congr (adds : Adds tally first second) (same : tally = other) :
    Adds other first second :=
  same ▸ adds

theorem Adds.refl (reading : Reading) : Adds {} reading reading :=
  ⟨rfl, rfl, [], (List.append_nil _).symm, rfl, rfl, rfl⟩

variable (source : Source) (reading : Reading)

theorem adds_count : Adds { entries := 1 } reading reading.count :=
  ⟨rfl, rfl, [], (List.append_nil _).symm, rfl, rfl, rfl⟩

theorem adds_updateApp (change : Application → Application) :
    Adds {} reading (reading.updateApp change) :=
  ⟨rfl, rfl, [], (List.append_nil _).symm, rfl, rfl, rfl⟩

theorem adds_skip (element : Element) (reason : String) :
    Adds { skipped := 1 } reading (reading.skip source element reason) :=
  ⟨rfl, rfl, [_], rfl, rfl, rfl, rfl⟩

theorem adds_warning (message : String) :
    Adds { complaints := 1 } reading (reading.remark source .warn message) :=
  ⟨rfl, rfl, [_], rfl, rfl, rfl, rfl⟩

theorem adds_note (message : String) :
    Adds { notes := [⟨.info, message, some source.resource⟩] } reading
      (reading.remark source .info message) :=
  ⟨rfl, rfl, [_], rfl, rfl, rfl, rfl⟩

/-- A registered component is an entry, and in a conflict there is a warning too. -/
theorem adds_register (component : Component) :
    Adds ({ entries := 1 } ++ { complaints := reading.survey.app.conflicts [component] }) reading
      (reading.update fun survey => survey.register component).count := by
  refine ⟨rfl, rfl, _, Survey.register_diagnostics reading.survey component, ?_⟩
  simp only [Application.conflicts, Application.outcomes]
  cases reading.survey.app.outcome component with
  | conflict kept rejected => exact ⟨rfl, rfl, rfl⟩
  | inserted => exact ⟨rfl, rfl, rfl⟩
  | enriched => exact ⟨rfl, rfl, rfl⟩
  | upgraded source target => exact ⟨rfl, rfl, rfl⟩

end

/-! ## Elements one after the other -/

section

variable {σ : Type} (view : σ → Reading) {take : σ → Element → σ} {tally : Element → Tally}

/-- The tallies of a section add up, if each holds under a condition that the section keeps. -/
theorem adds_foldl (kept : σ → Prop)
    (step : ∀ state element, kept state →
      Adds (tally element) (view state) (view (take state element)) ∧ kept (take state element))
    (elements : List Element) (state : σ) (start : kept state) :
    Adds (Tally.total tally elements) (view state) (view (elements.foldl take state)) := by
  induction elements generalizing state with
  | nil => exact .refl _
  | cons element rest ih =>
      obtain ⟨adds, keeps⟩ := step state element start
      exact adds.trans (ih _ keeps)

/-- In a section that registers components the conflicts come on top. -/
theorem adds_foldl_register {registered? : Element → Option Component}
    (registers : ∀ state element, (view (take state element)).survey.app =
      (registered? element).elim (view state).survey.app (view state).survey.app.register)
    (step : ∀ state element,
      Adds (tally element ++
          { complaints := (view state).survey.app.conflicts (registered? element).toList })
        (view state) (view (take state element)))
    (elements : List Element) (state : σ) :
    Adds (Tally.total tally elements ++
        { complaints := (view state).survey.app.conflicts (elements.filterMap registered?) })
      (view state) (view (elements.foldl take state)) := by
  induction elements generalizing state with
  | nil => exact .refl _
  | cons element rest ih =>
      have both := (step state element).trans (ih (take state element))
      have listed : (element :: rest).filterMap registered? =
          (registered? element).toList ++ rest.filterMap registered? := by
        rw [List.filterMap_cons]
        cases registered? element <;> rfl
      have next : (view (take state element)).survey.app =
          (view state).survey.app.registerAll (registered? element).toList := by
        rw [registers]
        cases registered? element <;> rfl
      -- the conflicts of the rest start from the application that this element leaves
      rw [next, Tally.append_complaints_comm] at both
      rw [List.foldl_cons, listed, Application.conflicts_append, Tally.total_cons]
      exact both

end

/-! ## How entries fare -/

/-- What becomes of an entry: it is counted as taken or as skipped, or it is a page and is noted. -/
inductive Fate where
  | entry
  | skipped
  | page
  deriving Repr, DecidableEq

namespace Deployment

/-- The parameter has no name, or a blank one. -/
def isNameless (parameter : Element) : Bool :=
  childText? parameter "param-name" = none

theorem isNameless_eq (parameter : Element) :
    isNameless parameter = (parameter? parameter).isNone := by
  unfold isNameless parameter?
  cases childText? parameter "param-name" <;> rfl

def hasBadOrder (servlet : Element) : Bool :=
  (childText? servlet "load-on-startup").any fun order =>
    !(Text.readInt Text.maxInt32 order).isOk

/-- A servlet is a page if it has a name and a file in the place of a class. -/
def servletFate (element : Element) : Fate :=
  match childText? element "servlet-name", childText? element "servlet-class",
      childText? element "jsp-file" with
  | some _, some _, _ => .entry
  | some _, none, some _ => .page
  | _, _, _ => .skipped

def pageNote (source : Source) (element : Element) : Diagnostic where
  severity := .info
  message :=
    let name := (childText? element "servlet-name").getD ""
    s!"Servlet '{name}' is a JSP page and has no class to dispatch to"
  resource := some source.resource

end Deployment

/-- A mapping is taken if it has a name and there is a class for it. -/
def MappingForm.fate (form : MappingForm) (declarations : Declarations) (app : Application)
    (element : Element) : Fate :=
  match form.mapping? element with
  | none => .skipped
  | some mapping =>
      if (Deployment.mappingTarget? app declarations mapping.name).isSome then .entry else .skipped

theorem MappingForm.fate_ne_page (form : MappingForm) (declarations : Declarations)
    (app : Application) (element : Element) : form.fate declarations app element ≠ .page := by
  unfold fate
  split
  · exact Fate.noConfusion
  · split <;> exact Fate.noConfusion

/-- A kind of entries: how each fares, which of them register a component with parameters, and which
of these are complained about. -/
structure EntryForm where
  element : String
  fate : Element → Fate
  declares : Element → Bool := fun _ => false
  flawed : Element → Bool := fun _ => false

namespace EntryForm

def servlets : EntryForm where
  element := "servlet"
  fate := Deployment.servletFate
  declares := fun element => (Deployment.declaredServlet? element).isSome
  flawed := Deployment.hasBadOrder

def filters : EntryForm where
  element := "filter"
  fate := fun element =>
    if (Deployment.declaredFilter? element).isSome then .entry else .skipped
  declares := fun element => (Deployment.declaredFilter? element).isSome

/-- Mappings are looked up in an application, by the names that a section declares first. -/
def mappings (form : MappingForm) (declared : List NamedComponent) (app : Application) :
    EntryForm where
  element := form.element
  fate := form.fate (declarationsOf declared) app

def listeners : EntryForm where
  element := "listener"
  fate := fun element =>
    if (Deployment.declaredListener? element).isSome then .entry else .skipped

/-- How many elements of the kind below a root fare in one way. -/
def count (form : EntryForm) (root : Element) (fate : Fate) : Nat :=
  (root.childrenNamed form.element).countP fun element => form.fate element == fate

/-- What an element adds, a conflict with what is on record apart. -/
def tally (form : EntryForm) (source : Source) (element : Element) : Tally where
  entries := (form.fate element == .entry).toNat
  skipped := (form.fate element == .skipped).toNat +
    if form.declares element then
      (element.childrenNamed "init-param").countP Deployment.isNameless
    else 0
  complaints := (form.declares element && form.flawed element).toNat
  notes := if form.fate element = .page then [Deployment.pageNote source element] else []

section

variable {form : EntryForm} (source : Source) {element : Element}

theorem tally_skipped (skipped : form.fate element = .skipped)
    (undeclared : form.declares element = false) :
    form.tally source element = { skipped := 1 } := by
  simp [tally, skipped, undeclared]

theorem tally_page (page : form.fate element = .page)
    (undeclared : form.declares element = false) :
    form.tally source element = { notes := [Deployment.pageNote source element] } := by
  simp [tally, page, undeclared]

theorem tally_entry (taken : form.fate element = .entry)
    (undeclared : form.declares element = false) :
    form.tally source element = { entries := 1 } := by
  simp [tally, taken, undeclared]

theorem tally_declared (taken : form.fate element = .entry)
    (declared : form.declares element = true) :
    form.tally source element =
      { entries := 1
        skipped := (element.childrenNamed "init-param").countP Deployment.isNameless
        complaints := (form.flawed element).toNat } := by
  simp [tally, taken, declared]

end

theorem total_tally (form : EntryForm) (source : Source) (elements : List Element) :
    Tally.total (form.tally source) elements =
      { entries := elements.countP fun element => form.fate element == .entry
        skipped := (elements.countP fun element => form.fate element == .skipped) +
          ((elements.filter form.declares).flatMap
            fun element => element.childrenNamed "init-param").countP Deployment.isNameless
        complaints := (elements.filter form.declares).countP form.flawed
        notes := (elements.filter fun element => form.fate element == .page).map
          (Deployment.pageNote source) } := by
  induction elements with
  | nil => rfl
  | cons element rest ih =>
      rw [Tally.total_cons, ih]
      ext1
      · cases taken : form.fate element == .entry <;> simp [tally, taken, Nat.add_comm]
      · cases skipped : form.fate element == .skipped <;>
          cases declared : form.declares element <;>
          simp [tally, skipped, declared] <;> omega
      · cases declared : form.declares element <;> cases flawed : form.flawed element <;>
          simp [tally, declared, flawed, Nat.add_comm]
      · by_cases page : form.fate element = .page <;> simp [tally, page]

/-- In a section without pages whose entries are not complained about there is less to add. -/
theorem total_quiet {form : EntryForm} (noPage : ∀ element, form.fate element ≠ .page)
    (flawless : form.flawed = fun _ => false) (source : Source) (elements : List Element) :
    Tally.total (form.tally source) elements =
      { entries := elements.countP fun element => form.fate element == .entry
        skipped := (elements.countP fun element => form.fate element == .skipped) +
          ((elements.filter form.declares).flatMap
            fun element => element.childrenNamed "init-param").countP Deployment.isNameless } := by
  rw [total_tally, flawless]
  ext1
  · rfl
  · rfl
  · simp
  · simp [noPage]

theorem total_plain {form : EntryForm} (noPage : ∀ element, form.fate element ≠ .page)
    (flawless : form.flawed = fun _ => false) (plain : form.declares = fun _ => false)
    (source : Source) (elements : List Element) :
    Tally.total (form.tally source) elements =
      { entries := elements.countP fun element => form.fate element == .entry
        skipped := elements.countP fun element => form.fate element == .skipped } := by
  rw [total_quiet noPage flawless, plain]
  ext1 <;> simp

theorem filters_fate_ne_page (element : Element) : filters.fate element ≠ .page := by
  simp only [filters]
  split <;> exact Fate.noConfusion

theorem listeners_fate_ne_page (element : Element) : listeners.fate element ≠ .page := by
  simp only [listeners]
  split <;> exact Fate.noConfusion

end EntryForm

/-! ## What each handler adds -/

namespace Deployment

variable (source : Source)

def parameterTally (parameter : Element) : Tally :=
  { skipped := (isNameless parameter).toNat }

theorem total_parameterTally (parameters : List Element) :
    Tally.total parameterTally parameters = { skipped := parameters.countP isNameless } := by
  induction parameters with
  | nil => rfl
  | cons parameter rest ih =>
      rw [Tally.total_cons, ih]
      cases nameless : isNameless parameter <;> ext1 <;>
        simp [parameterTally, nameless, Nat.add_comm]

theorem adds_contextParam (reading : Reading) (parameter : Element) :
    Adds (parameterTally parameter) reading (contextParam source reading parameter) := by
  rw [contextParam, parameterTally, isNameless_eq]
  cases parameter? parameter with
  | none => exact adds_skip source reading parameter _
  | some pair => exact adds_updateApp reading _

theorem adds_initParam (state : Reading × Component) (parameter : Element) :
    Adds (parameterTally parameter) state.1 (initParam source state parameter).1 := by
  rw [initParam, parameterTally, isNameless_eq]
  cases parameter? parameter with
  | none => exact adds_skip source state.1 parameter _
  | some pair => exact .refl state.1

theorem adds_initParams (element : Element) (reading : Reading) (component : Component) :
    Adds { skipped := (element.childrenNamed "init-param").countP isNameless } reading
      (initParams source element reading component).1 := by
  rw [← total_parameterTally]
  exact adds_foldl Prod.fst (fun _ => True)
    (fun state parameter _ => ⟨adds_initParam source state parameter, trivial⟩) _
    (reading, component) trivial

theorem adds_startupOrder (element : Element) (name : String) (state : Reading × Component) :
    Adds { complaints := (hasBadOrder element).toNat } state.1
      (startupOrder source element name state).1 := by
  unfold startupOrder hasBadOrder
  cases childText? element "load-on-startup" with
  | none => exact .refl state.1
  | some order =>
      simp only [Option.any_some]
      cases Text.readInt Text.maxInt32 order with
      | ok value => exact .refl state.1
      | error fault => exact adds_warning source state.1 _

theorem adds_declare (name : String) (declarations : Declarations) (state : Reading × Component) :
    Adds ({ entries := 1 } ++ { complaints := state.1.survey.app.conflicts [state.2] }) state.1
      (declare name declarations state).1 :=
  adds_register state.1 state.2

theorem adds_servlet (state : Reading × Declarations) (element : Element) :
    Adds (EntryForm.servlets.tally source element ++
        { complaints := state.1.survey.app.conflicts
            ((declaredServlet? element).map NamedComponent.component).toList })
      state.1 (servlet source state element).1 := by
  cases named : childText? element "servlet-name" with
  | none =>
      have undeclared : declaredServlet? element = none := by simp [declaredServlet?, named]
      have skipped : servletFate element = .skipped := by simp [servletFate, named]
      rw [EntryForm.tally_skipped source skipped (by simp [EntryForm.servlets, undeclared]),
        undeclared, servlet, named]
      exact adds_skip source state.1 element _
  | some name =>
      cases ofClass : childText? element "servlet-class" with
      | none =>
          have undeclared : declaredServlet? element = none := by
            simp [declaredServlet?, named, ofClass]
          cases ofFile : childText? element "jsp-file" with
          | none =>
              have skipped : servletFate element = .skipped := by
                simp [servletFate, named, ofClass, ofFile]
              rw [EntryForm.tally_skipped source skipped (by simp [EntryForm.servlets, undeclared]),
                undeclared, servlet, named]
              simp only [ofClass, ofFile]
              exact adds_skip source state.1 element _
          | some file =>
              -- the only entry that is neither counted nor warned about
              have page : servletFate element = .page := by
                simp [servletFate, named, ofClass, ofFile]
              rw [EntryForm.tally_page source page (by simp [EntryForm.servlets, undeclared]),
                undeclared, servlet, named]
              simp only [ofClass, ofFile, pageNote, named, Option.getD_some]
              exact adds_note source state.1 _
      | some className =>
          obtain ⟨app, declared⟩ := servlet_read source state.1 named ofClass
          have taken : servletFate element = .entry := by simp [servletFate, named, ofClass]
          have read := ((adds_initParams source element state.1
            (({ className, kind := .servlet } : Component).addName name)).trans
              (adds_startupOrder source element name _)).trans (adds_declare name state.2 _)
          rw [app, Tally.append_declared] at read
          rw [EntryForm.tally_declared source taken (by simp [EntryForm.servlets, declared]),
            declared, servlet, named]
          simp only [ofClass]
          exact read

theorem adds_filter (state : Reading × Declarations) (element : Element) :
    Adds (EntryForm.filters.tally source element ++
        { complaints := state.1.survey.app.conflicts
            ((declaredFilter? element).map NamedComponent.component).toList })
      state.1 (filter source state element).1 := by
  cases named : childText? element "filter-name" with
  | none =>
      have undeclared : declaredFilter? element = none := by simp [declaredFilter?, named]
      rw [EntryForm.tally_skipped source (by simp [EntryForm.filters, undeclared])
        (by simp [EntryForm.filters, undeclared]), undeclared, filter, named]
      exact adds_skip source state.1 element _
  | some name =>
      cases ofClass : childText? element "filter-class" with
      | none =>
          have undeclared : declaredFilter? element = none := by
            simp [declaredFilter?, named, ofClass]
          rw [EntryForm.tally_skipped source (by simp [EntryForm.filters, undeclared])
            (by simp [EntryForm.filters, undeclared]), undeclared, filter, named, ofClass]
          exact adds_skip source state.1 element _
      | some className =>
          obtain ⟨app, declared⟩ := filter_read source state.1 named ofClass
          have read := ((adds_initParams source element state.1
            (({ className, kind := .filter } : Component).addName name)).trans
              (.refl _)).trans (adds_declare name state.2 _)
          rw [app, Tally.append_declared] at read
          rw [EntryForm.tally_declared source (by simp [EntryForm.filters, declared])
            (by simp [EntryForm.filters, declared]), declared, filter, named, ofClass]
          exact read

theorem adds_listener (reading : Reading) (element : Element) :
    Adds (EntryForm.listeners.tally source element ++
        { complaints := reading.survey.app.conflicts (declaredListener? element).toList })
      reading (listener source reading element) := by
  cases ofClass : childText? element "listener-class" with
  | none =>
      have undeclared : declaredListener? element = none := by simp [declaredListener?, ofClass]
      rw [EntryForm.tally_skipped source (by simp [EntryForm.listeners, undeclared]) rfl,
        undeclared, listener, ofClass]
      exact adds_skip source reading element _
  | some className =>
      have declared : declaredListener? element = some { className, kind := .listener } := by
        simp [declaredListener?, ofClass]
      rw [EntryForm.tally_entry source (by simp [EntryForm.listeners, declared]) rfl, declared,
        listener, ofClass]
      exact adds_register reading { className, kind := .listener }

theorem adds_take (form : MappingForm) {declared : List NamedComponent} {app : Application}
    {reading : Reading} (settled : SameLookups (declarationsOf declared) reading.survey.app app)
    (element : Element) :
    Adds ((EntryForm.mappings form declared app).tally source element) reading
      (form.take source (declarationsOf declared) reading element) := by
  cases read : form.mapping? element with
  | none =>
      rw [EntryForm.tally_skipped source (by simp [EntryForm.mappings, MappingForm.fate, read]) rfl,
        MappingForm.take, read]
      exact adds_skip source reading element _
  | some mapping =>
      -- the fate is told by one application and the lookup made in a later one
      have same := settled mapping.name
      cases target : mappingTarget? reading.survey.app (declarationsOf declared) mapping.name with
      | none =>
          rw [target] at same
          rw [EntryForm.tally_skipped source
            (by simp [EntryForm.mappings, MappingForm.fate, read, ← same]) rfl,
            MappingForm.take, read]
          simp only [target]
          exact adds_skip source reading element _
      | some className =>
          rw [target] at same
          rw [EntryForm.tally_entry source
            (by simp [EntryForm.mappings, MappingForm.fate, read, ← same]) rfl,
            MappingForm.take, read]
          simp only [target]
          exact (adds_updateApp reading _).trans (adds_count _)

theorem adds_displayName (root : Element) (reading : Reading) :
    Adds {} reading (displayName root reading) := by
  unfold displayName
  cases childText? root "display-name" with
  | none => exact .refl reading
  | some name => exact adds_updateApp reading _

/-- While the mappings of a section are taken the lookups stay as they are. -/
theorem adds_foldl_take (form : MappingForm) (declared : List NamedComponent) {app : Application}
    (elements : List Element) {reading : Reading}
    (settled : SameLookups (declarationsOf declared) reading.survey.app app) :
    Adds (Tally.total ((EntryForm.mappings form declared app).tally source) elements) reading
      (elements.foldl (form.take source (declarationsOf declared)) reading) := by
  refine adds_foldl id (fun reading => SameLookups (declarationsOf declared) reading.survey.app app)
    ?_ elements reading settled
  intro reading element settled
  refine ⟨adds_take source form settled element, fun name => ?_⟩
  rw [form.take_app, ← settled name]
  cases form.mapping? element with
  | none => rfl
  | some mapping => exact sameLookups_route _ _ _ mapping name

/-! ## What a read adds -/

def declaredServlets (root : Element) : List Element :=
  (root.childrenNamed "servlet").filter fun element => (declaredServlet? element).isSome

def declaredFilters (root : Element) : List Element :=
  (root.childrenNamed "filter").filter fun element => (declaredFilter? element).isSome

/-- The servlets that have a name and, in the place of a class, a file. -/
def pages (root : Element) : List Element :=
  (root.childrenNamed "servlet").filter fun element => servletFate element == .page

/-- The parameters of a descriptor and of the servlets and filters that it declares. -/
def readParameters (root : Element) : List Element :=
  root.childrenNamed "context-param" ++
    (declaredServlets root ++ declaredFilters root).flatMap fun element =>
      element.childrenNamed "init-param"

section

variable (reading : Reading)

theorem adds_configured :
    Adds { skipped := (source.document.root.childrenNamed "context-param").countP isNameless }
      reading (configured source reading) := by
  have taken : Adds (Tally.total parameterTally (source.document.root.childrenNamed "context-param"))
      (displayName source.document.root reading) (configured source reading) :=
    adds_foldl id (fun _ => True)
      (fun reading parameter _ => ⟨adds_contextParam source reading parameter, trivial⟩) _ _ trivial
  have both := (adds_displayName source.document.root reading).trans taken
  rwa [total_parameterTally, Tally.empty_append] at both

theorem adds_withServlets :
    let root := source.document.root
    Adds ({ entries := EntryForm.servlets.count root .entry
            skipped := EntryForm.servlets.count root .skipped +
              ((declaredServlets root).flatMap
                fun element => element.childrenNamed "init-param").countP isNameless
            complaints := (declaredServlets root).countP hasBadOrder
            notes := (pages root).map (pageNote source) } ++
        { complaints := ((contentOf root).configure reading.survey.app).conflicts
            (componentsOf (contentOf root).servlets) })
      (configured source reading) (withServlets source reading).1 := by
  intro root
  have taken := adds_foldl_register Prod.fst
    (fun state element => by
      rw [(servlet_eq source state element).1]
      cases declaredServlet? element <;> rfl)
    (adds_servlet source) (root.childrenNamed "servlet") (configured source reading, [])
  rw [← List.map_filterMap, EntryForm.total_tally, configured_app] at taken
  exact taken

theorem adds_withFilters :
    let root := source.document.root
    Adds ({ entries := EntryForm.filters.count root .entry
            skipped := EntryForm.filters.count root .skipped +
              ((declaredFilters root).flatMap
                fun element => element.childrenNamed "init-param").countP isNameless } ++
        { complaints := (((contentOf root).configure reading.survey.app).registerAll
            (componentsOf (contentOf root).servlets)).conflicts
              (componentsOf (contentOf root).filters) })
      (withServlets source reading).1 (declaring source reading) := by
  intro root
  have taken := adds_foldl_register Prod.fst
    (fun state element => by
      rw [(filter_eq source state element).1]
      cases declaredFilter? element <;> rfl)
    (adds_filter source) (root.childrenNamed "filter") ((withServlets source reading).1, [])
  rw [← List.map_filterMap, EntryForm.total_quiet EntryForm.filters_fate_ne_page rfl,
    (withServlets_eq source reading).1, configured_app] at taken
  exact taken

theorem adds_servletMappings :
    let root := source.document.root
    let form := EntryForm.mappings .servlets (contentOf root).servlets
      ((contentOf root).declare reading.survey.app)
    Adds { entries := form.count root .entry, skipped := form.count root .skipped }
      (declaring source reading)
      (routingServlets source reading (root.childrenNamed "servlet-mapping")) := by
  intro root form
  have settled : SameLookups (declarationsOf (contentOf root).servlets)
      (declaring source reading).survey.app ((contentOf root).declare reading.survey.app) := by
    rw [declaring_app]
    exact fun name => rfl
  have taken := adds_foldl_take source .servlets _ (root.childrenNamed "servlet-mapping") settled
  rw [EntryForm.total_plain (MappingForm.fate_ne_page _ _ _) rfl rfl] at taken
  exact taken

theorem adds_filterMappings :
    let root := source.document.root
    let form := EntryForm.mappings .filters (contentOf root).filters
      ((contentOf root).declare reading.survey.app)
    Adds { entries := form.count root .entry, skipped := form.count root .skipped }
      (routingServlets source reading (root.childrenNamed "servlet-mapping"))
      (routed source reading) := by
  intro root form
  have settled : SameLookups (declarationsOf (contentOf root).filters)
      (routingServlets source reading (root.childrenNamed "servlet-mapping")).survey.app
      ((contentOf root).declare reading.survey.app) := by
    rw [routingServlets_app]
    exact sameLookups_foldl_route _ _ _ _
  have taken := adds_foldl_take source .filters _ (root.childrenNamed "filter-mapping") settled
  rw [EntryForm.total_plain (MappingForm.fate_ne_page _ _ _) rfl rfl] at taken
  exact taken

theorem adds_withListeners :
    let root := source.document.root
    Adds ({ entries := EntryForm.listeners.count root .entry
            skipped := EntryForm.listeners.count root .skipped } ++
        { complaints := ((contentOf root).routeAll
            ((contentOf root).declare reading.survey.app)).conflicts (contentOf root).listeners })
      (routed source reading) (withListeners source reading) := by
  intro root
  have taken := adds_foldl_register id (listener_eq source) (adds_listener source)
    (root.childrenNamed "listener") (routed source reading)
  rw [EntryForm.total_plain EntryForm.listeners_fate_ne_page rfl rfl, id, routed_app] at taken
  exact taken

end

end Deployment

end Descriptor

end ContainerReplay
