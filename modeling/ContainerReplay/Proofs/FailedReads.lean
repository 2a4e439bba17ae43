import ContainerReplay.Descriptor.ActionConfig
import ContainerReplay.Descriptor.Deployment
import ContainerReplay.Proofs.ComponentTable

/-!
# Failed reads

A reader writes entry by entry into the survey, so that what a failed read leaves depends on where it
gives up.  The readers are written out here as programs that keep every change also when they fail;
they do the same as the readers that run, all their refusals come before the first change, and the
causes of a refusal are told apart.
-/

set_option autoImplicit false

namespace ContainerReplay.Descriptor

/-! ## Programs that keep their changes -/

/-- A part of a read.  Its changes stay when it fails. -/
abbrev Attempt (α : Type) : Type := ExceptT DetectionError (StateM Reading) α

namespace Attempt

variable {α β σ : Type}

def go (attempt : Attempt α) (reading : Reading) : Except DetectionError α × Reading :=
  attempt.run.run reading

/-- What a whole read answers, and the survey that it leaves. -/
def perform (attempt : Attempt Unit) (survey : Survey) :
    Except DetectionError ReadSummary × Survey :=
  match attempt.go ⟨survey, {}⟩ with
  | (.error error, reached) => (.error error, reached.survey)
  | (.ok _, reached) => (.ok reached.summary, reached.survey)

/-- Takes elements one after another, with locals that the program carries along. -/
def loop (step : Reading × σ → α → Reading × σ) : σ → List α → Attempt σ
  | locals, [] => pure locals
  | locals, element :: rest => do
      let reading ← get
      let (reading, locals) := step (reading, locals) element
      set reading
      loop step locals rest

def each (step : Reading → α → Reading) : List α → Attempt Unit
  | [] => pure ()
  | element :: rest => do
      modify fun reading => step reading element
      each step rest

/-- Decodes, parses and checks the root, in this order. -/
def opening (resource : String) (roots : List String) (bytes : ByteArray) : Attempt Source := do
  let text ← decode resource bytes
  match Markup.Document.ofText text with
  | .error fault => throw (.malformed resource (fault.message text))
  | .ok document =>
      if roots.contains document.root.name then return ⟨resource, document⟩
      else throw (.malformed resource (unexpectedRoot document.root.name roots))

theorem go_bind (attempt : Attempt α) (next : α → Attempt β) (reading : Reading) :
    go (attempt >>= next) reading =
      match attempt.go reading with
      | (.error error, reached) => (.error error, reached)
      | (.ok value, reached) => (next value).go reached := by
  simp only [go, ExceptT.run_bind, StateT.run_bind]
  rcases attempt.run.run reading with ⟨result, reached⟩
  cases result with
  | error error => rfl
  | ok value => rfl

theorem go_modify (change : Reading → Reading) (reading : Reading) :
    go (modify change : Attempt Unit) reading = (.ok (), change reading) := rfl

theorem go_loop (step : Reading × σ → α → Reading × σ) (elements : List α) (locals : σ)
    (reading : Reading) :
    go (loop step locals elements) reading =
      (.ok (elements.foldl step (reading, locals)).2,
        (elements.foldl step (reading, locals)).1) := by
  induction elements generalizing locals reading with
  | nil => rfl
  | cons element rest ih =>
      have later := ih (step (reading, locals) element).2 (step (reading, locals) element).1
      exact later

theorem go_each (step : Reading → α → Reading) (elements : List α) (reading : Reading) :
    go (each step elements) reading = (.ok (), elements.foldl step reading) := by
  induction elements generalizing reading with
  | nil => rfl
  | cons element rest ih =>
      have later := ih (step reading element)
      exact later

theorem go_opening (resource : String) (roots : List String) (bytes : ByteArray)
    (reading : Reading) :
    go (opening resource roots bytes) reading = (openSource resource roots bytes, reading) := by
  unfold opening openSource
  cases decode resource bytes with
  | error error => rfl
  | ok text =>
      -- up to here nothing has touched the reading, and nothing below does
      have decoded : go (liftM (Except.ok text : Except DetectionError (List Char))) reading =
          (.ok text, reading) := rfl
      simp only [go_bind, decoded]
      cases Markup.Document.ofText text with
      | error fault => rfl
      | ok document =>
          simp only
          split
          · rfl
          · rfl

end Attempt

/-! ## The two readers -/

open Attempt

/-- The deployment descriptor reader with its changes in the order in which they are made. -/
def Deployment.attempt (resource : String) (bytes : ByteArray) : Attempt Unit := do
  let source ← opening resource roots bytes
  let root := source.document.root
  modify (displayName root)
  each (contextParam source) (root.childrenNamed "context-param")
  let servlets ← loop (servlet source) [] (root.childrenNamed "servlet")
  let filters ← loop (filter source) [] (root.childrenNamed "filter")
  each (servletMapping source servlets) (root.childrenNamed "servlet-mapping")
  each (filterMapping source filters) (root.childrenNamed "filter-mapping")
  each (listener source) (root.childrenNamed "listener")
  each (fun reading injection => reading.updateApp fun app => app.addInjection injection)
    (allInjections root)

/-- Refuses a configuration that no component owns. -/
def ActionConfig.requireOwner (owner resource : String) : Attempt Unit := do
  let reading ← get
  if reading.survey.app.contains owner then pure ()
  else throw (.malformed resource s!"no component {owner} owns this configuration")

/-- The action configuration reader with its changes in the order in which they are made. -/
def ActionConfig.attempt (owner modulePrefix resource : String) (bytes : ByteArray) :
    Attempt Unit := do
  let source ← opening resource roots bytes
  requireOwner owner resource
  let root := source.document.root
  let mappings ← loop (action source modulePrefix (formBeans root) (globalForwards root)) []
    (sectionEntries root "action-mappings" "action")
  modify fun reading => reading.update fun survey => survey.register
    (({ className := owner, kind := .actionServlet } : Component).putMappings mappings)

/-- The content of a path, read as bytes are read. -/
def Attempt.ofPath (loader : Loader) (path : String) (attempt : ByteArray → Attempt Unit) :
    Attempt Unit := do
  let bytes ← loader.read path
  attempt bytes

/-- Where a program ends up that reads what the running reader gives this answer to. -/
def ending (survey : Survey) : Except DetectionError Reading → Except DetectionError Unit × Reading
  | .error error => (.error error, ⟨survey, {}⟩)
  | .ok reading => (.ok (), reading)

theorem foldl_addInjection (injections : List Injection) (reading : Reading) :
    injections.foldl
        (fun reading injection => reading.updateApp fun app => app.addInjection injection)
        reading =
      reading.updateApp fun app => injections.foldl Application.addInjection app := by
  induction injections generalizing reading with
  | nil => rfl
  | cons injection rest ih =>
      rw [List.foldl_cons, ih]
      rfl

theorem Deployment.go_attempt (resource : String) (bytes : ByteArray) (survey : Survey) :
    (Deployment.attempt resource bytes).go ⟨survey, {}⟩ =
      ending survey (Deployment.readBytes resource bytes survey) := by
  unfold Deployment.attempt Deployment.readBytes
  rw [go_bind, go_opening]
  cases openSource resource roots bytes with
  | error error => rfl
  | ok source =>
      simp only [go_bind, go_modify, go_each, go_loop, foldl_addInjection]
      rfl

theorem ActionConfig.go_requireOwner (owner resource : String) (reading : Reading) :
    (ActionConfig.requireOwner owner resource).go reading =
      if reading.survey.app.contains owner then (.ok (), reading)
      else (.error (.malformed resource s!"no component {owner} owns this configuration"),
        reading) := by
  have start : (get : Attempt Reading).go reading = (.ok reading, reading) := rfl
  simp only [ActionConfig.requireOwner, go_bind, start]
  split
  · rfl
  · rfl

theorem ActionConfig.go_attempt (owner modulePrefix resource : String) (bytes : ByteArray)
    (survey : Survey) :
    (ActionConfig.attempt owner modulePrefix resource bytes).go ⟨survey, {}⟩ =
      ending survey (ActionConfig.readBytes owner modulePrefix resource bytes survey) := by
  unfold ActionConfig.attempt ActionConfig.readBytes
  rw [go_bind, go_opening]
  cases openSource resource roots bytes with
  | error error => rfl
  | ok source =>
      simp only [go_bind, go_requireOwner]
      cases survey.app.contains owner with
      | false => rfl
      | true =>
          simp only [if_true, go_loop, go_modify]
          rfl

theorem Attempt.go_ofPath (loader : Loader) (path : String) (attempt : ByteArray → Attempt Unit)
    (reading : Reading) :
    (Attempt.ofPath loader path attempt).go reading =
      match loader.read path with
      | .error error => (.error error, reading)
      | .ok bytes => (attempt bytes).go reading := by
  unfold Attempt.ofPath
  cases loader.read path with
  | error error => rfl
  | ok bytes => rfl

/-! ## Causes -/

/-- The bytes spell the text in the encoding that they declare. -/
def Spells (bytes : ByteArray) (text : List Char) : Prop :=
  if (declaredEncoding? bytes.data.toList).any latin1Names.contains then
    text = latin1 bytes.data.toList
  else (String.ofList text).toUTF8 = bytes

/-- Why bytes are no document with one of the roots. -/
inductive Unopenable (resource : String) (roots : List String) (bytes : ByteArray) :
    DetectionError → Prop where
  | undecodable (mute : ∀ text, ¬ Spells bytes text) :
      Unopenable resource roots bytes
        (.malformed resource (Text.firstFault bytes.data.toList).message)
  | notWellFormed {text : List Char} {fault : Markup.Fault} (spells : Spells bytes text)
      (broken : Markup.Document.ofText text = .error fault) :
      Unopenable resource roots bytes (.malformed resource (fault.message text))
  | wrongRoot {text : List Char} {document : Markup.Document} (spells : Spells bytes text)
      (parsed : Markup.Document.ofText text = .ok document)
      (foreign : document.root.name ∉ roots) :
      Unopenable resource roots bytes
        (.malformed resource (unexpectedRoot document.root.name roots))

/-- Why a configuration is refused for its owner. -/
inductive ActionConfig.Refused (owner resource : String) (bytes : ByteArray) (survey : Survey) :
    DetectionError → Prop where
  | unopenable {error : DetectionError} (cause : Unopenable resource ActionConfig.roots bytes error) :
      Refused owner resource bytes survey error
  | unowned (opens : ∀ error, ¬ Unopenable resource ActionConfig.roots bytes error)
      (absent : ∀ component, survey.app.component? owner ≠ some component) :
      Refused owner resource bytes survey
        (.malformed resource s!"no component {owner} owns this configuration")

/-- Why the content of a path is refused: it cannot be loaded, or for a cause in its bytes. -/
inductive PathRefused (loader : Loader) (path : String)
    (causes : ByteArray → DetectionError → Prop) : DetectionError → Prop where
  | unloaded {error : DetectionError} (failed : loader.read path = .error error) :
      PathRefused loader path causes error
  | refused {bytes : ByteArray} {error : DetectionError} (loaded : loader.read path = .ok bytes)
      (cause : causes bytes error) : PathRefused loader path causes error

theorem decodeUtf8_eq_ok_iff (bytes : ByteArray) (text : String) :
    Text.decodeUtf8 bytes = .ok text ↔ text.toUTF8 = bytes := by
  unfold Text.decodeUtf8 String.fromUTF8?
  by_cases valid : bytes.IsValidUTF8
  · rw [dif_pos valid]
    simp only [Except.ok.injEq, String.toUTF8_eq_toByteArray, ← String.toByteArray_inj]
    exact eq_comm
  · rw [dif_neg valid]
    constructor
    · intro decoded
      cases decoded
    · intro encoded
      exact absurd (encoded ▸ text.isValidUTF8) valid

theorem decode_eq_ok_iff (resource : String) (bytes : ByteArray) (text : List Char) :
    decode resource bytes = .ok text ↔ Spells bytes text := by
  unfold decode Spells
  split
  · exact ⟨fun decoded => (Except.ok.inj decoded).symm, fun same => congrArg Except.ok same.symm⟩
  · rw [← decodeUtf8_eq_ok_iff]
    cases Text.decodeUtf8 bytes with
    | error fault => simp
    | ok found =>
        simp only [Except.ok.injEq]
        constructor
        · intro same
          rw [← same, String.ofList_toList]
        · intro same
          rw [same, String.toList_ofList]

/-- A text that declares no Latin-1 is spelled by its UTF-8 bytes. -/
theorem decode_utf8 (resource : String) {text : List Char}
    (undeclared : (declaredEncoding? (text.flatMap String.utf8EncodeChar)).any
      latin1Names.contains = false) : decode resource (String.ofList text).toUTF8 = .ok text := by
  have bytes : (String.ofList text).toUTF8.data.toList = text.flatMap String.utf8EncodeChar := by
    simp [List.utf8Encode]
  rw [decode_eq_ok_iff, Spells, bytes, undeclared]
  simp

theorem decode_error {resource : String} {bytes : ByteArray} {error : DetectionError}
    (failed : decode resource bytes = .error error) :
    error = .malformed resource (Text.firstFault bytes.data.toList).message := by
  unfold decode at failed
  split at failed
  · cases failed
  · unfold Text.decodeUtf8 at failed
    cases found : String.fromUTF8? bytes with
    | none =>
        rw [found] at failed
        exact (Except.error.inj failed).symm
    | some text =>
        rw [found] at failed
        cases failed

theorem openSource_of_unopenable {resource : String} {roots : List String} {bytes : ByteArray}
    {error : DetectionError} (cause : Unopenable resource roots bytes error) :
    openSource resource roots bytes = .error error := by
  cases cause with
  | undecodable mute =>
      cases decoded : decode resource bytes with
      | error error => rw [openSource, decoded, decode_error decoded]
      | ok text => exact absurd ((decode_eq_ok_iff resource bytes text).mp decoded) (mute text)
  | notWellFormed spells broken =>
      simp only [openSource, (decode_eq_ok_iff resource bytes _).mpr spells, broken]
  | wrongRoot spells parsed foreign =>
      simp only [openSource, (decode_eq_ok_iff resource bytes _).mpr spells, parsed,
        List.contains_iff_mem, if_neg foreign]

theorem unopenable_of_openSource {resource : String} {roots : List String} {bytes : ByteArray}
    {error : DetectionError} (failed : openSource resource roots bytes = .error error) :
    Unopenable resource roots bytes error := by
  unfold openSource at failed
  cases decoded : decode resource bytes with
  | error reason =>
      rw [decoded] at failed
      rw [← Except.error.inj failed, decode_error decoded]
      refine .undecodable fun text spells => ?_
      rw [(decode_eq_ok_iff resource bytes text).mpr spells] at decoded
      cases decoded
  | ok text =>
      have spells := (decode_eq_ok_iff resource bytes text).mp decoded
      simp only [decoded] at failed
      cases parsed : Markup.Document.ofText text with
      | error fault =>
          rw [parsed] at failed
          rw [← Except.error.inj failed]
          exact .notWellFormed spells parsed
      | ok document =>
          simp only [parsed] at failed
          split at failed
          · cases failed
          · rename_i foreign
            rw [← Except.error.inj failed]
            refine .wrongRoot spells parsed fun member => foreign ?_
            exact List.contains_iff_mem.mpr member

theorem openSource_eq_error_iff (resource : String) (roots : List String) (bytes : ByteArray)
    (error : DetectionError) :
    openSource resource roots bytes = .error error ↔ Unopenable resource roots bytes error :=
  ⟨unopenable_of_openSource, openSource_of_unopenable⟩

theorem Deployment.readBytes_eq_error_iff (resource : String) (bytes : ByteArray)
    (survey : Survey) (error : DetectionError) :
    Deployment.readBytes resource bytes survey = .error error ↔
      Unopenable resource Deployment.roots bytes error := by
  rw [← openSource_eq_error_iff, Deployment.readBytes]
  cases openSource resource roots bytes with
  | error reason => simp only [Except.error.injEq]
  | ok source => simp

theorem ActionConfig.readBytes_eq_error_iff (owner modulePrefix resource : String)
    (bytes : ByteArray) (survey : Survey) (error : DetectionError) :
    ActionConfig.readBytes owner modulePrefix resource bytes survey = .error error ↔
      ActionConfig.Refused owner resource bytes survey error := by
  unfold ActionConfig.readBytes
  cases opened : openSource resource roots bytes with
  | error reason =>
      have unopenable := unopenable_of_openSource opened
      constructor
      · intro failed
        exact .unopenable (Except.error.inj failed ▸ unopenable)
      · intro refused
        cases refused with
        | unopenable cause =>
            have same := opened.symm.trans (openSource_of_unopenable cause)
            exact congrArg Except.error (Except.error.inj same)
        | unowned opens _ => exact absurd unopenable (opens reason)
  | ok source =>
      have opens : ∀ error, ¬ Unopenable resource roots bytes error := by
        intro error cause
        rw [openSource_of_unopenable cause] at opened
        cases opened
      have owned := survey.app.contains_iff owner
      simp only
      split
      · rename_i present
        obtain ⟨component, found⟩ := owned.mp present
        constructor
        · intro failed
          cases failed
        · intro refused
          cases refused with
          | unopenable cause => exact absurd cause (opens error)
          | unowned _ absent => exact absurd found (absent component)
      · rename_i missing
        have absent : ∀ component, survey.app.component? owner ≠ some component :=
          fun component found => missing (owned.mpr ⟨component, found⟩)
        constructor
        · intro failed
          rw [← Except.error.inj failed]
          exact .unowned opens absent
        · intro refused
          cases refused with
          | unopenable cause => exact absurd cause (opens error)
          | unowned _ _ => rfl

/-- Some error refuses a configuration exactly when it does not open or nothing owns it. -/
theorem ActionConfig.refused_iff (owner resource : String) (bytes : ByteArray) (survey : Survey) :
    (∃ error, ActionConfig.Refused owner resource bytes survey error) ↔
      (∃ error, Unopenable resource ActionConfig.roots bytes error) ∨
        survey.app.component? owner = none := by
  constructor
  · rintro ⟨error, refused⟩
    cases refused with
    | unopenable cause => exact Or.inl ⟨error, cause⟩
    | unowned _ absent => exact Or.inr (Option.eq_none_iff_forall_ne_some.mpr absent)
  · intro causes
    by_cases opens : ∃ error, Unopenable resource ActionConfig.roots bytes error
    · obtain ⟨error, cause⟩ := opens
      exact ⟨error, .unopenable cause⟩
    · have absent := causes.resolve_left opens
      exact ⟨_, .unowned (not_exists.mp opens) (Option.eq_none_iff_forall_ne_some.mp absent)⟩

theorem readPath_eq_error_iff {loader : Loader} {path : String}
    {read : ByteArray → Except DetectionError Reading} {causes : ByteArray → DetectionError → Prop}
    (exact : ∀ bytes error, read bytes = .error error ↔ causes bytes error)
    (error : DetectionError) :
    (match loader.read path with
      | .error reason => (.error reason : Except DetectionError Reading)
      | .ok bytes => read bytes) = .error error ↔ PathRefused loader path causes error := by
  cases loaded : loader.read path with
  | error reason =>
      constructor
      · intro failed
        exact .unloaded (Except.error.inj failed ▸ loaded)
      · intro refused
        cases refused with
        | unloaded failed =>
            have same := loaded.symm.trans failed
            exact congrArg Except.error (Except.error.inj same)
        | refused otherwise _ =>
            rw [loaded] at otherwise
            cases otherwise
  | ok bytes =>
      simp only [exact]
      constructor
      · intro cause
        exact .refused loaded cause
      · intro refused
        cases refused with
        | unloaded failed =>
            rw [loaded] at failed
            cases failed
        | refused found cause =>
            rw [loaded] at found
            exact Except.ok.inj found ▸ cause

/-! ## Whole reads -/

/-- What the caller of a reader gets, and the survey that it is left with. -/
def handedBack (survey : Survey) :
    Except DetectionError Reading → Except DetectionError ReadSummary × Survey
  | .error error => (.error error, survey)
  | .ok reading => (.ok reading.summary, reading.survey)

/-- The program does what the running reader does that gives this answer, it fails for exactly these
causes, and it has changed nothing when it fails. -/
structure Attempt.FailsClean (attempt : Attempt Unit) (survey : Survey)
    (answer : Except DetectionError Reading) (causes : DetectionError → Prop) : Prop where
  performs : attempt.perform survey = handedBack survey answer
  fails_iff : ∀ error, (attempt.perform survey).1 = .error error ↔ causes error
  unchanged : ∀ error, (attempt.perform survey).1 = .error error →
    (attempt.perform survey).2 = survey

theorem Attempt.failsClean {attempt : Attempt Unit} {survey : Survey}
    {answer : Except DetectionError Reading} {causes : DetectionError → Prop}
    (ends : attempt.go ⟨survey, {}⟩ = ending survey answer)
    (exact : ∀ error, answer = .error error ↔ causes error) :
    attempt.FailsClean survey answer causes := by
  cases answer with
  | error reason =>
      have performs : attempt.perform survey = (.error reason, survey) := by
        rw [perform, ends]
        rfl
      refine ⟨performs, fun error => ?_, fun error _ => ?_⟩
      · rw [performs, ← exact, Except.error.injEq, Except.error.injEq]
      · rw [performs]
  | ok reading =>
      have performs : attempt.perform survey = (.ok reading.summary, reading.survey) := by
        rw [perform, ends]
        rfl
      refine ⟨performs, fun error => ?_, fun error failed => ?_⟩
      · rw [performs, ← exact]
        simp
      · rw [performs] at failed
        cases failed

/-- Both readers, from bytes and from a path: a failed read changes nothing, and it fails for exactly
the causes that are listed. -/
theorem failed_reads_change_nothing (survey : Survey) (loader : Loader)
    (owner modulePrefix path : String) (bytes : ByteArray) :
    (Deployment.attempt path bytes).FailsClean survey (Deployment.readBytes path bytes survey)
        (Unopenable path Deployment.roots bytes) ∧
      (ActionConfig.attempt owner modulePrefix path bytes).FailsClean survey
        (ActionConfig.readBytes owner modulePrefix path bytes survey)
        (ActionConfig.Refused owner path bytes survey) ∧
      (Attempt.ofPath loader path (Deployment.attempt path)).FailsClean survey
        (Deployment.read loader path survey)
        (PathRefused loader path (Unopenable path Deployment.roots)) ∧
      (Attempt.ofPath loader path (ActionConfig.attempt owner modulePrefix path)).FailsClean survey
        (ActionConfig.read loader owner modulePrefix path survey)
        (PathRefused loader path fun bytes => ActionConfig.Refused owner path bytes survey) ∧
      ((∃ error, ActionConfig.Refused owner path bytes survey error) ↔
        (∃ error, Unopenable path ActionConfig.roots bytes error) ∨
          survey.app.component? owner = none) := by
  have deployment := fun bytes => Deployment.readBytes_eq_error_iff path bytes survey
  have actions := fun bytes =>
    ActionConfig.readBytes_eq_error_iff owner modulePrefix path bytes survey
  refine ⟨?_, ?_, ?_, ?_, ActionConfig.refused_iff owner path bytes survey⟩
  · exact failsClean (Deployment.go_attempt path bytes survey) (deployment bytes)
  · exact failsClean (ActionConfig.go_attempt owner modulePrefix path bytes survey) (actions bytes)
  · refine failsClean ?_ (readPath_eq_error_iff deployment)
    rw [go_ofPath, Deployment.read]
    cases loader.read path with
    | error error => rfl
    | ok bytes => exact Deployment.go_attempt path bytes survey
  · refine failsClean ?_ (readPath_eq_error_iff actions)
    rw [go_ofPath, ActionConfig.read]
    cases loader.read path with
    | error error => rfl
    | ok bytes => exact ActionConfig.go_attempt owner modulePrefix path bytes survey

end ContainerReplay.Descriptor
