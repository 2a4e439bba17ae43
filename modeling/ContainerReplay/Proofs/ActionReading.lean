import ContainerReplay.Proofs.ActionElements
import ContainerReplay.Proofs.ActionUpgrades
import ContainerReplay.Proofs.PassEffects
import ContainerReplay.Proofs.Registration

/-!
# What an action configuration adds

Every action of a configuration is either dispatchable, and then gives one mapping, or skipped with
one warning.  The mappings are described here by the elements of the document alone: of two forwards
with one name the first counts, of two form beans with one name the last.  The owner takes them one
after another in document order, although they reach it through a component that is merged into it.
-/

set_option autoImplicit false

namespace ContainerReplay

/-! ## Forwards by name -/

namespace Forward

/-- The first forward of every name, in the order in which the names first occur. -/
def firstOfEach (forwards : List Forward) : List Forward :=
  (forwards.map name).eraseDups.filterMap fun asked =>
    forwards.find? fun forward => forward.name == asked

theorem firstOfEach_concat (forwards : List Forward) (last : Forward) :
    firstOfEach (forwards ++ [last]) =
      if last.name ∈ forwards.map name then firstOfEach forwards
      else firstOfEach forwards ++ [last] := by
  have earlier : (forwards.map name).eraseDups.filterMap (fun asked =>
      (forwards ++ [last]).find? fun forward => forward.name == asked) = firstOfEach forwards := by
    refine List.filterMap_congr fun asked member => ?_
    obtain ⟨forward, listed, named⟩ := List.mem_map.mp (List.mem_eraseDups.mp member)
    have found : (forwards.find? fun forward => forward.name == asked).isSome = true :=
      List.find?_isSome.mpr ⟨forward, listed, beq_iff_eq.mpr named⟩
    obtain ⟨first, answer⟩ := Option.isSome_iff_exists.mp found
    rw [List.find?_append, answer, Option.some_or]
  rw [firstOfEach, List.map_append, List.map_singleton, ActionMapping.eraseDups_concat]
  by_cases known : last.name ∈ forwards.map name
  · rw [if_pos known, if_pos known, earlier]
  · have missing : (forwards.find? fun forward => forward.name == last.name) = none := by
      refine List.find?_eq_none.mpr fun forward member same => known ?_
      exact List.mem_map.mpr ⟨forward, member, beq_iff_eq.mp same⟩
    rw [if_neg known, if_neg known, List.filterMap_append, earlier]
    simp [missing]

theorem nodup_eraseDups (names : List String) : names.eraseDups.Nodup := by
  induction names using List.reverseRecOn with
  | nil => exact List.nodup_nil
  | append_singleton names last ih =>
      rw [ActionMapping.eraseDups_concat]
      by_cases known : last ∈ names
      · rw [if_pos known]
        exact ih
      · rw [if_neg known]
        refine List.nodup_append.mpr ⟨ih, by simp, ?_⟩
        intro name member other otherMember same
        rw [List.mem_singleton.mp otherMember] at same
        exact known (List.mem_eraseDups.mp (same ▸ member))

theorem names_firstOfEach (forwards : List Forward) :
    (firstOfEach forwards).map name = (forwards.map name).eraseDups := by
  induction forwards using List.reverseRecOn with
  | nil => rfl
  | append_singleton forwards last ih =>
      rw [firstOfEach_concat, List.map_append, List.map_singleton, ActionMapping.eraseDups_concat]
      split
      · exact ih
      · rw [List.map_append, ih, List.map_singleton]

end Forward

namespace ActionMapping

/-- Forwards that are added to a mapping without any leave the first of every name. -/
theorem addForwards_forwards {bare : ActionMapping} (none : bare.forwards = [])
    (forwards : List Forward) :
    bare.addForwards forwards = { bare with forwards := Forward.firstOfEach forwards } := by
  induction forwards using List.reverseRecOn with
  | nil =>
      obtain ⟨path, handler, form, formClass, scope, forwards⟩ := bare
      cases none
      rfl
  | append_singleton forwards last ih =>
      have step : bare.addForwards (forwards ++ [last]) =
          (bare.addForwards forwards).addForward last := List.foldl_append
      rw [step, ih, Forward.firstOfEach_concat, addForward, forward?]
      by_cases known : last.name ∈ forwards.map Forward.name
      · rw [if_pos known]
        rw [← List.mem_eraseDups, ← Forward.names_firstOfEach] at known
        obtain ⟨first, member, named⟩ := List.mem_map.mp known
        have found : ((Forward.firstOfEach forwards).find? fun forward =>
            forward.name == last.name).isSome = true :=
          List.find?_isSome.mpr ⟨first, member, beq_iff_eq.mpr named⟩
        obtain ⟨answer, answered⟩ := Option.isSome_iff_exists.mp found
        simp only [answered]
      · rw [if_neg known]
        have missing : ((Forward.firstOfEach forwards).find? fun forward =>
            forward.name == last.name) = Option.none := by
          refine List.find?_eq_none.mpr fun forward member same => known ?_
          rw [← List.mem_eraseDups, ← Forward.names_firstOfEach]
          exact List.mem_map.mpr ⟨forward, member, beq_iff_eq.mp same⟩
        simp only [missing]

/-! ## Mappings that go through a table of their own -/

theorem putInto_putInto_of_eq {first second : ActionMapping} (same : first.path = second.path)
    (list : List ActionMapping) : second.putInto (first.putInto list) = second.putInto list := by
  induction list with
  | nil => simp [putInto, same]
  | cons existing rest ih =>
      by_cases here : existing.path = first.path
      · simp [putInto, here, same]
      · have there : existing.path ≠ second.path := fun equal => here (equal.trans same.symm)
        simp [putInto, here, there, ih]

/-- A mapping whose path is listed changes its place with one of another path. -/
theorem putInto_comm {first second : ActionMapping} (other : first.path ≠ second.path)
    {list : List ActionMapping} (listed : first.path ∈ list.map path) :
    first.putInto (second.putInto list) = second.putInto (first.putInto list) := by
  induction list with
  | nil => cases listed
  | cons existing rest ih =>
      by_cases atFirst : existing.path = first.path
      · have notSecond : existing.path ≠ second.path := fun equal => other (atFirst.symm.trans equal)
        simp [putInto, atFirst, other]
      · by_cases atSecond : existing.path = second.path
        · simp [putInto, atSecond, Ne.symm other]
        · have later : first.path ∈ rest.map path :=
            (List.mem_cons.mp listed).resolve_left (Ne.symm atFirst)
          simp [putInto, atFirst, atSecond, ih later]

theorem putInto_putAll {mapping : ActionMapping} {others : List ActionMapping}
    (fresh : mapping.path ∉ others.map path) {list : List ActionMapping}
    (listed : mapping.path ∈ list.map path) :
    mapping.putInto (putAll others list) = putAll others (mapping.putInto list) := by
  induction others generalizing list with
  | nil => rfl
  | cons first rest ih =>
      rw [List.map_cons, List.mem_cons, not_or] at fresh
      have still : mapping.path ∈ (first.putInto list).map path := by
        rw [putInto_paths]
        split
        · exact listed
        · exact List.mem_append_left _ listed
      rw [putAll_cons, putAll_cons, ih fresh.2 still, putInto_comm fresh.1 listed]

theorem putAll_putInto (mapping : ActionMapping) {table : List ActionMapping}
    (distinct : (table.map path).Nodup) (list : List ActionMapping) :
    putAll (mapping.putInto table) list = mapping.putInto (putAll table list) := by
  induction table generalizing list with
  | nil => rfl
  | cons first rest ih =>
      rw [List.map_cons, List.nodup_cons] at distinct
      by_cases same : first.path = mapping.path
      · have listed : mapping.path ∈ (first.putInto list).map path := by
          rw [← same]
          exact List.mem_map_of_mem (mem_putInto_self first list)
        rw [same] at distinct
        rw [putAll_cons, putInto_putAll distinct.1 listed, putInto_putInto_of_eq same, putInto,
          if_pos same, putAll_cons]
      · rw [putInto, if_neg same, putAll_cons, putAll_cons, ih distinct.2]

/-- It makes no difference whether mappings are put into a list one by one or collected first. -/
theorem putAll_putAll (mappings list : List ActionMapping) :
    putAll (putAll mappings []) list = putAll mappings list := by
  induction mappings using List.reverseRecOn with
  | nil => rfl
  | append_singleton mappings last ih =>
      have collected : putAll (mappings ++ [last]) [] = last.putInto (putAll mappings []) :=
        putAll_append mappings [last] []
      have direct : putAll (mappings ++ [last]) list = last.putInto (putAll mappings list) :=
        putAll_append mappings [last] list
      have distinct : ((putAll mappings []).map path).Nodup :=
        putAll_paths_nodup mappings List.nodup_nil
      rw [collected, direct, putAll_putInto last distinct, ih]

/-- A mapping takes the place of the first one with its path, or the end if there is none. -/
inductive Places (mapping : ActionMapping) : List ActionMapping → List ActionMapping → Prop where
  | replaced {before after : List ActionMapping} {old : ActionMapping}
      (others : ∀ other ∈ before, other.path ≠ mapping.path) (same : old.path = mapping.path) :
      Places mapping (before ++ old :: after) (before ++ mapping :: after)
  | appended {list : List ActionMapping} (others : ∀ other ∈ list, other.path ≠ mapping.path) :
      Places mapping list (list ++ [mapping])

/-- Mappings take their places one after another. -/
inductive PlacesAll : List ActionMapping → List ActionMapping → List ActionMapping → Prop where
  | nothing (list : List ActionMapping) : PlacesAll [] list list
  | first {mapping : ActionMapping} {rest before between after : List ActionMapping}
      (places : Places mapping before between) (later : PlacesAll rest between after) :
      PlacesAll (mapping :: rest) before after

theorem places_putInto (mapping : ActionMapping) (list : List ActionMapping) :
    Places mapping list (mapping.putInto list) := by
  induction list with
  | nil => exact .appended (List.forall_mem_nil _)
  | cons existing rest ih =>
      rw [putInto]
      split
      · rename_i same
        exact @Places.replaced mapping [] rest existing (List.forall_mem_nil _) same
      · rename_i different
        generalize mapping.putInto rest = placed at ih
        cases ih with
        | @replaced before after old others same =>
            exact @Places.replaced mapping (existing :: before) after old
              (List.forall_mem_cons.mpr ⟨different, others⟩) same
        | appended others => exact .appended (List.forall_mem_cons.mpr ⟨different, others⟩)

theorem placesAll_putAll (mappings list : List ActionMapping) :
    PlacesAll mappings list (putAll mappings list) := by
  induction mappings generalizing list with
  | nil => exact .nothing list
  | cons mapping rest ih => exact .first (places_putInto mapping list) (ih _)

end ActionMapping

namespace Descriptor.ActionConfig

/-! ## What the elements say -/

/-- The action has a path and the name of a class to handle it. -/
def Dispatchable (element : Markup.Element) : Prop :=
  (∃ path, element.Gives "path" path) ∧
    ∃ handler, element.Gives "type" handler ∧ Dotted handler.toList

/-- A mapping is the one that a dispatchable action of a root stands for. -/
structure Describes (modulePrefix : String) (root element : Markup.Element)
    (mapping : ActionMapping) : Prop where
  path : ∃ path, element.Gives "path" path ∧ InModule modulePrefix path mapping.path
  handler : element.Gives "type" mapping.handlerClass
  formName : ∀ name, mapping.formName = some name ↔ element.Gives "name" name
  formClass : ∀ className, mapping.formClass = some className ↔
    ∃ name, element.Gives "name" name ∧ LastBean root name className
  scope : ∀ scope, mapping.scope = some scope ↔ element.Gives "scope" scope
  forwards : ∃ own shared, Gathers DeclaresForward (element.called "forward") own ∧
    Gathers DeclaresForward (entriesOf root "global-forwards" "forward") shared ∧
    mapping.forwards = Forward.firstOfEach (own ++ shared)
  distinct : (mapping.forwards.map Forward.name).Nodup

/-- What is wrong with an action that is not dispatchable. -/
inductive Faulty (element : Markup.Element) : ActionFault → Prop where
  | noPath (absent : ∀ path, ¬ element.Gives "path" path) : Faulty element .noPath
  | onlyForwards {path : String} (given : element.Gives "path" path)
      (absent : ∀ handler, ¬ element.Gives "type" handler)
      (forwards : ∃ target, element.Carries "forward" target ∨ element.Carries "include" target) :
      Faulty element (.onlyForwards path)
  | noHandler {path : String} (given : element.Gives "path" path)
      (absent : ∀ handler, ¬ element.Gives "type" handler)
      (idle : ∀ target, ¬ element.Carries "forward" target ∧ ¬ element.Carries "include" target) :
      Faulty element (.noHandler path)
  | malformedHandler {path handler : String} (given : element.Gives "path" path)
      (named : element.Gives "type" handler) (noClass : ¬ Dotted handler.toList) :
      Faulty element (.malformedHandler path handler)

/-- The warning about an action that is skipped. -/
def Warns (source : Source) (element : Markup.Element) (warning : Diagnostic) : Prop :=
  ∃ fault, Faulty element fault ∧
    warning =
      { severity := .warn
        message := s!"Skipping action at {source.position element}: {fault.message}"
        resource := some source.resource }

/-- How the actions of a configuration fare, in document order: the mappings of those that are
accepted, and the warnings about those that are skipped. -/
inductive Fares (source : Source) (modulePrefix : String) :
    List Markup.Element → List ActionMapping → List Diagnostic → Prop where
  | nothing : Fares source modulePrefix [] [] []
  | accepted {element : Markup.Element} {mapping : ActionMapping} {elements : List Markup.Element}
      {mappings : List ActionMapping} {said : List Diagnostic}
      (dispatchable : Dispatchable element)
      (describes : Describes modulePrefix source.document.root element mapping)
      (rest : Fares source modulePrefix elements mappings said) :
      Fares source modulePrefix (element :: elements) (mapping :: mappings) said
  | skipped {element : Markup.Element} {warning : Diagnostic} {elements : List Markup.Element}
      {mappings : List ActionMapping} {said : List Diagnostic}
      (undispatchable : ¬ Dispatchable element) (warns : Warns source element warning)
      (rest : Fares source modulePrefix elements mappings said) :
      Fares source modulePrefix (element :: elements) mappings (warning :: said)

theorem Fares.length {source : Source} {modulePrefix : String} {elements : List Markup.Element}
    {mappings : List ActionMapping} {said : List Diagnostic}
    (fares : Fares source modulePrefix elements mappings said) :
    mappings.length + said.length = elements.length := by
  induction fares with
  | nothing => rfl
  | accepted _ _ _ ih =>
      simp only [List.length_cons]
      omega
  | skipped _ _ _ ih =>
      simp only [List.length_cons]
      omega

/-! ## What becomes of one action -/

/-- An action with a path and a class that handles it gives the mapping that it describes. -/
theorem mapping_of_named {element : Markup.Element} {path handler : String}
    (given : attributeText? element "path" = some path)
    (named : attributeText? element "type" = some handler) (isName : isClassName handler = true)
    (modulePrefix : String) (root : Markup.Element) :
    ∃ accepted, mapping modulePrefix (formBeans root) (globalForwards root) element = .ok accepted ∧
      Describes modulePrefix root element accepted := by
  let own := (element.childrenNamed "forward").filterMap forward?
  let bare : ActionMapping :=
    { path := modulePath modulePrefix path
      handlerClass := handler
      formName := attributeText? element "name"
      formClass := (attributeText? element "name").bind (formClass? (formBeans root))
      scope := attributeText? element "scope" }
  have bareOk : bareMapping modulePrefix (formBeans root) element = .ok bare := by
    simp [bareMapping, given, named, isName, bare]
  refine ⟨{ bare with forwards := Forward.firstOfEach (own ++ globalForwards root) }, ?_, ?_⟩
  · rw [← ActionMapping.addForwards_forwards (rfl : bare.forwards = []), mapping, bareOk]
    simp only [ActionMapping.addForwards, own, List.foldl_append]
  · constructor
    case path => exact ⟨path, attributeText?_eq_some_iff.mp given, modulePath_eq_iff.mp rfl⟩
    case handler => exact attributeText?_eq_some_iff.mp named
    case formName => exact fun name => attributeText?_eq_some_iff
    case scope => exact fun scope => attributeText?_eq_some_iff
    case forwards =>
      refine ⟨own, globalForwards root, ?_, ?_, rfl⟩
      · rw [← Markup.Element.childrenNamed_eq]
        exact gathers_filterMap forward?_eq_some_iff _
      · rw [← sectionEntries_eq]
        exact gathers_filterMap forward?_eq_some_iff _
    case formClass =>
      intro className
      simp only [bare, Option.bind_eq_some_iff, formClass?_eq_some_iff, attributeText?_eq_some_iff]
    case distinct =>
      rw [Forward.names_firstOfEach]
      exact Forward.nodup_eraseDups _

/-- Every action either gives a mapping, and is dispatchable, or it does not. -/
theorem mapping_cases (modulePrefix : String) (root element : Markup.Element) :
    (∃ accepted, mapping modulePrefix (formBeans root) (globalForwards root) element =
        .ok accepted ∧ Dispatchable element ∧ Describes modulePrefix root element accepted) ∨
      ∃ fault, mapping modulePrefix (formBeans root) (globalForwards root) element =
        .error fault ∧ ¬ Dispatchable element ∧ Faulty element fault := by
  have refused : ∀ fault, bareMapping modulePrefix (formBeans root) element = .error fault →
      mapping modulePrefix (formBeans root) (globalForwards root) element = .error fault := by
    intro fault failed
    rw [mapping, failed]
  cases given : attributeText? element "path" with
  | none =>
      have absent := attributeText?_eq_none_iff.mp given
      refine Or.inr ⟨.noPath, refused _ (by simp [bareMapping, given]), ?_, .noPath absent⟩
      rintro ⟨⟨path, gives⟩, -⟩
      exact absent path gives
  | some path =>
      have gives := attributeText?_eq_some_iff.mp given
      cases named : attributeText? element "type" with
      | none =>
          have absent := attributeText?_eq_none_iff.mp named
          have undispatchable : ¬ Dispatchable element := by
            rintro ⟨-, handler, typed, -⟩
            exact absent handler typed
          by_cases forwards : ((element.attribute? "forward").isSome ||
              (element.attribute? "include").isSome) = true
          · refine Or.inr ⟨.onlyForwards path,
              refused _ (by simp [bareMapping, given, named, forwards]), undispatchable, .onlyForwards gives absent ?_⟩
            simpa only [Bool.or_eq_true, Option.isSome_iff_exists, ← exists_or,
              Markup.Element.attribute?_eq_some_iff] using forwards
          · refine Or.inr ⟨.noHandler path,
              refused _ (by simp [bareMapping, given, named, forwards]), undispatchable, .noHandler gives absent ?_⟩
            simpa only [Bool.or_eq_true, Option.isSome_iff_exists, ← exists_or, not_exists, not_or,
              Markup.Element.attribute?_eq_some_iff] using forwards
      | some handler =>
          have typed := attributeText?_eq_some_iff.mp named
          by_cases isName : isClassName handler = true
          · obtain ⟨accepted, taken, describes⟩ :=
              mapping_of_named given named isName modulePrefix root
            exact Or.inl ⟨accepted, taken,
              ⟨⟨path, gives⟩, handler, typed, isClassName_iff.mp isName⟩, describes⟩
          · have noClass : ¬ Dotted handler.toList := fun dotted =>
              isName (isClassName_iff.mpr dotted)
            refine Or.inr ⟨.malformedHandler path handler,
              refused _ (by simp [bareMapping, given, named, isName]), ?_,
              .malformedHandler gives typed noClass⟩
            rintro ⟨-, other, otherTyped, dotted⟩
            have same := named.symm.trans (attributeText?_eq_some_iff.mpr otherTyped)
            rw [Option.some_inj.mp same] at noClass
            exact noClass dotted

/-! ## What becomes of all of them -/

/-- What taking elements one after another adds to a reading and to the list of mappings. -/
structure Takes (source : Source) (modulePrefix : String) (elements : List Markup.Element)
    (before after : Reading × List ActionMapping) (accepted : List ActionMapping)
    (said : List Diagnostic) : Prop where
  fares : Fares source modulePrefix elements accepted said
  mappings : after.2 = before.2 ++ accepted
  app : after.1.survey.app = before.1.survey.app
  diagnostics : after.1.survey.diagnostics = before.1.survey.diagnostics ++ said
  entries : after.1.summary.entries = before.1.summary.entries + accepted.length
  skipped : after.1.summary.skipped = before.1.summary.skipped + said.length

theorem takes_foldl_action (source : Source) (modulePrefix : String)
    (elements : List Markup.Element) (state : Reading × List ActionMapping) :
    ∃ accepted said, Takes source modulePrefix elements state
      (elements.foldl (action source modulePrefix (formBeans source.document.root)
        (globalForwards source.document.root)) state) accepted said := by
  induction elements generalizing state with
  | nil =>
      exact ⟨[], [], .nothing, (List.append_nil _).symm, rfl, (List.append_nil _).symm, rfl, rfl⟩
  | cons element rest ih =>
      obtain ⟨accepted, said, later⟩ := ih (action source modulePrefix
        (formBeans source.document.root) (globalForwards source.document.root) state element)
      rcases mapping_cases modulePrefix source.document.root element with
        ⟨mapped, taken, dispatchable, describes⟩ | ⟨fault, failed, undispatchable, faulty⟩
      · refine ⟨mapped :: accepted, said, .accepted dispatchable describes later.fares,
          ?_, ?_, ?_, ?_, ?_⟩
        · rw [List.foldl_cons, later.mappings, action, taken, List.append_assoc,
            List.singleton_append]
        · rw [List.foldl_cons, later.app, action, taken]
          rfl
        · rw [List.foldl_cons, later.diagnostics, action, taken]
          rfl
        · rw [List.foldl_cons, later.entries, action, taken, List.length_cons, Nat.add_comm _ 1,
            ← Nat.add_assoc]
          rfl
        · rw [List.foldl_cons, later.skipped, action, taken]
          rfl
      · refine ⟨accepted, _ :: said, .skipped undispatchable ⟨fault, faulty, rfl⟩ later.fares,
          ?_, ?_, ?_, ?_, ?_⟩
        · rw [List.foldl_cons, later.mappings, action, failed]
        · rw [List.foldl_cons, later.app, action, failed]
          rfl
        · rw [List.foldl_cons, later.diagnostics, action, failed]
          exact List.append_assoc _ [_] _
        · rw [List.foldl_cons, later.entries, action, failed]
          rfl
        · rw [List.foldl_cons, later.skipped, action, failed, List.length_cons, Nat.add_comm _ 1,
            ← Nat.add_assoc]
          rfl

/-- What is said about an owner of an unrelated kind. -/
def ownerRemarks (owner : String) (kind : Kind) : List Diagnostic :=
  if kind = .servlet ∨ kind = .actionServlet then []
  else [⟨.warn, Survey.conflictMessage owner kind .actionServlet, some owner⟩]

theorem remarksOn_upgrade (owner modulePrefix : String) (root : Markup.Element)
    (existing : Component) :
    Survey.remarksOn (upgradeOf owner modulePrefix root)
        (existing.outcome (upgradeOf owner modulePrefix root)) =
      ownerRemarks owner existing.kind := by
  rw [upgradeOf_eq]
  unfold Component.outcome ownerRemarks
  cases existing.kind <;> rfl

/-- A configuration is read by taking its actions and registering what they add up to. -/
theorem readRoot_eq (source : Source) (owner modulePrefix : String) (reading : Reading) :
    readRoot source owner modulePrefix reading =
      ((sectionEntries source.document.root "action-mappings" "action").foldl
        (action source modulePrefix (formBeans source.document.root)
          (globalForwards source.document.root)) (reading, [])).1.update fun survey =>
            survey.register (upgradeOf owner modulePrefix source.document.root) := by
  have mappings := (foldl_action_eq source modulePrefix (formBeans source.document.root)
    (globalForwards source.document.root)
    (sectionEntries source.document.root "action-mappings" "action") (reading, [])).2
  rw [List.nil_append] at mappings
  simp only [readRoot, mappings]
  rfl

/-- A configuration that opens and whose owner is on record is read.  Its actions are those that are
dispatchable, each with the mapping that its elements describe, and those that are skipped, each
with one warning; and the owner's mappings are afterwards those that it had, with the mapping of
every dispatchable action placed among them, in document order: in place of the one with its path, or
at the end. -/
theorem readBytes_extracts (modulePrefix : String) {owner resource : String} {bytes : ByteArray}
    {survey : Survey} {source : Source} {before : Component}
    (opened : openSource resource roots bytes = .ok source)
    (owned : survey.app.component? owner = some before) :
    let actions := entriesOf source.document.root "action-mappings" "action"
    ∃ reading accepted said after,
      readBytes owner modulePrefix resource bytes survey = .ok reading ∧
      reading.summary.entries + reading.summary.skipped = actions.length ∧
      reading.summary.entries = accepted.length ∧
      Fares source modulePrefix actions accepted said ∧
      reading.survey.diagnostics =
        survey.diagnostics ++ said ++ ownerRemarks owner before.kind ∧
      reading.survey.app.component? owner = some after ∧
      ActionMapping.PlacesAll accepted before.actionMappings after.actionMappings := by
  intro actions
  let root := source.document.root
  let upgrade := upgradeOf owner modulePrefix root
  have listed : sectionEntries root "action-mappings" "action" = actions :=
    sectionEntries_eq root "action-mappings" "action"
  obtain ⟨accepted, said, taken⟩ :=
    takes_foldl_action source modulePrefix actions (⟨survey, {}⟩, [])
  have read : readBytes owner modulePrefix resource bytes survey =
      .ok (readRoot source owner modulePrefix ⟨survey, {}⟩) := by
    simp only [readBytes, opened]
    rw [if_pos ((Application.contains_iff survey.app owner).mpr ⟨before, owned⟩)]
  have result := readRoot_eq source owner modulePrefix ⟨survey, {}⟩
  rw [listed] at result
  have sameAccepted : acceptedActions modulePrefix root = accepted := by
    have mappings := (foldl_action_eq source modulePrefix (formBeans root) (globalForwards root)
      actions (⟨survey, {}⟩, [])).2
    rw [acceptedActions, listed]
    exact (List.nil_append _).symm.trans (mappings.symm.trans taken.mappings)
  have ofOwner : upgrade.className = owner := by
    simp only [upgrade, upgradeOf_eq]
  have counted : (readRoot source owner modulePrefix ⟨survey, {}⟩).summary.entries =
        accepted.length ∧
      (readRoot source owner modulePrefix ⟨survey, {}⟩).summary.skipped = said.length := by
    rw [result]
    exact ⟨taken.entries.trans (Nat.zero_add _), taken.skipped.trans (Nat.zero_add _)⟩
  refine ⟨_, accepted, said, before.merge upgrade, read, ?_, counted.1, taken.fares, ?_, ?_, ?_⟩
  · rw [counted.1, counted.2, taken.fares.length]
  · rw [result, Reading.update, Survey.register_diagnostics, taken.diagnostics, taken.app]
    simp only [Application.outcome]
    rw [show (upgradeOf owner modulePrefix source.document.root).className = owner from ofOwner,
      owned]
    simp only [remarksOn_upgrade]
  · rw [readRoot_app, Application.component?_register, if_pos ofOwner, owned]
    rfl
  · rw [Component.merge_eq]
    simp only [upgrade, upgradeOf_eq]
    rw [ActionMapping.putAll_putAll, sameAccepted]
    exact ActionMapping.placesAll_putAll accepted before.actionMappings

/-- What is read was opened. -/
theorem openSource_of_readBytes {owner modulePrefix resource : String} {bytes : ByteArray}
    {survey : Survey} {reading : Reading}
    (read : readBytes owner modulePrefix resource bytes survey = .ok reading) :
    ∃ source, openSource resource roots bytes = .ok source := by
  unfold readBytes at read
  cases opened : openSource resource roots bytes with
  | error error =>
      rw [opened] at read
      cases read
  | ok source => exact ⟨source, rfl⟩

/-- Two form beans of one name, of which the second counts; an action with a forward of its own that
is also one for all actions, of which its own counts; and two actions with one path, of which the
first names no class. -/
def sharingConfig : ByteArray :=
  String.toUTF8 <|
    "<struts-config><form-beans><form-bean name='f' type='O'/><form-bean name='f' type='N'/>" ++
      "</form-beans><global-forwards><forward name='d' path='s'/><forward/></global-forwards>" ++
      "<action-mappings><action path='a' type='A' name='f'>" ++
      "<forward name='d' path='o' redirect='true'/></action><action path='/e' type='1'/>" ++
      "<action path='/e' type='E'/></action-mappings></struts-config>"

/-- A servlet with an action at one of the paths and with another one. -/
def sharingOwner : Component :=
  { className := "C", kind := .servlet,
    actionMappings :=
      [{ path := "/m/a", handlerClass := "Z" }, { path := "/z", handlerClass := "Z" }] }

/-- The actions afterwards: one is replaced, one stays and one is new. -/
def sharedMappings : List ActionMapping :=
  [{ path := "/m/a", handlerClass := "A", formName := some "f", formClass := some "N",
     forwards := [⟨"d", "o", true⟩] },
   { path := "/z", handlerClass := "Z" },
   { path := "/m/e", handlerClass := "E", forwards := [⟨"d", "s", false⟩] }]

theorem readBytes_extracts_one :
    let survey := ({} : Survey).register sharingOwner
    survey.app.component? "C" = some sharingOwner ∧
      ∃ source reading accepted said after,
        openSource "struts-config.xml" roots sharingConfig = .ok source ∧
        readBytes "C" "/m/" "struts-config.xml" sharingConfig survey = .ok reading ∧
        reading.summary = ⟨2, 1⟩ ∧
        Fares source "/m/" (entriesOf source.document.root "action-mappings" "action") accepted
          said ∧
        accepted.length = 2 ∧ reading.survey.diagnostics = said ∧
        reading.survey.app.component? "C" = some after ∧
        ActionMapping.PlacesAll accepted sharingOwner.actionMappings after.actionMappings ∧
        after.actionMappings = sharedMappings := by
  intro survey
  have owned : survey.app.component? "C" = some sharingOwner := by decide +kernel
  have evaluated : (readBytes "C" "/m/" "struts-config.xml" sharingConfig survey).toOption.any
      (fun reading => decide (reading.summary = ⟨2, 1⟩ ∧
        (reading.survey.app.component? "C").map Component.actionMappings =
          some sharedMappings)) = true := by
    decide +kernel
  obtain ⟨reading, read, facts⟩ := exists_ok_of_any evaluated
  obtain ⟨source, opened⟩ := openSource_of_readBytes read
  obtain ⟨_, accepted, said, after, again, counted, entries, fares, diagnostics, afterwards,
    placed⟩ := readBytes_extracts "/m/" opened owned
  obtain rfl := Except.ok.inj (read.symm.trans again)
  obtain ⟨summary, mappings⟩ := of_decide_eq_true facts
  rw [afterwards, Option.map_some, Option.some_inj] at mappings
  have two : accepted.length = 2 := by
    rw [← entries, summary]
  have spoken : reading.survey.diagnostics = said := by
    have quiet : survey.diagnostics = [] := by decide +kernel
    rw [diagnostics, quiet, List.nil_append]
    exact List.append_nil said
  exact ⟨owned, source, reading, accepted, said, after, opened, read, summary, fares, two, spoken,
    afterwards, placed, mappings⟩

end Descriptor.ActionConfig

end ContainerReplay
