import Mathlib.Tactic.MkIffOfInductiveProp
import ContainerReplay.Proofs.ReadTallies

/-!
# The accounts of a read

Every entry of a descriptor is counted as taken or as skipped, or is a page and noted as one.  Every
warning is about a skipped entry or parameter, about a class that is on record with an unrelated kind,
or about a start-up order that is no number; and nothing is an error.
-/

set_option autoImplicit false

namespace ContainerReplay

namespace Descriptor

open Markup (Element)

namespace Content

/-- The outcomes of all registrations of a descriptor, in the order in which they take place. -/
def outcomes (content : Content) (app : Application) : List MergeOutcome :=
  (content.configure app).outcomes (componentsOf content.servlets ++ componentsOf content.filters) ++
    (content.routeAll (content.declare app)).outcomes content.listeners

end Content

namespace Deployment

/-- The kinds of entries that a descriptor has, the mappings being looked up among what it declares. -/
def entryForms (root : Element) (app : Application) : List EntryForm :=
  let content := contentOf root
  let declared := content.declare app
  [.servlets, .filters, .mappings .servlets content.servlets declared,
    .mappings .filters content.filters declared, .listeners]

def fateIn (forms : List EntryForm) (element : Element) : Option Fate :=
  (forms.find? fun form => form.element == element.name).map fun form => form.fate element

/-- How an element below the root fares, if it is an entry. -/
def fate? (root : Element) (app : Application) : Element → Option Fate :=
  fateIn (entryForms root app)

theorem countP_fateIn {forms : List EntryForm} (distinct : (forms.map EntryForm.element).Nodup)
    (fate : Fate) (elements : List Element) :
    (elements.countP fun element => fateIn forms element == some fate) =
      (forms.map fun form =>
        (elements.filter fun element => element.name == form.element).countP
          fun element => form.fate element == fate).foldr (· + ·) 0 := by
  induction forms generalizing elements with
  | nil => simp [fateIn]
  | cons form rest ih =>
      obtain ⟨fresh, distinctRest⟩ := List.nodup_cons.mp distinct
      -- the first form decides about the elements of its name, the rest about all others
      rw [List.countP_eq_countP_filter_add elements _ fun element => element.name == form.element,
        List.map_cons, List.foldr_cons]
      congr 1
      · refine List.countP_congr fun element member => ?_
        have named := beq_iff_eq.mp (List.mem_filter.mp member).2
        simp [fateIn, named]
      · have others : ((elements.filter fun element => !(element.name == form.element)).countP
            fun element => fateIn (form :: rest) element == some fate) =
              (elements.filter fun element => !(element.name == form.element)).countP
                fun element => fateIn rest element == some fate := by
          refine List.countP_congr fun element member => ?_
          have unlike := (List.mem_filter.mp member).2
          have other : (form.element == element.name) = false :=
            beq_eq_false_iff_ne.mpr fun same => by simp [same] at unlike
          simp [fateIn, other]
        rw [others, ih distinctRest]
        -- setting aside the elements of the first form takes nothing from a later one
        refine congrArg (List.foldr (· + ·) 0) (List.map_congr_left fun later member => ?_)
        rw [List.filter_filter]
        refine congrArg (List.countP _) (List.filter_congr fun element _ => ?_)
        by_cases named : element.name = later.element
        · have apart : later.element ≠ form.element := fun same =>
            fresh (same ▸ List.mem_map_of_mem member)
          simp [named, apart]
        · simp [named]

/-- A servlet with a name and, in the place of a class, a file. -/
@[mk_iff] structure IsPage (element : Element) : Prop where
  isServlet : element.name = "servlet"
  named : ∃ name, childText? element "servlet-name" = some name
  classless : childText? element "servlet-class" = none
  file : ∃ path, childText? element "jsp-file" = some path

theorem isPage_iff_fate (element : Element) :
    IsPage element ↔ element.name = "servlet" ∧ servletFate element = .page := by
  rw [isPage_iff, servletFate]
  cases childText? element "servlet-name" <;> cases childText? element "servlet-class" <;>
    cases childText? element "jsp-file" <;> simp

theorem fate?_eq_page_iff (root : Element) (app : Application) (element : Element) :
    fate? root app element = some .page ↔
      element.name = "servlet" ∧ servletFate element = .page := by
  constructor
  · intro page
    obtain ⟨form, found, fate⟩ := Option.map_eq_some_iff.mp page
    have named := List.find?_some found
    have listed := List.mem_of_find?_eq_some found
    simp only [entryForms, List.mem_cons, List.not_mem_nil, or_false] at listed
    rcases listed with rfl | rfl | rfl | rfl | rfl
    · exact ⟨(beq_iff_eq.mp named).symm, fate⟩
    · exact absurd fate (EntryForm.filters_fate_ne_page element)
    · exact absurd fate (MappingForm.fate_ne_page _ _ _ element)
    · exact absurd fate (MappingForm.fate_ne_page _ _ _ element)
    · exact absurd fate (EntryForm.listeners_fate_ne_page element)
  · rintro ⟨named, page⟩
    simp [fate?, fateIn, entryForms, named, EntryForm.servlets, page]

theorem filter_fate?_page (root : Element) (app : Application) :
    (root.elements.filter fun element => fate? root app element == some .page) = pages root := by
  rw [pages, Element.childrenNamed, List.filter_filter]
  refine List.filter_congr fun element _ => ?_
  rw [Bool.eq_iff_iff, beq_iff_eq, fate?_eq_page_iff, Bool.and_eq_true, beq_iff_eq, beq_iff_eq,
    and_comm]

def entryElements : List String :=
  ["servlet", "filter", "servlet-mapping", "filter-mapping", "listener"]

theorem fate?_isSome_iff (root : Element) (app : Application) (element : Element) :
    (fate? root app element).isSome = true ↔ element.name ∈ entryElements := by
  have elements : (entryForms root app).map EntryForm.element = entryElements := rfl
  rw [fate?, fateIn, Option.isSome_map, List.find?_isSome, ← elements, List.mem_map]
  simp only [beq_iff_eq]

/-- Every entry of a descriptor is taken, skipped or a page; the summary counts the first two, and
every skipped parameter; and the diagnostics are a warning for each of these, one for each conflict
and one for each start-up order that is no number, and a note for each page. -/
structure Balanced (source : Source) (survey : Survey) (reading : Reading) : Prop where
  fates : ∀ element ∈ source.document.root.elements, element.name ∈ entryElements →
    ∃ fate, fate? source.document.root survey.app element = some fate ∧
      (fate = .page ↔ IsPage element)
  entries : reading.summary.entries = source.document.root.elements.countP fun element =>
    fate? source.document.root survey.app element == some .entry
  skipped : reading.summary.skipped =
    (source.document.root.elements.countP fun element =>
        fate? source.document.root survey.app element == some .skipped) +
      (readParameters source.document.root).countP isNameless
  said : ∃ said, reading.survey.diagnostics = survey.diagnostics ++ said ∧
    Diagnostic.count .warn said = reading.summary.skipped +
      ((contentOf source.document.root).outcomes survey.app).countP MergeOutcome.isConflict +
      (declaredServlets source.document.root).countP hasBadOrder ∧
    said.filter (fun diagnostic => diagnostic.severity == .info) =
      (source.document.root.elements.filter fun element =>
        fate? source.document.root survey.app element == some .page).map (pageNote source) ∧
    Diagnostic.count .error said = 0

theorem countP_fate? (root : Element) (app : Application) (fate : Fate) :
    let content := contentOf root
    (root.elements.countP fun element => fate? root app element == some fate) =
      EntryForm.servlets.count root fate + EntryForm.filters.count root fate +
        (EntryForm.mappings .servlets content.servlets (content.declare app)).count root fate +
        (EntryForm.mappings .filters content.filters (content.declare app)).count root fate +
        EntryForm.listeners.count root fate := by
  intro content
  have elements : (entryForms root app).map EntryForm.element = entryElements := rfl
  have distinct : entryElements.Nodup := by decide
  refine (countP_fateIn (elements ▸ distinct) fate root.elements).trans ?_
  simp only [entryForms, List.map_cons, List.map_nil, List.foldr_cons, List.foldr_nil,
    Nat.add_zero, ← Nat.add_assoc]
  rfl

theorem countP_outcomes (content : Content) (app : Application) :
    (content.outcomes app).countP MergeOutcome.isConflict =
      (content.configure app).conflicts (componentsOf content.servlets) +
        ((content.configure app).registerAll (componentsOf content.servlets)).conflicts
          (componentsOf content.filters) +
        (content.routeAll (content.declare app)).conflicts content.listeners := by
  rw [Content.outcomes, List.countP_append, ← Application.conflicts, Application.conflicts_append]
  rfl

theorem adds_readRoot (source : Source) (reading : Reading) :
    let root := source.document.root
    let fate := fate? root reading.survey.app
    Adds
      { entries := root.elements.countP fun element => fate element == some .entry
        skipped := (root.elements.countP fun element => fate element == some .skipped) +
          (readParameters root).countP isNameless
        complaints :=
          ((contentOf root).outcomes reading.survey.app).countP MergeOutcome.isConflict +
            (declaredServlets root).countP hasBadOrder
        notes := (root.elements.filter fun element => fate element == some .page).map
          (pageNote source) }
      reading (readRoot source reading) := by
  intro root fate
  have declared := ((adds_configured source reading).trans (adds_withServlets source reading)).trans
    (adds_withFilters source reading)
  have routed := (declared.trans (adds_servletMappings source reading)).trans
    (adds_filterMappings source reading)
  have completed := (routed.trans (adds_withListeners source reading)).trans
    (adds_updateApp _ fun app => (allInjections root).foldl Application.addInjection app)
  rw [← readRoot_eq] at completed
  refine completed.congr ?_
  ext1
  · simp only [Tally.append_entries, fate, countP_fate?, root]
    omega
  · simp only [Tally.append_skipped, fate, countP_fate?, root, readParameters, List.countP_append,
      List.flatMap_append]
    omega
  · simp only [Tally.append_complaints, countP_outcomes, root]
    omega
  · simp only [Tally.append_notes, fate, filter_fate?_page, root, List.nil_append, List.append_nil]

theorem readRoot_balanced (source : Source) (survey : Survey) :
    Balanced source survey (readRoot source ⟨survey, {}⟩) := by
  obtain ⟨entries, skipped, said, diagnostics, warnings, notes, errors⟩ :=
    adds_readRoot source ⟨survey, {}⟩
  rw [Nat.zero_add] at entries skipped
  refine ⟨fun element _ listed => ?_, entries, skipped, said, diagnostics, ?_, notes, errors⟩
  · obtain ⟨fate, found⟩ := Option.isSome_iff_exists.mp
      ((fate?_isSome_iff source.document.root survey.app element).mpr listed)
    refine ⟨fate, found, ?_⟩
    rw [isPage_iff_fate, ← fate?_eq_page_iff source.document.root survey.app, found, Option.some_inj]
  · rw [warnings, skipped]
    exact (Nat.add_assoc _ _ _).symm

/-- The accounts of every descriptor that is accepted are balanced. -/
theorem readBytes_balanced {resource : String} {bytes : ByteArray} {source : Source}
    (opened : openSource resource roots bytes = .ok source) (survey : Survey) :
    ∃ reading, readBytes resource bytes survey = .ok reading ∧ Balanced source survey reading := by
  refine ⟨readRoot source ⟨survey, {}⟩, ?_, readRoot_balanced source survey⟩
  rw [readBytes, opened]

/-- A descriptor with a page, a listener and a filter without a class. -/
def mixedDescriptor : ByteArray :=
  String.toUTF8 <|
    "<web-app><servlet><servlet-name>p</servlet-name><jsp-file>/p</jsp-file></servlet>" ++
      "<listener><listener-class>C</listener-class></listener><filter/></web-app>"

/-- Where the class of the listener is a filter, one warning is about it and one about the filter. -/
theorem readBytes_balanced_with_page :
    let survey := ({} : Survey).register { className := "C", kind := .filter }
    ∃ source reading, openSource "web.xml" roots mixedDescriptor = .ok source ∧
      readBytes "web.xml" mixedDescriptor survey = .ok reading ∧
      Balanced source survey reading ∧ reading.summary = ⟨1, 1⟩ ∧
      reading.survey.diagnostics.map Diagnostic.severity = [.info, .warn, .warn] := by
  intro survey
  have counted : (readBytes "web.xml" mixedDescriptor survey).toOption.any (fun reading =>
      reading.summary == ⟨1, 1⟩ &&
        reading.survey.diagnostics.map Diagnostic.severity == [.info, .warn, .warn]) = true := by
    decide +kernel
  cases opened : openSource "web.xml" roots mixedDescriptor with
  | error error =>
      rw [readBytes, opened] at counted
      cases counted
  | ok source =>
      obtain ⟨reading, read, balanced⟩ := readBytes_balanced opened survey
      rw [read] at counted
      simp only [Except.toOption, Option.any_some, Bool.and_eq_true, beq_iff_eq] at counted
      exact ⟨source, reading, rfl, read, balanced, counted.1, counted.2⟩

end Deployment

end Descriptor

end ContainerReplay
