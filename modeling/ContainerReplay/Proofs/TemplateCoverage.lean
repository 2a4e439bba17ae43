import ContainerReplay.EntryPoint
import ContainerReplay.Proofs.DriverAccounting
import ContainerReplay.Proofs.MissingTemplates
import ContainerReplay.Proofs.RegisteredKinds
import ContainerReplay.Proofs.SoundRegistries

/-!
# Validated registries leave no component without a template

Validation looks at declarations only: the kinds that detectors introduce and the templates that they
name.  It is enough because kinds are closed under merging: whatever is registered, a component of an
application has a kind that some detector declared.
-/

set_option autoImplicit false

namespace ContainerReplay

/-! ## Validation covers every declared kind -/

theorem TemplateSet.covers_insert {set extended : TemplateSet} {template : Template}
    (inserted : set.insert template = .ok extended) {kind : Kind}
    (covered : set.covers kind = true) : extended.covers kind = true := by
  obtain ⟨_, templates⟩ := insert_eq_ok inserted
  simp only [covers, get?, templates, List.find?_append, Option.isSome_or] at covered ⊢
  simp [covered]

namespace Registry

/-- Adopting a detector takes no template away, and covers what the detector declares. -/
theorem covers_adopt {catalog : Catalog} {templates extended : TemplateSet} {detector : Detector}
    (adopted : adopt catalog templates detector = .ok extended) :
    (∀ kind, templates.covers kind = true → extended.covers kind = true) ∧
      ∀ kind ∈ detector.extensions, extended.covers kind = true := by
  unfold adopt at adopted
  cases taken : detector.templates.foldlM (adoptTemplate catalog detector) templates with
  | error error =>
      rw [taken] at adopted
      cases adopted
  | ok result =>
      simp only [taken] at adopted
      split at adopted
      · cases adopted
      · rename_i noneMissing
        cases adopted
        refine ⟨fun kind covered => ?_, fun kind declared => ?_⟩
        · refine foldlM_taken (motive := fun _ state => state.covers kind = true) covered ?_ taken
          intro _ state id next sofar step
          obtain ⟨template, _, _, inserted⟩ := adoptTemplate_eq_ok step
          exact TemplateSet.covers_insert inserted sofar
        · have own := List.find?_eq_none.mp noneMissing kind declared
          rw [TemplateSet.covers]
          cases found : extended.get? kind with
          | none => simp [coversOwn, found] at own
          | some template => rfl

theorem validate_covers {registry : Registry} {catalog : Catalog} {templates : TemplateSet}
    (valid : registry.validate catalog = .ok templates) :
    ∀ detector ∈ registry.detectors, ∀ kind ∈ detector.extensions,
      templates.covers kind = true := by
  refine foldlM_taken (motive := fun taken state =>
    ∀ detector ∈ taken, ∀ kind ∈ detector.extensions, state.covers kind = true) ?_ ?_ valid
  · exact fun detector member => absurd member List.not_mem_nil
  · intro taken state detector next sofar step other member kind declared
    obtain ⟨kept, own⟩ := covers_adopt step
    rcases List.mem_append.mp member with earlier | last
    · exact kept kind (sofar other earlier kind declared)
    · obtain rfl := List.mem_singleton.mp last
      exact own kind declared

/-- One pass of several detectors registers only kinds that the detectors declare. -/
theorem registers_passes {registry : Registry} {pass : Detector → Pass} {site : Site}
    (own : ∀ detector ∈ registry.detectors, ∀ survey : Survey,
      Application.Registers detector.extensions survey.app
        (pass detector site survey).survey.app)
    {detectors : List Detector} (listed : ∀ detector ∈ detectors, detector ∈ registry.detectors)
    (survey : Survey) :
    Application.Registers (registry.detectors.flatMap Detector.extensions) survey.app
      (detectors.foldl (fun survey detector => (pass detector site survey).reported)
        survey).app := by
  refine List.foldlRecOn (motive := fun reached : Survey => Application.Registers
    (registry.detectors.flatMap Detector.extensions) survey.app reached.app)
    detectors _ (Application.Registers.nothing survey.app) ?_
  intro reached sofar detector member
  rw [Detection.reported_app]
  apply sofar.trans
  apply (own detector (listed detector member) reached).mono
  intro kind declared
  exact List.mem_flatMap.mpr ⟨detector, listed detector member, declared⟩

/-- Whatever detectors fail or are not enabled, a run registers only kinds that some detector
declares. -/
theorem registers_run {registry : Registry}
    (own : ∀ detector ∈ registry.detectors, detector.RegistersOwn) (strict : Bool) (site : Site)
    (survey : Survey) :
    Application.Registers (registry.detectors.flatMap Detector.extensions) survey.app
      (registry.run strict site survey).app := by
  let noted : Survey :=
    { survey with diagnostics := survey.diagnostics ++ registry.skipNotes site.loader }
  have enabled : ∀ detector ∈ (registry.enabled site.loader).detectors,
      detector ∈ registry.detectors := fun detector member => (List.mem_filter.mp member).1
  have sources : ∀ detector ∈ registry.detectors, ∀ survey : Survey,
      Application.Registers detector.extensions survey.app
        (detector.source site survey).survey.app :=
    fun detector member survey => (own detector member site survey).1
  have configs : ∀ detector ∈ registry.detectors, ∀ survey : Survey,
      Application.Registers detector.extensions survey.app
        (detector.config site survey).survey.app :=
    fun detector member survey => (own detector member site survey).2
  refine Application.Registers.trans ?_ (registers_passes configs enabled _)
  cases strict with
  | true => exact registers_passes sources enabled noted
  | false => exact registers_passes sources (fun _ member => member) noted

end Registry

/-! ## Every component has its template -/

namespace Creator

open Synthesis

/-- A run leaves no component without a template.  Beyond its detection an entry point has to say only
what templates say, so that a template is reported as missing only where a detector or a template
reports so itself. -/
structure CoversAll (creator : Creator) (site : Site) : Prop where
  templates : ∀ component ∈ (creator.create site).app.componentList, ∃ template,
    creator.templates.get? component.kind = some template ∧ template.kind = component.kind
  diagnostics : (creator.create site).diagnostics = (creator.detect site).diagnostics ++
    (Component.inContainerOrder (creator.create site).app.componentList).flatMap fun component =>
      (creator.templates.get? component.kind).elim [] fun template =>
        (template.instantiate ⟨(creator.create site).app, site.classes⟩ component).diagnostics
  missing : ∀ component, missingWarning component ∈ (creator.create site).diagnostics →
    missingWarning component ∈ (creator.detect site).diagnostics ∨
      ∃ stored ∈ (creator.create site).app.componentList, ∃ template,
        creator.templates.get? stored.kind = some template ∧
          missingWarning component ∈
            (template.instantiate ⟨(creator.create site).app, site.classes⟩ stored).diagnostics

theorem coversAll_of_kinds {creator : Creator} {site : Site}
    (all : (creator.detect site).app.All fun component =>
      creator.templates.covers component.kind = true) : creator.CoversAll site := by
  let scene : Scene := ⟨(creator.detect site).app, site.classes⟩
  have templates : ∀ component ∈ (creator.detect site).app.componentList, ∃ template,
      creator.templates.get? component.kind = some template ∧
        template.kind = component.kind := by
    intro component member
    obtain ⟨className, found⟩ := (Application.mem_componentList_iff _ component).mp member
    obtain ⟨template, present⟩ := Option.isSome_iff_exists.mp (all className component found)
    have answers := present
    unfold TemplateSet.get? at answers
    have same := List.find?_some answers
    exact ⟨template, present, by simpa using same⟩
  have replayed : ∀ component ∈ Component.inContainerOrder (creator.detect site).app.componentList,
      (replayComponent creator.templates scene component).diagnostics =
        (creator.templates.get? component.kind).elim [] fun template =>
          (template.instantiate scene component).diagnostics := by
    intro component member
    obtain ⟨template, present, -⟩ :=
      templates component ((Component.inContainerOrder_perm _).mem_iff.mp member)
    simp only [replayComponent, present, Option.elim_some]
  have diagnostics : (creator.create site).diagnostics = (creator.detect site).diagnostics ++
      (Component.inContainerOrder (creator.detect site).app.componentList).flatMap
        fun component => (creator.templates.get? component.kind).elim [] fun template =>
          (template.instantiate scene component).diagnostics := by
    show (creator.detect site).diagnostics ++ List.flatMap
      (fun component => (replayComponent creator.templates scene component).diagnostics)
        (Component.inContainerOrder (creator.detect site).app.componentList) = _
    simp only [List.flatMap]
    rw [List.map_congr_left replayed]
  refine ⟨templates, diagnostics, ?_⟩
  intro component reported
  rw [diagnostics, List.mem_append] at reported
  rcases reported with detected | synthesized
  · exact Or.inl detected
  · obtain ⟨stored, member, said⟩ := List.mem_flatMap.mp synthesized
    have listed := (Component.inContainerOrder_perm _).mem_iff.mp member
    obtain ⟨template, present, -⟩ := templates stored listed
    rw [present, Option.elim_some] at said
    exact Or.inr ⟨stored, listed, template, present, said⟩

/-- Where no detector and no template reports a missing template, a run that covers all components
reports none. -/
theorem CoversAll.missesNone {creator : Creator} {site : Site} (covers : creator.CoversAll site)
    (detectors : ∀ detector ∈ creator.registry.detectors, detector.MissesNone)
    (templates : ∀ template ∈ creator.templates.templates, template.MissesNone) :
    ∀ diagnostic ∈ (creator.create site).diagnostics, ¬ diagnostic.MissesTemplate := by
  intro diagnostic said misses
  rw [covers.diagnostics, List.mem_append] at said
  rcases said with detected | synthesized
  · have earlier := Registry.missesNoMore_run detectors creator.strict site {} diagnostic detected
      misses
    exact absurd earlier List.not_mem_nil
  · obtain ⟨component, _, replayed⟩ := List.mem_flatMap.mp synthesized
    cases found : creator.templates.get? component.kind with
    | none =>
        rw [found] at replayed
        cases replayed
    | some template =>
        rw [found] at replayed
        exact templates template (List.mem_of_find?_eq_some found) _ component diagnostic replayed
          misses

/-- For a registry that is valid for a catalog it is enough that its detectors register only what
they declare, as the built-in ones do.  Nothing in a run reports a missing template then, unless a
detector or a template does so of its own accord, as no built-in one does. -/
theorem validation_suffices {registry : Registry} {catalog : Catalog} {creator : Creator}
    (valid : ofRegistry registry catalog = .ok creator)
    (own : ∀ detector ∈ registry.detectors, detector.RegistersOwn) (strict : Bool)
    (driverClass : String) (site : Site) :
    ({ creator with strict, driverClass } : Creator).CoversAll site ∧
      registry.validate catalog = .ok creator.templates ∧
      (∀ detector ∈ Registry.builtin.detectors, detector.RegistersOwn) ∧
      ((∀ detector ∈ registry.detectors, detector.MissesNone) →
        (∀ template ∈ creator.templates.templates, template.MissesNone) →
        ∀ diagnostic ∈ (({ creator with strict, driverClass } : Creator).create site).diagnostics,
          ¬ diagnostic.MissesTemplate) ∧
      (∀ detector ∈ Registry.builtin.detectors, detector.MissesNone) ∧
      ∀ template ∈ builtinTemplates, template.MissesNone := by
  unfold ofRegistry at valid
  cases validated : registry.validate catalog with
  | error error =>
      rw [validated] at valid
      cases valid
  | ok templates =>
      rw [validated] at valid
      cases valid
      have declared : ∀ kind ∈ registry.detectors.flatMap Detector.extensions,
          templates.covers kind = true := by
        intro kind listed
        obtain ⟨detector, member, introduced⟩ := List.mem_flatMap.mp listed
        exact Registry.validate_covers validated detector member kind introduced
      have all : (registry.run strict site {}).app.All
          fun component => templates.covers component.kind = true :=
        Application.Registers.allKinds declared (Registry.registers_run own strict site {})
          (Application.all_empty _)
      have covers : ({ registry, templates, strict, driverClass } : Creator).CoversAll site :=
        coversAll_of_kinds all
      exact ⟨covers, rfl, Registry.builtin_registersOwn, covers.missesNone,
        Registry.builtin_missesNone, builtin_missesNone⟩

/-- A class that its signature makes a filter, at a site without any file. -/
def filterClass : Site :=
  ⟨.ofList [{ name := "a.Audit", interfaces := ["javax.servlet.Filter"] }], .classpath []⟩

theorem validation_suffices_for_filter :
    ∃ creator, ofRegistry Registry.builtin builtinCatalog = .ok creator ∧
      ((creator.create filterClass).app.componentList.map Component.kind) = [.filter] ∧
      creator.CoversAll filterClass ∧
      ∀ diagnostic ∈ (creator.create filterClass).diagnostics, ¬ diagnostic.MissesTemplate := by
  let creator : Creator := ⟨Registry.builtin, .ofList builtinTemplates, false, Driver.defaultClass⟩
  have valid : ofRegistry Registry.builtin builtinCatalog = .ok creator := rfl
  obtain ⟨covers, -, -, quiet, detectors, templates⟩ :=
    validation_suffices valid Registry.builtin_registersOwn false Driver.defaultClass filterClass
  exact ⟨creator, valid, by decide +kernel, covers, quiet detectors templates⟩

end Creator

end ContainerReplay
