import ContainerReplay.Detection.Registry
import Mathlib.Data.List.Nodup

/-!
# Sound sets of detectors

Validation goes through the detectors once and collects their templates on the way.  What it accepts
can be said without an order: every template that is listed exists and is of a kind of the detector
that lists it, no two listings are of one kind, and every kind of a detector has a listing of the same
detector.  What it refuses, it refuses for a reason that is really there.
-/

set_option autoImplicit false

namespace ContainerReplay

/-! ## Loops that may fail -/

section

variable {σ α ε : Type} {step : σ → α → Except ε σ}

/-- What holds of the items taken so far and the state is kept by a loop that succeeds. -/
theorem foldlM_taken {motive : List α → σ → Prop} {items : List α} {start final : σ}
    (initially : motive [] start)
    (steps : ∀ taken state item next, motive taken state → step state item = .ok next →
      motive (taken ++ [item]) next)
    (done : items.foldlM step start = .ok final) : motive items final := by
  -- the induction is on what is left, and what is taken already has to be carried along
  have general : ∀ (rest taken : List α) (state : σ), motive taken state →
      rest.foldlM step state = .ok final → motive (taken ++ rest) final := by
    intro rest
    induction rest with
    | nil =>
        intro taken state sofar done
        cases done
        rw [List.append_nil]
        exact sofar
    | cons item rest ih =>
        intro taken state sofar done
        rw [List.foldlM_cons] at done
        cases reached : step state item with
        | error error =>
            rw [reached] at done
            cases done
        | ok next =>
            rw [reached] at done
            have later := ih (taken ++ [item]) next (steps taken state item next sofar reached) done
            rw [List.append_assoc, List.singleton_append] at later
            exact later
  exact general items [] start initially done

/-- A loop that fails does so at one item, which it reaches by taking all items before it. -/
theorem foldlM_failed {items : List α} {start : σ} {error : ε}
    (failed : items.foldlM step start = .error error) :
    ∃ before item after reached, items = before ++ item :: after ∧
      before.foldlM step start = .ok reached ∧ step reached item = .error error := by
  induction items generalizing start with
  | nil => cases failed
  | cons item rest ih =>
      rw [List.foldlM_cons] at failed
      cases reached : step start item with
      | error earlier =>
          rw [reached] at failed
          cases failed
          exact ⟨[], item, rest, start, rfl, rfl, reached⟩
      | ok next =>
          rw [reached] at failed
          obtain ⟨before, later, after, state, divided, taken, last⟩ := ih failed
          refine ⟨item :: before, later, after, state, by rw [divided]; rfl, ?_, last⟩
          rw [List.foldlM_cons, reached]
          exact taken

end

/-! ## Catalogs and template sets -/

namespace Catalog

/-- The kind of the template with a name. -/
def kind? (catalog : Catalog) (id : String) : Option Kind :=
  (catalog.get? id).map Template.kind

/-- Every template is stored under its own name. -/
def Keyed (catalog : Catalog) : Prop :=
  ∀ id template, catalog.get? id = some template → template.id = id

theorem keyed_register {catalog : Catalog} (keyed : catalog.Keyed) (added : Template) :
    (catalog.register added).Keyed := by
  intro id template found
  rw [get?, register, Std.ExtTreeMap.getElem?_insert] at found
  split at found
  · rename_i same
    cases found
    exact Std.LawfulEqCmp.eq_of_compare same
  · exact keyed id template found

theorem keyed_ofList (templates : List Template) : (ofList templates).Keyed := by
  refine List.foldlRecOn (motive := Keyed) templates register ?_ ?_
  · intro id template found
    simp [get?, empty] at found
  · intro catalog keyed template _
    exact keyed_register keyed template

theorem kind?_eq_some_iff (catalog : Catalog) (id : String) (kind : Kind) :
    catalog.kind? id = some kind ↔
      ∃ template, catalog.get? id = some template ∧ template.kind = kind :=
  Option.map_eq_some_iff

end Catalog

namespace TemplateSet

theorem get?_eq_some {set : TemplateSet} {kind : Kind} {template : Template}
    (found : set.get? kind = some template) :
    template ∈ set.templates ∧ template.kind = kind := by
  unfold get? at found
  exact ⟨List.mem_of_find?_eq_some found, by simpa using List.find?_some found⟩

theorem insert_eq_ok {set extended : TemplateSet} {template : Template}
    (inserted : set.insert template = .ok extended) :
    template.kind ∉ set.templates.map Template.kind ∧
      extended.templates = set.templates ++ [template] := by
  unfold insert at inserted
  cases present : set.get? template.kind with
  | some existing =>
      rw [present] at inserted
      cases inserted
  | none =>
      rw [present] at inserted
      cases inserted
      refine ⟨?_, rfl⟩
      intro member
      obtain ⟨other, listed, same⟩ := List.mem_map.mp member
      exact List.find?_eq_none.mp present other listed (beq_iff_eq.mpr same)

theorem insert_eq_error {set : TemplateSet} {template existing : Template}
    (refused : set.insert template = .error existing) :
    existing ∈ set.templates ∧ existing.kind = template.kind := by
  unfold insert at refused
  cases present : set.get? template.kind with
  | none =>
      rw [present] at refused
      cases refused
  | some other =>
      rw [present] at refused
      cases refused
      exact get?_eq_some present

/-- A template set holds the templates with some names and no two of one kind. -/
structure Collects (set : TemplateSet) (catalog : Catalog) (names : List String) : Prop where
  templates : set.templates = names.filterMap catalog.get?
  distinct : (set.templates.map Template.kind).Nodup

namespace Collects

variable {set : TemplateSet} {catalog : Catalog} {names : List String}

theorem empty (catalog : Catalog) : TemplateSet.empty.Collects catalog [] :=
  ⟨rfl, List.nodup_nil⟩

theorem mem_iff (collects : set.Collects catalog names) (template : Template) :
    template ∈ set.templates ↔ ∃ id ∈ names, catalog.get? id = some template := by
  rw [collects.templates, List.mem_filterMap]

theorem get?_eq_some_iff (collects : set.Collects catalog names) (kind : Kind)
    (template : Template) :
    set.get? kind = some template ↔
      ∃ id ∈ names, catalog.get? id = some template ∧ template.kind = kind := by
  constructor
  · intro found
    obtain ⟨listed, ofKind⟩ := get?_eq_some found
    obtain ⟨id, member, stored⟩ := (collects.mem_iff template).mp listed
    exact ⟨id, member, stored, ofKind⟩
  · rintro ⟨id, member, stored, rfl⟩
    have listed := (collects.mem_iff template).mpr ⟨id, member, stored⟩
    have answered : (set.get? template.kind).isSome = true :=
      List.find?_isSome.mpr ⟨template, listed, beq_self_eq_true _⟩
    obtain ⟨other, found⟩ := Option.isSome_iff_exists.mp answered
    obtain ⟨otherListed, sameKind⟩ := get?_eq_some found
    rw [found, List.inj_on_of_nodup_map collects.distinct otherListed listed sameKind]

theorem covers_iff (collects : set.Collects catalog names) (kind : Kind) :
    set.covers kind = true ↔ ∃ id ∈ names, catalog.kind? id = some kind := by
  rw [covers, Option.isSome_iff_exists]
  constructor
  · rintro ⟨template, found⟩
    obtain ⟨id, member, stored, ofKind⟩ := (collects.get?_eq_some_iff kind template).mp found
    exact ⟨id, member, (catalog.kind?_eq_some_iff id kind).mpr ⟨template, stored, ofKind⟩⟩
  · rintro ⟨id, member, offered⟩
    obtain ⟨template, stored, ofKind⟩ := (catalog.kind?_eq_some_iff id kind).mp offered
    exact ⟨template, (collects.get?_eq_some_iff kind template).mpr ⟨id, member, stored, ofKind⟩⟩

theorem insert (collects : set.Collects catalog names) {id : String} {template : Template}
    (stored : catalog.get? id = some template) {extended : TemplateSet}
    (inserted : set.insert template = .ok extended) :
    extended.Collects catalog (names ++ [id]) := by
  obtain ⟨fresh, templates⟩ := insert_eq_ok inserted
  constructor
  · rw [templates, collects.templates, List.filterMap_append]
    simp [stored]
  · rw [templates, List.map_append, List.map_singleton]
    exact collects.distinct.append (List.nodup_singleton _) (List.disjoint_singleton.mpr fresh)

end Collects

end TemplateSet

/-! ## Soundness -/

/-- What a detector lists exists and is of its own kinds, and every kind of it has a listing. -/
structure Detector.Fits (detector : Detector) (catalog : Catalog) : Prop where
  known : ∀ id ∈ detector.templates, ∃ kind ∈ detector.extensions, catalog.kind? id = some kind
  covered : ∀ kind ∈ detector.extensions, ∃ id ∈ detector.templates, catalog.kind? id = some kind

namespace Registry

/-- The template names that the detectors list, in order and with repetitions. -/
def listings (registry : Registry) : List String :=
  registry.detectors.flatMap Detector.templates

/-- Every detector fits the catalog, and no two listings are of one kind. -/
structure Sound (registry : Registry) (catalog : Catalog) : Prop where
  fits : ∀ detector ∈ registry.detectors, detector.Fits catalog
  distinct : (registry.listings.filterMap catalog.kind?).Nodup

/-- What an error says of a registry is so. -/
inductive Violates (registry : Registry) (catalog : Catalog) : ContractError → Prop where
  | unknownTemplate {detector : Detector} {id : String} (member : detector ∈ registry.detectors)
      (listed : id ∈ detector.templates) (missing : catalog.get? id = none) :
      Violates registry catalog (.unknownTemplate detector.name id)
  | undeclaredTemplateKind {detector : Detector} {id : String} {kind : Kind}
      (member : detector ∈ registry.detectors) (listed : id ∈ detector.templates)
      (offered : catalog.kind? id = some kind) (undeclared : kind ∉ detector.extensions) :
      Violates registry catalog (.undeclaredTemplateKind detector.name id kind)
  | duplicateTemplate {kind : Kind} {first second : String} {before between after : List String}
      (listed : registry.listings = before ++ first :: between ++ second :: after)
      (ofFirst : catalog.kind? first = some kind) (ofSecond : catalog.kind? second = some kind) :
      Violates registry catalog (.duplicateTemplate kind first second)
  | uncoveredExtension {detector : Detector} {kind : Kind} (member : detector ∈ registry.detectors)
      (declared : kind ∈ detector.extensions)
      (uncovered : ∀ id ∈ detector.templates, catalog.kind? id ≠ some kind) :
      Violates registry catalog (.uncoveredExtension detector.name kind)

theorem Violates.not_sound {registry : Registry} {catalog : Catalog} {error : ContractError}
    (violates : registry.Violates catalog error) : ¬ registry.Sound catalog := by
  intro sound
  cases violates with
  | unknownTemplate member listed missing =>
      obtain ⟨kind, _, offered⟩ := (sound.fits _ member).known _ listed
      simp [Catalog.kind?, missing] at offered
  | undeclaredTemplateKind member listed offered undeclared =>
      obtain ⟨kind, declared, same⟩ := (sound.fits _ member).known _ listed
      rw [offered, Option.some_inj] at same
      rw [same] at undeclared
      exact undeclared declared
  | duplicateTemplate listed ofFirst ofSecond =>
      have distinct := sound.distinct
      rw [listed] at distinct
      simp [List.nodup_append, ofFirst, ofSecond] at distinct
  | uncoveredExtension member declared uncovered =>
      obtain ⟨id, listed, offered⟩ := (sound.fits _ member).covered _ declared
      exact uncovered id listed offered

/-! ## One template -/

section

variable {catalog : Catalog} {detector : Detector} {set : TemplateSet}

theorem adoptTemplate_eq_ok {id : String} {extended : TemplateSet}
    (adopted : adoptTemplate catalog detector set id = .ok extended) :
    ∃ template, catalog.get? id = some template ∧ template.kind ∈ detector.extensions ∧
      set.insert template = .ok extended := by
  unfold adoptTemplate at adopted
  split at adopted
  · cases adopted
  · rename_i template stored
    split at adopted
    · rename_i declared
      split at adopted
      · rename_i result inserted
        cases adopted
        exact ⟨template, stored, List.contains_iff_mem.mp declared, inserted⟩
      · cases adopted
    · cases adopted

theorem adoptTemplate_eq_error {id : String} {error : ContractError}
    (refused : adoptTemplate catalog detector set id = .error error) :
    (catalog.get? id = none ∧ error = .unknownTemplate detector.name id) ∨
      ∃ template, catalog.get? id = some template ∧
        ((template.kind ∉ detector.extensions ∧
            error = .undeclaredTemplateKind detector.name id template.kind) ∨
          ∃ existing, set.insert template = .error existing ∧
            error = .duplicateTemplate template.kind existing.id id) := by
  unfold adoptTemplate at refused
  split at refused
  · rename_i missing
    cases refused
    exact Or.inl ⟨missing, rfl⟩
  · rename_i template stored
    refine Or.inr ⟨template, stored, ?_⟩
    split at refused
    · split at refused
      · cases refused
      · rename_i existing taken
        cases refused
        exact Or.inr ⟨existing, taken, rfl⟩
    · rename_i undeclared
      cases refused
      exact Or.inl ⟨fun member => undeclared (List.contains_iff_mem.mpr member), rfl⟩

/-! ## One detector -/

variable {names : List String}

theorem collects_adoptTemplates (collects : set.Collects catalog names) {ids : List String}
    {extended : TemplateSet}
    (adopted : ids.foldlM (adoptTemplate catalog detector) set = .ok extended) :
    extended.Collects catalog (names ++ ids) ∧
      ∀ id ∈ ids, ∃ kind ∈ detector.extensions, catalog.kind? id = some kind := by
  refine foldlM_taken (motive := fun taken state => state.Collects catalog (names ++ taken) ∧
      ∀ id ∈ taken, ∃ kind ∈ detector.extensions, catalog.kind? id = some kind) ?_ ?_ adopted
  · rw [List.append_nil]
    exact ⟨collects, fun id member => absurd member List.not_mem_nil⟩
  · rintro taken state id next ⟨collected, known⟩ step
    obtain ⟨template, stored, declared, inserted⟩ := adoptTemplate_eq_ok step
    rw [← List.append_assoc]
    refine ⟨collected.insert stored inserted, ?_⟩
    intro other member
    rcases List.mem_append.mp member with earlier | last
    · exact known other earlier
    · rw [List.mem_singleton.mp last]
      exact ⟨template.kind, declared, (catalog.kind?_eq_some_iff id _).mpr ⟨template, stored, rfl⟩⟩

variable (keyed : catalog.Keyed)

include keyed

/-- The template for a kind is one of the detector's own exactly if the detector lists one of the
kind: where a kind has one template, a name tells whose it is. -/
theorem coversOwn_iff (collects : set.Collects catalog (names ++ detector.templates))
    (kind : Kind) :
    coversOwn detector set kind = true ↔
      ∃ id ∈ detector.templates, catalog.kind? id = some kind := by
  unfold coversOwn
  constructor
  · intro own
    cases found : set.get? kind with
    | none =>
        rw [found] at own
        cases own
    | some template =>
        rw [found] at own
        obtain ⟨id, _, stored, ofKind⟩ := (collects.get?_eq_some_iff kind template).mp found
        have listed := List.contains_iff_mem.mp own
        rw [keyed id template stored] at listed
        exact ⟨id, listed, (catalog.kind?_eq_some_iff id kind).mpr ⟨template, stored, ofKind⟩⟩
  · rintro ⟨id, listed, offered⟩
    obtain ⟨template, stored, ofKind⟩ := (catalog.kind?_eq_some_iff id kind).mp offered
    have found := (collects.get?_eq_some_iff kind template).mpr
      ⟨id, List.mem_append_right names listed, stored, ofKind⟩
    rw [found]
    simp only [keyed id template stored]
    exact List.contains_iff_mem.mpr listed

theorem collects_adopt (collects : set.Collects catalog names) {extended : TemplateSet}
    (adopted : adopt catalog set detector = .ok extended) :
    extended.Collects catalog (names ++ detector.templates) ∧ detector.Fits catalog := by
  unfold adopt at adopted
  split at adopted
  · cases adopted
  · rename_i result taken
    obtain ⟨collected, known⟩ := collects_adoptTemplates collects taken
    split at adopted
    · cases adopted
    · rename_i noneMissing
      cases adopted
      refine ⟨collected, known, ?_⟩
      intro kind declared
      have own := List.find?_eq_none.mp noneMissing kind declared
      rw [decide_eq_true_eq, Bool.not_eq_false] at own
      exact (coversOwn_iff keyed collected kind).mp own

/-! ## All detectors -/

/-- A listing whose kind is taken repeats an earlier one. -/
theorem violates_of_taken {registry : Registry} {before after : List Detector}
    (divided : registry.detectors = before ++ detector :: after) {earlier later : List String}
    {id : String} (listed : detector.templates = earlier ++ id :: later)
    (collects : set.Collects catalog (before.flatMap Detector.templates ++ earlier))
    {template existing : Template} (stored : catalog.get? id = some template)
    (taken : set.insert template = .error existing) :
    registry.Violates catalog (.duplicateTemplate template.kind existing.id id) := by
  -- the template in the way was listed earlier, by this detector or by one before it
  obtain ⟨member, sameKind⟩ := TemplateSet.insert_eq_error taken
  obtain ⟨first, firstListed, firstStored⟩ := (collects.mem_iff existing).mp member
  obtain ⟨start, between, split⟩ := List.append_of_mem firstListed
  rw [keyed first existing firstStored]
  have all : registry.listings =
      start ++ first :: between ++ id :: (later ++ after.flatMap Detector.templates) := by
    rw [← split, listings, divided, List.flatMap_append, List.flatMap_cons, listed]
    simp only [List.append_assoc, List.cons_append]
  refine .duplicateTemplate all ?_ ?_
  · exact (catalog.kind?_eq_some_iff first _).mpr ⟨existing, firstStored, sameKind⟩
  · exact (catalog.kind?_eq_some_iff id _).mpr ⟨template, stored, rfl⟩

theorem violates_of_adopt {registry : Registry} {before after : List Detector}
    (divided : registry.detectors = before ++ detector :: after)
    (collects : set.Collects catalog (before.flatMap Detector.templates)) {error : ContractError}
    (refused : adopt catalog set detector = .error error) : registry.Violates catalog error := by
  have member : detector ∈ registry.detectors := by simp [divided]
  unfold adopt at refused
  split at refused
  · rename_i failure failed
    cases refused
    obtain ⟨earlier, id, later, reached, listed, taken, last⟩ := foldlM_failed failed
    have idListed : id ∈ detector.templates := by simp [listed]
    have collected := (collects_adoptTemplates collects taken).1
    rcases adoptTemplate_eq_error last with ⟨missing, rfl⟩ | ⟨template, stored, reason⟩
    · exact .unknownTemplate member idListed missing
    · rcases reason with ⟨undeclared, rfl⟩ | ⟨existing, repeated, rfl⟩
      · have offered := (catalog.kind?_eq_some_iff id _).mpr ⟨template, stored, rfl⟩
        exact .undeclaredTemplateKind member idListed offered undeclared
      · exact violates_of_taken keyed divided listed collected stored repeated
  · rename_i extended taken
    have collected := (collects_adoptTemplates collects taken).1
    split at refused
    · rename_i kind missing
      cases refused
      have notOwn := List.find?_some missing
      rw [decide_eq_true_eq] at notOwn
      refine .uncoveredExtension member (List.mem_of_find?_eq_some missing) ?_
      intro id listed offered
      have own := (coversOwn_iff keyed collected kind).mpr ⟨id, listed, offered⟩
      rw [notOwn] at own
      cases own
    · cases refused

omit detector set names

theorem collects_adoptAll {detectors : List Detector} {templates : TemplateSet}
    (adopted : detectors.foldlM (adopt catalog) TemplateSet.empty = .ok templates) :
    templates.Collects catalog (detectors.flatMap Detector.templates) ∧
      ∀ detector ∈ detectors, detector.Fits catalog := by
  refine foldlM_taken
    (motive := fun taken state => state.Collects catalog (taken.flatMap Detector.templates) ∧
      ∀ detector ∈ taken, detector.Fits catalog) ?_ ?_ adopted
  · exact ⟨.empty catalog, fun detector member => absurd member List.not_mem_nil⟩
  · rintro taken state detector next ⟨collected, fit⟩ step
    obtain ⟨extended, fits⟩ := collects_adopt keyed collected step
    rw [List.flatMap_append, List.flatMap_singleton]
    refine ⟨extended, ?_⟩
    intro other member
    rcases List.mem_append.mp member with earlier | last
    · exact fit other earlier
    · rw [List.mem_singleton.mp last]
      exact fits

theorem sound_of_validate {registry : Registry} {templates : TemplateSet}
    (valid : registry.validate catalog = .ok templates) :
    registry.Sound catalog ∧ templates.Collects catalog registry.listings := by
  obtain ⟨collects, fits⟩ := collects_adoptAll keyed valid
  refine ⟨⟨fits, ?_⟩, collects⟩
  have distinct := collects.distinct
  rw [collects.templates, List.map_filterMap] at distinct
  exact distinct

theorem violates_of_validate {registry : Registry} {error : ContractError}
    (refused : registry.validate catalog = .error error) : registry.Violates catalog error := by
  obtain ⟨before, detector, after, reached, divided, taken, last⟩ := foldlM_failed refused
  exact violates_of_adopt keyed divided (collects_adoptAll keyed taken).1 last

/-- Validation accepts exactly the sound sets of detectors.  It then gives each kind the template that
is listed for it, and the kinds that have one are those that some detector declares.  What it says of a
set that it refuses is so.  Every catalog that is filled by registering templates is keyed. -/
theorem validate_ok_iff_sound (registry : Registry) :
    ((∃ templates, registry.validate catalog = .ok templates) ↔ registry.Sound catalog) ∧
      (∀ templates, registry.validate catalog = .ok templates →
        (∀ kind template, templates.get? kind = some template ↔
          ∃ id ∈ registry.listings, catalog.get? id = some template ∧ template.kind = kind) ∧
        ∀ kind, kind ∈ templates.kinds ↔
          ∃ detector ∈ registry.detectors, kind ∈ detector.extensions) ∧
      ∀ error, registry.validate catalog = .error error → registry.Violates catalog error := by
  refine ⟨⟨?_, ?_⟩, ?_, fun error => violates_of_validate keyed⟩
  · rintro ⟨templates, valid⟩
    exact (sound_of_validate keyed valid).1
  · intro sound
    cases verdict : registry.validate catalog with
    | ok templates => exact ⟨templates, rfl⟩
    | error error => exact absurd sound (violates_of_validate keyed verdict).not_sound
  · intro templates valid
    obtain ⟨sound, collects⟩ := sound_of_validate keyed valid
    refine ⟨collects.get?_eq_some_iff, ?_⟩
    intro kind
    rw [TemplateSet.kinds, List.mem_filter, collects.covers_iff]
    constructor
    · rintro ⟨_, id, listed, offered⟩
      obtain ⟨detector, member, own⟩ := List.mem_flatMap.mp listed
      obtain ⟨other, declared, same⟩ := (sound.fits detector member).known id own
      rw [offered, Option.some_inj] at same
      rw [same]
      exact ⟨detector, member, declared⟩
    · rintro ⟨detector, member, declared⟩
      obtain ⟨id, own, offered⟩ := (sound.fits detector member).covered kind declared
      exact ⟨kind.mem_all, id, List.mem_flatMap.mpr ⟨detector, member, own⟩, offered⟩

end

/-- The built-in detectors, and one more for actions. -/
def rivalRegistry : Registry :=
  builtin.register { Detection.actions with name := "another-struts" }

/-- The built-in detectors are sound, and with a rival one template is listed twice. -/
theorem validate_ok_iff_sound_with_rival :
    Synthesis.builtinCatalog.Keyed ∧ builtin.Sound Synthesis.builtinCatalog ∧
      (∃ templates, builtin.validate Synthesis.builtinCatalog = .ok templates ∧
        ∀ kind ∈ Detection.servlets.extensions, kind ∈ templates.kinds) ∧
      ¬ rivalRegistry.Sound Synthesis.builtinCatalog ∧
      rivalRegistry.Violates Synthesis.builtinCatalog
        (.duplicateTemplate .actionServlet Synthesis.actionTemplateId
          Synthesis.actionTemplateId) := by
  have keyed : Synthesis.builtinCatalog.Keyed := Catalog.keyed_ofList _
  obtain ⟨accepts, gives, _⟩ := validate_ok_iff_sound keyed builtin
  obtain ⟨acceptsRival, _, refuses⟩ := validate_ok_iff_sound keyed rivalRegistry
  have valid : builtin.validate Synthesis.builtinCatalog =
      .ok ⟨Synthesis.builtinTemplates⟩ := rfl
  have invalid : rivalRegistry.validate Synthesis.builtinCatalog =
      .error (.duplicateTemplate .actionServlet Synthesis.actionTemplateId
        Synthesis.actionTemplateId) := rfl
  refine ⟨keyed, accepts.mp ⟨_, valid⟩, ⟨_, valid, ?_⟩, ?_, refuses _ invalid⟩
  · intro kind declared
    exact ((gives _ valid).2 kind).mpr ⟨Detection.servlets, List.mem_cons_self, declared⟩
  · intro sound
    obtain ⟨templates, accepted⟩ := acceptsRival.mpr sound
    rw [invalid] at accepted
    cases accepted

end Registry

end ContainerReplay
