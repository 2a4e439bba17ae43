import ContainerReplay.EntryPoint
import ContainerReplay.Proofs.ActionUpgrades
import ContainerReplay.Proofs.SoundRegistries
import Mathlib.Data.List.Flatten
import Mathlib.Data.List.Pairwise

/-!
# Selected detectors

Of a sound set of detectors any part is sound.  A selection by names is such a part, and its templates
are those of the whole for the kinds that are left.  The settings of a run check their names on their
own, by the same rule as the selection, so that valid settings always have their creator.
-/

set_option autoImplicit false

namespace ContainerReplay

/-! ## Part of a template set -/

namespace TemplateSet

/-- The templates for some kinds. -/
def restrict (set : TemplateSet) (kinds : List Kind) : TemplateSet :=
  ⟨set.templates.filter fun template => kinds.contains template.kind⟩

end TemplateSet

namespace Registry

/-- The kinds that the detectors introduce. -/
def kinds (registry : Registry) : List Kind :=
  registry.detectors.flatMap Detector.extensions

/-- The detectors of a registry that are kept. -/
def keeping (keep : Detector → Bool) (registry : Registry) : Registry :=
  ⟨registry.detectors.filter keep⟩

/-! ## Any part of a sound registry -/

section

variable {catalog : Catalog} {registry : Registry}

theorem Sound.kept (sound : registry.Sound catalog) (keep : Detector → Bool) :
    (registry.keeping keep).Sound catalog := by
  have part : (registry.keeping keep).detectors.Sublist registry.detectors := List.filter_sublist
  constructor
  · intro detector member
    exact sound.fits detector (part.subset member)
  · exact sound.distinct.sublist ((part.flatMap Detector.templates).filterMap catalog.kind?)

/-- Two detectors of a sound registry list nothing of one kind. -/
theorem Sound.apart (sound : registry.Sound catalog) {first second : Detector}
    (firstMember : first ∈ registry.detectors) (secondMember : second ∈ registry.detectors)
    (different : first ≠ second) {kind : Kind} {own other : String}
    (ownListed : own ∈ first.templates) (ownKind : catalog.kind? own = some kind)
    (otherListed : other ∈ second.templates) : catalog.kind? other ≠ some kind := by
  intro otherKind
  have distinct := sound.distinct
  rw [listings, List.filterMap_flatMap, List.nodup_flatMap] at distinct
  have symmetric : Std.Symm (Function.onFun List.Disjoint
      fun detector : Detector => detector.templates.filterMap catalog.kind?) :=
    ⟨fun _ _ disjoint _ inSecond inFirst => disjoint inFirst inSecond⟩
  have disjoint := distinct.2.forall firstMember secondMember different
  exact disjoint (List.mem_filterMap.mpr ⟨own, ownListed, ownKind⟩)
    (List.mem_filterMap.mpr ⟨other, otherListed, otherKind⟩)

/-- A detector contributes a template for a kind of the kept detectors exactly if it is kept: every
template is for a kind of its detector, and every kind of a detector has a template of that detector. -/
theorem Sound.kind_kept_iff (sound : registry.Sound catalog) (keep : Detector → Bool)
    {detector : Detector} (member : detector ∈ registry.detectors) {id : String}
    (listed : id ∈ detector.templates) {template : Template}
    (stored : catalog.get? id = some template) :
    template.kind ∈ (registry.keeping keep).kinds ↔ keep detector = true := by
  have offered : catalog.kind? id = some template.kind :=
    (catalog.kind?_eq_some_iff id _).mpr ⟨template, stored, rfl⟩
  constructor
  · intro declared
    obtain ⟨owner, ownerKept, introduced⟩ := List.mem_flatMap.mp declared
    obtain ⟨ownerMember, kept⟩ := List.mem_filter.mp ownerKept
    obtain ⟨own, ownListed, ownKind⟩ := (sound.fits owner ownerMember).covered _ introduced
    by_contra notKept
    have different : owner ≠ detector := by
      rintro rfl
      exact notKept kept
    exact sound.apart ownerMember member different ownListed ownKind listed offered
  · intro kept
    obtain ⟨kind, introduced, same⟩ := (sound.fits detector member).known id listed
    rw [offered, Option.some_inj] at same
    rw [same]
    exact List.mem_flatMap.mpr ⟨detector, List.mem_filter.mpr ⟨member, kept⟩, introduced⟩

theorem Sound.listings_keeping (sound : registry.Sound catalog) (keep : Detector → Bool) :
    (registry.keeping keep).listings.filterMap catalog.get? =
      (registry.listings.filterMap catalog.get?).filter fun template =>
        (registry.keeping keep).kinds.contains template.kind := by
  have shares : ∀ detector ∈ registry.detectors,
      ((detector.templates.filterMap catalog.get?).filter fun template =>
        (registry.keeping keep).kinds.contains template.kind) =
      if keep detector then detector.templates.filterMap catalog.get? else [] := by
    intro detector member
    have kept_iff : ∀ template ∈ detector.templates.filterMap catalog.get?,
        template.kind ∈ (registry.keeping keep).kinds ↔ keep detector = true := by
      intro template found
      obtain ⟨id, listed, stored⟩ := List.mem_filterMap.mp found
      exact sound.kind_kept_iff keep member listed stored
    split
    · rename_i kept
      rw [List.filter_eq_self]
      intro template found
      exact List.contains_iff_mem.mpr ((kept_iff template found).mpr kept)
    · rename_i notKept
      rw [List.filter_eq_nil_iff]
      intro template found declared
      exact notKept ((kept_iff template found).mp (List.contains_iff_mem.mp declared))
  rw [listings, List.filterMap_flatMap, keeping, Detection.flatMap_filter_eq, listings,
    List.filterMap_flatMap, List.filter_flatMap]
  exact (List.flatMap_congr shares).symm

theorem validate_keeping (keyed : catalog.Keyed) {templates : TemplateSet}
    (valid : registry.validate catalog = .ok templates) (keep : Detector → Bool) :
    (registry.keeping keep).validate catalog =
      .ok (templates.restrict (registry.keeping keep).kinds) := by
  obtain ⟨sound, collects⟩ := sound_of_validate keyed valid
  cases verdict : (registry.keeping keep).validate catalog with
  | error error =>
      exact absurd (sound.kept keep) (violates_of_validate keyed verdict).not_sound
  | ok chosen =>
      have own := (sound_of_validate keyed verdict).2.templates
      rw [sound.listings_keeping keep, ← collects.templates] at own
      rw [TemplateSet.restrict, ← own]

end

/-! ## Selections by names -/

/-- The first of some names that is not registered. -/
def FirstUnknown (registry : Registry) (names : List String) (name : String) : Prop :=
  name ∉ registry.names ∧ ∃ before after, names = before ++ name :: after ∧
    ∀ earlier ∈ before, earlier ∈ registry.names

theorem isNone_get?_iff (registry : Registry) (name : String) :
    (registry.get? name).isNone = true ↔ name ∉ registry.names := by
  rw [get?, names, Option.isNone_iff_eq_none, List.find?_eq_none, List.mem_map]
  constructor
  · rintro none ⟨detector, member, same⟩
    exact none detector member (beq_iff_eq.mpr same)
  · intro absent detector member same
    exact absent ⟨detector, member, beq_iff_eq.mp same⟩

theorem unknown?_eq_some_iff (registry : Registry) (names : List String) (name : String) :
    registry.unknown? names = some name ↔ registry.FirstUnknown names name := by
  simp only [unknown?, FirstUnknown, List.find?_eq_some_iff_append, isNone_get?_iff,
    Bool.not_eq_eq_eq_not, Bool.not_true, ← Bool.not_eq_true, not_not]

theorem unknown?_eq_none_iff (registry : Registry) (names : List String) :
    registry.unknown? names = none ↔ ∀ name ∈ names, name ∈ registry.names := by
  simp only [unknown?, List.find?_eq_none, isNone_get?_iff, not_not]

theorem select_eq_error_iff (registry : Registry) (names : List String) (error : ContractError) :
    registry.select names = .error error ↔
      ∃ name, registry.FirstUnknown names name ∧ error = .unknownDetector name := by
  unfold select
  split
  · rename_i name first
    constructor
    · intro refused
      cases refused
      exact ⟨name, (registry.unknown?_eq_some_iff names name).mp first, rfl⟩
    · rintro ⟨other, unknown, rfl⟩
      rw [← unknown?_eq_some_iff, first, Option.some_inj] at unknown
      rw [unknown]
  · rename_i known
    constructor
    · intro refused
      cases refused
    · rintro ⟨name, unknown, _⟩
      rw [← unknown?_eq_some_iff, known] at unknown
      cases unknown

theorem select_eq_ok_iff (registry : Registry) (names : List String) (selected : Registry) :
    registry.select names = .ok selected ↔
      (∀ name ∈ names, name ∈ registry.names) ∧
        selected = registry.keeping fun detector => names.contains detector.name := by
  rw [← unknown?_eq_none_iff]
  unfold select
  split
  · rename_i name first
    simp [first]
  · rename_i known
    simp only [known, true_and, Except.ok.injEq]
    exact eq_comm

theorem select_fails_iff (registry : Registry) (names : List String) :
    (∃ error, registry.select names = .error error) ↔ ∃ name ∈ names, name ∉ registry.names := by
  constructor
  · rintro ⟨error, refused⟩
    obtain ⟨name, ⟨absent, before, after, rfl, _⟩, _⟩ :=
      (registry.select_eq_error_iff names error).mp refused
    exact ⟨name, by simp, absent⟩
  · rintro ⟨name, listed, absent⟩
    cases verdict : registry.select names with
    | error error => exact ⟨error, rfl⟩
    | ok selected =>
        have known := ((registry.select_eq_ok_iff names selected).mp verdict).1
        exact absurd (known name listed) absent

section

variable {registry selected : Registry} {names : List String}

/-- A selection holds just the detectors with the names. -/
theorem mem_selected_names (picked : registry.select names = .ok selected) (name : String) :
    name ∈ selected.names ↔ name ∈ names := by
  obtain ⟨known, rfl⟩ := (registry.select_eq_ok_iff names selected).mp picked
  rw [Registry.names, List.mem_map]
  constructor
  · rintro ⟨detector, member, rfl⟩
    exact List.contains_iff_mem.mp (List.mem_filter.mp member).2
  · intro listed
    obtain ⟨detector, member, rfl⟩ := List.mem_map.mp (known name listed)
    exact ⟨detector, List.mem_filter.mpr ⟨member, List.contains_iff_mem.mpr listed⟩, rfl⟩

/-- The order of the names and their repetitions do not matter. -/
theorem select_congr (picked : registry.select names = .ok selected) {others : List String}
    (same : ∀ name, name ∈ others ↔ name ∈ names) : registry.select others = .ok selected := by
  obtain ⟨known, rfl⟩ := (registry.select_eq_ok_iff names selected).mp picked
  have alike : ∀ name, names.contains name = others.contains name := by
    intro name
    rw [Bool.eq_iff_iff, List.contains_iff_mem, List.contains_iff_mem, same]
  refine (registry.select_eq_ok_iff others _).mpr
    ⟨fun name listed => known name ((same name).mp listed), ?_⟩
  simp only [alike]

end

end Registry

/-! ## Settings -/

namespace Settings

theorem validate_eq_ok {settings : Settings} (valid : settings.validate = .ok ()) :
    ∀ name ∈ settings.detectors, name ∈ Registry.builtin.names := by
  rw [← Registry.unknown?_eq_none_iff]
  unfold validate at valid
  split at valid
  · cases valid
  · split at valid
    · cases valid
    · split at valid
      · cases valid
      · assumption

end Settings

namespace Creator

theorem ofSettings_of_invalid {settings : Settings} {cause : SettingsError}
    (invalid : settings.validate = .error cause) :
    ofSettings settings = .error (.settings cause) := by
  rw [ofSettings, invalid]

/-- The detectors that valid settings name are built in, and any part of the built-in ones has its
templates. -/
theorem ofSettings_of_valid {settings : Settings} (valid : settings.validate = .ok ()) :
    ∃ creator, ofSettings settings = .ok creator := by
  have keyed : Synthesis.builtinCatalog.Keyed := Catalog.keyed_ofList _
  have whole : Registry.builtin.validate Synthesis.builtinCatalog =
      .ok ⟨Synthesis.builtinTemplates⟩ := rfl
  have chosen : ∃ registry templates, settings.registry = .ok registry ∧
      registry.validate Synthesis.builtinCatalog = .ok templates := by
    unfold Settings.registry
    split
    · exact ⟨_, _, rfl, whole⟩
    · rename_i names listed
      have selected := (Registry.builtin.select_eq_ok_iff settings.detectors _).mpr
        ⟨Settings.validate_eq_ok valid, rfl⟩
      rw [selected]
      exact ⟨_, _, rfl, Registry.validate_keeping keyed whole _⟩
  obtain ⟨registry, templates, asked, sound⟩ := chosen
  rw [ofSettings, valid]
  simp only [asked, ofRegistry, sound]
  exact ⟨_, rfl⟩

theorem ofSettings_eq_ok_iff (settings : Settings) :
    (∃ creator, ofSettings settings = .ok creator) ↔ settings.validate = .ok () := by
  constructor
  · rintro ⟨creator, created⟩
    cases verdict : settings.validate with
    | ok _ => rfl
    | error cause =>
        rw [ofSettings_of_invalid verdict] at created
        cases created
  · exact ofSettings_of_valid

theorem ofSettings_eq_error_iff (settings : Settings) (error : SetupError) :
    ofSettings settings = .error error ↔
      ∃ cause, settings.validate = .error cause ∧ error = .settings cause := by
  constructor
  · intro refused
    cases verdict : settings.validate with
    | ok _ =>
        obtain ⟨creator, created⟩ := ofSettings_of_valid verdict
        rw [created] at refused
        cases refused
    | error cause =>
        rw [ofSettings_of_invalid verdict] at refused
        cases refused
        exact ⟨cause, rfl, rfl⟩
  · rintro ⟨cause, invalid, rfl⟩
    exact ofSettings_of_invalid invalid

end Creator

namespace Registry

/-- A selection from a sound registry fails only for a name that is not registered.  Otherwise it
holds the named detectors in the order of the registry, whatever the order and the repetitions of the
names, and it is sound with the templates of the whole for its kinds.  So valid settings, and only
those, have a creator. -/
theorem selection_keeps_soundness {catalog : Catalog} (keyed : catalog.Keyed)
    {registry : Registry} {templates : TemplateSet}
    (valid : registry.validate catalog = .ok templates) :
    (∀ names,
      ((∃ error, registry.select names = .error error) ↔ ∃ name ∈ names, name ∉ registry.names) ∧
      (∀ error, registry.select names = .error error →
        ∃ name, registry.FirstUnknown names name ∧ error = .unknownDetector name) ∧
      ∀ selected, registry.select names = .ok selected →
        selected.detectors = registry.detectors.filter (fun detector => detector.name ∈ names) ∧
        (∀ name, name ∈ selected.names ↔ name ∈ names) ∧
        (∀ others, (∀ name, name ∈ others ↔ name ∈ names) →
          registry.select others = .ok selected) ∧
        selected.validate catalog = .ok (templates.restrict selected.kinds)) ∧
    ∀ settings : Settings,
      ((∃ creator, Creator.ofSettings settings = .ok creator) ↔ settings.validate = .ok ()) ∧
      ∀ error, Creator.ofSettings settings = .error error ↔
        ∃ cause, settings.validate = .error cause ∧ error = .settings cause := by
  refine ⟨fun names => ⟨registry.select_fails_iff names, fun error =>
      (registry.select_eq_error_iff names error).mp, fun selected picked => ?_⟩,
    fun settings => ⟨Creator.ofSettings_eq_ok_iff settings,
      Creator.ofSettings_eq_error_iff settings⟩⟩
  refine ⟨?detectors, mem_selected_names picked, fun others => select_congr picked, ?sound⟩
  all_goals obtain ⟨known, rfl⟩ := (registry.select_eq_ok_iff names selected).mp picked
  case detectors => exact List.filter_congr fun detector _ => List.elem_eq_mem detector.name names
  case sound => exact validate_keeping keyed valid _

/-- The action detector alone, asked for twice, and a name that no detector has. -/
theorem selection_keeps_soundness_of_actions :
    Synthesis.builtinCatalog.Keyed ∧
      builtin.validate Synthesis.builtinCatalog = .ok ⟨Synthesis.builtinTemplates⟩ ∧
      builtin.select ["struts", "struts"] = .ok ⟨[Detection.actions]⟩ ∧
      (⟨[Detection.actions]⟩ : Registry).validate Synthesis.builtinCatalog =
        .ok ⟨[Synthesis.actionTemplate]⟩ ∧
      builtin.FirstUnknown ["struts", "spring", "jsf"] "spring" ∧
      ∃ creator, Creator.ofSettings { detectors := ["struts"] } = .ok creator := by
  have keyed : Synthesis.builtinCatalog.Keyed := Catalog.keyed_ofList _
  have valid : builtin.validate Synthesis.builtinCatalog = .ok ⟨Synthesis.builtinTemplates⟩ := rfl
  have selected : builtin.select ["struts", "struts"] = .ok ⟨[Detection.actions]⟩ := rfl
  obtain ⟨selections, settings⟩ := selection_keeps_soundness keyed valid
  refine ⟨keyed, valid, selected, ?_, ?_, (settings _).1.mpr rfl⟩
  · exact ((selections ["struts", "struts"]).2.2 _ selected).2.2.2
  · have refused : builtin.select ["struts", "spring", "jsf"] =
        .error (.unknownDetector "spring") := rfl
    obtain ⟨name, first, same⟩ := (selections ["struts", "spring", "jsf"]).2.1 _ refused
    cases same
    exact first

end Registry

end ContainerReplay
