import ContainerReplay.Proofs.Covering
import ContainerReplay.Proofs.DeploymentContent
import Mathlib.Data.List.Basic
import Mathlib.Data.List.Induction

/-!
# What a list of descriptions amounts to

Descriptions that are registered one after another leave one component for each class, which is
described here without any state: sets are united, of two values of a parameter or a start-up order
the first stays, of two mappings for one path the last stays at the place of the first, and the kind
moves along specialization.  A description of an unrelated kind leaves one warning.
-/

set_option autoImplicit false

namespace ContainerReplay

/-! ## Mappings as a table -/

namespace ActionMapping

/-- The last mapping of every path, in the order in which the paths first occur. -/
def lastOfEach (mappings : List ActionMapping) : List ActionMapping :=
  (mappings.map path).eraseDups.filterMap (at? mappings.reverse)

theorem path_of_at? {mappings : List ActionMapping} {path : String} {mapping : ActionMapping}
    (found : at? mappings path = some mapping) : mapping.path = path := by
  have answers := List.find?_some found
  exact beq_iff_eq.mp answers

theorem at?_of_mem_paths {mappings : List ActionMapping} {asked : String}
    (member : asked ∈ mappings.map path) :
    ∃ mapping, at? mappings asked = some mapping := by
  obtain ⟨mapping, listed, same⟩ := List.mem_map.mp member
  have found : (at? mappings asked).isSome = true :=
    List.find?_isSome.mpr ⟨mapping, listed, beq_iff_eq.mpr same⟩
  exact Option.isSome_iff_exists.mp found

theorem paths_filterMap_at? {mappings : List ActionMapping} {paths : List String}
    (listed : ∀ asked ∈ paths, asked ∈ mappings.map path) :
    (paths.filterMap (at? mappings)).map path = paths := by
  induction paths with
  | nil => rfl
  | cons first rest ih =>
      obtain ⟨mapping, found⟩ := at?_of_mem_paths (listed first List.mem_cons_self)
      have later := ih fun asked member => listed asked (List.mem_cons_of_mem _ member)
      rw [List.filterMap_cons, found]
      simp only [List.map_cons, later, path_of_at? found]

theorem at?_filterMap_at? {mappings : List ActionMapping} {paths : List String} {asked : String}
    (listed : asked ∈ paths) :
    at? (paths.filterMap (at? mappings)) asked = at? mappings asked := by
  induction paths with
  | nil => cases listed
  | cons first rest ih =>
      rw [List.filterMap_cons]
      by_cases same : first = asked
      · subst same
        cases found : at? mappings first with
        | none =>
            simp only
            -- no mapping of the list answers the path, so that none is left for it
            refine List.find?_eq_none.mpr fun mapping member equal => ?_
            obtain ⟨other, _, taken⟩ := List.mem_filterMap.mp member
            rw [← path_of_at? taken, beq_iff_eq.mp equal, found] at taken
            cases taken
        | some mapping => simp [at?, path_of_at? found]
      · have later := ih ((List.mem_cons.mp listed).resolve_left (Ne.symm same))
        cases found : at? mappings first with
        | none => exact later
        | some mapping =>
            have other : mapping.path ≠ asked := by
              rw [path_of_at? found]
              exact same
            simp only [at?, List.find?_cons, beq_eq_false_iff_ne.mpr other]
            exact later

theorem paths_lastOfEach (mappings : List ActionMapping) :
    (lastOfEach mappings).map path = (mappings.map path).eraseDups := by
  apply paths_filterMap_at?
  intro asked member
  rw [List.map_reverse, List.mem_reverse]
  exact List.mem_eraseDups.mp member

theorem eraseDups_concat (paths : List String) (last : String) :
    (paths ++ [last]).eraseDups =
      if last ∈ paths then paths.eraseDups else paths.eraseDups ++ [last] := by
  rw [List.eraseDups_append]
  by_cases known : last ∈ paths
  · simp [List.removeAll, known]
  · simp [List.removeAll, List.eraseDups_cons, known]

theorem paths_putAll (mappings : List ActionMapping) :
    (putAll mappings []).map path = (mappings.map path).eraseDups := by
  induction mappings using List.reverseRecOn with
  | nil => rfl
  | append_singleton mappings last ih =>
      have put : putAll (mappings ++ [last]) [] = last.putInto (putAll mappings []) :=
        putAll_append mappings [last] []
      rw [put, putInto_paths, ih, List.map_append, List.map_singleton, eraseDups_concat]
      simp only [List.mem_eraseDups]

theorem at?_eq_none_of_not_mem {mappings : List ActionMapping} {asked : String}
    (absent : asked ∉ mappings.map path) : at? mappings asked = none := by
  rw [at?_eq_none_iff]
  intro mapping member same
  exact absent (List.mem_map.mpr ⟨mapping, member, same⟩)

theorem at?_lastOfEach (mappings : List ActionMapping) (asked : String) :
    at? (lastOfEach mappings) asked = at? mappings.reverse asked := by
  by_cases known : asked ∈ (mappings.map path).eraseDups
  · exact at?_filterMap_at? known
  · have fresh : asked ∉ mappings.reverse.map path := by
      rw [List.map_reverse, List.mem_reverse]
      exact fun member => known (List.mem_eraseDups.mpr member)
    rw [at?_eq_none_of_not_mem fresh, at?_eq_none_of_not_mem]
    rw [paths_lastOfEach]
    exact known

theorem putAll_eq_lastOfEach (mappings : List ActionMapping) :
    putAll mappings [] = lastOfEach mappings := by
  apply eq_of_paths_of_at? ((paths_putAll mappings).trans (paths_lastOfEach mappings).symm)
    (putAll_paths_nodup mappings List.nodup_nil)
  intro asked
  rw [at?_putAll, at?_lastOfEach]
  exact Option.or_none

theorem mem_of_mem_putAll {mappings : List ActionMapping} {mapping : ActionMapping}
    (member : mapping ∈ putAll mappings []) : mapping ∈ mappings := by
  rw [putAll_eq_lastOfEach] at member
  obtain ⟨asked, -, taken⟩ := List.mem_filterMap.mp member
  exact List.mem_reverse.mp (List.mem_of_find?_eq_some taken)

theorem putInto_of_fresh {mapping : ActionMapping} {mappings : List ActionMapping}
    (fresh : mapping.path ∉ mappings.map path) :
    mapping.putInto mappings = mappings ++ [mapping] := by
  induction mappings with
  | nil => rfl
  | cons existing rest ih =>
      rw [List.map_cons, List.mem_cons, not_or] at fresh
      obtain ⟨other, later⟩ := fresh
      rw [putInto, if_neg (Ne.symm other), ih later]
      rfl

/-- A list in which no path occurs twice is its own table. -/
theorem putAll_of_distinct {mappings : List ActionMapping}
    (distinct : (mappings.map path).Nodup) : putAll mappings [] = mappings := by
  induction mappings using List.reverseRecOn with
  | nil => rfl
  | append_singleton mappings last ih =>
      rw [List.map_append, List.nodup_append] at distinct
      obtain ⟨earlier, _, apart⟩ := distinct
      have fresh : last.path ∉ mappings.map path := fun member =>
        apart last.path member last.path (List.mem_singleton_self _) rfl
      rw [putAll_append, ih earlier]
      exact putInto_of_fresh fresh

end ActionMapping

/-! ## Kinds -/

/-- The kind that declarations in order leave: the first one, replaced by a later one exactly when
that one refines it. -/
def Kind.settled? : List Kind → Option Kind
  | [] => none
  | first :: rest =>
      some (rest.foldl (fun current kind => if kind.refines current then kind else current) first)

theorem Kind.settled?_concat {kinds : List Kind} {current : Kind}
    (settled : settled? kinds = some current) (kind : Kind) :
    settled? (kinds ++ [kind]) = some (if kind.refines current then kind else current) := by
  cases kinds with
  | nil => cases settled
  | cons first rest =>
      have reached := Option.some.inj settled
      rw [List.cons_append, settled?, List.foldl_append, reached]
      rfl

example : Kind.settled? [.servlet, .filter, .actionServlet, .servlet] = some .actionServlet := by
  decide

/-- When an outcome is the right word for a declaration of a kind that meets what is current. -/
def MergeOutcome.Fits (current : Option Kind) (declared : Kind) : MergeOutcome → Prop
  | inserted => current = none
  | enriched =>
      ∃ kept, current = some kept ∧ (declared = kept ∨ kept.refines declared = true)
  | upgraded source target =>
      current = some source ∧ target = declared ∧ declared.refines source = true
  | conflict kept rejected =>
      current = some kept ∧ rejected = declared ∧ declared ≠ kept ∧
        kept.refines declared = false ∧ declared.refines kept = false

theorem MergeOutcome.fits_ofKinds (kept declared : Kind) :
    (ofKinds kept declared).Fits (some kept) declared := by
  unfold ofKinds
  split
  · rename_i close
    exact ⟨kept, rfl, close⟩
  · rename_i apart
    obtain ⟨other, below⟩ := not_or.mp apart
    split
    · rename_i above
      exact ⟨rfl, rfl, above⟩
    · rename_i unrelated
      exact ⟨rfl, rfl, other, eq_false_of_ne_true below, eq_false_of_ne_true unrelated⟩

theorem MergeOutcome.Fits.unique {current : Option Kind} {declared : Kind}
    {first second : MergeOutcome} (fits : first.Fits current declared)
    (alsoFits : second.Fits current declared) : first = second := by
  cases current with
  | none => cases first <;> cases second <;> simp_all [Fits]
  | some kept =>
      have strict : declared.refines kept = true →
          declared ≠ kept ∧ kept.refines declared = false := by
        intro above
        obtain ⟨rfl, rfl⟩ := (Kind.refines_iff _ _).mp above
        decide
      cases first <;> cases second <;> simp_all [Fits]

/-! ## Components -/

/-- The entries of one class, in order. -/
def entriesOf (components : List Component) (className : String) : List Component :=
  components.filter fun component => component.className == className

/-- What a component says when it is made of exactly these descriptions of its class. -/
structure Component.Joins (merged : Component) (entries : List Component) : Prop where
  kind : Kind.settled? (entries.map Component.kind) = some merged.kind
  names : ∀ name, name ∈ merged.names ↔ ∃ entry ∈ entries, name ∈ entry.names
  urlPatterns : ∀ pattern,
    pattern ∈ merged.urlPatterns ↔ ∃ entry ∈ entries, pattern ∈ entry.urlPatterns
  servletNames : ∀ name, name ∈ merged.servletNames ↔ ∃ entry ∈ entries, name ∈ entry.servletNames
  /-- The first entry that has a parameter gives its value. -/
  parameters : ∀ name : String,
    merged.parameters[name]? = entries.findSome? fun entry => entry.parameters[name]?
  loadOnStartup : merged.loadOnStartup = entries.findSome? Component.loadOnStartup
  actionMappings :
    merged.actionMappings = ActionMapping.lastOfEach (entries.flatMap Component.actionMappings)

namespace Component

theorem Joins.single {component : Component} (distinct : component.mappingPaths.Nodup) :
    component.Joins [component] where
  kind := rfl
  names := by simp
  urlPatterns := by simp
  servletNames := by simp
  parameters := by simp
  loadOnStartup := by simp
  actionMappings := by
    rw [List.flatMap_singleton, ← ActionMapping.putAll_eq_lastOfEach]
    exact (ActionMapping.putAll_of_distinct distinct).symm

theorem Joins.merge {merged : Component} {entries : List Component} (joins : merged.Joins entries)
    (other : Component) : (merged.merge other).Joins (entries ++ [other]) := by
  rw [merge_eq]
  constructor
  case kind =>
    rw [List.map_append, List.map_singleton, Kind.settled?_concat joins.kind, kindAfter_outcome]
  case names => simp [Std.ExtTreeSet.mem_union_iff, joins.names, or_and_right, exists_or]
  case urlPatterns =>
    simp [Std.ExtTreeSet.mem_union_iff, joins.urlPatterns, or_and_right, exists_or]
  case servletNames =>
    simp [Std.ExtTreeSet.mem_union_iff, joins.servletNames, or_and_right, exists_or]
  case parameters =>
    intro name
    rw [Std.ExtTreeMap.getElem?_union, joins.parameters, List.findSome?_append]
    simp
  case loadOnStartup =>
    rw [joins.loadOnStartup, List.findSome?_append]
    simp
  case actionMappings =>
    rw [joins.actionMappings, List.flatMap_append, List.flatMap_singleton,
      ← ActionMapping.putAll_eq_lastOfEach, ← ActionMapping.putAll_append,
      ActionMapping.putAll_eq_lastOfEach]

end Component

/-! ## Surveys -/

/-- The warning that an entry leaves after the entries before it. -/
def conflictWarning? (before : List Component) (component : Component) : Option Diagnostic :=
  match Kind.settled? ((entriesOf before component.className).map Component.kind) with
  | none => none
  | some current =>
      if component.kind = current ∨ current.refines component.kind ∨
          component.kind.refines current then
        none
      else
        some {
          severity := .warn
          message := Survey.conflictMessage component.className current component.kind
          resource := some component.className }

def conflictWarnings (components : List Component) : List Diagnostic :=
  components.zipIdx.filterMap fun (component, place) =>
    conflictWarning? (components.take place) component

theorem conflictWarnings_concat (components : List Component) (last : Component) :
    conflictWarnings (components ++ [last]) =
      conflictWarnings components ++ (conflictWarning? components last).toList := by
  have earlier : (components.zipIdx.filterMap fun (component, place) =>
      conflictWarning? ((components ++ [last]).take place) component) =
        conflictWarnings components := by
    refine List.filterMap_congr fun (component, place) member => ?_
    have bound := (List.mem_zipIdx member).2.1
    rw [Nat.zero_add] at bound
    simp only [List.take_append_of_le_length (Nat.le_of_lt bound)]
  unfold conflictWarnings at earlier ⊢
  rw [List.zipIdx_append, List.filterMap_append, earlier]
  cases warned : conflictWarning? components last with
  | none => simp [warned]
  | some warning => simp [warned]

theorem entriesOf_concat (components : List Component) (last : Component) (className : String) :
    entriesOf (components ++ [last]) className =
      entriesOf components className ++ if last.className = className then [last] else [] := by
  rw [entriesOf, List.filter_append, List.filter_cons, List.filter_nil]
  simp only [beq_iff_eq]
  rfl

namespace Survey

/-- The survey holds what the descriptions of every class amount to, and nothing else. -/
structure Accounts (survey : Survey) (components : List Component) : Prop where
  absent : ∀ className, survey.app.component? className = none →
    entriesOf components className = []
  stored : ∀ className merged, survey.app.component? className = some merged →
    merged.className = className ∧ merged.Joins (entriesOf components className)
  diagnostics : survey.diagnostics = conflictWarnings components

theorem accounts_nothing : ({} : Survey).Accounts [] where
  absent := fun _ _ => rfl
  stored := by
    intro className merged found
    simp at found
  diagnostics := rfl

section

variable {survey : Survey} {components : List Component}

/-- The kind on record is the one that the entries settle on. -/
theorem Accounts.current (accounts : survey.Accounts components) (className : String) :
    (survey.app.component? className).map Component.kind =
      Kind.settled? ((entriesOf components className).map Component.kind) := by
  cases found : survey.app.component? className with
  | none =>
      rw [accounts.absent className found]
      rfl
  | some merged => exact (accounts.stored className merged found).2.kind.symm

theorem Accounts.mem_classNames (accounts : survey.Accounts components) (className : String) :
    className ∈ survey.app.componentList.map Component.className ↔
      className ∈ components.map Component.className := by
  constructor
  · intro member
    obtain ⟨merged, listed, rfl⟩ := List.mem_map.mp member
    obtain ⟨key, found⟩ := (Application.mem_componentList_iff _ _).mp listed
    obtain ⟨named, joins⟩ := accounts.stored key merged found
    cases entries : entriesOf components key with
    | nil =>
        have kind := joins.kind
        rw [entries] at kind
        cases kind
    | cons first rest =>
        have entry : first ∈ entriesOf components key := by
          rw [entries]
          exact List.mem_cons_self
        obtain ⟨listedEntry, ofClass⟩ := List.mem_filter.mp entry
        rw [named, ← beq_iff_eq.mp ofClass]
        exact List.mem_map_of_mem listedEntry
  · intro member
    obtain ⟨entry, listed, rfl⟩ := List.mem_map.mp member
    cases found : survey.app.component? entry.className with
    | none =>
        have empty := accounts.absent _ found
        have own : entry ∈ entriesOf components entry.className :=
          List.mem_filter.mpr ⟨listed, beq_self_eq_true _⟩
        rw [empty] at own
        cases own
    | some merged =>
        obtain ⟨named, _⟩ := accounts.stored _ merged found
        rw [← named]
        exact List.mem_map_of_mem ((Application.mem_componentList_iff _ _).mpr ⟨_, found⟩)

theorem Accounts.outcome_fits (accounts : survey.Accounts components) (component : Component) :
    (survey.app.outcome component).Fits
      (Kind.settled? ((entriesOf components component.className).map Component.kind))
      component.kind := by
  rw [← accounts.current]
  unfold Application.outcome
  cases found : survey.app.component? component.className with
  | none => exact rfl
  | some merged => exact MergeOutcome.fits_ofKinds merged.kind component.kind

theorem Accounts.outcome_iff (accounts : survey.Accounts components) (component : Component)
    (outcome : MergeOutcome) :
    survey.app.outcome component = outcome ↔
      outcome.Fits
        (Kind.settled? ((entriesOf components component.className).map Component.kind))
        component.kind := by
  have fits := accounts.outcome_fits component
  constructor
  · intro same
    rwa [← same]
  · exact fits.unique

theorem Accounts.register_diagnostics (accounts : survey.Accounts components)
    (component : Component) :
    (survey.register component).diagnostics =
      survey.diagnostics ++ (conflictWarning? components component).toList := by
  -- the outcome fits the current kind, and only a conflict is warned about
  have fits := accounts.outcome_fits component
  unfold register conflictWarning?
  cases outcome : survey.app.outcome component with
  | inserted =>
      rw [outcome] at fits
      have none : Kind.settled? _ = none := fits
      simp [none, update]
  | enriched =>
      rw [outcome] at fits
      obtain ⟨kept, current, close⟩ := fits
      have allowed : component.kind = kept ∨ kept.refines component.kind = true ∨
          component.kind.refines kept = true := by
        rw [← or_assoc]
        exact Or.inl close
      simp [current, allowed, update]
  | upgraded source target =>
      rw [outcome] at fits
      obtain ⟨current, _, above⟩ := fits
      simp [current, above, update]
  | conflict kept rejected =>
      rw [outcome] at fits
      obtain ⟨current, rfl, other, below, above⟩ := fits
      simp [current, other, below, above, update, record]

theorem Accounts.register (accounts : survey.Accounts components) {component : Component}
    (distinct : component.mappingPaths.Nodup) :
    (survey.register component).Accounts (components ++ [component]) where
  absent := by
    intro className absent
    rw [register_app, Application.component?_register] at absent
    by_cases same : component.className = className
    · rw [if_pos same] at absent
      cases absent
    · rw [if_neg same] at absent
      rw [entriesOf_concat, if_neg same, List.append_nil]
      exact accounts.absent className absent
  stored := by
    intro className merged found
    rw [register_app, Application.component?_register] at found
    rw [entriesOf_concat]
    by_cases same : component.className = className
    · subst same
      rw [if_pos rfl] at found ⊢
      cases previous : survey.app.component? component.className with
      | none =>
          rw [previous] at found
          cases found
          rw [accounts.absent _ previous, List.nil_append]
          exact ⟨rfl, Component.Joins.single distinct⟩
      | some existing =>
          rw [previous] at found
          cases found
          obtain ⟨named, joins⟩ := accounts.stored _ existing previous
          refine ⟨?_, joins.merge component⟩
          rw [← named, Component.meeting, Component.merge_eq]
    · rw [if_neg same] at found ⊢
      rw [List.append_nil]
      exact accounts.stored className merged found
  diagnostics := by
    rw [accounts.register_diagnostics, accounts.diagnostics, conflictWarnings_concat]

end

theorem accounts_registrations {components : List Component}
    (distinct : ∀ component ∈ components, component.mappingPaths.Nodup) :
    (components.foldl register {}).Accounts components := by
  -- on the list from its end: what holds of the entries so far holds after one more of them
  induction components using List.reverseRecOn with
  | nil => exact accounts_nothing
  | append_singleton components last ih =>
      rw [List.foldl_append]
      have earlier := ih fun component member => distinct component (List.mem_append_left _ member)
      exact earlier.register (distinct last (List.mem_append_right _ (List.mem_singleton_self _)))

/-- Registering descriptions one after another amounts to joining the entries of every class.  The
paths of one description are distinct, as they are for every component that is built by adding to a
bare one. -/
theorem registrations_join (components : List Component)
    (distinct : ∀ component ∈ components, component.mappingPaths.Nodup) :
    let survey := components.foldl register {}
    (survey.app.componentList.map Component.className).Nodup ∧
      (∀ className, className ∈ survey.app.componentList.map Component.className ↔
        className ∈ components.map Component.className) ∧
      (∀ merged ∈ survey.app.componentList,
        merged.Joins (entriesOf components merged.className)) ∧
      survey.diagnostics = conflictWarnings components ∧
      ∀ before component after, components = before ++ component :: after →
        ∀ outcome, (before.foldl register {}).app.outcome component = outcome ↔
          outcome.Fits
            (Kind.settled? ((entriesOf before component.className).map Component.kind))
            component.kind := by
  intro survey
  have accounts : survey.Accounts components := accounts_registrations distinct
  have keyed : survey.app.Keyed := fun className merged found =>
    (accounts.stored className merged found).1
  refine ⟨keyed.classNames_nodup, ?_, ?_, accounts.diagnostics, ?_⟩
  · intro className
    exact accounts.mem_classNames className
  · intro merged member
    have found := (keyed.mem_componentList merged).mp member
    exact (accounts.stored merged.className merged found).2
  · intro before component after split outcome
    have earlier : (before.foldl register {}).Accounts before :=
      accounts_registrations fun entry member =>
        distinct entry (split ▸ List.mem_append_left _ member)
    exact earlier.outcome_iff component outcome

/-- A front controller that is declared as a servlet, as a filter and at last as what it is, with a
listener in between. -/
def controllerEntries : List Component :=
  [{ className := "Front", kind := .servlet, loadOnStartup := some 2 },
    { className := "Front", kind := .filter, urlPatterns := {"*.do"} },
    { className := "Started", kind := .listener },
    { className := "Front", kind := .actionServlet
      actionMappings := [{ path := "/login", handlerClass := "Login" }] }]

theorem registrations_join_controller :
    (∀ component ∈ controllerEntries, component.mappingPaths.Nodup) ∧
      (∀ merged ∈ (controllerEntries.foldl register {}).app.componentList,
        merged.Joins (entriesOf controllerEntries merged.className)) ∧
      (controllerEntries.foldl register {}).diagnostics =
        [{ severity := .warn
           message := "Front is already registered as Servlet, ignoring its Filter declaration"
           resource := some "Front" }] := by
  have distinct : ∀ component ∈ controllerEntries, component.mappingPaths.Nodup := by decide
  obtain ⟨_, _, joins, diagnostics, _⟩ := registrations_join controllerEntries distinct
  refine ⟨distinct, joins, ?_⟩
  rw [diagnostics]
  decide

end Survey

end ContainerReplay
