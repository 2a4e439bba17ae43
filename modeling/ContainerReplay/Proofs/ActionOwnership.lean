import ContainerReplay.Proofs.DriverAccounting
import ContainerReplay.Proofs.RegisteredKinds
import ContainerReplay.Proofs.RunStages

/-!
# Who owns action mappings

Configurations of actions are read for every component that owns some, and a component may own some
by its class alone.  A servlet turns into an action servlet by it.  A filter or a listener takes the
mappings as well, but keeps its kind, so that no unit of the driver replays them.
-/

set_option autoImplicit false

namespace ContainerReplay

open Descriptor Detection

/-! ## Before any action configuration is read -/

/-- A component without a trace of actions. -/
structure Component.Plain (component : Component) : Prop where
  kind : component.kind ≠ .actionServlet
  noActions : component.actionMappings = []

theorem Component.noActions_merge (existing other : Component)
    (kept : existing.actionMappings = []) (new : other.actionMappings = []) :
    (existing.merge other).actionMappings = [] := by
  simp [merge_eq, kept, new]

namespace Descriptor

/-- No component of an application has an action mapping. -/
def NoActions (app : Application) : Prop :=
  app.All fun component => component.actionMappings = []

theorem noActions_foldl_route (declarations : Declarations) (mappings : List Mapping)
    {app : Application} (bare : NoActions app) :
    NoActions (mappings.foldl (route declarations) app) := by
  apply List.foldlRecOn mappings (route declarations) bare
  intro reached sofar mapping _
  unfold route
  split
  · exact sofar
  · apply Application.all_modify sofar
    intro component kept
    rw [Mapping.addTo_eq]
    exact kept

theorem noActions_install {content : Content} (regular : content.Regular) {app : Application}
    (bare : NoActions app) : NoActions (content.install app) := by
  have configured : NoActions (content.configure app) := by
    intro className component found
    rw [Content.component?_configure] at found
    exact bare className component found
  have declared : NoActions (content.declare app) := by
    have first := Application.all_registerAll configured Component.noActions_merge
      (noActions_of_regular regular.servlets)
    exact Application.all_registerAll first Component.noActions_merge
      (noActions_of_regular regular.filters)
  have routed : NoActions (content.routeAll (content.declare app)) :=
    noActions_foldl_route _ _ (noActions_foldl_route _ _ declared)
  have listened := Application.all_registerAll routed Component.noActions_merge
    regular.listenerActions
  -- an injection is kept beside the components
  exact List.foldlRecOn content.injections Application.addInjection listened
    fun _ sofar _ _ => sofar

end Descriptor

namespace Detection

theorem noActions_installAt (loader : Loader) (path : String) {app : Application}
    (bare : NoActions app) : NoActions (installAt loader path app) := by
  unfold installAt
  cases read : descriptorContent? loader path with
  | none => exact bare
  | some content => exact noActions_install (descriptorContent?_regular read) bare

end Detection

namespace Course

theorem registers_described (course : Course) (site : Site) (app : Application) :
    Application.Registers servlets.extensions app
      (course.described site (course.surveyed site app)) := by
  have surveyed : Application.Registers servlets.extensions app (course.surveyed site app) := by
    unfold surveyed
    split
    · exact Application.registers_registerAll (deployedComponents_kind site.classes) app
    · exact Application.Registers.nothing app
  apply surveyed.trans
  unfold described
  split
  · exact (registers_installAt _ _ _).trans (registers_installAt _ _ _)
  · exact Application.Registers.nothing _

theorem noActions_described (course : Course) (site : Site) :
    NoActions (course.described site (course.surveyed site {})) := by
  have surveyed : NoActions (course.surveyed site {}) := by
    unfold surveyed
    split
    · exact Application.all_registerAll (Application.all_empty _) Component.noActions_merge
        (noActions_deployed site.classes)
    · exact Application.all_empty _
  unfold described
  split
  · exact noActions_installAt _ _ (noActions_installAt _ _ surveyed)
  · exact surveyed

theorem plain_described (course : Course) (site : Site) :
    (course.described site (course.surveyed site {})).All Component.Plain := by
  have declared : ∀ kind ∈ servlets.extensions, kind ≠ Kind.actionServlet := by
    simp [servlets]
  have kinds := Application.Registers.allKinds declared (course.registers_described site {})
    (Application.all_empty _)
  intro className component found
  exact ⟨kinds className component found, course.noActions_described site className component found⟩

theorem wellFormed_described (course : Course) (site : Site) :
    (course.described site (course.surveyed site {})).WellFormed :=
  (course.evolves_described site _).wellFormed
    ((course.evolves_surveyed site {}).wellFormed Application.wellFormed_empty)

end Course

/-! ## Upgrading a component -/

/-- The kind of a component after an action configuration was read for it. -/
def Kind.withActions : Kind → Kind
  | servlet => actionServlet
  | filter => filter
  | listener => listener
  | actionServlet => actionServlet

@[simp] theorem Kind.withActions_withActions (kind : Kind) :
    kind.withActions.withActions = kind.withActions := by
  cases kind <;> rfl

theorem Component.merge_upgrade (component : Component) {upgrade : Component} {site : Site}
    {app : Application} (isUpgrade : IsUpgrade site app upgrade) :
    component.merge upgrade =
      { component with
        kind := component.kind.withActions
        actionMappings :=
          ActionMapping.putAll upgrade.actionMappings component.actionMappings } := by
  have kind : (component.outcome upgrade).kindAfter component.kind =
      component.kind.withActions := by
    rw [kindAfter_outcome, isUpgrade.kind]
    cases component.kind <;> rfl
  have noNames (names : Std.ExtTreeSet String) : names ∪ ∅ = names :=
    union_eq_self fun name absent => absurd absent Std.ExtTreeSet.not_mem_empty
  have noParameters : ∅ ∪ component.parameters = component.parameters :=
    overlay_eq_self fun name absent => absurd absent Std.ExtTreeMap.not_mem_empty
  rw [merge_eq, kind, isUpgrade.names, isUpgrade.urlPatterns, isUpgrade.servletNames,
    isUpgrade.parameters, isUpgrade.loadOnStartup, noNames, noNames, noNames, noParameters,
    Option.or_none]

/-- Upgrades change nothing but the kind, in one way, and the action mappings. -/
theorem Component.mergeAll_upgrades (component : Component) {upgrades : List Component}
    {site : Site} {app : Application} (all : ∀ upgrade ∈ upgrades, IsUpgrade site app upgrade) :
    component.mergeAll upgrades =
      { component with
        kind := if upgrades = [] then component.kind else component.kind.withActions
        actionMappings := ActionMapping.putAll (upgrades.flatMap actionMappings)
          component.actionMappings } := by
  induction upgrades generalizing component with
  | nil => rfl
  | cons first rest ih =>
      have later := ih (component.merge first) fun upgrade member =>
        all upgrade (List.mem_cons_of_mem _ member)
      rw [mergeAll] at later
      rw [mergeAll, List.foldl_cons, later,
        merge_upgrade component (all first List.mem_cons_self)]
      simp [ActionMapping.putAll_append]

namespace Detection

theorem className_of_shareOf (site : Site) {component upgrade : Component}
    (member : upgrade ∈ shareOf site component) : upgrade.className = component.className := by
  unfold shareOf at member
  split at member
  · obtain ⟨file, _, read⟩ := List.mem_filterMap.mp member
    obtain ⟨root, rfl⟩ := upgrade?_eq read
    simp [ActionConfig.upgradeOf_eq]
  · cases member

theorem isUpgrade_of_shareOf (site : Site) {app : Application} (keyed : app.Keyed)
    {component : Component} (listed : component ∈ app.componentList) :
    ∀ upgrade ∈ shareOf site component, IsUpgrade site app upgrade := by
  intro upgrade member
  apply isUpgrade_of_mem keyed
  rw [allUpgrades_eq]
  exact List.mem_flatMap.mpr ⟨component, listed, member⟩

/-- Of all upgrades a component takes those that are its own share. -/
theorem component?_registerAll_upgrades (site : Site) {app : Application} (keyed : app.Keyed)
    (className : String) :
    (app.registerAll (allUpgrades site app)).component? className =
      (app.component? className).map fun component =>
        component.mergeAll (shareOf site component) := by
  cases found : app.component? className with
  | none =>
      rw [Option.map_none, Application.component?_registerAll_of_ne]
      · exact found
      · rintro upgrade member rfl
        obtain ⟨owner, foundOwner, _⟩ := (isUpgrade_of_mem keyed upgrade member).owner
        rw [found] at foundOwner
        cases foundOwner
  | some component =>
      have listed := (Application.mem_componentList_iff app component).mpr ⟨className, found⟩
      have own := filter_flatMap_of_key keyed.classNames_nodup
        (fun other _ upgrade member => className_of_shareOf site member) listed
      rw [← allUpgrades_eq, keyed className component found] at own
      rw [Application.component?_registerAll found, own]
      rfl

/-! ## The mappings that configuration files give -/

/-- The accepted actions of a configuration file; none if the file cannot be read. -/
def actionsOf (loader : Loader) (file : ActionFile) : List ActionMapping :=
  match loader.read file.path with
  | .error _ => []
  | .ok bytes =>
      match openSource file.path ActionConfig.roots bytes with
      | .error _ => []
      | .ok source => ActionConfig.acceptedActions file.modulePrefix source.document.root

theorem upgrade?_actionMappings (loader : Loader) (owner : String) (file : ActionFile) :
    (upgrade? loader owner file).elim [] Component.actionMappings =
      ActionMapping.putAll (actionsOf loader file) [] := by
  unfold upgrade? actionsOf
  cases loader.read file.path with
  | error error => rfl
  | ok bytes =>
      simp only
      cases openSource file.path ActionConfig.roots bytes with
      | error error => rfl
      | ok source => simp [ActionConfig.upgradeOf_eq]

theorem shareOf_actionMappings {site : Site} {component : Component}
    (owns : ownsActions site.classes component = true) :
    (shareOf site component).flatMap Component.actionMappings =
      (actionFiles component).flatMap fun file =>
        ActionMapping.putAll (actionsOf site.loader file) [] := by
  rw [shareOf, if_pos owns, upgradesOf, flatMap_filterMap_elim]
  exact List.flatMap_congr fun file _ => upgrade?_actionMappings site.loader _ file

end Detection

/-! ## Misplaced mappings -/

/-- A component as a run from nothing leaves it, and as its action configurations found it. -/
theorem Course.upgraded_component {course : Course} {site : Site} {className : String}
    {component : Component}
    (stored : (course.effect site {}).component? className = some component) :
    ∃ found : Component, found.Plain ∧
      (course.described site (course.surveyed site {})).component? className = some found ∧
      component = if course.actionStage then found.mergeAll (shareOf site found) else found := by
  have plain := course.plain_described site
  have keyed := (course.wellFormed_described site).keyed
  rw [effect, upgraded] at stored
  cases stage : course.actionStage with
  | false =>
      simp only [stage, Bool.false_eq_true, if_false] at stored
      exact ⟨component, plain className component stored, stored, by simp⟩
  | true =>
      simp only [stage, if_true] at stored
      rw [component?_registerAll_upgrades site keyed] at stored
      obtain ⟨found, foundStored, same⟩ := Option.map_eq_some_iff.mp stored
      exact ⟨found, plain className found foundStored, foundStored, by simp [same]⟩

/-- A filter or a listener that owns action configurations by its class, one of which has an accepted
action. -/
structure Misplaced (site : Site) (component : Component) : Prop where
  kind : component.kind = .filter ∨ component.kind = .listener
  byClass : component.className = actionServletClass ∨
    site.classes.isSubclassOf component.className actionServletClass = true
  configured : ∃ file ∈ actionFiles component, actionsOf site.loader file ≠ []

theorem ownsActions_of_plain {classes : ClassIndex} {component : Component}
    (plain : component.Plain) :
    ownsActions classes component = true ↔ component.className = actionServletClass ∨
      classes.isSubclassOf component.className actionServletClass = true := by
  have kind : (component.kind == Kind.actionServlet) = false := by simp [plain.kind]
  simp [ownsActions, kind]

theorem share_gives_iff {site : Site} {component : Component} :
    (shareOf site component).flatMap Component.actionMappings ≠ [] ↔
      ownsActions site.classes component = true ∧
        ∃ file ∈ actionFiles component, actionsOf site.loader file ≠ [] := by
  by_cases owns : ownsActions site.classes component = true
  · rw [shareOf_actionMappings owns]
    simp [owns, ActionMapping.putAll_eq_nil_iff]
  · simp [shareOf, owns]

/-- A component that its upgrades leave of another kind than an action servlet has mappings exactly if
it is misplaced. -/
theorem misplaced_iff {site : Site} {app : Application} {found : Component} (plain : found.Plain)
    (upgrades : ∀ upgrade ∈ shareOf site found, IsUpgrade site app upgrade)
    (stray : (found.mergeAll (shareOf site found)).kind ≠ .actionServlet) :
    (found.mergeAll (shareOf site found)).actionMappings ≠ [] ↔
      Misplaced site (found.mergeAll (shareOf site found)) := by
  have merged := found.mergeAll_upgrades upgrades
  have sameFiles : actionFiles (found.mergeAll (shareOf site found)) = actionFiles found := by
    rw [merged]
    rfl
  have sameClass : (found.mergeAll (shareOf site found)).className = found.className := by
    rw [merged]
  have mappings : (found.mergeAll (shareOf site found)).actionMappings ≠ [] ↔
      (shareOf site found).flatMap Component.actionMappings ≠ [] := by
    rw [merged, plain.noActions, ne_eq, ne_eq, ActionMapping.putAll_eq_nil_iff]
  rw [mappings]
  constructor
  · intro given
    obtain ⟨owns, configured⟩ := share_gives_iff.mp given
    have kind : (found.mergeAll (shareOf site found)).kind = found.kind.withActions := by
      have nonempty : shareOf site found ≠ [] := by
        intro empty
        simp [empty] at given
      rw [merged]
      simp [nonempty]
    refine ⟨?_, ?_, ?_⟩
    · -- a servlet has become an action servlet, and the other kinds have stayed
      rw [kind] at stray ⊢
      cases isKind : found.kind with
      | servlet => simp [isKind, Kind.withActions] at stray
      | filter => exact Or.inl rfl
      | listener => exact Or.inr rfl
      | actionServlet => exact absurd isKind plain.kind
    · rw [sameClass]
      exact (ownsActions_of_plain plain).mp owns
    · rw [sameFiles]
      exact configured
  · intro misplaced
    have byClass := misplaced.byClass
    have configured := misplaced.configured
    rw [sameClass] at byClass
    rw [sameFiles] at configured
    exact share_gives_iff.mpr ⟨(ownsActions_of_plain plain).mpr byClass, configured⟩

/-! ## Where mappings go -/

namespace Synthesis

/-- A mapping has its unit, or the warning that its handler is not known. -/
def Answered (replay : Replay) (component : Component) (mapping : ActionMapping) : Prop :=
  (∃ unit ∈ replay.units, headingOf unit =
      ⟨component.className ++ mapping.path, .dispatch, component.className, actionTemplateId⟩) ∨
    unresolvedWarning component mapping ∈ replay.diagnostics

theorem replayComponent_subset (templates : TemplateSet) {scene : Scene} {component : Component}
    (listed : component ∈ scene.app.componentList) :
    (∀ unit ∈ (replayComponent templates scene component).units,
        unit ∈ (synthesize templates scene).units) ∧
      ∀ diagnostic ∈ (replayComponent templates scene component).diagnostics,
        diagnostic ∈ (synthesize templates scene).diagnostics := by
  have ordered := (Component.inContainerOrder_perm scene.app.componentList).mem_iff.mpr listed
  constructor
  · intro unit member
    exact List.mem_flatMap.mpr ⟨component, ordered, member⟩
  · intro diagnostic member
    exact List.mem_flatMap.mpr ⟨component, ordered, member⟩

theorem builtin_covers (kind : Kind) : ∃ template ∈ builtinTemplates, template.kind = kind := by
  cases kind with
  | servlet => exact ⟨servletTemplate, by simp [builtinTemplates], rfl⟩
  | filter => exact ⟨filterTemplate, by simp [builtinTemplates], rfl⟩
  | listener => exact ⟨listenerTemplate, by simp [builtinTemplates], rfl⟩
  | actionServlet => exact ⟨actionTemplate, by simp [builtinTemplates], rfl⟩

theorem answered_of_actionServlet {scene : Scene} {component : Component}
    (listed : component ∈ scene.app.componentList) (isAction : component.kind = .actionServlet) :
    ∀ mapping ∈ component.actionMappings,
      Answered (synthesize (.ofList builtinTemplates) scene) component mapping := by
  intro mapping member
  obtain ⟨units, diagnostics⟩ := replayComponent_subset (.ofList builtinTemplates) listed
  have accounts := replayComponent_accounts (fun template member => member) scene component
  obtain ⟨headings, warnings⟩ := accounts.actions (builtin_covers component.kind) isAction
  cases resolved : scene.classes.resolves mapping.handlerClass with
  | true =>
      have heading : UnitHeading.mk (component.className ++ mapping.path) .dispatch
          component.className actionTemplateId ∈
            (replayComponent (.ofList builtinTemplates) scene component).units.map headingOf := by
        rw [headings]
        exact List.mem_map.mpr ⟨mapping, by simp [member, resolved], rfl⟩
      obtain ⟨unit, unitMember, same⟩ := List.mem_map.mp heading
      exact Or.inl ⟨unit, units unit unitMember, same⟩
  | false =>
      apply Or.inr
      apply diagnostics
      rw [warnings]
      apply List.mem_append_right
      apply List.mem_map_of_mem
      simp [member, resolved]

/-- A filter or a listener answers no request, and nothing is said about it. -/
theorem replay_of_filter_or_listener {scene : Scene} (keyed : scene.app.Keyed)
    {component : Component}
    (stored : scene.app.component? component.className = some component)
    (kind : component.kind = .filter ∨ component.kind = .listener) :
    (∀ unit ∈ (synthesize (.ofList builtinTemplates) scene).units,
        unit.component = component.className → unit.role ≠ .dispatch) ∧
      (replayComponent (.ofList builtinTemplates) scene component).diagnostics = [] := by
  have accounts := replayComponent_accounts (fun template member => member) scene component
  constructor
  · intro unit member own
    have ofComponent := synthesize_units_of_component (fun template member => member) keyed stored
    have inBlock : unit ∈
        (replayComponent (.ofList builtinTemplates) scene component).units := by
      rw [← ofComponent]
      simp [member, own]
    rw [(accounts.unit_of_component unit inBlock).2]
    rcases kind with isFilter | isListener
    · simp [isFilter, Kind.role]
    · simp [isListener, Kind.role]
  · have plain : component.kind ≠ .actionServlet := by
      rcases kind with isFilter | isListener
      · simp [isFilter]
      · simp [isListener]
    exact (accounts.single (builtin_covers component.kind) plain).2

end Synthesis

namespace Registry

open Synthesis

/-- Apart from action servlets exactly the misplaced components of a run own action mappings, and the
driver answers the mappings of action servlets only. -/
theorem stray_mappings_iff_misplaced {names : List String} {registry : Registry}
    (selected : builtin.select names = .ok registry) (strict : Bool) (site : Site)
    {className : String} {component : Component}
    (stored : (registry.run strict site {}).app.component? className = some component) :
    (component.kind ≠ .actionServlet →
        (component.actionMappings ≠ [] ↔
          names.contains "struts" = true ∧ Misplaced site component)) ∧
      (component.kind = .actionServlet → ∀ mapping ∈ component.actionMappings,
        Answered (synthesize (.ofList builtinTemplates)
          ⟨(registry.run strict site {}).app, site.classes⟩) component mapping) ∧
      (Misplaced site component →
        (∀ unit ∈ (synthesize (.ofList builtinTemplates)
            ⟨(registry.run strict site {}).app, site.classes⟩).units,
          unit.component = component.className → unit.role ≠ .dispatch) ∧
        (replayComponent (.ofList builtinTemplates)
          ⟨(registry.run strict site {}).app, site.classes⟩ component).diagnostics = []) := by
  have effect := run_app selected strict site {} Application.wellFormed_empty
  let course := Course.ofSelection names strict site.loader
  have keyed : (registry.run strict site {}).app.Keyed := by
    rw [effect]
    exact (course.wellFormed_effect site Application.wellFormed_empty).keyed
  have listed := (Application.mem_componentList_iff _ component).mpr ⟨className, stored⟩
  refine ⟨?_, fun isAction => answered_of_actionServlet listed isAction, ?_⟩
  · intro stray
    rw [effect] at stored
    obtain ⟨found, plain, foundStored, same⟩ := Course.upgraded_component stored
    have foundKeyed := (course.wellFormed_described site).keyed
    cases stage : names.contains "struts" with
    | false =>
        have untouched : component = found := by
          rw [same, if_neg]
          simpa [Course.ofSelection] using stage
        simp [untouched, plain.noActions]
    | true =>
        have upgraded : component = found.mergeAll (shareOf site found) := by
          rw [same, if_pos]
          exact stage
        have listedFound :=
          (Application.mem_componentList_iff _ found).mpr ⟨className, foundStored⟩
        rw [upgraded] at stray ⊢
        simp [misplaced_iff plain (isUpgrade_of_shareOf site foundKeyed listedFound) stray]
  · intro misplaced
    have own : (registry.run strict site {}).app.component? component.className =
        some component := by
      rw [keyed className component stored]
      exact stored
    exact replay_of_filter_or_listener keyed own misplaced.kind

/-- A filter of the class of action servlets, beside a configuration with one action. -/
def actionFilter : Site :=
  Site.ofTexts
    [("app/WEB-INF/web.xml",
      "<web-app><filter><filter-name>f</filter-name>" ++
        "<filter-class>org.apache.struts.action.ActionServlet</filter-class></filter></web-app>"),
      ("app/WEB-INF/struts-config.xml",
        "<struts-config><action-mappings>" ++
          "<action path=\"/login\" type=\"com.example.LoginAction\"/>" ++
          "</action-mappings></struts-config>")]

theorem stray_mapping_of_actionFilter :
    ∃ component, (builtin.run false actionFilter {}).app.component? actionServletClass =
        some component ∧
      component.kind = .filter ∧ component.actionMappings.map ActionMapping.path = ["/login"] ∧
      Misplaced actionFilter component := by
  have selected : builtin.select ["servlet", "struts"] = .ok builtin := rfl
  have shape : ((builtin.run false actionFilter {}).app.component? actionServletClass).map
      (fun component => (component.kind, component.actionMappings.map ActionMapping.path)) =
        some (.filter, ["/login"]) := by decide +kernel
  obtain ⟨component, stored, same⟩ := Option.map_eq_some_iff.mp shape
  obtain ⟨kind, paths⟩ := Prod.mk.inj same
  have stray := (stray_mappings_iff_misplaced selected false actionFilter stored).1
  have plain : component.kind ≠ .actionServlet := by simp [kind]
  have some : component.actionMappings ≠ [] := by
    intro empty
    simp [empty] at paths
  exact ⟨component, stored, kind, paths, ((stray plain).mp some).2⟩

end Registry

end ContainerReplay
