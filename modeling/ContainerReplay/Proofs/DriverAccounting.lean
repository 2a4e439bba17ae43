import ContainerReplay.Proofs.ContainerOrder
import ContainerReplay.Proofs.Growth

/-!
# What a driver accounts for

Every component of an application has its place in the driver or a remark among the diagnostics, in
container order, and nothing else has.
-/

set_option autoImplicit false

namespace ContainerReplay

/-! ## Template sets -/

/-- The template set that is filled with templates in order; of two for one kind the first stays. -/
def TemplateSet.ofList (templates : List Template) : TemplateSet :=
  templates.foldl insertNew empty

theorem TemplateSet.get?_insertNew (set : TemplateSet) (template : Template) (kind : Kind) :
    (set.insertNew template).get? kind =
      (set.get? kind).or (if template.kind == kind then some template else none) := by
  have added : ∀ templates : List Template,
      ((⟨templates ++ [template]⟩ : TemplateSet).get? kind) =
        ((⟨templates⟩ : TemplateSet).get? kind).or
          (if template.kind == kind then some template else none) := by
    intro templates
    rw [get?, get?, List.find?_append, List.find?_singleton]
  unfold insertNew insert
  cases present : set.get? template.kind with
  | none => exact added set.templates
  | some existing =>
      by_cases same : template.kind = kind
      · rw [← same, present]
        rfl
      · rw [if_neg fun equal => same (beq_iff_eq.mp equal), Option.or_none]

theorem TemplateSet.get?_ofList (templates : List Template) (kind : Kind) :
    (ofList templates).get? kind = templates.find? fun template => template.kind == kind := by
  have general : ∀ (templates : List Template) (set : TemplateSet),
      (templates.foldl insertNew set).get? kind =
        (set.get? kind).or (templates.find? fun template => template.kind == kind) := by
    intro templates
    induction templates with
    | nil => exact fun set => Option.or_none.symm
    | cons template rest ih =>
        intro set
        rw [List.foldl_cons, ih, get?_insertNew, Option.or_assoc, List.find?_cons]
        cases template.kind == kind <;> rfl
  exact (general templates empty).trans Option.none_or

namespace Synthesis

/-! ## What one component contributes -/

/-- What a unit is headed by. -/
structure UnitHeading where
  name : String
  role : Role
  component : String
  template : String

def headingOf (unit : DriverUnit) : UnitHeading :=
  ⟨unit.name, unit.role, unit.component, unit.template⟩

def missingWarning (component : Component) : Diagnostic :=
  ⟨.warn, (DetectionError.missingTemplate component.kind component.className).message,
    some component.className⟩

def unresolvedWarning (component : Component) (mapping : ActionMapping) : Diagnostic :=
  ⟨.warn,
    (DetectionError.unresolvedClass mapping.handlerClass
      s!"action {mapping.path} of {component.className}").message,
    some mapping.handlerClass⟩

/-- What a component contributes where the kinds that have templates are known. -/
structure AccountsFor (covered : Kind → Prop) (classes : ClassIndex) (component : Component)
    (replay : Replay) : Prop where
  /-- Without a template there is a warning and no unit. -/
  uncovered : ¬ covered component.kind →
    replay.units = [] ∧ replay.diagnostics = [missingWarning component]
  /-- A servlet, a filter or a listener has exactly one unit. -/
  single : covered component.kind → component.kind ≠ .actionServlet →
    (∃ unit template, replay.units = [unit] ∧
      headingOf unit =
        ⟨component.className, component.kind.role, component.className, template⟩) ∧
      replay.diagnostics = []
  /-- A front controller has a unit for each mapping with a handler that resolves, in order, and a
  warning for each other mapping. -/
  actions : covered component.kind → component.kind = .actionServlet →
    replay.units.map headingOf =
        (component.actionMappings.filter fun mapping => classes.resolves mapping.handlerClass).map
          (fun mapping => ⟨component.className ++ mapping.path, .dispatch, component.className,
            actionTemplateId⟩) ∧
      replay.diagnostics =
        (if component.actionMappings = [] then [idleController component] else []) ++
          (component.actionMappings.filter fun mapping =>
            ! classes.resolves mapping.handlerClass).map (unresolvedWarning component)

theorem AccountsFor.unit_of_component {covered : Kind → Prop} {classes : ClassIndex}
    {component : Component} {replay : Replay}
    (accounts : AccountsFor covered classes component replay) :
    ∀ unit ∈ replay.units,
      unit.component = component.className ∧ unit.role = component.kind.role := by
  intro unit member
  by_cases present : covered component.kind
  · by_cases controller : component.kind = .actionServlet
    · have headings := (accounts.actions present controller).1
      have listed : headingOf unit ∈ replay.units.map headingOf := List.mem_map_of_mem member
      rw [headings] at listed
      obtain ⟨mapping, _, same⟩ := List.mem_map.mp listed
      rw [controller]
      exact ⟨(congrArg UnitHeading.component same).symm, (congrArg UnitHeading.role same).symm⟩
    · obtain ⟨⟨only, template, units, heading⟩, _⟩ := accounts.single present controller
      rw [units] at member
      cases List.mem_singleton.mp member
      exact ⟨congrArg UnitHeading.component heading, congrArg UnitHeading.role heading⟩
  · rw [(accounts.uncovered present).1] at member
    cases member

theorem replayMapping_of_resolved {scene : Scene} {mapping : ActionMapping}
    (resolved : scene.classes.resolves mapping.handlerClass = true) (component : Component) :
    replayMapping scene component mapping = ⟨[actionUnit scene component mapping], []⟩ := by
  rw [replayMapping, if_pos resolved]

theorem replayMapping_of_unresolved {scene : Scene} {mapping : ActionMapping}
    (unresolved : scene.classes.resolves mapping.handlerClass = false) (component : Component) :
    replayMapping scene component mapping = ⟨[], [unresolvedWarning component mapping]⟩ := by
  rw [replayMapping, unresolved, if_neg Bool.false_ne_true]
  rfl

theorem replayActions_accounts (scene : Scene) (component : Component) :
    (replayActions scene component).units.map headingOf =
        (component.actionMappings.filter fun mapping =>
          scene.classes.resolves mapping.handlerClass).map
          (fun mapping => ⟨component.className ++ mapping.path, component.kind.role,
            component.className, actionTemplateId⟩) ∧
      (replayActions scene component).diagnostics =
        (if component.actionMappings = [] then [idleController component] else []) ++
          (component.actionMappings.filter fun mapping =>
            ! scene.classes.resolves mapping.handlerClass).map (unresolvedWarning component) := by
  have general : ∀ mappings : List ActionMapping,
      (mappings.flatMap fun mapping => (replayMapping scene component mapping).units).map
          headingOf =
        (mappings.filter fun mapping => scene.classes.resolves mapping.handlerClass).map
          (fun mapping => ⟨component.className ++ mapping.path, component.kind.role,
            component.className, actionTemplateId⟩) ∧
      (mappings.flatMap fun mapping => (replayMapping scene component mapping).diagnostics) =
        (mappings.filter fun mapping => ! scene.classes.resolves mapping.handlerClass).map
          (unresolvedWarning component) := by
    intro mappings
    induction mappings with
    | nil => exact ⟨rfl, rfl⟩
    | cons mapping rest ih =>
        obtain ⟨units, diagnostics⟩ := ih
        rw [List.flatMap_cons, List.flatMap_cons, List.filter_cons, List.filter_cons,
          List.map_append, units, diagnostics]
        cases resolved : scene.classes.resolves mapping.handlerClass with
        | true =>
            rw [replayMapping_of_resolved resolved]
            exact ⟨rfl, rfl⟩
        | false =>
            rw [replayMapping_of_unresolved resolved]
            exact ⟨rfl, rfl⟩
  unfold replayActions
  cases component.actionMappings with
  | nil => exact ⟨rfl, rfl⟩
  | cons mapping rest => exact general (mapping :: rest)

theorem replayComponent_accounts {templates : List Template}
    (builtin : ∀ template ∈ templates, template ∈ builtinTemplates) (scene : Scene)
    (component : Component) :
    AccountsFor (fun kind => ∃ template ∈ templates, template.kind = kind) scene.classes component
      (replayComponent (TemplateSet.ofList templates) scene component) := by
  unfold replayComponent
  rw [TemplateSet.get?_ofList]
  cases found : templates.find? fun template => template.kind == component.kind with
  | none =>
      have missing : ¬ ∃ template ∈ templates, template.kind = component.kind := by
        rintro ⟨template, member, same⟩
        exact List.find?_eq_none.mp found template member (beq_iff_eq.mpr same)
      exact ⟨fun _ => ⟨rfl, rfl⟩, fun present => absurd present missing,
        fun present => absurd present missing⟩
  | some template =>
      have member := List.mem_of_find?_eq_some found
      have answers := List.find?_some found
      have kind : template.kind = component.kind := beq_iff_eq.mp answers
      have present : ∃ template ∈ templates, template.kind = component.kind :=
        ⟨template, member, kind⟩
      refine ⟨fun missing => absurd present missing, fun _ plain => ?_, fun _ controller => ?_⟩
      · have known := builtin template member
        simp only [builtinTemplates, List.mem_cons, List.not_mem_nil, or_false] at known
        rcases known with rfl | rfl | rfl | rfl
        · exact ⟨⟨_, _, rfl, rfl⟩, rfl⟩
        · exact ⟨⟨_, _, rfl, rfl⟩, rfl⟩
        · exact ⟨⟨_, _, rfl, rfl⟩, rfl⟩
        · exact absurd kind.symm plain
      · have known := builtin template member
        simp only [builtinTemplates, List.mem_cons, List.not_mem_nil, or_false] at known
        rw [controller] at kind
        rcases known with rfl | rfl | rfl | rfl
        · cases kind
        · cases kind
        · cases kind
        · have accounts := replayActions_accounts scene component
          rw [controller] at accounts
          exact accounts

/-! ## The whole driver -/

theorem rank_le_of_precedes {first second : Component} (below : first.Precedes second) :
    first.kind.role.rank ≤ second.kind.role.rank := by
  rcases below with lower | ⟨same, _⟩
  · exact Nat.le_of_lt lower
  · exact Nat.le_of_eq (congrArg Role.rank same)

/-- Blocks of components in container order have their roles in order. -/
theorem roles_ordered {components : List Component} {block : Component → List DriverUnit}
    (ordered : components.Pairwise Component.Precedes)
    (roles : ∀ component ∈ components, ∀ unit ∈ block component,
      unit.role = component.kind.role) :
    (components.flatMap block).Pairwise fun first second => first.role.rank ≤ second.role.rank := by
  rw [List.pairwise_flatMap]
  refine ⟨fun component member => ?_, ordered.imp_of_mem ?_⟩
  · refine List.pairwise_of_forall_mem_list fun first firstMember second secondMember => ?_
    have firstRole := roles component member first firstMember
    have secondRole := roles component member second secondMember
    exact Nat.le_of_eq (congrArg Role.rank (firstRole.trans secondRole.symm))
  · intro first second firstMember secondMember below unit member later laterMember
    rw [roles first firstMember unit member, roles second secondMember later laterMember]
    exact rank_le_of_precedes below

/-- Where the roles are in order what answers requests comes last. -/
theorem dispatchUnits_suffix (className : String) {units : List DriverUnit}
    (ordered : units.Pairwise fun first second => first.role.rank ≤ second.role.rank) :
    ∃ front, units = front ++ (Driver.mk className units).dispatchUnits ∧
      ∀ unit ∈ front, unit.role ≠ .dispatch := by
  refine ⟨units.filter fun unit => ! unit.role == .dispatch, ?_, fun unit member => ?_⟩
  · unfold Driver.dispatchUnits
    induction units with
    | nil => rfl
    | cons unit rest ih =>
        obtain ⟨least, restOrdered⟩ := List.pairwise_cons.mp ordered
        rw [List.filter_cons, List.filter_cons]
        cases dispatch : unit.role == Role.dispatch with
        | false => exact congrArg (unit :: ·) (ih restOrdered)
        | true =>
            -- behind the first dispatcher there are only dispatchers
            have all : ∀ later ∈ rest, (later.role == Role.dispatch) = true := by
              intro later member
              have bound := least later member
              rw [beq_iff_eq.mp dispatch] at bound
              revert bound
              cases later.role <;> decide
            have noFront : rest.filter (fun later => ! later.role == Role.dispatch) = [] :=
              List.filter_eq_nil_iff.mpr fun later member => by simp [all later member]
            have allBehind : rest.filter (fun later => later.role == Role.dispatch) = rest :=
              List.filter_eq_self.mpr all
            simp only [noFront, allBehind, Bool.not_true, Bool.false_eq_true, if_false, if_true,
              List.nil_append]
  · have condition := (List.mem_filter.mp member).2
    simpa using condition

/-- The units of a driver that are of one component are those that replay it. -/
theorem synthesize_units_of_component {templates : List Template}
    (builtin : ∀ template ∈ templates, template ∈ builtinTemplates) {scene : Scene}
    (keyed : scene.app.Keyed) {component : Component}
    (stored : scene.app.component? component.className = some component) :
    ((synthesize (TemplateSet.ofList templates) scene).units.filter
        fun unit => unit.component == component.className) =
      (replayComponent (TemplateSet.ofList templates) scene component).units := by
  have permuted := Component.inContainerOrder_perm scene.app.componentList
  refine filter_flatMap_of_key
    ((permuted.map Component.className).nodup_iff.mpr keyed.classNames_nodup)
    (fun other _ unit inBlock =>
      ((replayComponent_accounts builtin scene other).unit_of_component unit inBlock).1) ?_
  exact permuted.mem_iff.mpr ((keyed.mem_componentList component).mpr stored)

/-- A driver accounts for every component of an application exactly once, in the only container
order that there is; the diagnostics do so in the same order. -/
theorem synthesize_accounts {templates : List Template}
    (builtin : ∀ template ∈ templates, template ∈ builtinTemplates) (scene : Scene)
    (keyed : scene.app.Keyed) (driverClass : String) :
    ∃ (processed : List Component) (block : Component → Replay),
      (processed.Perm scene.app.componentList ∧ processed.Pairwise Component.Precedes ∧
        ∀ sequence : List Component, sequence.Perm scene.app.componentList →
          sequence.Pairwise Component.Precedes → sequence = processed) ∧
      (∀ component ∈ processed,
        AccountsFor (fun kind => ∃ template ∈ templates, template.kind = kind) scene.classes
          component (block component)) ∧
      (synthesize (TemplateSet.ofList templates) scene).units =
        processed.flatMap (fun component => (block component).units) ∧
      (synthesize (TemplateSet.ofList templates) scene).diagnostics =
        processed.flatMap (fun component => (block component).diagnostics) ∧
      ((synthesize (TemplateSet.ofList templates) scene).units.Pairwise
        fun first second => first.role.rank ≤ second.role.rank) ∧
      ∃ front, (synthesize (TemplateSet.ofList templates) scene).units =
          front ++ (Driver.mk driverClass
            (synthesize (TemplateSet.ofList templates) scene).units).dispatchUnits ∧
        ∀ unit ∈ front, unit.role ≠ .dispatch := by
  have distinct := keyed.classNames_nodup
  have accounts := replayComponent_accounts builtin scene
  have sorted := Component.inContainerOrder_precedes distinct
  have roles : (synthesize (TemplateSet.ofList templates) scene).units.Pairwise
      fun first second => first.role.rank ≤ second.role.rank :=
    roles_ordered sorted fun component _ unit member =>
      ((accounts component).unit_of_component unit member).2
  refine ⟨Component.inContainerOrder scene.app.componentList,
    replayComponent (TemplateSet.ofList templates) scene, ⟨?_, sorted, ?_⟩, ?_, rfl, rfl, roles,
    dispatchUnits_suffix driverClass roles⟩
  · exact Component.inContainerOrder_perm _
  · exact fun sequence permuted ordered =>
      Component.eq_inContainerOrder distinct permuted ordered
  · exact fun component _ => accounts component

def servletAndListener : Application :=
  (({} : Application).register { className := "a.Servlet", kind := .servlet }).register
    { className := "b.Listener", kind := .listener }

/-- Without a template for listeners the listener is accounted for by a warning, and before the
servlet. -/
theorem synthesize_accounts_without_listeners :
    ∃ (processed : List Component) (block : Component → Replay),
      processed.Perm servletAndListener.componentList ∧
        processed.Pairwise Component.Precedes ∧
        (∀ component ∈ processed,
          AccountsFor (fun kind => ∃ template ∈ [servletTemplate, filterTemplate],
            template.kind = kind) .empty component (block component)) := by
  have servlet : (({} : Application).register
      { className := "a.Servlet", kind := .servlet }).WellFormed :=
    Application.wellFormed_register Application.wellFormed_empty List.nodup_nil
  have both : servletAndListener.WellFormed :=
    Application.wellFormed_register servlet List.nodup_nil
  have builtin : ∀ template ∈ [servletTemplate, filterTemplate],
      template ∈ builtinTemplates := by
    simp [builtinTemplates]
  obtain ⟨processed, block, ⟨permuted, ordered, _⟩, accounts, _⟩ :=
    synthesize_accounts builtin ⟨servletAndListener, .empty⟩ both.keyed Driver.defaultClass
  exact ⟨processed, block, permuted, ordered, accounts⟩

end Synthesis

end ContainerReplay
