import ContainerReplay.Proofs.ActionUpgrades
import ContainerReplay.Proofs.Reinstalling

/-!
# The kinds of registered components

What a pass of a detector may do to the kinds of an application, and that both built-in detectors
register only components of the kinds that they declare.
-/

set_option autoImplicit false

namespace ContainerReplay

open Descriptor

/-! ## Passes and kinds -/

/-- An application changes by registering components of some kinds, and otherwise in ways that leave
every kind as it is. -/
inductive Application.Registers (kinds : List Kind) : Application → Application → Prop where
  | nothing (app : Application) : Registers kinds app app
  | register {before after : Application} (component : Component)
      (own : component.kind ∈ kinds) (later : Registers kinds (before.register component) after) :
      Registers kinds before after
  | enrich {before changed after : Application}
      (kept : ∀ className, (changed.component? className).map Component.kind =
        (before.component? className).map Component.kind)
      (later : Registers kinds changed after) : Registers kinds before after

/-- Both passes of a detector register only components of the kinds that it declares, whether they
succeed or fail. -/
def Detector.RegistersOwn (detector : Detector) : Prop :=
  ∀ (site : Site) (survey : Survey),
    Application.Registers detector.extensions survey.app (detector.source site survey).survey.app ∧
      Application.Registers detector.extensions survey.app (detector.config site survey).survey.app

namespace Application

variable {kinds : List Kind}

theorem Registers.trans {first second third : Application}
    (lower : Registers kinds first second) (upper : Registers kinds second third) :
    Registers kinds first third := by
  induction lower with
  | nothing => exact upper
  | register component own _ ih => exact Registers.register component own (ih upper)
  | enrich kept _ ih => exact Registers.enrich kept (ih upper)

theorem Registers.mono {more : List Kind} (listed : ∀ kind ∈ kinds, kind ∈ more)
    {before after : Application} (registers : Registers kinds before after) :
    Registers more before after := by
  induction registers with
  | nothing app => exact Registers.nothing app
  | register component own _ ih => exact Registers.register component (listed _ own) ih
  | enrich kept _ ih => exact Registers.enrich kept ih

theorem registers_of_kinds {before after : Application}
    (kept : ∀ className, (after.component? className).map Component.kind =
      (before.component? className).map Component.kind) : Registers kinds before after :=
  Registers.enrich kept (Registers.nothing after)

theorem registers_registerAll {components : List Component}
    (own : ∀ component ∈ components, component.kind ∈ kinds) (app : Application) :
    Registers kinds app (app.registerAll components) := by
  apply List.foldlRecOn components register (Registers.nothing app)
  intro reached sofar component member
  exact sofar.trans (Registers.register component (own component member) (Registers.nothing _))

theorem registers_modify (app : Application) (className : String)
    {change : Component → Component}
    (kept : ∀ component : Component, (change component).kind = component.kind) :
    Registers kinds app (app.modify className change) := by
  apply registers_of_kinds
  intro other
  rw [component?_modify]
  split
  · cases app.component? other with
    | none => rfl
    | some component => exact congrArg some (kept component)
  · rfl

/-- A merge takes the kind of one side, whichever of its outcomes it has. -/
theorem allowed_merge {allowed : Kind → Prop} (existing other : Component)
    (kept : allowed existing.kind) (new : allowed other.kind) :
    allowed (existing.merge other).kind := by
  rw [Component.merge_eq]
  simp only [Component.kindAfter_outcome]
  split
  · exact new
  · exact kept

theorem Registers.allKinds {allowed : Kind → Prop} (own : ∀ kind ∈ kinds, allowed kind)
    {before after : Application} (registers : Registers kinds before after)
    (all : before.All fun component => allowed component.kind) :
    after.All fun component => allowed component.kind := by
  induction registers with
  | nothing => exact all
  | register component ofKind _ ih => exact ih (all_register all allowed_merge (own _ ofKind))
  | enrich kept _ ih =>
      apply ih
      intro className component found
      have same := kept className
      rw [found] at same
      obtain ⟨earlier, foundEarlier, kind⟩ := Option.map_eq_some_iff.mp same.symm
      rw [← kind]
      exact all className earlier foundEarlier

end Application

/-! ## The built-in detectors -/

namespace Detection

open Application

variable {kinds : List Kind}

theorem deployedComponents_kind (classes : ClassIndex) :
    ∀ component ∈ deployedComponents classes, component.kind ∈ servlets.extensions := by
  intro component member
  obtain ⟨info, _, kind, decided, rfl⟩ := mem_deployedComponents.mp member
  -- whatever the signature says, an action servlet is never among the answers
  unfold deployedAs? at decided
  repeat' split at decided
  all_goals cases decided <;> simp [servlets]

theorem contentOf_kinds (root : Markup.Element) :
    (∀ component ∈ componentsOf (Deployment.contentOf root).servlets,
        component.kind ∈ servlets.extensions) ∧
      (∀ component ∈ componentsOf (Deployment.contentOf root).filters,
        component.kind ∈ servlets.extensions) ∧
      ∀ component ∈ (Deployment.contentOf root).listeners,
        component.kind ∈ servlets.extensions := by
  have regular := Deployment.contentOf_regular root
  refine ⟨?_, ?_, ?_⟩
  · intro component member
    obtain ⟨entry, entryMember, rfl⟩ := List.mem_map.mp member
    simp [(regular.servlets entry entryMember).kind, servlets]
  · intro component member
    obtain ⟨entry, entryMember, rfl⟩ := List.mem_map.mp member
    simp [(regular.filters entry entryMember).kind, servlets]
  · intro component member
    obtain ⟨element, _, declared⟩ := List.mem_filterMap.mp member
    obtain ⟨className, _, rfl⟩ := Option.map_eq_some_iff.mp declared
    simp [servlets]

theorem addTo_kind (mapping : Mapping) (component : Component) :
    (mapping.addTo component).kind = component.kind := by
  rw [Mapping.addTo_eq]

theorem registers_route (declarations : Declarations) (mappings : List Mapping)
    (app : Application) : Registers kinds app (mappings.foldl (route declarations) app) := by
  apply List.foldlRecOn mappings (route declarations) (Registers.nothing app)
  intro reached sofar mapping _
  apply sofar.trans
  unfold route
  split
  · exact Registers.nothing reached
  · exact registers_modify reached _ (addTo_kind mapping)

theorem registers_install (root : Markup.Element) (app : Application) :
    Registers servlets.extensions app ((Deployment.contentOf root).install app) := by
  obtain ⟨ofServlets, ofFilters, ofListeners⟩ := contentOf_kinds root
  let content := Deployment.contentOf root
  have configured : Registers servlets.extensions app (content.configure app) := by
    apply registers_of_kinds
    intro className
    rw [Content.component?_configure]
  have declared : Registers servlets.extensions app (content.declare app) :=
    (configured.trans (registers_registerAll ofServlets _)).trans
      (registers_registerAll ofFilters _)
  have routed : Registers servlets.extensions app (content.routeAll (content.declare app)) :=
    (declared.trans (registers_route _ content.servletMappings _)).trans
      (registers_route _ content.filterMappings _)
  have injected : ∀ (injections : List Injection) (app : Application),
      Registers servlets.extensions app (injections.foldl Application.addInjection app) := by
    intro injections app
    apply List.foldlRecOn injections Application.addInjection (Registers.nothing app)
    intro reached sofar injection _
    exact sofar.trans (registers_of_kinds fun _ => rfl)
  exact (routed.trans (registers_registerAll ofListeners _)).trans (injected _ _)

theorem registers_installAt (loader : Loader) (path : String) (app : Application) :
    Registers servlets.extensions app (installAt loader path app) := by
  unfold installAt descriptorContent?
  cases loader.read path with
  | error error => exact Registers.nothing app
  | ok bytes =>
      simp only
      cases openSource path Deployment.roots bytes with
      | error error => exact Registers.nothing app
      | ok source => exact registers_install source.document.root app

theorem registersOwn_servlets : servlets.RegistersOwn := by
  intro site survey
  constructor
  · have change := servletSource_app site survey
    rw [reported_app] at change
    simp only [servlets]
    rw [change]
    exact registers_registerAll (deployedComponents_kind site.classes) survey.app
  · have change := servletConfig_app site survey
    rw [reported_app] at change
    simp only [servlets]
    rw [change]
    exact (registers_installAt _ _ _).trans (registers_installAt _ _ _)

theorem registers_readActionFile (site : Site) (owner : String) (survey : Survey)
    (file : ActionFile) :
    Registers actions.extensions survey.app (readActionFile site owner survey file).app := by
  rw [readActionFile_app]
  cases read : upgrade? site.loader owner file with
  | none => exact Registers.nothing survey.app
  | some upgrade =>
      obtain ⟨root, rfl⟩ := upgrade?_eq read
      simp only [Option.elim_some]
      split
      · refine Registers.register _ ?_ (Registers.nothing _)
        simp [ActionConfig.upgradeOf_eq, actions]
      · exact Registers.nothing survey.app

theorem registersOwn_actions : actions.RegistersOwn := by
  intro site survey
  refine ⟨Registers.nothing survey.app, ?_⟩
  refine List.foldlRecOn (motive := fun reached : Survey =>
    Registers actions.extensions survey.app reached.app) _ _ (Registers.nothing survey.app) ?_
  intro reached sofar owner _
  refine List.foldlRecOn (motive := fun later : Survey =>
    Registers actions.extensions survey.app later.app) _ _ sofar ?_
  intro later sofar file _
  exact sofar.trans (registers_readActionFile site owner.className later file)

end Detection

theorem Registry.builtin_registersOwn :
    ∀ detector ∈ Registry.builtin.detectors, detector.RegistersOwn := by
  intro detector member
  rw [Registry.builtin_detectors, List.mem_cons, List.mem_singleton] at member
  rcases member with rfl | rfl
  · exact Detection.registersOwn_servlets
  · exact Detection.registersOwn_actions

end ContainerReplay
