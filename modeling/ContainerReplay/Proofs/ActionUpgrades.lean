import ContainerReplay.Proofs.Covering
import ContainerReplay.Proofs.PassEffects
import Mathlib.Data.List.Basic

/-!
# Action configurations read again

The configuration pass for actions adds action mappings to the owners and may turn them into front
controllers.  Neither changes which components own configurations, which files they name, or what
those files add, so that the pass may be repeated without an effect.
-/

set_option autoImplicit false

namespace ContainerReplay

namespace Descriptor.ActionConfig

theorem upgradeOf_eq (owner modulePrefix : String) (root : Markup.Element) :
    upgradeOf owner modulePrefix root =
      { className := owner
        kind := .actionServlet
        actionMappings := ActionMapping.putAll (acceptedActions modulePrefix root) [] } := by
  rw [upgradeOf, Component.putMappings_eq]

end Descriptor.ActionConfig

namespace Detection

open Descriptor

/-- What the configuration files of one component add, if it owns any. -/
def shareOf (site : Site) (component : Component) : List Component :=
  if ownsActions site.classes component then upgradesOf site.loader component else []

theorem flatMap_filter_eq {α β : Type} (keep : α → Bool) (share : α → List β) (items : List α) :
    (items.filter keep).flatMap share =
      items.flatMap fun item => if keep item then share item else [] := by
  induction items with
  | nil => rfl
  | cons item rest ih =>
      rw [List.filter_cons, List.flatMap_cons, ← ih]
      split
      · rw [List.flatMap_cons]
      · rw [List.nil_append]

theorem allUpgrades_eq (site : Site) (app : Application) :
    allUpgrades site app = app.componentList.flatMap (shareOf site) :=
  flatMap_filter_eq (ownsActions site.classes) (upgradesOf site.loader) app.componentList

/-- An upgrade belongs to an owner on record, and it brings nothing but action mappings. -/
structure IsUpgrade (site : Site) (app : Application) (upgrade : Component) : Prop where
  owner : ∃ owner, app.component? upgrade.className = some owner ∧
    ownsActions site.classes owner = true
  kind : upgrade.kind = .actionServlet
  names : upgrade.names = ∅
  urlPatterns : upgrade.urlPatterns = ∅
  servletNames : upgrade.servletNames = ∅
  parameters : upgrade.parameters = ∅
  loadOnStartup : upgrade.loadOnStartup = none
  distinctPaths : upgrade.mappingPaths.Nodup

theorem isUpgrade_of_mem {site : Site} {app : Application} (keyed : app.Keyed) :
    ∀ upgrade ∈ allUpgrades site app, IsUpgrade site app upgrade := by
  intro upgrade member
  obtain ⟨owner, ownerMember, fileMember⟩ := List.mem_flatMap.mp member
  obtain ⟨listed, owns⟩ := List.mem_filter.mp ownerMember
  obtain ⟨file, _, read⟩ := List.mem_filterMap.mp fileMember
  obtain ⟨root, rfl⟩ := upgrade?_eq read
  have distinct := ActionConfig.upgradeOf_distinct owner.className file.modulePrefix root
  rw [ActionConfig.upgradeOf_eq] at distinct ⊢
  exact ⟨⟨owner, (keyed.mem_componentList owner).mp listed, owns⟩, rfl, rfl, rfl, rfl, rfl, rfl,
    distinct⟩

theorem mergeAll_parameters {others : List Component} (component : Component)
    (without : ∀ other ∈ others, other.parameters = ∅) :
    (component.mergeAll others).parameters = component.parameters := by
  induction others generalizing component with
  | nil => rfl
  | cons first rest ih =>
      rw [Component.mergeAll, List.foldl_cons]
      refine (ih _ fun other member => without other (List.mem_cons_of_mem _ member)).trans ?_
      rw [Component.merge_eq, without first List.mem_cons_self]
      exact Component.overlay_eq_self fun name absent => absurd absent Std.ExtTreeMap.not_mem_empty

/-- A component that owns configurations owns them when it has grown. -/
theorem ownsActions_grown {classes : ClassIndex} {component grown : Component}
    (owns : ownsActions classes component = true) (growth : component.Grows grown) :
    ownsActions classes grown = true := by
  simp only [ownsActions, Bool.or_eq_true, beq_iff_eq] at owns ⊢
  rw [growth.className]
  rcases owns with (isAction | byClass) | byBase
  · rcases growth.kind with same | refined
    · exact Or.inl (Or.inl (same.trans isAction))
    · exact Or.inl (Or.inl ((Kind.refines_iff _ _).mp refined).1)
  · exact Or.inl (Or.inr byClass)
  · exact Or.inr byBase

theorem actionFiles_congr {component other : Component}
    (parameters : other.parameters = component.parameters) :
    actionFiles other = actionFiles component := by
  rw [actionFiles, actionFiles, defaultFiles, defaultFiles, parameters]

/-- A component that keeps its class and its parameters and has only become more special names the
same files, and still owns them if it owned them before. -/
theorem shareOf_grown {site : Site} {component grown : Component}
    (owns : ownsActions site.classes component = true) (growth : component.Grows grown)
    (parameters : grown.parameters = component.parameters) :
    shareOf site grown = shareOf site component := by
  rw [shareOf, shareOf, if_pos owns, if_pos (ownsActions_grown owns growth), upgradesOf, upgradesOf,
    actionFiles_congr parameters, growth.className]

theorem flatMap_filterMap_elim {κ α β : Type} (choice : κ → Option α) (share : α → List β)
    (keys : List κ) :
    (keys.filterMap choice).flatMap share = keys.flatMap fun key => (choice key).elim [] share := by
  induction keys with
  | nil => rfl
  | cons key rest ih =>
      rw [List.filterMap_cons, List.flatMap_cons, ← ih]
      cases choice key <;> rfl

theorem flatMap_filterMap_congr {κ α β : Type} {keys : List κ} {first second : κ → Option α}
    {share : α → List β}
    (same : ∀ key ∈ keys, (first key).elim [] share = (second key).elim [] share) :
    (keys.filterMap first).flatMap share = (keys.filterMap second).flatMap share := by
  rw [flatMap_filterMap_elim, flatMap_filterMap_elim]
  exact List.flatMap_congr same

/-- What the components of an application contribute is the same after an upgrade, if an owner
contributes the same when it has grown and kept its parameters. -/
theorem flatMap_upgraded {β : Type} {site : Site} {app : Application} (keyed : app.Keyed)
    {share : Component → List β}
    (kept : ∀ component grown, ownsActions site.classes component = true →
      component.Grows grown → grown.parameters = component.parameters →
        share grown = share component) :
    (app.registerAll (allUpgrades site app)).componentList.flatMap share =
      app.componentList.flatMap share := by
  have upgrades : ∀ upgrade ∈ allUpgrades site app, IsUpgrade site app upgrade :=
    isUpgrade_of_mem keyed
  have sameNames : (app.registerAll (allUpgrades site app)).classNames = app.classNames := by
    refine Application.classNames_congr fun className => ?_
    rw [Application.mem_classNames_iff, Application.mem_classNames_iff]
    constructor
    · rintro ⟨grown, foundGrown⟩
      cases found : app.component? className with
      | some component => exact ⟨component, rfl⟩
      | none =>
          rw [Application.component?_registerAll_of_ne, found] at foundGrown
          · cases foundGrown
          · rintro upgrade member rfl
            obtain ⟨owner, foundOwner, _⟩ := (upgrades upgrade member).owner
            rw [found] at foundOwner
            cases foundOwner
    · rintro ⟨component, found⟩
      exact ⟨_, Application.component?_registerAll found _⟩
  rw [Application.componentList_eq_filterMap, sameNames, Application.componentList_eq_filterMap app]
  refine flatMap_filterMap_congr fun className member => ?_
  obtain ⟨component, found⟩ := (Application.mem_classNames_iff app className).mp member
  rw [Application.component?_registerAll found, found, Option.elim_some, Option.elim_some]
  by_cases owns : ownsActions site.classes component = true
  · refine kept component _ owns (Component.grows_mergeAll component _) ?_
    refine mergeAll_parameters component fun upgrade upgradeMember => ?_
    exact (upgrades upgrade (List.mem_filter.mp upgradeMember).1).parameters
  · -- no upgrade is for a component that owns nothing
    have unowned : (allUpgrades site app).filter
        (fun upgrade => upgrade.className == className) = [] := by
      refine List.filter_eq_nil_iff.mpr fun upgrade upgradeMember same => owns ?_
      obtain ⟨owner, foundOwner, ownerOwns⟩ := (upgrades upgrade upgradeMember).owner
      rw [beq_iff_eq.mp same, found] at foundOwner
      cases foundOwner
      exact ownerOwns
    rw [unowned]
    rfl

/-- After an application was upgraded its configuration files add what they added before. -/
theorem allUpgrades_again (site : Site) {app : Application} (keyed : app.Keyed) :
    allUpgrades site (app.registerAll (allUpgrades site app)) = allUpgrades site app := by
  rw [allUpgrades_eq site (app.registerAll _), flatMap_upgraded keyed, ← allUpgrades_eq]
  intro component grown owns growth parameters
  exact shareOf_grown owns growth parameters

theorem upgrade_again (site : Site) {app : Application} (wellFormed : app.WellFormed) :
    (app.registerAll (allUpgrades site app)).registerAll
        (allUpgrades site (app.registerAll (allUpgrades site app))) =
      app.registerAll (allUpgrades site app) := by
  rw [allUpgrades_again site wellFormed.keyed]
  refine Application.registerAll_again wellFormed fun upgrade member => ?_
  obtain ⟨owner, found, _⟩ := (isUpgrade_of_mem wellFormed.keyed upgrade member).owner
  exact ⟨owner, found⟩

end Detection

end ContainerReplay
