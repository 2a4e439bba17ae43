import ContainerReplay.Proofs.Reinstalling
import ContainerReplay.Proofs.RunStages

/-!
# Running detection again

After a run every stage is settled but one: a second run may still add what the descriptor maps by a
name that only the fragment declares.  A run is idempotent exactly where the mappings of the
descriptor are all in effect, and from the second run on nothing changes any more.
-/

set_option autoImplicit false

namespace ContainerReplay

open Detection Descriptor

namespace Course

/-! ## What a run settles -/

/-- All that a second run would add again is there, except for the mappings of the descriptor. -/
structure Settled (course : Course) (site : Site) (app : Application) : Prop where
  wellFormed : app.WellFormed
  deployed : course.sourceStage = true →
    ∀ component ∈ deployedComponents site.classes, app.Covers component
  descriptor : course.descriptorStage = true → ∀ content,
    descriptorContent? site.loader deploymentDescriptor = some content → content.Held app
  fragmentHeld : course.descriptorStage = true → ∀ content,
    descriptorContent? site.loader deploymentFragment = some content → content.Held app
  fragmentInEffect : course.descriptorStage = true → ∀ content,
    descriptorContent? site.loader deploymentFragment = some content → content.InEffect app
  actions : course.upgraded site app = app

theorem installAt_of_some {loader : Loader} {path : String} {content : Content}
    (read : descriptorContent? loader path = some content) (app : Application) :
    installAt loader path app = content.install app := by
  rw [installAt, read]

theorem described_of_stage {course : Course} (taken : course.descriptorStage = true) (site : Site)
    (app : Application) :
    course.described site app =
      installAt site.loader deploymentFragment
        (installAt site.loader deploymentDescriptor app) := by
  rw [described, if_pos taken]

theorem upgraded_again (course : Course) (site : Site) {app : Application}
    (wellFormed : app.WellFormed) :
    course.upgraded site (course.upgraded site app) = course.upgraded site app := by
  unfold upgraded
  cases course.actionStage with
  | true => exact upgrade_again site wellFormed
  | false => rfl

theorem settled_effect (course : Course) (site : Site) {app : Application}
    (wellFormed : app.WellFormed) : course.Settled site (course.effect site app) := by
  have surveyedWell := (course.evolves_surveyed site app).wellFormed wellFormed
  have descriptorWell := (evolves_installAt site.loader deploymentDescriptor
    (course.surveyed site app)).wellFormed surveyedWell
  have describedWell := (course.evolves_described site (course.surveyed site app)).wellFormed
    surveyedWell
  have finalWell := course.wellFormed_effect site wellFormed
  have described := (course.evolves_described site (course.surveyed site app)).grows
  have upgraded := course.grows_upgraded site (course.described site (course.surveyed site app))
  -- what a stage declares is there when the stage ends, and later stages only let it grow
  refine ⟨finalWell, ?_, ?_, ?_, ?_, course.upgraded_again site describedWell⟩
  · intro taken component member
    have covered : (course.surveyed site app).Covers component := by
      rw [surveyed, if_pos taken]
      exact Application.covers_registerAll app _ component member
    exact covered.grows (described.trans upgraded)
  · intro taken content read
    have held := Content.held_install (descriptorContent?_regular read)
      (course.surveyed site app)
    rw [← installAt_of_some read] at held
    refine (held.grows (evolves_installAt site.loader deploymentFragment _).grows).grows ?_
    rw [← described_of_stage taken]
    exact upgraded
  · intro taken content read
    have held := Content.held_install (descriptorContent?_regular read)
      (installAt site.loader deploymentDescriptor (course.surveyed site app))
    rw [← installAt_of_some read, ← described_of_stage taken] at held
    exact held.grows upgraded
  · intro taken content read part partMember mapping member
    have regular := descriptorContent?_regular read
    have installed : (content.install (installAt site.loader deploymentDescriptor
        (course.surveyed site app))).Grows (course.effect site app) := by
      rw [← installAt_of_some read, ← described_of_stage taken]
      exact upgraded
    refine Content.inEffect_of_install regular descriptorWell finalWell.keyed installed partMember
      member fun _ className inFinal => ?_
    -- only the descriptors declare names, and the fragment is the last of them
    rw [effect, course.declares_upgraded site describedWell.keyed, described_of_stage taken,
      installAt_of_some read, Content.declares_install regular] at inFinal
    exact (Content.declares_declare content _ className mapping.name).mpr inFinal

theorem surveyed_of_settled {course : Course} {site : Site} {app : Application}
    (settled : course.Settled site app) : course.surveyed site app = app := by
  unfold surveyed
  split
  · rename_i taken
    exact Application.registerAll_eq_self (settled.deployed taken)
      (noActions_deployed site.classes)
  · rfl

theorem installAt_eq_self {loader : Loader} {path : String} {app : Application}
    (held : ∀ content, descriptorContent? loader path = some content → content.Held app)
    (inEffect : ∀ content, descriptorContent? loader path = some content → content.InEffect app) :
    installAt loader path app = app := by
  cases read : descriptorContent? loader path with
  | none => rw [installAt, read]
  | some content =>
      rw [installAt_of_some read]
      exact Content.install_eq_self (descriptorContent?_regular read) (held content read)
        (inEffect content read)

/-- A run changes nothing that is settled if the mappings of the descriptor are in effect. -/
theorem effect_of_settled {course : Course} {site : Site} {app : Application}
    (settled : course.Settled site app)
    (inEffect : course.descriptorStage = true → ∀ content,
      descriptorContent? site.loader deploymentDescriptor = some content →
        content.InEffect app) : course.effect site app = app := by
  have described : course.described site app = app := by
    unfold described
    split
    · rename_i taken
      rw [installAt_eq_self (settled.descriptor taken) (inEffect taken),
        installAt_eq_self (settled.fragmentHeld taken) (settled.fragmentInEffect taken)]
    · rfl
  rw [effect, surveyed_of_settled settled, described, settled.actions]

/-! ## What a second run puts into effect -/

/-- What is installed by the descriptor is kept to the end of a run. -/
theorem install_grows_effect {course : Course} {site : Site} (taken : course.descriptorStage = true)
    {content : Content}
    (read : descriptorContent? site.loader deploymentDescriptor = some content)
    (app : Application) :
    (content.install (course.surveyed site app)).Grows (course.effect site app) := by
  rw [← installAt_of_some read, effect, described_of_stage taken]
  exact (evolves_installAt site.loader deploymentFragment _).grows.trans
    (course.grows_upgraded site _)

/-- A mapping of the descriptor is in effect after a run, unless its section does not declare its
name and classes were declared under the name only by the fragment. -/
theorem inEffect_effect {course : Course} {site : Site} {app : Application}
    (wellFormed : app.WellFormed) (taken : course.descriptorStage = true) {content : Content}
    (read : descriptorContent? site.loader deploymentDescriptor = some content)
    {part : MappingSection} (partMember : part ∈ content.sections) {mapping : Mapping}
    (member : mapping ∈ part.mappings)
    (known : (declarationsOf part.declared).class? mapping.name = none → ∀ fragment,
      descriptorContent? site.loader deploymentFragment = some fragment → ∀ className,
        fragment.Declares className mapping.name →
          (content.declare (course.surveyed site app)).Declares className mapping.name) :
    mapping.InEffect part.declared (course.effect site app) := by
  have regular := descriptorContent?_regular read
  have surveyedWell := (course.evolves_surveyed site app).wellFormed wellFormed
  have describedWell := (course.evolves_described site (course.surveyed site app)).wellFormed
    surveyedWell
  have finalWell := course.wellFormed_effect site wellFormed
  refine Content.inEffect_of_install regular surveyedWell finalWell.keyed
    (install_grows_effect taken read app) partMember member
    fun undeclared className inFinal => ?_
  have inDescriptor : (content.install (course.surveyed site app)).Declares className mapping.name →
      (content.declare (course.surveyed site app)).Declares className mapping.name := by
    rw [Content.declares_install regular, Content.declares_declare]
    exact id
  rw [effect, course.declares_upgraded site describedWell.keyed, described_of_stage taken,
    installAt_of_some read] at inFinal
  cases fragmentRead : descriptorContent? site.loader deploymentFragment with
  | none =>
      rw [installAt, fragmentRead] at inFinal
      exact inDescriptor inFinal
  | some fragment =>
      rw [installAt_of_some fragmentRead,
        Content.declares_install (descriptorContent?_regular fragmentRead)] at inFinal
      rcases inFinal with before | declared
      · exact inDescriptor before
      · exact known undeclared fragment fragmentRead className declared

/-- A run over a settled application puts all mappings of the descriptor into effect. -/
theorem inEffect_effect_of_settled {course : Course} {site : Site} {app : Application}
    (settled : course.Settled site app) (taken : course.descriptorStage = true)
    {content : Content}
    (read : descriptorContent? site.loader deploymentDescriptor = some content) :
    content.InEffect (course.effect site app) := by
  intro part partMember mapping member
  refine inEffect_effect settled.wellFormed taken read partMember member
    fun _ fragment fragmentRead className declared => ?_
  rw [surveyed_of_settled settled]
  have onRecord := (settled.fragmentHeld taken fragment fragmentRead).declares declared
  exact (Content.declares_declare content app className mapping.name).mpr (Or.inl onRecord)

/-! ## Runs from nothing -/

theorem allUpgrades_empty (site : Site) : allUpgrades site {} = [] := by
  rw [allUpgrades_eq, Application.componentList_eq]
  rfl

/-- Without the detector of servlets nothing is found. -/
theorem effect_empty {course : Course} (noSources : course.sourceStage = false)
    (noDescriptors : course.descriptorStage = false) (site : Site) : course.effect site {} = {} := by
  rw [effect, surveyed, described, upgraded, noSources, noDescriptors]
  simp only [Bool.false_eq_true, if_false, allUpgrades_empty]
  split <;> rfl

theorem inEffect_empty (declared : List NamedComponent) (mapping : Mapping) :
    mapping.InEffect declared {} := by
  intro className target
  have nothing : ({} : Application).componentList = [] := by
    rw [Application.componentList_eq]
    rfl
  have missing : Deployment.mappingTarget? {} (declarationsOf declared) mapping.name = none := by
    unfold Deployment.mappingTarget?
    split
    · rw [Application.component?_empty]
      rfl
    · rw [Application.named?, nothing]
      rfl
  rw [missing] at target
  cases target

/-- A descriptor that can be read is taken, unless the detector of servlets was not selected. -/
theorem effect_empty_of_untaken {names : List String} {strict : Bool} {site : Site}
    {content : Content}
    (read : descriptorContent? site.loader deploymentDescriptor = some content)
    (untaken : (ofSelection names strict site.loader).descriptorStage = false) :
    (ofSelection names strict site.loader).effect site {} = {} := by
  have present := hasResource_of_content read
  have unselected : names.contains "servlet" = false := by
    rw [ofSelection, present, Bool.and_true] at untaken
    exact untaken
  refine effect_empty ?_ untaken site
  rw [ofSelection, unselected, Bool.false_and]

end Course

namespace Registry

open Course

/-- From nothing, a second run changes an application exactly when a mapping of the descriptor is not
in effect after the first run.  Such a mapping has a name that the descriptor does not declare in
the mapping's section and that the fragment declares; and a third run changes nothing. -/
theorem run_again_eq_iff {names : List String} {registry : Registry}
    (selected : builtin.select names = .ok registry) (strict : Bool) (site : Site) :
    ((registry.run strict site (registry.run strict site {})).app =
        (registry.run strict site {}).app ↔
      ∀ content, descriptorContent? site.loader deploymentDescriptor = some content →
        content.InEffect (registry.run strict site {}).app) ∧
    (∀ content, descriptorContent? site.loader deploymentDescriptor = some content →
      ∀ part ∈ content.sections, ∀ mapping ∈ part.mappings,
        ¬ mapping.InEffect part.declared (registry.run strict site {}).app →
          (∀ entry ∈ part.declared, entry.name ≠ mapping.name) ∧
          ∃ fragment, descriptorContent? site.loader deploymentFragment = some fragment ∧
            ∃ entry ∈ fragment.servlets ++ fragment.filters, entry.name = mapping.name) ∧
    (registry.run strict site (registry.run strict site (registry.run strict site {}))).app =
      (registry.run strict site (registry.run strict site {})).app := by
  let course := ofSelection names strict site.loader
  have runs : ∀ survey : Survey, survey.app.WellFormed →
      (registry.run strict site survey).app = course.effect site survey.app :=
    fun survey wellFormed => run_app selected strict site survey wellFormed
  have first := runs {} Application.wellFormed_empty
  have settled := course.settled_effect site Application.wellFormed_empty
  have second := runs (registry.run strict site {}) (by
    rw [first]
    exact settled.wellFormed)
  rw [first] at second
  have settledTwice := course.settled_effect site settled.wellFormed
  have third := runs (registry.run strict site (registry.run strict site {})) (by
    rw [second]
    exact settledTwice.wellFormed)
  rw [second] at third
  -- with each run as the effect of its course only settled applications are left to compare
  rw [third, second, first]
  have inEffectOfUntaken : ∀ content,
      descriptorContent? site.loader deploymentDescriptor = some content →
        course.descriptorStage = false → content.InEffect (course.effect site {}) := by
    intro content read untaken part _ mapping _
    rw [effect_empty_of_untaken read untaken]
    exact inEffect_empty part.declared mapping
  refine ⟨⟨fun same content read => ?_, fun inEffect => ?_⟩, ?_, ?_⟩
  · cases taken : course.descriptorStage with
    | true =>
        rw [← same]
        exact inEffect_effect_of_settled settled taken read
    | false => exact inEffectOfUntaken content read taken
  · exact effect_of_settled settled fun _ => inEffect
  · intro content read part partMember mapping member idle
    cases taken : course.descriptorStage with
    | false => exact absurd (inEffectOfUntaken content read taken part partMember mapping member) idle
    | true =>
        refine Classical.byContradiction fun unlike => idle ?_
        refine inEffect_effect Application.wellFormed_empty taken read partMember member
          fun undeclared fragment fragmentRead className declared => ?_
        have byName := declared.named (descriptorContent?_regular fragmentRead)
        exact absurd ⟨class?_none undeclared, fragment, fragmentRead, byName⟩ unlike
  · exact effect_of_settled settledTwice fun taken content read =>
      inEffect_effect_of_settled settled taken read

def forwardReference : Site :=
  Site.ofTexts
    [("app/WEB-INF/web.xml",
      "<web-app><servlet-mapping><servlet-name>n</servlet-name>" ++
        "<url-pattern>/p</url-pattern></servlet-mapping></web-app>"),
      ("app/META-INF/web-fragment.xml",
        "<web-fragment><servlet><servlet-name>n</servlet-name>" ++
          "<servlet-class>C</servlet-class></servlet></web-fragment>")]

/-- The mapping is skipped in the first run and taken in the second. -/
theorem run_again_adds_forward_reference :
    builtin.select ["servlet", "struts"] = .ok builtin ∧
      (builtin.run false forwardReference (builtin.run false forwardReference {})).app ≠
        (builtin.run false forwardReference {}).app ∧
      ¬ ∀ content,
        descriptorContent? forwardReference.loader deploymentDescriptor = some content →
          content.InEffect (builtin.run false forwardReference {}).app := by
  have selected : builtin.select ["servlet", "struts"] = .ok builtin := rfl
  have changed : (builtin.run false forwardReference (builtin.run false forwardReference {})).app ≠
      (builtin.run false forwardReference {}).app := by decide +kernel
  exact ⟨selected, changed, fun inEffect =>
    changed ((run_again_eq_iff selected false forwardReference).1.mpr inEffect)⟩

end Registry

end ContainerReplay
