import ContainerReplay.Files.Tree
import ContainerReplay.Proofs.ActionUpgrades

/-!
# The stages of a run

What a run of selected built-in detectors does to an application is the composition of three stages:
classes that the container deploys by their signatures, deployment descriptors, and action
configurations.
-/

set_option autoImplicit false

namespace ContainerReplay

open Detection Descriptor

/-- A site without classes whose files hold texts. -/
def Site.ofTexts (files : List (String × String)) : Site :=
  let tree := files.foldl (fun (tree : FileTree) file => tree.add file.1 file.2.toUTF8) ⟨"app", []⟩
  ⟨.empty, .directory tree.file? "app" none⟩

/-- Which stages of a run take place. -/
structure Course where
  sourceStage : Bool
  descriptorStage : Bool
  actionStage : Bool

namespace Course

def surveyed (course : Course) (site : Site) (app : Application) : Application :=
  if course.sourceStage then app.registerAll (deployedComponents site.classes) else app

def described (course : Course) (site : Site) (app : Application) : Application :=
  if course.descriptorStage then
    installAt site.loader deploymentFragment (installAt site.loader deploymentDescriptor app)
  else app

def upgraded (course : Course) (site : Site) (app : Application) : Application :=
  if course.actionStage then app.registerAll (allUpgrades site app) else app

def effect (course : Course) (site : Site) (app : Application) : Application :=
  course.upgraded site (course.described site (course.surveyed site app))

/-- The stages that a selection of the built-in detectors takes over the files of a loader. -/
def ofSelection (names : List String) (strict : Bool) (loader : Loader) : Course where
  sourceStage := names.contains "servlet" && (!strict || loader.hasResource deploymentDescriptor)
  descriptorStage := names.contains "servlet" && loader.hasResource deploymentDescriptor
  actionStage := names.contains "struts"

theorem evolves_surveyed (course : Course) (site : Site) (app : Application) :
    app.Evolves (course.surveyed site app) := by
  unfold surveyed
  split
  · exact evolves_registerBare (noActions_deployed site.classes) app
  · exact Application.Evolves.refl app

theorem evolves_described (course : Course) (site : Site) (app : Application) :
    app.Evolves (course.described site app) := by
  unfold described
  split
  · exact (evolves_installAt _ _ app).trans (evolves_installAt _ _ _)
  · exact Application.Evolves.refl app

theorem grows_upgraded (course : Course) (site : Site) (app : Application) :
    app.Grows (course.upgraded site app) := by
  unfold upgraded
  split
  · exact Application.grows_registerAll app _
  · exact Application.Grows.refl app

theorem wellFormed_upgraded (course : Course) (site : Site) {app : Application}
    (wellFormed : app.WellFormed) : (course.upgraded site app).WellFormed := by
  unfold upgraded
  split
  · refine (Application.evolves_registerAll _ (fun upgrade member => ?_) app).wellFormed wellFormed
    exact (isUpgrade_of_mem wellFormed.keyed upgrade member).distinctPaths
  · exact wellFormed

theorem wellFormed_effect (course : Course) (site : Site) {app : Application}
    (wellFormed : app.WellFormed) : (course.effect site app).WellFormed :=
  course.wellFormed_upgraded site ((course.evolves_described site _).wellFormed
    ((course.evolves_surveyed site app).wellFormed wellFormed))

theorem declares_upgraded (course : Course) (site : Site) {app : Application}
    (keyed : app.Keyed) (className name : String) :
    (course.upgraded site app).Declares className name ↔ app.Declares className name := by
  unfold upgraded
  split
  · exact Application.declares_registerAll_nameless app
      (fun upgrade member => (isUpgrade_of_mem keyed upgrade member).names) className name
  · rfl

end Course

/-! ## A run is its stages -/

namespace Registry

/-- The built-in detectors that are kept, in their order. -/
def picked (keep : Detector → Bool) : Registry :=
  ⟨builtin.detectors.filter keep⟩

theorem select_eq_picked {names : List String} {registry : Registry}
    (selected : builtin.select names = .ok registry) :
    registry = picked fun detector => names.contains detector.name := by
  unfold select at selected
  split at selected
  · cases selected
  · exact (Except.ok.inj selected).symm

theorem enabled_picked (keep : Detector → Bool) (loader : Loader) :
    (picked keep).enabled loader =
      picked fun detector => detector.isEnabled loader && keep detector := by
  rw [picked, enabled, List.filter_filter]
  rfl

theorem picked_detectors (keep : Detector → Bool) :
    (picked keep).detectors =
      (if keep servlets then [servlets] else []) ++ (if keep actions then [actions] else []) := by
  rw [picked, builtin_detectors, List.filter_cons, List.filter_cons, List.filter_nil]
  cases keep servlets <;> cases keep actions <;> rfl

theorem runSources_app (keep : Detector → Bool) (site : Site) (survey : Survey)
    (course : Course) (sources : course.sourceStage = keep servlets) :
    ((picked keep).runSources site survey).app = course.surveyed site survey.app := by
  rw [runSources, picked_detectors, Course.surveyed, sources]
  cases keep servlets <;> cases keep actions
  · rfl
  · exact actionSource_app site survey
  · exact servletSource_app site survey
  · exact (actionSource_app site _).trans (servletSource_app site survey)

theorem runConfigs_app (keep : Detector → Bool) (site : Site) (survey : Survey)
    (wellFormed : survey.app.WellFormed) (course : Course)
    (descriptors : course.descriptorStage = keep servlets)
    (acts : course.actionStage = keep actions) :
    ((picked keep).runConfigs site survey).app =
      course.upgraded site (course.described site survey.app) := by
  rw [runConfigs, picked_detectors, Course.upgraded, Course.described, descriptors, acts]
  have described := servletConfig_app site survey
  have stillKeyed := ((evolves_servletConfig site survey).wellFormed wellFormed).keyed
  cases keep servlets <;> cases keep actions
  · rfl
  · exact actionConfig_app site survey wellFormed.keyed
  · exact described
  · -- the owners are looked for in what the descriptors have left
    have acted := actionConfig_app site (servletConfig site survey).reported stillKeyed
    rw [described] at acted
    exact acted

theorem run_app {names : List String} {registry : Registry}
    (selected : builtin.select names = .ok registry) (strict : Bool) (site : Site)
    (survey : Survey) (wellFormed : survey.app.WellFormed) :
    (registry.run strict site survey).app =
      (Course.ofSelection names strict site.loader).effect site survey.app := by
  rw [select_eq_picked selected]
  let keep : Detector → Bool := fun detector => names.contains detector.name
  let course := Course.ofSelection names strict site.loader
  let noted : Survey :=
    { survey with diagnostics := survey.diagnostics ++ (picked keep).skipNotes site.loader }
  have servletsEnabled : servlets.isEnabled site.loader =
      site.loader.hasResource deploymentDescriptor := by
    simp [Detector.isEnabled, servlets]
  have sources :
      ((if strict then (picked keep).enabled site.loader else picked keep).runSources
        site noted).app = course.surveyed site survey.app := by
    cases strict with
    | true =>
        rw [if_pos rfl, enabled_picked]
        refine runSources_app _ site noted course ?_
        rw [servletsEnabled, Bool.and_comm]
        rfl
    | false =>
        refine runSources_app keep site noted course ?_
        exact Bool.and_true _
  have configs := runConfigs_app
    (fun detector => detector.isEnabled site.loader && keep detector) site
    ((if strict then (picked keep).enabled site.loader else picked keep).runSources site noted)
    (by
      rw [sources]
      exact (course.evolves_surveyed site survey.app).wellFormed wellFormed)
    course (by
      rw [servletsEnabled, Bool.and_comm]
      rfl) rfl
  rw [sources, ← enabled_picked] at configs
  exact configs

end Registry

end ContainerReplay
