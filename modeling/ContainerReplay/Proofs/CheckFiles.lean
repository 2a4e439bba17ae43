import ContainerReplay.Detection.Chain
import ContainerReplay.Proofs.EarlierRemarks
import Mathlib.Data.List.Forall2

/-!
# Detectors without their check files

Which detectors have a check file is settled before any pass, whatever the passes then do.  A run is
the notes about the detectors that have none, followed by the passes of the others; only without
strictness the source passes of all detectors take place.
-/

set_option autoImplicit false

namespace ContainerReplay

/-! ## Passes in sequence -/

/-- Passes one after another, each from what the one before has left.  After a pass that fails there is
one diagnostic more than it recorded itself, at the severity of its error. -/
inductive Performs (site : Site) : List Pass → Survey → Survey → Prop where
  | done (survey : Survey) : Performs site [] survey survey
  | passed {pass : Pass} {passes : List Pass} {survey left final : Survey}
      (result : pass site survey = ⟨left, none⟩) (rest : Performs site passes left final) :
      Performs site (pass :: passes) survey final
  | failed {pass : Pass} {passes : List Pass} {survey left final : Survey} {error : DetectionError}
      (result : pass site survey = ⟨left, some error⟩)
      (rest : Performs site passes
        ⟨left.app, left.diagnostics ++ [⟨error.severity, error.message, error.resource?⟩]⟩ final) :
      Performs site (pass :: passes) survey final

namespace Performs

variable {site : Site}

theorem of_pass {pass : Pass} {passes : List Pass} {survey final : Survey}
    (rest : Performs site passes (pass site survey).reported final) :
    Performs site (pass :: passes) survey final := by
  rcases result : pass site survey with ⟨left, none | error⟩
  · rw [result] at rest
    exact .passed result rest
  · rw [result] at rest
    exact .failed result rest

theorem append {first second : List Pass} {survey middle final : Survey}
    (earlier : Performs site first survey middle) (later : Performs site second middle final) :
    Performs site (first ++ second) survey final := by
  induction earlier with
  | done survey => exact later
  | passed result _ ih => exact .passed result (ih later)
  | failed result _ ih => exact .failed result (ih later)

/-- What passes leave is determined. -/
theorem unique {passes : List Pass} {survey first second : Survey}
    (one : Performs site passes survey first) (other : Performs site passes survey second) :
    first = second := by
  induction one with
  | done survey =>
      cases other
      rfl
  | passed result _ ih =>
      cases other with
      | passed again rest =>
          cases result.symm.trans again
          exact ih rest
      | failed again _ => cases result.symm.trans again
  | failed result _ ih =>
      cases other with
      | passed again _ => cases result.symm.trans again
      | failed again rest =>
          cases result.symm.trans again
          exact ih rest

theorem foldl (pass : Detector → Pass) (detectors : List Detector) (survey : Survey) :
    Performs site (detectors.map pass) survey
      (detectors.foldl (fun survey detector => (pass detector site survey).reported) survey) := by
  induction detectors generalizing survey with
  | nil => exact .done survey
  | cons detector rest ih => exact .of_pass (ih _)

end Performs

namespace Registry

/-! ## A run as a sequence of passes -/

/-- The survey with the notes about the detectors that are not enabled. -/
def noted (registry : Registry) (site : Site) (survey : Survey) : Survey :=
  { survey with diagnostics := survey.diagnostics ++ registry.skipNotes site.loader }

theorem run_eq (registry : Registry) (strict : Bool) (site : Site) (survey : Survey) :
    registry.run strict site survey =
      (registry.enabled site.loader).runConfigs site
        ((if strict then registry.enabled site.loader else registry).runSources site
          (registry.noted site survey)) := rfl

theorem performs_run (registry : Registry) (strict : Bool) (site : Site) (survey : Survey) :
    Performs site
      ((if strict then registry.enabled site.loader else registry).detectors.map Detector.source ++
        (registry.enabled site.loader).detectors.map Detector.config)
      (registry.noted site survey) (registry.run strict site survey) :=
  (Performs.foldl Detector.source _ _).append (Performs.foldl Detector.config _ _)

/-- The detectors with their flags, and the pass of those whose flag lets it go. -/
def runFlagged (pass : Detector → Pass) (goes : Bool → Bool) (site : Site)
    (flagged : List (Detector × Bool)) (survey : Survey) : Survey :=
  flagged.foldl
    (fun survey entry => if goes entry.2 then (pass entry.1 site survey).reported else survey)
    survey

theorem runFlagged_zip (pass : Detector → Pass) (goes : Bool → Bool) (site : Site)
    (flag : Detector → Bool) (detectors : List Detector) (survey : Survey) :
    runFlagged pass goes site (detectors.zip (detectors.map flag)) survey =
      (detectors.filter fun detector => goes (flag detector)).foldl
        (fun survey detector => (pass detector site survey).reported) survey := by
  induction detectors generalizing survey with
  | nil => rfl
  | cons detector rest ih =>
      rw [List.map_cons, List.zip_cons_cons, runFlagged, List.foldl_cons, ← runFlagged, ih,
        List.filter_cons]
      cases goes (flag detector) <;> rfl

/-- A run by flags that are settled before any pass: both loops go through all detectors. -/
theorem run_eq_flagged (registry : Registry) (strict : Bool) (site : Site) (survey : Survey) :
    registry.run strict site survey =
      let flagged := registry.detectors.zip
        (registry.detectors.map fun detector => detector.isEnabled site.loader)
      runFlagged Detector.config id site flagged
        (runFlagged Detector.source (fun flag => flag || !strict) site flagged
          (registry.noted site survey)) := by
  have all : registry.detectors.filter (fun _ => true) = registry.detectors :=
    List.filter_eq_self.mpr fun _ _ => rfl
  simp only [runFlagged_zip]
  rw [run_eq, runConfigs, runSources, enabled]
  cases strict with
  | true => simp only [id, Bool.not_true, Bool.or_false, if_true]
  | false => simp only [id, Bool.not_false, Bool.or_true, all, Bool.false_eq_true, if_false]

/-! ## Enabled detectors alone -/

@[simp] theorem enabled_enabled (registry : Registry) (loader : Loader) :
    (registry.enabled loader).enabled loader = registry.enabled loader := by
  simp [enabled]

@[simp] theorem skipNotes_enabled (registry : Registry) (loader : Loader) :
    (registry.enabled loader).skipNotes loader = [] := by
  simp [enabled, skipNotes]

/-- Among enabled detectors there is nothing to note, and strictness makes no difference. -/
theorem run_strict (registry : Registry) (site : Site) (survey : Survey) (strict : Bool) :
    registry.run true site survey =
      (registry.enabled site.loader).run strict site (registry.noted site survey) := by
  simp only [run_eq, enabled_enabled, noted, skipNotes_enabled, List.append_nil, ite_self, if_true]

theorem foldl_after {site : Site} {pass : Detector → Pass} {detectors : List Detector}
    (onlyAdd : ∀ detector ∈ detectors, (pass detector).OnlyAdds) (remarks : List Diagnostic)
    (survey : Survey) :
    detectors.foldl (fun survey detector => (pass detector site survey).reported)
        (survey.after remarks) =
      (detectors.foldl (fun survey detector => (pass detector site survey).reported)
        survey).after remarks := by
  induction detectors generalizing survey with
  | nil => rfl
  | cons detector rest ih =>
      rw [List.foldl_cons, List.foldl_cons, onlyAdd detector List.mem_cons_self,
        PassResult.after_reported]
      exact ih (fun other member => onlyAdd other (List.mem_cons_of_mem detector member)) _

/-- A run of detectors that only add remarks is the same after any remarks. -/
theorem run_after {registry : Registry}
    (onlyAdd : ∀ detector ∈ registry.detectors, detector.OnlyAdds) (strict : Bool) (site : Site)
    (remarks : List Diagnostic) (survey : Survey) :
    registry.run strict site (survey.after remarks) =
      (registry.run strict site survey).after remarks := by
  have active : ∀ detector ∈ (registry.enabled site.loader).detectors, detector.OnlyAdds :=
    fun detector member => onlyAdd detector (List.mem_filter.mp member).1
  have sources : ∀ detector ∈ (if strict then registry.enabled site.loader else
      registry).detectors, detector.source.OnlyAdds := by
    intro detector member
    cases strict with
    | true => exact (active detector member).1
    | false => exact (onlyAdd detector member).1
  have noted : registry.noted site (survey.after remarks) =
      (registry.noted site survey).after remarks := by
    simp [Registry.noted, Survey.after]
  rw [run_eq, run_eq, noted, runSources, foldl_after sources, ← runSources, runConfigs,
    foldl_after fun detector member => (active detector member).2, ← runConfigs]

/-! ## What check files decide -/

theorem enabled_detectors (registry : Registry) (loader : Loader) :
    (registry.enabled loader).detectors = registry.detectors.filter fun detector =>
      detector.checkFiles = [] ∨ ∃ file ∈ detector.checkFiles, loader.hasResource file = true := by
  refine List.filter_congr fun detector _ => ?_
  rw [Bool.eq_iff_iff]
  simp [Detector.isEnabled]

/-- A site with a servlet class and without any file. -/
def undescribedServlet : Site :=
  ⟨.ofList [{ name := "a.Home", superClass := some "javax.servlet.GenericServlet" }],
    .classpath []⟩

/-- A detector that deploys a class as long as nothing has been remarked. -/
def unremarkedDetector : Detector where
  name := "unremarked"
  extensions := [.servlet]
  checkFiles := []
  templates := []
  source := fun _ survey =>
    match survey.diagnostics with
    | [] => ⟨survey.register { className := "a.Late", kind := .servlet }, none⟩
    | _ :: _ => ⟨survey, none⟩
  config := fun _ survey => ⟨survey, none⟩

def besideUnremarked : Registry :=
  ⟨[Detection.servlets, unremarkedDetector]⟩

/-- The notes are on record before any pass, and a pass may look at them.  With a detector that does, a
strict run is not the run of the enabled detectors alone. -/
theorem notes_are_seen :
    (besideUnremarked.enabled undescribedServlet.loader).names = ["unremarked"] ∧
      (besideUnremarked.run true undescribedServlet {}).app.classNames = [] ∧
      ((besideUnremarked.enabled undescribedServlet.loader).run true
        undescribedServlet {}).app.classNames = ["a.Late"] ∧
      ¬ ∀ (registry : Registry) (site : Site) (app : Application),
        (registry.run true site ⟨app, []⟩).app =
            ((registry.enabled site.loader).run true site ⟨app, []⟩).app ∧
          (registry.run true site ⟨app, []⟩).diagnostics = registry.skipNotes site.loader ++
            ((registry.enabled site.loader).run true site ⟨app, []⟩).diagnostics := by
  have together : (besideUnremarked.run true undescribedServlet {}).app.classNames = [] := by
    decide +kernel
  have alone : ((besideUnremarked.enabled undescribedServlet.loader).run true
      undescribedServlet {}).app.classNames = ["a.Late"] := by
    decide +kernel
  refine ⟨by decide +kernel, together, alone, fun same => ?_⟩
  have equal := congrArg Application.classNames (same besideUnremarked undescribedServlet {}).1
  have empty : [] = ["a.Late"] := together.symm.trans (equal.trans alone)
  cases empty

/-- In strict mode a run is the notes about the detectors without a check file and then the run of the
others, which start with the notes on record.  If the others neither look at the remarks before them
nor take any away, as the built-in detectors, their run is the same without the notes.  Without
strictness the notes are followed by the source passes of all and the configuration passes of the
others. -/
theorem check_files_decide (registry : Registry) (site : Site) (survey : Survey) :
    let active := registry.enabled site.loader
    let notes := registry.skipNotes site.loader
    let noted : Survey := ⟨survey.app, survey.diagnostics ++ notes⟩
    (active.detectors = registry.detectors.filter fun detector =>
        detector.checkFiles = [] ∨
          ∃ file ∈ detector.checkFiles, site.loader.hasResource file = true) ∧
      List.Forall₂ (fun detector note => note = detector.skipNote ∧ note.severity = .info)
        (registry.detectors.filter fun detector => !detector.isEnabled site.loader) notes ∧
      (∀ strict, registry.run true site survey = active.run strict site noted) ∧
      ((∀ detector ∈ active.detectors, detector.OnlyAdds) → ∀ strict,
        (registry.run true site survey).app = (active.run strict site ⟨survey.app, []⟩).app ∧
        (registry.run true site survey).diagnostics = survey.diagnostics ++ notes ++
          (active.run strict site ⟨survey.app, []⟩).diagnostics) ∧
      (∀ final, final = registry.run true site survey ↔ Performs site
        (active.detectors.map Detector.source ++ active.detectors.map Detector.config) noted
        final) ∧
      (∀ final, final = registry.run false site survey ↔ Performs site
        (registry.detectors.map Detector.source ++ active.detectors.map Detector.config) noted
        final) := by
  intro active notes noted
  have only : ∀ strict final, final = registry.run strict site survey ↔ Performs site
      ((if strict then active else registry).detectors.map Detector.source ++
        active.detectors.map Detector.config) noted final := by
    intro strict final
    constructor
    · rintro rfl
      exact registry.performs_run strict site survey
    · intro performed
      exact performed.unique (registry.performs_run strict site survey)
  refine ⟨registry.enabled_detectors site.loader, ?_, registry.run_strict site survey, ?_,
    only true, only false⟩
  · refine List.forall₂_map_right_iff.mpr (List.forall₂_same.mpr fun detector _ => ⟨rfl, rfl⟩)
  · intro onlyAdd strict
    have apart : noted = (⟨survey.app, []⟩ : Survey).after (survey.diagnostics ++ notes) := by
      simp [noted, Survey.after]
    have alone : registry.run true site survey =
        (active.run strict site ⟨survey.app, []⟩).after (survey.diagnostics ++ notes) := by
      rw [registry.run_strict site survey strict, ← run_after onlyAdd, ← apart]
      rfl
    rw [alone]
    exact ⟨rfl, rfl⟩

/-- Strictness keeps the class from being deployed. -/
theorem check_files_decide_for_undescribed :
    (∀ detector ∈ (builtin.enabled undescribedServlet.loader).detectors, detector.OnlyAdds) ∧
      (builtin.run true undescribedServlet {}).diagnostics =
        [Detection.servlets.skipNote] ++
          ((builtin.enabled undescribedServlet.loader).run true undescribedServlet {}).diagnostics ∧
      (builtin.run true undescribedServlet {}).app.classNames = [] ∧
      (builtin.run false undescribedServlet {}).app.classNames = ["a.Home"] ∧
      besideUnremarked.run true undescribedServlet {} =
        (besideUnremarked.enabled undescribedServlet.loader).run true undescribedServlet
          ⟨{}, [Detection.servlets.skipNote]⟩ := by
  have onlyAdd : ∀ detector ∈ (builtin.enabled undescribedServlet.loader).detectors,
      detector.OnlyAdds := fun detector member =>
    builtin_onlyAdds detector (List.mem_filter.mp member).1
  have together := (check_files_decide builtin undescribedServlet {}).2.2.2.1 onlyAdd true
  have looking := (check_files_decide besideUnremarked undescribedServlet {}).2.2.1 true
  refine ⟨onlyAdd, together.2, ?_, ?_, looking⟩
  · decide +kernel
  · decide +kernel

end Registry

end ContainerReplay
