import ContainerReplay.Survey

/-!
# Detectors

A detector recognizes one family of components in two passes: one over class signatures and one over
descriptors.  A pass may add to the survey and fail all the same.
-/

set_option autoImplicit false

namespace ContainerReplay

/-- What a pass leaves behind. -/
structure PassResult where
  survey : Survey
  failure : Option DetectionError := none
  deriving DecidableEq

abbrev Pass := Site → Survey → PassResult

/-- One family of components: how it is recognized and what it contributes. -/
structure Detector where
  name : String
  /-- The kinds that the detector introduces. -/
  extensions : List Kind
  /-- Files of which one must be there; none means that the detector is always active. -/
  checkFiles : List String
  /-- The names of the templates that the detector contributes. -/
  templates : List String
  source : Pass
  config : Pass

namespace PassResult

def reported (result : PassResult) : Survey :=
  match result.failure with
  | none => result.survey
  | some error => result.survey.report error

end PassResult

end ContainerReplay
