import ContainerReplay.Detection.Registry

/-!
# Running detectors

First the source passes of all detectors run in order, then the configuration passes.  A detector
none of whose check files is there has no configuration pass, and in strict mode no source pass.
-/

set_option autoImplicit false

namespace ContainerReplay

namespace Detector

def isEnabled (detector : Detector) (loader : Loader) : Bool :=
  detector.checkFiles.isEmpty || detector.checkFiles.any loader.hasResource

def skipNote (detector : Detector) : Diagnostic :=
  let files := ", ".intercalate detector.checkFiles
  ⟨.info, s!"Detector '{detector.name}' skipped: none of {files} found", none⟩

end Detector

namespace Registry

def enabled (registry : Registry) (loader : Loader) : Registry :=
  ⟨registry.detectors.filter fun detector => detector.isEnabled loader⟩

def skipNotes (registry : Registry) (loader : Loader) : List Diagnostic :=
  (registry.detectors.filter fun detector => !detector.isEnabled loader).map Detector.skipNote

def runSources (registry : Registry) (site : Site) (survey : Survey) : Survey :=
  registry.detectors.foldl (fun survey detector => (detector.source site survey).reported) survey

def runConfigs (registry : Registry) (site : Site) (survey : Survey) : Survey :=
  registry.detectors.foldl (fun survey detector => (detector.config site survey).reported) survey

/-- Both passes over an application that may already hold components. -/
def run (registry : Registry) (strict : Bool) (site : Site) (survey : Survey) : Survey :=
  let enabled := registry.enabled site.loader
  let noted := { survey with
    diagnostics := survey.diagnostics ++ registry.skipNotes site.loader }
  -- without strictness a missing check file stops only the configuration pass
  let sources := if strict then enabled else registry
  enabled.runConfigs site (sources.runSources site noted)

end Registry

end ContainerReplay
