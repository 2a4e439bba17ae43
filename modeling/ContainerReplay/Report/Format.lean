import ContainerReplay.EntryPoint
import ContainerReplay.Interchange.Writing
import ContainerReplay.Yaml.Writer

/-!
# Reports

An entry point or a list of detectors as text for people, as a JSON document or as a YAML document.
The text of an entry point is the listing of its driver; the documents also hold a summary of the
components and all diagnostics.
-/

set_option autoImplicit false

namespace ContainerReplay

inductive ReportFormat where
  | text
  | json
  | yaml
  deriving Repr, DecidableEq

namespace ReportFormat

def all : List ReportFormat := [text, json, yaml]

def key : ReportFormat → String
  | text => "text"
  | json => "json"
  | yaml => "yaml"

def ofText? (name : String) : Option ReportFormat :=
  all.find? fun format => format.key == name

def write (format : ReportFormat) (listing : String) (data : Json) : String :=
  match format with
  | text => listing
  | json => data.pretty
  | yaml => Yaml.document data

end ReportFormat

def Component.summary (component : Component) : Json :=
  .object
    ([("class_name", .text component.className), ("kind", component.kind.toJson)] ++
      Json.nonemptyField "names" (component.names.toList.map .text) ++
      Json.nonemptyField "url_patterns" (component.urlPatterns.toList.map .text) ++
      Json.optionalField "load_on_startup" .integer component.loadOnStartup ++
      Json.nonemptyField "action_mappings" (component.actionMappings.map ActionMapping.toJson))

namespace EntryPoint

def toJson (entry : EntryPoint) : Json :=
  .object
    (Json.optionalField "display_name" .text entry.app.displayName ++
      [("components", .array (entry.app.componentList.map Component.summary)),
        ("driver", entry.driver.toJson),
        ("diagnostics", .array (entry.diagnostics.map Diagnostic.toJson))])

def report (entry : EntryPoint) (format : ReportFormat) : String :=
  format.write entry.driver.written entry.toJson

end EntryPoint

structure DetectorInfo where
  name : String
  extensions : List Kind
  checkFiles : List String
  templates : List String
  deriving Repr, DecidableEq

def Detector.info (detector : Detector) : DetectorInfo :=
  ⟨detector.name, detector.extensions, detector.checkFiles, detector.templates⟩

namespace DetectorInfo

def toJson (info : DetectorInfo) : Json :=
  .object
    [("name", .text info.name), ("extensions", .array (info.extensions.map Kind.toJson)),
      ("check_files", Json.texts info.checkFiles), ("templates", Json.texts info.templates)]

def written (info : DetectorInfo) : String :=
  let kinds := ", ".intercalate (info.extensions.map Kind.name)
  let files := match info.checkFiles with
    | [] => ""
    | checkFiles => "  check files: " ++ ", ".intercalate checkFiles ++ "\n"
  let templates := ", ".intercalate info.templates
  info.name ++ "\n  kinds:       " ++ kinds ++ "\n" ++ files ++
    "  templates:   " ++ templates ++ "\n"

def report (infos : List DetectorInfo) (format : ReportFormat) : String :=
  format.write (String.join (infos.map written)) (.array (infos.map toJson))

end DetectorInfo

end ContainerReplay
