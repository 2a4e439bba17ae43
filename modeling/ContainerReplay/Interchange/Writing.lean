import ContainerReplay.Application
import ContainerReplay.Classes.Index
import ContainerReplay.Descriptor.Reading
import ContainerReplay.Diagnostic
import ContainerReplay.Driver.Basic
import ContainerReplay.Json.Basic

/-!
# The data forms of the model

How the values of the model are written as objects.  Fields stand in a fixed order.  Absent values
and flags that are usually off are left out, except that a component and an application have all
their fields, with the word for none where a value is absent.
-/

set_option autoImplicit false

namespace ContainerReplay

def Kind.toJson (kind : Kind) : Json := .text kind.key

def Role.toJson (role : Role) : Json := .text role.key

def Severity.toJson (severity : Severity) : Json := .text severity.key

def Forward.toJson (forward : Forward) : Json :=
  .object
    [("name", .text forward.name), ("path", .text forward.path),
      ("redirect", .truth forward.redirect)]

def ActionMapping.toJson (mapping : ActionMapping) : Json :=
  .object
    ([("path", .text mapping.path), ("handler_class", .text mapping.handlerClass)] ++
      Json.optionalField "form_name" .text mapping.formName ++
      Json.optionalField "form_class" .text mapping.formClass ++
      Json.optionalField "scope" .text mapping.scope ++
      [("forwards", .array (mapping.forwards.map Forward.toJson))])

def InjectionTarget.toJson (target : InjectionTarget) : Json :=
  .object [("target_class", .text target.targetClass), ("target_name", .text target.targetName)]

def Injection.toJson (injection : Injection) : Json :=
  .object
    ([("resource_name", .text injection.resourceName)] ++
      Json.optionalField "resource_type" .text injection.resourceType ++
      [("target", injection.target.toJson)])

def pairToJson (entry : String × String) : Json :=
  .array [.text entry.1, .text entry.2]

def Component.toJson (component : Component) : Json :=
  .object
    [("class_name", .text component.className), ("kind", component.kind.toJson),
      ("names", Json.texts component.names.toList),
      ("parameters", .array (component.parameters.toList.map pairToJson)),
      ("url_patterns", Json.texts component.urlPatterns.toList),
      ("servlet_names", Json.texts component.servletNames.toList),
      ("load_on_startup", Json.orNull .integer component.loadOnStartup),
      ("action_mappings", .array (component.actionMappings.map ActionMapping.toJson))]

def MergeOutcome.toJson : MergeOutcome → Json
  | inserted => .text "inserted"
  | enriched => .text "enriched"
  | upgraded source target => .object [("upgraded", .array [source.toJson, target.toJson])]
  | conflict kept rejected => .object [("conflict", .array [kept.toJson, rejected.toJson])]

def Application.toJson (app : Application) : Json :=
  .object
    [("display_name", Json.orNull .text app.displayName),
      ("components", .array (app.componentList.map Component.toJson)),
      ("context_params", .array (app.contextParams.toList.map pairToJson)),
      ("injections", .array (app.injections.toList.map Injection.toJson))]

def ClassInfo.toJson (info : ClassInfo) : Json :=
  .object
    ([("name", .text info.name)] ++
      Json.optionalField "super_class" .text info.superClass ++
      [("interfaces", Json.texts info.interfaces), ("annotations", Json.texts info.annotations)] ++
      (if info.isAbstract then [("is_abstract", .truth true)] else []))

def ClassIndex.toJson (index : ClassIndex) : Json :=
  .array (index.toList.map ClassInfo.toJson)

def Diagnostic.toJson (diagnostic : Diagnostic) : Json :=
  .object
    ([("severity", diagnostic.severity.toJson), ("message", .text diagnostic.message)] ++
      Json.optionalField "resource" .text diagnostic.resource)

def Descriptor.ReadSummary.toJson (summary : Descriptor.ReadSummary) : Json :=
  .object [("entries", .integer summary.entries), ("skipped", .integer summary.skipped)]

def Value.toJson : Value → Json
  | localVar name => .object [("kind", .text "local"), ("value", .text name)]
  | text content => .object [("kind", .text "str"), ("value", .text content)]
  | integer number => .object [("kind", .text "int"), ("value", .integer number)]
  | truth value => .object [("kind", .text "bool"), ("value", .truth value)]
  | null => .object [("kind", .text "null")]
  | resource name => .object [("kind", .text "resource"), ("value", .text name)]

def Statement.toJson : Statement → Json
  | allocate target className =>
      .object [("op", .text "new"), ("local", .text target), ("class", .text className)]
  | invoke result receiver owner method arguments =>
      .object
        ([("op", .text "invoke")] ++ Json.optionalField "result" .text result ++
          [("receiver", .text receiver), ("class", .text owner), ("method", .text method),
            ("args", .array (arguments.map Value.toJson))])
  | store receiver field value =>
      .object
        [("op", .text "store"), ("receiver", .text receiver), ("field", .text field),
          ("value", value.toJson)]

def DriverUnit.toJson (unit : DriverUnit) : Json :=
  .object
    [("name", .text unit.name), ("role", unit.role.toJson), ("component", .text unit.component),
      ("template", .text unit.template),
      ("statements", .array (unit.statements.map Statement.toJson))]

def Driver.toJson (driver : Driver) : Json :=
  .object
    [("class_name", .text driver.className), ("units", .array (driver.units.map DriverUnit.toJson))]

end ContainerReplay
