import ContainerReplay.Application
import ContainerReplay.Text.Quoted

/-!
# Applications for inspection

Everything that is known about a component or an application on one line, each value behind the name
of its field.
-/

set_option autoImplicit false

namespace ContainerReplay

def inspectRecord (name : String) (fields : List (String × String)) : String :=
  let shown := fields.map fun field => field.1 ++ ": " ++ field.2
  name ++ " \x7b " ++ ", ".intercalate shown ++ " \x7d"

/-- Like `inspectRecord`, with a sign that not every field is shown. -/
def inspectPartly (name : String) (fields : List (String × String)) : String :=
  let shown := fields.map fun field => field.1 ++ ": " ++ field.2
  name ++ " \x7b " ++ ", ".intercalate (shown ++ [".."]) ++ " \x7d"

def inspectOption (text : Option String) : String :=
  Text.quotedOption (text.map Text.quoted)

def inspectMap (entries : List (String × String)) : String :=
  Text.braced (entries.map fun entry => Text.quoted entry.1 ++ ": " ++ entry.2)

def inspectSet (texts : Std.ExtTreeSet String) : String :=
  Text.braced (texts.toList.map Text.quoted)

def inspectTexts (texts : Std.ExtTreeMap String String) : String :=
  inspectMap (texts.toList.map fun entry => (entry.1, Text.quoted entry.2))

def Forward.inspect (forward : Forward) : String :=
  inspectRecord "Forward"
    [("name", Text.quoted forward.name), ("path", Text.quoted forward.path),
      ("redirect", toString forward.redirect)]

def ActionMapping.inspect (mapping : ActionMapping) : String :=
  inspectRecord "ActionMapping"
    [("path", Text.quoted mapping.path), ("handler_class", Text.quoted mapping.handlerClass),
      ("form_name", inspectOption mapping.formName),
      ("form_class", inspectOption mapping.formClass), ("scope", inspectOption mapping.scope),
      ("forwards", Text.bracketed (mapping.forwards.map Forward.inspect))]

def InjectionTarget.inspect (target : InjectionTarget) : String :=
  inspectRecord "InjectionTarget"
    [("target_class", Text.quoted target.targetClass),
      ("target_name", Text.quoted target.targetName)]

def Injection.inspect (injection : Injection) : String :=
  inspectRecord "Injection"
    [("resource_name", Text.quoted injection.resourceName),
      ("resource_type", inspectOption injection.resourceType),
      ("target", injection.target.inspect)]

def Component.inspect (component : Component) : String :=
  inspectPartly "Component"
    [("class_name", Text.quoted component.className), ("kind", component.kind.name),
      ("names", inspectSet component.names), ("parameters", inspectTexts component.parameters),
      ("url_patterns", inspectSet component.urlPatterns),
      ("servlet_names", inspectSet component.servletNames),
      ("load_on_startup", Text.quotedOption (component.loadOnStartup.map toString)),
      ("action_mappings", Text.bracketed (component.actionMappings.map ActionMapping.inspect))]

def Application.inspect (app : Application) : String :=
  inspectRecord "WebApplication"
    [("display_name", inspectOption app.displayName),
      ("components", inspectMap (app.componentList.map fun c => (c.className, c.inspect))),
      ("context_params", inspectTexts app.contextParams),
      ("injections", Text.braced (app.injections.toList.map Injection.inspect))]

end ContainerReplay
