import ContainerReplay.Descriptor.ActionConfig
import ContainerReplay.Detection.Detector
import ContainerReplay.Synthesis.Actions

/-!
# Detecting actions

Actions are declared only in the configuration files that an action servlet names in its parameters:
`config` for the default module, and one parameter `config/` with the name of each other module.
-/

set_option autoImplicit false

namespace ContainerReplay.Detection

def actionServletClass : String := "org.apache.struts.action.ActionServlet"

def defaultActionConfig : String := "/WEB-INF/struts-config.xml"

/-- A configuration file and what its action paths begin with. -/
structure ActionFile where
  path : String
  modulePrefix : String
  deriving Repr, DecidableEq

/-- The module that a parameter name stands for: what follows `config/`, without slashes around it,
unless nothing is left. -/
def module? (parameter : String) : Option String :=
  match parameter.toList with
  | 'c' :: 'o' :: 'n' :: 'f' :: 'i' :: 'g' :: '/' :: rest =>
      match Text.dropTrailing '/' (Text.dropLeading '/' rest) with
      | [] => none
      | name => some (String.ofList name)
  | _ => none

def defaultFiles (component : Component) : List ActionFile :=
  let listed := match component.parameters["config"]? with
    | none => defaultActionConfig
    | some value => value
  (Text.listItems listed).map fun path => ⟨path, ""⟩

def moduleFiles (parameter : String × String) : List ActionFile :=
  match module? parameter.1 with
  | none => []
  | some name => (Text.listItems parameter.2).map fun path => ⟨path, "/" ++ name⟩

def actionFiles (component : Component) : List ActionFile :=
  -- parameters come in the order of their names
  defaultFiles component ++ component.parameters.toList.flatMap moduleFiles

/-- Whether a component owns action configurations: by its kind, its class or a super class. -/
def ownsActions (classes : ClassIndex) (component : Component) : Bool :=
  component.kind == .actionServlet || component.className == actionServletClass ||
    classes.isSubclassOf component.className actionServletClass

def readActionFile (site : Site) (owner : String) (survey : Survey) (file : ActionFile) : Survey :=
  match Descriptor.ActionConfig.read site.loader owner file.modulePrefix file.path survey with
  | .error error => survey.report error
  | .ok reading => reading.survey

def readActionFiles (site : Site) (survey : Survey) (owner : Component) : Survey :=
  (actionFiles owner).foldl (readActionFile site owner.className) survey

def actionOwners (classes : ClassIndex) (app : Application) : List Component :=
  app.componentList.filter (ownsActions classes)

/-- Reads the files of all owners, as the owners are before the pass. -/
def actionConfig : Pass := fun site survey =>
  ⟨(actionOwners site.classes survey.app).foldl (readActionFiles site) survey, none⟩

/-- Class signatures say nothing about actions. -/
def actionSource : Pass := fun _ survey =>
  ⟨survey, some (.unrecognized "struts" "struts actions are only declared in struts-config.xml")⟩

def actions : Detector where
  name := "struts"
  extensions := [.actionServlet]
  checkFiles := []
  templates := [Synthesis.actionTemplateId]
  source := actionSource
  config := actionConfig

end ContainerReplay.Detection
