import ContainerReplay.Classes.Name
import ContainerReplay.Descriptor.Reading

/-!
# Action configurations

The actions of one action servlet, with the form beans and the forwards that they share.  A broken
action is skipped; what is left is attached to the component that owns the configuration, which
becomes an action servlet if it was a servlet.
-/

set_option autoImplicit false

namespace ContainerReplay.Descriptor

/-- Why an action is skipped. -/
inductive ActionFault where
  | noPath
  | onlyForwards (path : String)
  | noHandler (path : String)
  | malformedHandler (path handler : String)
  deriving Repr, DecidableEq

def ActionFault.message : ActionFault → String
  | noPath => "missing 'path' attribute"
  | onlyForwards path => s!"action {path} only forwards and has no handler"
  | noHandler path => s!"action {path} has no 'type' attribute"
  | malformedHandler path handler => s!"action {path} has malformed handler class '{handler}'"

namespace ActionConfig

/-- The elements with a name below the sections with a name. -/
def sectionEntries (root : Markup.Element) (sectionName entryName : String) :
    List Markup.Element :=
  (root.childrenNamed sectionName).flatMap fun part => part.childrenNamed entryName

def formBean? (element : Markup.Element) : Option (String × String) :=
  match attributeText? element "name", attributeText? element "type" with
  | some name, some className => some (name, className)
  | _, _ => none

def formBeans (root : Markup.Element) : List (String × String) :=
  (sectionEntries root "form-beans" "form-bean").filterMap formBean?

/-- The class of the last form bean with a name. -/
def formClass? (beans : List (String × String)) (name : String) : Option String :=
  match beans.reverse.find? (fun bean => bean.1 == name) with
  | some bean => some bean.2
  | none => none

def forward? (element : Markup.Element) : Option Forward :=
  match attributeText? element "name", attributeText? element "path" with
  | some name, some path => some ⟨name, path, element.attribute? "redirect" == some "true"⟩
  | _, _ => none

def globalForwards (root : Markup.Element) : List Forward :=
  (sectionEntries root "global-forwards" "forward").filterMap forward?

/-- The path of an action within its module: the prefix without trailing slashes, then the path with
a leading one. -/
def modulePath (modulePrefix path : String) : String :=
  if modulePrefix = "" then path
  else
    let base := String.ofList (Text.dropTrailing '/' modulePrefix.toList)
    match path.toList with
    | '/' :: _ => base ++ path
    | _ => base ++ "/" ++ path

def bareMapping (modulePrefix : String) (beans : List (String × String))
    (element : Markup.Element) : Except ActionFault ActionMapping :=
  match attributeText? element "path" with
  | none => .error .noPath
  | some path =>
      match attributeText? element "type" with
      | none =>
          -- the attributes themselves are looked for, so that blank ones count
          if (element.attribute? "forward").isSome || (element.attribute? "include").isSome then
            .error (.onlyForwards path)
          else .error (.noHandler path)
      | some handler =>
          if isClassName handler = false then .error (.malformedHandler path handler)
          else
            let formName := attributeText? element "name"
            .ok
              { path := modulePath modulePrefix path
                handlerClass := handler
                formName
                formClass := formName.bind (formClass? beans)
                scope := attributeText? element "scope" }

/-- The mapping of an action: its own forwards come first, and of two with one name the first
counts. -/
def mapping (modulePrefix : String) (beans : List (String × String)) (globals : List Forward)
    (element : Markup.Element) : Except ActionFault ActionMapping :=
  match bareMapping modulePrefix beans element with
  | .error fault => .error fault
  | .ok bare =>
      .ok ((bare.addForwards ((element.childrenNamed "forward").filterMap forward?)).addForwards
        globals)

def action (source : Source) (modulePrefix : String) (beans : List (String × String))
    (globals : List Forward) (state : Reading × List ActionMapping) (element : Markup.Element) :
    Reading × List ActionMapping :=
  match mapping modulePrefix beans globals element with
  | .ok mapping => (state.1.count, state.2 ++ [mapping])
  | .error fault =>
      (state.1.skipSaying source
        s!"Skipping action at {source.position element}: {fault.message}", state.2)

def readRoot (source : Source) (owner modulePrefix : String) (reading : Reading) : Reading :=
  let root := source.document.root
  let beans := formBeans root
  let globals := globalForwards root
  let (reading, mappings) :=
    (sectionEntries root "action-mappings" "action").foldl
      (action source modulePrefix beans globals) (reading, [])
  -- the owner is described as a front controller even if every action was skipped
  let upgrade := ({ className := owner, kind := .actionServlet } : Component).putMappings mappings
  reading.update fun survey => survey.register upgrade

def roots : List String := ["struts-config"]

def readBytes (owner modulePrefix resource : String) (bytes : ByteArray) (survey : Survey) :
    Except DetectionError Reading :=
  match openSource resource roots bytes with
  | .error error => .error error
  | .ok source =>
      -- the document is opened first: what is wrong with it is reported whoever owns it
      if survey.app.contains owner then .ok (readRoot source owner modulePrefix ⟨survey, {}⟩)
      else .error (.malformed resource s!"no component {owner} owns this configuration")

/-- Reads a configuration with the loader of the application, which every owner has as its own. -/
def read (loader : Loader) (owner modulePrefix path : String) (survey : Survey) :
    Except DetectionError Reading :=
  match loader.read path with
  | .error error => .error error
  | .ok bytes => readBytes owner modulePrefix path bytes survey

end ActionConfig

end ContainerReplay.Descriptor
