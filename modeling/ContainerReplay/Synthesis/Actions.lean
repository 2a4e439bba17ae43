import ContainerReplay.Detection.Error
import ContainerReplay.Synthesis.Servlets

/-!
# Replaying actions

The front controller itself is not replayed.  Each of its action mappings whose handler can be
loaded becomes a unit, which builds the mapping that the controller would pass and executes the
handler.
-/

set_option autoImplicit false

namespace ContainerReplay.Synthesis

def actionClass : String := "org.apache.struts.action.Action"

def actionMappingClass : String := "org.apache.struts.action.ActionMapping"

def actionForwardClass : String := "org.apache.struts.action.ActionForward"

def setMappingText (mapping method value : String) (draft : Draft) : Draft :=
  draft.invoke mapping actionMappingClass method [.text value]

def setMappingText? (mapping method : String) (value : Option String) (draft : Draft) : Draft :=
  match value with
  | none => draft
  | some value => setMappingText mapping method value draft

def mappingObject (mapping : ActionMapping) (draft : Draft) : Draft :=
  let target := draft.next
  let allocated := draft.allocate actionMappingClass
  let addressed := setMappingText target "setPath" mapping.path allocated
  let typed := setMappingText target "setType" mapping.handlerClass addressed
  let named := setMappingText? target "setName" mapping.formName typed
  setMappingText? target "setScope" mapping.scope named

def addForwardObject (mapping : String) (draft : Draft) (forward : Forward) : Draft :=
  let target := draft.next
  let allocated := draft.allocate actionForwardClass
  let named := allocated.invoke target actionForwardClass "setName" [.text forward.name]
  let addressed := named.invoke target actionForwardClass "setPath" [.text forward.path]
  let complete :=
    if forward.redirect then
      addressed.invoke target actionForwardClass "setRedirect" [.truth true]
    else addressed
  complete.invoke mapping actionMappingClass "addForwardConfig" [.localVar target]

/-- The form bean of a mapping if its class can be loaded. -/
def loadableForm? (classes : ClassIndex) (mapping : ActionMapping) : Option String :=
  match mapping.formClass with
  | none => none
  | some formClass => if classes.resolves formClass then some formClass else none

def formObject (form : Option String) (draft : Draft) : Draft :=
  match form with
  | none => draft
  | some formClass => draft.allocate formClass

/-- What is passed as the form bean that was allocated from a draft. -/
def formOf (form : Option String) (draft : Draft) : Value :=
  match form with
  | none => .null
  | some _ => .localVar draft.next

def actionDraft (scene : Scene) (mapping : ActionMapping) : Draft :=
  let handler := Draft.localName 0
  let allocated := allocateInjected scene.app mapping.handlerClass {}
  -- the local that the mapping object is about to take
  let config := allocated.next
  let configured := mapping.forwards.foldl (addForwardObject config)
    (mappingObject mapping allocated)
  let form := loadableForm? scene.classes mapping
  let formed := formObject form configured
  (exchange (some mapping.path) formed).invokeInto handler actionClass "execute"
    [.localVar config, formOf form configured, requestOf formed, responseOf formed]

def actionTemplateId : String := "struts::ActionServlet::main"

def actionUnit (scene : Scene) (component : Component) (mapping : ActionMapping) : DriverUnit :=
  { unitOf component actionTemplateId (actionDraft scene mapping) with
    name := component.className ++ mapping.path }

/-- The unit of one mapping, or the warning that its handler cannot be loaded. -/
def replayMapping (scene : Scene) (component : Component) (mapping : ActionMapping) : Replay :=
  if scene.classes.resolves mapping.handlerClass then
    ⟨[actionUnit scene component mapping], []⟩
  else
    let error := DetectionError.unresolvedClass mapping.handlerClass
      s!"action {mapping.path} of {component.className}"
    ⟨[], [error.diagnostic]⟩

def idleController (component : Component) : Diagnostic :=
  ⟨.info, s!"{component.className} declares no action mappings", some component.className⟩

def replayActions (scene : Scene) (component : Component) : Replay :=
  match component.actionMappings with
  | [] => ⟨[], [idleController component]⟩
  | mappings =>
      ⟨mappings.flatMap fun mapping => (replayMapping scene component mapping).units,
        mappings.flatMap fun mapping => (replayMapping scene component mapping).diagnostics⟩

def actionTemplate : Template := ⟨actionTemplateId, .actionServlet, replayActions⟩

end ContainerReplay.Synthesis
