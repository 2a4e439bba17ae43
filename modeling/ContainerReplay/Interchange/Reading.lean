import ContainerReplay.Classes.Index
import ContainerReplay.Component.ActionMapping
import ContainerReplay.Component.Injection
import ContainerReplay.Component.Kind
import ContainerReplay.Diagnostic
import ContainerReplay.Json.Record

/-!
# Reading the data forms of the model

One reader for each type that comes in as data.  A partial record collects what has been read of it.
-/

set_option autoImplicit false

namespace ContainerReplay

open Json (Reader Field RecordForm Fault demand)

def Kind.reader : Reader Kind := Json.named (Kind.all.map Kind.key) Kind.ofText?

def Role.reader : Reader Role := Json.named (Role.all.map Role.key) Role.ofText?

def Severity.reader : Reader Severity :=
  Json.tagged (Severity.all.map Severity.key) Severity.ofText?

/-- What has been read of a forward. -/
structure PartialForward where
  name : Option String := none
  path : Option String := none
  redirect : Option Bool := none

/-- A forward does not redirect unless it says so. -/
def PartialForward.finish (read : PartialForward) : Except Fault Forward :=
  match demand "name" read.name with
  | .error fault => .error fault
  | .ok name =>
      match demand "path" read.path with
      | .error fault => .error fault
      | .ok path => .ok ⟨name, path, read.redirect.getD false⟩

def Forward.form : RecordForm PartialForward Forward where
  name := "Forward"
  fields :=
    [.of "name" true .text (·.name) fun read name => { read with name := some name },
      .of "path" true .text (·.path) fun read path => { read with path := some path },
      .of "redirect" false .truth (·.redirect) fun read redirect =>
        { read with redirect := some redirect }]
  start := {}
  finish := PartialForward.finish

def Forward.reader : Reader Forward := Json.record Forward.form

structure PartialMapping where
  path : Option String := none
  handlerClass : Option String := none
  formName : Option (Option String) := none
  formClass : Option (Option String) := none
  scope : Option (Option String) := none
  forwards : Option (List Forward) := none

def PartialMapping.finish (read : PartialMapping) : Except Fault ActionMapping :=
  match demand "path" read.path with
  | .error fault => .error fault
  | .ok path =>
      match demand "handler_class" read.handlerClass with
      | .error fault => .error fault
      | .ok handlerClass =>
          .ok
            { path := path
              handlerClass := handlerClass
              formName := read.formName.getD none
              formClass := read.formClass.getD none
              scope := read.scope.getD none
              forwards := read.forwards.getD [] }

def ActionMapping.form : RecordForm PartialMapping ActionMapping where
  name := "ActionMapping"
  fields :=
    [.of "path" true .text (·.path) fun read path => { read with path := some path },
      .of "handler_class" true .text (·.handlerClass) fun read handlerClass =>
        { read with handlerClass := some handlerClass },
      .of "form_name" false (.optional .text) (·.formName) fun read formName =>
        { read with formName := some formName },
      .of "form_class" false (.optional .text) (·.formClass) fun read formClass =>
        { read with formClass := some formClass },
      .of "scope" false (.optional .text) (·.scope) fun read scope =>
        { read with scope := some scope },
      .of "forwards" false (.list Forward.reader) (·.forwards) fun read forwards =>
        { read with forwards := some forwards }]
  start := {}
  finish := PartialMapping.finish

def ActionMapping.reader : Reader ActionMapping := Json.record ActionMapping.form

structure PartialTarget where
  targetClass : Option String := none
  targetName : Option String := none

def PartialTarget.finish (read : PartialTarget) : Except Fault InjectionTarget :=
  match demand "target_class" read.targetClass with
  | .error fault => .error fault
  | .ok targetClass =>
      match demand "target_name" read.targetName with
      | .error fault => .error fault
      | .ok targetName => .ok ⟨targetClass, targetName⟩

def InjectionTarget.form : RecordForm PartialTarget InjectionTarget where
  name := "InjectionTarget"
  fields :=
    [.of "target_class" true .text (·.targetClass) fun read targetClass =>
        { read with targetClass := some targetClass },
      .of "target_name" true .text (·.targetName) fun read targetName =>
        { read with targetName := some targetName }]
  start := {}
  finish := PartialTarget.finish

def InjectionTarget.reader : Reader InjectionTarget := Json.record InjectionTarget.form

structure PartialInjection where
  resourceName : Option String := none
  resourceType : Option (Option String) := none
  target : Option InjectionTarget := none

def PartialInjection.finish (read : PartialInjection) : Except Fault Injection :=
  match demand "resource_name" read.resourceName with
  | .error fault => .error fault
  | .ok resourceName =>
      match demand "target" read.target with
      | .error fault => .error fault
      | .ok target => .ok ⟨resourceName, read.resourceType.getD none, target⟩

def Injection.form : RecordForm PartialInjection Injection where
  name := "Injection"
  fields :=
    [.of "resource_name" true .text (·.resourceName) fun read resourceName =>
        { read with resourceName := some resourceName },
      .of "resource_type" false (.optional .text) (·.resourceType) fun read resourceType =>
        { read with resourceType := some resourceType },
      .of "target" true InjectionTarget.reader (·.target) fun read target =>
        { read with target := some target }]
  start := {}
  finish := PartialInjection.finish

def Injection.reader : Reader Injection := Json.record Injection.form

structure PartialClass where
  name : Option String := none
  superClass : Option (Option String) := none
  interfaces : Option (List String) := none
  annotations : Option (List String) := none
  isAbstract : Option Bool := none

def PartialClass.finish (read : PartialClass) : Except Fault ClassInfo :=
  match demand "name" read.name with
  | .error fault => .error fault
  | .ok name =>
      .ok
        { name := name
          superClass := read.superClass.getD none
          interfaces := read.interfaces.getD []
          annotations := read.annotations.getD []
          isAbstract := read.isAbstract.getD false }

def ClassInfo.form : RecordForm PartialClass ClassInfo where
  name := "ClassInfo"
  fields :=
    [.of "name" true .text (·.name) fun read name => { read with name := some name },
      .of "super_class" false (.optional .text) (·.superClass) fun read superClass =>
        { read with superClass := some superClass },
      .of "interfaces" false (.list .text) (·.interfaces) fun read interfaces =>
        { read with interfaces := some interfaces },
      .of "annotations" false (.list .text) (·.annotations) fun read annotations =>
        { read with annotations := some annotations },
      .of "is_abstract" false .truth (·.isAbstract) fun read isAbstract =>
        { read with isAbstract := some isAbstract }]
  start := {}
  finish := PartialClass.finish

def ClassInfo.reader : Reader ClassInfo := Json.record ClassInfo.form

def ClassIndex.ofText (content : String) : Except Fault ClassIndex :=
  (Json.readWhole (.list ClassInfo.reader) content).map ClassIndex.ofList

structure PartialDiagnostic where
  severity : Option Severity := none
  message : Option String := none
  resource : Option (Option String) := none

def PartialDiagnostic.finish (read : PartialDiagnostic) : Except Fault Diagnostic :=
  match demand "severity" read.severity with
  | .error fault => .error fault
  | .ok severity =>
      match demand "message" read.message with
      | .error fault => .error fault
      | .ok message => .ok ⟨severity, message, read.resource.getD none⟩

def Diagnostic.form : RecordForm PartialDiagnostic Diagnostic where
  name := "Diagnostic"
  fields :=
    [.of "severity" true Severity.reader (·.severity) fun read severity =>
        { read with severity := some severity },
      .of "message" true .text (·.message) fun read message =>
        { read with message := some message },
      .of "resource" false (.optional .text) (·.resource) fun read resource =>
        { read with resource := some resource }]
  start := {}
  finish := PartialDiagnostic.finish

def Diagnostic.reader : Reader Diagnostic := Json.record Diagnostic.form

end ContainerReplay
