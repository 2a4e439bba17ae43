import ContainerReplay.Classes.ServletApi
import ContainerReplay.Descriptor.Deployment
import ContainerReplay.Detection.Detector
import ContainerReplay.Synthesis.Servlets

/-!
# Detecting servlets, filters and listeners

The source pass goes by annotations, super classes and interfaces, in this order; the configuration
pass reads the deployment descriptor and a fragment on the class path.
-/

set_option autoImplicit false

namespace ContainerReplay.Detection

def isAnnotated (classes : ClassIndex) (className simple : String) : Bool :=
  (ServletApi.inAllNamespaces simple).any fun annotation =>
    classes.hasAnnotation className annotation

def implementsAny (classes : ClassIndex) (className simple : String) : Bool :=
  (ServletApi.inAllNamespaces simple).any fun interface => classes.implements className interface

def extendsAny (classes : ClassIndex) (className simple : String) : Bool :=
  (ServletApi.inAllNamespaces simple).any fun base => classes.isSubclassOf className base

def isServletClass (classes : ClassIndex) (className : String) : Bool :=
  ServletApi.servletBases.any (extendsAny classes className) ||
    implementsAny classes className ServletApi.servletInterface

def isListenerClass (classes : ClassIndex) (className : String) : Bool :=
  ServletApi.listenerCallbacks.any fun callback =>
    implementsAny classes className callback.interface

/-- The kind as which a container deploys a class, if it deploys it. -/
def deployedAs? (classes : ClassIndex) (info : ClassInfo) : Option Kind :=
  if info.isAbstract || ServletApi.isApiClass info.name then none
  -- annotations count before super types
  else if isAnnotated classes info.name ServletApi.servletAnnotation then some .servlet
  else if isAnnotated classes info.name ServletApi.filterAnnotation then some .filter
  else if isAnnotated classes info.name ServletApi.listenerAnnotation then some .listener
  else if isServletClass classes info.name then some .servlet
  else if implementsAny classes info.name ServletApi.filterInterface then some .filter
  else if isListenerClass classes info.name then some .listener
  else none

def deployed? (classes : ClassIndex) (info : ClassInfo) : Option Component :=
  match deployedAs? classes info with
  | none => none
  | some kind => some { className := info.name, kind := kind }

def servletSource : Pass := fun site survey =>
  ⟨(site.classes.toList.filterMap (deployed? site.classes)).foldl Survey.register survey, none⟩

def deploymentDescriptor : String := "WEB-INF/web.xml"

def deploymentFragment : String := "META-INF/web-fragment.xml"

/-- Reads a descriptor; a failed read leaves the survey as it was. -/
def readDeployment (path : String) : Pass := fun site survey =>
  match Descriptor.Deployment.read site.loader path survey with
  | .error error => ⟨survey, some error⟩
  | .ok reading => ⟨reading.survey, none⟩

/-- Reads the descriptor, and then the fragment if there is one, the failure of which is only
reported. -/
def servletConfig : Pass := fun site survey =>
  let result := readDeployment deploymentDescriptor site survey
  if site.loader.hasResource deploymentFragment then
    ⟨(readDeployment deploymentFragment site result.survey).reported, result.failure⟩
  else result

def servlets : Detector where
  name := "servlet"
  extensions := [.servlet, .filter, .listener]
  checkFiles := [deploymentDescriptor]
  templates :=
    [Synthesis.servletTemplateId, Synthesis.filterTemplateId, Synthesis.listenerTemplateId]
  source := servletSource
  config := servletConfig

end ContainerReplay.Detection
