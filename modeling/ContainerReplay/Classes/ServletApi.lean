import ContainerReplay.Classes.Index

/-!
# Types of the servlet API

Every type of the API exists in two packages; here a type goes by its name within the package.
-/

set_option autoImplicit false

namespace ContainerReplay

/-- The two packages of the API. -/
inductive Namespace where
  | javax
  | jakarta
  deriving Repr, DecidableEq

namespace Namespace

def all : List Namespace := [javax, jakarta]

def name : Namespace → String
  | javax => "javax.servlet"
  | jakarta => "jakarta.servlet"

def qualify (package : Namespace) (simple : String) : String :=
  s!"{package.name}.{simple}"

end Namespace

/-- A listener interface and the callback that a driver invokes on it. -/
structure ListenerCallback where
  interface : String
  method : String
  event : String
  deriving Repr, DecidableEq

namespace ServletApi

def servletBases : List String := ["http.HttpServlet", "GenericServlet"]

def servletInterface : String := "Servlet"

def filterInterface : String := "Filter"

def servletAnnotation : String := "annotation.WebServlet"

def filterAnnotation : String := "annotation.WebFilter"

def listenerAnnotation : String := "annotation.WebListener"

def contextCallback : ListenerCallback :=
  ⟨"ServletContextListener", "contextInitialized", "ServletContextEvent"⟩

/-- The listener interfaces in the order in which their callbacks are invoked. -/
def listenerCallbacks : List ListenerCallback :=
  [contextCallback,
    ⟨"ServletContextAttributeListener", "attributeAdded", "ServletContextAttributeEvent"⟩,
    ⟨"ServletRequestListener", "requestInitialized", "ServletRequestEvent"⟩,
    ⟨"ServletRequestAttributeListener", "attributeAdded", "ServletRequestAttributeEvent"⟩,
    ⟨"http.HttpSessionListener", "sessionCreated", "http.HttpSessionEvent"⟩,
    ⟨"http.HttpSessionAttributeListener", "attributeAdded", "http.HttpSessionBindingEvent"⟩]

def inAllNamespaces (simple : String) : List String :=
  Namespace.all.map fun package => package.qualify simple

def startsWith (text start : String) : Bool :=
  start.toList.isPrefixOf text.toList

/-- Whether a class lies in one of the packages of the API or below. -/
def isApiClass (className : String) : Bool :=
  Namespace.all.any fun package => startsWith className (package.name ++ ".")

end ServletApi

namespace ClassIndex

/-- The package that a class was compiled against: the newer one if a super class or an interface of
the class begins with its name, else the older one. -/
def namespaceFor (index : ClassIndex) (className : String) : Namespace :=
  -- no dot is asked for behind the package, so that a look-alike counts as well
  let newer := fun name => ServletApi.startsWith name Namespace.jakarta.name
  if (index.superclasses className).any newer || (index.interfacesOf className).toList.any newer
  then .jakarta
  else .javax

end ClassIndex

end ContainerReplay
