/-!
# Action mappings

One action of an action servlet: the path that it answers, the class that handles it, its form, and
its named forwards.  The path identifies the mapping within its controller.
-/

set_option autoImplicit false

namespace ContainerReplay

/-- A named navigation target of an action. -/
structure Forward where
  name : String
  path : String
  redirect : Bool
  deriving Repr, DecidableEq

/-- One action with everything that is known about it. -/
structure ActionMapping where
  path : String
  handlerClass : String
  formName : Option String := none
  /-- The class of the form bean named `formName`, when the configuration declares it. -/
  formClass : Option String := none
  scope : Option String := none
  forwards : List Forward := []
  deriving Repr, DecidableEq

namespace ActionMapping

def forward? (mapping : ActionMapping) (name : String) : Option Forward :=
  mapping.forwards.find? fun forward => forward.name == name

def addForward (mapping : ActionMapping) (forward : Forward) : ActionMapping :=
  match mapping.forward? forward.name with
  | some _ => mapping
  | none => { mapping with forwards := mapping.forwards ++ [forward] }

/-- Adds forwards in order; of two with one name the first stays. -/
def addForwards (mapping : ActionMapping) (forwards : List Forward) : ActionMapping :=
  forwards.foldl addForward mapping

/-- Puts a mapping into a list: in place of the first one with its path, else at the end. -/
def putInto (mapping : ActionMapping) : List ActionMapping → List ActionMapping
  | [] => [mapping]
  | existing :: rest =>
      if existing.path = mapping.path then mapping :: rest
      else existing :: mapping.putInto rest

theorem mem_putInto_self (mapping : ActionMapping) (mappings : List ActionMapping) :
    mapping ∈ mapping.putInto mappings := by
  induction mappings with
  | nil => simp [putInto]
  | cons existing rest ih =>
      unfold putInto
      split <;> simp [ih]

end ActionMapping

end ContainerReplay
