/-!
# Kinds and roles of container-managed components

The four kinds of components, the specialization between them, and the place of each kind in the
sequence in which a container starts and calls its components.
-/

set_option autoImplicit false

namespace ContainerReplay

/-- The closed set of kinds, in declaration order. -/
inductive Kind where
  | servlet
  | filter
  | listener
  /-- A front controller: a servlet that also owns action mappings. -/
  | actionServlet
  deriving Repr, DecidableEq

/-- Where a container starts and calls a component: listeners, then filters, then dispatch. -/
inductive Role where
  | listener
  | filter
  | dispatch
  deriving Repr, DecidableEq

namespace Kind

def all : List Kind := [servlet, filter, listener, actionServlet]

/-- The name used in data. -/
def key : Kind → String
  | servlet => "servlet"
  | filter => "filter"
  | listener => "listener"
  | actionServlet => "action-servlet"

/-- The name shown to people. -/
def name : Kind → String
  | servlet => "Servlet"
  | filter => "Filter"
  | listener => "Listener"
  | actionServlet => "ActionServlet"

/-- The kind that a shown name or one of its other spellings stands for. -/
def ofName? : String → Option Kind
  | "Servlet" => some servlet
  | "HttpServlet" => some servlet
  | "Filter" => some filter
  | "Listener" => some listener
  | "ActionServlet" => some actionServlet
  | "ActionController" => some actionServlet
  | _ => none

/-- The kind that a text in data stands for: its data name, else any shown name. -/
def ofText? (text : String) : Option Kind :=
  match all.find? (fun kind => kind.key == text) with
  | some kind => some kind
  | none => ofName? text

def parent? : Kind → Option Kind
  | actionServlet => some servlet
  | servlet => none
  | filter => none
  | listener => none

/-- A strict specialization: only an action servlet refines anything, namely a servlet. -/
def refines (kind other : Kind) : Bool :=
  kind.parent? == some other

def role : Kind → Role
  | listener => .listener
  | filter => .filter
  | servlet => .dispatch
  | actionServlet => .dispatch

theorem mem_all (kind : Kind) : kind ∈ all := by
  cases kind <;> decide

theorem ofText?_key (kind : Kind) : ofText? kind.key = some kind := by
  cases kind <;> decide

theorem ofName?_name (kind : Kind) : ofName? kind.name = some kind := by
  cases kind <;> rfl

theorem refines_iff (kind other : Kind) :
    kind.refines other = true ↔ kind = actionServlet ∧ other = servlet := by
  cases kind <;> cases other <;> decide

end Kind

namespace Role

def all : List Role := [listener, filter, dispatch]

def key : Role → String
  | listener => "listener"
  | filter => "filter"
  | dispatch => "dispatch"

def name : Role → String
  | listener => "Listener"
  | filter => "Filter"
  | dispatch => "Dispatch"

def ofName? : String → Option Role
  | "Listener" => some listener
  | "Filter" => some filter
  | "Dispatch" => some dispatch
  | _ => none

def ofText? (text : String) : Option Role :=
  match all.find? (fun role => role.key == text) with
  | some role => some role
  | none => ofName? text

def rank : Role → Nat
  | listener => 0
  | filter => 1
  | dispatch => 2

theorem rank_injective {first second : Role} (same : first.rank = second.rank) :
    first = second := by
  cases first <;> cases second <;> simp_all [rank]

end Role

end ContainerReplay
