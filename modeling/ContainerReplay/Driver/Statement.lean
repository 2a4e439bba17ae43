import ContainerReplay.Text.Quoted

/-!
# Values and statements of a driver

A driver is straight-line code: it allocates objects, invokes methods on them and stores into their
fields.  Objects are held in numbered locals, and every statement has one line of text.
-/

set_option autoImplicit false

namespace ContainerReplay

/-- What a driver passes as an argument or stores into a field. -/
inductive Value where
  /-- The object that a local holds. -/
  | localVar (name : String)
  | text (content : String)
  | integer (number : Int)
  | truth (value : Bool)
  | null
  /-- A resource that the container looks up by its name. -/
  | resource (name : String)
  deriving Repr, DecidableEq

/-- One step of a driver. -/
inductive Statement where
  | allocate (target className : String)
  /-- `owner` is the class or interface that declares the method. -/
  | invoke (result : Option String) (receiver owner method : String) (arguments : List Value)
  | store (receiver field : String) (value : Value)
  deriving Repr, DecidableEq

def Value.written : Value → String
  | localVar name => name
  | text content => Text.quoted content
  | integer number => toString number
  | truth true => "true"
  | truth false => "false"
  | null => "null"
  | resource name => s!"lookup({Text.quoted name})"

namespace Statement

def writtenArguments (arguments : List Value) : String :=
  ", ".intercalate (arguments.map Value.written)

def written : Statement → String
  | allocate target className => s!"{target} = new {className}()"
  | invoke result receiver owner method arguments =>
      let call := s!"{receiver}.<{owner}>{method}({writtenArguments arguments})"
      match result with
      | none => call
      | some result => s!"{result} = {call}"
  | store receiver field value => s!"{receiver}.{field} = {value.written}"

def defined? : Statement → Option String
  | allocate target _ => some target
  | invoke result _ _ _ _ => result
  | store _ _ _ => none

end Statement

end ContainerReplay
