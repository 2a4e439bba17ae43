import ContainerReplay.Driver.Basic

/-!
# Writing a unit

A draft holds the statements written so far and the number of locals that they define.  Every
definition takes the next number, so that the locals of a unit are `$r0`, `$r1` and so on.
-/

set_option autoImplicit false

namespace ContainerReplay

/-- A unit that is being written. -/
structure Draft where
  statements : List Statement := []
  locals : Nat := 0
  deriving Repr, DecidableEq

namespace Draft

def localName (number : Nat) : String :=
  s!"$r{Text.decimal number}"

def next (draft : Draft) : String :=
  localName draft.locals

def write (draft : Draft) (statement : Statement) : Draft :=
  { draft with statements := draft.statements ++ [statement] }

def define (draft : Draft) (statement : String → Statement) : Draft :=
  ⟨draft.statements ++ [statement draft.next], draft.locals + 1⟩

def allocate (draft : Draft) (className : String) : Draft :=
  draft.define fun target => .allocate target className

def invoke (draft : Draft) (receiver owner method : String) (arguments : List Value) : Draft :=
  draft.write (.invoke none receiver owner method arguments)

def invokeInto (draft : Draft) (receiver owner method : String) (arguments : List Value) : Draft :=
  draft.define fun result => .invoke (some result) receiver owner method arguments

def store (draft : Draft) (receiver field : String) (value : Value) : Draft :=
  draft.write (.store receiver field value)

end Draft

end ContainerReplay
