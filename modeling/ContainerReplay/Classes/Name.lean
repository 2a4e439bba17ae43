import ContainerReplay.Text.Blank

/-!
# Class names

A binary class name: identifiers joined by dots, each made of ASCII letters, digits, underscores and
dollar signs and not starting with a digit.
-/

set_option autoImplicit false

namespace ContainerReplay

def isIdentifierStart (c : Char) : Bool :=
  ('A' ≤ c && c ≤ 'Z') || ('a' ≤ c && c ≤ 'z') || c == '_' || c == '$'

def isIdentifierPart (c : Char) : Bool :=
  isIdentifierStart c || ('0' ≤ c && c ≤ '9')

def isIdentifier : List Char → Bool
  | [] => false
  | c :: rest => isIdentifierStart c && rest.all isIdentifierPart

/-- Identifiers with a dot between neighbours. -/
def isClassName (name : String) : Bool :=
  (Text.splitAt '.' name.toList).all isIdentifier

end ContainerReplay
