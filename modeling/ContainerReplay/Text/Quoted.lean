import ContainerReplay.Text.Invisible
import ContainerReplay.Text.Numeral

/-!
# Quoted text

A text between double quotes.  Quotes, backslashes and the controls with a short escape are written
with a backslash, other invisible characters by number in braces, and all else stands for itself.
-/

set_option autoImplicit false

namespace ContainerReplay.Text

def escapeChar (c : Char) : List Char :=
  if c = '\x00' then ['\\', '0']
  else if c = '\t' then ['\\', 't']
  else if c = '\r' then ['\\', 'r']
  else if c = '\n' then ['\\', 'n']
  else if c = '"' then ['\\', '"']
  else if c = '\\' then ['\\', '\\']
  else if isInvisible c then ['\\', 'u', '\x7b'] ++ hexadecimal c.toNat ++ ['\x7d']
  else [c]

def escaped (cs : List Char) : List Char :=
  cs.flatMap escapeChar

def quoted (text : String) : String :=
  String.ofList ('"' :: escaped text.toList ++ ['"'])

/-- The form of one character between single quotes, for characters that no document may hold. -/
def quotedChar (c : Char) : String :=
  String.ofList ('\'' :: escapeChar c ++ ['\''])

def bracketed (items : List String) : String :=
  String.ofList ['['] ++ ", ".intercalate items ++ String.ofList [']']

def braced (items : List String) : String :=
  String.ofList ['\x7b'] ++ ", ".intercalate items ++ String.ofList ['\x7d']

def quotedOption : Option String → String
  | none => "None"
  | some text => "Some(" ++ text ++ ")"

@[simp] theorem escaped_nil : escaped [] = [] := rfl

@[simp] theorem escaped_cons (c : Char) (cs : List Char) :
    escaped (c :: cs) = escapeChar c ++ escaped cs := rfl

end ContainerReplay.Text
