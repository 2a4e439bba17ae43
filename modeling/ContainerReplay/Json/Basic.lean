import ContainerReplay.Text.Numeral

/-!
# JSON values and their texts

Values without fractions, and their two written forms: compact, and with every item on a line of its
own, indented by two blanks a level.
-/

set_option autoImplicit false

namespace ContainerReplay

/-- A value; the fields of an object have an order. -/
inductive Json where
  | null
  | truth (value : Bool)
  | integer (value : Int)
  | text (content : String)
  | array (items : List Json)
  | object (fields : List (String × Json))
  deriving Repr, Inhabited

namespace Json

/-- The written form of a character in a string: quotes, backslashes and control characters are
escaped, all else stands for itself. -/
def escapeChar (c : Char) : List Char :=
  if c = '"' then ['\\', '"']
  else if c = '\\' then ['\\', '\\']
  else if c = '\x08' then ['\\', 'b']
  else if c = '\t' then ['\\', 't']
  else if c = '\n' then ['\\', 'n']
  else if c = '\x0c' then ['\\', 'f']
  else if c = '\r' then ['\\', 'r']
  else if c.toNat < 0x20 then
    ['\\', 'u', '0', '0', Text.hexDigit (c.toNat / 16), Text.hexDigit (c.toNat % 16)]
  else [c]

def quoted (content : String) : String :=
  String.ofList ('"' :: content.toList.flatMap escapeChar ++ ['"'])

def scalar : Json → String
  | null => "null"
  | truth true => "true"
  | truth false => "false"
  | integer value => toString value
  | text content => quoted content
  | array _ => "[]"
  | object _ => "\x7b\x7d"

mutual

def compact : Json → String
  | array items => "[" ++ compactItems items ++ "]"
  | object fields => "\x7b" ++ compactFields fields ++ "\x7d"
  | null => scalar null
  | truth value => scalar (truth value)
  | integer value => scalar (integer value)
  | text content => scalar (text content)

def compactItems : List Json → String
  | [] => ""
  | [item] => item.compact
  | item :: rest => item.compact ++ "," ++ compactItems rest

def compactFields : List (String × Json) → String
  | [] => ""
  | [(key, value)] => quoted key ++ ":" ++ value.compact
  | (key, value) :: rest => quoted key ++ ":" ++ value.compact ++ "," ++ compactFields rest

end

def newLine (level : Nat) : String :=
  String.ofList ('\n' :: List.replicate (2 * level) ' ')

mutual

/-- The form with lines, for a value that stands at a level. -/
def prettyAt (level : Nat) : Json → String
  | array [] => scalar (array [])
  | array (item :: rest) => "[" ++ prettyItems (level + 1) (item :: rest) ++ newLine level ++ "]"
  | object [] => scalar (object [])
  | object (field :: rest) =>
      "\x7b" ++ prettyFields (level + 1) (field :: rest) ++ newLine level ++ "\x7d"
  | null => scalar null
  | truth value => scalar (truth value)
  | integer value => scalar (integer value)
  | text content => scalar (text content)

def prettyItems (level : Nat) : List Json → String
  | [] => ""
  | [item] => newLine level ++ item.prettyAt level
  | item :: rest => newLine level ++ item.prettyAt level ++ "," ++ prettyItems level rest

def prettyFields (level : Nat) : List (String × Json) → String
  | [] => ""
  | [(key, value)] => newLine level ++ quoted key ++ ": " ++ value.prettyAt level
  | (key, value) :: rest =>
      newLine level ++ quoted key ++ ": " ++ value.prettyAt level ++ "," ++ prettyFields level rest

end

def pretty (value : Json) : String :=
  value.prettyAt 0

def texts (items : List String) : Json :=
  array (items.map text)

def orNull {α : Type} (write : α → Json) : Option α → Json
  | none => null
  | some value => write value

def optionalField {α : Type} (key : String) (write : α → Json) : Option α → List (String × Json)
  | none => []
  | some value => [(key, write value)]

def nonemptyField (key : String) : List Json → List (String × Json)
  | [] => []
  | items => [(key, array items)]

end Json

end ContainerReplay
