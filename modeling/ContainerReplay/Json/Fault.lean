import ContainerReplay.Text.Quoted

/-!
# Why a JSON text is refused

A text is read from left to right for a value of a wanted form, and the first thing that stands in
the way is the fault.
-/

set_option autoImplicit false

namespace ContainerReplay.Json

/-- What stands where something else was wanted. -/
inductive Found where
  | null
  | truth (value : Bool)
  | integer (digits : String)
  | floating (digits : String)
  | text (content : String)
  | sequence
  | map
  deriving Repr, DecidableEq

def Found.name : Found → String
  | null => "null"
  | truth true => "boolean `true`"
  | truth false => "boolean `false`"
  | integer digits => s!"integer `{digits}`"
  | floating digits => s!"floating point `{digits}`"
  | text content => s!"string {Text.quoted content}"
  | sequence => "sequence"
  | map => "map"

/-- Why a text cannot be read. -/
inductive Fault where
  | endInValue
  | endInList
  | endInObject
  | endInString
  | expectedValue
  | expectedWord
  | expectedColon
  | expectedListEnd
  | expectedObjectEnd
  | keyNotText
  | trailingComma
  | trailingCharacters
  | invalidNumber
  | numberOutOfRange
  | controlCharacter
  | invalidEscape
  | endOfHexEscape
  | loneSurrogate
  | wrongType (found : Found) (wanted : String)
  | wrongLength (length : Nat) (wanted : String)
  | missingField (name : String)
  | duplicateField (name : String)
  | unknownVariant (name : String) (known : List String)
  deriving Repr, DecidableEq

def ticked (name : String) : String :=
  s!"`{name}`"

def Fault.message : Fault → String
  | endInValue => "EOF while parsing a value"
  | endInList => "EOF while parsing a list"
  | endInObject => "EOF while parsing an object"
  | endInString => "EOF while parsing a string"
  | expectedValue => "expected value"
  | expectedWord => "expected ident"
  | expectedColon => "expected `:`"
  | expectedListEnd => "expected `,` or `]`"
  | expectedObjectEnd => "expected `,` or `\x7d`"
  | keyNotText => "key must be a string"
  | trailingComma => "trailing comma"
  | trailingCharacters => "trailing characters"
  | invalidNumber => "invalid number"
  | numberOutOfRange => "number out of range"
  | controlCharacter => "control character (\\u0000-\\u001F) found while parsing a string"
  | invalidEscape => "invalid escape"
  | endOfHexEscape => "unexpected end of hex escape"
  | loneSurrogate => "lone leading surrogate in hex escape"
  | wrongType found wanted => s!"invalid type: {found.name}, expected {wanted}"
  | wrongLength length wanted => s!"invalid length {length}, expected {wanted}"
  | missingField name => s!"missing field {ticked name}"
  | duplicateField name => s!"duplicate field {ticked name}"
  | unknownVariant name known =>
      let choices := ", ".intercalate (known.map ticked)
      s!"unknown variant {ticked name}, expected one of {choices}"

end ContainerReplay.Json
