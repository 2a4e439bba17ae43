import ContainerReplay.Json.Number

/-!
# Reading JSON texts

A reader takes a value of one form from the start of a text.  Readers for texts, truth values,
optional values and lists are given here; readers of records are built from those of their fields.
-/

set_option autoImplicit false

namespace ContainerReplay.Json

/-- Takes a value from the start of a text and leaves what follows it. -/
abbrev Reader (α : Type) := List Char → Except Fault (α × List Char)

def isSpace (c : Char) : Bool :=
  c == ' ' || c == '\n' || c == '\t' || c == '\r'

def skipSpace (cs : List Char) : List Char :=
  cs.dropWhile isSpace

/-- Goes past the given characters, which are what is left of a word. -/
def passWord : List Char → List Char → Except Fault (List Char)
  | [], cs => .ok cs
  | _ :: _, [] => .error .endInValue
  | wanted :: word, c :: cs => if c = wanted then passWord word cs else .error .expectedWord

/-! ## Strings -/

def hexValue? (c : Char) : Option Nat :=
  if '0' ≤ c ∧ c ≤ '9' then some (c.toNat - '0'.toNat)
  else if 'a' ≤ c ∧ c ≤ 'f' then some (c.toNat - 'a'.toNat + 10)
  else if 'A' ≤ c ∧ c ≤ 'F' then some (c.toNat - 'A'.toNat + 10)
  else none

def hexNumber? (value : Nat) : List Char → Option Nat
  | [] => some value
  | c :: rest =>
      match hexValue? c with
      | none => none
      | some digit => hexNumber? (value * 16 + digit) rest

def byteCount (cs : List Char) : Nat :=
  cs.foldr (fun c total => c.utf8Size + total) 0

/-- Takes the four digits of an escape by number, for which four bytes must be left. -/
def hexEscape (cs : List Char) : Except Fault (Nat × List Char) :=
  -- bytes and not characters: two wide characters pass here, and fail as digits
  if byteCount (cs.take 4) < 4 then .error .endInString
  else
    match hexNumber? 0 (cs.take 4) with
    | none => .error .invalidEscape
    | some value => .ok (value, cs.drop 4)

def secondSurrogate (first : Nat) (cs : List Char) : Except Fault (Char × List Char) :=
  match cs with
  | [] => .error .endInString
  | '\\' :: [] => .error .endInString
  | '\\' :: 'u' :: rest =>
      match hexEscape rest with
      | .error fault => .error fault
      | .ok (second, rest) =>
          if 0xDC00 ≤ second ∧ second ≤ 0xDFFF then
            .ok (Char.ofNat (0x10000 + (first - 0xD800) * 0x400 + (second - 0xDC00)), rest)
          else .error .loneSurrogate
  | _ => .error .endOfHexEscape

def numberedEscape (cs : List Char) : Except Fault (Char × List Char) :=
  match hexEscape cs with
  | .error fault => .error fault
  | .ok (value, rest) =>
      if 0xDC00 ≤ value ∧ value ≤ 0xDFFF then .error .loneSurrogate
      else if 0xD800 ≤ value ∧ value ≤ 0xDBFF then secondSurrogate value rest
      else .ok (Char.ofNat value, rest)

def shortEscape? : Char → Option Char
  | '"' => some '"'
  | '\\' => some '\\'
  | '/' => some '/'
  | 'b' => some '\x08'
  | 'f' => some '\x0c'
  | 'n' => some '\n'
  | 'r' => some '\r'
  | 't' => some '\t'
  | _ => none

def escape (cs : List Char) : Except Fault (Char × List Char) :=
  match cs with
  | [] => .error .endInString
  | 'u' :: rest => numberedEscape rest
  | c :: rest =>
      match shortEscape? c with
      | none => .error .invalidEscape
      | some escaped => .ok (escaped, rest)

/-- Takes the rest of a string, up to its closing quote; the text's length bounds the steps. -/
def stringFrom : Nat → List Char → Except Fault (List Char × List Char)
  | 0, _ => .error .endInString
  | _ + 1, [] => .error .endInString
  | _ + 1, '"' :: rest => .ok ([], rest)
  | steps + 1, '\\' :: rest =>
      match escape rest with
      | .error fault => .error fault
      | .ok (c, rest) =>
          match stringFrom steps rest with
          | .error fault => .error fault
          | .ok (cs, rest) => .ok (c :: cs, rest)
  | steps + 1, c :: rest =>
      if c.toNat < 0x20 then .error .controlCharacter
      else
        match stringFrom steps rest with
        | .error fault => .error fault
        | .ok (cs, rest) => .ok (c :: cs, rest)

def stringRest (cs : List Char) : Except Fault (String × List Char) :=
  match stringFrom (cs.length + 1) cs with
  | .error fault => .error fault
  | .ok (content, rest) => .ok (String.ofList content, rest)

/-! ## Values of a wanted form -/

/-- The fault of a word that is not of the wanted form, unless the word itself is misspelt. -/
def mistypedWord (found : Found) (wanted : String) : Except Fault (List Char) → Fault
  | .error fault => fault
  | .ok _ => .wrongType found wanted

def mistypedNumber (wanted : String) : Except Fault Found → Fault
  | .error fault => fault
  | .ok found => .wrongType found wanted

/-- The fault of a text that does not begin with the wanted form; the text begins with no blank. -/
def mismatch (wanted : String) (cs : List Char) : Fault :=
  match cs with
  | 'n' :: rest => mistypedWord .null wanted (passWord ['u', 'l', 'l'] rest)
  | 't' :: rest => mistypedWord (.truth true) wanted (passWord ['r', 'u', 'e'] rest)
  | 'f' :: rest => mistypedWord (.truth false) wanted (passWord ['a', 'l', 's', 'e'] rest)
  | '-' :: rest => mistypedNumber wanted (describeNumber true rest)
  | '"' :: rest =>
      match stringRest rest with
      | .error fault => fault
      | .ok (content, _) => .wrongType (.text content) wanted
  | '[' :: _ => .wrongType .sequence wanted
  | '\x7b' :: _ => .wrongType .map wanted
  | _ =>
      if startsWithDigit cs then mistypedNumber wanted (describeNumber false cs)
      else .expectedValue

def refuse (wanted : String) (cs : List Char) : Fault :=
  match cs with
  | [] => .endInValue
  | _ => mismatch wanted cs

def readText (wanted : String) : Reader String := fun cs =>
  match skipSpace cs with
  | '"' :: rest => stringRest rest
  | other => .error (refuse wanted other)

def Reader.text : Reader String := readText "a string"

def Reader.truth : Reader Bool := fun cs =>
  match skipSpace cs with
  | 't' :: rest => (passWord ['r', 'u', 'e'] rest).map fun rest => (true, rest)
  | 'f' :: rest => (passWord ['a', 'l', 's', 'e'] rest).map fun rest => (false, rest)
  | other => .error (refuse "a boolean" other)

def Reader.nothing : Reader Unit := fun cs =>
  match skipSpace cs with
  | 'n' :: rest => (passWord ['u', 'l', 'l'] rest).map fun rest => ((), rest)
  | other => .error (refuse "unit" other)

def Reader.optional {α : Type} (value : Reader α) : Reader (Option α) := fun cs =>
  match skipSpace cs with
  | 'n' :: rest => (passWord ['u', 'l', 'l'] rest).map fun rest => (none, rest)
  | other => (value other).map fun read => (some read.1, read.2)

/-- Goes to the next item of a list, if there is one; otherwise its end comes next. -/
def nextItem (isFirst : Bool) (cs : List Char) : Except Fault (Option (List Char)) :=
  match skipSpace cs with
  | [] => .error .endInList
  | ']' :: _ => .ok none
  | c :: rest =>
      if isFirst then .ok (some (c :: rest))
      else if c = ',' then
        match skipSpace rest with
        | [] => .error .endInValue
        | ']' :: _ => .error .trailingComma
        | item => .ok (some item)
      else .error .expectedListEnd

def endOfList (cs : List Char) : Except Fault (List Char) :=
  match skipSpace cs with
  | [] => .error .endInList
  | ']' :: rest => .ok rest
  | ',' :: rest =>
      match skipSpace rest with
      | ']' :: _ => .error .trailingComma
      | _ => .error .trailingCharacters
  | _ => .error .trailingCharacters

/-- Reads items up to the end of a list; the text's length bounds the steps. -/
def itemsFrom {α : Type} (item : Reader α) : Nat → Bool → Reader (List α)
  | 0, _, _ => .error .endInList
  | steps + 1, isFirst, cs =>
      match nextItem isFirst cs with
      | .error fault => .error fault
      | .ok none => (endOfList cs).map fun rest => ([], rest)
      | .ok (some cs) =>
          match item cs with
          | .error fault => .error fault
          | .ok (value, rest) =>
              match itemsFrom item steps false rest with
              | .error fault => .error fault
              | .ok (values, rest) => .ok (value :: values, rest)

def Reader.list {α : Type} (item : Reader α) : Reader (List α) := fun cs =>
  match skipSpace cs with
  | '[' :: rest => itemsFrom item (rest.length + 1) true rest
  | other => .error (refuse "a sequence" other)

/-- Reads a whole text: nothing but blanks may follow the value. -/
def readWhole {α : Type} (reader : Reader α) (content : String) : Except Fault α :=
  match reader content.toList with
  | .error fault => .error fault
  | .ok (value, rest) =>
      match skipSpace rest with
      | [] => .ok value
      | _ => .error .trailingCharacters

end ContainerReplay.Json
