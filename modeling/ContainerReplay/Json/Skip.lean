import ContainerReplay.Json.Reader

/-!
# Passing over values

The value of an unknown field is passed over.  It must be well formed, but its strings and numbers
are not looked at closely: surrogates need no partner and numbers may be of any size.
-/

set_option autoImplicit false

namespace ContainerReplay.Json

def passString : Nat → List Char → Except Fault (List Char)
  | 0, _ => .error .endInString
  | _ + 1, [] => .error .endInString
  | _ + 1, '"' :: rest => .ok rest
  | _ + 1, '\\' :: [] => .error .endInString
  | steps + 1, '\\' :: 'u' :: rest =>
      match hexEscape rest with
      | .error fault => .error fault
      | .ok (_, rest) => passString steps rest
  | steps + 1, '\\' :: c :: rest =>
      match shortEscape? c with
      | none => .error .invalidEscape
      | some _ => passString steps rest
  | steps + 1, c :: rest =>
      if c.toNat < 0x20 then .error .controlCharacter else passString steps rest

def passExponent (cs : List Char) : Except Fault (List Char) :=
  let unsigned := match cs with
    | '+' :: rest => rest
    | '-' :: rest => rest
    | other => other
  if startsWithDigit unsigned then .ok (dropDigits unsigned) else .error .invalidNumber

def passAfterDecimals (cs : List Char) : Except Fault (List Char) :=
  match cs with
  | 'e' :: rest => passExponent rest
  | 'E' :: rest => passExponent rest
  | other => .ok other

/-- Passes over what may follow the whole part of a number. -/
def passAfterWhole (cs : List Char) : Except Fault (List Char) :=
  match cs with
  | '.' :: rest =>
      if startsWithDigit rest then passAfterDecimals (dropDigits rest)
      else .error .invalidNumber
  | other => passAfterDecimals other

def passNumber (cs : List Char) : Except Fault (List Char) :=
  match cs with
  | '0' :: rest => if startsWithDigit rest then .error .invalidNumber else passAfterWhole rest
  | other =>
      if startsWithDigit other then passAfterWhole (dropDigits other) else .error .invalidNumber

def passColon (cs : List Char) : Except Fault (List Char) :=
  match skipSpace cs with
  | [] => .error .endInObject
  | ':' :: rest => .ok rest
  | _ => .error .expectedColon

def passKey (cs : List Char) : Except Fault (List Char) :=
  match skipSpace cs with
  | [] => .error .endInObject
  | '"' :: rest =>
      match passString (rest.length + 1) rest with
      | .error fault => .error fault
      | .ok rest => passColon rest
  | _ => .error .keyNotText

/-- What may follow a value: nothing, or the rest of the list or object that it stands in. -/
inductive Enclosing where
  | list
  | object
  deriving Repr, DecidableEq

/-- Goes to the next item behind a comma, if there is one; otherwise past the end. -/
def afterItem (enclosing : Enclosing) (cs : List Char) :
    Except Fault (Bool × List Char) :=
  match enclosing, skipSpace cs with
  | .list, [] => .error .endInList
  | .object, [] => .error .endInObject
  | _, ',' :: rest => .ok (true, rest)
  | .list, ']' :: rest => .ok (false, rest)
  | .object, '\x7d' :: rest => .ok (false, rest)
  | .list, _ => .error .expectedListEnd
  | .object, _ => .error .expectedObjectEnd

def isEmptyAt (enclosing : Enclosing) (cs : List Char) : Except Fault (Option (List Char)) :=
  match enclosing, skipSpace cs with
  | .list, [] => .error .endInList
  | .object, [] => .error .endInObject
  | .list, ']' :: rest => .ok (some rest)
  | .object, '\x7d' :: rest => .ok (some rest)
  | _, _ => .ok none

def passItemStart (enclosing : Enclosing) (cs : List Char) : Except Fault (List Char) :=
  match enclosing with
  | .list => .ok cs
  | .object => passKey cs

mutual

/-- Passes over one value; the text's length bounds the steps. -/
def passValue : Nat → List Char → Except Fault (List Char)
  | 0, _ => .error .endInValue
  | steps + 1, cs =>
      match skipSpace cs with
      | [] => .error .endInValue
      | 'n' :: rest => passWord ['u', 'l', 'l'] rest
      | 't' :: rest => passWord ['r', 'u', 'e'] rest
      | 'f' :: rest => passWord ['a', 'l', 's', 'e'] rest
      | '-' :: rest => passNumber rest
      | '"' :: rest => passString (rest.length + 1) rest
      | '[' :: rest =>
          match isEmptyAt .list rest with
          | .error fault => .error fault
          | .ok (some rest) => .ok rest
          | .ok none => passItems steps .list rest
      | '\x7b' :: rest =>
          match isEmptyAt .object rest with
          | .error fault => .error fault
          | .ok (some rest) => .ok rest
          | .ok none => passItems steps .object rest
      | other => if startsWithDigit other then passNumber other else .error .expectedValue

def passItems : Nat → Enclosing → List Char → Except Fault (List Char)
  | 0, _, _ => .error .endInValue
  | steps + 1, enclosing, cs =>
      match passItemStart enclosing cs with
      | .error fault => .error fault
      | .ok cs =>
          match passValue steps cs with
          | .error fault => .error fault
          | .ok rest =>
              match afterItem enclosing rest with
              | .error fault => .error fault
              | .ok (true, rest) => passItems steps enclosing rest
              | .ok (false, rest) => .ok rest

end

def skipValue (cs : List Char) : Except Fault (List Char) :=
  passValue (2 * cs.length + 2) cs

end ContainerReplay.Json
