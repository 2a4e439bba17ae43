import ContainerReplay.Markup.Cursor

/-!
# References

What stands between an ampersand and a semicolon: a character by number, one of five predefined
names, or the name of an entity.
-/

set_option autoImplicit false

namespace ContainerReplay.Markup

inductive Reference where
  | char (c : Char)
  | entity (name : String)
  deriving Repr, DecidableEq

namespace Reference

def hexValue? (c : Char) : Option Nat :=
  if '0' ≤ c ∧ c ≤ '9' then some (c.toNat - '0'.toNat)
  else if 'a' ≤ c ∧ c ≤ 'f' then some (c.toNat - 'a'.toNat + 10)
  else if 'A' ≤ c ∧ c ≤ 'F' then some (c.toNat - 'A'.toNat + 10)
  else none

def number (base : Nat) (digits : List Char) : Nat :=
  digits.foldl (fun value c => value * base + (hexValue? c).getD 0) 0

/-- The character with a number: the replacement character for one that is no scalar value, and none
for a number of more than 32 bits or a character that no document may hold. -/
def charOf? (n : Nat) : Option Char :=
  if 0x100000000 ≤ n then none
  else
    let c := if n.isValidChar then Char.ofNat n else '\uFFFD'
    if isAllowed c then some c else none

def named : String → Reference
  | "quot" => char '"'
  | "amp" => char '&'
  | "apos" => char '\''
  | "lt" => char '<'
  | "gt" => char '>'
  | name => entity name

def numeric? (cursor : Cursor) (base : Nat) (isDigit : Char → Bool) :
    Option (Reference × Cursor) :=
  match cursor.takeWhile isDigit with
  | ([], _) => none
  | (digits, rest) =>
      match charOf? (number base digits) with
      | none => none
      | some c => some (char c, rest)

/-- Takes what follows the ampersand, without the semicolon. -/
def body? (cursor : Cursor) : Option (Reference × Cursor) :=
  match cursor.rest with
  -- only a small x announces hexadecimal digits
  | '#' :: 'x' :: _ => numeric? (cursor.advance 2) 16 fun c => (hexValue? c).isSome
  | '#' :: _ => numeric? (cursor.advance 1) 10 Char.isDigit
  | _ =>
      match cursor.name with
      | .error _ => none
      | .ok (name, rest) => some (named name, rest)

def take? (cursor : Cursor) : Option (Reference × Cursor) :=
  match cursor.rest with
  | '&' :: _ =>
      match body? (cursor.advance 1) with
      | none => none
      | some (reference, rest) =>
          match rest.rest with
          | ';' :: _ => some (reference, rest.advance 1)
          | _ => none
  | _ => none

end Reference

end ContainerReplay.Markup
