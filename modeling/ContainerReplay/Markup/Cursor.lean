import ContainerReplay.Markup.Character
import ContainerReplay.Markup.Fault
import ContainerReplay.Text.Blank

/-!
# Reading from the front of a text

A cursor holds the characters to come and counts those before them.  Each reader takes something
from the front, or says why it cannot.
-/

set_option autoImplicit false

namespace ContainerReplay.Markup

/-- Where reading stands. -/
structure Cursor where
  offset : Nat
  rest : List Char
  deriving Repr, DecidableEq

/-- A name with an optional qualifier, which is empty when there is none. -/
structure QualifiedName where
  qualifier : String
  name : String
  deriving Repr, DecidableEq

def QualifiedName.text (name : QualifiedName) : String :=
  if name.qualifier = "" then name.name else s!"{name.qualifier}:{name.name}"

namespace Cursor

def ofText (text : List Char) : Cursor := ⟨0, text⟩

def atEnd (cursor : Cursor) : Bool := cursor.rest.isEmpty

def startsWith (cursor : Cursor) (text : String) : Bool :=
  text.toList.isPrefixOf cursor.rest

def advance (cursor : Cursor) (count : Nat) : Cursor :=
  ⟨cursor.offset + count, cursor.rest.drop count⟩

def takeWhile (cursor : Cursor) (test : Char → Bool) : List Char × Cursor :=
  let taken := cursor.rest.takeWhile test
  (taken, cursor.advance taken.length)

def skipSpaces (cursor : Cursor) : Cursor :=
  (cursor.takeWhile isSpace).2

def atSpace (cursor : Cursor) : Bool :=
  match cursor.rest with
  | [] => false
  | c :: _ => isSpace c

def next (cursor : Cursor) : Except Fault Char :=
  match cursor.rest with
  | [] => .error .endOfText
  | c :: _ => .ok c

def expect (cursor : Cursor) (wanted : Char) : Except Fault Cursor :=
  match cursor.rest with
  | [] => .error .endOfText
  | c :: _ =>
      if c = wanted then .ok (cursor.advance 1)
      else .error (.expectedChar wanted (leadByte c) cursor.offset)

def expectText (cursor : Cursor) (wanted : String) : Except Fault Cursor :=
  if cursor.startsWith wanted then .ok (cursor.advance wanted.length)
  else .error (.expectedText wanted cursor.offset)

def missingSpace (cursor : Cursor) : Fault :=
  match cursor.rest with
  | [] => .endOfText
  | c :: _ => .expectedAny "a whitespace" (leadByte c) cursor.offset

def expectSpaces (cursor : Cursor) : Except Fault Cursor :=
  if cursor.atSpace then .ok cursor.skipSpaces else .error cursor.missingSpace

def expectQuote (cursor : Cursor) : Except Fault (Char × Cursor) :=
  match cursor.rest with
  | [] => .error .endOfText
  | c :: _ =>
      if c = '\'' ∨ c = '"' then .ok (c, cursor.advance 1)
      else .error (.expectedAny "a quote" (leadByte c) cursor.offset)

def expectEquals (cursor : Cursor) : Except Fault Cursor :=
  match cursor.skipSpaces.expect '=' with
  | .error fault => .error fault
  | .ok cursor => .ok cursor.skipSpaces

/-- Takes characters up to the place where a test of the rest holds; all of them must be allowed,
and so must the one at which it holds. -/
def takeUntilFrom (stop : List Char → Bool) (taken : List Char) (offset : Nat) :
    List Char → Except Fault (List Char × Cursor)
  | [] => .ok (taken.reverse, ⟨offset, []⟩)
  | c :: rest =>
      -- the character at the stop is checked before the stop is
      if isAllowed c = false then .error (.forbiddenChar c offset)
      else if stop (c :: rest) then .ok (taken.reverse, ⟨offset, c :: rest⟩)
      else takeUntilFrom stop (c :: taken) (offset + 1) rest

def takeUntil (cursor : Cursor) (stop : List Char → Bool) : Except Fault (List Char × Cursor) :=
  takeUntilFrom stop [] cursor.offset cursor.rest

/-- A name; nothing at the end of the text. -/
def optionalName (cursor : Cursor) : Except Fault (List Char × Cursor) :=
  match cursor.rest with
  | [] => .ok ([], cursor)
  | c :: _ =>
      if isNameStart c then .ok (cursor.takeWhile isNamePart)
      else .error (.invalidName cursor.offset)

def name (cursor : Cursor) : Except Fault (String × Cursor) :=
  match cursor.optionalName with
  | .error fault => .error fault
  | .ok ([], _) => .error (.invalidName cursor.offset)
  | .ok (chars, rest) => .ok (String.ofList chars, rest)

def startsLikeName : List Char → Bool
  | [] => false
  | c :: _ => isNameStart c

/-- A name with at most one colon.  The part before the colon may be empty, the one after it not. -/
def qualifiedName (cursor : Cursor) : Except Fault (QualifiedName × Cursor) :=
  let (chars, rest) := cursor.takeWhile isNamePart
  match Text.splitAt ':' chars with
  | [name] =>
      if startsLikeName name then .ok (⟨"", String.ofList name⟩, rest)
      else .error (.invalidName cursor.offset)
  | [qualifier, name] =>
      if (qualifier.isEmpty || startsLikeName qualifier) && startsLikeName name then
        .ok (⟨String.ofList qualifier, String.ofList name⟩, rest)
      else .error (.invalidName cursor.offset)
  | _ => .error (.invalidName cursor.offset)

end Cursor

end ContainerReplay.Markup
