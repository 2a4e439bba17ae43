import ContainerReplay.Markup.Content

/-!
# Documents

A document is an optional byte order mark and declaration, an optional document type with entity
declarations, and one element, with comments, instructions and white space around them.
-/

set_option autoImplicit false

namespace ContainerReplay.Markup

/-! ## Prolog -/

def skipMisc : Nat → Cursor → Assembly → Except Fault (Cursor × Assembly)
  | 0, cursor, assembly => .ok (cursor, assembly)
  | steps + 1, cursor, assembly =>
      if cursor.atEnd then .ok (cursor, assembly)
      else
        let ahead := cursor.skipSpaces
        if ahead.startsWith "<!--" then
          match skipComment ahead with
          | .error fault => .error fault
          | .ok rest => skipMisc steps rest assembly.appendAside
        else if ahead.startsWith "<?" then
          match skipInstruction ahead with
          | .error fault => .error fault
          | .ok rest => skipMisc steps rest assembly.appendAside
        else .ok (ahead, assembly)

def misc (cursor : Cursor) (assembly : Assembly) : Except Fault (Cursor × Assembly) :=
  skipMisc (cursor.rest.length + 1) cursor assembly

/-- White space, unless the declaration or the text ends here. -/
def declarationSpace (cursor : Cursor) : Except Fault Cursor :=
  if cursor.atSpace then .ok cursor.skipSpaces
  else if cursor.startsWith "?>" || cursor.atEnd then .ok cursor
  else .error cursor.missingSpace

def skipDeclared (cursor : Cursor) : Except Fault Cursor :=
  match takeAttribute cursor with
  | .error fault => .error fault
  | .ok (_, _, rest) => .ok rest

/-- Skips the declaration: a version, then optionally an encoding and a standalone mark. -/
def skipDeclaration (cursor : Cursor) : Except Fault Cursor := do
  let rest ← declarationSpace (cursor.advance 5)
  let rest ←
    -- any name that starts like this will do, and its value is not checked
    if rest.startsWith "version" then skipDeclared rest else rest.expectText "version"
  let rest ← declarationSpace rest
  let rest ←
    if rest.startsWith "encoding" then
      match skipDeclared rest with
      | .error fault => .error fault
      | .ok rest => declarationSpace rest
    else .ok rest
  let rest ← if rest.startsWith "standalone" then skipDeclared rest else .ok rest
  rest.skipSpaces.expectText "?>"

/-! ## Document type -/

def skipLiteral (cursor : Cursor) : Except Fault Cursor := do
  let (quote, inside) ← cursor.expectQuote
  (inside.takeWhile (· != quote)).2.expect quote

def skipExternalId (cursor : Cursor) : Except Fault (Bool × Cursor) :=
  if cursor.startsWith "SYSTEM" then do
    let rest ← (cursor.advance 6).expectSpaces
    let rest ← skipLiteral rest
    .ok (true, rest)
  else if cursor.startsWith "PUBLIC" then do
    let rest ← (cursor.advance 6).expectSpaces
    let rest ← skipLiteral rest
    let rest ← rest.expectSpaces
    let rest ← skipLiteral rest
    .ok (true, rest)
  else .ok (false, cursor)

/-- Takes what an entity is declared as: its replacement text, or nothing for an external one. -/
def entityValue (isGeneral : Bool) (cursor : Cursor) :
    Except Fault (Option Cursor × Cursor) :=
  match cursor.rest with
  | [] => .error .endOfText
  | c :: _ =>
      if c = '"' ∨ c = '\'' then
        let inside := cursor.advance 1
        let (value, rest) := inside.takeWhile (· != c)
        match rest.expect c with
        | .error fault => .error fault
        | .ok rest => .ok (some ⟨inside.offset, value⟩, rest)
      else if c = 'S' ∨ c = 'P' then
        match skipExternalId cursor with
        | .error fault => .error fault
        | .ok (false, _) => .error (.invalidExternalId cursor.offset)
        | .ok (true, rest) =>
            if isGeneral then
              let ahead := rest.skipSpaces
              if ahead.startsWith "NDATA" then do
                let rest ← (ahead.advance 5).expectSpaces
                let (_, rest) ← rest.optionalName
                .ok (none, rest)
              else .ok (none, ahead)
            else .ok (none, rest)
      else .error (.expectedAny "a quote, SYSTEM or PUBLIC" (leadByte c) cursor.offset)

def entityDeclaration (cursor : Cursor) (assembly : Assembly) :
    Except Fault (Cursor × Assembly) := do
  let rest ← (cursor.advance 8).expectSpaces
  let isGeneral := !rest.startsWith "%"
  let rest ← if isGeneral then .ok rest else (rest.advance 1).expectSpaces
  let (name, rest) ← rest.name
  let rest ← rest.expectSpaces
  let (value?, rest) ← entityValue isGeneral rest
  let assembly :=
    match value? with
    | some value => assembly.declare name value
    | none => assembly
  let rest ← rest.skipSpaces.expect '>'
  .ok (rest, assembly)

/-- Whether a declaration begins here that is skipped up to its end. -/
def atSkippedDeclaration (cursor : Cursor) : Bool :=
  cursor.startsWith "<!ELEMENT" || cursor.startsWith "<!ATTLIST" || cursor.startsWith "<!NOTATION"

/-- Takes declarations up to the closing bracket of a document type that begins at `start`. -/
def declarations (start : Nat) :
    Nat → Cursor → Assembly → Except Fault (Cursor × Assembly)
  | 0, cursor, assembly => .ok (cursor, assembly)
  | steps + 1, cursor, assembly =>
      if cursor.atEnd then .ok (cursor, assembly)
      else
        let ahead := cursor.skipSpaces
        if ahead.startsWith "<!ENTITY" then
          match entityDeclaration ahead assembly with
          | .error fault => .error fault
          | .ok (rest, assembly) => declarations start steps rest assembly
        else if ahead.startsWith "<!--" then
          match skipComment ahead with
          | .error fault => .error fault
          | .ok rest => declarations start steps rest assembly.appendAside
        else if ahead.startsWith "<?" then
          match skipInstruction ahead with
          | .error fault => .error fault
          | .ok rest => declarations start steps rest assembly.appendAside
        else if ahead.startsWith "]" then
          let rest := (ahead.advance 1).skipSpaces
          match rest.rest with
          | [] => .error .endOfText
          | '>' :: _ => .ok (rest.advance 1, assembly)
          | c :: _ => .error (.expectedAny "'>'" (leadByte c) rest.offset)
        else if atSkippedDeclaration ahead then
          match (ahead.takeWhile (· != '>')).2.expect '>' with
          -- the blame goes to the document type, not to the declaration in it
          | .error _ => .error (.unknownToken start)
          | .ok rest => declarations start steps rest assembly
        else .error (.unknownToken ahead.offset)

def documentType (cursor : Cursor) (assembly : Assembly) :
    Except Fault (Cursor × Assembly) := do
  let rest ← (cursor.advance 9).expectSpaces
  let (_, rest) ← rest.optionalName
  let (_, rest) ← skipExternalId rest.skipSpaces
  let rest := rest.skipSpaces
  let c ← rest.next
  if c = '>' then .ok (rest.advance 1, assembly)
  else if c = '[' then
    declarations cursor.offset (rest.rest.length + 1) (rest.advance 1) assembly
  else .error (.expectedAny "'[' or '>'" (leadByte c) rest.offset)

/-! ## The document -/

def skipMark (cursor : Cursor) : Cursor :=
  if cursor.rest.head? = some '\uFEFF' then cursor.advance 1 else cursor

def assemble (text : List Char) : Except Fault Assembly := do
  let start := skipMark (Cursor.ofText text)
  -- a declaration that goes on with another blank is taken for an instruction
  let rest ← if start.startsWith "<?xml " then skipDeclaration start else .ok start
  let (rest, assembly) ← misc rest {}
  let ahead := rest.skipSpaces
  let (rest, assembly) ←
    if ahead.startsWith "<!DOCTYPE" then
      match documentType ahead assembly with
      | .error fault => .error fault
      | .ok (rest, assembly) => misc rest assembly
    else .ok (ahead, assembly)
  let ahead := rest.skipSpaces
  let (rest, assembly) ←
    if ahead.startsWith "<" then takeElement ahead assembly else .ok (ahead, assembly)
  let (rest, assembly) ← misc rest assembly
  if rest.atEnd then .ok assembly else .error (.unknownToken rest.offset)

def Assembly.root? (assembly : Assembly) : Option Element :=
  (assembly.top.reverse.filterMap Node.element?).head?

/-- The document that a text spells, or why it spells none. -/
def Document.ofText (text : List Char) : Except Fault Document :=
  match assemble text with
  | .error fault => .error fault
  | .ok assembly =>
      match assembly.frames, assembly.root? with
      | _ :: _, _ => .error .unclosedRoot
      | [], none => .error .noRoot
      | [], some root => .ok ⟨text, root⟩

end ContainerReplay.Markup
