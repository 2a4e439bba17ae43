import ContainerReplay.Markup.Assembly
import ContainerReplay.Markup.Reference

/-!
# Content

Elements, text, comments, instructions and sections, and the entities in them.  An entity in text is
read as content of its own; in an attribute value its text is inserted.  Entities nest to a depth of
ten, and one outermost reference may lead to 255 others.
-/

set_option autoImplicit false

namespace ContainerReplay.Markup

/-- How deep entities may nest. -/
def maxDepth : Nat := 10

/-- How many references one outermost reference may lead to. -/
def maxReferences : Nat := 255

/-- Counts a reference that stands inside an entity. -/
def countReference (isNested : Bool) (references offset : Nat) : Except Fault Nat :=
  if isNested = false then .ok references
  else if references < maxReferences then .ok (references + 1)
  else .error (.referenceLoop offset)

/-! ## Attribute values -/

/-- A character of an attribute value as it counts: every white space is a space, and of a carriage
return with a line feed only the line feed counts. -/
def valueChar (c : Char) (next : Option Char) : List Char :=
  if c = '\r' ∧ next = some '\n' then []
  else if c = '\n' ∨ c = '\r' ∨ c = '\t' then [' ']
  else [c]

/-- A value under expansion: its characters, latest first, and the count of references. -/
structure ValueState where
  taken : List Char
  references : Nat

/-- How the text of an entity is inserted, where entities may still nest. -/
abbrev InsertEntity := Option (Cursor → ValueState → Except Fault ValueState)

/-- Takes the characters of a value, each reference replaced by what it stands for. -/
def takeValue (assembly : Assembly) (isNested : Bool) (insert : InsertEntity) :
    Nat → Cursor → ValueState → Except Fault ValueState
  | 0, _, state => .ok state
  | steps + 1, cursor, state =>
      match cursor.rest with
      | [] => .ok state
      | c :: rest =>
          if c ≠ '&' then
            takeValue assembly isNested insert steps (cursor.advance 1)
              { state with taken := (valueChar c rest.head?).reverse ++ state.taken }
          else
            match Reference.take? cursor with
            | none => .error (.malformedReference cursor.offset)
            | some (.char c, after) =>
                -- only inside an entity does a referenced character count like a written one
                if isNested = false then
                  takeValue assembly isNested insert steps after
                    { state with taken := c :: state.taken }
                else if c = '<' then .error (.unescapedLess cursor.offset)
                else
                  takeValue assembly isNested insert steps after
                    { state with taken := (valueChar c none).reverse ++ state.taken }
            | some (.entity name, after) =>
                match assembly.entity? name with
                | none => .error (.unknownReference name cursor.offset)
                | some replacement =>
                    match countReference isNested state.references after.offset, insert with
                    | .error fault, _ => .error fault
                    | .ok _, none => .error (.referenceLoop after.offset)
                    | .ok references, some insert =>
                        match insert replacement { state with references } with
                        | .error fault => .error fault
                        | .ok inserted =>
                            takeValue assembly isNested insert steps after
                              -- the count starts again with the next outermost reference
                              (if isNested then inserted else { inserted with references := 0 })

/-- The value that a cursor's text spells, with a number of levels of entities left. -/
def expandValue (assembly : Assembly) : Nat → Cursor → ValueState → Except Fault ValueState
  | 0, cursor, state =>
      takeValue assembly true none (cursor.rest.length + 1) cursor state
  | levels + 1, cursor, state =>
      takeValue assembly (levels + 1 < maxDepth) (some (expandValue assembly levels))
        (cursor.rest.length + 1) cursor state

/-! ## Text -/

/-- Text under normalization: its characters, latest first, and whether the next character counts as
it is written because it follows a character reference. -/
structure TextBuffer where
  taken : List Char := []
  isVerbatim : Bool := false

namespace TextBuffer

def push (buffer : TextBuffer) (c : Char) : TextBuffer :=
  { buffer with taken := c :: buffer.taken }

/-- Adds a character with line ends normalized: a carriage return becomes a line feed, together with
the line feed that may follow it. -/
def pushNormalized (buffer : TextBuffer) (c : Char) (isLast : Bool) : TextBuffer :=
  match buffer.taken with
  | '\r' :: before =>
      if isLast ∧ c = '\r' then { buffer with taken := '\n' :: '\n' :: before }
      else if c = '\n' then { buffer with taken := '\n' :: before }
      else { buffer with taken := c :: '\n' :: before }
  | taken =>
      if isLast ∧ c = '\r' then { buffer with taken := '\n' :: taken }
      else { buffer with taken := c :: taken }

def pushPlain (buffer : TextBuffer) (c : Char) (isLast : Bool) : TextBuffer :=
  if buffer.isVerbatim then { buffer.push c with isVerbatim := false }
  else buffer.pushNormalized c isLast

def pushReferenced (buffer : TextBuffer) (c : Char) (isNested isLast : Bool) : TextBuffer :=
  if isNested then buffer.pushNormalized c isLast
  else { buffer.push c with isVerbatim := true }

def flush (buffer : TextBuffer) (assembly : Assembly) : Assembly :=
  match buffer.taken with
  | [] => assembly
  | taken => assembly.appendText taken.reverse

end TextBuffer

def normalizedFrom (buffer : TextBuffer) : List Char → List Char
  | [] => buffer.taken.reverse
  | c :: rest => normalizedFrom (buffer.pushNormalized c rest.isEmpty) rest

def normalized (text : List Char) : List Char := normalizedFrom {} text

/-- How an entity in text is read, where entities may still nest. -/
abbrev ReadEntity := Option (Cursor → Assembly → Except Fault Assembly)

/-- Reads an entity as content: it starts with no tag of its own and gives back the one around
it. -/
def enterEntity (isNested : Bool) (read : Cursor → Assembly → Except Fault Assembly)
    (replacement : Cursor) (assembly : Assembly) : Except Fault Assembly :=
  match read replacement { assembly with tag := none } with
  | .error fault => .error fault
  | .ok after =>
      .ok { after with
        tag := assembly.tag
        references := if isNested then after.references else 0 }

def takeText (isNested : Bool) (read : ReadEntity) :
    Nat → Cursor → TextBuffer → Assembly → Except Fault Assembly
  | 0, _, buffer, assembly => .ok (buffer.flush assembly)
  | steps + 1, cursor, buffer, assembly =>
      match cursor.rest with
      | [] => .ok (buffer.flush assembly)
      | c :: rest =>
          if c ≠ '&' then
            takeText isNested read steps (cursor.advance 1) (buffer.pushPlain c rest.isEmpty)
              assembly
          else
            match Reference.take? cursor with
            | none => .error (.malformedReference cursor.offset)
            | some (.char c, after) =>
                takeText isNested read steps after
                  (buffer.pushReferenced c isNested after.atEnd) assembly
            | some (.entity name, after) =>
                match assembly.entity? name with
                | none => .error (.unknownReference name cursor.offset)
                | some replacement =>
                    let assembly := buffer.flush assembly
                    match countReference isNested assembly.references after.offset, read with
                    | .error fault, _ => .error fault
                    | .ok _, none => .error (.referenceLoop after.offset)
                    | .ok references, some content =>
                        match enterEntity isNested content replacement
                            { assembly with references } with
                        | .error fault => .error fault
                        | .ok assembly => takeText isNested read steps after {} assembly

def addText (isNested : Bool) (read : ReadEntity) (run : Cursor) (assembly : Assembly) :
    Except Fault Assembly :=
  -- without references and carriage returns there is nothing to normalize
  if run.rest.any fun c => c == '&' || c == '\r' then
    takeText isNested read (run.rest.length + 1) run {} assembly
  else .ok (assembly.appendText run.rest)

/-! ## Pieces of content -/

def occursIn (text : List Char) : List Char → Bool
  | [] => text.isEmpty
  | c :: rest => text.isPrefixOf (c :: rest) || occursIn text rest

def skipComment (cursor : Cursor) : Except Fault Cursor := do
  let (body, rest) ← (cursor.advance 4).takeUntil ("-->".toList.isPrefixOf ·)
  let rest ← rest.expectText "-->"
  if occursIn "--".toList body || body.getLast? == some '-' then
    .error (.dashesInComment cursor.offset)
  else .ok rest

def skipInstruction (cursor : Cursor) : Except Fault Cursor := do
  if cursor.startsWith "<?xml " then
    .error (.unexpectedDeclaration cursor.offset)
  else
    let (_, rest) ← (cursor.advance 2).name
    let (_, rest) ← rest.skipSpaces.takeUntil ("?>".toList.isPrefixOf ·)
    rest.expectText "?>"

def addSection (cursor : Cursor) (assembly : Assembly) : Except Fault (Cursor × Assembly) := do
  let (body, rest) ← (cursor.advance 9).takeUntil ("]]>".toList.isPrefixOf ·)
  let rest ← rest.expectText "]]>"
  .ok (rest, assembly.appendText (normalized body))

def textRun (cursor : Cursor) : Except Fault (Cursor × Cursor) := do
  let (body, rest) ← cursor.takeUntil fun ahead => ahead.head? == some '<'
  if occursIn "]]>".toList body then .error (.sectionEndInText rest.offset)
  else .ok (⟨cursor.offset, body⟩, rest)

def endTag (cursor : Cursor) (assembly : Assembly) : Except Fault (Cursor × Assembly) := do
  let (name, rest) ← (cursor.advance 2).qualifiedName
  let rest ← rest.skipSpaces.expect '>'
  let assembly ← assembly.endElement name cursor.offset
  .ok (rest, assembly)

/-- Takes a name, an equals sign and a quoted text without `<`; the text comes with its place. -/
def takeAttribute (cursor : Cursor) :
    Except Fault (QualifiedName × Cursor × Cursor) := do
  let (name, rest) ← cursor.qualifiedName
  let rest ← rest.expectEquals
  let (quote, inside) ← rest.expectQuote
  let (value, rest) ← inside.takeUntil fun ahead =>
    ahead.head? == some quote || ahead.head? == some '<'
  let rest ← rest.expect quote
  .ok (name, ⟨inside.offset, value⟩, rest)

def addAttribute (levels : Nat) (cursor : Cursor) (assembly : Assembly) :
    Except Fault (Cursor × Assembly) := do
  let (name, spelled, rest) ← takeAttribute cursor
  let value ← expandValue assembly levels spelled ⟨[], assembly.references⟩
  let assembly := { assembly with references := value.references }
  let assembly ← assembly.addAttribute name (String.ofList value.taken.reverse) cursor.offset
  .ok (rest, assembly)

/-- How a start tag ends. -/
inductive TagEnd where
  | opened
  | complete
  /-- The text ends after a name or a value. -/
  | brokenOff
  deriving Repr, DecidableEq

def takeTag (levels : Nat) :
    Nat → Cursor → Assembly → Except Fault (TagEnd × Cursor × Assembly)
  | 0, cursor, assembly => .ok (.brokenOff, cursor, assembly)
  | steps + 1, cursor, assembly =>
      if cursor.atEnd then .ok (.brokenOff, cursor, assembly)
      else
        let ahead := cursor.skipSpaces
        match ahead.rest with
        -- a tag may break off after a name or a value, but not after white space
        | [] => .error .endOfText
        | '/' :: _ => do
            let rest ← (ahead.advance 1).expect '>'
            let assembly ← assembly.endStartTag true
            .ok (.complete, rest, assembly)
        | '>' :: _ => do
            let assembly ← assembly.endStartTag false
            .ok (.opened, ahead.advance 1, assembly)
        | _ =>
            if cursor.atSpace = false then .error cursor.missingSpace
            else
              match addAttribute levels ahead assembly with
              | .error fault => .error fault
              | .ok (rest, assembly) => takeTag levels steps rest assembly

def startTag (levels : Nat) (cursor : Cursor) (assembly : Assembly) :
    Except Fault (TagEnd × Cursor × Assembly) := do
  let (name, rest) ← (cursor.advance 1).qualifiedName
  let assembly ← assembly.startTag name cursor.offset
  takeTag levels (rest.rest.length + 1) rest assembly

/-! ## Content as a whole -/

/-- What begins at a place in content. -/
inductive ContentRule where
  | finished
  | comment
  | cdata
  | instruction
  | endTag
  | startTag
  | text
  | unknown
  deriving Repr, DecidableEq

def ContentRule.of (cursor : Cursor) : ContentRule :=
  match cursor.rest with
  | [] => finished
  | ['<'] => unknown
  | '<' :: '!' :: _ =>
      if cursor.startsWith "<!--" then comment
      else if cursor.startsWith "<![CDATA[" then cdata
      else unknown
  | '<' :: '?' :: _ => instruction
  | '<' :: '/' :: _ => endTag
  | '<' :: _ => startTag
  | _ => text

/-- Takes content until the text ends or as many elements have ended as were open, counting the one
around it. -/
def takeContent (levels : Nat) (read : ReadEntity) :
    Nat → Nat → Cursor → Assembly → Except Fault (Cursor × Assembly)
  | 0, _, cursor, assembly => .ok (cursor, assembly)
  | steps + 1, depth, cursor, assembly =>
      match ContentRule.of cursor with
      | .finished => .ok (cursor, assembly)
      | .unknown => .error (.unknownToken cursor.offset)
      | .comment =>
          match skipComment cursor with
          | .error fault => .error fault
          | .ok rest => takeContent levels read steps depth rest assembly.appendAside
      | .instruction =>
          match skipInstruction cursor with
          | .error fault => .error fault
          | .ok rest => takeContent levels read steps depth rest assembly.appendAside
      | .cdata =>
          match addSection cursor assembly with
          | .error fault => .error fault
          | .ok (rest, assembly) => takeContent levels read steps depth rest assembly
      | .text =>
          match textRun cursor with
          | .error fault => .error fault
          | .ok (run, rest) =>
              match addText (levels < maxDepth) read run assembly with
              | .error fault => .error fault
              | .ok assembly => takeContent levels read steps depth rest assembly
      | .endTag =>
          match endTag cursor assembly with
          | .error fault => .error fault
          | .ok (rest, assembly) =>
              -- this was the end of the element around the content
              if depth ≤ 1 then .ok (rest, assembly)
              else takeContent levels read steps (depth - 1) rest assembly
      | .startTag =>
          match startTag levels cursor assembly with
          | .error fault => .error fault
          | .ok (.opened, rest, assembly) =>
              takeContent levels read steps (depth + 1) rest assembly
          | .ok (_, rest, assembly) => takeContent levels read steps depth rest assembly

/-- Reads the text of an entity as content, with a number of levels of entities left. -/
def readEntity : Nat → Cursor → Assembly → Except Fault Assembly
  | 0, cursor, assembly =>
      match takeContent 0 none (cursor.rest.length + 1) 1 cursor assembly with
      | .error fault => .error fault
      | .ok (_, assembly) => .ok assembly
  | levels + 1, cursor, assembly =>
      match takeContent (levels + 1) (some (readEntity levels)) (cursor.rest.length + 1) 1 cursor
          assembly with
      | .error fault => .error fault
      | .ok (_, assembly) => .ok assembly

def takeElement (cursor : Cursor) (assembly : Assembly) : Except Fault (Cursor × Assembly) :=
  match startTag maxDepth cursor assembly with
  | .error fault => .error fault
  | .ok (.opened, rest, assembly) =>
      takeContent maxDepth (some (readEntity (maxDepth - 1))) (rest.rest.length + 1) 1 rest assembly
  | .ok (_, rest, assembly) => .ok (rest, assembly)

end ContainerReplay.Markup
