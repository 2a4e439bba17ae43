import ContainerReplay.Text.Quoted

/-!
# Why a text is no markup document

Each cause with the offset at which it lies, counted in characters from the start of the text.  The
wording turns offsets into rows and columns.
-/

set_option autoImplicit false

namespace ContainerReplay.Markup

/-- A place in a text; rows and columns count from one. -/
structure Position where
  row : Nat
  column : Nat
  deriving Repr, DecidableEq

namespace Position

def after (text : List Char) (offset : Nat) : Position :=
  let before := text.take offset
  ⟨before.count '\n' + 1, (before.reverse.takeWhile (· != '\n')).length + 1⟩

def text (position : Position) : String :=
  s!"{position.row}:{position.column}"

end Position

/-- Why reading stops. -/
inductive Fault where
  | expectedChar (wanted found : Char) (offset : Nat)
  /-- None of several things that could stand here. -/
  | expectedAny (wanted : String) (found : Char) (offset : Nat)
  | expectedText (wanted : String) (offset : Nat)
  | invalidName (offset : Nat)
  | forbiddenChar (found : Char) (offset : Nat)
  | endOfText
  | unknownToken (offset : Nat)
  | unexpectedDeclaration (offset : Nat)
  | dashesInComment (offset : Nat)
  | sectionEndInText (offset : Nat)
  | unescapedLess (offset : Nat)
  | mismatchedEnd (expected actual : String) (offset : Nat)
  | endTagInEntity (offset : Nat)
  | duplicateAttribute (name : String) (offset : Nat)
  | duplicateBinding (name : String) (offset : Nat)
  | unknownQualifier (name : String) (offset : Nat)
  | malformedReference (offset : Nat)
  | unknownReference (name : String) (offset : Nat)
  | referenceLoop (offset : Nat)
  | wrongXmlBinding (offset : Nat)
  | reboundXml (offset : Nat)
  | reboundXmlns (offset : Nat)
  | xmlnsElement (offset : Nat)
  | invalidExternalId (offset : Nat)
  | noRoot
  | unclosedRoot
  deriving Repr, DecidableEq

def Fault.message (text : List Char) (fault : Fault) : String :=
  let place := fun offset => (Position.after text offset).text
  match fault with
  | expectedChar wanted found offset => s!"expected '{wanted}' not '{found}' at {place offset}"
  | expectedAny wanted found offset => s!"expected {wanted} not '{found}' at {place offset}"
  | expectedText wanted offset => s!"expected '{wanted}' at {place offset}"
  | invalidName offset => s!"invalid name token at {place offset}"
  | forbiddenChar found offset =>
      s!"a non-XML character {Text.quotedChar found} found at {place offset}"
  | endOfText => "unexpected end of stream"
  | unknownToken offset => s!"unknown token at {place offset}"
  | unexpectedDeclaration offset => s!"unexpected XML declaration at {place offset}"
  | dashesInComment offset => s!"comment at {place offset} contains '--'"
  | sectionEndInText offset => s!"']]>' at {place offset} is not allowed inside a character data"
  | unescapedLess offset => s!"unescaped '<' found at {place offset}"
  | mismatchedEnd expected actual offset =>
      s!"expected '{expected}' tag, not '{actual}' at {place offset}"
  | endTagInEntity offset => s!"unexpected close tag at {place offset}"
  | duplicateAttribute name offset => s!"attribute '{name}' at {place offset} is already defined"
  | duplicateBinding name offset => s!"namespace '{name}' at {place offset} is already defined"
  | unknownQualifier name offset => s!"an unknown namespace prefix '{name}' at {place offset}"
  | malformedReference offset => s!"malformed entity reference at {place offset}"
  | unknownReference name offset => s!"unknown entity reference '{name}' at {place offset}"
  | referenceLoop offset => s!"a possible entity reference loop is detected at {place offset}"
  | wrongXmlBinding offset =>
      s!"'xml' namespace prefix mapped to wrong URI at {place offset}"
  | reboundXml offset =>
      s!"the 'xml' namespace URI is used for not 'xml' prefix at {place offset}"
  | reboundXmlns offset =>
      s!"the 'xmlns' URI is used at {place offset}, but it must not be declared"
  | xmlnsElement offset => s!"the 'xmlns' prefix is used at {place offset}, but it must not be"
  | invalidExternalId offset => s!"invalid ExternalID at {place offset}"
  | noRoot => "the document does not have a root node"
  | unclosedRoot => "the root node was opened but never closed"

end ContainerReplay.Markup
