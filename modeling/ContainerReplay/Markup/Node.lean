import ContainerReplay.Markup.Fault

/-!
# The tree of a markup document

Elements with their attributes and children, and text.  Comments and processing instructions leave a
mark, because they separate the texts on their two sides.
-/

set_option autoImplicit false

namespace ContainerReplay.Markup

/-- An attribute; one without a qualifier lies in no namespace. -/
structure Attribute where
  uri? : Option String
  name : String
  value : String
  deriving Repr, DecidableEq

/-- The head of an element.  Its name is the one after the qualifier. -/
structure Tag where
  name : String
  attributes : List Attribute
  /-- Where the element begins in the text. -/
  offset : Nat
  deriving Repr, DecidableEq

inductive Node where
  | element (tag : Tag) (children : List Node)
  | text (content : String)
  /-- A comment or a processing instruction. -/
  | aside
  deriving Repr

/-- An element on its own. -/
structure Element where
  tag : Tag
  children : List Node
  deriving Repr

def Node.element? : Node → Option Element
  | .element tag children => some ⟨tag, children⟩
  | .text _ => none
  | .aside => none

namespace Element

def name (element : Element) : String := element.tag.name

def elements (element : Element) : List Element :=
  element.children.filterMap Node.element?

def childrenNamed (element : Element) (name : String) : List Element :=
  element.elements.filter fun child => child.name == name

/-- The text of the first child, if that is text. -/
def text? (element : Element) : Option String :=
  match element.children with
  | .text content :: _ => some content
  | _ => none

/-- The value of the attribute with a name and without a namespace. -/
def attribute? (element : Element) (name : String) : Option String :=
  match element.tag.attributes.find? (fun a => a.uri? == none && a.name == name) with
  | some found => some found.value
  | none => none

end Element

structure Document where
  text : List Char
  root : Element
  deriving Repr

def Document.line (document : Document) (element : Element) : Nat :=
  (Position.after document.text element.tag.offset).row

end ContainerReplay.Markup
