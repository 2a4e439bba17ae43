import ContainerReplay.Markup.Cursor
import ContainerReplay.Markup.Node

/-!
# Building the tree

The elements that are open while a document is read, with the children that they have so far, and
the attributes and namespace bindings of the tag that is being read.  These are checked when the
tag ends, and stay pending when a start tag is broken off by the end of an entity.
-/

set_option autoImplicit false

namespace ContainerReplay.Markup

/-- A namespace bound to a qualifier, or to none for the default namespace. -/
structure Binding where
  qualifier : Option String
  uri : String
  deriving Repr, DecidableEq

/-- An attribute before its qualifier is looked up. -/
structure PendingAttribute where
  name : QualifiedName
  value : String
  offset : Nat
  deriving Repr, DecidableEq

/-- An open element; its children stand latest first. -/
structure Frame where
  name : QualifiedName
  attributes : List Attribute
  bindings : List Binding
  offset : Nat
  children : List Node
  deriving Repr

def Frame.node (frame : Frame) : Node :=
  .element ⟨frame.name.name, frame.attributes, frame.offset⟩ frame.children.reverse

/-- The state of reading a document. -/
structure Assembly where
  /-- The declared entities with their replacement texts, in order. -/
  entities : List (String × Cursor) := []
  /-- The open elements, innermost first. -/
  frames : List Frame := []
  /-- What stands at the top level, latest first. -/
  top : List Node := []
  /-- The latest start tag and where it begins; none at the start of an entity. -/
  tag : Option (QualifiedName × Nat) := none
  attributes : List PendingAttribute := []
  bindings : List Binding := []
  /-- Whether the next text continues the latest node. -/
  afterText : Bool := false
  /-- How many references stand below the outermost reference that is being expanded. -/
  references : Nat := 0
  deriving Repr

namespace Assembly

def xmlUri : String := "http://www.w3.org/XML/1998/namespace"

def xmlnsUri : String := "http://www.w3.org/2000/xmlns/"

def append (assembly : Assembly) (node : Node) : Assembly :=
  match assembly.frames with
  | [] => { assembly with top := node :: assembly.top }
  | frame :: rest =>
      { assembly with frames := { frame with children := node :: frame.children } :: rest }

/-- The text as the latest child, joined with the one before it if that is text. -/
def joinedText (text : List Char) : List Node → List Node
  | .text content :: rest => .text (content ++ String.ofList text) :: rest
  | nodes => .text (String.ofList text) :: nodes

/-- Adds text: to the latest text if nothing came between, else as a child of its own. -/
def appendText (assembly : Assembly) (text : List Char) : Assembly :=
  if assembly.afterText then
    match assembly.frames with
    | [] => { assembly with top := joinedText text assembly.top }
    | frame :: rest =>
        { assembly with
          frames := { frame with children := joinedText text frame.children } :: rest }
  else { assembly.append (.text (String.ofList text)) with afterText := true }

def appendAside (assembly : Assembly) : Assembly :=
  { assembly.append .aside with afterText := false }

/-- Declares an entity; the first declaration of a name counts. -/
def declare (assembly : Assembly) (name : String) (replacement : Cursor) : Assembly :=
  -- `entity?` finds the first
  { assembly with entities := assembly.entities ++ [(name, replacement)], afterText := false }

def entity? (assembly : Assembly) (name : String) : Option Cursor :=
  match assembly.entities.find? (fun entity => entity.1 == name) with
  | some entity => some entity.2
  | none => none

def startTag (assembly : Assembly) (name : QualifiedName) (offset : Nat) :
    Except Fault Assembly :=
  if name.qualifier = "xmlns" then .error (.xmlnsElement (offset + 1))
  else .ok { assembly with tag := some (name, offset), afterText := false }

def bind (assembly : Assembly) (qualifier uri : String) (offset : Nat) :
    Except Fault Assembly :=
  if uri = xmlnsUri then .error (.reboundXmlns offset)
  else if qualifier = "xml" ∧ uri ≠ xmlUri then .error (.wrongXmlBinding offset)
  else if qualifier ≠ "xml" ∧ uri = xmlUri then .error (.reboundXml offset)
  else if assembly.bindings.any fun binding => binding.qualifier == some qualifier then
    .error (.duplicateBinding qualifier offset)
  -- the one binding that is in force everywhere is not kept
  else if uri = xmlUri then .ok assembly
  else .ok { assembly with bindings := assembly.bindings ++ [⟨some qualifier, uri⟩] }

def bindDefault (assembly : Assembly) (uri : String) (offset : Nat) : Except Fault Assembly :=
  if uri = xmlUri then .error (.reboundXml offset)
  else if uri = xmlnsUri then .error (.reboundXmlns offset)
  else .ok { assembly with bindings := assembly.bindings ++ [⟨none, uri⟩] }

/-- Adds an attribute, or the namespace binding that it spells, to the tag that is being read. -/
def addAttribute (assembly : Assembly) (name : QualifiedName) (value : String) (offset : Nat) :
    Except Fault Assembly :=
  if name.qualifier = "xmlns" then assembly.bind name.name value offset
  else if name.name = "xmlns" then assembly.bindDefault value offset
  else .ok { assembly with attributes := assembly.attributes ++ [⟨name, value, offset⟩] }

/-- The bindings in force in the tag that is being read: its own, then those of the element around
it that it does not replace. -/
def scope (assembly : Assembly) : List Binding :=
  match assembly.frames with
  | [] => assembly.bindings
  | frame :: _ =>
      assembly.bindings ++
        frame.bindings.filter fun outer =>
          !assembly.bindings.any fun own => own.qualifier == outer.qualifier

/-- The namespace of a qualifier; unqualified names need not have one. -/
def namespaceOf (scope : List Binding) (qualifier : String) (offset : Nat) :
    Except Fault (Option String) :=
  let wanted := if qualifier = "" then none else some qualifier
  match scope.find? (fun binding => binding.qualifier == wanted) with
  | some binding => .ok (some binding.uri)
  | none => if qualifier = "" then .ok none else .error (.unknownQualifier qualifier offset)

def attributeNamespace (scope : List Binding) (pending : PendingAttribute) :
    Except Fault (Option String) :=
  if pending.name.qualifier = "xml" then .ok (some xmlUri)
  -- the default namespace is not for attributes
  else if pending.name.qualifier = "" then .ok none
  else namespaceOf scope pending.name.qualifier pending.offset

/-- Looks up the pending attributes in order; no two may have one name in one namespace. -/
def resolveAttributes (scope : List Binding) (resolved : List Attribute) :
    List PendingAttribute → Except Fault (List Attribute)
  | [] => .ok resolved
  | pending :: rest =>
      match attributeNamespace scope pending with
      | .error fault => .error fault
      | .ok uri? =>
          if resolved.any fun a => a.uri? == uri? && a.name == pending.name.name then
            .error (.duplicateAttribute pending.name.name pending.offset)
          else
            resolveAttributes scope
              (resolved ++ [⟨uri?, pending.name.name, pending.value⟩]) rest

def finishTag (assembly : Assembly) (name : QualifiedName) (offset : Nat) :
    Except Fault (Frame × Assembly) :=
  let scope := assembly.scope
  match resolveAttributes scope [] assembly.attributes with
  | .error fault => .error fault
  | .ok attributes =>
      match namespaceOf scope name.qualifier (offset + 1) with
      | .error fault => .error fault
      | .ok _ =>
          .ok (⟨name, attributes, scope, offset, []⟩,
            { assembly with attributes := [], bindings := [], afterText := false })

/-- Ends a start tag: its element is open, or complete if the tag has no content. -/
def endStartTag (assembly : Assembly) (isEmpty : Bool) : Except Fault Assembly :=
  match assembly.tag with
  | none => .ok assembly
  | some (name, offset) =>
      match assembly.finishTag name offset with
      | .error fault => .error fault
      | .ok (frame, rest) =>
          if isEmpty then .ok (rest.append frame.node)
          else .ok { rest with frames := frame :: rest.frames }

/-- Ends an element.  An entity must have begun one before, and the names must agree. -/
def endElement (assembly : Assembly) (name : QualifiedName) (offset : Nat) :
    Except Fault Assembly :=
  match assembly.tag with
  | none => .error (.endTagInEntity offset)
  | some _ =>
      -- attributes of a tag that was broken off are still pending here
      match resolveAttributes assembly.scope [] assembly.attributes with
      | .error fault => .error fault
      | .ok _ =>
          match assembly.frames with
          | [] => .error (.endTagInEntity offset)
          | frame :: outer =>
              if frame.name ≠ name then
                .error (.mismatchedEnd frame.name.text name.text offset)
              else
                let rest := { assembly with
                  frames := outer, attributes := [], bindings := [], afterText := false }
                .ok (rest.append frame.node)

end Assembly

end ContainerReplay.Markup
