import ContainerReplay.Descriptor.Encoding
import ContainerReplay.Markup.Document
import ContainerReplay.Survey

/-!
# Reading descriptors

What all descriptors have in common: a document with an expected root, elements whose texts and
attributes count only when they are not blank, and entries that are taken or skipped with a warning.
-/

set_option autoImplicit false

namespace ContainerReplay.Descriptor

/-- How many entries of a descriptor were taken and how many were skipped. -/
structure ReadSummary where
  entries : Nat := 0
  skipped : Nat := 0
  deriving Repr, DecidableEq

/-- The state of reading one descriptor. -/
structure Reading where
  survey : Survey
  summary : ReadSummary := {}
  deriving DecidableEq

structure Source where
  resource : String
  document : Markup.Document

def unexpectedRoot (found : String) (expected : List String) : String :=
  let choices := "> or <".intercalate expected
  s!"unexpected root element <{found}>, expected <{choices}>"

def openSource (resource : String) (roots : List String) (bytes : ByteArray) :
    Except DetectionError Source :=
  match decode resource bytes with
  | .error error => .error error
  | .ok text =>
      match Markup.Document.ofText text with
      | .error fault => .error (.malformed resource (fault.message text))
      | .ok document =>
          if roots.contains document.root.name then .ok ⟨resource, document⟩
          else .error (.malformed resource (unexpectedRoot document.root.name roots))

def Source.position (source : Source) (element : Markup.Element) : String :=
  s!"line {source.document.line element}"

/-- The trimmed text of an element; blank text counts as none. -/
def elementText? (element : Markup.Element) : Option String :=
  match element.text? with
  | none => none
  | some text => Text.nonBlank? text

def childText? (element : Markup.Element) (name : String) : Option String :=
  match element.childrenNamed name with
  | [] => none
  -- a blank first child hides the later ones
  | child :: _ => elementText? child

def childTexts (element : Markup.Element) (name : String) : List String :=
  (element.childrenNamed name).filterMap elementText?

/-- The trimmed value of an attribute; a blank one counts as none. -/
def attributeText? (element : Markup.Element) (name : String) : Option String :=
  match element.attribute? name with
  | none => none
  | some value => Text.nonBlank? value

namespace Reading

def count (reading : Reading) : Reading :=
  { reading with
    summary := { reading.summary with entries := reading.summary.entries + 1 } }

def update (reading : Reading) (change : Survey → Survey) : Reading :=
  { reading with survey := change reading.survey }

def updateApp (reading : Reading) (change : Application → Application) : Reading :=
  reading.update fun survey => survey.update change

def remark (reading : Reading) (source : Source) (severity : Severity) (message : String) :
    Reading :=
  reading.update fun survey => survey.record severity message (some source.resource)

/-- Counts an entry as skipped, with a warning that is given in full. -/
def skipSaying (reading : Reading) (source : Source) (message : String) : Reading :=
  let warned := reading.remark source .warn message
  { warned with summary := { warned.summary with skipped := warned.summary.skipped + 1 } }

def skip (reading : Reading) (source : Source) (element : Markup.Element) (reason : String) :
    Reading :=
  reading.skipSaying source s!"Skipping {reason} at {source.position element}"

end Reading

end ContainerReplay.Descriptor
