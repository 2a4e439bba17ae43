import ContainerReplay.Proofs.CommentRemoval
import ContainerReplay.Proofs.FailedReads

/-!
# The order of sections

A descriptor is read kind by kind, and within a kind in the order of the document.  Two descriptors
whose entries stand in another order are therefore read alike as long as the entries of one kind keep
theirs: only the lines change that warnings name.
-/

set_option autoImplicit false

namespace ContainerReplay

namespace Markup

/-! ## The same tree in another place -/

mutual

/-- Whether two trees are the same, wherever their elements begin. -/
def Node.sameTree : Node → Node → Bool
  | .element tag children, .element tag' children' =>
      tag.name == tag'.name && tag.attributes == tag'.attributes &&
        Node.sameTrees children children'
  | .text content, .text content' => content == content'
  | .aside, .aside => true
  | _, _ => false

def Node.sameTrees : List Node → List Node → Bool
  | [], [] => true
  | node :: rest, node' :: rest' => node.sameTree node' && Node.sameTrees rest rest'
  | _, _ => false

end

mutual

theorem NodePairs.of_sameTree : ∀ {node node' : Node}, node.sameTree node' = true →
    NodePairs Element.Alike node node'
  | .element tag children, .element tag' children', same => by
      simp only [Node.sameTree, Bool.and_eq_true, beq_iff_eq] at same
      obtain ⟨⟨name, attributes⟩, sameChildren⟩ := same
      have pairs := NodePairs.of_sameTrees sameChildren
      exact .element (lifts_alike ⟨tag, children⟩ ⟨tag', children'⟩ name attributes
        (NodePairs.text? pairs) (NodePairs.elements pairs))
  | .text content, .text content', same => by
      simp only [Node.sameTree, beq_iff_eq] at same
      rw [same]
      exact .text content'
  | .aside, .aside, _ => .aside
  | .element _ _, .text _, same => by cases same
  | .element _ _, .aside, same => by cases same
  | .text _, .element _ _, same => by cases same
  | .text _, .aside, same => by cases same
  | .aside, .element _ _, same => by cases same
  | .aside, .text _, same => by cases same

theorem NodePairs.of_sameTrees : ∀ {nodes nodes' : List Node},
    Node.sameTrees nodes nodes' = true → List.Forall₂ (NodePairs Element.Alike) nodes nodes'
  | [], [], _ => .nil
  | node :: rest, node' :: rest', same => by
      simp only [Node.sameTrees, Bool.and_eq_true] at same
      exact .cons (NodePairs.of_sameTree same.1) (NodePairs.of_sameTrees same.2)
  | [], _ :: _, same => by cases same
  | _ :: _, [], same => by cases same

end

namespace Element

/-- Elements that are the same with all that they hold, wherever they begin. -/
def SameTree (element element' : Element) : Prop :=
  Node.sameTree (.element element.tag element.children)
    (.element element'.tag element'.children) = true

instance (element element' : Element) : Decidable (SameTree element element') :=
  inferInstanceAs (Decidable (_ = true))

theorem SameTree.alike {element element' : Element} (same : SameTree element element') :
    Alike element element' := by
  cases NodePairs.of_sameTree same with
  | element alike => exact alike

/-! ## Another order -/

/-- The elements in another order, in which those of one name stand as before. -/
structure Reorders (elements moved : List Element) : Prop where
  perm : elements.Perm moved
  order : ∀ name, elements.filter (fun element => element.name == name) =
    moved.filter fun element => element.name == name

/-- Neighbours may change places if they have different names. -/
theorem reorders_swap {first second : Element} (apart : first.name ≠ second.name)
    (lead rest : List Element) :
    Reorders (lead ++ first :: second :: rest) (lead ++ second :: first :: rest) where
  perm := .append_left lead (.swap second first rest)
  order := by
    intro name
    rw [List.filter_append, List.filter_append]
    congr 1
    by_cases isFirst : first.name = name
    · have notSecond : second.name ≠ name := fun isSecond => apart (isFirst.trans isSecond.symm)
      simp [isFirst, notSecond]
    · simp [List.filter_cons, isFirst]

/-- The same elements in another order and in other places, those of one name in the order in which
they were. -/
def Rearranged (elements elements' : List Element) : Prop :=
  ∃ moved, Reorders elements moved ∧ List.Forall₂ SameTree moved elements'

theorem Rearranged.alike {root root' : Element}
    (rearranged : Rearranged root.elements root'.elements) (name : String) :
    List.Forall₂ Alike (root.childrenNamed name) (root'.childrenNamed name) := by
  obtain ⟨moved, reorders, same⟩ := rearranged
  have alike : List.Forall₂ Alike moved root'.elements := same.imp fun _ _ => SameTree.alike
  rw [childrenNamed, reorders.order name]
  refine List.rel_filter (fun element element' pair => ?_) alike
  simp only [(pair root root).name_eq]

end Element

end Markup

namespace Descriptor

open Markup (Element)

namespace Deployment

/-- The order of the sections of a descriptor does not matter. -/
theorem readRoot_rearranged {source source' : Source}
    (resource : source.resource = source'.resource)
    (rearranged : Element.Rearranged source.document.root.elements source'.document.root.elements)
    (reading : Reading) : (readRoot source reading).Agrees (readRoot source' reading) := by
  -- no element differs in its texts, so any serves as the one that may
  let holder := source.document.root
  have sections : ∀ name, List.Forall₂ (Element.Matches holder holder)
      (source.document.root.childrenNamed name) (source'.document.root.childrenNamed name) := by
    intro name
    exact (rearranged.alike name).imp fun _ _ alike => alike holder holder
  exact readRoot_sections (fun _ => rfl) resource sections reading

/-- Two descriptors with the same root, and below it the same elements in another order that keeps
the order of those with one name, leave the same application, are counted alike and give the same
diagnostics, line numbers apart. -/
theorem readBytes_rearranged {resource : String} {bytes bytes' : ByteArray}
    {text text' : List Char} {document document' : Markup.Document}
    (decoded : decode resource bytes = .ok text) (decoded' : decode resource bytes' = .ok text')
    (read : Markup.Document.ofText text = .ok document)
    (read' : Markup.Document.ofText text' = .ok document')
    (sameRoot : document.root.name = document'.root.name)
    (rearranged : Element.Rearranged document.root.elements document'.root.elements)
    (survey : Survey) :
    SameOutcome (readBytes resource bytes survey) (readBytes resource bytes' survey) ∧
      (document.root.name ∈ roots → ∃ first second,
        readBytes resource bytes survey = .ok first ∧
          readBytes resource bytes' survey = .ok second ∧ first.Agrees second) := by
  have named : (Source.mk resource document).resource = (Source.mk resource document').resource :=
    rfl
  have agrees := readRoot_rearranged named rearranged ⟨survey, {}⟩
  rw [readBytes, readBytes, openSource_eq decoded read, openSource_eq decoded' read', ← sameRoot]
  by_cases known : roots.contains document.root.name = true
  · simp only [if_pos known]
    exact ⟨.read agrees, fun _ => ⟨_, _, rfl, rfl, agrees⟩⟩
  · simp only [if_neg known]
    refine ⟨.refused _, fun listed => absurd ?_ known⟩
    exact List.contains_iff_mem.mpr listed

/-- Whether two texts are documents with an accepted root, the first two elements below it have
changed places, and the second text is read with a summary. -/
def startsSwapped (text text' : List Char) (summary : ReadSummary) : Bool :=
  (Markup.Document.ofText text).toOption.any fun document =>
    (Markup.Document.ofText text').toOption.any fun document' =>
      document.root.name == document'.root.name && roots.contains document.root.name &&
        (readRoot ⟨"web.xml", document'⟩ ⟨{}, {}⟩).summary == summary &&
        match document.root.elements with
        | first :: second :: rest =>
            first.name != second.name &&
              decide (List.Forall₂ Element.SameTree (second :: first :: rest)
                document'.root.elements)
        | _ => false

theorem exists_of_startsSwapped {text text' : List Char} {summary : ReadSummary}
    (swapped : startsSwapped text text' summary = true) :
    ∃ document document', Markup.Document.ofText text = .ok document ∧
      Markup.Document.ofText text' = .ok document' ∧ document.root.name = document'.root.name ∧
      document.root.name ∈ roots ∧
      (readRoot ⟨"web.xml", document'⟩ ⟨{}, {}⟩).summary = summary ∧
      Element.Rearranged document.root.elements document'.root.elements := by
  obtain ⟨document, read, second⟩ := exists_ok_of_any swapped
  obtain ⟨document', read', checked⟩ := exists_ok_of_any second
  simp only [Bool.and_eq_true, beq_iff_eq, List.contains_iff_mem] at checked
  obtain ⟨⟨⟨sameRoot, accepted⟩, counted⟩, places⟩ := checked
  refine ⟨document, document', read, read', sameRoot, accepted, counted, ?_⟩
  split at places
  case h_1 first second rest elements =>
      simp only [Bool.and_eq_true, bne_iff_ne, decide_eq_true_eq] at places
      rw [elements]
      exact ⟨second :: first :: rest, Element.reorders_swap places.1 [] rest, places.2⟩
  case h_2 => cases places

def declarationText : String :=
  "<filter><filter-name>f</filter-name><filter-class>F</filter-class></filter>"

def mappingText : String :=
  "<filter-mapping><filter-name>f</filter-name></filter-mapping>"

def mappingSecond : List Char :=
  ("<web-app>" ++ declarationText ++ mappingText ++ "</web-app>").toList

def mappingFirst : List Char :=
  ("<web-app>" ++ mappingText ++ declarationText ++ "</web-app>").toList

/-- The mapping of a filter may stand before its declaration. -/
theorem readBytes_rearranged_mapping_first :
    ∃ document document' first second,
      decode "web.xml" (String.ofList mappingSecond).toUTF8 = .ok mappingSecond ∧
      decode "web.xml" (String.ofList mappingFirst).toUTF8 = .ok mappingFirst ∧
      Markup.Document.ofText mappingSecond = .ok document ∧
      Markup.Document.ofText mappingFirst = .ok document' ∧
      document.root.name = document'.root.name ∧
      Element.Rearranged document.root.elements document'.root.elements ∧
      document.root.name ∈ roots ∧
      readBytes "web.xml" (String.ofList mappingSecond).toUTF8 {} = .ok first ∧
      readBytes "web.xml" (String.ofList mappingFirst).toUTF8 {} = .ok second ∧
      first.Agrees second ∧ second.summary = ⟨2, 0⟩ := by
  obtain ⟨document, document', read, read', sameRoot, accepted, counted, rearranged⟩ :=
    exists_of_startsSwapped (show startsSwapped mappingSecond mappingFirst ⟨2, 0⟩ = true by
      decide +kernel)
  have decoded := decode_utf8 "web.xml" (show (declaredEncoding?
    (mappingSecond.flatMap String.utf8EncodeChar)).any latin1Names.contains = false by
      decide +kernel)
  have decoded' := decode_utf8 "web.xml" (show (declaredEncoding?
    (mappingFirst.flatMap String.utf8EncodeChar)).any latin1Names.contains = false by
      decide +kernel)
  obtain ⟨first, second, readFirst, readSecond, agrees⟩ :=
    (readBytes_rearranged decoded decoded' read read' sameRoot rearranged {}).2 accepted
  refine ⟨document, document', first, second, decoded, decoded', read, read', sameRoot,
    rearranged, accepted, readFirst, readSecond, agrees, ?_⟩
  rw [readBytes, openSource_eq decoded' read', if_pos (List.contains_iff_mem.mpr
    (sameRoot ▸ accepted))] at readSecond
  cases readSecond
  exact counted

end Deployment

end Descriptor

end ContainerReplay
