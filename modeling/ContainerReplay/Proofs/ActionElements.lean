import ContainerReplay.Descriptor.ActionConfig
import ContainerReplay.Proofs.ComponentTable
import ContainerReplay.Proofs.TextShapes

/-!
# What the elements of an action configuration say

An action configuration says by its elements which actions there are and which forwards and form beans
they share.  What it says is told here on the tree alone: by the child elements with a name, and by the
values of attributes, of which the blanks around them do not count.  What is read off an element is
exactly what it says.
-/

set_option autoImplicit false

namespace ContainerReplay

/-! ## Elements of a tree -/

namespace Markup

/-- The element that a node is, if it has the name. -/
def Node.called? (name : String) : Node → Option Element
  | .element tag children => if tag.name = name then some ⟨tag, children⟩ else none
  | .text _ => none
  | .aside => none

namespace Element

/-- The child elements with a name, in document order. -/
def called (element : Element) (name : String) : List Element :=
  element.children.filterMap (Node.called? name)

/-- The first attribute of the element with a name and without a namespace has a value. -/
def Carries (element : Element) (name value : String) : Prop :=
  ∃ before after, element.tag.attributes = before ++ ⟨none, name, value⟩ :: after ∧
    ∀ other ∈ before, ¬ (other.uri? = none ∧ other.name = name)

/-- An attribute of the element gives a text: its value is that text but for blanks around it. -/
def Gives (element : Element) (name text : String) : Prop :=
  ∃ value, element.Carries name value ∧ Text.Framed value text

variable {element : Element}

theorem childrenNamed_eq (element : Element) (name : String) :
    element.childrenNamed name = element.called name := by
  rw [childrenNamed, elements, List.filter_filterMap]
  refine List.filterMap_congr fun node _ => ?_
  cases node with
  | element tag children =>
      by_cases same : tag.name = name <;> simp [Node.element?, Node.called?, Element.name, same]
  | text content => rfl
  | aside => rfl

theorem attribute?_eq_some_iff {name value : String} :
    element.attribute? name = some value ↔ element.Carries name value := by
  have passes : ∀ other : Attribute, (!(other.uri? == none && other.name == name)) = true ↔
      ¬ (other.uri? = none ∧ other.name = name) := by
    intro other
    rw [Bool.not_eq_true', ← Bool.not_eq_true, Bool.and_eq_true, beq_iff_eq, beq_iff_eq]
  unfold attribute? Carries
  simp only [← passes]
  constructor
  · intro found
    split at found
    · rename_i first answer
      cases found
      obtain ⟨named, before, after, divided, others⟩ := List.find?_eq_some_iff_append.mp answer
      simp only [Bool.and_eq_true, beq_iff_eq] at named
      obtain ⟨uri, given, value⟩ := first
      obtain ⟨rfl, rfl⟩ := named
      exact ⟨before, after, divided, others⟩
    · cases found
  · rintro ⟨before, after, divided, others⟩
    have answer : element.tag.attributes.find?
        (fun a => a.uri? == none && a.name == name) = some ⟨none, name, value⟩ :=
      List.find?_eq_some_iff_append.mpr ⟨by simp, before, after, divided, others⟩
    rw [answer]

end Element

end Markup

namespace Descriptor

open Markup (Element)

theorem attributeText?_eq_some_iff {element : Element} {name text : String} :
    attributeText? element name = some text ↔ element.Gives name text := by
  unfold attributeText? Element.Gives
  simp only [← Element.attribute?_eq_some_iff]
  cases element.attribute? name <;> simp [Text.nonBlank?_eq_some_iff]

theorem attributeText?_eq_none_iff {element : Element} {name : String} :
    attributeText? element name = none ↔ ∀ text, ¬ element.Gives name text := by
  simp only [Option.eq_none_iff_forall_ne_some, ne_eq, attributeText?_eq_some_iff]

namespace ActionConfig

/-! ## Entries of a configuration -/

/-- The elements with a name below the parts of a root with a name, in document order. -/
def entriesOf (root : Element) (part entry : String) : List Element :=
  (root.called part).flatMap fun holder => holder.called entry

theorem sectionEntries_eq (root : Element) (part entry : String) :
    sectionEntries root part entry = entriesOf root part entry := by
  simp only [sectionEntries, entriesOf, Element.childrenNamed_eq]

/-- What elements declare, in document order; an element that declares nothing is passed over. -/
inductive Gathers {α : Type} (Declares : Element → α → Prop) : List Element → List α → Prop where
  | nothing : Gathers Declares [] []
  | taken {element : Element} {item : α} {elements : List Element} {items : List α}
      (declares : Declares element item) (rest : Gathers Declares elements items) :
      Gathers Declares (element :: elements) (item :: items)
  | passed {element : Element} {elements : List Element} {items : List α}
      (silent : ∀ item, ¬ Declares element item) (rest : Gathers Declares elements items) :
      Gathers Declares (element :: elements) items

theorem gathers_filterMap {α : Type} {Declares : Element → α → Prop}
    {read : Element → Option α} (reads : ∀ element item, read element = some item ↔
      Declares element item) (elements : List Element) :
    Gathers Declares elements (elements.filterMap read) := by
  induction elements with
  | nil => exact .nothing
  | cons element rest ih =>
      cases answer : read element with
      | none =>
          rw [List.filterMap_cons_none answer]
          refine .passed (fun item declares => ?_) ih
          rw [(reads element item).mpr declares] at answer
          cases answer
      | some item =>
          rw [List.filterMap_cons_some answer]
          exact .taken ((reads element item).mp answer) ih

/-- The element is a complete forward. -/
structure DeclaresForward (element : Element) (forward : Forward) : Prop where
  name : element.Gives "name" forward.name
  path : element.Gives "path" forward.path
  redirect : forward.redirect = true ↔ element.Carries "redirect" "true"

theorem forward?_eq_some_iff (element : Element) (forward : Forward) :
    forward? element = some forward ↔ DeclaresForward element forward := by
  obtain ⟨name, path, redirect⟩ := forward
  have complete : DeclaresForward element ⟨name, path, redirect⟩ ↔
      attributeText? element "name" = some name ∧ attributeText? element "path" = some path ∧
        (redirect = true ↔ element.attribute? "redirect" = some "true") := by
    rw [attributeText?_eq_some_iff, attributeText?_eq_some_iff, Element.attribute?_eq_some_iff]
    exact ⟨fun ⟨named, goes, redirects⟩ => ⟨named, goes, redirects⟩,
      fun ⟨named, goes, redirects⟩ => ⟨named, goes, redirects⟩⟩
  rw [complete]
  unfold forward?
  split
  · rename_i given goes
    rw [given, goes]
    cases redirect <;> simp
  · rename_i incomplete
    constructor
    · intro none
      cases none
    · rintro ⟨named, goes, _⟩
      exact absurd goes (incomplete _ _ named)

/-- The element is a complete form bean. -/
structure DeclaresBean (element : Element) (name className : String) : Prop where
  name : element.Gives "name" name
  className : element.Gives "type" className

theorem formBean?_eq_some_iff {element : Element} {name className : String} :
    formBean? element = some (name, className) ↔ DeclaresBean element name className := by
  have complete : DeclaresBean element name className ↔
      attributeText? element "name" = some name ∧
        attributeText? element "type" = some className := by
    rw [attributeText?_eq_some_iff, attributeText?_eq_some_iff]
    exact ⟨fun ⟨named, typed⟩ => ⟨named, typed⟩, fun ⟨named, typed⟩ => ⟨named, typed⟩⟩
  rw [complete]
  unfold formBean?
  split
  · rename_i named typed
    simp [named, typed]
  · rename_i incomplete
    constructor
    · intro none
      cases none
    · rintro ⟨named, typed⟩
      exact absurd typed (incomplete _ _ named)

/-- The last complete form bean of the name is of the class. -/
def LastBean (root : Element) (name className : String) : Prop :=
  ∃ before bean after, entriesOf root "form-beans" "form-bean" = before ++ bean :: after ∧
    DeclaresBean bean name className ∧
    ∀ later ∈ after, ∀ other, ¬ DeclaresBean later name other

theorem formClass?_eq_some_iff {root : Element} {name className : String} :
    formClass? (formBeans root) name = some className ↔ LastBean root name className := by
  have listed : formBeans root = (entriesOf root "form-beans" "form-bean").filterMap formBean? := by
    rw [formBeans, sectionEntries_eq]
  unfold formClass? LastBean
  rw [listed]
  simp only [← formBean?_eq_some_iff]
  constructor
  · intro given
    split at given
    · rename_i bean answer
      cases given
      obtain ⟨named, before, element, after, divided, complete, others⟩ :=
        find?_reverse_filterMap_iff.mp answer
      have sameName := beq_iff_eq.mp named
      refine ⟨before, element, after, divided, ?_, fun later member other again => ?_⟩
      · rw [complete, ← sameName]
      · have unnamed := others later member _ again
        simp at unnamed
    · cases given
  · rintro ⟨before, element, after, divided, complete, others⟩
    have answer : ((entriesOf root "form-beans" "form-bean").filterMap formBean?).reverse.find?
        (fun bean => bean.1 == name) = some (name, className) := by
      refine find?_reverse_filterMap_iff.mpr
        ⟨beq_self_eq_true name, before, element, after, divided, complete, ?_⟩
      intro later member other again
      refine beq_eq_false_iff_ne.mpr fun same => others later member other.2 ?_
      rw [again, ← same]
    rw [answer]

/-! ## Paths in modules -/

/-- The path that an action has in a module: what stands before the paths of the module, but for the
slashes at its end, then the path, with a slash between them if it begins with none.  In the default
module nothing stands before the paths. -/
inductive InModule : String → String → String → Prop where
  | default (path : String) : InModule "" path path
  | behindSlash {modulePrefix front path : String} {count : Nat} (named : modulePrefix ≠ "")
      (written : modulePrefix.toList = front.toList ++ List.replicate count '/')
      (bare : front.toList.getLast? ≠ some '/') (slashed : path.toList.head? = some '/') :
      InModule modulePrefix path (front ++ path)
  | joined {modulePrefix front path : String} {count : Nat} (named : modulePrefix ≠ "")
      (written : modulePrefix.toList = front.toList ++ List.replicate count '/')
      (bare : front.toList.getLast? ≠ some '/') (unslashed : path.toList.head? ≠ some '/') :
      InModule modulePrefix path (front ++ "/" ++ path)

theorem modulePath_eq {modulePrefix front path : String} {count : Nat} (named : modulePrefix ≠ "")
    (written : modulePrefix.toList = front.toList ++ List.replicate count '/')
    (bare : front.toList.getLast? ≠ some '/') :
    modulePath modulePrefix path =
      if path.toList.head? = some '/' then front ++ path else front ++ "/" ++ path := by
  have dropped : String.ofList (Text.dropTrailing '/' modulePrefix.toList) = front := by
    rw [written, Text.dropTrailing_replicate count bare, String.ofList_toList]
  simp only [modulePath, named, if_false, dropped]
  cases spelled : path.toList with
  | nil => rfl
  | cons first rest =>
      by_cases slash : first = '/'
      · subst slash
        rfl
      · have unslashed : (first :: rest).head? ≠ some '/' := by simpa using slash
        rw [if_neg unslashed]
        split
        · rename_i same
          exact absurd (List.cons.inj same).1 slash
        · rfl

theorem modulePath_eq_iff {modulePrefix path result : String} :
    modulePath modulePrefix path = result ↔ InModule modulePrefix path result := by
  constructor
  · rintro rfl
    by_cases named : modulePrefix = ""
    · subst named
      exact .default path
    · obtain ⟨count, written⟩ := Text.exists_trailing '/' modulePrefix.toList
      rw [← String.toList_ofList (l := Text.dropTrailing '/' modulePrefix.toList)] at written
      have bare := Text.getLast?_dropTrailing '/' modulePrefix.toList
      rw [← String.toList_ofList (l := Text.dropTrailing '/' modulePrefix.toList)] at bare
      rw [modulePath_eq named written bare]
      split
      · exact .behindSlash named written bare ‹_›
      · exact .joined named written bare ‹_›
  · intro placed
    cases placed with
    | default => rfl
    | behindSlash named written bare slashed =>
        rw [modulePath_eq named written bare, if_pos slashed]
    | joined named written bare unslashed =>
        rw [modulePath_eq named written bare, if_neg unslashed]

end ActionConfig
end Descriptor
end ContainerReplay
