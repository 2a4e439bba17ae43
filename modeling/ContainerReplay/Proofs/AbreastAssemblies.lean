import ContainerReplay.Markup.Assembly
import ContainerReplay.Proofs.MatchingDocuments
import ContainerReplay.Proofs.MovedCursors

/-!
# Two trees under construction

Two documents are read side by side that differ in one comment.  What is built is the same but for
offsets, except in the element that holds the comment: there the texts may differ from the comment
on.  Every operation on the two keeps them so.
-/

set_option autoImplicit false

namespace ContainerReplay.Markup

/-! ## Elements and nodes -/

namespace Element

theorem sizeOf_lt_of_mem {element inner : Element} (member : inner ∈ element.elements) :
    sizeOf inner < sizeOf element := by
  obtain ⟨node, listed, same⟩ := List.mem_filterMap.mp member
  cases node with
  | element tag children =>
      cases same
      have smaller := List.sizeOf_lt_of_mem listed
      obtain ⟨outerTag, outerChildren⟩ := element
      simp only [Element.mk.sizeOf_spec, Node.element.sizeOf_spec] at smaller ⊢
      omega
  | text content => cases same
  | aside => cases same

theorem matches_refl (holder holder' : Element) (element : Element) :
    Matches holder holder' element element :=
  .alike rfl rfl rfl <| List.forall₂_same.mpr fun inner member =>
    have := sizeOf_lt_of_mem member
    matches_refl holder holder' inner
  termination_by sizeOf element

/-- Elements that match whichever elements hold the comment. -/
def Alike (element element' : Element) : Prop :=
  ∀ holder holder', Matches holder holder' element element'

end Element

/-- A relation of elements under which elements are related whose parts are. -/
def Lifts (related : Element → Element → Prop) : Prop :=
  ∀ element element', element.name = element'.name →
    element.tag.attributes = element'.tag.attributes → element.text? = element'.text? →
      List.Forall₂ related element.elements element'.elements → related element element'

theorem lifts_alike : Lifts Element.Alike := by
  intro element element' name attributes text elements holder holder'
  exact .alike name attributes text (elements.imp fun _ _ alike => alike holder holder')

theorem lifts_matches (holder holder' : Element) : Lifts (Element.Matches holder holder') :=
  fun _ _ => .alike

/-- Nodes of one kind: the same text, or related elements. -/
inductive NodePairs (related : Element → Element → Prop) : Node → Node → Prop where
  | element {tag tag' : Tag} {children children' : List Node}
      (pair : related ⟨tag, children⟩ ⟨tag', children'⟩) :
      NodePairs related (.element tag children) (.element tag' children')
  | text (content : String) : NodePairs related (.text content) (.text content)
  | aside : NodePairs related .aside .aside

variable {related : Element → Element → Prop}

theorem NodePairs.matched {node node' : Node} (pair : NodePairs Element.Alike node node')
    (holder holder' : Element) : NodePairs (Element.Matches holder holder') node node' := by
  cases pair with
  | element alike => exact .element (alike holder holder')
  | text content => exact .text content
  | aside => exact .aside

theorem NodePairs.refl (node : Node) : NodePairs Element.Alike node node := by
  cases node with
  | element tag children =>
      exact .element fun holder holder' => Element.matches_refl holder holder' _
  | text content => exact .text content
  | aside => exact .aside

theorem NodePairs.elements {nodes nodes' : List Node}
    (pairs : List.Forall₂ (NodePairs related) nodes nodes') :
    List.Forall₂ related (nodes.filterMap Node.element?) (nodes'.filterMap Node.element?) := by
  induction pairs with
  | nil => exact .nil
  | cons first _ ih =>
      cases first with
      | element pair => exact .cons pair ih
      | text content => exact ih
      | aside => exact ih

theorem NodePairs.text? {tag tag' : Tag} {nodes nodes' : List Node}
    (pairs : List.Forall₂ (NodePairs related) nodes nodes') :
    (Element.mk tag nodes).text? = (Element.mk tag' nodes').text? := by
  cases pairs with
  | nil => rfl
  | cons first _ => cases first <;> rfl

/-! ## Open elements -/

/-- Open elements that correspond up to where they stand. -/
structure FramePairs (related : Element → Element → Prop) (frame frame' : Frame) : Prop where
  name : frame.name = frame'.name
  attributes : frame.attributes = frame'.attributes
  bindings : frame.bindings = frame'.bindings
  children : List.Forall₂ (NodePairs related) frame.children frame'.children

theorem FramePairs.refl (frame : Frame) : FramePairs Element.Alike frame frame :=
  ⟨rfl, rfl, rfl, List.forall₂_same.mpr fun node _ => .refl node⟩

theorem FramePairs.matched {frame frame' : Frame} (pair : FramePairs Element.Alike frame frame')
    (holder holder' : Element) : FramePairs (Element.Matches holder holder') frame frame' :=
  ⟨pair.name, pair.attributes, pair.bindings,
    pair.children.imp fun _ _ nodes => nodes.matched holder holder'⟩

theorem FramePairs.node (lifts : Lifts related) {frame frame' : Frame}
    (pair : FramePairs related frame frame') : NodePairs related frame.node frame'.node := by
  have children := List.rel_reverse pair.children
  refine .element (lifts _ _ ?_ pair.attributes (NodePairs.text? children)
    (NodePairs.elements children))
  exact congrArg QualifiedName.name pair.name

def IsText (node : Node) : Prop :=
  ∃ content, node = .text content

/-- The latest child, if any, is not text. -/
def Closed (nodes : List Node) : Prop :=
  ∀ content rest, nodes ≠ .text content :: rest

/-- The open elements that hold the comment and do not: the same children up to the comment and the
text before it, and corresponding elements after it. -/
structure HolderPairs (frame frame' : Frame) : Prop where
  name : frame.name = frame'.name
  attributes : frame.attributes = frame'.attributes
  bindings : frame.bindings = frame'.bindings
  children : ∃ later later' lead kept, frame.children = later ++ .aside :: (lead ++ kept) ∧
    frame'.children = later' ++ kept ∧ (∀ node ∈ lead, IsText node) ∧ Closed kept ∧
    List.Forall₂ Element.Alike (later.filterMap Node.element?) (later'.filterMap Node.element?)

/-- The open elements while the comment's holder is open: it is the innermost one, or others are
open inside. -/
inductive HolderOpen : Bool → List Frame → List Frame → Prop where
  | innermost {frame frame' : Frame} {outer outer' : List Frame}
      (holder : HolderPairs frame frame')
      (around : List.Forall₂ (FramePairs Element.Alike) outer outer') :
      HolderOpen true (frame :: outer) (frame' :: outer')
  | outer {isInnermost : Bool} {frame frame' : Frame} {outer outer' : List Frame}
      (first : FramePairs Element.Alike frame frame')
      (rest : HolderOpen isInnermost outer outer') :
      HolderOpen false (frame :: outer) (frame' :: outer')

/-- Complete elements that hold the comment and do not: the same children up to the comment and the
text before it. -/
def HoldsComment (holder holder' : Element) : Prop :=
  ∃ earlier lead later later', holder.children = earlier ++ lead ++ .aside :: later ∧
    holder'.children = earlier ++ later' ∧ ∀ node ∈ lead, IsText node

/-- What has been built: open elements and what stands at the top level. -/
inductive TreePairs : Bool → List Frame → List Node → List Frame → List Node → Prop where
  | opened {isInnermost : Bool} {frames frames' : List Frame} {top top' : List Node}
      (stack : HolderOpen isInnermost frames frames')
      (level : List.Forall₂ (NodePairs Element.Alike) top top') :
      TreePairs isInnermost frames top frames' top'
  | complete {holder holder' : Element} {frames frames' : List Frame} {top top' : List Node}
      (held : HoldsComment holder holder')
      (stack : List.Forall₂ (FramePairs (Element.Matches holder holder')) frames frames')
      (level : List.Forall₂ (NodePairs (Element.Matches holder holder')) top top') :
      TreePairs false frames top frames' top'

/-! ## Growing children -/

/-- Changes the children of the innermost open element, or what stands at the top level. -/
def Assembly.grow (change : List Node → List Node) (assembly : Assembly) : Assembly :=
  match assembly.frames with
  | [] => { assembly with top := change assembly.top }
  | frame :: rest =>
      { assembly with frames := { frame with children := change frame.children } :: rest }

/-- The children with a text: joined with the latest one, or as another one. -/
def withText (joins : Bool) (text : List Char) (nodes : List Node) : List Node :=
  if joins then Assembly.joinedText text nodes else .text (String.ofList text) :: nodes

theorem Assembly.grow_id (assembly : Assembly) : assembly.grow id = assembly := by
  obtain ⟨entities, frames, top, tag, attributes, bindings, afterText, references⟩ := assembly
  cases frames <;> rfl

theorem Assembly.append_eq (assembly : Assembly) (node : Node) :
    assembly.append node = assembly.grow (node :: ·) := rfl

theorem Assembly.appendText_eq (assembly : Assembly) (text : List Char) :
    assembly.appendText text =
      { assembly.grow (withText assembly.afterText text) with afterText := true } := by
  obtain ⟨entities, frames, top, tag, attributes, bindings, afterText, references⟩ := assembly
  unfold appendText withText grow append
  cases afterText with
  | true => cases frames <;> rfl
  | false => cases frames <;> rfl

theorem NodePairs.withText {nodes nodes' : List Node}
    (pairs : List.Forall₂ (NodePairs related) nodes nodes') (joins : Bool) (text : List Char) :
    List.Forall₂ (NodePairs related) (withText joins text nodes) (withText joins text nodes') := by
  cases joins with
  | false => exact .cons (.text _) pairs
  | true =>
      cases pairs with
      | nil => exact .cons (.text _) .nil
      | cons first rest =>
          cases first with
          | element pair => exact .cons (.text _) (.cons (.element pair) rest)
          | text content => exact .cons (.text _) rest
          | aside => exact .cons (.text _) (.cons .aside rest)

/-- Text that is added leaves alone what stands below children that are not text. -/
theorem withText_append (joins : Bool) (text : List Char) (later : List Node) {below : List Node}
    (closed : Closed below) :
    ∃ grown, withText joins text (later ++ below) = grown ++ below ∧
      grown.filterMap Node.element? = later.filterMap Node.element? ∧
      ∀ node ∈ grown, node ∈ later ∨ IsText node := by
  have added : ∀ (content : String) (nodes : List Node),
      ∀ node ∈ Node.text content :: nodes, node ∈ nodes ∨ IsText node := by
    intro content nodes node member
    rcases List.mem_cons.mp member with rfl | old
    · exact Or.inr ⟨content, rfl⟩
    · exact Or.inl old
  cases joins with
  | false => exact ⟨.text (String.ofList text) :: later, rfl, rfl, added _ later⟩
  | true =>
      cases later with
      | nil =>
          refine ⟨[.text (String.ofList text)], ?_, rfl, added _ []⟩
          cases below with
          | nil => rfl
          | cons node rest =>
              cases node with
              | text content => exact absurd rfl (closed content rest)
              | element tag children => rfl
              | aside => rfl
      | cons node rest =>
          cases node with
          | text content =>
              refine ⟨.text (content ++ String.ofList text) :: rest, rfl, rfl,
                fun node member => ?_⟩
              exact (added _ rest node member).imp_left (List.mem_cons_of_mem _)
          | element tag children =>
              exact ⟨.text (String.ofList text) :: .element tag children :: rest, rfl, rfl,
                added _ _⟩
          | aside => exact ⟨.text (String.ofList text) :: .aside :: rest, rfl, rfl, added _ _⟩

theorem closed_aside (nodes : List Node) : Closed (.aside :: nodes) := by
  intro content rest same
  cases same

theorem HolderPairs.withText_left {frame frame' : Frame} (pair : HolderPairs frame frame')
    (joins : Bool) (text : List Char) :
    HolderPairs { frame with children := withText joins text frame.children } frame' := by
  obtain ⟨later, later', lead, kept, children, children', texts, closed, elements⟩ := pair.children
  obtain ⟨grown, whole, same, _⟩ :=
    withText_append joins text later (closed_aside (lead ++ kept))
  refine ⟨pair.name, pair.attributes, pair.bindings, grown, later', lead, kept, ?_, children',
    texts, closed, ?_⟩
  · rw [children, whole]
  · rw [same]
    exact elements

theorem HolderPairs.withText_right {frame frame' : Frame} (pair : HolderPairs frame frame')
    (joins : Bool) (text : List Char) :
    HolderPairs frame { frame' with children := withText joins text frame'.children } := by
  obtain ⟨later, later', lead, kept, children, children', texts, closed, elements⟩ := pair.children
  obtain ⟨grown, whole, same, _⟩ := withText_append joins text later' closed
  refine ⟨pair.name, pair.attributes, pair.bindings, later, grown, lead, kept, children, ?_, texts,
    closed, ?_⟩
  · rw [children', whole]
  · rw [same]
    exact elements

theorem HolderPairs.append {frame frame' : Frame} (pair : HolderPairs frame frame')
    {node node' : Node} (nodes : NodePairs Element.Alike node node') :
    HolderPairs { frame with children := node :: frame.children }
      { frame' with children := node' :: frame'.children } := by
  obtain ⟨later, later', lead, kept, children, children', texts, closed, elements⟩ := pair.children
  refine ⟨pair.name, pair.attributes, pair.bindings, node :: later, node' :: later', lead, kept, ?_,
    ?_, texts, closed, ?_⟩
  · rw [children, List.cons_append]
  · rw [children', List.cons_append]
  · cases nodes with
    | element alike => exact .cons alike elements
    | text content => exact elements
    | aside => exact elements

/-! ## Assemblies side by side -/

/-- Two assemblies have come to the same up to offsets, one comment and the texts around it. -/
structure Level (isInnermost : Bool) (assembly assembly' : Assembly) : Prop where
  tree : TreePairs isInnermost assembly.frames assembly.top assembly'.frames assembly'.top
  entities : assembly.entities = assembly'.entities
  tag : assembly.tag.map Prod.fst = assembly'.tag.map Prod.fst
  attributes : assembly.attributes.map (fun pending => (pending.name, pending.value)) =
    assembly'.attributes.map fun pending => (pending.name, pending.value)
  bindings : assembly.bindings = assembly'.bindings
  references : assembly.references = assembly'.references
  afterText : isInnermost = false → assembly.afterText = assembly'.afterText

def Abreast (assembly assembly' : Assembly) : Prop :=
  ∃ isInnermost, Level isInnermost assembly assembly'

variable {assembly assembly' : Assembly}

/-- Two changes of children keep corresponding children so. -/
def KeepPairs (change change' : List Node → List Node) : Prop :=
  ∀ related, (∀ node node', NodePairs Element.Alike node node' → NodePairs related node node') →
    ∀ nodes nodes', List.Forall₂ (NodePairs related) nodes nodes' →
      List.Forall₂ (NodePairs related) (change nodes) (change' nodes')

/-- Two changes of children keep the holders of the comment so. -/
def KeepHolders (change change' : List Node → List Node) : Prop :=
  ∀ frame frame', HolderPairs frame frame' →
    HolderPairs { frame with children := change frame.children }
      { frame' with children := change' frame'.children }

theorem TreePairs.grow {isInnermost : Bool} {change change' : List Node → List Node}
    (tree : TreePairs isInnermost assembly.frames assembly.top assembly'.frames assembly'.top)
    (pairs : isInnermost = false → KeepPairs change change')
    (holders : KeepHolders change change') :
    TreePairs isInnermost (assembly.grow change).frames (assembly.grow change).top
      (assembly'.grow change').frames (assembly'.grow change').top := by
  obtain ⟨entities, frames, top, tag, attributes, bindings, afterText, references⟩ := assembly
  obtain ⟨entities', frames', top', tag', attributes', bindings', afterText', references'⟩ :=
    assembly'
  simp only at tree
  cases tree with
  | opened stack level =>
      cases stack with
      | innermost holder around => exact .opened (.innermost (holders _ _ holder) around) level
      | outer first rest =>
          refine .opened (.outer ⟨first.name, first.attributes, first.bindings, ?_⟩ rest) level
          exact pairs rfl Element.Alike (fun _ _ alike => alike) _ _ first.children
  | @complete holder holder' _ _ _ _ held stack level =>
      have grown := pairs rfl _ fun _ _ alike => alike.matched holder holder'
      cases stack with
      | nil => exact .complete held .nil (grown _ _ level)
      | cons first rest =>
          refine .complete held (.cons ⟨first.name, first.attributes, first.bindings, ?_⟩ rest)
            level
          exact grown _ _ first.children

theorem keepPairs_cons {node node' : Node} (pair : NodePairs Element.Alike node node') :
    KeepPairs (node :: ·) (node' :: ·) :=
  fun _ alike _ _ pairs => .cons (alike node node' pair) pairs

theorem keepPairs_withText (joins : Bool) (text : List Char) :
    KeepPairs (withText joins text) (withText joins text) :=
  fun _ _ _ _ pairs => NodePairs.withText pairs joins text

theorem grow_preserves (change : List Node → List Node) (assembly : Assembly) :
    assembly.grow change =
      { assembly with
        frames := (assembly.grow change).frames
        top := (assembly.grow change).top } := by
  obtain ⟨entities, frames, top, tag, attributes, bindings, afterText, references⟩ := assembly
  cases frames <;> rfl

theorem Level.grow {isInnermost : Bool} (level : Level isInnermost assembly assembly')
    (change change' : List Node → List Node)
    (pairs : isInnermost = false → KeepPairs change change')
    (holders : KeepHolders change change') :
    Level isInnermost (assembly.grow change) (assembly'.grow change') := by
  have tree := level.tree.grow pairs holders
  rw [grow_preserves change assembly, grow_preserves change' assembly']
  exact { level with tree }

theorem Level.append {isInnermost : Bool} (level : Level isInnermost assembly assembly')
    {node node' : Node} (pair : NodePairs Element.Alike node node') :
    Level isInnermost (assembly.append node) (assembly'.append node') := by
  rw [Assembly.append_eq, Assembly.append_eq]
  exact level.grow _ _ (fun _ => keepPairs_cons pair) fun _ _ holder => holder.append pair

/-- The holders of the comment take texts independently. -/
theorem Level.appendText_left (level : Level true assembly assembly') (text : List Char) :
    Level true (assembly.appendText text) assembly' := by
  have grown := level.grow (withText assembly.afterText text) id (fun outer => by cases outer)
    fun _ _ holder => holder.withText_left _ text
  rw [Assembly.grow_id] at grown
  rw [Assembly.appendText_eq]
  exact { grown with afterText := fun outer => by cases outer }

theorem Level.appendText_right (level : Level true assembly assembly') (text : List Char) :
    Level true assembly (assembly'.appendText text) := by
  have grown := level.grow id (withText assembly'.afterText text) (fun outer => by cases outer)
    fun _ _ holder => holder.withText_right _ text
  rw [Assembly.grow_id] at grown
  rw [Assembly.appendText_eq]
  exact { grown with afterText := fun outer => by cases outer }

theorem Level.appendText {isInnermost : Bool} (level : Level isInnermost assembly assembly')
    (text : List Char) :
    Level isInnermost (assembly.appendText text) (assembly'.appendText text) := by
  cases isInnermost with
  | true => exact (level.appendText_left text).appendText_right text
  | false =>
      rw [Assembly.appendText_eq, Assembly.appendText_eq, ← level.afterText rfl]
      have grown := level.grow _ _ (fun _ => keepPairs_withText assembly.afterText text)
        fun _ _ holder => (holder.withText_left _ text).withText_right _ text
      exact { grown with afterText := fun _ => rfl }

theorem Level.appendAside {isInnermost : Bool} (level : Level isInnermost assembly assembly') :
    Level isInnermost assembly.appendAside assembly'.appendAside :=
  { level.append .aside with afterText := fun _ => rfl }

/-! ## The comment -/

/-- Children are the latest texts and what stands below them. -/
theorem texts_below (nodes : List Node) :
    ∃ lead kept, nodes = lead ++ kept ∧ (∀ node ∈ lead, IsText node) ∧ Closed kept := by
  induction nodes with
  | nil => exact ⟨[], [], rfl, by simp, fun _ _ same => by cases same⟩
  | cons node rest ih =>
      cases node with
      | text content =>
          obtain ⟨lead, kept, rfl, texts, closed⟩ := ih
          refine ⟨.text content :: lead, kept, rfl, fun node member => ?_, closed⟩
          rcases List.mem_cons.mp member with rfl | old
          · exact ⟨content, rfl⟩
          · exact texts node old
      | element tag children =>
          exact ⟨[], _, rfl, by simp, fun _ _ same => by cases same⟩
      | aside => exact ⟨[], _, rfl, by simp, fun _ _ same => by cases same⟩

theorem filterMap_texts {nodes : List Node} (texts : ∀ node ∈ nodes, IsText node) :
    nodes.filterMap Node.element? = [] := by
  refine List.filterMap_eq_nil_iff.mpr fun node member => ?_
  obtain ⟨content, rfl⟩ := texts node member
  rfl

/-- From here on one document has a comment that the other does not have.  The text before it may
have been added on the one side and still be to come on the other. -/
theorem Level.comment {before : Assembly} {frame : Frame} {outer : List Frame}
    (inside : assembly.frames = frame :: outer)
    (texts : before = assembly ∨ ∃ text, before = assembly.appendText text) :
    Level true before.appendAside assembly := by
  obtain ⟨lead, kept, children, onlyTexts, closed⟩ := texts_below frame.children
  obtain ⟨lead', added, allTexts⟩ : ∃ lead', before =
      { assembly with
        frames := { frame with children := lead' ++ kept } :: outer
        afterText := before.afterText } ∧ ∀ node ∈ lead', IsText node := by
    obtain ⟨entities, frames, top, tag, attributes, bindings, afterText, references⟩ := assembly
    simp only at inside
    subst inside
    rcases texts with rfl | ⟨text, rfl⟩
    · refine ⟨lead, ?_, onlyTexts⟩
      rw [← children]
    · obtain ⟨grown, whole, _, members⟩ := withText_append afterText text lead closed
      refine ⟨grown, ?_, fun node member => (members node member).elim (onlyTexts node) id⟩
      rw [Assembly.appendText_eq]
      simp only [Assembly.grow, children, whole]
  have holder : HolderPairs { frame with children := .aside :: (lead' ++ kept) } frame :=
    ⟨rfl, rfl, rfl, [], lead, lead', kept, rfl, children, allTexts, closed, by
      rw [filterMap_texts onlyTexts]
      exact .nil⟩
  rw [added]
  refine { tree := ?_, entities := rfl, tag := rfl, attributes := rfl, bindings := rfl,
           references := rfl, afterText := fun outside => by cases outside }
  rw [inside]
  exact .opened (.innermost holder (List.forall₂_same.mpr fun frame _ => .refl frame))
    (List.forall₂_same.mpr fun node _ => .refl node)

/-! ## Tags -/

theorem Level.startTag {isInnermost : Bool} (level : Level isInnermost assembly assembly')
    {name : QualifiedName} {offset : Nat} (offset' : Nat) {after : Assembly}
    (begun : assembly.startTag name offset = .ok after) :
    ∃ after', assembly'.startTag name offset' = .ok after' ∧ Level isInnermost after after' := by
  unfold Assembly.startTag at begun ⊢
  split at begun
  · cases begun
  · rename_i plain
    cases begun
    rw [if_neg plain]
    exact ⟨_, rfl, { level with tag := rfl, afterText := fun _ => rfl }⟩

theorem Level.bind {isInnermost : Bool} (level : Level isInnermost assembly assembly')
    {qualifier uri : String} {offset : Nat} (offset' : Nat) {after : Assembly}
    (bound : assembly.bind qualifier uri offset = .ok after) :
    ∃ after', assembly'.bind qualifier uri offset' = .ok after' ∧
      Level isInnermost after after' := by
  unfold Assembly.bind at bound ⊢
  rw [← level.bindings]
  split at bound
  · cases bound
  · rename_i notXmlns
    rw [if_neg notXmlns]
    split at bound
    · cases bound
    · rename_i rightXml
      rw [if_neg rightXml]
      split at bound
      · cases bound
      · rename_i notXml
        rw [if_neg notXml]
        split at bound
        · cases bound
        · rename_i fresh
          rw [if_neg fresh]
          by_cases reserved : uri = Assembly.xmlUri
          · rw [if_pos reserved] at bound ⊢
            cases bound
            exact ⟨_, rfl, level⟩
          · rw [if_neg reserved] at bound ⊢
            cases bound
            exact ⟨_, rfl, { level with bindings := rfl }⟩

theorem Level.bindDefault {isInnermost : Bool} (level : Level isInnermost assembly assembly')
    {uri : String} {offset : Nat} (offset' : Nat) {after : Assembly}
    (bound : assembly.bindDefault uri offset = .ok after) :
    ∃ after', assembly'.bindDefault uri offset' = .ok after' ∧ Level isInnermost after after' := by
  unfold Assembly.bindDefault at bound ⊢
  rw [← level.bindings]
  split at bound
  · cases bound
  · rename_i notXml
    rw [if_neg notXml]
    split at bound
    · cases bound
    · rename_i notXmlns
      rw [if_neg notXmlns]
      cases bound
      exact ⟨_, rfl, { level with bindings := rfl }⟩

theorem Level.addAttribute {isInnermost : Bool} (level : Level isInnermost assembly assembly')
    {name : QualifiedName} {value : String} {offset : Nat} (offset' : Nat) {after : Assembly}
    (added : assembly.addAttribute name value offset = .ok after) :
    ∃ after', assembly'.addAttribute name value offset' = .ok after' ∧
      Level isInnermost after after' := by
  unfold Assembly.addAttribute at added ⊢
  by_cases binds : name.qualifier = "xmlns"
  · rw [if_pos binds] at added ⊢
    exact level.bind offset' added
  · rw [if_neg binds] at added ⊢
    by_cases bindsDefault : name.name = "xmlns"
    · rw [if_pos bindsDefault] at added ⊢
      exact level.bindDefault offset' added
    · rw [if_neg bindsDefault] at added ⊢
      cases added
      refine ⟨_, rfl, { level with attributes := ?_ }⟩
      simp only [List.map_append, level.attributes, List.map_cons, List.map_nil]

theorem TreePairs.bindings {isInnermost : Bool} {frames frames' : List Frame}
    {top top' : List Node} (tree : TreePairs isInnermost frames top frames' top') :
    frames.head?.map Frame.bindings = frames'.head?.map Frame.bindings := by
  cases tree with
  | opened stack _ =>
      cases stack with
      | innermost holder _ => exact congrArg some holder.bindings
      | outer first _ => exact congrArg some first.bindings
  | complete _ stack _ =>
      cases stack with
      | nil => rfl
      | cons first _ => exact congrArg some first.bindings

theorem Level.scope {isInnermost : Bool} (level : Level isInnermost assembly assembly') :
    assembly.scope = assembly'.scope := by
  have outer := level.tree.bindings
  unfold Assembly.scope
  rw [level.bindings]
  cases inFirst : assembly.frames with
  | nil =>
      cases inSecond : assembly'.frames with
      | nil => rfl
      | cons frame' _ => rw [inFirst, inSecond] at outer; cases outer
  | cons frame _ =>
      cases inSecond : assembly'.frames with
      | nil => rw [inFirst, inSecond] at outer; cases outer
      | cons frame' _ =>
          rw [inFirst, inSecond] at outer
          have same : frame.bindings = frame'.bindings := Option.some_inj.mp outer
          simp only [same]

theorem namespaceOf_anywhere {scope : List Binding} {qualifier : String} {offset : Nat}
    {uri? : Option String} (found : Assembly.namespaceOf scope qualifier offset = .ok uri?)
    (offset' : Nat) : Assembly.namespaceOf scope qualifier offset' = .ok uri? := by
  unfold Assembly.namespaceOf at found ⊢
  simp only at found ⊢
  cases answer : scope.find? (fun binding =>
      binding.qualifier == if qualifier = "" then none else some qualifier) with
  | some binding =>
      rw [answer] at found
      exact found
  | none =>
      rw [answer] at found
      simp only at found ⊢
      by_cases unqualified : qualifier = ""
      · rw [if_pos unqualified] at found ⊢
        exact found
      · rw [if_neg unqualified] at found
        cases found

theorem attributeNamespace_anywhere {scope : List Binding} {pending pending' : PendingAttribute}
    (name : pending.name = pending'.name) {uri? : Option String}
    (found : Assembly.attributeNamespace scope pending = .ok uri?) :
    Assembly.attributeNamespace scope pending' = .ok uri? := by
  unfold Assembly.attributeNamespace at found ⊢
  rw [← name]
  by_cases reserved : pending.name.qualifier = "xml"
  · rw [if_pos reserved] at found ⊢
    exact found
  · rw [if_neg reserved] at found ⊢
    by_cases unqualified : pending.name.qualifier = ""
    · rw [if_pos unqualified] at found ⊢
      exact found
    · rw [if_neg unqualified] at found ⊢
      exact namespaceOf_anywhere found _

theorem resolveAttributes_anywhere {scope : List Binding} {pending pending' : List PendingAttribute}
    (same : pending.map (fun item => (item.name, item.value)) =
      pending'.map fun item => (item.name, item.value))
    {resolved attributes : List Attribute}
    (done : Assembly.resolveAttributes scope resolved pending = .ok attributes) :
    Assembly.resolveAttributes scope resolved pending' = .ok attributes := by
  induction pending generalizing pending' resolved with
  | nil =>
      rw [List.map_nil, eq_comm, List.map_eq_nil_iff] at same
      rw [same]
      exact done
  | cons first rest ih =>
      obtain ⟨first', rest', rfl, equal, others⟩ := List.map_eq_cons_iff.mp same.symm
      simp only [Prod.mk.injEq] at equal
      unfold Assembly.resolveAttributes at done ⊢
      cases found : Assembly.attributeNamespace scope first with
      | error fault => rw [found] at done; cases done
      | ok uri? =>
          rw [attributeNamespace_anywhere equal.1.symm found, equal.1, equal.2]
          rw [found] at done
          simp only at done ⊢
          split at done
          · cases done
          · rename_i fresh
            rw [if_neg fresh]
            exact ih others.symm done

theorem Level.finishTag {isInnermost : Bool} (level : Level isInnermost assembly assembly')
    {name : QualifiedName} {offset : Nat} (offset' : Nat) {frame : Frame} {rest : Assembly}
    (finished : assembly.finishTag name offset = .ok (frame, rest)) :
    ∃ frame' rest', assembly'.finishTag name offset' = .ok (frame', rest') ∧
      FramePairs Element.Alike frame frame' ∧ Level isInnermost rest rest' ∧
      rest.afterText = rest'.afterText := by
  unfold Assembly.finishTag at finished ⊢
  simp only [← level.scope] at finished ⊢
  cases resolved : Assembly.resolveAttributes assembly.scope [] assembly.attributes with
  | error fault => rw [resolved] at finished; cases finished
  | ok attributes =>
      rw [resolved] at finished
      rw [resolveAttributes_anywhere level.attributes resolved]
      simp only at finished ⊢
      cases space : Assembly.namespaceOf assembly.scope name.qualifier (offset + 1) with
      | error fault => rw [space] at finished; cases finished
      | ok uri? =>
          rw [space] at finished
          rw [namespaceOf_anywhere space]
          cases finished
          refine ⟨_, _, rfl, ⟨rfl, rfl, rfl, .nil⟩, ?_, rfl⟩
          exact { level with attributes := rfl, bindings := rfl, afterText := fun _ => rfl }

theorem TreePairs.push {isInnermost : Bool} {frames frames' : List Frame} {top top' : List Node}
    (tree : TreePairs isInnermost frames top frames' top') {frame frame' : Frame}
    (pair : FramePairs Element.Alike frame frame') :
    TreePairs false (frame :: frames) top (frame' :: frames') top' := by
  cases tree with
  | opened stack level => exact .opened (.outer pair stack) level
  | complete held stack level => exact .complete held (.cons (pair.matched _ _) stack) level

theorem Abreast.endStartTag (abreast : Abreast assembly assembly') (isEmpty : Bool)
    {after : Assembly} (ended : assembly.endStartTag isEmpty = .ok after) :
    ∃ after', assembly'.endStartTag isEmpty = .ok after' ∧ Abreast after after' := by
  obtain ⟨isInnermost, level⟩ := abreast
  have tags := level.tag
  unfold Assembly.endStartTag at ended ⊢
  cases inFirst : assembly.tag with
  | none =>
      rw [inFirst] at ended tags
      cases ended
      rw [Option.map_eq_none_iff.mp tags.symm]
      exact ⟨_, rfl, isInnermost, level⟩
  | some tag =>
      rw [inFirst] at ended tags
      obtain ⟨name, offset⟩ := tag
      obtain ⟨⟨name', offset'⟩, inSecond, same⟩ := Option.map_eq_some_iff.mp tags.symm
      have sameName : name' = name := same
      rw [inSecond, sameName]
      simp only at ended ⊢
      cases finished : assembly.finishTag name offset with
      | error fault => rw [finished] at ended; cases ended
      | ok done =>
          obtain ⟨frame, rest⟩ := done
          obtain ⟨frame', rest', finished', frames, level', texts⟩ :=
            level.finishTag offset' finished
          rw [finished] at ended
          rw [finished']
          simp only at ended ⊢
          cases isEmpty with
          | true =>
              cases ended
              exact ⟨_, rfl, isInnermost, level'.append (frames.node lifts_alike)⟩
          | false =>
              cases ended
              exact ⟨_, rfl, false,
                { level' with tree := level'.tree.push frames, afterText := fun _ => texts }⟩

/-! ## End tags -/

/-- The element of a frame. -/
def Frame.element (frame : Frame) : Element :=
  ⟨⟨frame.name.name, frame.attributes, frame.offset⟩, frame.children.reverse⟩

theorem HolderPairs.held {frame frame' : Frame} (pair : HolderPairs frame frame') :
    HoldsComment frame.element frame'.element := by
  obtain ⟨later, later', lead, kept, children, children', texts, _, _⟩ := pair.children
  refine ⟨kept.reverse, lead.reverse, later.reverse, later'.reverse, ?_, ?_, fun node member => ?_⟩
  · simp [Frame.element, children]
  · simp [Frame.element, children']
  · exact texts node (List.mem_reverse.mp member)

theorem HolderPairs.matched {frame frame' : Frame} (pair : HolderPairs frame frame') :
    Element.Matches frame.element frame'.element frame.element frame'.element := by
  obtain ⟨later, later', lead, kept, children, children', texts, _, elements⟩ := pair.children
  refine .holder (congrArg QualifiedName.name pair.name) pair.attributes ?_
  have below : List.Forall₂ Element.Alike (kept.filterMap Node.element?)
      (kept.filterMap Node.element?) :=
    List.forall₂_same.mpr fun element _ holder holder' =>
      Element.matches_refl holder holder' element
  have all := List.rel_reverse (List.rel_append elements below)
  have first : frame.element.elements =
      (later.filterMap Node.element? ++ kept.filterMap Node.element?).reverse := by
    simp only [Frame.element, Element.elements, children, List.filterMap_reverse,
      List.filterMap_append, List.filterMap_cons, Node.element?, filterMap_texts texts,
      List.nil_append]
  have second : frame'.element.elements =
      (later'.filterMap Node.element? ++ kept.filterMap Node.element?).reverse := by
    simp only [Frame.element, Element.elements, children', List.filterMap_reverse,
      List.filterMap_append]
  rw [first, second]
  exact all.imp fun _ _ alike => alike _ _

theorem Level.complete_append {holder holder' : Element} (level : Level false assembly assembly')
    (held : HoldsComment holder holder')
    (stack : List.Forall₂ (FramePairs (Element.Matches holder holder')) assembly.frames
      assembly'.frames)
    (top : List.Forall₂ (NodePairs (Element.Matches holder holder')) assembly.top assembly'.top)
    {node node' : Node} (pair : NodePairs (Element.Matches holder holder') node node') :
    Level false (assembly.append node) (assembly'.append node') := by
  obtain ⟨entities, frames, nodes, tag, attributes, bindings, afterText, references⟩ := assembly
  obtain ⟨entities', frames', nodes', tag', attributes', bindings', afterText', references'⟩ :=
    assembly'
  cases stack with
  | nil => exact { level with tree := .complete held .nil (.cons pair top) }
  | cons first rest =>
      refine { level with tree := .complete held (.cons ?_ rest) top }
      exact ⟨first.name, first.attributes, first.bindings, .cons pair first.children⟩

/-- An assembly whose innermost element was taken off, together with what was pending. -/
def Assembly.leave (assembly : Assembly) (outer : List Frame) : Assembly :=
  { assembly with frames := outer, attributes := [], bindings := [], afterText := false }

theorem Assembly.endElement_eq_ok {name : QualifiedName} {offset : Nat} {after : Assembly} :
    assembly.endElement name offset = .ok after ↔
      assembly.tag.isSome = true ∧
        (∃ attributes, resolveAttributes assembly.scope [] assembly.attributes = .ok attributes) ∧
        ∃ frame outer, assembly.frames = frame :: outer ∧ frame.name = name ∧
          after = (assembly.leave outer).append frame.node := by
  unfold endElement
  cases begun : assembly.tag with
  | none => simp
  | some tag =>
      cases resolved : resolveAttributes assembly.scope [] assembly.attributes with
      | error fault => simp
      | ok attributes =>
          cases assembly.frames with
          | nil => simp
          | cons frame outer =>
              by_cases same : frame.name = name
              · simp [same, leave, begun, eq_comm]
              · simp [same]

/-- Leaving corresponding elements and adding them to what is around them. -/
theorem Level.leave {isInnermost : Bool} (level : Level isInnermost assembly assembly')
    {frame : Frame} {outer : List Frame} (inside : assembly.frames = frame :: outer) :
    ∃ frame' outer', assembly'.frames = frame' :: outer' ∧ frame.name = frame'.name ∧
      Abreast ((assembly.leave outer).append frame.node)
        ((assembly'.leave outer').append frame'.node) := by
  have left : ∀ {outer' : List Frame} {isInnermost : Bool},
      TreePairs isInnermost outer assembly.top outer' assembly'.top →
        Level isInnermost (assembly.leave outer) (assembly'.leave outer') := fun tree =>
    { level with tree, attributes := rfl, bindings := rfl, afterText := fun _ => rfl }
  have tree := level.tree
  rw [inside] at tree
  generalize frames' : assembly'.frames = stack' at tree
  cases tree with
  | opened stack top =>
      cases stack with
      | @innermost _ frame' _ outer' holder around =>
          -- the holder is complete from here on
          refine ⟨frame', outer', rfl, holder.name, false, ?_⟩
          have around' := around.imp fun _ _ pair =>
            pair.matched frame.element frame'.element
          have top' := top.imp fun _ _ pair => pair.matched frame.element frame'.element
          exact (left (.complete holder.held around' top')).complete_append holder.held around' top'
            (.element holder.matched)
      | @outer isInner _ frame' _ outer' first rest =>
          refine ⟨frame', outer', rfl, first.name, isInner, ?_⟩
          exact (left (.opened rest top)).append (first.node lifts_alike)
  | complete held stack top =>
      cases stack with
      | @cons _ frame' _ outer' first rest =>
          refine ⟨frame', outer', rfl, first.name, false, ?_⟩
          exact (left (.complete held rest top)).complete_append held rest top
            (first.node (lifts_matches _ _))

theorem Abreast.endElement (abreast : Abreast assembly assembly') {name : QualifiedName}
    {offset : Nat} (offset' : Nat) {after : Assembly}
    (ended : assembly.endElement name offset = .ok after) :
    ∃ after', assembly'.endElement name offset' = .ok after' ∧ Abreast after after' := by
  obtain ⟨isInnermost, level⟩ := abreast
  obtain ⟨begun, ⟨attributes, resolved⟩, frame, outer, inside, named, rfl⟩ :=
    Assembly.endElement_eq_ok.mp ended
  obtain ⟨frame', outer', inside', sameName, together⟩ := level.leave inside
  refine ⟨_, Assembly.endElement_eq_ok.mpr ⟨?_, ⟨attributes, ?_⟩, frame', outer', inside', ?_, rfl⟩,
    together⟩
  · have tags := congrArg Option.isSome level.tag
    rwa [Option.isSome_map, Option.isSome_map, begun, eq_comm] at tags
  · rw [← level.scope]
    exact resolveAttributes_anywhere level.attributes resolved
  · rw [← sameName, named]

end ContainerReplay.Markup
