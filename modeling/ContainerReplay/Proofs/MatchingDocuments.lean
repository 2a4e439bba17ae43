import Mathlib.Data.List.Forall2
import ContainerReplay.Descriptor.ActionConfig
import ContainerReplay.Descriptor.Deployment
import ContainerReplay.Proofs.DeploymentContent

/-!
# Reading documents that match

Two trees match if they have the same elements with the same attributes and the same texts, one
element apart: that one may have other texts.  Reading sees no difference between them but the line
numbers, unless that one element is of the few whose text is read and its text is another.
-/

set_option autoImplicit false

namespace ContainerReplay

/-- Diagnostics that differ in a line number at most. -/
inductive Diagnostic.SameButLine : Diagnostic → Diagnostic → Prop where
  | refl (diagnostic : Diagnostic) : SameButLine diagnostic diagnostic
  | line (severity : Severity) (start rest : String) (resource : Option String)
      (first second : Nat) :
      SameButLine ⟨severity, start ++ s!"line {first}" ++ rest, resource⟩
        ⟨severity, start ++ s!"line {second}" ++ rest, resource⟩

namespace Markup.Element

/-- Elements with the same names, attributes, texts and elements, except that where one has a holder
the other may have another holder with other texts. -/
inductive Matches (holder holder' : Element) : Element → Element → Prop where
  | alike {element element' : Element} (name : element.name = element'.name)
      (attributes : element.tag.attributes = element'.tag.attributes)
      (text : element.text? = element'.text?)
      (elements : List.Forall₂ (Matches holder holder') element.elements element'.elements) :
      Matches holder holder' element element'
  | holder (name : holder.name = holder'.name)
      (attributes : holder.tag.attributes = holder'.tag.attributes)
      (elements : List.Forall₂ (Matches holder holder') holder.elements holder'.elements) :
      Matches holder holder' holder holder'

namespace Matches

variable {holder holder' element element' : Element}

theorem name_eq (matched : Matches holder holder' element element') :
    element.name = element'.name := by
  cases matched <;> assumption

theorem elements_matched (matched : Matches holder holder' element element') :
    List.Forall₂ (Matches holder holder') element.elements element'.elements := by
  cases matched <;> assumption

theorem childrenNamed (matched : Matches holder holder' element element') (name : String) :
    List.Forall₂ (Matches holder holder') (element.childrenNamed name)
      (element'.childrenNamed name) := by
  refine List.rel_filter (fun child child' inner => ?_) matched.elements_matched
  simp only [inner.name_eq]

theorem attribute?_eq (matched : Matches holder holder' element element') (name : String) :
    element.attribute? name = element'.attribute? name := by
  have attributes : element.tag.attributes = element'.tag.attributes := by
    cases matched <;> assumption
  rw [attribute?, attributes]
  rfl

end Matches

end Markup.Element

namespace Descriptor

open Markup (Element)

variable {holder holder' : Element}

theorem attributeText?_matched {element element' : Element}
    (matched : Element.Matches holder holder' element element') (name : String) :
    attributeText? element name = attributeText? element' name := by
  rw [attributeText?, matched.attribute?_eq]
  rfl

/-! ## Readings side by side -/

/-- Two readings have come to the same, line numbers apart. -/
structure Reading.Agrees (first second : Reading) : Prop where
  app : first.survey.app = second.survey.app
  summary : first.summary = second.summary
  diagnostics :
    List.Forall₂ Diagnostic.SameButLine first.survey.diagnostics second.survey.diagnostics

namespace Reading.Agrees

variable {first second : Reading}

theorem refl (reading : Reading) : reading.Agrees reading where
  app := rfl
  summary := rfl
  diagnostics := List.forall₂_same.mpr fun diagnostic _ => .refl diagnostic

theorem count (agrees : first.Agrees second) : first.count.Agrees second.count where
  app := agrees.app
  summary := by simp only [Reading.count, agrees.summary]
  diagnostics := agrees.diagnostics

theorem updateApp (agrees : first.Agrees second) (change : Application → Application) :
    (first.updateApp change).Agrees (second.updateApp change) where
  app := by simp only [Reading.updateApp_app, agrees.app]
  summary := agrees.summary
  diagnostics := agrees.diagnostics

theorem register (agrees : first.Agrees second) (component : Component) :
    (first.update fun survey => survey.register component).Agrees
      (second.update fun survey => survey.register component) where
  app := by simp only [Reading.update, Survey.register_app, agrees.app]
  summary := agrees.summary
  diagnostics := by
    simp only [Reading.update, Survey.register_diagnostics, agrees.app]
    exact List.rel_append agrees.diagnostics
      (List.forall₂_same.mpr fun diagnostic _ => .refl diagnostic)

variable {source source' : Source} (resource : source.resource = source'.resource)

include resource

theorem remark (agrees : first.Agrees second) (severity : Severity) (message : String) :
    (first.remark source severity message).Agrees (second.remark source' severity message) where
  app := agrees.app
  summary := agrees.summary
  diagnostics := by
    simp only [Reading.remark, Reading.update, Survey.record, resource]
    exact List.rel_append agrees.diagnostics (.cons (.refl _) .nil)

/-- Warnings that name the lines of two elements. -/
theorem skipSaying (agrees : first.Agrees second) (start rest : String)
    (element element' : Element) :
    (first.skipSaying source (start ++ source.position element ++ rest)).Agrees
      (second.skipSaying source' (start ++ source'.position element' ++ rest)) where
  app := agrees.app
  summary := by
    simp only [Reading.skipSaying, Reading.remark, Reading.update, agrees.summary]
  diagnostics := by
    simp only [Reading.skipSaying, Reading.remark, Reading.update, Survey.record, resource]
    refine List.rel_append agrees.diagnostics (.cons ?_ .nil)
    exact .line .warn start rest (some source'.resource) (source.document.line element)
      (source'.document.line element')

theorem skip (agrees : first.Agrees second) (reason : String) (element element' : Element) :
    (first.skip source element reason).Agrees (second.skip source' element' reason) := by
  have warned := agrees.skipSaying resource s!"Skipping {reason} at " "" element element'
  simp only [String.append_empty] at warned
  exact warned

end Reading.Agrees

/-- Two readings agree, and something that goes along with them is the same. -/
structure AgreeAlong {α : Type} (state state' : Reading × α) : Prop where
  readings : state.1.Agrees state'.1
  same : state.2 = state'.2

theorem Reading.Agrees.along {α : Type} {reading reading' : Reading}
    (agrees : reading.Agrees reading') (along : α) :
    AgreeAlong (reading, along) (reading', along) :=
  ⟨agrees, rfl⟩

theorem filterMap_matched {β : Type} {read : Element → Option β}
    (same : ∀ element element', Element.Matches holder holder' element element' →
      read element = read element') {elements elements' : List Element}
    (matched : List.Forall₂ (Element.Matches holder holder') elements elements') :
    elements.filterMap read = elements'.filterMap read := by
  induction matched with
  | nil => rfl
  | cons first _ ih => rw [List.filterMap_cons, List.filterMap_cons, same _ _ first, ih]

theorem foldl_matched {σ : Type} {Related : σ → σ → Prop} {take take' : σ → Element → σ}
    {state state' : σ} (related : Related state state')
    (step : ∀ {state state' : σ}, Related state state' → ∀ {element element' : Element},
      Element.Matches holder holder' element element' →
        Related (take state element) (take' state' element'))
    {elements elements' : List Element}
    (matched : List.Forall₂ (Element.Matches holder holder') elements elements') :
    Related (elements.foldl take state) (elements'.foldl take' state') := by
  induction matched generalizing state state' with
  | nil => exact related
  | cons first _ ih => exact ih (step related first)

/-! ## Action configurations -/

namespace ActionConfig

theorem formBean?_matched {element element' : Element}
    (matched : Element.Matches holder holder' element element') :
    formBean? element = formBean? element' := by
  unfold formBean?
  rw [attributeText?_matched matched, attributeText?_matched matched]

theorem forward?_matched {element element' : Element}
    (matched : Element.Matches holder holder' element element') :
    forward? element = forward? element' := by
  unfold forward?
  rw [attributeText?_matched matched, attributeText?_matched matched, matched.attribute?_eq]

theorem sectionEntries_matched {root root' : Element}
    (matched : Element.Matches holder holder' root root') (sectionName entryName : String) :
    List.Forall₂ (Element.Matches holder holder') (sectionEntries root sectionName entryName)
      (sectionEntries root' sectionName entryName) :=
  List.rel_flatMap (matched.childrenNamed sectionName) fun _ _ inner =>
    inner.childrenNamed entryName

theorem mapping_matched {element element' : Element}
    (matched : Element.Matches holder holder' element element') (modulePrefix : String)
    (beans : List (String × String)) (globals : List Forward) :
    mapping modulePrefix beans globals element = mapping modulePrefix beans globals element' := by
  have bare : bareMapping modulePrefix beans element = bareMapping modulePrefix beans element' := by
    unfold bareMapping
    simp only [attributeText?_matched matched, matched.attribute?_eq]
  have forwards := filterMap_matched (fun _ _ => forward?_matched) (matched.childrenNamed "forward")
  rw [mapping, bare, forwards]
  rfl

theorem action_agrees {source source' : Source} (resource : source.resource = source'.resource)
    (modulePrefix : String) (beans : List (String × String)) (globals : List Forward)
    {state state' : Reading × List ActionMapping} (agree : AgreeAlong state state')
    {element element' : Element} (matched : Element.Matches holder holder' element element') :
    AgreeAlong (action source modulePrefix beans globals state element)
      (action source' modulePrefix beans globals state' element') := by
  unfold action
  rw [mapping_matched matched, agree.same]
  cases mapping modulePrefix beans globals element' with
  | ok mapped => exact ⟨agree.readings.count, rfl⟩
  | error fault =>
      have warned := agree.readings.skipSaying resource "Skipping action at "
        (": " ++ fault.message) element element'
      rw [← String.append_assoc, ← String.append_assoc] at warned
      exact ⟨warned, rfl⟩

/-- The action configurations of two roots that match are read alike: no text in them is read. -/
theorem readRoot_agrees {source source' : Source} (resource : source.resource = source'.resource)
    (matched : Element.Matches holder holder' source.document.root source'.document.root)
    (owner modulePrefix : String) (reading : Reading) :
    (readRoot source owner modulePrefix reading).Agrees
      (readRoot source' owner modulePrefix reading) := by
  have beans : formBeans source.document.root = formBeans source'.document.root :=
    filterMap_matched (fun _ _ => formBean?_matched)
      (sectionEntries_matched matched "form-beans" "form-bean")
  have globals : globalForwards source.document.root = globalForwards source'.document.root :=
    filterMap_matched (fun _ _ => forward?_matched)
      (sectionEntries_matched matched "global-forwards" "forward")
  have taken := foldl_matched ((Reading.Agrees.refl reading).along [])
    (action_agrees resource modulePrefix (formBeans source.document.root)
      (globalForwards source.document.root))
    (sectionEntries_matched matched "action-mappings" "action")
  unfold readRoot
  simp only [← beans, ← globals, taken.same]
  exact taken.readings.register _

end ActionConfig

/-! ## Deployment descriptors -/

/-- The elements whose texts are read. -/
def textElements : List String :=
  ["display-name", "param-name", "param-value", "servlet-name", "servlet-class", "jsp-file",
    "load-on-startup", "filter-name", "filter-class", "url-pattern", "listener-class",
    "injection-target-class", "injection-target-name"] ++
  referenceElements.flatMap fun reference => [reference.nameChild, reference.typeChild]

section

variable (texts : holder.name ∈ textElements → elementText? holder = elementText? holder')
  {element element' : Element} {name : String} (read : name ∈ textElements)

include texts

theorem elementText?_matched (matched : Element.Matches holder holder' element element')
    (read : element.name ∈ textElements) : elementText? element = elementText? element' := by
  cases matched with
  | alike _ _ text _ => rw [elementText?, text, elementText?]
  | holder _ _ _ => exact texts read

theorem map_elementText?_matched {elements elements' : List Element}
    (matched : List.Forall₂ (Element.Matches holder holder') elements elements')
    (read : ∀ element ∈ elements, element.name ∈ textElements) :
    elements.map elementText? = elements'.map elementText? := by
  induction matched with
  | nil => rfl
  | cons first _ ih =>
      obtain ⟨readFirst, readRest⟩ := List.forall_mem_cons.mp read
      rw [List.map_cons, List.map_cons, elementText?_matched texts first readFirst, ih readRest]

include read

theorem map_sectionText?_matched
    (sections : List.Forall₂ (Element.Matches holder holder') (element.childrenNamed name)
      (element'.childrenNamed name)) :
    (element.childrenNamed name).map elementText? =
      (element'.childrenNamed name).map elementText? := by
  refine map_elementText?_matched texts sections fun child member => ?_
  rwa [beq_iff_eq.mp (List.mem_filter.mp member).2]

theorem childText?_sections
    (sections : List.Forall₂ (Element.Matches holder holder') (element.childrenNamed name)
      (element'.childrenNamed name)) : childText? element name = childText? element' name := by
  have same := map_sectionText?_matched texts read sections
  unfold childText?
  cases inFirst : element.childrenNamed name with
  | nil =>
      rw [inFirst] at same
      rw [List.map_eq_nil_iff.mp same.symm]
  | cons child rest =>
      rw [inFirst] at same
      obtain ⟨child', rest', inSecond, text, _⟩ := List.map_eq_cons_iff.mp same.symm
      rw [inSecond]
      exact text.symm

theorem childText?_matched (matched : Element.Matches holder holder' element element') :
    childText? element name = childText? element' name :=
  childText?_sections texts read (matched.childrenNamed name)

theorem childTexts_matched (matched : Element.Matches holder holder' element element') :
    childTexts element name = childTexts element' name := by
  have listed : ∀ element : Element, childTexts element name =
      ((element.childrenNamed name).map elementText?).filterMap id := fun element => by
    rw [List.filterMap_map]
    rfl
  rw [listed, listed, map_sectionText?_matched texts read (matched.childrenNamed name)]

end

namespace Deployment

variable (texts : holder.name ∈ textElements → elementText? holder = elementText? holder')
  {source source' : Source} (resource : source.resource = source'.resource)

include texts

theorem parameter?_matched {element element' : Element}
    (matched : Element.Matches holder holder' element element') :
    parameter? element = parameter? element' := by
  unfold parameter?
  rw [childText?_matched texts (by decide) matched, childText?_matched texts (by decide) matched]

include resource

theorem contextParam_agrees {reading reading' : Reading} (agrees : reading.Agrees reading')
    {element element' : Element} (matched : Element.Matches holder holder' element element') :
    (contextParam source reading element).Agrees (contextParam source' reading' element') := by
  unfold contextParam
  rw [parameter?_matched texts matched]
  split
  · exact agrees.skip resource _ element element'
  · exact agrees.updateApp _

theorem initParam_agrees {state state' : Reading × Component} (agree : AgreeAlong state state')
    {element element' : Element} (matched : Element.Matches holder holder' element element') :
    AgreeAlong (initParam source state element) (initParam source' state' element') := by
  unfold initParam
  rw [parameter?_matched texts matched]
  split
  · exact ⟨agree.readings.skip resource _ element element', agree.same⟩
  · exact ⟨agree.readings, congrArg (Component.addParameter · _ _) agree.same⟩

theorem initParams_agree {reading reading' : Reading} (agrees : reading.Agrees reading')
    {element element' : Element} (matched : Element.Matches holder holder' element element')
    (component : Component) :
    AgreeAlong (initParams source element reading component)
      (initParams source' element' reading' component) :=
  foldl_matched (agrees.along component) (initParam_agrees texts resource)
    (matched.childrenNamed "init-param")

theorem startupOrder_agrees {state state' : Reading × Component} (agree : AgreeAlong state state')
    {element element' : Element} (matched : Element.Matches holder holder' element element')
    (name : String) :
    AgreeAlong (startupOrder source element name state)
      (startupOrder source' element' name state') := by
  unfold startupOrder
  rw [childText?_matched texts (by decide) matched]
  split
  · exact agree
  · split
    · exact ⟨agree.readings, by rw [agree.same]⟩
    · exact ⟨agree.readings.remark resource _ _, agree.same⟩

omit texts resource in
theorem declare_agrees (name : String) {declarations declarations' : Declarations}
    (same : declarations = declarations') {state state' : Reading × Component}
    (agree : AgreeAlong state state') :
    AgreeAlong (declare name declarations state) (declare name declarations' state') := by
  unfold declare
  rw [same, agree.same]
  exact ⟨(agree.readings.register _).count, rfl⟩

theorem servlet_agrees {state state' : Reading × Declarations} (agree : AgreeAlong state state')
    {element element' : Element} (matched : Element.Matches holder holder' element element') :
    AgreeAlong (servlet source state element) (servlet source' state' element') := by
  unfold servlet
  rw [childText?_matched texts (by decide) matched, childText?_matched texts (by decide) matched,
    childText?_matched texts (by decide) matched]
  split
  · exact ⟨agree.readings.skip resource _ element element', agree.same⟩
  · split
    · exact declare_agrees _ agree.same (startupOrder_agrees texts resource
        (initParams_agree texts resource agree.readings matched _) matched _)
    · split
      · exact ⟨agree.readings.remark resource _ _, agree.same⟩
      · exact ⟨agree.readings.skip resource _ element element', agree.same⟩

theorem filter_agrees {state state' : Reading × Declarations} (agree : AgreeAlong state state')
    {element element' : Element} (matched : Element.Matches holder holder' element element') :
    AgreeAlong (filter source state element) (filter source' state' element') := by
  unfold filter
  rw [childText?_matched texts (by decide) matched, childText?_matched texts (by decide) matched]
  split
  · exact declare_agrees _ agree.same (initParams_agree texts resource agree.readings matched _)
  · exact ⟨agree.readings.skip resource _ element element', agree.same⟩

theorem servletMapping_agrees (declarations : Declarations) {reading reading' : Reading}
    (agrees : reading.Agrees reading') {element element' : Element}
    (matched : Element.Matches holder holder' element element') :
    (servletMapping source declarations reading element).Agrees
      (servletMapping source' declarations reading' element') := by
  unfold servletMapping
  rw [childText?_matched texts (by decide) matched, childTexts_matched texts (by decide) matched,
    agrees.app]
  split
  · exact agrees.skip resource _ element element'
  · split
    · exact agrees.skip resource _ element element'
    · exact (agrees.updateApp _).count

theorem filterMapping_agrees (declarations : Declarations) {reading reading' : Reading}
    (agrees : reading.Agrees reading') {element element' : Element}
    (matched : Element.Matches holder holder' element element') :
    (filterMapping source declarations reading element).Agrees
      (filterMapping source' declarations reading' element') := by
  unfold filterMapping
  rw [childText?_matched texts (by decide) matched, childTexts_matched texts (by decide) matched,
    childTexts_matched texts (by decide) matched, agrees.app]
  split
  · exact agrees.skip resource _ element element'
  · split
    · exact agrees.skip resource _ element element'
    · exact (agrees.updateApp _).count

theorem listener_agrees {reading reading' : Reading} (agrees : reading.Agrees reading')
    {element element' : Element} (matched : Element.Matches holder holder' element element') :
    (listener source reading element).Agrees (listener source' reading' element') := by
  unfold listener
  rw [childText?_matched texts (by decide) matched]
  split
  · exact agrees.skip resource _ element element'
  · exact (agrees.register _).count

omit resource in
theorem allInjections_sections {root root' : Element}
    (sections : ∀ name, List.Forall₂ (Element.Matches holder holder') (root.childrenNamed name)
      (root'.childrenNamed name)) : allInjections root = allInjections root' := by
  have reference : ∀ reference ∈ referenceElements, ∀ {element element' : Element},
      Element.Matches holder holder' element element' →
        injections reference element = injections reference element' := by
    intro reference listed element element' inner
    have named : reference.nameChild ∈ textElements :=
      List.mem_append_right _ (List.mem_flatMap.mpr ⟨reference, listed, by simp⟩)
    have typed : reference.typeChild ∈ textElements :=
      List.mem_append_right _ (List.mem_flatMap.mpr ⟨reference, listed, by simp⟩)
    have targets : ∀ name type, (element.childrenNamed "injection-target").filterMap
        (injection? name type) = (element'.childrenNamed "injection-target").filterMap
          (injection? name type) := by
      intro name type
      refine filterMap_matched (fun target target' same => ?_)
        (inner.childrenNamed "injection-target")
      unfold injection?
      rw [childText?_matched texts (by decide) same, childText?_matched texts (by decide) same]
    unfold injections
    simp only [childText?_matched texts named inner, childText?_matched texts typed inner, targets]
  refine List.flatMap_congr fun kind listed => ?_
  have elements := sections kind.element
  generalize root.childrenNamed kind.element = found,
    root'.childrenNamed kind.element = found' at elements
  induction elements with
  | nil => rfl
  | cons first _ ih => rw [List.flatMap_cons, List.flatMap_cons, ih, reference kind listed first]

/-- The deployment descriptors of two roots are read alike if the children of each name match in
turn, unless the one element in which they differ is read and has another text. -/
theorem readRoot_sections
    (sections : ∀ name, List.Forall₂ (Element.Matches holder holder')
      (source.document.root.childrenNamed name) (source'.document.root.childrenNamed name))
    (reading : Reading) : (readRoot source reading).Agrees (readRoot source' reading) := by
  have entitled : (displayName source.document.root reading).Agrees
      (displayName source'.document.root reading) := by
    unfold displayName
    rw [childText?_sections texts (by decide) (sections "display-name")]
    exact Reading.Agrees.refl _
  have configured := foldl_matched entitled (contextParam_agrees texts resource)
    (sections "context-param")
  have servlets := foldl_matched (configured.along []) (servlet_agrees texts resource)
    (sections "servlet")
  have filters := foldl_matched (servlets.readings.along []) (filter_agrees texts resource)
    (sections "filter")
  have mapped := fun servletNames filterNames : Declarations =>
    foldl_matched
      (foldl_matched filters.readings (servletMapping_agrees texts resource servletNames)
        (sections "servlet-mapping"))
      (filterMapping_agrees texts resource filterNames) (sections "filter-mapping")
  have listeners := fun servletNames filterNames : Declarations =>
    foldl_matched (mapped servletNames filterNames) (listener_agrees texts resource)
      (sections "listener")
  unfold readRoot
  simp only [← allInjections_sections texts sections, ← servlets.same, ← filters.same]
  exact (listeners _ _).updateApp _

theorem readRoot_agrees
    (matched : Element.Matches holder holder' source.document.root source'.document.root)
    (reading : Reading) : (readRoot source reading).Agrees (readRoot source' reading) :=
  readRoot_sections texts resource matched.childrenNamed reading

end Deployment

end Descriptor

end ContainerReplay
