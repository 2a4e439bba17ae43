import ContainerReplay.Proofs.DocumentsAcross

/-!
# Descriptors with and without a comment

A comment inside the root element is removed from a descriptor.  What a reader takes from the
descriptor stays the same, line numbers apart, unless the comment stands in a text that is read:
then the text is cut where the comment begins, and there is none if the comment comes first.  Action
configurations are read by their attributes alone, so there comments never matter.
-/

set_option autoImplicit false

namespace ContainerReplay.Descriptor

open Markup (Element)

/-- Two descriptors are both read to the same, line numbers apart, or both refused for one
reason. -/
inductive SameOutcome : Except DetectionError Reading → Except DetectionError Reading → Prop where
  | read {first second : Reading} (agrees : first.Agrees second) :
      SameOutcome (.ok first) (.ok second)
  | refused (error : DetectionError) : SameOutcome (.error error) (.error error)

theorem openSource_eq {resource : String} {bytes : ByteArray} {text : List Char}
    {document : Markup.Document} (decoded : decode resource bytes = .ok text)
    (read : Markup.Document.ofText text = .ok document) (roots : List String) :
    openSource resource roots bytes =
      if roots.contains document.root.name then .ok ⟨resource, document⟩
      else .error (.malformed resource (unexpectedRoot document.root.name roots)) := by
  rw [openSource, decoded]
  simp only [read]

section

variable {resource : String} {bytes bytes' : ByteArray} {text text' : List Char}
  {document document' : Markup.Document} {holder holder' : Element}
  (decoded : decode resource bytes = .ok text) (decoded' : decode resource bytes' = .ok text')
  (read : Markup.Document.ofText text = .ok document)
  (read' : Markup.Document.ofText text' = .ok document')
  (matched : Element.Matches holder holder' document.root document'.root)

include decoded decoded' read read' matched

theorem Deployment.readBytes_matched
    (texts : holder.name ∈ textElements → elementText? holder = elementText? holder')
    (survey : Survey) :
    SameOutcome (readBytes resource bytes survey) (readBytes resource bytes' survey) := by
  rw [readBytes, readBytes, openSource_eq decoded read, openSource_eq decoded' read',
    matched.name_eq]
  by_cases known : roots.contains document'.root.name = true
  · simp only [if_pos known]
    have named : (Source.mk resource document).resource = (Source.mk resource document').resource :=
      rfl
    exact .read (readRoot_agrees texts named matched _)
  · simp only [if_neg known]
    exact .refused _

theorem ActionConfig.readBytes_matched (owner modulePrefix : String) (survey : Survey) :
    SameOutcome (readBytes owner modulePrefix resource bytes survey)
      (readBytes owner modulePrefix resource bytes' survey) := by
  rw [readBytes, readBytes, openSource_eq decoded read, openSource_eq decoded' read',
    matched.name_eq]
  by_cases known : roots.contains document'.root.name = true
  · simp only [if_pos known]
    split
    · have named : (Source.mk resource document).resource =
          (Source.mk resource document').resource := rfl
      exact .read (readRoot_agrees named matched owner modulePrefix _)
    · exact .refused _
  · simp only [if_neg known]
    exact .refused _

omit decoded decoded' read read' matched

/-- A comment cuts the text of an element that is read for its text: nothing but text stands before
the comment, and the text is another one without it. -/
structure CutsText (holder holder' : Element) : Prop where
  isRead : holder.name ∈ textElements
  front : ∃ lead later, holder.children = lead ++ .aside :: later ∧
    ∀ node ∈ lead, Markup.IsText node
  other : elementText? holder ≠ elementText? holder'

/-- Behind its first child an element may hold comments without another text. -/
theorem cutsText_of_ne (held : Markup.HoldsComment holder holder')
    (isRead : holder.name ∈ textElements) (other : elementText? holder ≠ elementText? holder') :
    CutsText holder holder' := by
  obtain ⟨earlier, lead, later, later', children, children', texts⟩ := held
  cases earlier with
  | nil => exact ⟨isRead, ⟨lead, later, children, texts⟩, other⟩
  | cons first rest =>
      have same : holder.text? = holder'.text? := by
        rw [Element.text?, children, Element.text?, children']
        cases first <;> rfl
      exact absurd (by rw [elementText?, same, elementText?]) other

include decoded decoded' read read'

/-- A descriptor is read alike with a comment inside its root element and without it, unless the
comment cuts a text that is read.  An action configuration is read alike in any case. -/
theorem readBytes_without_comment (removed : Markup.RemovesComment text text') :
    ∃ holder holder', Markup.HoldsComment holder holder' ∧
      Element.Matches holder holder' document.root document'.root ∧
      (∀ owner modulePrefix survey,
        SameOutcome (ActionConfig.readBytes owner modulePrefix resource bytes survey)
          (ActionConfig.readBytes owner modulePrefix resource bytes' survey)) ∧
      (CutsText holder holder' ∨ ∀ survey,
        SameOutcome (Deployment.readBytes resource bytes survey)
          (Deployment.readBytes resource bytes' survey)) := by
  obtain ⟨holder, holder', held, matched⟩ := removed.matched read read'
  refine ⟨holder, holder', held, matched,
    ActionConfig.readBytes_matched decoded decoded' read read' matched, ?_⟩
  by_cases texts : holder.name ∈ textElements → elementText? holder = elementText? holder'
  · exact Or.inr (Deployment.readBytes_matched decoded decoded' read read' matched texts)
  · obtain ⟨isRead, other⟩ := Classical.not_imp.mp texts
    exact Or.inl (cutsText_of_ne held isRead other)

end

/-- Whether a text can be stored and is a document that is read with a summary. -/
def readsWith (text : List Char) (summary : ReadSummary) : Bool :=
  (decode "web.xml" (String.ofList text).toUTF8).toOption.any fun decoded =>
    decoded == text && (Markup.Document.ofText text).toOption.isSome &&
      (Deployment.readBytes "web.xml" (String.ofList text).toUTF8 {}).toOption.any fun reading =>
        reading.summary == summary

theorem exists_of_readsWith (text : List Char) (summary : ReadSummary)
    (reads : readsWith text summary = true) :
    ∃ bytes document reading, decode "web.xml" bytes = .ok text ∧
      Markup.Document.ofText text = .ok document ∧
      Deployment.readBytes "web.xml" bytes {} = .ok reading ∧ reading.summary = summary := by
  obtain ⟨spelled, decoded, checked⟩ := exists_ok_of_any reads
  simp only [Bool.and_eq_true, beq_iff_eq] at checked
  obtain ⟨⟨rfl, isDocument⟩, isRead⟩ := checked
  obtain ⟨document, taken⟩ := Option.isSome_iff_exists.mp isDocument
  obtain ⟨reading, read, counted⟩ := exists_ok_of_any isRead
  exact ⟨_, document, reading, decoded, toOption_eq_some_iff.mp taken, read, beq_iff_eq.mp counted⟩

/-- A servlet whose class is still to come. -/
def beforeClass : List Char :=
  ("<web-app><servlet><servlet-name>n</servlet-name>" ++ "<servlet-class>").toList

/-- The class and the end of the descriptor. -/
def classAndEnd : List Char :=
  "C</servlet-class></servlet></web-app>".toList

def shortComment : List Char := "<!-- c -->".toList

theorem removes_shortComment :
    Markup.RemovesComment (beforeClass ++ shortComment ++ classAndEnd)
      (beforeClass ++ classAndEnd) := by
  refine ⟨beforeClass, shortComment, classAndEnd, rfl, rfl,
    ⟨" c ".toList, by decide, by decide⟩, ?_⟩
  have inside : (Markup.assemble beforeClass).toOption.any (fun reached =>
      !reached.frames.isEmpty) = true := by decide +kernel
  cases assembled : Markup.assemble beforeClass with
  | error fault =>
      rw [assembled] at inside
      cases inside
  | ok reached =>
      rw [assembled] at inside
      exact ⟨reached, assembled, by simpa [Except.toOption] using inside⟩

/-- A comment before the name of a class hides the class, and the servlet is skipped. -/
theorem comment_hides_class :
    ∃ bytes bytes' document document' holder holder' first second,
      decode "web.xml" bytes = .ok (beforeClass ++ shortComment ++ classAndEnd) ∧
      decode "web.xml" bytes' = .ok (beforeClass ++ classAndEnd) ∧
      Markup.RemovesComment (beforeClass ++ shortComment ++ classAndEnd)
        (beforeClass ++ classAndEnd) ∧
      Markup.Document.ofText (beforeClass ++ shortComment ++ classAndEnd) = .ok document ∧
      Markup.Document.ofText (beforeClass ++ classAndEnd) = .ok document' ∧
      Markup.HoldsComment holder holder' ∧
      Element.Matches holder holder' document.root document'.root ∧
      CutsText holder holder' ∧
      Deployment.readBytes "web.xml" bytes {} = .ok first ∧ first.summary = ⟨0, 1⟩ ∧
      Deployment.readBytes "web.xml" bytes' {} = .ok second ∧ second.summary = ⟨1, 0⟩ := by
  obtain ⟨bytes, document, first, decoded, read, readFirst, skipped⟩ :=
    exists_of_readsWith (beforeClass ++ shortComment ++ classAndEnd) ⟨0, 1⟩ (by decide +kernel)
  obtain ⟨bytes', document', second, decoded', read', readSecond, taken⟩ :=
    exists_of_readsWith (beforeClass ++ classAndEnd) ⟨1, 0⟩ (by decide +kernel)
  have removed := removes_shortComment
  obtain ⟨holder, holder', held, matched, _, cutOrAlike⟩ :=
    readBytes_without_comment decoded decoded' read read' removed
  -- with the comment alone the servlet is skipped, so the comment must have cut a text
  have cut : CutsText holder holder' := by
    refine cutOrAlike.resolve_right fun alike => ?_
    have outcome := alike {}
    rw [readFirst, readSecond] at outcome
    cases outcome with
    | read agrees =>
        have same := agrees.summary
        rw [skipped, taken] at same
        cases same
  exact ⟨bytes, bytes', document, document', holder, holder', first, second, decoded, decoded',
    removed, read, read', held, matched, cut, readFirst, skipped, readSecond, taken⟩

end ContainerReplay.Descriptor
