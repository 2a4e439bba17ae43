import ContainerReplay.Proofs.ContentAcross
import ContainerReplay.Proofs.SteadyProlog

/-!
# Documents with and without a comment

A text that breaks off inside its root element goes on with a comment, or without it.  If both texts
are documents, their trees match but for the element that holds the comment.
-/

set_option autoImplicit false

namespace ContainerReplay.Markup

open Cursor

variable {cursor after after' : Cursor} {assembly assembly' built built' : Assembly}

/-! ## Whether elements are open -/

theorem appendAside_frames (assembly : Assembly) :
    assembly.appendAside.frames = [] ↔ assembly.frames = [] := by
  rw [Assembly.appendAside, Assembly.append_eq]
  simp only [Assembly.grow]
  cases assembly.frames <;> simp

theorem repeated_keeps (property : Assembly → Prop)
    {step : Cursor → Assembly → Except Fault (Bool × Cursor × Assembly)}
    (keeps : ∀ {cursor after : Cursor} {assembly built : Assembly} {goesOn : Bool},
      step cursor assembly = .ok (goesOn, after, built) → property assembly → property built)
    {steps : Nat} (taken : repeated step steps cursor assembly = .ok (after, built))
    (before : property assembly) : property built := by
  induction steps generalizing cursor assembly with
  | zero =>
      cases taken
      exact before
  | succ steps ih =>
      simp only [repeated, bind_eq_ok, Prod.exists] at taken
      obtain ⟨goesOn, stop, grown, first, rest⟩ := taken
      have kept := keeps first before
      cases goesOn with
      | false =>
          cases rest
          exact kept
      | true => exact ih rest kept

/-- Comments and instructions open and close no elements. -/
theorem miscStep_frames {goesOn : Bool}
    (taken : miscStep cursor assembly = .ok (goesOn, after, built)) :
    built.frames = [] ↔ assembly.frames = [] := by
  unfold miscStep at taken
  repeat' split at taken
  · cases taken
    exact Iff.rfl
  · simp only [bind_eq_ok, Except.ok.injEq, Prod.mk.injEq] at taken
    obtain ⟨_, _, _, _, rfl⟩ := taken
    exact appendAside_frames assembly
  · simp only [bind_eq_ok, Except.ok.injEq, Prod.mk.injEq] at taken
    obtain ⟨_, _, _, _, rfl⟩ := taken
    exact appendAside_frames assembly
  · cases taken
    exact Iff.rfl

theorem misc_frames (taken : misc cursor assembly = .ok (after, built)) :
    built.frames = [] ↔ assembly.frames = [] := by
  rw [misc, skipMisc_eq] at taken
  constructor
  · contrapose
    exact repeated_keeps (·.frames ≠ []) (fun step => mt (miscStep_frames step).mp) taken
  · exact repeated_keeps (·.frames = []) (fun step => (miscStep_frames step).mpr) taken

theorem declarationStep_outside {start : Nat} {goesOn : Bool}
    (taken : declarationStep start cursor assembly = .ok (goesOn, after, built))
    (outside : assembly.frames = []) : built.frames = [] := by
  unfold declarationStep at taken
  split at taken
  · cases taken
    exact outside
  · split at taken
    · simp only [bind_eq_ok, Prod.exists, Except.ok.injEq, Prod.mk.injEq, entityDeclaration_eq]
        at taken
      obtain ⟨_, _, ⟨_, _, _, _, _, _, _, _, _, value?, _, _, _, _, rfl, rfl⟩, _, rfl, rfl⟩ := taken
      cases value? <;> exact outside
    · simp only [bind_eq_ok, Prod.exists] at taken
      obtain ⟨isAside, stop, grown, aside, taken⟩ := taken
      have kept : grown.frames = [] := (miscStep_frames aside).mpr outside
      cases isAside with
      | true =>
          cases taken
          exact kept
      | false =>
          simp only [Bool.false_eq_true, if_false] at taken
          unfold declarationEnd at taken
          split at taken
          · simp only [bind_eq_ok, Except.ok.injEq, Prod.mk.injEq] at taken
            obtain ⟨_, _, _, _, rfl⟩ := taken
            exact kept
          · split at taken
            · split at taken
              · cases taken
              · cases taken
                exact kept
            · cases taken

theorem prolog_outside {text : List Char} (taken : prolog text = .ok (after, built)) :
    built.frames = [] := by
  simp only [prolog, bind_eq_ok, Prod.exists, Except.ok.injEq, Prod.mk.injEq] at taken
  obtain ⟨_, _, _, assembly, asides, _, _, typed, _, rfl⟩ := taken
  have outside : assembly.frames = [] := (misc_frames asides).mpr rfl
  unfold takeType at typed
  split at typed
  · simp only [bind_eq_ok, Prod.exists] at typed
    obtain ⟨_, grown, type, asides'⟩ := typed
    refine (misc_frames asides').mpr ?_
    unfold documentType at type
    simp only [bind_eq_ok, Prod.exists] at type
    obtain ⟨_, _, _, _, _, _, _, _, _, _, ends⟩ := type
    split at ends
    · cases ends
      exact outside
    · split at ends
      · rw [declarations_eq] at ends
        exact repeated_keeps (·.frames = []) declarationStep_outside ends outside
      · cases ends
  · cases typed
    exact outside

theorem Assembly.addAttribute_frames {name : QualifiedName} {value : String} {offset : Nat}
    (added : assembly.addAttribute name value offset = .ok built) :
    built.frames = assembly.frames := by
  unfold addAttribute bind bindDefault at added
  repeat' split at added
  all_goals
    cases added
  all_goals rfl

theorem endStartTag_outside (ended : assembly.endStartTag true = .ok built)
    (outside : assembly.frames = []) : built.frames = [] := by
  unfold Assembly.endStartTag at ended
  split at ended
  · cases ended
    exact outside
  · split at ended
    · cases ended
    · rename_i finished
      cases ended
      unfold Assembly.finishTag at finished
      simp only at finished
      split at finished
      · cases finished
      · split at finished
        · cases finished
        · cases finished
          simp [Assembly.append, outside]

/-- A tag with content ends with a bracket, and only such a tag opens an element. -/
theorem takeTag_frames {levels steps : Nat} {ends : TagEnd}
    (taken : takeTag levels steps cursor assembly = .ok (ends, after, built)) :
    (ends = .opened → '>' ∈ cursor.rest) ∧
      (ends ≠ .opened → assembly.frames = [] → built.frames = []) := by
  induction steps generalizing cursor assembly with
  | zero =>
      cases taken
      exact ⟨fun opened => (by cases opened), fun _ outside => outside⟩
  | succ steps ih =>
      by_cases done : cursor.rest = []
      · rw [takeTag_atEnd done] at taken
        cases taken
        exact ⟨fun opened => (by cases opened), fun _ outside => outside⟩
      · have within := (skipSpaces_suffix cursor).subset
        cases ahead : cursor.skipSpaces.rest with
        | nil =>
            rw [takeTag_spaces done ahead] at taken
            cases taken
        | cons c tail =>
            rw [takeTag_ahead ahead] at taken
            split at taken
            · simp only [bind_eq_ok, Except.ok.injEq, Prod.mk.injEq] at taken
              obtain ⟨_, _, _, ended, rfl, rfl, rfl⟩ := taken
              exact ⟨fun opened => (by cases opened),
                fun _ outside => endStartTag_outside ended outside⟩
            · split at taken
              · rename_i closing
                simp only [bind_eq_ok, Except.ok.injEq, Prod.mk.injEq] at taken
                obtain ⟨_, _, rfl, _⟩ := taken
                exact ⟨fun _ => within (by simp [ahead, closing]), fun other => absurd rfl other⟩
              · split at taken
                · cases taken
                · simp only [bind_eq_ok, Prod.exists] at taken
                  obtain ⟨stop, grown, added, rest⟩ := taken
                  obtain ⟨closing, outer⟩ := ih rest
                  obtain ⟨_, _, _, attribute', _, built'⟩ := addAttribute_eq_ok.mp added
                  refine ⟨fun opened => within ?_, fun other outside => outer other ?_⟩
                  · exact (takeAttribute_suffix attribute').1.subset (closing opened)
                  · rw [Assembly.addAttribute_frames built']
                    exact outside

theorem startTag_frames {levels : Nat} {ends : TagEnd}
    (taken : startTag levels cursor assembly = .ok (ends, after, built)) :
    (ends = .opened → '>' ∈ cursor.rest) ∧
      (ends ≠ .opened → assembly.frames = [] → built.frames = []) := by
  obtain ⟨name, named, begun, qualified, started, rest⟩ := startTag_eq_ok.mp taken
  have frames : begun.frames = assembly.frames := by
    unfold Assembly.startTag at started
    split at started <;> cases started
    rfl
  obtain ⟨closing, outer⟩ := takeTag_frames rest
  have within := ((qualifiedName_suffix qualified).trans (advance_suffix cursor 1)).subset
  exact ⟨fun opened => within (closing opened),
    fun other outside => outer other (frames.trans outside)⟩

/-- Where elements stay open, the root element was opened and content was read. -/
theorem takeRoot_inside (taken : takeRoot cursor assembly = .ok (after, built))
    (outside : assembly.frames = []) (inside : built.frames ≠ []) :
    cursor.startsWith "<" = true ∧ '>' ∈ cursor.rest ∧ ∃ rest opened,
      startTag maxDepth cursor assembly = .ok (.opened, rest, opened) ∧
      takeContent maxDepth (nestedRead maxDepth) (rest.rest.length + 1) 1 rest opened =
        .ok (after, built) := by
  unfold takeRoot at taken
  split at taken
  · rename_i begins
    unfold takeElement at taken
    split at taken
    · cases taken
    · rename_i rest opened started
      exact ⟨begins, (startTag_frames started).1 rfl, rest, opened, started, taken⟩
    · rename_i ends _ _ notOpened started
      cases taken
      exact absurd ((startTag_frames started).2 notOpened outside) inside
  · cases taken
    exact absurd outside inside

/-! ## Both documents -/

variable {shift : Nat} {related : Assembly → Assembly → Prop}

theorem miscStep_parallel (parallel : Parallel shift related)
    (together : related assembly assembly') {goesOn goesOn' : Bool}
    (first : miscStep (cursor.moved shift []) assembly = .ok (goesOn, after, built))
    (second : miscStep cursor assembly' = .ok (goesOn', after', built')) :
    goesOn = goesOn' ∧ after = after'.moved shift [] ∧ related built built' := by
  have still : (cursor.moved shift []).skipSpaces = cursor.skipSpaces.moved shift [] :=
    skipSpaces_moved shift [] (ends_nil _ _)
  have notEnd : (cursor.moved shift []).atEnd = cursor.atEnd := by simp [atEnd]
  have begins (text : String) (place : Cursor) :
      (place.moved shift []).startsWith text = place.startsWith text := by simp [startsWith]
  unfold miscStep at first second
  simp only [still, notEnd, begins] at first
  split at second
  · rename_i done
    rw [if_pos done] at first
    cases first
    cases second
    exact ⟨rfl, rfl, together⟩
  · rename_i inside
    rw [if_neg inside] at first
    split at second
    · rename_i there
      rw [if_pos there] at first
      simp only [bind_eq_ok, Except.ok.injEq, Prod.mk.injEq] at first second
      obtain ⟨_, skipped, rfl, rfl, rfl⟩ := second
      obtain ⟨_, skipped', rfl, rfl, rfl⟩ := first
      rw [skipComment_moved shift [] skipped] at skipped'
      cases skipped'
      exact ⟨rfl, rfl, parallel.appendAside together⟩
    · rename_i noComment
      rw [if_neg noComment] at first
      split at second
      · rename_i there
        rw [if_pos there] at first
        simp only [bind_eq_ok, Except.ok.injEq, Prod.mk.injEq] at first second
        obtain ⟨_, skipped, rfl, rfl, rfl⟩ := second
        obtain ⟨_, skipped', rfl, rfl, rfl⟩ := first
        rw [skipInstruction_moved shift [] skipped] at skipped'
        cases skipped'
        exact ⟨rfl, rfl, parallel.appendAside together⟩
      · rename_i noInstruction
        rw [if_neg noInstruction] at first
        cases first
        cases second
        exact ⟨rfl, rfl, together⟩

theorem misc_parallel (parallel : Parallel shift related) (together : related assembly assembly')
    (first : misc (cursor.moved shift []) assembly = .ok (after, built))
    (second : misc cursor assembly' = .ok (after', built')) : related built built' := by
  rw [misc, skipMisc_eq] at first second
  rw [moved_rest, List.append_nil] at first
  generalize cursor.rest.length + 1 = steps at first second
  induction steps generalizing cursor assembly assembly' with
  | zero =>
      cases first
      cases second
      exact together
  | succ steps ih =>
      simp only [repeated, bind_eq_ok, Prod.exists] at first second
      obtain ⟨goesOn, _, _, step, second⟩ := second
      obtain ⟨goesOn', _, _, step', first⟩ := first
      obtain ⟨rfl, rfl, together⟩ := miscStep_parallel parallel together step' step
      cases goesOn' with
      | false =>
          cases first
          cases second
          exact together
      | true => exact ih together first second

variable {comment follow before : List Char}

/-- A text breaks off inside its root element, and goes on with a comment or without it. -/
theorem assemble_across (isComment : IsComment comment) {reached : Assembly}
    (alone : assemble before = .ok reached) (inside : reached.frames ≠ [])
    (first : assemble (before ++ (comment ++ follow)) = .ok built) (closed : built.frames = [])
    (second : assemble (before ++ follow) = .ok built') : Abreast built built' := by
  simp only [assemble_eq, bind_eq_ok, Prod.exists] at alone first second
  obtain ⟨start, opening, prologue, stop, grown, root, _, last, asides, ended⟩ := alone
  have outside := prolog_outside prologue
  have open' : grown.frames ≠ [] := by
    split at ended <;> cases ended
    exact mt (misc_frames asides).mpr inside
  obtain ⟨begins, closing, rest, opened, started, content⟩ := takeRoot_inside root outside open'
  have left : start.rest ≠ [] := List.ne_nil_of_mem closing
  -- the prolog and the start of the root element are the same in all three
  have sameTag (more : List Char) {after : Cursor} {grown' : Assembly}
      (root' : takeRoot (start.moved 0 more) opening = .ok (after, grown')) :
      takeContent maxDepth (nestedRead maxDepth) ((rest.rest ++ more).length + 1) 1
        (rest.moved 0 more) opened = .ok (after, grown') := by
    rw [takeRoot, if_pos (startsWith_moved 0 more begins)] at root'
    unfold takeElement at root'
    cases started' : startTag maxDepth (start.moved 0 more) opening with
    | error fault =>
        rw [started'] at root'
        cases root'
    | ok tag =>
        obtain ⟨ends, place, state⟩ := tag
        obtain ⟨rfl, rfl, rfl, _⟩ := startTag_parallel parallel_eq rfl left started' started
          fun broken => by cases broken
        rw [started'] at root'
        exact root'
  obtain ⟨_, _, prologue₁, place, content₁, root₁, _, last₁, asides₁, ended₁⟩ := first
  obtain ⟨_, _, prologue₂, place', content₂, root₂, _, last₂, asides₂, ended₂⟩ := second
  cases (prolog_moved prologue closing _).symm.trans prologue₁
  cases (prolog_moved prologue closing _).symm.trans prologue₂
  have across := takeContent_across (nestedRead_keeps (abreast_parallel 0) maxDepth) isComment
    content (Nat.lt_succ_self _) open' (sameTag _ root₁) (Nat.lt_succ_self _) (sameTag _ root₂)
    (Nat.lt_succ_self _)
  split at ended₁ <;> cases ended₁
  split at ended₂ <;> cases ended₂
  rcases across with ⟨rfl, together⟩ | stillOpen
  · exact misc_parallel (abreast_parallel _) together asides₁ asides₂
  · exact absurd ((misc_frames asides₁).mp closed) stillOpen

/-- A text breaks off inside its root element: it is read as far as it goes, and elements are
open. -/
def WithinRoot (text : List Char) : Prop :=
  ∃ reached, assemble text = .ok reached ∧ reached.frames ≠ []

/-- A text with a comment inside its root element, and the text without it. -/
def RemovesComment (text text' : List Char) : Prop :=
  ∃ before comment follow, text = before ++ comment ++ follow ∧ text' = before ++ follow ∧
    IsComment comment ∧ WithinRoot before

theorem ofText_eq_ok {text : List Char} {document : Document} :
    Document.ofText text = .ok document ↔
      ∃ built root, assemble text = .ok built ∧ built.frames = [] ∧ built.root? = some root ∧
        document = ⟨text, root⟩ := by
  unfold Document.ofText
  cases assemble text with
  | error fault => simp
  | ok built =>
      cases frames : built.frames with
      | cons frame outer => simp [frames]
      | nil =>
          cases isRoot : built.root? with
          | none => simp [frames, isRoot]
          | some root => simp [frames, isRoot, eq_comm]

/-- Where no element is open any more, the one that holds the comment is complete. -/
theorem Abreast.complete (abreast : Abreast built built') (closed : built.frames = []) :
    ∃ holder holder', HoldsComment holder holder' ∧
      List.Forall₂ (NodePairs (Element.Matches holder holder')) built.top built'.top := by
  obtain ⟨isInnermost, level⟩ := abreast
  have tree := level.tree
  rw [closed] at tree
  cases tree with
  | opened stack _ => cases stack
  | complete held _ top => exact ⟨_, _, held, top⟩

/-- The trees of a document with a comment and without it match but for the element that holds the
comment: there the texts from the comment on may differ. -/
theorem RemovesComment.matched {text text' : List Char} (removed : RemovesComment text text')
    {document document' : Document} (read : Document.ofText text = .ok document)
    (read' : Document.ofText text' = .ok document') :
    ∃ holder holder', HoldsComment holder holder' ∧
      Element.Matches holder holder' document.root document'.root := by
  obtain ⟨before, comment, follow, rfl, rfl, isComment, reached, alone, inside⟩ := removed
  obtain ⟨built, root, first, closed, isRoot, rfl⟩ := ofText_eq_ok.mp read
  obtain ⟨built', root', second, _, isRoot', rfl⟩ := ofText_eq_ok.mp read'
  rw [List.append_assoc] at first
  have abreast := assemble_across isComment alone inside first closed second
  obtain ⟨holder, holder', held, top⟩ := abreast.complete closed
  have elements := NodePairs.elements (List.rel_reverse top)
  unfold Assembly.root? at isRoot isRoot'
  obtain ⟨rest, all⟩ := List.head?_eq_some_iff.mp isRoot
  obtain ⟨rest', all'⟩ := List.head?_eq_some_iff.mp isRoot'
  rw [all, all'] at elements
  cases elements with
  | cons matched _ => exact ⟨holder, holder', held, matched⟩

end ContainerReplay.Markup
