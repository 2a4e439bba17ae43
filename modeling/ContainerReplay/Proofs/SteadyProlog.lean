import ContainerReplay.Proofs.SteadyDeclarations

/-!
# What stands before the root element

Comments, instructions and declarations are taken one by one.  Each of them is read alike whatever
the text goes on with, and so is all that stands before the root element.
-/

set_option autoImplicit false

namespace ContainerReplay.Markup

open Cursor

variable {cursor after : Cursor} {assembly built : Assembly}

/-! ## Repeated steps -/

/-- Takes steps as long as they say that more may follow. -/
def repeated (step : Cursor → Assembly → Except Fault (Bool × Cursor × Assembly)) :
    Nat → Cursor → Assembly → Except Fault (Cursor × Assembly)
  | 0, cursor, assembly => .ok (cursor, assembly)
  | steps + 1, cursor, assembly => do
      let (goesOn, rest, assembly) ← step cursor assembly
      if goesOn then repeated step steps rest assembly else .ok (rest, assembly)

/-- A step that takes at least one character if more may follow, and does the same before whatever
follows. -/
structure SteadyStep (step : Cursor → Assembly → Except Fault (Bool × Cursor × Assembly)) :
    Prop where
  shorter : ∀ {cursor after : Cursor} {assembly built : Assembly},
    step cursor assembly = .ok (true, after, built) → after.rest.length < cursor.rest.length
  steady : ∀ {goesOn : Bool} {cursor after : Cursor} {assembly built : Assembly},
    step cursor assembly = .ok (goesOn, after, built) → Steady cursor after fun more =>
      step (cursor.moved 0 more) assembly = .ok (goesOn, after.moved 0 more, built)

theorem SteadyStep.repeated {step : Cursor → Assembly → Except Fault (Bool × Cursor × Assembly)}
    (steadyStep : SteadyStep step) {steps : Nat} (enough : cursor.rest.length < steps)
    (taken : repeated step steps cursor assembly = .ok (after, built)) :
    Steady cursor after fun more => ∀ steps', (cursor.rest ++ more).length < steps' →
      Markup.repeated step steps' (cursor.moved 0 more) assembly =
        .ok (after.moved 0 more, built) := by
  induction steps generalizing cursor assembly with
  | zero => omega
  | succ steps ih =>
      simp only [Markup.repeated, bind_eq_ok, Prod.exists] at taken
      obtain ⟨goesOn, stop, grown, first, rest⟩ := taken
      have one := steadyStep.steady first
      cases goesOn with
      | false =>
          cases rest
          refine one.imp fun more same steps' enough' => ?_
          obtain ⟨fewer, rfl⟩ : ∃ fewer, steps' = fewer + 1 := ⟨steps' - 1, by omega⟩
          simp only [Markup.repeated, bind_eq_ok, Prod.exists]
          exact ⟨_, _, _, same, rfl⟩
      | true =>
          have shorter := steadyStep.shorter first
          refine (one.trans (ih (by omega) rest)).imp fun more same steps' enough' => ?_
          obtain ⟨fewer, rfl⟩ : ∃ fewer, steps' = fewer + 1 := ⟨steps' - 1, by omega⟩
          simp only [Markup.repeated, bind_eq_ok, Prod.exists]
          refine ⟨_, _, _, same.1, same.2 fewer ?_⟩
          simp only [List.length_append] at enough' ⊢
          omega

/-- White space and a comment or an instruction. -/
def miscStep (cursor : Cursor) (assembly : Assembly) :
    Except Fault (Bool × Cursor × Assembly) :=
  if cursor.atEnd then .ok (false, cursor, assembly)
  else if cursor.skipSpaces.startsWith "<!--" then do
    let rest ← skipComment cursor.skipSpaces
    .ok (true, rest, assembly.appendAside)
  else if cursor.skipSpaces.startsWith "<?" then do
    let rest ← skipInstruction cursor.skipSpaces
    .ok (true, rest, assembly.appendAside)
  else .ok (false, cursor.skipSpaces, assembly)

theorem skipMisc_eq : skipMisc = repeated miscStep := by
  funext steps
  induction steps with
  | zero => rfl
  | succ steps ih =>
      funext cursor assembly
      rw [skipMisc, repeated, miscStep, ih]
      split
      · rfl
      · simp only
        split
        · cases skipComment cursor.skipSpaces <;> rfl
        · split
          · cases skipInstruction cursor.skipSpaces <;> rfl
          · rfl

theorem skipComment_steady (taken : skipComment cursor = .ok after) :
    Steady cursor after fun more => skipComment (cursor.moved 0 more) = .ok (after.moved 0 more) :=
  ⟨(skipComment_suffix taken).1, fun _ more => skipComment_moved 0 more taken⟩

theorem skipInstruction_steady (taken : skipInstruction cursor = .ok after) :
    Steady cursor after fun more =>
      skipInstruction (cursor.moved 0 more) = .ok (after.moved 0 more) :=
  ⟨(skipInstruction_suffix taken).1, fun _ more => skipInstruction_moved 0 more taken⟩

theorem miscStep_shorter (taken : miscStep cursor assembly = .ok (true, after, built)) :
    after.rest.length < cursor.rest.length := by
  have within := (skipSpaces_suffix cursor).length_le
  unfold miscStep at taken
  repeat' split at taken
  · cases taken
  · simp only [bind_eq_ok, Except.ok.injEq, Prod.mk.injEq] at taken
    obtain ⟨_, skipped, _, rfl, _⟩ := taken
    exact Nat.lt_of_lt_of_le (skipComment_suffix skipped).2 within
  · simp only [bind_eq_ok, Except.ok.injEq, Prod.mk.injEq] at taken
    obtain ⟨_, skipped, _, rfl, _⟩ := taken
    exact Nat.lt_of_lt_of_le (skipInstruction_suffix skipped).2 within
  · cases taken

theorem miscStep_steady : SteadyStep miscStep where
  shorter := miscStep_shorter
  steady {goesOn cursor after assembly built} taken := by
    have ahead := (ahead_steady cursor).trans (skipSpaces_steady cursor)
    have comment := startsWith_steady cursor.skipSpaces "<!--" (by decide)
    have instruction := startsWith_steady cursor.skipSpaces "<?" (by decide)
    unfold miscStep at taken
    split at taken
    · rename_i done
      cases taken
      exact atEnd_steady done
    · rename_i inside
      split at taken
      · rename_i there
        simp only [bind_eq_ok, Except.ok.injEq, Prod.mk.injEq] at taken
        obtain ⟨_, skipped, rfl, rfl, rfl⟩ := taken
        refine (ahead.trans (comment.trans (skipComment_steady skipped))).imp fun more same => ?_
        obtain ⟨⟨⟨notEnd, _⟩, spaces⟩, begins, skipped⟩ := same
        rw [miscStep, notEnd, if_neg inside, spaces, begins, if_pos there, skipped]
        rfl
      · rename_i noComment
        split at taken
        · rename_i there
          simp only [bind_eq_ok, Except.ok.injEq, Prod.mk.injEq] at taken
          obtain ⟨_, skipped, rfl, rfl, rfl⟩ := taken
          refine (ahead.trans ((comment.trans instruction).trans
            (skipInstruction_steady skipped))).imp fun more same => ?_
          obtain ⟨⟨⟨notEnd, _⟩, spaces⟩, ⟨begins, begins'⟩, skipped⟩ := same
          rw [miscStep, notEnd, if_neg inside, spaces, begins, if_neg noComment, begins',
            if_pos there, skipped]
          rfl
        · rename_i noInstruction
          cases taken
          refine (ahead.trans (comment.trans instruction)).imp fun more same => ?_
          obtain ⟨⟨⟨notEnd, _⟩, spaces⟩, begins, begins'⟩ := same
          rw [miscStep, notEnd, if_neg inside, spaces, begins, if_neg noComment, begins',
            if_neg noInstruction]

/-- The end of a document type behind its closing bracket. -/
def closeType (cursor : Cursor) : Except Fault Cursor :=
  match cursor.rest with
  | [] => .error .endOfText
  | c :: _ =>
      if c = '>' then .ok (cursor.advance 1)
      else .error (.expectedAny "'>'" (leadByte c) cursor.offset)

/-- A declaration that is skipped, or the closing bracket of the document type. -/
def declarationEnd (start : Nat) (ahead : Cursor) (assembly : Assembly) :
    Except Fault (Bool × Cursor × Assembly) :=
  if ahead.startsWith "]" then do
    let rest ← closeType (ahead.advance 1).skipSpaces
    .ok (false, rest, assembly)
  else if atSkippedDeclaration ahead then
    match (ahead.takeWhile (· != '>')).2.expect '>' with
    | .error _ => .error (.unknownToken start)
    | .ok rest => .ok (true, rest, assembly)
  else .error (.unknownToken ahead.offset)

/-- White space and a declaration, a comment or an instruction, or the closing bracket. -/
def declarationStep (start : Nat) (cursor : Cursor) (assembly : Assembly) :
    Except Fault (Bool × Cursor × Assembly) :=
  if cursor.atEnd then .ok (false, cursor, assembly)
  else if cursor.skipSpaces.startsWith "<!ENTITY" then do
    let (rest, assembly) ← entityDeclaration cursor.skipSpaces assembly
    .ok (true, rest, assembly)
  else do
    let (isAside, rest, assembly) ← miscStep cursor assembly
    if isAside then .ok (true, rest, assembly) else declarationEnd start rest assembly

theorem declarations_eq (start : Nat) : declarations start = repeated (declarationStep start) := by
  funext steps
  induction steps with
  | zero => rfl
  | succ steps ih =>
      funext cursor assembly
      rw [declarations, repeated, declarationStep, miscStep, ih]
      split
      · rfl
      · simp only
        split
        · cases entityDeclaration cursor.skipSpaces assembly <;> rfl
        · split
          · cases skipComment cursor.skipSpaces <;> rfl
          · split
            · cases skipInstruction cursor.skipSpaces <;> rfl
            · show _ = declarationEnd start cursor.skipSpaces assembly >>= _
              rw [declarationEnd]
              split
              · rw [closeType]
                cases (cursor.skipSpaces.advance 1).skipSpaces.rest with
                | nil => rfl
                | cons c tail =>
                    by_cases closing : c = '>'
                    · subst closing
                      rfl
                    · simp only [if_neg closing]
                      rfl
              · split
                · cases (cursor.skipSpaces.takeWhile (· != '>')).2.expect '>' <;> rfl
                · rfl

theorem closeType_steady (taken : closeType cursor = .ok after) :
    Steady cursor after fun more => closeType (cursor.moved 0 more) = .ok (after.moved 0 more) := by
  unfold closeType at taken
  cases ahead : cursor.rest with
  | nil => rw [ahead] at taken; cases taken
  | cons c rest =>
      rw [ahead] at taken
      simp only at taken
      split at taken
      · rename_i closing
        cases taken
        refine (advance_steady cursor 1).imp fun more advanced => ?_
        have first : (cursor.moved 0 more).rest = c :: (rest ++ more) := by simp [ahead]
        rw [closeType, first]
        simp only [if_pos closing, advanced]
      · cases taken

theorem declarationEnd_steady {start : Nat} {goesOn : Bool}
    (taken : declarationEnd start cursor assembly = .ok (goesOn, after, built)) :
    Steady cursor after fun more =>
      declarationEnd start (cursor.moved 0 more) assembly =
        .ok (goesOn, after.moved 0 more, built) := by
  have bracket := startsWith_steady cursor "]" (by decide)
  unfold declarationEnd at taken
  split at taken
  · rename_i there
    simp only [bind_eq_ok, Except.ok.injEq, Prod.mk.injEq] at taken
    obtain ⟨_, closed, rfl, rfl, rfl⟩ := taken
    refine (bracket.trans ((advance_steady cursor 1).trans
      ((skipSpaces_steady (cursor.advance 1)).trans (closeType_steady closed)))).imp
        fun more same => ?_
    obtain ⟨begins, advanced, spaces, closed⟩ := same
    rw [declarationEnd, begins, if_pos there, advanced, spaces, closed]
    rfl
  · rename_i noBracket
    split at taken
    · rename_i there
      have run := takeWhile_steady cursor (· != '>')
      cases closed : (cursor.takeWhile (· != '>')).2.expect '>' with
      | error fault => rw [closed] at taken; cases taken
      | ok stop =>
          rw [closed] at taken
          cases taken
          have skips := ((startsWith_steady cursor "<!ELEMENT" (by decide)).trans
            ((startsWith_steady cursor "<!ATTLIST" (by decide)).trans
              (startsWith_steady cursor "<!NOTATION" (by decide))))
          refine ((bracket.trans skips).trans (run.trans (expect_steady closed))).imp
            fun more same => ?_
          obtain ⟨⟨begins, first, second, third⟩, run, closed⟩ := same
          rw [declarationEnd, begins, if_neg noBracket, atSkippedDeclaration, first, second, third,
            ← atSkippedDeclaration, if_pos there, run]
          simp only [closed]
    · cases taken

theorem declarationEnd_shorter {start : Nat}
    (taken : declarationEnd start cursor assembly = .ok (true, after, built)) :
    after.rest.length < cursor.rest.length := by
  unfold declarationEnd at taken
  split at taken
  · simp only [bind_eq_ok, Except.ok.injEq, Prod.mk.injEq] at taken
    obtain ⟨_, _, goesOn, _⟩ := taken
    cases goesOn
  · split at taken
    · cases closed : (cursor.takeWhile (· != '>')).2.expect '>' with
      | error fault => rw [closed] at taken; cases taken
      | ok stop =>
          rw [closed] at taken
          cases taken
          obtain ⟨rest, ahead, rfl⟩ := expect_eq_ok.mp closed
          have within := (takeWhile_suffix cursor (· != '>')).length_le
          rw [ahead] at within
          exact within
    · cases taken

theorem entityDeclaration_shorter
    (taken : entityDeclaration cursor assembly = .ok (after, built)) :
    after.rest.length < cursor.rest.length := by
  simp only [entityDeclaration_eq, bind_eq_ok, Prod.exists, Except.ok.injEq, Prod.mk.injEq] at taken
  obtain ⟨spaced, spaces, start, percent, name, named, isName, spaced', spaces', value?, stop,
    value, _, closed, rfl, rfl⟩ := taken
  obtain ⟨rest, ahead, rfl⟩ := expect_eq_ok.mp closed
  have header := (skipIf_steady (by decide) percent skipPercent_steady ok_steady).1.trans
    ((expectSpaces_steady spaces).1.trans (advance_suffix cursor 8))
  have value := (entityValue_steady value).1.trans ((expectSpaces_steady spaces').1.trans
    ((name_suffix isName).trans header))
  have within := ((skipSpaces_suffix stop).trans value).length_le
  rw [ahead] at within
  exact within

theorem declarationStep_shorter {start : Nat}
    (taken : declarationStep start cursor assembly = .ok (true, after, built)) :
    after.rest.length < cursor.rest.length := by
  have within := (skipSpaces_suffix cursor).length_le
  unfold declarationStep at taken
  split at taken
  · cases taken
  · split at taken
    · simp only [bind_eq_ok, Prod.exists, Except.ok.injEq, Prod.mk.injEq] at taken
      obtain ⟨_, _, declared, _, rfl, rfl⟩ := taken
      exact Nat.lt_of_lt_of_le (entityDeclaration_shorter declared) within
    · simp only [bind_eq_ok, Prod.exists] at taken
      obtain ⟨isAside, stop, grown, aside, taken⟩ := taken
      cases isAside with
      | true =>
          cases taken
          exact miscStep_shorter aside
      | false =>
          exact Nat.lt_of_lt_of_le (declarationEnd_shorter taken)
            (miscStep_steady.steady aside).1.length_le

theorem declarationStep_steady (start : Nat) : SteadyStep (declarationStep start) where
  shorter := declarationStep_shorter
  steady {goesOn cursor after assembly built} taken := by
    have ahead := ahead_steady cursor
    have spaces := skipSpaces_steady cursor
    have entity := startsWith_steady cursor.skipSpaces "<!ENTITY" (by decide)
    unfold declarationStep at taken
    split at taken
    · rename_i done
      cases taken
      exact atEnd_steady done
    · rename_i inside
      split at taken
      · rename_i there
        simp only [bind_eq_ok, Prod.exists, Except.ok.injEq, Prod.mk.injEq] at taken
        obtain ⟨_, _, declared, rfl, rfl, rfl⟩ := taken
        refine (ahead.trans (spaces.trans (entity.trans (entityDeclaration_steady declared)))).imp
          fun more same => ?_
        obtain ⟨⟨notEnd, _⟩, spaces, begins, declared⟩ := same
        rw [declarationStep, notEnd, if_neg inside, spaces, begins, if_pos there, declared]
        rfl
      · rename_i noEntity
        simp only [bind_eq_ok, Prod.exists] at taken
        obtain ⟨isAside, stop, grown, aside, taken⟩ := taken
        have asides := (ahead.trans (spaced_steady cursor "<!ENTITY" (by decide))).trans
          (miscStep_steady.steady aside)
        cases isAside with
        | true =>
            cases taken
            refine asides.imp fun more same => ?_
            obtain ⟨⟨⟨notEnd, _⟩, begins⟩, aside⟩ := same
            rw [declarationStep, notEnd, if_neg inside, begins, if_neg noEntity, aside]
            rfl
        | false =>
            refine (asides.trans (declarationEnd_steady taken)).imp fun more same => ?_
            obtain ⟨⟨⟨⟨notEnd, _⟩, begins⟩, aside⟩, ended⟩ := same
            rw [declarationStep, notEnd, if_neg inside, begins, if_neg noEntity, aside]
            exact ended

/-! ## The prolog -/

theorem misc_steady (taken : misc cursor assembly = .ok (after, built)) :
    Steady cursor after fun more =>
      misc (cursor.moved 0 more) assembly = .ok (after.moved 0 more, built) := by
  rw [misc, skipMisc_eq] at taken
  refine (miscStep_steady.repeated (Nat.lt_succ_self _) taken).imp fun more same => ?_
  rw [misc, skipMisc_eq]
  exact same _ (Nat.lt_succ_self _)

theorem documentType_steady (taken : documentType cursor assembly = .ok (after, built)) :
    Steady cursor after fun more =>
      documentType (cursor.moved 0 more) assembly = .ok (after.moved 0 more, built) := by
  unfold documentType at taken
  simp only [bind_eq_ok, Prod.exists] at taken
  obtain ⟨spaced, spaces, name, named, isName, found, identified, identifier, c, ahead, ends⟩ :=
    taken
  have before := (advance_steady cursor 9).trans ((expectSpaces_steady spaces).trans
    ((optionalName_steady isName).trans ((skipSpaces_steady named).trans
      ((skipExternalId_steady identifier).trans ((skipSpaces_steady identified).trans
        ((next_steady ahead).trans (advance_steady identified.skipSpaces 1)))))))
  split at ends
  · rename_i closing
    cases ends
    refine before.imp fun more same => ?_
    obtain ⟨advanced, spaces, isName, skipped, identifier, skipped', ahead, advanced'⟩ := same
    unfold documentType
    simp only [bind_eq_ok, Prod.exists]
    rw [advanced]
    refine ⟨_, spaces, _, _, isName, _, _, by rw [skipped]; exact identifier, _,
      by rw [skipped']; exact ahead, ?_⟩
    rw [if_pos closing, skipped', advanced']
  · rename_i notClosing
    split at ends
    · rename_i bracket
      rw [declarations_eq] at ends
      have room := Nat.lt_succ_of_le (advance_suffix identified.skipSpaces 1).length_le
      have inside := (declarationStep_steady cursor.offset).repeated room ends
      refine (before.trans inside).imp fun more same => ?_
      obtain ⟨⟨advanced, spaces, isName, skipped, identifier, skipped', ahead, advanced'⟩,
        inside⟩ := same
      unfold documentType
      simp only [bind_eq_ok, Prod.exists]
      rw [advanced]
      refine ⟨_, spaces, _, _, isName, _, _, by rw [skipped]; exact identifier, _,
        by rw [skipped']; exact ahead, ?_⟩
      rw [if_neg notClosing, if_pos bracket, skipped', advanced', declarations_eq]
      refine inside _ ?_
      rw [moved_rest, List.length_append, List.length_append]
      omega
    · cases ends

/-- The document type, if one begins here. -/
def takeType (cursor : Cursor) (assembly : Assembly) : Except Fault (Cursor × Assembly) :=
  if cursor.startsWith "<!DOCTYPE" then do
    let (rest, assembly) ← documentType cursor assembly
    misc rest assembly
  else .ok (cursor, assembly)

theorem takeType_steady (taken : takeType cursor assembly = .ok (after, built)) :
    Steady cursor after fun more =>
      takeType (cursor.moved 0 more) assembly = .ok (after.moved 0 more, built) := by
  have begins := startsWith_steady cursor "<!DOCTYPE" (by decide)
  unfold takeType at taken
  split at taken
  · rename_i there
    obtain ⟨⟨stop, grown⟩, typed, rest⟩ := bind_eq_ok.mp taken
    refine (begins.trans ((documentType_steady typed).trans (misc_steady rest))).imp
      fun more same => ?_
    obtain ⟨begins, typed, rest⟩ := same
    rw [takeType, begins, if_pos there]
    exact bind_eq_ok.mpr ⟨_, typed, rest⟩
  · rename_i absent
    cases taken
    refine begins.imp fun more same => ?_
    rw [takeType, same, if_neg absent]

/-- What stands before the root element. -/
def prolog (text : List Char) : Except Fault (Cursor × Assembly) := do
  let rest ← skipIf "<?xml " skipDeclaration .ok (skipMark (Cursor.ofText text))
  let (rest, assembly) ← misc rest {}
  let (rest, assembly) ← takeType rest.skipSpaces assembly
  .ok (rest.skipSpaces, assembly)

/-- The root element, if one begins here. -/
def takeRoot (cursor : Cursor) (assembly : Assembly) : Except Fault (Cursor × Assembly) :=
  if cursor.startsWith "<" then takeElement cursor assembly else .ok (cursor, assembly)

theorem takeType_bind {α : Type} (rest : Cursor) (assembly : Assembly)
    (next : Cursor × Assembly → Except Fault α) :
    takeType rest assembly >>= next =
      if rest.startsWith "<!DOCTYPE" then
        match documentType rest assembly with
        | .error fault => .error fault >>= next
        | .ok (rest, assembly) => misc rest assembly >>= next
      else .ok (rest, assembly) >>= next := by
  rw [takeType]
  split
  · cases documentType rest assembly <;> rfl
  · rfl

/-- A document is its prolog, its root element and what stands behind it. -/
theorem assemble_eq (text : List Char) :
    assemble text = (do
      let (rest, assembly) ← prolog text
      let (rest, assembly) ← takeRoot rest assembly
      let (rest, assembly) ← misc rest assembly
      if rest.atEnd then .ok assembly else .error (.unknownToken rest.offset)) := by
  simp only [prolog, bind_assoc]
  simp only [skipIf, takeRoot, branch_bind, takeType_bind]
  rfl

theorem skipMark_steady (cursor : Cursor) :
    Steady cursor (skipMark cursor) fun more =>
      skipMark (cursor.moved 0 more) = (skipMark cursor).moved 0 more := by
  unfold skipMark
  split
  · rename_i mark
    refine ⟨advance_suffix cursor 1, fun closing more => ?_⟩
    obtain ⟨rest, ahead⟩ : ∃ rest, cursor.rest = '\uFEFF' :: rest := List.head?_eq_some_iff.mp mark
    rw [if_pos (by simp [ahead])]
    exact (advance_steady cursor 1).2 closing more
  · rename_i noMark
    refine (ahead_steady cursor).imp fun more same => ?_
    rw [same.2.2, if_neg noMark]

theorem prolog_moved {text : List Char} (taken : prolog text = .ok (after, built))
    (closing : '>' ∈ after.rest) (more : List Char) :
    prolog (text ++ more) = .ok (after.moved 0 more, built) := by
  simp only [prolog, bind_eq_ok, Prod.exists, Except.ok.injEq, Prod.mk.injEq] at taken ⊢
  obtain ⟨start, declared, rest, assembly, asides, stop, _, typed, rfl, rfl⟩ := taken
  have steady := (skipMark_steady (Cursor.ofText text)).trans
    ((skipIf_steady (by decide) declared skipDeclaration_steady ok_steady).trans
      ((misc_steady asides).trans ((skipSpaces_steady rest).trans ((takeType_steady typed).trans
        (skipSpaces_steady stop)))))
  obtain ⟨mark, declared, asides, spaces, typed, spaces'⟩ := steady.2 closing more
  have whole : Cursor.ofText (text ++ more) = (Cursor.ofText text).moved 0 more := rfl
  rw [whole, mark]
  exact ⟨_, declared, _, _, asides, _, _, by rw [spaces]; exact typed, spaces', rfl⟩

end ContainerReplay.Markup
