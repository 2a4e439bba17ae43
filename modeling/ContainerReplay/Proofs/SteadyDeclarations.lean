import ContainerReplay.Markup.Document
import ContainerReplay.Proofs.MovedTokens
import Mathlib.Data.List.TakeWhile

/-!
# Declarations before whatever follows

The declaration of a document and those of its entities are read alike whatever the text goes on
with, if the end of a tag is still ahead when they have been read: no reader before the root element
waits for more than that.
-/

set_option autoImplicit false

namespace ContainerReplay.Markup

open Cursor

/-- From one place to the next, reading goes on as long as a closing bracket is still ahead, and
does the same again before whatever follows. -/
def Steady (cursor after : Cursor) (again : List Char → Prop) : Prop :=
  after.rest <:+ cursor.rest ∧ ('>' ∈ after.rest → ∀ more, again more)

variable {cursor middle after : Cursor} {again again' : List Char → Prop}

theorem Steady.trans (first : Steady cursor middle again) (second : Steady middle after again') :
    Steady cursor after fun more => again more ∧ again' more :=
  ⟨second.1.trans first.1, fun closing more =>
    ⟨first.2 (second.1.subset closing) more, second.2 closing more⟩⟩

theorem Steady.imp (steady : Steady cursor after again) (step : ∀ more, again more → again' more) :
    Steady cursor after again' :=
  ⟨steady.1, fun closing more => step more (steady.2 closing more)⟩

/-- With something ahead, the characters before it are ahead too. -/
theorem advance_steady (cursor : Cursor) (count : Nat) :
    Steady cursor (cursor.advance count) fun more =>
      (cursor.moved 0 more).advance count = (cursor.advance count).moved 0 more := by
  refine ⟨advance_suffix cursor count, fun closing more => advance_moved 0 more ?_⟩
  by_contra few
  have nothing : (cursor.advance count).rest = [] := List.drop_of_length_le (by omega)
  rw [nothing] at closing
  cases closing

theorem takeWhile_steady (cursor : Cursor) (test : Char → Bool) :
    Steady cursor (cursor.takeWhile test).2 fun more => (cursor.moved 0 more).takeWhile test =
      ((cursor.takeWhile test).1, (cursor.takeWhile test).2.moved 0 more) :=
  ⟨takeWhile_suffix cursor test, fun closing more =>
    takeWhile_moved 0 more (ends_of_ne more (List.ne_nil_of_mem closing))⟩

theorem skipSpaces_steady (cursor : Cursor) :
    Steady cursor cursor.skipSpaces fun more =>
      (cursor.moved 0 more).skipSpaces = cursor.skipSpaces.moved 0 more :=
  ⟨skipSpaces_suffix cursor, fun closing more =>
    skipSpaces_moved 0 more (ends_of_ne more (List.ne_nil_of_mem closing))⟩

theorem startsWith_steady (cursor : Cursor) (text : String) (foreign : '>' ∉ text.toList) :
    Steady cursor cursor fun more =>
      (cursor.moved 0 more).startsWith text = cursor.startsWith text := by
  refine ⟨List.suffix_refl _, fun closing more => ?_⟩
  cases there : cursor.startsWith text with
  | true => exact startsWith_moved 0 more there
  | false => exact startsWith_moved_false 0 more there closing foreign

/-- Something is ahead, and the same something before whatever follows. -/
theorem ahead_steady (cursor : Cursor) :
    Steady cursor cursor fun more =>
      (cursor.moved 0 more).atEnd = cursor.atEnd ∧ (cursor.moved 0 more).atSpace = cursor.atSpace ∧
        (cursor.moved 0 more).rest.head? = cursor.rest.head? := by
  refine ⟨List.suffix_refl _, fun closing more => ?_⟩
  obtain ⟨c, rest, ahead⟩ := List.exists_cons_of_ne_nil (List.ne_nil_of_mem closing)
  simp [atEnd, atSpace, ahead]

/-- A closing bracket that is ahead is ahead behind white space too. -/
theorem spaced_steady (cursor : Cursor) (text : String) (foreign : '>' ∉ text.toList) :
    Steady cursor cursor fun more => (cursor.moved 0 more).skipSpaces.startsWith text =
      cursor.skipSpaces.startsWith text := by
  refine ⟨List.suffix_refl _, fun closing more => ?_⟩
  have behind : '>' ∈ cursor.skipSpaces.rest := by
    have split := List.takeWhile_append_dropWhile (p := isSpace) (l := cursor.rest)
    rw [← split, List.mem_append] at closing
    rcases closing with space | behind
    · exact absurd (List.mem_takeWhile_imp space) (by decide)
    · rw [skipSpaces, takeWhile_rest]
      exact behind
  have spaces : (cursor.moved 0 more).skipSpaces = cursor.skipSpaces.moved 0 more :=
    (skipSpaces_steady cursor).2 behind more
  show (cursor.moved 0 more).skipSpaces.startsWith text = _
  rw [spaces]
  exact (startsWith_steady cursor.skipSpaces text foreign).2 behind more

/-- At the end of a text nothing is ahead. -/
theorem atEnd_steady (done : cursor.atEnd = true) : Steady cursor cursor again := by
  refine ⟨List.suffix_refl _, fun closing => ?_⟩
  rw [List.isEmpty_iff.mp done] at closing
  cases closing

theorem expect_steady {wanted : Char} (taken : cursor.expect wanted = .ok after) :
    Steady cursor after fun more =>
      (cursor.moved 0 more).expect wanted = .ok (after.moved 0 more) :=
  ⟨expect_suffix taken, fun _ more => expect_moved 0 more taken⟩

theorem expectText_steady {wanted : String} (taken : cursor.expectText wanted = .ok after) :
    Steady cursor after fun more =>
      (cursor.moved 0 more).expectText wanted = .ok (after.moved 0 more) := by
  refine ⟨?_, fun _ more => expectText_moved 0 more taken⟩
  obtain ⟨_, rfl⟩ := expectText_eq_ok.mp taken
  exact advance_suffix cursor _

theorem expectQuote_steady {quote : Char} (taken : cursor.expectQuote = .ok (quote, after)) :
    Steady cursor after fun more =>
      (cursor.moved 0 more).expectQuote = .ok (quote, after.moved 0 more) :=
  ⟨expectQuote_suffix taken, fun _ more => expectQuote_moved 0 more taken⟩

theorem next_steady {c : Char} (taken : cursor.next = .ok c) :
    Steady cursor cursor fun more => (cursor.moved 0 more).next = .ok c := by
  refine ⟨List.suffix_refl _, fun _ more => ?_⟩
  unfold next at taken ⊢
  cases ahead : cursor.rest with
  | nil => rw [ahead] at taken; cases taken
  | cons d rest =>
      rw [ahead] at taken
      rw [moved_rest, ahead]
      exact taken

theorem name_steady {name : String} (taken : cursor.name = .ok (name, after)) :
    Steady cursor after fun more => (cursor.moved 0 more).name = .ok (name, after.moved 0 more) :=
  ⟨name_suffix taken, fun closing more =>
    name_moved 0 more taken (ends_of_ne more (List.ne_nil_of_mem closing))⟩

theorem optionalName_steady {name : List Char} (taken : cursor.optionalName = .ok (name, after)) :
    Steady cursor after fun more =>
      (cursor.moved 0 more).optionalName = .ok (name, after.moved 0 more) := by
  unfold optionalName at taken
  cases ahead : cursor.rest with
  | nil =>
      rw [ahead] at taken
      cases taken
      exact atEnd_steady (by rw [atEnd, ahead]; rfl)
  | cons c rest =>
      rw [ahead] at taken
      simp only at taken
      split at taken
      · rename_i starts
        have run := takeWhile_steady cursor isNamePart
        cases taken
        refine run.imp fun more same => ?_
        have first : (cursor.moved 0 more).rest = c :: (rest ++ more) := by simp [ahead]
        rw [optionalName, first]
        simp only [starts, if_true, same]
        rfl
      · cases taken

theorem expectSpaces_steady (taken : cursor.expectSpaces = .ok after) :
    Steady cursor after fun more =>
      (cursor.moved 0 more).expectSpaces = .ok (after.moved 0 more) := by
  unfold expectSpaces at taken
  split at taken
  · rename_i spaced
    cases taken
    refine ((ahead_steady cursor).trans (skipSpaces_steady cursor)).imp fun more same => ?_
    obtain ⟨⟨_, spaces, _⟩, skipped⟩ := same
    rw [expectSpaces, spaces, spaced, skipped]
    rfl
  · cases taken

/-! ## The declaration -/

theorem declarationSpace_steady (taken : declarationSpace cursor = .ok after) :
    Steady cursor after fun more =>
      declarationSpace (cursor.moved 0 more) = .ok (after.moved 0 more) := by
  unfold declarationSpace at taken
  split at taken
  · rename_i spaced
    cases taken
    refine ((ahead_steady cursor).trans (skipSpaces_steady cursor)).imp fun more same => ?_
    obtain ⟨⟨_, spaces, _⟩, skipped⟩ := same
    rw [declarationSpace, spaces, spaced, skipped]
    rfl
  · rename_i solid
    split at taken
    · rename_i ends
      cases taken
      refine ⟨List.suffix_refl _, fun closing more => ?_⟩
      obtain ⟨notEnd, spaces, _⟩ := (ahead_steady cursor).2 closing more
      have left : cursor.atEnd = false := by
        simpa [atEnd] using List.ne_nil_of_mem closing
      rw [left, Bool.or_false] at ends
      rw [declarationSpace, spaces, if_neg solid, startsWith_moved 0 more ends]
      rfl
    · cases taken

theorem skipDeclared_steady (taken : skipDeclared cursor = .ok after) :
    Steady cursor after fun more =>
      skipDeclared (cursor.moved 0 more) = .ok (after.moved 0 more) := by
  unfold skipDeclared at taken
  cases found : takeAttribute cursor with
  | error fault => rw [found] at taken; cases taken
  | ok declared =>
      obtain ⟨name, spelled, stop⟩ := declared
      rw [found] at taken
      cases taken
      refine ⟨(takeAttribute_suffix found).1, fun _ more => ?_⟩
      show skipDeclared (cursor.moved 0 more) = _
      unfold skipDeclared
      rw [takeAttribute_moved 0 more found]

/-- One of two readers, by whether a text is ahead. -/
def skipIf (text : String) (first second : Cursor → Except Fault Cursor) (cursor : Cursor) :
    Except Fault Cursor :=
  if cursor.startsWith text then first cursor else second cursor

theorem skipIf_steady {text : String} {first second : Cursor → Except Fault Cursor}
    (foreign : '>' ∉ text.toList) (taken : skipIf text first second cursor = .ok after)
    (steadyFirst : first cursor = .ok after → Steady cursor after fun more =>
      first (cursor.moved 0 more) = .ok (after.moved 0 more))
    (steadySecond : second cursor = .ok after → Steady cursor after fun more =>
      second (cursor.moved 0 more) = .ok (after.moved 0 more)) :
    Steady cursor after fun more =>
      skipIf text first second (cursor.moved 0 more) = .ok (after.moved 0 more) := by
  have same := startsWith_steady cursor text foreign
  unfold skipIf at taken ⊢
  split at taken
  · rename_i there
    refine (same.trans (steadyFirst taken)).imp fun more again => ?_
    rw [again.1, if_pos there, again.2]
  · rename_i absent
    refine (same.trans (steadySecond taken)).imp fun more again => ?_
    rw [again.1, if_neg absent, again.2]

theorem ok_steady (taken : (.ok cursor : Except Fault Cursor) = .ok after) :
    Steady cursor after fun more =>
      (.ok (cursor.moved 0 more) : Except Fault Cursor) = .ok (after.moved 0 more) := by
  cases taken
  exact ⟨List.suffix_refl _, fun _ _ => rfl⟩

/-- The encoding of the declaration and the white space behind it. -/
def skipEncoding (cursor : Cursor) : Except Fault Cursor := do
  let rest ← skipDeclared cursor
  declarationSpace rest

theorem skipEncoding_steady (taken : skipEncoding cursor = .ok after) :
    Steady cursor after fun more =>
      skipEncoding (cursor.moved 0 more) = .ok (after.moved 0 more) := by
  obtain ⟨stop, declared, spaced⟩ := bind_eq_ok.mp taken
  refine ((skipDeclared_steady declared).trans (declarationSpace_steady spaced)).imp
    fun more same => ?_
  exact bind_eq_ok.mpr ⟨_, same.1, same.2⟩

theorem branch_bind {α β : Type} {test : Prop} [Decidable test] (first second : Except Fault α)
    (next : α → Except Fault β) :
    (if test then first else second) >>= next =
      if test then first >>= next else second >>= next := by
  split <;> rfl

theorem skipEncoding_bind {α : Type} (rest : Cursor) (next : Cursor → Except Fault α) :
    skipEncoding rest >>= next =
      match skipDeclared rest with
      | .error fault => .error fault >>= next
      | .ok rest => declarationSpace rest >>= next := by
  rw [skipEncoding]
  cases skipDeclared rest <;> rfl

theorem skipDeclaration_eq (cursor : Cursor) :
    skipDeclaration cursor = (do
      let rest ← declarationSpace (cursor.advance 5)
      let rest ← skipIf "version" skipDeclared (·.expectText "version") rest
      let rest ← declarationSpace rest
      let rest ← skipIf "encoding" skipEncoding .ok rest
      let rest ← skipIf "standalone" skipDeclared .ok rest
      rest.skipSpaces.expectText "?>") := by
  simp only [skipIf, branch_bind, skipEncoding_bind]
  rfl

theorem skipDeclaration_steady (taken : skipDeclaration cursor = .ok after) :
    Steady cursor after fun more =>
      skipDeclaration (cursor.moved 0 more) = .ok (after.moved 0 more) := by
  simp only [skipDeclaration_eq, bind_eq_ok] at taken ⊢
  obtain ⟨start, spaced, versioned, version, named, spaced', encoded, encoding, alone, standalone,
    closed⟩ := taken
  have first := skipIf_steady (by decide) version skipDeclared_steady expectText_steady
  have second := skipIf_steady (by decide) encoding skipEncoding_steady ok_steady
  have third := skipIf_steady (by decide) standalone skipDeclared_steady ok_steady
  refine ((advance_steady cursor 5).trans ((declarationSpace_steady spaced).trans
    (first.trans ((declarationSpace_steady spaced').trans (second.trans (third.trans
      ((skipSpaces_steady alone).trans (expectText_steady closed)))))))).imp fun more same => ?_
  obtain ⟨advanced, spaced, version, spaced', encoding, standalone, spaces, closed⟩ := same
  rw [advanced]
  exact ⟨_, spaced, _, version, _, spaced', _, encoding, _, standalone, by rw [spaces, closed]⟩

/-! ## The document type -/

theorem skipLiteral_steady (taken : skipLiteral cursor = .ok after) :
    Steady cursor after fun more =>
      skipLiteral (cursor.moved 0 more) = .ok (after.moved 0 more) := by
  unfold skipLiteral at taken
  simp only [bind_eq_ok, Prod.exists] at taken
  obtain ⟨quote, inside, quoted, closed⟩ := taken
  refine ((expectQuote_steady quoted).trans ((takeWhile_steady inside (· != quote)).trans
    (expect_steady closed))).imp fun more same => ?_
  obtain ⟨quoted, run, closed⟩ := same
  unfold skipLiteral
  simp only [bind_eq_ok, Prod.exists]
  exact ⟨quote, _, quoted, by rw [run]; exact closed⟩

theorem skipExternalId_steady {found : Bool}
    (taken : skipExternalId cursor = .ok (found, after)) :
    Steady cursor after fun more =>
      skipExternalId (cursor.moved 0 more) = .ok (found, after.moved 0 more) := by
  have system := startsWith_steady cursor "SYSTEM" (by decide)
  have published := startsWith_steady cursor "PUBLIC" (by decide)
  unfold skipExternalId at taken
  split at taken
  · rename_i ahead
    simp only [bind_eq_ok, Except.ok.injEq, Prod.mk.injEq] at taken
    obtain ⟨spaced, spaces, _, literal, rfl, rfl⟩ := taken
    refine (system.trans ((advance_steady cursor 6).trans ((expectSpaces_steady spaces).trans
      (skipLiteral_steady literal)))).imp fun more same => ?_
    obtain ⟨begins, advanced, spaces, literal⟩ := same
    rw [skipExternalId, begins, ahead, if_pos rfl]
    simp only [bind_eq_ok, advanced]
    exact ⟨_, spaces, _, literal, rfl⟩
  · rename_i notSystem
    split at taken
    · rename_i ahead
      simp only [bind_eq_ok, Except.ok.injEq, Prod.mk.injEq] at taken
      obtain ⟨spaced, spaces, first, literal, spaced', spaces', _, literal', rfl, rfl⟩ := taken
      refine ((system.trans published).trans ((advance_steady cursor 6).trans
        ((expectSpaces_steady spaces).trans ((skipLiteral_steady literal).trans
          ((expectSpaces_steady spaces').trans (skipLiteral_steady literal')))))).imp
            fun more same => ?_
      obtain ⟨⟨begins, begins'⟩, advanced, spaces, literal, spaces', literal'⟩ := same
      rw [skipExternalId, begins, if_neg notSystem, begins', ahead, if_pos rfl]
      simp only [bind_eq_ok, advanced]
      exact ⟨_, spaces, _, literal, _, spaces', _, literal', rfl⟩
    · rename_i notPublic
      cases taken
      refine (system.trans published).imp fun more same => ?_
      rw [skipExternalId, same.1, if_neg notSystem, same.2, if_neg notPublic]

/-- The text of an entity between quotes. -/
def quotedValue (quote : Char) (cursor : Cursor) : Except Fault (Option Cursor × Cursor) := do
  let inside := cursor.advance 1
  let rest ← (inside.takeWhile (· != quote)).2.expect quote
  .ok (some ⟨inside.offset, (inside.takeWhile (· != quote)).1⟩, rest)

/-- What may stand behind the identifier of an external entity: the notation it is written in. -/
def skipNotation (cursor : Cursor) : Except Fault (Option Cursor × Cursor) :=
  if cursor.skipSpaces.startsWith "NDATA" then do
    let rest ← (cursor.skipSpaces.advance 5).expectSpaces
    let (_, rest) ← rest.optionalName
    .ok (none, rest)
  else .ok (none, cursor.skipSpaces)

/-- An external entity has no text here. -/
def externalValue (isGeneral : Bool) (cursor : Cursor) :
    Except Fault (Option Cursor × Cursor) := do
  let (isIdentified, rest) ← skipExternalId cursor
  if !isIdentified then .error (.invalidExternalId cursor.offset)
  else if isGeneral then skipNotation rest
  else .ok (none, rest)

section EntityValue

variable {isGeneral : Bool} {value? : Option Cursor}

theorem entityValue_eq {c : Char} {tail : List Char} (ahead : cursor.rest = c :: tail) :
    entityValue isGeneral cursor =
      if c = '"' ∨ c = '\'' then quotedValue c cursor
      else if c = 'S' ∨ c = 'P' then externalValue isGeneral cursor
      else .error (.expectedAny "a quote, SYSTEM or PUBLIC" (leadByte c) cursor.offset) := by
  unfold entityValue
  simp only [ahead]
  split
  · rw [quotedValue]
    cases ((cursor.advance 1).takeWhile (· != c)).2.expect c <;> rfl
  · split
    · rw [externalValue]
      cases skipExternalId cursor with
      | error fault => rfl
      | ok identified =>
          obtain ⟨isIdentified, rest⟩ := identified
          cases isIdentified <;> rfl
    · rfl

theorem quotedValue_steady {quote : Char}
    (taken : quotedValue quote cursor = .ok (value?, after)) :
    Steady cursor after fun more =>
      quotedValue quote (cursor.moved 0 more) = .ok (value?, after.moved 0 more) := by
  simp only [quotedValue, bind_eq_ok, Except.ok.injEq, Prod.mk.injEq] at taken
  obtain ⟨stop, closed, rfl, rfl⟩ := taken
  have run := takeWhile_steady (cursor.advance 1) (· != quote)
  refine ((advance_steady cursor 1).trans (run.trans (expect_steady closed))).imp
    fun more same => ?_
  obtain ⟨advanced, run, closed⟩ := same
  simp only [quotedValue, advanced, run, closed]
  rfl

theorem skipNotation_steady (taken : skipNotation cursor = .ok (value?, after)) :
    Steady cursor after fun more =>
      skipNotation (cursor.moved 0 more) = .ok (value?, after.moved 0 more) := by
  have before := (skipSpaces_steady cursor).trans
    (startsWith_steady cursor.skipSpaces "NDATA" (by decide))
  unfold skipNotation at taken
  split at taken
  · rename_i there
    simp only [bind_eq_ok, Prod.exists, Except.ok.injEq, Prod.mk.injEq] at taken
    obtain ⟨spaced, spaces, name, _, named, rfl, rfl⟩ := taken
    refine (before.trans ((advance_steady _ 5).trans ((expectSpaces_steady spaces).trans
      (optionalName_steady named)))).imp fun more same => ?_
    obtain ⟨⟨skipped, begins⟩, advanced, spaces, named⟩ := same
    rw [skipNotation, skipped, begins, if_pos there]
    simp only [bind_eq_ok, Prod.exists, advanced]
    exact ⟨_, spaces, _, _, named, rfl⟩
  · rename_i absent
    cases taken
    refine before.imp fun more same => ?_
    rw [skipNotation, same.1, same.2, if_neg absent]

theorem externalValue_steady (taken : externalValue isGeneral cursor = .ok (value?, after)) :
    Steady cursor after fun more =>
      externalValue isGeneral (cursor.moved 0 more) = .ok (value?, after.moved 0 more) := by
  simp only [externalValue, bind_eq_ok, Prod.exists] at taken
  obtain ⟨isIdentified, stop, identified, taken⟩ := taken
  have identifier := skipExternalId_steady identified
  cases isIdentified with
  | false => cases taken
  | true =>
      cases isGeneral with
      | false =>
          cases taken
          refine identifier.imp fun more same => ?_
          rw [externalValue, same]
          rfl
      | true =>
          refine (identifier.trans (skipNotation_steady taken)).imp fun more same => ?_
          rw [externalValue, same.1]
          exact same.2

theorem entityValue_steady (taken : entityValue isGeneral cursor = .ok (value?, after)) :
    Steady cursor after fun more =>
      entityValue isGeneral (cursor.moved 0 more) = .ok (value?, after.moved 0 more) := by
  cases ahead : cursor.rest with
  | nil =>
      rw [entityValue, ahead] at taken
      cases taken
  | cons c tail =>
      have first (more : List Char) : (cursor.moved 0 more).rest = c :: (tail ++ more) := by
        simp [ahead]
      rw [entityValue_eq ahead] at taken
      split at taken
      · rename_i quote
        refine (quotedValue_steady taken).imp fun more same => ?_
        rw [entityValue_eq (first more), if_pos quote, same]
      · rename_i notQuote
        split at taken
        · rename_i external
          refine (externalValue_steady taken).imp fun more same => ?_
          rw [entityValue_eq (first more), if_neg notQuote, if_pos external, same]
        · cases taken

end EntityValue

variable {assembly built : Assembly}

/-- The assembly with what an entity is declared as. -/
def Assembly.declare? (assembly : Assembly) (name : String) : Option Cursor → Assembly
  | some value => assembly.declare name value
  | none => assembly

/-- White space behind the mark of a parameter entity. -/
def skipPercent (cursor : Cursor) : Except Fault Cursor :=
  (cursor.advance 1).expectSpaces

theorem skipPercent_steady (taken : skipPercent cursor = .ok after) :
    Steady cursor after fun more =>
      skipPercent (cursor.moved 0 more) = .ok (after.moved 0 more) := by
  refine ((advance_steady cursor 1).trans (expectSpaces_steady taken)).imp fun more same => ?_
  rw [skipPercent, same.1, same.2]

theorem entityDeclaration_eq (cursor : Cursor) (assembly : Assembly) :
    entityDeclaration cursor assembly = (do
      let spaced ← (cursor.advance 8).expectSpaces
      let rest ← skipIf "%" skipPercent .ok spaced
      let (name, rest) ← rest.name
      let rest ← rest.expectSpaces
      let (value?, rest) ← entityValue (!spaced.startsWith "%") rest
      let rest ← rest.skipSpaces.expect '>'
      .ok (rest, assembly.declare? name value?)) := by
  unfold entityDeclaration
  refine bind_congr fun spaced => ?_
  unfold skipIf
  cases spaced.startsWith "%" with
  | true =>
      simp only [Bool.not_true, Bool.false_eq_true, if_false, if_true]
      refine bind_congr fun start => bind_congr fun ⟨name, named⟩ => bind_congr fun spaced' =>
        bind_congr fun ⟨value?, stop⟩ => ?_
      cases value? <;> rfl
  | false =>
      simp only [Bool.not_false, Bool.false_eq_true, if_false, if_true]
      refine bind_congr fun start => bind_congr fun ⟨name, named⟩ => bind_congr fun spaced' =>
        bind_congr fun ⟨value?, stop⟩ => ?_
      cases value? <;> rfl

theorem entityDeclaration_steady
    (taken : entityDeclaration cursor assembly = .ok (after, built)) :
    Steady cursor after fun more =>
      entityDeclaration (cursor.moved 0 more) assembly = .ok (after.moved 0 more, built) := by
  simp only [entityDeclaration_eq, bind_eq_ok, Prod.exists, Except.ok.injEq, Prod.mk.injEq]
    at taken ⊢
  obtain ⟨spaced, spaces, start, percent, name, named, isName, spaced', spaces', value?, stop,
    value, _, closed, rfl, rfl⟩ := taken
  refine ((advance_steady cursor 8).trans ((expectSpaces_steady spaces).trans
    ((startsWith_steady spaced "%" (by decide)).trans
      ((skipIf_steady (by decide) percent skipPercent_steady ok_steady).trans
        ((name_steady isName).trans ((expectSpaces_steady spaces').trans
          ((entityValue_steady value).trans ((skipSpaces_steady stop).trans
            (expect_steady closed))))))))).imp fun more same => ?_
  obtain ⟨advanced, spaces, begins, percent, isName, spaces', value, skipped, closed⟩ := same
  rw [advanced]
  exact ⟨_, spaces, _, percent, _, _, isName, _, spaces', _, _, by rw [begins]; exact value, _,
    by rw [skipped]; exact closed, rfl, rfl⟩

end ContainerReplay.Markup
