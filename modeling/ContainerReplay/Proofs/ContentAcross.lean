import ContainerReplay.Proofs.AbreastTexts
import ContainerReplay.Proofs.ParallelContent
import Mathlib.Data.List.TakeWhile

/-!
# Content with a comment in it

A text breaks off in the content of an element.  Of two texts that start with it one goes on with a
comment and the other without it.  Both are read alike up to the comment, and abreast behind it.
-/

set_option autoImplicit false

namespace ContainerReplay.Markup

open Cursor

/-- A comment, as a text: no two hyphens stand next to each other between its ends. -/
def IsComment (comment : List Char) : Prop :=
  ∃ body, comment = "<!--".toList ++ body ++ "-->".toList ∧
    ¬ "--".toList <:+: body ++ "-".toList

variable {levels depth steps : Nat} {read : ReadEntity} {comment follow : List Char}
variable {cursor after after' stop : Cursor} {assembly built built' reached : Assembly}

theorem IsComment.stops (isComment : IsComment comment) (follow : List Char) :
    Stops (comment ++ follow) ∧ comment ≠ [] := by
  obtain ⟨body, rfl, _⟩ := isComment
  refine ⟨fun c here => ?_, by simp⟩
  have first : '<' = c := by simpa using here
  exact first.symm

/-- The closing text is not found before the end of a comment, and not overlooked there. -/
theorem IsComment.skipped (isComment : IsComment comment)
    (ahead : cursor.rest = comment ++ follow) (skipped : skipComment cursor = .ok after) :
    after = ⟨cursor.offset + comment.length, follow⟩ := by
  obtain ⟨body, rfl, plain⟩ := isComment
  obtain ⟨taken, stop, text, closed, _⟩ := skipComment_eq_ok.mp skipped
  have done := takeUntil_eq_ok.mp text
  obtain ⟨found, rfl⟩ := expectText_eq_ok.mp closed
  have inside : (cursor.advance 4).rest = body ++ ("-->".toList ++ follow) := by
    rw [advance, ahead]
    simp
  have same : body = taken ∧ stop.rest = "-->".toList ++ follow := by
    rcases List.append_eq_append_iff.mp (inside.symm.trans done.split) with
      ⟨surplus, longer, left⟩ | ⟨short, whole, left⟩
    · by_cases nothing : surplus = []
      · rw [nothing] at longer left
        exact ⟨by simpa using longer.symm, by simpa using left.symm⟩
      · have missed := done.first body surplus longer nothing
        rw [← left, isPrefixOf_append follow (Nat.le_refl _)] at missed
        exact absurd missed (by decide)
    · by_cases nothing : short = []
      · rw [nothing] at whole left
        exact ⟨by simpa using whole, by simpa using left⟩
      · have hyphens : "--".toList <+: short ++ "-".toList := by
          have here : "--".toList <+: stop.rest := List.IsPrefix.trans (by decide) found
          have reaches : short ++ "-".toList <+: stop.rest := by
            rw [left]
            exact ⟨'-' :: '>' :: follow, by simp⟩
          refine List.prefix_of_prefix_length_le here reaches ?_
          have some := List.length_pos_iff.mpr nothing
          simp
          omega
        rw [whole, List.append_assoc] at plain
        exact absurd (hyphens.isInfix.trans (List.suffix_append _ _).isInfix) plain
  obtain ⟨rfl, left⟩ := same
  have offset : stop.offset = cursor.offset + 4 + body.length := done.offset
  rw [advance, left, offset]
  congr 1
  simp only [List.length_append]
  rw [Nat.add_assoc, Nat.add_assoc, Nat.add_assoc]
  rfl

/-! ## Up to the next tag -/

theorem behindText_offset (cursor : Cursor) :
    cursor.behindText.offset = cursor.offset + cursor.text.rest.length := rfl

/-- Content begins with a text, which may be empty, and goes on with a tag. -/
theorem takeContent_text (enough : cursor.rest.length < steps)
    (taken : takeContent levels read steps depth cursor assembly = .ok (after, built)) :
    ∃ fewer grown, takeText (levels < maxDepth) read (cursor.text.rest.length + 1) cursor.text {}
        assembly = .ok grown ∧ cursor.behindText.rest.length < fewer ∧
      takeContent levels read fewer depth cursor.behindText grown = .ok (after, built) := by
  by_cases isText : ContentRule.of cursor = .text
  · obtain ⟨c, rest, ahead, plain⟩ := ContentRule.of_eq_text isText
    obtain ⟨steps, rfl⟩ : ∃ fewer, steps = fewer + 1 := ⟨steps - 1, by omega⟩
    simp only [takeContent_succ, bind_eq_ok, Prod.exists] at taken
    obtain ⟨next, stop, grown, step, rest⟩ := taken
    have shorter : ∀ depth', next = some depth' → stop.rest.length < cursor.rest.length := by
      rintro depth' rfl
      exact contentStep_shorter step
    simp only [contentStep, isText, bind_eq_ok, Prod.exists, Except.ok.injEq, Prod.mk.injEq] at step
    obtain ⟨run, _, run', _, added, rfl, rfl, rfl⟩ := step
    obtain ⟨rfl, rfl⟩ := textRun_spec run'
    rw [addText_eq (by simp [text_rest, ahead, plain])] at added
    have shorter := shorter depth rfl
    exact ⟨steps, _, added, by omega, rest⟩
  · have none : cursor.text.rest = [] := by
      rw [text_rest]
      cases ahead : cursor.rest with
      | nil => rfl
      | cons c rest =>
          by_cases plain : c ≠ '<'
          · exact absurd (ContentRule.of_text ahead plain) isText
          · simp [not_not.mp plain]
    have still : cursor.behindText = cursor := by
      have drop : (cursor.takeWhile (· != '<')).1 = [] := none
      simp only [behindText, Cursor.takeWhile] at drop ⊢
      simp [drop, advance]
    rw [still]
    exact ⟨steps, assembly, takeText_atEnd none, enough, taken⟩

theorem takeContent_atEnd (done : cursor.rest = []) :
    takeContent levels read (steps + 1) depth cursor assembly = .ok (cursor, assembly) := by
  rw [takeContent_succ, contentStep, ContentRule.of_nil done]
  rfl

theorem takeContent_comment {result : Cursor × Assembly} (isComment : IsComment comment)
    (ahead : cursor.rest = comment ++ follow)
    (taken : takeContent levels read (steps + 1) depth cursor assembly = .ok result) :
    takeContent levels read steps depth ⟨cursor.offset + comment.length, follow⟩
      assembly.appendAside = .ok result := by
  have ruled : ContentRule.of cursor = .comment := by
    obtain ⟨body, rfl, _⟩ := isComment
    have mark : cursor.startsWith "<!--" = true := by
      rw [startsWith_iff, ahead, List.append_assoc, List.append_assoc]
      exact List.prefix_append _ _
    rw [ContentRule.of_mark (by rw [ahead]; rfl), if_pos mark]
  simp only [takeContent_succ, contentStep, ruled, bind_eq_ok, Prod.exists, Except.ok.injEq,
    Prod.mk.injEq] at taken
  obtain ⟨_, _, _, ⟨rest, skipped, rfl, rfl, rfl⟩, taken⟩ := taken
  rw [isComment.skipped ahead skipped] at taken
  exact taken

theorem text_moved (cursor : Cursor) (shift : Nat) {more : List Char}
    (stops : cursor.behindText.rest = [] → Stops more) :
    (cursor.moved shift more).text = cursor.text.moved shift [] ∧
      (cursor.moved shift more).behindText = cursor.behindText.moved shift more := by
  have ends : Ends more (· != '<') cursor.behindText := fun nothing =>
    (stops nothing).ends (by decide) nothing
  have moved := takeWhile_moved shift more ends
  refine ⟨?_, by rw [behindText, moved]; rfl⟩
  rw [text, moved]
  simp [Cursor.moved, text]

/-- A text that goes up to the end goes on with the text that follows. -/
theorem text_goesOn (whole : cursor.behindText.rest = []) (place : Cursor) :
    (cursor.moved 0 place.rest).text = cursor.text.moved 0 place.text.rest ∧
      (cursor.moved 0 place.rest).behindText.rest = place.behindText.rest ∧
      cursor.text.rest = cursor.rest := by
  rw [behindText_rest] at whole
  have inside : ∀ c ∈ cursor.rest, (c != '<') = true := List.dropWhile_eq_nil_iff.mp whole
  have same : cursor.rest.takeWhile (· != '<') = cursor.rest :=
    List.takeWhile_eq_self_iff.mpr inside
  refine ⟨?_, ?_, same⟩
  · rw [text, Cursor.moved, Cursor.moved]
    congr 1
    rw [text_rest, text_rest, same, ← List.takeWhile_append_of_pos inside]
    rfl
  · rw [behindText_rest, behindText_rest, moved_rest, List.dropWhile_append_of_pos inside]

/-- So far behind the text, a place and the text that goes on there come to the same next tag. -/
theorem behindText_meets {distance : Nat} {place : Cursor} (whole : cursor.behindText.rest = [])
    (start : place.offset = cursor.offset + cursor.text.rest.length + distance) :
    place.behindText = (cursor.moved 0 place.rest).behindText.moved distance [] := by
  obtain ⟨sameText, sameRest, -⟩ := text_goesOn whole place
  have offset : place.behindText.offset =
      (cursor.moved 0 place.rest).behindText.offset + distance := by
    rw [behindText_offset, behindText_offset, sameText, start]
    simp
    omega
  rw [Cursor.moved, sameRest, List.append_nil, ← offset]

variable {steps' steps'' : Nat}

/-- The text breaks off in front of the comment: no tag begins before it any more. -/
theorem takeContent_across_text (keeps : KeepsRelated Abreast read) (isComment : IsComment comment)
    (text : cursor.behindText.rest = [])
    (alone : takeContent levels read steps depth cursor assembly = .ok (stop, reached))
    (enough : cursor.rest.length < steps) (inside : reached.frames ≠ [])
    (first : takeContent levels read steps' depth (cursor.moved 0 (comment ++ follow)) assembly =
      .ok (after, built))
    (enough' : (cursor.rest ++ (comment ++ follow)).length < steps')
    (second : takeContent levels read steps'' depth (cursor.moved 0 follow) assembly =
      .ok (after', built'))
    (enough'' : (cursor.rest ++ follow).length < steps'') :
    after = after'.moved comment.length [] ∧ Abreast built built' := by
  obtain ⟨stops, nonempty⟩ := isComment.stops follow
  obtain ⟨sameText, sameRest⟩ := text_moved cursor 0 fun _ => stops
  -- the text before the comment
  obtain ⟨fewer, grown, before, left, alone⟩ := takeContent_text enough alone
  obtain ⟨fewer, rfl⟩ : ∃ count, fewer = count + 1 := ⟨fewer - 1, by omega⟩
  rw [takeContent_atEnd text] at alone
  cases alone
  obtain ⟨fewer', grown', before', left', first⟩ := takeContent_text enough' first
  rw [sameText, moved_nowhere, before] at before'
  cases before'
  -- the comment
  obtain ⟨fewer', rfl⟩ : ∃ count, fewer' = count + 1 := ⟨fewer' - 1, by omega⟩
  have ahead : (cursor.moved 0 (comment ++ follow)).behindText.rest = comment ++ follow := by
    rw [sameRest, moved_rest, text, List.nil_append]
  have first := takeContent_comment isComment ahead first
  -- the text behind it, which is the rest of the text where there is no comment
  obtain ⟨place, here⟩ : ∃ place : Cursor,
      place = ⟨(cursor.moved 0 (comment ++ follow)).behindText.offset + comment.length, follow⟩ :=
    ⟨_, rfl⟩
  obtain rfl : follow = place.rest := by rw [here]
  have room : place.rest.length < fewer' := by
    rw [ahead, List.length_append] at left'
    have some := List.length_pos_iff.mpr nonempty
    omega
  rw [← here] at first
  obtain ⟨fewer₁, grown₁, further, left₁, first⟩ := takeContent_text room first
  obtain ⟨fewer₂, grown₂, whole, left₂, second⟩ := takeContent_text enough'' second
  obtain ⟨sameText', sameRest', all⟩ := text_goesOn text place
  have together : Abreast grown₁ grown₂ := by
    rw [sameText'] at whole
    refine texts_across keeps before ?_ inside further ?_ whole ?_
    all_goals simp
  have start : place.offset = cursor.offset + cursor.text.rest.length + comment.length := by
    rw [here, behindText_offset, sameText]
    simp
  rw [behindText_meets text start] at first
  rw [sameRest'] at left₂
  exact takeContent_parallel (abreast_parallel _) keeps together (by rw [sameRest']; exact left₁)
    (by rw [sameRest']; exact left₂) first second

/-! ## Up to the comment -/

theorem keepsRelated_eq (read : ReadEntity) : KeepsRelated Eq read := by
  rintro content reads cursor assembly _ built built' rfl first second
  exact same_of_ok rfl first second

/-- A tag that is broken off before the comment is refused where the comment follows, and a text
that is not broken off ends at a tag: every other token is taken as it is before any text. -/
theorem contentStep_goesOn {more : List Char} {next next' next'' : Option Nat}
    {after'' : Cursor} {built'' : Assembly} (isComment : IsComment comment)
    (tag : cursor.behindText.rest ≠ [])
    (alone : contentStep levels read depth cursor assembly = .ok (next, stop, reached))
    (first : contentStep levels read depth (cursor.moved 0 (comment ++ follow)) assembly =
      .ok (next', after, built))
    (second : contentStep levels read depth (cursor.moved 0 more) assembly =
      .ok (next'', after'', built'')) :
    next'' = next ∧ after'' = stop.moved 0 more ∧ built'' = reached := by
  have inside : cursor.rest ≠ [] := by
    intro nothing
    rw [behindText_rest, nothing] at tag
    exact tag rfl
  refine contentStep_parallel parallel_eq (keepsRelated_eq read) rfl inside (fun openEnded => ?_)
    second alone
  unfold OpenEnded at openEnded
  split at openEnded
  · exact absurd openEnded tag
  · rename_i ruled
    obtain ⟨rest, broken, started⟩ := openEnded
    -- then the comment would follow the tag that is broken off
    have known : ContentRule.of cursor ≠ .unknown := by
      rw [ruled]
      decide
    have ruled' : ContentRule.of (cursor.moved 0 (comment ++ follow)) = .startTag := by
      rw [ContentRule.of_moved inside known, ruled]
    simp only [contentStep, ruled', bind_eq_ok, Prod.exists] at first
    obtain ⟨ends, _, _, started', _⟩ := first
    obtain ⟨stops, nonempty⟩ := isComment.stops follow
    have nothing := (startTag_parallel parallel_eq rfl inside started' started fun _ => stops).2.2.2
    exact absurd (List.append_eq_nil_iff.mp (nothing rfl)).1 nonempty
  · exact openEnded.elim

/-- A text breaks off in content, and goes on with a comment or without it.  Both ways come to the
same up to the comment, or content ended before, with elements still open. -/
theorem takeContent_across (keeps : KeepsRelated Abreast read) (isComment : IsComment comment)
    (alone : takeContent levels read steps depth cursor assembly = .ok (stop, reached))
    (enough : cursor.rest.length < steps) (inside : reached.frames ≠ [])
    (first : takeContent levels read steps' depth (cursor.moved 0 (comment ++ follow)) assembly =
      .ok (after, built))
    (enough' : (cursor.rest ++ (comment ++ follow)).length < steps')
    (second : takeContent levels read steps'' depth (cursor.moved 0 follow) assembly =
      .ok (after', built'))
    (enough'' : (cursor.rest ++ follow).length < steps'') :
    (after = after'.moved comment.length [] ∧ Abreast built built') ∨ built.frames ≠ [] := by
  induction steps generalizing steps' steps'' depth cursor assembly with
  | zero => omega
  | succ steps ih =>
      by_cases text : cursor.behindText.rest = []
      · exact Or.inl (takeContent_across_text keeps isComment text alone enough inside first enough'
          second enough'')
      · obtain ⟨steps', rfl⟩ : ∃ fewer, steps' = fewer + 1 := ⟨steps' - 1, by omega⟩
        obtain ⟨steps'', rfl⟩ : ∃ fewer, steps'' = fewer + 1 := ⟨steps'' - 1, by omega⟩
        simp only [takeContent_succ, bind_eq_ok, Prod.exists] at alone first second
        obtain ⟨next, rest, grown, step, alone⟩ := alone
        obtain ⟨next', rest', grown', step', first⟩ := first
        obtain ⟨next'', rest'', grown'', step'', second⟩ := second
        obtain ⟨rfl, rfl, rfl⟩ := contentStep_goesOn isComment text step step' step''
        obtain ⟨rfl, rfl, rfl⟩ := contentStep_goesOn isComment text step step' step'
        cases next' with
        | none =>
            cases alone
            cases first
            exact Or.inr inside
        | some depth =>
            have shorter := contentStep_shorter step
            simp only [List.length_append] at enough' enough''
            exact ih alone (by omega) first (by simp only [List.length_append]; omega) second
              (by simp only [List.length_append]; omega)

end ContainerReplay.Markup
