import ContainerReplay.Proofs.MovedCursors

/-!
# Pieces of markup at another place

References, attributes, comments, instructions, sections and runs of text are read alike at another
place of a text, also if the text goes on.  Each of them takes at least one character.
-/

set_option autoImplicit false

namespace ContainerReplay.Markup

open Cursor

variable (shift : Nat) (more : List Char) {cursor after : Cursor}

theorem ne_nil_of_suffix {tail whole : List Char} (within : tail <:+ whole) (left : tail ≠ []) :
    whole ≠ [] := by
  rintro rfl
  exact left (List.suffix_nil.mp within)

/-! ## References -/

namespace Reference

theorem numeric?_eq_some {base : Nat} {isDigit : Char → Bool} {reference : Reference} :
    numeric? cursor base isDigit = some (reference, after) ↔
      (cursor.takeWhile isDigit).1 ≠ [] ∧
        (charOf? (number base (cursor.takeWhile isDigit).1)).map char = some reference ∧
        after = (cursor.takeWhile isDigit).2 := by
  unfold numeric?
  obtain ⟨digits, left⟩ := cursor.takeWhile isDigit
  cases digits with
  | nil => simp
  | cons first others =>
      cases value : charOf? (number base (first :: others)) with
      | none => simp [value]
      | some c =>
          simp only [value, Option.some.injEq, Prod.mk.injEq, Option.map_some]
          constructor
          · rintro ⟨rfl, rfl⟩
            exact ⟨List.cons_ne_nil _ _, rfl, rfl⟩
          · rintro ⟨_, rfl, rfl⟩
            exact ⟨rfl, rfl⟩

theorem numeric?_moved {base : Nat} {isDigit : Char → Bool} {reference : Reference}
    (taken : numeric? cursor base isDigit = some (reference, after)) (left : after.rest ≠ []) :
    numeric? (cursor.moved shift more) base isDigit = some (reference, after.moved shift more) := by
  obtain ⟨digits, value, rfl⟩ := numeric?_eq_some.mp taken
  refine numeric?_eq_some.mpr ?_
  rw [takeWhile_moved shift more (ends_of_ne more left)]
  exact ⟨digits, value, rfl⟩

/-! What the body of a reference is taken for, by its first characters. -/

theorem body?_hex {tail : List Char} (ahead : cursor.rest = '#' :: 'x' :: tail) :
    body? cursor = numeric? (cursor.advance 2) 16 fun c => (hexValue? c).isSome := by
  rw [body?, ahead]
  rfl

theorem body?_decimal {c : Char} {tail : List Char} (ahead : cursor.rest = '#' :: c :: tail)
    (notHex : c ≠ 'x') : body? cursor = numeric? (cursor.advance 1) 10 Char.isDigit := by
  rw [body?, ahead]
  split
  · rename_i same
    simp only [List.cons.injEq] at same
    exact absurd same.2.1 notHex
  · rfl
  · rename_i _ other
    exact (other _ rfl).elim

theorem body?_named {c : Char} {tail : List Char} {name : String} (ahead : cursor.rest = c :: tail)
    (notSign : c ≠ '#') (taken : cursor.name = .ok (name, after)) :
    body? cursor = some (named name, after) := by
  rw [body?, ahead]
  split
  · rename_i same
    exact absurd (List.cons.inj same).1 notSign
  · rename_i same
    exact absurd (List.cons.inj same).1 notSign
  · rw [taken]

theorem body?_moved {reference : Reference} (taken : body? cursor = some (reference, after))
    (left : after.rest ≠ []) :
    body? (cursor.moved shift more) = some (reference, after.moved shift more) := by
  unfold body? at taken
  split at taken
  · rename_i tail ahead
    have enough : 2 ≤ cursor.rest.length := by simp [ahead]
    have here : (cursor.moved shift more).rest = '#' :: 'x' :: (tail ++ more) := by simp [ahead]
    rw [body?_hex here, advance_moved shift more enough]
    exact numeric?_moved shift more taken left
  · rename_i tail notHex ahead
    have enough : 1 ≤ cursor.rest.length := by simp [ahead]
    cases tail with
    | nil =>
        -- a number sign at the end has no digits
        obtain ⟨digits, _, _⟩ := numeric?_eq_some.mp taken
        exact absurd (by simp [takeWhile, advance, ahead]) digits
    | cons c tail =>
        have notX : c ≠ 'x' := fun same => notHex tail (by rw [same])
        have here : (cursor.moved shift more).rest = '#' :: c :: (tail ++ more) := by simp [ahead]
        rw [body?_decimal here notX, advance_moved shift more enough]
        exact numeric?_moved shift more taken left
  · rename_i notHex notNumber
    cases named : cursor.name with
    | error fault => rw [named] at taken; cases taken
    | ok found =>
        obtain ⟨name, stop⟩ := found
        rw [named] at taken
        cases taken
        obtain ⟨⟨c, rest, ahead, starts⟩, _⟩ := name_eq_ok.mp named
        have notSign : c ≠ '#' := fun same => notNumber rest (by rw [ahead, same])
        have here : (cursor.moved shift more).rest = c :: (rest ++ more) := by simp [ahead]
        exact body?_named here notSign (name_moved shift more named (ends_of_ne more left))

theorem body?_suffix {reference : Reference} (taken : body? cursor = some (reference, after)) :
    after.rest <:+ cursor.rest := by
  unfold body? at taken
  split at taken
  · obtain ⟨_, _, rfl⟩ := numeric?_eq_some.mp taken
    exact (takeWhile_suffix _ _).trans (advance_suffix cursor 2)
  · obtain ⟨_, _, rfl⟩ := numeric?_eq_some.mp taken
    exact (takeWhile_suffix _ _).trans (advance_suffix cursor 1)
  · split at taken
    · cases taken
    · rename_i named
      cases taken
      exact name_suffix named

theorem take?_eq_some {reference : Reference} :
    take? cursor = some (reference, after) ↔
      ∃ tail stop left, cursor.rest = '&' :: tail ∧
        body? (cursor.advance 1) = some (reference, stop) ∧ stop.rest = ';' :: left ∧
        after = stop.advance 1 := by
  unfold take?
  split
  · rename_i tail ahead
    cases body? (cursor.advance 1) with
    | none => simp
    | some found =>
        obtain ⟨other, stop⟩ := found
        simp only
        split
        · rename_i left ends
          simp only [Option.some.injEq, Prod.mk.injEq]
          constructor
          · rintro ⟨rfl, rfl⟩
            exact ⟨tail, stop, left, ahead, ⟨rfl, rfl⟩, ends, rfl⟩
          · rintro ⟨_, _, _, _, ⟨rfl, rfl⟩, _, rfl⟩
            exact ⟨rfl, rfl⟩
        · rename_i noEnd
          constructor
          · intro failed
            cases failed
          · rintro ⟨_, _, left, _, same, ends, _⟩
            cases same
            exact absurd ends (noEnd left)
  · rename_i noStart
    constructor
    · intro failed
      cases failed
    · rintro ⟨tail, _, _, ahead, _⟩
      exact absurd ahead (noStart tail)

theorem take?_moved {reference : Reference} (taken : take? cursor = some (reference, after)) :
    take? (cursor.moved shift more) = some (reference, after.moved shift more) := by
  obtain ⟨tail, stop, left, ahead, body, ends, rfl⟩ := take?_eq_some.mp taken
  have enough : 1 ≤ cursor.rest.length := by simp [ahead]
  have enoughLeft : 1 ≤ stop.rest.length := by simp [ends]
  refine take?_eq_some.mpr ⟨tail ++ more, stop.moved shift more, left ++ more, by simp [ahead], ?_,
    by simp [ends], (advance_moved shift more enoughLeft).symm⟩
  rw [advance_moved shift more enough]
  exact body?_moved shift more body (by simp [ends])

theorem take?_suffix {reference : Reference} (taken : take? cursor = some (reference, after)) :
    after.rest <:+ cursor.rest ∧ after.rest.length < cursor.rest.length := by
  obtain ⟨tail, stop, left, ahead, body, ends, rfl⟩ := take?_eq_some.mp taken
  have within := (advance_suffix stop 1).trans ((body?_suffix body).trans (advance_suffix cursor 1))
  refine ⟨within, ?_⟩
  have shorter := (body?_suffix body).length_le
  simp only [advance, ends, ahead, List.drop_succ_cons, List.drop_zero, List.length_cons]
    at shorter ⊢
  omega

end Reference

/-! ## Attributes -/

theorem takeAttribute_eq_ok {name : QualifiedName} {spelled : Cursor} :
    takeAttribute cursor = .ok (name, spelled, after) ↔
      ∃ named equals quote inside value stop, cursor.qualifiedName = .ok (name, named) ∧
        named.expectEquals = .ok equals ∧ equals.expectQuote = .ok (quote, inside) ∧
        inside.takeUntil (fun ahead => ahead.head? == some quote || ahead.head? == some '<') =
          .ok (value, stop) ∧
        stop.expect quote = .ok after ∧ spelled = ⟨inside.offset, value⟩ := by
  unfold takeAttribute
  simp only [bind_eq_ok, Prod.exists, Except.ok.injEq, Prod.mk.injEq]
  constructor
  · rintro ⟨_, named, taken, equals, equal, quote, inside, quoted, value, stop, text, _, closed,
      rfl, rfl, rfl⟩
    exact ⟨named, equals, quote, inside, value, stop, taken, equal, quoted, text, closed, rfl⟩
  · rintro ⟨named, equals, quote, inside, value, stop, taken, equal, quoted, text, closed, rfl⟩
    exact ⟨name, named, taken, equals, equal, quote, inside, quoted, value, stop, text, after,
      closed, rfl, rfl, rfl⟩

theorem expectQuote_ne_nil {quote : Char} (taken : cursor.expectQuote = .ok (quote, after)) :
    cursor.rest ≠ [] := by
  intro nothing
  rw [expectQuote, nothing] at taken
  cases taken

theorem expectEquals_ne_nil (taken : cursor.expectEquals = .ok after) : cursor.rest ≠ [] := by
  unfold expectEquals at taken
  cases equals : cursor.skipSpaces.expect '=' with
  | error fault => rw [equals] at taken; cases taken
  | ok middle =>
      obtain ⟨rest, ahead, _⟩ := expect_eq_ok.mp equals
      exact ne_nil_of_suffix (skipSpaces_suffix cursor) (by simp [ahead])

theorem takeAttribute_moved {name : QualifiedName} {spelled : Cursor}
    (taken : takeAttribute cursor = .ok (name, spelled, after)) :
    takeAttribute (cursor.moved shift more) =
      .ok (name, spelled.moved shift [], after.moved shift more) := by
  obtain ⟨named, equals, quote, inside, value, stop, qualified, equal, quoted, text, closed, rfl⟩ :=
    takeAttribute_eq_ok.mp taken
  obtain ⟨rest, ahead, _⟩ := expect_eq_ok.mp closed
  refine takeAttribute_eq_ok.mpr ⟨named.moved shift more, equals.moved shift more, quote,
    inside.moved shift more, value, stop.moved shift more, ?_, ?_, ?_, ?_, ?_, by simp [moved]⟩
  · exact qualifiedName_moved shift more qualified (ends_of_ne more (expectEquals_ne_nil equal))
  · exact expectEquals_moved shift more equal (ends_of_ne more (expectQuote_ne_nil quoted))
  · exact expectQuote_moved shift more quoted
  · refine takeUntil_moved shift more text (fun ahead left _ => ?_) fun nothing => ?_
    · rw [List.head?_append_of_ne_nil _ left]
    · rw [nothing] at ahead
      cases ahead
  · exact expect_moved shift more closed

theorem takeAttribute_suffix {name : QualifiedName} {spelled : Cursor}
    (taken : takeAttribute cursor = .ok (name, spelled, after)) :
    after.rest <:+ cursor.rest ∧ after.rest.length < cursor.rest.length := by
  obtain ⟨named, equals, quote, inside, value, stop, qualified, equal, quoted, text, closed, rfl⟩ :=
    takeAttribute_eq_ok.mp taken
  have before := (takeUntil_suffix text).trans ((expectQuote_suffix quoted).trans
    ((expectEquals_suffix equal).trans (qualifiedName_suffix qualified)))
  refine ⟨(expect_suffix closed).trans before, ?_⟩
  obtain ⟨rest, ahead, rfl⟩ := expect_eq_ok.mp closed
  have enough := before.length_le
  rw [ahead, List.length_cons] at enough
  exact enough

/-! ## Pieces between fixed texts -/

/-- What stands between a number of characters and a closing text. -/
theorem enclosed_moved {count : Nat} {text : String} {body : List Char} {stop : Cursor}
    (taken : (cursor.advance count).takeUntil (text.toList.isPrefixOf ·) = .ok (body, stop))
    (closed : stop.expectText text = .ok after) (nonempty : text.toList ≠ []) :
    ((cursor.moved shift more).advance count).takeUntil (text.toList.isPrefixOf ·) =
        .ok (body, stop.moved shift more) ∧
      (stop.moved shift more).expectText text = .ok (after.moved shift more) := by
  obtain ⟨found, _⟩ := expectText_eq_ok.mp closed
  have left : (cursor.advance count).rest ≠ [] := by
    refine ne_nil_of_suffix (takeUntil_suffix taken) fun nothing => ?_
    rw [nothing] at found
    exact nonempty (List.prefix_nil.mp found)
  have enough : count ≤ cursor.rest.length := by
    by_contra few
    exact left (List.drop_of_length_le (by omega))
  rw [advance_moved shift more enough]
  exact ⟨takeUntil_text_moved shift more taken found nonempty, expectText_moved shift more closed⟩

theorem enclosed_suffix {count : Nat} {text : String} {body : List Char} {stop : Cursor}
    (taken : (cursor.advance count).takeUntil (text.toList.isPrefixOf ·) = .ok (body, stop))
    (closed : stop.expectText text = .ok after) (nonempty : text.toList ≠ []) :
    after.rest <:+ cursor.rest ∧ after.rest.length < cursor.rest.length := by
  obtain ⟨found, rfl⟩ := expectText_eq_ok.mp closed
  have before := (takeUntil_suffix taken).trans (advance_suffix cursor count)
  refine ⟨(advance_suffix stop text.length).trans before, ?_⟩
  have enough := found.length_le
  have whole := before.length_le
  have some : 0 < text.toList.length := List.length_pos_iff.mpr nonempty
  rw [String.length_toList] at enough some
  simp only [advance, List.length_drop]
  omega

theorem skipComment_eq_ok :
    skipComment cursor = .ok after ↔
      ∃ body stop,
        (cursor.advance 4).takeUntil ("-->".toList.isPrefixOf ·) = .ok (body, stop) ∧
        stop.expectText "-->" = .ok after ∧
        (occursIn "--".toList body || body.getLast? == some '-') = false := by
  unfold skipComment
  simp only [bind_eq_ok, Prod.exists]
  constructor
  · rintro ⟨body, stop, taken, left, closed, accepted⟩
    split at accepted
    · cases accepted
    · rename_i plain
      cases accepted
      exact ⟨body, stop, taken, closed, Bool.not_eq_true _ ▸ plain⟩
  · rintro ⟨body, stop, taken, closed, plain⟩
    exact ⟨body, stop, taken, after, closed, if_neg (ne_true_of_eq_false plain)⟩

theorem skipComment_moved (taken : skipComment cursor = .ok after) :
    skipComment (cursor.moved shift more) = .ok (after.moved shift more) := by
  obtain ⟨body, stop, text, closed, plain⟩ := skipComment_eq_ok.mp taken
  obtain ⟨textMoved, closedMoved⟩ := enclosed_moved shift more text closed (by decide)
  exact skipComment_eq_ok.mpr ⟨body, stop.moved shift more, textMoved, closedMoved, plain⟩

theorem skipComment_suffix (taken : skipComment cursor = .ok after) :
    after.rest <:+ cursor.rest ∧ after.rest.length < cursor.rest.length := by
  obtain ⟨body, stop, text, closed, _⟩ := skipComment_eq_ok.mp taken
  exact enclosed_suffix text closed (by decide)

/-- A text that is not ahead is not there when the text goes on either, if something is ahead that
it does not hold. -/
theorem startsWith_moved_false {text : String} {c : Char}
    (absent : cursor.startsWith text = false) (ahead : c ∈ cursor.rest)
    (foreign : c ∉ text.toList) : (cursor.moved shift more).startsWith text = false := by
  rw [← Bool.not_eq_true, startsWith_iff] at absent ⊢
  intro found
  rcases List.prefix_or_prefix_of_prefix found (List.prefix_append cursor.rest more) with
    within | beyond
  · exact absent within
  · exact foreign (beyond.subset ahead)

theorem skipInstruction_eq_ok :
    skipInstruction cursor = .ok after ↔
      cursor.startsWith "<?xml " = false ∧
        ∃ name named body stop, (cursor.advance 2).name = .ok (name, named) ∧
          named.skipSpaces.takeUntil ("?>".toList.isPrefixOf ·) = .ok (body, stop) ∧
          stop.expectText "?>" = .ok after := by
  unfold skipInstruction
  cases cursor.startsWith "<?xml " with
  | true => simp
  | false =>
      simp only [bind_eq_ok, Prod.exists, Bool.false_eq_true, if_false, true_and]
      constructor
      · rintro ⟨name, named, target, body, stop, text, closed⟩
        exact ⟨name, named, body, stop, target, text, closed⟩
      · rintro ⟨name, named, body, stop, target, text, closed⟩
        exact ⟨name, named, target, body, stop, text, closed⟩

theorem skipInstruction_suffix (taken : skipInstruction cursor = .ok after) :
    after.rest <:+ cursor.rest ∧ after.rest.length < cursor.rest.length := by
  obtain ⟨_, name, named, body, stop, target, text, closed⟩ := skipInstruction_eq_ok.mp taken
  have before := (name_suffix target).trans (advance_suffix cursor 2)
  have here : (named.skipSpaces.advance 0).takeUntil ("?>".toList.isPrefixOf ·) =
      .ok (body, stop) := text
  have inside := enclosed_suffix here closed (by decide)
  have spaced := (skipSpaces_suffix named).trans before
  exact ⟨inside.1.trans spaced, Nat.lt_of_lt_of_le inside.2 spaced.length_le⟩

theorem skipInstruction_moved (taken : skipInstruction cursor = .ok after) :
    skipInstruction (cursor.moved shift more) = .ok (after.moved shift more) := by
  obtain ⟨noDeclaration, name, named, body, stop, target, text, closed⟩ :=
    skipInstruction_eq_ok.mp taken
  obtain ⟨found, _⟩ := expectText_eq_ok.mp closed
  have stopLeft : stop.rest ≠ [] := by
    intro nothing
    rw [nothing] at found
    exact absurd (List.prefix_nil.mp found) (by decide)
  have textLeft := ne_nil_of_suffix (takeUntil_suffix text) stopLeft
  have nameLeft := ne_nil_of_suffix (skipSpaces_suffix named) textLeft
  obtain ⟨⟨first, rest, start, _⟩, _⟩ := name_eq_ok.mp target
  have enough : 2 ≤ cursor.rest.length := by
    by_contra few
    have nothing : (cursor.advance 2).rest = [] := List.drop_of_length_le (by omega)
    rw [nothing] at start
    cases start
  have closing : '>' ∈ cursor.rest := by
    have before := (takeUntil_suffix text).trans ((skipSpaces_suffix named).trans
      ((name_suffix target).trans (advance_suffix cursor 2)))
    exact before.subset (found.subset (by decide))
  refine skipInstruction_eq_ok.mpr
    ⟨startsWith_moved_false shift more noDeclaration closing (by decide), name,
      named.moved shift more, body, stop.moved shift more, ?_, ?_, ?_⟩
  · rw [advance_moved shift more enough]
    exact name_moved shift more target (ends_of_ne more nameLeft)
  · rw [skipSpaces_moved shift more (ends_of_ne more textLeft)]
    exact takeUntil_text_moved shift more text found (by decide)
  · exact expectText_moved shift more closed

/-! ## Runs of text -/

theorem textRun_eq_ok {run : Cursor} :
    textRun cursor = .ok (run, after) ↔
      ∃ body, cursor.takeUntil (fun ahead => ahead.head? == some '<') = .ok (body, after) ∧
        occursIn "]]>".toList body = false ∧ run = ⟨cursor.offset, body⟩ := by
  unfold textRun
  simp only [bind_eq_ok, Prod.exists]
  constructor
  · rintro ⟨body, stop, taken, accepted⟩
    split at accepted
    · cases accepted
    · rename_i plain
      cases accepted
      exact ⟨body, taken, Bool.not_eq_true _ ▸ plain, rfl⟩
  · rintro ⟨body, taken, plain, rfl⟩
    exact ⟨body, after, taken, if_neg (ne_true_of_eq_false plain)⟩

/-- The text up to the next tag. -/
def Cursor.text (cursor : Cursor) : Cursor :=
  ⟨cursor.offset, (cursor.takeWhile (· != '<')).1⟩

/-- What stands behind the text up to the next tag. -/
def Cursor.behindText (cursor : Cursor) : Cursor :=
  (cursor.takeWhile (· != '<')).2

theorem Cursor.text_rest (cursor : Cursor) :
    cursor.text.rest = cursor.rest.takeWhile (· != '<') := rfl

theorem Cursor.behindText_rest (cursor : Cursor) :
    cursor.behindText.rest = cursor.rest.dropWhile (· != '<') :=
  takeWhile_rest cursor _

/-- A run goes up to the next tag. -/
theorem textRun_spec {run : Cursor} (taken : textRun cursor = .ok (run, after)) :
    run = cursor.text ∧ after = cursor.behindText := by
  obtain ⟨body, text, _, rfl⟩ := textRun_eq_ok.mp taken
  have done := takeUntil_eq_ok.mp text
  have inside : ∀ c ∈ body, (c != '<') = true := by
    intro c member
    obtain ⟨before, ahead, whole⟩ := List.append_of_mem member
    have further := done.first before (c :: ahead) whole (List.cons_ne_nil _ _)
    simpa using further
  have stops : after.rest.takeWhile (· != '<') = [] := by
    cases left : after.rest with
    | nil => rfl
    | cons c rest =>
        have here := (done.stopped c rest left).2
        simp only [List.head?_cons, beq_iff_eq, Option.some.injEq] at here
        simp [here]
  have run : cursor.rest.takeWhile (· != '<') = body := by
    rw [done.split, List.takeWhile_append_of_pos inside, stops, List.append_nil]
  have left : cursor.rest.drop body.length = after.rest := by
    rw [done.split, List.drop_left]
  obtain ⟨offset, rest⟩ := after
  obtain rfl : offset = cursor.offset + body.length := done.offset
  exact ⟨by rw [Cursor.text, Cursor.takeWhile, run],
    by rw [behindText, Cursor.takeWhile, run, advance, left]⟩

theorem textRun_moved {run : Cursor} (taken : textRun cursor = .ok (run, after))
    (ends : after.rest = [] → ∀ c ∈ more.head?, c = '<') :
    textRun (cursor.moved shift more) = .ok (run.moved shift [], after.moved shift more) := by
  obtain ⟨body, text, plain, rfl⟩ := textRun_eq_ok.mp taken
  refine textRun_eq_ok.mpr ⟨body, ?_, plain, by simp [moved]⟩
  refine takeUntil_moved shift more text (fun ahead left _ => ?_) fun nothing c rest goesOn => ?_
  · rw [List.head?_append_of_ne_nil _ left]
  · obtain rfl := ends nothing c (by rw [goesOn]; rfl)
    exact ⟨by decide, by simp⟩

end ContainerReplay.Markup
