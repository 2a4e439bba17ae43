import ContainerReplay.Markup.Content
import Mathlib.Data.List.Infix

/-!
# Readers at another place

A reader looks at the characters ahead and neither at their offset nor beyond what it takes.  It
does the same at another place of a text, and the same if the text goes on, unless what it takes
goes up to the end and the text goes on with more of it.
-/

set_option autoImplicit false

namespace ContainerReplay.Markup

theorem bind_eq_ok {α β : Type} {first : Except Fault α} {next : α → Except Fault β} {result : β} :
    (first >>= next) = .ok result ↔ ∃ value, first = .ok value ∧ next value = .ok result := by
  cases first with
  | error fault =>
      constructor
      · intro failed
        cases failed
      · rintro ⟨_, absurd, _⟩
        cases absurd
  | ok value =>
      constructor
      · intro done
        exact ⟨value, rfl, done⟩
      · rintro ⟨_, same, done⟩
        cases same
        exact done

namespace Cursor

/-- A cursor at another place of a text that goes on with more characters. -/
def moved (shift : Nat) (more : List Char) (cursor : Cursor) : Cursor :=
  ⟨cursor.offset + shift, cursor.rest ++ more⟩

variable (shift : Nat) (more : List Char) {cursor after : Cursor}

@[simp] theorem moved_rest : (cursor.moved shift more).rest = cursor.rest ++ more := rfl

@[simp] theorem moved_offset : (cursor.moved shift more).offset = cursor.offset + shift := rfl

theorem moved_nowhere (cursor : Cursor) : cursor.moved 0 [] = cursor := by
  simp [moved]

/-! ## One step at a time -/

theorem advance_moved {count : Nat} (enough : count ≤ cursor.rest.length) :
    (cursor.moved shift more).advance count = (cursor.advance count).moved shift more := by
  simp [advance, moved, List.drop_append_of_le_length enough, Nat.add_right_comm]

theorem advance_suffix (cursor : Cursor) (count : Nat) :
    (cursor.advance count).rest <:+ cursor.rest :=
  List.drop_suffix count cursor.rest

theorem startsWith_iff (cursor : Cursor) (text : String) :
    cursor.startsWith text = true ↔ text.toList <+: cursor.rest :=
  List.isPrefixOf_iff_prefix

theorem startsWith_moved {text : String} (ahead : cursor.startsWith text = true) :
    (cursor.moved shift more).startsWith text = true := by
  rw [startsWith_iff] at ahead ⊢
  exact ahead.trans (List.prefix_append _ _)

theorem expect_eq_ok {wanted : Char} :
    cursor.expect wanted = .ok after ↔
      ∃ rest, cursor.rest = wanted :: rest ∧ after = ⟨cursor.offset + 1, rest⟩ := by
  unfold expect
  cases ahead : cursor.rest with
  | nil => simp
  | cons c rest =>
      by_cases same : c = wanted
      · simp [same, advance, ahead, eq_comm]
      · simp [same]

theorem expect_moved {wanted : Char} (taken : cursor.expect wanted = .ok after) :
    (cursor.moved shift more).expect wanted = .ok (after.moved shift more) := by
  obtain ⟨rest, ahead, rfl⟩ := expect_eq_ok.mp taken
  exact expect_eq_ok.mpr ⟨rest ++ more, by simp [ahead], by simp [moved, Nat.add_right_comm]⟩

theorem expect_suffix {wanted : Char} (taken : cursor.expect wanted = .ok after) :
    after.rest <:+ cursor.rest := by
  obtain ⟨rest, ahead, rfl⟩ := expect_eq_ok.mp taken
  rw [ahead]
  exact List.suffix_cons wanted rest

theorem expectText_eq_ok {wanted : String} :
    cursor.expectText wanted = .ok after ↔
      wanted.toList <+: cursor.rest ∧ after = cursor.advance wanted.length := by
  rw [← startsWith_iff, expectText]
  cases cursor.startsWith wanted with
  | false => simp
  | true => simp [eq_comm]

theorem expectText_moved {wanted : String} (taken : cursor.expectText wanted = .ok after) :
    (cursor.moved shift more).expectText wanted = .ok (after.moved shift more) := by
  obtain ⟨ahead, rfl⟩ := expectText_eq_ok.mp taken
  have enough : wanted.length ≤ cursor.rest.length := ahead.length_le
  exact expectText_eq_ok.mpr
    ⟨ahead.trans (List.prefix_append _ _), (advance_moved shift more enough).symm⟩

theorem expectQuote_moved {quote : Char} (taken : cursor.expectQuote = .ok (quote, after)) :
    (cursor.moved shift more).expectQuote = .ok (quote, after.moved shift more) := by
  unfold expectQuote at taken ⊢
  cases ahead : cursor.rest with
  | nil => simp [ahead] at taken
  | cons c rest =>
      have enough : 1 ≤ cursor.rest.length := by simp [ahead]
      rw [ahead] at taken
      simp only [moved_rest, ahead, List.cons_append] at taken ⊢
      by_cases isQuote : c = '\'' ∨ c = '"'
      · rw [if_pos isQuote] at taken ⊢
        cases taken
        rw [advance_moved shift more enough]
      · rw [if_neg isQuote] at taken
        cases taken

theorem expectQuote_suffix {quote : Char} (taken : cursor.expectQuote = .ok (quote, after)) :
    after.rest <:+ cursor.rest := by
  unfold expectQuote at taken
  split at taken
  · cases taken
  · split at taken
    · cases taken
      exact advance_suffix cursor 1
    · cases taken

/-! ## Runs of characters -/

/-- What follows a run does not go on with it. -/
def Ends (test : Char → Bool) (after : Cursor) : Prop :=
  after.rest = [] → ∀ c ∈ more.head?, test c = false

theorem ends_of_ne {test : Char → Bool} (left : after.rest ≠ []) : Ends more test after :=
  fun nothing => absurd nothing left

theorem ends_nil (test : Char → Bool) (after : Cursor) : Ends [] test after :=
  fun _ c none => by cases none

@[simp] theorem takeWhile_rest (cursor : Cursor) (test : Char → Bool) :
    (cursor.takeWhile test).2.rest = cursor.rest.dropWhile test := by
  have split := List.takeWhile_append_dropWhile (p := test) (l := cursor.rest)
  simp only [takeWhile, advance]
  exact (congrArg (List.drop _) split).symm.trans List.drop_left

theorem takeWhile_suffix (cursor : Cursor) (test : Char → Bool) :
    (cursor.takeWhile test).2.rest <:+ cursor.rest :=
  advance_suffix cursor _

theorem takeWhile_moved {test : Char → Bool} (ends : Ends more test (cursor.takeWhile test).2) :
    (cursor.moved shift more).takeWhile test =
      ((cursor.takeWhile test).1, (cursor.takeWhile test).2.moved shift more) := by
  have same : (cursor.rest ++ more).takeWhile test = cursor.rest.takeWhile test := by
    rw [List.takeWhile_append]
    split
    · rename_i whole
      have through := List.takeWhile_append_dropWhile (p := test) (l := cursor.rest)
      have nothing : cursor.rest.dropWhile test = [] := by
        have lengths := congrArg List.length through
        rw [List.length_append, whole] at lengths
        exact List.eq_nil_of_length_eq_zero (by omega)
      have stop := ends (by rw [takeWhile_rest, nothing])
      have none : more.takeWhile test = [] := by
        cases more with
        | nil => rfl
        | cons c rest => simp [stop c rfl]
      rw [none, List.append_nil]
      rw [nothing, List.append_nil] at through
      exact through.symm
    · rfl
  have enough : (cursor.rest.takeWhile test).length ≤ cursor.rest.length :=
    List.Sublist.length_le (List.takeWhile_sublist test)
  simp only [takeWhile, moved_rest, same]
  rw [advance_moved shift more enough]

theorem skipSpaces_moved (ends : Ends more isSpace cursor.skipSpaces) :
    (cursor.moved shift more).skipSpaces = cursor.skipSpaces.moved shift more := by
  rw [skipSpaces, takeWhile_moved shift more ends, skipSpaces]

theorem skipSpaces_suffix (cursor : Cursor) : cursor.skipSpaces.rest <:+ cursor.rest :=
  takeWhile_suffix cursor isSpace

theorem expectEquals_moved (taken : cursor.expectEquals = .ok after)
    (ends : Ends more isSpace after) :
    (cursor.moved shift more).expectEquals = .ok (after.moved shift more) := by
  unfold expectEquals at taken ⊢
  cases equals : cursor.skipSpaces.expect '=' with
  | error fault => rw [equals] at taken; cases taken
  | ok middle =>
      rw [equals] at taken
      cases taken
      obtain ⟨rest, ahead, _⟩ := expect_eq_ok.mp equals
      have left : cursor.skipSpaces.rest ≠ [] := by simp [ahead]
      rw [skipSpaces_moved shift more (ends_of_ne more left), expect_moved shift more equals]
      exact congrArg Except.ok (skipSpaces_moved shift more ends)

theorem expectEquals_suffix (taken : cursor.expectEquals = .ok after) :
    after.rest <:+ cursor.rest := by
  unfold expectEquals at taken
  cases equals : cursor.skipSpaces.expect '=' with
  | error fault => rw [equals] at taken; cases taken
  | ok middle =>
      rw [equals] at taken
      cases taken
      exact (skipSpaces_suffix middle).trans
        ((expect_suffix equals).trans (skipSpaces_suffix cursor))

/-- What is taken up to a stop: no stop lies before it, and every character is allowed, the one at
the stop included. -/
structure TakenUntil (stop : List Char → Bool) (cursor : Cursor) (body : List Char)
    (after : Cursor) : Prop where
  split : cursor.rest = body ++ after.rest
  offset : after.offset = cursor.offset + body.length
  allowed : ∀ c ∈ body, isAllowed c = true
  first : ∀ before ahead, body = before ++ ahead → ahead ≠ [] → stop (ahead ++ after.rest) = false
  stopped : ∀ c rest, after.rest = c :: rest → isAllowed c = true ∧ stop (c :: rest) = true

theorem TakenUntil.nothing {stop : List Char → Bool} (cursor : Cursor)
    (stopped : ∀ c rest, cursor.rest = c :: rest → isAllowed c = true ∧ stop (c :: rest) = true) :
    TakenUntil stop cursor [] cursor where
  split := rfl
  offset := rfl
  allowed := by simp
  first := by
    intro before ahead nothing left
    exact absurd (List.append_eq_nil_iff.mp nothing.symm).2 left
  stopped := stopped

theorem TakenUntil.eq_of_stop {stop : List Char → Bool} {body : List Char}
    (taken : TakenUntil stop cursor body after) (here : stop cursor.rest = true) :
    body = [] ∧ after = cursor := by
  have nothing : body = [] := by
    by_contra left
    have notHere := taken.first [] body rfl left
    rw [← taken.split, here] at notHere
    cases notHere
  subst nothing
  obtain ⟨offset, rest⟩ := after
  obtain ⟨start, ahead⟩ := cursor
  have sameRest : ahead = rest := taken.split
  have sameOffset : offset = start := taken.offset
  exact ⟨rfl, by rw [sameRest, sameOffset]⟩

theorem takenUntil_cons {stop : List Char → Bool} {c : Char} {rest body : List Char}
    {offset : Nat} (allowed : isAllowed c = true) (further : stop (c :: rest) = false) :
    TakenUntil stop ⟨offset, c :: rest⟩ body after ↔
      ∃ tail, body = c :: tail ∧ TakenUntil stop ⟨offset + 1, rest⟩ tail after := by
  constructor
  · intro taken
    cases body with
    | nil =>
        have notHere := (taken.stopped c rest taken.split.symm).2
        rw [further] at notHere
        cases notHere
    | cons head tail =>
        have split := taken.split
        simp only [List.cons_append, List.cons.injEq] at split
        obtain ⟨rfl, split⟩ := split
        refine ⟨tail, rfl, split, ?_, fun d member =>
          taken.allowed d (List.mem_cons_of_mem _ member), fun before ahead whole left => ?_,
          taken.stopped⟩
        · have offset := taken.offset
          simp only [List.length_cons] at offset ⊢
          omega
        · exact taken.first (c :: before) ahead (by rw [whole, List.cons_append]) left
  · rintro ⟨tail, rfl, taken⟩
    have split := taken.split
    simp only at split
    refine ⟨by rw [List.cons_append, ← split], ?_, ?_, ?_, taken.stopped⟩
    · have offset := taken.offset
      simp only [List.length_cons] at offset ⊢
      omega
    · intro d member
      rcases List.mem_cons.mp member with rfl | later
      · exact allowed
      · exact taken.allowed d later
    · intro before ahead whole left
      cases before with
      | nil =>
          rw [List.nil_append] at whole
          rw [← whole, List.cons_append, ← split, further]
      | cons head before =>
          simp only [List.cons_append, List.cons.injEq] at whole
          exact taken.first before ahead whole.2 left

/-- Whether it is taken or stopped at, the first character is looked at. -/
theorem TakenUntil.allowed_head {stop : List Char → Bool} {offset : Nat} {c : Char}
    {rest body : List Char} (done : TakenUntil stop ⟨offset, c :: rest⟩ body after) :
    isAllowed c = true := by
  cases body with
  | nil => exact (done.stopped c rest done.split.symm).1
  | cons head tail =>
      have split := done.split
      simp only [List.cons_append, List.cons.injEq] at split
      exact done.allowed c (by rw [split.1]; exact List.mem_cons_self)

theorem takeUntilFrom_eq_ok (stop : List Char → Bool) (ahead taken : List Char) (offset : Nat)
    (result : List Char) :
    takeUntilFrom stop taken offset ahead = .ok (result, after) ↔
      ∃ body, result = taken.reverse ++ body ∧ TakenUntil stop ⟨offset, ahead⟩ body after := by
  induction ahead generalizing taken offset with
  | nil =>
      simp only [takeUntilFrom, Except.ok.injEq, Prod.mk.injEq]
      constructor
      · rintro ⟨rfl, rfl⟩
        exact ⟨[], (List.append_nil _).symm, .nothing _ fun c rest none => by cases none⟩
      · rintro ⟨body, rfl, done⟩
        obtain ⟨rfl, left⟩ := List.append_eq_nil_iff.mp done.split.symm
        obtain ⟨place, rest⟩ := after
        cases left
        exact ⟨(List.append_nil _).symm, congrArg (Cursor.mk · []) done.offset.symm⟩
  | cons c rest ih =>
      rw [takeUntilFrom]
      by_cases allowed : isAllowed c = false
      · rw [if_pos allowed]
        constructor
        · intro failed
          cases failed
        · rintro ⟨body, _, done⟩
          rw [done.allowed_head] at allowed
          cases allowed
      · have passes : isAllowed c = true := Bool.not_eq_false _ ▸ allowed
        rw [if_neg allowed]
        by_cases here : stop (c :: rest) = true
        · rw [if_pos here]
          simp only [Except.ok.injEq, Prod.mk.injEq]
          constructor
          · rintro ⟨rfl, rfl⟩
            refine ⟨[], (List.append_nil _).symm, .nothing _ fun d tail same => ?_⟩
            cases same
            exact ⟨passes, here⟩
          · rintro ⟨body, rfl, done⟩
            obtain ⟨rfl, rfl⟩ := done.eq_of_stop here
            exact ⟨(List.append_nil _).symm, rfl⟩
        · rw [if_neg here, ih]
          simp only [takenUntil_cons passes (Bool.not_eq_true _ ▸ here)]
          constructor
          · rintro ⟨tail, rfl, done⟩
            exact ⟨c :: tail, by simp, tail, rfl, done⟩
          · rintro ⟨body, rfl, tail, rfl, done⟩
            exact ⟨tail, by simp, done⟩

theorem takeUntil_eq_ok {stop : List Char → Bool} {body : List Char} :
    cursor.takeUntil stop = .ok (body, after) ↔ TakenUntil stop cursor body after := by
  rw [takeUntil, takeUntilFrom_eq_ok]
  simp

theorem takeUntil_suffix {stop : List Char → Bool} {body : List Char}
    (taken : cursor.takeUntil stop = .ok (body, after)) : after.rest <:+ cursor.rest := by
  rw [(takeUntil_eq_ok.mp taken).split]
  exact List.suffix_append body after.rest

/-- A stop is found at the same character if what is more makes no difference to it, and stops a run
that would go on with it. -/
theorem takeUntil_moved {stop : List Char → Bool} {body : List Char}
    (taken : cursor.takeUntil stop = .ok (body, after))
    (stable : ∀ ahead, ahead ≠ [] → after.rest <:+ ahead → stop (ahead ++ more) = stop ahead)
    (ends : after.rest = [] → ∀ c rest, more = c :: rest →
      isAllowed c = true ∧ stop (c :: rest) = true) :
    (cursor.moved shift more).takeUntil stop = .ok (body, after.moved shift more) := by
  have done := takeUntil_eq_ok.mp taken
  refine takeUntil_eq_ok.mpr ⟨?_, ?_, done.allowed, fun before ahead whole left => ?_, ?_⟩
  · simp only [moved_rest]
    rw [done.split, List.append_assoc]
  · simp only [moved_offset, done.offset]
    omega
  · rw [moved_rest, ← List.append_assoc, stable (ahead ++ after.rest) (by simp [left])
      (List.suffix_append _ _)]
    exact done.first before ahead whole left
  · intro c rest same
    rw [moved_rest] at same
    cases left : after.rest with
    | nil =>
        rw [left, List.nil_append] at same
        exact ends left c rest same
    | cons d tail =>
        rw [left, List.cons_append] at same
        cases same
        have here := done.stopped c tail left
        refine ⟨here.1, ?_⟩
        rw [← List.cons_append, stable (c :: tail) (by simp) (by rw [left])]
        exact here.2

/-- A text is found within what was ahead if there is room for it. -/
theorem isPrefixOf_append {text ahead : List Char} (enough : text.length ≤ ahead.length) :
    text.isPrefixOf (ahead ++ more) = text.isPrefixOf ahead := by
  refine Bool.eq_iff_iff.mpr ?_
  rw [List.isPrefixOf_iff_prefix, List.isPrefixOf_iff_prefix]
  constructor
  · intro within
    exact List.prefix_of_prefix_length_le within (List.prefix_append _ _) enough
  · intro within
    exact within.trans (List.prefix_append _ _)

/-- What is taken up to a text that is then there. -/
theorem takeUntil_text_moved {text : String} {body : List Char}
    (taken : cursor.takeUntil (text.toList.isPrefixOf ·) = .ok (body, after))
    (found : text.toList <+: after.rest) (nonempty : text.toList ≠ []) :
    (cursor.moved shift more).takeUntil (text.toList.isPrefixOf ·) =
      .ok (body, after.moved shift more) := by
  refine takeUntil_moved shift more taken (fun ahead _ within => ?_) fun nothing => ?_
  · exact isPrefixOf_append more (found.length_le.trans within.length_le)
  · rw [nothing] at found
    exact absurd (List.prefix_nil.mp found) nonempty

/-! ## Names -/

theorem name_eq_ok {name : String} :
    cursor.name = .ok (name, after) ↔
      (∃ c rest, cursor.rest = c :: rest ∧ isNameStart c = true) ∧
        (cursor.takeWhile isNamePart).1 ≠ [] ∧
        name = String.ofList (cursor.takeWhile isNamePart).1 ∧
        after = (cursor.takeWhile isNamePart).2 := by
  unfold Cursor.name optionalName
  cases ahead : cursor.rest with
  | nil => simp
  | cons c rest =>
      by_cases starts : isNameStart c = true
      · obtain ⟨chars, left⟩ := cursor.takeWhile isNamePart
        cases chars with
        | nil => simp [starts]
        | cons first others =>
            simp only [starts, if_true, Except.ok.injEq, Prod.mk.injEq]
            constructor
            · rintro ⟨rfl, rfl⟩
              exact ⟨⟨c, rest, rfl, starts⟩, List.cons_ne_nil _ _, rfl, rfl⟩
            · rintro ⟨_, _, rfl, rfl⟩
              exact ⟨rfl, rfl⟩
      · simp [starts]

theorem name_moved {name : String} (taken : cursor.name = .ok (name, after))
    (ends : Ends more isNamePart after) :
    (cursor.moved shift more).name = .ok (name, after.moved shift more) := by
  obtain ⟨⟨c, rest, ahead, starts⟩, nonempty, rfl, rfl⟩ := name_eq_ok.mp taken
  refine name_eq_ok.mpr ⟨⟨c, rest ++ more, by simp [ahead], starts⟩, ?_⟩
  rw [takeWhile_moved shift more ends]
  exact ⟨nonempty, rfl, rfl⟩

theorem name_suffix {name : String} (taken : cursor.name = .ok (name, after)) :
    after.rest <:+ cursor.rest := by
  obtain ⟨_, _, _, rfl⟩ := name_eq_ok.mp taken
  exact takeWhile_suffix cursor isNamePart

theorem qualifiedName_after {name : QualifiedName}
    (taken : cursor.qualifiedName = .ok (name, after)) :
    after = (cursor.takeWhile isNamePart).2 := by
  unfold qualifiedName at taken
  simp only at taken
  repeat' split at taken
  all_goals cases taken
  all_goals rfl

theorem qualifiedName_moved {name : QualifiedName}
    (taken : cursor.qualifiedName = .ok (name, after)) (ends : Ends more isNamePart after) :
    (cursor.moved shift more).qualifiedName = .ok (name, after.moved shift more) := by
  have left := qualifiedName_after taken
  subst left
  unfold qualifiedName at taken ⊢
  rw [takeWhile_moved shift more ends]
  simp only at taken ⊢
  repeat' split at taken
  all_goals cases taken
  · simp [*]
  · simp [*]

theorem qualifiedName_suffix {name : QualifiedName}
    (taken : cursor.qualifiedName = .ok (name, after)) : after.rest <:+ cursor.rest := by
  rw [qualifiedName_after taken]
  exact takeWhile_suffix cursor isNamePart

end Cursor

end ContainerReplay.Markup
