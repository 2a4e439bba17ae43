import ContainerReplay.Driver.Draft
import ContainerReplay.Proofs.QuotedTexts
import Std.Data.String.ToInt

/-!
# Written argument lists

What a list of arguments is written as determines the list, and it is one line.  The first character
of a written value tells its form, a quoted text ends at its closing quote whatever it holds, and all
other values end where a comma or nothing follows.
-/

set_option autoImplicit false

namespace ContainerReplay

/-- The name of a local: a dollar sign, the letter r and decimal digits. -/
def IsLocalName (name : String) : Prop :=
  ∃ digits : List Char, name.toList = '$' :: 'r' :: digits ∧ ∀ c ∈ digits, c.isDigit = true

theorem Draft.isLocalName_localName (number : Nat) : IsLocalName (localName number) := by
  have spelled : localName number = "$r" ++ Text.decimal number := rfl
  refine ⟨Nat.toDigits 10 number, by simp [spelled, Text.decimal], ?_⟩
  intro c member
  exact Nat.isDigit_of_mem_toDigits (by decide) (by decide) member

/-- Whatever locals stand in a list of arguments have names of locals. -/
def LocalsNamed (arguments : List Value) : Prop :=
  ∀ name, .localVar name ∈ arguments → IsLocalName name

theorem LocalsNamed.tail {value : Value} {arguments : List Value}
    (named : LocalsNamed (value :: arguments)) : LocalsNamed arguments := by
  intro name member
  exact named name (List.mem_cons_of_mem value member)

theorem LocalsNamed.head {value : Value} {arguments : List Value}
    (named : LocalsNamed (value :: arguments)) : LocalsNamed [value] := by
  intro name member
  exact named name (List.mem_singleton.mp member ▸ List.mem_cons_self)

namespace Value

/-! ## What the first character tells -/

inductive Form where
  | localVar
  | text
  | integer
  | truth
  | null
  | resource
  deriving DecidableEq

def form : Value → Form
  | localVar _ => .localVar
  | text _ => .text
  | integer _ => .integer
  | truth _ => .truth
  | null => .null
  | resource _ => .resource

/-- The form of a value whose written form begins with a character. -/
def formOf (first : Char) : Form :=
  if first = '$' then .localVar
  else if first = '"' then .text
  else if first = 't' ∨ first = 'f' then .truth
  else if first = 'n' then .null
  else if first = 'l' then .resource
  else .integer

theorem formOf_numeral {c : Char} (numeral : Text.IsNumeral c) : formOf c = .integer := by
  have dollar : c ≠ '$' := numeral.ne (by decide) (by decide)
  have quote : c ≠ '"' := numeral.ne (by decide) (by decide)
  have true' : c ≠ 't' := numeral.ne (by decide) (by decide)
  have false' : c ≠ 'f' := numeral.ne (by decide) (by decide)
  have null : c ≠ 'n' := numeral.ne (by decide) (by decide)
  have lookup : c ≠ 'l' := numeral.ne (by decide) (by decide)
  simp [formOf, dollar, quote, true', false', null, lookup]

theorem written_resource (name : String) :
    (resource name).written.toList =
      "lookup(".toList ++ ((Text.quoted name).toList ++ [')']) := by
  have spelled : (resource name).written = "lookup(" ++ Text.quoted name ++ ")" := rfl
  simp [spelled]

theorem written_begins {value : Value} (named : LocalsNamed [value]) :
    ∃ first rest, value.written.toList = first :: rest ∧ formOf first = value.form := by
  cases value with
  | localVar name =>
      obtain ⟨digits, spelled, -⟩ := named name (List.mem_singleton_self _)
      exact ⟨'$', 'r' :: digits, spelled, rfl⟩
  | text content =>
      exact ⟨'"', Text.escaped content.toList ++ ['"'], by simp [written, Text.quoted], rfl⟩
  | integer number =>
      obtain ⟨nonempty, numerals⟩ := Text.numerals_integer number
      obtain ⟨first, rest, spelled⟩ := List.exists_cons_of_ne_nil nonempty
      exact ⟨first, rest, spelled, formOf_numeral (numerals first (spelled ▸ List.mem_cons_self))⟩
  | truth value =>
      cases value with
      | true => exact ⟨'t', ['r', 'u', 'e'], rfl, rfl⟩
      | false => exact ⟨'f', ['a', 'l', 's', 'e'], rfl, rfl⟩
  | null => exact ⟨'n', ['u', 'l', 'l'], rfl, rfl⟩
  | resource name => exact ⟨'l', _, written_resource name, rfl⟩

theorem written_ne_nil {value : Value} (named : LocalsNamed [value]) :
    value.written.toList ≠ [] := by
  obtain ⟨first, rest, spelled, -⟩ := written_begins named
  simp [spelled]

/-! ## Where a value ends -/

/-- Behind an argument the list ends, or a comma follows. -/
def Behind (rest : List Char) : Prop :=
  rest = [] ∨ ∃ later, rest = ',' :: later

theorem Behind.takeWhile {rest : List Char} (behind : Behind rest) :
    rest.takeWhile (· != ',') = [] := by
  rcases behind with rfl | ⟨later, rfl⟩
  · rfl
  · simp

theorem word_append_inj {word word' rest rest' : List Char} (whole : ',' ∉ word)
    (whole' : ',' ∉ word') (behind : Behind rest) (behind' : Behind rest')
    (same : word ++ rest = word' ++ rest') : word = word' ∧ rest = rest' := by
  have uncut : ∀ {word rest : List Char}, ',' ∉ word → Behind rest →
      (word ++ rest).takeWhile (· != ',') = word := by
    intro word rest whole behind
    have inside : ∀ c ∈ word, (c != ',') = true := by
      intro c member
      exact bne_iff_ne.mpr fun comma => whole (comma ▸ member)
    rw [List.takeWhile_append_of_pos inside, behind.takeWhile, List.append_nil]
  have words : word = word' := by
    rw [← uncut whole behind, same, uncut whole' behind']
  subst words
  exact ⟨rfl, List.append_cancel_left same⟩

theorem IsLocalName.whole {name : String} (named : IsLocalName name) : ',' ∉ name.toList := by
  obtain ⟨digits, spelled, decimal⟩ := named
  rw [spelled]
  intro comma
  have digit := decimal ',' (by simpa using comma)
  revert digit
  decide

theorem integer_whole (number : Int) : ',' ∉ (toString number).toList := by
  intro comma
  have other : ',' ≠ ',' :=
    ((Text.numerals_integer number).2 ',' comma).ne (by decide) (by decide)
  exact other rfl

/-- Where one value ends and what value it is, is told by the text alone. -/
theorem written_append_inj {value value' : Value} {rest rest' : List Char}
    (named : LocalsNamed [value]) (named' : LocalsNamed [value'])
    (behind : Behind rest) (behind' : Behind rest')
    (same : value.written.toList ++ rest = value'.written.toList ++ rest') :
    value = value' ∧ rest = rest' := by
  have forms : value.form = value'.form := by
    obtain ⟨first, more, spelled, formed⟩ := written_begins named
    obtain ⟨first', more', spelled', formed'⟩ := written_begins named'
    rw [spelled, spelled', List.cons_append, List.cons_append, List.cons.injEq] at same
    rw [← formed, ← formed', same.1]
  -- so both values are of one form, and each form tells where it ends
  cases value with
  | localVar name =>
      cases value' <;> cases forms
      rename_i name'
      have local' := named' name' (List.mem_singleton_self _)
      obtain ⟨names, later⟩ := word_append_inj
        (IsLocalName.whole (named name (List.mem_singleton_self _))) (IsLocalName.whole local')
        behind behind' same
      exact ⟨congrArg localVar (String.toList_inj.mp names), later⟩
  | text content =>
      cases value' <;> cases forms
      obtain ⟨texts, later⟩ := Text.quoted_append_inj same
      exact ⟨congrArg text texts, later⟩
  | integer number =>
      cases value' <;> cases forms
      rename_i number'
      obtain ⟨numerals, later⟩ := word_append_inj (integer_whole number) (integer_whole number')
        behind behind' same
      have numbers : number.repr = number'.repr := by
        rw [← Int.toString_eq_repr, ← Int.toString_eq_repr]
        exact String.toList_inj.mp numerals
      exact ⟨congrArg integer (Int.repr_inj.mp numbers), later⟩
  | truth value =>
      cases value' <;> cases forms
      rename_i value'
      cases value <;> cases value' <;> simp_all [written]
  | null =>
      cases value' <;> cases forms
      exact ⟨rfl, List.append_cancel_left same⟩
  | resource name =>
      cases value' <;> cases forms
      rename_i name'
      have quotes : (Text.quoted name).toList ++ ')' :: rest =
          (Text.quoted name').toList ++ ')' :: rest' := by
        simpa [written_resource] using same
      obtain ⟨names, later⟩ := Text.quoted_append_inj quotes
      exact ⟨congrArg resource names, (List.cons.inj later).2⟩

theorem oneLine_written {value : Value} (named : LocalsNamed [value]) :
    Text.OneLine value.written.toList := by
  cases value with
  | localVar name =>
      obtain ⟨digits, spelled, decimal⟩ := named name (List.mem_singleton_self _)
      have number : Text.OneLine digits := by
        intro c member
        have digit := decimal c member
        constructor
        · rintro rfl
          revert digit
          decide
        · rintro rfl
          revert digit
          decide
      have lead : Text.OneLine ['$', 'r'] := by decide
      rw [written, spelled]
      exact lead.append number
  | text content => exact Text.oneLine_quoted content
  | integer number =>
      intro c member
      have numeral := (Text.numerals_integer number).2 c member
      exact ⟨numeral.ne (by decide) (by decide), numeral.ne (by decide) (by decide)⟩
  | truth value =>
      cases value with
      | true => decide
      | false => decide
  | null => decide
  | resource name =>
      have lead : Text.OneLine "lookup(".toList := by decide
      rw [written_resource]
      exact lead.append ((Text.oneLine_quoted name).append (by decide))

end Value

/-! ## Lists -/

namespace Statement

/-- What is written behind an argument for those that follow it. -/
def continued : List Value → List Char
  | [] => []
  | value :: rest => ',' :: ' ' :: (writtenArguments (value :: rest)).toList

theorem behind_continued (arguments : List Value) : Value.Behind (continued arguments) := by
  cases arguments with
  | nil => exact Or.inl rfl
  | cons value rest => exact Or.inr ⟨_, rfl⟩

theorem writtenArguments_nil : (writtenArguments []).toList = [] := rfl

theorem writtenArguments_cons (value : Value) (rest : List Value) :
    (writtenArguments (value :: rest)).toList = value.written.toList ++ continued rest := by
  cases rest with
  | nil => simp [writtenArguments, continued]
  | cons next rest => simp [writtenArguments, continued, String.toList_intercalate]

theorem continued_inj {first second : List Value} (named : LocalsNamed first)
    (named' : LocalsNamed second) (same : continued first = continued second) :
    (writtenArguments first).toList = (writtenArguments second).toList := by
  cases first with
  | nil =>
      cases second with
      | nil => rfl
      | cons value rest => simp [continued] at same
  | cons value rest =>
      cases second with
      | nil => simp [continued] at same
      | cons value' rest' => simpa [continued] using same

theorem writtenArguments_inj {first : List Value} : ∀ {second : List Value},
    LocalsNamed first → LocalsNamed second →
      (writtenArguments first).toList = (writtenArguments second).toList → first = second := by
  induction first with
  | nil =>
      intro second _ named same
      cases second with
      | nil => rfl
      | cons value rest =>
          rw [writtenArguments_nil, writtenArguments_cons] at same
          exact absurd (List.append_eq_nil_iff.mp same.symm).1 (Value.written_ne_nil named.head)
  | cons value rest ih =>
      intro second named named' same
      cases second with
      | nil =>
          rw [writtenArguments_nil, writtenArguments_cons] at same
          exact absurd (List.append_eq_nil_iff.mp same).1 (Value.written_ne_nil named.head)
      | cons value' rest' =>
          rw [writtenArguments_cons, writtenArguments_cons] at same
          obtain ⟨rfl, later⟩ := Value.written_append_inj named.head named'.head
            (behind_continued rest) (behind_continued rest') same
          rw [ih named.tail named'.tail (continued_inj named.tail named'.tail later)]

theorem oneLine_writtenArguments {arguments : List Value} :
    LocalsNamed arguments → Text.OneLine (writtenArguments arguments).toList := by
  induction arguments with
  | nil =>
      intro _ c member
      cases member
  | cons value rest ih =>
      intro named
      have later : Text.OneLine (continued rest) := by
        cases rest with
        | nil => decide
        | cons next more =>
            have separator : Text.OneLine [',', ' '] := by decide
            exact separator.append (ih named.tail)
      rw [writtenArguments_cons]
      exact (Value.oneLine_written named.head).append later

/-- Two argument lists are written alike only if they are the same list, and the text has no line
feed and no carriage return, whatever the texts and the names of resources hold. -/
theorem writtenArguments_unambiguous {first second : List Value} (named : LocalsNamed first)
    (named' : LocalsNamed second) :
    (writtenArguments first = writtenArguments second ↔ first = second) ∧
      ∀ c ∈ (writtenArguments first).toList, c ≠ '\n' ∧ c ≠ '\r' := by
  refine ⟨⟨fun same => ?_, congrArg writtenArguments⟩, oneLine_writtenArguments named⟩
  exact writtenArguments_inj named named' (congrArg String.toList same)

/-- A separator inside a text is not taken for one between two texts, and a line feed is escaped. -/
theorem writtenArguments_separator_quoted :
    let two : List Value := [.localVar "$r0", .text "a", .text "b"]
    let one : List Value := [.localVar "$r0", .text "a\", \"b\n"]
    LocalsNamed two ∧ LocalsNamed one ∧ writtenArguments one ≠ writtenArguments two ∧
      ∀ c ∈ (writtenArguments one).toList, c ≠ '\n' ∧ c ≠ '\r' := by
  intro two one
  have first : IsLocalName "$r0" := Draft.isLocalName_localName 0
  have namedTwo : LocalsNamed two := by
    intro name member
    simp only [two, List.mem_cons, Value.localVar.injEq, reduceCtorEq, List.not_mem_nil,
      or_false] at member
    exact member ▸ first
  have namedOne : LocalsNamed one := by
    intro name member
    simp only [one, List.mem_cons, Value.localVar.injEq, reduceCtorEq, List.not_mem_nil,
      or_false] at member
    exact member ▸ first
  obtain ⟨unambiguous, oneLine⟩ := writtenArguments_unambiguous namedOne namedTwo
  refine ⟨namedTwo, namedOne, fun same => ?_, oneLine⟩
  have lists := unambiguous.mp same
  simp [one, two] at lists

end Statement

end ContainerReplay
