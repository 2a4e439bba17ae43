import Mathlib.Data.List.Basic
import Mathlib.Data.List.TakeWhile
import ContainerReplay.Classes.Name

/-!
# Shapes of texts

What a text is without the blanks around it, what is left when one character is dropped from its ends,
and which texts are names of classes, each told by how the text is put together.
-/

set_option autoImplicit false

namespace ContainerReplay

namespace Text

/-! ## What stands between blanks -/

/-- A text is what is left of a value without the blanks around it, and something is left. -/
structure Framed (value text : String) : Prop where
  blanks : ∃ before after, value.toList = before ++ (text.toList ++ after) ∧
    (∀ c ∈ before, isBlank c = true) ∧ ∀ c ∈ after, isBlank c = true
  front : ∀ c ∈ text.toList.head?, isBlank c = false
  back : ∀ c ∈ text.toList.getLast?, isBlank c = false
  nonempty : text.toList ≠ []

theorem dropBlanks_append {blanks text : List Char} (blank : ∀ c ∈ blanks, isBlank c = true)
    (front : ∀ c ∈ text.head?, isBlank c = false) :
    (blanks ++ text).dropWhile isBlank = text := by
  have kept : text.dropWhile isBlank = text := by
    cases text with
    | nil => rfl
    | cons first rest => rw [List.dropWhile_cons_of_neg (by simp [front first rfl])]
  rw [List.dropWhile_append_of_pos blank, kept]

theorem trimmed_framed {before middle after : List Char} (ahead : ∀ c ∈ before, isBlank c = true)
    (behind : ∀ c ∈ after, isBlank c = true) (front : ∀ c ∈ middle.head?, isBlank c = false)
    (back : ∀ c ∈ middle.getLast?, isBlank c = false) (nonempty : middle ≠ []) :
    trimmed (before ++ (middle ++ after)) = middle := by
  have first : ∀ c ∈ (middle ++ after).head?, isBlank c = false := by
    rwa [List.head?_append_of_ne_nil _ nonempty]
  have last : ∀ c ∈ middle.reverse.head?, isBlank c = false := by
    rwa [List.head?_reverse]
  rw [trimmed, dropBlanks_append ahead first, List.reverse_append,
    dropBlanks_append (by simpa using behind) last, List.reverse_reverse]

/-- What is left behind the blanks in front is the trimmed text and the blanks at the end. -/
theorem exists_dropWhile_eq (cs : List Char) :
    ∃ after, cs.dropWhile isBlank = trimmed cs ++ after ∧ ∀ c ∈ after, isBlank c = true := by
  refine ⟨((cs.dropWhile isBlank).reverse.takeWhile isBlank).reverse, ?_, fun c member => ?_⟩
  · rw [trimmed, ← List.reverse_append, List.takeWhile_append_dropWhile, List.reverse_reverse]
  · exact List.mem_takeWhile_imp (List.mem_reverse.mp member)

theorem visible_of_head?_dropWhile {cs : List Char} {c : Char}
    (first : c ∈ (cs.dropWhile isBlank).head?) : isBlank c = false := by
  have front := List.head?_dropWhile_not isBlank cs
  rw [Option.mem_def.mp first] at front
  simpa using front

theorem framed_trimmed {value text : String} (spelled : trimmed value.toList = text.toList)
    (nonempty : text.toList ≠ []) : Framed value text := by
  obtain ⟨after, left, behind⟩ := exists_dropWhile_eq value.toList
  rw [spelled] at left
  constructor
  case blanks =>
    refine ⟨value.toList.takeWhile isBlank, after, ?_, fun c => List.mem_takeWhile_imp, behind⟩
    rw [← left, List.takeWhile_append_dropWhile]
  case front =>
    intro c first
    have atFront : c ∈ (value.toList.dropWhile isBlank).head? := by
      rwa [left, List.head?_append_of_ne_nil _ nonempty]
    exact visible_of_head?_dropWhile atFront
  case back =>
    intro c last
    have atEnd : c ∈ ((value.toList.dropWhile isBlank).reverse.dropWhile isBlank).head? := by
      rwa [← List.getLast?_reverse, ← trimmed, spelled]
    exact visible_of_head?_dropWhile atEnd
  case nonempty => exact nonempty

theorem nonBlank?_eq_some_iff {value text : String} :
    nonBlank? value = some text ↔ Framed value text := by
  unfold nonBlank?
  constructor
  · intro given
    split at given
    · cases given
    · rename_i nonempty
      cases given
      exact framed_trimmed String.toList_ofList.symm (by simpa using nonempty)
  · intro framed
    obtain ⟨before, after, divided, ahead, behind⟩ := framed.blanks
    have spelled : trimmed value.toList = text.toList := by
      rw [divided, trimmed_framed ahead behind framed.front framed.back framed.nonempty]
    rw [spelled]
    split
    · exact absurd ‹_› framed.nonempty
    · rw [String.ofList_toList]

/-! ## Dropping one character from the ends -/

section Ends

variable {unwanted : Char}

theorem eq_replicate_append (unwanted : Char) (cs : List Char) :
    cs = List.replicate (cs.takeWhile (· == unwanted)).length unwanted ++
      dropLeading unwanted cs := by
  have same : ∀ c ∈ cs.takeWhile (· == unwanted), c = unwanted := by
    intro c member
    simpa using List.mem_takeWhile_imp member
  rw [← List.eq_replicate_of_mem same]
  exact List.takeWhile_append_dropWhile.symm

theorem head?_dropLeading (unwanted : Char) (cs : List Char) :
    (dropLeading unwanted cs).head? ≠ some unwanted := by
  intro atFront
  have front := List.head?_dropWhile_not (· == unwanted) cs
  rw [dropLeading] at atFront
  simp [atFront] at front

theorem dropLeading_replicate (count : Nat) {cs : List Char}
    (front : cs.head? ≠ some unwanted) :
    dropLeading unwanted (List.replicate count unwanted ++ cs) = cs := by
  induction count with
  | zero =>
      cases cs with
      | nil => rfl
      | cons c rest =>
          have other : c ≠ unwanted := by simpa using front
          simp [dropLeading, other]
  | succ count ih => simpa [dropLeading, List.replicate_succ] using ih

theorem exists_trailing (unwanted : Char) (cs : List Char) :
    ∃ count, cs = dropTrailing unwanted cs ++ List.replicate count unwanted := by
  have turned := congrArg List.reverse (eq_replicate_append unwanted cs.reverse)
  rw [List.reverse_reverse, List.reverse_append, List.reverse_replicate] at turned
  exact ⟨_, turned⟩

theorem getLast?_dropTrailing (unwanted : Char) (cs : List Char) :
    (dropTrailing unwanted cs).getLast? ≠ some unwanted := by
  rw [dropTrailing, List.getLast?_reverse]
  exact head?_dropLeading unwanted cs.reverse

theorem dropTrailing_replicate (count : Nat) {cs : List Char}
    (back : cs.getLast? ≠ some unwanted) :
    dropTrailing unwanted (cs ++ List.replicate count unwanted) = cs := by
  have front : cs.reverse.head? ≠ some unwanted := by rwa [List.head?_reverse]
  rw [dropTrailing, List.reverse_append, List.reverse_replicate, dropLeading_replicate count front,
    List.reverse_reverse]

/-- What is left when one character was dropped from both ends, unless it is nothing. -/
theorem dropEnds_eq_iff {cs middle : List Char} (nonempty : middle ≠ []) :
    dropTrailing unwanted (dropLeading unwanted cs) = middle ↔
      (∃ before behind,
        cs = List.replicate before unwanted ++ (middle ++ List.replicate behind unwanted)) ∧
      middle.head? ≠ some unwanted ∧ middle.getLast? ≠ some unwanted := by
  constructor
  · rintro rfl
    obtain ⟨behind, back⟩ := exists_trailing unwanted (dropLeading unwanted cs)
    have divided := eq_replicate_append unwanted cs
    rw [back] at divided
    refine ⟨⟨_, behind, divided⟩, ?_, getLast?_dropTrailing unwanted _⟩
    have first := head?_dropLeading unwanted cs
    rwa [back, List.head?_append_of_ne_nil _ nonempty] at first
  · rintro ⟨⟨before, behind, rfl⟩, front, back⟩
    have first : (middle ++ List.replicate behind unwanted).head? ≠ some unwanted := by
      rwa [List.head?_append_of_ne_nil _ nonempty]
    rw [dropLeading_replicate before first, dropTrailing_replicate behind back]

end Ends

end Text

/-! ## Names of classes -/

namespace Text

theorem splitAt_of_not_mem {separator : Char} {cs : List Char} (absent : separator ∉ cs) :
    splitAt separator cs = [cs] := by
  induction cs with
  | nil => rfl
  | cons c rest ih =>
      rw [List.mem_cons, not_or] at absent
      rw [splitAt, if_neg (Ne.symm absent.1), ih absent.2]

theorem splitAt_append {separator : Char} {piece : List Char} (absent : separator ∉ piece)
    (rest : List Char) :
    splitAt separator (piece ++ separator :: rest) = piece :: splitAt separator rest := by
  induction piece with
  | nil => simp [splitAt]
  | cons c later ih =>
      rw [List.mem_cons, not_or] at absent
      rw [List.cons_append, splitAt, if_neg (Ne.symm absent.1), ih absent.2]

/-- A text has one piece, or its first piece ends where the separator is found first. -/
theorem splitAt_cases (separator : Char) (cs : List Char) :
    separator ∉ cs ∨ ∃ piece rest, separator ∉ piece ∧ cs = piece ++ separator :: rest := by
  by_cases present : separator ∈ cs
  · obtain ⟨piece, rest, divided, absent⟩ := List.eq_append_cons_of_mem present
    exact Or.inr ⟨piece, rest, absent, divided⟩
  · exact Or.inl present

end Text

def Letter (c : Char) : Prop :=
  ('A' ≤ c ∧ c ≤ 'Z') ∨ ('a' ≤ c ∧ c ≤ 'z') ∨ c = '_' ∨ c = '$'

/-- Letters and digits, of which the first is no digit. -/
inductive Identifier : List Char → Prop where
  | spelled {first : Char} {rest : List Char} (begins : Letter first)
      (goesOn : ∀ c ∈ rest, Letter c ∨ ('0' ≤ c ∧ c ≤ '9')) : Identifier (first :: rest)

/-- One identifier, or several with a dot between neighbours. -/
inductive Dotted : List Char → Prop where
  | single {cs : List Char} (name : Identifier cs) : Dotted cs
  | joined {cs rest : List Char} (name : Identifier cs) (behind : Dotted rest) :
      Dotted (cs ++ '.' :: rest)

theorem isIdentifierStart_iff {c : Char} : isIdentifierStart c = true ↔ Letter c := by
  simp [isIdentifierStart, Letter, or_assoc]

theorem isIdentifier_iff {cs : List Char} : isIdentifier cs = true ↔ Identifier cs := by
  constructor
  · intro valid
    cases cs with
    | nil => cases valid
    | cons first rest =>
        simp only [isIdentifier, isIdentifierPart, Bool.and_eq_true, List.all_eq_true,
          Bool.or_eq_true, isIdentifierStart_iff, decide_eq_true_eq] at valid
        exact .spelled valid.1 valid.2
  · rintro ⟨begins, goesOn⟩
    simp only [isIdentifier, isIdentifierPart, Bool.and_eq_true, List.all_eq_true,
      Bool.or_eq_true, isIdentifierStart_iff, decide_eq_true_eq]
    exact ⟨begins, goesOn⟩

theorem Identifier.letters {cs : List Char} (name : Identifier cs) :
    ∀ c ∈ cs, Letter c ∨ ('0' ≤ c ∧ c ≤ '9') := by
  obtain ⟨begins, goesOn⟩ := name
  intro c member
  rcases List.mem_cons.mp member with rfl | later
  · exact Or.inl begins
  · exact goesOn c later

theorem Identifier.noDot {cs : List Char} (name : Identifier cs) : '.' ∉ cs := by
  intro member
  have noPart : ¬ (Letter '.' ∨ ('0' ≤ '.' ∧ '.' ≤ '9')) := by
    unfold Letter
    decide
  exact noPart (name.letters '.' member)

theorem isClassName_iff {name : String} : isClassName name = true ↔ Dotted name.toList := by
  unfold isClassName
  generalize name.toList = cs
  constructor
  · intro valid
    induction length : cs.length using Nat.strongRecOn generalizing cs with
    | _ size ih =>
        rcases Text.splitAt_cases '.' cs with absent | ⟨piece, rest, absent, rfl⟩
        · rw [Text.splitAt_of_not_mem absent] at valid
          exact .single (isIdentifier_iff.mp (by simpa using valid))
        · rw [Text.splitAt_append absent, List.all_cons, Bool.and_eq_true] at valid
          refine .joined (isIdentifier_iff.mp valid.1) (ih _ ?_ rest valid.2 rfl)
          simp only [List.length_append, List.length_cons] at length
          omega
  · intro dotted
    induction dotted with
    | single name =>
        rw [Text.splitAt_of_not_mem name.noDot, List.all_cons, isIdentifier_iff.mpr name]
        rfl
    | joined name behind ih =>
        rw [Text.splitAt_append name.noDot, List.all_cons, isIdentifier_iff.mpr name, ih]
        rfl

end ContainerReplay
