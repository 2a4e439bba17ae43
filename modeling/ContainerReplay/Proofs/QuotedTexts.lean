import ContainerReplay.Json.Basic
import ContainerReplay.Json.Reader
import Mathlib.Data.List.Basic
import Mathlib.Tactic.SplitIfs

/-!
# Quoted texts and numerals

A text is quoted in listings and in data, with different escapes.  Both ways it can be told from what
follows its closing quote, and the quoted form of a listing keeps to one line.
-/

set_option autoImplicit false

namespace ContainerReplay

/-! ## Hexadecimal digits -/

namespace Json

theorem hexValue?_digitChar : ∀ digit < 16, hexValue? (Nat.digitChar digit) = some digit := by
  decide

theorem hexNumber?_append (front back : List Char) : ∀ value,
    hexNumber? value (front ++ back) =
      (hexNumber? value front).bind fun reached => hexNumber? reached back := by
  induction front with
  | nil =>
      intro value
      rfl
  | cons c front ih =>
      intro value
      rw [List.cons_append, hexNumber?, hexNumber?]
      cases hexValue? c with
      | none => rfl
      | some digit => exact ih (value * 16 + digit)

theorem hexNumber?_toDigits (number : Nat) :
    hexNumber? 0 (Nat.toDigits 16 number) = some number := by
  induction number using Nat.strongRecOn with
  | ind number ih =>
      rw [Nat.toDigits_eq_if (by decide)]
      split
      · rename_i small
        simp [hexNumber?, hexValue?_digitChar number small]
      · rename_i large
        have last : number % 16 < 16 := Nat.mod_lt number (by decide)
        have whole : number / 16 * 16 + number % 16 = number := by omega
        rw [hexNumber?_append, ih (number / 16) (by omega)]
        simp [hexNumber?, hexValue?_digitChar _ last, whole]

theorem hexValue?_of_hexNumber? {cs : List Char} {number : Nat} : ∀ {value : Nat},
    hexNumber? value cs = some number → ∀ c ∈ cs, hexValue? c ≠ none := by
  induction cs with
  | nil =>
      intro value _ c member
      cases member
  | cons first rest ih =>
      intro value read c member
      rw [hexNumber?] at read
      cases known : hexValue? first with
      | none => simp [known] at read
      | some digit =>
          rw [known] at read
          rcases List.mem_cons.mp member with rfl | later
          · simp [known]
          · exact ih read c later

end Json

/-! ## Listings -/

namespace Text

theorem ne_of_mem_hexadecimal {number : Nat} {c other : Char} (member : c ∈ hexadecimal number)
    (noDigit : Json.hexValue? other = none) : c ≠ other := by
  rintro rfl
  exact Json.hexValue?_of_hexNumber? (Json.hexNumber?_toDigits number) c member noDigit

/-- The character that a mark behind a backslash stands for. -/
def meaning? : Char → Option Char
  | '0' => some '\x00'
  | 't' => some '\t'
  | 'r' => some '\r'
  | 'n' => some '\n'
  | '"' => some '"'
  | '\\' => some '\\'
  | _ => none

/-- The character at the front of an escaped text, and what is left of the text. -/
def unescape? : List Char → Option (Char × List Char)
  | [] => none
  | '\\' :: 'u' :: '\x7b' :: rest =>
      (Json.hexNumber? 0 (rest.takeWhile (· != '\x7d'))).map fun number =>
        (Char.ofNat number, (rest.dropWhile (· != '\x7d')).tail)
  | '\\' :: mark :: rest => (meaning? mark).map fun c => (c, rest)
  | c :: rest => some (c, rest)

theorem unescape?_escapeChar (c : Char) (rest : List Char) :
    unescape? (escapeChar c ++ rest) = some (c, rest) := by
  unfold escapeChar
  split
  · subst c; rfl
  split
  · subst c; rfl
  split
  · subst c; rfl
  split
  · subst c; rfl
  split
  · subst c; rfl
  split
  · subst c; rfl
  split
  · -- the number ends at the closing brace, which is no digit
    have inside : ∀ digit ∈ hexadecimal c.toNat, (digit != '\x7d') = true := fun digit member =>
      bne_iff_ne.mpr (ne_of_mem_hexadecimal member (by decide))
    have digits : (hexadecimal c.toNat ++ '\x7d' :: rest).takeWhile (· != '\x7d') =
        hexadecimal c.toNat := by
      simp [List.takeWhile_append_of_pos inside]
    have behind : (hexadecimal c.toNat ++ '\x7d' :: rest).dropWhile (· != '\x7d') =
        '\x7d' :: rest := by
      simp [List.dropWhile_append_of_pos inside]
    have number : Json.hexNumber? 0 (hexadecimal c.toNat) = some c.toNat :=
      Json.hexNumber?_toDigits c.toNat
    simp [unescape?, digits, behind, number]
  · rename_i plain _
    simp [unescape?, plain]

theorem escapeChar_append_inj {c d : Char} {rest rest' : List Char}
    (same : escapeChar c ++ rest = escapeChar d ++ rest') : c = d ∧ rest = rest' := by
  have read := congrArg unescape? same
  rw [unescape?_escapeChar, unescape?_escapeChar] at read
  simpa using read

theorem escapeChar_append_ne_quote {c : Char} {rest rest' : List Char} :
    escapeChar c ++ rest ≠ '"' :: rest' := by
  intro same
  have read := congrArg unescape? same
  rw [unescape?_escapeChar] at read
  have isQuote : c = '"' := by
    simpa [unescape?] using congrArg (Option.map Prod.fst) read
  subst c
  have front := congrArg List.head? same
  simp [escapeChar] at front

/-- The closing quote of an escaped text is found again, whatever the text holds. -/
theorem escaped_append_inj {cs : List Char} : ∀ {ds rest rest' : List Char},
    escaped cs ++ '"' :: rest = escaped ds ++ '"' :: rest' → cs = ds ∧ rest = rest' := by
  induction cs with
  | nil =>
      intro ds rest rest' same
      cases ds with
      | nil => exact ⟨rfl, by simpa using same⟩
      | cons d ds =>
          rw [escaped_nil, escaped_cons, List.append_assoc] at same
          exact absurd same.symm escapeChar_append_ne_quote
  | cons c cs ih =>
      intro ds rest rest' same
      cases ds with
      | nil =>
          rw [escaped_nil, escaped_cons, List.append_assoc] at same
          exact absurd same escapeChar_append_ne_quote
      | cons d ds =>
          rw [escaped_cons, escaped_cons, List.append_assoc, List.append_assoc] at same
          obtain ⟨rfl, later⟩ := escapeChar_append_inj same
          obtain ⟨rfl, behind⟩ := ih later
          exact ⟨rfl, behind⟩

def OneLine (cs : List Char) : Prop :=
  ∀ c ∈ cs, c ≠ '\n' ∧ c ≠ '\r'

instance (cs : List Char) : Decidable (OneLine cs) :=
  List.decidableBAll (fun c => c ≠ '\n' ∧ c ≠ '\r') cs

theorem OneLine.append {front back : List Char} (first : OneLine front) (second : OneLine back) :
    OneLine (front ++ back) := by
  intro c member
  rcases List.mem_append.mp member with inFront | inBack
  · exact first c inFront
  · exact second c inBack

theorem oneLine_escapeChar (c : Char) : OneLine (escapeChar c) := by
  unfold escapeChar
  split
  · decide
  split
  · decide
  split
  · decide
  split
  · decide
  split
  · decide
  split
  · decide
  split
  · have lead : OneLine ['\\', 'u', '\x7b'] := by decide
    have digits : OneLine (hexadecimal c.toNat) := fun digit member =>
      ⟨ne_of_mem_hexadecimal member (by decide), ne_of_mem_hexadecimal member (by decide)⟩
    exact (lead.append digits).append (by decide)
  · rename_i carriage feed _ _ _
    intro d member
    rw [List.mem_singleton.mp member]
    exact ⟨feed, carriage⟩

theorem oneLine_quoted (text : String) : OneLine (quoted text).toList := by
  have inside : OneLine (escaped text.toList) := by
    intro c member
    obtain ⟨d, -, written⟩ := List.mem_flatMap.mp member
    exact oneLine_escapeChar d c written
  have quote : OneLine ['"'] := by decide
  rw [quoted, String.toList_ofList]
  exact (quote.append inside).append quote

theorem quoted_append_inj {first second : String} {rest rest' : List Char}
    (same : (quoted first).toList ++ rest = (quoted second).toList ++ rest') :
    first = second ∧ rest = rest' := by
  simp only [quoted, String.toList_ofList, List.cons_append, List.append_assoc,
    List.cons.injEq, true_and] at same
  obtain ⟨texts, behind⟩ := escaped_append_inj same
  exact ⟨String.toList_inj.mp texts, behind⟩

end Text

/-! ## Integers -/

namespace Text

/-- The characters of a written integer. -/
def IsNumeral (c : Char) : Prop :=
  c = '-' ∨ c.isDigit = true

theorem IsNumeral.ne {c other : Char} (numeral : IsNumeral c) (sign : other ≠ '-')
    (digit : other.isDigit = false) : c ≠ other := by
  rintro rfl
  rcases numeral with isSign | isDigit
  · exact sign isSign
  · simp [digit] at isDigit

theorem numerals_integer (number : Int) :
    (toString number).toList ≠ [] ∧ ∀ c ∈ (toString number).toList, IsNumeral c := by
  have digits : ∀ n : Nat, n.repr.toList ≠ [] ∧ ∀ c ∈ n.repr.toList, IsNumeral c := by
    intro n
    rw [Nat.repr_eq_ofList_toDigits, String.toList_ofList]
    refine ⟨Nat.toDigits_ne_nil, fun c member => ?_⟩
    exact Or.inr (Nat.isDigit_of_mem_toDigits (by decide) (by decide) member)
  rw [Int.toString_eq_repr, Int.repr_eq_if]
  split
  · exact digits _
  · rw [String.toList_append]
    refine ⟨by simp, fun c member => ?_⟩
    rcases List.mem_append.mp member with sign | digit
    · exact Or.inl (by simpa using sign)
    · exact (digits _).2 c digit

end Text

/-! ## Data -/

namespace Json

theorem hexEscape_control {number : Nat} (control : number < 0x20) (rest : List Char) :
    hexEscape ('0' :: '0' :: Text.hexDigit (number / 16) :: Text.hexDigit (number % 16) :: rest) =
      .ok (number, rest) := by
  have digits : ∀ number < 0x20,
      byteCount ['0', '0', Text.hexDigit (number / 16), Text.hexDigit (number % 16)] = 4 ∧
        hexNumber? 0 ['0', '0', Text.hexDigit (number / 16), Text.hexDigit (number % 16)] =
          some number := by
    decide
  obtain ⟨size, value⟩ := digits number control
  simp [hexEscape, size, value]

/-- How one character is written: by an escape that stands for it, or as it is. -/
theorem escapeChar_cases (c : Char) :
    (∃ form, escapeChar c = '\\' :: form ∧ ∀ rest, escape (form ++ rest) = .ok (c, rest)) ∨
      (escapeChar c = [c] ∧ c ≠ '"' ∧ c ≠ '\\' ∧ ¬c.toNat < 0x20) := by
  unfold escapeChar
  -- Seven characters have a letter of their own.
  iterate 7
    split
    · exact .inl ⟨_, rfl, fun rest => by subst c; rfl⟩
  split
  · rename_i control
    refine .inl ⟨_, rfl, fun rest => ?_⟩
    have surrogate : ¬ (0xDC00 ≤ c.toNat ∧ c.toNat ≤ 0xDFFF) := by omega
    have surrogate' : ¬ (0xD800 ≤ c.toNat ∧ c.toNat ≤ 0xDBFF) := by omega
    simp [escape, numberedEscape, hexEscape_control control, surrogate, surrogate']
  · rename_i quote backslash _ _ _ _ _ printable
    exact .inr ⟨rfl, quote, backslash, printable⟩

theorem stringFrom_escapeChar (steps : Nat) (c : Char) (rest : List Char) :
    stringFrom (steps + 1) (escapeChar c ++ rest) =
      (stringFrom steps rest).map fun read => (c :: read.1, read.2) := by
  obtain ⟨form, written, reads⟩ | ⟨written, quote, backslash, printable⟩ := escapeChar_cases c
  · simp only [written, List.cons_append, stringFrom, reads]
    cases stringFrom steps rest <;> rfl
  · simp only [written, List.singleton_append, stringFrom, if_neg printable]
    cases stringFrom steps rest <;> rfl

theorem stringFrom_quoted (rest : List Char) (cs : List Char) : ∀ {steps : Nat},
    cs.length < steps →
      stringFrom steps (cs.flatMap escapeChar ++ '"' :: rest) = .ok (cs, rest) := by
  induction cs with
  | nil =>
      intro steps enough
      obtain ⟨steps, rfl⟩ : ∃ fewer, steps = fewer + 1 := ⟨steps - 1, by simp at enough; omega⟩
      rfl
  | cons c cs ih =>
      intro steps enough
      rw [List.length_cons] at enough
      obtain ⟨steps, rfl⟩ : ∃ fewer, steps = fewer + 1 := ⟨steps - 1, by omega⟩
      rw [List.flatMap_cons, List.append_assoc, stringFrom_escapeChar, ih (by omega)]
      rfl

theorem escapeChar_ne_nil (c : Char) : escapeChar c ≠ [] := by
  unfold escapeChar
  split_ifs <;> simp

theorem length_le_flatMap_escapeChar (cs : List Char) :
    cs.length ≤ (cs.flatMap escapeChar).length := by
  induction cs with
  | nil => exact Nat.le_refl 0
  | cons c cs ih =>
      have written := List.length_pos_iff.mpr (escapeChar_ne_nil c)
      rw [List.flatMap_cons, List.length_append, List.length_cons]
      omega

theorem quoted_eq (content : String) :
    (quoted content).toList = '"' :: (content.toList.flatMap escapeChar ++ ['"']) := by
  simp [quoted]

theorem stringRest_quoted (content : String) (rest : List Char) :
    stringRest (content.toList.flatMap escapeChar ++ '"' :: rest) = .ok (content, rest) := by
  have enough : content.toList.length <
      (content.toList.flatMap escapeChar ++ '"' :: rest).length + 1 := by
    have shorter := length_le_flatMap_escapeChar content.toList
    rw [List.length_append]
    omega
  rw [stringRest, stringFrom_quoted rest content.toList enough]
  simp

end Json

end ContainerReplay
