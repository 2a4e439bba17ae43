import ContainerReplay.Proofs.FailedReads
import Mathlib.Data.List.Infix
import Mathlib.Data.List.TakeWhile

/-!
# Declared encodings

The encoding of a descriptor is the one that its XML declaration names, and UTF-8 if it has no
declaration.  What the search for the name takes for a declaration is more than that: any processing
instruction at the front whose target only begins with `xml` decides about the encoding, too.
-/

set_option autoImplicit false

namespace ContainerReplay.Descriptor

/-! ## The first name that is assigned -/

/-- What follows the word: an equals sign and a quoted name, with blanks before each. -/
inductive Assigned (name : List Char) : List Char → Prop
  | of {before after rest : List Char} {opening closing : Char}
      (blank : ∀ c ∈ before, Text.isBlank c = true) (blank' : ∀ c ∈ after, Text.isBlank c = true)
      (quote : isQuote opening = true) (quote' : isQuote closing = true)
      (nonempty : name ≠ []) (plain : ∀ c ∈ name, isEncodingChar c = true) :
      Assigned name (before ++ '=' :: (after ++ opening :: (name ++ closing :: rest)))

def Assigns (name cs : List Char) : Prop :=
  ∃ rest, cs = "encoding".toList ++ rest ∧ Assigned name rest

/-- The leftmost assignment of an encoding gives it this name. -/
inductive FirstNamed (name : List Char) : List Char → Prop
  | here {cs : List Char} (assigns : Assigns name cs) : FirstNamed name cs
  | later {c : Char} {cs : List Char} (silent : ∀ other, ¬ Assigns other (c :: cs))
      (named : FirstNamed name cs) : FirstNamed name (c :: cs)

theorem isQuote_iff (c : Char) : isQuote c = true ↔ c = '"' ∨ c = '\'' := by
  simp [isQuote]

theorem isBlank_of_isQuote {c : Char} (quote : isQuote c = true) : Text.isBlank c = false := by
  rcases (isQuote_iff c).mp quote with rfl | rfl
  · decide
  · decide

theorem isEncodingChar_of_isQuote {c : Char} (quote : isQuote c = true) :
    isEncodingChar c = false := by
  rcases (isQuote_iff c).mp quote with rfl | rfl
  · decide
  · decide

theorem assignedName?_eq_some_iff (cs name : List Char) :
    assignedName? cs = some name ↔ Assigned name cs := by
  constructor
  · intro found
    unfold assignedName? at found
    split at found
    · rename_i behindSign sign
      split at found
      · rename_i opening behindQuote quote
        obtain ⟨behind, shape⟩ := List.takeWhile_prefix isEncodingChar (l := behindQuote)
        have left := congrArg (List.drop (behindQuote.takeWhile isEncodingChar).length) shape
        rw [List.drop_left] at left
        simp only [← left] at found
        cases behind with
        | nil => cases found
        | cons closing rest =>
            simp only [Option.ite_none_right_eq_some, Bool.and_eq_true] at found
            obtain ⟨⟨⟨opens, closes⟩, nonempty⟩, same⟩ := found
            have shape₁ := List.takeWhile_append_dropWhile (p := Text.isBlank) (l := cs)
            have shape₂ := List.takeWhile_append_dropWhile (p := Text.isBlank) (l := behindSign)
            rw [← shape₁, sign, ← shape₂, quote, ← shape, Option.some.inj same]
            rw [Option.some.inj same] at nonempty
            refine .of (fun c => List.mem_takeWhile_imp) (fun c => List.mem_takeWhile_imp) opens
              closes (by simpa using nonempty) fun c member => ?_
            rw [← Option.some.inj same] at member
            exact List.mem_takeWhile_imp member
      · cases found
    · cases found
  · intro assigned
    cases assigned with
    | @of before after rest opening closing blank blank' quote quote' nonempty plain =>
        have sign : Text.isBlank '=' = false := by decide
        have name_end := isEncodingChar_of_isQuote quote'
        rw [assignedName?, List.dropWhile_append_of_pos blank, List.dropWhile_cons, sign]
        simp only [Bool.false_eq_true, if_false]
        rw [List.dropWhile_append_of_pos blank', List.dropWhile_cons, isBlank_of_isQuote quote]
        simp only [Bool.false_eq_true, if_false]
        rw [List.takeWhile_append_of_pos plain, List.takeWhile_cons, name_end]
        simp [quote, quote', nonempty]

theorem assigns_iff (cs name : List Char) :
    Assigns name cs ↔
      "encoding".toList.isPrefixOf cs = true ∧ assignedName? (cs.drop 8) = some name := by
  rw [List.isPrefixOf_iff_prefix, assignedName?_eq_some_iff]
  constructor
  · rintro ⟨rest, rfl, assigned⟩
    exact ⟨List.prefix_append _ _, assigned⟩
  · rintro ⟨⟨rest, rfl⟩, assigned⟩
    exact ⟨rest, rfl, assigned⟩

theorem encodingName?_eq_some_iff (cs name : List Char) :
    encodingName? cs = some name ↔ FirstNamed name cs := by
  induction cs with
  | nil =>
      constructor
      · intro found
        cases found
      · intro named
        cases named with
        | here assigns => exact absurd ((assigns_iff [] name).mp assigns).1 (by decide)
  | cons c rest ih =>
      have first : FirstNamed name (c :: rest) ↔ Assigns name (c :: rest) ∨
          (∀ other, ¬ Assigns other (c :: rest)) ∧ FirstNamed name rest := by
        constructor
        · intro named
          cases named with
          | here assigns => exact .inl assigns
          | later silent named => exact .inr ⟨silent, named⟩
        · rintro (assigns | ⟨silent, named⟩)
          · exact .here assigns
          · exact .later silent named
      rw [first, encodingName?]
      simp only [assigns_iff]
      -- where the word stands here, a name that is assigned to it hides all names behind it
      by_cases word : "encoding".toList.isPrefixOf (c :: rest) = true
      · simp only [word, if_true, true_and]
        cases found : assignedName? ((c :: rest).drop 8) with
        | none => simp only [reduceCtorEq, false_or, not_false_eq_true, implies_true, true_and, ih]
        | some other =>
            have known : ¬ ∀ another, some other ≠ some another := fun all => all other rfl
            simp only [known, false_and, or_false]
      · simp only [word, if_false, Bool.false_eq_true, false_and, false_or, not_false_eq_true,
          implies_true, true_and, ih]

/-! ## Where a declaration ends -/

theorem beforeDeclarationEnd_cons {b : UInt8} {bytes : List UInt8}
    (goesOn : ¬ ∃ rest, b :: bytes = 0x3F :: 0x3E :: rest) :
    beforeDeclarationEnd (b :: bytes) = (beforeDeclarationEnd bytes).map (b :: ·) := by
  rw [beforeDeclarationEnd]
  · cases beforeDeclarationEnd bytes <;> rfl
  · rintro rest rfl rfl
    exact goesOn ⟨rest, rfl⟩

theorem beforeDeclarationEnd_eq_some_iff (bytes front : List UInt8) :
    beforeDeclarationEnd bytes = some front ↔
      ∃ rest, bytes = front ++ 0x3F :: 0x3E :: rest ∧ ¬ [0x3F, 0x3E] <:+: front := by
  induction bytes generalizing front with
  | nil => simp [beforeDeclarationEnd]
  | cons b bytes ih =>
      -- an end mark in the front would begin here or lie behind the first byte
      by_cases ends : ∃ rest, b :: bytes = 0x3F :: 0x3E :: rest
      · obtain ⟨rest, shape⟩ := ends
        rw [shape, beforeDeclarationEnd]
        constructor
        · intro found
          cases found
          exact ⟨rest, rfl, by simp⟩
        · rintro ⟨rest', same, free⟩
          rcases front with _ | ⟨c, _ | ⟨d, front⟩⟩
          · rfl
          · cases same
          · injection same with first same
            injection same with second same
            refine absurd ?_ free
            rw [← first, ← second]
            exact ⟨[], front, rfl⟩
      · rw [beforeDeclarationEnd_cons ends, Option.map_eq_some_iff]
        constructor
        · rintro ⟨front, found, rfl⟩
          obtain ⟨rest, rfl, free⟩ := (ih front).mp found
          refine ⟨rest, rfl, fun inside => ?_⟩
          rcases List.infix_cons_iff.mp inside with ⟨later, begins⟩ | inside
          · injection begins with first begins
            exact ends ⟨later ++ 0x3F :: 0x3E :: rest, by rw [← first, ← begins]; rfl⟩
          · exact free inside
        · rintro ⟨rest, shape, free⟩
          cases front with
          | nil => exact absurd ⟨rest, shape⟩ ends
          | cons c front =>
              obtain ⟨rfl, rest'⟩ := List.cons.inj shape
              have free' : ¬ [0x3F, 0x3E] <:+: front :=
                fun inside => free (List.infix_cons_iff.mpr (.inr inside))
              exact ⟨front, (ih front).mpr ⟨rest, rest', free'⟩, rfl⟩

/-- The content begins with `<?xml`, and `inside` is what follows up to the first `?>`. -/
def Opens (bytes inside : List UInt8) : Prop :=
  ∃ rest, withoutMark bytes = bytesOf "<?xml" ++ inside ++ bytesOf "?>" ++ rest ∧
    ¬ bytesOf "?>" <:+: inside

/-- White space comes first, as it does after `<?xml` in a declaration. -/
def StartsBlank (inside : List UInt8) : Prop :=
  ∃ b rest, inside = b :: rest ∧ b ∈ bytesOf " \t\n\r"

/-- The first encoding that is assigned here is a spelling of Latin-1, in letters of either case. -/
def NamesLatin1 (inside : List UInt8) : Prop :=
  ∃ name, FirstNamed name (Text.replacing inside) ∧
    Text.lowerAscii (String.ofList name) ∈ latin1Names

def DeclaresLatin1 (bytes : List UInt8) : Prop :=
  ∃ inside, Opens bytes inside ∧ StartsBlank inside ∧ NamesLatin1 inside

theorem bytesOf_start : bytesOf "<?xml" = [0x3C, 0x3F, 0x78, 0x6D, 0x6C] := by decide

theorem bytesOf_end : bytesOf "?>" = [0x3F, 0x3E] := by decide

theorem opens_iff (bytes inside : List UInt8) :
    Opens bytes inside ↔
      ∃ rest, withoutMark bytes = bytesOf "<?xml" ++ rest ∧
        beforeDeclarationEnd rest = some inside := by
  simp only [Opens, bytesOf_end, beforeDeclarationEnd_eq_some_iff]
  constructor
  · rintro ⟨rest, content, free⟩
    exact ⟨inside ++ 0x3F :: 0x3E :: rest, by simpa using content, rest, rfl, free⟩
  · rintro ⟨_, content, rest, rfl, free⟩
    exact ⟨rest, by simpa using content, free⟩

theorem Opens.unique {bytes first second : List UInt8} (opens : Opens bytes first)
    (opens' : Opens bytes second) : first = second := by
  obtain ⟨rest, content, found⟩ := (opens_iff bytes first).mp opens
  obtain ⟨rest', content', found'⟩ := (opens_iff bytes second).mp opens'
  have same : rest = rest' := List.append_cancel_left (content.symm.trans content')
  rw [same, found'] at found
  exact (Option.some.inj found).symm

theorem beforeDeclarationEnd_start (rest : List UInt8) :
    beforeDeclarationEnd (bytesOf "<?xml" ++ rest) =
      (beforeDeclarationEnd rest).map (bytesOf "<?xml" ++ ·) := by
  rw [bytesOf_start]
  simp only [List.cons_append, List.nil_append]
  rw [beforeDeclarationEnd_cons (by simp), beforeDeclarationEnd_cons (by simp),
    beforeDeclarationEnd_cons (by simp), beforeDeclarationEnd_cons (by simp),
    beforeDeclarationEnd_cons (by simp)]
  cases beforeDeclarationEnd rest <;> rfl

theorem replacing_cons_ascii {b : UInt8} (ascii : b < 0x80) (rest : List UInt8) :
    Text.replacing (b :: rest) = Char.ofNat b.toNat :: Text.replacing rest := by
  have low : b.toNat < 0x80 := ascii
  simp [Text.replacing, Text.replacingFrom, Text.sequenceAt, low]

theorem encodingName?_start (inside : List UInt8) :
    encodingName? (Text.replacing (bytesOf "<?xml" ++ inside)) =
      encodingName? (Text.replacing inside) := by
  rw [bytesOf_start]
  simp only [List.cons_append, List.nil_append]
  rw [replacing_cons_ascii (by decide), replacing_cons_ascii (by decide),
    replacing_cons_ascii (by decide), replacing_cons_ascii (by decide),
    replacing_cons_ascii (by decide)]
  rfl

theorem declaredEncoding?_latin1_iff (bytes : List UInt8) :
    (declaredEncoding? bytes).any latin1Names.contains = true ↔
      ∃ inside, Opens bytes inside ∧ NamesLatin1 inside := by
  simp only [opens_iff, NamesLatin1, declaredEncoding?, ← encodingName?_eq_some_iff]
  by_cases begins : (bytesOf "<?xml").isPrefixOf (withoutMark bytes) = true
  · obtain ⟨rest, content⟩ := List.isPrefixOf_iff_prefix.mp begins
    have start : ∀ other, bytesOf "<?xml" ++ rest = bytesOf "<?xml" ++ other ↔ rest = other :=
      fun other => List.append_right_inj _
    rw [if_pos begins, ← content, beforeDeclarationEnd_start]
    simp only [start, exists_eq_left']
    cases beforeDeclarationEnd rest with
    | none => simp
    | some inside =>
        simp only [Option.map_some, encodingName?_start, Option.some.injEq, exists_eq_left',
          Option.any_eq_true, Option.map_eq_some_iff, exists_exists_and_eq_and,
          List.contains_iff_mem]
  · have other : ∀ rest, withoutMark bytes ≠ bytesOf "<?xml" ++ rest := by
      intro rest content
      exact begins (List.isPrefixOf_iff_prefix.mpr ⟨rest, content.symm⟩)
    simp [begins, other]

/-! ## The bytes of Latin-1 text -/

theorem toNat_ofNat_byte (b : UInt8) : (Char.ofNat b.toNat).toNat = b.toNat := by
  have valid : Nat.isValidChar b.toNat := Or.inl (by have := b.toNat_lt; omega)
  rw [Char.ofNat, dif_pos valid]
  rfl

/-- Half of the bytes are characters of one byte in UTF-8, and the others take two there. -/
theorem utf8EncodeChar_byte (b : UInt8) :
    String.utf8EncodeChar (Char.ofNat b.toNat) =
      if b.toNat < 0x80 then [b]
      else [UInt8.ofNat (b.toNat / 64 % 32 + 192), UInt8.ofNat (b.toNat % 64 + 128)] := by
  have code : (Char.ofNat b.toNat).val.toNat = b.toNat := toNat_ofNat_byte b
  have small := b.toNat_lt
  rw [String.utf8EncodeChar]
  simp only [code]
  split
  · rw [if_pos (by omega), UInt8.ofNat_toNat]
  · rw [if_pos (by omega), if_neg (by omega)]

theorem latin1_eq_iff (bytes : List UInt8) (text : List Char) :
    text = latin1 bytes ↔ text.map Char.toNat = bytes.map UInt8.toNat := by
  have codes : (latin1 bytes).map Char.toNat = bytes.map UInt8.toNat := by
    rw [latin1, List.map_map]
    exact List.map_congr_left fun b _ => toNat_ofNat_byte b
  have injective : Function.Injective Char.toNat := fun _ _ => Char.toNat_inj.mp
  rw [← codes, (List.map_injective_iff.mpr injective).eq_iff]

theorem length_utf8_latin1 (bytes : List UInt8) :
    ((latin1 bytes).flatMap String.utf8EncodeChar).length =
      bytes.length + bytes.countP fun b => 0x80 ≤ b.toNat := by
  rw [latin1, List.flatMap_map]
  induction bytes with
  | nil => rfl
  | cons b bytes ih =>
      rw [List.flatMap_cons, List.length_append, ih, List.length_cons, List.countP_cons,
        utf8EncodeChar_byte]
      by_cases low : b.toNat < 0x80
      · simp only [low, if_true, Nat.not_le.mpr low, decide_false, Bool.false_eq_true, if_false,
          List.length_singleton]
        omega
      · simp only [low, if_false, Nat.not_lt.mp low, decide_true, if_true, List.length_cons,
          List.length_nil]
        omega

theorem utf8_latin1_eq_iff (bytes : List UInt8) :
    (latin1 bytes).flatMap String.utf8EncodeChar = bytes ↔ ∀ b ∈ bytes, b.toNat < 0x80 := by
  constructor
  · intro same b member
    have lengths := length_utf8_latin1 bytes
    rw [same] at lengths
    have none : bytes.countP (fun b => 0x80 ≤ b.toNat) = 0 := by omega
    have within := List.countP_eq_zero.mp none b member
    exact Nat.not_le.mp (by simpa using within)
  · intro ascii
    have one : ∀ b ∈ bytes, String.utf8EncodeChar (Char.ofNat b.toNat) = [b] := by
      intro b member
      rw [utf8EncodeChar_byte, if_pos (ascii b member)]
    rw [latin1, List.flatMap_map, List.flatMap_congr one, List.flatMap_singleton']

theorem toUTF8_latin1_eq_iff (bytes : ByteArray) :
    (String.ofList (latin1 bytes.data.toList)).toUTF8 = bytes ↔
      ∀ b ∈ bytes.data.toList, b.toNat < 0x80 := by
  have spelled : (String.ofList (latin1 bytes.data.toList)).toUTF8.data.toList =
      (latin1 bytes.data.toList).flatMap String.utf8EncodeChar := by
    simp [List.utf8Encode]
  rw [← utf8_latin1_eq_iff, ← spelled, Array.toList_inj, ByteArray.ext_iff]

/-- An ASCII document reads the same in both encodings. -/
theorem eq_latin1_iff_of_ascii {bytes : ByteArray}
    (ascii : (String.ofList (latin1 bytes.data.toList)).toUTF8 = bytes) (text : List Char) :
    text = latin1 bytes.data.toList ↔ (String.ofList text).toUTF8 = bytes := by
  constructor
  · rintro rfl
    exact ascii
  · intro spelled
    have texts := String.toByteArray_inj.mp (spelled.trans ascii.symm)
    simpa using congrArg String.toList texts

/-! ## Decoding -/

/-- The text that the bytes stand for by their declaration: in Latin-1 one character for each byte,
with its code, and otherwise the text whose UTF-8 form they are. -/
def DeclaredText (bytes : ByteArray) (text : List Char) : Prop :=
  (DeclaresLatin1 bytes.data.toList →
      text.map Char.toNat = bytes.data.toList.map UInt8.toNat) ∧
    (¬ DeclaresLatin1 bytes.data.toList → (String.ofList text).toUTF8 = bytes)

/-- Something other than a declaration, such as a processing instruction for a style sheet, names
Latin-1 in front of a document that is not all ASCII. -/
def Misled (bytes : List UInt8) : Prop :=
  (∃ inside, Opens bytes inside ∧ ¬ StartsBlank inside ∧ NamesLatin1 inside) ∧
    ∃ b ∈ bytes, 0x80 ≤ b.toNat

theorem declaredText_of_latin1 {bytes : ByteArray} (declares : DeclaresLatin1 bytes.data.toList)
    (text : List Char) : DeclaredText bytes text ↔ text = latin1 bytes.data.toList := by
  rw [latin1_eq_iff, DeclaredText]
  simp only [declares, true_imp_iff, not_true, false_imp_iff, and_true]

theorem declaredText_of_utf8 {bytes : ByteArray} (undeclared : ¬ DeclaresLatin1 bytes.data.toList)
    (text : List Char) : DeclaredText bytes text ↔ (String.ofList text).toUTF8 = bytes := by
  rw [DeclaredText]
  simp only [undeclared, false_imp_iff, not_false_eq_true, true_imp_iff, true_and]

theorem decode_of_named {bytes : ByteArray}
    (named : ∃ inside, Opens bytes.data.toList inside ∧ NamesLatin1 inside) (resource : String)
    (text : List Char) :
    decode resource bytes = .ok text ↔ text = latin1 bytes.data.toList := by
  rw [decode_eq_ok_iff, Spells, if_pos ((declaredEncoding?_latin1_iff _).mpr named)]

theorem decode_of_unnamed {bytes : ByteArray}
    (unnamed : ¬ ∃ inside, Opens bytes.data.toList inside ∧ NamesLatin1 inside)
    (resource : String) (text : List Char) :
    decode resource bytes = .ok text ↔ (String.ofList text).toUTF8 = bytes := by
  have undeclared := (not_congr (declaredEncoding?_latin1_iff _)).mpr unnamed
  rw [decode_eq_ok_iff, Spells, if_neg undeclared]

theorem Opens.not_misled_iff {bytes inside : List UInt8} (opens : Opens bytes inside)
    (solid : ¬ StartsBlank inside) (names : NamesLatin1 inside) :
    ¬ Misled bytes ↔ ∀ b ∈ bytes, b.toNat < 0x80 := by
  constructor
  · intro sound b member
    exact Nat.not_le.mp fun beyond => sound ⟨⟨inside, opens, solid, names⟩, b, member, beyond⟩
  · rintro ascii ⟨-, b, member, beyond⟩
    exact absurd (ascii b member) (Nat.not_lt.mpr beyond)

/-- Decoding follows the declaration alone, except for documents that something else misleads, and
those are all misread. -/
theorem decode_declared_iff (resource : String) (bytes : ByteArray) :
    ((∀ text, decode resource bytes = .ok text ↔ DeclaredText bytes text) ↔
        ¬ Misled bytes.data.toList) ∧
      (Misled bytes.data.toList →
        decode resource bytes = .ok (latin1 bytes.data.toList)) := by
  refine ⟨?_, fun ⟨⟨inside, opens, _, names⟩, _⟩ =>
    (decode_of_named ⟨inside, opens, names⟩ resource _).mpr rfl⟩
  by_cases named : ∃ inside, Opens bytes.data.toList inside ∧ NamesLatin1 inside
  · simp only [decode_of_named named]
    obtain ⟨inside, opens, names⟩ := named
    by_cases blank : StartsBlank inside
    · have declares : DeclaresLatin1 bytes.data.toList := ⟨inside, opens, blank, names⟩
      refine iff_of_true (fun text => (declaredText_of_latin1 declares text).symm) ?_
      rintro ⟨⟨other, opens', solid, -⟩, -⟩
      exact solid (opens.unique opens' ▸ blank)
    · -- a name is assigned, but in no declaration: right only if all bytes are ASCII
      have undeclared : ¬ DeclaresLatin1 bytes.data.toList := by
        rintro ⟨other, opens', blank', -⟩
        exact blank (opens'.unique opens ▸ blank')
      simp only [opens.not_misled_iff blank names, ← toUTF8_latin1_eq_iff,
        declaredText_of_utf8 undeclared]
      exact ⟨fun all => (all _).mp rfl, eq_latin1_iff_of_ascii⟩
  · simp only [decode_of_unnamed named]
    have undeclared : ¬ DeclaresLatin1 bytes.data.toList :=
      fun ⟨inside, opens, _, names⟩ => named ⟨inside, opens, names⟩
    refine iff_of_true (fun text => (declaredText_of_utf8 undeclared text).symm) ?_
    rintro ⟨⟨inside, opens, -, names⟩, -⟩
    exact named ⟨inside, opens, names⟩

def styled (name : String) : String :=
  "<?xml-stylesheet encoding=\"latin1\"?><web-app><display-name>" ++ name ++
    "</display-name></web-app>"

/-- A style sheet instruction turns one character of a UTF-8 document into two. -/
theorem decode_styled :
    decode "web.xml" (styled "é").toUTF8 = .ok (styled "Ã©").toList ∧
      ¬ ∀ text, decode "web.xml" (styled "é").toUTF8 = .ok text ↔
        DeclaredText (styled "é").toUTF8 text := by
  have opens : Opens (bytesOf (styled "é")) (bytesOf "-stylesheet encoding=\"latin1\"") :=
    (opens_iff _ _).mpr ⟨(bytesOf (styled "é")).drop 5, by decide, by decide⟩
  have solid : ¬ StartsBlank (bytesOf "-stylesheet encoding=\"latin1\"") := by
    rintro ⟨b, rest, shape, blank⟩
    obtain rfl : b = 0x2D := (List.cons.inj shape).1.symm
    exact absurd blank (by decide)
  have names : NamesLatin1 (bytesOf "-stylesheet encoding=\"latin1\"") :=
    ⟨"latin1".toList, (encodingName?_eq_some_iff _ _).mp (by decide), by decide⟩
  have misled : Misled (bytesOf (styled "é")) :=
    ⟨⟨_, opens, solid, names⟩, 0xC3, by decide, by decide⟩
  have read : latin1 (bytesOf (styled "é")) = (styled "Ã©").toList := by decide
  obtain ⟨exact_unless, misread⟩ := decode_declared_iff "web.xml" (styled "é").toUTF8
  exact ⟨read ▸ misread misled, fun all => exact_unless.mp all misled⟩

end ContainerReplay.Descriptor
