import ContainerReplay.Json.Record
import ContainerReplay.Proofs.QuotedTexts
import Mathlib.Data.List.Perm.Basic

/-!
# Values spelled out

The texts of a value: blanks may stand between any two parts, and the fields of an object may stand
in any order.  Both written forms of a value are texts of it.  A reader reads a value if it takes it
from every text of it and leaves what follows; each reader is told by one lemma what it reads.
-/

set_option autoImplicit false

namespace ContainerReplay.Json

def Blanks (cs : List Char) : Prop :=
  ∀ c ∈ cs, isSpace c = true

/-- Items with commas between them and blanks around them; a comma stands before the first item too
if that is not the first of all. -/
inductive Separated {α : Type} (spell : α → List Char → Prop) : Bool → List α → List Char → Prop
  | nothing {isFirst : Bool} {blanks : List Char} (blank : Blanks blanks) :
      Separated spell isFirst [] blanks
  | first {item : α} {items : List α} {before cs rest : List Char} (blank : Blanks before)
      (spelled : spell item cs) (later : Separated spell false items rest) :
      Separated spell true (item :: items) (before ++ (cs ++ rest))
  | next {item : α} {items : List α} {before after cs rest : List Char} (blank : Blanks before)
      (blank' : Blanks after) (spelled : spell item cs) (later : Separated spell false items rest) :
      Separated spell false (item :: items) (before ++ ',' :: (after ++ (cs ++ rest)))

/-- A field of an object: the quoted key, a colon and the value. -/
inductive Member (spell : Json → List Char → Prop) : String × Json → List Char → Prop
  | of {key : String} {value : Json} {before after cs : List Char} (blank : Blanks before)
      (blank' : Blanks after) (spelled : spell value cs) :
      Member spell (key, value) ((quoted key).toList ++ (before ++ ':' :: (after ++ cs)))

/-- A text of a value. -/
inductive Spelled : Json → List Char → Prop
  | null : Spelled .null "null".toList
  | yes : Spelled (.truth true) "true".toList
  | no : Spelled (.truth false) "false".toList
  | integer (value : Int) : Spelled (.integer value) (toString value).toList
  | text (content : String) : Spelled (.text content) (quoted content).toList
  | array {items : List Json} {cs : List Char} (separated : Separated Spelled true items cs) :
      Spelled (.array items) ('[' :: (cs ++ [']']))
  | object {fields ordered : List (String × Json)} {cs : List Char} (order : ordered.Perm fields)
      (separated : Separated (Member Spelled) true ordered cs) :
      Spelled (.object fields) ('\x7b' :: (cs ++ ['\x7d']))

/-! ## Blanks -/

theorem blanks_nil : Blanks [] := by
  intro c member
  cases member

theorem blanks_newLine (level : Nat) : Blanks (newLine level).toList := by
  intro c member
  rw [newLine, String.toList_ofList] at member
  rcases List.mem_cons.mp member with rfl | space
  · rfl
  · rw [List.eq_of_mem_replicate space]
    rfl

theorem blanks_space : Blanks [' '] := by
  intro c member
  rw [List.mem_singleton.mp member]
  rfl

theorem skipSpace_blanks {blanks : List Char} (blank : Blanks blanks) {c : Char}
    (solid : isSpace c = false) (rest : List Char) :
    skipSpace (blanks ++ c :: rest) = c :: rest := by
  rw [skipSpace, List.dropWhile_append_of_pos blank, List.dropWhile_cons, solid]
  rfl

/-! ## The written forms -/

section

variable {α : Type} {spell : α → List Char → Prop}

theorem Separated.continued {item : α} {items : List α} {before cs : List Char}
    (separated : Separated spell true (item :: items) cs) (blank : Blanks before) :
    Separated spell false (item :: items) (before ++ ',' :: cs) := by
  cases separated with
  | first blank' spelled later => exact .next blank blank' spelled later

theorem Separated.trailing {isFirst : Bool} {items : List α} {cs blanks : List Char}
    (separated : Separated spell isFirst items cs) (blank : Blanks blanks) :
    Separated spell isFirst items (cs ++ blanks) := by
  induction separated with
  | nothing blank' =>
      refine .nothing fun c member => ?_
      exact (List.mem_append.mp member).elim (blank' c) (blank c)
  | first blank' spelled _ ih =>
      rw [List.append_assoc, List.append_assoc]
      exact .first blank' spelled ih
  | next before after spelled _ ih =>
      rw [List.append_assoc, List.cons_append, List.append_assoc, List.append_assoc]
      exact .next before after spelled ih

end

mutual

theorem spelled_compact : ∀ json : Json, Spelled json json.compact.toList
  | .null => .null
  | .truth true => .yes
  | .truth false => .no
  | .integer value => .integer value
  | .text content => .text content
  | .array items => by
      have spelled := Spelled.array (separated_compactItems items)
      rw [compact]
      simpa using spelled
  | .object fields => by
      have spelled := Spelled.object (.refl fields) (separated_compactFields fields)
      rw [compact]
      simpa using spelled

theorem separated_compactItems : ∀ items : List Json,
    Separated Spelled true items (compactItems items).toList
  | [] => .nothing blanks_nil
  | [item] => by
      have separated := Separated.first blanks_nil (spelled_compact item) (.nothing blanks_nil)
      rw [compactItems]
      simpa using separated
  | item :: next :: rest => by
      have later := (separated_compactItems (next :: rest)).continued blanks_nil
      have separated := Separated.first blanks_nil (spelled_compact item) later
      rw [compactItems]
      · simpa using separated
      · simp

theorem separated_compactFields : ∀ fields : List (String × Json),
    Separated (Member Spelled) true fields (compactFields fields).toList
  | [] => .nothing blanks_nil
  | [(key, value)] => by
      have member : Member Spelled (key, value) _ := .of blanks_nil blanks_nil (spelled_compact value)
      have separated := Separated.first blanks_nil member (.nothing blanks_nil)
      rw [compactFields]
      simpa using separated
  | (key, value) :: next :: rest => by
      have member : Member Spelled (key, value) _ := .of blanks_nil blanks_nil (spelled_compact value)
      have later := (separated_compactFields (next :: rest)).continued blanks_nil
      have separated := Separated.first blanks_nil member later
      rw [compactFields]
      · simpa using separated
      · simp

end

mutual

theorem spelled_prettyAt : ∀ (level : Nat) (json : Json), Spelled json (json.prettyAt level).toList
  | _, .null => .null
  | _, .truth true => .yes
  | _, .truth false => .no
  | _, .integer value => .integer value
  | _, .text content => .text content
  | _, .array [] => by
      rw [prettyAt]
      exact .array (.nothing blanks_nil)
  | level, .array (item :: rest) => by
      have items := (separated_prettyItems (level + 1) (item :: rest)).trailing
        (blanks_newLine level)
      rw [prettyAt]
      simpa using Spelled.array items
  | _, .object [] => by
      rw [prettyAt]
      exact .object (.refl []) (.nothing blanks_nil)
  | level, .object (field :: rest) => by
      have fields := (separated_prettyFields (level + 1) (field :: rest)).trailing
        (blanks_newLine level)
      rw [prettyAt]
      simpa using Spelled.object (.refl (field :: rest)) fields

theorem separated_prettyItems : ∀ (level : Nat) (items : List Json),
    Separated Spelled true items (prettyItems level items).toList
  | _, [] => .nothing blanks_nil
  | level, [item] => by
      have separated := Separated.first (blanks_newLine level) (spelled_prettyAt level item)
        (.nothing blanks_nil)
      rw [prettyItems]
      simpa using separated
  | level, item :: next :: rest => by
      have later := (separated_prettyItems level (next :: rest)).continued blanks_nil
      have separated := Separated.first (blanks_newLine level) (spelled_prettyAt level item) later
      rw [prettyItems]
      · simpa using separated
      · simp

theorem separated_prettyFields : ∀ (level : Nat) (fields : List (String × Json)),
    Separated (Member Spelled) true fields (prettyFields level fields).toList
  | _, [] => .nothing blanks_nil
  | level, [(key, value)] => by
      have member : Member Spelled (key, value) _ :=
        .of blanks_nil blanks_space (spelled_prettyAt level value)
      have separated := Separated.first (blanks_newLine level) member (.nothing blanks_nil)
      rw [prettyFields]
      simpa using separated
  | level, (key, value) :: next :: rest => by
      have member : Member Spelled (key, value) _ :=
        .of blanks_nil blanks_space (spelled_prettyAt level value)
      have later := (separated_prettyFields level (next :: rest)).continued blanks_nil
      have separated := Separated.first (blanks_newLine level) member later
      rw [prettyFields]
      · simpa using separated
      · simp

end

theorem spelled_pretty (json : Json) : Spelled json json.pretty.toList :=
  spelled_prettyAt 0 json

/-! ## Readers -/

/-- A reader takes a value from every text of its data form and leaves what follows. -/
def Reads {α : Type} (reader : Reader α) (json : Json) (value : α) : Prop :=
  ∀ ⦃cs blanks : List Char⦄, Spelled json cs → Blanks blanks → ∀ rest,
    reader (blanks ++ (cs ++ rest)) = .ok (value, rest)

theorem readWhole_spelled {α : Type} {reader : Reader α} {json : Json} {value : α}
    (reads : Reads reader json value) {text : String} (spelled : Spelled json text.toList) :
    readWhole reader text = .ok value := by
  have read := reads spelled blanks_nil []
  rw [List.nil_append, List.append_nil] at read
  rw [readWhole, read]
  rfl

/-- How a text of a value begins: not with a blank, not with the end of a list, and with the first
letter of the word for none only if the value is none. -/
theorem Spelled.begins {json : Json} {cs : List Char} (spelled : Spelled json cs) :
    ∃ c rest, cs = c :: rest ∧ isSpace c = false ∧ c ≠ ']' ∧ (c = 'n' → json = .null) := by
  cases spelled with
  | null => exact ⟨'n', _, rfl, rfl, by decide, fun _ => rfl⟩
  | yes => exact ⟨'t', _, rfl, rfl, by decide, fun same => absurd same (by decide)⟩
  | no => exact ⟨'f', _, rfl, rfl, by decide, fun same => absurd same (by decide)⟩
  | integer value =>
      obtain ⟨nonempty, numerals⟩ := Text.numerals_integer value
      obtain ⟨c, rest, written⟩ := List.exists_cons_of_ne_nil nonempty
      have numeral := numerals c (written ▸ List.mem_cons_self)
      have solid : isSpace c = false := by
        have blank : c ≠ ' ' := numeral.ne (by decide) (by decide)
        have feed : c ≠ '\n' := numeral.ne (by decide) (by decide)
        have tab : c ≠ '\t' := numeral.ne (by decide) (by decide)
        have carriage : c ≠ '\r' := numeral.ne (by decide) (by decide)
        simp [isSpace, blank, feed, tab, carriage]
      exact ⟨c, rest, written, solid, numeral.ne (by decide) (by decide),
        fun same => absurd same (numeral.ne (by decide) (by decide))⟩
  | text content =>
      exact ⟨'"', _, quoted_eq content, rfl, by decide, fun same => absurd same (by decide)⟩
  | array separated => exact ⟨'[', _, rfl, rfl, by decide, fun same => absurd same (by decide)⟩
  | object order separated =>
      exact ⟨'\x7b', _, rfl, rfl, by decide, fun same => absurd same (by decide)⟩

theorem reads_text (content : String) : Reads Reader.text (.text content) content := by
  intro cs blanks spelled blank rest
  cases spelled with
  | text =>
      rw [quoted_eq, List.cons_append, List.append_assoc, List.singleton_append, Reader.text,
        readText, skipSpace_blanks blank rfl]
      exact stringRest_quoted content rest

theorem reads_truth (value : Bool) : Reads Reader.truth (.truth value) value := by
  intro cs blanks spelled blank rest
  cases spelled with
  | yes =>
      have front : "true".toList ++ rest = 't' :: 'r' :: 'u' :: 'e' :: rest := rfl
      rw [front, Reader.truth, skipSpace_blanks blank rfl]
      rfl
  | no =>
      have front : "false".toList ++ rest = 'f' :: 'a' :: 'l' :: 's' :: 'e' :: rest := rfl
      rw [front, Reader.truth, skipSpace_blanks blank rfl]
      rfl

theorem reads_tagged {α : Type} {ofText? : String → Option α} {name : String} {value : α}
    (known : List String) (names : ofText? name = some value) :
    Reads (tagged known ofText?) (.text name) value := by
  intro cs blanks spelled blank rest
  cases spelled with
  | text =>
      have read := reads_text name (.text name) blanks_nil rest
      rw [List.nil_append, quoted_eq, List.cons_append] at read
      rw [quoted_eq, List.cons_append, tagged, skipSpace_blanks blank rfl]
      simp only [named, read, variant, names]
      rfl

theorem Reads.optional {α : Type} {reader : Reader α} {json : Json} {value : α}
    (reads : Reads reader json value) (present : json ≠ .null) :
    Reads (Reader.optional reader) json (some value) := by
  intro cs blanks spelled blank rest
  obtain ⟨c, later, rfl, solid, -, word⟩ := spelled.begins
  -- the word for none is told by its first letter, which begins no other value
  have other : c ≠ 'n' := fun isWord => present (word isWord)
  have read : reader (c :: (later ++ rest)) = .ok (value, rest) := reads spelled blanks_nil rest
  rw [List.cons_append, Reader.optional, skipSpace_blanks blank solid]
  split
  · rename_i found
    exact absurd (List.cons.inj found).1 other
  · rw [read]
    rfl

/-! ## Lists -/

theorem Separated.length_le {items : List Json} {isFirst : Bool} {cs : List Char}
    (separated : Separated Spelled isFirst items cs) : items.length ≤ cs.length := by
  induction separated with
  | nothing => exact Nat.zero_le _
  | first _ spelled _ ih =>
      obtain ⟨c, later, rfl, -⟩ := spelled.begins
      simp only [List.length_append, List.length_cons]
      omega
  | next _ _ _ _ ih =>
      simp only [List.length_append, List.length_cons]
      omega

/-- The next item of a list is found behind blanks and a comma. -/
theorem Separated.nextItem {json : Json} {items : List Json} {isFirst : Bool} {cs : List Char}
    (separated : Separated Spelled isFirst (json :: items) cs) :
    ∃ front later, Spelled json front ∧ Separated Spelled false items later ∧
      ∀ rest, nextItem isFirst (cs ++ rest) = .ok (some (front ++ (later ++ rest))) := by
  cases separated with
  | @first _ _ before front later blank spelled separated =>
      refine ⟨front, later, spelled, separated, fun rest => ?_⟩
      obtain ⟨c, more, rfl, solid, inside, -⟩ := spelled.begins
      rw [List.append_assoc, List.append_assoc, List.cons_append, Json.nextItem,
        skipSpace_blanks blank solid]
      simp
  | @next _ _ before after front later blank blank' spelled separated =>
      refine ⟨front, later, spelled, separated, fun rest => ?_⟩
      obtain ⟨c, more, rfl, solid, inside, -⟩ := spelled.begins
      rw [List.append_assoc, List.cons_append, List.append_assoc, List.append_assoc,
        List.cons_append, Json.nextItem, skipSpace_blanks blank rfl]
      simp [skipSpace_blanks blank' solid, inside]

theorem itemsFrom_separated {α : Type} {item : Reader α} {write : α → Json} {values : List α}
    (reads : ∀ value ∈ values, Reads item (write value) value) (rest : List Char) :
    ∀ {steps : Nat} {isFirst : Bool} {cs : List Char},
      Separated Spelled isFirst (values.map write) cs → values.length < steps →
        itemsFrom item steps isFirst (cs ++ ']' :: rest) = .ok (values, rest) := by
  -- every value takes one step, and the closing bracket takes the last one
  induction values with
  | nil =>
      intro steps isFirst cs separated enough
      obtain ⟨steps, rfl⟩ : ∃ fewer, steps = fewer + 1 := ⟨steps - 1, by simp at enough; omega⟩
      cases separated with
      | nothing blank =>
          simp only [itemsFrom, Json.nextItem, endOfList, skipSpace_blanks blank (c := ']') rfl]
          rfl
  | cons value values ih =>
      intro steps isFirst cs separated enough
      rw [List.length_cons] at enough
      obtain ⟨steps, rfl⟩ : ∃ fewer, steps = fewer + 1 := ⟨steps - 1, by omega⟩
      obtain ⟨front, later, spelled, remaining, found⟩ := separated.nextItem
      have read : item (front ++ (later ++ ']' :: rest)) = .ok (value, later ++ ']' :: rest) :=
        reads value List.mem_cons_self spelled blanks_nil _
      have others := ih (fun other member => reads other (List.mem_cons_of_mem value member))
        remaining (Nat.lt_of_succ_lt_succ enough)
      simp only [itemsFrom, found, read, others]

theorem Reads.list {α : Type} {item : Reader α} {write : α → Json} {values : List α}
    (reads : ∀ value ∈ values, Reads item (write value) value) :
    Reads (Reader.list item) (.array (values.map write)) values := by
  intro cs blanks spelled blank rest
  cases spelled with
  | @array _ body separated =>
      have fewer := separated.length_le
      rw [List.length_map] at fewer
      rw [List.cons_append, List.append_assoc, List.singleton_append, Reader.list,
        skipSpace_blanks blank rfl]
      refine itemsFrom_separated reads rest separated ?_
      rw [List.length_append]
      omega

/-! ## Records -/

theorem length_le_of_members {entries : List (String × Json)} {isFirst : Bool} {cs : List Char}
    (separated : Separated (Member Spelled) isFirst entries cs) : entries.length ≤ cs.length := by
  induction separated with
  | nothing => exact Nat.zero_le _
  | first _ spelled _ ih =>
      cases spelled with
      | of =>
          simp only [quoted_eq, List.length_append, List.length_cons]
          omega
  | next _ _ _ _ ih =>
      simp only [List.length_append, List.length_cons]
      omega

theorem Separated.nextKey {key : String} {value : Json} {entries : List (String × Json)}
    {isFirst : Bool} {cs : List Char}
    (separated : Separated (Member Spelled) isFirst ((key, value) :: entries) cs) :
    ∃ before after front later, Blanks before ∧ Blanks after ∧ Spelled value front ∧
      Separated (Member Spelled) false entries later ∧
      ∀ rest, nextKey isFirst (cs ++ rest) =
        .ok (true, key.toList.flatMap escapeChar ++
          '"' :: (before ++ ':' :: (after ++ (front ++ (later ++ rest))))) := by
  cases separated with
  | first blank member separated =>
      cases member with
      | of before after spelled =>
          refine ⟨_, _, _, _, before, after, spelled, separated, fun rest => ?_⟩
          simp only [quoted_eq, List.append_assoc, List.cons_append, List.nil_append,
            Json.nextKey, skipSpace_blanks blank (c := '"') rfl]
          rfl
  | next blank blank' member separated =>
      cases member with
      | of before after spelled =>
          refine ⟨_, _, _, _, before, after, spelled, separated, fun rest => ?_⟩
          simp only [quoted_eq, List.append_assoc, List.cons_append, List.nil_append,
            Json.nextKey, skipSpace_blanks blank (c := ',') rfl]
          simp [skipSpace_blanks blank' (c := '"') rfl]

def readAlso (read : String → Bool) (key : String) : String → Bool :=
  fun other => other == key || read other

/-- A field of the form takes what is spelled under its key, if the key has not been read: `state`
tells how far a record has been read by the keys that were. -/
def Takes {σ α : Type} (form : RecordForm σ α) (state : (String → Bool) → σ)
    (read : String → Bool) (key : String) (json : Json) : Prop :=
  ∃ field, form.fields.find? (fun field => field.name == key) = some field ∧
    field.isRead (state read) = false ∧
    Reads (field.read (state read)) json (state (readAlso read key))

/-- The entries of an object fill a record field by field, in whatever order they are read. -/
structure Fills {σ α : Type} (form : RecordForm σ α) (state : (String → Bool) → σ)
    (entries : List (String × Json)) (value : α) : Prop where
  distinct : (entries.map Prod.fst).Nodup
  start : state (fun _ => false) = form.start
  takes : ∀ key json, (key, json) ∈ entries → ∀ read, read key = false →
    Takes form state read key json
  finish : form.finish (state fun key => (entries.map Prod.fst).contains key) = .ok value

theorem takes_of {σ α β : Type} {form : RecordForm σ α} {state : (String → Bool) → σ}
    {read : String → Bool} {key : String} {json : Json} {isRequired : Bool} {reader : Reader β}
    {get : σ → Option β} {put : σ → β → σ} {value : β}
    (found : form.fields.find? (fun field => field.name == key) =
      some (.of key isRequired reader get put))
    (unread : get (state read) = none) (reads : Reads reader json value)
    (filled : put (state read) value = state (readAlso read key)) :
    Takes form state read key json := by
  refine ⟨_, found, by simp [Field.of, unread], ?_⟩
  intro cs blanks spelled blank rest
  simp [Field.of, reads spelled blank rest, Except.map, filled]

theorem passColon_blanks {before : List Char} (blank : Blanks before) (rest : List Char) :
    passColon (before ++ ':' :: rest) = .ok rest := by
  rw [passColon, skipSpace_blanks blank rfl]
  rfl

section

variable {σ α : Type} {form : RecordForm σ α} {state : (String → Bool) → σ}

theorem Takes.readMember {read : String → Bool} {key : String} {json : Json}
    (takes : Takes form state read key json) {before after front : List Char}
    (blank : Blanks before) (blank' : Blanks after) (spelled : Spelled json front)
    (rest : List Char) :
    readMember form.fields key (state read) (before ++ ':' :: (after ++ (front ++ rest))) =
      .ok (state (readAlso read key), rest) := by
  obtain ⟨field, found, unread, reads⟩ := takes
  simp [Json.readMember, found, unread, passColon_blanks blank, reads spelled blank' rest]

theorem membersFrom_separated {entries : List (String × Json)}
    (takes : ∀ key json, (key, json) ∈ entries → ∀ read, read key = false →
      Takes form state read key json) (rest : List Char) {ordered : List (String × Json)} :
    ∀ {steps : Nat} {isFirst : Bool} {cs : List Char} {read : String → Bool},
      Separated (Member Spelled) isFirst ordered cs → ordered.length < steps →
        ordered ⊆ entries → (ordered.map Prod.fst).Nodup →
          (∀ key ∈ ordered.map Prod.fst, read key = false) →
            membersFrom form.fields steps isFirst (state read) (cs ++ '\x7d' :: rest) =
              .ok (state fun key => (ordered.map Prod.fst).contains key || read key, rest) := by
  -- induction on the members still to come: the state is always the one of the keys read so far
  induction ordered with
  | nil =>
      intro steps isFirst cs read separated enough _ _ _
      obtain ⟨steps, rfl⟩ : ∃ fewer, steps = fewer + 1 := ⟨steps - 1, by simp at enough; omega⟩
      cases separated with
      | nothing blank =>
          simp only [membersFrom, Json.nextKey, skipSpace_blanks blank (c := '\x7d') rfl]
          simp
  | cons entry ordered ih =>
      intro steps isFirst cs read separated enough among distinct new
      obtain ⟨key, json⟩ := entry
      rw [List.length_cons] at enough
      obtain ⟨steps, rfl⟩ : ∃ fewer, steps = fewer + 1 := ⟨steps - 1, by omega⟩
      obtain ⟨before, after, front, later, blank, blank', spelled, remaining, found⟩ :=
        separated.nextKey
      rw [List.map_cons, List.nodup_cons] at distinct
      have taken := (takes key json (among List.mem_cons_self) read
        (new key List.mem_cons_self)).readMember blank blank' spelled (later ++ '\x7d' :: rest)
      have stillNew : ∀ other ∈ ordered.map Prod.fst, readAlso read key other = false := by
        intro other member
        have differs : other ≠ key := fun same => distinct.1 (same ▸ member)
        simp [readAlso, differs, new other (List.mem_cons_of_mem key member)]
      have others := ih remaining (Nat.lt_of_succ_lt_succ enough)
        (fun entry member => among (List.mem_cons_of_mem _ member)) distinct.2 stillNew
      have all : (fun other => (ordered.map Prod.fst).contains other || readAlso read key other) =
          fun other => (((key, json) :: ordered).map Prod.fst).contains other || read other := by
        funext other
        rw [List.map_cons, List.contains_cons, readAlso, ← Bool.or_assoc,
          Bool.or_comm ((ordered.map Prod.fst).contains other)]
      simp only [membersFrom, found, stringRest_quoted, taken, others, all]

theorem Fills.reads {entries : List (String × Json)} {value : α}
    (fills : Fills form state entries value) : Reads (record form) (.object entries) value := by
  intro cs blanks spelled blank rest
  cases spelled with
  | @object _ ordered body order separated =>
      have fewer := length_le_of_members separated
      have keys : (ordered.map Prod.fst).Perm (entries.map Prod.fst) := order.map Prod.fst
      have enough : ordered.length < (body ++ '\x7d' :: rest).length + 1 := by
        rw [List.length_append]
        omega
      have members := membersFrom_separated fills.takes rest separated enough order.subset
        (keys.nodup_iff.mpr fills.distinct) (fun _ _ => rfl)
      have all : (fun key => (ordered.map Prod.fst).contains key || false) =
          fun key => (entries.map Prod.fst).contains key := by
        funext key
        rw [Bool.or_false, keys.contains_eq]
      rw [fills.start, all] at members
      rw [List.cons_append, List.append_assoc, List.singleton_append, record,
        skipSpace_blanks blank rfl]
      simp only [members, fills.finish]
      rfl

end

end ContainerReplay.Json
