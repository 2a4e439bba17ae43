import ContainerReplay.Proofs.MovedTokens

/-!
# Tokens read in parallel

Two readers stand at the same characters, and what they have built is related.  If every operation
on a tree under construction keeps them related, so does every tag, section and text: the two
readers move on together.
-/

set_option autoImplicit false

namespace ContainerReplay.Markup

open Cursor

/-- A relation that the operations on assemblies keep.  Places are larger by `shift` in the first of
the two texts. -/
structure Parallel (shift : Nat) (related : Assembly → Assembly → Prop) : Prop where
  entities : ∀ {first second : Assembly}, related first second → first.entities = second.entities
  references : ∀ {first second : Assembly}, related first second →
    first.references = second.references
  count : ∀ {first second : Assembly}, related first second → ∀ references,
    related { first with references } { second with references }
  enter : ∀ {first second : Assembly}, related first second →
    related { first with tag := none } { second with tag := none }
  resume : ∀ {around around' first second : Assembly}, related around around' →
    related first second →
      related { first with tag := around.tag } { second with tag := around'.tag }
  appendText : ∀ {first second : Assembly}, related first second → ∀ text,
    related (first.appendText text) (second.appendText text)
  appendAside : ∀ {first second : Assembly}, related first second →
    related first.appendAside second.appendAside
  startTag : ∀ {first second after after' : Assembly} {name : QualifiedName} {offset : Nat},
    related first second → first.startTag name (offset + shift) = .ok after →
      second.startTag name offset = .ok after' → related after after'
  addAttribute : ∀ {first second after after' : Assembly} {name : QualifiedName} {value : String}
    {offset : Nat}, related first second →
      first.addAttribute name value (offset + shift) = .ok after →
        second.addAttribute name value offset = .ok after' → related after after'
  endStartTag : ∀ {first second after after' : Assembly} {isEmpty : Bool}, related first second →
    first.endStartTag isEmpty = .ok after → second.endStartTag isEmpty = .ok after' →
      related after after'
  endElement : ∀ {first second after after' : Assembly} {name : QualifiedName} {offset : Nat},
    related first second → first.endElement name (offset + shift) = .ok after →
      second.endElement name offset = .ok after' → related after after'

theorem same_of_ok {α : Type} {first second : Except Fault α} {value value' : α}
    (same : first = second) (left : first = .ok value) (right : second = .ok value') :
    value = value' :=
  Except.ok.inj (left.symm.trans (same.trans right))

/-- Readers of one text that have built the same. -/
theorem parallel_eq : Parallel 0 Eq where
  entities same := congrArg _ same
  references same := congrArg _ same
  count same references := by rw [same]
  enter same := by rw [same]
  resume around same := by rw [around, same]
  appendText same text := by rw [same]
  appendAside same := by rw [same]
  startTag same := same_of_ok (by rw [same, Nat.add_zero])
  addAttribute same := same_of_ok (by rw [same, Nat.add_zero])
  endStartTag same := same_of_ok (by rw [same])
  endElement same := same_of_ok (by rw [same, Nat.add_zero])

/-! ## Attribute values -/

/-- Where no reference is broken, the text is at its end or goes on with a character or a
reference. -/
theorem reference_cases {cursor : Cursor}
    (whole : ∀ tail, cursor.rest = '&' :: tail → Reference.take? cursor ≠ none) :
    cursor.rest = [] ∨ (∃ c rest, cursor.rest = c :: rest ∧ c ≠ '&') ∨
      (∃ c stop, Reference.take? cursor = some (.char c, stop)) ∨
        ∃ name stop, Reference.take? cursor = some (.entity name, stop) := by
  cases ahead : cursor.rest with
  | nil => exact Or.inl rfl
  | cons c rest =>
      by_cases plain : c ≠ '&'
      · exact Or.inr (Or.inl ⟨c, rest, rfl, plain⟩)
      · obtain rfl : c = '&' := not_not.mp plain
        cases found : Reference.take? cursor with
        | none => exact absurd found (whole rest ahead)
        | some token =>
            obtain ⟨reference, stop⟩ := token
            cases reference with
            | char c => exact Or.inr (Or.inr (Or.inl ⟨c, stop, rfl⟩))
            | entity name => exact Or.inr (Or.inr (Or.inr ⟨name, stop, rfl⟩))

theorem takeValue_entities {assembly assembly' : Assembly}
    (same : assembly.entities = assembly'.entities) :
    takeValue assembly = takeValue assembly' := by
  have entity : assembly.entity? = assembly'.entity? := by
    funext name
    simp only [Assembly.entity?, same]
  funext isNested insert steps
  induction steps generalizing insert with
  | zero => rfl
  | succ steps ih =>
      funext cursor state
      simp only [takeValue, entity, ih]

theorem expandValue_entities {assembly assembly' : Assembly}
    (same : assembly.entities = assembly'.entities) :
    expandValue assembly = expandValue assembly' := by
  funext levels
  induction levels with
  | zero =>
      funext cursor state
      simp only [expandValue, takeValue_entities same]
  | succ levels ih =>
      funext cursor state
      simp only [expandValue, takeValue_entities same, ih]

/-- Counting looks at the offset only to blame it. -/
theorem countReference_anywhere {isNested : Bool} {references offset counted : Nat}
    (ok : countReference isNested references offset = .ok counted) (offset' : Nat) :
    countReference isNested references offset' = .ok counted := by
  unfold countReference at ok ⊢
  repeat' split at ok
  all_goals simp_all

variable {shift : Nat} {related : Assembly → Assembly → Prop} {more : List Char}
variable {cursor after after' : Cursor} {assembly assembly' built built' : Assembly}

section Value

variable {isNested : Bool} {insert : InsertEntity} {steps : Nat} {state value : ValueState}

theorem takeValue_atEnd (done : cursor.rest = []) :
    takeValue assembly isNested insert (steps + 1) cursor state = .ok state := by
  rw [takeValue, done]

theorem takeValue_plain {c : Char} {rest : List Char} (ahead : cursor.rest = c :: rest)
    (plain : c ≠ '&') :
    takeValue assembly isNested insert (steps + 1) cursor state =
      takeValue assembly isNested insert steps (cursor.advance 1)
        { state with taken := (valueChar c rest.head?).reverse ++ state.taken } := by
  rw [takeValue, ahead]
  simp only
  rw [if_pos plain]

/-- A character that a reference inside an entity stands for is normalized like any other. -/
theorem takeValue_char {c : Char} {stop : Cursor}
    (found : Reference.take? cursor = some (.char c, stop)) :
    takeValue assembly isNested insert (steps + 1) cursor state =
      if isNested ∧ c = '<' then .error (.unescapedLess cursor.offset)
      else takeValue assembly isNested insert steps stop
        { state with
          taken := (if isNested then (valueChar c none).reverse else [c]) ++ state.taken } := by
  obtain ⟨tail, _, _, ampersand, _⟩ := Reference.take?_eq_some.mp found
  rw [takeValue, ampersand]
  simp only [ne_eq, not_true_eq_false, if_false, found]
  cases isNested with
  | false => simp
  | true => simp

/-- An entity is inserted where a reference stands. -/
theorem takeValue_entity {name : String} {stop : Cursor}
    (found : Reference.take? cursor = some (.entity name, stop)) :
    takeValue assembly isNested insert (steps + 1) cursor state = .ok value ↔
      ∃ replacement references expand inserted, assembly.entity? name = some replacement ∧
        countReference isNested state.references stop.offset = .ok references ∧ expand ∈ insert ∧
        expand replacement { state with references } = .ok inserted ∧
        takeValue assembly isNested insert steps stop
          (if isNested then inserted else { inserted with references := 0 }) = .ok value := by
  obtain ⟨tail, _, _, ampersand, _⟩ := Reference.take?_eq_some.mp found
  rw [takeValue, ampersand]
  simp only [ne_eq, not_true_eq_false, if_false, found]
  cases assembly.entity? name with
  | none => simp
  | some replacement =>
      cases countReference isNested state.references stop.offset with
      | error fault => simp
      | ok references =>
          cases insert with
          | none => simp
          | some expand =>
              simp only [Option.some.injEq, Except.ok.injEq, Option.mem_def, exists_and_left,
                exists_eq_left']
              cases expand replacement { state with references } <;> simp

/-- What stands next in a value that is taken. -/
theorem takeValue_cases
    (taken : takeValue assembly isNested insert (steps + 1) cursor state = .ok value) :
    cursor.rest = [] ∨ (∃ c rest, cursor.rest = c :: rest ∧ c ≠ '&') ∨
      (∃ c stop, Reference.take? cursor = some (.char c, stop)) ∨
        ∃ name stop, Reference.take? cursor = some (.entity name, stop) := by
  refine reference_cases fun tail ahead broken => ?_
  rw [takeValue, ahead] at taken
  simp only [ne_eq, not_true_eq_false, if_false, broken] at taken
  cases taken

theorem takeValue_moved
    (taken : takeValue assembly isNested insert steps cursor state = .ok value) :
    takeValue assembly isNested insert steps (cursor.moved shift []) state = .ok value := by
  induction steps generalizing cursor state with
  | zero => exact taken
  | succ steps ih =>
      rcases takeValue_cases taken with done | ⟨c, rest, ahead, plain⟩ | ⟨c, stop, found⟩ |
        ⟨name, stop, found⟩
      · rw [takeValue_atEnd done] at taken
        rw [takeValue_atEnd (by simp [done])]
        exact taken
      · have here : 1 ≤ cursor.rest.length := by simp [ahead]
        rw [takeValue_plain ahead plain] at taken
        rw [takeValue_plain (by simpa using ahead) plain, advance_moved shift [] here]
        exact ih taken
      · rw [takeValue_char found] at taken
        rw [takeValue_char (Reference.take?_moved shift [] found)]
        split at taken
        · cases taken
        · rename_i allowed
          rw [if_neg allowed]
          exact ih taken
      · obtain ⟨replacement, references, expand, inserted, declared, counted, nests, expanded,
          taken⟩ := (takeValue_entity found).mp taken
        exact (takeValue_entity (Reference.take?_moved shift [] found)).mpr ⟨replacement,
          references, expand, inserted, declared, countReference_anywhere counted _, nests,
          expanded, ih taken⟩

end Value

theorem expandValue_moved {levels : Nat} {state value : ValueState}
    (expanded : expandValue assembly levels cursor state = .ok value) :
    expandValue assembly levels (cursor.moved shift []) state = .ok value := by
  cases levels with
  | zero =>
      rw [expandValue] at expanded ⊢
      rw [moved_rest, List.append_nil]
      exact takeValue_moved expanded
  | succ levels =>
      rw [expandValue] at expanded ⊢
      rw [moved_rest, List.append_nil]
      exact takeValue_moved expanded

/-! ## Tags -/

theorem addAttribute_eq_ok {levels : Nat} :
    addAttribute levels cursor assembly = .ok (after, built) ↔
      ∃ name spelled value, takeAttribute cursor = .ok (name, spelled, after) ∧
        expandValue assembly levels spelled ⟨[], assembly.references⟩ = .ok value ∧
        { assembly with references := value.references }.addAttribute name
          (String.ofList value.taken.reverse) cursor.offset = .ok built := by
  unfold addAttribute
  simp only [bind_eq_ok, Prod.exists, Except.ok.injEq, Prod.mk.injEq]
  constructor
  · rintro ⟨name, spelled, _, taken, value, expanded, _, added, rfl, rfl⟩
    exact ⟨name, spelled, value, taken, expanded, added⟩
  · rintro ⟨name, spelled, value, taken, expanded, added⟩
    exact ⟨name, spelled, after, taken, value, expanded, built, added, rfl, rfl⟩

theorem addAttribute_parallel (parallel : Parallel shift related)
    (together : related assembly assembly') {levels : Nat}
    (first : addAttribute levels (cursor.moved shift more) assembly = .ok (after, built))
    (second : addAttribute levels cursor assembly' = .ok (after', built')) :
    after = after'.moved shift more ∧ related built built' := by
  obtain ⟨name, spelled, value, taken, expanded, added⟩ := addAttribute_eq_ok.mp second
  obtain ⟨_, _, value', taken', expanded', added'⟩ := addAttribute_eq_ok.mp first
  rw [takeAttribute_moved shift more taken] at taken'
  cases taken'
  rw [expandValue_entities (parallel.entities together), parallel.references together,
    expandValue_moved expanded] at expanded'
  cases expanded'
  exact ⟨rfl, parallel.addAttribute (parallel.count together _) added' added⟩

theorem addAttribute_shorter {levels : Nat}
    (added : addAttribute levels cursor assembly = .ok (after, built)) :
    after.rest.length < cursor.rest.length := by
  obtain ⟨_, _, _, taken, _, _⟩ := addAttribute_eq_ok.mp added
  exact (takeAttribute_suffix taken).2

/-- What a tag goes on with. -/
theorem takeTag_ahead {levels steps : Nat} {c : Char} {tail : List Char}
    (ahead : cursor.skipSpaces.rest = c :: tail) :
    takeTag levels (steps + 1) cursor assembly =
      if c = '/' then do
        let rest ← (cursor.skipSpaces.advance 1).expect '>'
        let assembly ← assembly.endStartTag true
        .ok (.complete, rest, assembly)
      else if c = '>' then do
        let assembly ← assembly.endStartTag false
        .ok (.opened, cursor.skipSpaces.advance 1, assembly)
      else if cursor.atSpace = false then .error cursor.missingSpace
      else (do
        let (rest, assembly) ← addAttribute levels cursor.skipSpaces assembly
        takeTag levels steps rest assembly) := by
  have left : cursor.atEnd = false := by
    have nonempty := ne_nil_of_suffix (skipSpaces_suffix cursor) (by simp [ahead])
    simpa [atEnd] using nonempty
  rw [takeTag, left, if_neg (by simp)]
  simp only [ahead]
  split
  · rename_i none
    cases none
  · rename_i slash
    cases slash
    rfl
  · rename_i closing
    cases closing
    rfl
  · rename_i notSlash notEnd
    have slash : c ≠ '/' := fun same => notSlash tail (by rw [same])
    have closing : c ≠ '>' := fun same => notEnd tail (by rw [same])
    rw [if_neg slash, if_neg closing]
    split
    · rfl
    · cases addAttribute levels cursor.skipSpaces assembly <;> rfl

/-- What follows does not go on with a name, a tag or a text. -/
def Stops (more : List Char) : Prop :=
  ∀ c ∈ more.head?, c = '<'

theorem Stops.ends (stops : Stops more) {test : Char → Bool} (fails : test '<' = false) :
    Ends more test after := by
  intro _ c here
  rw [stops c here, fails]

theorem skipSpaces_rest (cursor : Cursor) :
    cursor.skipSpaces.rest = cursor.rest.dropWhile isSpace :=
  takeWhile_rest cursor isSpace

/-- A tag that is broken off at the end of a text is refused where another tag follows. -/
theorem takeTag_broken {levels steps : Nat} {ends : TagEnd} (stops : Stops cursor.rest)
    (taken : takeTag levels (steps + 1) cursor assembly = .ok (ends, after, built)) :
    cursor.rest = [] := by
  cases ahead : cursor.rest with
  | nil => rfl
  | cons c tail =>
      obtain rfl : c = '<' := stops c (by rw [ahead]; rfl)
      have still : cursor.skipSpaces.rest = '<' :: tail := by
        rw [skipSpaces_rest, ahead]
        rfl
      have noSpace : cursor.atSpace = false := by
        rw [atSpace, ahead]
        rfl
      rw [takeTag_ahead still, if_neg (by decide), if_neg (by decide), if_pos noSpace] at taken
      cases taken

theorem takeTag_atEnd {levels steps : Nat} (done : cursor.rest = []) :
    takeTag levels (steps + 1) cursor assembly = .ok (.brokenOff, cursor, assembly) := by
  rw [takeTag, if_pos (by simp [atEnd, done])]

theorem takeTag_spaces {levels steps : Nat} (inside : cursor.rest ≠ [])
    (spaces : cursor.skipSpaces.rest = []) :
    takeTag levels (steps + 1) cursor assembly = .error .endOfText := by
  rw [takeTag, if_neg (by simpa [atEnd] using inside)]
  simp only [spaces]

theorem takeTag_parallel (parallel : Parallel shift related) {levels steps steps' : Nat}
    {ends ends' : TagEnd} (together : related assembly assembly')
    (enough : (cursor.rest ++ more).length < steps) (enough' : cursor.rest.length < steps')
    (first : takeTag levels steps (cursor.moved shift more) assembly = .ok (ends, after, built))
    (second : takeTag levels steps' cursor assembly' = .ok (ends', after', built'))
    (stops : ends' = .brokenOff → Stops more) :
    ends = ends' ∧ after = after'.moved shift more ∧ related built built' ∧
      (ends' = .brokenOff → more = []) := by
  induction steps' generalizing steps cursor assembly assembly' with
  | zero => omega
  | succ steps' ih =>
      obtain ⟨steps, rfl⟩ : ∃ fewer, steps = fewer + 1 := ⟨steps - 1, by omega⟩
      by_cases done : cursor.rest = []
      · -- the second text ends in the tag, and so must the first
        have alone : (cursor.moved shift more).rest = more := by simp [done]
        rw [takeTag_atEnd done] at second
        cases second
        have nothing := takeTag_broken (by rw [alone]; exact stops rfl) first
        rw [takeTag_atEnd nothing] at first
        cases first
        exact ⟨rfl, rfl, together, fun _ => alone ▸ nothing⟩
      · cases ahead : cursor.skipSpaces.rest with
        | nil =>
            rw [takeTag_spaces done ahead] at second
            cases second
        | cons c tail =>
            have left : cursor.skipSpaces.rest ≠ [] := by simp [ahead]
            have enoughLeft : 1 ≤ cursor.skipSpaces.rest.length := by simp [ahead]
            have still := skipSpaces_moved shift more (ends_of_ne more left)
            have ahead' : (cursor.moved shift more).skipSpaces.rest = c :: (tail ++ more) := by
              rw [still, moved_rest, ahead, List.cons_append]
            rw [takeTag_ahead ahead] at second
            rw [takeTag_ahead ahead', still, advance_moved shift more enoughLeft] at first
            by_cases slash : c = '/'
            · rw [if_pos slash] at first second
              simp only [bind_eq_ok, Except.ok.injEq, Prod.mk.injEq] at first second
              obtain ⟨_, closed, _, ended, rfl, rfl, rfl⟩ := second
              obtain ⟨_, closed', _, ended', rfl, rfl, rfl⟩ := first
              rw [expect_moved shift more closed] at closed'
              cases closed'
              exact ⟨rfl, rfl, parallel.endStartTag together ended' ended,
                fun broken => by cases broken⟩
            · rw [if_neg slash] at first second
              by_cases closing : c = '>'
              · rw [if_pos closing] at first second
                simp only [bind_eq_ok, Except.ok.injEq, Prod.mk.injEq] at first second
                obtain ⟨_, ended, rfl, rfl, rfl⟩ := second
                obtain ⟨_, ended', rfl, rfl, rfl⟩ := first
                exact ⟨rfl, rfl, parallel.endStartTag together ended' ended,
                  fun broken => by cases broken⟩
              · rw [if_neg closing] at first second
                split at second
                · cases second
                · split at first
                  · cases first
                  · simp only [bind_eq_ok, Prod.exists] at first second
                    obtain ⟨stop, grown, added, further⟩ := second
                    obtain ⟨stop', grown', added', further'⟩ := first
                    obtain ⟨rfl, together⟩ := addAttribute_parallel parallel together added' added
                    have shorter := addAttribute_shorter added
                    have within := (skipSpaces_suffix cursor).length_le
                    rw [List.length_append] at enough
                    refine ih together ?_ ?_ further' further
                    · rw [List.length_append]
                      omega
                    · omega

theorem startTag_eq_ok {levels : Nat} {ends : TagEnd} :
    startTag levels cursor assembly = .ok (ends, after, built) ↔
      ∃ name named begun, (cursor.advance 1).qualifiedName = .ok (name, named) ∧
        assembly.startTag name cursor.offset = .ok begun ∧
        takeTag levels (named.rest.length + 1) named begun = .ok (ends, after, built) := by
  unfold startTag
  simp only [bind_eq_ok, Prod.exists]
  constructor
  · rintro ⟨name, named, qualified, begun, started, taken⟩
    exact ⟨name, named, begun, qualified, started, taken⟩
  · rintro ⟨name, named, begun, qualified, started, taken⟩
    exact ⟨name, named, qualified, begun, started, taken⟩

theorem startTag_parallel (parallel : Parallel shift related) {levels : Nat} {ends ends' : TagEnd}
    (together : related assembly assembly') (inside : cursor.rest ≠ [])
    (first : startTag levels (cursor.moved shift more) assembly = .ok (ends, after, built))
    (second : startTag levels cursor assembly' = .ok (ends', after', built'))
    (stops : ends' = .brokenOff → Stops more) :
    ends = ends' ∧ after = after'.moved shift more ∧ related built built' ∧
      (ends' = .brokenOff → more = []) := by
  obtain ⟨name, named, begun, qualified, started, taken⟩ := startTag_eq_ok.mp second
  obtain ⟨name', named', begun', qualified', started', taken'⟩ := startTag_eq_ok.mp first
  have enough : 1 ≤ cursor.rest.length := List.length_pos_iff.mpr inside
  have ended : Ends more isNamePart named := by
    intro nothing
    rw [takeTag_atEnd nothing] at taken
    cases taken
    exact (stops rfl).ends (by decide) nothing
  rw [advance_moved shift more enough, qualifiedName_moved shift more qualified ended] at qualified'
  cases qualified'
  exact takeTag_parallel parallel (parallel.startTag together started' started)
    (Nat.lt_succ_self _) (Nat.lt_succ_self _) taken' taken stops

theorem takeTag_shorter {levels steps : Nat} {ends : TagEnd}
    (taken : takeTag levels steps cursor assembly = .ok (ends, after, built)) :
    after.rest.length ≤ cursor.rest.length := by
  induction steps generalizing cursor assembly with
  | zero =>
      cases taken
      exact Nat.le_refl _
  | succ steps ih =>
      have within := (skipSpaces_suffix cursor).length_le
      have further : (cursor.skipSpaces.advance 1).rest.length ≤ cursor.skipSpaces.rest.length :=
        (advance_suffix _ 1).length_le
      by_cases done : cursor.rest = []
      · rw [takeTag_atEnd done] at taken
        cases taken
        exact Nat.le_refl _
      · cases ahead : cursor.skipSpaces.rest with
        | nil =>
            rw [takeTag_spaces done ahead] at taken
            cases taken
        | cons c tail =>
            rw [takeTag_ahead ahead] at taken
            split at taken
            · simp only [bind_eq_ok, Except.ok.injEq, Prod.mk.injEq] at taken
              obtain ⟨_, closed, _, _, _, rfl, _⟩ := taken
              exact (expect_suffix closed).length_le.trans (further.trans within)
            · split at taken
              · simp only [bind_eq_ok, Except.ok.injEq, Prod.mk.injEq] at taken
                obtain ⟨_, _, _, rfl, _⟩ := taken
                exact further.trans within
              · split at taken
                · cases taken
                · simp only [bind_eq_ok, Prod.exists] at taken
                  obtain ⟨stop, grown, added, taken⟩ := taken
                  have shorter := addAttribute_shorter added
                  have rest := ih taken
                  omega

theorem startTag_shorter {levels : Nat} {ends : TagEnd} (inside : cursor.rest ≠ [])
    (taken : startTag levels cursor assembly = .ok (ends, after, built)) :
    after.rest.length < cursor.rest.length := by
  obtain ⟨_, named, _, qualified, _, taken⟩ := startTag_eq_ok.mp taken
  have rest := takeTag_shorter taken
  have name := (qualifiedName_suffix qualified).length_le
  have enough : 1 ≤ cursor.rest.length := List.length_pos_iff.mpr inside
  simp only [advance, List.length_drop] at name
  omega

theorem endTag_eq_ok :
    endTag cursor assembly = .ok (after, built) ↔
      ∃ name named, (cursor.advance 2).qualifiedName = .ok (name, named) ∧
        named.skipSpaces.expect '>' = .ok after ∧
        assembly.endElement name cursor.offset = .ok built := by
  unfold endTag
  simp only [bind_eq_ok, Prod.exists, Except.ok.injEq, Prod.mk.injEq]
  constructor
  · rintro ⟨name, named, qualified, _, closed, _, ended, rfl, rfl⟩
    exact ⟨name, named, qualified, closed, ended⟩
  · rintro ⟨name, named, qualified, closed, ended⟩
    exact ⟨name, named, qualified, after, closed, built, ended, rfl, rfl⟩

theorem endTag_shorter (taken : endTag cursor assembly = .ok (after, built)) :
    after.rest.length < cursor.rest.length := by
  obtain ⟨_, named, qualified, closed, _⟩ := endTag_eq_ok.mp taken
  obtain ⟨rest, ahead, rfl⟩ := expect_eq_ok.mp closed
  have within := ((skipSpaces_suffix named).trans
    ((qualifiedName_suffix qualified).trans (advance_suffix cursor 2))).length_le
  rw [ahead, List.length_cons] at within
  exact within

theorem endTag_parallel (parallel : Parallel shift related) (together : related assembly assembly')
    (first : endTag (cursor.moved shift more) assembly = .ok (after, built))
    (second : endTag cursor assembly' = .ok (after', built')) :
    after = after'.moved shift more ∧ related built built' := by
  obtain ⟨name, named, qualified, closed, ended⟩ := endTag_eq_ok.mp second
  obtain ⟨name', named', qualified', closed', ended'⟩ := endTag_eq_ok.mp first
  obtain ⟨rest, ahead, _⟩ := expect_eq_ok.mp closed
  have spaced : named.skipSpaces.rest ≠ [] := by simp [ahead]
  have left := ne_nil_of_suffix (skipSpaces_suffix named) spaced
  have enough : 2 ≤ cursor.rest.length := by
    by_contra few
    exact ne_nil_of_suffix (qualifiedName_suffix qualified) left (List.drop_of_length_le (by omega))
  rw [advance_moved shift more enough,
    qualifiedName_moved shift more qualified (ends_of_ne more left)] at qualified'
  cases qualified'
  rw [skipSpaces_moved shift more (ends_of_ne more spaced),
    expect_moved shift more closed] at closed'
  cases closed'
  exact ⟨rfl, parallel.endElement together ended' ended⟩

/-! ## Sections and texts -/

theorem addSection_eq_ok :
    addSection cursor assembly = .ok (after, built) ↔
      ∃ body stop, (cursor.advance 9).takeUntil ("]]>".toList.isPrefixOf ·) = .ok (body, stop) ∧
        stop.expectText "]]>" = .ok after ∧ built = assembly.appendText (normalized body) := by
  unfold addSection
  simp only [bind_eq_ok, Prod.exists, Except.ok.injEq, Prod.mk.injEq]
  constructor
  · rintro ⟨body, stop, taken, _, closed, rfl, rfl⟩
    exact ⟨body, stop, taken, closed, rfl⟩
  · rintro ⟨body, stop, taken, closed, rfl⟩
    exact ⟨body, stop, taken, after, closed, rfl, rfl⟩

theorem addSection_parallel (parallel : Parallel shift related)
    (together : related assembly assembly')
    (first : addSection (cursor.moved shift more) assembly = .ok (after, built))
    (second : addSection cursor assembly' = .ok (after', built')) :
    after = after'.moved shift more ∧ related built built' := by
  obtain ⟨body, stop, taken, closed, rfl⟩ := addSection_eq_ok.mp second
  obtain ⟨body', stop', taken', closed', rfl⟩ := addSection_eq_ok.mp first
  obtain ⟨takenMoved, closedMoved⟩ := enclosed_moved shift more taken closed (by decide)
  rw [takenMoved] at taken'
  cases taken'
  rw [closedMoved] at closed'
  cases closed'
  exact ⟨rfl, parallel.appendText together _⟩

/-- Reading an entity keeps what has been built related. -/
def KeepsRelated (related : Assembly → Assembly → Prop) (read : ReadEntity) : Prop :=
  ∀ content ∈ read, ∀ (cursor : Cursor) (assembly assembly' built built' : Assembly),
    related assembly assembly' → content cursor assembly = .ok built →
      content cursor assembly' = .ok built' → related built built'

theorem enterEntity_eq_ok {isNested : Bool} {read : Cursor → Assembly → Except Fault Assembly} :
    enterEntity isNested read cursor assembly = .ok built ↔
      ∃ inner, read cursor { assembly with tag := none } = .ok inner ∧
        built = { inner with
          tag := assembly.tag
          references := if isNested then inner.references else 0 } := by
  unfold enterEntity
  cases read cursor { assembly with tag := none } with
  | error fault => simp
  | ok inner => simp [eq_comm]

theorem enterEntity_parallel (parallel : Parallel shift related) {read : ReadEntity}
    (keeps : KeepsRelated related read) (together : related assembly assembly') {isNested : Bool}
    {content : Cursor → Assembly → Except Fault Assembly} (reads : content ∈ read)
    (first : enterEntity isNested content cursor assembly = .ok built)
    (second : enterEntity isNested content cursor assembly' = .ok built') :
    related built built' := by
  obtain ⟨inner, done, rfl⟩ := enterEntity_eq_ok.mp first
  obtain ⟨inner', done', rfl⟩ := enterEntity_eq_ok.mp second
  have inners := keeps content reads cursor _ _ _ _ (parallel.enter together) done done'
  rw [parallel.references inners]
  exact parallel.count (parallel.resume together inners) _

theorem flush_parallel (parallel : Parallel shift related) (together : related assembly assembly')
    (buffer : TextBuffer) : related (buffer.flush assembly) (buffer.flush assembly') := by
  obtain ⟨taken, isVerbatim⟩ := buffer
  cases taken with
  | nil => exact together
  | cons c taken => exact parallel.appendText together _

section Text

variable {isNested : Bool} {read : ReadEntity} {steps : Nat} {buffer : TextBuffer}

theorem takeText_atEnd (done : cursor.rest = []) :
    takeText isNested read (steps + 1) cursor buffer assembly = .ok (buffer.flush assembly) := by
  rw [takeText, done]

theorem takeText_plain {c : Char} {rest : List Char} (ahead : cursor.rest = c :: rest)
    (plain : c ≠ '&') :
    takeText isNested read (steps + 1) cursor buffer assembly =
      takeText isNested read steps (cursor.advance 1) (buffer.pushPlain c rest.isEmpty)
        assembly := by
  rw [takeText, ahead]
  simp only
  rw [if_pos plain]

theorem takeText_char {c : Char} {stop : Cursor}
    (found : Reference.take? cursor = some (.char c, stop)) :
    takeText isNested read (steps + 1) cursor buffer assembly =
      takeText isNested read steps stop (buffer.pushReferenced c isNested stop.atEnd) assembly := by
  obtain ⟨rest, _, _, ampersand, _⟩ := Reference.take?_eq_some.mp found
  rw [takeText, ampersand]
  simp only [ne_eq, not_true_eq_false, if_false, found]

/-- The entity of a reference is read between the text before it and the text after it. -/
theorem takeText_entity {name : String} {stop : Cursor}
    (found : Reference.take? cursor = some (.entity name, stop)) :
    takeText isNested read (steps + 1) cursor buffer assembly = .ok built ↔
      ∃ replacement references content inner, assembly.entity? name = some replacement ∧
        countReference isNested (buffer.flush assembly).references stop.offset = .ok references ∧
        content ∈ read ∧
        enterEntity isNested content replacement { buffer.flush assembly with references } =
          .ok inner ∧
        takeText isNested read steps stop {} inner = .ok built := by
  obtain ⟨rest, _, _, ampersand, _⟩ := Reference.take?_eq_some.mp found
  rw [takeText, ampersand]
  simp only [ne_eq, not_true_eq_false, if_false, found]
  cases assembly.entity? name with
  | none => simp
  | some replacement =>
      cases countReference isNested (buffer.flush assembly).references stop.offset with
      | error fault => simp
      | ok references =>
          cases read with
          | none => simp
          | some content =>
              simp only [Option.some.injEq, Except.ok.injEq, Option.mem_def, exists_and_left,
                exists_eq_left']
              cases enterEntity isNested content replacement
                { buffer.flush assembly with references } <;> simp

/-- Two readers that know the same entities come to the same entity. -/
theorem takeText_entities {steps' : Nat} {buffer' : TextBuffer} {name : String} {stop : Cursor}
    (found : Reference.take? cursor = some (.entity name, stop))
    (entities : assembly.entities = assembly'.entities)
    (counts : (buffer.flush assembly).references = (buffer'.flush assembly').references)
    (first : takeText isNested read (steps + 1) (cursor.moved shift more) buffer assembly =
      .ok built)
    (second : takeText isNested read (steps' + 1) cursor buffer' assembly' = .ok built') :
    ∃ replacement references content inner inner', content ∈ read ∧
      enterEntity isNested content replacement { buffer.flush assembly with references } =
        .ok inner ∧
      enterEntity isNested content replacement { buffer'.flush assembly' with references } =
        .ok inner' ∧
      takeText isNested read steps (stop.moved shift more) {} inner = .ok built ∧
      takeText isNested read steps' stop {} inner' = .ok built' := by
  obtain ⟨replacement, references, content, inner', declared, counted, reads, entered', second⟩ :=
    (takeText_entity found).mp second
  obtain ⟨_, _, _, inner, declared', counted', reads', entered, first⟩ :=
    (takeText_entity (Reference.take?_moved shift more found)).mp first
  rw [Assembly.entity?, entities, ← Assembly.entity?, declared] at declared'
  cases declared'
  rw [counts, countReference_anywhere counted] at counted'
  cases counted'
  cases reads.symm.trans reads'
  exact ⟨replacement, references, content, inner, inner', reads, entered, entered', first, second⟩

/-- What stands next in a text that is taken. -/
theorem takeText_cases
    (taken : takeText isNested read (steps + 1) cursor buffer assembly = .ok built) :
    cursor.rest = [] ∨ (∃ c rest, cursor.rest = c :: rest ∧ c ≠ '&') ∨
      (∃ c stop, Reference.take? cursor = some (.char c, stop)) ∨
        ∃ name stop, Reference.take? cursor = some (.entity name, stop) := by
  refine reference_cases fun tail ahead broken => ?_
  rw [takeText, ahead] at taken
  simp only [ne_eq, not_true_eq_false, if_false, broken] at taken
  cases taken

theorem takeText_parallel (parallel : Parallel shift related) (keeps : KeepsRelated related read)
    {steps' : Nat} (together : related assembly assembly') (enough : cursor.rest.length < steps)
    (enough' : cursor.rest.length < steps')
    (first : takeText isNested read steps (cursor.moved shift []) buffer assembly = .ok built)
    (second : takeText isNested read steps' cursor buffer assembly' = .ok built') :
    related built built' := by
  induction steps' generalizing steps cursor buffer assembly assembly' with
  | zero => omega
  | succ steps' ih =>
      obtain ⟨steps, rfl⟩ : ∃ fewer, steps = fewer + 1 := ⟨steps - 1, by omega⟩
      rcases takeText_cases second with done | ⟨c, rest, ahead, plain⟩ | ⟨c, stop, found⟩ |
        ⟨name, stop, found⟩
      · have done' : (cursor.moved shift []).rest = [] := by simp [done]
        rw [takeText_atEnd done] at second
        rw [takeText_atEnd done'] at first
        cases second
        cases first
        exact flush_parallel parallel together buffer
      · have ahead' : (cursor.moved shift []).rest = c :: rest := by simp [ahead]
        have here : 1 ≤ cursor.rest.length := by simp [ahead]
        rw [takeText_plain ahead plain] at second
        rw [takeText_plain ahead' plain, advance_moved shift [] here] at first
        refine ih together ?_ ?_ first second
        all_goals
          simp only [advance, List.length_drop]
          omega
      · have shorter := (Reference.take?_suffix found).2
        have still : (stop.moved shift []).atEnd = stop.atEnd := by simp [atEnd]
        rw [takeText_char found] at second
        rw [takeText_char (Reference.take?_moved shift [] found), still] at first
        exact ih together (by omega) (by omega) first second
      · have shorter := (Reference.take?_suffix found).2
        have flushed := flush_parallel parallel together buffer
        obtain ⟨_, references, content, _, _, reads, entered, entered', first, second⟩ :=
          takeText_entities found (parallel.entities together) (parallel.references flushed) first
            second
        have inners := enterEntity_parallel parallel keeps (parallel.count flushed references) reads
          entered entered'
        exact ih inners (by omega) (by omega) first second

theorem pushPlain_clean {c : Char} {isLast : Bool} (verbatim : buffer.isVerbatim = false)
    (before : buffer.taken.head? ≠ some '\r') (clean : c ≠ '\r') :
    buffer.pushPlain c isLast = { buffer with taken := c :: buffer.taken } := by
  rw [TextBuffer.pushPlain, verbatim, if_neg (by simp), TextBuffer.pushNormalized]
  split
  · rename_i earlier same
    rw [same] at before
    exact absurd rfl before
  · rw [if_neg fun last => clean last.2, verbatim]

/-- A text without references and carriage returns is taken as it is. -/
theorem takeText_clean (enough : cursor.rest.length < steps)
    (clean : ∀ c ∈ cursor.rest, c ≠ '&' ∧ c ≠ '\r') (verbatim : buffer.isVerbatim = false)
    (before : buffer.taken.head? ≠ some '\r') :
    takeText isNested read steps cursor buffer assembly =
      .ok (TextBuffer.flush { buffer with taken := cursor.rest.reverse ++ buffer.taken }
        assembly) := by
  induction steps generalizing cursor buffer with
  | zero => omega
  | succ steps ih =>
      cases ahead : cursor.rest with
      | nil =>
          rw [takeText_atEnd ahead]
          rfl
      | cons c rest =>
          rw [ahead] at clean enough
          obtain ⟨plain, noReturn⟩ := clean c List.mem_cons_self
          have left : (cursor.advance 1).rest = rest := by simp [advance, ahead]
          rw [takeText_plain ahead plain, pushPlain_clean verbatim before noReturn, ih]
          · simp [left]
          · rw [left]
            simpa using enough
          · intro d member
            rw [left] at member
            exact clean d (List.mem_cons_of_mem _ member)
          · exact verbatim
          · simpa using noReturn

/-- The way for a text without references is a way round the general one. -/
theorem addText_eq (left : cursor.rest ≠ []) :
    addText isNested read cursor assembly =
      takeText isNested read (cursor.rest.length + 1) cursor {} assembly := by
  unfold addText
  split
  · rfl
  · rename_i clean
    rw [takeText_clean (Nat.lt_succ_self _) ?_ rfl (by simp)]
    · simp only [List.append_nil, TextBuffer.flush]
      split
      · rename_i nothing
        exact absurd (List.reverse_eq_nil_iff.mp nothing) left
      · rw [List.reverse_reverse]
    · simpa using clean

end Text

end ContainerReplay.Markup
