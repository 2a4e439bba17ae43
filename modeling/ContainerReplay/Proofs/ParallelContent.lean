import ContainerReplay.Proofs.ParallelReading

/-!
# Content read in parallel

Content is taken token by token.  Each token keeps what two readers have built related, and so does
content as a whole, down to the entities in it.
-/

set_option autoImplicit false

namespace ContainerReplay.Markup

open Cursor

variable {shift : Nat} {related : Assembly → Assembly → Prop} {more : List Char}
variable {cursor after after' : Cursor} {assembly assembly' built built' : Assembly}

/-- Takes one token of content: how many elements are open then, if content goes on. -/
def contentStep (levels : Nat) (read : ReadEntity) (depth : Nat) (cursor : Cursor)
    (assembly : Assembly) : Except Fault (Option Nat × Cursor × Assembly) :=
  match ContentRule.of cursor with
  | .finished => .ok (none, cursor, assembly)
  | .unknown => .error (.unknownToken cursor.offset)
  | .comment => do
      let rest ← skipComment cursor
      .ok (some depth, rest, assembly.appendAside)
  | .instruction => do
      let rest ← skipInstruction cursor
      .ok (some depth, rest, assembly.appendAside)
  | .cdata => do
      let (rest, assembly) ← addSection cursor assembly
      .ok (some depth, rest, assembly)
  | .text => do
      let (run, rest) ← textRun cursor
      let assembly ← addText (levels < maxDepth) read run assembly
      .ok (some depth, rest, assembly)
  | .endTag => do
      let (rest, assembly) ← endTag cursor assembly
      .ok (if depth ≤ 1 then none else some (depth - 1), rest, assembly)
  | .startTag => do
      let (ends, rest, assembly) ← startTag levels cursor assembly
      .ok (some (if ends = .opened then depth + 1 else depth), rest, assembly)

theorem takeContent_succ (levels : Nat) (read : ReadEntity) (steps depth : Nat) (cursor : Cursor)
    (assembly : Assembly) :
    takeContent levels read (steps + 1) depth cursor assembly = (do
      let (next, rest, assembly) ← contentStep levels read depth cursor assembly
      match next with
      | none => .ok (rest, assembly)
      | some depth => takeContent levels read steps depth rest assembly) := by
  rw [takeContent, contentStep]
  cases ContentRule.of cursor with
  | finished => rfl
  | unknown => rfl
  | comment => cases skipComment cursor <;> rfl
  | instruction => cases skipInstruction cursor <;> rfl
  | cdata => cases addSection cursor assembly <;> rfl
  | text =>
      simp only
      cases textRun cursor with
      | error fault => rfl
      | ok taken =>
          obtain ⟨run, rest⟩ := taken
          cases added : addText (levels < maxDepth) read run assembly with
          | error fault => simp [bind, Except.bind, added]
          | ok built => simp [bind, Except.bind, added]
  | endTag =>
      cases endTag cursor assembly with
      | error fault => rfl
      | ok taken =>
          obtain ⟨rest, built⟩ := taken
          by_cases last : depth ≤ 1
          · simp [last, bind, Except.bind]
          · simp [last, bind, Except.bind]
  | startTag =>
      cases startTag levels cursor assembly with
      | error fault => rfl
      | ok taken =>
          obtain ⟨ends, rest, built⟩ := taken
          cases ends <;> rfl

namespace ContentRule

theorem of_nil (done : cursor.rest = []) : of cursor = finished := by
  rw [of, done]

theorem of_text {c : Char} {rest : List Char} (ahead : cursor.rest = c :: rest) (plain : c ≠ '<') :
    of cursor = text := by
  rw [of, ahead]
  split
  any_goals rfl
  all_goals simp_all

theorem of_mark {rest : List Char} (ahead : cursor.rest = '<' :: '!' :: rest) :
    of cursor =
      if cursor.startsWith "<!--" then comment
      else if cursor.startsWith "<![CDATA[" then cdata
      else unknown := by
  rw [of, ahead]
  rfl

theorem of_tag {c : Char} {rest : List Char} (ahead : cursor.rest = '<' :: c :: rest)
    (noMark : c ≠ '!') :
    of cursor = if c = '?' then instruction else if c = '/' then endTag else startTag := by
  rw [of, ahead]
  by_cases question : c = '?'
  · subst question
    rfl
  · by_cases slash : c = '/'
    · subst slash
      rfl
    · rw [if_neg question, if_neg slash]
      split
      any_goals rfl
      all_goals simp_all

/-- What begins at a place does not depend on what follows the text. -/
theorem of_moved (inside : cursor.rest ≠ []) (known : of cursor ≠ unknown) :
    of (cursor.moved shift more) = of cursor := by
  obtain ⟨c, tail, ahead⟩ := List.exists_cons_of_ne_nil inside
  have moved (rest : List Char) (same : cursor.rest = rest) :
      (cursor.moved shift more).rest = rest ++ more := by rw [moved_rest, same]
  by_cases plain : c ≠ '<'
  · rw [of_text ahead plain, of_text (moved _ ahead) plain]
  · obtain rfl : c = '<' := not_not.mp plain
    cases tail with
    | nil =>
        rw [of, ahead] at known
        exact absurd rfl known
    | cons d rest =>
        by_cases mark : d = '!'
        · subst mark
          have ruled := of_mark ahead
          rw [of_mark (moved _ ahead)]
          by_cases comment : cursor.startsWith "<!--" = true
          · rw [ruled, if_pos comment, if_pos (startsWith_moved shift more comment)]
          · rw [if_neg comment] at ruled
            by_cases section' : cursor.startsWith "<![CDATA[" = true
            · have bracket : '[' ∈ cursor.rest :=
                ((startsWith_iff _ _).mp section').subset (by decide)
              have noComment := startsWith_moved_false shift more (Bool.not_eq_true _ ▸ comment)
                bracket (by decide)
              rw [ruled, noComment, if_neg (by simp), if_pos section',
                if_pos (startsWith_moved shift more section')]
            · rw [if_neg section'] at ruled
              exact absurd ruled known
        · rw [of_tag ahead mark, of_tag (moved _ ahead) mark]

theorem of_less {tail : List Char} (ahead : cursor.rest = '<' :: tail) :
    of cursor ≠ finished ∧ of cursor ≠ text := by
  cases tail with
  | nil =>
      have ruled : of cursor = unknown := by
        rw [of, ahead]
        rfl
      rw [ruled]
      exact ⟨by decide, by decide⟩
  | cons c rest =>
      by_cases mark : c = '!'
      · subst mark
        rw [of_mark ahead]
        repeat' split
        all_goals exact ⟨by decide, by decide⟩
      · rw [of_tag ahead mark]
        repeat' split
        all_goals exact ⟨by decide, by decide⟩

theorem of_eq_finished (done : of cursor = finished) : cursor.rest = [] := by
  by_contra inside
  obtain ⟨c, tail, ahead⟩ := List.exists_cons_of_ne_nil inside
  by_cases plain : c ≠ '<'
  · rw [of_text ahead plain] at done
    cases done
  · obtain rfl : c = '<' := not_not.mp plain
    exact (of_less ahead).1 done

theorem of_eq_text (isText : of cursor = text) : ∃ c rest, cursor.rest = c :: rest ∧ c ≠ '<' := by
  cases ahead : cursor.rest with
  | nil =>
      rw [of_nil ahead] at isText
      cases isText
  | cons c rest =>
      refine ⟨c, rest, rfl, ?_⟩
      rintro rfl
      exact (of_less ahead).2 isText

end ContentRule

variable {levels depth : Nat} {read : ReadEntity} {next next' : Option Nat}

theorem inside_of_rule {rule : ContentRule} (ruled : ContentRule.of cursor = rule)
    (goesOn : rule ≠ .finished) : cursor.rest ≠ [] := by
  intro done
  rw [ContentRule.of_nil done] at ruled
  exact goesOn ruled.symm

theorem contentStep_shorter {depth' : Nat}
    (taken : contentStep levels read depth cursor assembly = .ok (some depth', after, built)) :
    after.rest.length < cursor.rest.length := by
  unfold contentStep at taken
  cases ruled : ContentRule.of cursor with
  | finished =>
      rw [ruled] at taken
      cases taken
  | unknown =>
      rw [ruled] at taken
      cases taken
  | comment =>
      simp only [ruled, bind_eq_ok, Except.ok.injEq, Prod.mk.injEq] at taken
      obtain ⟨_, skipped, _, rfl, _⟩ := taken
      exact (skipComment_suffix skipped).2
  | instruction =>
      simp only [ruled, bind_eq_ok, Except.ok.injEq, Prod.mk.injEq] at taken
      obtain ⟨_, skipped, _, rfl, _⟩ := taken
      exact (skipInstruction_suffix skipped).2
  | cdata =>
      simp only [ruled, bind_eq_ok, Prod.exists, Except.ok.injEq, Prod.mk.injEq] at taken
      obtain ⟨_, _, added, _, rfl, _⟩ := taken
      obtain ⟨_, _, inside, closed, _⟩ := addSection_eq_ok.mp added
      exact (enclosed_suffix inside closed (by decide)).2
  | text =>
      simp only [ruled, bind_eq_ok, Prod.exists, Except.ok.injEq, Prod.mk.injEq] at taken
      obtain ⟨_, _, run, _, _, _, rfl, _⟩ := taken
      obtain ⟨c, rest, ahead, plain⟩ := ContentRule.of_eq_text ruled
      rw [(textRun_spec run).2, behindText_rest, ahead,
        List.dropWhile_cons_of_pos (by simpa using plain)]
      exact Nat.lt_succ_of_le (List.dropWhile_suffix _).length_le
  | endTag =>
      simp only [ruled, bind_eq_ok, Prod.exists, Except.ok.injEq, Prod.mk.injEq] at taken
      obtain ⟨_, _, ended, _, rfl, _⟩ := taken
      exact endTag_shorter ended
  | startTag =>
      simp only [ruled, bind_eq_ok, Prod.exists, Except.ok.injEq, Prod.mk.injEq] at taken
      obtain ⟨_, _, _, started, _, rfl, _⟩ := taken
      exact startTag_shorter (inside_of_rule ruled (by decide)) started

/-- A token that only the end of the text ends, and which might go on behind it. -/
def OpenEnded (levels : Nat) (cursor : Cursor) (assembly : Assembly) : Prop :=
  match ContentRule.of cursor with
  | .text => cursor.behindText.rest = []
  | .startTag => ∃ rest built, startTag levels cursor assembly = .ok (.brokenOff, rest, built)
  | _ => False

theorem contentStep_parallel (parallel : Parallel shift related) (keeps : KeepsRelated related read)
    (together : related assembly assembly') (inside : cursor.rest ≠ [])
    (stops : OpenEnded levels cursor assembly' → Stops more)
    (first : contentStep levels read depth (cursor.moved shift more) assembly =
      .ok (next, after, built))
    (second : contentStep levels read depth cursor assembly' = .ok (next', after', built')) :
    next = next' ∧ after = after'.moved shift more ∧ related built built' := by
  unfold contentStep at first second
  have known : ContentRule.of cursor ≠ .unknown := by
    intro unknown
    rw [unknown] at second
    cases second
  rw [ContentRule.of_moved inside known] at first
  unfold OpenEnded at stops
  cases ruled : ContentRule.of cursor with
  | finished => exact absurd (ContentRule.of_eq_finished ruled) inside
  | unknown => exact absurd ruled known
  | comment =>
      simp only [ruled, bind_eq_ok, Except.ok.injEq, Prod.mk.injEq] at first second
      obtain ⟨_, skipped, rfl, rfl, rfl⟩ := second
      obtain ⟨_, skipped', rfl, rfl, rfl⟩ := first
      rw [skipComment_moved shift more skipped] at skipped'
      cases skipped'
      exact ⟨rfl, rfl, parallel.appendAside together⟩
  | instruction =>
      simp only [ruled, bind_eq_ok, Except.ok.injEq, Prod.mk.injEq] at first second
      obtain ⟨_, skipped, rfl, rfl, rfl⟩ := second
      obtain ⟨_, skipped', rfl, rfl, rfl⟩ := first
      rw [skipInstruction_moved shift more skipped] at skipped'
      cases skipped'
      exact ⟨rfl, rfl, parallel.appendAside together⟩
  | cdata =>
      simp only [ruled, bind_eq_ok, Prod.exists, Except.ok.injEq, Prod.mk.injEq] at first second
      obtain ⟨_, _, added, rfl, rfl, rfl⟩ := second
      obtain ⟨_, _, added', rfl, rfl, rfl⟩ := first
      exact ⟨rfl, addSection_parallel parallel together added' added⟩
  | text =>
      simp only [ruled, bind_eq_ok, Prod.exists, Except.ok.injEq, Prod.mk.injEq] at first second
      obtain ⟨run, stop, taken, _, added, rfl, rfl, rfl⟩ := second
      obtain ⟨run', _, taken', _, added', rfl, rfl, rfl⟩ := first
      obtain ⟨c, rest, ahead, plain⟩ := ContentRule.of_eq_text ruled
      obtain ⟨whole, left⟩ := textRun_spec taken
      have runs : run.rest ≠ [] := by simp [whole, text_rest, ahead, plain]
      have ends : stop.rest = [] → Stops more := by
        rw [ruled] at stops
        rwa [left]
      rw [textRun_moved shift more taken ends] at taken'
      cases taken'
      rw [addText_eq runs] at added
      rw [addText_eq (by simpa using runs)] at added'
      exact ⟨rfl, rfl, takeText_parallel parallel keeps together (by simp) (Nat.lt_succ_self _)
        added' added⟩
  | endTag =>
      simp only [ruled, bind_eq_ok, Prod.exists, Except.ok.injEq, Prod.mk.injEq] at first second
      obtain ⟨_, _, ended, rfl, rfl, rfl⟩ := second
      obtain ⟨_, _, ended', rfl, rfl, rfl⟩ := first
      exact ⟨rfl, endTag_parallel parallel together ended' ended⟩
  | startTag =>
      simp only [ruled, bind_eq_ok, Prod.exists, Except.ok.injEq, Prod.mk.injEq] at first second
      obtain ⟨ends, _, _, started, rfl, rfl, rfl⟩ := second
      obtain ⟨ends', _, _, started', rfl, rfl, rfl⟩ := first
      rw [ruled] at stops
      obtain ⟨rfl, rfl, builts, _⟩ := startTag_parallel parallel together inside started' started
        fun broken => stops ⟨_, _, by rw [started, broken]⟩
      exact ⟨rfl, rfl, builts⟩

/-- From related states on, the same content is read to related states. -/
theorem takeContent_parallel (parallel : Parallel shift related)
    (keeps : KeepsRelated related read) {steps steps' : Nat} (together : related assembly assembly')
    (enough : cursor.rest.length < steps) (enough' : cursor.rest.length < steps')
    (first : takeContent levels read steps depth (cursor.moved shift []) assembly =
      .ok (after, built))
    (second : takeContent levels read steps' depth cursor assembly' = .ok (after', built')) :
    after = after'.moved shift [] ∧ related built built' := by
  induction steps' generalizing steps depth cursor assembly assembly' with
  | zero => omega
  | succ steps' ih =>
      obtain ⟨steps, rfl⟩ : ∃ fewer, steps = fewer + 1 := ⟨steps - 1, by omega⟩
      rw [takeContent_succ] at first second
      simp only [bind_eq_ok, Prod.exists] at first second
      obtain ⟨next, rest, grown, step, second⟩ := second
      obtain ⟨next', rest', grown', step', first⟩ := first
      by_cases inside : cursor.rest = []
      · have done : ContentRule.of (cursor.moved shift []) = .finished :=
          ContentRule.of_nil (by simp [inside])
        rw [contentStep, ContentRule.of_nil inside] at step
        rw [contentStep, done] at step'
        cases step
        cases step'
        cases first
        cases second
        exact ⟨rfl, together⟩
      · obtain ⟨rfl, rfl, together⟩ := contentStep_parallel parallel keeps together inside
          (fun _ c none => by cases none) step' step
        cases next' with
        | none =>
            cases first
            cases second
            exact ⟨rfl, together⟩
        | some depth =>
            have shorter := contentStep_shorter step
            exact ih together (by omega) (by omega) first second

/-- How entities are read with a number of levels left. -/
def nestedRead : Nat → ReadEntity
  | 0 => none
  | levels + 1 => some (readEntity levels)

theorem readEntity_eq_ok :
    readEntity levels cursor assembly = .ok built ↔
      ∃ rest, takeContent levels (nestedRead levels) (cursor.rest.length + 1) 1 cursor assembly =
        .ok (rest, built) := by
  cases levels with
  | zero =>
      rw [readEntity, nestedRead]
      cases takeContent 0 none (cursor.rest.length + 1) 1 cursor assembly with
      | error fault => simp
      | ok result => simp [Prod.ext_iff]
  | succ levels =>
      rw [readEntity, nestedRead]
      cases takeContent (levels + 1) (some (readEntity levels)) (cursor.rest.length + 1) 1 cursor
        assembly with
      | error fault => simp
      | ok result => simp [Prod.ext_iff]

theorem nestedRead_keeps (parallel : Parallel 0 related) (levels : Nat) :
    KeepsRelated related (nestedRead levels) := by
  induction levels with
  | zero =>
      intro content reads
      cases reads
  | succ levels ih =>
      intro content reads cursor assembly assembly' built built' together first second
      cases reads
      obtain ⟨rest, taken⟩ := readEntity_eq_ok.mp first
      obtain ⟨rest', taken'⟩ := readEntity_eq_ok.mp second
      rw [← moved_nowhere cursor] at taken
      exact (takeContent_parallel parallel ih together (by simp) (Nat.lt_succ_self _) taken
        taken').2

end ContainerReplay.Markup
