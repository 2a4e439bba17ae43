import ContainerReplay.Proofs.AbreastAssemblies
import ContainerReplay.Proofs.ParallelReading

/-!
# A text with a comment in it

A comment ends a text; without it the text goes on with what follows the comment.  The entities
before the comment are read from the same states, and those behind it from states that differ in the
comment and the texts around it.
-/

set_option autoImplicit false

namespace ContainerReplay.Markup

open Cursor

theorem same_of_exists {related : Assembly → Assembly → Prop} {result : Except Fault Assembly}
    {built built' : Assembly} (found : ∃ after', result = .ok after' ∧ related built after')
    (done : result = .ok built') : related built built' := by
  obtain ⟨after', same, together⟩ := found
  cases same.symm.trans done
  exact together

/-- Two readers come to the same up to one comment and the texts around it, and stay so. -/
theorem abreast_parallel (shift : Nat) : Parallel shift Abreast where
  entities abreast := abreast.choose_spec.entities
  references abreast := abreast.choose_spec.references
  count := fun ⟨isInnermost, level⟩ _ => ⟨isInnermost, { level with references := rfl }⟩
  enter := fun ⟨isInnermost, level⟩ => ⟨isInnermost, { level with tag := rfl }⟩
  resume := fun ⟨_, around⟩ ⟨isInnermost, level⟩ => ⟨isInnermost, { level with tag := around.tag }⟩
  appendText := fun ⟨isInnermost, level⟩ text => ⟨isInnermost, level.appendText text⟩
  appendAside := fun ⟨isInnermost, level⟩ => ⟨isInnermost, level.appendAside⟩
  startTag := fun ⟨isInnermost, level⟩ begun begun' =>
    ⟨isInnermost, same_of_exists (level.startTag _ begun) begun'⟩
  addAttribute := fun ⟨isInnermost, level⟩ added added' =>
    ⟨isInnermost, same_of_exists (level.addAttribute _ added) added'⟩
  endStartTag := fun abreast ended ended' => same_of_exists (abreast.endStartTag _ ended) ended'
  endElement := fun abreast ended ended' => same_of_exists (abreast.endElement _ ended) ended'

variable {cursor place : Cursor} {assembly assembly' built built' : Assembly}
variable {isNested : Bool} {read : ReadEntity} {steps steps' : Nat} {buffer buffer' : TextBuffer}

theorem flush_cases (buffer : TextBuffer) (assembly : Assembly) :
    buffer.flush assembly = assembly ∨
      ∃ text, buffer.flush assembly = assembly.appendText text := by
  unfold TextBuffer.flush
  split
  · exact Or.inl rfl
  · exact Or.inr ⟨_, rfl⟩

/-- The holders of the comment take the texts that each of them has so far. -/
theorem Level.flush (level : Level true assembly assembly') (buffer buffer' : TextBuffer) :
    Level true (buffer.flush assembly) (buffer'.flush assembly') := by
  have first : Level true (buffer.flush assembly) assembly' := by
    rcases flush_cases buffer assembly with same | ⟨text, added⟩
    · rwa [same]
    · rw [added]
      exact level.appendText_left text
  rcases flush_cases buffer' assembly' with same | ⟨text, added⟩
  · rwa [same]
  · rw [added]
    exact first.appendText_right text

/-- Taking a text looks at its offset only to blame it. -/
theorem takeText_moved (shift : Nat)
    (taken : takeText isNested read steps cursor buffer assembly = .ok built) :
    takeText isNested read steps (cursor.moved shift []) buffer assembly = .ok built := by
  induction steps generalizing cursor buffer assembly with
  | zero => exact taken
  | succ steps ih =>
      rcases takeText_cases taken with done | ⟨c, rest, ahead, plain⟩ | ⟨c, stop, found⟩ |
        ⟨name, stop, found⟩
      · rw [takeText_atEnd done] at taken
        rw [takeText_atEnd (by simp [done])]
        exact taken
      · have here : 1 ≤ cursor.rest.length := by simp [ahead]
        rw [takeText_plain ahead plain] at taken
        rw [takeText_plain (by simpa using ahead) plain, advance_moved shift [] here]
        exact ih taken
      · have still : (stop.moved shift []).atEnd = stop.atEnd := by simp [atEnd]
        rw [takeText_char found] at taken
        rw [takeText_char (Reference.take?_moved shift [] found), still]
        exact ih taken
      · obtain ⟨replacement, references, content, inner, declared, counted, reads, entered,
          taken⟩ := (takeText_entity found).mp taken
        exact (takeText_entity (Reference.take?_moved shift [] found)).mpr ⟨replacement, references,
          content, inner, declared, countReference_anywhere counted _, reads, entered, ih taken⟩

/-- The rest of a text, behind the comment and without it. -/
theorem takeText_holder {shift : Nat} (keeps : KeepsRelated Abreast read)
    (level : Level true assembly assembly') (enough : cursor.rest.length < steps)
    (enough' : cursor.rest.length < steps')
    (first : takeText isNested read steps (cursor.moved shift []) buffer assembly = .ok built)
    (second : takeText isNested read steps' cursor buffer' assembly' = .ok built') :
    Abreast built built' := by
  induction steps' generalizing steps cursor buffer buffer' with
  | zero => omega
  | succ steps' ih =>
      obtain ⟨steps, rfl⟩ : ∃ fewer, steps = fewer + 1 := ⟨steps - 1, by omega⟩
      rcases takeText_cases second with done | ⟨c, rest, ahead, plain⟩ | ⟨c, stop, found⟩ |
        ⟨name, stop, found⟩
      · rw [takeText_atEnd done] at second
        rw [takeText_atEnd (by simp [done])] at first
        cases second
        cases first
        exact ⟨true, level.flush buffer buffer'⟩
      · have here : 1 ≤ cursor.rest.length := by simp [ahead]
        rw [takeText_plain ahead plain] at second
        rw [takeText_plain (by simpa using ahead) plain, advance_moved shift [] here] at first
        refine ih ?_ ?_ first second
        all_goals
          simp only [advance, List.length_drop]
          omega
      · have shorter := (Reference.take?_suffix found).2
        rw [takeText_char found] at second
        rw [takeText_char (Reference.take?_moved shift [] found)] at first
        exact ih (by omega) (by omega) first second
      · -- from the first entity on, both have the same text to take
        have shorter := (Reference.take?_suffix found).2
        have flushed := level.flush buffer buffer'
        obtain ⟨_, references, content, _, _, reads, entered, entered', first, second⟩ :=
          takeText_entities found level.entities flushed.references first second
        have around : Abreast { buffer.flush assembly with references }
            { buffer'.flush assembly' with references } :=
          ⟨true, { flushed with references := rfl }⟩
        have inners := enterEntity_parallel (abreast_parallel shift) keeps around reads entered
          entered'
        exact takeText_parallel (abreast_parallel shift) keeps inners (by omega) (by omega) first
          second

theorem isEmpty_append {ahead : List Char} (left : ahead ≠ []) (more : List Char) :
    (ahead ++ more).isEmpty = ahead.isEmpty := by
  obtain ⟨c, rest, rfl⟩ := List.exists_cons_of_ne_nil left
  rfl

/-- A text that goes on is taken as it is by itself up to its last entity. -/
theorem takeText_split {more : List Char} (same : cursor.rest ≠ [] → buffer = buffer')
    (enough' : (cursor.rest ++ more).length < steps')
    (first : takeText isNested read steps cursor buffer assembly = .ok built)
    (enough : cursor.rest.length < steps)
    (second : takeText isNested read steps' (cursor.moved 0 more) buffer' assembly = .ok built') :
    ∃ reached fewer place buffer, (built = reached ∨ ∃ text, built = reached.appendText text) ∧
      place.rest = more ∧ more.length < fewer ∧
      takeText isNested read fewer place buffer reached = .ok built' := by
  induction steps generalizing steps' cursor buffer buffer' assembly with
  | zero => omega
  | succ steps ih =>
      rcases takeText_cases first with done | ⟨c, rest, ahead, plain⟩ | ⟨c, stop, found⟩ |
        ⟨name, stop, found⟩
      · rw [takeText_atEnd done] at first
        cases first
        refine ⟨assembly, steps', cursor.moved 0 more, buffer', flush_cases buffer assembly, ?_, ?_,
          second⟩
        · simp [done]
        · simpa [done] using enough'
      all_goals
        obtain ⟨steps', rfl⟩ : ∃ fewer, steps' = fewer + 1 := ⟨steps' - 1, by omega⟩
        rw [List.length_append] at enough'
      · have here : 1 ≤ cursor.rest.length := by simp [ahead]
        have left : (cursor.advance 1).rest = rest := by simp [advance, ahead]
        rw [takeText_plain ahead plain] at first
        rw [takeText_plain (by simp [ahead]; rfl) plain, advance_moved 0 more here] at second
        refine ih (fun goesOn => ?_) ?_ first ?_ second
        · rw [same (by simp [ahead]), isEmpty_append (left ▸ goesOn)]
        · rw [ahead, List.length_cons] at enough'
          rw [left, List.length_append]
          omega
        · rw [ahead, List.length_cons] at enough
          rw [left]
          omega
      · have shorter := (Reference.take?_suffix found).2
        rw [takeText_char found] at first
        rw [takeText_char (Reference.take?_moved 0 more found)] at second
        refine ih (fun goesOn => ?_) ?_ first (by omega) second
        · rw [same (fun nothing => by simp [nothing] at shorter), atEnd, atEnd, moved_rest,
            isEmpty_append goesOn]
        · rw [List.length_append]
          omega
      · have shorter := (Reference.take?_suffix found).2
        have buffers := same fun nothing => by simp [nothing] at shorter
        obtain ⟨_, _, _, _, _, _, entered', entered, second, first⟩ :=
          takeText_entities found rfl (by rw [buffers]) second first
        rw [buffers] at entered
        cases entered.symm.trans entered'
        refine ih (fun _ => rfl) ?_ first (by omega) second
        rw [List.length_append]
        omega

theorem appendText_inside {text : List Char} (inside : (assembly.appendText text).frames ≠ []) :
    assembly.frames ≠ [] := by
  intro outside
  apply inside
  rw [Assembly.appendText_eq]
  simp only [Assembly.grow, outside]

/-- A text, a comment and a text come to the same as one text up to the comment. -/
theorem texts_across {run : Cursor} {before : Assembly} {steps'' : Nat}
    (keeps : KeepsRelated Abreast read)
    (first : takeText isNested read steps run {} assembly = .ok before)
    (enough : run.rest.length < steps) (inside : before.frames ≠ [])
    (further : takeText isNested read steps' place {} before.appendAside = .ok built)
    (enough' : place.rest.length < steps')
    (whole : takeText isNested read steps'' (run.moved 0 place.rest) {} assembly = .ok built')
    (enough'' : (run.rest ++ place.rest).length < steps'') : Abreast built built' := by
  obtain ⟨reached, fewer, place', buffer, texts, same, left, rest⟩ :=
    takeText_split (fun _ => rfl) enough'' first enough whole
  have open' : reached.frames ≠ [] := by
    rcases texts with rfl | ⟨text, rfl⟩
    · exact inside
    · exact appendText_inside inside
  obtain ⟨frame, outer, frames⟩ := List.exists_cons_of_ne_nil open'
  have level : Level true before.appendAside reached := Level.comment frames texts
  -- offsets do not matter to what is built
  have further' := takeText_moved place'.offset further
  have meet : place.moved place'.offset [] = place'.moved place.offset [] := by
    simp [moved, same, Nat.add_comm]
  rw [meet] at further'
  exact takeText_holder keeps level (by rw [same]; exact enough') (by rw [same]; exact left)
    further' rest

end ContainerReplay.Markup
