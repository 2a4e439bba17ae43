import ContainerReplay.Files.Loader

/-!
# Looking up resources on a class path

A class path nests to any depth.  Its directories, from left to right, decide alone: the first that
has the file answers, also when the file is too large for it and a later one would serve it, and
what none of them has is not found.
-/

set_option autoImplicit false

namespace ContainerReplay.Loader

mutual

/-- The directories of a loader from left to right. -/
def leaves : Loader → List Loader
  | directory files root limit => [directory files root limit]
  | classpath entries => leavesOf entries

def leavesOf : List Loader → List Loader
  | [] => []
  | entry :: rest => entry.leaves ++ leavesOf rest

end

/-- What the first of some loaders that has a resource answers. -/
def firstAnswer (loaders : List Loader) (path : String) : Except DetectionError ByteArray :=
  match loaders.find? fun loader => loader.hasResource path with
  | none => .error (.notFound path)
  | some loader => loader.read path

/-- How a directory answers for a file that it has. -/
inductive Serves (limit : Option Nat) (path : String) (content : ByteArray) :
    Except DetectionError ByteArray → Prop where
  | whole (fits : ∀ most, limit = some most → content.size ≤ most) :
      Serves limit path content (.ok content)
  | tooLarge {most : Nat} (limited : limit = some most) (larger : most < content.size) :
      Serves limit path content
        (.error (.unreadable path s!"{content.size} bytes exceeds limit of {most} bytes"))

variable {path : String}

theorem serves_readFrom {files : Path → Option ByteArray} {root : String} {content : ByteArray}
    (found : content? files root path = some content) (limit : Option Nat) :
    Serves limit path content (readFrom files root limit path) := by
  simp only [readFrom, found]
  cases limit with
  | none => exact .whole (by simp)
  | some most =>
      simp only
      split
      case isTrue fits => exact .whole fun _ same => Option.some.inj same ▸ fits
      case isFalse larger => exact .tooLarge rfl (Nat.lt_of_not_le larger)

theorem firstAnswer_append (first second : List Loader) :
    firstAnswer (first ++ second) path =
      if first.any (·.hasResource path) then firstAnswer first path
      else firstAnswer second path := by
  rw [firstAnswer, firstAnswer, firstAnswer, List.find?_append]
  cases found : first.find? (·.hasResource path) with
  | none =>
      have absent : first.any (·.hasResource path) = false := by
        simpa using found
      rw [absent]
      rfl
  | some loader =>
      have has : loader.hasResource path = true := by
        simpa using List.find?_some found
      have present : first.any (·.hasResource path) = true :=
        List.any_eq_true.mpr ⟨loader, List.mem_of_find?_eq_some found, has⟩
      rw [present]
      rfl

/-! ## Nested class paths -/

variable (path)

mutual

theorem hasResource_eq_any : (loader : Loader) →
    loader.hasResource path = loader.leaves.any (·.hasResource path)
  | directory files root limit => by simp [leaves]
  | classpath entries => by
      rw [hasResource, leaves]
      exact anyHasResource_eq_any entries

theorem anyHasResource_eq_any : (entries : List Loader) →
    anyHasResource entries path = (leavesOf entries).any (·.hasResource path)
  | [] => rfl
  | entry :: rest => by
      rw [anyHasResource, leavesOf, List.any_append, hasResource_eq_any entry,
        anyHasResource_eq_any rest]

end

mutual

theorem read_eq_firstAnswer : (loader : Loader) →
    loader.read path = firstAnswer loader.leaves path
  | directory files root limit => by
      rw [firstAnswer, leaves, List.find?_singleton]
      cases found : content? files root path with
      | none => simp [hasResource, read, readFrom, found]
      | some content => simp [hasResource, found]
  | classpath entries => by
      rw [read, leaves]
      exact readFirst_eq_firstAnswer entries

theorem readFirst_eq_firstAnswer : (entries : List Loader) →
    readFirst entries path = firstAnswer (leavesOf entries) path
  | [] => rfl
  | entry :: rest => by
      rw [readFirst, leavesOf, firstAnswer_append, ← hasResource_eq_any path entry,
        read_eq_firstAnswer entry, readFirst_eq_firstAnswer rest]

end

mutual

theorem directory_of_mem_leaves {leaf : Loader} : (loader : Loader) → leaf ∈ loader.leaves →
    ∃ files root limit, leaf = directory files root limit
  | directory files root limit => fun member =>
      ⟨files, root, limit, List.mem_singleton.mp (leaves.eq_1 .. ▸ member)⟩
  | classpath entries => fun member =>
      directory_of_mem_leavesOf entries (leaves.eq_2 .. ▸ member)

theorem directory_of_mem_leavesOf {leaf : Loader} : (entries : List Loader) →
    leaf ∈ leavesOf entries → ∃ files root limit, leaf = directory files root limit
  | [] => fun member => nomatch member
  | entry :: rest => fun member => by
      rw [leavesOf, List.mem_append] at member
      exact member.elim (directory_of_mem_leaves entry) (directory_of_mem_leavesOf rest)

end

/-- The leftmost directory that has a resource answers for the whole loader. -/
def AnswersLeftmost (loader : Loader) (path : String) : Prop :=
  ∃ before files root limit after content,
    loader.leaves = before ++ directory files root limit :: after ∧
      (∀ earlier ∈ before, earlier.hasResource path = false) ∧
      content? files root path = some content ∧
      loader.read path = (directory files root limit).read path ∧
      Serves limit path content (loader.read path)

theorem answersLeftmost_of_present (loader : Loader)
    (present : loader.hasResource path = true) : loader.AnswersLeftmost path := by
  rw [hasResource_eq_any, ← List.isSome_find?, Option.isSome_iff_exists] at present
  obtain ⟨leaf, first⟩ := present
  have answer : loader.read path = leaf.read path := by
    rw [read_eq_firstAnswer, firstAnswer, first]
  obtain ⟨has, before, after, order, absent⟩ := List.find?_eq_some_iff_append.mp first
  obtain ⟨files, root, limit, rfl⟩ := directory_of_mem_leaves loader
    (order ▸ List.mem_append_right _ List.mem_cons_self)
  rw [hasResource, Option.isSome_iff_exists] at has
  obtain ⟨content, found⟩ := has
  refine ⟨before, files, root, limit, after, content, order, by simpa using absent, found, answer,
    ?_⟩
  rw [answer, read]
  exact serves_readFrom found limit

theorem read_of_absent (loader : Loader) (absent : loader.hasResource path = false) :
    loader.read path = .error (.notFound path) := by
  have none : loader.leaves.find? (·.hasResource path) = none := by
    rw [hasResource_eq_any] at absent
    simpa using absent
  rw [read_eq_firstAnswer, firstAnswer, none]

/-- A failed read of a resource that is there says that the file is too large. -/
theorem unreadable_of_present {loader : Loader} {error : DetectionError}
    (present : loader.hasResource path = true) (failed : loader.read path = .error error) :
    ∃ message, error = .unreadable path message := by
  obtain ⟨_, _, _, _, _, _, _, _, _, _, served⟩ := answersLeftmost_of_present path loader present
  rw [failed] at served
  cases served
  exact ⟨_, rfl⟩

/-- A resource is there exactly if reading it does not come to nothing.  Then the leftmost directory
that has it answers, with the whole file or with the complaint that it is too large; any error is
about the path that was asked for. -/
theorem existence_agrees_with_reading (loader : Loader) :
    (loader.hasResource path = true ↔
      ∀ asked, loader.read path ≠ .error (.notFound asked)) ∧
    (loader.hasResource path = true → loader.AnswersLeftmost path) ∧
    ∀ error, loader.read path = .error error →
      error = .notFound path ∨ ∃ message, error = .unreadable path message := by
  refine ⟨⟨fun present asked failed => ?present, fun found => ?found⟩,
    answersLeftmost_of_present path loader, fun error failed => ?error⟩
  case present =>
    obtain ⟨_, other⟩ := unreadable_of_present path present failed
    cases other
  case found =>
    cases has : loader.hasResource path with
    | true => rfl
    | false => exact absurd (read_of_absent path loader has) (found path)
  case error =>
    cases has : loader.hasResource path with
    | true => exact Or.inr (unreadable_of_present path has failed)
    | false =>
        rw [read_of_absent path loader has] at failed
        exact Or.inl (Except.error.inj failed).symm

/-- A file that is too large for the first directory is not looked for in the second one. -/
example :
    let files := fun _ : Path => some (ByteArray.mk #[1, 2, 3])
    (classpath [directory files "conf" (some 2), directory files "lib" none]).read "web.xml" =
      .error (.unreadable "web.xml" "3 bytes exceeds limit of 2 bytes") := rfl

end ContainerReplay.Loader
