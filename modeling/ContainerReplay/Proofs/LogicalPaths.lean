import ContainerReplay.Files.Loader

/-!
# Logical paths stay below the root

A logical path is cut at its slashes.  It names nothing if a segment is `..`; otherwise it stands
for the root followed by the segments that are neither empty nor a dot.  A loader of a directory
looks at no other file, and it tells spellings with the same segments apart by nothing but the path
that an error repeats.
-/

set_option autoImplicit false

namespace ContainerReplay

namespace Path

/-- Whichever way a path begins, its segments other than dots are the significant pieces. -/
theorem ofString_segments (text : String) :
    (ofString text).segments.filter (· ≠ ".") = significant (Text.splitAt '/' text.toList) := by
  have noDot : ∀ pieces : List (List Char),
      (significant pieces).filter (· ≠ ".") = significant pieces := by
    intro pieces
    rw [List.filter_eq_self]
    intro segment member
    obtain ⟨piece, kept, rfl⟩ := List.mem_map.mp member
    have named := (List.mem_filter.mp kept).2
    simp only [decide_eq_true_eq] at named ⊢
    exact fun same => named.2 (by simpa using congrArg String.toList same)
  unfold ofString
  split
  case h_1 none => simp [none, significant]
  case h_2 empty => simp [empty, significant]
  case h_3 pieces absolute => rw [absolute, noDot]; simp [significant]
  case h_4 pieces dotted => rw [dotted, List.filter_cons, noDot]; simp [significant]
  case h_5 => exact noDot _

def below (base : Path) (segments : List String) : Path :=
  ⟨base.isAbsolute, base.segments ++ segments⟩

theorem join_relative (base : Path) {segments : List String} (noDot : "." ∉ segments) :
    base.join ⟨false, segments⟩ = base.below segments := by
  have kept : segments.filter (· ≠ ".") = segments := by
    rw [List.filter_eq_self]
    intro segment member
    simpa using fun same : segment = "." => noDot (same ▸ member)
  obtain ⟨isAbsolute, above⟩ := base
  unfold join below
  split
  · contradiction
  · split
    case isTrue empty => simp_all
    case isFalse => rw [kept]

end Path

namespace Loader

/-- The pieces of a logical path between its slashes, after surrounding blanks and then leading
slashes were dropped. -/
def spelledSegments (path : String) : List String :=
  (Text.splitAt '/' (Text.dropLeading '/' (Text.trimmed path.toList))).map String.ofList

def remainingSegments (path : String) : List String :=
  (spelledSegments path).filter fun segment => segment ≠ "" ∧ segment ≠ "."

theorem significant_eq (pieces : List (List Char)) :
    Path.significant pieces =
      (pieces.map String.ofList).filter fun segment => segment ≠ "" ∧ segment ≠ "." := by
  have texts : ∀ piece : List Char,
      (String.ofList piece ≠ "" ∧ String.ofList piece ≠ ".") ↔ (piece ≠ [] ∧ piece ≠ ['.']) := by
    intro piece
    rw [Ne, Ne, ← String.toList_inj, ← String.toList_inj, String.toList_ofList]
    rfl
  rw [Path.significant, List.filter_map]
  simp only [Function.comp_def, texts]

theorem parent_remains {path : String} :
    ".." ∈ remainingSegments path ↔ ".." ∈ spelledSegments path := by
  rw [remainingSegments, List.mem_filter]
  exact and_iff_left (by decide)

theorem resolve?_eq (root path : String) :
    resolve? root path =
      if ".." ∈ remainingSegments path then none
      else some ((Path.ofString root).below (remainingSegments path)) := by
  have segments : ((Path.ofString (String.ofList (Text.dropLeading '/'
      (Text.trimmed path.toList)))).segments.filter (· ≠ ".")) = remainingSegments path := by
    rw [Path.ofString_segments, significant_eq, String.toList_ofList]
    rfl
  have parent : ".." ∈ (Path.ofString (String.ofList (Text.dropLeading '/'
      (Text.trimmed path.toList)))).segments ↔ ".." ∈ remainingSegments path := by
    rw [← segments, List.mem_filter]
    exact (and_iff_left (by decide)).symm
  have noDot : "." ∉ remainingSegments path := by
    simp [remainingSegments]
  unfold resolve? logicalSegments?
  simp only [parent, segments]
  by_cases leaves : ".." ∈ remainingSegments path
  · rw [if_pos leaves, if_pos leaves]
  · rw [if_neg leaves, if_neg leaves, ← Path.join_relative _ noDot]

variable {files : Path → Option ByteArray} {root path : String} {limit : Option Nat}

theorem content?_eq (files : Path → Option ByteArray) (root path : String) :
    content? files root path =
      if ".." ∈ remainingSegments path then none
      else files ((Path.ofString root).below (remainingSegments path)) := by
  rw [content?, resolve?_eq]
  by_cases leaves : ".." ∈ remainingSegments path
  · rw [if_pos leaves, if_pos leaves]
  · rw [if_neg leaves, if_neg leaves]

theorem content?_eq_some {content : ByteArray} :
    content? files root path = some content ↔
      ".." ∉ remainingSegments path ∧
        files ((Path.ofString root).below (remainingSegments path)) = some content := by
  rw [content?_eq]
  by_cases leaves : ".." ∈ remainingSegments path <;> simp [leaves]

/-- Files that are not below the root do not matter. -/
theorem content?_confined {others : Path → Option ByteArray}
    (agree : ∀ segments, ".." ∉ segments →
      others ((Path.ofString root).below segments) = files ((Path.ofString root).below segments)) :
    content? others root path = content? files root path := by
  rw [content?_eq, content?_eq]
  split
  case isTrue => rfl
  case isFalse stays => exact agree _ stays

theorem content?_respelled {other : String}
    (same : remainingSegments other = remainingSegments path) :
    content? files root other = content? files root path := by
  rw [content?_eq, content?_eq, same]

theorem readFrom_eq_ok {bytes : ByteArray} :
    readFrom files root limit path = .ok bytes ↔
      content? files root path = some bytes ∧ ∀ most, limit = some most → bytes.size ≤ most := by
  unfold readFrom
  cases content? files root path with
  | none => simp
  | some content =>
      cases limit with
      | none => simp
      | some most =>
          by_cases fits : content.size ≤ most
          · simp only [if_pos fits, Except.ok.injEq, Option.some.injEq]
            constructor
            · rintro rfl
              exact ⟨rfl, fun _ same => same ▸ fits⟩
            · exact fun found => found.1
          · simp only [if_neg fits, reduceCtorEq, Option.some.injEq, false_iff, not_and]
            rintro rfl within
            exact fits (within most rfl)

/-- A path is resolved unless it has a `..`, and then to the root extended by the segments that
remain.  A resource is there, and is read, exactly if that file is; files elsewhere and the spelling
of the path make no difference. -/
theorem paths_stay_below (files : Path → Option ByteArray) (root : String) (limit : Option Nat)
    (path : String) :
    let loader := directory files root limit
    let place := (Path.ofString root).below (remainingSegments path)
    resolve? root path = (if ".." ∈ spelledSegments path then none else some place) ∧
      (loader.hasResource path = true ↔
        ".." ∉ remainingSegments path ∧ ∃ content, files place = some content) ∧
      (∀ bytes, loader.read path = .ok bytes ↔
        ".." ∉ remainingSegments path ∧ files place = some bytes ∧
          ∀ most, limit = some most → bytes.size ≤ most) ∧
      (∀ others : Path → Option ByteArray,
        (∀ segments, ".." ∉ segments →
          others ((Path.ofString root).below segments) =
            files ((Path.ofString root).below segments)) →
        (directory others root limit).hasResource path = loader.hasResource path ∧
          (directory others root limit).read path = loader.read path) ∧
      ∀ other, remainingSegments other = remainingSegments path →
        loader.hasResource other = loader.hasResource path ∧
          ∀ bytes, loader.read other = .ok bytes ↔ loader.read path = .ok bytes := by
  intro loader place
  simp only [loader, hasResource, read]
  refine ⟨?resolved, ?there, ?reads, ?confined, ?respelled⟩
  case resolved => simp only [resolve?_eq, parent_remains, place]
  case there =>
    simp only [Option.isSome_iff_exists, content?_eq_some, exists_and_left, place]
  case reads =>
    intro bytes
    rw [readFrom_eq_ok, content?_eq_some, and_assoc]
  case confined =>
    intro others agree
    have located : content? others root path = content? files root path :=
      content?_confined agree
    simp only [readFrom, located, and_self]
  case respelled =>
    intro other same
    have located : content? files root other = content? files root path :=
      content?_respelled same
    simp only [readFrom_eq_ok, located, implies_true, and_self]

/-- Blanks, slashes and dots around the segments do not count. -/
example : remainingSegments " //WEB-INF/.//web.xml/. " = ["WEB-INF", "web.xml"] := by
  decide +kernel

end Loader

end ContainerReplay
