import ContainerReplay.Classes.Index
import ContainerReplay.Proofs.ComponentTable
import Mathlib.Data.List.Perm.Basic
import Mathlib.Logic.Relation

/-!
# Super classes and interfaces

Which classes lie above a class, and which interfaces it implements, said as the closure of what the
signatures declare.  The climb and the work list find exactly these, in every index: hierarchies may
be cyclic and may leave the index.
-/

set_option autoImplicit false

namespace ContainerReplay.ClassIndex

variable (index : ClassIndex)

/-- The signature of a class names another as its super class. -/
def Extends (name base : String) : Prop :=
  ∃ info, index.get? name = some info ∧ info.superClass = some base

/-- A class reaches another by one or more steps to a super class. -/
def Descends (name base : String) : Prop :=
  Relation.TransGen index.Extends name base

/-- The least set of interfaces with those that a class and its super classes declare and, with
every interface, those that it declares itself. -/
inductive Implements (name : String) : String → Prop where
  | declared {holder interface : String} {info : ClassInfo}
      (above : holder = name ∨ index.Descends name holder)
      (known : index.get? holder = some info) (listed : interface ∈ info.interfaces) :
      Implements name interface
  | extended {lower interface : String} {info : ClassInfo} (implemented : Implements name lower)
      (known : index.get? lower = some info) (listed : interface ∈ info.interfaces) :
      Implements name interface

/-! ## What is left to visit -/

/-- The names of the index that a search has not come by. -/
def unvisited (visited : String → Bool) : List String :=
  index.classes.keys.filter fun name => !visited name

variable {index}

theorem mem_keys_iff {name : String} :
    name ∈ index.classes.keys ↔ ∃ info, index.get? name = some info := by
  rw [Std.ExtTreeMap.mem_keys, ← Std.ExtTreeMap.isSome_getElem?_iff_mem, Option.isSome_iff_exists]
  rfl

/-- A visit to a known class takes this one from what is left. -/
theorem unvisited_perm {before after : String → Bool} {name : String}
    (known : name ∈ index.classes.keys) (new : before name = false)
    (visit : ∀ other, after other = (decide (other = name) || before other)) :
    (index.unvisited before).Perm (name :: index.unvisited after) := by
  have distinct : (index.unvisited before).Nodup :=
    (Std.ExtTreeMap.nodup_keys (t := index.classes)).filter _
  have listed : name ∈ index.unvisited before := List.mem_filter.mpr ⟨known, by simp [new]⟩
  have rest : (index.unvisited before).erase name = index.unvisited after := by
    rw [distinct.erase_eq_filter, unvisited, unvisited, List.filter_filter]
    refine List.filter_congr fun other _ => ?_
    rw [visit]
    by_cases same : other = name <;> simp [same]
  rw [← rest]
  exact List.perm_cons_erase listed

/-! ## Super classes -/

/-- A climb that nothing but the hierarchy ends.  It has come by some classes, goes on with the next
one, and yields a list; it is over when there is no next class or that one was seen. -/
inductive Climbs (index : ClassIndex) : List String → Option String → List String → Prop where
  | top {seen : List String} : Climbs index seen none []
  | back {seen : List String} {current : String} (returned : current ∈ seen) :
      Climbs index seen (some current) []
  | item {seen : List String} {current : String} {higher : List String} (new : current ∉ seen)
      (rest : Climbs index (current :: seen) ((index.get? current).bind ClassInfo.superClass)
        higher) :
      Climbs index seen (some current) (current :: higher)

theorem superOf?_eq (index : ClassIndex) (name : String) :
    index.superOf? name = (index.get? name).bind ClassInfo.superClass := by
  unfold superOf?
  cases index.get? name <;> rfl

theorem Extends.known {name base : String} (up : index.Extends name base) :
    name ∈ index.classes.keys :=
  mem_keys_iff.mpr (up.imp fun _ signature => signature.1)

/-- With more steps than there are classes left to visit a climb is over before its steps are. -/
theorem climbs_climb {steps : Nat} {seen : List String} {next : Option String}
    (enough : (index.unvisited fun name => decide (name ∈ seen)).length < steps) :
    index.Climbs seen next (index.climb steps seen next) := by
  induction steps generalizing seen next with
  | zero => cases enough
  | succ steps ih =>
      cases next with
      | none => exact .top
      | some current =>
          rw [climb]
          by_cases returned : current ∈ seen
          · rw [if_pos returned]
            exact .back returned
          · rw [if_neg returned]
            apply Climbs.item returned
            rw [superOf?_eq]
            cases up : (index.get? current).bind ClassInfo.superClass with
            | none =>
                cases steps <;> exact .top
            | some base =>
                -- only a known class has a super class, so that one class less is left
                have visited : (index.unvisited fun name => decide (name ∈ seen)).Perm
                    (current :: index.unvisited fun name => decide (name ∈ current :: seen)) :=
                  unvisited_perm (Extends.known (Option.bind_eq_some_iff.mp up))
                    (by simpa using returned) (by simp)
                have fewer := visited.length_eq
                rw [List.length_cons] at fewer
                apply ih
                omega

theorem climbs_superclasses (name : String) :
    index.Climbs [] ((index.get? name).bind ClassInfo.superClass) (index.superclasses name) := by
  rw [superclasses, superOf?_eq]
  apply climbs_climb
  refine Nat.lt_succ_of_le (Nat.le_trans (List.length_filter_le _ _) ?_)
  exact Nat.le_of_eq Std.ExtTreeMap.length_keys

/-- Whatever a climb comes by lies above its start. -/
theorem Climbs.above {seen items : List String} {next : Option String}
    (climbs : index.Climbs seen next items) {base : String} (found : base ∈ items) :
    ∃ first, next = some first ∧ Relation.ReflTransGen index.Extends first base := by
  induction climbs with
  | top => cases found
  | back returned => cases found
  | @item seen current higher new rest ih =>
      refine ⟨current, rfl, ?_⟩
      rcases List.mem_cons.mp found with rfl | later
      · exact .refl
      · obtain ⟨first, up, path⟩ := ih later
        exact .head (Option.bind_eq_some_iff.mp up) path

/-- What was seen leads to what was seen or to what comes next. -/
def Chained (index : ClassIndex) (seen : List String) (next : Option String) : Prop :=
  ∀ name ∈ seen, ∀ base, index.Extends name base → base ∈ seen ∨ next = some base

/-- A set of names holds the super classes of its members. -/
def UpClosed (index : ClassIndex) (names : List String) : Prop :=
  ∀ name ∈ names, ∀ base, index.Extends name base → base ∈ names

theorem Chained.step {seen : List String} {current : String}
    (chained : index.Chained seen (some current)) :
    index.Chained (current :: seen) ((index.get? current).bind ClassInfo.superClass) := by
  intro name member base up
  rcases List.mem_cons.mp member with rfl | earlier
  · exact Or.inr (Option.bind_eq_some_iff.mpr up)
  · refine Or.inl ?_
    rcases chained name earlier base up with seen | same
    · exact List.mem_cons_of_mem _ seen
    · cases same
      exact List.mem_cons_self

theorem Chained.upClosed {seen : List String} {next : Option String}
    (chained : index.Chained seen next) (back : ∀ base, next = some base → base ∈ seen) :
    index.UpClosed seen :=
  fun name member base up => (chained name member base up).elim id (back base)

/-- A climb leaves no super class out, also when it is over because one comes back. -/
theorem Climbs.closed {seen items : List String} {next : Option String}
    (climbs : index.Climbs seen next items) (chained : index.Chained seen next) :
    (∀ base, next = some base → base ∈ seen ++ items) ∧ index.UpClosed (seen ++ items) := by
  induction climbs with
  | top => exact ⟨by simp, by simpa using chained.upClosed (by simp)⟩
  | @back seen current returned =>
      have stays : ∀ base, some current = some base → base ∈ seen := fun base same =>
        Option.some.inj same ▸ returned
      simpa [returned] using chained.upClosed stays
  | @item seen current higher new rest ih =>
      have closed := (ih chained.step).2
      refine ⟨fun base same => by simp [Option.some.inj same], fun name member base up => ?_⟩
      have reached := closed name (by simpa [or_left_comm] using member) base up
      simpa [or_left_comm] using reached

theorem mem_superclasses_iff {name base : String} :
    base ∈ index.superclasses name ↔ index.Descends name base := by
  have climbs : index.Climbs [] ((index.get? name).bind ClassInfo.superClass)
      (index.superclasses name) := climbs_superclasses name
  constructor
  · intro found
    obtain ⟨first, up, path⟩ := climbs.above found
    exact Relation.TransGen.head' (Option.bind_eq_some_iff.mp up) path
  · intro descends
    have start : index.Chained [] ((index.get? name).bind ClassInfo.superClass) := by
      simp [Chained]
    obtain ⟨first, closed⟩ := climbs.closed start
    rw [List.nil_append] at first closed
    induction descends with
    | single up => exact first _ (Option.bind_eq_some_iff.mpr up)
    | tail _ up reached => exact closed _ reached _ up

theorem isSubclassOf_iff {name base : String} :
    index.isSubclassOf name base = true ↔ index.Descends name base := by
  rw [isSubclassOf, List.contains_iff_mem, mem_superclasses_iff]

/-! ## Interfaces -/

theorem mem_declaredInterfaces_iff {holder interface : String} :
    interface ∈ index.declaredInterfaces holder ↔
      ∃ info, index.get? holder = some info ∧ interface ∈ info.interfaces := by
  unfold declaredInterfaces
  cases index.get? holder <;> simp

/-- The interfaces that wait on a work list, and those that have been found. -/
structure Work where
  pending : List String
  found : Std.ExtTreeSet String

/-- A round of a work list takes any interface that waits.  A new one is found, and what it declares
waits from then on. -/
inductive Round (index : ClassIndex) : Work → Work → Prop where
  | seen {before after : List String} {found : Std.ExtTreeSet String} {interface : String}
      (taken : before.Perm (interface :: after)) (old : interface ∈ found) :
      Round index ⟨before, found⟩ ⟨after, found⟩
  | new {before rest after : List String} {found : Std.ExtTreeSet String} {interface : String}
      (taken : before.Perm (interface :: rest)) (fresh : interface ∉ found)
      (brought : after.Perm (index.declaredInterfaces interface ++ rest)) :
      Round index ⟨before, found⟩ ⟨after, found.insert interface⟩

abbrev Rounds (index : ClassIndex) : Work → Work → Prop :=
  Relation.ReflTransGen index.Round

/-- The work list from which the interfaces of a class are found. -/
def workOf (index : ClassIndex) (name : String) : Work :=
  ⟨(name :: index.superclasses name).flatMap index.declaredInterfaces, ∅⟩

theorem mem_insert_iff {found : Std.ExtTreeSet String} {interface other : String} :
    other ∈ found.insert interface ↔ other = interface ∨ other ∈ found := by
  rw [Std.ExtTreeSet.mem_insert, Std.compare_eq_iff_eq, @eq_comm _ interface other]

/-- The work that the interfaces that are not found yet may still bring. -/
def remaining (index : ClassIndex) (found : Std.ExtTreeSet String) : Nat :=
  ((index.unvisited found.contains).flatMap index.declaredInterfaces).length

theorem remaining_empty : index.remaining ∅ = index.declarations := by
  have all : index.unvisited (∅ : Std.ExtTreeSet String).contains = index.classes.keys := by
    simp [unvisited]
  have total : ∀ infos : List ClassInfo,
      infos.foldr (fun info total => info.interfaces.length + total) 0 =
        (infos.map fun info => info.interfaces.length).sum := by
    intro infos
    induction infos with
    | nil => rfl
    | cons info rest ih => simp [ih]
  rw [remaining, all, declarations, total, toList, treeMap_values_eq,
    ← Std.ExtTreeMap.map_fst_toList_eq_keys, List.length_flatMap, List.map_map, List.map_map]
  congr 1
  refine List.map_congr_left fun entry member => ?_
  have stored : index.get? entry.1 = some entry.2 :=
    Std.ExtTreeMap.mem_toList_iff_getElem?_eq_some.mp member
  simp [declaredInterfaces, stored]

theorem remaining_insert {found : Std.ExtTreeSet String} {interface : String}
    (fresh : interface ∉ found) :
    (index.declaredInterfaces interface).length + index.remaining (found.insert interface) =
      index.remaining found := by
  have new : found.contains interface = false := by
    rw [← Bool.not_eq_true, ← Std.ExtTreeSet.mem_iff_contains]
    exact fresh
  have visit : ∀ other, (found.insert interface).contains other =
      (decide (other = interface) || found.contains other) := by
    intro other
    rw [Bool.eq_iff_iff, ← Std.ExtTreeSet.mem_iff_contains, mem_insert_iff, Bool.or_eq_true,
      decide_eq_true_eq, ← Std.ExtTreeSet.mem_iff_contains]
  by_cases known : interface ∈ index.classes.keys
  · have perm := (unvisited_perm known new visit).flatMap_right index.declaredInterfaces
    rw [remaining, remaining, perm.length_eq, List.flatMap_cons, List.length_append]
  · have silent : index.declaredInterfaces interface = [] := by
      cases stored : index.get? interface with
      | none => simp [declaredInterfaces, stored]
      | some info => exact absurd (mem_keys_iff.mpr ⟨info, stored⟩) known
    have same : index.unvisited (found.insert interface).contains =
        index.unvisited found.contains := by
      refine List.filter_congr fun other member => ?_
      have differs : other ≠ interface := fun same => known (same ▸ member)
      rw [visit]
      simp [differs]
    rw [silent, remaining, remaining, same, List.length_nil, Nat.zero_add]

/-- How many rounds a work list may still take. -/
def Work.effort (index : ClassIndex) (work : Work) : Nat :=
  work.pending.length + index.remaining work.found

theorem Round.effort {before after : Work} (round : index.Round before after) :
    after.effort index + 1 = before.effort index := by
  cases round with
  | seen taken old =>
      have length := taken.length_eq
      rw [List.length_cons] at length
      simp only [Work.effort]
      omega
  | new taken fresh brought =>
      have length := taken.length_eq
      have longer := brought.length_eq
      have fewer := @remaining_insert index _ _ fresh
      rw [List.length_cons] at length
      rw [List.length_append] at longer
      simp only [Work.effort]
      omega

/-- With enough steps a bounded work list is a run of rounds that ends with nothing waiting. -/
theorem rounds_saturate {steps : Nat} {pending : List String} {found : Std.ExtTreeSet String}
    (enough : Work.effort index ⟨pending, found⟩ ≤ steps) :
    index.Rounds ⟨pending, found⟩ ⟨[], index.saturate steps pending found⟩ := by
  induction steps generalizing pending found with
  | zero =>
      have none : pending = [] := by
        apply List.eq_nil_of_length_eq_zero
        simp only [Work.effort] at enough
        omega
      rw [none]
      exact .refl
  | succ steps ih =>
      cases pending with
      | nil => exact .refl
      | cons first rest =>
          rw [saturate]
          by_cases seen : found.contains first = true
          · rw [if_pos seen]
            have round : index.Round ⟨first :: rest, found⟩ ⟨rest, found⟩ :=
              .seen (.refl _) (Std.ExtTreeSet.mem_iff_contains.mpr seen)
            have less := round.effort
            exact .head round (ih (by omega))
          · rw [if_neg seen]
            have fresh : first ∉ found := fun member =>
              seen (Std.ExtTreeSet.mem_iff_contains.mp member)
            have round : index.Round ⟨first :: rest, found⟩
                ⟨index.declaredInterfaces first ++ rest, found.insert first⟩ :=
              .new (.refl _) fresh (.refl _)
            have less := round.effort
            exact .head round (ih (by omega))

theorem effort_workOf (name : String) :
    (index.workOf name).effort index =
      (index.workOf name).pending.length + index.declarations := by
  rw [Work.effort, workOf, remaining_empty]

theorem rounds_interfacesOf (name : String) :
    index.Rounds (index.workOf name) ⟨[], index.interfacesOf name⟩ :=
  rounds_saturate (Nat.le_of_eq (effort_workOf name))

/-! ### What rounds keep -/

/-- An interface has come by: it waits or is found. -/
def Work.Holds (work : Work) (interface : String) : Prop :=
  interface ∈ work.found ∨ interface ∈ work.pending

/-- What is found leads to what has come by. -/
def Work.Led (index : ClassIndex) (work : Work) : Prop :=
  ∀ lower ∈ work.found, ∀ upper ∈ index.declaredInterfaces lower, work.Holds upper

theorem Round.keeps {before after : Work} (round : index.Round before after) {interface : String}
    (held : before.Holds interface) : after.Holds interface := by
  cases round with
  | seen taken old =>
      rcases held with found | waiting
      · exact Or.inl found
      · rcases List.mem_cons.mp (taken.mem_iff.mp waiting) with rfl | later
        · exact Or.inl old
        · exact Or.inr later
  | new taken fresh brought =>
      rcases held with found | waiting
      · exact Or.inl (mem_insert_iff.mpr (Or.inr found))
      · rcases List.mem_cons.mp (taken.mem_iff.mp waiting) with rfl | later
        · exact Or.inl (mem_insert_iff.mpr (Or.inl rfl))
        · exact Or.inr (brought.mem_iff.mpr (List.mem_append_right _ later))

theorem Round.led {before after : Work} (round : index.Round before after)
    (led : before.Led index) : after.Led index := by
  intro lower member upper declared
  have kept : ∀ {interface}, before.Holds interface → after.Holds interface := round.keeps
  cases round with
  | seen taken old => exact kept (led lower member upper declared)
  | new taken fresh brought =>
      rcases mem_insert_iff.mp member with rfl | earlier
      · exact Or.inr (brought.mem_iff.mpr (List.mem_append_left _ declared))
      · exact kept (led lower earlier upper declared)

/-- A property that passes from an interface to those that it declares stays true of all that has come
by. -/
theorem Round.sound {before after : Work} (round : index.Round before after)
    {good : String → Prop}
    (passes : ∀ lower, good lower → ∀ upper ∈ index.declaredInterfaces lower, good upper)
    (held : ∀ interface, before.Holds interface → good interface) :
    ∀ interface, after.Holds interface → good interface := by
  intro interface member
  cases round with
  | seen taken old =>
      apply held
      exact member.imp_right fun later => taken.mem_iff.mpr (List.mem_cons_of_mem _ later)
  | @new before rest after found first taken fresh brought =>
      have now : good first := held first (Or.inr (taken.mem_iff.mpr List.mem_cons_self))
      rcases member with found | waiting
      · rcases mem_insert_iff.mp found with rfl | earlier
        · exact now
        · exact held interface (Or.inl earlier)
      · rcases List.mem_append.mp (brought.mem_iff.mp waiting) with declared | later
        · exact passes first now interface declared
        · exact held interface (Or.inr (taken.mem_iff.mpr (List.mem_cons_of_mem _ later)))

/-- Whatever the order of its rounds, a work list for a class runs empty only with exactly the
interfaces that the class implements. -/
theorem mem_found_iff {name : String} {found : Std.ExtTreeSet String}
    (rounds : index.Rounds (index.workOf name) ⟨[], found⟩) {interface : String} :
    interface ∈ found ↔ index.Implements name interface := by
  have roots : ∀ declared : String,
      declared ∈ (name :: index.superclasses name).flatMap index.declaredInterfaces ↔
        ∃ holder, (holder = name ∨ index.Descends name holder) ∧
          declared ∈ index.declaredInterfaces holder := by
    intro declared
    simp only [List.mem_flatMap, List.mem_cons, mem_superclasses_iff]
  -- the three invariants of a round hold at the start, and so at the end
  have invariant : ∀ work, index.Rounds (index.workOf name) work →
      work.Led index ∧ (∀ other, work.Holds other → index.Implements name other) ∧
        ∀ other, (index.workOf name).Holds other → work.Holds other := by
    intro work run
    induction run with
    | refl =>
        refine ⟨fun lower member => absurd member Std.ExtTreeSet.not_mem_empty, ?_,
          fun _ held => held⟩
        rintro other (found | waiting)
        · exact absurd found Std.ExtTreeSet.not_mem_empty
        · obtain ⟨holder, above, listed⟩ := (roots other).mp waiting
          obtain ⟨info, known, listed⟩ := mem_declaredInterfaces_iff.mp listed
          exact .declared above known listed
    | tail _ round ih =>
        obtain ⟨led, sound, kept⟩ := ih
        refine ⟨round.led led, round.sound (fun lower implemented upper listed => ?_) sound,
          fun other held => round.keeps (kept other held)⟩
        obtain ⟨info, known, listed⟩ := mem_declaredInterfaces_iff.mp listed
        exact .extended implemented known listed
  obtain ⟨led, sound, kept⟩ := invariant _ rounds
  have done : ∀ {other}, Work.Holds ⟨[], found⟩ other → other ∈ found := fun held =>
    held.resolve_right List.not_mem_nil
  constructor
  · intro member
    exact sound interface (Or.inl member)
  · intro implemented
    induction implemented with
    | declared above known listed =>
        have declares := mem_declaredInterfaces_iff.mpr ⟨_, known, listed⟩
        exact done (kept _ (Or.inr ((roots _).mpr ⟨_, above, declares⟩)))
    | extended _ known listed reached =>
        exact done (led _ reached _ (mem_declaredInterfaces_iff.mpr ⟨_, known, listed⟩))

theorem mem_interfacesOf_iff {name interface : String} :
    interface ∈ index.interfacesOf name ↔ index.Implements name interface :=
  mem_found_iff (rounds_interfacesOf name)

theorem implements_iff {name interface : String} :
    index.implements name interface = true ↔ index.Implements name interface := by
  rw [implements, ← Std.ExtTreeSet.mem_iff_contains, mem_interfacesOf_iff]

end ContainerReplay.ClassIndex
