import ContainerReplay.Proofs.ClassHierarchy
import Mathlib.Order.Bounds.Basic

/-!
# How hierarchies are searched

Both searches of a class index end by themselves, in every index: a climb to super classes after at
most one class more than there are in the index, and a work list of interfaces after a number of
rounds that the declarations bound, in whatever order it takes them.  The climb yields the iterates
of the super class map until there is none or one comes back, and the work list ends with the least
set that is closed under what the signatures declare.
-/

set_option autoImplicit false

namespace ContainerReplay.ClassIndex

/-! ## Climbs -/

/-- The class that lies a number of steps above another, if there are so many. -/
def ancestor? (index : ClassIndex) (name : String) : Nat → Option String
  | 0 => some name
  | steps + 1 => (index.ancestor? name steps).bind fun lower =>
      (index.get? lower).bind ClassInfo.superClass

variable {index : ClassIndex}

theorem Climbs.unique {seen items others : List String} {next : Option String}
    (climbs : index.Climbs seen next items) (again : index.Climbs seen next others) :
    others = items := by
  induction climbs generalizing others with
  | top =>
      cases again
      rfl
  | back returned =>
      cases again with
      | back _ => rfl
      | item new rest => exact absurd returned new
  | item new rest ih =>
      cases again with
      | back returned => exact absurd returned new
      | item _ others => rw [ih others]

theorem Climbs.distinct {seen items : List String} {next : Option String}
    (climbs : index.Climbs seen next items) :
    items.Nodup ∧ ∀ item ∈ items, item ∉ seen := by
  induction climbs with
  | top => simp
  | back returned => simp
  | @item seen current higher new rest ih =>
      obtain ⟨distinct, unseen⟩ := ih
      have fresh : current ∉ higher := fun later => unseen current later List.mem_cons_self
      refine ⟨List.nodup_cons.mpr ⟨fresh, distinct⟩, fun item member => ?_⟩
      rcases List.mem_cons.mp member with rfl | later
      · exact new
      · exact fun earlier => unseen item later (List.mem_cons_of_mem _ earlier)

/-- A climb that goes on with a class some steps above another yields what lies above that one, step
by step. -/
theorem Climbs.ancestors {name : String} {depth : Nat} {seen items : List String}
    {next : Option String} (climbs : index.Climbs seen next items)
    (reached : index.ancestor? name depth = next) {i : Nat} {item : String}
    (yielded : items[i]? = some item) : index.ancestor? name (depth + i) = some item := by
  induction climbs generalizing depth i with
  | top => simp at yielded
  | back returned => simp at yielded
  | @item seen current higher new rest ih =>
      have above : index.ancestor? name (depth + 1) =
          (index.get? current).bind ClassInfo.superClass := by
        rw [ancestor?, reached, Option.bind_some]
      cases i with
      | zero =>
          rw [List.getElem?_cons_zero] at yielded
          rw [Nat.add_zero, reached, yielded]
      | succ i =>
          rw [List.getElem?_cons_succ] at yielded
          have later := ih above yielded
          rwa [Nat.add_right_comm] at later

theorem length_climb_le (steps : Nat) (seen : List String) (next : Option String) :
    (index.climb steps seen next).length ≤ steps := by
  induction steps generalizing seen next with
  | zero => exact Nat.le_refl 0
  | succ steps ih =>
      cases next with
      | none => exact Nat.zero_le _
      | some current =>
          rw [climb]
          split
          · exact Nat.zero_le _
          · exact Nat.succ_le_succ (ih _ _)

/-- The climb from a class ends by itself, in one way, after at most one class more than the index
holds.  It yields distinct classes, of which the one at each place lies that many steps above the
start, and among them is every class that lies above the start at all. -/
theorem superclasses_exact (index : ClassIndex) (name : String) :
    (∀ items, index.Climbs [] ((index.get? name).bind ClassInfo.superClass) items ↔
        items = index.superclasses name) ∧
      (index.superclasses name).length ≤ index.size + 1 ∧
      (index.superclasses name).Nodup ∧
      (∀ i item, (index.superclasses name)[i]? = some item →
        index.ancestor? name (i + 1) = some item) ∧
      (∀ base, base ∈ index.superclasses name ↔ index.Descends name base) ∧
      ∀ base, index.isSubclassOf name base = true ↔ index.Descends name base := by
  have climbs : index.Climbs [] ((index.get? name).bind ClassInfo.superClass)
      (index.superclasses name) := climbs_superclasses name
  refine ⟨fun items => ⟨climbs.unique, fun same => same ▸ climbs⟩, length_climb_le _ _ _,
    climbs.distinct.1, fun i item yielded => ?_, fun base => mem_superclasses_iff,
    fun base => isSubclassOf_iff⟩
  have first : index.ancestor? name 1 = (index.get? name).bind ClassInfo.superClass := rfl
  have reached := climbs.ancestors first yielded
  rwa [Nat.add_comm] at reached

/-- Two classes above each other, of which one also lies above a third. -/
example :
    let index := ofList [{ name := "A", superClass := some "B" },
      { name := "B", superClass := some "C" }, { name := "C", superClass := some "B" }]
    index.superclasses "A" = ["B", "C"] ∧ index.superclasses "B" = ["C", "B"] := by
  decide +kernel

/-! ## Work lists -/

/-- A set holds the declared interfaces of a class and of everything above it, and with every interface
of the index those that it declares. -/
structure HoldsInterfaces (index : ClassIndex) (name : String) (names : Set String) : Prop where
  declared : ∀ holder, holder = name ∨ index.Descends name holder →
    ∀ info, index.get? holder = some info → ∀ interface ∈ info.interfaces, interface ∈ names
  extended : ∀ lower ∈ names, ∀ info, index.get? lower = some info →
    ∀ interface ∈ info.interfaces, interface ∈ names

theorem Work.round_of_pending {work : Work} (waiting : work.pending ≠ []) :
    ∃ next, index.Round work next := by
  obtain ⟨pending, found⟩ := work
  cases pending with
  | nil => exact absurd rfl waiting
  | cons first rest =>
      by_cases seen : first ∈ found
      · exact ⟨_, .seen (.refl _) seen⟩
      · exact ⟨_, .new (.refl _) seen (.refl _)⟩

theorem effort_of_rounds {works : Nat → Work} {count : Nat}
    (rounds : ∀ i < count, index.Round (works i) (works (i + 1))) :
    (works count).effort index + count = (works 0).effort index := by
  induction count with
  | zero => rfl
  | succ count ih =>
      have earlier := ih fun i below => rounds i (Nat.lt_succ_of_lt below)
      have last := (rounds count (Nat.lt_succ_self count)).effort
      omega

/-- A work list for a class takes a bounded number of rounds, in whatever order it takes them; where it
cannot go on nothing waits, and it has found what `interfacesOf` returns.  That is the least set that
holds the interfaces of the class. -/
theorem interfacesOf_least (index : ClassIndex) (name : String) :
    (∀ (works : Nat → Work) (count : Nat), works 0 = index.workOf name →
        (∀ i < count, index.Round (works i) (works (i + 1))) →
          count ≤ (index.workOf name).pending.length + index.declarations) ∧
      (∀ work, index.Rounds (index.workOf name) work →
        (∃ next, index.Round work next) ∨ work = ⟨[], index.interfacesOf name⟩) ∧
      index.Rounds (index.workOf name) ⟨[], index.interfacesOf name⟩ ∧
      IsLeast {names : Set String | index.HoldsInterfaces name names}
        {interface | interface ∈ index.interfacesOf name} := by
  refine ⟨fun works count start rounds => ?_, fun work rounds => ?_, rounds_interfacesOf name, ?_, ?_⟩
  · have spent := effort_of_rounds rounds
    rw [start, effort_workOf] at spent
    omega
  · obtain ⟨pending, found⟩ := work
    cases pending with
    | cons first rest => exact Or.inl (Work.round_of_pending (List.cons_ne_nil first rest))
    | nil =>
        have same : found = index.interfacesOf name := by
          apply Std.ExtTreeSet.ext_mem
          intro interface
          rw [mem_found_iff rounds, mem_interfacesOf_iff]
        exact Or.inr (same ▸ rfl)
  · refine ⟨fun holder above info known interface listed => ?_,
      fun lower member info known interface listed => ?_⟩
    · apply mem_interfacesOf_iff.mpr
      exact .declared above known listed
    · apply mem_interfacesOf_iff.mpr
      exact .extended (mem_interfacesOf_iff.mp member) known listed
  · intro names holds interface member
    have implemented := mem_interfacesOf_iff.mp member
    clear member
    induction implemented with
    | declared above known listed => exact holds.declared _ above _ known _ listed
    | extended _ known listed reached => exact holds.extended _ reached _ known _ listed

end ContainerReplay.ClassIndex
