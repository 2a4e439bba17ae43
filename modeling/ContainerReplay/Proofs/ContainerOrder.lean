import ContainerReplay.Proofs.ComponentTable
import ContainerReplay.Synthesis.Basic

/-!
# Container order

The order in which components are replayed, said without ranks, and the proof that it is total on
components of different classes, so that an application has exactly one sequence in this order.
-/

set_option autoImplicit false

namespace ContainerReplay.Component

/-! ## The order without ranks -/

/-- A start-up order of at least zero comes before a later one, and before none. -/
def StartsEarlier (first second : Component) : Prop :=
  ∃ order, first.loadOnStartup = some order ∧ 0 ≤ order ∧
    ∀ other, second.loadOnStartup = some other → 0 ≤ other → order < other

/-- Listeners come before filters and these before what answers requests; there the start-up order
counts first; and class names decide what is left open. -/
def Precedes (first second : Component) : Prop :=
  first.kind.role.rank < second.kind.role.rank ∨
    first.kind.role = second.kind.role ∧
      (first.kind.role = .dispatch ∧ first.StartsEarlier second ∨
        ¬ (first.kind.role = .dispatch ∧
            (first.StartsEarlier second ∨ second.StartsEarlier first)) ∧
          first.className < second.className)

theorem containerOrder_eq_compareLex :
    containerOrder =
      compareLex (compareOn fun component => component.kind.role.rank)
        (compareLex (compareOn fun component => component.startupRank.1)
          (compareLex (compareOn fun component => component.startupRank.2)
            (compareOn className))) := rfl

instance : Std.TransCmp containerOrder := by
  rw [containerOrder_eq_compareLex]
  infer_instance

def startupOrder (first second : Component) : Ordering :=
  (compare first.startupRank.1 second.startupRank.1).then
    (compare first.startupRank.2 second.startupRank.2)

theorem startupRank_of_eager {component : Component} {order : Int}
    (dispatch : component.kind.role = .dispatch) (asked : component.loadOnStartup = some order)
    (eager : 0 ≤ order) : component.startupRank = (0, order) := by
  rw [startupRank, dispatch, asked]
  exact if_pos eager

theorem startupRank_of_lazy {component : Component}
    (lazy : component.kind.role = .dispatch →
      ∀ order, component.loadOnStartup = some order → ¬ 0 ≤ order) :
    component.startupRank = (1, 0) := by
  unfold startupRank
  split
  · rename_i order dispatch asked
    exact if_neg (lazy dispatch order asked)
  · rfl

theorem startupOrder_eq_lt {first second : Component} (firstDispatch : first.kind.role = .dispatch)
    (secondDispatch : second.kind.role = .dispatch) :
    first.startupOrder second = .lt ↔ first.StartsEarlier second := by
  -- the orders themselves count only where both are eager; else the first part of a rank decides
  by_cases eager : ∃ order, first.loadOnStartup = some order ∧ 0 ≤ order
  · obtain ⟨order, asked, bound⟩ := eager
    by_cases otherEager : ∃ other, second.loadOnStartup = some other ∧ 0 ≤ other
    · obtain ⟨other, otherAsked, otherBound⟩ := otherEager
      rw [startupOrder, startupRank_of_eager firstDispatch asked bound,
        startupRank_of_eager secondDispatch otherAsked otherBound]
      simp [StartsEarlier, asked, otherAsked, bound, otherBound, Std.compare_eq_lt]
    · have lazy : second.startupRank = (1, 0) :=
        startupRank_of_lazy fun _ other otherAsked otherBound =>
          otherEager ⟨other, otherAsked, otherBound⟩
      rw [startupOrder, startupRank_of_eager firstDispatch asked bound, lazy]
      refine ⟨fun _ => ⟨order, asked, bound, fun other otherAsked otherBound => ?_⟩, fun _ => rfl⟩
      exact absurd ⟨other, otherAsked, otherBound⟩ otherEager
  · have lazy : first.startupRank = (1, 0) :=
      startupRank_of_lazy fun _ order asked bound => eager ⟨order, asked, bound⟩
    constructor
    · intro below
      rw [startupOrder, lazy] at below
      by_cases otherEager : ∃ other, second.loadOnStartup = some other ∧ 0 ≤ other
      · obtain ⟨other, otherAsked, otherBound⟩ := otherEager
        rw [startupRank_of_eager secondDispatch otherAsked otherBound] at below
        cases below
      · have otherLazy : second.startupRank = (1, 0) :=
          startupRank_of_lazy fun _ other otherAsked otherBound =>
            otherEager ⟨other, otherAsked, otherBound⟩
        rw [otherLazy] at below
        cases below
    · rintro ⟨order, asked, bound, _⟩
      exact absurd ⟨order, asked, bound⟩ eager

instance : Std.OrientedCmp startupOrder := by
  have lex : startupOrder = compareLex (compareOn fun component => component.startupRank.1)
      (compareOn fun component => component.startupRank.2) := rfl
  rw [lex]
  infer_instance

/-- Start-up orders leave two dispatchers equal exactly if neither starts earlier. -/
theorem startupOrder_eq_eq {first second : Component} (firstDispatch : first.kind.role = .dispatch)
    (secondDispatch : second.kind.role = .dispatch) :
    first.startupOrder second = .eq ↔
      ¬ (first.StartsEarlier second ∨ second.StartsEarlier first) := by
  rw [← startupOrder_eq_lt firstDispatch secondDispatch,
    ← startupOrder_eq_lt secondDispatch firstDispatch]
  cases ordered : first.startupOrder second with
  | lt => simp
  | gt => simp [Std.OrientedCmp.lt_of_gt ordered]
  | eq => simp [Std.OrientedCmp.eq_symm ordered]

theorem compare_className (first second : Component) :
    compare first.className second.className = .lt ↔ first.className < second.className :=
  compareOfLessAndEq_eq_lt

theorem containerOrder_eq_lt (first second : Component) :
    first.containerOrder second = .lt ↔ first.Precedes second := by
  have parts : first.containerOrder second =
      (compare first.kind.role.rank second.kind.role.rank).then
        ((first.startupOrder second).then (compare first.className second.className)) := by
    rw [startupOrder, Ordering.then_assoc]
    rfl
  have roles : compare first.kind.role.rank second.kind.role.rank = .eq ↔
      first.kind.role = second.kind.role := by
    rw [Std.compare_eq_iff_eq]
    exact ⟨Role.rank_injective, congrArg Role.rank⟩
  rw [parts, Ordering.then_eq_lt, Ordering.then_eq_lt, Nat.compare_eq_lt, roles,
    compare_className, Precedes]
  refine or_congr_right (and_congr_right fun same => ?_)
  by_cases dispatch : first.kind.role = .dispatch
  · have otherDispatch := same.symm.trans dispatch
    rw [startupOrder_eq_lt dispatch otherDispatch, startupOrder_eq_eq dispatch otherDispatch]
    simp only [dispatch, true_and]
  · have otherDispatch : second.kind.role ≠ .dispatch := fun role => dispatch (same.trans role)
    have level : first.startupOrder second = .eq := by
      rw [startupOrder, startupRank_of_lazy fun role => absurd role dispatch,
        startupRank_of_lazy fun role => absurd role otherDispatch]
      rfl
    simp [level, dispatch]

theorem className_eq_of_containerOrder {first second : Component}
    (level : first.containerOrder second = .eq) : first.className = second.className := by
  simp only [containerOrder, Ordering.then_eq_eq] at level
  exact Std.LawfulEqCmp.eq_of_compare level.2.2.2

/-! ## Sorting -/

theorem insertInOrder_perm (component : Component) (components : List Component) :
    (component.insertInOrder components).Perm (component :: components) := by
  induction components with
  | nil => exact List.Perm.refl _
  | cons other rest ih =>
      unfold insertInOrder
      split
      · exact List.Perm.refl _
      · exact (ih.cons other).trans (List.Perm.swap component other rest)

theorem inContainerOrder_perm (components : List Component) :
    (inContainerOrder components).Perm components := by
  induction components with
  | nil => exact List.Perm.refl _
  | cons component rest ih =>
      exact (insertInOrder_perm component (inContainerOrder rest)).trans (ih.cons component)

theorem insertInOrder_sorted (component : Component) {components : List Component}
    (sorted : components.Pairwise fun first second => (first.containerOrder second).isLE) :
    (component.insertInOrder components).Pairwise
      fun first second => (first.containerOrder second).isLE := by
  induction components with
  | nil => exact List.pairwise_singleton _ _
  | cons other rest ih =>
      obtain ⟨least, restSorted⟩ := List.pairwise_cons.mp sorted
      unfold insertInOrder
      split
      · rename_i below
        refine List.pairwise_cons.mpr ⟨fun later member => ?_, sorted⟩
        rcases List.mem_cons.mp member with rfl | inRest
        · exact below
        · exact Std.TransCmp.isLE_trans below (least later inRest)
      · rename_i above
        refine List.pairwise_cons.mpr ⟨fun later member => ?_, ih restSorted⟩
        rcases List.mem_cons.mp ((insertInOrder_perm component rest).mem_iff.mp member) with
          rfl | inRest
        · rw [Std.OrientedCmp.lt_of_not_isLE above]
          rfl
        · exact least later inRest

theorem inContainerOrder_sorted (components : List Component) :
    (inContainerOrder components).Pairwise
      fun first second => (first.containerOrder second).isLE := by
  induction components with
  | nil => exact List.Pairwise.nil
  | cons component rest ih => exact insertInOrder_sorted component ih

/-! ## One sequence for each application -/

theorem Precedes.asymm {first second : Component} (below : first.Precedes second) :
    ¬ second.Precedes first := by
  rw [← containerOrder_eq_lt] at below ⊢
  rw [Std.OrientedCmp.gt_of_lt below]
  decide

theorem inContainerOrder_precedes {components : List Component}
    (distinct : (components.map className).Nodup) :
    (inContainerOrder components).Pairwise Precedes := by
  have different : (inContainerOrder components).Pairwise
      fun first second => first.className ≠ second.className := by
    rw [← List.pairwise_map]
    exact ((inContainerOrder_perm components).map className).nodup_iff.mpr distinct
  refine ((inContainerOrder_sorted components).and different).imp ?_
  rintro first second ⟨below, unlike⟩
  rw [← containerOrder_eq_lt]
  cases ordered : first.containerOrder second with
  | lt => rfl
  | eq => exact absurd (className_eq_of_containerOrder ordered) unlike
  | gt =>
      rw [ordered] at below
      cases below

/-- There is no other sequence of the same components in container order. -/
theorem eq_inContainerOrder {components sequence : List Component}
    (distinct : (components.map className).Nodup) (permuted : sequence.Perm components)
    (ordered : sequence.Pairwise Precedes) : sequence = inContainerOrder components := by
  refine (permuted.trans (inContainerOrder_perm components).symm).eq_of_pairwise ?_ ordered
    (inContainerOrder_precedes distinct)
  intro first second _ _ below above
  exact absurd above below.asymm

end ContainerReplay.Component
