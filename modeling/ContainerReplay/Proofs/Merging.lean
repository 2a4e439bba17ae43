import ContainerReplay.Proofs.ComponentTable

/-!
# Merging descriptions of one class

The attributes of a merged component, one by one, and the list of action mappings as a table by
path: a path keeps its place from its first mention and carries what was put last.
-/

set_option autoImplicit false

namespace ContainerReplay

namespace ActionMapping

/-- Puts mappings into a list one after another. -/
def putAll (mappings existing : List ActionMapping) : List ActionMapping :=
  mappings.foldl (fun list mapping => mapping.putInto list) existing

/-- The first mapping of a list that answers a path. -/
def at? (mappings : List ActionMapping) (path : String) : Option ActionMapping :=
  mappings.find? fun mapping => mapping.path == path

theorem at?_eq_none_iff {mappings : List ActionMapping} {path : String} :
    at? mappings path = none ↔ ∀ mapping ∈ mappings, mapping.path ≠ path := by
  simp [at?]

theorem putInto_paths (mapping : ActionMapping) (list : List ActionMapping) :
    (mapping.putInto list).map path =
      if mapping.path ∈ list.map path then list.map path
      else list.map path ++ [mapping.path] := by
  induction list with
  | nil => simp [putInto]
  | cons existing rest ih =>
      unfold putInto
      by_cases same : existing.path = mapping.path
      · simp [same]
      · simp only [same, if_false, List.map_cons, ih, List.mem_cons, Ne.symm same, false_or]
        split <;> simp

theorem at?_putInto (mapping : ActionMapping) (list : List ActionMapping) (path : String) :
    at? (mapping.putInto list) path =
      if mapping.path = path then some mapping else at? list path := by
  induction list with
  | nil =>
      unfold at? putInto
      by_cases asked : mapping.path = path
      · simp [asked]
      · simp [asked]
  | cons existing rest ih =>
      unfold at? at ih ⊢
      unfold putInto
      by_cases same : existing.path = mapping.path
      · by_cases asked : mapping.path = path
        · simp [same, asked]
        · simp [same, asked]
      · by_cases asked : existing.path = path
        · have other : mapping.path ≠ path := fun equal => same (asked.trans equal.symm)
          simp only [if_neg same, if_neg other, List.find?_cons, beq_iff_eq.mpr asked]
        · simp only [same, if_false, List.find?_cons, beq_eq_false_iff_ne.mpr asked]
          exact ih

/-- Two lists with the same distinct paths that answer every path alike are equal. -/
theorem eq_of_paths_of_at? {first second : List ActionMapping}
    (paths : first.map path = second.map path) (distinct : (first.map path).Nodup)
    (answers : ∀ path, at? first path = at? second path) : first = second := by
  induction first generalizing second with
  | nil => exact (List.map_eq_nil_iff.mp paths.symm).symm
  | cons head tail ih =>
      cases second with
      | nil => simp at paths
      | cons otherHead otherTail =>
          simp only [List.map_cons, List.cons.injEq] at paths distinct
          obtain ⟨headPath, tailPaths⟩ := paths
          obtain ⟨fresh, tailDistinct⟩ := List.nodup_cons.mp distinct
          have heads : head = otherHead := by
            have answer := answers head.path
            simpa [at?, headPath] using answer
          have tails : tail = otherTail := by
            refine ih tailPaths tailDistinct fun path => ?_
            -- neither tail answers the path of the heads, as the paths are distinct
            by_cases asked : head.path = path
            · have absent : at? tail path = none := by
                refine List.find?_eq_none.mpr fun mapping member equal => fresh ?_
                exact List.mem_map.mpr ⟨mapping, member, (beq_iff_eq.mp equal).trans asked.symm⟩
              have otherAbsent : at? otherTail path = none := by
                refine List.find?_eq_none.mpr fun mapping member equal => fresh ?_
                rw [tailPaths]
                exact List.mem_map.mpr ⟨mapping, member, (beq_iff_eq.mp equal).trans asked.symm⟩
              rw [absent, otherAbsent]
            · have answer := answers path
              simpa [at?, asked, ← headPath] using answer
          rw [heads, tails]

@[simp] theorem putAll_nil (list : List ActionMapping) : putAll [] list = list := rfl

theorem putAll_cons (mapping : ActionMapping) (rest list : List ActionMapping) :
    putAll (mapping :: rest) list = putAll rest (mapping.putInto list) := rfl

theorem putAll_append (first second list : List ActionMapping) :
    putAll (first ++ second) list = putAll second (putAll first list) :=
  List.foldl_append

theorem putAll_paths_grow (mappings list : List ActionMapping) :
    list.map path <+: (putAll mappings list).map path := by
  induction mappings generalizing list with
  | nil => exact List.prefix_rfl
  | cons mapping rest ih =>
      refine List.IsPrefix.trans ?_ (ih (mapping.putInto list))
      rw [putInto_paths]
      split
      · exact List.prefix_rfl
      · exact List.prefix_append _ _

theorem putAll_paths_nodup (mappings : List ActionMapping) {list : List ActionMapping}
    (distinct : (list.map path).Nodup) : ((putAll mappings list).map path).Nodup := by
  induction mappings generalizing list with
  | nil => exact distinct
  | cons mapping rest ih =>
      refine ih ?_
      rw [putInto_paths]
      split
      · exact distinct
      · rename_i fresh
        refine List.nodup_append.mpr ⟨distinct, by simp, ?_⟩
        intro known member new memberNew equal
        rw [List.mem_singleton.mp memberNew] at equal
        exact fresh (equal ▸ member)

theorem mem_putAll_paths (mappings list : List ActionMapping) :
    ∀ mapping ∈ mappings, mapping.path ∈ (putAll mappings list).map path := by
  induction mappings generalizing list with
  | nil => simp
  | cons first rest ih =>
      intro mapping member
      cases List.mem_cons.mp member with
      | inl same =>
          refine (putAll_paths_grow rest (first.putInto list)).subset ?_
          rw [same]
          exact List.mem_map.mpr ⟨first, mem_putInto_self first list, rfl⟩
      | inr later => exact ih (first.putInto list) mapping later

theorem putAll_eq_nil_iff {mappings : List ActionMapping} :
    putAll mappings [] = [] ↔ mappings = [] := by
  cases mappings with
  | nil => simp
  | cons mapping rest =>
      have present := mem_putAll_paths (mapping :: rest) [] mapping List.mem_cons_self
      constructor
      · intro empty
        rw [empty] at present
        cases present
      · simp

theorem putAll_paths_of_mem (mappings : List ActionMapping) {list : List ActionMapping}
    (present : ∀ mapping ∈ mappings, mapping.path ∈ list.map path) :
    (putAll mappings list).map path = list.map path := by
  induction mappings generalizing list with
  | nil => rfl
  | cons mapping rest ih =>
      have unchanged : (mapping.putInto list).map path = list.map path := by
        rw [putInto_paths, if_pos (present mapping List.mem_cons_self)]
      rw [putAll_cons, ih, unchanged]
      intro later member
      rw [unchanged]
      exact present later (List.mem_cons_of_mem _ member)

/-- Of several mappings with one path the last one stays. -/
theorem at?_putAll (mappings list : List ActionMapping) (path : String) :
    at? (putAll mappings list) path = (at? mappings.reverse path).or (at? list path) := by
  induction mappings generalizing list with
  | nil => simp [at?]
  | cons mapping rest ih =>
      rw [putAll_cons, ih, at?_putInto]
      simp only [at?, List.reverse_cons, List.find?_append, List.find?_singleton, beq_iff_eq]
      split <;> simp

theorem putAll_again (mappings : List ActionMapping) {list : List ActionMapping}
    (distinct : (list.map path).Nodup) :
    putAll mappings (putAll mappings list) = putAll mappings list := by
  -- the second round finds every path there, so that only the answers are left to compare
  have paths : (putAll mappings (putAll mappings list)).map path =
      (putAll mappings list).map path :=
    putAll_paths_of_mem mappings (mem_putAll_paths mappings list)
  refine eq_of_paths_of_at? paths ?_ fun path => ?_
  · rw [paths]
    exact putAll_paths_nodup mappings distinct
  · rw [at?_putAll, at?_putAll]
    cases at? mappings.reverse path <;> simp

end ActionMapping

namespace Component

theorem putMappings_eq (component : Component) (mappings : List ActionMapping) :
    component.putMappings mappings =
      { component with
        actionMappings := ActionMapping.putAll mappings component.actionMappings } := by
  induction mappings generalizing component with
  | nil => rfl
  | cons mapping rest ih =>
      rw [putMappings, List.foldl_cons]
      exact ih (component.putMapping mapping)

theorem merge_eq (component other : Component) :
    component.merge other =
      { className := component.className
        kind := (component.outcome other).kindAfter component.kind
        names := component.names ∪ other.names
        parameters := other.parameters ∪ component.parameters
        urlPatterns := component.urlPatterns ∪ other.urlPatterns
        servletNames := component.servletNames ∪ other.servletNames
        loadOnStartup := component.loadOnStartup.or other.loadOnStartup
        actionMappings :=
          ActionMapping.putAll other.actionMappings component.actionMappings } := by
  rw [merge, absorb, putMappings_eq]

/-- A kind changes only into one that refines it. -/
theorem kindAfter_outcome (component other : Component) :
    (component.outcome other).kindAfter component.kind =
      if other.kind.refines component.kind then other.kind else component.kind := by
  unfold outcome MergeOutcome.ofKinds
  cases component.kind <;> cases other.kind <;> rfl

end Component

end ContainerReplay
