import ContainerReplay.Application

/-!
# The components of an application by class name

What every operation leaves at every class name.  All later facts about an application go through
these look-ups, so that they do not depend on how the table is kept.
-/

set_option autoImplicit false

namespace ContainerReplay

def Component.mappingPaths (component : Component) : List String :=
  component.actionMappings.map ActionMapping.path

/-- What stands at a class name after a description of the class met what stood there. -/
def Component.meeting (component : Component) : Option Component → Component
  | none => component
  | some existing => existing.merge component

theorem treeMap_values_eq {α β : Type} {cmp : α → α → Ordering} [Std.TransCmp cmp]
    (table : Std.ExtTreeMap α β cmp) : table.values = table.toList.map Prod.snd := by
  obtain ⟨⟨inner⟩⟩ := table
  induction inner using Quotient.inductionOn with
  | _ tree =>
      change Std.DTreeMap.Internal.Impl.values tree.inner =
        (Std.DTreeMap.Internal.Impl.Const.toList tree.inner).map Prod.snd
      simp [Std.DTreeMap.Internal.Impl.values_eq_map_snd,
        Std.DTreeMap.Internal.Impl.Const.toList_eq_toListModel_map]

/-- Of blocks that carry the distinct keys of their items, those with the key of one item are its
own. -/
theorem filter_flatMap_of_key {α β : Type} {items : List α} {block : α → List β}
    {key : α → String} {tag : β → String} (distinct : (items.map key).Nodup)
    (own : ∀ item ∈ items, ∀ entry ∈ block item, tag entry = key item) {item : α}
    (member : item ∈ items) :
    ((items.flatMap block).filter fun entry => tag entry == key item) = block item := by
  induction items with
  | nil => cases member
  | cons first rest ih =>
      rw [List.map_cons, List.nodup_cons] at distinct
      rw [List.flatMap_cons, List.filter_append]
      rcases List.mem_cons.mp member with rfl | later
      · have others : ((rest.flatMap block).filter fun entry => tag entry == key item) = [] := by
          refine List.filter_eq_nil_iff.mpr fun entry entryMember same => distinct.1 ?_
          obtain ⟨other, otherMember, inBlock⟩ := List.mem_flatMap.mp entryMember
          rw [← beq_iff_eq.mp same, own other (List.mem_cons_of_mem _ otherMember) entry inBlock]
          exact List.mem_map_of_mem otherMember
        rw [others, List.append_nil]
        exact List.filter_eq_self.mpr fun entry inBlock =>
          beq_iff_eq.mpr (own item List.mem_cons_self entry inBlock)
      · have foreign : ((block first).filter fun entry => tag entry == key item) = [] := by
          refine List.filter_eq_nil_iff.mpr fun entry inBlock same => distinct.1 ?_
          rw [← own first List.mem_cons_self entry inBlock, beq_iff_eq.mp same]
          exact List.mem_map_of_mem later
        rw [foreign, List.nil_append]
        exact ih distinct.2
          (fun other otherMember => own other (List.mem_cons_of_mem _ otherMember)) later

/-- The last item whose image answers: the items after it give no answer. -/
theorem find?_reverse_filterMap_iff {α β : Type} {image? : α → Option β} {test : β → Bool}
    {items : List α} {answer : β} :
    (items.filterMap image?).reverse.find? test = some answer ↔
      test answer = true ∧ ∃ before item after, items = before ++ item :: after ∧
        image? item = some answer ∧ ∀ later ∈ after, ∀ other, image? later = some other →
          test other = false := by
  rw [List.find?_eq_some_iff_append, and_congr_right_iff]
  intro _
  constructor
  · rintro ⟨first, rest, divided, others⟩
    have ordered : items.filterMap image? = rest.reverse ++ answer :: first.reverse := by
      rw [← List.reverse_reverse (items.filterMap image?), divided]
      simp
    obtain ⟨before, tail, rfl, _, taken⟩ := List.filterMap_eq_append_iff.mp ordered
    obtain ⟨silent, item, after, rfl, mute, image, left⟩ := List.filterMap_eq_cons_iff.mp taken
    refine ⟨before ++ silent, item, after, (List.append_assoc ..).symm, image, ?_⟩
    intro later member other imageLater
    have listed : other ∈ first := by
      rw [← List.mem_reverse, ← left]
      exact List.mem_filterMap.mpr ⟨later, member, imageLater⟩
    simpa using others other listed
  · rintro ⟨before, item, after, rfl, image, others⟩
    refine ⟨(after.filterMap image?).reverse, (before.filterMap image?).reverse, ?_, ?_⟩
    · simp [image]
    · intro other member
      obtain ⟨later, laterMember, imageLater⟩ := List.mem_filterMap.mp (List.mem_reverse.mp member)
      simpa using others later laterMember other imageLater

namespace Application

/-! ## Look-ups after each operation -/

@[simp] theorem component?_empty (className : String) :
    ({} : Application).component? className = none := by
  simp [component?]

theorem component?_insert (app : Application) (className : String) (component : Component)
    (other : String) :
    ({ app with components := app.components.insert className component } :
        Application).component? other =
      if className = other then some component else app.component? other := by
  simp only [component?, Std.ExtTreeMap.getElem?_insert, Std.compare_eq_iff_eq]

theorem component?_register (app : Application) (component : Component) (className : String) :
    (app.register component).component? className =
      if component.className = className then
        some (component.meeting (app.component? className))
      else app.component? className := by
  unfold register
  by_cases same : component.className = className
  · subst same
    cases found : app.component? component.className with
    | none => simp [component?_insert, Component.meeting]
    | some existing => simp [component?_insert, Component.meeting]
  · cases app.component? component.className with
    | none => simp [component?_insert, same]
    | some existing => simp [component?_insert, same]

def registerAll (app : Application) (components : List Component) : Application :=
  components.foldl register app

theorem registerAll_append (app : Application) (first second : List Component) :
    app.registerAll (first ++ second) = (app.registerAll first).registerAll second :=
  List.foldl_append

theorem component?_modify (app : Application) (className : String)
    (change : Component → Component) (other : String) :
    (app.modify className change).component? other =
      if className = other then (app.component? other).map change else app.component? other := by
  unfold modify
  by_cases same : className = other
  · subst same
    cases found : app.component? className with
    | none => simp [found]
    | some existing => simp [component?_insert]
  · cases app.component? className with
    | none => simp [same]
    | some existing => simp [component?_insert, same]

theorem register_preserves_rest (app : Application) (component : Component) :
    (app.register component).displayName = app.displayName ∧
      (app.register component).contextParams = app.contextParams ∧
        (app.register component).injections = app.injections := by
  unfold register
  split <;> exact ⟨rfl, rfl, rfl⟩

theorem modify_preserves_rest (app : Application) (className : String)
    (change : Component → Component) :
    (app.modify className change).displayName = app.displayName ∧
      (app.modify className change).contextParams = app.contextParams ∧
        (app.modify className change).injections = app.injections := by
  unfold modify
  split <;> exact ⟨rfl, rfl, rfl⟩

theorem ext_component? {first second : Application}
    (components : ∀ className, first.component? className = second.component? className)
    (displayName : first.displayName = second.displayName)
    (contextParams : first.contextParams = second.contextParams)
    (injections : first.injections = second.injections) : first = second := by
  obtain ⟨_, firstTable, _, _⟩ := first
  obtain ⟨_, secondTable, _, _⟩ := second
  have tables : firstTable = secondTable := Std.ExtTreeMap.ext_getElem? components
  simp only at displayName contextParams injections
  subst tables displayName contextParams injections
  rfl

/-- A change that does nothing to the component in question does nothing at all. -/
theorem modify_eq_self {app : Application} {className : String}
    {change : Component → Component}
    (unchanged : ∀ component, app.component? className = some component →
      change component = component) : app.modify className change = app := by
  obtain ⟨displayName, contextParams, injections⟩ := modify_preserves_rest app className change
  refine ext_component? (fun other => ?_) displayName contextParams injections
  rw [component?_modify]
  split
  · rename_i same
    subst same
    cases found : app.component? className with
    | none => rfl
    | some component => exact congrArg some (unchanged component found)
  · rfl

theorem contains_iff (app : Application) (className : String) :
    app.contains className = true ↔ ∃ component, app.component? className = some component := by
  rw [contains, component?, Std.ExtTreeMap.contains_eq_isSome_getElem?, Option.isSome_iff_exists]

theorem contains_register (app : Application) (component : Component) (className : String) :
    (app.register component).contains className = true ↔
      app.contains className = true ∨ component.className = className := by
  rw [contains_iff, contains_iff, component?_register]
  by_cases same : component.className = className
  · simp [same]
  · simp [same]

theorem contains_registerAll_iff (app : Application) (components : List Component)
    (className : String) :
    (app.registerAll components).contains className = true ↔
      app.contains className = true ∨ className ∈ components.map Component.className := by
  induction components generalizing app with
  | nil => simp [registerAll]
  | cons first rest ih =>
      rw [registerAll, List.foldl_cons]
      refine (ih (app.register first)).trans ?_
      rw [contains_register, List.map_cons, List.mem_cons, or_assoc,
        @eq_comm _ className]

theorem contains_modify (app : Application) (className : String) (change : Component → Component)
    (other : String) :
    (app.modify className change).contains other = true ↔ app.contains other = true := by
  rw [contains_iff, contains_iff, ← Option.isSome_iff_exists, ← Option.isSome_iff_exists,
    component?_modify]
  split
  · rw [Option.isSome_map]
  · exact Iff.rfl

theorem contains_empty (className : String) : ({} : Application).contains className = false := by
  rw [← Bool.not_eq_true, contains_iff]
  simp

/-! ## Properties of every component -/

def All (app : Application) (good : Component → Prop) : Prop :=
  ∀ className component, app.component? className = some component → good component

theorem all_empty (good : Component → Prop) : ({} : Application).All good := by
  intro className component found
  simp at found

theorem all_register {app : Application} {good : Component → Prop} (all : app.All good)
    (merges : ∀ existing other, good existing → good other → good (existing.merge other))
    {component : Component} (new : good component) : (app.register component).All good := by
  intro className stored found
  rw [component?_register] at found
  split at found
  · cases previous : app.component? className with
    | none =>
        rw [previous] at found
        cases found
        exact new
    | some existing =>
        rw [previous] at found
        cases found
        exact merges existing component (all className existing previous) new
  · exact all className stored found

theorem all_registerAll {app : Application} {good : Component → Prop} (all : app.All good)
    (merges : ∀ existing other, good existing → good other → good (existing.merge other))
    {components : List Component} (new : ∀ component ∈ components, good component) :
    (app.registerAll components).All good := by
  refine List.foldlRecOn (motive := fun reached : Application => reached.All good)
    components register all ?_
  intro reached sofar component member
  exact all_register sofar merges (new component member)

theorem all_modify {app : Application} {good : Component → Prop} (all : app.All good)
    (className : String) {change : Component → Component}
    (keeps : ∀ component, good component → good (change component)) :
    (app.modify className change).All good := by
  intro other stored found
  rw [component?_modify] at found
  split at found
  · obtain ⟨existing, previous, rfl⟩ := Option.map_eq_some_iff.mp found
    exact keeps existing (all other existing previous)
  · exact all other stored found

/-! ## The list of components -/

theorem componentList_eq (app : Application) :
    app.componentList = app.components.toList.map Prod.snd :=
  treeMap_values_eq app.components

theorem mem_componentList_iff (app : Application) (component : Component) :
    component ∈ app.componentList ↔ ∃ className, app.component? className = some component := by
  simp only [componentList_eq, List.mem_map, Prod.exists, exists_eq_right,
    Std.ExtTreeMap.mem_toList_iff_getElem?_eq_some, component?]

/-- Every component is stored under its own class name. -/
def Keyed (app : Application) : Prop :=
  ∀ className component, app.component? className = some component →
    component.className = className

theorem Keyed.mem_componentList {app : Application} (keyed : app.Keyed) (component : Component) :
    component ∈ app.componentList ↔ app.component? component.className = some component := by
  rw [mem_componentList_iff]
  constructor
  · rintro ⟨className, found⟩
    rwa [keyed className component found]
  · intro found
    exact ⟨component.className, found⟩

theorem Keyed.componentList_sorted {app : Application} (keyed : app.Keyed) :
    app.componentList.Pairwise fun first second =>
      compare first.className second.className = .lt := by
  rw [componentList_eq, List.pairwise_map]
  refine app.components.ordered_keys_toList.imp_of_mem ?_
  rintro ⟨firstKey, first⟩ ⟨secondKey, second⟩ firstMem secondMem ordered
  have firstFound := Std.ExtTreeMap.mem_toList_iff_getElem?_eq_some.mp firstMem
  have secondFound := Std.ExtTreeMap.mem_toList_iff_getElem?_eq_some.mp secondMem
  rw [keyed firstKey first firstFound, keyed secondKey second secondFound]
  exact ordered

theorem Keyed.classNames_nodup {app : Application} (keyed : app.Keyed) :
    (app.componentList.map Component.className).Nodup := by
  rw [List.Nodup, List.pairwise_map]
  refine keyed.componentList_sorted.imp ?_
  intro first second ordered same
  rw [same, Std.compare_self] at ordered
  cases ordered

theorem componentList_eq_filterMap (app : Application) :
    app.componentList = app.classNames.filterMap app.component? := by
  have entries : ∀ entries : List (String × Component),
      (∀ entry ∈ entries, app.component? entry.1 = some entry.2) →
        entries.map Prod.snd = (entries.map Prod.fst).filterMap app.component? := by
    intro entries
    induction entries with
    | nil => exact fun _ => rfl
    | cons entry rest ih =>
        intro stored
        rw [List.map_cons, List.map_cons, List.filterMap_cons, stored entry List.mem_cons_self,
          ih fun other member => stored other (List.mem_cons_of_mem _ member)]
  rw [componentList_eq, classNames, ← Std.ExtTreeMap.map_fst_toList_eq_keys]
  exact entries _ fun entry member => Std.ExtTreeMap.mem_toList_iff_getElem?_eq_some.mp member

theorem mem_classNames_iff (app : Application) (className : String) :
    className ∈ app.classNames ↔ ∃ component, app.component? className = some component := by
  rw [classNames, Std.ExtTreeMap.mem_keys, Std.ExtTreeMap.mem_iff_isSome_getElem?,
    Option.isSome_iff_exists, component?]

theorem classNames_congr {first second : Application}
    (same : ∀ className, className ∈ first.classNames ↔ className ∈ second.classNames) :
    first.classNames = second.classNames := by
  -- one set of names has one ascending list
  have permuted : first.classNames.Perm second.classNames :=
    (List.perm_ext_iff_of_nodup Std.ExtTreeMap.nodup_keys Std.ExtTreeMap.nodup_keys).mpr same
  refine permuted.eq_of_pairwise ?_ Std.ExtTreeMap.ordered_keys Std.ExtTreeMap.ordered_keys
  intro lower upper _ _ below above
  rw [Std.OrientedCmp.gt_of_lt above] at below
  cases below

end Application

end ContainerReplay
