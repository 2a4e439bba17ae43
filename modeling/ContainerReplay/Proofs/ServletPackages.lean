import ContainerReplay.Classes.ServletApi
import ContainerReplay.Proofs.ClassHierarchy

/-!
# The two packages of the servlet API

Which classes count as part of the API, and what a hierarchy says about the package that a class was
compiled against.
-/

set_option autoImplicit false

namespace ContainerReplay

namespace Namespace

@[simp] theorem mem_all (package : Namespace) : package ∈ all := by
  cases package <;> simp [all]

theorem qualify_eq (package : Namespace) (simple : String) :
    package.qualify simple = package.name ++ "." ++ simple := rfl

end Namespace

namespace ServletApi

theorem startsWith_iff {text start : String} :
    startsWith text start = true ↔ ∃ rest, text = start ++ rest := by
  rw [startsWith, List.isPrefixOf_iff_prefix]
  constructor
  · rintro ⟨rest, joined⟩
    exact ⟨String.ofList rest, String.ext (by simp [joined])⟩
  · rintro ⟨rest, rfl⟩
    exact ⟨rest.toList, by simp⟩

/-- A class of the API is one that a package qualifies; its name there may have further dots. -/
theorem isApiClass_iff {className : String} :
    isApiClass className = true ↔
      ∃ (package : Namespace) (simple : String), className = package.qualify simple := by
  simp only [isApiClass, List.any_eq_true, Namespace.mem_all, true_and, startsWith_iff,
    Namespace.qualify_eq]

theorem any_inAllNamespaces {simple : String} {test : String → Bool} :
    (inAllNamespaces simple).any test = true ↔
      ∃ package : Namespace, test (package.qualify simple) = true := by
  simp only [inAllNamespaces, List.any_map, List.any_eq_true, Namespace.mem_all, true_and,
    Function.comp_apply]

end ServletApi

namespace ClassIndex

theorem any_hierarchy_iff {index : ClassIndex} {className : String} {test : String → Bool} :
    ((index.superclasses className).any test ||
        (index.interfacesOf className).toList.any test) = true ↔
      ∃ upper, (index.Descends className upper ∨ index.Implements className upper) ∧
        test upper = true := by
  simp only [Bool.or_eq_true, List.any_eq_true, mem_superclasses_iff, Std.ExtTreeSet.mem_toList,
    mem_interfacesOf_iff, or_and_right, exists_or]

/-- A class is taken for one of the newer package if a super class or an interface of it begins with
the name of that package, whether or not a dot follows. -/
theorem namespaceFor_eq_jakarta_iff {index : ClassIndex} {className : String} :
    index.namespaceFor className = .jakarta ↔
      ∃ name, (index.Descends className name ∨ index.Implements className name) ∧
        ∃ rest, name = Namespace.jakarta.name ++ rest := by
  simp only [← ServletApi.startsWith_iff, ← any_hierarchy_iff]
  rw [namespaceFor]
  split
  · rename_i found
    exact iff_of_true rfl found
  · rename_i none
    exact iff_of_false (by simp) none

/-- A type of the newer package stands above the class. -/
def ReachesJakarta (index : ClassIndex) (className : String) : Prop :=
  ∃ upper, (index.Descends className upper ∨ index.Implements className upper) ∧
    ServletApi.isApiClass upper = true ∧
      ServletApi.startsWith upper Namespace.jakarta.name = true

/-- A type of another package whose name begins like the newer one stands above the class. -/
def ReachesLookAlike (index : ClassIndex) (className : String) : Prop :=
  ∃ upper, (index.Descends className upper ∨ index.Implements className upper) ∧
    ServletApi.isApiClass upper = false ∧
      ServletApi.startsWith upper Namespace.jakarta.name = true

/-- The choice is justified by the hierarchy unless a look-alike alone has made it. -/
theorem namespaceFor_justified_iff (index : ClassIndex) (className : String) :
    ((index.namespaceFor className = .jakarta ↔ index.ReachesJakarta className) ↔
        (index.ReachesLookAlike className → index.ReachesJakarta className)) ∧
      (index.namespaceFor className = .jakarta ↔
        index.ReachesJakarta className ∨ index.ReachesLookAlike className) := by
  have reached : index.namespaceFor className = .jakarta ↔
      index.ReachesJakarta className ∨ index.ReachesLookAlike className := by
    rw [namespaceFor_eq_jakarta_iff]
    constructor
    · rintro ⟨upper, above, begins⟩
      have begins' := ServletApi.startsWith_iff.mpr begins
      cases api : ServletApi.isApiClass upper with
      | true => exact .inl ⟨upper, above, api, begins'⟩
      | false => exact .inr ⟨upper, above, api, begins'⟩
    · rintro (⟨upper, above, -, begins⟩ | ⟨upper, above, -, begins⟩)
      · exact ⟨upper, above, ServletApi.startsWith_iff.mp begins⟩
      · exact ⟨upper, above, ServletApi.startsWith_iff.mp begins⟩
  refine ⟨?_, reached⟩
  rw [reached]
  constructor
  · intro justified alike
    exact justified.mp (.inr alike)
  · intro covered
    exact ⟨fun either => either.elim id covered, .inl⟩

def lookAlikeClasses : ClassIndex :=
  ofList [{ name := "com.example.A", superClass := some "jakarta.servletx.Base" }]

theorem namespaceFor_lookAlike :
    lookAlikeClasses.namespaceFor "com.example.A" = .jakarta ∧
      ¬ (lookAlikeClasses.namespaceFor "com.example.A" = .jakarta ↔
        lookAlikeClasses.ReachesJakarta "com.example.A") := by
  have descends : lookAlikeClasses.Descends "com.example.A" "jakarta.servletx.Base" :=
    mem_superclasses_iff.mp (by decide)
  have alike : lookAlikeClasses.ReachesLookAlike "com.example.A" :=
    ⟨_, .inl descends, by decide, by decide⟩
  have unreached : ¬ lookAlikeClasses.ReachesJakarta "com.example.A" := by
    rintro ⟨upper, above, api, -⟩
    exact absurd (any_hierarchy_iff.mpr ⟨upper, above, api⟩) (by decide)
  obtain ⟨justified, reached⟩ := namespaceFor_justified_iff lookAlikeClasses "com.example.A"
  exact ⟨reached.mpr (.inr alike), fun same => unreached (justified.mp same alike)⟩

end ClassIndex

end ContainerReplay
