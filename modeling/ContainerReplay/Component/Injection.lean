import Std.Data.ExtTreeSet

/-!
# Injections

A resource reference of a deployment descriptor together with the field or setter that receives the
resource.  Injections are ordered by resource, type (none first), class and field.
-/

set_option autoImplicit false

namespace ContainerReplay

/-- The field or setter that receives a resource. -/
structure InjectionTarget where
  targetClass : String
  targetName : String
  deriving Repr, DecidableEq

/-- A referenced resource and where it goes. -/
structure Injection where
  /-- The name under which the container looks the resource up. -/
  resourceName : String
  resourceType : Option String
  target : InjectionTarget
  deriving Repr, DecidableEq

namespace Injection

def order : Injection → Injection → Ordering :=
  compareLex (compareOn resourceName)
    (compareLex (compareOn resourceType)
      (compareLex (compareOn fun injection => injection.target.targetClass)
        (compareOn fun injection => injection.target.targetName)))

instance : Ord Injection := ⟨order⟩

instance : Std.TransOrd Injection :=
  inferInstanceAs (Std.TransCmp
    (compareLex (compareOn resourceName)
      (compareLex (compareOn resourceType)
        (compareLex (compareOn fun injection => injection.target.targetClass)
          (compareOn fun injection => injection.target.targetName)))))

instance : Std.LawfulEqOrd Injection where
  eq_of_compare {first second} same := by
    change order first second = .eq at same
    simp only [order, compareLex_eq_eq, compareOn] at same
    obtain ⟨resource, type, className, field⟩ := same
    have resource := Std.LawfulEqOrd.eq_of_compare resource
    have type := Std.LawfulEqOrd.eq_of_compare type
    have className := Std.LawfulEqOrd.eq_of_compare className
    have field := Std.LawfulEqOrd.eq_of_compare field
    obtain ⟨_, _, _, _⟩ := first
    obtain ⟨_, _, _, _⟩ := second
    simp_all

end Injection

end ContainerReplay
