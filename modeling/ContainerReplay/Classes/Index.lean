import Std.Data.ExtTreeMap
import Std.Data.ExtTreeSet
import ContainerReplay.Classes.Name

/-!
# The class index and its hierarchy

The signatures of an application's compiled classes: super classes, interfaces and annotations.  The
index may be cyclic and may name classes that it does not hold; every search ends all the same.
-/

set_option autoImplicit false

namespace ContainerReplay

/-- The signature of one class or interface. -/
structure ClassInfo where
  name : String
  superClass : Option String := none
  interfaces : List String := []
  annotations : List String := []
  /-- An abstract class or interface, which no container instantiates. -/
  isAbstract : Bool := false
  deriving Repr, DecidableEq

structure ClassIndex where
  classes : Std.ExtTreeMap String ClassInfo := ∅
  deriving DecidableEq

namespace ClassIndex

def empty : ClassIndex := {}

def insert (index : ClassIndex) (info : ClassInfo) : ClassIndex :=
  ⟨index.classes.insert info.name info⟩

/-- The index of a list of classes; of two with one name the later stays. -/
def ofList (infos : List ClassInfo) : ClassIndex :=
  infos.foldl insert empty

def toList (index : ClassIndex) : List ClassInfo :=
  index.classes.values

def get? (index : ClassIndex) (name : String) : Option ClassInfo :=
  index.classes[name]?

def contains (index : ClassIndex) (name : String) : Bool :=
  index.classes.contains name

def size (index : ClassIndex) : Nat :=
  index.classes.size

def isEmpty (index : ClassIndex) : Bool :=
  index.classes.isEmpty

/-- Whether a class can be loaded.  An empty index means that no signatures are known, and then any
class name can. -/
def resolves (index : ClassIndex) (name : String) : Bool :=
  isClassName name && (index.isEmpty || index.contains name)

def superOf? (index : ClassIndex) (name : String) : Option String :=
  match index.get? name with
  | none => none
  | some info => info.superClass

def declaredInterfaces (index : ClassIndex) (name : String) : List String :=
  match index.get? name with
  | none => []
  | some info => info.interfaces

/-- Climbs from super class to super class until there is none or one comes back. -/
def climb (index : ClassIndex) : Nat → List String → Option String → List String
  | 0, _, _ => []
  | _ + 1, _, none => []
  | steps + 1, seen, some current =>
      -- a class that comes back closes a cycle
      if current ∈ seen then []
      else current :: climb index steps (current :: seen) (index.superOf? current)

/-- Super classes, nearest first.  All but the last are in the index and they are distinct, so the
number of classes bounds the climb. -/
def superclasses (index : ClassIndex) (name : String) : List String :=
  index.climb (index.size + 1) [] (index.superOf? name)

/-- Whether `base` is a proper super class of `name`. -/
def isSubclassOf (index : ClassIndex) (name base : String) : Bool :=
  (index.superclasses name).contains base

/-- Takes interfaces from a work list; a new one brings its own declared interfaces with it. -/
def saturate (index : ClassIndex) :
    Nat → List String → Std.ExtTreeSet String → Std.ExtTreeSet String
  | 0, _, found => found
  | _ + 1, [], found => found
  | steps + 1, interface :: pending, found =>
      if found.contains interface then index.saturate steps pending found
      else
        index.saturate steps (index.declaredInterfaces interface ++ pending)
          (found.insert interface)

def declarations (index : ClassIndex) : Nat :=
  index.toList.foldr (fun info total => info.interfaces.length + total) 0

/-- Everything that `name` implements: the interfaces that it and its super classes declare, and
their super-interfaces.  Each known interface adds its declarations once, which bounds the work. -/
def interfacesOf (index : ClassIndex) (name : String) : Std.ExtTreeSet String :=
  let pending := (name :: index.superclasses name).flatMap index.declaredInterfaces
  index.saturate (pending.length + index.declarations) pending ∅

def implements (index : ClassIndex) (name interface : String) : Bool :=
  (index.interfacesOf name).contains interface

def hasAnnotation (index : ClassIndex) (name annotation : String) : Bool :=
  match index.get? name with
  | none => false
  | some info => info.annotations.contains annotation

end ClassIndex

end ContainerReplay
