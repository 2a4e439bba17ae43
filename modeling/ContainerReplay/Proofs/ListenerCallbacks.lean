import ContainerReplay.Proofs.Allocations
import ContainerReplay.Proofs.ObjectHistories
import ContainerReplay.Proofs.ServletPackages
import ContainerReplay.Proofs.UnitStatements

/-!
# What a listener is notified of

The unit of a listener invokes the callbacks of the listener interfaces that the class implements in
the package it was compiled against.  That is all that a container would notify it of, unless the
hierarchy mixes the two packages: then the listener interfaces of the older one are passed over.
-/

set_option autoImplicit false

namespace ContainerReplay

open Synthesis

/-! ## Calls and what is due -/

/-- The type and the method of a call of an object. -/
def Statement.callOn? (object : String) : Statement → Option (String × String)
  | .allocate _ _ => none
  | .invoke _ receiver owner method _ => if receiver = object then some (owner, method) else none
  | .store _ _ _ => none

def callsOn (object : String) (statements : List Statement) : List (String × String) :=
  statements.filterMap (Statement.callOn? object)

def Namespace.callTo (package : Namespace) (callback : ListenerCallback) : String × String :=
  (package.qualify callback.interface, callback.method)

/-- A call is the callback of a listener interface of the package that the class implements. -/
def DueIn (classes : ClassIndex) (className : String) (package : Namespace)
    (call : String × String) : Prop :=
  ∃ callback ∈ ServletApi.listenerCallbacks,
    classes.Implements className (package.qualify callback.interface) ∧
      call = package.callTo callback

def Due (classes : ClassIndex) (className : String) (call : String × String) : Prop :=
  ∃ package, DueIn classes className package call

/-- Whatever is due is called once, and nothing else; only if nothing is due, the listener is told
once that a context was initialized. -/
structure Notifies (due : String × String → Prop) (calls : List (String × String)) : Prop where
  exactly : (∃ call, due call) → calls.Nodup ∧ ∀ call, call ∈ calls ↔ due call
  otherwise : (¬ ∃ call, due call) →
    ∃ package : Namespace, calls = [package.callTo ServletApi.contextCallback]

/-- The hierarchy of a class leads to the newer package, but the class implements a listener
interface of the older one. -/
def Mixes (classes : ClassIndex) (className : String) : Prop :=
  (∃ name, (classes.Descends className name ∨ classes.Implements className name) ∧
    ∃ rest, name = Namespace.jakarta.name ++ rest) ∧
      ∃ call, DueIn classes className .javax call

theorem Notifies.congr {first second : String × String → Prop} {calls : List (String × String)}
    (same : ∀ call, first call ↔ second call) (notifies : Notifies first calls) :
    Notifies second calls := by
  rwa [← funext fun call => propext (same call)]

/-! ## Packages apart -/

theorem Namespace.qualify_javax_ne_jakarta (first second : String) :
    Namespace.javax.qualify first ≠ Namespace.jakarta.qualify second := by
  intro same
  have texts := congrArg String.toList same
  simp [Namespace.qualify_eq, Namespace.name] at texts

theorem Namespace.callTo_nodup (package : Namespace) :
    (ServletApi.listenerCallbacks.map package.callTo).Nodup := by
  cases package <;> decide +kernel

/-- An interface of the newer package is reason enough to choose it. -/
theorem namespaceFor_of_due {classes : ClassIndex} {className : String} {call : String × String}
    (due : DueIn classes className .jakarta call) :
    classes.namespaceFor className = .jakarta := by
  obtain ⟨callback, -, implemented, -⟩ := due
  exact ClassIndex.namespaceFor_eq_jakarta_iff.mpr ⟨_, Or.inr implemented, _, String.append_assoc⟩

theorem due_iff_of_not_mixes {classes : ClassIndex} {className : String}
    (pure : ¬ Mixes classes className) (call : String × String) :
    Due classes className call ↔
      DueIn classes className (classes.namespaceFor className) call := by
  constructor
  · rintro ⟨package, due⟩
    cases package with
    | jakarta => rwa [namespaceFor_of_due due]
    | javax =>
        cases chosen : classes.namespaceFor className with
        | javax => exact due
        | jakarta =>
            exact absurd ⟨ClassIndex.namespaceFor_eq_jakarta_iff.mp chosen, call, due⟩ pure
  · exact fun due => ⟨_, due⟩

/-! ## The unit of a listener -/

theorem callsOn_append (object : String) (first second : List Statement) :
    callsOn object (first ++ second) = callsOn object first ++ callsOn object second :=
  List.filterMap_append

theorem callsOn_notify (package : Namespace) (object : String) (draft : Draft)
    (callback : ListenerCallback) :
    callsOn object (notify package object draft callback).statements =
      callsOn object draft.statements ++ [package.callTo callback] := by
  simp [notify, callsOn, Draft.invoke, Draft.write, Draft.allocate, Draft.define,
    Statement.callOn?, Namespace.callTo, List.filterMap_cons]

theorem callsOn_foldl_notify (package : Namespace) (object : String)
    (callbacks : List ListenerCallback) (draft : Draft) :
    callsOn object (callbacks.foldl (notify package object) draft).statements =
      callsOn object draft.statements ++ callbacks.map package.callTo := by
  induction callbacks generalizing draft with
  | nil => simp
  | cons callback rest ih =>
      rw [List.foldl_cons, ih, callsOn_notify, List.map_cons, List.append_assoc,
        List.singleton_append]

theorem callsOn_allocateInjected (app : Application) (className object : String) :
    callsOn object (allocateInjected app className {}).statements = [] := by
  rw [allocateInjected_eq, callsOn, List.filterMap_eq_nil_iff]
  intro statement member
  rcases List.mem_cons.mp member with rfl | stored
  · rfl
  · obtain ⟨field, resource, rfl⟩ := exists_of_mem_injectionStores stored
    rfl

theorem callsOn_listenerDraft (scene : Scene) (component : Component) :
    callsOn (Draft.localName 0) (listenerDraft scene component).statements =
      (callbacksOf scene.classes (scene.classes.namespaceFor component.className)
        component.className).map (scene.classes.namespaceFor component.className).callTo := by
  rw [listenerDraft, callsOn_foldl_notify, callsOn_allocateInjected, List.nil_append]

theorem extends_listenerDraft (scene : Scene) (component : Component) :
    (({} : Draft).allocate component.className).Extends (listenerDraft scene component) := by
  refine (extends_allocateInjected scene.app component.className {}).trans ?_
  refine Draft.extends_foldl (fun draft callback => ?_) _ _
  exact (draft.extends_allocate _).trans (Draft.extends_invoke _ _ _ _ _)

/-- The callbacks of the listener interfaces that a class implements in a package. -/
def implementedCallbacks (classes : ClassIndex) (package : Namespace) (className : String) :
    List ListenerCallback :=
  ServletApi.listenerCallbacks.filter fun callback =>
    classes.implements className (package.qualify callback.interface)

theorem dueIn_iff {classes : ClassIndex} {package : Namespace} {className : String}
    {call : String × String} :
    DueIn classes className package call ↔
      call ∈ (implementedCallbacks classes package className).map package.callTo := by
  simp only [DueIn, implementedCallbacks, List.mem_map, List.mem_filter,
    ClassIndex.implements_iff, and_assoc, @eq_comm _ call]

/-- Within one package the callbacks are exactly what is due. -/
theorem callbacksOf_notifies (classes : ClassIndex) (package : Namespace) (className : String) :
    Notifies (DueIn classes className package)
      ((callbacksOf classes package className).map package.callTo) := by
  have distinct : ((implementedCallbacks classes package className).map package.callTo).Nodup :=
    package.callTo_nodup.sublist (List.filter_sublist.map package.callTo)
  have replayed : callbacksOf classes package className =
      orNone (implementedCallbacks classes package className) ServletApi.contextCallback := rfl
  rw [replayed]
  cases found : implementedCallbacks classes package className with
  | nil =>
      -- the callback of last resort stands alone
      refine ⟨fun ⟨call, due⟩ => ?_, fun _ => ⟨package, rfl⟩⟩
      rw [dueIn_iff, found] at due
      cases due
  | cons first rest =>
      rw [found] at distinct
      refine ⟨fun _ => ⟨distinct, fun call => ?_⟩,
        fun none => absurd ⟨package.callTo first, ?_⟩ none⟩
      · rw [dueIn_iff, found]
        rfl
      · rw [dueIn_iff, found]
        exact List.mem_cons_self

/-- The unit of a listener notifies its instance of what is due in the package that the class was
compiled against.  This is what is due in either package exactly if the hierarchy does not mix the
packages; in one that does, no listener interface of the older package is called. -/
theorem listener_notified_iff (scene : Scene) {component : Component}
    (listener : component.kind = .listener) :
    ∃ unit rest,
      (replayComponent (.ofList builtinTemplates) scene component).units = [unit] ∧
      unit.statements = .allocate (Draft.localName 0) component.className :: rest ∧
      Notifies
        (DueIn scene.classes component.className
          (scene.classes.namespaceFor component.className))
        (callsOn (Draft.localName 0) unit.statements) ∧
      (Notifies (Due scene.classes component.className)
          (callsOn (Draft.localName 0) unit.statements) ↔
        ¬ Mixes scene.classes component.className) ∧
      (Mixes scene.classes component.className →
        ∀ call, DueIn scene.classes component.className .javax call →
          call ∉ callsOn (Draft.localName 0) unit.statements) := by
  obtain ⟨rest, begins⟩ := statements_of_allocated (extends_listenerDraft scene component)
  refine ⟨unitOf component listenerTemplateId (listenerDraft scene component), rest, ?_, begins,
    ?_⟩
  · rw [units_of_kind, listener]
  · have calls := callsOn_listenerDraft scene component
    have notifies := callbacksOf_notifies scene.classes
      (scene.classes.namespaceFor component.className) component.className
    rw [← calls] at notifies
    -- the chosen package qualifies every call, so that none is of the other package
    have passedOver : Mixes scene.classes component.className →
        ∀ call, DueIn scene.classes component.className .javax call →
          call ∉ callsOn (Draft.localName 0) (listenerDraft scene component).statements := by
      rintro ⟨newer, -⟩ call ⟨callback, -, -, rfl⟩ called
      rw [calls, ClassIndex.namespaceFor_eq_jakarta_iff.mpr newer] at called
      obtain ⟨other, -, same⟩ := List.mem_map.mp called
      exact Namespace.qualify_javax_ne_jakarta _ _ (congrArg Prod.fst same).symm
    refine ⟨notifies, ⟨fun all mixes => ?_, fun pure => ?_⟩, passedOver⟩
    · obtain ⟨call, due⟩ := mixes.2
      have called := ((all.exactly ⟨call, .javax, due⟩).2 call).mpr ⟨.javax, due⟩
      exact passedOver mixes call due called
    · exact notifies.congr fun call => (due_iff_of_not_mixes pure call).symm

/-- A class on its way from the older package to the newer one. -/
def mixedSessions : ClassIndex :=
  .ofList
    [{ name := "com.example.Sessions",
       interfaces := ["javax.servlet.http.HttpSessionListener", "jakarta.servlet.AsyncListener"] }]

/-- It listens to sessions, but it is told of a context instead, through an interface that it does
not implement. -/
theorem mixedSessions_not_notified :
    let component : Component := { className := "com.example.Sessions", kind := .listener }
    component.kind = .listener ∧
      ∃ unit, (replayComponent (.ofList builtinTemplates) ⟨{}, mixedSessions⟩ component).units =
          [unit] ∧
        callsOn (Draft.localName 0) unit.statements =
          [("jakarta.servlet.ServletContextListener", "contextInitialized")] ∧
        ¬ Notifies (Due mixedSessions component.className)
          (callsOn (Draft.localName 0) unit.statements) := by
  intro component
  have listener : component.kind = .listener := rfl
  refine ⟨listener, ?_⟩
  obtain ⟨unit, _, units, _, _, exact, _⟩ := listener_notified_iff ⟨{}, mixedSessions⟩ listener
  have calls : (replayComponent (.ofList builtinTemplates) ⟨{}, mixedSessions⟩ component).units.map
      (fun unit => callsOn (Draft.localName 0) unit.statements) =
        [[("jakarta.servlet.ServletContextListener", "contextInitialized")]] := by
    decide +kernel
  rw [units, List.map_singleton] at calls
  have mixes : Mixes mixedSessions component.className := by
    refine ⟨⟨"jakarta.servlet.AsyncListener", Or.inr ?_, ".AsyncListener", by decide +kernel⟩,
      _, ⟨"http.HttpSessionListener", "sessionCreated", "http.HttpSessionEvent"⟩,
      by decide +kernel, ?_, rfl⟩
    · exact ClassIndex.implements_iff.mp (by decide +kernel)
    · exact ClassIndex.implements_iff.mp (by decide +kernel)
  exact ⟨unit, units, List.singleton_inj.mp calls, fun notified => exact.mp notified mixes⟩

end ContainerReplay
