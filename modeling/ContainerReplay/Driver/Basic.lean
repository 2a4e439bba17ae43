import ContainerReplay.Component.Kind
import ContainerReplay.Driver.Statement

/-!
# Drivers

A driver is one class with a sequence of units; each unit replays what a container does with one
component or one action.
-/

set_option autoImplicit false

namespace ContainerReplay

/-- The statements that replay one component or one action. -/
structure DriverUnit where
  name : String
  role : Role
  /-- The class of the component. -/
  component : String
  /-- The template that wrote the unit. -/
  template : String
  statements : List Statement
  deriving Repr, DecidableEq

/-- All units in container order. -/
structure Driver where
  className : String
  units : List DriverUnit
  deriving Repr, DecidableEq

def DriverUnit.written (unit : DriverUnit) : String :=
  let lines := unit.statements.map fun statement => "    " ++ statement.written ++ ";\n"
  s!"  {unit.role.key} {unit.name} [{unit.template}] \x7b\n" ++ String.join lines ++ "  \x7d\n"

namespace Driver

def dispatchUnits (driver : Driver) : List DriverUnit :=
  driver.units.filter fun unit => unit.role == .dispatch

def written (driver : Driver) : String :=
  s!"driver {driver.className} \x7b\n" ++ String.join (driver.units.map DriverUnit.written) ++
    "\x7d\n"

/-- The package of the stand-ins for objects of the container. -/
def syntheticPackage : String := "webentry.synthetic"

def synthetic (simple : String) : String :=
  s!"{syntheticPackage}.{simple}"

def defaultClass : String := synthetic "EntryPoint"

end Driver

end ContainerReplay
