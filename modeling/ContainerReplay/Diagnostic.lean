/-!
# Diagnostics

What a run has to say about its input: notes, warnings and errors, each with the resource that it
is about.  A run keeps them in the order in which they arose.
-/

set_option autoImplicit false

namespace ContainerReplay

inductive Severity where
  | info
  | warn
  | error
  deriving Repr, DecidableEq

namespace Severity

def all : List Severity := [info, warn, error]

def key : Severity → String
  | info => "info"
  | warn => "warn"
  | error => "error"

def ofText? (text : String) : Option Severity :=
  all.find? fun severity => severity.key == text

def rank : Severity → Nat
  | info => 0
  | warn => 1
  | error => 2

def max (first second : Severity) : Severity :=
  if first.rank < second.rank then second else first

end Severity

structure Diagnostic where
  severity : Severity
  message : String
  resource : Option String
  deriving Repr, DecidableEq

namespace Diagnostic

/-- One line: the severity in brackets, the message, and the resource in parentheses. -/
def line (diagnostic : Diagnostic) : String :=
  match diagnostic.resource with
  | none => s!"[{diagnostic.severity.key}] {diagnostic.message}"
  | some resource => s!"[{diagnostic.severity.key}] {diagnostic.message} ({resource})"

def count (severity : Severity) (diagnostics : List Diagnostic) : Nat :=
  diagnostics.countP fun diagnostic => diagnostic.severity == severity

def hasErrors (diagnostics : List Diagnostic) : Bool :=
  0 < count .error diagnostics

def gravest? (diagnostics : List Diagnostic) : Option Severity :=
  match diagnostics with
  | [] => none
  | first :: rest => some (rest.foldl (fun grave d => grave.max d.severity) first.severity)

/-- Every diagnostic on a line of its own, then the counts; nothing for no diagnostics. -/
def report (diagnostics : List Diagnostic) : String :=
  match diagnostics with
  | [] => ""
  | _ =>
      let lines := diagnostics.map fun diagnostic => diagnostic.line ++ "\n"
      let errors := count .error diagnostics
      let warnings := count .warn diagnostics
      let notes := count .info diagnostics
      String.join lines ++ s!"{errors} error(s), {warnings} warning(s), {notes} note(s)\n"

end Diagnostic

end ContainerReplay
