/-!
# Options of the command line

The program has two commands.  An option is known by a long name and perhaps by a letter; which
names are known depends on whether they stand before or after the command.
-/

set_option autoImplicit false

namespace ContainerReplay.CommandLine

inductive CommandWord where
  | synth
  | detectors
  | help
  deriving Repr, DecidableEq

def CommandWord.ofText? : String → Option CommandWord
  | "synth" => some .synth
  | "detectors" => some .detectors
  | "help" => some .help
  | _ => none

/-- Where an argument stands: before the command, or after one. -/
inductive Level where
  | program
  | synth
  | detectors
  deriving Repr, DecidableEq

/-- What takes one value. -/
inductive Slot where
  | path
  | classes
  | format
  | output
  | detectors
  | driverClass
  | logLevel
  deriving Repr, DecidableEq

inductive Flag where
  | verbose
  | quiet
  | strictCheckFiles
  | failOnError
  deriving Repr, DecidableEq

/-- What the name of an option stands for. -/
inductive Meaning where
  | slot (slot : Slot)
  | flag (flag : Flag)
  | help
  | version
  deriving Repr, DecidableEq

def commonLong? : String → Option Meaning
  | "log-level" => some (.slot .logLevel)
  | "verbose" => some (.flag .verbose)
  | "quiet" => some (.flag .quiet)
  | "help" => some .help
  | _ => none

def commonShort? : Char → Option Meaning
  | 'v' => some (.flag .verbose)
  | 'q' => some (.flag .quiet)
  | 'h' => some .help
  | _ => none

namespace Level

def long? (level : Level) (name : String) : Option Meaning :=
  match level, name with
  | program, "version" => some .version
  | synth, "classes" => some (.slot .classes)
  | synth, "format" => some (.slot .format)
  | synth, "output" => some (.slot .output)
  | synth, "detectors" => some (.slot .detectors)
  | synth, "driver-class" => some (.slot .driverClass)
  | synth, "strict-check-files" => some (.flag .strictCheckFiles)
  | synth, "fail-on-error" => some (.flag .failOnError)
  | detectors, "format" => some (.slot .format)
  | _, _ => commonLong? name

def short? (level : Level) (letter : Char) : Option Meaning :=
  match level, letter with
  | program, 'V' => some .version
  | synth, 'c' => some (.slot .classes)
  | synth, 'f' => some (.slot .format)
  | synth, 'o' => some (.slot .output)
  | synth, 'd' => some (.slot .detectors)
  | detectors, 'f' => some (.slot .format)
  | _, _ => commonShort? letter

/-- The command that a word stands for; there are none below a command. -/
def command? (level : Level) (word : String) : Option CommandWord :=
  match level with
  | program => CommandWord.ofText? word
  | synth => none
  | detectors => none

def positional? : Level → Option Slot
  | program => none
  | synth => some .path
  | detectors => none

end Level

end ContainerReplay.CommandLine
