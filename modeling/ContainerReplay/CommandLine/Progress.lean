import ContainerReplay.CommandLine.Option
import ContainerReplay.Report.Format

/-!
# Reading the arguments of one level

Words are taken from left to right.  A value that does not hang on its option is settled only when
the next option, the next plain word or the end is reached, so an unknown option between the two
is reported first.
-/

set_option autoImplicit false

namespace ContainerReplay.CommandLine

/-- Why arguments do not make an invocation; a request for help or for the version is one cause. -/
inductive Refusal where
  | helpAsked
  | versionAsked
  | nothingGiven
  | missingCommand
  | missingPath
  | unknownCommand
  | unknownOption
  | unwantedValue
  | invalidValue
  | conflict
  deriving Repr, DecidableEq

/-- The exit status; a request that was granted is no failure. -/
def Refusal.exit : Refusal → Nat
  | helpAsked => 0
  | versionAsked => 0
  | _ => 2

def Slot.accepts : Slot → String → Bool
  | path, value => value ≠ ""
  | classes, value => value ≠ ""
  | output, value => value ≠ ""
  | format, value => (ReportFormat.ofText? value).isSome
  | detectors, _ => true
  | driverClass, _ => true
  | logLevel, _ => true

structure Progress where
  values : List (Slot × String) := []
  flags : List Flag := []
  /-- The slot that is not settled yet, with its value if that was read. -/
  pending : Option (Slot × Option String) := none
  deriving Repr, DecidableEq

namespace Progress

def value? (progress : Progress) (slot : Slot) : Option String :=
  match progress.values.find? fun entry => entry.1 = slot with
  | none => none
  | some entry => some entry.2

def has (progress : Progress) (flag : Flag) : Bool :=
  progress.flags.contains flag

def isEmpty (progress : Progress) : Bool :=
  progress.values.isEmpty && progress.flags.isEmpty

def give (progress : Progress) (slot : Slot) (value : String) : Except Refusal Progress :=
  if (progress.value? slot).isSome then .error .conflict
  else if slot.accepts value then .ok { progress with values := progress.values ++ [(slot, value)] }
  else .error .invalidValue

def settle (progress : Progress) : Except Refusal Progress :=
  match progress.pending with
  | none => .ok progress
  | some (_, none) => .error .invalidValue
  | some (slot, some value) => give { progress with pending := none } slot value

def raise (progress : Progress) (flag : Flag) : Except Refusal Progress :=
  match progress.settle with
  | .error refusal => .error refusal
  | .ok settled =>
      if settled.has flag then .error .conflict
      else .ok { settled with flags := settled.flags ++ [flag] }

def await (progress : Progress) (slot : Slot) : Except Refusal Progress :=
  match progress.settle with
  | .error refusal => .error refusal
  | .ok settled => .ok { settled with pending := some (slot, none) }

def attach (progress : Progress) (slot : Slot) (value : String) : Except Refusal Progress :=
  match progress.settle with
  | .error refusal => .error refusal
  | .ok settled => settled.give slot value

/-- Grants a request unless what is pending stands in the way. -/
def grant (progress : Progress) (request : Refusal) : Except Refusal Progress :=
  match progress.settle with
  | .error refusal => .error refusal
  | .ok _ => .error request

end Progress

namespace Level

def readLong (level : Level) (progress : Progress) (text : List Char) : Except Refusal Progress :=
  let name := String.ofList (text.takeWhile (· ≠ '='))
  match level.long? name, text.dropWhile (· ≠ '=') with
  | none, _ => .error .unknownOption
  | some (.slot slot), [] => progress.await slot
  | some (.slot slot), _ :: value => progress.attach slot (String.ofList value)
  | some (.flag flag), [] => progress.raise flag
  | some .help, [] => progress.grant .helpAsked
  | some .version, [] => progress.grant .versionAsked
  | some _, _ :: _ => .error .unwantedValue

/-- Reads letters that stand together; what follows the letter of a slot is its value. -/
def readShort (level : Level) (progress : Progress) : List Char → Except Refusal Progress
  | [] => .ok progress
  | letter :: rest =>
      match level.short? letter, rest with
      | none, _ => .error .unknownOption
      | some .help, _ => progress.grant .helpAsked
      | some .version, _ => progress.grant .versionAsked
      | some (.flag flag), _ =>
          match progress.raise flag with
          | .error refusal => .error refusal
          | .ok next => level.readShort next rest
      | some (.slot slot), [] => progress.await slot
      -- an equals sign behind the letter is not part of the value
      | some (.slot slot), '=' :: value => progress.attach slot (String.ofList value)
      | some (.slot slot), value => progress.attach slot (String.ofList value)

def isFilled (progress : Progress) (slot : Slot) : Bool :=
  (progress.value? slot).isSome || progress.pending.any fun pending => pending.1 = slot

def strayWord (level : Level) (onlyWords : Bool) (word : String) : Refusal :=
  match level with
  | program =>
      if onlyWords && (level.command? word).isSome then .unknownOption else .unknownCommand
  | synth => .unknownOption
  | detectors => .unknownOption

def readWord (level : Level) (onlyWords : Bool) (progress : Progress) (word : String) :
    Except Refusal Progress :=
  match level.positional? with
  | none => .error (level.strayWord onlyWords word)
  | some slot =>
      if isFilled progress slot then .error (level.strayWord onlyWords word)
      else
        match progress.settle with
        | .error refusal => .error refusal
        | .ok settled => .ok { settled with pending := some (slot, some word) }

def readArgument (level : Level) (progress : Progress) (word : String) : Except Refusal Progress :=
  match word.toList, progress.pending with
  | '-' :: '-' :: text, _ => level.readLong progress text
  | '-' :: letter :: letters, _ => level.readShort progress (letter :: letters)
  | _, some (slot, none) => .ok { progress with pending := some (slot, some word) }
  | _, _ => level.readWord false progress word

/-- Whether the next word is the value of a slot, whatever it looks like otherwise. -/
def awaitsValue (progress : Progress) : Bool :=
  progress.pending.any fun pending => pending.2.isNone

/-- How the arguments of a level end: at a command with the rest behind it, or with the last one. -/
structure Ending where
  progress : Progress
  command : Option (CommandWord × List String) := none

def readWords (level : Level) (progress : Progress) : List String → Except Refusal Ending
  | [] => .ok ⟨progress, none⟩
  | word :: rest =>
      match level.readWord true progress word with
      | .error refusal => .error refusal
      | .ok next => level.readWords next rest

def read (level : Level) (progress : Progress) : List String → Except Refusal Ending
  | [] => .ok ⟨progress, none⟩
  | word :: rest =>
      -- an option that waits for its value takes even the word of a command
      match level.command? word, awaitsValue progress with
      | some command, false => .ok ⟨progress, some (command, rest)⟩
      | _, _ =>
          if word = "--" then level.readWords progress rest
          else
            match level.readArgument progress word with
            | .error refusal => .error refusal
            | .ok next => level.read next rest

end Level

end ContainerReplay.CommandLine
