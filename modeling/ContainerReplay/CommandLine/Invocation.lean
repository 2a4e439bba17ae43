import ContainerReplay.CommandLine.Progress

/-!
# Invocations

What a list of arguments asks for.  The arguments of a command are settled before those that stand
before it.
-/

set_option autoImplicit false

namespace ContainerReplay.CommandLine

structure SynthOptions where
  /-- The directory of the exploded application. -/
  webapp : String
  classes : Option String
  format : ReportFormat
  output : Option String
  detectors : Option String
  driverClass : Option String
  strictCheckFiles : Bool
  failOnError : Bool
  deriving Repr, DecidableEq

inductive Command where
  | synth (options : SynthOptions)
  | detectors (format : ReportFormat)
  deriving Repr, DecidableEq

/-- A command with the options that stand on either side of it. -/
structure Invocation where
  command : Command
  logLevel : Option String
  verbose : Bool
  quiet : Bool
  deriving Repr, DecidableEq

def Progress.conclude (progress : Progress) : Except Refusal Progress :=
  match progress.settle with
  | .error refusal => .error refusal
  | .ok settled =>
      if settled.has .verbose && settled.has .quiet then .error .conflict else .ok settled

def Progress.format (progress : Progress) : ReportFormat :=
  ((progress.value? .format).bind ReportFormat.ofText?).getD .text

def readSynth (arguments : List String) : Except Refusal (Progress × Command) :=
  match Level.synth.read {} arguments with
  | .error refusal => .error refusal
  | .ok ending =>
      match ending.progress.conclude with
      | .error refusal => .error refusal
      | .ok given =>
          match given.value? .path with
          | none => .error .missingPath
          | some webapp =>
              .ok (given, .synth
                { webapp := webapp
                  classes := given.value? .classes
                  format := given.format
                  output := given.value? .output
                  detectors := given.value? .detectors
                  driverClass := given.value? .driverClass
                  strictCheckFiles := given.has .strictCheckFiles
                  failOnError := given.has .failOnError })

def readDetectors (arguments : List String) : Except Refusal (Progress × Command) :=
  match Level.detectors.read {} arguments with
  | .error refusal => .error refusal
  | .ok ending =>
      match ending.progress.conclude with
      | .error refusal => .error refusal
      | .ok given => .ok (given, .detectors given.format)

def helpAnswer : List String → Refusal
  | [] => .helpAsked
  | [word] => if (CommandWord.ofText? word).isSome then .helpAsked else .unknownCommand
  | _ :: _ :: _ => .unknownCommand

def readCommand : CommandWord → List String → Except Refusal (Progress × Command)
  | .synth, arguments => readSynth arguments
  | .detectors, arguments => readDetectors arguments
  | .help, words => .error (helpAnswer words)

def withoutCommand (progress : Progress) : Refusal :=
  match progress.settle with
  | .error refusal => refusal
  | .ok settled => if settled.isEmpty then .nothingGiven else .missingCommand

namespace Invocation

/-- Options that are known everywhere count on both sides of the command; of two log levels the one
behind it stands. -/
def combine (outer inner : Progress) (command : Command) : Invocation :=
  { command := command
    logLevel := (inner.value? .logLevel).or (outer.value? .logLevel)
    verbose := outer.has .verbose || inner.has .verbose
    quiet := outer.has .quiet || inner.has .quiet }

def ofArguments (arguments : List String) : Except Refusal Invocation :=
  match Level.program.read {} arguments with
  | .error refusal => .error refusal
  | .ok ⟨progress, none⟩ => .error (withoutCommand progress)
  | .ok ⟨progress, some (word, rest)⟩ =>
      match readCommand word rest with
      | .error refusal => .error refusal
      | .ok (inner, command) =>
          -- what is wrong behind the command is reported before what is wrong in front of it
          match progress.conclude with
          | .error refusal => .error refusal
          | .ok outer => .ok (combine outer inner command)

end Invocation

end ContainerReplay.CommandLine
