import SequenceApi.Command.Option
import SequenceApi.Console.Message
import SequenceApi.Settings.Layer

/-!
# Command lines

A command line names a command, with options for all commands before it and options of its own after
it.

## Main definitions

* `Command`: what the program is asked to do
* `Invocation`: a command with the options for all commands, or one of the other uses
* `Invocation.read`: the meaning of a command line
-/

namespace SequenceApi

/-- A request for documents. -/
structure GenerateRequest where
  source : String
  /-- Only this service is wanted. -/
  service : Option String := none
  /-- The folder for one file per service. -/
  folder : Option String := none
  choices : Choices := {}
  /-- A diagram with errors is refused. -/
  strict : Bool := false
  deriving DecidableEq, Repr

/-- What the program is asked to do. -/
inductive Command where
  | generate (request : GenerateRequest)
  | validate (source : String)
  | check (source : String)
  | showSettings
  | initSettings (force : Bool)
  deriving DecidableEq, Repr

/-- The options for all commands. -/
structure GlobalOptions where
  json : Bool := false
  plain : Bool := false
  noColour : Bool := false
  quiet : Bool := false
  verbose : Bool := false
  deriving DecidableEq, Repr

/-- The presentation that the options ask for: JSON goes before plain text. -/
def GlobalOptions.presentation (o : GlobalOptions) (around : Surroundings) : Presentation where
  format := (if o.json then OutputFormat.json else if o.plain then .plain else .auto).settled
  colour := !o.noColour && !around.isColourless
  quiet := o.quiet
  verbose := o.verbose
  reading := around.reading

/-- A use of the program. -/
inductive Invocation where
  | help
  | version
  /-- The command line has no meaning. -/
  | misuse
  | run (options : GlobalOptions) (command : Command)
  deriving DecidableEq, Repr

/-- The version of the program. -/
def versionText : String :=
  "seqspec 0.1.0"

namespace Invocation

/-! ## Options of the commands -/

/-- The options for all commands. -/
def globalOptions : OptionSet :=
  [.help, .version, .json, .plain, .noColor, .quiet, .verbose]

/-- The options for generating documents. -/
def generateOptions : OptionSet :=
  [.help, .service, .outputDir, .format, .openapiVersion, .apiVersion, .strict]

/-- The options of a command without any but the one for help. -/
def helpOnly : OptionSet :=
  [.help]

/-- The options for writing a file of settings. -/
def initOptions : OptionSet :=
  [.help, .force]

/-! ## Commands -/

/-- A command line after its global options. -/
inductive Part where
  | help
  | misuse
  | command (c : Command)

/-- The command of arguments that must have exactly one operand. -/
def withSource (known : OptionSet) (make : Arguments → String → Command) (args : List String) :
    Part :=
  match Arguments.read known true args with
  | none => .misuse
  | some a =>
    if a.has .help then .help
    else
      match a.operands with
      | [source] => .command (make a source)
      | _ => .misuse

/-- The command of arguments without operands. -/
def withoutSource (known : OptionSet) (make : Arguments → Command) (args : List String) : Part :=
  match Arguments.read known true args with
  | none => .misuse
  | some a =>
    if a.has .help then .help
    else if a.operands.isEmpty then .command (make a)
    else .misuse

/-- A request for documents. -/
def generateRequest (a : Arguments) (source : String) : GenerateRequest where
  source := source
  service := a.value? .service
  folder := a.value? .outputDir
  choices := ⟨a.value? .openapiVersion, a.value? .apiVersion, a.value? .format⟩
  strict := a.has .strict

/-- The commands about settings. -/
def settingsCommand (args : List String) : Part :=
  match Arguments.read helpOnly false args with
  | none => .misuse
  | some a =>
    if a.has .help then .help
    else
      match a.operands with
      | "show" :: rest => withoutSource helpOnly (fun _ => .showSettings) rest
      | "init" :: rest => withoutSource initOptions (fun a => .initSettings (a.has .force)) rest
      | _ => .misuse

/-- The command with its own arguments. -/
def command : List String → Part
  | "generate" :: rest =>
    withSource generateOptions (fun a source => .generate (generateRequest a source)) rest
  | "validate" :: rest => withSource helpOnly (fun _ source => .validate source) rest
  | "check" :: rest => withSource helpOnly (fun _ source => .check source) rest
  | "config" :: rest => settingsCommand rest
  | _ => .misuse

/-- The first of the options that replace a command. -/
def special? (a : Arguments) : Option Invocation :=
  a.given.findSome? fun g =>
    match g.1 with
    | .help => some help
    | .version => some version
    | _ => none

/-- The meaning of a command line. -/
def read (args : List String) : Invocation :=
  match Arguments.read globalOptions false args with
  | none => misuse
  | some a =>
    match special? a with
    | some i => i
    | none =>
      match command a.operands with
      | .help => help
      | .misuse => misuse
      | .command c =>
        run ⟨a.has .json, a.has .plain, a.has .noColor, a.has .quiet, a.has .verbose⟩ c

end Invocation

end SequenceApi
