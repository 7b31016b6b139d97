import SequenceApi.Text.Scan

/-!
# Options on the command line

An option is written with two hyphens and its name, or with one hyphen and a letter. Its value is
the next argument, or is joined to it: by an equals sign after a name, directly after a letter.
Letters of options without values can share a hyphen. Two hyphens alone end the options.

## Main definitions

* `CommandOption`: the options of all commands
* `OptionSet`: the options that a command knows
* `Arguments.read`: the options and the other arguments of a command line
-/

namespace SequenceApi

open Text

/-- An option of some command. -/
inductive CommandOption where
  | help
  | version
  | json
  | plain
  | noColor
  | quiet
  | verbose
  | service
  | outputDir
  | format
  | openapiVersion
  | apiVersion
  | strict
  | force
  deriving DecidableEq, Repr

namespace CommandOption

/-- The name of an option. -/
def name : CommandOption → String
  | help => "--help"
  | version => "--version"
  | json => "--json"
  | plain => "--plain"
  | noColor => "--no-color"
  | quiet => "--quiet"
  | verbose => "--verbose"
  | service => "--service"
  | outputDir => "--output-dir"
  | format => "--format"
  | openapiVersion => "--openapi-version"
  | apiVersion => "--api-version"
  | strict => "--strict"
  | force => "--force"

/-- The letter of an option, if it has one. -/
def letter? : CommandOption → Option Char
  | quiet => some 'q'
  | verbose => some 'v'
  | service => some 's'
  | outputDir => some 'd'
  | format => some 'f'
  | _ => none

/-- The option has a value. -/
def hasValue : CommandOption → Bool
  | service | outputDir | format | openapiVersion | apiVersion => true
  | _ => false

end CommandOption

/-- The options that a command knows. -/
abbrev OptionSet := List CommandOption

namespace OptionSet

/-- The option with a name. -/
def withName? (known : OptionSet) (name : List Char) : Option CommandOption :=
  List.find? (fun o => o.name.toList == name) known

/-- The option with a letter. -/
def withLetter? (known : OptionSet) (letter : Char) : Option CommandOption :=
  List.find? (fun o => o.letter? == some letter) known

end OptionSet

/-- An option as it is given; the value of an option without values is empty. -/
abbrev GivenOption := CommandOption × String

/-- What one argument is. -/
inductive ArgumentKind where
  /-- Options, of which the last may still need a value. -/
  | options (given : List GivenOption) (needs : Option CommandOption)
  /-- The end of the options. -/
  | endOfOptions
  /-- No option. -/
  | operand
  /-- An option that the command does not know, or a value where none can be. -/
  | unknown

namespace ArgumentKind

/-- An option by its name, with a joined value. -/
def ofName (o : CommandOption) (joined : Option (List Char)) : ArgumentKind :=
  match o.hasValue, joined with
  | true, some value => options [(o, String.ofList value)] none
  | true, none => options [] (some o)
  | false, some _ => unknown
  | false, none => options [(o, "")] none

/-- The options of letters that share a hyphen, after the options `given`. -/
def ofLetters (known : OptionSet) (given : List GivenOption) : List Char → ArgumentKind
  | [] => options given none
  | letter :: rest =>
    match known.withLetter? letter with
    | none => unknown
    | some o =>
      if o.hasValue then
        if rest.isEmpty then options given (some o)
        else options (given ++ [(o, String.ofList rest)]) none
      else ofLetters known (given ++ [(o, "")]) rest

/-- What an argument is. -/
def read (known : OptionSet) (argument : List Char) : ArgumentKind :=
  match argument with
  | ['-', '-'] => endOfOptions
  | '-' :: c :: rest =>
    let (name, joined) := cut '=' argument
    match known.withName? name with
    | some o => ofName o joined
    | none => if c == '-' then unknown else ofLetters known [] (c :: rest)
  | _ => operand

end ArgumentKind

/-- The arguments of a command: options in order, and the other arguments. -/
structure Arguments where
  given : List GivenOption
  operands : List String
  deriving DecidableEq, Repr

namespace Arguments

/-- The arguments with more options before them. -/
def withGiven (given : List GivenOption) (a : Arguments) : Arguments :=
  { a with given := given ++ a.given }

/-- The arguments with one more operand before them. -/
def withOperand (operand : String) (a : Arguments) : Arguments :=
  { a with operands := operand :: a.operands }

/-- The arguments of a command that knows some options; none if there is an option that it does not
know, or if a value is missing. If `mixed` is false, no argument after the first operand is an
option. -/
def read (known : OptionSet) (mixed : Bool) : List String → Option Arguments
  | [] => some ⟨[], []⟩
  | argument :: rest =>
    match ArgumentKind.read known argument.toList with
    | .unknown => none
    | .endOfOptions => some ⟨[], rest⟩
    | .operand =>
      if mixed then (read known mixed rest).map (withOperand argument)
      else some ⟨[], argument :: rest⟩
    | .options given none => (read known mixed rest).map (withGiven given)
    | .options given (some o) =>
      match rest with
      | [] => none
      | value :: rest => (read known mixed rest).map (withGiven (given ++ [(o, value)]))

/-- An option is given. -/
def has (o : CommandOption) (a : Arguments) : Bool :=
  a.given.any fun g => g.1 == o

/-- The last value that is given for an option. -/
def value? (o : CommandOption) (a : Arguments) : Option String :=
  (a.given.reverse.find? fun g => g.1 == o).map Prod.snd

end Arguments

end SequenceApi
