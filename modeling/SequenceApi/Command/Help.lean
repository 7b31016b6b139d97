import SequenceApi.Command.Invocation

/-!
# Help

The program tells how it is used when it is asked, and when a command line has no meaning.

## Main definitions

* `CommandOption.usage`: how an option is written
* `Invocation.usage`: how the program is used
-/

namespace SequenceApi

open Text

namespace CommandOption

/-- How an option is written: its name, its letter and a place for its value. -/
def usage (o : CommandOption) : String :=
  o.name ++ (o.letter?.elim "" fun c => "|-" ++ String.singleton c) ++
    (if o.hasValue then " VALUE" else "")

end CommandOption

namespace Invocation

/-- How options are written, each in brackets. -/
def optionUsage (known : OptionSet) : String :=
  joined " " (known.map fun o => "[" ++ o.usage ++ "]")

/-- How the program is used: the global options, and each command with its own. -/
def usage : String :=
  joined "\n"
    ["usage: seqspec " ++ optionUsage globalOptions ++ " COMMAND",
      "commands:",
      "  generate SOURCE " ++ optionUsage generateOptions,
      "  validate SOURCE " ++ optionUsage helpOnly,
      "  check SOURCE " ++ optionUsage helpOnly,
      "  config show " ++ optionUsage helpOnly,
      "  config init " ++ optionUsage initOptions]

end Invocation

end SequenceApi
