import SequenceApi.Command.Invocation
import SequenceApi.Settings.Resolve
import SequenceApi.Source.Basic

/-!
# What a command reaches

A command follows few paths and asks for few variables of the environment; who runs it needs to look
up no others.

## Main definitions

* `Command.source?`: the source that a command reads
* `Command.paths`: the paths that a command follows
* `Surroundings.variableNames`: the variables that a run may ask for
-/

namespace SequenceApi

/-- The path of a source, if it is a file. -/
def Source.path? : Source → Option Path
  | file path => some (Path.ofText path)
  | standardInput | url _ => none

namespace Command

/-- The source that a command reads. -/
def source? : Command → Option Source
  | generate r => some (Source.ofText r.source)
  | validate source | check source => some (Source.ofText source)
  | showSettings | initSettings _ => none

/-- The folder that a command writes to, apart from that for settings. -/
def folder? : Command → Option Path
  | generate r => r.folder.map Path.ofText
  | _ => none

/-- The paths that a command follows. -/
def paths (around : Surroundings) (c : Command) : List Path :=
  [around.userFile, Surroundings.projectFile] ++ (c.source?.bind Source.path?).toList ++
    c.folder?.toList

/-- The command reads the standard input. -/
def readsInput (c : Command) : Bool :=
  c.source? == some .standardInput

end Command

/-- The variables of the environment that a run may ask for. -/
def Surroundings.variableNames : List String :=
  ["HOME", "XDG_CONFIG_HOME", "NO_COLOR", "TERM"] ++ environmentSettings.map Prod.fst

end SequenceApi
