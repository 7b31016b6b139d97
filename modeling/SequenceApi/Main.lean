import SequenceApi.Command.Help
import SequenceApi.Command.Reach
import SequenceApi.Command.Run

/-!
# The program

The program looks up what a command can reach, lets the command run on that, and then does what the
run has left: it writes the files that have changed, and prints.

## Main definitions

* `Program.lookAt`, `Program.save`: the disk as a store
* `Program.perform`: a command on the disk
* `main`: the program
-/

namespace SequenceApi.Program

/-! ## The disk -/

/-- What the disk has at a path. -/
def lookAt (p : Path) : IO (Option Entry) := do
  try
    return some (.file (← IO.FS.readBinFile p.text))
  catch
    | .inappropriateType .. => return some .folder
    | .noFileOrDirectory .. => return none
    | e => throw e

/-- The store with what the disk has on the way to a path, and at it. -/
def load (s : Store) (p : Path) : IO Store :=
  (List.range p.names.length).foldlM (fun s n => do
    let step := p.take (n + 1)
    match s.resolve step with
    | .error _ => return s
    | .ok place =>
      match ← lookAt step with
      | some e => return s.put place e
      | none => return s) s

/-- Puts something at a place of the disk. A file first gets its bytes under another name. -/
def save (p : Place) : Entry → IO Unit
  | .folder => IO.FS.createDirAll p.path.text
  | .file content => do
    let target := p.path
    let temporary := target.parent.append [Store.temporaryName (target.name?.getD "") 0]
    IO.FS.writeBinFile temporary.text content
    IO.FS.rename temporary.text target.text

/-! ## The surroundings -/

/-- The bytes of a stream up to its end, after those that are read. -/
partial def readToEnd (stream : IO.FS.Stream) (bytes : ByteArray) : IO ByteArray := do
  let more ← stream.read 65536
  if more.isEmpty then return bytes
  readToEnd stream (bytes ++ more)

/-- The standard input as a text. -/
def standardInput : IO String := do
  match Text.decoded (← readToEnd (← IO.getStdin) .empty) with
  | .ok s => return s
  | .error fault => throw (.userError fault.message)

/-- The variables of the environment. -/
def environment : IO (Table String String) :=
  Surroundings.variableNames.filterMapM fun name => do
    return (← IO.getEnv name).map (name, ·)

/-- What a command finds around it. No server is asked. -/
def surroundings (c : Command) : IO Surroundings := do
  return {
    standardInput := ← if c.readsInput then standardInput else pure ""
    fetch := fun _ => .failed "there is no network"
    environment := ← environment
    workingDirectory := toString (← IO.currentDir) }

/-! ## Runs -/

/-- Tells how the program is used, and that it was not used so. -/
def misuse : IO UInt32 := do
  IO.eprintln Invocation.usage
  return ExitCode.invalidUsage.number.toUInt32

/-- Runs a command, and returns its exit code. -/
def perform (options : GlobalOptions) (c : Command) : IO UInt32 := do
  let around ← surroundings c
  let store ← (c.paths around).foldlM load {}
  let outcome := c.outcome around store
  let presentation := options.presentation around
  ((outcome.files presentation).changesSince store).forM fun (p, e) => save p e
  let shown := outcome.shown presentation
  IO.print shown.out
  IO.eprint shown.err
  match outcome.ending presentation with
  | .exit code => return code.number.toUInt32
  | .misuse => misuse
  | .crash c => do
    IO.eprintln ("Error: " ++ c.message)
    return ExitCode.failure.number.toUInt32

end SequenceApi.Program

open SequenceApi in
/-- Runs the program on a command line. -/
def main (args : List String) : IO UInt32 := do
  match Invocation.read args with
  | .help => do
    IO.println Invocation.usage
    return 0
  | .version => do
    IO.println versionText
    return 0
  | .misuse => Program.misuse
  | .run options command => Program.perform options command
