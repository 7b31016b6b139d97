import SequenceApi.Console.Markup
import SequenceApi.Store.Write

/-!
# Surroundings

What one run of the program finds around it and cannot change: the standard input, the servers that
it can ask, the console, and facts of the machine. Files, which it can change, are in a store.

## Main definitions

* `ServerReply`: the answer of a server
* `Surroundings`: all that a run finds
-/

namespace SequenceApi

/-- The answer to a request to a server. -/
inductive ServerReply where
  /-- No server answers. -/
  | failed (reason : String)
  | answered (status : Nat) (headers : List (String × String)) (body : String)

/-- What a run of the program finds around it. -/
structure Surroundings where
  standardInput : String := ""
  /-- The answers of servers by address. -/
  fetch : String → ServerReply := fun _ => .failed ""
  /-- The name of the operating system. -/
  platform : String := "Linux"
  /-- The variables of the environment. -/
  environment : Table String String := []
  /-- The absolute path of the working directory. -/
  workingDirectory : String := "/"
  /-- The home folder of the account, for environments that name none. -/
  accountHome : String := "/root"
  /-- What the machine does about writes. -/
  machine : Machine := {}
  /-- What the console makes of marked-up texts. -/
  reading : Markup.Reading := Markup.unmarked

/-- The value of a variable of the environment. -/
def Surroundings.lookup (around : Surroundings) (name : String) : Option String :=
  Table.find name around.environment

end SequenceApi
