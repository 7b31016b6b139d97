import SequenceApi.Json.Reader
import SequenceApi.Text.Utf8
import SequenceApi.Yaml.Value

/-!
# Documents in texts

A document comes as JSON or as YAML. Without a hint the text is read as JSON first, and as YAML if
it is no JSON. A hint at JSON rules YAML out, and a hint at YAML rules JSON out.

## Main definitions

* `FormHint`: what is known of the form of a text
* `InputFault`: what is wrong with an input, with its wording
* `LoadError`: why an input gives no value: a fault of the input, or a limit of the readers
* `Content.read`: the document in a text
-/

namespace SequenceApi

open Text

/-- What is known of the form of a text. -/
inductive FormHint where
  | unknown
  | json
  | yaml
  deriving DecidableEq, Repr

/-- What is wrong with an input. -/
inductive InputFault where
  /-- The text is hinted to be JSON, and is none. -/
  | badJson (e : Json.ReadError)
  /-- The text is no YAML; if it was tried as JSON, it is none either. -/
  | unreadable (json : Option Json.ReadError) (yaml : Yaml.ReadError)
  /-- There is no document in the text. -/
  | emptyDocument
  | notFound (source : String)
  | notText (source : String) (fault : Utf8Fault)
  /-- A server answers that it has no document. -/
  | httpStatus (status : Nat) (url : String)
  | unreachable (url reason : String)
  /-- The text is blank. -/
  | noContent (source : String)
  deriving DecidableEq, Repr

/-- The wording of a fault. -/
def InputFault.message : InputFault → String
  | badJson e => "Invalid JSON: " ++ e.message
  | unreadable json yaml =>
    let first :=
      match json with
      | some e => "\n  JSON error: " ++ e.message
      | none => ""
    "Failed to parse input as JSON or YAML" ++ first ++ "\n  YAML error: " ++ yaml.message
  | emptyDocument => "Input is an empty document"
  | notFound source => "File not found: " ++ source
  | notText source fault => "Failed to read " ++ source ++ ": " ++ fault.message
  | httpStatus status url => s!"HTTP {status} fetching {url}"
  | unreachable url reason => "Failed to fetch " ++ url ++ ": " ++ reason
  | noContent source => "No content in " ++ source

/-- Why an input gives no value. -/
inductive LoadError where
  /-- The input is at fault. -/
  | input (fault : InputFault)
  /-- The JSON reader meets a value beyond its limits. -/
  | json (e : Json.ReadError)
  /-- The YAML reader meets a value that it cannot make. -/
  | yaml (e : Yaml.ReadError)
  /-- The name of the source is longer than names can be. -/
  | longName
  deriving DecidableEq, Repr

namespace Content

/-- The document in a text that is read as YAML, after an error of reading it as JSON. -/
def readYaml (json : Option Json.ReadError) (text : String) : Except LoadError Node :=
  match Yaml.read text with
  | .ok none | .ok (some (.scalar .null)) => .error (.input .emptyDocument)
  | .ok (some n) => .ok n
  | .error .malformed => .error (.input (.unreadable json .malformed))
  | .error e => .error (.yaml e)

/-- The document in a text. -/
def read (hint : FormHint) (text : String) : Except LoadError Node :=
  match hint with
  | .yaml => readYaml none text
  | .json =>
    match Json.read text with
    | .ok v => .ok (Node.ofJson v)
    | .error (.syntaxError f line column place) =>
      .error (.input (.badJson (.syntaxError f line column place)))
    | .error e => .error (.json e)
  | .unknown =>
    match Json.read text with
    | .ok v => .ok (Node.ofJson v)
    | .error (.syntaxError f line column place) =>
      readYaml (some (.syntaxError f line column place)) text
    | .error e => .error (.json e)

/-- A text that is JSON is read as such, unless it is hinted to be YAML. -/
theorem read_of_json {hint : FormHint} {text : String} {v : Json} (h : Json.read text = .ok v)
    (hy : hint ≠ .yaml) : read hint text = .ok (Node.ofJson v) := by
  cases hint with
  | yaml => exact absurd rfl hy
  | json => simp [read, h]
  | unknown => simp [read, h]

end Content

end SequenceApi
