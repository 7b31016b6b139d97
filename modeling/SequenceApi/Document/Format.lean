import SequenceApi.Json.Printer
import SequenceApi.Text.Word
import SequenceApi.Yaml.Printer

/-!
# Document formats

Documents are written as JSON or as YAML, on one channel or each to a file of its own.

## Main definitions

* `DocumentFormat`: the two formats
* `DocumentFormat.render`: the text of a document
* `DocumentFormat.fileName`: the name of a service's file
-/

namespace SequenceApi

open Text

/-- A format of documents. -/
inductive DocumentFormat where
  | yaml
  | json
  deriving DecidableEq, Repr

namespace DocumentFormat

/-- All formats. -/
def all : List DocumentFormat :=
  [yaml, json]

/-- The name of a format, which is also the ending of its files. -/
def name : DocumentFormat → String
  | yaml => "yaml"
  | json => "json"

/-- The format with a name. -/
def ofName? (s : String) : Option DocumentFormat :=
  all.find? (·.name = s)

/-- The text of a document, with a line feed at its end. -/
def render (f : DocumentFormat) (v : Json) : String :=
  match f with
  | yaml => Yaml.print v
  | json => v.print Json.indented ++ "\n"

/-! ## Names of files -/

/-- The characters of file names: letters and numbers of any script, the underscore, the point and
the hyphen. -/
def isFileChar (c : Char) : Bool :=
  isWord c || c == '.' || c == '-'

/-- The text with one underscore for each run of other characters. The flag says that such a run
goes on. -/
def plainName : Bool → List Char → List Char
  | _, [] => []
  | inRun, c :: cs =>
    if isFileChar c then c :: plainName false cs
    else if inRun then plainName true cs
    else '_' :: plainName true cs

/-- A character that neither starts nor ends a file name. -/
def isOuter (c : Char) : Bool :=
  c == '.' || c == '_'

/-- The name without outer points and underscores. -/
def bareName (cs : List Char) : List Char :=
  ((cs.dropWhile isOuter).reverse.dropWhile isOuter).reverse

/-- The name of a service's file without its ending. -/
def stem (service : String) : String :=
  let cs := bareName (plainName false service.toList)
  if cs.isEmpty then "service" else String.ofList cs

/-- The name of a service's file, where the ending is a word. -/
def fileNameWith (ending service : String) : String :=
  stem service ++ "." ++ ending

/-- The name of a service's file. -/
def fileName (f : DocumentFormat) (service : String) : String :=
  fileNameWith f.name service

end DocumentFormat

end SequenceApi
