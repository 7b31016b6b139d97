import SequenceApi.Issue
import SequenceApi.Json.Printer
import SequenceApi.Node.Text
import SequenceApi.Text.Scan

/-!
# Written reports

A report is written as one JSON object, or as a table of its errors and warnings with five columns.
A cell holds a text; the context of an issue is one, or counts as not given, or has no cell. In JSON
a context can be a scalar of any kind that has a JSON value or a text that stands for it.

## Main definitions

* `ContextFault`: why the context of an issue cannot be written
* `Report.toJson`, `Report.jsonFault?`: a report as a JSON object, and why there is none
* `Issue.cells?`: the row of an issue
* `Report.summary`: the last line of a report
* `tableText`, `tableJson`: tables of texts
-/

namespace SequenceApi

open Text

/-- Why the context of an issue cannot be written. -/
inductive ContextFault where
  /-- It has no cell in a table. -/
  | noCell (context : Scalar)
  /-- No text stands for it in JSON. -/
  | noText (context : Scalar)
  /-- It is an integer with too many digits. -/
  | longInt
  deriving DecidableEq, Repr

/-- The wording of a fault. -/
def ContextFault.message : ContextFault → String
  | noCell context => context.text ++ " fits in no table"
  | noText context => context.text ++ " is no text"
  | longInt => WritingFault.longInt.message

/-! ## JSON -/

/-- The context of an issue as a JSON value. Numbers that are not finite are left out, and a value
of another type is the text that stands for it. -/
def contextJson : Scalar → Json
  | .null => .null
  | .bool b => .bool b
  | .int n => .int n
  | .float x => if x.isFinite then .float x else .null
  | .str s => .str s
  | .other v => .str (v.encoded?.getD v.text)

/-- The context has no JSON value, since no text stands for it. -/
def lacksText : Scalar → Bool
  | .other v => v.encoded?.isNone
  | _ => false

/-- A text that may be missing. -/
def optionJson : Option String → Json
  | some s => .str s
  | none => .null

/-- An issue as a JSON object. -/
def Issue.toJson (i : Issue) : Json :=
  .obj [("source", .str i.checker.name), ("severity", .str i.severity.name),
    ("line", match i.line with
      | some n => .int n
      | none => .null),
    ("message", .str i.message), ("suggestion", optionJson i.suggestion),
    ("context", contextJson i.context)]

/-- A report as fields. -/
def Report.toTable (r : Report) : Table String Json :=
  [("valid", .bool r.valid), ("errors", .arr (r.errors.map Issue.toJson)),
    ("warnings", .arr (r.warnings.map Issue.toJson))]

/-- A report as a JSON object. -/
def Report.toJson (r : Report) : Json :=
  .obj r.toTable

/-- All issues of a report, errors first. -/
def Report.issues (r : Report) : List Issue :=
  r.errors ++ r.warnings

/-- Why a report cannot be written as a JSON object: first of all a context without a text. -/
def Report.jsonFault? (r : Report) : Option ContextFault :=
  let contexts := r.issues.map (·.context)
  match contexts.find? lacksText with
  | some c => some (.noText c)
  | none => if contexts.any Scalar.isLong then some .longInt else none

/-! ## Tables -/

/-- A text without the line feeds at its end. -/
def dropFinalBreaks (s : String) : String :=
  String.ofList (s.toList.reverse.dropWhile (· == '\n')).reverse

/-- A text as whole lines: with one line feed at its end. -/
def asLines (s : String) : String :=
  dropFinalBreaks s ++ "\n"

/-- A row of a table: cells with tabs between them. -/
def rowText (cells : List String) : String :=
  asLines (joined "\t" cells)

/-- A table as lines, the headers first. -/
def tableText (headers : List String) (rows : List (List String)) : String :=
  rowText headers ++ String.join (rows.map rowText)

/-- A table as a JSON array, an object for each row with the headers as keys. -/
def tableJson (headers : List String) (rows : List (List String)) : Json :=
  .arr (rows.map fun row => .obj (Table.ofEntries (headers.zip (row.map .str))))

/-- The headers of the table of a report. -/
def Report.headers : List String :=
  ["Severity", "Line", "Message", "Suggestion", "Context"]

/-- The cell of a context: its text, or nothing for a value that does not count as given. -/
def contextCell? : Scalar → Option String
  | .str s => some s
  | c => if c.isTruthy then none else some ""

/-- The row of an issue, if its context has a cell. -/
def Issue.cells? (i : Issue) : Option (List String) :=
  (contextCell? i.context).map fun context =>
    [i.severity.name, match i.line with
      | some n => toString n
      | none => "-",
      i.message, i.suggestion.getD "", context]

/-- The number of errors and warnings. -/
def Report.summary (r : Report) : String :=
  s!"{r.errors.length} error(s), {r.warnings.length} warning(s)"

end SequenceApi
