import SequenceApi.Console.Report
import SequenceApi.Document.Format
import SequenceApi.Event
import SequenceApi.Surroundings
import SequenceApi.Text.Quoted
import SequenceApi.Text.Wrap

/-!
# Messages on the console

The program says what it has to say in messages, and the presentation decides what a message prints.
Data go to the standard output, all else goes to the standard error. A quiet presentation leaves out
what is merely kind to know, a verbose one adds the records of the program's work; neither changes
what a message puts on the standard output.

Where colour is allowed, what goes to the standard error is marked up, and the text of a message is
read as markup too: what looks like a tag is swallowed, and a tag that closes nothing makes the
message one that cannot be printed. What exactly remains of a marked-up text is up to the console.

## Main definitions

* `OutputFormat`, `Presentation`: how messages are shown
* `Message`: what the program says
* `PrintFault`: why a message cannot be printed
* `Message.shown`: what a message prints
* `Shown.ofMessages`: what several messages print

## Main results

* `Message.out_shown`: what a message puts on the standard output depends on the format alone
* `Message.broken_shown`: so does whether it can be printed, where no colour is allowed
-/

namespace SequenceApi

open Text

/-! ## Presentations -/

/-- A format for what is printed. -/
inductive OutputFormat where
  | auto
  | json
  | yaml
  | plain
  | rich
  deriving DecidableEq, Repr

namespace OutputFormat

/-- All formats. -/
def all : List OutputFormat :=
  [auto, json, yaml, plain, rich]

/-- The name of a format. -/
def name : OutputFormat → String
  | auto => "auto"
  | json => "json"
  | yaml => "yaml"
  | plain => "plain"
  | rich => "rich"

/-- The format with a name. -/
def ofName? (s : String) : Option OutputFormat :=
  all.find? (·.name = s)

/-- The wording for a name that no format has. -/
def unknownMessage (s : String) : String :=
  quoted s ++ " is not a valid OutputFormat"

/-- The format in which things are printed: plain, if the choice is left to the program. -/
def settled : OutputFormat → OutputFormat
  | auto => plain
  | f => f

end OutputFormat

/-- How messages are shown. -/
structure Presentation where
  format : OutputFormat := .plain
  /-- Messages may be marked up. -/
  colour : Bool := false
  quiet : Bool := false
  verbose : Bool := false
  /-- What the console makes of marked-up texts. -/
  reading : Markup.Reading := Markup.unmarked

/-- The environment wants no colour. -/
def Surroundings.isColourless (around : Surroundings) : Bool :=
  (around.lookup "NO_COLOR").isSome || around.lookup "TERM" == some "dumb"

/-! ## Messages -/

/-- What the program says. -/
inductive Message where
  /-- Text for the standard output. -/
  | data (text : String)
  /-- A generated document, or several. -/
  | document (format : DocumentFormat) (v : Json)
  | table (headers : List String) (rows : List (List String))
  | report (r : Report)
  | info (text : String)
  | success (text : String)
  | warning (text : String)
  | error (text : String)
  | suggestion (text : String)
  | debug (text : String)
  /-- A record of the program's work. -/
  | record (event : Event)

/-- Why a message cannot be printed. -/
inductive PrintFault where
  /-- The context of an issue cannot be written. -/
  | context (f : ContextFault)
  /-- The message is no marked-up text. -/
  | markup (f : Markup.MarkupFault)
  deriving DecidableEq, Repr

/-- The wording of a fault. -/
def PrintFault.message : PrintFault → String
  | context f => f.message
  | markup f => f.message

/-- What is printed on the standard output and on the standard error, up to a fault. -/
structure Shown where
  out : String := ""
  err : String := ""
  broken : Option PrintFault := none
  deriving DecidableEq, Repr

namespace Shown

/-- What is printed by one thing after another; nothing follows what breaks off. -/
def andThen (a b : Shown) : Shown :=
  if a.broken.isSome then a else ⟨a.out ++ b.out, a.err ++ b.err, b.broken⟩

/-- Data on the standard output. -/
def data (text : String) : Shown :=
  { out := asLines text }

/-- A line on the standard error. -/
def note (text : String) : Shown :=
  { err := text ++ "\n" }

/-- What is printed under a condition. -/
def onlyIf (condition : Bool) (s : Shown) : Shown :=
  if condition then s else {}

end Shown

/-- The number of cells in a line of the console. -/
def consoleWidth : Nat :=
  1000

namespace Presentation

/-! ### Lines on the standard error -/

/-- A marked-up text on the standard error, in lines that fit. -/
def marked (p : Presentation) (text : String) : Shown :=
  match p.reading text.toList with
  | .ok cs => Shown.note (joined "\n" ((fitted consoleWidth cs).map String.ofList))
  | .error f => { broken := some (.markup f) }

/-- A text on the standard error: as it is, or with markup where colour is allowed. -/
def note (p : Presentation) (plain markup : String) : Shown :=
  if p.colour then p.marked markup else Shown.note plain

/-- A piece of information, which a quiet presentation leaves out. -/
def info (p : Presentation) (text : String) : Shown :=
  Shown.onlyIf (!p.quiet) (p.note text text)

/-- The news of a success, which a quiet presentation leaves out. -/
def success (p : Presentation) (text : String) : Shown :=
  Shown.onlyIf (!p.quiet) (p.note text ("[green]" ++ text ++ "[/green]"))

/-- A warning. -/
def warning (p : Presentation) (text : String) : Shown :=
  p.note ("Warning: " ++ text) ("[yellow]Warning:[/yellow] " ++ text)

/-- An error. -/
def error (p : Presentation) (text : String) : Shown :=
  p.note ("Error: " ++ text) ("[bold red]Error:[/bold red] " ++ text)

/-- A suggestion of what to do, which a quiet presentation leaves out. -/
def suggestion (p : Presentation) (text : String) : Shown :=
  Shown.onlyIf (!p.quiet) (p.note ("→ " ++ text) ("[dim]→ " ++ text ++ "[/dim]"))

/-- A message for those who look for faults, which only a verbose presentation shows. As markup its
mark is a tag, and swallowed. -/
def debug (p : Presentation) (text : String) : Shown :=
  Shown.onlyIf p.verbose
    (p.note ("[debug] " ++ text) ("[dim][debug] " ++ text ++ "[/dim]"))

/-! ### Reports and tables -/

/-- The rows of issues, up to one without a row. -/
def rows : List Issue → Shown
  | [] => {}
  | i :: is =>
    match i.cells? with
    | some cells => Shown.andThen { out := rowText cells } (rows is)
    | none => { broken := some (.context (.noCell i.context)) }

/-- The table of issues, if there are any. -/
def issueTable (issues : List Issue) : Shown :=
  if issues.isEmpty then {}
  else Shown.andThen { out := rowText Report.headers } (rows issues)

/-- The last line about a report. A quiet presentation leaves out that the input is valid. -/
def summary (p : Presentation) (r : Report) : Shown :=
  if r.valid then p.success ("Valid: " ++ r.summary) else p.error ("Invalid: " ++ r.summary)

/-- A report. -/
def report (p : Presentation) (r : Report) : Shown :=
  if p.format = .json then
    match r.jsonFault? with
    | some f => { broken := some (.context f) }
    | none => Shown.data (r.toJson.print Json.indented)
  else (issueTable r.issues).andThen (p.summary r)

/-- A table. -/
def table (p : Presentation) (headers : List String) (rows : List (List String)) : Shown :=
  if p.format = .json then Shown.data ((tableJson headers rows).print Json.indented)
  else { out := tableText headers rows }

/-! ### Records -/

/-- The width of the column of levels. -/
def levelWidth : Nat :=
  8

/-- A level in its column. -/
def levelText (level : String) : String :=
  String.ofList (level.toList.rightpad levelWidth ' ')

/-- A text as a column beside that of levels. -/
def recordLines (text : String) : List String :=
  (fitted (consoleWidth - levelWidth - 1) (Markup.withoutControls text.toList)).map String.ofList

/-- A record with its level: the lines of its text but the first stand under the first. -/
def recordText (e : Event) : String :=
  levelText e.level ++ " " ++
    joined ("\n" ++ levelText "" ++ " ") (recordLines (e.origin ++ ": " ++ e.message))

/-- A record of the program's work. Warnings are shown to everyone, but without their origin. -/
def record (p : Presentation) (e : Event) : Shown :=
  if p.verbose then Shown.note (recordText e)
  else Shown.onlyIf (e.level == "WARNING") (Shown.note e.message)

end Presentation

/-- What a message prints. -/
def Message.shown (p : Presentation) : Message → Shown
  | .data text => Shown.data text
  | .document format v => Shown.data (format.render v)
  | .table headers rows => p.table headers rows
  | .report r => p.report r
  | .info text => p.info text
  | .success text => p.success text
  | .warning text => p.warning text
  | .error text => p.error text
  | .suggestion text => p.suggestion text
  | .debug text => p.debug text
  | .record e => p.record e

/-- What messages print, one after another. -/
def Shown.ofMessages (p : Presentation) : List Message → Shown
  | [] => {}
  | m :: ms => (m.shown p).andThen (ofMessages p ms)

/-! ## What quietness and verbosity change -/

@[simp] theorem Shown.out_note (text : String) : (Shown.note text).out = "" := rfl

@[simp] theorem Shown.broken_note (text : String) : (Shown.note text).broken = none := rfl

@[simp] theorem Shown.out_onlyIf (c : Bool) (s : Shown) :
    (Shown.onlyIf c s).out = if c then s.out else "" := by
  cases c <;> rfl

@[simp] theorem Shown.broken_onlyIf (c : Bool) (s : Shown) :
    (Shown.onlyIf c s).broken = if c then s.broken else none := by
  cases c <;> rfl

theorem Shown.out_andThen (a b : Shown) :
    (a.andThen b).out = if a.broken.isSome then a.out else a.out ++ b.out := by
  rw [andThen]
  split <;> rfl

theorem Shown.broken_andThen (a b : Shown) :
    (a.andThen b).broken = if a.broken.isSome then a.broken else b.broken := by
  rw [andThen]
  split <;> rfl

namespace Presentation

@[simp] theorem out_marked (p : Presentation) (text : String) : (p.marked text).out = "" := by
  rw [marked]
  split <;> rfl

@[simp] theorem out_note (p : Presentation) (plain markup : String) :
    (p.note plain markup).out = "" := by
  rw [note]
  split <;> simp

/-- Without colour every text can be printed. -/
theorem broken_note {p : Presentation} (h : p.colour = false) (plain markup : String) :
    (p.note plain markup).broken = none := by
  simp [note, h]

@[simp] theorem out_info (p : Presentation) (text : String) : (p.info text).out = "" := by
  simp [info]

@[simp] theorem out_success (p : Presentation) (text : String) : (p.success text).out = "" := by
  simp [success]

@[simp] theorem out_warning (p : Presentation) (text : String) : (p.warning text).out = "" := by
  simp [warning]

@[simp] theorem out_error (p : Presentation) (text : String) : (p.error text).out = "" := by
  simp [error]

@[simp] theorem out_suggestion (p : Presentation) (text : String) :
    (p.suggestion text).out = "" := by
  simp [suggestion]

@[simp] theorem out_debug (p : Presentation) (text : String) : (p.debug text).out = "" := by
  simp [debug]

@[simp] theorem out_summary (p : Presentation) (r : Report) : (p.summary r).out = "" := by
  rw [summary]
  split <;> simp

theorem broken_summary {p : Presentation} (h : p.colour = false) (r : Report) :
    (p.summary r).broken = none := by
  rw [summary]
  split <;> simp [success, error, broken_note h]

@[simp] theorem out_record (p : Presentation) (e : Event) : (p.record e).out = "" := by
  rw [record]
  split <;> simp

@[simp] theorem broken_record (p : Presentation) (e : Event) : (p.record e).broken = none := by
  rw [record]
  split <;> simp

end Presentation

/-- What a message prints on the standard output depends on the format alone. -/
theorem Message.out_shown {p q : Presentation} (h : p.format = q.format) (m : Message) :
    (m.shown p).out = (m.shown q).out := by
  cases m <;> simp [shown, Presentation.report, Presentation.table, h]
  split <;> simp [Shown.out_andThen]

/-- Where no colour is allowed, whether a message can be printed depends on the format alone. -/
theorem Message.broken_shown {p q : Presentation} (h : p.format = q.format)
    (hp : p.colour = false) (hq : q.colour = false) (m : Message) :
    (m.shown p).broken = (m.shown q).broken := by
  cases m <;>
    simp [shown, Presentation.report, Presentation.table, h, Presentation.info,
      Presentation.success, Presentation.warning, Presentation.error, Presentation.suggestion,
      Presentation.debug, Presentation.broken_note hp, Presentation.broken_note hq]
  split <;>
    simp [Shown.broken_andThen, Presentation.broken_summary hp, Presentation.broken_summary hq]

end SequenceApi
