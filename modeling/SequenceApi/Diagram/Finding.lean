import SequenceApi.Diagram.Method
import SequenceApi.Issue
import SequenceApi.Json.Reader
import SequenceApi.RequestPath

/-!
# Findings in diagrams

What the strict check of a diagram can find, with its wording.

## Main definitions

* `DiagramFault`: the causes
* `DiagramFault.message`, `DiagramFault.suggestion`, `DiagramFault.context`: their wording
* `Finding`: a cause at a line
* `Finding.report`: the report on findings
-/

namespace SequenceApi

open Text

/-- What can be wrong with a diagram. -/
inductive DiagramFault where
  | emptyInput
  | emptyName
  | unknownMethod (word : String)
  | badPath (fault : PathFault) (path : String)
  | badStatus (status : String)
  | badName (name : String)
  | digitFirst (name : String)
  | unknownLine (line : String)
  | unknownSource (name : String)
  | unknownTarget (name : String)
  | unknownInNote (name : String)
  | earlyNote (content : String)
  | orphan (source target : String)
  | badBody (error : Json.ReadError) (payload : String)
  deriving DecidableEq, Repr

namespace DiagramFault

/-- Names that are not quite right, lines that are passed over and notes that may be lost are
warnings; all else is an error. -/
def severity : DiagramFault → Severity
  | .digitFirst _ | .unknownLine _ | .unknownInNote _ | .earlyNote _ => .warning
  | _ => .error

/-- The wording of a fault of braces. -/
def pathMessage : PathFault → String
  | .doubleBrace => "Double braces detected in path"
  | .unmatchedBrace => "Unmatched brace in path"
  | .adjacentGroups => "Adjacent path parameters detected"

/-- How to mend a fault of braces. -/
def pathSuggestion : PathFault → String
  | .doubleBrace => "Use single braces for path parameters: /users/\x7bid\x7d"
  | .unmatchedBrace => "Ensure every opening brace has a closing brace"
  | .adjacentGroups => "Separate path parameters with a slash: /users/\x7bid\x7d/\x7bname\x7d"

/-- The wording of a fault. -/
def message : DiagramFault → String
  | .emptyInput => "Empty input"
  | .emptyName => "Empty participant name"
  | .unknownMethod word => s!"Invalid HTTP method: \"{word}\""
  | .badPath fault _ => pathMessage fault
  | .badStatus status => s!"Invalid HTTP status code: \"{status}\""
  | .badName name => s!"Invalid character in participant name: \"{name}\""
  | .digitFirst name => s!"Participant name starts with a number: \"{name}\""
  | .unknownLine _ => "Line does not match any known pattern"
  | .unknownSource name => s!"Unknown source participant: \"{name}\""
  | .unknownTarget name => s!"Unknown target participant: \"{name}\""
  | .unknownInNote name => s!"Note references undefined participant: \"{name}\""
  | .earlyNote _ => "Note may be orphaned - no preceding request found"
  | .orphan .. => "Orphaned response - no matching request found"
  | .badBody error _ => s!"Invalid JSON in body note: {error.message}"

/-- How a participant is declared. -/
def declareFirst (name : String) : String :=
  s!"Declare the participant first using \"participant {name}\""

/-- How to mend a fault. -/
def suggestion : DiagramFault → String
  | .emptyInput => "Provide a sequence diagram with at least one request"
  | .emptyName => "Provide a valid participant name"
  | .unknownMethod _ => "Use one of: " ++ joined ", " (Method.all.map Method.upperName)
  | .badPath fault _ => pathSuggestion fault
  | .badStatus _ => "Use a status code between 100 and 599"
  | .badName _ => "Use only letters, digits, underscores and hyphens"
  | .digitFirst _ => "Consider starting with a letter"
  | .unknownLine _ => "Check the syntax for requests, responses, participants, or notes"
  | .unknownSource name | .unknownTarget name | .unknownInNote name => declareFirst name
  | .earlyNote _ => "Place notes after the request they describe"
  | .orphan source target =>
    s!"Ensure there is a request from {target} to {source} before this response"
  | .badBody .. => "Ensure JSON is properly formatted with matching braces and quotes"

/-- The text that a fault is about. -/
def context : DiagramFault → Option String
  | .emptyInput | .emptyName => none
  | .unknownMethod s | .badPath _ s | .badStatus s | .badName s | .digitFirst s | .unknownLine s
  | .unknownSource s | .unknownTarget s | .unknownInNote s | .earlyNote s | .badBody _ s => some s
  | .orphan source target => some s!"{source} -> {target}"

end DiagramFault

/-- A fault at a line, or in the text as a whole. -/
structure Finding where
  line : Option Nat
  fault : DiagramFault
  deriving DecidableEq, Repr

namespace Finding

/-- The finding as an issue. -/
def issue (f : Finding) : Issue :=
  { checker := .diagram
    severity := f.fault.severity
    line := f.line
    message := f.fault.message
    suggestion := some f.fault.suggestion
    context :=
      match f.fault.context with
      | some s => .str s
      | none => .null }

/-- The finding makes a diagram invalid. -/
def isError (f : Finding) : Bool :=
  f.fault.severity == .error

/-- The report on findings: errors and warnings, each in order. -/
def report (findings : List Finding) : Report :=
  Report.ofIssues ((findings.filter isError).map issue)
    ((findings.filter fun f => !f.isError).map issue)

end Finding

end SequenceApi
