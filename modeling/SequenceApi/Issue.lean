import SequenceApi.Node.Basic

/-!
# Issues and reports

The two checkers, of diagrams and of documents, answer with one kind of report: errors, which make
the input invalid, and warnings, which do not.

## Main definitions

* `Issue`: a finding with its place and a suggestion
* `Report`: errors and warnings, and whether the input is valid
* `Report.ofIssues`: the report that is valid exactly if there is no error
-/

namespace SequenceApi

/-- The checker that found an issue. -/
inductive Checker where
  | diagram
  | document
  deriving DecidableEq, Repr

/-- The name of a checker in reports. -/
def Checker.name : Checker → String
  | .diagram => "mermaid"
  | .document => "openapi"

/-- How bad an issue is. -/
inductive Severity where
  | error
  | warning
  | info
  deriving DecidableEq, Repr

/-- The name of a severity in reports. -/
def Severity.name : Severity → String
  | .error => "error"
  | .warning => "warning"
  | .info => "info"

/-- A finding. The context is a text, as a rule; the key of a service map may be another scalar. -/
structure Issue where
  checker : Checker
  severity : Severity
  line : Option Nat := none
  message : String
  suggestion : Option String := none
  context : Scalar := .null
  deriving DecidableEq, Repr

/-- The result of a check. -/
structure Report where
  valid : Bool
  errors : List Issue
  warnings : List Issue
  deriving DecidableEq, Repr

/-- The report on errors and warnings: valid if there is no error. -/
def Report.ofIssues (errors warnings : List Issue) : Report :=
  ⟨errors.isEmpty, errors, warnings⟩

@[simp] theorem Report.valid_ofIssues (errors warnings : List Issue) :
    (ofIssues errors warnings).valid = true ↔ errors = [] := by
  simp [ofIssues, List.isEmpty_iff]

end SequenceApi
