import SequenceApi.Diagram.Token
import SequenceApi.Json.Basic
import SequenceApi.Note.Metadata
import SequenceApi.Note.Security

/-!
# Diagrams

A diagram is a list of interactions: requests, each with the answer that came back and with what
notes add to it. What a diagram says that does not fit is kept as remarks.

## Main definitions

* `Interaction`: a request with its answer, its body and the fields of its operation
* `Remark`: a response without a request, or a body that is no JSON
* `Diagram`: participants, interactions and remarks
-/

namespace SequenceApi

/-- The answer to a request. -/
structure Answer where
  status : String
  description : Option String
  deriving DecidableEq, Repr

/-- A request with all that belongs to it. The body is null where there is none. -/
structure Interaction where
  source : String
  target : String
  method : Method
  path : String
  line : Nat
  summary : Option String := none
  description : Option String := none
  answer : Option Answer := none
  body : Json := .null
  security : List Descriptor := []
  tags : List String := []
  operationId : Option String := none
  deprecated : Bool := false
  externalDocs : Option ExternalDocs := none
  requestMediaType : Option String := none
  responseMediaType : Option String := none
  deriving Repr

/-- The interaction that a request line opens. -/
def Interaction.ofRequest (r : Request) : Interaction :=
  { source := r.source, target := r.target, method := r.method, path := r.path, line := r.line
    summary := r.summary }

/-- The interaction with the fields that a note sets; the others stay. -/
def Interaction.annotate (i : Interaction) (m : Metadata) : Interaction :=
  { i with
    summary := m.summary.or i.summary
    description := m.description.or i.description
    operationId := m.operationId.or i.operationId
    requestMediaType := m.requestMediaType.or i.requestMediaType
    responseMediaType := m.responseMediaType.or i.responseMediaType
    tags := m.tags.getD i.tags
    deprecated := m.deprecated.getD i.deprecated
    externalDocs := m.externalDocs.or i.externalDocs }

/-- What does not fit into a diagram. -/
inductive Remark where
  /-- A response that answers no open request. -/
  | orphan (r : Response)
  /-- A note whose body is no JSON. -/
  | badBody (n : Note)
  deriving DecidableEq, Repr

namespace Remark

/-- The line that a remark is about. -/
def line : Remark → Nat
  | .orphan r => r.line
  | .badBody n => n.line

/-- An orphaned response is a warning, a body that is lost an error. -/
def isError : Remark → Bool
  | .orphan _ => false
  | .badBody _ => true

/-- The wording of a remark. -/
def message : Remark → String
  | .orphan r => s!"orphaned response from {r.source} to {r.target} at line {r.line}"
  | .badBody n => s!"Invalid JSON in body note at line {n.line}: {n.content}"

end Remark

/-- A diagram. Participants are declared or take part in a request; each is listed once. -/
structure Diagram where
  participants : List String
  interactions : List Interaction
  remarks : List Remark
  deriving Repr

end SequenceApi
