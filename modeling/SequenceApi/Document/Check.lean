import SequenceApi.Document.Finding
import SequenceApi.Text.Blank
import SequenceApi.Text.Digit

/-!
# The check of documents

A document is checked field by field: what it must have, the operations of its paths, and the
references of its schemas.

## Main definitions

* `Node.objections`: what is wrong with a document
* `Node.check`: the report on a document
-/

namespace SequenceApi

open Text

namespace Node

/-! ## Fields of a document -/

/-- A field that is there and counts as given. -/
def isGiven (k : String) (n : Node) : Bool :=
  (n.get? k).any isTruthy

/-- The faults of required fields. -/
def requiredFaults (document : Node) : List DocumentFault :=
  (if document.isGiven "openapi" then [] else [.noVersion]) ++
    (match (document.get? "info").filter isMap with
      | none => [.noInfo]
      | some info =>
        (if info.isGiven "title" then [] else [.noTitle]) ++
          (if info.isGiven "version" then [] else [.noApiVersion])) ++
    (match document.get? "paths" with
      | none | some (.scalar .null) => [.noPaths]
      | some _ => [])

/-- The fault of a version: it is a text that starts with a three and a point. -/
def versionFaults (document : Node) : List Objection :=
  match (document.get? "openapi").filter isTruthy with
  | none => []
  | some (.scalar (.str s)) =>
    if startsHere ['3', '.'] s.toList then [] else [⟨none, .oldVersion s⟩]
  | some version => [⟨some version.typeName, .versionType version.typeName⟩]

/-! ## Contents -/

/-- The faults of the references in a schema, or in something else at a place. -/
def refObjections (targets : List String) (place : String) (n : Node) : List Objection :=
  (n.refFaults targets).map fun f => ⟨some place, .badRef f⟩

/-- The faults of one media type with its object. -/
def mediaObjections (targets : List String) (place : String) (mediaType : Scalar) (object : Node) :
    List Objection :=
  if object.isMap then
    match (object.get? "schema").filter isTruthy with
    | none => [⟨some place, .noSchema mediaType.text⟩]
    | some schema => refObjections targets place schema
  else []

/-- The faults of a content: it is a mapping of media types that is not empty. -/
def contentObjections (targets : List String) (place : String) (owner : ContentOwner)
    (content : Option Node) : List Objection :=
  match content with
  | some (.map _ (e :: es)) => (e :: es).flatMap fun e => mediaObjections targets place e.1 e.2
  | _ => [⟨some place, .noContent owner⟩]

/-! ## Operations -/

/-- Three digits of any script, and a line feed perhaps. -/
def isStatusCode : List Char → Bool
  | [a, b, c] | [a, b, c, '\n'] => isDigit a && isDigit b && isDigit c
  | _ => false

/-- A key of responses: a code from 100 to 599, or the default. -/
def isStatus (key : String) : Bool :=
  key == "default" ||
    (isStatusCode key.toList &&
      let code := digitsValue (trim key.toList)
      100 ≤ code && code ≤ 599)

/-- The faults of one response under its key. -/
def responseObjections (targets : List String) (place : String) (key : Scalar) (response : Node) :
    List Objection :=
  let status := key.text
  let here := s!"{place} - {status}"
  (if isStatus status then [] else [⟨some place, .badStatus status⟩]) ++
    if response.isMap then
      if response.hasKey refKey then refObjections targets here response
      else contentObjections targets here .response (response.get? "content")
    else []

/-- The faults of responses. -/
def responsesObjections (targets : List String) (place : String) (responses : Option Node) :
    List Objection :=
  match responses with
  | none | some (.scalar .null) => [⟨some place, .noResponses⟩]
  | some (.map _ entries) => entries.flatMap fun e => responseObjections targets place e.1 e.2
  | some _ => [⟨some place, .badResponses⟩]

/-- The faults of a request body. -/
def bodyObjections (targets : List String) (place : String) (body : Option Node) :
    List Objection :=
  match body.filter fun b => b.isMap && !b.hasKey refKey with
  | none => []
  | some b =>
    contentObjections targets (place ++ " - request body") .requestBody (b.get? "content")

/-- A text that is a place of parameters. -/
def isPlace : Node → Bool
  | .scalar (.str s) => parameterPlaces.contains s
  | _ => false

/-- The value is the truth value for no. -/
def isFalse : Node → Bool
  | .scalar (.bool b) => !b
  | _ => false

/-- The faults of one parameter. -/
def parameterObjections (place : String) (parameter : Node) : List Objection :=
  if parameter.isMap then
    match parameter.get? "in" with
    | none => []
    | some within =>
      (if within.isTruthy && !isPlace within then [⟨some place, .badPlace within.text⟩] else []) ++
        if within.str? = some "path" && (parameter.get? "required").any isFalse then
          [⟨some place, .optionalPath ((parameter.get? "name").getD (.scalar .null)).text⟩]
        else []
  else []

/-- The faults of parameters. -/
def parametersObjections (place : String) (parameters : Option Node) : List Objection :=
  match parameters with
  | none => []
  | some (.seq _ items) => items.flatMap (parameterObjections place)
  | some _ => [⟨some place, .badParameters⟩]

/-- The faults of an operation. -/
def operationObjections (targets : List String) (place : String) (operation : Node) :
    List Objection :=
  responsesObjections targets place (operation.get? "responses") ++
    bodyObjections targets place (operation.get? "requestBody") ++
    parametersObjections place (operation.get? "parameters")

/-- The keys of a path item that are no operations. -/
def otherKeys : List String :=
  ["$ref", "summary", "description", "parameters", "servers"]

/-- The faults of one key of a path item. -/
def itemObjections (targets : List String) (path : String) (key : Scalar) (n : Node) :
    List Objection :=
  let name := key.text
  if operationKeys.contains name then
    if n.isMap then operationObjections targets s!"{path} ({name})" n else []
  else if otherKeys.contains name || startsHere ['x', '-'] name.toList then []
  else [⟨some path, .unknownMethod name⟩]

/-- The faults of a path item under its path. -/
def pathObjections (targets : List String) (path : Scalar) (item : Node) : List Objection :=
  match item.entries? with
  | none => []
  | some entries => entries.flatMap fun e => itemObjections targets path.text e.1 e.2

/-! ## Documents -/

/-- The faults of the cycles of references. -/
def cycleObjections (document : Node) : List Objection :=
  if (document.get? "components").any isMap then
    document.cycles.map fun c => ⟨some c.ref, .cycle c⟩
  else []

/-- What is wrong with a document. -/
def objections (document : Node) : List Objection :=
  if document.isMap then
    let targets := document.targets
    document.requiredFaults.map (fun f => ⟨none, f⟩) ++ document.versionFaults ++
      (document.paths?.getD []).flatMap (fun e => pathObjections targets e.1 e.2) ++
      document.cycleObjections
  else [⟨some document.typeName, .noMapping document.typeName⟩]

/-- The report on a document. -/
def check (document : Node) : Report :=
  Objection.report document.objections

end Node

end SequenceApi
