import SequenceApi.Document.Check

/-!
# Values in the wording of a check

The check of a document puts keys and values of it into words: the names of schemas, the keys of
paths, operations and responses in any case, and other values where it objects to them. An integer
with too many digits has no words.

## Main definitions

* `Node.worded`: the values of a document that its check puts into words
* `Node.isWordless`: one of them has no words
-/

namespace SequenceApi

namespace Node

/-- The media types without a schema. -/
def wordedContent (content : Option Node) : List Node :=
  ((content.bind entries?).getD []).filterMap fun e =>
    if e.2.isMap && !e.2.isGiven "schema" then some (.scalar e.1) else none

/-- The key of a response and what its content adds. -/
def wordedResponse (key : Scalar) (response : Node) : List Node :=
  .scalar key ::
    if response.isMap && !response.hasKey refKey then wordedContent (response.get? "content")
    else []

/-- A place of parameters that is none, and the name of a parameter of a path that is optional. -/
def wordedParameter (parameter : Node) : List Node :=
  match parameter.get? "in" with
  | none => []
  | some within =>
    (if within.isTruthy && !isPlace within then [within] else []) ++
      if within.str? = some "path" && (parameter.get? "required").any isFalse then
        (parameter.get? "name").toList
      else []

/-- The items of a sequence; other values have none. -/
def items : Node → List Node
  | .seq _ items => items
  | _ => []

/-- The values of an operation that are put into words. -/
def wordedOperation (operation : Node) : List Node :=
  ((((operation.get? "responses").bind entries?).getD []).flatMap fun e =>
      wordedResponse e.1 e.2) ++
    (((operation.get? "requestBody").filter fun b => b.isMap && !b.hasKey refKey).toList.flatMap
      fun b => wordedContent (b.get? "content")) ++
    (((operation.get? "parameters").map items).getD []).flatMap wordedParameter

/-- A key of a path item and what its operation adds. -/
def wordedItem (key : Scalar) (n : Node) : List Node :=
  .scalar key :: if operationKeys.contains key.text && n.isMap then wordedOperation n else []

/-- A path and what its item adds. -/
def wordedPath (path : Scalar) (item : Node) : List Node :=
  .scalar path :: (item.entries?.getD []).flatMap fun e => wordedItem e.1 e.2

/-- The values of a document that its check puts into words. -/
def worded (document : Node) : List Node :=
  document.schemas.map (fun e => .scalar e.1) ++
    (document.paths?.getD []).flatMap fun e => wordedPath e.1 e.2

/-- The check of the document would put an integer with too many digits into words. -/
def isWordless (document : Node) : Bool :=
  document.worded.any isLong

end Node

end SequenceApi
