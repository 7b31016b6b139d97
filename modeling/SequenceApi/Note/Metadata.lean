import SequenceApi.Note.Value

/-!
# Operation metadata in notes

Nine keys of a note describe the operation: its summary and description, tags, identifier,
deprecation, external documentation and media types. The first occurrence of a key counts.

## Main definitions

* `Metadata`: the fields that a note sets
* `Metadata.ofNote`: the fields of a note
-/

namespace SequenceApi

open Text

/-- A link to other documentation. -/
structure ExternalDocs where
  url : Option String
  description : Option String
  deriving DecidableEq, Repr

/-- The fields of an operation that a note sets. -/
structure Metadata where
  summary : Option String := none
  description : Option String := none
  operationId : Option String := none
  requestMediaType : Option String := none
  responseMediaType : Option String := none
  tags : Option (List String) := none
  deprecated : Option Bool := none
  externalDocs : Option ExternalDocs := none
  deriving DecidableEq, Repr

namespace Metadata

/-- The truth value after `Deprecated:`; the key may be the end of a longer word. -/
def deprecatedHere? (cs : List Char) : Option Bool :=
  match (dropWord? "deprecated:" cs).map skipBlanks with
  | none => none
  | some rest =>
    if (dropWord? "true" rest).isSome then some true
    else if (dropWord? "false" rest).isSome then some false
    else none

/-- The link to other documentation, if one of its two keys is there. -/
def externalDocs? (cs : List Char) : Option ExternalDocs :=
  match Note.keyed? "external-docs-url:" cs, Note.keyed? "external-docs-description:" cs with
  | none, none => none
  | url, description => some ⟨url, description⟩

/-- The fields that a note sets. -/
def ofNote (content : String) : Metadata :=
  let cs := Note.expandLines content.toList
  { summary := Note.keyed? "summary:" cs
    description := Note.keyed? "description:" cs
    operationId := Note.keyed? "operation-id:" cs
    requestMediaType := Note.keyed? "request-type:" cs
    responseMediaType := Note.keyed? "response-type:" cs
    tags := (Note.keyed? "tags:" cs).map fun t => Note.listed t.toList
    deprecated := firstMatch (fun _ here => deprecatedHere? here) none cs
    externalDocs := externalDocs? cs }

end Metadata

end SequenceApi
