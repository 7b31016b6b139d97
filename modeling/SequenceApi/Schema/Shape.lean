import SequenceApi.Json.Printer

/-!
# Shapes of schemas

Two schemas have the same shape if they differ only in examples and in the order of keys. The
fingerprint of a schema is a text for its shape. Examples are taken away where schemas stand, and so
a property that is called `example` stays.

## Main definitions

* `Schema.stripExamples`: a schema without its examples
* `Schema.fingerprint`: the text for the shape of a schema
* `Schema.propertyNames`: the names of a schema's properties
-/

namespace SequenceApi.Schema

mutual

/-- The schema without examples, at this place and below. -/
def stripExamples : Json → Json
  | .obj fields => .obj (stripFields fields)
  | v => v

/-- The fields of a schema without its example, and without the examples below. -/
def stripFields : List (String × Json) → List (String × Json)
  | [] => []
  | (k, v) :: fs =>
    if k = "example" then stripFields fs
    else if k = "properties" then (k, stripProperties v) :: stripFields fs
    else if k = "items" then (k, stripExamples v) :: stripFields fs
    else (k, v) :: stripFields fs

/-- The schemas of properties without examples. -/
def stripProperties : Json → Json
  | .obj props => .obj (stripEach props)
  | v => v

/-- Each schema under a name without examples. -/
def stripEach : List (String × Json) → List (String × Json)
  | [] => []
  | (k, v) :: fs => (k, stripExamples v) :: stripEach fs

end

/-- The text for the shape of a schema: without examples and blanks, with sorted keys. -/
def fingerprint (schema : Json) : String :=
  (stripExamples schema).sortKeys.print Json.compact

/-- The names of a schema's properties, in order. -/
def propertyNames (schema : Json) : List String :=
  match schema.get? "properties" with
  | some (.obj props) => Table.keys props
  | _ => []

end SequenceApi.Schema
