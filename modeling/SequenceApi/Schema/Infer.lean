import SequenceApi.Schema.Rule

/-!
# Inferring schemas

The schema of an example value says its type and keeps the value as an example. An object has a
schema for each of its fields, in order; an array has the schema of its first item. A string that is
a rule has the schema that it declares.

Schemas are inferred by calls within calls, and a machine bounds how deep these can nest. Up to
`Schema.deepestBody` levels every body has a schema. Not far above that it depends on the machine
and on the kind of the levels whether a schema is still inferred, and whether the shape of one that
is inferred can still be taken; `Schema.ofBody?` then gives no schema. So results that rest on it,
those about documents among them, tell of the program as far as the bodies of a diagram nest at most
that deep.

## Main definitions

* `Schema.infer`: the schema of a value
* `Schema.isRequired`: the value is a rule that requires its field
* `Schema.deepestBody`, `Schema.ofBody?`: the schema of a body that does not nest too deep
-/

namespace SequenceApi.Schema

/-- The schema of a type, with an example. -/
def typed (type : SchemaType) (example_ : Json) : Json :=
  .obj [("type", .str type.name), ("example", example_)]

/-- The schema of a type alone. -/
def bare (type : SchemaType) : Json :=
  .obj [("type", .str type.name)]

/-- The schema of a string: the declared one if it is a rule. -/
def ofString (s : String) : Json :=
  match Rule.read? s with
  | some rule => rule.toSchema
  | none => typed .string (.str s)

/-- The value is a rule that requires its field. -/
def isRequired : Json → Bool
  | .str s => (Rule.read? s).any (·.required)
  | _ => false

/-- The keys of the fields that are required, in order. -/
def requiredKeys (fields : List (String × Json)) : List String :=
  (fields.filter fun f => isRequired f.2).map Prod.fst

mutual

/-- The schema of a value. -/
def infer : Json → Json
  | .null => bare .string
  | .bool b => typed .boolean (.bool b)
  | .int n => typed .integer (.int n)
  | .float x => typed (if x.isIntegral then .integer else .number) (.float x)
  | .str s => ofString s
  | .arr items =>
    .obj [("type", .str SchemaType.array.name), ("items", inferFirst items),
      ("example", .arr items)]
  | .obj fields =>
    let required := requiredKeys fields
    .obj ([("type", .str SchemaType.object.name), ("properties", .obj (inferFields fields))] ++
      if required.isEmpty then [] else [("required", Json.strs required)])

/-- The schema of the first item; an empty array is one of strings. -/
def inferFirst : List Json → Json
  | [] => bare .string
  | v :: _ => infer v

/-- The schema of each field. -/
def inferFields : List (String × Json) → List (String × Json)
  | [] => []
  | (k, v) :: fs => (k, infer v) :: inferFields fs

end

/-- A depth to which bodies can nest with room to spare. -/
def deepestBody : Nat := 480

/-- The schema of a body, unless it nests deeper than it safely can. -/
def ofBody? (body : Json) : Option Json :=
  if body.depth ≤ deepestBody then some (infer body) else none

end SequenceApi.Schema
