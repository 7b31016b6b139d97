import SequenceApi.Json.Basic
import SequenceApi.Text.Numeral
import SequenceApi.Text.Scan

/-!
# Field rules

A string in an example body may be a rule that declares the schema of its field: parts between
commas, the first of which may name a type, and others that require the field or give it bounds, a
format or an example.

## Main definitions

* `SchemaType`: the six types of schemas
* `Rule`: a declared field
* `Rule.read?`: the rule that a string is, if it is one
* `Rule.toSchema`: the schema that a rule declares
-/

namespace SequenceApi

open Text

/-- The type of a schema. -/
inductive SchemaType where
  | string
  | integer
  | number
  | boolean
  | array
  | object
  deriving DecidableEq, Repr

namespace SchemaType

/-- All types. -/
def all : List SchemaType :=
  [string, integer, number, boolean, array, object]

/-- The name of a type. -/
def name : SchemaType → String
  | string => "string"
  | integer => "integer"
  | number => "number"
  | boolean => "boolean"
  | array => "array"
  | object => "object"

/-- The type with a name. -/
def ofName? (s : String) : Option SchemaType :=
  all.find? (·.name = s)

end SchemaType

/-- A bound of a field. -/
inductive Bound where
  | int (n : Int)
  | float (x : Binary64)
  deriving DecidableEq, Repr

namespace Bound

/-- The bound as a JSON value. -/
def toJson : Bound → Json
  | .int n => .int n
  | .float x => .float x

/-- The bound that a text spells, between blanks perhaps: an integer, or else a finite number. -/
def read? (cs : List Char) : Option Bound :=
  let cs := trim cs
  match integer? cs with
  | some n => some (.int n)
  | none => (decimal? cs).map .float

end Bound

/-- A declared field. -/
structure Rule where
  type : SchemaType := .string
  required : Bool := false
  minimum : Option Bound := none
  maximum : Option Bound := none
  format : Option String := none
  sample : Option String := none
  deriving DecidableEq, Repr

namespace Rule

/-- The trimmed parts of a string between commas. -/
def parts (s : String) : List (List Char) :=
  (pieces ',' s.toList).map trim

/-- The part that requires the field. -/
def requiredPart : List Char :=
  "required".toList

/-- The part marks a string as a rule, wherever it stands. -/
def isMark (part : List Char) : Bool :=
  part == requiredPart || part.contains ':'

/-- The type that the first part names. -/
def typeOf? (parts : List (List Char)) : Option SchemaType :=
  parts.head?.bind fun p => SchemaType.ofName? (String.ofList p)

/-- The rule with what one more part says. A later part overrules an earlier one. -/
def apply (r : Rule) (part : List Char) : Rule :=
  if part = requiredPart then { r with required := true }
  else
    match cut ':' part with
    | (_, none) => r
    | (key, some value) =>
      if key = "min".toList then { r with minimum := Bound.read? value }
      else if key = "max".toList then { r with maximum := Bound.read? value }
      else if key = "format".toList then { r with format := some (String.ofList value) }
      else if key = "example".toList then { r with sample := some (String.ofList value) }
      else r

/-- The rule that a string is: its first part names a type, or some part is a mark. -/
def read? (s : String) : Option Rule :=
  let ps := parts s
  match typeOf? ps with
  | some type => some (ps.foldl apply { type })
  | none => if ps.any isMark then some (ps.foldl apply {}) else none

/-- The keys for the least and the greatest: of the length of a string, or of the value. -/
def boundKeys : SchemaType → String × String
  | .string => ("minLength", "maxLength")
  | _ => ("minimum", "maximum")

/-- The schema that a rule declares. -/
def toSchema (r : Rule) : Json :=
  let (low, high) := boundKeys r.type
  Json.ofSome
    [("type", some (.str r.type.name)),
      ("format", r.format.map .str),
      (low, r.minimum.map Bound.toJson),
      (high, r.maximum.map Bound.toJson),
      ("example", r.sample.map .str)]

end Rule

end SequenceApi
