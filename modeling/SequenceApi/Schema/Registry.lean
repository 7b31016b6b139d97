import SequenceApi.Node.Basic
import SequenceApi.Schema.Shape

/-!
# Shared components

A service keeps one component for each shape that several of its bodies have; a schema of such a
shape is replaced by a reference to the component. The first schema of a shape that is emitted
becomes the component, under a name made from its first properties. Values that are no schemas may
have no name.

## Main definitions

* `componentName`, `componentName?`: a name from the first three properties, of a schema and of any
  value
* `Registry`: the counted shapes and the components so far
* `Registry.extract`, `Registry.extract?`: a schema, or the reference to the component of its shape;
  of a schema and of any value

## Main results

* `componentName?_ofProperties`, `Registry.extract?_ofProperties`: nothing fails for a schema
-/

namespace SequenceApi

/-- The characters of component names. -/
def isComponentChar (c : Char) : Bool :=
  ('0' ≤ c && c ≤ '9') || ('A' ≤ c && c ≤ 'Z') || ('a' ≤ c && c ≤ 'z') || c == '_'

/-- A property's part of a component name: what of it may stand there, with a capital in front. -/
def namePart (property : String) : List Char :=
  match property.toList.filter isComponentChar with
  | [] => []
  | c :: cs => c.toUpper :: cs

/-- A component name: parts of the first three of some names, and a fixed end. -/
def componentNameOf (names : List String) : String :=
  String.ofList ((names.take 3).flatMap namePart) ++ "Schema"

/-- The name for a component, from its properties. -/
def componentName (schema : Json) : String :=
  componentNameOf (Schema.propertyNames schema)

/-- Why a value has no component name. -/
inductive NameFault where
  /-- It is no object. -/
  | noObject
  /-- Its properties are no texts, and have none for names. -/
  | noNames
  deriving DecidableEq, Repr

/-- The first three names of what stands in the place of properties: keys, texts, or characters. -/
def firstNames? : Json → Except NameFault (List String)
  | .obj props => .ok ((Table.keys props).take 3)
  | .arr items =>
    match (items.take 3).mapM Json.str? with
    | some names => .ok names
    | none => .error .noNames
  | .str s => .ok ((s.toList.take 3).map String.singleton)
  | _ => .error .noNames

/-- The name that any value would have as a component. -/
def componentName? (v : Json) : Except NameFault String :=
  match v with
  | .obj _ => (firstNames? ((v.get? "properties").getD (.obj []))).map componentNameOf
  | _ => .error .noObject

/-- The start of every reference to a component. -/
def componentPath : String :=
  "#/components/schemas/"

/-- A reference to a component. -/
def componentRef (name : String) : Json :=
  .obj [("$ref", .str (componentPath ++ name))]

/-- The components of a service. -/
structure Registry where
  /-- How many bodies have each fingerprint. -/
  usage : Table String Nat := []
  /-- The components by name. -/
  components : Table String Json := []
  /-- The name of the component for each fingerprint that has one. -/
  names : Table String String := []
  deriving Repr

namespace Registry

/-- The usage with one more body of a fingerprint. -/
def count (usage : Table String Nat) (key : String) : Table String Nat :=
  Table.put key ((Table.find key usage).getD 0 + 1) usage

/-- A registry that counts each schema once. -/
def ofUsage (schemas : List Json) : Registry :=
  { usage := (schemas.map Schema.fingerprint).foldl count [] }

/-- How many bodies have a fingerprint. -/
def uses (r : Registry) (key : String) : Nat :=
  (Table.find key r.usage).getD 0

/-- The name itself, or the first of it with a number that no component has. Among one more numbers
than there are components, one is free. -/
def freeName (r : Registry) (base : String) : String :=
  if Table.has base r.components then
    let numbered := (List.range (r.components.length + 1)).map fun i => base ++ toString (i + 1)
    (numbered.find? fun name => !Table.has name r.components).getD base
  else base

/-- What becomes of a schema. -/
structure Extraction where
  /-- The schema, or a reference in its place. -/
  schema : Json
  registry : Registry
  /-- The component that was added. -/
  added : Option String := none

/-- A value whose shape several bodies have is replaced by a reference, and is the component of its
shape if it is the first, under the name `base` or one like it. Every other value stays. -/
def share (r : Registry) (base : String) (schema : Json) : Extraction :=
  let key := Schema.fingerprint schema
  if r.uses key ≤ 1 then ⟨schema, r, none⟩
  else
    match Table.find key r.names with
    | some name => ⟨componentRef name, r, none⟩
    | none =>
      let name := r.freeName base
      ⟨componentRef name,
        { r with
          components := Table.put name schema r.components
          names := Table.put key name r.names },
        some name⟩

/-- A schema with properties is shared; every other one stays. -/
def extract (r : Registry) (schema : Json) : Extraction :=
  if (Schema.propertyNames schema).isEmpty then ⟨schema, r, none⟩
  else r.share (componentName schema) schema

/-- A value of this shape would be a new component. -/
def needsName (r : Registry) (v : Json) : Bool :=
  let key := Schema.fingerprint v
  1 < r.uses key && (Table.find key r.names).isNone

/-- Any object with something in the place of properties is shared. It needs a name only if it is
the first of its shape. -/
def extract? (r : Registry) (v : Json) : Except NameFault Extraction :=
  match v with
  | .obj _ =>
    if !(v.get? "properties").any fun p => (Node.ofJson p).isTruthy then .ok ⟨v, r, none⟩
    else if r.needsName v then (componentName? v).map fun name => r.share name v
    else .ok (r.share "" v)
  | _ => .error .noObject

end Registry

/-! ## Schemas -/

theorem componentName?_ofProperties {fields props : List (String × Json)}
    (h : Table.find "properties" fields = some (.obj props)) :
    componentName? (.obj fields) = .ok (componentName (.obj fields)) := by
  simp [componentName?, componentName, Schema.propertyNames, Json.get?, h, firstNames?,
    componentNameOf, Except.map, List.take_take]

namespace Registry

/-- The name does not matter where none is needed. -/
theorem share_of_not_needsName {r : Registry} {v : Json} (h : r.needsName v = false)
    (base other : String) : r.share base v = r.share other v := by
  simp only [needsName, Bool.and_eq_false_iff, decide_eq_false_iff_not, Nat.not_lt] at h
  simp only [share]
  split
  · rfl
  · next hu =>
    split
    · rfl
    · next hn => simp [hn, hu] at h

theorem extract?_ofProperties {r : Registry} {fields props : List (String × Json)}
    (h : Table.find "properties" fields = some (.obj props)) :
    r.extract? (.obj fields) = .ok (r.extract (.obj fields)) := by
  have hp : Schema.propertyNames (.obj fields) = Table.keys props := by
    simp [Schema.propertyNames, Json.get?, h]
  cases props with
  | nil => simp [extract?, extract, Json.get?, h, hp, Node.ofJson, Node.ofFields, Node.isTruthy]
  | cons e es =>
    have ht : (Node.ofJson (.obj (e :: es))).isTruthy = true := by
      simp [Node.ofJson, Node.ofFields, Node.isTruthy]
    simp only [extract?, extract, Json.get?, h, hp, Option.any_some, ht, Table.keys_cons]
    cases hn : r.needsName (.obj fields) with
    | false => simp [share_of_not_needsName hn "" (componentName (.obj fields))]
    | true => simp [componentName?_ofProperties h, Except.map]

end Registry

end SequenceApi
