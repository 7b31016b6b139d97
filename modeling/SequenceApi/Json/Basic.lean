import SequenceApi.Number.Binary64
import SequenceApi.Table

/-!
# JSON values

Bodies of messages, schemas and generated documents are JSON values. Integers are unbounded and kept
apart from binary64 numbers. An object keeps its fields in order; readers and builders write every
key once.

## Main definitions

* `Json`: the values
* `Json.get?`: a field of an object
* `Json.depth`: how deep arrays and objects nest
* `Json.sortKeys`: the same value with the fields of every object in ascending order of keys
-/

namespace SequenceApi

/-- A JSON value. -/
inductive Json where
  | null
  | bool (b : Bool)
  | int (n : Int)
  | float (x : Binary64)
  | str (s : String)
  | arr (items : List Json)
  | obj (fields : List (String × Json))
  deriving Repr, Inhabited

namespace Json

/-- The field of an object under a key. -/
def get? (k : String) : Json → Option Json
  | .obj fields => Table.find k fields
  | _ => none

/-- The text, if the value is one. -/
def str? : Json → Option String
  | .str s => some s
  | _ => none

/-- An array of texts. -/
def strs (l : List String) : Json :=
  .arr (l.map .str)

/-- An object with the fields that are given, in order. -/
def ofSome (fields : List (String × Option Json)) : Json :=
  .obj (fields.filterMap fun (k, v) => v.map (k, ·))

mutual

/-- The number of arrays and objects around the innermost value. -/
def depth : Json → Nat
  | .arr items => depthItems items + 1
  | .obj fields => depthFields fields + 1
  | _ => 0

/-- The greatest depth among items. -/
def depthItems : List Json → Nat
  | [] => 0
  | v :: vs => max (depth v) (depthItems vs)

/-- The greatest depth among the values of fields. -/
def depthFields : List (String × Json) → Nat
  | [] => 0
  | (_, v) :: fs => max (depth v) (depthFields fs)

end

mutual

/-- The value with the fields of every object in ascending order of their keys, by code points. -/
def sortKeys : Json → Json
  | .arr items => .arr (sortItems items)
  | .obj fields => .obj ((sortFields fields).mergeSort fun a b => a.1 ≤ b.1)
  | v => v

/-- Items with their inner objects sorted. -/
def sortItems : List Json → List Json
  | [] => []
  | v :: vs => sortKeys v :: sortItems vs

/-- Fields in their order, with the objects inside their values sorted. -/
def sortFields : List (String × Json) → List (String × Json)
  | [] => []
  | (k, v) :: fs => (k, sortKeys v) :: sortFields fs

end

end Json

end SequenceApi
