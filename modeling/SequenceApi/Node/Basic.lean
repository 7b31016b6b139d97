import SequenceApi.Json.Basic

/-!
# Decoded documents

A document that was read from JSON or YAML text is a tree of scalars, sequences and mappings. The
keys of a mapping are scalars of any kind. A sequence or mapping that the text names, so that other
places can refer to it, bears a mark; it is one and the same container wherever the mark occurs.

A container may stand inside itself. In a tree it is then unfolded, deeper than anyone goes who
enters no container twice.

## Main definitions

* `Scalar`, `Node`: the trees
* `Node.ofJson`: a JSON value as a tree
* `Node.get?`: the value of a mapping under a text key
* `Node.isTruthy`: a value that counts as given

## Main results

* `Node.get?_ofJson`: a field of an object is the value under its key
-/

namespace SequenceApi

/-- A value of a type that the documents of this program do not have: the name of the type, its
text, and its text inside a container. -/
structure Foreign where
  type : String
  text : String
  inner : String
  isEmpty : Bool := false
  /-- The text would have an integer with too many digits. -/
  isLong : Bool := false
  /-- The text that it gives where a text must stand. -/
  name? : Option String := none
  /-- The text that stands for it in a JSON value. -/
  encoded? : Option String := none
  deriving DecidableEq, Repr

/-- A value without parts. -/
inductive Scalar where
  | null
  | bool (b : Bool)
  | int (n : Int)
  | float (x : Binary64)
  | str (s : String)
  | other (v : Foreign)
  deriving DecidableEq, Repr, Inhabited

/-- A decoded document. -/
inductive Node where
  | scalar (s : Scalar)
  | seq (mark : Option Nat) (items : List Node)
  | map (mark : Option Nat) (entries : List (Scalar × Node))
  deriving Repr, Inhabited

namespace Node

mutual

/-- A JSON value as a document: every container is one of its own. -/
def ofJson : Json → Node
  | .null => .scalar .null
  | .bool b => .scalar (.bool b)
  | .int n => .scalar (.int n)
  | .float x => .scalar (.float x)
  | .str s => .scalar (.str s)
  | .arr items => .seq none (ofItems items)
  | .obj fields => .map none (ofFields fields)

/-- The items of an array as documents. -/
def ofItems : List Json → List Node
  | [] => []
  | v :: vs => ofJson v :: ofItems vs

/-- The fields of an object as entries. -/
def ofFields : List (String × Json) → List (Scalar × Node)
  | [] => []
  | (k, v) :: fs => (.str k, ofJson v) :: ofFields fs

end

/-- The entries of a mapping. -/
def entries? : Node → Option (List (Scalar × Node))
  | .map _ entries => some entries
  | _ => none

/-- The document is a mapping. -/
def isMap : Node → Bool
  | .map .. => true
  | _ => false

/-- The value of a mapping under a text key. -/
def get? (k : String) : Node → Option Node
  | .map _ entries => Table.find (.str k) entries
  | _ => none

/-- A text key of a mapping. -/
def hasKey (k : String) (n : Node) : Bool :=
  (n.get? k).isSome

/-- The text, if the document is one. -/
def str? : Node → Option String
  | .scalar (.str s) => some s
  | _ => none

/-! ## Fields of objects -/

theorem find_ofFields (k : String) (fields : List (String × Json)) :
    Table.find (.str k) (ofFields fields) = (Table.find k fields).map ofJson := by
  induction fields with
  | nil => rfl
  | cons e fs ih =>
    obtain ⟨k', v⟩ := e
    by_cases h : k = k' <;> simp [ofFields, Table.find, h, ih]

theorem get?_ofJson (k : String) (v : Json) : (ofJson v).get? k = (v.get? k).map ofJson := by
  cases v <;> simp [ofJson, get?, Json.get?, find_ofFields]

end Node

/-- A scalar that counts as given: neither nothing, nor false, zero or empty. -/
def Scalar.isTruthy : Scalar → Bool
  | .null => false
  | .bool b => b
  | .int n => n != 0
  | .float x => !x.isZero
  | .str s => s != ""
  | .other v => !v.isEmpty

/-- A value that counts as given: a scalar that does, or a container that is not empty. -/
def Node.isTruthy : Node → Bool
  | .scalar s => s.isTruthy
  | .seq _ items => !items.isEmpty
  | .map _ entries => !entries.isEmpty

end SequenceApi
