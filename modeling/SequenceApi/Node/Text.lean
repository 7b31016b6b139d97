import SequenceApi.Node.Basic
import SequenceApi.Number.Shortest
import SequenceApi.Text.Numeral
import SequenceApi.Text.Quoted
import SequenceApi.Text.Scan

/-!
# Decoded values in messages

A message that names a decoded value shows a text as it is, and any other value by its literal:
`None`, `True`, digits, or brackets around the literals of the parts. Inside brackets texts are
quoted, and a container inside itself is three points.

## Main definitions

* `Node.text`: a value in a message
* `Node.inner`: a value inside brackets
* `Node.typeName`: the name of a value's type
* `Node.isLong`: a value whose text would have an integer with too many digits
* `Node.writingFault?`: why a value cannot be written out
-/

namespace SequenceApi

open Text

/-- A scalar in a message. -/
def Scalar.text : Scalar → String
  | .null => "None"
  | .bool true => "True"
  | .bool false => "False"
  | .int n => toString n
  | .float x => x.written
  | .str s => s
  | .other v => v.text

/-- A scalar inside brackets. -/
def Scalar.inner : Scalar → String
  | .str s => quoted s
  | .other v => v.inner
  | s => s.text

/-- The name of a scalar's type. -/
def Scalar.typeName : Scalar → String
  | .null => "NoneType"
  | .bool _ => "bool"
  | .int _ => "int"
  | .float _ => "float"
  | .str _ => "str"
  | .other v => v.type

namespace Node

mutual

/-- A value inside brackets, and inside containers with some marks. -/
def innerWithin (around : List Nat) : Node → String
  | .scalar s => s.inner
  | .seq mark items =>
    if mark.any around.contains then "[...]"
    else "[" ++ joined ", " (innerItems (mark.toList ++ around) items) ++ "]"
  | .map mark entries =>
    if mark.any around.contains then "\x7b...\x7d"
    else "\x7b" ++ joined ", " (innerEntries (mark.toList ++ around) entries) ++ "\x7d"

/-- Values inside brackets, one by one. -/
def innerItems (around : List Nat) : List Node → List String
  | [] => []
  | n :: ns => innerWithin around n :: innerItems around ns

/-- Keys with their values inside brackets, one by one. -/
def innerEntries (around : List Nat) : List (Scalar × Node) → List String
  | [] => []
  | (k, n) :: es => (k.inner ++ ": " ++ innerWithin around n) :: innerEntries around es

end

/-- A value inside brackets. -/
def inner (n : Node) : String :=
  n.innerWithin []

/-- A value in a message. -/
def text : Node → String
  | .scalar s => s.text
  | n => n.inner

/-- The name of a value's type. -/
def typeName : Node → String
  | .scalar s => s.typeName
  | .seq .. => "list"
  | .map .. => "dict"

end Node

/-! ## Limits -/

/-- Why a value cannot be written out. -/
inductive WritingFault where
  /-- A container stands inside itself. -/
  | endless
  /-- An integer has too many digits. -/
  | longInt
  deriving DecidableEq, Repr

/-- The wording of a fault. -/
def WritingFault.message : WritingFault → String
  | .endless => "maximum recursion depth exceeded"
  | .longInt =>
    s!"Exceeds the limit ({longestInteger} digits) for integer string conversion; " ++
      "use sys.set_int_max_str_digits() to increase the limit"

/-- An integer that has too many digits, or a value with one in its text. -/
def Scalar.isLong : Scalar → Bool
  | .int n => longestInteger < (toString n.natAbs).length
  | .other v => v.isLong
  | _ => false

namespace Node

mutual

/-- A value inside some containers whose text would have an integer with too many digits. -/
def isLongWithin (around : List Nat) : Node → Bool
  | .scalar s => s.isLong
  | .seq mark items =>
    !mark.any around.contains && isLongItem (mark.toList ++ around) items
  | .map mark entries =>
    !mark.any around.contains && isLongEntry (mark.toList ++ around) entries

/-- An item is such a value. -/
def isLongItem (around : List Nat) : List Node → Bool
  | [] => false
  | n :: ns => isLongWithin around n || isLongItem around ns

/-- A key or its value is such a value. -/
def isLongEntry (around : List Nat) : List (Scalar × Node) → Bool
  | [] => false
  | (k, n) :: es => k.isLong || isLongWithin around n || isLongEntry around es

end

/-- A value whose text would have an integer with too many digits. -/
def isLong (n : Node) : Bool :=
  n.isLongWithin []

mutual

/-- What keeps a value inside some containers from being written out. -/
def faultWithin (around : List Nat) : Node → Option WritingFault
  | .scalar s => if s.isLong then some .longInt else none
  | .seq mark items =>
    if mark.any around.contains then some .endless else faultOfItems (mark.toList ++ around) items
  | .map mark entries =>
    if mark.any around.contains then some .endless
    else faultOfEntries (mark.toList ++ around) entries

/-- The first fault of items. -/
def faultOfItems (around : List Nat) : List Node → Option WritingFault
  | [] => none
  | n :: ns =>
    match faultWithin around n with
    | some f => some f
    | none => faultOfItems around ns

/-- The first fault of keys with their values. -/
def faultOfEntries (around : List Nat) : List (Scalar × Node) → Option WritingFault
  | [] => none
  | (k, n) :: es =>
    if k.isLong then some .longInt
    else
      match faultWithin around n with
      | some f => some f
      | none => faultOfEntries around es

end

/-- Why a value cannot be written out: the first fault that writing it meets. -/
def writingFault? (n : Node) : Option WritingFault :=
  n.faultWithin []

end Node

end SequenceApi
