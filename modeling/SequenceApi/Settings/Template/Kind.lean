/-!
# Kinds of values

A field of a template starts at a text, the name of a service, and may go on to a part of it. Parts
of texts are operations, numbers, sequences and more, and every value has a kind, which is a value
again. A kind lies under others: what these know, its values know too.

## Main definitions

* `Template.Kind`: the kinds
* `Template.Kind.name`, `Template.Kind.fullName`: what a kind is called
* `Template.Kind.lineage`: a kind and those above it
* `Template.Kind.figures`: the numbers that a kind tells about itself
-/

namespace SequenceApi.Template

/-- The kinds of values that a template can name. -/
inductive Kind where
  /-- The kind above all others. -/
  | anything
  /-- Kinds themselves. -/
  | kind
  | text
  | integer
  | truth
  | sequence
  | dictionary
  /-- The value that stands for no value. -/
  | nothing
  /-- Operations of a kind that an operator or a basic function stands for. -/
  | operator
  /-- All other operations of a kind. -/
  | operation
  /-- Operations on a kind instead of its values. -/
  | kindOperation
  /-- Operations that need neither. -/
  | freeOperation
  /-- What is found out about a value when it is asked for. -/
  | property
  /-- What is kept in a value. -/
  | field
  /-- Operators of one value. -/
  | boundOperator
  /-- Operations of one value. -/
  | boundOperation
  /-- The members of a kind. -/
  | catalog
  /-- Kinds with an argument. -/
  | applied
  deriving DecidableEq, Repr

namespace Kind

/-- What a kind is called. -/
def name : Kind → String
  | anything => "object"
  | kind => "type"
  | text => "str"
  | integer => "int"
  | truth => "bool"
  | sequence => "tuple"
  | dictionary => "dict"
  | nothing => "NoneType"
  | operator => "wrapper_descriptor"
  | operation => "method_descriptor"
  | kindOperation => "classmethod_descriptor"
  | freeOperation => "staticmethod"
  | property => "getset_descriptor"
  | field => "member_descriptor"
  | boundOperator => "method-wrapper"
  | boundOperation => "builtin_function_or_method"
  | catalog => "mappingproxy"
  | applied => "GenericAlias"

/-- Where a kind belongs. -/
def home : Kind → String
  | applied => "types"
  | _ => "builtins"

/-- What a kind is called where several homes meet. -/
def fullName : Kind → String
  | applied => "types.GenericAlias"
  | k => k.name

/-- A kind and those above it, the nearest first. -/
def lineage : Kind → List Kind
  | anything => [anything]
  | truth => [truth, integer, anything]
  | k => [k, anything]

/-- The kind right above a kind. -/
def above? (k : Kind) : Option Kind :=
  k.lineage[1]?

/-- The numbers that a kind tells about itself: its flags, the size of a value and of each item in
it, and the places of its table and of its references. -/
structure Figures where
  flags : Nat
  size : Nat
  itemSize : Nat := 0
  tablePlace : Nat := 0
  referencePlace : Nat := 0

/-- The figures of a kind. -/
def figures : Kind → Figures
  | anything => { flags := 529664, size := 16 }
  | kind =>
    { flags := 2148031744, size := 904, itemSize := 40, tablePlace := 264, referencePlace := 368 }
  | text => { flags := 273159424, size := 80 }
  | integer => { flags := 21501184, size := 24, itemSize := 4 }
  | truth => { flags := 21500160, size := 32, itemSize := 4 }
  | sequence => { flags := 71849248, size := 24, itemSize := 8 }
  | dictionary => { flags := 541611328, size := 48 }
  | nothing => { flags := 528640, size := 16 }
  | operator => { flags := 676224, size := 56 }
  | operation => { flags := 678272, size := 56 }
  | kindOperation => { flags := 545152, size := 56 }
  | freeOperation => { flags := 546048, size := 32, tablePlace := 24 }
  | property => { flags := 545152, size := 48 }
  | field => { flags := 545152, size := 48 }
  | boundOperator => { flags := 545152, size := 32 }
  | boundOperation => { flags := 547200, size := 56, referencePlace := 40 }
  | catalog => { flags := 545088, size := 24 }
  | applied => { flags := 548096, size := 64, referencePlace := 40 }

end Kind

end SequenceApi.Template
