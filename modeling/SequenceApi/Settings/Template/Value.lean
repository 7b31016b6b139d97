import SequenceApi.Settings.Template.Catalog
import SequenceApi.Settings.Template.Error
import SequenceApi.Table

/-!
# Values of templates

A value is a text or a part of one, and parts have parts. The parts that a value has by name are the
members of its kind; a kind also knows the members of its own values, not yet bound to one. Items
are asked for by a position or by a key.

## Main definitions

* `Template.Member`: a line of a catalog, with the kind that has it
* `Template.Value`: what a field can name
* `Template.Value.kind`: the kind of a value
* `Template.Value.part?`: the part of a name
* `Template.Value.item`: the item at a position or under a key
* `Template.Value.shown`, `Template.Value.toText`: the value exactly, and as it reads in a title
-/

namespace SequenceApi.Template

open Text

/-- A line of a catalog, with the kind that has it. -/
structure Member extends Entry where
  owner : Kind
  deriving DecidableEq, Repr

/-- The members of a kind, in the order of its catalog. -/
def Kind.members (k : Kind) : List Member :=
  k.entries.map fun e => { toEntry := e, owner := k }

/-- The member that a name stands for among the values of a kind: the nearest in the lineage. -/
def Kind.member? (k : Kind) (name : String) : Option Member :=
  k.lineage.findSome? fun a => a.members.find? (·.name == name)

/-- What an item is asked for by. -/
inductive Key where
  | position (index : Nat)
  | name (text : String)
  deriving DecidableEq, Repr

/-- What a field can name. -/
inductive Value where
  | text (s : String)
  | integer (n : Nat)
  | truth (b : Bool)
  | nothing
  /-- A kind. -/
  | ofKind (k : Kind)
  /-- A sequence of kinds. -/
  | kinds (ks : List Kind)
  /-- The sequence that holds the argument of an applied kind. -/
  | argument (key : Key)
  /-- A dictionary without entries. -/
  | noEntries
  /-- The members of a kind, by name. -/
  | catalog (k : Kind)
  /-- A member of a kind that is bound to no value. -/
  | member (m : Member)
  /-- An operator or operation of a value. -/
  | bound (m : Member) (self : Value)
  /-- A kind with an argument. -/
  | applied (origin : Kind) (key : Key)
  deriving DecidableEq, Repr

/-- A key as a value. -/
def Key.toValue : Key → Value
  | .position index => .integer index
  | .name text => .text text

/-- The text that there may be, as a value. -/
def Value.ofText? (s : Option String) : Value :=
  s.elim .nothing .text

/-- The kind of a member that is bound to no value. -/
def Form.kind : Form → Kind
  | .operator => .operator
  | .operation => .operation
  | .kindOperation => .kindOperation
  | .freeOperation => .freeOperation
  | .maker => .boundOperation
  | .property => .property
  | .field => .field
  | .note text => if text.isSome then .text else .nothing

/-- The member stands for what a value holds. -/
def Form.isStored : Form → Bool
  | .property | .field => true
  | _ => false

namespace Value

/-- The kind of a value. -/
def kind : Value → Kind
  | text _ => .text
  | integer _ => .integer
  | truth _ => .truth
  | nothing => .nothing
  | ofKind _ => .kind
  | kinds _ | argument _ => .sequence
  | noEntries => .dictionary
  | catalog _ => .catalog
  | member m => m.form.kind
  | bound m _ => if m.form = .operator then .boundOperator else .boundOperation
  | applied .. => .applied

end Value

/-! ## Members -/

namespace Member

/-- A member as its catalog holds it. -/
def held (m : Member) : Value :=
  match m.form with
  | .note text => .ofText? text
  | .maker => .bound m (.ofKind m.owner)
  | _ => .member m

/-- A member as the kind `k` knows it, which has the owner in its lineage. -/
def under (k : Kind) (m : Member) : Value :=
  match m.form with
  | .kindOperation => .bound m (.ofKind k)
  | .freeOperation => .bound m (.ofKind m.owner)
  | _ => m.held

/-- What a member that is bound to no value tells about itself. -/
def contents (m : Member) : Table String Value := [
  ("__objclass__", .ofKind m.owner),
  ("__name__", .text m.name),
  ("__qualname__", .text (m.owner.name ++ "." ++ m.name)),
  ("__doc__", .ofText? m.description),
  ("__text_signature__", .ofText? m.signature),
  ("__func__", m.under m.owner),
  ("__wrapped__", m.under m.owner),
  ("__isabstractmethod__", .truth false),
  ("__dict__", .noEntries)]

/-- What an operator or operation of the value `self` tells about itself. The name of an operation
comes with the kind of the value, and that of an operator with the kind that has it. -/
def boundContents (m : Member) (self : Value) : Table String Value :=
  let place :=
    match m.form, self with
    | .operator, _ => m.owner
    | _, .ofKind k => k
    | _, v => v.kind
  [("__self__", if m.form = .freeOperation then .nothing else self),
    ("__module__", .nothing),
    ("__qualname__", .text (place.name ++ "." ++ m.name)),
    ("__objclass__", .ofKind m.owner),
    ("__name__", .text m.name),
    ("__doc__", .ofText? m.description),
    ("__text_signature__", .ofText? m.signature)]

end Member

/-- What a kind tells about itself. A kind without a description shows what its values have in that
place. -/
def Kind.contents (k : Kind) : Table String Value :=
  let description :=
    match k.description? with
    | some s => .text s
    | none => (k.members.find? (·.name == "__doc__")).elim .nothing Member.held
  [("__name__", .text k.name),
    ("__qualname__", .text k.name),
    ("__module__", .text k.home),
    ("__doc__", description),
    ("__text_signature__", .ofText? k.signature?),
    ("__base__", k.above?.elim .nothing .ofKind),
    ("__bases__", .kinds k.above?.toList),
    ("__mro__", .kinds k.lineage),
    ("__dict__", .catalog k),
    ("__flags__", .integer k.figures.flags),
    ("__basicsize__", .integer k.figures.size),
    ("__itemsize__", .integer k.figures.itemSize),
    ("__dictoffset__", .integer k.figures.tablePlace),
    ("__weakrefoffset__", .integer k.figures.referencePlace)]

/-- What an integer tells about itself. -/
def integerContents (n : Nat) : Table String Value :=
  [("real", .integer n), ("imag", .integer 0), ("numerator", .integer n),
    ("denominator", .integer 1)]

/-- What a kind with an argument tells about itself. -/
def appliedContents (origin : Kind) (key : Key) : Table String Value := [
  ("__origin__", .ofKind origin),
  ("__args__", .argument key),
  ("__parameters__", .kinds []),
  ("__unpacked__", .truth false),
  ("__typing_unpacked_tuple_args__", .nothing)]

namespace Value

/-- What the properties and fields of a value hold. -/
def contents (v : Value) : Table String Value :=
  ("__class__", .ofKind v.kind) ::
    match v with
    | ofKind k => k.contents
    | member m => m.contents
    | bound m self => m.boundContents self
    | integer n => integerContents n
    | truth b => integerContents b.toNat
    | applied origin key => appliedContents origin key
    | _ => []

/-- A member of the kind of `v`, for `v`. -/
def take (v : Value) (m : Member) : Option Value :=
  if m.form.isStored then Table.find m.name v.contents
  else
    match m.form with
    | .operator | .operation => some (.bound m v)
    | _ => some (m.under v.kind)

/-- The part of a value by the members of its kind. -/
def ownPart? (v : Value) (name : String) : Option Value :=
  (v.kind.member? name).bind v.take

/-- The part of a kind: first what it tells about itself, then what its values know, and at last
what other members its own kind has. -/
def partOfKind? (k : Kind) (name : String) : Option Value :=
  if (Kind.kind.member? name).any fun m => m.form.isStored then ownPart? (.ofKind k) name
  else
    match k.member? name with
    | some m => some (m.under k)
    | none => ownPart? (.ofKind k) name

/-- The parts that belong to an applied kind itself; for all others its origin is asked. -/
def appliedNames : List String :=
  ["__class__", "__origin__", "__args__", "__unpacked__", "__parameters__",
    "__typing_unpacked_tuple_args__", "__mro_entries__", "__reduce_ex__", "__reduce__",
    "__copy__", "__deepcopy__"]

/-- The part of a name. -/
def part? (v : Value) (name : String) : Option Value :=
  match v with
  | ofKind k => partOfKind? k name
  | applied origin _ =>
    if appliedNames.contains name then v.ownPart? name else partOfKind? origin name
  | _ => v.ownPart? name

/-! ## Texts -/

/-- Where a value is kept is not told. -/
def place : String :=
  "0x000000000000"

/-- Words in brackets. -/
def bracketed (words : List String) : String :=
  "<" ++ joined " " words ++ ">"

/-- A kind exactly. -/
def shownKind (k : Kind) : String :=
  bracketed ["class", quoted k.fullName]

/-- An operator or operation of a value exactly. -/
def shownBound (m : Member) (self : Value) : String :=
  let rest := [self.kind.fullName, "object", "at", place]
  bracketed
    (if m.form = .operator then ["method-wrapper", quoted m.name, "of"] ++ rest
    else ["built-in", "method", m.name, "of"] ++ rest)

/-- A member exactly. -/
def shownMember (m : Member) : String :=
  let rest := [quoted m.name, "of", quoted m.owner.fullName, "objects"]
  match m.form with
  | .operator => bracketed ("slot" :: "wrapper" :: rest)
  | .property => bracketed ("attribute" :: rest)
  | .field => bracketed ("member" :: rest)
  | .freeOperation => "<staticmethod(" ++ shownBound m (.ofKind m.owner) ++ ")>"
  | _ => bracketed ("method" :: rest)

/-- What a catalog holds for a member, exactly. -/
def shownHeld (m : Member) : String :=
  match m.form with
  | .note (some s) => quoted s
  | .note none => "None"
  | .maker => shownBound m (.ofKind m.owner)
  | _ => shownMember m

/-- The entries of a catalog exactly. -/
def shownEntries (k : Kind) : String :=
  "\x7b" ++ joined ", " (k.members.map fun m => quoted m.name ++ ": " ++ shownHeld m) ++ "\x7d"

/-- A key exactly. -/
def shownKey : Key → String
  | .position index => toString index
  | .name s => quoted s

/-- A sequence of texts in parentheses. A single one is followed by a comma. -/
def listed (items : List String) : String :=
  "(" ++ joined ", " items ++ (if items.length = 1 then "," else "") ++ ")"

/-- A value exactly. -/
def shown : Value → String
  | text s => quoted s
  | integer n => toString n
  | truth b => if b then "True" else "False"
  | nothing => "None"
  | ofKind k => shownKind k
  | kinds ks => listed (ks.map shownKind)
  | argument key => listed [shownKey key]
  | noEntries => "\x7b\x7d"
  | catalog k => "mappingproxy(" ++ shownEntries k ++ ")"
  | member m => shownMember m
  | bound m self => shownBound m self
  | applied origin key => origin.fullName ++ "[" ++ shownKey key ++ "]"

/-- A value as it reads in a title. -/
def toText : Value → String
  | text s => s
  | catalog k => shownEntries k
  | v => v.shown

/-! ## Items -/

/-- The kinds that take an argument. -/
def takesArgument (k : Kind) : Bool :=
  k = .kind || (k.member? "__class_getitem__").isSome

/-- The item of a value at a position or under a key. -/
def item (v : Value) (key : Key) : Except TemplateError Value :=
  match v, key with
  | text s, .position i =>
    match s.toList[i]? with
    | some c => .ok (.text (String.ofList [c]))
    | none => .error .pastEnd
  | kinds ks, .position i =>
    match ks[i]? with
    | some k => .ok (.ofKind k)
    | none => .error .pastLast
  | argument a, .position i => if i = 0 then .ok a.toValue else .error .pastLast
  | catalog k, .name name =>
    match k.members.find? (·.name == name) with
    | some m => .ok m.held
    | none => .error (.noEntry (shownKey key))
  | catalog _, _ | noEntries, _ => .error (.noEntry (shownKey key))
  | ofKind k, _ => if takesArgument k then .ok (.applied k key) else .error .notAnIndex
  | _, _ => .error .notAnIndex

end Value

end SequenceApi.Template
