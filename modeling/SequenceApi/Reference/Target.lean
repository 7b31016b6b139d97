import SequenceApi.Node.Text

/-!
# References and their targets

A reference is a text under the key `$ref`. Inside a document it points to a component schema by its
name, or to a path by its key, which may be escaped as in a pointer: a tilde as `~0`, a slash as
`~1`. What stands beside or below a reference is no part of the document.

## Main definitions

* `Node.refs`: the references in a tree
* `Node.targets`: what references in a document can point to
* `ReferenceFault`, `ReferenceFault.ofRef?`: what is wrong with a reference

## Main results

* `Node.mem_targets_iff`: the targets are the names of the schemas and the keys of the paths
-/

namespace SequenceApi

open Text

/-- The key of a reference. -/
def refKey : String := "$ref"

/-- The start of every reference to a component schema. -/
def schemaPointer : String := "#/components/schemas/"

/-- The start of every reference to a path. -/
def pathPointer : String := "#/paths/"

/-- A key as a part of a pointer. -/
def escapePointer (key : String) : String :=
  String.ofList (key.toList.flatMap fun c =>
    if c == '~' then ['~', '0'] else if c == '/' then ['~', '1'] else [c])

namespace Node

/-- The reference that a mapping with these entries is. -/
def refOf? (entries : List (Scalar × Node)) : Option String :=
  (Table.find (.str refKey) entries).bind str?

/-- The mark of a container that is met again. -/
def isKnown (known : List Nat) (mark : Option Nat) : Bool :=
  mark.any known.contains

mutual

/-- The references in a tree, in order, and the marks that are known then. A container whose mark is
known already is passed over. -/
def refsFrom (known : List Nat) : Node → List String × List Nat
  | .scalar _ => ([], known)
  | .seq mark items =>
    if isKnown known mark then ([], known) else refsOfItems (mark.toList ++ known) items
  | .map mark entries =>
    if isKnown known mark then ([], known)
    else
      match refOf? entries with
      | some ref => ([ref], mark.toList ++ known)
      | none => refsOfEntries (mark.toList ++ known) entries

/-- The references in items. -/
def refsOfItems (known : List Nat) : List Node → List String × List Nat
  | [] => ([], known)
  | n :: ns =>
    let (here, known) := refsFrom known n
    let (there, known) := refsOfItems known ns
    (here ++ there, known)

/-- The references in the values of entries. -/
def refsOfEntries (known : List Nat) : List (Scalar × Node) → List String × List Nat
  | [] => ([], known)
  | (_, n) :: es =>
    let (here, known) := refsFrom known n
    let (there, known) := refsOfEntries known es
    (here ++ there, known)

end

/-- The references in a tree, in order. Every container counts once. -/
def refs (n : Node) : List String :=
  (refsFrom [] n).1

/-- The component schemas of a document. -/
def schemas (document : Node) : List (Scalar × Node) :=
  (((document.get? "components").bind (get? "schemas")).bind entries?).getD []

/-- The paths of a document, if they are a mapping. -/
def paths? (document : Node) : Option (List (Scalar × Node)) :=
  (document.get? "paths").bind entries?

/-- The reference to a component schema. -/
def schemaRef (name : Scalar) : String :=
  schemaPointer ++ name.text

/-- The references to a path: with its key as it is, and escaped. -/
def pathRefs (key : Scalar) : List String :=
  [pathPointer ++ key.text, pathPointer ++ escapePointer key.text]

/-- What references in a document can point to. -/
def targets (document : Node) : List String :=
  document.schemas.map (fun e => schemaRef e.1) ++
    (document.paths?.getD []).flatMap fun e => pathRefs e.1

theorem mem_targets_iff {document : Node} {ref : String} :
    ref ∈ document.targets ↔
      (∃ e ∈ document.schemas, schemaRef e.1 = ref) ∨
        ∃ e ∈ document.paths?.getD [], ref ∈ pathRefs e.1 := by
  simp [targets]

end Node

/-- What can be wrong with a reference. -/
inductive ReferenceFault where
  /-- It does not point into the document. -/
  | foreign (ref : String)
  /-- It points to nothing that is there. -/
  | dangling (ref : String)
  deriving DecidableEq, Repr

/-- What is wrong with a reference, if anything is. -/
def ReferenceFault.ofRef? (targets : List String) (ref : String) : Option ReferenceFault :=
  if !startsHere ['#', '/'] ref.toList then some (.foreign ref)
  else if targets.contains ref then none
  else some (.dangling ref)

/-- What is wrong with the references in a tree, in order. -/
def Node.refFaults (targets : List String) (n : Node) : List ReferenceFault :=
  n.refs.filterMap (ReferenceFault.ofRef? targets)

end SequenceApi
