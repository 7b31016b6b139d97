import SequenceApi.Json.Reader
import SequenceApi.Yaml.Content
import SequenceApi.Yaml.MemberOrder

/-!
# Values of YAML texts

The contents of the nodes of a text make up a document. Lists and tables are its sequences and
mappings. A set is a value of another type, and so are the pairs of a list of pairs: they appear by
their literals, in which a container inside itself is three points.

## Main definitions

* `Contents.literal?`: the literal of a node
* `Contents.unfold`: the document at a node
* `read`: the value of a text
* `ReadError.message`: the wording of an error
-/

namespace SequenceApi.Yaml

open Text

namespace Contents

/-! ## Literals -/

/-- What is open while a literal is written: a container, or one pair of a list of pairs. -/
inductive Open where
  | container (i : Nat)
  | pair (i place : Nat)
  deriving DecidableEq, Repr

/-- The scalar of a node. -/
def scalar (cs : Contents) (i : Nat) : Scalar :=
  ((cs.atom? i).map Atom.toScalar).getD .null

/-- The literal of a scalar. -/
def scalarLiteral? (s : Scalar) : Option String :=
  if s.isLong then none else some s.inner

/-- The literal of a set with some members. -/
def setLiteral? (cs : Contents) (members : List Nat) : Option String :=
  if members.isEmpty then some "set()"
  else
    ((MemberOrder.memberOrder (members.map cs.scalar)).mapM scalarLiteral?).map fun inner =>
      "\x7b" ++ joined ", " inner ++ "\x7d"

/-- The literal of a pair of a list, by the literals of nodes. -/
def pairLiteral? (literal? : List Open → Nat → Option String) (around : List Open) (i : Nat)
    (e : (Nat × Nat) × Nat) : Option String :=
  let self := Open.pair i e.2
  if around.contains self then some "(...)"
  else do
    let first ← literal? (self :: around) e.1.1
    let second ← literal? (self :: around) e.1.2
    return "(" ++ first ++ ", " ++ second ++ ")"

/-- The literal of a node inside of what is open; none if an integer in it has too many digits. The
first argument bounds the depth: a container and a pair are open once each. -/
def literal? (cs : Contents) : Nat → List Open → Nat → Option String
  | 0, _, _ => none
  | n + 1, around, i =>
    let self := Open.container i
    let inner := literal? cs n (self :: around)
    match cs.content? i with
    | some (.list items) =>
      if around.contains self then some "[...]"
      else (items.mapM inner).map fun l => "[" ++ joined ", " l ++ "]"
    | some (.pairs entries) =>
      if around.contains self then some "[...]"
      else
        let pair := pairLiteral? (literal? cs n) (self :: around) i
        (entries.zipIdx.mapM pair).map fun l => "[" ++ joined ", " l ++ "]"
    | some (.table entries) =>
      if around.contains self then some "\x7b...\x7d"
      else
        let entry (e : Nat × Nat) : Option String := do
          return (← scalarLiteral? (cs.scalar e.1)) ++ ": " ++ (← inner e.2)
        (entries.mapM entry).map fun l => "\x7b" ++ joined ", " l ++ "\x7d"
    | some (.set members) => cs.setLiteral? members
    | _ => scalarLiteral? (cs.scalar i)

/-! ## Documents -/

/-- A set as a value. -/
def setValue (cs : Contents) (members : List Nat) : Foreign :=
  let literal := cs.setLiteral? members
  let text := literal.getD ""
  { type := "set", text, inner := text, isEmpty := members.isEmpty, isLong := literal.isNone }

/-- A pair of a list as a value. Inside brackets its list is open too. -/
def pairValue (cs : Contents) (i : Nat) (e : (Nat × Nat) × Nat) : Foreign :=
  let write := pairLiteral? (cs.literal? (2 * cs.size + 2))
  let literal := write [] i e
  let inner := write [.container i] i e
  { type := "tuple", text := literal.getD "", inner := inner.getD "", isLong := literal.isNone }

/-- The documents at all nodes with one level more, and whether nothing of them is cut off. -/
def unfoldOnce (cs : Contents) (below : Array (Node × Bool)) : Array (Node × Bool) :=
  let part (j : Nat) : Node × Bool := below.getD j (.scalar .null, true)
  cs.mapIdx fun i c =>
    match c with
    | some (.list items) =>
      let parts := items.map part
      (.seq (some i) (parts.map Prod.fst), parts.all Prod.snd)
    | some (.table entries) =>
      let parts := entries.map fun e => (cs.scalar e.1, part e.2)
      (.map (some i) (parts.map fun e => (e.1, e.2.1)), parts.all fun e => e.2.2)
    | some (.set members) => (.scalar (.other (cs.setValue members)), true)
    | some (.pairs entries) =>
      (.seq (some i) (entries.zipIdx.map fun e => .scalar (.other (cs.pairValue i e))), true)
    | _ => (.scalar (cs.scalar i), true)

/-- The document at a node, unfolded until nothing of it is cut off. The second argument bounds the
number of levels. -/
def unfold (cs : Contents) (root : Nat) : Nat → Array (Node × Bool) → Node
  | 0, levels => (levels.getD root (.scalar .null, true)).1
  | n + 1, levels =>
    match levels.getD root (.scalar .null, true) with
    | (node, true) => node
    | (_, false) => unfold cs root n (cs.unfoldOnce levels)

/-- Readers of documents follow at most so many keys before they enter no container twice. -/
def deepestPath : Nat :=
  16

/-- The document at a node. If it stands inside itself, it is unfolded deeper than readers go. -/
def document (cs : Contents) (root : Nat) : Node :=
  cs.unfold root (cs.size + deepestPath) (Array.replicate cs.size (.scalar .null, false))

end Contents

/-- The value of a text; none if the text has no document. -/
def read (s : String) : Except ReadError (Option Node) := do
  match ← Graph.ofText s.toList with
  | none => return none
  | some (graph, root) => return some ((← Contents.ofGraph graph root).document root)

/-! ## Messages -/

/-- At most so many characters of a text that is no integer are shown. -/
def shownOfInt : Nat :=
  200

/-- The wording of an error that is not about the form of the text. -/
def ReadError.message : ReadError → String
  | .malformed => "malformed"
  | .tooDeep => "maximum recursion depth exceeded"
  | .noCharacter _ => "chr() arg not in range(0x110000)"
  | .badStamp fault => fault.message
  | .noStamp => "no timestamp"
  | .noStampText => "expected string or bytes-like object, got 'list'"
  | .badInt base text =>
    let shown := String.ofList ((quoted text).toList.take shownOfInt)
    s!"invalid literal for int() with base {base}: {shown}"
  | .emptyNumber => "string index out of range"
  | .longInt digits => Json.longIntMessage digits
  | .badFloat text => s!"could not convert string to float: {quoted text}"
  | .hugeWeight => "int too large to convert to float"
  | .badBool text => quoted text

end SequenceApi.Yaml
