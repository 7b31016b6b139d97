import SequenceApi.Yaml.Atom
import SequenceApi.Yaml.Merge

/-!
# Contents of nodes

The tag of a node says what becomes of it: a scalar, or a container. A scalar has its value at once.
A container is empty at first, so that it can stand inside itself, and is filled later; containers
are filled in the order in which they were met. What is wrong with a node is therefore found when it
is met, or when it is filled.

## Main definitions

* `Content`: what becomes of a node
* `scalarText`: the text that a node gives to a scalar
* `Maker.make`, `Maker.fill`: a node is met, and filled
* `Contents.ofGraph`: the contents of all nodes that a node reaches
-/

namespace SequenceApi.Yaml

/-- What becomes of a node. The parts of a container are given by the numbers of their nodes. -/
inductive Content where
  | atom (a : Atom)
  | list (items : List Nat)
  | table (entries : List (Nat × Nat))
  | set (members : List Nat)
  | pairs (entries : List (Nat × Nat))
  deriving Repr

/-- The contents of nodes by number; none of a node that was not met. -/
abbrev Contents := Array (Option Content)

namespace Contents

/-- What became of a node. -/
def content? (cs : Contents) (i : Nat) : Option Content :=
  (cs[i]?).join

/-- The value of a scalar. -/
def atom? (cs : Contents) (i : Nat) : Option Atom :=
  match cs.content? i with
  | some (.atom a) => some a
  | _ => none

/-- Two nodes are one key: they are one node, or have equal values. -/
def isSameKey (cs : Contents) (i j : Nat) : Bool :=
  i == j ||
    match cs.atom? i, cs.atom? j with
    | some a, some b => a.isSame b
    | _, _ => false

/-- The entries with one more: at the place of an equal key, or at the end. -/
def putEntry (cs : Contents) (k v : Nat) : List (Nat × Nat) → List (Nat × Nat)
  | [] => [(k, v)]
  | (k', v') :: es =>
    if cs.isSameKey k k' then (k', v) :: es else (k', v') :: putEntry cs k v es

/-- Entries of which each has a key of its own. -/
def distinct (cs : Contents) (entries : List (Nat × Nat)) : List (Nat × Nat) :=
  entries.foldl (fun es e => cs.putEntry e.1 e.2 es) []

end Contents

/-! ## Scalars -/

/-- The text that a node gives to a scalar: its own, or that of the default value of a mapping. -/
def scalarText (g : Graph) : Nat → Vertex → Except ReadError String
  | 0, _ => .error .tooDeep
  | _, .scalar _ text => .ok text
  | _, .seq .. => .error .malformed
  | n + 1, .map _ entries =>
    match entries.find? fun e => g.tag e.1 = .form .value with
    | none => .error .malformed
    | some e =>
      match g[e.2]? with
      | some v => scalarText g n v
      | none => .error .malformed

/-- The tag makes a value of a text. -/
def Tag.isAtomic : Tag → Bool
  | .form .merge | .form .value | .form .indicator => false
  | .form _ | .bytes => true
  | _ => false

/-- The value of a node whose tag is one of scalars. A stamp wants a text of the node itself. -/
def scalarAtom (g : Graph) (v : Vertex) : Except ReadError Atom := do
  if !v.tag.isAtomic then throw .malformed
  let text ← scalarText g (g.size + 1) v
  if v.isMap && v.tag = .form .stamp then throw .noStampText
  Atom.ofText v.tag text

/-- The empty container that a tag begins. -/
def Content.begun? : Tag → Option Content
  | .seq => some (.list [])
  | .map => some (.table [])
  | .set => some (.set [])
  | .pairs => some (.pairs [])
  | _ => none

/-! ## Containers -/

/-- What is known while nodes are met and filled. -/
structure Making where
  graph : Graph
  contents : Contents
  /-- The containers that are not filled, the last one first. -/
  waiting : List Nat := []

/-- Meets and fills nodes. -/
abbrev Maker := StateT Making (Except ReadError)

namespace Maker

/-- The node does not fit its tag. -/
def fail {α : Type} : Maker α :=
  throw .malformed

/-- The node with a number. -/
def vertex (i : Nat) : Maker Vertex := do
  match (← get).graph[i]? with
  | some v => return v
  | none => fail

/-- Notes what becomes of a node. -/
def become (i : Nat) (c : Content) : Maker Unit :=
  modify fun m => { m with contents := m.contents.setIfInBounds i (some c) }

/-- Meets a node. -/
def make (i : Nat) : Maker Unit := do
  if ((← get).contents.content? i).isSome then return
  let v ← vertex i
  match Content.begun? v.tag with
  | some c =>
    become i c
    modify fun m => { m with waiting := i :: m.waiting }
  | none => become i (.atom (← scalarAtom (← get).graph v))

/-- Meets a key, which is a scalar. -/
def makeKey (i : Nat) : Maker Unit := do
  make i
  if ((← get).contents.atom? i).isNone then fail

/-- The entries of a mapping, after what it takes over, with a key of its own each. -/
def entries (i : Nat) : Maker (List (Nat × Nat)) := do
  if !(← get).graph.isMap i then fail
  let graph ← (← get).graph.withMerged i
  modify fun m => { m with graph }
  let entries := graph.entries i
  for (k, v) in entries do
    makeKey k
    make v
  return (← get).contents.distinct entries

/-- The items of a sequence. -/
def items (i : Nat) : Maker (List Nat) := do
  match ← vertex i with
  | .seq _ items => return items
  | _ => fail

/-- The one entry of a mapping. -/
def pair (i : Nat) : Maker (Nat × Nat) := do
  match ← vertex i with
  | .map _ [(k, v)] =>
    make k
    make v
    return (k, v)
  | _ => fail

/-- Fills a container. -/
def fill (i : Nat) : Maker Unit := do
  match (← get).contents.content? i with
  | some (.list _) =>
    let items ← items i
    items.forM make
    become i (.list items)
  | some (.table _) => become i (.table (← entries i))
  | some (.set _) => become i (.set ((← entries i).map Prod.fst))
  | some (.pairs _) => become i (.pairs (← (← items i).mapM pair))
  | _ => return

/-- Fills the containers that wait, and then those that were met meanwhile. The first argument
bounds the number of rounds, each of which fills a container. -/
def fillAll : Nat → Maker Unit
  | 0 => return
  | n + 1 => do
    let round := (← get).waiting.reverse
    if round.isEmpty then return
    modify fun m => { m with waiting := [] }
    round.forM fill
    fillAll n

end Maker

/-- The contents of all nodes that a node reaches. -/
def Contents.ofGraph (graph : Graph) (root : Nat) : Except ReadError Contents := do
  let start : Making := { graph, contents := Array.replicate graph.size none }
  let maker : Maker Unit := do
    Maker.make root
    Maker.fillAll (graph.size + 1)
  let (_, m) ← maker.run start
  return m.contents

end SequenceApi.Yaml
