import SequenceApi.Reference.Target

/-!
# Cycles of references

References lead from one component schema to the next. A chain starts at a path or at a schema,
takes one reference after another, and closes when it comes to a reference that it already holds.
A schema that refers to itself at once is no cycle: its values are trees.

The search follows a chain by calls within calls, one for each reference. No bound on how deep a
machine lets calls nest is modelled: chains may be as long as there are schemas, and what is proved
about the search is about documents whose chains stay below such a bound.

## Main definitions

* `ReferenceGraph`: the references in each component schema
* `ReferenceGraph.closings`: the chains that close
* `Cycle`: a closed chain; two are alike if their loops differ by a rotation
* `Node.cycles`: the cycles of a document, each once
-/

namespace SequenceApi

/-- The references in each component schema, by the reference to the schema. -/
abbrev ReferenceGraph := Table String (List String)

/-- A chain of references that are all different, and the one of them to which it comes back. -/
structure Cycle where
  chain : List String
  ref : String
  deriving DecidableEq, Repr

namespace Cycle

/-- The part of the chain that repeats. -/
def loop (c : Cycle) : List String :=
  c.chain.dropWhile (· != c.ref)

/-- The least text of a list. -/
def least : List String → Option String
  | [] => none
  | s :: l =>
    match least l with
    | none => some s
    | some t => some (if t < s then t else s)

/-- The loop from its least reference on: the same for all rotations. -/
def key (c : Cycle) : List String :=
  match least c.loop with
  | none => []
  | some s => c.loop.dropWhile (· != s) ++ c.loop.takeWhile (· != s)

/-- The chain with the reference that closes it. -/
def walk (c : Cycle) : List String :=
  c.chain ++ [c.ref]

/-- The first cycle of each kind, except those of the known kinds. -/
def distinct (known : List (List String)) : List Cycle → List Cycle
  | [] => []
  | c :: cs => if known.contains c.key then distinct known cs else c :: distinct (c.key :: known) cs

end Cycle

namespace ReferenceGraph

/-- The cycle that a reference closes after a chain. -/
def closing (chain : List String) (ref : String) : List Cycle :=
  if chain = [ref] then [] else [⟨chain, ref⟩]

/-- The cycles that arise when a chain goes on with any of the references, in order. The first
argument bounds how much longer the chain gets: no chain has more references than there are
schemas. -/
def closings (g : ReferenceGraph) : Nat → List String → List String → List Cycle
  | 0, chain, refs => refs.flatMap fun ref => if chain.contains ref then closing chain ref else []
  | n + 1, chain, refs =>
    refs.flatMap fun ref =>
      if chain.contains ref then closing chain ref
      else
        match Table.find ref g with
        | some next => closings g n (chain ++ [ref]) next
        | none => []

/-- The cycles of chains that start with any of the references. -/
def closingsFrom (g : ReferenceGraph) (refs : List String) : List Cycle :=
  closings g g.length [] refs

end ReferenceGraph

namespace Node

/-- The references in each component schema of a document. Of two schemas with one reference the
later one counts. -/
def graph (document : Node) : ReferenceGraph :=
  Table.ofEntries (document.schemas.map fun e => (schemaRef e.1, e.2.refs))

/-- Where chains start: at each path, and at each component schema. -/
def starts (document : Node) : List (List String) :=
  (document.paths?.getD []).map (fun e => e.2.refs) ++ Table.values document.graph

/-- The cycles of a document, each once. -/
def cycles (document : Node) : List Cycle :=
  Cycle.distinct [] (document.starts.flatMap document.graph.closingsFrom)

end Node

end SequenceApi
