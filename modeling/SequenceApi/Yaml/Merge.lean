import SequenceApi.Yaml.Graph

/-!
# Entries that are taken over

A mapping takes over the entries of another one, or of several, which it names under the key `<<`.
They come before its own entries, which count more, and of several mappings the first counts most.
Its key `=` is then an ordinary text.

## Main definitions

* `Graph.merged`: the graph where a mapping has the entries that it takes over
* `Graph.withMerged`: the same with enough steps
-/

namespace SequenceApi.Yaml

/-- The entries of a mapping; other nodes have none. -/
def Vertex.entries : Vertex → List (Nat × Nat)
  | .map _ entries => entries
  | _ => []

/-- The node is a mapping. -/
def Vertex.isMap : Vertex → Bool
  | .map .. => true
  | _ => false

/-- The node with a text for its tag, if its tag is the one of the key of a default value. -/
def Vertex.asTextKey : Vertex → Vertex
  | .scalar (.form .value) text => .scalar (.form .text) text
  | .seq (.form .value) items => .seq (.form .text) items
  | .map (.form .value) entries => .map (.form .text) entries
  | v => v

namespace Graph

/-- The tag of a node. -/
def tag (g : Graph) (i : Nat) : Tag :=
  (g[i]?.map Vertex.tag).getD .unknown

/-- The entries of a node. -/
def entries (g : Graph) (i : Nat) : List (Nat × Nat) :=
  (g[i]?.map Vertex.entries).getD []

/-- The graph with other entries of a mapping. -/
def setEntries (g : Graph) (i : Nat) (entries : List (Nat × Nat)) : Graph :=
  g.setIfInBounds i (.map (g.tag i) entries)

/-- The graph where some keys are ordinary texts. -/
def withTextKeys (g : Graph) (entries : List (Nat × Nat)) : Graph :=
  entries.foldl (fun g e => g.modify e.1 Vertex.asTextKey) g

/-- The node is a mapping. -/
def isMap (g : Graph) (i : Nat) : Bool :=
  g[i]?.any Vertex.isMap

/-- The mappings that a value names. -/
def sources? (g : Graph) (value : Nat) : Option (List Nat) :=
  match g[value]? with
  | some (.map ..) => some [value]
  | some (.seq _ items) => if items.all g.isMap then some items else none
  | _ => none

/-- The first value that names mappings to take over, and the entries without it. -/
def nextSource? (g : Graph) : List (Nat × Nat) → Option (Nat × List (Nat × Nat))
  | [] => none
  | e :: es =>
    if g.tag e.1 = .form .merge then some (e.2, es)
    else (nextSource? g es).map fun (value, rest) => (value, e :: rest)

/-- The graph where a mapping has the entries that it takes over. Its sources take over theirs
first; one that is the mapping itself gives what it has by then. Every step removes an entry, and
the first argument bounds their number. -/
def merged : Nat → Nat → Graph → Except ReadError Graph
  | 0, _, _ => .error .tooDeep
  | n + 1, i, g =>
    match g.nextSource? (g.entries i) with
    | none => .ok (g.withTextKeys (g.entries i))
    | some (value, own) =>
      match g.sources? value with
      | none => .error .malformed
      | some sources => do
        let g ← sources.foldlM (fun g s => merged n s g) (g.setEntries i own)
        let taken := sources.reverse.flatMap g.entries
        let g ← merged n i g
        return g.setEntries i (taken ++ g.entries i)

/-- The number of all entries. -/
def entryCount (g : Graph) : Nat :=
  g.foldl (fun n v => n + v.entries.length) 0

/-- The graph where a mapping has the entries that it takes over. -/
def withMerged (g : Graph) (i : Nat) : Except ReadError Graph :=
  merged (g.entryCount + 1) i g

end Graph

end SequenceApi.Yaml
