import SequenceApi.Table
import SequenceApi.Yaml.Plain
import SequenceApi.Yaml.Token

/-!
# Graphs of YAML texts

Tokens make up scalars, sequences and mappings. Every node has a tag, which it declares or which its
form gives, and a number by which it is known. A node with an anchor can be named again by an alias,
also inside itself, and is then one and the same node at all places.

## Main definitions

* `Tag`: the tags that have a meaning
* `Vertex`, `Graph`: the nodes of a text
* `Grammar.node`: a node from its first token on
* `Graph.ofText`: the nodes of a text
-/

namespace SequenceApi.Yaml

/-- What a node is. -/
inductive Tag where
  | form (f : Form)
  | bytes
  | seq
  | map
  | set
  /-- A list of pairs, each given by a mapping of one entry. -/
  | pairs
  /-- A tag without a meaning. -/
  | unknown
  deriving DecidableEq, Repr

/-- The start of the tags that have a meaning. -/
def tagStart : String :=
  "tag:yaml.org,2002:"

/-- The names of the tags that have a meaning. -/
def tagNames : Table String Tag :=
  [("null", .form .null), ("bool", .form .bool), ("int", .form .int), ("float", .form .float),
    ("timestamp", .form .stamp), ("merge", .form .merge), ("value", .form .value),
    ("str", .form .text), ("binary", .bytes), ("seq", .seq), ("map", .map), ("set", .set),
    ("omap", .pairs), ("pairs", .pairs)]

/-- The tag with a full name. -/
def Tag.ofName (name : String) : Tag :=
  ((tagNames.find? fun e => tagStart ++ e.1 == name).map Prod.snd).getD .unknown

/-- A node of a text. Its parts are given by their numbers. -/
inductive Vertex where
  | scalar (tag : Tag) (text : String)
  | seq (tag : Tag) (items : List Nat)
  | map (tag : Tag) (entries : List (Nat × Nat))
  deriving Repr

/-- The tag of a node. -/
def Vertex.tag : Vertex → Tag
  | .scalar tag _ | .seq tag _ | .map tag _ => tag

/-- The nodes of a text by number. -/
abbrev Graph := Array Vertex

/-- What is known while tokens are read. -/
structure Reading where
  lexer : Lexer
  /-- A number of steps that suffices to read all tokens. -/
  bound : Nat
  /-- The targets of the handles of tags. -/
  handles : Table String String := [("!", "!"), ("!!", tagStart)]
  /-- The nodes with anchors. -/
  anchors : Table String Nat := []
  /-- The nodes so far; a collection that is still open has no parts. -/
  graph : Graph := #[]

/-- Reads tokens. -/
abbrev Grammar := StateT Reading (Except ReadError)

namespace Grammar

/-- At most this many collections nest. -/
def deepest : Nat := 480

/-- The tokens do not follow the grammar. -/
def fail {α : Type} : Grammar α :=
  throw .malformed

/-- The next token; none at the end of the text. -/
def next : Grammar (Option Token) := do
  let r ← get
  let lexer ← r.lexer.settled r.bound
  set { r with lexer }
  return lexer.next?

/-- Passes over the next token. -/
def drop : Grammar Unit :=
  modify fun r => { r with lexer := r.lexer.afterNext }

/-- Passes over a token that must come next. -/
def expect (t : Token) : Grammar Unit := do
  if (← next) = some t then drop else fail

/-- The next token is one of these. -/
def isNext (ts : List Token) : Grammar Bool :=
  return (← next).any ts.contains

/-! ## Properties of nodes -/

/-- The full name of a tag. -/
def fullName (handle : Option String) (suffix : String) : Grammar String := do
  match handle with
  | none => return suffix
  | some h =>
    match Table.find h (← get).handles with
    | some target => return target ++ suffix
    | none => fail

/-- The anchor and the tag in front of a node, in any order. A lone exclamation mark is a tag that
leaves the meaning to the form. -/
def properties : Grammar (Option String × Option String) := do
  match ← next with
  | some (.anchor a) =>
    drop
    match ← next with
    | some (.tag h s) => drop; return (some a, some (← fullName h s))
    | _ => return (some a, none)
  | some (.tag h s) =>
    drop
    match ← next with
    | some (.anchor a) => drop; return (some a, some (← fullName h s))
    | _ => return (none, some (← fullName h s))
  | _ => return (none, none)

/-- The name of an anchor must be new. -/
def checkAnchor : Option String → Grammar Unit
  | some a => do if Table.has a (← get).anchors then fail
  | none => return

/-- The tag of a scalar. -/
def scalarTag (tag : Option String) (plain : Bool) (text : String) : Tag :=
  match tag with
  | none => .form (if plain then Form.ofPlain text.toList else .text)
  | some "!" => .form (Form.ofPlain text.toList)
  | some name => Tag.ofName name

/-- The tag of a collection. -/
def collectionTag (tag : Option String) (usual : Tag) : Tag :=
  match tag with
  | none | some "!" => usual
  | some name => Tag.ofName name

/-- One more node, which an anchor may name. -/
def add (anchor : Option String) (v : Vertex) : Grammar Nat := do
  checkAnchor anchor
  modifyGet fun r =>
    let i := r.graph.size
    let anchors := anchor.elim r.anchors fun a => Table.put a i r.anchors
    (i, { r with graph := r.graph.push v, anchors })

/-- Puts a node in the place of another. -/
def replace (i : Nat) (v : Vertex) : Grammar Unit :=
  modify fun r => { r with graph := r.graph.setIfInBounds i v }

/-- A sequence, whose items are read while its anchor is known already. -/
def sequence (anchor tag : Option String) (items : Grammar (List Nat)) : Grammar Nat := do
  let tag := collectionTag tag .seq
  let i ← add anchor (.seq tag [])
  replace i (.seq tag (← items))
  return i

/-- A mapping, whose entries are read while its anchor is known already. -/
def mapping (anchor tag : Option String) (entries : Grammar (List (Nat × Nat))) : Grammar Nat := do
  let tag := collectionTag tag .map
  let i ← add anchor (.map tag [])
  replace i (.map tag (← entries))
  return i

/-- A scalar that is not there. -/
def missing : Grammar Nat :=
  add none (.scalar (.form .null) "")

/-! ## Nodes -/

/-- Where a node stands. -/
structure Site where
  /-- The number of collections around the node. -/
  depth : Nat
  /-- Blocks may stand here. -/
  block : Bool := true
  /-- The items of a block may stand here without more indentation. -/
  bareItems : Bool := false

/-- The place of the parts of a collection. -/
def Site.inner (s : Site) (block bareItems : Bool) : Site :=
  ⟨s.depth + 1, block, bareItems⟩

mutual

/-- A node. The first argument bounds how deep these readers call each other: of any three calls in
a row one passes over a token. -/
def node : Nat → Site → Grammar Nat
  | 0, _ => fail
  | n + 1, site => do
    if deepest < site.depth then throw .tooDeep
    if let some (.alias a) := ← next then
      drop
      match Table.find a (← get).anchors with
      | some i => return i
      | none => fail
    else
      let (anchor, tag) ← properties
      match ← next with
      | some (.scalar plain text) =>
        drop
        add anchor (.scalar (scalarTag tag plain text) text)
      | some .flowSeqStart => drop; sequence anchor tag (flowItems n (site.inner false false) true)
      | some .flowMapStart => drop; mapping anchor tag (flowEntries n (site.inner false false) true)
      | some .blockEntry =>
        if site.bareItems then sequence anchor tag (bareItems n (site.inner true false))
        else emptyNode anchor tag
      | some .blockSeqStart =>
        if site.block then
          drop
          sequence anchor tag (blockItems n (site.inner true false))
        else emptyNode anchor tag
      | some .blockMapStart =>
        if site.block then
          drop
          mapping anchor tag (blockEntries n (site.inner true true))
        else emptyNode anchor tag
      | _ => emptyNode anchor tag

/-- A node that consists of its properties alone. -/
def emptyNode (anchor tag : Option String) : Grammar Nat :=
  if anchor.isNone && tag.isNone then fail else add anchor (.scalar (scalarTag tag true "") "")

/-- A node, or an empty one if one of these tokens comes next. -/
def nodeBefore : Nat → List Token → Site → Grammar Nat
  | 0, _, _ => fail
  | n + 1, ends, site => do
    if ← isNext ends then missing else node n site

/-- The items of an indented block. -/
def blockItems : Nat → Site → Grammar (List Nat)
  | 0, _ => fail
  | n + 1, site => do
    if (← next) = some .blockEntry then
      drop
      let t ← nodeBefore n [.blockEntry, .blockEnd] site
      return t :: (← blockItems n site)
    else
      expect .blockEnd
      return []

/-- The items of a block that is not indented. -/
def bareItems : Nat → Site → Grammar (List Nat)
  | 0, _ => fail
  | n + 1, site => do
    if (← next) = some .blockEntry then
      drop
      let t ← nodeBefore n [.blockEntry, .key, .value, .blockEnd] site
      return t :: (← bareItems n site)
    else return []

/-- The entries of a block. -/
def blockEntries : Nat → Site → Grammar (List (Nat × Nat))
  | 0, _ => fail
  | n + 1, site => do
    let ends := [Token.key, .value, .blockEnd]
    if (← next) = some .key then
      drop
      let k ← nodeBefore n ends site
      let v ← valueBefore n ends site
      return (k, v) :: (← blockEntries n site)
    else
      expect .blockEnd
      return []

/-- The value after its mark; without a mark an empty one. -/
def valueBefore : Nat → List Token → Site → Grammar Nat
  | 0, _, _ => fail
  | n + 1, ends, site => do
    if (← next) = some .value then
      drop
      nodeBefore n ends site
    else missing

/-- The items between brackets. A key among them makes an item a mapping of one entry. -/
def flowItems : Nat → Site → Bool → Grammar (List Nat)
  | 0, _, _ => fail
  | n + 1, site, first => do
    if (← next) = some .flowSeqEnd then
      drop
      return []
    else
      if !first then expect .flowEntry
      match ← next with
      | some .flowSeqEnd =>
        drop
        return []
      | some .key =>
        let t ← mapping none none do
          drop
          let k ← nodeBefore n [.value, .flowEntry, .flowSeqEnd] (site.inner false false)
          let v ← valueBefore n [.flowEntry, .flowSeqEnd] (site.inner false false)
          return [(k, v)]
        return t :: (← flowItems n site false)
      | _ =>
        let t ← node n site
        return t :: (← flowItems n site false)

/-- The entries between braces. -/
def flowEntries : Nat → Site → Bool → Grammar (List (Nat × Nat))
  | 0, _, _ => fail
  | n + 1, site, first => do
    if (← next) = some .flowMapEnd then
      drop
      return []
    else
      if !first then expect .flowEntry
      match ← next with
      | some .flowMapEnd =>
        drop
        return []
      | some .key =>
        drop
        let k ← nodeBefore n [.value, .flowEntry, .flowMapEnd] site
        let v ← valueBefore n [.flowEntry, .flowMapEnd] site
        return (k, v) :: (← flowEntries n site false)
      | _ =>
        let k ← node n site
        let v ← missing
        return (k, v) :: (← flowEntries n site false)

end

/-! ## Documents -/

/-- The directives of a document: at most one version, whose first number is one, and no handle
twice. The targets of the handles are given back. -/
def directives : Nat → Bool → Table String String → Grammar (Table String String)
  | 0, _, _ => fail
  | n + 1, versioned, handles => do
    match ← next with
    | some (.directive d) =>
      drop
      match d with
      | .version major _ => if versioned || major != 1 then fail else directives n true handles
      | .tag h target =>
        if Table.has h handles then fail else directives n versioned (Table.put h target handles)
      | .other => directives n versioned handles
    | _ => return handles

/-- The token begins a document of its own, or ends one. -/
def isBoundary : Token → Bool
  | .directive _ | .documentStart | .documentEnd => true
  | _ => false

/-- Passes over marks of the end of a document. -/
def dropEnds : Nat → Grammar Unit
  | 0 => return
  | n + 1 => do
    if (← next) = some .documentEnd then
      drop
      dropEnds n

/-- The root of a document. -/
def root : Grammar Nat := do
  node (12 * (← get).bound) { depth := 0 }

/-- The document at its directives, or at the mark of its start. The handles of its tags add to the
usual ones. -/
def explicitDocument : Grammar Nat := do
  let handles ← directives (← get).bound false []
  expect .documentStart
  modify fun r => { r with handles := handles ++ r.handles }
  if (← next).all isBoundary then missing else root

/-- The root of the one document of a text, if there is one. -/
def document : Grammar (Option Nat) := do
  match ← next with
  | none => return none
  | some t =>
    let i ←
      match t with
      | .directive _ | .documentStart => explicitDocument
      | _ => root
    dropEnds (← get).bound
    match ← next with
    | none => return some i
    | some _ =>
      -- The next document is read up to its start.
      let _ ← directives (← get).bound false []
      fail

end Grammar

/-- The nodes of a text and the number of the root, if the text is not empty. -/
def Graph.ofText (cs : List Char) : Except ReadError (Option (Graph × Nat)) := do
  let lexer ← Lexer.ofText cs
  let (i, r) ← Grammar.document.run { lexer, bound := cs.length + 2 }
  return i.map fun i => (r.graph, i)

end SequenceApi.Yaml
