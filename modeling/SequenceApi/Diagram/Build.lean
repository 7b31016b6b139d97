import SequenceApi.Diagram.Basic
import SequenceApi.Note.Body

/-!
# Building diagrams

Tokens are taken in order. The latest request stays open until a response comes back from its
target to its source: notes over its target belong to it, and the response answers and closes it.
The next request opens anew, answered or not.

## Main definitions

* `Draft`: the interactions so far, the open one apart
* `Draft.step`: the draft after one more token
* `Diagram.ofTokens`, `Diagram.read`: the diagram of tokens, and of a text
-/

namespace SequenceApi

/-- A diagram in the making. -/
structure Draft where
  /-- The interactions that nothing is added to any more. -/
  settled : List Interaction := []
  /-- The request that waits for its response. -/
  pending : Option Interaction := none
  remarks : List Remark := []

namespace Draft

/-- The interactions so far, in order. -/
def interactions (d : Draft) : List Interaction :=
  d.settled ++ d.pending.toList

/-- A request settles the one before it and waits. -/
def addRequest (d : Draft) (r : Request) : Draft :=
  { d with settled := d.interactions, pending := some (Interaction.ofRequest r) }

/-- The response comes back along the request: from its target to its source. -/
def answers (r : Response) (i : Interaction) : Bool :=
  i.target == r.source && i.source == r.target

/-- A response answers the waiting request or is an orphan. -/
def addResponse (d : Draft) (r : Response) : Draft :=
  match d.pending with
  | some i =>
    if answers r i then
      { d with
        settled := d.settled ++ [{ i with answer := some ⟨r.status, r.description⟩ }]
        pending := none }
    else { d with remarks := d.remarks ++ [.orphan r] }
  | none => { d with remarks := d.remarks ++ [.orphan r] }

/-- A note belongs to an interaction: it stands over its target and says something. -/
def concerns (n : Note) (i : Interaction) : Bool :=
  n.participants.contains i.target && n.content != ""

/-- The interaction with what a note adds: a body that can be read, declarations of security, and
the fields of the operation. -/
def enrich (i : Interaction) (n : Note) : Interaction :=
  let body :=
    match Note.body? n.content with
    | some (.ok v) => v
    | _ => i.body
  let security := i.security ++ Descriptor.ofNote n.content
  { i with body, security }.annotate (Metadata.ofNote n.content)

/-- The remark on a note whose body cannot be read. -/
def bodyRemarks (n : Note) : List Remark :=
  match Note.body? n.content with
  | some (.error _) => [.badBody n]
  | _ => []

/-- A note goes to the waiting request or is passed over. -/
def addNote (d : Draft) (n : Note) : Draft :=
  match d.pending with
  | some i =>
    if concerns n i then
      { d with pending := some (enrich i n), remarks := d.remarks ++ bodyRemarks n }
    else d
  | none => d

/-- The draft after one more token. -/
def step (d : Draft) : Token → Draft
  | .declaration _ => d
  | .request r => d.addRequest r
  | .response r => d.addResponse r
  | .note n => d.addNote n

end Draft

/-- The participants that a token names. -/
def Token.participants : Token → List String
  | .declaration d => [d.name]
  | .request r => [r.source, r.target]
  | _ => []

/-- The diagram of tokens. -/
def Diagram.ofTokens (tokens : List Token) : Diagram :=
  let draft := tokens.foldl Draft.step {}
  { participants := (tokens.flatMap Token.participants).eraseDups
    interactions := draft.interactions
    remarks := draft.remarks }

/-- The diagram of a text. -/
def Diagram.read (text : String) : Except UnknownMethod Diagram :=
  (Token.read text).map Diagram.ofTokens

end SequenceApi
