import SequenceApi.Diagram.Arrow
import SequenceApi.Diagram.Method

/-!
# Tokens of diagrams

A diagram is read line by line, leniently: a line is a request, a response, a declaration of a
participant or a note, in this order of trial, or it is passed over. Blank lines and comments are
always passed over.

## Main definitions

* `Token`: a recognised line with its number
* `Token.ofLine`: the token of one line
* `Token.read`: the tokens of a text
-/

namespace SequenceApi

open Text

/-- A line that declares a participant. -/
structure Declaration where
  line : Nat
  name : String
  deriving DecidableEq, Repr

/-- A request line. -/
structure Request where
  line : Nat
  source : String
  target : String
  method : Method
  path : String
  summary : Option String
  deriving DecidableEq, Repr

/-- A response line. The status is three digits as they are written. -/
structure Response where
  line : Nat
  source : String
  target : String
  status : String
  description : Option String
  deriving DecidableEq, Repr

/-- A note over some participants. -/
structure Note where
  line : Nat
  participants : List String
  content : String
  deriving DecidableEq, Repr

/-- A recognised line. -/
inductive Token where
  | declaration (d : Declaration)
  | request (r : Request)
  | response (r : Response)
  | note (n : Note)
  deriving DecidableEq, Repr

/-- The note begins with the key of a body. -/
def Note.isBody (n : Note) : Bool :=
  (dropWord? "body:" n.content.toList).isSome

/-- The lines of a text, trimmed. There is one line more than there are line feeds. -/
def trimmedLines (text : String) : List (List Char) :=
  (pieces '\n' text.toList).map trim

/-- The line is a comment. -/
def isComment (line : List Char) : Bool :=
  "%%".toList.isPrefixOf line

/-- What follows a keyword and at least one blank, without the blanks. -/
def afterKeyword? (keyword : String) (cs : List Char) : Option (List Char) :=
  match dropWord? keyword cs with
  | some (c :: rest) => if isBlank c then some (skipBlanks rest) else none
  | _ => none

/-- The name on a line that declares a participant. -/
def participantName? (line : List Char) : Option String :=
  match afterKeyword? "participant" line with
  | some rest => if rest.isEmpty then none else some (String.ofList (word rest))
  | none => none

/-- The participants and the content of a note: names between commas, a colon, and a text that is
not empty. At least two characters stand between the keywords and the colon, a blank first. -/
def noteParts? (line : List Char) : Option (List String × String) :=
  match (afterKeyword? "note" line).bind (dropWord? "over") with
  | none => none
  | some rest =>
    match cut ':' rest with
    | (c :: d :: names, some after) =>
      let content := trim after
      if isBlank c && !content.isEmpty then
        some ((pieces ',' (c :: d :: names)).map fun p => String.ofList (trim p),
          String.ofList content)
      else none
    | _ => none

/-- The token of an arrow line, if its label fits the arrow. -/
def Token.ofArrow? (n : Nat) (a : Arrow) : Option (Except UnknownMethod Token) :=
  match a.head with
  | .call =>
    match CallLabel.read a.label with
    | some label =>
      if Method.isWord label.verb then
        some ((Method.ofWord? label.verb).map fun m =>
          .request ⟨n, a.source, a.target, m, label.path, label.summary⟩)
      else none
    | none => none
  | .reply =>
    (ReplyLabel.read a.label).map fun label =>
      .ok (.response ⟨n, a.source, a.target, String.ofList label.status, label.description⟩)

/-- The token of a trimmed line with a number, if it is recognised. -/
def Token.ofLine (n : Nat) (line : List Char) : Except UnknownMethod (Option Token) :=
  if line.isEmpty || isComment line then .ok none
  else
    match (Arrow.read line).bind (Token.ofArrow? n) with
    | some result => result.map some
    | none =>
      match participantName? line, noteParts? line with
      | some name, _ => .ok (some (.declaration ⟨n, name⟩))
      | none, some (participants, content) => .ok (some (.note ⟨n, participants, content⟩))
      | none, none => .ok none

/-- The tokens of trimmed lines, the first of which has number `n`. -/
def Token.ofLines : Nat → List (List Char) → Except UnknownMethod (List Token)
  | _, [] => .ok []
  | n, line :: lines =>
    match Token.ofLine n line, Token.ofLines (n + 1) lines with
    | .error e, _ => .error e
    | _, .error e => .error e
    | .ok t, .ok ts => .ok (t.toList ++ ts)

/-- The tokens of a text, in order. -/
def Token.read (text : String) : Except UnknownMethod (List Token) :=
  Token.ofLines 1 (trimmedLines text)

end SequenceApi
