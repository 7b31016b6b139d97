import SequenceApi.Diagram.Finding
import SequenceApi.Diagram.Token
import SequenceApi.Text.Word

/-!
# The strict check of diagrams

Reading a diagram passes over what it does not know; the strict check reports it. It looks at every
line by itself, and then at the lines together: whether participants are declared, responses have
requests, notes come after a request, and bodies are JSON.

## Main definitions

* `Record`, `Check.line`: what a line is, and what is wrong with it alone
* `Check.Context.step`: what is wrong with a line after the lines before it
* `Diagram.check`: the report on a text
-/

namespace SequenceApi

open Text

/-- The ends of an arrow. -/
structure Link where
  line : Nat
  source : String
  target : String
  deriving DecidableEq, Repr

/-- A line that the check recognises. -/
inductive Record where
  | declaration (d : Declaration)
  | request (l : Link)
  | response (l : Link)
  | note (n : Note)
  deriving DecidableEq, Repr

namespace Check

/-- A letter of ASCII. -/
def isLetter (c : Char) : Bool :=
  ('a' ≤ c && c ≤ 'z') || ('A' ≤ c && c ≤ 'Z')

/-- The findings about a path. -/
def path (n : Nat) (path : String) : List Finding :=
  (RequestPath.faults path).map fun f => ⟨some n, .badPath f path⟩

/-- The findings about a participant's name: a character that is no word character or hyphen, and a
digit in front. -/
def name (n : Nat) (name : String) : List Finding :=
  let cs := name.toList
  (if cs.all fun c => isWord c || c == '-' then [] else [⟨some n, .badName name⟩]) ++
    (if cs.head?.any isDigitLike then [⟨some n, .digitFirst name⟩] else [])

/-- The findings about an arrow line, and its record, if its label fits the arrow. A call may have
any word of ASCII letters for a method. -/
def arrow? (n : Nat) (a : Arrow) : Option (List Finding × Record) :=
  match a.head with
  | .call =>
    match CallLabel.read a.label with
    | some label =>
      if label.verb.all isLetter then
        let verb := String.ofList label.verb
        let known := (Method.ofName? (String.ofList (lower label.verb))).isSome
        some ((if known then [] else [⟨some n, .unknownMethod verb⟩]) ++ path n label.path,
          .request ⟨n, a.source, a.target⟩)
      else none
    | none => none
  | .reply =>
    (ReplyLabel.read a.label).map fun label =>
      let code := digitsValue label.status
      (if 100 ≤ code && code ≤ 599 then [] else [⟨some n, .badStatus (String.ofList label.status)⟩],
        .response ⟨n, a.source, a.target⟩)

/-- The findings about a trimmed line by itself, and what the line is. -/
def line (n : Nat) (line : List Char) : List Finding × Option Record :=
  if isKeyword "participant" line then ([⟨some n, .emptyName⟩], none)
  else
    match (Arrow.read line).bind (arrow? n) with
    | some (findings, record) => (findings, some record)
    | none =>
      match participantName? line, noteParts? line with
      | some s, _ => (name n s, some (.declaration ⟨n, s⟩))
      | none, some (participants, content) => ([], some (.note ⟨n, participants, content⟩))
      | none, none => ([⟨some n, .unknownLine (String.ofList line)⟩], none)

/-- The findings about lines by themselves, and their records; the first line has number `n`. Blank
lines and comments are passed over. -/
def lines : Nat → List (List Char) → List Finding × List Record
  | _, [] => ([], [])
  | n, l :: ls =>
    let (findings, records) := lines (n + 1) ls
    if l.isEmpty || isComment l then (findings, records)
    else
      let (here, record) := line n l
      (here ++ findings, record.toList ++ records)

/-! ## Lines together -/

/-- What is known after some records. -/
structure Context where
  /-- The names that the diagram declares anywhere. -/
  declared : List String
  /-- The requests without a response, latest first. -/
  waiting : List Link := []
  /-- A request has come. -/
  started : Bool := false

/-- The two links have the same ends, the other way round. -/
def isReverse (a b : Link) : Bool :=
  a.source == b.target && a.target == b.source

/-- The text of a body in a note: all that follows the key, without outer blanks. -/
def payload? (content : String) : Option (List Char) :=
  firstMatch
    (fun _ here =>
      match dropWord? "body:" here with
      | some (c :: cs) => some (trim (c :: cs))
      | _ => none)
    none content.toList

/-- The finding about the body of a note, if it is no JSON. -/
def body (n : Note) : List Finding :=
  if n.isBody then
    match payload? n.content with
    | none => []
    | some cs =>
      match Json.readChars cs with
      | .ok _ => []
      | .error e => [⟨some n.line, .badBody e (String.ofList cs)⟩]
  else []

/-- The findings about a request, all names that are not declared. -/
def ends (c : Context) (l : Link) : List Finding :=
  (if c.declared.contains l.source then [] else [⟨some l.line, .unknownSource l.source⟩]) ++
    (if c.declared.contains l.target then [] else [⟨some l.line, .unknownTarget l.target⟩])

/-- The findings about a record after the records before it, and what is known then. A response
takes the latest waiting request the other way round. -/
def Context.step (c : Context) : Record → List Finding × Context
  | .declaration _ => ([], c)
  | .request l => (ends c l, { c with waiting := l :: c.waiting, started := true })
  | .response l =>
    if c.waiting.any (isReverse l) then
      ([], { c with waiting := c.waiting.eraseP (isReverse l) })
    else ([⟨some l.line, .orphan l.source l.target⟩], c)
  | .note n =>
    ((n.participants.filter fun p => !c.declared.contains p).map
        (fun p => (⟨some n.line, .unknownInNote p⟩ : Finding)) ++
      (if c.started then [] else [⟨some n.line, .earlyNote n.content⟩]) ++ body n, c)

/-- The findings about records, in order. -/
def Context.run (c : Context) : List Record → List Finding
  | [] => []
  | r :: rs =>
    let (findings, c) := c.step r
    findings ++ Context.run c rs

/-- The name that a record declares. -/
def declaredName? : Record → Option String
  | .declaration d => some d.name
  | _ => none

/-- The findings about a text. -/
def findings (text : String) : List Finding :=
  if isInked text.toList then
    let (alone, records) := lines 1 (trimmedLines text)
    alone ++ Context.run { declared := records.filterMap declaredName? } records
  else [⟨none, .emptyInput⟩]

end Check

/-- The report on a text. -/
def Diagram.check (text : String) : Report :=
  Finding.report (Check.findings text)

end SequenceApi
