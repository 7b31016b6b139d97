import SequenceApi.Diagram.Build
import SequenceApi.Text.Quoted

/-!
# Events

What the stages of the program record about their work. The outer layer shows the records when it is
asked to.

## Main definitions

* `Event`: what is recorded
* `Event.level`, `Event.origin`, `Event.message`: how it is shown
* `Diagram.events`: the records of reading a diagram
-/

namespace SequenceApi

/-- What a stage records. -/
inductive Event where
  | tokenized (lines tokens : Nat)
  | orphan (line : Nat)
  | parsed (interactions participants remarks : Nat)
  | noSchema (method : Method) (path : String) (line : Nat)
  | dropped (key : String)
  | shared (name : String) (uses : Nat)
  | generated (service : String) (paths components : Nat)
  | fetching (url : String)
  | resolved (settings : String)
  deriving DecidableEq, Repr

namespace Event

/-- The level of a record. -/
def level : Event → String
  | noSchema .. => "WARNING"
  | _ => "DEBUG"

/-- The part of the program that records. -/
def origin : Event → String
  | tokenized .. => "seqspec.parser.tokenizer"
  | orphan _ | parsed .. => "seqspec.parser.builder"
  | noSchema .. | dropped _ | generated .. => "seqspec.generator.openapi"
  | shared .. => "seqspec.generator.components"
  | fetching _ => "seqspec.loader"
  | resolved _ => "seqspec.config"

/-- The wording of a record. -/
def message : Event → String
  | tokenized lines tokens => s!"Tokenized {lines} line(s) into {tokens} token(s)"
  | orphan line => s!"Orphaned response at line {line}"
  | parsed interactions participants remarks =>
    s!"Parsed {interactions} interaction(s) across {participants} participant(s), " ++
      s!"{remarks} note(s)"
  | noSchema method path line =>
    s!"Could not infer schema for {method.upperName} {path} (line {line}): " ++
      "maximum recursion depth exceeded while calling a Python object"
  | dropped key => s!"Dropping unrecognised security scheme {Text.quoted key}"
  | shared name uses => s!"Extracted component {name} (used {uses} times)"
  | generated service paths components =>
    s!"Generated {service}: {paths} path(s), {components} component schema(s)"
  | fetching url => s!"Fetching {url}"
  | resolved settings => s!"Resolved config: {settings}"

end Event

/-- The record of an orphaned response. -/
def Remark.event? : Remark → Option Event
  | .orphan r => some (.orphan r.line)
  | .badBody _ => none

/-- The records of building a diagram. -/
def Diagram.events (d : Diagram) : List Event :=
  d.remarks.filterMap Remark.event? ++
    [.parsed d.interactions.length d.participants.length d.remarks.length]

/-- A text as a diagram, with the records of reading it. -/
def Diagram.readRecorded (text : String) : Except UnknownMethod (Diagram × List Event) :=
  match Token.read text with
  | .error e => .error e
  | .ok tokens =>
    let d := Diagram.ofTokens tokens
    .ok (d, .tokenized (trimmedLines text).length tokens.length :: d.events)

end SequenceApi
