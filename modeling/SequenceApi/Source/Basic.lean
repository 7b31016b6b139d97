import SequenceApi.Event
import SequenceApi.Source.Content
import SequenceApi.Surroundings
import SequenceApi.Text.LineBreak
import SequenceApi.Text.LowerCase

/-!
# Sources

Diagrams and documents come from the standard input, from a server, or from a file. The ending of a
file's name, or the media type that a server sends, hints at the form of a document.

## Main definitions

* `Source`: where a text comes from
* `Source.read`: the text of a source, with a hint at its form
* `Source.readDocument`: the document of a source
-/

namespace SequenceApi

open Text

/-- Where a text comes from. -/
inductive Source where
  | standardInput
  | url (address : String)
  | file (path : String)
  deriving DecidableEq, Repr

namespace Source

/-- The addresses of servers start with one of these. -/
def schemes : List String :=
  ["http://", "https://"]

/-- The source that a word of the command line names. -/
def ofText (s : String) : Source :=
  if s = "-" then standardInput
  else if schemes.any fun scheme => scheme.toList.isPrefixOf s.toList then url s
  else file s

/-- A source in messages. -/
def text : Source → String
  | standardInput => "stdin"
  | url address => address
  | file path => path

/-! ## Hints -/

/-- The hint of a file's ending. -/
def endingHint (ending : List Char) : FormHint :=
  let ending := lower ending
  if ending = ".json".toList then .json
  else if ending = ".yaml".toList || ending = ".yml".toList then .yaml
  else .unknown

/-- The hint of a media type. -/
def typeHint (type : String) : FormHint :=
  if occurs "json".toList type.toList then .json
  else if occurs "yaml".toList type.toList || occurs "yml".toList type.toList then .yaml
  else .unknown

/-- The value of a header, whose name is given in lower case; equal headers are joined. -/
def header (name : String) (headers : List (String × String)) : String :=
  joined ", " ((headers.filter fun h => lower h.1.toList == name.toList).map Prod.snd)

/-! ## Reading -/

/-- The text of a file, with its line breaks unified. -/
def readFile (store : Store) (path : String) : Except LoadError (String × FormHint) :=
  let p := Path.ofText path
  if store.hasLongName p then .error .longName
  else
    match store.content? p with
    | none => .error (.input (.notFound path))
    | some bytes =>
      match decoded bytes with
      | .ok s => .ok (withUnifiedBreaks s, endingHint p.suffix)
      | .error fault => .error (.input (.notText path fault))

/-- The text of a reply. -/
def readReply (address : String) : ServerReply → Except LoadError (String × FormHint)
  | .failed reason => .error (.input (.unreachable address reason))
  | .answered status headers body =>
    if 200 ≤ status ∧ status ≤ 299 then .ok (body, typeHint (header "content-type" headers))
    else .error (.input (.httpStatus status address))

/-- The text of a source, with a hint at its form. -/
def read (around : Surroundings) (store : Store) : Source → Except LoadError (String × FormHint)
  | standardInput => .ok (withUnifiedBreaks around.standardInput, .unknown)
  | url address => readReply address (around.fetch address)
  | file path => readFile store path

/-- What is recorded when a source is read. -/
def events : Source → List Event
  | url address => [.fetching address]
  | _ => []

/-- The text of a source. -/
def readText (around : Surroundings) (store : Store) (s : Source) : Except LoadError String :=
  (s.read around store).map Prod.fst

/-- The document of a source, which must not be blank. -/
def readDocument (around : Surroundings) (store : Store) (s : Source) : Except LoadError Node :=
  match s.read around store with
  | .error e => .error e
  | .ok (content, hint) =>
    if isInked content.toList then Content.read hint content
    else .error (.input (.noContent s.text))

end Source

end SequenceApi
