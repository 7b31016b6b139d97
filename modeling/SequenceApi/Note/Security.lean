import SequenceApi.Note.Value
import SequenceApi.Text.LowerCase

/-!
# Security declarations in notes

Every `Security:` of a note declares a mechanism by which requests are authenticated. The known
mechanisms are recognised in any case; what else is declared is kept as it is.

## Main definitions

* `Mechanism`: the known mechanisms
* `Descriptor`: a declaration with its text
* `Descriptor.key`: the name of its scheme in a document
* `Descriptor.ofText`, `Descriptor.ofNote`: the declaration of a text, and those of a note
-/

namespace SequenceApi

open Text

/-- Where the key of an API is sent. -/
inductive KeyPlace where
  | header
  | query
  deriving DecidableEq, Repr

/-- The name of a place. -/
def KeyPlace.name : KeyPlace → String
  | .header => "header"
  | .query => "query"

/-- A mechanism of authentication. -/
inductive Mechanism where
  | bearer
  | basic
  | apiKey (place : KeyPlace)
  | oauth2 (scopes : List String)
  | openIdConnect
  | custom
  deriving DecidableEq, Repr

/-- The name of a mechanism. -/
def Mechanism.name : Mechanism → String
  | .bearer => "bearer"
  | .basic => "basic"
  | .apiKey _ => "apiKey"
  | .oauth2 _ => "oauth2"
  | .openIdConnect => "openIdConnect"
  | .custom => "custom"

/-- The scopes that a mechanism asks for. -/
def Mechanism.scopes : Mechanism → List String
  | .oauth2 scopes => scopes
  | _ => []

/-- A declared mechanism, with the text that declares it. -/
structure Descriptor where
  mechanism : Mechanism
  raw : String
  deriving DecidableEq, Repr

namespace Descriptor

/-- The name of the scheme in a document. A mechanism that is not known has its text for a name. -/
def key (d : Descriptor) : String :=
  match d.mechanism with
  | .bearer => "bearerAuth"
  | .basic => "basicAuth"
  | .apiKey place => "apiKey_" ++ place.name
  | .oauth2 [] => "oauth2"
  | .oauth2 scopes => "oauth2:" ++ joined "," scopes
  | .openIdConnect => "openIdConnect"
  | .custom => d.raw

/-- The place of a key that is named after `apiKey in`. -/
def placeHere? (cs : List Char) : Option KeyPlace :=
  let gap? (cs : List Char) : Option (List Char) :=
    match cs with
    | c :: rest => if isBlank c then some (skipBlanks rest) else none
    | [] => none
  match ((dropWord? "apikey" cs).bind gap?).bind fun rest => (dropWord? "in" rest).bind gap? with
  | none => none
  | some rest =>
    if (dropWord? "header" rest).isSome then some .header
    else if (dropWord? "query" rest).isSome then some .query
    else none

/-- The scopes in brackets after `oauth2`, on one line. -/
def scopesHere? (cs : List Char) : Option (List String) :=
  match (dropWord? "oauth2" cs).map skipBlanks with
  | some ('[' :: rest) =>
    match cut ']' rest with
    | (inside, some _) => if inside.contains '\n' then none else some (Note.listed inside)
    | (_, none) => none
  | _ => none

/-- The mechanism that a trimmed text declares. -/
def mechanismOf (cs : List Char) : Mechanism :=
  let lowered := lower cs
  if lowered = "bearerauth".toList then .bearer
  else if lowered = "basicauth".toList then .basic
  else if "apikey".toList.isPrefixOf lowered then
    .apiKey ((firstMatch (fun _ here => placeHere? here) none cs).getD .header)
  else if "oauth2".toList.isPrefixOf lowered then
    .oauth2 ((firstMatch (fun _ here => scopesHere? here) none cs).getD [])
  else if "openid".toList.isPrefixOf lowered then .openIdConnect
  else .custom

/-- The declaration of a trimmed text. -/
def ofText (cs : List Char) : Descriptor :=
  ⟨mechanismOf cs, String.ofList cs⟩

/-- The declarations in a note, in order. -/
def ofNote (content : String) : List Descriptor :=
  (allMatches (Note.valueOf? "security:") 0 (Note.expandLines content.toList)).map
    fun value => ofText (trim value)

end Descriptor

end SequenceApi
