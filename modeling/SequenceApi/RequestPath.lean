import SequenceApi.Json.Basic
import SequenceApi.Text.Scan

/-!
# Paths of requests

A request path is a template, and after the first question mark a query. Placeholders of the
template stand in braces; pairs of the query are separated by ampersands.

## Main definitions

* `RequestPath.template`, `RequestPath.query`: the two parts
* `Parameter`, `RequestPath.parameters`: the parameters that a path declares
* `PathFault`, `RequestPath.faults`: what is wrong with the braces of a template
-/

namespace SequenceApi

open Text

/-- A parameter of an operation. -/
inductive Parameter where
  /-- An optional parameter of the query, with an example of its value. -/
  | query (name example_ : String)
  /-- A required parameter of the template. -/
  | path (name : String)
  deriving DecidableEq, Repr

/-- The parameter as it stands in a document. -/
def Parameter.toJson : Parameter → Json
  | .query name value =>
    .obj [("name", .str name), ("in", .str "query"),
      ("schema", .obj [("type", .str "string"), ("example", .str value)])]
  | .path name =>
    .obj [("name", .str name), ("in", .str "path"), ("required", .bool true),
      ("schema", .obj [("type", .str "string")])]

/-- What is wrong with the braces of a template. -/
inductive PathFault where
  | doubleBrace
  | unmatchedBrace
  | adjacentGroups
  deriving DecidableEq, Repr

namespace RequestPath

/-- The part before the first question mark. -/
def templateChars (cs : List Char) : List Char :=
  (cut '?' cs).1

/-- The part before the first question mark. -/
def template (path : String) : String :=
  String.ofList (templateChars path.toList)

/-- The part after the first question mark. -/
def queryChars (cs : List Char) : List Char :=
  ((cut '?' cs).2).getD []

/-- The parameter of one pair: a key, and a value after the first equals sign. A pair without a key
is none. -/
def pairParameter? (pair : List Char) : Option Parameter :=
  let (key, value) := cut '=' pair
  if key.isEmpty then none
  else some (.query (String.ofList key) (String.ofList (value.getD [])))

/-- The parameters of a query, in order. -/
def queryParameters (query : List Char) : List Parameter :=
  if query.isEmpty then [] else (pieces '&' query).filterMap pairParameter?

/-- The name in braces at the start of a text: at least one character, and none of them a closing
brace. -/
def groupHere? : List Char → Option (List Char × Nat)
  | '\x7b' :: rest =>
    match cut '\x7d' rest with
    | (name, some _) => if name.isEmpty then none else some (name, name.length + 2)
    | (_, none) => none
  | _ => none

/-- The names in braces, in order. -/
def groups (template : List Char) : List (List Char) :=
  allMatches groupHere? 0 template

/-- The parameters of a path: those of the query, and after them those of the template. -/
def parameters (path : String) : List Parameter :=
  queryParameters (queryChars path.toList) ++
    (groups (templateChars path.toList)).map fun name => .path (String.ofList name)

/-! ## Braces -/

/-- Inside `depth` open braces, the rest closes each of them and no other. -/
def isBalanced : Nat → List Char → Bool
  | depth, [] => depth == 0
  | depth, c :: cs =>
    if c == '\x7b' then isBalanced (depth + 1) cs
    else if c == '\x7d' then
      match depth with
      | 0 => false
      | d + 1 => isBalanced d cs
    else isBalanced depth cs

/-- What is wrong with the braces of a path's template, in a fixed order. -/
def faults (path : String) : List PathFault :=
  let t := templateChars path.toList
  (if occurs ['\x7b', '\x7b'] t then [.doubleBrace] else []) ++
    (if isBalanced 0 t then [] else [.unmatchedBrace]) ++
    (if occurs ['\x7d', '\x7b'] t then [.adjacentGroups] else [])

end RequestPath

end SequenceApi
