import SequenceApi.Note.Security
import SequenceApi.Settings.Basic

/-!
# Security schemes

A document declares a scheme for each known mechanism of authentication, and an operation requires
schemes by their names.

## Main definitions

* `Descriptor.scheme?`: the scheme of a declared mechanism, if it is known
* `Requirement`: a scheme that an operation requires, with scopes
-/

namespace SequenceApi

/-- A scheme that an operation requires. -/
structure Requirement where
  key : String
  scopes : List String
  deriving DecidableEq, Repr

/-- The requirement as it stands in a document. -/
def Requirement.toJson (r : Requirement) : Json :=
  .obj [(r.key, Json.strs r.scopes)]

namespace Descriptor

/-- The scheme of a declared mechanism. A mechanism that is not known has none. -/
def scheme? (d : Descriptor) (s : Settings) : Option Json :=
  match d.mechanism with
  | .bearer =>
    some (.obj [("type", .str "http"), ("scheme", .str "bearer"), ("bearerFormat", .str "JWT")])
  | .basic => some (.obj [("type", .str "http"), ("scheme", .str "basic")])
  | .apiKey place =>
    some (.obj [("type", .str "apiKey"), ("name", .str (s.get .apiKeyHeader)),
      ("in", .str place.name)])
  | .oauth2 scopes =>
    let permissions := Table.ofEntries (scopes.map fun x => (x, Json.str (x ++ " permission")))
    some (.obj [("type", .str "oauth2"), ("flows", .obj [("implicit", .obj
      [("authorizationUrl", .str (s.get .oauth2AuthorizationUrl)),
        ("scopes", .obj permissions)])])])
  | .openIdConnect =>
    some (.obj [("type", .str "openIdConnect"),
      ("openIdConnectUrl", .str (s.get .openidConnectUrl))])
  | .custom => none

/-- What an operation requires by a declaration. -/
def requirement (d : Descriptor) : Requirement :=
  ⟨d.key, d.mechanism.scopes⟩

end Descriptor

end SequenceApi
