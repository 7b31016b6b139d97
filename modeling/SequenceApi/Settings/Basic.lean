import SequenceApi.Json.Basic

/-!
# Settings

Nine texts shape the generated documents. They come as the fields of a JSON object: an absent field
has its default, and other fields are passed over.

## Main definitions

* `Setting`: the nine settings, with their keys and defaults
* `Settings`: a text for each of them
* `Settings.ofTable`: the settings of an object, or how many of its fields are no texts
-/

namespace SequenceApi

/-- A setting. -/
inductive Setting where
  | openapiVersion
  | apiVersion
  | titleTemplate
  | requestMediaType
  | responseMediaType
  | apiKeyHeader
  | oauth2AuthorizationUrl
  | openidConnectUrl
  | outputFormat
  deriving DecidableEq, Repr

namespace Setting

/-- All settings, in the order in which they are shown. -/
def all : List Setting :=
  [openapiVersion, apiVersion, titleTemplate, requestMediaType, responseMediaType, apiKeyHeader,
    oauth2AuthorizationUrl, openidConnectUrl, outputFormat]

/-- The key of a setting in an object. -/
def key : Setting → String
  | openapiVersion => "openapi_version"
  | apiVersion => "api_version"
  | titleTemplate => "title_template"
  | requestMediaType => "request_media_type"
  | responseMediaType => "response_media_type"
  | apiKeyHeader => "api_key_header"
  | oauth2AuthorizationUrl => "oauth2_authorization_url"
  | openidConnectUrl => "openid_connect_url"
  | outputFormat => "output_format"

/-- The text of a setting that is not given. -/
def default : Setting → String
  | openapiVersion => "3.0.0"
  | apiVersion => "1.0.0"
  | titleTemplate => "\x7bservice\x7d API"
  | requestMediaType | responseMediaType => "application/json"
  | apiKeyHeader => "X-API-Key"
  | oauth2AuthorizationUrl => "https://example.com/oauth/authorize"
  | openidConnectUrl => "https://example.com/.well-known/openid-configuration"
  | outputFormat => "yaml"

end Setting

/-- A text for each setting. -/
structure Settings where
  get : Setting → String

namespace Settings

/-- All settings at their defaults. -/
def defaults : Settings :=
  ⟨Setting.default⟩

/-- The settings as fields, in order. -/
def toTable (s : Settings) : Table String Json :=
  Setting.all.map fun x => (x.key, .str (s.get x))

/-- The settings as a JSON object. -/
def toJson (s : Settings) : Json :=
  .obj s.toTable

/-- The field of a setting is given and is no text. -/
def isWrong (t : Table String Json) (x : Setting) : Bool :=
  match Table.find x.key t with
  | none | some (.str _) => false
  | some _ => true

/-- The text of a setting among fields. -/
def read (t : Table String Json) (x : Setting) : String :=
  ((Table.find x.key t).bind Json.str?).getD x.default

/-- The settings that fields give, or the number of fields that are no texts. -/
def ofTable (t : Table String Json) : Except Nat Settings :=
  match (Setting.all.filter (isWrong t)).length with
  | 0 => .ok ⟨read t⟩
  | n + 1 => .error (n + 1)

end Settings

end SequenceApi
