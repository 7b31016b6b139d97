import SequenceApi.Settings.Basic

/-!
# Layers of settings

Settings are given in four layers: the user's file, the project's file, variables of the environment
and the command line. Each setting has the value of the last layer that gives one, whatever that
value is, or else its default.

## Main definitions

* `Layers`: the fields of the four layers
* `Layers.merged`: the fields that count
* `Layers.settings`: the settings that they give
* `environmentFields`: the fields that the environment gives
* `Choices`: the fields that the command line gives
-/

namespace SequenceApi

/-- The fields that each layer gives, from the weakest to the strongest. -/
structure Layers where
  user : Table String Json
  project : Table String Json
  environment : Table String Json
  command : Table String Json

namespace Layers

/-- The fields that count: under each key the value of the strongest layer. -/
def merged (l : Layers) : Table String Json :=
  Table.putAll (Table.putAll (Table.putAll l.user l.project) l.environment) l.command

/-- The settings of all layers, or the number of fields that are no texts. -/
def settings (l : Layers) : Except Nat Settings :=
  Settings.ofTable l.merged

end Layers

/-! ## The environment -/

/-- The variables that give settings. -/
def environmentSettings : List (String × Setting) :=
  [("SEQSPEC_OPENAPI_VERSION", .openapiVersion), ("SEQSPEC_API_VERSION", .apiVersion),
    ("SEQSPEC_FORMAT", .outputFormat)]

/-- The fields that the environment gives. An empty variable gives none. -/
def environmentFields (environment : Table String String) : Table String Json :=
  environmentSettings.filterMap fun (name, setting) =>
    match Table.find name environment with
    | none | some "" => none
    | some value => some (setting.key, .str value)

/-! ## The command line -/

/-- The settings that a command line can choose. -/
structure Choices where
  openapiVersion : Option String := none
  apiVersion : Option String := none
  outputFormat : Option String := none
  deriving DecidableEq, Repr

/-- The fields that a command line gives. -/
def Choices.fields (c : Choices) : Table String Json :=
  [(Setting.openapiVersion, c.openapiVersion), (.apiVersion, c.apiVersion),
    (.outputFormat, c.outputFormat)].filterMap fun (setting, value) =>
      value.map fun v => (setting.key, .str v)

end SequenceApi
