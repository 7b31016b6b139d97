import SequenceApi.Event
import SequenceApi.Json.Reader
import SequenceApi.Node.Text
import SequenceApi.Settings.Layer
import SequenceApi.Surroundings
import SequenceApi.Text.LineBreak

/-!
# Finding settings

The user's settings are in a file of the folder for settings, which is made if it is missing; where
that folder is depends on the platform. The project's settings are in a file of the working
directory. Both files hold a JSON object.

## Main definitions

* `Surroundings.settingsFolder`: the folder for the user's settings
* `Surroundings.userFile`, `Surroundings.projectFile`: the two files
* `SettingsFault`: what is wrong with the settings, with its wording
* `Settings.resolve`: the settings that all layers give
-/

namespace SequenceApi

open Text

namespace Surroundings

/-! ## Places -/

/-- The user's home folder. -/
def home (around : Surroundings) : Path :=
  match around.lookup "HOME" with
  | none => Path.ofText around.accountHome
  | some "" => Path.ofText "/"
  | some folder => Path.ofText folder

/-- The platform keeps settings in a folder of its own, or below one that the environment names. -/
def hasSharedFolder (around : Surroundings) : Bool :=
  around.platform == "Linux" || "BSD".toList.isSuffixOf around.platform.toList

/-- The folder for the user's settings. -/
def settingsFolder (around : Surroundings) : Path :=
  if around.hasSharedFolder then
    match around.lookup "XDG_CONFIG_HOME" with
    | none | some "" => around.home.append [".config", "seqspec"]
    | some folder => (Path.ofText folder).append ["seqspec"]
  else around.home.append [".seqspec"]

/-- The file with the user's settings. -/
def userFile (around : Surroundings) : Path :=
  around.settingsFolder.append ["config.json"]

/-- The file with the project's settings. -/
def projectFile : Path :=
  ⟨false, ["seqspec.json"]⟩

end Surroundings

/-! ## Errors -/

/-- What is wrong with the settings. -/
inductive SettingsFault where
  /-- The file at a path, told by a label, is no JSON. -/
  | badJson (label path : String) (e : Json.ReadError)
  /-- The file at a path, told by a label, holds another value than an object. -/
  | notObject (label path : String)
  /-- Some settings are no texts. -/
  | notTexts (count : Nat)
  deriving DecidableEq, Repr

/-- The wording of a fault. -/
def SettingsFault.message : SettingsFault → String
  | badJson label path e => s!"Invalid {label} at {path}: " ++ e.message
  | notObject label path => s!"Invalid {label} at {path}: expected a JSON object"
  | notTexts count =>
    "Invalid configuration: " ++
      (if count = 1 then "1 validation error" else s!"{count} validation errors") ++
      " for GeneratorConfig"

/-- Why there are no settings. -/
inductive ResolveError where
  | settings (fault : SettingsFault)
  /-- A file of settings is no text. -/
  | notText (fault : Utf8Fault)
  /-- A file of settings has a value beyond the limits of the reader. -/
  | json (e : Json.ReadError)
  /-- The folder for settings cannot be made. -/
  | folder (fault : WriteFault)
  deriving DecidableEq, Repr

/-! ## Files -/

/-- The fields that a file gives, where the label and the path are for messages. -/
def fieldsOfFile (label path : String) (bytes : ByteArray) :
    Except ResolveError (Table String Json) :=
  match decoded bytes with
  | .error fault => .error (.notText fault)
  | .ok s =>
    match Json.read (withUnifiedBreaks s) with
    | .ok (.obj fields) => .ok fields
    | .ok _ => .error (.settings (.notObject label path))
    | .error (.syntaxError f line column place) =>
      .error (.settings (.badJson label path (.syntaxError f line column place)))
    | .error e => .error (.json e)

/-- The fields that a file gives; a missing file gives none. -/
def fieldsAt (store : Store) (p : Path) (label path : String) :
    Except ResolveError (Table String Json) :=
  match store.content? p with
  | none => .ok []
  | some bytes => fieldsOfFile label path bytes

/-- The store with the folder for settings. -/
def Store.withSettingsFolder (store : Store) (around : Surroundings) :
    Store × Except WriteFault Unit :=
  store.makeFolderOf around.machine.refuses around.settingsFolder

/-- The layers of settings in a store that has the folder for settings. -/
def Layers.read (around : Surroundings) (store : Store) (choices : Choices) :
    Except ResolveError Layers :=
  match fieldsAt store around.userFile "user config" around.userFile.text with
  | .error e => .error e
  | .ok user =>
    let path := around.workingDirectory ++ "/" ++ Surroundings.projectFile.text
    match fieldsAt store Surroundings.projectFile "project config" path with
    | .error e => .error e
    | .ok project => .ok ⟨user, project, environmentFields around.environment, choices.fields⟩

/-- The settings that all layers give. -/
def Settings.ofLayers (l : Layers) : Except ResolveError Settings :=
  match l.settings with
  | .ok s => .ok s
  | .error count => .error (.settings (.notTexts count))

/-- The settings that the files, the environment and the command line give, and the store, which
has the folder for settings then. -/
def Settings.resolve (around : Surroundings) (store : Store) (choices : Choices) :
    Store × Except ResolveError Settings :=
  match store.withSettingsFolder around with
  | (store, .error fault) => (store, .error (.folder fault))
  | (store, .ok ()) =>
    (store, (Layers.read around store choices).bind Settings.ofLayers)

/-- What is recorded about settings that were found. -/
def Settings.event (s : Settings) : Event :=
  .resolved (Node.ofJson s.toJson).text

end SequenceApi
