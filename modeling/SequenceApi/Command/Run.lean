import SequenceApi.Command.Invocation
import SequenceApi.Diagram.Check
import SequenceApi.Document.Generate
import SequenceApi.Document.Services
import SequenceApi.Settings.Resolve
import SequenceApi.Source.Basic

/-!
# Running commands

A command reads its input, may write files, and says what it has to say. What it says and does is
the same in every presentation; only afterwards a presentation decides what is printed. A message
that cannot be printed breaks the run off, and what the run did after it does not count.

## Main definitions

* `ExitCode`, `Crash`, `Ending`: how a run ends
* `Session`: a run in progress
* `Command.session`: what each command does
* `Outcome`: the end of a run, with `Outcome.shown` what it prints, `Outcome.ending` how it ends
  and `Outcome.files` what it leaves
-/

namespace SequenceApi

open Text

/-! ## Endings -/

/-- The code with which the program ends. -/
inductive ExitCode where
  | success
  | failure
  | invalidUsage
  | validationFailed
  | inputError
  deriving DecidableEq, Repr

/-- The number of a code. -/
def ExitCode.number : ExitCode → Nat
  | success => 0
  | failure => 1
  | invalidUsage => 2
  | validationFailed => 3
  | inputError => 7

/-- A fault for which no message is provided: it breaks the run off. -/
inductive Crash where
  | method (e : UnknownMethod)
  | template (e : TemplateError)
  | check (e : CheckFailure)
  | json (e : Json.ReadError)
  | yaml (e : Yaml.ReadError)
  | notText (e : Utf8Fault)
  | write (e : WriteFault)
  /-- The name of a source is longer than names can be. -/
  | longName
  /-- A message cannot be printed. -/
  | print (e : PrintFault)

/-- The wording of a fault that breaks a run off. -/
def Crash.message : Crash → String
  | method e => e.message
  | template e => "Invalid title template: " ++ e.message
  | check e => e.message
  | json e => e.message
  | yaml e => e.message
  | notText e => e.message
  | write e => "Failed to write: " ++ e.message
  | longName => "The name of the source is too long"
  | print e => e.message

/-- How a run ends. -/
inductive Ending where
  | exit (code : ExitCode)
  /-- The command line has no meaning. -/
  | misuse
  | crash (c : Crash)

/-! ## Sessions -/

/-- Something said, with the files and folders as they were then. -/
structure Said where
  message : Message
  store : Store

/-- What a run has done so far. -/
structure Progress where
  store : Store
  said : List Said := []

/-- A run in progress; it can end early. -/
abbrev Session (α : Type) := ExceptT Ending (StateM Progress) α

namespace Session

/-- Says something. -/
def say (m : Message) : Session Unit :=
  modify fun p => { p with said := p.said ++ [⟨m, p.store⟩] }

/-- Says several things. -/
def sayAll (ms : List Message) : Session Unit :=
  modify fun p => { p with said := p.said ++ ms.map (⟨·, p.store⟩) }

/-- Ends the run. -/
def finish {α : Type} (code : ExitCode) : Session α :=
  throw (.exit code)

/-- Breaks the run off. -/
def crash {α : Type} (c : Crash) : Session α :=
  throw (.crash c)

/-- Tells an error and ends the run. -/
def refuse {α : Type} (code : ExitCode) (text : String) : Session α := do
  say (.error text)
  finish code

/-- The files and folders as they are now. -/
def store : Session Store := do
  return (← get).store

/-- Takes over the files and folders of a step. -/
def setStore (s : Store) : Session Unit :=
  modify fun p => { p with store := s }

/-! ## Inputs -/

/-- The value of a source, or the end of the run. -/
def ofLoad {α : Type} (x : Except LoadError α) : Session α :=
  match x with
  | .ok a => pure a
  | .error (.input fault) => refuse .inputError fault.message
  | .error (.json e) => crash (.json e)
  | .error (.yaml e) => crash (.yaml e)
  | .error .longName => crash .longName

/-- The text of a source. -/
def readText (around : Surroundings) (source : String) : Session String := do
  let s := Source.ofText source
  sayAll (s.events.map .record)
  ofLoad (s.readText around (← store))

/-- The document of a source. -/
def readDocument (around : Surroundings) (source : String) : Session Node := do
  let s := Source.ofText source
  sayAll (s.events.map .record)
  ofLoad (s.readDocument around (← store))

/-- The settings for a run. -/
def settings (around : Surroundings) (choices : Choices) : Session Settings := do
  let (s, result) := Settings.resolve around (← store) choices
  setStore s
  match result with
  | .ok settings =>
    say (.record settings.event)
    return settings
  | .error (.settings fault) => refuse .failure fault.message
  | .error (.notText fault) => crash (.notText fault)
  | .error (.json e) => crash (.json e)
  | .error (.folder fault) => crash (.write fault)

/-- The diagram of a text. -/
def diagram (text : String) : Session Diagram :=
  match Diagram.readRecorded text with
  | .error e => crash (.method e)
  | .ok (d, events) => do
    sayAll (events.map .record)
    return d

/-! ## Outputs -/

/-- Writes a file and tells so. -/
def write (around : Surroundings) (path : Path) (text : String) : Session Unit := do
  let (s, result) := (← store).writeWhole around.machine path text
  setStore s
  match result with
  | .ok () => say (.success ("Wrote " ++ path.text))
  | .error e => crash (.write e)

/-- Tells a report; errors end the run. -/
def report (r : Report) : Session Unit := do
  say (.report r)
  if !r.valid then finish .validationFailed

end Session

/-! ## Commands -/

open Session

/-- The format that settings choose, in any case of letters. -/
def Settings.format? (s : Settings) : Option DocumentFormat :=
  DocumentFormat.ofName? (String.ofList (lower (s.get .outputFormat).toList))

/-- The wording about a format that is none. -/
def unsupportedFormat (name : String) : String :=
  s!"Unsupported document format: {name} (expected one of: " ++
    joined ", " (DocumentFormat.all.map DocumentFormat.name) ++ ")"

/-- The wording about a service that has no document. -/
def unknownService (name : String) (available : List String) : String :=
  s!"Unknown service: {name} (available: " ++ joined ", " available ++ ")"

/-- What is told about a remark of the reader. -/
def Remark.warning (r : Remark) : Message :=
  .warning (s!"Line {r.line}: " ++ r.message)

/-- The documents of a diagram by service, and what is recorded and told about them. -/
def Session.documents (d : Diagram) (s : Settings) : Session (Table String Document) := do
  match d.generate s with
  | .error failure =>
    sayAll (failure.events.map .record)
    crash (.template failure.error)
  | .ok (documents, events) =>
    sayAll (events.map .record)
    say (.debug (s!"Generated {documents.length} document(s) from " ++
      s!"{d.interactions.length} interaction(s)"))
    return documents

/-- The documents of the services that are wanted. -/
def Session.choose (documents : Table String Document) :
    Option String → Session (Table String Document)
  | none => pure documents
  | some service =>
    match Table.find service documents with
    | some d => pure [(service, d)]
    | none => refuse .invalidUsage (unknownService service (Table.keys documents))

/-- Writes the documents of services, each to a file in a folder. -/
def Session.writeDocuments (around : Surroundings) (folder : Path) (format : DocumentFormat) :
    Table String Document → Session Unit
  | [] => pure ()
  | (service, d) :: rest => do
    write around (folder.append [format.fileName service]) (format.render d.toJson)
    writeDocuments around folder format rest

/-- Shows the documents of services: the one that is wanted, or all as one map. -/
def Session.showDocuments (format : DocumentFormat) (wanted : Option String)
    (documents : Table String Document) : Session Unit := do
  match wanted, documents with
  | some _, [(_, d)] => say (.document format d.toJson)
  | _, _ => say (.document format (Document.mapJson documents))
  say (.info (s!"{documents.length} service(s): " ++ joined ", " (Table.keys documents)))

/-- A diagram as documents, shown or written to a folder. -/
def GenerateRequest.session (r : GenerateRequest) (around : Surroundings) : Session Unit := do
  let folder := r.folder.map Path.ofText
  if folder.any (← store).isFile then throw .misuse
  let s ← settings around r.choices
  match s.format? with
  | none => refuse .invalidUsage (unsupportedFormat (s.get .outputFormat))
  | some format =>
    let text ← readText around r.source
    if r.strict && !(Diagram.check text).valid then report (Diagram.check text)
    let d ← diagram text
    sayAll (d.remarks.map Remark.warning)
    let documents ← Session.documents d s
    if documents.isEmpty then
      say (.warning "No requests found; nothing to generate")
      say (.suggestion "Add lines like: Client->>API: GET /users")
    else
      let chosen ← choose documents r.service
      match folder with
      | some folder => writeDocuments around folder format chosen
      | none => showDocuments format r.service chosen

/-- The strict check of a diagram. -/
def validateSession (around : Surroundings) (source : String) : Session Unit := do
  report (Diagram.check (← readText around source))

/-- The check of a document, or of a map of documents. -/
def checkSession (around : Surroundings) (source : String) : Session Unit := do
  match (← readDocument around source).checkAny with
  | .ok r => report r
  | .error e => crash (.check e)

/-- Shows the settings that count. -/
def showSettingsSession (around : Surroundings) : Session Unit := do
  let s ← settings around {}
  say (.info ("User config: " ++ around.userFile.text))
  say (.document .json s.toJson)

/-- Writes the default settings to the user's file. -/
def initSettingsSession (around : Surroundings) (force : Bool) : Session Unit := do
  let (s, result) := (← store).withSettingsFolder around
  setStore s
  match result with
  | .error e => crash (.write e)
  | .ok () =>
    if s.isFile around.userFile && !force then
      refuse .invalidUsage ("Config file already exists: " ++ around.userFile.text)
    else write around around.userFile (DocumentFormat.json.render Settings.defaults.toJson)

/-- What a command does. -/
def Command.session (around : Surroundings) : Command → Session Unit
  | .generate r => r.session around
  | .validate source => validateSession around source
  | .check source => checkSession around source
  | .showSettings => showSettingsSession around
  | .initSettings force => initSettingsSession around force

/-! ## Outcomes -/

/-- The end of a run: the files, what was said, and how it ended before anything was printed. -/
structure Outcome where
  store : Store
  said : List Said
  ended : Ending

/-- The outcome of a session. -/
def Session.outcome (s : Session Unit) (store : Store) : Outcome :=
  match s.run ⟨store, []⟩ with
  | (.ok (), p) => ⟨p.store, p.said, .exit .success⟩
  | (.error e, p) => ⟨p.store, p.said, e⟩

/-- The outcome of a command. -/
def Command.outcome (c : Command) (around : Surroundings) (store : Store) : Outcome :=
  (c.session around).outcome store

namespace Outcome

/-- All messages, in order. -/
def messages (o : Outcome) : List Message :=
  o.said.map (·.message)

/-- What a run prints. -/
def shown (o : Outcome) (p : Presentation) : Shown :=
  Shown.ofMessages p o.messages

/-- How a run ends: a message that cannot be printed breaks it off. -/
def ending (o : Outcome) (p : Presentation) : Ending :=
  match (o.shown p).broken with
  | some f => .crash (.print f)
  | none => o.ended

/-- The first message that cannot be printed. -/
def unprinted? (o : Outcome) (p : Presentation) : Option Said :=
  o.said.find? fun s => (s.message.shown p).broken.isSome

/-- The files and folders that a run leaves: those at its end, or when it broke off. -/
def files (o : Outcome) (p : Presentation) : Store :=
  match o.unprinted? p with
  | some s => s.store
  | none => o.store

end Outcome

end SequenceApi
