import SequenceApi.Document.Basic
import SequenceApi.Event
import SequenceApi.Schema.Infer
import SequenceApi.Settings.Template

/-!
# Generating documents

Every target of a diagram's interactions is a service with a document of its own. First the shapes
of all bodies are counted for each service; then each interaction adds an operation, which replaces
an earlier one with the same path template and method. A shape that a service has several times
becomes a component.

## Main definitions

* `Usage`: the counted shapes of all services
* `Service.add`: a service with one more interaction
* `Generation.run`: the documents of a diagram, given the counts
* `Diagram.documents`: the documents of a diagram
-/

namespace SequenceApi

/-- How many bodies of each service have each fingerprint. -/
abbrev Usage := Table String (Table String Nat)

namespace Usage

/-- The counts of a service. -/
def of (u : Usage) (service : String) : Table String Nat :=
  (Table.find service u).getD []

/-- The schema of an interaction's body, if it has a body and the body has a schema. -/
def schema? (i : Interaction) : Option Json :=
  match i.body with
  | .null => none
  | body => Schema.ofBody? body

/-- The interaction has a body, but the body has no schema. -/
def lacksSchema (i : Interaction) : Bool :=
  match i.body with
  | .null => false
  | body => (Schema.ofBody? body).isNone

/-- The record of a body without a schema. -/
def noSchema (i : Interaction) : List Event :=
  if lacksSchema i then [.noSchema i.method i.path i.line] else []

/-- The fingerprint by which an interaction is counted: its body has a schema with properties. -/
def shape? (i : Interaction) : Option String :=
  (schema? i).bind fun schema =>
    if (Schema.propertyNames schema).isEmpty then none else some (Schema.fingerprint schema)

/-- The counts with one more interaction. An interaction without a target belongs to no service. -/
def add (u : Usage) (i : Interaction) : Usage :=
  if i.target = "" then u
  else
    match shape? i with
    | some key => Table.put i.target (Registry.count (u.of i.target) key) u
    | none => u

/-- The counts of all interactions. -/
def ofInteractions (interactions : List Interaction) : Usage :=
  interactions.foldl add []

end Usage

/-- A text that is not empty. -/
def nonempty? (s : Option String) : Option String :=
  s.filter (· != "")

/-- A service whose document is in the making. -/
structure Service where
  title : String
  paths : Paths := []
  schemes : Table String Json := []
  registry : Registry := {}
  deriving Repr

namespace Service

/-- What the declarations of one operation require, and the schemes so far. -/
structure Security where
  schemes : Table String Json
  requirements : List Requirement := []
  events : List Event := []

/-- One more declaration: it needs a scheme, which the document may have already, and is required
once. A mechanism that is not known is dropped. -/
def Security.add (settings : Settings) (s : Security) (d : Descriptor) : Security :=
  let require (s : Security) : Security :=
    if s.requirements.any (·.key == d.key) then s
    else { s with requirements := s.requirements ++ [d.requirement] }
  if Table.has d.key s.schemes then require s
  else
    match d.scheme? settings with
    | none => { s with events := s.events ++ [.dropped d.key] }
    | some scheme => require { s with schemes := Table.put d.key scheme s.schemes }

/-- The schema of a response whose body is not known. -/
def emptyObject : Json :=
  .obj [("type", .str "object"), ("example", .obj [])]

/-- The schema of a request body that has none. -/
def anyObject : Json :=
  .obj [("type", .str "object")]

/-- The schema that stands for a body, and the registry after it. -/
structure Placed where
  schema : Json
  registry : Registry
  events : List Event := []

/-- The schema of an interaction's body, or a component in its place; `otherwise` if the body has
no schema. -/
def place (r : Registry) (otherwise : Json) (i : Interaction) : Placed :=
  match Usage.schema? i with
  | none => ⟨otherwise, r, Usage.noSchema i⟩
  | some schema =>
    let x := r.extract schema
    let event? := x.added.map fun name => .shared name (r.uses (Schema.fingerprint schema))
    ⟨x.schema, x.registry, event?.toList⟩

/-- The body of the interaction is sent with the request. -/
def hasRequestBody (i : Interaction) : Bool :=
  i.method.sendsBody &&
    match i.body with
    | .null => false
    | _ => true

/-- The schema of the answer: of the body, unless that is sent with the request. -/
def placeReply (r : Registry) (i : Interaction) : Placed :=
  if i.answer.isNone || i.method.sendsBody then ⟨emptyObject, r, []⟩ else place r emptyObject i

/-- The schema of the request body, if there is one. -/
def placeRequest (r : Registry) (i : Interaction) : Placed :=
  if hasRequestBody i then place r anyObject i else ⟨anyObject, r, []⟩

/-- The media type that an interaction sets, or else that of the settings. -/
def mediaType (own : Option String) (settings : Settings) (x : Setting) : String :=
  (nonempty? own).getD (settings.get x)

/-- The answer of the operation, with the schema of its content. -/
def reply? (settings : Settings) (i : Interaction) (schema : Json) : Option Reply :=
  i.answer.map fun a =>
    { status := if a.status = "" then "200" else a.status
      description := (nonempty? a.description).getD "Response description"
      content := ⟨mediaType i.responseMediaType settings .responseMediaType, schema⟩ }

/-- The operation of an interaction, with what its security requires and the schemas of its
contents. -/
def operation (settings : Settings) (i : Interaction) (security : List Requirement)
    (reply request : Json) : Operation :=
  { summary := (nonempty? i.summary).getD ("Operation for " ++ RequestPath.template i.path)
    description := nonempty? i.description
    tags := i.tags
    operationId := nonempty? i.operationId
    deprecated := i.deprecated
    externalDocs := i.externalDocs
    parameters := RequestPath.parameters i.path
    security
    reply := reply? settings i reply
    requestBody :=
      if hasRequestBody i then
        some ⟨mediaType i.requestMediaType settings .requestMediaType, request⟩
      else none }

/-- The service with the operation of one more interaction, and the records of that. -/
def add (settings : Settings) (s : Service) (i : Interaction) : Service × List Event :=
  let security := i.security.foldl (Security.add settings) { schemes := s.schemes }
  let reply := placeReply s.registry i
  let request := placeRequest reply.registry i
  let o := operation settings i security.requirements reply.schema request.schema
  let template := RequestPath.template i.path
  let operations := (Table.find template s.paths).getD []
  ({ s with
      paths := Table.put template (Table.put i.method o operations) s.paths
      schemes := security.schemes
      registry := request.registry },
    security.events ++ reply.events ++ request.events)

/-- The finished document. -/
def document (settings : Settings) (tags : List String) (s : Service) : Document :=
  { version := settings.get .openapiVersion
    title := s.title
    apiVersion := settings.get .apiVersion
    tags
    paths := s.paths
    securitySchemes := s.schemes
    schemas := s.registry.components }

end Service

/-- The services so far, and what has been recorded. -/
structure Generation where
  services : Table String Service := []
  events : List Event := []

namespace Generation

/-- The title of a service has failed; what has been recorded before stays. -/
structure Failure where
  error : TemplateError
  events : List Event

/-- The service of a name, new with its title if it is not there yet. -/
def service (settings : Settings) (usage : Usage) (g : Generation) (name : String) :
    Except TemplateError Service :=
  match Table.find name g.services with
  | some s => .ok s
  | none =>
    (Template.render (settings.get .titleTemplate) name).map fun title =>
      { title, registry := { usage := usage.of name } }

/-- The services after one more interaction. An interaction without a path or a target adds
nothing. -/
def step (settings : Settings) (usage : Usage) (g : Generation) (i : Interaction) :
    Except Failure Generation :=
  if i.path = "" || i.target = "" then .ok g
  else
    match g.service settings usage i.target with
    | .error e => .error ⟨e, g.events⟩
    | .ok s =>
      let (s, events) := s.add settings i
      .ok ⟨Table.put i.target s g.services, g.events ++ events⟩

/-- The services after some interactions. -/
def steps (settings : Settings) (usage : Usage) : Generation → List Interaction →
    Except Failure Generation
  | g, [] => .ok g
  | g, i :: is =>
    match g.step settings usage i with
    | .ok g => steps settings usage g is
    | .error e => .error e

/-- The record of a finished document. -/
def finished (name : String) (s : Service) : Event :=
  .generated name s.paths.length s.registry.components.length

/-- The tags of all interactions, each once, in order. -/
def tags (interactions : List Interaction) : List String :=
  (interactions.flatMap Interaction.tags).eraseDups

/-- The documents of interactions, where the shapes are counted by `usage`, and all records. -/
def run (settings : Settings) (usage : Usage) (interactions : List Interaction) :
    Except Failure (Table String Document × List Event) :=
  let counted := (interactions.filter (·.target != "")).flatMap Usage.noSchema
  (steps settings usage ⟨[], counted⟩ interactions).map fun g =>
    (g.services.map fun (name, s) => (name, s.document settings (tags interactions)),
      g.events ++ g.services.map fun (name, s) => finished name s)

end Generation

/-- The documents of a diagram by service, in order of first appearance, and all records. -/
def Diagram.generate (settings : Settings) (d : Diagram) :
    Except Generation.Failure (Table String Document × List Event) :=
  Generation.run settings (Usage.ofInteractions d.interactions) d.interactions

/-- The documents of a diagram by service. -/
def Diagram.documents (settings : Settings) (d : Diagram) :
    Except TemplateError (Table String Document) :=
  match d.generate settings with
  | .ok (documents, _) => .ok documents
  | .error e => .error e.error

/-- The documents as one JSON object. -/
def Document.mapJson (documents : Table String Document) : Json :=
  .obj (documents.map fun (name, d) => (name, d.toJson))

end SequenceApi
