import SequenceApi.Diagram.Basic
import SequenceApi.Document.Scheme
import SequenceApi.RequestPath
import SequenceApi.Schema.Registry

/-!
# Documents

The document of a service lists its operations by path template and method, and the components that
they refer to.

## Main definitions

* `Operation`: an operation of a service
* `Document`: the document of a service
* `Document.toJson`: the document as a JSON value
-/

namespace SequenceApi

/-- A schema behind a media type. -/
structure Content where
  mediaType : String
  schema : Json
  deriving Repr

/-- The content as it stands in a document. -/
def Content.toJson (c : Content) : Json :=
  .obj [(c.mediaType, .obj [("schema", c.schema)])]

/-- The answer of an operation. -/
structure Reply where
  status : String
  description : String
  content : Content
  deriving Repr

/-- The answers of an operation as they stand in a document. -/
def Reply.toJson : Option Reply → Json
  | none => .obj []
  | some r =>
    .obj [(r.status, .obj [("description", .str r.description), ("content", r.content.toJson)])]

/-- An operation of a service. -/
structure Operation where
  summary : String
  description : Option String
  tags : List String
  operationId : Option String
  deprecated : Bool
  externalDocs : Option ExternalDocs
  parameters : List Parameter
  security : List Requirement
  reply : Option Reply
  requestBody : Option Content
  deriving Repr

/-- The link to other documentation as it stands in a document. -/
def ExternalDocs.toJson (d : ExternalDocs) : Json :=
  Json.ofSome [("url", d.url.map .str), ("description", d.description.map .str)]

/-- A list as a field, unless it is empty. -/
def listField (items : List Json) : Option Json :=
  if items.isEmpty then none else some (.arr items)

/-- A table as a field, unless it is empty. -/
def tableField (fields : Table String Json) : Option Json :=
  if fields.isEmpty then none else some (.obj fields)

/-- The operation as it stands in a document: empty lists and what is not set are left out. -/
def Operation.toJson (o : Operation) : Json :=
  Json.ofSome
    [("summary", some (.str o.summary)),
      ("description", o.description.map .str),
      ("tags", listField (o.tags.map .str)),
      ("operationId", o.operationId.map .str),
      ("deprecated", if o.deprecated then some (.bool true) else none),
      ("externalDocs", o.externalDocs.map ExternalDocs.toJson),
      ("parameters", listField (o.parameters.map Parameter.toJson)),
      ("security", listField (o.security.map Requirement.toJson)),
      ("responses", some (Reply.toJson o.reply)),
      ("requestBody", o.requestBody.map fun c =>
        .obj [("required", .bool true), ("content", c.toJson)])]

/-- The operations of a service by path template and method. -/
abbrev Paths := Table String (Table Method Operation)

/-- The operations under one path. -/
def pathItem (operations : Table Method Operation) : Json :=
  .obj (operations.map fun (m, o) => (m.name, o.toJson))

/-- The document of a service. -/
structure Document where
  version : String
  title : String
  apiVersion : String
  tags : List String
  paths : Paths
  securitySchemes : Table String Json
  schemas : Table String Json
  deriving Repr

/-- The document as a JSON value. Components that are empty are left out. -/
def Document.toJson (d : Document) : Json :=
  let components := [("securitySchemes", tableField d.securitySchemes),
    ("schemas", tableField d.schemas)].filterMap fun (k, v) => v.map (k, ·)
  Json.ofSome
    [("openapi", some (.str d.version)),
      ("info", some (.obj [("title", .str d.title), ("version", .str d.apiVersion)])),
      ("tags", listField (d.tags.map fun t => .obj [("name", .str t)])),
      ("paths", some (.obj (d.paths.map fun (p, ops) => (p, pathItem ops)))),
      ("components", tableField components)]

end SequenceApi
