import SequenceApi.Issue
import SequenceApi.Node.Text
import SequenceApi.Reference.Cycle

/-!
# Findings in documents

What the check of documents can find, with its wording.

## Main definitions

* `DocumentFault`: the causes
* `DocumentFault.message`, `DocumentFault.suggestion`: their wording
* `Objection`: a cause at a place of a document
-/

namespace SequenceApi

open Text

/-- The keys of operations in a path item. -/
def operationKeys : List String :=
  ["get", "post", "put", "delete", "patch", "options", "head", "trace"]

/-- The places where parameters may be. -/
def parameterPlaces : List String :=
  ["path", "query", "header", "cookie"]

/-- What has a content. -/
inductive ContentOwner where
  | response
  | requestBody
  deriving DecidableEq, Repr

/-- The name of what has a content. -/
def ContentOwner.name : ContentOwner → String
  | .response => "Response"
  | .requestBody => "Request body"

/-- What can be wrong with a document. -/
inductive DocumentFault where
  | noMapping (type : String)
  | noVersion
  | noInfo
  | noTitle
  | noApiVersion
  | noPaths
  | versionType (type : String)
  | oldVersion (version : String)
  | unknownMethod (key : String)
  | noResponses
  | badResponses
  | badStatus (status : String)
  | noContent (owner : ContentOwner)
  | noSchema (mediaType : String)
  | badParameters
  | badPlace (place : String)
  | optionalPath (name : String)
  | badRef (fault : ReferenceFault)
  | cycle (c : Cycle)
  | noOperations (service : String)
  | sharedId (operationId : String)
  deriving DecidableEq, Repr

namespace DocumentFault

/-- A path parameter that is not required and a service without operations are warnings, all else is
an error. -/
def severity : DocumentFault → Severity
  | .optionalPath _ | .noOperations _ => .warning
  | _ => .error

/-- The wording of a fault of a reference. -/
def refMessage : ReferenceFault → String
  | .foreign ref => s!"Invalid reference format: \"{ref}\""
  | .dangling ref => s!"Invalid reference: \"{ref}\" does not exist"

/-- The wording of a fault. -/
def message : DocumentFault → String
  | .noMapping _ => "OpenAPI document must be a mapping"
  | .noVersion => "Missing required field: \"openapi\""
  | .noInfo => "Missing required field: \"info\""
  | .noTitle => "Missing required field: \"info.title\""
  | .noApiVersion => "Missing required field: \"info.version\""
  | .noPaths => "Missing required field: \"paths\""
  | .versionType _ => "Invalid \"openapi\" field type"
  | .oldVersion version => s!"Unsupported OpenAPI version: \"{version}\""
  | .unknownMethod key => s!"Invalid HTTP method: \"{key}\""
  | .noResponses => "Operation missing \"responses\" field"
  | .badResponses => "\"responses\" must be a mapping of status codes"
  | .badStatus status => s!"Invalid status code: \"{status}\""
  | .noContent owner => s!"{owner.name} missing \"content\" field"
  | .noSchema mediaType => s!"Media type \"{mediaType}\" missing \"schema\" field"
  | .badParameters => "Parameters must be an array"
  | .badPlace place => s!"Invalid parameter location: \"{place}\""
  | .optionalPath name => s!"Path parameter \"{name}\" is not marked as required"
  | .badRef fault => refMessage fault
  | .cycle c => "Circular reference detected: " ++ joined " -> " c.walk
  | .noOperations service => s!"Service \"{service}\" has no operations defined"
  | .sharedId operationId => s!"Duplicate operationId \"{operationId}\" found in multiple services"

/-- How to mend a fault of a reference. -/
def refSuggestion : ReferenceFault → String
  | .foreign _ => "References should start with \"#/\" for JSON Pointers"
  | .dangling _ => "Ensure the referenced component is defined"

/-- How to mend a fault. -/
def suggestion : DocumentFault → Option String
  | .noMapping _ => some "Provide a valid OpenAPI specification object"
  | .noVersion => some "Add the \"openapi\" field with version \"3.0.0\" or higher"
  | .noInfo => some "Add an \"info\" object with title and version"
  | .noTitle => some "Add a title to the info object"
  | .noApiVersion => some "Add a version to the info object"
  | .noPaths => some "Add a \"paths\" object defining your API endpoints"
  | .versionType _ => some "The \"openapi\" field must be a string"
  | .oldVersion _ => some "Use OpenAPI 3.0.x (e.g., \"3.0.0\")"
  | .unknownMethod _ => some ("Use one of: " ++ joined ", " operationKeys)
  | .noResponses => some "Add a \"responses\" object with at least one response"
  | .badResponses => none
  | .badStatus _ => some "Use a 3-digit status code between 100 and 599, or \"default\""
  | .noContent _ => some "Add a \"content\" object with at least one media type"
  | .noSchema _ => some "Add a \"schema\" object defining the data structure"
  | .badParameters => some "Convert parameters to an array"
  | .badPlace _ => some ("Use one of: " ++ joined ", " parameterPlaces)
  | .optionalPath _ => some "Path parameters must be marked as required: true"
  | .badRef fault => some (refSuggestion fault)
  | .cycle _ => some "Restructure your schema to avoid circular dependencies"
  | .noOperations _ => some "Add at least one operation to the service"
  | .sharedId _ => some "Operation IDs must be unique across all services"

end DocumentFault

/-- A fault at a place of a document, or in the document as a whole. -/
structure Objection where
  place : Option String
  fault : DocumentFault
  deriving DecidableEq, Repr

namespace Objection

/-- The objection as an issue. -/
def issue (o : Objection) : Issue :=
  { checker := .document
    severity := o.fault.severity
    message := o.fault.message
    suggestion := o.fault.suggestion
    context :=
      match o.place with
      | some s => .str s
      | none => .null }

/-- The objection makes a document invalid. -/
def isError (o : Objection) : Bool :=
  o.fault.severity == .error

/-- The report on objections: errors and warnings, each in order. -/
def report (objections : List Objection) : Report :=
  Report.ofIssues ((objections.filter isError).map issue)
    ((objections.filter fun o => !o.isError).map issue)

end Objection

end SequenceApi
