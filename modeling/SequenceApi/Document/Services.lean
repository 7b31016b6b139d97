import SequenceApi.Document.Wording

/-!
# The check of services

The documents of several services are checked one by one, and then together: no two of them may use
one operation identifier. The key of a service stands for it in issues.

## Main definitions

* `CheckFailure`: why a check has no report
* `Services.check`: the report on the documents of services
* `Node.checkAny`: the report on a document or on a map of services
-/

namespace SequenceApi

open Text

/-- The issue inside a service: its context is the service, and its own context if it has one. -/
def Issue.inService (service : Scalar) (i : Issue) : Issue :=
  { i with
    context :=
      if i.context.isTruthy then .str s!"{service.text}: {i.context.text}" else service }

/-- Why a check has no report. -/
inductive CheckFailure where
  /-- A service without operations has a key that is no text. -/
  | context (service : Scalar)
  /-- A service that shares an operation identifier has a key that is no text. -/
  | sharing (service : Scalar)
  /-- An integer with too many digits would have to be put into words. -/
  | longInt
  deriving DecidableEq, Repr

/-- The wording of a failure. -/
def CheckFailure.message : CheckFailure → String
  | context service | sharing service => service.text ++ " is no name for a service"
  | longInt => WritingFault.longInt.message

/-- The report on a document, if its wording is possible. -/
def Node.checkWorded (document : Node) : Except CheckFailure Report :=
  if document.isWordless then .error .longInt else .ok document.check

namespace Services

/-- The operations in path items. -/
def operations (paths : List (Scalar × Node)) : List Node :=
  paths.flatMap fun e => (operationKeys.filterMap fun m => e.2.get? m).filter Node.isMap

/-- The path items have a key of an operation. -/
def hasOperationKey (paths : List (Scalar × Node)) : Bool :=
  paths.any fun e => operationKeys.any fun m => e.2.hasKey m

/-- The identifiers of the operations of a document, in order. -/
def operationIds (document : Node) : List String :=
  (operations (document.paths?.getD [])).filterMap fun o =>
    ((o.get? "operationId").bind Node.str?).filter (· != "")

/-- The services that use each operation identifier. -/
abbrev Owners := Table String (List Scalar)

/-- One more use of an identifier. A service counts once. -/
def Owners.add (owners : Owners) (service : Scalar) (id : String) : Owners :=
  let services := (Table.find id owners).getD []
  Table.put id (if services.contains service then services else services ++ [service]) owners

/-- The uses of all identifiers. -/
def owners (documents : List (Scalar × Node)) : Owners :=
  documents.foldl (fun o e => (operationIds e.2).foldl (fun o id => o.add e.1 id) o) []

/-- A key as a context: nothing, a text, or what gives a text. -/
def context? : Scalar → Option Scalar
  | .null => some .null
  | .str s => some (.str s)
  | .other v => v.name?.map .str
  | _ => none

/-- The text, if the scalar is one. -/
def name? : Scalar → Option String
  | .str s => some s
  | _ => none

/-- The service has paths, but no operation. -/
def lacksOperations (document : Node) : Bool :=
  document.paths?.any fun paths => !hasOperationKey paths

/-- The warning about a service without operations. -/
def noOperations (service : Scalar) : Issue :=
  let o : Objection := ⟨none, .noOperations service.text⟩
  { o.issue with context := (context? service).getD service }

/-- The key of a service is put into words: next to the context of an issue, or since the service
lacks operations. -/
def isNamed (document : Node) (r : Report) : Bool :=
  lacksOperations document || (r.errors ++ r.warnings).any fun i => i.context.isTruthy

/-- The issues of one service: errors, and warnings. -/
def issues (service : Scalar) (document : Node) :
    Except CheckFailure (List Issue × List Issue) := do
  let r ← document.checkWorded
  if service.isLong && isNamed document r then throw .longInt
  if lacksOperations document && (context? service).isNone then throw (.context service)
  return (r.errors.map (Issue.inService service),
    r.warnings.map (Issue.inService service) ++
      if lacksOperations document then [noOperations service] else [])

/-- The error about an identifier that several services use. -/
def sharedId (id : String) (services : List Scalar) : Except CheckFailure Issue :=
  match services.find? fun s => (name? s).isNone with
  | some s => .error (.sharing s)
  | none =>
    .ok (Objection.issue ⟨some (joined " and " (services.filterMap name?)), .sharedId id⟩)

/-- The errors about all identifiers that several services use. -/
def sharedIds (owners : Owners) : Except CheckFailure (List Issue) :=
  (owners.filter fun e => 1 < e.2.length).mapM fun e => sharedId e.1 e.2

/-- The report on the documents of services. -/
def check (documents : List (Scalar × Node)) : Except CheckFailure Report := do
  let all ← documents.mapM fun e => issues e.1 e.2
  let shared ← sharedIds (owners documents)
  return Report.ofIssues (all.flatMap Prod.fst ++ shared) (all.flatMap Prod.snd)

end Services

/-- The report on a document, or on a map of services: a mapping without a version is such a map. -/
def Node.checkAny (n : Node) : Except CheckFailure Report :=
  match n.entries? with
  | some entries => if n.hasKey "openapi" then n.checkWorded else Services.check entries
  | none => n.checkWorded

end SequenceApi
