import SequenceApi.Document.Basic
import SequenceApi.Document.Services
import SequenceApi.Proofs.Reference.Cycle
import SequenceApi.Proofs.Schema.HeldReference

/-!
# What the check finds in a generated document

A document that was not read but generated has all that a document must have, field by field, and
most of what the check of documents looks for cannot be wrong with it: its version and its title are
texts, its responses and contents are mappings, its contents have schemas, its parameters have their
places. What is left is the status of an answer, and the references in the schemas of its contents
and of its components. The check finds these in order, operation by operation, and then the cycles.

## Main definitions

* `Document.node`: the document as the check sees it
* `Operation.objections`: what can be wrong with an operation
* `Document.IsFilled`: all texts that the check asks for are given

## Main results

* `Document.objections_node`: what the check finds
* `Document.checkWorded_node`: the check has a report
-/

namespace SequenceApi

/-! ## Contents and parameters -/

/-- The faults of the references in the schema of a content. -/
def Content.objections (targets : List String) (place : String) (c : Content) : List Objection :=
  Node.refObjections targets place (Node.ofJson c.schema)

/-- What can be wrong with an answer: its status, and its content. -/
def Reply.objections (targets : List String) (place : String) (r : Reply) : List Objection :=
  (if Node.isStatus r.status then [] else [⟨some place, .badStatus r.status⟩]) ++
    r.content.objections targets s!"{place} - {r.status}"

/-- What can be wrong with an operation: its answer, and the content of its request. -/
def Operation.objections (targets : List String) (place : String) (o : Operation) :
    List Objection :=
  o.reply.toList.flatMap (Reply.objections targets place) ++
    o.requestBody.toList.flatMap (Content.objections targets (place ++ " - request body"))

/-- The schemas of an operation's contents are given. -/
structure Operation.IsFilled (o : Operation) : Prop where
  reply : ∀ r ∈ o.reply, (Node.ofJson r.content.schema).isTruthy = true
  requestBody : ∀ c ∈ o.requestBody, (Node.ofJson c.schema).isTruthy = true

section

variable {targets : List String} {place : String}

theorem Content.contentObjections_toJson {c : Content}
    (h : (Node.ofJson c.schema).isTruthy = true) (owner : ContentOwner) :
    Node.contentObjections targets place owner (some (Node.ofJson c.toJson)) =
      c.objections targets place := by
  simp [Content.toJson, Node.ofJson, Node.ofFields, Node.contentObjections, Node.mediaObjections,
    Node.isMap, Node.get?, Table.find, Option.filter_some, h, Content.objections]

theorem Reply.responsesObjections_toJson {reply : Option Reply}
    (h : ∀ r ∈ reply, (Node.ofJson r.content.schema).isTruthy = true) :
    Node.responsesObjections targets place (some (Node.ofJson (Reply.toJson reply))) =
      reply.toList.flatMap (Reply.objections targets place) := by
  cases reply with
  | none => rfl
  | some r =>
    have hcontent : Node.contentObjections targets s!"{place} - {r.status}" .response
        (some (Node.ofJson r.content.toJson)) =
          r.content.objections targets s!"{place} - {r.status}" :=
      Content.contentObjections_toJson (h r rfl) .response
    simp [Reply.toJson, Node.ofJson, Node.ofFields, Node.responsesObjections,
      Node.responseObjections, Scalar.text, Node.isMap, Node.hasKey, Node.get?, Table.find, refKey,
      hcontent, Reply.objections]

theorem Parameter.parameterObjections_toJson (p : Parameter) :
    Node.parameterObjections place (Node.ofJson p.toJson) = [] := by
  cases p <;>
    simp [Parameter.toJson, Node.ofJson, Node.ofFields, Node.parameterObjections, Node.isMap,
      Node.get?, Table.find, Node.isPlace, parameterPlaces, Node.str?, Node.isFalse]

theorem Operation.bodyObjections_toJson {body : Option Content}
    (h : ∀ c ∈ body, (Node.ofJson c.schema).isTruthy = true) :
    Node.bodyObjections targets place ((body.map fun c =>
        Json.obj [("required", .bool true), ("content", c.toJson)]).map Node.ofJson) =
      body.toList.flatMap (Content.objections targets (place ++ " - request body")) := by
  cases body with
  | none => rfl
  | some c =>
    have hcontent : Node.contentObjections targets (place ++ " - request body") .requestBody
        (some (Node.ofJson c.toJson)) = c.objections targets (place ++ " - request body") :=
      Content.contentObjections_toJson (h c rfl) .requestBody
    simp [Node.ofJson, Node.ofFields, Node.bodyObjections, Node.isMap, Node.hasKey, Node.get?,
      Table.find, refKey, Option.filter_some, hcontent]

theorem parametersObjections_listField (parameters : List Parameter) :
    Node.parametersObjections place
      ((listField (parameters.map Parameter.toJson)).map Node.ofJson) = [] := by
  rw [listField]
  split
  · rfl
  · rw [Option.map_some, Node.ofJson, Node.ofItems_eq_map, List.map_map, Node.parametersObjections,
      List.flatMap_map]
    simp [Parameter.parameterObjections_toJson]

/-! ## Operations -/

theorem Operation.get?_toJson (o : Operation) (k : String) :
    o.toJson.get? k = (Table.find k
      [("summary", some (.str o.summary)),
        ("description", o.description.map .str),
        ("tags", listField (o.tags.map .str)),
        ("operationId", o.operationId.map .str),
        ("deprecated", if o.deprecated then some (.bool true) else none),
        ("externalDocs", o.externalDocs.map ExternalDocs.toJson),
        ("parameters", listField (o.parameters.map Parameter.toJson)),
        ("security", listField (o.security.map Requirement.toJson)),
        ("responses", some (Reply.toJson o.reply)),
        ("requestBody", o.requestBody.map fun c =>
          .obj [("required", .bool true), ("content", c.toJson)])]).join :=
  Json.get?_ofSome (by simp [Table.Distinct]) k

theorem Operation.operationObjections_toJson {o : Operation} (h : o.IsFilled) :
    Node.operationObjections targets place (Node.ofJson o.toJson) = o.objections targets place := by
  have hresponses : (Node.ofJson o.toJson).get? "responses" =
      some (Node.ofJson (Reply.toJson o.reply)) := by
    simp [Node.get?_ofJson, Operation.get?_toJson, Table.find]
  have hbody : (Node.ofJson o.toJson).get? "requestBody" =
      (o.requestBody.map fun c =>
        Json.obj [("required", .bool true), ("content", c.toJson)]).map Node.ofJson := by
    simp [Node.get?_ofJson, Operation.get?_toJson, Table.find]
  have hparameters : (Node.ofJson o.toJson).get? "parameters" =
      (listField (o.parameters.map Parameter.toJson)).map Node.ofJson := by
    simp [Node.get?_ofJson, Operation.get?_toJson, Table.find]
  rw [Node.operationObjections, hresponses, hbody, hparameters,
    Reply.responsesObjections_toJson h.reply, Operation.bodyObjections_toJson h.requestBody,
    parametersObjections_listField, List.append_nil, Operation.objections]

theorem Method.mem_operationKeys (m : Method) : operationKeys.contains m.name = true := by
  cases m <;> decide

theorem entries?_pathItem (operations : Table Method Operation) :
    (Node.ofJson (pathItem operations)).entries? =
      some (operations.map fun (m, o) => (.str m.name, Node.ofJson o.toJson)) := by
  rw [pathItem, Node.ofJson, Node.entries?, Node.ofFields_eq_map, List.map_map]
  rfl

theorem Operation.isMap_ofJson (o : Operation) : (Node.ofJson o.toJson).isMap = true := rfl

theorem pathObjections_pathItem (path : String) {operations : Table Method Operation}
    (h : ∀ e ∈ operations, e.2.IsFilled) :
    Node.pathObjections targets (.str path) (Node.ofJson (pathItem operations)) =
      operations.flatMap fun (m, o) => o.objections targets s!"{path} ({m.name})" := by
  simp only [Node.pathObjections, entries?_pathItem, List.flatMap_map]
  refine List.flatMap_congr fun e he => ?_
  simp only [Node.itemObjections, Scalar.text, Method.mem_operationKeys, if_true,
    Operation.isMap_ofJson, Operation.operationObjections_toJson (h e he)]

end

/-! ## Documents -/

namespace Document

/-- The document as the check sees it. -/
def node (d : Document) : Node :=
  Node.ofJson d.toJson

/-- The texts that the check asks for are given, the version is a supported one, and the schemas of
all contents are given. -/
structure IsFilled (d : Document) : Prop where
  version : Text.startsHere ['3', '.'] d.version.toList = true
  title : d.title ≠ ""
  apiVersion : d.apiVersion ≠ ""
  operations : ∀ p ∈ d.paths, ∀ e ∈ p.2, e.2.IsFilled

variable {d : Document}

theorem get?_toJson (d : Document) (k : String) :
    d.toJson.get? k = (Table.find k
      [("openapi", some (.str d.version)),
        ("info", some (.obj [("title", .str d.title), ("version", .str d.apiVersion)])),
        ("tags", listField (d.tags.map fun t => .obj [("name", .str t)])),
        ("paths", some (.obj (d.paths.map fun (p, ops) => (p, pathItem ops)))),
        ("components", tableField
          ([("securitySchemes", tableField d.securitySchemes),
            ("schemas", tableField d.schemas)].filterMap fun (k, v) => v.map (k, ·)))]).join := by
  rw [toJson, Json.get?_ofSome (by simp [Table.Distinct])]

theorem get?_node (d : Document) (k : String) :
    d.node.get? k = (d.toJson.get? k).map Node.ofJson := by
  rw [node, Node.get?_ofJson]

theorem get?_openapi (d : Document) : d.node.get? "openapi" = some (.scalar (.str d.version)) := by
  simp [get?_node, get?_toJson, Table.find, Node.ofJson]

theorem get?_info (d : Document) :
    d.node.get? "info" = some (.map none
      [(.str "title", .scalar (.str d.title)), (.str "version", .scalar (.str d.apiVersion))]) := by
  simp [get?_node, get?_toJson, Table.find, Node.ofJson, Node.ofFields]

theorem get?_paths (d : Document) :
    d.node.get? "paths" = some (.map none
      (d.paths.map fun (p, operations) => (.str p, Node.ofJson (pathItem operations)))) := by
  simp [get?_node, get?_toJson, Table.find, Node.ofJson, Node.ofFields_eq_map]

theorem paths?_node (d : Document) :
    d.node.paths? =
      some (d.paths.map fun (p, operations) => (.str p, Node.ofJson (pathItem operations))) := by
  rw [Node.paths?, get?_paths]
  rfl

/-- The component schemas, as the check sees them. -/
theorem schemas_node (d : Document) :
    d.node.schemas = d.schemas.map fun e => (.str e.1, Node.ofJson e.2) := by
  rw [Node.schemas, get?_node, get?_toJson]
  -- empty components are left out, and so is what would hold them
  cases d.securitySchemes <;> cases d.schemas <;>
    simp [Table.find, tableField, Node.ofJson, Node.ofFields_eq_map, Node.get?, Node.entries?]

theorem version_ne_empty (h : d.IsFilled) : d.version ≠ "" := by
  intro hempty
  have hversion := h.version
  rw [hempty] at hversion
  cases hversion

theorem requiredFaults_node (h : d.IsFilled) : d.node.requiredFaults = [] := by
  simp only [Node.requiredFaults, Node.isGiven, get?_openapi, get?_info, get?_paths]
  simp [Node.isTruthy, Scalar.isTruthy, version_ne_empty h, Option.filter_some, Node.isMap,
    Node.get?, Table.find, h.title, h.apiVersion]

theorem versionFaults_node (h : d.IsFilled) : d.node.versionFaults = [] := by
  simp [Node.versionFaults, get?_openapi, Option.filter_some, Node.isTruthy, Scalar.isTruthy,
    version_ne_empty h, h.version]

/-- **What the check finds.** Of a document whose texts are given, the check finds what is wrong with
its operations, one by one, and the cycles of its references. -/
theorem objections_node (h : d.IsFilled) :
    d.node.objections =
      (d.paths.flatMap fun (path, operations) => operations.flatMap fun (m, o) =>
        o.objections d.node.targets s!"{path} ({m.name})") ++ d.node.cycleObjections := by
  have hmap : d.node.isMap = true := rfl
  rw [Node.objections, if_pos hmap]
  simp only [requiredFaults_node h, versionFaults_node h, paths?_node, Option.getD_some,
    List.flatMap_map, List.map_nil, List.nil_append]
  congr 1
  exact List.flatMap_congr fun p hp => pathObjections_pathItem p.1 (h.operations p hp)

end Document

/-! ## Wording -/

section

variable {n : Node}

/-- The keys of an object are texts. -/
theorem Node.exists_of_mem_entries {v : Json} {e : Scalar × Node}
    (h : e ∈ ((ofJson v).entries?).getD []) : ∃ k w, e = (.str k, ofJson w) := by
  cases v with
  | obj fields =>
    rw [ofJson, entries?, Option.getD_some, ofFields_eq_map] at h
    obtain ⟨f, -, rfl⟩ := List.mem_map.1 h
    exact ⟨f.1, f.2, rfl⟩
  | _ => cases h

theorem isLong_of_mem_wordedContent {content : Option Json}
    (h : n ∈ Node.wordedContent (content.map Node.ofJson)) : n.isLong = false := by
  obtain ⟨e, he, hn⟩ := List.mem_filterMap.1 h
  cases content with
  | none => cases he
  | some v =>
    obtain ⟨k, w, rfl⟩ := Node.exists_of_mem_entries (v := v) he
    split at hn <;> cases hn
    rfl

theorem isLong_of_mem_wordedResponse {k : String} {v : Json}
    (h : n ∈ Node.wordedResponse (.str k) (Node.ofJson v)) : n.isLong = false := by
  rw [Node.wordedResponse, Node.get?_ofJson] at h
  rcases List.mem_cons.1 h with rfl | h
  · rfl
  · split at h
    · exact isLong_of_mem_wordedContent h
    · cases h

theorem Parameter.wordedParameter_toJson (p : Parameter) :
    Node.wordedParameter (Node.ofJson p.toJson) = [] := by
  cases p <;>
    simp [Parameter.toJson, Node.ofJson, Node.ofFields, Node.wordedParameter, Node.get?, Table.find,
      Node.isPlace, parameterPlaces, Node.str?, Node.isFalse]

theorem Operation.isLong_of_mem_worded {o : Operation}
    (h : n ∈ Node.wordedOperation (Node.ofJson o.toJson)) : n.isLong = false := by
  have hparameters : (Node.ofJson o.toJson).get? "parameters" =
      (listField (o.parameters.map Parameter.toJson)).map Node.ofJson := by
    simp [Node.get?_ofJson, Operation.get?_toJson, Table.find]
  rw [Node.wordedOperation, hparameters] at h
  rcases List.mem_append.1 h with h | h
  · rcases List.mem_append.1 h with h | h
    · -- the keys of responses, and of their contents
      obtain ⟨e, he, h⟩ := List.mem_flatMap.1 h
      rw [Node.get?_ofJson] at he
      cases hresponses : o.toJson.get? "responses" with
      | none => simp [hresponses] at he
      | some v =>
        rw [hresponses] at he
        obtain ⟨k, w, rfl⟩ := Node.exists_of_mem_entries (v := v) he
        exact isLong_of_mem_wordedResponse h
    · -- the keys of the content of the request
      obtain ⟨b, hb, h⟩ := List.mem_flatMap.1 h
      have hb' := Option.mem_toList.1 hb
      rw [Node.get?_ofJson, Option.filter_eq_some_iff] at hb'
      obtain ⟨v, -, rfl⟩ := Option.map_eq_some_iff.1 hb'.1
      rw [Node.get?_ofJson] at h
      exact isLong_of_mem_wordedContent h
  · -- every parameter has its place
    obtain ⟨p, hp, h⟩ := List.mem_flatMap.1 h
    rw [listField] at hp
    split at hp
    · cases hp
    · rw [Option.map_some, Option.map_some, Option.getD_some, Node.ofJson, Node.items,
        Node.ofItems_eq_map, List.map_map] at hp
      obtain ⟨q, -, rfl⟩ := List.mem_map.1 hp
      rw [Function.comp_apply, Parameter.wordedParameter_toJson] at h
      cases h

/-- The check has a report: whatever it puts into words is a text. -/
theorem Document.checkWorded_node (d : Document) : d.node.checkWorded = .ok d.node.check := by
  have hworded : d.node.isWordless = false := by
    rw [Node.isWordless, List.any_eq_false]
    intro n hn
    rw [Bool.not_eq_true]
    rw [Node.worded, schemas_node, paths?_node] at hn
    rcases List.mem_append.1 hn with hn | hn
    · obtain ⟨e, he, rfl⟩ := List.mem_map.1 hn
      obtain ⟨f, -, rfl⟩ := List.mem_map.1 he
      rfl
    · obtain ⟨e, he, hn⟩ := List.mem_flatMap.1 hn
      obtain ⟨p, -, rfl⟩ := List.mem_map.1 he
      rw [Node.wordedPath, entries?_pathItem] at hn
      rcases List.mem_cons.1 hn with rfl | hn
      · rfl
      · obtain ⟨e, he, hn⟩ := List.mem_flatMap.1 hn
        obtain ⟨⟨m, o⟩, -, rfl⟩ := List.mem_map.1 he
        simp only [Node.wordedItem] at hn
        rcases List.mem_cons.1 hn with rfl | hn
        · rfl
        · split at hn
          · exact Operation.isLong_of_mem_worded hn
          · cases hn
  rw [Node.checkWorded, hworded]
  rfl

end

end SequenceApi
