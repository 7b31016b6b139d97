import SequenceApi.Document.Generate
import SequenceApi.Proofs.Json.Reordered
import SequenceApi.Proofs.Schema.Registry

/-!
# Documents without components

A document means the same without its components if every schema that is a reference becomes the
component that it means. To compare it with one that never had components, examples are left out of
both: the component of a shape has the examples of the first body alone.

## Main definitions

* `Operation.mapSchemas`, `Document.mapSchemas`: other schemas in the same places
* `Document.unshared`: the document without components
* `Document.shape`: the document without the examples of its schemas
* `Diagram.plainDocuments`: the documents of a diagram if no shape is shared
* `Operation.Related`: one operation with related schemas

## Main results

* `Operation.Related.toJson`: schemas up to the order of keys, operations up to the order of keys
* `Document.reordered_toJson`: operations up to the order of keys, documents up to the order of keys
-/

namespace SequenceApi

open Json (Reordered ReorderedOption)

/-! ## Other schemas in the same places -/

/-- The content with another schema. -/
def Content.mapSchema (f : Json → Json) (c : Content) : Content :=
  { c with schema := f c.schema }

/-- The answer with another schema. -/
def Reply.mapSchema (f : Json → Json) (r : Reply) : Reply :=
  { r with content := r.content.mapSchema f }

/-- The operation with other schemas. -/
def Operation.mapSchemas (f : Json → Json) (o : Operation) : Operation :=
  { o with
    reply := o.reply.map (Reply.mapSchema f)
    requestBody := o.requestBody.map (Content.mapSchema f) }

/-- The paths with other schemas in their operations. -/
def mapPaths (f : Json → Json) (paths : Paths) : Paths :=
  paths.map fun (path, operations) => (path, operations.map fun (m, o) => (m, o.mapSchemas f))

/-- The document with other schemas in its operations. -/
def Document.mapSchemas (f : Json → Json) (d : Document) : Document :=
  { d with paths := mapPaths f d.paths }

/-- The document with the component in the place of each reference to it, and without components. -/
def Document.unshared (d : Document) : Document :=
  { d.mapSchemas (Registry.resolve d.schemas) with schemas := [] }

/-- The document without the examples of its schemas. -/
def Document.shape (d : Document) : Json :=
  (d.mapSchemas Schema.stripExamples).toJson

/-- The documents of a diagram by service, if no shape is counted: every schema stays in its
place. -/
def Diagram.plainDocuments (settings : Settings) (d : Diagram) :
    Except TemplateError (Table String Document) :=
  match Generation.run settings [] d.interactions with
  | .ok (documents, _) => .ok documents
  | .error e => .error e.error

/-! ## Operations -/

theorem Service.operation_mapSchemas (f : Json → Json) (settings : Settings) (i : Interaction)
    (security : List Requirement) (reply request : Json) :
    (Service.operation settings i security reply request).mapSchemas f =
      Service.operation settings i security (f reply) (f request) := by
  simp only [Service.operation, Operation.mapSchemas, Service.reply?, Option.map_map]
  congr 1
  split <;> rfl

/-- The operation of one interaction, with related schemas. -/
inductive Operation.Related (R : Json → Json → Prop) : Operation → Operation → Prop where
  | intro (settings : Settings) (i : Interaction) (security : List Requirement)
      {reply reply' request request' : Json} (hreply : R reply reply')
      (hrequest : R request request') :
      Related R (Service.operation settings i security reply request)
        (Service.operation settings i security reply' request')

namespace Operation.Related

variable {R S : Json → Json → Prop} {o o' : Operation}

theorem imp (h : Related R o o') (hRS : ∀ v w, R v w → S v w) : Related S o o' := by
  cases h with
  | intro settings i security hreply hrequest =>
    exact .intro settings i security (hRS _ _ hreply) (hRS _ _ hrequest)

theorem map {f g : Json → Json} (h : Related R o o') (hfg : ∀ v w, R v w → S (f v) (g w)) :
    Related S (o.mapSchemas f) (o'.mapSchemas g) := by
  cases h with
  | intro settings i security hreply hrequest =>
    rw [Service.operation_mapSchemas, Service.operation_mapSchemas]
    exact .intro settings i security (hfg _ _ hreply) (hfg _ _ hrequest)

end Operation.Related

theorem related_mapPaths {R S : Json → Json → Prop} {f g : Json → Json} {paths paths' : Paths}
    (h : Table.Rel (Table.Rel (Operation.Related R)) paths paths')
    (hfg : ∀ v w, R v w → S (f v) (g w)) :
    Table.Rel (Table.Rel (Operation.Related S)) (mapPaths f paths) (mapPaths g paths') :=
  h.map fun _ _ hoperations => hoperations.map fun _ _ ho => ho.map hfg

theorem Operation.mapSchemas_mapSchemas (f g : Json → Json) (o : Operation) :
    (o.mapSchemas g).mapSchemas f = o.mapSchemas (f ∘ g) := by
  simp only [mapSchemas, Option.map_map]
  rfl

theorem mapPaths_mapPaths (f g : Json → Json) (paths : Paths) :
    mapPaths f (mapPaths g paths) = mapPaths (f ∘ g) paths := by
  simp [mapPaths, Operation.mapSchemas_mapSchemas]

/-! ## Documents up to the order of keys -/

theorem Content.reordered_toJson (mediaType : String) {v w : Json} (h : Reordered v w) :
    Reordered (Content.mk mediaType v).toJson (Content.mk mediaType w).toJson := by
  have hschema : Reordered (.obj [("schema", v)]) (.obj [("schema", w)]) :=
    Json.SameFields.reordered_obj (.cons ⟨rfl, h⟩ .nil)
  exact Json.SameFields.reordered_obj (.cons ⟨rfl, hschema⟩ .nil)

theorem Service.reordered_reply? (settings : Settings) (i : Interaction) {v w : Json}
    (h : Reordered v w) :
    Reordered (Reply.toJson (reply? settings i v)) (Reply.toJson (reply? settings i w)) := by
  rw [reply?, reply?]
  cases i.answer with
  | none => exact .refl _
  | some answer =>
    refine Json.SameFields.reordered_obj (.cons ⟨rfl, ?_⟩ .nil)
    refine Json.SameFields.reordered_obj (.cons ⟨rfl, .refl _⟩ (.cons ⟨rfl, ?_⟩ .nil))
    exact Content.reordered_toJson _ h

/-- The request body as it stands in a document. -/
theorem Content.reorderedOption_requestBody (sent : Bool) (mediaType : String) {v w : Json}
    (h : Reordered v w) :
    ReorderedOption
      ((if sent then some (Content.mk mediaType v) else none).map fun c =>
        .obj [("required", .bool true), ("content", c.toJson)])
      ((if sent then some (Content.mk mediaType w) else none).map fun c =>
        .obj [("required", .bool true), ("content", c.toJson)]) := by
  cases sent with
  | false => exact .none
  | true =>
    refine .some (Json.SameFields.reordered_obj ?_)
    exact .cons ⟨rfl, .refl _⟩ (.cons ⟨rfl, Content.reordered_toJson mediaType h⟩ .nil)

theorem Operation.Related.toJson {o o' : Operation} (h : Related Reordered o o') :
    Reordered o.toJson o'.toJson := by
  cases h with
  | intro settings i security hreply hrequest =>
    have hsame (v : Option Json) : ReorderedOption v v := .refl v
    refine Json.Reordered.ofSome ?_
    refine .cons ⟨rfl, hsame _⟩ <| .cons ⟨rfl, hsame _⟩ <| .cons ⟨rfl, hsame _⟩ <|
      .cons ⟨rfl, hsame _⟩ <| .cons ⟨rfl, hsame _⟩ <| .cons ⟨rfl, hsame _⟩ <|
      .cons ⟨rfl, hsame _⟩ <| .cons ⟨rfl, hsame _⟩ <| .cons ⟨rfl, ?_⟩ <| .cons ⟨rfl, ?_⟩ .nil
    · exact .some (Service.reordered_reply? settings i hreply)
    · exact Content.reorderedOption_requestBody _ _ hrequest

theorem reordered_pathItem {operations operations' : Table Method Operation}
    (h : Table.Rel (Operation.Related Reordered) operations operations') :
    Reordered (pathItem operations) (pathItem operations') := by
  refine Json.SameFields.reordered_obj ?_
  refine List.forall₂_map_left_iff.2 (List.forall₂_map_right_iff.2 (List.Forall₂.imp ?_ h))
  rintro ⟨m, o⟩ ⟨_, o'⟩ ⟨rfl, ho⟩
  exact ⟨rfl, ho.toJson⟩

/-- Documents that differ in the schemas of their operations. -/
theorem Document.reordered_toJson (d : Document) {paths : Paths}
    (h : Table.Rel (Table.Rel (Operation.Related Reordered)) d.paths paths) :
    Reordered d.toJson { d with paths := paths }.toJson := by
  have hsame (v : Option Json) : ReorderedOption v v := .refl v
  have hpaths : Json.SameFields (d.paths.map fun (path, operations) => (path, pathItem operations))
      (paths.map fun (path, operations) => (path, pathItem operations)) :=
    h.map fun _ _ ho => reordered_pathItem ho
  exact Json.Reordered.ofSome <|
    .cons ⟨rfl, hsame _⟩ <| .cons ⟨rfl, hsame _⟩ <| .cons ⟨rfl, hsame _⟩ <|
      .cons ⟨rfl, .some hpaths.reordered_obj⟩ <| .cons ⟨rfl, hsame _⟩ .nil

end SequenceApi
