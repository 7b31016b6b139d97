import SequenceApi.Proofs.Document.Security
import SequenceApi.Proofs.Schema.Readable

/-!
# Readable documents

A generated document is a value that a JSON text can have, and does not nest too deep to be read.
Its parts are texts and marks, schemes, and the schemas of bodies. Bodies come from texts, and one
that nests too deep is given no schema; so there is room for the levels of a document around a
schema. The keys are distinct in every object: paths, methods, schemes, components and services are
kept in tables.

## Main definitions

* `Schema.deepestSchema`: how deep the schema of a body nests at most
* `Paths.IsReadable`, `Service.IsReadable`: the paths of a document, and a service in the making

## Main results

* `Service.IsReadable.add`: one more interaction
* `Diagram.isReadable_body`: the bodies of a diagram
* `Diagram.isWithin_documents`: the documents of a diagram, as one value
-/

namespace SequenceApi

open Json

/-! ## Schemas -/

/-- Schemas of bodies nest at most this deep. -/
def Schema.deepestSchema : Nat :=
  2 * deepestBody + 1

open Schema (deepestSchema)

theorem Usage.isWithin_of_schema? {i : Interaction} (hi : i.body.IsReadable) {s : Json}
    (h : schema? i = some s) : s.IsWithin deepestSchema := by
  unfold schema? at h
  split at h
  · cases h
  · unfold Schema.ofBody? at h
    split at h
    · next hdepth =>
      obtain rfl := Option.some.inj h
      exact IsWithin.infer ⟨hi, hdepth⟩
    · cases h

theorem isWithin_componentRef {n : Nat} (name : String) : (componentRef name).IsWithin (n + 1) :=
  isWithin_single (isWithin_str _)

namespace Registry

/-- The components are readable schemas under distinct names. -/
def IsReadable (r : Registry) : Prop :=
  IsWithin (deepestSchema + 1) (.obj r.components)

variable {r : Registry}

theorem IsReadable.share (h : r.IsReadable) (base : String) {s : Json}
    (hs : s.IsWithin deepestSchema) :
    (r.share base s).registry.IsReadable ∧ (r.share base s).schema.IsWithin deepestSchema := by
  rcases share_cases r base s with ⟨-, hx⟩ | ⟨-, name, -, hx⟩ | ⟨-, -, hx⟩
  · rw [hx]
    exact ⟨h, hs⟩
  · rw [hx]
    exact ⟨h, isWithin_componentRef name⟩
  · rw [hx]
    exact ⟨h.put _ hs, isWithin_componentRef _⟩

theorem IsReadable.extract (h : r.IsReadable) {s : Json} (hs : s.IsWithin deepestSchema) :
    (r.extract s).registry.IsReadable ∧ (r.extract s).schema.IsWithin deepestSchema := by
  rw [Registry.extract]
  split
  · exact ⟨h, hs⟩
  · exact h.share _ hs

end Registry

namespace Service

/-- What is placed is readable, and so are the components after it. -/
structure Placed.IsReadable (x : Placed) : Prop where
  registry : x.registry.IsReadable
  schema : x.schema.IsWithin deepestSchema

section

variable {r : Registry} (h : r.IsReadable) {i : Interaction} (hi : i.body.IsReadable)

theorem isWithin_emptyObject : emptyObject.IsWithin deepestSchema := by
  refine IsWithin.mono (m := 2) ?_ (by decide)
  rw [emptyObject, isWithin_obj_iff]
  exact ⟨by simp [Table.Distinct], by simpa using ⟨isWithin_str _, isWithin_nil⟩⟩

theorem isWithin_anyObject : anyObject.IsWithin deepestSchema :=
  isWithin_single (isWithin_str _)

include h hi

theorem isReadable_place {otherwise : Json} (ho : otherwise.IsWithin deepestSchema) :
    (place r otherwise i).IsReadable := by
  rw [place]
  split
  · exact ⟨h, ho⟩
  · next schema hschema =>
    obtain ⟨hregistry, hplaced⟩ := h.extract (Usage.isWithin_of_schema? hi hschema)
    exact ⟨hregistry, hplaced⟩

theorem isReadable_placeReply : (placeReply r i).IsReadable := by
  rw [placeReply]
  split
  · exact ⟨h, isWithin_emptyObject⟩
  · exact isReadable_place h hi isWithin_emptyObject

theorem isReadable_placeRequest : (placeRequest r i).IsReadable := by
  rw [placeRequest]
  split
  · exact isReadable_place h hi isWithin_anyObject
  · exact ⟨h, isWithin_anyObject⟩

end

/-! ## Schemes -/

/-- Schemes nest at most this deep. -/
def deepestScheme : Nat := 4

end Service

/-- The permissions of scopes, each once. -/
theorem isWithin_permissions (scopes : List String) :
    IsWithin 1 (.obj (Table.ofEntries
      (scopes.map fun x => (x, Json.str (x ++ " permission"))))) := by
  rw [isWithin_obj_iff]
  refine ⟨Table.Distinct.putAll _ List.nodup_nil, fun e he => ?_⟩
  rcases Table.mem_of_mem_putAll he with he | he
  · cases he
  · obtain ⟨x, -, rfl⟩ := List.mem_map.1 he
    exact isWithin_str _

theorem Descriptor.isWithin_of_scheme? {d : Descriptor} {settings : Settings} {v : Json}
    (h : d.scheme? settings = some v) : v.IsWithin Service.deepestScheme := by
  unfold scheme? at h
  split at h
  case h_4 scopes _ =>
    obtain rfl := Option.some.inj h
    have hflow : IsWithin 2 (.obj
        [("authorizationUrl", .str (settings.get .oauth2AuthorizationUrl)),
          ("scopes", .obj (Table.ofEntries
            (scopes.map fun x => (x, Json.str (x ++ " permission")))))]) := by
      rw [isWithin_obj_iff]
      exact ⟨by simp [Table.Distinct], by simpa using ⟨isWithin_str _, isWithin_permissions scopes⟩⟩
    rw [Service.deepestScheme, isWithin_obj_iff]
    exact ⟨by simp [Table.Distinct], by simpa using ⟨isWithin_str _, isWithin_single hflow⟩⟩
  case h_6 => cases h
  all_goals
    obtain rfl := Option.some.inj h
    exact isWithin_texts (by simp [Table.Distinct]) (by simp)

theorem Service.Security.isWithin_foldl {settings : Settings} (ds : List Descriptor) :
    ∀ {s : Security}, IsWithin (deepestScheme + 1) (.obj s.schemes) →
      IsWithin (deepestScheme + 1) (.obj (ds.foldl (Security.add settings) s).schemes) := by
  induction ds with
  | nil => exact fun h => h
  | cons d ds ih =>
    intro s h
    apply ih
    rcases add_cases settings s d with
      ⟨-, hschemes, -⟩ | ⟨⟨-, hschemes⟩ | ⟨scheme, hd, hschemes⟩, -⟩
    · rwa [hschemes]
    · rwa [hschemes]
    · rw [hschemes]
      exact h.put d.key (Descriptor.isWithin_of_scheme? hd)

/-! ## Operations -/

/-- The schemas of an operation's contents are readable. -/
structure Operation.IsReadable (o : Operation) : Prop where
  reply : ∀ r ∈ o.reply, r.content.schema.IsWithin deepestSchema
  requestBody : ∀ c ∈ o.requestBody, c.schema.IsWithin deepestSchema

theorem Content.isWithin_toJson {c : Content} (h : c.schema.IsWithin deepestSchema) :
    c.toJson.IsWithin (deepestSchema + 2) :=
  isWithin_single (isWithin_single h)

theorem Reply.isWithin_toJson {reply : Option Reply}
    (h : ∀ r ∈ reply, r.content.schema.IsWithin deepestSchema) :
    (Reply.toJson reply).IsWithin (deepestSchema + 4) := by
  cases reply with
  | none => exact isWithin_nil
  | some r =>
    apply isWithin_single
    rw [isWithin_obj_iff]
    exact ⟨by simp [Table.Distinct],
      by simpa using ⟨isWithin_str _, Content.isWithin_toJson (h r rfl)⟩⟩

theorem Parameter.isWithin_toJson (p : Parameter) : p.toJson.IsWithin 2 := by
  cases p with
  | query name value =>
    rw [toJson, isWithin_obj_iff]
    have hschema : IsWithin 1 (.obj [("type", .str "string"), ("example", .str value)]) :=
      isWithin_texts (by simp [Table.Distinct]) (by simp)
    exact ⟨by simp [Table.Distinct], by simpa using ⟨isWithin_str _, isWithin_str _, hschema⟩⟩
  | path name =>
    rw [toJson, isWithin_obj_iff]
    have hschema : IsWithin 1 (.obj [("type", .str "string")]) := isWithin_single (isWithin_str _)
    exact ⟨by simp [Table.Distinct],
      by simpa using ⟨isWithin_str _, isWithin_str _, isWithin_bool true, hschema⟩⟩

theorem ExternalDocs.isWithin_toJson (x : ExternalDocs) : x.toJson.IsWithin 1 := by
  refine isWithin_ofSome (by simp [Table.Distinct]) ?_
  simp only [List.forall_mem_cons, Option.mem_map, forall_exists_index, and_imp,
    forall_apply_eq_imp_iff₂]
  exact ⟨fun _ _ => isWithin_str _, fun _ _ => isWithin_str _, by simp⟩

/-- A list of values that are readable, unless it is empty. -/
theorem isWithin_listField {n : Nat} {items : List Json} (h : ∀ v ∈ items, v.IsWithin n) :
    ∀ v ∈ listField items, v.IsWithin (n + 1) := by
  intro v hv
  rw [listField] at hv
  split at hv
  · cases hv
  · obtain rfl := Option.some.inj hv
    exact isWithin_arr_iff.2 h

theorem Operation.IsReadable.toJson {o : Operation} (h : o.IsReadable) :
    o.toJson.IsWithin (deepestSchema + 5) := by
  have hlist {α : Type} (l : List α) {f : α → Json} (hf : ∀ a, (f a).IsWithin 2) :
      ∀ v ∈ listField (l.map f), v.IsWithin (deepestSchema + 4) := by
    intro v hv
    refine (isWithin_listField (n := 2) (fun w hw => ?_) v hv).mono (by decide)
    obtain ⟨a, -, rfl⟩ := List.mem_map.1 hw
    exact hf a
  refine isWithin_ofSome (by simp [Table.Distinct]) ?_
  simp only [List.forall_mem_cons]
  refine ⟨?summary, fun _ => isWithin_of_mem_map_str, hlist _ fun t => isWithin_str t,
    fun _ => isWithin_of_mem_map_str, ?deprecated, ?externalDocs,
    hlist _ Parameter.isWithin_toJson, hlist _ fun q => isWithin_single (isWithin_strs q.scopes),
    ?responses, ?requestBody, by simp⟩
  case summary => simpa using isWithin_str _
  case deprecated =>
    split
    · simpa using isWithin_bool true
    · simp
  case externalDocs =>
    intro v hv
    obtain ⟨x, -, rfl⟩ := Option.map_eq_some_iff.1 hv
    exact x.isWithin_toJson.mono (by decide)
  case responses => simpa using Reply.isWithin_toJson h.reply
  case requestBody =>
    intro v hv
    obtain ⟨c, hc, rfl⟩ := Option.map_eq_some_iff.1 hv
    have hcontent := (Content.isWithin_toJson (h.requestBody c hc)).mono (Nat.le_succ _)
    rw [isWithin_obj_iff]
    exact ⟨by simp [Table.Distinct], by simpa using ⟨isWithin_bool true, hcontent⟩⟩

/-! ## Paths -/

theorem Method.name_injective : Function.Injective Method.name := by
  intro m m' h
  cases m <;> cases m' <;> simp [name] at h ⊢

/-- The operations of a path are readable, under distinct methods. -/
structure IsReadablePath (operations : Table Method Operation) : Prop where
  distinct : Table.Distinct operations
  operation : ∀ e ∈ operations, e.2.IsReadable

/-- The operations of all paths are readable, and the paths are distinct. -/
structure Paths.IsReadable (paths : Paths) : Prop where
  distinct : Table.Distinct paths
  path : ∀ p ∈ paths, IsReadablePath p.2

theorem IsReadablePath.put {operations : Table Method Operation} (h : IsReadablePath operations)
    (m : Method) {o : Operation} (ho : o.IsReadable) :
    IsReadablePath (Table.put m o operations) :=
  ⟨h.distinct.put m o, Table.forall_mem_put h.operation ho⟩

/-- One more operation, under a path that is there or a new one. -/
theorem Paths.IsReadable.put {paths : Paths} (h : paths.IsReadable) (template : String) (m : Method)
    {o : Operation} (ho : o.IsReadable) :
    Paths.IsReadable
      (Table.put template (Table.put m o ((Table.find template paths).getD [])) paths) := by
  have hold : IsReadablePath ((Table.find template paths).getD []) := by
    cases hfind : Table.find template paths with
    | none => exact ⟨List.nodup_nil, by simp⟩
    | some operations => exact h.path _ (Table.mem_of_find_eq_some hfind)
  exact ⟨h.distinct.put _ _, Table.forall_mem_put h.path (hold.put m ho)⟩

theorem IsReadablePath.pathItem {operations : Table Method Operation}
    (h : IsReadablePath operations) : (pathItem operations).IsWithin (deepestSchema + 6) := by
  rw [SequenceApi.pathItem, isWithin_obj_iff]
  constructor
  · have hnames := h.distinct.map Method.name_injective
    rw [Table.keys, List.map_map] at hnames
    rwa [Table.Distinct, Table.keys, List.map_map]
  · intro e he
    obtain ⟨f, hf, rfl⟩ := List.mem_map.1 he
    exact (h.operation f hf).toJson

theorem isWithin_tableField {n : Nat} {t : Table String Json} (h : IsWithin n (.obj t)) :
    ∀ v ∈ tableField t, v.IsWithin n := by
  intro v hv
  rw [tableField] at hv
  split at hv
  · cases hv
  · obtain rfl := Option.some.inj hv
    exact h

/-! ## Services -/

namespace Service

/-- The paths of a service, its schemes and its components are readable. -/
structure IsReadable (s : Service) : Prop where
  paths : s.paths.IsReadable
  schemes : IsWithin (deepestScheme + 1) (.obj s.schemes)
  registry : s.registry.IsReadable

theorem IsReadable.new (title : String) (usage : Table String Nat) :
    IsReadable { title, registry := { usage } } :=
  ⟨⟨List.nodup_nil, by simp⟩, isWithin_nil, isWithin_nil⟩

/-- One more interaction. -/
theorem IsReadable.add {s : Service} (h : s.IsReadable) (settings : Settings) {i : Interaction}
    (hi : i.body.IsReadable) : (s.add settings i).1.IsReadable := by
  -- the reply comes first, and the request finds the components that it leaves
  have hreply := isReadable_placeReply h.registry hi
  have hrequest := isReadable_placeRequest hreply.registry hi
  have hoperation (security : List Requirement) : Operation.IsReadable
      (operation settings i security (placeReply s.registry i).schema
        (placeRequest (placeReply s.registry i).registry i).schema) := by
    constructor
    · intro r hr
      obtain ⟨a, -, rfl⟩ := Option.map_eq_some_iff.1 hr
      exact hreply.schema
    · intro c hc
      simp only [operation] at hc
      split at hc
      · obtain rfl := Option.some.inj hc
        exact hrequest.schema
      · cases hc
  exact ⟨h.paths.put _ _ (hoperation _), Security.isWithin_foldl _ h.schemes, hrequest.registry⟩

/-- A finished document has eight levels around the schemas of its operations. -/
theorem IsReadable.document {s : Service} (h : s.IsReadable) (settings : Settings)
    (tags : List String) :
    (s.document settings tags).toJson.IsWithin (deepestSchema + 8) := by
  have hschemes : ∀ v ∈ tableField s.schemes, v.IsWithin (deepestSchema + 1) := fun v hv =>
    (isWithin_tableField h.schemes v hv).mono (by decide)
  have hcomponents : IsWithin (deepestSchema + 2) (Json.ofSome
      [("securitySchemes", tableField s.schemes),
        ("schemas", tableField s.registry.components)]) := by
    refine isWithin_ofSome (by simp [Table.Distinct]) ?_
    simp only [List.forall_mem_cons]
    exact ⟨hschemes, isWithin_tableField h.registry, by simp⟩
  refine isWithin_ofSome (by simp [Table.Distinct]) ?_
  simp only [List.forall_mem_cons]
  refine ⟨by simpa using isWithin_str _, ?info, ?tags, ?paths, ?components, by simp⟩
  case info => simpa using isWithin_texts (by simp [Table.Distinct]) (by simp)
  case tags =>
    refine isWithin_listField fun v hv => ?_
    obtain ⟨t, -, rfl⟩ := List.mem_map.1 hv
    exact isWithin_single (isWithin_str t)
  case paths =>
    intro v hv
    obtain rfl := Option.some.inj hv
    exact isWithin_map h.paths.distinct fun p hp => (h.paths.path p hp).pathItem
  case components =>
    intro v hv
    exact (isWithin_tableField hcomponents v hv).mono (by decide)

end Service

/-! ## Diagrams -/

/-- A note leaves the body as it is, or has a body that can be read. -/
theorem Draft.body_enrich (i : Interaction) (n : Note) :
    (enrich i n).body = i.body ∨
      Note.body? n.content = some (.ok (enrich i n).body) := by
  cases hbody : Note.body? n.content with
  | none => exact .inl (by simp [enrich, Interaction.annotate, hbody])
  | some result =>
    cases result with
    | error e => exact .inl (by simp [enrich, Interaction.annotate, hbody])
    | ok v => exact .inr (by simp [enrich, Interaction.annotate, hbody])

namespace Diagram

/-- The bodies of a diagram come from texts. -/
theorem isReadable_body {text : String} {d : Diagram} (h : Diagram.read text = .ok d) :
    ∀ i ∈ d.interactions, i.body.IsReadable := by
  obtain ⟨tokens, -, rfl⟩ := exists_tokens h
  refine Draft.forall_interactions_foldl_step ?_ ?_ ?_ tokens (by simp [Draft.interactions])
  · exact fun r => .null
  · exact fun i a hi => hi
  · intro i n hi
    rcases Draft.body_enrich i n with hbody | hbody
    · rwa [hbody]
    · obtain ⟨cs, -, hread⟩ := Option.map_eq_some_iff.1 hbody
      exact isReadable_of_readChars hread

variable {settings : Settings} {d : Diagram} {documents : Table String Document}

theorem distinct_documents (h : d.documents settings = .ok documents) :
    Table.Distinct documents := by
  obtain ⟨g, hsteps, rfl⟩ := exists_generation h
  have hdistinct : Table.Distinct g.services := by
    refine Generation.invariant_of_steps (P := fun _ g => Table.Distinct g.services) ?_ ?_ hsteps
    · exact List.nodup_nil
    · intro _ i g₁ g₂ _ hg₁ hstep
      rcases Generation.step_cases hstep with ⟨-, rfl⟩ | ⟨-, -, s, -, hservices⟩
      · exact hg₁
      · rw [hservices]
        exact hg₁.put _ _
  rwa [Table.Distinct, Table.keys, List.map_map]

/-- The documents of a text are a value that a text can have, and can be read. -/
theorem isWithin_documents {text : String} (hread : Diagram.read text = .ok d)
    (h : d.documents settings = .ok documents) :
    (Document.mapJson documents).IsWithin (deepestSchema + 9) := by
  have hd := distinct_documents h
  obtain ⟨g, hsteps, rfl⟩ := exists_generation h
  have hservices : ∀ e ∈ g.services, e.2.IsReadable := by
    refine Generation.services_of_steps (P := fun _ s => s.IsReadable) ?_ ?_ ?_ hsteps
    · exact fun name title _ => .new title _
    · exact fun i hi s hs => hs.add settings (isReadable_body hread i hi)
    · simp [blankGeneration]
  refine isWithin_map hd fun e he => ?_
  obtain ⟨⟨name, s⟩, hs, rfl⟩ := List.mem_map.1 he
  exact (hservices _ hs).document settings _

end Diagram

end SequenceApi
