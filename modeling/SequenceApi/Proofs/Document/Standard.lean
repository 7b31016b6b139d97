import SequenceApi.Document.Format
import SequenceApi.Proofs.Document.Readable
import SequenceApi.Proofs.Document.Validity
import SequenceApi.Proofs.Json.Standard

/-!
# Documents in standard JSON

The numbers in a document are the bounds of rules, which are finite, and those of bodies, which need
not be: a body may have `NaN` or `Infinity` in it, and its values become examples. So the documents
of a diagram are printed as a text of the standard grammar just if no such number has come into
them; it can only come from a body that is sent to the service.

## Main definitions

* `Interaction.Sends`: a body that is sent to a service has a number in it
* `Interaction.Explains`: a number is finite, or in such a body

## Main results

* `Json.FloatsAre.infer`: the numbers in an inferred schema
* `Service.StemsFrom.floatsAre_document`: the numbers in the document of a service
* `Diagram.standard_documents_iff`: when documents are standard JSON
-/

namespace SequenceApi

open Json

section

variable {P : Binary64 → Prop}

/-! ## Parts of documents -/

theorem Json.floatsAre_ofSome {fields : List (String × Option Json)} :
    FloatsAre P (ofSome fields) ↔ ∀ e ∈ fields, ∀ v ∈ e.2, v.FloatsAre P := by
  rw [ofSome, floatsAre_obj]
  constructor
  · rintro h ⟨k, v⟩ he w rfl
    exact h (k, w) (List.mem_filterMap.2 ⟨_, he, rfl⟩)
  · intro h e he
    obtain ⟨⟨k, v⟩, hmem, hv⟩ := List.mem_filterMap.1 he
    obtain ⟨w, rfl, rfl⟩ := Option.map_eq_some_iff.1 hv
    exact h _ hmem w rfl

@[simp] theorem Json.floatsAre_strs (l : List String) : FloatsAre P (strs l) := by
  simp [strs]

theorem floatsAre_listField {items : List Json} (h : ∀ v ∈ items, v.FloatsAre P) :
    ∀ v ∈ listField items, v.FloatsAre P := by
  intro v hv
  rw [listField] at hv
  split at hv
  · cases hv
  · obtain rfl := Option.some.inj hv
    exact floatsAre_arr.2 h

theorem floatsAre_tableField {t : Table String Json} (h : ∀ e ∈ t, e.2.FloatsAre P) :
    ∀ v ∈ tableField t, v.FloatsAre P := by
  intro v hv
  rw [tableField] at hv
  split at hv
  · cases hv
  · obtain rfl := Option.some.inj hv
    exact floatsAre_obj.2 h

/-! ## Schemas -/

/-- The bounds of rules are finite. -/
theorem Bound.floatsAre_of_read? (hP : ∀ x : Binary64, x.isFinite = true → P x) {cs : List Char}
    {b : Bound} (h : read? cs = some b) : b.toJson.FloatsAre P := by
  rw [read?] at h
  split at h
  · obtain rfl := Option.some_inj.1 h
    exact floatsAre_int _
  · obtain ⟨x, hx, rfl⟩ := Option.map_eq_some_iff.1 h
    exact floatsAre_float.2 (hP x (Option.filter_eq_some_iff.1 hx).2)

theorem Schema.floatsAre_ofString (hP : ∀ x : Binary64, x.isFinite = true → P x) (s : String) :
    (ofString s).FloatsAre P := by
  rw [ofString]
  split
  · next r hr =>
    have hbounds := Rule.boundsAre_of_read? (fun _ _ => Bound.floatsAre_of_read? hP) hr
    rw [Rule.toSchema, floatsAre_ofSome]
    simpa using ⟨hbounds.minimum, hbounds.maximum⟩
  · simp [typed]

/-- The numbers in the schema of a body are those of the body, and finite ones. -/
theorem Json.FloatsAre.infer (hP : ∀ x : Binary64, x.isFinite = true → P x) {v : Json}
    (h : v.FloatsAre P) : (Schema.infer v).FloatsAre P := by
  induction v using Json.induction with
  | null | bool _ | int _ => simp [Schema.infer, Schema.typed, Schema.bare]
  | float x => simpa [Schema.infer, Schema.typed] using h
  | str s => exact Schema.floatsAre_ofString hP s
  | arr items ih =>
    -- the items are there twice: the first one as a schema, and all of them as an example
    have hfirst : (Schema.inferFirst items).FloatsAre P := by
      cases items with
      | nil => simp [Schema.inferFirst, Schema.bare]
      | cons v vs =>
        exact ih v List.mem_cons_self (floatsAre_arr.1 h v List.mem_cons_self)
    rw [Schema.infer, floatsAre_obj]
    simp only [List.forall_mem_cons]
    exact ⟨floatsAre_str _, hfirst, h, by simp⟩
  | obj fields ih =>
    have hproperties : FloatsAre P (.obj (Schema.inferFields fields)) := by
      rw [Schema.inferFields_eq_map, floatsAre_obj]
      intro e he
      obtain ⟨f, hf, rfl⟩ := List.mem_map.1 he
      exact ih f hf (floatsAre_obj.1 h f hf)
    rw [Schema.infer, floatsAre_obj]
    simp only [List.cons_append, List.nil_append, List.forall_mem_cons]
    refine ⟨floatsAre_str _, hproperties, fun e he => ?_⟩
    split at he
    · cases he
    · rw [List.mem_singleton.1 he]
      exact floatsAre_strs _

theorem Service.IsPlaced.floatsAre {Q : Json → Prop} {r : Registry} {v : Json}
    (h : IsPlaced Q r v) (hQ : ∀ v, Q v → v.FloatsAre P) : v.FloatsAre P := by
  cases h with
  | empty => simp [emptyObject]
  | any => simp [anyObject]
  | inline h => exact hQ _ h
  | component _ => simp [componentRef]

/-! ## Schemes -/

/-- There are no numbers in a scheme. -/
theorem Descriptor.floatsAre_of_scheme? {d : Descriptor} {settings : Settings} {v : Json}
    (h : d.scheme? settings = some v) : v.FloatsAre P := by
  unfold scheme? at h
  split at h
  case h_4 scopes _ =>
    obtain rfl := Option.some.inj h
    have hpermissions : FloatsAre P (.obj (Table.ofEntries
        (scopes.map fun x => (x, Json.str (x ++ " permission"))))) := by
      rw [floatsAre_obj]
      intro e he
      rcases Table.mem_of_mem_putAll he with he | he
      · cases he
      · obtain ⟨x, -, rfl⟩ := List.mem_map.1 he
        exact floatsAre_str _
    simpa using floatsAre_obj.1 hpermissions
  case h_6 => cases h
  all_goals
    obtain rfl := Option.some.inj h
    simp

theorem Service.Security.floatsAre_foldl {settings : Settings} (ds : List Descriptor) :
    ∀ {s : Security}, (∀ e ∈ s.schemes, e.2.FloatsAre P) →
      ∀ e ∈ (ds.foldl (Security.add settings) s).schemes, e.2.FloatsAre P := by
  induction ds with
  | nil => exact fun h => h
  | cons d ds ih =>
    intro s h
    apply ih
    rcases add_cases settings s d with
      ⟨-, hschemes, -⟩ | ⟨⟨-, hschemes⟩ | ⟨scheme, hd, hschemes⟩, -⟩
    · rwa [hschemes]
    · rwa [hschemes]
    · rw [hschemes]
      exact Table.forall_mem_put h (Descriptor.floatsAre_of_scheme? hd)

/-- The schemes of a service have no numbers in them. -/
theorem Generation.floatsAre_schemes {settings : Settings} {usage : Usage} {g g' : Generation}
    {is : List Interaction} (hg : g.services = [])
    (hsteps : g.steps settings usage is = .ok g') :
    ∀ e ∈ g'.services, ∀ scheme ∈ e.2.schemes, scheme.2.FloatsAre P := by
  refine services_of_steps (P := fun _ s => ∀ scheme ∈ s.schemes, scheme.2.FloatsAre P) ?_ ?_
    (by simp [hg]) hsteps
  · intro name title _
    simp
  · intro i _ s hs
    exact Service.Security.floatsAre_foldl i.security hs

/-! ## Operations -/

theorem Content.floatsAre_toJson {c : Content} (h : c.schema.FloatsAre P) :
    c.toJson.FloatsAre P := by
  simpa [Content.toJson] using h

theorem Reply.floatsAre_toJson {reply : Option Reply}
    (h : ∀ r ∈ reply, r.content.schema.FloatsAre P) : (Reply.toJson reply).FloatsAre P := by
  cases reply with
  | none => simp [Reply.toJson]
  | some r => simpa [Reply.toJson] using Content.floatsAre_toJson (h r rfl)

theorem Parameter.floatsAre_toJson (p : Parameter) : p.toJson.FloatsAre P := by
  cases p <;> simp [Parameter.toJson]

theorem ExternalDocs.floatsAre_toJson (x : ExternalDocs) : x.toJson.FloatsAre P := by
  rw [ExternalDocs.toJson, floatsAre_ofSome]
  simp

/-- The numbers in an operation are those in the schemas of its contents. -/
theorem Operation.floatsAre_toJson {o : Operation}
    (hreply : ∀ r ∈ o.reply, r.content.schema.FloatsAre P)
    (hrequest : ∀ c ∈ o.requestBody, c.schema.FloatsAre P) : o.toJson.FloatsAre P := by
  have hlist {α : Type} (l : List α) {f : α → Json} (hf : ∀ a, (f a).FloatsAre P) :
      ∀ v ∈ listField (l.map f), v.FloatsAre P := by
    refine floatsAre_listField fun v hv => ?_
    obtain ⟨a, -, rfl⟩ := List.mem_map.1 hv
    exact hf a
  rw [Operation.toJson, floatsAre_ofSome]
  simp only [List.forall_mem_cons]
  refine ⟨by simp, by simp, hlist _ floatsAre_str, by simp, ?deprecated, ?externalDocs,
    hlist _ Parameter.floatsAre_toJson, hlist _ fun q => by simp [Requirement.toJson],
    ?responses, ?requestBody, by simp⟩
  case deprecated => split <;> simp
  case externalDocs => simpa using fun x _ => x.floatsAre_toJson
  case responses => simpa using Reply.floatsAre_toJson hreply
  case requestBody => simpa using fun c hc => Content.floatsAre_toJson (hrequest c hc)

/-- The numbers in a document are those in its operations, schemes and components. -/
theorem Document.floatsAre_toJson {x : Document}
    (hpaths : ∀ p ∈ x.paths, ∀ e ∈ p.2, e.2.toJson.FloatsAre P)
    (hschemes : ∀ e ∈ x.securitySchemes, e.2.FloatsAre P)
    (hschemas : ∀ e ∈ x.schemas, e.2.FloatsAre P) : x.toJson.FloatsAre P := by
  have hcomponents : FloatsAre P (ofSome [("securitySchemes", tableField x.securitySchemes),
      ("schemas", tableField x.schemas)]) := by
    rw [floatsAre_ofSome]
    simp only [List.forall_mem_cons]
    exact ⟨floatsAre_tableField hschemes, floatsAre_tableField hschemas, by simp⟩
  rw [Document.toJson, floatsAre_ofSome]
  simp only [List.forall_mem_cons]
  refine ⟨by simp, by simp, ?tags, ?paths, ?components, by simp⟩
  case tags =>
    refine floatsAre_listField fun v hv => ?_
    obtain ⟨t, -, rfl⟩ := List.mem_map.1 hv
    simp
  case paths =>
    intro v hv
    obtain rfl := Option.some.inj hv
    rw [floatsAre_obj]
    intro e he
    obtain ⟨p, hp, rfl⟩ := List.mem_map.1 he
    rw [pathItem, floatsAre_obj]
    intro e he
    obtain ⟨o, ho, rfl⟩ := List.mem_map.1 he
    exact hpaths p hp o ho
  case components => exact floatsAre_tableField (floatsAre_obj.1 hcomponents)

end

/-! ## Services -/

/-- A body that is sent to the service has the number in it. -/
def Interaction.Sends (is : List Interaction) (service : String) (x : Binary64) : Prop :=
  ∃ i ∈ is, i.target = service ∧ i.body.Contains (.float x)

/-- A number is finite, or comes from a body. -/
def Interaction.Explains (is : List Interaction) (service : String) (x : Binary64) : Prop :=
  x.isFinite = true ∨ Interaction.Sends is service x

theorem Interaction.HaveSchema.floatsAre {is : List Interaction} {service : String} {v : Json}
    (h : HaveSchema is service v) : v.FloatsAre (Explains is service) := by
  obtain ⟨i, hi, htarget, rfl⟩ := h
  refine FloatsAre.infer (fun x hx => .inl hx) fun x hx => .inr ⟨i, hi, htarget, hx⟩

namespace Service

variable {settings : Settings} {is : List Interaction} {name : String} {s : Service}

/-- A number in the document of a service is finite, or comes from a body. -/
theorem StemsFrom.floatsAre_document (h : s.StemsFrom settings is name)
    (hschemes : ∀ e ∈ s.schemes, e.2.FloatsAre (Interaction.Explains is name))
    (tags : List String) :
    (s.document settings tags).toJson.FloatsAre (Interaction.Explains is name) := by
  refine Document.floatsAre_toJson (fun p hp e he => ?_) hschemes fun e he => ?_
  · have hoperation := h.operations p hp e he
    refine Operation.floatsAre_toJson (fun r hr => ?_) fun c hc => ?_
    · exact (hoperation.reply_placed hr).floatsAre fun v hv => hv.floatsAre
    · exact (hoperation.body_placed hc).floatsAre fun v hv => hv.floatsAre
  · exact (h.keeps.components e he).floatsAre

end Service

namespace Diagram

variable {settings : Settings} {d : Diagram} {documents : Table String Document}

/-- A number in a document is finite, or comes from a body that is sent to its service. -/
theorem floatsAre_documents (h : d.documents settings = .ok documents) :
    ∀ e ∈ documents, e.2.toJson.FloatsAre (Interaction.Explains d.interactions e.1) := by
  obtain ⟨g, hsteps, rfl⟩ := exists_generation h
  intro e he
  obtain ⟨⟨name, s⟩, hs, rfl⟩ := List.mem_map.1 he
  exact (stemsFrom_of_steps hsteps _ hs).floatsAre_document
    (Generation.floatsAre_schemes rfl hsteps _ hs) _

/-- Printed documents are standard just if the numbers in them are finite. -/
theorem isStandardText_render_iff {text : String} (hread : Diagram.read text = .ok d)
    (h : d.documents settings = .ok documents) :
    IsStandardText (DocumentFormat.json.render (Document.mapJson documents)).toList ↔
      (Document.mapJson documents).IsFinite := by
  have htext : (DocumentFormat.json.render (Document.mapJson documents)).toList =
      chars indented 0 (Document.mapJson documents) ++ ['\n'] := by
    rw [DocumentFormat.render, print, String.toList_append, String.toList_ofList]
    rfl
  rw [htext]
  exact isStandardText_chars_iff isRegular_indented (isWithin_documents hread h).readable 0
    ⟨['\n'], by simp [isSpace]⟩

/-- **When documents are standard JSON.** Every text that is read has documents. They are printed as
a text of the standard grammar just if all numbers in them are finite. A number that is not has come
into a document from a body that is sent to its service; so without such bodies they are standard. -/
theorem standard_documents_iff {text : String} (hread : Diagram.read text = .ok d) :
    ∃ documents, d.documents Settings.defaults = .ok documents ∧
      (IsStandardText (DocumentFormat.json.render (Document.mapJson documents)).toList ↔
        ∀ e ∈ documents, e.2.toJson.IsFinite) ∧
      (∀ e ∈ documents, ∀ x, e.2.toJson.Contains (.float x) → x.isFinite = false →
        Interaction.Sends d.interactions e.1 x) ∧
      ((∀ i ∈ d.interactions, i.body.IsFinite) →
        IsStandardText (DocumentFormat.json.render (Document.mapJson documents)).toList) := by
  obtain ⟨documents, h⟩ := exists_documents_defaults d
  have hiff : IsStandardText (DocumentFormat.json.render (Document.mapJson documents)).toList ↔
      ∀ e ∈ documents, e.2.toJson.IsFinite := by
    rw [isStandardText_render_iff hread h, Document.mapJson, IsFinite, floatsAre_obj]
    simp only [List.forall_mem_map]
    rfl
  refine ⟨documents, h, hiff, fun e he x hx hspecial => ?_, fun hbodies => hiff.2 ?_⟩
  · refine (floatsAre_documents h e he x hx).resolve_left ?_
    rw [hspecial]
    exact Bool.false_ne_true
  · intro e he x hx
    rcases floatsAre_documents h e he x hx with hfinite | ⟨i, hi, -, hbody⟩
    · exact hfinite
    · exact hbodies i hi x hbody

/-- A text with two numbers for a body, the second one as it is given. -/
def numbersText (second : String) : String :=
  "A->>B: POST /x\nNote over B: Body: [-5e-3, " ++ second ++ "]"

/-- With a finite number the documents are standard. -/
theorem standard_documents_of_digits :
    ∃ d documents, Diagram.read (numbersText "1e22") = .ok d ∧
      d.documents Settings.defaults = .ok documents ∧
        IsStandardText (DocumentFormat.json.render (Document.mapJson documents)).toList := by
  have hbodies : (Diagram.read (numbersText "1e22")).toOption.any (fun d =>
      d.interactions.all fun i => i.body.IsFinite) = true := by
    decide +kernel
  obtain ⟨d, hread, hbodies⟩ := exists_read hbodies
  obtain ⟨documents, h, -, -, hstandard⟩ := standard_documents_iff hread
  refine ⟨d, documents, hread, h, hstandard ?_⟩
  simpa using hbodies

/-- With `NaN` they are not. -/
theorem documents_of_nan :
    ∃ d documents, Diagram.read (numbersText "NaN") = .ok d ∧
      d.documents Settings.defaults = .ok documents ∧
        ¬IsStandardText (DocumentFormat.json.render (Document.mapJson documents)).toList := by
  have hbroken : (Diagram.read (numbersText "NaN")).toOption.any (fun d =>
      (d.documents Settings.defaults).toOption.any fun documents =>
        !(Document.mapJson documents).areFinite) = true := by
    decide +kernel
  obtain ⟨d, hread, hbroken⟩ := exists_read hbroken
  obtain ⟨documents, h⟩ := exists_documents_defaults d
  refine ⟨d, documents, hread, h, ?_⟩
  rw [isStandardText_render_iff hread h, ← areFinite_iff]
  simpa [h, Except.toOption] using hbroken

end Diagram

end SequenceApi
