import SequenceApi.Proofs.Document.Objections
import SequenceApi.Proofs.Document.Security
import SequenceApi.Proofs.Document.Validity

/-!
# Documents that name only what they have

An operation of a generated document names three kinds of things, and the document has them all: the
schemes that it requires, the tags that it has, and the components that stand for its bodies. The
names of schemes come from free text. Still no two mechanisms meet under one name: the scheme that
is declared under it is the one that every declaration of the name asks for, with all scopes, and a
mechanism that is not known has no scheme and is required nowhere. A section of the components
that would be empty is left out, but then nothing refers to it.

## Main definitions

* `Operation.contents`: what an operation sends and answers
* `Operation.IsClosedIn`, `Document.IsClosed`: all that is named is there

## Main results

* `Document.at?_securitySchemes`, `Document.at?_schemas`: what is found in a finished document
* `Service.isClosed_document`: the document of a service
* `Diagram.documents_closed`: the documents of a text
-/

namespace SequenceApi

/-! ## Components and tags of a finished document -/

/-- An empty table is left out, but nothing would be found in it either. -/
theorem at?_tableField (t : Table String Json) (k : String) (path : List String) :
    (tableField t).bind (Json.at? (k :: path)) = (Table.find k t).bind (Json.at? path) := by
  cases t <;> rfl

namespace Document

variable (x : Document)

/-- The sections of the components, of which empty ones are left out. -/
def sections : List (String × Option Json) :=
  [("securitySchemes", tableField x.securitySchemes), ("schemas", tableField x.schemas)]

theorem at?_components (kind : String) (path : List String) :
    x.toJson.at? ("components" :: kind :: path) =
      (Table.find kind x.sections).join.bind (Json.at? path) := by
  obtain ⟨t, hfields, hcomponents⟩ : ∃ t, Json.ofSome x.sections = .obj t ∧
      x.toJson.get? "components" = tableField t := by
    refine ⟨_, rfl, ?_⟩
    simp [get?_toJson, Table.find, sections]
  have hsection : Table.find kind t = (Table.find kind x.sections).join := by
    rw [← Json.get?_ofSome (by simp [sections, Table.Distinct]) kind, hfields, Json.get?]
  rw [Json.at?, hcomponents, at?_tableField, hsection]

theorem at?_securitySchemes (k : String) :
    x.toJson.at? ["components", "securitySchemes", k] = Table.find k x.securitySchemes := by
  have hsection : (Table.find "securitySchemes" x.sections).join =
      tableField x.securitySchemes := rfl
  rw [at?_components, hsection, at?_tableField]
  exact Option.bind_fun_some ..

theorem at?_schemas (k : String) :
    x.toJson.at? ["components", "schemas", k] = Table.find k x.schemas := by
  have hsection : (Table.find "schemas" x.sections).join = tableField x.schemas := rfl
  rw [at?_components, hsection, at?_tableField]
  exact Option.bind_fun_some ..

theorem get?_tags {tag : String} (h : tag ∈ x.tags) :
    x.toJson.get? "tags" = some (.arr (x.tags.map fun t => .obj [("name", .str t)])) := by
  have hne : x.tags ≠ [] := List.ne_nil_of_mem h
  simp [get?_toJson, Table.find, listField, hne]

end Document

theorem nodup_eraseDups {α : Type} [BEq α] [LawfulBEq α] : (l : List α) → l.eraseDups.Nodup
  | [] => by simp
  | a :: l => by
    rw [List.eraseDups_cons, List.nodup_cons]
    exact ⟨by simp, nodup_eraseDups (l.filter fun b => !b == a)⟩
termination_by l => l.length
decreasing_by exact Nat.lt_succ_of_le (List.length_filter_le ..)

/-! ## References to components -/

theorem Schema.get?_refKey_infer (v : Json) : (infer v).get? refKey = none := by
  cases v with
  | str s =>
    rw [infer, ofString]
    split
    · next r _ =>
      obtain ⟨fields, hfields⟩ : ∃ fields, r.toSchema = .obj fields := ⟨_, rfl⟩
      rw [hfields, Json.get?, Table.find_eq_none_iff]
      intro hmem
      obtain ⟨e, he, hkey⟩ := List.mem_map.1 hmem
      exact (Rule.field_toSchema hfields he).1 hkey
    · simp [typed, Json.get?, Table.find, refKey]
  | obj fields =>
    simp only [infer]
    split <;> simp [Json.get?, Table.find, refKey]
  | _ => simp [infer, typed, bare, Json.get?, Table.find, refKey]

/-- What stands for a body is a reference only if it is that of a component. -/
theorem Service.IsPlaced.exists_component {is : List Interaction} {service : String} {r : Registry}
    {v : Json} (h : IsPlaced (Interaction.HaveSchema is service) r v) {ref : Json}
    (href : v.get? refKey = some ref) :
    ∃ name schema, ref = .str (componentPath ++ name) ∧
      Table.find name r.components = some schema := by
  cases h with
  | empty => simp [emptyObject, Json.get?, Table.find, refKey] at href
  | any => simp [anyObject, Json.get?, Table.find, refKey] at href
  | inline h =>
    obtain ⟨i, -, -, rfl⟩ := h
    rw [Schema.get?_refKey_infer] at href
    cases href
  | @component name schema h =>
    have hname : (componentRef name).get? refKey = some (.str (componentPath ++ name)) := by
      simp [componentRef, Json.get?, Table.find, refKey]
    exact ⟨name, schema, Option.some_inj.1 (href.symm.trans hname), h⟩

/-! ## Closure -/

/-- The contents of an operation: of its answer, and of its request. -/
def Operation.contents (o : Operation) : List Content :=
  o.reply.toList.map Reply.content ++ o.requestBody.toList

/-- What an operation names is in the document. -/
structure Operation.IsClosedIn (settings : Settings) (document : Json) (o : Operation) : Prop where
  /-- No scheme is required twice. -/
  once : (o.security.map Requirement.key).Nodup
  /-- Every scheme is required by a declaration; it is the scheme of all declarations of that name,
  and it has the scopes that are required. -/
  schemes : ∀ q ∈ o.security, ∃ scheme,
    document.at? ["components", "securitySchemes", q.key] = some scheme ∧
      (∃ d : Descriptor, d.IsDeclared ∧ q = d.requirement) ∧
      (∀ d : Descriptor, d.IsDeclared → d.key = q.key → d.scheme? settings = some scheme) ∧
      ∀ scope ∈ q.scopes, ∃ v, scheme.at? ["flows", "implicit", "scopes", scope] = some v
  /-- Every tag is listed once. -/
  tags : ∀ tag ∈ o.tags, ∃ names : List String,
    document.get? "tags" = some (.arr (names.map fun t => .obj [("name", .str t)])) ∧
      names.count tag = 1
  /-- What is a reference in the place of a schema is one to a component. -/
  references : ∀ c ∈ o.contents, ∀ ref, c.schema.get? refKey = some ref →
    ∃ name schema, ref = .str (componentPath ++ name) ∧
      document.at? ["components", "schemas", name] = some schema

/-- What the operations of a document name is in the document, and what is not known has no name in
it. -/
structure Document.IsClosed (settings : Settings) (x : Document) : Prop where
  operations : ∀ p ∈ x.paths, ∀ e ∈ p.2, e.2.IsClosedIn settings x.toJson
  /-- A mechanism that is not known has no scheme and is not required. -/
  custom : ∀ d : Descriptor, d.IsDeclared → d.mechanism = .custom →
    x.toJson.at? ["components", "securitySchemes", d.key] = none ∧
      ∀ p ∈ x.paths, ∀ e ∈ p.2, ∀ q ∈ e.2.security, q.key ≠ d.key

namespace Service

variable {settings : Settings} {is : List Interaction} {name : String} {s : Service}

theorem StemsFrom.exists_component (h : s.StemsFrom settings is name)
    {p : String × Table Method Operation} (hp : p ∈ s.paths) {e : Method × Operation} (he : e ∈ p.2)
    {c : Content} (hc : c ∈ e.2.contents) {ref : Json} (href : c.schema.get? refKey = some ref) :
    ∃ name schema, ref = .str (componentPath ++ name) ∧
      Table.find name s.registry.components = some schema := by
  have hoperation := h.operations p hp e he
  rcases List.mem_append.1 hc with hc | hc
  · obtain ⟨r, hr, rfl⟩ := List.mem_map.1 hc
    exact (hoperation.reply_placed (Option.mem_toList.1 hr)).exists_component href
  · exact (hoperation.body_placed (Option.mem_toList.1 hc)).exists_component href

/-- The tags of an operation are those of an interaction. -/
theorem StemsFrom.mem_tags (h : s.StemsFrom settings is name)
    {p : String × Table Method Operation} (hp : p ∈ s.paths) {e : Method × Operation} (he : e ∈ p.2)
    {tag : String} (htag : tag ∈ e.2.tags) : tag ∈ Generation.tags is := by
  obtain ⟨i, hi, -, security, reply, request, hoperation, -, -⟩ := h.operations p hp e he
  rw [hoperation] at htag
  exact List.mem_eraseDups.2 (List.mem_flatMap.2 ⟨i, hi, htag⟩)

/-- What is required of a service has its scheme there. -/
theorem IsSecured.exists_scheme (h : s.IsSecured settings)
    {p : String × Table Method Operation} (hp : p ∈ s.paths) {e : Method × Operation} (he : e ∈ p.2)
    {q : Requirement} (hq : q ∈ e.2.security) :
    ∃ d : Descriptor, d.IsDeclared ∧ q = d.requirement ∧
      ∃ scheme, Table.find q.key s.schemes = some scheme := by
  obtain ⟨d, hd, rfl, hkey⟩ := (h.operations p hp e he).declared q hq
  exact ⟨d, hd, rfl, Table.exists_find_iff.2 hkey⟩

/-- The document of a service has what its operations name. -/
theorem isClosed_document (h : s.StemsFrom settings is name) (hsecured : s.IsSecured settings) :
    (s.document settings (Generation.tags is)).IsClosed settings := by
  refine ⟨fun p hp e he => ⟨(hsecured.operations p hp e he).once, ?_, ?_, ?_⟩, ?_⟩
  · intro q hq
    obtain ⟨d, hd, rfl, scheme, hfind⟩ := hsecured.exists_scheme hp he hq
    have hscheme : d.scheme? settings = some scheme := hsecured.schemes.scheme?_eq hd hfind
    refine ⟨scheme, (Document.at?_securitySchemes _ _).trans hfind, ⟨d, hd, rfl⟩, ?_, ?_⟩
    · intro d' hd' hkey
      exact (Descriptor.scheme?_eq_of_key_eq hd' hd hkey settings).trans hscheme
    · intro scope hscope
      exact Descriptor.at?_scopes_of_scheme? hscheme hscope
  · intro tag htag
    have hmem := h.mem_tags hp he htag
    exact ⟨_, Document.get?_tags _ hmem, List.count_eq_one_of_mem (nodup_eraseDups _) hmem⟩
  · intro c hc ref href
    obtain ⟨name, schema, hname, hfind⟩ := h.exists_component hp he hc href
    exact ⟨name, schema, hname, (Document.at?_schemas _ _).trans hfind⟩
  · intro d hd hcustom
    have hfree := hsecured.schemes.key_not_mem_of_custom hd hcustom
    refine ⟨(Document.at?_securitySchemes _ _).trans (Table.find_eq_none_iff.2 hfree), ?_⟩
    intro p hp e he q hq hkey
    obtain ⟨-, -, -, scheme, hfind⟩ := hsecured.exists_scheme hp he hq
    rw [hkey] at hfind
    exact hfree (Table.exists_find_iff.1 ⟨scheme, hfind⟩)

end Service

namespace Diagram

/-- **Documents name what they have.** Of every text that is read, each document has what its
operations name. A scheme that an operation requires is required once and declared; the declared
scheme is that of every declaration of the name, and has the required scopes. A mechanism that is not
known has no scheme and is required nowhere. Every tag is listed once, and every reference in the
place of a schema is that of a component. -/
theorem documents_closed {text : String} {d : Diagram} (h : Diagram.read text = .ok d)
    {settings : Settings} {documents : Table String Document}
    (hdocuments : d.documents settings = .ok documents) :
    ∀ e ∈ documents, e.2.IsClosed settings := by
  obtain ⟨g, hsteps, rfl⟩ := exists_generation hdocuments
  have hstems := stemsFrom_of_steps hsteps
  have hsecured := Generation.isSecured_of_steps (declares_of_read h) rfl hsteps
  intro e he
  obtain ⟨⟨name, s⟩, hs, rfl⟩ := List.mem_map.1 he
  exact Service.isClosed_document (hstems _ hs) (hsecured _ hs)

/-- A text that declares a mechanism with scopes, and one that is not known. -/
def securedText : String :=
  "A->>B: POST /x\nNote over B: Security: oauth2 [r]\nNote over B: Security: M\nNote over B: Tags: a"

/-- Its document has one scheme and one tag, and names no others. -/
theorem documents_closed_securedText :
    ∃ d documents, Diagram.read securedText = .ok d ∧
      d.documents Settings.defaults = .ok documents ∧
      (∀ e ∈ documents, e.2.IsClosed Settings.defaults) ∧
      ∃ e ∈ documents, Table.keys e.2.securitySchemes = ["oauth2:r"] ∧ e.2.tags = ["a"] := by
  have hnames : (Diagram.read securedText).toOption.any (fun d =>
      (d.documents Settings.defaults).toOption.any fun documents => documents.any fun e =>
        Table.keys e.2.securitySchemes == ["oauth2:r"] && e.2.tags == ["a"]) = true := by
    decide +kernel
  obtain ⟨d, hread, hnames⟩ := exists_read hnames
  obtain ⟨documents, hdocuments⟩ := exists_documents_defaults d
  rw [hdocuments] at hnames
  obtain ⟨e, he, hboth⟩ := List.any_eq_true.1 hnames
  rw [Bool.and_eq_true, beq_iff_eq, beq_iff_eq] at hboth
  exact ⟨d, documents, hread, hdocuments, documents_closed hread hdocuments, e, he, hboth⟩

end Diagram

end SequenceApi
