import SequenceApi.Proofs.Document.WellFormed

/-!
# References that point to nothing

The check looks at references in two walks. The one goes through the contents of operations, and
objects to a reference that points to nothing. The other goes from component to component, and
objects to cycles; a reference that points to nothing ends its chain there. So the contents of an
accepted document refer to what is there, but a component that they refer to may itself refer to
nothing. Nowhere else can a chain of references break off.

## Main definitions

* `Node.IsOperationOf`, `Node.IsContentOf`: the operations of a document, and their contents
* `Node.IsOperationSchema`: the schemas of those contents
* `Node.Reaches`: the references that are reached from them

## Main results

* `Node.IsWellFormed.resolves`: the schemas of operations refer to what is there
* `Node.breaks_off_at_components`: where chains of references in an accepted document break off
-/

namespace SequenceApi

namespace Node

/-! ## Schemas of operations -/

/-- The mapping stands under the key of an operation in an item of the paths. -/
def IsOperationOf (document operation : Node) : Prop :=
  ∃ paths, document.paths? = some paths ∧ ∃ path ∈ paths,
    ∃ entries, path.2.entries? = some entries ∧ ∃ e ∈ entries,
      e.1.text ∈ operationKeys ∧ e.2 = operation ∧ operation.isMap = true

/-- What an operation has for a content: that of one of its responses, or that of its request body.
Neither of them is a reference. -/
inductive IsContentOf (operation : Node) : Node → Prop where
  | response {responses response content : Node}
      (hget : operation.get? "responses" = some responses) (hmem : response ∈ responses.parts)
      (hkey : response.hasKey refKey = false) (hcontent : response.get? "content" = some content) :
      IsContentOf operation content
  | requestBody {body content : Node} (hget : operation.get? "requestBody" = some body)
      (hkey : body.hasKey refKey = false) (hcontent : body.get? "content" = some content) :
      IsContentOf operation content

/-- The schema of a media type in a content of an operation. -/
def IsOperationSchema (document schema : Node) : Prop :=
  ∃ operation content object, document.IsOperationOf operation ∧ operation.IsContentOf content ∧
    object ∈ content.parts ∧ object.get? "schema" = some schema

/-- The references in the schemas of operations, and in the components that are reached. -/
inductive Reaches (document : Node) : String → Prop where
  | start {schema : Node} {ref : String} (hs : document.IsOperationSchema schema)
      (hm : schema.Mentions ref) : Reaches document ref
  | step {a ref : String} {n : Node} (ha : Reaches document a)
      (hn : document.component? a = some n) (hm : n.Mentions ref) : Reaches document ref

theorem isMap_of_get?_eq_some {n p : Node} {k : String} (h : n.get? k = some p) :
    n.isMap = true := by
  cases n with
  | map mark entries => rfl
  | _ => cases h

section

variable {document operation content : Node}

theorem IsWellFormed.isOperation (h : document.IsWellFormed)
    (ho : document.IsOperationOf operation) : operation.IsOperation document.targets := by
  obtain ⟨paths, hpaths, path, hpath, entries, hentries, e, he, hkey, rfl, hmap⟩ := ho
  exact (h.items paths hpaths path hpath entries hentries e he).2 hkey hmap

theorem IsOperation.isContent {targets : List String} (h : operation.IsOperation targets)
    (hc : operation.IsContentOf content) : content.IsContent targets := by
  cases hc with
  | @response responses response _ hget hmem hkey hcontent =>
    obtain ⟨responses', entries, hget', hentries, hall⟩ := h.responses
    obtain rfl : responses = responses' := Option.some_inj.1 (hget.symm.trans hget')
    rw [parts_of_entries?_eq_some hentries] at hmem
    obtain ⟨e, he, rfl⟩ := List.mem_map.1 hmem
    obtain ⟨c, hc, hwell⟩ := ((hall e he).2 (isMap_of_get?_eq_some hcontent)).content hkey
    obtain rfl : content = c := Option.some_inj.1 (hcontent.symm.trans hc)
    exact hwell
  | @requestBody body _ hget hkey hcontent =>
    obtain ⟨c, hc, hwell⟩ := h.requestBody body hget (isMap_of_get?_eq_some hcontent) hkey
    obtain rfl : content = c := Option.some_inj.1 (hcontent.symm.trans hc)
    exact hwell

/-- The schemas of operations refer to what is there. -/
theorem IsWellFormed.resolves (h : document.IsWellFormed) {schema : Node}
    (hs : document.IsOperationSchema schema) : schema.Resolves document.targets := by
  obtain ⟨operation, content, object, ho, hc, hobject, hget⟩ := hs
  have hcontent := (h.isOperation ho).isContent hc
  obtain ⟨schema', hgives, hresolves⟩ :=
    hcontent.schema object hobject (isMap_of_get?_eq_some hget)
  obtain rfl : schema = schema' := Option.some_inj.1 (hget.symm.trans hgives.1)
  exact hresolves

/-! ## Components -/

/-- The reference to a component points to it. -/
theorem isPointer_of_component? {a : String} {n : Node} (h : document.component? a = some n) :
    IsPointer document.targets a := by
  rcases Table.mem_of_mem_putAll (Table.mem_of_find_eq_some h) with hm | hm
  · cases hm
  · obtain ⟨e, he, heq⟩ := List.mem_map.1 hm
    obtain ⟨rfl, -⟩ := Prod.mk.inj heq
    refine ⟨?_, mem_targets_iff.2 (.inl ⟨e, he, rfl⟩)⟩
    rw [schemaRef, String.toList_append]
    exact (show ['#', '/'] <+: schemaPointer.toList by decide).trans (List.prefix_append ..)

/-- A reference that is reached and points to nothing stands in a component that is reached. -/
theorem IsWellFormed.exists_component (h : document.IsWellFormed) {ref : String}
    (hreach : document.Reaches ref) (hdangling : ¬ IsPointer document.targets ref) :
    ∃ a n, document.Reaches a ∧ document.component? a = some n ∧ n.Mentions ref := by
  cases hreach with
  | start hs hm => exact absurd (h.resolves hs ref hm) hdangling
  | step ha hn hm => exact ⟨_, _, ha, hn, hm⟩

end

/-- **Where references break off.** In the contents of the operations of an accepted document, every
reference points to something. When references are followed from there, one that points to nothing
stands in a component that is itself there; and so all references that are reached point to something
just if those in the components that are reached do. -/
theorem breaks_off_at_components {v : Json} (hvalid : (ofJson v).check.valid = true) :
    (∀ schema, (ofJson v).IsOperationSchema schema → schema.Resolves (ofJson v).targets) ∧
      (∀ ref, (ofJson v).Reaches ref → ¬ IsPointer (ofJson v).targets ref →
        ∃ a n, (ofJson v).Reaches a ∧ IsPointer (ofJson v).targets a ∧
          (ofJson v).component? a = some n ∧ n.Mentions ref) ∧
      ((∀ ref, (ofJson v).Reaches ref → IsPointer (ofJson v).targets ref) ↔
        ∀ a n, (ofJson v).Reaches a → (ofJson v).component? a = some n →
          n.Resolves (ofJson v).targets) := by
  rw [check, Objection.valid_report_iff, pass_objections ⟨v, rfl⟩] at hvalid
  refine ⟨fun schema hs => hvalid.resolves hs, ?_, ?_, ?_⟩
  · intro ref hreach hdangling
    obtain ⟨a, n, ha, hn, hm⟩ := hvalid.exists_component hreach hdangling
    exact ⟨a, n, ha, isPointer_of_component? hn, hn, hm⟩
  · intro hall a n ha hn ref hm
    exact hall ref (.step ha hn hm)
  · intro hall ref hreach
    by_contra hdangling
    obtain ⟨a, n, ha, hn, hm⟩ := hvalid.exists_component hreach hdangling
    exact hdangling (hall a n ha hn ref hm)

/-- A component that refers to one that is not there. -/
def brokenSchema : Json :=
  .obj [("type", .str "object"),
    ("properties", .obj [("b", .obj [("$ref", .str "#/components/schemas/B")])])]

/-- An operation that refers to a component. -/
def soundOperation : Json :=
  .obj [("responses", .obj [("200", .obj [("description", .str "ok"),
    ("content", .obj [("application/json", .obj [
      ("schema", .obj [("$ref", .str "#/components/schemas/A")])])])])])]

/-- A document with that operation and that component. -/
def brokenChain : Json :=
  .obj [("openapi", .str "3.0.0"),
    ("info", .obj [("title", .str "T"), ("version", .str "1")]),
    ("paths", .obj [("/x", .obj [("get", soundOperation)])]),
    ("components", .obj [("schemas", .obj [("A", brokenSchema)])])]

theorem reaches_brokenChain : (ofJson brokenChain).Reaches "#/components/schemas/B" := by
  have hoperation : (ofJson brokenChain).IsOperationOf (ofJson soundOperation) :=
    ⟨_, rfl, _, List.mem_cons_self, _, rfl, _, List.mem_cons_self, by decide, rfl, rfl⟩
  have hschema : (ofJson brokenChain).IsOperationSchema
      (ofJson (.obj [("$ref", .str "#/components/schemas/A")])) :=
    ⟨_, _, _, hoperation, .response rfl List.mem_cons_self rfl rfl, List.mem_cons_self, rfl⟩
  have hcomponent : (ofJson brokenChain).component? "#/components/schemas/A" =
      some (ofJson brokenSchema) := rfl
  have hmention : (ofJson brokenSchema).Mentions "#/components/schemas/B" :=
    .part rfl (List.mem_cons_of_mem _ List.mem_cons_self)
      (.part rfl List.mem_cons_self (.here rfl))
  exact .step (.start hschema (.here rfl)) hcomponent hmention

theorem breaks_off_at_brokenSchema :
    (ofJson brokenChain).check.valid = true ∧
      ∃ a n, (ofJson brokenChain).Reaches a ∧ IsPointer (ofJson brokenChain).targets a ∧
        (ofJson brokenChain).component? a = some n ∧ n.Mentions "#/components/schemas/B" := by
  have hvalid : (ofJson brokenChain).check.valid = true := by decide +kernel
  have hdangling : ¬ IsPointer (ofJson brokenChain).targets "#/components/schemas/B" :=
    fun h => absurd h.2 (by decide +kernel)
  exact ⟨hvalid,
    (breaks_off_at_components hvalid).2.1 _ reaches_brokenChain hdangling⟩

/-- The check accepts the document, and yet a reference that is reached from its operation points to
nothing. -/
theorem check_of_brokenChain :
    (ofJson brokenChain).checkWorded = .ok ⟨true, [], []⟩ ∧
      (ofJson brokenChain).Reaches "#/components/schemas/B" ∧
      "#/components/schemas/B" ∉ (ofJson brokenChain).targets := by
  refine ⟨?_, reaches_brokenChain, by decide +kernel⟩
  have hworded : (ofJson brokenChain).isWordless = false := by decide +kernel
  have hcheck : (ofJson brokenChain).check = ⟨true, [], []⟩ := by decide +kernel
  rw [checkWorded, hworded, hcheck]
  rfl

end Node

end SequenceApi
