import SequenceApi.Proofs.Document.Validity

/-!
# Documents that pass the check

The check goes through a document with many exceptions: it passes over values of the wrong kind,
over what a reference stands for, and over fields that it does not know. What it accepts can be said
without going through anything: a document that is well-formed has a supported version, a title and
paths, and from the paths down every value that is of the right kind is well-formed in its turn. The
check has no objection but warnings just if the document is well-formed.

## Main definitions

* `Node.IsPointer`, `Node.Resolves`: references to something, and values with no others
* `Node.IsContent`, `Node.IsResponse`, `Node.IsOperation`, `Node.IsPathItem`: what is well-formed,
  from the inside out
* `Node.IsAcyclic`: no schema refers to itself by a detour
* `Node.IsWellFormed`: documents

## Main results

* `Objection.valid_report_iff`: a report is valid if no objection is an error
* `Node.pass_contentObjections`, `Node.pass_operationObjections`, `Node.pass_pathObjections`: the
  objections at one level
* `Node.pass_objections`, `Node.valid_check_iff`: the check accepts what is well-formed
-/

namespace SequenceApi

open Text ReferenceGraph

/-! ## Objections that are no errors -/

namespace Objection

/-- None of the objections is an error. -/
def Pass (objections : List Objection) : Prop :=
  ∀ o ∈ objections, o.isError = false

@[simp] theorem pass_nil : Pass [] := by
  simp [Pass]

@[simp] theorem pass_append {os os' : List Objection} : Pass (os ++ os') ↔ Pass os ∧ Pass os' :=
  List.forall_mem_append

@[simp] theorem pass_flatMap {α : Type} {f : α → List Objection} {l : List α} :
    Pass (l.flatMap f) ↔ ∀ a ∈ l, Pass (f a) := by
  simp only [Pass, List.mem_flatMap]
  exact ⟨fun h a ha o ho => h o ⟨a, ha, ho⟩, fun h o ⟨a, ha, ho⟩ => h a ha o ho⟩

/-- Objections that are errors, one for each member of a list. -/
theorem pass_map_error {α : Type} {f : α → Objection} (hf : ∀ a, (f a).isError = true)
    {l : List α} : Pass (l.map f) ↔ l = [] := by
  cases l <;> simp [Pass, hf]

theorem not_pass_error {o : Objection} (h : o.isError = true) : ¬ Pass [o] := by
  simp [Pass, h]

theorem pass_warning {o : Objection} (h : o.isError = false) : Pass [o] := by
  simp [Pass, h]

/-- An error if a condition fails. -/
theorem pass_ite_error {p : Prop} [Decidable p] {o : Objection} (h : o.isError = true) :
    Pass (if p then [] else [o]) ↔ p := by
  split <;> simp [not_pass_error h, *]

/-- A report is valid if no objection is an error. -/
theorem valid_report_iff {os : List Objection} : (report os).valid = true ↔ Pass os := by
  rw [report, Report.valid_ofIssues, List.map_eq_nil_iff, List.filter_eq_nil_iff]
  simp [Pass]

end Objection

open Objection

namespace Node

/-! ## JSON values -/

/-- The node is a JSON value. -/
def IsJson (n : Node) : Prop :=
  ∃ v, n = ofJson v

namespace IsJson

variable {n p : Node}

theorem part (h : n.IsJson) (hp : p ∈ n.parts) : p.IsJson := by
  obtain ⟨v, rfl⟩ := h
  exact exists_of_mem_parts_ofJson hp

theorem get? {k : String} (h : n.IsJson) (hp : n.get? k = some p) : p.IsJson :=
  h.part (mem_parts_of_get?_eq_some hp)

theorem entry {entries : List (Scalar × Node)} (h : n.IsJson) (hn : n.entries? = some entries)
    {e : Scalar × Node} (he : e ∈ entries) : e.2.IsJson := by
  apply h.part
  rw [parts_of_entries?_eq_some hn]
  exact List.mem_map_of_mem he

theorem coherent (h : n.IsJson) : n.Coherent := by
  obtain ⟨v, rfl⟩ := h
  exact coherent_ofJson v

end IsJson

/-! ## References -/

/-- The reference points into the document, to something there. -/
def IsPointer (targets : List String) (ref : String) : Prop :=
  ['#', '/'] <+: ref.toList ∧ ref ∈ targets

/-- Every reference that the value mentions points to something. -/
def Resolves (targets : List String) (n : Node) : Prop :=
  ∀ ref, n.Mentions ref → IsPointer targets ref

theorem ofRef?_eq_none_iff {targets : List String} {ref : String} :
    ReferenceFault.ofRef? targets ref = none ↔ IsPointer targets ref := by
  rw [ReferenceFault.ofRef?, IsPointer, ← List.isPrefixOf_iff_prefix, ← startsHere]
  cases startsHere ['#', '/'] ref.toList with
  | false => simp
  | true => simp

section

variable {targets : List String} {place : String}

theorem pass_refObjections {n : Node} (h : n.IsJson) :
    Pass (refObjections targets place n) ↔ n.Resolves targets := by
  rw [refObjections, pass_map_error (fun _ => rfl), refFaults, List.filterMap_eq_nil_iff]
  simp only [mem_refs_iff h.coherent, ofRef?_eq_none_iff, Resolves]

/-! ## Contents -/

/-- The node has a value under the key that counts as given. -/
def Gives (n : Node) (k : String) (v : Node) : Prop :=
  n.get? k = some v ∧ v.isTruthy = true

/-- The value is a mapping of media types that is not empty. Those media types that are mappings
have schemas, with references that resolve. -/
structure IsContent (targets : List String) (content : Node) : Prop where
  isMap : content.isMap = true
  ne_nil : content.parts ≠ []
  schema : ∀ object ∈ content.parts, object.isMap = true →
    ∃ schema, object.Gives "schema" schema ∧ schema.Resolves targets

/-- The value has a content. -/
def HasContent (targets : List String) (n : Node) : Prop :=
  ∃ content, n.get? "content" = some content ∧ content.IsContent targets

theorem filter_isTruthy_eq_some_iff {n v : Node} {k : String} :
    (n.get? k).filter isTruthy = some v ↔ n.Gives k v := by
  rw [Option.filter_eq_some_iff, Gives]

theorem isGiven_iff {n : Node} {k : String} : n.isGiven k = true ↔ ∃ v, n.Gives k v := by
  rw [isGiven, Option.any_eq_true]
  rfl

theorem pass_mediaObjections {mediaType : Scalar} {object : Node} (h : object.IsJson) :
    Pass (mediaObjections targets place mediaType object) ↔
      (object.isMap = true →
        ∃ schema, object.Gives "schema" schema ∧ schema.Resolves targets) := by
  rw [mediaObjections]
  cases object.isMap with
  | false => simp
  | true =>
    simp only [if_true, forall_const]
    cases hschema : (object.get? "schema").filter isTruthy with
    | none =>
      -- no schema is given, and that is an error
      have hnone : ¬ ∃ schema, object.Gives "schema" schema ∧ schema.Resolves targets := by
        rintro ⟨schema, hgives, -⟩
        rw [filter_isTruthy_eq_some_iff.2 hgives] at hschema
        cases hschema
      simpa only [hnone, iff_false] using not_pass_error rfl
    | some schema =>
      have hgives := filter_isTruthy_eq_some_iff.1 hschema
      rw [pass_refObjections (h.get? hgives.1)]
      constructor
      · exact fun hresolves => ⟨schema, hgives, hresolves⟩
      · rintro ⟨schema', hgives', hresolves⟩
        obtain rfl : schema = schema' := Option.some_inj.1 (hgives.1.symm.trans hgives'.1)
        exact hresolves

theorem pass_contentObjections {owner : ContentOwner} {n : Node} (h : n.IsJson) :
    Pass (contentObjections targets place owner (n.get? "content")) ↔ n.HasContent targets := by
  -- whatever is no mapping, or an empty one, is an error
  have hnone (hcontent : ∀ content, n.get? "content" = some content → content.parts = [] ∨
      content.isMap = false) : ¬ n.HasContent targets := by
    rintro ⟨content, hget, hmap, hne, -⟩
    rcases hcontent content hget with hparts | hkind
    · exact hne hparts
    · simp [hmap] at hkind
  unfold contentObjections
  split
  · next mark e es hcontent =>
    rw [pass_flatMap]
    have hentries : (Node.map mark (e :: es)).entries? = some (e :: es) := rfl
    constructor
    · intro hmedia
      refine ⟨_, hcontent, rfl, by simp [parts], ?_⟩
      intro object hobject
      obtain ⟨e', he', rfl⟩ := List.mem_map.1 hobject
      exact (pass_mediaObjections ((h.get? hcontent).entry hentries he')).1 (hmedia e' he')
    · rintro ⟨content, hget, -, -, hschema⟩ e' he'
      obtain rfl := Option.some_inj.1 (hcontent.symm.trans hget)
      rw [pass_mediaObjections ((h.get? hcontent).entry hentries he')]
      exact hschema e'.2 (List.mem_map_of_mem he')
  · next hother =>
    have hbad : ¬ n.HasContent targets := by
      apply hnone
      intro content hget
      cases content with
      | map mark entries =>
        cases entries with
        | nil => exact .inl rfl
        | cons e es => exact absurd hget (hother mark e es)
      | _ => exact .inr rfl
    simpa only [hbad, iff_false] using not_pass_error rfl

/-! ## Operations -/

/-- A key that stands for responses: the default, or a status in range. A line feed may stand behind
a status. -/
def IsStatusKey (key : String) : Prop :=
  key = "default" ∨ ∃ code, IsCode code ∧ IsInRange code ∧ (key = code ∨ key = code ++ "\n")

/-- A response that bears a reference has references that resolve, any other one has a content. -/
structure IsResponse (targets : List String) (response : Node) : Prop where
  reference : response.hasKey refKey = true → response.Resolves targets
  content : response.hasKey refKey = false → response.HasContent targets

/-- The value is an operation: it has responses under statuses, and its request body and its
parameters are well-formed if it has them. A value that is no mapping can stand for a response, a
request body or a parameter. -/
structure IsOperation (targets : List String) (operation : Node) : Prop where
  responses : ∃ responses entries, operation.get? "responses" = some responses ∧
    responses.entries? = some entries ∧
      ∀ e ∈ entries, IsStatusKey e.1.text ∧ (e.2.isMap = true → e.2.IsResponse targets)
  requestBody : ∀ body, operation.get? "requestBody" = some body → body.isMap = true →
    body.hasKey refKey = false → body.HasContent targets
  parameters : ∀ parameters, operation.get? "parameters" = some parameters →
    ∃ mark items, parameters = .seq mark items ∧
      ∀ p ∈ items, p.isMap = true → ∀ within, p.Gives "in" within →
        ∃ s ∈ parameterPlaces, within = .scalar (.str s)

/-! ### Statuses -/

theorem isStatusCode_iff {cs : List Char} :
    isStatusCode cs = true ↔ ∃ a b c, (cs = [a, b, c] ∨ cs = [a, b, c, '\n']) ∧
      isDigit a = true ∧ isDigit b = true ∧ isDigit c = true := by
  constructor
  · intro h
    unfold isStatusCode at h
    split at h
    · next a b c =>
      simp only [Bool.and_eq_true] at h
      exact ⟨a, b, c, .inl rfl, h.1.1, h.1.2, h.2⟩
    · next a b c =>
      simp only [Bool.and_eq_true] at h
      exact ⟨a, b, c, .inr rfl, h.1.1, h.1.2, h.2⟩
    · cases h
  · rintro ⟨a, b, c, rfl | rfl, ha, hb, hc⟩
    · simp [isStatusCode, ha, hb, hc]
    · simp [isStatusCode, ha, hb, hc]

/-- A line feed behind three digits is no part of their number. -/
theorem trim_digits {a b c : Char} {cs : List Char} (ha : isDigit a = true)
    (hc : isDigit c = true) (hcs : cs = [a, b, c] ∨ cs = [a, b, c, '\n']) :
    trim cs = [a, b, c] := by
  have ha := isBlank_of_isDigit ha
  have hc := isBlank_of_isDigit hc
  have hfeed : isBlank '\n' = true := by decide
  rcases hcs with rfl | rfl
  · simp [trim, trimRight, skipBlanks, ha, hc]
  · simp [trim, trimRight, skipBlanks, ha, hc, hfeed]

theorem isStatus_iff {key : String} : isStatus key = true ↔ IsStatusKey key := by
  rw [isStatus, Bool.or_eq_true, beq_iff_eq, IsStatusKey]
  refine or_congr_right ?_
  rw [Bool.and_eq_true, isStatusCode_iff, Bool.and_eq_true, decide_eq_true_iff, decide_eq_true_iff]
  constructor
  · rintro ⟨⟨a, b, c, hkey, ha, hb, hc⟩, hrange⟩
    rw [trim_digits ha hc hkey] at hrange
    refine ⟨String.ofList [a, b, c], ⟨a, b, c, rfl, ha, hb, hc⟩, ?_, ?_⟩
    · rwa [IsInRange, String.toList_ofList]
    · rcases hkey with hkey | hkey
      · exact .inl (String.toList_inj.1 (by rw [hkey, String.toList_ofList]))
      · refine .inr (String.toList_inj.1 ?_)
        rw [hkey, String.toList_append, String.toList_ofList]
        rfl
  · rintro ⟨code, ⟨a, b, c, rfl, ha, hb, hc⟩, hrange, hkey⟩
    have hcs : key.toList = [a, b, c] ∨ key.toList = [a, b, c, '\n'] := by
      rcases hkey with rfl | rfl
      · exact .inl (String.toList_ofList ..)
      · refine .inr ?_
        rw [String.toList_append, String.toList_ofList]
        rfl
    refine ⟨⟨a, b, c, hcs, ha, hb, hc⟩, ?_⟩
    rw [trim_digits ha hc hcs]
    rwa [IsInRange, String.toList_ofList] at hrange

/-! ### Parts of operations -/

theorem pass_responseObjections {key : Scalar} {response : Node} (h : response.IsJson) :
    Pass (responseObjections targets place key response) ↔
      IsStatusKey key.text ∧ (response.isMap = true → response.IsResponse targets) := by
  unfold responseObjections
  rw [pass_append, pass_ite_error rfl, isStatus_iff]
  refine and_congr_right' ?_
  cases response.isMap with
  | false => simp
  | true =>
    simp only [if_true, forall_const]
    cases hkey : response.hasKey refKey with
    | true =>
      rw [if_pos rfl, pass_refObjections h]
      exact ⟨fun hresolves => ⟨fun _ => hresolves, by simp [hkey]⟩, fun hr => hr.reference hkey⟩
    | false =>
      rw [if_neg Bool.false_ne_true, pass_contentObjections h]
      exact ⟨fun hcontent => ⟨by simp [hkey], fun _ => hcontent⟩, fun hr => hr.content hkey⟩

theorem pass_responsesObjections {operation : Node} (h : operation.IsJson) :
    Pass (responsesObjections targets place (operation.get? "responses")) ↔
      ∃ responses entries, operation.get? "responses" = some responses ∧
        responses.entries? = some entries ∧
          ∀ e ∈ entries, IsStatusKey e.1.text ∧ (e.2.isMap = true → e.2.IsResponse targets) := by
  cases hget : operation.get? "responses" with
  | none => simpa [responsesObjections] using not_pass_error rfl
  | some responses =>
    cases responses with
    | map mark entries =>
      simp only [responsesObjections, pass_flatMap, Option.some_inj, exists_and_left,
        exists_eq_left', entries?]
      refine forall₂_congr fun e he => pass_responseObjections ?_
      exact (h.get? hget).entry rfl he
    | seq mark items => simpa [responsesObjections, entries?] using not_pass_error rfl
    | scalar s => cases s <;> simpa [responsesObjections, entries?] using not_pass_error rfl

theorem pass_bodyObjections {operation : Node} (h : operation.IsJson) :
    Pass (bodyObjections targets place (operation.get? "requestBody")) ↔
      ∀ body, operation.get? "requestBody" = some body → body.isMap = true →
        body.hasKey refKey = false → body.HasContent targets := by
  unfold bodyObjections
  cases hget : operation.get? "requestBody" with
  | none => simp
  | some body =>
    rw [Option.filter_some]
    simp only [Option.some_inj, forall_eq']
    cases body.isMap with
    | false => simp
    | true =>
      cases body.hasKey refKey with
      | true => simp
      | false => simp [pass_contentObjections (h.get? hget)]

theorem isPlace_iff {n : Node} :
    isPlace n = true ↔ ∃ s ∈ parameterPlaces, n = .scalar (.str s) := by
  cases n with
  | scalar s => cases s <;> simp [isPlace]
  | _ => simp [isPlace]

/-- A path parameter that is not required is a warning, and makes no difference. -/
theorem pass_parameterObjections {parameter : Node} :
    Pass (parameterObjections place parameter) ↔
      (parameter.isMap = true → ∀ within, parameter.Gives "in" within →
        ∃ s ∈ parameterPlaces, within = .scalar (.str s)) := by
  unfold parameterObjections
  cases parameter.isMap with
  | false => simp
  | true =>
    simp only [if_true, forall_const, Gives, ← isPlace_iff]
    cases hget : parameter.get? "in" with
    | none => simp
    | some within =>
      have hwarning (p : Prop) [Decidable p] (name : String) :
          Pass (if p then [⟨some place, .optionalPath name⟩] else []) := by
        split
        · exact pass_warning rfl
        · exact pass_nil
      simp only [pass_append, hwarning, and_true, Option.some_inj]
      cases htruthy : within.isTruthy <;> cases hplace : isPlace within
      · simp [htruthy]
      · simp [htruthy]
      · -- the place is given and unknown: that is the error
        have herror : ¬ ∀ n, within = n ∧ n.isTruthy = true → isPlace n = true := by
          intro h
          simp [h within ⟨rfl, htruthy⟩] at hplace
        simpa [htruthy, hplace, herror] using not_pass_error rfl
      · simp [hplace]

theorem pass_parametersObjections {operation : Node} :
    Pass (parametersObjections place (operation.get? "parameters")) ↔
      ∀ parameters, operation.get? "parameters" = some parameters →
        ∃ mark items, parameters = .seq mark items ∧
          ∀ p ∈ items, p.isMap = true → ∀ within, p.Gives "in" within →
            ∃ s ∈ parameterPlaces, within = .scalar (.str s) := by
  cases operation.get? "parameters" with
  | none => simp [parametersObjections]
  | some parameters =>
    cases parameters with
    | seq mark items =>
      simp only [parametersObjections, pass_flatMap, pass_parameterObjections, Option.some_inj,
        forall_eq', seq.injEq, ↓existsAndEq, true_and]
    | scalar s => simpa [parametersObjections] using not_pass_error rfl
    | map mark entries => simpa [parametersObjections] using not_pass_error rfl

theorem pass_operationObjections {operation : Node} (h : operation.IsJson) :
    Pass (operationObjections targets place operation) ↔ operation.IsOperation targets := by
  rw [operationObjections, pass_append, pass_append, pass_responsesObjections h,
    pass_bodyObjections h, pass_parametersObjections]
  constructor
  · rintro ⟨⟨hresponses, hbody⟩, hparameters⟩
    exact ⟨hresponses, hbody, hparameters⟩
  · rintro ⟨hresponses, hbody, hparameters⟩
    exact ⟨⟨hresponses, hbody⟩, hparameters⟩

/-! ## Paths -/

/-- A path item is no mapping, or each of its keys is that of an operation, another field of path
items or an extension, and each mapping under the key of an operation is an operation. -/
def IsPathItem (targets : List String) (item : Node) : Prop :=
  ∀ entries, item.entries? = some entries → ∀ e ∈ entries,
    (e.1.text ∈ operationKeys ∨ e.1.text ∈ otherKeys ∨ ['x', '-'] <+: e.1.text.toList) ∧
      (e.1.text ∈ operationKeys → e.2.isMap = true → e.2.IsOperation targets)

theorem pass_itemObjections {path : String} {key : Scalar} {n : Node} (h : n.IsJson) :
    Pass (itemObjections targets path key n) ↔
      (key.text ∈ operationKeys ∨ key.text ∈ otherKeys ∨ ['x', '-'] <+: key.text.toList) ∧
        (key.text ∈ operationKeys → n.isMap = true → n.IsOperation targets) := by
  simp only [itemObjections, List.contains_iff_mem]
  by_cases hkey : key.text ∈ operationKeys
  · rw [if_pos hkey]
    cases n.isMap with
    | false => simp [hkey]
    | true => simp [hkey, pass_operationObjections h]
  · rw [if_neg hkey, pass_ite_error rfl, Bool.or_eq_true, List.contains_iff_mem, startsHere,
      List.isPrefixOf_iff_prefix]
    simp [hkey]

theorem pass_pathObjections {path : Scalar} {item : Node} (h : item.IsJson) :
    Pass (pathObjections targets path item) ↔ item.IsPathItem targets := by
  rw [pathObjections, IsPathItem]
  cases hentries : item.entries? with
  | none => simp
  | some entries =>
    simp only [pass_flatMap, Option.some_inj, forall_eq']
    exact forall₂_congr fun e he => pass_itemObjections (h.entry hentries he)

end

/-! ## Documents -/

/-- No loop leads from schema to schema, except from a schema to itself at once; and such a schema
has no approach from another one. -/
structure IsAcyclic (document : Node) : Prop where
  loop : ∀ l, IsLoop document.RefersTo l → l.length < 2
  approach : ∀ x, document.RefersTo x x → ¬ document.HasApproach x

/-- The document has a supported version, a title and a version of its own, and paths; every item of
its paths is well-formed, and its schemas refer to each other without cycles. -/
structure IsWellFormed (document : Node) : Prop where
  isMap : document.isMap = true
  version : ∃ s, document.get? "openapi" = some (.scalar (.str s)) ∧ ['3', '.'] <+: s.toList
  info : ∃ info, document.get? "info" = some info ∧ info.isMap = true ∧
    (∃ title, info.Gives "title" title) ∧ ∃ version, info.Gives "version" version
  paths : ∃ paths, document.get? "paths" = some paths ∧ paths ≠ .scalar .null
  items : ∀ entries, document.paths? = some entries →
    ∀ e ∈ entries, e.2.IsPathItem document.targets
  acyclic : document.IsAcyclic

variable {document : Node}

theorem pass_cycleObjections (h : document.IsJson) :
    Pass document.cycleObjections ↔ document.IsAcyclic := by
  obtain ⟨v, rfl⟩ := h
  have hdecoded : (ofJson v).IsDecoded := .json v
  rw [cycleObjections_eq, pass_map_error fun _ => rfl]
  constructor
  · intro hnil
    refine ⟨fun l hl => ?_, fun x hself happroach => ?_⟩
    · -- a longer loop would have been found
      by_contra hlen
      have hone := count_loop_eq_one hdecoded hl (Nat.not_lt.1 hlen)
      rw [hnil] at hone
      cases hone
    · have hone := (count_selfLoop hdecoded x).2.2 ⟨hself, happroach⟩
      rw [hnil] at hone
      cases hone
  · rintro ⟨hloops, hselfs⟩
    rw [List.eq_nil_iff_forall_not_mem]
    intro c hc
    have hloop := isLoop_of_mem_cycles hdecoded hc
    have hlen := hloops _ hloop
    -- the loop that was found is that of a schema with itself, and that has an approach
    obtain ⟨x, hx⟩ : ∃ x, c.loop = [x] := by
      generalize c.loop = l at hloop hlen
      cases hloop with
      | @mk a rest _ _ =>
        cases rest with
        | nil => exact ⟨a, rfl⟩
        | cons b rest =>
          simp only [List.length_cons] at hlen
          omega
    obtain ⟨refs, hrefs, hclosing⟩ := exists_isClosing_of_mem_cycles hc
    obtain ⟨hself, happroach⟩ :=
      (exists_isClosing_singleton_iff hdecoded).1 ⟨refs, hrefs, c, hclosing, hx⟩
    exact hselfs x hself happroach

theorem pass_requiredFaults :
    Pass (document.requiredFaults.map fun f => ⟨none, f⟩) ↔
      (∃ v, document.Gives "openapi" v) ∧
        (∃ info, document.get? "info" = some info ∧ info.isMap = true ∧
          (∃ title, info.Gives "title" title) ∧ ∃ version, info.Gives "version" version) ∧
        ∃ paths, document.get? "paths" = some paths ∧ paths ≠ .scalar .null := by
  have hfield (n : Node) (k : String) (f : DocumentFault) (hf : f.severity = .error) :
      Pass ((if n.isGiven k then [] else [f]).map fun f => ⟨none, f⟩) ↔ ∃ v, n.Gives k v := by
    rw [← isGiven_iff]
    cases n.isGiven k with
    | true => simp
    | false => simpa using not_pass_error (by simp [isError, hf])
  rw [requiredFaults, List.map_append, List.map_append, pass_append, pass_append, and_assoc]
  refine and_congr (hfield document "openapi" .noVersion rfl) (and_congr ?_ ?_)
  · cases hinfo : (document.get? "info").filter Node.isMap with
    | none =>
      have hnone : ¬ ∃ info, document.get? "info" = some info ∧ info.isMap = true ∧
          (∃ title, info.Gives "title" title) ∧ ∃ version, info.Gives "version" version := by
        rintro ⟨info, hget, hmap, -⟩
        rw [hget, Option.filter_some, if_pos hmap] at hinfo
        cases hinfo
      simpa only [hnone, iff_false, List.map_singleton] using not_pass_error rfl
    | some info =>
      obtain ⟨hget, hmap⟩ := Option.filter_eq_some_iff.1 hinfo
      simp only [List.map_append, pass_append, hfield info "title" .noTitle rfl,
        hfield info "version" .noApiVersion rfl]
      simp [hget, hmap]
  · cases document.get? "paths" with
    | none => simpa using not_pass_error rfl
    | some paths =>
      cases paths with
      | scalar s =>
        cases s with
        | null => simpa using not_pass_error rfl
        | _ => simp
      | _ => simp

theorem pass_versionFaults :
    Pass document.versionFaults ↔
      ∀ v, document.Gives "openapi" v → ∃ s, v = .scalar (.str s) ∧ ['3', '.'] <+: s.toList := by
  unfold versionFaults
  simp only [← filter_isTruthy_eq_some_iff]
  split
  · next hnone => simp [hnone]
  · next s hs =>
    rw [pass_ite_error rfl, hs, startsHere, List.isPrefixOf_iff_prefix]
    simp
  · next version hother hversion =>
    have hbad : ¬ ∃ s, version = .scalar (.str s) ∧ ['3', '.'] <+: s.toList := by
      rintro ⟨s, rfl, -⟩
      exact hother s rfl
    rw [hversion]
    simpa only [Option.some_inj, forall_eq', hbad, iff_false] using not_pass_error rfl

/-- A version that is given and supported is a text with the right beginning. -/
theorem gives_version_iff :
    (∃ v, document.Gives "openapi" v) ∧
        (∀ v, document.Gives "openapi" v → ∃ s, v = .scalar (.str s) ∧ ['3', '.'] <+: s.toList) ↔
      ∃ s, document.get? "openapi" = some (.scalar (.str s)) ∧ ['3', '.'] <+: s.toList := by
  constructor
  · rintro ⟨⟨v, hv⟩, hversion⟩
    obtain ⟨s, rfl, hs⟩ := hversion v hv
    exact ⟨s, hv.1, hs⟩
  · rintro ⟨s, hget, hs⟩
    -- a text that starts with something is not empty
    have htruthy : (Node.scalar (.str s)).isTruthy = true := by
      rw [isTruthy, Scalar.isTruthy, bne_iff_ne]
      rintro rfl
      simp at hs
    refine ⟨⟨_, hget, htruthy⟩, fun v hv => ?_⟩
    obtain rfl := Option.some_inj.1 (hget.symm.trans hv.1)
    exact ⟨s, rfl, hs⟩

theorem pass_pathsObjections (h : document.IsJson) :
    (∀ e ∈ document.paths?.getD [], Pass (pathObjections document.targets e.1 e.2)) ↔
      ∀ entries, document.paths? = some entries →
        ∀ e ∈ entries, e.2.IsPathItem document.targets := by
  cases hpaths : document.paths? with
  | none => simp
  | some entries =>
    simp only [Option.getD_some, Option.some_inj, forall_eq']
    refine forall₂_congr fun e he => pass_pathObjections ?_
    obtain ⟨paths, hget, hentries⟩ := Option.bind_eq_some_iff.1 hpaths
    exact (h.get? hget).entry hentries he

/-- No objection to a JSON value is an error just if the value is a well-formed document. -/
theorem pass_objections (h : document.IsJson) :
    Pass document.objections ↔ document.IsWellFormed := by
  rw [objections]
  cases hmap : document.isMap with
  | false =>
    have hbad : ¬ document.IsWellFormed := by
      intro hwell
      simp [hwell.isMap] at hmap
    simpa only [hbad, iff_false, Bool.false_eq_true, if_false] using not_pass_error rfl
  | true =>
    simp only [if_true, pass_append, pass_flatMap, pass_requiredFaults, pass_versionFaults,
      pass_pathsObjections h, pass_cycleObjections h]
    constructor
    · rintro ⟨⟨⟨⟨hgiven, hinfo, hpaths⟩, hversion⟩, hitems⟩, hacyclic⟩
      exact ⟨hmap, gives_version_iff.1 ⟨hgiven, hversion⟩, hinfo, hpaths, hitems, hacyclic⟩
    · rintro ⟨-, hversion, hinfo, hpaths, hitems, hacyclic⟩
      obtain ⟨hgiven, hversion⟩ := gives_version_iff.2 hversion
      exact ⟨⟨⟨⟨hgiven, hinfo, hpaths⟩, hversion⟩, hitems⟩, hacyclic⟩

/-- **Acceptance.** The check accepts a JSON value just if it is a well-formed document: a mapping
with a version that starts with a three and a point, a title and a version of its own, and paths that
are there. If its paths are a mapping, then every key of a path item is that of an operation, another
field or an extension; every operation has responses under statuses, and the responses and the
request body that bear no reference have contents, with a schema in each media type; parameters are a
list, with known places. All references in those schemas and in responses that bear one are targets
in the document, and no chain of references comes back to a schema that it holds. -/
theorem valid_check_iff (v : Json) :
    (ofJson v).check.valid = true ↔ (ofJson v).IsWellFormed := by
  rw [check, valid_report_iff]
  exact pass_objections ⟨v, rfl⟩

end Node

end SequenceApi
