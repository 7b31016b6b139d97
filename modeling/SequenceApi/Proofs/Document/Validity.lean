import SequenceApi.Proofs.Diagram.Status
import SequenceApi.Proofs.Document.Objections
import SequenceApi.Proofs.Document.Origin
import SequenceApi.Proofs.Text.Numeral

/-!
# When generated documents are valid

A generated document can fail its check in two ways. The status of an answer may be out of range:
the reader takes any three digits. Or the check may come upon what looks like a reference: schemas
that are made from bodies have no references of their own, and references to components point to
what is there, but the arrays of bodies stand in the document as examples, and the check reads
examples like everything else. So a document of a service without such bodies is valid just if all
its statuses are in range, and it is valid if the diagram passes the strict check. With such a body,
a diagram may pass the one check and its documents fail the other.

## Main definitions

* `DocumentFault.isBadStatus`, `DocumentFault.isOfReference`: the two kinds of faults
* `Document.statusObjections`: the statuses out of range, one by one
* `Interaction.HoldRefs`: some body of a service has an array with what looks like a reference
* `Document.IsJudged`: how the check judges the document of a service

## Main results

* `Service.StemsFrom.isJudged`: the documents of services are judged so
* `Diagram.check_of_documents`: how documents can fail their check
* `Diagram.documents_valid_of_check`: documents of a diagram that passes the strict check
-/

namespace SequenceApi

open Text

/-! ## Statuses -/

theorem IsCode.ne_empty {status : String} (h : IsCode status) : status ≠ "" := by
  obtain ⟨a, b, c, rfl, -⟩ := h
  intro hempty
  have hlength : 3 = 0 := by simpa using congrArg String.length hempty
  omega

/-- The check takes three digits for a status if they are in range. -/
theorem isStatus_iff_isInRange {status : String} (h : IsCode status) :
    Node.isStatus status = true ↔ IsInRange status := by
  obtain ⟨a, b, c, hs, ha, hb, hc⟩ := h
  have hchars : status.toList = [a, b, c] := by rw [hs, String.toList_ofList]
  have htrim : trim [a, b, c] = [a, b, c] := by
    apply trim_eq_self
    · intro x hx
      obtain rfl : a = x := Option.some_inj.1 hx
      exact isBlank_of_isDigit ha
    · intro x hx
      obtain rfl : c = x := Option.some_inj.1 hx
      exact isBlank_of_isDigit hc
  have hdefault : status ≠ "default" := by
    rintro rfl
    have hlength : 7 = 3 := congrArg List.length hchars
    omega
  simp [Node.isStatus, hdefault, hchars, Node.isStatusCode, ha, hb, hc, htrim, IsInRange]

/-! ## Kinds of faults -/

namespace DocumentFault

/-- The fault of a status. -/
def isBadStatus : DocumentFault → Bool
  | badStatus _ => true
  | _ => false

/-- The fault of a reference, or of a cycle of references. -/
def isOfReference : DocumentFault → Bool
  | badRef _ | cycle _ => true
  | _ => false

theorem severity_eq_error {f : DocumentFault} (h : f.isBadStatus = true ∨ f.isOfReference = true) :
    f.severity = .error := by
  cases f <;> simp_all [isBadStatus, isOfReference, severity]

end DocumentFault

namespace Objection

theorem filter_isBadStatus_map {α : Type} {f : α → Objection}
    (h : ∀ a, (f a).fault.isBadStatus = false) (l : List α) :
    (l.map f).filter (·.fault.isBadStatus) = [] := by
  rw [List.filter_map, List.map_eq_nil_iff, List.filter_eq_nil_iff]
  intro a _
  rw [Function.comp_apply, h a]
  exact Bool.false_ne_true

/-- If all objections are errors, the report lists them all. -/
theorem report_eq {objections : List Objection} (h : ∀ x ∈ objections, x.isError = true) :
    report objections = ⟨objections.isEmpty, objections.map issue, []⟩ := by
  have herrors : objections.filter isError = objections := List.filter_eq_self.2 h
  have hwarnings : objections.filter (fun x => !x.isError) = [] := by
    rw [List.filter_eq_nil_iff]
    intro x hx
    simp [h x hx]
  rw [report, herrors, hwarnings, Report.ofIssues, List.isEmpty_map]
  rfl

end Objection

/-- The answers of an operation whose status is out of range. -/
def Operation.statusObjections (place : String) (o : Operation) : List Objection :=
  (o.reply.toList.filter fun r => !decide (IsInRange r.status)).map fun r =>
    ⟨some place, .badStatus r.status⟩

/-- The answers in a document whose status is out of range, by path and method. -/
def Document.statusObjections (d : Document) : List Objection :=
  d.paths.flatMap fun (path, operations) => operations.flatMap fun (m, o) =>
    o.statusObjections s!"{path} ({m.name})"

/-- The answers in a document. -/
def Document.replies (d : Document) : List Reply :=
  d.paths.flatMap fun (_, operations) => operations.flatMap fun (_, o) => o.reply.toList

theorem Document.statusObjections_eq_nil_iff {d : Document} :
    d.statusObjections = [] ↔ ∀ r ∈ d.replies, IsInRange r.status := by
  simp only [statusObjections, replies, Operation.statusObjections, List.flatMap_eq_nil_iff,
    List.map_eq_nil_iff, List.filter_eq_nil_iff, List.mem_flatMap, Bool.not_eq_true',
    decide_eq_false_iff_not, not_not]
  constructor
  · rintro h r ⟨p, hp, e, he, hr⟩
    exact h p hp e he r hr
  · intro h p hp e he r hr
    exact h r ⟨p, hp, e, he, hr⟩

section

variable {targets : List String} {place : String}

theorem Content.filter_isBadStatus (c : Content) :
    (c.objections targets place).filter (·.fault.isBadStatus) = [] :=
  Objection.filter_isBadStatus_map (fun _ => rfl) _

/-- Among what is wrong with an operation are its statuses out of range. -/
theorem Operation.filter_isBadStatus {o : Operation} (h : ∀ r ∈ o.reply, IsCode r.status) :
    (o.objections targets place).filter (·.fault.isBadStatus) = o.statusObjections place := by
  -- contents have references only, so all statuses are those of the answer
  have hbody : (o.requestBody.toList.flatMap
      (Content.objections targets (place ++ " - request body"))).filter
        (·.fault.isBadStatus) = [] := by
    cases o.requestBody with
    | none => rfl
    | some c => simpa using c.filter_isBadStatus
  rw [Operation.objections, List.filter_append, hbody, List.append_nil, statusObjections]
  cases hr : o.reply with
  | none => rfl
  | some r =>
    have hstatus := isStatus_iff_isInRange (h r hr)
    have hreply : (Reply.objections targets place r).filter (·.fault.isBadStatus) =
        if Node.isStatus r.status then [] else [⟨some place, .badStatus r.status⟩] := by
      rw [Reply.objections, List.filter_append, Content.filter_isBadStatus, List.append_nil]
      split <;> rfl
    by_cases hrange : IsInRange r.status
    · simp [hreply, hstatus.2 hrange, hrange]
    · have hbad : Node.isStatus r.status = false := by
        rw [← Bool.not_eq_true, hstatus]
        exact hrange
      simp [hreply, hbad, hrange]

end

/-! ## References -/

/-- Some interaction with the service has a body in which an array holds what looks like a
reference. -/
def Interaction.HoldRefs (is : List Interaction) (service : String) : Prop :=
  ∃ i ∈ is, i.target = service ∧ i.body.HoldsRef

section

variable {settings : Settings} {is : List Interaction} {name : String}

theorem Interaction.HaveSchema.holdRefs {v : Json} (h : HaveSchema is name v) {ref : String}
    (hm : (Node.ofJson v).Mentions ref) : HoldRefs is name := by
  obtain ⟨i, hi, htarget, rfl⟩ := h
  exact ⟨i, hi, htarget, Schema.holdsRef_of_mentions hm⟩

namespace Service

variable {r : Registry} {v : Json} {targets : List String}

/-- What stands for a body is given. -/
theorem IsPlaced.isTruthy (h : IsPlaced (Interaction.HaveSchema is name) r v) :
    (Node.ofJson v).isTruthy = true := by
  cases h with
  | inline h =>
    obtain ⟨i, -, -, rfl⟩ := h
    obtain ⟨type, fields, hschema⟩ := Schema.IsInferred.eq_obj ⟨i.body, rfl⟩
    rw [hschema]
    rfl
  | _ => rfl

theorem not_mentions_emptyObject {ref : String} : ¬(Node.ofJson emptyObject).Mentions ref := by
  apply Node.not_mentions_obj
  intro e he
  rcases List.mem_pair.1 he with rfl | rfl
  · exact ⟨by simp [refKey], Node.not_mentions_str _⟩
  · exact ⟨by simp [refKey], Node.not_mentions_obj (by simp)⟩

theorem not_mentions_anyObject {ref : String} : ¬(Node.ofJson anyObject).Mentions ref := by
  apply Node.not_mentions_obj
  intro e he
  obtain rfl := List.mem_singleton.1 he
  exact ⟨by simp [refKey], Node.not_mentions_str _⟩

/-- A reference to a component mentions nothing but itself. -/
theorem eq_of_mentions_componentRef {name ref : String}
    (h : (Node.ofJson (componentRef name)).Mentions ref) : ref = schemaPointer ++ name := by
  have href : (Node.ofJson (componentRef name)).ref? = some (schemaPointer ++ name) := by
    simp [Node.ref?_ofJson, componentRef, Json.get?, Table.find, refKey, Json.str?, componentPath,
      schemaPointer]
  cases h with
  | here h => exact Option.some_inj.1 (h.symm.trans href)
  | part hn _ _ => simp [href] at hn

/-- A reference to a target is none that the check objects to. -/
theorem ofRef?_schemaPointer {name : String} (h : schemaPointer ++ name ∈ targets) :
    ReferenceFault.ofRef? targets (schemaPointer ++ name) = none := by
  have hstart : startsHere ['#', '/'] (schemaPointer ++ name).toList = true := by
    rw [String.toList_append]
    rfl
  rw [ReferenceFault.ofRef?, hstart]
  simp [h]

/-- A reference in what stands for a body is that of a component, or comes from a body. -/
theorem IsPlaced.holdRefs (h : IsPlaced (Interaction.HaveSchema is name) r v)
    (htargets : ∀ e ∈ r.components, schemaPointer ++ e.1 ∈ targets) {f : ReferenceFault}
    (hf : f ∈ (Node.ofJson v).refFaults targets) : Interaction.HoldRefs is name := by
  obtain ⟨ref, href, hfault⟩ := List.mem_filterMap.1 hf
  have hm := (Node.mem_refs_iff (Node.coherent_ofJson v)).1 href
  cases h with
  | empty => exact absurd hm not_mentions_emptyObject
  | any => exact absurd hm not_mentions_anyObject
  | inline h => exact h.holdRefs hm
  | component h =>
    -- the component is there, so the check has no objection
    obtain rfl := eq_of_mentions_componentRef hm
    rw [ofRef?_schemaPointer (htargets _ (Table.mem_of_find_eq_some h))] at hfault
    cases hfault

end Service

namespace Operation.StemsFrom

variable {r : Registry} {o : Operation} {targets : List String} {place : String}

theorem reply_placed (h : o.StemsFrom settings is name r) {x : Reply} (hx : x ∈ o.reply) :
    Service.IsPlaced (Interaction.HaveSchema is name) r x.content.schema := by
  obtain ⟨i, -, -, security, reply, request, rfl, hreply, -⟩ := h
  obtain ⟨a, -, rfl⟩ := Option.map_eq_some_iff.1 hx
  exact hreply

theorem body_placed (h : o.StemsFrom settings is name r) {c : Content} (hc : c ∈ o.requestBody) :
    Service.IsPlaced (Interaction.HaveSchema is name) r c.schema := by
  obtain ⟨i, -, -, security, reply, request, rfl, -, hrequest⟩ := h
  simp only [Service.operation] at hc
  split at hc
  · obtain rfl := Option.some_inj.1 hc
    exact hrequest
  · cases hc

theorem isFilled (h : o.StemsFrom settings is name r) : o.IsFilled :=
  ⟨fun _ hx => (h.reply_placed hx).isTruthy, fun _ hc => (h.body_placed hc).isTruthy⟩

/-- The status of an answer in a document is that of an answer in the diagram. -/
theorem status_eq (h : o.StemsFrom settings is name r) {x : Reply} (hx : x ∈ o.reply) :
    ∃ i ∈ is, ∃ a, i.answer = some a ∧ x.status = if a.status = "" then "200" else a.status := by
  obtain ⟨i, hi, -, security, reply, request, rfl, -, -⟩ := h
  obtain ⟨a, ha, rfl⟩ := Option.map_eq_some_iff.1 hx
  exact ⟨i, hi, a, ha, rfl⟩

/-- What is wrong with an operation is a status, or a reference that comes from a body. -/
theorem holdRefs (h : o.StemsFrom settings is name r)
    (htargets : ∀ e ∈ r.components, schemaPointer ++ e.1 ∈ targets) {x : Objection}
    (hx : x ∈ o.objections targets place) :
    x.fault.isBadStatus = true ∨ x.fault.isOfReference = true ∧ Interaction.HoldRefs is name := by
  have hcontent {c : Content} {place : String}
      (hc : Service.IsPlaced (Interaction.HaveSchema is name) r c.schema)
      (hx : x ∈ c.objections targets place) :
      x.fault.isOfReference = true ∧ Interaction.HoldRefs is name := by
    obtain ⟨f, hf, rfl⟩ := List.mem_map.1 hx
    exact ⟨rfl, hc.holdRefs htargets hf⟩
  rcases List.mem_append.1 hx with hx | hx
  · obtain ⟨reply, hreply, hx⟩ := List.mem_flatMap.1 hx
    have hplaced := h.reply_placed (Option.mem_toList.1 hreply)
    rcases List.mem_append.1 hx with hx | hx
    · split at hx
      · cases hx
      · obtain rfl := List.mem_singleton.1 hx
        exact .inl rfl
    · exact .inr (hcontent hplaced hx)
  · obtain ⟨c, hc, hx⟩ := List.mem_flatMap.1 hx
    exact .inr (hcontent (h.body_placed (Option.mem_toList.1 hc)) hx)

end Operation.StemsFrom

/-! ## Documents -/

/-- How the check judges the document of a service. -/
structure Document.IsJudged (d : Document) (is : List Interaction) (service : String) : Prop where
  /-- Whatever is wrong is an error, and there are no warnings. -/
  report : d.node.checkWorded =
    .ok ⟨d.node.objections.isEmpty, d.node.objections.map Objection.issue, []⟩
  /-- The answers have statuses of three digits. -/
  codes : ∀ r ∈ d.replies, IsCode r.status
  /-- Every status out of range is wrong, once. -/
  statuses : d.node.objections.filter (·.fault.isBadStatus) = d.statusObjections
  /-- All else that is wrong are references, and then some body holds what looks like one. -/
  others : ∀ x ∈ d.node.objections, x.fault.isBadStatus = true ∨
    x.fault.isOfReference = true ∧ Interaction.HoldRefs is service

namespace Service.StemsFrom

variable {s : Service} {tags : List String}

/-- The document of a service has all texts that the check asks for. -/
theorem isFilled_document (h : s.StemsFrom Settings.defaults is name) :
    (s.document Settings.defaults tags).IsFilled := by
  refine ⟨?_, ?_, ?_, fun p hp e he => (h.operations p hp e he).isFilled⟩
  · change startsHere ['3', '.'] "3.0.0".toList = true
    decide
  · -- whatever the name of the service is, the template adds to it
    have htitle : s.title = name ++ " API" := by
      have hrender := h.title
      rw [show Settings.defaults.get .titleTemplate = Setting.default .titleTemplate from rfl,
        Template.render_default] at hrender
      exact (Except.ok.inj hrender).symm
    intro hempty
    have hlength := congrArg String.length (htitle.symm.trans hempty)
    rw [String.length_append] at hlength
    have hpos : " API".length = 4 := rfl
    have hzero : "".length = 0 := rfl
    omega
  · change "1.0.0" ≠ ""
    decide

/-- References to components have targets. -/
theorem mem_targets (s : Service) (settings : Settings) (tags : List String) :
    ∀ e ∈ s.registry.components, schemaPointer ++ e.1 ∈ (s.document settings tags).node.targets := by
  intro e he
  rw [Node.mem_targets_iff, Document.schemas_node]
  exact .inl ⟨_, List.mem_map_of_mem he, rfl⟩

/-- A cycle of references comes from a body. -/
theorem holdRefs_of_cycle (h : s.StemsFrom settings is name) {c : Cycle}
    (hc : c ∈ (s.document settings tags).node.cycles) : Interaction.HoldRefs is name := by
  have hloop := Node.isLoop_of_mem_cycles (.json _) hc
  -- a loop has a first edge, and that is a mention in a component
  obtain ⟨a, b, -, n, hn, hm⟩ : ∃ a b, (s.document settings tags).node.RefersTo a b := by
    generalize c.loop = l at hloop
    cases hloop with
    | @mk a rest _ hleads =>
      cases rest with
      | nil => exact ⟨a, a, (List.isChain_cons_cons.1 hleads).1⟩
      | cons b rest => exact ⟨a, b, (List.isChain_cons_cons.1 hleads).1⟩
  -- the component is among the schemas of the document, and those were inferred from bodies
  rcases Table.mem_of_mem_putAll (Table.mem_of_find_eq_some hn) with hmem | hmem
  · cases hmem
  · obtain ⟨e, he, heq⟩ := List.mem_map.1 hmem
    rw [Document.schemas_node] at he
    obtain ⟨component, hcomponent, rfl⟩ := List.mem_map.1 he
    obtain ⟨-, rfl⟩ := Prod.mk.inj heq
    exact (h.keeps.components component hcomponent).holdRefs hm

/-- What is wrong with the document of a service is a status, or what looks like a reference and
comes from a body. -/
theorem holdRefs_of_mem_objections (h : s.StemsFrom Settings.defaults is name) {x : Objection}
    (hx : x ∈ (s.document Settings.defaults tags).node.objections) :
    x.fault.isBadStatus = true ∨ x.fault.isOfReference = true ∧ Interaction.HoldRefs is name := by
  rw [Document.objections_node h.isFilled_document, Node.cycleObjections_eq] at hx
  rcases List.mem_append.1 hx with hx | hx
  · obtain ⟨p, hp, hx⟩ := List.mem_flatMap.1 hx
    obtain ⟨e, he, hx⟩ := List.mem_flatMap.1 hx
    exact (h.operations p hp e he).holdRefs (mem_targets s _ tags) hx
  · obtain ⟨c, hc, rfl⟩ := List.mem_map.1 hx
    exact .inr ⟨rfl, h.holdRefs_of_cycle hc⟩

/-- The statuses in the document of a service are those of answers. -/
theorem exists_answer_of_mem_replies (h : s.StemsFrom settings is name)
    (hcodes : ∀ i ∈ is, ∀ a, i.answer = some a → IsCode a.status) {r : Reply}
    (hr : r ∈ (s.document settings tags).replies) :
    ∃ i ∈ is, ∃ a, i.answer = some a ∧ r.status = a.status := by
  obtain ⟨p, hp, hr⟩ := List.mem_flatMap.1 hr
  obtain ⟨e, he, hr⟩ := List.mem_flatMap.1 hr
  obtain ⟨i, hi, a, ha, hstatus⟩ := (h.operations p hp e he).status_eq (Option.mem_toList.1 hr)
  -- no status is empty, so the one for answers without a status is never used
  rw [if_neg (hcodes i hi a ha).ne_empty] at hstatus
  exact ⟨i, hi, a, ha, hstatus⟩

/-- Among what is wrong with the document of a service are its statuses out of range. -/
theorem filter_isBadStatus (h : s.StemsFrom Settings.defaults is name)
    (hcodes : ∀ r ∈ (s.document Settings.defaults tags).replies, IsCode r.status) :
    (s.document Settings.defaults tags).node.objections.filter (·.fault.isBadStatus) =
      (s.document Settings.defaults tags).statusObjections := by
  have hcycles : (s.document Settings.defaults tags).node.cycleObjections.filter
      (·.fault.isBadStatus) = [] := by
    rw [Node.cycleObjections_eq]
    exact Objection.filter_isBadStatus_map (fun _ => rfl) _
  rw [Document.objections_node h.isFilled_document, List.filter_append, hcycles, List.append_nil,
    List.filter_flatMap, Document.statusObjections]
  -- path by path, and operation by operation
  apply List.flatMap_congr
  intro p hp
  rw [List.filter_flatMap]
  apply List.flatMap_congr
  intro e he
  apply Operation.filter_isBadStatus
  intro r hr
  exact hcodes r (List.mem_flatMap.2 ⟨p, hp, List.mem_flatMap.2 ⟨e, he, Option.mem_toList.2 hr⟩⟩)

theorem isJudged (h : s.StemsFrom Settings.defaults is name)
    (hcodes : ∀ i ∈ is, ∀ a, i.answer = some a → IsCode a.status) :
    (s.document Settings.defaults tags).IsJudged is name := by
  have hreplies : ∀ r ∈ (s.document Settings.defaults tags).replies, IsCode r.status := by
    intro r hr
    obtain ⟨i, hi, a, ha, hstatus⟩ := h.exists_answer_of_mem_replies hcodes hr
    rw [hstatus]
    exact hcodes i hi a ha
  refine ⟨?_, hreplies, h.filter_isBadStatus hreplies, fun x => h.holdRefs_of_mem_objections⟩
  rw [Document.checkWorded_node, Node.check, Objection.report_eq]
  intro x hx
  rw [Objection.isError, DocumentFault.severity_eq_error]
  · rfl
  · exact (h.holdRefs_of_mem_objections hx).imp_right And.left

end Service.StemsFrom

namespace Document.IsJudged

variable {d : Document} (h : d.IsJudged is name)
include h

/-- If all statuses are in range, whatever is wrong are references. -/
theorem isOfReference (hrange : ∀ r ∈ d.replies, IsInRange r.status) {x : Objection}
    (hx : x ∈ d.node.objections) :
    x.fault.isOfReference = true ∧ Interaction.HoldRefs is name := by
  have hnone : d.node.objections.filter (·.fault.isBadStatus) = [] := by
    rw [h.statuses, statusObjections_eq_nil_iff]
    exact hrange
  exact (h.others x hx).resolve_left (List.filter_eq_nil_iff.1 hnone x hx)

/-- Without bodies that hold references, the statuses decide. -/
theorem objections_eq_nil_iff (hrefs : ¬Interaction.HoldRefs is name) :
    d.node.objections = [] ↔ ∀ r ∈ d.replies, IsInRange r.status := by
  constructor
  · intro hnone
    rw [← statusObjections_eq_nil_iff, ← h.statuses, hnone]
    rfl
  · intro hrange
    rw [List.eq_nil_iff_forall_not_mem]
    exact fun x hx => hrefs (h.isOfReference hrange hx).2

end Document.IsJudged

end

/-! ## Diagrams -/

namespace Diagram

variable {text : String} {d : Diagram} {documents : Table String Document}
  {e : String × Document}

/-- How the check judges the documents of a text that is read. -/
theorem isJudged_of_mem (h : Diagram.read text = .ok d)
    (hdocuments : d.documents Settings.defaults = .ok documents) (he : e ∈ documents) :
    e.2.IsJudged d.interactions e.1 := by
  obtain ⟨s, hs, hdocument⟩ := exists_service hdocuments he
  rw [hdocument]
  exact hs.isJudged fun i hi a ha => isCode_of_read h hi ha

/-- The statuses in documents are in range if the text passes the check. -/
theorem isInRange_of_mem_replies (h : Diagram.read text = .ok d)
    (hvalid : (check text).valid = true)
    (hdocuments : d.documents Settings.defaults = .ok documents) (he : e ∈ documents) :
    ∀ r ∈ e.2.replies, IsInRange r.status := by
  obtain ⟨s, hs, hdocument⟩ := exists_service hdocuments he
  rw [hdocument]
  intro r hr
  obtain ⟨i, hi, a, ha, hstatus⟩ :=
    hs.exists_answer_of_mem_replies (fun i hi a ha => isCode_of_read h hi ha) hr
  rw [hstatus]
  exact isInRange_of_check h hvalid hi ha

/-- **How documents fail their check.** Every text that is read has documents, and the check has a
report on each of them, without warnings. There is one error for each status out of range. Any other
error is about a reference or a cycle of references, and there is none unless an array in some body
of the service holds what looks like a reference. Without such a body, a document is valid just if
all its statuses are in range. -/
theorem check_of_documents (h : Diagram.read text = .ok d) :
    ∃ documents, d.documents Settings.defaults = .ok documents ∧
      ∀ e ∈ documents, e.2.IsJudged d.interactions e.1 ∧
        (¬Interaction.HoldRefs d.interactions e.1 →
          ∃ report, e.2.node.checkWorded = .ok report ∧
            (report.valid = true ↔ ∀ r ∈ e.2.replies, IsInRange r.status)) := by
  obtain ⟨documents, hdocuments⟩ := exists_documents_defaults d
  refine ⟨documents, hdocuments, fun e he => ?_⟩
  have hjudged := isJudged_of_mem h hdocuments he
  refine ⟨hjudged, fun hrefs => ⟨_, hjudged.report, ?_⟩⟩
  rw [List.isEmpty_iff]
  exact hjudged.objections_eq_nil_iff hrefs

/-- A text with a status out of range, and an array with what looks like a reference. -/
def refusedText : String :=
  "A->>B: GET /x\nNote over A,B: Body: [\x7b\"$ref\": \"x\"\x7d]\nB-->>A: 700 No"

/-- It has a document, with a reply out of range. -/
theorem check_of_documents_of_refused :
    ∃ d documents x, Diagram.read refusedText = .ok d ∧
      d.documents Settings.defaults = .ok documents ∧ Table.find "B" documents = some x ∧
      x.replies.map Reply.status = ["700"] ∧ x.IsJudged d.interactions "B" ∧
      (¬Interaction.HoldRefs d.interactions "B" →
        ∃ report, x.node.checkWorded = .ok report ∧
          (report.valid = true ↔ ∀ r ∈ x.replies, IsInRange r.status)) := by
  have hreplies : (Diagram.read refusedText).toOption.any (fun d =>
      (d.documents Settings.defaults).toOption.any fun documents =>
        (Table.find "B" documents).any fun x => x.replies.map Reply.status == ["700"]) = true := by
    decide +kernel
  obtain ⟨d, hread, hreplies⟩ := exists_read hreplies
  obtain ⟨documents, hdocuments, hjudged⟩ := check_of_documents hread
  rw [hdocuments] at hreplies
  obtain ⟨x, hx, hreplies⟩ : ∃ x, Table.find "B" documents = some x ∧
      (x.replies.map Reply.status == ["700"]) = true := (Option.any_eq_true ..).1 hreplies
  obtain ⟨hx', hvalid⟩ := hjudged ("B", x) (Table.mem_of_find_eq_some hx)
  exact ⟨d, documents, x, hread, hdocuments, hx, beq_iff_eq.1 hreplies, hx', hvalid⟩

/-- **Documents of a diagram that passes its check.** If the strict check finds no error in a text
that is read, its documents can fail their check by references only, and those come from the arrays
of bodies. The document of a service without such bodies is valid. -/
theorem documents_valid_of_check (h : Diagram.read text = .ok d)
    (hvalid : (check text).valid = true) :
    ∃ documents, d.documents Settings.defaults = .ok documents ∧
      ∀ e ∈ documents, ∃ report, e.2.node.checkWorded = .ok report ∧ report.warnings = [] ∧
        (∀ issue ∈ report.errors, ∃ x : Objection, issue = x.issue ∧ x.fault.isOfReference = true) ∧
        (¬Interaction.HoldRefs d.interactions e.1 → report.valid = true) := by
  obtain ⟨documents, hdocuments⟩ := exists_documents_defaults d
  refine ⟨documents, hdocuments, fun e he => ?_⟩
  have hjudged := isJudged_of_mem h hdocuments he
  have hrange := isInRange_of_mem_replies h hvalid hdocuments he
  refine ⟨_, hjudged.report, rfl, ?_, fun hrefs => ?_⟩
  · intro issue hissue
    obtain ⟨x, hx, rfl⟩ := List.mem_map.1 hissue
    exact ⟨x, rfl, (hjudged.isOfReference hrange hx).1⟩
  · rw [List.isEmpty_iff]
    exact (hjudged.objections_eq_nil_iff hrefs).2 hrange

/-- A body that is a text. -/
theorem documents_valid_of_check_of_text :
    ∃ d, Diagram.read "participant A\nA->>A: PUT /x\nNote over A: Body: \"y\"" = .ok d ∧
      (check "participant A\nA->>A: PUT /x\nNote over A: Body: \"y\"").valid = true ∧
      ∃ documents, d.documents Settings.defaults = .ok documents ∧
        ∀ e ∈ documents, ∃ report, e.2.node.checkWorded = .ok report ∧ report.valid = true := by
  obtain ⟨d, h, hbodies⟩ : ∃ d,
      Diagram.read "participant A\nA->>A: PUT /x\nNote over A: Body: \"y\"" = .ok d ∧
        d.interactions.all (·.body.str? == some "y") = true :=
    exists_read (by decide +kernel)
  have hvalid : (check "participant A\nA->>A: PUT /x\nNote over A: Body: \"y\"").valid = true := by
    decide +kernel
  have hrefs (name : String) : ¬Interaction.HoldRefs d.interactions name := by
    rintro ⟨i, hi, -, items, hitems, -⟩
    have hbody : i.body.str? = some "y" := beq_iff_eq.1 (List.all_eq_true.1 hbodies i hi)
    revert hbody hitems
    cases i.body with
    | str s => simp [Json.contains_atom_iff]
    | _ => simp [Json.str?]
  obtain ⟨documents, hdocuments, hreports⟩ := documents_valid_of_check h hvalid
  refine ⟨d, h, hvalid, documents, hdocuments, fun e he => ?_⟩
  obtain ⟨report, hreport, -, -, hvalid⟩ := hreports e he
  exact ⟨report, hreport, hvalid (hrefs _)⟩

/-- A text with an array of something that looks like a reference. -/
def linkedText : String :=
  "participant A\nA->>A: PUT /x\nNote over A: Body: [\x7b\"$ref\": \"y\"\x7d]"

/-- The text passes its check, while its document fails: the array stands there as an example. -/
theorem check_of_array_of_reference :
    (check linkedText).valid = true ∧
      ∃ d documents, Diagram.read linkedText = .ok d ∧
        d.documents Settings.defaults = .ok documents ∧
        ∃ e ∈ documents, ∃ report, e.2.node.checkWorded = .ok report ∧ report.valid = false := by
  have hfails : (Diagram.read linkedText).toOption.any (fun d =>
      (d.documents Settings.defaults).toOption.any fun documents =>
        documents.any fun e => !e.2.node.check.valid) = true := by decide +kernel
  obtain ⟨d, hread, hfails⟩ := exists_read hfails
  obtain ⟨documents, hdocuments⟩ := exists_documents_defaults d
  rw [hdocuments] at hfails
  obtain ⟨e, he, hinvalid⟩ := List.any_eq_true.1 hfails
  exact ⟨by decide +kernel, d, documents, hread, hdocuments, e, he, _,
    Document.checkWorded_node _, by simpa using hinvalid⟩

end Diagram

end SequenceApi
