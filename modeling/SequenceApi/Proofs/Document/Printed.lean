import SequenceApi.Document.Format
import SequenceApi.Proofs.Document.Objections
import SequenceApi.Proofs.Document.Readable
import SequenceApi.Proofs.Document.Reporting
import SequenceApi.Proofs.Json.RoundTrip

/-!
# The check of printed documents

The documents of a diagram are printed as one object, service by service, and that text can be
checked. It is read back as what was printed, whatever bodies there are. An object with the key of a
version counts as one document, and every other one as a map of services: so the check of the text
is the check of the documents, unless a service has the name of that key. With such a service the
report is another one: something is wrong with the object as a whole, which has no place, while the
check of services puts each issue into its service.

## Main results

* `Document.read_render`: documents are read back
* `Services.context_ne_null`: the issues of services have places
* `Document.exists_unplaced`: an issue of an object that counts as a document
* `Document.checkAny_mapJson_iff`: what an object of documents counts as
* `Diagram.printed_check_iff`: when the check of the text is that of the documents
-/

namespace SequenceApi

/-! ## Places of issues -/

namespace Services

theorem inService_context_ne_null {service : Scalar} (h : service ≠ .null) (i : Issue) :
    (i.inService service).context ≠ .null := by
  rw [Issue.inService]
  dsimp only
  split
  · simp
  · exact h

/-- An error about a shared identifier names its services. -/
theorem sharedId_context_ne_null {id : String} {services : List Scalar} {i : Issue}
    (h : sharedId id services = .ok i) : i.context ≠ .null := by
  unfold sharedId at h
  split at h
  · cases h
  · obtain rfl := Except.ok.inj h
    simp [Objection.issue]

/-- The issues of services have places, if the services have names. -/
theorem context_ne_null {documents : List (Scalar × Node)} {report : Report}
    (h : check documents = .ok report) (hnames : ∀ e ∈ documents, e.1 ≠ .null) :
    ∀ i ∈ report.errors, i.context ≠ .null := by
  unfold check at h
  cases hall : documents.mapM fun e => issues e.1 e.2 with
  | error e =>
    rw [hall] at h
    cases h
  | ok all =>
    cases hshared : sharedIds (owners documents) with
    | error e =>
      rw [hall, hshared] at h
      cases h
    | ok shared =>
      rw [hall, hshared] at h
      obtain rfl := Except.ok.inj h
      intro i hi
      rcases List.mem_append.1 hi with hi | hi
      · -- an issue of one service
        obtain ⟨pair, hpair, hi⟩ := List.mem_flatMap.1 hi
        obtain ⟨e, he, hissues⟩ := exists_of_mem_mapM hall hpair
        rw [issues_eq] at hissues
        split at hissues
        · cases hissues
        · split at hissues
          · cases hissues
          · split at hissues
            · cases hissues
            · obtain rfl := Except.ok.inj hissues
              obtain ⟨j, -, rfl⟩ := List.mem_map.1 hi
              exact inService_context_ne_null (hnames e he) j
      · obtain ⟨e, -, hid⟩ := exists_of_mem_mapM hshared hi
        exact sharedId_context_ne_null hid

end Services

/-! ## Documents as one object -/

namespace Document

variable (documents : Table String Document)

theorem get?_mapJson (k : String) :
    (Node.ofJson (mapJson documents)).get? k = (Table.find k documents).map node := by
  have hfind : (mapJson documents).get? k = (Table.find k documents).map toJson :=
    Table.find_map toJson k documents
  rw [Node.get?_ofJson, hfind, Option.map_map]
  rfl

theorem entries?_mapJson :
    (Node.ofJson (mapJson documents)).entries? =
      some (documents.map fun e => (.str e.1, e.2.node)) := by
  rw [mapJson, Node.ofJson, Node.ofFields_eq_map, List.map_map]
  rfl

theorem hasKey_mapJson {k : String} :
    (Node.ofJson (mapJson documents)).hasKey k = true ↔ k ∈ Table.keys documents := by
  rw [Node.hasKey, get?_mapJson, Option.isSome_map]
  exact Table.has_iff

/-- An object of documents has no title, be it for a document called `info`. -/
theorem exists_requiredFault :
    ∃ f ∈ (Node.ofJson (mapJson documents)).requiredFaults, f.severity = .error := by
  rw [Node.requiredFaults, get?_mapJson _ "info"]
  cases hinfo : Table.find "info" documents with
  | none => exact ⟨.noInfo, by simp, rfl⟩
  | some d =>
    have htitle : d.node.isGiven "title" = false := by
      simp [Node.isGiven, get?_node, get?_toJson, Table.find]
    have hmap : ((some d).map node).filter Node.isMap = some d.node := rfl
    rw [hmap]
    exact ⟨.noTitle, by simp [htitle], rfl⟩

/-- As a document, an object of documents has a fault without a place. -/
theorem exists_unplaced :
    ∃ i ∈ (Node.ofJson (mapJson documents)).check.errors, i.context = .null := by
  obtain ⟨f, hf, hseverity⟩ := exists_requiredFault documents
  refine ⟨Objection.issue ⟨none, f⟩, List.mem_map_of_mem (List.mem_filter.2 ⟨?_, ?_⟩), rfl⟩
  · have hmap : (Node.ofJson (mapJson documents)).isMap = true := rfl
    rw [Node.objections, if_pos hmap]
    refine List.mem_append_left _ (List.mem_append_left _ (List.mem_append_left _ ?_))
    exact List.mem_map_of_mem hf
  · rw [Objection.isError, hseverity]
    rfl

variable {documents}

/-- A text of documents is read back, also where its form is not known. -/
theorem read_render {n : Nat} (h : (mapJson documents).IsWithin n) (hn : n ≤ Json.deepest)
    {hint : FormHint} (hhint : hint ≠ .yaml) :
    Content.read hint (DocumentFormat.json.render (mapJson documents)) =
      .ok (Node.ofJson (mapJson documents)) := by
  refine Content.read_of_json ?_ hhint
  rw [DocumentFormat.render, Json.read, Json.print, String.toList_append, String.toList_ofList]
  have hblank : ∀ c ∈ "\n".toList, Json.isSpace c = true := by simp [Json.isSpace]
  exact Json.readChars_chars Json.isRegular_indented h.readable (Nat.le_trans h.depth hn) hblank

/-- A map of documents has a report, if a text can have it. -/
theorem exists_report (h : (mapJson documents).IsReadable) :
    ∃ report, Services.check (documents.map fun e => (.str e.1, e.2.node)) = .ok report := by
  rw [Services.check_eq_ok_iff]
  constructor
  · intro e he
    obtain ⟨⟨name, d⟩, hd, rfl⟩ := List.mem_map.1 he
    have hjson : d.toJson.IsReadable := h.field (e := (name, d.toJson)) (List.mem_map_of_mem hd)
    have hshort : d.node.IsShort := hjson.isShort_ofJson
    exact ⟨hshort.isWordless, fun _ => rfl, fun _ => rfl⟩
  · intro e he e' _ _ id _ _
    obtain ⟨d, -, rfl⟩ := List.mem_map.1 he
    rfl

/-- An object of documents is checked as a map of services, unless it has the key of a version. -/
theorem checkAny_mapJson_iff (h : (mapJson documents).IsReadable) {report : Report}
    (hreport : Services.check (documents.map fun e => (.str e.1, e.2.node)) = .ok report) :
    (Node.ofJson (mapJson documents)).checkAny = .ok report ↔ "openapi" ∉ Table.keys documents := by
  rw [Node.checkAny, entries?_mapJson, ← hasKey_mapJson]
  dsimp only
  constructor
  · intro hcheck hkey
    rw [if_pos hkey, Node.checkWorded, h.isShort_ofJson.isWordless] at hcheck
    obtain rfl := Except.ok.inj hcheck
    -- what is wrong with the object has no place, and the issues of services have one
    obtain ⟨i, hi, hnull⟩ := exists_unplaced documents
    refine Services.context_ne_null hreport (fun e he => ?_) i hi hnull
    obtain ⟨d, -, rfl⟩ := List.mem_map.1 he
    exact Scalar.noConfusion
  · intro hkey
    rw [if_neg hkey, hreport]

end Document

namespace Diagram

/-- **The check of printed documents.** The documents of every text that is read have a report as
services. Their text is read back as what was printed, unless it is hinted to be YAML, and the check
of it has the same report just if no service has the name `openapi`. -/
theorem printed_check_iff {text : String} {d : Diagram} (h : Diagram.read text = .ok d)
    {settings : Settings} {documents : Table String Document}
    (hdocuments : d.documents settings = .ok documents) {hint : FormHint} (hhint : hint ≠ .yaml) :
    ∃ report,
      Services.check (documents.map fun e => (.str e.1, e.2.node)) = .ok report ∧
        Content.read hint (DocumentFormat.json.render (Document.mapJson documents)) =
          .ok (Node.ofJson (Document.mapJson documents)) ∧
        ((Node.ofJson (Document.mapJson documents)).checkAny = .ok report ↔
          "openapi" ∉ Table.keys documents) := by
  have hwithin := isWithin_documents h hdocuments
  obtain ⟨report, hreport⟩ := Document.exists_report hwithin.readable
  exact ⟨report, hreport, Document.read_render hwithin (by decide) hhint,
    Document.checkAny_mapJson_iff hwithin.readable hreport⟩

/-- The document of a service with another name. -/
theorem printed_check_of_other_name :
    ∃ d documents report, Diagram.read "A->>B: GET /x" = .ok d ∧
      d.documents Settings.defaults = .ok documents ∧ Table.keys documents = ["B"] ∧
      Services.check (documents.map fun e => (.str e.1, e.2.node)) = .ok report ∧
      Content.read .unknown (DocumentFormat.json.render (Document.mapJson documents)) =
        .ok (Node.ofJson (Document.mapJson documents)) ∧
      (Node.ofJson (Document.mapJson documents)).checkAny = .ok report := by
  have hnames : (Diagram.read "A->>B: GET /x").toOption.any (fun d =>
      (d.documents Settings.defaults).toOption.any fun documents =>
        Table.keys documents == ["B"]) = true := by decide +kernel
  obtain ⟨d, hread, hnames⟩ := exists_read hnames
  obtain ⟨documents, hdocuments⟩ := exists_documents_defaults d
  rw [hdocuments] at hnames
  have hkeys : Table.keys documents = ["B"] := beq_iff_eq.1 hnames
  have hhint : FormHint.unknown ≠ .yaml := by decide
  obtain ⟨report, hreport, hprinted, hcheck⟩ := printed_check_iff hread hdocuments hhint
  exact ⟨d, documents, report, hread, hdocuments, hkeys, hreport, hprinted,
    hcheck.2 (by simp [hkeys])⟩

/-- A service with the name of the key. The report of its text is not that of its document. -/
theorem printed_check_of_openapi :
    ∃ d documents report n, Diagram.read "A->>openapi: GET /x" = .ok d ∧
      d.documents Settings.defaults = .ok documents ∧ documents ≠ [] ∧
      Services.check (documents.map fun e => (.str e.1, e.2.node)) = .ok report ∧
      Content.read .unknown (DocumentFormat.json.render (Document.mapJson documents)) = .ok n ∧
      n.checkAny ≠ .ok report := by
  have hnames : (Diagram.read "A->>openapi: GET /x").toOption.any (fun d =>
      (d.documents Settings.defaults).toOption.any fun documents =>
        Table.keys documents == ["openapi"]) = true := by decide +kernel
  obtain ⟨d, hread, hnames⟩ := exists_read hnames
  obtain ⟨documents, hdocuments⟩ := exists_documents_defaults d
  rw [hdocuments] at hnames
  have hkeys : Table.keys documents = ["openapi"] := beq_iff_eq.1 hnames
  have hwithin := isWithin_documents hread hdocuments
  obtain ⟨report, hreport⟩ := Document.exists_report hwithin.readable
  refine ⟨d, documents, report, _, hread, hdocuments, ?_, hreport,
    Document.read_render hwithin (by decide) (by decide), ?_⟩
  · rintro rfl
    cases hkeys
  · intro hcheck
    exact (Document.checkAny_mapJson_iff hwithin.readable hreport).1 hcheck (by simp [hkeys])

end Diagram

end SequenceApi
