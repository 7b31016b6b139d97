import SequenceApi.Console.Message
import SequenceApi.Proofs.Diagram.Quoted

/-!
# Reading a report back

A plain report is a table: a line of headers and a line for each issue, errors first, with tabs
between the fields. Nothing in a field is escaped. The wording of an issue has no line feed, since
what it quotes of a diagram is part of one line; so there are as many lines as issues, and one for
the headers. But a line of a diagram can have a tab in it, and a field with a tab in it reads as two.
So the table reads back as the issues just if no field has a tab, and it always does if the diagram
has none.

## Main definitions

* `tableFields`: the fields of a table
* `Issue.fields`: the fields of an issue

## Main results

* `tableFields_rows`: a table has a line for each row
* `pieces_joined_iff`: a row reads back just if no cell has a tab
* `Diagram.report_reads_back_iff`: when the report on a diagram reads back
-/

namespace SequenceApi

open Text

/-- The fields of a table: each line ends in a line feed and is cut at its tabs. -/
def tableFields (table : String) : List (List String) :=
  (pieces '\n' table.toList).dropLast.map fun line => (pieces '\t' line).map String.ofList

/-- The fields of an issue: its severity, its line or a hyphen, its message, its suggestion and its
context. What is missing is empty. -/
def Issue.fields (i : Issue) : List String :=
  [i.severity.name, (i.line.map toString).getD "-", i.message, i.suggestion.getD "",
    match i.context with
    | .str s => s
    | _ => ""]

/-! ## Lines -/

/-- The lines of texts that have no line feed in them. -/
theorem pieces_flatMap_newline {ls : List (List Char)} (h : ∀ l ∈ ls, '\n' ∉ l) :
    pieces '\n' (ls.flatMap fun l => l ++ ['\n']) = ls ++ [[]] := by
  induction ls with
  | nil => rfl
  | cons l ls ih =>
    obtain ⟨hl, hls⟩ := List.forall_mem_cons.1 h
    rw [List.flatMap_cons, List.append_assoc, List.singleton_append, pieces_append,
      pieces_of_not_mem hl, ih hls]
    rfl

theorem asLines_of_not_mem {s : String} (h : '\n' ∉ s.toList) : asLines s = s ++ "\n" := by
  have hdrop : s.toList.reverse.dropWhile (· == '\n') = s.toList.reverse := by
    cases hs : s.toList.reverse with
    | nil => rfl
    | cons c cs =>
      refine List.dropWhile_cons_of_neg ?_
      intro hc
      have hmem : c ∈ s.toList := by
        rw [← List.mem_reverse, hs]
        exact List.mem_cons_self
      rw [eq_of_beq hc] at hmem
      exact h hmem
  rw [asLines, dropFinalBreaks, hdrop, List.reverse_reverse, String.ofList_toList]

theorem newline_not_mem_joined {row : List String} (h : ∀ cell ∈ row, '\n' ∉ cell.toList) :
    '\n' ∉ (joined "\t" row).toList := by
  intro hmem
  rcases mem_of_mem_joined hmem with htab | ⟨cell, hcell, hmem⟩
  · simp at htab
  · exact h cell hcell hmem

/-- A table has a line for each row, if no cell has a line feed. -/
theorem tableFields_rows {rows : List (List String)}
    (h : ∀ row ∈ rows, ∀ cell ∈ row, '\n' ∉ cell.toList) :
    tableFields (String.join (rows.map rowText)) =
      rows.map fun row => (pieces '\t' (joined "\t" row).toList).map String.ofList := by
  have htext : (String.join (rows.map rowText)).toList =
      (rows.map fun row => (joined "\t" row).toList).flatMap fun l => l ++ ['\n'] := by
    rw [String.toList_join, List.flatMap_map, List.flatMap_map]
    refine List.flatMap_congr fun row hrow => ?_
    rw [rowText, asLines_of_not_mem (newline_not_mem_joined (h row hrow)), String.toList_append]
    rfl
  have hlines : ∀ l ∈ rows.map fun row => (joined "\t" row).toList, '\n' ∉ l := by
    intro l hl
    obtain ⟨row, hrow, rfl⟩ := List.mem_map.1 hl
    exact newline_not_mem_joined (h row hrow)
  rw [tableFields, htext, pieces_flatMap_newline hlines, List.dropLast_concat, List.map_map]
  rfl

/-! ## Fields -/

/-- A row is cut into its cells just if no cell has a tab. -/
theorem pieces_joined_iff {row : List String} (hne : row ≠ []) :
    (pieces '\t' (joined "\t" row).toList).map String.ofList = row ↔
      ∀ cell ∈ row, '\t' ∉ cell.toList := by
  constructor
  · intro h cell hcell
    rw [← h] at hcell
    obtain ⟨piece, hpiece, rfl⟩ := List.mem_map.1 hcell
    rw [String.toList_ofList]
    exact not_mem_of_mem_pieces hpiece
  · intro h
    have hcut : pieces '\t' (joined "\t" row).toList = row.map String.toList := pieces_joined hne h
    rw [hcut, List.map_map]
    exact (List.map_congr_left fun cell _ => String.ofList_toList).trans (List.map_id' row)

/-- A table reads back just if no cell of it has a tab. -/
theorem map_pieces_joined_iff {rows : List (List String)} (hne : ∀ row ∈ rows, row ≠ []) :
    (rows.map fun row => (pieces '\t' (joined "\t" row).toList).map String.ofList) = rows ↔
      ∀ row ∈ rows, ∀ cell ∈ row, '\t' ∉ cell.toList := by
  have hrows : (rows.map fun row => (pieces '\t' (joined "\t" row).toList).map String.ofList) = rows ↔
      ∀ row ∈ rows, (pieces '\t' (joined "\t" row).toList).map String.ofList = row := by
    conv_lhs => rhs; rw [← List.map_id' rows]
    exact List.map_inj_left
  rw [hrows]
  exact forall₂_congr fun row hrow => pieces_joined_iff (hne row hrow)

/-! ## Reports -/

/-- The rows of issues that have their fields for cells. -/
theorem Presentation.rows_eq {issues : List Issue} (h : ∀ i ∈ issues, i.cells? = some i.fields) :
    rows issues = { out := String.join (issues.map fun i => rowText i.fields) } := by
  induction issues with
  | nil => rfl
  | cons i issues ih =>
    obtain ⟨hi, hissues⟩ := List.forall_mem_cons.1 h
    rw [rows, hi, ih hissues]
    simp [Shown.andThen, String.join_cons]

/-- A plain report with issues is the table of their fields. -/
theorem Presentation.out_report {p : Presentation} (hp : p.format = .plain) {r : Report}
    (hne : r.issues ≠ []) (h : ∀ i ∈ r.issues, i.cells? = some i.fields) :
    (p.report r).out =
      String.join ((Report.headers :: r.issues.map Issue.fields).map rowText) := by
  have htable : issueTable r.issues =
      { out := String.join ((Report.headers :: r.issues.map Issue.fields).map rowText) } := by
    rw [issueTable, if_neg (by simpa using hne), rows_eq h]
    simp [Shown.andThen, String.join_cons, Function.comp_def]
  rw [report, if_neg (by simp [hp]), htable, Shown.out_andThen, out_summary]
  simp

namespace Diagram

variable {text : String} {i : Issue}

/-- The issues of a diagram are its findings. -/
theorem exists_finding (h : i ∈ (check text).issues) :
    ∃ f ∈ Check.findings text, i = f.issue := by
  rw [check, Finding.report, Report.ofIssues, Report.issues] at h
  rcases List.mem_append.1 h with h | h
  · obtain ⟨f, hf, rfl⟩ := List.mem_map.1 h
    exact ⟨f, List.mem_of_mem_filter hf, rfl⟩
  · obtain ⟨f, hf, rfl⟩ := List.mem_map.1 h
    exact ⟨f, List.mem_of_mem_filter hf, rfl⟩

theorem cells?_of_mem_issues (h : i ∈ (check text).issues) : i.cells? = some i.fields := by
  obtain ⟨f, -, rfl⟩ := exists_finding h
  rw [Issue.cells?, Issue.fields, Finding.issue]
  cases f.line <;> cases f.fault.context <;> rfl

/-- A control character in a field of an issue comes from the diagram, and is no line feed. -/
theorem not_newline_of_mem_field (h : i ∈ (check text).issues) {field : String}
    (hfield : field ∈ i.fields) {c : Char} (hc : c ∈ field.toList) (hcontrol : isPrinted c = false) :
    c ≠ '\n' ∧ c ∈ text.toList := by
  obtain ⟨f, hf, rfl⟩ := exists_finding h
  -- the wording may quote the diagram, and the other fields are fixed texts and numbers
  have hwords : Words f.fault.quotes field := by
    simp only [Issue.fields, Finding.issue, List.mem_cons, List.not_mem_nil, or_false] at hfield
    rcases hfield with rfl | rfl | rfl | rfl | rfl
    · cases f.fault.severity <;> exact .printed rfl
    · cases f.line with
      | none => exact .printed rfl
      | some n => exact .toString n
    · exact f.fault.words_message
    · exact f.fault.words_suggestion
    · have hcontext := f.fault.words_context
      cases hs : f.fault.context with
      | none => exact .printed rfl
      | some s => exact hcontext s hs
  exact Finding.not_newline_of_control hf hwords hc hcontrol

/-- A control character in a row of the report on a diagram. -/
theorem not_newline_of_mem_rows {row : List String}
    (hrow : row ∈ (check text).issues.map Issue.fields) {field : String} (hfield : field ∈ row)
    {c : Char} (hc : c ∈ field.toList) (hcontrol : isPrinted c = false) :
    c ≠ '\n' ∧ c ∈ text.toList := by
  obtain ⟨i, hi, rfl⟩ := List.mem_map.1 hrow
  exact not_newline_of_mem_field hi hfield hc hcontrol

variable {p : Presentation}

/-- The table of a report is cut at the tabs of its rows only. -/
theorem tableFields_report (hp : p.format = .plain) (hne : (check text).issues ≠ []) :
    tableFields (p.report (check text)).out =
      (Report.headers :: (check text).issues.map Issue.fields).map fun row =>
        (pieces '\t' (joined "\t" row).toList).map String.ofList := by
  have hlines : ∀ row ∈ Report.headers :: (check text).issues.map Issue.fields,
      ∀ field ∈ row, '\n' ∉ field.toList := by
    intro row hrow field hfield hc
    rcases List.mem_cons.1 hrow with rfl | hrow
    · simp only [Report.headers, List.mem_cons, List.not_mem_nil, or_false] at hfield
      rcases hfield with rfl | rfl | rfl | rfl | rfl <;> simp at hc
    · exact (not_newline_of_mem_rows hrow hfield hc rfl).1 rfl
  rw [Presentation.out_report hp hne fun i hi => cells?_of_mem_issues hi]
  exact tableFields_rows hlines

/-- A report reads back just if no field of an issue has a tab. -/
theorem tableFields_report_eq_iff (hp : p.format = .plain) (hne : (check text).issues ≠ []) :
    tableFields (p.report (check text)).out =
        Report.headers :: (check text).issues.map Issue.fields ↔
      ∀ row ∈ (check text).issues.map Issue.fields, ∀ field ∈ row, '\t' ∉ field.toList := by
  have hrows : ∀ row ∈ Report.headers :: (check text).issues.map Issue.fields, row ≠ [] := by
    refine List.forall_mem_cons.2 ⟨by simp [Report.headers], fun row hrow => ?_⟩
    obtain ⟨i, -, rfl⟩ := List.mem_map.1 hrow
    simp [Issue.fields]
  rw [tableFields_report hp hne, map_pieces_joined_iff hrows, List.forall_mem_cons]
  exact and_iff_right (by simp [Report.headers])

/-- **When a plain report reads back.** The table of a report on a diagram has a line of headers and
one for each issue, errors first. It reads back as the fields of the issues just if none of them has
a tab; and none has if the diagram has none. -/
theorem report_reads_back_iff (text : String) {p : Presentation} (hp : p.format = .plain)
    (hne : (check text).errors ++ (check text).warnings ≠ []) :
    let rows := ((check text).errors ++ (check text).warnings).map Issue.fields
    let read := tableFields (p.report (check text)).out
    read.length = rows.length + 1 ∧
      (read = Report.headers :: rows ↔ ∀ row ∈ rows, ∀ field ∈ row, '\t' ∉ field.toList) ∧
      ('\t' ∉ text.toList → read = Report.headers :: rows) := by
  intro rows read
  have hiff : read = Report.headers :: rows ↔ ∀ row ∈ rows, ∀ field ∈ row, '\t' ∉ field.toList :=
    tableFields_report_eq_iff hp hne
  refine ⟨?_, hiff, fun htab => hiff.2 ?_⟩
  · show (tableFields (p.report (check text)).out).length = _
    rw [tableFields_report hp hne, List.length_map, List.length_cons]
    rfl
  · -- a tab in a field would be one of the diagram
    intro row hrow field hfield hc
    exact htab (not_newline_of_mem_rows hrow hfield hc rfl).2

/-- The report on a line that means nothing reads back. -/
theorem report_reads_back_of_words :
    let r := check "A calls B"
    tableFields (({} : Presentation).report r).out =
      Report.headers :: (r.errors ++ r.warnings).map Issue.fields :=
  (report_reads_back_iff "A calls B" rfl (by decide +kernel)).2.2 (by decide)

/-- With a tab in that line, it does not: the context of the issue reads as two fields. -/
theorem report_of_line_with_tab :
    let r := check "A calls\tB"
    r.errors ++ r.warnings ≠ [] ∧
      tableFields (({} : Presentation).report r).out ≠
        Report.headers :: (r.errors ++ r.warnings).map Issue.fields := by
  have hne : (check "A calls\tB").issues ≠ [] := by decide +kernel
  refine ⟨hne, fun h => ?_⟩
  have hfields := (tableFields_report_eq_iff rfl hne).1 h
  revert hfields
  decide +kernel

end Diagram

end SequenceApi
