import SequenceApi.Proofs.Diagram.Agreement

/-!
# Orphaned responses in reports

The strict check finds a response orphaned when no request waits for it. Whether it does depends on
the links of the requests and responses before it, and on nothing else that the check knows: not on
what is declared, and not on what comes later.

## Main definitions

* `DiagramFault.isOrphan`, `Issue.isOrphan`: a response without a request, as a cause and as worded
* `Check.orphans`: the orphaned responses among records, by the links that wait alone

## Main results

* `Check.Context.filter_step`, `Check.Context.filter_run`: a record and a run of records
* `Check.filter_findings`: the orphaned responses of a text are those among its records
* `Diagram.filter_errors_check`: they are the errors with that wording
-/

namespace SequenceApi

open Text

/-! ## Wording -/

/-- The fault is a response without a request. -/
def DiagramFault.isOrphan : DiagramFault → Bool
  | .orphan .. => true
  | _ => false

/-- The wording of a response without a request. -/
def orphanMessage : String :=
  "Orphaned response - no matching request found"

/-- The issue is worded as a response without a request. -/
def Issue.isOrphan (i : Issue) : Bool :=
  i.message == orphanMessage

/-- The letter that the wording of a fault begins with. -/
def DiagramFault.initial : DiagramFault → Char
  | .emptyInput | .emptyName => 'E'
  | .unknownMethod _ | .badStatus _ | .badName _ | .badBody .. => 'I'
  | .badPath .doubleBrace _ => 'D'
  | .badPath .unmatchedBrace _ | .unknownSource _ | .unknownTarget _ => 'U'
  | .badPath .adjacentGroups _ => 'A'
  | .digitFirst _ => 'P'
  | .unknownLine _ => 'L'
  | .unknownInNote _ | .earlyNote _ => 'N'
  | .orphan .. => 'O'

theorem head?_append_of {s t : String} {c : Char} (h : s.toList.head? = some c) :
    (s ++ t).toList.head? = some c := by
  rw [String.toList_append, List.head?_append, h]
  rfl

theorem DiagramFault.head?_message (f : DiagramFault) : f.message.toList.head? = some f.initial := by
  -- A wording starts with a fixed text; what is put in comes later.
  cases f with
  | emptyInput | emptyName => decide +kernel
  | unknownMethod _ | badStatus _ | badName _ | digitFirst _ | unknownSource _ | unknownTarget _
  | unknownInNote _ =>
    simp only [initial]
    exact head?_append_of (head?_append_of (by decide +kernel))
  | badBody _ _ =>
    simp only [initial]
    exact head?_append_of (by decide +kernel)
  | badPath fault path =>
    cases fault with
    | doubleBrace =>
      exact (by decide +kernel : (pathMessage .doubleBrace).toList.head? = some 'D')
    | unmatchedBrace =>
      exact (by decide +kernel : (pathMessage .unmatchedBrace).toList.head? = some 'U')
    | adjacentGroups =>
      exact (by decide +kernel : (pathMessage .adjacentGroups).toList.head? = some 'A')
  | unknownLine _ =>
    exact (by decide +kernel : (message (.unknownLine "")).toList.head? = some 'L')
  | earlyNote _ => exact (by decide +kernel : (message (.earlyNote "")).toList.head? = some 'N')
  | orphan _ _ => exact (by decide +kernel : (message (.orphan "" "")).toList.head? = some 'O')

/-- No other fault is worded like a response without a request: none begins with the same letter. -/
theorem DiagramFault.message_eq_orphanMessage_iff (f : DiagramFault) :
    f.message = orphanMessage ↔ f.isOrphan = true := by
  constructor
  · intro h
    have hinitial : f.initial = 'O' := by
      have hhead := f.head?_message
      rw [h, show orphanMessage.toList.head? = some 'O' by decide +kernel] at hhead
      exact (Option.some_inj.1 hhead).symm
    cases f with
    | orphan _ _ => rfl
    | badPath fault path => cases fault <;> simp [initial] at hinitial
    | _ => simp [initial] at hinitial
  · intro h
    cases f with
    | orphan _ _ => rfl
    | _ => cases h

theorem Finding.isOrphan_issue (f : Finding) : f.issue.isOrphan = f.fault.isOrphan := by
  rw [Issue.isOrphan, Bool.eq_iff_iff, beq_iff_eq]
  exact f.fault.message_eq_orphanMessage_iff

theorem Finding.isError_of_isOrphan {f : Finding} (h : f.fault.isOrphan = true) :
    f.isError = true := by
  obtain ⟨line, fault⟩ := f
  cases fault <;> first | rfl | cases h

/-- The issues that are worded so are those of the findings of that kind, and are errors. -/
theorem Finding.filter_errors_report (fs : List Finding) :
    (Finding.report fs).errors.filter Issue.isOrphan =
      (fs.filter (·.fault.isOrphan)).map issue := by
  rw [report, Report.ofIssues, List.filter_map, List.filter_filter]
  refine congrArg (List.map issue) (List.filter_congr fun f _ => ?_)
  rw [Function.comp_apply, isOrphan_issue]
  cases h : f.fault.isOrphan with
  | false => rfl
  | true => exact isError_of_isOrphan h

namespace Check

/-! ## Lines by themselves -/

/-- A line by itself is no orphan. -/
theorem isOrphan_of_mem_arrow? {n : Nat} {a : Arrow} {c : List Finding × Record}
    (h : arrow? n a = some c) : ∀ f ∈ c.1, f.fault.isOrphan = false := by
  rw [arrow?] at h
  split at h
  · split at h
    · split at h
      · -- a request can have a bad method and a bad path
        obtain rfl := Option.some.inj h
        intro f hf
        rcases List.mem_append.1 hf with hf | hf
        · split at hf
          · cases hf
          · obtain rfl := List.mem_singleton.1 hf
            rfl
        · obtain ⟨fault, -, rfl⟩ := List.mem_map.1 hf
          rfl
      · cases h
    · cases h
  · -- a response can have a bad status
    obtain ⟨label, -, rfl⟩ := Option.map_eq_some_iff.1 h
    intro f hf
    dsimp only at hf
    split at hf
    · cases hf
    · obtain rfl := List.mem_singleton.1 hf
      rfl

theorem isOrphan_of_mem_name {n : Nat} {s : String} {f : Finding} (h : f ∈ name n s) :
    f.fault.isOrphan = false := by
  rcases List.mem_append.1 h with h | h <;> split at h
  · cases h
  · obtain rfl := List.mem_singleton.1 h
    rfl
  · obtain rfl := List.mem_singleton.1 h
    rfl
  · cases h

theorem isOrphan_of_mem_entry {n : Nat} {l : List Char} {f : Finding} (h : f ∈ (entry n l).1) :
    f.fault.isOrphan = false := by
  rw [entry] at h
  split at h
  · cases h
  · rw [line] at h
    split at h
    · obtain rfl := List.mem_singleton.1 h
      rfl
    · split at h
      · next findings record hb =>
        obtain ⟨a, -, ha⟩ := Option.bind_eq_some_iff.1 hb
        exact isOrphan_of_mem_arrow? ha f h
      · split at h
        · exact isOrphan_of_mem_name h
        · cases h
        · obtain rfl := List.mem_singleton.1 h
          rfl

/-- Lines by themselves are no orphans. -/
theorem filter_fst_lines (n : Nat) (ls : List (List Char)) :
    (lines n ls).1.filter (·.fault.isOrphan) = [] := by
  induction ls generalizing n with
  | nil => rfl
  | cons l ls ih =>
    rw [lines_cons, List.filter_append, ih, List.append_nil]
    exact List.filter_eq_nil_iff.2 fun f hf => by simp [isOrphan_of_mem_entry hf]

/-! ## Lines together -/

/-- The finding about a record that is an orphan, where some links wait for a response. -/
def orphanOf (waiting : List Link) : Record → List Finding
  | .response l =>
    if waiting.any (isReverse l) then [] else [⟨some l.line, .orphan l.source l.target⟩]
  | _ => []

/-- The links that wait after a record: a request waits, and a response takes the latest request the
other way round. -/
def waitingAfter (waiting : List Link) : Record → List Link
  | .request l => l :: waiting
  | .response l => waiting.eraseP (isReverse l)
  | _ => waiting

/-- The orphaned responses among records, where some links wait already. -/
def orphans (waiting : List Link) : List Record → List Finding
  | [] => []
  | r :: rs => orphanOf waiting r ++ orphans (waitingAfter waiting r) rs

theorem orphans_append (waiting : List Link) (rs rs' : List Record) :
    orphans waiting (rs ++ rs') =
      orphans waiting rs ++ orphans (rs.foldl waitingAfter waiting) rs' := by
  induction rs generalizing waiting with
  | nil => rfl
  | cons r rs ih =>
    rw [List.cons_append, orphans, orphans, ih, List.append_assoc, List.foldl_cons]

/-- An orphan is found at the line of a record. -/
theorem exists_record_of_mem_orphans {waiting : List Link} {rs : List Record} {f : Finding}
    (h : f ∈ orphans waiting rs) : ∃ r ∈ rs, f.line = some r.line := by
  induction rs generalizing waiting with
  | nil => cases h
  | cons r rs ih =>
    rcases List.mem_append.1 h with h | h
    · refine ⟨r, List.mem_cons_self, ?_⟩
      cases r with
      | response l =>
        rw [orphanOf] at h
        split at h
        · cases h
        · obtain rfl := List.mem_singleton.1 h
          rfl
      | _ => cases h
    · obtain ⟨r', hr', hline⟩ := ih h
      exact ⟨r', List.mem_cons_of_mem r hr', hline⟩

namespace Context

theorem waiting_step (c : Context) (r : Record) :
    (c.step r).2.waiting = waitingAfter c.waiting r := by
  cases r with
  | response l =>
    simp only [step, waitingAfter]
    split
    · rfl
    · -- an orphan takes no link away: none of those that wait is its request
      next h => rw [List.eraseP_of_forall_not fun a ha hr => h (List.any_eq_true.2 ⟨a, ha, hr⟩)]
  | _ => rfl

theorem isOrphan_of_mem_ends {c : Context} {l : Link} {f : Finding} (h : f ∈ ends c l) :
    f.fault.isOrphan = false := by
  rcases List.mem_append.1 h with h | h <;> split at h
  · cases h
  · obtain rfl := List.mem_singleton.1 h
    rfl
  · cases h
  · obtain rfl := List.mem_singleton.1 h
    rfl

theorem isOrphan_of_mem_body {n : Note} {f : Finding} (h : f ∈ body n) :
    f.fault.isOrphan = false := by
  rw [body] at h
  split at h
  · split at h
    · cases h
    · split at h
      · cases h
      · obtain rfl := List.mem_singleton.1 h
        rfl
  · cases h

/-- Only a response can be an orphan, and whether it is depends on what waits. -/
theorem filter_step (c : Context) (r : Record) :
    (c.step r).1.filter (·.fault.isOrphan) = orphanOf c.waiting r := by
  cases r with
  | declaration _ => rfl
  | request l =>
    exact List.filter_eq_nil_iff.2 fun f hf => by simp [isOrphan_of_mem_ends hf]
  | response l =>
    simp only [step, orphanOf]
    split <;> rfl
  | note n =>
    -- about its participants, about its place, and about its body
    refine List.filter_eq_nil_iff.2 fun f hf => ?_
    rcases List.mem_append.1 hf with hf | hf
    · rcases List.mem_append.1 hf with hf | hf
      · obtain ⟨p, -, rfl⟩ := List.mem_map.1 hf
        simp [DiagramFault.isOrphan]
      · split at hf
        · cases hf
        · obtain rfl := List.mem_singleton.1 hf
          simp [DiagramFault.isOrphan]
    · simp [isOrphan_of_mem_body hf]

theorem filter_run (c : Context) (rs : List Record) :
    (c.run rs).filter (·.fault.isOrphan) = orphans c.waiting rs := by
  induction rs generalizing c with
  | nil => rfl
  | cons r rs ih =>
    simp only [run, List.filter_append]
    rw [filter_step, ih, waiting_step, orphans]

end Context

/-- The records of a blank text are none. -/
theorem records_of_blank {text : String} (h : isInked text.toList = false) : records text = [] := by
  have hblank : ∀ l ∈ trimmedLines text, l = [] := fun l hl => by
    by_contra hne
    simp [isInked_of_mem_trimmedLines hl hne] at h
  rw [records, snd_lines]
  refine List.filterMap_eq_nil_iff.2 fun e he => ?_
  rw [hblank e.1 (List.fst_mem_of_mem_zipIdx he)]
  rfl

/-- The orphaned responses of a text are those among its records. -/
theorem filter_findings (text : String) :
    (findings text).filter (·.fault.isOrphan) = orphans [] (records text) := by
  cases h : isInked text.toList with
  | false =>
    rw [findings, if_neg (by simp [h]), records_of_blank h]
    rfl
  | true =>
    rw [findings, if_pos h]
    simp only [List.filter_append, filter_fst_lines, List.nil_append]
    rw [Context.filter_run]
    rfl

end Check

/-- The errors about orphaned responses of a text. -/
theorem Diagram.filter_errors_check (text : String) :
    (check text).errors.filter Issue.isOrphan =
      (Check.orphans [] (Check.records text)).map Finding.issue := by
  rw [check, Finding.filter_errors_report, Check.filter_findings]

end SequenceApi
