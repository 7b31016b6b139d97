import SequenceApi.Proofs.Diagram.Agreement
import SequenceApi.Proofs.Diagram.Pairing

/-!
# Labels of requests and answers

The path of a request is the second word of a call's label, and so it is not empty. The status of an
answer is what the label of a reply begins with: three digits of any script. The reader takes every
such number; the strict check wants one from 100 to 599. So of a text that the reader takes, each
answer has three digits for its status, and they spell a number from 100 to 599 if the check finds
no error.

## Main definitions

* `IsCode`: three digits of any script
* `IsInRange`: the number is from 100 to 599

## Main results

* `Diagram.path_ne_empty_of_read`: the paths of a text that is read
* `Diagram.isCode_of_read`: the statuses of a text that is read
* `Diagram.isInRange_of_check`: the statuses of a text that passes the check
-/

namespace SequenceApi

open Text

/-- Three decimal digits of any script. -/
def IsCode (status : String) : Prop :=
  ∃ a b c, status = String.ofList [a, b, c] ∧ isDigit a = true ∧ isDigit b = true ∧ isDigit c = true

/-- The digits spell a number from 100 to 599. -/
def IsInRange (status : String) : Prop :=
  100 ≤ digitsValue status.toList ∧ digitsValue status.toList ≤ 599

instance (status : String) : Decidable (IsInRange status) :=
  inferInstanceAs (Decidable (_ ∧ _))

/-! ## Labels and lines -/

theorem ReplyLabel.isCode_of_read {cs : List Char} {label : ReplyLabel} (h : read cs = some label) :
    IsCode (String.ofList label.status) := by
  unfold read at h
  split at h
  · next a b c rest =>
    split at h
    · next hdigits =>
      obtain rfl := Option.some_inj.1 h
      simp only [Bool.and_eq_true] at hdigits
      exact ⟨a, b, c, rfl, hdigits.1.1, hdigits.1.2, hdigits.2⟩
    · cases h
  · cases h

theorem CallLabel.path_ne_empty_of_read {cs : List Char} {label : CallLabel}
    (h : read cs = some label) : label.path ≠ "" := by
  unfold read at h
  dsimp only at h
  split at h
  · cases h
  · next hwords =>
    obtain rfl := Option.some_inj.1 h
    rw [Bool.or_eq_true, not_or, List.isEmpty_iff, List.isEmpty_iff] at hwords
    intro hpath
    exact hwords.2 (by simpa using congrArg String.toList hpath)

/-- A request is a call whose label can be read. -/
theorem Token.path_ne_empty_of_ofArrow? {n : Nat} {a : Arrow} {r : Request}
    (h : ofArrow? n a = some (.ok (.request r))) : r.path ≠ "" := by
  rcases ofArrow?_cases h with ⟨label, m, -, hlabel, heq⟩ | ⟨label, -, -, heq⟩
  · obtain rfl := Token.request.inj heq
    exact CallLabel.path_ne_empty_of_read hlabel
  · cases heq

/-- A response is a reply whose label can be read. -/
theorem Token.exists_label_of_ofArrow? {n : Nat} {a : Arrow} {r : Response}
    (h : ofArrow? n a = some (.ok (.response r))) :
    a.head = .reply ∧ ∃ label, ReplyLabel.read a.label = some label ∧
      r.status = String.ofList label.status := by
  rcases ofArrow?_cases h with ⟨label, m, -, -, heq⟩ | ⟨label, hhead, hlabel, heq⟩
  · cases heq
  · obtain rfl := Token.response.inj heq
    exact ⟨hhead, label, hlabel, rfl⟩

/-- The line of a request or a response is an arrow line, neither blank nor a comment. -/
theorem Token.exists_arrow_of_ofLine {n : Nat} {l : List Char} {t : Token}
    (h : ofLine n l = .ok (some t)) (ht : (∃ r, t = .request r) ∨ ∃ r, t = .response r) :
    (l.isEmpty || isComment l) = false ∧
      ∃ a, Arrow.read l = some a ∧ ofArrow? n a = some (.ok t) := by
  unfold ofLine at h
  split at h
  · cases h
  · next hink =>
    refine ⟨by simpa using hink, ?_⟩
    split at h
    · next result hr =>
      obtain ⟨a, ha, hresult⟩ := Option.bind_eq_some_iff.1 hr
      cases result with
      | error e => simp [Except.map] at h
      | ok t' =>
        obtain rfl : t' = t := by simpa [Except.map] using h
        exact ⟨a, ha, hresult⟩
    · -- what has no arrow is a declaration, a note or nothing
      exfalso
      rcases ht with ⟨r, rfl⟩ | ⟨r, rfl⟩
      · split at h <;> cases h
      · split at h <;> cases h

/-- A token stands on a line. -/
theorem Token.exists_line_of_mem {text : String} {tokens : List Token}
    (h : Token.read text = .ok tokens) {t : Token} (ht : t ∈ tokens) :
    ∃ (k : Nat) (l : List Char), (trimmedLines text)[k]? = some l ∧
      ofLine (1 + k) l = .ok (some t) := by
  obtain ⟨-, rfl⟩ := of_ofLines_eq_ok h
  obtain ⟨⟨l, n⟩, hl, hat⟩ := List.mem_filterMap.1 ht
  obtain ⟨hn, hk⟩ := List.mk_mem_zipIdx_iff_le_and_getElem?_sub.1 hl
  obtain ⟨k, rfl⟩ := Nat.exists_eq_add_of_le hn
  rw [Nat.add_sub_cancel_left] at hk
  refine ⟨k, l, hk, ?_⟩
  cases ho : ofLine (1 + k) l with
  | error e => simp [atLine?, ho, Except.toOption] at hat
  | ok o =>
    obtain rfl : o = some t := by simpa [atLine?, ho, Except.toOption] using hat
    rfl

/-! ## Requests of a text -/

theorem Token.path_ne_empty_of_request {text : String} {tokens : List Token}
    (h : Token.read text = .ok tokens) {r : Request} (hr : .request r ∈ tokens) : r.path ≠ "" := by
  obtain ⟨k, l, -, hline⟩ := exists_line_of_mem h hr
  obtain ⟨-, a, -, harrow⟩ := exists_arrow_of_ofLine hline (.inl ⟨r, rfl⟩)
  exact path_ne_empty_of_ofArrow? harrow

/-- An interaction is that of a request. -/
theorem Diagram.exists_request_of_mem {ts : List Token} {i : Interaction}
    (hi : i ∈ (ofTokens ts).interactions) : ∃ r, .request r ∈ ts ∧ i.origin = r.origin := by
  have horigins : (ofTokens ts).interactions.map Interaction.origin =
      (ts.filterMap Token.request?).map Request.origin := by
    rw [ofTokens, Draft.origins_foldl_step]
    simp [Draft.interactions]
  have hmem : i.origin ∈ (ofTokens ts).interactions.map Interaction.origin :=
    List.mem_map_of_mem hi
  rw [horigins] at hmem
  obtain ⟨r, hr, horigin⟩ := List.mem_map.1 hmem
  obtain ⟨t, ht, hrequest⟩ := List.mem_filterMap.1 hr
  obtain rfl : t = .request r := by
    cases t <;> cases hrequest
    rfl
  exact ⟨r, ht, horigin.symm⟩

/-- Every interaction of a text that is read has a path. -/
theorem Diagram.path_ne_empty_of_read {text : String} {d : Diagram} (h : Diagram.read text = .ok d)
    {i : Interaction} (hi : i ∈ d.interactions) : i.path ≠ "" := by
  obtain ⟨tokens, htokens, rfl⟩ := exists_tokens h
  obtain ⟨r, hr, horigin⟩ := exists_request_of_mem hi
  have hpath : i.path = r.path := congrArg (fun o => o.2.2.2.1) horigin
  rw [hpath]
  exact Token.path_ne_empty_of_request htokens hr

/-! ## Responses of a text -/

section

variable {text : String} {tokens : List Token} {r : Response}

theorem Token.isCode_of_response (h : Token.read text = .ok tokens) (hr : .response r ∈ tokens) :
    IsCode r.status := by
  obtain ⟨k, l, -, hline⟩ := exists_line_of_mem h hr
  obtain ⟨-, a, -, harrow⟩ := exists_arrow_of_ofLine hline (.inr ⟨r, rfl⟩)
  obtain ⟨-, label, hlabel, hstatus⟩ := exists_label_of_ofArrow? harrow
  rw [hstatus]
  exact ReplyLabel.isCode_of_read hlabel

/-- The check objects to a status out of range, unless it refuses the line. -/
theorem Check.isInRange_of_entry {n : Nat} {l : List Char}
    (hline : Token.ofLine n l = .ok (some (.response r)))
    (hfine : ∀ f ∈ (entry n l).1, f.isError = false) : IsInRange r.status := by
  obtain ⟨hink, a, harrow, hread⟩ := Token.exists_arrow_of_ofLine hline (.inr ⟨r, rfl⟩)
  obtain ⟨hhead, label, hlabel, hstatus⟩ := Token.exists_label_of_ofArrow? hread
  rw [entry_of_ink hink, line] at hfine
  split at hfine
  · -- a line that declares no name is refused
    have hrefused := hfine ⟨some n, .emptyName⟩ List.mem_cons_self
    simp [Finding.isError, DiagramFault.severity] at hrefused
  · by_contra hrange
    have hcheck : arrow? n a = some ([⟨some n, .badStatus (String.ofList label.status)⟩],
        .response ⟨n, a.source, a.target⟩) := by
      rw [IsInRange, hstatus, String.toList_ofList] at hrange
      simp only [arrow?, hhead, hlabel, Option.map_some]
      rw [if_neg (by simpa using hrange)]
    rw [harrow, Option.bind_some, hcheck] at hfine
    have hbad := hfine _ List.mem_cons_self
    simp [Finding.isError, DiagramFault.severity] at hbad

/-- The statuses of a text that passes the check are in range. -/
theorem Check.isInRange_of_response (h : Token.read text = .ok tokens)
    (hvalid : (Diagram.check text).valid = true) (hr : .response r ∈ tokens) :
    IsInRange r.status := by
  obtain ⟨k, l, hk, hline⟩ := Token.exists_line_of_mem h hr
  rw [Diagram.check, Finding.report, Report.valid_ofIssues] at hvalid
  have hfine : ∀ f ∈ findings text, f.isError = false := Finding.isError_of_report hvalid
  have hink : isInked text.toList = true := by
    have hline' := (Token.exists_arrow_of_ofLine hline (.inr ⟨r, rfl⟩)).1
    rw [Bool.or_eq_false_iff, List.isEmpty_eq_false_iff] at hline'
    exact isInked_of_mem_trimmedLines (List.mem_of_getElem? hk) hline'.1
  rw [findings, if_pos hink] at hfine
  apply isInRange_of_entry hline
  intro f hf
  exact hfine f (List.mem_append_left _ (mem_fst_lines hk hf))

end

/-! ## Answers -/

namespace Token

theorem subset_of_mem_segments {ts : List Token} {s : Request × List Token} (h : s ∈ segments ts) :
    s.2 ⊆ ts := by
  induction ts with
  | nil => cases h
  | cons t ts ih =>
    have hrest (h : s ∈ segments ts) : s.2 ⊆ t :: ts :=
      fun u hu => List.mem_cons_of_mem t (ih h hu)
    cases t with
    | request r =>
      rcases List.mem_cons.1 h with rfl | h
      · exact fun u hu => List.mem_cons_of_mem _ ((List.takeWhile_sublist _).subset hu)
      · exact hrest h
    | _ => exact hrest h

theorem mem_of_mem_responses {ts : List Token} {r : Response} (h : r ∈ responses ts) :
    .response r ∈ ts := by
  obtain ⟨t, ht, hr⟩ := List.mem_filterMap.1 h
  cases t <;> cases hr
  exact ht

end Token

/-- An answer is that of a response. -/
theorem Diagram.exists_response_of_answer {ts : List Token} {i : Interaction}
    (hi : i ∈ (ofTokens ts).interactions) {a : Answer} (ha : i.answer = some a) :
    ∃ r, .response r ∈ ts ∧ a = r.answer := by
  have hanswers : (ofTokens ts).interactions.map Interaction.answer =
      (Token.segments ts).map fun s => (Token.replyTo? s).map Response.answer := by
    rw [ofTokens, Draft.answers_foldl_step ts (by simp [Draft.IsOpen])]
    simp
  have hmem : some a ∈ (ofTokens ts).interactions.map Interaction.answer :=
    List.mem_map.2 ⟨i, hi, ha⟩
  rw [hanswers] at hmem
  obtain ⟨s, hs, hreply⟩ := List.mem_map.1 hmem
  obtain ⟨r, hr, rfl⟩ := Option.map_eq_some_iff.1 hreply
  have hr' := Token.mem_of_mem_responses (List.mem_of_find?_eq_some hr)
  exact ⟨r, Token.subset_of_mem_segments hs hr', rfl⟩

namespace Diagram

variable {text : String} {d : Diagram} {i : Interaction} {a : Answer}

theorem exists_response_of_read (h : Diagram.read text = .ok d) (hi : i ∈ d.interactions)
    (ha : i.answer = some a) :
    ∃ tokens r, Token.read text = .ok tokens ∧ .response r ∈ tokens ∧ a = r.answer := by
  obtain ⟨tokens, htokens, rfl⟩ := exists_tokens h
  obtain ⟨r, hr, rfl⟩ := exists_response_of_answer hi ha
  exact ⟨tokens, r, htokens, hr, rfl⟩

/-- Every answer of a text that is read has three digits for its status. -/
theorem isCode_of_read (h : Diagram.read text = .ok d) (hi : i ∈ d.interactions)
    (ha : i.answer = some a) : IsCode a.status := by
  obtain ⟨tokens, r, htokens, hr, rfl⟩ := exists_response_of_read h hi ha
  exact Token.isCode_of_response htokens hr

/-- Every answer of a text that passes the check has a status in range. -/
theorem isInRange_of_check (h : Diagram.read text = .ok d) (hvalid : (check text).valid = true)
    (hi : i ∈ d.interactions) (ha : i.answer = some a) : IsInRange a.status := by
  obtain ⟨tokens, r, htokens, hr, rfl⟩ := exists_response_of_read h hi ha
  exact Check.isInRange_of_response htokens hvalid hr

end Diagram

end SequenceApi
