import Mathlib.Data.List.DropRight
import SequenceApi.Proofs.Diagram.Status
import SequenceApi.Proofs.Note.SchemeKey

/-!
# Bodies of valid diagrams

The reader takes the body of a note from behind the first key, wherever the key stands. The strict
check looks for the same key in the same way, but only in notes that begin with it. On the content
of a note, which is one line without blanks at its end, the two find the same text. So in a valid
diagram a body that begins its note can be read; a body behind another key is not checked, and may
be lost with no more than a remark.

## Main definitions

* `Note.IsTidy`: a content as it is read off a line

## Main results

* `Check.payload?_eq_bodyText?`: both find one text
* `Check.body_eq_nil_iff`: what the check objects to
* `Draft.mem_remarks_foldl_step`: what a diagram remarks on
* `Diagram.bodies_of_check`: the bodies of a valid diagram
-/

namespace SequenceApi

open Text

/-! ## Texts -/

namespace Text

theorem firstMatch_congr {α : Type} {f g : Option Char → List Char → Option α} {cs : List Char}
    (h : ∀ before here, here <:+ cs → f before here = g before here) (before : Option Char) :
    firstMatch f before cs = firstMatch g before cs := by
  induction cs generalizing before with
  | nil => exact h before [] (List.suffix_refl [])
  | cons c cs ih =>
    rw [firstMatch, firstMatch, h before (c :: cs) (List.suffix_refl _),
      ih fun b here hs => h b here (hs.trans (List.suffix_cons c cs))]

theorem suffix_of_dropLetters? {ps cs rest : List Char} (h : dropLetters? ps cs = some rest) :
    rest <:+ cs := by
  induction ps generalizing cs with
  | nil =>
    obtain rfl := Option.some.inj h
    exact List.suffix_refl cs
  | cons p ps ih =>
    cases cs with
    | nil => cases h
    | cons c cs =>
      rw [dropLetters?] at h
      split at h
      · exact (ih h).trans (List.suffix_cons c cs)
      · cases h

theorem suffix_of_dropWord? {w : String} {cs rest : List Char} (h : dropWord? w cs = some rest) :
    rest <:+ cs :=
  suffix_of_dropLetters? h

theorem suffix_of_afterKeyword? {w : String} {cs rest : List Char}
    (h : afterKeyword? w cs = some rest) : rest <:+ cs := by
  unfold afterKeyword? at h
  split at h
  · next c after hword =>
    split at h
    · obtain rfl := Option.some.inj h
      exact (List.dropWhile_suffix isBlank).trans
        ((List.suffix_cons c after).trans (suffix_of_dropWord? hword))
    · cases h
  · cases h

/-- A trimmed text ends in no blank. -/
theorem isBlank_of_getLast?_trim {c : Char} {cs : List Char} (h : (trim cs).getLast? = some c) :
    isBlank c = false := by
  rw [trim, trimRight, List.getLast?_reverse, skipBlanks] at h
  have hhead := List.head?_dropWhile_not isBlank (skipBlanks cs).reverse
  rwa [h] at hhead

end Text

/-! ## Contents -/

namespace Note

/-- The text is one line, and does not end in a blank. -/
structure IsTidy (cs : List Char) : Prop where
  oneLine : '\n' ∉ cs
  inkAtEnd : ∀ c, cs.getLast? = some c → isBlank c = false

theorem IsTidy.suffix {cs here : List Char} (h : IsTidy cs) (hs : here <:+ cs) : IsTidy here where
  oneLine := fun hmem => h.oneLine (hs.subset hmem)
  inkAtEnd := by
    intro c hc
    obtain ⟨before, rfl⟩ := hs
    exact h.inkAtEnd c (by rw [List.getLast?_append, hc, Option.some_or])

theorem isTidy_trim {cs : List Char} (h : '\n' ∉ cs) : IsTidy (trim cs) where
  oneLine := fun hmem => h (mem_of_mem_trim hmem)
  inkAtEnd := fun _ => isBlank_of_getLast?_trim

theorem IsTidy.trim_eq {cs : List Char} (h : IsTidy cs) : trim cs = skipBlanks cs := by
  have hink : IsTidy (skipBlanks cs) := h.suffix (List.dropWhile_suffix isBlank)
  have hself : trim (skipBlanks cs) = skipBlanks cs := by
    refine trim_eq_self (fun c hc => ?_) hink.inkAtEnd
    have hhead := List.head?_dropWhile_not isBlank cs
    rwa [← skipBlanks, hc] at hhead
  rwa [trim, skipBlanks, skipBlanks, List.dropWhile_idempotent, ← skipBlanks, ← trim] at hself

/-- Behind a key, the value is the rest of a tidy text without the blanks in front. -/
theorem IsTidy.valueHere? {c : Char} {cs : List Char} (h : IsTidy (c :: cs)) :
    (valueHere? (c :: cs)).map Prod.fst = some (skipBlanks (c :: cs)) := by
  have hrest : IsTidy (skipBlanks (c :: cs)) := h.suffix (List.dropWhile_suffix isBlank)
  have hne : skipBlanks (c :: cs) ≠ [] := by
    intro hnil
    rw [skipBlanks, List.dropWhile_eq_nil_iff] at hnil
    have hlast := List.getLast?_eq_some_getLast (List.cons_ne_nil c cs)
    simpa [h.inkAtEnd _ hlast] using hnil _ (List.getLast_mem (List.cons_ne_nil c cs))
  have hline : (skipBlanks (c :: cs)).takeWhile (· != '\n') = skipBlanks (c :: cs) :=
    List.takeWhile_eq_self_iff.2 fun d hd => by
      simpa using fun e : d = '\n' => hrest.oneLine (e ▸ hd)
  simp [Note.valueHere?, List.isEmpty_iff, hne, hline]

end Note

/-- On a tidy content, the check and the reader find one text for the body. -/
theorem Check.payload?_eq_bodyText? {content : String} (h : Note.IsTidy content.toList) :
    payload? content = Note.bodyText? content := by
  refine firstMatch_congr (fun _ here hs => ?_) none
  rw [Note.valueOf?]
  cases hkey : dropWord? "body:" here with
  | none => rfl
  | some rest =>
    cases rest with
    | nil => rfl
    | cons c cs =>
      have hrest : Note.IsTidy (c :: cs) := (h.suffix hs).suffix (suffix_of_dropWord? hkey)
      have hvalue := hrest.valueHere?
      simp only [Option.bind_some, Option.map_map, Function.comp_def, hrest.trim_eq]
      exact hvalue.symm

/-- The check objects to a note that begins with the key and has a body that cannot be read. -/
theorem Check.body_eq_nil_iff {n : Note} (h : Note.IsTidy n.content.toList) :
    body n = [] ↔ (n.isBody = true → ∀ e, Note.body? n.content ≠ some (.error e)) := by
  rw [body, Check.payload?_eq_bodyText? h, Note.body?]
  cases n.isBody with
  | false => simp
  | true =>
    cases Note.bodyText? n.content with
    | none => simp
    | some cs => cases hread : Json.readChars cs <;> simp [hread]

/-- The objection to a body is an error. -/
theorem Check.isError_of_mem_body {n : Note} {f : Finding} (h : f ∈ body n) : f.isError = true := by
  rw [body] at h
  split at h
  · split at h
    · cases h
    · split at h
      · cases h
      · obtain rfl := List.mem_singleton.1 h
        rfl
  · cases h

/-! ## Notes of a text -/

theorem Note.isTidy_of_noteParts? {line : List Char} {participants : List String} {content : String}
    (hline : '\n' ∉ line) (h : noteParts? line = some (participants, content)) :
    IsTidy content.toList := by
  unfold noteParts? at h
  split at h
  · cases h
  · next rest hrest =>
    -- the content is what follows the colon, trimmed
    obtain ⟨cs, hnote, hover⟩ := Option.bind_eq_some_iff.1 hrest
    split at h
    · next c d names after hcut =>
      dsimp only at h
      split at h
      · obtain ⟨-, rfl⟩ := Prod.mk.inj (Option.some.inj h)
        rw [String.toList_ofList]
        apply isTidy_trim
        intro hmem
        have hin : '\n' ∈ rest :=
          cut_append hcut ▸ List.mem_append_right _ (List.mem_cons_of_mem _ hmem)
        exact hline ((suffix_of_afterKeyword? hnote).subset
          ((suffix_of_dropWord? hover).subset hin))
      · cases h
    · cases h

theorem Token.ofArrow?_ne_note (k : Nat) (a : Arrow) (n : Note) :
    ofArrow? k a ≠ some (.ok (.note n)) := by
  intro h
  unfold ofArrow? at h
  split at h
  · split at h
    · next label hlabel =>
      split at h
      · cases hm : Method.ofWord? label.verb <;> simp [hm, Except.map] at h
      · cases h
    · cases h
  · obtain ⟨label, -, hlabel⟩ := Option.map_eq_some_iff.1 h
    cases hlabel

/-- A note is read off its parts. -/
theorem Token.exists_noteParts?_of_ofLine {k : Nat} {l : List Char} {n : Note}
    (h : ofLine k l = .ok (some (.note n))) :
    ∃ participants, noteParts? l = some (participants, n.content) := by
  unfold ofLine at h
  split at h
  · cases h
  · split at h
    · next result hr =>
      -- an arrow makes a request or a response
      obtain ⟨a, -, ha⟩ := Option.bind_eq_some_iff.1 hr
      cases result with
      | error e => simp [Except.map] at h
      | ok t =>
        obtain rfl : t = .note n := by simpa [Except.map] using h
        exact absurd ha (ofArrow?_ne_note k a n)
    · split at h
      · cases h
      · next participants content _ hparts =>
        obtain rfl : (⟨k, participants, content⟩ : Note) = n := by simpa using h
        exact ⟨participants, hparts⟩
      · cases h

/-- The content of a note is tidy. -/
theorem Token.isTidy_of_note {text : String} {tokens : List Token}
    (h : Token.read text = .ok tokens) {n : Note} (hn : .note n ∈ tokens) :
    Note.IsTidy n.content.toList := by
  obtain ⟨k, l, hk, hline⟩ := exists_line_of_mem h hn
  have hl : '\n' ∉ l := by
    obtain ⟨p, hp, rfl⟩ := List.mem_map.1 (List.mem_of_getElem? hk)
    exact fun hmem => not_mem_of_mem_pieces hp (mem_of_mem_trim hmem)
  obtain ⟨participants, hparts⟩ := exists_noteParts?_of_ofLine hline
  exact Note.isTidy_of_noteParts? hl hparts

/-! ## Remarks -/

namespace Draft

/-- A step adds the orphaned response or the note whose body cannot be read. -/
theorem mem_remarks_step {d : Draft} {t : Token} {m : Remark} (h : m ∈ (d.step t).remarks) :
    m ∈ d.remarks ∨ (∃ r, t = .response r ∧ m = .orphan r) ∨
      ∃ n e, t = .note n ∧ m = .badBody n ∧ Note.body? n.content = some (.error e) := by
  cases t with
  | declaration _ => exact .inl h
  | request r => exact .inl h
  | response r =>
    have horphan (hm : m ∈ d.remarks ++ [.orphan r]) : m ∈ d.remarks ∨ m = .orphan r := by
      simpa using hm
    simp only [step, addResponse] at h
    split at h
    · split at h
      · exact .inl h
      · exact (horphan h).imp_right fun hm => .inl ⟨r, rfl, hm⟩
    · exact (horphan h).imp_right fun hm => .inl ⟨r, rfl, hm⟩
  | note n =>
    simp only [step, addNote] at h
    split at h
    · split at h
      · rcases List.mem_append.1 h with h | h
        · exact .inl h
        · rw [bodyRemarks] at h
          split at h
          · next e he => exact .inr (.inr ⟨n, e, rfl, List.mem_singleton.1 h, he⟩)
          · cases h
      · exact .inl h
    · exact .inl h

/-- A remark is on an orphaned response or on a note whose body cannot be read. -/
theorem mem_remarks_foldl_step {ts : List Token} {d : Draft} {m : Remark}
    (h : m ∈ (ts.foldl step d).remarks) :
    m ∈ d.remarks ∨ (∃ r, .response r ∈ ts ∧ m = .orphan r) ∨
      ∃ n e, .note n ∈ ts ∧ m = .badBody n ∧ Note.body? n.content = some (.error e) := by
  induction ts generalizing d with
  | nil => exact .inl h
  | cons t ts ih =>
    rcases ih h with h | ⟨r, hr, rfl⟩ | ⟨n, e, hn, rfl, he⟩
    · rcases mem_remarks_step h with h | ⟨r, rfl, rfl⟩ | ⟨n, e, rfl, rfl, he⟩
      · exact .inl h
      · exact .inr (.inl ⟨r, List.mem_cons_self, rfl⟩)
      · exact .inr (.inr ⟨n, e, List.mem_cons_self, rfl, he⟩)
    · exact .inr (.inl ⟨r, List.mem_cons_of_mem t hr, rfl⟩)
    · exact .inr (.inr ⟨n, e, List.mem_cons_of_mem t hn, rfl, he⟩)

end Draft

/-! ## Valid diagrams -/

namespace Diagram

open Check

variable {text : String} {tokens : List Token}

/-- In a valid diagram the body of a note that begins with the key can be read. -/
theorem body?_ne_error_of_check (h : Token.read text = .ok tokens)
    (hvalid : (check text).valid = true) {n : Note} (hn : .note n ∈ tokens)
    (hbody : n.isBody = true) (e : Json.ReadError) : Note.body? n.content ≠ some (.error e) := by
  rw [check, Finding.report, Report.valid_ofIssues] at hvalid
  obtain ⟨hrecords, hfine⟩ := records_of_errors_eq_nil h hvalid
  have hmem : .note n ∈ records text := by
    rw [hrecords]
    exact List.mem_map_of_mem (f := Token.record) hn
  have hnil : body n = [] := by
    refine List.eq_nil_iff_forall_not_mem.2 fun f hf => ?_
    have hfound : f.isError = false :=
      hfine f (mem_run hmem fun c' _ => List.mem_append_right _ hf)
    rw [isError_of_mem_body hf] at hfound
    cases hfound
  exact (body_eq_nil_iff (Token.isTidy_of_note h hn)).1 hnil hbody e

/-- **Bodies of valid diagrams.** In a text that the reader takes and that passes the check, the
body of every note that begins with the key can be read, whether the note belongs to a request or
not. An error among the remarks is about a note that says something else first. So no body is lost
if every note with a body begins with it. -/
theorem bodies_of_check (h : Token.read text = .ok tokens) (hvalid : (check text).valid = true) :
    (∀ n, .note n ∈ tokens → n.isBody = true → ∀ e, Note.body? n.content ≠ some (.error e)) ∧
      (∀ m ∈ (ofTokens tokens).remarks, m.isError = true →
        ∃ n e, .note n ∈ tokens ∧ m = .badBody n ∧ n.isBody = false ∧
          Note.body? n.content = some (.error e)) ∧
      ((∀ n, .note n ∈ tokens → (Note.body? n.content).isSome = true → n.isBody = true) →
        ∀ m ∈ (ofTokens tokens).remarks, m.isError = false) := by
  have hlost : ∀ m ∈ (ofTokens tokens).remarks, m.isError = true →
      ∃ n e, .note n ∈ tokens ∧ m = .badBody n ∧ n.isBody = false ∧
        Note.body? n.content = some (.error e) := by
    intro m hm herror
    rcases Draft.mem_remarks_foldl_step hm with hm | ⟨r, -, rfl⟩ | ⟨n, e, hn, rfl, he⟩
    · cases hm
    · cases herror
    · refine ⟨n, e, hn, rfl, Bool.eq_false_iff.2 fun hbody => ?_, he⟩
      exact body?_ne_error_of_check h hvalid hn hbody e he
  refine ⟨fun n hn hbody => body?_ne_error_of_check h hvalid hn hbody, hlost, ?_⟩
  intro hfirst m hm
  by_contra herror
  obtain ⟨n, e, hn, -, hbody, he⟩ := hlost m hm (by simpa using herror)
  rw [hfirst n hn (by rw [he]; rfl)] at hbody
  cases hbody

/-- A body that begins its note, and can be read. -/
theorem bodies_of_check_of_put :
    (check "participant A\nA->>A: PUT /x\nNote over A: Body: [1]").valid = true ∧
      ∃ tokens, Token.read "participant A\nA->>A: PUT /x\nNote over A: Body: [1]" = .ok tokens ∧
        ∀ m ∈ (ofTokens tokens).remarks, m.isError = false := by
  have hread : Token.read "participant A\nA->>A: PUT /x\nNote over A: Body: [1]" =
      .ok [.declaration ⟨1, "A"⟩, .request ⟨2, "A", "A", .put, "/x", none⟩,
        .note ⟨3, ["A"], "Body: [1]"⟩] := by decide +kernel
  have hvalid : (check "participant A\nA->>A: PUT /x\nNote over A: Body: [1]").valid = true := by
    decide +kernel
  refine ⟨hvalid, _, hread, (bodies_of_check hread hvalid).2.2 fun n hn _ => ?_⟩
  obtain rfl : n = ⟨3, ["A"], "Body: [1]"⟩ := by simpa using hn
  decide +kernel

/-- A valid diagram can lose a body: one that stands behind another key of its note. -/
theorem check_of_body_behind_security :
    (check "participant A\nA->>A: GET /x\nNote over A: Security: bearerAuth\\nBody: \x7b").valid =
        true ∧
      ∃ d, Diagram.read
          "participant A\nA->>A: GET /x\nNote over A: Security: bearerAuth\\nBody: \x7b" = .ok d ∧
        d.remarks.any Remark.isError = true := by
  refine ⟨by decide +kernel, exists_read ?_⟩
  decide +kernel

end Diagram

end SequenceApi
