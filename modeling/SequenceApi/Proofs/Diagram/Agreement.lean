import Mathlib.Data.List.TakeWhile
import SequenceApi.Console.Report
import SequenceApi.Diagram.Build
import SequenceApi.Proofs.Diagram.Verb

/-!
# The lenient reader and the strict check agree

The reader passes over lines that it does not know; the check reports them. Line by line, the two
make the same decision: a line is refused by the check, or both read it alike. So no line is passed
over in silence, and where the check finds no error, only declared names take part.

## Main definitions

* `Token.record`: what the check keeps of a token
* `Check.Verdict`: how the two come out on one line
* `Check.records`: the records of a text
* `Check.IsRefusal`: the messages about lines that are refused

## Main results

* `Check.verdict_line`: the verdict on a line
* `Check.records_eq_map_record`: without errors, the records are those of the tokens
* `Diagram.check_agrees_with_read`: the agreement on a whole text
-/

namespace SequenceApi

open Text

/-- The line of a token. -/
def Token.line : Token → Nat
  | .declaration d => d.line
  | .request r => r.line
  | .response r => r.line
  | .note n => n.line

/-- The line of a record. -/
def Record.line : Record → Nat
  | .declaration d => d.line
  | .request l => l.line
  | .response l => l.line
  | .note n => n.line

/-- What the check keeps of a token: its kind and line, the ends of an arrow, the name of a
declaration, the participants and the content of a note. -/
def Token.record : Token → Record
  | .declaration d => .declaration d
  | .request r => .request ⟨r.line, r.source, r.target⟩
  | .response r => .response ⟨r.line, r.source, r.target⟩
  | .note n => .note n

@[simp] theorem Token.line_record (t : Token) : t.record.line = t.line := by
  cases t <;> rfl

namespace Check

/-- How the reader and the check come out on a line: a token, if the reader has one, and the
findings and the record of the check, if it has one. -/
inductive Verdict (n : Nat) : Option Token → List Finding × Option Record → Prop where
  /-- Both read the line alike. -/
  | read (t : Token) (findings : List Finding) : Verdict n (some t) (findings, some t.record)
  /-- Neither knows the line, and the check says so. -/
  | unknown (line : String) : Verdict n none ([⟨some n, .unknownLine line⟩], none)
  /-- The line declares no name, and the check says so. -/
  | emptyName (t : Option Token) : Verdict n t ([⟨some n, .emptyName⟩], none)
  /-- The check misses a method. -/
  | noMethod (t : Option Token) (word : String) (findings : List Finding) (r : Option Record) :
    Verdict n t (⟨some n, .unknownMethod word⟩ :: findings, r)

/-! ## One line -/

section Line

variable {n : Nat}

/-- On an arrow both agree, or the check misses a method, or the reader refuses the text. -/
theorem arrow_cases (n : Nat) (a : Arrow) :
    (Token.ofArrow? n a = none ∧ arrow? n a = none) ∨
      (∃ t, Token.ofArrow? n a = some (.ok t) ∧ (arrow? n a).map Prod.snd = some t.record) ∨
      (∃ w fs r, Token.ofArrow? n a = none ∧
        arrow? n a = some (⟨some n, .unknownMethod w⟩ :: fs, r)) ∨
      ∃ e, Token.ofArrow? n a = some (.error e) := by
  obtain ⟨head, source, target, label⟩ := a
  cases head with
  | reply =>
    -- both read the label of a reply alike
    cases h : ReplyLabel.read label with
    | none => simp [Token.ofArrow?, arrow?, h]
    | some l =>
      refine .inr (.inl ⟨.response ⟨n, source, target, String.ofList l.status, l.description⟩,
        ?_, ?_⟩)
      · simp [Token.ofArrow?, h]
      · simp [arrow?, h, Token.record]
  | call =>
    cases h : CallLabel.read label with
    | none => simp [Token.ofArrow?, arrow?, h]
    | some l =>
      cases hm : Method.ofName? (String.ofList (lower l.verb)) with
      | some m =>
        -- A word with the lower case of a name: letters for the one, a method for the other.
        have hiff : l.verb.all isLetter = Method.isWord l.verb := by
          rw [Bool.eq_iff_iff]
          exact ⟨fun hl => Method.isWord_of_name hl hm, fun hw => Method.isLetter_of_isWord hw hm⟩
        cases hw : Method.isWord l.verb with
        | false => simp [Token.ofArrow?, arrow?, h, hw, hiff]
        | true =>
          refine .inr (.inl ⟨.request ⟨n, source, target, m, l.path, l.summary⟩, ?_, ?_⟩)
          · simp [Token.ofArrow?, h, hw, Method.ofWord?, hm, Except.map]
          · simp [arrow?, h, hw, hiff, Token.record]
      | none =>
        -- The lower case names no method: the reader refuses a word for one, the check any word.
        cases hw : Method.isWord l.verb with
        | true =>
          refine .inr (.inr (.inr ⟨⟨String.ofList (lower l.verb)⟩, ?_⟩))
          simp [Token.ofArrow?, h, hw, Method.ofWord?, hm, Except.map]
        | false =>
          cases hl : l.verb.all isLetter with
          | false => simp [Token.ofArrow?, arrow?, h, hw, hl]
          | true =>
            refine .inr (.inr (.inl ⟨String.ofList l.verb, path n l.path,
              .request ⟨n, source, target⟩, ?_, ?_⟩))
            · simp [Token.ofArrow?, h, hw]
            · simp [arrow?, h, hl, hm]

/-- The verdict on a line that is neither blank nor a comment. -/
theorem verdict_line {l : List Char} {t : Option Token} (h : Token.ofLine n l = .ok t)
    (hl : (l.isEmpty || isComment l) = false) : Verdict n t (line n l) := by
  rw [Token.ofLine, hl] at h
  rw [line]
  split
  · exact .emptyName t
  · cases ha : (Arrow.read l).bind (Token.ofArrow? n) with
    | some result =>
      obtain ⟨a, hr, ha'⟩ := Option.bind_eq_some_iff.1 ha
      simp only [ha, Bool.false_eq_true, if_false] at h
      simp only [hr, Option.bind_some]
      rcases arrow_cases n a with ⟨hn, -⟩ | ⟨t', ht, hc⟩ | ⟨w, fs, r, hn, -⟩ | ⟨e, he⟩
      · simp [hn] at ha'
      · obtain rfl : result = .ok t' := by simpa [ht] using ha'.symm
        obtain rfl : t = some t' := by simpa [Except.map] using h.symm
        obtain ⟨⟨fs, _⟩, hfs, rfl⟩ := Option.map_eq_some_iff.1 hc
        rw [hfs]
        exact .read t' fs
      · simp [hn] at ha'
      · obtain rfl : result = .error e := by simpa [he] using ha'.symm
        simp [Except.map] at h
    | none =>
      simp only [ha, Bool.false_eq_true, if_false] at h
      have hcheck : (Arrow.read l).bind (arrow? n) = none ∨ ∃ w fs r,
          (Arrow.read l).bind (arrow? n) = some (⟨some n, .unknownMethod w⟩ :: fs, r) := by
        cases hr : Arrow.read l with
        | none => exact .inl rfl
        | some a =>
          rw [hr, Option.bind_some] at ha
          rcases arrow_cases n a with ⟨-, hn⟩ | ⟨t', ht, -⟩ | ⟨w, fs, r, -, hc⟩ | ⟨e, he⟩
          · exact .inl hn
          · simp [ht] at ha
          · exact .inr ⟨w, fs, r, hc⟩
          · simp [he] at ha
      rcases hcheck with hc | ⟨w, fs, r, hc⟩
      · -- Without an arrow, both try the same two patterns.
        rw [hc]
        cases hp : participantName? l with
        | some name =>
          obtain rfl : t = some (.declaration ⟨n, name⟩) := by simpa [hp] using h.symm
          exact .read _ _
        | none =>
          cases hn : noteParts? l with
          | some parts =>
            obtain rfl : t = some (.note ⟨n, parts.1, parts.2⟩) := by simpa [hp, hn] using h.symm
            exact .read _ _
          | none =>
            obtain rfl : t = none := by simpa [hp, hn] using h.symm
            exact .unknown _
      · rw [hc]
        exact .noMethod t w fs (some r)

end Line

/-! ## All lines -/

/-- The findings about a line and its record; none if the line is blank or a comment. -/
def entry (n : Nat) (l : List Char) : List Finding × Option Record :=
  if l.isEmpty || isComment l then ([], none) else line n l

theorem lines_cons (n : Nat) (l : List Char) (ls : List (List Char)) :
    lines n (l :: ls) =
      ((entry n l).1 ++ (lines (n + 1) ls).1, (entry n l).2.toList ++ (lines (n + 1) ls).2) := by
  simp only [lines, entry]
  split <;> rfl

theorem entry_of_ink {n : Nat} {l : List Char} (hl : (l.isEmpty || isComment l) = false) :
    entry n l = line n l := by
  rw [entry, hl]
  rfl

/-- A finding that makes a diagram invalid is the only way for the two to differ on a line. -/
theorem record_entry {n : Nat} {l : List Char} {t : Option Token} (h : Token.ofLine n l = .ok t)
    (he : ∀ f ∈ (entry n l).1, f.isError = false) : (entry n l).2 = t.map Token.record := by
  cases hl : l.isEmpty || isComment l with
  | true =>
    rw [Token.ofLine, hl] at h
    obtain rfl : t = none := by simpa using h.symm
    simp [entry, hl]
  | false =>
    rw [entry_of_ink hl] at he ⊢
    generalize hc : line n l = c at he ⊢
    have hv := verdict_line h hl
    rw [hc] at hv
    cases hv with
    | read t findings => rfl
    | unknown line => rfl
    | emptyName t =>
      have hf := he ⟨some n, .emptyName⟩ List.mem_cons_self
      simp [Finding.isError, DiagramFault.severity] at hf
    | noMethod t word findings r =>
      have hf := he ⟨some n, .unknownMethod word⟩ List.mem_cons_self
      simp [Finding.isError, DiagramFault.severity] at hf

end Check

/-! ## Lines by number -/

section Numbered

variable {α β : Type}

/-- What a function makes of numbered lines, the first of which has number `n`. -/
def onLines (f : Nat → β → Option α) (n : Nat) (ls : List β) : List α :=
  (ls.zipIdx n).filterMap fun e => f e.2 e.1

theorem onLines_cons (f : Nat → β → Option α) (n : Nat) (l : β) (ls : List β) :
    onLines f n (l :: ls) = (f n l).toList ++ onLines f (n + 1) ls := by
  cases h : f n l <;> simp [onLines, h]

variable {f : Nat → β → Option α} {lineOf : α → Nat}

theorem le_of_mem_onLines (hf : ∀ n l a, f n l = some a → lineOf a = n) {n : Nat} {ls : List β} :
    ∀ a ∈ onLines f n ls, n ≤ lineOf a := by
  intro a ha
  obtain ⟨⟨l, i⟩, hi, hfi⟩ := List.mem_filterMap.1 ha
  rw [hf i l a hfi]
  exact (List.mem_zipIdx hi).1

/-- What has the number of a line is what the function makes of that line. -/
theorem filter_onLines (hf : ∀ n l a, f n l = some a → lineOf a = n) {n k : Nat} {ls : List β}
    {l : β} (hk : ls[k]? = some l) :
    (onLines f n ls).filter (fun a => lineOf a = n + k) = (f (n + k) l).toList := by
  induction ls generalizing n k with
  | nil => simp at hk
  | cons m ms ih =>
    rw [onLines_cons, List.filter_append]
    cases k with
    | zero =>
      -- What follows has greater numbers.
      obtain rfl : m = l := by simpa using hk
      have hrest : (onLines f (n + 1) ms).filter (fun a => lineOf a = n + 0) = [] :=
        List.filter_eq_nil_iff.2 fun a ha => by
          have := le_of_mem_onLines hf a ha
          simp only [decide_eq_true_eq]
          omega
      have hfirst : (f n m).toList.filter (fun a => lineOf a = n + 0) = (f n m).toList :=
        List.filter_eq_self.2 fun a ha => by simpa using hf n m a (Option.mem_toList.1 ha)
      rw [hrest, hfirst, List.append_nil, Nat.add_zero]
    | succ k =>
      -- The first line has a lesser number.
      have hfirst : (f n m).toList.filter (fun a => lineOf a = n + (k + 1)) = [] :=
        List.filter_eq_nil_iff.2 fun a ha => by
          have := hf n m a (Option.mem_toList.1 ha)
          simp only [decide_eq_true_eq]
          omega
      have hrest := ih (n := n + 1) (k := k) (by simpa using hk)
      rw [hfirst, List.nil_append]
      rwa [show n + 1 + k = n + (k + 1) by omega] at hrest

end Numbered

namespace Token

/-- A call is a request if its label can be read, and a reply a response. -/
theorem ofArrow?_cases {n : Nat} {a : Arrow} {t : Token} (h : ofArrow? n a = some (.ok t)) :
    (∃ label m, a.head = .call ∧ CallLabel.read a.label = some label ∧
        t = .request ⟨n, a.source, a.target, m, label.path, label.summary⟩) ∨
      ∃ label, a.head = .reply ∧ ReplyLabel.read a.label = some label ∧
        t = .response ⟨n, a.source, a.target, String.ofList label.status, label.description⟩ := by
  rw [ofArrow?] at h
  split at h
  · next hhead =>
    split at h
    · next label hl =>
      split at h
      · cases hm : Method.ofWord? label.verb with
        | error e => simp [hm, Except.map] at h
        | ok m => exact .inl ⟨label, m, hhead, hl, by simpa [hm, Except.map] using h.symm⟩
      · simp at h
    · simp at h
  · next hhead =>
    obtain ⟨label, hl, heq⟩ := Option.map_eq_some_iff.1 h
    exact .inr ⟨label, hhead, hl, (Except.ok.inj heq).symm⟩

theorem line_of_ofArrow? {n : Nat} {a : Arrow} {t : Token} (h : ofArrow? n a = some (.ok t)) :
    t.line = n := by
  rcases ofArrow?_cases h with ⟨label, m, -, -, rfl⟩ | ⟨label, -, -, rfl⟩
  · rfl
  · rfl

theorem line_of_ofLine {n : Nat} {l : List Char} {t : Token} (h : ofLine n l = .ok (some t)) :
    t.line = n := by
  rw [ofLine] at h
  split at h
  · simp at h
  · split at h
    · next result hr =>
      obtain ⟨a, -, ha⟩ := Option.bind_eq_some_iff.1 hr
      cases result with
      | error e => simp [Except.map] at h
      | ok t' =>
        obtain rfl : t' = t := by simpa [Except.map] using h
        exact line_of_ofArrow? ha
    · split at h
      · obtain rfl := Option.some.inj (Except.ok.inj h)
        rfl
      · obtain rfl := Option.some.inj (Except.ok.inj h)
        rfl
      · simp at h

/-- The token of a line that can be read and is known. -/
def atLine? (n : Nat) (l : List Char) : Option Token :=
  (ofLine n l).toOption.join

/-- Lines are read if each of them is, and give the tokens of those that are known. -/
theorem of_ofLines_eq_ok {n : Nat} {ls : List (List Char)} {ts : List Token}
    (h : ofLines n ls = .ok ts) :
    (∀ (k : Nat) (l : List Char), ls[k]? = some l → ∃ o, ofLine (n + k) l = .ok o) ∧
      ts = onLines atLine? n ls := by
  induction ls generalizing n ts with
  | nil =>
    obtain rfl : [] = ts := by simpa [ofLines] using h
    exact ⟨by simp, rfl⟩
  | cons l ls ih =>
    rw [ofLines] at h
    cases ho : ofLine n l with
    | error e => simp [ho] at h
    | ok o =>
      cases hu : ofLines (n + 1) ls with
      | error e => simp [ho, hu] at h
      | ok us =>
        obtain rfl : o.toList ++ us = ts := by simpa [ho, hu] using h
        obtain ⟨hread, rfl⟩ := ih hu
        refine ⟨?_, ?_⟩
        · intro k m hk
          cases k with
          | zero =>
            obtain rfl : l = m := by simpa using hk
            exact ⟨o, ho⟩
          | succ k =>
            obtain ⟨o', ho'⟩ := hread k m (by simpa using hk)
            exact ⟨o', by rwa [show n + 1 + k = n + (k + 1) by omega] at ho'⟩
        · rw [onLines_cons, atLine?, ho]
          rfl

theorem line_of_atLine? (n : Nat) (l : List Char) (t : Token) (h : atLine? n l = some t) :
    t.line = n := by
  cases ho : ofLine n l with
  | error e => simp [atLine?, ho, Except.toOption] at h
  | ok o =>
    obtain rfl : o = some t := by simpa [atLine?, ho, Except.toOption] using h
    exact line_of_ofLine ho

end Token

namespace Check

theorem line_of_arrow? {n : Nat} {a : Arrow} {c : List Finding × Record}
    (h : arrow? n a = some c) : c.2.line = n := by
  rw [arrow?] at h
  split at h
  · split at h
    · split at h
      · obtain rfl := Option.some.inj h
        rfl
      · simp at h
    · simp at h
  · obtain ⟨l, -, rfl⟩ := Option.map_eq_some_iff.1 h
    rfl

theorem line_of_entry (n : Nat) (l : List Char) (r : Record) (h : (entry n l).2 = some r) :
    r.line = n := by
  rw [entry] at h
  split at h
  · simp at h
  · rw [line] at h
    split at h
    · simp at h
    · split at h
      · next findings record hb =>
        obtain rfl : record = r := by simpa using h
        obtain ⟨a, -, ha⟩ := Option.bind_eq_some_iff.1 hb
        exact line_of_arrow? ha
      · split at h
        · obtain rfl := Option.some.inj h
          rfl
        · obtain rfl := Option.some.inj h
          rfl
        · simp at h

theorem snd_lines (n : Nat) (ls : List (List Char)) :
    (lines n ls).2 = onLines (fun n l => (entry n l).2) n ls := by
  induction ls generalizing n with
  | nil => rfl
  | cons l ls ih => rw [lines_cons, onLines_cons, ih]

theorem mem_fst_lines {n k : Nat} {ls : List (List Char)} {l : List Char} (hk : ls[k]? = some l)
    {f : Finding} (hf : f ∈ (entry (n + k) l).1) : f ∈ (lines n ls).1 := by
  induction ls generalizing n k with
  | nil => simp at hk
  | cons m ms ih =>
    rw [lines_cons]
    cases k with
    | zero =>
      obtain rfl : m = l := by simpa using hk
      exact List.mem_append_left _ hf
    | succ k =>
      rw [show n + (k + 1) = n + 1 + k by omega] at hf
      exact List.mem_append_right _ (ih (by simpa using hk) hf)

/-- Without findings that make a diagram invalid, the records are those of the tokens. -/
theorem records_eq_map_record {n : Nat} {ls : List (List Char)} {ts : List Token}
    (h : Token.ofLines n ls = .ok ts) (he : ∀ f ∈ (lines n ls).1, f.isError = false) :
    (lines n ls).2 = ts.map Token.record := by
  obtain ⟨hread, rfl⟩ := Token.of_ofLines_eq_ok h
  clear h
  induction ls generalizing n with
  | nil => rfl
  | cons l ls ih =>
    rw [lines_cons] at he
    obtain ⟨o, ho⟩ := hread 0 l rfl
    rw [Nat.add_zero] at ho
    have hhere : (entry n l).2 = (Token.atLine? n l).map Token.record := by
      rw [record_entry ho fun f hf => he f (List.mem_append_left _ hf), Token.atLine?, ho]
      rfl
    have hrest := ih (n := n + 1) (fun f hf => he f (List.mem_append_right _ hf)) fun k m hk => by
      rw [show n + 1 + k = n + (k + 1) by omega]
      exact hread (k + 1) m (by simpa using hk)
    rw [lines_cons, onLines_cons, List.map_append, hhere, hrest]
    cases Token.atLine? n l <;> rfl

/-! ## Lines together -/

@[simp] theorem declared_step (c : Context) (r : Record) : (c.step r).2.declared = c.declared := by
  cases r with
  | response l => simp only [Context.step]; split <;> rfl
  | _ => rfl

/-- What is found about a record whatever waits is found, wherever the record stands. -/
theorem mem_run {r : Record} {rs : List Record} (hr : r ∈ rs) {c : Context} {f : Finding}
    (hf : ∀ c' : Context, c'.declared = c.declared → f ∈ (c'.step r).1) : f ∈ c.run rs := by
  induction rs generalizing c with
  | nil => cases hr
  | cons r' rs ih =>
    rw [Context.run]
    rcases List.mem_cons.1 hr with rfl | hr
    · exact List.mem_append_left _ (hf c rfl)
    · refine List.mem_append_right _ (ih hr fun c' hc' => hf c' ?_)
      exact hc'.trans (declared_step c r')

/-- Names at the ends of requests that are not declared are found, wherever the request stands. -/
theorem mem_run_of_request {l : Link} {rs : List Record} (hl : .request l ∈ rs) {c : Context}
    {f : Finding} (hf : f ∈ ends c l) : f ∈ c.run rs := by
  refine mem_run hl fun c' hc' => ?_
  rwa [Context.step, ends, hc']

theorem declared_of_ends {c : Context} {l : Link} (h : ∀ f ∈ ends c l, f.isError = false) :
    l.source ∈ c.declared ∧ l.target ∈ c.declared := by
  constructor
  · by_contra hs
    have := h ⟨some l.line, .unknownSource l.source⟩ (by simp [ends, hs])
    simp [Finding.isError, DiagramFault.severity] at this
  · by_contra ht
    have := h ⟨some l.line, .unknownTarget l.target⟩ (by simp [ends, ht])
    simp [Finding.isError, DiagramFault.severity] at this

/-- The records of a text. -/
def records (text : String) : List Record :=
  (lines 1 (trimmedLines text)).2

/-- The names that the records of a text declare. -/
def declaredNames (text : String) : List String :=
  (records text).filterMap declaredName?

end Check

namespace Text

theorem mem_of_mem_pieces {sep c : Char} {cs p : List Char} (hp : p ∈ pieces sep cs) (hc : c ∈ p) :
    c ∈ cs := by
  induction cs generalizing p with
  | nil => simp_all [pieces]
  | cons d ds ih =>
    rw [pieces] at hp
    split at hp
    · rcases List.mem_cons.1 hp with rfl | hp
      · simp at hc
      · exact List.mem_cons_of_mem d (ih hp hc)
    · split at hp
      · next h => exact absurd h (pieces_ne_nil sep ds)
      · next q qs h =>
        rcases List.mem_cons.1 hp with rfl | hp
        · rcases List.mem_cons.1 hc with rfl | hc
          · exact List.mem_cons_self
          · exact List.mem_cons_of_mem d (ih (h ▸ List.mem_cons_self) hc)
        · exact List.mem_cons_of_mem d (ih (h ▸ List.mem_cons_of_mem q hp) hc)

theorem exists_ink_of_trim_ne_nil {cs : List Char} (h : trim cs ≠ []) :
    ∃ c ∈ cs, isBlank c = false := by
  by_contra hc
  have hs : skipBlanks cs = [] := by
    rw [skipBlanks, List.dropWhile_eq_nil_iff]
    intro c hm
    by_contra hb
    exact hc ⟨c, hm, by simpa using hb⟩
  exact h (by rw [trim, hs]; rfl)

end Text

/-- A text with a line that is not blank is not blank. -/
theorem isInked_of_mem_trimmedLines {text : String} {l : List Char} (h : l ∈ trimmedLines text)
    (hl : l ≠ []) : isInked text.toList = true := by
  obtain ⟨p, hp, rfl⟩ := List.mem_map.1 h
  obtain ⟨c, hc, hb⟩ := exists_ink_of_trim_ne_nil hl
  exact List.any_eq_true.2 ⟨c, mem_of_mem_pieces hp hc, by simp [hb]⟩

/-! ## Reports -/

/-- The report has an issue with a message at a line. -/
def Report.HasAt (r : Report) (line : Nat) (message : String) : Prop :=
  ∃ i ∈ r.issues, i.line = some line ∧ i.message = message

theorem Finding.issue_mem_issues {f : Finding} {fs : List Finding} (h : f ∈ fs) :
    f.issue ∈ (Finding.report fs).issues := by
  rw [Report.issues, report, Report.ofIssues, List.mem_append]
  cases he : f.isError with
  | true => exact .inl (List.mem_map_of_mem (List.mem_filter.2 ⟨h, he⟩))
  | false => exact .inr (List.mem_map_of_mem (List.mem_filter.2 ⟨h, by simp [he]⟩))

theorem Finding.isError_of_report {fs : List Finding} (h : (Finding.report fs).errors = []) :
    ∀ f ∈ fs, f.isError = false := by
  intro f hf
  by_contra he
  have : f.issue ∈ (Finding.report fs).errors :=
    List.mem_map_of_mem (List.mem_filter.2 ⟨hf, by simpa using he⟩)
  simp [h] at this

/-- The messages about a line that is refused. -/
inductive Check.IsRefusal : String → Prop where
  | noName : IsRefusal "Empty participant name"
  | noMethod (word : String) : IsRefusal s!"Invalid HTTP method: \"{word}\""
  | unknown : IsRefusal "Line does not match any known pattern"

namespace Diagram

open Check

theorem hasAt_of_mem_entry {text : String} {k : Nat} {l : List Char}
    (hk : (trimmedLines text)[k]? = some l) (hl : l ≠ []) {f : Finding}
    (hf : f ∈ (entry (1 + k) l).1) (hline : f.line = some (1 + k)) :
    (check text).HasAt (1 + k) f.fault.message := by
  have hink := isInked_of_mem_trimmedLines (List.mem_of_getElem? hk) hl
  refine ⟨f.issue, Finding.issue_mem_issues ?_, hline, rfl⟩
  rw [findings, if_pos hink]
  exact List.mem_append_left _ (mem_fst_lines hk hf)

/-- A line is refused, with a message at its number, or is a token and the record of that token. -/
theorem refused_or_read {text : String} {tokens : List Token} (h : Token.read text = .ok tokens)
    {k : Nat} {l : List Char} (hk : (trimmedLines text)[k]? = some l) (hl : l ≠ [])
    (hc : isComment l = false) :
    (∃ message, IsRefusal message ∧ (check text).HasAt (1 + k) message) ∨
      ∃ t, tokens.filter (·.line = 1 + k) = [t] ∧
        (records text).filter (·.line = 1 + k) = [t.record] := by
  have hink : (l.isEmpty || isComment l) = false := by simp [hl, hc]
  obtain ⟨hread, rfl⟩ := Token.of_ofLines_eq_ok h
  obtain ⟨o, ho⟩ := hread k l hk
  have htokens := filter_onLines Token.line_of_atLine? (n := 1) hk
  have hrecords := filter_onLines line_of_entry (n := 1) hk
  have hat : Token.atLine? (1 + k) l = o := by rw [Token.atLine?, ho]; rfl
  rw [hat] at htokens
  rw [← snd_lines, entry_of_ink hink] at hrecords
  have hhere {f : Finding} (hf : f ∈ (line (1 + k) l).1) (hline : f.line = some (1 + k)) :
      (check text).HasAt (1 + k) f.fault.message :=
    hasAt_of_mem_entry hk hl (entry_of_ink hink ▸ hf) hline
  have hv := verdict_line ho hink
  generalize line (1 + k) l = c at hv hrecords hhere
  -- the verdict on the line says which of the two it is
  cases hv with
  | read t fs => exact .inr ⟨t, htokens, hrecords⟩
  | unknown text => exact .inl ⟨_, .unknown, hhere List.mem_cons_self rfl⟩
  | emptyName t => exact .inl ⟨_, .noName, hhere List.mem_cons_self rfl⟩
  | noMethod t word fs r => exact .inl ⟨_, .noMethod word, hhere List.mem_cons_self rfl⟩

/-- The declared names are those that tokens declare, if tokens and records say the same. -/
theorem mem_declaredNames_iff {text : String} {tokens : List Token}
    (h : records text = tokens.map Token.record) {name : String} :
    name ∈ declaredNames text ↔ ∃ d, Token.declaration d ∈ tokens ∧ d.name = name := by
  rw [declaredNames, h, List.filterMap_map, List.mem_filterMap]
  constructor
  · rintro ⟨t, ht, hn⟩
    cases t <;> simp [Token.record, declaredName?] at hn
    exact ⟨_, ht, hn⟩
  · rintro ⟨d, hd, rfl⟩
    exact ⟨_, hd, rfl⟩

/-- Without errors, both ends of a request are declared. -/
theorem declared_of_request {text : String} {tokens : List Token}
    (h : records text = tokens.map Token.record)
    (hfine : ∀ f ∈ Context.run { declared := declaredNames text } (records text),
      f.isError = false) {r : Request} (hr : .request r ∈ tokens) :
    r.source ∈ declaredNames text ∧ r.target ∈ declaredNames text := by
  refine declared_of_ends (c := { declared := declaredNames text })
    (l := ⟨r.line, r.source, r.target⟩) fun f hf => ?_
  refine hfine f (mem_run_of_request ?_ hf)
  rw [h]
  exact List.mem_map_of_mem (f := Token.record) hr

/-- Without errors, the records are those of the tokens, and nothing is wrong with the lines
together. -/
theorem records_of_errors_eq_nil {text : String} {tokens : List Token}
    (h : Token.read text = .ok tokens) (he : (check text).errors = []) :
    records text = tokens.map Token.record ∧
      ∀ f ∈ Context.run { declared := declaredNames text } (records text), f.isError = false := by
  have hfine := Finding.isError_of_report he
  rw [findings] at hfine
  split at hfine
  · exact ⟨records_eq_map_record h fun f hf => hfine f (List.mem_append_left _ hf),
      fun f hf => hfine f (List.mem_append_right _ hf)⟩
  · -- a blank text has an error
    have := hfine ⟨none, .emptyInput⟩ (by simp)
    simp [Finding.isError, DiagramFault.severity] at this

/-- Without errors, those who take part are those who are declared. -/
theorem mem_participants_iff {text : String} {tokens : List Token}
    (h : Token.read text = .ok tokens) (he : (check text).errors = []) (name : String) :
    name ∈ (ofTokens tokens).participants ↔ name ∈ declaredNames text := by
  obtain ⟨hrecords, hrun⟩ := records_of_errors_eq_nil h he
  rw [ofTokens, List.mem_eraseDups, List.mem_flatMap, mem_declaredNames_iff hrecords]
  constructor
  · rintro ⟨t, ht, hn⟩
    cases t with
    | declaration d => exact ⟨d, ht, by simpa [Token.participants, eq_comm] using hn⟩
    | request r =>
      -- a request takes part at both ends, and both are declared
      rw [← mem_declaredNames_iff hrecords]
      have hends := declared_of_request hrecords hrun ht
      rcases (by simpa [Token.participants] using hn : name = r.source ∨ name = r.target) with
        rfl | rfl
      · exact hends.1
      · exact hends.2
    | response r => simp [Token.participants] at hn
    | note n => simp [Token.participants] at hn
  · rintro ⟨d, hd, rfl⟩
    exact ⟨_, hd, by simp [Token.participants]⟩

/-- **Agreement.** Of a text that the reader takes, every line that is neither blank nor a comment
is refused by the check, with one of three messages at its number, or is the one token and the one
record of its number, which say the same. A line without a token has an issue at its number. And if
the check finds no error, the participants are the declared names. -/
theorem check_agrees_with_read {text : String} {tokens : List Token}
    (h : Token.read text = .ok tokens) :
    (∀ (k : Nat) (l : List Char), (trimmedLines text)[k]? = some l → l ≠ [] → isComment l = false →
      (∃ message, IsRefusal message ∧ (check text).HasAt (1 + k) message) ∨
        ∃ t, tokens.filter (·.line = 1 + k) = [t] ∧
          (records text).filter (·.line = 1 + k) = [t.record]) ∧
      (∀ (k : Nat) (l : List Char), (trimmedLines text)[k]? = some l → l ≠ [] →
        isComment l = false → (∀ t ∈ tokens, t.line ≠ 1 + k) →
          ∃ message, (check text).HasAt (1 + k) message) ∧
      ((check text).errors = [] →
        ∀ name, name ∈ (ofTokens tokens).participants ↔ name ∈ declaredNames text) := by
  refine ⟨fun k l hk hl hc => refused_or_read h hk hl hc, ?_, mem_participants_iff h⟩
  intro k l hk hl hc hnone
  rcases refused_or_read h hk hl hc with ⟨message, -, hat⟩ | ⟨t, ht, -⟩
  · exact ⟨message, hat⟩
  · have hmem : t ∈ tokens.filter (·.line = 1 + k) := ht ▸ List.mem_cons_self
    exact absurd (by simpa using (List.mem_filter.1 hmem).2) (hnone t (List.mem_filter.1 hmem).1)

/-- A line with a misspelt method is no token, and has an issue at its number. -/
theorem check_of_misspelt_method :
    Token.read "participant A\nA->>A: GET /x\nA->>A: FETCH /x" =
        .ok [.declaration ⟨1, "A"⟩, .request ⟨2, "A", "A", .get, "/x", none⟩] ∧
      ∃ message, (check "participant A\nA->>A: GET /x\nA->>A: FETCH /x").HasAt 3 message := by
  have h : Token.read "participant A\nA->>A: GET /x\nA->>A: FETCH /x" =
      .ok [.declaration ⟨1, "A"⟩, .request ⟨2, "A", "A", .get, "/x", none⟩] := by decide
  refine ⟨h, (check_agrees_with_read h).2.1 2 "A->>A: FETCH /x".toList ?_ ?_ ?_ ?_⟩
  · decide
  · decide
  · decide
  · decide

end Diagram

end SequenceApi
