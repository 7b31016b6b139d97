import SequenceApi.Proofs.Diagram.Acceptance
import SequenceApi.Proofs.Diagram.Waiting

/-!
# Exchanges

The shortest conversation of two participants declares both, and has a call and the reply to it. A
declaration takes a name of word characters and hyphens. An arrow takes such a name on its right,
but on its left the arrow begins at the first hyphen, so that a name with a hyphen is cut there and
no arrow is found. So an exchange of two names is read as such just if neither has a hyphen: each of
them stands on the left of one arrow.

## Main definitions

* `IsName`: the names that a declaration takes
* `arrowLine`, `exchangeText`: an arrow line, and the four lines of an exchange
* `IsExchange`: a text that is read as an exchange, and that the check takes for one

## Main results

* `Check.name_iff`: what the check demands of a declared name
* `Arrow.read_arrowLine`, `Arrow.hyphen_not_mem_source`: the ends of an arrow
* `Check.findings_exchangeText`: the check of an exchange looks at the two names only
* `Diagram.isExchange_iff`: which names have exchanges
-/

namespace SequenceApi

open Text

/-! ## Names -/

namespace Text

theorem isBlank_of_isWord {c : Char} (h : isWord c = true) : isBlank c = false := by
  rw [isWord, Bool.or_eq_true, beq_iff_eq] at h
  rcases h with rfl | h
  · rfl
  · rw [isAlphanumeric, List.any_eq_true] at h
    obtain ⟨r, hmem, hr⟩ := h
    simp only [Bool.and_eq_true, decide_eq_true_eq] at hr
    -- between the blanks there are five stretches of code points, and every range lies in one
    have hranges : ∀ r ∈ alphanumericRanges, (32 < r.1 ∧ r.2 < 0x85) ∨ (0xA0 < r.1 ∧ r.2 < 0x1680) ∨
        (0x1680 < r.1 ∧ r.2 < 0x2000) ∨ (0x205F < r.1 ∧ r.2 < 0x3000) ∨ 0x3000 < r.1 := by
      decide +kernel
    have hr' := hranges r hmem
    simp only [isBlank, Bool.or_eq_false_iff, Bool.and_eq_false_iff, decide_eq_false_iff_not,
      beq_eq_false_iff_ne]
    omega

theorem newline_not_mem {cs : List Char} (h : ∀ c ∈ cs, isBlank c = false) : '\n' ∉ cs := by
  intro hmem
  exact absurd (h _ hmem) (by decide)

end Text

/-- A name that a declaration takes: word characters and hyphens, at least one. -/
def IsName (s : String) : Prop :=
  s ≠ "" ∧ ∀ c ∈ s.toList, isWord c = true ∨ c = '-'

instance (s : String) : Decidable (IsName s) :=
  decidable_of_iff (s ≠ "" ∧ (s.toList.all fun c => isWord c || c == '-') = true) (by simp [IsName])

/-- The check finds no error in a name just if it consists of word characters and hyphens. -/
theorem Check.name_iff (n : Nat) {s : String} (hs : s ≠ "") :
    (∀ f ∈ Check.name n s, f.isError = false) ↔ IsName s := by
  have hchars : (s.toList.all fun c => isWord c || c == '-') = true ↔ IsName s := by
    simp [IsName, hs]
  rw [← hchars, name]
  constructor
  · intro h
    by_contra hbad
    have hf := h ⟨some n, .badName s⟩ (by simp [hbad])
    cases hf
  · intro hgood f hf
    rw [if_pos hgood, List.nil_append] at hf
    -- a digit in front is a warning
    split at hf
    · obtain rfl := List.mem_singleton.1 hf
      rfl
    · cases hf

namespace IsName

variable {s : String}

theorem toList_ne_nil (h : IsName s) : s.toList ≠ [] := by
  simpa using h.1

theorem isBlank_of_mem (h : IsName s) : ∀ c ∈ s.toList, isBlank c = false := by
  intro c hc
  rcases h.2 c hc with hw | rfl
  · exact isBlank_of_isWord hw
  · rfl

/-- The other characters that the notation gives a meaning to are not in a name. -/
theorem ne_of_mem (h : IsName s) {c : Char} (hc : c ∈ s.toList) : c ≠ ':' ∧ c ≠ '>' ∧ c ≠ '%' := by
  refine ⟨?_, ?_, ?_⟩
  all_goals
    rintro rfl
    exact absurd (h.2 _ hc) (by decide +kernel)

end IsName

/-! ## Arrows -/

/-- The arrow as it is written. -/
def Arrow.Head.text : Arrow.Head → String
  | .call => "->>"
  | .reply => "-->>"

/-- An arrow line, with one blank before the label. -/
def arrowLine (head : Arrow.Head) (s t label : String) : String :=
  s ++ head.text ++ t ++ ": " ++ label

namespace Arrow

theorem Head.read_text (head : Head) (rest : List Char) :
    Head.read (head.text.toList ++ rest) = some (head, rest) := by
  cases head <;> rfl

theorem toList_arrowLine (head : Head) (s t label : String) :
    (arrowLine head s t label).toList =
      s.toList ++ (head.text.toList ++ (t.toList ++ ':' :: ' ' :: label.toList)) := by
  simp [arrowLine]

/-- The left end of an arrow has no hyphen. -/
theorem hyphen_not_mem_source {l : List Char} {a : Arrow} (h : read l = some a) :
    '-' ∉ a.source.toList := by
  obtain ⟨rest, between, after, -, -, -, -, ha⟩ := read_cases h
  rw [ha, String.toList_ofList]
  intro hmem
  have hbefore := List.mem_takeWhile_imp (mem_of_mem_trim hmem)
  simp at hbefore

/-- A line without the point of an arrow has no arrow. -/
theorem read_of_not_mem {l : List Char} (h : '>' ∉ l) : read l = none := by
  have hrest : '>' ∉ l.dropWhile (· != '-') := fun hmem => h (List.dropWhile_subset _ hmem)
  by_contra hsome
  obtain ⟨a, ha⟩ := Option.ne_none_iff_exists'.1 hsome
  obtain ⟨rest, -, -, hhead, -⟩ := read_cases ha
  unfold Head.read at hhead
  split at hhead
  · simp_all
  · simp_all
  · cases hhead

/-- An arrow has its two names for ends, if the left one has no hyphen. -/
theorem read_arrowLine {s t : String} (hs : IsName s) (hdash : '-' ∉ s.toList) (ht : IsName t)
    (head : Head) (label : String) :
    read (arrowLine head s t label).toList = some ⟨head, s, t, label.toList⟩ := by
  have hbefore : ∀ c ∈ s.toList, (c != '-') = true := fun c hc =>
    bne_iff_ne.2 (ne_of_mem_of_not_mem hc hdash)
  obtain ⟨rest, hrest⟩ : ∃ rest, head.text.toList = '-' :: rest := by
    cases head <;> exact ⟨_, rfl⟩
  have htake : (arrowLine head s t label).toList.takeWhile (· != '-') = s.toList := by
    rw [toList_arrowLine, List.takeWhile_append_of_pos hbefore, hrest]
    simp
  have hdrop : (arrowLine head s t label).toList.dropWhile (· != '-') =
      head.text.toList ++ (t.toList ++ ':' :: ' ' :: label.toList) := by
    rw [toList_arrowLine, List.dropWhile_append_of_pos hbefore, hrest]
    simp
  have hcolon : ':' ∉ t.toList := fun hmem => (ht.ne_of_mem hmem).1 rfl
  rw [read, htake, hdrop, Head.read_text]
  dsimp only
  rw [cut_append_of_not_mem hcolon]
  dsimp only
  rw [if_neg (by simpa using hs.1), if_neg (by simpa using ht.1), trim_of_ink hs.isBlank_of_mem,
    trim_of_ink ht.isBlank_of_mem, String.ofList_toList, String.ofList_toList]
  rfl

end Arrow

/-- The left end of a request or a response. -/
def Token.source? : Token → Option String
  | .request r => some r.source
  | .response r => some r.source
  | _ => none

theorem Token.source?_of_ofArrow? {n : Nat} {a : Arrow} {t : Token}
    (h : ofArrow? n a = some (.ok t)) : t.source? = some a.source := by
  rcases ofArrow?_cases h with ⟨label, m, -, -, rfl⟩ | ⟨label, -, -, rfl⟩
  · rfl
  · rfl

/-- No request and no response of a text has a hyphen in its left end. -/
theorem Token.hyphen_not_mem_source {text : String} {tokens : List Token}
    (h : Token.read text = .ok tokens) {t : Token} (ht : t ∈ tokens) {s : String}
    (hs : t.source? = some s) : '-' ∉ s.toList := by
  obtain ⟨k, l, -, hline⟩ := exists_line_of_mem h ht
  have hkind : (∃ r, t = .request r) ∨ ∃ r, t = .response r := by
    cases t with
    | request r => exact .inl ⟨r, rfl⟩
    | response r => exact .inr ⟨r, rfl⟩
    | _ => cases hs
  obtain ⟨-, a, ha, harrow⟩ := exists_arrow_of_ofLine hline hkind
  obtain rfl : a.source = s := Option.some_inj.1 ((source?_of_ofArrow? harrow).symm.trans hs)
  exact Arrow.hyphen_not_mem_source ha

/-! ## Lines -/

section Lines

variable {s t : String}

/-- A line that starts with a name and ends without a blank is kept as it is. -/
theorem trim_arrowLine (hs : IsName s) {head : Arrow.Head} {label : String} (hlabel : label ≠ "")
    (hlast : ∀ c ∈ label.toList.getLast?, isBlank c = false) :
    trim (arrowLine head s t label).toList = (arrowLine head s t label).toList := by
  have hnil : label.toList ≠ [] := by simpa using hlabel
  apply trim_eq_self
  · intro c hc
    rw [Arrow.toList_arrowLine, List.head?_append_of_ne_nil _ hs.toList_ne_nil] at hc
    exact hs.isBlank_of_mem c (List.mem_of_mem_head? hc)
  · intro c hc
    apply hlast c
    rw [Arrow.toList_arrowLine] at hc
    simpa [List.getLast?_append, List.getLast?_cons, List.getLast?_eq_some_getLast hnil] using hc

theorem newline_not_mem_arrowLine (hs : IsName s) (ht : IsName t) (head : Arrow.Head)
    {label : String} (hlabel : '\n' ∉ label.toList) :
    '\n' ∉ (arrowLine head s t label).toList := by
  have hhead : '\n' ∉ head.text.toList := by cases head <;> decide
  have hs' := newline_not_mem hs.isBlank_of_mem
  have ht' := newline_not_mem ht.isBlank_of_mem
  simp [Arrow.toList_arrowLine, hhead, hs', ht', hlabel]

theorem ink_arrowLine (hs : IsName s) (head : Arrow.Head) (label : String) :
    ((arrowLine head s t label).toList.isEmpty || isComment (arrowLine head s t label).toList) =
      false := by
  rw [Arrow.toList_arrowLine]
  cases hchars : s.toList with
  | nil => exact absurd hchars hs.toList_ne_nil
  | cons c cs =>
    have hc : c ≠ '%' := (hs.ne_of_mem (hchars ▸ List.mem_cons_self)).2.2
    simp [isComment, List.isPrefixOf, Ne.symm hc]

/-- A line without an arrow that declares a participant. -/
def declarationLine (s : String) : String :=
  "participant " ++ s

theorem toList_declarationLine (s : String) :
    (declarationLine s).toList = "participant".toList ++ ' ' :: s.toList := by
  simp [declarationLine]

theorem trim_declarationLine (hs : IsName s) :
    trim (declarationLine s).toList = (declarationLine s).toList := by
  apply trim_eq_self
  · intro c hc
    obtain rfl : 'p' = c := by simpa [toList_declarationLine] using hc
    rfl
  · intro c hc
    apply hs.isBlank_of_mem
    rw [toList_declarationLine] at hc
    have hlast : (s.toList).getLast? = some c := by
      simpa [List.getLast?_append, List.getLast?_cons,
        List.getLast?_eq_some_getLast hs.toList_ne_nil] using hc
    exact List.mem_of_getLast? hlast

theorem newline_not_mem_declarationLine (hs : IsName s) :
    '\n' ∉ (declarationLine s).toList := by
  have hs' := newline_not_mem hs.isBlank_of_mem
  simp [toList_declarationLine, hs']

theorem ink_declarationLine (s : String) :
    ((declarationLine s).toList.isEmpty || isComment (declarationLine s).toList) = false := by
  rw [toList_declarationLine]
  rfl

theorem participantName?_declarationLine (hs : IsName s) :
    participantName? (declarationLine s).toList = some s := by
  have hafter : afterKeyword? "participant" (declarationLine s).toList = some s.toList := by
    have hdrop : dropWord? "participant" (declarationLine s).toList = some (' ' :: s.toList) := by
      rw [toList_declarationLine]
      rfl
    rw [afterKeyword?, hdrop]
    dsimp only
    rw [if_pos (by decide), skipBlanks_of_ink hs.isBlank_of_mem]
  have hword : word s.toList = s.toList := by
    simpa using word_append hs.isBlank_of_mem [] (by simp)
  rw [participantName?, hafter]
  dsimp only
  rw [if_neg (by simpa using hs.1), hword, String.ofList_toList]

theorem read_declarationLine (hs : IsName s) : Arrow.read (declarationLine s).toList = none := by
  apply Arrow.read_of_not_mem
  intro hmem
  rw [toList_declarationLine, List.mem_append, List.mem_cons] at hmem
  rcases hmem with hmem | heq | hmem
  · exact absurd hmem (by decide)
  · exact absurd heq (by decide)
  · exact (hs.ne_of_mem hmem).2.1 rfl

theorem Token.ofLine_declarationLine (hs : IsName s) (n : Nat) :
    ofLine n (declarationLine s).toList = .ok (some (.declaration ⟨n, s⟩)) := by
  rw [ofLine, ink_declarationLine, if_neg Bool.false_ne_true, read_declarationLine hs,
    participantName?_declarationLine hs]
  rfl

theorem Check.line_declarationLine (hs : IsName s) (n : Nat) :
    Check.line n (declarationLine s).toList = (name n s, some (.declaration ⟨n, s⟩)) := by
  have hkeyword : isKeyword "participant" (declarationLine s).toList = false := by
    rw [toList_declarationLine]
    rfl
  rw [line, hkeyword, if_neg Bool.false_ne_true, read_declarationLine hs,
    participantName?_declarationLine hs]
  rfl

/-- A line with an arrow is what the reader makes of the arrow. -/
theorem Token.ofLine_arrowLine (hs : IsName s) (hdash : '-' ∉ s.toList) (ht : IsName t)
    {head : Arrow.Head} {label : String} {n : Nat} {token : Token}
    (h : ofArrow? n ⟨head, s, t, label.toList⟩ = some (.ok token)) :
    ofLine n (arrowLine head s t label).toList = .ok (some token) := by
  rw [ofLine, ink_arrowLine hs, if_neg Bool.false_ne_true, Arrow.read_arrowLine hs hdash ht,
    Option.bind_some, h]
  rfl

/-- A line with an arrow is what the check makes of the arrow. -/
theorem Check.line_arrowLine (hs : IsName s) (hdash : '-' ∉ s.toList) (ht : IsName t)
    {head : Arrow.Head} {label : String} {n : Nat} {record : Record}
    (h : arrow? n ⟨head, s, t, label.toList⟩ = some ([], record)) :
    Check.line n (arrowLine head s t label).toList = ([], some record) := by
  have hread := Arrow.read_arrowLine hs hdash ht head label
  have hkeyword : ¬ isKeyword "participant" (arrowLine head s t label).toList = true := by
    intro hk
    rw [Arrow.read_of_isKeyword hk] at hread
    cases hread
  rw [line, if_neg hkeyword, hread, Option.bind_some, h]

end Lines

/-! ## Labels -/

/-- The label of a call: a method and a path. -/
def callLabel (verb path : String) : String :=
  verb ++ " " ++ path

/-- A method as it may be written: in any case. -/
def Method.IsSpelling (m : Method) (verb : String) : Prop :=
  verb.toList.map Char.toLower = m.name.toList

instance (m : Method) (verb : String) : Decidable (m.IsSpelling verb) :=
  inferInstanceAs (Decidable (_ = _))

namespace Method.IsSpelling

variable {m : Method} {verb : String}

theorem all_isLetter (h : m.IsSpelling verb) : verb.toList.all Check.isLetter = true := by
  refine List.all_eq_true.2 fun c hc => isLetter_of_toLower ?_
  apply (name_letters m _ ?_).1
  rw [← h]
  exact List.mem_map_of_mem hc

theorem ofName?_lower (h : m.IsSpelling verb) :
    ofName? (String.ofList (lower verb.toList)) = some m := by
  have hascii : ∀ c ∈ verb.toList, c.toNat < 0x80 := fun c hc =>
    toNat_lt_of_isLetter (List.all_eq_true.1 h.all_isLetter c hc)
  rw [lower_of_ascii hascii, show verb.toList.map Char.toLower = m.name.toList from h,
    String.ofList_toList, ofName?_name]

theorem isWord (h : m.IsSpelling verb) : Method.isWord verb.toList = true :=
  isWord_of_name h.all_isLetter h.ofName?_lower

theorem isBlank_of_mem (h : m.IsSpelling verb) : ∀ c ∈ verb.toList, isBlank c = false := by
  intro c hc
  have hletter := List.all_eq_true.1 h.all_isLetter c hc
  apply isBlank_of_isWord
  -- the letters of ASCII are two of the ranges of word characters
  rw [Text.isWord, isAlphanumeric, Bool.or_eq_true, List.any_eq_true]
  simp only [Check.isLetter, Bool.or_eq_true, Bool.and_eq_true, decide_eq_true_eq,
    Char.le_def] at hletter
  rcases hletter with ⟨hl, hr⟩ | ⟨hl, hr⟩
  · exact .inr ⟨(0x61, 0x7A), by decide +kernel, by simpa using ⟨hl, hr⟩⟩
  · exact .inr ⟨(0x41, 0x5A), by decide +kernel, by simpa using ⟨hl, hr⟩⟩

theorem ne_empty (h : m.IsSpelling verb) : verb ≠ "" := by
  rintro rfl
  cases m <;> cases h

end Method.IsSpelling

section Labels

variable {s t verb path : String} {m : Method}

theorem toList_callLabel (verb path : String) :
    (callLabel verb path).toList = verb.toList ++ ' ' :: path.toList := by
  simp [callLabel]

theorem newline_not_mem_callLabel (hverb : m.IsSpelling verb)
    (hpath : ∀ c ∈ path.toList, isBlank c = false) : '\n' ∉ (callLabel verb path).toList := by
  have hverb' := newline_not_mem hverb.isBlank_of_mem
  have hpath' := newline_not_mem hpath
  simp [toList_callLabel, hverb', hpath']

/-- A call ends with the last character of its path. -/
theorem isBlank_getLast?_callLabel (hpath : ∀ c ∈ path.toList, isBlank c = false)
    (hne : path ≠ "") : ∀ c ∈ (callLabel verb path).toList.getLast?, isBlank c = false := by
  intro c hc
  apply hpath
  have hnil : path.toList ≠ [] := by simpa using hne
  have hlast : path.toList.getLast? = some c := by
    simpa [toList_callLabel, List.getLast?_append, List.getLast?_cons,
      List.getLast?_eq_some_getLast hnil] using hc
  exact List.mem_of_getLast? hlast

theorem CallLabel.read_callLabel (hverb : m.IsSpelling verb)
    (hpath : ∀ c ∈ path.toList, isBlank c = false) (hne : path ≠ "") :
    read (callLabel verb path).toList = some ⟨verb.toList, path, none⟩ := by
  have hlabel := toList_callLabel verb path
  have hblank : ∀ c ∈ (' ' :: path.toList).head?, isBlank c = true := by
    rintro c ⟨⟩
    rfl
  have hword : word (callLabel verb path).toList = verb.toList := by
    rw [hlabel, word_append hverb.isBlank_of_mem _ hblank]
  have hskip : skipBlanks (afterWord (callLabel verb path).toList) = path.toList := by
    rw [hlabel, afterWord_append hverb.isBlank_of_mem _ hblank,
      skipBlanks_cons_of_blank (by decide), skipBlanks_of_ink hpath]
  have hpathWord : word path.toList = path.toList := by
    simpa using word_append hpath [] (by simp)
  have hrest : afterWord path.toList = [] := by
    simpa using afterWord_append hpath [] (by simp)
  rw [read, hword, hskip, hpathWord, hrest, if_neg (by simpa using ⟨hverb.ne_empty, hne⟩),
    String.ofList_toList]
  rfl

theorem Token.ofArrow?_call (hverb : m.IsSpelling verb)
    (hpath : ∀ c ∈ path.toList, isBlank c = false) (hne : path ≠ "") (n : Nat) :
    ofArrow? n ⟨.call, s, t, (callLabel verb path).toList⟩ =
      some (.ok (.request ⟨n, s, t, m, path, none⟩)) := by
  rw [ofArrow?]
  dsimp only
  rw [CallLabel.read_callLabel hverb hpath hne]
  dsimp only
  rw [if_pos hverb.isWord, Method.ofWord?, hverb.ofName?_lower]
  rfl

theorem Check.arrow?_call (hverb : m.IsSpelling verb)
    (hpath : ∀ c ∈ path.toList, isBlank c = false) (hne : path ≠ "")
    (hfaults : RequestPath.faults path = []) (n : Nat) :
    arrow? n ⟨.call, s, t, (callLabel verb path).toList⟩ = some ([], .request ⟨n, s, t⟩) := by
  rw [arrow?]
  dsimp only
  rw [CallLabel.read_callLabel hverb hpath hne]
  dsimp only
  rw [if_pos hverb.all_isLetter, hverb.ofName?_lower, Check.path, hfaults]
  rfl

end Labels

/-! ## Exchanges -/

/-- Two declarations, a call from the first participant to the second, and the reply to it. -/
def exchangeText (s t verb path : String) : String :=
  joined "\n" [declarationLine s, declarationLine t, arrowLine .call s t (callLabel verb path),
    arrowLine .reply t s "200"]

/-- The text is read as an exchange: a request and a response with the two ends, and one interaction
that is answered. The check finds no error in it, and knows every line. -/
structure IsExchange (s t : String) (m : Method) (path text : String) : Prop where
  tokens : Token.read text = .ok [.declaration ⟨1, s⟩, .declaration ⟨2, t⟩,
    .request ⟨3, s, t, m, path, none⟩, .response ⟨4, t, s, "200", none⟩]
  diagram : ∃ d, Diagram.read text = .ok d ∧ d.remarks = [] ∧
    d.interactions = [{ Interaction.ofRequest ⟨3, s, t, m, path, none⟩ with
      answer := some ⟨"200", none⟩ }]
  errors : (Diagram.check text).errors = []
  known : ∀ x ∈ (Diagram.check text).warnings, x.message ≠ "Line does not match any known pattern"

section Exchange

variable {s t verb path : String} {m : Method}

theorem trimmedLines_exchangeText (hs : IsName s) (ht : IsName t) (hverb : m.IsSpelling verb)
    (hpath : ∀ c ∈ path.toList, isBlank c = false) (hne : path ≠ "") :
    trimmedLines (exchangeText s t verb path) =
      [(declarationLine s).toList, (declarationLine t).toList,
        (arrowLine .call s t (callLabel verb path)).toList,
        (arrowLine .reply t s "200").toList] := by
  have hlabel : callLabel verb path ≠ "" := by simp [callLabel, hne]
  have hstatus : ∀ c ∈ "200".toList.getLast?, isBlank c = false := by
    rintro c ⟨⟩
    rfl
  have hnewline : "\n" = String.singleton '\n' := rfl
  rw [trimmedLines, exchangeText, hnewline, pieces_joined (by simp)]
  · simp only [List.map_cons, List.map_nil]
    rw [trim_declarationLine hs, trim_declarationLine ht,
      trim_arrowLine hs hlabel (isBlank_getLast?_callLabel hpath hne),
      trim_arrowLine ht (by decide) hstatus]
  · simp only [List.forall_mem_cons, List.not_mem_nil, false_imp_iff, implies_true, and_true]
    refine ⟨newline_not_mem_declarationLine hs, newline_not_mem_declarationLine ht, ?_, ?_⟩
    · exact newline_not_mem_arrowLine hs ht .call (newline_not_mem_callLabel hverb hpath)
    · exact newline_not_mem_arrowLine ht hs .reply (by decide)

theorem Token.read_exchangeText (hs : IsName s) (ht : IsName t) (hsd : '-' ∉ s.toList)
    (htd : '-' ∉ t.toList) (hverb : m.IsSpelling verb)
    (hpath : ∀ c ∈ path.toList, isBlank c = false) (hne : path ≠ "") :
    Token.read (exchangeText s t verb path) = .ok [.declaration ⟨1, s⟩, .declaration ⟨2, t⟩,
      .request ⟨3, s, t, m, path, none⟩, .response ⟨4, t, s, "200", none⟩] := by
  have hcall := ofLine_arrowLine hs hsd ht (ofArrow?_call hverb hpath hne 3)
  have hreply : ofLine 4 (arrowLine .reply t s "200").toList =
      .ok (some (.response ⟨4, t, s, "200", none⟩)) :=
    ofLine_arrowLine ht htd hs rfl
  rw [Token.read, trimmedLines_exchangeText hs ht hverb hpath hne]
  simp only [ofLines, ofLine_declarationLine hs, ofLine_declarationLine ht, hcall, hreply]
  rfl

/-- The check of an exchange finds nothing but what it finds in the two names. -/
theorem Check.findings_exchangeText (hs : IsName s) (ht : IsName t) (hsd : '-' ∉ s.toList)
    (htd : '-' ∉ t.toList) (hverb : m.IsSpelling verb)
    (hpath : ∀ c ∈ path.toList, isBlank c = false) (hne : path ≠ "")
    (hfaults : RequestPath.faults path = []) :
    findings (exchangeText s t verb path) = name 1 s ++ name 2 t := by
  have hcall := line_arrowLine hs hsd ht (arrow?_call hverb hpath hne hfaults 3)
  have hreply : line 4 (arrowLine .reply t s "200").toList = ([], some (.response ⟨4, t, s⟩)) :=
    line_arrowLine ht htd hs rfl
  have htrimmed := trimmedLines_exchangeText hs ht hverb hpath hne
  have hink : isInked (exchangeText s t verb path).toList = true := by
    apply isInked_of_mem_trimmedLines (l := (declarationLine s).toList)
    · rw [htrimmed]
      exact List.mem_cons_self
    · simp [toList_declarationLine]
  have hlines : lines 1 (trimmedLines (exchangeText s t verb path)) =
      (name 1 s ++ name 2 t, [.declaration ⟨1, s⟩, .declaration ⟨2, t⟩, .request ⟨3, s, t⟩,
        .response ⟨4, t, s⟩]) := by
    rw [htrimmed, lines_cons, lines_cons, lines_cons, lines_cons,
      entry_of_ink (ink_declarationLine s), entry_of_ink (ink_declarationLine t),
      entry_of_ink (ink_arrowLine hs _ _), entry_of_ink (ink_arrowLine ht _ _),
      line_declarationLine hs, line_declarationLine ht, hcall, hreply]
    simp [lines]
  rw [findings, if_pos hink, hlines]
  simp [Context.run, Context.step, ends, declaredName?, isReverse]

/-- What the check finds in a name, if it takes it, is that a digit is in front. -/
theorem Check.message_of_mem_name (hs : IsName s) {n : Nat} {f : Finding} (hf : f ∈ name n s) :
    f.isError = false ∧ f.issue.message ≠ "Line does not match any known pattern" := by
  refine ⟨(name_iff n hs.1).2 hs f hf, ?_⟩
  have hfault : (∃ s, f.fault = .badName s) ∨ ∃ s, f.fault = .digitFirst s := by
    rw [name, List.mem_append] at hf
    rcases hf with hf | hf
    · split at hf
      · cases hf
      · exact .inl ⟨s, by rw [List.mem_singleton.1 hf]⟩
    · split at hf
      · exact .inr ⟨s, by rw [List.mem_singleton.1 hf]⟩
      · cases hf
  intro hmessage
  -- the messages start with different letters
  have hhead := f.fault.head?_message
  rw [show f.fault.message = _ from hmessage] at hhead
  rcases hfault with ⟨s, hs⟩ | ⟨s, hs⟩
  · rw [hs, DiagramFault.initial] at hhead
    exact absurd hhead (by decide)
  · rw [hs, DiagramFault.initial] at hhead
    exact absurd hhead (by decide)

end Exchange

namespace Finding

variable {fs : List Finding}

theorem errors_report (h : ∀ f ∈ fs, f.isError = false) : (report fs).errors = [] := by
  have hnone : fs.filter isError = [] := List.filter_eq_nil_iff.2 fun f hf => by simp [h f hf]
  simp [report, Report.ofIssues, hnone]

theorem exists_of_mem_warnings {x : Issue} (h : x ∈ (report fs).warnings) :
    ∃ f ∈ fs, f.issue = x := by
  obtain ⟨f, hf, hx⟩ := List.mem_map.1 h
  exact ⟨f, List.mem_of_mem_filter hf, hx⟩

end Finding

namespace Diagram

variable {s t verb path : String} {m : Method}

/-- **Which names have exchanges.** Take two names that a declaration takes, a method in any case
and a path without blanks that the check accepts. Their exchange is read as one and passes the
check just if neither name has a hyphen and the path is not empty. -/
theorem isExchange_iff (hs : IsName s) (ht : IsName t) (hverb : m.IsSpelling verb)
    (hpath : ∀ c ∈ path.toList, isBlank c = false) (hfaults : RequestPath.faults path = []) :
    IsExchange s t m path (exchangeText s t verb path) ↔
      '-' ∉ s.toList ∧ '-' ∉ t.toList ∧ path ≠ "" := by
  constructor
  · intro h
    refine ⟨?_, ?_, ?_⟩
    · exact Token.hyphen_not_mem_source h.tokens (t := .request ⟨3, s, t, m, path, none⟩)
        (by simp) rfl
    · exact Token.hyphen_not_mem_source h.tokens (t := .response ⟨4, t, s, "200", none⟩)
        (by simp) rfl
    · exact Token.path_ne_empty_of_request h.tokens (r := ⟨3, s, t, m, path, none⟩) (by simp)
  · rintro ⟨hsd, htd, hne⟩
    have htokens := Token.read_exchangeText hs ht hsd htd hverb hpath hne
    have hfindings := Check.findings_exchangeText hs ht hsd htd hverb hpath hne hfaults
    have hnames : ∀ f ∈ Check.findings (exchangeText s t verb path),
        f.isError = false ∧ f.issue.message ≠ "Line does not match any known pattern" := by
      intro f hf
      rw [hfindings, List.mem_append] at hf
      exact hf.elim (Check.message_of_mem_name hs) (Check.message_of_mem_name ht)
    refine ⟨htokens, ?_, ?_, ?_⟩
    · refine ⟨_, by rw [Diagram.read, htokens]; rfl, ?_, ?_⟩
      · simp [ofTokens, Draft.step, Draft.addRequest, Draft.addResponse, Draft.answers,
          Interaction.ofRequest]
      · simp [ofTokens, Draft.step, Draft.addRequest, Draft.addResponse, Draft.answers,
          Draft.interactions, Interaction.ofRequest]
    · exact Finding.errors_report fun f hf => (hnames f hf).1
    · intro x hx
      obtain ⟨f, hf, rfl⟩ := Finding.exists_of_mem_warnings hx
      exact (hnames f hf).2

theorem isExchange_of_digitName :
    IsExchange "2nd" "Größe" .patch "/x/\x7bid\x7d?q=a-b"
      (exchangeText "2nd" "Größe" "PatcH" "/x/\x7bid\x7d?q=a-b") := by
  have hpath : ∀ c ∈ "/x/\x7bid\x7d?q=a-b".toList, isBlank c = false := by simp [isBlank]
  rw [isExchange_iff (by decide +kernel) (by decide +kernel) (by decide) hpath (by decide)]
  decide

/-- A declaration takes a name with a hyphen, but the call from it is no known line, and so the
reply to it is an orphan. -/
theorem not_isExchange_of_hyphen :
    IsName "a-b" ∧ IsName "t" ∧ Method.get.IsSpelling "GET" ∧ RequestPath.faults "/x" = [] ∧
      ¬ IsExchange "a-b" "t" .get "/x" (exchangeText "a-b" "t" "GET" "/x") ∧
      ((check (exchangeText "a-b" "t" "GET" "/x")).errors.map fun x => (x.line, x.message)) =
        [(some 4, "Orphaned response - no matching request found")] ∧
      ((check (exchangeText "a-b" "t" "GET" "/x")).warnings.map fun x => (x.line, x.message)) =
        [(some 3, "Line does not match any known pattern")] := by
  have herrors : ((check (exchangeText "a-b" "t" "GET" "/x")).errors.map fun x =>
      (x.line, x.message)) = [(some 4, "Orphaned response - no matching request found")] := by
    decide +kernel
  refine ⟨by decide +kernel, by decide +kernel, by decide, by decide, ?_, herrors, ?_⟩
  · intro h
    rw [h.errors] at herrors
    cases herrors
  · decide +kernel

end Diagram

end SequenceApi
