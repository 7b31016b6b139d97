import SequenceApi.Proofs.Diagram.Exchange
import SequenceApi.Proofs.Document.Layout
import SequenceApi.Proofs.Document.Validity

/-!
# The grammar of lines

The reader takes a line apart step by step: it looks for the first hyphen, an arrow there, the next
colon, and words behind it. The lines that it takes can also be described by what they are put
together from, without a search. The four kinds of lines overlap, and they are tried in order.

## Main definitions

* `IsBlanks`, `IsGap`, `IsRun`: the parts between words, and words
* `IsArrowLine`: a line with an arrow at its first hyphen
* `IsRequestLine`, `IsResponseLine`, `IsDeclarationLine`, `IsNoteLine`: the four kinds of lines
* `Token.Stands`: what stands on a line, in the order of trial

## Main results

* `Arrow.read_iff`, `CallLabel.read_iff`, `ReplyLabel.read_iff`: arrows and labels
* `participantName?_iff`, `noteParts?_iff`: declarations and notes
* `Token.ofLine_iff`: a line that can be read
* `Token.read_iff_grammar`: the lines of a text
-/

namespace SequenceApi

open Text

/-! ## Parts of a line -/

/-- Blanks, at least one. -/
def IsBlanks (cs : List Char) : Prop :=
  cs ≠ [] ∧ ∀ c ∈ cs, isBlank c = true

/-- At most one blank. -/
def IsGap (cs : List Char) : Prop :=
  cs.length ≤ 1 ∧ ∀ c ∈ cs, isBlank c = true

/-- Characters that are not blank, at least one and up to the next blank. -/
structure IsRun (cs rest : List Char) : Prop where
  ne_nil : cs ≠ []
  ink : ∀ c ∈ cs, isBlank c = false
  maximal : ∀ c ∈ rest.head?, isBlank c = true

/-- The line has text before its first hyphen, an arrow there, text up to the next colon, and
something after it. -/
structure IsArrowLine (head : Arrow.Head) (l before between after : List Char) : Prop where
  eq_append : l = before ++ (head.text.toList ++ (between ++ ':' :: after))
  before_ne_nil : before ≠ []
  hyphen_not_mem : '-' ∉ before
  between_ne_nil : between ≠ []
  colon_not_mem : ':' ∉ between

/-- A call with a method in any case, a path, and what follows for a summary. -/
def IsRequestLine (n : Nat) (l : List Char) (r : Request) : Prop :=
  ∃ before between gap verb blanks path rest m,
    IsArrowLine .call l before between (gap ++ (verb ++ (blanks ++ (path ++ rest)))) ∧
      IsGap gap ∧ Method.IsSpelling m (String.ofList verb) ∧ IsBlanks blanks ∧ IsRun path rest ∧
      r = ⟨n, String.ofList (trim before), String.ofList (trim between), m, String.ofList path,
        remainder? rest⟩

/-- A reply with three digits, and what follows for a description. -/
def IsResponseLine (n : Nat) (l : List Char) (r : Response) : Prop :=
  ∃ before between gap a b c rest,
    IsArrowLine .reply l before between (gap ++ a :: b :: c :: rest) ∧ IsGap gap ∧
      (isDigit a = true ∧ isDigit b = true ∧ isDigit c = true) ∧
      r = ⟨n, String.ofList (trim before), String.ofList (trim between), String.ofList [a, b, c],
        remainder? rest⟩

/-- The keyword in any case, and a word for a name. -/
def IsDeclarationLine (l : List Char) (name : String) : Prop :=
  ∃ key blanks cs rest, l = key ++ (blanks ++ (cs ++ rest)) ∧ isKeyword "participant" key = true ∧
    IsBlanks blanks ∧ IsRun cs rest ∧ name = String.ofList cs

/-- The two keywords in any case, names between commas up to the first colon, and a text. -/
def IsNoteLine (l : List Char) (participants : List String) (content : String) : Prop :=
  ∃ key blanks key' blanks' names after,
    l = key ++ (blanks ++ (key' ++ (blanks' ++ (names ++ ':' :: after)))) ∧
      isKeyword "note" key = true ∧ IsBlanks blanks ∧ isKeyword "over" key' = true ∧
      IsBlanks blanks' ∧ names ≠ [] ∧ ':' ∉ names ∧ trim after ≠ [] ∧
      participants = (pieces ',' names).map (fun p => String.ofList (trim p)) ∧
      content = String.ofList (trim after)

/-- What stands on a line: a line that is of two kinds is of the kind that is tried first. -/
inductive Token.Stands (n : Nat) (l : List Char) : Token → Prop
  | request {r : Request} : IsRequestLine n l r → Stands n l (.request r)
  | response {r : Response} : IsResponseLine n l r → Stands n l (.response r)
  | declaration {name : String} : (∀ r, ¬ IsRequestLine n l r) → (∀ r, ¬ IsResponseLine n l r) →
    IsDeclarationLine l name → Stands n l (.declaration ⟨n, name⟩)
  | note {participants : List String} {content : String} : (∀ r, ¬ IsRequestLine n l r) →
    (∀ r, ¬ IsResponseLine n l r) → (∀ name, ¬ IsDeclarationLine l name) →
    IsNoteLine l participants content → Stands n l (.note ⟨n, participants, content⟩)

/-! ## Words and keywords -/

namespace Text

theorem head?_afterWord (cs : List Char) : ∀ c ∈ (afterWord cs).head?, isBlank c = true := by
  intro c hc
  have hhead := List.head?_dropWhile_not (fun c => !isBlank c) cs
  rw [← afterWord, Option.mem_def.1 hc] at hhead
  simpa using hhead

theorem head?_skipBlanks (cs : List Char) : ∀ c ∈ (skipBlanks cs).head?, isBlank c = false := by
  intro c hc
  have hhead := List.head?_dropWhile_not isBlank cs
  rwa [← skipBlanks, Option.mem_def.1 hc] at hhead

/-- A text that starts with no blank loses none. -/
theorem skipBlanks_eq_self {cs : List Char} (h : ∀ c ∈ cs.head?, isBlank c = false) :
    skipBlanks cs = cs := by
  cases cs with
  | nil => rfl
  | cons c cs => exact skipBlanks_cons_of_ink (h c rfl)

/-- The first part of a cut has no separator. -/
theorem not_mem_of_cut {sep : Char} {cs before : List Char} {after : Option (List Char)}
    (h : cut sep cs = (before, after)) : sep ∉ before := by
  induction cs generalizing before with
  | nil =>
    obtain ⟨rfl, -⟩ := Prod.mk.inj h
    exact List.not_mem_nil
  | cons c cs ih =>
    rw [cut] at h
    split at h
    · obtain ⟨rfl, -⟩ := Prod.mk.inj h
      exact List.not_mem_nil
    · next hc =>
      obtain ⟨rfl, hafter⟩ := Prod.mk.inj h
      rw [List.mem_cons, not_or]
      exact ⟨fun heq => hc (by simp [heq]), ih (Prod.ext rfl hafter)⟩

theorem dropLetters?_eq_some_iff {ps cs rest : List Char} :
    dropLetters? ps cs = some rest ↔ ∃ key, dropLetters? ps key = some [] ∧ cs = key ++ rest := by
  induction ps generalizing cs with
  | nil =>
    constructor
    · intro h
      exact ⟨[], rfl, Option.some_inj.1 h⟩
    · rintro ⟨key, hkey, rfl⟩
      obtain rfl : key = [] := Option.some_inj.1 hkey
      rfl
  | cons p ps ih =>
    cases cs with
    | nil =>
      refine ⟨fun h => (by cases h), ?_⟩
      rintro ⟨key, hkey, hnil⟩
      obtain rfl : key = [] := (List.append_eq_nil_iff.1 hnil.symm).1
      cases hkey
    | cons c cs =>
      rw [dropLetters?]
      constructor
      · intro h
        split at h
        · next hc =>
          obtain ⟨key, hkey, rfl⟩ := ih.1 h
          exact ⟨c :: key, by rw [dropLetters?, if_pos hc, hkey], rfl⟩
        · cases h
      · rintro ⟨key, hkey, heq⟩
        cases key with
        | nil => cases hkey
        | cons d key =>
          obtain ⟨rfl, rfl⟩ := List.cons.inj heq
          rw [dropLetters?] at hkey
          split at hkey
          · next hc =>
            rw [if_pos hc]
            exact ih.2 ⟨key, hkey, rfl⟩
          · cases hkey

/-- What follows a keyword is the rest of the text behind it. -/
theorem dropWord?_eq_some_iff {w : String} {cs rest : List Char} :
    dropWord? w cs = some rest ↔ ∃ key, isKeyword w key = true ∧ cs = key ++ rest := by
  simp only [dropWord?, isKeyword, beq_iff_eq]
  exact dropLetters?_eq_some_iff

/-- No blank is a letter in another case. -/
theorem isBlank_of_sameLetter {p c : Char} (h : sameLetter p c = true) (hp : isBlank p = false) :
    isBlank c = false := by
  rw [Bool.eq_false_iff]
  intro hc
  have hcapital : ¬ ('A' ≤ c ∧ c ≤ 'Z') := by
    rintro ⟨hl, hr⟩
    have hl' : 65 ≤ c.toNat := Char.le_def.1 hl
    have hr' : c.toNat ≤ 90 := Char.le_def.1 hr
    simp only [isBlank, Bool.or_eq_true, Bool.and_eq_true, decide_eq_true_eq, beq_iff_eq] at hc
    omega
  have hlower : c.toLower = c := dif_neg hcapital
  simp only [sameLetter, hlower, Bool.or_eq_true, Bool.and_eq_true, beq_iff_eq] at h
  rcases h with (((rfl | rfl) | ⟨-, rfl | rfl⟩) | ⟨-, rfl⟩) | ⟨-, rfl⟩
  · exact absurd (hc.symm.trans hp) (by decide)
  · exact absurd (hc.symm.trans hp) (by decide)
  all_goals exact absurd hc (by decide)

theorem isBlank_of_isKeyword {w : String} {key : List Char} (h : isKeyword w key = true)
    (hw : ∀ p ∈ w.toList, isBlank p = false) : ∀ c ∈ key, isBlank c = false := by
  intro c hc
  obtain ⟨i, hi, rfl⟩ := List.mem_iff_getElem.1 hc
  have hletters := isKeyword_iff.1 h
  have hi' : i < w.toList.length := by rwa [hletters.length_eq]
  exact isBlank_of_sameLetter (hletters.get hi' hi) (hw _ (List.getElem_mem hi'))

/-- Blanks in front of a text are trimmed away with those of its first piece. -/
theorem map_trim_pieces_append {gap : List Char} (hgap : ∀ c ∈ gap, isBlank c = true) {sep : Char}
    (hsep : isBlank sep = false) (cs : List Char) :
    (pieces sep (gap ++ cs)).map trim = (pieces sep cs).map trim := by
  induction gap with
  | nil => rfl
  | cons c gap ih =>
    obtain ⟨hc, hgap⟩ := List.forall_mem_cons.1 hgap
    have hne : ¬ (c == sep) = true := by
      intro heq
      rw [eq_of_beq heq, hsep] at hc
      cases hc
    rw [List.cons_append, pieces, if_neg hne, ← ih hgap]
    cases hpieces : pieces sep (gap ++ cs) with
    | nil => exact absurd hpieces (pieces_ne_nil sep _)
    | cons p ps =>
      have htrim : trim (c :: p) = trim p := by rw [trim, skipBlanks_cons_of_blank hc, trim]
      rw [List.map_cons, List.map_cons, htrim]

/-- What follows a keyword and blanks. -/
theorem afterKeyword?_eq_some_iff {w : String} {cs rest : List Char} :
    afterKeyword? w cs = some rest ↔
      ∃ key blanks, cs = key ++ (blanks ++ rest) ∧ isKeyword w key = true ∧ IsBlanks blanks ∧
        ∀ c ∈ rest.head?, isBlank c = false := by
  constructor
  · intro h
    unfold afterKeyword? at h
    split at h
    · next c after hword =>
      split at h
      · next hc =>
        obtain rfl := Option.some_inj.1 h
        obtain ⟨key, hkey, rfl⟩ := dropWord?_eq_some_iff.1 hword
        refine ⟨key, c :: after.takeWhile isBlank, ?_, hkey, ⟨List.cons_ne_nil _ _, ?_⟩,
          head?_skipBlanks after⟩
        · rw [List.cons_append, skipBlanks, List.takeWhile_append_dropWhile]
        · intro d hd
          rcases List.mem_cons.1 hd with rfl | hd
          · exact hc
          · exact List.mem_takeWhile_imp hd
      · cases h
    · cases h
  · rintro ⟨key, blanks, rfl, hkey, ⟨hne, hblanks⟩, hrest⟩
    cases blanks with
    | nil => exact absurd rfl hne
    | cons c blanks =>
      obtain ⟨hc, hblanks⟩ := List.forall_mem_cons.1 hblanks
      have hword : dropWord? w (key ++ (c :: blanks ++ rest)) = some (c :: blanks ++ rest) :=
        dropWord?_eq_some_iff.2 ⟨key, hkey, rfl⟩
      rw [afterKeyword?, hword]
      dsimp only [List.cons_append]
      rw [if_pos hc, skipBlanks_append_of_blank hblanks, skipBlanks_eq_self hrest]

end Text

theorem IsRun.word_append {cs rest : List Char} (h : IsRun cs rest) : word (cs ++ rest) = cs :=
  Text.word_append h.ink rest h.maximal

theorem IsRun.afterWord_append {cs rest : List Char} (h : IsRun cs rest) :
    afterWord (cs ++ rest) = rest :=
  Text.afterWord_append h.ink rest h.maximal

theorem IsRun.isBlank_head? {cs rest : List Char} (h : IsRun cs rest) (tail : List Char) :
    ∀ c ∈ (cs ++ tail).head?, isBlank c = false := by
  intro c hc
  rw [List.head?_append_of_ne_nil _ h.ne_nil] at hc
  exact h.ink c (List.mem_of_mem_head? hc)

theorem isRun_word {cs : List Char} (h : word cs ≠ []) : IsRun (word cs) (afterWord cs) where
  ne_nil := h
  ink := fun _ hc => isBlank_of_mem_word hc
  maximal := head?_afterWord cs

theorem exists_gap (cs : List Char) : ∃ gap, IsGap gap ∧ cs = gap ++ dropOneBlank cs := by
  cases cs with
  | nil => exact ⟨[], ⟨Nat.zero_le 1, by simp⟩, rfl⟩
  | cons c cs =>
    rw [dropOneBlank]
    split
    · next hc => exact ⟨[c], ⟨Nat.le_refl 1, by simpa using hc⟩, rfl⟩
    · exact ⟨[], ⟨Nat.zero_le 1, by simp⟩, rfl⟩

/-- Of a text that starts with no blank a gap is what is dropped. -/
theorem IsGap.dropOneBlank_append {gap cs : List Char} (h : IsGap gap)
    (hcs : ∀ c ∈ cs.head?, isBlank c = false) : dropOneBlank (gap ++ cs) = cs := by
  obtain ⟨hlength, hblank⟩ := h
  match gap with
  | [] =>
    cases cs with
    | nil => rfl
    | cons c cs => exact if_neg (by simp [hcs c rfl])
  | [b] => exact if_pos (hblank b List.mem_cons_self)
  | _ :: _ :: _ => exact absurd hlength (by simp)

/-! ## Arrows and labels -/

theorem Arrow.Head.eq_of_read {head : Head} {cs rest : List Char}
    (h : Head.read cs = some (head, rest)) : cs = head.text.toList ++ rest := by
  unfold Head.read at h
  split at h
  · obtain ⟨rfl, rfl⟩ := Prod.mk.inj (Option.some_inj.1 h)
    rfl
  · obtain ⟨rfl, rfl⟩ := Prod.mk.inj (Option.some_inj.1 h)
    rfl
  · cases h

/-- The parts of an arrow line are those that it is put together from. -/
theorem Arrow.read_iff {l : List Char} {a : Arrow} :
    Arrow.read l = some a ↔
      ∃ head before between after, IsArrowLine head l before between after ∧
        a = ⟨head, String.ofList (trim before), String.ofList (trim between),
          dropOneBlank after⟩ := by
  constructor
  · intro h
    obtain ⟨rest, between, after, hhead, hcut, hbefore, hbetween, ha⟩ := read_cases h
    refine ⟨a.head, _, between, after, ⟨?_, hbefore, ?_, hbetween, not_mem_of_cut hcut⟩, ha⟩
    · rw [cut_append hcut, ← Head.eq_of_read hhead, List.takeWhile_append_dropWhile]
    · intro hmem
      have hbefore := List.mem_takeWhile_imp hmem
      simp at hbefore
  · rintro ⟨head, before, between, after, ⟨rfl, hbefore, hhyphen, hbetween, hcolon⟩, rfl⟩
    have hall : ∀ c ∈ before, (c != '-') = true := fun c hc =>
      bne_iff_ne.2 (ne_of_mem_of_not_mem hc hhyphen)
    obtain ⟨rest, hrest⟩ : ∃ rest, head.text.toList = '-' :: rest := by
      cases head <;> exact ⟨_, rfl⟩
    have htake : (before ++ (head.text.toList ++ (between ++ ':' :: after))).takeWhile
        (· != '-') = before := by
      rw [List.takeWhile_append_of_pos hall, hrest]
      simp
    have hdrop : (before ++ (head.text.toList ++ (between ++ ':' :: after))).dropWhile
        (· != '-') = head.text.toList ++ (between ++ ':' :: after) := by
      rw [List.dropWhile_append_of_pos hall, hrest]
      simp
    rw [read, htake, hdrop, Head.read_text]
    dsimp only
    rw [cut_append_of_not_mem hcolon]
    dsimp only
    rw [if_neg (by simpa using hbefore), if_neg (by simpa using hbetween)]

/-- The label of a call is put together from a word, blanks, and a path before the rest. -/
theorem CallLabel.read_iff {cs : List Char} {label : CallLabel} :
    CallLabel.read cs = some label ↔
      ∃ verb blanks path rest, cs = verb ++ (blanks ++ (path ++ rest)) ∧
        IsRun verb (blanks ++ (path ++ rest)) ∧ IsBlanks blanks ∧ IsRun path rest ∧
        label = ⟨verb, String.ofList path, remainder? rest⟩ := by
  constructor
  · intro h
    unfold read at h
    dsimp only at h
    split at h
    · cases h
    · next hwords =>
      rw [Bool.or_eq_true, not_or, List.isEmpty_iff, List.isEmpty_iff] at hwords
      obtain ⟨hverb, hpath⟩ := hwords
      obtain rfl := Option.some_inj.1 h
      have hblanks : (afterWord cs).takeWhile isBlank ++
          (word (skipBlanks (afterWord cs)) ++ afterWord (skipBlanks (afterWord cs))) =
            afterWord cs := by
        rw [word_append_afterWord, skipBlanks, List.takeWhile_append_dropWhile]
      refine ⟨word cs, (afterWord cs).takeWhile isBlank, _, _, ?_, ?_, ⟨?_, ?_⟩,
        isRun_word hpath, rfl⟩
      · rw [hblanks, word_append_afterWord]
      · rw [hblanks]
        exact isRun_word hverb
      · -- the word ends at a blank, as a path comes after it
        intro hnil
        cases hafter : afterWord cs with
        | nil => exact hpath (by rw [hafter]; rfl)
        | cons c after =>
          have hc : isBlank c = true := head?_afterWord cs c (by rw [hafter]; rfl)
          simp [hafter, hc] at hnil
      · exact fun c hc => List.mem_takeWhile_imp hc
  · rintro ⟨verb, blanks, path, rest, rfl, hverb, ⟨hne, hblanks⟩, hpath, rfl⟩
    have hskip : skipBlanks (blanks ++ (path ++ rest)) = path ++ rest := by
      rw [skipBlanks_append_of_blank hblanks, skipBlanks_eq_self (hpath.isBlank_head? rest)]
    rw [read, hverb.word_append, hverb.afterWord_append, hskip, hpath.word_append,
      hpath.afterWord_append]
    exact if_neg (by simp [hverb.ne_nil, hpath.ne_nil])

theorem ReplyLabel.read_iff {cs : List Char} {label : ReplyLabel} :
    ReplyLabel.read cs = some label ↔
      ∃ a b c rest, cs = a :: b :: c :: rest ∧
        (isDigit a = true ∧ isDigit b = true ∧ isDigit c = true) ∧
        label = ⟨[a, b, c], remainder? rest⟩ := by
  constructor
  · intro h
    unfold read at h
    split at h
    · next a b c rest =>
      split at h
      · next hdigits =>
        rw [Bool.and_eq_true, Bool.and_eq_true, and_assoc] at hdigits
        exact ⟨a, b, c, rest, rfl, hdigits, (Option.some_inj.1 h).symm⟩
      · cases h
    · cases h
  · rintro ⟨a, b, c, rest, rfl, ⟨ha, hb, hc⟩, rfl⟩
    rw [read, ha, hb, hc]
    rfl

/-! ## The four kinds of lines -/

/-- The words that name a method, and are not refused, are the spellings of its name. -/
theorem Method.isSpelling_iff {verb : List Char} {m : Method} :
    m.IsSpelling (String.ofList verb) ↔ isWord verb = true ∧ ofWord? verb = .ok m := by
  constructor
  · intro h
    have hword := h.isWord
    have hname := h.ofName?_lower
    rw [String.toList_ofList] at hword hname
    exact ⟨hword, by rw [ofWord?, hname]⟩
  · rintro ⟨hword, hof⟩
    unfold ofWord? at hof
    dsimp only at hof
    split at hof
    · next hname =>
      obtain rfl := Except.ok.inj hof
      have hletters := isLetter_of_isWord hword hname
      have hascii : ∀ c ∈ verb, c.toNat < 0x80 := fun c hc =>
        toNat_lt_of_isLetter (List.all_eq_true.1 hletters c hc)
      have heq := congrArg String.toList (toList_name_of_ofName? hname)
      rw [String.toList_ofList, lower_of_ascii hascii] at heq
      rw [IsSpelling, String.toList_ofList, heq]
    · cases hof

theorem Token.ofArrow?_request_iff {n : Nat} {a : Arrow} {r : Request} :
    ofArrow? n a = some (.ok (.request r)) ↔
      a.head = .call ∧ ∃ label m, CallLabel.read a.label = some label ∧
        Method.IsSpelling m (String.ofList label.verb) ∧
        r = ⟨n, a.source, a.target, m, label.path, label.summary⟩ := by
  rw [ofArrow?]
  constructor
  · intro h
    split at h
    · next hhead =>
      split at h
      · next label hlabel =>
        split at h
        · next hword =>
          cases hof : Method.ofWord? label.verb with
          | error e => simp [hof, Except.map] at h
          | ok m =>
            refine ⟨hhead, label, m, hlabel, Method.isSpelling_iff.2 ⟨hword, hof⟩, ?_⟩
            simpa [hof, Except.map] using h.symm
        · cases h
      · cases h
    · obtain ⟨label, -, heq⟩ := Option.map_eq_some_iff.1 h
      cases heq
  · rintro ⟨hhead, label, m, hlabel, hm, rfl⟩
    obtain ⟨hword, hof⟩ := Method.isSpelling_iff.1 hm
    simp [hhead, hlabel, hword, hof, Except.map]

theorem Token.ofArrow?_response_iff {n : Nat} {a : Arrow} {r : Response} :
    ofArrow? n a = some (.ok (.response r)) ↔
      a.head = .reply ∧ ∃ label, ReplyLabel.read a.label = some label ∧
        r = ⟨n, a.source, a.target, String.ofList label.status, label.description⟩ := by
  constructor
  · intro h
    rcases ofArrow?_cases h with ⟨label, m, -, -, heq⟩ | ⟨label, hhead, hlabel, heq⟩
    · cases heq
    · exact ⟨hhead, label, hlabel, Token.response.inj heq⟩
  · rintro ⟨hhead, label, hlabel, rfl⟩
    simp [ofArrow?, hhead, hlabel]

/-- A line is a request line just if it has a call whose label is that of a request. -/
theorem Token.isRequestLine_iff {n : Nat} {l : List Char} {r : Request} :
    IsRequestLine n l r ↔ (Arrow.read l).bind (ofArrow? n) = some (.ok (.request r)) := by
  rw [Option.bind_eq_some_iff]
  constructor
  · rintro ⟨before, between, gap, verb, blanks, path, rest, m, hline, hgap, hverb, hblanks, hpath,
      rfl⟩
    have hrun : IsRun verb (blanks ++ (path ++ rest)) := by
      refine ⟨?_, by simpa using hverb.isBlank_of_mem, ?_⟩
      · rintro rfl
        exact hverb.ne_empty rfl
      · intro c hc
        rw [List.head?_append_of_ne_nil _ hblanks.1] at hc
        exact hblanks.2 c (List.mem_of_mem_head? hc)
    refine ⟨_, Arrow.read_iff.2 ⟨_, before, between, _, hline, rfl⟩, ?_⟩
    refine ofArrow?_request_iff.2
      ⟨rfl, ⟨verb, String.ofList path, remainder? rest⟩, m, ?_, hverb, rfl⟩
    rw [hgap.dropOneBlank_append (hrun.isBlank_head? _)]
    exact CallLabel.read_iff.2 ⟨verb, blanks, path, rest, rfl, hrun, hblanks, hpath, rfl⟩
  · rintro ⟨a, ha, harrow⟩
    obtain ⟨head, before, between, after, hline, rfl⟩ := Arrow.read_iff.1 ha
    obtain ⟨hhead, label, m, hlabel, hm, rfl⟩ := ofArrow?_request_iff.1 harrow
    obtain rfl : head = .call := hhead
    obtain ⟨verb, blanks, path, rest, hcs, -, hblanks, hpath, rfl⟩ := CallLabel.read_iff.1 hlabel
    obtain ⟨gap, hgap, hafter⟩ := exists_gap after
    change dropOneBlank after = _ at hcs
    rw [hafter, hcs] at hline
    exact ⟨before, between, gap, verb, blanks, path, rest, m, hline, hgap, hm, hblanks, hpath, rfl⟩

/-- A line is a response line just if it has a reply whose label is that of a response. -/
theorem Token.isResponseLine_iff {n : Nat} {l : List Char} {r : Response} :
    IsResponseLine n l r ↔ (Arrow.read l).bind (ofArrow? n) = some (.ok (.response r)) := by
  rw [Option.bind_eq_some_iff]
  constructor
  · rintro ⟨before, between, gap, a, b, c, rest, hline, hgap, hdigits, rfl⟩
    refine ⟨_, Arrow.read_iff.2 ⟨_, before, between, _, hline, rfl⟩, ?_⟩
    refine ofArrow?_response_iff.2 ⟨rfl, ⟨[a, b, c], remainder? rest⟩, ?_, rfl⟩
    have hink : ∀ d ∈ (a :: b :: c :: rest).head?, isBlank d = false := by
      simpa using isBlank_of_isDigit hdigits.1
    rw [hgap.dropOneBlank_append hink]
    exact ReplyLabel.read_iff.2 ⟨a, b, c, rest, rfl, hdigits, rfl⟩
  · rintro ⟨a, ha, harrow⟩
    obtain ⟨head, before, between, after, hline, rfl⟩ := Arrow.read_iff.1 ha
    obtain ⟨hhead, label, hlabel, rfl⟩ := ofArrow?_response_iff.1 harrow
    obtain rfl : head = .reply := hhead
    obtain ⟨x, y, z, rest, hcs, hdigits, rfl⟩ := ReplyLabel.read_iff.1 hlabel
    obtain ⟨gap, hgap, hafter⟩ := exists_gap after
    change dropOneBlank after = _ at hcs
    rw [hafter, hcs] at hline
    exact ⟨before, between, gap, x, y, z, rest, hline, hgap, hdigits, rfl⟩

theorem participantName?_iff {l : List Char} {name : String} :
    participantName? l = some name ↔ IsDeclarationLine l name := by
  constructor
  · intro h
    unfold participantName? at h
    split at h
    · next rest hrest =>
      split at h
      · cases h
      · next hne =>
        obtain rfl := Option.some_inj.1 h
        obtain ⟨key, blanks, rfl, hkey, hblanks, hhead⟩ := afterKeyword?_eq_some_iff.1 hrest
        have hword : word rest ≠ [] := by
          cases rest with
          | nil => simp at hne
          | cons c rest => simp [word, hhead c rfl]
        refine ⟨key, blanks, word rest, afterWord rest, ?_, hkey, hblanks, isRun_word hword, rfl⟩
        rw [word_append_afterWord]
    · cases h
  · rintro ⟨key, blanks, cs, rest, rfl, hkey, hblanks, hrun, rfl⟩
    have hafter : afterKeyword? "participant" (key ++ (blanks ++ (cs ++ rest))) =
        some (cs ++ rest) :=
      afterKeyword?_eq_some_iff.2 ⟨key, blanks, rfl, hkey, hblanks, hrun.isBlank_head? rest⟩
    rw [participantName?, hafter]
    dsimp only
    rw [if_neg (by simp [hrun.ne_nil]), hrun.word_append]

theorem noteParts?_iff {l : List Char} {participants : List String} {content : String} :
    noteParts? l = some (participants, content) ↔ IsNoteLine l participants content := by
  constructor
  · intro h
    unfold noteParts? at h
    split at h
    · cases h
    · next rest hrest =>
      obtain ⟨tail, htail, hover⟩ := Option.bind_eq_some_iff.1 hrest
      obtain ⟨key, blanks, rfl, hkey, hblanks, -⟩ := afterKeyword?_eq_some_iff.1 htail
      obtain ⟨key', hkey', rfl⟩ := dropWord?_eq_some_iff.1 hover
      split at h
      · next c d names after hcut =>
        dsimp only at h
        split at h
        · next hparts =>
          rw [Bool.and_eq_true, Bool.not_eq_true', List.isEmpty_eq_false_iff] at hparts
          obtain ⟨hc, hcontent⟩ := hparts
          obtain ⟨rfl, rfl⟩ := Prod.mk.inj (Option.some_inj.1 h)
          have hcolon := not_mem_of_cut hcut
          have hblank : ∀ b ∈ [c], isBlank b = true := by simpa using hc
          have hpieces := map_trim_pieces_append hblank (by decide : isBlank ',' = false)
            (d :: names)
          refine ⟨key, blanks, key', [c], d :: names, after, ?_, hkey, hblanks, hkey',
            ⟨List.cons_ne_nil _ _, hblank⟩, List.cons_ne_nil _ _,
            fun hmem => hcolon (List.mem_cons_of_mem c hmem), hcontent, ?_, rfl⟩
          · rw [← cut_append hcut]
            rfl
          · simpa [List.map_map, Function.comp_def] using congrArg (List.map String.ofList) hpieces
        · cases h
      · cases h
  · rintro ⟨key, blanks, key', blanks', names, after, rfl, hkey, hblanks, hkey', hblanks', hnames,
      hcolon, hafter, rfl, rfl⟩
    have hink : ∀ c ∈ (key' ++ (blanks' ++ (names ++ ':' :: after))).head?, isBlank c = false := by
      intro c hc
      have hne : key' ≠ [] := by
        rintro rfl
        cases hkey'
      have hletters : ∀ p ∈ "over".toList, isBlank p = false := by
        intro p hp
        rcases (by simpa using hp : p = 'o' ∨ p = 'v' ∨ p = 'e' ∨ p = 'r') with rfl | rfl | rfl | rfl
        all_goals rfl
      rw [List.head?_append_of_ne_nil _ hne] at hc
      exact isBlank_of_isKeyword hkey' hletters c (List.mem_of_mem_head? hc)
    have hnote : afterKeyword? "note" (key ++ (blanks ++ (key' ++ (blanks' ++
        (names ++ ':' :: after))))) = some (key' ++ (blanks' ++ (names ++ ':' :: after))) :=
      afterKeyword?_eq_some_iff.2 ⟨key, blanks, rfl, hkey, hblanks, hink⟩
    have hover : dropWord? "over" (key' ++ (blanks' ++ (names ++ ':' :: after))) =
        some (blanks' ++ (names ++ ':' :: after)) :=
      dropWord?_eq_some_iff.2 ⟨key', hkey', rfl⟩
    have hcut : cut ':' (blanks' ++ (names ++ ':' :: after)) = (blanks' ++ names, some after) := by
      rw [← List.append_assoc]
      apply cut_append_of_not_mem
      rw [List.mem_append, not_or]
      exact ⟨fun hmem => absurd (hblanks'.2 _ hmem) (by decide), hcolon⟩
    have hpieces := map_trim_pieces_append hblanks'.2 (by decide : isBlank ',' = false) names
    rw [noteParts?, hnote, Option.bind_some, hover]
    dsimp only
    rw [hcut]
    -- at least two characters stand before the colon
    obtain ⟨b, blanks', rfl⟩ := List.exists_cons_of_ne_nil hblanks'.1
    obtain ⟨d, names', heq⟩ : ∃ d names', blanks' ++ names = d :: names' :=
      List.exists_cons_of_ne_nil (by simp [hnames])
    have hb : isBlank b = true := hblanks'.2 b List.mem_cons_self
    rw [List.cons_append, heq]
    dsimp only
    rw [if_pos (by simp [hb, hafter]), ← heq, ← List.cons_append]
    simpa [List.map_map, Function.comp_def] using congrArg (List.map String.ofList) hpieces

/-! ## Lines and texts -/

namespace Token

theorem isArrow_of_ofArrow? {n : Nat} {a : Arrow} {t : Token} (h : ofArrow? n a = some (.ok t)) :
    (∃ r, t = .request r) ∨ ∃ r, t = .response r := by
  rcases ofArrow?_cases h with ⟨label, m, -, -, rfl⟩ | ⟨label, -, -, rfl⟩
  · exact .inl ⟨_, rfl⟩
  · exact .inr ⟨_, rfl⟩

/-- On a line where the reader finds an arrow's token, that token stands, and no other. -/
theorem stands_iff_of_arrow {n : Nat} {l : List Char} {t u : Token}
    (h : (Arrow.read l).bind (ofArrow? n) = some (.ok t)) : Stands n l u ↔ u = t := by
  have hkind : (∃ r, t = .request r) ∨ ∃ r, t = .response r := by
    obtain ⟨a, -, ha⟩ := Option.bind_eq_some_iff.1 h
    exact isArrow_of_ofArrow? ha
  have hthis : Stands n l t := by
    rcases hkind with ⟨r, rfl⟩ | ⟨r, rfl⟩
    · exact .request (isRequestLine_iff.2 h)
    · exact .response (isResponseLine_iff.2 h)
  -- so neither a declaration nor a note stands there
  have hnot (hq : ∀ r, ¬ IsRequestLine n l r) (hs : ∀ r, ¬ IsResponseLine n l r) : False := by
    rcases hkind with ⟨r, rfl⟩ | ⟨r, rfl⟩
    · exact hq r (isRequestLine_iff.2 h)
    · exact hs r (isResponseLine_iff.2 h)
  constructor
  · intro hu
    cases hu with
    | request hr => simpa [h, eq_comm] using isRequestLine_iff.1 hr
    | response hr => simpa [h, eq_comm] using isResponseLine_iff.1 hr
    | declaration hq hs _ => exact (hnot hq hs).elim
    | note hq hs _ _ => exact (hnot hq hs).elim
  · rintro rfl
    exact hthis

/-- On any other line a declaration is looked for, and then a note. -/
theorem stands_iff_of_no_arrow {n : Nat} {l : List Char} {u : Token}
    (h : (Arrow.read l).bind (ofArrow? n) = none) :
    Stands n l u ↔
      (∃ name, participantName? l = some name ∧ u = .declaration ⟨n, name⟩) ∨
        participantName? l = none ∧ ∃ participants content,
          noteParts? l = some (participants, content) ∧ u = .note ⟨n, participants, content⟩ := by
  have hq : ∀ r, ¬ IsRequestLine n l r := fun r hr => by simp [isRequestLine_iff, h] at hr
  have hs : ∀ r, ¬ IsResponseLine n l r := fun r hr => by simp [isResponseLine_iff, h] at hr
  have hd : participantName? l = none ↔ ∀ name, ¬ IsDeclarationLine l name := by
    rw [Option.eq_none_iff_forall_ne_some]
    exact forall_congr' fun name => not_congr participantName?_iff
  constructor
  · intro hu
    cases hu with
    | request hr => exact absurd hr (hq _)
    | response hr => exact absurd hr (hs _)
    | declaration _ _ hname => exact .inl ⟨_, participantName?_iff.2 hname, rfl⟩
    | note _ _ hnone hnote => exact .inr ⟨hd.2 hnone, _, _, noteParts?_iff.2 hnote, rfl⟩
  · rintro (⟨name, hname, rfl⟩ | ⟨hnone, participants, content, hnote, rfl⟩)
    · exact .declaration hq hs (participantName?_iff.1 hname)
    · exact .note hq hs (hd.1 hnone) (noteParts?_iff.1 hnote)

/-- The token of a line that can be read is what stands on it, unless it is blank or a comment. -/
theorem ofLine_iff {n : Nat} {l : List Char} {o : Option Token} (h : ofLine n l = .ok o)
    (u : Token) : o = some u ↔ l ≠ [] ∧ isComment l = false ∧ Stands n l u := by
  rw [ofLine] at h
  split at h
  · next hidle =>
    obtain rfl := Except.ok.inj h
    refine ⟨fun hu => (by cases hu), ?_⟩
    rintro ⟨hne, hcomment, -⟩
    simp [hne, hcomment] at hidle
  · next hink =>
    rw [Bool.or_eq_true, not_or, List.isEmpty_iff, Bool.not_eq_true] at hink
    have hstands : (l ≠ [] ∧ isComment l = false ∧ Stands n l u) ↔ Stands n l u :=
      ⟨fun hall => hall.2.2, fun hu => ⟨hink.1, hink.2, hu⟩⟩
    rw [hstands]
    split at h
    · next result hresult =>
      cases result with
      | error e => simp [Except.map] at h
      | ok t =>
        obtain rfl : some t = o := by simpa [Except.map] using h
        rw [stands_iff_of_arrow hresult, Option.some_inj, eq_comm]
    · next hnone =>
      rw [stands_iff_of_no_arrow hnone]
      split at h
      · next name hname =>
        obtain rfl := Except.ok.inj h
        simp [hname, eq_comm]
      · next participants content hname hnote =>
        obtain rfl := Except.ok.inj h
        simp [hname, hnote, eq_comm]
      · next hname hnote =>
        obtain rfl := Except.ok.inj h
        simp [hname, hnote]

/-- **Grammar.** A line that can be read gives a token just if it is neither blank nor a comment
and the token stands on it; and the tokens of a text are those of its lines. -/
theorem reads_the_grammar :
    (∀ n l o, ofLine n l = .ok o →
        ∀ t, o = some t ↔ l ≠ [] ∧ isComment l = false ∧ Stands n l t) ∧
      ∀ text tokens, read text = .ok tokens → ∀ k l, (trimmedLines text)[k]? = some l →
        ∃ o : Option Token, tokens.filter (fun t => t.line = 1 + k) = o.toList ∧
          ∀ t, o = some t ↔ l ≠ [] ∧ isComment l = false ∧ Stands (1 + k) l t := by
  refine ⟨fun n l o h => ofLine_iff h, fun text tokens h k l hl => ?_⟩
  obtain ⟨hlines, rfl⟩ := of_ofLines_eq_ok h
  obtain ⟨o, ho⟩ := hlines k l hl
  refine ⟨o, ?_, ofLine_iff ho⟩
  rw [filter_onLines line_of_atLine? hl, atLine?, ho]
  rfl

/-- A line that starts like a declaration is a request if it has the arrow and the label of one, and
a declaration if it has not. -/
theorem reads_the_grammar_of_overlap :
    let call := "participant A->>B: get  /x  All".toList
    let other := "participant A->>B: all".toList
    (ofLine 1 call = .ok (some (.request ⟨1, "participant A", "B", .get, "/x", some "All"⟩)) ∧
        Stands 1 call (.request ⟨1, "participant A", "B", .get, "/x", some "All"⟩)) ∧
      ofLine 2 other = .ok (some (.declaration ⟨2, "A->>B:"⟩)) ∧
        Stands 2 other (.declaration ⟨2, "A->>B:"⟩) := by
  intro call other
  have hcall : ofLine 1 call =
      .ok (some (.request ⟨1, "participant A", "B", .get, "/x", some "All"⟩)) := by decide +kernel
  have hother : ofLine 2 other = .ok (some (.declaration ⟨2, "A->>B:"⟩)) := by decide +kernel
  obtain ⟨-, -, hfirst⟩ := (reads_the_grammar.1 1 call _ hcall _).1 rfl
  obtain ⟨-, -, hsecond⟩ := (reads_the_grammar.1 2 other _ hother _).1 rfl
  exact ⟨⟨hcall, hfirst⟩, hother, hsecond⟩

end Token

end SequenceApi
