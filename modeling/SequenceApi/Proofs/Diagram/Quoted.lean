import SequenceApi.Diagram.Check
import SequenceApi.Proofs.Console.Courtesy
import SequenceApi.Proofs.Diagram.Grammar
import SequenceApi.Proofs.Diagram.Payload
import SequenceApi.Proofs.Note.SchemeKey
import SequenceApi.Proofs.Text.Search

/-!
# What findings quote

The wording of a finding is fixed but for the texts that it quotes, and these are parts of one line
of the diagram: a name, a path, a word, the content of a note or the line itself. The error of the
JSON reader quotes nothing. So a control character in the wording of a finding comes from a line.

## Main definitions

* `DiagramFault.quotes`: the texts that a fault quotes
* `Record.texts`: the texts of a line that later findings may quote
* `Words`: a text whose characters are printed or quoted

## Main results

* `DiagramFault.words_message`, `DiagramFault.words_suggestion`, `DiagramFault.words_context`: the
  wording of a fault
* `Check.quotes_subset`: what a finding quotes is part of a line
* `Finding.not_newline_of_control`: where control characters come from
-/

namespace SequenceApi

open Text

namespace Text

/-- A character of texts with a separator between them is one of the separator or of a text. -/
theorem mem_of_mem_joined {sep : String} {parts : List String} {c : Char}
    (h : c ∈ (joined sep parts).toList) : c ∈ sep.toList ∨ ∃ s ∈ parts, c ∈ s.toList := by
  induction parts with
  | nil => cases h
  | cons s parts ih =>
    cases parts with
    | nil => exact .inr ⟨s, List.mem_cons_self, h⟩
    | cons t parts =>
      rw [joined, String.intercalate_cons_cons, String.toList_append, String.toList_append,
        List.mem_append, List.mem_append] at h
      rcases h with (hs | hsep) | hrest
      · exact .inr ⟨s, List.mem_cons_self, hs⟩
      · exact .inl hsep
      · rcases ih hrest with hsep | ⟨u, hu, hc⟩
        · exact .inl hsep
        · exact .inr ⟨u, List.mem_cons_of_mem s hu, hc⟩

end Text

/-! ## Wording -/

/-- A character that is no control character of ASCII. -/
def isPrinted (c : Char) : Bool :=
  0x20 ≤ c.toNat

/-- Every character of the text is printed, or it occurs in one of the texts that are quoted. -/
def Words (quotes : List String) (s : String) : Prop :=
  ∀ c ∈ s.toList, isPrinted c = true ∨ ∃ q ∈ quotes, c ∈ q.toList

namespace Words

variable {quotes : List String} {s t : String}

theorem append (h : Words quotes s) (h' : Words quotes t) : Words quotes (s ++ t) := by
  intro c hc
  rw [String.toList_append] at hc
  rcases List.mem_append.1 hc with hc | hc
  · exact h c hc
  · exact h' c hc

/-- A quoted text. -/
theorem quote (h : s ∈ quotes) : Words quotes s :=
  fun _ hc => .inr ⟨s, h, hc⟩

/-- A text of printed characters alone, as the list of them. -/
theorem printed {cs : List Char} (h : cs.all isPrinted = true) : Words quotes (String.ofList cs) := by
  intro c hc
  rw [String.toList_ofList] at hc
  exact .inl (List.all_eq_true.1 h c hc)

/-- Words between two fixed texts. -/
theorem between {before after : List Char} (hbefore : before.all isPrinted = true)
    (hs : Words quotes s) (hafter : after.all isPrinted = true) :
    Words quotes (String.ofList before ++ s ++ String.ofList after) :=
  ((printed hbefore).append hs).append (printed hafter)

/-- Several words with a separator between them. -/
theorem joined {sep : String} {parts : List String} (hsep : Words quotes sep)
    (h : ∀ s ∈ parts, Words quotes s) : Words quotes (joined sep parts) := by
  intro c hc
  rcases mem_of_mem_joined hc with hc | ⟨s, hs, hc⟩
  · exact hsep c hc
  · exact h s hs c hc

theorem toString (n : Nat) : Words quotes (toString n) := by
  intro c hc
  have hdigits : (ToString.toString n).toList = Nat.toDigits 10 n := Nat.toList_repr
  rw [hdigits] at hc
  have hdigit : c.isDigit = true := Nat.isDigit_of_mem_toDigits (by decide) (by decide) hc
  rw [Char.isDigit, Bool.and_eq_true, decide_eq_true_eq, decide_eq_true_eq] at hdigit
  have hle : 48 ≤ c.toNat := hdigit.1
  exact .inl (decide_eq_true (by omega))

end Words

/-- The error of the JSON reader quotes nothing. -/
theorem words_jsonError (quotes : List String) (e : Json.ReadError) : Words quotes e.message := by
  cases e with
  | syntaxError fault line column place =>
    have hfault : Words quotes fault.message := by
      cases fault <;> exact .printed rfl
    dsimp only [Json.ReadError.message]
    -- the fixed parts are printed, and the numbers between them are digits
    exact ((((((hfault.append (.printed rfl)).append (.toString line)).append (.printed rfl)).append
      (.toString column)).append (.printed rfl)).append (.toString place)).append (.printed rfl)
  | longInt digits =>
    dsimp only [Json.ReadError.message, Json.longIntMessage]
    exact (Words.between rfl (.toString _) rfl).append (.between rfl (.toString digits) rfl)
  | tooDeep bracket => cases bracket <;> exact .printed rfl

namespace DiagramFault

/-- The texts that a fault quotes. -/
def quotes : DiagramFault → List String
  | .emptyInput | .emptyName => []
  | .unknownMethod s | .badPath _ s | .badStatus s | .badName s | .digitFirst s | .unknownLine s
  | .unknownSource s | .unknownTarget s | .unknownInNote s | .earlyNote s | .badBody _ s => [s]
  | .orphan source target => [source, target]

theorem words_message (f : DiagramFault) : Words f.quotes f.message := by
  cases f with
  | unknownMethod s | badStatus s | badName s | digitFirst s | unknownSource s | unknownTarget s
  | unknownInNote s =>
    dsimp only [message]
    exact .between rfl (.quote List.mem_cons_self) rfl
  | badBody e s =>
    dsimp only [message]
    exact (Words.printed rfl).append (words_jsonError [s] e)
  | badPath fault s => cases fault <;> exact .printed rfl
  | emptyInput | emptyName | unknownLine _ | earlyNote _ | orphan _ _ => exact .printed rfl

theorem words_suggestion (f : DiagramFault) : Words f.quotes f.suggestion := by
  cases f with
  | unknownSource s | unknownTarget s | unknownInNote s =>
    dsimp only [suggestion, declareFirst]
    exact .between rfl (.quote List.mem_cons_self) rfl
  | orphan source target =>
    have hsource : Words [source, target] source := .quote List.mem_cons_self
    have htarget : Words [source, target] target := .quote (by simp)
    dsimp only [suggestion]
    exact ((Words.between rfl htarget rfl).append hsource).append (.printed rfl)
  | badPath fault s => cases fault <;> exact .printed rfl
  | unknownMethod s =>
    dsimp only [suggestion]
    refine (Words.printed rfl).append (.joined (.printed rfl) fun name hname => ?_)
    obtain ⟨m, -, rfl⟩ := List.mem_map.1 hname
    cases m <;> exact .printed rfl
  | emptyInput | emptyName | badStatus _ | badName _ | digitFirst _ | unknownLine _ | earlyNote _
  | badBody _ _ => exact .printed rfl

theorem words_context (f : DiagramFault) : ∀ s ∈ f.context, Words f.quotes s := by
  intro s hs
  cases f with
  | emptyInput | emptyName => cases hs
  | orphan source target =>
    obtain rfl := Option.some_inj.1 hs
    have hsource : Words [source, target] source := .quote List.mem_cons_self
    have htarget : Words [source, target] target := .quote (by simp)
    exact (hsource.append (.printed rfl)).append htarget
  | _ =>
    obtain rfl := Option.some_inj.1 hs
    exact .quote List.mem_cons_self

end DiagramFault

/-! ## Quotes -/

/-- The texts have characters of the line alone. -/
def Within (l : List Char) (texts : List String) : Prop :=
  ∀ s ∈ texts, s.toList ⊆ l

/-- The texts of a line that later findings may quote. -/
def Record.texts : Record → List String
  | .declaration _ => []
  | .request l | .response l => [l.source, l.target]
  | .note n => n.content :: n.participants

section

variable {l : List Char}

theorem within_nil (l : List Char) : Within l [] :=
  List.forall_mem_nil _

theorem within_single {s : String} : Within l [s] ↔ s.toList ⊆ l :=
  List.forall_mem_singleton

theorem within_pair {s t : String} : Within l [s, t] ↔ s.toList ⊆ l ∧ t.toList ⊆ l := by
  rw [Within, List.forall_mem_cons, List.forall_mem_singleton]

theorem within_ofList {cs : List Char} (h : cs ⊆ l) : (String.ofList cs).toList ⊆ l := by
  rwa [String.toList_ofList]

theorem within_trim {cs : List Char} (h : cs ⊆ l) : (String.ofList (trim cs)).toList ⊆ l :=
  within_ofList fun _ hc => h (mem_of_mem_trim hc)

theorem Arrow.subset_of_read {a : Arrow} (h : Arrow.read l = some a) :
    Within l [a.source, a.target] ∧ a.label ⊆ l := by
  obtain ⟨head, before, between, after, hline, rfl⟩ := read_iff.1 h
  obtain rfl := hline.eq_append
  rw [within_pair]
  refine ⟨⟨within_trim (by simp), within_trim ?_⟩, ?_⟩
  · intro c hc
    simp [hc]
  · intro c hc
    have hafter : dropOneBlank after ⊆ after := by
      cases after with
      | nil => exact List.Subset.refl _
      | cons d after =>
        rw [dropOneBlank]
        split
        · exact List.subset_cons_self d after
        · exact List.Subset.refl _
    simp [hafter hc]

theorem CallLabel.subset_of_read {label : CallLabel} {cs : List Char}
    (h : CallLabel.read cs = some label) : label.verb ⊆ cs ∧ label.path.toList ⊆ cs := by
  obtain ⟨verb, blanks, path, rest, rfl, -, -, -, rfl⟩ := read_iff.1 h
  refine ⟨by simp, within_ofList fun c hc => ?_⟩
  simp [hc]

end

namespace Check

variable {n : Nat} {l : List Char}

/-- What the findings and the record of an arrow line quote is part of the line. -/
theorem within_arrow? {a : Arrow} (hends : Within l [a.source, a.target]) (hlabel : a.label ⊆ l)
    {found : List Finding × Record} (h : arrow? n a = some found) :
    (∀ f ∈ found.1, Within l f.fault.quotes) ∧ Within l found.2.texts := by
  rw [arrow?] at h
  split at h
  · split at h
    · next label hread =>
      obtain ⟨hverb, hpath⟩ := CallLabel.subset_of_read hread
      split at h
      · obtain rfl := Option.some_inj.1 h
        refine ⟨List.forall_mem_append.2 ⟨fun f hf => ?_, fun f hf => ?_⟩, hends⟩
        · -- the method is a word of the label
          split at hf
          · cases hf
          · obtain rfl := List.mem_singleton.1 hf
            exact within_single.2 (within_ofList (List.Subset.trans hverb hlabel))
        · obtain ⟨fault, -, rfl⟩ := List.mem_map.1 hf
          exact within_single.2 (List.Subset.trans hpath hlabel)
      · cases h
    · cases h
  · obtain ⟨label, hread, rfl⟩ := Option.map_eq_some_iff.1 h
    obtain ⟨x, y, z, rest, hcs, -, rfl⟩ := ReplyLabel.read_iff.1 hread
    refine ⟨fun f hf => ?_, hends⟩
    dsimp only at hf
    split at hf
    · cases hf
    · obtain rfl := List.mem_singleton.1 hf
      refine within_single.2 (within_ofList (List.Subset.trans ?_ hlabel))
      rw [hcs]
      simp

theorem within_note {participants : List String} {content : String}
    (h : noteParts? l = some (participants, content)) : Within l (content :: participants) := by
  obtain ⟨key, blanks, key', blanks', names, after, rfl, -, -, -, -, -, -, -, rfl, rfl⟩ :=
    noteParts?_iff.1 h
  refine List.forall_mem_cons.2 ⟨within_trim fun c hc => by simp [hc], fun s hs => ?_⟩
  obtain ⟨p, hp, rfl⟩ := List.mem_map.1 hs
  refine within_trim fun c hc => ?_
  have hname := mem_of_mem_pieces hp hc
  simp [hname]

/-- What the findings and the record of a line quote is part of the line. -/
theorem within_line (n : Nat) (l : List Char) :
    (∀ f ∈ (line n l).1, Within l f.fault.quotes) ∧ ∀ r ∈ (line n l).2, Within l r.texts := by
  rw [line]
  split
  · refine ⟨List.forall_mem_singleton.2 (within_nil l), fun r hr => ?_⟩
    exact absurd hr (Option.not_mem_none r)
  · split
    · next findings record harrow =>
      obtain ⟨a, ha, hfound⟩ := Option.bind_eq_some_iff.1 harrow
      obtain ⟨hends, hlabel⟩ := Arrow.subset_of_read ha
      obtain ⟨hfindings, hrecord⟩ := within_arrow? hends hlabel hfound
      refine ⟨hfindings, fun r hr => ?_⟩
      obtain rfl := Option.some_inj.1 hr
      exact hrecord
    · split
      · next s hs =>
        obtain ⟨key, blanks, cs, rest, rfl, -, -, -, rfl⟩ := participantName?_iff.1 hs
        have hname : Within (key ++ (blanks ++ (cs ++ rest))) [String.ofList cs] :=
          within_single.2 (within_ofList fun c hc => by simp [hc])
        refine ⟨List.forall_mem_append.2 ⟨fun f hf => ?_, fun f hf => ?_⟩, fun r hr => ?_⟩
        · split at hf
          · cases hf
          · obtain rfl := List.mem_singleton.1 hf
            exact hname
        · split at hf
          · obtain rfl := List.mem_singleton.1 hf
            exact hname
          · cases hf
        · obtain rfl := Option.some_inj.1 hr
          exact within_nil _
      · next participants content _ hnote =>
        refine ⟨List.forall_mem_nil _, fun r hr => ?_⟩
        obtain rfl := Option.some_inj.1 hr
        exact within_note hnote
      · have hwhole : Within l [String.ofList l] :=
          within_single.2 (within_ofList (List.Subset.refl l))
        refine ⟨List.forall_mem_singleton.2 hwhole, fun r hr => ?_⟩
        exact absurd hr (Option.not_mem_none r)

/-- What is found and recorded line by line quotes a line each time. -/
theorem within_lines (ls : List (List Char)) :
    ∀ n, (∀ f ∈ (lines n ls).1, ∃ l ∈ ls, Within l f.fault.quotes) ∧
      ∀ r ∈ (lines n ls).2, ∃ l ∈ ls, Within l r.texts := by
  induction ls with
  | nil => exact fun _ => ⟨List.forall_mem_nil _, List.forall_mem_nil _⟩
  | cons l ls ih =>
    intro n
    obtain ⟨hfindings, hrecords⟩ := ih (n + 1)
    have hlater {P : List Char → Prop} (h : ∃ l ∈ ls, P l) : ∃ l' ∈ l :: ls, P l' := by
      obtain ⟨l', hl', hP⟩ := h
      exact ⟨l', List.mem_cons_of_mem l hl', hP⟩
    rw [lines]
    dsimp only
    split
    · exact ⟨fun f hf => hlater (hfindings f hf), fun r hr => hlater (hrecords r hr)⟩
    · obtain ⟨hhere, hrecord⟩ := within_line n l
      refine ⟨fun f hf => ?_, fun r hr => ?_⟩
      · rcases List.mem_append.1 hf with hf | hf
        · exact ⟨l, List.mem_cons_self, hhere f hf⟩
        · exact hlater (hfindings f hf)
      · rcases List.mem_append.1 hr with hr | hr
        · exact ⟨l, List.mem_cons_self, hrecord r (Option.mem_toList.1 hr)⟩
        · exact hlater (hrecords r hr)

/-! ### Lines together -/

theorem subset_of_payload? {content : String} {cs : List Char} (h : payload? content = some cs) :
    cs ⊆ content.toList := by
  obtain ⟨earlier, here, hcontent, hmatch, -⟩ := exists_place_of_firstMatch h
  rw [hcontent]
  split at hmatch
  · next c rest hword =>
    obtain rfl := Option.some_inj.1 hmatch
    intro x hx
    have hhere : x ∈ here := (suffix_of_dropWord? hword).subset (mem_of_mem_trim hx)
    exact List.mem_append_right _ hhere
  · cases hmatch

/-- A finding about a record quotes its texts alone. -/
theorem within_step {c : Context} {r : Record} (h : Within l r.texts) :
    ∀ f ∈ (c.step r).1, Within l f.fault.quotes := by
  cases r with
  | declaration d => exact List.forall_mem_nil _
  | request a =>
    obtain ⟨hsource, htarget⟩ := within_pair.1 h
    refine List.forall_mem_append.2 ⟨fun f hf => ?_, fun f hf => ?_⟩
    · split at hf
      · cases hf
      · obtain rfl := List.mem_singleton.1 hf
        exact within_single.2 hsource
    · split at hf
      · cases hf
      · obtain rfl := List.mem_singleton.1 hf
        exact within_single.2 htarget
  | response a =>
    intro f hf
    rw [Context.step] at hf
    split at hf
    · cases hf
    · obtain rfl := List.mem_singleton.1 hf
      exact h
  | note note =>
    obtain ⟨hcontent, hnames⟩ := List.forall_mem_cons.1 h
    refine List.forall_mem_append.2 ⟨List.forall_mem_append.2 ⟨fun f hf => ?_, fun f hf => ?_⟩,
      fun f hf => ?_⟩
    · obtain ⟨name, hname, rfl⟩ := List.mem_map.1 hf
      exact within_single.2 (hnames name (List.mem_of_mem_filter hname))
    · split at hf
      · cases hf
      · obtain rfl := List.mem_singleton.1 hf
        exact within_single.2 hcontent
    · -- the body is part of the content
      rw [body] at hf
      split at hf
      · split at hf
        · cases hf
        · next cs hcs =>
          split at hf
          · cases hf
          · obtain rfl := List.mem_singleton.1 hf
            exact within_single.2 (within_ofList (List.Subset.trans (subset_of_payload? hcs) hcontent))
      · cases hf

theorem within_run {ls : List (List Char)} {records : List Record} :
    ∀ {c : Context}, (∀ r ∈ records, ∃ l ∈ ls, Within l r.texts) →
      ∀ f ∈ Context.run c records, ∃ l ∈ ls, Within l f.fault.quotes := by
  -- Induction on the records; what is known after one plays no part in what findings quote.
  induction records with
  | nil => exact fun _ => List.forall_mem_nil _
  | cons r records ih =>
    intro c h f hf
    obtain ⟨⟨l, hl, hr⟩, hrecords⟩ := List.forall_mem_cons.1 h
    rw [Context.run] at hf
    rcases List.mem_append.1 hf with hf | hf
    · exact ⟨l, hl, within_step hr f hf⟩
    · exact ih hrecords f hf

/-- What a finding quotes is part of one line. -/
theorem quotes_subset {text : String} {f : Finding} (hf : f ∈ findings text) :
    f.fault.quotes = [] ∨ ∃ l ∈ trimmedLines text, Within l f.fault.quotes := by
  rw [findings] at hf
  split at hf
  · obtain ⟨hfindings, hrecords⟩ := within_lines (trimmedLines text) 1
    rcases List.mem_append.1 hf with hf | hf
    · exact .inr (hfindings f hf)
    · exact .inr (within_run hrecords f hf)
  · obtain rfl := List.mem_singleton.1 hf
    exact .inl rfl

end Check

/-- A control character in the wording of a finding comes from one of the lines, which ends before
the first line feed. -/
theorem Finding.not_newline_of_control {text : String} {f : Finding} (hf : f ∈ Check.findings text)
    {s : String} (hs : Words f.fault.quotes s) {c : Char} (hc : c ∈ s.toList)
    (hcontrol : isPrinted c = false) : c ≠ '\n' ∧ c ∈ text.toList := by
  rcases hs c hc with hprinted | ⟨q, hq, hcq⟩
  · rw [hprinted] at hcontrol
    cases hcontrol
  · rcases Check.quotes_subset hf with hnone | ⟨l, hl, hwithin⟩
    · rw [hnone] at hq
      cases hq
    · obtain ⟨p, hp, rfl⟩ := List.mem_map.1 hl
      have hmem : c ∈ p := mem_of_mem_trim (hwithin q hq hcq)
      refine ⟨?_, mem_of_mem_pieces hp hmem⟩
      rintro rfl
      exact not_mem_of_mem_pieces hp hmem

end SequenceApi
