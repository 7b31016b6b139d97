import SequenceApi.Proofs.Diagram.Enrichment
import SequenceApi.Proofs.Json.Beyond
import SequenceApi.Proofs.Note.Lines

/-!
# Notes with a body

The body of a note is searched for in the note as it is written, where a written line feed ends no
line. So the JSON text goes up to the end of the note, and is one only if no line comes behind it.
Declarations of security and the fields of the operation are searched for in the whole note too, and
so in the JSON text: a note with a body alone sets nothing else just if no key in that text says
anything.

## Main definitions

* `Metadata.Key.Says`: a key at a place says something
* `Note.IsSilent`: no key in a text says anything

## Main results

* `Note.bodyText?_of_lines`, `Note.bodyText?_body`: where the text of a body begins and ends
* `Note.body_on_line`: a body on a line among others
* `Descriptor.ofNote_eq_nil_iff`, `Metadata.ofNote_eq_empty_iff`: notes that say nothing
* `Draft.body_alone_iff`: notes with a body alone
-/

namespace SequenceApi

open Text

namespace Note

/-! ## The place of the body -/

/-- On a line without the key there is no body. -/
theorem bodyText?_of_line {l : String} (h : ¬ Names "body:" l.toList) (s : String) :
    bodyText? (l ++ "\\n" ++ s) = bodyText? s := by
  have hescape : "\\n".toList = ['\\', 'n'] := rfl
  rw [bodyText?, bodyText?, String.toList_append, String.toList_append, List.append_assoc, hescape,
    List.cons_append, List.singleton_append, firstMatch_append fun earlier here hl _ => ?_]
  · -- nor is there one at the written line feed
    show firstMatch _ (some 'n') s.toList = firstMatch _ none s.toList
    apply firstMatch_before
    exact fun _ => rfl
  · rw [valueOf?, dropWord?_append (forall_mem_eq_false rfl), dropWord?_eq_none_of_not_names h hl]
    rfl

theorem bodyText?_of_lines {earlier lines : List String}
    (h : ∀ l ∈ earlier, ¬ Names "body:" l.toList) (hne : lines ≠ []) :
    bodyText? (joined "\\n" (earlier ++ lines)) = bodyText? (joined "\\n" lines) := by
  induction earlier with
  | nil => rfl
  | cons l earlier ih =>
    obtain ⟨hl, hearlier⟩ := List.forall_mem_cons.1 h
    have hrest : earlier ++ lines ≠ [] := List.append_ne_nil_of_right_ne_nil earlier hne
    obtain ⟨l', ls, hls⟩ := List.exists_cons_of_ne_nil hrest
    rw [← ih hearlier, List.cons_append, hls, joined, String.intercalate_cons_cons,
      bodyText?_of_line hl]
    rfl

/-- Behind the key, the text of the body goes up to a line feed or to the end. -/
theorem bodyText?_body {j : String} (hink : isInked j.toList = true) (hline : '\n' ∉ j.toList)
    (t : String) :
    bodyText? ("Body: " ++ j ++ t) =
      some (skipBlanks j.toList ++ t.toList.takeWhile (· != '\n')) := by
  have hgap : ∀ c ∈ [' '], isBlank c = true := List.all_eq_true.1 rfl
  have hcontent : ("Body: " ++ j ++ t).toList =
      'B' :: ("ody:".toList ++ ([' '] ++ (j.toList ++ t.toList))) := by
    rw [String.toList_append, String.toList_append, List.append_assoc]
    rfl
  have hword : valueOf? "body:" ("Body: " ++ j ++ t).toList =
      (valueHere? ([' '] ++ (j.toList ++ t.toList))).map fun v => (v.1, 5 + v.2) := by
    rw [hcontent]
    rfl
  rw [valueHere?_of_ink hgap hink hline, Option.map_some, hcontent] at hword
  rw [bodyText?, hcontent, firstMatch, hword, Option.map_some]

theorem isInked_of_read {j : String} {v : Json} (h : Json.read j = .ok v) :
    isInked j.toList = true := by
  rw [← Bool.not_eq_false, isInked_eq_false_iff]
  exact fun hblank => Json.skipBlanks_ne_nil h (skipBlanks_of_blank hblank)

/-- A body at the end of a note. -/
theorem body?_of_body {j : String} {v : Json} (hread : Json.read j = .ok v)
    (hline : '\n' ∉ j.toList) : body? ("Body: " ++ j) = some (.ok v) := by
  have htext := bodyText?_body (isInked_of_read hread) hline ""
  rw [String.append_empty, String.toList_empty, List.takeWhile_nil, List.append_nil] at htext
  rw [body?, htext, Option.map_some, Json.readChars_skipBlanks hread]

/-- **The place of a body.** On the last of some lines the body is the value of its JSON text, be it
the only line or not. In front of another line it is lost: the text goes on there, which is the
fault that is told, at the place where the value ends. -/
theorem body_on_line {j : String} {v : Json} (hread : Json.read j = .ok v)
    (hline : '\n' ∉ j.toList) {earlier : List String}
    (hearlier : ∀ l ∈ earlier, ¬ Names "body:" l.toList) (later : List String) :
    body? (joined "\\n" (earlier ++ ("Body: " ++ j) :: later)) =
      some (if later.isEmpty then .ok v
        else
          let k := (skipBlanks j.toList).length
          .error (.syntaxError .moreText 1 (k + 1) k)) := by
  cases later with
  | nil =>
    rw [body?, bodyText?_of_lines hearlier (List.cons_ne_nil _ _), joined,
      String.intercalate_singleton]
    exact body?_of_body hread hline
  | cons l later =>
    -- what comes behind the value starts with a backslash, and has no value of its own
    generalize hrest : joined "\\n" (l :: later) = rest
    have hlines : joined "\\n" (("Body: " ++ j) :: l :: later) =
        "Body: " ++ j ++ ("\\n" ++ rest) := by
      rw [← hrest, joined, String.intercalate_cons_cons, String.append_assoc]
      rfl
    obtain ⟨ds, htail⟩ : ∃ ds, ("\\n" ++ rest).toList.takeWhile (· != '\n') = '\\' :: ds := by
      rw [String.toList_append]
      exact ⟨_, rfl⟩
    have hbreak : '\n' ∉ skipBlanks j.toList := fun hmem =>
      hline ((List.dropWhile_suffix isBlank).subset hmem)
    rw [body?, bodyText?_of_lines hearlier (List.cons_ne_nil _ _), hlines,
      bodyText?_body (isInked_of_read hread) hline, htail, Option.map_some,
      Json.readChars_append (Json.readChars_skipBlanks hread) rfl rfl,
      Json.located_of_not_mem hbreak]
    rfl

/-- A body behind a declaration, and the same with one more line. -/
theorem body_on_line_of_security :
    Json.read "\x7b\x7d" = .ok (.obj []) ∧
      (∀ l ∈ ["Security: bearerAuth"], ¬ Names "body:" l.toList) ∧
      body? "Security: bearerAuth\\nBody: \x7b\x7d" = some (.ok (.obj [])) ∧
      body? "Security: bearerAuth\\nBody: \x7b\x7d\\nTags: a" =
        some (.error (.syntaxError .moreText 1 3 2)) := by
  have hread : Json.read "\x7b\x7d" = .ok (.obj []) := rfl
  have hline : '\n' ∉ "\x7b\x7d".toList := by decide
  have hearlier : ∀ l ∈ ["Security: bearerAuth"], ¬ Names "body:" l.toList := by
    intro l hl
    obtain rfl := List.mem_singleton.1 hl
    exact not_names_of_tails (by decide +kernel)
  refine ⟨hread, hearlier, ?_, ?_⟩
  · exact body_on_line hread hline hearlier []
  · exact body_on_line hread hline hearlier ["Tags: a"]

/-- In front of a declaration the body is lost. -/
theorem body_before_security :
    Json.read "\x7b\x7d" = .ok (.obj []) ∧
      body? (joined "\\n" ["Body: \x7b\x7d", "Security: bearerAuth"]) =
        some (.error (.syntaxError .moreText 1 3 2)) := by
  exact ⟨rfl, rfl⟩

end Note

/-! ## What notes do not say -/

namespace Metadata.Key

/-- What comes behind a key is a value for it: a truth value for one key, and for the others
anything but line feeds. -/
def Takes (k : Key) (after : List Char) : Prop :=
  match k with
  | .deprecated => truth? (skipBlanks after) ≠ none
  | _ => ∃ c ∈ after, c ≠ '\n'

/-- The key says something at a place: it counts there, and a value comes behind it. -/
def Says (k : Key) (before after : List Char) : Prop :=
  (k.isWhole = true → before.getLast?.any Note.joinsKey = false) ∧ k.Takes after

end Metadata.Key

/-- Neither security nor a field of the operation is declared in a text. -/
structure Note.IsSilent (cs : List Char) : Prop where
  security : ∀ before after, StandsIn "security:" cs before after → ∀ c ∈ after, c = '\n'
  metadata : ∀ (k : Metadata.Key) before after, StandsIn k.word cs before after →
    ¬ k.Says before after

namespace Metadata

open Note

theorem Key.behind?_eq_some_iff {k : Key} {before : Option Char} {here rest : List Char} :
    k.behind? before here = some rest ↔
      dropWord? k.word here = some rest ∧ (k.isWhole = true → before.any joinsKey = false) := by
  rw [behind?]
  cases dropWord? k.word here with
  | none => simp
  | some after =>
    rw [Option.bind_some]
    by_cases hcounts : (k.isWhole && before.any joinsKey) = true
    · rw [if_pos hcounts]
      simp_all
    · rw [if_neg hcounts]
      simp_all

/-- A search for a key finds nothing just if the key has nothing to read wherever it counts. -/
theorem Key.firstMatch_behind_eq_none_iff {α : Type} (k : Key) {read : List Char → Option α}
    {cs : List Char} :
    firstMatch (fun before here => (k.behind? before here).bind read) none cs = none ↔
      ∀ before after, StandsIn k.word cs before after →
        (k.isWhole = true → before.getLast?.any joinsKey = false) → read after = none := by
  rw [firstMatch_eq_none_iff]
  constructor
  · intro h before after hstands hcounts
    obtain ⟨here, rfl, hhere⟩ := standsIn_iff.1 hstands
    have hplace := h before here rfl
    rw [Option.or_none, behind?_eq_some_iff.2 ⟨hhere, hcounts⟩, Option.bind_some] at hplace
    exact hplace
  · intro h before here hcs
    rw [Option.or_none]
    cases hrest : k.behind? before.getLast? here with
    | none => rfl
    | some rest =>
      obtain ⟨hhere, hcounts⟩ := behind?_eq_some_iff.1 hrest
      exact h before rest (standsIn_iff.2 ⟨here, hcs, hhere⟩) hcounts

theorem value?_eq_none_iff {k : Key} {cs : List Char} :
    value? k cs = none ↔ ∀ before after, StandsIn k.word cs before after →
      (k.isWhole = true → before.getLast?.any joinsKey = false) → ∀ c ∈ after, c = '\n' := by
  rw [value?, k.firstMatch_behind_eq_none_iff]
  simp only [Option.map_eq_none_iff, valueHere?_eq_none_iff]

/-- A note sets no field just if no key in it says anything. -/
theorem ofNote_eq_empty_iff {content : String} :
    ofNote content = {} ↔ ∀ (k : Key) before after,
      StandsIn k.word (expandLines content.toList) before after → ¬ k.Says before after := by
  rw [ofNote_eq_ofKeys, ofKeys_eq_empty_iff, Option.map_eq_none_iff,
    Key.deprecated.firstMatch_behind_eq_none_iff]
  simp only [value?_eq_none_iff]
  constructor
  · rintro ⟨htext, htags, hdeprecated⟩ k before after hstands ⟨hcounts, htakes⟩
    cases k with
    | deprecated => exact htakes (hdeprecated before after hstands hcounts)
    | text f =>
      obtain ⟨c, hc, hbreak⟩ := htakes
      exact hbreak (htext f before after hstands hcounts c hc)
    | tags =>
      obtain ⟨c, hc, hbreak⟩ := htakes
      exact hbreak (htags before after hstands hcounts c hc)
  · intro h
    refine ⟨fun f before after hstands hcounts c hc => ?_,
      fun before after hstands hcounts c hc => ?_, fun before after hstands hcounts => ?_⟩
    · by_contra hbreak
      exact h (.text f) before after hstands ⟨hcounts, c, hc, hbreak⟩
    · by_contra hbreak
      exact h .tags before after hstands ⟨hcounts, c, hc, hbreak⟩
    · by_contra htruth
      exact h .deprecated before after hstands ⟨hcounts, htruth⟩

end Metadata

/-- A note declares no security just if nothing but line feeds comes behind each of its keys. -/
theorem Descriptor.ofNote_eq_nil_iff {content : String} :
    ofNote content = [] ↔ ∀ before after,
      Note.StandsIn "security:" (Note.expandLines content.toList) before after →
        ∀ c ∈ after, c = '\n' := by
  rw [ofNote, List.map_eq_nil_iff, allMatches_eq_nil_iff]
  constructor
  · intro h before after hstands
    obtain ⟨here, hcs, hhere⟩ := Note.standsIn_iff.1 hstands
    have hne : here ≠ [] := by
      rintro rfl
      cases hhere
    have hplace := h before here hcs hne
    rw [Note.valueOf?, hhere, Option.bind_some, Option.map_eq_none_iff] at hplace
    exact Note.valueHere?_eq_none_iff.1 hplace
  · intro h earlier here hcs _
    rw [Note.valueOf?]
    cases hhere : dropWord? "security:" here with
    | none => rfl
    | some after =>
      have hnone := Note.valueHere?_eq_none_iff.2
        (h earlier after (Note.standsIn_iff.2 ⟨here, hcs, hhere⟩))
      rw [Option.bind_some, hnone, Option.map_none]

/-! ## A body alone -/

namespace Note

/-- A key that neither stands in what leads a text nor reaches out of it stands in the text. -/
theorem standsIn_append_iff {key : String} {lead cs before after : List Char}
    (h : ∀ here, here <:+ lead → here ≠ [] → dropWord? key (here ++ cs) = none) :
    StandsIn key (lead ++ cs) before after ↔
      ∃ before', before = lead ++ before' ∧ StandsIn key cs before' after := by
  constructor
  · intro hstands
    obtain ⟨here, heq, hhere⟩ := standsIn_iff.1 hstands
    rcases List.append_eq_append_iff.1 heq with ⟨before', rfl, rfl⟩ | ⟨rest, rfl, rfl⟩
    · exact ⟨before', rfl, standsIn_iff.2 ⟨here, rfl, hhere⟩⟩
    · by_cases hrest : rest = []
      · subst hrest
        exact ⟨[], by simp, standsIn_iff.2 ⟨cs, rfl, hhere⟩⟩
      · rw [h rest (List.suffix_append before rest) hrest] at hhere
        cases hhere
  · rintro ⟨before', rfl, spelling, hspelling, rfl⟩
    exact ⟨spelling, hspelling, (List.append_assoc _ _ _).symm⟩

/-- A key without blanks that does not stand in the label of a body. -/
theorem standsIn_body_iff {key : String} (hblank : ∀ p ∈ key.toList, isBlank p = false)
    (hkey : ∀ here ∈ "Body:".toList.tails, dropWord? key here = none)
    {cs before after : List Char} :
    StandsIn key ("Body: ".toList ++ cs) before after ↔
      ∃ before', before = "Body: ".toList ++ before' ∧ StandsIn key cs before' after := by
  refine standsIn_append_iff fun here hsuffix hne => ?_
  have hlabel : "Body: ".toList = "Body:".toList ++ [' '] := rfl
  rw [hlabel, List.suffix_concat_iff] at hsuffix
  rcases hsuffix with rfl | ⟨label, rfl, hlabel⟩
  · exact absurd rfl hne
  · rw [List.append_assoc, List.singleton_append, dropWord?_append_blank hblank rfl,
      hkey label ((List.mem_tails _ _).2 hlabel), Option.map_none]

end Note

namespace Metadata

/-- The label of a body, with the blank behind it, joins no key to a longer word. -/
theorem Key.says_body_iff {k : Key} {before after : List Char} :
    k.Says ("Body: ".toList ++ before) after ↔ k.Says before after := by
  have hbefore : ("Body: ".toList ++ before).getLast?.any Note.joinsKey =
      before.getLast?.any Note.joinsKey := by
    rw [List.getLast?_append]
    cases before.getLast? with
    | none => decide +kernel
    | some c => rfl
  rw [Says, Says, hbefore]

end Metadata

namespace Note

theorem expandLines_body (j : String) :
    expandLines ("Body: " ++ j).toList = "Body: ".toList ++ expandLines j.toList := by
  rw [String.toList_append, expandLines_append (by decide)]

/-- The label of a body says nothing else. -/
theorem isSilent_body_iff {cs : List Char} : IsSilent ("Body: ".toList ++ cs) ↔ IsSilent cs := by
  have hsecurity {before after : List Char} :
      StandsIn "security:" ("Body: ".toList ++ cs) before after ↔
        ∃ before', before = "Body: ".toList ++ before' ∧ StandsIn "security:" cs before' after :=
    standsIn_body_iff Descriptor.isBlank_of_mem_security (by decide +kernel)
  have hmetadata (k : Metadata.Key) {before after : List Char} :
      StandsIn k.word ("Body: ".toList ++ cs) before after ↔
        ∃ before', before = "Body: ".toList ++ before' ∧ StandsIn k.word cs before' after := by
    have hall : ∀ k ∈ Metadata.Key.all, ∀ here ∈ "Body:".toList.tails,
        dropWord? k.word here = none := by decide +kernel
    exact standsIn_body_iff k.isBlank_of_mem_word (hall k k.mem_all)
  constructor
  · rintro ⟨h, h'⟩
    refine ⟨fun before after hcs => ?_, fun k before after hcs hsays => ?_⟩
    · exact h _ after (hsecurity.2 ⟨before, rfl, hcs⟩)
    · exact h' k _ after ((hmetadata k).2 ⟨before, rfl, hcs⟩) (Metadata.Key.says_body_iff.2 hsays)
  · rintro ⟨h, h'⟩
    refine ⟨fun before after hcs => ?_, fun k before after hcs hsays => ?_⟩
    · obtain ⟨before', rfl, hrest⟩ := hsecurity.1 hcs
      exact h before' after hrest
    · obtain ⟨before', rfl, hrest⟩ := (hmetadata k).1 hcs
      exact h' k before' after hrest (Metadata.Key.says_body_iff.1 hsays)

/-- The text of a body in a note with nothing else says nothing just if no key in it does. -/
theorem silent_body_iff (j : String) :
    (Descriptor.ofNote ("Body: " ++ j) = [] ∧ Metadata.ofNote ("Body: " ++ j) = {}) ↔
      IsSilent (expandLines j.toList) := by
  rw [← isSilent_body_iff, ← expandLines_body, Descriptor.ofNote_eq_nil_iff,
    Metadata.ofNote_eq_empty_iff]
  exact ⟨fun h => ⟨h.1, h.2⟩, fun h => ⟨h.1, h.2⟩⟩

end Note

/-! ## The open interaction -/

namespace Interaction

/-- What is added to every interaction without a change is nothing. -/
theorem eq_nil_of_forall_annotate {ds : List Descriptor} {m : Metadata} {v : Json}
    (h : ∀ i : Interaction, { i with body := v, security := i.security ++ ds }.annotate m =
      { i with body := v }) : ds = [] ∧ m = {} := by
  -- an interaction of which nothing is known, but for its tags and whether it is deprecated
  have hplain (tags : List String) (deprecated : Bool) :=
    h { source := "", target := "", method := .get, path := "", line := 0, tags, deprecated }
  simp only [annotate, Interaction.mk.injEq, List.nil_append, Option.or_none, true_and] at hplain
  have htags : m.tags = none := by
    cases hm : m.tags with
    | none => rfl
    | some ts =>
      have hsame := (hplain ("" :: ts) false).2.2.2.1
      simp [hm] at hsame
  have hdeprecated : m.deprecated = none := by
    cases hm : m.deprecated with
    | none => rfl
    | some b =>
      have hsame := (hplain [] !b).2.2.2.2.2.1
      simp [hm] at hsame
  obtain ⟨hsummary, hdescription, hds, -, hid, -, hdocs, hrequest, hresponse⟩ := hplain [] false
  refine ⟨hds, ?_⟩
  cases m
  simp_all only

end Interaction

namespace Draft

/-- A note with a body alone that is attached to the open interaction: the body is set, and what
else the note says is added. -/
theorem step_note_of_body {j : String} {v : Json} (hread : Json.read j = .ok v)
    (hline : '\n' ∉ j.toList) {d : Draft} {i : Interaction} (hi : d.pending = some i) {n : Note}
    (hn : n.content = "Body: " ++ j) (hover : i.target ∈ n.participants) :
    d.step (.note n) =
      { d with
        pending := some ({ i with
          body := v
          security := i.security ++ Descriptor.ofNote ("Body: " ++ j) }.annotate
            (Metadata.ofNote ("Body: " ++ j))) } := by
  have hbody : Note.body? ("Body: " ++ j) = some (.ok v) :=
    Note.body?_of_body hread hline
  have hcontains : n.participants.contains i.target = true := by simpa using hover
  rw [step_note_of_pending hi, if_pos hcontains, enrich, bodyRemarks, hn, hbody, List.append_nil]

/-- **Notes with a body alone.** The body is set in any case. Security and fields of the operation
are read in the JSON text too, and nothing of it is read just if no key in the text, with its
written line feeds, says anything. Just then such a note sets nothing but the body, whatever
interaction it is attached to. -/
theorem body_alone_iff {j : String} {v : Json} (hread : Json.read j = .ok v)
    (hline : '\n' ∉ j.toList) :
    (∀ (d : Draft) (i : Interaction) (n : Note), d.pending = some i →
      n.content = "Body: " ++ j → i.target ∈ n.participants →
        d.step (.note n) =
          { d with
            pending := some ({ i with
              body := v
              security := i.security ++ Descriptor.ofNote ("Body: " ++ j) }.annotate
                (Metadata.ofNote ("Body: " ++ j))) }) ∧
      ((Descriptor.ofNote ("Body: " ++ j) = [] ∧ Metadata.ofNote ("Body: " ++ j) = {}) ↔
        Note.IsSilent (Note.expandLines j.toList)) ∧
      ((∀ (d : Draft) (i : Interaction) (n : Note), d.pending = some i →
        n.content = "Body: " ++ j → i.target ∈ n.participants →
          d.step (.note n) = { d with pending := some { i with body := v } }) ↔
        Note.IsSilent (Note.expandLines j.toList)) := by
  refine ⟨fun d i n hi hn hover => step_note_of_body hread hline hi hn hover,
    Note.silent_body_iff j, ?_⟩
  rw [← Note.silent_body_iff]
  constructor
  · intro h
    refine Interaction.eq_nil_of_forall_annotate (v := v) fun i => ?_
    have hstep := h { pending := some i } i ⟨0, [i.target], "Body: " ++ j⟩ rfl rfl
      List.mem_cons_self
    rw [step_note_of_body hread hline rfl rfl List.mem_cons_self] at hstep
    exact Option.some.inj (congrArg Draft.pending hstep)
  · rintro ⟨hsecurity, hmetadata⟩ d i n hi hn hover
    rw [step_note_of_body hread hline hi hn hover, hsecurity, hmetadata, List.append_nil]
    rfl

/-- The key in this text ends a longer word, and says nothing. -/
theorem body_alone_of_longer_word :
    Json.read "\"x-tags: a\"" = .ok (.str "x-tags: a") ∧
      ∀ (d : Draft) (i : Interaction) (n : Note), d.pending = some i →
        n.content = "Body: " ++ "\"x-tags: a\"" → i.target ∈ n.participants →
          d.step (.note n) =
            { d with pending := some { i with body := .str "x-tags: a" } } := by
  have hread : Json.read "\"x-tags: a\"" = .ok (.str "x-tags: a") := rfl
  obtain ⟨-, hsilent, halone⟩ := body_alone_iff hread (by decide)
  have hnothing := hsilent.1 ⟨by decide +kernel, by decide +kernel⟩
  exact ⟨hread, halone.2 hnothing⟩

/-- With a key in a string, the body sets the tags too. -/
theorem body_sets_tags :
    Json.read "\"Tags: a\"" = .ok (.str "Tags: a") ∧
      Metadata.ofNote ("Body: " ++ "\"Tags: a\"") = { tags := some ["a\""] } := by
  refine ⟨rfl, ?_⟩
  decide +kernel

end Draft

end SequenceApi
