import Mathlib.Data.List.Nodup
import SequenceApi.Proofs.Note.Lines

/-!
# Written metadata

Metadata can be written as a note with one line for each entry: its key, a colon and its value. Keys
are searched for in the whole note, and some are the ends of others; but a key that ends a longer
one follows a hyphen there, and a plain value holds no key with its colon. So each key is found on
its own line and nowhere else, and what is read is what was written.

## Main definitions

* `Metadata.Entry`, `Metadata.written`: an entry, and the note of some entries
* `Metadata.Entry.IsPlain`: an entry with a value that can be written

## Main results

* `Metadata.linesOf_written`: the lines of a written note
* `Metadata.Key.onLines_written`: each key is found in its own entry
* `Metadata.reads_what_is_written`: the round trip
-/

namespace SequenceApi

open Text

namespace Metadata

/-! ## Entries -/

/-- An entry of the metadata. -/
inductive Entry where
  | text (field : Field) (value : String)
  | tags (tags : List String)
  | deprecated (flag : Bool)
  deriving DecidableEq, Repr

namespace Entry

/-- The key under which an entry is written. -/
def key : Entry → Key
  | .text f _ => .text f
  | .tags _ => .tags
  | .deprecated _ => .deprecated

/-- The value that is written. -/
def value : Entry → String
  | .text _ v => v
  | .tags ts => joined "," ts
  | .deprecated true => "true"
  | .deprecated false => "false"

/-- The line on which an entry is written. -/
def line (e : Entry) : String :=
  e.key.label ++ ": " ++ e.value

/-- The value of the entry can be written: it is trimmed and on one line, and neither a written line
feed nor a key with its colon is in it. Tags are trimmed too, and no comma is in them. -/
structure IsPlain (e : Entry) : Prop where
  ne_empty : e.value ≠ ""
  trimmed : trim e.value.toList = e.value.toList
  oneLine : '\n' ∉ e.value.toList
  noEscape : ¬ ['\\', 'n'] <:+: e.value.toList
  noKey : ∀ k : Key, ¬ Note.Names k.word e.value.toList
  tags : ∀ ts, e = .tags ts → ∀ t ∈ ts, t ≠ "" ∧ trim t.toList = t.toList ∧ ',' ∉ t.toList

end Entry

/-- The note in which some entries are written, each on its line. -/
def written (es : List Entry) : String :=
  joined "\\n" (es.map Entry.line)

end Metadata

/-! ## Written line feeds -/

namespace Note

/-- A line without a written line feed stays as it is, and the one behind it becomes a line feed. -/
theorem expandLines_line {cs : List Char} (h : ¬ ['\\', 'n'] <:+: cs) :
    expandLines cs = cs ∧
      ∀ ds, expandLines (cs ++ '\\' :: 'n' :: ds) = cs ++ '\n' :: expandLines ds := by
  induction cs with
  | nil => exact ⟨rfl, fun _ => rfl⟩
  | cons c cs ih =>
    obtain ⟨hline, hbehind⟩ := ih fun hinside => h (hinside.trans (List.suffix_cons c cs).isInfix)
    constructor
    · rw [expandLines.eq_2, hline]
      rintro rest rfl rfl
      exact h (List.prefix_append ['\\', 'n'] rest).isInfix
    · intro ds
      rw [List.cons_append, expandLines.eq_2, hbehind, List.cons_append]
      -- a backslash at the end of the line is followed by another one
      rintro rest rfl hrest
      cases cs with
      | nil => cases hrest
      | cons d cs =>
        obtain ⟨rfl, -⟩ := List.cons.inj hrest
        exact h (List.prefix_append ['\\', 'n'] cs).isInfix

end Note

namespace Metadata

open Note

/-- A label has neither a part of a written line feed nor a line feed. -/
theorem Key.not_mem_label (k : Key) :
    '\\' ∉ (k.label ++ ": ").toList ∧ '\n' ∉ (k.label ++ ": ").toList := by
  have hall : ∀ k ∈ Key.all, '\\' ∉ (k.label ++ ": ").toList ∧ '\n' ∉ (k.label ++ ": ").toList := by
    decide +kernel
  exact hall k k.mem_all

theorem Entry.toList_line (e : Entry) :
    e.line.toList = (e.key.label ++ ": ").toList ++ e.value.toList :=
  String.toList_append

theorem Entry.IsPlain.expandLines_line {e : Entry} (he : e.IsPlain) :
    expandLines e.line.toList = e.line.toList ∧
      ∀ ds, expandLines (e.line.toList ++ '\\' :: 'n' :: ds) =
        e.line.toList ++ '\n' :: expandLines ds := by
  obtain ⟨hline, hbehind⟩ := Note.expandLines_line he.noEscape
  have hlabel := expandLines_append e.key.not_mem_label.1
  constructor
  · rw [e.toList_line, hlabel, hline]
  · intro ds
    rw [e.toList_line, List.append_assoc, hlabel, hbehind, List.append_assoc]

theorem Entry.IsPlain.newline_not_mem_line {e : Entry} (he : e.IsPlain) :
    '\n' ∉ e.line.toList := by
  rw [e.toList_line, List.mem_append, not_or]
  exact ⟨e.key.not_mem_label.2, he.oneLine⟩

/-- The lines of a written note are those of its entries. -/
theorem linesOf_written {es : List Entry} (hne : es ≠ []) (h : ∀ e ∈ es, e.IsPlain) :
    linesOf (written es) = es.map fun e => e.line.toList := by
  rw [linesOf, written, joined]
  induction es with
  | nil => exact absurd rfl hne
  | cons e es ih =>
    obtain ⟨he, hes⟩ := List.forall_mem_cons.1 h
    obtain ⟨hline, hbehind⟩ := he.expandLines_line
    cases es with
    | nil =>
      rw [List.map_singleton, String.intercalate_singleton, hline,
        pieces_of_not_mem he.newline_not_mem_line, List.map_singleton]
    | cons e' es =>
      rw [List.map_cons, List.map_cons, String.intercalate_cons_cons, String.toList_append,
        String.toList_append, List.append_assoc]
      have hescape : "\\n".toList = ['\\', 'n'] := rfl
      rw [hescape, List.cons_append, List.singleton_append, hbehind, pieces_append,
        pieces_of_not_mem he.newline_not_mem_line, ← List.map_cons,
        ih (List.cons_ne_nil e' es) hes]
      rfl

/-! ## Keys on the lines of entries -/

namespace Key

/-- A key is found at its own label, and what comes behind it is what comes behind the colon. -/
theorem dropWord?_label (k : Key) : dropWord? k.word (k.label ++ ":").toList = some [] := by
  have hall : ∀ k ∈ all, dropWord? k.word (k.label ++ ":").toList = some [] := by decide +kernel
  exact hall k k.mem_all

/-- No key counts in the label of another: one that ends another follows a hyphen there. -/
theorem firstMatch_label {k k' : Key} (h : k ≠ k') :
    firstMatch k.behind? none (k'.label ++ ":").toList = none := by
  have hall : ∀ k ∈ all, ∀ k' ∈ all, k ≠ k' →
      firstMatch k.behind? none (k'.label ++ ":").toList = none := by decide +kernel
  exact hall k k.mem_all k' k'.mem_all h

theorem behind?_append_blank (k : Key) (before : Option Char) (here ds : List Char) :
    k.behind? before (here ++ ' ' :: ds) = (k.behind? before here).map (· ++ ' ' :: ds) :=
  k.behind?_append before (dropWord?_append_blank k.isBlank_of_mem_word rfl here ds)

/-- A key that does not stand in a value does not stand in it with a blank before it. -/
theorem dropWord?_eq_none_of_blank {k : Key} {cs : List Char} (h : ¬ Names k.word cs)
    {earlier here : List Char} (hcs : ' ' :: cs = earlier ++ here) :
    dropWord? k.word here = none := by
  rcases List.cons_eq_append_iff.1 hcs with ⟨rfl, rfl⟩ | ⟨earlier, rfl, hrest⟩
  · have hblank := dropWord?_append_blank k.isBlank_of_mem_word (c := ' ') rfl [] cs
    rwa [k.dropWord?_nil] at hblank
  · exact dropWord?_eq_none_of_not_names h hrest

variable {α : Type} {make : List Char → Option α}

/-- What a key says on the line of an entry. -/
theorem firstMatch_line (k : Key) {e : Entry} (he : e.IsPlain) (later : List (List Char))
    (hmake : e.key = k → (make (' ' :: e.value.toList)).isSome = true) :
    firstMatch (fun before here =>
        (k.behind? before here).bind fun rest => (reached? rest later).bind make)
      none e.line.toList = if e.key = k then make (' ' :: e.value.toList) else none := by
  have hline : e.line.toList = (e.key.label ++ ":").toList ++ ' ' :: e.value.toList := by
    rw [e.toList_line]
    simp only [String.toList_append, List.append_assoc]
    rfl
  rw [hline]
  by_cases hkey : e.key = k
  · -- the key stands at the start of the line, and the value has ink
    have hink : isInked (' ' :: e.value.toList) = true := by
      rw [← Bool.not_eq_false, isInked_eq_false_iff]
      intro hblank
      have hnil := trim_eq_nil_iff.2 fun c hc => hblank c (List.mem_cons_of_mem ' ' hc)
      rw [he.trimmed] at hnil
      exact he.ne_empty (String.toList_eq_nil_iff.1 hnil)
    have hbehind : k.behind? none ((e.key.label ++ ":").toList ++ ' ' :: e.value.toList) =
        some (' ' :: e.value.toList) := by
      rw [behind?_append_blank, behind?_of_free rfl, hkey, dropWord?_label]
      rfl
    obtain ⟨a, ha⟩ := Option.isSome_iff_exists.1 (hmake hkey)
    obtain ⟨c, cs, hcs⟩ := List.exists_cons_of_ne_nil
      (show (e.key.label ++ ":").toList ++ ' ' :: e.value.toList ≠ [] by simp)
    rw [if_pos hkey, ha]
    rw [hcs] at hbehind ⊢
    rw [firstMatch, hbehind, Option.bind_some, reached?_of_ink hink, Option.bind_some, ha]
  · rw [if_neg hkey, firstMatch_append fun earlier here hlabel _ => ?_]
    · refine firstMatch_eq_none_iff.2 fun earlier here hvalue => ?_
      rw [behind?_eq_none (dropWord?_eq_none_of_blank (he.noKey k) hvalue), Option.bind_none]
    · have hnone := firstMatch_eq_none_iff.1 (firstMatch_label (Ne.symm hkey)) earlier here hlabel
      rw [behind?_append_blank, hnone, Option.map_none, Option.bind_none]

/-- Each key is found on the line of its own entry. -/
theorem onLines_lines (k : Key) {es : List Entry} (h : ∀ e ∈ es, e.IsPlain)
    (hmake : ∀ e ∈ es, e.key = k → (make (' ' :: e.value.toList)).isSome = true) :
    k.onLines reached? make (es.map fun e => e.line.toList) =
      (es.find? fun e => e.key = k).bind fun e => make (' ' :: e.value.toList) := by
  rw [onLines]
  induction es with
  | nil => rfl
  | cons e es ih =>
    obtain ⟨he, hes⟩ := List.forall_mem_cons.1 h
    obtain ⟨hmakee, hmakees⟩ := List.forall_mem_cons.1 hmake
    rw [List.map_cons, firstOnLines, firstMatch_line k he _ hmakee, ih hes hmakees]
    by_cases hkey : e.key = k
    · obtain ⟨a, ha⟩ := Option.isSome_iff_exists.1 (hmakee hkey)
      rw [if_pos hkey, List.find?_cons_of_pos (by simpa using hkey), Option.bind_some, ha]
      rfl
    · rw [if_neg hkey, List.find?_cons_of_neg (by simpa using hkey), Option.none_or]

/-- In a written note each key is found in its own entry. -/
theorem onLines_written (k : Key) {es : List Entry} (h : ∀ e ∈ es, e.IsPlain)
    (hmake : ∀ e ∈ es, e.key = k → (make (' ' :: e.value.toList)).isSome = true) :
    k.onLines reached? make (linesOf (written es)) =
      (es.find? fun e => e.key = k).bind fun e => make (' ' :: e.value.toList) := by
  by_cases hne : es = []
  · -- no entry makes one empty line
    have hlines : linesOf (written es) = [[]] := by
      rw [hne]
      rfl
    rw [hlines, hne, onLines, firstOnLines, firstOnLines, firstMatch,
      behind?_eq_none k.dropWord?_nil]
    rfl
  · rw [linesOf_written hne h, k.onLines_lines h hmake]

end Key

/-! ## The round trip -/

namespace Entry

/-- Where no key is written twice, an entry is found by its key. -/
theorem find?_key_eq_some_iff {es : List Entry} (hkeys : (es.map key).Nodup) {k : Key}
    {e : Entry} : (es.find? fun e => e.key = k) = some e ↔ e ∈ es ∧ e.key = k := by
  constructor
  · intro h
    exact ⟨List.mem_of_find?_eq_some h, by simpa using List.find?_some h⟩
  · rintro ⟨he, hk⟩
    obtain ⟨e', hfound⟩ : ∃ e', (es.find? fun e => e.key = k) = some e' := by
      rw [← Option.isSome_iff_exists, List.find?_isSome]
      exact ⟨e, he, by simpa using hk⟩
    have hk' : e'.key = k := by simpa using List.find?_some hfound
    have hsame : e' = e := List.inj_on_of_nodup_map hkeys (List.mem_of_find?_eq_some hfound) he
      (hk'.trans hk.symm)
    rw [hfound, hsame]

/-- Behind the blank stands the value. -/
theorem IsPlain.trim_blank {e : Entry} (he : e.IsPlain) :
    trim (' ' :: e.value.toList) = e.value.toList := by
  rw [trim, skipBlanks_cons_of_blank rfl]
  exact he.trimmed

/-- The tags are the parts between the commas. -/
theorem listed_joined {ts : List String} (hne : ts ≠ [])
    (h : ∀ t ∈ ts, t ≠ "" ∧ trim t.toList = t.toList ∧ ',' ∉ t.toList) :
    listed (joined "," ts).toList = ts := by
  have hpieces : pieces ',' (joined "," ts).toList = ts.map String.toList :=
    pieces_joined hne fun t ht => (h t ht).2.2
  have htrim : (ts.map String.toList).map trim = ts.map String.toList := by
    rw [List.map_map]
    exact List.map_congr_left fun t ht => (h t ht).2.1
  have hkeep : (ts.map String.toList).filter (fun p => !p.isEmpty) = ts.map String.toList := by
    refine List.filter_eq_self.2 fun p hp => ?_
    obtain ⟨t, ht, rfl⟩ := List.mem_map.1 hp
    simpa using (h t ht).1
  have hback : (ts.map String.toList).map String.ofList = ts := by
    rw [List.map_map]
    conv_rhs => rw [← List.map_id ts]
    exact List.map_congr_left fun t _ => String.ofList_toList
  rw [listed, hpieces, htrim, hkeep, hback]

end Entry

section Written

variable {es : List Entry} (h : ∀ e ∈ es, e.IsPlain)
include h

/-- What is read behind a key is the value of its entry. -/
theorem onLines_text_written (k : Key) :
    k.onLines reached? (fun l => some (String.ofList (trim l))) (linesOf (written es)) =
      (es.find? fun e => e.key = k).map Entry.value := by
  rw [k.onLines_written h fun _ _ _ => rfl]
  cases hfound : es.find? fun e => e.key = k with
  | none => rfl
  | some e =>
    rw [Option.bind_some, (h e (List.mem_of_find?_eq_some hfound)).trim_blank,
      String.ofList_toList, Option.map_some]

theorem get_ofNote_written (f : Field) :
    (ofNote (written es)).get f = (es.find? fun e => e.key = .text f).map Entry.value := by
  rw [ofNote_eq_ofLines, ofLines, get_ofKeys]
  exact onLines_text_written h (.text f)

theorem tags_ofNote_written :
    (ofNote (written es)).tags =
      (es.find? fun e => e.key = .tags).map fun e => listed e.value.toList := by
  have htags : (ofNote (written es)).tags = (Key.tags.onLines reached?
      (fun l => some (String.ofList (trim l))) (linesOf (written es))).map
        fun t => listed t.toList := by
    rw [ofNote_eq_ofLines]
    rfl
  rw [htags, onLines_text_written h, Option.map_map]
  rfl

theorem deprecated_ofNote_written :
    (ofNote (written es)).deprecated = (es.find? fun e => e.key = .deprecated).bind
      fun e => truth? (skipBlanks (' ' :: e.value.toList)) := by
  have hdeprecated : (ofNote (written es)).deprecated = Key.deprecated.onLines reached?
      (fun l => truth? (skipBlanks l)) (linesOf (written es)) := by
    rw [ofNote_eq_ofLines]
    rfl
  rw [hdeprecated]
  refine Key.deprecated.onLines_written h fun e _ hkey => ?_
  cases e with
  | deprecated flag => cases flag <;> decide
  | text _ _ | tags _ => cases hkey

end Written

/-- **The round trip of metadata.** From a note of plain entries, each under another key and in any
order, the texts, tags and truth value that are written are read, and nothing else. -/
theorem reads_what_is_written {es : List Entry} (h : ∀ e ∈ es, e.IsPlain)
    (hkeys : (es.map Entry.key).Nodup) :
    (∀ f v, (ofNote (written es)).get f = some v ↔ .text f v ∈ es) ∧
      (∀ ts, (ofNote (written es)).tags = some ts ↔ .tags ts ∈ es) ∧
      (∀ b, (ofNote (written es)).deprecated = some b ↔ .deprecated b ∈ es) ∧
      ((ofNote (written es)).externalDocs = none ↔
        ∀ v, .text .docsUrl v ∉ es ∧ .text .docsDescription v ∉ es) := by
  have htext (f : Field) (v : String) : (ofNote (written es)).get f = some v ↔ .text f v ∈ es := by
    rw [get_ofNote_written h, Option.map_eq_some_iff]
    constructor
    · rintro ⟨e, hfound, rfl⟩
      obtain ⟨he, hkey⟩ := (Entry.find?_key_eq_some_iff hkeys).1 hfound
      cases e with
      | text f' v =>
        obtain rfl := Key.text.inj hkey
        exact he
      | tags _ | deprecated _ => cases hkey
    · intro he
      exact ⟨_, (Entry.find?_key_eq_some_iff hkeys).2 ⟨he, rfl⟩, rfl⟩
  refine ⟨htext, fun ts => ?_, fun b => ?_, ?_⟩
  · have hlisted {ts : List String} (he : .tags ts ∈ es) : listed (joined "," ts).toList = ts := by
      refine Entry.listed_joined ?_ ((h _ he).tags ts rfl)
      rintro rfl
      exact (h _ he).ne_empty rfl
    rw [tags_ofNote_written h, Option.map_eq_some_iff]
    constructor
    · rintro ⟨e, hfound, rfl⟩
      obtain ⟨he, hkey⟩ := (Entry.find?_key_eq_some_iff hkeys).1 hfound
      cases e with
      | tags ts => exact (hlisted he).symm ▸ he
      | text _ _ | deprecated _ => cases hkey
    · intro he
      exact ⟨_, (Entry.find?_key_eq_some_iff hkeys).2 ⟨he, rfl⟩, hlisted he⟩
  · have htruth (b : Bool) : truth? (skipBlanks (' ' :: (Entry.deprecated b).value.toList)) =
        some b := by cases b <;> decide
    rw [deprecated_ofNote_written h, Option.bind_eq_some_iff]
    constructor
    · rintro ⟨e, hfound, hb⟩
      obtain ⟨he, hkey⟩ := (Entry.find?_key_eq_some_iff hkeys).1 hfound
      cases e with
      | deprecated b' =>
        obtain rfl : b' = b := Option.some_inj.1 ((htruth b').symm.trans hb)
        exact he
      | text _ _ | tags _ => cases hkey
    · intro he
      exact ⟨_, (Entry.find?_key_eq_some_iff hkeys).2 ⟨he, rfl⟩, htruth b⟩
  · have hnone (f : Field) : (ofNote (written es)).get f = none ↔ ∀ v, .text f v ∉ es := by
      simp only [← htext, Option.eq_none_iff_forall_ne_some]
    have hdocs : (ofNote (written es)).externalDocs = none ↔
        (ofNote (written es)).get .docsUrl = none ∧
          (ofNote (written es)).get .docsDescription = none := by
      rw [ofNote_eq_ofLines, ofLines, externalDocs_ofKeys_eq_none_iff, get_ofKeys, get_ofKeys]
    rw [hdocs, hnone, hnone, forall_and]

/-- Entries under keys that end in other keys, with values that hold colons, commas and a backslash
at the end of the line. -/
def linked : List Entry :=
  [.text .docsDescription "A: 1, 2", .deprecated false, .text .docsUrl "http://x/\\",
    .tags ["a", "b c"]]

/-- The description of other documentation is no description of the operation. -/
theorem reads_what_is_written_of_linked :
    (∀ e ∈ linked, e.IsPlain) ∧ (linked.map Entry.key).Nodup ∧
      (ofNote (written linked)).description = none ∧
      (ofNote (written linked)).get .docsDescription = some "A: 1, 2" ∧
      (ofNote (written linked)).get .docsUrl = some "http://x/\\" ∧
      (ofNote (written linked)).tags = some ["a", "b c"] ∧
      (ofNote (written linked)).deprecated = some false := by
  have hplain : ∀ e ∈ linked, e.IsPlain := by
    have hvalues : ∀ e ∈ linked, e.value ≠ "" ∧ trim e.value.toList = e.value.toList ∧
        '\n' ∉ e.value.toList ∧ ¬ ['\\', 'n'] <:+: e.value.toList ∧
        ∀ k ∈ Key.all, ∀ here ∈ e.value.toList.tails, dropWord? k.word here = none := by
      decide +kernel
    intro e he
    obtain ⟨hne, htrim, hline, hescape, hkey⟩ := hvalues e he
    refine ⟨hne, htrim, hline, hescape, fun k => not_names_of_tails (hkey k k.mem_all), ?_⟩
    rintro ts rfl
    obtain rfl : ts = ["a", "b c"] := by simpa [linked] using he
    decide +kernel
  have hkeys : (linked.map Entry.key).Nodup := by decide
  obtain ⟨htext, htags, hdeprecated, -⟩ := reads_what_is_written hplain hkeys
  refine ⟨hplain, hkeys, ?_, (htext _ _).2 (by decide), (htext _ _).2 (by decide),
    (htags _).2 (by decide), (hdeprecated _).2 (by decide)⟩
  rw [Option.eq_none_iff_forall_ne_some]
  intro v hv
  have hmem : .text .description v ∈ linked := (htext .description v).1 hv
  simp [linked] at hmem

end Metadata

end SequenceApi
