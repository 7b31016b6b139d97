import SequenceApi.Proofs.Note.Key

/-!
# Values by lines

A key takes its value from the first line with ink, from its own line on. So a value is one line,
and it is the rest of the key's own line just if there is ink on it; a key at the end of its line
takes the next line that says something, be it another key with its value. Where nothing but blanks
is left, a value is empty.

This can be read off a second reading of notes, which takes one line after the other. On a note in
which ink comes behind every key, it is the reading of each line by itself.

## Main definitions

* `Note.linesOf`: the lines of a note
* `Note.reached?`, `Note.own?`: the line from which a key takes its value, and its own
* `Metadata.ofLines`, `Descriptor.texts`: metadata and declarations by lines
* `Note.IsFilled`: ink comes behind every key on a line

## Main results

* `Note.valueHere?_of_lines`: what is read behind a key, and what is left
* `Metadata.ofNote_eq_ofLines`, `Descriptor.ofNote_eq_texts`: the two readings agree
* `Note.values_by_lines`: values by lines, and values on their keys' own lines
-/

namespace SequenceApi

open Text

/-! ## The line of a value -/

namespace Note

/-- The lines of a note, in which a written line feed ends a line. -/
def linesOf (content : String) : List (List Char) :=
  pieces '\n' (expandLines content.toList)

/-- A text without a backslash has no written line feed. -/
theorem expandLines_append {cs : List Char} (h : '\\' ∉ cs) (ds : List Char) :
    expandLines (cs ++ ds) = cs ++ expandLines ds := by
  induction cs with
  | nil => rfl
  | cons c cs ih =>
    rw [List.mem_cons, not_or] at h
    rw [List.cons_append, expandLines.eq_2, ih h.2, List.cons_append]
    intro rest heq
    exact absurd heq.symm h.1

/-- The line from which a key takes its value: the first with ink, from the rest of its own line on.
Where there is none the value is empty, unless no line has as much as a blank. -/
def reached? (rest : List Char) (later : List (List Char)) : Option (List Char) :=
  match (rest :: later).find? isInked with
  | some line => some line
  | none => if (rest :: later).all List.isEmpty then none else some []

/-- The lines behind the one from which a key takes its value. -/
def unread (rest : List Char) (later : List (List Char)) : List (List Char) :=
  ((rest :: later).dropWhile fun line => !isInked line).tail

/-- The rest of a key's own line, if there is ink on it. -/
def own? (rest : List Char) (_ : List (List Char)) : Option (List Char) :=
  if isInked rest then some rest else none

variable {rest : List Char} {later : List (List Char)}

theorem reached?_of_ink (h : isInked rest = true) : reached? rest later = some rest := by
  rw [reached?, List.find?_cons_of_pos h]

theorem unread_of_ink (h : isInked rest = true) : unread rest later = later := by
  rw [unread, List.dropWhile_cons_of_neg (by simp [h]), List.tail_cons]

theorem reached?_of_dropWhile {line : List Char} {more : List (List Char)}
    (h : (rest :: later).dropWhile (fun l => !isInked l) = line :: more) :
    reached? rest later = some line := by
  rw [reached?, List.find?_eq_head?_dropWhile_not, h, List.head?_cons]

theorem reached?_of_blank (h : ∀ line ∈ rest :: later, isInked line = false) :
    reached? rest later = if (rest :: later).all List.isEmpty then none else some [] := by
  have hnone : (rest :: later).find? isInked = none :=
    List.find?_eq_none.2 fun line hline => by simp [h line hline]
  rw [reached?, hnone]

theorem length_unread_le (rest : List Char) (later : List (List Char)) :
    (unread rest later).length ≤ later.length := by
  have hle := (List.dropWhile_sublist (l := rest :: later) fun line => !isInked line).length_le
  rw [List.length_cons] at hle
  rw [unread, List.length_tail]
  omega

/-- A key takes its value from its own line just if there is ink on it, or nowhere as much as a
blank. -/
theorem reached?_eq_own?_iff :
    reached? rest later = own? rest later ↔
      isInked rest = true ∨ ∀ line ∈ rest :: later, line = [] := by
  by_cases hink : isInked rest = true
  · simp [reached?_of_ink hink, own?, hink]
  · rw [own?, if_neg hink]
    simp only [hink, Bool.false_eq_true, false_or]
    constructor
    · intro h
      rw [reached?] at h
      split at h
      · cases h
      · split at h
        · next hempty => simpa using hempty
        · cases h
    · intro h
      have hblank : ∀ line ∈ rest :: later, isInked line = false := fun line hline => by
        rw [h line hline]
        rfl
      rw [reached?_of_blank hblank, if_pos]
      exact List.all_eq_true.2 fun line hline => by simp [h line hline]

/-! ## Reading a value -/

variable {cs : List Char}

theorem all_isEmpty_pieces_iff :
    (pieces '\n' cs).all List.isEmpty = true ↔ ∀ c ∈ cs, c = '\n' := by
  rw [List.all_eq_true]
  constructor
  · intro h c hc
    by_contra hbreak
    obtain ⟨line, hline, hmem⟩ := exists_mem_pieces hc hbreak
    rw [List.isEmpty_iff.1 (h line hline)] at hmem
    exact List.not_mem_nil hmem
  · intro h line hline
    rw [List.isEmpty_iff, List.eq_nil_iff_forall_not_mem]
    intro c hc
    obtain rfl := h c (mem_of_mem_pieces hline hc)
    exact not_mem_of_mem_pieces hline hc

/-- Behind a gap, the value goes from the first ink up to a line feed or to the end. -/
theorem valueHere?_of_ink {gap line : List Char} (hgap : ∀ c ∈ gap, isBlank c = true)
    (hink : isInked line = true) (hbreak : '\n' ∉ line) (tail : List Char) :
    valueHere? (gap ++ (line ++ tail)) =
      some (skipBlanks line ++ tail.takeWhile (· != '\n'),
        gap.length + line.length + (tail.takeWhile (· != '\n')).length) := by
  have hskip : skipBlanks (gap ++ (line ++ tail)) = skipBlanks line ++ tail := by
    rw [skipBlanks_append_of_blank hgap, skipBlanks_append_of_ink hink]
  have hne : skipBlanks line ++ tail ≠ [] :=
    List.append_ne_nil_of_left_ne_nil (skipBlanks_ne_nil_of_ink hink) tail
  have hsuffix : skipBlanks line <:+ line := List.dropWhile_suffix isBlank
  have hvalue : (skipBlanks line ++ tail).takeWhile (· != '\n') =
      skipBlanks line ++ tail.takeWhile (· != '\n') := by
    refine List.takeWhile_append_of_pos fun c hc => ?_
    simpa using fun heq : c = '\n' => hbreak (heq ▸ hsuffix.subset hc)
  have hle : (skipBlanks line).length ≤ line.length := hsuffix.length_le
  rw [valueHere?]
  simp only [hskip, hvalue, List.isEmpty_iff, hne, if_false, List.length_append]
  congr 2
  omega

/-- The value is read off the first line with ink, up to its end. -/
theorem valueHere?_of_inked {line : List Char} {more : List (List Char)}
    (h : (pieces '\n' cs).dropWhile (fun l => !isInked l) = line :: more) :
    ∃ value n, valueHere? cs = some (value, n) ∧ trim value = trim line ∧
      Behind (cs.drop n) more := by
  obtain ⟨gap, tail, rfl, hgap, hink, hbreak, htail⟩ := exists_inked_line h
  have hend : tail.takeWhile (· != '\n') = [] := by cases htail <;> rfl
  have hvalue := valueHere?_of_ink hgap hink hbreak tail
  rw [hend, List.append_nil, List.length_nil, Nat.add_zero] at hvalue
  refine ⟨skipBlanks line, gap.length + line.length, hvalue, ?_, ?_⟩
  · rw [trim, skipBlanks, skipBlanks, List.dropWhile_idempotent, ← skipBlanks, trim]
  · rw [← List.append_assoc, ← List.length_append, List.drop_left]
    exact htail

/-- Where only blanks are left, the value is one of them, or there are only line feeds. -/
theorem valueHere?_of_blank (h : ∀ line ∈ pieces '\n' cs, isInked line = false) :
    ((pieces '\n' cs).all List.isEmpty = true ∧ valueHere? cs = none) ∨
      ((pieces '\n' cs).all List.isEmpty = false ∧
        ∃ value, valueHere? cs = some (value, cs.length) ∧ trim value = []) := by
  have hblank : ∀ c ∈ cs, isBlank c = true := isBlank_of_mem_of_lines h
  by_cases hempty : (pieces '\n' cs).all List.isEmpty = true
  · exact .inl ⟨hempty, valueHere?_eq_none_iff.2 (all_isEmpty_pieces_iff.1 hempty)⟩
  · refine .inr ⟨Bool.eq_false_iff.2 hempty, ?_⟩
    rw [all_isEmpty_pieces_iff, ← valueHere?_eq_none_iff, valueHere?] at hempty
    rw [valueHere?]
    simp only [skipBlanks_of_blank hblank, List.isEmpty_nil, if_true] at hempty ⊢
    obtain ⟨c, hc⟩ : ∃ c, cs.reverse.find? (· != '\n') = some c := by
      refine Option.ne_none_iff_exists'.1 fun hnone => hempty ?_
      rw [hnone]
      rfl
    refine ⟨[c], by rw [hc]; rfl, trim_eq_nil_iff.2 fun d hd => ?_⟩
    obtain rfl := List.mem_singleton.1 hd
    exact hblank d (List.mem_reverse.1 (List.mem_of_find?_eq_some hc))

theorem forall_inked_eq_false {ls : List (List Char)}
    (h : ls.dropWhile (fun l => !isInked l) = []) : ∀ line ∈ ls, isInked line = false := by
  intro line hline
  simpa using List.dropWhile_eq_nil_iff.1 h line hline

/-- What is read behind a key, by the lines from there on. -/
theorem valueHere?_of_lines (hlines : pieces '\n' cs = rest :: later) :
    (valueHere? cs).map (fun v => trim v.1) = (reached? rest later).map trim := by
  cases hdrop : (rest :: later).dropWhile fun l => !isInked l with
  | cons line more =>
    obtain ⟨value, n, hvalue, htrim, -⟩ := valueHere?_of_inked (by rw [hlines, hdrop])
    rw [hvalue, reached?_of_dropWhile hdrop]
    exact congrArg some htrim
  | nil =>
    have hblank := forall_inked_eq_false hdrop
    rw [reached?_of_blank hblank]
    rw [← hlines] at hblank ⊢
    rcases valueHere?_of_blank hblank with ⟨hempty, hvalue⟩ | ⟨hempty, value, hvalue, htrim⟩
    · rw [hvalue, if_pos hempty]
      rfl
    · rw [hvalue, if_neg (by simp [hempty])]
      exact congrArg some htrim

end Note

/-! ## Metadata -/

namespace Metadata

open Note

/-- The truth value behind a key, by the lines from there on. -/
theorem truth?_of_lines {cs rest : List Char} {later : List (List Char)}
    (hlines : pieces '\n' cs = rest :: later) :
    truth? (skipBlanks cs) = (reached? rest later).bind fun line => truth? (skipBlanks line) := by
  cases hdrop : (rest :: later).dropWhile fun l => !isInked l with
  | cons line more =>
    obtain ⟨gap, tail, rfl, hgap, hink, -, htail⟩ := exists_inked_line (by rw [hlines, hdrop])
    rw [reached?_of_dropWhile hdrop, skipBlanks_append_of_blank hgap,
      skipBlanks_append_of_ink hink, Option.bind_some, truth?, truth?,
      dropWord?_append_behind (forall_mem_eq_false rfl) htail,
      dropWord?_append_behind (forall_mem_eq_false rfl) htail]
    simp only [Option.isSome_map]
  | nil =>
    have hblank := forall_inked_eq_false hdrop
    have hnone : truth? [] = none := rfl
    rw [reached?_of_blank hblank, skipBlanks_of_blank
      (isBlank_of_mem_of_lines (by rw [hlines]; exact hblank)), hnone]
    split <;> rfl

namespace Key

/-- What a key says first on the lines, if `line?` gives the line from which it takes its value and
`make` what it takes. -/
def onLines {α : Type} (k : Key) (line? : List Char → List (List Char) → Option (List Char))
    (make : List Char → Option α) : List (List Char) → Option α :=
  firstOnLines fun before here later =>
    (k.behind? before here).bind fun rest => (line? rest later).bind make

/-- A search for a key is one by lines, where what it says depends on the lines from there on. -/
theorem firstMatch_eq_onLines {α : Type} (k : Key) {read make : List Char → Option α}
    (h : ∀ cs rest later, pieces '\n' cs = rest :: later →
      read cs = (reached? rest later).bind make) (cs : List Char) :
    firstMatch (fun before here => (k.behind? before here).bind read) none cs =
      k.onLines reached? make (pieces '\n' cs) := by
  refine firstMatch_eq_firstOnLines (fun before cs line later hlines => ?_) (fun cs => ?_) cs
  · obtain ⟨tail, rfl, hline, htail⟩ := pieces_eq_cons_iff.1 hlines
    rw [k.behind?_append before (dropWord?_append_behind k.isBlank_of_mem_word htail line)]
    cases hrest : k.behind? before line with
    | none => rfl
    | some rest =>
      have hsuffix : rest <:+ line := suffix_of_dropWord? (dropWord?_of_behind? hrest)
      exact h (rest ++ tail) rest later
        (pieces_eq_cons_iff.2 ⟨tail, rfl, fun hmem => hline (hsuffix.subset hmem), htail⟩)
  · -- a line feed goes on with no key
    have hfree : (some '\n').any joinsKey = (none : Option Char).any joinsKey := by decide +kernel
    rw [behind?, behind?, hfree]

end Key

/-- Metadata by lines. -/
def ofLines (line? : List Char → List (List Char) → Option (List Char))
    (lines : List (List Char)) : Metadata :=
  let text (k : Key) : Option String :=
    k.onLines line? (fun l => some (String.ofList (trim l))) lines
  ofKeys (fun f => text (.text f)) ((text .tags).map fun t => listed t.toList)
    (Key.deprecated.onLines line? (fun l => truth? (skipBlanks l)) lines)

/-- The metadata of a note by its lines. -/
theorem ofNote_eq_ofLines (content : String) :
    ofNote content = ofLines reached? (linesOf content) := by
  have htext (k : Key) (cs : List Char) : value? k cs =
      k.onLines reached? (fun l => some (String.ofList (trim l))) (pieces '\n' cs) := by
    refine k.firstMatch_eq_onLines (fun cs rest later hlines => ?_) cs
    have hvalue := congrArg (Option.map String.ofList) (valueHere?_of_lines hlines)
    rw [Option.map_map, Option.map_map] at hvalue
    exact hvalue.trans Option.map_eq_bind
  have htruth (cs : List Char) := Key.deprecated.firstMatch_eq_onLines
    (fun _ _ _ hlines => truth?_of_lines hlines) cs
  rw [ofNote_eq_ofKeys, ofLines, linesOf]
  simp only [htext, htruth]

end Metadata

/-! ## Declarations of security -/

namespace Text

/-- Behind a keyword is what is left without it. -/
theorem drop_length_of_dropWord? {w : String} {cs rest : List Char}
    (h : dropWord? w cs = some rest) : cs.drop w.length = rest := by
  obtain ⟨key, hkey, rfl⟩ := dropWord?_eq_some_iff.1 h
  have hlength : w.length = key.length := by
    rw [← String.length_toList]
    exact (isKeyword_iff.1 hkey).length_eq
  rw [hlength, List.drop_left]

end Text

namespace Descriptor

open Note

theorem isBlank_of_mem_security : ∀ p ∈ "security:".toList, isBlank p = false :=
  forall_mem_eq_false rfl

/-- What comes behind the first key on a line. -/
def declared? (line : List Char) : Option (List Char) :=
  firstMatch (fun _ here => dropWord? "security:" here) none line

/-- The declared texts by lines. The search for the next key goes on behind the line from which the
last one took its value. -/
def texts : List (List Char) → List (List Char)
  | [] => []
  | line :: later =>
    match declared? line with
    | none => texts later
    | some rest => ((reached? rest later).map trim).toList ++ texts (unread rest later)
termination_by lines => lines.length
decreasing_by
  · exact Nat.lt_succ_self later.length
  · exact Nat.lt_succ_of_le (length_unread_le rest later)

/-- The matches in a text. -/
def matched (cs : List Char) : List (List Char) :=
  (allMatches (valueOf? "security:") 0 cs).map trim

theorem matched_nil : matched [] = [] := rfl

/-- No key stands at a line feed. -/
theorem matched_newline (cs : List Char) : matched ('\n' :: cs) = matched cs := rfl

theorem matched_behind {tail : List Char} {later : List (List Char)} (htail : Behind tail later)
    (h : ∀ cs, pieces '\n' cs = later → matched cs = texts later) : matched tail = texts later := by
  cases htail with
  | stop => rw [matched_nil, texts]
  | next ds => rw [matched_newline, h ds rfl]

/-- A part of a line in which no key stands. -/
theorem matched_append {cs tail : List Char}
    (h : ∀ earlier here, cs = earlier ++ here → here ≠ [] →
      dropWord? "security:" (here ++ tail) = none) : matched (cs ++ tail) = matched tail := by
  refine congrArg (List.map trim) (allMatches_append fun earlier here hcs hne => ?_)
  rw [valueOf?, h earlier here hcs hne, Option.bind_none]

/-- A key with a value. -/
theorem matched_of_value {cs rest value : List Char} {n : Nat}
    (hword : dropWord? "security:" cs = some rest) (hvalue : valueHere? rest = some (value, n)) :
    matched cs = trim value :: matched (rest.drop n) := by
  have hdrop : cs.drop 9 = rest := drop_length_of_dropWord? hword
  have hfound : valueOf? "security:" cs = some (value, 8 + n + 1) := by
    rw [valueOf?, hword, Option.bind_some, hvalue, Option.map_some]
    exact congrArg (fun m => some (value, m)) (Nat.add_right_comm 8 1 n)
  cases cs with
  | nil => cases hword
  | cons c cs =>
    have hrest : (c :: cs).drop (8 + n + 1) = rest.drop n := by
      rw [← hdrop, List.drop_drop]
      congr 1
      omega
    rw [matched, allMatches_of_some hfound, hrest]
    rfl

/-- A key without a value, and with no room for another key behind it. -/
theorem matched_of_no_value {cs rest : List Char} (hword : dropWord? "security:" cs = some rest)
    (hvalue : valueHere? rest = none) : matched cs = [] := by
  refine congrArg (List.map trim) (allMatches_eq_nil_iff.2 fun earlier here hcs _ => ?_)
  rw [valueOf?]
  cases hhere : dropWord? "security:" here with
  | none => rfl
  | some after =>
    -- what comes behind a later key is a part of what comes behind the first
    have hdrop : cs.drop 9 = rest := drop_length_of_dropWord? hword
    have hdrop' : here.drop 9 = after := drop_length_of_dropWord? hhere
    have hsuffix : after <:+ rest := by
      rw [← hdrop, ← hdrop', hcs]
      have hhere' : here.drop 9 <:+ earlier ++ here :=
        (List.drop_suffix 9 here).trans (List.suffix_append earlier here)
      apply List.suffix_of_suffix_length_le hhere' (List.drop_suffix 9 _)
      simp only [List.length_drop, List.length_append]
      omega
    have hnone : valueHere? after = none :=
      valueHere?_eq_none_iff.2 fun c hc => valueHere?_eq_none_iff.1 hvalue c (hsuffix.subset hc)
    rw [Option.bind_some, hnone, Option.map_none]

/-- The declared texts of a text are those of its lines. -/
theorem matched_eq_texts (cs : List Char) : matched cs = texts (pieces '\n' cs) := by
  -- Induction on the lines as they are used up.
  generalize hlines : pieces '\n' cs = lines
  fun_induction texts lines generalizing cs with
  | case1 => exact absurd hlines (pieces_ne_nil '\n' cs)
  | case2 line later hnone ih =>
    obtain ⟨tail, rfl, hline, htail⟩ := pieces_eq_cons_iff.1 hlines
    rw [matched_append fun earlier here hcs _ => ?_]
    · exact matched_behind htail ih
    · rw [dropWord?_append_behind isBlank_of_mem_security htail,
        firstMatch_eq_none_iff.1 hnone earlier here hcs, Option.map_none]
  | case3 line later rest hrest ih =>
    obtain ⟨tail, rfl, hline, htail⟩ := pieces_eq_cons_iff.1 hlines
    obtain ⟨earlier, here, rfl, hhere, hbefore⟩ := exists_place_of_firstMatch hrest
    have hword : dropWord? "security:" (here ++ tail) = some (rest ++ tail) := by
      rw [dropWord?_append_behind isBlank_of_mem_security htail, hhere, Option.map_some]
    have hbreak : '\n' ∉ rest := fun hmem =>
      hline (List.mem_append_right earlier ((suffix_of_dropWord? hhere).subset hmem))
    have hrestLines : pieces '\n' (rest ++ tail) = rest :: later :=
      pieces_eq_cons_iff.2 ⟨tail, rfl, hbreak, htail⟩
    rw [List.append_assoc, matched_append fun start more hearlier hne => ?_]
    · cases hdrop : (rest :: later).dropWhile fun l => !isInked l with
      | cons taken more =>
        have hunread : unread rest later = more := by rw [unread, hdrop, List.tail_cons]
        obtain ⟨value, n, hvalue, htrim, hbehind⟩ :=
          valueHere?_of_inked (by rw [hrestLines, hdrop])
        rw [hunread] at ih ⊢
        rw [matched_of_value hword hvalue, htrim, matched_behind hbehind ih,
          reached?_of_dropWhile hdrop]
        rfl
      | nil =>
        have hunread : unread rest later = [] := by rw [unread, hdrop, List.tail_nil]
        have hblank := forall_inked_eq_false hdrop
        rw [hunread, texts, List.append_nil, reached?_of_blank hblank]
        rw [← hrestLines] at hblank ⊢
        rcases valueHere?_of_blank hblank with ⟨hempty, hvalue⟩ | ⟨hempty, value, hvalue, htrim⟩
        · rw [matched_of_no_value hword hvalue, if_pos hempty]
          rfl
        · rw [matched_of_value hword hvalue, List.drop_length, matched_nil, htrim,
            if_neg (by simp [hempty])]
          rfl
    · rw [← List.append_assoc, dropWord?_append_behind isBlank_of_mem_security htail,
        hbefore start more hearlier hne, Option.map_none]

/-- The declarations of a note by its lines. -/
theorem ofNote_eq_texts (content : String) :
    ofNote content = (texts (linesOf content)).map ofText := by
  rw [linesOf, ← matched_eq_texts, matched, List.map_map]
  rfl

end Descriptor

/-! ## Lines by themselves -/

namespace Note

/-- Wherever a key stands on the line, ink comes behind it. -/
structure IsFilled (line : List Char) : Prop where
  metadata : ∀ (k : Metadata.Key) before after, StandsIn k.word line before after →
    isInked after = true
  security : ∀ before after, StandsIn "security:" line before after → isInked after = true

/-- The condition can be tested at every place of the line. -/
theorem isFilled_of_tails {line : List Char}
    (h : ∀ here ∈ line.tails,
      (∀ k ∈ Metadata.Key.all, (dropWord? k.word here).all isInked = true) ∧
        (dropWord? "security:" here).all isInked = true) : IsFilled line := by
  have hplace {w : String} {before after : List Char} (hw : StandsIn w line before after)
      (hall : ∀ here ∈ line.tails, (dropWord? w here).all isInked = true) :
      isInked after = true := by
    obtain ⟨here, rfl, hhere⟩ := standsIn_iff.1 hw
    have hink := hall here ((List.mem_tails _ _).2 (List.suffix_append before here))
    rwa [hhere, Option.all_some] at hink
  refine ⟨fun k before after hk => ?_, fun before after hk => ?_⟩
  · exact hplace hk fun here hhere => (h here hhere).1 k k.mem_all
  · exact hplace hk fun here hhere => (h here hhere).2

end Note

open Note

/-- On lines with ink behind every key, a key takes its value from its own line. -/
theorem Metadata.Key.onLines_reached?_eq_own? {α : Type} (k : Key) (make : List Char → Option α)
    {lines : List (List Char)} (h : ∀ line ∈ lines, IsFilled line) :
    k.onLines reached? make lines = k.onLines own? make lines := by
  induction lines with
  | nil => rfl
  | cons line later ih =>
    obtain ⟨hline, hlater⟩ := List.forall_mem_cons.1 h
    rw [onLines, onLines, firstOnLines, firstOnLines]
    refine congrArg₂ Option.or (firstMatch_congr (fun before here hsuffix => ?_) none) (ih hlater)
    cases hrest : k.behind? before here with
    | none => rfl
    | some rest =>
      obtain ⟨earlier, rfl⟩ := hsuffix
      have hink : isInked rest = true :=
        hline.metadata k earlier rest (standsIn_iff.2 ⟨here, rfl, dropWord?_of_behind? hrest⟩)
      rw [Option.bind_some, Option.bind_some, reached?_of_ink hink, own?, if_pos hink]

/-- The text that a line by itself declares. -/
def Descriptor.ownText? (line : List Char) : Option (List Char) :=
  (declared? line).bind fun rest => (own? rest []).map trim

/-- On lines with ink behind every key, each line declares what it declares by itself. -/
theorem Descriptor.texts_eq_filterMap {lines : List (List Char)}
    (h : ∀ line ∈ lines, IsFilled line) : texts lines = lines.filterMap ownText? := by
  fun_induction texts lines with
  | case1 => rfl
  | case2 line later hnone ih =>
    have hown : ownText? line = none := by rw [ownText?, hnone, Option.bind_none]
    rw [List.filterMap_cons_none hown]
    exact ih (List.forall_mem_cons.1 h).2
  | case3 line later rest hrest ih =>
    obtain ⟨hline, hlater⟩ := List.forall_mem_cons.1 h
    obtain ⟨earlier, here, rfl, hhere, -⟩ := exists_place_of_firstMatch hrest
    have hink : isInked rest = true :=
      hline.security earlier rest (standsIn_iff.2 ⟨here, rfl, hhere⟩)
    have hown : ownText? (earlier ++ here) = some (trim rest) := by
      rw [ownText?, hrest, Option.bind_some, own?, if_pos hink, Option.map_some]
    rw [unread_of_ink hink] at ih ⊢
    rw [List.filterMap_cons_some hown, reached?_of_ink hink, ih hlater]
    rfl

namespace Note

/-- **Values by lines.** What a note sets is what its lines set one after the other, where each key
takes its value from the first line with ink, from the rest of its own line on. That is its own line
just if ink comes behind the key, or nothing at all. So if ink comes behind every key, each line
says what it says by itself. -/
theorem values_by_lines (content : String) :
    (Metadata.ofNote content = Metadata.ofLines reached? (linesOf content) ∧
      Descriptor.ofNote content = (Descriptor.texts (linesOf content)).map Descriptor.ofText) ∧
      (∀ rest later, reached? rest later = own? rest later ↔
        isInked rest = true ∨ ∀ line ∈ rest :: later, line = []) ∧
      ((∀ line ∈ linesOf content, IsFilled line) →
        Metadata.ofNote content = Metadata.ofLines own? (linesOf content) ∧
          Descriptor.ofNote content =
            ((linesOf content).filterMap Descriptor.ownText?).map Descriptor.ofText) := by
  refine ⟨⟨Metadata.ofNote_eq_ofLines content, Descriptor.ofNote_eq_texts content⟩,
    fun _ _ => reached?_eq_own?_iff, fun h => ?_⟩
  rw [Metadata.ofNote_eq_ofLines, Descriptor.ofNote_eq_texts, Descriptor.texts_eq_filterMap h]
  refine ⟨?_, rfl⟩
  simp only [Metadata.ofLines, Metadata.Key.onLines_reached?_eq_own? _ _ h]

/-- Two keys with values on their lines. -/
theorem values_by_lines_of_filled :
    (∀ line ∈ linesOf "Summary: a\\nSecurity: b", IsFilled line) ∧
      Metadata.ofNote "Summary: a\\nSecurity: b" = { summary := some "a" } ∧
      Descriptor.ofNote "Summary: a\\nSecurity: b" = [⟨.custom, "b"⟩] := by
  have hfilled : ∀ line ∈ linesOf "Summary: a\\nSecurity: b", IsFilled line := by
    intro line hline
    refine isFilled_of_tails ?_
    revert line
    decide +kernel
  obtain ⟨hmetadata, hsecurity⟩ := (values_by_lines "Summary: a\\nSecurity: b").2.2 hfilled
  refine ⟨hfilled, ?_, ?_⟩
  · rw [hmetadata]
    decide +kernel
  · rw [hsecurity]
    decide +kernel

/-- A key at the end of its line takes the next line for its value, here another key with its
own. -/
theorem value_of_next_line :
    Metadata.ofNote "Summary:\\nTags: a" = { summary := some "Tags: a", tags := some ["a"] } ∧
      Metadata.ofLines own? (linesOf "Summary:\\nTags: a") = { tags := some ["a"] } := by
  decide +kernel

end Note

end SequenceApi
