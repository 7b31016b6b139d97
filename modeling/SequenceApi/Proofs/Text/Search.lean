import SequenceApi.Proofs.Diagram.Grammar

/-!
# Searching a text by lines

A key is searched for at all places of a text, across its lines. Since no key holds a line feed, it
stands on one line, and the same search can be made on one line after the other, if the lines that
come after a place are at hand.

## Main definitions

* `Behind tail later`: the text behind the end of a line holds the lines `later`
* `firstOnLines`: the first place on some lines where a recogniser succeeds

## Main results

* `firstMatch_eq_none_iff`, `exists_place_of_firstMatch`, `allMatches_eq_nil_iff`: where a search
  succeeds
* `firstMatch_append`, `allMatches_append`: a part of the text in which nothing is found
* `pieces_eq_cons_iff`: a text is its first line and what is behind it
* `firstMatch_eq_firstOnLines`: a search by lines
* `dropWord?_append`, `dropWord?_append_blank`: where a keyword ends
* `exists_inked_line`: the first line with ink
-/

namespace SequenceApi.Text

variable {α : Type}

/-! ## Places

The character before a place is the last one of the text before it. -/

section Places

variable {f : Option Char → List Char → Option α}

theorem getLast?_cons_or (c : Char) (earlier : List Char) (before : Option Char) :
    (c :: earlier).getLast?.or before = earlier.getLast?.or (some c) := by
  rw [List.getLast?_cons]
  cases earlier.getLast? <;> rfl

/-- A search finds nothing just if nothing is found at any place. -/
theorem firstMatch_eq_none_iff {cs : List Char} {before : Option Char} :
    firstMatch f before cs = none ↔
      ∀ earlier here, cs = earlier ++ here → f (earlier.getLast?.or before) here = none := by
  induction cs generalizing before with
  | nil =>
    constructor
    · intro h earlier here heq
      obtain ⟨rfl, rfl⟩ := List.append_eq_nil_iff.1 heq.symm
      exact h
    · intro h
      exact h [] [] rfl
  | cons c cs ih =>
    rw [firstMatch]
    constructor
    · intro h earlier here heq
      cases hplace : f before (c :: cs) with
      | some a =>
        rw [hplace] at h
        cases h
      | none =>
        rw [hplace] at h
        rcases List.cons_eq_append_iff.1 heq with ⟨rfl, rfl⟩ | ⟨earlier, rfl, hcs⟩
        · exact hplace
        · rw [getLast?_cons_or]
          exact ih.1 h earlier here hcs
    · intro h
      have hplace : f before (c :: cs) = none := h [] (c :: cs) rfl
      rw [hplace]
      refine ih.2 fun earlier here heq => ?_
      rw [← getLast?_cons_or]
      exact h (c :: earlier) here (by rw [heq, List.cons_append])

/-- In a part of the text where nothing is found, the search goes on behind it. -/
theorem firstMatch_append {cs ds : List Char} {before : Option Char}
    (h : ∀ earlier here, cs = earlier ++ here → here ≠ [] →
      f (earlier.getLast?.or before) (here ++ ds) = none) :
    firstMatch f before (cs ++ ds) = firstMatch f (cs.getLast?.or before) ds := by
  induction cs generalizing before with
  | nil => rfl
  | cons c cs ih =>
    have hplace : f before (c :: (cs ++ ds)) = none := h [] (c :: cs) rfl (List.cons_ne_nil c cs)
    rw [List.cons_append, firstMatch, hplace, getLast?_cons_or]
    refine ih fun earlier here heq hne => ?_
    rw [← getLast?_cons_or]
    exact h (c :: earlier) here (by rw [heq, List.cons_append]) hne

/-- What is found is found at a place, and nothing is found before. -/
theorem exists_place_of_firstMatch {cs : List Char} {before : Option Char} {a : α}
    (h : firstMatch f before cs = some a) :
    ∃ earlier here, cs = earlier ++ here ∧ f (earlier.getLast?.or before) here = some a ∧
      ∀ start rest, earlier = start ++ rest → rest ≠ [] →
        f (start.getLast?.or before) (rest ++ here) = none := by
  induction cs generalizing before with
  | nil =>
    refine ⟨[], [], rfl, h, fun start rest heq hne => ?_⟩
    exact absurd (List.append_eq_nil_iff.1 heq.symm).2 hne
  | cons c cs ih =>
    rw [firstMatch] at h
    cases hplace : f before (c :: cs) with
    | some b =>
      rw [hplace] at h
      refine ⟨[], c :: cs, rfl, hplace.trans h, fun start rest heq hne => ?_⟩
      exact absurd (List.append_eq_nil_iff.1 heq.symm).2 hne
    | none =>
      rw [hplace] at h
      obtain ⟨earlier, here, rfl, hfound, hbefore⟩ := ih h
      refine ⟨c :: earlier, here, rfl, by rwa [getLast?_cons_or], fun start rest heq hne => ?_⟩
      rcases List.cons_eq_append_iff.1 heq with ⟨rfl, rfl⟩ | ⟨start, rfl, hearlier⟩
      · exact hplace
      · rw [getLast?_cons_or]
        exact hbefore start rest hearlier hne

/-- Only the first place sees the character before the text. -/
theorem firstMatch_before {before before' : Option Char} (h : ∀ cs, f before cs = f before' cs)
    (cs : List Char) : firstMatch f before cs = firstMatch f before' cs := by
  cases cs with
  | nil => exact h []
  | cons c cs => rw [firstMatch, firstMatch, h]

end Places

section AllPlaces

variable {r : List Char → Option (α × Nat)}

theorem allMatches_eq_drop (k : Nat) (cs : List Char) :
    allMatches r k cs = allMatches r 0 (cs.drop k) := by
  induction cs generalizing k with
  | nil => cases k <;> rfl
  | cons c cs ih =>
    cases k with
    | zero => rfl
    | succ k => rw [allMatches, ih, List.drop_succ_cons]

/-- In a part of the text where nothing is found, the search goes on behind it. -/
theorem allMatches_append {cs ds : List Char}
    (h : ∀ earlier here, cs = earlier ++ here → here ≠ [] → r (here ++ ds) = none) :
    allMatches r 0 (cs ++ ds) = allMatches r 0 ds := by
  induction cs with
  | nil => rfl
  | cons c cs ih =>
    have hplace : r (c :: (cs ++ ds)) = none := h [] (c :: cs) rfl (List.cons_ne_nil c cs)
    rw [List.cons_append, allMatches, hplace]
    exact ih fun earlier here heq hne =>
      h (c :: earlier) here (by rw [heq, List.cons_append]) hne

/-- The search goes on behind what is found. -/
theorem allMatches_of_some {c : Char} {cs : List Char} {a : α} {n : Nat}
    (h : r (c :: cs) = some (a, n + 1)) :
    allMatches r 0 (c :: cs) = a :: allMatches r 0 ((c :: cs).drop (n + 1)) := by
  rw [allMatches, h]
  exact congrArg (a :: ·) (allMatches_eq_drop n cs)

/-- A search finds nothing just if nothing is found at any place. -/
theorem allMatches_eq_nil_iff {cs : List Char} :
    allMatches r 0 cs = [] ↔ ∀ earlier here, cs = earlier ++ here → here ≠ [] → r here = none := by
  constructor
  · intro h
    induction cs with
    | nil =>
      intro earlier here heq hne
      exact absurd (List.append_eq_nil_iff.1 heq.symm).2 hne
    | cons c cs ih =>
      intro earlier here heq hne
      rw [allMatches] at h
      split at h
      · cases h
      · next hplace =>
        rcases List.cons_eq_append_iff.1 heq with ⟨-, rfl⟩ | ⟨earlier, rfl, hcs⟩
        · exact hplace
        · exact ih h earlier here hcs hne
  · intro h
    have happend : allMatches r 0 (cs ++ []) = allMatches r 0 [] := by
      refine allMatches_append fun earlier here heq hne => ?_
      rw [List.append_nil]
      exact h earlier here heq hne
    rwa [List.append_nil] at happend

end AllPlaces

/-! ## Lines -/

/-- The text `tail` comes behind the end of a line and holds the lines `later`. -/
inductive Behind : List Char → List (List Char) → Prop
  | stop : Behind [] []
  | next (ds : List Char) : Behind ('\n' :: ds) (pieces '\n' ds)

/-- A text is its first line and what is behind it. -/
theorem pieces_eq_cons_iff {cs line : List Char} {later : List (List Char)} :
    pieces '\n' cs = line :: later ↔
      ∃ tail, cs = line ++ tail ∧ '\n' ∉ line ∧ Behind tail later := by
  constructor
  · intro h
    induction cs generalizing line with
    | nil =>
      obtain ⟨rfl, rfl⟩ := List.cons.inj h
      exact ⟨[], rfl, List.not_mem_nil, .stop⟩
    | cons c cs ih =>
      rw [pieces] at h
      split at h
      · next hc =>
        obtain ⟨rfl, rfl⟩ := List.cons.inj h
        obtain rfl := eq_of_beq hc
        exact ⟨'\n' :: cs, rfl, List.not_mem_nil, .next cs⟩
      · next hc =>
        split at h
        · next hnil => exact absurd hnil (pieces_ne_nil '\n' cs)
        · next p ps hps =>
          obtain ⟨rfl, rfl⟩ := List.cons.inj h
          obtain ⟨tail, rfl, hp, htail⟩ := ih hps
          refine ⟨tail, rfl, ?_, htail⟩
          rw [List.mem_cons, not_or]
          exact ⟨fun heq => hc (beq_iff_eq.2 heq.symm), hp⟩
  · rintro ⟨tail, rfl, hline, htail⟩
    cases htail with
    | stop => rw [List.append_nil, pieces_of_not_mem hline]
    | next ds => rw [pieces_append, pieces_of_not_mem hline, List.singleton_append]

/-- What is found first on the lines. The recogniser is given the character before a place, the rest
of its line, and the lines after it. -/
def firstOnLines (recognise : Option Char → List Char → List (List Char) → Option α) :
    List (List Char) → Option α
  | [] => none
  | line :: later =>
    (firstMatch (fun before here => recognise before here later) none line).or
      (firstOnLines recognise later)

/-- A search by lines: what is found at a place must depend on the rest of its line and on the lines
after it, and a place after a line feed must be like one at the start. -/
theorem firstMatch_eq_firstOnLines {f : Option Char → List Char → Option α}
    {g : Option Char → List Char → List (List Char) → Option α}
    (h : ∀ before cs line later, pieces '\n' cs = line :: later → f before cs = g before line later)
    (hstart : ∀ cs, f (some '\n') cs = f none cs) (cs : List Char) :
    firstMatch f none cs = firstOnLines g (pieces '\n' cs) := by
  -- Induction on the text, wherever on a line it starts.
  have hall : ∀ before line later, pieces '\n' cs = line :: later →
      firstMatch f before cs =
        (firstMatch (fun b here => g b here later) before line).or (firstOnLines g later) := by
    induction cs with
    | nil =>
      intro before line later hlines
      have hplace := h before [] line later hlines
      obtain ⟨rfl, rfl⟩ := List.cons.inj hlines
      rw [firstMatch, hplace, firstMatch, firstOnLines, Option.or_none]
    | cons c cs ih =>
      intro before line later hlines
      have hplace := h before (c :: cs) line later hlines
      obtain ⟨p, ps, hps⟩ := List.exists_cons_of_ne_nil (pieces_ne_nil '\n' cs)
      rw [pieces, hps] at hlines
      rw [firstMatch, hplace]
      split at hlines
      · next hc =>
        -- the line ends here, and the next one starts anew
        obtain ⟨rfl, rfl⟩ := List.cons.inj hlines
        obtain rfl := eq_of_beq hc
        rw [firstMatch, firstMatch_before hstart, ih none p ps hps, firstOnLines]
        cases g before [] (p :: ps) <;> rfl
      · obtain ⟨rfl, rfl⟩ := List.cons.inj hlines
        rw [ih (some c) p ps hps, firstMatch]
        cases g before (c :: p) ps <;> rfl
  obtain ⟨line, later, hlines⟩ := List.exists_cons_of_ne_nil (pieces_ne_nil '\n' cs)
  rw [hlines, firstOnLines]
  exact hall none line later hlines

/-! ## Keywords -/

/-- What no character of a text is can be tested at each of them. -/
theorem forall_mem_eq_false {cs : List Char} {p : Char → Bool}
    (h : (cs.all fun c => !p c) = true) : ∀ c ∈ cs, p c = false := by
  intro c hc
  simpa using List.all_eq_true.1 h c hc

/-- A keyword ends before a character that is none of its letters. -/
theorem dropLetters?_append {ps : List Char} {c : Char} (hc : ∀ p ∈ ps, sameLetter p c = false)
    (cs ds : List Char) :
    dropLetters? ps (cs ++ c :: ds) = (dropLetters? ps cs).map (· ++ c :: ds) := by
  induction ps generalizing cs with
  | nil => rfl
  | cons p ps ih =>
    obtain ⟨hp, hps⟩ := List.forall_mem_cons.1 hc
    cases cs with
    | nil => exact if_neg (by simp [hp])
    | cons d cs =>
      rw [List.cons_append, dropLetters?, dropLetters?]
      split
      · exact ih hps cs
      · rfl

theorem dropWord?_append {w : String} {c : Char} (hc : ∀ p ∈ w.toList, sameLetter p c = false)
    (cs ds : List Char) : dropWord? w (cs ++ c :: ds) = (dropWord? w cs).map (· ++ c :: ds) :=
  dropLetters?_append hc cs ds

theorem dropWord?_append_blank {w : String} (hw : ∀ p ∈ w.toList, isBlank p = false) {c : Char}
    (hc : isBlank c = true) (cs ds : List Char) :
    dropWord? w (cs ++ c :: ds) = (dropWord? w cs).map (· ++ c :: ds) := by
  refine dropWord?_append (fun p hp => ?_) cs ds
  rw [← Bool.not_eq_true]
  intro hsame
  rw [isBlank_of_sameLetter hsame (hw p hp)] at hc
  cases hc

/-- A keyword on a line is found without regard to what is behind the line. -/
theorem dropWord?_append_behind {w : String} (hw : ∀ p ∈ w.toList, isBlank p = false)
    {tail : List Char} {later : List (List Char)} (htail : Behind tail later) (cs : List Char) :
    dropWord? w (cs ++ tail) = (dropWord? w cs).map (· ++ tail) := by
  cases htail with
  | stop => simp
  | next ds => exact dropWord?_append_blank hw rfl cs ds

/-! ## Ink -/

theorem isInked_eq_false_iff {cs : List Char} :
    isInked cs = false ↔ ∀ c ∈ cs, isBlank c = true := by
  simp [isInked]

/-- A text is blank if none of its lines has ink. -/
theorem isBlank_of_mem_of_lines {cs : List Char}
    (h : ∀ line ∈ pieces '\n' cs, isInked line = false) : ∀ c ∈ cs, isBlank c = true := by
  intro c hc
  by_cases hbreak : c = '\n'
  · rw [hbreak]
    rfl
  · obtain ⟨line, hline, hmem⟩ := exists_mem_pieces hc hbreak
    exact isInked_eq_false_iff.1 (h line hline) c hmem

/-- Before the first line with ink there are blanks only, and behind it are the lines after it. -/
theorem exists_inked_line {cs line : List Char} {later : List (List Char)}
    (h : (pieces '\n' cs).dropWhile (fun l => !isInked l) = line :: later) :
    ∃ gap tail, cs = gap ++ (line ++ tail) ∧ (∀ c ∈ gap, isBlank c = true) ∧
      isInked line = true ∧ '\n' ∉ line ∧ Behind tail later := by
  -- Induction on the lines: those without ink go into the gap, with their ends.
  generalize hlines : pieces '\n' cs = lines at h
  induction lines generalizing cs with
  | nil => exact absurd hlines (pieces_ne_nil '\n' cs)
  | cons l ls ih =>
    obtain ⟨tail, rfl, hl, htail⟩ := pieces_eq_cons_iff.1 hlines
    by_cases hink : isInked l = true
    · rw [List.dropWhile_cons_of_neg (by simp [hink])] at h
      obtain ⟨rfl, rfl⟩ := List.cons.inj h
      exact ⟨[], tail, rfl, by simp, hink, hl, htail⟩
    · rw [List.dropWhile_cons_of_pos (by simpa using hink)] at h
      cases htail with
      | stop => cases h
      | next ds =>
        obtain ⟨gap, tail, rfl, hgap, hline, hbreak, htail⟩ := ih rfl h
        refine ⟨l ++ '\n' :: gap, tail, by simp, fun c hc => ?_, hline, hbreak, htail⟩
        rcases List.mem_append.1 hc with hc | hc
        · exact isInked_eq_false_iff.1 (Bool.eq_false_iff.2 hink) c hc
        · rcases List.mem_cons.1 hc with rfl | hc
          · rfl
          · exact hgap c hc

theorem skipBlanks_ne_nil_of_ink {cs : List Char} (h : isInked cs = true) : skipBlanks cs ≠ [] := by
  obtain ⟨c, hc, hink⟩ := List.any_eq_true.1 h
  intro hnil
  rw [List.dropWhile_eq_nil_iff.1 hnil c hc] at hink
  cases hink

/-- From the first ink on, a line is followed by what is behind it. -/
theorem skipBlanks_append_of_ink {line : List Char} (h : isInked line = true) (tail : List Char) :
    skipBlanks (line ++ tail) = skipBlanks line ++ tail := by
  rw [skipBlanks, List.dropWhile_append, if_neg]
  · rfl
  · rw [List.isEmpty_iff]
    exact skipBlanks_ne_nil_of_ink h

end SequenceApi.Text
