/-!
# Cutting and searching texts

Fields are cut at one character, and keys are searched for at every place of a text.

## Main definitions

* `pieces sep cs`: the parts between the separators, one more than there are separators
* `cut sep cs`: the parts before and after the first separator
* `firstMatch`, `allMatches`: the first place, or all places from left to right, where a recogniser
  succeeds
* `joined`: texts with a separator between them

## Main results

* `length_pieces`: there is one piece more than there are separators
* `pieces_append`, `pieces_joined`: the pieces of texts with separators between them
* `cut_append`: a cut at the first separator loses nothing but the separator
* `cut_append_of_not_mem`: a cut finds the first separator
* `occurs_iff_isInfix`: what occurs in a text is a part of it
-/

namespace SequenceApi.Text

/-- The parts of a text between the separators, in order. -/
def pieces (sep : Char) : List Char → List (List Char)
  | [] => [[]]
  | c :: cs =>
    if c == sep then [] :: pieces sep cs
    else
      match pieces sep cs with
      | [] => [[c]]
      | p :: ps => (c :: p) :: ps

/-- The part before the first separator, and the part after it if there is a separator. -/
def cut (sep : Char) : List Char → List Char × Option (List Char)
  | [] => ([], none)
  | c :: cs =>
    if c == sep then ([], some cs)
    else
      let (before, after) := cut sep cs
      (c :: before, after)

/-- What `recognise` finds at the first place where it finds something. It is given the character
before the place and the text from there on; the end of the text is a place too. -/
def firstMatch {α : Type} (recognise : Option Char → List Char → Option α) :
    Option Char → List Char → Option α
  | before, [] => recognise before []
  | before, c :: cs =>
    match recognise before (c :: cs) with
    | some a => some a
    | none => firstMatch recognise (some c) cs

/-- What `recognise` finds, from left to right and without overlap: it gives a value and the number
of characters that belong to it. The first argument counts characters still to be passed over. -/
def allMatches {α : Type} (recognise : List Char → Option (α × Nat)) : Nat → List Char → List α
  | _, [] => []
  | k + 1, _ :: cs => allMatches recognise k cs
  | 0, c :: cs =>
    match recognise (c :: cs) with
    | some (a, n) => a :: allMatches recognise (n - 1) cs
    | none => allMatches recognise 0 cs

/-- The text `s` begins at this place. -/
def startsHere (s : List Char) (cs : List Char) : Bool :=
  s.isPrefixOf cs

/-- The text `s` occurs somewhere in `cs`. -/
def occurs (s : List Char) : List Char → Bool
  | [] => s.isEmpty
  | c :: cs => startsHere s (c :: cs) || occurs s cs

/-- The texts in order, with `sep` between neighbours. -/
def joined (sep : String) (parts : List String) : String :=
  String.intercalate sep parts

/-! ## Pieces and cuts -/

theorem pieces_ne_nil (sep : Char) (cs : List Char) : pieces sep cs ≠ [] := by
  cases cs with
  | nil => simp [pieces]
  | cons c cs =>
    rw [pieces]
    split
    · simp
    · split <;> simp

theorem length_pieces (sep : Char) (cs : List Char) :
    (pieces sep cs).length = cs.count sep + 1 := by
  induction cs with
  | nil => rfl
  | cons c cs ih =>
    rw [pieces, List.count_cons]
    split
    · simp [ih]
    · split
      · next h => exact absurd h (pieces_ne_nil sep cs)
      · next p ps h => simpa [h] using ih

/-- The pieces of two texts with a separator between them. -/
theorem pieces_append (sep : Char) (cs ds : List Char) :
    pieces sep (cs ++ sep :: ds) = pieces sep cs ++ pieces sep ds := by
  -- Induction on the first text: a character goes to the front of its first piece.
  induction cs with
  | nil => simp [pieces]
  | cons c cs ih =>
    rw [List.cons_append, pieces, pieces, ih]
    split
    · rfl
    · cases h : pieces sep cs with
      | nil => exact absurd h (pieces_ne_nil sep cs)
      | cons p ps => rfl

/-- A text without separators is one piece. -/
theorem pieces_of_not_mem {sep : Char} {cs : List Char} (h : sep ∉ cs) : pieces sep cs = [cs] := by
  induction cs with
  | nil => rfl
  | cons c cs ih =>
    obtain ⟨hc, hcs⟩ := List.ne_and_not_mem_of_not_mem_cons h
    rw [pieces, if_neg (by simpa using Ne.symm hc), ih hcs]

/-- No separator stands in a piece. -/
theorem not_mem_of_mem_pieces {sep : Char} {cs p : List Char} (h : p ∈ pieces sep cs) :
    sep ∉ p := by
  induction cs generalizing p with
  | nil =>
    obtain rfl := List.mem_singleton.1 h
    exact List.not_mem_nil
  | cons c cs ih =>
    rw [pieces] at h
    split at h
    · rcases List.mem_cons.1 h with rfl | h
      · exact List.not_mem_nil
      · exact ih h
    · next hc =>
      split at h
      · next hnil => exact absurd hnil (pieces_ne_nil sep cs)
      · next q qs hq =>
        rw [hq] at ih
        rcases List.mem_cons.1 h with rfl | h
        · rw [List.mem_cons, not_or]
          exact ⟨fun hsep => hc (by simp [hsep]), ih List.mem_cons_self⟩
        · exact ih (List.mem_cons_of_mem q h)

/-- Texts without a separator are the pieces of all of them together. -/
theorem pieces_joined {sep : Char} {parts : List String} (hne : parts ≠ [])
    (h : ∀ p ∈ parts, sep ∉ p.toList) :
    pieces sep (joined (String.singleton sep) parts).toList = parts.map String.toList := by
  induction parts with
  | nil => exact absurd rfl hne
  | cons p parts ih =>
    obtain ⟨hp, hparts⟩ := List.forall_mem_cons.1 h
    cases parts with
    | nil => simpa [joined] using pieces_of_not_mem hp
    | cons q parts =>
      have hrest := ih (List.cons_ne_nil q parts) hparts
      rw [joined] at hrest ⊢
      rw [String.intercalate_cons_cons, String.toList_append, String.toList_append,
        String.toList_singleton, List.append_assoc, List.singleton_append, pieces_append,
        pieces_of_not_mem hp, hrest]
      rfl

theorem cut_append {sep : Char} {cs before after : List Char}
    (h : cut sep cs = (before, some after)) : before ++ sep :: after = cs := by
  induction cs generalizing before with
  | nil => simp [cut] at h
  | cons c cs ih =>
    rw [cut] at h
    split at h
    · next hc =>
      simp only [Prod.mk.injEq, Option.some.injEq] at h
      obtain ⟨rfl, rfl⟩ := h
      simp [eq_of_beq hc]
    · simp only [Prod.mk.injEq] at h
      obtain ⟨rfl, ha⟩ := h
      rw [List.cons_append, ih (Prod.ext rfl ha)]

theorem cut_of_not_mem {sep : Char} {cs : List Char} (h : sep ∉ cs) : cut sep cs = (cs, none) := by
  induction cs with
  | nil => rfl
  | cons c cs ih =>
    obtain ⟨hc, hcs⟩ := List.ne_and_not_mem_of_not_mem_cons h
    rw [cut, if_neg (by simpa using Ne.symm hc), ih hcs]

/-- A text is cut where the first separator stands. -/
theorem cut_append_of_not_mem {sep : Char} {cs : List Char} (h : sep ∉ cs) (ds : List Char) :
    cut sep (cs ++ sep :: ds) = (cs, some ds) := by
  induction cs with
  | nil => simp [cut]
  | cons c cs ih =>
    obtain ⟨hc, hcs⟩ := List.ne_and_not_mem_of_not_mem_cons h
    rw [List.cons_append, cut, if_neg (by simpa using Ne.symm hc), ih hcs]

/-! ## Searches -/

theorem startsHere_iff_isPrefix {s cs : List Char} : startsHere s cs = true ↔ s <+: cs :=
  List.isPrefixOf_iff_prefix

theorem occurs_iff_isInfix {s cs : List Char} : occurs s cs = true ↔ s <:+: cs := by
  induction cs with
  | nil => rw [occurs, List.isEmpty_iff, List.infix_nil]
  | cons c cs ih =>
    rw [occurs, Bool.or_eq_true, startsHere_iff_isPrefix, ih, List.infix_cons_iff]

/-- What is found, the recogniser finds at some place. -/
theorem exists_of_firstMatch {α : Type} {recognise : Option Char → List Char → Option α}
    {cs : List Char} {a : α} :
    ∀ {before : Option Char}, firstMatch recognise before cs = some a →
      ∃ before here, recognise before here = some a := by
  induction cs with
  | nil => exact fun h => ⟨_, _, h⟩
  | cons c cs ih =>
    intro before h
    rw [firstMatch] at h
    split at h
    · next b hb =>
      obtain rfl := Option.some.inj h
      exact ⟨_, _, hb⟩
    · exact ih h

end SequenceApi.Text
