import Mathlib.Data.List.TakeWhile
import SequenceApi.Console.Markup

/-!
# Balanced markup

In a text with balanced tags every tag names a style by a word of small letters, and a tag closes
only a style that is open. Styles may be closed in any order, and some may stay open. That such
texts can be printed is what may be expected of any console; what a console makes of other texts is
left open.

The tags that are open are followed through a balanced text. They have the canonical names of the
styles, but the last of two tags with one canonical name is closed first, so the two lists agree up
to their order only.

## Main definitions

* `Markup.IsBare`: a text in which no tag begins
* `Markup.IsBalanced`: a text with balanced tags
* `Markup.Reading.Honours`: a console prints all texts with balanced tags

## Main results

* `Markup.piecesAfter_of_isBare`, `Markup.piecesAfter_tag`: the pieces of a text, from the left
* `Markup.honours_unmarked`: the console of this library prints all texts with balanced tags
-/

namespace SequenceApi.Markup

open Text

/-! ## Balanced texts -/

/-- No tag begins in the text, and nothing in it escapes a tag. -/
def IsBare (cs : List Char) : Prop :=
  ∀ c ∈ cs, c ≠ '[' ∧ c ≠ '\\'

/-- A word of small letters, as styles are named. -/
def IsStyle (name : List Char) : Prop :=
  name ≠ [] ∧ ∀ c ∈ name, c.isLower = true

/-- Texts in which tags name styles, and no tag closes a style that is not open. The first argument
are the styles that are open before the text. -/
inductive IsBalanced : List (List Char) → List Char → Prop where
  | bare {styles : List (List Char)} {cs : List Char} (h : IsBare cs) : IsBalanced styles cs
  | opening {styles : List (List Char)} {cs name rest : List Char} (hcs : IsBare cs)
      (hname : IsStyle name) (h : IsBalanced (name :: styles) rest) :
      IsBalanced styles (cs ++ '[' :: (name ++ ']' :: rest))
  | closing {styles : List (List Char)} {cs name rest : List Char} (hcs : IsBare cs)
      (hname : IsStyle name) (hopen : name ∈ styles) (h : IsBalanced (styles.erase name) rest) :
      IsBalanced styles (cs ++ '[' :: ('/' :: name ++ ']' :: rest))

/-- A console prints every text with balanced tags. -/
def Reading.Honours (reading : Reading) : Prop :=
  ∀ cs, IsBalanced [] cs → ∃ ds, reading cs = .ok ds

theorem IsBare.append {cs ds : List Char} (h : IsBare cs) (h' : IsBare ds) : IsBare (cs ++ ds) := by
  intro c hc
  rcases List.mem_append.1 hc with hc | hc
  · exact h c hc
  · exact h' c hc

theorem isBare_toString (n : Nat) : IsBare (toString n).toList := by
  intro c hc
  have hdigits : (toString n).toList = Nat.toDigits 10 n := Nat.toList_repr
  rw [hdigits] at hc
  have hdigit : c.isDigit = true := Nat.isDigit_of_mem_toDigits (by decide) (by decide) hc
  constructor
  · rintro rfl
    exact absurd hdigit (by decide)
  · rintro rfl
    exact absurd hdigit (by decide)

/-! ## Pieces of a text -/

variable {cs inner : List Char}

/-- Characters to be passed over. -/
theorem piecesAfter_length (n : Nat) (before cs rest : List Char) :
    piecesAfter cs.length n before (cs ++ rest) = piecesAfter 0 (n + cs.length) before rest := by
  induction cs generalizing n with
  | nil => rfl
  | cons c cs ih =>
    rw [List.length_cons, List.cons_append, piecesAfter, ih, Nat.add_right_comm, Nat.add_assoc]

/-- A bare text goes to the text before the next tag. -/
theorem piecesAfter_of_isBare (h : IsBare cs) (n : Nat) (before rest : List Char) :
    piecesAfter 0 n before (cs ++ rest) =
      piecesAfter 0 (n + cs.length) (cs.reverse ++ before) rest := by
  -- Induction on the text: at no character of it a tag begins.
  induction cs generalizing n before with
  | nil => rfl
  | cons c cs ih =>
    obtain ⟨hbracket, hslash⟩ := h c List.mem_cons_self
    have hnone : tagHere? (c :: (cs ++ rest)) = none := by
      have htake : (c :: (cs ++ rest)).takeWhile (· == '\\') = [] := by
        simp [hslash]
      rw [tagHere?, htake]
      unfold tagText?
      split
      · next heq => exact absurd (List.cons.inj heq).1 hbracket
      · rfl
    rw [List.cons_append, piecesAfter, hnone]
    dsimp only
    rw [ih fun d hd => h d (List.mem_cons_of_mem c hd)]
    simp [Nat.add_assoc, Nat.add_comm 1]

/-- What a tag has between its brackets: a character that a tag can begin with, and no bracket. -/
def IsInner (inner : List Char) : Prop :=
  (∃ c ∈ inner.head?, startsTag c = true) ∧ ∀ c ∈ inner, c ≠ '[' ∧ c ≠ ']'

theorem piecesAfter_tag (h : IsInner inner) (n : Nat) (before rest : List Char) :
    piecesAfter 0 n before ('[' :: (inner ++ ']' :: rest)) =
      textPiece before.reverse ++ escapedTag n 0 inner ++
        piecesAfter 0 (n + inner.length + 2) [] rest := by
  obtain ⟨⟨c, hc, hstart⟩, hnone⟩ := h
  obtain ⟨cs, rfl⟩ : ∃ cs, inner = c :: cs := by
    cases inner with
    | nil => cases hc
    | cons d cs =>
      obtain rfl := Option.some_inj.1 hc
      exact ⟨cs, rfl⟩
  have htake : (cs ++ ']' :: rest).takeWhile (fun d => d != ']' && d != '[') = cs := by
    rw [List.takeWhile_append_of_pos fun d hd => by
      simpa using (hnone d (List.mem_cons_of_mem c hd)).symm]
    simp
  have htag : tagHere? ('[' :: (c :: cs ++ ']' :: rest)) = some (0, c :: cs) := by
    have hslashes : ('[' :: (c :: cs ++ ']' :: rest)).takeWhile (· == '\\') = [] := by
      simp
    rw [tagHere?, hslashes]
    simp [tagText?, htake, hstart]
  have hskip := piecesAfter_length (n + 1) [] (c :: cs ++ [']']) rest
  rw [piecesAfter, htag]
  simpa [Nat.add_assoc, Nat.add_comm, Nat.add_left_comm] using hskip

/-! ## Names of styles -/

theorem le_of_isLower {c : Char} (h : c.isLower = true) : 'a' ≤ c ∧ c ≤ 'z' := by
  have hle : (decide (c.val ≥ 'a'.val) && decide (c.val ≤ 'z'.val)) = true := h
  rwa [Bool.and_eq_true, decide_eq_true_eq, decide_eq_true_eq] at hle

theorem bounds_of_isLower {c : Char} (h : c.isLower = true) : 97 ≤ c.toNat ∧ c.toNat ≤ 122 :=
  (le_of_isLower h).imp UInt32.le_iff_toNat_le.1 UInt32.le_iff_toNat_le.1

theorem isBlank_of_isLower {c : Char} (h : c.isLower = true) : isBlank c = false := by
  have hbounds := bounds_of_isLower h
  simp [isBlank]
  omega

namespace IsStyle

variable {name : List Char}

theorem ne_of_mem (h : IsStyle name) {c d : Char} (hc : c ∈ name) (hd : d.isLower = false) :
    c ≠ d := by
  rintro rfl
  rw [h.2 c hc] at hd
  cases hd

theorem not_mem (h : IsStyle name) {d : Char} (hd : d.isLower = false) : d ∉ name :=
  fun hmem => h.ne_of_mem hmem hd rfl

theorem isInner (h : IsStyle name) : IsInner name := by
  refine ⟨?_, fun c hc => ⟨h.ne_of_mem hc (by decide), h.ne_of_mem hc (by decide)⟩⟩
  obtain ⟨c, cs, rfl⟩ := List.exists_cons_of_ne_nil h.1
  refine ⟨c, rfl, ?_⟩
  simp only [startsTag, Bool.or_eq_true, Bool.and_eq_true, decide_eq_true_eq]
  exact .inl (.inl (.inl (le_of_isLower (h.2 c List.mem_cons_self))))

theorem isInner_closing (h : IsStyle name) : IsInner ('/' :: name) :=
  ⟨⟨'/', rfl, rfl⟩, List.forall_mem_cons.2 ⟨by decide, h.isInner.2⟩⟩

theorem isInked (h : IsStyle name) : isInked name = true := by
  obtain ⟨c, cs, rfl⟩ := List.exists_cons_of_ne_nil h.1
  simp [Text.isInked, isBlank_of_isLower (h.2 c List.mem_cons_self)]

theorem trim_eq_self (h : IsStyle name) : trim name = name :=
  Text.trim_eq_self (fun c hc => isBlank_of_isLower (h.2 c (List.mem_of_mem_head? hc)))
    fun c hc => isBlank_of_isLower (h.2 c (List.mem_of_getLast? hc))

theorem lower_eq_self (h : IsStyle name) : lower name = name := by
  rw [lower_of_ascii fun c hc =>
    Nat.lt_of_le_of_lt (bounds_of_isLower (h.2 c hc)).2 (by decide)]
  have hself : ∀ c ∈ name, c.toLower = id c := by
    intro c hc
    -- capital letters come before the small ones
    have hsmall : 97 ≤ c.toNat := (bounds_of_isLower (h.2 c hc)).1
    exact dif_neg fun hcapital => absurd (UInt32.le_iff_toNat_le.1 hcapital.2) (by
      change ¬ c.toNat ≤ 90
      omega)
  rw [List.map_congr_left hself, List.map_id]

/-- A text without blanks is one word, whatever the step does with blanks. -/
theorem foldr_eq_singleton {step : Char → List (List Char) → List (List Char)}
    (hstep : ∀ c word words, isBlank c = false → step c (word :: words) = (c :: word) :: words)
    {cs : List Char} (hcs : ∀ c ∈ cs, isBlank c = false) : cs.foldr step [[]] = [cs] := by
  induction cs with
  | nil => rfl
  | cons c cs ih =>
    obtain ⟨hc, hrest⟩ := List.forall_mem_cons.1 hcs
    rw [List.foldr_cons, ih hrest, hstep c cs [] hc]

theorem words_eq (h : IsStyle name) : Style.words name = [name] := by
  rw [Style.words, foldr_eq_singleton (fun c word words hc => by simp [hc])
    fun c hc => isBlank_of_isLower (h.2 c hc)]
  simp [h.1]

/-- A word of small letters has no parentheses, so it is no colour by its shares. -/
theorem checkColour_ne (h : IsStyle name) : checkColour name ≠ .error .emptyNumber := by
  have hargument : ∀ word, argument? word name = none := by
    intro word
    rw [argument?, if_neg]
    intro hfound
    obtain ⟨rest, hrest⟩ := List.isPrefixOf_iff_prefix.1 (Bool.and_eq_true_iff.1 hfound).1
    have hmem : '(' ∈ name := by simp [← hrest]
    exact h.not_mem (by decide) hmem
  rw [checkColour, hargument, hargument]
  split <;> simp

theorem addPlain_ne (h : IsStyle name) : Style.addPlain {} name ≠ .error .emptyNumber := by
  have hcolour := h.checkColour_ne
  rw [Style.addPlain, h.lower_eq_self]
  cases hcheck : checkColour name with
  | ok =>
    dsimp only
    repeat' split
    all_goals simp [Except.map]
  | error f =>
    rw [hcheck] at hcolour
    dsimp only
    repeat' split
    all_goals simp [Except.map]
    simpa using hcolour

/-- A word of small letters has a canonical name. -/
theorem exists_styleName (h : IsStyle name) : ∃ n, styleName name = .ok n := by
  have hname : Style.ofName? name ≠ .error .emptyNumber := by
    have hplain := h.addPlain_ne
    have hfold : [name].foldlM Style.addWord {} = Style.addPlain {} name := by
      simp [Style.addWord]
    rw [Style.ofName?, h.words_eq, hfold]
    split
    · simp
    · cases hadd : Style.addPlain {} name with
      | error f =>
        rw [hadd] at hplain
        simpa using hplain
      | ok s =>
        dsimp only
        split <;> simp
  rw [styleName, canonicalName]
  cases hread : Style.ofName? name with
  | ok s => exact ⟨_, rfl⟩
  | error f =>
    cases f with
    | unknown => exact ⟨_, rfl⟩
    | emptyNumber => exact absurd hread hname

end IsStyle

/-! ## Open tags -/

/-- Text breaks nothing. -/
theorem remains_textPiece (tags : List Tag) (cs : List Char) (ps : List Piece)
    (h : ∃ ds, remains tags ps = .ok ds) :
    ∃ ds, remains tags (textPiece cs ++ ps) = .ok ds := by
  obtain ⟨ds, hds⟩ := h
  rw [textPiece]
  split
  · exact ⟨ds, hds⟩
  · exact ⟨_, by rw [List.cons_append, List.nil_append, remains, hds]; rfl⟩

theorem remains_tag {tags tags' : List Tag} {t : Tag} {ps : List Piece}
    (ht : openTags tags t = .ok tags') (h : ∃ ds, remains tags' ps = .ok ds) :
    ∃ ds, remains tags (.tag t :: ps) = .ok ds := by
  obtain ⟨ds, hds⟩ := h
  exact ⟨ds, by rw [remains, ht, ← hds]; rfl⟩

/-- The canonical name of a style; a name without one is not asked for. -/
def canonical (name : List Char) : List Char :=
  (styleName name).toOption.getD []

theorem IsStyle.styleName_eq {name : List Char} (h : IsStyle name) :
    styleName name = .ok (canonical name) := by
  obtain ⟨n, hn⟩ := h.exists_styleName
  rw [canonical, hn]
  rfl

/-- The tags that are open stand for the styles that are open, in some order. -/
structure Stands (tags : List Tag) (styles : List (List Char)) : Prop where
  names : (tags.map Tag.name).Perm (styles.map canonical)
  parameters : ∀ t ∈ tags, t.parameters = none

namespace Stands

variable {tags : List Tag} {styles : List (List Char)} {name : List Char}

theorem openTags_opening (h : Stands tags styles) (hname : IsStyle name) (n : Nat) :
    ∃ tags', openTags tags ⟨name, none, n⟩ = .ok tags' ∧ Stands tags' (name :: styles) := by
  refine ⟨⟨canonical name, none, n⟩ :: tags, ?_, h.names.cons _, ?_⟩
  · unfold openTags
    split
    · next rest heq => exact absurd (heq ▸ List.mem_cons_self) (hname.not_mem (by decide))
    · rw [hname.styleName_eq]
      rfl
  · exact List.forall_mem_cons.2 ⟨rfl, h.parameters⟩

theorem openTags_closing (h : Stands tags styles) (hname : IsStyle name) (hopen : name ∈ styles)
    (n : Nat) :
    ∃ tags', openTags tags ⟨'/' :: name, none, n⟩ = .ok tags' ∧
      Stands tags' (styles.erase name) := by
  have hmem : canonical name ∈ tags.map Tag.name :=
    h.names.mem_iff.2 (List.mem_map_of_mem hopen)
  obtain ⟨opened, hfind⟩ : ∃ opened, tags.find? (·.name = canonical name) = some opened := by
    obtain ⟨t, ht, hn⟩ := List.mem_map.1 hmem
    rw [← Option.isSome_iff_exists, List.find?_isSome]
    exact ⟨t, ht, decide_eq_true hn⟩
  have hparameters := h.parameters opened (List.mem_of_find?_eq_some hfind)
  refine ⟨tags.eraseP (·.name = canonical name), ?_, ?_, fun t ht => ?_⟩
  · have hchecked : checkClosed opened = .ok () := by
      unfold checkClosed
      rw [hparameters]
      split
      · next heq => cases heq
      · rfl
    unfold openTags
    split
    · next rest heq =>
      obtain rfl := (List.cons.inj heq).2
      rw [if_pos hname.isInked, hname.trim_eq_self, hname.styleName_eq]
      simp only [bind, Except.bind, hfind, hchecked]
      rfl
    · next hother => exact absurd rfl (hother name)
  · -- both lists lose one occurrence of the canonical name
    have hmap : (tags.eraseP (·.name = canonical name)).map Tag.name =
        (tags.map Tag.name).erase (canonical name) := by
      rw [List.erase_eq_eraseP, List.eraseP_map]
      exact congrArg (fun q => (tags.eraseP q).map Tag.name) (funext fun t => by
        simp [beq_eq_decide, eq_comm])
    have hstyles : (styles.map canonical).Perm
        (canonical name :: (styles.erase name).map canonical) :=
      (List.perm_cons_erase hopen).map canonical
    rw [hmap]
    refine ((h.names.trans hstyles).erase (canonical name)).trans ?_
    rw [List.erase_cons_head]
  · exact h.parameters t (List.mem_of_mem_eraseP ht)

end Stands

/-! ## Balanced texts are printed -/

theorem escapedTag_of_isStyle {name : List Char} (h : IsStyle name) (n : Nat) :
    escapedTag n 0 name = [.tag ⟨name, none, n⟩] := by
  simp [escapedTag, cut_of_not_mem (h.not_mem (d := '=') (by decide))]

theorem escapedTag_closing {name : List Char} (h : IsStyle name) (n : Nat) :
    escapedTag n 0 ('/' :: name) = [.tag ⟨'/' :: name, none, n⟩] := by
  have hnone : '=' ∉ '/' :: name := by
    simpa using h.not_mem (d := '=') (by decide)
  simp [escapedTag, cut_of_not_mem hnone]

theorem IsBalanced.exists_remains {styles : List (List Char)} {cs : List Char}
    (h : IsBalanced styles cs) {tags : List Tag} (htags : Stands tags styles) (n : Nat)
    (before : List Char) : ∃ ds, remains tags (piecesAfter 0 n before cs) = .ok ds := by
  -- Induction on the balanced text: at each tag the open tags stand for the open styles.
  induction h generalizing tags n before with
  | bare hcs =>
    have hpieces := piecesAfter_of_isBare hcs n before []
    rw [List.append_nil] at hpieces
    rw [hpieces, piecesAfter, ← List.append_nil (textPiece _)]
    exact remains_textPiece tags _ [] ⟨[], rfl⟩
  | opening hcs hname _ ih =>
    rw [piecesAfter_of_isBare hcs, piecesAfter_tag hname.isInner, escapedTag_of_isStyle hname,
      List.append_assoc]
    obtain ⟨tags', hopen, htags'⟩ := htags.openTags_opening hname _
    exact remains_textPiece _ _ _ (remains_tag hopen (ih htags' _ _))
  | closing hcs hname hopen _ ih =>
    rw [piecesAfter_of_isBare hcs, piecesAfter_tag hname.isInner_closing, escapedTag_closing hname,
      List.append_assoc]
    obtain ⟨tags', hclose, htags'⟩ := htags.openTags_closing hname hopen _
    exact remains_textPiece _ _ _ (remains_tag hclose (ih htags' _ _))

/-- The console of this library prints every text with balanced tags. -/
theorem honours_unmarked : Reading.Honours unmarked := by
  intro cs h
  rw [unmarked]
  split
  · have hnone : Stands [] [] := { names := .nil, parameters := List.forall_mem_nil _ }
    exact h.exists_remains hnone 0 []
  · exact ⟨_, rfl⟩

end SequenceApi.Markup
