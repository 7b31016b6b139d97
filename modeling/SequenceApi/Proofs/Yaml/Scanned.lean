import SequenceApi.Proofs.Yaml.Cause

/-!
# Scalars and names at a place

What is read at a place ends at a place behind it, or there is a cause of the error in the text from
the place on.

## Main definitions

* `Reads`: what is read at a place, with the place after it

## Main results

* `follows_plainText`, `reads_quotedText`, `reads_blockText`: scalars
* `reads_anchorName`, `reads_tagToken`, `reads_directive`: names, tags and directives
-/

namespace SequenceApi.Yaml

open Cursor

variable {α β : Type} {c c' : Cursor}

/-- What is read at a place ends behind it, and an error has a cause in the text from there on. -/
def Reads (c : Cursor) (r : Except ReadError α) (after : α → Cursor) : Prop :=
  Meets (Cause c.rest) r fun a => (after a).Follows c

namespace Reads

variable {r : Except ReadError α} {after : α → Cursor}

theorem malformed : Reads c (.error .malformed) after :=
  Cause.malformed

/-- What is read at a place further on. -/
theorem behind (h : Reads c' r after) (hc : c'.Follows c) : Reads c r after :=
  Meets.mono_error (Meets.mono h fun _ ha => hc.trans ha) fun _ he => he.mono hc

theorem map {f : α → β} {after' : β → Cursor} (h : Reads c r after)
    (hf : ∀ a, (after' (f a)).Follows (after a)) : Reads c (r.map f) after' :=
  Meets.map h fun a ha => ha.trans (hf a)

/-- One thing after another. -/
theorem bind {f : α → Except ReadError β} {after' : β → Cursor} (h : Reads c r after)
    (hf : ∀ a, Reads (after a) (f a) after') : Reads c (r >>= f) after' :=
  Meets.bind h fun a ha => (hf a).behind ha

end Reads

/-! ## Without quotes -/

theorem follows_plainBreaks (n : Nat) (c : Cursor) : (plainBreaks n c).2.Follows c := by
  induction n generalizing c with
  | zero => exact .refl c
  | succ n ih =>
    have hspace := follows_skipRun isSpace c
    simp only [plainBreaks]
    split
    · exact hspace
    · next b d hbreak =>
      have hd := hspace.trans (follows_lineBreak? hbreak)
      split
      · exact hd
      · exact hd.trans (ih d)

theorem follows_gap (c : Cursor) : (gap c).after.Follows c := by
  have hblanks := follows_skip (c.run isSpace).length c
  simp only [gap]
  split
  · exact hblanks
  · next b d hbreak =>
    have hd := hblanks.trans (follows_lineBreak? hbreak)
    have hbreaks := hd.trans (follows_plainBreaks d.rest.length d)
    split
    · exact hd
    · split
      · next heq =>
        rw [heq] at hbreaks
        exact hbreaks
      · next heq =>
        rw [heq] at hbreaks
        exact hbreaks

theorem follows_plainWords (flow : Bool) (indent n : Nat) (before : List Char) (c : Cursor)
    (crossed : Bool) : (plainWords flow indent n before c crossed).after.Follows c := by
  induction n generalizing before c crossed with
  | zero => exact .refl c
  | succ n ih =>
    simp only [plainWords]
    generalize (if c.next == '#' then 0 else plainLength flow c.rest) = length
    split
    · exact .refl c
    · have hgap := (follows_skip length c).trans (follows_gap (c.skip length))
      split
      · exact hgap
      · exact hgap.trans (ih _ _ _)

theorem follows_plainText (flow : Bool) (indent : Nat) (c : Cursor) :
    (plainText flow indent c).after.Follows c :=
  follows_plainWords flow indent _ _ c false

/-! ## Between quotes -/

theorem reads_quotedBreaks (n : Nat) (c : Cursor) : Reads c (quotedBreaks n c) Prod.snd := by
  induction n generalizing c with
  | zero => exact Follows.refl c
  | succ n ih =>
    have hgaps := follows_skipRun Stamp.isGap c
    simp only [quotedBreaks]
    split
    · exact .malformed
    · split
      · exact hgaps
      · next b d hbreak =>
        exact ((ih d).behind (hgaps.trans (follows_lineBreak? hbreak))).map fun _ => .refl _

theorem reads_quotedGap (c : Cursor) : Reads c (quotedGap c) Prod.snd := by
  have hblanks := follows_skip (c.run Stamp.isGap).length c
  simp only [quotedGap]
  split
  · exact hblanks
  · next b d hbreak =>
    exact ((reads_quotedBreaks _ d).behind (hblanks.trans (follows_lineBreak? hbreak))).map
      fun _ => .refl _

/-- An escape, where the place is behind its backslash. -/
theorem meets_escapeAt (c : Cursor) :
    Meets (Cause ('\\' :: c.rest)) (escapeAt c) fun r => r.2.Follows c := by
  unfold escapeAt
  split
  · exact follows_advance c
  · next n _ hletter =>
    dsimp only
    have hnull : c.next ≠ '\x00' := by
      intro h
      rw [h] at hletter
      cases hletter
    split
    · next code hcode =>
      split
      · exact Cause.malformed
      · next hlength =>
        have htake : (c.advance.rest.take n).length = n :=
          List.length_take_of_le (Nat.le_of_not_lt hlength)
        split
        · next hgreat =>
          refine Cause.noCharacter ?_ (hletter.trans (congrArg some htake.symm)) hcode hgreat
          rw [rest_eq_cons hnull]
          exact ⟨[], c.advance.rest.drop n, by simp⟩
        · exact (follows_advance c).trans (follows_skip n _)
    · exact Cause.malformed
  · split
    · next b d hbreak =>
      have hd := follows_lineBreak? hbreak
      exact ((reads_quotedBreaks _ d).behind hd).mono_error fun e he => he.mono
        (List.suffix_cons '\\' c.rest)
    · exact Cause.malformed

theorem reads_quotedChars (double : Bool) (n : Nat) (c : Cursor) :
    Reads c (quotedChars double n c) Scanned.after := by
  induction n generalizing c with
  | zero => exact .malformed
  | succ n ih =>
    have hmore : ∀ (cs : List Char) (d : Cursor), d.Follows c →
        Reads c ((quotedChars double n d).map fun s => { s with text := cs ++ s.text })
          Scanned.after :=
      fun cs d hd => ((ih d).behind hd).map fun _ => .refl _
    simp only [quotedChars]
    generalize (if double then '\x22' else '\x27') = quote
    split
    · exact .malformed
    · next ch rest hrest =>
      -- A doubled quote, the quote at the end, an escape, a gap, and any other character.
      split
      · exact hmore _ _ (follows_skip 2 c)
      · split
        · exact follows_advance c
        · split
          · next hslash =>
            have hslash : ch = '\\' := by
              simp only [Bool.and_eq_true, beq_iff_eq] at hslash
              exact hslash.2
            have hescape := meets_escapeAt c.advance
            rw [advance_rest, hrest, List.tail_cons, ← hslash, ← hrest] at hescape
            split
            · next cs d heq =>
              rw [heq] at hescape
              exact hmore cs d ((follows_advance c).trans hescape)
            · next e heq =>
              rw [heq] at hescape
              exact hescape
          · split
            · have hgap := reads_quotedGap c
              split
              · next cs d heq =>
                rw [heq] at hgap
                exact hmore cs d hgap
              · next e heq =>
                rw [heq] at hgap
                exact hgap
            · exact hmore _ _ (follows_advance c)

theorem reads_quotedText (c : Cursor) : Reads c (quotedText c) Scanned.after :=
  (reads_quotedChars _ _ c.advance).behind (follows_advance c)

/-! ## Blocks of lines -/

theorem reads_blockHeader (c : Cursor) : Reads c (blockHeader c) fun r => r.2.2 := by
  have hone := follows_advance c
  have htwo := hone.trans (follows_advance c.advance)
  unfold blockHeader
  extract_lets further read
  have hread : read.2.2.Follows c := by
    unfold read
    split
    · split
      · exact htwo
      · exact hone
    · split
      · exact htwo
      · exact hone
    · exact .refl c
  -- What comes after the sign and the digit does not depend on which of them are there.
  clear_value read
  obtain ⟨chomping, increment, d⟩ := read
  dsimp only
  split
  · exact .malformed
  · split
    · exact .malformed
    · split
      · next hend => exact hread.trans (follows_endLine? hend)
      · exact .malformed

theorem follows_leadingBreaks (n widest : Nat) (c : Cursor) :
    (leadingBreaks n widest c).2.2.Follows c := by
  induction n generalizing widest c with
  | zero => exact .refl c
  | succ n ih =>
    have hspace := follows_skipRun isSpace c
    simp only [leadingBreaks]
    split
    · exact hspace
    · next b d hbreak => exact (hspace.trans (follows_lineBreak? hbreak)).trans (ih _ d)

theorem follows_blockBreaks (indent n : Nat) (c : Cursor) :
    (blockBreaks indent n c).2.Follows c := by
  induction n generalizing c with
  | zero => exact .refl c
  | succ n ih =>
    have hspace := follows_skip (min (indent - c.column) (c.run isSpace).length) c
    simp only [blockBreaks]
    split
    · exact hspace
    · next b d hbreak => exact (hspace.trans (follows_lineBreak? hbreak)).trans (ih d)

theorem follows_blockLines (folded : Bool) (indent n : Nat) (breaks : List Char) (c : Cursor) :
    (blockLines folded indent n breaks c).after.Follows c := by
  induction n generalizing breaks c with
  | zero => exact .refl c
  | succ n ih =>
    have hline := follows_skip (c.run fun ch => !isLineEnd ch).length c
    simp only [blockLines]
    split
    · exact .refl c
    · split
      · next b d hbreak =>
        have hd := hline.trans (follows_lineBreak? hbreak)
        split
        · exact (hd.trans (follows_blockBreaks indent _ d)).trans (ih _ _)
        · exact hd.trans (follows_blockBreaks indent _ d)
      · split
        · exact (hline.trans (follows_blockBreaks indent _ _)).trans (ih _ _)
        · exact hline.trans (follows_blockBreaks indent _ _)

theorem reads_blockText (least : Nat) (c : Cursor) :
    Reads c (blockText least c) Scanned.after := by
  have hheader := (reads_blockHeader c.advance).behind (follows_advance c)
  unfold blockText
  split
  · next e heq =>
    rw [heq] at hheader
    exact hheader
  · next chomping increment after heq =>
    rw [heq] at hheader
    refine Follows.trans ?start (follows_blockLines _ _ _ _ _)
    cases increment with
    | some n => exact hheader.trans (follows_blockBreaks _ _ after)
    | none => exact hheader.trans (follows_leadingBreaks _ _ after)

/-! ## Names and tags -/

theorem reads_name? (c : Cursor) : Reads c (name? c) Prod.snd := by
  simp only [name?]
  split
  · exact .malformed
  · exact follows_skip _ c

theorem reads_anchorName (c : Cursor) : Reads c (anchorName c) Prod.snd := by
  refine ((reads_name? c.advance).behind (follows_advance c)).bind fun r => ?_
  dsimp only
  split
  · exact Follows.refl _
  · exact .malformed

theorem reads_escapedBytes (n : Nat) (c : Cursor) : Reads c (escapedBytes n c) Prod.snd := by
  induction n generalizing c with
  | zero => exact Follows.refl c
  | succ n ih =>
    rw [escapedBytes]
    split
    · split
      · exact ((ih _).behind (follows_skip 3 c)).map fun _ => .refl _
      · exact .malformed
    · exact Follows.refl c

theorem reads_tagChars (n : Nat) (c : Cursor) : Reads c (tagChars n c) Prod.snd := by
  induction n generalizing c with
  | zero => exact Follows.refl c
  | succ n ih =>
    have hrun := follows_skip (c.run isTagChar).length c
    simp only [tagChars]
    split
    · refine ((reads_escapedBytes _ _).behind hrun).bind fun r => ?_
      split
      · exact .malformed
      · exact (ih _).map fun _ => .refl _
    · exact hrun

theorem reads_tagText (c : Cursor) : Reads c (tagText c) Prod.snd := by
  have hchars := reads_tagChars (c.rest.length + 1) c
  unfold tagText
  split
  · next heq =>
    rw [heq] at hchars
    exact hchars
  · next heq =>
    rw [heq] at hchars
    split
    · exact .malformed
    · exact hchars

theorem reads_tagHandle (c : Cursor) : Reads c (tagHandle c) Prod.snd := by
  simp only [tagHandle]
  split
  · exact .malformed
  · split
    · exact follows_advance c
    · split
      · exact (follows_skip _ c).trans (follows_advance _)
      · exact .malformed

theorem reads_tagToken (c : Cursor) : Reads c (tagToken c) Prod.snd := by
  have hend : ∀ (handle : Option String) (suffix : String) (d : Cursor),
      Reads d (if endsTag d.next then .ok (Token.tag handle suffix, d) else .error .malformed)
        Prod.snd := by
    intro handle suffix d
    split
    · exact Follows.refl d
    · exact .malformed
  have hsuffix : ∀ (handle : String) (d : Cursor),
      Reads d (tagText d >>= fun r => if endsTag r.2.next then
        .ok (Token.tag (some handle) r.1, r.2) else .error .malformed) Prod.snd :=
    fun handle d => (reads_tagText d).bind fun r => hend _ _ _
  unfold tagToken
  dsimp only
  split
  · refine ((reads_tagText _).behind (follows_skip 2 c)).bind fun r => ?_
    split
    · exact (hend _ _ _).behind (follows_advance _)
    · exact .malformed
  · split
    · exact (hend _ _ _).behind (follows_advance c)
    · split
      · exact (reads_tagHandle c).bind fun r => hsuffix _ _
      · exact (hsuffix _ _).behind (follows_advance c)

/-! ## Directives -/

theorem reads_figures? (c : Cursor) : Reads c (figures? c) Prod.snd := by
  simp only [figures?]
  split
  · exact .malformed
  · split
    · next hlong =>
      refine Cause.longInt hlong ⟨_, (List.takeWhile_prefix Json.isDigit).isInfix, rfl, ?_⟩
      exact fun d hd => List.mem_takeWhile_imp hd
    · exact follows_skip _ c

theorem reads_directive (c : Cursor) : Reads c (directive c) Prod.snd := by
  -- Whatever the directive is, the line must end behind it.
  have hend : ∀ (x : Directive × Cursor) {k : Directive × Cursor → _},
      (∀ y, k y = y.2.endLine?.elim (.error .malformed) fun c => .ok (y.1, c)) →
      Reads x.2 (.ok x >>= k) Prod.snd := by
    intro x k hk
    show Reads x.2 (k x) Prod.snd
    rw [hk]
    cases hline : x.2.endLine? with
    | none => exact .malformed
    | some c => exact follows_endLine? hline
  unfold directive
  refine ((reads_name? c.advance).behind (follows_advance c)).bind fun r => ?_
  dsimp only
  split
  · exact .malformed
  · split
    · refine ((reads_figures? _).behind (follows_skipRun isSpace r.2)).bind fun major => ?_
      split
      · exact .malformed
      · refine ((reads_figures? _).behind (follows_advance major.2)).bind fun minor => ?_
        split
        · exact .malformed
        · exact hend (.version major.1 minor.1, minor.2) fun y => by cases y.2.endLine? <;> rfl
    · split
      · refine ((reads_tagHandle _).behind (follows_skipRun isSpace r.2)).bind fun handle => ?_
        split
        · exact .malformed
        · refine ((reads_tagText _).behind (follows_skipRun isSpace handle.2)).bind fun t => ?_
          split
          · exact .malformed
          · exact hend (.tag handle.1 t.1, t.2) fun y => by cases y.2.endLine? <;> rfl
      · exact (hend (.other, r.2.skipLine) fun y => by cases y.2.endLine? <;> rfl).behind
          (follows_skipRun _ r.2)

end SequenceApi.Yaml
