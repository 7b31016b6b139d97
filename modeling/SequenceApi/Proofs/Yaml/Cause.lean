import SequenceApi.Proofs.Contract
import SequenceApi.Proofs.Json.Limits
import SequenceApi.Yaml.Content

/-!
# Causes of errors

Whatever stops the reader of a YAML text at an error has a cause in the text. Places of a text are
compared by what follows them: a place comes behind another one if its rest is a part of the rest
there. A cause that is found in the rest of a text is therefore one of the whole text.

## Main definitions

* `Cursor.Follows`: a place behind another one
* `HasPlain`, `HasTag`: a scalar without quotes, and a tag, at some place of a text
* `IsOfTag`: the errors of values that a tag declares
* `Cause`: what a text has where the reader stops

## Main results

* `Cause.mono`: causes in a part of a text
* `Cursor.follows_skip`, `Cursor.follows_lineBreak?`, `Cursor.follows_endLine?`: places further on
-/

namespace SequenceApi.Yaml

open Text

/-! ## Places -/

namespace Cursor

variable {c c' c'' : Cursor}

/-- The text from a place on is an end of the text from another one on. -/
def Follows (c' c : Cursor) : Prop :=
  c'.rest <:+ c.rest

theorem Follows.refl (c : Cursor) : c.Follows c :=
  List.suffix_rfl

theorem Follows.trans (h : c'.Follows c) (h' : c''.Follows c') : c''.Follows c :=
  List.IsSuffix.trans h' h

theorem advance_rest (c : Cursor) : c.advance.rest = c.rest.tail := by
  unfold advance
  split
  · next h => rw [h]; rfl
  · next h =>
    rw [h]
    split <;> rfl

theorem skip_rest (n : Nat) (c : Cursor) : (c.skip n).rest = c.rest.drop n := by
  induction n generalizing c with
  | zero => rfl
  | succ n ih => rw [skip, ih, advance_rest, List.drop_tail]

/-- A character that is no null character stands at the place. -/
theorem rest_eq_cons (h : c.next ≠ '\x00') : c.rest = c.next :: c.advance.rest := by
  rw [advance_rest]
  cases hrest : c.rest with
  | nil =>
    rw [next, hrest] at h
    exact absurd rfl h
  | cons ch rest =>
    rw [next, hrest]
    rfl

theorem follows_advance (c : Cursor) : c.advance.Follows c := by
  rw [Follows, advance_rest]
  exact List.tail_suffix c.rest

theorem follows_skip (n : Nat) (c : Cursor) : (c.skip n).Follows c := by
  rw [Follows, skip_rest]
  exact List.drop_suffix n c.rest

theorem follows_skipRun (p : Char → Bool) (c : Cursor) : (c.skipRun p).Follows c :=
  follows_skip _ c

theorem follows_lineBreak? {b : Char} (h : c.lineBreak? = some (b, c')) : c'.Follows c := by
  unfold lineBreak? at h
  split at h
  · obtain ⟨-, rfl⟩ := Prod.mk.inj (Option.some.inj h)
    exact follows_skip 2 c
  · split at h
    · obtain ⟨-, rfl⟩ := Prod.mk.inj (Option.some.inj h)
      exact follows_advance c
    · split at h
      · obtain ⟨-, rfl⟩ := Prod.mk.inj (Option.some.inj h)
        exact follows_advance c
      · cases h
  · cases h

/-- The place after a comment perhaps. -/
theorem follows_skipComment (c : Cursor) :
    (if c.next == '#' then c.skipLine else c).Follows c := by
  split
  · exact follows_skipRun _ c
  · exact .refl c

theorem follows_endLine? (h : c.endLine? = some c') : c'.Follows c := by
  have hcomment := (follows_skipRun isSpace c).trans (follows_skipComment _)
  simp only [endLine?] at h
  generalize (if (c.skipRun isSpace).next == '#' then (c.skipRun isSpace).skipLine
    else c.skipRun isSpace) = d at h hcomment
  split at h
  · obtain rfl := Option.some.inj h
    cases hbreak : d.lineBreak? with
    | none => exact hcomment
    | some r => exact hcomment.trans (follows_lineBreak? hbreak)
  · cases h

end Cursor

/-! ## Causes -/

/-- A character that may begin a collection: an opening bracket, or the mark of an item, of a key or
of a value. -/
def isMark (c : Char) : Bool :=
  c == '[' || c == '\x7b' || c == '-' || c == '?' || c == ':'

/-- At some place of a text, a scalar without quotes can be read. -/
def HasPlain (cs : List Char) (text : String) : Prop :=
  ∃ flow indent c, c.rest <:+ cs ∧ String.ofList (plainText flow indent c).text = text

/-- At some place of a text, a tag can be read behind an exclamation mark. -/
def HasTag (cs : List Char) : Prop :=
  ∃ c handle suffix after, c.rest <:+ cs ∧ c.next = '!' ∧
    tagToken c = .ok (.tag handle suffix, after)

/-- The errors of values that a tag declares: the text has no such value, or the node has no text,
or the default values of mappings never come to one. -/
inductive IsOfTag : ReadError → Prop where
  | value {tag : Tag} {text : String} {e : ReadError} (h : Atom.ofText tag text = .error e) :
    IsOfTag e
  | noStampText : IsOfTag .noStampText
  | tooDeep : IsOfTag .tooDeep

/-- What a text has where its reader stops at an error: nothing special where it does not follow the
grammar; so many marks that collections can nest too deep; an escape of a code that is too great;
too many digits in a row; a scalar without quotes that has no value of the form that it has; or a
tag, which can declare a value of any form. -/
inductive Cause (cs : List Char) : ReadError → Prop where
  | malformed : Cause cs .malformed
  | tooDeep (h : Grammar.deepest < 2 * cs.countP isMark) : Cause cs .tooDeep
  | noCharacter {letter : Char} {ds : List Char} {code : Nat} (hds : '\\' :: letter :: ds <:+: cs)
      (hlength : codeLength? letter = some ds.length) (hcode : hexNumber ds = some code)
      (h : 0x10FFFF < code) : Cause cs (.noCharacter code)
  | longInt {n : Nat} (h : Text.longestInteger < n) (hrun : Json.IsDigitRun n cs) :
      Cause cs (.longInt n)
  | plain {text : String} {e : ReadError} (h : HasPlain cs text)
      (he : Atom.ofText (.form (Form.ofPlain text.toList)) text = .error e) : Cause cs e
  | tag {e : ReadError} (h : HasTag cs) (he : IsOfTag e) : Cause cs e

section

variable {cs cs' : List Char}

theorem HasPlain.mono {text : String} (h : HasPlain cs text) (hcs : cs <:+ cs') :
    HasPlain cs' text := by
  obtain ⟨flow, indent, c, hc, htext⟩ := h
  exact ⟨flow, indent, c, hc.trans hcs, htext⟩

theorem HasTag.mono (h : HasTag cs) (hcs : cs <:+ cs') : HasTag cs' := by
  obtain ⟨c, handle, suffix, after, hc, hread⟩ := h
  exact ⟨c, handle, suffix, after, hc.trans hcs, hread⟩

theorem countP_isMark_le (hcs : cs <:+ cs') : cs.countP isMark ≤ cs'.countP isMark :=
  hcs.sublist.countP_le

/-- A cause in the rest of a text is one of the text. -/
theorem Cause.mono {e : ReadError} (h : Cause cs e) (hcs : cs <:+ cs') : Cause cs' e := by
  cases h with
  | malformed => exact .malformed
  | tooDeep h =>
    have hle := countP_isMark_le hcs
    exact .tooDeep (by omega)
  | noCharacter hds hlength hcode h => exact .noCharacter (hds.trans hcs.isInfix) hlength hcode h
  | longInt h hrun => exact .longInt h (hrun.mono hcs.isInfix)
  | plain h he => exact .plain (h.mono hcs) he
  | tag h he => exact .tag (h.mono hcs) he

end

end SequenceApi.Yaml
