import Mathlib.Data.List.TakeWhile
import SequenceApi.Text.Blank

/-!
# Padded texts

Blanks around a text are for the reader's eye. A text that is padded with them has the trimmed form
that it has without them, and a text of blanks alone has none.

## Main definitions

* `IsPadded`: a text with blanks around it

## Main results

* `Text.skipBlanks_append_of_blank`, `Text.trim_append_of_blank`: blanks in front and behind
* `Text.trim_eq_nil_iff`: nothing is left of blanks alone
* `IsPadded.trim_eq`: padding is trimmed away
-/

namespace SequenceApi

open Text

namespace Text

theorem skipBlanks_of_blank {cs : List Char} (h : ∀ c ∈ cs, isBlank c = true) :
    skipBlanks cs = [] :=
  List.dropWhile_eq_nil_iff.2 h

theorem skipBlanks_append_of_blank {front : List Char} (h : ∀ c ∈ front, isBlank c = true)
    (cs : List Char) : skipBlanks (front ++ cs) = skipBlanks cs := by
  rw [skipBlanks, List.dropWhile_append_of_pos h, skipBlanks]

theorem trimRight_append_of_blank {back : List Char} (h : ∀ c ∈ back, isBlank c = true)
    (cs : List Char) : trimRight (cs ++ back) = trimRight cs := by
  rw [trimRight, List.reverse_append, skipBlanks_append_of_blank (by simpa using h), trimRight]

theorem trim_append_of_blank {back : List Char} (h : ∀ c ∈ back, isBlank c = true)
    (cs : List Char) : trim (cs ++ back) = trim cs := by
  rw [trim, skipBlanks, List.dropWhile_append]
  split
  · next hempty =>
    -- nothing but blanks on both sides
    have hnil : skipBlanks cs = [] := List.isEmpty_iff.1 hempty
    rw [trim, hnil]
    exact congrArg trimRight (skipBlanks_of_blank h)
  · exact trimRight_append_of_blank h _

theorem trim_eq_nil_iff {cs : List Char} : trim cs = [] ↔ ∀ c ∈ cs, isBlank c = true := by
  constructor
  · intro h c hc
    rw [trim, trimRight, List.reverse_eq_nil_iff, skipBlanks, List.dropWhile_eq_nil_iff] at h
    rw [← List.takeWhile_append_dropWhile (p := isBlank) (l := cs), List.mem_append] at hc
    rcases hc with hc | hc
    · exact List.mem_takeWhile_imp hc
    · exact h c (List.mem_reverse.2 hc)
  · intro h
    rw [trim, skipBlanks_of_blank h]
    rfl

end Text

/-- The line `m` is the line `l` with blanks around it. -/
def IsPadded (l m : List Char) : Prop :=
  ∃ front back, (∀ c ∈ front, isBlank c = true) ∧ (∀ c ∈ back, isBlank c = true) ∧
    m = front ++ l ++ back

theorem IsPadded.trim_eq {l m : List Char} (h : IsPadded l m) : trim m = trim l := by
  obtain ⟨front, back, hfront, hback, rfl⟩ := h
  rw [trim_append_of_blank hback, trim, skipBlanks_append_of_blank hfront, trim]

theorem isPadded_of_all (front back : List Char) (hfront : front.all isBlank = true)
    (hback : back.all isBlank = true) (l : List Char) : IsPadded l (front ++ l ++ back) :=
  ⟨front, back, List.all_eq_true.1 hfront, List.all_eq_true.1 hback, rfl⟩

end SequenceApi
