import Mathlib.Data.List.Forall2
import SequenceApi.Diagram.Check

/-!
# Words for methods

The lenient reader takes any word that is a method's name when case is ignored, and refuses the
text if its lower case is no name. The strict check takes any word of ASCII letters and looks up its
lower case. Both accept the same words.

## Main results

* `Text.isKeyword_iff`: a keyword is matched letter by letter
* `Text.mem_lower`: what becomes of a character in lower case
* `Method.isWord_of_name`, `Method.isLetter_of_isWord`: the two classes of words agree on names
-/

namespace SequenceApi

namespace Text

theorem dropLetters?_eq_nil_iff {ps cs : List Char} :
    dropLetters? ps cs = some [] ↔ List.Forall₂ (fun p c => sameLetter p c = true) ps cs := by
  induction ps generalizing cs with
  | nil => simp [dropLetters?]
  | cons p ps ih =>
    cases cs with
    | nil => simp [dropLetters?]
    | cons c cs => cases h : sameLetter p c <;> simp [dropLetters?, h, ih]

/-- A keyword is matched letter by letter. -/
theorem isKeyword_iff {w : String} {cs : List Char} :
    isKeyword w cs = true ↔ List.Forall₂ (fun p c => sameLetter p c = true) w.toList cs := by
  rw [isKeyword, beq_iff_eq, dropWord?, dropLetters?_eq_nil_iff]

theorem mem_lowerAfter_of_small {c : Char} (hi : c ≠ '\u0130') (hs : c ≠ '\u03a3')
    {cs : List Char} (h : c ∈ cs) (cased : Bool) : smallLetter c ∈ lowerAfter cased cs := by
  induction cs generalizing cased with
  | nil => simp at h
  | cons d ds ih =>
    rw [lowerAfter]
    rcases List.mem_cons.1 h with rfl | h
    · simp [hi, hs]
    · exact List.mem_append_right _ (ih h _)

theorem mem_lowerAfter_of_dotted {cs : List Char} (h : '\u0130' ∈ cs) (cased : Bool) :
    '\u0307' ∈ lowerAfter cased cs := by
  induction cs generalizing cased with
  | nil => simp at h
  | cons d ds ih =>
    rw [lowerAfter]
    rcases List.mem_cons.1 h with rfl | h
    · simp
    · exact List.mem_append_right _ (ih h _)

/-- A character comes into lower case as its small letter, unless it is one of the two capitals that
are special. -/
theorem mem_lower {c : Char} (hi : c ≠ '\u0130') (hs : c ≠ '\u03a3') {cs : List Char}
    (h : c ∈ cs) : smallLetter c ∈ lower cs :=
  mem_lowerAfter_of_small hi hs h false

/-- The dotted capital leaves its dot behind. -/
theorem mem_lower_of_dotted {cs : List Char} (h : '\u0130' ∈ cs) : '\u0307' ∈ lower cs :=
  mem_lowerAfter_of_dotted h false

end Text

namespace Method

open Text Check

/-- A small letter that occurs in the name of a method. -/
theorem name_letters (m : Method) : ∀ p ∈ m.name.toList, isLetter p ∧ p.toNat < 0x80 ∧ p ≠ 'k' := by
  cases m <;> simp [name, isLetter]

theorem toList_name_of_ofName? {s : String} {m : Method} (h : ofName? s = some m) :
    s = m.name := by
  have := List.find?_some h
  simpa [eq_comm] using this

theorem toNat_lt_of_isLetter {c : Char} (h : isLetter c = true) : c.toNat < 0x80 := by
  simp only [isLetter, Bool.or_eq_true, Bool.and_eq_true, decide_eq_true_eq] at h
  rcases h with ⟨_, h⟩ | ⟨_, h⟩
  · exact Nat.lt_of_le_of_lt (Char.le_def.1 h) (by decide)
  · exact Nat.lt_of_le_of_lt (Char.le_def.1 h) (by decide)

/-- A word of letters whose lower case is a method's name is a word for a method. -/
theorem isWord_of_name {w : List Char} (hl : w.all isLetter = true) {m : Method}
    (h : ofName? (String.ofList (lower w)) = some m) : isWord w = true := by
  have hascii : ∀ c ∈ w, c.toNat < 0x80 := fun c hc =>
    toNat_lt_of_isLetter (List.all_eq_true.1 hl c hc)
  have hname : m.name.toList = w.map Char.toLower := by
    rw [← toList_name_of_ofName? h, String.toList_ofList, lower_of_ascii hascii]
  refine List.any_eq_true.2 ⟨m, by cases m <;> decide, isKeyword_iff.2 ?_⟩
  rw [hname]
  exact List.forall₂_map_left_iff.2 (List.forall₂_same.2 fun c _ => by simp [sameLetter])

theorem isLetter_of_toLower {c : Char} (h : isLetter c.toLower = true) : isLetter c = true := by
  by_cases hc : 'A' ≤ c ∧ c ≤ 'Z'
  · simp [isLetter, hc]
  · have heq : c.toLower = c := dif_neg hc
    rwa [heq] at h

/-- The characters outside ASCII that a name's letter matches leave a character outside ASCII in
lower case, except the sign for degrees Kelvin, whose letter is in no name. -/
theorem isLetter_of_sameLetter {p c : Char} {w : List Char} (hw : c ∈ w)
    (hp : isLetter p = true ∧ p.toNat < 0x80 ∧ p ≠ 'k') (hc : sameLetter p c = true)
    (hlow : ∀ d ∈ lower w, d.toNat < 0x80) : isLetter c = true := by
  obtain ⟨hl, -, hk⟩ := hp
  simp only [sameLetter, Bool.or_eq_true, Bool.and_eq_true, beq_iff_eq] at hc
  rcases hc with (((rfl | rfl) | ⟨-, rfl | rfl⟩) | ⟨-, rfl⟩) | ⟨rfl, -⟩
  · exact hl
  · exact isLetter_of_toLower hl
  · exact absurd (hlow _ (mem_lower_of_dotted hw)) (by decide)
  · exact absurd (hlow _ (mem_lower (by decide) (by decide) hw)) (by decide)
  · exact absurd (hlow _ (mem_lower (by decide) (by decide) hw)) (by decide)
  · exact absurd rfl hk

/-- A word for a method whose lower case is a method's name consists of letters. -/
theorem isLetter_of_isWord {w : List Char} (hw : isWord w = true) {m : Method}
    (h : ofName? (String.ofList (lower w)) = some m) : w.all isLetter = true := by
  obtain ⟨m', -, hm⟩ := List.any_eq_true.1 hw
  have hlow : ∀ d ∈ lower w, d.toNat < 0x80 := by
    have hname : lower w = m.name.toList := by
      rw [← toList_name_of_ofName? h, String.toList_ofList]
    rw [hname]
    exact fun d hd => (name_letters m d hd).2.1
  refine List.all_eq_true.2 fun c hc => ?_
  obtain ⟨p, hp, hpc⟩ : ∃ p ∈ m'.name.toList, sameLetter p c = true := by
    obtain ⟨i, hi, rfl⟩ := List.mem_iff_getElem.1 hc
    have hf := isKeyword_iff.1 hm
    have hi' : i < m'.name.toList.length := by rwa [hf.length_eq]
    exact ⟨_, List.getElem_mem hi', hf.get hi' hi⟩
  exact isLetter_of_sameLetter hc (name_letters m' p hp) hpc hlow

end Method

end SequenceApi
