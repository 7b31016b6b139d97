/-!
# Blank characters

The white space of Unicode as the notation uses it: lines and fields are trimmed of it on both
sides, and words are the runs between it. The line feed is blank too.

## Main definitions

* `isBlank`: the twenty-nine blank characters
* `skipBlanks`, `trimRight`, `trim`: a text without its outer blanks
* `word`, `afterWord`: the leading run of characters that are not blank, and the rest

## Main results

* `word_append_afterWord`: nothing is lost at the end of a word
* `word_append`: a word goes up to the next blank
* `trim_eq_self`: a text that neither starts nor ends with a blank is trimmed already
-/

namespace SequenceApi.Text

/-- The blank characters: the control blanks, the space, and the Unicode separators. -/
def isBlank (c : Char) : Bool :=
  let n := c.toNat
  (9 ≤ n && n ≤ 13) || (28 ≤ n && n ≤ 32) || n == 0x85 || n == 0xA0 || n == 0x1680 ||
    (0x2000 ≤ n && n ≤ 0x200A) || n == 0x2028 || n == 0x2029 || n == 0x202F || n == 0x205F ||
    n == 0x3000

/-- Some character that is not blank occurs in the text. -/
def isInked (cs : List Char) : Bool :=
  cs.any fun c => !isBlank c

/-- The text after its leading blanks. -/
def skipBlanks (cs : List Char) : List Char :=
  cs.dropWhile isBlank

/-- The text before its trailing blanks. -/
def trimRight (cs : List Char) : List Char :=
  (skipBlanks cs.reverse).reverse

/-- The text without leading and trailing blanks. -/
def trim (cs : List Char) : List Char :=
  trimRight (skipBlanks cs)

/-- The leading run of characters that are not blank. -/
def word (cs : List Char) : List Char :=
  cs.takeWhile fun c => !isBlank c

/-- What follows the leading run of characters that are not blank. -/
def afterWord (cs : List Char) : List Char :=
  cs.dropWhile fun c => !isBlank c

/-! ## Words -/

theorem word_append_afterWord (cs : List Char) : word cs ++ afterWord cs = cs :=
  List.takeWhile_append_dropWhile

theorem isBlank_of_mem_word {c : Char} {cs : List Char} (h : c ∈ word cs) : isBlank c = false := by
  induction cs with
  | nil => simp [word] at h
  | cons d ds ih =>
    cases hd : isBlank d with
    | true => simp [word, hd] at h
    | false =>
      rw [word, List.takeWhile_cons, hd] at h
      rcases List.mem_cons.1 h with rfl | h
      · exact hd
      · exact ih h

/-- A word goes up to the next blank or to the end. -/
theorem word_append {w : List Char} (hw : ∀ c ∈ w, isBlank c = false) (rest : List Char)
    (hrest : ∀ c ∈ rest.head?, isBlank c = true) : word (w ++ rest) = w := by
  rw [word, List.takeWhile_append_of_pos (by simpa using hw)]
  cases rest with
  | nil => simp
  | cons c rest => simp [hrest c rfl]

theorem afterWord_append {w : List Char} (hw : ∀ c ∈ w, isBlank c = false) (rest : List Char)
    (hrest : ∀ c ∈ rest.head?, isBlank c = true) : afterWord (w ++ rest) = rest := by
  rw [afterWord, List.dropWhile_append_of_pos (by simpa using hw)]
  cases rest with
  | nil => rfl
  | cons c rest => simp [hrest c rfl]

/-! ## Trimming -/

@[simp] theorem skipBlanks_nil : skipBlanks [] = [] := rfl

@[simp] theorem trim_nil : trim [] = [] := rfl

theorem skipBlanks_cons_of_blank {c : Char} {cs : List Char} (h : isBlank c = true) :
    skipBlanks (c :: cs) = skipBlanks cs := by
  simp [skipBlanks, h]

theorem skipBlanks_cons_of_ink {c : Char} {cs : List Char} (h : isBlank c = false) :
    skipBlanks (c :: cs) = c :: cs := by
  simp [skipBlanks, h]

/-- A text that starts with no blank and ends with none is its own trimmed form. -/
theorem trim_eq_self {cs : List Char} (hl : ∀ c ∈ cs.head?, isBlank c = false)
    (hr : ∀ c ∈ cs.getLast?, isBlank c = false) : trim cs = cs := by
  cases cs with
  | nil => rfl
  | cons c ds =>
    have hc : isBlank c = false := hl c rfl
    rw [trim, skipBlanks_cons_of_ink hc, trimRight]
    cases hrev : (c :: ds).reverse with
    | nil => simp at hrev
    | cons e es =>
      have he : isBlank e = false := by
        refine hr e ?_
        rw [← List.head?_reverse, hrev]
        rfl
      rw [skipBlanks_cons_of_ink he, ← hrev, List.reverse_reverse]

/-! ## Texts without blanks -/

theorem skipBlanks_of_ink {w : List Char} (hw : ∀ c ∈ w, isBlank c = false) :
    skipBlanks w = w := by
  cases w with
  | nil => rfl
  | cons c w => exact skipBlanks_cons_of_ink (hw c List.mem_cons_self)

theorem trim_of_ink {w : List Char} (hw : ∀ c ∈ w, isBlank c = false) : trim w = w :=
  trim_eq_self (fun c hc => hw c (List.mem_of_mem_head? hc))
    fun c hc => hw c (List.mem_of_getLast? hc)

end SequenceApi.Text
