import SequenceApi.Json.Printer
import SequenceApi.Proofs.Json.Readable
import SequenceApi.Proofs.Number.Written
import SequenceApi.Text.Numeral

/-!
# Written integers

An integer that is written with ASCII digits, and with a minus in front if it is negative, is read
back as it is, as long as it has no more digits than an integer may have.

## Main results

* `Text.isBlank_of_isDigit`: no digit is a blank
* `Text.digitsValue_toDigits`: ASCII digits spell their number
* `Text.integer?_toString`: an integer is read back from its text
-/

namespace SequenceApi.Text

open Decimal (AreDigits areDigits_toDigits)

/-! ## Runs of digits -/

section

variable {c : Char} {ds : List Char}

theorem digitValue_of_asciiDigit (h : c.isDigit = true) : digitValue c = some (c.toNat - 48) := by
  have hrange : 48 ≤ c.toNat ∧ c.toNat ≤ 57 := Char.isDigit_iff_toNat.1 h
  -- the digits of ASCII are the first block
  have hfirst : digitZeros = 48 :: digitZeros.tail := rfl
  have hblock : (48 ≤ c.toNat && c.toNat < 48 + 10) = true := by
    simp only [Bool.and_eq_true, decide_eq_true_eq]
    omega
  rw [digitValue, hfirst, List.find?_cons, hblock]
  rfl

theorem isDigit_of_asciiDigit (h : c.isDigit = true) : isDigit c = true := by
  rw [isDigit, digitValue_of_asciiDigit h]
  rfl

/-- No digit of any script is blank. -/
theorem isBlank_of_isDigit (h : isDigit c = true) : isBlank c = false := by
  obtain ⟨d, hd⟩ := Option.isSome_iff_exists.1 h
  obtain ⟨z, hz, -⟩ := Option.map_eq_some_iff.1 hd
  have hmem := List.mem_of_find?_eq_some hz
  have hrange := List.find?_some hz
  simp only [Bool.and_eq_true, decide_eq_true_eq] at hrange
  -- the digits of a script are ten characters in a row, with no blank among them
  have hblocks : ∀ z ∈ digitZeros, (32 < z ∧ z + 10 ≤ 0x85) ∨ (0xA0 < z ∧ z + 10 ≤ 0x1680) ∨
      (0x1680 < z ∧ z + 10 ≤ 0x2000) ∨ 0x3000 < z := by decide
  have hz := hblocks z hmem
  simp only [isBlank, Bool.or_eq_false_iff, Bool.and_eq_false_iff, decide_eq_false_iff_not,
    beq_eq_false_iff_ne]
  omega

/-- A run of digits is taken to its end. -/
theorem moreDigits_of_areDigits (h : AreDigits ds) : moreDigits ds = (ds, []) := by
  -- Induction on the digits: behind each of them comes another one, or nothing.
  induction ds with
  | nil => rfl
  | cons c ds ih =>
    have hc := isDigit_of_asciiDigit (h c List.mem_cons_self)
    have hrest := ih fun d hd => h d (List.mem_cons_of_mem c hd)
    cases ds with
    | nil => rw [moreDigits, if_pos hc]
    | cons d ds => rw [moreDigits, if_pos hc, hrest]

theorem digitRun?_of_areDigits (h : AreDigits ds) (hne : ds ≠ []) :
    digitRun? ds = some (ds, []) := by
  cases ds with
  | nil => exact absurd rfl hne
  | cons c ds =>
    rw [digitRun?, if_pos (isDigit_of_asciiDigit (h c List.mem_cons_self)),
      moreDigits_of_areDigits h]

theorem digitsValue_of_areDigits (h : AreDigits ds) :
    digitsValue ds = Nat.ofDigitChars 10 ds 0 := by
  rw [digitsValue, Nat.ofDigitChars]
  apply List.foldl_ext
  intro n c hc
  rw [digitValue_of_asciiDigit (h c hc)]
  rfl

theorem digitsValue_toDigits (n : Nat) : digitsValue (Nat.toDigits 10 n) = n := by
  rw [digitsValue_of_areDigits (areDigits_toDigits n), Nat.ofDigitChars_ten_toDigits]

end

/-! ## Integers -/

section

variable {n : Int} {cs : List Char}

/-- Nothing is taken away from a text without blanks. -/
theorem withoutMargins_of_ink (h : ∀ c ∈ cs, isBlank c = false) : withoutMargins cs = cs := by
  have hmargin {ds : List Char} (hds : ∀ c ∈ ds, isBlank c = false) :
      ds.dropWhile isMargin = ds := by
    cases ds with
    | nil => rfl
    | cons c ds =>
      have hc : isMargin c = false := by
        rw [isMargin, hds c List.mem_cons_self]
        rfl
      rw [List.dropWhile_cons, hc]
      rfl
  rw [withoutMargins, hmargin h, hmargin fun c hc => h c (List.mem_reverse.1 hc),
    List.reverse_reverse]

theorem toList_toString (n : Int) : (toString n).toList = Json.intText n := by
  cases n with
  | ofNat m =>
    have hsign : ¬Int.ofNat m < 0 := by simp
    rw [Json.intText, if_neg hsign]
    exact Nat.toList_repr
  | negSucc m =>
    rw [Json.intText, if_pos (Int.negSucc_lt_zero m)]
    show ("-" ++ Nat.repr (m + 1)).toList = _
    rw [String.toList_append, Nat.toList_repr]
    rfl

theorem mem_intText {c : Char} (h : c ∈ Json.intText n) : c = '-' ∨ c.isDigit = true := by
  have hdigits := areDigits_toDigits n.natAbs
  rw [Json.intText] at h
  split at h
  · exact (List.mem_cons.1 h).imp_right (hdigits c)
  · exact .inr (hdigits c h)

theorem isBlank_of_mem_intText {c : Char} (h : c ∈ Json.intText n) : isBlank c = false := by
  rcases mem_intText h with rfl | h
  · decide
  · exact isBlank_of_isDigit (isDigit_of_asciiDigit h)

/-- No sign stands in front of the digits of a number. -/
theorem sign_toDigits (m : Nat) : sign (Nat.toDigits 10 m) = (false, Nat.toDigits 10 m) := by
  have hdigits := areDigits_toDigits m
  cases hm : Nat.toDigits 10 m with
  | nil => rfl
  | cons c cs =>
    have hc : c.isDigit = true := hdigits c (by rw [hm]; exact List.mem_cons_self)
    unfold sign
    split
    · next heq =>
      cases heq
      cases hc
    · next heq =>
      cases heq
      cases hc
    · rfl

theorem sign_intText (n : Int) :
    sign (Json.intText n) = (decide (n < 0), Nat.toDigits 10 n.natAbs) := by
  rw [Json.intText]
  by_cases hn : n < 0
  · rw [if_pos hn, decide_eq_true hn, sign]
  · rw [if_neg hn, decide_eq_false hn, sign_toDigits]

/-- An integer is read back from its text, if it is not too long. -/
theorem integer?_toString (h : Json.IsShort n) : integer? (toString n).toList = some n := by
  have hdigits : integerDigits? (Json.intText n) =
      some (decide (n < 0), Nat.toDigits 10 n.natAbs) := by
    rw [integerDigits?, withoutMargins_of_ink fun c hc => isBlank_of_mem_intText hc, sign_intText]
    simp only [digitRun?_of_areDigits (areDigits_toDigits _) Nat.toDigits_ne_nil]
  have hshort : (Nat.toDigits 10 n.natAbs).length ≤ longestInteger := h
  rw [toList_toString, integer?, hdigits]
  simp only [hshort, if_true, digitsValue_toDigits, decide_eq_true_eq, Option.some.injEq]
  split <;> omega

end

end SequenceApi.Text
