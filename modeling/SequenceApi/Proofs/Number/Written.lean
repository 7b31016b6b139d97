import Mathlib.Data.List.TakeWhile
import SequenceApi.Proofs.Number.Interval

/-!
# Texts of numbers

The text of a number spells the decimal that was chosen for it, however it is laid out: digits with
a point among them, and perhaps a power of ten. Since that decimal rounds to no other number, two
numbers with one text are the same number.

## Main definitions

* `Decimal.spelled`: the rational number that a text spells
* `Decimal.IsMagnitude`: the characters of a number without its sign
* `Binary64.magnitudeText`: the text of a finite number without its sign

## Main results

* `Decimal.spelled_layOut`: the text of a decimal spells its value
* `Binary64.magnitudeText_injective`: canonical numbers with one text are equal
* `Binary64.isMagnitude_magnitudeText`: what characters the text has
-/

namespace SequenceApi

namespace Decimal

/-! ## Spelling -/

/-- The number that ASCII digits spell. -/
abbrev digitsNumber (cs : List Char) : Nat :=
  Nat.ofDigitChars 10 cs 0

/-- The power of ten after the digits, if there is one. -/
def spelledPower : List Char → Int
  | 'e' :: '-' :: places => -(digitsNumber places : Int)
  | 'e' :: _ :: places => digitsNumber places
  | _ => 0

/-- The rational number that a text spells. -/
def spelled (cs : List Char) : ℚ :=
  let number := cs.takeWhile (· != 'e')
  let whole := number.takeWhile (· != '.')
  let fraction := (number.dropWhile (· != '.')).drop 1
  digitsNumber (whole ++ fraction) *
    10 ^ (spelledPower (cs.dropWhile (· != 'e')) - fraction.length)

theorem eq_of_toDigits_eq {m n : Nat} (h : Nat.toDigits 10 m = Nat.toDigits 10 n) : m = n := by
  have hnumber := congrArg digitsNumber h
  rwa [digitsNumber, digitsNumber, Nat.ofDigitChars_ten_toDigits,
    Nat.ofDigitChars_ten_toDigits] at hnumber

/-- ASCII digits alone. -/
def AreDigits (cs : List Char) : Prop :=
  ∀ c ∈ cs, c.isDigit = true

section

variable {cs ds : List Char}

theorem areDigits_toDigits (n : Nat) : AreDigits (Nat.toDigits 10 n) :=
  fun _ hc => Nat.isDigit_of_mem_toDigits (by decide) (by decide) hc

theorem areDigits_replicate (n : Nat) : AreDigits (List.replicate n '0') := by
  intro c hc
  rw [List.eq_of_mem_replicate hc]
  rfl

theorem AreDigits.append (h : AreDigits cs) (h' : AreDigits ds) : AreDigits (cs ++ ds) :=
  List.forall_mem_append.2 ⟨h, h'⟩

theorem AreDigits.of_subset (h : AreDigits ds) (hs : cs ⊆ ds) : AreDigits cs :=
  fun c hc => h c (hs hc)

theorem AreDigits.ne (h : AreDigits cs) {c d : Char} (hc : c ∈ cs) (hd : d.isDigit = false) :
    (c != d) = true := by
  rw [bne_iff_ne]
  rintro rfl
  simp [h c hc] at hd

/-- A text is cut where its power of ten begins. -/
theorem cut_tail {number tail : List Char} (hn : ∀ c ∈ number, (c != 'e') = true)
    (ht : ∀ c ∈ tail.head?, c = 'e') :
    (number ++ tail).takeWhile (· != 'e') = number ∧
      (number ++ tail).dropWhile (· != 'e') = tail := by
  rw [List.takeWhile_append_of_pos hn, List.dropWhile_append_of_pos hn]
  cases tail with
  | nil => exact ⟨List.append_nil number, rfl⟩
  | cons c tail =>
    obtain rfl := ht c rfl
    exact ⟨List.append_nil number, rfl⟩

/-- Digits with a point among them, and what comes after the number. -/
theorem spelled_pointed {whole fraction tail : List Char} (hw : AreDigits whole)
    (hf : AreDigits fraction) (ht : ∀ c ∈ tail.head?, c = 'e') :
    spelled (whole ++ '.' :: fraction ++ tail) =
      digitsNumber (whole ++ fraction) * 10 ^ (spelledPower tail - fraction.length) := by
  have hnumber : ∀ c ∈ whole ++ '.' :: fraction, (c != 'e') = true :=
    List.forall_mem_append.2 ⟨fun c hc => hw.ne hc rfl,
      List.forall_mem_cons.2 ⟨rfl, fun c hc => hf.ne hc rfl⟩⟩
  obtain ⟨hn, hp⟩ := cut_tail hnumber ht
  simp only [spelled]
  rw [hn, hp, List.takeWhile_append_of_pos fun c hc => hw.ne hc rfl,
    List.dropWhile_append_of_pos fun c hc => hw.ne hc rfl]
  simp

/-- Digits without a point, and what comes after the number. -/
theorem spelled_whole {whole tail : List Char} (hw : AreDigits whole)
    (ht : ∀ c ∈ tail.head?, c = 'e') :
    spelled (whole ++ tail) = digitsNumber whole * 10 ^ spelledPower tail := by
  have hpoint : ∀ c ∈ whole, (c != '.') = true := fun c hc => hw.ne hc rfl
  obtain ⟨hn, hp⟩ := cut_tail (fun c hc => hw.ne hc rfl) ht
  simp only [spelled]
  rw [hn, hp, List.takeWhile_eq_self_iff.2 hpoint, List.dropWhile_eq_nil_iff.2 hpoint]
  simp

end

/-! ## The digits of a decimal -/

/-- The digits without the zeros at the end. -/
def significant (n : Nat) : List Char :=
  ((Nat.toDigits 10 n).reverse.dropWhile (· == '0')).reverse

/-- How many zeros are at the end. -/
def zeros (n : Nat) : Nat :=
  (Nat.toDigits 10 n).length - (significant n).length

theorem significant_append_zeros (n : Nat) :
    significant n ++ List.replicate (zeros n) '0' = Nat.toDigits 10 n := by
  have hsplit : significant n ++ ((Nat.toDigits 10 n).reverse.takeWhile (· == '0')).reverse =
      Nat.toDigits 10 n := by
    rw [significant, ← List.reverse_append, List.takeWhile_append_dropWhile, List.reverse_reverse]
  have hzeros : ((Nat.toDigits 10 n).reverse.takeWhile (· == '0')).reverse =
      List.replicate (zeros n) '0' := by
    rw [List.eq_replicate_iff]
    constructor
    · have h := congrArg List.length hsplit
      rw [List.length_append] at h
      rw [zeros]
      omega
    · intro c hc
      have h := List.mem_takeWhile_imp (List.mem_reverse.1 hc)
      simpa using h
  rwa [hzeros] at hsplit

theorem areDigits_significant (n : Nat) : AreDigits (significant n) := by
  refine (areDigits_toDigits n).of_subset ?_
  rw [← significant_append_zeros n]
  exact List.subset_append_left _ _

theorem digitsNumber_significant (n : Nat) :
    10 ^ zeros n * digitsNumber (significant n) = n := by
  have h : digitsNumber (Nat.toDigits 10 n) = n := Nat.ofDigitChars_ten_toDigits
  rw [← significant_append_zeros n, digitsNumber, Nat.ofDigitChars_append,
    Nat.ofDigitChars_replicate_zero] at h
  exact h

theorem significant_ne_nil {n : Nat} (hn : 0 < n) : significant n ≠ [] := by
  intro h
  have hzero := digitsNumber_significant n
  rw [h, digitsNumber, Nat.ofDigitChars_nil, Nat.mul_zero] at hzero
  omega

/-- The value of a decimal, by its significant digits and the place of the point after them. -/
theorem value_eq (x : Decimal) :
    x.value = digitsNumber (significant x.digits) * 10 ^ (x.exponent + zeros x.digits) := by
  have h := digitsNumber_significant x.digits
  rw [value, zpow_add₀ (by norm_num), zpow_natCast]
  rw [← Nat.cast_inj (R := ℚ)] at h
  push_cast at h
  rw [← h]
  ring

/-! ## Layouts -/

theorem digitsNumber_append_zeros (cs : List Char) (n : Nat) :
    digitsNumber (cs ++ List.replicate n '0') = 10 ^ n * digitsNumber cs := by
  rw [digitsNumber, Nat.ofDigitChars_append, Nat.ofDigitChars_replicate_zero]

theorem digitsNumber_zero_cons (cs : List Char) : digitsNumber ('0' :: cs) = digitsNumber cs := by
  rw [digitsNumber, Nat.ofDigitChars_cons]
  rfl

theorem digitsNumber_zeros_append (n : Nat) (cs : List Char) :
    digitsNumber (List.replicate n '0' ++ cs) = digitsNumber cs := by
  rw [digitsNumber, Nat.ofDigitChars_append, Nat.ofDigitChars_replicate_zero, Nat.mul_zero]

/-- Nothing comes after the number. -/
theorem no_power : ∀ c ∈ ([] : List Char).head?, c = 'e' := by
  simp

section

variable {digits : List Char} (hd : AreDigits digits)

include hd

/-- A point and zeros before the digits. -/
theorem spelled_small (n : Nat) :
    spelled ('0' :: '.' :: List.replicate n '0' ++ digits) =
      digitsNumber digits * 10 ^ (-(n : Int) - digits.length) := by
  have h := spelled_pointed (areDigits_replicate 1) ((areDigits_replicate n).append hd)
    no_power
  rw [List.append_nil, digitsNumber_zeros_append, digitsNumber_zeros_append, List.length_append,
    List.length_replicate] at h
  -- the zero before the point counts for nothing
  refine Eq.trans ?_ (h.trans ?_)
  · simp [List.replicate_succ]
  · congr 2
    simp only [spelledPower]
    push_cast
    ring

/-- Zeros and a point after the digits. -/
theorem spelled_large (n : Nat) :
    spelled (digits ++ List.replicate n '0' ++ ['.', '0']) =
      digitsNumber digits * 10 ^ (n : Int) := by
  have h := spelled_pointed (hd.append (areDigits_replicate n)) (areDigits_replicate 1)
    no_power
  rw [List.append_nil, digitsNumber_append_zeros, digitsNumber_append_zeros,
    List.length_replicate] at h
  refine Eq.trans ?_ (h.trans ?_)
  · simp [List.replicate_succ]
  · simp only [spelledPower]
    push_cast
    rw [zpow_neg_one, zpow_natCast]
    ring

/-- A point among the digits. -/
theorem spelled_inner {n : Nat} (hn : n ≤ digits.length) :
    spelled (digits.take n ++ '.' :: digits.drop n) =
      digitsNumber digits * 10 ^ ((n : Int) - digits.length) := by
  have h := spelled_pointed (hd.of_subset (List.take_subset n digits))
    (hd.of_subset (List.drop_subset n digits)) no_power
  rw [List.append_nil, List.take_append_drop, List.length_drop] at h
  rw [h]
  congr 2
  simp only [spelledPower]
  omega

/-- One digit, the others after a point, and a power of ten. -/
theorem spelled_scientific (hne : digits ≠ []) (power : Int) {places : List Char}
    (hp : digitsNumber places = power.natAbs) :
    spelled (digits.take 1 ++
      (if (digits.drop 1).isEmpty then [] else '.' :: digits.drop 1) ++
        'e' :: (if power < 0 then '-' else '+') :: places) =
      digitsNumber digits * 10 ^ (power + 1 - digits.length) := by
  have hpower : spelledPower ('e' :: (if power < 0 then '-' else '+') :: places) = power := by
    split
    · change -(digitsNumber places : Int) = power
      omega
    · change (digitsNumber places : Int) = power
      omega
  have htail : ∀ c ∈ ('e' :: (if power < 0 then '-' else '+') :: places).head?, c = 'e' := by simp
  obtain ⟨c, rest, rfl⟩ := List.exists_cons_of_ne_nil hne
  have hc : AreDigits [c] := hd.of_subset (by simp)
  cases rest with
  | nil =>
    -- one digit stands without a point
    refine (spelled_whole hc htail).trans ?_
    rw [hpower]
    simp
  | cons d rest =>
    refine (spelled_pointed hc (hd.of_subset (List.subset_cons_self c _)) htail).trans ?_
    rw [hpower]
    congr 2
    simp only [List.length_cons]
    push_cast
    ring

end

theorem layOut_eq (x : Decimal) {digits : List Char} {point : Int}
    (hd : digits = significant x.digits)
    (hp : point = digits.length + x.exponent + zeros x.digits) :
    Binary64.layOut x =
      if -4 < point && point ≤ 16 then
        if point ≤ 0 then '0' :: '.' :: List.replicate (-point).toNat '0' ++ digits
        else if digits.length ≤ point.toNat then
          digits ++ List.replicate (point.toNat - digits.length) '0' ++ ['.', '0']
        else digits.take point.toNat ++ '.' :: digits.drop point.toNat
      else
        digits.take 1 ++ (if (digits.drop 1).isEmpty then [] else '.' :: digits.drop 1) ++
          'e' :: (if point - 1 < 0 then '-' else '+') ::
            (if (Nat.toDigits 10 (point - 1).natAbs).length < 2 then
              '0' :: Nat.toDigits 10 (point - 1).natAbs
            else Nat.toDigits 10 (point - 1).natAbs) := by
  subst hd hp
  rfl

/-- The text of a positive decimal spells its value. -/
theorem spelled_layOut {x : Decimal} (hx : 0 < x.digits) :
    spelled (Binary64.layOut x) = x.value := by
  have hd := areDigits_significant x.digits
  have hne := significant_ne_nil hx
  obtain ⟨digits, hdigits⟩ : ∃ digits, digits = significant x.digits := ⟨_, rfl⟩
  obtain ⟨point, hpoint⟩ : ∃ point, point = (digits.length : Int) + x.exponent + zeros x.digits :=
    ⟨_, rfl⟩
  rw [value_eq, layOut_eq x hdigits hpoint, ← hdigits,
    show x.exponent + zeros x.digits = point - digits.length by omega]
  rw [← hdigits] at hd hne
  split
  · split
    · rw [spelled_small hd]
      congr 2
      omega
    · split
      · rw [spelled_large hd]
        congr 2
        omega
      · rw [spelled_inner hd (by omega)]
        congr 2
        omega
  · rw [spelled_scientific hd hne]
    · congr 2
      omega
    · split
      · rw [digitsNumber_zero_cons, digitsNumber, Nat.ofDigitChars_ten_toDigits]
      · rw [digitsNumber, Nat.ofDigitChars_ten_toDigits]

/-! ## Characters -/

/-- The text starts with a digit and does not go on with digits alone. -/
structure IsMagnitude (cs : List Char) : Prop where
  head : ∃ c ∈ cs.head?, c.isDigit = true
  mark : ¬AreDigits cs

/-- The characters of numbers: digits, points, signs and the mark of a power. -/
def AreMarks (cs : List Char) : Prop :=
  ∀ c ∈ cs, c.isDigit = true ∨ c ∈ ['.', 'e', '-', '+']

theorem AreDigits.areMarks {cs : List Char} (h : AreDigits cs) : AreMarks cs :=
  fun c hc => .inl (h c hc)

/-- A mark of its own, and more characters of numbers. -/
theorem areMarks_cons {cs : List Char} {c : Char} (hc : c ∈ ['.', 'e', '-', '+'])
    (hcs : AreMarks cs) : AreMarks (c :: cs) :=
  List.forall_mem_cons.2 ⟨.inr hc, hcs⟩

theorem mem_marks {mark : Char} (h : mark ∈ ['.', 'e']) : mark ∈ ['.', 'e', '-', '+'] := by
  rcases List.mem_pair.1 h with rfl | rfl <;> decide

/-- The text of a decimal has digits, then a mark, and then more characters of numbers. The digits
in front are there if the decimal is positive. -/
theorem exists_layOut_eq (x : Decimal) :
    ∃ ds mark cs, Binary64.layOut x = ds ++ mark :: cs ∧ AreDigits ds ∧
      (0 < x.digits → ds ≠ []) ∧ mark ∈ ['.', 'e'] ∧ AreMarks cs := by
  have hd := areDigits_significant x.digits
  have hlen (hx : 0 < x.digits) : 0 < (significant x.digits).length :=
    List.length_pos_of_ne_nil (significant_ne_nil hx)
  rw [layOut_eq x rfl rfl]
  generalize significant x.digits = digits at hd hlen ⊢
  generalize (digits.length : Int) + x.exponent + zeros x.digits = point
  split
  · split
    · exact ⟨['0'], '.', _, rfl, areDigits_replicate 1, fun _ => by simp, by simp,
        ((areDigits_replicate _).append hd).areMarks⟩
    · split
      · refine ⟨_, '.', ['0'], rfl, hd.append (areDigits_replicate _), fun hx => ?_, by simp,
          (areDigits_replicate 1).areMarks⟩
        exact List.append_ne_nil_of_left_ne_nil (List.ne_nil_of_length_pos (hlen hx)) _
      · next hpos hlt =>
        refine ⟨_, '.', _, rfl, hd.of_subset (List.take_subset _ _), fun hx => ?_, by simp,
          (hd.of_subset (List.drop_subset _ _)).areMarks⟩
        have := hlen hx
        rw [← List.length_pos_iff, List.length_take]
        omega
  · have hone : AreDigits (digits.take 1) := hd.of_subset (List.take_subset _ _)
    have hone' (hx : 0 < x.digits) : digits.take 1 ≠ [] := by
      have := hlen hx
      rw [← List.length_pos_iff, List.length_take]
      omega
    have hplaces : AreDigits (if (Nat.toDigits 10 (point - 1).natAbs).length < 2 then
        '0' :: Nat.toDigits 10 (point - 1).natAbs else Nat.toDigits 10 (point - 1).natAbs) := by
      split
      · exact (areDigits_replicate 1).append (areDigits_toDigits _)
      · exact areDigits_toDigits _
    have hsign : (if point - 1 < 0 then '-' else '+') ∈ ['.', 'e', '-', '+'] := by
      split <;> decide
    have hpower := areMarks_cons hsign hplaces.areMarks
    -- without a fraction the mark of the power is the first one
    split
    · rw [List.append_nil]
      exact ⟨_, 'e', _, rfl, hone, hone', by simp, hpower⟩
    · rw [List.append_assoc, List.cons_append]
      refine ⟨_, '.', _, rfl, hone, hone', by simp, List.forall_mem_append.2 ⟨?_, ?_⟩⟩
      · exact (hd.of_subset (List.drop_subset _ _)).areMarks
      · exact areMarks_cons (by decide) hpower

theorem areMarks_layOut (x : Decimal) : AreMarks (Binary64.layOut x) := by
  obtain ⟨ds, mark, cs, htext, hd, -, hmark, hcs⟩ := exists_layOut_eq x
  rw [htext]
  exact List.forall_mem_append.2 ⟨hd.areMarks, areMarks_cons (mem_marks hmark) hcs⟩

theorem layOut_ne_nil (x : Decimal) : Binary64.layOut x ≠ [] := by
  obtain ⟨ds, mark, cs, htext, -⟩ := exists_layOut_eq x
  simp [htext]

theorem isMagnitude_layOut {x : Decimal} (hx : 0 < x.digits) : IsMagnitude (Binary64.layOut x) := by
  obtain ⟨ds, mark, cs, htext, hd, hne, hmark, -⟩ := exists_layOut_eq x
  refine ⟨?_, fun hall => ?_⟩
  · obtain ⟨d, ds, rfl⟩ := List.exists_cons_of_ne_nil (hne hx)
    exact ⟨d, by rw [htext]; rfl, hd d List.mem_cons_self⟩
  · have hdigit := hall mark (by simp [htext])
    rcases List.mem_pair.1 hmark with rfl | rfl <;> simp at hdigit

end Decimal

namespace Binary64

open Decimal

/-- The text of a finite number without its sign. -/
def magnitudeText (m : Nat) (e : Int) : List Char :=
  if m = 0 then ['0', '.', '0'] else layOut (shortest m e)

section

variable {m m' : Nat} {e e' : Int}

theorem digits_shortest_pos (hm : 0 < m) (h : IsNormal m e) : 0 < (shortest m e).digits := by
  have hpos := (shortest_roundsTo hm h).pos hm
  by_contra hz
  rw [Decimal.value, Nat.eq_zero_of_not_pos hz] at hpos
  simp at hpos

theorem isMagnitude_magnitudeText (h : IsNormal m e) : IsMagnitude (magnitudeText m e) := by
  rw [magnitudeText]
  split
  · exact ⟨⟨'0', rfl, rfl⟩, fun hall => absurd (hall '.' (by simp)) (by decide)⟩
  · next hm =>
    exact isMagnitude_layOut (digits_shortest_pos (Nat.pos_of_ne_zero hm) h)

theorem areMarks_magnitudeText (m : Nat) (e : Int) : AreMarks (magnitudeText m e) := by
  rw [magnitudeText]
  split
  · exact List.forall_mem_append.2 ⟨(areDigits_replicate 1).areMarks,
      areMarks_cons (by decide) (areDigits_replicate 1).areMarks⟩
  · exact areMarks_layOut _

theorem magnitudeText_ne_nil (m : Nat) (e : Int) : magnitudeText m e ≠ [] := by
  rw [magnitudeText]
  split
  · simp
  · exact layOut_ne_nil _

theorem IsNormal.exponent_of_zero (h : IsNormal 0 e) : e = leastExponent :=
  h.full.resolve_left (by decide)

/-- The text of a positive number spells a number that rounds to it. -/
theorem spelled_magnitudeText (hm : 0 < m) (h : IsNormal m e) :
    RoundsTo m e (spelled (magnitudeText m e)) := by
  rw [magnitudeText, if_neg hm.ne', spelled_layOut (digits_shortest_pos hm h)]
  exact shortest_roundsTo hm h

/-- Canonical numbers with one text are equal. -/
theorem magnitudeText_injective (h : IsNormal m e) (h' : IsNormal m' e')
    (heq : magnitudeText m e = magnitudeText m' e') : m = m' ∧ e = e' := by
  have hzero : spelled (magnitudeText 0 leastExponent) = 0 := by
    have h := spelled_large (areDigits_replicate 1) 0
    rw [show digitsNumber (List.replicate 1 '0') = 0 from rfl, Nat.cast_zero, zero_mul] at h
    exact h
  rcases Nat.eq_zero_or_pos m with rfl | hm <;> rcases Nat.eq_zero_or_pos m' with rfl | hm'
  · exact ⟨rfl, h.exponent_of_zero.trans h'.exponent_of_zero.symm⟩
  · -- only zero has a text that spells zero
    obtain rfl := h.exponent_of_zero
    have hpos := (spelled_magnitudeText hm' h').pos hm'
    exact absurd (hzero.symm.trans (congrArg spelled heq)) hpos.ne
  · obtain rfl := h'.exponent_of_zero
    have hpos := (spelled_magnitudeText hm h).pos hm
    exact absurd ((congrArg spelled heq).trans hzero) hpos.ne'
  · exact (spelled_magnitudeText hm h).unique h h' (heq ▸ spelled_magnitudeText hm' h')

end

end Binary64

end SequenceApi
