import SequenceApi.Proofs.Number.Rounding
import SequenceApi.Proofs.Number.Written

/-!
# Figures of numbers

The text of a number has a whole part that starts with a zero only if it is one, perhaps a fraction
after a point, and perhaps a power of ten. What it spells, and the number that it is read as, depend
on these parts alone. The text of a finite number that is no integer always has a fraction or a
power of ten, and gives the number back.

## Main definitions

* `Decimal.Figures`: the parts of the text of a number
* `Decimal.Figures.text`: the text of the parts

## Main results

* `Decimal.Figures.spelled_text`: what the text spells
* `Decimal.exists_figures_layOut`: a decimal is laid out as the text of some parts
* `Binary64.exists_figures_magnitudeText`: a finite number is read back from its parts
-/

namespace SequenceApi

namespace Decimal

/-! ## Parts of a text -/

/-- The parts of the text of a number. -/
structure Figures where
  whole : List Char
  fraction : List Char
  /-- Whether the power of ten is negative, and its digits. -/
  power : Option (Bool × List Char)
  areDigits_whole : AreDigits whole
  whole_ne_nil : whole ≠ []
  lead : whole.head? = some '0' → whole = ['0']
  areDigits_fraction : AreDigits fraction
  areDigits_places : ∀ p ∈ power, AreDigits p.2
  places_ne_nil : ∀ p ∈ power, p.2 ≠ []

namespace Figures

/-- The fraction with its point. -/
def pointText (f : Figures) : List Char :=
  if f.fraction.isEmpty then [] else '.' :: f.fraction

/-- The power of ten with its mark and its sign. -/
def powerText (f : Figures) : List Char :=
  match f.power with
  | none => []
  | some (down, places) => 'e' :: (if down then '-' else '+') :: places

/-- The text of a number. -/
def text (f : Figures) : List Char :=
  f.whole ++ f.pointText ++ f.powerText

/-- The power of ten. -/
def exponent (f : Figures) : Int :=
  match f.power with
  | none => 0
  | some (down, places) => if down then -(digitsNumber places : Int) else digitsNumber places

/-- The digits before and after the point, without it. -/
def digits (f : Figures) : Nat :=
  digitsNumber (f.whole ++ f.fraction)

/-- There is neither a fraction nor a power of ten. -/
def isWhole (f : Figures) : Bool :=
  f.fraction.isEmpty && f.power.isNone

variable (f : Figures)

theorem head_powerText : ∀ c ∈ f.powerText.head?, c = 'e' := by
  intro c hc
  rw [powerText] at hc
  split at hc
  · cases hc
  · exact (Option.some.inj hc).symm

theorem spelledPower_powerText : spelledPower f.powerText = f.exponent := by
  rw [powerText, exponent]
  split
  · rfl
  · next down places _ => cases down <;> rfl

/-- The text of a number spells its digits, moved by its power and the places after its point. -/
theorem spelled_text : spelled f.text = f.digits * 10 ^ (f.exponent - f.fraction.length) := by
  rw [text, digits, ← spelledPower_powerText]
  cases hf : f.fraction with
  | nil =>
    have h := spelled_whole f.areDigits_whole f.head_powerText
    rw [pointText, hf]
    simpa using h
  | cons c cs =>
    have h := spelled_pointed f.areDigits_whole f.areDigits_fraction f.head_powerText
    rw [pointText, hf]
    rwa [hf] at h

end Figures

/-! ## Parts of decimals -/

theorem head_toDigits_ne_zero {n : Nat} (hn : 0 < n) : (Nat.toDigits 10 n).head? ≠ some '0' := by
  -- Induction on the number: the first digit is the first digit of the quotient by ten.
  induction n using Nat.strongRecOn with
  | ind n ih =>
    rw [Nat.toDigits_eq_if (by decide)]
    split
    · next hlt =>
      have hall : ∀ k < 10, 0 < k → k.digitChar ≠ '0' := by decide
      exact fun h => hall n hlt hn (Option.some.inj h)
    · next hge =>
      have hdiv := ih (n / 10) (by omega) (by omega)
      rwa [List.head?_append_of_ne_nil _ Nat.toDigits_ne_nil]

theorem lead_of_head_ne_zero {cs : List Char} (h : cs.head? ≠ some '0') :
    cs.head? = some '0' → cs = ['0'] :=
  fun h' => absurd h' h

theorem head_significant_ne_zero {n : Nat} (hn : 0 < n) : (significant n).head? ≠ some '0' := by
  have h := head_toDigits_ne_zero hn
  rwa [← significant_append_zeros, List.head?_append_of_ne_nil _ (significant_ne_nil hn)] at h

/-- The parts of a natural number. -/
def Figures.ofNat (n : Nat) : Figures where
  whole := Nat.toDigits 10 n
  fraction := []
  power := none
  areDigits_whole := areDigits_toDigits n
  whole_ne_nil := Nat.toDigits_ne_nil
  lead := by
    rcases Nat.eq_zero_or_pos n with rfl | hn
    · exact fun _ => rfl
    · exact lead_of_head_ne_zero (head_toDigits_ne_zero hn)
  areDigits_fraction := by simp [AreDigits]
  areDigits_places := by simp
  places_ne_nil := by simp

/-- The parts of a number with a point and without a power of ten. -/
def Figures.pointed (whole fraction : List Char) (hw : AreDigits whole) (hne : whole ≠ [])
    (hl : whole.head? = some '0' → whole = ['0']) (hf : AreDigits fraction) : Figures where
  whole := whole
  fraction := fraction
  power := none
  areDigits_whole := hw
  whole_ne_nil := hne
  lead := hl
  areDigits_fraction := hf
  areDigits_places := by simp
  places_ne_nil := by simp

theorem Figures.text_pointed {whole fraction : List Char} (hw : AreDigits whole) (hne : whole ≠ [])
    (hl : whole.head? = some '0' → whole = ['0']) (hf : AreDigits fraction) (h : fraction ≠ []) :
    (pointed whole fraction hw hne hl hf).text = whole ++ '.' :: fraction := by
  have hempty : fraction.isEmpty = false := by simpa using h
  simp [text, pointText, powerText, pointed, hempty]

/-- The digits of a power of ten, two at least. -/
def padded (n : Nat) : List Char :=
  if (Nat.toDigits 10 n).length < 2 then '0' :: Nat.toDigits 10 n else Nat.toDigits 10 n

theorem areDigits_padded (n : Nat) : AreDigits (padded n) := by
  rw [padded]
  split
  · exact (areDigits_replicate 1).append (areDigits_toDigits n)
  · exact areDigits_toDigits n

theorem padded_ne_nil (n : Nat) : padded n ≠ [] := by
  rw [padded]
  split
  · exact List.cons_ne_nil _ _
  · exact Nat.toDigits_ne_nil

/-- The parts of a number with one digit before the point and a power of ten. -/
def Figures.scientific (digits : List Char) (hd : AreDigits digits) (hne : digits ≠ [])
    (hl : digits.head? ≠ some '0') (power : Int) : Figures where
  whole := digits.take 1
  fraction := digits.drop 1
  power := some (power < 0, padded power.natAbs)
  areDigits_whole := hd.of_subset (List.take_subset 1 digits)
  whole_ne_nil := by simpa using hne
  lead := by
    apply lead_of_head_ne_zero
    rwa [List.head?_take, if_neg (by decide)]
  areDigits_fraction := hd.of_subset (List.drop_subset 1 digits)
  areDigits_places := by
    intro p hp
    exact Option.some.inj hp ▸ areDigits_padded _
  places_ne_nil := by
    intro p hp
    exact Option.some.inj hp ▸ padded_ne_nil _

/-- A positive decimal is laid out as the text of some parts. -/
theorem exists_figures_layOut {x : Decimal} (hx : 0 < x.digits) :
    ∃ f : Figures, f.text = Binary64.layOut x ∧ f.isWhole = false := by
  have hd := areDigits_significant x.digits
  have hne := significant_ne_nil hx
  have hlead := head_significant_ne_zero hx
  rw [layOut_eq x rfl rfl]
  generalize significant x.digits = digits at hd hne hlead ⊢
  generalize (digits.length : Int) + x.exponent + zeros x.digits = point
  have hpointed {whole fraction : List Char} (hw : AreDigits whole) (hwne : whole ≠ [])
      (hl : whole.head? = some '0' → whole = ['0']) (hf : AreDigits fraction)
      (hfne : fraction ≠ []) :
      ∃ f : Figures, f.text = whole ++ '.' :: fraction ∧ f.isWhole = false :=
    ⟨.pointed whole fraction hw hwne hl hf, Figures.text_pointed hw hwne hl hf hfne,
      by simp [Figures.isWhole, Figures.pointed, hfne]⟩
  split
  · split
    · -- zeros before the digits
      exact hpointed (areDigits_replicate 1) (by simp) (fun _ => rfl)
        ((areDigits_replicate _).append hd) (by simp [hne])
    · split
      · -- zeros after the digits
        have hhead : (digits ++ List.replicate (point.toNat - digits.length) '0').head? ≠
            some '0' := by
          rwa [List.head?_append_of_ne_nil _ hne]
        exact hpointed (hd.append (areDigits_replicate _)) (by simp [hne])
          (lead_of_head_ne_zero hhead) (areDigits_replicate 1) (by simp)
      · next hpos hlt =>
        -- a point among the digits
        have hhead : (digits.take point.toNat).head? ≠ some '0' := by
          rwa [List.head?_take, if_neg (by omega)]
        have hlen := List.length_pos_of_ne_nil hne
        refine hpointed (hd.of_subset (List.take_subset _ _)) ?_ (lead_of_head_ne_zero hhead)
          (hd.of_subset (List.drop_subset _ _)) ?_
        · rw [← List.length_pos_iff, List.length_take]
          omega
        · rw [← List.length_pos_iff, List.length_drop]
          omega
  · refine ⟨.scientific digits hd hne hlead (point - 1), ?_, Bool.and_false _⟩
    · simp only [Figures.text, Figures.pointText, Figures.powerText, Figures.scientific, padded,
        decide_eq_true_eq]
      rfl

end Decimal

namespace Binary64

open Decimal

/-- A finite number is read back from the parts of its text. -/
theorem exists_figures_magnitudeText {m : Nat} {e : Int} (h : IsNormal m e)
    (he : e ≤ greatestExponent) :
    ∃ f : Figures, f.text = magnitudeText m e ∧ f.isWhole = false ∧
      ∀ negative, ofDecimal negative f.digits (f.exponent - f.fraction.length) =
        .finite negative m e := by
  rcases Nat.eq_zero_or_pos m with rfl | hm
  · obtain rfl := h.exponent_of_zero
    refine ⟨.pointed ['0'] ['0'] (areDigits_replicate 1) (by simp) (fun _ => rfl)
      (areDigits_replicate 1), rfl, rfl, fun negative => rfl⟩
  · obtain ⟨f, hf, hmarked⟩ := exists_figures_layOut (digits_shortest_pos hm h)
    have htext : f.text = magnitudeText m e := by rw [hf, magnitudeText, if_neg hm.ne']
    refine ⟨f, htext, hmarked, fun negative => ?_⟩
    apply ofDecimal_eq_of_roundsTo hm h he negative
    rw [← f.spelled_text, htext]
    exact spelled_magnitudeText hm h

end Binary64

end SequenceApi
