import SequenceApi.Proofs.Number.Interval

/-!
# Rounding

Rounding gives the canonical number in whose interval the exact value lies: the mantissa is within
half a unit of the quotient, and is even if it is half a unit away. Since an exact value lies in one
interval only, what lies in the interval of a number is rounded to that number.

## Main results

* `Binary64.Suits.roundsTo`: a ratio lies in the interval of the number that it is rounded to
* `Binary64.ofRatio_eq_of_roundsTo`, `Binary64.ofDecimal_eq_of_roundsTo`: what lies in the interval
  of a number is rounded to it
-/

namespace SequenceApi.Binary64

/-! ## Ties -/

/-- A mantissa that is half a unit too great is even. -/
theorem even_of_nearest_eq_add (num : Nat) {den : Nat} (hd : 0 < den)
    (h : 2 * (nearest num den * den) = 2 * num + den) : nearest num den % 2 = 0 := by
  have hnum : den * (num / den) + num % den = num := Nat.div_add_mod num den
  have hc : num / den * den = den * (num / den) := Nat.mul_comm ..
  simp only [nearest] at h ⊢
  split at h
  · omega
  · split at h
    · split at h
      · omega
      · next htie hodd =>
        rw [if_neg (by omega), if_pos htie, if_neg hodd]
        omega
    · rw [Nat.add_mul] at h
      omega

/-- A mantissa that is half a unit too small is even. -/
theorem even_of_add_eq_nearest (num : Nat) {den : Nat} (hd : 0 < den)
    (h : 2 * num = 2 * (nearest num den * den) + den) : nearest num den % 2 = 0 := by
  have hnum : den * (num / den) + num % den = num := Nat.div_add_mod num den
  have hr : num % den < den := Nat.mod_lt _ hd
  have hc : num / den * den = den * (num / den) := Nat.mul_comm ..
  simp only [nearest] at h ⊢
  split at h
  · omega
  · split at h
    · split at h
      · next htie heven => rw [if_neg (by omega), if_pos htie, if_pos heven, heven]
      · rw [Nat.add_mul] at h
        omega
    · rw [Nat.add_mul] at h
      omega

/-! ## Quarters of a unit -/

section

variable {num den : Nat} {e : Int}

/-- A ratio and multiples of the quarter are compared after both are multiplied by one positive
number. -/
theorem exists_quarter_scale (num : Nat) (hd : 0 < den) (e : Int) :
    ∃ s : ℚ, 0 < s ∧ (num : ℚ) / den = s * (4 * (num * power 2 (-e)) : Nat) ∧
      ∀ c : Nat, (c : ℚ) * 2 ^ (e - 2) = s * (c * (den * power 2 e) : Nat) := by
  have hden : (0 : ℚ) < den := by exact_mod_cast hd
  have hpower : (0 : ℚ) < power 2 e := by exact_mod_cast power_pos (by decide) e
  have hunit : (power 2 e : ℚ) = 4 * 2 ^ (e - 2) * power 2 (-e) := by
    have hpower' : (0 : ℚ) < power 2 (-e) := by exact_mod_cast power_pos (by decide) (-e)
    have h := power_div_power 2 e
    rw [div_eq_iff hpower'.ne'] at h
    have hquarter : (2 : ℚ) ^ e = 4 * 2 ^ (e - 2) := by
      calc (2 : ℚ) ^ e = 2 ^ (e - 2) * 2 ^ (2 : Int) := by
            rw [← zpow_add₀ two_ne_zero, sub_add_cancel]
        _ = 4 * 2 ^ (e - 2) := by
          norm_num
          ring
    rw [h, Nat.cast_ofNat, hquarter]
  refine ⟨2 ^ (e - 2) / (den * power 2 e), by positivity, ?_, fun c => ?_⟩
  · rw [div_mul_eq_mul_div, div_eq_div_iff hden.ne' (by positivity)]
    push_cast
    rw [hunit]
    ring
  · rw [div_mul_eq_mul_div, eq_div_iff (by positivity)]
    push_cast
    ring

/-- Whether a ratio rounds to a number, in natural numbers. -/
theorem roundsTo_div_iff (hd : 0 < den) {m : Nat} :
    RoundsTo m e (num / den) ↔
      if m % 2 = 0 then
        (4 * m - below m e) * (den * power 2 e) ≤ 4 * (num * power 2 (-e)) ∧
          4 * (num * power 2 (-e)) ≤ (4 * m + 2) * (den * power 2 e)
      else
        (4 * m - below m e) * (den * power 2 e) < 4 * (num * power 2 (-e)) ∧
          4 * (num * power 2 (-e)) < (4 * m + 2) * (den * power 2 e) := by
  obtain ⟨s, hs, hvalue, hquarter⟩ := exists_quarter_scale num hd e
  rw [RoundsTo]
  split
  · rw [hvalue, hquarter, hquarter, mul_le_mul_iff_right₀ hs, mul_le_mul_iff_right₀ hs,
      Nat.cast_le, Nat.cast_le]
  · rw [hvalue, hquarter, hquarter, mul_lt_mul_iff_right₀ hs, mul_lt_mul_iff_right₀ hs,
      Nat.cast_lt, Nat.cast_lt]

/-- A ratio lies in the interval of its rounded quotient. -/
theorem Suits.roundsTo_nearest (h : Suits num den e) (hd : 0 < den) :
    RoundsTo (nearest (num * power 2 (-e)) (den * power 2 e)) e (num / den) := by
  have hpos : 0 < den * power 2 e := Nat.mul_pos hd (power_pos (by decide) e)
  have hfills := h.fills.imp_left fills_iff.1
  rw [roundsTo_div_iff hd]
  generalize num * power 2 (-e) = n at hfills ⊢
  generalize den * power 2 e = d at hpos hfills ⊢
  have hle := nearest_le n hpos
  have hge := le_nearest n hpos
  have hlow := even_of_nearest_eq_add n hpos
  have hhigh := even_of_add_eq_nearest n hpos
  generalize nearest n d = m at hle hge hlow hhigh ⊢
  have hmul : 4 * m * d = 4 * (m * d) := Nat.mul_assoc ..
  rw [Nat.sub_mul, Nat.add_mul, hmul]
  by_cases hfull : (m = leastFull && decide (leastExponent < e)) = true
  · -- below a power of two the interval is shorter, and the mantissa was not rounded up
    rw [below, if_pos hfull]
    simp only [Bool.and_eq_true, decide_eq_true_eq] at hfull
    obtain ⟨rfl, he⟩ := hfull
    have hn : d * leastFull ≤ n := hfills.resolve_right he.ne'
    rw [Nat.mul_comm] at hn
    rw [if_pos (by decide)]
    omega
  · rw [below, if_neg hfull]
    split
    · omega
    · next hodd =>
      have hone : d ≤ m * d := Nat.le_mul_of_pos_left d (by omega)
      have hlow' : 2 * (m * d) ≠ 2 * n + d := fun heq => hodd (hlow heq)
      have hhigh' : 2 * n ≠ 2 * (m * d) + d := fun heq => hodd (hhigh heq)
      omega

/-- A ratio lies in the interval of the number that it is rounded to. -/
theorem Suits.roundsTo (h : Suits num den e) (hd : 0 < den) :
    RoundsTo (rounded num den e).1 (rounded num den e).2 (num / den) := by
  have hpos : 0 < den * power 2 e := Nat.mul_pos hd (power_pos (by decide) e)
  simp only [rounded]
  split
  · next hm =>
    dsimp only
    -- Rounded up to one digit more: a quarter of the next unit is half of one of this.
    have hle := nearest_le (num * power 2 (-e)) hpos
    have hfits := fits_iff.1 h.fits
    obtain ⟨s, hs, hvalue, hquarter⟩ := exists_quarter_scale num hd e
    have hnext (c : Nat) : (c : ℚ) * 2 ^ (e + 1 - 2) = s * (2 * c * (den * power 2 e) : Nat) := by
      rw [← hquarter, show e + 1 - 2 = e - 2 + 1 by ring, zpow_add_one₀ two_ne_zero]
      push_cast
      ring
    have hbelow : below leastFull (e + 1) = 1 := by
      have hlt : leastExponent < e + 1 := Int.lt_add_one_of_le h.le
      rw [below, if_pos (by simp [hlt])]
    rw [hm] at hle
    rw [RoundsTo, if_pos (by decide), hbelow, hnext, hnext, hvalue, mul_le_mul_iff_right₀ hs,
      mul_le_mul_iff_right₀ hs, Nat.cast_le, Nat.cast_le]
    generalize num * power 2 (-e) = n at hle hfits
    generalize den * power 2 e = d at hle hfits hpos
    rw [Nat.mul_comm d] at hfits
    have hfull : 2 * leastFull * d = 2 * (leastFull * d) := Nat.mul_assoc ..
    constructor
    · have hmul : 2 * (4 * leastFull - 1) * d = 8 * (leastFull * d) - 2 * d := by
        rw [Nat.mul_sub, Nat.sub_mul, ← Nat.mul_assoc, Nat.mul_assoc (2 * 4)]
      omega
    · have hmul : 2 * (4 * leastFull + 2) * d = 8 * (leastFull * d) + 4 * d := by
        rw [Nat.mul_add, Nat.add_mul, ← Nat.mul_assoc, Nat.mul_assoc (2 * 4)]
      omega
  · exact h.roundsTo_nearest hd

end

/-! ## Reading back -/

section

variable {m : Nat} {e : Int} (hm : 0 < m) (h : IsNormal m e) (he : e ≤ greatestExponent)
include hm h he

/-- A ratio in the interval of a number is rounded to that number. -/
theorem ofRatio_eq_of_roundsTo (negative : Bool) {num den : Nat} (hd : 0 < den)
    (hr : RoundsTo m e (num / den)) : ofRatio negative num den = .finite negative m e := by
  have hnum : num ≠ 0 := by
    rintro rfl
    have hpos := hr.pos hm
    simp at hpos
  obtain ⟨e', hsuits, heq⟩ := exists_rounded negative hnum hd.ne'
  obtain ⟨hm', he'⟩ := (hsuits.roundsTo hd).unique (hsuits.isNormal hd) h hr
  rw [heq, hm', he', if_neg (not_lt.2 he)]

/-- What rounds to a finite number is neither too great nor too small for the cuts in reading. -/
theorem size_bounds_of_roundsTo {digits : Nat} {exponent : Int} (hdigits : 0 < digits)
    (hr : RoundsTo m e (digits * 10 ^ exponent)) :
    ((Nat.toDigits 10 digits).length : Int) + exponent ≤ 400 ∧
      -400 ≤ ((Nat.toDigits 10 digits).length : Int) + exponent := by
  have hlt := lt_ten_zpow_length digits
  have hle := ten_zpow_length_sub_one_le hdigits
  generalize ((Nat.toDigits 10 digits).length : Int) = size at hlt hle ⊢
  have hten : (0 : ℚ) < 10 ^ exponent := by positivity
  have hu : (0 : ℚ) < 2 ^ (e - 2) := by positivity
  constructor
  · -- ten to the power of 400 is more than all that rounds to a finite number
    have hhigh : (10 : ℚ) ^ (size - 1 + exponent) < 10 ^ (400 : Int) := by
      calc (10 : ℚ) ^ (size - 1 + exponent) = 10 ^ (size - 1) * 10 ^ exponent :=
            zpow_add₀ (by norm_num) _ _
        _ ≤ digits * 10 ^ exponent := by gcongr
        _ ≤ (4 * m + 2 : Nat) * 2 ^ (e - 2) := hr.le_high
        _ ≤ (2 ^ 55 : Nat) * 2 ^ (greatestExponent - 2) := by
          have hmax := h.lt
          rw [leastFull_eq] at hmax
          gcongr
          · omega
          · norm_num
        _ < 10 ^ (400 : Int) := by
          have hpowers : ((2 ^ 55 * 2 ^ 969 : Nat) : ℚ) < (10 ^ 400 : Nat) :=
            Nat.cast_lt.2 (by decide +kernel)
          rw [Nat.cast_mul, Nat.cast_pow 2 969, Nat.cast_pow 10] at hpowers
          exact hpowers
    have := (zpow_lt_zpow_iff_right₀ (by norm_num : (1 : ℚ) < 10)).1 hhigh
    omega
  · -- and less than ten to the power of minus 400 there is only zero
    have hlow : (10 : ℚ) ^ (-400 : Int) < 10 ^ (size + exponent) := by
      calc (10 : ℚ) ^ (-400 : Int) < (1 : Nat) * 2 ^ (leastExponent - 2) := by
            have hpowers : 2 ^ 1076 < 10 ^ 400 := by decide +kernel
            rw [Nat.cast_one, one_mul, show leastExponent - 2 = -1076 from rfl, zpow_neg, zpow_neg]
            exact inv_strictAnti₀ (by positivity) (by exact_mod_cast hpowers)
        _ ≤ (4 * m - below m e : Nat) * 2 ^ (e - 2) := by
          have hbelow := below_le (m := m) (e := e)
          have hleast := h.le
          gcongr
          · omega
          · norm_num
        _ ≤ digits * 10 ^ exponent := hr.low_le
        _ ≤ 10 ^ size * 10 ^ exponent := by gcongr
        _ = 10 ^ (size + exponent) := (zpow_add₀ (by norm_num) _ _).symm
    have := (zpow_lt_zpow_iff_right₀ (by norm_num : (1 : ℚ) < 10)).1 hlow
    omega

/-- A decimal in the interval of a number is read as that number. -/
theorem ofDecimal_eq_of_roundsTo (negative : Bool) {digits : Nat} {exponent : Int}
    (hr : RoundsTo m e (digits * 10 ^ exponent)) :
    ofDecimal negative digits exponent = .finite negative m e := by
  have hdigits : 0 < digits := by
    by_contra hzero
    have hpos := hr.pos hm
    rw [Nat.eq_zero_of_not_pos hzero] at hpos
    simp at hpos
  obtain ⟨hhigh, hlow⟩ := size_bounds_of_roundsTo hm h he hdigits hr
  simp only [ofDecimal]
  rw [if_neg hdigits.ne', if_neg (by omega), if_neg (by omega)]
  apply ofRatio_eq_of_roundsTo hm h he negative (power_pos (by decide) _)
  rwa [Nat.cast_mul, mul_div_assoc, power_div_power]

end

end SequenceApi.Binary64
