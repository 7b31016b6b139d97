import Mathlib.Algebra.Order.Field.Power
import Mathlib.Algebra.Order.Field.Rat
import Mathlib.Tactic.FieldSimp
import Mathlib.Tactic.Linarith
import Mathlib.Tactic.Positivity
import Mathlib.Tactic.Ring
import SequenceApi.Text.Numeral

/-!
# Canonical numbers

A finite number can be given by several mantissas. Rounding gives the canonical one: it has 53
binary digits, unless the exponent is the least. Two canonical numbers of one value are the same.

The conditions of the model compare products of powers whose exponents may be negative. They are
read here as inequalities between rational numbers.

## Main definitions

* `Binary64.IsNormal`: a mantissa and an exponent that rounding can give
* `Binary64.IsCanonical`: a number with such a mantissa and exponent, if it is finite
* `Binary64.IsRepresentable`: a number that rounding can give

## Main results

* `Binary64.mul_power_lt_iff`, `Binary64.mul_power_le_iff`: products of powers as rational numbers
* `Binary64.ofRatio_isRepresentable`, `Binary64.ofDecimal_isRepresentable`: what rounding gives
* `Text.decimal?_isRepresentable`: the number that a text spells is a rounded one
-/

namespace SequenceApi

namespace Binary64

/-! ## Powers -/

theorem power_pos {b : Nat} (hb : 0 < b) (e : Int) : 0 < power b e :=
  Nat.pow_pos hb

theorem power_div_power (b : Nat) (e : Int) :
    (power b e : ℚ) / power b (-e) = (b : ℚ) ^ e := by
  rcases Int.eq_nat_or_neg e with ⟨n, rfl | rfl⟩
  · simp [power]
  · simp [power]

section

variable {b : Nat} (hb : 0 < b) (x y : Nat) (e : Int)

include hb

theorem mul_power_lt_iff : x * power b (-e) < y * power b e ↔ (x : ℚ) < y * (b : ℚ) ^ e := by
  have hpos : (0 : ℚ) < power b (-e) := by exact_mod_cast power_pos hb (-e)
  rw [← power_div_power, mul_div_assoc', lt_div_iff₀ hpos]
  exact_mod_cast Iff.rfl

theorem mul_power_le_iff : y * power b e ≤ x * power b (-e) ↔ (y : ℚ) * (b : ℚ) ^ e ≤ x := by
  rw [← not_lt, ← not_lt, mul_power_lt_iff hb]

end

/-! ## Lengths in binary digits -/

theorem lt_two_zpow_bitLength (n : Nat) : (n : ℚ) < 2 ^ (bitLength n : Int) := by
  rw [bitLength]
  split
  · next h => simp [h]
  · exact_mod_cast Nat.lt_log2_self

theorem two_zpow_bitLength_le {n : Nat} (h : n ≠ 0) : (2 : ℚ) ^ ((bitLength n : Int) - 1) ≤ n := by
  rw [bitLength, if_neg h, Nat.cast_add, Nat.cast_one, add_sub_cancel_right]
  exact_mod_cast Nat.log2_self_le h

/-! ## Rounded quotients -/

theorem nearest_le_of_lt {num den k : Nat} (hd : 0 < den) (h : num < den * k) :
    nearest num den ≤ k := by
  have hn := nearest_le num hd
  by_contra hk
  have : den * (k + 1) ≤ nearest num den * den := by
    rw [Nat.mul_comm den]
    exact Nat.mul_le_mul_right den (Nat.lt_of_not_le hk)
  rw [Nat.mul_add] at this
  omega

theorem le_nearest_of_le {num den k : Nat} (hd : 0 < den) (h : den * k ≤ num) :
    k ≤ nearest num den := by
  have hn := le_nearest num hd
  by_contra hk
  have : (nearest num den + 1) * den ≤ den * k := by
    rw [Nat.mul_comm den]
    exact Nat.mul_le_mul_right den (Nat.lt_of_not_le hk)
  rw [Nat.add_mul] at this
  omega

/-! ## Canonical numbers -/

theorem leastFull_eq : leastFull = 2 ^ 52 := rfl

/-- A mantissa with 53 binary digits, or with fewer of them at the least exponent. -/
structure IsNormal (m : Nat) (e : Int) : Prop where
  lt : m < 2 * leastFull
  le : leastExponent ≤ e
  full : leastFull ≤ m ∨ e = leastExponent

/-- A number whose mantissa and exponent are normal, if it is finite. -/
inductive IsCanonical : Binary64 → Prop where
  | nan : IsCanonical .nan
  | infinite (negative : Bool) : IsCanonical (.infinite negative)
  | finite (negative : Bool) {m : Nat} {e : Int} (h : IsNormal m e) :
      IsCanonical (.finite negative m e)

section

variable {num den : Nat}

/-- The quotient by a power of two has at most 53 binary digits before the point. -/
def Fits (num den : Nat) (e : Int) : Prop :=
  (num : ℚ) < (den * (2 * leastFull) : Nat) * 2 ^ e

/-- The quotient by a power of two has at least 53 binary digits before the point. -/
def Fills (num den : Nat) (e : Int) : Prop :=
  ((den * leastFull : Nat) : ℚ) * 2 ^ e ≤ num

theorem fits_iff {e : Int} :
    Fits num den e ↔ num * power 2 (-e) < den * power 2 e * (2 * leastFull) := by
  rw [Nat.mul_right_comm, mul_power_lt_iff (by decide), Fits]
  rfl

theorem fills_iff {e : Int} :
    Fills num den e ↔ den * power 2 e * leastFull ≤ num * power 2 (-e) := by
  rw [Nat.mul_right_comm, mul_power_le_iff (by decide), Fills]
  rfl

theorem Fits.mono {e e' : Int} (h : Fits num den e) (he : e ≤ e') : Fits num den e' := by
  refine lt_of_lt_of_le h ?_
  gcongr
  norm_num

/-- The first guess has digits enough. -/
theorem fills_guess (hn : num ≠ 0) :
    Fills num den ((bitLength num : Int) - bitLength den - 53) := by
  have hnum := two_zpow_bitLength_le hn
  have hden := lt_two_zpow_bitLength den
  refine le_trans ?_ hnum
  rw [leastFull_eq, Nat.cast_mul, Nat.cast_pow, Nat.cast_ofNat]
  generalize (bitLength num : Int) = ln
  generalize (bitLength den : Int) = ld at hden ⊢
  calc (den : ℚ) * 2 ^ 52 * 2 ^ (ln - ld - 53) ≤ 2 ^ ld * 2 ^ 52 * 2 ^ (ln - ld - 53) := by
        gcongr
    _ = 2 ^ (ln - 1) := by
        rw [← zpow_natCast, ← zpow_add₀ two_ne_zero, ← zpow_add₀ two_ne_zero]
        congr 1
        push_cast
        ring

/-- The next exponent after the first guess leaves no digits over. -/
theorem fits_guess_add_one (hd : den ≠ 0) :
    Fits num den ((bitLength num : Int) - bitLength den - 53 + 1) := by
  have hnum := lt_two_zpow_bitLength num
  have hden := two_zpow_bitLength_le hd
  refine lt_of_lt_of_le hnum ?_
  rw [leastFull_eq, ← Nat.pow_succ', Nat.cast_mul, Nat.cast_pow, Nat.cast_ofNat]
  generalize (bitLength num : Int) = ln
  generalize (bitLength den : Int) = ld at hden ⊢
  calc (2 : ℚ) ^ ln = 2 ^ (ld - 1) * 2 ^ 53 * 2 ^ (ln - ld - 53 + 1) := by
        rw [← zpow_natCast, ← zpow_add₀ two_ne_zero, ← zpow_add₀ two_ne_zero]
        congr 1
        push_cast
        ring
    _ ≤ den * 2 ^ 53 * 2 ^ (ln - ld - 53 + 1) := by gcongr

/-- Where one exponent leaves digits over, the next one has digits enough. -/
theorem fills_add_one_of_not_fits {e : Int} (h : ¬Fits num den e) : Fills num den (e + 1) := by
  refine le_trans (le_of_eq ?_) (not_lt.1 h)
  rw [zpow_add_one₀ two_ne_zero]
  push_cast
  ring

end

/-! ## Rounded ratios -/

section

variable {num den : Nat} {e : Int}

/-- The exponent is one with which a quotient can be rounded: its mantissa has 53 binary digits,
unless the exponent is the least. -/
structure Suits (num den : Nat) (e : Int) : Prop where
  le : leastExponent ≤ e
  fits : Fits num den e
  fills : Fills num den e ∨ e = leastExponent

/-- The quotient by a power of two, rounded, and the exponent: a mantissa that is rounded up to one
digit more counts with the next exponent. -/
def rounded (num den : Nat) (e : Int) : Nat × Int :=
  let m := nearest (num * power 2 (-e)) (den * power 2 e)
  if m = 2 * leastFull then (leastFull, e + 1) else (m, e)

theorem rounded_eq (negative : Bool) (num den : Nat) (e : Int) :
    (let m := nearest (num * power 2 (-e)) (den * power 2 e)
      let (m, e) := if m = 2 * leastFull then (leastFull, e + 1) else (m, e)
      if greatestExponent < e then Binary64.infinite negative else .finite negative m e) =
    if greatestExponent < (rounded num den e).2 then .infinite negative
    else .finite negative (rounded num den e).1 (rounded num den e).2 := by
  rw [rounded]

/-- A ratio is rounded with an exponent that suits it. -/
theorem exists_rounded (negative : Bool) (hn : num ≠ 0) (hd : den ≠ 0) :
    ∃ e, Suits num den e ∧ ofRatio negative num den =
      if greatestExponent < (rounded num den e).2 then .infinite negative
      else .finite negative (rounded num den e).1 (rounded num den e).2 := by
  have hspec {fits : Bool} {guess : Int} (hiff : fits = true ↔ Fits num den guess)
      (hguess : Fills num den guess) (hnext : Fits num den (guess + 1)) :
      Fits num den (if fits then guess else guess + 1) ∧
        Fills num den (if fits then guess else guess + 1) := by
    split
    · next h => exact ⟨hiff.1 h, hguess⟩
    · next h => exact ⟨hnext, fills_add_one_of_not_fits (hiff.not.1 h)⟩
  obtain ⟨hfits, hfills⟩ := hspec (decide_eq_true_iff.trans fits_iff.symm) (fills_guess hn)
    (fits_guess_add_one hd)
  rw [ofRatio]
  split
  · next h => exact absurd h hn
  · refine ⟨_, ⟨le_max_right _ _, hfits.mono (le_max_left _ _), ?_⟩, rounded_eq negative num den _⟩
    -- the mantissa is full unless the exponent is the least
    rcases max_choice (α := Int) _ leastExponent with h | h
    · exact .inl (h.symm ▸ hfills)
    · exact .inr h

/-- What is rounded with an exponent that suits it is normal. -/
theorem Suits.isNormal (h : Suits num den e) (hd : 0 < den) :
    IsNormal (rounded num den e).1 (rounded num den e).2 := by
  have hpos : 0 < den * power 2 e := Nat.mul_pos hd (power_pos (by decide) e)
  have hle := nearest_le_of_lt hpos (fits_iff.1 h.fits)
  have hfull := h.fills.imp_left fun h => le_nearest_of_le hpos (fills_iff.1 h)
  simp only [rounded]
  split
  · -- rounded up to one digit more
    have hlt : leastFull < 2 * leastFull := by decide
    exact ⟨hlt, Int.le_trans h.le (Int.le_add_one (Int.le_refl e)), .inl (Nat.le_refl _)⟩
  · next hne => exact ⟨Nat.lt_of_le_of_ne hle hne, h.le, hfull⟩

end

/-- A number that rounding can give: a canonical one whose exponent is not too great. -/
inductive IsRepresentable : Binary64 → Prop where
  | nan : IsRepresentable .nan
  | infinite (negative : Bool) : IsRepresentable (.infinite negative)
  | finite (negative : Bool) {m : Nat} {e : Int} (h : IsNormal m e) (he : e ≤ greatestExponent) :
      IsRepresentable (.finite negative m e)

theorem IsRepresentable.isCanonical {x : Binary64} (h : x.IsRepresentable) : x.IsCanonical := by
  cases h with
  | nan => exact .nan
  | infinite negative => exact .infinite negative
  | finite negative h _ => exact .finite negative h

theorem zero_isRepresentable (negative : Bool) : IsRepresentable (zero negative) :=
  .finite negative ⟨by decide, Int.le_refl _, .inr rfl⟩ (by decide)

theorem ofRatio_isRepresentable (negative : Bool) (num : Nat) {den : Nat} (hd : den ≠ 0) :
    IsRepresentable (ofRatio negative num den) := by
  rcases eq_or_ne num 0 with rfl | hn
  · exact zero_isRepresentable negative
  · obtain ⟨e, hsuits, heq⟩ := exists_rounded negative hn hd
    rw [heq]
    split
    · exact .infinite negative
    · next hle => exact .finite negative (hsuits.isNormal (Nat.pos_of_ne_zero hd)) (not_lt.1 hle)

/-- A rounded number is canonical, and its exponent is not too great. -/
theorem ofDecimal_isRepresentable (negative : Bool) (digits : Nat) (exponent : Int) :
    IsRepresentable (ofDecimal negative digits exponent) := by
  have hden : power 10 (-exponent) ≠ 0 := (power_pos (by decide) _).ne'
  simp only [ofDecimal]
  split
  · exact zero_isRepresentable negative
  · split
    · exact .infinite negative
    · split
      · exact zero_isRepresentable negative
      · exact ofRatio_isRepresentable negative _ hden

end Binary64

/-! ## Numbers in texts -/

namespace Text

open Binary64

theorem number?_isRepresentable {cs : List Char} {x : Binary64} (h : number? cs = some x) :
    x.IsRepresentable := by
  simp only [number?] at h
  split at h
  · split at h
    · exact Option.some_inj.1 h ▸ ofDecimal_isRepresentable _ _ _
    · simp at h
  · simp at h

theorem wordNumber?_isRepresentable {cs : List Char} {x : Binary64} (h : wordNumber? cs = some x) :
    x.IsRepresentable := by
  simp only [wordNumber?] at h
  split at h
  · exact Option.some_inj.1 h ▸ .infinite _
  · split at h
    · exact Option.some_inj.1 h ▸ .nan
    · simp at h

/-- The number that a text spells is a rounded one. -/
theorem decimal?_isRepresentable {cs : List Char} {x : Binary64} (h : decimal? cs = some x) :
    x.IsRepresentable := by
  have hreal : real? cs = some x := (Option.filter_eq_some_iff.1 h).1
  rw [real?] at hreal
  cases hn : number? cs with
  | some y =>
    rw [hn, Option.some_or] at hreal
    exact Option.some_inj.1 hreal ▸ number?_isRepresentable hn
  | none =>
    rw [hn, Option.none_or] at hreal
    exact wordNumber?_isRepresentable hreal

end Text

end SequenceApi
