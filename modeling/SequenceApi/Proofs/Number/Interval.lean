import SequenceApi.Number.Shortest
import SequenceApi.Proofs.Number.Canonical

/-!
# Rounding intervals

The reals that round to a canonical number make up an interval around it: half a unit of its last
place to both sides, or a quarter of one below a power of two. The ends belong to it if the mantissa
is even. Different numbers have disjoint intervals, and the decimal that is chosen for a number lies
in its interval: a grid of seventeen digits is finer than the interval is wide.

## Main definitions

* `Decimal.value`: the rational number that a decimal is
* `Binary64.RoundsTo`: a rational number that rounds to a mantissa and an exponent

## Main results

* `Binary64.RoundsTo.unique`: it rounds to one canonical number only
* `Binary64.shortest_roundsTo`: the shortest decimal of a number rounds to it
-/

namespace SequenceApi

/-- The rational number that a decimal is. -/
def Decimal.value (x : Decimal) : ℚ :=
  x.digits * 10 ^ x.exponent

namespace Binary64

/-! ## Intervals -/

/-- How many quarters below a number its interval begins. -/
def below (m : Nat) (e : Int) : Nat :=
  if m = leastFull && leastExponent < e then 1 else 2

theorem roundingInterval_eq (m : Nat) (e : Int) :
    roundingInterval m e = (4 * m - below m e, 4 * m + 2, decide (m % 2 = 0)) := rfl

/-- The number is in the interval of what rounds to a mantissa and an exponent. -/
def RoundsTo (m : Nat) (e : Int) (v : ℚ) : Prop :=
  if m % 2 = 0 then
    ((4 * m - below m e : Nat) : ℚ) * 2 ^ (e - 2) ≤ v ∧ v ≤ (4 * m + 2 : Nat) * 2 ^ (e - 2)
  else ((4 * m - below m e : Nat) : ℚ) * 2 ^ (e - 2) < v ∧ v < (4 * m + 2 : Nat) * 2 ^ (e - 2)

section

variable {m m' : Nat} {e e' : Int} {v v' : ℚ}

theorem below_pos : 0 < below m e := by
  rw [below]
  split <;> decide

theorem below_le : below m e ≤ 2 := by
  rw [below]
  split <;> decide

theorem RoundsTo.low_le (h : RoundsTo m e v) :
    ((4 * m - below m e : Nat) : ℚ) * 2 ^ (e - 2) ≤ v := by
  rw [RoundsTo] at h
  split at h
  · exact h.1
  · exact h.1.le

theorem RoundsTo.le_high (h : RoundsTo m e v) : v ≤ (4 * m + 2 : Nat) * 2 ^ (e - 2) := by
  rw [RoundsTo] at h
  split at h
  · exact h.2
  · exact h.2.le

theorem RoundsTo.low_lt (h : RoundsTo m e v) (hm : m % 2 = 1) :
    ((4 * m - below m e : Nat) : ℚ) * 2 ^ (e - 2) < v := by
  rw [RoundsTo, if_neg (by omega)] at h
  exact h.1

theorem RoundsTo.lt_high (h : RoundsTo m e v) (hm : m % 2 = 1) :
    v < (4 * m + 2 : Nat) * 2 ^ (e - 2) := by
  rw [RoundsTo, if_neg (by omega)] at h
  exact h.2

/-- What is strictly between the ends rounds to the number. -/
theorem roundsTo_of_lt (hlow : ((4 * m - below m e : Nat) : ℚ) * 2 ^ (e - 2) < v)
    (hhigh : v < (4 * m + 2 : Nat) * 2 ^ (e - 2)) : RoundsTo m e v := by
  rw [RoundsTo]
  split
  · exact ⟨hlow.le, hhigh.le⟩
  · exact ⟨hlow, hhigh⟩

/-- What rounds to a positive number is positive. -/
theorem RoundsTo.pos (h : RoundsTo m e v) (hm : 0 < m) : 0 < v := by
  refine lt_of_lt_of_le ?_ h.low_le
  have hlow : 0 < 4 * m - below m e := by
    have := below_le (m := m) (e := e)
    omega
  positivity

/-- Of two mantissas with one exponent, what rounds to the lesser one is less. -/
theorem RoundsTo.lt_of_mantissa (hm : IsNormal m e) (hlt : m < m') (h : RoundsTo m e v)
    (h' : RoundsTo m' e v') : v < v' := by
  have hbelow : below m' e = 2 := by
    rw [below, if_neg]
    intro hfull
    simp only [Bool.and_eq_true, decide_eq_true_eq] at hfull
    have := hm.full
    omega
  have hu : (0 : ℚ) < 2 ^ (e - 2) := by positivity
  have hends : ((4 * m + 2 : Nat) : ℚ) * 2 ^ (e - 2) ≤
      (4 * m' - below m' e : Nat) * 2 ^ (e - 2) := by
    gcongr
    omega
  -- the intervals meet only between neighbours, one of which is odd and open
  rcases Nat.lt_or_ge (m + 1) m' with hgap | hgap
  · refine lt_of_le_of_lt h.le_high (lt_of_lt_of_le ?_ h'.low_le)
    gcongr
    omega
  · rcases Nat.mod_two_eq_zero_or_one m with hpar | hpar
    · exact lt_of_le_of_lt h.le_high (lt_of_le_of_lt hends (h'.low_lt (by omega)))
    · exact lt_of_lt_of_le (h.lt_high hpar) (le_trans hends h'.low_le)

/-- The interval of a full mantissa starts where those of all lesser exponents have ended. -/
theorem le_low_of_full (hm' : IsNormal m' e') (he : leastExponent < e') :
    2 * leastFull * 2 - 1 ≤ 4 * m' - below m' e' := by
  have hfull : leastFull ≤ m' := hm'.full.resolve_right he.ne'
  have hpos : 0 < leastFull := by decide
  rw [below]
  split
  · omega
  · next hb =>
    -- the mantissa is not the least full one, which has the shorter half below it
    simp only [Bool.and_eq_true, decide_eq_true_eq, not_and] at hb
    have hne : m' ≠ leastFull := fun h => absurd he (hb h)
    omega

/-- Of two canonical numbers, what rounds to the one with the lesser exponent is less. -/
theorem RoundsTo.lt_of_exponent (hm' : IsNormal m' e') (hm : IsNormal m e) (hlt : e < e')
    (h : RoundsTo m e v) (h' : RoundsTo m' e' v') : v < v' := by
  have hu : (0 : ℚ) < 2 ^ (e - 2) := by positivity
  have hstep : (2 : ℚ) * 2 ^ (e - 2) ≤ 2 ^ (e' - 2) := by
    rw [← zpow_one_add₀ two_ne_zero]
    exact zpow_le_zpow_right₀ one_le_two (by omega)
  have hlow := le_low_of_full hm' (lt_of_le_of_lt hm.le hlt)
  have hlow' : ((2 * leastFull * 2 - 1 : Nat) : ℚ) * (2 * 2 ^ (e - 2)) ≤ v' := by
    refine le_trans ?_ h'.low_le
    gcongr
  have hmax := hm.lt
  have hpos : 0 < leastFull := by decide
  -- the intervals meet only if the lesser mantissa is the greatest, which is odd
  rcases Nat.lt_or_ge (m + 1) (2 * leastFull) with hgap | hgap
  · refine lt_of_le_of_lt h.le_high (lt_of_lt_of_le ?_ hlow')
    rw [← mul_assoc]
    gcongr
    exact_mod_cast (by omega : 4 * m + 2 < (2 * leastFull * 2 - 1) * 2)
  · have hodd : m % 2 = 1 := by omega
    refine lt_of_lt_of_le (h.lt_high hodd) (le_trans ?_ hlow')
    rw [← mul_assoc]
    gcongr
    exact_mod_cast (by omega : 4 * m + 2 ≤ (2 * leastFull * 2 - 1) * 2)

/-- A number rounds to one canonical number only. -/
theorem RoundsTo.unique (hm : IsNormal m e) (hm' : IsNormal m' e') (h : RoundsTo m e v)
    (h' : RoundsTo m' e' v) : m = m' ∧ e = e' := by
  rcases lt_trichotomy e e' with hlt | rfl | hlt
  · exact absurd (h.lt_of_exponent hm' hm hlt h') (lt_irrefl v)
  · rcases lt_trichotomy m m' with hlt | rfl | hlt
    · exact absurd (h.lt_of_mantissa hm hlt h') (lt_irrefl v)
    · exact ⟨rfl, rfl⟩
    · exact absurd (h'.lt_of_mantissa hm' hlt h) (lt_irrefl v)
  · exact absurd (h'.lt_of_exponent hm hm' hlt h) (lt_irrefl v)

end

/-! ## Grids -/

section

variable {m : Nat} {e place : Int}

/-- Multiples of the quarter and of the grid are compared after both are multiplied by one positive
number. -/
theorem exists_scale (e place : Int) :
    ∃ s : ℚ, 0 < s ∧
      (∀ x : Nat, ((x * (power 2 (e - 2) * power 10 (-place)) : Nat) : ℚ) =
        s * (x * 2 ^ (e - 2))) ∧
      ∀ c : Nat, ((c * (power 2 (-(e - 2)) * power 10 place) : Nat) : ℚ) =
        s * (c * 10 ^ place) := by
  have hquarter : (0 : ℚ) < power 2 (-(e - 2)) := by exact_mod_cast power_pos (by decide) _
  have hgrid : (0 : ℚ) < power 10 (-place) := by exact_mod_cast power_pos (by decide) _
  refine ⟨power 2 (-(e - 2)) * power 10 (-place), mul_pos hquarter hgrid, fun x => ?_, fun c => ?_⟩
  · have h := power_div_power 2 (e - 2)
    rw [div_eq_iff hquarter.ne'] at h
    push_cast at h ⊢
    rw [h]
    ring
  · have h := power_div_power 10 place
    rw [div_eq_iff hgrid.ne'] at h
    push_cast at h ⊢
    rw [h]
    ring

/-- The test of the model says whether a multiple of the grid rounds to the number. -/
theorem inside_iff (c : Nat) :
    (if decide (m % 2 = 0) = true then
        decide ((4 * m - below m e) * (power 2 (e - 2) * power 10 (-place)) ≤
          c * (power 2 (-(e - 2)) * power 10 place)) &&
        decide (c * (power 2 (-(e - 2)) * power 10 place) ≤
          (4 * m + 2) * (power 2 (e - 2) * power 10 (-place)))
      else
        decide ((4 * m - below m e) * (power 2 (e - 2) * power 10 (-place)) <
          c * (power 2 (-(e - 2)) * power 10 place)) &&
        decide (c * (power 2 (-(e - 2)) * power 10 place) <
          (4 * m + 2) * (power 2 (e - 2) * power 10 (-place)))) = true ↔
      RoundsTo m e (c * 10 ^ place) := by
  obtain ⟨s, hs, hx, hc⟩ := exists_scale e place
  rw [RoundsTo]
  split
  · next h =>
    rw [if_pos (by simpa using h), Bool.and_eq_true, decide_eq_true_iff, decide_eq_true_iff,
      ← Nat.cast_le (α := ℚ), ← Nat.cast_le (α := ℚ), hx, hx, hc, mul_le_mul_iff_right₀ hs,
      mul_le_mul_iff_right₀ hs]
  · next h =>
    rw [if_neg (by simpa using h), Bool.and_eq_true, decide_eq_true_iff, decide_eq_true_iff,
      ← Nat.cast_lt (α := ℚ), ← Nat.cast_lt (α := ℚ), hx, hx, hc, mul_lt_mul_iff_right₀ hs,
      mul_lt_mul_iff_right₀ hs]

/-- A number rounds to itself. -/
theorem roundsTo_self (hm : 0 < m) : RoundsTo m e (4 * m * 2 ^ (e - 2)) := by
  have hu : (0 : ℚ) < 2 ^ (e - 2) := by positivity
  have hb := below_pos (m := m) (e := e)
  refine roundsTo_of_lt ?_ ?_
  · gcongr
    exact_mod_cast (by omega : 4 * m - below m e < 4 * m)
  · gcongr
    exact_mod_cast (by omega : 4 * m < 4 * m + 2)

/-- What is chosen on a grid rounds to the number. -/
theorem roundsTo_of_onGrid? (hm : 0 < m) {x : Decimal}
    (h : onGrid? m e (power 2 (e - 2)) (power 2 (-(e - 2))) place = some x) :
    RoundsTo m e x.value := by
  obtain ⟨s, hs, hx, hc⟩ := exists_scale e place
  simp only [onGrid?, roundingInterval_eq] at h
  split at h
  · next hexact =>
    obtain rfl := Option.some_inj.1 h
    have hself := Nat.div_mul_cancel (Nat.dvd_of_mod_eq_zero hexact)
    rw [← Nat.cast_inj (R := ℚ), hc, hx] at hself
    rw [Decimal.value, mul_left_cancel₀ hs.ne' hself]
    exact_mod_cast roundsTo_self hm
  · -- every other choice passed the test
    split at h
    · next hfloor hnext =>
      have hfloor' := (inside_iff _).1 hfloor
      have hnext' := (inside_iff _).1 hnext
      split at h
      · obtain rfl := Option.some_inj.1 h
        exact hfloor'
      · split at h
        · obtain rfl := Option.some_inj.1 h
          exact hnext'
        · split at h
          · obtain rfl := Option.some_inj.1 h
            exact hfloor'
          · obtain rfl := Option.some_inj.1 h
            exact hnext'
    · next hfloor _ =>
      obtain rfl := Option.some_inj.1 h
      exact (inside_iff _).1 hfloor
    · next _ hnext =>
      obtain rfl := Option.some_inj.1 h
      exact (inside_iff _).1 hnext
    · simp at h

/-- Of two neighbours on a grid that is finer than the interval is wide, with the number between
them, one rounds to the number. -/
theorem roundsTo_or_succ {c : Nat} (hm : 0 < m)
    (hwide : (10 : ℚ) ^ place < (below m e + 2 : Nat) * 2 ^ (e - 2))
    (hlow : (c : ℚ) * 10 ^ place ≤ 4 * m * 2 ^ (e - 2))
    (hhigh : (4 * m * 2 ^ (e - 2) : ℚ) < (c + 1 : Nat) * 10 ^ place) :
    RoundsTo m e (c * 10 ^ place) ∨ RoundsTo m e ((c + 1 : Nat) * 10 ^ place) := by
  have hu : (0 : ℚ) < 2 ^ (e - 2) := by positivity
  have hb := below_le (m := m) (e := e)
  by_cases hnear : ((4 * m - below m e : Nat) : ℚ) * 2 ^ (e - 2) < c * 10 ^ place
  · -- the lower neighbour is near enough
    refine .inl (roundsTo_of_lt hnear (lt_of_le_of_lt hlow ?_))
    push_cast
    linarith
  · -- it is too far below, and so the upper neighbour is near
    refine .inr (roundsTo_of_lt ?_ ?_)
    · refine lt_of_le_of_lt ?_ hhigh
      gcongr
      exact_mod_cast Nat.sub_le _ _
    · rw [not_lt, Nat.cast_sub (by omega)] at hnear
      push_cast at hnear hwide ⊢
      linarith

/-- A grid that is finer than the interval is wide has a place in it next to the number. -/
theorem onGrid?_isSome (hm : 0 < m)
    (hwide : (10 : ℚ) ^ place < (below m e + 2 : Nat) * 2 ^ (e - 2)) :
    (onGrid? m e (power 2 (e - 2)) (power 2 (-(e - 2))) place).isSome = true := by
  obtain ⟨s, hs, hx, hc⟩ := exists_scale e place
  simp only [onGrid?, roundingInterval_eq]
  split
  · rfl
  · next hexact =>
    generalize hfloor :
      4 * m * (power 2 (e - 2) * power 10 (-place)) / (power 2 (-(e - 2)) * power 10 place) = c
    have hd : 0 < power 2 (-(e - 2)) * power 10 place :=
      Nat.mul_pos (power_pos (by decide) _) (power_pos (by decide) _)
    -- the number is between two neighbours of the grid
    have hlow : (c : ℚ) * 10 ^ place ≤ 4 * m * 2 ^ (e - 2) := by
      have h : c * (power 2 (-(e - 2)) * power 10 place) ≤
          4 * m * (power 2 (e - 2) * power 10 (-place)) := hfloor ▸ Nat.div_mul_le_self _ _
      rw [← Nat.cast_le (α := ℚ), hx, hc, mul_le_mul_iff_right₀ hs] at h
      exact_mod_cast h
    have hhigh : (4 * m * 2 ^ (e - 2) : ℚ) < (c + 1 : Nat) * 10 ^ place := by
      have h : 4 * m * (power 2 (e - 2) * power 10 (-place)) <
          (c + 1) * (power 2 (-(e - 2)) * power 10 place) := by
        rw [← hfloor, Nat.mul_comm (_ / _ + 1)]
        exact Nat.lt_mul_div_succ _ hd
      rw [← Nat.cast_lt (α := ℚ), hx, hc, mul_lt_mul_iff_right₀ hs] at h
      exact_mod_cast h
    have hone := roundsTo_or_succ hm hwide hlow hhigh
    -- something is chosen unless both neighbours fail the test
    split
    · split
      · rfl
      · split
        · rfl
        · split <;> rfl
    · rfl
    · rfl
    · next hfloor hnext =>
      rcases hone with h | h
      · exact absurd (hfloor.symm.trans ((inside_iff _).2 h)) Bool.false_ne_true
      · exact absurd (hnext.symm.trans ((inside_iff _).2 h)) Bool.false_ne_true

end

/-! ## Seventeen digits -/

theorem lt_ten_zpow_length (n : Nat) : (n : ℚ) < 10 ^ ((Nat.toDigits 10 n).length : Int) := by
  have h := (Nat.length_toDigits_le_iff (n := n) (by decide : 1 < 10)
    Nat.length_toDigits_pos).1 (Nat.le_refl _)
  exact_mod_cast h

theorem ten_zpow_length_sub_one_le {n : Nat} (hn : 0 < n) :
    (10 : ℚ) ^ (((Nat.toDigits 10 n).length : Int) - 1) ≤ n := by
  obtain ⟨k, hk⟩ : ∃ k, (Nat.toDigits 10 n).length = k + 1 :=
    Nat.exists_eq_add_one.2 Nat.length_toDigits_pos
  rw [hk, Nat.cast_add, Nat.cast_one, add_sub_cancel_right, zpow_natCast]
  rcases Nat.eq_zero_or_pos k with rfl | hpos
  · rw [pow_zero]
    exact_mod_cast hn
  · have h := (Nat.length_toDigits_le_iff (n := n) (by decide : 1 < 10) hpos).not.1 (by omega)
    exact_mod_cast Nat.le_of_not_lt h

/-- The power of ten of the magnitude is no greater than the quotient. -/
theorem ten_zpow_magnitude_le {num : Nat} (hn : 0 < num) (den : Nat) :
    (den : ℚ) * 10 ^ magnitude num den ≤ num := by
  have hnum := ten_zpow_length_sub_one_le hn
  have hden := lt_ten_zpow_length den
  simp only [magnitude]
  split
  · next h => exact (mul_power_le_iff (by decide) num den _).1 h
  · generalize ((Nat.toDigits 10 num).length : Int) = ln at hnum
    generalize ((Nat.toDigits 10 den).length : Int) = ld at hden
    calc (den : ℚ) * 10 ^ (ln - ld - 1) ≤ 10 ^ ld * 10 ^ (ln - ld - 1) := by gcongr
      _ = 10 ^ (ln - 1) := by
        rw [← zpow_add₀ (by norm_num)]
        congr 1
        ring
      _ ≤ num := hnum

section

variable {m : Nat} {e : Int}

/-- A grid of seventeen digits is finer than the interval is wide. -/
theorem ten_zpow_place_lt (hm : 0 < m) (h : IsNormal m e) :
    (10 : ℚ) ^ (magnitude (4 * m * power 2 (e - 2)) (power 2 (-(e - 2))) - 16) <
      (below m e + 2 : Nat) * 2 ^ (e - 2) := by
  have hu : (0 : ℚ) < 2 ^ (e - 2) := by positivity
  have hquarter : (0 : ℚ) < power 2 (-(e - 2)) := by exact_mod_cast power_pos (by decide) _
  have hnum : 0 < 4 * m * power 2 (e - 2) := Nat.mul_pos (by omega) (power_pos (by decide) _)
  have hmag := ten_zpow_magnitude_le hnum (power 2 (-(e - 2)))
  generalize magnitude (4 * m * power 2 (e - 2)) (power 2 (-(e - 2))) = k at hmag
  have hpower := power_div_power 2 (e - 2)
  rw [div_eq_iff hquarter.ne'] at hpower
  push_cast at hpower hmag
  rw [hpower, mul_comm, ← mul_assoc, mul_le_mul_iff_left₀ hquarter] at hmag
  have hplace : (10 : ℚ) ^ k = 10 ^ 16 * 10 ^ (k - 16) := by
    rw [← zpow_natCast, ← zpow_add₀ (by norm_num)]
    congr 1
    push_cast
    ring
  -- seventeen digits are more than 53 binary ones
  have hwide : 4 * m < (below m e + 2) * 10 ^ 16 := by
    have hlt := h.lt
    rw [leastFull_eq] at hlt
    rw [below]
    split
    · next hb =>
      simp only [Bool.and_eq_true, decide_eq_true_eq] at hb
      rw [hb.1, leastFull_eq]
      decide
    · omega
  have hwide' : (4 * m : ℚ) * 2 ^ (e - 2) < (below m e + 2) * 10 ^ 16 * 2 ^ (e - 2) :=
    mul_lt_mul_of_pos_right (by exact_mod_cast hwide) hu
  push_cast
  linarith

/-- The shortest decimal of a number rounds to it. -/
theorem shortest_roundsTo (hm : 0 < m) (h : IsNormal m e) : RoundsTo m e (shortest m e).value := by
  have hlast := onGrid?_isSome hm (ten_zpow_place_lt hm h)
  simp only [shortest]
  generalize magnitude (4 * m * power 2 (e - 2)) (power 2 (-(e - 2))) = k at hlast
  -- the last of the seventeen grids has a choice, if none before it has
  have hsome : (((List.range 17).map fun (i : Nat) => k - (i : Int)).findSome?
      (onGrid? m e (power 2 (e - 2)) (power 2 (-(e - 2))))).isSome = true :=
    List.findSome?_isSome_iff.2 ⟨k - 16, List.mem_map.2 ⟨16, by decide, rfl⟩, hlast⟩
  obtain ⟨x, hx⟩ := Option.isSome_iff_exists.1 hsome
  rw [hx, Option.getD_some]
  obtain ⟨place, -, hplace⟩ := List.exists_of_findSome?_eq_some hx
  exact roundsTo_of_onGrid? hm hplace

end

end Binary64

end SequenceApi
