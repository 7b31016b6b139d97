/-!
# Double-precision numbers

The numbers of binary64 arithmetic as exact values: a sign, a mantissa below `2 ^ 53` and a power
of two. Reading rounds an exact ratio to the nearest such number, and a tie goes to the even
mantissa.

## Main definitions

* `Binary64`: not a number, the two infinities, and the finite values
* `Binary64.power`: powers of two and of ten
* `Binary64.ofRatio`, `Binary64.ofDecimal`: the number nearest to an exact value
* `Binary64.isIntegral`: a finite value without a fractional part
* `Binary64.add`, `Binary64.mul`: rounded sum and product

## Main results

* `Binary64.nearest_le`, `Binary64.le_nearest`: the rounded quotient is within half of the exact one
-/

namespace SequenceApi

/-- A binary64 number. A finite one stands for `mantissa * 2 ^ exponent` with its sign. -/
inductive Binary64 where
  | nan
  | infinite (negative : Bool)
  | finite (negative : Bool) (mantissa : Nat) (exponent : Int)
  deriving DecidableEq, Repr

namespace Binary64

/-- The least exponent of a finite number. -/
def leastExponent : Int := -1074

/-- The greatest exponent of a finite number. -/
def greatestExponent : Int := 971

/-- The zero with a sign. -/
def zero (negative : Bool) : Binary64 :=
  .finite negative 0 leastExponent

/-- The natural number nearest to `num / den`; a tie goes to the even one. -/
def nearest (num den : Nat) : Nat :=
  let q := num / den
  let r := num % den
  if 2 * r < den then q
  else if 2 * r = den then (if q % 2 = 0 then q else q + 1)
  else q + 1

/-- The power of a base; a negative exponent counts as zero. The value of `base ^ e` for any
exponent is therefore the ratio of `power base e` and `power base (-e)`. -/
def power (base : Nat) (e : Int) : Nat :=
  Nat.pow base e.toNat

/-- The least mantissa with 53 binary digits. -/
def leastFull : Nat :=
  power 2 52

/-- The number of binary digits. -/
def bitLength (n : Nat) : Nat :=
  if n = 0 then 0 else Nat.log2 n + 1

/-- The number nearest to `num / den`, where `den` is not zero. The exponent is chosen so that the
mantissa has 53 binary digits, unless the value is too small for that. -/
def ofRatio (negative : Bool) (num den : Nat) : Binary64 :=
  if num = 0 then zero negative
  else
    let guess : Int := (bitLength num : Int) - bitLength den - 53
    let fits (e : Int) : Bool :=
      -- The quotient by `2 ^ e` is below `2 ^ 53`.
      num * power 2 (-e) < den * power 2 e * (2 * leastFull)
    let e := if fits guess then guess else guess + 1
    let e := max e leastExponent
    let m := nearest (num * power 2 (-e)) (den * power 2 e)
    let (m, e) := if m = 2 * leastFull then (leastFull, e + 1) else (m, e)
    if greatestExponent < e then .infinite negative else .finite negative m e

/-- The number nearest to `digits * 10 ^ exponent`. Values far outside the range are settled by the
number of digits, before any power is computed. -/
def ofDecimal (negative : Bool) (digits : Nat) (exponent : Int) : Binary64 :=
  if digits = 0 then zero negative
  else
    -- The value lies between ten to the power of `size - 1` and of `size`.
    let size : Int := (Nat.toDigits 10 digits).length + exponent
    if 400 < size then .infinite negative
    else if size < -400 then zero negative
    else ofRatio negative (digits * power 10 exponent) (power 10 (-exponent))

/-- Neither an infinity nor undefined. -/
def isFinite : Binary64 → Bool
  | .finite .. => true
  | _ => false

/-- Either zero. -/
def isZero : Binary64 → Bool
  | .finite _ m _ => m == 0
  | _ => false

/-- The integer that a finite number is equal to, if there is one. -/
def toInt? : Binary64 → Option Int
  | .finite negative m e =>
    let signed (n : Nat) : Int := if negative then -n else n
    let whole := m * power 2 e
    let parts := power 2 (-e)
    if whole % parts = 0 then some (signed (whole / parts)) else none
  | _ => none

/-- A finite number without a fractional part. -/
def isIntegral (x : Binary64) : Bool :=
  x.toInt?.isSome

/-- A finite number as a multiple of the least positive one, which every finite number is. -/
def units : Binary64 → Option Int
  | .finite negative m e =>
    let n := m * power 2 (e - leastExponent)
    some (if negative then -n else n)
  | _ => none

/-- The number nearest to a multiple of the least positive one. -/
def ofUnits (n : Int) : Binary64 :=
  ofRatio (n < 0) n.natAbs (power 2 (-leastExponent))

/-- The rounded sum. Infinities of different signs have none, and a sum of zero is positive. -/
def add : Binary64 → Binary64 → Binary64
  | .nan, _ | _, .nan => .nan
  | .infinite a, .infinite b => if a = b then .infinite a else .nan
  | .infinite a, .finite .. | .finite .., .infinite a => .infinite a
  | x, y =>
    match x.units, y.units with
    | some a, some b => ofUnits (a + b)
    | _, _ => .nan

/-- The rounded product. An infinity and a zero have none. -/
def mul : Binary64 → Binary64 → Binary64
  | .nan, _ | _, .nan => .nan
  | .infinite a, .infinite b => .infinite (a != b)
  | .infinite a, .finite b m _ | .finite b m _, .infinite a =>
    if m = 0 then .nan else .infinite (a != b)
  | .finite a m e, .finite b n f =>
    ofRatio (a != b) (m * n * power 2 (e + f)) (power 2 (-(e + f)))

/-- The number nearest to a natural number. -/
def ofNat (n : Nat) : Binary64 :=
  ofRatio false n 1

/-- The number with the other sign. -/
def neg : Binary64 → Binary64
  | .nan => .nan
  | .infinite s => .infinite (!s)
  | .finite s m e => .finite (!s) m e

/-! ## Rounding -/

theorem nearest_le (num : Nat) {den : Nat} (h : 0 < den) :
    2 * (nearest num den * den) ≤ 2 * num + den := by
  have hd : den * (num / den) + num % den = num := Nat.div_add_mod num den
  have hr : num % den < den := Nat.mod_lt _ h
  have hc : num / den * den = den * (num / den) := Nat.mul_comm ..
  simp only [nearest]
  split
  · omega
  · split
    · split
      · omega
      · rw [Nat.add_mul]; omega
    · rw [Nat.add_mul]; omega

theorem le_nearest (num : Nat) {den : Nat} (h : 0 < den) :
    2 * num ≤ 2 * (nearest num den * den) + den := by
  have hd : den * (num / den) + num % den = num := Nat.div_add_mod num den
  have hr : num % den < den := Nat.mod_lt _ h
  have hc : num / den * den = den * (num / den) := Nat.mul_comm ..
  simp only [nearest]
  split
  · omega
  · split
    · split
      · omega
      · rw [Nat.add_mul]; omega
    · rw [Nat.add_mul]; omega

end Binary64

end SequenceApi
