import SequenceApi.Number.Binary64

/-!
# Shortest decimal texts

A binary64 number is written with the fewest decimal digits that read back as the same number, and
of those nearest to it. Its text is positional from `10 ^ -4` up to `10 ^ 16` and has a power of ten
otherwise; a number without a fractional part keeps a point and a zero.

## Main definitions

* `Decimal`: digits times a power of ten
* `Binary64.shortest`: the fewest digits that read back
* `Binary64.written`: the text of a number
-/

namespace SequenceApi

/-- The number `digits * 10 ^ exponent`. -/
structure Decimal where
  digits : Nat
  exponent : Int
  deriving DecidableEq, Repr

namespace Binary64

/-- The greatest `k` with `10 ^ k ≤ num / den`, for positive `num` and `den`. -/
def magnitude (num den : Nat) : Int :=
  let k : Int := (Nat.toDigits 10 num).length - (Nat.toDigits 10 den).length
  if den * power 10 k ≤ num * power 10 (-k) then k else k - 1

/-- The reals that round to a number, in quarters of the unit of its last place: the least and the
greatest one as multiples of the quarter, and whether these two round to it as well. -/
def roundingInterval (mantissa : Nat) (exponent : Int) : Nat × Nat × Bool :=
  let below := if mantissa = leastFull && leastExponent < exponent then 1 else 2
  (4 * mantissa - below, 4 * mantissa + 2, mantissa % 2 = 0)

/-- The multiple of `10 ^ place` nearest to the number that still rounds to it, if there is one.
The value is `4 * mantissa` quarters, each worth `num / den`. -/
def onGrid? (mantissa : Nat) (exponent : Int) (num den : Nat) (place : Int) : Option Decimal :=
  let (low, high, closed) := roundingInterval mantissa exponent
  -- In units of the grid, a quarter is worth `n / d`.
  let n := num * power 10 (-place)
  let d := den * power 10 place
  let inside (c : Nat) : Bool :=
    if closed then low * n ≤ c * d && c * d ≤ high * n else low * n < c * d && c * d < high * n
  let value := 4 * mantissa * n
  let floor := value / d
  let pick (c : Nat) : Option Decimal := some ⟨c, place⟩
  if value % d = 0 then pick floor
  else
    match inside floor, inside (floor + 1) with
    | true, true =>
      let gap := 2 * (value % d)
      if gap < d then pick floor
      else if d < gap then pick (floor + 1)
      else if floor % 2 = 0 then pick floor else pick (floor + 1)
    | true, false => pick floor
    | false, true => pick (floor + 1)
    | false, false => none

/-- The fewest digits that read back as the positive finite number `mantissa * 2 ^ exponent`.
Seventeen digits always do. -/
def shortest (mantissa : Nat) (exponent : Int) : Decimal :=
  let quarter := exponent - 2
  let num := power 2 quarter
  let den := power 2 (-quarter)
  let k := magnitude (4 * mantissa * num) den
  let grids := (List.range 17).map fun (i : Nat) => k - (i : Int)
  (grids.findSome? (onGrid? mantissa exponent num den)).getD ⟨mantissa, exponent⟩

/-- The text of a positive decimal: positional where the point lies at most sixteen digits to the
right of the first digit and at most three zeros before it. -/
def layOut (x : Decimal) : List Char :=
  let digits := (Nat.toDigits 10 x.digits).reverse.dropWhile (· == '0') |>.reverse
  let dropped := (Nat.toDigits 10 x.digits).length - digits.length
  let point : Int := digits.length + x.exponent + dropped
  if -4 < point && point ≤ 16 then
    if point ≤ 0 then '0' :: '.' :: List.replicate (-point).toNat '0' ++ digits
    else if digits.length ≤ point.toNat then
      digits ++ List.replicate (point.toNat - digits.length) '0' ++ ['.', '0']
    else digits.take point.toNat ++ '.' :: digits.drop point.toNat
  else
    let power := point - 1
    let places := Nat.toDigits 10 power.natAbs
    let places := if places.length < 2 then '0' :: places else places
    let fraction := digits.drop 1
    digits.take 1 ++ (if fraction.isEmpty then [] else '.' :: fraction) ++
      'e' :: (if power < 0 then '-' else '+') :: places

/-- The texts of the values that are not finite, in one format. -/
structure SpecialNames where
  nan : String
  infinity : String

/-- The text of a number, where `names` gives the words for the values that are not finite. -/
def writtenWith (names : SpecialNames) : Binary64 → String
  | .nan => names.nan
  | .infinite negative => (if negative then "-" else "") ++ names.infinity
  | .finite negative m e =>
    let body := if m = 0 then ['0', '.', '0'] else layOut (shortest m e)
    String.ofList (if negative then '-' :: body else body)

/-- The text of a number in messages. -/
def written : Binary64 → String :=
  writtenWith ⟨"nan", "inf"⟩

end Binary64

end SequenceApi
