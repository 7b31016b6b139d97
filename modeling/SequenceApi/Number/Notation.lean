import SequenceApi.Number.Binary64

/-!
# Notations of natural numbers

A natural number is written with a set number of decimal places, with a power of ten, or in the one
of the two that suits its size. Its whole part may be cut into groups.

## Main definitions

* `Notation.grouped`: digits in groups, filled up with zeros
* `Notation.fixed`, `Notation.scientific`, `Notation.general`: the notations, each as the whole part
  and what follows it
-/

namespace SequenceApi.Notation

/-- Digits from the last to the first, in groups of `size` with a mark between them. Zeros fill them
up to `width` characters, but no mark comes first. The first argument bounds the number of
groups. -/
def groupsFrom (mark : Char) (size : Nat) : Nat → List Char → Nat → List Char
  | 0, digits, _ => digits
  | fuel + 1, digits, width =>
    let length := min size (max (max digits.length width) 1)
    let group := digits.take length ++ List.replicate (length - digits.length) '0'
    let rest := digits.drop length
    if rest.isEmpty && width ≤ length then group
    else group ++ mark :: groupsFrom mark size fuel rest (width - length - 1)

/-- Digits in groups of `size`, filled up to `width` characters with zeros. -/
def grouped (mark : Char) (size width : Nat) (digits : List Char) : List Char :=
  (groupsFrom mark size (digits.length + width + 1) digits.reverse width).reverse

/-- Digits filled up to `width` characters with zeros. -/
def filled (width : Nat) (digits : List Char) : List Char :=
  List.replicate (width - digits.length) '0' ++ digits

/-- Digits after a point; without any, the point stands only if it is asked for. -/
def fraction (point : Bool) (digits : List Char) : List Char :=
  if digits.isEmpty && !point then [] else '.' :: digits

/-- The number with `places` decimal places. -/
def fixed (point : Bool) (places n : Nat) : List Char × List Char :=
  (Nat.toDigits 10 n, fraction point (List.replicate places '0'))

/-- The first `count` digits of a number, rounded, and the power of ten of the first of them. A tie
goes to the even digit. -/
def significant (count n : Nat) : List Char × Nat :=
  let digits := Nat.toDigits 10 n
  if digits.length ≤ count then
    (digits ++ List.replicate (count - digits.length) '0', digits.length - 1)
  else
    let rounded := Nat.toDigits 10 (Binary64.nearest n (Binary64.power 10 (digits.length - count)))
    if rounded.length ≤ count then
      (rounded ++ List.replicate (count - rounded.length) '0', digits.length - 1)
    else (rounded.take count, digits.length)

/-- The power of ten at the end of a number, with two digits at least. -/
def power (e : Nat) : List Char :=
  'e' :: '+' :: filled 2 (Nat.toDigits 10 e)

/-- The number with one digit before the point, `places` after it, and a power of ten. -/
def scientific (point : Bool) (places n : Nat) : List Char × List Char :=
  let (digits, e) := significant (places + 1) n
  (digits.take 1, fraction point (digits.drop 1) ++ power e)

/-- The digits without the zeros at the end. -/
def withoutZeros (digits : List Char) : List Char :=
  (digits.reverse.dropWhile (· == '0')).reverse

/-- The number with `count` digits in all, but at least one: with a power of ten if it has more
digits before the point. Zeros at the end are dropped, unless the point is asked for. -/
def general (point : Bool) (count n : Nat) : List Char × List Char :=
  let count := max count 1
  let (digits, e) := significant count n
  let kept (ds : List Char) := if point then ds else withoutZeros ds
  if count ≤ e then (digits.take 1, fraction point (kept (digits.drop 1)) ++ power e)
  else (digits.take (e + 1), fraction point (kept (digits.drop (e + 1))))

end SequenceApi.Notation
