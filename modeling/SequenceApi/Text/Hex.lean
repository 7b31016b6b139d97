/-!
# Hexadecimal digits

Escapes name a code point by a fixed number of hexadecimal digits.

## Main definitions

* `hexDigits width n`: the last `width` hexadecimal digits of `n`, in lower case
* `hexValue`: the value of a hexadecimal digit in either case
* `hexNumber`: the number that digits spell

## Main results

* `hexNumber_hexDigits`: the digits of a number spell it
-/

namespace SequenceApi.Text

/-- The hexadecimal digit of a number below sixteen, in lower case. -/
def hexDigit (n : Nat) : Char :=
  Char.ofNat (if n < 10 then 48 + n else 87 + n)

/-- The last `width` hexadecimal digits of `n`, most significant first. -/
def hexDigits : Nat → Nat → List Char
  | 0, _ => []
  | width + 1, n => hexDigits width (n / 16) ++ [hexDigit (n % 16)]

/-- The same digits in upper case. -/
def upperHexDigits (width n : Nat) : List Char :=
  (hexDigits width n).map Char.toUpper

/-- The value of a hexadecimal digit. -/
def hexValue (c : Char) : Option Nat :=
  let n := c.toNat
  if 48 ≤ n && n ≤ 57 then some (n - 48)
  else if 97 ≤ n && n ≤ 102 then some (n - 87)
  else if 65 ≤ n && n ≤ 70 then some (n - 55)
  else none

/-- The number that hexadecimal digits spell, if all are digits. -/
def hexNumber (cs : List Char) : Option Nat :=
  cs.foldlM (fun n c => (hexValue c).map (16 * n + ·)) 0

@[simp] theorem length_hexDigits (width n : Nat) : (hexDigits width n).length = width := by
  induction width generalizing n with
  | zero => rfl
  | succ w ih => simp [hexDigits, ih]

theorem hexValue_hexDigit {n : Nat} (h : n < 16) : hexValue (hexDigit n) = some n := by
  have hall : ∀ k < 16, hexValue (hexDigit k) = some k := by decide
  exact hall n h

theorem hexNumber_hexDigits (width : Nat) {n : Nat} (h : n < Nat.pow 16 width) :
    hexNumber (hexDigits width n) = some n := by
  induction width generalizing n with
  | zero =>
    obtain rfl : n = 0 := Nat.lt_one_iff.1 h
    rfl
  | succ width ih =>
    have hlt : n < Nat.pow 16 width * 16 := h
    have hinit := ih (Nat.div_lt_of_lt_mul (by rwa [Nat.mul_comm]))
    rw [hexNumber] at hinit
    rw [hexNumber, hexDigits, List.foldlM_append, hinit]
    have hlast := hexValue_hexDigit (Nat.mod_lt n (by decide : 0 < 16))
    simp only [Option.bind_eq_bind, Option.bind_some, List.foldlM_cons, List.foldlM_nil, hlast,
      Option.map_some, Option.pure_def]
    congr 1
    omega

/-- Numbers that are small enough for their digits are told apart by them. -/
theorem hexDigits_inj (width : Nat) {m n : Nat} (hm : m < Nat.pow 16 width)
    (hn : n < Nat.pow 16 width) (h : hexDigits width m = hexDigits width n) : m = n := by
  have hnumber := congrArg hexNumber h
  rw [hexNumber_hexDigits width hm, hexNumber_hexDigits width hn] at hnumber
  exact Option.some_inj.1 hnumber

end SequenceApi.Text
