import SequenceApi.Number.Binary64
import SequenceApi.Text.Blank
import SequenceApi.Text.Digit

/-!
# Numerals in fields

A bound of a field rule is written as people write numbers: with a sign, digits of any script, and
single underscores between digits. An integer has at most 4300 digits.

## Main definitions

* `integer?`: the integer that a text spells
* `number?`, `real?`: the binary64 number that a text spells by digits, or by digits or a word
* `decimal?`: the binary64 number that a text spells, if it is finite
* `longestInteger`: how many digits an integer may have
-/

namespace SequenceApi.Text

/-- An integer has at most this many digits, leading zeros included. -/
def longestInteger : Nat := 4300

/-- A blank that may stand around a number. The four separators of ASCII may not. -/
def isMargin (c : Char) : Bool :=
  isBlank c && !(0x1C ≤ c.toNat && c.toNat ≤ 0x1F)

/-- A text without the blanks that may stand around a number. -/
def withoutMargins (cs : List Char) : List Char :=
  ((cs.dropWhile isMargin).reverse.dropWhile isMargin).reverse

/-- The digits that follow a digit, with single underscores between digits, and the rest. -/
def moreDigits : List Char → List Char × List Char
  | [] => ([], [])
  | [c] => if isDigit c then ([c], []) else ([], [c])
  | c :: d :: cs =>
    if isDigit c then
      let (ds, rest) := moreDigits (d :: cs)
      (c :: ds, rest)
    else if c == '_' && isDigit d then
      let (ds, rest) := moreDigits cs
      (d :: ds, rest)
    else ([], c :: d :: cs)

/-- A run of digits with single underscores between digits, and the rest of the text. Nothing if
the text does not start with a digit. -/
def digitRun? (cs : List Char) : Option (List Char × List Char) :=
  match cs with
  | [] => none
  | c :: _ => if isDigit c then some (moreDigits cs) else none

/-- A sign, if there is one: whether it is a minus, and the rest of the text. -/
def sign : List Char → Bool × List Char
  | '-' :: cs => (true, cs)
  | '+' :: cs => (false, cs)
  | cs => (false, cs)

/-- The digits of the integer that the whole text spells, between optional blanks, and whether a
minus stands in front. -/
def integerDigits? (cs : List Char) : Option (Bool × List Char) :=
  let (negative, cs) := sign (withoutMargins cs)
  match digitRun? cs with
  | some (ds, []) => some (negative, ds)
  | _ => none

/-- The integer that the whole text spells, if it is not too long. -/
def integer? (cs : List Char) : Option Int :=
  match integerDigits? cs with
  | some (negative, ds) =>
    if ds.length ≤ longestInteger then
      some (if negative then -(digitsValue ds : Int) else digitsValue ds)
    else none
  | none => none

/-- An exponent part at the start of a text, if it is complete, and the rest. -/
def exponentPart (cs : List Char) : Int × List Char :=
  match cs with
  | e :: rest =>
    if e == 'e' || e == 'E' then
      let (negative, digits) := sign rest
      match digitRun? digits with
      | some (ds, r) => (if negative then -(digitsValue ds : Int) else digitsValue ds, r)
      | none => (0, cs)
    else (0, cs)
  | [] => (0, cs)

/-- Digits with an optional point among them or at either end: all digits, how many follow the
point, and the rest. -/
def pointed? (cs : List Char) : Option (List Char × Nat × List Char) :=
  let (whole, rest) := (digitRun? cs).getD ([], cs)
  match rest with
  | '.' :: r =>
    let (fraction, r') := (digitRun? r).getD ([], r)
    if whole.isEmpty && fraction.isEmpty then none
    else some (whole ++ fraction, fraction.length, r')
  | _ => if whole.isEmpty then none else some (whole, 0, rest)

/-- The binary64 number nearest to the decimal number that the whole text spells, between optional
blanks. -/
def number? (cs : List Char) : Option Binary64 :=
  let (negative, cs) := sign (withoutMargins cs)
  match pointed? cs with
  | some (ds, places, rest) =>
    let (power, rest) := exponentPart rest
    if rest.isEmpty then some (.ofDecimal negative (digitsValue ds) (power - places)) else none
  | none => none

/-- The number that a word names, in any case of letters: an infinity, or no number at all. -/
def wordNumber? (cs : List Char) : Option Binary64 :=
  let (negative, cs) := sign (withoutMargins cs)
  let word := cs.map Char.toLower
  if word = "inf".toList || word = "infinity".toList then some (.infinite negative)
  else if word = "nan".toList then some .nan
  else none

/-- The binary64 number that the whole text spells, by digits or by a word. -/
def real? (cs : List Char) : Option Binary64 :=
  (number? cs).or (wordNumber? cs)

/-- The binary64 number that the whole text spells, if it is finite. -/
def decimal? (cs : List Char) : Option Binary64 :=
  (real? cs).filter Binary64.isFinite

end SequenceApi.Text
