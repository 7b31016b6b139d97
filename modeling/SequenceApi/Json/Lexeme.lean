import SequenceApi.Number.Binary64
import SequenceApi.Text.Hex

/-!
# Lexemes of JSON texts

A JSON text is a sequence of lexemes with white space between them: brackets, separators, strings,
numbers and words. Reading one is a matter of its first characters; the sequence ends at the first
place where no lexeme is.

The characters of a text are scalar values. An escape can name half of a surrogate pair without the
other half, which is no character: it is read as the replacement character. So strings that differ
in unpaired halves only are read as one string, where a reader that keeps the halves would tell them
apart; what is proved about strings that are read is proved up to that difference.

## Main definitions

* `Json.Lexeme`: the lexemes, and what stands where none is
* `Json.Fault`: what can be wrong in a JSON text
* `Json.lexemes`: the lexemes of a text, each with its place
-/

namespace SequenceApi.Json

open Text

/-- What is wrong in a text that is no JSON. -/
inductive Fault where
  | noValue
  | noKey
  | noColon
  | noComma
  | moreText
  | unterminated
  | control
  | escape
  | unicodeEscape
  | byteOrderMark
  deriving DecidableEq, Repr

/-- A lexeme, or what stands where no lexeme can be read. -/
inductive Lexeme where
  | openArray
  | closeArray
  | openObject
  | closeObject
  | comma
  | colon
  | null
  | bool (b : Bool)
  | int (n : Int)
  | float (x : Binary64)
  | str (s : String)
  /-- An integer with more digits than integers may have. -/
  | longInt (digits : Nat)
  /-- A string with a fault at a place of the text. -/
  | badStr (fault : Fault) (place : Nat)
  /-- A character that begins no lexeme. -/
  | stray
  deriving DecidableEq, Repr

/-- The white space of JSON. -/
def isSpace (c : Char) : Bool :=
  c == ' ' || c == '\t' || c == '\n' || c == '\r'

/-- An ASCII digit. -/
def isDigit (c : Char) : Bool :=
  '0' ≤ c && c ≤ '9'

/-- The number that ASCII digits spell. -/
def digitsValue (cs : List Char) : Nat :=
  cs.foldl (fun n c => 10 * n + (c.toNat - 48)) 0

/-! ## Strings -/

/-- The character that a backslash and one more character stand for. -/
def shortEscape (c : Char) : Option Char :=
  if c == '\x22' || c == '\\' || c == '/' then some c
  else if c == 'b' then some '\x08'
  else if c == 'f' then some '\x0c'
  else if c == 'n' then some '\n'
  else if c == 'r' then some '\r'
  else if c == 't' then some '\t'
  else none

/-- The first half of a surrogate pair. -/
def isHighSurrogate (n : Nat) : Bool :=
  0xD800 ≤ n && n ≤ 0xDBFF

/-- The second half of a surrogate pair. -/
def isLowSurrogate (n : Nat) : Bool :=
  0xDC00 ≤ n && n ≤ 0xDFFF

/-- The character with a code. An unpaired half of a surrogate pair has none, and the replacement
character stands for it, whichever half it is. -/
def charOfCode (n : Nat) : Char :=
  if h : n.isValidChar then Char.ofNatAux n h else '\ufffd'

/-- The character that a surrogate pair stands for. -/
def charOfPair (high low : Nat) : Char :=
  charOfCode (0x10000 + (high - 0xD800) * 0x400 + (low - 0xDC00))

/-- The code that four hexadecimal digits give. -/
def unitCode (a b c d : Char) : Option Nat :=
  hexNumber [a, b, c, d]

/-- The rest of a string after its opening quote, which stands at `start`; the rest begins at
`place`. The characters of the string come with the number of characters read, the closing quote
included. A string goes on after four digits of an escape, be it only with its closing quote. -/
def strBody (start : Nat) : Nat → List Char → Except (Fault × Nat) (List Char × Nat)
  | _, [] => .error (.unterminated, start)
  | place, '\\' :: 'u' :: a :: b :: c :: d :: '\\' :: 'u' :: e :: f :: g :: h :: x :: rest =>
    match unitCode a b c d with
    | none => .error (.unicodeEscape, place + 1)
    | some high =>
      if isHighSurrogate high then
        match unitCode e f g h with
        | none => .error (.unicodeEscape, place + 7)
        | some low =>
          if isLowSurrogate low then
            (strBody start (place + 12) (x :: rest)).map fun (s, n) =>
              (charOfPair high low :: s, n + 12)
          else
            (strBody start (place + 6) ('\\' :: 'u' :: e :: f :: g :: h :: x :: rest)).map
              fun (s, n) => ('\ufffd' :: s, n + 6)
      else
        (strBody start (place + 6) ('\\' :: 'u' :: e :: f :: g :: h :: x :: rest)).map
          fun (s, n) => (charOfCode high :: s, n + 6)
  | place, '\\' :: 'u' :: a :: b :: c :: d :: x :: rest =>
    match unitCode a b c d with
    | none => .error (.unicodeEscape, place + 1)
    | some code =>
      (strBody start (place + 6) (x :: rest)).map fun (s, n) => (charOfCode code :: s, n + 6)
  | place, '\\' :: 'u' :: _ => .error (.unicodeEscape, place + 1)
  | _, ['\\'] => .error (.unterminated, start)
  | place, '\\' :: c :: rest =>
    match shortEscape c with
    | none => .error (.escape, place)
    | some c => (strBody start (place + 2) rest).map fun (s, n) => (c :: s, n + 2)
  | place, c :: rest =>
    if c == '\x22' then .ok ([], 1)
    else if c.toNat < 0x20 then .error (.control, place)
    else (strBody start (place + 1) rest).map fun (s, n) => (c :: s, n + 1)

/-! ## Numbers -/

/-- The leading digits. -/
def digitsOf (cs : List Char) : List Char :=
  cs.takeWhile isDigit

/-- The integer part of a number: a zero, or digits that start with no zero. -/
def wholePart (cs : List Char) : List Char :=
  match cs with
  | '0' :: _ => ['0']
  | _ => digitsOf cs

/-- The digits after a point, if a point with digits comes next. -/
def fractionPart (cs : List Char) : List Char :=
  match cs with
  | '.' :: r => digitsOf r
  | _ => []

/-- The sign and digits of an exponent, if one comes next: whether it is negative, its digits, and
how many characters it has. -/
def exponentPart (cs : List Char) : Bool × List Char × Nat :=
  match cs with
  | e :: r =>
    if e == 'e' || e == 'E' then
      match r with
      | '-' :: ds => (true, digitsOf ds, 2)
      | '+' :: ds => (false, digitsOf ds, 2)
      | ds => (false, digitsOf ds, 1)
    else (false, [], 0)
  | [] => (false, [], 0)

/-- An integer has at most this many digits. -/
def longestInteger : Nat := 4300

/-- A number at the start of a text, and how many characters it has. -/
def number? (cs : List Char) : Option (Lexeme × Nat) :=
  let negative := cs.head? == some '-'
  let signs := if negative then 1 else 0
  let whole := wholePart (cs.drop signs)
  if whole.isEmpty then none
  else
    let rest := cs.drop (signs + whole.length)
    let fraction := fractionPart rest
    let points := if fraction.isEmpty then 0 else fraction.length + 1
    let (down, power, marks) := exponentPart (rest.drop points)
    if fraction.isEmpty && power.isEmpty then
      let n : Int := digitsValue whole
      let lexeme : Lexeme :=
        if longestInteger < whole.length then .longInt whole.length
        else .int (if negative then -n else n)
      some (lexeme, signs + whole.length)
    else
      let e : Int := digitsValue power
      let x := Binary64.ofDecimal negative (digitsValue (whole ++ fraction))
        ((if down then -e else e) - fraction.length)
      let powers := if power.isEmpty then 0 else marks + power.length
      some (.float x, signs + whole.length + points + powers)

/-! ## The sequence -/

/-- The words and what they stand for. The two infinities and the undefined number are words. -/
def words : List (String × Lexeme) :=
  [("null", .null), ("true", .bool true), ("false", .bool false), ("NaN", .float .nan),
    ("Infinity", .float (.infinite false)), ("-Infinity", .float (.infinite true))]

/-- The word at the start of a text. -/
def word? (cs : List Char) : Option (Lexeme × Nat) :=
  (words.find? fun w => w.1.toList.isPrefixOf cs).map fun w => (w.2, w.1.length)

/-- The lexeme at the start of a text that begins at `place`, and how many characters it has. -/
def lexemeAt (place : Nat) (cs : List Char) : Lexeme × Nat :=
  match cs with
  | '[' :: _ => (.openArray, 1)
  | ']' :: _ => (.closeArray, 1)
  | '\x7b' :: _ => (.openObject, 1)
  | '\x7d' :: _ => (.closeObject, 1)
  | ',' :: _ => (.comma, 1)
  | ':' :: _ => (.colon, 1)
  | '\x22' :: rest =>
    match strBody place (place + 1) rest with
    | .ok (s, n) => (.str (String.ofList s), n + 1)
    | .error (fault, at_) => (.badStr fault at_, 1)
  | _ => ((word? cs).or (number? cs)).getD (.stray, 1)

/-- A lexeme after which no other is read: no JSON text goes on from there. -/
def Lexeme.isLast : Lexeme → Bool
  | .stray | .badStr .. | .longInt _ => true
  | _ => false

/-- The lexemes of a text, each with its place. The first argument counts characters that belong to
the lexeme before, the second is the place of the text. -/
def lexemesFrom : Nat → Nat → List Char → List (Nat × Lexeme)
  | _, _, [] => []
  | k + 1, place, _ :: cs => lexemesFrom k (place + 1) cs
  | 0, place, c :: cs =>
    if isSpace c then lexemesFrom 0 (place + 1) cs
    else
      let (x, n) := lexemeAt place (c :: cs)
      (place, x) :: if x.isLast then [] else lexemesFrom (n - 1) (place + 1) cs

/-- The lexemes of a text, each with its place. -/
def lexemes (cs : List Char) : List (Nat × Lexeme) :=
  lexemesFrom 0 0 cs

end SequenceApi.Json
