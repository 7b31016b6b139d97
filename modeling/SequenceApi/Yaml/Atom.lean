import SequenceApi.Json.Lexeme
import SequenceApi.Node.Text
import SequenceApi.Text.Base64
import SequenceApi.Text.LowerCase
import SequenceApi.Text.Numeral
import SequenceApi.Yaml.Graph

/-!
# Values of scalars

A scalar has the value that its tag makes of its text. Values can be keys, and of two equal keys a
mapping has one only: numbers are equal if their values are, times if they are the same moment.

## Main definitions

* `intValue`, `floatValue`, `boolValue`, `stampValue`: values by what a text is declared to be
* `Atom`: the values of scalars
* `Atom.ofText`: the value of a scalar
* `Atom.isSame`: two values are one key
-/

namespace SequenceApi.Yaml

open Text

/-! ## Integers -/

/-- A text without underscores. -/
def dense (cs : List Char) : List Char :=
  cs.filter (· != '_')

/-- The integer that a text spells in decimal digits. The number of digits has a limit, also where
no integer follows from them. -/
def decimalInt (cs : List Char) : Except ReadError Int :=
  let (negative, rest) := sign (withoutMargins cs)
  let ds := rest.takeWhile isDigit
  if longestInteger < ds.length then .error (.longInt ds.length)
  else if ds.isEmpty || ds.length < rest.length then .error (.badInt 10 (String.ofList cs))
  else .ok (if negative then -(digitsValue ds : Int) else digitsValue ds)

/-- The value of a digit of any base up to sixteen, in any script. -/
def figure? (c : Char) : Option Nat :=
  (digitValue c).or (hexValue c)

/-- The natural number that digits of a base spell. -/
def figuresValue? (base : Nat) (cs : List Char) : Option Nat :=
  if cs.isEmpty then none
  else
    cs.foldl (fun n c => n.bind fun n =>
      ((figure? c).filter (· < base)).map fun d => base * n + d) (some 0)

/-- The letter of the mark that may stand in front of the digits of a base. -/
def baseLetter (base : Nat) : Char :=
  if base = 2 then 'b' else if base = 8 then 'o' else 'x'

/-- The digits after the mark of their base, if there is one: a zero of any script and a letter. -/
def withoutBaseMark (base : Nat) (cs : List Char) : List Char :=
  match cs with
  | z :: c :: rest =>
    if digitValue z = some 0 ∧ c.toLower = baseLetter base then rest else cs
  | _ => cs

/-- The integer that a text spells in digits of a base. -/
def basedInt (base : Nat) (cs : List Char) : Except ReadError Int :=
  let (negative, rest) := sign (withoutMargins cs)
  match figuresValue? base (withoutBaseMark base rest) with
  | some n => .ok (if negative then -(n : Int) else n)
  | none => .error (.badInt base (String.ofList cs))

/-- A number in base sixty, given by the values of its digits. -/
def sixties (ds : List Int) : Int :=
  ds.foldl (fun n d => 60 * n + d) 0

/-- The integer that a text spells behind its sign. -/
def unsignedInt (cs : List Char) : Except ReadError Int :=
  match cs with
  | [] => .error .emptyNumber
  | ['0'] => .ok 0
  | '0' :: 'b' :: rest => basedInt 2 rest
  | '0' :: 'x' :: rest => basedInt 16 rest
  | '0' :: _ => basedInt 8 cs
  | _ =>
    if cs.contains ':' then ((pieces ':' cs).mapM decimalInt).map sixties else decimalInt cs

/-- The integer that a text spells. -/
def intValue (cs : List Char) : Except ReadError Int :=
  let cs := dense cs
  let n := unsignedInt (Form.unsigned cs)
  if cs.head? = some '-' then n.map (- ·) else n

/-! ## Numbers -/

/-- The number that a text spells by digits or by a word. -/
def realValue (cs : List Char) : Except ReadError Binary64 :=
  match real? cs with
  | some x => .ok x
  | none => .error (.badFloat (String.ofList cs))

/-- A number in base sixty, given by its digits from the last to the first, which is the sum from
the last digit on. The weight of the first of these digits is given too. -/
def sixtyths (sum : Binary64) (weight : Nat) : List Binary64 → Except ReadError Binary64
  | [] => .ok sum
  | d :: ds =>
    let w := Binary64.ofNat weight
    if w.isFinite then sixtyths (sum.add (d.mul w)) (60 * weight) ds else .error .hugeWeight

/-- The words of a point for an infinity and for no number. -/
def pointWord? (cs : List Char) : Option Binary64 :=
  if cs = ".inf".toList then some (.infinite false)
  else if cs = ".nan".toList then some .nan
  else none

/-- The number that a text spells behind its sign. -/
def unsignedFloat (cs : List Char) : Except ReadError Binary64 :=
  match pointWord? cs with
  | some x => .ok x
  | none =>
    if cs.contains ':' then do
      let ds ← (pieces ':' cs).mapM realValue
      sixtyths (Binary64.zero false) 1 ds.reverse
    else realValue cs

/-- The number that a text spells. -/
def floatValue (cs : List Char) : Except ReadError Binary64 :=
  let cs := lower (dense cs)
  if cs.isEmpty then .error .emptyNumber
  else
    let x := unsignedFloat (Form.unsigned cs)
    if cs.head? = some '-' then x.map Binary64.neg else x

/-! ## Other values -/

/-- The truth value that a word names. -/
def boolValue (cs : List Char) : Except ReadError Bool :=
  let w := String.ofList (lower cs)
  if w = "yes" || w = "true" || w = "on" then .ok true
  else if w = "no" || w = "false" || w = "off" then .ok false
  else .error (.badBool w)

/-- The date or time that a text spells. -/
def stampValue (cs : List Char) : Except ReadError Stamp :=
  match Stamp.read? (Form.withoutFinalBreak cs) with
  | none => .error .noStamp
  | some s =>
    match s.fault? with
    | some f => .error (.badStamp f)
    | none => .ok s

/-- The bytes that a text of ASCII characters writes. -/
def bytesValue (cs : List Char) : Except ReadError (List UInt8) :=
  if cs.all fun c => c.toNat < 0x80 then
    match base64Bytes? cs with
    | some bytes => .ok bytes
    | none => .error .malformed
  else .error .malformed

/-- The value of a scalar. -/
inductive Atom where
  | plain (s : Scalar)
  | stamp (s : Stamp)
  | bytes (b : List UInt8)
  /-- No number, and equal to nothing but itself. -/
  | lone
  deriving DecidableEq, Repr

namespace Atom

/-- A number by its text. All numbers that the word of a point says to be none are one and the same.
-/
def ofFloat (cs : List Char) (x : Binary64) : Atom :=
  if x = .nan ∧ pointWord? (Form.unsigned (lower (dense cs))) = none then .lone
  else .plain (.float x)

/-- The value that a tag makes of a text. -/
def ofText (tag : Tag) (text : String) : Except ReadError Atom :=
  let cs := text.toList
  match tag with
  | .form .null => .ok (.plain .null)
  | .form .bool => (boolValue cs).map fun b => .plain (.bool b)
  | .form .int => (intValue cs).map fun n => .plain (.int n)
  | .form .float => (floatValue cs).map (ofFloat cs)
  | .form .stamp => (stampValue cs).map .stamp
  | .form .text => .ok (.plain (.str text))
  | .bytes => (bytesValue cs).map .bytes
  | _ => .error .malformed

/-- The value as a part of a document. -/
def toScalar : Atom → Scalar
  | .plain s => s
  | .stamp s =>
    .other { type := s.typeName, text := s.text, inner := s.literal, encoded? := some s.encoded }
  | .bytes b =>
    let spelled := String.fromUTF8? ⟨b.toArray⟩
    .other {
      type := "bytes"
      text := quotedBytes b
      inner := quotedBytes b
      isEmpty := b.isEmpty
      name? := spelled
      encoded? := spelled }
  | .lone => .float .nan

/-! ## Equality of keys -/

/-- The number that a scalar is equal to, if it is an integer. -/
def wholeNumber? : Scalar → Option Int
  | .bool b => some (if b then 1 else 0)
  | .int n => some n
  | .float x => x.toInt?
  | _ => none

/-- Two scalars are one key: they are the same, or equal as integers. -/
def isSameScalar (a b : Scalar) : Bool :=
  a == b || ((wholeNumber? a).isSome && wholeNumber? a == wholeNumber? b)

/-- Two values of different nodes are one key. -/
def isSame : Atom → Atom → Bool
  | .plain a, .plain b => isSameScalar a b
  | .stamp a, .stamp b => a.isSame b
  | .bytes a, .bytes b => a == b
  | _, _ => false

end Atom

end SequenceApi.Yaml
