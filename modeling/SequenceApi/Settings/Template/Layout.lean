import SequenceApi.Number.Notation
import SequenceApi.Settings.Template.Value
import SequenceApi.Text.Digit

/-!
# Layouts

A value is laid out as a layout says: cut to a precision, in a base or a notation, with a sign, with
marks between thousands, and filled up to a width. Texts and integers have layouts; other values
have only the empty one.

## Main definitions

* `Template.leadingNumber`, `Template.number?`: numbers in templates
* `Template.Layout`: fill, alignment, sign, width, mark, precision and type
* `Template.readLayout`: the layout that a text describes
* `Template.Layout.ofText`, `Template.Layout.ofInteger`: values laid out
* `Template.layOut`: any value in a layout
-/

namespace SequenceApi.Template

open Text

/-! ## Numbers -/

/-- Numbers in a template are at most this large. -/
def greatestNumber : Nat := 0x7FFFFFFFFFFFFFFF

/-- The number that leading digits spell, how many digits there are, and the rest. -/
def leadingNumber : Nat → Nat → List Char → Except TemplateError (Nat × Nat × List Char)
  | n, count, [] => .ok (n, count, [])
  | n, count, c :: cs =>
    match digitValue c with
    | some d =>
      if greatestNumber < 10 * n + d then fail .manyDigits
      else leadingNumber (10 * n + d) (count + 1) cs
    | none => .ok (n, count, c :: cs)

/-- The number that a text is, if it is one. -/
def number? (cs : List Char) : Except TemplateError (Option Nat) :=
  match leadingNumber 0 0 cs with
  | .error e => .error e
  | .ok (n, count, rest) => .ok (if count = 0 || !rest.isEmpty then none else some n)

/-! ## Reading -/

/-- How a value is laid out. -/
structure Layout where
  fill : Char := ' '
  align : Char
  sign : Option Char := none
  zeroSign : Bool := false
  alternate : Bool := false
  width : Nat := 0
  mark : Option Char := none
  precision : Option Nat := none
  type : Char

/-- What a layout leaves open, by the kind of the value: its alignment and its type. -/
structure LayoutDefaults where
  kind : Kind
  align : Char
  type : Char

/-- Texts stand on the left. -/
def textDefaults : LayoutDefaults :=
  ⟨.text, '<', 's'⟩

/-- Integers and truth values stand on the right and are decimal. -/
def integerDefaults (k : Kind) : LayoutDefaults :=
  ⟨k, '>', 'd'⟩

/-- The character is one of the four alignments. -/
def isAlign (c : Char) : Bool :=
  c == '<' || c == '>' || c == '=' || c == '^'

/-- The fill character and the alignment at the start of a layout, if they are there, and the
rest. -/
def splitAlign : List Char → Option Char × Option Char × List Char
  | f :: a :: cs =>
    if isAlign a then (some f, some a, cs)
    else if isAlign f then (none, some f, a :: cs)
    else (none, none, f :: a :: cs)
  | [a] => if isAlign a then (none, some a, []) else (none, none, [a])
  | [] => (none, none, [])

/-- A character at the start of a text that satisfies a condition, and the rest. -/
def takeIf (p : Char → Bool) : List Char → Option Char × List Char
  | c :: cs => if p c then (some c, cs) else (none, c :: cs)
  | [] => (none, [])

/-- A type has marks between thousands: decimal ones have any, and those of another base only the
low line. -/
def hasMarks (type mark : Char) : Bool :=
  "defgEG%F".toList.contains type || (mark == '_' && "boxX".toList.contains type)

/-- The layout that a text describes. A zero before the width fills a number after its sign, unless
the layout says otherwise. -/
def readLayout (defaults : LayoutDefaults) (spec : List Char) : Except TemplateError Layout := do
  let (fill, align, cs) := splitAlign spec
  let (sign, cs) := takeIf (fun c => c == ' ' || c == '+' || c == '-') cs
  let (zero, cs) := takeIf (· == 'z') cs
  let (alternate, cs) := takeIf (· == '#') cs
  let (pad, cs) := if fill.isSome then (none, cs) else takeIf (· == '0') cs
  let (width, _, cs) ← leadingNumber 0 0 cs
  let (comma, cs) := takeIf (· == ',') cs
  let (low, cs) := takeIf (· == '_') cs
  if comma.isSome && low.isSome then fail .bothMarks
  if low.isSome && cs.head? = some ',' then fail .bothMarks
  let (point, cs) := takeIf (· == '.') cs
  let (precision, count, cs) ← if point.isSome then leadingNumber 0 0 cs else .ok (0, 1, cs)
  if count = 0 then fail .noPrecision
  match cs with
  | _ :: _ :: _ => fail (.badLayout (String.ofList spec) defaults.kind.name)
  | _ =>
    let type := cs.head?.getD defaults.type
    let mark := comma.or low
    match mark with
    | some m => if !hasMarks type m then fail (.badMark m type)
    | none => .ok ()
    let standing := if pad.isSome && defaults.align == '>' then '=' else defaults.align
    .ok
      { fill := fill.getD (if pad.isSome then '0' else ' ')
        align := align.getD standing
        sign, zeroSign := zero.isSome, alternate := alternate.isSome, width, mark
        precision := if point.isSome then some precision else none
        type }

/-! ## Texts -/

/-- A text filled up to a width, on the side that the alignment leaves. -/
def filledUp (fill align : Char) (width : Nat) (cs : List Char) : List Char :=
  let room := width - cs.length
  let left := if align == '>' then room else if align == '^' then room / 2 else 0
  List.replicate left fill ++ cs ++ List.replicate (room - left) fill

/-- The text laid out: cut to the precision, and filled up to the width. -/
def Layout.ofText (l : Layout) (s : String) : Except TemplateError String :=
  if l.type != 's' then fail (.badType l.type Kind.text.name)
  else if l.sign = some ' ' then fail .spaceSign
  else if l.sign.isSome then fail .sign
  else if l.zeroSign then fail .zeroSign
  else if l.alternate then fail .alternate
  else if l.align == '=' then fail .signAlignment
  else
    let cs := match l.precision with
      | some p => s.toList.take p
      | none => s.toList
    .ok (String.ofList (filledUp l.fill l.align l.width cs))

/-! ## Integers -/

/-- A number in its parts: what stands before the digits, the digits of the whole part, and what
follows them. -/
structure NumberParts where
  front : List Char
  whole : List Char
  rest : List Char

/-- The sign of a number that is not negative. -/
def Layout.signText (l : Layout) : List Char :=
  match l.sign with
  | some '-' | none => []
  | some c => [c]

/-- The whole part of a number in groups, if there is a mark for them, and filled up with zeros. -/
def Layout.wholeText (l : Layout) (width : Nat) (whole : List Char) : List Char :=
  if whole.isEmpty then []
  else
    match l.mark with
    | none => Notation.filled width whole
    | some m => Notation.grouped m (if "boxX".toList.contains l.type then 4 else 3) width whole

/-- A number laid out: zeros go before the digits, and other characters where the alignment says. -/
def Layout.place (l : Layout) (n : NumberParts) : List Char :=
  let outside := n.front.length + n.rest.length
  let inner := if l.fill == '0' && l.align == '=' then l.width - outside else 0
  let body := l.wholeText inner n.whole ++ n.rest
  if l.align == '=' then
    n.front ++ List.replicate (l.width - (n.front.length + body.length)) l.fill ++ body
  else filledUp l.fill l.align l.width (n.front ++ body)

/-- The number as an integer: a character, or digits in a base. -/
def Layout.integerParts (l : Layout) (n : Nat) : Except TemplateError NumberParts :=
  if l.precision.isSome then fail .integerPrecision
  else if l.zeroSign then fail .integerZeroSign
  else if l.type == 'c' then
    if l.sign.isSome then fail .characterSign
    else if l.alternate then fail .characterAlternate
    else if 0x10FFFF < n then .error .noCharacter
    else .ok ⟨[], [], [Char.ofNat n]⟩
  else
    let inBase (base : Nat) (letter : Char) : NumberParts :=
      ⟨l.signText ++ (if l.alternate then ['0', letter] else []), Nat.toDigits base n, []⟩
    .ok (match l.type with
      | 'b' => inBase 2 'b'
      | 'o' => inBase 8 'o'
      | 'x' => inBase 16 'x'
      | 'X' =>
        let lower := inBase 16 'X'
        { lower with whole := lower.whole.map Char.toUpper }
      | _ => ⟨l.signText, Nat.toDigits 10 n, []⟩)

/-- The greatest precision of a number. -/
def greatestPrecision : Nat := 0x7FFFFFFF

/-- The number as one of double precision, with decimal places, with a power of ten, or as a share
of a hundred. -/
def Layout.decimalParts (l : Layout) (n : Nat) : Except TemplateError NumberParts :=
  let precision := l.precision.getD 6
  if greatestPrecision < precision then fail .hugePrecision
  else
    let whole (x : Binary64) : Nat := (x.toInt?.getD 0).toNat
    let x := Binary64.ofNat n
    let upper (p : List Char × List Char) := (p.1, p.2.map Char.toUpper)
    let (digits, rest) :=
      match l.type with
      | 'e' => Notation.scientific l.alternate precision (whole x)
      | 'E' => upper (Notation.scientific l.alternate precision (whole x))
      | 'g' => Notation.general l.alternate precision (whole x)
      | 'G' => upper (Notation.general l.alternate precision (whole x))
      | '%' =>
        let (digits, rest) :=
          Notation.fixed l.alternate precision (whole (x.mul (Binary64.ofNat 100)))
        (digits, rest ++ ['%'])
      | _ => Notation.fixed l.alternate precision (whole x)
    .ok ⟨l.signText, digits, rest⟩

/-- The number laid out, where `k` is the kind of its value. -/
def Layout.ofInteger (l : Layout) (k : Kind) (n : Nat) : Except TemplateError String :=
  let parts :=
    if "bcdoxXn".toList.contains l.type then l.integerParts n
    else if "eEfFgG%".toList.contains l.type then l.decimalParts n
    else fail (.badType l.type k.name)
  parts.map fun p => String.ofList (l.place p)

/-- The value in a layout; an empty layout leaves it as it reads. -/
def layOut (v : Value) (spec : List Char) : Except TemplateError String :=
  if spec.isEmpty then .ok v.toText
  else
    match v with
    | .text s => (readLayout textDefaults spec).bind fun l => l.ofText s
    | .integer n =>
      (readLayout (integerDefaults .integer) spec).bind fun l => l.ofInteger .integer n
    | .truth b =>
      (readLayout (integerDefaults .truth) spec).bind fun l => l.ofInteger .truth b.toNat
    | _ => .error .noLayout

end SequenceApi.Template
