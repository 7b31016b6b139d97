import SequenceApi.Text.Scan
import SequenceApi.Yaml.Stamp

/-!
# Plain scalars

A scalar without quotes is read by its form: as nothing, a truth value, an integer, a number, a
stamp, one of two keys with a meaning of their own, or else as a text. A text that has another form
is therefore never written without quotes. A scalar of another style may be declared to have its
form too; a line feed at its end does not count then.

## Main definitions

* `Form`: the forms of plain scalars
* `Form.ofPlain`: the form of a text
-/

namespace SequenceApi.Yaml

open Text

/-- What a plain scalar is read as. -/
inductive Form where
  | null
  | bool
  | int
  | float
  | stamp
  /-- The key of a mapping whose entries are taken over. -/
  | merge
  /-- The key of a default value. -/
  | value
  /-- A lone indicator, which has no value. -/
  | indicator
  | text
  deriving DecidableEq, Repr

namespace Form

/-- The words for nothing; the empty text is one of them. -/
def nullWords : List String :=
  ["", "~", "null", "Null", "NULL"]

/-- The words for truth. -/
def trueWords : List String :=
  ["yes", "Yes", "YES", "true", "True", "TRUE", "on", "On", "ON"]

/-- The words for falsehood. -/
def falseWords : List String :=
  ["no", "No", "NO", "false", "False", "FALSE", "off", "Off", "OFF"]

/-- A word of a list. -/
def isAmong (words : List String) (cs : List Char) : Bool :=
  words.any fun w => w.toList == cs

/-- A digit or an underscore. -/
def isFigure (c : Char) : Bool :=
  Json.isDigit c || c == '_'

/-- A text of at least one character, all of a kind. -/
def isRun (p : Char → Bool) (cs : List Char) : Bool :=
  !cs.isEmpty && cs.all p

/-- The text after a sign, if there is one. -/
def unsigned : List Char → List Char
  | '+' :: cs => cs
  | '-' :: cs => cs
  | cs => cs

/-- A digit and then figures. -/
def isFigures (cs : List Char) : Bool :=
  cs.head?.any Json.isDigit && cs.all isFigure

/-- A number below sixty, of one or two digits. -/
def isSixtieth : List Char → Bool
  | [d] => Json.isDigit d
  | [t, d] => '0' ≤ t && t ≤ '5' && Json.isDigit d
  | _ => false

/-- Figures, and numbers below sixty, with colons between them and at least one. -/
def isSexagesimal (cs : List Char) : Bool :=
  match pieces ':' cs with
  | first :: p :: ps => isFigures first && (p :: ps).all isSixtieth
  | _ => false

/-- An unsigned integer: binary, octal, decimal, hexadecimal or sexagesimal. -/
def isUnsignedInt (cs : List Char) : Bool :=
  match cs with
  | ['0'] => true
  | '0' :: 'b' :: rest => isRun (fun c => c == '0' || c == '1' || c == '_') rest
  | '0' :: 'x' :: rest => isRun (fun c => (hexValue c).isSome || c == '_') rest
  | '0' :: rest => isRun (fun c => ('0' ≤ c && c ≤ '7') || c == '_') rest
  | cs => isFigures cs || isSexagesimal cs

/-- Nothing, or an exponent with a sign. -/
def isExponent : List Char → Bool
  | [] => true
  | e :: s :: ds => (e == 'e' || e == 'E') && (s == '-' || s == '+') && isRun Json.isDigit ds
  | _ => false

/-- Figures behind a point, and an exponent perhaps. -/
def isFraction (cs : List Char) : Bool :=
  isExponent (cs.dropWhile isFigure)

/-- A number with a point: figures before it or behind it, or an infinity or no number at all. The
sign stands before figures and infinities only. -/
def isFloat (cs : List Char) : Bool :=
  if isAmong [".nan", ".NaN", ".NAN"] cs then true
  else if isAmong [".inf", ".Inf", ".INF"] (unsigned cs) then true
  else
    match cs with
    | '.' :: rest => rest.head?.any Json.isDigit && isFraction rest
    | _ =>
      match cut '.' (unsigned cs) with
      | (_, none) => false
      | (whole, some rest) =>
        (isFigures whole && isFraction rest) || (isSexagesimal whole && rest.all isFigure)

/-- A text without a line feed at its end. -/
def withoutFinalBreak (cs : List Char) : List Char :=
  if cs.getLast? = some '\n' then cs.dropLast else cs

/-- The form of a text without a line feed at its end. -/
def ofWord (cs : List Char) : Form :=
  if isAmong nullWords cs then .null
  else if isAmong trueWords cs || isAmong falseWords cs then .bool
  else if isUnsignedInt (unsigned cs) then .int
  else if isFloat cs then .float
  else if Stamp.isPlain cs then .stamp
  else if cs == ['<', '<'] then .merge
  else if cs == ['='] then .value
  else if cs == ['!'] || cs == ['&'] || cs == ['*'] then .indicator
  else .text

/-- The form of a text. A line feed alone is a text. -/
def ofPlain (cs : List Char) : Form :=
  if cs == ['\n'] then .text else ofWord (withoutFinalBreak cs)

end Form

end SequenceApi.Yaml
