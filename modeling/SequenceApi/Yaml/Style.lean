import SequenceApi.Yaml.Plain

/-!
# Styles of scalars

A text is written without quotes if it can be: if it is read back as a text, stands on one line, and
has no character that means something else at its place. Otherwise it has single quotes, in which
line feeds may stand, or double quotes, in which every character can be escaped.

## Main definitions

* `Style`: the three styles
* `isBreak`, `isShown`: the line breaks, and the characters that are never escaped
* `Style.ofText`: the style of a text
-/

namespace SequenceApi.Yaml

open Text

/-- How a scalar is written. -/
inductive Style where
  | plain
  | singleQuoted
  | doubleQuoted
  deriving DecidableEq, Repr

/-- The characters that break a line. -/
def isBreak (c : Char) : Bool :=
  c == '\n' || c == '\u0085' || c == '\u2028' || c == '\u2029'

/-- A character that may stand in a text without an escape. -/
def isShown (c : Char) : Bool :=
  let n := c.toNat
  c == '\n' || (0x20 ≤ n && n ≤ 0x7E) || n == 0x85 || (0xA0 ≤ n && n ≤ 0xD7FF) ||
    (0xE000 ≤ n && n ≤ 0xFFFD && n != 0xFEFF) || (0x10000 ≤ n && n < 0x10FFFF)

/-- A character after which an indicator counts: a blank, a break, or none at all. -/
def isSeparator (c : Char) : Bool :=
  c == '\x00' || c == ' ' || c == '\t' || c == '\r' || isBreak c

/-- The next character separates, or there is none. -/
def endsHere (cs : List Char) : Bool :=
  cs.head?.all isSeparator

/-- The first character gives a text another meaning: an indicator, or a dash, a question mark or a
colon that stands alone. -/
def startsWithIndicator : List Char → Bool
  | [] => false
  | c :: cs =>
    "#,[]\x7b\x7d&*!|>\x27\x22%@\x60".toList.contains c ||
      ((c == '-' || c == '?' || c == ':') && endsHere cs)

/-- A colon before a separator, or a hash sign after one, beyond the first character. The first
argument is the character before. -/
def hasIndicator : Char → List Char → Bool
  | _, [] => false
  | before, c :: cs =>
    (c == ':' && endsHere cs) || (c == '#' && isSeparator before) || hasIndicator c cs

/-- The text starts like the mark between two documents, or after one. -/
def startsWithMark (cs : List Char) : Bool :=
  startsHere "---".toList cs || startsHere "...".toList cs

/-- No character can be mistaken for an indicator. -/
def isClear (cs : List Char) : Bool :=
  match cs with
  | [] => true
  | c :: rest => !startsWithMark cs && !startsWithIndicator cs && !hasIndicator c rest

/-- A space stands beside a line break. -/
def hasSpacedBreak : List Char → Bool
  | c :: d :: cs => (c == ' ' && isBreak d) || (isBreak c && d == ' ') || hasSpacedBreak (d :: cs)
  | _ => false

/-- The text neither starts nor ends with a space. -/
def isTight (cs : List Char) : Bool :=
  cs.head? != some ' ' && cs.getLast? != some ' '

/-- A text without quotes is read back as it is. -/
def isPlainText (cs : List Char) : Bool :=
  Form.ofPlain cs == .text && cs.all isShown && !cs.any isBreak && isTight cs && isClear cs

/-- The style of a text. A simple key stands on one line. -/
def Style.ofText (simpleKey : Bool) (cs : List Char) : Style :=
  if isPlainText cs then .plain
  else if cs.all isShown && !hasSpacedBreak cs && !(simpleKey && cs.any isBreak) then .singleQuoted
  else .doubleQuoted

end SequenceApi.Yaml
