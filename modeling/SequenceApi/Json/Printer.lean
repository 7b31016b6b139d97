import SequenceApi.Json.Basic
import SequenceApi.Number.Shortest
import SequenceApi.Text.Hex

/-!
# JSON texts

A JSON value is written in one of three layouts: on one line with blanks after the separators, over
several lines with two more blanks for each level, or on one line without blanks and in ASCII alone.

## Main definitions

* `Json.Layout`: separators, indentation and the range of characters
* `Json.spaced`, `Json.indented`, `Json.compact`: the three layouts
* `Json.print`: the text of a value
-/

namespace SequenceApi.Json

open Text

/-- How a value is laid out. -/
structure Layout where
  /-- The text between items. -/
  itemMark : List Char
  /-- The text between a key and its value. -/
  fieldMark : List Char
  /-- Blanks for each level, if every item has a line of its own. -/
  indent : Option Nat
  /-- Characters outside ASCII are escaped. -/
  ascii : Bool

/-- One line, with a blank after each separator. -/
def spaced : Layout :=
  ⟨[',', ' '], [':', ' '], none, false⟩

/-- A line for each item, indented by two blanks a level. -/
def indented : Layout :=
  ⟨[','], [':', ' '], some 2, false⟩

/-- One line without blanks, in ASCII. -/
def compact : Layout :=
  ⟨[','], [':'], none, true⟩

/-- The escape of a code unit below `2 ^ 16`. -/
def unitEscape (n : Nat) : List Char :=
  '\\' :: 'u' :: hexDigits 4 n

/-- The escape of a character: beyond the first plane, two surrogates. -/
def codeEscape (c : Char) : List Char :=
  let n := c.toNat
  if n < 0x10000 then unitEscape n
  else
    unitEscape (0xD800 + (n - 0x10000) / 0x400) ++ unitEscape (0xDC00 + (n - 0x10000) % 0x400)

/-- One character inside a string. -/
def charText (ascii : Bool) (c : Char) : List Char :=
  if c == '\x22' || c == '\\' then ['\\', c]
  else if c == '\n' then ['\\', 'n']
  else if c == '\r' then ['\\', 'r']
  else if c == '\t' then ['\\', 't']
  else if c == '\x08' then ['\\', 'b']
  else if c == '\x0c' then ['\\', 'f']
  else if c.toNat < 0x20 then codeEscape c
  else if ascii && 0x7e < c.toNat then codeEscape c
  else [c]

/-- A string between quotes. -/
def strText (ascii : Bool) (s : String) : List Char :=
  '\x22' :: s.toList.flatMap (charText ascii) ++ ['\x22']

/-- An integer in decimal digits. -/
def intText (n : Int) : List Char :=
  if n < 0 then '-' :: Nat.toDigits 10 n.natAbs else Nat.toDigits 10 n.natAbs

/-- The words for the numbers that are not finite. -/
def specialNames : Binary64.SpecialNames :=
  ⟨"NaN", "Infinity"⟩

/-- The start of a line at a level, where the layout has lines. -/
def Layout.newline (l : Layout) (level : Nat) : List Char :=
  match l.indent with
  | some width => '\n' :: List.replicate (width * level) ' '
  | none => []

mutual

/-- The text of a value inside `level` arrays and objects. -/
def chars (l : Layout) (level : Nat) : Json → List Char
  | .null => "null".toList
  | .bool true => "true".toList
  | .bool false => "false".toList
  | .int n => intText n
  | .float x => (x.writtenWith specialNames).toList
  | .str s => strText l.ascii s
  | .arr [] => ['[', ']']
  | .arr (v :: vs) =>
    '[' :: l.newline (level + 1) ++ chars l (level + 1) v ++ moreItems l (level + 1) vs ++
      l.newline level ++ [']']
  | .obj [] => ['\x7b', '\x7d']
  | .obj ((k, v) :: fs) =>
    '\x7b' :: l.newline (level + 1) ++ strText l.ascii k ++ l.fieldMark ++ chars l (level + 1) v ++
      moreFields l (level + 1) fs ++ l.newline level ++ ['\x7d']

/-- The items after the first, each with the separator before it. -/
def moreItems (l : Layout) (level : Nat) : List Json → List Char
  | [] => []
  | v :: vs => l.itemMark ++ l.newline level ++ chars l level v ++ moreItems l level vs

/-- The fields after the first, each with the separator before it. -/
def moreFields (l : Layout) (level : Nat) : List (String × Json) → List Char
  | [] => []
  | (k, v) :: fs =>
    l.itemMark ++ l.newline level ++ strText l.ascii k ++ l.fieldMark ++ chars l level v ++
      moreFields l level fs

end

/-- The text of a value. -/
def print (l : Layout) (v : Json) : String :=
  String.ofList (chars l 0 v)

end SequenceApi.Json
