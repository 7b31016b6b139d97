import SequenceApi.Yaml.Style

/-!
# Places in YAML texts

Indentation has a meaning, and so a place in a text knows its line and its column. A carriage return
with a line feed is one line break.

## Main definitions

* `ReadError`: why a text cannot be read
* `Cursor`: the text from a place on, with line and column
* `Cursor.lineBreak?`: a line break, and the character that it stands for
* `Cursor.atMark`: a mark between documents
-/

namespace SequenceApi.Yaml

open Text

/-- Why a text cannot be read. -/
inductive ReadError where
  /-- The text does not follow the grammar, or its parts do not fit together. -/
  | malformed
  /-- The text nests too deep. -/
  | tooDeep
  /-- An escape names a code beyond the last character. -/
  | noCharacter (code : Nat)
  /-- A stamp that does not exist. -/
  | badStamp (fault : Stamp.Fault)
  /-- A text that is declared a stamp and is none. -/
  | noStamp
  /-- A mapping that is declared a stamp. -/
  | noStampText
  /-- A text that is declared an integer of a base and is none. -/
  | badInt (base : Nat) (text : String)
  /-- An empty text that is declared a number. -/
  | emptyNumber
  /-- An integer with too many digits. -/
  | longInt (digits : Nat)
  /-- A text that is declared a number and is none. -/
  | badFloat (text : String)
  /-- A number in base sixty with so many digits that the first one has no finite weight. -/
  | hugeWeight
  /-- A text that is declared a truth value and is none. -/
  | badBool (text : String)
  deriving DecidableEq, Repr

/-- A place in a text. -/
structure Cursor where
  /-- The text from the place on. -/
  rest : List Char
  place : Nat := 0
  line : Nat := 0
  column : Nat := 0

namespace Cursor

/-- The character at the place; the null character stands for the end of the text. -/
def next (c : Cursor) : Char :=
  c.rest.headD '\x00'

/-- The character some places ahead. -/
def ahead (c : Cursor) (n : Nat) : Char :=
  (c.rest[n]?).getD '\x00'

/-- The end of the text. -/
def atEnd (c : Cursor) : Bool :=
  c.rest.isEmpty

/-- The place after the next character. A byte order mark has no width. -/
def advance (c : Cursor) : Cursor :=
  match c.rest with
  | [] => c
  | ch :: rest =>
    if isBreak ch || (ch == '\r' && rest.head? != some '\n') then
      ⟨rest, c.place + 1, c.line + 1, 0⟩
    else ⟨rest, c.place + 1, c.line, if ch == '\ufeff' then c.column else c.column + 1⟩

/-- The place after some characters. -/
def skip : Nat → Cursor → Cursor
  | 0, c => c
  | n + 1, c => skip n c.advance

/-- The characters of a kind at the place. -/
def run (c : Cursor) (p : Char → Bool) : List Char :=
  c.rest.takeWhile p

/-- The place after the characters of a kind. -/
def skipRun (c : Cursor) (p : Char → Bool) : Cursor :=
  c.skip (c.run p).length

/-- A space. -/
def isSpace (c : Char) : Bool :=
  c == ' '

/-- A character at which a line ends. -/
def isLineEnd (c : Char) : Bool :=
  c == '\r' || isBreak c

/-- The place after the rest of the line. -/
def skipLine (c : Cursor) : Cursor :=
  c.skipRun fun ch => !isLineEnd ch

/-- The line ends here. -/
def atLineEnd (c : Cursor) : Bool :=
  c.rest.head?.all isLineEnd

/-- A line break at the place: the character that it stands for, and the place after it. -/
def lineBreak? (c : Cursor) : Option (Char × Cursor) :=
  match c.rest with
  | '\r' :: '\n' :: _ => some ('\n', c.skip 2)
  | ch :: _ =>
    if ch == '\r' || ch == '\n' || ch == '\u0085' then some ('\n', c.advance)
    else if isBreak ch then some (ch, c.advance)
    else none
  | [] => none

/-- A separator follows after some characters, or the end of the text. -/
def separatedAt (c : Cursor) (n : Nat) : Bool :=
  isSeparator (c.ahead n)

/-- The text goes on with three characters that stand alone. -/
def atWord (c : Cursor) (w : String) : Bool :=
  startsHere w.toList c.rest && c.separatedAt 3

/-- A mark between documents stands here. -/
def atMark (c : Cursor) : Bool :=
  c.atWord "---" || c.atWord "..."

/-- The place after a comment perhaps, if the line ends there; its line break is passed too. -/
def endLine? (c : Cursor) : Option Cursor :=
  let c := c.skipRun isSpace
  let c := if c.next == '#' then c.skipLine else c
  if c.atLineEnd then some ((c.lineBreak?.map Prod.snd).getD c) else none

end Cursor

end SequenceApi.Yaml
