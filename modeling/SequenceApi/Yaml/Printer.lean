import SequenceApi.Json.Basic
import SequenceApi.Number.Shortest
import SequenceApi.Text.Hex
import SequenceApi.Yaml.Style

/-!
# Writing YAML

A JSON value is written in block style: a line for each item and each field, two blanks for each
level, and the items of a list inside an object not indented. Texts that pass column 80 are folded
at the next space.

## Main definitions

* `Pen`: what has been written, and where the next character goes
* `Pen.text`: a text in its style
* `Pen.node`: a value
* `print`: the text of a value
-/

namespace SequenceApi.Yaml

open Text

/-- What has been written. -/
structure Pen where
  /-- The characters, last first. -/
  written : List Char := []
  /-- The number of characters on the line. -/
  column : Nat := 0
  /-- The next word needs no blank in front. -/
  apart : Bool := true
  /-- The line has nothing but indentation and the indicators of items. -/
  opening : Bool := true

/-- A line that is longer is folded. -/
def width : Nat := 80

namespace Pen

/-- More characters on the same line. -/
def put (p : Pen) (cs : List Char) : Pen :=
  { p with written := cs.reverse ++ p.written, column := p.column + cs.length }

/-- A line break. -/
def newline (p : Pen) (c : Char) : Pen :=
  { written := c :: p.written, column := 0, apart := true, opening := true }

/-- Goes to the column of a level: on a new line, unless this line has nothing on it yet. -/
def startLine (p : Pen) (indent : Nat) : Pen :=
  let p :=
    if !p.opening || indent < p.column || (p.column == indent && !p.apart) then p.newline '\n'
    else p
  if p.column < indent then
    { p.put (List.replicate (indent - p.column) ' ') with apart := true }
  else p

/-- A blank, unless the next word needs none. -/
def space (p : Pen) : Pen :=
  if p.apart then p else p.put [' ']

/-- The mark of an item or of a complex key or value, after which more marks may follow. -/
def mark (p : Pen) (c : Char) : Pen :=
  { p.space.put [c] with apart := false }

/-- Characters that end the opening of a line. -/
def close (p : Pen) (cs : List Char) : Pen :=
  { p.put cs with apart := false, opening := false }

/-! ## Texts -/

/-- What a run of characters consists of. -/
inductive RunKind where
  | space
  | lineBreak
  | ink
  deriving DecidableEq

/-- The kind of run to which a character belongs. -/
def RunKind.of (c : Char) : RunKind :=
  if c == ' ' then .space else if isBreak c then .lineBreak else .ink

/-- The longest runs of characters of one kind, in order. -/
def runs : List Char → List (RunKind × List Char)
  | [] => []
  | c :: cs =>
    match runs cs with
    | (kind, r) :: rs =>
      if kind = RunKind.of c then (kind, c :: r) :: rs else (RunKind.of c, [c]) :: (kind, r) :: rs
    | [] => [(RunKind.of c, [c])]

/-- One run of a text without quotes. A single space beyond the width becomes a line break. -/
def plainRun (fold : Bool) (indent : Nat) (p : Pen) (r : List Char) : Pen :=
  if r == [' '] && fold && width < p.column then
    { p.startLine indent with apart := false, opening := false }
  else p.put r

/-- A text without quotes. -/
def plain (p : Pen) (fold : Bool) (indent : Nat) (cs : List Char) : Pen :=
  (runs cs).foldl (fun p r => plainRun fold indent p r.2) (p.space.close [])

/-- Line breaks inside single quotes: a line feed is written twice. -/
def breaks (p : Pen) (indent : Nat) (r : List Char) : Pen :=
  let p := if r.head? = some '\n' then p.newline '\n' else p
  (r.foldl newline p).startLine indent

/-- The runs of a text between single quotes. A single space beyond the width becomes a line break,
except the first and the last character of the text. -/
def singleRuns (fold : Bool) (indent : Nat) : Bool → List (RunKind × List Char) → Pen → Pen
  | _, [], p => p
  | first, (kind, r) :: rs, p =>
    let p :=
      match kind with
      | .space =>
        if r.length == 1 && fold && width < p.column && !first && !rs.isEmpty then
          p.startLine indent
        else p.put r
      | .lineBreak => p.breaks indent r
      | .ink => p.put (r.flatMap fun c => if c == '\x27' then [c, c] else [c])
    singleRuns fold indent false rs p

/-- A text between single quotes. -/
def singleQuoted (p : Pen) (fold : Bool) (indent : Nat) (cs : List Char) : Pen :=
  (singleRuns fold indent true (runs cs) (p.space.close ['\x27'])).close ['\x27']

/-- The letter of a short escape. -/
def escapeLetter? (c : Char) : Option Char :=
  match c.toNat with
  | 0x00 => some '0'
  | 0x07 => some 'a'
  | 0x08 => some 'b'
  | 0x09 => some 't'
  | 0x0A => some 'n'
  | 0x0B => some 'v'
  | 0x0C => some 'f'
  | 0x0D => some 'r'
  | 0x1B => some 'e'
  | 0x22 => some '\x22'
  | 0x5C => some '\\'
  | 0x85 => some 'N'
  | 0x2028 => some 'L'
  | 0x2029 => some 'P'
  | _ => none

/-- The escape of a character. -/
def escape (c : Char) : List Char :=
  match escapeLetter? c with
  | some letter => ['\\', letter]
  | none =>
    let n := c.toNat
    if n ≤ 0xFF then '\\' :: 'x' :: upperHexDigits 2 n
    else if n ≤ 0xFFFF then '\\' :: 'u' :: upperHexDigits 4 n
    else '\\' :: 'U' :: upperHexDigits 8 n

/-- A character that is escaped between double quotes: all but those of the first plane that may
be shown on one line. -/
def needsEscape (c : Char) : Bool :=
  c == '\x22' || c == '\\' || isBreak c || !isShown c || 0xFFFF < c.toNat

/-- A line break between double quotes. A space after it is escaped. -/
def foldQuoted (p : Pen) (indent : Nat) (next : Option Char) : Pen :=
  let p := { (p.put ['\\']).startLine indent with apart := false, opening := false }
  if next = some ' ' then p.put ['\\'] else p

/-- The characters of a text between double quotes, where the first one is the first of the text or
not, and follows an escape or the quote or not. A line beyond the width is folded at a space and
beside an escape, but not before the second character nor after the last but one. -/
def doubleChars (fold : Bool) (indent : Nat) : Bool → Bool → List Char → Pen → Pen
  | _, _, [], p => p
  | first, afterEscape, c :: cs, p =>
    let inner := fold && !first && !cs.isEmpty
    if needsEscape c then
      let p := p.put (escape c)
      let p := if inner && width + 1 < p.column then p.foldQuoted indent cs.head? else p
      doubleChars fold indent false true cs p
    else
      let p :=
        if inner && (c == ' ' || afterEscape) && width < p.column then p.foldQuoted indent (some c)
        else p
      doubleChars fold indent false false cs (p.put [c])

/-- A text between double quotes. -/
def doubleQuoted (p : Pen) (fold : Bool) (indent : Nat) (cs : List Char) : Pen :=
  (doubleChars fold indent true true cs (p.space.close ['\x22'])).close ['\x22']

/-- A text in its style, with further lines at a column. A simple key is never folded. -/
def text (p : Pen) (simpleKey : Bool) (indent : Nat) (cs : List Char) : Pen :=
  match Style.ofText simpleKey cs with
  | .plain => p.plain (!simpleKey) indent cs
  | .singleQuoted => p.singleQuoted (!simpleKey) indent cs
  | .doubleQuoted => p.doubleQuoted (!simpleKey) indent cs

/-! ## Values -/

/-- The text of a number: its mantissa has a point. -/
def floatText (x : Binary64) : List Char :=
  let cs := (x.writtenWith ⟨".nan", ".inf"⟩).toList
  let mantissa := cs.takeWhile (· != 'e')
  let power := cs.drop mantissa.length
  if mantissa.contains '.' then cs else mantissa ++ ['.', '0'] ++ power

/-- A key that stands before its colon on one line: neither empty nor longer than 122 characters,
and without line breaks. -/
def isSimpleKey (k : List Char) : Bool :=
  !k.isEmpty && k.length < 123 && !k.any isBreak

/-- Where a value stands. -/
inductive Site where
  | root
  | item
  | field
  deriving DecidableEq

/-- The column of the lines of a value inside something at a column. -/
def below : Option Nat → Nat
  | none => 0
  | some n => n + 2

/-- The column of the further lines of a text inside something at a column. -/
def textBelow : Option Nat → Nat
  | none => 2
  | some n => n + 2

/-- The column of the items of a list. The items below a simple key have the column of the key. -/
def itemColumn (p : Pen) (site : Site) (indent : Option Nat) : Nat :=
  match site, indent with
  | .field, some n => if p.opening then n + 2 else n
  | _, _ => below indent

/-- A key and the mark after it. -/
def key (p : Pen) (indent : Nat) (k : String) : Pen :=
  let p := p.startLine indent
  let cs := k.toList
  if isSimpleKey cs then (p.text true (indent + 2) cs).close [':']
  else (((p.mark '?').text false (indent + 2) cs).startLine indent).mark ':'

mutual

/-- A value at a site inside something whose lines start at a column. -/
def node (site : Site) (indent : Option Nat) : Json → Pen → Pen
  | .null, p => p.space.close "null".toList
  | .bool true, p => p.space.close "true".toList
  | .bool false, p => p.space.close "false".toList
  | .int n, p => p.space.close (toString n).toList
  | .float x, p => p.space.close (floatText x)
  | .str s, p => p.text false (textBelow indent) s.toList
  | .arr [], p => p.space.close ['[', ']']
  | .arr (v :: vs), p =>
    let column := p.itemColumn site indent
    items column vs (node .item (some column) v ((p.startLine column).mark '-'))
  | .obj [], p => p.space.close ['\x7b', '\x7d']
  | .obj ((k, v) :: fs), p =>
    let column := below indent
    fields column fs (node .field (some column) v (p.key column k))

/-- The items of a list at a column. -/
def items (column : Nat) : List Json → Pen → Pen
  | [], p => p
  | v :: vs, p => items column vs (node .item (some column) v ((p.startLine column).mark '-'))

/-- The fields of an object at a column. -/
def fields (column : Nat) : List (String × Json) → Pen → Pen
  | [], p => p
  | (k, v) :: fs, p => fields column fs (node .field (some column) v (p.key column k))

end

/-- The value is a scalar without quotes: its end has to be marked. -/
def isOpenEnded : Json → Bool
  | .arr _ | .obj _ => false
  | .str s => Style.ofText false s.toList == .plain
  | _ => true

/-- The end of a document. -/
def finish (v : Json) (p : Pen) : Pen :=
  let p := p.startLine 0
  if isOpenEnded v then (p.put "...".toList).newline '\n' else p

end Pen

/-- The text of a value. -/
def print (v : Json) : String :=
  String.ofList ((Pen.node .root none v {}).finish v).written.reverse

end SequenceApi.Yaml
