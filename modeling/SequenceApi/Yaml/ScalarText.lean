import SequenceApi.Json.Lexeme
import SequenceApi.Yaml.Cursor

/-!
# Texts of scalars

A scalar stands without quotes, between single or double quotes, or as a block of lines. Where its
lines are folded, a line break counts as a space, and of several line breaks the first does not
count.

## Main definitions

* `plainText`: a scalar without quotes
* `quotedText`: a scalar between quotes
* `blockText`: a block of lines
-/

namespace SequenceApi.Yaml

open Text Cursor

/-- What folded line breaks stand for: the first is a line feed, or a break of another kind. -/
def foldedBreaks (first : Char) (more : List Char) : List Char :=
  if first != '\n' then first :: more
  else if more.isEmpty then [' ']
  else more

/-! ## Without quotes -/

/-- The brackets and commas of flow collections. -/
def isFlowMark (c : Char) : Bool :=
  c == ',' || c == '[' || c == ']' || c == '\x7b' || c == '\x7d'

/-- The number of characters up to the end of a plain word. A colon ends it before a separator, and
in flow collections before a mark; there marks and question marks end it too. -/
def plainLength (flow : Bool) : List Char → Nat
  | [] => 0
  | c :: cs =>
    if isSeparator c then 0
    else if c == ':' && (endsHere cs || (flow && cs.head?.any isFlowMark)) then 0
    else if flow && (isFlowMark c || c == '?') then 0
    else plainLength flow cs + 1

/-- The line breaks at a place, blanks at the start of lines apart, unless a mark between documents
follows one. -/
def plainBreaks : Nat → Cursor → Option (List Char) × Cursor
  | 0, c => (some [], c)
  | n + 1, c =>
    let c := c.skipRun isSpace
    match c.lineBreak? with
    | none => (some [], c)
    | some (b, c) =>
      if c.atMark then (none, c)
      else
        let (more, c) := plainBreaks n c
        (more.map (b :: ·), c)

/-- What stands between two plain words. -/
structure Gap where
  /-- The characters that it stands for; none if the scalar ends here. -/
  text : List Char
  /-- It has a line break. -/
  crossed : Bool
  after : Cursor

/-- The gap at a place. -/
def gap (c : Cursor) : Gap :=
  let blanks := c.run isSpace
  let c := c.skip blanks.length
  match c.lineBreak? with
  | none => ⟨blanks, false, c⟩
  | some (b, c) =>
    if c.atMark then ⟨[], true, c⟩
    else
      match plainBreaks c.rest.length c with
      | (none, c) => ⟨[], true, c⟩
      | (some more, c) => ⟨foldedBreaks b more, true, c⟩

/-- A scalar and the place after it. -/
structure Scanned where
  text : List Char
  after : Cursor
  /-- A plain scalar ends at a line break. -/
  crossed : Bool := false

/-- The words of a plain scalar whose further lines start at `indent` at least. The second argument
is what stands before the next word. -/
def plainWords (flow : Bool) (indent : Nat) : Nat → List Char → Cursor → Bool → Scanned
  | 0, _, c, crossed => ⟨[], c, crossed⟩
  | n + 1, before, c, crossed =>
    let length := if c.next == '#' then 0 else plainLength flow c.rest
    if length = 0 then ⟨[], c, crossed⟩
    else
      let w := c.rest.take length
      let g := gap (c.skip length)
      if g.text.isEmpty || g.after.next == '#' || (!flow && g.after.column < indent) then
        ⟨before ++ w, g.after, g.crossed⟩
      else
        let s := plainWords flow indent n g.text g.after g.crossed
        { s with text := before ++ w ++ s.text }

/-- A scalar without quotes. -/
def plainText (flow : Bool) (indent : Nat) (c : Cursor) : Scanned :=
  plainWords flow indent (c.rest.length + 1) [] c false

/-! ## Between quotes -/

/-- The line breaks inside quotes at the start of a line, blanks apart. -/
def quotedBreaks : Nat → Cursor → Except ReadError (List Char × Cursor)
  | 0, c => .ok ([], c)
  | n + 1, c =>
    if c.atMark then .error .malformed
    else
      let c := c.skipRun Stamp.isGap
      match c.lineBreak? with
      | none => .ok ([], c)
      | some (b, c) => (quotedBreaks n c).map fun (more, c) => (b :: more, c)

/-- Blanks or line breaks between quotes. -/
def quotedGap (c : Cursor) : Except ReadError (List Char × Cursor) :=
  let blanks := c.run Stamp.isGap
  let c := c.skip blanks.length
  match c.lineBreak? with
  | none => .ok (blanks, c)
  | some (b, c) =>
    (quotedBreaks (c.rest.length + 1) c).map fun (more, c) => (foldedBreaks b more, c)

/-- The character of a short escape. -/
def escaped? (c : Char) : Option Char :=
  match c with
  | '0' => some '\x00'
  | 'a' => some '\x07'
  | 'b' => some '\x08'
  | 't' | '\t' => some '\t'
  | 'n' => some '\n'
  | 'v' => some '\x0b'
  | 'f' => some '\x0c'
  | 'r' => some '\r'
  | 'e' => some '\x1b'
  | ' ' | '\x22' | '\\' | '/' => some c
  | 'N' => some '\u0085'
  | '_' => some '\u00a0'
  | 'L' => some '\u2028'
  | 'P' => some '\u2029'
  | _ => none

/-- How many hexadecimal digits follow the letter of a code escape. -/
def codeLength? (c : Char) : Option Nat :=
  if c == 'x' then some 2 else if c == 'u' then some 4 else if c == 'U' then some 8 else none

/-- What an escape stands for, where the place is after the backslash. -/
def escapeAt (c : Cursor) : Except ReadError (List Char × Cursor) :=
  match escaped? c.next, codeLength? c.next with
  | some ch, _ => .ok ([ch], c.advance)
  | none, some n =>
    let c := c.advance
    match hexNumber (c.rest.take n) with
    | some code =>
      if c.rest.length < n then .error .malformed
      else if 0x10FFFF < code then .error (.noCharacter code)
      else .ok ([Json.charOfCode code], c.skip n)
    | none => .error .malformed
  | none, none =>
    match c.lineBreak? with
    | some (_, c) => quotedBreaks (c.rest.length + 1) c
    | none => .error .malformed

/-- The rest of a text after its opening quote. -/
def quotedChars (double : Bool) : Nat → Cursor → Except ReadError Scanned
  | 0, _ => .error .malformed
  | n + 1, c =>
    let more (cs : List Char) (c : Cursor) : Except ReadError Scanned :=
      (quotedChars double n c).map fun s => { s with text := cs ++ s.text }
    match c.rest with
    | [] => .error .malformed
    | ch :: _ =>
      if !double && ch == '\x27' && c.ahead 1 == '\x27' then more ['\x27'] (c.skip 2)
      else if ch == (if double then '\x22' else '\x27') then .ok ⟨[], c.advance, false⟩
      else if double && ch == '\\' then
        match escapeAt c.advance with
        | .ok (cs, c) => more cs c
        | .error e => .error e
      else if Stamp.isGap ch || isLineEnd ch then
        match quotedGap c with
        | .ok (cs, c) => more cs c
        | .error e => .error e
      else more [ch] c.advance

/-- A scalar between quotes, at its opening quote. -/
def quotedText (c : Cursor) : Except ReadError Scanned :=
  quotedChars (c.next == '\x22') (c.rest.length + 1) c.advance

/-! ## Blocks of lines -/

/-- How the last line breaks of a block count. -/
inductive Chomping where
  | strip
  | clip
  | keep
  deriving DecidableEq, Repr

/-- The sign of a way to count them. -/
def chomping? (c : Char) : Option Chomping :=
  if c == '+' then some .keep else if c == '-' then some .strip else none

/-- A digit of indentation: from one to nine. -/
def increment? (c : Char) : Option Nat :=
  if Json.isDigit c then some (c.toNat - 48) else none

/-- The header of a block after its indicator: a sign and a digit in any order, or one, or none. -/
def blockHeader (c : Cursor) : Except ReadError (Chomping × Option Nat × Cursor) :=
  let read :=
    match chomping? c.next, increment? c.next with
    | some chomping, _ =>
      let c := c.advance
      match increment? c.next with
      | some n => (chomping, some n, c.advance)
      | none => (chomping, none, c)
    | none, some n =>
      let c := c.advance
      match chomping? c.next with
      | some chomping => (chomping, some n, c.advance)
      | none => (.clip, some n, c)
    | none, none => (.clip, none, c)
  let (chomping, increment, c) := read
  if increment = some 0 then .error .malformed
  else if !(c.atLineEnd || c.next == ' ') then .error .malformed
  else
    match c.endLine? with
    | some c => .ok (chomping, increment, c)
    | none => .error .malformed

/-- The line breaks before the first line of a block, the widest indentation among the lines, and
the place after them. -/
def leadingBreaks : Nat → Nat → Cursor → List Char × Nat × Cursor
  | 0, widest, c => ([], widest, c)
  | n + 1, widest, c =>
    let c := c.skipRun isSpace
    let widest := max widest c.column
    match c.lineBreak? with
    | none => ([], widest, c)
    | some (b, c) =>
      let (more, widest, c) := leadingBreaks n widest c
      (b :: more, widest, c)

/-- The line breaks before a line of a block that is indented by `indent`. -/
def blockBreaks (indent : Nat) : Nat → Cursor → List Char × Cursor
  | 0, c => ([], c)
  | n + 1, c =>
    let c := c.skip (min (indent - c.column) (c.run isSpace).length)
    match c.lineBreak? with
    | none => ([], c)
    | some (b, c) =>
      let (more, c) := blockBreaks indent n c
      (b :: more, c)

/-- The lines of a block: their text, the break after the last one, the breaks behind it, and the
place after them. -/
structure BlockLines where
  text : List Char := []
  lastBreak : List Char := []
  breaks : List Char
  after : Cursor

/-- The lines of a block from a line on, with the line breaks before it. -/
def blockLines (folded : Bool) (indent : Nat) : Nat → List Char → Cursor → BlockLines
  | 0, breaks, c => { breaks, after := c }
  | n + 1, breaks, c =>
    if c.column != indent || c.atEnd then { breaks, after := c }
    else
      let inked := !Stamp.isGap c.next
      let line := c.run fun ch => !isLineEnd ch
      let c := c.skip line.length
      let (lastBreak, c) := match c.lineBreak? with
        | some (b, c) => ([b], c)
        | none => ([], c)
      let (more, c) := blockBreaks indent (c.rest.length + 1) c
      if c.column == indent && !c.atEnd then
        let join :=
          if folded && lastBreak == ['\n'] && inked && !Stamp.isGap c.next then
            if more.isEmpty then [' '] else []
          else lastBreak
        let r := blockLines folded indent n more c
        { r with text := breaks ++ line ++ join ++ r.text }
      else { text := breaks ++ line, lastBreak, breaks := more, after := c }

/-- A block of lines at its indicator, inside something with lines at a column less than `least`. -/
def blockText (least : Nat) (c : Cursor) : Except ReadError Scanned :=
  match blockHeader c.advance with
  | .error e => .error e
  | .ok (chomping, increment, after) =>
    let least := max least 1
    let (indent, breaks, start) :=
      match increment with
      | some n =>
        let indent := least + n - 1
        let (breaks, c) := blockBreaks indent (after.rest.length + 1) after
        (indent, breaks, c)
      | none =>
        let (breaks, widest, c) := leadingBreaks (after.rest.length + 1) 0 after
        (max least widest, breaks, c)
    let r := blockLines (c.next == '>') indent (start.rest.length + 1) breaks start
    let tail :=
      match chomping with
      | .strip => []
      | .clip => r.lastBreak
      | .keep => r.lastBreak ++ r.breaks
    .ok ⟨r.text ++ tail, r.after, false⟩

end SequenceApi.Yaml
