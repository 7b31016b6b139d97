import SequenceApi.Text.Numeral
import SequenceApi.Yaml.ScalarText

/-!
# Tokens of YAML texts

A text is a sequence of tokens: indicators, names, scalars, and the starts and ends of blocks, which
indentation brings about. A key in front of a colon is only known as a key when the colon comes; its
mark is then put in front of it. A text is read no further than its next token needs.

## Main definitions

* `Token`: the tokens
* `Lexer`: what has been read, with the open blocks and the possible keys
* `Lexer.step`: the text after one more indicator, name or scalar
* `Lexer.settled`, `Lexer.next?`: reading on up to the next token
-/

namespace SequenceApi.Yaml

open Text Cursor

/-- A line that starts with a percent sign. -/
inductive Directive where
  | version (major minor : Nat)
  | tag (handle target : String)
  | other
  deriving DecidableEq, Repr

/-- A token. -/
inductive Token where
  | directive (d : Directive)
  | documentStart
  | documentEnd
  | blockSeqStart
  | blockMapStart
  | blockEnd
  | flowSeqStart
  | flowSeqEnd
  | flowMapStart
  | flowMapEnd
  | flowEntry
  | blockEntry
  | key
  | value
  | alias (name : String)
  | anchor (name : String)
  | tag (handle : Option String) (suffix : String)
  | scalar (plain : Bool) (text : String)
  deriving DecidableEq, Repr

/-- A place where a key may have begun. -/
structure PossibleKey where
  /-- The number of tokens before it. -/
  number : Nat
  /-- There must be a key: the block has keys at this column. -/
  required : Bool
  place : Nat
  line : Nat
  column : Nat

/-- What has been read. -/
structure Lexer where
  cursor : Cursor
  /-- The tokens that are not taken, last first. -/
  tokens : List Token := []
  /-- The number of tokens that are taken. -/
  taken : Nat := 0
  /-- There are no more tokens. -/
  finished : Bool := false
  /-- The column of the innermost block, if there is one. -/
  indent : Option Nat := none
  /-- The columns of the blocks around it. -/
  outer : List (Option Nat) := []
  /-- A key may begin at the next token. -/
  keyAllowed : Bool := true
  /-- The possible key outside of flow collections. -/
  blockKey : Option PossibleKey := none
  /-- The possible key in each open flow collection, innermost first. -/
  flowKeys : List (Option PossibleKey) := []

/-! ## Names and tags -/

/-- A character of names. -/
def isNameChar (c : Char) : Bool :=
  ('0' ≤ c && c ≤ '9') || ('A' ≤ c && c ≤ 'Z') || ('a' ≤ c && c ≤ 'z') || c == '-' || c == '_'

/-- A character of tags. -/
def isTagChar (c : Char) : Bool :=
  isNameChar c || "-;/?:@&=+$,_.!~*\x27()[]".toList.contains c

/-- A character that may follow the name of an anchor. -/
def endsName (c : Char) : Bool :=
  isSeparator c || "?:,]\x7d%@\x60".toList.contains c

/-- A space, a line end or the end of the text. -/
def endsTag (c : Char) : Bool :=
  c == '\x00' || c == ' ' || isLineEnd c

/-- A name of at least one character. -/
def name? (c : Cursor) : Except ReadError (String × Cursor) :=
  let cs := c.run isNameChar
  if cs.isEmpty then .error .malformed else .ok (String.ofList cs, c.skip cs.length)

/-- The name after the indicator of an anchor or alias. -/
def anchorName (c : Cursor) : Except ReadError (String × Cursor) := do
  let (name, c) ← name? c.advance
  if endsName c.next then .ok (name, c) else .error .malformed

/-- The bytes that percent escapes give. -/
def escapedBytes : Nat → Cursor → Except ReadError (List UInt8 × Cursor)
  | 0, c => .ok ([], c)
  | n + 1, c =>
    if c.next == '%' then
      match hexValue (c.ahead 1), hexValue (c.ahead 2) with
      | some a, some b =>
        (escapedBytes n (c.skip 3)).map fun (bs, c) => (UInt8.ofNat (16 * a + b) :: bs, c)
      | _, _ => .error .malformed
    else .ok ([], c)

/-- The characters of a tag, percent escapes read. -/
def tagChars : Nat → Cursor → Except ReadError (List Char × Cursor)
  | 0, c => .ok ([], c)
  | n + 1, c =>
    let cs := c.run isTagChar
    let c := c.skip cs.length
    if c.next == '%' then do
      let (bytes, c) ← escapedBytes c.rest.length c
      match String.fromUTF8? ⟨bytes.toArray⟩ with
      | none => .error .malformed
      | some s => (tagChars n c).map fun (more, c) => (cs ++ s.toList ++ more, c)
    else .ok (cs, c)

/-- The text of a tag: at least one character. -/
def tagText (c : Cursor) : Except ReadError (String × Cursor) :=
  match tagChars (c.rest.length + 1) c with
  | .error e => .error e
  | .ok (cs, after) =>
    if after.place == c.place then .error .malformed else .ok (String.ofList cs, after)

/-- The handle of a tag: an exclamation mark, or a name between two of them. -/
def tagHandle (c : Cursor) : Except ReadError (String × Cursor) :=
  if c.next != '!' then .error .malformed
  else if c.ahead 1 == ' ' then .ok ("!", c.advance)
  else
    let name := c.advance.run isNameChar
    let after := c.skip (name.length + 1)
    if after.next == '!' then .ok (String.ofList ('!' :: name ++ ['!']), after.advance)
    else .error .malformed

/-- The tag at its indicator: in angle brackets, alone, or with a handle perhaps. -/
def tagToken (c : Cursor) : Except ReadError (Token × Cursor) := do
  let (handle, suffix, after) ←
    if c.ahead 1 == '<' then do
      let (suffix, c) ← tagText (c.skip 2)
      if c.next == '>' then .ok (none, suffix, c.advance) else .error .malformed
    else if c.separatedAt 1 then .ok (none, "!", c.advance)
    else do
      let (handle, c) ←
        if (c.advance.run fun ch => !endsTag ch).contains '!' then tagHandle c
        else .ok ("!", c.advance)
      let (suffix, c) ← tagText c
      .ok (some handle, suffix, c)
  if endsTag after.next then .ok (.tag handle suffix, after) else .error .malformed

/-! ## Directives -/

/-- A number in decimal digits. -/
def figures? (c : Cursor) : Except ReadError (Nat × Cursor) :=
  let cs := c.run Json.isDigit
  if cs.isEmpty then .error .malformed
  else if Text.longestInteger < cs.length then .error (.longInt cs.length)
  else .ok (Json.digitsValue cs, c.skip cs.length)

/-- The directive at its indicator, with its whole line. -/
def directive (c : Cursor) : Except ReadError (Directive × Cursor) := do
  let (name, c) ← name? c.advance
  if !endsTag c.next then .error .malformed
  let (d, c) ←
    if name = "YAML" then do
      let (major, c) ← figures? (c.skipRun isSpace)
      if c.next != '.' then .error .malformed
      let (minor, c) ← figures? c.advance
      if !endsTag c.next then .error .malformed
      .ok (Directive.version major minor, c)
    else if name = "TAG" then do
      let (handle, c) ← tagHandle (c.skipRun isSpace)
      if c.next != ' ' then .error .malformed
      let (target, c) ← tagText (c.skipRun isSpace)
      if !endsTag c.next then .error .malformed
      .ok (Directive.tag handle target, c)
    else .ok (Directive.other, c.skipLine)
  match c.endLine? with
  | some c => .ok (d, c)
  | none => .error .malformed

namespace Lexer

/-! ## Blocks and keys -/

/-- Inside a flow collection. -/
def inFlow (s : Lexer) : Bool :=
  !s.flowKeys.isEmpty

/-- The number of all tokens so far. -/
def count (s : Lexer) : Nat :=
  s.taken + s.tokens.length

/-- One more token. -/
def push (s : Lexer) (t : Token) : Lexer :=
  { s with tokens := t :: s.tokens }

/-- A token that comes after the first `number` tokens. -/
def insert (s : Lexer) (number : Nat) (t : Token) : Lexer :=
  let later := s.count - number
  { s with tokens := s.tokens.take later ++ t :: s.tokens.drop later }

/-- Ends the blocks at greater columns; without a column, all blocks. -/
def endBlocks (column : Option Nat) (s : Lexer) : Lexer :=
  if s.inFlow then s
  else
    -- The blocks from the innermost to the outermost, which has no column.
    let deeper (i : Option Nat) : Bool :=
      match i, column with
      | some i, some column => column < i
      | some _, none => true
      | none, _ => false
    let ended := ((s.indent :: s.outer).takeWhile deeper).length
    let left := (s.indent :: s.outer).drop ended
    { s with
      tokens := List.replicate ended .blockEnd ++ s.tokens
      indent := left.head?.join
      outer := left.tail }

/-- The start of a block at a column, unless there is one already. -/
def startBlock (s : Lexer) (column number : Nat) (t : Token) : Lexer :=
  match s.indent with
  | some i =>
    if i < column then
      { s.insert number t with indent := some column, outer := s.indent :: s.outer }
    else s
  | none => { s.insert number t with indent := some column, outer := s.indent :: s.outer }

/-- The possible key of the innermost collection. -/
def possibleKey (s : Lexer) : Option PossibleKey :=
  match s.flowKeys with
  | [] => s.blockKey
  | k :: _ => k

/-- Another possible key, or none, in the innermost collection. -/
def setKey (s : Lexer) (k : Option PossibleKey) : Lexer :=
  match s.flowKeys with
  | [] => { s with blockKey := k }
  | _ :: ks => { s with flowKeys := k :: ks }

/-- The key has had no colon in time: its line has ended, or it is longer than 1024 characters. -/
def isStale (c : Cursor) (k : PossibleKey) : Bool :=
  k.line != c.line || 1024 < c.place - k.place

/-- Gives up possible keys that have had no colon in time; a required key must have one. -/
def dropStale (s : Lexer) : Except ReadError Lexer :=
  let stale (k : Option PossibleKey) : Bool := k.any (isStale s.cursor)
  let missed (k : Option PossibleKey) : Bool := stale k && k.any (·.required)
  let keep (k : Option PossibleKey) : Option PossibleKey := if stale k then none else k
  if missed s.blockKey || s.flowKeys.any missed then .error .malformed
  else .ok { s with blockKey := keep s.blockKey, flowKeys := s.flowKeys.map keep }

/-- Gives up the possible key of the innermost collection; a required key must have a colon. -/
def dropKey (s : Lexer) : Except ReadError Lexer :=
  if s.possibleKey.any (·.required) then .error .malformed else .ok (s.setKey none)

/-- A key may begin here. -/
def saveKey (s : Lexer) : Except ReadError Lexer :=
  if s.keyAllowed then do
    let required := !s.inFlow && s.indent == some s.cursor.column
    let s ← s.dropKey
    let c := s.cursor
    .ok (s.setKey (some ⟨s.count, required, c.place, c.line, c.column⟩))
  else .ok s

/-! ## Tokens one by one -/

/-- The text after `n` characters, which are a token. -/
def take (s : Lexer) (n : Nat) (t : Token) : Lexer :=
  { s.push t with cursor := s.cursor.skip n }

/-- The place of the next token: blanks, comments and line breaks are passed over. In a block a key
may begin after a line break. -/
def skipBlanks : Nat → Lexer → Lexer
  | 0, s => s
  | n + 1, s =>
    let c := s.cursor.skipRun isSpace
    let c := if c.next == '#' then c.skipLine else c
    match c.lineBreak? with
    | some (_, c) => skipBlanks n { s with cursor := c, keyAllowed := s.keyAllowed || !s.inFlow }
    | none => { s with cursor := c }

/-- A line that is a directive, or a mark between documents: all blocks end. -/
def outside (s : Lexer) : Except ReadError Lexer := do
  let s ← (s.endBlocks none).dropKey
  .ok { s with keyAllowed := false }

/-- An opening bracket. -/
def openFlow (s : Lexer) (t : Token) : Except ReadError Lexer := do
  let s ← s.saveKey
  .ok { s.take 1 t with flowKeys := none :: s.flowKeys, keyAllowed := true }

/-- A closing bracket. -/
def closeFlow (s : Lexer) (t : Token) : Except ReadError Lexer := do
  if !s.inFlow then .error .malformed
  let s ← s.dropKey
  .ok { s.take 1 t with flowKeys := s.flowKeys.tail, keyAllowed := false }

/-- A mark that stands at the start of an item, a complex key or a complex value. In a block, it may
start the block. -/
def startEntry (s : Lexer) (block : Token) : Except ReadError Lexer :=
  if s.inFlow then .ok s
  else if !s.keyAllowed then .error .malformed
  else .ok (s.startBlock s.cursor.column s.count block)

/-- The mark of an item in a block. -/
def blockEntry (s : Lexer) : Except ReadError Lexer := do
  let s ← (← s.startEntry .blockSeqStart).dropKey
  .ok { s.take 1 .blockEntry with keyAllowed := true }

/-- The mark of a complex key. -/
def complexKey (s : Lexer) : Except ReadError Lexer := do
  let s ← (← s.startEntry .blockMapStart).dropKey
  .ok { s.take 1 .key with keyAllowed := !s.inFlow }

/-- The mark of a value: what may have been a key is one. -/
def valueMark (s : Lexer) : Except ReadError Lexer :=
  match s.possibleKey with
  | some k =>
    let s := (s.setKey none).insert k.number .key
    let s := if s.inFlow then s else s.startBlock k.column k.number .blockMapStart
    .ok { s.take 1 .value with keyAllowed := false }
  | none => do
    let s ← (← s.startEntry .blockMapStart).dropKey
    .ok { s.take 1 .value with keyAllowed := !s.inFlow }

/-- A name, a tag or a quoted scalar, with which a key may begin. -/
def keyStart (s : Lexer) (read : Except ReadError (Token × Cursor)) : Except ReadError Lexer := do
  let s ← s.saveKey
  let (t, c) ← read
  .ok { s.push t with cursor := c, keyAllowed := false }

/-- A scalar as a token. -/
def scalarToken (plain : Bool) (s : Scanned) : Token × Cursor :=
  (.scalar plain (String.ofList s.text), s.after)

/-- The least column of the further lines of a scalar. -/
def innerColumn (s : Lexer) : Nat :=
  match s.indent with
  | some i => i + 1
  | none => 0

/-- A block of lines. -/
def blockScalar (s : Lexer) : Except ReadError Lexer := do
  let s ← s.dropKey
  let (t, c) ← (blockText s.innerColumn s.cursor).map (scalarToken false)
  .ok { s.push t with cursor := c, keyAllowed := true }

/-- A scalar without quotes. A key may begin after it if it ends at a line break. -/
def plainScalar (s : Lexer) : Except ReadError Lexer := do
  let s ← s.saveKey
  let scanned := plainText s.inFlow s.innerColumn s.cursor
  let (t, c) := scalarToken true scanned
  .ok { s.push t with cursor := c, keyAllowed := scanned.crossed }

/-- A scalar without quotes may begin here: not with an indicator, unless it is a dash, or in a
block a question mark or a colon, before a character that does not separate. -/
def startsPlain (s : Lexer) : Bool :=
  let ch := s.cursor.next
  if isSeparator ch then false
  else if "-?:,[]\x7b\x7d#&*!|>\x27\x22%@\x60".toList.contains ch then
    !s.cursor.separatedAt 1 && (ch == '-' || (!s.inFlow && (ch == '?' || ch == ':')))
  else true

/-- The text after one more token, which starts at the cursor. -/
def step (s : Lexer) : Except ReadError Lexer :=
  let c := s.cursor
  let ch := c.next
  let alone := c.separatedAt 1
  if ch == '%' && c.column == 0 then do
    let s ← s.outside
    let (d, c) ← directive c
    .ok { s.push (.directive d) with cursor := c }
  else if c.column == 0 && c.atWord "---" then s.outside.map (·.take 3 .documentStart)
  else if c.column == 0 && c.atWord "..." then s.outside.map (·.take 3 .documentEnd)
  else if ch == '[' then s.openFlow .flowSeqStart
  else if ch == '\x7b' then s.openFlow .flowMapStart
  else if ch == ']' then s.closeFlow .flowSeqEnd
  else if ch == '\x7d' then s.closeFlow .flowMapEnd
  else if ch == ',' then s.dropKey.map fun s => { s.take 1 .flowEntry with keyAllowed := true }
  else if ch == '-' && alone then s.blockEntry
  else if ch == '?' && (s.inFlow || alone) then s.complexKey
  else if ch == ':' && (s.inFlow || alone) then s.valueMark
  else if ch == '*' then s.keyStart ((anchorName c).map fun (n, c) => (.alias n, c))
  else if ch == '&' then s.keyStart ((anchorName c).map fun (n, c) => (.anchor n, c))
  else if ch == '!' then s.keyStart (tagToken c)
  else if (ch == '|' || ch == '>') && !s.inFlow then s.blockScalar
  else if ch == '\x27' || ch == '\x22' then
    s.keyStart ((quotedText c).map (scalarToken false))
  else if s.startsPlain then s.plainScalar
  else .error .malformed

/-- The text after one more token, or after its end. The first argument bounds the number of lines
that are passed over. -/
def fetch (n : Nat) (s : Lexer) : Except ReadError Lexer := do
  let s ← (skipBlanks n s).dropStale
  let s := s.endBlocks (some s.cursor.column)
  if s.cursor.atEnd then
    let s ← (s.endBlocks none).dropKey
    .ok { s with finished := true }
  else s.step

/-- The number of the first token that may be a key. -/
def firstKey? (s : Lexer) : Option Nat :=
  ((s.blockKey :: s.flowKeys).filterMap fun k => k.map (·.number)).min?

/-- The text read so far that the next token is settled: it is there, and no mark of a key can come
in front of it. The first argument bounds the number of steps: each passes over a character. -/
def settled : Nat → Lexer → Except ReadError Lexer
  | 0, s => .ok s
  | n + 1, s =>
    if s.finished then .ok s
    else if s.tokens.isEmpty then do settled n (← s.fetch n)
    else do
      let s ← s.dropStale
      if s.firstKey? = some s.taken then settled n (← s.fetch n) else .ok s

/-- The next token of a text for which it is settled; none at the end. -/
def next? (s : Lexer) : Option Token :=
  s.tokens.getLast?

/-- The text after its next token is taken. -/
def afterNext (s : Lexer) : Lexer :=
  { s with tokens := s.tokens.dropLast, taken := s.taken + 1 }

end Lexer

/-- A character that may stand in a text. -/
def isReadable (c : Char) : Bool :=
  let n := c.toNat
  n == 9 || n == 10 || n == 13 || (0x20 ≤ n && n ≤ 0x7E) || n == 0x85 ||
    (0xA0 ≤ n && n ≤ 0xD7FF) || (0xE000 ≤ n && n ≤ 0xFFFD) || 0x10000 ≤ n

/-- The start of a text. A byte order mark may stand in front. -/
def Lexer.ofText (cs : List Char) : Except ReadError Lexer :=
  if cs.all isReadable then
    let c : Cursor := { rest := cs }
    .ok { cursor := if c.next == '\ufeff' then c.advance else c }
  else .error .malformed

end SequenceApi.Yaml
