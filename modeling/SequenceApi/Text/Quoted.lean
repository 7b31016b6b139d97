import SequenceApi.Text.Hex
import SequenceApi.Text.Printable

/-!
# Quoted texts

A message that names a text exactly puts it between quotes: single ones, unless the text has a
single quote and no double one. The backslash, the closing quote and what is not printable are
escaped, by the shortest escape that names the code point.

## Main definitions

* `quoted`: a text between quotes
* `inAscii`: a text with every character outside ASCII escaped
* `quotedBytes`: bytes between quotes
-/

namespace SequenceApi.Text

/-- The escape of a code point by two, four or eight hexadecimal digits. -/
def codeEscape (c : Char) : List Char :=
  let n := c.toNat
  if n < 0x100 then '\\' :: 'x' :: hexDigits 2 n
  else if n < 0x10000 then '\\' :: 'u' :: hexDigits 4 n
  else '\\' :: 'U' :: hexDigits 8 n

/-- One character of a quoted text, where `q` is the quote around it. -/
def quotedChar (q c : Char) : List Char :=
  if c == q || c == '\\' then ['\\', c]
  else if c == '\n' then ['\\', 'n']
  else if c == '\r' then ['\\', 'r']
  else if c == '\t' then ['\\', 't']
  else if isPrintable c then [c]
  else codeEscape c

/-- The quote that goes around a text. -/
def quoteFor (cs : List Char) : Char :=
  if cs.contains '\x27' && !cs.contains '\x22' then '\x22' else '\x27'

/-- A text between quotes. -/
def quoted (s : String) : String :=
  let q := quoteFor s.toList
  String.ofList (q :: s.toList.flatMap (quotedChar q) ++ [q])

/-- A text with every character outside ASCII escaped. -/
def inAscii (s : String) : String :=
  String.ofList (s.toList.flatMap fun c => if c.toNat < 128 then [c] else codeEscape c)

/-- One byte of quoted bytes, where `q` is the quote around them. -/
def quotedByte (q : Char) (b : UInt8) : List Char :=
  if b.toNat < 0x80 then quotedChar q (Char.ofNat b.toNat) else '\\' :: 'x' :: hexDigits 2 b.toNat

/-- Bytes between quotes, with a mark in front: those that are printable characters of ASCII stand
for themselves. -/
def quotedBytes (bytes : List UInt8) : String :=
  let q := quoteFor (bytes.map fun b => Char.ofNat b.toNat)
  String.ofList ('b' :: q :: bytes.flatMap (quotedByte q) ++ [q])

end SequenceApi.Text
