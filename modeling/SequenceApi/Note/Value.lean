import SequenceApi.Text.Blank
import SequenceApi.Text.Caseless
import SequenceApi.Text.Scan
import SequenceApi.Text.Word

/-!
# Keys and values in notes

A note carries values behind keys: a key with a colon, and after it the text up to the end of the
line. Blanks before the value are passed over, line feeds included; where nothing but blanks is
left, the value is the last of them that is no line feed. A line feed in a note is written as a
backslash and an `n`.

## Main definitions

* `expandLines`: a text with its written line feeds
* `valueHere?`: the value after a key
* `keyed?`: the first value behind a key that is no part of a longer word
-/

namespace SequenceApi.Note

open Text

/-- The text with a line feed for every backslash with an `n`. -/
def expandLines : List Char → List Char
  | '\\' :: 'n' :: cs => '\n' :: expandLines cs
  | c :: cs => c :: expandLines cs
  | [] => []

/-- The value at the start of a text that follows a key and its colon, and how many characters
have been read at its end. -/
def valueHere? (cs : List Char) : Option (List Char × Nat) :=
  let rest := skipBlanks cs
  if rest.isEmpty then
    ((cs.reverse.find? (· != '\n')).map fun c => ([c], cs.length))
  else
    let value := rest.takeWhile (· != '\n')
    some (value, cs.length - rest.length + value.length)

/-- The value behind a key, given in lower case with its colon, at the start of a text. -/
def valueOf? (key : String) (cs : List Char) : Option (List Char × Nat) :=
  (dropWord? key cs).bind fun rest =>
    (valueHere? rest).map fun (value, n) => (value, key.length + n)

/-- A character that joins a key after it to a longer word. -/
def joinsKey (c : Char) : Bool :=
  isWord c || c == '-'

/-- The trimmed value behind the first occurrence of a key that does not continue a word. -/
def keyed? (key : String) (cs : List Char) : Option String :=
  firstMatch
    (fun before here =>
      if before.any joinsKey then none
      else (valueOf? key here).map fun (value, _) => String.ofList (trim value))
    none cs

/-- The trimmed parts between commas that are not empty. -/
def listed (cs : List Char) : List String :=
  ((pieces ',' cs).map trim |>.filter fun p => !p.isEmpty).map String.ofList

end SequenceApi.Note
