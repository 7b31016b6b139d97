import SequenceApi.Text.Blank
import SequenceApi.Text.Digit
import SequenceApi.Text.Scan

/-!
# Arrow lines

A line with an arrow has a source before its first hyphen, an arrow head there, a target up to the
next colon, and a label after the colon. The single-dash arrow is a call, the double-dash arrow a
reply. The label of a call is a word, a path and a remainder; the label of a reply starts with three
digits.

## Main definitions

* `Arrow`, `Arrow.read`: the parts of an arrow line
* `CallLabel`, `CallLabel.read`: the parts of a call's label
* `ReplyLabel`, `ReplyLabel.read`: the parts of a reply's label
-/

namespace SequenceApi

open Text

/-- The two arrows. -/
inductive Arrow.Head where
  | call
  | reply
  deriving DecidableEq, Repr

/-- The parts of an arrow line. -/
structure Arrow where
  head : Arrow.Head
  source : String
  target : String
  /-- The text after the colon, less one blank. -/
  label : List Char
  deriving DecidableEq, Repr

/-- The arrow that starts at a hyphen, and the text after it. -/
def Arrow.Head.read : List Char → Option (Arrow.Head × List Char)
  | '-' :: '>' :: '>' :: rest => some (.call, rest)
  | '-' :: '-' :: '>' :: '>' :: rest => some (.reply, rest)
  | _ => none

/-- The text without one leading blank. -/
def dropOneBlank : List Char → List Char
  | [] => []
  | c :: cs => if isBlank c then cs else c :: cs

/-- The parts of a trimmed line, if it has an arrow at its first hyphen, text before the arrow, and
text between the arrow and the next colon. -/
def Arrow.read (line : List Char) : Option Arrow :=
  let before := line.takeWhile (· != '-')
  if before.isEmpty then none
  else
    match Arrow.Head.read (line.dropWhile (· != '-')) with
    | none => none
    | some (head, rest) =>
      match cut ':' rest with
      | (_, none) => none
      | (between, some after) =>
        if between.isEmpty then none
        else
          some ⟨head, String.ofList (trim before), String.ofList (trim between), dropOneBlank after⟩

/-- A remainder without outer blanks, if it is not empty. -/
def remainder? (cs : List Char) : Option String :=
  let rest := trim cs
  if rest.isEmpty then none else some (String.ofList rest)

/-- The parts of a call's label. -/
structure CallLabel where
  /-- The method as it is written. -/
  verb : List Char
  path : String
  summary : Option String

/-- The label of a call: a word, blanks, a path, and a remainder. -/
def CallLabel.read (label : List Char) : Option CallLabel :=
  let w := word label
  let rest := skipBlanks (afterWord label)
  if w.isEmpty || (word rest).isEmpty then none
  else some ⟨w, String.ofList (word rest), remainder? (afterWord rest)⟩

/-- The parts of a reply's label. -/
structure ReplyLabel where
  status : List Char
  description : Option String

/-- The label of a reply: three digits of any script, and a remainder. -/
def ReplyLabel.read : List Char → Option ReplyLabel
  | a :: b :: c :: rest =>
    if isDigit a && isDigit b && isDigit c then some ⟨[a, b, c], remainder? rest⟩ else none
  | _ => none

end SequenceApi
