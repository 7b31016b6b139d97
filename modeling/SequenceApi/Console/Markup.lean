import SequenceApi.Console.Style
import SequenceApi.Text.Emoji
import SequenceApi.Text.Word

/-!
# Marked-up texts

A text can be marked up with tags in brackets: a tag opens a style, and a slash before its name, or
a slash alone, closes it. Backslashes before a tag escape it. What remains is the text without its
tags; styles themselves are not shown, but a tag that closes nothing is a fault.

What a console makes of marked-up texts is its own business, and the rest of the library leaves it
open. Here is one console. It follows the names of styles and the links between opening and closing
tags. Tags for actions, which begin with an at sign, it takes without arguments only; and it does
not look into the parameters of other tags.

## Main definitions

* `Piece`: texts and tags
* `pieces`: a marked-up text as pieces
* `MarkupFault`: why a marked-up text has no meaning
* `Reading`: what a console makes of marked-up texts
* `unmarked`: what remains of a marked-up text
-/

namespace SequenceApi.Markup

open Text

/-! ## Tags -/

/-- A tag, and where it stands. -/
structure Tag where
  /-- The text up to the first equals sign. -/
  name : List Char
  /-- The text after the first equals sign. -/
  parameters : Option (List Char)
  /-- The number of characters before the tag. -/
  position : Nat
  deriving DecidableEq, Repr

/-- A tag as it is written. -/
def Tag.text (t : Tag) : List Char :=
  match t.parameters with
  | some p => '[' :: t.name ++ '=' :: p ++ [']']
  | none => '[' :: t.name ++ [']']

/-- A part of a marked-up text. -/
inductive Piece where
  | text (cs : List Char)
  | tag (t : Tag)
  deriving DecidableEq, Repr

/-- A tag can begin with this character. -/
def startsTag (c : Char) : Bool :=
  ('a' ≤ c && c ≤ 'z') || c == '#' || c == '/' || c == '@'

/-- The text between the brackets of a tag at the start. -/
def tagText? : List Char → Option (List Char)
  | '[' :: c :: cs =>
    let inner := cs.takeWhile fun d => d != ']' && d != '['
    if startsTag c && (cs.drop inner.length).head? == some ']' then some (c :: inner) else none
  | _ => none

/-- What backslashes and a tag after them stand for. Two backslashes are one; one that is left over
makes the tag a text. -/
def escapedTag (position slashes : Nat) (inner : List Char) : List Piece :=
  let half := slashes / 2
  (if half = 0 then [] else [.text (List.replicate half '\\')]) ++
    if slashes % 2 = 1 then [.text ('[' :: inner ++ [']'])]
    else
      let (name, parameters) := cut '=' inner
      [.tag ⟨name, parameters, position + 2 * half⟩]

/-- The tag at the start with the backslashes before it: their number and its text. -/
def tagHere? (cs : List Char) : Option (Nat × List Char) :=
  let slashes := cs.takeWhile (· == '\\')
  (tagText? (cs.drop slashes.length)).map (slashes.length, ·)

/-- A text that may be empty as pieces. -/
def textPiece (cs : List Char) : List Piece :=
  if cs.isEmpty then [] else [.text cs]

/-- The pieces of a text. The first argument counts characters still to be passed over, the second
one those before the text, and `before` are those of the text before, the last one first. -/
def piecesAfter : Nat → Nat → List Char → List Char → List Piece
  | _, _, before, [] => textPiece before.reverse
  | k + 1, position, before, _ :: cs => piecesAfter k (position + 1) before cs
  | 0, position, before, c :: cs =>
    match tagHere? (c :: cs) with
    | none => piecesAfter 0 (position + 1) (c :: before) cs
    | some (slashes, inner) =>
      textPiece before.reverse ++ escapedTag position slashes inner ++
        piecesAfter (slashes + inner.length + 1) (position + 1) [] cs

/-- A marked-up text as pieces. -/
def pieces (cs : List Char) : List Piece :=
  piecesAfter 0 0 [] cs

/-! ## Texts -/

/-- A text without backslashes before brackets. -/
def unescaped : List Char → List Char
  | '\\' :: '[' :: cs => '[' :: unescaped cs
  | c :: cs => c :: unescaped cs
  | [] => []

/-- A control that the console does not pass on: a bell, a step back, a vertical tab, a form feed or
a carriage return. -/
def isDropped (c : Char) : Bool :=
  let n := c.toNat
  n == 7 || n == 8 || n == 11 || n == 12 || n == 13

/-- A text without the controls that the console does not pass on. -/
def withoutControls (cs : List Char) : List Char :=
  cs.filter fun c => !isDropped c

/-! ## Styles -/

/-- Why a marked-up text has no meaning. -/
inductive MarkupFault where
  /-- A tag closes a style that is not open. -/
  | notOpen (t : Tag)
  /-- A tag closes any style where none is open. -/
  | nothingOpen (position : Nat)
  /-- The action of a tag cannot be read. -/
  | action (parameters : List Char)
  /-- A colour has an empty share. -/
  | emptyNumber
  deriving DecidableEq, Repr

/-- The wording of a fault. -/
def MarkupFault.message : MarkupFault → String
  | notOpen t =>
    s!"closing tag '{String.ofList t.text}' at position {t.position} doesn't match any open tag"
  | nothingOpen position => s!"closing tag '[/]' at position {position} has nothing to close"
  | action parameters => s!"error parsing '{String.ofList parameters}'"
  | emptyNumber => "invalid literal for int() with base 10: ''"

/-- What a console makes of marked-up texts: what remains of them, or why it is nothing. -/
abbrev Reading : Type :=
  List Char → Except MarkupFault (List Char)

/-- The canonical name of a style, or a fault. -/
def styleName (name : List Char) : Except MarkupFault (List Char) :=
  match canonicalName name with
  | .ok n => .ok n
  | .error _ => .error .emptyNumber

/-- The name of an action, which may have points in it, and an empty list of arguments after it. -/
def isAction (parameters : List Char) : Bool :=
  let rest := (trim parameters).dropWhile fun c => isWord c || c == '.'
  rest.isEmpty || rest == ['(', ')']

/-- A tag is closed: if it has an action, that is read. -/
def checkClosed (t : Tag) : Except MarkupFault Unit :=
  match t.name, t.parameters with
  | '@' :: _, some parameters =>
    if parameters.isEmpty || isAction parameters then .ok () else .error (.action parameters)
  | _, _ => .ok ()

/-- The tags that are open after a tag, the last one first. -/
def openTags (tags : List Tag) (t : Tag) : Except MarkupFault (List Tag) :=
  match t.name with
  | '/' :: rest =>
    if isInked rest then do
      let name ← styleName (trim rest)
      match tags.find? (·.name = name) with
      | none => throw (.notOpen t)
      | some opened =>
        checkClosed opened
        return tags.eraseP (·.name = name)
    else
      match tags with
      | [] => throw (.nothingOpen t.position)
      | opened :: tags => do
        checkClosed opened
        return tags
  | name => do return { t with name := ← styleName name } :: tags

/-- What remains of pieces, with tags that are open. -/
def remains : List Tag → List Piece → Except MarkupFault (List Char)
  | _, [] => .ok []
  | tags, .text cs :: ps => do
    return withoutControls (withPictures (unescaped cs)) ++ (← remains tags ps)
  | tags, .tag t :: ps => do
    remains (← openTags tags t) ps

/-- What remains of a marked-up text. -/
def unmarked : Reading := fun cs =>
  if cs.contains '[' then remains [] (pieces cs)
  else .ok (withoutControls (withPictures cs))

end SequenceApi.Markup
