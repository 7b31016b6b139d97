/-!
# Words without regard to case

Keywords of the notation are ASCII words in any case. Case folding relates four more characters to
ASCII letters: the dotted capital and the dotless small `i`, the long `s` and the Kelvin sign.

## Main definitions

* `sameLetter p c`: `c` is the ASCII character `p`, case ignored
* `dropWord? w cs`: what follows the keyword `w` at the start of `cs`
* `upper`: a text with its ASCII letters in upper case
-/

namespace SequenceApi.Text

/-- The character `c` reads as the lower-case ASCII character `p` when case is ignored. -/
def sameLetter (p c : Char) : Bool :=
  c == p || c.toLower == p || (p == 'i' && (c == '\u0130' || c == '\u0131')) ||
    (p == 's' && c == '\u017f') || (p == 'k' && c == '\u212a')

/-- The rest of `cs` after the keyword `w`, given in lower case, if `cs` starts with it. -/
def dropLetters? : List Char → List Char → Option (List Char)
  | [], cs => some cs
  | _ :: _, [] => none
  | p :: ps, c :: cs => if sameLetter p c then dropLetters? ps cs else none

/-- The rest of `cs` after the keyword `w`, given in lower case, if `cs` starts with it. -/
def dropWord? (w : String) (cs : List Char) : Option (List Char) :=
  dropLetters? w.toList cs

/-- The text `cs` is the keyword `w`, given in lower case. -/
def isKeyword (w : String) (cs : List Char) : Bool :=
  dropWord? w cs == some []

/-- A text with its ASCII letters in upper case. -/
def upper (s : String) : String :=
  String.ofList (s.toList.map Char.toUpper)

@[simp] theorem dropWord?_empty (cs : List Char) : dropWord? "" cs = some cs := rfl

end SequenceApi.Text
