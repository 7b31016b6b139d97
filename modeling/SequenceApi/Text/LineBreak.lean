/-!
# Line breaks

A text that is read from a file or from the standard input has one kind of line break: a carriage
return, alone or before a line feed, is a line feed.

## Main definitions

* `unifyBreaks`: a text in which every line break is a line feed
-/

namespace SequenceApi.Text

/-- The text in which every line break is a line feed. -/
def unifyBreaks : List Char → List Char
  | [] => []
  | '\r' :: '\n' :: cs => '\n' :: unifyBreaks cs
  | '\r' :: cs => '\n' :: unifyBreaks cs
  | c :: cs => c :: unifyBreaks cs

/-- A string in which every line break is a line feed. -/
def withUnifiedBreaks (s : String) : String :=
  String.ofList (unifyBreaks s.toList)

end SequenceApi.Text
