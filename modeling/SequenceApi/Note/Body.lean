import SequenceApi.Json.Reader
import SequenceApi.Note.Value

/-!
# Bodies in notes

The value behind the first `Body:` of a note is the JSON text of a body. A line feed inside the JSON
text is not expanded: JSON has its own escape for it.

## Main definitions

* `bodyText?`: the JSON text
* `body?`: the body, or why its text is no JSON
-/

namespace SequenceApi.Note

open Text

/-- The JSON text of the body in a note. -/
def bodyText? (content : String) : Option (List Char) :=
  firstMatch (fun _ here => (valueOf? "body:" here).map Prod.fst) none content.toList

/-- The body in a note. -/
def body? (content : String) : Option (Except Json.ReadError Json) :=
  (bodyText? content).map Json.readChars

end SequenceApi.Note
