import SequenceApi.Text.Quoted

/-!
# Why a template gives no title

A template may be malformed, and a well-formed one may name what there is not, ask for a part that
a value does not have, or for a layout that does not suit a value.

## Main definitions

* `TemplateFault`: faults in the form of a template and of its layouts
* `TemplateError`: why a template gives no title
* `TemplateFault.message`, `TemplateError.message`: their wording
-/

namespace SequenceApi

open Text

/-- A fault in the form of a template. Those of layouts may depend on the kind of the value, which
is then given by its name. -/
inductive TemplateFault where
  | loneOpen
  | loneClose
  | openInName
  | noEndOfName
  | noConversion
  | noColon
  | openInLayout
  | badConversion (c : Char)
  | tooDeep
  | manyDigits
  | noBracket
  | afterBracket
  | emptyAttribute
  | noPrecision
  | bothMarks
  | badMark (mark type : Char)
  | badLayout (layout kind : String)
  | badType (type : Char) (kind : String)
  | spaceSign
  | sign
  | zeroSign
  | alternate
  | signAlignment
  | integerPrecision
  | integerZeroSign
  | characterSign
  | characterAlternate
  | hugePrecision
  deriving DecidableEq, Repr

/-- Why a template gives no title. -/
inductive TemplateError where
  /-- A field names nothing that there is. -/
  | unknownName (name : String)
  /-- A field is numbered; there are no numbered values. -/
  | noPosition (index : Nat)
  /-- A character is asked for that a text does not have. -/
  | pastEnd
  /-- An item is asked for that a sequence does not have. -/
  | pastLast
  /-- An entry is asked for by a key, shown here, that is not there. -/
  | noEntry (key : String)
  /-- A part is asked for by a name that the value does not know. -/
  | noAttribute
  /-- An item is asked for by something that is no number, or of a value that has none. -/
  | notAnIndex
  /-- A layout is asked for of a value that has none. -/
  | noLayout
  /-- A number is laid out as a character that does not exist. -/
  | noCharacter
  | malformed (fault : TemplateFault)
  deriving DecidableEq, Repr

/-- A character in a message: itself if it is a visible one of ASCII, and its code otherwise. -/
def TemplateFault.shown (c : Char) : String :=
  let n := c.toNat
  if 32 < n && n < 127 then String.ofList [c]
  else "\\x" ++ String.ofList (Nat.toDigits 16 n)

/-- The wording of a fault. -/
def TemplateFault.message : TemplateFault → String
  | .loneOpen => "Single '\x7b' encountered in format string"
  | .loneClose => "Single '\x7d' encountered in format string"
  | .openInName => "unexpected '\x7b' in field name"
  | .noEndOfName => "expected '\x7d' before end of string"
  | .noConversion => "end of string while looking for conversion specifier"
  | .noColon => "expected ':' after conversion specifier"
  | .openInLayout => "unmatched '\x7b' in format spec"
  | .badConversion c => "Unknown conversion specifier " ++ shown c
  | .tooDeep => "Max string recursion exceeded"
  | .manyDigits => "Too many decimal digits in format string"
  | .noBracket => "Missing ']' in format string"
  | .afterBracket => "Only '.' or '[' may follow ']' in format field specifier"
  | .emptyAttribute => "Empty attribute in format string"
  | .noPrecision => "Format specifier missing precision"
  | .bothMarks => "Cannot specify both ',' and '_'."
  | .badMark mark type => s!"Cannot specify '{shown mark}' with '{shown type}'."
  | .badLayout layout kind => s!"Invalid format specifier '{layout}' for object of type '{kind}'"
  | .badType type kind => s!"Unknown format code '{shown type}' for object of type '{kind}'"
  | .spaceSign => "Space not allowed in string format specifier"
  | .sign => "Sign not allowed in string format specifier"
  | .zeroSign => "Negative zero coercion (z) not allowed in string format specifier"
  | .alternate => "Alternate form (#) not allowed in string format specifier"
  | .signAlignment => "'=' alignment not allowed in string format specifier"
  | .integerPrecision => "Precision not allowed in integer format specifier"
  | .integerZeroSign => "Negative zero coercion (z) not allowed in integer format specifier"
  | .characterSign => "Sign not allowed with integer format specifier 'c'"
  | .characterAlternate => "Alternate form (#) not allowed with integer format specifier 'c'"
  | .hugePrecision => "precision too big"

/-- The wording of an error. -/
def TemplateError.message : TemplateError → String
  | .unknownName name => quoted name
  | .noPosition index => s!"Replacement index {index} out of range for positional args tuple"
  | .pastEnd => "string index out of range"
  | .pastLast => "tuple index out of range"
  | .noEntry key => key
  | .noAttribute => "no such attribute"
  | .notAnIndex => "no item of this name"
  | .noLayout => "no layout for this value"
  | .noCharacter => "no character of this number"
  | .malformed fault => fault.message

namespace Template

/-- A fault ends the rendering. -/
def fail {α : Type} (fault : TemplateFault) : Except TemplateError α :=
  .error (.malformed fault)

end Template

end SequenceApi
