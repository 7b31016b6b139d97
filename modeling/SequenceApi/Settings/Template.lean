import SequenceApi.Settings.Template.Layout

/-!
# Title templates

The title of a document comes from a template with fields in braces. A field starts at the name of
the service; it may go on to a part of it, quote it, and lay it out. Doubled braces stand for
themselves, and a layout may itself have fields.

## Main definitions

* `Template.field?`: the next field of a template
* `Template.valueOf`: the value that the name of a field stands for
* `Template.render`: the title for a service
-/

namespace SequenceApi

open Text

namespace Template

/-! ## Fields -/

/-- A field: its name, how the value is quoted, and its layout. -/
structure Field where
  name : List Char
  conversion : Option Char
  layout : List Char

/-- The name of a field, the character that ends it if there is one, and the rest. Inside brackets
every character is part of the name. -/
def splitName (inBrackets : Bool) : List Char → Except TemplateError
    (List Char × Option Char × List Char)
  | [] => .ok ([], none, [])
  | c :: cs =>
    let more (b : Bool) := (splitName b cs).map fun (name, e, rest) => (c :: name, e, rest)
    if inBrackets then more (c != ']')
    else if c == '\x7b' then fail .openInName
    else if c == '[' then more true
    else if c == '\x7d' || c == ':' || c == '!' then .ok ([], some c, cs)
    else more false

/-- The layout up to the closing brace of its field, inside `depth` braces, and the rest. -/
def splitLayout (depth : Nat) : List Char → Except TemplateError (List Char × List Char)
  | [] => fail .openInLayout
  | c :: cs =>
    let more (d : Nat) := (splitLayout d cs).map fun (layout, rest) => (c :: layout, rest)
    if c == '\x7b' then more (depth + 1)
    else if c == '\x7d' then
      match depth with
      | 0 => .ok ([], cs)
      | d + 1 => more d
    else more depth

/-- The field after an opening brace, and the rest. -/
def field? (cs : List Char) : Except TemplateError (Field × List Char) :=
  match splitName false cs with
  | .error e => .error e
  | .ok (name, some '\x7d', rest) => .ok (⟨name, none, []⟩, rest)
  | .ok (name, some ':', rest) =>
    (splitLayout 0 rest).map fun (layout, rest) => (⟨name, none, layout⟩, rest)
  | .ok (name, some '!', rest) =>
    match rest with
    | [] => fail .noConversion
    | [_] => fail .openInLayout
    | c :: '\x7d' :: rest => .ok (⟨name, some c, []⟩, rest)
    | c :: ':' :: rest =>
      (splitLayout 0 rest).map fun (layout, rest) => (⟨name, some c, layout⟩, rest)
    | _ :: _ :: _ => fail .noColon
  | .ok _ => fail .noEndOfName

/-- The parts of a name after its first: in brackets, or after a point. Each takes an item or a part
of the value before it. -/
def select (value : Value) : Nat → List Char → Except TemplateError Value
  | _, [] => .ok value
  | 0, _ :: _ => .ok value
  | fuel + 1, c :: cs =>
    if c == '.' then
      let part := cs.takeWhile fun d => d != '.' && d != '['
      if part.isEmpty then fail .emptyAttribute
      else
        match value.part? (String.ofList part) with
        | none => .error .noAttribute
        | some v => select v fuel (cs.drop part.length)
    else if c == '[' then
      let item := cs.takeWhile (· != ']')
      match cs.drop item.length with
      | [] => fail .noBracket
      | _ :: rest =>
        match number? item with
        | .error e => .error e
        | .ok index =>
          if item.isEmpty then fail .emptyAttribute
          else
            let key := index.elim (Key.name (String.ofList item)) Key.position
            match value.item key with
            | .error e => .error e
            | .ok v => select v fuel rest
    else fail .afterBracket

/-- The value that a field names, where `service` is the only name there is. -/
def valueOf (service : String) (name : List Char) : Except TemplateError Value :=
  let first := name.takeWhile fun c => c != '.' && c != '['
  match number? first with
  | .error e => .error e
  | .ok (some index) => .error (.noPosition index)
  | .ok none =>
    if first.isEmpty then .error (.noPosition 0)
    else if first = "service".toList then
      select (.text service) name.length (name.drop first.length)
    else .error (.unknownName (String.ofList first))

/-- The value as it is, as it reads, exactly, or exactly and in ASCII. -/
def convert (value : Value) : Option Char → Except TemplateError Value
  | none => .ok value
  | some c =>
    if c == 's' then .ok (.text value.toText)
    else if c == 'r' then .ok (.text value.shown)
    else if c == 'a' then .ok (.text (inAscii value.shown))
    else fail (.badConversion c)

/-! ## Rendering -/

/-- The text of a template, where layouts may nest `depth` levels of fields. The first argument
bounds the number of characters that are left. -/
def renderFrom (service : String) : Nat → Nat → List Char → Except TemplateError (List Char)
  | 0, _, _ => .ok []
  | _ + 1, _, [] => .ok []
  | fuel + 1, depth, '\x7b' :: '\x7b' :: cs =>
    (renderFrom service fuel depth cs).map ('\x7b' :: ·)
  | fuel + 1, depth, '\x7d' :: '\x7d' :: cs =>
    (renderFrom service fuel depth cs).map ('\x7d' :: ·)
  | _ + 1, _, ['\x7b'] => fail .loneOpen
  | _ + 1, _, '\x7d' :: _ => fail .loneClose
  | fuel + 1, depth, '\x7b' :: cs =>
    match field? cs with
    | .error e => .error e
    | .ok (f, rest) =>
      match (valueOf service f.name).bind fun v => convert v f.conversion with
      | .error e => .error e
      | .ok value =>
        let layout :=
          if f.layout.contains '\x7b' then
            match depth with
            | 0 => fail .tooDeep
            | d + 1 => renderFrom service fuel d f.layout
          else .ok f.layout
        match layout.bind (layOut value) with
        | .error e => .error e
        | .ok text => (renderFrom service fuel depth rest).map (text.toList ++ ·)
  | fuel + 1, depth, c :: cs => (renderFrom service fuel depth cs).map (c :: ·)

/-- The title that a template gives for a service. Layouts may have fields; the layouts of those
fields may not. -/
def render (template service : String) : Except TemplateError String :=
  (renderFrom service (template.length + 1) 1 template.toList).map String.ofList

end Template

end SequenceApi
