import SequenceApi.Text.Blank
import SequenceApi.Text.Digit
import SequenceApi.Text.LowerCase
import SequenceApi.Text.Scan

/-!
# Styles by name

Marked-up texts name styles by words: features, what is not one of them, a colour, the colour of the
ground, and a link. Two names that say the same have the same canonical name; a name that says
nothing is its own.

## Main definitions

* `Feature`: what a style has or has not
* `Style`: what a name says
* `Style.ofName?`: a name read
* `canonicalName`: the canonical name
-/

namespace SequenceApi.Markup

open Text

/-! ## Features -/

/-- What a style has or has not, apart from colours and links. -/
inductive Feature where
  | bold
  | dim
  | italic
  | underline
  | blink
  | rapidBlink
  | reverse
  | conceal
  | strike
  | doubleUnderline
  | frame
  | encircle
  | overline
  deriving DecidableEq, Repr

namespace Feature

/-- All features, in the order in which a canonical name has them. -/
def all : List Feature :=
  [bold, dim, italic, underline, blink, rapidBlink, reverse, conceal, strike, doubleUnderline,
    frame, encircle, overline]

/-- The name of a feature. -/
def name : Feature → String
  | bold => "bold"
  | dim => "dim"
  | italic => "italic"
  | underline => "underline"
  | blink => "blink"
  | rapidBlink => "blink2"
  | reverse => "reverse"
  | conceal => "conceal"
  | strike => "strike"
  | doubleUnderline => "underline2"
  | frame => "frame"
  | encircle => "encircle"
  | overline => "overline"

/-- The short name of a feature. -/
def shortName? : Feature → Option String
  | bold => some "b"
  | dim => some "d"
  | italic => some "i"
  | underline => some "u"
  | reverse => some "r"
  | conceal => some "c"
  | strike => some "s"
  | doubleUnderline => some "uu"
  | overline => some "o"
  | blink | rapidBlink | frame | encircle => none

/-- The feature with a name, or with a short name. -/
def ofName? (word : String) : Option Feature :=
  all.find? fun f => f.name = word || f.shortName? = some word

end Feature

/-! ## Colours -/

/-- The colours with a name. -/
def colourNames : List String := [
  "default", "aquamarine1", "aquamarine3", "black", "blue", "blue1", "blue3", "blue_violet",
  "bright_black", "bright_blue", "bright_cyan", "bright_green", "bright_magenta", "bright_red",
  "bright_white", "bright_yellow", "cadet_blue", "chartreuse1", "chartreuse2", "chartreuse3",
  "chartreuse4", "cornflower_blue", "cornsilk1", "cyan", "cyan1", "cyan2", "cyan3", "dark_blue",
  "dark_cyan", "dark_goldenrod", "dark_green", "dark_khaki", "dark_magenta", "dark_olive_green1",
  "dark_olive_green2", "dark_olive_green3", "dark_orange", "dark_orange3", "dark_red",
  "dark_sea_green", "dark_sea_green1", "dark_sea_green2", "dark_sea_green3", "dark_sea_green4",
  "dark_slate_gray1", "dark_slate_gray2", "dark_slate_gray3", "dark_turquoise", "dark_violet",
  "deep_pink1", "deep_pink2", "deep_pink3", "deep_pink4", "deep_sky_blue1", "deep_sky_blue2",
  "deep_sky_blue3", "deep_sky_blue4", "dodger_blue1", "dodger_blue2", "dodger_blue3", "gold1",
  "gold3", "gray0", "gray100", "gray11", "gray15", "gray19", "gray23", "gray27", "gray3", "gray30",
  "gray35", "gray37", "gray39", "gray42", "gray46", "gray50", "gray53", "gray54", "gray58",
  "gray62", "gray63", "gray66", "gray69", "gray7", "gray70", "gray74", "gray78", "gray82", "gray84",
  "gray85", "gray89", "gray93", "green", "green1", "green3", "green4", "green_yellow", "grey0",
  "grey100", "grey11", "grey15", "grey19", "grey23", "grey27", "grey3", "grey30", "grey35",
  "grey37", "grey39", "grey42", "grey46", "grey50", "grey53", "grey54", "grey58", "grey62",
  "grey63", "grey66", "grey69", "grey7", "grey70", "grey74", "grey78", "grey82", "grey84", "grey85",
  "grey89", "grey93", "honeydew2", "hot_pink", "hot_pink2", "hot_pink3", "indian_red",
  "indian_red1", "khaki1", "khaki3", "light_coral", "light_cyan1", "light_cyan3",
  "light_goldenrod1", "light_goldenrod2", "light_goldenrod3", "light_green", "light_pink1",
  "light_pink3", "light_pink4", "light_salmon1", "light_salmon3", "light_sea_green",
  "light_sky_blue1", "light_sky_blue3", "light_slate_blue", "light_slate_gray", "light_slate_grey",
  "light_steel_blue", "light_steel_blue1", "light_steel_blue3", "light_yellow3", "magenta",
  "magenta1", "magenta2", "magenta3", "medium_orchid", "medium_orchid1", "medium_orchid3",
  "medium_purple", "medium_purple1", "medium_purple2", "medium_purple3", "medium_purple4",
  "medium_spring_green", "medium_turquoise", "medium_violet_red", "misty_rose1", "misty_rose3",
  "navajo_white1", "navajo_white3", "navy_blue", "orange1", "orange3", "orange4", "orange_red1",
  "orchid", "orchid1", "orchid2", "pale_green1", "pale_green3", "pale_turquoise1",
  "pale_turquoise4", "pale_violet_red1", "pink1", "pink3", "plum1", "plum2", "plum3", "plum4",
  "purple", "purple3", "purple4", "red", "red1", "red3", "rosy_brown", "royal_blue1", "salmon1",
  "sandy_brown", "sea_green1", "sea_green2", "sea_green3", "sky_blue1", "sky_blue2", "sky_blue3",
  "slate_blue1", "slate_blue3", "spring_green1", "spring_green2", "spring_green3", "spring_green4",
  "steel_blue", "steel_blue1", "steel_blue3", "tan", "thistle1", "thistle3", "turquoise2",
  "turquoise4", "violet", "wheat1", "wheat4", "white", "yellow", "yellow1", "yellow2", "yellow3",
  "yellow4"]

/-- Why a name of a style has no meaning. -/
inductive StyleFault where
  | unknown
  /-- A share of a colour is no number. -/
  | emptyNumber
  deriving DecidableEq, Repr

/-- What stands between a beginning and a closing parenthesis. -/
def argument? (beginning : String) (word : List Char) : Option (List Char) :=
  let opening := beginning.toList ++ ['(']
  if opening.isPrefixOf word && word.getLast? == some ')' then
    some (word.drop opening.length).dropLast
  else none

/-- A colour by its three shares in hexadecimal digits. -/
def isHexColour : List Char → Bool
  | '#' :: digits => digits.length == 6 && digits.all fun c => c.isDigit || ('a' ≤ c && c ≤ 'f')
  | _ => false

/-- The number of a colour of the console. -/
def isColourNumber (digits : List Char) : Bool :=
  !digits.isEmpty && digits.length ≤ 3 && digits.all Char.isDigit && digitsValue digits ≤ 255

/-- The shares of red, green and blue in decimal digits. -/
def checkShares (shares : List Char) : Except StyleFault Unit :=
  let parts := pieces ',' shares
  if !shares.all fun c => isDigit c || c == ',' then .error .unknown
  else if shares.isEmpty || parts.length != 3 then .error .unknown
  else if parts.any List.isEmpty then .error .emptyNumber
  else if parts.all fun p => digitsValue p ≤ 255 then .ok ()
  else .error .unknown

/-- A word is a colour. -/
def checkColour (word : List Char) : Except StyleFault Unit :=
  if colourNames.contains (String.ofList word) || isHexColour word then .ok ()
  else
    match argument? "color" word, argument? "rgb" word with
    | some digits, _ => if isColourNumber digits then .ok () else .error .unknown
    | none, some shares => checkShares shares
    | none, none => .error .unknown

/-! ## Styles -/

/-- What the next word of a name stands for. -/
inductive Expected where
  | anything
  | ground
  | noFeature
  | link
  deriving DecidableEq, Repr

/-- What a name says, up to some word. -/
structure Style where
  features : List (Feature × Bool) := []
  colour : Option (List Char) := none
  ground : Option (List Char) := none
  link : Option (List Char) := none
  expected : Expected := .anything
  deriving DecidableEq, Repr

namespace Style

/-- Says of a feature whether the style has it. -/
def setFeature (s : Style) (f : Feature) (has : Bool) : Style :=
  { s with features := (f, has) :: s.features, expected := .anything }

/-- The word says what the style is like. -/
def addPlain (s : Style) (word : List Char) : Except StyleFault Style :=
  let small := lower word
  let text := String.ofList small
  if text = "on" then .ok { s with expected := .ground }
  else if text = "not" then .ok { s with expected := .noFeature }
  else if text = "link" then .ok { s with expected := .link }
  else
    match Feature.ofName? text with
    | some f => .ok (s.setFeature f true)
    | none => (checkColour small).map fun _ => { s with colour := some small }

/-- One more word. -/
def addWord (s : Style) (word : List Char) : Except StyleFault Style :=
  match s.expected with
  | .anything => s.addPlain word
  | .ground =>
    (checkColour (lower word)).map fun _ =>
      { s with ground := some (lower word), expected := .anything }
  | .noFeature =>
    match Feature.ofName? (String.ofList word) with
    | some f => .ok (s.setFeature f false)
    | none => .error .unknown
  | .link => .ok { s with link := some word, expected := .anything }

/-- The words of a text. -/
def words (cs : List Char) : List (List Char) :=
  (cs.foldr (fun c parts => if isBlank c then [] :: parts
    else match parts with
      | w :: ws => (c :: w) :: ws
      | [] => [[c]]) [[]]).filter fun w => !w.isEmpty

/-- A name read; the name for nothing says nothing. -/
def ofName? (name : List Char) : Except StyleFault Style :=
  if trim name = "none".toList then .ok {}
  else
    match (words name).foldlM addWord {} with
    | .error f => .error f
    | .ok s => if s.expected = .anything then .ok s else .error .unknown

/-- The words for the features. -/
def featureWords (s : Style) : List String :=
  Feature.all.filterMap fun f =>
    (s.features.find? fun g => g.1 = f).map fun (_, has) =>
      if has then f.name else "not " ++ f.name

/-- The canonical name of what is said. -/
def name (s : Style) : List Char :=
  let ws := s.featureWords ++ (s.colour.map String.ofList).toList ++
    (s.ground.map fun g => "on " ++ String.ofList g).toList ++
    (s.link.map fun l => "link " ++ String.ofList l).toList
  if ws.isEmpty then "none".toList else (joined " " ws).toList

end Style

/-- The canonical name of a style. A name without meaning is its own, in lower case. -/
def canonicalName (name : List Char) : Except StyleFault (List Char) :=
  match Style.ofName? name with
  | .ok s => .ok s.name
  | .error .unknown => .ok (lower (trim name))
  | .error .emptyNumber => .error .emptyNumber

end SequenceApi.Markup
