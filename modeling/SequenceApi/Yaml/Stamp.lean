import SequenceApi.Json.Lexeme
import SequenceApi.Text.Scan

/-!
# Dates and times

A plain scalar may be a date, or a date with a time of day and an offset from universal time. The
calendar is the Gregorian one, from the year 1 to the year 9999.

## Main definitions

* `Stamp`: a date, with a time perhaps
* `Stamp.read?`: the stamp that a text spells, whether there is such a day or not
* `Stamp.check`: what is wrong with a stamp
* `Stamp.isSame`: two stamps are the same
* `Stamp.text`, `Stamp.literal`, `Stamp.encoded`: the texts of a stamp
-/

namespace SequenceApi.Yaml

open Json (isDigit digitsValue)
open Text (joined)

/-- A time of day. -/
structure Clock where
  hour : Nat
  minute : Nat
  second : Nat
  microsecond : Nat
  /-- The offset from universal time in minutes, if it is given. -/
  offset : Option Int
  deriving DecidableEq, Repr

/-- A date, with a time perhaps. -/
structure Stamp where
  year : Nat
  month : Nat
  day : Nat
  clock : Option Clock
  deriving DecidableEq, Repr

namespace Stamp

/-! ## Reading -/

/-- The number that at least `least` and at most `most` leading digits spell, and the rest. -/
def digits? (least most : Nat) (cs : List Char) : Option (Nat × List Char) :=
  let ds := (cs.take most).takeWhile isDigit
  if ds.length < least then none else some (digitsValue ds, cs.drop ds.length)

/-- The rest of a text after a character. -/
def skip? (c : Char) : List Char → Option (List Char)
  | d :: cs => if d == c then some cs else none
  | [] => none

/-- A space or a tab. -/
def isGap (c : Char) : Bool :=
  c == ' ' || c == '\t'

/-- The microseconds after the seconds: the first six digits after a point. -/
def fraction (cs : List Char) : Nat × List Char :=
  match cs with
  | '.' :: rest =>
    let ds := rest.takeWhile isDigit
    let six := ds.take 6
    (digitsValue (six ++ List.replicate (6 - six.length) '0'), rest.drop ds.length)
  | _ => (0, cs)

/-- The offset at the end of a text, in minutes: nothing, a `Z`, or a sign with hours and
minutes. -/
def offset? (cs : List Char) : Option (Option Int) :=
  match cs.dropWhile isGap with
  | [] => if cs.isEmpty then some none else none
  | ['Z'] => some (some 0)
  | sign :: rest =>
    if sign == '+' || sign == '-' then do
      let (hours, rest) ← digits? 1 2 rest
      let minutes ←
        if rest.isEmpty then some 0
        else do
          let (minutes, rest) ← (skip? ':' rest).bind (digits? 2 2)
          if rest.isEmpty then some minutes else none
      let n : Int := 60 * hours + minutes
      some (some (if sign == '-' then -n else n))
    else none

/-- The time after a date: a `T` or blanks, hours, minutes, seconds, a fraction and an offset. -/
def clock? (cs : List Char) : Option Clock := do
  let rest ←
    match cs with
    | c :: rest =>
      if c == 'T' || c == 't' then some rest
      else if isGap c then some (rest.dropWhile isGap)
      else none
    | [] => none
  let (hour, rest) ← digits? 1 2 rest
  let (minute, rest) ← (skip? ':' rest).bind (digits? 2 2)
  let (second, rest) ← (skip? ':' rest).bind (digits? 2 2)
  let (microsecond, rest) := fraction rest
  let offset ← offset? rest
  some { hour, minute, second, microsecond, offset }

/-- The stamp that a text spells. Month and day have one or two digits. -/
def read? (cs : List Char) : Option Stamp := do
  let (year, rest) ← digits? 4 4 cs
  let (month, rest) ← (skip? '-' rest).bind (digits? 1 2)
  let (day, rest) ← (skip? '-' rest).bind (digits? 1 2)
  if rest.isEmpty then some ⟨year, month, day, none⟩
  else (clock? rest).map fun c => ⟨year, month, day, some c⟩

/-- A plain scalar is a stamp: a date alone has two digits for the month and for the day. -/
def isPlain (cs : List Char) : Bool :=
  match read? cs with
  | some s => s.clock.isSome || cs.length == 10
  | none => false

/-! ## Validity -/

/-- The year has a day more. -/
def isLeap (year : Nat) : Bool :=
  year % 4 == 0 && (year % 100 != 0 || year % 400 == 0)

/-- The days of a month. -/
def daysIn (year month : Nat) : Nat :=
  if month == 2 then (if isLeap year then 29 else 28)
  else if month == 4 || month == 6 || month == 9 || month == 11 then 30
  else 31

/-- What is wrong with a stamp. -/
inductive Fault where
  | year (n : Nat)
  | month
  | day
  | hour
  | minute
  | second
  | offset (minutes : Int)
  deriving DecidableEq, Repr

/-- A difference of times as days and seconds, where the seconds are not negative. -/
def differenceText (minutes : Int) : String :=
  let days := Int.fdiv minutes 1440
  let seconds := 60 * Int.fmod minutes 1440
  let parts := (if days = 0 then [] else [s!"days={days}"]) ++
    (if seconds = 0 then [] else [s!"seconds={seconds}"])
  "datetime.timedelta(" ++ (if parts.isEmpty then "0" else joined ", " parts) ++ ")"

/-- The wording of a fault. -/
def Fault.message : Fault → String
  | .year n => s!"year {n} is out of range"
  | .month => "month must be in 1..12"
  | .day => "day is out of range for month"
  | .hour => "hour must be in 0..23"
  | .minute => "minute must be in 0..59"
  | .second => "second must be in 0..59"
  | .offset minutes =>
    "offset must be a timedelta strictly between -timedelta(hours=24) and " ++
      s!"timedelta(hours=24), not {differenceText minutes}."

/-- The fault of a date, if there is no such day. -/
def dateFault? (s : Stamp) : Option Fault :=
  if s.year = 0 then some (.year 0)
  else if s.month = 0 || 12 < s.month then some .month
  else if s.day = 0 || daysIn s.year s.month < s.day then some .day
  else none

/-- The fault of an offset: it is less than a day. -/
def offsetFault? (c : Clock) : Option Fault :=
  c.offset.bind fun n => if 1440 ≤ n.natAbs then some (.offset n) else none

/-- The fault of a time of day. -/
def clockFault? (c : Clock) : Option Fault :=
  if 23 < c.hour then some .hour
  else if 59 < c.minute then some .minute
  else if 59 < c.second then some .second
  else none

/-- What is wrong with a stamp, if anything is: the offset first, then the date, then the time. -/
def fault? (s : Stamp) : Option Fault :=
  match s.clock with
  | none => s.dateFault?
  | some c => ((offsetFault? c).or s.dateFault?).or (clockFault? c)

/-! ## Moments -/

/-- The days of the months before a month. -/
def daysBefore (year month : Nat) : Nat :=
  (List.range (month - 1)).foldl (fun days m => days + daysIn year (m + 1)) 0

/-- The number of a day, counted from the first day of the year 1. -/
def dayNumber (s : Stamp) : Nat :=
  let years := s.year - 1
  365 * years + years / 4 - years / 100 + years / 400 + daysBefore s.year s.month + (s.day - 1)

/-- The microseconds of universal time from the first day of the year 1 on, at a time of day with an
offset. -/
def moment (s : Stamp) (c : Clock) (offset : Int) : Int :=
  let minutes : Int := 1440 * s.dayNumber + 60 * c.hour + c.minute - offset
  1000000 * (60 * minutes + c.second) + c.microsecond

/-- Two stamps are the same: two dates, or two times without an offset, by their parts, and two
times with an offset by their moment. -/
def isSame (s t : Stamp) : Bool :=
  match s.clock, t.clock with
  | some c, some d =>
    match c.offset, d.offset with
    | some a, some b => s.moment c a == t.moment d b
    | _, _ => s == t
  | _, _ => s == t

/-! ## Writing -/

/-- A number with at least `width` digits. -/
def padded (width n : Nat) : String :=
  let ds := Nat.toDigits 10 n
  String.ofList (List.replicate (width - ds.length) '0' ++ ds)

/-- The offset as hours and minutes. -/
def offsetText (n : Int) : String :=
  (if n < 0 then "-" else "+") ++ padded 2 (n.natAbs / 60) ++ ":" ++ padded 2 (n.natAbs % 60)

/-- The date as it is shown. -/
def dateText (s : Stamp) : String :=
  s!"{padded 4 s.year}-{padded 2 s.month}-{padded 2 s.day}"

/-- The time of day as it is shown, without its offset. -/
def timeText (c : Clock) : String :=
  s!"{padded 2 c.hour}:{padded 2 c.minute}:{padded 2 c.second}" ++
    if c.microsecond = 0 then "" else "." ++ padded 6 c.microsecond

/-- The stamp as it is shown. -/
def text (s : Stamp) : String :=
  match s.clock with
  | none => s.dateText
  | some c => s.dateText ++ " " ++ timeText c ++ (c.offset.map offsetText).getD ""

/-- The offset in JSON: a `Z` if it is zero. The sign is that of the full hours, so that an offset
of less than an hour has none of its own. -/
def encodedOffset (n : Int) : String :=
  if n = 0 then "Z"
  else (if n ≤ -60 then "-" else "+") ++ padded 2 (n.natAbs / 60) ++ ":" ++ padded 2 (n.natAbs % 60)

/-- The stamp in JSON. -/
def encoded (s : Stamp) : String :=
  match s.clock with
  | none => s.dateText
  | some c => s.dateText ++ "T" ++ timeText c ++ (c.offset.map encodedOffset).getD ""

/-- The name of the type of a stamp. -/
def typeName (s : Stamp) : String :=
  if s.clock.isSome then "datetime" else "date"

/-- The offset by its literal. -/
def offsetLiteral (n : Int) : String :=
  if n = 0 then "datetime.timezone.utc" else s!"datetime.timezone({differenceText n})"

/-- The stamp inside a container, by its literal. Seconds that are zero are left out. -/
def literal (s : Stamp) : String :=
  let date := [toString s.year, toString s.month, toString s.day]
  match s.clock with
  | none => "datetime.date(" ++ joined ", " date ++ ")"
  | some c =>
    let time := [toString c.hour, toString c.minute] ++
      (if c.second = 0 && c.microsecond = 0 then [] else [toString c.second]) ++
      (if c.microsecond = 0 then [] else [toString c.microsecond])
    let offset := match c.offset with
      | some n => ["tzinfo=" ++ offsetLiteral n]
      | none => []
    "datetime.datetime(" ++ joined ", " (date ++ time ++ offset) ++ ")"

end Stamp

end SequenceApi.Yaml
