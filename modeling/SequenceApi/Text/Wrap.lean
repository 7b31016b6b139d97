import SequenceApi.Text.Blank
import SequenceApi.Text.Cell
import SequenceApi.Text.Scan

/-!
# Fitting texts into lines

A line that is too wide for the console goes on in another line, which starts with a word. A word
that is itself too wide starts a line and is cut wherever the console ends. A tab leads to the next
multiple of eight cells.

## Main definitions

* `untabbed`: a line with spaces in place of tabs
* `runs`: a line cut before every word but the first
* `wrapped`: a line as lines that fit
* `fitted`: a text as lines that fit
-/

namespace SequenceApi.Text

/-! ## Tabs -/

/-- The cells between two stops of tabs. -/
def tabWidth : Nat :=
  8

/-- A line with spaces in place of tabs, after so many cells. -/
def untabbedAfter : Nat → List Char → List Char
  | _, [] => []
  | n, c :: cs =>
    if c == '\t' then
      let gap := tabWidth - n % tabWidth
      List.replicate gap ' ' ++ untabbedAfter (n + gap) cs
    else c :: untabbedAfter (n + cells c) cs

/-- A line with spaces in place of tabs. -/
def untabbed (cs : List Char) : List Char :=
  untabbedAfter 0 cs

/-! ## Words with what follows them -/

/-- Puts a character before runs: a blank before a word ends a run. -/
def runStep (c : Char) : List (List Char) → List (List Char)
  | (d :: ds) :: rest =>
    if isBlank c && !isBlank d then [c] :: (d :: ds) :: rest else (c :: d :: ds) :: rest
  | rest => [c] :: rest

/-- Joins the blanks before the first word to its run. -/
def joinMargin : List (List Char) → List (List Char)
  | first :: second :: rest =>
    if isInked first then first :: second :: rest else (first ++ second) :: rest
  | rest => rest

/-- A line cut before every word but the first. -/
def runs (cs : List Char) : List (List Char) :=
  joinMargin (cs.foldr runStep [])

/-! ## Lines -/

/-- Lines that are complete, the last one first, and the line that is being filled. -/
structure Filling where
  complete : List (List Char) := []
  current : List Char := []
  deriving Repr

/-- Starts a new line with a text, unless the line is still empty. -/
def Filling.breakLine (s : Filling) (cs : List Char) : Filling :=
  if s.current.isEmpty then { s with current := cs }
  else ⟨s.current :: s.complete, cs⟩

/-- Puts a character into the line, or into a new one if it does not fit. -/
def Filling.putChar (width : Nat) (s : Filling) (c : Char) : Filling :=
  if cellCount s.current + cells c ≤ width then { s with current := s.current ++ [c] }
  else ⟨s.current :: s.complete, [c]⟩

/-- Puts a run into the line, or into new ones if its word does not fit. -/
def Filling.putRun (width : Nat) (s : Filling) (run : List Char) : Filling :=
  let need := cellCount (trimRight run)
  if cellCount s.current + need ≤ width then { s with current := s.current ++ run }
  else if need ≤ width then s.breakLine run
  else run.foldl (Filling.putChar width) (s.breakLine [])

/-- All lines, in order. -/
def Filling.lines (s : Filling) : List (List Char) :=
  s.complete.reverse ++ [s.current]

/-- A line without the blanks at its end that are too many. -/
def dropExcess (width : Nat) (cs : List Char) : List Char :=
  cs.take (cs.length - min (cs.length - width) (cs.length - (trimRight cs).length))

/-- The characters that fit into so many cells; half of a character becomes a space. -/
def cropped : Nat → List Char → List Char
  | _, [] => []
  | n, c :: cs =>
    if cells c ≤ n then c :: cropped (n - cells c) cs
    else List.replicate n ' '

/-- A line as lines that fit. -/
def wrapped (width : Nat) (cs : List Char) : List (List Char) :=
  ((runs cs).foldl (Filling.putRun width) {}).lines.map fun line =>
    cropped width (dropExcess width line)

/-- A text as lines that fit. -/
def fitted (width : Nat) (cs : List Char) : List (List Char) :=
  (pieces '\n' cs).flatMap fun line => wrapped width (untabbed line)

end SequenceApi.Text
