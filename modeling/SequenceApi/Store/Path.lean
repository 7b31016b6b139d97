import SequenceApi.Text.Scan

/-!
# Paths

A path names a file by the folders on the way to it, from the working directory or from the root.
Empty names and single points are no steps of the way; two points are a step up, which is taken when
the path is followed.

## Main definitions

* `Path`: a way to a file
* `Path.ofText`, `Path.text`: reading and writing
* `Path.parent`, `Path.name`, `Path.suffix`: the way but for its last step, that step, and the
  ending of its name
-/

namespace SequenceApi

open Text

/-- A way to a file: whether it starts at the root, and the steps. -/
structure Path where
  absolute : Bool
  names : List String
  deriving DecidableEq, Repr

namespace Path

/-- A name that is no step of a way. -/
def isIdle (name : List Char) : Bool :=
  name == [] || name == ['.']

/-- The path that a text writes. -/
def ofText (s : String) : Path :=
  ⟨s.toList.head? == some '/',
    ((pieces '/' s.toList).filter fun name => !isIdle name).map String.ofList⟩

/-- The text of a path; the working directory is a point. -/
def text (p : Path) : String :=
  if p.absolute then "/" ++ joined "/" p.names
  else if p.names.isEmpty then "."
  else joined "/" p.names

/-- The path with more steps. -/
def append (p : Path) (names : List String) : Path :=
  { p with names := p.names ++ names }

/-- The first steps of a path. -/
def take (n : Nat) (p : Path) : Path :=
  { p with names := p.names.take n }

/-- The path without its last step. -/
def parent (p : Path) : Path :=
  { p with names := p.names.dropLast }

/-- The last step, if there is one. -/
def name? (p : Path) : Option String :=
  p.names.getLast?

/-- The part of a name from its last point on, if the point neither starts nor ends the name. -/
def nameSuffix (name : List Char) : List Char :=
  let ending := name.reverse.takeWhile (· != '.')
  if ending.isEmpty || name.length ≤ ending.length + 1 then []
  else '.' :: ending.reverse

/-- The ending of the last step, with its point. -/
def suffix (p : Path) : List Char :=
  nameSuffix (p.name?.getD "").toList

/-- A step of the path has the null character in it, which no name has. -/
def hasNull (p : Path) : Bool :=
  p.names.any fun name => name.toList.contains (Char.ofNat 0)

@[simp] theorem names_append (p : Path) (names : List String) :
    (p.append names).names = p.names ++ names := rfl

theorem parent_append_singleton (p : Path) (name : String) :
    (p.append [name]).parent = p := by
  simp [append, parent]

end Path

end SequenceApi
