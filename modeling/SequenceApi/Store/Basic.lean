import SequenceApi.Store.Path
import SequenceApi.Table
import SequenceApi.Text.Utf8

/-!
# Stores

A store holds the files and folders at and below the working directory. Each has a place: the names
from the working directory to it. Places outside are written with two points or from the root; the
folders there are taken to exist.

## Main definitions

* `Store`: what is at which place
* `Store.resolve`: the place to which a path leads
* `Store.content?`, `Store.isFolder`: the bytes of a file, and whether a place is a folder
* `Store.files`: all files with their places

## Main results

* `Store.get?_put_self`, `Store.get?_put_of_ne`: what a change of one place changes
-/

namespace SequenceApi

/-- What a store has at a place. -/
inductive Entry where
  | folder
  | file (content : ByteArray)

instance : DecidableEq Entry
  | .folder, .folder => isTrue rfl
  | .folder, .file _ | .file _, .folder => isFalse nofun
  | .file a, .file b =>
    match ByteArray.instDecidableEq a b with
    | isTrue h => isTrue (congrArg Entry.file h)
    | isFalse h => isFalse fun e => h (Entry.file.inj e)

/-- A place, by the names that lead from the working directory to it. -/
abbrev Place := List String

namespace Place

/-- The root. -/
def root : Place :=
  ["/"]

/-- A folder that is there in every store: the working directory, a folder above it, or the root. -/
def isOuter (p : Place) : Bool :=
  p.all (· == "..") || p == root

/-- The path that leads straight to a place. -/
def path : Place → Path
  | "/" :: names => ⟨true, names⟩
  | names => ⟨false, names⟩

/-- The folder around a place. -/
def up (p : Place) : Place :=
  match p.getLast? with
  | none | some ".." => p ++ [".."]
  | some "/" => p
  | some _ => p.dropLast

end Place

/-- Files and folders by place. -/
structure Store where
  entries : Table Place Entry := []

/-- Why a path leads to no place. -/
inductive LookupFault where
  /-- A folder on the way is missing. -/
  | missing
  /-- A file is on the way. -/
  | notFolder
  /-- A name is longer than names can be. -/
  | longName
  deriving DecidableEq, Repr

namespace Store

/-- The greatest number of bytes of a name. -/
def longestName : Nat :=
  255

/-- What is at a place. -/
def get? (s : Store) (p : Place) : Option Entry :=
  if p.isOuter then some .folder else Table.find p s.entries

/-- The store with something at a place. -/
def put (s : Store) (p : Place) (e : Entry) : Store :=
  ⟨Table.put p e s.entries⟩

/-- The store with nothing at a place. -/
def erase (s : Store) (p : Place) : Store :=
  ⟨Table.erase p s.entries⟩

/-- The place to which steps lead from a place. Each step needs a folder to start from. -/
def walk (s : Store) : Place → List String → Except LookupFault Place
  | p, [] => .ok p
  | p, name :: names =>
    match s.get? p with
    | none => .error .missing
    | some (.file _) => .error .notFolder
    | some .folder =>
      if longestName < name.utf8ByteSize then .error .longName
      else s.walk (if name = ".." then p.up else p ++ [name]) names

/-- The place to which a path leads; nothing need be there. -/
def resolve (s : Store) (p : Path) : Except LookupFault Place :=
  s.walk (if p.absolute then Place.root else []) p.names

/-- A path leads to a folder. -/
def isFolder (s : Store) (p : Path) : Bool :=
  match s.resolve p with
  | .ok place => s.get? place == some .folder
  | .error _ => false

/-- A path leads to a file. -/
def isFile (s : Store) (p : Path) : Bool :=
  match s.resolve p with
  | .ok place =>
    match s.get? place with
    | some (.file _) => true
    | _ => false
  | .error _ => false

/-- A path has a name that is too long, where it is followed so far. -/
def hasLongName (s : Store) (p : Path) : Bool :=
  match s.resolve p with
  | .error .longName => true
  | _ => false

/-- The bytes of the file to which a path leads. -/
def content? (s : Store) (p : Path) : Option ByteArray :=
  match s.resolve p with
  | .ok place =>
    match s.get? place with
    | some (.file content) => some content
    | _ => none
  | .error _ => none

/-- All files with their places. -/
def files (s : Store) : Table Place ByteArray :=
  s.entries.filterMap fun (p, e) =>
    match e with
    | .file content => some (p, content)
    | .folder => none

/-- What a store has otherwise than an older one: each place with what is there now. -/
def changesSince (s old : Store) : Table Place Entry :=
  s.entries.filter fun (p, e) => old.get? p != some e

/-- The store with a file and the folders above it. -/
def addFile (s : Store) (p : Place) (content : ByteArray) : Store :=
  let folders : List Place := (List.range p.length).map fun n => p.take n
  (folders.foldl (fun s f => if f.isOuter then s else s.put f .folder) s).put p (.file content)

/-! ## Changes of one place -/

theorem get?_put_self {s : Store} {p : Place} (h : p.isOuter = false) (e : Entry) :
    (s.put p e).get? p = some e := by
  simp [get?, put, h, Table.find_put_self]

theorem get?_put_of_ne {s : Store} {p q : Place} (h : q ≠ p) (e : Entry) :
    (s.put p e).get? q = s.get? q := by
  simp [get?, put, Table.find_put_of_ne h]

theorem get?_erase_self {s : Store} {p : Place} (h : p.isOuter = false) :
    (s.erase p).get? p = none := by
  simp [get?, erase, h, Table.find_erase_self]

theorem get?_erase_of_ne {s : Store} {p q : Place} (h : q ≠ p) :
    (s.erase p).get? q = s.get? q := by
  simp [get?, erase, Table.find_erase_of_ne h]

end Store

end SequenceApi
