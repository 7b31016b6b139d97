import SequenceApi.Store.Basic

/-!
# Writing files

A file is written as a whole or not at all: the text goes to a temporary file beside the target,
which then takes the target's place. Folders on the way are made first. Every operation can fail by
what is in the store, and the machine can refuse any, a write at any byte.

A write that fails closes its temporary file and removes it. Both can be refused as well. Closing
writes what is still in the buffer, and if the machine refuses that again, the file is not removed:
it stays with as much of the text as it has got.

## Main definitions

* `WriteOperation`: the operations of a write
* `Machine`: what a machine refuses, and how much it buffers
* `WriteFault`: why a write fails, with its wording
* `GivenUp`: a write that has failed after it made its temporary file
* `Store.makeFolders`: a folder and the folders above it
* `Store.writeWhole`: a file with a text
-/

namespace SequenceApi

open Text

/-- An operation on a store, with the places that it concerns. -/
inductive WriteOperation where
  | makeFolder (place : Place)
  | create (temporary : Place)
  /-- Writing the byte that comes after the first `size` bytes. The first attempt is the write
  itself, two more are made when the file is closed with bytes in its buffer. -/
  | fill (temporary : Place) (attempt size : Nat)
  | sync (temporary : Place)
  | close (temporary : Place)
  | rename (temporary target : Place)
  | remove (temporary : Place)
  deriving DecidableEq, Repr

/-- What a machine does about writes. -/
structure Machine where
  /-- The operations that it refuses, for whatever reason: no room, no permission, a path that is
  too long as a whole. -/
  refuses : WriteOperation → Bool := fun _ => false
  /-- The number of bytes that the buffer of a file holds. -/
  buffer : Nat := 4096

/-- Why a write fails. -/
inductive WriteFault where
  /-- A file is where a folder should be. -/
  | fileInWay
  /-- A file is on the way to a folder. -/
  | notFolder
  /-- The target is a folder. -/
  | targetIsFolder
  /-- A folder on the way is missing. -/
  | missing
  /-- A name is longer than names can be. -/
  | longName
  /-- The path ends in no name of its own. -/
  | noName
  /-- A name has the null character in it. -/
  | nullName
  /-- All names for a temporary file are taken. -/
  | noFreeName
  /-- The machine refuses an operation. -/
  | refused (operation : WriteOperation)
  deriving DecidableEq, Repr

/-- The wording of a fault. -/
def WriteFault.message : WriteFault → String
  | fileInWay => "a file is where a folder should be"
  | notFolder => "a file is on the way to a folder"
  | targetIsFolder => "the target is a folder"
  | missing => "a folder on the way is missing"
  | longName => "a name is too long"
  | noName => "the path ends in no name"
  | nullName => "embedded null byte"
  | noFreeName => "there is no free name for a temporary file"
  | refused _ => "the machine refuses"

namespace Store

/-! ## Folders -/

/-- Why a single folder is not made. -/
inductive FolderFault where
  | taken
  | path (fault : LookupFault)
  | refused (operation : WriteOperation)

/-- The store with one more folder. -/
def makeFolder (s : Store) (refuses : WriteOperation → Bool) (p : Path) :
    Except FolderFault Store :=
  match s.resolve p with
  | .error fault => .error (.path fault)
  | .ok place =>
    match s.get? place with
    | some _ => .error .taken
    | none =>
      if refuses (.makeFolder place) then .error (.refused (.makeFolder place))
      else .ok (s.put place .folder)

/-- What a folder that is not made means for the folder that is wanted: nothing if it is there. -/
def wanted (s : Store) (p : Path) (fault : FolderFault) : Except WriteFault Unit :=
  if s.isFolder p then .ok ()
  else
    match fault with
    | .taken => .error .fileInWay
    | .path .missing => .error .missing
    | .path .notFolder => .error .notFolder
    | .path .longName => .error .longName
    | .refused operation => .error (.refused operation)

/-- The store with a folder at the first `n` steps of a path. If a folder above it is missing, that
one is made before. -/
def makeFolders (s : Store) (refuses : WriteOperation → Bool) (p : Path) :
    Nat → Store × Except WriteFault Unit
  | 0 => (s, .ok ())
  | n + 1 =>
    match s.makeFolder refuses (p.take (n + 1)) with
    | .ok s => (s, .ok ())
    | .error (.path .missing) =>
      match s.makeFolders refuses p n with
      | (s, .error e) => (s, .error e)
      | (s, .ok ()) =>
        match s.makeFolder refuses (p.take (n + 1)) with
        | .ok s => (s, .ok ())
        | .error fault => (s, s.wanted (p.take (n + 1)) fault)
    | .error fault => (s, s.wanted (p.take (n + 1)) fault)

/-- The store with the folder of a path and all folders above it. -/
def makeFolderOf (s : Store) (refuses : WriteOperation → Bool) (p : Path) :
    Store × Except WriteFault Unit :=
  s.makeFolders refuses p p.names.length

/-! ## The temporary file -/

/-- A name for a temporary file beside the file `name`. -/
def temporaryName (name : String) (number : Nat) : String :=
  "." ++ name ++ "." ++ String.ofList (hexDigits 8 number) ++ ".tmp"

/-- A place in a folder for a temporary file beside the file `name`, where nothing is. One more name
is tried than there are entries. -/
def freePlace? (s : Store) (folder : Place) (name : String) : Option Place :=
  ((List.range (s.entries.length + 1)).map fun n => folder ++ [temporaryName name n]).find?
    fun p => (s.get? p).isNone

/-- The store with an empty temporary file beside a target, and the place of that file. -/
def createTemporary (s : Store) (refuses : WriteOperation → Bool) (target : Path) :
    Except WriteFault (Place × Store) :=
  let name := target.name?.getD ""
  if target.hasNull then .error .nullName
  else
    match s.resolve target.parent with
    | .error .missing => .error .missing
    | .error .notFolder => .error .notFolder
    | .error .longName => .error .longName
    | .ok folder =>
      if longestName < (temporaryName name 0).utf8ByteSize then .error .longName
      else
        match s.freePlace? folder name with
        | none => .error .noFreeName
        | some place =>
          if refuses (.create place) then .error (.refused (.create place))
          else .ok (place, s.put place (.file .empty))

/-- The place of a target that has a name of its own. -/
def targetPlace (s : Store) (target : Path) : Except WriteFault Place :=
  match target.name? with
  | none | some ".." => .error .noName
  | some _ =>
    match s.resolve target with
    | .ok place => .ok place
    | .error .missing => .error .missing
    | .error .notFolder => .error .notFolder
    | .error .longName => .error .longName

end Store

/-! ## Giving up -/

/-- A write that has failed after it made its temporary file: why, and how many bytes of the text
the temporary file is left with, if it is left. -/
structure GivenUp where
  fault : WriteFault
  left : Option Nat
  deriving DecidableEq, Repr

namespace Machine

variable (m : Machine) (temporary : Place)

/-- The number of bytes that a file of `size` bytes has after an attempt to write `rest` more: the
attempt ends at the first byte that is refused. -/
def written (attempt : Nat) : Nat → Nat → Nat
  | size, 0 => size
  | size, rest + 1 =>
    if m.refuses (.fill temporary attempt size) then size else written attempt (size + 1) rest

/-- A closed file is removed, unless that is refused. -/
def discard (size : Nat) (fault : WriteFault) : GivenUp :=
  ⟨fault, if m.refuses (.remove temporary) then some size else none⟩

/-- An open file with nothing in its buffer is closed and removed. It stays if closing it is
refused. -/
def closeAndDiscard (size : Nat) (fault : WriteFault) : GivenUp :=
  if m.refuses (.close temporary) then ⟨.refused (.close temporary), some size⟩
  else m.discard temporary size fault

/-- A file that was to have `total` bytes and has got only `size` is closed and removed. If the rest
does not fit into the buffer, it is lost. Otherwise closing the file writes it, and tries so twice;
if the first time is refused, the file stays. -/
def drainAndDiscard (size total : Nat) : GivenUp :=
  if m.buffer < total - size then
    m.closeAndDiscard temporary size (.refused (.fill temporary 0 size))
  else
    let once := m.written temporary 1 size (total - size)
    if once = total then
      m.closeAndDiscard temporary total (.refused (.fill temporary 0 size))
    else
      let twice := m.written temporary 2 once (total - once)
      -- the last fault on the way out is the one that shows
      let fault :=
        if m.refuses (.close temporary) then .close temporary
        else if twice = total then .fill temporary 1 once
        else .fill temporary 2 twice
      ⟨.refused fault, some twice⟩

end Machine

/-! ## Writing a file -/

namespace Store

/-- The store in which a temporary file has got its text and the place of the target. -/
def replaceTarget (s : Store) (m : Machine) (temporary : Place) (target : Path)
    (content : ByteArray) : Except GivenUp Store :=
  let size := m.written temporary 0 0 content.size
  if size ≠ content.size then .error (m.drainAndDiscard temporary size content.size)
  else if m.refuses (.sync temporary) then
    .error (m.closeAndDiscard temporary size (.refused (.sync temporary)))
  else if m.refuses (.close temporary) then
    -- a file that could not be closed is not closed again
    .error (m.discard temporary size (.refused (.close temporary)))
  else
    match s.targetPlace target with
    | .error e => .error (m.discard temporary size e)
    | .ok place =>
      if s.get? place = some .folder then .error (m.discard temporary size .targetIsFolder)
      else if m.refuses (.rename temporary place) then
        .error (m.discard temporary size (.refused (.rename temporary place)))
      else .ok ((s.erase temporary).put place (.file content))

/-- The store in which a temporary file has only some first bytes of a content, or is removed. -/
def leave (s : Store) (temporary : Place) (content : ByteArray) : Option Nat → Store
  | some size => s.put temporary (.file (content.extract 0 size))
  | none => s.erase temporary

/-- The store with a text as the content of the file at a path. -/
def writeWhole (s : Store) (m : Machine) (p : Path) (text : String) :
    Store × Except WriteFault Unit :=
  if p.parent.hasNull then (s, .error .nullName)
  else
    match s.makeFolderOf m.refuses p.parent with
    | (s, .error e) => (s, .error e)
    | (s, .ok ()) =>
      match s.createTemporary m.refuses p with
      | .error e => (s, .error e)
      | .ok (temporary, s) =>
        match s.replaceTarget m temporary p (encoded text) with
        | .ok s => (s, .ok ())
        | .error g => (s.leave temporary (encoded text) g.left, .error g.fault)

end Store

end SequenceApi
