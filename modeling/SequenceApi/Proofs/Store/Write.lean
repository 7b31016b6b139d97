import Mathlib.Logic.Function.Basic
import SequenceApi.Store.Write

/-!
# What a write leaves

Files are followed through a write by the places at which they are. A path that can be followed
leads to one place, whatever the store has there; so folders that are made on the way change
nothing about what a path means. Making folders adds folders where nothing was. A temporary file
takes a place where nothing was. So all that a write changes besides is one file: the file at the
target, which has the whole text if the write succeeds, or else the temporary file, which is gone
unless the machine refuses to write what is in its buffer again, to close it or to remove it.

## Main definitions

* `Path.place`: the place to which a path leads if it can be followed
* `Store.file?`: the bytes of the file at a place
* `Store.AddsFolders`: a store with more folders on the way of a path
* `Machine.clears`: a machine lets a write that fails get rid of its temporary file
* `Machine.taken`: the number of bytes that the temporary file has got in the end
* `Store.leftover?`: the temporary file that a write leaves
* `Store.change?`: the file that a write changes

## Main results

* `Store.eq_place_of_resolve`: a path that can be followed leads to its place
* `Store.addsFolders_makeFolders`: making folders adds folders, and nothing else
* `Store.makeFolderOf_of_isFolder`: a folder that is there is not made again
* `Store.replaceTarget_error`: what is left of the temporary file of a write that fails
* `Store.get?_writeWhole`: a write adds folders, and changes one file at most
* `Store.file?_writeWhole`, `Store.file?_of_writeWhole`: the files after a write
-/

namespace SequenceApi

/-! ## Places of paths -/

/-- The place that is one step away. -/
def Place.step (p : Place) (name : String) : Place :=
  if name = ".." then p.up else p ++ [name]

/-- The place to which a path leads if it can be followed. -/
def Path.place (p : Path) : Place :=
  p.names.foldl Place.step (if p.absolute then Place.root else [])

theorem Path.place_append_singleton (p : Path) {name : String} (h : name ≠ "..") :
    (p.append [name]).place = p.place ++ [name] := by
  rw [place, names_append, List.foldl_append, List.foldl_cons, List.foldl_nil, Place.step, if_neg h]
  rfl

theorem Path.place_eq_parent {p : Path} {name : String} (hname : p.name? = some name)
    (h : name ≠ "..") : p.place = p.parent.place ++ [name] := by
  obtain ⟨names, hnames⟩ := List.getLast?_eq_some_iff.1 hname
  have hp : p.parent.append [name] = p := by
    rw [append, parent, hnames, List.dropLast_concat, ← hnames]
  rw [← place_append_singleton _ h, hp]

namespace Store

variable {s s' : Store} {p q : Place}

theorem eq_of_walk {names : List String} :
    ∀ {p : Place}, s.walk p names = .ok q → q = names.foldl Place.step p := by
  -- Induction on the steps, from any place.
  induction names with
  | nil => exact fun h => (Except.ok.inj h).symm
  | cons name names ih =>
    intro p h
    rw [walk] at h
    split at h
    · cases h
    · cases h
    · split at h
      · cases h
      · exact ih h

theorem eq_place_of_resolve {path : Path} (h : s.resolve path = .ok q) : q = path.place :=
  eq_of_walk h

/-! ## Files by place -/

/-- The bytes of the file at a place. -/
def file? (s : Store) (p : Place) : Option ByteArray :=
  match s.get? p with
  | some (.file content) => some content
  | _ => none

theorem isOuter_of_get?_eq_none (h : s.get? p = none) : p.isOuter = false := by
  rw [get?] at h
  split at h
  · cases h
  · next houter => exact Bool.eq_false_iff.2 houter

theorem file?_congr (h : s'.get? p = s.get? p) : s'.file? p = s.file? p := by
  rw [file?, h, file?]

/-- The files of a store in which one entry has changed to a file. -/
theorem file?_of_update {content : ByteArray}
    (h : s'.get? = Function.update s.get? p (some (.file content))) :
    s'.file? = Function.update s.file? p (some content) := by
  funext q
  by_cases hq : q = p
  · subst hq
    rw [Function.update_self, file?, h, Function.update_self]
  · rw [Function.update_of_ne hq]
    apply file?_congr
    rw [h]
    exact Function.update_of_ne hq _ _

theorem get?_put (h : p.isOuter = false) (e : Entry) :
    (s.put p e).get? = Function.update s.get? p (some e) := by
  funext q
  by_cases hq : q = p
  · subst hq
    rw [Function.update_self, get?_put_self h]
  · rw [Function.update_of_ne hq, get?_put_of_ne hq]

/-! ## Folders -/

/-- The second store has all that the first has, and besides it only folders on the way of a path,
where nothing was. -/
def AddsFolders (path : Path) (s s' : Store) : Prop :=
  ∀ p, s'.get? p = s.get? p ∨
    s.get? p = none ∧ s'.get? p = some .folder ∧ ∃ n, p = (path.take n).place

namespace AddsFolders

variable {path : Path} {s₁ s₂ s₃ : Store}

theorem refl (path : Path) (s : Store) : AddsFolders path s s :=
  fun _ => .inl rfl

theorem trans (h : AddsFolders path s₁ s₂) (h' : AddsFolders path s₂ s₃) :
    AddsFolders path s₁ s₃ := by
  intro p
  rcases h' p with heq | ⟨hnone, hfolder, hway⟩
  · rw [heq]
    exact h p
  · -- nothing was there in the middle, so nothing was there before
    rcases h p with heq | ⟨-, hmiddle, -⟩
    · exact .inr ⟨heq ▸ hnone, hfolder, hway⟩
    · rw [hmiddle] at hnone
      cases hnone

/-- Folders where nothing was are no files. -/
theorem file?_eq (h : AddsFolders path s₁ s₂) : s₂.file? = s₁.file? := by
  funext p
  rcases h p with heq | ⟨hnone, hfolder, -⟩
  · exact file?_congr heq
  · rw [file?, hfolder, file?, hnone]

/-- Where nothing is afterwards, nothing was before. -/
theorem get?_eq_none (h : AddsFolders path s₁ s₂) {p : Place} (hnone : s₂.get? p = none) :
    s₁.get? p = none := by
  rcases h p with hsame | ⟨hfree, -, -⟩
  · rw [← hsame, hnone]
  · exact hfree

end AddsFolders

variable {refuses : WriteOperation → Bool}

theorem addsFolders_makeFolder {path : Path} {n : Nat}
    (h : s.makeFolder refuses (path.take n) = .ok s') : AddsFolders path s s' := by
  rw [makeFolder] at h
  split at h
  · cases h
  · next place hplace =>
    split at h
    · cases h
    · next hfree =>
      split at h
      · cases h
      · rw [← Except.ok.inj h]
        intro p
        by_cases hp : p = place
        · subst hp
          exact .inr ⟨hfree, get?_put_self (isOuter_of_get?_eq_none hfree) _, n,
            eq_place_of_resolve hplace⟩
        · exact .inl (get?_put_of_ne hp _)

/-- Making folders adds folders on the way, whether it succeeds or not. -/
theorem addsFolders_makeFolders (s : Store) (refuses : WriteOperation → Bool) (path : Path)
    (n : Nat) : AddsFolders path s (s.makeFolders refuses path n).1 := by
  -- Induction on the number of steps; the folders above are made before.
  induction n generalizing s with
  | zero => exact .refl path s
  | succ n ih =>
    have hbelow := ih s
    rw [makeFolders]
    split
    · next hmake => exact addsFolders_makeFolder hmake
    · split
      · next hfail => rwa [hfail] at hbelow
      · next hmade =>
        rw [hmade] at hbelow
        split
        · next hmake => exact hbelow.trans (addsFolders_makeFolder hmake)
        · exact hbelow
    · exact .refl path s

theorem file?_makeFolders (s : Store) (refuses : WriteOperation → Bool) (path : Path) (n : Nat) :
    (s.makeFolders refuses path n).1.file? = s.file? :=
  (addsFolders_makeFolders s refuses path n).file?_eq

theorem isFolder_iff {path : Path} :
    s.isFolder path = true ↔ ∃ p, s.resolve path = .ok p ∧ s.get? p = some .folder := by
  rw [isFolder]
  cases s.resolve path with
  | ok p => simp
  | error fault => simp

theorem get?_of_walk_append {names : List String} {name : String} :
    ∀ {p : Place}, s.walk p (names ++ [name]) = .ok q →
      ∃ r, s.walk p names = .ok r ∧ s.get? r = some .folder := by
  -- Induction on the steps before the last one, from any place.
  induction names with
  | nil =>
    intro p h
    rw [List.nil_append, walk] at h
    split at h
    · cases h
    · cases h
    · next hfolder => exact ⟨p, rfl, hfolder⟩
  | cons n names ih =>
    intro p h
    rw [List.cons_append, walk] at h
    rw [walk]
    split at h
    · cases h
    · cases h
    · next hfolder =>
      split at h
      · cases h
      · next hlength =>
        simp only [hlength, if_false]
        exact ih h

/-- Where a file is, there is the folder around it. -/
theorem isFolder_of_content? {path : Path} {name : String} {content : ByteArray}
    (h : s.content? (path.append [name]) = some content) : s.isFolder path = true := by
  rw [content?] at h
  split at h
  · next p hresolve => exact isFolder_iff.2 (get?_of_walk_append hresolve)
  · cases h

/-- A folder that is there is not made again. -/
theorem makeFolderOf_of_isFolder {path : Path} (h : s.isFolder path = true) :
    s.makeFolderOf refuses path = (s, .ok ()) := by
  obtain ⟨p, hresolve, hfolder⟩ := isFolder_iff.1 h
  have htake : path.take path.names.length = path := by rw [Path.take, List.take_length]
  rw [makeFolderOf]
  cases hn : path.names.length with
  | zero => rfl
  | succ n =>
    rw [hn] at htake
    simp only [makeFolders, htake, makeFolder, hresolve, hfolder, wanted, h, if_true]

/-! ## The temporary file -/

theorem freePlace?_eq_some {folder : Place} {name : String}
    (h : s.freePlace? folder name = some p) :
    s.get? p = none ∧ ∃ n, p = folder ++ [temporaryName name n] := by
  obtain ⟨n, -, hn⟩ := List.mem_map.1 (List.mem_of_find?_eq_some h)
  exact ⟨by simpa using List.find?_some h, n, hn.symm⟩

/-- The temporary file takes a place beside the target where nothing was. -/
theorem createTemporary_ok {path : Path} {temporary : Place}
    (h : s.createTemporary refuses path = .ok (temporary, s')) :
    s.get? temporary = none ∧
      (∃ n, temporary = path.parent.place ++ [temporaryName (path.name?.getD "") n]) ∧
      s' = s.put temporary (.file .empty) := by
  rw [createTemporary] at h
  split at h
  · cases h
  split at h
  · cases h
  · cases h
  · cases h
  next folder hfolder =>
  split at h
  · cases h
  split at h
  · cases h
  next place hplace =>
  split at h
  · cases h
  obtain ⟨rfl, rfl⟩ := Prod.mk.inj (Except.ok.inj h)
  obtain ⟨hfree, hname⟩ := freePlace?_eq_some hplace
  rw [eq_place_of_resolve hfolder] at hname
  exact ⟨hfree, hname, rfl⟩

/-- It leaves no trace when it is removed. -/
theorem get?_erase_put (h : s.get? p = none) (e : Entry) : ((s.put p e).erase p).get? = s.get? := by
  funext q
  by_cases hq : q = p
  · subst hq
    rw [get?_erase_self (isOuter_of_get?_eq_none h), h]
  · rw [get?_erase_of_ne hq, get?_put_of_ne hq]

end Store

/-! ## Giving up -/

namespace Machine

variable (m : Machine) (temporary : Place)

@[simp] theorem written_zero (attempt size : Nat) : m.written temporary attempt size 0 = size := rfl

/-- The number of bytes that a temporary file has got when a write of `total` bytes is over. The
bytes in its buffer are tried twice more. -/
def taken (total : Nat) : Nat :=
  let size := m.written temporary 0 0 total
  if m.buffer < total - size then size
  else
    let once := m.written temporary 1 size (total - size)
    m.written temporary 2 once (total - once)

/-- A write of `total` bytes that fails can get rid of its temporary file: what is in the buffer can
be written after all, the file can be closed unless that is what has failed or is done, and it can
be removed. -/
def clears (total : Nat) : Bool :=
  let size := m.written temporary 0 0 total
  (m.buffer < total - size || m.written temporary 1 size (total - size) = total) &&
    (size = total && !m.refuses (.sync temporary) || !m.refuses (.close temporary)) &&
    !m.refuses (.remove temporary)

variable {m temporary}

theorem left_discard (size : Nat) (fault : WriteFault) :
    (m.discard temporary size fault).left =
      if m.refuses (.remove temporary) then some size else none := rfl

theorem left_closeAndDiscard (size : Nat) (fault : WriteFault) :
    (m.closeAndDiscard temporary size fault).left =
      if m.refuses (.close temporary) || m.refuses (.remove temporary) then some size
      else none := by
  rw [closeAndDiscard]
  cases m.refuses (.close temporary) <;> rfl

/-- What is left where filling the file was refused. -/
theorem left_drainAndDiscard {total : Nat} (h : m.written temporary 0 0 total ≠ total) :
    (m.drainAndDiscard temporary (m.written temporary 0 0 total) total).left =
      if m.clears temporary total then none else some (m.taken temporary total) := by
  rw [drainAndDiscard, clears, taken]
  split
  · next hlost =>
    -- the rest does not fit into the buffer: closing has nothing to write
    rw [left_closeAndDiscard, decide_eq_true hlost, decide_eq_false h]
    cases m.refuses (.close temporary) <;> cases m.refuses (.remove temporary) <;> rfl
  · next hkept =>
    rw [decide_eq_false hkept, decide_eq_false h]
    dsimp only
    split
    · next honce =>
      rw [left_closeAndDiscard, honce, Nat.sub_self, written_zero, decide_eq_true rfl]
      cases m.refuses (.close temporary) <;> cases m.refuses (.remove temporary) <;> rfl
    · next honce =>
      rw [decide_eq_false honce]
      rfl

/-- A machine that refuses nothing takes all bytes. -/
theorem written_of_refuses (h : ∀ o, m.refuses o = false) (attempt size rest : Nat) :
    m.written temporary attempt size rest = size + rest := by
  induction rest generalizing size with
  | zero => rfl
  | succ rest ih =>
    rw [written, if_neg (by simp [h]), ih]
    omega

/-- It lets every temporary file be removed. -/
theorem clears_of_refuses (h : ∀ o, m.refuses o = false) (total : Nat) :
    m.clears temporary total = true := by
  simp [clears, written_of_refuses h, h]

end Machine

/-! ## Writing a file -/

namespace Store

variable {s s' : Store} {p : Place} {m : Machine}

theorem targetPlace_ok {path : Path} (h : s.targetPlace path = .ok p) :
    p = path.place ∧ ∃ name, path.name? = some name ∧ name ≠ ".." := by
  rw [targetPlace] at h
  split at h
  · cases h
  · cases h
  · next name hup hname =>
    split at h
    · next hresolve =>
      obtain rfl := Except.ok.inj h
      exact ⟨eq_place_of_resolve hresolve, name, hname, hup⟩
    · cases h
    · cases h
    · cases h

/-- The target gets the content in the place of the temporary file. -/
theorem replaceTarget_ok {path : Path} {temporary : Place} {content : ByteArray}
    (h : s.replaceTarget m temporary path content = .ok s') :
    s' = (s.erase temporary).put path.place (.file content) ∧
      ∃ name, path.name? = some name ∧ name ≠ ".." := by
  rw [replaceTarget] at h
  split at h
  · cases h
  split at h
  · cases h
  split at h
  · cases h
  split at h
  · cases h
  next hplace =>
  obtain ⟨rfl, hname⟩ := targetPlace_ok hplace
  split at h
  · cases h
  split at h
  · cases h
  exact ⟨(Except.ok.inj h).symm, hname⟩

/-- A write that fails leaves of its temporary file what the machine has taken, unless the machine
lets the file be removed. -/
theorem replaceTarget_error {path : Path} {temporary : Place} {content : ByteArray} {g : GivenUp}
    (h : s.replaceTarget m temporary path content = .error g) :
    g.left = if m.clears temporary content.size then none
      else some (m.taken temporary content.size) := by
  rw [replaceTarget] at h
  split at h
  · next hpartial =>
    obtain rfl := Except.error.inj h
    exact Machine.left_drainAndDiscard hpartial
  next hwhole =>
  -- the file has the whole content, and its buffer is empty
  have hwritten : m.written temporary 0 0 content.size = content.size := by simpa using hwhole
  have htaken : m.taken temporary content.size = content.size := by
    simp [Machine.taken, hwritten]
  rw [htaken, Machine.clears, hwritten]
  simp only [Nat.sub_self, Machine.written_zero, decide_true, Bool.or_true, Bool.true_and]
  rw [hwritten] at h
  split at h
  · next hsync =>
    obtain rfl := Except.error.inj h
    rw [Machine.left_closeAndDiscard, hsync]
    cases m.refuses (.close temporary) <;> cases m.refuses (.remove temporary) <;> rfl
  next hsync =>
  -- from here on every fault only has to remove the file
  suffices ∃ fault, g = m.discard temporary content.size fault by
    obtain ⟨fault, rfl⟩ := this
    rw [Machine.left_discard, Bool.eq_false_iff.2 hsync]
    cases m.refuses (.remove temporary) <;> rfl
  split at h
  · exact ⟨_, (Except.error.inj h).symm⟩
  split at h
  · exact ⟨_, (Except.error.inj h).symm⟩
  split at h
  · exact ⟨_, (Except.error.inj h).symm⟩
  split at h
  · exact ⟨_, (Except.error.inj h).symm⟩
  · cases h

/-- The place of a file with a proper name is inside the working directory or outside of it, but not
above it. -/
theorem isOuter_place {path : Path} {name : String} (hname : path.name? = some name)
    (hup : name ≠ "..") (hroot : name ≠ "/") : path.place.isOuter = false := by
  rw [Path.place_eq_parent hname hup, Place.isOuter]
  have hplace : path.parent.place ++ [name] ≠ Place.root := by
    intro heq
    have hlast := congrArg List.getLast? heq
    rw [List.getLast?_concat] at hlast
    exact hroot (Option.some_inj.1 hlast)
  simp [hup, hplace]

/-- The place at which a write makes its temporary file, if it gets that far. -/
def temporary? (s : Store) (m : Machine) (path : Path) : Option Place :=
  if path.parent.hasNull then none
  else
    match s.makeFolderOf m.refuses path.parent with
    | (_, .error _) => none
    | (made, .ok ()) =>
      match made.createTemporary m.refuses path with
      | .error _ => none
      | .ok (temporary, _) => some temporary

/-- The temporary file that a write leaves, with its bytes. -/
def leftover? (s : Store) (m : Machine) (path : Path) (text : String) :
    Option (Place × ByteArray) :=
  match (s.writeWhole m path text).2, s.temporary? m path with
  | .error _, some temporary =>
    if m.clears temporary (Text.encoded text).size then none
    else
      some (temporary,
        (Text.encoded text).extract 0 (m.taken temporary (Text.encoded text).size))
  | _, _ => none

/-- The file that a write changes, with its bytes: its target, or the temporary file that it
leaves. -/
def change? (s : Store) (m : Machine) (path : Path) (text : String) :
    Option (Place × ByteArray) :=
  match (s.writeWhole m path text).2 with
  | .ok () => some (path.place, Text.encoded text)
  | .error _ => s.leftover? m path text

/-- Entries in which one file has changed, or none. -/
def changed (entries : Place → Option Entry) : Option (Place × ByteArray) → Place → Option Entry
  | some (p, content) => Function.update entries p (some (.file content))
  | none => entries

section

variable {path : Path} {text : String}

theorem leftover?_of_ok (h : (s.writeWhole m path text).2 = .ok ()) :
    s.leftover? m path text = none := by
  rw [leftover?, h]

theorem change?_of_ok (h : (s.writeWhole m path text).2 = .ok ()) :
    s.change? m path text = some (path.place, Text.encoded text) := by
  rw [change?, h]

theorem change?_of_error {e : WriteFault} (h : (s.writeWhole m path text).2 = .error e) :
    s.change? m path text = s.leftover? m path text := by
  rw [change?, h]

/-- A temporary file is left by a write that fails, on a machine that does not let it be removed,
and it has first bytes of the text. -/
theorem leftover?_eq_some {content : ByteArray}
    (h : s.leftover? m path text = some (p, content)) :
    s.temporary? m path = some p ∧ m.clears p (Text.encoded text).size = false ∧
      ∃ size, content = (Text.encoded text).extract 0 size := by
  rw [leftover?] at h
  split at h
  · next htemporary =>
    split at h
    · cases h
    · next hclears =>
      obtain ⟨rfl, rfl⟩ := Prod.mk.inj (Option.some_inj.1 h)
      exact ⟨htemporary, Bool.eq_false_iff.2 hclears, _, rfl⟩
  · cases h

/-- Nothing is left by a write that succeeds, or that can get rid of its temporary file. -/
theorem leftover?_eq_none_iff :
    s.leftover? m path text = none ↔ (s.writeWhole m path text).2 = .ok () ∨
      ∀ p, s.temporary? m path = some p → m.clears p (Text.encoded text).size = true := by
  rw [leftover?]
  cases (s.writeWhole m path text).2 with
  | ok => exact iff_of_true rfl (.inl rfl)
  | error e =>
    rw [or_iff_right (by simp)]
    cases s.temporary? m path with
    | none => exact iff_of_true rfl nofun
    | some p => simp

/-- Elsewhere nothing has changed. -/
theorem changed_of_ne {entries : Place → Option Entry} {change : Option (Place × ByteArray)}
    (h : ∀ content, change ≠ some (p, content)) : changed entries change p = entries p := by
  cases change with
  | none => rfl
  | some c =>
    apply Function.update_of_ne
    rintro rfl
    exact h c.2 rfl

end

/-- What becomes of the temporary file of a write that fails. -/
theorem get?_leave {temporary : Place} (hfree : s.get? temporary = none) (e : Entry)
    (content : ByteArray) (left : Option Nat) :
    ((s.put temporary e).leave temporary content left).get? =
      changed s.get? (left.map fun size => (temporary, content.extract 0 size)) := by
  have houter := isOuter_of_get?_eq_none hfree
  cases left with
  | none => exact get?_erase_put hfree e
  | some size =>
    rw [leave, get?_put houter, get?_put houter, Function.update_idem]
    rfl

/-- A write adds folders on the way to the target, and changes one file at most. A temporary file
that it leaves is beside the target, where nothing was. -/
theorem get?_writeWhole (s : Store) (m : Machine) {path : Path} (text : String)
    (hroot : path.name? ≠ some "/") :
    ∃ made, AddsFolders path.parent s made ∧
      (s.writeWhole m path text).1.get? = changed made.get? (s.change? m path text) ∧
      ∀ temporary, s.temporary? m path = some temporary → made.get? temporary = none ∧
        ∃ n, temporary = path.parent.place ++ [temporaryName (path.name?.getD "") n] := by
  have hfolders := addsFolders_makeFolders s m.refuses path.parent path.parent.names.length
  rw [change?, leftover?, writeWhole, temporary?, makeFolderOf]
  split
  · exact ⟨s, .refl _ s, rfl, nofun⟩
  generalize s.makeFolders m.refuses path.parent path.parent.names.length = made at hfolders
  obtain ⟨s₁, result⟩ := made
  refine ⟨s₁, hfolders, ?_⟩
  cases result with
  | error e => exact ⟨rfl, nofun⟩
  | ok =>
    dsimp only
    cases htemporary : s₁.createTemporary m.refuses path with
    | error e => exact ⟨rfl, nofun⟩
    | ok created =>
      -- from here on there is a temporary file
      obtain ⟨temporary, s₂⟩ := created
      obtain ⟨hfree, hname, rfl⟩ := createTemporary_ok htemporary
      have hleave := get?_leave hfree (.file .empty) (Text.encoded text)
      dsimp only
      refine ⟨?_, fun t ht => by rw [← Option.some_inj.1 ht]; exact ⟨hfree, hname⟩⟩
      cases htarget :
          (s₁.put temporary (.file .empty)).replaceTarget m temporary path (Text.encoded text) with
      | error g =>
        dsimp only
        rw [hleave, replaceTarget_error htarget]
        split <;> rfl
      | ok s₃ =>
        -- the target is a name in a folder, so it is no place that has a folder in every store
        obtain ⟨rfl, name, hname, hup⟩ := replaceTarget_ok htarget
        have houter := isOuter_place hname hup fun heq => hroot (heq ▸ hname)
        dsimp only
        rw [get?_put houter, get?_erase_put hfree]
        rfl

/-- The files after a write: one file has changed, or none. -/
theorem file?_writeWhole (s : Store) (m : Machine) {path : Path} (text : String)
    (hroot : path.name? ≠ some "/") :
    (s.writeWhole m path text).1.file? =
      match s.change? m path text with
      | some (p, content) => Function.update s.file? p (some content)
      | none => s.file? := by
  obtain ⟨made, hmade, hget, -⟩ := get?_writeWhole s m text hroot
  rw [← hmade.file?_eq]
  cases hchange : s.change? m path text with
  | none =>
    rw [hchange] at hget
    funext p
    exact file?_congr (congrFun hget p)
  | some change =>
    rw [hchange] at hget
    exact file?_of_update hget

/-- **A write that succeeds** changes the file at its target, and no other file. -/
theorem file?_of_writeWhole {path : Path} {text : String} (hroot : path.name? ≠ some "/")
    (h : s.writeWhole m path text = (s', .ok ())) :
    s'.file? = Function.update s.file? path.place (some (Text.encoded text)) := by
  have hfiles := file?_writeWhole s m text hroot
  rwa [change?, h] at hfiles

end Store

end SequenceApi
