import Mathlib.Data.List.Perm.Subperm
import SequenceApi.Proofs.Store.Write
import SequenceApi.Proofs.Table

/-!
# Writes that succeed

A machine that refuses nothing can still fail to write: a step of the path can be no name, or too
long; a file can be where a folder has to be; the target can be a folder; and all names for a
temporary file can be taken. If none of this is so, the write succeeds. A path can lead up and down
again, and then a folder that is made on the way can itself stand at the target.

## Main definitions

* `Store.Admits`: nothing is in the way of a write

## Main results

* `Store.resolve_of_folders`, `Store.resolve_eq_or`: when a path can be followed
* `Store.exists_makeFolders`: folders are made unless a file is in the way
* `Store.exists_freePlace`: there is a free name for a temporary file
* `Store.writeWhole_of_admits`: a write that nothing is in the way of succeeds
-/

namespace SequenceApi

open Text

namespace Path

@[simp] theorem length_names_take {n : Nat} {path : Path} (h : n ≤ path.names.length) :
    (path.take n).names.length = n := by
  rw [take, List.length_take, Nat.min_eq_left h]

theorem take_take {n k : Nat} (path : Path) (h : k ≤ n) : (path.take n).take k = path.take k := by
  rw [take, take, take, List.take_take, Nat.min_eq_left h]

theorem take_length (path : Path) : path.take path.names.length = path := by
  rw [take, List.take_length]

/-- Before its last step a path is like its parent. -/
theorem take_parent {k : Nat} {path : Path} (h : k < path.names.length) :
    path.parent.take k = path.take k := by
  rw [take, take, parent, List.dropLast_eq_take, List.take_take, Nat.min_eq_left (by omega)]

end Path

namespace Store

variable {s s' : Store} {p q : Place} {path : Path}

/-! ## Paths that can be followed -/

/-- Every step of a path is a name, or a step up, that is not too long. -/
def IsShort (path : Path) : Prop :=
  ∀ name ∈ path.names, name.utf8ByteSize ≤ longestName

/-- Steps lead on from folder to folder, up to where nothing is, or a file. -/
theorem walk_cases {names : List String}
    (hshort : ∀ name ∈ names, name.utf8ByteSize ≤ longestName) :
    ∀ {p : Place},
      (s.walk p names = .ok (names.foldl Place.step p) ∧
        ∀ n < names.length, s.get? ((names.take n).foldl Place.step p) = some .folder) ∨
      (s.walk p names = .error .missing ∧
        ∃ n < names.length, s.get? ((names.take n).foldl Place.step p) = none) ∨
      ∃ n < names.length, ∃ content,
        s.get? ((names.take n).foldl Place.step p) = some (.file content) := by
  -- Induction on the steps, from any place.
  induction names with
  | nil => exact .inl ⟨rfl, nofun⟩
  | cons name names ih =>
    intro p
    obtain ⟨hname, hnames⟩ := List.forall_mem_cons.1 hshort
    rw [walk]
    cases hplace : s.get? p with
    | none => exact .inr (.inl ⟨rfl, 0, Nat.succ_pos _, hplace⟩)
    | some e =>
      cases e with
      | file content => exact .inr (.inr ⟨0, Nat.succ_pos _, content, hplace⟩)
      | folder =>
        dsimp only
        rw [if_neg (Nat.not_lt.2 hname)]
        rcases ih hnames (p := p.step name) with
          ⟨hwalk, hfolders⟩ | ⟨hwalk, n, hn, hnone⟩ | ⟨n, hn, hfile⟩
        · refine .inl ⟨hwalk, fun n hn => ?_⟩
          cases n with
          | zero => exact hplace
          | succ n => exact hfolders n (Nat.lt_of_succ_lt_succ hn)
        · exact .inr (.inl ⟨hwalk, n + 1, Nat.succ_lt_succ hn, hnone⟩)
        · exact .inr (.inr ⟨n + 1, Nat.succ_lt_succ hn, hfile⟩)

/-- A path can be followed if there are folders on the way. -/
theorem resolve_of_folders (hshort : IsShort path)
    (h : ∀ n < path.names.length, s.get? (path.take n).place = some .folder) :
    s.resolve path = .ok path.place := by
  rcases s.walk_cases hshort with ⟨hwalk, -⟩ | ⟨-, n, hn, hnone⟩ | ⟨n, hn, content, hfile⟩
  · exact hwalk
  · exact absurd (hnone.symm.trans (h n hn)) nofun
  · exact absurd (hfile.symm.trans (h n hn)) nofun

/-- A path without a file on the way can be followed, or a folder on the way is missing. -/
theorem resolve_eq_or (hshort : IsShort path)
    (h : ∀ n content, s.get? (path.take n).place ≠ some (.file content)) :
    (s.resolve path = .ok path.place ∧
      ∀ n < path.names.length, s.get? (path.take n).place = some .folder) ∨
    s.resolve path = .error .missing := by
  rcases s.walk_cases hshort with hfolders | ⟨hwalk, -⟩ | ⟨n, hn, content, hfile⟩
  · exact .inl hfolders
  · exact .inr hwalk
  · exact absurd hfile (h n content)

/-! ## Folders -/

variable {refuses : WriteOperation → Bool}

/-- Where a path leads to no file, a folder is made, or is there. -/
theorem makeFolder_eq_or (hrefuses : ∀ o, refuses o = false) (hresolve : s.resolve path = .ok p)
    (hfile : ∀ content, s.get? p ≠ some (.file content)) :
    (s.makeFolder refuses path = .ok (s.put p .folder) ∧ s.get? p = none) ∨
      (s.makeFolder refuses path = .error .taken ∧ s.wanted path .taken = .ok () ∧
        s.get? p = some .folder) := by
  cases hplace : s.get? p with
  | none => exact .inl ⟨by simp [makeFolder, hresolve, hplace, hrefuses], rfl⟩
  | some e =>
    cases e with
    | file content => exact absurd hplace (hfile content)
    | folder =>
      refine .inr ⟨?_, ?_, rfl⟩
      · simp [makeFolder, hresolve, hplace]
      · simp [wanted, isFolder, hresolve, hplace]

/-- One folder more where the folders before it are there. -/
theorem exists_makeFolder (hrefuses : ∀ o, refuses o = false) {n : Nat}
    (hresolve : s.resolve (path.take (n + 1)) = .ok (path.take (n + 1)).place)
    (hfile : ∀ content, s.get? (path.take (n + 1)).place ≠ some (.file content))
    (hfolders : ∀ k ≤ n, s.get? (path.take k).place = some .folder) :
    ∃ s', ((s.makeFolder refuses (path.take (n + 1)) = .ok s') ∨
        (s.makeFolder refuses (path.take (n + 1)) = .error .taken ∧
          s.wanted (path.take (n + 1)) .taken = .ok () ∧ s' = s)) ∧
      ∀ k ≤ n + 1, s'.get? (path.take k).place = some .folder := by
  rcases makeFolder_eq_or hrefuses hresolve hfile with ⟨hmake, hnone⟩ | ⟨htaken, hwanted, hfolder⟩
  · refine ⟨_, .inl hmake, fun k hk => ?_⟩
    rw [get?_put (isOuter_of_get?_eq_none hnone)]
    by_cases hplace : (path.take k).place = (path.take (n + 1)).place
    · rw [hplace, Function.update_self]
    · rw [Function.update_of_ne hplace]
      refine hfolders k (Nat.le_of_lt_succ (Nat.lt_of_le_of_ne hk ?_))
      rintro rfl
      exact hplace rfl
  · refine ⟨s, .inr ⟨htaken, hwanted, rfl⟩, fun k hk => ?_⟩
    rcases Nat.le_succ_iff.1 hk with hk | rfl
    · exact hfolders k hk
    · exact hfolder

/-- Folders are made unless a file is in the way. -/
theorem exists_makeFolders (hrefuses : ∀ o, refuses o = false) (hshort : IsShort path)
    (hway : ∀ n content, s.get? (path.take n).place ≠ some (.file content)) (n : Nat)
    (hn : n ≤ path.names.length) :
    ∃ s', s.makeFolders refuses path n = (s', .ok ()) ∧
      ∀ k ≤ n, s'.get? (path.take k).place = some .folder := by
  -- Induction on the number of steps; the folders before are there, or are made first.
  induction n with
  | zero =>
    refine ⟨s, rfl, fun k hk => ?_⟩
    obtain rfl := Nat.le_zero.1 hk
    rw [get?, if_pos]
    cases path with
    | mk absolute names => cases absolute <;> rfl
  | succ n ih =>
    have hstart : IsShort (path.take (n + 1)) := fun name hname =>
      hshort name (List.mem_of_mem_take hname)
    have hbefore : ∀ k content,
        s.get? ((path.take (n + 1)).take k).place ≠ some (.file content) := by
      intro k content
      rw [Path.take, Path.take, List.take_take]
      exact hway _ content
    rw [makeFolders]
    rcases resolve_eq_or hstart hbefore with ⟨hresolve, hfolders⟩ | hmissing
    · rw [Path.length_names_take hn] at hfolders
      obtain ⟨s', hmake, hall⟩ := exists_makeFolder hrefuses hresolve (hway (n + 1)) fun k hk => by
        rw [← path.take_take (Nat.le_succ_of_le hk)]
        exact hfolders k (Nat.lt_succ_of_le hk)
      refine ⟨s', ?_, hall⟩
      rcases hmake with hmake | ⟨htaken, hwanted, rfl⟩
      · rw [hmake]
      · rw [htaken]
        exact Prod.ext rfl hwanted
    · obtain ⟨s₁, hmade, hfolders⟩ := ih (Nat.le_of_succ_le hn)
      have hadds := addsFolders_makeFolders s refuses path n
      rw [hmade] at hadds
      have hresolve : s₁.resolve (path.take (n + 1)) = .ok (path.take (n + 1)).place := by
        apply resolve_of_folders hstart
        intro k hk
        rw [Path.length_names_take hn] at hk
        rw [path.take_take (Nat.le_of_lt hk)]
        exact hfolders k (Nat.le_of_lt_succ hk)
      have hfile : ∀ content, s₁.get? (path.take (n + 1)).place ≠ some (.file content) := by
        intro content hcontent
        rcases hadds (path.take (n + 1)).place with heq | ⟨-, hfolder, -⟩
        · exact hway (n + 1) content (heq ▸ hcontent)
        · rw [hfolder] at hcontent
          cases hcontent
      obtain ⟨s', hmake, hall⟩ := exists_makeFolder hrefuses hresolve hfile hfolders
      refine ⟨s', ?_, hall⟩
      rw [makeFolder, hmissing]
      dsimp only
      rw [hmade]
      dsimp only
      rcases hmake with hmake | ⟨htaken, hwanted, rfl⟩
      · rw [hmake]
      · rw [htaken]
        exact Prod.ext rfl hwanted

/-! ## Names for temporary files -/

theorem length_entries_put (s : Store) (p : Place) (e : Entry) :
    (s.put p e).entries.length ≤ s.entries.length + 1 := by
  have hkeys := congrArg List.length (Table.keys_put p e s.entries)
  rw [apply_ite List.length, List.length_append] at hkeys
  simp only [Table.keys, List.length_map, List.length_singleton] at hkeys
  change (Table.put p e s.entries).length ≤ _
  split at hkeys <;> omega

theorem length_entries_makeFolder (h : s.makeFolder refuses path = .ok s') :
    s'.entries.length ≤ s.entries.length + 1 := by
  rw [makeFolder] at h
  split at h
  · cases h
  split at h
  · cases h
  split at h
  · cases h
  rw [← Except.ok.inj h]
  exact length_entries_put s _ _

/-- Each folder on the way is one entry more at most. -/
theorem length_entries_makeFolders (s : Store) (refuses : WriteOperation → Bool) (path : Path)
    (n : Nat) : (s.makeFolders refuses path n).1.entries.length ≤ s.entries.length + n := by
  induction n with
  | zero => exact Nat.le_refl _
  | succ n ih =>
    rw [makeFolders]
    split
    · next hmake => exact Nat.le_trans (length_entries_makeFolder hmake) (by omega)
    · split
      · next hfail =>
        rw [hfail] at ih
        exact Nat.le_trans ih (by omega)
      · next hmade =>
        rw [hmade] at ih
        split
        · next hmake => exact Nat.le_trans (length_entries_makeFolder hmake) (Nat.succ_le_succ ih)
        · exact Nat.le_trans ih (by omega)
    · exact Nat.le_add_right _ _

theorem temporaryName_inj {name : String} {m n : Nat} (hm : m < Nat.pow 16 8)
    (hn : n < Nat.pow 16 8) (h : temporaryName name m = temporaryName name n) : m = n := by
  apply hexDigits_inj 8 hm hn
  have hchars := congrArg String.toList h
  simpa [temporaryName] using hchars

/-- A temporary file is at no place that has a folder in every store. -/
theorem isOuter_temporary (folder : Place) (name : String) (n : Nat) :
    Place.isOuter (folder ++ [temporaryName name n]) = false := by
  have hlength : 2 < (temporaryName name n).toList.length := by
    simp [temporaryName]
  have hne : ∀ word : String, word.toList.length ≤ 2 → temporaryName name n ≠ word := by
    rintro word hword rfl
    omega
  have hroot : folder ++ [temporaryName name n] ≠ Place.root := by
    intro heq
    have hlast := congrArg List.getLast? heq
    rw [List.getLast?_concat] at hlast
    exact hne "/" (by decide) (Option.some_inj.1 hlast)
  simp [Place.isOuter, hroot, hne ".." (by decide)]

/-- There are more names for a temporary file than entries, so one of them is free. -/
theorem exists_freePlace (folder : Place) (name : String) (h : s.entries.length < Nat.pow 16 8) :
    ∃ place, s.freePlace? folder name = some place := by
  rw [← Option.isSome_iff_exists, ← Option.ne_none_iff_isSome]
  intro hnone
  rw [freePlace?, List.find?_eq_none] at hnone
  -- the places that are tried would all be keys of the store, which has fewer
  have hsubset : (List.range (s.entries.length + 1)).map
      (fun n => folder ++ [temporaryName name n]) ⊆ Table.keys s.entries := by
    intro place hplace
    have htaken := hnone place hplace
    obtain ⟨n, -, rfl⟩ := List.mem_map.1 hplace
    rw [get?, isOuter_temporary, if_neg Bool.false_ne_true] at htaken
    rw [← Table.exists_find_iff, ← Option.ne_none_iff_exists']
    simpa using htaken
  have hnodup : ((List.range (s.entries.length + 1)).map
      fun n => folder ++ [temporaryName name n]).Nodup := by
    refine List.Nodup.map_on (fun m hm n hn heq => ?_) List.nodup_range
    rw [List.mem_range] at hm hn
    exact temporaryName_inj (by omega) (by omega) (List.cons.inj (List.append_cancel_left heq)).1
  have hlength := (List.subperm_of_subset hnodup hsubset).length_le
  rw [List.length_map, List.length_range, Table.keys, List.length_map] at hlength
  omega

/-! ## Writing a file -/

/-- Nothing is in the way of a write. -/
structure Admits (s : Store) (path : Path) : Prop where
  /-- The last step is a name, and not too long for the name of a temporary file. -/
  named : ∃ name, path.name? = some name ∧ name ≠ ".." ∧
    (temporaryName name 0).utf8ByteSize ≤ longestName
  short : IsShort path
  plain : path.hasNull = false
  /-- No file is where a folder has to be. -/
  way : ∀ n content, s.get? (path.parent.take n).place ≠ some (.file content)
  /-- The target is no folder, neither before nor after the folders on the way are made. -/
  target : s.get? path.place ≠ some .folder ∧ ∀ n, path.place ≠ (path.parent.take n).place
  /-- There are more names for temporary files than entries. -/
  room : s.entries.length + path.names.length < Nat.pow 16 8

variable {m : Machine}

/-- A temporary file is made beside a target in a folder that is there. -/
theorem exists_createTemporary (hrefuses : ∀ o, refuses o = false) (hplain : path.hasNull = false)
    (hresolve : s.resolve path.parent = .ok p)
    (hname : (temporaryName (path.name?.getD "") 0).utf8ByteSize ≤ longestName)
    (hroom : s.entries.length < Nat.pow 16 8) :
    ∃ temporary, s.createTemporary refuses path =
      .ok (temporary, s.put temporary (.file .empty)) := by
  obtain ⟨temporary, hfree⟩ := exists_freePlace p (path.name?.getD "") hroom
  refine ⟨temporary, ?_⟩
  simp [createTemporary, hplain, hresolve, Nat.not_lt.2 hname, hfree, hrefuses]

/-- The target is replaced if it can be reached, and is no folder. -/
theorem replaceTarget_of_resolve (hrefuses : ∀ o, m.refuses o = false) {temporary : Place}
    {name : String} (hname : path.name? = some name) (hup : name ≠ "..")
    (hresolve : s.resolve path = .ok p) (hfolder : s.get? p ≠ some .folder) (content : ByteArray) :
    s.replaceTarget m temporary path content =
      .ok ((s.erase temporary).put p (.file content)) := by
  have hplace : s.targetPlace path = .ok p := by
    rw [targetPlace, hname]
    split
    · next heq => cases heq
    · next heq => exact absurd (Option.some_inj.1 heq) hup
    · rw [hresolve]
  simp [replaceTarget, Machine.written_of_refuses hrefuses, hrefuses, hplace, hfolder]

/-- **A write succeeds** if nothing is in its way and the machine refuses nothing. -/
theorem writeWhole_of_admits (h : s.Admits path) (hrefuses : ∀ o, m.refuses o = false)
    (text : String) : (s.writeWhole m path text).2 = .ok () := by
  obtain ⟨name, hname, hup, hlong⟩ := h.named
  have hlast : path.names.length = path.parent.names.length + 1 := by
    rw [Path.parent, List.length_dropLast]
    have hpos := List.length_pos_of_mem (List.mem_of_getLast? hname)
    omega
  have hshort : IsShort path.parent := fun step hstep =>
    h.short step (List.dropLast_subset _ hstep)
  have hplain : path.parent.hasNull = false := by
    rw [Path.hasNull, List.any_eq_false]
    exact fun step hstep => List.any_eq_false.1 h.plain step (List.dropLast_subset _ hstep)
  -- the folders on the way are made, and the parent is the last of them
  obtain ⟨made, hmade, hfolders⟩ := exists_makeFolders hrefuses hshort h.way
    path.parent.names.length (Nat.le_refl _)
  have hadds := addsFolders_makeFolders s m.refuses path.parent path.parent.names.length
  have hroom := length_entries_makeFolders s m.refuses path.parent path.parent.names.length
  rw [hmade] at hadds hroom
  have hparent : made.resolve path.parent = .ok path.parent.place :=
    resolve_of_folders hshort fun n hn => hfolders n (Nat.le_of_lt hn)
  have hfits : (temporaryName (path.name?.getD "") 0).utf8ByteSize ≤ longestName := by rwa [hname]
  have hnumber : made.entries.length < Nat.pow 16 8 :=
    Nat.lt_of_le_of_lt hroom (by have := h.room; omega)
  obtain ⟨temporary, htemporary⟩ := exists_createTemporary hrefuses h.plain hparent hfits hnumber
  obtain ⟨hfree, -, -⟩ := createTemporary_ok htemporary
  -- the temporary file is on no folder's place, so the target can still be reached
  have htarget : (made.put temporary (.file .empty)).resolve path = .ok path.place := by
    apply resolve_of_folders h.short
    intro n hn
    rw [hlast] at hn
    have hfolder := hfolders n (Nat.le_of_lt_succ hn)
    rw [Path.take_parent (by omega)] at hfolder
    rw [get?_put_of_ne _ _, hfolder]
    rintro heq
    rw [heq, hfree] at hfolder
    cases hfolder
  have hfile : (made.put temporary (.file .empty)).get? path.place ≠ some .folder := by
    intro hfolder
    by_cases heq : path.place = temporary
    · rw [heq, get?_put_self (isOuter_of_get?_eq_none hfree)] at hfolder
      cases hfolder
    · rw [get?_put_of_ne heq] at hfolder
      rcases hadds path.place with hsame | ⟨-, -, n, hway⟩
      · exact h.target.1 (hsame ▸ hfolder)
      · exact h.target.2 n hway
  rw [writeWhole, hplain, makeFolderOf, hmade]
  simp only [Bool.false_eq_true, if_false, htemporary,
    replaceTarget_of_resolve hrefuses hname hup htarget hfile]

end Store

end SequenceApi
