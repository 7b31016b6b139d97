import SequenceApi.Proofs.Store.Admission

/-!
# Sequences of writes

Writes follow each other, with paths that may meet, and the machine may refuse any operation of any
of them. Each write changes its target as a whole, or it fails; what it adds besides are folders on
the way to the target. A write that fails should leave every file alone, and it does so unless the
machine refuses to write again what is in the buffer of its temporary file, to close that file or to
remove it. Then the temporary file is left beside the target, where nothing was, with as much of the
text as it has got. A full disk is enough for that.

Hence the files after all writes are the first ones with the targets of the writes that succeeded
and the temporary files that were left, the latest write of a place counting. A machine that refuses
nothing leaves no temporary file, and on it a write succeeds if nothing is in its way.

## Main definitions

* `Write`, `Write.run`: a write on a machine, and what it does
* `WriteStep`, `Store.steps`: the writes of a sequence, each with the stores before and after it
* `WriteStep.IsAtomic`: a write that changes its target as a whole, or no file
* `WriteStep.IsAccounted`: a write that changes its target as a whole, or no file but the temporary
  one that it leaves

## Main results

* `Write.isAccounted_step`: every write is accounted for
* `WriteStep.IsAccounted.isAtomic_iff`: it is atomic if it leaves no temporary file
* `Store.file?_afterWrites`: the files after a sequence of writes
* `Store.writes_atomic_iff`: all of this, for the writes of a sequence
-/

namespace SequenceApi

open Text

/-- No step of a path is the root: it has no slash in it. -/
theorem Path.name?_ofText_ne_root (text : String) : (ofText text).name? ≠ some "/" := by
  intro h
  obtain ⟨piece, hpiece, heq⟩ := List.mem_map.1 (List.mem_of_getLast? h)
  have hslash : '/' ∉ piece := not_mem_of_mem_pieces (List.mem_filter.1 hpiece).1
  rw [← String.toList_ofList (l := piece), heq] at hslash
  exact hslash (by decide)

/-! ## One write -/

/-- A write: the path as a text, the text to write, and the machine. -/
structure Write where
  path : String
  text : String
  machine : Machine := {}

namespace Write

/-- The place of the file that is written. -/
def target (w : Write) : Place :=
  (Path.ofText w.path).place

/-- What the file is to have. -/
def content (w : Write) : ByteArray :=
  encoded w.text

/-- The store after a write, and whether it succeeds. -/
def run (w : Write) (s : Store) : Store × Except WriteFault Unit :=
  s.writeWhole w.machine (Path.ofText w.path) w.text

end Write

/-- A write that has been tried, with the stores before and after it. -/
structure WriteStep where
  before : Store
  write : Write
  after : Store
  result : Except WriteFault Unit

/-- The write on a store, tried. -/
def Write.step (w : Write) (s : Store) : WriteStep :=
  ⟨s, w, (w.run s).1, (w.run s).2⟩

namespace WriteStep

/-- The write has succeeded. -/
def succeeds (x : WriteStep) : Bool :=
  x.result.isOk

/-- The place at which the write makes its temporary file, if it gets that far. -/
def temporary? (x : WriteStep) : Option Place :=
  x.before.temporary? x.write.machine (Path.ofText x.write.path)

/-- The temporary file that the write leaves, with its bytes. -/
def leftover? (x : WriteStep) : Option (Place × ByteArray) :=
  x.before.leftover? x.write.machine (Path.ofText x.write.path) x.write.text

/-- There was nothing at the place before, and now there is a folder on the way to the target. -/
def AddsFolder (x : WriteStep) (p : Place) : Prop :=
  x.before.get? p = none ∧ x.after.get? p = some .folder ∧
    ∃ n, p = ((Path.ofText x.write.path).parent.take n).place

/-- The write changes its target as a whole, or no file. -/
structure IsAtomic (x : WriteStep) : Prop where
  /-- If it succeeds, it changes the file at its target and no other file. -/
  success : x.succeeds = true →
    x.after.file? = Function.update x.before.file? x.write.target (some x.write.content)
  /-- If it fails, every file has what it had, and there is no other file. -/
  failure : x.succeeds = false → x.after.file? = x.before.file?
  /-- What is elsewhere after it was there before, or is a folder on the way to the target. So there
  is no temporary file. -/
  remains : ∀ p, x.after.get? p = x.before.get? p ∨ x.AddsFolder p ∨
    x.succeeds = true ∧ p = x.write.target

/-- The write changes its target as a whole, or no file but the temporary one that it leaves. -/
structure IsAccounted (x : WriteStep) : Prop where
  /-- If it succeeds, it changes the file at its target and no other file, and leaves none. -/
  success : x.succeeds = true →
    x.after.file? = Function.update x.before.file? x.write.target (some x.write.content) ∧
      x.leftover? = none
  /-- If it fails and leaves no temporary file, every file has what it had, and there is no
  other. -/
  failure : x.succeeds = false → x.leftover? = none → x.after.file? = x.before.file?
  /-- If it leaves a temporary file, that is the only change. It is a hidden file in the folder of
  the target, where nothing was, and its bytes are first bytes of the content. -/
  leftover : ∀ p bytes, x.leftover? = some (p, bytes) →
    x.after.file? = Function.update x.before.file? p (some bytes) ∧ x.before.get? p = none ∧
      (∃ n, p = (Path.ofText x.write.path).parent.place ++
        [Store.temporaryName ((Path.ofText x.write.path).name?.getD "") n]) ∧
      ∃ size, bytes = x.write.content.extract 0 size
  /-- What is elsewhere after it was there before, or is a folder on the way to the target. -/
  remains : ∀ p, x.after.get? p = x.before.get? p ∨ x.AddsFolder p ∨
    (x.succeeds = true ∧ p = x.write.target) ∨ ∃ bytes, x.leftover? = some (p, bytes)

/-- A write that is accounted for is atomic just if it leaves no temporary file. -/
theorem IsAccounted.isAtomic_iff {x : WriteStep} (h : x.IsAccounted) :
    x.IsAtomic ↔ x.leftover? = none := by
  constructor
  · intro hatomic
    cases hleft : x.leftover? with
    | none => rfl
    | some left =>
      -- the temporary file would be a file where nothing was
      obtain ⟨p, bytes⟩ := left
      obtain ⟨hfiles, hnone, -⟩ := h.leftover p bytes hleft
      have hfail : x.succeeds = false := by
        rw [← Bool.not_eq_true]
        intro hok
        rw [(h.success hok).2] at hleft
        cases hleft
      have hplace := congrFun (hfiles.symm.trans (hatomic.failure hfail)) p
      rw [Function.update_self, Store.file?, hnone] at hplace
      cases hplace
  · intro hnone
    refine ⟨fun hok => (h.success hok).1, fun hfail => h.failure hfail hnone, fun p => ?_⟩
    rcases h.remains p with hsame | hfolder | htarget | ⟨bytes, hleft⟩
    · exact .inl hsame
    · exact .inr (.inl hfolder)
    · exact .inr (.inr htarget)
    · rw [hnone] at hleft
      cases hleft

end WriteStep

/-- Every write is accounted for, whatever is in the store and whatever the machine refuses. -/
theorem Write.isAccounted_step (w : Write) (s : Store) : (w.step s).IsAccounted := by
  have hroot := Path.name?_ofText_ne_root w.path
  obtain ⟨made, hmade, hget, htemporary⟩ := s.get?_writeWhole w.machine w.text hroot
  have hfiles := s.file?_writeWhole w.machine w.text hroot
  -- what is elsewhere was there before, or is a folder that has been made
  have hremains : ∀ p, (∀ content, s.change? w.machine (Path.ofText w.path) w.text ≠
      some (p, content)) → (w.step s).after.get? p = s.get? p ∨ (w.step s).AddsFolder p := by
    intro p hp
    have hsame : (w.step s).after.get? p = made.get? p :=
      (congrFun hget p).trans (Store.changed_of_ne hp)
    rw [hsame]
    refine (hmade p).imp_right fun ⟨hnone, hfolder, hway⟩ => ⟨hnone, ?_, hway⟩
    rw [hsame, hfolder]
  cases hresult : (s.writeWhole w.machine (Path.ofText w.path) w.text).2 with
  | ok =>
    have hchange := Store.change?_of_ok hresult
    have hsucceeds : (w.step s).succeeds = true := congrArg Except.isOk hresult
    have hnone : (w.step s).leftover? = none := Store.leftover?_of_ok hresult
    rw [hchange] at hfiles
    refine ⟨fun _ => ⟨hfiles, hnone⟩, fun hfail => ?_, fun p bytes hsome => ?_, fun p => ?_⟩
    · exact absurd hsucceeds (by simp [hfail])
    · exact absurd (hnone.symm.trans hsome) nofun
    · by_cases hp : p = w.target
      · exact .inr (.inr (.inl ⟨hsucceeds, hp⟩))
      · refine (hremains p fun content heq => hp ?_).imp_right .inl
        rw [hchange] at heq
        exact (Prod.mk.inj (Option.some_inj.1 heq)).1.symm
  | error e =>
    have hchange := Store.change?_of_error hresult
    have hfail : (w.step s).succeeds = false := congrArg Except.isOk hresult
    rw [hchange] at hfiles
    refine ⟨fun hok => ?_, fun _ hnone => ?_, fun p bytes hsome => ?_, fun p => ?_⟩
    · exact absurd hfail (by simp [hok])
    · have hleft : s.leftover? w.machine (Path.ofText w.path) w.text = none := hnone
      rwa [hleft] at hfiles
    · have hleft : s.leftover? w.machine (Path.ofText w.path) w.text = some (p, bytes) := hsome
      rw [hleft] at hfiles
      obtain ⟨hplace, -, hbytes⟩ := Store.leftover?_eq_some hleft
      obtain ⟨hfree, hname⟩ := htemporary p hplace
      exact ⟨hfiles, hmade.get?_eq_none hfree, hname, hbytes⟩
    · by_cases hp : ∃ bytes, (w.step s).leftover? = some (p, bytes)
      · exact .inr (.inr (.inr hp))
      · refine (hremains p fun content heq => hp ⟨content, ?_⟩).imp_right .inl
        rwa [hchange] at heq

/-- No temporary file is left by a write that succeeds, or that can get rid of it. -/
theorem WriteStep.leftover?_eq_none_iff {x : WriteStep} (hx : x = x.write.step x.before) :
    x.leftover? = none ↔ x.succeeds = true ∨
      ∀ p, x.temporary? = some p → x.write.machine.clears p x.write.content.size = true := by
  have hresult : x.result = (x.write.run x.before).2 := congrArg WriteStep.result hx
  have hsucceeds : x.succeeds = true ↔ (x.write.run x.before).2 = .ok () := by
    rw [succeeds, hresult]
    cases (x.write.run x.before).2 <;> simp [Except.isOk, Except.toBool]
  rw [hsucceeds]
  exact Store.leftover?_eq_none_iff

/-! ## Sequences -/

/-- The files after one more write: its target is written, or its temporary file is left, or nothing
has changed. -/
def WriteStep.apply (files : Place → Option ByteArray) (x : WriteStep) : Place → Option ByteArray :=
  if x.succeeds then Function.update files x.write.target (some x.write.content)
  else
    match x.leftover? with
    | some (p, bytes) => Function.update files p (some bytes)
    | none => files

theorem WriteStep.IsAccounted.apply_eq {x : WriteStep} (h : x.IsAccounted) :
    x.apply x.before.file? = x.after.file? := by
  rw [apply]
  split
  · next hok => exact (h.success hok).1.symm
  · next hfail =>
    split
    · next p bytes hleft => exact (h.leftover p bytes hleft).1.symm
    · next hnone => exact (h.failure (Bool.eq_false_iff.2 hfail) hnone).symm

namespace Store

/-- The writes of a sequence, tried one after the other from a store on. -/
def steps : Store → List Write → List WriteStep
  | _, [] => []
  | s, w :: ws => w.step s :: steps (w.step s).after ws

/-- The store after the writes of a sequence. -/
def afterWrites (s : Store) (ws : List Write) : Store :=
  ws.foldl (fun s w => (w.run s).1) s

variable {s : Store}

/-- What is tried is a write on the store before it. -/
theorem eq_step_of_mem_steps {ws : List Write} {x : WriteStep} (hx : x ∈ s.steps ws) :
    x = x.write.step x.before := by
  induction ws generalizing s with
  | nil => cases hx
  | cons w ws ih =>
    rcases List.mem_cons.1 hx with rfl | hx
    · rfl
    · exact ih hx

theorem isAccounted_of_mem_steps {ws : List Write} {x : WriteStep} (hx : x ∈ s.steps ws) :
    x.IsAccounted := by
  rw [eq_step_of_mem_steps hx]
  exact x.write.isAccounted_step x.before

/-- The files after a sequence are those before it, with what each write changes. -/
theorem file?_afterWrites (s : Store) (ws : List Write) :
    (s.afterWrites ws).file? = (s.steps ws).foldl WriteStep.apply s.file? := by
  induction ws generalizing s with
  | nil => rfl
  | cons w ws ih =>
    have happly : (w.step s).apply s.file? = (w.step s).after.file? :=
      (w.isAccounted_step s).apply_eq
    rw [steps, List.foldl_cons, happly]
    exact ih (w.step s).after

/-- **Writes are atomic but for the temporary files that they leave.** In every sequence of writes,
whatever fails, each write that succeeds changes its target and no other file, and each write that
fails changes no file but a temporary one of its own, beside the target, where nothing was. It is
atomic just if it succeeds, or fails on a machine that lets it get rid of its temporary file. On a
machine that refuses nothing it is atomic, and succeeds if nothing is in its way. The files after
the sequence are those before it with what each write changes. -/
theorem writes_atomic_iff (s : Store) (ws : List Write) :
    (∀ x ∈ s.steps ws, x.IsAccounted ∧
      (x.IsAtomic ↔ x.succeeds = true ∨
        ∀ p, x.temporary? = some p → x.write.machine.clears p x.write.content.size = true) ∧
      ((∀ o, x.write.machine.refuses o = false) →
        x.IsAtomic ∧ (x.before.Admits (Path.ofText x.write.path) → x.succeeds = true))) ∧
      (s.afterWrites ws).file? = (s.steps ws).foldl WriteStep.apply s.file? := by
  refine ⟨fun x hx => ?_, file?_afterWrites s ws⟩
  have haccounted := isAccounted_of_mem_steps hx
  refine ⟨haccounted, ?_, fun hrefuses => ⟨?_, fun hadmits => ?_⟩⟩
  · rw [haccounted.isAtomic_iff, WriteStep.leftover?_eq_none_iff (eq_step_of_mem_steps hx)]
  · rw [haccounted.isAtomic_iff, WriteStep.leftover?_eq_none_iff (eq_step_of_mem_steps hx)]
    exact .inr fun p _ => Machine.clears_of_refuses hrefuses _
  · rw [eq_step_of_mem_steps hx]
    exact congrArg Except.isOk (writeWhole_of_admits hadmits hrefuses x.write.text)

/-- A write on a machine where no file can have more than two bytes. -/
def cramped : Write where
  path := "out/c"
  text := "text"
  machine :=
    { refuses := fun
        | .fill _ _ size => 2 ≤ size
        | _ => false }

/-- The first write succeeds, the second is refused at its last operation, the third has the file of
the first in its way, and the fourth leaves a temporary file with half of its text. -/
def mixedWrites : List Write :=
  [⟨"out/b", "y", {}⟩, ⟨"out/a", "x", { refuses := fun o => o matches .rename .. }⟩,
    ⟨"out/b/c", "z", {}⟩, cramped]

/-- A store without anything admits a file in a folder. -/
theorem admits_nil : Admits {} (Path.ofText "out/b") where
  named := ⟨"b", by decide +kernel, by decide, by decide +kernel⟩
  short := by
    have hall : (Path.ofText "out/b").names.all (·.utf8ByteSize ≤ longestName) = true := by
      decide +kernel
    exact fun name hname => by simpa using List.all_eq_true.1 hall name hname
  plain := by decide +kernel
  way := by
    intro n content hfile
    rw [get?] at hfile
    split at hfile <;> cases hfile
  target := by
    refine ⟨by decide +kernel, fun n heq => ?_⟩
    have hlength := congrArg List.length heq
    have hparent : (Path.ofText "out/b").parent = ⟨false, ["out"]⟩ := by decide +kernel
    have htarget : (Path.ofText "out/b").place.length = 2 := by decide +kernel
    rw [htarget, hparent] at hlength
    cases n with
    | zero => exact absurd hlength (by decide)
    | succ n => exact absurd hlength (by simp [Path.take, Path.place, Place.step])
  room := by decide +kernel

theorem writes_atomic_of_mixed :
    (steps {} mixedWrites).map WriteStep.succeeds = [true, false, false, false] ∧
      (afterWrites {} mixedWrites).files =
        [(["out", "b"], encoded "y"), (["out", ".c.00000000.tmp"], encoded "te")] ∧
      (∀ x ∈ steps {} mixedWrites, x.IsAccounted) ∧
      (∃ x ∈ steps {} mixedWrites, (∀ o, x.write.machine.refuses o = false) ∧
        x.before.Admits (Path.ofText x.write.path) ∧ x.IsAtomic ∧ x.succeeds = true) := by
  have hwrites := writes_atomic_iff {} mixedWrites
  refine ⟨by decide +kernel, by decide +kernel, fun x hx => (hwrites.1 x hx).1, ?_⟩
  have hfirst : Write.step ⟨"out/b", "y", {}⟩ {} ∈ steps {} mixedWrites := List.mem_cons_self
  have hrefuses : ∀ o, (Write.step ⟨"out/b", "y", {}⟩ {}).write.machine.refuses o = false :=
    fun _ => rfl
  obtain ⟨hatomic, hsucceeds⟩ := (hwrites.1 _ hfirst).2.2 hrefuses
  exact ⟨_, hfirst, hrefuses, admits_nil, hatomic, hsucceeds admits_nil⟩

/-- A write for which there is not enough room fails, and leaves a temporary file. -/
theorem not_isAtomic_cramped :
    (cramped.step {}).succeeds = false ∧
      (cramped.step {}).after.files = [(["out", ".c.00000000.tmp"], encoded "te")] ∧
      ¬(cramped.step {}).IsAtomic := by
  have hfails : (cramped.step {}).succeeds = false := by decide +kernel
  refine ⟨hfails, by decide +kernel, fun hatomic => ?_⟩
  have hfile := congrFun (hatomic.failure hfails) ["out", ".c.00000000.tmp"]
  have hleft : ((cramped.step {}).after.file? ["out", ".c.00000000.tmp"]).isSome = true := by
    decide +kernel
  rw [hfile] at hleft
  cases hleft

end Store

end SequenceApi
