import SequenceApi.Proofs.Json.Limits
import SequenceApi.Proofs.Settings.Precedence

/-!
# Settings that cannot be read

A file of settings that is no JSON, or no object, is a fault of the settings, and so is a setting
that is no text. Some files stop the reader before it can say so: bytes that are no text, an integer
with too many digits, and too many open brackets. The user's file is read first; the project's file
counts if the user's file has an object.

## Main definitions

* `StopsReader`: bytes that stop the reader, with its error
* `IsUnreadable`: what such bytes have

## Main results

* `StopsReader.isUnreadable`: why the reader stops
* `fieldsOfFile_eq_ok_iff`, `fieldsOfFile_eq_error_iff`: what a file gives
* `Settings.resolve_eq_error_iff`, `Settings.resolve_failure`: the errors of a run that are no
  faults of the settings
-/

namespace SequenceApi

open Text

/-! ## One file -/

/-- Bytes at which the reader of a file stops with an error that is no fault of the settings. -/
def StopsReader (bytes : ByteArray) : ResolveError → Prop
  | .notText fault => decoded bytes = .error fault
  | .json e => (∀ fault line column place, e ≠ .syntaxError fault line column place) ∧
      ∃ text, decoded bytes = .ok text ∧ Json.read (withUnifiedBreaks text) = .error e
  | .settings _ | .folder _ => False

/-- Bytes that are no text, or the text of which goes beyond a limit: it has more digits in a row
than an integer may have, or more opening brackets than containers may be open. -/
def IsUnreadable (bytes : ByteArray) (e : ResolveError) : Prop :=
  (∃ fault, e = .notText fault ∧ decoded bytes = .error fault) ∨
    ∃ text, decoded bytes = .ok text ∧
      ((∃ n, e = .json (.longInt n) ∧ Json.longestInteger < n ∧
          Json.IsDigitRun n (withUnifiedBreaks text).toList) ∨
        ∃ b, e = .json (.tooDeep b) ∧
          Json.deepest < (withUnifiedBreaks text).toList.countP Json.isOpening)

/-- A short text goes beyond no limit. -/
theorem not_isUnreadable {text : String}
    (h : (withUnifiedBreaks text).toList.length ≤ Json.deepest) (e : ResolveError) :
    ¬ IsUnreadable (encoded text) e := by
  rintro (⟨fault, -, hfault⟩ | ⟨t, ht, hlimit⟩)
  · rw [decoded_encoded] at hfault
    cases hfault
  · obtain rfl := Except.ok.inj ((decoded_encoded text).symm.trans ht)
    rcases hlimit with ⟨n, -, hn⟩ | ⟨b, -, hb⟩
    · exact Json.not_exceeds h (.longInt n) hn
    · exact Json.not_exceeds h (.tooDeep b) hb

theorem StopsReader.isUnreadable {bytes : ByteArray} {e : ResolveError} (h : StopsReader bytes e) :
    IsUnreadable bytes e := by
  cases e with
  | settings fault => exact h.elim
  | folder fault => exact h.elim
  | notText fault => exact .inl ⟨fault, rfl, h⟩
  | json e =>
    obtain ⟨hlimit, text, htext, hread⟩ := h
    refine .inr ⟨text, htext, ?_⟩
    cases e with
    | syntaxError fault line column place => exact absurd rfl (hlimit fault line column place)
    | longInt n => exact .inl ⟨n, rfl, Json.isDigitRun_of_readChars hread⟩
    | tooDeep b => exact .inr ⟨b, rfl, Json.deepest_lt_of_readChars hread⟩

section

variable (label path : String) {bytes : ByteArray}

theorem StopsReader.fieldsOfFile_eq {e : ResolveError} (h : StopsReader bytes e) :
    fieldsOfFile label path bytes = .error e := by
  cases e with
  | settings fault => exact h.elim
  | folder fault => exact h.elim
  | notText fault => rw [fieldsOfFile, show decoded bytes = .error fault from h]
  | json e =>
    obtain ⟨hlimit, text, htext, hread⟩ := h
    cases e with
    | syntaxError fault line column place => exact absurd rfl (hlimit fault line column place)
    | _ => simp only [fieldsOfFile, htext, hread]

/-- A file has an object, or it gives a fault of the settings, or it stops the reader. -/
theorem fieldsOfFile_cases (bytes : ByteArray) :
    (∃ fields, HasObject bytes fields) ∨
      (∃ fault, fieldsOfFile label path bytes = .error (.settings fault)) ∨
      ∃ e, StopsReader bytes e := by
  cases htext : decoded bytes with
  | error fault => exact .inr (.inr ⟨.notText fault, htext⟩)
  | ok text =>
    cases hread : Json.read (withUnifiedBreaks text) with
    | ok v =>
      cases v with
      | obj fields => exact .inl ⟨fields, text, htext, hread⟩
      | _ => exact .inr (.inl ⟨.notObject label path, by simp only [fieldsOfFile, htext, hread]⟩)
    | error e =>
      cases e with
      | syntaxError fault line column place =>
        exact .inr (.inl ⟨.badJson label path (.syntaxError fault line column place),
          by simp only [fieldsOfFile, htext, hread]⟩)
      -- The other errors of the reader are limits.
      | longInt n =>
        exact .inr (.inr ⟨.json (.longInt n), (fun _ _ _ _ h => by cases h), text, htext, hread⟩)
      | tooDeep b =>
        exact .inr (.inr ⟨.json (.tooDeep b), (fun _ _ _ _ h => by cases h), text, htext, hread⟩)

theorem fieldsOfFile_eq_ok_iff {fields : Table String Json} :
    fieldsOfFile label path bytes = .ok fields ↔ HasObject bytes fields := by
  refine ⟨fun h => ?_, fun h => h.fieldsOfFile_eq label path⟩
  rcases fieldsOfFile_cases label path bytes with ⟨fields', hobject⟩ | ⟨fault, hfault⟩ | ⟨e, hstops⟩
  · rw [hobject.fieldsOfFile_eq] at h
    exact Except.ok.inj h ▸ hobject
  · rw [hfault] at h
    cases h
  · rw [hstops.fieldsOfFile_eq] at h
    cases h

theorem fieldsOfFile_eq_error_iff {e : ResolveError} (he : ∀ fault, e ≠ .settings fault) :
    fieldsOfFile label path bytes = .error e ↔ StopsReader bytes e := by
  refine ⟨fun h => ?_, fun h => h.fieldsOfFile_eq label path⟩
  rcases fieldsOfFile_cases label path bytes with ⟨fields, hobject⟩ | ⟨fault, hfault⟩ | ⟨e', hstops⟩
  · rw [hobject.fieldsOfFile_eq] at h
    cases h
  · rw [hfault] at h
    exact absurd (Except.error.inj h).symm (he fault)
  · rw [hstops.fieldsOfFile_eq] at h
    exact Except.error.inj h ▸ hstops

end

/-! ## Both files -/

section

variable {around : Surroundings} {store : Store} {choices : Choices} {user project : ByteArray}

/-- If both files are there, the settings are those of their fields. -/
theorem Settings.resolve_of_files (choices : Choices)
    (huser : store.content? around.userFile = some user)
    (hproject : store.content? Surroundings.projectFile = some project) :
    ∃ userPath projectPath, (resolve around store choices).2 =
      match fieldsOfFile "user config" userPath user with
      | .error e => .error e
      | .ok u =>
        match fieldsOfFile "project config" projectPath project with
        | .error e => .error e
        | .ok p => ofLayers ⟨u, p, environmentFields around.environment, choices.fields⟩ := by
  refine ⟨around.userFile.text,
    around.workingDirectory ++ "/" ++ Surroundings.projectFile.text, ?_⟩
  rw [resolve, Store.withSettingsFolder_of_content? huser]
  simp only [Layers.read, fieldsAt, huser, hproject]
  cases fieldsOfFile "user config" around.userFile.text user with
  | error e => rfl
  | ok u =>
    cases fieldsOfFile "project config"
      (around.workingDirectory ++ "/" ++ Surroundings.projectFile.text) project with
    | error e => rfl
    | ok p => rfl

theorem Settings.ofLayers_ne_error {l : Layers} {e : ResolveError}
    (he : ∀ fault, e ≠ .settings fault) : ofLayers l ≠ .error e := by
  rw [ofLayers]
  split
  · exact fun h => by cases h
  · exact fun h => he _ (Except.error.inj h).symm

theorem Settings.resolve_eq_error_iff (huser : store.content? around.userFile = some user)
    (hproject : store.content? Surroundings.projectFile = some project) {e : ResolveError}
    (he : ∀ fault, e ≠ .settings fault) :
    (resolve around store choices).2 = .error e ↔
      StopsReader user e ∨ (∃ fields, HasObject user fields) ∧ StopsReader project e := by
  obtain ⟨userPath, projectPath, hresolve⟩ := resolve_of_files choices huser hproject
  have huserStops : fieldsOfFile "user config" userPath user = .error e ↔ StopsReader user e :=
    fieldsOfFile_eq_error_iff _ _ he
  have hprojectStops : fieldsOfFile "project config" projectPath project = .error e ↔
      StopsReader project e := fieldsOfFile_eq_error_iff _ _ he
  -- The project's file is read only if the user's file has fields.
  rw [hresolve, ← huserStops, ← hprojectStops]
  simp only [← fieldsOfFile_eq_ok_iff "user config" userPath]
  cases fieldsOfFile "user config" userPath user with
  | error e' => simp
  | ok u =>
    cases fieldsOfFile "project config" projectPath project with
    | error e' => simp
    | ok p => simp [ofLayers_ne_error he]

/-- **Bad files of settings.** With both files there, a run has settings, or a fault of the
settings, or the error at which the reader stops in the user's file, or in the project's file if the
user's file has an object. Then the file is no text, or it has too many digits in a row or too many
opening brackets. -/
theorem Settings.resolve_failure (huser : store.content? around.userFile = some user)
    (hproject : store.content? Surroundings.projectFile = some project) :
    (∀ e, (resolve around store choices).2 = .error e →
      (∃ fault, e = .settings fault) ∨ IsUnreadable user e ∨ IsUnreadable project e) ∧
    (∀ e, (∀ fault, e ≠ .settings fault) →
      ((resolve around store choices).2 = .error e ↔
        StopsReader user e ∨ (∃ fields, HasObject user fields) ∧ StopsReader project e)) := by
  refine ⟨fun e h => ?_, fun e he => resolve_eq_error_iff huser hproject he⟩
  by_cases hfault : ∃ fault, e = .settings fault
  · exact .inl hfault
  · have he : ∀ fault, e ≠ .settings fault := fun fault heq => hfault ⟨fault, heq⟩
    rcases (resolve_eq_error_iff huser hproject he).1 h with hstops | ⟨-, hstops⟩
    · exact .inr (.inl hstops.isUnreadable)
    · exact .inr (.inr hstops.isUnreadable)

/-- A list in the project's file is a fault of the settings. -/
theorem Settings.resolve_failure_of_list :
    let around : Surroundings := { environment := [("XDG_CONFIG_HOME", "xdg")] }
    let store := (Store.addFile {} ["xdg", "seqspec", "config.json"]
      (encoded "\x7b\x7d")).addFile ["seqspec.json"] (encoded "[]")
    ∃ fault, (resolve around store {}).2 = .error (.settings fault) := by
  intro around store
  have hfails : (resolve around store {}).2.toOption.isNone = true := by decide +kernel
  obtain ⟨e, h⟩ : ∃ e, (resolve around store {}).2 = .error e := by
    cases hresult : (resolve around store {}).2 with
    | ok s =>
      rw [hresult] at hfails
      cases hfails
    | error e => exact ⟨e, rfl⟩
  have huser : store.content? around.userFile = some (encoded "\x7b\x7d") := by decide +kernel
  have hproject : store.content? Surroundings.projectFile = some (encoded "[]") := by
    decide +kernel
  rcases (resolve_failure huser hproject).1 e h with ⟨fault, rfl⟩ | hbad | hbad
  · exact ⟨fault, h⟩
  · exact absurd hbad (not_isUnreadable (by decide +kernel) e)
  · exact absurd hbad (not_isUnreadable (by decide +kernel) e)

/-- A byte that starts no character stops the reader of the project's file. -/
theorem Settings.resolve_of_bad_byte :
    let around : Surroundings := { environment := [("XDG_CONFIG_HOME", "xdg")] }
    let store := (Store.addFile {} ["xdg", "seqspec", "config.json"]
      (encoded "\x7b\x7d")).addFile ["seqspec.json"] ⟨#[0xFF]⟩
    ¬ ((∃ s, (resolve around store {}).2 = .ok s) ∨
      ∃ fault, (resolve around store {}).2 = .error (.settings fault)) := by
  intro around store
  have huser : store.content? around.userFile = some (encoded "\x7b\x7d") := by decide +kernel
  have hproject : store.content? Surroundings.projectFile = some ⟨#[0xFF]⟩ := by decide +kernel
  have hobject : HasObject (encoded "\x7b\x7d") [] := by
    refine ⟨"\x7b\x7d", decoded_encoded _, ?_⟩
    rw [show withUnifiedBreaks "\x7b\x7d" = "\x7b\x7d" by decide +kernel]
    rfl
  have hstops : StopsReader ⟨#[0xFF]⟩ (.notText ⟨.badStart, 0xFF, 0, 1⟩) := by
    rw [StopsReader]
    decide +kernel
  have herror : (resolve around store {}).2 = .error (.notText ⟨.badStart, 0xFF, 0, 1⟩) :=
    (resolve_eq_error_iff huser hproject fun fault h => by cases h).2 (.inr ⟨⟨[], hobject⟩, hstops⟩)
  rw [herror]
  rintro (⟨s, hs⟩ | ⟨fault, hfault⟩)
  · cases hs
  · cases hfault

end

end SequenceApi
