import SequenceApi.Proofs.Yaml.Made
import SequenceApi.Source.Basic

/-!
# Documents that cannot be read

A text that is neither JSON nor YAML is a fault of the input, and so is a text without a document, a
blank one, and bytes that are no text. But a reader can stop before it can say so. The reader of
JSON stops at an integer with too many digits and at too many open brackets, and then YAML is not
tried. The reader of YAML stops at values that the text promises and does not have, as at a date
that does not exist.

## Main definitions

* `Content.Stops`: errors at which a reader stops
* `Content.Exceeds`: what a text has where a reader stops

## Main results

* `Content.read_eq_error_iff`: the errors of a text that are no faults of the input
* `Content.Stops.exceeds`: why a reader stops
* `Source.readDocument_failure`: the same for the document of a file
-/

namespace SequenceApi

open Text

namespace Content

/-- An error at which a reader of the text stops, which is no fault of the input. YAML is read after
JSON if nothing is known of the form of the text, and the text is no JSON. -/
def Stops (hint : FormHint) (text : String) : LoadError → Prop
  | .json e => hint ≠ .yaml ∧ Json.read text = .error e ∧
      ∀ fault line column place, e ≠ .syntaxError fault line column place
  | .yaml e => (hint = .yaml ∨ hint = .unknown ∧ ∃ fault line column place,
        Json.read text = .error (.syntaxError fault line column place)) ∧
      Yaml.read text = .error e ∧ e ≠ .malformed
  | .input _ | .longName => False

/-- What a text has where a reader stops: as JSON it goes beyond a limit, or as YAML it has a cause
for the error. -/
def Exceeds (hint : FormHint) (text : String) : LoadError → Prop
  | .json e => hint ≠ .yaml ∧ Json.Exceeds text.toList e
  | .yaml e => hint ≠ .json ∧ e ≠ .malformed ∧ Yaml.Cause text.toList e
  | .input _ | .longName => False

variable {hint : FormHint} {text : String} {e : LoadError}

theorem Stops.exceeds (h : Stops hint text e) : Exceeds hint text e := by
  cases e with
  | input fault => exact h
  | longName => exact h
  | json e => exact ⟨h.1, Json.exceeds_of_readChars h.2.1 h.2.2⟩
  | yaml e =>
    obtain ⟨hhint, hread, he⟩ := h
    refine ⟨?_, he, (Yaml.meets_read text).error hread⟩
    rintro rfl
    rcases hhint with heq | ⟨heq, -⟩
    · cases heq
    · cases heq

theorem not_exceeds_json (h : text.toList.length ≤ Json.deepest) (e : LoadError) :
    ¬ Exceeds .json text e := by
  intro hlimit
  cases e with
  | input fault => exact hlimit
  | longName => exact hlimit
  | json e => exact Json.not_exceeds h e hlimit.2
  | yaml e => exact hlimit.1 rfl

theorem readYaml_eq_error_iff {json : Option Json.ReadError} (he : ∀ fault, e ≠ .input fault) :
    readYaml json text = .error e ↔
      ∃ e', e = .yaml e' ∧ Yaml.read text = .error e' ∧ e' ≠ .malformed := by
  constructor
  · intro h
    unfold readYaml at h
    split at h
    · exact absurd (Except.error.inj h).symm (he _)
    · exact absurd (Except.error.inj h).symm (he _)
    · cases h
    · exact absurd (Except.error.inj h).symm (he _)
    · next e' hne hread => exact ⟨e', (Except.error.inj h).symm, hread, hne⟩
  · rintro ⟨e', rfl, hread, hne⟩
    rw [readYaml, hread]
    cases e' with
    | malformed => exact absurd rfl hne
    | _ => rfl

theorem stops_of_read (h : read hint text = .error e) (he : ∀ fault, e ≠ .input fault) :
    Stops hint text e := by
  cases hint with
  | yaml =>
    obtain ⟨e', rfl, hread, hne⟩ := (readYaml_eq_error_iff he).1 h
    exact ⟨.inl rfl, hread, hne⟩
  | json =>
    simp only [read] at h
    split at h
    · cases h
    · exact absurd (Except.error.inj h).symm (he _)
    · next e' hne hread =>
      obtain rfl := Except.error.inj h
      exact ⟨(fun heq => by cases heq), hread, hne⟩
  | unknown =>
    simp only [read] at h
    split at h
    · cases h
    · next fault line column place hjson =>
      obtain ⟨e', rfl, hread, hne⟩ := (readYaml_eq_error_iff he).1 h
      exact ⟨.inr ⟨rfl, fault, line, column, place, hjson⟩, hread, hne⟩
    · next e' hne hread =>
      obtain rfl := Except.error.inj h
      exact ⟨(fun heq => by cases heq), hread, hne⟩

theorem Stops.read_eq (h : Stops hint text e) : read hint text = .error e := by
  cases e with
  | input fault => exact h.elim
  | longName => exact h.elim
  | json e =>
    obtain ⟨hhint, hread, hne⟩ := h
    cases hint with
    | yaml => exact absurd rfl hhint
    | _ =>
      cases e with
      | syntaxError fault line column place => exact absurd rfl (hne fault line column place)
      | _ => simp only [read, hread]
  | yaml e =>
    obtain ⟨hhint, hread, hne⟩ := h
    have hyaml : ∀ json, readYaml json text = .error (.yaml e) := fun json =>
      (readYaml_eq_error_iff fun fault heq => by cases heq).2 ⟨e, rfl, hread, hne⟩
    rcases hhint with rfl | ⟨rfl, fault, line, column, place, hjson⟩
    · exact hyaml none
    · simp only [read, hjson]
      exact hyaml _

/-- The errors of a text that are no faults of the input. -/
theorem read_eq_error_iff (he : ∀ fault, e ≠ .input fault) :
    read hint text = .error e ↔ Stops hint text e :=
  ⟨fun h => stops_of_read h he, Stops.read_eq⟩

end Content

/-! ## Files -/

theorem Store.hasLongName_of_content? {store : Store} {p : Path} {bytes : ByteArray}
    (h : store.content? p = some bytes) : store.hasLongName p = false := by
  rw [content?] at h
  rw [hasLongName]
  split at h
  · next hplace => rw [hplace]
  · cases h

namespace Source

variable {store : Store} {path : String} {bytes : ByteArray} {e : LoadError}

theorem readFile_eq (h : store.content? (Path.ofText path) = some bytes) :
    readFile store path =
      match decoded bytes with
      | .ok text => .ok (withUnifiedBreaks text, endingHint (Path.ofText path).suffix)
      | .error fault => .error (.input (.notText path fault)) := by
  simp only [readFile, Store.hasLongName_of_content? h, h]
  rfl

/-- The errors of a file that are no faults of the input. Its text is not blank then. -/
theorem readDocument_eq_error_iff (around : Surroundings)
    (h : store.content? (Path.ofText path) = some bytes) (he : ∀ fault, e ≠ .input fault) :
    readDocument around store (.file path) = .error e ↔
      ∃ text, decoded bytes = .ok text ∧ isInked (withUnifiedBreaks text).toList = true ∧
        Content.Stops (endingHint (Path.ofText path).suffix) (withUnifiedBreaks text) e := by
  simp only [readDocument, read, readFile_eq h]
  cases decoded bytes with
  | error fault =>
    refine ⟨fun herror => absurd (Except.error.inj herror).symm (he _), ?_⟩
    rintro ⟨text, htext, -⟩
    cases htext
  | ok text =>
    dsimp only
    split
    · next hinked =>
      rw [Content.read_eq_error_iff he]
      refine ⟨fun hstops => ⟨text, rfl, hinked, hstops⟩, ?_⟩
      rintro ⟨text', htext, -, hstops⟩
      exact Except.ok.inj htext ▸ hstops
    · next hinked =>
      refine ⟨fun herror => absurd (Except.error.inj herror).symm (he _), ?_⟩
      rintro ⟨text', htext, hinked', -⟩
      exact absurd (Except.ok.inj htext ▸ hinked') hinked

/-- A text gives a document or a fault of the input, unless a reader stops: then as JSON it goes
beyond a limit, or as YAML it has a cause for the error. The same holds for the text of a file. -/
theorem readDocument_failure (hint : FormHint) (text : String) (around : Surroundings)
    (store : Store) (path : String) (e : LoadError) :
    (Content.read hint text = .error e →
      (∃ fault, e = .input fault) ∨ Content.Exceeds hint text e) ∧
    ((∀ fault, e ≠ .input fault) →
      (Content.read hint text = .error e ↔ Content.Stops hint text e)) ∧
    ∀ bytes, store.content? (Path.ofText path) = some bytes →
      (readDocument around store (.file path) = .error e →
        (∃ fault, e = .input fault) ∨ ∃ t, decoded bytes = .ok t ∧
          Content.Exceeds (endingHint (Path.ofText path).suffix) (withUnifiedBreaks t) e) ∧
      ((∀ fault, e ≠ .input fault) →
        (readDocument around store (.file path) = .error e ↔
          ∃ t, decoded bytes = .ok t ∧ isInked (withUnifiedBreaks t).toList = true ∧
            Content.Stops (endingHint (Path.ofText path).suffix) (withUnifiedBreaks t) e)) := by
  refine ⟨fun h => ?_, Content.read_eq_error_iff,
    fun bytes hbytes => ⟨fun h => ?_, readDocument_eq_error_iff around hbytes⟩⟩
  · by_cases hfault : ∃ fault, e = .input fault
    · exact .inl hfault
    · exact .inr (Content.stops_of_read h fun fault heq => hfault ⟨fault, heq⟩).exceeds
  · by_cases hfault : ∃ fault, e = .input fault
    · exact .inl hfault
    · obtain ⟨t, ht, -, hstops⟩ :=
        (readDocument_eq_error_iff around hbytes fun fault heq => hfault ⟨fault, heq⟩).1 h
      exact .inr ⟨t, ht, hstops.exceeds⟩

/-- A file with the ending of JSON in which an array is not closed. -/
theorem readDocument_failure_of_array :
    let store := Store.addFile {} ["doc.json"] (encoded "[1,")
    ∃ fault, readDocument {} store (.file "doc.json") = .error (.input fault) := by
  intro store
  have hfails : (readDocument {} store (.file "doc.json")).toOption.isNone = true := by
    decide +kernel
  obtain ⟨e, h⟩ : ∃ e, readDocument {} store (.file "doc.json") = .error e := by
    cases hresult : readDocument {} store (.file "doc.json") with
    | ok n =>
      rw [hresult] at hfails
      cases hfails
    | error e => exact ⟨e, rfl⟩
  have hbytes : store.content? (Path.ofText "doc.json") = some (encoded "[1,") := by
    decide +kernel
  rcases ((readDocument_failure .json "[1," {} store "doc.json" e).2.2 _ hbytes).1 h with
    ⟨fault, rfl⟩ | ⟨text, htext, hlimit⟩
  · exact ⟨fault, h⟩
  · obtain rfl := Except.ok.inj ((decoded_encoded "[1,").symm.trans htext)
    rw [show endingHint (Path.ofText "doc.json").suffix = .json by decide +kernel] at hlimit
    exact absurd hlimit (Content.not_exceeds_json (by decide +kernel) e)

/-- A date that does not exist stops the reader. -/
theorem read_of_missing_month :
    ¬ ((∃ n, Content.read .unknown "a: 2024-13-45" = .ok n) ∨
      ∃ fault, Content.read .unknown "a: 2024-13-45" = .error (.input fault)) := by
  have herror : (Content.read .unknown "a: 2024-13-45").map (fun _ => ()) =
      .error (.yaml (.badStamp .month)) := by
    decide +kernel
  rintro (⟨n, hn⟩ | ⟨fault, hfault⟩)
  · rw [hn] at herror
    cases herror
  · rw [hfault] at herror
    cases herror

end Source

end SequenceApi
