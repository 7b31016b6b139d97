import SequenceApi.Proofs.Json.Distinct
import SequenceApi.Proofs.Store.Write
import SequenceApi.Proofs.Table
import SequenceApi.Settings.Resolve

/-!
# Which layer counts

A setting is looked for on the command line, in the environment, in the project's file and in the
user's file, in this order, and the first place where it is given decides. There are settings if
every value that counts is a text, whatever stands in the places behind it and under other keys.

## Main definitions

* `Given`: what each of the four places gives
* `Given.value?`: the value that counts for a setting
* `Given.IsAround`: the places of a run
* `Given.AgreesWith`: two situations that differ only where nobody looks

## Main results

* `Table.find_putAll`: what is written later counts
* `Given.find_merged`: the merged fields of all layers
* `Settings.resolve_by_precedence`: the settings of a run
-/

namespace SequenceApi

theorem Table.find_putAll {κ ν : Type} [DecidableEq κ] {entries : Table κ ν}
    (hd : entries.Distinct) (k : κ) (t : Table κ ν) :
    find k (putAll t entries) = (find k entries).or (find k t) := by
  -- Induction on what is written; a key that comes first does not come again.
  induction entries generalizing t with
  | nil => rfl
  | cons e entries ih =>
    obtain ⟨k', v⟩ := e
    obtain ⟨hk', hd⟩ := List.nodup_cons.1 hd
    have hrest : find k (putAll (put k' v t) entries) =
        (find k entries).or (find k (put k' v t)) := ih hd (put k' v t)
    by_cases h : k = k'
    · subst h
      have hnone : find k entries = none := find_eq_none_iff.2 hk'
      rw [hnone, find_put_self] at hrest
      rw [find, if_pos rfl]
      exact hrest
    · rw [find_put_of_ne h] at hrest
      rw [find, if_neg h]
      exact hrest

/-! ## Places -/

/-- The text that a command line chooses for a setting. -/
def Choices.get? (c : Choices) : Setting → Option String
  | .openapiVersion => c.openapiVersion
  | .apiVersion => c.apiVersion
  | .outputFormat => c.outputFormat
  | _ => none

/-- The variable of the environment that gives a setting. -/
def Setting.variableName? : Setting → Option String
  | .openapiVersion => some "SEQSPEC_OPENAPI_VERSION"
  | .apiVersion => some "SEQSPEC_API_VERSION"
  | .outputFormat => some "SEQSPEC_FORMAT"
  | _ => none

/-- The text that the environment gives for a setting; an empty one counts as none. -/
def Setting.inEnvironment? (x : Setting) (environment : Table String String) : Option String :=
  (x.variableName?.bind fun name => Table.find name environment).filter (· ≠ "")

/-- What stands in the four places; a file may be missing. -/
structure Given where
  user : Option (Table String Json)
  project : Option (Table String Json)
  environment : Table String String
  command : Choices

namespace Given

/-- The text that the command line or else the environment gives for a setting. -/
def text? (g : Given) (x : Setting) : Option String :=
  (g.command.get? x).or (x.inEnvironment? g.environment)

/-- The value that the project's file gives for a setting. -/
def inProject? (g : Given) (x : Setting) : Option Json :=
  g.project.bind (Table.find x.key)

/-- The value that the user's file gives for a setting. -/
def inUser? (g : Given) (x : Setting) : Option Json :=
  g.user.bind (Table.find x.key)

/-- The value that counts for a setting: that of the first place where it is given. -/
def value? (g : Given) (x : Setting) : Option Json :=
  ((g.text? x).map Json.str).or ((g.inProject? x).or (g.inUser? x))

/-- The same choices are made, and the files differ only under other keys, and for settings that are
given before. -/
structure AgreesWith (g g' : Given) : Prop where
  command : g'.command = g.command
  environment : g'.environment = g.environment
  project : ∀ x, g.text? x = none → g'.inProject? x = g.inProject? x
  user : ∀ x, g.text? x = none → g.inProject? x = none → g'.inUser? x = g.inUser? x

theorem AgreesWith.value?_eq {g g' : Given} (h : g.AgreesWith g') (x : Setting) :
    g'.value? x = g.value? x := by
  have htext : g'.text? x = g.text? x := by rw [text?, h.command, h.environment, text?]
  rw [value?, htext, value?]
  cases hx : g.text? x with
  | some t => rfl
  | none =>
    rw [h.project x hx]
    cases hp : g.inProject? x with
    | some v => rfl
    | none => rw [h.user x hx hp]

end Given

/-! ## Fields of a layer -/

theorem Setting.key_injective : Function.Injective Setting.key := by
  intro x y h
  cases x <;> cases y <;> first | rfl | exact absurd h (by decide)

/-- The fields of those settings in a list that have a text. -/
def Setting.fields (text? : Setting → Option String) (xs : List Setting) : Table String Json :=
  xs.filterMap fun x => (text? x).map fun t => (x.key, .str t)

theorem Setting.exists_of_mem_keys_fields {text? : Setting → Option String} {xs : List Setting}
    {k : String} (h : k ∈ Table.keys (fields text? xs)) : ∃ x ∈ xs, x.key = k := by
  obtain ⟨e, he, rfl⟩ := List.mem_map.1 h
  obtain ⟨x, hx, hxe⟩ := List.mem_filterMap.1 he
  obtain ⟨t, _, rfl⟩ := Option.map_eq_some_iff.1 hxe
  exact ⟨x, hx, rfl⟩

theorem Setting.distinct_fields (text? : Setting → Option String) {xs : List Setting}
    (hxs : xs.Nodup) : Table.Distinct (fields text? xs) := by
  induction xs with
  | nil => exact List.nodup_nil
  | cons x xs ih =>
    obtain ⟨hx, hxs⟩ := List.nodup_cons.1 hxs
    cases ht : text? x with
    | none =>
      rw [fields, List.filterMap_cons_none (by rw [ht]; rfl)]
      exact ih hxs
    | some t =>
      rw [fields, List.filterMap_cons_some (by rw [ht]; rfl)]
      refine List.nodup_cons.2 ⟨fun hk => ?_, ih hxs⟩
      obtain ⟨y, hy, hyx⟩ := exists_of_mem_keys_fields hk
      exact hx (key_injective hyx ▸ hy)

theorem Setting.find_fields (text? : Setting → Option String) (xs : List Setting) (x : Setting) :
    Table.find x.key (fields text? xs) = if x ∈ xs then (text? x).map .str else none := by
  induction xs with
  | nil => rfl
  | cons y xs ih =>
    rw [fields, List.filterMap_cons]
    by_cases hxy : x = y
    · subst hxy
      rw [if_pos List.mem_cons_self]
      cases ht : text? x with
      | some t => exact if_pos rfl
      | none =>
        refine ih.trans ?_
        rw [ht, Option.map_none, ite_self]
    · have hkey : x.key ≠ y.key := fun h => hxy (key_injective h)
      have hmem : x ∈ y :: xs ↔ x ∈ xs := by simp [hxy]
      simp only [hmem]
      rw [← ih]
      cases text? y with
      | none => rfl
      | some t => exact if_neg hkey

theorem environmentFields_eq (environment : Table String String) :
    environmentFields environment =
      Setting.fields (·.inEnvironment? environment)
        [.openapiVersion, .apiVersion, .outputFormat] := by
  have hname : ∀ e ∈ environmentSettings, e.2.variableName? = some e.1 := by decide
  rw [show ([.openapiVersion, .apiVersion, .outputFormat] : List Setting) =
    environmentSettings.map Prod.snd from rfl, Setting.fields, List.filterMap_map]
  refine List.filterMap_congr fun e he => ?_
  obtain ⟨name, x⟩ := e
  have hx : x.variableName? = some name := hname _ he
  simp only [Function.comp, Setting.inEnvironment?, hx, Option.bind_some]
  split
  · next h => rw [h]; rfl
  · next h => rw [h]; rfl
  · next v hne h =>
    rw [h, Option.filter_some, if_pos (by simpa using hne)]
    rfl

theorem Choices.fields_eq (c : Choices) :
    c.fields = Setting.fields c.get? [.openapiVersion, .apiVersion, .outputFormat] :=
  rfl

/-! ## The fields of all layers -/

namespace Given

variable {g g' : Given}

/-- The layers of the four places. -/
def layers (g : Given) : Layers :=
  ⟨g.user.getD [], g.project.getD [], environmentFields g.environment, g.command.fields⟩

theorem find_getD (fields : Option (Table String Json)) (k : String) :
    Table.find k (fields.getD []) = fields.bind (Table.find k) := by
  cases fields <;> rfl

theorem text?_eq_none (g : Given) {x : Setting}
    (hx : x ∉ [Setting.openapiVersion, .apiVersion, .outputFormat]) : g.text? x = none := by
  cases x <;> first | rfl | exact absurd hx (by decide)

/-- Under the key of a setting, the merged fields have the value that counts. -/
theorem find_merged (hproject : Table.Distinct (g.project.getD [])) (x : Setting) :
    Table.find x.key g.layers.merged = g.value? x := by
  have hnodup : [Setting.openapiVersion, .apiVersion, .outputFormat].Nodup := by decide
  -- Later layers are put on top, so the look-up asks the command line first.
  rw [Layers.merged, layers, Choices.fields_eq, environmentFields_eq,
    Table.find_putAll (Setting.distinct_fields _ hnodup),
    Table.find_putAll (Setting.distinct_fields _ hnodup), Table.find_putAll hproject,
    Setting.find_fields, Setting.find_fields, find_getD, find_getD, ← Option.or_assoc]
  rw [value?]
  congr 1
  split
  · rw [text?, Option.map_or]
  · next hx => rw [text?_eq_none g hx]; rfl

end Given

/-! ## The settings of the merged fields -/

namespace Settings

theorem isWrong_eq_true_iff {t : Table String Json} {x : Setting} :
    isWrong t x = true ↔ ∃ v, Table.find x.key t = some v ∧ ∀ s, v ≠ .str s := by
  rw [isWrong]
  split
  · next h => simp [h]
  · next s h => simp [h]
  · next v hv h =>
    rw [h]
    exact ⟨fun _ => ⟨v, rfl, hv⟩, fun _ => rfl⟩

theorem ofTable_congr {t t' : Table String Json}
    (h : ∀ x : Setting, Table.find x.key t = Table.find x.key t') : ofTable t = ofTable t' := by
  have hwrong : isWrong t = isWrong t' := funext fun x => by rw [isWrong, isWrong, h x]
  have hread : read t = read t' := funext fun x => by rw [read, read, h x]
  rw [ofTable, ofTable, hwrong, hread]

theorem mem_all (x : Setting) : x ∈ Setting.all := by
  cases x <;> decide

/-- There are settings if no field of a setting is wrong, and else the wrong ones are counted. -/
theorem ofTable_cases (t : Table String Json) :
    (∀ x, isWrong t x = false) ∧ ofTable t = .ok ⟨read t⟩ ∨
      ∃ xs : List Setting, xs ≠ [] ∧ xs.Nodup ∧ (∀ x, x ∈ xs ↔ isWrong t x = true) ∧
        ofTable t = .error xs.length := by
  rw [ofTable]
  have hmem : ∀ x, x ∈ Setting.all.filter (isWrong t) ↔ isWrong t x = true := fun x => by
    rw [List.mem_filter, and_iff_right (mem_all x)]
  split
  · next h =>
    refine .inl ⟨fun x => ?_, rfl⟩
    rw [← Bool.not_eq_true, ← hmem x, List.length_eq_zero_iff.1 h]
    exact List.not_mem_nil
  · next n h =>
    refine .inr ⟨_, ?_, List.Nodup.filter _ (by decide), hmem, by rw [h]⟩
    rintro hnil
    rw [hnil] at h
    cases h

end Settings

/-! ## Runs -/

/-- Bytes with the text of an object. -/
def HasObject (bytes : ByteArray) (fields : Table String Json) : Prop :=
  ∃ text, Text.decoded bytes = .ok text ∧
    Json.read (Text.withUnifiedBreaks text) = .ok (.obj fields)

theorem HasObject.fieldsOfFile_eq {bytes : ByteArray} {fields : Table String Json}
    (h : HasObject bytes fields) (label path : String) :
    fieldsOfFile label path bytes = .ok fields := by
  obtain ⟨text, htext, hread⟩ := h
  simp only [fieldsOfFile, htext, hread]

/-- A file has an object with the given fields, or there is no file. -/
def Store.HoldsObject (s : Store) (p : Path) : Option (Table String Json) → Prop
  | none => s.content? p = none
  | some fields => ∃ bytes, s.content? p = some bytes ∧ HasObject bytes fields

theorem Store.HoldsObject.fieldsAt_eq {s : Store} {p : Path} {fields : Option (Table String Json)}
    (h : s.HoldsObject p fields) (label path : String) :
    fieldsAt s p label path = .ok (fields.getD []) := by
  rw [fieldsAt]
  cases fields with
  | none => rw [show s.content? p = none from h]; rfl
  | some fields =>
    obtain ⟨bytes, hbytes, hobject⟩ := h
    rw [hbytes]
    exact hobject.fieldsOfFile_eq label path

theorem Store.HoldsObject.distinct {s : Store} {p : Path} {fields : Option (Table String Json)}
    (h : s.HoldsObject p fields) : Table.Distinct (fields.getD []) := by
  cases fields with
  | none => exact List.nodup_nil
  | some fields =>
    obtain ⟨_, _, _, _, hread⟩ := h
    exact (Json.distinctKeys_of_readChars hread).distinct

/-- Where the user's file is, there is the folder for settings. -/
theorem Store.withSettingsFolder_of_content? {store : Store} {around : Surroundings}
    {bytes : ByteArray} (h : store.content? around.userFile = some bytes) :
    store.withSettingsFolder around = (store, .ok ()) :=
  makeFolderOf_of_isFolder (isFolder_of_content? h)

/-- The four places are those of a run: once there is the folder for settings, the two files have
the objects, and the environment is that of the run. -/
def Given.IsAround (g : Given) (around : Surroundings) (store : Store) : Prop :=
  g.environment = around.environment ∧
    ∃ made, store.withSettingsFolder around = (made, .ok ()) ∧
      made.HoldsObject around.userFile g.user ∧
      made.HoldsObject Surroundings.projectFile g.project

theorem Given.IsAround.resolve_eq {g : Given} {around : Surroundings} {store : Store}
    (h : g.IsAround around store) :
    (Settings.resolve around store g.command).2 = Settings.ofLayers g.layers := by
  obtain ⟨henv, made, hmade, huser, hproject⟩ := h
  rw [Settings.resolve, hmade]
  simp only [Layers.read, huser.fieldsAt_eq, hproject.fieldsAt_eq, ← henv]
  rfl

theorem Given.IsAround.find_merged {g : Given} {around : Surroundings} {store : Store}
    (h : g.IsAround around store) (x : Setting) :
    Table.find x.key g.layers.merged = g.value? x := by
  obtain ⟨_, _, _, _, hproject⟩ := h
  exact Given.find_merged hproject.distinct x

/-- What the settings of a run are: those that count, if they are texts; or else the number of those
that are no texts. -/
theorem Given.IsAround.resolve_cases {g : Given} {around : Surroundings} {store : Store}
    (h : g.IsAround around store) :
    (∀ x v, g.value? x = some v → ∃ t, v = .str t) ∧
        (Settings.resolve around store g.command).2 = .ok ⟨Settings.read g.layers.merged⟩ ∨
      ∃ xs : List Setting, xs ≠ [] ∧ xs.Nodup ∧
        (∀ x, x ∈ xs ↔ ∃ v, g.value? x = some v ∧ ∀ t, v ≠ .str t) ∧
        (Settings.resolve around store g.command).2 = .error (.settings (.notTexts xs.length)) := by
  have hwrong : ∀ x, Settings.isWrong g.layers.merged x = true ↔
      ∃ v, g.value? x = some v ∧ ∀ t, v ≠ .str t := fun x => by
    rw [Settings.isWrong_eq_true_iff, h.find_merged]
  rw [h.resolve_eq, Settings.ofLayers, Layers.settings]
  rcases Settings.ofTable_cases g.layers.merged with ⟨hright, hok⟩ | ⟨xs, hne, hnodup, hmem, herr⟩
  · refine .inl ⟨fun x v hv => ?_, by rw [hok]⟩
    by_contra hno
    exact Bool.false_ne_true
      ((hright x).symm.trans ((hwrong x).2 ⟨v, hv, fun t ht => hno ⟨t, ht⟩⟩))
  · exact .inr ⟨xs, hne, hnodup, fun x => (hmem x).trans (hwrong x), by rw [herr]⟩

/-- There are settings if and only if every value that counts is a text. Each setting is that text
then, or its default if it is given nowhere; otherwise the settings whose values are no texts are
counted, a null among them. What the files have besides the values that count does nothing. -/
theorem Settings.resolve_by_precedence {g : Given} {around : Surroundings} {store : Store}
    (h : g.IsAround around store) :
    ((∃ s, (resolve around store g.command).2 = .ok s) ↔
      ∀ x v, g.value? x = some v → ∃ t, v = .str t) ∧
    (∀ s, (resolve around store g.command).2 = .ok s → ∀ x,
      g.value? x = some (.str (s.get x)) ∨ g.value? x = none ∧ s.get x = x.default) ∧
    (∀ e, (resolve around store g.command).2 = .error e →
      ∃ xs : List Setting, xs ≠ [] ∧ xs.Nodup ∧
        (∀ x, x ∈ xs ↔ ∃ v, g.value? x = some v ∧ ∀ t, v ≠ .str t) ∧
        e = .settings (.notTexts xs.length)) ∧
    (∀ g' around' store', g.AgreesWith g' → g'.IsAround around' store' →
      (resolve around' store' g'.command).2 = (resolve around store g.command).2) := by
  refine ⟨?_, ?_, ?_, fun g' around' store' hagrees h' => ?same⟩
  case same =>
    -- A run depends on the merged fields alone, and there on what the keys of settings have.
    rw [h.resolve_eq, h'.resolve_eq, ofLayers, ofLayers, Layers.settings, Layers.settings,
      ofTable_congr fun x => ?_]
    rw [h.find_merged, h'.find_merged, hagrees.value?_eq]
  -- Either all values that count are texts, or some are not and are counted.
  all_goals rcases h.resolve_cases with ⟨htexts, hok⟩ | ⟨xs, hne, hnodup, hmem, herr⟩
  · exact ⟨fun _ => htexts, fun _ => ⟨_, hok⟩⟩
  · constructor
    · rintro ⟨s, hs⟩
      rw [herr] at hs
      cases hs
    · intro htexts
      obtain ⟨x, hx⟩ := List.exists_mem_of_ne_nil xs hne
      obtain ⟨v, hv, hno⟩ := (hmem x).1 hx
      obtain ⟨t, ht⟩ := htexts x v hv
      exact absurd ht (hno t)
  · intro s hs x
    obtain rfl := Except.ok.inj (hok.symm.trans hs)
    have hget : read g.layers.merged x = ((g.value? x).bind Json.str?).getD x.default := by
      rw [read, h.find_merged]
    cases hv : g.value? x with
    | none =>
      rw [hv] at hget
      exact .inr ⟨rfl, hget⟩
    | some v =>
      obtain ⟨t, rfl⟩ := htexts x v hv
      rw [hv] at hget
      exact .inl (congrArg (fun t => some (Json.str t)) hget.symm)
  · intro s hs
    rw [herr] at hs
    cases hs
  · intro e he
    rw [hok] at he
    cases he
  · intro e he
    exact ⟨xs, hne, hnodup, hmem, (Except.error.inj (herr.symm.trans he)).symm⟩

/-- The user's file has a null for a setting and the project's file a text; the environment gives
another setting, and a third one as an empty text. -/
theorem Settings.resolve_of_four_places :
    let around : Surroundings :=
      { environment := [("SEQSPEC_FORMAT", ""), ("SEQSPEC_OPENAPI_VERSION", "3.1.0")] }
    let user := "\x7b\"api_version\":null\x7d"
    let project := "\x7b\"api_version\":\"2\"\x7d"
    let store := (Store.addFile {} ["/", "root", ".config", "seqspec", "config.json"]
      (Text.encoded user)).addFile ["seqspec.json"] (Text.encoded project)
    ∃ s, (resolve around store {}).2 = .ok s ∧ s.get .openapiVersion = "3.1.0" ∧
      s.get .apiVersion = "2" ∧ s.get .outputFormat = "yaml" := by
  intro around user project store
  let g : Given :=
    ⟨some [("api_version", .null)], some [("api_version", .str "2")], around.environment, {}⟩
  have hfile : store.content? around.userFile = some (Text.encoded user) := by decide +kernel
  have hprojectFile : store.content? Surroundings.projectFile = some (Text.encoded project) := by
    decide +kernel
  have huserRead : Json.read "\x7b\"api_version\":null\x7d" = .ok (.obj [("api_version", .null)]) :=
    rfl
  have hprojectRead : Json.read "\x7b\"api_version\":\"2\"\x7d" =
      .ok (.obj [("api_version", .str "2")]) := rfl
  have huser : store.HoldsObject around.userFile g.user := by
    refine ⟨_, hfile, user, Text.decoded_encoded _, ?_⟩
    rw [show Text.withUnifiedBreaks user = user by decide +kernel]
    exact huserRead
  have hproject : store.HoldsObject Surroundings.projectFile g.project := by
    refine ⟨_, hprojectFile, project, Text.decoded_encoded _, ?_⟩
    rw [show Text.withUnifiedBreaks project = project by decide +kernel]
    exact hprojectRead
  have haround : g.IsAround around store :=
    ⟨rfl, store, Store.withSettingsFolder_of_content? hfile, huser, hproject⟩
  obtain ⟨hok, hvalues, -⟩ := resolve_by_precedence haround
  obtain ⟨s, hs⟩ := hok.2 fun x v hv => by
    cases x <;> first | exact ⟨_, (Option.some_inj.1 hv).symm⟩ | cases hv
  have htext : ∀ x t, g.value? x = some (.str t) → s.get x = t := fun x t ht => by
    rcases hvalues s hs x with hx | ⟨hx, _⟩
    · exact (Json.str.inj (Option.some_inj.1 (ht.symm.trans hx))).symm
    · exact absurd (ht.symm.trans hx) (Option.some_ne_none _)
  have hdefault : s.get .outputFormat = Setting.default .outputFormat := by
    rcases hvalues s hs .outputFormat with hx | ⟨_, hx⟩
    · cases hx
    · exact hx
  exact ⟨s, hs, htext _ _ rfl, htext _ _ rfl, hdefault⟩

end SequenceApi
