import Mathlib.Data.Set.Card
import SequenceApi.Proofs.Command.Session
import SequenceApi.Proofs.Store.Write
import SequenceApi.Proofs.Table

/-!
# Documents in a folder

A request with a folder writes the documents one after another, each to the file that is named after
its service. Nothing else is written into the folder: the settings may get a folder of their own, but
no file is touched before the first document is there. So a folder without files has, in the end, one
file for each name of a file, and in it is the last document of that name.

Names of files leave out what a name of a file should not have, and two services can have one name.
Then the later document takes the place of the earlier one, and the run succeeds all the same. All
documents are kept just if no two services have one name of a file.

## Main definitions

* `Store.HoldsFiles`: the files in a folder, as a table
* `DocumentFormat.entries`: names and bytes of the files of documents
* `GenerateRequest.Asks`: the documents that a request is about
* `Store.KeepsDocuments`: a folder in which no document is lost

## Main results

* `Session.yields_writeDocuments`: what is in the folder after some documents
* `GenerateRequest.exists_holdsFiles`: what is in the folder after a run
* `Store.HoldsFiles.keepsDocuments_iff`: when no document is lost
* `GenerateRequest.keeps_documents_iff`: the same for a run
-/

namespace SequenceApi

/-! ## Files in a folder -/

/-- The files directly in a folder are those of a table. -/
def Store.HoldsFiles (s : Store) (folder : Place) (files : Table String ByteArray) : Prop :=
  ∀ name, s.file? (folder ++ [name]) = Table.find name files

section

variable {s s' : Store} {folder : Place} {files : Table String ByteArray}

theorem Store.HoldsFiles.congr (h : s.HoldsFiles folder files) (hs : s'.file? = s.file?) :
    s'.HoldsFiles folder files := by
  intro name
  rw [hs, h]

/-- A store without anything has no files. -/
theorem Store.holdsFiles_nil (folder : Place) : Store.HoldsFiles {} folder [] := by
  intro name
  rw [file?, get?]
  cases (folder ++ [name]).isOuter <;> rfl

/-- One more file in the folder. -/
theorem Store.HoldsFiles.put (h : s.HoldsFiles folder files) {name : String} {content : ByteArray}
    (hs : s'.file? = Function.update s.file? (folder ++ [name]) (some content)) :
    s'.HoldsFiles folder (Table.put name content files) := by
  intro name'
  rw [hs]
  by_cases hname : name' = name
  · rw [hname, Function.update_self, Table.find_put_self]
  · have hplace : folder ++ [name'] ≠ folder ++ [name] := by simpa using hname
    rw [Function.update_of_ne hplace, Table.find_put_of_ne hname, h]

end

namespace DocumentFormat

/-- What is in the file of a document. -/
def bytes (f : DocumentFormat) (x : Document) : ByteArray :=
  Text.encoded (f.render x.toJson)

/-- The names and bytes of the files of documents, in order. -/
def entries (f : DocumentFormat) (documents : Table String Document) : List (String × ByteArray) :=
  documents.map fun (service, x) => (f.fileName service, f.bytes x)

theorem length_fileName (f : DocumentFormat) (service : String) :
    5 ≤ (f.fileName service).length := by
  rw [fileName, fileNameWith, String.length_append, String.length_append]
  have hpoint : ".".length = 1 := rfl
  have hname : f.name.length = 4 := by cases f <;> rfl
  omega

theorem fileName_ne_of_length_lt (f : DocumentFormat) (service : String) {name : String}
    (h : name.length < 5) : f.fileName service ≠ name := by
  rintro rfl
  exact absurd (f.length_fileName service) (Nat.not_le.2 h)

end DocumentFormat

namespace Session

theorem yields_writeDocuments (around : Surroundings) (folder : Path) (format : DocumentFormat)
    (documents : Table String Document) :
    ∀ {p : Progress} {files : Table String ByteArray}, p.store.HoldsFiles folder.place files →
      (writeDocuments around folder format documents).Yields p fun _ p' =>
        p'.store.HoldsFiles folder.place (Table.putAll files (format.entries documents)) := by
  -- Induction on the documents ahead, from any files in the folder.
  induction documents with
  | nil => exact fun h => yields_pure h
  | cons e documents ih =>
    obtain ⟨service, x⟩ := e
    intro p files h
    have hup : format.fileName service ≠ ".." := format.fileName_ne_of_length_lt service (by decide)
    have hroot : (folder.append [format.fileName service]).name? ≠ some "/" := by
      rw [Path.name?, Path.names_append, List.getLast?_concat]
      simpa using format.fileName_ne_of_length_lt service (by decide)
    unfold writeDocuments
    refine (yields_write around _ _).bind fun _ p₁ hwrite => ih (h.put ?_)
    have hfiles := Store.file?_of_writeWhole hroot hwrite
    rwa [Path.place_append_singleton folder hup] at hfiles

end Session

/-- Finding settings touches no file. -/
theorem Settings.file?_resolve (around : Surroundings) (store : Store) (choices : Choices) :
    (resolve around store choices).1.file? = store.file? := by
  have hfolder := store.file?_makeFolders around.machine.refuses around.settingsFolder
    around.settingsFolder.names.length
  rw [resolve, Store.withSettingsFolder, Store.makeFolderOf]
  split
  · next hfail => rwa [hfail] at hfolder
  · next hmade => rwa [hmade] at hfolder

namespace GenerateRequest

/-- The documents that a request is about, and their format: those of the text that is read, with the
settings that are found. -/
def Asks (r : GenerateRequest) (around : Surroundings) (store : Store) (format : DocumentFormat)
    (documents : Table String Document) : Prop :=
  ∃ settings text d, (Settings.resolve around store r.choices).2 = .ok settings ∧
    settings.format? = some format ∧
    (Source.ofText r.source).readText around (Settings.resolve around store r.choices).1 = .ok text ∧
    Diagram.read text = .ok d ∧ d.documents settings = .ok documents

open Session

theorem yields_session {r : GenerateRequest} {folder : String} (hfolder : r.folder = some folder)
    (hservice : r.service = none) (around : Surroundings) {p : Progress}
    (hempty : p.store.HoldsFiles (Path.ofText folder).place []) :
    (r.session around).Yields p fun _ p' => ∃ format documents,
      r.Asks around p.store format documents ∧
        p'.store.HoldsFiles (Path.ofText folder).place
          (Table.ofEntries (format.entries documents)) := by
  unfold session
  rw [hfolder, hservice, Option.map_some]
  refine yields_store.bind ?_
  rintro _ p₁ ⟨rfl, h₁⟩
  dsimp only
  -- a folder that is a file is refused before anything is done
  refine Yields.ite_bind (Q := fun _ p' => p'.store = p.store) yields_misuse (fun p₁ h₁ => ?_) h₁
  refine (yields_settings around r.choices).bind fun settings p₂ hsettings => ?_
  rw [h₁] at hsettings
  split
  · exact yields_refuse (by simp) _
  next format hformat =>
  refine (yields_readText around r.source).bind fun text p₃ ⟨htext, h₃⟩ => ?_
  -- the strict check ends the run, or it changes nothing
  refine Yields.ite_bind (yields_report _) (fun p₄ h₄ => ?_) rfl
  refine (yields_diagram text).bind fun d p₅ ⟨hd, h₅⟩ => ?_
  refine (yields_sayAll _).bind fun _ p₆ h₆ => ?_
  refine (yields_documents d settings).bind fun documents p₇ ⟨hdocuments, h₇⟩ => ?_
  have hasks : r.Asks around p.store format documents := by
    refine ⟨settings, text, d, ?_, hformat, ?_, hd, hdocuments⟩
    · rw [hsettings]
    · rw [hsettings]
      exact htext
  -- until the documents are there, the store has got folders at most
  have hfiles : p₇.store.HoldsFiles (Path.ofText folder).place [] := by
    have hresolved := Settings.file?_resolve around p.store r.choices
    rw [hsettings] at hresolved
    refine hempty.congr ?_
    rw [h₇, h₆, h₅, h₄, h₃, hresolved]
  split
  · next hnone =>
    obtain rfl := List.isEmpty_iff.1 hnone
    refine (yields_say _).bind fun _ p₈ h₈ => (yields_say _).mono fun _ p₉ h₉ => ?_
    exact ⟨format, [], hasks, by rwa [h₉, h₈]⟩
  · refine (yields_writeDocuments around _ format documents hfiles).mono fun _ p₈ hwritten => ?_
    exact ⟨format, documents, hasks, hwritten⟩

/-- After a run that succeeds, a folder without files has those of the documents. -/
theorem exists_holdsFiles {r : GenerateRequest} {folder : String} (hfolder : r.folder = some folder)
    (hservice : r.service = none) {around : Surroundings} {store : Store}
    (hempty : store.HoldsFiles (Path.ofText folder).place []) {p : Presentation}
    (hended : ((Command.generate r).outcome around store).ending p = .exit .success) :
    ∃ format documents, r.Asks around store format documents ∧
      (((Command.generate r).outcome around store).files p).HoldsFiles (Path.ofText folder).place
        (Table.ofEntries (format.entries documents)) := by
  have hyields := yields_session hfolder hservice around (p := ⟨store, []⟩) hempty
  obtain ⟨p', ⟨format, documents, hasks, hholds⟩, hfiles⟩ := hyields.of_success hended
  exact ⟨format, documents, hasks, by rwa [← hfiles] at hholds⟩

end GenerateRequest

/-! ## Documents that are kept -/

/-- Every document is in the file that is named after its service, and there are as many files as
documents. -/
structure Store.KeepsDocuments (s : Store) (folder : Place) (format : DocumentFormat)
    (documents : Table String Document) : Prop where
  written : ∀ service x, Table.find service documents = some x →
    s.file? (folder ++ [format.fileName service]) = some (format.bytes x)
  count : {name | (s.file? (folder ++ [name])).isSome}.ncard = documents.length

theorem DocumentFormat.mem_entries (format : DocumentFormat) {documents : Table String Document}
    {service : String} {x : Document} (h : (service, x) ∈ documents) :
    (format.fileName service, format.bytes x) ∈ format.entries documents :=
  List.mem_map.2 ⟨(service, x), h, rfl⟩

theorem DocumentFormat.keys_entries (format : DocumentFormat) (documents : Table String Document) :
    Table.keys (format.entries documents) = (Table.keys documents).map format.fileName := by
  rw [Table.keys, entries, List.map_map, Table.keys, List.map_map]
  rfl

/-- Files named after services keep all documents just if no two services have one name of a file. -/
theorem Store.HoldsFiles.keepsDocuments_iff {s : Store} {folder : Place} {format : DocumentFormat}
    {documents : Table String Document}
    (h : s.HoldsFiles folder (Table.ofEntries (format.entries documents))) :
    s.KeepsDocuments folder format documents ↔
      ((Table.keys documents).map format.fileName).Nodup := by
  set names := (Table.keys documents).map format.fileName with hnames
  have hlength : names.length = documents.length := by
    rw [hnames, List.length_map, Table.keys, List.length_map]
  -- there is a file for each name, however many services have it
  have hfiles : {name | (s.file? (folder ++ [name])).isSome} = ↑names.toFinset := by
    ext name
    change (s.file? (folder ++ [name])).isSome = true ↔ _
    rw [h, Option.isSome_iff_exists, Table.exists_find_iff, Table.ofEntries, Table.mem_keys_putAll,
      format.keys_entries, Finset.mem_coe, List.mem_toFinset, hnames]
    exact or_iff_right (by simp)
  have hcount : {name | (s.file? (folder ++ [name])).isSome}.ncard = documents.length ↔
      names.Nodup := by
    rw [hfiles, Set.ncard_coe_finset, ← hlength]
    exact Multiset.toFinset_card_eq_card_iff_nodup
  constructor
  · exact fun hkeeps => hcount.1 hkeeps.count
  · intro hnodup
    have hdistinct : Table.Distinct (format.entries documents) := by
      rwa [Table.Distinct, format.keys_entries]
    refine ⟨fun service x hx => ?_, hcount.2 hnodup⟩
    rw [h]
    exact hdistinct.find_ofEntries (format.mem_entries (Table.mem_of_find_eq_some hx))

namespace GenerateRequest

/-- **A folder gets one file for each name.** A run that succeeds leaves, in a folder without files,
the files of the documents, where of several documents with one name of a file the last one counts.
Each document is in the file of its service, and there are as many files as documents, just if no two
services have one name of a file. -/
theorem keeps_documents_iff {r : GenerateRequest} {folder : String} (hfolder : r.folder = some folder)
    (hservice : r.service = none) {around : Surroundings} {store : Store}
    (hempty : store.HoldsFiles (Path.ofText folder).place []) {p : Presentation}
    (hended : ((Command.generate r).outcome around store).ending p = .exit .success) :
    ∃ format documents, r.Asks around store format documents ∧
      (((Command.generate r).outcome around store).files p).HoldsFiles (Path.ofText folder).place
        (Table.ofEntries (format.entries documents)) ∧
      ((((Command.generate r).outcome around store).files p).KeepsDocuments (Path.ofText folder).place
          format documents ↔
        ((Table.keys documents).map format.fileName).Nodup) := by
  obtain ⟨format, documents, hasks, hholds⟩ := exists_holdsFiles hfolder hservice hempty hended
  exact ⟨format, documents, hasks, hholds, hholds.keepsDocuments_iff⟩

/-- The names of the files that a request asks for, if there are documents. -/
def fileNames? (r : GenerateRequest) (around : Surroundings) (store : Store) :
    Option (List String) :=
  (Settings.resolve around store r.choices).2.toOption.bind fun settings =>
    settings.format?.bind fun format =>
      ((Source.ofText r.source).readText around
        (Settings.resolve around store r.choices).1).toOption.bind fun text =>
          (Diagram.read text).toOption.bind fun d =>
            (d.documents settings).toOption.map fun documents =>
              (Table.keys documents).map format.fileName

theorem Asks.fileNames?_eq {r : GenerateRequest} {around : Surroundings} {store : Store}
    {format : DocumentFormat} {documents : Table String Document}
    (h : r.Asks around store format documents) :
    r.fileNames? around store = some ((Table.keys documents).map format.fileName) := by
  obtain ⟨settings, text, d, hsettings, hformat, htext, hread, hdocuments⟩ := h
  rw [fileNames?, hsettings, Except.toOption, Option.bind_some, hformat, Option.bind_some, htext,
    Except.toOption, Option.bind_some, hread, Except.toOption, Option.bind_some, hdocuments,
    Except.toOption, Option.map_some]

/-- A request for the documents of a text from the standard input. -/
def piped : GenerateRequest :=
  { source := "-", folder := some "out" }

/-- A text with two services of which the names of the files differ. -/
def distinctText : String :=
  "A->>Shop: GET /x\nA->>Bank: GET /y"

theorem keeps_documents_iff_distinct :
    ∃ format documents, piped.Asks { standardInput := distinctText } {} format documents ∧
      (((Command.generate piped).outcome { standardInput := distinctText } {}).files {}).KeepsDocuments
        (Path.ofText "out").place format documents := by
  have hended : ((Command.generate piped).outcome { standardInput := distinctText } {}).ending {} =
      .exit .success := by decide +kernel
  have hnames : piped.fileNames? { standardInput := distinctText } {} =
      some ["Shop.yaml", "Bank.yaml"] := by decide +kernel
  obtain ⟨format, documents, hasks, -, hkeeps⟩ :=
    keeps_documents_iff rfl rfl (Store.holdsFiles_nil _) hended
  rw [hasks.fileNames?_eq, Option.some_inj] at hnames
  exact ⟨format, documents, hasks, hkeeps.2 (by rw [hnames]; decide)⟩

/-- A text with two services of which the names of the files are one. -/
def collidingText : String :=
  "A->>Shop: GET /x\nA->>Shop_: GET /y"

/-- The document of the first service is lost, though the run succeeds in a folder without files. -/
theorem not_keepsDocuments_of_colliding :
    ((Command.generate piped).outcome { standardInput := collidingText } {}).ending {} =
        .exit .success ∧
      Store.HoldsFiles {} (Path.ofText "out").place [] ∧
      ∃ format documents, piped.Asks { standardInput := collidingText } {} format documents ∧
        (Table.keys documents).map format.fileName = ["Shop.yaml", "Shop.yaml"] ∧
        ¬ (((Command.generate piped).outcome { standardInput := collidingText } {}).files
            {}).KeepsDocuments (Path.ofText "out").place format documents := by
  have hended : ((Command.generate piped).outcome { standardInput := collidingText } {}).ending {} =
      .exit .success := by decide +kernel
  have hnames : piped.fileNames? { standardInput := collidingText } {} =
      some ["Shop.yaml", "Shop.yaml"] := by decide +kernel
  have hempty := Store.holdsFiles_nil (Path.ofText "out").place
  obtain ⟨format, documents, hasks, hholds⟩ := exists_holdsFiles rfl rfl hempty hended
  rw [hasks.fileNames?_eq, Option.some_inj] at hnames
  refine ⟨hended, hempty, format, documents, hasks, hnames, fun hkeeps => ?_⟩
  have hnodup := hholds.keepsDocuments_iff.1 hkeeps
  rw [hnames] at hnodup
  exact absurd hnodup (by decide)

end GenerateRequest

end SequenceApi
