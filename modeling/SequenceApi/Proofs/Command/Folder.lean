import SequenceApi.Proofs.Command.Generate
import SequenceApi.Proofs.Document.FileName

/-!
# What a run touches

A run with a folder for documents changes no file but those directly in the folder that are named
after the services of the documents, however it ends: it may be refused, break off at a write, or
break off at a message that cannot be printed, which leaves the files as they were when the message
was said. So every store along the way is followed, not just the last one. A write that is refused
can leave its temporary file, which is hidden, in the folder too, and new there.

## Main definitions

* `Store.Spares`: a store with other files at certain places at most
* `Session.Touches`: the places of the files that a session changes, wherever it ends

## Main results

* `Session.Touches.bind`: one session after another
* `GenerateRequest.touches_session`: what a request for documents touches
* `GenerateRequest.writes_inside_folder`: the files that a run writes are visible files of the folder
-/

namespace SequenceApi

/-! ## Stores along the way -/

/-- The second store has the files of the first, but for places of which `P` holds, with what was
there before. -/
def Store.Spares (P : Place → Option ByteArray → Prop) (s s' : Store) : Prop :=
  ∀ place, s'.file? place ≠ s.file? place → P place (s.file? place)

namespace Store.Spares

variable {P : Place → Option ByteArray → Prop} {s s' s'' : Store}

theorem of_file?_eq (h : s'.file? = s.file?) : Spares P s s' :=
  fun place hne => absurd (congrFun h place) hne

theorem refl (s : Store) : Spares P s s :=
  of_file?_eq rfl

theorem trans (h : Spares P s s') (h' : Spares P s' s'') : Spares P s s'' := by
  intro place hne
  by_cases hmiddle : s'.file? place = s.file? place
  · rw [← hmiddle] at hne ⊢
    exact h' place hne
  · exact h place hmiddle

theorem of_update {place : Place} {content : ByteArray} (hplace : P place (s.file? place))
    (h : s'.file? = Function.update s.file? place (some content)) : Spares P s s' := by
  intro q hne
  by_cases hq : q = place
  · rwa [hq]
  · rw [h, Function.update_of_ne hq] at hne
    exact absurd rfl hne

end Store.Spares

/-- A write spares all files but its target, and where the machine refuses something a place for a
temporary file that is free. -/
theorem Store.spares_writeWhole {P : Place → Option ByteArray → Prop} (s : Store) {m : Machine}
    {path : Path} (text : String) (hroot : path.name? ≠ some "/")
    (hplace : ∀ old, P path.place old)
    (hleft : (∃ o, m.refuses o = true) → ∀ n,
      P (path.parent.place ++ [temporaryName (path.name?.getD "") n]) none) :
    s.Spares P (s.writeWhole m path text).1 := by
  obtain ⟨made, hmade, -, htemporary⟩ := s.get?_writeWhole m text hroot
  have hfiles := s.file?_writeWhole m text hroot
  cases hresult : (s.writeWhole m path text).2 with
  | ok =>
    rw [change?_of_ok hresult] at hfiles
    exact .of_update (hplace _) hfiles
  | error e =>
    rw [change?_of_error hresult] at hfiles
    cases hleftover : s.leftover? m path text with
    | none =>
      rw [hleftover] at hfiles
      exact .of_file?_eq hfiles
    | some left =>
      rw [hleftover] at hfiles
      obtain ⟨htemp, hkept, -⟩ := leftover?_eq_some hleftover
      obtain ⟨hfree, n, hname⟩ := htemporary _ htemp
      refine .of_update ?_ hfiles
      have hnone : s.file? left.1 = none := by rw [file?, hmade.get?_eq_none hfree]
      rw [hnone, hname]
      refine hleft ?_ n
      by_contra hall
      rw [Machine.clears_of_refuses fun o => by simpa using not_exists.1 hall o] at hkept
      cases hkept

/-- A run that goes on has spared files so far, at the end and wherever something was said. -/
structure Progress.Spares (P : Place → Option ByteArray → Prop) (p p' : Progress) : Prop where
  store : p.store.Spares P p'.store
  said : ∃ new, p'.said = p.said ++ new ∧ ∀ x ∈ new, p.store.Spares P x.store

namespace Progress.Spares

variable {P : Place → Option ByteArray → Prop} {p p' p'' : Progress}

/-- Nothing more is said. -/
theorem of_said_eq (h : p.store.Spares P p'.store) (hsaid : p'.said = p.said) : Spares P p p' :=
  ⟨h, [], by rw [hsaid, List.append_nil], List.forall_mem_nil _⟩

theorem trans (h : Spares P p p') (h' : Spares P p' p'') : Spares P p p'' := by
  obtain ⟨new, hnew, hsaid⟩ := h.said
  obtain ⟨more, hmore, hsaid'⟩ := h'.said
  refine ⟨h.store.trans h'.store, new ++ more, ?_, ?_⟩
  · rw [hmore, hnew, List.append_assoc]
  · exact List.forall_mem_append.2 ⟨hsaid, fun x hx => h.store.trans (hsaid' x hx)⟩

end Progress.Spares

/-! ## Sessions -/

namespace Session

variable {α β : Type} {s : Session α} {p : Progress}
  {P : Place → Option ByteArray → Prop}

/-- Wherever the session ends, it has changed files at places of which `P` holds at most. -/
def Touches (s : Session α) (p : Progress) (P : Place → Option ByteArray → Prop) : Prop :=
  p.Spares P (s.run p).2

namespace Touches

/-- One session after another, where the second starts from what the first yields. -/
theorem bind {f : α → Session β} {Q : α → Progress → Prop} (h : s.Touches p P) (hs : s.Yields p Q)
    (hf : ∀ a p', Q a p' → (f a).Touches p' P) : (s >>= f).Touches p P := by
  rw [Touches] at h ⊢
  rw [Yields] at hs
  rw [run_bind]
  -- the first session goes on, or it ends the run
  split at hs
  · next a p' hrun =>
    rw [hrun] at h
    exact h.trans (hf a p' hs)
  · next e p' hrun =>
    rw [hrun] at h
    exact h

/-- A session that is run only on a condition, and the one after it. -/
theorem ite_bind {c : Prop} [Decidable c] {s : Session Unit} {f : Session β}
    {Q : Unit → Progress → Prop} (h : s.Touches p P) (hs : s.Yields p Q)
    (hf : ∀ p', Q () p' → f.Touches p' P) (hskip : Q () p) :
    (if c then s >>= fun _ => f else f).Touches p P := by
  split
  · exact h.bind hs fun _ => hf
  · exact hf p hskip

end Touches

/-! ### Single steps -/

theorem touches_pure (a : α) : (pure a : Session α).Touches p P :=
  .of_said_eq (.refl _) rfl

theorem touches_throw (e : Ending) : (throw e : Session α).Touches p P :=
  .of_said_eq (.refl _) rfl

theorem touches_store : store.Touches p P :=
  .of_said_eq (.refl _) rfl

theorem touches_say (m : Message) : (say m).Touches p P :=
  ⟨.refl _, [⟨m, p.store⟩], rfl, List.forall_mem_singleton.2 (.refl _)⟩

theorem touches_sayAll (ms : List Message) : (sayAll ms).Touches p P := by
  refine ⟨.refl _, ms.map (⟨·, p.store⟩), rfl, fun x hx => ?_⟩
  obtain ⟨m, -, rfl⟩ := List.mem_map.1 hx
  exact .refl _

/-- Taking over files touches what is different about them. -/
theorem touches_setStore {x : Store} (h : p.store.Spares P x) : (setStore x).Touches p P :=
  .of_said_eq h rfl

theorem touches_refuse (code : ExitCode) (text : String) :
    (refuse code text : Session α).Touches p P :=
  (touches_say _).bind (yields_say _) fun _ _ _ => touches_throw _

/-! ### Inputs -/

theorem touches_ofLoad (x : Except LoadError α) : (ofLoad x).Touches p P := by
  unfold ofLoad
  split
  · exact touches_pure _
  · exact touches_refuse _ _
  · exact touches_throw _
  · exact touches_throw _
  · exact touches_throw _

theorem touches_readText (around : Surroundings) (source : String) :
    (readText around source).Touches p P := by
  unfold readText
  refine (touches_sayAll _).bind (yields_sayAll _) fun _ p₁ _ => ?_
  exact touches_store.bind yields_store fun _ p₂ _ => touches_ofLoad _

theorem touches_settings (around : Surroundings) (choices : Choices) :
    (settings around choices).Touches p P := by
  unfold settings
  refine touches_store.bind yields_store ?_
  rintro _ p₁ ⟨rfl, h₁⟩
  dsimp only
  -- a folder for the settings is no file
  have hspares : p₁.store.Spares P (Settings.resolve around p.store choices).1 := by
    rw [h₁]
    exact .of_file?_eq (Settings.file?_resolve around p.store choices)
  refine (touches_setStore hspares).bind (yields_setStore _) fun _ p₂ _ => ?_
  split
  · exact (touches_say _).bind (yields_say _) fun _ _ _ => touches_pure _
  · exact touches_refuse _ _
  · exact touches_throw _
  · exact touches_throw _
  · exact touches_throw _

theorem touches_diagram (text : String) : (diagram text).Touches p P := by
  unfold diagram
  split
  · exact touches_throw _
  · exact (touches_sayAll _).bind (yields_sayAll _) fun _ _ _ => touches_pure _

theorem touches_documents (d : Diagram) (settings : Settings) :
    (documents d settings).Touches p P := by
  unfold documents
  split
  · exact (touches_sayAll _).bind (yields_sayAll _) fun _ _ _ => touches_throw _
  · refine (touches_sayAll _).bind (yields_sayAll _) fun _ p₁ _ => ?_
    exact (touches_say _).bind (yields_say _) fun _ _ _ => touches_pure _

theorem touches_choose (documents : Table String Document) (service : Option String) :
    (choose documents service).Touches p P := by
  unfold choose
  split
  · exact touches_pure _
  · split
    · exact touches_pure _
    · exact touches_refuse _ _

/-- What is chosen are documents of services that are there. -/
theorem yields_choose (documents : Table String Document) (service : Option String) :
    (choose documents service).Yields p fun chosen _ =>
      Table.keys chosen ⊆ Table.keys documents := by
  unfold choose
  split
  · exact yields_pure (List.Subset.refl _)
  · next service =>
    split
    · next x hx =>
      refine yields_pure ?_
      rw [Table.keys_cons, Table.keys_nil]
      exact List.cons_subset.2 ⟨Table.exists_find_iff.1 ⟨x, hx⟩, List.nil_subset _⟩
    · exact yields_refuse (by simp) _

theorem touches_report (r : Report) : (report r).Touches p P := by
  unfold report
  refine (touches_say _).bind (yields_say _) fun _ p₁ _ => ?_
  split
  · exact touches_throw _
  · exact touches_pure _

/-! ### Outputs -/

/-- A write touches its target, and where the machine refuses something also a place for a temporary
file that is free. -/
theorem touches_write (around : Surroundings) {path : Path} (text : String)
    (hroot : path.name? ≠ some "/") (hplace : ∀ old, P path.place old)
    (hleft : (∃ o, around.machine.refuses o = true) → ∀ n,
      P (path.parent.place ++ [Store.temporaryName (path.name?.getD "") n]) none) :
    (write around path text).Touches p P := by
  unfold write
  refine touches_store.bind yields_store ?_
  rintro _ p₁ ⟨rfl, h₁⟩
  dsimp only
  have hspares : p₁.store.Spares P (p.store.writeWhole around.machine path text).1 := by
    rw [h₁]
    exact p.store.spares_writeWhole text hroot hplace hleft
  refine (touches_setStore hspares).bind (yields_setStore _) fun _ p₂ _ => ?_
  split
  · exact touches_say _
  · exact touches_throw _

theorem touches_writeDocuments (around : Surroundings) (folder : Path) (format : DocumentFormat)
    (documents : Table String Document)
    (hplace : ∀ service ∈ Table.keys documents, ∀ old,
      P (folder.place ++ [format.fileName service]) old)
    (hleft : (∃ o, around.machine.refuses o = true) → ∀ service ∈ Table.keys documents, ∀ n,
      P (folder.place ++ [Store.temporaryName (format.fileName service) n]) none) :
    ∀ {p : Progress}, (writeDocuments around folder format documents).Touches p P := by
  -- Induction on the documents ahead, from any progress.
  induction documents with
  | nil => exact touches_pure _
  | cons e documents ih =>
    obtain ⟨service, x⟩ := e
    intro p
    rw [Table.keys_cons] at hplace hleft
    obtain ⟨hservice, hrest⟩ := List.forall_mem_cons.1 hplace
    have hchild := format.isChildName_fileName service
    have hup : format.fileName service ≠ ".." := fun heq => hchild.plain (by simp [heq])
    have hroot : (folder.append [format.fileName service]).name? ≠ some "/" := by
      rw [Path.name?, Path.names_append, List.getLast?_concat]
      intro heq
      have hslash := hchild.separator '/' (by rw [Option.some_inj.1 heq]; decide)
      exact hslash.1 rfl
    rw [← Path.place_append_singleton folder hup] at hservice
    unfold writeDocuments
    refine (touches_write around _ hroot hservice fun hrefuses n => ?_).bind
      (yields_write around _ _) fun _ _ _ => ih hrest fun hrefuses service hs => ?_
    · rw [Path.parent_append_singleton, Path.name?, Path.names_append, List.getLast?_concat]
      exact hleft hrefuses service List.mem_cons_self n
    · exact hleft hrefuses service (List.mem_cons_of_mem _ hs)

end Session

/-! ## Runs -/

namespace GenerateRequest

open Session

/-- The place of a document's file: in the folder of the request, by the name of the service. Where
the machine refuses something it can also be the place of a temporary file for it, if no file was
there. -/
def IsTarget (r : GenerateRequest) (folder : String) (around : Surroundings) (store : Store)
    (place : Place) (old : Option ByteArray) : Prop :=
  ∃ format documents, r.Asks around store format documents ∧
    ∃ service ∈ Table.keys documents,
      place = (Path.ofText folder).place ++ [format.fileName service] ∨
        ((∃ n, place = (Path.ofText folder).place ++
          [Store.temporaryName (format.fileName service) n]) ∧
        old = none ∧ ∃ o, around.machine.refuses o = true)

/-- However a request with a folder ends, it has changed files of its documents at most. -/
theorem touches_session {r : GenerateRequest} {folder : String} (hfolder : r.folder = some folder)
    (around : Surroundings) (p : Progress) :
    (r.session around).Touches p (r.IsTarget folder around p.store) := by
  unfold session
  rw [hfolder, Option.map_some]
  refine touches_store.bind yields_store ?_
  rintro _ p₁ ⟨rfl, h₁⟩
  dsimp only
  refine Touches.ite_bind (Q := fun _ p' => p'.store = p.store) (touches_throw _) yields_misuse
    (fun p₁ h₁ => ?_) h₁
  refine (touches_settings around r.choices).bind (yields_settings around r.choices)
    fun settings p₂ hsettings => ?_
  rw [h₁] at hsettings
  split
  · exact touches_refuse _ _
  next format hformat =>
  refine (touches_readText around r.source).bind (yields_readText around r.source)
    fun text p₃ ⟨htext, h₃⟩ => ?_
  refine Touches.ite_bind (touches_report _) (yields_report _) (fun p₄ h₄ => ?_) rfl
  refine (touches_diagram text).bind (yields_diagram text) fun d p₅ ⟨hd, h₅⟩ => ?_
  refine (touches_sayAll _).bind (yields_sayAll _) fun _ p₆ h₆ => ?_
  refine (touches_documents d settings).bind (yields_documents d settings)
    fun documents p₇ ⟨hdocuments, h₇⟩ => ?_
  have hasks : r.Asks around p.store format documents := by
    refine ⟨settings, text, d, ?_, hformat, ?_, hd, hdocuments⟩
    · rw [hsettings]
    · rw [hsettings]
      exact htext
  split
  · exact (touches_say _).bind (yields_say _) fun _ _ _ => touches_say _
  · refine (touches_choose documents r.service).bind (yields_choose documents r.service)
      fun chosen p₈ hchosen => ?_
    refine touches_writeDocuments around _ format chosen (fun service hservice _ => ?_)
      fun hrefuses service hservice n => ?_
    · exact ⟨format, documents, hasks, service, hchosen hservice, .inl rfl⟩
    · exact ⟨format, documents, hasks, service, hchosen hservice, .inr ⟨⟨n, rfl⟩, rfl, hrefuses⟩⟩

end GenerateRequest

/-- A run leaves the files of a store along its way. -/
theorem Session.Touches.files {s : Session Unit} {store : Store}
    {P : Place → Option ByteArray → Prop} (h : s.Touches ⟨store, []⟩ P) (p : Presentation) :
    store.Spares P ((s.outcome store).files p) := by
  obtain ⟨hstore, new, hnew, hsaid⟩ := h
  have houtcome : (s.outcome store).store = (s.run ⟨store, []⟩).2.store ∧
      (s.outcome store).said = (s.run ⟨store, []⟩).2.said := by
    rw [outcome]
    split <;> next hrun => rw [hrun]; exact ⟨rfl, rfl⟩
  rw [Outcome.files]
  split
  · next x hx =>
    have hmem : x ∈ new := by
      have hmem := List.mem_of_find?_eq_some hx
      rwa [houtcome.2, hnew, List.nil_append] at hmem
    exact hsaid x hmem
  · rw [houtcome.1]
    exact hstore

/-- **Documents stay inside their folder.** Whatever a service is called and in whatever format its
document is, its file has the name of a visible file directly in a folder. And a run for documents
in a folder, however it ends, changes no file but such files directly in that folder, named after
services that have documents. Only where the machine refuses something, a temporary file for one of
them can be left in the folder, at a place without a file. -/
theorem GenerateRequest.writes_inside_folder :
    (∀ (f : DocumentFormat) (service : String), f.IsChildName (f.fileName service)) ∧
      ∀ (r : GenerateRequest) (folder : String) (around : Surroundings) (store : Store)
        (p : Presentation), r.folder = some folder → ∀ place,
          (((Command.generate r).outcome around store).files p).file? place ≠ store.file? place →
            ∃ format documents, r.Asks around store format documents ∧
              ∃ service ∈ Table.keys documents,
                place = (Path.ofText folder).place ++ [format.fileName service] ∨
                  ((∃ n, place = (Path.ofText folder).place ++
                    [Store.temporaryName (format.fileName service) n]) ∧
                  store.file? place = none ∧ ∃ o, around.machine.refuses o = true) := by
  refine ⟨fun f service => f.isChildName_fileName service, fun r folder around store p hfolder => ?_⟩
  exact (touches_session hfolder around ⟨store, []⟩).files p

/-- A text with a service that is called like a way up. -/
def GenerateRequest.upwardText : String :=
  "A->>../../etc/b: GET /x"

/-- The text on the standard input, and a full disk. -/
def GenerateRequest.upwardFull : Surroundings where
  standardInput := upwardText
  machine := { refuses := fun o => o matches .fill .. }

/-- The file of a service that is called like a way up is in the folder; and so is the temporary
file that is left on a full disk. -/
theorem GenerateRequest.writes_inside_folder_upward :
    DocumentFormat.json.IsChildName (DocumentFormat.json.fileName "../../etc/b") ∧
      piped.folder = some "out" ∧
      ((((Command.generate piped).outcome { standardInput := upwardText } {}).files {}).file?
          ["out", "etc_b.yaml"] ≠ Store.file? {} ["out", "etc_b.yaml"] ∧
        ∃ format documents, piped.Asks { standardInput := upwardText } {} format documents ∧
          ∃ service ∈ Table.keys documents,
            ["out", "etc_b.yaml"] = (Path.ofText "out").place ++ [format.fileName service]) ∧
      ((((Command.generate piped).outcome upwardFull {}).files {}).file?
          ["out", ".etc_b.yaml.00000000.tmp"] ≠
            Store.file? {} ["out", ".etc_b.yaml.00000000.tmp"] ∧
        ∃ format documents, piped.Asks upwardFull {} format documents ∧
          ∃ service ∈ Table.keys documents,
            ["out", ".etc_b.yaml.00000000.tmp"] =
              (Path.ofText "out").place ++ [format.fileName service] ∨
            ((∃ n, ["out", ".etc_b.yaml.00000000.tmp"] = (Path.ofText "out").place ++
                [Store.temporaryName (format.fileName service) n]) ∧
              Store.file? {} ["out", ".etc_b.yaml.00000000.tmp"] = none ∧
              ∃ o, upwardFull.machine.refuses o = true)) := by
  have hwritten : ((((Command.generate piped).outcome { standardInput := upwardText } {}).files
      {}).file? ["out", "etc_b.yaml"]).isSome = true := by decide +kernel
  have hleft : ((((Command.generate piped).outcome upwardFull {}).files {}).file?
      ["out", ".etc_b.yaml.00000000.tmp"]).isSome = true := by decide +kernel
  have hnew : (((Command.generate piped).outcome { standardInput := upwardText } {}).files {}).file?
      ["out", "etc_b.yaml"] ≠ Store.file? {} ["out", "etc_b.yaml"] := by
    intro heq
    rw [heq] at hwritten
    cases hwritten
  have hnewLeft : (((Command.generate piped).outcome upwardFull {}).files {}).file?
      ["out", ".etc_b.yaml.00000000.tmp"] ≠
        Store.file? {} ["out", ".etc_b.yaml.00000000.tmp"] := by
    intro heq
    rw [heq] at hleft
    cases hleft
  refine ⟨writes_inside_folder.1 .json _, rfl, ⟨hnew, ?_⟩, hnewLeft,
    writes_inside_folder.2 piped "out" upwardFull {} {} rfl _ hnewLeft⟩
  obtain ⟨format, documents, hasks, service, hservice, hplace⟩ :=
    writes_inside_folder.2 piped "out" _ {} {} rfl _ hnew
  refine ⟨format, documents, hasks, service, hservice, hplace.resolve_right ?_⟩
  -- nothing is refused, so nothing is left
  rintro ⟨-, -, o, ho⟩
  cases ho

end SequenceApi
