import SequenceApi.Proofs.Command.Session
import SequenceApi.Proofs.Console.Courtesy

/-!
# What runs say

What a run says comes in two stages. While it reads its input, checks it and makes documents, it
records what it does, warns and refuses, and offers no courtesy. Once it has something to give away,
it shows documents or writes files, and all else that it says is a courtesy. So what a quiet
presentation leaves out is followed by nothing that a quiet presentation could fail to print.

## Main definitions

* `Message.IsEarly`, `Message.IsLate`: the messages of the two stages
* `Session.Speaks`: what a session says, wherever it ends
* `InStages`: early messages, and after them late ones

## Main results

* `Session.Speaks.bind`: one session after another
* `Command.staged_session`: every command speaks in stages
-/

namespace SequenceApi

/-! ## Stages -/

namespace Message

/-- A message of the first stage: no courtesy, and one that verbosity cannot break. -/
def IsEarly (m : Message) : Prop :=
  m.isCourtesy = false ∧ m.IsSteady

/-- A message of the second stage: a courtesy or a document. -/
def IsLate (m : Message) : Prop :=
  m.isCourtesy = true ∨ ∃ format v, m = .document format v

theorem isSteady_of_isLate {m : Message} (h : m.IsLate) : m.IsSteady := by
  rintro text rfl
  rcases h with h | ⟨format, v, h⟩
  · cases h
  · cases h

end Message

/-- Messages of the first stage, and after them those of the second. -/
def InStages (ms : List Message) : Prop :=
  ∃ early late, ms = early ++ late ∧ (∀ m ∈ early, m.IsEarly) ∧ ∀ m ∈ late, m.IsLate

namespace InStages

theorem of_early {ms : List Message} (h : ∀ m ∈ ms, m.IsEarly) : InStages ms :=
  ⟨ms, [], (List.append_nil ms).symm, h, List.forall_mem_nil _⟩

theorem of_late {ms : List Message} (h : ∀ m ∈ ms, m.IsLate) : InStages ms :=
  ⟨[], ms, rfl, List.forall_mem_nil _, h⟩

theorem append {ms ms' : List Message} (h : ∀ m ∈ ms, m.IsEarly) (h' : InStages ms') :
    InStages (ms ++ ms') := by
  obtain ⟨early, late, rfl, hearly, hlate⟩ := h'
  have hboth : ∀ m ∈ ms ++ early, m.IsEarly := List.forall_mem_append.2 ⟨h, hearly⟩
  exact ⟨ms ++ early, late, (List.append_assoc ..).symm, hboth, hlate⟩

theorem isSteady {ms : List Message} (h : InStages ms) : ∀ m ∈ ms, m.IsSteady := by
  obtain ⟨early, late, rfl, hearly, hlate⟩ := h
  intro m hm
  rcases List.mem_append.1 hm with hm | hm
  · exact (hearly m hm).2
  · exact Message.isSteady_of_isLate (hlate m hm)

end InStages

/-! ## What sessions say -/

namespace Session

variable {α β : Type} {s : Session α} {L L' M : List Message → Prop}

/-- From wherever it starts and wherever it ends, the session adds messages of which `L` holds. It
does not itself end the run for a message that cannot be printed. -/
structure Speaks (s : Session α) (L : List Message → Prop) : Prop where
  said : ∀ p, ∃ new, (s.run p).2.said = p.said ++ new ∧ L (new.map (·.message))
  ended : ∀ p f, (s.run p).1 ≠ .error (.crash (.print f))

/-- The session says only early messages. -/
abbrev Early (s : Session α) : Prop :=
  s.Speaks fun ms => ∀ m ∈ ms, m.IsEarly

/-- The session says only late messages. -/
abbrev Late (s : Session α) : Prop :=
  s.Speaks fun ms => ∀ m ∈ ms, m.IsLate

/-- The session speaks in stages. -/
abbrev Staged (s : Session α) : Prop :=
  s.Speaks InStages

namespace Speaks

theorem mono (h : s.Speaks L) (hL : ∀ ms, L ms → M ms) : s.Speaks M where
  said p := by
    obtain ⟨new, hnew, hsaid⟩ := h.said p
    exact ⟨new, hnew, hL _ hsaid⟩
  ended := h.ended

/-- One session after another: the first may end the run, or the second follows. -/
theorem bind {f : α → Session β} (h : s.Speaks L) (hf : ∀ a, (f a).Speaks L')
    (hL : ∀ ms, L ms → M ms) (hM : ∀ ms ms', L ms → L' ms' → M (ms ++ ms')) :
    (s >>= f).Speaks M where
  said p := by
    obtain ⟨new, hnew, hsaid⟩ := h.said p
    rw [run_bind]
    -- the first session goes on, and what the second says comes after; or it ends the run
    split
    · next a p' hrun =>
      obtain ⟨more, hmore, hsaid'⟩ := (hf a).said p'
      rw [hrun] at hnew
      refine ⟨new ++ more, ?_, ?_⟩
      · rw [hmore, hnew, List.append_assoc]
      · rw [List.map_append]
        exact hM _ _ hsaid hsaid'
    · next e p' hrun =>
      rw [hrun] at hnew
      exact ⟨new, hnew, hL _ hsaid⟩
  ended p f' := by
    have hended := h.ended p f'
    rw [run_bind]
    split
    · next a p' _ => exact (hf a).ended p' f'
    · next e p' hrun =>
      rw [hrun] at hended
      intro heq
      exact hended (congrArg Except.error (Except.error.inj heq))

end Speaks

/-- Sessions that say one kind of messages, one after another. -/
theorem Speaks.bind_all {P : Message → Prop} {f : α → Session β}
    (h : s.Speaks fun ms => ∀ m ∈ ms, P m) (hf : ∀ a, (f a).Speaks fun ms => ∀ m ∈ ms, P m) :
    (s >>= f).Speaks fun ms => ∀ m ∈ ms, P m :=
  h.bind hf (fun _ => id) fun _ _ hms hms' => List.forall_mem_append.2 ⟨hms, hms'⟩

/-- What is said early may be followed by what is said in stages. -/
theorem Early.bind {f : α → Session β} (h : s.Early) (hf : ∀ a, (f a).Staged) : (s >>= f).Staged :=
  Speaks.bind h hf (fun _ => InStages.of_early) fun _ _ => InStages.append

/-- A session that is run only on a condition, and what follows it. -/
theorem Early.ite_bind {c : Prop} [Decidable c] {s : Session Unit} {f : Session β} (h : s.Early)
    (hf : f.Staged) : (if c then s >>= fun _ => f else f).Staged := by
  split
  · exact h.bind fun _ => hf
  · exact hf

theorem Early.staged (h : s.Early) : s.Staged :=
  Speaks.mono h fun _ => InStages.of_early

theorem Late.staged (h : s.Late) : s.Staged :=
  Speaks.mono h fun _ => InStages.of_late

/-! ### Single steps -/

section Steps

variable {P : Message → Prop}

theorem speaks_pure (a : α) : (pure a : Session α).Speaks fun ms => ∀ m ∈ ms, P m where
  said _ := ⟨[], (List.append_nil _).symm, List.forall_mem_nil _⟩
  ended _ _ := nofun

theorem speaks_throw {e : Ending} (he : ∀ f, e ≠ .crash (.print f)) :
    (throw e : Session α).Speaks fun ms => ∀ m ∈ ms, P m where
  said _ := ⟨[], (List.append_nil _).symm, List.forall_mem_nil _⟩
  ended _ f := fun heq => he f (Except.error.inj heq)

theorem speaks_say {m : Message} (hm : P m) : (say m).Speaks fun ms => ∀ m ∈ ms, P m where
  said p := ⟨[⟨m, p.store⟩], rfl, List.forall_mem_singleton.2 hm⟩
  ended _ _ := nofun

theorem speaks_sayAll {ms : List Message} (hms : ∀ m ∈ ms, P m) :
    (sayAll ms).Speaks fun ms => ∀ m ∈ ms, P m where
  said p := by
    refine ⟨ms.map (⟨·, p.store⟩), rfl, ?_⟩
    rw [List.map_map]
    simpa using hms
  ended _ _ := nofun

theorem speaks_store : store.Speaks fun ms => ∀ m ∈ ms, P m where
  said _ := ⟨[], (List.append_nil _).symm, List.forall_mem_nil _⟩
  ended _ _ := nofun

theorem speaks_setStore (x : Store) : (setStore x).Speaks fun ms => ∀ m ∈ ms, P m where
  said _ := ⟨[], (List.append_nil _).symm, List.forall_mem_nil _⟩
  ended _ _ := nofun

theorem speaks_finish (code : ExitCode) :
    (finish code : Session α).Speaks fun ms => ∀ m ∈ ms, P m :=
  speaks_throw nofun

theorem speaks_crash {c : Crash} (hc : ∀ f, c ≠ .print f) :
    (crash c : Session α).Speaks fun ms => ∀ m ∈ ms, P m :=
  speaks_throw fun f heq => hc f (Ending.crash.inj heq)

end Steps

/-- Records are early, and so is every message that is neither a courtesy nor for those who look for
faults. -/
theorem early_records (events : List Event) : (sayAll (events.map .record)).Early := by
  apply speaks_sayAll
  intro m hm
  obtain ⟨e, -, rfl⟩ := List.mem_map.1 hm
  exact ⟨rfl, nofun⟩

theorem early_refuse (code : ExitCode) (text : String) : (refuse code text : Session α).Early :=
  (speaks_say ⟨rfl, nofun⟩).bind_all fun _ => speaks_finish code

/-! ### Inputs -/

theorem early_ofLoad (x : Except LoadError α) : (ofLoad x).Early := by
  unfold ofLoad
  split
  · exact speaks_pure _
  · exact early_refuse _ _
  · exact speaks_crash nofun
  · exact speaks_crash nofun
  · exact speaks_crash nofun

theorem early_readText (around : Surroundings) (source : String) :
    (readText around source).Early := by
  unfold readText
  exact (early_records _).bind_all fun _ => speaks_store.bind_all fun _ => early_ofLoad _

theorem early_readDocument (around : Surroundings) (source : String) :
    (readDocument around source).Early := by
  unfold readDocument
  exact (early_records _).bind_all fun _ => speaks_store.bind_all fun _ => early_ofLoad _

theorem early_settings (around : Surroundings) (choices : Choices) :
    (settings around choices).Early := by
  unfold settings
  refine speaks_store.bind_all fun x => ?_
  dsimp only
  refine (speaks_setStore _).bind_all fun _ => ?_
  split
  · exact (speaks_say ⟨rfl, nofun⟩).bind_all fun _ => speaks_pure _
  · exact early_refuse _ _
  · exact speaks_crash nofun
  · exact speaks_crash nofun
  · exact speaks_crash nofun

theorem early_diagram (text : String) : (diagram text).Early := by
  unfold diagram
  split
  · exact speaks_crash nofun
  · exact (early_records _).bind_all fun _ => speaks_pure _

/-- The one message for those who look for faults says nothing but numbers. -/
theorem isSteady_generated (n m : Nat) : (Message.debug (s!"Generated {n} document(s) from " ++
    s!"{m} interaction(s)")).IsSteady := by
  intro text htext
  obtain rfl := Message.debug.inj htext
  have hsaid : s!"Generated {n} document(s) from " ++ s!"{m} interaction(s)" =
      "Generated " ++ toString n ++ " document(s) from " ++ (toString m ++ " interaction(s)") := rfl
  rw [hsaid, String.toList_append, String.toList_append, String.toList_append,
    String.toList_append]
  have hstart : Markup.IsBare "Generated ".toList := by simp [Markup.IsBare]
  have hmiddle : Markup.IsBare " document(s) from ".toList := by simp [Markup.IsBare]
  have hend : Markup.IsBare " interaction(s)".toList := by simp [Markup.IsBare]
  exact ((hstart.append (Markup.isBare_toString n)).append hmiddle).append
    ((Markup.isBare_toString m).append hend)

theorem early_documents (d : Diagram) (settings : Settings) : (documents d settings).Early := by
  unfold documents
  split
  · exact (early_records _).bind_all fun _ => speaks_crash nofun
  · refine (early_records _).bind_all fun _ => ?_
    exact (speaks_say ⟨rfl, isSteady_generated _ _⟩).bind_all fun _ => speaks_pure _

theorem early_choose (documents : Table String Document) (service : Option String) :
    (choose documents service).Early := by
  unfold choose
  split
  · exact speaks_pure _
  · split
    · exact speaks_pure _
    · exact early_refuse _ _

theorem early_report (r : Report) : (report r).Early := by
  unfold report
  refine (speaks_say ⟨rfl, nofun⟩).bind_all fun _ => ?_
  split
  · exact speaks_finish _
  · exact speaks_pure _

/-! ### Outputs -/

theorem late_write (around : Surroundings) (path : Path) (text : String) :
    (write around path text).Late := by
  unfold write
  refine speaks_store.bind_all fun x => ?_
  dsimp only
  refine (speaks_setStore _).bind_all fun _ => ?_
  split
  · exact speaks_say (.inl rfl)
  · exact speaks_crash nofun

theorem late_writeDocuments (around : Surroundings) (folder : Path) (format : DocumentFormat)
    (documents : Table String Document) : (writeDocuments around folder format documents).Late := by
  induction documents with
  | nil => exact speaks_pure _
  | cons e documents ih =>
    unfold writeDocuments
    exact (late_write around _ _).bind_all fun _ => ih

theorem late_showDocuments (format : DocumentFormat) (wanted : Option String)
    (documents : Table String Document) : (showDocuments format wanted documents).Late := by
  unfold showDocuments
  split
  · exact (speaks_say (.inr ⟨_, _, rfl⟩)).bind_all fun _ => speaks_say (.inl rfl)
  · exact (speaks_say (.inr ⟨_, _, rfl⟩)).bind_all fun _ => speaks_say (.inl rfl)

end Session

/-! ## What commands say -/

open Session

theorem GenerateRequest.staged_session (r : GenerateRequest) (around : Surroundings) :
    (r.session around).Staged := by
  unfold session
  refine Early.bind speaks_store fun x => ?_
  refine Early.ite_bind (speaks_throw nofun) ?_
  refine (early_settings around r.choices).bind fun settings => ?_
  split
  · exact (early_refuse _ _).staged
  refine (early_readText around r.source).bind fun text => ?_
  refine Early.ite_bind (early_report _) ?_
  refine (early_diagram text).bind fun d => ?_
  have hremarks : (sayAll (d.remarks.map Remark.warning)).Early := by
    apply speaks_sayAll
    intro m hm
    obtain ⟨remark, -, rfl⟩ := List.mem_map.1 hm
    exact ⟨rfl, nofun⟩
  refine hremarks.bind fun _ => (early_documents d settings).bind fun documents => ?_
  split
  · exact Early.bind (speaks_say ⟨rfl, nofun⟩) fun _ => Late.staged (speaks_say (.inl rfl))
  refine (early_choose documents r.service).bind fun chosen => Late.staged ?_
  split
  · exact late_writeDocuments around _ _ chosen
  · exact late_showDocuments _ r.service chosen

theorem staged_showSettings (around : Surroundings) : (showSettingsSession around).Staged := by
  unfold showSettingsSession
  refine (early_settings around {}).bind fun settings => Late.staged ?_
  exact (speaks_say (.inl rfl)).bind_all fun _ => speaks_say (.inr ⟨_, _, rfl⟩)

theorem staged_initSettings (around : Surroundings) (force : Bool) :
    (initSettingsSession around force).Staged := by
  unfold initSettingsSession
  refine Early.bind speaks_store fun x => ?_
  dsimp only
  refine Early.bind (speaks_setStore _) fun _ => ?_
  split
  · exact Early.staged (speaks_crash nofun)
  · split
    · exact (early_refuse _ _).staged
    · exact (late_write around _ _).staged

/-- Every command speaks in stages. -/
theorem Command.staged_session (c : Command) (around : Surroundings) :
    (c.session around).Staged := by
  cases c with
  | generate r => exact r.staged_session around
  | validate source =>
    exact Early.staged ((early_readText around source).bind_all fun _ => early_report _)
  | check source =>
    refine Early.staged ((early_readDocument around source).bind_all fun x => ?_)
    split
    · exact early_report _
    · exact speaks_crash nofun
  | showSettings => exact staged_showSettings around
  | initSettings force => exact staged_initSettings around force

end SequenceApi
