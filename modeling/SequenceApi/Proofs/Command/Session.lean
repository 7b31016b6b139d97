import SequenceApi.Command.Run

/-!
# Reasoning about runs

What a run comes to is followed command by command. A postcondition speaks of the value and of the
progress where a session goes on; where the session ends the run early, it is only known that this
is no success. So whatever a session yields holds after every run that succeeds. Only a message that
cannot be printed could make the files other than those at the end, and such a run does not succeed.

## Main definitions

* `Session.Yields`: what holds where a session goes on

## Main results

* `Session.Yields.bind`: one session after another
* `Session.yields_settings`, `Session.yields_readText`, `Session.yields_documents`: what the inputs
  and the documents of a run are
* `Outcome.of_success`, `Session.Yields.of_success`: what holds after a run that succeeds
-/

namespace SequenceApi

instance (e : Ending) : Decidable (e = .exit .success) :=
  match e with
  | .exit code => decidable_of_iff (code = .success) ⟨congrArg Ending.exit, Ending.exit.inj⟩
  | .misuse => isFalse nofun
  | .crash _ => isFalse nofun

namespace Session

variable {α β : Type} {s : Session α} {p : Progress} {Q R : α → Progress → Prop}

theorem run_bind (s : Session α) (f : α → Session β) (p : Progress) :
    (s >>= f).run p =
      match s.run p with
      | (.ok a, p') => (f a).run p'
      | (.error e, p') => (.error e, p') := by
  have hstep (x : StateM Progress (Except Ending α))
      (g : Except Ending α → StateM Progress (Except Ending β)) :
      (x >>= g) p = g (x p).1 (x p).2 := rfl
  rw [ExceptT.run_bind, hstep]
  rcases s.run p with ⟨_ | _, p'⟩ <;> rfl

/-- Where the session goes on, `Q` holds of its value and the progress; and it does not end the run
with success. -/
def Yields (s : Session α) (p : Progress) (Q : α → Progress → Prop) : Prop :=
  match s.run p with
  | (.ok a, p') => Q a p'
  | (.error e, _) => e ≠ .exit .success

namespace Yields

theorem mono (h : s.Yields p Q) (hQR : ∀ a p', Q a p' → R a p') : s.Yields p R := by
  rw [Yields] at h ⊢
  split at h
  · next a p' _ => exact hQR a p' h
  · exact h

/-- One session after another. -/
theorem bind {f : α → Session β} {R : β → Progress → Prop} (h : s.Yields p Q)
    (hf : ∀ a p', Q a p' → (f a).Yields p' R) : (s >>= f).Yields p R := by
  rw [Yields] at h ⊢
  rw [run_bind]
  split at h
  · next a p' _ => exact hf a p' h
  · exact h

/-- A session that is run only on a condition, and the one after it. -/
theorem ite_bind {c : Prop} [Decidable c] {s : Session Unit} {f : Session β}
    {Q : Unit → Progress → Prop} {R : β → Progress → Prop} (h : s.Yields p Q)
    (hf : ∀ p', Q () p' → f.Yields p' R) (hskip : Q () p) :
    (if c then s >>= fun _ => f else f).Yields p R := by
  split
  · exact h.bind fun _ => hf
  · exact hf p hskip

end Yields

/-! ## Single steps -/

theorem yields_pure {a : α} (h : Q a p) : (pure a : Session α).Yields p Q :=
  h

theorem yields_crash (c : Crash) : (crash c : Session α).Yields p Q := by
  intro h
  cases h

theorem yields_misuse : (throw .misuse : Session α).Yields p Q := by
  intro h
  cases h

theorem yields_finish {code : ExitCode} (h : code ≠ .success) :
    (finish code : Session α).Yields p Q :=
  fun heq => h (Ending.exit.inj heq)

theorem yields_refuse {code : ExitCode} (h : code ≠ .success) (text : String) :
    (refuse code text : Session α).Yields p Q :=
  fun heq => h (Ending.exit.inj heq)

/-- What is said changes no file. -/
theorem yields_say (m : Message) : (say m).Yields p fun _ p' => p'.store = p.store :=
  rfl

theorem yields_sayAll (ms : List Message) : (sayAll ms).Yields p fun _ p' => p'.store = p.store :=
  rfl

theorem yields_store : store.Yields p fun s p' => s = p.store ∧ p'.store = p.store :=
  ⟨rfl, rfl⟩

theorem yields_setStore (s : Store) : (setStore s).Yields p fun _ p' => p'.store = s :=
  rfl

/-! ## Inputs -/

/-- A session that goes on only with a certain value, and leaves the files alone. -/
def YieldsValue (s : Session α) (p : Progress) (P : α → Prop) : Prop :=
  s.Yields p fun a p' => P a ∧ p'.store = p.store

theorem yields_ofLoad (x : Except LoadError α) : (ofLoad x).YieldsValue p fun a => x = .ok a := by
  unfold ofLoad
  split
  · exact ⟨rfl, rfl⟩
  · exact yields_refuse (by simp) _
  · exact yields_crash _
  · exact yields_crash _
  · exact yields_crash _

theorem yields_readText (around : Surroundings) (source : String) :
    (readText around source).YieldsValue p fun text =>
      (Source.ofText source).readText around p.store = .ok text := by
  unfold readText
  refine (yields_sayAll _).bind fun _ p₁ h₁ => yields_store.bind ?_
  rintro _ p₂ ⟨rfl, h₂⟩
  refine (yields_ofLoad _).mono fun text p₃ ⟨htext, h₃⟩ => ⟨?_, ?_⟩
  · rw [← h₁, htext]
  · rw [h₃, h₂, h₁]

/-- The settings are those of all layers, in a store that may have got a folder for them. -/
theorem yields_settings (around : Surroundings) (choices : Choices) :
    (settings around choices).Yields p fun s p' =>
      Settings.resolve around p.store choices = (p'.store, .ok s) := by
  unfold settings
  refine yields_store.bind ?_
  rintro _ p₁ ⟨rfl, -⟩
  dsimp only
  refine (yields_setStore _).bind fun _ p₂ h₂ => ?_
  split
  · next s hresult =>
    refine (yields_say _).bind fun _ p₃ h₃ => yields_pure ?_
    rw [h₃, h₂, ← hresult]
  · exact yields_refuse (by simp) _
  · exact yields_crash _
  · exact yields_crash _
  · exact yields_crash _

theorem yields_diagram (text : String) :
    (diagram text).YieldsValue p fun d => Diagram.read text = .ok d := by
  unfold diagram Diagram.readRecorded Diagram.read
  cases Token.read text with
  | error e => exact yields_crash _
  | ok tokens => exact (yields_sayAll _).bind fun _ p₁ h₁ => yields_pure ⟨rfl, h₁⟩

theorem yields_documents (d : Diagram) (settings : Settings) :
    (documents d settings).YieldsValue p fun xs => d.documents settings = .ok xs := by
  unfold documents
  split
  · exact (yields_sayAll _).bind fun _ _ _ => yields_crash _
  · next xs events hgenerate =>
    refine (yields_sayAll _).bind fun _ p₁ h₁ => (yields_say _).bind fun _ p₂ h₂ => ?_
    refine yields_pure ⟨?_, h₂.trans h₁⟩
    rw [Diagram.documents, hgenerate]

/-! ## Outputs -/

/-- A report ends the run unless it is one without errors. -/
theorem yields_report (r : Report) : (report r).Yields p fun _ p' => p'.store = p.store := by
  unfold report
  refine (yields_say _).bind fun _ p₁ h₁ => ?_
  split
  · exact yields_finish (by simp)
  · exact yields_pure h₁

theorem yields_write (around : Surroundings) (path : Path) (text : String) :
    (write around path text).Yields p fun _ p' =>
      p.store.writeWhole around.machine path text = (p'.store, .ok ()) := by
  unfold write
  refine yields_store.bind ?_
  rintro _ p₁ ⟨rfl, -⟩
  dsimp only
  refine (yields_setStore _).bind fun _ p₂ h₂ => ?_
  split
  · next hresult =>
    refine (yields_say _).mono fun _ p₃ h₃ => ?_
    rw [h₃, h₂, ← hresult]
  · exact yields_crash _

end Session

/-! ## Outcomes -/

/-- Messages break off with the first that breaks. -/
theorem Shown.broken_ofMessages (p : Presentation) (ms : List Message) :
    (ofMessages p ms).broken = ms.findSome? fun m => (m.shown p).broken := by
  induction ms with
  | nil => rfl
  | cons m ms ih =>
    rw [ofMessages, broken_andThen, ih, List.findSome?_cons]
    cases (m.shown p).broken <;> rfl

namespace Outcome

theorem unprinted?_eq_none {o : Outcome} {p : Presentation} (h : (o.shown p).broken = none) :
    o.unprinted? p = none := by
  rw [shown, Shown.broken_ofMessages, List.findSome?_eq_none_iff] at h
  rw [unprinted?, List.find?_eq_none]
  intro said hsaid
  have hprinted := h said.message (List.mem_map_of_mem hsaid)
  simp [hprinted]

/-- A run that succeeds has come to its end, and leaves the files as they are there. -/
theorem of_success {o : Outcome} {p : Presentation} (h : o.ending p = .exit .success) :
    o.ended = .exit .success ∧ o.files p = o.store := by
  rw [ending] at h
  split at h
  · cases h
  · next hbroken => exact ⟨h, by rw [files, unprinted?_eq_none hbroken]⟩

end Outcome

/-- Whatever a session yields holds after a run that succeeds. -/
theorem Session.Yields.of_success {s : Session Unit} {store : Store} {Q : Unit → Progress → Prop}
    (h : s.Yields ⟨store, []⟩ Q) {p : Presentation}
    (hended : (s.outcome store).ending p = .exit .success) :
    ∃ p', Q () p' ∧ (s.outcome store).files p = p'.store := by
  obtain ⟨hended, hfiles⟩ := Outcome.of_success hended
  rw [hfiles]
  rw [Session.outcome] at hended ⊢
  rw [Yields] at h
  split at h
  · next p' hrun => exact ⟨p', h, by rw [hrun]⟩
  · next e p' hrun =>
    rw [hrun] at hended
    exact absurd hended h

end SequenceApi
