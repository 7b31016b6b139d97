import SequenceApi.Proofs.Command.Flags
import SequenceApi.Proofs.Command.Stages

/-!
# Quiet and verbose runs

The same command is run twice, with other choices of quietness and verbosity. Whether records and
messages for those who look for faults are shown changes nothing but the standard error. Whether
courtesies are left out does so too, as long as they can be printed: a courtesy that cannot be
printed breaks off a run that goes on where it is left out. That takes a presentation with colour,
and it is the only way in which the two runs can come to different results. What can be printed in
colour is up to the console; all that is asked of it is that it prints texts with balanced tags.

## Main definitions

* `Results`, `Command.results`: what a run comes to, the standard error apart
* `Message.Agree`: messages that break alike in two presentations, up to the first that breaks
* `Outcome.breaksOnCourtesy`: the first message that breaks where nothing is left out is a courtesy
* `Invocation.IsVerbosityFlag`: an argument for quietness and verbosity

## Main results

* `Outcome.results_eq_of_agree`: messages that break alike have the same results
* `Outcome.results_eq_iff`: when two presentations of an outcome have the same results
* `Invocation.exists_read_insert`: arguments for quietness and verbosity on a command line
* `Invocation.results_differ_by_courtesy`: when two runs of a command have the same results
-/

namespace SequenceApi

variable {p q : Presentation}

/-! ## Results -/

/-- What a run comes to, the standard error apart. -/
structure Results where
  out : String
  ending : Ending
  files : Store

/-- What an outcome comes to in a presentation. -/
def Outcome.results (o : Outcome) (p : Presentation) : Results where
  out := (o.shown p).out
  ending := o.ending p
  files := o.files p

/-- The same breaks the messages in both presentations, up to the first message that breaks. -/
def Message.Agree (p q : Presentation) : List Message → Prop
  | [] => True
  | m :: ms => (m.shown p).broken = (m.shown q).broken ∧
      ((m.shown p).broken = none → Agree p q ms)

open Message

theorem Message.agree_of_forall {ms : List Message}
    (h : ∀ m ∈ ms, (m.shown p).broken = (m.shown q).broken) : Agree p q ms := by
  induction ms with
  | nil => trivial
  | cons m ms ih =>
    obtain ⟨hm, hms⟩ := List.forall_mem_cons.1 h
    exact ⟨hm, fun _ => ih hms⟩

theorem Shown.ofMessages_of_agree (hformat : p.format = q.format) {ms : List Message}
    (h : Agree p q ms) :
    (ofMessages p ms).out = (ofMessages q ms).out ∧
      (ofMessages p ms).broken = (ofMessages q ms).broken := by
  -- Induction on the messages; nothing is printed after one that breaks, so the rest is free there.
  induction ms with
  | nil => exact ⟨rfl, rfl⟩
  | cons m ms ih =>
    obtain ⟨hbroken, hrest⟩ := h
    rw [ofMessages, ofMessages, out_andThen, out_andThen, broken_andThen, broken_andThen,
      out_shown hformat, ← hbroken]
    cases hm : (m.shown p).broken with
    | some f => exact ⟨rfl, rfl⟩
    | none =>
      obtain ⟨hout, hbroken'⟩ := ih (hrest hm)
      rw [hout]
      exact ⟨rfl, hbroken'⟩

namespace Outcome

variable {o : Outcome}

theorem unprinted?_of_agree (h : Agree p q o.messages) : o.unprinted? p = o.unprinted? q := by
  rw [messages] at h
  rw [unprinted?, unprinted?]
  revert h
  induction o.said with
  | nil => exact fun _ => rfl
  | cons x said ih =>
    rintro ⟨hbroken, hrest⟩
    rw [List.find?_cons, List.find?_cons, ← hbroken]
    cases hx : (x.message.shown p).broken with
    | some f => rfl
    | none => exact ih (hrest hx)

/-- Messages that break alike have the same results. -/
theorem results_eq_of_agree (hformat : p.format = q.format) (h : Agree p q o.messages) :
    o.results p = o.results q := by
  obtain ⟨hout, hbroken⟩ := Shown.ofMessages_of_agree hformat h
  have hending : o.ending p = o.ending q := by
    rw [ending, ending, shown, shown, hbroken]
  have hfiles : o.files p = o.files q := by
    rw [files, files, unprinted?_of_agree h]
  rw [results, results, hending, hfiles, shown, shown, hout]

/-- Presentations that are equally quiet have the same results. -/
theorem results_eq_of_quiet (h : p.Alike q) (hp : p.reading.Honours) (hquiet : p.quiet = q.quiet)
    (hstages : InStages o.messages) : o.results p = o.results q :=
  results_eq_of_agree h.format <| agree_of_forall fun m hm =>
    broken_eq_of_quiet h hp hquiet (hstages.isSteady m hm)

/-! ## Courtesies that break -/

/-- In a presentation that leaves nothing out, the first message that breaks is a courtesy. -/
def breaksOnCourtesy (o : Outcome) (p : Presentation) : Bool :=
  (o.messages.find? fun m => (m.shown { p with quiet := false }).broken.isSome).any isCourtesy

end Outcome

/-- If the first message that breaks is no courtesy, the messages without courtesies break alike. -/
theorem Message.agree_of_quiet (h : p.Alike q) (hp : p.reading.Honours) (hq : q.quiet = true)
    {ms : List Message} (hsteady : ∀ m ∈ ms, m.IsSteady)
    (hfirst : (ms.find? fun m => (m.shown p).broken.isSome).any isCourtesy = false) :
    Agree p q ms := by
  -- Induction on the messages up to the first that breaks: a courtesy before it breaks in neither.
  induction ms with
  | nil => trivial
  | cons m ms ih =>
    obtain ⟨hm, hms⟩ := List.forall_mem_cons.1 hsteady
    rw [List.find?_cons] at hfirst
    cases hbroken : (m.shown p).broken with
    | some f =>
      rw [hbroken] at hfirst
      refine ⟨?_, fun hnone => absurd (hbroken.symm.trans hnone) nofun⟩
      exact broken_eq_of_not_isCourtesy h hp hm hfirst
    | none =>
      rw [hbroken] at hfirst
      refine ⟨?_, fun _ => ih hms hfirst⟩
      cases hcourtesy : m.isCourtesy with
      | true => rw [hbroken, broken_of_isCourtesy hq hcourtesy]
      | false => exact broken_eq_of_not_isCourtesy h hp hm hcourtesy

theorem Message.broken_of_isLate {m : Message} (h : m.IsLate) (hq : q.quiet = true) :
    (m.shown q).broken = none := by
  rcases h with h | ⟨format, v, rfl⟩
  · exact broken_of_isCourtesy hq h
  · rfl

/-- Where the first message that breaks is a courtesy, nothing breaks if courtesies are left out. -/
theorem InStages.broken_eq_none (h : p.Alike q) (hp : p.reading.Honours) (hq : q.quiet = true)
    {ms : List Message} (hstages : InStages ms)
    (hbreaks : (ms.find? fun m => (m.shown p).broken.isSome).any isCourtesy = true) :
    ∀ m ∈ ms, (m.shown q).broken = none := by
  obtain ⟨early, late, rfl, hearly, hlate⟩ := hstages
  -- the first message that breaks is late, so no early message breaks
  have hprinted : early.find? (fun m => (m.shown p).broken.isSome) = none := by
    rw [List.find?_append] at hbreaks
    cases hfirst : early.find? (fun m => (m.shown p).broken.isSome) with
    | none => rfl
    | some m =>
      rw [hfirst] at hbreaks
      exact absurd hbreaks (by simp [(hearly m (List.mem_of_find?_eq_some hfirst)).1])
  intro m hm
  rcases List.mem_append.1 hm with hm | hm
  · obtain ⟨hcourtesy, hsteady⟩ := hearly m hm
    rw [← broken_eq_of_not_isCourtesy h hp hsteady hcourtesy]
    simpa using List.find?_eq_none.1 hprinted m hm
  · exact broken_of_isLate (hlate m hm) hq

namespace Outcome

variable {o : Outcome}

/-- The outcome of a run which speaks in stages, and which nothing that is printed has ended. -/
structure IsStaged (o : Outcome) : Prop where
  messages : InStages o.messages
  ended : ∀ f, o.ended ≠ .crash (.print f)

/-- Leaving out courtesies makes no difference just if none of them is the first to break. -/
theorem IsStaged.results_eq_iff_of_loud (ho : o.IsStaged) (h : p.Alike q)
    (hp : p.reading.Honours) (hloud : p.quiet = false) (hq : q.quiet = true) :
    o.results p = o.results q ↔ o.breaksOnCourtesy p = false := by
  have hself : { p with quiet := false } = p := by rw [← hloud]
  rw [breaksOnCourtesy, hself]
  constructor
  · intro heq
    by_contra hbreaks
    rw [Bool.not_eq_false] at hbreaks
    have hquiet : (o.shown q).broken = none := by
      rw [shown, Shown.broken_ofMessages, List.findSome?_eq_none_iff]
      exact ho.messages.broken_eq_none h hp hq hbreaks
    -- the loud run ends with the message that cannot be printed, the quiet one does not
    obtain ⟨f, hf⟩ : ∃ f, (o.shown p).broken = some f := by
      obtain ⟨m, hfirst, -⟩ := (Option.any_eq_true ..).1 hbreaks
      rw [shown, Shown.broken_ofMessages, ← Option.isSome_iff_exists, List.findSome?_isSome_iff]
      exact ⟨m, List.mem_of_find?_eq_some hfirst, by simpa using List.find?_some hfirst⟩
    have hending : o.ending p = o.ending q := congrArg Results.ending heq
    rw [ending, ending, hquiet, hf] at hending
    exact ho.ended f hending.symm
  · intro hbreaks
    exact results_eq_of_agree h.format (agree_of_quiet h hp hq ho.messages.isSteady hbreaks)

/-- When two presentations of an outcome have the same results. -/
theorem IsStaged.results_eq_iff (ho : o.IsStaged) (h : p.Alike q) (hp : p.reading.Honours) :
    o.results p = o.results q ↔ p.quiet = q.quiet ∨ o.breaksOnCourtesy p = false := by
  by_cases hquiet : p.quiet = q.quiet
  · have heq := results_eq_of_quiet h hp hquiet ho.messages
    exact iff_of_true heq (.inl hquiet)
  rw [or_iff_right hquiet]
  cases hp' : p.quiet with
  | false =>
    have hq : q.quiet = true := by simpa [hp'] using hquiet
    exact ho.results_eq_iff_of_loud h hp hp' hq
  | true =>
    -- the loud one of the two is `q`, and breaks like `p` would if it left nothing out
    have hq : q.quiet = false := by simpa [hp'] using hquiet
    have hloud := results_eq_of_quiet (p := { p with quiet := false })
      ⟨h.format, h.colour, h.reading⟩ hp hq.symm ho.messages
    rw [eq_comm, ← hloud]
    exact ho.results_eq_iff_of_loud (p := { p with quiet := false }) ⟨rfl, rfl, rfl⟩ hp rfl hp'

end Outcome

/-! ## Commands -/

/-- The outcome of a session which speaks in stages. -/
theorem Session.Staged.isStaged_outcome {s : Session Unit} (h : s.Staged) (store : Store) :
    (s.outcome store).IsStaged := by
  obtain ⟨new, hnew, hstages⟩ := h.said ⟨store, []⟩
  have hended := h.ended ⟨store, []⟩
  rw [outcome]
  cases hrun : s.run ⟨store, []⟩ with
  | mk result p' =>
    rw [hrun] at hnew hended
    have hsaid : p'.said = new := hnew
    rw [← hsaid] at hstages
    cases result with
    | ok =>
      refine ⟨hstages, fun f heq => ?_⟩
      cases heq
    | error e => exact ⟨hstages, fun f heq => hended f (congrArg Except.error heq)⟩

namespace Command

theorem isStaged_outcome (c : Command) (around : Surroundings) (store : Store) :
    (c.outcome around store).IsStaged :=
  (c.staged_session around).isStaged_outcome store

/-- What a command comes to with the options for all commands. -/
def results (c : Command) (o : GlobalOptions) (around : Surroundings) (store : Store) : Results :=
  (c.outcome around store).results (o.presentation around)

/-- When more quietness and verbosity change what a command comes to. -/
theorem results_insisting_iff (c : Command) (o : GlobalOptions) {around : Surroundings}
    (h : around.reading.Honours) (store : Store) (quiet verbose : Bool) :
    c.results (o.insisting quiet verbose) around store = c.results o around store ↔
      (o.quiet = false → quiet = false) ∨
        (c.outcome around store).breaksOnCourtesy (o.presentation around) = false := by
  have hquiet : ((o.insisting quiet verbose).quiet = o.quiet) ↔
      (o.quiet = false → quiet = false) := by
    rw [GlobalOptions.insisting]
    cases o.quiet <;> simp
  rw [← hquiet, eq_comm, @eq_comm _ (o.insisting quiet verbose).quiet]
  exact (c.isStaged_outcome around store).results_eq_iff ⟨rfl, rfl, rfl⟩ h

/-- Without colour, quietness and verbosity do not change what a command comes to. -/
theorem results_insisting_of_colourless (c : Command) {o : GlobalOptions} {around : Surroundings}
    (h : o.noColour = true ∨ around.isColourless = true) (store : Store) (quiet verbose : Bool) :
    c.results (o.insisting quiet verbose) around store = c.results o around store := by
  have hcolour : (o.presentation around).colour = false := by
    rw [GlobalOptions.presentation]
    rcases h with h | h <;> simp [h]
  have hmore : ((o.insisting quiet verbose).presentation around).colour = false := hcolour
  have hformat : ((o.insisting quiet verbose).presentation around).format =
      (o.presentation around).format := rfl
  apply Outcome.results_eq_of_agree hformat
  exact agree_of_forall fun m _ => broken_shown hformat hmore hcolour m

end Command

namespace Invocation

/-- More arguments for quietness and verbosity, among others for all commands, ask for the same
command. On every console that prints texts with balanced tags it comes to the same results, unless
they make a loud run quiet and the first of its messages that cannot be printed is a courtesy.
Without colour it comes to the same results on any console. -/
theorem results_differ_by_courtesy {before flags : List String} (hbefore : ∀ a ∈ before, IsFlag a)
    (hflags : ∀ a ∈ flags, IsVerbosityFlag a) :
    ∃ quiet verbose,
      (∀ after,
        read (before ++ (flags ++ after)) = (read (before ++ after)).insisting quiet verbose) ∧
      ∀ (c : Command) (o : GlobalOptions) (around : Surroundings) (store : Store),
        (around.reading.Honours →
          (c.results (o.insisting quiet verbose) around store = c.results o around store ↔
            (o.quiet = false → quiet = false) ∨
              (c.outcome around store).breaksOnCourtesy (o.presentation around) = false)) ∧
        (o.noColour = true ∨ around.isColourless = true →
          c.results (o.insisting quiet verbose) around store = c.results o around store) := by
  obtain ⟨quiet, verbose, hread⟩ := exists_read_insert hbefore hflags
  refine ⟨quiet, verbose, hread, fun c o around store => ⟨fun h => ?_, fun h => ?_⟩⟩
  · exact c.results_insisting_iff o h store quiet verbose
  · exact c.results_insisting_of_colourless h store quiet verbose

/-- Shows the documents of a text from the standard input. -/
def fromInput : Command :=
  .generate { source := "-" }

/-- A text of which everything that is told can be printed. -/
def printableText : String :=
  "A->>B: GET /x"

theorem results_of_printable :
    read ["--json", "-qv", "generate", "-"] =
        run { json := true, quiet := true, verbose := true } fromInput ∧
      read ["--json", "generate", "-"] = run { json := true } fromInput ∧
      fromInput.results { json := true, quiet := true, verbose := true }
          { standardInput := printableText } {} =
        fromInput.results { json := true } { standardInput := printableText } {} := by
  have hbefore : ∀ a ∈ ["--json"], IsFlag a :=
    List.forall_mem_singleton.2 ⟨[(.json, "")], rfl, by simp⟩
  have hflags : ∀ a ∈ ["-qv"], IsVerbosityFlag a :=
    List.forall_mem_singleton.2 ⟨[(.quiet, ""), (.verbose, "")], rfl, by simp⟩
  obtain ⟨quiet, verbose, hread, hresults⟩ := results_differ_by_courtesy hbefore hflags
  have hloud : read ["--json", "generate", "-"] = run { json := true } fromInput := by decide +kernel
  have hquiet : read ["--json", "-qv", "generate", "-"] =
      run { json := true, quiet := true, verbose := true } fromInput := by decide +kernel
  have hinsisting : GlobalOptions.insisting quiet verbose { json := true } =
      { json := true, quiet := true, verbose := true } := by
    have hmeaning := hread ["generate", "-"]
    rw [List.singleton_append, List.singleton_append, List.singleton_append, hloud] at hmeaning
    exact (Invocation.run.inj (hmeaning.symm.trans hquiet)).1
  refine ⟨hquiet, hloud, ?_⟩
  rw [← hinsisting, (hresults _ _ _ _).1 Markup.honours_unmarked]
  exact .inr (by decide +kernel)

/-- A text with a service of which the name, as markup, closes what is not open. -/
def unprintableText : String :=
  "A->>[/b]: GET /x"

/-- The quiet run succeeds, the other one breaks off when it counts the services. -/
theorem results_of_unprintable :
    read ["--quiet", "generate", "-"] = run { quiet := true } fromInput ∧
      read ["generate", "-"] = run {} fromInput ∧
      (fromInput.results { quiet := true } { standardInput := unprintableText } {}).ending =
        .exit .success ∧
      (fromInput.results {} { standardInput := unprintableText } {}).ending ≠ .exit .success := by
  refine ⟨?_, ?_, ?_, ?_⟩
  · decide +kernel
  · decide +kernel
  · decide +kernel
  · decide +kernel

end Invocation

end SequenceApi
