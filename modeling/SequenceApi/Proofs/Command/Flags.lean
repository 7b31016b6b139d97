import SequenceApi.Command.Invocation

/-!
# Options before a command

Before a command stand options without values, and so each of them is read by itself: arguments that
are such options can be put in anywhere among them. Those for quietness and verbosity replace no
command, and so the command line goes on to mean the same command with the same options, but for
quietness and verbosity.

## Main definitions

* `ArgumentKind.IsGiven`: an argument that is nothing but options of a certain kind
* `Invocation.insisting`: the same use of the program, but quieter or more verbose

## Main results

* `Arguments.exists_read_append`: options before other arguments
* `Invocation.exists_read_insert`: more options for quietness and verbosity among others
-/

namespace SequenceApi

variable {known : OptionSet} {P : CommandOption → Prop}

/-- The argument is nothing but options of which `P` holds, without values to come. -/
def ArgumentKind.IsGiven (known : OptionSet) (P : CommandOption → Prop) (argument : String) :
    Prop :=
  ∃ given, read known argument.toList = .options given none ∧ ∀ g ∈ given, P g.1

namespace Arguments

theorem withGiven_append (given given' : List GivenOption) (a : Arguments) :
    withGiven (given ++ given') a = withGiven given (withGiven given' a) := by
  rw [withGiven, withGiven, withGiven, List.append_assoc]

theorem has_withGiven (o : CommandOption) (given : List GivenOption) (a : Arguments) :
    (withGiven given a).has o = (has o ⟨given, []⟩ || a.has o) := by
  rw [has, withGiven, List.any_append, has, has]

/-- Options before other arguments are put before the options among those. -/
theorem exists_read_append (mixed : Bool) {before : List String}
    (h : ∀ argument ∈ before, ArgumentKind.IsGiven known P argument) :
    ∃ given, (∀ g ∈ given, P g.1) ∧ ∀ rest,
      read known mixed (before ++ rest) = (read known mixed rest).map (withGiven given) := by
  -- Induction on the arguments: none of them waits for a value, so each is read by itself.
  induction before with
  | nil =>
    refine ⟨[], List.forall_mem_nil _, fun rest => ?_⟩
    cases hrest : read known mixed rest with
    | none => exact hrest
    | some a => exact hrest
  | cons argument before ih =>
    obtain ⟨⟨given, hread, hgiven⟩, hbefore⟩ := List.forall_mem_cons.1 h
    obtain ⟨given', hgiven', hrest⟩ := ih hbefore
    refine ⟨given ++ given', List.forall_mem_append.2 ⟨hgiven, hgiven'⟩, fun rest => ?_⟩
    rw [List.cons_append, read, hread, hrest]
    dsimp only
    rw [Option.map_map]
    congr 1
    funext a
    exact (withGiven_append given given' a).symm

end Arguments

/-- The options, but quieter or more verbose. -/
def GlobalOptions.insisting (quiet verbose : Bool) (o : GlobalOptions) : GlobalOptions :=
  { o with quiet := o.quiet || quiet, verbose := o.verbose || verbose }

namespace Invocation

/-- The same use of the program, but quieter or more verbose. -/
def insisting (quiet verbose : Bool) : Invocation → Invocation
  | run o c => run (o.insisting quiet verbose) c
  | i => i

/-- What arguments mean after they are read. -/
def ofArguments (a : Arguments) : Invocation :=
  match special? a with
  | some i => i
  | none =>
    match command a.operands with
    | .help => help
    | .misuse => misuse
    | .command c =>
      run ⟨a.has .json, a.has .plain, a.has .noColor, a.has .quiet, a.has .verbose⟩ c

theorem read_eq (args : List String) :
    read args = ((Arguments.read globalOptions false args).map ofArguments).getD misuse := by
  rw [read]
  cases Arguments.read globalOptions false args <;> rfl

/-- Only quietness or verbosity is asked for. -/
def IsVerbosityFlag : String → Prop :=
  ArgumentKind.IsGiven globalOptions fun o => o = .quiet ∨ o = .verbose

/-- The argument is nothing but options for all commands. -/
def IsFlag : String → Prop :=
  ArgumentKind.IsGiven globalOptions fun _ => True

theorem special?_withGiven (given : List GivenOption) (a : Arguments) :
    special? (a.withGiven given) = (special? ⟨given, []⟩).or (special? a) := by
  rw [special?, Arguments.withGiven, List.findSome?_append, special?, special?]

/-- What replaces a command is not quieter or more verbose. -/
theorem insisting_special {a : Arguments} {i : Invocation} (h : special? a = some i)
    (quiet verbose : Bool) : i.insisting quiet verbose = i := by
  obtain ⟨g, -, hg⟩ := List.exists_of_findSome?_eq_some h
  split at hg
  · cases hg
    rfl
  · cases hg
    rfl
  · cases hg

section

variable {more : List GivenOption}

theorem special?_insert (h : ∀ g ∈ more, g.1 = .quiet ∨ g.1 = .verbose) (given : List GivenOption)
    (a : Arguments) :
    special? ((a.withGiven more).withGiven given) = special? (a.withGiven given) := by
  have hnone : special? ⟨more, []⟩ = none := by
    rw [special?, List.findSome?_eq_none_iff]
    intro g hg
    rcases h g hg with hg | hg <;> rw [hg]
  rw [special?_withGiven, special?_withGiven, special?_withGiven, hnone, Option.none_or]

theorem has_insert (given : List GivenOption) (a : Arguments) (o : CommandOption) :
    ((a.withGiven more).withGiven given).has o =
      ((a.withGiven given).has o || Arguments.has o ⟨more, []⟩) := by
  rw [Arguments.has_withGiven, Arguments.has_withGiven, Arguments.has_withGiven, Bool.or_assoc,
    Bool.or_comm (a.has o)]

theorem has_insert_of_ne (h : ∀ g ∈ more, g.1 = .quiet ∨ g.1 = .verbose) (given : List GivenOption)
    (a : Arguments) {o : CommandOption} (hquiet : o ≠ .quiet) (hverbose : o ≠ .verbose) :
    ((a.withGiven more).withGiven given).has o = (a.withGiven given).has o := by
  have hnone : Arguments.has o ⟨more, []⟩ = false := by
    rw [Arguments.has, List.any_eq_false]
    intro g hg
    rcases h g hg with hg | hg
    · simpa [hg] using hquiet.symm
    · simpa [hg] using hverbose.symm
  rw [has_insert, hnone, Bool.or_false]

/-- More options for quietness and verbosity after some others, and before those of `a`. -/
theorem ofArguments_insert (h : ∀ g ∈ more, g.1 = .quiet ∨ g.1 = .verbose)
    (given : List GivenOption) (a : Arguments) :
    ofArguments ((a.withGiven more).withGiven given) =
      (ofArguments (a.withGiven given)).insisting (Arguments.has .quiet ⟨more, []⟩)
        (Arguments.has .verbose ⟨more, []⟩) := by
  have hoperands : ((a.withGiven more).withGiven given).operands = (a.withGiven given).operands :=
    rfl
  have hjson := has_insert_of_ne h given a (o := .json) (by decide) (by decide)
  have hplain := has_insert_of_ne h given a (o := .plain) (by decide) (by decide)
  have hcolour := has_insert_of_ne h given a (o := .noColor) (by decide) (by decide)
  rw [ofArguments, ofArguments, special?_insert h, hoperands, hjson, hplain, hcolour,
    has_insert given a .quiet, has_insert given a .verbose]
  cases hspecial : special? (a.withGiven given) with
  | some i => exact (insisting_special hspecial _ _).symm
  | none => cases command (a.withGiven given).operands <;> rfl

end

/-- More arguments for quietness and verbosity, after other arguments for all commands. -/
theorem exists_read_insert {before flags : List String} (hbefore : ∀ a ∈ before, IsFlag a)
    (hflags : ∀ a ∈ flags, IsVerbosityFlag a) :
    ∃ quiet verbose, ∀ after,
      read (before ++ (flags ++ after)) = (read (before ++ after)).insisting quiet verbose := by
  obtain ⟨given, -, hgiven⟩ := Arguments.exists_read_append false hbefore
  obtain ⟨more, hmore, hread⟩ := Arguments.exists_read_append false hflags
  refine ⟨Arguments.has .quiet ⟨more, []⟩, Arguments.has .verbose ⟨more, []⟩, fun after => ?_⟩
  rw [read_eq, read_eq, hgiven, hgiven, hread]
  cases Arguments.read globalOptions false after with
  | none => rfl
  | some a => exact ofArguments_insert hmore given a

end Invocation

end SequenceApi
