import SequenceApi.Diagram.Build
import SequenceApi.Diagram.Check

/-!
# Numbers of lines

Lines are read and checked for what they say; their numbers are carried along and never looked at. So
all that is made of a text follows its lines when they get other numbers: tokens, interactions and
remarks on the one side, records and findings on the other.

## Main definitions

* `Token.renumber`, `Record.renumber`, `Finding.renumber`: one line with another number
* `Diagram.renumber`, `Report.renumber`: all lines with other numbers

## Main results

* `Token.ofLine_renumber`, `Check.line_renumber`: a line that gets another number
* `Draft.step_renumber`, `Check.Context.step_renumber`: one step
* `Diagram.ofTokens_renumber`, `Check.Context.run_renumber`: all steps
-/

namespace SequenceApi

open Text

variable (g : Nat → Nat)

/-! ## Tokens and diagrams -/

/-- The token with the number that `g` gives its line. -/
def Token.renumber : Token → Token
  | .declaration d => .declaration { d with line := g d.line }
  | .request r => .request { r with line := g r.line }
  | .response r => .response { r with line := g r.line }
  | .note n => .note { n with line := g n.line }

/-- The interaction with the number that `g` gives its line. -/
def Interaction.renumber (i : Interaction) : Interaction :=
  { i with line := g i.line }

/-- The remark with the number that `g` gives its line; its wording tells that number. -/
def Remark.renumber : Remark → Remark
  | .orphan r => .orphan { r with line := g r.line }
  | .badBody n => .badBody { n with line := g n.line }

/-- The diagram with the numbers that `g` gives its lines. -/
def Diagram.renumber (d : Diagram) : Diagram :=
  { d with
    interactions := d.interactions.map (Interaction.renumber g)
    remarks := d.remarks.map (Remark.renumber g) }

@[simp] theorem Token.participants_renumber (t : Token) :
    (t.renumber g).participants = t.participants := by
  cases t <;> rfl

theorem Token.ofArrow?_renumber (n : Nat) (a : Arrow) :
    ofArrow? (g n) a = (ofArrow? n a).map (Except.map (renumber g)) := by
  unfold ofArrow?
  split
  · split
    · next label _ =>
      split
      · cases Method.ofWord? label.verb <;> rfl
      · rfl
    · rfl
  · cases ReplyLabel.read a.label <;> rfl

/-- A line gives the same token under any number. -/
theorem Token.ofLine_renumber (n : Nat) (l : List Char) :
    ofLine (g n) l = (ofLine n l).map (Option.map (renumber g)) := by
  have harrow : (Arrow.read l).bind (ofArrow? (g n)) =
      ((Arrow.read l).bind (ofArrow? n)).map (Except.map (renumber g)) := by
    cases Arrow.read l with
    | none => rfl
    | some a => exact ofArrow?_renumber g n a
  unfold ofLine
  rw [harrow]
  split
  · rfl
  · cases (Arrow.read l).bind (ofArrow? n) with
    | some result => cases result <;> rfl
    | none =>
      -- no arrow: a declaration, a note or nothing
      dsimp only [Option.map_none]
      split <;> rfl

namespace Draft

/-- The draft with the numbers that `g` gives its lines. -/
def renumber (d : Draft) : Draft where
  settled := d.settled.map (Interaction.renumber g)
  pending := d.pending.map (Interaction.renumber g)
  remarks := d.remarks.map (Remark.renumber g)

variable (d : Draft)

@[simp] theorem interactions_renumber :
    (d.renumber g).interactions = d.interactions.map (Interaction.renumber g) := by
  cases hp : d.pending <;> simp [interactions, renumber, hp]

theorem bodyRemarks_renumber (n : Note) :
    bodyRemarks { n with line := g n.line } = (bodyRemarks n).map (Remark.renumber g) := by
  unfold bodyRemarks
  dsimp only
  split <;> rfl

theorem addResponse_renumber (r : Response) :
    (d.renumber g).addResponse { r with line := g r.line } = (d.addResponse r).renumber g := by
  unfold addResponse
  cases hp : d.pending with
  | none => simp [renumber, hp, Remark.renumber]
  | some i =>
    have hanswers : answers { r with line := g r.line } (i.renumber g) = answers r i := rfl
    simp only [renumber, hp, Option.map_some, hanswers]
    split <;> simp [Interaction.renumber, Remark.renumber]

theorem addNote_renumber (n : Note) :
    (d.renumber g).addNote { n with line := g n.line } = (d.addNote n).renumber g := by
  unfold addNote
  cases hp : d.pending with
  | none => simp [renumber, hp]
  | some i =>
    have hconcerns : concerns { n with line := g n.line } (i.renumber g) = concerns n i := rfl
    have henrich : enrich (i.renumber g) { n with line := g n.line } = (enrich i n).renumber g := rfl
    simp only [renumber, hp, Option.map_some, hconcerns, henrich, bodyRemarks_renumber]
    split <;> simp [hp]

/-- A step looks at no number. -/
theorem step_renumber (t : Token) : (d.renumber g).step (t.renumber g) = (d.step t).renumber g := by
  cases t with
  | declaration _ => rfl
  | request r =>
    rw [Token.renumber, step, addRequest, interactions_renumber]
    rfl
  | response r => exact addResponse_renumber g d r
  | note n => exact addNote_renumber g d n

/-- A run of tokens with other numbers. -/
theorem foldl_step_renumber (ts : List Token) :
    (ts.map (Token.renumber g)).foldl step (d.renumber g) = (ts.foldl step d).renumber g := by
  induction ts generalizing d with
  | nil => rfl
  | cons t ts ih => rw [List.map_cons, List.foldl_cons, step_renumber, ih, List.foldl_cons]

end Draft

/-- The diagram of tokens follows the numbers of their lines. -/
theorem Diagram.ofTokens_renumber (ts : List Token) :
    ofTokens (ts.map (Token.renumber g)) = (ofTokens ts).renumber g := by
  have hdraft : (ts.map (Token.renumber g)).foldl Draft.step {} =
      (ts.foldl Draft.step {}).renumber g := Draft.foldl_step_renumber g {} ts
  have hnames : (ts.map (Token.renumber g)).flatMap Token.participants =
      ts.flatMap Token.participants := by
    simp [List.flatMap_map]
  rw [ofTokens, hdraft, hnames, Draft.interactions_renumber]
  rfl

/-! ## Findings and reports -/

/-- The record with the number that `g` gives its line. -/
def Record.renumber : Record → Record
  | .declaration d => .declaration { d with line := g d.line }
  | .request l => .request { l with line := g l.line }
  | .response l => .response { l with line := g l.line }
  | .note n => .note { n with line := g n.line }

/-- The finding with the number that `g` gives its line. -/
def Finding.renumber (f : Finding) : Finding :=
  { f with line := f.line.map g }

/-- The issue with the number that `g` gives its line. -/
def Issue.renumber (i : Issue) : Issue :=
  { i with line := i.line.map g }

/-- The report with the numbers that `g` gives the lines of its issues. -/
def Report.renumber (r : Report) : Report where
  valid := r.valid
  errors := r.errors.map (Issue.renumber g)
  warnings := r.warnings.map (Issue.renumber g)

/-- A report follows the numbers of the findings. -/
theorem Finding.report_renumber (fs : List Finding) :
    report (fs.map (renumber g)) = (report fs).renumber g := by
  have hissues (p : Finding → Bool) (hp : ∀ f, p (f.renumber g) = p f) :
      ((fs.map (renumber g)).filter p).map issue =
        ((fs.filter p).map issue).map (Issue.renumber g) := by
    rw [List.filter_map, List.map_map, List.map_map, show p ∘ renumber g = p from funext hp]
    rfl
  rw [report, hissues isError fun _ => rfl, hissues (fun f => !f.isError) fun _ => rfl]
  simp [report, Report.renumber, Report.ofIssues]

namespace Check

theorem path_renumber (n : Nat) (s : String) :
    path (g n) s = (path n s).map (Finding.renumber g) := by
  rw [path, path, List.map_map]
  rfl

theorem name_renumber (n : Nat) (s : String) :
    name (g n) s = (name n s).map (Finding.renumber g) := by
  unfold name
  dsimp only
  split <;> split <;> rfl

theorem arrow?_renumber (n : Nat) (a : Arrow) :
    arrow? (g n) a =
      (arrow? n a).map fun c => (c.1.map (Finding.renumber g), c.2.renumber g) := by
  unfold arrow?
  split
  · split
    · split
      · dsimp only [Option.map_some]
        rw [List.map_append, path_renumber]
        split <;> rfl
      · rfl
    · rfl
  · cases ReplyLabel.read a.label with
    | none => rfl
    | some label =>
      dsimp only [Option.map_some]
      split <;> rfl

/-- A line has the same findings and the same record under any number. -/
theorem line_renumber (n : Nat) (l : List Char) :
    line (g n) l =
      ((line n l).1.map (Finding.renumber g), (line n l).2.map (Record.renumber g)) := by
  have harrow : (Arrow.read l).bind (arrow? (g n)) = ((Arrow.read l).bind (arrow? n)).map
      fun c => (c.1.map (Finding.renumber g), c.2.renumber g) := by
    cases Arrow.read l with
    | none => rfl
    | some a => exact arrow?_renumber g n a
  unfold line
  rw [harrow]
  split
  · rfl
  · cases (Arrow.read l).bind (arrow? n) with
    | some c => rfl
    | none =>
      dsimp only [Option.map_none]
      split
      · exact Prod.ext (name_renumber g n _) rfl
      · rfl
      · rfl

namespace Context

/-- What is known, with the numbers that `g` gives the lines of the waiting requests. -/
def renumber (c : Context) : Context :=
  { c with waiting := c.waiting.map fun l => { l with line := g l.line } }

theorem step_renumber (c : Context) (r : Record) :
    (c.renumber g).step (r.renumber g) =
      ((c.step r).1.map (Finding.renumber g), (c.step r).2.renumber g) := by
  cases r with
  | declaration d => rfl
  | request l =>
    have hends : ends (c.renumber g) { l with line := g l.line } =
        (ends c l).map (Finding.renumber g) := by
      unfold ends renumber
      dsimp only
      split <;> split <;> rfl
    exact Prod.ext hends rfl
  | response l =>
    -- a reply looks at the ends of the waiting requests only
    have hreverse (a : Link) : isReverse { l with line := g l.line } { a with line := g a.line } =
        isReverse l a := rfl
    simp only [step, Record.renumber, renumber, List.any_map, List.eraseP_map, Function.comp_def,
      hreverse]
    split <;> rfl
  | note n =>
    have hbody : body { n with line := g n.line } = (body n).map (Finding.renumber g) := by
      unfold body Note.isBody
      dsimp only
      split
      · split
        · rfl
        · split <;> rfl
      · rfl
    have hstarted : (c.renumber g).started = c.started := rfl
    refine Prod.ext ?_ rfl
    simp only [step, Record.renumber, hbody, hstarted, List.map_append, List.map_map]
    split <;> rfl

/-- A run of records with other numbers. -/
theorem run_renumber (c : Context) (rs : List Record) :
    (c.renumber g).run (rs.map (Record.renumber g)) = (c.run rs).map (Finding.renumber g) := by
  induction rs generalizing c with
  | nil => rfl
  | cons r rs ih => simp only [List.map_cons, run, step_renumber, ih, List.map_append]

end Context

end Check

end SequenceApi
