import SequenceApi.Proofs.Diagram.Agreement
import SequenceApi.Proofs.Diagram.Renumbering
import SequenceApi.Proofs.Document.Origin
import SequenceApi.Proofs.Text.Padding

/-!
# Layout

Blanks around a line, blank lines and comments are for the reader's eye. A text may be laid out anew
with them: what it says stays, and only the numbers of its lines change. So its tokens and records
are those of the text before under their new numbers, and so is all that is made of them. The
documents, which know no lines, are the same.

## Main definitions

* `Relaid`: lines that are laid out anew, with the places to which they go
* `Relaid.newNumber`: the new number of a line

## Main results

* `Relaid.ofLines`, `Relaid.lines`: the tokens and the records of lines that are laid out anew
* `Diagram.documents_renumber`: documents do not depend on the numbers of lines
* `Diagram.layout_is_immaterial`: a text that is laid out anew
-/

namespace SequenceApi

open Text

/-! ## Lines with ink -/

namespace Text

theorem exists_mem_pieces {sep c : Char} {cs : List Char} (hc : c ∈ cs) (hsep : c ≠ sep) :
    ∃ p ∈ pieces sep cs, c ∈ p := by
  induction cs with
  | nil => cases hc
  | cons d ds ih =>
    rw [pieces]
    split
    · next hd =>
      -- the separator itself is not looked for
      have hc : c ∈ ds := (List.mem_cons.1 hc).resolve_left fun heq => hsep (heq ▸ eq_of_beq hd)
      obtain ⟨p, hp, hcp⟩ := ih hc
      exact ⟨p, List.mem_cons_of_mem _ hp, hcp⟩
    · split
      · next hnil => exact absurd hnil (pieces_ne_nil sep ds)
      · next q qs hqs =>
        rcases List.mem_cons.1 hc with rfl | hc
        · exact ⟨c :: q, List.mem_cons_self, List.mem_cons_self⟩
        · obtain ⟨p, hp, hcp⟩ := ih hc
          rw [hqs] at hp
          rcases List.mem_cons.1 hp with rfl | hp
          · exact ⟨d :: p, List.mem_cons_self, List.mem_cons_of_mem d hcp⟩
          · exact ⟨p, List.mem_cons_of_mem _ hp, hcp⟩

end Text

/-- A text that is not blank has a line that is not blank. -/
theorem exists_mem_trimmedLines {text : String} (h : isInked text.toList = true) :
    ∃ l ∈ trimmedLines text, l ≠ [] := by
  obtain ⟨c, hc, hink⟩ := List.any_eq_true.1 h
  have hbreak : c ≠ '\n' := by
    rintro rfl
    cases hink
  obtain ⟨p, hp, hcp⟩ := exists_mem_pieces hc hbreak
  refine ⟨trim p, List.mem_map_of_mem hp, fun hnil => ?_⟩
  rw [trim_eq_nil_iff.1 hnil c hcp] at hink
  cases hink

/-! ## Lines that are laid out anew -/

/-- The lines of a text, as they are written. -/
def writtenLines (text : String) : List (List Char) :=
  pieces '\n' text.toList

/-- The line is blank or a comment. -/
def IsIdle (m : List Char) : Prop :=
  trim m = [] ∨ isComment (trim m) = true

/-- Where lines go if the first of them stays in front, and `f` tells where the others go behind. -/
def behindFirst (f : Nat → Nat) : Nat → Nat
  | 0 => 0
  | k + 1 => f k + 1

/-- Lines that are laid out anew: each gets blanks around it, and blank lines and comments may stand
between them. The function tells where the line at a place goes; places are counted from zero. -/
inductive Relaid : (Nat → Nat) → List (List Char) → List (List Char) → Prop where
  | nil : Relaid id [] []
  /-- A line of the text, padded. -/
  | pad {f : Nat → Nat} {l m : List Char} {ls ms : List (List Char)} :
    IsPadded l m → Relaid f ls ms → Relaid (behindFirst f) (l :: ls) (m :: ms)
  /-- A line that is put in. -/
  | add {f : Nat → Nat} {m : List Char} {ls ms : List (List Char)} :
    IsIdle m → Relaid f ls ms → Relaid (fun k => f k + 1) ls (m :: ms)

namespace Relaid

/-- The new number of a line, if the function tells the new places; numbers are counted from one. -/
def newNumber (f : Nat → Nat) (n : Nat) : Nat :=
  f (n - 1) + 1

variable {f g : Nat → Nat} {ls ms : List (List Char)}

/-- A line is at the place that the function tells. -/
theorem exists_getElem? (h : Relaid f ls ms) {k : Nat} {l : List Char} (hk : ls[k]? = some l) :
    ∃ m, ms[f k]? = some m ∧ IsPadded l m := by
  induction h generalizing k with
  | nil => simp at hk
  | pad hpad _ ih =>
    cases k with
    | zero =>
      obtain rfl := Option.some.inj hk
      exact ⟨_, rfl, hpad⟩
    | succ k => exact ih hk
  | add _ _ ih => exact ih hk

/-- The lines stay in order. -/
theorem lt_of_lt (h : Relaid f ls ms) {j k : Nat} (hjk : j < k) : f j < f k := by
  induction h generalizing j k with
  | nil => exact hjk
  | pad _ _ ih =>
    obtain ⟨k, rfl⟩ := Nat.exists_eq_succ_of_ne_zero (Nat.ne_zero_of_lt hjk)
    cases j with
    | zero => exact Nat.succ_pos _
    | succ j => exact Nat.succ_lt_succ (ih (Nat.lt_of_succ_lt_succ hjk))
  | add _ _ ih => exact Nat.succ_lt_succ (ih hjk)

/-- A line that is not blank is there afterwards. -/
theorem mem_map_trim (h : Relaid f ls ms) {l : List Char} (hl : l ∈ ls.map trim) :
    l ∈ ms.map trim := by
  obtain ⟨p, hp, rfl⟩ := List.mem_map.1 hl
  obtain ⟨k, hk⟩ := List.mem_iff_getElem?.1 hp
  obtain ⟨m, hm, hpad⟩ := h.exists_getElem? hk
  exact List.mem_map.2 ⟨m, List.mem_of_getElem? hm, hpad.trim_eq⟩

/-- The tokens of lines that are laid out anew. The numbers are those of the first lines, and `g`
gives the new number of each line. -/
theorem ofLines (h : Relaid f ls ms) {n i : Nat} (hg : ∀ k, g (n + k) = i + f k) :
    Token.ofLines i (ms.map trim) =
      (Token.ofLines n (ls.map trim)).map (List.map (Token.renumber g)) := by
  induction h generalizing n i with
  | nil => rfl
  | @pad f l m ls ms hpad _ ih =>
    -- the line has its new number, and the lines after it have the next ones
    obtain rfl : g n = i := hg 0
    have hrest := ih (n := n + 1) (i := g n + 1) fun k => by
      rw [Nat.add_assoc, Nat.add_comm 1 k, hg (k + 1), behindFirst, Nat.add_assoc, Nat.add_comm 1]
    simp only [List.map_cons, Token.ofLines, hpad.trim_eq, Token.ofLine_renumber, hrest]
    cases Token.ofLine n (trim l) with
    | error e => rfl
    | ok t => cases Token.ofLines (n + 1) (ls.map trim) <;> cases t <;> rfl
  | @add f m ls ms hidle _ ih =>
    have hrest := ih (n := n) (i := i + 1) fun k => by rw [hg, Nat.add_right_comm, Nat.add_assoc]
    have hnone : Token.ofLine i (trim m) = .ok none := by
      rw [Token.ofLine, if_pos (by simpa [IsIdle] using hidle)]
    simp only [List.map_cons, Token.ofLines, hnone, hrest]
    cases Token.ofLines n (ls.map trim) <;> rfl

/-- The findings and records of lines that are laid out anew. -/
theorem lines (h : Relaid f ls ms) {n i : Nat} (hg : ∀ k, g (n + k) = i + f k) :
    Check.lines i (ms.map trim) =
      ((Check.lines n (ls.map trim)).1.map (Finding.renumber g),
        (Check.lines n (ls.map trim)).2.map (Record.renumber g)) := by
  induction h generalizing n i with
  | nil => rfl
  | @pad f l m ls ms hpad _ ih =>
    obtain rfl : g n = i := hg 0
    have hrest := ih (n := n + 1) (i := g n + 1) fun k => by
      rw [Nat.add_assoc, Nat.add_comm 1 k, hg (k + 1), behindFirst, Nat.add_assoc, Nat.add_comm 1]
    have hentry : Check.entry (g n) (trim l) =
        ((Check.entry n (trim l)).1.map (Finding.renumber g),
          (Check.entry n (trim l)).2.map (Record.renumber g)) := by
      unfold Check.entry
      split
      · rfl
      · exact Check.line_renumber g n _
    simp only [List.map_cons, Check.lines_cons, hpad.trim_eq, hentry, hrest, List.map_append]
    cases (Check.entry n (trim l)).2 <;> rfl
  | @add f m ls ms hidle _ ih =>
    have hrest := ih (n := n) (i := i + 1) fun k => by rw [hg, Nat.add_right_comm, Nat.add_assoc]
    have hnone : Check.entry i (trim m) = ([], none) := by
      rw [Check.entry, if_pos (by simpa [IsIdle] using hidle)]
    simp only [List.map_cons, Check.lines_cons, hnone, hrest]
    rfl

end Relaid

/-! ## Documents without lines -/

namespace Generation

variable {g : Nat → Nat} {settings : Settings}

/-- What counts of a run, apart from its records: the services, or why one has no title. -/
def result (x : Except Failure Generation) : Except TemplateError (Table String Service) :=
  match x with
  | .ok h => .ok h.services
  | .error e => .error e.error

theorem place_renumber (r : Registry) (otherwise : Json) (i : Interaction) :
    (Service.place r otherwise (i.renumber g)).schema = (Service.place r otherwise i).schema ∧
      (Service.place r otherwise (i.renumber g)).registry =
        (Service.place r otherwise i).registry := by
  have hschema : Usage.schema? (i.renumber g) = Usage.schema? i := rfl
  unfold Service.place
  rw [hschema]
  cases Usage.schema? i <;> exact ⟨rfl, rfl⟩

theorem add_renumber (s : Service) (i : Interaction) :
    (s.add settings (i.renumber g)).1 = (s.add settings i).1 := by
  have hreply : (Service.placeReply s.registry (i.renumber g)).schema =
        (Service.placeReply s.registry i).schema ∧
      (Service.placeReply s.registry (i.renumber g)).registry =
        (Service.placeReply s.registry i).registry := by
    unfold Service.placeReply Interaction.renumber
    dsimp only
    split
    · exact ⟨rfl, rfl⟩
    · exact place_renumber ..
  have hrequest (r : Registry) : (Service.placeRequest r (i.renumber g)).schema =
        (Service.placeRequest r i).schema ∧
      (Service.placeRequest r (i.renumber g)).registry = (Service.placeRequest r i).registry := by
    unfold Service.placeRequest Service.hasRequestBody Interaction.renumber
    dsimp only
    split
    · exact place_renumber ..
    · exact ⟨rfl, rfl⟩
  simp only [Service.add, hreply, hrequest]
  rfl

theorem steps_renumber (g : Nat → Nat) (settings : Settings) (usage : Usage)
    (is : List Interaction) : ∀ {g₁ g₂ : Generation}, g₁.services = g₂.services →
      result (g₁.steps settings usage (is.map (Interaction.renumber g))) =
        result (g₂.steps settings usage is) := by
  induction is with
  | nil => exact fun h => congrArg Except.ok h
  | cons i is ih =>
    intro g₁ g₂ h
    have hservice : g₁.service settings usage (i.renumber g).target =
        g₂.service settings usage i.target := by
      unfold Generation.service
      rw [h]
      rfl
    have hpath : (i.renumber g).path = i.path := rfl
    have htarget : (i.renumber g).target = i.target := rfl
    simp only [List.map_cons, steps, step, hpath, htarget] at hservice ⊢
    -- without a path or a target nothing is added, and without a title the run ends
    by_cases hskip : (i.path = "" || i.target = "") = true
    · rw [if_pos hskip, if_pos hskip]
      exact ih h
    · rw [if_neg hskip, if_neg hskip, hservice]
      cases g₂.service settings usage i.target with
      | error e => rfl
      | ok s =>
        refine ih ?_
        dsimp only
        rw [add_renumber, h]

end Generation

/-- Documents do not depend on the numbers of lines. -/
theorem Diagram.documents_renumber (g : Nat → Nat) (settings : Settings) (d : Diagram) :
    (d.renumber g).documents settings = d.documents settings := by
  have hresult (d : Diagram) : d.documents settings =
      (Generation.result (d.blankGeneration.steps settings (Usage.ofInteractions d.interactions)
        d.interactions)).map (List.map fun e =>
          (e.1, e.2.document settings (Generation.tags d.interactions))) := by
    rw [documents_eq]
    cases d.blankGeneration.steps settings (Usage.ofInteractions d.interactions)
      d.interactions <;> rfl
  have husage : Usage.ofInteractions (d.renumber g).interactions =
      Usage.ofInteractions d.interactions := by
    rw [Usage.ofInteractions, renumber, List.foldl_map]
    rfl
  have htags : Generation.tags (d.renumber g).interactions = Generation.tags d.interactions := by
    rw [Generation.tags, renumber, List.flatMap_map]
    rfl
  have hservices : (d.renumber g).blankGeneration.services = d.blankGeneration.services := rfl
  have hsteps := Generation.steps_renumber g settings (Usage.ofInteractions d.interactions)
    d.interactions hservices
  rw [hresult, hresult, husage, htags]
  exact congrArg (Except.map _) hsteps

/-! ## Texts that are laid out anew -/

namespace Diagram

variable {f : Nat → Nat} {text text' : String}

/-- The number of a line is one more than its place. -/
theorem newNumber_succ (f : Nat → Nat) (k : Nat) : Relaid.newNumber f (1 + k) = 1 + f k := by
  rw [Relaid.newNumber, Nat.add_sub_cancel_left, Nat.add_comm]

theorem read_of_relaid (h : Relaid f (writtenLines text) (writtenLines text')) :
    read text' = (read text).map (renumber (Relaid.newNumber f)) := by
  have htokens : Token.read text' =
      (Token.read text).map (List.map (Token.renumber (Relaid.newNumber f))) :=
    h.ofLines (newNumber_succ f)
  rw [read, htokens, read]
  cases Token.read text with
  | error e => rfl
  | ok tokens => exact congrArg Except.ok (ofTokens_renumber _ tokens)

/-- The text must not be blank: that is a fault of its own, which comments would mend. -/
theorem check_of_relaid (h : Relaid f (writtenLines text) (writtenLines text'))
    (hink : isInked text.toList = true) :
    check text' = (check text).renumber (Relaid.newNumber f) := by
  -- the line that is not blank is there in both
  have hink' : isInked text'.toList = true := by
    obtain ⟨l, hl, hne⟩ := exists_mem_trimmedLines hink
    exact isInked_of_mem_trimmedLines (h.mem_map_trim hl) hne
  have hlines : Check.lines 1 (trimmedLines text') =
      ((Check.lines 1 (trimmedLines text)).1.map (Finding.renumber (Relaid.newNumber f)),
        (Check.lines 1 (trimmedLines text)).2.map (Record.renumber (Relaid.newNumber f))) :=
    h.lines (newNumber_succ f)
  have hnames (rs : List Record) :
      (rs.map (Record.renumber (Relaid.newNumber f))).filterMap Check.declaredName? =
        rs.filterMap Check.declaredName? := by
    rw [List.filterMap_map]
    congr 1
    funext r
    cases r <;> rfl
  rw [check, check, ← Finding.report_renumber, Check.findings, Check.findings, if_pos hink,
    if_pos hink', hlines]
  dsimp only
  rw [hnames, List.map_append, ← Check.Context.run_renumber]
  rfl

/-- **Layout.** A text that is not blank is laid out anew: its lines get blanks around them and go
to other places, in their order, among blank lines and comments. It is then read as before, or
refused as before, and interactions and remarks have the new numbers of their lines. The documents
are the same. The check has the same issues in the same order, under the new numbers. -/
theorem layout_is_immaterial (h : Relaid f (writtenLines text) (writtenLines text'))
    (hink : isInked text.toList = true) :
    (∀ (k : Nat) (l : List Char), (writtenLines text)[k]? = some l →
        ∃ m, (writtenLines text')[f k]? = some m ∧ IsPadded l m) ∧
      (∀ j k, j < k → f j < f k) ∧
      read text' = (read text).map (renumber (Relaid.newNumber f)) ∧
      (∀ settings, (read text').map (documents settings) = (read text).map (documents settings)) ∧
      check text' = (check text).renumber (Relaid.newNumber f) := by
  refine ⟨fun k l hk => h.exists_getElem? hk, fun j k => h.lt_of_lt, read_of_relaid h, ?_,
    check_of_relaid h hink⟩
  intro settings
  rw [read_of_relaid h]
  cases read text with
  | error e => rfl
  | ok d => exact congrArg Except.ok (documents_renumber _ settings d)

/-- A text with an orphaned response and a body that is no JSON. -/
def plainText : String :=
  "A->>B: GET /x\nB-->>C: 200\nNote over B: Body: \x7b"

/-- The same text with blanks, a blank line and comments. -/
def spacedText : String :=
  "\t\n  A->>B: GET /x \n%% replies\n\u00a0B-->>C: 200\nNote over B: Body: \x7b\t\n %%"

theorem layout_is_immaterial_of_spacedText :
    ∃ f, Relaid f (writtenLines plainText) (writtenLines spacedText) ∧
      isInked plainText.toList = true ∧ f 0 = 1 ∧ f 1 = 3 ∧ f 2 = 4 ∧
      read spacedText = (read plainText).map (renumber (Relaid.newNumber f)) ∧
      check spacedText = (check plainText).renumber (Relaid.newNumber f) := by
  have hpad (front back : String) (l : String) (hfront : front.toList.all isBlank = true)
      (hback : back.toList.all isBlank = true) :
      IsPadded l.toList (front.toList ++ l.toList ++ back.toList) :=
    ⟨front.toList, back.toList, List.all_eq_true.1 hfront, List.all_eq_true.1 hback, rfl⟩
  have hplain : writtenLines plainText =
      ["A->>B: GET /x".toList, "B-->>C: 200".toList, "Note over B: Body: \x7b".toList] := by
    decide +kernel
  have hspaced : writtenLines spacedText =
      ["\t".toList, "  ".toList ++ "A->>B: GET /x".toList ++ " ".toList, "%% replies".toList,
        "\u00a0".toList ++ "B-->>C: 200".toList ++ "".toList,
        "".toList ++ "Note over B: Body: \x7b".toList ++ "\t".toList, " %%".toList] := by
    decide +kernel
  have hblank : IsIdle "\t".toList := .inl (by decide)
  have hreplies : IsIdle "%% replies".toList := .inr (by decide)
  have hend : IsIdle " %%".toList := .inr (by decide)
  obtain ⟨f, hlaid, h₀, h₁, h₂⟩ : ∃ f, Relaid f (writtenLines plainText) (writtenLines spacedText) ∧
      f 0 = 1 ∧ f 1 = 3 ∧ f 2 = 4 := by
    rw [hplain, hspaced]
    refine ⟨_, .add hblank <| .pad (hpad "  " " " _ ?_ ?_) <| .add hreplies <|
      .pad (hpad "\u00a0" "" _ ?_ ?_) <| .pad (hpad "" "\t" _ ?_ ?_) <| .add hend .nil,
      rfl, rfl, rfl⟩ <;> decide
  have hink : isInked plainText.toList = true := by decide
  obtain ⟨-, -, hread, -, hcheck⟩ := layout_is_immaterial hlaid hink
  exact ⟨f, hlaid, hink, h₀, h₁, h₂, hread, hcheck⟩

end Diagram

end SequenceApi
