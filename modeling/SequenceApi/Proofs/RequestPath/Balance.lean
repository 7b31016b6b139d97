import SequenceApi.Diagram.Check
import SequenceApi.Proofs.RequestPath.Nesting

/-!
# Balanced braces

The check of a path counts the open braces of its template, and breaks off at a brace that closes
none. The templates that pass are those whose braces are a bracket word: a word that is put together
from pairs of brackets, by nesting and by joining.

A count of open braces does not say which of them a brace closes. So what is left of a text is not
read as a bracket word by itself, but behind as many opening braces as the count says. A brace that
closes then makes a pair with the last of these, in the middle of a word; and a bracket word stays
one if a pair is put anywhere into it.

## Main definitions

* `RequestPath.IsBracketWord`: the bracket words
* `RequestPath.braces`: the braces of a text
* `RequestPath.issues`: what is reported about a path

## Main results

* `RequestPath.IsBracketWord.insert`: a pair in the middle of a bracket word
* `RequestPath.isBalanced_iff`: the texts that the count accepts
* `RequestPath.template_spec`: the template is what comes before the first question mark
* `RequestPath.issues_exact`: which issues are reported about a path, and in which order
-/

namespace SequenceApi.RequestPath

open Text

/-! ## Bracket words -/

/-- A word of brackets that close each other. -/
inductive IsBracketWord : List Char → Prop where
  | nil : IsBracketWord []
  | nest {w : List Char} (h : IsBracketWord w) : IsBracketWord ('\x7b' :: (w ++ ['\x7d']))
  | join {v w : List Char} (hv : IsBracketWord v) (hw : IsBracketWord w) : IsBracketWord (v ++ w)

/-- A pair of brackets can be put anywhere into a bracket word. -/
theorem IsBracketWord.insert {u v : List Char} (h : IsBracketWord (u ++ v)) :
    IsBracketWord (u ++ '\x7b' :: '\x7d' :: v) := by
  have hpair : IsBracketWord ['\x7b', '\x7d'] := nest nil
  -- Induction on the word: the pair comes before it, behind it or into one of its parts.
  generalize hword : u ++ v = word at h
  induction h generalizing u v with
  | nil =>
    obtain ⟨rfl, rfl⟩ := List.append_eq_nil_iff.1 hword
    exact hpair
  | @nest w h ih =>
    rcases List.append_eq_cons_iff.1 hword with ⟨rfl, rfl⟩ | ⟨u, rfl, hrest⟩
    · have hjoin := join hpair (nest h)
      exact hjoin
    · rcases List.eq_nil_or_concat v with rfl | ⟨v, c, rfl⟩
      · rw [List.append_nil] at hrest
        exact hrest ▸ join (nest h) hpair
      · -- the pair is inside the outer brackets, since something is left behind it
        rw [List.concat_eq_append, ← List.append_assoc] at hrest
        obtain ⟨rfl, hc⟩ := List.append_inj' hrest rfl
        rw [List.concat_eq_append, ← hc]
        simpa using nest (ih rfl)
  | join hv hw ihv ihw =>
    rcases List.append_eq_append_iff.1 hword with ⟨s, rfl, rfl⟩ | ⟨s, rfl, rfl⟩
    · simpa using join (ihv rfl) hw
    · simpa using join hv (ihw rfl)

/-- The count of open braces is the same behind a bracket word as before it. -/
theorem IsBracketWord.isBalanced_append {w : List Char} (h : IsBracketWord w) :
    ∀ (depth : Nat) (rest : List Char), isBalanced depth (w ++ rest) = isBalanced depth rest := by
  induction h with
  | nil => exact fun depth rest => rfl
  | nest h ih =>
    intro depth rest
    rw [List.cons_append, List.append_assoc, isBalanced_open, ih, List.singleton_append,
      isBalanced_close]
  | join hv hw ihv ihw =>
    intro depth rest
    rw [List.append_assoc, ihv, ihw]

/-! ## The braces of a text -/

/-- The braces of a text, in order. -/
def braces (cs : List Char) : List Char :=
  cs.filter fun c => c == '\x7b' || c == '\x7d'

theorem braces_open (cs : List Char) : braces ('\x7b' :: cs) = '\x7b' :: braces cs := rfl

theorem braces_close (cs : List Char) : braces ('\x7d' :: cs) = '\x7d' :: braces cs := rfl

theorem braces_cons {c : Char} (ho : c ≠ '\x7b') (hc : c ≠ '\x7d') (cs : List Char) :
    braces (c :: cs) = braces cs := by
  simp [braces, ho, hc]

/-- Only the braces of a text count. -/
theorem isBalanced_braces (depth : Nat) (cs : List Char) :
    isBalanced depth (braces cs) = isBalanced depth cs := by
  induction cs generalizing depth with
  | nil => rfl
  | cons c cs ih =>
    by_cases ho : c = '\x7b'
    · rw [ho, braces_open, isBalanced_open, isBalanced_open, ih]
    · by_cases hc : c = '\x7d'
      · rw [hc, braces_close]
        cases depth with
        | zero => rfl
        | succ depth => rw [isBalanced_close, isBalanced_close, ih]
      · rw [braces_cons ho hc, isBalanced_cons depth cs ho hc, ih]

/-- What is accepted with some braces open makes a bracket word with these in front. -/
theorem isBracketWord_of_isBalanced {depth : Nat} {cs : List Char}
    (h : isBalanced depth cs = true) :
    IsBracketWord (List.replicate depth '\x7b' ++ braces cs) := by
  -- Induction on the text, with any number of open braces: it changes from character to character.
  induction cs generalizing depth with
  | nil =>
    obtain rfl : depth = 0 := by simpa [isBalanced] using h
    exact .nil
  | cons c cs ih =>
    by_cases ho : c = '\x7b'
    · -- one more brace is open, and stands last among those in front
      rw [ho, isBalanced_open] at h
      rw [ho, braces_open]
      simpa [List.replicate_succ'] using ih h
    · by_cases hc : c = '\x7d'
      · rw [hc] at h ⊢
        cases depth with
        | zero => cases h
        | succ depth =>
          -- the last of the open braces is closed here, and the two are a pair
          rw [isBalanced_close] at h
          rw [braces_close]
          simpa [List.replicate_succ'] using (ih h).insert
      · rw [isBalanced_cons depth cs ho hc] at h
        rw [braces_cons ho hc]
        exact ih h

/-- The count accepts the texts whose braces are a bracket word. -/
theorem isBalanced_iff {cs : List Char} : isBalanced 0 cs = true ↔ IsBracketWord (braces cs) := by
  constructor
  · exact isBracketWord_of_isBalanced
  · intro h
    have happend := h.isBalanced_append 0 []
    rw [List.append_nil, isBalanced_braces] at happend
    rw [happend]
    rfl

/-! ## Templates -/

/-- The template is what comes before the first question mark. -/
theorem template_spec (path : String) :
    '?' ∉ (template path).toList ∧
      (path = template path ∨ ∃ query, path = template path ++ "?" ++ query) := by
  by_cases hmem : '?' ∈ path.toList
  · obtain ⟨cs, ds, hpath, hcs⟩ := List.eq_append_cons_of_mem hmem
    have htemplate : template path = String.ofList cs := by
      rw [template, templateChars, hpath, cut_append_of_not_mem hcs]
    rw [htemplate, String.toList_ofList]
    refine ⟨hcs, .inr ⟨String.ofList ds, String.toList_inj.1 ?_⟩⟩
    simp [hpath]
  · have htemplate : template path = path := by
      rw [template, templateChars, cut_of_not_mem hmem, String.ofList_toList]
    rw [htemplate]
    exact ⟨hmem, .inl rfl⟩

/-- A template has no query to lose. -/
theorem templateChars_template (path : String) :
    templateChars (template path).toList = templateChars path.toList := by
  rw [templateChars, cut_of_not_mem (template_spec path).1, template, String.toList_ofList]

/-! ## Faults and issues -/

/-- The text has the fault. -/
def HasFault (cs : List Char) : PathFault → Prop
  | .doubleBrace => ['\x7b', '\x7b'] <:+: cs
  | .unmatchedBrace => ¬ IsBracketWord (braces cs)
  | .adjacentGroups => ['\x7d', '\x7b'] <:+: cs

theorem mem_faults_iff {path : String} {f : PathFault} :
    f ∈ faults path ↔ HasFault (template path).toList f := by
  rw [template, String.toList_ofList]
  cases f with
  | doubleBrace => simp [faults, HasFault, occurs_iff_isInfix]
  | unmatchedBrace => simp [faults, HasFault, ← isBalanced_iff]
  | adjacentGroups => simp [faults, HasFault, occurs_iff_isInfix]

/-- Each fault is found at most once, and always in the same order. -/
theorem faults_sublist (path : String) :
    (faults path).Sublist [.doubleBrace, .unmatchedBrace, .adjacentGroups] := by
  show (faults path).Sublist ([.doubleBrace] ++ [.unmatchedBrace] ++ [.adjacentGroups])
  refine List.Sublist.append (List.Sublist.append ?_ ?_) ?_
  all_goals split <;> simp

/-- A path has the faults of its template. -/
theorem faults_template (path : String) : faults (template path) = faults path := by
  rw [faults, faults, templateChars_template]

/-- What the check of a diagram reports about a path on a line. -/
def issues (n : Nat) (path : String) : List Issue :=
  (Check.path n path).map Finding.issue

theorem messages_issues (n : Nat) (path : String) :
    (issues n path).map Issue.message = (faults path).map DiagramFault.pathMessage := by
  rw [issues, Check.path, List.map_map, List.map_map]
  rfl

theorem pathMessage_injective : Function.Injective DiagramFault.pathMessage := by
  intro f g
  cases f <;> cases g <;> decide

theorem pathMessage_mem_issues_iff {n : Nat} {path : String} {f : PathFault} :
    DiagramFault.pathMessage f ∈ (issues n path).map Issue.message ↔
      HasFault (template path).toList f := by
  rw [messages_issues, List.mem_map_of_injective pathMessage_injective, mem_faults_iff]

/-- **Braces of a path.** A path is reported for two opening braces in a row, for braces that are no
bracket word, and for a group right behind another one, each if its template is so and at most once,
in this order. All these are errors at the path's line, and nothing else is reported. What comes
from the first question mark on shows in the context of an error only. -/
theorem issues_exact (n : Nat) (path : String) :
    ('?' ∉ (template path).toList ∧
        (path = template path ∨ ∃ query, path = template path ++ "?" ++ query)) ∧
      ("Double braces detected in path" ∈ (issues n path).map Issue.message ↔
        ['\x7b', '\x7b'] <:+: (template path).toList) ∧
      ("Unmatched brace in path" ∈ (issues n path).map Issue.message ↔
        ¬ IsBracketWord (braces (template path).toList)) ∧
      ("Adjacent path parameters detected" ∈ (issues n path).map Issue.message ↔
        ['\x7d', '\x7b'] <:+: (template path).toList) ∧
      ((issues n path).map Issue.message).Sublist
        ["Double braces detected in path", "Unmatched brace in path",
          "Adjacent path parameters detected"] ∧
      (∀ i ∈ issues n path, i.checker = .diagram ∧ i.severity = .error ∧ i.line = some n ∧
        i.context = .str path) ∧
      issues n path =
        (issues n (template path)).map fun i => { i with context := .str path } := by
  refine ⟨template_spec path, pathMessage_mem_issues_iff (f := .doubleBrace),
    pathMessage_mem_issues_iff (f := .unmatchedBrace),
    pathMessage_mem_issues_iff (f := .adjacentGroups), ?_, ?_, ?_⟩
  · rw [messages_issues]
    exact (faults_sublist path).map DiagramFault.pathMessage
  · intro i hi
    obtain ⟨finding, hfinding, rfl⟩ := List.mem_map.1 hi
    obtain ⟨f, -, rfl⟩ := List.mem_map.1 hfinding
    exact ⟨rfl, rfl, rfl, rfl⟩
  · rw [issues, issues, Check.path, Check.path, faults_template, List.map_map, List.map_map,
      List.map_map]
    rfl

theorem issues_of_open_group :
    "Unmatched brace in path" ∈ (issues 3 "/\x7ba?\x7d").map Issue.message ∧
      ¬ IsBracketWord (braces (template "/\x7ba?\x7d").toList) ∧
      ∃ i ∈ issues 3 "/\x7ba?\x7d", i.severity = .error ∧ i.context = .str "/\x7ba?\x7d" := by
  obtain ⟨-, -, hunmatched, -, -, herrors, -⟩ := issues_exact 3 "/\x7ba?\x7d"
  have hmem : "Unmatched brace in path" ∈ (issues 3 "/\x7ba?\x7d").map Issue.message := by decide
  obtain ⟨i, hi, -⟩ := List.mem_map.1 hmem
  obtain ⟨-, hseverity, -, hcontext⟩ := herrors i hi
  exact ⟨hmem, hunmatched.1 hmem, i, hi, hseverity, hcontext⟩

/-- Two opening braces in a row are reported before a brace that is never closed, not after it. -/
theorem double_braces_before_unmatched :
    (issues 1 "/\x7b\x7ba\x7d").map Issue.message =
        ["Double braces detected in path", "Unmatched brace in path"] ∧
      ¬ ((issues 1 "/\x7b\x7ba\x7d").map Issue.message).Sublist
        ["Unmatched brace in path", "Double braces detected in path",
          "Adjacent path parameters detected"] := by
  decide

end SequenceApi.RequestPath
