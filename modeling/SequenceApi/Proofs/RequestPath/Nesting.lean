import SequenceApi.Proofs.RequestPath

/-!
# Groups inside groups

A path is without a fault if each brace of its template is closed, no two of them open together, and
no group begins right behind another one. That does not make every group a placeholder. A
placeholder reaches from an opening brace to the first closing one, and has a name: so a group
inside another one is a part of a name, and a group without a name is passed over. Apart from these
two there is a placeholder for each opening brace.

## Main definitions

* `RequestPath.pathNames`: the names of the parameters of a template
* `RequestPath.nesting`: how many braces are open at a time
* `RequestPath.IsTemplate`: a text that is made of literal pieces and placeholders

## Main results

* `RequestPath.groups_induction`: the groups of a text, one after another
* `RequestPath.isTemplate_of_flat`, `RequestPath.isTemplate_of_length`,
  `RequestPath.IsTemplate.spec`: the balanced texts that are made of literal pieces and placeholders
* `RequestPath.placeholders_of_faultless`: the parameters of a template without a fault
-/

namespace SequenceApi

/-- The name of a parameter of a template. -/
def Parameter.pathName? : Parameter → Option String
  | .path name => some name
  | .query .. => none

namespace RequestPath

open Text

/-- The names of the parameters of a path's template. -/
def pathNames (path : String) : List String :=
  (parameters path).filterMap Parameter.pathName?

/-- The greatest number of braces that are open at a time, where `depth` are open at the start. -/
def nesting : Nat → List Char → Nat
  | depth, [] => depth
  | depth, c :: cs =>
    if c == '\x7b' then nesting (depth + 1) cs
    else if c == '\x7d' then max depth (nesting (depth - 1) cs)
    else nesting depth cs

/-! ## One group after another -/

theorem groups_cons_of_ne {c : Char} (h : c ≠ '\x7b') (cs : List Char) :
    groups (c :: cs) = groups cs := by
  rw [groups, allMatches, groupHere?_of_ne h]
  rfl

/-- A group without a name is no placeholder. -/
theorem groups_empty (rest : List Char) : groups ('\x7b' :: '\x7d' :: rest) = groups rest := by
  have hhere : groupHere? ('\x7b' :: '\x7d' :: rest) = none := rfl
  rw [groups, allMatches, hhere]
  exact groups_cons_of_ne (by decide) rest

/-- A group with a name, up to the first closing brace. -/
theorem groups_group {name : List Char} (hne : name ≠ []) (hclosing : '\x7d' ∉ name)
    (rest : List Char) :
    groups ('\x7b' :: (name ++ '\x7d' :: rest)) = name :: groups rest := by
  have hdrop : ('\x7b' :: (name ++ '\x7d' :: rest)).drop (name.length + 2) = rest := by
    rw [List.drop_succ_cons, List.drop_append, List.drop_eq_nil_of_le (by omega)]
    simp
  rw [groups, allMatches_of_some (groupHere?_group hne hclosing rest), hdrop]
  rfl

/-- Without a closing brace there is no group. -/
theorem groups_of_not_mem {cs : List Char} (h : '\x7d' ∉ cs) : groups cs = [] := by
  induction cs with
  | nil => rfl
  | cons c cs ih =>
    have hcs : '\x7d' ∉ cs := fun hmem => h (List.mem_cons_of_mem c hmem)
    by_cases hc : c = '\x7b'
    · have hhere : groupHere? (c :: cs) = none := by
        rw [hc, groupHere?, cut_of_not_mem hcs]
      rw [groups, allMatches, hhere]
      exact ih hcs
    · rw [groups_cons_of_ne hc, ih hcs]

/-- Groups by induction: what holds of a text without closing braces, and is kept by one more
character in front that opens no group, by a group without a name and by a group with one, holds of
every text and its groups. -/
theorem groups_induction {P : List Char → List (List Char) → Prop}
    (unclosed : ∀ cs, '\x7d' ∉ cs → P cs [])
    (skip : ∀ c cs, c ≠ '\x7b' → P cs (groups cs) → P (c :: cs) (groups cs))
    (empty : ∀ rest, P rest (groups rest) → P ('\x7b' :: '\x7d' :: rest) (groups rest))
    (group : ∀ name rest, name ≠ [] → '\x7d' ∉ name → P rest (groups rest) →
      P ('\x7b' :: (name ++ '\x7d' :: rest)) (name :: groups rest)) (cs : List Char) :
    P cs (groups cs) := by
  -- Induction on the length: behind a group the rest of the text is shorter.
  induction hn : cs.length using Nat.strong_induction_on generalizing cs with
  | _ n ih =>
    by_cases hclosing : '\x7d' ∈ cs
    · cases cs with
      | nil => cases hclosing
      | cons c cs =>
        by_cases hc : c = '\x7b'
        · subst hc
          have hmem : '\x7d' ∈ cs := by simpa using hclosing
          obtain ⟨name, rest, rfl, hname⟩ := List.eq_append_cons_of_mem hmem
          have hrest : P rest (groups rest) := by
            refine ih rest.length ?_ rest rfl
            simp only [List.length_cons, List.length_append] at hn
            omega
          by_cases hne : name = []
          · subst hne
            rw [List.nil_append, groups_empty]
            exact empty rest hrest
          · rw [groups_group hne hname]
            exact group name rest hne hname hrest
        · rw [groups_cons_of_ne hc]
          exact skip c cs hc (ih cs.length (by simp [← hn]) cs rfl)
    · rw [groups_of_not_mem hclosing]
      exact unclosed cs hclosing

/-- A placeholder has a name, and ends at the first closing brace. -/
theorem ne_nil_of_mem_groups {cs name : List Char} (h : name ∈ groups cs) :
    name ≠ [] ∧ '\x7d' ∉ name := by
  revert name
  refine groups_induction (P := fun _ names => ∀ {name}, name ∈ names → name ≠ [] ∧ '\x7d' ∉ name)
    ?_ ?_ ?_ ?_ cs
  · intro cs hcs name h
    cases h
  · exact fun c cs hc ih => ih
  · exact fun rest ih => ih
  · intro name rest hne hname ih name' h
    rcases List.mem_cons.1 h with rfl | h
    · exact ⟨hne, hname⟩
    · exact ih h

/-- Each placeholder has an opening brace of its own. -/
theorem length_groups_le (cs : List Char) : (groups cs).length ≤ cs.count '\x7b' := by
  refine groups_induction (P := fun cs names => names.length ≤ cs.count '\x7b') ?_ ?_ ?_ ?_ cs
  · exact fun cs hcs => Nat.zero_le _
  · intro c cs hc ih
    rwa [List.count_cons_of_ne hc]
  · intro rest ih
    rw [List.count_cons_self, List.count_cons_of_ne (by decide)]
    omega
  · intro name rest hne hname ih
    rw [List.length_cons, List.count_cons_self, List.count_append,
      List.count_cons_of_ne (by decide)]
    omega

/-! ## Braces of a template -/

section Steps

variable (depth : Nat) (cs : List Char)

theorem nesting_open : nesting depth ('\x7b' :: cs) = nesting (depth + 1) cs := rfl

theorem nesting_close : nesting depth ('\x7d' :: cs) = max depth (nesting (depth - 1) cs) := rfl

theorem isBalanced_open : isBalanced depth ('\x7b' :: cs) = isBalanced (depth + 1) cs := by
  simp [isBalanced]

theorem isBalanced_close : isBalanced (depth + 1) ('\x7d' :: cs) = isBalanced depth cs := rfl

variable {c : Char} (ho : c ≠ '\x7b') (hc : c ≠ '\x7d')
include ho hc

theorem nesting_cons : nesting depth (c :: cs) = nesting depth cs := by
  rw [nesting, if_neg (by simpa using ho), if_neg (by simpa using hc)]

theorem isBalanced_cons : isBalanced depth (c :: cs) = isBalanced depth cs := by
  simp [isBalanced, ho, hc]

end Steps

theorem le_nesting (depth : Nat) (cs : List Char) : depth ≤ nesting depth cs := by
  induction cs generalizing depth with
  | nil => exact Nat.le_refl depth
  | cons c cs ih =>
    by_cases ho : c = '\x7b'
    · rw [ho, nesting_open]
      exact Nat.le_of_succ_le (ih (depth + 1))
    · by_cases hc : c = '\x7d'
      · rw [hc, nesting_close]
        exact Nat.le_max_left ..
      · rw [nesting_cons depth cs ho hc]
        exact ih depth

/-- Before the next closing brace, one more brace opens. -/
theorem lt_nesting_of_mem {name : List Char} (hclosing : '\x7d' ∉ name) (hopening : '\x7b' ∈ name)
    (depth : Nat) (rest : List Char) : depth < nesting depth (name ++ rest) := by
  induction name with
  | nil => cases hopening
  | cons c name ih =>
    obtain ⟨hc, hclosing⟩ := List.ne_and_not_mem_of_not_mem_cons hclosing
    rw [List.cons_append]
    by_cases ho : c = '\x7b'
    · rw [ho, nesting_open]
      exact le_nesting (depth + 1) _
    · rw [nesting_cons depth _ ho (Ne.symm hc)]
      exact ih hclosing ((List.mem_cons.1 hopening).resolve_left (Ne.symm ho))

section Plain

variable {cs : List Char} (hopening : '\x7b' ∉ cs) (hclosing : '\x7d' ∉ cs) (depth : Nat)
  (rest : List Char)
include hopening hclosing

/-- Text without braces opens and closes nothing. -/
theorem nesting_append : nesting depth (cs ++ rest) = nesting depth rest := by
  induction cs with
  | nil => rfl
  | cons c cs ih =>
    obtain ⟨ho, hopening⟩ := List.ne_and_not_mem_of_not_mem_cons hopening
    obtain ⟨hc, hclosing⟩ := List.ne_and_not_mem_of_not_mem_cons hclosing
    rw [List.cons_append, nesting_cons depth _ (Ne.symm ho) (Ne.symm hc), ih hopening hclosing]

theorem isBalanced_append : isBalanced depth (cs ++ rest) = isBalanced depth rest := by
  induction cs with
  | nil => rfl
  | cons c cs ih =>
    obtain ⟨ho, hopening⟩ := List.ne_and_not_mem_of_not_mem_cons hopening
    obtain ⟨hc, hclosing⟩ := List.ne_and_not_mem_of_not_mem_cons hclosing
    rw [List.cons_append, isBalanced_cons depth _ (Ne.symm ho) (Ne.symm hc), ih hopening hclosing]

/-- A group without another one inside opens one brace and closes it. -/
theorem nesting_group :
    nesting depth ('\x7b' :: (cs ++ '\x7d' :: rest)) = max (depth + 1) (nesting depth rest) := by
  rw [nesting_open, nesting_append hopening hclosing, nesting_close, Nat.add_sub_cancel]

theorem isBalanced_group :
    isBalanced depth ('\x7b' :: (cs ++ '\x7d' :: rest)) = isBalanced depth rest := by
  rw [isBalanced_open, isBalanced_append hopening hclosing, isBalanced_close]

end Plain

/-- What opens without a closing brace behind it is never closed. -/
theorem not_mem_of_isBalanced {cs : List Char} (hclosing : '\x7d' ∉ cs) :
    ∀ {depth}, isBalanced depth cs = true → '\x7b' ∉ cs ∧ depth = 0 := by
  induction cs with
  | nil =>
    intro depth h
    exact ⟨List.not_mem_nil, by simpa [isBalanced] using h⟩
  | cons c cs ih =>
    intro depth h
    obtain ⟨hc, hclosing⟩ := List.ne_and_not_mem_of_not_mem_cons hclosing
    by_cases ho : c = '\x7b'
    · rw [ho, isBalanced_open] at h
      exact absurd (ih hclosing h).2 (Nat.succ_ne_zero depth)
    · rw [isBalanced_cons depth cs ho (Ne.symm hc)] at h
      obtain ⟨hopening, hdepth⟩ := ih hclosing h
      exact ⟨List.not_mem_cons_of_ne_of_not_mem (Ne.symm ho) hopening, hdepth⟩

/-- The first brace of a balanced text opens a group. -/
theorem ne_closing_of_isBalanced {c : Char} {cs : List Char}
    (h : isBalanced 0 (c :: cs) = true) : c ≠ '\x7d' := by
  rintro rfl
  cases h

/-! ## Templates of pieces -/

/-- The text is the template of some pieces. -/
def IsTemplate (cs : List Char) : Prop :=
  ∃ segments, (templateText segments).toList = cs

theorem isTemplate_of_isPlain {cs : List Char} (h : IsPlain cs) : IsTemplate cs := by
  refine ⟨[.literal (String.ofList cs) (by simpa using h)], ?_⟩
  simp [templateText, Segment.text]

theorem IsTemplate.cons {c : Char} {cs : List Char} (hc : IsPlain [c]) (h : IsTemplate cs) :
    IsTemplate (c :: cs) := by
  obtain ⟨segments, rfl⟩ := h
  refine ⟨.literal (String.ofList [c]) (by simpa using hc) :: segments, ?_⟩
  rw [toList_templateText_cons, Segment.text, String.toList_ofList, List.singleton_append]

theorem IsTemplate.group {name rest : List Char} (hne : name ≠ []) (hname : IsPlain name)
    (h : IsTemplate rest) : IsTemplate ('\x7b' :: (name ++ '\x7d' :: rest)) := by
  obtain ⟨segments, rfl⟩ := h
  refine ⟨.placeholder (String.ofList name) (by simpa using hname) (by simpa using hne) :: segments,
    ?_⟩
  rw [toList_templateText_cons]
  simp [Segment.text]

/-- A balanced text is made of literal pieces and placeholders if it has a property that passes on
from a text to what is left of it behind a character or a group, and that admits neither groups
without a name nor groups with an opening brace inside. -/
theorem isTemplate_of_groups {Q : List Char → List (List Char) → Prop} {cs : List Char}
    (hquery : '?' ∉ cs) (hbalanced : isBalanced 0 cs = true) (h : Q cs (groups cs))
    (skip : ∀ c cs names, c ≠ '\x7b' → c ≠ '\x7d' → Q (c :: cs) names → Q cs names)
    (empty : ∀ rest, ¬ Q ('\x7b' :: '\x7d' :: rest) (groups rest))
    (group : ∀ name rest, name ≠ [] → '\x7d' ∉ name →
      Q ('\x7b' :: (name ++ '\x7d' :: rest)) (name :: groups rest) →
        '\x7b' ∉ name ∧ Q rest (groups rest)) : IsTemplate cs := by
  -- Along the groups the text stays balanced, so what comes next opens a group or has no brace.
  revert hquery hbalanced h
  refine groups_induction (P := fun cs names => '?' ∉ cs → isBalanced 0 cs = true → Q cs names →
    IsTemplate cs) ?_ ?_ ?_ ?_ cs
  · intro cs hclosing hquery hbalanced _
    exact isTemplate_of_isPlain ⟨(not_mem_of_isBalanced hclosing hbalanced).1, hclosing, hquery⟩
  · intro c cs ho ih hquery hbalanced h
    obtain ⟨hquestion, hquery⟩ := List.ne_and_not_mem_of_not_mem_cons hquery
    have hc := ne_closing_of_isBalanced hbalanced
    rw [isBalanced_cons 0 cs ho hc] at hbalanced
    have hplain : IsPlain [c] :=
      ⟨by simpa using Ne.symm ho, by simpa using Ne.symm hc, by simpa using hquestion⟩
    exact (ih hquery hbalanced (skip c cs _ ho hc h)).cons hplain
  · intro rest _ _ _ h
    exact absurd h (empty rest)
  · intro name rest hne hclosing ih hquery hbalanced h
    obtain ⟨hopening, hrest⟩ := group name rest hne hclosing h
    have hquestion : '?' ∉ name := fun hmem => hquery (by simp [hmem])
    have hquery : '?' ∉ rest := fun hmem => hquery (by simp [hmem])
    rw [isBalanced_group hopening hclosing] at hbalanced
    exact (ih hquery hbalanced hrest).group hne ⟨hopening, hclosing, hquestion⟩

/-- A pair of braces does not begin with another character. -/
theorem occurs_cons_of_ne {c : Char} (h : c ≠ '\x7b') (cs : List Char) :
    occurs ['\x7b', '\x7d'] (c :: cs) = occurs ['\x7b', '\x7d'] cs := by
  simp [occurs, startsHere, Ne.symm h]

theorem occurs_append {cs : List Char} (hopening : '\x7b' ∉ cs) (rest : List Char) :
    occurs ['\x7b', '\x7d'] (cs ++ rest) = occurs ['\x7b', '\x7d'] rest := by
  induction cs with
  | nil => rfl
  | cons c cs ih =>
    obtain ⟨ho, hopening⟩ := List.ne_and_not_mem_of_not_mem_cons hopening
    rw [List.cons_append, occurs_cons_of_ne (Ne.symm ho), ih hopening]

/-- A group with a name is no pair of braces. -/
theorem occurs_group {name : List Char} (hne : name ≠ []) (hopening : '\x7b' ∉ name)
    (hclosing : '\x7d' ∉ name) (rest : List Char) :
    occurs ['\x7b', '\x7d'] ('\x7b' :: (name ++ '\x7d' :: rest)) =
      occurs ['\x7b', '\x7d'] rest := by
  have hstart : startsHere ['\x7b', '\x7d'] ('\x7b' :: (name ++ '\x7d' :: rest)) = false := by
    obtain ⟨c, name, rfl⟩ := List.exists_cons_of_ne_nil hne
    have hc := (List.ne_and_not_mem_of_not_mem_cons hclosing).1
    simp [startsHere, List.isPrefixOf, hc]
  rw [occurs, hstart, Bool.false_or, occurs_append hopening, occurs_cons_of_ne (by decide)]

/-- A balanced template in which no brace opens inside a group, and no group is empty, is made of
literal pieces and placeholders. -/
theorem isTemplate_of_flat {cs : List Char} (hquery : '?' ∉ cs)
    (hbalanced : isBalanced 0 cs = true) (hempty : occurs ['\x7b', '\x7d'] cs = false)
    (hflat : nesting 0 cs ≤ 1) : IsTemplate cs := by
  refine isTemplate_of_groups (Q := fun cs _ => occurs ['\x7b', '\x7d'] cs = false ∧
    nesting 0 cs ≤ 1) hquery hbalanced ⟨hempty, hflat⟩ ?_ ?_ ?_
  · intro c cs _ ho hc h
    rwa [occurs_cons_of_ne ho, nesting_cons 0 cs ho hc] at h
  · intro rest h
    simp [occurs, startsHere] at h
  · intro name rest hne hclosing h
    have hopening : '\x7b' ∉ name := by
      intro hmem
      have hlt := lt_nesting_of_mem hclosing hmem 1 ('\x7d' :: rest)
      exact absurd h.2 (Nat.not_le.2 hlt)
    rw [occurs_group hne hopening hclosing, nesting_group hopening hclosing] at h
    exact ⟨hopening, h.1, le_trans (Nat.le_max_right ..) h.2⟩

/-- A balanced template with as many placeholders as opening braces is made of literal pieces and
placeholders. -/
theorem isTemplate_of_length {cs : List Char} (hquery : '?' ∉ cs)
    (hbalanced : isBalanced 0 cs = true) (hlength : (groups cs).length = cs.count '\x7b') :
    IsTemplate cs := by
  refine isTemplate_of_groups (Q := fun cs names => names.length = cs.count '\x7b') hquery
    hbalanced hlength ?_ ?_ ?_
  · intro c cs names ho hc h
    rwa [List.count_cons_of_ne ho] at h
  · intro rest h
    -- a group without a name has a brace, and is no placeholder
    have hle := length_groups_le rest
    rw [List.count_cons_self, List.count_cons_of_ne (by decide)] at h
    omega
  · intro name rest hne hclosing h
    have hle := length_groups_le rest
    rw [List.length_cons, List.count_cons_self, List.count_append,
      List.count_cons_of_ne (by decide)] at h
    exact ⟨List.count_eq_zero.1 (by omega), by omega⟩

/-- What a template of pieces has instead of the exceptions: a placeholder for each opening brace,
no group inside another one, and no group without a name. -/
theorem IsTemplate.spec {cs : List Char} (h : IsTemplate cs) :
    ((groups cs).length = cs.count '\x7b' ∧ ∀ name ∈ groups cs, '\x7b' ∉ name) ∧
      occurs ['\x7b', '\x7d'] cs = false ∧ nesting 0 cs ≤ 1 := by
  obtain ⟨segments, rfl⟩ := h
  rw [groups_templateText]
  -- Induction on the pieces: each adds its own group or none.
  induction segments with
  | nil => decide
  | cons s segments ih =>
    obtain ⟨⟨hlength, hnames⟩, hempty, hflat⟩ := ih
    rw [toList_templateText_cons]
    cases s with
    | literal s h =>
      have hcount : s.toList.count '\x7b' = 0 := List.count_eq_zero.2 h.opening
      rw [Segment.text, occurs_append h.opening, nesting_append h.opening h.closing,
        List.count_append, hcount, Nat.zero_add]
      exact ⟨⟨hlength, hnames⟩, hempty, hflat⟩
    | placeholder name h hne =>
      have htext : (Segment.placeholder name h hne).text.toList ++ (templateText segments).toList =
          '\x7b' :: (name.toList ++ '\x7d' :: (templateText segments).toList) := by
        simp [Segment.text]
      have hcount : name.toList.count '\x7b' = 0 := List.count_eq_zero.2 h.opening
      rw [htext, occurs_group (by simpa using hne) h.opening h.closing,
        nesting_group h.opening h.closing, List.count_cons_self, List.count_append, hcount,
        List.count_cons_of_ne (by decide)]
      refine ⟨⟨?_, ?_⟩, hempty, Nat.max_le.2 ⟨Nat.le_refl 1, hflat⟩⟩
      · simpa [Segment.name?] using hlength
      · simpa [Segment.name?, h.opening] using hnames

/-! ## Paths without a fault -/

theorem pathNames_eq (path : String) :
    pathNames path = (groups (templateChars path.toList)).map String.ofList := by
  have hquery : (queryParameters (queryChars path.toList)).filterMap Parameter.pathName? = [] := by
    rw [List.filterMap_eq_nil_iff]
    intro p hp
    rw [queryParameters] at hp
    split at hp
    · cases hp
    · obtain ⟨pair, -, hpair⟩ := List.mem_filterMap.1 hp
      simp only [pairParameter?] at hpair
      split at hpair
      · cases hpair
      · rw [← Option.some.inj hpair]
        rfl
  rw [pathNames, parameters, List.filterMap_append, hquery, List.nil_append, List.filterMap_map]
  exact List.filterMap_eq_map' ▸ rfl

theorem isBalanced_of_faultless {path : String} (h : faults path = []) :
    isBalanced 0 (templateChars path.toList) = true := by
  rw [faults, List.append_eq_nil_iff, List.append_eq_nil_iff] at h
  have hbalanced := h.1.2
  split at hbalanced
  · next hb => exact hb
  · cases hbalanced

/-- **Placeholders of a template without a fault.** Each has a name without a closing brace, and
there are at most as many as opening braces. There are just as many, with names that hold no brace,
if and only if no group is empty and no brace opens inside a group. -/
theorem placeholders_of_faultless {path : String} (h : faults path = []) :
    (∀ name ∈ pathNames path, name ≠ "" ∧ '\x7d' ∉ name.toList) ∧
      (pathNames path).length ≤ (template path).toList.count '\x7b' ∧
      (((pathNames path).length = (template path).toList.count '\x7b' ∧
          ∀ name ∈ pathNames path, name ≠ "" ∧ '\x7b' ∉ name.toList ∧ '\x7d' ∉ name.toList) ↔
        occurs ['\x7b', '\x7d'] (template path).toList = false ∧
          nesting 0 (template path).toList ≤ 1) := by
  have hquery : '?' ∉ templateChars path.toList := not_mem_of_cut rfl
  have hbalanced := isBalanced_of_faultless h
  rw [pathNames_eq, List.length_map, template, String.toList_ofList]
  have hnames : ∀ name ∈ (groups (templateChars path.toList)).map String.ofList,
      name ≠ "" ∧ '\x7d' ∉ name.toList := by
    intro name hname
    obtain ⟨cs, hcs, rfl⟩ := List.mem_map.1 hname
    obtain ⟨hne, hclosing⟩ := ne_nil_of_mem_groups hcs
    rw [String.toList_ofList]
    exact ⟨by simpa using hne, hclosing⟩
  refine ⟨hnames, length_groups_le _, ?_⟩
  constructor
  · rintro ⟨hlength, -⟩
    exact (isTemplate_of_length hquery hbalanced hlength).spec.2
  · rintro ⟨hempty, hflat⟩
    obtain ⟨hlength, hopening⟩ := (isTemplate_of_flat hquery hbalanced hempty hflat).spec.1
    refine ⟨hlength, fun name hname => ?_⟩
    obtain ⟨hne, hclosing⟩ := hnames name hname
    obtain ⟨cs, hcs, rfl⟩ := List.mem_map.1 hname
    refine ⟨hne, ?_, hclosing⟩
    rw [String.toList_ofList]
    exact hopening cs hcs

theorem placeholders_of_faultless_path :
    faults "/users/\x7bid\x7d/orders/\x7border\x7d?x=\x7by" = [] ∧
      pathNames "/users/\x7bid\x7d/orders/\x7border\x7d?x=\x7by" = ["id", "order"] ∧
      (pathNames "/users/\x7bid\x7d/orders/\x7border\x7d?x=\x7by").length =
        (template "/users/\x7bid\x7d/orders/\x7border\x7d?x=\x7by").toList.count '\x7b' := by
  have hfaultless : faults "/users/\x7bid\x7d/orders/\x7border\x7d?x=\x7by" = [] := by decide
  have hflat := (placeholders_of_faultless hfaultless).2.2.2 (by decide)
  exact ⟨hfaultless, by decide, hflat.1⟩

/-- A brace that opens inside a group is a part of its name, and a group without a name is no
placeholder. -/
theorem placeholders_of_nested_group :
    (faults "/\x7ba\x7bb\x7d\x7d" = [] ∧ pathNames "/\x7ba\x7bb\x7d\x7d" = ["a\x7bb"] ∧
        (pathNames "/\x7ba\x7bb\x7d\x7d").length ≠
          (template "/\x7ba\x7bb\x7d\x7d").toList.count '\x7b') ∧
      faults "/\x7b\x7d" = [] ∧ pathNames "/\x7b\x7d" = [] ∧
        (pathNames "/\x7b\x7d").length ≠ (template "/\x7b\x7d").toList.count '\x7b' := by
  decide

end RequestPath

end SequenceApi
