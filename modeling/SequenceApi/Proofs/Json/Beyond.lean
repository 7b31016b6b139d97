import Mathlib.Data.List.Find
import SequenceApi.Proofs.Json.RoundTrip

/-!
# Texts that go on behind a value

A lexeme is read from its own characters: what comes before it matters only for its place, and what
comes behind it does not matter if no word or number goes on there. So a text with a value has the
same value without the blanks before it; and with a character behind it that neither is white space
nor goes on with a word or number, it has more than a value.

## Main definitions

* `Json.IsReadAlone`: a string is read from its own characters
* `Json.IsStray`: no lexeme starts with a character

## Main results

* `Json.isReadAlone_of_strBody`, `Json.number?_append`, `Json.word?_append`: strings, numbers and
  words in a longer text
* `Json.lexemeAt_append`, `Json.run_append`: lexemes, and the machine, in a longer text
* `Json.readChars_skipBlanks`: a value without the blanks before it
* `Json.readChars_append`: a value with more text behind it
-/

namespace SequenceApi.Json

open Text Decimal

/-! ## Strings -/

/-- An escape that stops before its last digit, or with it, ends no string. -/
theorem strBody_cutUnit {start place : Nat} {cs : List Char} (h : cs.length ≤ 4)
    (s : List Char × Nat) : strBody start place ('\\' :: 'u' :: cs) ≠ .ok s := by
  rw [strBody.eq_4]
  · simp
  all_goals
    intros
    subst_vars
    simp only [List.length_cons] at h
    omega

/-- The string is read from its own characters: in a longer text and at another place it is the
same. -/
def IsReadAlone (cs s : List Char) (n : Nat) : Prop :=
  n ≤ cs.length ∧ ∀ start place ds, strBody start place (cs ++ ds) = .ok (s, n)

theorem exists_of_map_ok {ε α β : Type} {f : α → β} {e : Except ε α} {b : β}
    (h : e.map f = .ok b) : ∃ a, e = .ok a ∧ f a = b := by
  cases e with
  | error _ => cases h
  | ok a => exact ⟨a, rfl, Except.ok.inj h⟩

/-- One more character of a string, written with `k` characters. -/
theorem IsReadAlone.of_map {cs rest s : List Char} {n k : Nat} {c : Char}
    {e : Except (Fault × Nat) (List Char × Nat)}
    (h : (e.map fun (s, n) => (c :: s, n + k)) = .ok (s, n))
    (ih : ∀ {s n}, e = .ok (s, n) → IsReadAlone rest s n) (hlength : cs.length = rest.length + k)
    (hstep : ∀ start place ds, strBody start place (cs ++ ds) =
      (strBody start (place + k) (rest ++ ds)).map fun (s, n) => (c :: s, n + k)) :
    IsReadAlone cs s n := by
  obtain ⟨⟨s, n⟩, hbody, heq⟩ := exists_of_map_ok h
  obtain ⟨rfl, rfl⟩ := Prod.mk.inj heq
  obtain ⟨hle, hrest⟩ := ih hbody
  refine ⟨by omega, fun start place ds => ?_⟩
  rw [hstep, hrest]
  rfl

/-- Two escapes that are no pair at the end of a text become none if more text comes. -/
theorem not_pair_append {start place : Nat} {x : Char} {rest ds : List Char}
    {s : List Char × Nat} (hbody : strBody start place (x :: rest) = .ok s)
    (hpair : ∀ e f g h y rest', x = '\\' → rest = 'u' :: e :: f :: g :: h :: y :: rest' → False)
    (e f g h y : Char) (rest' : List Char) (hx : x = '\\') :
    rest ++ ds ≠ 'u' :: e :: f :: g :: h :: y :: rest' := by
  intro hrest
  subst hx
  cases rest with
  | nil => simp [strBody] at hbody
  | cons u r =>
    obtain ⟨rfl, hr⟩ := List.cons.inj hrest
    by_cases hlength : r.length ≤ 4
    · exact strBody_cutUnit hlength s hbody
    · -- all that makes the pair would be there without the text behind it
      have hpairPrefix : [e, f, g, h, y] <+: r ++ ds := ⟨rest', hr.symm⟩
      obtain ⟨r', rfl⟩ := List.prefix_of_prefix_length_le hpairPrefix (List.prefix_append r ds)
        (Nat.lt_of_not_le hlength)
      exact hpair e f g h y r' rfl rfl

theorem isReadAlone_of_strBody {start place : Nat} {cs s : List Char} {n : Nat}
    (h : strBody start place cs = .ok (s, n)) : IsReadAlone cs s n := by
  -- Induction along the reader: only what is no fault goes on.
  fun_induction strBody start place cs generalizing s n with
  | case1 | case2 | case3 | case7 | case9 | case10 | case11 | case14 => cases h
  | case4 place a b c d e f g x y rest high hhigh hs low hlow hl ih =>
    refine .of_map h ih rfl fun start place ds => ?_
    simp only [List.cons_append]
    rw [strBody.eq_2, hhigh]
    dsimp only
    rw [if_pos hs, hlow]
    dsimp only
    rw [if_pos hl]
  | case5 place a b c d e f g x y rest high hhigh hs low hlow hl ih =>
    refine .of_map h ih rfl fun start place ds => ?_
    simp only [List.cons_append]
    rw [strBody.eq_2, hhigh]
    dsimp only
    rw [if_pos hs, hlow]
    dsimp only
    rw [if_neg hl]
  | case6 place a b c d e f g x y rest high hhigh hs ih =>
    refine .of_map h ih rfl fun start place ds => ?_
    simp only [List.cons_append]
    rw [strBody.eq_2, hhigh]
    dsimp only
    rw [if_neg hs]
  | case8 place a b c d x rest hpair code hcode ih =>
    obtain ⟨_, hbody, -⟩ := exists_of_map_ok h
    refine .of_map h ih rfl fun start place ds => ?_
    simp only [List.cons_append]
    rw [strBody.eq_3, hcode]
    exact not_pair_append hbody hpair
  | case12 place c rest hlong hunit hu x hx ih =>
    exact .of_map h ih rfl fun start place ds => strBody_short start place hu hx
  | case13 place c rest hlong hunit hu hend hescape hquote =>
    obtain ⟨rfl, rfl⟩ := Prod.mk.inj (Except.ok.inj h)
    obtain rfl := eq_of_beq hquote
    refine ⟨Nat.succ_le_succ (Nat.zero_le _), fun start place ds => ?_⟩
    rw [List.cons_append, strBody.eq_7]
    · rfl
    all_goals
      intros
      contradiction
  | case15 place c rest hlong hunit hu hend hescape hquote hcontrol ih =>
    have hplain : c ≠ '\\' := by
      intro hc
      cases rest with
      | nil => exact hend hc rfl
      | cons d rest => exact hescape d rest hc rfl
    refine .of_map h ih rfl fun start place ds => ?_
    exact strBody_plain start place (by simpa using hquote) hplain (Nat.le_of_not_lt hcontrol)

/-! ## Words and numbers

A word or number goes up to the first character that belongs to none, and no further text changes
that. -/

theorem length_digitsOf_le (cs : List Char) : (digitsOf cs).length ≤ cs.length :=
  (List.takeWhile_prefix isDigit).length_le

theorem length_wholePart_le (cs : List Char) : (wholePart cs).length ≤ cs.length := by
  rw [wholePart.eq_def]
  split
  · exact Nat.succ_le_succ (Nat.zero_le _)
  · exact length_digitsOf_le cs

/-- Digits that count only with the marks before them. -/
theorem length_marked_le (marks : Nat) (cs : List Char) :
    (if (digitsOf cs).isEmpty then 0 else marks + (digitsOf cs).length) ≤ cs.length + marks := by
  have hle := length_digitsOf_le cs
  split <;> omega

theorem length_points_le (cs : List Char) :
    (if (fractionPart cs).isEmpty then 0 else (fractionPart cs).length + 1) ≤ cs.length := by
  rw [fractionPart.eq_def]
  split
  · next r =>
    rw [Nat.add_comm]
    exact length_marked_le 1 r
  · exact Nat.zero_le _

theorem length_powers_le (cs : List Char) :
    (if (exponentPart cs).2.1.isEmpty then 0
      else (exponentPart cs).2.2 + (exponentPart cs).2.1.length) ≤ cs.length := by
  rw [exponentPart.eq_def]
  split
  · next e r =>
    split
    · split
      · next r => exact length_marked_le 2 r
      · next r => exact length_marked_le 2 r
      · exact length_marked_le 1 r
    · exact Nat.zero_le _
  · exact Nat.zero_le _

section

variable {t : List Char} (ht : Stops t)
include ht

theorem digitsOf_append_stops (cs : List Char) : digitsOf (cs ++ t) = digitsOf cs := by
  induction cs with
  | nil =>
    have hnil : AreDigits [] := fun _ hc => absurd hc List.not_mem_nil
    exact digitsOf_append hnil ht.isDigit
  | cons c cs ih =>
    rw [digitsOf, digitsOf] at ih ⊢
    rw [List.cons_append, List.takeWhile_cons, List.takeWhile_cons, ih]

/-- A character of a word or number that comes first is there without the text behind it. -/
theorem exists_of_append_eq_cons {c : Char} (hc : isAtomChar c = true) {cs r : List Char}
    (h : cs ++ t = c :: r) : ∃ r', cs = c :: r' ∧ r = r' ++ t := by
  rcases List.append_eq_cons_iff.1 h with ⟨-, rfl⟩ | ⟨r', hcs, hr⟩
  · rw [ht c rfl] at hc
    cases hc
  · exact ⟨r', hcs, hr⟩

theorem wholePart_append_stops (cs : List Char) : wholePart (cs ++ t) = wholePart cs := by
  rw [wholePart.eq_def]
  split
  · next h =>
    obtain ⟨r, rfl, -⟩ := exists_of_append_eq_cons ht rfl h
    rfl
  · next h =>
    rw [digitsOf_append_stops ht, wholePart.eq_2]
    rintro r rfl
    exact h (r ++ t) rfl

theorem fractionPart_append_stops (cs : List Char) : fractionPart (cs ++ t) = fractionPart cs := by
  rw [fractionPart.eq_def]
  split
  · next h =>
    obtain ⟨r, rfl, rfl⟩ := exists_of_append_eq_cons ht rfl h
    exact digitsOf_append_stops ht r
  · next h =>
    rw [fractionPart.eq_2]
    rintro r rfl
    exact h (r ++ t) rfl

theorem exponentPart_append_stops (cs : List Char) : exponentPart (cs ++ t) = exponentPart cs := by
  cases cs with
  | nil => exact exponentPart_of_stops ht
  | cons e r =>
    rw [List.cons_append, exponentPart.eq_def, exponentPart.eq_def]
    dsimp only
    split
    · -- the digits come behind a sign, or at once
      split
      · next h =>
        obtain ⟨r, rfl, rfl⟩ := exists_of_append_eq_cons ht rfl h
        exact congrArg (true, ·, 2) (digitsOf_append_stops ht r)
      · next h =>
        obtain ⟨r, rfl, rfl⟩ := exists_of_append_eq_cons ht rfl h
        exact congrArg (false, ·, 2) (digitsOf_append_stops ht r)
      · next hminus hplus =>
        rw [digitsOf_append_stops ht]
        split
        · exact absurd rfl (hminus _)
        · exact absurd rfl (hplus _)
        · rfl
    · rfl

/-- A number is read from its own characters. -/
theorem number?_append (cs : List Char) : number? (cs ++ t) = number? cs := by
  have hhead : ((cs ++ t).head? == some '-') = (cs.head? == some '-') := by
    cases cs with
    | nil =>
      cases t with
      | nil => rfl
      | cons c t =>
        have hc : c ≠ '-' := by
          rintro rfl
          exact absurd (ht '-' rfl) (by decide)
        simp [hc]
    | cons c cs => rfl
  have hsigns : (if cs.head? == some '-' then 1 else 0) ≤ cs.length := by
    cases cs with
    | nil => exact Nat.le_refl 0
    | cons c cs =>
      rw [List.length_cons]
      split <;> omega
  simp only [number?, hhead]
  generalize (if cs.head? == some '-' then 1 else 0) = signs at hsigns ⊢
  generalize (cs.head? == some '-') = negative
  have hwhole := length_wholePart_le (cs.drop signs)
  rw [List.length_drop] at hwhole
  rw [List.drop_append_of_le_length hsigns, wholePart_append_stops ht]
  generalize wholePart (cs.drop signs) = whole at hwhole ⊢
  have hpoints := length_points_le (cs.drop (signs + whole.length))
  rw [List.drop_append_of_le_length (by omega), fractionPart_append_stops ht]
  generalize cs.drop (signs + whole.length) = rest at hpoints ⊢
  rw [List.drop_append_of_le_length hpoints, exponentPart_append_stops ht]

theorem isPrefixOf_append_stops {w : List Char} (hw : ∀ c ∈ w, isAtomChar c = true)
    (cs : List Char) : w.isPrefixOf (cs ++ t) = w.isPrefixOf cs := by
  induction w generalizing cs with
  | nil => rfl
  | cons c w ih =>
    obtain ⟨hc, hw⟩ := List.forall_mem_cons.1 hw
    cases cs with
    | cons d cs => exact congrArg ((c == d) && ·) (ih hw cs)
    | nil =>
      cases t with
      | nil => rfl
      | cons d t =>
        have hne : (c == d) = false := by
          rw [beq_eq_false_iff_ne]
          rintro rfl
          rw [ht c rfl] at hc
          cases hc
        exact congrArg (· && w.isPrefixOf t) hne

/-- A word is read from its own characters. -/
theorem word?_append (cs : List Char) : word? (cs ++ t) = word? cs := by
  have hwords : ∀ w ∈ words, ∀ c ∈ w.1.toList, isAtomChar c = true := by simp [words, isAtomChar]
  have hfind : words.find? (fun w => w.1.toList.isPrefixOf (cs ++ t)) =
      words.find? fun w => w.1.toList.isPrefixOf cs :=
    List.find?_congr fun w hw => isPrefixOf_append_stops ht (hwords w hw) cs
  rw [word?, word?, hfind]

end

/-- A number has no more characters than the text that it starts. -/
theorem length_le_of_number? {cs : List Char} {x : Lexeme} {n : Nat}
    (h : number? cs = some (x, n)) : n ≤ cs.length := by
  simp only [number?] at h
  generalize (if cs.head? == some '-' then 1 else 0) = signs at h
  have hwhole := length_wholePart_le (cs.drop signs)
  generalize wholePart (cs.drop signs) = whole at h hwhole
  rw [List.length_drop] at hwhole
  have hpoints := length_points_le (cs.drop (signs + whole.length))
  generalize fractionPart (cs.drop (signs + whole.length)) = fraction at h hpoints
  generalize (if fraction.isEmpty then 0 else fraction.length + 1) = points at h hpoints
  have hpowers := length_powers_le ((cs.drop (signs + whole.length)).drop points)
  generalize exponentPart ((cs.drop (signs + whole.length)).drop points) = power at h hpowers
  rw [List.length_drop, List.length_drop] at hpowers
  rw [List.length_drop] at hpoints
  by_cases hne : whole.isEmpty = true
  · rw [if_pos hne] at h
    cases h
  · have hpos : 0 < whole.length := List.length_pos_iff.2 (by simpa using hne)
    rw [if_neg hne] at h
    split at h
    · obtain ⟨-, rfl⟩ := Prod.mk.inj (Option.some.inj h)
      omega
    · obtain ⟨-, rfl⟩ := Prod.mk.inj (Option.some.inj h)
      refine Nat.le_trans (Nat.add_le_add_left hpowers _) ?_
      omega

/-- A word has no more characters than the text that it starts. -/
theorem length_le_of_word? {cs : List Char} {x : Lexeme} {n : Nat}
    (h : word? cs = some (x, n)) : n ≤ cs.length := by
  obtain ⟨w, hw, heq⟩ := Option.map_eq_some_iff.1 h
  obtain ⟨-, rfl⟩ := Prod.mk.inj heq
  have hfound : w.1.toList.isPrefixOf cs = true := by simpa using List.find?_some hw
  have hstart : w.1.toList <+: cs := List.isPrefixOf_iff_prefix.1 hfound
  rw [← String.length_toList]
  exact hstart.length_le

/-! ## Lexemes -/

/-- A lexeme is read from its own characters. -/
theorem lexemeAt_append {place n : Nat} {cs : List Char} {x : Lexeme}
    (h : lexemeAt place cs = (x, n)) (hx : x.isLast = false) :
    n ≤ cs.length ∧ ∀ place' t, Stops t → lexemeAt place' (cs ++ t) = (x, n) := by
  unfold lexemeAt at h
  split at h
  case h_7 rest =>
    split at h
    · next s k hbody =>
      obtain ⟨rfl, rfl⟩ := Prod.mk.inj h
      obtain ⟨hle, hread⟩ := isReadAlone_of_strBody hbody
      refine ⟨Nat.succ_le_succ hle, fun place' t _ => ?_⟩
      rw [List.cons_append, lexemeAt, hread]
    · obtain ⟨rfl, -⟩ := Prod.mk.inj h
      cases hx
  case h_8 h1 h2 h3 h4 h5 h6 h7 =>
    cases cs with
    | nil =>
      obtain ⟨rfl, -⟩ := Prod.mk.inj h
      cases hx
    | cons c cs =>
      constructor
      · rcases hword : word? (c :: cs) with _ | ⟨y, k⟩
        · rcases hnumber : number? (c :: cs) with _ | ⟨y, k⟩
          · rw [hword, hnumber] at h
            obtain ⟨rfl, -⟩ := Prod.mk.inj h
            cases hx
          · rw [hword, hnumber] at h
            obtain ⟨rfl, rfl⟩ := Prod.mk.inj h
            exact length_le_of_number? hnumber
        · rw [hword] at h
          obtain ⟨rfl, rfl⟩ := Prod.mk.inj h
          exact length_le_of_word? hword
      · intro place' t ht
        have htail {d : Char} (hd : ∀ tail, c :: cs = d :: tail → False) :
            ∀ tail, c :: cs ++ t = d :: tail → False := by
          intro tail heq
          exact hd cs (congrArg (· :: cs) (List.cons.inj heq).1)
        rw [lexemeAt.eq_8 _ _ (htail h1) (htail h2) (htail h3) (htail h4) (htail h5) (htail h6)
          (htail h7), word?_append ht, number?_append ht, h]
  all_goals
    obtain ⟨rfl, rfl⟩ := Prod.mk.inj h
    exact ⟨Nat.succ_le_succ (Nat.zero_le _), fun _ _ _ => rfl⟩

/-! ## The machine

A place tells only where a fault is: what the machine does with a lexeme that it takes is the same
at another place. -/

section

variable {s s' : State} {place : Nat} {x : Lexeme}

theorem startValue_place {stack : List Frame} (h : startValue stack place x = .ok s')
    (place' : Nat) : startValue stack place' x = .ok s' ∧ x.isLast = false := by
  cases x with
  | stray | badStr _ _ | longInt _ | closeArray | closeObject | comma | colon => cases h
  | _ => exact ⟨h, rfl⟩

theorem startKey_place {fields : List (String × Json)} {stack : List Frame}
    (h : startKey fields stack place x = .ok s') (place' : Nat) :
    startKey fields stack place' x = .ok s' ∧ x.isLast = false := by
  cases x with
  | str _ => exact ⟨h, rfl⟩
  | _ => cases h

/-- A lexeme that is taken is taken at any place, and others can come after it. -/
theorem step_place (h : step s place x = .ok s') (place' : Nat) :
    step s place' x = .ok s' ∧ x.isLast = false := by
  obtain ⟨mode, stack⟩ := s
  cases mode with
  | value => exact startValue_place h place'
  | nextKey fields => exact startKey_place h place'
  | done v => cases h
  | firstItem =>
    simp only [step] at h ⊢
    split at h
    · next hx => exact ⟨by rw [if_pos hx, h], hx ▸ rfl⟩
    · next hx =>
      rw [if_neg hx]
      exact startValue_place h place'
  | firstKey =>
    simp only [step] at h ⊢
    split at h
    · next hx => exact ⟨by rw [if_pos hx, h], hx ▸ rfl⟩
    · next hx =>
      rw [if_neg hx]
      exact startKey_place h place'
  | colon fields key =>
    simp only [step] at h ⊢
    split at h
    · next hx => exact ⟨by rw [if_pos hx, h], hx ▸ rfl⟩
    · cases h
  | afterItem _ | afterField _ =>
    simp only [step] at h ⊢
    split at h
    · next hx => exact ⟨by rw [if_pos hx, h], hx ▸ rfl⟩
    · next hx =>
      split at h
      · next hclose => exact ⟨by rw [if_neg hx, if_pos hclose, h], hclose ▸ rfl⟩
      · cases h

end

/-- At the end of a text with a value, that value is complete. -/
theorem finish_eq_ok_iff {s : State} {length : Nat} {v : Json} :
    finish s length = .ok v ↔ s.mode = .done v := by
  obtain ⟨mode, stack⟩ := s
  cases mode <;> simp [finish]

/-- What completes a value does so before more text, if no word or number goes on there. -/
theorem run_append {length k place : Nat} {s : State} {cs : List Char} {v : Json}
    (hk : k ≤ cs.length) (h : run length s (lexemesFrom k place cs) = .ok v) :
    ∃ s', s'.mode = .done v ∧ ∀ t, Stops t → ∀ length' place',
      run length' s (lexemesFrom k place' (cs ++ t)) =
        run length' s' (lexemesFrom 0 (place' + cs.length) t) := by
  -- Induction on the text: `k` of its characters belong to the lexeme before.
  induction cs generalizing k place s with
  | nil =>
    obtain rfl : k = 0 := Nat.le_zero.1 hk
    exact ⟨s, finish_eq_ok_iff.1 h, fun t _ length' place' => rfl⟩
  | cons c cs ih =>
    have hplace (place' : Nat) : place' + (c :: cs).length = place' + 1 + cs.length := by
      rw [List.length_cons]
      omega
    cases k with
    | succ k =>
      obtain ⟨s', hdone, hrun⟩ := ih (Nat.le_of_succ_le_succ hk) h
      refine ⟨s', hdone, fun t ht length' place' => ?_⟩
      rw [hplace, ← hrun t ht]
      rfl
    | zero =>
      by_cases hc : isSpace c = true
      · rw [lexemesFrom_of_space hc] at h
        obtain ⟨s', hdone, hrun⟩ := ih (Nat.zero_le _) h
        refine ⟨s', hdone, fun t ht length' place' => ?_⟩
        rw [hplace, ← hrun t ht, List.cons_append, lexemesFrom_of_space hc]
      · have hink : isSpace c = false := by simpa using hc
        obtain ⟨x, n, hx⟩ : ∃ x n, lexemeAt place (c :: cs) = (x, n) := ⟨_, _, rfl⟩
        rw [lexemesFrom_of_lexeme hink, hx, run] at h
        split at h
        · next s₁ hstep =>
          -- the lexeme is taken, and so are its own characters alone
          obtain ⟨-, hlast⟩ := step_place hstep 0
          obtain ⟨hle, hread⟩ := lexemeAt_append hx hlast
          rw [hlast, if_neg Bool.false_ne_true] at h
          have hn : n - 1 ≤ cs.length := by
            rw [List.length_cons] at hle
            omega
          obtain ⟨s', hdone, hrun⟩ := ih hn h
          refine ⟨s', hdone, fun t ht length' place' => ?_⟩
          have hread' := hread place' t ht
          rw [List.cons_append] at hread' ⊢
          rw [hplace, ← hrun t ht, lexemesFrom_of_lexeme hink, hread', run,
            (step_place hstep place').1]
          dsimp only
          rw [hlast, if_neg Bool.false_ne_true]
        · cases h

/-! ## Texts -/

/-- A text with a value starts with no byte order mark, and its lexemes lead to that value. -/
theorem readChars_eq_ok_iff {cs : List Char} {v : Json} :
    readChars cs = .ok v ↔
      cs.head? ≠ some '\ufeff' ∧ run cs.length ⟨.value, []⟩ (lexemes cs) = .ok v := by
  rw [readChars]
  split
  · next h => simp [h]
  · next h =>
    rcases run cs.length ⟨.value, []⟩ (lexemes cs) with e | w
    · simp
    · simp [h]

/-- A character with which no lexeme starts. -/
def IsStray (c : Char) : Prop :=
  isSpace c = false ∧ isAtomChar c = false ∧ c ∉ ['[', ']', '\x7b', '\x7d', ',', ':', '\x22']

theorem IsStray.lexemeAt {c : Char} (h : IsStray c) (place : Nat) (cs : List Char) :
    Json.lexemeAt place (c :: cs) = (.stray, 1) := by
  obtain ⟨-, hatom, hmark⟩ := h
  have ht : Stops (c :: cs) := stops_cons hatom cs
  have hword : word? (c :: cs) = none := word?_append ht []
  have hnumber : number? (c :: cs) = none := number?_append ht []
  rw [lexemeAt.eq_8, hword, hnumber]
  · rfl
  all_goals
    rintro tail heq
    obtain ⟨rfl, -⟩ := List.cons.inj heq
    simp at hmark

/-- No value is read where such a character comes next. -/
theorem IsStray.run_ne_ok {c : Char} (h : IsStray c) (length : Nat) (s : State) (place : Nat)
    (cs : List Char) (v : Json) : run length s (lexemesFrom 0 place (c :: cs)) ≠ .ok v := by
  intro hrun
  rw [lexemesFrom_of_lexeme h.1, h.lexemeAt, run] at hrun
  split at hrun
  · next s' hstep => cases (step_place hstep 0).2
  · cases hrun

theorem isStray_byteOrderMark : IsStray '\ufeff' := by
  refine ⟨rfl, rfl, ?_⟩
  decide

/-- Letters lie between the first capital and the last small one. -/
theorem range_of_isAlpha {c : Char} (h : c.isAlpha = true) : 0x41 ≤ c.toNat ∧ c.toNat ≤ 0x7a := by
  rcases Bool.or_eq_true_iff.1 h with hupper | hlower
  · obtain ⟨hlo, hhi⟩ : 'A'.val ≤ c.val ∧ c.val ≤ 'Z'.val := of_decide_eq_true hupper
    exact ⟨hlo, Nat.le_trans hhi (by decide)⟩
  · obtain ⟨hlo, hhi⟩ := Bool.and_eq_true_iff.1 hlower
    exact ⟨Nat.le_trans (by decide) (of_decide_eq_true hlo), of_decide_eq_true hhi⟩

/-- The characters of words and numbers lie between the plus sign and the last letter. -/
theorem range_of_isAtomChar {c : Char} (h : isAtomChar c = true) :
    0x2b ≤ c.toNat ∧ c.toNat ≤ 0x7a := by
  simp only [isAtomChar, Bool.or_eq_true, beq_iff_eq] at h
  rcases h with (((hletter | hdigit) | rfl) | rfl) | rfl
  · have hrange := range_of_isAlpha hletter
    omega
  · obtain ⟨hlo, hhi⟩ := Char.isDigit_iff_toNat.1 hdigit
    exact ⟨Nat.le_trans (by decide) hlo, Nat.le_trans hhi (by decide)⟩
  all_goals decide

/-- A blank that is no white space of texts. -/
theorem isStray_of_isBlank {c : Char} (h : isBlank c = true) (hspace : isSpace c = false) :
    IsStray c := by
  refine ⟨hspace, ?_, fun hmark => ?_⟩
  · rw [← Bool.not_eq_true]
    intro hatom
    have hrange := range_of_isAtomChar hatom
    simp only [isBlank, Bool.or_eq_true, Bool.and_eq_true, decide_eq_true_eq, beq_iff_eq] at h
    omega
  · have hall : (['[', ']', '\x7b', '\x7d', ',', ':', '\x22'].all fun d => !isBlank d) = true := rfl
    have hink := List.all_eq_true.1 hall c hmark
    rw [h] at hink
    cases hink

/-- Before a value come only blanks that are white space of texts. -/
theorem run_skipBlanks {length place : Nat} {s : State} {cs : List Char} {v : Json}
    (h : run length s (lexemesFrom 0 place cs) = .ok v) :
    ∃ place', run length s (lexemesFrom 0 place' (skipBlanks cs)) = .ok v := by
  induction cs generalizing place with
  | nil => exact ⟨place, h⟩
  | cons c cs ih =>
    by_cases hc : isBlank c = true
    · cases hspace : isSpace c with
      | true =>
        rw [lexemesFrom_of_space hspace] at h
        rw [skipBlanks_cons_of_blank hc]
        exact ih h
      | false => exact absurd h ((isStray_of_isBlank hc hspace).run_ne_ok _ _ _ _ _)
    · rw [skipBlanks_cons_of_ink (by simpa using hc)]
      exact ⟨place, h⟩

/-- A value has the same text without the blanks before it. -/
theorem readChars_skipBlanks {cs : List Char} {v : Json} (h : readChars cs = .ok v) :
    readChars (skipBlanks cs) = .ok v := by
  rw [readChars_eq_ok_iff] at h ⊢
  obtain ⟨place, hskip⟩ := run_skipBlanks h.2
  constructor
  · intro hhead
    obtain ⟨rest, hrest⟩ := List.head?_eq_some_iff.1 hhead
    rw [hrest] at hskip
    exact isStray_byteOrderMark.run_ne_ok _ _ _ _ _ hskip
  · -- the place of the text does not matter
    obtain ⟨s', hdone, hrun⟩ := run_append (Nat.zero_le _) hskip
    have hvalue := hrun [] (fun c hc => by cases hc) (skipBlanks cs).length 0
    rw [List.append_nil] at hvalue
    rw [lexemes, hvalue, lexemesFrom, run]
    exact finish_eq_ok_iff.2 hdone

theorem skipBlanks_ne_nil {cs : List Char} {v : Json} (h : readChars cs = .ok v) :
    skipBlanks cs ≠ [] := by
  intro hnil
  have hread := readChars_skipBlanks h
  rw [hnil] at hread
  cases hread

/-- A value with more text behind it. -/
theorem readChars_append {cs : List Char} {v : Json} (h : readChars cs = .ok v) {c : Char}
    (hspace : isSpace c = false) (hatom : isAtomChar c = false) (ds : List Char) :
    readChars (cs ++ c :: ds) =
      .error ((StepError.fault .moreText cs.length).located (cs ++ c :: ds)) := by
  obtain ⟨hhead, hrun⟩ := readChars_eq_ok_iff.1 h
  have hhead' : (cs ++ c :: ds).head? ≠ some '\ufeff' := by
    cases cs with
    | nil => cases h
    | cons d cs => exact hhead
  obtain ⟨s', hdone, hmore⟩ := run_append (Nat.zero_le _) hrun
  have hend : run (cs ++ c :: ds).length ⟨.value, []⟩ (lexemes (cs ++ c :: ds)) =
      .error (.fault .moreText cs.length) := by
    rw [lexemes, hmore _ (stops_cons hatom ds), Nat.zero_add, lexemesFrom_of_lexeme hspace, run,
      step, hdone]
  rw [readChars, if_neg hhead', hend]

/-- A fault behind some characters on one line. -/
theorem located_of_not_mem {cs : List Char} (h : '\n' ∉ cs) (fault : Fault) (ds : List Char) :
    (StepError.fault fault cs.length).located (cs ++ ds) =
      .syntaxError fault 1 (cs.length + 1) cs.length := by
  have hline : cs.reverse.takeWhile (· != '\n') = cs.reverse := by
    rw [List.takeWhile_eq_self_iff]
    intro c hc
    simpa using fun heq : c = '\n' => h (heq ▸ List.mem_reverse.1 hc)
  simp only [StepError.located, lineColumn, List.take_left, List.count_eq_zero_of_not_mem h, hline,
    List.length_reverse, Nat.zero_add]

end SequenceApi.Json
