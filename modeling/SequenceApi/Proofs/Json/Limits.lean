import Mathlib.Data.List.Infix
import SequenceApi.Proofs.Json.Readable

/-!
# Limits of the reader

Two limits stop the reader at a text that need not be faulty: an integer with too many digits, and
too many open brackets. Both show in the text. The digits of the integer stand there in a row; and
there are more opening brackets than the reader opens at a time, since a container is open at most
once for every bracket that was read.

## Main definitions

* `Json.IsDigitRun`: digits in a row
* `Json.Lexeme.Shows`: what a text has where a lexeme is read
* `Json.State.depth`: the containers that are open
* `Json.Exceeds`: a text goes beyond a limit

## Main results

* `Json.shows_lexemeAt`: a lexeme shows in the text
* `Json.State.depth_step_le`, `Json.deepest_lt_of_run`: the open containers along a run
* `Json.State.breaks_step`: the lexemes at which a limit stops the machine
* `Json.isDigitRun_of_readChars`, `Json.deepest_lt_of_readChars`: what a text has that is beyond a
  limit
-/

namespace SequenceApi.Json

/-! ## Lexemes -/

/-- Somewhere in a text, `n` digits stand in a row. -/
def IsDigitRun (n : Nat) (cs : List Char) : Prop :=
  ∃ ds, ds <:+: cs ∧ ds.length = n ∧ ∀ d ∈ ds, isDigit d = true

theorem IsDigitRun.mono {n : Nat} {cs cs' : List Char} (h : IsDigitRun n cs) (hcs : cs <:+: cs') :
    IsDigitRun n cs' := by
  obtain ⟨ds, hds, hlength, hdigit⟩ := h
  exact ⟨ds, hds.trans hcs, hlength, hdigit⟩

/-- A bracket that opens an array or an object. -/
def isOpening (c : Char) : Bool :=
  c == '[' || c == '\x7b'

/-- A lexeme that opens an array or an object. -/
def Lexeme.isOpening : Lexeme → Bool
  | .openArray | .openObject => true
  | _ => false

/-- A text has what a lexeme at its start stands for: the digits of a long integer, or the bracket
that opens. -/
def Lexeme.Shows (cs : List Char) : Lexeme → Prop
  | .longInt n => longestInteger < n ∧ IsDigitRun n cs
  | .openArray | .openObject => ∃ c ∈ cs.head?, Json.isOpening c = true
  | _ => True

theorem wholePart_isPrefix (cs : List Char) : wholePart cs <+: cs := by
  unfold wholePart
  split
  · exact ⟨_, rfl⟩
  · exact List.takeWhile_prefix isDigit

theorem shows_of_number? {cs : List Char} {x : Lexeme} {k : Nat} (h : number? cs = some (x, k)) :
    x.Shows cs := by
  have hrun : IsDigitRun (wholePart (cs.drop (if cs.head? == some '-' then 1 else 0))).length cs :=
    ⟨_, (wholePart_isPrefix _).isInfix.trans (List.drop_suffix _ cs).isInfix, rfl,
      isDigit_of_mem_wholePart _⟩
  simp only [number?] at h
  generalize (if cs.head? == some '-' then 1 else 0) = signs at h hrun
  generalize wholePart (cs.drop signs) = whole at h hrun
  generalize (cs.head? == some '-') = negative at h
  generalize fractionPart (cs.drop (signs + whole.length)) = fraction at h
  generalize exponentPart _ = power at h
  split at h
  · cases h
  · split at h
    · obtain ⟨rfl, -⟩ := Prod.mk.inj (Option.some.inj h)
      split
      · next hlong => exact ⟨hlong, hrun⟩
      · trivial
    · obtain ⟨rfl, -⟩ := Prod.mk.inj (Option.some.inj h)
      trivial

theorem shows_of_word? {cs : List Char} {x : Lexeme} {k : Nat} (h : word? cs = some (x, k)) :
    x.Shows cs := by
  obtain ⟨w, hw, heq⟩ := Option.map_eq_some_iff.1 h
  obtain ⟨rfl, -⟩ := Prod.mk.inj heq
  have hall : ∀ w ∈ words, w.2.Shows cs := by simp [words, Lexeme.Shows]
  exact hall w (List.mem_of_find?_eq_some hw)

theorem shows_lexemeAt (place : Nat) (cs : List Char) : (lexemeAt place cs).1.Shows cs := by
  unfold lexemeAt
  split <;> try trivial
  · exact ⟨_, rfl, rfl⟩
  · exact ⟨_, rfl, rfl⟩
  · split <;> trivial
  · cases hw : word? cs with
    | some w => exact shows_of_word? hw
    | none =>
      cases hn : number? cs with
      | some x => exact shows_of_number? hn
      | none => trivial

/-- A long integer among the lexemes shows in the text. -/
theorem shows_of_mem_lexemesFrom {q n k place : Nat} {cs : List Char}
    (h : (q, .longInt n) ∈ lexemesFrom k place cs) : longestInteger < n ∧ IsDigitRun n cs := by
  induction cs generalizing k place with
  | nil =>
    rw [lexemesFrom] at h
    cases h
  | cons c cs ih =>
    have hrest : ∀ {k}, (q, .longInt n) ∈ lexemesFrom k (place + 1) cs →
        longestInteger < n ∧ IsDigitRun n (c :: cs) :=
      fun h => (ih h).imp_right (·.mono (List.suffix_cons c cs).isInfix)
    cases k with
    | succ k =>
      rw [lexemesFrom] at h
      exact hrest h
    | zero =>
      cases hc : isSpace c with
      | true =>
        rw [lexemesFrom_of_space hc] at h
        exact hrest h
      | false =>
        rw [lexemesFrom_of_lexeme hc] at h
        rcases List.mem_cons.1 h with h | h
        · have hshows := shows_lexemeAt place (c :: cs)
          rwa [← (Prod.mk.inj h).2] at hshows
        · split at h
          · cases h
          · exact hrest h

theorem isOpening_of_lexemeAt {place : Nat} {c : Char} {cs : List Char}
    (h : (lexemeAt place (c :: cs)).1.isOpening = true) : isOpening c = true := by
  have hshows := shows_lexemeAt place (c :: cs)
  generalize (lexemeAt place (c :: cs)).1 = x at h hshows
  cases x with
  | openArray | openObject =>
    obtain ⟨d, hd, hopening⟩ := hshows
    obtain rfl := Option.some_inj.1 hd
    exact hopening
  | _ => cases h

/-- Every opening lexeme has its own bracket. -/
theorem countP_isOpening_lexemesFrom_le (k place : Nat) (cs : List Char) :
    (lexemesFrom k place cs).countP (·.2.isOpening) ≤ cs.countP isOpening := by
  induction cs generalizing k place with
  | nil => rw [lexemesFrom]; exact Nat.le_refl 0
  | cons c cs ih =>
    have hrest : ∀ k, (lexemesFrom k (place + 1) cs).countP (·.2.isOpening) ≤
        (c :: cs).countP isOpening := fun k =>
      Nat.le_trans (ih k (place + 1)) (List.countP_cons ▸ Nat.le_add_right _ _)
    cases k with
    | succ k =>
      rw [lexemesFrom]
      exact hrest k
    | zero =>
      cases hc : isSpace c with
      | true =>
        rw [lexemesFrom_of_space hc]
        exact hrest 0
      | false =>
        rw [lexemesFrom_of_lexeme hc, List.countP_cons, List.countP_cons]
        refine Nat.add_le_add ?_ ?_
        · split
          · exact Nat.zero_le _
          · exact ih _ _
        · split
          · next hopening => rw [if_pos (isOpening_of_lexemeAt hopening)]
          · exact Nat.zero_le _

/-! ## The machine -/

/-- Inside a container that is not on the stack. -/
def Mode.isInside : Mode → Bool
  | .value | .done _ => false
  | _ => true

/-- The number of containers that are open. -/
def State.depth (s : State) : Nat :=
  s.stack.length + s.mode.isInside.toNat

section

variable {s s' : State} {stack : List Frame} {place : Nat} {x : Lexeme}

theorem depth_complete (v : Json) (stack : List Frame) :
    (State.complete v stack).depth = stack.length := by
  cases stack with
  | nil => rfl
  | cons f stack => cases f <;> rfl

theorem depth_startValue_le (h : startValue stack place x = .ok s) :
    s.depth ≤ stack.length + x.isOpening.toNat := by
  cases x with
  | null | bool _ | int _ | float _ | str _ =>
    obtain rfl := Except.ok.inj h
    exact Nat.le_of_eq (depth_complete _ stack)
  | openArray | openObject =>
    rw [startValue] at h
    split at h
    · cases h
    · obtain rfl := Except.ok.inj h
      exact Nat.le_refl _
  | _ => cases h

theorem depth_startKey_le {fields : List (String × Json)}
    (h : startKey fields stack place x = .ok s) : s.depth ≤ stack.length + 1 := by
  cases x with
  | str key =>
    obtain rfl := Except.ok.inj h
    exact Nat.le_refl _
  | _ => cases h

/-- A lexeme opens at most one container. -/
theorem State.depth_step_le (h : Json.step s place x = .ok s') :
    s'.depth ≤ s.depth + x.isOpening.toNat := by
  obtain ⟨mode, stack⟩ := s
  cases mode with
  | value => exact depth_startValue_le h
  | firstItem =>
    simp only [Json.step] at h
    split at h
    · obtain rfl := Except.ok.inj h
      rw [depth_complete]
      exact Nat.le_add_right_of_le (Nat.le_add_right _ _)
    · exact depth_startValue_le h
  | afterItem items =>
    simp only [Json.step] at h
    split at h
    · obtain rfl := Except.ok.inj h
      exact Nat.le_add_right _ _
    · split at h <;> cases h
      rw [depth_complete]
      exact Nat.le_add_right_of_le (Nat.le_add_right _ _)
  | firstKey =>
    simp only [Json.step] at h
    split at h
    · obtain rfl := Except.ok.inj h
      rw [depth_complete]
      exact Nat.le_add_right_of_le (Nat.le_add_right _ _)
    · exact Nat.le_add_right_of_le (depth_startKey_le h)
  | nextKey fields => exact Nat.le_add_right_of_le (depth_startKey_le h)
  | colon fields key =>
    simp only [Json.step] at h
    split at h <;> cases h
    exact Nat.le_add_right _ _
  | afterField fields =>
    simp only [Json.step] at h
    split at h
    · cases h
      exact Nat.le_add_right _ _
    · split at h <;> cases h
      rw [depth_complete]
      exact Nat.le_add_right_of_le (Nat.le_add_right _ _)
  | done v => cases h

/-- What a lexeme has to be for a limit to stop the reader at it. -/
def Lexeme.Breaks (depth : Nat) (x : Lexeme) : StepError → Prop
  | .fault _ _ => True
  | .longInt n => x = .longInt n
  | .tooDeep _ => deepest ≤ depth ∧ x.isOpening = true

theorem breaks_startValue {e : StepError} (h : startValue stack place x = .error e) :
    x.Breaks stack.length e := by
  cases x with
  | openArray | openObject =>
    rw [startValue] at h
    split at h
    · next hdeep =>
      obtain rfl := Except.error.inj h
      exact ⟨hdeep, rfl⟩
    · cases h
  | longInt n =>
    obtain rfl := Except.error.inj h
    rfl
  | null | bool _ | int _ | float _ | str _ => cases h
  | _ =>
    obtain rfl := Except.error.inj h
    trivial

theorem breaks_startKey {fields : List (String × Json)} {e : StepError} {depth : Nat}
    (h : startKey fields stack place x = .error e) : x.Breaks depth e := by
  cases x with
  | str key => cases h
  | _ =>
    obtain rfl := Except.error.inj h
    trivial

theorem State.breaks_step {e : StepError} (h : Json.step s place x = .error e) :
    x.Breaks s.depth e := by
  obtain ⟨mode, stack⟩ := s
  cases mode with
  | value => exact breaks_startValue h
  | firstItem =>
    simp only [Json.step] at h
    split at h
    · cases h
    · exact breaks_startValue h
  | firstKey =>
    simp only [Json.step] at h
    split at h
    · cases h
    · exact breaks_startKey h
  | nextKey fields => exact breaks_startKey h
  | colon fields key =>
    simp only [Json.step] at h
    split at h <;> cases h
    trivial
  | afterItem items | afterField items =>
    simp only [Json.step] at h
    split at h
    · cases h
    · split at h <;> cases h
      trivial
  | done v =>
    obtain rfl := Except.error.inj h
    trivial

theorem longInt_mem_of_run {length n : Nat} (xs : List (Nat × Lexeme)) :
    ∀ {s : State}, run length s xs = .error (.longInt n) → ∃ q, (q, .longInt n) ∈ xs := by
  -- Induction on the lexemes: only a lexeme stops the machine in this way.
  induction xs with
  | nil =>
    rintro ⟨mode, stack⟩ h
    cases mode <;> cases h
  | cons e xs ih =>
    obtain ⟨q, x⟩ := e
    intro s h
    rw [run] at h
    split at h
    · obtain ⟨q, hq⟩ := ih h
      exact ⟨q, List.mem_cons_of_mem _ hq⟩
    · next hstep =>
      obtain rfl := Except.error.inj h
      obtain rfl : x = .longInt n := State.breaks_step hstep
      exact ⟨q, List.mem_cons_self⟩

/-- The machine stops at too many open containers only when it has read as many brackets. -/
theorem deepest_lt_of_run {length : Nat} {b : Bracket} (xs : List (Nat × Lexeme)) :
    ∀ {s : State}, run length s xs = .error (.tooDeep b) →
      deepest < s.depth + xs.countP (·.2.isOpening) := by
  -- Induction on the lexemes: what a step opens, it has read.
  induction xs with
  | nil =>
    rintro ⟨mode, stack⟩ h
    cases mode <;> cases h
  | cons e xs ih =>
    intro s h
    rw [run] at h
    rw [List.countP_cons]
    split at h
    · next hstep =>
      have hdepth := State.depth_step_le hstep
      have hrest := ih h
      cases he : e.2.isOpening with
      | true =>
        rw [he, Bool.toNat_true] at hdepth
        rw [if_pos rfl]
        omega
      | false =>
        rw [he, Bool.toNat_false] at hdepth
        rw [if_neg Bool.false_ne_true]
        omega
    · next hstep =>
      obtain rfl := Except.error.inj h
      obtain ⟨hdeep, hopening⟩ := State.breaks_step hstep
      rw [if_pos hopening]
      omega

end

/-! ## Texts -/

theorem run_of_readChars {cs : List Char} {e : ReadError} (h : readChars cs = .error e)
    (he : ∀ fault line column place, e ≠ .syntaxError fault line column place) :
    ∃ e', run cs.length ⟨.value, []⟩ (lexemes cs) = .error e' ∧ e'.located cs = e := by
  rw [readChars] at h
  split at h
  · exact absurd (Except.error.inj h).symm (he _ _ _ _)
  · split at h
    · cases h
    · next e' hrun => exact ⟨e', hrun, Except.error.inj h⟩

/-- A text with an integer that is too long has its digits in a row. -/
theorem isDigitRun_of_readChars {cs : List Char} {n : Nat}
    (h : readChars cs = .error (.longInt n)) : longestInteger < n ∧ IsDigitRun n cs := by
  obtain ⟨e, hrun, he⟩ := run_of_readChars h fun _ _ _ _ heq => by cases heq
  cases e with
  | longInt m =>
    obtain rfl := ReadError.longInt.inj he
    obtain ⟨q, hq⟩ := longInt_mem_of_run _ hrun
    exact shows_of_mem_lexemesFrom hq
  | fault f place => cases he
  | tooDeep b => cases he

/-- A text that nests too deep has more opening brackets than may be open. -/
theorem deepest_lt_of_readChars {cs : List Char} {b : Bracket}
    (h : readChars cs = .error (.tooDeep b)) : deepest < cs.countP isOpening := by
  obtain ⟨e, hrun, he⟩ := run_of_readChars h fun _ _ _ _ heq => by cases heq
  cases e with
  | tooDeep b' =>
    have hlt := deepest_lt_of_run _ hrun
    have hle := countP_isOpening_lexemesFrom_le 0 0 cs
    simp only [State.depth, List.length_nil, Mode.isInside, Bool.toNat_false] at hlt
    rw [lexemes] at hlt
    omega
  | fault f place => cases he
  | longInt m => cases he

/-- A text goes beyond the limit at which the reader stops with an error. -/
def Exceeds (cs : List Char) : ReadError → Prop
  | .syntaxError .. => False
  | .longInt n => longestInteger < n ∧ IsDigitRun n cs
  | .tooDeep _ => deepest < cs.countP isOpening

theorem exceeds_of_readChars {cs : List Char} {e : ReadError} (h : readChars cs = .error e)
    (he : ∀ fault line column place, e ≠ .syntaxError fault line column place) : Exceeds cs e := by
  cases e with
  | syntaxError fault line column place => exact absurd rfl (he fault line column place)
  | longInt n => exact isDigitRun_of_readChars h
  | tooDeep b => exact deepest_lt_of_readChars h

/-- A short text goes beyond no limit. -/
theorem not_exceeds {cs : List Char} (h : cs.length ≤ deepest) (e : ReadError) :
    ¬ Exceeds cs e := by
  intro hlimit
  cases e with
  | syntaxError fault line column place => exact hlimit
  | longInt n =>
    obtain ⟨hn, ds, hds, rfl, -⟩ := hlimit
    have hle := hds.length_le
    rw [deepest] at h
    rw [longestInteger] at hn
    omega
  | tooDeep b => exact absurd (Nat.le_trans List.countP_le_length h) (Nat.not_le_of_lt hlimit)

end SequenceApi.Json
