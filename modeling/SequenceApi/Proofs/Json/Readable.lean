import Mathlib.Data.List.TakeWhile
import SequenceApi.Json.Reader
import SequenceApi.Proofs.Number.Canonical
import SequenceApi.Proofs.Table

/-!
# Values that can be read

What is read from a JSON text is a value of a certain kind: its integers are not too long, its other
numbers are rounded, and no object in it has a key twice. Lexemes give numbers of this kind, and the
machine keeps the kind of what it has completed and of every container that is still open.

## Main definitions

* `Json.IsReadable`: a value that a text can have

## Main results

* `Json.fits_of_mem_lexemesFrom`: the numbers of lexemes
* `Json.isReadable_of_readChars`: what is read is of this kind
-/

namespace SequenceApi

/-- What is put together from digits is less than the power of ten that has one digit more. -/
theorem Text.foldl_lt_ten_pow {value : Char → Nat} {cs : List Char} (h : ∀ c ∈ cs, value c < 10) :
    cs.foldl (fun n c => 10 * n + value c) 0 < 10 ^ cs.length := by
  -- Induction on the digits from the last one: the value before it has one digit less.
  induction cs using List.reverseRecOn with
  | nil => exact Nat.one_pos
  | append_singleton cs c ih =>
    have hlt := ih fun d hd => h d (List.mem_append_left _ hd)
    have hc := h c (List.mem_append_right _ List.mem_cons_self)
    rw [List.foldl_append, List.length_append, List.length_singleton, Nat.pow_succ]
    simp only [List.foldl_cons, List.foldl_nil]
    omega

namespace Json

open Text

/-- An integer with no more digits than an integer may have. -/
def IsShort (n : Int) : Prop :=
  (Nat.toDigits 10 n.natAbs).length ≤ longestInteger

/-- A value that a JSON text can have. -/
inductive IsReadable : Json → Prop where
  | null : IsReadable .null
  | bool (b : Bool) : IsReadable (.bool b)
  | int {n : Int} (h : IsShort n) : IsReadable (.int n)
  | float {x : Binary64} (h : x.IsRepresentable) : IsReadable (.float x)
  | str (s : String) : IsReadable (.str s)
  | arr {items : List Json} (h : ∀ v ∈ items, IsReadable v) : IsReadable (.arr items)
  | obj {fields : List (String × Json)} (hd : Table.Distinct fields)
      (h : ∀ e ∈ fields, IsReadable e.2) : IsReadable (.obj fields)

/-! ## Numbers -/

theorem digitsValue_lt {cs : List Char} (h : ∀ c ∈ cs, isDigit c = true) :
    digitsValue cs < 10 ^ cs.length := by
  refine foldl_lt_ten_pow fun c hc => ?_
  have hdigit := h c hc
  simp only [isDigit, Bool.and_eq_true, decide_eq_true_eq, Char.le_def] at hdigit
  have hle : c.toNat ≤ 57 := hdigit.2
  omega

theorem length_toDigits_digitsValue_le {cs : List Char} (h : ∀ c ∈ cs, isDigit c = true)
    (hne : cs ≠ []) : (Nat.toDigits 10 (digitsValue cs)).length ≤ cs.length :=
  (Nat.length_toDigits_le_iff (by decide) (List.length_pos_of_ne_nil hne)).2 (digitsValue_lt h)

theorem isDigit_of_mem_wholePart (cs : List Char) : ∀ c ∈ wholePart cs, isDigit c = true := by
  unfold wholePart
  split
  · simp [isDigit]
  · exact fun c hc => List.mem_takeWhile_imp hc

/-- The number of a lexeme is one that a value may have. -/
def Lexeme.Fits : Lexeme → Prop
  | .int n => IsShort n
  | .float x => x.IsRepresentable
  | _ => True

theorem fits_of_number? {cs : List Char} {x : Lexeme} {n : Nat} (h : number? cs = some (x, n)) :
    x.Fits := by
  have hwhole := isDigit_of_mem_wholePart (cs.drop (if cs.head? == some '-' then 1 else 0))
  simp only [number?] at h
  generalize (if cs.head? == some '-' then 1 else 0) = signs at h hwhole
  generalize wholePart (cs.drop signs) = whole at h hwhole
  generalize (cs.head? == some '-') = negative at h
  generalize fractionPart (cs.drop (signs + whole.length)) = fraction at h
  generalize exponentPart _ = power at h
  by_cases hne : whole.isEmpty = true
  · rw [if_pos hne] at h
    cases h
  · rw [if_neg hne] at h
    split at h
    · obtain ⟨rfl, -⟩ := Prod.mk.inj (Option.some.inj h)
      split
      · trivial
      · next hlong =>
        have hshort : IsShort (digitsValue whole) :=
          Nat.le_trans (length_toDigits_digitsValue_le hwhole (by simpa using hne))
            (Nat.le_of_not_lt hlong)
        split
        · rwa [Lexeme.Fits, IsShort, Int.natAbs_neg]
        · exact hshort
    · obtain ⟨rfl, -⟩ := Prod.mk.inj (Option.some.inj h)
      exact Binary64.ofDecimal_isRepresentable _ _ _

theorem fits_of_word? {cs : List Char} {x : Lexeme} {n : Nat} (h : word? cs = some (x, n)) :
    x.Fits := by
  obtain ⟨w, hw, heq⟩ := Option.map_eq_some_iff.1 h
  obtain ⟨rfl, -⟩ := Prod.mk.inj heq
  have hall : ∀ w ∈ words, w.2.Fits := by
    simp [words, Lexeme.Fits, Binary64.IsRepresentable.nan, Binary64.IsRepresentable.infinite]
  exact hall w (List.mem_of_find?_eq_some hw)

theorem fits_lexemeAt (place : Nat) (cs : List Char) : (lexemeAt place cs).1.Fits := by
  unfold lexemeAt
  split <;> try trivial
  · split <;> trivial
  · cases hw : word? cs with
    | some w => exact fits_of_word? hw
    | none =>
      cases hn : number? cs with
      | some x => exact fits_of_number? hn
      | none => trivial

/-! ## The sequence -/

section

variable {c : Char} {place : Nat}

theorem lexemesFrom_of_space (hc : isSpace c = true) (cs : List Char) :
    lexemesFrom 0 place (c :: cs) = lexemesFrom 0 (place + 1) cs := by
  rw [lexemesFrom, if_pos hc]

theorem lexemesFrom_of_lexeme (hc : isSpace c = false) (cs : List Char) :
    lexemesFrom 0 place (c :: cs) =
      (place, (lexemeAt place (c :: cs)).1) ::
        if (lexemeAt place (c :: cs)).1.isLast then []
        else lexemesFrom ((lexemeAt place (c :: cs)).2 - 1) (place + 1) cs := by
  rw [lexemesFrom, if_neg (by simp [hc])]

end

/-- The numbers of lexemes are those that a value may have. -/
theorem fits_of_mem_lexemesFrom {e : Nat × Lexeme} {k place : Nat} {cs : List Char}
    (h : e ∈ lexemesFrom k place cs) : e.2.Fits := by
  induction cs generalizing k place with
  | nil =>
    rw [lexemesFrom] at h
    cases h
  | cons c cs ih =>
    cases k with
    | succ k =>
      rw [lexemesFrom] at h
      exact ih h
    | zero =>
      cases hc : isSpace c with
      | true =>
        rw [lexemesFrom_of_space hc] at h
        exact ih h
      | false =>
        rw [lexemesFrom_of_lexeme hc] at h
        rcases List.mem_cons.1 h with rfl | h
        · exact fits_lexemeAt place (c :: cs)
        · cases hlast : (lexemeAt place (c :: cs)).1.isLast with
          | true =>
            rw [hlast] at h
            cases h
          | false =>
            rw [hlast] at h
            exact ih h

/-! ## The machine

What is open is on the stack, and what is under way is in the mode. An array has its items so far in
both, and an object its fields, so that the invariant says the same of the two: what is there so far
is a value that a text can have. -/

/-- What an open container has so far can be read. -/
def Frame.IsReadable : Frame → Prop
  | .array items => ∀ v ∈ items, v.IsReadable
  | .object fields _ => Json.IsReadable (.obj fields)

/-- What is read so far can be read. -/
def Mode.IsReadable : Mode → Prop
  | .afterItem items => ∀ v ∈ items, v.IsReadable
  | .nextKey fields | .colon fields _ | .afterField fields => Json.IsReadable (.obj fields)
  | .done v => v.IsReadable
  | .value | .firstItem | .firstKey => True

/-- The container under way and all those around it can be read. -/
structure State.IsReadable (s : State) : Prop where
  mode : s.mode.IsReadable
  stack : ∀ f ∈ s.stack, f.IsReadable

section

variable {stack : List Frame} {s s' : State} {place : Nat} {x : Lexeme}

theorem isReadable_nil : IsReadable (.obj []) :=
  .obj List.nodup_nil (by simp)

theorem IsReadable.distinct {fields : List (String × Json)} (h : IsReadable (.obj fields)) :
    Table.Distinct fields := by
  cases h with
  | obj hd _ => exact hd

theorem IsReadable.field {fields : List (String × Json)} (h : IsReadable (.obj fields))
    {e : String × Json} (he : e ∈ fields) : e.2.IsReadable := by
  cases h with
  | obj _ h => exact h e he

/-- A key that is written again keeps its place. -/
theorem IsReadable.put {fields : List (String × Json)} (h : IsReadable (.obj fields))
    (k : String) {v : Json} (hv : v.IsReadable) : IsReadable (.obj (Table.put k v fields)) :=
  .obj (h.distinct.put k v) (Table.forall_mem_put (fun _ he => h.field he) hv)

theorem State.IsReadable.complete (hs : ∀ f ∈ stack, f.IsReadable) {v : Json}
    (hv : v.IsReadable) : (State.complete v stack).IsReadable := by
  cases stack with
  | nil => exact ⟨hv, by simp [State.complete]⟩
  | cons f stack =>
    obtain ⟨hf, hrest⟩ := List.forall_mem_cons.1 hs
    cases f with
    | array items => exact ⟨List.forall_mem_cons.2 ⟨hv, hf⟩, hrest⟩
    | object fields key => exact ⟨hf.put key hv, hrest⟩

theorem isReadable_startValue (hs : ∀ f ∈ stack, f.IsReadable) (hx : x.Fits)
    (h : startValue stack place x = .ok s) : s.IsReadable := by
  cases x with
  | null =>
    cases h
    exact .complete hs .null
  | bool b =>
    cases h
    exact .complete hs (.bool b)
  | int n =>
    cases h
    exact .complete hs (.int hx)
  | float y =>
    cases h
    exact .complete hs (.float hx)
  | str t =>
    cases h
    exact .complete hs (.str t)
  | openArray | openObject =>
    -- a bracket opens a container
    simp only [startValue] at h
    split at h <;> cases h
    exact ⟨trivial, hs⟩
  | _ => cases h

theorem isReadable_startKey {fields : List (String × Json)} (hf : Json.IsReadable (.obj fields))
    (hs : ∀ f ∈ stack, f.IsReadable) (h : startKey fields stack place x = .ok s) :
    s.IsReadable := by
  unfold startKey at h
  split at h <;> cases h
  exact ⟨hf, hs⟩

/-- One more lexeme. -/
theorem State.IsReadable.step (hs : s.IsReadable) (hx : x.Fits)
    (h : Json.step s place x = .ok s') : s'.IsReadable := by
  obtain ⟨mode, stack⟩ := s
  obtain ⟨hmode, hstack⟩ := hs
  simp only at hmode hstack
  unfold Json.step at h
  cases mode with
  | value => exact isReadable_startValue hstack hx h
  | firstItem =>
    simp only at h
    split at h
    · cases h
      exact .complete hstack (.arr (by simp))
    · have hnew : Frame.IsReadable (.array []) := by simp [Frame.IsReadable]
      exact isReadable_startValue (List.forall_mem_cons.2 ⟨hnew, hstack⟩) hx h
  | afterItem items =>
    simp only at h
    split at h
    · cases h
      exact ⟨trivial, List.forall_mem_cons.2 ⟨hmode, hstack⟩⟩
    · split at h <;> cases h
      exact .complete hstack (.arr fun v hv => hmode v (List.mem_reverse.1 hv))
  | firstKey =>
    simp only at h
    split at h
    · cases h
      exact .complete hstack isReadable_nil
    · exact isReadable_startKey isReadable_nil hstack h
  | nextKey fields => exact isReadable_startKey hmode hstack h
  | colon fields key =>
    simp only at h
    split at h <;> cases h
    exact ⟨trivial, List.forall_mem_cons.2 ⟨hmode, hstack⟩⟩
  | afterField fields =>
    simp only at h
    split at h
    · cases h
      exact ⟨hmode, hstack⟩
    · split at h <;> cases h
      exact .complete hstack hmode
  | done v => cases h

theorem isReadable_run {length : Nat} {v : Json} (xs : List (Nat × Lexeme)) :
    ∀ {s : State}, s.IsReadable → (∀ e ∈ xs, e.2.Fits) → run length s xs = .ok v →
      v.IsReadable := by
  -- Induction on the lexemes: at their end, only a complete value is an answer.
  induction xs with
  | nil =>
    rintro ⟨mode, stack⟩ hs _ h
    unfold run finish at h
    split at h <;> cases h
    next hdone =>
      have hmode := hs.mode
      rwa [hdone] at hmode
  | cons e xs ih =>
    intro s hs hxs h
    obtain ⟨hx, hxs⟩ := List.forall_mem_cons.1 hxs
    unfold run at h
    split at h
    · next hstep => exact ih (hs.step hx hstep) hxs h
    · cases h

/-- What is read can be read. -/
theorem isReadable_of_readChars {cs : List Char} {v : Json} (h : readChars cs = .ok v) :
    v.IsReadable := by
  unfold readChars at h
  split at h
  · cases h
  · split at h
    · next hrun =>
      obtain rfl := Except.ok.inj h
      have hstart : State.IsReadable ⟨.value, []⟩ := ⟨trivial, by simp⟩
      exact isReadable_run _ hstart (fun e he => fits_of_mem_lexemesFrom he) hrun
    · cases h

end

end Json

end SequenceApi
