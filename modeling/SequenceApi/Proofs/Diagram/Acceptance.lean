import SequenceApi.Proofs.Diagram.Payload

/-!
# Texts that the reader refuses

The reader passes over a line that it does not know, and remarks on a body that is no JSON; it
refuses a whole text for one reason only. A method is recognised by case folding, and then looked up
in lower case. The two differ on the long `s` and on the `i` with and without a dot: a word with one
of them can be recognised and is not found. Of all other texts, every line gives its token by
itself, and what is wrong with the rest of the text costs nothing.

## Main definitions

* `Token.IsFolded`: a call whose method is a name by case folding alone

## Main results

* `Method.ofName?_isSome_iff`: which recognised words are found
* `Token.ofLine_eq_error_iff`: which line is refused
* `Token.ofLines_eq_error_iff`: which lines are refused
* `Diagram.read_ok_or_folded`: what becomes of any text
-/

namespace SequenceApi

open Text

/-! ## Words -/

namespace Method

theorem ofName?_name (m : Method) : ofName? m.name = some m := by
  cases m <;> decide

theorem toLower_of_mem_name {m : Method} {p : Char} (h : p ∈ m.name.toList) : p.toLower = p := by
  cases m <;> revert p <;> simp [name]

/-- In ASCII, folding is lower case. -/
theorem toLower_of_sameLetter {p c : Char} (hp : p.toLower = p) (hc : c.toNat < 0x80)
    (h : sameLetter p c = true) : c.toLower = p := by
  simp only [sameLetter, Bool.or_eq_true, Bool.and_eq_true, beq_iff_eq] at h
  rcases h with (((rfl | h) | ⟨-, rfl | rfl⟩) | ⟨-, rfl⟩) | ⟨-, rfl⟩
  · exact hp
  · exact h
  all_goals exact absurd hc (by decide)

/-- Of the words that name a method when case is ignored, those in ASCII have its name in lower
case. -/
theorem ofName?_isSome_iff {w : List Char} (hw : isWord w = true) :
    (ofName? (String.ofList (lower w))).isSome = true ↔ ∀ c ∈ w, c.toNat < 0x80 := by
  constructor
  · intro h c hc
    obtain ⟨m, hm⟩ := Option.isSome_iff_exists.1 h
    exact toNat_lt_of_isLetter (List.all_eq_true.1 (isLetter_of_isWord hw hm) c hc)
  · intro hascii
    obtain ⟨m, -, hm⟩ := List.any_eq_true.1 hw
    have hfold := isKeyword_iff.1 hm
    have hname : w.map Char.toLower = m.name.toList := by
      refine List.ext_getElem (by simp [hfold.length_eq]) fun i hi hj => ?_
      rw [List.getElem_map]
      have hi' : i < w.length := by simpa using hi
      exact toLower_of_sameLetter (toLower_of_mem_name (List.getElem_mem hj))
        (hascii _ (List.getElem_mem hi')) (hfold.get hj hi')
    rw [lower_of_ascii hascii, hname, String.ofList_toList, ofName?_name]
    rfl

end Method

/-! ## Lines -/

namespace Token

/-- The line is a call whose method is a name when case is ignored, but is not written in ASCII. -/
def IsFolded (l verb : List Char) : Prop :=
  isComment l = false ∧
    ∃ a label, Arrow.read l = some a ∧ a.head = .call ∧ CallLabel.read a.label = some label ∧
      label.verb = verb ∧ Method.isWord verb = true ∧ ∃ c ∈ verb, 0x80 ≤ c.toNat

theorem ofArrow?_eq_error_iff {n : Nat} {a : Arrow} {e : UnknownMethod} :
    ofArrow? n a = some (.error e) ↔
      a.head = .call ∧ ∃ label, CallLabel.read a.label = some label ∧
        Method.isWord label.verb = true ∧ (∃ c ∈ label.verb, 0x80 ≤ c.toNat) ∧
        e = ⟨String.ofList (lower label.verb)⟩ := by
  rw [ofArrow?]
  cases a.head with
  | reply => cases ReplyLabel.read a.label <;> simp
  | call =>
    cases CallLabel.read a.label with
    | none => simp
    | some label =>
      cases hw : Method.isWord label.verb with
      | false => simp [hw]
      | true =>
        have hiff := Method.ofName?_isSome_iff hw
        cases hm : Method.ofName? (String.ofList (lower label.verb)) with
        | some m =>
          have hascii : ∀ c ∈ label.verb, c.toNat < 0x80 := hiff.1 (by rw [hm]; rfl)
          have hnone : ¬∃ c ∈ label.verb, 0x80 ≤ c.toNat := by
            rintro ⟨c, hc, hle⟩
            exact absurd (hascii c hc) (Nat.not_lt.2 hle)
          simp [hw, Method.ofWord?, hm, Except.map, hnone]
        | none =>
          have hbeyond : ∃ c ∈ label.verb, 0x80 ≤ c.toNat := by
            by_contra hnone
            have hascii : ∀ c ∈ label.verb, c.toNat < 0x80 := fun c hc =>
              Nat.lt_of_not_le fun h => hnone ⟨c, hc, h⟩
            simpa [hm] using hiff.2 hascii
          simpa [hw, Method.ofWord?, hm, Except.map, hbeyond] using eq_comm

/-- A line is refused for a method that is a name by case folding alone. -/
theorem ofLine_eq_error_iff {n : Nat} {l : List Char} {e : UnknownMethod} :
    ofLine n l = .error e ↔ ∃ verb, IsFolded l verb ∧ e = ⟨String.ofList (lower verb)⟩ := by
  rw [ofLine]
  constructor
  · intro h
    split at h
    · cases h
    · next hink =>
      split at h
      · next result hr =>
        obtain ⟨a, ha, hresult⟩ := Option.bind_eq_some_iff.1 hr
        cases result with
        | ok t => simp [Except.map] at h
        | error e' =>
          obtain rfl : e' = e := by simpa [Except.map] using h
          obtain ⟨hhead, label, hlabel, hw, hc, rfl⟩ := ofArrow?_eq_error_iff.1 hresult
          have hcomment : isComment l = false := by
            simpa using (Bool.or_eq_false_iff.1 (Bool.eq_false_iff.2 hink)).2
          exact ⟨label.verb, ⟨hcomment, a, label, ha, hhead, hlabel, rfl, hw, hc⟩, rfl⟩
      · -- the other kinds of lines are taken or passed over
        split at h <;> cases h
  · rintro ⟨verb, ⟨hcomment, a, label, ha, hhead, hlabel, rfl, hw, hc⟩, rfl⟩
    have hresult := (ofArrow?_eq_error_iff (n := n)).2 ⟨hhead, label, hlabel, hw, hc, rfl⟩
    have hink : (l.isEmpty || isComment l) = false := by
      cases l with
      | nil => cases ha
      | cons c cs => exact hcomment
    rw [if_neg (by simp [hink]), ha, Option.bind_some, hresult]
    rfl

theorem ofLines_cons_of_error {n : Nat} {l : List Char} {e : UnknownMethod}
    (h : ofLine n l = .error e) (ls : List (List Char)) : ofLines n (l :: ls) = .error e := by
  rw [ofLines, h]

theorem ofLines_cons_eq_error_iff {n : Nat} {l : List Char} {o : Option Token} {e : UnknownMethod}
    (h : ofLine n l = .ok o) (ls : List (List Char)) :
    ofLines n (l :: ls) = .error e ↔ ofLines (n + 1) ls = .error e := by
  rw [ofLines, h]
  cases ofLines (n + 1) ls <;> simp

/-- Lines are refused for the first of them that is refused. -/
theorem ofLines_eq_error_iff {n : Nat} {ls : List (List Char)} {e : UnknownMethod} :
    ofLines n ls = .error e ↔
      ∃ (k : Nat) (l : List Char), ls[k]? = some l ∧ ofLine (n + k) l = .error e ∧
        ∀ (j : Nat) (m : List Char), j < k → ls[j]? = some m → ∃ o, ofLine (n + j) m = .ok o := by
  -- Induction on the lines: behind a line that is not refused, all places move by one.
  induction ls generalizing n with
  | nil => simp [ofLines]
  | cons l ls ih =>
    cases ho : ofLine n l with
    | error e' =>
      rw [ofLines_cons_of_error ho]
      constructor
      · intro h
        obtain rfl : e' = e := by simpa using h
        exact ⟨0, l, rfl, ho, fun j m hj => absurd hj (Nat.not_lt_zero j)⟩
      · rintro ⟨k, m, hk, hm, hbefore⟩
        -- the first line is refused, so that none after it is the first
        cases k with
        | zero =>
          obtain rfl : l = m := by simpa using hk
          obtain rfl : e' = e := by simpa using ho.symm.trans hm
          rfl
        | succ k =>
          obtain ⟨o, ho'⟩ := hbefore 0 l (Nat.succ_pos k) rfl
          rw [Nat.add_zero, ho] at ho'
          cases ho'
    | ok o =>
      rw [ofLines_cons_eq_error_iff ho, ih]
      constructor
      · rintro ⟨k, m, hk, hm, hbefore⟩
        refine ⟨k + 1, m, by simpa using hk, by rwa [Nat.add_right_comm, Nat.add_assoc] at hm, ?_⟩
        intro j m' hj hm'
        cases j with
        | zero =>
          obtain rfl : l = m' := by simpa using hm'
          exact ⟨o, ho⟩
        | succ j =>
          obtain ⟨o', ho'⟩ := hbefore j m' (by omega) (by simpa using hm')
          exact ⟨o', by rwa [Nat.add_right_comm, Nat.add_assoc] at ho'⟩
      · rintro ⟨k, m, hk, hm, hbefore⟩
        cases k with
        | zero =>
          obtain rfl : l = m := by simpa using hk
          rw [Nat.add_zero, ho] at hm
          cases hm
        | succ k =>
          refine ⟨k, m, by simpa using hk, by rwa [Nat.add_right_comm, Nat.add_assoc], ?_⟩
          intro j m' hj hm'
          obtain ⟨o', ho'⟩ := hbefore (j + 1) m' (by omega) (by simpa using hm')
          exact ⟨o', by rwa [Nat.add_right_comm, Nat.add_assoc]⟩

/-- If no line is refused, the text is read, and every line gives its token by itself. -/
theorem ofLines_ok_or_error (n : Nat) (ls : List (List Char)) :
    ofLines n ls = .ok (onLines atLine? n ls) ∨ ∃ e, ofLines n ls = .error e := by
  cases h : ofLines n ls with
  | ok ts => exact .inl (by rw [(of_ofLines_eq_ok h).2])
  | error e => exact .inr ⟨e, rfl⟩

end Token

/-! ## Texts -/

namespace Diagram

/-- **Acceptance.** Any text is read or refused. If none of its lines is a call with a folded
method, it is read: its tokens are what its lines give one by one, and its diagram remarks on
nothing but orphaned responses and bodies that are no JSON. Otherwise it is refused, for the method
on the first such line. -/
theorem read_ok_or_folded (text : String) :
    ((∀ l ∈ trimmedLines text, ∀ verb, ¬ Token.IsFolded l verb) ∧
        ∃ tokens, Token.read text = .ok tokens ∧
          tokens = onLines Token.atLine? 1 (trimmedLines text) ∧
          Diagram.read text = .ok (ofTokens tokens) ∧
          ∀ m ∈ (ofTokens tokens).remarks, (∃ r, .response r ∈ tokens ∧ m = .orphan r) ∨
            ∃ n e, .note n ∈ tokens ∧ m = .badBody n ∧ Note.body? n.content = some (.error e)) ∨
      ∃ (k : Nat) (l verb : List Char), (trimmedLines text)[k]? = some l ∧ Token.IsFolded l verb ∧
        (∀ (j : Nat) (m : List Char), j < k → (trimmedLines text)[j]? = some m →
          ∀ verb, ¬ Token.IsFolded m verb) ∧
        Token.read text = .error ⟨String.ofList (lower verb)⟩ ∧
        Diagram.read text = .error ⟨String.ofList (lower verb)⟩ := by
  rcases Token.ofLines_ok_or_error 1 (trimmedLines text) with h | ⟨e, h⟩
  · have hread : Token.read text = .ok (onLines Token.atLine? 1 (trimmedLines text)) := h
    refine .inl ⟨?_, _, hread, rfl, by rw [Diagram.read, hread]; rfl, ?_⟩
    · intro l hl verb hfolded
      obtain ⟨k, hk, rfl⟩ := List.mem_iff_getElem.1 hl
      obtain ⟨o, ho⟩ := (Token.of_ofLines_eq_ok h).1 k _ (List.getElem?_eq_getElem hk)
      rw [Token.ofLine_eq_error_iff.2 ⟨verb, hfolded, rfl⟩] at ho
      cases ho
    · intro m hm
      exact (Draft.mem_remarks_foldl_step hm).resolve_left List.not_mem_nil
  · obtain ⟨k, l, hk, hl, hbefore⟩ := Token.ofLines_eq_error_iff.1 h
    obtain ⟨verb, hfolded, rfl⟩ := Token.ofLine_eq_error_iff.1 hl
    have hread : Token.read text = .error ⟨String.ofList (lower verb)⟩ := h
    refine .inr ⟨k, l, verb, hk, hfolded, ?_, hread, by rw [Diagram.read, hread]; rfl⟩
    intro j m hj hm verb' hfolded'
    obtain ⟨o, ho⟩ := hbefore j m hj hm
    rw [Token.ofLine_eq_error_iff.2 ⟨verb', hfolded', rfl⟩] at ho
    cases ho

/-- A text with a long `s` in its method is refused. -/
theorem read_of_long_s : ¬ ∃ d, Diagram.read "A->>B: po\u017ft /x" = .ok d := by
  rintro ⟨d, hd⟩
  have herror : Token.read "A->>B: po\u017ft /x" = .error ⟨"po\u017ft"⟩ := by decide +kernel
  obtain ⟨tokens, hread, -⟩ := exists_tokens hd
  rw [herror] at hread
  cases hread

end Diagram

end SequenceApi
