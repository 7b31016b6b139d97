import SequenceApi.Proofs.Json.Compact
import SequenceApi.Proofs.Number.Figures

/-!
# Lexemes of printed values

A string, a word or a number is read back as the lexeme that it was written for, whatever text comes
after it; only a number has to end where the next character belongs to no number.

## Main definitions

* `Json.Stops`: no word or number goes on in the text
* `Json.lexeme`: the lexeme of a value that is neither an array nor an object

## Main results

* `Json.strBody_text`: a string is read back
* `Json.number?_text`: a number is read from its figures
* `Json.lexemeAt_strText`, `Json.lexemeAt_atom`: the lexemes of strings, words and numbers
-/

namespace SequenceApi.Json

open Text Decimal

/-! ## Escapes -/

/-- The four digits of a unit. -/
theorem exists_hexDigits_four (n : Nat) : ∃ a b c d, hexDigits 4 n = [a, b, c, d] :=
  ⟨_, _, _, _, rfl⟩

theorem charOfCode_toNat (c : Char) : charOfCode c.toNat = c := by
  have hvalid : c.toNat.isValidChar := c.valid
  rw [charOfCode, dif_pos hvalid]
  rfl

theorem isHighSurrogate_toNat (c : Char) : isHighSurrogate c.toNat = false := by
  have hvalid := toNat_valid c
  simp only [isHighSurrogate, Bool.and_eq_false_iff, decide_eq_false_iff_not]
  omega

/-- The two units of a character beyond the first plane stand for it. -/
theorem charOfPair_units {c : Char} (h : 0x10000 ≤ c.toNat) :
    isHighSurrogate (highUnit c) = true ∧ isLowSurrogate (lowUnit c) = true ∧
      charOfPair (highUnit c) (lowUnit c) = c := by
  have hvalid := toNat_valid c
  have hcode : 0x10000 + (highUnit c - 0xD800) * 0x400 + (lowUnit c - 0xDC00) = c.toNat := by
    rw [highUnit, lowUnit]
    omega
  refine ⟨?_, ?_, ?_⟩
  · rw [isHighSurrogate, highUnit, Bool.and_eq_true]
    exact ⟨decide_eq_true (by omega), decide_eq_true (by omega)⟩
  · rw [isLowSurrogate, lowUnit, Bool.and_eq_true]
    exact ⟨decide_eq_true (by omega), decide_eq_true (by omega)⟩
  · rw [charOfPair, hcode, charOfCode_toNat]

/-! ## Strings -/

section

variable (start place : Nat) {c : Char} {rest : List Char}

/-- A unit that is no first half of a pair stands for itself. -/
theorem strBody_unit {n : Nat} (hn : n < 0x10000) (hs : isHighSurrogate n = false)
    (hne : rest ≠ []) :
    strBody start place (unitEscape n ++ rest) =
      (strBody start (place + 6) rest).map fun (s, k) => (charOfCode n :: s, k + 6) := by
  obtain ⟨a, b, c, d, hdigits⟩ := exists_hexDigits_four n
  obtain ⟨x, rest, rfl⟩ := List.exists_cons_of_ne_nil hne
  have hcode : unitCode a b c d = some n := by
    rw [unitCode, ← hdigits]
    exact hexNumber_hexDigits 4 hn
  rw [unitEscape, hdigits, List.cons_append, List.cons_append, List.cons_append, List.cons_append,
    List.cons_append, List.cons_append, List.nil_append]
  by_cases hpair : ∃ e f g h y rest', x = '\\' ∧ rest = 'u' :: e :: f :: g :: h :: y :: rest'
  · -- another unit comes next, but not to complete a pair
    obtain ⟨e, f, g, h, y, rest', rfl, rfl⟩ := hpair
    rw [strBody, hcode]
    dsimp only
    rw [if_neg (by simp [hs])]
  · rw [strBody.eq_3, hcode]
    intro e f g h y rest' hx hrest
    exact hpair ⟨e, f, g, h, y, rest', hx, hrest⟩

/-- Two units stand for a character beyond the first plane. -/
theorem strBody_pair (hc : 0x10000 ≤ c.toNat) (hne : rest ≠ []) :
    strBody start place (unitEscape (highUnit c) ++ unitEscape (lowUnit c) ++ rest) =
      (strBody start (place + 12) rest).map fun (s, k) => (c :: s, k + 12) := by
  obtain ⟨hhigh, hlow, hpair⟩ := charOfPair_units hc
  obtain ⟨a, b, c', d, hhighDigits⟩ := exists_hexDigits_four (highUnit c)
  obtain ⟨e, f, g, h, hlowDigits⟩ := exists_hexDigits_four (lowUnit c)
  obtain ⟨x, rest, rfl⟩ := List.exists_cons_of_ne_nil hne
  have hhighCode : unitCode a b c' d = some (highUnit c) := by
    rw [unitCode, ← hhighDigits]
    exact hexNumber_hexDigits 4 (Nat.lt_trans (highUnit_bounds hc).2 (by decide))
  have hlowCode : unitCode e f g h = some (lowUnit c) := by
    rw [unitCode, ← hlowDigits]
    exact hexNumber_hexDigits 4 (lowUnit_lt c)
  rw [unitEscape, unitEscape, hhighDigits, hlowDigits]
  simp only [List.cons_append, List.nil_append]
  rw [strBody, hhighCode]
  dsimp only
  rw [if_pos hhigh, hlowCode]
  dsimp only
  rw [if_pos hlow, hpair]

theorem strBody_short {x : Char} (hx : x ≠ 'u') (hc : shortEscape x = some c) :
    strBody start place ('\\' :: x :: rest) =
      (strBody start (place + 2) rest).map fun (s, k) => (c :: s, k + 2) := by
  rw [strBody.eq_6, hc]
  -- what comes after the backslash is no unit
  all_goals
    intros
    contradiction

theorem strBody_plain (hq : c ≠ '\x22') (hb : c ≠ '\\') (hc : 0x20 ≤ c.toNat) :
    strBody start place (c :: rest) =
      (strBody start (place + 1) rest).map fun (s, k) => (c :: s, k + 1) := by
  rw [strBody.eq_7, if_neg (by simpa using hq), if_neg (by omega)]
  -- the character starts no escape
  all_goals
    intros
    contradiction

/-- A spelled character is read back. -/
theorem Spells.strBody {t : List Char} (h : Spells c t) (hne : rest ≠ []) :
    Json.strBody start place (t ++ rest) =
      (Json.strBody start (place + t.length) rest).map fun (s, k) => (c :: s, k + t.length) := by
  cases h with
  | plain hq hb hc => exact strBody_plain start place hq hb hc
  | short hx hc => exact strBody_short start place hx hc
  | unit hlt =>
    rw [strBody_unit start place hlt (isHighSurrogate_toNat c) hne, charOfCode_toNat]
    simp [unitEscape]
  | pair hge =>
    rw [strBody_pair start place hge hne]
    simp [unitEscape]

/-- A string is read back up to its closing quote. -/
theorem strBody_text (ascii : Bool) (cs rest : List Char) :
    strBody start place (cs.flatMap (charText ascii) ++ '\x22' :: rest) =
      .ok (cs, (cs.flatMap (charText ascii)).length + 1) := by
  -- Induction on the characters: the place moves by the length of what each is written as.
  induction cs generalizing place with
  | nil =>
    rw [List.flatMap_nil, List.nil_append, strBody.eq_7]
    · rfl
    all_goals
      intros
      contradiction
  | cons c cs ih =>
    have hne : cs.flatMap (charText ascii) ++ '\x22' :: rest ≠ [] := by simp
    rw [List.flatMap_cons, List.append_assoc, (spells_charText ascii c).strBody start place hne, ih]
    simp only [Except.map, List.length_append]
    congr 2
    omega

end

theorem lexemeAt_strText (ascii : Bool) (s : String) (place : Nat) (rest : List Char) :
    lexemeAt place (strText ascii s ++ rest) = (.str s, (strText ascii s).length) := by
  have h := strBody_text place (place + 1) ascii s.toList rest
  simp only [strText, List.cons_append, List.append_assoc, List.nil_append, lexemeAt]
  rw [h]
  simp

/-! ## Numbers

The reader cuts a number into a whole part, a fraction and a power of ten, each up to the first
character that cannot belong to it. After the whole part comes a point, a mark or the end, after the
fraction a mark or the end: so each part ends where it was written to end. -/

/-- No word or number goes on in the text. -/
def Stops (rest : List Char) : Prop :=
  ∀ c ∈ rest.head?, isAtomChar c = false

theorem stops_cons {c : Char} (h : isAtomChar c = false) (rest : List Char) :
    Stops (c :: rest) := by
  intro d hd
  rwa [← Option.some_inj.1 hd]

theorem Stops.isDigit {rest : List Char} (h : Stops rest) :
    ∀ c ∈ rest.head?, isDigit c = false := by
  intro c hc
  have hatom := h c hc
  simp only [isAtomChar, Bool.or_eq_false_iff] at hatom
  exact hatom.1.1.1.2

/-- Digits end where no digit comes next. -/
theorem digitsOf_append {ds rest : List Char} (hd : AreDigits ds)
    (hr : ∀ c ∈ rest.head?, isDigit c = false) : digitsOf (ds ++ rest) = ds := by
  have hrest : rest.takeWhile isDigit = [] := by
    cases rest with
    | nil => rfl
    | cons c rest => exact List.takeWhile_cons_of_neg (by simp [hr c rfl])
  have htake : (ds ++ rest).takeWhile isDigit = ds ++ rest.takeWhile isDigit :=
    List.takeWhile_append_of_pos fun c hc => hd c hc
  rw [digitsOf, htake, hrest, List.append_nil]

theorem digitsValue_eq (cs : List Char) : digitsValue cs = digitsNumber cs :=
  rfl

section

variable (f : Figures) {rest : List Char}

theorem wholePart_append (hr : ∀ c ∈ rest.head?, isDigit c = false) :
    wholePart (f.whole ++ rest) = f.whole := by
  have hdigits := digitsOf_append f.areDigits_whole hr
  rw [wholePart.eq_def]
  split
  · next cs h =>
    -- a leading zero stands alone
    obtain ⟨c, cs', hw⟩ := List.exists_cons_of_ne_nil f.whole_ne_nil
    rw [hw, List.cons_append] at h
    obtain ⟨rfl, -⟩ := List.cons.inj h
    exact (f.lead (by rw [hw]; rfl)).symm
  · exact hdigits

theorem head_powerText_append (hr : Stops rest) :
    ∀ c ∈ (f.powerText ++ rest).head?, isDigit c = false ∧ c ≠ '.' := by
  intro c hc
  rw [Figures.powerText] at hc
  split at hc
  · refine ⟨hr.isDigit c hc, ?_⟩
    rintro rfl
    exact absurd (hr _ hc) (by decide)
  · obtain rfl := Option.some.inj hc
    exact ⟨rfl, by decide⟩

theorem head_pointText_append (hr : Stops rest) :
    ∀ c ∈ (f.pointText ++ (f.powerText ++ rest)).head?, isDigit c = false := by
  intro c hc
  rw [Figures.pointText] at hc
  split at hc
  · exact (head_powerText_append f hr c hc).1
  · obtain rfl := Option.some.inj hc
    rfl

theorem fractionPart_append (hr : Stops rest) :
    fractionPart (f.pointText ++ (f.powerText ++ rest)) = f.fraction := by
  have hhead := head_powerText_append f hr
  rw [Figures.pointText]
  split
  · next h =>
    rw [List.isEmpty_iff.1 h, List.nil_append, fractionPart]
    intro cs hcs
    rw [hcs] at hhead
    exact (hhead '.' rfl).2 rfl
  · exact digitsOf_append f.areDigits_fraction fun c hc => (hhead c hc).1

theorem exponentPart_of_stops (hr : Stops rest) : exponentPart rest = (false, [], 0) := by
  cases rest with
  | nil => rfl
  | cons c rest =>
    have hatom := hr c rfl
    have hmark : (c == 'e' || c == 'E') = false := by
      rw [Bool.or_eq_false_iff, beq_eq_false_iff_ne, beq_eq_false_iff_ne]
      constructor <;>
      · rintro rfl
        exact absurd hatom (by decide)
    rw [exponentPart.eq_def]
    simp [hmark]

/-- The power of ten is read back: its value, and how many characters it has. -/
theorem exponentPart_append (hr : Stops rest) :
    ∃ down places marks, exponentPart (f.powerText ++ rest) = (down, places, marks) ∧
      places.isEmpty = f.power.isNone ∧
      (if down then -(digitsNumber places : Int) else digitsNumber places) = f.exponent ∧
      (if places.isEmpty then 0 else marks + places.length) = f.powerText.length := by
  cases hpower : f.power with
  | none =>
    refine ⟨false, [], 0, ?_, rfl, ?_, ?_⟩
    · rw [Figures.powerText, hpower]
      exact exponentPart_of_stops hr
    · rw [Figures.exponent, hpower]
      rfl
    · rw [Figures.powerText, hpower]
      rfl
  | some p =>
    obtain ⟨down, places⟩ := p
    have hdigits := digitsOf_append (f.areDigits_places _ hpower) hr.isDigit
    have hne : places.isEmpty = false := by simpa using f.places_ne_nil _ hpower
    refine ⟨down, places, 2, ?_, by rw [hne]; rfl, ?_, ?_⟩
    · rw [Figures.powerText, hpower]
      cases down
      · simpa [exponentPart] using hdigits
      · simpa [exponentPart] using hdigits
    · rw [Figures.exponent, hpower]
    · rw [Figures.powerText, hpower, hne]
      simp only [Bool.false_eq_true, ↓reduceIte, List.length_cons]
      omega

/-- The lexeme of a number: an integer if it has neither a fraction nor a power of ten. -/
def numberLexeme (negative : Bool) : Lexeme :=
  if f.isWhole then
    if longestInteger < f.whole.length then .longInt f.whole.length
    else .int (if negative then -(f.digits : Int) else f.digits)
  else .float (Binary64.ofDecimal negative f.digits (f.exponent - f.fraction.length))

theorem head_signed_text (negative : Bool) (rest : List Char) :
    ((signed negative f.text ++ rest).head? == some '-') = negative := by
  cases negative with
  | true => rfl
  | false =>
    obtain ⟨c, cs, hw⟩ := List.exists_cons_of_ne_nil f.whole_ne_nil
    have hc := f.areDigits_whole c (by rw [hw]; exact List.mem_cons_self)
    rw [signed, Figures.text, hw, beq_eq_false_iff_ne]
    intro hhead
    rw [show c = '-' from Option.some.inj hhead] at hc
    cases hc

/-- A number is read from the text of its parts. -/
theorem number?_text (negative : Bool) (hr : Stops rest) :
    number? (signed negative f.text ++ rest) =
      some (numberLexeme f negative, (signed negative f.text).length) := by
  have hdrop : (signed negative f.text ++ rest).drop (if negative then 1 else 0) =
      f.whole ++ (f.pointText ++ (f.powerText ++ rest)) := by
    cases negative <;> simp [signed, Figures.text]
  have hrest : (signed negative f.text ++ rest).drop
      ((if negative then 1 else 0) + f.whole.length) =
        f.pointText ++ (f.powerText ++ rest) := by
    rw [← List.drop_drop, hdrop, List.drop_left]
  have hpoints : (if f.fraction.isEmpty then 0 else f.fraction.length + 1) =
      f.pointText.length := by
    rw [Figures.pointText]
    split <;> rfl
  have hwhole : f.whole.isEmpty = false := by simpa using f.whole_ne_nil
  have hlength : (signed negative f.text).length =
      (if negative then 1 else 0) + f.whole.length + f.pointText.length + f.powerText.length := by
    cases negative <;> simp [signed, Figures.text] <;> omega
  obtain ⟨down, places, marks, hexponent, hempty, hvalue, hmarks⟩ := exponentPart_append f hr
  -- the reader finds the parts one after the other, and adds up their lengths
  simp only [number?, head_signed_text, hdrop, wholePart_append f (head_pointText_append f hr),
    hwhole, hrest, fractionPart_append f hr, hpoints, List.drop_left, hexponent, hlength,
    Bool.false_eq_true, ↓reduceIte, numberLexeme, digitsValue_eq, hvalue, hmarks]
  rw [hempty, show (f.fraction.isEmpty && f.power.isNone) = f.isWhole from rfl]
  cases hisWhole : f.isWhole with
  | true =>
    -- an integer has the whole part alone
    rw [Figures.isWhole, Bool.and_eq_true, List.isEmpty_iff, Option.isNone_iff_eq_none] at hisWhole
    simp [Figures.digits, Figures.pointText, Figures.powerText, hisWhole.1, hisWhole.2]
  | false => rfl

end

/-! ## Words and numbers -/

/-- The lexeme of a value that is neither an array nor an object. -/
def lexeme : Json → Lexeme
  | .null => .null
  | .bool b => .bool b
  | .int n => .int n
  | .float x => .float x
  | .str s => .str s
  | .arr _ | .obj _ => .stray

theorem lexemeAt_of_isAtomChar {c : Char} (hc : isAtomChar c = true) (place : Nat)
    (cs : List Char) :
    lexemeAt place (c :: cs) = ((word? (c :: cs)).or (number? (c :: cs))).getD (.stray, 1) := by
  have hne {d : Char} (hd : isAtomChar d = false) : c ≠ d := by
    rintro rfl
    rw [hc] at hd
    cases hd
  unfold lexemeAt
  split
  case h_8 => rfl
  all_goals
    next h => exact absurd (List.cons.inj h).1 (hne rfl)

theorem word?_of_mem {v : Json} {cs : List Char} (h : (v, cs) ∈ wordTexts) (rest : List Char) :
    word? (cs ++ rest) = some (lexeme v, cs.length) := by
  simp only [wordTexts, List.mem_cons, Prod.mk.injEq, String.reduceToList, List.not_mem_nil,
    or_false] at h
  rcases h with ⟨rfl, rfl⟩ | ⟨rfl, rfl⟩ | ⟨rfl, rfl⟩ | ⟨rfl, rfl⟩ | ⟨rfl, rfl⟩ | ⟨rfl, rfl⟩ <;> rfl

/-- No word starts with a digit, be it after a sign. -/
theorem word?_of_isDigit {c : Char} (hc : c.isDigit = true) (cs : List Char) :
    word? (c :: cs) = none ∧ word? ('-' :: c :: cs) = none := by
  have hne {d : Char} (hd : d.isDigit = false) : (d == c) = false := by
    rw [beq_eq_false_iff_ne]
    rintro rfl
    rw [hc] at hd
    cases hd
  constructor
  · simp [word?, words, List.isPrefixOf, hne]
  · simp [word?, words, List.isPrefixOf, hne]

theorem lexemeAt_number (f : Figures) (negative : Bool) {rest : List Char} (hr : Stops rest)
    (place : Nat) :
    lexemeAt place (signed negative f.text ++ rest) =
      (numberLexeme f negative, (signed negative f.text).length) := by
  have hnumber := number?_text f negative hr
  obtain ⟨c, cs, hw⟩ := List.exists_cons_of_ne_nil f.whole_ne_nil
  have hc := f.areDigits_whole c (by rw [hw]; exact List.mem_cons_self)
  have htext : f.text = c :: (cs ++ f.pointText ++ f.powerText) := by
    rw [Figures.text, hw]
    rfl
  have hatom : isAtomChar c = true := isAtomChar_of_number (.inl hc)
  generalize (signed negative f.text).length = length at hnumber ⊢
  rw [htext] at hnumber ⊢
  -- words are looked for before numbers, and none is found
  cases negative with
  | false =>
    simp only [signed, Bool.false_eq_true, ↓reduceIte, List.cons_append] at hnumber ⊢
    rw [lexemeAt_of_isAtomChar hatom, (word?_of_isDigit hc _).1, hnumber]
    rfl
  | true =>
    simp only [signed, ↓reduceIte, List.cons_append] at hnumber ⊢
    rw [lexemeAt_of_isAtomChar rfl, (word?_of_isDigit hc _).2, hnumber]
    rfl

theorem numberLexeme_ofNat {n : Int} (h : IsShort n) :
    numberLexeme (.ofNat n.natAbs) (n < 0) = .int n := by
  have hdigits : (Figures.ofNat n.natAbs).digits = n.natAbs := by
    simp [Figures.digits, Figures.ofNat, digitsNumber, Nat.ofDigitChars_ten_toDigits]
  have hisWhole : (Figures.ofNat n.natAbs).isWhole = true := rfl
  have hshort : ¬longestInteger < (Figures.ofNat n.natAbs).whole.length := Nat.not_lt.2 h
  rw [numberLexeme, if_pos hisWhole, if_neg hshort, hdigits]
  congr 1
  simp only [decide_eq_true_eq]
  omega

/-- A word or number is read back where no other character of one comes next. -/
theorem lexemeAt_atom {v : Json} {cs rest : List Char} (ha : IsAtom v cs) (hv : v.IsReadable)
    (hr : Stops rest) (place : Nat) : lexemeAt place (cs ++ rest) = (lexeme v, cs.length) := by
  cases ha with
  | word h =>
    obtain ⟨c, cs, rfl⟩ := List.exists_cons_of_ne_nil (IsAtom.word h).ne_nil
    have hatom := (IsAtom.word h).isAtomChar_of_mem List.mem_cons_self
    rw [List.cons_append, lexemeAt_of_isAtomChar hatom, ← List.cons_append, word?_of_mem h]
    rfl
  | int n =>
    cases hv with | int hshort => ?_
    have h := lexemeAt_number (.ofNat n.natAbs) (n < 0) hr place
    have htext : (Figures.ofNat n.natAbs).text = Nat.toDigits 10 n.natAbs := by
      simp [Figures.text, Figures.pointText, Figures.powerText, Figures.ofNat]
    rw [numberLexeme_ofNat hshort, htext] at h
    exact h
  | float negative m e =>
    cases hv with | float hx => ?_
    cases hx with | finite _ h he => ?_
    obtain ⟨f, htext, hmarked, hvalue⟩ := Binary64.exists_figures_magnitudeText h he
    have h := lexemeAt_number f negative hr place
    rw [numberLexeme, hmarked, hvalue, htext] at h
    exact h

end SequenceApi.Json
