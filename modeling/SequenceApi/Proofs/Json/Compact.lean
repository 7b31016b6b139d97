import SequenceApi.Json.Lexeme
import SequenceApi.Json.Printer
import SequenceApi.Proofs.Json.Readable
import SequenceApi.Proofs.Json.Reordered
import SequenceApi.Proofs.Number.Written

/-!
# Compact texts

The compact text of a value says where it ends: a string at its closing quote, an array or object at
its closing bracket, and everything else before the next separator or bracket. So the text of a
value with more text after it can be read in one way only, but for its numbers: two forms of one
number have one text. Values with one compact text are twins, which differ in the forms of numbers
at most; and twins with canonical numbers are equal.

## Main definitions

* `Json.Spells`: how a character can be spelled inside a string
* `Json.IsAtom`: a value whose text is a word or a number
* `Json.numberText?`: the text of a number
* `Json.Twin`: the same value, but for the forms of its numbers
* `Json.Delimited`: what can follow a value
* `Json.IsCanonical`: the numbers in a value are canonical

## Main results

* `Json.strText_append_inj`: a string ends at its closing quote
* `Json.chars_compact_append_inj`: a value ends where its text does
* `Json.print_compact_eq_iff`: values with one compact text are twins
* `Json.print_compact_injective`: with canonical numbers, they are equal
-/

namespace SequenceApi.Json

open Text

/-! ## Characters of strings -/

/-- The first unit of the escape of a character beyond the first plane. -/
def highUnit (c : Char) : Nat :=
  0xD800 + (c.toNat - 0x10000) / 0x400

/-- The second unit. -/
def lowUnit (c : Char) : Nat :=
  0xDC00 + (c.toNat - 0x10000) % 0x400

/-- How a character can be spelled inside a string. -/
inductive Spells (c : Char) : List Char → Prop where
  | plain (hq : c ≠ '\x22') (hb : c ≠ '\\') (hc : 0x20 ≤ c.toNat) : Spells c [c]
  | short {x : Char} (hx : x ≠ 'u') (h : shortEscape x = some c) : Spells c ['\\', x]
  | unit (h : c.toNat < 0x10000) : Spells c (unitEscape c.toNat)
  | pair (h : 0x10000 ≤ c.toNat) : Spells c (unitEscape (highUnit c) ++ unitEscape (lowUnit c))

theorem spells_codeEscape (c : Char) : Spells c (codeEscape c) := by
  simp only [codeEscape]
  split
  · next h => exact .unit h
  · next h => exact .pair (Nat.le_of_not_lt h)

/-- A character that has a short escape, or is spelled in another way. -/
theorem Spells.ite {c x y : Char} {s : List Char} (hy : y ≠ 'u') (hx : shortEscape y = some x)
    (hs : Spells c s) : Spells c (if c == x then ['\\', y] else s) := by
  split
  · next h => exact .short hy (eq_of_beq h ▸ hx)
  · exact hs

theorem spells_charText (ascii : Bool) (c : Char) : Spells c (charText ascii c) := by
  rw [charText]
  by_cases h : (c == '\x22' || c == '\\') = true
  · rw [if_pos h]
    rcases (by simpa using h : c = '\x22' ∨ c = '\\') with rfl | rfl
    · exact .short (by decide) rfl
    · exact .short (by decide) rfl
  · rw [if_neg h]
    obtain ⟨hq, hb⟩ : c ≠ '\x22' ∧ c ≠ '\\' := by simpa using h
    have hcode : Spells c (if c.toNat < 0x20 then codeEscape c
        else if ascii && 0x7e < c.toNat then codeEscape c else [c]) := by
      split
      · exact spells_codeEscape c
      · next hc =>
        split
        · exact spells_codeEscape c
        · exact .plain hq hb (Nat.le_of_not_lt hc)
    exact .ite (by decide) rfl (.ite (by decide) rfl (.ite (by decide) rfl
      (.ite (by decide) rfl (.ite (by decide) rfl hcode))))

/-- No character is spelled with a quote in front. -/
theorem Spells.head_ne_quote {c : Char} {s : List Char} (h : Spells c s) :
    ∃ x rest, s = x :: rest ∧ x ≠ '\x22' := by
  cases h with
  | plain hq _ _ => exact ⟨c, [], rfl, hq⟩
  | short _ _ => exact ⟨_, _, rfl, by decide⟩
  | unit _ => exact ⟨_, _, rfl, by decide⟩
  | pair _ => exact ⟨_, _, rfl, by decide⟩

/-- Units of four digits are read in one way only. -/
theorem unitEscape_append_inj {m n : Nat} (hm : m < 0x10000) (hn : n < 0x10000) {r r' : List Char}
    (h : unitEscape m ++ r = unitEscape n ++ r') : m = n ∧ r = r' := by
  rw [unitEscape, unitEscape, List.cons_append, List.cons_append, List.cons_append,
    List.cons_append] at h
  obtain ⟨hd, hr⟩ := List.append_inj (List.cons.inj (List.cons.inj h).2).2 (by simp)
  exact ⟨hexDigits_inj 4 hm hn hd, hr⟩

theorem toNat_valid (c : Char) : c.toNat < 0xD800 ∨ 0xDFFF < c.toNat ∧ c.toNat < 0x110000 :=
  c.valid

theorem highUnit_bounds {c : Char} (h : 0x10000 ≤ c.toNat) :
    0xD800 ≤ highUnit c ∧ highUnit c < 0xDC00 := by
  have hvalid := toNat_valid c
  rw [highUnit]
  omega

theorem lowUnit_lt (c : Char) : lowUnit c < 0x10000 := by
  rw [lowUnit]
  omega

/-- The two units of a character give it back. -/
theorem eq_of_units {c d : Char} (hc : 0x10000 ≤ c.toNat) (hd : 0x10000 ≤ d.toNat)
    (hhigh : highUnit c = highUnit d) (hlow : lowUnit c = lowUnit d) : c = d := by
  rw [highUnit, highUnit] at hhigh
  rw [lowUnit, lowUnit] at hlow
  exact Char.toNat_inj.1 (by omega)

/-- No character has a half of a pair as its own unit. -/
theorem unit_ne_highUnit {c d : Char} (hd : 0x10000 ≤ d.toNat) : c.toNat ≠ highUnit d := by
  have hvalid := toNat_valid c
  have hbounds := highUnit_bounds hd
  omega

/-- A character is read in one way only. -/
theorem Spells.append_inj {c d : Char} {s t r r' : List Char} (hc : Spells c s) (hd : Spells d t)
    (h : s ++ r = t ++ r') : c = d ∧ r = r' := by
  -- The first two characters tell the four spellings apart, except a unit from a pair.
  cases hc with
  | plain _ hb _ =>
    cases hd with
    | plain _ _ _ => exact List.cons.inj h
    | short _ _ | unit _ | pair _ => exact absurd (List.cons.inj h).1 hb
  | short hx hs =>
    cases hd with
    | plain _ hb _ => exact absurd (List.cons.inj h).1.symm hb
    | short _ hs' =>
      obtain ⟨rfl, hr⟩ := List.cons.inj (List.cons.inj h).2
      exact ⟨Option.some_inj.1 (hs.symm.trans hs'), hr⟩
    | unit _ | pair _ => exact absurd (List.cons.inj (List.cons.inj h).2).1 hx
  | unit hlt =>
    cases hd with
    | plain _ hb _ => exact absurd (List.cons.inj h).1.symm hb
    | short hx _ => exact absurd (List.cons.inj (List.cons.inj h).2).1.symm hx
    | unit hlt' =>
      obtain ⟨hn, hr⟩ := unitEscape_append_inj hlt hlt' h
      exact ⟨Char.toNat_inj.1 hn, hr⟩
    | pair hge' =>
      -- the first unit of a pair is no character
      rw [List.append_assoc] at h
      have hhigh := (highUnit_bounds hge').2
      exact absurd (unitEscape_append_inj hlt (by omega) h).1 (unit_ne_highUnit hge')
  | pair hge =>
    have hhigh := (highUnit_bounds hge).2
    rw [List.append_assoc] at h
    cases hd with
    | plain _ hb _ => exact absurd (List.cons.inj h).1.symm hb
    | short hx _ => exact absurd (List.cons.inj (List.cons.inj h).2).1.symm hx
    | unit hlt' =>
      exact absurd (unitEscape_append_inj (by omega) hlt' h).1.symm (unit_ne_highUnit hge)
    | pair hge' =>
      have hhigh' := (highUnit_bounds hge').2
      rw [List.append_assoc] at h
      obtain ⟨hh, h⟩ := unitEscape_append_inj (by omega) (by omega) h
      obtain ⟨hl, hr⟩ := unitEscape_append_inj (lowUnit_lt c) (lowUnit_lt d) h
      exact ⟨eq_of_units hge hge' hh hl, hr⟩

/-! ## Strings -/

theorem charsText_append_inj (ascii : Bool) (cs : List Char) :
    ∀ {ds r r' : List Char}, cs.flatMap (charText ascii) ++ '\x22' :: r =
      ds.flatMap (charText ascii) ++ '\x22' :: r' → cs = ds ∧ r = r' := by
  -- Induction on the characters of the first string; where one string ends, the other does.
  induction cs with
  | nil =>
    intro ds r r' h
    cases ds with
    | nil => exact ⟨rfl, (List.cons.inj h).2⟩
    | cons d ds =>
      obtain ⟨x, rest, hx, hne⟩ := (spells_charText ascii d).head_ne_quote
      rw [List.flatMap_cons, hx] at h
      exact absurd (List.cons.inj h).1.symm hne
  | cons c cs ih =>
    intro ds r r' h
    cases ds with
    | nil =>
      obtain ⟨x, rest, hx, hne⟩ := (spells_charText ascii c).head_ne_quote
      rw [List.flatMap_cons, hx] at h
      exact absurd (List.cons.inj h).1 hne
    | cons d ds =>
      rw [List.flatMap_cons, List.flatMap_cons, List.append_assoc, List.append_assoc] at h
      obtain ⟨rfl, hrest⟩ := (spells_charText ascii c).append_inj (spells_charText ascii d) h
      obtain ⟨rfl, hr⟩ := ih hrest
      exact ⟨rfl, hr⟩

/-- A string ends at its closing quote. -/
theorem strText_append_inj {ascii : Bool} {s t : String} {r r' : List Char}
    (h : strText ascii s ++ r = strText ascii t ++ r') : s = t ∧ r = r' := by
  simp only [strText, List.cons_append, List.append_assoc, List.nil_append] at h
  obtain ⟨hs, hr⟩ := charsText_append_inj ascii s.toList (List.cons.inj h).2
  exact ⟨String.toList_inj.1 hs, hr⟩

/-! ## Words and numbers -/

/-- Digits with a sign before them. -/
def signed (negative : Bool) (cs : List Char) : List Char :=
  if negative then '-' :: cs else cs

/-- The values that are written as words. -/
def wordTexts : List (Json × List Char) :=
  [(.null, "null".toList), (.bool true, "true".toList), (.bool false, "false".toList),
    (.float .nan, "NaN".toList), (.float (.infinite false), "Infinity".toList),
    (.float (.infinite true), "-Infinity".toList)]

/-- A value whose text is a word or a number. -/
inductive IsAtom : Json → List Char → Prop where
  | word {v : Json} {cs : List Char} (h : (v, cs) ∈ wordTexts) : IsAtom v cs
  | int (n : Int) : IsAtom (.int n) (signed (n < 0) (Nat.toDigits 10 n.natAbs))
  | float (negative : Bool) (m : Nat) (e : Int) :
      IsAtom (.float (.finite negative m e)) (signed negative (Binary64.magnitudeText m e))

/-- The characters of words and numbers. -/
def isAtomChar (c : Char) : Bool :=
  c.isAlpha || c.isDigit || c == '.' || c == '-' || c == '+'

theorem mem_signed {negative : Bool} {cs : List Char} {c : Char} (h : c ∈ signed negative cs) :
    c = '-' ∨ c ∈ cs := by
  rw [signed] at h
  split at h
  · exact List.mem_cons.1 h
  · exact .inr h

theorem areMarks_signed (negative : Bool) {cs : List Char} (h : Decimal.AreMarks cs) :
    Decimal.AreMarks (signed negative cs) := by
  intro c hc
  rcases mem_signed hc with rfl | hc
  · exact .inr (by decide)
  · exact h c hc

/-- A sign is told from the digits after it. -/
theorem signed_inj {a b : Bool} {cs ds : List Char} (hc : ∃ c ∈ cs.head?, c.isDigit = true)
    (hd : ∃ d ∈ ds.head?, d.isDigit = true) (h : signed a cs = signed b ds) : a = b ∧ cs = ds := by
  obtain ⟨c, hc, hcd⟩ := hc
  obtain ⟨d, hd, hdd⟩ := hd
  rw [Option.mem_def, List.head?_eq_some_iff] at hc hd
  obtain ⟨cs, rfl⟩ := hc
  obtain ⟨ds, rfl⟩ := hd
  cases a <;> cases b <;> simp only [signed, Bool.false_eq_true, ↓reduceIte] at h
  · exact ⟨rfl, h⟩
  · rw [(List.cons.inj h).1] at hcd
    simp at hcd
  · rw [← (List.cons.inj h).1] at hdd
    simp at hdd
  · exact ⟨rfl, (List.cons.inj h).2⟩

theorem isAtomChar_of_number {c : Char} (h : c.isDigit = true ∨ c ∈ ['.', 'e', '-', '+']) :
    isAtomChar c = true := by
  rcases h with h | h
  · simp [isAtomChar, h]
  · rcases (by simpa using h : c = '.' ∨ c = 'e' ∨ c = '-' ∨ c = '+') with rfl | rfl | rfl | rfl <;>
      decide

theorem head_toDigits (n : Nat) : ∃ c ∈ (Nat.toDigits 10 n).head?, c.isDigit = true := by
  obtain ⟨c, cs, hcs⟩ := List.exists_cons_of_ne_nil (Nat.toDigits_ne_nil (n := n) (b := 10))
  refine ⟨c, by rw [hcs]; rfl, Decimal.areDigits_toDigits n c ?_⟩
  rw [hcs]
  exact List.mem_cons_self

/-- The text of a number, be it finite or not. -/
def numberText? : Json → Option (List Char)
  | .int n => some (intText n)
  | .float x => some (x.writtenWith specialNames).toList
  | _ => none

theorem numberText?_int (n : Int) :
    numberText? (.int n) = some (signed (n < 0) (Nat.toDigits 10 n.natAbs)) := by
  simp [numberText?, intText, signed]

theorem numberText?_finite (negative : Bool) (m : Nat) (e : Int) :
    numberText? (.float (.finite negative m e)) =
      some (signed negative (Binary64.magnitudeText m e)) := by
  simp [numberText?, Binary64.writtenWith, signed, Binary64.magnitudeText]

namespace IsAtom

variable {v w : Json} {cs : List Char}

theorem isAtomChar_of_mem (h : IsAtom v cs) {c : Char} (hc : c ∈ cs) : isAtomChar c = true := by
  cases h with
  | word h =>
    have hall : ∀ cs ∈ wordTexts.map Prod.snd, ∀ c ∈ cs, isAtomChar c = true := by
      simp [wordTexts, isAtomChar]
    exact hall cs (List.mem_map_of_mem h) c hc
  | int n =>
    exact isAtomChar_of_number (areMarks_signed _ (Decimal.areDigits_toDigits _).areMarks c hc)
  | float negative m e =>
    exact isAtomChar_of_number (areMarks_signed _ (Binary64.areMarks_magnitudeText m e) c hc)

/-- A number is no word. -/
theorem not_word (hcs : Decimal.AreMarks cs) : cs ∉ wordTexts.map Prod.snd := by
  intro h
  have hall : ∀ ds ∈ wordTexts.map Prod.snd,
      ∃ d ∈ ds, d.isDigit = false ∧ d ∉ ['.', 'e', '-', '+'] := by simp [wordTexts]
  obtain ⟨d, hd, hdigit, hmark⟩ := hall _ h
  rcases hcs d hd with hdigit' | hmark'
  · rw [hdigit] at hdigit'
    exact Bool.false_ne_true hdigit'
  · exact hmark hmark'

/-- Only numbers have the characters of numbers alone. -/
theorem numberText?_eq (h : IsAtom v cs) (hcs : Decimal.AreMarks cs) : numberText? v = some cs := by
  cases h with
  | word h => exact absurd (List.mem_map_of_mem h) (not_word hcs)
  | int n => exact numberText?_int n
  | float negative m e => exact numberText?_finite negative m e

/-- What has the text of a word or number is that word, or a number with that text. -/
theorem eq_or_numberText?_of_text_eq (hv : IsAtom v cs) (hw : IsAtom w cs) :
    v = w ∨ numberText? v = some cs ∧ numberText? w = some cs := by
  have hmarks (h : Decimal.AreMarks cs) :
      v = w ∨ numberText? v = some cs ∧ numberText? w = some cs :=
    .inr ⟨hv.numberText?_eq h, hw.numberText?_eq h⟩
  cases hv with
  | word hv' =>
    cases hw with
    | word hw' =>
      -- two words: no word occurs twice
      have hnodup : (wordTexts.map Prod.snd).Nodup := by decide
      exact .inl (congrArg Prod.fst (List.inj_on_of_nodup_map hnodup hv' hw' rfl))
    | int n => exact hmarks (areMarks_signed _ (Decimal.areDigits_toDigits _).areMarks)
    | float negative m e => exact hmarks (areMarks_signed _ (Binary64.areMarks_magnitudeText m e))
  | int n => exact hmarks (areMarks_signed _ (Decimal.areDigits_toDigits _).areMarks)
  | float negative m e => exact hmarks (areMarks_signed _ (Binary64.areMarks_magnitudeText m e))

theorem ne_nil (h : IsAtom v cs) : cs ≠ [] := by
  have hsigned (negative : Bool) {ds : List Char} (hds : ds ≠ []) : signed negative ds ≠ [] := by
    rw [signed]
    split
    · simp
    · exact hds
  cases h with
  | word h =>
    have hall : ∀ cs ∈ wordTexts.map Prod.snd, cs ≠ [] := by simp [wordTexts]
    exact hall cs (List.mem_map_of_mem h)
  | int n => exact hsigned _ Nat.toDigits_ne_nil
  | float negative m e => exact hsigned _ (Binary64.magnitudeText_ne_nil m e)

end IsAtom

/-! ## Values -/

/-- The same value with its keys in the same order; of two numbers, the texts are the same. -/
inductive Twin : Json → Json → Prop where
  | null : Twin .null .null
  | bool (b : Bool) : Twin (.bool b) (.bool b)
  | str (s : String) : Twin (.str s) (.str s)
  | number {v w : Json} {cs : List Char} (hv : v.numberText? = some cs)
      (hw : w.numberText? = some cs) : Twin v w
  | arr {items items' : List Json} (h : List.Forall₂ Twin items items') :
      Twin (.arr items) (.arr items')
  | obj {fields fields' : List (String × Json)}
      (hk : fields.map Prod.fst = fields'.map Prod.fst)
      (hv : List.Forall₂ Twin (fields.map Prod.snd) (fields'.map Prod.snd)) :
      Twin (.obj fields) (.obj fields')

/-- Fields with the same keys in the same order, and twins under them. -/
abbrev TwinFields (fields fields' : List (String × Json)) : Prop :=
  Table.Rel Twin fields fields'

theorem TwinFields.twin {fields fields' : List (String × Json)} (h : TwinFields fields fields') :
    Twin (.obj fields) (.obj fields') :=
  .obj h.keys h.values

/-- Induction over twins, with all items or all fields at once. -/
@[elab_as_elim]
theorem Twin.induction {motive : Json → Json → Prop} (null : motive .null .null)
    (bool : ∀ b, motive (.bool b) (.bool b)) (str : ∀ s, motive (.str s) (.str s))
    (number : ∀ {v w : Json} {cs : List Char}, v.numberText? = some cs → w.numberText? = some cs →
      motive v w)
    (arr : ∀ {items items' : List Json}, List.Forall₂ motive items items' →
      motive (.arr items) (.arr items'))
    (obj : ∀ {fields fields' : List (String × Json)}, Table.Rel motive fields fields' →
      motive (.obj fields) (.obj fields')) {v w : Json} (h : Twin v w) : motive v w := by
  induction v using Json.induction generalizing w with
  | arr items ih =>
    cases h with
    | number hv => cases hv
    | arr h =>
      have hitems := (List.forall₂_and_left items _).2 ⟨ih, h⟩
      exact arr (hitems.imp fun _ _ hv => hv.1 hv.2)
  | obj fields ih =>
    cases h with
    | number hv => cases hv
    | obj hk hv =>
      have hfields := (List.forall₂_and_left fields _).2 ⟨ih, Table.Rel.of_keys_values hk hv⟩
      exact obj (hfields.imp fun _ _ he => ⟨he.2.1, he.1 he.2.2⟩)
  | null =>
    cases h with
    | null => exact null
    | number hv => cases hv
  | bool b =>
    cases h with
    | bool => exact bool b
    | number hv => cases hv
  | str s =>
    cases h with
    | str => exact str s
    | number hv => cases hv
  | _ =>
    cases h with
    | number hv hw => exact number hv hw

@[refl]
theorem Twin.refl (v : Json) : Twin v v := by
  induction v using Json.induction with
  | null => exact .null
  | bool b => exact .bool b
  | int n => exact .number rfl rfl
  | float x => exact .number rfl rfl
  | str s => exact .str s
  | arr items ih => exact .arr (List.forall₂_same.2 ih)
  | obj fields ih => exact TwinFields.twin (List.forall₂_same.2 fun e he => ⟨rfl, ih e he⟩)

/-- What can follow a value: nothing, a separator or a closing bracket. -/
def Delimited (r : List Char) : Prop :=
  ∀ c ∈ r.head?, c ∈ [',', ']', '\x7d']

theorem delimited_nil : Delimited [] := by
  simp [Delimited]

theorem delimited_cons {c : Char} (h : c ∈ [',', ']', '\x7d']) (r : List Char) :
    Delimited (c :: r) := by
  intro d hd
  rwa [← Option.some_inj.1 hd]

theorem isAtom_of_numberText? {v : Json} {cs : List Char} (h : numberText? v = some cs) :
    IsAtom v cs := by
  cases v with
  | int n =>
    rw [numberText?_int] at h
    exact Option.some_inj.1 h ▸ .int n
  | float x =>
    cases x with
    | nan =>
      obtain rfl := Option.some_inj.1 h
      exact .word (by simp [wordTexts, Binary64.writtenWith, specialNames])
    | infinite negative =>
      obtain rfl := Option.some_inj.1 h
      cases negative <;> exact .word (by simp [wordTexts, Binary64.writtenWith, specialNames])
    | finite negative m e =>
      rw [numberText?_finite] at h
      exact Option.some_inj.1 h ▸ .float negative m e
  | _ => cases h

theorem isAtom_int {l : Layout} (n : Int) (k : Nat) : IsAtom (.int n) (chars l k (.int n)) :=
  isAtom_of_numberText? (by rw [numberText?, chars])

theorem isAtom_float {l : Layout} (x : Binary64) (k : Nat) :
    IsAtom (.float x) (chars l k (.float x)) :=
  isAtom_of_numberText? (by rw [numberText?, chars])

theorem Delimited.not_isAtomChar {r : List Char} (h : Delimited r) :
    r.takeWhile isAtomChar = [] ∧ r.dropWhile isAtomChar = r := by
  cases r with
  | nil => exact ⟨rfl, rfl⟩
  | cons c r =>
    have hall : ∀ c ∈ [',', ']', '\x7d'], isAtomChar c = false := by simp [isAtomChar]
    have hc := hall c (h c rfl)
    exact ⟨List.takeWhile_cons_of_neg (by simp [hc]), List.dropWhile_cons_of_neg (by simp [hc])⟩

theorem IsAtom.append_inj {v w : Json} {cs ds r r' : List Char} (hv : IsAtom v cs)
    (hw : IsAtom w ds) (hr : Delimited r) (hr' : Delimited r') (h : cs ++ r = ds ++ r') :
    Twin v w ∧ r = r' := by
  -- Both texts are what comes before the first character that belongs to no word or number.
  have htake := congrArg (List.takeWhile isAtomChar) h
  have hdrop := congrArg (List.dropWhile isAtomChar) h
  rw [List.takeWhile_append_of_pos fun c hc => hv.isAtomChar_of_mem hc,
    List.takeWhile_append_of_pos fun c hc => hw.isAtomChar_of_mem hc, hr.not_isAtomChar.1,
    hr'.not_isAtomChar.1, List.append_nil, List.append_nil] at htake
  rw [List.dropWhile_append_of_pos fun c hc => hv.isAtomChar_of_mem hc,
    List.dropWhile_append_of_pos fun c hc => hw.isAtomChar_of_mem hc, hr.not_isAtomChar.2,
    hr'.not_isAtomChar.2] at hdrop
  subst htake
  refine ⟨?_, hdrop⟩
  rcases hv.eq_or_numberText?_of_text_eq hw with rfl | ⟨hv, hw⟩
  · rfl
  · exact .number hv hw

/-- How the text of a value starts. -/
def Starts (v : Json) (c : Char) : Prop :=
  match v with
  | .str _ => c = '\x22'
  | .arr _ => c = '['
  | .obj _ => c = '\x7b'
  | _ => isAtomChar c = true

theorem exists_start (l : Layout) (v : Json) (k : Nat) :
    ∃ c cs, chars l k v = c :: cs ∧ Starts v c := by
  have hatom {v : Json} (h : IsAtom v (chars l k v))
      (hs : ∀ c, isAtomChar c = true → Starts v c) :
      ∃ c cs, chars l k v = c :: cs ∧ Starts v c := by
    obtain ⟨c, cs, hcs⟩ := List.exists_cons_of_ne_nil h.ne_nil
    exact ⟨c, cs, hcs, hs c (h.isAtomChar_of_mem (hcs ▸ List.mem_cons_self))⟩
  cases v with
  | null => exact ⟨'n', _, rfl, rfl⟩
  | bool b => cases b <;> exact ⟨_, _, rfl, rfl⟩
  | int n => exact hatom (isAtom_int n k) fun c hc => hc
  | float x => exact hatom (isAtom_float x k) fun c hc => hc
  | str s => exact ⟨_, _, rfl, rfl⟩
  | arr items => cases items <;> exact ⟨_, _, rfl, rfl⟩
  | obj fields => cases fields <;> exact ⟨_, _, rfl, rfl⟩

/-- Two values with texts that start the same start with the same character. -/
theorem starts_same {v w : Json} {k k' : Nat} {r r' : List Char}
    (h : chars compact k v ++ r = chars compact k' w ++ r') : ∃ c, Starts v c ∧ Starts w c := by
  obtain ⟨c, cs, hcs, hc⟩ := exists_start compact v k
  obtain ⟨d, ds, hds, hd⟩ := exists_start compact w k'
  rw [hcs, hds] at h
  obtain rfl := (List.cons.inj h).1
  exact ⟨c, hc, hd⟩

/-- The text of the value ends where it does, whatever value there might be in its place. -/
def Ends (v : Json) : Prop :=
  ∀ {w : Json} {k k' : Nat} {r r' : List Char}, Delimited r → Delimited r' →
    chars compact k v ++ r = chars compact k' w ++ r' → Twin v w ∧ r = r'

theorem IsAtom.ends (v : Json) (hv : ∀ k, IsAtom v (chars compact k v))
    (hstart : ∀ c, Starts v c → isAtomChar c = true) : Ends v := by
  intro w k k' r r' hr hr' h
  -- the other value starts with a character of words and numbers, and so it is one
  obtain ⟨c, hcv, hcw⟩ := starts_same h
  have hatom := hstart c hcv
  cases w with
  | null => exact (hv k).append_inj (.word (by simp [wordTexts, chars])) hr hr' h
  | bool b =>
    cases b <;> exact (hv k).append_inj (.word (by simp [wordTexts, chars])) hr hr' h
  | int n => exact (hv k).append_inj (isAtom_int n k') hr hr' h
  | float x => exact (hv k).append_inj (isAtom_float x k') hr hr' h
  | str _ | arr _ | obj _ =>
    rw [show c = _ from hcw] at hatom
    exact absurd hatom (by decide)

section

variable (k k' : Nat) (r r' : List Char)

theorem chars_arr_cons (v : Json) (vs : List Json) :
    chars compact k (.arr (v :: vs)) ++ r =
      '[' :: (chars compact (k + 1) v ++ (moreItems compact (k + 1) vs ++ ']' :: r)) := by
  simp [chars, Layout.newline, compact]

theorem moreItems_cons (v : Json) (vs : List Json) :
    moreItems compact k (v :: vs) ++ ']' :: r =
      ',' :: (chars compact k v ++ (moreItems compact k vs ++ ']' :: r)) := by
  simp [moreItems, Layout.newline, compact]

theorem chars_obj_cons (key : String) (v : Json) (fs : List (String × Json)) :
    chars compact k (.obj ((key, v) :: fs)) ++ r =
      '\x7b' :: (strText true key ++ ':' ::
        (chars compact (k + 1) v ++ (moreFields compact (k + 1) fs ++ '\x7d' :: r))) := by
  simp [chars, Layout.newline, compact]

theorem moreFields_cons (key : String) (v : Json) (fs : List (String × Json)) :
    moreFields compact k ((key, v) :: fs) ++ '\x7d' :: r =
      ',' :: (strText true key ++ ':' ::
        (chars compact k v ++ (moreFields compact k fs ++ '\x7d' :: r))) := by
  simp [moreFields, Layout.newline, compact]

theorem delimited_moreItems (vs : List Json) : Delimited (moreItems compact k vs ++ ']' :: r) := by
  cases vs with
  | nil => exact delimited_cons (by simp) r
  | cons v vs =>
    rw [moreItems_cons]
    exact delimited_cons (by simp) _

theorem delimited_moreFields (fs : List (String × Json)) :
    Delimited (moreFields compact k fs ++ '\x7d' :: r) := by
  cases fs with
  | nil => exact delimited_cons (by simp) r
  | cons e fs =>
    rw [moreFields_cons]
    exact delimited_cons (by simp) _

end

/-- Items end at the closing bracket. -/
theorem moreItems_append_inj {k k' : Nat} {r r' : List Char} {vs : List Json}
    (hvs : ∀ v ∈ vs, Ends v) :
    ∀ {ws : List Json}, moreItems compact k vs ++ ']' :: r = moreItems compact k' ws ++ ']' :: r' →
      List.Forall₂ Twin vs ws ∧ r = r' := by
  -- Induction on the items: a bracket ends both lists, a comma goes on in both.
  induction vs with
  | nil =>
    intro ws h
    cases ws with
    | nil => exact ⟨.nil, (List.cons.inj h).2⟩
    | cons w ws =>
      rw [moreItems_cons] at h
      exact absurd (List.cons.inj h).1 (by decide)
  | cons v vs ih =>
    intro ws h
    rw [moreItems_cons] at h
    cases ws with
    | nil => exact absurd (List.cons.inj h).1 (by decide)
    | cons w ws =>
      obtain ⟨hv, hvs⟩ := List.forall_mem_cons.1 hvs
      rw [moreItems_cons] at h
      obtain ⟨hvw, hrest⟩ := hv (delimited_moreItems k r vs) (delimited_moreItems k' r' ws)
        (List.cons.inj h).2
      obtain ⟨hvsws, hr⟩ := ih hvs hrest
      exact ⟨.cons hvw hvsws, hr⟩

/-- Fields end at the closing brace. -/
theorem moreFields_append_inj {k k' : Nat} {r r' : List Char} {fs : List (String × Json)}
    (hfs : ∀ e ∈ fs, Ends e.2) :
    ∀ {gs : List (String × Json)},
      moreFields compact k fs ++ '\x7d' :: r = moreFields compact k' gs ++ '\x7d' :: r' →
        TwinFields fs gs ∧ r = r' := by
  induction fs with
  | nil =>
    intro gs h
    cases gs with
    | nil => exact ⟨.nil, (List.cons.inj h).2⟩
    | cons e gs =>
      rw [moreFields_cons] at h
      exact absurd (List.cons.inj h).1 (by decide)
  | cons e fs ih =>
    intro gs h
    rw [moreFields_cons] at h
    cases gs with
    | nil => exact absurd (List.cons.inj h).1 (by decide)
    | cons e' gs =>
      obtain ⟨he, hfs⟩ := List.forall_mem_cons.1 hfs
      rw [moreFields_cons] at h
      obtain ⟨hkey, hvalue⟩ := strText_append_inj (List.cons.inj h).2
      obtain ⟨hv, hrest⟩ := he (delimited_moreFields k r fs) (delimited_moreFields k' r' gs)
        (List.cons.inj hvalue).2
      obtain ⟨hfsgs, hr⟩ := ih hfs hrest
      exact ⟨.cons ⟨hkey, hv⟩ hfsgs, hr⟩

/-- No value starts like the end of an array. -/
theorem not_starts_bracket (v : Json) : ¬Starts v ']' := by
  intro h
  cases v with
  | null | bool _ | int _ | float _ =>
    exact absurd (show isAtomChar ']' = true from h) (by decide)
  | str _ | arr _ | obj _ => simp [Starts] at h

theorem append_ne_bracket (v : Json) (k : Nat) (r r' : List Char) :
    chars compact k v ++ r ≠ ']' :: r' := by
  intro h
  obtain ⟨c, cs, hcs, hc⟩ := exists_start compact v k
  rw [hcs] at h
  exact not_starts_bracket v ((List.cons.inj h).1 ▸ hc)

theorem ends_arr {items : List Json} (h : ∀ v ∈ items, Ends v) : Ends (.arr items) := by
  intro w k k' r r' hr hr' heq
  obtain ⟨c, hcv, hcw⟩ := starts_same heq
  obtain rfl : c = '[' := hcv
  cases w with
  | null | bool _ | int _ | float _ =>
    exact absurd (show isAtomChar '[' = true from hcw) (by decide)
  | str _ | obj _ => exact absurd hcw (by simp [Starts])
  | arr items' =>
    cases items with
    | nil =>
      cases items' with
      | nil => exact ⟨.arr .nil, (List.cons.inj (List.cons.inj heq).2).2⟩
      | cons w ws =>
        rw [chars_arr_cons] at heq
        exact absurd (List.cons.inj heq).2.symm (append_ne_bracket w _ _ _)
    | cons v vs =>
      rw [chars_arr_cons] at heq
      cases items' with
      | nil => exact absurd (List.cons.inj heq).2 (append_ne_bracket v _ _ _)
      | cons w ws =>
        rw [chars_arr_cons] at heq
        -- the first item has no comma before it; with one, both arrays are lists of more items
        have hmore : moreItems compact (k + 1) (v :: vs) ++ ']' :: r =
            moreItems compact (k' + 1) (w :: ws) ++ ']' :: r' := by
          rw [moreItems_cons, moreItems_cons, (List.cons.inj heq).2]
        obtain ⟨hitems, hrest⟩ := moreItems_append_inj h hmore
        exact ⟨.arr hitems, hrest⟩

theorem ends_obj {fields : List (String × Json)} (h : ∀ e ∈ fields, Ends e.2) :
    Ends (.obj fields) := by
  intro w k k' r r' hr hr' heq
  obtain ⟨c, hcv, hcw⟩ := starts_same heq
  obtain rfl : c = '\x7b' := hcv
  cases w with
  | null | bool _ | int _ | float _ =>
    exact absurd (show isAtomChar '\x7b' = true from hcw) (by decide)
  | str _ | arr _ => exact absurd hcw (by simp [Starts])
  | obj fields' =>
    cases fields with
    | nil =>
      cases fields' with
      | nil => exact ⟨TwinFields.twin .nil, (List.cons.inj (List.cons.inj heq).2).2⟩
      | cons e' fs' =>
        rw [chars_obj_cons] at heq
        exact absurd (List.cons.inj (List.cons.inj heq).2).1 (by decide)
    | cons e fs =>
      rw [chars_obj_cons] at heq
      cases fields' with
      | nil => exact absurd (List.cons.inj (List.cons.inj heq).2).1 (by decide)
      | cons e' fs' =>
        rw [chars_obj_cons] at heq
        have hmore : moreFields compact (k + 1) (e :: fs) ++ '\x7d' :: r =
            moreFields compact (k' + 1) (e' :: fs') ++ '\x7d' :: r' := by
          rw [moreFields_cons, moreFields_cons, (List.cons.inj heq).2]
        obtain ⟨hfields, hrest⟩ := moreFields_append_inj h hmore
        exact ⟨TwinFields.twin hfields, hrest⟩

/-- A value ends where its compact text does. -/
theorem chars_compact_append_inj (v : Json) : Ends v := by
  -- Induction on the value; what may follow is general, as it changes from item to item.
  induction v using Json.induction with
  | null => exact IsAtom.ends .null (fun k => .word (by simp [wordTexts, chars])) fun c hc => hc
  | bool b =>
    refine IsAtom.ends (.bool b) (fun k => ?_) fun c hc => hc
    cases b <;> exact .word (by simp [wordTexts, chars])
  | int n => exact IsAtom.ends (.int n) (isAtom_int n) fun c hc => hc
  | float x => exact IsAtom.ends (.float x) (isAtom_float x) fun c hc => hc
  | str s =>
    intro w k k' r r' hr hr' heq
    obtain ⟨c, hcv, hcw⟩ := starts_same heq
    obtain rfl : c = '\x22' := hcv
    cases w with
    | null | bool _ | int _ | float _ =>
      exact absurd (show isAtomChar '\x22' = true from hcw) (by decide)
    | arr _ | obj _ => exact absurd hcw (by simp [Starts])
    | str t =>
      obtain ⟨rfl, hrest⟩ := @strText_append_inj true s t r r' heq
      exact ⟨.str s, hrest⟩
  | arr items ih => exact ends_arr ih
  | obj fields ih => exact ends_obj ih

/-! ## Twins -/

theorem moreItems_congr {l : Layout} {k : Nat} {vs ws : List Json}
    (h : List.Forall₂ (fun v w => ∀ k, chars l k v = chars l k w) vs ws) :
    moreItems l k vs = moreItems l k ws := by
  induction h with
  | nil => rfl
  | cons hvw _ ih => rw [moreItems, moreItems, hvw, ih]

theorem moreFields_congr {l : Layout} {k : Nat} {fs gs : List (String × Json)}
    (h : Table.Rel (fun v w => ∀ k, chars l k v = chars l k w) fs gs) :
    moreFields l k fs = moreFields l k gs := by
  induction h with
  | nil => rfl
  | cons he _ ih => rw [moreFields, moreFields, he.1, he.2, ih]

/-- Twins have one text in every layout. -/
theorem Twin.chars_eq {v w : Json} (h : Twin v w) (l : Layout) :
    ∀ k, chars l k v = chars l k w := by
  refine Twin.induction ?null ?bool ?str ?number ?arr ?obj h
  case null => exact fun k => rfl
  case bool => exact fun b k => rfl
  case str => exact fun s k => rfl
  case number =>
    intro v w cs hv hw k
    have htext {u : Json} {cs : List Char} (h : u.numberText? = some cs) : chars l k u = cs := by
      cases u with
      | int n => exact Option.some_inj.1 ((numberText?.eq_1 n).symm.trans h)
      | float x => exact Option.some_inj.1 ((numberText?.eq_2 x).symm.trans h)
      | _ => cases h
    rw [htext hv, htext hw]
  case arr =>
    intro items items' h k
    cases h with
    | nil => rfl
    | cons hv h => rw [chars, chars, hv, moreItems_congr h]
  case obj =>
    intro fields fields' h k
    cases h with
    | nil => rfl
    | cons he h => rw [chars, chars, he.1, he.2, moreFields_congr h]

/-- Values are twins just if they have one compact text. -/
theorem print_compact_eq_iff {v w : Json} : v.print compact = w.print compact ↔ Twin v w := by
  constructor
  · intro h
    have htext : chars compact 0 v ++ [] = chars compact 0 w ++ [] :=
      congrArg (· ++ []) (String.ofList_injective h)
    exact (chars_compact_append_inj v delimited_nil delimited_nil htext).1
  · intro h
    rw [print, print, h.chars_eq compact 0]

/-! ## Canonical numbers -/

/-- The numbers in the value are canonical. -/
inductive IsCanonical : Json → Prop where
  | null : IsCanonical .null
  | bool (b : Bool) : IsCanonical (.bool b)
  | int (n : Int) : IsCanonical (.int n)
  | float {x : Binary64} (h : x.IsCanonical) : IsCanonical (.float x)
  | str (s : String) : IsCanonical (.str s)
  | arr {items : List Json} (h : ∀ v ∈ items, IsCanonical v) : IsCanonical (.arr items)
  | obj {fields : List (String × Json)} (h : ∀ e ∈ fields, IsCanonical e.2) :
      IsCanonical (.obj fields)

/-- What a text can have has canonical numbers. -/
theorem IsReadable.isCanonical {v : Json} (hv : v.IsReadable) : v.IsCanonical := by
  induction hv with
  | null => exact .null
  | bool b => exact .bool b
  | int _ => exact .int _
  | float h => exact .float h.isCanonical
  | str s => exact .str s
  | arr _ ih => exact .arr ih
  | obj _ _ ih => exact .obj ih

/-- Canonical numbers with one text are equal. -/
theorem IsAtom.eq_of_isCanonical {v w : Json} {cs ds : List Char} (hv : IsAtom v cs)
    (hw : IsAtom w ds) (hcv : v.IsCanonical) (hcw : w.IsCanonical) (h : cs = ds) : v = w := by
  have hdigits (n : Nat) := (Decimal.areDigits_toDigits n).areMarks
  have hmarks := Binary64.areMarks_magnitudeText
  cases hv with
  | word hv =>
    -- a word is the text of no number that is written in digits
    cases hw with
    | word hw =>
      have hnodup : (wordTexts.map Prod.snd).Nodup := by decide
      exact congrArg Prod.fst (List.inj_on_of_nodup_map hnodup hv hw h)
    | int n =>
      exact absurd (List.mem_map_of_mem (h ▸ hv)) (not_word (areMarks_signed _ (hdigits _)))
    | float negative m e =>
      exact absurd (List.mem_map_of_mem (h ▸ hv)) (not_word (areMarks_signed _ (hmarks m e)))
  | int n =>
    cases hw with
    | word hw =>
      exact absurd (List.mem_map_of_mem (h ▸ hw)) (not_word (areMarks_signed _ (hdigits _)))
    | int n' =>
      -- two integers: the same sign and the same digits
      obtain ⟨hsign, hdigits⟩ := signed_inj (head_toDigits _) (head_toDigits _) h
      have habs := Decimal.eq_of_toDigits_eq hdigits
      rw [decide_eq_decide] at hsign
      exact congrArg Json.int (by omega)
    | float negative m e =>
      -- an integer and a float: only the float has a mark
      cases hcw with | float hx => ?_
      cases hx with | finite _ hx => ?_
      have hm := Binary64.isMagnitude_magnitudeText hx
      obtain ⟨-, hdigits⟩ := signed_inj (head_toDigits _) hm.head h
      exact absurd (hdigits ▸ Decimal.areDigits_toDigits _) hm.mark
  | float negative m e =>
    cases hcv with | float hx => ?_
    cases hx with | finite _ hx => ?_
    have hm := Binary64.isMagnitude_magnitudeText hx
    cases hw with
    | word hw =>
      exact absurd (List.mem_map_of_mem (h ▸ hw)) (not_word (areMarks_signed _ (hmarks m e)))
    | int n =>
      obtain ⟨-, hdigits⟩ := signed_inj hm.head (head_toDigits _) h
      exact absurd (hdigits ▸ Decimal.areDigits_toDigits _) hm.mark
    | float negative' m' e' =>
      -- two floats: the same sign, and magnitudes that round alike
      cases hcw with | float hx' => ?_
      cases hx' with | finite _ hx' => ?_
      obtain ⟨rfl, htext⟩ := signed_inj hm.head (Binary64.isMagnitude_magnitudeText hx').head h
      obtain ⟨rfl, rfl⟩ := Binary64.magnitudeText_injective hx hx' htext
      rfl

/-- Twins with canonical numbers are equal. -/
theorem Twin.eq_of_isCanonical {v w : Json} (h : Twin v w) :
    v.IsCanonical → w.IsCanonical → v = w := by
  refine Twin.induction ?null ?bool ?str ?number ?arr ?obj h
  case null => exact fun _ _ => rfl
  case bool => exact fun b _ _ => rfl
  case str => exact fun s _ _ => rfl
  case number =>
    intro v w cs hv hw hcv hcw
    exact (isAtom_of_numberText? hv).eq_of_isCanonical (isAtom_of_numberText? hw) hcv hcw rfl
  case arr =>
    intro items items' h hitems hitems'
    cases hitems with | arr hitems => ?_
    cases hitems' with | arr hitems' => ?_
    congr 1
    induction h with
    | nil => rfl
    | cons hv _ ih =>
      obtain ⟨hcv, hitems⟩ := List.forall_mem_cons.1 hitems
      obtain ⟨hcw, hitems'⟩ := List.forall_mem_cons.1 hitems'
      rw [hv hcv hcw, ih hitems hitems']
  case obj =>
    intro fields fields' h hfields hfields'
    cases hfields with | obj hfields => ?_
    cases hfields' with | obj hfields' => ?_
    congr 1
    induction h with
    | nil => rfl
    | cons he _ ih =>
      obtain ⟨hcv, hfields⟩ := List.forall_mem_cons.1 hfields
      obtain ⟨hcw, hfields'⟩ := List.forall_mem_cons.1 hfields'
      rw [Prod.ext he.1 (he.2 hcv hcw), ih hfields hfields']

/-- Values with canonical numbers and one compact text are equal. -/
theorem print_compact_injective {v w : Json} (hv : v.IsCanonical) (hw : w.IsCanonical)
    (h : v.print compact = w.print compact) : v = w :=
  (print_compact_eq_iff.1 h).eq_of_isCanonical hv hw

/-! ## Sorted keys -/

theorem IsCanonical.sortKeys {v : Json} (hv : v.IsCanonical) : v.sortKeys.IsCanonical := by
  induction hv with
  | null => exact .null
  | bool b => exact .bool b
  | int n => exact .int n
  | float h => exact .float h
  | str s => exact .str s
  | arr _ ih =>
    rw [Json.sortKeys, sortItems_eq_map]
    refine .arr fun w hw => ?_
    obtain ⟨v, hv, rfl⟩ := List.mem_map.1 hw
    exact ih v hv
  | obj _ ih =>
    rw [Json.sortKeys, sortFields_eq_map]
    refine .obj fun e he => ?_
    obtain ⟨e', he', rfl⟩ := List.mem_map.1 ((List.mergeSort_perm _ _).mem_iff.1 he)
    exact ih e' he'

end SequenceApi.Json
