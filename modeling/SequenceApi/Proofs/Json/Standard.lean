import SequenceApi.Proofs.Json.Distinct
import SequenceApi.Proofs.Json.RoundTrip

/-!
# Standard texts

The standard grammar of JSON has no words for numbers that are not finite; the printer has. A value
without such numbers is printed as a text of the grammar, in every layout. The text of any other
value is none: outside its strings stands the initial of `NaN` or of `Infinity`, and no text of the
grammar has it there.

## Main definitions

* `Json.IsStandard`, `Json.IsStandardText`: the grammar
* `Json.FloatsAre`, `Json.IsFinite`: what the numbers in a value are
* `Json.outside`: what stands outside strings

## Main results

* `Json.isStandard_chars`: what is printed without numbers that are not finite
* `Json.IsStandard.shows`, `Json.shows_chars`: what stands outside the strings of the grammar's texts,
  and of printed ones
* `Json.isStandardText_chars_iff`: which printed texts are standard
-/

namespace SequenceApi.Json

open Text Decimal

/-! ## The grammar -/

/-- White space between lexemes. -/
abbrev Blanks := {cs : List Char // ∀ c ∈ cs, isSpace c = true}

/-- White space before a mark and after it. -/
structure Gap where
  before : Blanks
  after : Blanks

/-- A mark with white space around it. -/
def Gap.text (g : Gap) (mark : Char) : List Char :=
  g.before.1 ++ mark :: g.after.1

/-- Parts between brackets: the first one, and the others with a comma before each. -/
def listText (opened closed : Blanks) (first : List Char) (more : List (Gap × List Char)) :
    List Char :=
  opened.1 ++ first ++ more.flatMap (fun e => e.1.text ',' ++ e.2) ++ closed.1

/-- What may stand between the quotes of a string. -/
inductive IsQuoted : List Char → Prop where
  | nil : IsQuoted []
  | plain {c : Char} {cs : List Char} (hq : c ≠ '\x22') (hb : c ≠ '\\') (hc : 0x20 ≤ c.toNat)
      (h : IsQuoted cs) : IsQuoted (c :: cs)
  | short {c : Char} {cs : List Char} (hc : c ∈ ['\x22', '\\', '/', 'b', 'f', 'n', 'r', 't'])
      (h : IsQuoted cs) : IsQuoted ('\\' :: c :: cs)
  | unit {digits cs : List Char} (hlength : digits.length = 4)
      (hdigits : ∀ d ∈ digits, (hexValue d).isSome = true) (h : IsQuoted cs) :
      IsQuoted ('\\' :: 'u' :: digits ++ cs)

/-- A string. -/
def IsString (cs : List Char) : Prop :=
  ∃ body, IsQuoted body ∧ cs = '\x22' :: body ++ ['\x22']

/-- The whole part of a number starts with a zero only if it is one. -/
structure IsWhole (cs : List Char) : Prop where
  areDigits : AreDigits cs
  ne_nil : cs ≠ []
  lead : cs.head? = some '0' → cs = ['0']

/-- A point and digits, or nothing. -/
inductive IsFraction : List Char → Prop where
  | none : IsFraction []
  | some {digits : List Char} (hd : AreDigits digits) (hne : digits ≠ []) :
      IsFraction ('.' :: digits)

/-- A power of ten, with a sign or without one, or nothing. -/
inductive IsPower : List Char → Prop where
  | none : IsPower []
  | some {mark : Char} {sign digits : List Char} (hmark : mark ∈ ['e', 'E'])
      (hsign : sign ∈ [[], ['+'], ['-']]) (hd : AreDigits digits) (hne : digits ≠ []) :
      IsPower (mark :: sign ++ digits)

/-- A number. -/
inductive IsNumber : List Char → Prop where
  | mk (negative : Bool) {whole fraction power : List Char} (hw : IsWhole whole)
      (hf : IsFraction fraction) (hp : IsPower power) :
      IsNumber (signed negative (whole ++ fraction ++ power))

/-- A field of an object. -/
structure Member where
  key : List Char
  gap : Gap
  value : List Char
  isString_key : IsString key

def Member.text (m : Member) : List Char :=
  m.key ++ m.gap.text ':' ++ m.value

/-- The text of a value in the standard grammar. -/
inductive IsStandard : List Char → Prop where
  | word {cs : List Char} (h : cs ∈ ["null".toList, "true".toList, "false".toList]) : IsStandard cs
  | number {cs : List Char} (h : IsNumber cs) : IsStandard cs
  | string {cs : List Char} (h : IsString cs) : IsStandard cs
  | noItems (b : Blanks) : IsStandard ('[' :: b.1 ++ [']'])
  | items (opened closed : Blanks) {first : List Char} {more : List (Gap × List Char)}
      (hfirst : IsStandard first) (hmore : ∀ e ∈ more, IsStandard e.2) :
      IsStandard ('[' :: listText opened closed first more ++ [']'])
  | noMembers (b : Blanks) : IsStandard ('\x7b' :: b.1 ++ ['\x7d'])
  | members (opened closed : Blanks) {first : Member} {more : List (Gap × Member)}
      (hfirst : IsStandard first.value) (hmore : ∀ e ∈ more, IsStandard e.2.value) :
      IsStandard ('\x7b' :: listText opened closed first.text (more.map fun e => (e.1, e.2.text)) ++
        ['\x7d'])

/-- A text of the standard grammar: a value with white space around it. -/
def IsStandardText (cs : List Char) : Prop :=
  ∃ (before after : Blanks) (value : List Char), IsStandard value ∧ cs = before.1 ++ value ++ after.1

/-! ## Numbers in values -/

variable {P : Binary64 → Prop} {v : Json}

/-- The numbers in the value are of a kind; integers are not asked for. -/
def FloatsAre (P : Binary64 → Prop) (v : Json) : Prop :=
  ∀ x, v.Contains (.float x) → P x

/-- No number in the value is undefined or infinite. -/
def IsFinite (v : Json) : Prop :=
  v.FloatsAre fun x => x.isFinite = true

/-- A value that is no number and has no parts. -/
theorem floatsAre_atom (hfloat : ∀ x, v ≠ .float x) (harr : ∀ items, v ≠ .arr items)
    (hobj : ∀ fields, v ≠ .obj fields) : v.FloatsAre P := by
  intro x h
  exact absurd ((contains_atom_iff harr hobj).1 h).symm (hfloat x)

@[simp] theorem floatsAre_null : FloatsAre P .null :=
  floatsAre_atom (by simp) (by simp) (by simp)

@[simp] theorem floatsAre_bool (b : Bool) : FloatsAre P (.bool b) :=
  floatsAre_atom (by simp) (by simp) (by simp)

@[simp] theorem floatsAre_int (n : Int) : FloatsAre P (.int n) :=
  floatsAre_atom (by simp) (by simp) (by simp)

@[simp] theorem floatsAre_str (s : String) : FloatsAre P (.str s) :=
  floatsAre_atom (by simp) (by simp) (by simp)

@[simp] theorem floatsAre_float {x : Binary64} : FloatsAre P (.float x) ↔ P x := by
  constructor
  · exact fun h => h x (.self _)
  · intro h y hy
    rw [contains_atom_iff (by simp) (by simp)] at hy
    rwa [Json.float.inj hy]

@[simp] theorem floatsAre_arr {items : List Json} :
    FloatsAre P (.arr items) ↔ ∀ v ∈ items, v.FloatsAre P := by
  constructor
  · exact fun h v hv x hx => h x (.item hv hx)
  · intro h x hx
    obtain heq | ⟨v, hv, hx⟩ := contains_arr_iff.1 hx
    · cases heq
    · exact h v hv x hx

@[simp] theorem floatsAre_obj {fields : List (String × Json)} :
    FloatsAre P (.obj fields) ↔ ∀ e ∈ fields, e.2.FloatsAre P := by
  constructor
  · exact fun h e he x hx => h x (.field he hx)
  · intro h x hx
    obtain heq | ⟨e, he, hx⟩ := contains_obj_iff.1 hx
    · cases heq
    · exact h e he x hx

mutual

/-- Whether all numbers in the value are finite. -/
def areFinite : Json → Bool
  | .float x => x.isFinite
  | .arr items => areFiniteItems items
  | .obj fields => areFiniteFields fields
  | _ => true

/-- Whether all numbers in items are finite. -/
def areFiniteItems : List Json → Bool
  | [] => true
  | v :: vs => areFinite v && areFiniteItems vs

/-- Whether all numbers in the values of fields are finite. -/
def areFiniteFields : List (String × Json) → Bool
  | [] => true
  | (_, v) :: fs => areFinite v && areFiniteFields fs

end

theorem areFiniteItems_eq_all (items : List Json) : areFiniteItems items = items.all areFinite := by
  induction items with
  | nil => rfl
  | cons v items ih => rw [areFiniteItems, ih, List.all_cons]

theorem areFiniteFields_eq_all (fields : List (String × Json)) :
    areFiniteFields fields = fields.all fun e => areFinite e.2 := by
  induction fields with
  | nil => rfl
  | cons e fields ih => rw [areFiniteFields, ih, List.all_cons]

theorem areFinite_iff {v : Json} : v.areFinite = true ↔ v.IsFinite := by
  rw [IsFinite]
  induction v using Json.induction with
  | null | bool _ | int _ | str _ => simp [areFinite]
  | float x => rw [areFinite, floatsAre_float]
  | arr items ih =>
    rw [areFinite, areFiniteItems_eq_all, List.all_eq_true, floatsAre_arr]
    exact forall₂_congr ih
  | obj fields ih =>
    rw [areFinite, areFiniteFields_eq_all, List.all_eq_true, floatsAre_obj]
    exact forall₂_congr ih

instance (v : Json) : Decidable v.IsFinite :=
  decidable_of_iff _ areFinite_iff

/-! ## Printed texts -/

theorem moreItems_eq_flatMap (l : Layout) (k : Nat) (vs : List Json) :
    moreItems l k vs = vs.flatMap fun v => l.itemMark ++ l.newline k ++ chars l k v := by
  induction vs with
  | nil => rfl
  | cons v vs ih => rw [moreItems, ih, List.flatMap_cons]

theorem moreFields_eq_flatMap (l : Layout) (k : Nat) (fs : List (String × Json)) :
    moreFields l k fs = fs.flatMap fun e =>
      l.itemMark ++ l.newline k ++ (strText l.ascii e.1 ++ l.fieldMark ++ chars l k e.2) := by
  induction fs with
  | nil => rfl
  | cons e fs ih =>
    rw [moreFields, ih, List.flatMap_cons]
    simp only [List.append_assoc]

theorem isSome_hexValue_of_mem {width n : Nat} {d : Char} (h : d ∈ hexDigits width n) :
    (hexValue d).isSome = true := by
  induction width generalizing n with
  | zero => cases h
  | succ width ih =>
    rcases List.mem_append.1 h with h | h
    · exact ih h
    · rw [List.mem_singleton.1 h, hexValue_hexDigit (Nat.mod_lt n (by decide))]
      rfl

theorem isQuoted_unitEscape (n : Nat) {cs : List Char} (h : IsQuoted cs) :
    IsQuoted (unitEscape n ++ cs) :=
  .unit (length_hexDigits 4 n) (fun _ => isSome_hexValue_of_mem) h

/-- What a backslash may stand before. -/
theorem mem_escapes_of_shortEscape {x c : Char} (h : shortEscape x = some c) :
    x ∈ ['\x22', '\\', '/', 'b', 'f', 'n', 'r', 't'] := by
  by_contra hx
  simp only [List.mem_cons, List.not_mem_nil, or_false, not_or] at hx
  simp [shortEscape, hx] at h

/-- A spelled character in front. -/
theorem Spells.isQuoted {c : Char} {s cs : List Char} (hs : Spells c s) (h : IsQuoted cs) :
    IsQuoted (s ++ cs) := by
  cases hs with
  | plain hq hb hc => exact .plain hq hb hc h
  | short _ hx => exact .short (mem_escapes_of_shortEscape hx) h
  | unit _ => exact isQuoted_unitEscape _ h
  | pair _ =>
    rw [List.append_assoc]
    exact isQuoted_unitEscape _ (isQuoted_unitEscape _ h)

theorem isString_strText (ascii : Bool) (s : String) : IsString (strText ascii s) := by
  refine ⟨s.toList.flatMap (charText ascii), ?_, rfl⟩
  induction s.toList with
  | nil => exact .nil
  | cons c cs ih =>
    rw [List.flatMap_cons]
    exact (spells_charText ascii c).isQuoted ih

/-- The text of figures is a number. -/
theorem isNumber_text (f : Figures) (negative : Bool) : IsNumber (signed negative f.text) := by
  refine .mk negative ⟨f.areDigits_whole, f.whole_ne_nil, f.lead⟩ ?fraction ?power
  case fraction =>
    rw [Figures.pointText]
    split
    · exact .none
    · next hne => exact .some f.areDigits_fraction (by simpa using hne)
  case power =>
    rw [Figures.powerText]
    split
    · exact .none
    · next down places hpower =>
      have hsign : [if down then '-' else '+'] ∈ [[], ['+'], ['-']] := by cases down <;> simp
      exact .some (by simp) hsign (f.areDigits_places _ hpower) (f.places_ne_nil _ hpower)

/-- The text of a word or number is standard, unless the number is not finite. -/
theorem IsAtom.isStandard {cs : List Char} (h : IsAtom v cs) (hv : v.IsReadable)
    (hfinite : v.IsFinite) : IsStandard cs := by
  cases h with
  | word h =>
    simp only [wordTexts, List.mem_cons, Prod.mk.injEq, List.not_mem_nil, or_false] at h
    rcases h with ⟨rfl, rfl⟩ | ⟨rfl, rfl⟩ | ⟨rfl, rfl⟩ | ⟨rfl, rfl⟩ | ⟨rfl, rfl⟩ | ⟨rfl, rfl⟩
    · exact .word (by simp)
    · exact .word (by simp)
    · exact .word (by simp)
    -- the last three words are those of numbers that are not finite
    all_goals
      have h := floatsAre_float.1 hfinite
      cases h
  | int n =>
    have htext : (Figures.ofNat n.natAbs).text = Nat.toDigits 10 n.natAbs := by
      simp [Figures.text, Figures.pointText, Figures.powerText, Figures.ofNat]
    rw [← htext]
    exact .number (isNumber_text _ _)
  | float negative m e =>
    cases hv with | float hx => ?_
    cases hx with | finite _ h he => ?_
    obtain ⟨f, htext, -⟩ := Binary64.exists_figures_magnitudeText h he
    rw [← htext]
    exact .number (isNumber_text f negative)

section

variable {l : Layout} (hl : l.IsRegular)

/-- The white space of a line's start. -/
def Layout.blanks (l : Layout) (k : Nat) : Blanks :=
  ⟨l.newline k, isSpace_of_mem_newline⟩

include hl

/-- A separator and the start of the next line. -/
theorem exists_gap_item (k : Nat) : ∃ g : Gap, l.itemMark ++ l.newline k = g.text ',' := by
  obtain ⟨blanks, hmark, hblanks⟩ := hl.item
  refine ⟨⟨⟨[], by simp⟩, ⟨blanks ++ l.newline k, ?_⟩⟩, by rw [hmark]; rfl⟩
  exact List.forall_mem_append.2 ⟨hblanks, isSpace_of_mem_newline⟩

theorem exists_gap_field : ∃ g : Gap, l.fieldMark = g.text ':' := by
  obtain ⟨blanks, hmark, hblanks⟩ := hl.field
  exact ⟨⟨⟨[], by simp⟩, ⟨blanks, hblanks⟩⟩, hmark⟩

/-- An array that is not empty is printed as a list of its items. -/
theorem exists_listText_arr (k : Nat) (v : Json) (vs : List Json) :
    ∃ g : Gap, chars l k (.arr (v :: vs)) =
      '[' :: listText (l.blanks (k + 1)) (l.blanks k) (chars l (k + 1) v)
        (vs.map fun w => (g, chars l (k + 1) w)) ++ [']'] := by
  obtain ⟨g, hg⟩ := exists_gap_item hl (k + 1)
  refine ⟨g, ?_⟩
  rw [chars, moreItems_eq_flatMap, hg, listText, List.flatMap_map]
  simp [Layout.blanks]

/-- An object that is not empty is printed as a list of its fields. -/
theorem exists_listText_obj (k : Nat) (e : String × Json) (fs : List (String × Json)) :
    ∃ (g : Gap) (member : String × Json → Member),
      (∀ f, (member f).value = chars l (k + 1) f.2) ∧
        chars l k (.obj (e :: fs)) =
          '\x7b' :: listText (l.blanks (k + 1)) (l.blanks k) (member e).text
            ((fs.map fun f => (g, member f)).map fun m => (m.1, m.2.text)) ++ ['\x7d'] := by
  obtain ⟨g, hg⟩ := exists_gap_item hl (k + 1)
  obtain ⟨g', hg'⟩ := exists_gap_field hl
  refine ⟨g, fun f => ⟨strText l.ascii f.1, g', chars l (k + 1) f.2, isString_strText l.ascii f.1⟩,
    fun f => rfl, ?_⟩
  rw [chars, moreFields_eq_flatMap, hg, hg', listText, List.map_map, List.flatMap_map]
  simp [Layout.blanks, Member.text]

/-- A value is printed as a text of the grammar, if the numbers in it are finite. -/
theorem isStandard_chars (hv : v.IsReadable) (hfinite : v.IsFinite) (k : Nat) :
    IsStandard (chars l k v) := by
  -- Induction on the value; its parts are printed one level deeper.
  induction hv generalizing k with
  | null => exact .word (by simp [chars])
  | bool b => cases b <;> exact .word (by simp [chars])
  | int h => exact (isAtom_int _ k).isStandard (.int h) hfinite
  | float h => exact (isAtom_float _ k).isStandard (.float h) hfinite
  | str s => exact .string (isString_strText l.ascii s)
  | @arr items _ ih =>
    have hitems (v : Json) (hv : v ∈ items) : IsStandard (chars l (k + 1) v) :=
      ih v hv (floatsAre_arr.1 hfinite v hv) (k + 1)
    cases items with
    | nil => exact .noItems ⟨[], by simp⟩
    | cons v vs =>
      obtain ⟨g, htext⟩ := exists_listText_arr hl k v vs
      rw [htext]
      refine .items _ _ (hitems v List.mem_cons_self) fun e he => ?_
      obtain ⟨w, hw, rfl⟩ := List.mem_map.1 he
      exact hitems w (List.mem_cons_of_mem v hw)
  | @obj fields _ _ ih =>
    have hfields (e : String × Json) (he : e ∈ fields) : IsStandard (chars l (k + 1) e.2) :=
      ih e he (floatsAre_obj.1 hfinite e he) (k + 1)
    cases fields with
    | nil => exact .noMembers ⟨[], by simp⟩
    | cons e fs =>
      obtain ⟨g, member, hvalue, htext⟩ := exists_listText_obj hl k e fs
      rw [htext]
      refine .members _ _ ?_ fun m hm => ?_
      · rw [hvalue]
        exact hfields e List.mem_cons_self
      · obtain ⟨f, hf, rfl⟩ := List.mem_map.1 hm
        rw [hvalue]
        exact hfields f (List.mem_cons_of_mem e hf)

end

/-! ## Outside strings -/

/-- The characters that stand outside strings. The flag says that the text starts inside of one. -/
def outside : Bool → List Char → List Char
  | _, [] => []
  | false, c :: cs => if c = '\x22' then outside true cs else c :: outside false cs
  | true, '\\' :: _ :: cs => outside true cs
  | true, c :: cs => outside (c ≠ '\x22') cs

/-- The initials of the words for numbers that are not finite. -/
def initials : List Char :=
  ['N', 'I']

/-- Outside the strings of the text there is an initial of such a word just if `Q` holds, and the
text ends outside of strings. -/
def Shows (cs : List Char) (Q : Prop) : Prop :=
  ∃ kept, (∀ rest, outside false (cs ++ rest) = kept ++ outside false rest) ∧
    ((∃ c ∈ kept, c ∈ initials) ↔ Q)

namespace Shows

variable {cs ds : List Char} {Q R : Prop}

/-- A text shows one thing only. -/
theorem iff (h : Shows cs Q) (h' : Shows cs R) : Q ↔ R := by
  obtain ⟨kept, hkept, hq⟩ := h
  obtain ⟨kept', hkept', hr⟩ := h'
  have heq := (hkept []).symm.trans (hkept' [])
  rw [outside, List.append_nil, List.append_nil] at heq
  rw [← hq, ← hr, heq]

theorem congr (h : Shows cs Q) (hiff : Q ↔ R) : Shows cs R := by
  rwa [← propext hiff]

theorem append (h : Shows cs Q) (h' : Shows ds R) : Shows (cs ++ ds) (Q ∨ R) := by
  obtain ⟨kept, hkept, hq⟩ := h
  obtain ⟨kept', hkept', hr⟩ := h'
  refine ⟨kept ++ kept', fun rest => ?_, ?_⟩
  · rw [List.append_assoc, hkept, hkept', List.append_assoc]
  · rw [← hq, ← hr]
    simp only [List.mem_append, or_and_right, exists_or]

theorem flatMap {α : Type} {f : α → List Char} {Q : α → Prop} {l : List α}
    (h : ∀ a ∈ l, Shows (f a) (Q a)) : Shows (l.flatMap f) (∃ a ∈ l, Q a) := by
  induction l with
  | nil => exact ⟨[], fun rest => rfl, by simp⟩
  | cons a l ih =>
    obtain ⟨ha, hl⟩ := List.forall_mem_cons.1 h
    rw [List.flatMap_cons]
    exact (ha.append (ih hl)).congr (by simp)

end Shows

/-- Without strings, a text shows what is in it. -/
theorem shows_of_not_mem {cs : List Char} (h : '\x22' ∉ cs) : Shows cs (∃ c ∈ cs, c ∈ initials) := by
  refine ⟨cs, fun rest => ?_, Iff.rfl⟩
  induction cs with
  | nil => rfl
  | cons c cs ih =>
    rw [List.mem_cons, not_or] at h
    rw [List.cons_append, outside, if_neg (Ne.symm h.1), ih h.2, List.cons_append]

/-- A text without strings and initials. -/
theorem shows_plain {cs : List Char} (h : ∀ c ∈ cs, c ≠ '\x22' ∧ c ∉ initials) : Shows cs False := by
  refine (shows_of_not_mem fun hc => (h _ hc).1 rfl).congr ?_
  simpa using fun c hc => (h c hc).2

/-- Inside a string, a character that is neither a quote nor a backslash is passed over. -/
theorem outside_inner {c : Char} (hq : c ≠ '\x22') (hb : c ≠ '\\') (cs : List Char) :
    outside true (c :: cs) = outside true cs := by
  rw [outside.eq_4]
  · rw [decide_eq_true hq]
  · intro d ds hc
    exact absurd hc hb

theorem outside_hex {digits : List Char} (h : ∀ d ∈ digits, (hexValue d).isSome = true)
    (cs : List Char) : outside true (digits ++ cs) = outside true cs := by
  induction digits with
  | nil => rfl
  | cons d digits ih =>
    obtain ⟨hd, hdigits⟩ := List.forall_mem_cons.1 h
    have hne {c : Char} (hc : hexValue c = none) : d ≠ c := by
      rintro rfl
      rw [hc] at hd
      cases hd
    rw [List.cons_append, outside_inner (hne rfl) (hne rfl), ih hdigits]

/-- A string is passed over up to its closing quote. -/
theorem IsQuoted.outside {body : List Char} (h : IsQuoted body) (rest : List Char) :
    Json.outside true (body ++ '\x22' :: rest) = Json.outside false rest := by
  induction h with
  | nil => rfl
  | plain hq hb _ _ ih => rw [List.cons_append, outside_inner hq hb, ih]
  | short _ _ ih => exact ih
  | unit _ hdigits _ ih =>
    rw [List.append_assoc]
    exact (outside_hex hdigits _).trans ih

/-- Nothing of a string stands outside. -/
theorem IsString.shows {cs : List Char} (h : IsString cs) : Shows cs False := by
  obtain ⟨body, hbody, rfl⟩ := h
  refine ⟨[], fun rest => ?_, by simp⟩
  rw [List.append_assoc, List.cons_append, outside, if_pos rfl]
  exact hbody.outside rest

theorem shows_blanks (b : Blanks) : Shows b.1 False := by
  refine shows_plain fun c hc => ?_
  have hspace := b.2 c hc
  simp only [isSpace, Bool.or_eq_true, beq_iff_eq] at hspace
  rcases hspace with ((rfl | rfl) | rfl) | rfl <;> decide

/-- The brackets and the separators. -/
def isPunctuation (c : Char) : Bool :=
  c == ',' || c == ':' || c == '[' || c == ']' || c == '\x7b' || c == '\x7d'

theorem shows_punctuation {c : Char} (h : isPunctuation c = true) : Shows [c] False := by
  refine shows_plain fun d hd => ?_
  rw [List.mem_singleton.1 hd]
  simp only [isPunctuation, Bool.or_eq_true, beq_iff_eq] at h
  rcases h with ((((rfl | rfl) | rfl) | rfl) | rfl) | rfl <;> decide

theorem Gap.shows (g : Gap) {mark : Char} (h : isPunctuation mark = true) :
    Shows (g.text mark) False := by
  have hparts := ((shows_blanks g.before).append (shows_punctuation h)).append (shows_blanks g.after)
  rw [List.append_assoc] at hparts
  exact hparts.congr (by simp)

/-- The characters of numbers. -/
theorem shows_number {cs : List Char}
    (h : ∀ c ∈ cs, c.isDigit = true ∨ c ∈ ['.', 'e', 'E', '-', '+']) : Shows cs False := by
  refine shows_plain fun c hc => ?_
  rcases h c hc with hdigit | hmark
  · have hne {d : Char} (hd : d.isDigit = false) : c ≠ d := by
      rintro rfl
      rw [hd] at hdigit
      cases hdigit
    exact ⟨hne rfl, by simp [initials, hne (d := 'N') rfl, hne (d := 'I') rfl]⟩
  · simp only [List.mem_cons, List.not_mem_nil, or_false] at hmark
    rcases hmark with rfl | rfl | rfl | rfl | rfl <;> decide

theorem shows_marks {cs : List Char} (h : AreMarks cs) : Shows cs False := by
  refine shows_number fun c hc => (h c hc).imp_right fun hmark => ?_
  simp only [List.mem_cons, List.not_mem_nil, or_false] at hmark ⊢
  tauto

theorem IsNumber.shows {cs : List Char} (h : IsNumber cs) : Shows cs False := by
  refine shows_number ?_
  cases h with | mk negative hw hf hp => ?_
  intro c hc
  rcases mem_signed hc with rfl | hc
  · exact .inr (by decide)
  · rcases List.mem_append.1 hc with hc | hc
    · rcases List.mem_append.1 hc with hc | hc
      · exact .inl (hw.areDigits c hc)
      · cases hf with
        | none => cases hc
        | some hd _ =>
          rcases List.mem_cons.1 hc with rfl | hc
          · exact .inr (by decide)
          · exact .inl (hd c hc)
    · cases hp with
      | none => cases hc
      | some hmark hsign hd _ =>
        simp only [List.cons_append, List.mem_cons, List.mem_append, List.not_mem_nil,
          or_false] at hc hmark hsign
        rcases hc with rfl | hc | hc
        · exact .inr (by rcases hmark with rfl | rfl <;> decide)
        · rcases hsign with rfl | rfl | rfl
          · cases hc
          · exact .inr (by simp [List.mem_singleton.1 hc])
          · exact .inr (by simp [List.mem_singleton.1 hc])
        · exact .inl (hd c hc)

/-- The parts between brackets. -/
theorem shows_listText {α : Type} (opened closed : Blanks) {first : List Char} {more : List α}
    {f : α → Gap × List Char} {Q : Prop} {R : α → Prop} (hfirst : Shows first Q)
    (hmore : ∀ a ∈ more, Shows (f a).2 (R a)) :
    Shows (listText opened closed first (more.map f)) (Q ∨ ∃ a ∈ more, R a) := by
  have hparts : Shows ((more.map f).flatMap fun e => e.1.text ',' ++ e.2) (∃ a ∈ more, R a) := by
    rw [List.flatMap_map]
    exact Shows.flatMap fun a ha => (((f a).1.shows rfl).append (hmore a ha)).congr (by simp)
  exact ((((shows_blanks opened).append hfirst).append hparts).append
    (shows_blanks closed)).congr (by simp)

/-- What stands between brackets. -/
theorem Shows.bracket {cs : List Char} {Q : Prop} (h : Shows cs Q) {opening closing : Char}
    (ho : isPunctuation opening = true) (hc : isPunctuation closing = true) :
    Shows (opening :: cs ++ [closing]) Q :=
  (((shows_punctuation ho).append h).append (shows_punctuation hc)).congr (by simp)

theorem Member.shows {m : Member} {Q : Prop} (h : Shows m.value Q) : Shows m.text Q :=
  ((m.isString_key.shows.append (m.gap.shows rfl)).append h).congr (by simp)

/-- A standard text has no such initial outside its strings. -/
theorem IsStandard.shows {cs : List Char} (h : IsStandard cs) : Shows cs False := by
  induction h with
  | word h =>
    simp only [List.mem_cons, List.not_mem_nil, or_false] at h
    rcases h with rfl | rfl | rfl
    all_goals
      exact shows_plain (by simp [initials])
  | number h => exact h.shows
  | string h => exact h.shows
  | noItems b => exact (shows_blanks b).bracket rfl rfl
  | noMembers b => exact (shows_blanks b).bracket rfl rfl
  | items opened closed _ _ ihfirst ihmore =>
    have hlist := shows_listText (f := fun e => e) opened closed ihfirst ihmore
    rw [List.map_id'] at hlist
    exact (hlist.bracket rfl rfl).congr (by simp)
  | members opened closed _ _ ihfirst ihmore =>
    have hlist := shows_listText (f := fun e => (e.1, e.2.text)) opened closed
      (Member.shows ihfirst) fun e he => Member.shows (ihmore e he)
    exact (hlist.bracket rfl rfl).congr (by simp)

theorem IsAtom.shows {cs : List Char} (h : IsAtom v cs) : Shows cs (¬v.IsFinite) := by
  cases h with
  | word h =>
    simp only [wordTexts, List.mem_cons, Prod.mk.injEq, List.not_mem_nil, or_false] at h
    rcases h with ⟨rfl, rfl⟩ | ⟨rfl, rfl⟩ | ⟨rfl, rfl⟩ | ⟨rfl, rfl⟩ | ⟨rfl, rfl⟩ | ⟨rfl, rfl⟩
    all_goals
      exact (shows_of_not_mem (by simp)).congr (by simp [IsFinite, initials, Binary64.isFinite])
  | int n =>
    exact (shows_marks (areMarks_signed _ (areDigits_toDigits _).areMarks)).congr
      (by simp [IsFinite])
  | float negative m e =>
    exact (shows_marks (areMarks_signed _ (Binary64.areMarks_magnitudeText m e))).congr
      (by simp [IsFinite, Binary64.isFinite])

section

variable {l : Layout} (hl : l.IsRegular)

include hl

/-- A printed text shows whether all numbers in the value are finite. -/
theorem shows_chars (v : Json) : ∀ k, Shows (chars l k v) (¬v.IsFinite) := by
  induction v using Json.induction with
  | null => exact fun k => IsAtom.shows (.word (by simp [wordTexts, chars]))
  | bool b =>
    intro k
    cases b <;> exact IsAtom.shows (.word (by simp [wordTexts, chars]))
  | int n => exact fun k => (isAtom_int n k).shows
  | float x => exact fun k => (isAtom_float x k).shows
  | str s => exact fun k => (isString_strText l.ascii s).shows.congr (by simp [IsFinite])
  | arr items ih =>
    intro k
    cases items with
    | nil =>
      have hempty : Shows ('[' :: [] ++ [']']) False :=
        (shows_blanks ⟨[], by simp⟩).bracket rfl rfl
      exact hempty.congr (by simp [IsFinite])
    | cons v vs =>
      obtain ⟨hv, hvs⟩ := List.forall_mem_cons.1 ih
      obtain ⟨g, htext⟩ := exists_listText_arr hl k v vs
      have hlist := shows_listText (f := fun w => (g, chars l (k + 1) w)) (l.blanks (k + 1))
        (l.blanks k) (hv (k + 1)) fun w hw => hvs w hw (k + 1)
      rw [htext]
      refine (hlist.bracket rfl rfl).congr ?_
      simp only [IsFinite, floatsAre_arr, List.forall_mem_cons, not_and_or, not_forall, exists_prop]
  | obj fields ih =>
    intro k
    cases fields with
    | nil =>
      have hempty : Shows ('\x7b' :: [] ++ ['\x7d']) False :=
        (shows_blanks ⟨[], by simp⟩).bracket rfl rfl
      exact hempty.congr (by simp [IsFinite])
    | cons e fs =>
      obtain ⟨he, hfs⟩ := List.forall_mem_cons.1 ih
      obtain ⟨g, member, hvalue, htext⟩ := exists_listText_obj hl k e fs
      have hmember (f : String × Json) (hf : ∀ k, Shows (chars l k f.2) (¬f.2.IsFinite)) :
          Shows (member f).text (¬f.2.IsFinite) := by
        apply Member.shows
        rw [hvalue]
        exact hf (k + 1)
      have hlist := shows_listText (f := fun f => (g, (member f).text)) (l.blanks (k + 1))
        (l.blanks k) (hmember e he) fun f hf => hmember f (hfs f hf)
      rw [htext, List.map_map]
      refine (hlist.bracket rfl rfl).congr ?_
      simp only [IsFinite, floatsAre_obj, List.forall_mem_cons, not_and_or, not_forall, exists_prop]

/-- A printed text is standard just if all numbers in the value are finite. -/
theorem isStandardText_chars_iff (hv : v.IsReadable) (k : Nat) (after : Blanks) :
    IsStandardText (chars l k v ++ after.1) ↔ v.IsFinite := by
  constructor
  · rintro ⟨before, after', value, hvalue, htext⟩
    have hstandard := ((shows_blanks before).append hvalue.shows).append (shows_blanks after')
    have hprinted := (shows_chars hl v k).append (shows_blanks after)
    rw [← htext] at hstandard
    by_contra hfinite
    simpa [hfinite] using hprinted.iff hstandard
  · intro hfinite
    exact ⟨⟨[], by simp⟩, after, _, isStandard_chars hl hv hfinite k, rfl⟩

end

end SequenceApi.Json
