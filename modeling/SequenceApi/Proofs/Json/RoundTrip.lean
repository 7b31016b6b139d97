import SequenceApi.Proofs.Json.Spelling
import SequenceApi.Proofs.Json.Within

/-!
# Reading printed values

What is printed is read back, in all three layouts. The machine of the reader is followed over the
text of a value: from a state in which a value may start, it gets to the state in which that value
is complete, with the text after the value to come. The value must be one that a text can have, and
its arrays and objects must not nest too deep.

## Main definitions

* `Json.Layout.IsRegular`: only blanks stand around the separators
* `Json.Leads`: reading gets from one state to another
* `Json.Awaits`: a value may start in a state
* `Json.Returns`: reading the text of a value completes that value

## Main results

* `Json.IsReadable.returns`: a value that a text can have is completed
* `Json.readChars_chars`: what is printed is read back, also with blanks after it
* `Json.read_print`: the text of a value is read back
-/

namespace SequenceApi

/-- A new key goes to the end. -/
theorem Table.put_eq_append {κ ν : Type} [DecidableEq κ] {k : κ} {t : Table κ ν} (v : ν)
    (h : k ∉ keys t) : put k v t = t ++ [(k, v)] := by
  induction t with
  | nil => rfl
  | cons e t ih =>
    rw [keys_cons, List.mem_cons, not_or] at h
    rw [put, if_neg h.1, ih h.2, List.cons_append]

namespace Json

open Text

/-! ## Steps over a text -/

/-- With a text to come, reading gets from one state to another with the rest of the text to come.
The place of the text does not matter. -/
def Leads (s : State) (cs : List Char) (s' : State) (rest : List Char) : Prop :=
  ∀ length place, ∃ place',
    run length s (lexemesFrom 0 place cs) = run length s' (lexemesFrom 0 place' rest)

section

variable {s s' s'' : State} {cs ds rest : List Char}

theorem Leads.refl (s : State) (cs : List Char) : Leads s cs s cs :=
  fun _ place => ⟨place, rfl⟩

theorem Leads.trans (h : Leads s cs s' ds) (h' : Leads s' ds s'' rest) : Leads s cs s'' rest := by
  intro length place
  obtain ⟨place', h⟩ := h length place
  obtain ⟨place'', h'⟩ := h' length place'
  exact ⟨place'', h.trans h'⟩

theorem lexemesFrom_skip (cs rest : List Char) (place : Nat) :
    lexemesFrom cs.length place (cs ++ rest) = lexemesFrom 0 (place + cs.length) rest := by
  induction cs generalizing place with
  | nil => rfl
  | cons c cs ih =>
    rw [List.length_cons, List.cons_append, lexemesFrom, ih]
    congr 1
    omega

/-- Blanks are passed over. -/
theorem leads_blanks (s : State) (hcs : ∀ c ∈ cs, isSpace c = true) (rest : List Char) :
    Leads s (cs ++ rest) s rest := by
  induction cs with
  | nil => exact .refl s rest
  | cons c cs ih =>
    obtain ⟨hc, hcs⟩ := List.forall_mem_cons.1 hcs
    refine Leads.trans (fun length place => ⟨place + 1, ?_⟩) (ih hcs)
    rw [List.cons_append, lexemesFrom_of_space hc]

/-- One lexeme, and one step of the machine. -/
theorem leads_lexeme {x : Lexeme} (hcs : ∃ c ∈ cs.head?, isSpace c = false)
    (hx : ∀ place, lexemeAt place (cs ++ rest) = (x, cs.length)) (hlast : x.isLast = false)
    (hstep : ∀ place, step s place x = .ok s') : Leads s (cs ++ rest) s' rest := by
  obtain ⟨c, hc, hspace⟩ := hcs
  obtain ⟨cs, rfl⟩ := List.head?_eq_some_iff.1 hc
  intro length place
  refine ⟨place + 1 + cs.length, ?_⟩
  have hlexeme := hx place
  rw [List.cons_append] at hlexeme ⊢
  rw [lexemesFrom_of_lexeme hspace, hlexeme, run, hstep place]
  dsimp only
  rw [hlast, List.length_cons, Nat.add_sub_cancel, if_neg Bool.false_ne_true, lexemesFrom_skip]

/-- One mark. -/
theorem leads_mark {c : Char} {x : Lexeme} (hc : isSpace c = false)
    (hx : ∀ place, lexemeAt place (c :: rest) = (x, 1)) (hlast : x.isLast = false)
    (hstep : ∀ place, step s place x = .ok s') : Leads s (c :: rest) s' rest := by
  change Leads s ([c] ++ rest) s' rest
  exact leads_lexeme ⟨c, rfl, hc⟩ hx hlast hstep

theorem leads_strText {ascii : Bool} {t : String} (rest : List Char)
    (hstep : ∀ place, step s place (.str t) = .ok s') :
    Leads s (strText ascii t ++ rest) s' rest :=
  leads_lexeme ⟨'\x22', rfl, rfl⟩ (fun place => lexemeAt_strText ascii t place rest) rfl hstep

end

/-! ## Where a value starts

A value may start in three kinds of places: at the start of the text, after a mark inside a
container, and after the bracket that opens an array. In the last the closing bracket may come as
well; every other lexeme is taken in the same way, so that the proofs need not tell the three apart.
-/

/-- A value may start in the state, inside the containers of the stack. -/
def Awaits (s : State) (stack : List Frame) : Prop :=
  ∀ place x, x ≠ .closeArray → step s place x = startValue stack place x

section

variable {s : State} {stack : List Frame}

theorem awaits_value (stack : List Frame) : Awaits ⟨.value, stack⟩ stack :=
  fun _ _ _ => rfl

theorem awaits_firstItem (stack : List Frame) : Awaits ⟨.firstItem, stack⟩ (.array [] :: stack) :=
  fun _ _ hx => if_neg hx

/-- An array opens where it does not nest too deep. -/
theorem Awaits.step_openArray (hs : Awaits s stack) (hdepth : stack.length < deepest)
    (place : Nat) : step s place .openArray = .ok ⟨.firstItem, stack⟩ := by
  rw [hs place .openArray (by decide), startValue, if_neg (Nat.not_le.2 hdepth)]

/-- An object opens where it does not nest too deep. -/
theorem Awaits.step_openObject (hs : Awaits s stack) (hdepth : stack.length < deepest)
    (place : Nat) : step s place .openObject = .ok ⟨.firstKey, stack⟩ := by
  rw [hs place .openObject (by decide), startValue, if_neg (Nat.not_le.2 hdepth)]

end

/-! ## Layouts -/

/-- A separator has only blanks after it. -/
def IsMark (c : Char) (cs : List Char) : Prop :=
  ∃ blanks, cs = c :: blanks ∧ ∀ b ∈ blanks, isSpace b = true

/-- Only blanks stand around the separators. -/
structure Layout.IsRegular (l : Layout) : Prop where
  item : IsMark ',' l.itemMark
  field : IsMark ':' l.fieldMark

theorem isRegular_spaced : spaced.IsRegular :=
  ⟨⟨[' '], rfl, by simp [isSpace]⟩, ⟨[' '], rfl, by simp [isSpace]⟩⟩

theorem isRegular_indented : indented.IsRegular :=
  ⟨⟨[], rfl, by simp⟩, ⟨[' '], rfl, by simp [isSpace]⟩⟩

theorem isRegular_compact : compact.IsRegular :=
  ⟨⟨[], rfl, by simp⟩, ⟨[], rfl, by simp⟩⟩

theorem isSpace_of_mem_newline {l : Layout} {level : Nat} :
    ∀ c ∈ l.newline level, isSpace c = true := by
  intro c hc
  rw [Layout.newline] at hc
  split at hc
  · rcases List.mem_cons.1 hc with rfl | hc
    · rfl
    · rw [List.eq_of_mem_replicate hc]
      rfl
  · cases hc

/-! ## Values

The statement about a value leaves open where the value starts, at which level it is printed and
what comes after it: an item of an array starts behind the items before it, is printed one level
deeper than the array, and has the rest of the items after it. -/

/-- Reading the text of the value completes it, from wherever a value may start, where its brackets
do not nest too deep and no word or number goes on after it. -/
def Returns (l : Layout) (v : Json) : Prop :=
  ∀ {s : State} {stack : List Frame} {rest : List Char} (level : Nat), Awaits s stack →
    stack.length + v.depth ≤ deepest → Stops rest →
      Leads s (chars l level v ++ rest) (.complete v stack) rest

section

variable {l : Layout} {s : State} {stack : List Frame} {rest : List Char}

theorem isSpace_of_isAtomChar {c : Char} (h : isAtomChar c = true) : isSpace c = false := by
  cases hc : isSpace c with
  | false => rfl
  | true =>
    simp only [isSpace, Bool.or_eq_true, beq_iff_eq] at hc
    rcases hc with ((rfl | rfl) | rfl) | rfl <;> exact absurd h (by decide)

theorem IsAtom.returns {v : Json} (ha : ∀ k, IsAtom v (chars l k v)) (hv : v.IsReadable)
    (hlast : (lexeme v).isLast = false) (hbracket : lexeme v ≠ .closeArray)
    (hstart : ∀ stack place, startValue stack place (lexeme v) = .ok (.complete v stack)) :
    Returns l v := by
  intro s stack rest level hs _ hr
  obtain ⟨c, cs, hcs⟩ := List.exists_cons_of_ne_nil (ha level).ne_nil
  have hc : isAtomChar c = true := by
    apply (ha level).isAtomChar_of_mem
    rw [hcs]
    exact List.mem_cons_self
  refine leads_lexeme ⟨c, by rw [hcs]; rfl, isSpace_of_isAtomChar hc⟩
    (lexemeAt_atom (ha level) hv hr) hlast fun place => ?_
  rw [hs place _ hbracket, hstart]

theorem returns_str (t : String) : Returns l (.str t) := by
  intro s stack rest level hs _ _
  refine leads_strText rest fun place => ?_
  rw [hs place _ (by simp), startValue]

/-! ### Items -/

theorem stops_moreItems (hl : l.IsRegular) (hr : Stops rest) (level : Nat) (vs : List Json) :
    Stops (moreItems l level vs ++ rest) := by
  cases vs with
  | nil => exact hr
  | cons v vs =>
    obtain ⟨blanks, hmark, -⟩ := hl.item
    rw [moreItems, hmark]
    exact stops_cons rfl _

theorem stops_moreFields (hl : l.IsRegular) (hr : Stops rest) (level : Nat)
    (fs : List (String × Json)) : Stops (moreFields l level fs ++ rest) := by
  cases fs with
  | nil => exact hr
  | cons e fs =>
    obtain ⟨blanks, hmark, -⟩ := hl.item
    rw [moreFields, hmark]
    exact stops_cons rfl _

/-- A separator, with the blanks after it and before the next line's text. -/
theorem leads_itemMark (hl : l.IsRegular) {s' : State} (level : Nat) (rest : List Char)
    (hstep : ∀ place, step s place .comma = .ok s') :
    Leads s (l.itemMark ++ (l.newline level ++ rest)) s' rest := by
  obtain ⟨blanks, hmark, hblanks⟩ := hl.item
  rw [hmark]
  exact ((leads_mark rfl (fun _ => rfl) rfl hstep).trans (leads_blanks s' hblanks _)).trans
    (leads_blanks s' isSpace_of_mem_newline rest)

theorem leads_fieldMark (hl : l.IsRegular) {s' : State} (rest : List Char)
    (hstep : ∀ place, step s place .colon = .ok s') : Leads s (l.fieldMark ++ rest) s' rest := by
  obtain ⟨blanks, hmark, hblanks⟩ := hl.field
  rw [hmark]
  exact (leads_mark rfl (fun _ => rfl) rfl hstep).trans (leads_blanks s' hblanks rest)

/-- The end of a container, on a line of its own or not. -/
theorem leads_close {s' : State} {c : Char} {x : Lexeme} (level : Nat) (rest : List Char)
    (hc : isSpace c = false) (hx : ∀ place, lexemeAt place (c :: rest) = (x, 1))
    (hlast : x.isLast = false) (hstep : ∀ place, step s place x = .ok s') :
    Leads s (l.newline level ++ c :: rest) s' rest :=
  (leads_blanks s isSpace_of_mem_newline _).trans (leads_mark hc hx hlast hstep)

theorem stops_newline (level : Nat) {c : Char} (hc : isAtomChar c = false) (rest : List Char) :
    Stops (l.newline level ++ c :: rest) := by
  rw [Layout.newline]
  split
  · exact stops_cons rfl _
  · exact stops_cons hc rest

theorem leads_moreItems (hl : l.IsRegular) (hr : Stops rest) (level : Nat) {vs : List Json}
    (hvs : ∀ v ∈ vs, Returns l v) (hdepth : ∀ v ∈ vs, stack.length + 1 + v.depth ≤ deepest) :
    ∀ items, Leads ⟨.afterItem items, stack⟩ (moreItems l level vs ++ rest)
      ⟨.afterItem (vs.reverse ++ items), stack⟩ rest := by
  -- Induction on the items: each goes to the front of those before it.
  induction vs with
  | nil => exact fun items => .refl _ rest
  | cons v vs ih =>
    intro items
    obtain ⟨hv, hvs⟩ := List.forall_mem_cons.1 hvs
    obtain ⟨hdv, hdvs⟩ := List.forall_mem_cons.1 hdepth
    have hitem := hv level (awaits_value (.array items :: stack)) hdv
      (stops_moreItems hl hr level vs)
    have hmark := leads_itemMark (s := ⟨.afterItem items, stack⟩) hl level
      (chars l level v ++ (moreItems l level vs ++ rest)) fun _ => rfl
    have hmore := ih hvs hdvs (v :: items)
    rw [moreItems, List.reverse_cons]
    simp only [List.append_assoc, List.cons_append, List.nil_append]
    exact (hmark.trans hitem).trans hmore

/-! ### Fields -/

/-- A key that is new, its mark and its value. -/
theorem leads_field (hl : l.IsRegular) (hr : Stops rest) (level : Nat)
    (fields : List (String × Json)) {k : String} {v : Json} (hv : Returns l v)
    (hdepth : stack.length + 1 + v.depth ≤ deepest) (hk : k ∉ Table.keys fields)
    (hstep : ∀ place, step s place (.str k) = .ok ⟨.colon fields k, stack⟩) :
    Leads s (strText l.ascii k ++ (l.fieldMark ++ (chars l level v ++ rest)))
      ⟨.afterField (fields ++ [(k, v)]), stack⟩ rest := by
  have hvalue := hv level (awaits_value (.object fields k :: stack)) hdepth hr
  have hcolon := leads_fieldMark (s := ⟨.colon fields k, stack⟩) hl (chars l level v ++ rest)
    fun _ => rfl
  rw [State.complete, Table.put_eq_append v hk] at hvalue
  exact ((leads_strText _ hstep).trans hcolon).trans hvalue

theorem leads_moreFields (hl : l.IsRegular) (hr : Stops rest) (level : Nat)
    {fs : List (String × Json)} (hfs : ∀ e ∈ fs, Returns l e.2)
    (hdepth : ∀ e ∈ fs, stack.length + 1 + e.2.depth ≤ deepest) :
    ∀ fields, Table.Distinct (fields ++ fs) →
      Leads ⟨.afterField fields, stack⟩ (moreFields l level fs ++ rest)
        ⟨.afterField (fields ++ fs), stack⟩ rest := by
  -- Induction on the fields: each key is none of those before it.
  induction fs with
  | nil =>
    intro fields _
    rw [List.append_nil]
    exact .refl _ rest
  | cons e fs ih =>
    obtain ⟨k, v⟩ := e
    intro fields hd
    obtain ⟨hv, hfs⟩ := List.forall_mem_cons.1 hfs
    obtain ⟨hdv, hdfs⟩ := List.forall_mem_cons.1 hdepth
    have hk : k ∉ Table.keys fields := by
      rw [Table.Distinct, Table.keys, List.map_append, List.map_cons] at hd
      exact fun hk => List.disjoint_of_nodup_append hd hk List.mem_cons_self
    rw [List.append_cons] at hd ⊢
    have hmark := leads_itemMark (s := ⟨.afterField fields, stack⟩) hl level
      (strText l.ascii k ++ (l.fieldMark ++ (chars l level v ++ (moreFields l level fs ++ rest))))
      fun _ => rfl
    have hfield := leads_field (s := ⟨.nextKey fields, stack⟩) hl
      (stops_moreFields hl hr level fs) level fields hv hdv hk fun _ => rfl
    have hmore := ih hfs hdfs (fields ++ [(k, v)]) hd
    rw [moreFields]
    simp only [List.append_assoc]
    simp only [List.append_assoc] at hmore
    exact (hmark.trans hfield).trans hmore

/-! ### Containers -/

theorem returns_arr (hl : l.IsRegular) {items : List Json} (h : ∀ v ∈ items, Returns l v) :
    Returns l (.arr items) := by
  intro s stack rest level hs hdepth hr
  rw [depth] at hdepth
  have hopen (rest : List Char) : Leads s ('[' :: rest) ⟨.firstItem, stack⟩ rest :=
    leads_mark rfl (fun _ => rfl) rfl (hs.step_openArray (by omega))
  cases items with
  | nil =>
    exact (hopen _).trans (leads_mark rfl (fun _ => rfl) rfl fun _ => rfl)
  | cons v vs =>
    have hall {w : Json} (hw : w ∈ v :: vs) : stack.length + 1 + w.depth ≤ deepest := by
      have hle := depth_le_depthItems hw
      omega
    obtain ⟨hv, hvs⟩ := List.forall_mem_cons.1 h
    have hclose : Stops (l.newline level ++ ']' :: rest) := stops_newline level rfl rest
    have hfirst := hv (level + 1) (awaits_firstItem stack) (hall List.mem_cons_self)
      (stops_moreItems hl hclose (level + 1) vs)
    have hmore := leads_moreItems hl hclose (level + 1) hvs
      (fun w hw => hall (List.mem_cons_of_mem v hw)) [v]
    have hend : Leads ⟨.afterItem (vs.reverse ++ [v]), stack⟩ (l.newline level ++ ']' :: rest)
        (.complete (.arr (v :: vs)) stack) rest := by
      refine leads_close level rest rfl (fun _ => rfl) rfl fun place => ?_
      simp [step]
    rw [chars]
    simp only [List.append_assoc, List.cons_append, List.nil_append]
    exact ((((hopen _).trans (leads_blanks _ isSpace_of_mem_newline _)).trans hfirst).trans
      hmore).trans hend

theorem returns_obj (hl : l.IsRegular) {fields : List (String × Json)}
    (hd : Table.Distinct fields) (h : ∀ e ∈ fields, Returns l e.2) : Returns l (.obj fields) := by
  intro s stack rest level hs hdepth hr
  rw [depth] at hdepth
  have hopen (rest : List Char) : Leads s ('\x7b' :: rest) ⟨.firstKey, stack⟩ rest :=
    leads_mark rfl (fun _ => rfl) rfl (hs.step_openObject (by omega))
  cases fields with
  | nil =>
    exact (hopen _).trans (leads_mark rfl (fun _ => rfl) rfl fun _ => rfl)
  | cons e fs =>
    obtain ⟨k, v⟩ := e
    have hall {e : String × Json} (he : e ∈ (k, v) :: fs) :
        stack.length + 1 + e.2.depth ≤ deepest := by
      have hle := depth_le_depthFields he
      omega
    obtain ⟨hv, hfs⟩ := List.forall_mem_cons.1 h
    have hclose : Stops (l.newline level ++ '\x7d' :: rest) := stops_newline level rfl rest
    have hfirst := leads_field (s := ⟨.firstKey, stack⟩) (k := k) hl
      (stops_moreFields hl hclose (level + 1) fs) (level + 1) [] hv (hall List.mem_cons_self)
      List.not_mem_nil fun _ => rfl
    have hmore := leads_moreFields hl hclose (level + 1) hfs
      (fun e he => hall (List.mem_cons_of_mem _ he)) [(k, v)] hd
    have hend : Leads ⟨.afterField ((k, v) :: fs), stack⟩ (l.newline level ++ '\x7d' :: rest)
        (.complete (.obj ((k, v) :: fs)) stack) rest :=
      leads_close level rest rfl (fun _ => rfl) rfl fun _ => rfl
    rw [chars]
    simp only [List.append_assoc, List.cons_append, List.nil_append]
    exact ((((hopen _).trans (leads_blanks _ isSpace_of_mem_newline _)).trans hfirst).trans
      hmore).trans hend

/-- Reading completes what a text can have. -/
theorem IsReadable.returns (hl : l.IsRegular) {v : Json} (hv : v.IsReadable) : Returns l v := by
  induction hv with
  | null =>
    exact IsAtom.returns (fun k => .word (by simp [wordTexts, chars])) .null rfl (by decide)
      fun _ _ => rfl
  | bool b =>
    refine IsAtom.returns (fun k => ?_) (.bool b) rfl (by simp [lexeme]) fun _ _ => rfl
    cases b <;> exact .word (by simp [wordTexts, chars])
  | int h => exact IsAtom.returns (isAtom_int _) (.int h) rfl (by simp [lexeme]) fun _ _ => rfl
  | float h =>
    exact IsAtom.returns (isAtom_float _) (.float h) rfl (by simp [lexeme])
      fun _ _ => rfl
  | str t => exact returns_str t
  | arr _ ih => exact returns_arr hl ih
  | obj hd _ ih => exact returns_obj hl hd ih

/-! ## Texts -/

/-- No value starts with the mark of a byte order. -/
theorem not_starts_byteOrderMark (v : Json) : ¬Starts v '\ufeff' := by
  intro h
  cases v with
  | null | bool _ | int _ | float _ =>
    exact absurd (show isAtomChar '\ufeff' = true from h) (by decide)
  | str _ | arr _ | obj _ => simp [Starts] at h

/-- What is printed is read back, also with blanks after it. -/
theorem readChars_chars (hl : l.IsRegular) {v : Json} (hv : v.IsReadable)
    (hdepth : v.depth ≤ deepest) {blanks : List Char} (hb : ∀ c ∈ blanks, isSpace c = true) :
    readChars (chars l 0 v ++ blanks) = .ok v := by
  have hstops : Stops blanks := by
    intro c hc
    cases hatom : isAtomChar c with
    | false => rfl
    | true =>
      have hspace := hb c (List.mem_of_mem_head? hc)
      rw [isSpace_of_isAtomChar hatom] at hspace
      cases hspace
  have hhead : (chars l 0 v ++ blanks).head? ≠ some '\ufeff' := by
    obtain ⟨c, cs, hcs, hc⟩ := exists_start l v 0
    rw [hcs]
    intro h
    obtain rfl : c = '\ufeff' := Option.some.inj h
    exact not_starts_byteOrderMark v hc
  have hvalue : Leads ⟨.value, []⟩ (chars l 0 v ++ blanks) (.complete v []) blanks :=
    hv.returns hl 0 (awaits_value []) (by simpa using hdepth) hstops
  have hblanks := leads_blanks (.complete v []) hb []
  rw [List.append_nil] at hblanks
  obtain ⟨place, hrun⟩ := hvalue.trans hblanks (chars l 0 v ++ blanks).length 0
  rw [readChars, if_neg hhead, lexemes, hrun, lexemesFrom]
  rfl

/-- The text of a value is read back. -/
theorem read_print (hl : l.IsRegular) {v : Json} (hv : v.IsReadable) (hdepth : v.depth ≤ deepest) :
    read (v.print l) = .ok v := by
  have h : readChars (chars l 0 v ++ []) = .ok v := readChars_chars hl hv hdepth (by simp)
  rw [List.append_nil] at h
  rw [read, print, String.toList_ofList, h]

end

end Json

end SequenceApi
