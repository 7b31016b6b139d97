import Mathlib.Algebra.BigOperators.Group.List.Lemmas
import SequenceApi.Proofs.Yaml.Scanned

/-!
# Tokens of a text

Every scalar without quotes and every tag among the tokens stands somewhere in the text. A token
that can open a collection comes from a mark, and no mark gives more than two of them; so the marks
that are not read yet and the tokens that are not taken yet bound how deep the collections go on
nesting.

## Main definitions

* `Token.IsFrom`: what a text has where a token is read
* `Token.weight`, `Lexer.weight`: the tokens that can open a collection
* `Lexer.Adds`: a lexer with more tokens at the same place
* `Lexer.Fits`: the tokens of a lexer are those of a text

## Main results

* `Lexer.Fits.step`, `Lexer.Fits.settled`: reading on
* `Lexer.Fits.afterNext`: a token is taken
-/

namespace SequenceApi.Yaml

open Cursor

variable {cs : List Char}

/-! ## Tokens -/

/-- A text has what a token stands for: a scalar without quotes, or a tag. -/
def Token.IsFrom (cs : List Char) : Token → Prop
  | .scalar true text => HasPlain cs text
  | .tag _ _ => HasTag cs
  | _ => True

/-- One for the tokens that can open a collection. -/
def Token.weight : Token → Nat
  | .blockSeqStart | .blockMapStart | .flowSeqStart | .flowMapStart | .blockEntry | .key => 1
  | _ => 0

theorem exists_of_tagToken {c c' : Cursor} {t : Token} (h : tagToken c = .ok (t, c')) :
    ∃ handle suffix, t = .tag handle suffix := by
  have hend : ∀ (handle : Option String) (suffix : String) (d : Cursor),
      Meets (fun _ => True)
        (if endsTag d.next then .ok (Token.tag handle suffix, d)
          else (.error .malformed : Except ReadError (Token × Cursor)))
        fun r => ∃ handle suffix, r.1 = .tag handle suffix :=
    fun handle suffix d => Meets.ite (fun _ => ⟨handle, suffix, rfl⟩) fun _ => trivial
  have hsuffix : ∀ (handle : String) (d : Cursor),
      Meets (fun _ => True) (tagText d >>= fun r => if endsTag r.2.next then
          .ok (Token.tag (some handle) r.1, r.2) else .error .malformed)
        fun r => ∃ handle suffix, r.1 = .tag handle suffix :=
    fun handle d => (Meets.trivial (tagText d)).bind fun r _ => hend _ _ _
  have hread : Meets (fun _ => True) (tagToken c) fun r =>
      ∃ handle suffix, r.1 = .tag handle suffix := by
    unfold tagToken
    refine Meets.ite (fun _ => (Meets.trivial _).bind fun r _ => ?_) fun _ =>
      Meets.ite (fun _ => hend _ _ _) fun _ => ?_
    · exact Meets.ite (fun _ => hend _ _ _) fun _ => trivial
    · exact Meets.ite (fun _ => (Meets.trivial _).bind fun r _ => hsuffix _ _) fun _ =>
        hsuffix _ _
  rw [h] at hread
  exact hread

namespace Lexer

/-- The number of tokens that can open a collection. -/
def weight (s : Lexer) : Nat :=
  (s.tokens.map Token.weight).sum

/-- The same place, and more tokens that say nothing about the text. At most `k` of them can open a
collection. -/
structure Adds (k : Nat) (s s' : Lexer) : Prop where
  cursor : s'.cursor = s.cursor
  tokens : ∀ t ∈ s'.tokens, t ∈ s.tokens ∨ ∀ cs, t.IsFrom cs
  weight : s'.weight ≤ s.weight + k

namespace Adds

variable {k l : Nat} {s s' s'' : Lexer}

theorem of_eq (hcursor : s'.cursor = s.cursor) (htokens : s'.tokens = s.tokens) :
    Adds 0 s s' :=
  ⟨hcursor, fun _ ht => .inl (htokens ▸ ht), by rw [Lexer.weight, htokens, Lexer.weight]; omega⟩

theorem refl (s : Lexer) : Adds 0 s s :=
  of_eq rfl rfl

theorem trans (h : Adds k s s') (h' : Adds l s' s'') : Adds (k + l) s s'' := by
  refine ⟨h'.cursor.trans h.cursor, fun t ht => ?_, ?_⟩
  · rcases h'.tokens t ht with ht | ht
    · exact h.tokens t ht
    · exact .inr ht
  · have hfirst := h.weight
    have hsecond := h'.weight
    omega

theorem mono (h : Adds k s s') (hkl : k ≤ l) : Adds l s s' :=
  ⟨h.cursor, h.tokens, Nat.le_trans h.weight (Nat.add_le_add_left hkl _)⟩

end Adds

/-! ## Blocks and keys -/

section

variable (s : Lexer)

theorem adds_endBlocks (column : Option Nat) : Adds 0 s (s.endBlocks column) := by
  unfold endBlocks
  split
  · exact .refl s
  · refine ⟨rfl, fun t ht => ?_, ?_⟩
    · rcases List.mem_append.1 ht with ht | ht
      · exact .inr fun cs => List.eq_of_mem_replicate ht ▸ trivial
      · exact .inl ht
    · simp [weight, Token.weight]

theorem adds_insert (number : Nat) {t : Token} (ht : ∀ cs, t.IsFrom cs) :
    Adds t.weight s (s.insert number t) := by
  refine ⟨rfl, fun u hu => ?_, ?_⟩
  · rcases List.mem_append.1 hu with hu | hu
    · exact .inl (List.mem_of_mem_take hu)
    · rcases List.mem_cons.1 hu with rfl | hu
      · exact .inr ht
      · exact .inl (List.mem_of_mem_drop hu)
  · have hsplit : ((s.tokens.take (s.count - number)).map Token.weight).sum +
        ((s.tokens.drop (s.count - number)).map Token.weight).sum = s.weight := by
      rw [← List.sum_append, ← List.map_append, List.take_append_drop, weight]
    simp only [weight, insert, List.map_append, List.map_cons, List.sum_append, List.sum_cons]
      at hsplit ⊢
    omega

theorem adds_startBlock (column number : Nat) {t : Token} (ht : ∀ cs, t.IsFrom cs) :
    Adds t.weight s (s.startBlock column number t) := by
  have hinsert := adds_insert s number ht
  unfold startBlock
  split
  · split
    · exact ⟨hinsert.cursor, hinsert.tokens, hinsert.weight⟩
    · exact (Adds.refl s).mono (Nat.zero_le _)
  · exact ⟨hinsert.cursor, hinsert.tokens, hinsert.weight⟩

theorem adds_setKey (k : Option PossibleKey) : Adds 0 s (s.setKey k) := by
  unfold setKey
  split <;> exact .of_eq rfl rfl

theorem meets_dropStale : Meets (Cause cs) s.dropStale (Adds 0 s) := by
  simp only [dropStale]
  split
  · exact Cause.malformed
  · exact Adds.of_eq rfl rfl

theorem meets_dropKey : Meets (Cause cs) s.dropKey (Adds 0 s) := by
  unfold dropKey
  split
  · exact Cause.malformed
  · exact adds_setKey s none

theorem meets_saveKey : Meets (Cause cs) s.saveKey (Adds 0 s) := by
  unfold saveKey
  split
  · exact (meets_dropKey s).bind fun s' hs' => hs'.trans (adds_setKey s' _)
  · exact Adds.refl s

theorem meets_outside : Meets (Cause cs) s.outside (Adds 0 s) := by
  have hend := adds_endBlocks s none
  refine (meets_dropKey (s.endBlocks none)).bind fun s' hs' => ?_
  have hboth := hend.trans hs'
  exact ⟨hboth.cursor, hboth.tokens, hboth.weight⟩

theorem meets_startEntry {t : Token} (ht : ∀ cs, t.IsFrom cs) (hweight : t.weight = 1) :
    Meets (Cause cs) (s.startEntry t) (Adds 1 s) := by
  unfold startEntry
  split
  · exact (Adds.refl s).mono (Nat.zero_le 1)
  · split
    · exact Cause.malformed
    · exact hweight ▸ adds_startBlock s _ _ ht

end

/-! ## Tokens of a text -/

/-- The rest of a text and the tokens of what was read, inside of `depth` collections: tokens stand
for what the text has, and those that can open a collection come from marks, as do the collections
that are open. -/
structure Fits (cs : List Char) (depth : Nat) (s : Lexer) : Prop where
  rest : s.cursor.rest <:+ cs
  tokens : ∀ t ∈ s.tokens, t.IsFrom cs
  weight : depth + s.weight + 2 * s.cursor.rest.countP isMark ≤ 2 * cs.countP isMark

theorem isMark_of_beq {c d : Char} (h : (c == d) = true) (hd : isMark d = true) :
    isMark c = true :=
  beq_iff_eq.1 h ▸ hd

namespace Fits

variable {depth : Nat} {s s' s'' : Lexer}

theorem adds (h : s.Fits cs depth) (hs' : Adds 0 s s') : s'.Fits cs depth := by
  refine ⟨hs'.cursor ▸ h.rest, fun t ht => ?_, ?_⟩
  · rcases hs'.tokens t ht with ht | ht
    · exact h.tokens t ht
    · exact ht cs
  · have hle := hs'.weight
    have hfits := h.weight
    rw [hs'.cursor]
    omega

/-- Reading on without a token. -/
theorem forward (h : s.Fits cs depth) (hcursor : s'.cursor.Follows s.cursor)
    (htokens : s'.tokens = s.tokens) : s'.Fits cs depth := by
  refine ⟨List.IsSuffix.trans hcursor h.rest, htokens ▸ h.tokens, ?_⟩
  have hle := countP_isMark_le hcursor
  have hfits := h.weight
  rw [Lexer.weight, htokens, ← Lexer.weight]
  omega

/-- One more token, in front of which `k` tokens that open collections may have come. The marks that
are passed over count for all of them. -/
theorem push {k : Nat} {t : Token} (h : s.Fits cs depth) (hs' : Adds k s s') (ht : t.IsFrom cs)
    (hcursor : s''.cursor.Follows s.cursor) (htokens : s''.tokens = t :: s'.tokens)
    (hweight : k + t.weight + 2 * s''.cursor.rest.countP isMark ≤
      2 * s.cursor.rest.countP isMark) : s''.Fits cs depth := by
  refine ⟨List.IsSuffix.trans hcursor h.rest, fun u hu => ?_, ?_⟩
  · rw [htokens] at hu
    rcases List.mem_cons.1 hu with rfl | hu
    · exact ht
    · rcases hs'.tokens u hu with hu | hu
      · exact h.tokens u hu
      · exact hu cs
  · have hle := hs'.weight
    have hfits := h.weight
    have hpushed : s''.weight = t.weight + s'.weight := by
      rw [Lexer.weight, htokens, List.map_cons, List.sum_cons, ← Lexer.weight]
    omega

/-- One more token that opens no collection. -/
theorem pushLight {t : Token} (h : s.Fits cs depth) (hs' : Adds 0 s s') (ht : t.IsFrom cs)
    (hlight : t.weight = 0) (hcursor : s''.cursor.Follows s.cursor)
    (htokens : s''.tokens = t :: s'.tokens) : s''.Fits cs depth :=
  h.push hs' ht hcursor htokens (by have hle := countP_isMark_le hcursor; omega)

/-- One more token at a mark, for which two tokens may open collections. -/
theorem pushMark {k : Nat} {t : Token} (h : s.Fits cs depth) (hs' : Adds k s s')
    (ht : t.IsFrom cs) (hmark : isMark s.cursor.next = true)
    (hcursor : s''.cursor = s.cursor.skip 1) (htokens : s''.tokens = t :: s'.tokens)
    (hweight : k + t.weight ≤ 2) : s''.Fits cs depth := by
  refine h.push hs' ht (hcursor ▸ follows_skip 1 s.cursor) htokens ?_
  have hnull : s.cursor.next ≠ '\x00' := fun heq => by rw [heq] at hmark; cases hmark
  rw [hcursor, skip, skip]
  conv => rhs; rw [rest_eq_cons hnull, List.countP_cons_of_pos hmark]
  omega

/-! ### Steps -/

section

variable (h : s.Fits cs depth)

include h

theorem openFlow {t : Token} (ht : ∀ cs, t.IsFrom cs) (hweight : t.weight = 1)
    (hmark : isMark s.cursor.next = true) :
    Meets (Cause cs) (s.openFlow t) (Fits cs depth) :=
  (meets_saveKey s).bind fun s' hs' =>
    h.pushMark hs' (ht cs) hmark (congrArg (skip 1) hs'.cursor) rfl (by omega)

theorem closeFlow {t : Token} (ht : ∀ cs, t.IsFrom cs) (hlight : t.weight = 0) :
    Meets (Cause cs) (s.closeFlow t) (Fits cs depth) := by
  unfold Lexer.closeFlow
  split
  · exact Cause.malformed
  · refine (meets_dropKey s).bind fun s' hs' => ?_
    exact h.pushLight hs' (ht cs) hlight (hs'.cursor ▸ follows_skip 1 s'.cursor) rfl

/-- The mark of an item, of a key or of a value, in front of which a block may start. -/
theorem entryMark {b t : Token} (hb : ∀ cs, b.IsFrom cs) (hweight : b.weight = 1)
    (ht : t.IsFrom cs) (hone : t.weight ≤ 1) (hmark : isMark s.cursor.next = true)
    (allowed : Lexer → Bool) :
    Meets (Cause cs) (do
      let s ← (← s.startEntry b).dropKey
      .ok { s.take 1 t with keyAllowed := allowed s }) (Fits cs depth) :=
  (meets_startEntry s hb hweight).bind fun s₁ hs₁ => (meets_dropKey s₁).bind fun s₂ hs₂ =>
    h.pushMark (hs₁.trans hs₂) ht hmark (congrArg (skip 1) (hs₁.trans hs₂).cursor) rfl (by omega)

theorem blockEntry (hmark : isMark s.cursor.next = true) :
    Meets (Cause cs) s.blockEntry (Fits cs depth) :=
  h.entryMark (b := .blockSeqStart) (t := .blockEntry) (fun _ => trivial) rfl trivial
    (Nat.le_refl 1) hmark fun _ => true

theorem complexKey (hmark : isMark s.cursor.next = true) :
    Meets (Cause cs) s.complexKey (Fits cs depth) :=
  h.entryMark (b := .blockMapStart) (t := .key) (fun _ => trivial) rfl trivial (Nat.le_refl 1)
    hmark fun s => !s.inFlow

/-- The mark of a value may bring about the mark of its key and the start of a block. -/
theorem valueMark (hmark : isMark s.cursor.next = true) :
    Meets (Cause cs) s.valueMark (Fits cs depth) := by
  unfold Lexer.valueMark
  split
  · next k _ =>
    have hkey : Adds 1 s ((s.setKey none).insert k.number .key) :=
      (adds_setKey s none).trans (adds_insert _ k.number (t := .key) fun _ => trivial)
    have hblock : ∀ s₁, Adds 1 s s₁ →
        Adds 2 s (if s₁.inFlow then s₁ else s₁.startBlock k.column k.number .blockMapStart) := by
      intro s₁ hs₁
      split
      · exact hs₁.mono (by decide)
      · exact hs₁.trans (adds_startBlock s₁ _ _ (t := .blockMapStart) fun _ => trivial)
    exact h.pushMark (hblock _ hkey) (t := .value) trivial hmark
      (congrArg (skip 1) (hblock _ hkey).cursor) rfl (by decide)
  · exact h.entryMark (b := .blockMapStart) (t := .value) (fun _ => trivial) rfl trivial
      (Nat.zero_le 1) hmark fun s => !s.inFlow

/-- A token that is read at the place and opens no collection. -/
theorem keyStart {read : Except ReadError (Token × Cursor)} (hread : Reads s.cursor read Prod.snd)
    (ht : ∀ t c, read = .ok (t, c) → t.IsFrom cs ∧ t.weight = 0) :
    Meets (Cause cs) (s.keyStart read) (Fits cs depth) := by
  refine (meets_saveKey s).bind fun s₁ hs₁ => ?_
  cases read with
  | error e => exact Cause.mono hread h.rest
  | ok r =>
    obtain ⟨hfrom, hlight⟩ := ht r.1 r.2 rfl
    exact h.pushLight hs₁ hfrom hlight hread rfl

theorem keyStart_map {α : Type} {read : Except ReadError α} {f : α → Token × Cursor}
    (hread : Reads s.cursor (read.map f) Prod.snd)
    (hf : ∀ a, (f a).1.IsFrom cs ∧ (f a).1.weight = 0) :
    Meets (Cause cs) (s.keyStart (read.map f)) (Fits cs depth) := by
  refine h.keyStart hread fun t c heq => ?_
  cases read with
  | error e => cases heq
  | ok a =>
    obtain rfl : (f a).1 = t := congrArg Prod.fst (Except.ok.inj heq)
    exact hf a

theorem blockScalar : Meets (Cause cs) s.blockScalar (Fits cs depth) := by
  refine (meets_dropKey s).bind fun s₁ hs₁ => ?_
  have hread := reads_blockText s₁.innerColumn s₁.cursor
  rw [hs₁.cursor] at hread ⊢
  refine Meets.bind (Meets.map (hread.mono_error fun e he => he.mono h.rest) (R := fun r =>
    r.2.Follows s.cursor ∧ r.1.weight = 0 ∧ r.1.IsFrom cs) fun a ha => ⟨ha, rfl, trivial⟩) ?_
  rintro ⟨t, c⟩ ⟨hc, hlight, hfrom⟩
  exact h.pushLight hs₁ hfrom hlight hc rfl

theorem plainScalar : Meets (Cause cs) s.plainScalar (Fits cs depth) := by
  refine (meets_saveKey s).bind fun s₁ hs₁ => ?_
  have hplain := follows_plainText s₁.inFlow s₁.innerColumn s₁.cursor
  have hfrom : HasPlain cs (String.ofList (plainText s₁.inFlow s₁.innerColumn s₁.cursor).text) :=
    ⟨_, _, s₁.cursor, hs₁.cursor ▸ h.rest, rfl⟩
  exact h.pushLight hs₁ (t := .scalar true _) hfrom rfl (hs₁.cursor ▸ hplain) rfl

/-- The end of what comes before a document, or of a document. -/
theorem documentMark {t : Token} (ht : ∀ cs, t.IsFrom cs) (hlight : t.weight = 0) :
    Meets (Cause cs) (s.outside.map (·.take 3 t)) (Fits cs depth) :=
  (meets_outside s).map fun s₁ hs₁ =>
    h.pushLight hs₁ (ht cs) hlight (hs₁.cursor ▸ follows_skip 3 s₁.cursor) rfl

theorem anchor {t : String → Token} (ht : ∀ name cs, (t name).IsFrom cs)
    (hlight : ∀ name, (t name).weight = 0) :
    Meets (Cause cs) (s.keyStart ((anchorName s.cursor).map fun (n, c) => (t n, c)))
      (Fits cs depth) :=
  h.keyStart_map ((reads_anchorName s.cursor).map fun _ => .refl _) fun r =>
    ⟨ht r.1 cs, hlight r.1⟩

theorem tag (hch : s.cursor.next = '!') :
    Meets (Cause cs) (s.keyStart (tagToken s.cursor)) (Fits cs depth) := by
  refine h.keyStart (reads_tagToken s.cursor) fun t c heq => ?_
  obtain ⟨handle, suffix, rfl⟩ := exists_of_tagToken heq
  exact ⟨⟨s.cursor, handle, suffix, c, h.rest, hch, heq⟩, rfl⟩

theorem quoted :
    Meets (Cause cs) (s.keyStart ((quotedText s.cursor).map (scalarToken false)))
      (Fits cs depth) :=
  h.keyStart_map ((reads_quotedText s.cursor).map fun _ => .refl _) fun _ => ⟨trivial, rfl⟩

/-- One more token. -/
theorem step : Meets (Cause cs) s.step (Fits cs depth) := by
  unfold Lexer.step
  -- One case for each character at which a token begins, in the order of the conditions.
  refine Meets.ite (fun _ => ?directive) fun _ => Meets.ite (fun _ => ?start) fun _ =>
    Meets.ite (fun _ => ?stop) fun _ => Meets.ite (fun hch => ?openSeq) fun _ =>
    Meets.ite (fun hch => ?openMap) fun _ => Meets.ite (fun _ => ?closeSeq) fun _ =>
    Meets.ite (fun _ => ?closeMap) fun _ => Meets.ite (fun _ => ?comma) fun _ =>
    Meets.ite (fun hch => ?item) fun _ => Meets.ite (fun hch => ?key) fun _ =>
    Meets.ite (fun hch => ?value) fun _ => Meets.ite (fun _ => ?name) fun _ =>
    Meets.ite (fun _ => ?anchored) fun _ => Meets.ite (fun hch => ?tagged) fun _ =>
    Meets.ite (fun _ => ?block) fun _ => Meets.ite (fun _ => ?quote) fun _ =>
    Meets.ite (fun _ => ?plain) fun _ => Cause.malformed
  case directive =>
    refine (meets_outside s).bind fun s₁ hs₁ => ?_
    refine ((reads_directive s.cursor).mono_error fun e he => he.mono h.rest).bind fun r hr => ?_
    exact h.pushLight hs₁ (t := .directive r.1) trivial rfl hr rfl
  case start => exact h.documentMark (fun _ => trivial) rfl
  case stop => exact h.documentMark (fun _ => trivial) rfl
  case openSeq => exact h.openFlow (fun _ => trivial) rfl (isMark_of_beq hch rfl)
  case openMap => exact h.openFlow (fun _ => trivial) rfl (isMark_of_beq hch rfl)
  case closeSeq => exact h.closeFlow (fun _ => trivial) rfl
  case closeMap => exact h.closeFlow (fun _ => trivial) rfl
  case comma =>
    exact (meets_dropKey s).map fun s₁ hs₁ => h.pushLight hs₁ (t := .flowEntry) trivial rfl
      (hs₁.cursor ▸ follows_skip 1 s₁.cursor) rfl
  case item => exact h.blockEntry (isMark_of_beq (Bool.and_eq_true_iff.1 hch).1 rfl)
  case key => exact h.complexKey (isMark_of_beq (Bool.and_eq_true_iff.1 hch).1 rfl)
  case value => exact h.valueMark (isMark_of_beq (Bool.and_eq_true_iff.1 hch).1 rfl)
  case name => exact h.anchor (t := .alias) (fun _ _ => trivial) fun _ => rfl
  case anchored => exact h.anchor (t := .anchor) (fun _ _ => trivial) fun _ => rfl
  case tagged => exact h.tag (beq_iff_eq.1 hch)
  case block => exact h.blockScalar
  case quote => exact h.quoted
  case plain => exact h.plainScalar

theorem skipBlanks (n : Nat) : (s.skipBlanks n).Fits cs depth := by
  induction n generalizing s with
  | zero => exact h
  | succ n ih =>
    have hcomment := (follows_skipRun isSpace s.cursor).trans (follows_skipComment _)
    simp only [Lexer.skipBlanks]
    split
    · next hbreak => exact ih (h.forward (hcomment.trans (follows_lineBreak? hbreak)) rfl)
    · exact h.forward hcomment rfl

theorem fetch (n : Nat) : Meets (Cause cs) (s.fetch n) (Fits cs depth) := by
  refine (meets_dropStale (s.skipBlanks n)).bind fun s₁ hs₁ => ?_
  have h₁ := ((h.skipBlanks n).adds hs₁).adds (adds_endBlocks s₁ (some s₁.cursor.column))
  -- At the end of the text all blocks end; before it there is one more token.
  refine Meets.ite (fun _ => ?_) fun _ => h₁.step
  have h₂ := h₁.adds (adds_endBlocks _ none)
  refine (meets_dropKey _).bind fun s₂ hs₂ => ?_
  exact (h₂.adds hs₂).forward (.refl _) rfl

/-- Reading on up to the next token. -/
theorem settled (n : Nat) : Meets (Cause cs) (s.settled n) (Fits cs depth) := by
  induction n generalizing s with
  | zero => exact h
  | succ n ih =>
    rw [Lexer.settled]
    refine Meets.ite (fun _ => h) fun _ => Meets.ite (fun _ => ?_) fun _ => ?_
    · exact (h.fetch n).bind fun s₁ h₁ => ih h₁
    · refine (meets_dropStale s).bind fun s₁ hs₁ => ?_
      have h₁ := h.adds hs₁
      exact Meets.ite (fun _ => (h₁.fetch n).bind fun s₂ h₂ => ih h₂) fun _ => h₁

theorem isFrom_of_next? {t : Token} (ht : s.next? = some t) : t.IsFrom cs :=
  h.tokens t (List.mem_of_getLast? ht)

/-- A token is taken: if it opens a collection, there is one collection more around what comes. -/
theorem afterNext {t : Token} (ht : s.next? = some t) : s.afterNext.Fits cs (depth + t.weight) := by
  have hlast : s.tokens = s.tokens.dropLast ++ [t] :=
    (List.dropLast_append_getLast? t ht).symm
  have hweight : s.weight = s.afterNext.weight + t.weight := by
    rw [Lexer.weight, hlast, List.map_append, List.sum_append]
    rfl
  refine ⟨h.rest, fun u hu => h.tokens u (List.mem_of_mem_dropLast hu), ?_⟩
  have hfits := h.weight
  have hcursor : s.afterNext.cursor = s.cursor := rfl
  rw [hcursor]
  omega

theorem shallow {n : Nat} (hn : n ≤ depth) : s.Fits cs n :=
  ⟨h.rest, h.tokens, Nat.le_trans (by omega) h.weight⟩

theorem depth_le : depth ≤ 2 * cs.countP isMark := by
  have hfits := h.weight
  omega

end

end Fits

theorem fits_ofText (cs : List Char) : Meets (Cause cs) (ofText cs) (Fits cs 0) := by
  refine Meets.ite (fun _ => ?_) fun _ => Cause.malformed
  have hstart : Fits cs 0 { cursor := { rest := cs } } :=
    ⟨List.suffix_rfl, (fun _ ht => by cases ht), by simp [Lexer.weight]⟩
  show Fits cs 0 _
  split
  · exact hstart.forward (follows_advance _) rfl
  · exact hstart

end Lexer

end SequenceApi.Yaml
