import SequenceApi.Proofs.Yaml.Lexed

/-!
# Nodes of a text

A node without a tag has the tag of its form, and only a scalar without quotes can have a form that
promises a value. Collections nest no deeper than the marks of the text allow.

## Main definitions

* `Vertex.IsFrom`: what a text has where a node is read
* `Reading.Fits`: the tokens and nodes are those of a text
* `Grammar.Keeps`: reading goes on with tokens and nodes of a text

## Main results

* `Grammar.keepers`: nodes and their parts
* `meets_ofText`: all nodes of a text
-/

namespace SequenceApi.Yaml

variable {cs : List Char} {α β : Type}

/-- A text has what a node stands for: a scalar has no value of its own, or it is one without quotes
and has its form, or a tag is declared; and so for collections. -/
def Vertex.IsFrom (cs : List Char) : Vertex → Prop
  | .scalar tag text => tag = .form .text ∨ tag = .form .null ∨
      (tag = .form (Form.ofPlain text.toList) ∧ HasPlain cs text) ∨ HasTag cs
  | .seq tag _ => tag = .seq ∨ HasTag cs
  | .map tag _ => tag = .map ∨ HasTag cs

/-- The tokens and nodes that are read are those of a text, inside of `depth` collections. -/
structure Reading.Fits (cs : List Char) (depth : Nat) (r : Reading) : Prop where
  lexer : r.lexer.Fits cs depth
  graph : ∀ v ∈ r.graph, v.IsFrom cs

namespace Grammar

/-- What is read goes on with tokens and nodes of a text, and an error has a cause in the text. -/
def Keeps (cs : List Char) (depth : Nat) (m : Grammar α) : Prop :=
  MeetsFrom (Cause cs) (Reading.Fits cs depth) m fun _ => Reading.Fits cs depth

/-- The state in front of a token. -/
def Before (cs : List Char) (depth : Nat) (t : Option Token) (r : Reading) : Prop :=
  r.Fits cs depth ∧ r.lexer.next? = t

variable {d : Nat}

theorem keeps_fail : Keeps cs d (fail : Grammar α) :=
  .throw .malformed

theorem keeps_pure (a : α) : Keeps cs d (pure a : Grammar α) :=
  .pure fun _ => id

theorem Keeps.bind {m : Grammar α} {f : α → Grammar β} (h : Keeps cs d m)
    (hf : ∀ a, Keeps cs d (f a)) : Keeps cs d (m >>= f) :=
  MeetsFrom.bind h hf

theorem keeps_get : Keeps cs d (get : Grammar Reading) :=
  MeetsFrom.get.mono fun _ _ h => h.1

theorem meets_next : MeetsFrom (Cause cs) (Reading.Fits cs d) next (Before cs d) := by
  unfold next
  refine MeetsFrom.get.bind fun r => ?_
  refine MeetsFrom.bind (J := fun l s => s.Fits cs d ∧ l.Fits cs d ∧ r = s) ?_ fun l => ?_
  · refine MeetsFrom.lift fun s hs => ?_
    obtain ⟨hfits, rfl⟩ := hs
    exact (hfits.lexer.settled r.bound).mono fun l hl => ⟨hfits, hl, rfl⟩
  · refine MeetsFrom.bind (J := fun _ => Before cs d l.next?) (MeetsFrom.set ?_) fun _ =>
      MeetsFrom.pure fun _ => id
    rintro s ⟨hfits, hl, rfl⟩
    exact ⟨⟨hl, hfits.graph⟩, rfl⟩

theorem Before.fits {t : Option Token} {r : Reading} (h : Before cs d t r) : r.Fits cs d :=
  h.1

/-- A token that can open a collection is taken. -/
theorem meets_drop (t : Token) :
    MeetsFrom (Cause cs) (Before cs d (some t)) drop fun _ => Reading.Fits cs (d + t.weight) :=
  MeetsFrom.modify fun _ h => ⟨h.1.lexer.afterNext h.2, h.1.graph⟩

theorem Keeps.shallow {m : Grammar α} {k : Nat} (h : Keeps cs (d + k) m) :
    MeetsFrom (Cause cs) (Reading.Fits cs (d + k)) m fun _ => Reading.Fits cs d :=
  MeetsFrom.mono h fun _ _ hr => ⟨hr.lexer.shallow (Nat.le_add_right d k), hr.graph⟩

/-- What comes behind a token inside of the same collections. -/
theorem keeps_drop {t : Token} {m : Grammar α} (h : Keeps cs d m) :
    MeetsFrom (Cause cs) (Before cs d (some t)) (drop >>= fun _ => m) fun _ =>
      Reading.Fits cs d :=
  (meets_drop t).bind fun _ => MeetsFrom.start h fun _ hr =>
    ⟨hr.lexer.shallow (Nat.le_add_right d _), hr.graph⟩

/-- What comes behind a token that opens a collection. -/
theorem keeps_open {t : Token} (ht : t.weight = 1) {m : Grammar α} (h : Keeps cs (d + 1) m) :
    MeetsFrom (Cause cs) (Before cs d (some t)) (drop >>= fun _ => m) fun _ =>
      Reading.Fits cs d :=
  (meets_drop t).bind fun _ => by
    rw [ht]
    exact h.shallow

theorem Keeps.before {t : Option Token} {m : Grammar α} (h : Keeps cs d m) :
    MeetsFrom (Cause cs) (Before cs d t) m fun _ => Reading.Fits cs d :=
  MeetsFrom.start h fun _ hr => hr.1

/-- What depends on the next token. -/
theorem keeps_next {f : Option Token → Grammar α}
    (h : ∀ t, MeetsFrom (Cause cs) (Before cs d t) (f t) fun _ => Reading.Fits cs d) :
    Keeps cs d (next >>= f) :=
  meets_next.bind h

theorem keeps_expect (t : Token) : Keeps cs d (expect t) := by
  refine keeps_next fun u => ?_
  split
  · next hu =>
    subst hu
    exact keeps_drop (m := pure ()) (keeps_pure ())
  · exact keeps_fail.before

theorem keeps_isNext (ts : List Token) : Keeps cs d (isNext ts) :=
  keeps_next fun _ => (keeps_pure _).before

/-! ## Properties of nodes -/

theorem keeps_fullName (handle : Option String) (suffix : String) :
    Keeps cs d (fullName handle suffix) := by
  unfold fullName
  split
  · exact keeps_pure _
  · refine keeps_get.bind fun r => ?_
    split
    · exact keeps_pure _
    · exact keeps_fail

theorem Before.hasTag {handle : Option String} {suffix : String} {r : Reading}
    (h : Before cs d (some (.tag handle suffix)) r) : HasTag cs :=
  h.1.lexer.isFrom_of_next? h.2

/-- A node has a tag only if the text has one. -/
theorem meets_properties :
    MeetsFrom (Cause cs) (Reading.Fits cs d) properties fun p r =>
      r.Fits cs d ∧ (p.2.isSome = true → HasTag cs) := by
  have hnone : ∀ a : Option String, ∀ r : Reading, r.Fits cs d →
      r.Fits cs d ∧ ((a, (none : Option String)).2.isSome = true → HasTag cs) :=
    fun _ _ hr => ⟨hr, fun h => by cases h⟩
  have htagged : ∀ {m : Grammar (Option String × Option String)}, HasTag cs → Keeps cs d m →
      MeetsFrom (Cause cs) (Reading.Fits cs d) m fun p r =>
        r.Fits cs d ∧ (p.2.isSome = true → HasTag cs) :=
    fun htag hm => MeetsFrom.mono hm fun _ _ hr => ⟨hr, fun _ => htag⟩
  have hname : ∀ (a handle : Option String) (suffix : String),
      Keeps cs d (do return (a, some (← fullName handle suffix))) :=
    fun _ handle suffix => (keeps_fullName handle suffix).bind fun _ => keeps_pure _
  have hdrop : ∀ t : Token, MeetsFrom (Cause cs) (Before cs d (some t)) drop fun _ =>
      Reading.Fits cs d :=
    fun t => keeps_drop (m := pure ()) (keeps_pure ())
  unfold properties
  -- An anchor and a tag in either order, or one of them, or none.
  refine meets_next.bind fun t => ?_
  split
  · refine (hdrop _).bind fun _ => meets_next.bind fun u => ?_
    split
    · exact .assume (fun _ => Before.hasTag) fun htag =>
        (hdrop _).bind fun _ => htagged htag (hname _ _ _)
    · exact .pure fun _ hr => hnone _ _ hr.fits
  · refine .assume (fun _ => Before.hasTag) fun htag => ?_
    refine (hdrop _).bind fun _ => meets_next.bind fun u => ?_
    split
    · exact (hdrop _).bind fun _ => htagged htag (hname _ _ _)
    · exact (htagged htag (hname _ _ _)).start fun _ hr => hr.fits
  · exact .pure fun _ hr => hnone _ _ hr.fits

/-! ## New nodes -/

/-- The next token stays when a node is added. -/
theorem meets_add {t : Option Token} (anchor : Option String) {v : Vertex} (hv : v.IsFrom cs) :
    MeetsFrom (Cause cs) (Before cs d t) (add anchor v) fun _ => Before cs d t := by
  have hcheck : MeetsFrom (Cause cs) (Before cs d t) (checkAnchor anchor) fun _ =>
      Before cs d t := by
    cases anchor with
    | none => exact .pure fun _ => id
    | some a =>
      refine (MeetsFrom.get.mono fun _ _ h => h.1).bind fun r => ?_
      split
      · exact .throw .malformed
      · exact .pure fun _ => id
  refine hcheck.bind fun _ => MeetsFrom.modifyGet fun r hr => ⟨⟨hr.1.lexer, fun u hu => ?_⟩, hr.2⟩
  rcases Array.mem_push.1 hu with hu | rfl
  · exact hr.1.graph u hu
  · exact hv

theorem keeps_add (anchor : Option String) {v : Vertex} (hv : v.IsFrom cs) :
    Keeps cs d (add anchor v) := by
  intro r hr
  exact (meets_add (t := r.lexer.next?) anchor hv r ⟨hr, rfl⟩).mono fun _ h => h.1

theorem keeps_replace (i : Nat) {v : Vertex} (hv : v.IsFrom cs) : Keeps cs d (replace i v) := by
  refine MeetsFrom.modify fun r hr => ⟨hr.lexer, fun u hu => ?_⟩
  rcases Array.mem_or_eq_of_mem_setIfInBounds hu with hu | rfl
  · exact hr.graph u hu
  · exact hv

theorem isFrom_scalarTag {tag : Option String} (htag : tag.isSome = true → HasTag cs)
    {plain : Bool} {text : String} (ht : (Token.scalar plain text).IsFrom cs) :
    (Vertex.scalar (scalarTag tag plain text) text).IsFrom cs := by
  cases tag with
  | some name => exact .inr (.inr (.inr (htag rfl)))
  | none =>
    cases plain with
    | true => exact .inr (.inr (.inl ⟨rfl, ht⟩))
    | false => exact .inl rfl

theorem isFrom_empty {tag : Option String} (htag : tag.isSome = true → HasTag cs) :
    (Vertex.scalar (scalarTag tag true "") "").IsFrom cs := by
  cases tag with
  | some name => exact .inr (.inr (.inr (htag rfl)))
  | none => exact .inr (.inl rfl)

theorem collectionTag_eq {tag : Option String} (htag : tag.isSome = true → HasTag cs)
    (usual : Tag) : collectionTag tag usual = usual ∨ HasTag cs := by
  cases tag with
  | some name => exact .inr (htag rfl)
  | none => exact .inl rfl

section

variable {t : Option Token} {k : Nat} (anchor : Option String) {tag : Option String}
  (htag : tag.isSome = true → HasTag cs)

include htag

theorem keeps_emptyNode : Keeps cs d (emptyNode anchor tag) := by
  unfold emptyNode
  split
  · exact keeps_fail
  · exact keeps_add anchor (isFrom_empty htag)

theorem meets_sequence {items : Grammar (List Nat)}
    (h : MeetsFrom (Cause cs) (Before cs d t) items fun _ => Reading.Fits cs k) :
    MeetsFrom (Cause cs) (Before cs d t) (sequence anchor tag items) fun _ =>
      Reading.Fits cs k :=
  have hv : ∀ l, (Vertex.seq (collectionTag tag .seq) l).IsFrom cs :=
    fun _ => collectionTag_eq htag .seq
  (meets_add anchor (hv [])).bind fun i => h.bind fun l =>
    (keeps_replace i (hv l)).bind fun _ => keeps_pure i

theorem meets_mapping {entries : Grammar (List (Nat × Nat))}
    (h : MeetsFrom (Cause cs) (Before cs d t) entries fun _ => Reading.Fits cs k) :
    MeetsFrom (Cause cs) (Before cs d t) (mapping anchor tag entries) fun _ =>
      Reading.Fits cs k :=
  have hv : ∀ l, (Vertex.map (collectionTag tag .map) l).IsFrom cs :=
    fun _ => collectionTag_eq htag .map
  (meets_add anchor (hv [])).bind fun i => h.bind fun l =>
    (keeps_replace i (hv l)).bind fun _ => keeps_pure i

theorem keeps_sequence {items : Grammar (List Nat)} (h : Keeps cs d items) :
    Keeps cs d (sequence anchor tag items) :=
  fun r hr => meets_sequence anchor htag h.before r ⟨hr, rfl⟩

theorem keeps_mapping {entries : Grammar (List (Nat × Nat))} (h : Keeps cs d entries) :
    Keeps cs d (mapping anchor tag entries) :=
  fun r hr => meets_mapping anchor htag h.before r ⟨hr, rfl⟩

end

theorem keeps_missing : Keeps cs d missing :=
  keeps_add none (.inr (.inl rfl))

/-! ## Nodes -/

/-- The readers of nodes and of their parts, where they call each other at most `n` times. -/
structure Keepers (cs : List Char) (n : Nat) : Prop where
  node : ∀ {d site}, site.depth ≤ d → Keeps cs d (node n site)
  nodeBefore : ∀ {d site} ends, site.depth ≤ d → Keeps cs d (nodeBefore n ends site)
  valueBefore : ∀ {d site} ends, site.depth ≤ d → Keeps cs d (valueBefore n ends site)
  blockItems : ∀ {d site}, site.depth ≤ d → Keeps cs d (blockItems n site)
  /-- The mark of an item opens this block. -/
  bareItems : ∀ {d site}, site.depth ≤ d + 1 → Keeps cs d (bareItems n site)
  blockEntries : ∀ {d site}, site.depth ≤ d → Keeps cs d (blockEntries n site)
  flowItems : ∀ {d site} first, site.depth ≤ d → Keeps cs d (flowItems n site first)
  flowEntries : ∀ {d site} first, site.depth ≤ d → Keeps cs d (flowEntries n site first)

variable {n : Nat} {site : Site}

theorem Keepers.content (h : Keepers cs n) (hd : site.depth ≤ d) (anchor : Option String)
    {tag : Option String} (htag : tag.isSome = true → HasTag cs) :
    Keeps cs d (next >>= fun t => match t with
      | some (.scalar plain text) => do
        drop
        add anchor (.scalar (scalarTag tag plain text) text)
      | some .flowSeqStart => do
        drop
        sequence anchor tag (Grammar.flowItems n (site.inner false false) true)
      | some .flowMapStart => do
        drop
        mapping anchor tag (Grammar.flowEntries n (site.inner false false) true)
      | some .blockEntry =>
        if site.bareItems then sequence anchor tag (Grammar.bareItems n (site.inner true false))
        else emptyNode anchor tag
      | some .blockSeqStart =>
        if site.block then do
          drop
          sequence anchor tag (Grammar.blockItems n (site.inner true false))
        else emptyNode anchor tag
      | some .blockMapStart =>
        if site.block then do
          drop
          mapping anchor tag (Grammar.blockEntries n (site.inner true true))
        else emptyNode anchor tag
      | _ => emptyNode anchor tag) := by
  have hinner : ∀ block bare, (site.inner block bare).depth ≤ d + 1 :=
    fun _ _ => Nat.succ_le_succ hd
  have hempty : ∀ {t}, MeetsFrom (Cause cs) (Before cs d t) (emptyNode anchor tag) fun _ =>
      Reading.Fits cs d :=
    (keeps_emptyNode anchor htag).before
  refine keeps_next fun t => ?_
  split
  · exact .assume (fun _ hr => hr.1.lexer.isFrom_of_next? hr.2) fun ht =>
      keeps_drop (keeps_add anchor (isFrom_scalarTag htag ht))
  · exact keeps_open rfl (keeps_sequence anchor htag (h.flowItems true (hinner _ _)))
  · exact keeps_open rfl (keeps_mapping anchor htag (h.flowEntries true (hinner _ _)))
  · split
    · exact (keeps_sequence anchor htag (h.bareItems (hinner _ _))).before
    · exact hempty
  · split
    · exact keeps_open rfl (keeps_sequence anchor htag (h.blockItems (hinner _ _)))
    · exact hempty
  · split
    · exact keeps_open rfl (keeps_mapping anchor htag (h.blockEntries (hinner _ _)))
    · exact hempty
  · exact hempty

theorem Keepers.node_succ (h : Keepers cs n) (hd : site.depth ≤ d) :
    Keeps cs d (Grammar.node (n + 1) site) := by
  rw [Grammar.node]
  split
  · next hdeep =>
    -- There are as many marks as collections around the node.
    refine .assume (fun r hr => hr.lexer.depth_le) fun hmarks => ?_
    exact MeetsFrom.bind (J := fun _ _ => False) (.throw (.tooDeep (by omega))) fun _ _ =>
      False.elim
  · refine keeps_next fun t => ?_
    split
    · refine keeps_drop (keeps_get.bind fun r => ?_)
      split
      · exact keeps_pure _
      · exact keeps_fail
    · refine (meets_properties.start fun _ => Before.fits).bind fun p => ?_
      obtain ⟨anchor, tag⟩ := p
      exact .assume (fun _ hr => hr.2) fun htag =>
        (h.content hd anchor htag).start fun _ hr => hr.1

theorem Keepers.blockItems_succ (h : Keepers cs n) (hd : site.depth ≤ d) :
    Keeps cs d (Grammar.blockItems (n + 1) site) := by
  rw [Grammar.blockItems]
  refine keeps_next fun t => ?_
  split
  · next ht =>
    subst ht
    exact keeps_drop ((h.nodeBefore _ hd).bind fun i => (h.blockItems hd).bind fun _ =>
      keeps_pure _)
  · exact ((keeps_expect _).bind fun _ => keeps_pure _).before

/-- The mark of an item opens the block around the item; behind the item it is closed. -/
theorem Keepers.bareItems_succ (h : Keepers cs n) (hd : site.depth ≤ d + 1) :
    Keeps cs d (Grammar.bareItems (n + 1) site) := by
  rw [Grammar.bareItems]
  refine keeps_next fun t => ?_
  split
  · next ht =>
    subst ht
    exact (meets_drop .blockEntry).bind fun _ =>
      (Keeps.shallow (k := 1) (h.nodeBefore _ hd)).bind fun i => (h.bareItems hd).bind fun _ =>
        keeps_pure _
  · exact (keeps_pure _).before

theorem Keepers.blockEntries_succ (h : Keepers cs n) (hd : site.depth ≤ d) :
    Keeps cs d (Grammar.blockEntries (n + 1) site) := by
  rw [Grammar.blockEntries]
  refine keeps_next fun t => ?_
  split
  · next ht =>
    subst ht
    exact keeps_drop ((h.nodeBefore _ hd).bind fun k => (h.valueBefore _ hd).bind fun v =>
      (h.blockEntries hd).bind fun _ => keeps_pure _)
  · exact ((keeps_expect _).bind fun _ => keeps_pure _).before

theorem Keepers.nodeBefore_succ (h : Keepers cs n) (ends : List Token) (hd : site.depth ≤ d) :
    Keeps cs d (Grammar.nodeBefore (n + 1) ends site) := by
  rw [Grammar.nodeBefore]
  refine (keeps_isNext ends).bind fun b => ?_
  split
  · exact keeps_missing
  · exact h.node hd

theorem Keepers.valueBefore_succ (h : Keepers cs n) (ends : List Token) (hd : site.depth ≤ d) :
    Keeps cs d (Grammar.valueBefore (n + 1) ends site) := by
  rw [Grammar.valueBefore]
  refine keeps_next fun t => ?_
  split
  · next ht =>
    subst ht
    exact keeps_drop (h.nodeBefore _ hd)
  · exact keeps_missing.before

/-- A separator in front of all parts but the first. -/
theorem keeps_separated (first : Bool) {f : Unit → Grammar α} (h : Keeps cs d (f ())) :
    Keeps cs d (if !first then expect .flowEntry >>= f else f ()) := by
  split
  · exact (keeps_expect _).bind fun _ => h
  · exact h

theorem Keepers.flowItems_succ (h : Keepers cs n) (first : Bool) (hd : site.depth ≤ d) :
    Keeps cs d (Grammar.flowItems (n + 1) site first) := by
  have hinner : (site.inner false false).depth ≤ d + 1 := Nat.succ_le_succ hd
  have hend : ∀ t : Token, MeetsFrom (Cause cs) (Before cs d (some t))
      (drop >>= fun _ => (pure [] : Grammar (List Nat))) fun _ => Reading.Fits cs d :=
    fun t => keeps_drop (keeps_pure _)
  rw [Grammar.flowItems]
  refine keeps_next fun t => ?_
  split
  · next ht =>
    subst ht
    exact hend _
  · refine (keeps_separated first (keeps_next fun t => ?_)).before
    split
    · exact hend _
    · -- A key in front of an item makes it a mapping, which is one collection more.
      refine (meets_mapping none (fun h => by cases h) (keeps_open rfl ?_)).bind fun i =>
        (h.flowItems false hd).bind fun _ => keeps_pure _
      exact (h.nodeBefore _ hinner).bind fun k => (h.valueBefore _ hinner).bind fun v =>
        keeps_pure _
    · exact ((h.node hd).bind fun i => (h.flowItems false hd).bind fun _ => keeps_pure _).before

theorem Keepers.flowEntries_succ (h : Keepers cs n) (first : Bool) (hd : site.depth ≤ d) :
    Keeps cs d (Grammar.flowEntries (n + 1) site first) := by
  have hend : ∀ t : Token, MeetsFrom (Cause cs) (Before cs d (some t))
      (drop >>= fun _ => (pure [] : Grammar (List (Nat × Nat)))) fun _ => Reading.Fits cs d :=
    fun t => keeps_drop (keeps_pure _)
  rw [Grammar.flowEntries]
  refine keeps_next fun t => ?_
  split
  · next ht =>
    subst ht
    exact hend _
  · refine (keeps_separated first (keeps_next fun t => ?_)).before
    split
    · exact hend _
    · exact keeps_drop ((h.nodeBefore _ hd).bind fun k => (h.valueBefore _ hd).bind fun v =>
        (h.flowEntries false hd).bind fun _ => keeps_pure _)
    · exact ((h.node hd).bind fun k => keeps_missing.bind fun v =>
        (h.flowEntries false hd).bind fun _ => keeps_pure _).before

/-- Nodes and their parts. -/
theorem keepers (cs : List Char) (n : Nat) : Keepers cs n := by
  -- Induction on how deep the readers call each other.
  induction n with
  | zero =>
    exact {
      node := fun _ => keeps_fail
      nodeBefore := fun _ _ => keeps_fail
      valueBefore := fun _ _ => keeps_fail
      blockItems := fun _ => keeps_fail
      bareItems := fun _ => keeps_fail
      blockEntries := fun _ => keeps_fail
      flowItems := fun _ _ => keeps_fail
      flowEntries := fun _ _ => keeps_fail }
  | succ n h =>
    exact {
      node := h.node_succ
      nodeBefore := h.nodeBefore_succ
      valueBefore := h.valueBefore_succ
      blockItems := h.blockItems_succ
      bareItems := h.bareItems_succ
      blockEntries := h.blockEntries_succ
      flowItems := h.flowItems_succ
      flowEntries := h.flowEntries_succ }

/-! ## Documents -/

theorem keeps_directives (n : Nat) (versioned : Bool) (handles : Table String String) :
    Keeps cs d (directives n versioned handles) := by
  induction n generalizing versioned handles with
  | zero => exact keeps_fail
  | succ n ih =>
    rw [directives]
    refine keeps_next fun t => ?_
    split
    · refine keeps_drop ?_
      split
      · split
        · exact keeps_fail
        · exact ih _ _
      · split
        · exact keeps_fail
        · exact ih _ _
      · exact ih _ _
    · exact (keeps_pure _).before

theorem keeps_dropEnds (n : Nat) : Keeps cs d (dropEnds n) := by
  induction n with
  | zero => exact keeps_pure _
  | succ n ih =>
    rw [dropEnds]
    refine keeps_next fun t => ?_
    split
    · next ht =>
      subst ht
      exact keeps_drop ih
    · exact (keeps_pure _).before

theorem keeps_root : Keeps cs d root :=
  keeps_get.bind fun _ => (keepers cs _).node (Nat.zero_le d)

theorem keeps_explicitDocument : Keeps cs d explicitDocument := by
  refine keeps_get.bind fun r => (keeps_directives _ _ _).bind fun handles =>
    (keeps_expect _).bind fun _ => ?_
  have hhandles : Keeps cs d (modify fun r => { r with handles := handles ++ r.handles }) :=
    MeetsFrom.modify fun r hr => ⟨hr.lexer, hr.graph⟩
  refine hhandles.bind fun _ => keeps_next fun t => ?_
  split
  · exact keeps_missing.before
  · exact keeps_root.before

/-- Behind the root comes the end of the document, and then perhaps something else. -/
theorem keeps_end {k : Option Token → Grammar α} (hnone : Keeps cs d (k none))
    (hsome : ∀ t, Keeps cs d (k (some t))) :
    Keeps cs d (do
      dropEnds (← get).bound
      k (← next)) := by
  refine keeps_get.bind fun r => (keeps_dropEnds _).bind fun _ => keeps_next fun t => ?_
  cases t with
  | none => exact hnone.before
  | some t => exact (hsome t).before

theorem keeps_document : Keeps cs d document := by
  have hnext : Keeps cs d (do
      let _ ← directives (← get).bound false []
      fail : Grammar (Option Nat)) :=
    keeps_get.bind fun _ => (keeps_directives _ _ _).bind fun _ => keeps_fail
  unfold document
  refine keeps_next fun t => ?_
  split
  · exact (keeps_pure _).before
  · refine Keeps.before ?_
    split
    · exact Keeps.bind keeps_explicitDocument fun i => keeps_end (keeps_pure _) fun _ => hnext
    · exact Keeps.bind keeps_explicitDocument fun i => keeps_end (keeps_pure _) fun _ => hnext
    · exact Keeps.bind keeps_root fun i => keeps_end (keeps_pure _) fun _ => hnext

end Grammar

/-- All nodes of a text stand for what the text has. -/
theorem meets_ofText (cs : List Char) :
    Meets (Cause cs) (Graph.ofText cs) fun r => ∀ g i, r = some (g, i) → ∀ v ∈ g, v.IsFrom cs := by
  refine (Lexer.fits_ofText cs).bind fun lexer hlexer => ?_
  have hstart : Reading.Fits cs 0 { lexer, bound := cs.length + 2 } := ⟨hlexer, by simp⟩
  refine (Grammar.keeps_document _ hstart).bind fun r hr => ?_
  rintro g i heq
  obtain ⟨j, -, hj⟩ := Option.map_eq_some_iff.1 heq
  obtain ⟨rfl, -⟩ := Prod.mk.inj hj
  exact hr.graph

end SequenceApi.Yaml
