/-!
# Contracts

A computation that may fail keeps a contract if it gives a result with a property or fails with an
error of a certain kind. Contracts of parts make up the contract of the whole: what one part leaves
is what the next one starts from, and the kind of the errors is the same for all.

## Main definitions

* `Meets`: the contract of a computation
* `MeetsFrom`: the contract of a computation with a state

## Main results

* `Meets.bind`, `MeetsFrom.bind`: one computation after another
* `MeetsFrom.forM`, `MeetsFrom.mapM`, `MeetsFrom.forIn`: loops that keep a property
-/

namespace SequenceApi

variable {ε σ α β : Type}

/-- The result has a property, or the error is of a kind. -/
def Meets (E : ε → Prop) (r : Except ε α) (P : α → Prop) : Prop :=
  match r with
  | .ok a => P a
  | .error e => E e

namespace Meets

variable {E E' : ε → Prop} {r : Except ε α} {P Q : α → Prop}

theorem mono (h : Meets E r P) (hPQ : ∀ a, P a → Q a) : Meets E r Q := by
  cases r with
  | ok a => exact hPQ a h
  | error e => exact h

theorem mono_error (h : Meets E r P) (hE : ∀ e, E e → E' e) : Meets E' r P := by
  cases r with
  | ok a => exact h
  | error e => exact hE e h

theorem trivial (r : Except ε α) : Meets (fun _ => True) r fun _ => True := by
  cases r <;> exact True.intro

theorem of_error (h : ∀ e, r = .error e → E e) : Meets E r fun _ => True := by
  cases r with
  | ok a => exact True.intro
  | error e => exact h e rfl

theorem error {e : ε} (h : Meets E r P) (hr : r = .error e) : E e := by
  subst hr
  exact h

/-- One computation after another. -/
theorem bind {f : α → Except ε β} {R : β → Prop} (h : Meets E r P)
    (hf : ∀ a, P a → Meets E (f a) R) : Meets E (r >>= f) R := by
  cases r with
  | ok a => exact hf a h
  | error e => exact h

theorem map {f : α → β} {R : β → Prop} (h : Meets E r P) (hf : ∀ a, P a → R (f a)) :
    Meets E (r.map f) R := by
  cases r with
  | ok a => exact hf a h
  | error e => exact h

/-- A computation that depends on a condition. -/
theorem ite {c : Prop} [Decidable c] {r' : Except ε α} (h : c → Meets E r P)
    (h' : ¬c → Meets E r' P) : Meets E (if c then r else r') P := by
  split
  · next hc => exact h hc
  · next hc => exact h' hc

end Meets

/-- From every state with a property, the result and the state that is left have a property, or the
error is of a kind. -/
def MeetsFrom (E : ε → Prop) (I : σ → Prop) (m : StateT σ (Except ε) α) (J : α → σ → Prop) : Prop :=
  ∀ s, I s → Meets E (m.run s) fun r => J r.1 r.2

namespace MeetsFrom

variable {E : ε → Prop} {I I' : σ → Prop} {m : StateT σ (Except ε) α} {J J' : α → σ → Prop}

theorem mono (h : MeetsFrom E I m J) (hJ : ∀ a s, J a s → J' a s) : MeetsFrom E I m J' :=
  fun s hs => (h s hs).mono fun r => hJ r.1 r.2

theorem start (h : MeetsFrom E I m J) (hI : ∀ s, I' s → I s) : MeetsFrom E I' m J :=
  fun s hs => h s (hI s hs)

/-- One computation after another. -/
theorem bind {f : α → StateT σ (Except ε) β} {K : β → σ → Prop} (h : MeetsFrom E I m J)
    (hf : ∀ a, MeetsFrom E (J a) (f a) K) : MeetsFrom E I (m >>= f) K := by
  intro s hs
  rw [StateT.run_bind]
  exact (h s hs).bind fun r hr => hf r.1 r.2 hr

/-- What all states of the start have in common. -/
theorem assume {p : Prop} (hp : ∀ s, I s → p) (h : p → MeetsFrom E I m J) : MeetsFrom E I m J :=
  fun s hs => h (hp s hs) s hs

theorem pure {a : α} (h : ∀ s, I s → J a s) :
    MeetsFrom E I (Pure.pure a : StateT σ (Except ε) α) J :=
  h

theorem throw {e : ε} (h : E e) :
    MeetsFrom E I (MonadExcept.throw e : StateT σ (Except ε) α) J :=
  fun _ _ => h

theorem get : MeetsFrom E I (MonadState.get : StateT σ (Except ε) σ) fun a s => I s ∧ a = s :=
  fun _ hs => ⟨hs, rfl⟩

theorem set {s' : σ} {J : PUnit → σ → Prop} (h : ∀ s, I s → J ⟨⟩ s') :
    MeetsFrom E I (MonadState.set s' : StateT σ (Except ε) PUnit) J :=
  h

theorem modify {f : σ → σ} {J : PUnit → σ → Prop} (h : ∀ s, I s → J ⟨⟩ (f s)) :
    MeetsFrom E I (modify f : StateT σ (Except ε) PUnit) J :=
  h

theorem modifyGet {f : σ → α × σ} (h : ∀ s, I s → J (f s).1 (f s).2) :
    MeetsFrom E I (MonadState.modifyGet f : StateT σ (Except ε) α) J :=
  h

/-- A computation without the state. -/
theorem lift {r : Except ε α} (h : ∀ s, I s → Meets E r fun a => J a s) :
    MeetsFrom E I (liftM r : StateT σ (Except ε) α) J := by
  intro s hs
  have hr := h s hs
  cases r with
  | ok a => exact hr
  | error e => exact hr

/-! ## Loops -/

section

variable {K : σ → Prop} (l : List α)

theorem forM {f : α → StateT σ (Except ε) PUnit} (h : ∀ a, MeetsFrom E K (f a) fun _ => K) :
    MeetsFrom E K (l.forM f) fun _ => K := by
  induction l with
  | nil => exact .pure fun _ => id
  | cons a l ih => exact (h a).bind fun _ => ih

theorem mapM {f : α → StateT σ (Except ε) β} (h : ∀ a, MeetsFrom E K (f a) fun _ => K) :
    MeetsFrom E K (l.mapM f) fun _ => K := by
  induction l with
  | nil => exact .pure fun _ => id
  | cons a l ih =>
    rw [List.mapM_cons]
    exact (h a).bind fun _ => ih.bind fun _ => .pure fun _ => id

theorem forIn {f : α → β → StateT σ (Except ε) (ForInStep β)} (b : β)
    (h : ∀ a b, MeetsFrom E K (f a b) fun _ => K) :
    MeetsFrom E K (ForIn.forIn l b f) fun _ => K := by
  induction l generalizing b with
  | nil => exact .pure fun _ => id
  | cons a l ih =>
    rw [List.forIn_cons]
    refine (h a b).bind fun r => ?_
    cases r with
    | done b => exact .pure fun _ => id
    | yield b => exact ih b

end

end MeetsFrom

end SequenceApi
