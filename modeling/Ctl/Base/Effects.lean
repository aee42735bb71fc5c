import Mathlib.Tactic.Common

/-!
# Computations that fail and keep their state

`ExceptT ε (StateM σ)` is the monad of a computation whose changes of the state stay when it fails.
`Keeps P x Q` says that the computation keeps the assertion `P` about the state, whether it succeeds or
not, and that its results meet `Q` when it succeeds. The rules follow the structure of computations.
-/

namespace Ctl.Base

variable {ε σ α β : Type}

def perform (x : ExceptT ε (StateM σ) α) (s : σ) : Except ε α × σ := x.run s

lemma perform_bind (x : ExceptT ε (StateM σ) α) (f : α → ExceptT ε (StateM σ) β) (s : σ) :
    perform (x >>= f) s = match perform x s with
      | (.ok a, s') => perform (f a) s'
      | (.error e, s') => (.error e, s') := by
  have unfolded : perform (x >>= f) s =
      (ExceptT.bindCont f (perform x s).1 : StateM σ (Except ε β)) (perform x s).2 := rfl
  rw [unfolded]
  generalize perform x s = done
  obtain ⟨result, s'⟩ := done
  cases result with
  | error e => rfl
  | ok a => rfl

/-- From a state that meets `P`, the computation succeeds with a result and a state that meet `Q`, or it
    fails with a state that meets `E`. -/
def Triple (P : σ → Prop) (x : ExceptT ε (StateM σ) α) (Q : α → σ → Prop) (E : σ → Prop) : Prop :=
  ∀ s, P s → match perform x s with
    | (.ok a, s') => Q a s'
    | (.error _, s') => E s'

namespace Triple

variable {P : σ → Prop} {Q Q' : α → σ → Prop} {R : β → σ → Prop} {E E' : σ → Prop}
  {x : ExceptT ε (StateM σ) α} {f : α → ExceptT ε (StateM σ) β}

lemma pure {a : α} (h : ∀ s, P s → Q a s) : Triple P (Pure.pure a : ExceptT ε (StateM σ) α) Q E := h

lemma throw {e : ε} (h : ∀ s, P s → E s) :
    Triple P (MonadExcept.throw e : ExceptT ε (StateM σ) α) Q E := h

lemma bind (first : Triple P x Q E) (rest : ∀ a, Triple (Q a) (f a) R E) : Triple P (x >>= f) R E := by
  intro s p
  rw [perform_bind]
  have done := first s p
  generalize perform x s = result at done ⊢
  obtain ⟨result, s'⟩ := result
  cases result with
  | error e => exact done
  | ok a => exact rest a s' done

lemma throwBind {e : ε} (h : ∀ s, P s → E s) : Triple P ((MonadExcept.throw e : ExceptT ε (StateM σ) α) >>= f) R E :=
  bind (Q := fun _ _ => False) (throw h) fun _ _ p => p.elim

lemma getBind {f : σ → ExceptT ε (StateM σ) β} (rest : ∀ s, Triple P (f s) R E) : Triple P (get >>= f) R E :=
  fun s p => rest s s p

lemma getEqBind {f : σ → ExceptT ε (StateM σ) β}
    (rest : ∀ s, P s → Triple (fun t => t = s) (f s) R E) : Triple P (get >>= f) R E :=
  fun s p => rest s p s rfl

lemma conseq (h : Triple P x Q E) (post : ∀ a s, Q a s → Q' a s) (error : ∀ s, E s → E' s) : Triple P x Q' E' := by
  intro s p
  have done := h s p
  generalize perform x s = result at done ⊢
  obtain ⟨result, s'⟩ := result
  cases result with
  | error e => exact error s' done
  | ok a => exact post a s' done

lemma pre {P' : σ → Prop} (h : Triple P x Q E) (stronger : ∀ s, P' s → P s) : Triple P' x Q E :=
  fun s p => h s (stronger s p)

lemma forM {f : α → ExceptT ε (StateM σ) PUnit} (xs : List α) (I : List α → σ → Prop)
    (body : ∀ done a rest, xs = done ++ a :: rest →
      Triple (I done) (f a) (fun _ => I (done ++ [a])) E) : Triple (I []) (xs.forM f) (fun _ => I xs) E := by
  suffices general : ∀ rest done, xs = done ++ rest →
      Triple (I done) (rest.forM f) (fun _ => I xs) E from general xs [] rfl
  intro rest
  induction rest with
  | nil =>
    intro done split
    rw [List.append_nil] at split
    exact split ▸ pure fun _ p => p
  | cons a rest ih =>
    intro done split
    rw [List.forM_eq_forM, List.forM_cons]
    apply bind (body done a rest split)
    intro _
    rw [← List.forM_eq_forM]
    exact ih (done ++ [a]) (by rw [split, List.append_assoc, List.singleton_append])

end Triple

/-- The computation keeps an assertion, and its results meet `Q`. -/
def Keeps (P : σ → Prop) (x : ExceptT ε (StateM σ) α) (Q : α → Prop) : Prop :=
  Triple P x (fun a s => P s ∧ Q a) P

namespace Keeps

variable {P : σ → Prop} {Q : α → Prop} {R : β → Prop} {x : ExceptT ε (StateM σ) α} {f : α → ExceptT ε (StateM σ) β}

lemma pure {a : α} (h : Q a) : Keeps P (Pure.pure a : ExceptT ε (StateM σ) α) Q :=
  Triple.pure fun _ p => ⟨p, h⟩

lemma throw {e : ε} : Keeps P (MonadExcept.throw e : ExceptT ε (StateM σ) α) Q :=
  Triple.throw fun _ p => p

lemma bind (first : Keeps P x Q) (rest : ∀ a, Q a → Keeps P (f a) R) : Keeps P (x >>= f) R :=
  Triple.bind first fun a s ⟨p, q⟩ => rest a q s p

lemma throwBind {e : ε} : Keeps P ((MonadExcept.throw e : ExceptT ε (StateM σ) α) >>= f) R :=
  Triple.throwBind fun _ p => p

lemma bindTriple {S : β → σ → Prop} {E : σ → Prop} (first : Keeps P x Q) (rest : ∀ a, Q a → Triple P (f a) S E)
    (error : ∀ s, P s → E s) : Triple P (x >>= f) S E :=
  Triple.bind (Triple.conseq first (fun _ _ h => h) error) fun a s ⟨p, q⟩ => rest a q s p

end Keeps

end Ctl.Base
