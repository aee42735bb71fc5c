import Mathlib.Data.List.Basic

/-!
# Sequential programs of atomic actions

A program returns a value, or performs an atomic action `e` and continues with its answer, a value of
`R e`. Nothing is said here about what an action does: a system that runs programs answers the
actions. An event is an action with its answer, and the history of a program is the list of its
events.

`Meets env give p t Q` is the rule of such programs: started after the history `t`, and as long as
the answers meet `env`, every action of `p` meets `give`, and `p` returns only with `Q`. Both
conditions may depend on the history. The program is verified alone; whatever runs next to it shows
in the answers only.
-/

namespace Ctl.Base

/-- A sequential program over the actions `E` with answers `R`. -/
inductive Prog (E : Type) (R : E → Type) (α : Type) : Type where
  | done (a : α)
  | call (e : E) (next : R e → Prog E R α)

abbrev Event (E : Type) (R : E → Type) : Type := (e : E) × R e

namespace Prog

variable {E : Type} {R : E → Type} {α β : Type}

/-- Run one program after another. -/
protected def bind : Prog E R α → (α → Prog E R β) → Prog E R β
  | .done a, f => f a
  | .call e next, f => .call e fun r => (next r).bind f

instance : Monad (Prog E R) where
  pure := .done
  bind := Prog.bind

def act (e : E) : Prog E R (R e) := .call e .done

/-- The program after its next action has got the answer of the event; nothing when its next action is
    another one or when it has returned. -/
def answer [DecidableEq E] : Prog E R α → Event E R → Option (Prog E R α)
  | .done _, _ => none
  | .call e next, ev => if h : ev.1 = e then some (next (h ▸ ev.2)) else none

/-! ## The rule of programs -/

variable (env give : List (Event E R) → Event E R → Prop)

/-- After the history `t`, all actions meet `give` and the returned value meets `Q`, as long as the
    answers meet `env`. -/
def Meets : Prog E R α → List (Event E R) → (α → List (Event E R) → Prop) → Prop
  | .done a, t, Q => Q a t
  | .call e next, t, Q =>
    ∀ r, env t ⟨e, r⟩ → give t ⟨e, r⟩ ∧ Meets (next r) (t ++ [⟨e, r⟩]) Q

variable {env give} {p : Prog E R α} {t : List (Event E R)} {Q : α → List (Event E R) → Prop}

/-- A value. -/
@[simp] lemma meets_pure {a : α} :
    Meets env give (pure a : Prog E R α) t Q ↔ Q a t := Iff.rfl

/-- One program after another. -/
@[simp] lemma meets_bind {f : α → Prog E R β} {Q : β → List (Event E R) → Prop} :
    Meets env give (p >>= f) t Q ↔ Meets env give p t fun a t => Meets env give (f a) t Q := by
  induction p generalizing t with
  | done a => exact Iff.rfl
  | call e next ih =>
    constructor
    · intro h r hr
      exact ⟨(h r hr).1, ih r |>.1 (h r hr).2⟩
    · intro h r hr
      exact ⟨(h r hr).1, ih r |>.2 (h r hr).2⟩

/-- One action. -/
@[simp] lemma meets_act {e : E} {Q : R e → List (Event E R) → Prop} :
    Meets env give (act e) t Q ↔ ∀ r, env t ⟨e, r⟩ → give t ⟨e, r⟩ ∧ Q r (t ++ [⟨e, r⟩]) := Iff.rfl

lemma Meets.conseq {Q' : α → List (Event E R) → Prop} (h : Meets env give p t Q) (post : ∀ a t, Q a t → Q' a t) :
    Meets env give p t Q' := by
  induction p generalizing t with
  | done a => exact post a t h
  | call e next ih =>
    intro r hr
    exact ⟨(h r hr).1, ih r (h r hr).2⟩

lemma Meets.answered [DecidableEq E] (h : Meets env give p t Q) {ev : Event E R} {p' : Prog E R α}
    (next : p.answer ev = some p') (ok : env t ev) : give t ev ∧ Meets env give p' (t ++ [ev]) Q := by
  cases p with
  | done a => cases next
  | call e k =>
    obtain ⟨e', r⟩ := ev
    rw [answer] at next
    split at next
    case isTrue same =>
      obtain rfl : e' = e := same
      obtain rfl := Option.some.inj next
      exact h r ok
    case isFalse => cases next

end Prog

end Ctl.Base
