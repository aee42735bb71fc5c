import Mathlib.Data.List.Basic

/-!
# Transition systems

A system is a partial step function: `step s a` is the state after action `a`, or nothing when the
action is not enabled in `s`. `Reachable` states are those of the finite runs from an initial state;
`ReachableWhile` restricts the runs to steps that meet a condition. A property that holds initially
and is kept by every step holds in every reachable state (`Reachable.invariant`).
-/

namespace Ctl.Base

variable {σ α : Type} {step : σ → α → Option σ} {init : σ → Prop} {first : List α} {ok : σ → α → Prop}

def exec (step : σ → α → Option σ) (s : σ) (actions : List α) : Option σ := actions.foldlM step s

lemma exec_append {s t : σ} {last : List α} (run : exec step s (first ++ last) = some t) :
    ∃ mid, exec step s first = some mid ∧ exec step mid last = some t := by
  rw [exec, List.foldlM_append] at run
  exact Option.bind_eq_some_iff.1 run

lemma exec_cons {s t : σ} {a : α} {rest : List α} (run : exec step s (a :: rest) = some t) :
    ∃ mid, step s a = some mid ∧ exec step mid rest = some t := by
  rw [exec, List.foldlM_cons] at run
  exact Option.bind_eq_some_iff.1 run

lemma exec_concat {s t : σ} {a : α} (run : exec step s (first ++ [a]) = some t) :
    ∃ mid, exec step s first = some mid ∧ step mid a = some t := by
  obtain ⟨mid, before, last⟩ := exec_append run
  obtain ⟨next, done, nil⟩ := exec_cons last
  obtain rfl : next = t := Option.some.inj nil
  exact ⟨mid, before, done⟩

/-- The states of the runs from an initial state whose steps all meet `ok`. -/
inductive ReachableWhile (step : σ → α → Option σ) (init : σ → Prop) (ok : σ → α → Prop) :
    σ → Prop
  | start {s : σ} : init s → ReachableWhile step init ok s
  | next {s s' : σ} {a : α} : ReachableWhile step init ok s → ok s a → step s a = some s' →
    ReachableWhile step init ok s'

/-- The states of all runs from an initial state. -/
def Reachable (step : σ → α → Option σ) (init : σ → Prop) : σ → Prop :=
  ReachableWhile step init fun _ _ => True

theorem ReachableWhile.invariant (inv : σ → Prop) (base : ∀ s, init s → inv s)
    (keep : ∀ s a s', inv s → ok s a → step s a = some s' → inv s') {s : σ} (h : ReachableWhile step init ok s) :
    inv s := by
  induction h with
  | start hs => exact base _ hs
  | next _ hok hstep ih => exact keep _ _ _ ih hok hstep

theorem Reachable.invariant (inv : σ → Prop) (base : ∀ s, init s → inv s)
    (keep : ∀ s a s', inv s → step s a = some s' → inv s') {s : σ} (h : Reachable step init s) : inv s :=
  ReachableWhile.invariant inv base (fun s a s' hi _ hs => keep s a s' hi hs) h

/-- A sequence of actions meets a condition in every state that it passes. -/
def Allows (step : σ → α → Option σ) (ok : σ → α → Prop) : σ → List α → Prop
  | _, [] => True
  | s, a :: actions => ok s a ∧ ∀ s' ∈ step s a, Allows step ok s' actions

instance Allows.decidable {ok : σ → α → Prop} [∀ s a, Decidable (ok s a)] :
    ∀ (s : σ) (actions : List α), Decidable (Allows step ok s actions)
  | _, [] => .isTrue trivial
  | s, a :: actions =>
    have := fun s' => (Allows.decidable s' actions : Decidable (Allows step ok s' actions))
    inferInstanceAs (Decidable (ok s a ∧ ∀ s' ∈ step s a, Allows step ok s' actions))

theorem ReachableWhile.exec {s s' : σ} (h : ReachableWhile step init ok s) (actions : List α)
    (run : exec step s actions = some s') (allowed : Allows step ok s actions) : ReachableWhile step init ok s' := by
  induction actions generalizing s with
  | nil =>
    obtain rfl : s = s' := Option.some.inj run
    exact h
  | cons a actions ih =>
    rw [Base.exec, List.foldlM_cons, Option.bind_eq_bind, Option.bind_eq_some_iff] at run
    obtain ⟨t, hstep, rest⟩ := run
    exact ih (.next h allowed.1 hstep) rest (allowed.2 t hstep)

lemma Allows.concat {s t : σ} {a : α} (run : Base.exec step s first = some t)
    (allowed : Allows step ok s (first ++ [a])) : Allows step ok s first ∧ ok t a := by
  induction first generalizing s with
  | nil =>
    obtain rfl : s = t := Option.some.inj run
    exact ⟨trivial, allowed.1⟩
  | cons b first ih =>
    obtain ⟨u, h, rest⟩ := exec_cons run
    obtain ⟨before, last⟩ := ih rest (allowed.2 u h)
    refine ⟨⟨allowed.1, fun v hv => ?_⟩, last⟩
    obtain rfl : u = v := Option.some.inj (h.symm.trans hv)
    exact before

lemma Allows.of_forall {actions : List α} (h : ∀ a ∈ actions, ∀ s, ok s a) (s : σ) : Allows step ok s actions := by
  induction actions generalizing s with
  | nil => trivial
  | cons a actions ih =>
    refine ⟨h a List.mem_cons_self s, fun s' _ => ih ?_ s'⟩
    exact fun b mem => h b (List.mem_cons_of_mem a mem)

theorem Reachable.exec {s s' : σ} (h : Reachable step init s) (actions : List α)
    (run : exec step s actions = some s') : Reachable step init s' :=
  ReachableWhile.exec h actions run (Allows.of_forall (fun _ _ _ => trivial) s)

end Ctl.Base
