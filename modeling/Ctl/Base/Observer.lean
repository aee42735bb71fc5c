import Mathlib.Data.List.Basic

/-!
# Observers with checkpoints

An observer answers each of its inputs and changes its state. Its checkpoint is exact if the import
admits what the export wrote and yields the same state. An invariant that the import admits and that
every input keeps makes the checkpoints of a whole run exact (`Checkpoint.exact_of_run`).
-/

namespace Ctl.Base

variable {σ β ο τ ε : Type}

def observe (step : σ → β → σ × ο) (s : σ) : List β → σ × List ο
  | [] => (s, [])
  | b :: inputs =>
    let (t, answer) := step s b
    let (u, answers) := observe step t inputs
    (u, answer :: answers)

variable {step : σ → β → σ × ο}

lemma observe_append (s : σ) (first last : List β) :
    observe step s (first ++ last) =
      ((observe step (observe step s first).1 last).1,
        (observe step s first).2 ++ (observe step (observe step s first).1 last).2) := by
  induction first generalizing s with
  | nil => rfl
  | cons b first ih =>
    have rest := ih (step s b).1
    rw [List.cons_append]
    dsimp only [observe]
    rw [rest]
    rfl

theorem observe_keeps {inv : σ → Prop} (keeps : ∀ s b, inv s → inv (step s b).1) {s : σ} (h : inv s)
    (inputs : List β) : inv (observe step s inputs).1 := by
  induction inputs generalizing s with
  | nil => exact h
  | cons b inputs ih => exact ih (keeps s b h)

structure Checkpoint (σ τ ε : Type) where
  exportState : σ → τ
  fromState : τ → Except ε σ
  /-- What the import admits. -/
  Admitted : σ → Prop
  restores : ∀ s, Admitted s → fromState (exportState s) = .ok s

theorem Checkpoint.exact_of_run (checkpoint : Checkpoint σ τ ε)
    (keeps : ∀ s b, checkpoint.Admitted s → checkpoint.Admitted (step s b).1) {s : σ}
    (h : checkpoint.Admitted s) (inputs more : List β) :
    ∃ restored, checkpoint.fromState (checkpoint.exportState (observe step s inputs).1) = .ok restored ∧
      restored = (observe step s inputs).1 ∧
      observe step s (inputs ++ more) =
        ((observe step restored more).1, (observe step s inputs).2 ++ (observe step restored more).2) :=
  ⟨_, checkpoint.restores _ (observe_keeps keeps h inputs), rfl, observe_append s inputs more⟩

end Ctl.Base
