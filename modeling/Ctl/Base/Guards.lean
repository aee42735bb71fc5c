import Mathlib.Data.List.Basic

/-!
# Success of a computation that may fail

When a sequence of guards and computations in `Except` succeeds.
-/

namespace Ctl.Base

variable {ε ε' α β : Type} {x : Except ε α} {f : α → Except ε β}

lemma bind_eq_ok {b : β} : (x >>= f) = .ok b ↔ ∃ a, x = .ok a ∧ f a = .ok b := by
  cases x with
  | error e => exact ⟨nofun, nofun⟩
  | ok a => exact ⟨fun h => ⟨a, rfl, h⟩, fun ⟨_, eq, h⟩ => Except.ok.inj eq ▸ h⟩

lemma bind_eq_error {e : ε} : (x >>= f) = .error e ↔ x = .error e ∨ ∃ a, x = .ok a ∧ f a = .error e := by
  cases x with
  | error e' => exact ⟨fun h => .inl (congrArg _ (Except.error.inj h)), fun h => h.elim (fun h => h ▸ rfl) nofun⟩
  | ok a => exact ⟨fun h => .inr ⟨a, rfl, h⟩, fun h => h.elim nofun fun ⟨_, eq, h⟩ => Except.ok.inj eq ▸ h⟩

lemma pure_eq_ok {a b : α} : (pure a : Except ε α) = .ok b ↔ a = b :=
  ⟨Except.ok.inj, congrArg _⟩

lemma check_eq_ok {x : Except ε Unit} {f : Unit → Except ε β} {b : β} : (x >>= f) = .ok b ↔ x = .ok () ∧ f () = .ok b :=
  bind_eq_ok.trans ⟨fun ⟨(), h⟩ => h, fun h => ⟨(), h⟩⟩

lemma guard_eq_ok {p : Prop} [Decidable p] {e : ε} {rest : Except ε β} {b : β} :
    (if p then throw e >>= f else rest) = .ok b ↔ ¬ p ∧ rest = .ok b := by
  split
  · exact ⟨nofun, fun h => absurd ‹p› h.1⟩
  · exact ⟨fun h => ⟨‹¬ p›, h⟩, fun h => h.2⟩

lemma exists_unit {p : Unit → Prop} : (∃ u, p u) ↔ p () := ⟨fun ⟨(), h⟩ => h, fun h => ⟨(), h⟩⟩

lemma mapError_eq_ok {f : ε → ε'} {a : α} : x.mapError f = .ok a ↔ x = .ok a := by
  cases x with
  | error e => exact ⟨nofun, nofun⟩
  | ok a => exact ⟨fun h => congrArg _ (Except.ok.inj h), fun h => congrArg _ (Except.ok.inj h)⟩

lemma forM_eq_ok {xs : List α} {check : α → Except ε Unit} : xs.forM check = .ok () ↔ ∀ x ∈ xs, check x = .ok () := by
  induction xs with
  | nil => exact ⟨nofun, fun _ => rfl⟩
  | cons x xs ih =>
    rw [List.forM_eq_forM, List.forM_cons, check_eq_ok, ← List.forM_eq_forM, ih, List.forall_mem_cons]

end Ctl.Base
