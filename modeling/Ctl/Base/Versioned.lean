import Ctl.Base.System

/-!
# Versioned values

A value carries a version that increases with every change of its content, so that a reader can tell an
old copy from a new one and a writer can say which copy it has seen. `Newer` relates a value to what
later steps have made of it; `Follows` lifts this to a value that steps may also drop, but not create.
`follows_exec` is the rule for runs. `Swaps` is a write that expects a version; of the writes that
expect one version at most one is made (`Swaps.once`).
-/

namespace Ctl.Base

structure Versioning (α β : Type) where
  version : α → Nat
  content : α → β

namespace Versioning

variable {α β : Type} {v : Versioning α β}

/-- The version does not decrease, and increases if the content changes. -/
structure Newer (v : Versioning α β) (a b : α) : Prop where
  le : v.version a ≤ v.version b
  same : v.version a = v.version b → v.content a = v.content b

namespace Newer

lemma refl (a : α) : v.Newer a a := ⟨Nat.le_refl _, fun _ => rfl⟩

lemma of_lt {a b : α} (lt : v.version a < v.version b) : v.Newer a b :=
  ⟨Nat.le_of_lt lt, fun eq => absurd eq (Nat.ne_of_lt lt)⟩

lemma trans {a b c : α} (h : v.Newer a b) (k : v.Newer b c) : v.Newer a c where
  le := Nat.le_trans h.le k.le
  same eq := by
    have hab : v.version a = v.version b := Nat.le_antisymm h.le (eq ▸ k.le)
    have hbc : v.version b = v.version c := hab ▸ eq
    exact (h.same hab).trans (k.same hbc)

lemma lt {a b : α} (h : v.Newer a b) (ne : v.content a ≠ v.content b) : v.version a < v.version b :=
  Nat.lt_of_le_of_ne h.le fun eq => ne (h.same eq)

end Newer

def Follows (v : Versioning α β) (before after : Option α) : Prop :=
  ∀ b ∈ after, ∃ a ∈ before, v.Newer a b

namespace Follows

lemma refl (a : Option α) : v.Follows a a := fun b mem => ⟨b, mem, Newer.refl b⟩

lemma of_eq {a b : Option α} (eq : b = a) : v.Follows a b := by
  rw [eq]
  exact refl a

lemma trans {a b c : Option α} (h : v.Follows a b) (k : v.Follows b c) : v.Follows a c := by
  intro z mem
  obtain ⟨y, mem, newer⟩ := k z mem
  obtain ⟨x, mem, older⟩ := h y mem
  exact ⟨x, mem, older.trans newer⟩

end Follows

theorem follows_exec {σ ι : Type} {step : σ → ι → Option σ} {read : σ → Option α} {inv : σ → Prop}
    {kept : ι → Prop} (keeps : ∀ s a s', inv s → step s a = some s' → inv s')
    (follows : ∀ s a s', inv s → kept a → step s a = some s' → v.Follows (read s) (read s'))
    {s t : σ} {actions : List ι} (start : inv s) (all : ∀ a ∈ actions, kept a)
    (run : exec step s actions = some t) : v.Follows (read s) (read t) := by
  induction actions generalizing s with
  | nil =>
    obtain rfl : s = t := Option.some.inj run
    exact .refl _
  | cons a actions ih =>
    obtain ⟨mid, first, rest⟩ := exec_cons run
    have one := follows s a mid start (all a List.mem_cons_self) first
    exact one.trans (ih (keeps s a mid start first)
      (fun b mem => all b (List.mem_cons_of_mem a mem)) rest)

structure Swaps (v : Versioning α β) (expected : Nat) (before after : Option α) : Prop where
  expects : ∀ a ∈ before, v.version a = expected
  writes : ∃ b ∈ after, expected < v.version b
  there : before.isSome

theorem Swaps.once {expected : Nat} {before after before' after' : Option α} (first : v.Swaps expected before after)
    (between : v.Follows after before') : ¬ v.Swaps expected before' after' := by
  intro second
  obtain ⟨b, mem, lt⟩ := first.writes
  obtain ⟨a, found⟩ := Option.isSome_iff_exists.1 second.there
  obtain ⟨b', mem', newer⟩ := between a found
  obtain rfl : b = b' := Option.some.inj (mem.symm.trans mem')
  have expects := second.expects a found
  have le := newer.le
  omega

end Versioning

end Ctl.Base
