import Mathlib.Data.List.Infix
import Mathlib.Algebra.BigOperators.Group.List.Lemmas
import Mathlib.Algebra.GroupWithZero.Nat

/-!
# The newest entries that fit

A window of bounded size onto a list of weighted entries, oldest first: `Newest weight capacity entries kept`
says that `kept` is the longest final part of the entries whose weights sum to at most the capacity. The window
of a longer list follows from the window of the list (`Newest.concat`), so it can be maintained entry by entry.
-/

namespace Ctl.Base

variable {α : Type} {weight : α → Nat} {capacity : Nat} {entries kept : List α}

def weigh (weight : α → Nat) (entries : List α) : Nat := (entries.map weight).sum

@[simp] lemma weigh_nil : weigh weight [] = 0 := rfl

@[simp] lemma weigh_cons (entry : α) (entries : List α) :
    weigh weight (entry :: entries) = weight entry + weigh weight entries := List.sum_cons

@[simp] lemma weigh_append (entries others : List α) :
    weigh weight (entries ++ others) = weigh weight entries + weigh weight others := by
  rw [weigh, List.map_append, List.sum_append]
  rfl

/-- The longest final part of the entries within the capacity. -/
structure Newest (weight : α → Nat) (capacity : Nat) (entries kept : List α) : Prop where
  suffix : kept <:+ entries
  fits : weigh weight kept ≤ capacity
  maximal : ∀ other, other <:+ entries → weigh weight other ≤ capacity → other <:+ kept

namespace Newest

lemma whole (fits : weigh weight entries ≤ capacity) : Newest weight capacity entries entries :=
  ⟨List.suffix_rfl, fits, fun _ suffix _ => suffix⟩

lemma drop {entry : α} (heavy : capacity < weigh weight (entry :: entries))
    (h : Newest weight capacity entries kept) : Newest weight capacity (entry :: entries) kept := by
  refine ⟨h.suffix.trans (List.suffix_cons _ _), h.fits, fun other suffix fits => ?_⟩
  cases List.suffix_cons_iff.1 suffix with
  | inl all =>
    rw [all] at fits
    exact absurd fits (Nat.not_le_of_lt heavy)
  | inr shorter => exact h.maximal other shorter fits

lemma concat {entry : α} {next : List α} (h : Newest weight capacity entries kept)
    (k : Newest weight capacity (kept ++ [entry]) next) : Newest weight capacity (entries ++ [entry]) next := by
  obtain ⟨before, rfl⟩ := h.suffix
  refine ⟨k.suffix.trans ?_, k.fits, fun other suffix fits => k.maximal other ?_ fits⟩
  · exact ⟨before, (List.append_assoc _ _ _).symm⟩
  · cases List.suffix_concat_iff.1 suffix with
    | inl empty =>
      rw [empty]
      exact List.nil_suffix
    | inr more =>
      obtain ⟨front, rfl, inside⟩ := more
      have lighter : weigh weight front ≤ capacity := by
        rw [weigh_append] at fits
        exact Nat.le_trans (Nat.le_add_right _ _) fits
      obtain ⟨between, rfl⟩ := h.maximal front inside lighter
      exact ⟨between, (List.append_assoc _ _ _).symm⟩

end Newest

end Ctl.Base
