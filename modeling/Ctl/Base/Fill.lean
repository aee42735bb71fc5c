import Mathlib.Algebra.BigOperators.Ring.List
import Mathlib.Algebra.Group.Action.Defs
import Mathlib.Algebra.Order.BigOperators.Group.List
import Mathlib.Data.List.Nodup
import Mathlib.Tactic.Linarith
import Mathlib.Tactic.Ring

/-!
# Weighted water filling

One round of a proportional allocation with lower bounds. The claimants of a list `active` share a
supply `remaining` in proportion to their weights; a claimant whose share would fall below its
minimum is clamped to that minimum and leaves the round.

* `share` is the rounded-down share, `residual` what rounding leaves over, `clamped` the claimants
  whose exact share is below their minimum.
* `exists_not_mem_clamped`: a supply that covers the minima never clamps everybody.
* `minima_rest_le`: what is left after clamping still covers the other minima.
* `residual_lt_length`: the residual is smaller than the number of claimants, so one extra unit each
  distributes it.
* `sum_filled`: shares and residual together are exactly the supply.
* `share_self`: weights that add up to the supply already are their own shares.
-/

namespace Ctl.Base.Fill

variable {ι : Type*} (weight minimum : ι → ℕ)

def total (active : List ι) : ℕ := (active.map weight).sum

def share (active : List ι) (remaining : ℕ) (i : ι) : ℕ :=
  remaining * weight i / total weight active

def residual (active : List ι) (remaining : ℕ) : ℕ :=
  remaining - (active.map (share weight active remaining)).sum

def clamped (active : List ι) (remaining : ℕ) : List ι :=
  active.filter fun i => remaining * weight i < minimum i * total weight active

variable {weight minimum} {active : List ι} {remaining : ℕ}

lemma mem_clamped {i : ι} : i ∈ clamped weight minimum active remaining ↔
    i ∈ active ∧ remaining * weight i < minimum i * total weight active := by
  simp [clamped]

lemma le_total {i : ι} (hi : i ∈ active) : weight i ≤ total weight active :=
  List.single_le_sum (by simp) _ (List.mem_map_of_mem hi)

lemma total_pos (ne : active ≠ []) (pos : ∀ i ∈ active, 0 < weight i) : 0 < total weight active := by
  obtain ⟨i, hi⟩ := List.exists_mem_of_ne_nil active ne
  exact lt_of_lt_of_le (pos i hi) (le_total hi)

lemma sum_map_mul (l : List ι) (c : ℕ) : (l.map fun i => c * weight i).sum = c * total weight l := by
  simp [total, List.sum_map_mul_left]

variable (weight) in
lemma exists_not_mem_clamped (ne : active ≠ []) (cover : (active.map minimum).sum ≤ remaining) :
    ∃ i ∈ active, i ∉ clamped weight minimum active remaining := by
  by_contra h
  push Not at h
  -- Summing the strict inequalities of the clamped claimants contradicts `cover`.
  have lt : ∀ i ∈ active, remaining * weight i < minimum i * total weight active :=
    fun i hi => (mem_clamped.1 (h i hi)).2
  have sumlt : (active.map fun i => remaining * weight i).sum
      < (active.map fun i => minimum i * total weight active).sum :=
    List.sum_lt_sum_of_ne_nil ne _ _ lt
  rw [sum_map_mul, List.sum_map_mul_right] at sumlt
  exact absurd (lt_of_mul_lt_mul_right sumlt (Nat.zero_le _)) (not_lt.2 cover)

lemma sum_filter_add (p : ι → Bool) (f : ι → ℕ) (l : List ι) :
    ((l.filter p).map f).sum + ((l.filter fun i => !p i).map f).sum = (l.map f).sum := by
  induction l with
  | nil => rfl
  | cons a l ih =>
    by_cases h : p a <;> simp [h, ← ih] <;> ring

lemma rest_eq [DecidableEq ι] :
    (active.filter fun i => i ∉ clamped weight minimum active remaining)
      = active.filter fun i => !decide (remaining * weight i < minimum i * total weight active) := by
  apply List.filter_congr
  intro i hi
  simp only [mem_clamped, hi, true_and, decide_not]

variable (weight minimum active remaining) in
lemma sum_clamped_add [DecidableEq ι] (f : ι → ℕ) :
    ((clamped weight minimum active remaining).map f).sum
      + ((active.filter fun i => i ∉ clamped weight minimum active remaining).map f).sum
      = (active.map f).sum := by
  rw [rest_eq, clamped]
  exact sum_filter_add _ _ _

variable (weight) in
lemma minima_rest_le [DecidableEq ι] (cover : (active.map minimum).sum ≤ remaining) :
    ((active.filter fun i => i ∉ clamped weight minimum active remaining).map minimum).sum
      ≤ remaining - ((clamped weight minimum active remaining).map minimum).sum := by
  have h := sum_clamped_add weight minimum active remaining minimum
  omega

lemma minimum_le_share {i : ι} (hi : i ∈ active) (tot : 0 < total weight active)
    (h : i ∉ clamped weight minimum active remaining) : minimum i ≤ share weight active remaining i := by
  have : ¬ remaining * weight i < minimum i * total weight active :=
    fun hlt => h (mem_clamped.2 ⟨hi, hlt⟩)
  exact (Nat.le_div_iff_mul_le tot).2 (not_lt.1 this)

variable (weight remaining) in
lemma total_mul_sum_share (l : List ι) (W : ℕ) :
    W * (l.map fun i => remaining * weight i / W).sum
      + (l.map fun i => remaining * weight i % W).sum = remaining * total weight l := by
  induction l with
  | nil => simp [total]
  | cons a l ih =>
    have := Nat.div_add_mod (remaining * weight a) W
    simp only [List.map_cons, List.sum_cons, total] at ih ⊢
    rw [Nat.mul_add, Nat.mul_add]
    omega

variable (remaining) in
lemma sum_share_le (tot : 0 < total weight active) : (active.map (share weight active remaining)).sum ≤ remaining := by
  have h := total_mul_sum_share weight remaining active (total weight active)
  have le : total weight active * (active.map (share weight active remaining)).sum
      ≤ total weight active * remaining := by
    rw [Nat.mul_comm _ remaining, ← h]
    exact Nat.le_add_right _ _
  exact Nat.le_of_mul_le_mul_left le tot

lemma residual_lt_length (ne : active ≠ []) (tot : 0 < total weight active) :
    residual weight active remaining < active.length := by
  have h := total_mul_sum_share weight remaining active (total weight active)
  have lt : (active.map fun i => remaining * weight i % total weight active).sum
      < (active.map fun _ => total weight active).sum :=
    List.sum_lt_sum_of_ne_nil ne _ _ fun i _ => Nat.mod_lt _ tot
  rw [List.map_const', List.sum_replicate, smul_eq_mul] at lt
  -- `W * residual` is the sum of the remainders, which is below `W * length`.
  have key : total weight active * residual weight active remaining
      < total weight active * active.length := by
    unfold residual share
    rw [Nat.mul_sub, Nat.mul_comm _ remaining, Nat.mul_comm _ active.length]
    omega
  exact Nat.lt_of_mul_lt_mul_left key

lemma sum_add_take [DecidableEq ι] (f : ι → ℕ) {l : List ι} (nd : l.Nodup) {r : ℕ} (hr : r ≤ l.length) :
    (l.map fun i => if i ∈ l.take r then f i + 1 else f i).sum = (l.map f).sum + r := by
  induction l generalizing r with
  | nil => simp at hr; subst hr; simp
  | cons a l ih =>
    rw [List.nodup_cons] at nd
    cases r with
    | zero => simp
    | succ r =>
      have ih := ih nd.2 (r := r) (by simpa using hr)
      have tail : (l.map fun i => if i ∈ (a :: l).take (r + 1) then f i + 1 else f i)
          = l.map fun i => if i ∈ l.take r then f i + 1 else f i := by
        apply List.map_congr_left
        intro i hi
        have : i ≠ a := fun e => nd.1 (e ▸ hi)
        simp [this]
      rw [List.map_cons, tail, List.sum_cons, ih]
      simp
      ring

lemma sum_filled [DecidableEq ι] (nd : active.Nodup) (ne : active ≠ []) (tot : 0 < total weight active) :
    (active.map fun i =>
      if i ∈ active.take (residual weight active remaining)
      then share weight active remaining i + 1 else share weight active remaining i).sum
      = remaining := by
  rw [sum_add_take _ nd (residual_lt_length ne tot).le]
  have := sum_share_le remaining tot
  unfold residual
  omega

/-! ### Weights that are an allocation already -/

lemma share_self (tot : total weight active = remaining) (pos : 0 < remaining) (i : ι) :
    share weight active remaining i = weight i := by
  rw [share, tot, Nat.mul_div_cancel_left _ pos]

lemma residual_self (tot : total weight active = remaining) (pos : 0 < remaining) :
    residual weight active remaining = 0 := by
  have shares : active.map (share weight active remaining) = active.map weight :=
    List.map_congr_left fun i _ => share_self tot pos i
  rw [residual, shares]
  exact Nat.sub_eq_zero_of_le tot.ge

lemma clamped_self (tot : total weight active = remaining) (reach : ∀ i ∈ active, minimum i ≤ weight i) :
    clamped weight minimum active remaining = [] := by
  rw [clamped, List.filter_eq_nil_iff, tot]
  intro i hi
  have := Nat.mul_le_mul_right remaining (reach i hi)
  rw [Nat.mul_comm (weight i)] at this
  simpa using this

end Ctl.Base.Fill
