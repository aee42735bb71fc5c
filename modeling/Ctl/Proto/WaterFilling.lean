import Ctl.Proto.Extents

/-!
# The clamping loop of a weighted split

The loop of `split_extents`, for any weights and minima: it ends with extents that reach the minima and add up to the
cells there are, and no round of it clamps everybody, overflows or leaves more cells over than there are children to
take one (`fillLoop_waterFills`).
-/

namespace Ctl.Proto.ViewLayout
open Ctl.Base

variable {weights minima active extents : List Nat} {available remaining : Nat}

/-- The children that a round of the loop of `split_extents` clamps. -/
def clampRound (weights minima active : List Nat) (remaining : Nat) : Res String (List Nat) := do
  let total ← sumWord 64 (active.map fun i => weights.getD i 0)
  Res.filter (fun i => do
    let exact ← word 64 (remaining * weights.getD i 0)
    let least ← word 64 (minima.getD i 0 * total)
    return decide (exact < least)) active

/-- What the last round of the loop of `split_extents` leaves over when it rounds down. -/
def lastResidual (weights active extents : List Nat) (remaining : Nat) : Res String Nat := do
  let total ← sumWord 64 (active.map fun i => weights.getD i 0)
  let extents ← assign (fun i _ => do
    let exact ← word 64 (remaining * weights.getD i 0)
    divWord exact total) active extents
  let placed ← sumWord 64 (active.map fun i => extents.getD i 0)
  subWord remaining placed

/-- The states in which the loop of `split_extents` begins a round. -/
inductive Round (weights minima : List Nat) (available : Nat) : List Nat → Nat → List Nat → Prop where
  | start : Round weights minima available (List.range minima.length) available (List.replicate minima.length 0)
  | clamp {active extents clamped fixed : List Nat} {remaining rest : Nat}
      (before : Round weights minima available active remaining extents)
      (clamps : clampRound weights minima active remaining = .ok clamped) (some : clamped ≠ [])
      (assigns : (assign (fun i _ => .ok (minima.getD i 0)) clamped extents : Res String (List Nat)) = .ok fixed)
      (takes : ((clamped.map fun i => minima.getD i 0).foldlM subWord remaining : Res String Nat) = .ok rest) :
      Round weights minima available (active.filter fun i => i ∉ clamped) rest fixed

structure Weighted (weights minima : List Nat) (available : Nat) : Prop where
  ne : minima ≠ []
  small : minima.length < 2 ^ 16
  same : weights.length = minima.length
  positive : ∀ weight ∈ weights, 0 < weight
  words : ∀ weight ∈ weights, weight < 2 ^ 32
  cover : minima.sum ≤ available
  lt : available < 2 ^ 16

/-- What holds when a round begins. -/
structure Pouring (minima : List Nat) (active : List Nat) (remaining : Nat) (extents : List Nat) : Prop where
  ne : active ≠ []
  nodup : active.Nodup
  inside : active ⊆ List.range minima.length
  length : extents.length = minima.length
  cover : (active.map fun i => minima.getD i 0).sum ≤ remaining
  lt : remaining < 2 ^ 16

lemma Weighted.weight (weighted : Weighted weights minima available) (pouring : Pouring minima active remaining extents)
    {i : Nat} (mem : i ∈ active) : 0 < weights.getD i 0 ∧ weights.getD i 0 < 2 ^ 32 := by
  have bound : i < weights.length := by
    rw [weighted.same]
    exact List.mem_range.1 (pouring.inside mem)
  have listed : weights.getD i 0 ∈ weights := by
    rw [List.getD_eq_getElem _ _ bound]
    exact List.getElem_mem bound
  exact ⟨weighted.positive _ listed, weighted.words _ listed⟩

lemma Pouring.small (weighted : Weighted weights minima available) (pouring : Pouring minima active remaining extents) :
    active.length < 2 ^ 16 := by
  have few := (List.subperm_of_subset pouring.nodup pouring.inside).length_le
  rw [List.length_range] at few
  exact lt_of_le_of_lt few weighted.small

lemma clampRound_eq_ok (weighted : Weighted weights minima available)
    (pouring : Pouring minima active remaining extents) :
    clampRound weights minima active remaining =
      .ok (Fill.clamped (fun i => weights.getD i 0) (fun i => minima.getD i 0) active remaining) := by
  have words : ∀ i ∈ active, weights.getD i 0 < 2 ^ 32 := fun i mem => (weighted.weight pouring mem).2
  rw [clampRound, total_eq_ok words (pouring.small weighted), Res.ok_bind]
  exact clamped_eq_ok words (pouring.small weighted) pouring.cover pouring.lt

lemma Round.pouring (weighted : Weighted weights minima available)
    (round : Round weights minima available active remaining extents) : Pouring minima active remaining extents := by
  induction round with
  | start =>
    refine ⟨?_, List.nodup_range, fun _ mem => mem, List.length_replicate, ?_, weighted.lt⟩
    · rw [Ne, List.range_eq_nil, List.length_eq_zero_iff]
      exact weighted.ne
    · rw [map_getD_range rfl]
      exact weighted.cover
  | @clamp active extents clamped fixed remaining rest _ clamps _ assigns takes pouring =>
    cases (clampRound_eq_ok weighted pouring).symm.trans clamps
    -- Not everybody is clamped, and the minima of the others are still covered.
    obtain ⟨kept, listed, unclamped⟩ :=
      Fill.exists_not_mem_clamped (fun i => weights.getD i 0) pouring.ne pouring.cover
    have parts := Fill.sum_clamped_add (fun i => weights.getD i 0) (fun i => minima.getD i 0) active remaining
      fun i => minima.getD i 0
    have covered := Fill.minima_rest_le (fun i => weights.getD i 0) pouring.cover
    have cover := pouring.cover
    have lt := pouring.lt
    rw [foldlM_subWord (by omega)] at takes
    cases takes
    have nodup := pouring.nodup.sublist (List.filter_sublist (p := fun i =>
      decide (remaining * weights.getD i 0 < minima.getD i 0 * Fill.total (fun i => weights.getD i 0) active)))
    obtain ⟨_, assigned, length, _⟩ := assign_eq_ok (ε := String) (v := extents)
      (f := fun i _ => .ok (minima.getD i 0)) (g := fun i _ => minima.getD i 0) nodup (fun _ _ => rfl)
    cases assigned.symm.trans assigns
    refine ⟨List.ne_nil_of_mem (List.mem_filter.2 ⟨listed, by simpa using unclamped⟩), pouring.nodup.filter _,
      fun _ mem => pouring.inside (List.mem_filter.1 mem).1, length.trans pouring.length, covered, by omega⟩

lemma lastResidual_eq_ok (weighted : Weighted weights minima available)
    (pouring : Pouring minima active remaining extents) :
    ∃ residual, lastResidual weights active extents remaining = .ok residual ∧ residual < active.length := by
  have words : ∀ i ∈ active, weights.getD i 0 < 2 ^ 32 := fun i mem => (weighted.weight pouring mem).2
  have total := Fill.total_pos pouring.ne fun i mem => (weighted.weight pouring mem).1
  have bound : ∀ i ∈ active, i < extents.length := fun i mem => by
    rw [pouring.length]
    exact List.mem_range.1 (pouring.inside mem)
  obtain ⟨shared, shares, _, _, _, residual⟩ := shares_eq_ok pouring.nodup bound total words pouring.lt
  have fewer : Fill.residual (fun i => weights.getD i 0) active remaining < active.length :=
    Fill.residual_lt_length pouring.ne total
  refine ⟨_, ?_, fewer⟩
  rw [lastResidual, total_eq_ok words (pouring.small weighted), Res.ok_bind, shares, Res.ok_bind, residual]

lemma fillLoop_mono {fuel : Nat} {filled : List Nat}
    (ok : fillLoop weights minima fuel active remaining extents = .ok filled) :
    fillLoop weights minima (fuel + 1) active remaining extents = .ok filled := by
  induction fuel generalizing active remaining extents with
  | zero => cases ok
  | succ fuel ih =>
    rw [fillLoop] at ok ⊢
    split at ok
    case isTrue done =>
      rw [if_pos done]
      exact ok
    case isFalse some =>
      rw [if_neg some]
      obtain ⟨total, totals, ok⟩ := Res.bind_eq_ok ok
      obtain ⟨clamped, clamps, ok⟩ := Res.bind_eq_ok ok
      rw [totals, Res.ok_bind, clamps, Res.ok_bind]
      split at ok
      case isTrue none =>
        rw [if_pos none]
        exact ok
      case isFalse some =>
        rw [if_neg some]
        obtain ⟨fixed, assigns, ok⟩ := Res.bind_eq_ok ok
        obtain ⟨rest, takes, ok⟩ := Res.bind_eq_ok ok
        rw [assigns, Res.ok_bind, takes, Res.ok_bind]
        exact ih ok

/-- The clamping loop of `split_extents` ends, with extents that reach the minima and add up to what is available. None
    of its rounds clamps everybody, and the last one leaves fewer cells over than it has children. -/
theorem fillLoop_waterFills (weights : List UInt32) (minima : List UInt16) (available : UInt16) (ne : minima ≠ [])
    (small : minima.length < 2 ^ 16) (same : weights.length = minima.length) (positive : 0 ∉ weights)
    (room : (minima.map UInt16.toNat).sum ≤ available.toNat) :
    (∃ extents : List UInt16,
      (∀ fuel, minima.length < fuel →
        fillLoop (weights.map UInt32.toNat) (minima.map UInt16.toNat) fuel (List.range minima.length) available.toNat
          (List.replicate minima.length 0) = .ok (extents.map UInt16.toNat)) ∧
      (extents.map UInt16.toNat).sum = available.toNat ∧ List.Forall₂ (· ≤ ·) minima extents) ∧
    ∀ active remaining extents,
      Round (weights.map UInt32.toNat) (minima.map UInt16.toNat) available.toNat active remaining extents →
      ∃ clamped, clampRound (weights.map UInt32.toNat) (minima.map UInt16.toNat) active remaining = .ok clamped ∧
        (∃ i ∈ active, i ∉ clamped) ∧
        (clamped = [] → ∃ residual, lastResidual (weights.map UInt32.toNat) active extents remaining = .ok residual ∧
          residual < active.length) := by
  have weighted : Weighted (weights.map UInt32.toNat) (minima.map UInt16.toNat) available.toNat := by
    refine ⟨by simpa using ne, by rwa [List.length_map], by rw [List.length_map, List.length_map, same],
      weights_toNat_pos positive, weights_toNat_lt, room, available.toNat_lt⟩
  constructor
  · obtain ⟨extents, filled, sum, reach⟩ := fillLoop_full weighted.ne weighted.same weighted.positive weighted.words
      weighted.small room weighted.lt
    obtain ⟨words, rfl⟩ := exists_words extents (sum ▸ weighted.lt)
    rw [List.length_map] at filled
    refine ⟨words, fun fuel enough => ?_, sum, ?_⟩
    · induction fuel, enough using Nat.le_induction with
      | base => exact filled
      | succ fuel _ ih => exact fillLoop_mono ih
    · rw [List.forall₂_map_left_iff, List.forall₂_map_right_iff] at reach
      exact reach
  · intro active remaining extents round
    have pouring := round.pouring weighted
    exact ⟨_, clampRound_eq_ok weighted pouring, Fill.exists_not_mem_clamped _ pouring.ne pouring.cover,
      fun _ => lastResidual_eq_ok weighted pouring⟩

theorem fillLoop_waterFills_threeCells :
    (∃ extents : List UInt16,
      (∀ fuel, 2 < fuel → fillLoop [4, 1] [1, 1] fuel [0, 1] 3 [0, 0] = .ok (extents.map UInt16.toNat)) ∧
      (extents.map UInt16.toNat).sum = 3 ∧ List.Forall₂ (· ≤ ·) [1, 1] extents) :=
  (fillLoop_waterFills [4, 1] [1, 1] 3 (by decide) (by decide) rfl (by decide) (by decide)).1

end Ctl.Proto.ViewLayout
