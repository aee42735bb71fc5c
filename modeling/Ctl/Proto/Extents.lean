import Mathlib.Data.List.GetD
import Ctl.Base.Fill
import Ctl.Proto.Layout

/-!
# Dividing one split

What `splitExtents` computes. `minimumSize` is read as a lower bound on every child (`largest` and
`total` of `splitMinimum`), the clamping loop `fillLoop` is one round of `Ctl.Base.Fill` after the
other, and `splitExtents_spec` says that a split at least as long as its minimum is divided exactly:
the extents and the one-cell dividers add up to its length and no child falls below its own minimum.
-/

namespace Ctl.Proto.ViewLayout
open Ctl.Base

/-! ### Trees -/

/-- Induction on a layout, with the hypothesis for every child. -/
@[induction_eliminator]
theorem induct {motive : ViewLayout → Prop} (terminal : ∀ id, motive (.terminal id))
    (split : ∀ axis children weights, (∀ child ∈ children, motive child) →
      motive (.split axis children weights)) : ∀ layout, motive layout := by
  intro layout
  refine ViewLayout.rec
    terminal split ?_ ?_ layout
  · exact fun _ h => absurd h List.not_mem_nil
  · intro head tail hhead htail child h
    rcases List.mem_cons.1 h with rfl | h
    · exact hhead
    · exact htail child h

@[simp] lemma minimumSizes_eq (children : List ViewLayout) : minimumSizes children = children.map minimumSize := by
  induction children with
  | nil => rfl
  | cons child children ih => rw [minimumSizes, ih, List.map_cons]

@[simp] lemma terminalIdsAll_eq (children : List ViewLayout) :
    terminalIdsAll children = children.flatMap terminalIds := by
  induction children with
  | nil => rfl
  | cons child children ih => rw [terminalIdsAll, ih, List.flatMap_cons]

/-- The weights of a split: none, or one positive weight for each child. -/
def WeightsOk (children : List ViewLayout) (weights : List UInt32) : Prop :=
  weights = [] ∨ weights.length = children.length ∧ 0 ∉ weights

mutual
def WellFormed : ViewLayout → Prop
  | .terminal _ => True
  | .split _ children weights =>
    children ≠ [] ∧ WeightsOk children weights ∧ WellFormedAll children
/-- `WellFormed` for a list of children. -/
def WellFormedAll : List ViewLayout → Prop
  | [] => True
  | child :: children => child.WellFormed ∧ WellFormedAll children
end

variable {children : List ViewLayout} {sizes : List (Nat × Nat)} {axis : SplitAxis} {weights : List UInt32}
  {active minima : List Nat} {remaining available : Nat} {extents : List UInt16} {length : UInt16} {n k : Nat}
  {f : Nat → Res String UInt16} {words : List UInt16}

@[simp] lemma wellFormedAll_iff : WellFormedAll children ↔ ∀ child ∈ children, child.WellFormed := by
  induction children with
  | nil => simp [WellFormedAll]
  | cons child children ih => simp [WellFormedAll, ih]

/-! ### Minima -/

lemma foldl_max_ge (sizes : List (Nat × Nat)) (a : Nat × Nat) :
    let r := sizes.foldl (fun a b => (max a.1 b.1, max a.2 b.2)) a
    (a.1 ≤ r.1 ∧ a.2 ≤ r.2) ∧ ∀ s ∈ sizes, s.1 ≤ r.1 ∧ s.2 ≤ r.2 := by
  induction sizes generalizing a with
  | nil => simp
  | cons s sizes ih =>
    obtain ⟨⟨h1, h2⟩, hs⟩ := ih (max a.1 s.1, max a.2 s.2)
    simp only [List.foldl_cons] at h1 h2 hs ⊢
    refine ⟨⟨by omega, by omega⟩, ?_⟩
    intro t ht
    rcases List.mem_cons.1 ht with rfl | ht
    · exact ⟨by omega, by omega⟩
    · exact hs t ht

lemma foldl_satAdd_pair (m : Nat) (sizes : List (Nat × Nat)) (a : Nat × Nat) :
    sizes.foldl (fun a b => (satAdd m a.1 b.1, satAdd m a.2 b.2)) a
      = ((sizes.map Prod.fst).foldl (satAdd m) a.1, (sizes.map Prod.snd).foldl (satAdd m) a.2) := by
  induction sizes generalizing a with
  | nil => rfl
  | cons s sizes ih => simp only [List.foldl_cons, ih, List.map_cons]

lemma cross_le_splitMinimum (axis : SplitAxis) (weighted : Bool) {s : Nat × Nat} (hs : s ∈ sizes) :
    axis.cross s ≤ axis.cross (splitMinimum axis weighted sizes) := by
  obtain ⟨-, ls⟩ := foldl_max_ge sizes (2, 1)
  cases axis <;> cases weighted
  · exact (ls s hs).2
  · exact (ls s hs).2
  · exact (ls s hs).1
  · exact (ls s hs).1

lemma sum_le_splitMinimum (lt : n < 2 ^ 16) (h : axis.pick (splitMinimum axis true sizes) ≤ n) :
    (sizes.map axis.pick).sum + (sizes.length - 1) ≤ n := by
  have ceiling : u32Max = 2 ^ 32 - 1 := rfl
  cases axis <;> simp only [splitMinimum, SplitAxis.pick, if_true, foldl_satAdd_pair,
    foldl_satAdd _ _ (Nat.zero_le u32Max)] at h ⊢
  · have e : sizes.map (SplitAxis.pick .horizontal) = sizes.map Prod.fst := rfl
    simp only [satAdd] at h
    rw [e]
    omega
  · have e : sizes.map (SplitAxis.pick .vertical) = sizes.map Prod.snd := rfl
    simp only [satAdd] at h
    rw [e]
    omega

lemma longest_le_splitMinimum (lt : n < 2 ^ 16) (h : axis.pick (splitMinimum axis false sizes) ≤ n) :
    ∃ longest, 1 ≤ longest ∧ (∀ s ∈ sizes, axis.pick s ≤ longest) ∧
      longest * sizes.length + (sizes.length - 1) ≤ n := by
  have ceiling : u32Max = 2 ^ 32 - 1 := rfl
  obtain ⟨⟨l1, l2⟩, ls⟩ := foldl_max_ge sizes (2, 1)
  cases axis <;> simp only [splitMinimum, SplitAxis.pick] at h ⊢
  case horizontal =>
    refine ⟨_, le_trans (by decide) l1, fun s hs => (ls s hs).1, ?_⟩
    generalize (sizes.foldl (fun a b : Nat × Nat => (max a.1 b.1, max a.2 b.2)) (2, 1)).1 = longest
      at h l1
    exact unsaturated (le_trans (by decide) l1) lt h
  case vertical =>
    refine ⟨_, l2, fun s hs => (ls s hs).2, ?_⟩
    generalize (sizes.foldl (fun a b : Nat × Nat => (max a.1 b.1, max a.2 b.2)) (2, 1)).2 = longest
      at h l2
    exact unsaturated l2 lt h
where
  unsaturated {longest k n : Nat} (pos : 1 ≤ longest) (lt : n < 2 ^ 16)
      (h : satAdd u32Max (satMul u32Max longest (min k u32Max)) (min k u32Max - 1) ≤ n) :
      longest * k + (k - 1) ≤ n := by
    have ceiling : u32Max = 2 ^ 32 - 1 := rfl
    have small : k ≤ u32Max := by
      by_contra hk
      have : longest * u32Max ≥ u32Max := Nat.le_mul_of_pos_left _ pos
      rw [show min k u32Max = u32Max by omega] at h
      simp only [satAdd, satMul] at h
      omega
    rw [show min k u32Max = k by omega] at h
    simp only [satAdd, satMul] at h
    omega

lemma splitMinimum_ge {weighted : Bool} (ne : sizes ≠ []) (ge : ∀ s ∈ sizes, 2 ≤ s.1 ∧ 1 ≤ s.2) :
    2 ≤ (splitMinimum axis weighted sizes).1 ∧ 1 ≤ (splitMinimum axis weighted sizes).2 := by
  have ceiling : u32Max = 2 ^ 32 - 1 := rfl
  have count := List.length_pos_iff.2 ne
  obtain ⟨⟨l1, l2⟩, -⟩ := foldl_max_ge sizes (2, 1)
  obtain ⟨s, hs⟩ := List.exists_mem_of_ne_nil sizes ne
  have sum1 : s.1 ≤ (sizes.map Prod.fst).sum :=
    List.single_le_sum (by simp) _ (List.mem_map_of_mem hs)
  have sum2 : s.2 ≤ (sizes.map Prod.snd).sum :=
    List.single_le_sum (by simp) _ (List.mem_map_of_mem hs)
  have := ge s hs
  have m1 := Nat.le_mul_of_pos_right
    (sizes.foldl (fun a b : Nat × Nat => (max a.1 b.1, max a.2 b.2)) (2, 1)).1
    (show 0 < min sizes.length u32Max by omega)
  have m2 := Nat.le_mul_of_pos_right
    (sizes.foldl (fun a b : Nat × Nat => (max a.1 b.1, max a.2 b.2)) (2, 1)).2
    (show 0 < min sizes.length u32Max by omega)
  simp only at l1 l2
  cases weighted <;> cases axis <;> simp only [splitMinimum, if_true, Bool.false_eq_true, if_false,
    foldl_satAdd_pair, foldl_satAdd _ _ (Nat.zero_le u32Max)] <;> simp only [satAdd, satMul] <;>
    omega

lemma minimumSize_ge {layout : ViewLayout} (wf : layout.WellFormed) :
    2 ≤ layout.minimumSize.1 ∧ 1 ≤ layout.minimumSize.2 := by
  induction layout with
  | terminal id => exact ⟨le_refl 2, le_refl 1⟩
  | split axis children weights ih =>
    obtain ⟨ne, -, wf⟩ := wf
    rw [wellFormedAll_iff] at wf
    rw [minimumSize, minimumSizes_eq]
    refine splitMinimum_ge (by simpa using ne) fun s hs => ?_
    obtain ⟨child, hchild, rfl⟩ := List.mem_map.1 hs
    exact ih child hchild (wf child hchild)

/-! ### The clamping loop -/

lemma total_lt {weights : List Nat} (wlt : ∀ i ∈ active, weights.getD i 0 < 2 ^ 32) (small : active.length < 2 ^ 16) :
    Fill.total (fun i => weights.getD i 0) active < 2 ^ 48 := by
  have le : Fill.total (fun i => weights.getD i 0) active ≤ active.length • 2 ^ 32 := by
    have := List.sum_le_card_nsmul (active.map fun i => weights.getD i 0) (2 ^ 32) (by
      intro x hx
      obtain ⟨i, hi, rfl⟩ := List.mem_map.1 hx
      exact (wlt i hi).le)
    rwa [List.length_map] at this
  rw [smul_eq_mul] at le
  omega

lemma exact_eq_ok {weight : Nat} (wlt : weight < 2 ^ 32) (lt : remaining < 2 ^ 16) :
    (word 64 (remaining * weight) : Res String Nat) = .ok (remaining * weight) := by
  have := Nat.mul_lt_mul'' lt wlt
  exact word_eq_ok (by omega)

/-- The rounded shares of the last round and their residual, without an overflow. -/
lemma shares_eq_ok {weights extents : List Nat} (nd : active.Nodup) (bound : ∀ i ∈ active, i < extents.length)
    (tpos : 0 < Fill.total (fun i => weights.getD i 0) active) (wlt : ∀ i ∈ active, weights.getD i 0 < 2 ^ 32)
    (lt : remaining < 2 ^ 16) :
    ∃ shared, (assign (fun i _ => do
          let exact ← word 64 (remaining * weights.getD i 0)
          divWord exact (Fill.total (fun i => weights.getD i 0) active)) active extents :
        Res String (List Nat)) = .ok shared ∧
      shared.length = extents.length ∧ (∀ j < extents.length, j ∉ active → shared.getD j 0 = extents.getD j 0) ∧
      (∀ i ∈ active, shared.getD i 0 = Fill.share (fun i => weights.getD i 0) active remaining i) ∧
      (do
        let placed ← sumWord 64 (active.map fun i => shared.getD i 0)
        subWord remaining placed : Res String Nat)
        = .ok (Fill.residual (fun i => weights.getD i 0) active remaining) := by
  obtain ⟨shared, eShared, lenShared, valShared⟩ := assign_eq_ok (v := extents)
    (f := fun i _ => (do
      let exact ← word 64 (remaining * weights.getD i 0)
      divWord exact (Fill.total (fun i => weights.getD i 0) active) : Res String Nat))
    (g := fun i _ => Fill.share (fun i => weights.getD i 0) active remaining i) nd
    (fun i hi => by rw [exact_eq_ok (wlt i hi) lt, Res.ok_bind, divWord_eq_ok tpos]; rfl)
  have onShared : ∀ i ∈ active, shared.getD i 0
      = Fill.share (fun i => weights.getD i 0) active remaining i := fun i hi => by
    rw [valShared i (bound i hi), if_pos hi]
  have sums : (active.map fun i => shared.getD i 0)
      = active.map (Fill.share (fun i => weights.getD i 0) active remaining) :=
    List.map_congr_left onShared
  have le := Fill.sum_share_le remaining tpos
  refine ⟨shared, eShared, lenShared, fun j hj hja => ?_, onShared, ?_⟩
  · rw [valShared j hj, if_neg hja]
  · rw [sums, sumWord_eq_ok (by omega), Res.ok_bind, subWord_eq_ok le]
    rfl

/-- The last round: nobody is clamped, the shares are rounded down and the residual goes to the
    earliest indices, one cell each. -/
lemma lastRound_spec {weights extents : List Nat} (nd : active.Nodup) (bound : ∀ i ∈ active, i < extents.length)
    (tpos : 0 < Fill.total (fun i => weights.getD i 0) active) (wlt : ∀ i ∈ active, weights.getD i 0 < 2 ^ 32)
    (lt : remaining < 2 ^ 16) :
    ∃ extents', (do
        let extents ← assign (fun i _ => do
          let exact ← word 64 (remaining * weights.getD i 0)
          divWord exact (Fill.total (fun i => weights.getD i 0) active)) active extents
        let placed ← sumWord 64 (active.map fun i => extents.getD i 0)
        let residual ← subWord remaining placed
        assign (fun _ extent => word 64 (extent + 1)) (active.take residual) extents :
        Res String (List Nat)) = .ok extents' ∧
      extents'.length = extents.length ∧
      (∀ j < extents.length, j ∉ active → extents'.getD j 0 = extents.getD j 0) ∧
      ∀ j ∈ active, extents'.getD j 0
        = if j ∈ active.take (Fill.residual (fun i => weights.getD i 0) active remaining)
          then Fill.share (fun i => weights.getD i 0) active remaining j + 1
          else Fill.share (fun i => weights.getD i 0) active remaining j := by
  have le := Fill.sum_share_le remaining tpos
  have lt64 : ∀ i ∈ active, Fill.share (fun i => weights.getD i 0) active remaining i + 1
      < 2 ^ 64 := by
    intro i hi
    have := List.single_le_sum (by simp) _
      (List.mem_map_of_mem (f := Fill.share (fun i => weights.getD i 0) active remaining) hi)
    omega
  obtain ⟨shared, eShared, lenShared, offShared, onShared, resid⟩ :=
    shares_eq_ok nd bound tpos wlt lt
  obtain ⟨filled, eFilled, lenFilled, valFilled⟩ := assign_eq_ok (ε := String) (v := shared)
    (f := fun _ extent => word 64 (extent + 1)) (g := fun _ extent => extent + 1)
    (nd.sublist (List.take_sublist
      (Fill.residual (fun i => weights.getD i 0) active remaining) active))
    (fun i hi => by
      have hi := List.mem_of_mem_take hi
      rw [onShared i hi, word_eq_ok (lt64 i hi)])
  have onFilled : ∀ i ∈ active, filled.getD i 0
      = if i ∈ active.take (Fill.residual (fun i => weights.getD i 0) active remaining)
        then Fill.share (fun i => weights.getD i 0) active remaining i + 1
        else Fill.share (fun i => weights.getD i 0) active remaining i := fun i hi => by
    rw [valFilled i (lenShared ▸ bound i hi), onShared i hi]
  refine ⟨filled, ?_, lenFilled.trans lenShared, ?_, onFilled⟩
  · obtain ⟨placed, ePlaced, resid⟩ := Res.bind_eq_ok resid
    rw [eShared, Res.ok_bind, ePlaced, Res.ok_bind, resid, Res.ok_bind, eFilled]
  · intro j hj hja
    rw [valFilled j (lenShared ▸ hj), if_neg (fun h => hja (List.mem_of_mem_take h)), offShared j hj hja]

lemma total_eq_ok {weights : List Nat} (wlt : ∀ i ∈ active, weights.getD i 0 < 2 ^ 32)
    (small : active.length < 2 ^ 16) :
    (sumWord 64 (active.map fun i => weights.getD i 0) : Res String Nat)
      = .ok (Fill.total (fun i => weights.getD i 0) active) := by
  have tlt := total_lt wlt small
  exact sumWord_eq_ok (by unfold Fill.total at tlt; omega)

lemma clamped_eq_ok {weights : List Nat} (wlt : ∀ i ∈ active, weights.getD i 0 < 2 ^ 32)
    (small : active.length < 2 ^ 16) (cover : (active.map fun i => minima.getD i 0).sum ≤ remaining)
    (lt : remaining < 2 ^ 16) :
    Res.filter (fun i => (do
        let exact ← word 64 (remaining * weights.getD i 0)
        let least ← word 64 (minima.getD i 0 * Fill.total (fun i => weights.getD i 0) active)
        return decide (exact < least) : Res String Bool)) active
      = .ok (Fill.clamped (fun i => weights.getD i 0) (fun i => minima.getD i 0)
        active remaining) := by
  have tlt := total_lt wlt small
  have mle : ∀ i ∈ active, minima.getD i 0 ≤ remaining := fun i hi =>
    le_trans (List.single_le_sum (by simp) _
      (List.mem_map_of_mem (f := fun i => minima.getD i 0) hi)) cover
  refine Res.filter_eq_ok fun i hi => ?_
  have leastOk : (word 64 (minima.getD i 0 * Fill.total (fun i => weights.getD i 0) active) : Res String Nat)
      = .ok (minima.getD i 0 * Fill.total (fun i => weights.getD i 0) active) := by
    have := Nat.mul_lt_mul'' (lt_of_le_of_lt (mle i hi) lt) tlt
    exact word_eq_ok (by omega)
  simp only [exact_eq_ok (wlt i hi) lt, leastOk, Res.ok_bind, Res.pure_eq]

lemma fillLoop_round {weights extents : List Nat} (fuel : Nat) (ne : active ≠ [])
    (wlt : ∀ i ∈ active, weights.getD i 0 < 2 ^ 32) (small : active.length < 2 ^ 16)
    (cover : (active.map fun i => minima.getD i 0).sum ≤ remaining) (lt : remaining < 2 ^ 16) :
    fillLoop weights minima (fuel + 1) active remaining extents =
      let clamped := Fill.clamped (fun i => weights.getD i 0) (fun i => minima.getD i 0) active
        remaining
      if clamped.isEmpty then (do
        let extents ← assign (fun i _ => do
          let exact ← word 64 (remaining * weights.getD i 0)
          divWord exact (Fill.total (fun i => weights.getD i 0) active)) active extents
        let placed ← sumWord 64 (active.map fun i => extents.getD i 0)
        let residual ← subWord remaining placed
        assign (fun _ extent => word 64 (extent + 1)) (active.take residual) extents)
      else (do
        let extents ← assign (fun i _ => .ok (minima.getD i 0)) clamped extents
        let remaining ← (clamped.map fun i => minima.getD i 0).foldlM subWord remaining
        fillLoop weights minima fuel (active.filter fun i => i ∉ clamped) remaining extents) := by
  rw [fillLoop, if_neg (by simpa using ne), total_eq_ok wlt small, Res.ok_bind,
    clamped_eq_ok wlt small cover lt, Res.ok_bind]

/-- The clamping loop keeps the entries outside `active`, gives every index of `active` at least its
    minimum, and hands out exactly `remaining`. -/
lemma fillLoop_spec {weights : List Nat} (fuel : Nat) (active extents : List Nat) (remaining : Nat)
    (hfuel : active.length < fuel) (ne : active ≠ []) (nd : active.Nodup) (bound : ∀ i ∈ active, i < extents.length)
    (wpos : ∀ i ∈ active, 0 < weights.getD i 0) (wlt : ∀ i ∈ active, weights.getD i 0 < 2 ^ 32)
    (small : active.length < 2 ^ 16) (cover : (active.map fun i => minima.getD i 0).sum ≤ remaining)
    (lt : remaining < 2 ^ 16) :
    ∃ extents', fillLoop weights minima fuel active remaining extents = .ok extents' ∧
      extents'.length = extents.length ∧
      (∀ j < extents.length, j ∉ active → extents'.getD j 0 = extents.getD j 0) ∧
      (∀ j ∈ active, minima.getD j 0 ≤ extents'.getD j 0) ∧
      (active.map fun i => extents'.getD i 0).sum = remaining := by
  induction fuel generalizing active extents remaining with
  | zero => omega
  | succ fuel ih =>
    have tpos := Fill.total_pos ne wpos
    rw [fillLoop_round fuel ne wlt small cover lt]
    dsimp only
    split
    case isTrue none =>
      have none := List.isEmpty_iff.1 none
      obtain ⟨extents', eval, len, off, on⟩ := lastRound_spec nd bound tpos wlt lt
      refine ⟨extents', eval, len, off, ?_, ?_⟩
      · intro j hj
        have := Fill.minimum_le_share hj tpos (none ▸ List.not_mem_nil)
        rw [on j hj]
        split <;> omega
      · rw [List.map_congr_left on]
        exact Fill.sum_filled nd ne tpos
    case isFalse some =>
      have someNe := fun e => some (List.isEmpty_iff.2 e)
      obtain ⟨kept, hkept, unclamped⟩ := Fill.exists_not_mem_clamped
        (fun i => weights.getD i 0) ne cover
      have sub : ∀ i ∈ Fill.clamped (fun i => weights.getD i 0) (fun i => minima.getD i 0) active
          remaining, i ∈ active := fun i hi => (Fill.mem_clamped.1 hi).1
      have add := Fill.sum_clamped_add (fun i => weights.getD i 0) (fun i => minima.getD i 0) active
        remaining
      have addMinima := add fun i => minima.getD i 0
      have rest := Fill.minima_rest_le (fun i => weights.getD i 0) cover
      have ndc : (Fill.clamped (fun i => weights.getD i 0) (fun i => minima.getD i 0) active
          remaining).Nodup := nd.sublist List.filter_sublist
      generalize Fill.clamped (fun i => weights.getD i 0) (fun i => minima.getD i 0) active
        remaining = clamped at *
      -- The clamped indices are fixed at their minima; the loop goes on with the others.
      obtain ⟨fixed, eFixed, lenFixed, valFixed⟩ := assign_eq_ok (ε := String) (v := extents)
        (f := fun i _ => .ok (minima.getD i 0)) (g := fun i _ => minima.getD i 0) ndc
        (fun _ _ => rfl)
      have shorter : (active.filter fun i => i ∉ clamped).length < active.length := by
        obtain ⟨c, hc⟩ := List.exists_mem_of_ne_nil clamped someNe
        exact List.length_filter_lt_length_iff_exists.2 ⟨c, sub c hc, by simpa using hc⟩
      obtain ⟨extents', e, len, off, on, sum⟩ := ih (active.filter fun i => i ∉ clamped) fixed
        (remaining - (clamped.map fun i => minima.getD i 0).sum) (by omega) (List.ne_nil_of_mem (List.mem_filter.2 ⟨hkept, by simpa using unclamped⟩))
        (nd.filter _) (fun i hi => lenFixed ▸ bound i (List.mem_filter.1 hi).1)
        (fun i hi => wpos i (List.mem_filter.1 hi).1) (fun i hi => wlt i (List.mem_filter.1 hi).1)
        (by omega) rest (by omega)
      have onClamped : ∀ i ∈ clamped, extents'.getD i 0 = minima.getD i 0 := by
        intro i hi
        have hil := bound i (sub i hi)
        rw [off i (lenFixed ▸ hil) (by simp [hi]), valFixed i hil, if_pos hi]
      refine ⟨extents', ?_, len.trans lenFixed, ?_, ?_, ?_⟩
      · rw [eFixed, Res.ok_bind, foldlM_subWord (by omega), Res.ok_bind, e]
      · intro j hj hja
        rw [off j (lenFixed ▸ hj) (by simp [hja]), valFixed j hj, if_neg (fun h => hja (sub j h))]
      · intro j hj
        by_cases hc : j ∈ clamped
        · rw [onClamped j hc]
        · exact on j (List.mem_filter.2 ⟨hj, by simpa using hc⟩)
      · have := add fun i => extents'.getD i 0
        rw [List.map_congr_left onClamped, sum] at this
        omega

/-! ### One split -/

lemma sum_equalExtents {count : Nat} (pos : 0 < count) : (equalExtents available count).sum = available := by
  have lt := Nat.mod_lt available pos
  have nd := List.nodup_range (n := count)
  have h := Fill.sum_add_take (fun _ => available / count) nd (r := available % count)
    (by rw [List.length_range]; exact lt.le)
  have e : equalExtents available count = (List.range count).map fun i =>
      if i ∈ (List.range count).take (available % count) then available / count + 1
      else available / count := by
    apply List.map_congr_left
    intro i hi
    simp only [List.take_range, List.mem_range, Nat.min_eq_left lt.le]
    split <;> rfl
  rw [e, h, List.map_const', List.sum_replicate, List.length_range, smul_eq_mul]
  exact Nat.div_add_mod available count

lemma exists_words (extents : List Nat) (lt : extents.sum < 2 ^ 16) :
    ∃ words : List UInt16, words.map UInt16.toNat = extents := by
  refine ⟨extents.map UInt16.ofNat, ?_⟩
  rw [List.map_map]
  refine (List.map_congr_left fun n hn => toNat_ofNat_u16 ?_).trans (List.map_id _)
  exact lt_of_le_of_lt (List.single_le_sum (by simp) _ hn) lt

lemma collect_words (hf : ∀ n < 2 ^ 16, f n = .ok (UInt16.ofNat n)) (words : List UInt16) :
    Res.collect f (words.map UInt16.toNat) = .ok words := by
  induction words with
  | nil => rfl
  | cons w words ih => simp [Res.collect, hf _ w.toNat_lt, ih]

lemma forall₂_equalExtents (longest : Nat) (ne : minima ≠ []) (le : ∀ m ∈ minima, m ≤ longest)
    (cover : longest * minima.length ≤ available) :
    List.Forall₂ (· ≤ ·) minima (equalExtents available minima.length) := by
  have pos := List.length_pos_iff.2 ne
  refine List.forall₂_iff_get.2 ⟨by simp [equalExtents], fun i h1 h2 => ?_⟩
  have share : longest ≤ available / minima.length := (Nat.le_div_iff_mul_le pos).2 cover
  have := le _ (List.get_mem minima ⟨i, h1⟩)
  simp only [equalExtents, List.get_eq_getElem, List.getElem_map, List.getElem_range] at this ⊢
  omega

lemma map_getD_range {l : List Nat} (len : l.length = k) : ((List.range k).map fun i => l.getD i 0) = l := by
  apply List.ext_getElem (by simp [len])
  intro i h1 h2
  rw [List.getElem_map, List.getElem_range, List.getD_eq_getElem _ _ h2]

lemma fillLoop_full {weights : List Nat} (ne : minima ≠ []) (len : weights.length = minima.length)
    (wpos : ∀ w ∈ weights, 0 < w) (wlt : ∀ w ∈ weights, w < 2 ^ 32) (small : minima.length < 2 ^ 16)
    (cover : minima.sum ≤ available) (lt : available < 2 ^ 16) :
    ∃ extents, fillLoop weights minima (minima.length + 1) (List.range minima.length) available
        (List.replicate minima.length 0) = .ok extents ∧
      extents.sum = available ∧ List.Forall₂ (· ≤ ·) minima extents := by
  have get : ∀ i ∈ List.range minima.length, weights.getD i 0 ∈ weights := by
    intro i hi
    have hi : i < weights.length := by rw [len]; exact List.mem_range.1 hi
    rw [List.getD_eq_getElem _ _ hi]
    exact List.getElem_mem hi
  obtain ⟨extents, e, elen, -, on, sum⟩ := fillLoop_spec (minima.length + 1)
    (List.range minima.length) (List.replicate minima.length 0) available (by simp)
    (by simpa using ne) List.nodup_range (by simp) (fun i hi => wpos _ (get i hi)) (fun i hi => wlt _ (get i hi)) (by simpa using small)
    (by rwa [map_getD_range rfl]) lt
  rw [List.length_replicate] at elen
  refine ⟨extents, e, by rwa [map_getD_range elen] at sum, List.forall₂_iff_get.2 ⟨elen.symm, ?_⟩⟩
  intro i h1 h2
  have := on i (List.mem_range.2 h1)
  rwa [List.getD_eq_getElem _ _ h1, List.getD_eq_getElem _ _ h2] at this

lemma subU16_dividers (pos : 0 < k) (small : k < 2 ^ 16) (room : k - 1 ≤ length.toNat) :
    UInt16.ofNat k ≠ 0 ∧ ∃ available, subU16 length (UInt16.ofNat k - 1) = some available ∧
      available.toNat = length.toNat - (k - 1) := by
  have count := toNat_ofNat_u16 small
  have one : (1 : UInt16).toNat = 1 := rfl
  have pred : (UInt16.ofNat k - 1).toNat = k - 1 := by
    rw [toNat_sub_u16 (by omega), count, one]
  refine ⟨fun e => ?_, length - (UInt16.ofNat k - 1), ?_, ?_⟩
  · rw [e] at count
    exact absurd count (by simp; omega)
  · rw [subU16, if_pos (by omega)]
  · rw [toNat_sub_u16 (by omega), pred]

lemma weights_toNat_pos (wpos : 0 ∉ weights) : ∀ w ∈ weights.map UInt32.toNat, 0 < w := by
  intro w hw
  obtain ⟨u, hu, rfl⟩ := List.mem_map.1 hw
  apply Nat.pos_of_ne_zero
  intro e
  apply wpos
  rwa [← UInt32.toNat_inj.1 (show u.toNat = (0 : UInt32).toNat from e)]

lemma weights_toNat_lt : ∀ w ∈ weights.map UInt32.toNat, w < 2 ^ 32 := by
  intro w hw
  obtain ⟨u, -, rfl⟩ := List.mem_map.1 hw
  exact u.toNat_lt

lemma splitExtents_of_fillLoop (ne : children ≠ []) (small : children.length < 2 ^ 16)
    (wlen : weights.length = children.length) (wpos : 0 ∉ weights)
    (cover : ((children.map minimumSize).map axis.pick).sum + (children.length - 1)
      ≤ length.toNat) (eval : fillLoop (weights.map UInt32.toNat) ((children.map minimumSize).map axis.pick)
      (children.length + 1) (List.range children.length) (length.toNat - (children.length - 1))
      (List.replicate children.length 0) = .ok (words.map UInt16.toNat)) :
    splitExtents axis children weights length = .ok words := by
  have lt := length.toNat_lt
  have cpos := List.length_pos_iff.2 ne
  have weighted : weights.isEmpty = false := by
    rw [List.isEmpty_eq_false_iff, ← List.length_pos_iff]
    omega
  obtain ⟨count, available, hsub, hav⟩ := subU16_dividers cpos small
    (show children.length - 1 ≤ length.toNat by omega)
  rw [splitExtents, u16TryFrom_eq_ok small, Res.ok_bind, if_neg count, hsub]
  simp only [weighted, minimumSizes_eq]
  rw [if_neg (by decide), if_neg (by simp [wlen, wpos]), sumWord_eq_ok (by omega), Res.ok_bind,
    if_neg (by omega), hav, eval, Res.ok_bind]
  exact collect_words (fun n hn => u16TryFrom_eq_ok hn) words

/-- A split at least as long as its minimum is divided exactly: the extents and the dividers add up
    to its length, and every child gets at least its own minimum. -/
lemma splitExtents_spec (ne : children ≠ []) (ok : WeightsOk children weights)
    (pos : ∀ child ∈ children, 1 ≤ axis.pick child.minimumSize)
    (fits : axis.pick (splitMinimum axis (!weights.isEmpty) (children.map minimumSize))
      ≤ length.toNat) :
    ∃ extents, splitExtents axis children weights length = .ok extents ∧
      (extents.map UInt16.toNat).sum + (children.length - 1) = length.toNat ∧
      List.Forall₂ (fun child extent => axis.pick child.minimumSize ≤ extent.toNat)
        children extents := by
  have lt := length.toNat_lt
  have cpos := List.length_pos_iff.2 ne
  set minima := (children.map minimumSize).map axis.pick with hminima
  have mne : minima ≠ [] := by simpa [hminima] using ne
  have mlen : minima.length = children.length := by simp [hminima]
  -- Both kinds of split leave room for the dividers; the rest is divided into numbers that reach
  -- the minima, and those numbers are narrowed without loss.
  suffices h : ∃ extents : List Nat, extents.sum + (children.length - 1) = length.toNat ∧
      List.Forall₂ (· ≤ ·) minima extents ∧
      ∀ words : List UInt16, words.map UInt16.toNat = extents →
        splitExtents axis children weights length = .ok words by
    obtain ⟨extents, sum, reach, eval⟩ := h
    obtain ⟨words, hwords⟩ := exists_words extents (by omega)
    refine ⟨words, eval words hwords, by rw [hwords]; omega, ?_⟩
    rw [← hwords, hminima, List.map_map, List.forall₂_map_left_iff,
      List.forall₂_map_right_iff] at reach
    exact reach
  rcases ok with rfl | ⟨wlen, wpos⟩
  case inl =>
    obtain ⟨longest, lpos, lmax, room⟩ := longest_le_splitMinimum lt fits
    rw [List.length_map] at room
    have : children.length ≤ longest * children.length := Nat.le_mul_of_pos_left _ lpos
    obtain ⟨count, available, hsub, hav⟩ := subU16_dividers cpos (by omega)
      (show children.length - 1 ≤ length.toNat by omega)
    refine ⟨equalExtents available.toNat minima.length, ?_, ?_, ?_⟩
    · rw [sum_equalExtents (mlen ▸ cpos)]
      omega
    · refine forall₂_equalExtents longest mne ?_ (by rw [mlen]; omega)
      intro m hm
      obtain ⟨s, hs, rfl⟩ := List.mem_map.1 hm
      exact lmax s hs
    · intro words hwords
      rw [splitExtents, u16TryFrom_eq_ok (by omega), Res.ok_bind, if_neg count, hsub]
      simp only [List.isEmpty_nil, if_true]
      rw [toNat_ofNat_u16 (by omega), ← mlen, ← hwords]
      exact collect_words (fun n hn => by rw [word_eq_ok hn]; rfl) words
  case inr =>
    have weighted : weights.isEmpty = false := by
      rw [List.isEmpty_eq_false_iff, ← List.length_pos_iff]
      omega
    rw [weighted] at fits
    have room := sum_le_splitMinimum lt fits
    rw [← hminima, List.length_map] at room
    have : children.length ≤ minima.sum := by
      rw [← mlen]
      refine List.length_le_sum_of_one_le _ fun m hm => ?_
      rw [hminima, List.map_map] at hm
      obtain ⟨child, hchild, rfl⟩ := List.mem_map.1 hm
      exact pos child hchild
    obtain ⟨extents, eval, sum, reach⟩ := fillLoop_full mne (by rw [List.length_map, wlen, mlen])
      (weights_toNat_pos wpos) weights_toNat_lt (by omega) (show minima.sum ≤ length.toNat - (children.length - 1) by omega)
      (by omega)
    refine ⟨extents, by omega, reach, ?_⟩
    intro words hwords
    rw [mlen, ← hwords] at eval
    exact splitExtents_of_fillLoop ne (by omega) wlen wpos (by rw [← hminima]; omega) eval

/-! ### What a division says about its split -/

lemma map_toNat_collect {extents : List Nat} (narrow : ∀ {n w}, f n = .ok w → w.toNat = n)
    (ok : Res.collect f extents = .ok words) : words.map UInt16.toNat = extents := by
  induction extents generalizing words with
  | nil =>
    cases ok
    rfl
  | cons n extents ih =>
    obtain ⟨w, hw, ok⟩ := Res.bind_eq_ok ok
    obtain ⟨rest, hrest, ok⟩ := Res.bind_eq_ok ok
    cases ok
    rw [List.map_cons, narrow hw, ih hrest]

lemma fillLoop_eq_ok {shares : List Nat} {available : UInt16} (ne : minima ≠ []) (small : minima.length < 2 ^ 16)
    (len : weights.length = minima.length) (wpos : 0 ∉ weights) (cover : minima.sum ≤ available.toNat)
    (ok : fillLoop (weights.map UInt32.toNat) minima (minima.length + 1)
      (List.range minima.length) available.toNat (List.replicate minima.length 0) = .ok shares) :
    shares.length = minima.length ∧ shares.sum = available.toNat := by
  obtain ⟨extents, eval, sum, reach⟩ := fillLoop_full ne (by rw [List.length_map, len])
    (weights_toNat_pos wpos) weights_toNat_lt small cover available.toNat_lt
  obtain rfl : extents = shares := Except.ok.inj (eval.symm.trans ok)
  exact ⟨reach.length_eq.symm, sum⟩

/-- A split that is divided at all has children and valid weights, and its extents and dividers add
    up to its length. -/
lemma splitExtents_eq_ok (ok : splitExtents axis children weights length = .ok extents) :
    children ≠ [] ∧ children.length < 2 ^ 16 ∧ WeightsOk children weights ∧
      extents.length = children.length ∧
      (extents.map UInt16.toNat).sum + (children.length - 1) = length.toNat := by
  unfold splitExtents at ok
  obtain ⟨count, hcount, ok⟩ := Res.bind_eq_ok ok
  obtain ⟨small, hcount⟩ := toNat_u16TryFrom hcount
  split at ok
  · cases ok
  case isFalse nonzero =>
    have pos : 0 < count.toNat := by
      apply Nat.pos_of_ne_zero
      intro zero
      exact nonzero (UInt16.toNat_inj.1 zero)
    have one : (1 : UInt16).toNat = 1 := rfl
    have ne : children ≠ [] := by
      intro nil
      rw [nil, List.length_nil] at hcount
      omega
    split at ok
    · cases ok
    case h_2 available hsub =>
      unfold subU16 at hsub
      split at hsub
      case isFalse => cases hsub
      case isTrue room =>
        cases hsub
        have rest := toNat_sub_u16 room
        have pred := toNat_sub_u16 (a := count) (b := 1) (by omega)
        split at ok
        case isTrue unweighted =>
          have words := map_toNat_collect (fun ok => by
            obtain ⟨m, hm, ok⟩ := Res.bind_eq_ok ok
            cases ok
            obtain ⟨lt, rfl⟩ := word_inv hm
            exact toNat_ofNat_u16 lt) ok
          have sum : (equalExtents (length - (count - 1)).toNat count.toNat).sum = _ :=
            sum_equalExtents pos
          have len := congrArg List.length words
          rw [List.length_map, equalExtents, List.length_map, List.length_range] at len
          exact ⟨ne, small, .inl (List.isEmpty_iff.1 unweighted), by omega, by rw [words]; omega⟩
        case isFalse =>
          split at ok
          · cases ok
          case isFalse valid =>
            push Not at valid
            obtain ⟨wlen, wpos⟩ := valid
            obtain ⟨least, hleast, ok⟩ := Res.bind_eq_ok ok
            split at ok
            · cases ok
            case isFalse cover =>
              obtain ⟨shares, hshares, ok⟩ := Res.bind_eq_ok ok
              have words := map_toNat_collect (fun ok => (toNat_u16TryFrom ok).2) ok
              have total := foldlM_word_inv hleast
              rw [Nat.zero_add] at total
              have len : ((minimumSizes children).map axis.pick).length = children.length := by
                rw [minimumSizes_eq, List.length_map, List.length_map]
              rw [← len] at hshares
              obtain ⟨slen, sum⟩ := fillLoop_eq_ok (by
                  intro nil
                  rw [nil] at len
                  exact ne (List.length_eq_zero_iff.1 len.symm))
                (by omega) (by omega) wpos (by omega) hshares
              have elen := congrArg List.length words
              rw [List.length_map] at elen
              exact ⟨ne, small, .inr ⟨wlen, wpos⟩, by omega, by rw [words]; omega⟩

lemma forall₂_mem_right {α β : Type} {R : α → β → Prop} {as : List α} {bs : List β} (h : List.Forall₂ R as bs) {b : β}
    (hb : b ∈ bs) : ∃ a ∈ as, R a b := by
  induction h with
  | nil => cases hb
  | cons r _ ih =>
    rcases List.mem_cons.1 hb with rfl | hb
    · exact ⟨_, List.mem_cons_self, r⟩
    · obtain ⟨a, ha, r⟩ := ih hb
      exact ⟨a, List.mem_cons_of_mem _ ha, r⟩

lemma weightsOk_of_extents (length : extents.length = children.length) (pos : ∀ e ∈ extents, 1 ≤ e.toNat) :
    WeightsOk children (extents.map fun extent => UInt32.ofNat extent.toNat) := by
  refine .inr ⟨by rw [List.length_map, length], ?_⟩
  intro zero
  obtain ⟨e, he, eq⟩ := List.mem_map.1 zero
  have lt := e.toNat_lt
  have := congrArg UInt32.toNat eq
  rw [UInt32.toNat_ofNat_of_lt' (by show e.toNat < 2 ^ 32; omega)] at this
  have := pos e he
  simp_all

lemma fillLoop_self {weights : List Nat} (reach : List.Forall₂ (· ≤ ·) minima weights) (ne : weights ≠ [])
    (wpos : ∀ w ∈ weights, 0 < w) (sum : weights.sum = available) (lt : available < 2 ^ 16) :
    fillLoop weights minima (minima.length + 1) (List.range minima.length) available
      (List.replicate minima.length 0) = .ok weights := by
  have len := reach.length_eq
  have count := List.length_le_sum_of_one_le weights wpos
  have cpos := List.length_pos_iff.2 ne
  have get : ∀ i ∈ List.range minima.length, weights.getD i 0 ∈ weights := by
    intro i hi
    rw [List.mem_range, len] at hi
    rw [List.getD_eq_getElem _ _ hi]
    exact List.getElem_mem hi
  have total : Fill.total (fun i => weights.getD i 0) (List.range minima.length) = available := by
    rw [Fill.total, map_getD_range len.symm, sum]
  have rne : List.range minima.length ≠ [] := by
    intro nil
    have := congrArg List.length nil
    rw [List.length_range] at this
    simp only [List.length_nil] at this
    omega
  have wlt : ∀ i ∈ List.range minima.length, weights.getD i 0 < 2 ^ 32 := by
    intro i hi
    have := List.single_le_sum (by simp) _ (get i hi)
    omega
  have le : ∀ i ∈ List.range minima.length, minima.getD i 0 ≤ weights.getD i 0 := by
    intro i hi
    rw [List.mem_range] at hi
    rw [List.getD_eq_getElem _ _ hi, List.getD_eq_getElem _ _ (len ▸ hi)]
    exact reach.get hi (len ▸ hi)
  have cover := reach.sum_le_sum
  rw [fillLoop_round _ rne wlt (by rw [List.length_range]; omega)
    (by rw [map_getD_range rfl]; omega) lt]
  dsimp only
  rw [Fill.clamped_self total le, if_pos List.isEmpty_nil]
  -- Nobody is clamped and nothing is left over: every weight is its own share.
  obtain ⟨extents, eval, elen, -, on⟩ := lastRound_spec (List.nodup_range (n := minima.length))
    (show ∀ i ∈ List.range minima.length, i < (List.replicate minima.length 0).length by simp)
    (show 0 < Fill.total (fun i => weights.getD i 0) (List.range minima.length) by
      rw [total]; omega) wlt lt
  rw [eval]
  congr 1
  rw [List.length_replicate] at elen
  apply List.ext_getElem (elen.trans len)
  intro i h1 h2
  have hi : i ∈ List.range minima.length := List.mem_range.2 (elen ▸ h1)
  have value := on i hi
  rw [Fill.residual_self total (by omega), List.take_zero, if_neg List.not_mem_nil,
    Fill.share_self total (by omega), List.getD_eq_getElem _ _ h1,
    List.getD_eq_getElem _ _ h2] at value
  exact value

lemma splitExtents_self (ne : children ≠ []) (pos : ∀ child ∈ children, 1 ≤ axis.pick child.minimumSize)
    (sum : (extents.map UInt16.toNat).sum + (children.length - 1) = length.toNat)
    (reach : List.Forall₂ (fun child extent => axis.pick child.minimumSize ≤ extent.toNat)
      children extents) :
    splitExtents axis children (extents.map fun extent => UInt32.ofNat extent.toNat) length
      = .ok extents := by
  have lt := length.toNat_lt
  have cpos := List.length_pos_iff.2 ne
  have elen := reach.length_eq
  have epos : ∀ e ∈ extents, 1 ≤ e.toNat := by
    intro e he
    obtain ⟨child, hc, le⟩ := forall₂_mem_right reach he
    exact le_trans (pos child hc) le
  have count : children.length ≤ (extents.map UInt16.toNat).sum := by
    rw [elen, ← List.length_map UInt16.toNat]
    refine List.length_le_sum_of_one_le _ fun n hn => ?_
    obtain ⟨e, he, rfl⟩ := List.mem_map.1 hn
    exact epos e he
  obtain empty | ⟨wlen, wpos⟩ := weightsOk_of_extents elen.symm epos
  · rw [List.map_eq_nil_iff] at empty
    rw [empty] at elen
    simp only [List.length_nil] at elen
    omega
  have weights : (extents.map fun extent => UInt32.ofNat extent.toNat).map UInt32.toNat
      = extents.map UInt16.toNat := by
    rw [List.map_map]
    apply List.map_congr_left
    intro e _
    have := e.toNat_lt
    exact UInt32.toNat_ofNat_of_lt' (by show e.toNat < 2 ^ 32; omega)
  have minima : List.Forall₂ (· ≤ ·) ((children.map minimumSize).map axis.pick)
      (extents.map UInt16.toNat) := by
    rw [List.map_map, List.forall₂_map_left_iff, List.forall₂_map_right_iff]
    exact reach
  have cover := List.Forall₂.sum_le_sum minima
  refine splitExtents_of_fillLoop ne (by omega) wlen wpos (by omega) ?_
  rw [weights]
  have := fillLoop_self minima (by
      intro nil
      have := congrArg List.length nil
      rw [List.length_map] at this
      simp only [List.length_nil] at this
      omega) (by
      intro n hn
      obtain ⟨e, he, rfl⟩ := List.mem_map.1 hn
      exact epos e he) (show _ = length.toNat - (children.length - 1) by omega) (by omega)
  rwa [List.length_map, List.length_map] at this

end Ctl.Proto.ViewLayout
