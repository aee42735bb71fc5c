import Mathlib.Data.List.Sublists
import Mathlib.Data.List.Forall2
import Ctl.Proto.Extents

/-!
# Edits that keep a layout on its canvas

The minimum of a split is monotone: dropping children or making them smaller never needs a larger
canvas (`splitMinimum_mono`), and weights never need more room than equal shares
(`splitMinimum_weighted_le`). So moving a divider, which only writes weights, keeps the leaves, the
shape and the fit of a layout (`resizePane_spec`, `resizeDivider_spec`).
-/

namespace Ctl.Proto.ViewLayout
open Ctl.Base

/-! ### Monotone minima -/

lemma foldl_max_le {sizes : List (Nat × Nat)} {a bound : Nat × Nat} (ha : a ≤ bound) (hs : ∀ s ∈ sizes, s ≤ bound) :
    sizes.foldl (fun a b => (max a.1 b.1, max a.2 b.2)) a ≤ bound := by
  induction sizes generalizing a with
  | nil => exact ha
  | cons s sizes ih =>
    have := hs s List.mem_cons_self
    exact ih ⟨max_le ha.1 this.1, max_le ha.2 this.2⟩ fun t ht => hs t (List.mem_cons_of_mem _ ht)

lemma sublistForall₂_spec {small large : List (Nat × Nat)} (h : List.SublistForall₂ (· ≤ ·) small large) :
    (∀ s ∈ small, ∃ l ∈ large, s ≤ l) ∧ small.length ≤ large.length ∧
      (small.map Prod.fst).sum ≤ (large.map Prod.fst).sum ∧
      (small.map Prod.snd).sum ≤ (large.map Prod.snd).sum := by
  induction h with
  | nil => simp
  | cons le _ ih =>
    obtain ⟨below, length, first, second⟩ := ih
    refine ⟨?_, ?_, ?_, ?_⟩
    · intro s hs
      rcases List.mem_cons.1 hs with rfl | hs
      · exact ⟨_, List.mem_cons_self, le⟩
      · obtain ⟨l, hl, le⟩ := below s hs
        exact ⟨l, List.mem_cons_of_mem _ hl, le⟩
    · exact Nat.succ_le_succ length
    · exact Nat.add_le_add le.1 first
    · exact Nat.add_le_add le.2 second
  | cons_right _ ih =>
    obtain ⟨below, length, first, second⟩ := ih
    refine ⟨fun s hs => ?_, Nat.le_succ_of_le length, Nat.le_add_left_of_le first,
      Nat.le_add_left_of_le second⟩
    obtain ⟨l, hl, le⟩ := below s hs
    exact ⟨l, List.mem_cons_of_mem _ hl, le⟩

variable {axis : SplitAxis} {children : List ViewLayout} {child layout : ViewLayout} {depth index : Nat}
  {weights : List UInt32} {changed : Bool} {size : TerminalSize}

lemma splitMinimum_mono {weighted : Bool} {small large : List (Nat × Nat)}
    (h : List.SublistForall₂ (· ≤ ·) small large) :
    splitMinimum axis weighted small ≤ splitMinimum axis weighted large := by
  obtain ⟨below, length, first, second⟩ := sublistForall₂_spec h
  have largest : small.foldl (fun a b => (max a.1 b.1, max a.2 b.2)) (2, 1)
      ≤ large.foldl (fun a b => (max a.1 b.1, max a.2 b.2)) (2, 1) := by
    obtain ⟨start, every⟩ := foldl_max_ge large (2, 1)
    refine foldl_max_le start fun s hs => ?_
    obtain ⟨l, hl, le⟩ := below s hs
    exact le.trans (every l hl)
  have count : min small.length u32Max ≤ min large.length u32Max := by omega
  obtain ⟨columns, rows⟩ := largest
  have m1 := Nat.mul_le_mul columns count
  have m2 := Nat.mul_le_mul rows count
  cases weighted <;> cases axis <;>
    simp only [splitMinimum, Prod.mk_le_mk, if_true, Bool.false_eq_true, if_false,
      foldl_satAdd_pair, foldl_satAdd _ _ (Nat.zero_le u32Max)] <;>
    simp only [satAdd, satMul] <;> omega

lemma sum_le_largest (sizes : List (Nat × Nat)) :
    let largest := sizes.foldl (fun a b => (max a.1 b.1, max a.2 b.2)) (2, 1)
    (sizes.map Prod.fst).sum ≤ largest.1 * sizes.length ∧
      (sizes.map Prod.snd).sum ≤ largest.2 * sizes.length := by
  intro largest
  obtain ⟨-, every⟩ := foldl_max_ge sizes (2, 1)
  constructor
  · have := List.sum_le_card_nsmul (sizes.map Prod.fst) largest.1 fun n hn => by
      obtain ⟨s, hs, rfl⟩ := List.mem_map.1 hn
      exact (every s hs).1
    rwa [List.length_map, smul_eq_mul, Nat.mul_comm] at this
  · have := List.sum_le_card_nsmul (sizes.map Prod.snd) largest.2 fun n hn => by
      obtain ⟨s, hs, rfl⟩ := List.mem_map.1 hn
      exact (every s hs).2
    rwa [List.length_map, smul_eq_mul, Nat.mul_comm] at this

lemma splitMinimum_weighted_le {sizes : List (Nat × Nat)} (few : sizes.length ≤ u32Max) (weighted : Bool) :
    splitMinimum axis true sizes ≤ splitMinimum axis weighted sizes := by
  obtain ⟨first, second⟩ := sum_le_largest sizes
  have count : min sizes.length u32Max = sizes.length := by omega
  cases weighted with
  | true => exact le_refl _
  | false =>
    cases axis <;>
      simp only [splitMinimum, Prod.mk_le_mk, if_true, Bool.false_eq_true, if_false,
        foldl_satAdd_pair, foldl_satAdd _ _ (Nat.zero_le u32Max), count] <;>
      simp only [satAdd, satMul] <;> omega

lemma minimumSize_le_u32Max (layout : ViewLayout) : layout.minimumSize ≤ (u32Max, u32Max) := by
  induction layout with
  | terminal id =>
    rw [minimumSize]
    exact ⟨by decide, by decide⟩
  | split axis children weights ih =>
    have largest : (children.map minimumSize).foldl (fun a b => (max a.1 b.1, max a.2 b.2)) (2, 1)
        ≤ (u32Max, u32Max) := by
      refine foldl_max_le ⟨by decide, by decide⟩ fun s hs => ?_
      obtain ⟨child, hchild, rfl⟩ := List.mem_map.1 hs
      exact ih child hchild
    obtain ⟨columns, rows⟩ := largest
    rw [minimumSize, minimumSizes_eq]
    cases weights.isEmpty <;> cases axis <;>
      simp only [splitMinimum, Prod.mk_le_mk, if_true, Bool.false_eq_true, if_false, Bool.not_true,
        Bool.not_false] <;>
      simp only [satAdd] at * <;> omega

lemma minimumSize_le_splitMinimum (axis : SplitAxis) (weighted : Bool) (h : child ∈ children) :
    child.minimumSize ≤ splitMinimum axis weighted (children.map minimumSize) := by
  have sub : List.SublistForall₂ (· ≤ ·) [child.minimumSize] (children.map minimumSize) :=
    List.sublistForall₂_iff.2 ⟨[child.minimumSize], .cons (le_refl _) .nil,
      List.singleton_sublist.2 (List.mem_map_of_mem h)⟩
  refine le_trans ?_ (splitMinimum_mono sub)
  obtain ⟨columns, rows⟩ := child.minimumSize_le_u32Max
  have one : min [child.minimumSize].length u32Max = 1 := rfl
  cases weighted <;> cases axis <;>
    simp only [splitMinimum, Prod.le_def, if_true, Bool.false_eq_true, if_false, one, List.foldl_cons,
      List.foldl_nil] <;>
    simp only [satAdd, satMul] at * <;> omega

/-! ### Shape -/

mutual
/-- Nesting of at most 16 levels below `depth`, groups of 2 to 64 children, and no weights or one
    positive weight for each child. -/
def Valid (depth : Nat) : ViewLayout → Prop
  | .terminal _ => depth ≤ 16
  | .split _ children weights => depth ≤ 16 ∧ (2 ≤ children.length ∧ children.length ≤ 64) ∧
    WeightsOk children weights ∧ ValidAll (depth + 1) children
/-- `Valid` for a list of children. -/
def ValidAll (depth : Nat) : List ViewLayout → Prop
  | [] => True
  | child :: children => child.Valid depth ∧ ValidAll depth children
end

@[simp] lemma validAll_iff : ValidAll depth children ↔ ∀ child ∈ children, child.Valid depth := by
  induction children with
  | nil => simp [ValidAll]
  | cons child children ih => simp [ValidAll, ih]

lemma Valid.wellFormed (h : layout.Valid depth) : layout.WellFormed := by
  induction layout generalizing depth with
  | terminal id => exact trivial
  | split axis children weights ih =>
    obtain ⟨-, ⟨two, -⟩, weights, inner⟩ := h
    rw [validAll_iff] at inner
    refine ⟨?_, weights, wellFormedAll_iff.2 fun child hc => ih child hc (inner child hc)⟩
    rintro rfl
    simp at two

lemma Valid.mono {depth' : Nat} (h : layout.Valid depth) (le : depth' ≤ depth) : layout.Valid depth' := by
  induction layout generalizing depth depth' with
  | terminal id => exact le_trans le h
  | split axis children weights ih =>
    obtain ⟨bound, groups, weights, inner⟩ := h
    rw [validAll_iff] at inner
    exact ⟨le_trans le bound, groups, weights, validAll_iff.2 fun child hc =>
      ih child hc (inner child hc) (Nat.succ_le_succ le)⟩

/-- `layout'` has the leaves and the shape of `layout` and needs no larger canvas. -/
structure Redivided (layout layout' : ViewLayout) : Prop where
  leaves : layout'.terminalIds = layout.terminalIds
  valid : ∀ depth, layout.Valid depth → layout'.Valid depth
  minimum : layout'.minimumSize ≤ layout.minimumSize

lemma Redivided.refl (layout : ViewLayout) : Redivided layout layout :=
  ⟨rfl, fun _ h => h, le_refl _⟩

lemma Redivided.split {axis : SplitAxis} {children children' : List ViewLayout}
    {weights : List UInt32} (h : List.Forall₂ Redivided children children') :
    Redivided (.split axis children weights) (.split axis children' weights) where
  leaves := by
    simp only [terminalIds, terminalIdsAll_eq]
    induction h with
    | nil => rfl
    | cons first _ ih => rw [List.flatMap_cons, List.flatMap_cons, first.leaves, ih]
  valid := by
    rintro depth ⟨bound, groups, ok, inner⟩
    rw [validAll_iff] at inner
    have length := h.length_eq
    refine ⟨bound, length ▸ groups, ?_, ?_⟩
    · unfold WeightsOk
      rw [← length]
      exact ok
    · clear length groups ok
      induction h with
      | nil => exact trivial
      | cons first _ ih =>
        exact ⟨first.valid _ (inner _ List.mem_cons_self),
          ih fun child hc => inner child (List.mem_cons_of_mem _ hc)⟩
  minimum := by
    simp only [minimumSize, minimumSizes_eq]
    refine splitMinimum_mono (List.sublistForall₂_iff.2 ⟨_, ?_, List.Sublist.refl _⟩)
    rw [List.forall₂_map_left_iff, List.forall₂_map_right_iff]
    exact (h.imp fun _ _ r => r.minimum).flip

lemma Redivided.set {child' : ViewLayout} (at_ : children[index]? = some child) (h : Redivided child child') :
    List.Forall₂ Redivided children (children.set index child') := by
  induction children generalizing index with
  | nil => cases at_
  | cons first rest ih =>
    cases index with
    | zero =>
      obtain rfl : first = child := Option.some.inj at_
      exact .cons h (List.forall₂_same.2 fun c _ => .refl c)
    | succ index => exact .cons (.refl first) (ih at_)

lemma Redivided.reweight {weights' : List UInt32} (few : children.length ≤ u32Max) (ne : weights' ≠ [])
    (ok : WeightsOk children weights') :
    Redivided (.split axis children weights) (.split axis children weights') where
  leaves := rfl
  valid := by
    rintro depth ⟨bound, groups, -, inner⟩
    exact ⟨bound, groups, ok, inner⟩
  minimum := by
    have nonempty : (!weights'.isEmpty) = true := by simpa using ne
    simp only [minimumSize, minimumSizes_eq, nonempty]
    exact splitMinimum_weighted_le (by simpa using few) _

/-! ### Moving dividers -/

lemma at?_eq_ok {α : Type} {l : List α} {i : Nat} {a : α} (h : at? l i = .ok a) : l[i]? = some a := by
  unfold at? at h
  split at h
  · cases h
    assumption
  · cases h

lemma at?_minimum_pos {i n : Nat} (pos : ∀ child ∈ children, 1 ≤ axis.pick child.minimumSize)
    (h : at? ((minimumSizes children).map axis.pick) i = .ok n) : 1 ≤ n := by
  have mem := List.mem_of_getElem? (at?_eq_ok h)
  rw [minimumSizes_eq, List.map_map] at mem
  obtain ⟨child, hc, rfl⟩ := List.mem_map.1 mem
  exact pos child hc

lemma tryFromInt_eq_ok {n : Int} {w : UInt16} (h : moveBoundary.tryFromInt n = .ok w) : (w.toNat : Int) = n := by
  unfold moveBoundary.tryFromInt at h
  split at h
  · cases h
    rw [toNat_ofNat_u16 (by omega)]
    omega
  · cases h

lemma moveBoundary_spec {weights' : List UInt32} {extents : List UInt16} {boundary : Nat} {delta : Int}
    (pos : ∀ child ∈ children, 1 ≤ axis.pick child.minimumSize)
    (reach : List.Forall₂ (fun child extent => axis.pick child.minimumSize ≤ extent.toNat)
      children extents) (ok : moveBoundary axis children weights extents boundary delta = .ok (changed, weights')) :
    weights' = weights ∨ weights' ≠ [] ∧ WeightsOk children weights' := by
  unfold moveBoundary at ok
  obtain ⟨left, hleft, ok⟩ := Res.bind_eq_ok ok
  obtain ⟨right, hright, ok⟩ := Res.bind_eq_ok ok
  obtain ⟨leftMinimum, hleftMinimum, ok⟩ := Res.bind_eq_ok ok
  obtain ⟨rightMinimum, hrightMinimum, ok⟩ := Res.bind_eq_ok ok
  have posLeft := at?_minimum_pos pos hleftMinimum
  have posRight := at?_minimum_pos pos hrightMinimum
  dsimp only at ok
  split at ok
  · cases ok
  split at ok
  · cases ok
    exact .inl rfl
  obtain ⟨movedLeft, hmovedLeft, ok⟩ := Res.bind_eq_ok ok
  obtain ⟨movedRight, hmovedRight, ok⟩ := Res.bind_eq_ok ok
  cases ok
  have eqLeft := tryFromInt_eq_ok hmovedLeft
  have eqRight := tryFromInt_eq_ok hmovedRight
  right
  constructor
  · intro empty
    have empty := List.length_eq_zero_iff.2 (List.map_eq_nil_iff.1 empty)
    rw [List.length_set, List.length_set, List.length_eq_zero_iff] at empty
    have := at?_eq_ok hleft
    rw [empty] at this
    cases this
  · refine weightsOk_of_extents (by rw [List.length_set, List.length_set, reach.length_eq]) ?_
    -- The moved extents stay at their minima, all others are untouched.
    have old : ∀ e ∈ extents, 1 ≤ e.toNat := by
      intro e he
      obtain ⟨child, hc, le⟩ := forall₂_mem_right reach he
      exact le_trans (pos child hc) le
    intro e he
    rcases List.mem_or_eq_of_mem_set he with he | rfl
    · rcases List.mem_or_eq_of_mem_set he with he | rfl
      · exact old e he
      · omega
    · omega

lemma fits_of_paneGeometry {panes : List PaneGeometry} (ok : layout.paneGeometry size = .ok panes) :
    layout.Fits size := by
  unfold paneGeometry at ok
  dsimp only at ok
  split at ok
  · cases ok
  case isFalse h =>
    unfold Fits
    omega

lemma moveDividerAt_spec {id : String} {direction : ResizeDirection} {amount columns rows : UInt16}
    {children' : List ViewLayout}
    (ok : moveDividerAt id direction amount columns rows children index
      = .ok (some (changed, children'))) :
    ∃ child child', children[index]? = some child ∧
      moveDivider id direction amount columns rows child = .ok (some (changed, child')) ∧
      children' = children.set index child' := by
  induction children generalizing index children' with
  | nil => cases ok
  | cons child children ih =>
    cases index with
    | zero =>
      obtain ⟨moved, hmoved, ok⟩ := Res.bind_eq_ok ok
      rcases moved with _ | ⟨changed', child'⟩
      · cases ok
      · cases ok
        exact ⟨child, child', rfl, hmoved, rfl⟩
    | succ index =>
      obtain ⟨moved, hmoved, ok⟩ := Res.bind_eq_ok ok
      rcases moved with _ | ⟨changed', rest⟩
      · cases ok
      · cases ok
        obtain ⟨c, c', at_, inner, rfl⟩ := ih hmoved
        exact ⟨c, c', at_, inner, rfl⟩

def childSize (axis : SplitAxis) (size : Nat × Nat) (extent : Nat) : Nat × Nat :=
  match axis with
  | .horizontal => (extent, size.2)
  | .vertical => (size.1, extent)

lemma child_fits {extents : List UInt16} {columns rows extent : UInt16}
    (fits : (ViewLayout.split axis children weights).minimumSize ≤ (columns.toNat, rows.toNat))
    (reach : List.Forall₂ (fun child extent => axis.pick child.minimumSize ≤ extent.toNat)
      children extents) (hchild : children[index]? = some child) (hextent : extents[index]? = some extent) :
    child.minimumSize ≤ childSize axis (columns.toNat, rows.toNat) extent.toNat := by
  obtain ⟨hi, rfl⟩ := List.getElem?_eq_some_iff.1 hchild
  obtain ⟨hj, rfl⟩ := List.getElem?_eq_some_iff.1 hextent
  have along := reach.get hi hj
  have whole := minimumSize_le_splitMinimum axis (!weights.isEmpty) (List.getElem_mem hi)
  simp only [minimumSize, minimumSizes_eq] at fits
  cases axis with
  | horizontal => exact ⟨along, le_trans whole.2 fits.2⟩
  | vertical => exact ⟨le_trans whole.1 fits.1, along⟩

lemma WellFormed.extents {axis : SplitAxis} {children : List ViewLayout} {weights : List UInt32}
    {columns rows : UInt16} {extents : List UInt16} (wf : (ViewLayout.split axis children weights).WellFormed)
    (fits : (ViewLayout.split axis children weights).minimumSize ≤ (columns.toNat, rows.toNat))
    (ok : splitExtents axis children weights (axis.pick (columns, rows)) = .ok extents) :
    (∀ child ∈ children, 1 ≤ axis.pick child.minimumSize) ∧
    List.Forall₂ (fun child extent => axis.pick child.minimumSize ≤ extent.toNat)
      children extents := by
  obtain ⟨ne, weightsOk, inner⟩ := wf
  rw [wellFormedAll_iff] at inner
  have pos : ∀ child ∈ children, 1 ≤ axis.pick child.minimumSize := by
    intro child hc
    obtain ⟨two, one⟩ := minimumSize_ge (inner child hc)
    cases axis with
    | horizontal => exact le_trans (by decide) two
    | vertical => exact one
  have long : axis.pick (splitMinimum axis (!weights.isEmpty) (children.map minimumSize))
      ≤ (axis.pick (columns, rows)).toNat := by
    simp only [minimumSize, minimumSizes_eq] at fits
    cases axis with
    | horizontal => exact fits.1
    | vertical => exact fits.2
  obtain ⟨extents', eq, -, reach⟩ := splitExtents_spec ne weightsOk pos long
  obtain rfl : extents' = extents := Except.ok.inj (eq.symm.trans ok)
  exact ⟨pos, reach⟩

lemma moveDivider_spec {id : String} {direction : ResizeDirection} {amount columns rows : UInt16}
    {layout layout' : ViewLayout} {changed : Bool} {depth : Nat} (valid : layout.Valid depth)
    (fits : layout.minimumSize ≤ (columns.toNat, rows.toNat))
    (ok : moveDivider id direction amount columns rows layout = .ok (some (changed, layout'))) :
    Redivided layout layout' := by
  induction layout generalizing layout' columns rows depth with
  | terminal id => cases ok
  | split axis children weights ih =>
    rw [moveDivider] at ok
    split at ok
    · cases ok
    case h_2 selected _ =>
      obtain ⟨extents, hextents, ok⟩ := Res.bind_eq_ok ok
      obtain ⟨extent, hextent, ok⟩ := Res.bind_eq_ok ok
      obtain ⟨pos, reach⟩ := valid.wellFormed.extents fits hextents
      obtain ⟨moved, hmoved, ok⟩ := Res.bind_eq_ok ok
      rcases moved with _ | ⟨changed', children'⟩
      case some =>
        cases ok
        obtain ⟨child, child', at_, inner, rfl⟩ := moveDividerAt_spec hmoved
        have mem := List.mem_of_getElem? at_
        have childFits := child_fits fits reach at_ (at?_eq_ok hextent)
        refine .split (Redivided.set at_ (ih child mem (validAll_iff.1 valid.2.2.2 child mem) ?_ inner))
        cases axis <;> exact childFits
      case none =>
        dsimp only at ok
        split at ok
        · cases ok
        · obtain ⟨⟨changed', weights'⟩, hweights, ok⟩ := Res.bind_eq_ok ok
          cases ok
          rcases moveBoundary_spec pos reach hweights with rfl | ⟨ne, weightsOk⟩
          · exact .refl _
          · exact .reweight (le_trans valid.2.1.2 (by decide)) ne weightsOk

/-- Moving the divider of a pane redivides the layout (Rust `resize_pane`). -/
lemma resizePane_spec {layout' : ViewLayout} {id : String} {direction : ResizeDirection} {amount : UInt16}
    (valid : layout.Valid 0) (ok : layout.resizePane id direction amount size = .ok (changed, layout')) :
    layout.Fits size ∧ Redivided layout layout' := by
  unfold resizePane at ok
  split at ok
  · cases ok
  split at ok
  · cases ok
  obtain ⟨panes, hpanes, ok⟩ := Res.bind_eq_ok ok
  have fits := fits_of_paneGeometry hpanes
  refine ⟨fits, ?_⟩
  obtain ⟨moved, hmoved, ok⟩ := Res.bind_eq_ok ok
  cases moved with
  | none =>
    cases ok
    exact .refl _
  | some moved =>
    cases ok
    exact moveDivider_spec valid fits hmoved

lemma placeDividerAt_spec {boundary : Nat} {position : UInt16} {splitPath : List UInt16} {bounds : LayoutBounds}
    {children' : List ViewLayout}
    (ok : placeDividerAt boundary position splitPath bounds children index
      = .ok (changed, children')) :
    ∃ child child', children[index]? = some child ∧
      placeDivider boundary position splitPath bounds child = .ok (changed, child') ∧
      children' = children.set index child' := by
  induction children generalizing index children' with
  | nil => cases ok
  | cons child children ih =>
    cases index with
    | zero =>
      obtain ⟨⟨changed', child'⟩, hmoved, ok⟩ := Res.bind_eq_ok ok
      cases ok
      exact ⟨child, child', rfl, hmoved, rfl⟩
    | succ index =>
      obtain ⟨⟨changed', rest⟩, hmoved, ok⟩ := Res.bind_eq_ok ok
      cases ok
      obtain ⟨c, c', at_, inner, rfl⟩ := ih hmoved
      exact ⟨c, c', at_, inner, rfl⟩

lemma child_bounds {bounds inner : LayoutBounds} {offset extent : UInt16}
    (ok : bounds.child axis offset extent = .ok inner) :
    (inner.columns.toNat, inner.rows.toNat)
      = childSize axis (bounds.columns.toNat, bounds.rows.toNat) extent.toNat := by
  cases axis with
  | horizontal =>
    obtain ⟨left, -, ok⟩ := Res.bind_eq_ok ok
    cases ok
    rfl
  | vertical =>
    obtain ⟨top, -, ok⟩ := Res.bind_eq_ok ok
    cases ok
    rfl

lemma placeDivider_spec {boundary : Nat} {position : UInt16} {splitPath : List UInt16} (bounds : LayoutBounds)
    {layout layout' : ViewLayout} {changed : Bool} {depth : Nat} (valid : layout.Valid depth)
    (fits : layout.minimumSize ≤ (bounds.columns.toNat, bounds.rows.toNat))
    (ok : placeDivider boundary position splitPath bounds layout = .ok (changed, layout')) :
    Redivided layout layout' := by
  induction layout generalizing layout' bounds splitPath depth with
  | terminal id => cases ok
  | split axis children weights ih =>
    rw [placeDivider] at ok
    obtain ⟨extents, hextents, ok⟩ := Res.bind_eq_ok ok
    obtain ⟨pos, reach⟩ := valid.wellFormed.extents fits hextents
    split at ok
    case h_1 index remaining =>
      split at ok
      · cases ok
      case h_2 extent hextent =>
        obtain ⟨before, -, ok⟩ := Res.bind_eq_ok ok
        obtain ⟨offset, -, ok⟩ := Res.bind_eq_ok ok
        obtain ⟨inner, hinner, ok⟩ := Res.bind_eq_ok ok
        obtain ⟨⟨changed', children'⟩, hmoved, ok⟩ := Res.bind_eq_ok ok
        cases ok
        obtain ⟨child, child', at_, placed, rfl⟩ := placeDividerAt_spec hmoved
        have mem := List.mem_of_getElem? at_
        refine .split (Redivided.set at_ (ih child mem _ (validAll_iff.1 valid.2.2.2 child mem) ?_ placed))
        rw [child_bounds hinner]
        exact child_fits fits reach at_ hextent
    case h_2 =>
      split at ok
      · cases ok
      · obtain ⟨before, -, ok⟩ := Res.bind_eq_ok ok
        obtain ⟨current, -, ok⟩ := Res.bind_eq_ok ok
        obtain ⟨gap, -, ok⟩ := Res.bind_eq_ok ok
        obtain ⟨current', -, ok⟩ := Res.bind_eq_ok ok
        obtain ⟨⟨changed', weights'⟩, hweights, ok⟩ := Res.bind_eq_ok ok
        cases ok
        rcases moveBoundary_spec pos reach hweights with rfl | ⟨ne, weightsOk⟩
        · exact .refl _
        · exact .reweight (le_trans valid.2.1.2 (by decide)) ne weightsOk

/-- Placing a divider redivides the layout (Rust `resize_divider`). -/
lemma resizeDivider_spec {layout' : ViewLayout} {splitPath : List UInt16} {boundary position : UInt16}
    (valid : layout.Valid 0) (ok : layout.resizeDivider splitPath boundary position size = .ok (changed, layout')) :
    layout.Fits size ∧ Redivided layout layout' := by
  unfold resizeDivider at ok
  split at ok
  · cases ok
  obtain ⟨panes, hpanes, ok⟩ := Res.bind_eq_ok ok
  have fits := fits_of_paneGeometry hpanes
  exact ⟨fits, placeDivider_spec ⟨0, 0, size.columns, size.rows⟩ valid fits ok⟩

end Ctl.Proto.ViewLayout
