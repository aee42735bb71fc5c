import Ctl.Proto.Extents

/-!
# Tilings

What `paneGeometry` is for: a canvas is cut into the rectangles of its terminals. `Tiles` says so
in terms of the tree alone, without offsets or weights: a terminal fills its rectangle, and the
children of a split fill it from its start to its end with exactly one divider cell between
neighbours. `place_tiles` connects the placement to it, and the properties a client relies on
(leaf order, no overlap, no pane outside the canvas) are read off `Tiles`.
-/

namespace Ctl.Proto
open Ctl.Base

/-! ### Rectangles of cells -/

structure Rect where
  left : Nat
  top : Nat
  columns : Nat
  rows : Nat

namespace Rect

variable (axis : SplitAxis) (r : Rect)

def length : Nat := axis.pick (r.columns, r.rows)

/-- The part of a rectangle that starts `offset` cells along an axis and is `extent` cells long. -/
def slice (offset extent : Nat) (r : Rect) : Rect :=
  match axis with
  | .horizontal => { r with left := r.left + offset, columns := extent }
  | .vertical => { r with top := r.top + offset, rows := extent }

/-- The cell in column `x` and row `y` belongs to the rectangle. -/
def Covers (x y : Nat) : Prop :=
  (r.left ≤ x ∧ x < r.left + r.columns) ∧ r.top ≤ y ∧ y < r.top + r.rows

/-- No cell belongs to both rectangles. -/
def Disjoint (s : Rect) : Prop := ∀ x y, r.Covers x y → ¬ s.Covers x y

/-- The first rectangle lies inside the second. -/
def Inside (s : Rect) : Prop :=
  (s.left ≤ r.left ∧ r.left + r.columns ≤ s.left + s.columns) ∧
    s.top ≤ r.top ∧ r.top + r.rows ≤ s.top + s.rows

lemma Inside.refl : r.Inside r := by simp [Inside]

lemma Inside.trans {r s t : Rect} (h : r.Inside s) (k : s.Inside t) : r.Inside t := by
  unfold Inside at *
  omega

lemma Disjoint.mono {r r' s s' : Rect} (h : r.Inside r') (k : s.Inside s') (d : r'.Disjoint s') : r.Disjoint s := by
  intro x y hr hs
  refine d x y ?_ ?_ <;> unfold Inside Covers at * <;> omega

lemma slice_inside {axis : SplitAxis} {offset extent : Nat} {r : Rect}
    (h : offset + extent ≤ r.length axis) : (r.slice axis offset extent).Inside r := by
  cases axis <;> simp only [length, SplitAxis.pick, slice, Inside] at * <;> omega

lemma slice_disjoint {axis : SplitAxis} {o e o' e' : Nat} (h : o + e ≤ o') :
    (r.slice axis o e).Disjoint (r.slice axis o' e') := by
  intro x y hr hs
  cases axis <;> simp only [slice, Covers] at hr hs <;> omega

lemma slice_slice (o e o' e' : Nat) (r : Rect) : (r.slice axis o e).slice axis o' e' = r.slice axis (o + o') e' := by
  cases axis <;> simp [slice, Nat.add_assoc]

@[simp] lemma length_slice (o e : Nat) (r : Rect) : (r.slice axis o e).length axis = e := by
  cases axis <;> rfl

end Rect

def PaneGeometry.rect (p : PaneGeometry) : Rect :=
  ⟨p.left.toNat, p.top.toNat, p.columns.toNat, p.rows.toNat⟩

def ViewLayout.LayoutBounds.rect (b : ViewLayout.LayoutBounds) : Rect :=
  ⟨b.left.toNat, b.top.toNat, b.columns.toNat, b.rows.toNat⟩

/-- The bounds end within the sixteen-bit coordinates of a canvas. -/
def ViewLayout.LayoutBounds.Within (b : ViewLayout.LayoutBounds) : Prop :=
  b.left.toNat + b.columns.toNat < 2 ^ 16 ∧ b.top.toNat + b.rows.toNat < 2 ^ 16

def TerminalSize.canvas (size : TerminalSize) : Rect := ⟨0, 0, size.columns.toNat, size.rows.toNat⟩

namespace ViewLayout

/-! ### The specification -/

mutual
inductive Tiles : ViewLayout → Rect → List PaneGeometry → Prop
  | terminal {r : Rect} (p : PaneGeometry) : p.rect = r → Tiles (.terminal p.terminalId) r [p]
  | split {axis children weights r panes} :
    TilesAll axis children r panes → Tiles (.split axis children weights) r panes
/-- The children tile the rectangle one after the other along the axis: the last one fills it, any
    other one is followed by exactly one divider cell. -/
inductive TilesAll : SplitAxis → List ViewLayout → Rect → List PaneGeometry → Prop
  | last {axis child r panes} : Tiles child r panes → TilesAll axis [child] r panes
  | cons {axis child children} {r : Rect} {extent rest panes panes'} :
    extent + 1 + rest = r.length axis →
    Tiles child (r.slice axis 0 extent) panes →
    TilesAll axis children (r.slice axis (extent + 1) rest) panes' →
    TilesAll axis (child :: children) r (panes ++ panes')
end

mutual
theorem Tiles.terminalIds {layout r panes} :
    Tiles layout r panes → panes.map (·.terminalId) = layout.terminalIds
  | .terminal p _ => rfl
  | .split h => h.terminalIds
/-- `Tiles.terminalIds` for a list of children. -/
theorem TilesAll.terminalIds {axis children r panes} :
    TilesAll axis children r panes → panes.map (·.terminalId) = terminalIdsAll children
  | .last h => by
    simpa using h.terminalIds
  | .cons _ h k => by
    rw [List.map_append, h.terminalIds, k.terminalIds, ViewLayout.terminalIdsAll]
end

mutual
theorem Tiles.inside {layout r panes} :
    Tiles layout r panes → ∀ p ∈ panes, p.rect.Inside r
  | .terminal p e, q, hq => by
    rw [List.mem_singleton.1 hq, e]
    exact Rect.Inside.refl r
  | .split h, q, hq => h.inside q hq
/-- `Tiles.inside` for a list of children. -/
theorem TilesAll.inside {axis children r panes} :
    TilesAll axis children r panes → ∀ p ∈ panes, p.rect.Inside r
  | .last h, q, hq => h.inside q hq
  | .cons fill h k, q, hq => by
    rcases List.mem_append.1 hq with hq | hq
    · exact (h.inside q hq).trans (Rect.slice_inside (by omega))
    · exact (k.inside q hq).trans (Rect.slice_inside (by omega))
end

mutual
theorem Tiles.disjoint {layout r panes} :
    Tiles layout r panes → panes.Pairwise fun p q => p.rect.Disjoint q.rect
  | .terminal p _ => List.pairwise_singleton _ p
  | .split h => h.disjoint
/-- `Tiles.disjoint` for a list of children. -/
theorem TilesAll.disjoint {axis children r panes} :
    TilesAll axis children r panes → panes.Pairwise fun p q => p.rect.Disjoint q.rect
  | .last h => h.disjoint
  | .cons (r := r) _ h k => by
    refine List.pairwise_append.2 ⟨h.disjoint, k.disjoint, fun p hp q hq => ?_⟩
    exact Rect.Disjoint.mono (h.inside p hp) (k.inside q hq) (r.slice_disjoint (by omega))
end

/-! ### The placement is a tiling -/

/-- The panes of a layout that fits into `bounds`: a tiling of it, with no pane smaller than two
    columns and one row. -/
def PlacesIn (layout : ViewLayout) (bounds : LayoutBounds) : Prop :=
  ∃ panes, layout.place bounds = .ok panes ∧
    (∀ p ∈ panes, 2 ≤ p.columns.toNat ∧ 1 ≤ p.rows.toNat) ∧ Tiles layout bounds.rect panes

variable {bounds : LayoutBounds}

lemma child_eq_ok (axis : SplitAxis) (offset extent : UInt16) (within : bounds.Within)
    (h : offset.toNat + extent.toNat ≤ (bounds.length axis).toNat) :
    ∃ inner, bounds.child axis offset extent = .ok inner ∧ inner.Within ∧
      inner.length axis = extent ∧
      axis.cross (inner.columns, inner.rows) = axis.cross (bounds.columns, bounds.rows) ∧
      inner.rect = bounds.rect.slice axis offset.toNat extent.toNat := by
  unfold LayoutBounds.Within at *
  cases axis with
  | horizontal =>
    simp only [LayoutBounds.length, SplitAxis.pick] at h
    have start := toNat_add_u16 (a := bounds.left) (b := offset) (by omega)
    refine ⟨{ bounds with left := bounds.left + offset, columns := extent }, ?_,
      ⟨by simp only [start]; omega, within.2⟩, rfl, rfl, ?_⟩
    · simp only [LayoutBounds.child, Res.pure_eq,
        addU16_eq_ok (show bounds.left.toNat + offset.toNat < 2 ^ 16 by omega), Res.ok_bind]
    · simp only [LayoutBounds.rect, Rect.slice, start]
  | vertical =>
    simp only [LayoutBounds.length, SplitAxis.pick] at h
    have start := toNat_add_u16 (a := bounds.top) (b := offset) (by omega)
    refine ⟨{ bounds with top := bounds.top + offset, rows := extent }, ?_,
      ⟨within.1, by simp only [start]; omega⟩, rfl, rfl, ?_⟩
    · simp only [LayoutBounds.child, Res.pure_eq,
        addU16_eq_ok (show bounds.top.toNat + offset.toNat < 2 ^ 16 by omega), Res.ok_bind]
    · simp only [LayoutBounds.rect, Rect.slice, start]

lemma placeAll_tiles {axis : SplitAxis} {children : List ViewLayout} {extents : List UInt16} (offset : UInt16)
    (ne : children ≠ []) (within : bounds.Within)
    (place : ∀ child ∈ children, ∀ {inner : LayoutBounds}, inner.Within →
      axis.pick child.minimumSize ≤ (inner.length axis).toNat →
      axis.cross (inner.columns, inner.rows) = axis.cross (bounds.columns, bounds.rows) →
      child.PlacesIn inner) (reach : List.Forall₂ (fun child extent => axis.pick child.minimumSize ≤ extent.toNat)
      children extents) (fill : offset.toNat + (extents.map UInt16.toNat).sum + (children.length - 1)
      = (bounds.length axis).toNat) :
    ∃ panes, placeAll axis bounds children extents offset = .ok panes ∧
      (∀ p ∈ panes, 2 ≤ p.columns.toNat ∧ 1 ≤ p.rows.toNat) ∧
      TilesAll axis children (bounds.rect.slice axis offset.toNat
        ((bounds.length axis).toNat - offset.toNat)) panes := by
  induction reach generalizing offset with
  | nil => exact absurd rfl ne
  | @cons child extent children extents hextent reach ih =>
    have one : (1 : UInt16).toNat = 1 := rfl
    have lt := (bounds.length axis).toNat_lt
    simp only [List.map_cons, List.sum_cons, List.length_cons] at fill
    obtain ⟨inner, hinner, hwithin, hlength, hcross, hrect⟩ :=
      child_eq_ok axis offset extent within (by omega)
    obtain ⟨panes, hpanes, least, tiles⟩ := place child List.mem_cons_self hwithin
      (by rwa [hlength]) hcross
    rw [hrect] at tiles
    have after := toNat_add_u16 (a := offset) (b := extent) (by omega)
    cases children with
    | nil =>
      cases reach
      simp only [List.map_nil, List.sum_nil, List.length_nil] at fill
      refine ⟨panes, ?_, least, .last ?_⟩
      · rw [placeAll]
        simp only [hinner, hpanes, Res.ok_bind, placeAll, List.isEmpty_nil, if_true, Res.pure_eq,
          addU16_eq_ok (show offset.toNat + extent.toNat < 2 ^ 16 by omega), List.append_nil]
      · rwa [show (bounds.length axis).toNat - offset.toNat = extent.toNat by omega]
    | cons next children =>
      simp only [List.length_cons] at fill
      have gap := toNat_add_u16 (a := offset + extent) (b := 1) (by omega)
      obtain ⟨panes', hpanes', least', tiles'⟩ := ih (offset + extent + 1) (by simp)
        (fun c hc => place c (List.mem_cons_of_mem child hc))
        (by simp only [List.length_cons]; omega)
      refine ⟨panes ++ panes', ?_, ?_, @TilesAll.cons _ _ _ _ extent.toNat
        ((bounds.length axis).toNat - (offset + extent + 1).toNat) _ _ ?_ ?_ ?_⟩
      · rw [placeAll]
        simp only [hinner, hpanes, Res.ok_bind, List.isEmpty_cons, Bool.false_eq_true, if_false,
          addU16_eq_ok (show offset.toNat + extent.toNat < 2 ^ 16 by omega),
          addU16_eq_ok (show (offset + extent).toNat + (1 : UInt16).toNat < 2 ^ 16 by omega),
          hpanes', Res.pure_eq]
      · intro p hp
        rcases List.mem_append.1 hp with hp | hp
        · exact least p hp
        · exact least' p hp
      · rw [Rect.length_slice]
        omega
      · rwa [Rect.slice_slice, Nat.add_zero]
      · rwa [Rect.slice_slice, show offset.toNat + (extent.toNat + 1)
          = (offset + extent + 1).toNat by omega]

lemma place_tiles {layout : ViewLayout} (wf : layout.WellFormed) (within : bounds.Within)
    (hcolumns : layout.minimumSize.1 ≤ bounds.columns.toNat) (hrows : layout.minimumSize.2 ≤ bounds.rows.toNat) :
    layout.PlacesIn bounds := by
  induction layout generalizing bounds with
  | terminal id =>
    refine ⟨[⟨id, bounds.left, bounds.top, bounds.columns, bounds.rows⟩], rfl, ?_,
      .terminal ⟨id, _, _, _, _⟩ rfl⟩
    simpa using ⟨hcolumns, hrows⟩
  | split axis children weights ih =>
    obtain ⟨ne, ok, wf⟩ := wf
    rw [wellFormedAll_iff] at wf
    rw [minimumSize, minimumSizes_eq] at hcolumns hrows
    have fits : axis.pick (splitMinimum axis (!weights.isEmpty) (children.map minimumSize))
        ≤ (bounds.length axis).toNat := by
      cases axis
      · exact hcolumns
      · exact hrows
    have cross : ∀ child ∈ children, axis.cross child.minimumSize
        ≤ (axis.cross (bounds.columns, bounds.rows)).toNat := by
      intro child hchild
      refine le_trans (cross_le_splitMinimum axis (!weights.isEmpty)
        (List.mem_map_of_mem hchild)) ?_
      cases axis
      · exact hrows
      · exact hcolumns
    have pos : ∀ child ∈ children, 1 ≤ axis.pick child.minimumSize := by
      intro child hchild
      have := minimumSize_ge (wf child hchild)
      cases axis <;> simp only [SplitAxis.pick] <;> omega
    obtain ⟨extents, hextents, sum, reach⟩ := splitExtents_spec ne ok pos fits
    obtain ⟨panes, hpanes, least, tiles⟩ := placeAll_tiles 0 ne within
      (fun child hchild inner hwithin hpick hcross => by
        have hc := cross child hchild
        rw [← hcross] at hc
        cases axis
        · exact ih child hchild (wf child hchild) hwithin hpick hc
        · exact ih child hchild (wf child hchild) hwithin hc hpick)
      reach (by simpa using sum)
    refine ⟨panes, by rw [place, hextents]; exact hpanes, least, .split ?_⟩
    cases axis <;> simpa [Rect.slice, LayoutBounds.length, LayoutBounds.rect, SplitAxis.pick]
      using tiles

/-- On a canvas at least as large as the minimum, `pane_geometry` returns one rectangle for each
    leaf in leaf order: disjoint, inside the canvas, no smaller than two columns and one row, and
    filling every split with single divider cells between its children. Below the minimum it returns
    an error. -/
theorem paneGeometry_tiles {layout : ViewLayout} (wf : layout.WellFormed) (size : TerminalSize) :
    (layout.Fits size → ∃ panes, layout.paneGeometry size = .ok panes ∧
      panes.map (·.terminalId) = layout.terminalIds ∧
      panes.Pairwise (fun p q => p.rect.Disjoint q.rect) ∧
      (∀ p ∈ panes, p.rect.Inside size.canvas ∧ 2 ≤ p.columns.toNat ∧ 1 ≤ p.rows.toNat) ∧
      Tiles layout size.canvas panes) ∧
    (¬ layout.Fits size → ∃ message, layout.paneGeometry size = .fail message) := by
  constructor
  · rintro ⟨hcolumns, hrows⟩
    have within : LayoutBounds.Within ⟨0, 0, size.columns, size.rows⟩ :=
      ⟨by simpa using size.columns.toNat_lt, by simpa using size.rows.toNat_lt⟩
    obtain ⟨panes, hpanes, least, tiles⟩ := place_tiles wf within hcolumns hrows
    refine ⟨panes, ?_, tiles.terminalIds, tiles.disjoint, ?_, tiles⟩
    · rw [paneGeometry, if_neg (by omega)]
      exact hpanes
    · intro p hp
      exact ⟨tiles.inside p hp, least p hp⟩
  · intro small
    exact ⟨_, if_pos (by unfold Fits at small; omega)⟩

/-- A weighted split beside an equal one on an 80 by 24 canvas. -/
theorem paneGeometry_tiles_nested :
    let layout : ViewLayout := .split .horizontal
      [.terminal "a", .split .vertical [.terminal "b", .terminal "c"] []] [1, 3]
    layout.WellFormed ∧ layout.Fits .default ∧
      ∃ panes, layout.paneGeometry .default = .ok panes ∧
        panes.map (·.terminalId) = ["a", "b", "c"] ∧
        panes.Pairwise (fun p q => p.rect.Disjoint q.rect) := by
  intro layout
  have wf : layout.WellFormed := by
    simp [layout, WellFormed, WeightsOk]
  have fits : layout.Fits .default := by decide
  obtain ⟨panes, ok, ids, disjoint, -, -⟩ := (paneGeometry_tiles wf .default).1 fits
  exact ⟨wf, fits, panes, ok, ids, disjoint⟩

end ViewLayout
end Ctl.Proto
