import Ctl.Proto.Tiling
import Ctl.Proto.Dividers

/-!
# Where a layout puts its panes

`Placed` is the placement that `place` computes, without the machine arithmetic: the extents of each
split are those of `splitExtents`, and its children follow each other with one divider cell between
neighbours (`place_placed`). A placement is determined by the rectangle (`Placed.unique`) and
determines it (`Placed.rect_unique`), and the panes of a split fall apart into those of any two
groups of neighbouring children (`PlacedAll.append_inv`).
-/

namespace Ctl.Proto
open Ctl.Base

namespace Rect

variable {axis : SplitAxis} {r r' : Rect}

lemma slice_inj {o e o' e' : Nat} (h : r.slice axis o e = r'.slice axis o' e') :
    e = e' ∧ r.slice axis o 0 = r'.slice axis o' 0 := by
  cases axis <;> simp_all [slice]

lemma slice_self (axis : SplitAxis) (r : Rect) : r.slice axis 0 (r.length axis) = r := by
  cases axis <;> rfl

lemma ext_slice (start : r.slice axis 0 0 = r'.slice axis 0 0) (length : r.length axis = r'.length axis) : r = r' := by
  obtain ⟨l, t, c, w⟩ := r
  obtain ⟨l', t', c', w'⟩ := r'
  cases axis <;> simp_all [slice, Rect.length, SplitAxis.pick]

end Rect

namespace ViewLayout

/-! ### Placements -/

mutual
inductive Placed : ViewLayout → Rect → List PaneGeometry → Prop
  | terminal {id r} (p : PaneGeometry) : p.terminalId = id → p.rect = r →
    Placed (.terminal id) r [p]
  | split {axis children weights r panes} (length : UInt16) (extents : List UInt16) :
    length.toNat = r.length axis →
    splitExtents axis children weights length = .ok extents →
    PlacedAll axis r children extents 0 panes → Placed (.split axis children weights) r panes
/-- The children take their extents of the rectangle, one after the other from an offset on. -/
inductive PlacedAll : SplitAxis → Rect → List ViewLayout → List UInt16 → Nat →
    List PaneGeometry → Prop
  | nil {axis r offset} : PlacedAll axis r [] [] offset []
  | cons {axis r child children extent extents offset panes panes'} :
    Placed child (r.slice axis offset (UInt16.toNat extent)) panes →
    PlacedAll axis r children extents (offset + extent.toNat + 1) panes' →
    PlacedAll axis r (child :: children) (extent :: extents) offset (panes ++ panes')
end

variable {axis : SplitAxis} {bounds : LayoutBounds} {panes : List PaneGeometry} {layout : ViewLayout} {offset : UInt16}
  {children : List ViewLayout} {extents : List UInt16} {r : Rect}

lemma child_rect {inner : LayoutBounds} {extent : UInt16} (ok : bounds.child axis offset extent = .ok inner) :
    inner.rect = bounds.rect.slice axis offset.toNat extent.toNat := by
  cases axis with
  | horizontal =>
    obtain ⟨left, hleft, ok⟩ := Res.bind_eq_ok ok
    cases ok
    simp only [LayoutBounds.rect, Rect.slice, toNat_addU16 hleft]
  | vertical =>
    obtain ⟨top, htop, ok⟩ := Res.bind_eq_ok ok
    cases ok
    simp only [LayoutBounds.rect, Rect.slice, toNat_addU16 htop]

lemma placeAll_placed (placed : ∀ child ∈ children, ∀ {inner : LayoutBounds} {panes : List PaneGeometry},
      child.place inner = .ok panes → Placed child inner.rect panes) (len : extents.length = children.length)
    (ok : placeAll axis bounds children extents offset = .ok panes) :
    PlacedAll axis bounds.rect children extents offset.toNat panes := by
  induction children generalizing extents offset panes with
  | nil =>
    obtain rfl := List.length_eq_zero_iff.1 len
    cases ok
    exact .nil
  | cons child children ih =>
    cases extents with
    | nil => cases len
    | cons extent extents =>
      obtain ⟨inner, hinner, ok⟩ := Res.bind_eq_ok ok
      obtain ⟨first, hfirst, ok⟩ := Res.bind_eq_ok ok
      obtain ⟨next, hnext, ok⟩ := Res.bind_eq_ok ok
      have here := placed child List.mem_cons_self hfirst
      rw [child_rect hinner] at here
      have len : extents.length = children.length := Nat.succ.inj len
      dsimp only at ok
      split at ok
      case isTrue last =>
        obtain rfl := List.isEmpty_iff.1 last
        obtain rfl := List.length_eq_zero_iff.1 len
        cases ok
        exact .cons here .nil
      case isFalse =>
        obtain ⟨gap, hgap, ok⟩ := Res.bind_eq_ok ok
        obtain ⟨rest, hrest, ok⟩ := Res.bind_eq_ok ok
        cases ok
        have one : (1 : UInt16).toNat = 1 := rfl
        have there := ih (fun c hc => placed c (List.mem_cons_of_mem child hc)) len hrest
        rw [toNat_addU16 hgap, toNat_addU16 hnext, one] at there
        exact .cons here there

lemma place_placed (ok : layout.place bounds = .ok panes) : Placed layout bounds.rect panes := by
  induction layout generalizing bounds panes with
  | terminal id =>
    cases ok
    exact .terminal _ rfl rfl
  | split axis children weights ih =>
    rw [place] at ok
    obtain ⟨extents, hextents, ok⟩ := Res.bind_eq_ok ok
    obtain ⟨-, -, -, len, -⟩ := splitExtents_eq_ok hextents
    refine .split (bounds.length axis) extents ?_ hextents ?_
    · cases axis <;> rfl
    · exact placeAll_placed (fun child hc => ih child hc) len ok

lemma paneGeometry_placed {size : TerminalSize} (ok : layout.paneGeometry size = .ok panes) :
    Placed layout size.canvas panes := by
  unfold paneGeometry at ok
  dsimp only at ok
  split at ok
  · cases ok
  · exact place_placed ok

mutual
theorem Placed.terminalIds {layout r panes} :
    Placed layout r panes → panes.map (·.terminalId) = layout.terminalIds
  | .terminal p e _ => by
    rw [List.map_singleton, e]
    rfl
  | .split _ _ _ _ h => h.terminalIds
/-- `Placed.terminalIds` for a list of children. -/
theorem PlacedAll.terminalIds {axis r children extents offset panes} :
    PlacedAll axis r children extents offset panes →
      panes.map (·.terminalId) = terminalIdsAll children
  | .nil => rfl
  | .cons h k => by
    rw [List.map_append, h.terminalIds, k.terminalIds, ViewLayout.terminalIdsAll]
end

mutual
theorem Placed.wellFormed {layout r panes} : Placed layout r panes → layout.WellFormed
  | .terminal _ _ _ => trivial
  | .split _ _ _ ok h => by
    obtain ⟨ne, -, weights, -⟩ := splitExtents_eq_ok ok
    exact ⟨ne, weights, h.wellFormed⟩
/-- `Placed.wellFormed` for a list of children. -/
theorem PlacedAll.wellFormed {axis r children extents offset panes} :
    PlacedAll axis r children extents offset panes → WellFormedAll children
  | .nil => trivial
  | .cons h k => ⟨h.wellFormed, k.wellFormed⟩
end

lemma PaneGeometry.ext_rect {p q : PaneGeometry} (id : p.terminalId = q.terminalId)
    (rect : p.rect = q.rect) : p = q := by
  obtain ⟨i, l, t, c, r⟩ := p
  obtain ⟨i', l', t', c', r'⟩ := q
  simp only [PaneGeometry.rect, Rect.mk.injEq, UInt16.toNat_inj] at rect id ⊢
  obtain ⟨rfl, rfl, rfl, rfl⟩ := rect
  rw [id]

mutual
theorem Placed.unique {layout r panes panes'} :
    Placed layout r panes → Placed layout r panes' → panes = panes'
  | .terminal p e h, .terminal q e' h' => by
    rw [PaneGeometry.ext_rect (e.trans e'.symm) (h.trans h'.symm)]
  | .split length extents hl ok h, .split length' extents' hl' ok' h' => by
    obtain rfl : length = length' := UInt16.toNat_inj.1 (hl.trans hl'.symm)
    obtain rfl : extents = extents' := Except.ok.inj (ok.symm.trans ok')
    exact h.unique h'
/-- `Placed.unique` for a list of children. -/
theorem PlacedAll.unique {axis r children extents offset panes panes'} :
    PlacedAll axis r children extents offset panes →
      PlacedAll axis r children extents offset panes' → panes = panes'
  | .nil, .nil => rfl
  | .cons h k, .cons h' k' => by rw [h.unique h', k.unique k']
end

lemma Placed.length_eq {r' : Rect} {panes' : List PaneGeometry} (h : Placed layout r panes)
    (h' : Placed layout r' panes') : panes.length = panes'.length := by
  have ids := h.terminalIds.trans h'.terminalIds.symm
  simpa using congrArg List.length ids

mutual
theorem Placed.rect_unique {layout r r' panes panes'} :
    Placed layout r panes → Placed layout r' panes' → panes = panes' → r = r'
  | .terminal p _ h, .terminal q _ h', e => by
    rw [← h, ← h', (List.cons.inj e).1]
  | .split length extents hl ok h, .split length' extents' hl' ok' h', e => by
    obtain ⟨ne, -, -, -, sum⟩ := splitExtents_eq_ok ok
    obtain ⟨-, -, -, -, sum'⟩ := splitExtents_eq_ok ok'
    obtain ⟨rfl, start⟩ := h.rect_unique h' e
    exact Rect.ext_slice (start ne) (by rw [← hl, ← hl', ← sum, ← sum'])
/-- The panes determine the extents of a list of children, and where they start. -/
theorem PlacedAll.rect_unique {axis r r' children extents extents' offset offset' panes panes'} :
    PlacedAll axis r children extents offset panes →
      PlacedAll axis r' children extents' offset' panes' → panes = panes' →
        extents = extents' ∧
          (children ≠ [] → r.slice axis offset 0 = r'.slice axis offset' 0)
  | .nil, .nil, _ => ⟨rfl, fun ne => absurd rfl ne⟩
  | .cons h k, .cons h' k', e => by
    obtain ⟨first, rest⟩ := List.append_inj e (h.length_eq h')
    obtain ⟨extent, start⟩ := Rect.slice_inj (h.rect_unique h' first)
    obtain ⟨rfl, -⟩ := k.rect_unique k' rest
    exact ⟨by rw [UInt16.toNat_inj.1 extent], fun _ => start⟩
end

mutual
theorem Placed.tiles {layout r panes} : Placed layout r panes → Tiles layout r panes
  | .terminal p id h => by
    subst id
    exact .terminal p h
  | @Placed.split axis _ _ r _ length extents hl ok h => by
    obtain ⟨ne, -, -, -, sum⟩ := splitExtents_eq_ok ok
    have tiles := h.tiles ne (by rw [Nat.zero_add, sum, hl])
    rw [Nat.sub_zero, r.slice_self axis] at tiles
    exact .split tiles
/-- `Placed.tiles` for a list of children. -/
theorem PlacedAll.tiles {axis r children extents offset panes} :
    PlacedAll axis r children extents offset panes → children ≠ [] →
      offset + (extents.map UInt16.toNat).sum + (children.length - 1) = r.length axis →
      TilesAll axis children (r.slice axis offset (r.length axis - offset)) panes
  | .nil, ne, _ => absurd rfl ne
  | @PlacedAll.cons axis r child [] extent _ _ _ _ h .nil, _, fill => by
    rw [List.append_nil]
    refine .last ?_
    simp only [List.map_cons, List.map_nil, List.sum_cons, List.sum_nil, List.length_singleton] at fill
    rw [show r.length axis - offset = extent.toNat by omega]
    exact h.tiles
  | @PlacedAll.cons axis r child (next :: children) extent _ offset _ _ h k, _, fill => by
    simp only [List.map_cons, List.sum_cons, List.length_cons] at fill
    have rest := k.tiles (by simp) (by simp only [List.length_cons]; omega)
    refine @TilesAll.cons _ _ _ _ extent.toNat (r.length axis - (offset + extent.toNat + 1)) _ _
      ?_ ?_ ?_
    · rw [Rect.length_slice]
      omega
    · rw [Rect.slice_slice, Nat.add_zero]
      exact h.tiles
    · rw [Rect.slice_slice, ← Nat.add_assoc]
      exact rest
end

def offsetAfter (offset : Nat) (extents : List UInt16) : Nat :=
  offset + (extents.map UInt16.toNat).sum + extents.length

lemma PlacedAll.append_inv {next : List ViewLayout} {offset : Nat}
    (h : PlacedAll axis r (children ++ next) extents offset panes) :
    ∃ here there before after, extents = here ++ there ∧ here.length = children.length ∧
      panes = before ++ after ∧ PlacedAll axis r children here offset before ∧
      PlacedAll axis r next there (offsetAfter offset here) after := by
  induction children generalizing extents offset panes with
  | nil => exact ⟨[], extents, [], panes, rfl, rfl, rfl, .nil, by simpa [offsetAfter] using h⟩
  | cons child children ih =>
    cases h with
    | cons first rest =>
      obtain ⟨here, there, before, after, rfl, len, rfl, h, k⟩ := ih rest
      refine ⟨_ :: here, there, _ ++ before, after, rfl, ?_, (List.append_assoc _ _ _).symm,
        .cons first h, ?_⟩
      · rw [List.length_cons, List.length_cons, len]
      · convert k using 1
        simp only [offsetAfter, List.map_cons, List.sum_cons, List.length_cons]
        omega

end ViewLayout
end Ctl.Proto
