import Ctl.Proto.ResizePane

/-!
# Absolute divider resize

`resize_divider` as the method it is in the source (`resizeDividerInPlace`), and a drag as the
sequence of its calls (`drag`). `PathIndependent` is what a drag is for: only its last position
counts. `drag_iff` says exactly when it holds. A divider stays where it is put as long as the splits
around it stay as they are (`Dragged`), and the first call of a drag may change those for the same
reason as in a directional resize.
-/

namespace Ctl.Proto.ViewLayout
open Ctl.Base

/-! ### The method of the source -/

mutual
/-- `place_divider`: what it returns, and the layout it leaves behind. -/
def placeDividerInPlace (boundary : Nat) (position : UInt16) (splitPath : List UInt16)
    (bounds : LayoutBounds) : ViewLayout → Res String Bool × ViewLayout
  | .terminal terminalId => (.fail "divider path must target a split", .terminal terminalId)
  | .split axis children weights =>
    match splitExtents axis children weights (bounds.length axis) with
    | .error e => (.error e, .split axis children weights)
    | .ok extents =>
      match splitPath with
      | index :: remaining =>
        match extents[index.toNat]? with
        | none => (.fail "divider split path child is absent", .split axis children weights)
        | some extent =>
          match (do
            let before ← sumU16 (extents.take index.toNat)
            let offset ← addU16 before index
            bounds.child axis offset extent : Res String LayoutBounds) with
          | .error e => (.error e, .split axis children weights)
          | .ok inner =>
            let (changed, children) :=
              placeDividerAtInPlace boundary position remaining inner children index.toNat
            (changed, .split axis children weights)
      | [] =>
        if children.length ≤ boundary + 1 then
          (.fail "divider boundary is absent from split", .split axis children weights)
        else
          match (do
            let before ← sumU16 (extents.take (boundary + 1))
            let current ← addU16 (axis.pick (bounds.left, bounds.top)) before
            let gap ← u16TryFrom "invalid divider boundary" boundary
            addU16 current gap : Res String UInt16) with
          | .error e => (.error e, .split axis children weights)
          | .ok current =>
            let (changed, weights) := moveBoundaryInPlace axis children extents boundary
              ((position.toNat : Int) - current.toNat) weights
            (changed, .split axis children weights)
/-- `placeDividerInPlace` on one child of a list. -/
def placeDividerAtInPlace (boundary : Nat) (position : UInt16) (splitPath : List UInt16)
    (bounds : LayoutBounds) : List ViewLayout → (index : Nat) → Res String Bool × List ViewLayout
  | [], _ => (.panic, [])
  | child :: children, 0 =>
    let (changed, child) := placeDividerInPlace boundary position splitPath bounds child
    (changed, child :: children)
  | child :: children, index + 1 =>
    let (changed, children) :=
      placeDividerAtInPlace boundary position splitPath bounds children index
    (changed, child :: children)
end

/-- `resize_divider`: what it returns, and the layout it leaves behind. -/
def resizeDividerInPlace (splitPath : List UInt16) (boundary position : UInt16)
    (size : TerminalSize) (layout : ViewLayout) : Res String Bool × ViewLayout :=
  if 16 < splitPath.length then (.fail "divider split path exceeds 16 levels", layout)
  else
    match layout.paneGeometry size with
    | .error e => (.error e, layout)
    | .ok _ => placeDividerInPlace boundary.toNat position splitPath ⟨0, 0, size.columns, size.rows⟩
      layout

/-- What a method returns and leaves behind, from a function that returns the changed value. -/
def leaves {σ : Type} (result : Res String (Bool × σ)) (s : σ) : Res String Bool × σ :=
  match result with
  | .ok (changed, s) => (.ok changed, s)
  | .error e => (.error e, s)

variable {boundary : Nat} {splitPath before after : List UInt16} {bounds : LayoutBounds} {inner : ViewLayout}
  {panes : List PaneGeometry} {position first second : UInt16} {around : List Enclosing} {d : Divider}
  {weights : List UInt32}

lemma placeDividerAtInPlace_eq {children : List ViewLayout} {index : Nat}
    (child : ∀ child ∈ children, placeDividerInPlace boundary position splitPath bounds child
      = leaves (placeDivider boundary position splitPath bounds child) child) :
    placeDividerAtInPlace boundary position splitPath bounds children index
      = leaves (placeDividerAt boundary position splitPath bounds children index) children := by
  induction children generalizing index with
  | nil => rfl
  | cons first children ih =>
    cases index with
    | zero =>
      rw [placeDividerAtInPlace, placeDividerAt, child first List.mem_cons_self]
      rcases placeDivider boundary position splitPath bounds first with _ | ⟨_, _⟩ <;> rfl
    | succ index =>
      rw [placeDividerAtInPlace, placeDividerAt, ih fun c hc => child c (List.mem_cons_of_mem _ hc)]
      rcases placeDividerAt boundary position splitPath bounds children index with _ | ⟨_, _⟩ <;> rfl

lemma placeDividerInPlace_eq (boundary : Nat) (position : UInt16) (splitPath : List UInt16)
    (bounds : LayoutBounds) (layout : ViewLayout) :
    placeDividerInPlace boundary position splitPath bounds layout
      = leaves (placeDivider boundary position splitPath bounds layout) layout := by
  induction layout generalizing splitPath bounds with
  | terminal id => rfl
  | split axis children weights ih =>
    rw [placeDividerInPlace, placeDivider]
    cases splitExtents axis children weights (bounds.length axis) with
    | error e => rfl
    | ok extents =>
      simp only [Res.ok_bind]
      cases splitPath with
      | cons index remaining =>
        dsimp only
        cases extents[index.toNat]? with
        | none => rfl
        | some extent =>
          dsimp only
          rcases sumU16 (extents.take index.toNat) with e | before
          · rfl
          simp only [Res.ok_bind]
          rcases (addU16 before index : Res String UInt16) with e | offset
          · rfl
          simp only [Res.ok_bind]
          rcases bounds.child axis offset extent with e | inner
          · rfl
          simp only [Res.ok_bind]
          rw [placeDividerAtInPlace_eq fun c hc => ih c hc remaining inner]
          rcases placeDividerAt boundary position remaining inner children index.toNat with _ | ⟨_, _⟩
          · rfl
          · rfl
      | nil =>
        dsimp only
        split
        · rfl
        rcases sumU16 (extents.take (boundary + 1)) with e | before
        · rfl
        simp only [Res.ok_bind]
        rcases (addU16 (axis.pick (bounds.left, bounds.top)) before : Res String UInt16)
          with e | current
        · rfl
        simp only [Res.ok_bind]
        rcases u16TryFrom "invalid divider boundary" boundary with e | gap
        · rfl
        simp only [Res.ok_bind]
        rcases (addU16 current gap : Res String UInt16) with e | current
        · rfl
        simp only [Res.ok_bind, moveBoundaryInPlace]
        rcases moveBoundary axis children weights extents boundary _ with e | ⟨changed, weights'⟩
        · rfl
        · rfl

lemma resizeDividerInPlace_eq (splitPath : List UInt16) (boundary position : UInt16)
    (size : TerminalSize) (layout : ViewLayout) :
    resizeDividerInPlace splitPath boundary position size layout
      = leaves (layout.resizeDivider splitPath boundary position size) layout := by
  unfold resizeDividerInPlace resizeDivider
  split
  · rfl
  cases layout.paneGeometry size with
  | error e => rfl
  | ok panes => exact placeDividerInPlace_eq _ _ _ _ _

def drag (splitPath : List UInt16) (boundary : UInt16) (size : TerminalSize)
    (positions : List UInt16) (layout : ViewLayout) : ViewLayout :=
  positions.foldl (fun layout position =>
    (resizeDividerInPlace splitPath boundary position size layout).2) layout

/-! ### Following a path -/

lemma sumU16_eq_ok {words : List UInt16} (lt : (words.map UInt16.toNat).sum < 2 ^ 16) :
    ∃ w, sumU16 words = .ok w ∧ w.toNat = (words.map UInt16.toNat).sum := by
  suffices h : ∀ a : UInt16, a.toNat + (words.map UInt16.toNat).sum < 2 ^ 16 →
      ∃ w, (words.foldlM addU16 a : Res String UInt16) = .ok w ∧
        w.toNat = a.toNat + (words.map UInt16.toNat).sum by
    have zero : (0 : UInt16).toNat = 0 := rfl
    have h := h 0 (by omega)
    rwa [zero, Nat.zero_add] at h
  clear lt
  induction words with
  | nil => exact fun a _ => ⟨a, rfl, rfl⟩
  | cons w words ih =>
    intro a lt
    rw [List.map_cons, List.sum_cons] at lt ⊢
    have add := toNat_add_u16 (a := a) (b := w) (by omega)
    obtain ⟨v, ok, value⟩ := ih (a + w) (by omega)
    refine ⟨v, ?_, by omega⟩
    rw [List.foldlM_cons, addU16_eq_ok (by omega), Res.ok_bind, ok]

lemma exists_addU16 {a b : UInt16} (lt : a.toNat + b.toNat < 2 ^ 16) :
    ∃ c, (addU16 a b : Res String UInt16) = .ok c ∧ c.toNat = a.toNat + b.toNat :=
  ⟨a + b, addU16_eq_ok lt, toNat_add_u16 lt⟩

lemma placeDividerAt_append (before : List ViewLayout) (inner : ViewLayout) (after : List ViewLayout) :
    placeDividerAt boundary position splitPath bounds (before ++ inner :: after) before.length
      = (do
        let (changed, inner) ← placeDivider boundary position splitPath bounds inner
        .ok (changed, before ++ inner :: after)) := by
  induction before with
  | nil => rfl
  | cons child before ih =>
    rw [List.cons_append, List.length_cons, placeDividerAt, ih]
    rcases placeDivider boundary position splitPath bounds inner with e | ⟨changed, inner'⟩
    · rfl
    · rfl

def LayoutBounds.size (bounds : LayoutBounds) : UInt16 × UInt16 := (bounds.columns, bounds.rows)

lemma LayoutBounds.hasSize (bounds : LayoutBounds) : bounds.rect.HasSize bounds.size := ⟨rfl, rfl⟩

lemma placeDivider_fill {e : Enclosing} {index : UInt16} {extent : UInt16} {left here right : List PaneGeometry}
    (parts : e.Parts inner bounds.rect bounds.size before after extent left here right) (within : bounds.Within)
    (at_ : index.toNat = e.before.length) :
    ∃ inside : LayoutBounds, inside.Within ∧
      inside.rect = bounds.rect.slice e.axis (offsetAfter 0 before) extent.toNat ∧
      inside.size = e.axis.put extent bounds.size ∧
      ∀ boundary position remaining,
        placeDivider boundary position (index :: remaining) bounds (e.fill inner) = (do
          let (changed, inner) ← placeDivider boundary position remaining inside inner
          .ok (changed, e.fill inner)) := by
  obtain ⟨-, -, -, -, sum⟩ := splitExtents_eq_ok parts.divided
  simp only [Enclosing.children, List.map_append, List.map_cons, List.sum_append, List.sum_cons,
    List.length_append, List.length_cons] at sum
  have lt := (e.axis.pick bounds.size).toNat_lt
  have length := parts.length
  have get : (before ++ extent :: after)[index.toNat]? = some extent := by
    rw [at_, ← length, List.getElem?_append_right (le_refl _), Nat.sub_self,
      List.getElem?_cons_zero]
  have take : (before ++ extent :: after).take index.toNat = before := by
    rw [at_, ← length, List.take_left]
  obtain ⟨w, hw, valueW⟩ := sumU16_eq_ok (show (before.map UInt16.toNat).sum < 2 ^ 16 by omega)
  obtain ⟨offset, hoffset, value⟩ := exists_addU16 (a := w) (b := index) (by omega)
  have start : offset.toNat = offsetAfter 0 before := by
    rw [value, valueW, at_, ← length, offsetAfter, Nat.zero_add]
  have room : offset.toNat + extent.toNat ≤ (bounds.length e.axis).toNat := by
    have same : bounds.length e.axis = e.axis.pick bounds.size := rfl
    rw [same]
    omega
  obtain ⟨inside, hinside, hwithin, hlength, hcross, hrect⟩ :=
    child_eq_ok e.axis offset extent within room
  refine ⟨inside, hwithin, by rw [hrect, start], ?_, ?_⟩
  · cases axis : e.axis with
    | horizontal =>
      rw [axis] at hlength hcross
      exact Prod.ext hlength hcross
    | vertical =>
      rw [axis] at hlength hcross
      exact Prod.ext hcross hlength
  · intro boundary position remaining
    have divided : splitExtents e.axis (e.children inner) e.weights (bounds.length e.axis)
        = .ok (before ++ extent :: after) := parts.divided
    rw [Enclosing.fill, placeDivider, divided, Res.ok_bind]
    dsimp only
    rw [get]
    dsimp only
    rw [take, hw, Res.ok_bind, hoffset, Res.ok_bind, hinside, Res.ok_bind, at_, Enclosing.children,
      placeDividerAt_append]
    rcases placeDivider boundary position remaining inside inner with e | ⟨changed, inner'⟩
    · rfl
    · rfl

/-- A path into the splits around a layout: the index of the child at each of them. -/
def Follows (splitPath : List UInt16) (around : List Enclosing) : Prop :=
  splitPath.map UInt16.toNat = around.map fun e => e.before.length

lemma placeDivider_plug (within : bounds.Within) (placed : Placed (plug inner around) bounds.rect panes)
    (path : Follows splitPath around) :
    ∃ inside : LayoutBounds, inside.Within ∧ InHole around inner inside.rect panes ∧
      (∃ extents, extentsAround inner around bounds.size = .ok (extents, inside.size)) ∧
      ∀ boundary position,
        placeDivider boundary position splitPath bounds (plug inner around) = (do
          let (changed, inner) ← placeDivider boundary position [] inside inner
          .ok (changed, plug inner around)) := by
  induction around generalizing bounds splitPath panes with
  | nil =>
    obtain rfl := List.map_eq_nil_iff.1 path
    refine ⟨bounds, within, ⟨[], panes, [], by simp, rfl, placed⟩, ⟨[], rfl⟩, ?_⟩
    intro boundary position
    rw [plug]
    rcases placeDivider boundary position [] bounds inner with e | ⟨changed, inner'⟩
    · rfl
    · rfl
  | cons e around ih =>
    cases splitPath with
    | nil => cases path
    | cons index remaining =>
      obtain ⟨at_, path⟩ := List.cons.inj path
      obtain ⟨before, after, extent, left, here, right, rfl, parts⟩ := placed.parts bounds.hasSize
      obtain ⟨inside, hwithin, hrect, hsize, step⟩ := placeDivider_fill parts within at_
      have deeper := parts.here
      rw [← hrect] at deeper
      obtain ⟨hole, holeWithin, ⟨left', here', right', rfl, leaves, inHole⟩, ⟨extents, hextents⟩,
        follow⟩ := ih hwithin deeper path
      rw [hsize] at hextents
      refine ⟨hole, holeWithin, ⟨left ++ left', here', right' ++ right, ?_, ?_, inHole⟩,
        ⟨(before ++ extent :: after) :: extents, ?_⟩, ?_⟩
      · simp only [List.append_assoc]
      · rw [List.map_append, parts.left.terminalIds, leaves, leading]
      · rw [parts.extentsAround, hextents]
        rfl
      · intro boundary position
        rw [plug, step, follow]
        rcases placeDivider boundary position [] hole inner with e | ⟨changed, inner'⟩
        · rfl
        · rfl

lemma InHole.unique {hole hole' : Rect} (h : InHole around inner hole panes) (h' : InHole around inner hole' panes) :
    hole = hole' := by
  obtain ⟨left, here, right, rfl, leaves, placed⟩ := h
  obtain ⟨left', here', right', eq, leaves', placed'⟩ := h'
  have len := congrArg List.length (leaves.trans leaves'.symm)
  rw [List.length_map, List.length_map] at len
  obtain ⟨-, rest⟩ := List.append_inj eq len
  obtain ⟨same, -⟩ := List.append_inj rest (placed.length_eq placed')
  exact placed.rect_unique placed' same

def Divider.start (d : Divider) (hole : Rect) (before : List UInt16) : Nat :=
  d.axis.pick (hole.left, hole.top) + offsetAfter 0 before

def Divider.shiftTo (d : Divider) (hole : Rect) (before : List UInt16) (first second : UInt16)
    (position : UInt16) : Int :=
  d.shift first second (position.toNat - (d.start hole before + first.toNat : Nat))

lemma placeDivider_here (position : UInt16)
    (h : d.Extents weights (d.axis.pick bounds.size) before first second after) (within : bounds.Within) :
    placeDivider d.before.length position [] bounds (d.reweigh weights) =
      if d.shiftTo bounds.rect before first second position = 0 then .ok (false, d.reweigh weights)
      else .ok (true, d.movedBy before first second after
        (d.shiftTo bounds.rect before first second position)) := by
  obtain ⟨-, -, -, -, sum⟩ := splitExtents_eq_ok h.divided
  have lt := (d.axis.pick bounds.size).toNat_lt
  have length := h.length
  simp only [List.map_append, List.map_cons, List.sum_append, List.sum_cons, Divider.children,
    List.length_append, List.length_cons] at sum
  have take : (before ++ first :: second :: after).take (d.before.length + 1) = before ++ [first] := by
    rw [← length, show before ++ first :: second :: after = (before ++ [first]) ++ second :: after
      by simp, show before.length + 1 = (before ++ [first]).length by simp, List.take_left]
  have fits : (d.axis.pick (bounds.left, bounds.top)).toNat + (d.axis.pick bounds.size).toNat
      < 2 ^ 16 := by
    cases d.axis with
    | horizontal => exact within.1
    | vertical => exact within.2
  obtain ⟨w, hw, valueW⟩ := sumU16_eq_ok (show ((before ++ [first]).map UInt16.toNat).sum < 2 ^ 16 by
    simp only [List.map_append, List.map_cons, List.map_nil, List.sum_append, List.sum_cons,
      List.sum_nil]
    omega)
  simp only [List.map_append, List.map_cons, List.map_nil, List.sum_append, List.sum_cons,
    List.sum_nil] at valueW
  obtain ⟨current, hcurrent, value⟩ :=
    exists_addU16 (a := d.axis.pick (bounds.left, bounds.top)) (b := w) (by omega)
  have gap := toNat_ofNat_u16 (n := d.before.length) (by omega)
  obtain ⟨at_, hat, valueAt⟩ :=
    exists_addU16 (a := current) (b := UInt16.ofNat d.before.length) (by omega)
  have cell : at_.toNat = d.start bounds.rect before + first.toNat := by
    have start : d.axis.pick (bounds.rect.left, bounds.rect.top)
        = (d.axis.pick (bounds.left, bounds.top)).toNat := by
      cases d.axis <;> rfl
    rw [Divider.start, start, offsetAfter]
    omega
  have divided : splitExtents d.axis d.children weights (bounds.length d.axis)
      = .ok (before ++ first :: second :: after) := h.divided
  have two : ¬ d.children.length ≤ d.before.length + 1 := by
    simp only [Divider.children, List.length_append, List.length_cons]
    omega
  rw [Divider.shiftTo, Divider.reweigh, placeDivider, divided, Res.ok_bind]
  dsimp only
  rw [if_neg two, take, hw, Res.ok_bind, hcurrent, Res.ok_bind,
    u16TryFrom_eq_ok (by omega), Res.ok_bind, hat, Res.ok_bind, h.moveBoundary, cell]
  split
  · rfl
  · rfl

/-! ### One call on a canvas -/

/-- The divider that a path and a boundary index address on a canvas that has room for the
    layout. -/
structure Addresses (splitPath : List UInt16) (boundary : UInt16) (size : TerminalSize)
    (layout : ViewLayout) (around : List Enclosing) (d : Divider) : Prop where
  layout_eq : layout = plug d.layout around
  path : Follows splitPath around
  levels : splitPath.length ≤ 16
  boundary : d.before.length = boundary.toNat
  room : (layout.paneGeometry size).isOk = true

section
variable {splitPath : List UInt16} {boundary : UInt16} {size : TerminalSize} {layout : ViewLayout}
  {around : List Enclosing} {d : Divider} {weights : List UInt32} {inside : UInt16 × UInt16}
  {before after : List UInt16} {first second : UInt16} {panes : List PaneGeometry} {hole : Rect}

lemma resizeDividerInPlace_here (h : d.On around (cells size) weights inside before first second after)
    (levels : splitPath.length ≤ 16) (path : Follows splitPath around) (at_ : d.before.length = boundary.toNat)
    (ok : (plug (d.reweigh weights) around).paneGeometry size = .ok panes)
    (inHole : InHole around (d.reweigh weights) hole panes) (position : UInt16) :
    resizeDividerInPlace splitPath boundary position size (plug (d.reweigh weights) around) =
      if d.shiftTo hole before first second position = 0 then
        (.ok false, plug (d.reweigh weights) around)
      else (.ok true, plug (d.movedBy before first second after
        (d.shiftTo hole before first second position)) around) := by
  have within : LayoutBounds.Within ⟨0, 0, size.columns, size.rows⟩ :=
    ⟨by simpa using size.columns.toNat_lt, by simpa using size.rows.toNat_lt⟩
  obtain ⟨bounds, hwithin, inBounds, ⟨extents, hextents⟩, follow⟩ :=
    placeDivider_plug within (paneGeometry_placed ok) path
  obtain rfl := inHole.unique inBounds
  obtain ⟨extents', hextents'⟩ := h.around
  obtain ⟨-, rfl⟩ := Prod.mk.inj (Except.ok.inj (hextents'.symm.trans hextents))
  rw [resizeDividerInPlace_eq, resizeDivider, if_neg (by omega), ok, Res.ok_bind, ← at_, follow,
    placeDivider_here position h.extents hwithin]
  split
  · rfl
  · rfl

end

lemma Divider.Extents.placed_eq {weights' : List UInt32} {size : UInt16 × UInt16} {r : Rect}
    {panes' : List PaneGeometry} (h : d.Extents weights (d.axis.pick size) before first second after)
    (h' : d.Extents weights' (d.axis.pick size) before first second after)
    (placed : Placed (d.reweigh weights) r panes) (placed' : Placed (d.reweigh weights') r panes')
    (hsize : r.HasSize size) : panes = panes' := by
  cases placed with
  | split length extents hlength divided placed =>
    cases placed' with
    | split length' extents' hlength' divided' placed' =>
      obtain rfl : d.axis.pick size = length :=
        UInt16.toNat_inj.1 ((hsize.pick d.axis).trans hlength.symm)
      obtain rfl : d.axis.pick size = length' :=
        UInt16.toNat_inj.1 ((hsize.pick d.axis).trans hlength'.symm)
      obtain rfl := Except.ok.inj (h.divided.symm.trans divided)
      obtain rfl := Except.ok.inj (h'.divided.symm.trans divided')
      exact placed.unique placed'

/-! ### A drag -/

/-- The cell of the neighbours' rectangle that is closest to a position and leaves both their
    minima. -/
def Divider.closest (d : Divider) (start total : Nat) (position : UInt16) : Int :=
  max d.leftMinimum (min (total - d.rightMinimum) (position.toNat - start))

/-- The state of a drag while the splits around stay as they are: the neighbours share the same
    cells of the same hole, and the divider is at `cell`. -/
structure Dragged (d : Divider) (around : List Enclosing) (size : TerminalSize)
    (inside : UInt16 × UInt16) (before after : List UInt16) (total : Nat) (hole : Rect)
    (layout : ViewLayout) (cell : Int) (weights : List UInt32) (first second : UInt16)
    (panes : List PaneGeometry) : Prop where
  layout_eq : layout = plug (d.reweigh weights) around
  on : d.On around (cells size) weights inside before first second after
  sum : first.toNat + second.toNat = total
  ok : (plug (d.reweigh weights) around).paneGeometry size = .ok panes
  inHole : InHole around (d.reweigh weights) hole panes
  steady : Steady around (cells size) d.layout (d.reweigh weights)
  cell : first.toNat = cell

section
variable {splitPath : List UInt16} {boundary : UInt16} {size : TerminalSize} {layout layout' : ViewLayout}
  {around : List Enclosing} {d : Divider} {weights weights' : List UInt32} {inside : UInt16 × UInt16}
  {before after : List UInt16} {first second first' second' : UInt16}
  {panes panes' : List PaneGeometry} {hole : Rect} {total : Nat} {cell cell' : Int}

lemma Dragged.step (settled : d.Settled around (cells size)) (levels : splitPath.length ≤ 16)
    (path : Follows splitPath around) (at_ : d.before.length = boundary.toNat)
    (h : Dragged d around size inside before after total hole layout cell weights first second panes)
    (position : UInt16) :
    (resizeDividerInPlace splitPath boundary position size layout).1
        = .ok (decide (d.closest (d.start hole before) total position ≠ cell)) ∧
      ∃ weights' first' second' panes', Dragged d around size inside before after total hole
        (resizeDividerInPlace splitPath boundary position size layout).2
        (d.closest (d.start hole before) total position) weights' first' second' panes' := by
  have moves : first.toNat + d.shiftTo hole before first second position
      = d.closest (d.start hole before) total position := by
    have sum := h.sum
    unfold Divider.shiftTo Divider.shift Divider.closest
    omega
  have cell := h.cell
  rw [h.layout_eq, resizeDividerInPlace_here h.on levels path at_ h.ok h.inHole]
  split
  case isTrue zero =>
    refine ⟨?_, weights, first, second, panes, rfl, h.on, h.sum, h.ok, h.inHole, h.steady, by omega⟩
    rw [decide_eq_false (by omega)]
  case isFalse nonzero =>
    refine ⟨by rw [decide_eq_true (by omega)], ?_⟩
    obtain ⟨first', second', moved, value, sum, hleft, hright⟩ := h.on.extents.shift_bounds
      (position.toNat - (d.start hole before + first.toNat : Nat))
    have extents := h.on.extents.move sum hleft hright
    obtain ⟨panes', ok'⟩ := h.on.extents.exists_moved
      (position.toNat - (d.start hole before + first.toNat : Nat)) h.ok
    rw [Divider.movedBy, moved] at ok'
    have ne : (before ++ first' :: second' :: after).map (fun extent => UInt32.ofNat extent.toNat)
        ≠ [] := by simp
    have steady := (Divider.settled_iff ne).1 settled
    have onward : Steady around (cells size) (d.reweigh weights) (d.reweigh _) :=
      steady.trans h.steady.symm
    obtain ⟨hole', inHole, inHole', -⟩ := h.on.moves extents sum h.ok ok' onward
    obtain rfl := h.inHole.unique inHole
    obtain ⟨below, hbelow⟩ := h.on.around
    refine ⟨_, first', second', panes', ?_, ⟨⟨below, onward.trans hbelow⟩, extents⟩,
      sum.trans h.sum, ok', inHole', steady, ?_⟩
    · change plug (d.movedBy before first second after _) around = _
      rw [Divider.movedBy, Divider.shiftTo, moved]
    · rw [value, ← moves]
      rfl

lemma Dragged.rest (levels : splitPath.length ≤ 16) (path : Follows splitPath around)
    (at_ : d.before.length = boundary.toNat)
    (h : Dragged d around size inside before after total hole layout cell weights first second panes)
    {position : UInt16} (same : d.closest (d.start hole before) total position = cell) :
    resizeDividerInPlace splitPath boundary position size layout = (.ok false, layout) := by
  have zero : d.shiftTo hole before first second position = 0 := by
    have sum := h.sum
    have cell := h.cell
    obtain ⟨hleft, hright, -⟩ := h.on.extents.bounds
    unfold Divider.closest at same
    unfold Divider.shiftTo Divider.shift
    omega
  rw [h.layout_eq, resizeDividerInPlace_here h.on levels path at_ h.ok h.inHole, if_pos zero]

lemma Dragged.run (settled : d.Settled around (cells size)) (levels : splitPath.length ≤ 16)
    (path : Follows splitPath around) (at_ : d.before.length = boundary.toNat)
    (h : Dragged d around size inside before after total hole layout cell weights first second panes)
    (positions : List UInt16) :
    ∃ cell weights first second panes, Dragged d around size inside before after total hole
      (drag splitPath boundary size positions layout) cell weights first second panes := by
  induction positions generalizing layout cell weights first second panes with
  | nil => exact ⟨cell, weights, first, second, panes, h⟩
  | cons position positions ih =>
    obtain ⟨-, weights', first', second', panes', h'⟩ := h.step settled levels path at_ position
    exact ih h'

lemma Dragged.geometry_eq
    (h : Dragged d around size inside before after total hole layout cell weights first second panes)
    (h' : Dragged d around size inside before after total hole layout' cell weights' first' second'
      panes') : layout.paneGeometry size = layout'.paneGeometry size := by
  have cell := h.cell
  have cell' := h'.cell
  have sum := h.sum
  have sum' := h'.sum
  obtain rfl : first = first' := UInt16.toNat_inj.1 (by omega)
  obtain rfl : second = second' := UInt16.toNat_inj.1 (by omega)
  have same : Steady around (cells size) (d.reweigh weights) (d.reweigh weights') :=
    h'.steady.trans h.steady.symm
  obtain ⟨hole', inside', left, here, here', right, rfl, rfl, placed, placed', inHole⟩ :=
    (paneGeometry_placed h.ok).plug_steady (paneGeometry_placed h'.ok) (hasSize_canvas size)
      (fits_of_paneGeometry h.ok) same
  obtain ⟨extents, hextents⟩ := inHole.extents
  obtain ⟨extents', hextents'⟩ := h.on.around
  obtain ⟨-, rfl⟩ := Prod.mk.inj (Except.ok.inj (hextents'.symm.trans hextents))
  rw [h.layout_eq, h'.layout_eq, h.ok, h'.ok,
    h.on.extents.placed_eq h'.on.extents placed placed' inHole.size]

end

section
variable {splitPath : List UInt16} {boundary : UInt16} {size : TerminalSize} {layout : ViewLayout}
  {around : List Enclosing} {d : Divider}

lemma Addresses.dragged (h : Addresses splitPath boundary size layout around d) :
    ∃ inside before after total hole cell first second panes,
      Dragged d around size inside before after total hole layout cell d.weights first second panes := by
  obtain ⟨panes, ok⟩ : ∃ panes, layout.paneGeometry size = .ok panes := by
    have room := h.room
    cases geometry : layout.paneGeometry size with
    | ok panes => exact ⟨panes, rfl⟩
    | error e =>
      rw [geometry] at room
      cases room
  rw [h.layout_eq] at ok
  obtain ⟨inside, before, first, second, after, on⟩ := Divider.exists_on ok
  obtain ⟨hole, inHole, -, -⟩ := on.moves on.extents rfl ok ok rfl
  exact ⟨inside, before, after, _, hole, _, first, second, panes, h.layout_eq, on, rfl, ok, inHole,
    rfl, rfl⟩

end

lemma placeDivider_fails_or {layout : ViewLayout} (within : bounds.Within) (placed : Placed layout bounds.rect panes) :
    (∀ position, ∃ e, placeDivider boundary position splitPath bounds layout = .error e) ∨
      ∃ (around : List Enclosing) (d : Divider), layout = plug d.layout around ∧
        Follows splitPath around ∧ d.before.length = boundary := by
  induction layout generalizing splitPath bounds panes with
  | terminal id => exact .inl fun position => ⟨_, rfl⟩
  | split axis children weights ih =>
    have divided : ∃ extents, splitExtents axis children weights (bounds.length axis) = .ok extents ∧
        extents.length = children.length := by
      cases placed with
      | split length extents hlength divided placed =>
        obtain rfl : bounds.length axis = length :=
          UInt16.toNat_inj.1 ((bounds.hasSize.pick axis).trans hlength.symm)
        obtain ⟨-, -, -, len, -⟩ := splitExtents_eq_ok divided
        exact ⟨extents, divided, len⟩
    obtain ⟨extents, divided, len⟩ := divided
    cases splitPath with
    | nil =>
      by_cases absent : children.length ≤ boundary + 1
      · refine .inl fun position => ⟨.err "divider boundary is absent from split", ?_⟩
        rw [placeDivider, divided, Res.ok_bind]
        exact if_pos absent
      · obtain ⟨before, left, right, after, rfl, length⟩ := exists_neighbours
          (l := children) (k := boundary) (m := children.length - boundary - 2) (by omega)
        exact .inr ⟨[], ⟨axis, before, left, right, after, weights⟩, rfl, rfl, length⟩
    | cons index remaining =>
      by_cases absent : children.length ≤ index.toNat
      · refine .inl fun position => ⟨.err "divider split path child is absent", ?_⟩
        rw [placeDivider, divided, Res.ok_bind]
        dsimp only
        rw [List.getElem?_eq_none (by omega)]
        rfl
      · have lt : index.toNat < children.length := by omega
        obtain ⟨before, child, after, rfl, length⟩ : ∃ before child after,
            children = before ++ child :: after ∧ before.length = index.toNat :=
          ⟨children.take index.toNat, children[index.toNat], children.drop (index.toNat + 1),
            by rw [List.getElem_cons_drop, List.take_append_drop],
            by rw [List.length_take]; omega⟩
        have fill : ViewLayout.split axis (before ++ child :: after) weights
            = Enclosing.fill ⟨axis, before, after, weights⟩ child := rfl
        rw [fill] at placed
        obtain ⟨beforeExtents, afterExtents, extent, left, here, right, rfl, parts⟩ :=
          placed.parts bounds.hasSize
        obtain ⟨inside, hwithin, hrect, -, step⟩ :=
          placeDivider_fill parts within (show index.toNat = before.length from length.symm)
        have deeper := parts.here
        rw [← hrect] at deeper
        rcases ih child (by simp) hwithin deeper with fails | addressed
        · refine .inl fun position => ?_
          obtain ⟨e, fails⟩ := fails position
          rw [fill, step, fails]
          exact ⟨e, rfl⟩
        · obtain ⟨around, d, rfl, path, boundary⟩ := addressed
          refine .inr ⟨⟨axis, before, after, weights⟩ :: around, d, rfl, ?_, boundary⟩
          rw [Follows, List.map_cons, List.map_cons, path, length]

/-! ### The contract -/

/-- What a drag is for: whatever the positions before the last one, the canvas looks as after the
    last one alone, the divider is as close to it as the neighbours' minima allow, and asking again
    changes nothing. A call that fails leaves every layout as it was. -/
def PathIndependent (splitPath : List UInt16) (boundary : UInt16) (size : TerminalSize) (layout : ViewLayout) : Prop :=
  (∀ layout' position e,
    (resizeDividerInPlace splitPath boundary position size layout').1 = .error e →
      (resizeDividerInPlace splitPath boundary position size layout').2 = layout') ∧
  ∀ positions last,
    let dragged := drag splitPath boundary size (positions ++ [last]) layout
    dragged.paneGeometry size = (drag splitPath boundary size [last] layout).paneGeometry size ∧
    (∀ changed, (resizeDividerInPlace splitPath boundary last size dragged).1 = .ok changed →
      changed = false ∧ (resizeDividerInPlace splitPath boundary last size dragged).2 = dragged) ∧
    ∀ around d, Addresses splitPath boundary size layout around d → ∃ panes panes' r cell cell',
      layout.paneGeometry size = .ok panes ∧ dragged.paneGeometry size = .ok panes' ∧
      Moves around d r cell cell' panes panes' ∧
      (cell' : Int) = d.closest (d.axis.pick (r.left, r.top)) (r.length d.axis - 1) last

/-- Both neighbours are at their minima already. -/
def Divider.Stuck (d : Divider) (around : List Enclosing) (size : UInt16 × UInt16) : Prop :=
  ∃ inside before first second after, d.On around size d.weights inside before first second after ∧
    first.toNat = d.leftMinimum ∧ second.toNat = d.rightMinimum

section
variable {splitPath : List UInt16} {boundary : UInt16} {size : TerminalSize} {layout : ViewLayout}
  {around : List Enclosing} {d : Divider} {weights : List UInt32} {panes : List PaneGeometry} {inside : UInt16 × UInt16}
  {total : Nat} {hole : Rect} {cell : Int} {first second : UInt16}

lemma drag_concat (positions : List UInt16) (last : UInt16) :
    drag splitPath boundary size (positions ++ [last]) layout
      = (resizeDividerInPlace splitPath boundary last size
        (drag splitPath boundary size positions layout)).2 := by
  rw [drag, List.foldl_append]
  rfl

lemma drag_still (positions : List UInt16)
    (still : ∀ position, (resizeDividerInPlace splitPath boundary position size layout).2 = layout) :
    drag splitPath boundary size positions layout = layout := by
  induction positions with
  | nil => rfl
  | cons position positions ih =>
    rw [drag, List.foldl_cons, still position]
    exact ih

lemma closest_slice (hole : Rect) (before : List UInt16) (total : Nat) (position : UInt16) :
    d.closest (d.axis.pick ((hole.slice d.axis (offsetAfter 0 before) (total + 1)).left,
        (hole.slice d.axis (offsetAfter 0 before) (total + 1)).top))
      ((hole.slice d.axis (offsetAfter 0 before) (total + 1)).length d.axis - 1) position
      = d.closest (d.start hole before) total position := by
  rw [Rect.length_slice, Nat.add_sub_cancel, Divider.start]
  cases d.axis <;> rfl

lemma Addresses.independent (h : Addresses splitPath boundary size layout around d)
    (moves : d.Stuck around (cells size) ∨ d.Settled around (cells size)) (positions : List UInt16) (last : UInt16) :
    (drag splitPath boundary size (positions ++ [last]) layout).paneGeometry size
      = (drag splitPath boundary size [last] layout).paneGeometry size ∧
    resizeDividerInPlace splitPath boundary last size
        (drag splitPath boundary size (positions ++ [last]) layout)
      = (.ok false, drag splitPath boundary size (positions ++ [last]) layout) ∧
    ∃ panes panes' r cell cell', layout.paneGeometry size = .ok panes ∧
      (drag splitPath boundary size (positions ++ [last]) layout).paneGeometry size = .ok panes' ∧
      Moves around d r cell cell' panes panes' ∧
      (cell' : Int) = d.closest (d.axis.pick (r.left, r.top)) (r.length d.axis - 1) last := by
  obtain ⟨inside, before, after, total, hole, cell, first, second, panes, start⟩ := h.dragged
  have ok := start.ok
  change (plug d.layout around).paneGeometry size = .ok panes at ok
  rw [← h.layout_eq] at ok
  rcases moves with stuck | settled
  case inl =>
    obtain ⟨inside', before', first', second', after', on, left, right⟩ := stuck
    obtain ⟨rfl, rfl, rfl, rfl, rfl⟩ := start.on.unique on
    have same (position : UInt16) : d.closest (d.start hole before) total position = cell := by
      have sum := start.sum
      have cell := start.cell
      unfold Divider.closest
      omega
    have rest (position : UInt16) := start.rest h.levels h.path h.boundary (same position)
    have still (positions : List UInt16) : drag splitPath boundary size positions layout = layout :=
      drag_still positions fun position => by rw [rest position]
    rw [still, still]
    obtain ⟨hole', inHole, -, moves⟩ := start.on.moves start.on.extents rfl start.ok start.ok rfl
    obtain rfl := start.inHole.unique inHole
    refine ⟨rfl, rest last, panes, panes, _, _, _, ok, ok, moves, ?_⟩
    rw [start.sum, closest_slice, same, start.cell]
  case inr =>
    obtain ⟨cell₁, weights₁, first₁, second₁, panes₁, before_⟩ :=
      start.run settled h.levels h.path h.boundary positions
    obtain ⟨-, weights₂, first₂, second₂, panes₂, dragged⟩ :=
      before_.step settled h.levels h.path h.boundary last
    obtain ⟨-, weights₃, first₃, second₃, panes₃, alone⟩ :=
      start.step settled h.levels h.path h.boundary last
    rw [← drag_concat] at dragged
    refine ⟨dragged.geometry_eq alone, dragged.rest h.levels h.path h.boundary rfl, ?_⟩
    obtain ⟨hole', inHole, -, moves⟩ := start.on.moves dragged.on.extents
      (dragged.sum.trans start.sum.symm) start.ok dragged.ok dragged.steady
    obtain rfl := start.inHole.unique inHole
    refine ⟨panes, panes₂, _, _, _, ok, ?_, moves, ?_⟩
    · rw [dragged.layout_eq, dragged.ok]
    · rw [start.sum, closest_slice, dragged.cell]

lemma steady_of_geometry {weights' : List UInt32}
    (ok : (plug (d.reweigh weights) around).paneGeometry size = .ok panes)
    (ok' : (plug (d.reweigh weights') around).paneGeometry size = .ok panes) :
    Steady around (cells size) (d.reweigh weights) (d.reweigh weights') := by
  have placed := paneGeometry_placed ok
  have placed' := paneGeometry_placed ok'
  have ids := placed.terminalIds
  rw [terminalIds_plug] at ids
  obtain ⟨left, rest, rfl, hleft, ids⟩ := List.map_eq_append_iff.1 ids
  obtain ⟨here, right, rfl, -, hright⟩ := List.map_eq_append_iff.1 ids
  exact placed.steady placed' hleft hright (hasSize_canvas size)

lemma Dragged.start_lt {before after : List UInt16} (path : Follows splitPath around)
    (h : Dragged d around size inside before after total hole layout cell weights first second panes) :
    d.start hole before + first.toNat + 1 < 2 ^ 16 := by
  have within : LayoutBounds.Within ⟨0, 0, size.columns, size.rows⟩ :=
    ⟨by simpa using size.columns.toNat_lt, by simpa using size.rows.toNat_lt⟩
  obtain ⟨bounds, hwithin, inBounds, ⟨extents, hextents⟩, -⟩ :=
    placeDivider_plug within (paneGeometry_placed h.ok) path
  obtain rfl := h.inHole.unique inBounds
  obtain ⟨extents', hextents'⟩ := h.on.around
  obtain ⟨-, rfl⟩ := Prod.mk.inj (Except.ok.inj (hextents'.symm.trans hextents))
  obtain ⟨-, -, -, -, sum⟩ := splitExtents_eq_ok h.on.extents.divided
  have length := h.on.extents.length
  simp only [List.map_append, List.map_cons, List.sum_append, List.sum_cons, Divider.children,
    List.length_append, List.length_cons] at sum
  have fits : d.axis.pick (bounds.rect.left, bounds.rect.top) + (d.axis.pick bounds.size).toNat
      < 2 ^ 16 := by
    cases d.axis with
    | horizontal => exact hwithin.1
    | vertical => exact hwithin.2
  obtain ⟨-, right, -⟩ := h.on.extents.bounds
  have pos : 1 ≤ d.rightMinimum := h.on.extents.pos d.right (by simp [Divider.children])
  rw [Divider.start, offsetAfter]
  omega

lemma Dragged.hasSize {before after : List UInt16}
    (h : Dragged d around size inside before after total hole layout cell weights first second panes) :
    hole.HasSize inside := by
  obtain ⟨hole', inside', left, here, _, right, eq, -, inHole, -, hole_⟩ :=
    (paneGeometry_placed h.ok).plug_steady (paneGeometry_placed h.ok) (hasSize_canvas size)
      (fits_of_paneGeometry h.ok) rfl
  obtain rfl := h.inHole.unique ⟨left, here, right, eq, hole_.left, inHole⟩
  obtain ⟨extents, around_⟩ := h.on.around
  obtain ⟨extents', around'⟩ := hole_.extents
  obtain ⟨-, rfl⟩ := Prod.mk.inj (Except.ok.inj (around'.symm.trans around_))
  exact hole_.size

lemma Divider.moved_ne_nil {before after : List UInt16} {shift : Int} :
    (Divider.moved before first second after shift).map (fun extent => UInt32.ofNat extent.toNat)
      ≠ [] := by
  simp [Divider.moved]

lemma resizeDividerInPlace_weights (ne : weights ≠ []) (levels : splitPath.length ≤ 16)
    (path : Follows splitPath around) (at_ : d.before.length = boundary.toNat)
    (ok : (plug (d.reweigh weights) around).paneGeometry size = .ok panes) (position : UInt16) :
    ∃ weights' ≠ [], (resizeDividerInPlace splitPath boundary position size
      (plug (d.reweigh weights) around)).2 = plug (d.reweigh weights') around := by
  obtain ⟨inside, before, first, second, after, on⟩ := Divider.exists_on ok
  obtain ⟨hole, inHole, -, -⟩ := on.moves on.extents rfl ok ok rfl
  rw [resizeDividerInPlace_here on levels path at_ ok inHole]
  split
  · exact ⟨weights, ne, rfl⟩
  · exact ⟨_, Divider.moved_ne_nil, rfl⟩

lemma Addresses.settled (h : Addresses splitPath boundary size layout around d)
    (independent : PathIndependent splitPath boundary size layout)
    (free : ¬ d.Stuck around (cells size)) : d.Settled around (cells size) := by
  obtain ⟨inside, before, after, total, hole, cell, first, second, panes, start⟩ := h.dragged
  obtain ⟨hleft, hright, -⟩ := start.on.extents.bounds
  have lt := start.start_lt h.path
  have sum := start.sum
  have cell_ := start.cell
  have pos : 1 ≤ d.leftMinimum := start.on.extents.pos d.left (by simp [Divider.children])
  -- The cell where the divider is, and a neighbouring one it can move to.
  obtain ⟨current, hcurrent⟩ : ∃ current : UInt16, current.toNat = d.start hole before + first.toNat :=
    ⟨UInt16.ofNat (d.start hole before + first.toNat), toNat_ofNat_u16 (by omega)⟩
  have stay : d.closest (d.start hole before) total current = cell := by
    unfold Divider.closest
    omega
  obtain ⟨away, nonzero⟩ : ∃ away : UInt16, d.shiftTo hole before first second away ≠ 0 := by
    by_cases left : first.toNat = d.leftMinimum
    · have right : second.toNat ≠ d.rightMinimum := by
        intro right
        exact free ⟨inside, before, first, second, after, start.on, left, right⟩
      refine ⟨UInt16.ofNat (d.start hole before + first.toNat + 1), ?_⟩
      have value := toNat_ofNat_u16 lt
      unfold Divider.shiftTo Divider.shift
      omega
    · refine ⟨UInt16.ofNat (d.start hole before + first.toNat - 1), ?_⟩
      have value := toNat_ofNat_u16 (n := d.start hole before + first.toNat - 1) (by omega)
      unfold Divider.shiftTo Divider.shift
      omega
  obtain ⟨same, -⟩ := independent.2 [away] current
  have back := start.rest h.levels h.path h.boundary stay
  have there := resizeDividerInPlace_here start.on h.levels h.path h.boundary start.ok start.inHole away
  rw [if_neg nonzero, ← start.layout_eq] at there
  obtain ⟨panes', ok'⟩ := start.on.extents.exists_moved
    (away.toNat - (d.start hole before + first.toNat : Nat)) start.ok
  obtain ⟨weights, ne, dragged⟩ := resizeDividerInPlace_weights Divider.moved_ne_nil h.levels h.path
    h.boundary ok' current
  rw [Divider.settled_iff ne]
  refine steady_of_geometry start.ok ?_
  -- The drag ends with weights and the panes of the original layout.
  have ends : drag splitPath boundary size ([away] ++ [current]) layout
      = plug (d.reweigh weights) around := by
    rw [drag_concat, ← dragged, drag, List.foldl_cons, List.foldl_nil, there]
    rfl
  rw [ends, drag, List.foldl_cons, List.foldl_nil, back] at same
  rw [same, start.layout_eq, start.ok]

/-- A drag meets its contract exactly when the splits around the addressed divider divide the canvas
    in the same way whether its split has weights or not, unless the divider cannot move. -/
theorem drag_iff (splitPath : List UInt16) (boundary : UInt16) (size : TerminalSize) (layout : ViewLayout) :
    PathIndependent splitPath boundary size layout ↔
      ∀ around d, Addresses splitPath boundary size layout around d →
        d.Stuck around (cells size) ∨ d.Settled around (cells size) := by
  constructor
  · intro independent around d h
    by_cases stuck : d.Stuck around (cells size)
    · exact .inl stuck
    · exact .inr (h.settled independent stuck)
  intro moves
  constructor
  · intro layout' position e failed
    rw [resizeDividerInPlace_eq] at failed ⊢
    cases resize : layout'.resizeDivider splitPath boundary position size with
    | ok result =>
      rw [resize] at failed
      cases failed
    | error e => rfl
  intro positions last
  by_cases addressed : ∃ around d, Addresses splitPath boundary size layout around d
  · obtain ⟨around, d, h⟩ := addressed
    obtain ⟨same, rest, -⟩ := h.independent (moves around d h) positions last
    refine ⟨same, ?_, fun around d h => ?_⟩
    · intro changed result
      rw [rest] at result ⊢
      exact ⟨(Except.ok.inj result).symm, rfl⟩
    · obtain ⟨-, -, end_⟩ := h.independent (moves around d h) positions last
      exact end_
  · -- Every call fails.
    have fails : ∀ position, ∃ e, resizeDividerInPlace splitPath boundary position size layout
        = (.error e, layout) := by
      intro position
      rw [resizeDividerInPlace_eq, resizeDivider]
      by_cases levels : 16 < splitPath.length
      · rw [if_pos levels]
        exact ⟨_, rfl⟩
      rw [if_neg levels]
      cases geometry : layout.paneGeometry size with
      | error e => exact ⟨e, rfl⟩
      | ok panes =>
        have within : LayoutBounds.Within ⟨0, 0, size.columns, size.rows⟩ :=
          ⟨by simpa using size.columns.toNat_lt, by simpa using size.rows.toNat_lt⟩
        rcases placeDivider_fails_or within (paneGeometry_placed geometry) with fails | found
        · obtain ⟨e, fails⟩ := fails position
          rw [Res.ok_bind, fails]
          exact ⟨e, rfl⟩
        · obtain ⟨around, d, layout_eq, path, boundary⟩ := found
          exact absurd ⟨around, d, layout_eq, path, by omega, boundary, by rw [geometry]; rfl⟩
            addressed
    have still (positions : List UInt16) : drag splitPath boundary size positions layout = layout :=
      drag_still positions fun position => by
        obtain ⟨e, fails⟩ := fails position
        rw [fails]
    rw [still, still]
    refine ⟨rfl, ?_, fun around d h => absurd ⟨around, d, h⟩ addressed⟩
    intro changed result
    obtain ⟨e, fails⟩ := fails last
    rw [fails] at result
    cases result

end

/-- Dragging a divider of equal shares one cell away and back leaves the column at 11 columns
    instead of 17. -/
theorem drag_away_and_back : ¬ PathIndependent [0, 0] 0 ⟨40, 10, 0, 0⟩ (shares []) := by
  intro independent
  obtain ⟨same, -⟩ := independent.2 [4] 5
  revert same
  decide +kernel

end Ctl.Proto.ViewLayout
