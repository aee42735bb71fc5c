import Ctl.Proto.Resize

/-!
# Directional pane resize

`resize_pane` as the method it is in the source, with the layout it leaves behind on every path
(`resizePaneInPlace`), and what it does to the panes of a canvas. `ResizesPane` is the contract of
the method: the nearest divider of the requested axis moves as far as it may, nothing else does.
`resizePane_iff` says exactly when the code meets it. A split that had no weights has a smaller
minimum after the move, and a weighted split around it that had clamped it to the old minimum
divides its length anew, so that panes outside the neighbours move as well.
-/

namespace Ctl.Proto
open Ctl.Base

/-- The axis a direction moves dividers along (Rust `requested_horizontal`). -/
def ResizeDirection.axis (direction : ResizeDirection) : SplitAxis :=
  match direction with
  | .left | .right => .horizontal
  | .up | .down => .vertical

def ResizeDirection.delta (direction : ResizeDirection) (amount : UInt16) : Int :=
  match direction with
  | .right | .down => amount.toNat
  | .left | .up => -amount.toNat

namespace ViewLayout

/-! ### The methods of the source -/

/-- `move_boundary` on the weights of a split: they are written at its end, or not at all. -/
def moveBoundaryInPlace (axis : SplitAxis) (children : List ViewLayout) (extents : List UInt16)
    (boundary : Nat) (delta : Int) (weights : List UInt32) : Res String Bool × List UInt32 :=
  match moveBoundary axis children weights extents boundary delta with
  | .ok (changed, weights) => (.ok changed, weights)
  | .error e => (.error e, weights)

mutual
/-- `move_divider`: what it returns, and the layout it leaves behind. -/
def moveDividerInPlace (id : String) (direction : ResizeDirection) (amount : UInt16)
    (columns rows : UInt16) : ViewLayout → Res String (Option Bool) × ViewLayout
  | .terminal terminalId => (.ok none, .terminal terminalId)
  | .split axis children weights =>
    match children.findIdx? (·.containsTerminal id) with
    | none => (.fail "resize terminal is absent from split", .split axis children weights)
    | some selected =>
      match (do
        let extents ← splitExtents axis children weights (axis.pick (columns, rows))
        let extent ← at? extents selected
        return (extents, extent) : Res String (List UInt16 × UInt16)) with
      | .error e => (.error e, .split axis children weights)
      | .ok (extents, extent) =>
        let (childColumns, childRows) := axis.put extent (columns, rows)
        match moveDividerAtInPlace id direction amount childColumns childRows children selected with
        | (.error e, children) => (.error e, .split axis children weights)
        | (.ok (some changed), children) => (.ok (some changed), .split axis children weights)
        | (.ok none, children) =>
          let requestedHorizontal := direction = .left ∨ direction = .right
          if ¬ (axis = .horizontal ↔ requestedHorizontal) ∨ children.length < 2 then
            (.ok none, .split axis children weights)
          else
            let boundary := min selected (children.length - 2)
            let delta : Int := if direction = .right ∨ direction = .down then amount.toNat
              else -amount.toNat
            let (changed, weights) := moveBoundaryInPlace axis children extents boundary delta weights
            (changed.map some, .split axis children weights)
/-- `moveDividerInPlace` on one child of a list. -/
def moveDividerAtInPlace (id : String) (direction : ResizeDirection) (amount : UInt16) (columns rows : UInt16) :
    List ViewLayout → (index : Nat) → Res String (Option Bool) × List ViewLayout
  | [], _ => (.panic, [])
  | child :: children, 0 =>
    let (changed, child) := moveDividerInPlace id direction amount columns rows child
    (changed, child :: children)
  | child :: children, index + 1 =>
    let (changed, children) :=
      moveDividerAtInPlace id direction amount columns rows children index
    (changed, child :: children)
end

/-- `resize_pane`: what it returns, and the layout it leaves behind. -/
def resizePaneInPlace (id : String) (direction : ResizeDirection) (amount : UInt16)
    (size : TerminalSize) (layout : ViewLayout) : Res String Bool × ViewLayout :=
  if amount = 0 then (.fail "pane resize amount must be positive", layout)
  else if !layout.containsTerminal id then
    (.fail "resize terminal must belong to the attached view", layout)
  else
    match layout.paneGeometry size with
    | .error e => (.error e, layout)
    | .ok _ =>
      let (changed, layout) := moveDividerInPlace id direction amount size.columns size.rows layout
      (changed.map fun changed => changed.getD false, layout)

def stepDivider (direction : ResizeDirection) (amount : UInt16) (axis : SplitAxis) (children : List ViewLayout)
    (weights : List UInt32) (extents : List UInt16) (selected : Nat) : Res String (Option (Bool × ViewLayout)) :=
  if ¬ (axis = .horizontal ↔ direction = .left ∨ direction = .right) ∨ children.length < 2 then
    .ok none
  else do
    let (changed, weights) ← moveBoundary axis children weights extents
      (min selected (children.length - 2))
      (if direction = .right ∨ direction = .down then amount.toNat else -amount.toNat)
    .ok (some (changed, .split axis children weights))

lemma moveDivider_split (id : String) (direction : ResizeDirection) (amount columns rows : UInt16)
    (axis : SplitAxis) (children : List ViewLayout) (weights : List UInt32) :
    moveDivider id direction amount columns rows (.split axis children weights)
      = (match children.findIdx? (·.containsTerminal id) with
        | none => .fail "resize terminal is absent from split"
        | some selected => do
          let extents ← splitExtents axis children weights (axis.pick (columns, rows))
          let extent ← at? extents selected
          match ← moveDividerAt id direction amount (axis.put extent (columns, rows)).1
            (axis.put extent (columns, rows)).2 children selected with
          | some (changed, children) => .ok (some (changed, .split axis children weights))
          | none => stepDivider direction amount axis children weights extents selected) := by
  rw [moveDivider]
  cases axis <;> rfl

/-- What a method returns and leaves behind, from a function that returns the changed value. -/
def left {σ : Type} (result : Res String (Option (Bool × σ))) (s : σ) : Res String (Option Bool) × σ :=
  match result with
  | .ok (some (changed, s)) => (.ok (some changed), s)
  | .ok none => (.ok none, s)
  | .error e => (.error e, s)

variable {id : String} {direction : ResizeDirection} {amount : UInt16} {inner : ViewLayout} {e : Enclosing}
  {size inside : UInt16 × UInt16} {around : List Enclosing} {columns rows : UInt16} {extents : List (List UInt16)}

lemma moveDividerAtInPlace_eq {children : List ViewLayout} {index : Nat}
    (child : ∀ child ∈ children, moveDividerInPlace id direction amount columns rows child
      = left (moveDivider id direction amount columns rows child) child) :
    moveDividerAtInPlace id direction amount columns rows children index
      = left (moveDividerAt id direction amount columns rows children index) children := by
  induction children generalizing index with
  | nil => rfl
  | cons first children ih =>
    cases index with
    | zero =>
      rw [moveDividerAtInPlace, moveDividerAt, child first List.mem_cons_self]
      rcases moveDivider id direction amount columns rows first with _ | _ | ⟨_, _⟩ <;> rfl
    | succ index =>
      rw [moveDividerAtInPlace, moveDividerAt, ih fun c hc => child c (List.mem_cons_of_mem _ hc)]
      rcases moveDividerAt id direction amount columns rows children index with _ | _ | ⟨_, _⟩ <;> rfl

lemma moveDividerInPlace_eq (id : String) (direction : ResizeDirection)
    (amount columns rows : UInt16) (layout : ViewLayout) :
    moveDividerInPlace id direction amount columns rows layout
      = left (moveDivider id direction amount columns rows layout) layout := by
  induction layout generalizing columns rows with
  | terminal id => rfl
  | split axis children weights ih =>
    rw [moveDividerInPlace, moveDivider_split]
    cases children.findIdx? (·.containsTerminal id) with
    | none => rfl
    | some selected =>
      dsimp only
      cases splitExtents axis children weights (axis.pick (columns, rows)) with
      | error e => rfl
      | ok extents =>
        simp only [Res.ok_bind]
        cases at? extents selected with
        | error e => rfl
        | ok extent =>
          have inside := fun c hc => ih c hc (axis.put extent (columns, rows)).1
            (axis.put extent (columns, rows)).2
          simp only [Res.ok_bind, Res.pure_eq, moveDividerAtInPlace_eq inside]
          rcases moveDividerAt id direction amount (axis.put extent (columns, rows)).1
            (axis.put extent (columns, rows)).2 children selected with e | _ | ⟨changed, children'⟩
          · rfl
          · simp only [left, Res.ok_bind, stepDivider]
            split
            · rfl
            · rw [moveBoundaryInPlace]
              rcases moveBoundary axis children weights extents _ _ with e | ⟨changed, weights'⟩
              · rfl
              · rfl
          · rfl

lemma resizePaneInPlace_eq (id : String) (direction : ResizeDirection) (amount : UInt16)
    (size : TerminalSize) (layout : ViewLayout) :
    resizePaneInPlace id direction amount size layout =
      match layout.resizePane id direction amount size with
      | .ok (changed, layout') => (.ok changed, layout')
      | .error e => (.error e, layout) := by
  unfold resizePaneInPlace resizePane
  split
  · rfl
  split
  · rfl
  cases layout.paneGeometry size with
  | error e => rfl
  | ok panes =>
    simp only [Res.ok_bind, moveDividerInPlace_eq]
    rcases moveDivider id direction amount size.columns size.rows layout with e | _ | ⟨_, _⟩
    · rfl
    · rfl
    · rfl

/-! ### The nearest divider -/

lemma containsTerminal_iff {layout : ViewLayout} : layout.containsTerminal id = true ↔ id ∈ layout.terminalIds := by
  rw [containsTerminal, List.contains_iff_mem]

lemma containsTerminal_plug (around : List Enclosing) (mem : inner.containsTerminal id = true) :
    (plug inner around).containsTerminal id = true := by
  rw [containsTerminal_iff, terminalIds_plug]
  exact List.mem_append_right _ (List.mem_append_left _ (containsTerminal_iff.1 mem))

def Enclosing.First (id : String) (e : Enclosing) : Prop :=
  ∀ child ∈ e.before, child.containsTerminal id = false

lemma Enclosing.First.findIdx? (first : e.First id) (mem : inner.containsTerminal id = true) :
    (e.children inner).findIdx? (·.containsTerminal id) = some e.before.length := by
  obtain ⟨axis, before, after, weights⟩ := e
  unfold Enclosing.children
  induction before with
  | nil => simp [List.findIdx?_cons, mem]
  | cons child before ih =>
    have here := first child List.mem_cons_self
    have rest := ih fun c hc => first c (List.mem_cons_of_mem _ hc)
    simp only [List.cons_append, List.findIdx?_cons, here, Bool.false_eq_true, if_false] at rest ⊢
    rw [rest]
    rfl

lemma moveDividerAt_append (before : List ViewLayout) (inner : ViewLayout) (after : List ViewLayout) :
    moveDividerAt id direction amount columns rows (before ++ inner :: after) before.length
      = (do
        match ← moveDivider id direction amount columns rows inner with
        | some (changed, inner) => .ok (some (changed, before ++ inner :: after))
        | none => .ok none) := by
  induction before with
  | nil => rfl
  | cons child before ih =>
    rw [List.cons_append, List.length_cons, moveDividerAt, ih]
    rcases moveDivider id direction amount columns rows inner with e | _ | ⟨changed, inner'⟩
    · rfl
    · rfl
    · rfl

lemma moveDivider_fill {extents : List UInt16} {extent : UInt16} (first : e.First id)
    (mem : inner.containsTerminal id = true)
    (divided : splitExtents e.axis (e.children inner) e.weights (e.axis.pick size) = .ok extents)
    (get : at? extents e.before.length = .ok extent) :
    moveDivider id direction amount size.1 size.2 (e.fill inner)
      = (do
        let result ← moveDivider id direction amount (e.axis.put extent size).1
          (e.axis.put extent size).2 inner
        match result with
        | some (changed, inner) => .ok (some (changed, e.fill inner))
        | none => (stepDivider direction amount e.axis (e.children inner) e.weights extents
            e.before.length)) := by
  rw [Enclosing.fill, moveDivider_split, first.findIdx? mem]
  dsimp only
  rw [divided, Res.ok_bind, get, Res.ok_bind, Enclosing.children, moveDividerAt_append]
  rcases moveDivider id direction amount _ _ inner with e | _ | ⟨changed, inner'⟩
  · rfl
  · rfl
  · rfl

def Enclosing.Offers (axis : SplitAxis) (e : Enclosing) : Prop :=
  e.axis = axis ∧ (e.before ≠ [] ∨ e.after ≠ [])

lemma stepDivider_none {extents : List UInt16} (lacks : ¬ e.Offers direction.axis) :
    stepDivider direction amount e.axis (e.children inner) e.weights extents e.before.length
      = .ok none := by
  apply if_pos
  by_contra offers
  push Not at offers
  obtain ⟨same, two⟩ := offers
  apply lacks
  constructor
  · revert same
    cases e.axis <;> cases direction <;> simp [ResizeDirection.axis]
  · by_contra alone
    push Not at alone
    obtain ⟨before, after⟩ := alone
    simp only [Enclosing.children, before, after, List.nil_append, List.length_singleton] at two
    omega

lemma moveDivider_plug {inner' : ViewLayout} {changed : Bool}
    (ok : extentsAround inner around size = .ok (extents, inside)) (first : ∀ e ∈ around, e.First id)
    (mem : inner.containsTerminal id = true)
    (moved : moveDivider id direction amount inside.1 inside.2 inner
      = .ok (some (changed, inner'))) :
    moveDivider id direction amount size.1 size.2 (plug inner around)
      = .ok (some (changed, plug inner' around)) := by
  induction around generalizing size extents with
  | nil =>
    cases ok
    exact moved
  | cons e around ih =>
    obtain ⟨here, hhere, ok⟩ := Res.bind_eq_ok ok
    obtain ⟨extent, hextent, ok⟩ := Res.bind_eq_ok ok
    obtain ⟨⟨rest, inside'⟩, hrest, ok⟩ := Res.bind_eq_ok ok
    cases ok
    have firstHere := first e List.mem_cons_self
    have deeper := ih hrest fun f hf => first f (List.mem_cons_of_mem _ hf)
    rw [plug, moveDivider_fill firstHere (containsTerminal_plug around mem) hhere hextent, deeper]
    rfl

lemma moveDivider_plug_none (ok : extentsAround inner around size = .ok (extents, inside))
    (first : ∀ e ∈ around, e.First id) (mem : inner.containsTerminal id = true)
    (lack : ∀ e ∈ around, ¬ e.Offers direction.axis)
    (still : moveDivider id direction amount inside.1 inside.2 inner = .ok none) :
    moveDivider id direction amount size.1 size.2 (plug inner around) = .ok none := by
  induction around generalizing size extents with
  | nil =>
    cases ok
    exact still
  | cons e around ih =>
    obtain ⟨here, hhere, ok⟩ := Res.bind_eq_ok ok
    obtain ⟨extent, hextent, ok⟩ := Res.bind_eq_ok ok
    obtain ⟨⟨rest, inside'⟩, hrest, ok⟩ := Res.bind_eq_ok ok
    cases ok
    have firstHere := first e List.mem_cons_self
    have deeper := ih hrest (fun f hf => first f (List.mem_cons_of_mem _ hf))
      fun f hf => lack f (List.mem_cons_of_mem _ hf)
    rw [plug, moveDivider_fill firstHere (containsTerminal_plug around mem) hhere hextent, deeper]
    exact stepDivider_none (lack e List.mem_cons_self)

/-- The divider that a directional resize of a terminal moves: in the innermost split around the
    first leaf with that terminal that has a divider of the axis, the one behind the child with the
    leaf, or before it when that child is the last. -/
def Nearest (id : String) (axis : SplitAxis) (layout : ViewLayout) (around : List Enclosing) (d : Divider) : Prop :=
  ∃ (e : Enclosing) (within : List Enclosing), layout = plug d.layout around ∧
    d.layout = e.fill (plug (.terminal id) within) ∧
    d.before.length = min e.before.length (d.children.length - 2) ∧
    (∀ f ∈ around ++ e :: within, f.First id) ∧ e.Offers axis ∧ ∀ f ∈ within, ¬ f.Offers axis

section
variable {id : String} {direction : ResizeDirection} {amount : UInt16} {layout : ViewLayout}
  {around : List Enclosing} {d : Divider} {size : TerminalSize} {panes : List PaneGeometry}

lemma stepDivider_eq {weights : List UInt32} {extents : List UInt16} {selected : Nat}
    (same : d.axis = direction.axis) (boundary : d.before.length = min selected (d.children.length - 2)) :
    stepDivider direction amount d.axis d.children weights extents selected
      = (do
        let (changed, weights) ← moveBoundary d.axis d.children weights extents d.before.length
          (direction.delta amount)
        .ok (some (changed, d.reweigh weights))) := by
  have two : ¬ d.children.length < 2 := by
    simp only [Divider.children, List.length_append, List.length_cons]
    omega
  have requested : ¬ (¬ (d.axis = .horizontal ↔ direction = .left ∨ direction = .right)
      ∨ d.children.length < 2) := by
    rw [same]
    cases direction <;> simpa [ResizeDirection.axis] using two
  rw [stepDivider, if_neg requested, boundary]
  have delta : (if direction = .right ∨ direction = .down then (amount.toNat : Int)
      else -amount.toNat) = direction.delta amount := by
    cases direction <;> rfl
  rw [delta]
  rfl

lemma Nearest.layout_eq {axis : SplitAxis} (h : Nearest id axis layout around d) : layout = plug d.layout around := by
  obtain ⟨e, within, layout, -⟩ := h
  exact layout

/-- What `move_divider` does at the nearest divider: nothing, or it writes the moved extents as
    weights. -/
lemma Nearest.moveDivider {inside : UInt16 × UInt16} {before after : List UInt16} {first second : UInt16}
    (h : Nearest id direction.axis layout around d) (ok : layout.paneGeometry size = .ok panes)
    (on : d.On around (cells size) d.weights inside before first second after) :
    moveDivider id direction amount size.columns size.rows layout =
      if d.shift first second (direction.delta amount) = 0 then .ok (some (false, layout))
      else .ok (some (true, plug (d.movedBy before first second after
        (d.shift first second (direction.delta amount))) around)) := by
  obtain ⟨e, within, rfl, fill, boundary, first', offers, lack⟩ := h
  obtain ⟨hole, here, placed, hsize⟩ := on.placed ok
  obtain ⟨extents, hextents⟩ := on.around
  have axis : d.axis = e.axis := (ViewLayout.split.inj fill).1
  have children : d.children = e.children (plug (.terminal id) within) :=
    (ViewLayout.split.inj fill).2.1
  have weights : d.weights = e.weights := (ViewLayout.split.inj fill).2.2
  have leaf : (ViewLayout.terminal id).containsTerminal id = true := by
    simp [containsTerminal, terminalIds]
  have mem := containsTerminal_plug within leaf
  -- Below the split there is nothing to move.
  have still : moveDivider id direction amount inside.1 inside.2 d.layout
      = stepDivider direction amount d.axis d.children d.weights
        (before ++ first :: second :: after) e.before.length := by
    have inHole := placed
    rw [← Divider.layout, fill] at inHole
    obtain ⟨before', after', extent, left, inner, right, rfl, parts⟩ := inHole.parts hsize
    obtain ⟨below, inside', hbelow⟩ :=
      parts.here.extentsAround_eq_ok (hsize.slice e.axis _ extent)
    have same : before' ++ extent :: after' = before ++ first :: second :: after := by
      have divided := on.extents.divided
      rw [axis, children, weights] at divided
      exact Except.ok.inj (parts.divided.symm.trans divided)
    have firstHere := first' e (List.mem_append_right _ List.mem_cons_self)
    have nothing : moveDivider id direction amount _ _ (plug (.terminal id) within) = .ok none :=
      moveDivider_plug_none hbelow
        (fun f hf => first' f (List.mem_append_right _ (List.mem_cons_of_mem _ hf))) leaf lack rfl
    rw [fill, moveDivider_fill firstHere mem parts.divided (at?_append parts.length), nothing,
      Res.ok_bind, axis, children, weights, same]
  rw [stepDivider_eq (axis.trans offers.1) boundary, on.extents.moveBoundary] at still
  have firstAround : ∀ f ∈ around, f.First id := fun f hf => first' f (List.mem_append_left _ hf)
  have here : d.layout.containsTerminal id = true := by
    rw [fill]
    exact containsTerminal_plug (e :: within) leaf
  split at still
  case isTrue zero =>
    rw [if_pos zero]
    exact moveDivider_plug hextents firstAround here still
  case isFalse nonzero =>
    rw [if_neg nonzero]
    exact moveDivider_plug hextents firstAround here still

lemma exists_path (mem : layout.containsTerminal id = true) :
    ∃ path, layout = plug (.terminal id) path ∧ ∀ f ∈ path, f.First id := by
  induction layout with
  | terminal terminalId =>
    rw [containsTerminal_iff, terminalIds, List.mem_singleton] at mem
    subst mem
    exact ⟨[], rfl, by simp⟩
  | split axis children weights ih =>
    have some : (children.find? (·.containsTerminal id)).isSome = true := by
      rw [containsTerminal_iff, terminalIds, terminalIdsAll_eq, List.mem_flatMap] at mem
      obtain ⟨child, hc, mem⟩ := mem
      rw [List.find?_isSome]
      exact ⟨child, hc, containsTerminal_iff.2 mem⟩
    obtain ⟨child, found⟩ := Option.isSome_iff_exists.1 some
    obtain ⟨here, before, after, rfl, first⟩ := List.find?_eq_some_iff_append.1 found
    obtain ⟨path, rfl, deeper⟩ := ih child (List.mem_of_find?_eq_some found) here
    refine ⟨⟨axis, before, after, weights⟩ :: path, rfl, ?_⟩
    intro f hf
    rcases List.mem_cons.1 hf with rfl | hf
    · intro c hc
      simpa using first c hc
    · exact deeper f hf

lemma exists_innermost (axis : SplitAxis) (path : List Enclosing) :
    (∀ f ∈ path, ¬ f.Offers axis) ∨ ∃ around e within, path = around ++ e :: within ∧
      e.Offers axis ∧ ∀ f ∈ within, ¬ f.Offers axis := by
  induction path with
  | nil => exact .inl (by simp)
  | cons f path ih =>
    rcases ih with lack | ⟨around, e, within, rfl, offers, lack⟩
    · by_cases offers : f.Offers axis
      · exact .inr ⟨[], f, path, rfl, offers, lack⟩
      · left
        intro g hg
        rcases List.mem_cons.1 hg with rfl | hg
        · exact offers
        · exact lack g hg
    · exact .inr ⟨f :: around, e, within, rfl, offers, lack⟩

lemma plug_append (inner : ViewLayout) (around within : List Enclosing) :
    plug inner (around ++ within) = plug (plug inner within) around := by
  induction around with
  | nil => rfl
  | cons e around ih => rw [List.cons_append, plug, plug, ih]

lemma exists_nearest (ok : layout.paneGeometry size = .ok panes) (mem : layout.containsTerminal id = true) :
    moveDivider id direction amount size.columns size.rows layout = .ok none ∨
      ∃ around d, Nearest id direction.axis layout around d := by
  obtain ⟨path, rfl, first⟩ := exists_path mem
  have leaf : (ViewLayout.terminal id).containsTerminal id = true := by
    simp [containsTerminal, terminalIds]
  rcases exists_innermost direction.axis path with lack | ⟨around, e, within, rfl, offers, lack⟩
  · left
    obtain ⟨extents, inside, hextents⟩ :=
      (paneGeometry_placed ok).extentsAround_eq_ok (hasSize_canvas size)
    exact moveDivider_plug_none hextents first leaf lack rfl
  · right
    have two : 2 ≤ (e.children (plug (.terminal id) within)).length := by
      simp only [Enclosing.children, List.length_append, List.length_cons]
      rcases offers.2 with before | after
      · have := List.length_pos_iff.2 before
        omega
      · have := List.length_pos_iff.2 after
        omega
    obtain ⟨before, left, right, after, children, length⟩ := exists_neighbours
      (l := e.children (plug (.terminal id) within))
      (k := min e.before.length ((e.children (plug (.terminal id) within)).length - 2))
      (m := (e.children (plug (.terminal id) within)).length
        - min e.before.length ((e.children (plug (.terminal id) within)).length - 2) - 2) (by omega)
    have fill : (⟨e.axis, before, left, right, after, e.weights⟩ : Divider).layout
        = e.fill (plug (.terminal id) within) := by
      rw [Enclosing.fill, children]
      rfl
    refine ⟨around, ⟨e.axis, before, left, right, after, e.weights⟩, e, within, ?_, fill, ?_, first,
      offers, lack⟩
    · rw [fill, plug_append]
      rfl
    · rw [length, children]
      rfl

end

/-! ### The contract -/

/-- Both neighbours reach their minima when the divider is `cell` cells into their rectangle. -/
def Divider.Room (d : Divider) (r : Rect) (cell : Nat) : Prop :=
  d.leftMinimum ≤ cell ∧ cell + 1 + d.rightMinimum ≤ r.length d.axis

def OnWay (start stop cell : Int) : Prop :=
  start ≤ cell ∧ cell ≤ stop ∨ stop ≤ cell ∧ cell ≤ start

/-- The farthest cell on the way of a requested move that leaves both neighbours their minima. -/
structure Farthest (d : Divider) (r : Rect) (cell : Nat) (delta : Int) (cell' : Nat) : Prop where
  room : d.Room r cell'
  onWay : OnWay cell (cell + delta) cell'
  farthest : ∀ c : Nat, d.Room r c → OnWay cell (cell + delta) c → OnWay cell cell' c

/-- What a directional resize is for: the nearest divider of the axis moves as far as it may up to
    the amount and no other pane changes, or the layout stays as it is. -/
def ResizesPane (layout : ViewLayout) (id : String) (direction : ResizeDirection)
    (amount : UInt16) (size : TerminalSize) : Prop :=
  match layout.resizePaneInPlace id direction amount size with
  | (.ok true, layout') =>
    ∃ panes panes', layout.paneGeometry size = .ok panes ∧ layout'.paneGeometry size = .ok panes' ∧
      (∃ around d, Nearest id direction.axis layout around d) ∧
      ∀ around d, Nearest id direction.axis layout around d → ∃ r cell cell',
        Moves around d r cell cell' panes panes' ∧ cell' ≠ cell ∧
        Farthest d r cell (direction.delta amount) cell'
  | (_, layout') => layout' = layout

def Divider.Blocked (d : Divider) (around : List Enclosing) (size : UInt16 × UInt16)
    (direction : ResizeDirection) : Prop :=
  ∃ inside before first second after, d.On around size d.weights inside before first second after ∧
    match direction with
    | .left | .up => first.toNat = d.leftMinimum
    | .right | .down => second.toNat = d.rightMinimum

lemma Divider.On.unique {d : Divider} {weights : List UInt32} {inside' : UInt16 × UInt16}
    {before before' after after' : List UInt16} {first second first' second' : UInt16}
    (h : d.On around size weights inside before first second after)
    (h' : d.On around size weights inside' before' first' second' after') :
    inside = inside' ∧ before = before' ∧ first = first' ∧ second = second' ∧ after = after' := by
  obtain ⟨extents, ok⟩ := h.around
  obtain ⟨extents', ok'⟩ := h'.around
  obtain ⟨-, rfl⟩ := Prod.mk.inj (Except.ok.inj (ok.symm.trans ok'))
  have split := Except.ok.inj (h.extents.divided.symm.trans h'.extents.divided)
  obtain ⟨sameBefore, rest⟩ :=
    List.append_inj split (h.extents.length.trans h'.extents.length.symm)
  obtain ⟨sameFirst, rest⟩ := List.cons.inj rest
  obtain ⟨sameSecond, sameAfter⟩ := List.cons.inj rest
  exact ⟨rfl, sameBefore, sameFirst, sameSecond, sameAfter⟩

section
variable {id : String} {direction : ResizeDirection} {amount : UInt16} {layout : ViewLayout}
  {around : List Enclosing} {d : Divider} {size : TerminalSize} {panes : List PaneGeometry}
  {inside : UInt16 × UInt16} {before after : List UInt16} {first second : UInt16} {weights : List UInt32}
  {length : UInt16} {delta : Int}

lemma Divider.On.blocked_iff (h : d.On around (cells size) d.weights inside before first second after)
    (pos : amount ≠ 0) :
    d.Blocked around (cells size) direction
      ↔ d.shift first second (direction.delta amount) = 0 := by
  obtain ⟨hleft, hright, -⟩ := h.extents.bounds
  have pos : 0 < amount.toNat := by
    apply Nat.pos_of_ne_zero
    intro zero
    exact pos (UInt16.toNat_inj.1 zero)
  constructor
  · intro blocked
    obtain ⟨inside', before', first', second', after', h', blocked⟩ := blocked
    obtain ⟨rfl, rfl, rfl, rfl, rfl⟩ := h.unique h'
    cases direction <;> simp only [ResizeDirection.delta, Divider.shift] at * <;> omega
  · intro zero
    refine ⟨inside, before, first, second, after, h, ?_⟩
    cases direction <;> simp only [ResizeDirection.delta, Divider.shift] at * <;> omega

lemma Divider.Extents.farthest {r : Rect} {first' second' : UInt16}
    (h : d.Extents weights length before first second after)
    (hlength : r.length d.axis = first.toNat + second.toNat + 1)
    (moved : (first'.toNat : Int) = first.toNat + d.shift first second delta)
    (sum : first'.toNat + second'.toNat = first.toNat + second.toNat) (hleft : d.leftMinimum ≤ first'.toNat)
    (hright : d.rightMinimum ≤ second'.toNat) : Farthest d r first.toNat delta first'.toNat := by
  obtain ⟨left, right, -⟩ := h.bounds
  refine ⟨⟨hleft, by omega⟩, ?_, ?_⟩
  · unfold OnWay
    unfold Divider.shift at moved
    omega
  · intro c room way
    unfold OnWay at *
    unfold Divider.Room at room
    unfold Divider.shift at moved
    omega

lemma Divider.Extents.exists_moved (h : d.Extents weights length before first second after) (delta : Int)
    (ok : (plug (d.reweigh weights) around).paneGeometry size = .ok panes) :
    ∃ panes', (plug (d.movedBy before first second after
      (d.shift first second delta)) around).paneGeometry
        size = .ok panes' := by
  obtain ⟨first', second', moved, -, sum, hleft, hright⟩ := h.shift_bounds delta
  rw [Divider.movedBy, moved]
  obtain ⟨-, -, weightsOk, -⟩ := splitExtents_eq_ok (h.move sum hleft hright).divided
  exact Divider.exists_geometry ok (by simp) weightsOk

lemma Divider.On.moves_iff (h : d.On around (cells size) d.weights inside before first second after)
    {panes' : List PaneGeometry} (nonzero : d.shift first second delta ≠ 0)
    (ok : (plug d.layout around).paneGeometry size = .ok panes)
    (ok' : (plug (d.movedBy before first second after
      (d.shift first second delta)) around).paneGeometry
        size = .ok panes') :
    d.Settled around (cells size) ↔ ∃ r cell cell', Moves around d r cell cell' panes panes' ∧
      cell' ≠ cell ∧ Farthest d r cell delta cell' := by
  obtain ⟨first', second', moved, value, sum, hleft, hright⟩ := h.extents.shift_bounds delta
  rw [Divider.movedBy, moved] at ok'
  have ne : (before ++ first' :: second' :: after).map (fun extent => UInt32.ofNat extent.toNat)
      ≠ [] := by simp
  rw [Divider.settled_iff ne]
  constructor
  · intro steady
    obtain ⟨hole, -, -, moves⟩ :=
      h.moves (h.extents.move sum hleft hright) sum ok ok' steady
    refine ⟨_, _, _, moves, by omega, ?_⟩
    exact h.extents.farthest (Rect.length_slice _ _ _ _) value sum hleft hright
  · intro moved
    obtain ⟨r, cell, cell', moves, -, -⟩ := moved
    exact moves.steady ok ok'

/-- A directional resize meets its contract exactly when the splits around the nearest divider
    divide the canvas in the same way whether its split has weights or not, unless there is nothing
    to move. -/
theorem resizePane_iff (id : String) (direction : ResizeDirection) (amount : UInt16)
    (ok : layout.paneGeometry size = .ok panes) :
    ResizesPane layout id direction amount size ↔
      amount = 0 ∨ ∀ around d, Nearest id direction.axis layout around d →
        d.Blocked around (cells size) direction ∨ d.Settled around (cells size) := by
  unfold ResizesPane
  rw [resizePaneInPlace_eq, resizePane]
  by_cases zero : amount = 0
  · rw [if_pos zero]
    simp [zero, Res.fail]
  rw [if_neg zero]
  have mem {around : List Enclosing} {d : Divider} (h : Nearest id direction.axis layout around d) :
      layout.containsTerminal id = true := by
    obtain ⟨e, within, rfl, fill, -⟩ := h
    rw [fill]
    exact containsTerminal_plug around (containsTerminal_plug (e :: within)
      (by simp [containsTerminal, terminalIds]))
  by_cases absent : (!layout.containsTerminal id) = true
  · rw [if_pos absent]
    refine iff_of_true rfl (.inr fun around d h => ?_)
    rw [mem h] at absent
    cases absent
  rw [if_neg absent, ok, Res.ok_bind]
  have present : layout.containsTerminal id = true := by
    simpa using absent
  simp only [zero, false_or]
  -- However the nearest divider is found, the code computes its move.
  have value {around : List Enclosing} {d : Divider} (h : Nearest id direction.axis layout around d) :
      ∃ inside before first second after,
        d.On around (cells size) d.weights inside before first second after ∧
        moveDivider id direction amount size.columns size.rows layout =
          if d.shift first second (direction.delta amount) = 0 then .ok (some (false, layout))
          else .ok (some (true, plug (d.movedBy before first second after
        (d.shift first second (direction.delta amount))) around)) := by
    have here := ok
    rw [h.layout_eq] at here
    obtain ⟨inside, before, first, second, after, on⟩ := Divider.exists_on here
    exact ⟨inside, before, first, second, after, on, h.moveDivider ok on⟩
  rcases exists_nearest ok present with nothing | ⟨around, d, nearest⟩
  · rw [nothing]
    refine iff_of_true rfl fun around d h => ?_
    obtain ⟨inside, before, first, second, after, on, moved⟩ := value h
    rw [nothing] at moved
    split at moved
    · cases moved
    · cases moved
  obtain ⟨inside, before, first, second, after, on, moved⟩ := value nearest
  by_cases still : d.shift first second (direction.delta amount) = 0
  · rw [if_pos still] at moved
    rw [moved]
    refine iff_of_true rfl fun around d h => .inl ?_
    obtain ⟨inside', before', first', second', after', on', moved'⟩ := value h
    rw [moved] at moved'
    rw [on'.blocked_iff zero]
    by_contra nonzero
    rw [if_neg nonzero] at moved'
    cases moved'
  · rw [if_neg still] at moved
    rw [moved]
    have here := ok
    rw [nearest.layout_eq] at here
    obtain ⟨panes', ok'⟩ := on.extents.exists_moved (direction.delta amount) here
    have same {around : List Enclosing} {d : Divider}
        (h : Nearest id direction.axis layout around d) :
        ∃ inside before first second after,
          d.On around (cells size) d.weights inside before first second after ∧
          d.shift first second (direction.delta amount) ≠ 0 ∧
          (plug (d.movedBy before first second after (d.shift first second (direction.delta amount)))
            around).paneGeometry size = .ok panes' := by
      obtain ⟨inside, before, first, second, after, on, moved'⟩ := value h
      rw [moved] at moved'
      split at moved'
      case isTrue => cases moved'
      case isFalse nonzero =>
        have layouts := (Prod.mk.inj (Option.some.inj (Except.ok.inj moved'))).2
        rw [layouts] at ok'
        exact ⟨inside, before, first, second, after, on, nonzero, ok'⟩
    constructor
    · intro contract around d h
      obtain ⟨panes₁, panes₁', ok₁, ok₁', -, moves⟩ := contract
      obtain rfl := Except.ok.inj ok₁
      obtain rfl := Except.ok.inj (ok'.symm.trans ok₁')
      obtain ⟨inside, before, first, second, after, on, nonzero, ok''⟩ := same h
      have here := ok
      rw [h.layout_eq] at here
      exact .inr ((on.moves_iff nonzero here ok'').2 (moves around d h))
    · intro settled
      refine ⟨panes, panes', rfl, ok', ⟨around, d, nearest⟩, fun around d h => ?_⟩
      obtain ⟨inside, before, first, second, after, on, nonzero, ok''⟩ := same h
      have here := ok
      rw [h.layout_eq] at here
      apply (on.moves_iff nonzero here ok'').1
      rcases settled around d h with blocked | settled
      · exact absurd ((on.blocked_iff zero).1 blocked) nonzero
      · exact settled

end

/-- Two terminals side by side on an 80 by 24 canvas. -/
theorem resizePane_iff_pair :
    let layout : ViewLayout := .split .horizontal [.terminal "a", .terminal "b"] []
    ResizesPane layout "a" .right 5 .default ↔
      (5 : UInt16) = 0 ∨ ∀ around d, Nearest "a" .horizontal layout around d →
        d.Blocked around (cells .default) .right ∨ d.Settled around (cells .default) := by
  intro layout
  have ok : layout.paneGeometry .default
      = .ok [⟨"a", 0, 0, 40, 24⟩, ⟨"b", 41, 0, 39, 24⟩] := rfl
  exact resizePane_iff "a" .right 5 ok

/-- A split of three panes, the second of which needs five columns, in a column beside a wide
    terminal. In equal shares the three need 17 columns, with weights 11. -/
def shares (weights : List UInt32) : ViewLayout :=
  .split .horizontal [.split .vertical [.split .horizontal [.terminal "a",
    .split .vertical [.split .horizontal [.terminal "b", .terminal "c"] [], .terminal "d"] [],
    .terminal "e"] weights, .terminal "u"] [], .terminal "t"] [1, 100]

def sharesDivider : Divider :=
  ⟨.horizontal, [], .terminal "a",
    .split .vertical [.split .horizontal [.terminal "b", .terminal "c"] [], .terminal "d"] [],
    [.terminal "e"], []⟩

def sharesAround : List Enclosing :=
  [⟨.horizontal, [], [.terminal "t"], [1, 100]⟩, ⟨.vertical, [], [.terminal "u"], []⟩]

lemma resizePane_shares : (shares []).resizePaneInPlace "a" .left 1 ⟨40, 10, 0, 0⟩
    = (.ok true, shares [4, 6, 5]) := by
  rfl

/-- Moving a divider by one cell gives the shares weights, and the whole column shrinks from 17 to
    11 columns: every pane on the canvas changes. -/
theorem resizePane_moves_others :
    ((shares []).paneGeometry ⟨40, 10, 0, 0⟩).isOk = true ∧
      ¬ ResizesPane (shares []) "a" .left 1 ⟨40, 10, 0, 0⟩ := by
  refine ⟨by decide +kernel, ?_⟩
  have nearest : Nearest "a" .horizontal (shares []) sharesAround sharesDivider := by
    refine ⟨⟨.horizontal, [], [sharesDivider.right, .terminal "e"], []⟩, [], rfl, rfl, rfl, ?_, ?_, ?_⟩
    · simp [sharesAround, Enclosing.First]
    · exact ⟨rfl, .inr (by simp)⟩
    · simp
  unfold ResizesPane
  rw [resizePane_shares]
  intro contract
  obtain ⟨panes, panes', ok, ok', -, moves⟩ := contract
  obtain ⟨r, cell, cell', moves, -, -⟩ := moves sharesAround sharesDivider nearest
  have steady : Steady sharesAround (40, 10) sharesDivider.layout (sharesDivider.reweigh [4, 6, 5]) :=
    moves.steady ok ok'
  revert steady
  decide +kernel

end ViewLayout
end Ctl.Proto
