import Ctl.Base.Word

/-!
# View layouts

Model of `ctmux/proto/src/layout.rs` and of the layout types of `ctmux/proto/src/lib.rs`: the split
tree `ViewLayout`, its smallest canvas `minimumSize`, the division of one split into extents
`splitExtents`, the placement of every leaf `place`/`paneGeometry`, and the two ways a divider is
moved, `resizePane` and `resizeDivider`.

Sixteen-bit fields stay `UInt16` and are added with `addU16`; the `u32` results of `minimumSize` and
the `u64` intermediate values of `splitExtents` are numbers, with `satAdd`/`satMul` where the source
saturates and with `word 64` where it would overflow. A panic (an overflow, an index past the end)
is `Res.panic`, an `Err` is `Res.fail` with the source's text.

The tree is a nested inductive type, so every recursive function of the source is a pair here: the
function and its companion on the list of children.
-/

namespace Ctl.Proto
open Ctl.Base

/-- Terminal dimensions (Rust `TerminalSize`). -/
structure TerminalSize where
  columns : UInt16
  rows : UInt16
  pixelWidth : UInt16
  pixelHeight : UInt16
  deriving DecidableEq

/-- The size of a client that reports none (Rust `TerminalSize::default`). -/
def TerminalSize.default : TerminalSize := ⟨80, 24, 0, 0⟩

/-- The direction in which a split lines up its children (Rust `SplitAxis`). -/
inductive SplitAxis where
  | horizontal
  | vertical
  deriving DecidableEq

/-- The direction in which a divider moves (Rust `ResizeDirection`). -/
inductive ResizeDirection where
  | left
  | right
  | up
  | down
  deriving DecidableEq

/-- The rectangle of one terminal (Rust `PaneGeometry`). -/
structure PaneGeometry where
  terminalId : String
  left : UInt16
  top : UInt16
  columns : UInt16
  rows : UInt16
  deriving DecidableEq

/-- A tree of splits with terminals at its leaves (Rust `ViewLayout`). -/
inductive ViewLayout where
  | terminal (terminalId : String)
  | split (axis : SplitAxis) (children : List ViewLayout) (weights : List UInt32)

def SplitAxis.pick {α : Type} (axis : SplitAxis) (size : α × α) : α :=
  match axis with
  | .horizontal => size.1
  | .vertical => size.2

def SplitAxis.cross {α : Type} (axis : SplitAxis) (size : α × α) : α :=
  match axis with
  | .horizontal => size.2
  | .vertical => size.1

namespace ViewLayout

/-! ### Leaves -/

mutual
/-- The leaves from left to right (Rust `terminal_ids`). -/
def terminalIds : ViewLayout → List String
  | .terminal id => [id]
  | .split _ children _ => terminalIdsAll children
/-- `terminalIds` of a list of children. -/
def terminalIdsAll : List ViewLayout → List String
  | [] => []
  | child :: children => child.terminalIds ++ terminalIdsAll children
end

variable (layout : ViewLayout) (axis : SplitAxis)

/-- The leaf test (Rust `contains_terminal`). -/
def containsTerminal (id : String) : Bool := layout.terminalIds.contains id

/-! ### The smallest canvas -/

/-- The largest `u32`. -/
def u32Max : Nat := 2 ^ 32 - 1

def splitMinimum (weighted : Bool) (sizes : List (Nat × Nat)) : Nat × Nat :=
  let count := min sizes.length u32Max
  let largest := sizes.foldl (fun a b => (max a.1 b.1, max a.2 b.2)) (2, 1)
  let dividers := count - 1
  if weighted then
    let total := sizes.foldl (fun a b => (satAdd u32Max a.1 b.1, satAdd u32Max a.2 b.2)) (0, 0)
    match axis with
    | .horizontal => (satAdd u32Max total.1 dividers, largest.2)
    | .vertical => (largest.1, satAdd u32Max total.2 dividers)
  else
    match axis with
    | .horizontal => (satAdd u32Max (satMul u32Max largest.1 count) dividers, largest.2)
    | .vertical => (largest.1, satAdd u32Max (satMul u32Max largest.2 count) dividers)

mutual
/-- The smallest canvas that leaves every terminal two columns and one row
    (Rust `minimum_size`). -/
def minimumSize : ViewLayout → Nat × Nat
  | .terminal _ => (2, 1)
  | .split axis children weights => splitMinimum axis (!weights.isEmpty) (minimumSizes children)
/-- `minimumSize` of a list of children. -/
def minimumSizes : List ViewLayout → List (Nat × Nat)
  | [] => []
  | child :: children => child.minimumSize :: minimumSizes children
end

/-! ### Dividing one split -/

/-- The clamping loop of `split_extents`: `active` holds the indices that still share `remaining`.
    Every round but the last removes an index, so `fuel` bounds the rounds. -/
def fillLoop (weights minima : List Nat) : (fuel : Nat) → (active : List Nat) →
    (remaining : Nat) → (extents : List Nat) → Res String (List Nat)
  | 0, _, _, _ => .panic
  | fuel + 1, active, remaining, extents =>
    if active.isEmpty then .ok extents else do
      let total ← sumWord 64 (active.map fun i => weights.getD i 0)
      let clamped ← Res.filter (fun i => do
        let exact ← word 64 (remaining * weights.getD i 0)
        let least ← word 64 (minima.getD i 0 * total)
        return decide (exact < least)) active
      if clamped.isEmpty then
        let extents ← assign (fun i _ => do
          let exact ← word 64 (remaining * weights.getD i 0)
          divWord exact total) active extents
        let placed ← sumWord 64 (active.map fun i => extents.getD i 0)
        let residual ← subWord remaining placed
        assign (fun _ extent => word 64 (extent + 1)) (active.take residual) extents
      else
        let extents ← assign (fun i _ => .ok (minima.getD i 0)) clamped extents
        let remaining ← (clamped.map fun i => minima.getD i 0).foldlM subWord remaining
        fillLoop weights minima fuel (active.filter fun i => i ∉ clamped) remaining extents

/-- The extents of a split without weights: as equal as possible, the longer ones first. -/
def equalExtents (available count : Nat) : List Nat :=
  (List.range count).map fun index =>
    available / count + if index < available % count then 1 else 0

/-- The extents of the children of one split along its axis (Rust `split_extents`). -/
def splitExtents (children : List ViewLayout) (weights : List UInt32) (length : UInt16) : Res String (List UInt16) := do
  let count ← u16TryFrom "too many split children" children.length
  if count = 0 then .fail "empty split" else
  match subU16 length (count - 1) with
  | none => .fail "canvas too small"
  | some available =>
    if weights.isEmpty then
      Res.collect (fun n => do let n ← word 16 n; .ok (UInt16.ofNat n))
        (equalExtents available.toNat count.toNat)
    else if weights.length ≠ children.length ∨ 0 ∈ weights then
      .fail "split weights must have one positive value per child"
    else do
      let minima := (minimumSizes children).map axis.pick
      let least ← sumWord 64 minima
      if available.toNat < least then .fail "canvas too small" else do
        let extents ← fillLoop (weights.map UInt32.toNat) minima (children.length + 1)
          (List.range children.length) available.toNat (List.replicate children.length 0)
        Res.collect (u16TryFrom "invalid pane extent") extents

/-! ### Placement -/

/-- A rectangle of a canvas (Rust `LayoutBounds`, and the arguments of `place`). -/
structure LayoutBounds where
  left : UInt16
  top : UInt16
  columns : UInt16
  rows : UInt16

/-- The part of a rectangle that starts `offset` cells along an axis and is `extent` cells long. -/
def LayoutBounds.child (bounds : LayoutBounds) (axis : SplitAxis) (offset extent : UInt16) : Res String LayoutBounds :=
  match axis with
  | .horizontal => do
    let left ← addU16 bounds.left offset
    return { bounds with left, columns := extent }
  | .vertical => do
    let top ← addU16 bounds.top offset
    return { bounds with top, rows := extent }

def LayoutBounds.length (bounds : LayoutBounds) (axis : SplitAxis) : UInt16 :=
  axis.pick (bounds.columns, bounds.rows)

mutual
/-- Place the leaves inside a rectangle (Rust `place`). -/
def place (bounds : LayoutBounds) : ViewLayout → Res String (List PaneGeometry)
  | .terminal id => .ok [⟨id, bounds.left, bounds.top, bounds.columns, bounds.rows⟩]
  | .split axis children weights => do
    let extents ← splitExtents axis children weights (bounds.length axis)
    placeAll axis bounds children extents 0
/-- The loop of `place`: `offset` is the distance from the start of the split. -/
def placeAll (axis : SplitAxis) (bounds : LayoutBounds) :
    List ViewLayout → List UInt16 → (offset : UInt16) → Res String (List PaneGeometry)
  | child :: children, extent :: extents, offset => do
    let inner ← bounds.child axis offset extent
    let panes ← place inner child
    let offset ← addU16 offset extent
    let offset ← if children.isEmpty then .ok offset else addU16 offset 1
    let rest ← placeAll axis bounds children extents offset
    return panes ++ rest
  | _, _, _ => .ok []
end

/-- The canvas is at least the smallest one. -/
def Fits (size : TerminalSize) : Prop :=
  layout.minimumSize.1 ≤ size.columns.toNat ∧ layout.minimumSize.2 ≤ size.rows.toNat

instance (layout : ViewLayout) (size : TerminalSize) : Decidable (layout.Fits size) :=
  inferInstanceAs (Decidable (_ ∧ _))

/-- The rectangle of every leaf on a canvas (Rust `pane_geometry`). -/
def paneGeometry (size : TerminalSize) : Res String (List PaneGeometry) :=
  let minimum := layout.minimumSize
  if size.columns.toNat < minimum.1 ∨ size.rows.toNat < minimum.2 then
    .fail s!"view needs at least {minimum.1} columns and {minimum.2} rows"
  else
    layout.place ⟨0, 0, size.columns, size.rows⟩

/-! ### Moving dividers -/

def at? {α : Type} (l : List α) (i : Nat) : Res String α :=
  match l[i]? with
  | some a => .ok a
  | none => .panic

def sumU16 (l : List UInt16) : Res String UInt16 := l.foldlM addU16 0

/-- Shift the boundary after child `boundary` by `delta`, clamped to the neighbours' minima; returns
    whether it moved and the weights of the split (Rust `move_boundary`). -/
def moveBoundary (children : List ViewLayout) (weights : List UInt32) (extents : List UInt16) (boundary : Nat)
    (delta : Int) : Res String (Bool × List UInt32) := do
  let left ← at? extents boundary
  let right ← at? extents (boundary + 1)
  let leftMinimum ← at? ((minimumSizes children).map axis.pick) boundary
  let rightMinimum ← at? ((minimumSizes children).map axis.pick) (boundary + 1)
  let low : Int := leftMinimum - left.toNat
  let high : Int := right.toNat - rightMinimum
  if high < low then .panic else
  let delta := max low (min high delta)
  if delta = 0 then .ok (false, weights) else do
    let movedLeft ← tryFromInt (left.toNat + delta)
    let movedRight ← tryFromInt (right.toNat - delta)
    let extents := (extents.set boundary movedLeft).set (boundary + 1) movedRight
    .ok (true, extents.map fun extent => UInt32.ofNat extent.toNat)
where
  /-- Narrow a signed number to a sixteen-bit word. -/
  tryFromInt (n : Int) : Res String UInt16 :=
    if 0 ≤ n ∧ n < 2 ^ 16 then .ok (UInt16.ofNat n.toNat) else .fail "invalid pane extent"

mutual
/-- Move the nearest divider of the requested axis above a terminal; `none` when no enclosing split
    has one (Rust `move_divider`). -/
def moveDivider (id : String) (direction : ResizeDirection) (amount : UInt16)
    (columns rows : UInt16) : ViewLayout → Res String (Option (Bool × ViewLayout))
  | .terminal _ => .ok none
  | .split axis children weights =>
    match children.findIdx? (·.containsTerminal id) with
    | none => .fail "resize terminal is absent from split"
    | some selected => do
      let extents ← splitExtents axis children weights (axis.pick (columns, rows))
      let extent ← at? extents selected
      let (childColumns, childRows) := match axis with
        | .horizontal => (extent, rows)
        | .vertical => (columns, extent)
      match ← moveDividerAt id direction amount childColumns childRows children selected with
      | some (changed, children) => .ok (some (changed, .split axis children weights))
      | none =>
        let requestedHorizontal := direction = .left ∨ direction = .right
        if ¬ (axis = .horizontal ↔ requestedHorizontal) ∨ children.length < 2 then .ok none else do
          let boundary := min selected (children.length - 2)
          let delta : Int := if direction = .right ∨ direction = .down then amount.toNat
            else -amount.toNat
          let (changed, weights) ← moveBoundary axis children weights extents boundary delta
          .ok (some (changed, .split axis children weights))
/-- `moveDivider` on one child of a list. -/
def moveDividerAt (id : String) (direction : ResizeDirection) (amount : UInt16) (columns rows : UInt16) :
    List ViewLayout → (index : Nat) → Res String (Option (Bool × List ViewLayout))
  | [], _ => .panic
  | child :: children, 0 => do
    match ← moveDivider id direction amount columns rows child with
    | some (changed, child) => .ok (some (changed, child :: children))
    | none => .ok none
  | child :: children, index + 1 => do
    match ← moveDividerAt id direction amount columns rows children index with
    | some (changed, children) => .ok (some (changed, child :: children))
    | none => .ok none
end

/-- Move the nearest divider, returning whether it moved and the new layout (Rust `resize_pane`). -/
def resizePane (id : String) (direction : ResizeDirection) (amount : UInt16) (size : TerminalSize) :
    Res String (Bool × ViewLayout) :=
  if amount = 0 then .fail "pane resize amount must be positive"
  else if !layout.containsTerminal id then
    .fail "resize terminal must belong to the attached view"
  else do
    let _ ← layout.paneGeometry size
    match ← moveDivider id direction amount size.columns size.rows layout with
    | some (changed, layout) => .ok (changed, layout)
    | none => .ok (false, layout)

mutual
/-- Follow `splitPath` and move one of its boundaries to the cell `position`
    (Rust `place_divider`). -/
def placeDivider (boundary : Nat) (position : UInt16) (splitPath : List UInt16)
    (bounds : LayoutBounds) : ViewLayout → Res String (Bool × ViewLayout)
  | .terminal _ => .fail "divider path must target a split"
  | .split axis children weights => do
    let extents ← splitExtents axis children weights (bounds.length axis)
    match splitPath with
    | index :: remaining =>
      match extents[index.toNat]? with
      | none => .fail "divider split path child is absent"
      | some extent => do
        let before ← sumU16 (extents.take index.toNat)
        let offset ← addU16 before index
        let inner ← bounds.child axis offset extent
        let (changed, children) ←
          placeDividerAt boundary position remaining inner children index.toNat
        .ok (changed, .split axis children weights)
    | [] =>
      if children.length ≤ boundary + 1 then .fail "divider boundary is absent from split" else do
        let before ← sumU16 (extents.take (boundary + 1))
        let current ← addU16 (axis.pick (bounds.left, bounds.top)) before
        let gap ← u16TryFrom "invalid divider boundary" boundary
        let current ← addU16 current gap
        let (changed, weights) ← moveBoundary axis children weights extents boundary
          ((position.toNat : Int) - current.toNat)
        .ok (changed, .split axis children weights)
/-- `placeDivider` on one child of a list. -/
def placeDividerAt (boundary : Nat) (position : UInt16) (splitPath : List UInt16)
    (bounds : LayoutBounds) : List ViewLayout → (index : Nat) → Res String (Bool × List ViewLayout)
  | [], _ => .panic
  | child :: children, 0 => do
    let (changed, child) ← placeDivider boundary position splitPath bounds child
    .ok (changed, child :: children)
  | child :: children, index + 1 => do
    let (changed, children) ← placeDividerAt boundary position splitPath bounds children index
    .ok (changed, child :: children)
end

/-- Move an exact divider to an absolute gap cell (Rust `resize_divider`). -/
def resizeDivider (splitPath : List UInt16) (boundary position : UInt16) (size : TerminalSize) :
    Res String (Bool × ViewLayout) :=
  if 16 < splitPath.length then .fail "divider split path exceeds 16 levels" else do
    let _ ← layout.paneGeometry size
    placeDivider boundary.toNat position splitPath ⟨0, 0, size.columns, size.rows⟩ layout

end ViewLayout

end Ctl.Proto
