import Ctl.Proto.Enclosing

/-!
# Moving a divider

What moving a divider does to the canvas. A `Divider` is a split with one of its boundaries chosen;
`Divider.Extents.moveBoundary` evaluates `move_boundary` on it, and the weights it writes are extents
again (`splitExtents_self`), so the split itself is divided as requested. The splits around it need
not stay as they are: a split that had no weights has a smaller minimum once it has some, and a
weighted split around it that had clamped it to the old minimum divides its length anew. When they
stay (`Divider.Settled`), only the panes of the neighbours change (`Divider.On.moves`), and when only
those change, they stayed (`Moves.steady`).
-/

namespace Ctl.Proto.ViewLayout
open Ctl.Base

/-! ### Two neighbours in a list -/

variable {k : Nat} {weights weights' : List UInt32} {before after : List UInt16} {first second : UInt16}
  {panes : List PaneGeometry} {around : List Enclosing} {size : TerminalSize}

lemma exists_neighbours {α : Type} {l : List α} {m : Nat} (len : l.length = k + (m + 2)) :
    ∃ before a b after, l = before ++ a :: b :: after ∧ before.length = k := by
  induction k generalizing l with
  | zero =>
    match l, len with
    | a :: b :: after, _ => exact ⟨[], a, b, after, rfl, rfl⟩
  | succ k ih =>
    cases l with
    | nil =>
      rw [List.length_nil] at len
      omega
    | cons x l =>
      rw [List.length_cons] at len
      obtain ⟨before, a, b, after, rfl, hk⟩ := ih (l := l) (by omega)
      exact ⟨x :: before, a, b, after, rfl, by rw [List.length_cons, hk]⟩

lemma forall₂_neighbours {α β : Type} {R : α → β → Prop} {as as' : List α} {a a' : α} {bs bs' : List β} {b b' : β}
    (len : bs.length = as.length) :
    List.Forall₂ R (as ++ a :: a' :: as') (bs ++ b :: b' :: bs') ↔
      List.Forall₂ R as bs ∧ R a b ∧ R a' b' ∧ List.Forall₂ R as' bs' := by
  induction as generalizing bs with
  | nil =>
    obtain rfl := List.length_eq_zero_iff.1 len
    simp
  | cons x as ih =>
    cases bs with
    | nil => cases len
    | cons y bs =>
      rw [List.cons_append, List.cons_append, List.forall₂_cons, List.forall₂_cons,
        ih (Nat.succ.inj len)]
      exact and_assoc.symm

lemma at?_append {α : Type} {before after : List α} {a : α} (len : before.length = k) :
    at? (before ++ a :: after) k = .ok a := by
  rw [at?, ← len, List.getElem?_append_right (le_refl _), Nat.sub_self, List.getElem?_cons_zero]

lemma at?_append_succ {α : Type} {before after : List α} {a b : α} (len : before.length = k) :
    at? (before ++ a :: b :: after) (k + 1) = .ok b := by
  rw [show before ++ a :: b :: after = (before ++ [a]) ++ b :: after by simp]
  exact at?_append (by rw [List.length_append, len, List.length_singleton])

lemma set_neighbours {α : Type} {before after : List α} {a b a' b' : α} :
    ((before ++ a :: b :: after).set before.length a').set (before.length + 1) b'
      = before ++ a' :: b' :: after := by
  simp

/-! ### One divider -/

/-- A split with one boundary chosen: the children on its two sides, those before and those behind
    them. -/
structure Divider where
  axis : SplitAxis
  before : List ViewLayout
  left : ViewLayout
  right : ViewLayout
  after : List ViewLayout
  weights : List UInt32

namespace Divider

def children (d : Divider) : List ViewLayout := d.before ++ d.left :: d.right :: d.after

def reweigh (d : Divider) (weights : List UInt32) : ViewLayout := .split d.axis d.children weights

def layout (d : Divider) : ViewLayout := d.reweigh d.weights

def weighted (d : Divider) : ViewLayout := d.reweigh (d.children.map fun _ => 1)

/-- The minimum of the left neighbour along the axis. -/
def leftMinimum (d : Divider) : Nat := d.axis.pick d.left.minimumSize

@[inherit_doc leftMinimum]
def rightMinimum (d : Divider) : Nat := d.axis.pick d.right.minimumSize

/-- The extents of the split: the neighbours get `first` and `second` cells and can be no smaller
    than their minima. -/
structure Extents (d : Divider) (weights : List UInt32) (length : UInt16) (before : List UInt16)
    (first second : UInt16) (after : List UInt16) : Prop where
  divided : splitExtents d.axis d.children weights length
    = .ok (before ++ first :: second :: after)
  length : before.length = d.before.length
  pos : ∀ child ∈ d.children, 1 ≤ d.axis.pick child.minimumSize
  reach : List.Forall₂ (fun child extent => d.axis.pick child.minimumSize ≤ extent.toNat)
    d.children (before ++ first :: second :: after)

lemma exists_extents {d : Divider} {weights : List UInt32} {size : UInt16 × UInt16} {extents : List UInt16}
    (wf : (d.reweigh weights).WellFormed) (fits : (d.reweigh weights).FitsIn size)
    (ok : splitExtents d.axis d.children weights (d.axis.pick size) = .ok extents) :
    ∃ before first second after, extents = before ++ first :: second :: after ∧
      d.Extents weights (d.axis.pick size) before first second after := by
  obtain ⟨pos, reach⟩ := wf.extents_of_fits fits ok
  have len := reach.length_eq
  rw [children, List.length_append, List.length_cons, List.length_cons] at len
  obtain ⟨before, first, second, after, rfl, length⟩ :=
    exists_neighbours (l := extents) (k := d.before.length) (m := d.after.length) (by omega)
  exact ⟨before, first, second, after, rfl, ok, length, pos, reach⟩

section
variable {d : Divider} {weights : List UInt32} {length : UInt16} {before after : List UInt16}
  {first second : UInt16}

lemma Extents.bounds (h : d.Extents weights length before first second after) :
    d.leftMinimum ≤ first.toNat ∧ d.rightMinimum ≤ second.toNat ∧
      first.toNat + second.toNat < 2 ^ 16 := by
  obtain ⟨-, hleft, hright, -⟩ := (forall₂_neighbours h.length).1 h.reach
  obtain ⟨-, -, -, -, sum⟩ := splitExtents_eq_ok h.divided
  have := length.toNat_lt
  simp only [List.map_append, List.map_cons, List.sum_append, List.sum_cons] at sum
  exact ⟨hleft, hright, by omega⟩

/-- How far the boundary moves when it is asked to move by `delta`. -/
def shift (d : Divider) (first second : UInt16) (delta : Int) : Int :=
  max (d.leftMinimum - first.toNat) (min (second.toNat - d.rightMinimum) delta)

/-- The weights that `move_boundary` writes. -/
def moved (before : List UInt16) (first second : UInt16) (after : List UInt16) (shift : Int) : List UInt16 :=
  before ++ UInt16.ofNat (first.toNat + shift).toNat ::
    UInt16.ofNat (second.toNat - shift).toNat :: after

def movedBy (d : Divider) (before : List UInt16) (first second : UInt16) (after : List UInt16)
    (shift : Int) : ViewLayout :=
  d.reweigh ((moved before first second after shift).map fun extent => UInt32.ofNat extent.toNat)

lemma Extents.moveBoundary (h : d.Extents weights length before first second after)
    (delta : Int) (weights' : List UInt32) :
    moveBoundary d.axis d.children weights' (before ++ first :: second :: after) d.before.length delta
      = if d.shift first second delta = 0 then .ok (false, weights')
        else .ok (true, (moved before first second after (d.shift first second delta)).map
          fun extent => UInt32.ofNat extent.toNat) := by
  obtain ⟨hleft, hright, lt⟩ := h.bounds
  have minima : (minimumSizes d.children).map d.axis.pick
      = (d.before.map fun child => d.axis.pick child.minimumSize) ++ d.leftMinimum ::
        d.rightMinimum :: d.after.map fun child => d.axis.pick child.minimumSize := by
    rw [minimumSizes_eq, children, List.map_map, List.map_append, List.map_cons, List.map_cons]
    rfl
  have len : (d.before.map fun child => d.axis.pick child.minimumSize).length = d.before.length :=
    List.length_map _
  rw [ViewLayout.moveBoundary, at?_append h.length, Res.ok_bind, at?_append_succ h.length,
    Res.ok_bind, minima, at?_append len, Res.ok_bind, at?_append_succ len, Res.ok_bind]
  dsimp only
  rw [if_neg (by omega)]
  change (if d.shift first second delta = 0 then _ else _) = _
  split
  · rfl
  case isFalse =>
    have left : (0 : Int) ≤ first.toNat + d.shift first second delta
        ∧ first.toNat + d.shift first second delta < 2 ^ 16 := by
      unfold shift
      omega
    have right : (0 : Int) ≤ second.toNat - d.shift first second delta
        ∧ second.toNat - d.shift first second delta < 2 ^ 16 := by
      unfold shift
      omega
    change (moveBoundary.tryFromInt (first.toNat + d.shift first second delta) >>= _) = _
    rw [moveBoundary.tryFromInt, if_pos left, Res.ok_bind]
    change (moveBoundary.tryFromInt (second.toNat - d.shift first second delta) >>= _) = _
    rw [moveBoundary.tryFromInt, if_pos right, Res.ok_bind, ← h.length, set_neighbours, moved]

lemma Extents.shift_bounds (h : d.Extents weights length before first second after) (delta : Int) :
    ∃ first' second' : UInt16, moved before first second after (d.shift first second delta)
        = before ++ first' :: second' :: after ∧
      (first'.toNat : Int) = first.toNat + d.shift first second delta ∧
      first'.toNat + second'.toNat = first.toNat + second.toNat ∧
      d.leftMinimum ≤ first'.toNat ∧ d.rightMinimum ≤ second'.toNat := by
  obtain ⟨hleft, hright, lt⟩ := h.bounds
  have left : (UInt16.ofNat (first.toNat + d.shift first second delta).toNat).toNat
      = (first.toNat + d.shift first second delta).toNat :=
    toNat_ofNat_u16 (by unfold shift; omega)
  have right : (UInt16.ofNat (second.toNat - d.shift first second delta).toNat).toNat
      = (second.toNat - d.shift first second delta).toNat :=
    toNat_ofNat_u16 (by unfold shift; omega)
  refine ⟨_, _, rfl, ?_, ?_, ?_, ?_⟩
  · rw [left]
    unfold shift
    omega
  · rw [left, right]
    unfold shift
    omega
  · rw [left]
    unfold shift
    omega
  · rw [right]
    unfold shift
    omega

lemma Extents.move (h : d.Extents weights length before first second after) {first' second' : UInt16}
    (sum : first'.toNat + second'.toNat = first.toNat + second.toNat)
    (hleft : d.leftMinimum ≤ first'.toNat) (hright : d.rightMinimum ≤ second'.toNat) :
    d.Extents ((before ++ first' :: second' :: after).map fun extent => UInt32.ofNat extent.toNat)
      length before first' second' after := by
  obtain ⟨ne, -, -, -, whole⟩ := splitExtents_eq_ok h.divided
  obtain ⟨hbefore, -, -, hafter⟩ := (forall₂_neighbours h.length).1 h.reach
  have reach : List.Forall₂ (fun child extent => d.axis.pick child.minimumSize ≤ extent.toNat)
      d.children (before ++ first' :: second' :: after) :=
    (forall₂_neighbours h.length).2 ⟨hbefore, hleft, hright, hafter⟩
  refine ⟨splitExtents_self ne h.pos ?_ reach, h.length, h.pos, reach⟩
  simp only [List.map_append, List.map_cons, List.sum_append, List.sum_cons] at whole ⊢
  omega

end

end Divider

/-! ### The panes of two neighbours -/

/-- The panes of two neighbouring layouts that share a rectangle, with the divider `cell` cells
    behind its start. -/
def Parted (axis : SplitAxis) (left right : ViewLayout) (r : Rect) (cell : Nat) (panes : List PaneGeometry) : Prop :=
  cell + 1 ≤ r.length axis ∧ ∃ here there, panes = here ++ there ∧
    Tiles left (r.slice axis 0 cell) here ∧
    Tiles right (r.slice axis (cell + 1) (r.length axis - (cell + 1))) there

variable {d : Divider} {r : Rect} {inside : UInt16 × UInt16} {panes' : List PaneGeometry}

lemma Divider.Extents.parted {size : UInt16 × UInt16}
    (h : d.Extents weights (d.axis.pick size) before first second after) (placed : Placed (d.reweigh weights) r panes)
    (hsize : r.HasSize size) :
    ∃ left mid right, panes = left ++ (mid ++ right) ∧
      PlacedAll d.axis r d.before before 0 left ∧
      Parted d.axis d.left d.right (r.slice d.axis (offsetAfter 0 before)
        (first.toNat + second.toNat + 1)) first.toNat mid ∧
      PlacedAll d.axis r d.after after
        (offsetAfter 0 before + (first.toNat + second.toNat) + 2) right := by
  cases placed with
  | split length extents hlength ok placed =>
    obtain rfl : d.axis.pick size = length :=
      UInt16.toNat_inj.1 ((hsize.pick d.axis).trans hlength.symm)
    obtain rfl := Except.ok.inj (h.divided.symm.trans ok)
    obtain ⟨before', rest, left, panes, split, len, rfl, hleft, hrest⟩ := placed.append_inv
    obtain ⟨rfl, rfl⟩ := List.append_inj split (h.length.trans len.symm)
    cases hrest with
    | @cons _ _ _ _ _ _ _ here _ first' rest =>
      cases rest with
      | @cons _ _ _ _ _ _ _ there behind second' right =>
        refine ⟨left, here ++ there, behind, by rw [List.append_assoc], hleft,
          ⟨?_, here, there, rfl, ?_, ?_⟩, ?_⟩
        · rw [Rect.length_slice]
          omega
        · rw [Rect.slice_slice, Nat.add_zero]
          exact first'.tiles
        · rw [Rect.slice_slice, Rect.length_slice,
            show first.toNat + second.toNat + 1 - (first.toNat + 1) = second.toNat by omega,
            ← Nat.add_assoc]
          exact second'.tiles
        · convert right using 1
          omega

/-! ### A divider on a canvas -/

def cells (size : TerminalSize) : UInt16 × UInt16 := (size.columns, size.rows)

lemma hasSize_canvas (size : TerminalSize) : size.canvas.HasSize (cells size) := ⟨rfl, rfl⟩

/-- From one list of panes to the other, the divider between the neighbours of `d` moves from `cell`
    to `cell'` inside the rectangle the neighbours share, and no other pane changes. -/
def Moves (around : List Enclosing) (d : Divider) (r : Rect) (cell cell' : Nat)
    (panes panes' : List PaneGeometry) : Prop :=
  ∃ left mid mid' right, panes = left ++ (mid ++ right) ∧ panes' = left ++ (mid' ++ right) ∧
    left.map (·.terminalId) = leading around ++ terminalIdsAll d.before ∧
    right.map (·.terminalId) = terminalIdsAll d.after ++ trailing around ∧
    Parted d.axis d.left d.right r cell mid ∧ Parted d.axis d.left d.right r cell' mid'

/-- The splits around the split of `d` divide the canvas in the same way when the split has
    weights. -/
def Divider.Settled (d : Divider) (around : List Enclosing) (size : UInt16 × UInt16) : Prop :=
  Steady around size d.layout d.weighted

/-- A layout on a canvas around the split of `d`: the size that is left for the split, and its
    extents. -/
structure Divider.On (d : Divider) (around : List Enclosing) (size : UInt16 × UInt16)
    (weights : List UInt32) (inside : UInt16 × UInt16) (before : List UInt16)
    (first second : UInt16) (after : List UInt16) : Prop where
  around : ∃ extents, extentsAround (d.reweigh weights) around size = .ok (extents, inside)
  extents : d.Extents weights (d.axis.pick inside) before first second after

lemma Divider.minimumSize_reweigh (d : Divider) (ne : weights ≠ []) (ne' : weights' ≠ []) :
    (d.reweigh weights).minimumSize = (d.reweigh weights').minimumSize := by
  have some : weights.isEmpty = false := List.isEmpty_eq_false_iff.2 ne
  have some' : weights'.isEmpty = false := List.isEmpty_eq_false_iff.2 ne'
  rw [Divider.reweigh, Divider.reweigh, minimumSize, minimumSize, some, some']

lemma Divider.children_ne_nil (d : Divider) : d.children ≠ [] := by
  simp [Divider.children]

lemma Divider.settled_iff {size : UInt16 × UInt16} (ne : weights ≠ []) :
    d.Settled around size ↔ Steady around size d.layout (d.reweigh weights) := by
  have some : (d.children.map fun _ => (1 : UInt32)) ≠ [] := by
    simpa using d.children_ne_nil
  unfold Divider.Settled Steady Divider.weighted
  rw [extentsAround_congr (d.minimumSize_reweigh some ne)]

lemma Divider.exists_on (ok : (plug (d.reweigh weights) around).paneGeometry size = .ok panes) :
    ∃ inside before first second after,
      d.On around (cells size) weights inside before first second after := by
  obtain ⟨hole, inside, left, here, _, right, rfl, -, placed, -, h⟩ :=
    (paneGeometry_placed ok).plug_steady (paneGeometry_placed ok) (hasSize_canvas size)
      (fits_of_paneGeometry ok) rfl
  cases placed with
  | split length extents hlength divided placed =>
    obtain rfl : d.axis.pick inside = length :=
      UInt16.toNat_inj.1 ((h.size.pick d.axis).trans hlength.symm)
    obtain ⟨before, first, second, after, rfl, extents⟩ :=
      Divider.exists_extents h.wellFormed h.fits divided
    exact ⟨inside, before, first, second, after, h.extents, extents⟩

lemma Divider.On.placed (h : d.On around (cells size) weights inside before first second after)
    (ok : (plug (d.reweigh weights) around).paneGeometry size = .ok panes) :
    ∃ hole here, Placed (d.reweigh weights) hole here ∧ hole.HasSize inside := by
  obtain ⟨hole, inside', left, here, _, right, -, -, placed, -, h'⟩ :=
    (paneGeometry_placed ok).plug_steady (paneGeometry_placed ok) (hasSize_canvas size)
      (fits_of_paneGeometry ok) rfl
  obtain ⟨extents, around_⟩ := h.around
  obtain ⟨extents', around'⟩ := h'.extents
  obtain rfl : inside' = inside := (Prod.mk.inj (Except.ok.inj (around'.symm.trans around_))).2
  exact ⟨hole, here, placed, h'.size⟩

def InHole (around : List Enclosing) (inner : ViewLayout) (hole : Rect) (panes : List PaneGeometry) : Prop :=
  ∃ left here right, panes = left ++ (here ++ right) ∧
    left.map (·.terminalId) = leading around ∧ Placed inner hole here

lemma Divider.On.moves {first' second' : UInt16}
    (h : d.On around (cells size) weights inside before first second after)
    (h' : d.Extents weights' (d.axis.pick inside) before first' second' after)
    (sum : first'.toNat + second'.toNat = first.toNat + second.toNat)
    (ok : (plug (d.reweigh weights) around).paneGeometry size = .ok panes)
    (ok' : (plug (d.reweigh weights') around).paneGeometry size = .ok panes')
    (steady : Steady around (cells size) (d.reweigh weights) (d.reweigh weights')) :
    ∃ hole, InHole around (d.reweigh weights) hole panes ∧
      InHole around (d.reweigh weights') hole panes' ∧
      Moves around d (hole.slice d.axis (offsetAfter 0 before) (first.toNat + second.toNat + 1))
        first.toNat first'.toNat panes panes' := by
  obtain ⟨hole, inside', left, here, here', right, rfl, rfl, placed, placed', hole_⟩ :=
    (paneGeometry_placed ok).plug_steady (paneGeometry_placed ok') (hasSize_canvas size)
      (fits_of_paneGeometry ok) steady
  obtain ⟨extents, around_⟩ := h.around
  obtain ⟨extents', around'⟩ := hole_.extents
  obtain rfl : inside' = inside :=
    (Prod.mk.inj (Except.ok.inj (around'.symm.trans around_))).2
  obtain ⟨P, M, R, rfl, hP, hM, hR⟩ := h.extents.parted placed hole_.size
  obtain ⟨P', M', R', rfl, hP', hM', hR'⟩ := h'.parted placed' hole_.size
  rw [sum] at hM' hR'
  obtain rfl := hP.unique hP'
  obtain rfl := hR.unique hR'
  refine ⟨hole, ⟨left, P ++ (M ++ R), right, rfl, hole_.left, placed⟩,
    ⟨left, P ++ (M' ++ R), right, rfl, hole_.left, placed'⟩, left ++ P, M, M', R ++ right,
    ?_, ?_, ?_, ?_, hM, hM'⟩
  · simp only [List.append_assoc]
  · simp only [List.append_assoc]
  · rw [List.map_append, hole_.left, hP.terminalIds]
  · rw [List.map_append, hole_.right, hR.terminalIds]

lemma Moves.steady {cell cell' : Nat} (h : Moves around d r cell cell' panes panes')
    (ok : (plug (d.reweigh weights) around).paneGeometry size = .ok panes)
    (ok' : (plug (d.reweigh weights') around).paneGeometry size = .ok panes') :
    Steady around (cells size) (d.reweigh weights) (d.reweigh weights') := by
  obtain ⟨left, mid, mid', right, rfl, rfl, hleft, hright, -, -⟩ := h
  obtain ⟨left, P, rfl, outLeft, -⟩ := List.map_eq_append_iff.1 hleft
  obtain ⟨R, right, rfl, -, outRight⟩ := List.map_eq_append_iff.1 hright
  have placed := paneGeometry_placed ok
  have placed' := paneGeometry_placed ok'
  rw [show left ++ P ++ (mid ++ (R ++ right)) = left ++ ((P ++ (mid ++ R)) ++ right) by
    simp only [List.append_assoc]] at placed
  rw [show left ++ P ++ (mid' ++ (R ++ right)) = left ++ ((P ++ (mid' ++ R)) ++ right) by
    simp only [List.append_assoc]] at placed'
  exact placed.steady placed' outLeft outRight (hasSize_canvas size)

lemma Divider.exists_geometry (ok : (plug (d.reweigh weights) around).paneGeometry size = .ok panes)
    (ne : weights' ≠ []) (weightsOk : WeightsOk d.children weights') :
    ∃ panes', (plug (d.reweigh weights') around).paneGeometry size = .ok panes' := by
  have wf := (paneGeometry_placed ok).wellFormed
  obtain ⟨hole, inside, left, here, _, right, -, -, placed, -, h⟩ :=
    (paneGeometry_placed ok).plug_steady (paneGeometry_placed ok) (hasSize_canvas size)
      (fits_of_paneGeometry ok) rfl
  obtain ⟨children, -, all⟩ := h.wellFormed
  have few : d.children.length ≤ u32Max := by
    cases placed with
    | split length extents hlength divided placed =>
      obtain ⟨-, small, -⟩ := splitExtents_eq_ok divided
      exact le_trans small.le (by decide)
  have wf' := wellFormed_plug wf (show (d.reweigh weights').WellFormed from ⟨children, weightsOk, all⟩)
  have redivided : Redivided (d.reweigh weights) (d.reweigh weights') :=
    .reweight few ne weightsOk
  have smaller := minimumSize_plug_le around redivided.minimum
  obtain ⟨columns, rows⟩ := fits_of_paneGeometry ok
  obtain ⟨panes', ok', -⟩ := (paneGeometry_tiles wf' size).1
    ⟨le_trans smaller.1 columns, le_trans smaller.2 rows⟩
  exact ⟨panes', ok'⟩

end Ctl.Proto.ViewLayout
