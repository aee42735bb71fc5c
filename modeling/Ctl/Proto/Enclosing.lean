import Ctl.Proto.Placement

/-!
# Splits around a layout

A layout with a hole is the list of the splits around the hole, the outermost first (`Enclosing`,
`plug`). Two layouts can be exchanged in the hole without touching a pane outside exactly when the
splits around it divide their lengths in the same way (`Steady`): `Placed.plug_steady` says that it
is enough, `Placed.steady` that it is necessary.
-/

namespace Ctl.Proto
open Ctl.Base

def SplitAxis.put {α : Type} (axis : SplitAxis) (extent : α) (size : α × α) : α × α :=
  match axis with
  | .horizontal => (extent, size.2)
  | .vertical => (size.1, extent)

def Rect.HasSize (r : Rect) (size : UInt16 × UInt16) : Prop :=
  r.columns = size.1.toNat ∧ r.rows = size.2.toNat

variable {r : Rect} {size : UInt16 × UInt16}

lemma Rect.HasSize.pick (h : r.HasSize size) (axis : SplitAxis) : (axis.pick size).toNat = r.length axis := by
  cases axis with
  | horizontal => exact h.1.symm
  | vertical => exact h.2.symm

lemma Rect.HasSize.slice (h : r.HasSize size) (axis : SplitAxis) (offset : Nat) (extent : UInt16) :
    (r.slice axis offset extent.toNat).HasSize (axis.put extent size) := by
  cases axis with
  | horizontal => exact ⟨rfl, h.2⟩
  | vertical => exact ⟨h.1, rfl⟩

namespace ViewLayout

/-- A split with one child left out. -/
structure Enclosing where
  axis : SplitAxis
  before : List ViewLayout
  after : List ViewLayout
  weights : List UInt32

/-- The children of the split when `inner` is put in. -/
def Enclosing.children (e : Enclosing) (inner : ViewLayout) : List ViewLayout :=
  e.before ++ inner :: e.after

/-- The split when `inner` is put in. -/
def Enclosing.fill (e : Enclosing) (inner : ViewLayout) : ViewLayout :=
  .split e.axis (e.children inner) e.weights

def plug (inner : ViewLayout) : List Enclosing → ViewLayout
  | [] => inner
  | e :: around => e.fill (plug inner around)

def leading : List Enclosing → List String
  | [] => []
  | e :: around => terminalIdsAll e.before ++ leading around

def trailing : List Enclosing → List String
  | [] => []
  | e :: around => trailing around ++ terminalIdsAll e.after

def extentsAround (inner : ViewLayout) : List Enclosing → UInt16 × UInt16 →
    Res String (List (List UInt16) × UInt16 × UInt16)
  | [], size => .ok ([], size)
  | e :: around, size => do
    let extents ← splitExtents e.axis (e.children (plug inner around)) e.weights (e.axis.pick size)
    let extent ← at? extents e.before.length
    let (rest, size) ← extentsAround inner around (e.axis.put extent size)
    return (extents :: rest, size)

/-- The splits around the hole divide their lengths for both layouts in the same way. -/
def Steady (around : List Enclosing) (size : UInt16 × UInt16) (inner inner' : ViewLayout) : Prop :=
  extentsAround inner' around size = extentsAround inner around size

instance (around : List Enclosing) (size : UInt16 × UInt16) (inner inner' : ViewLayout) :
    Decidable (Steady around size inner inner') :=
  inferInstanceAs (Decidable (_ = _))

lemma terminalIdsAll_append (children next : List ViewLayout) :
    terminalIdsAll (children ++ next) = terminalIdsAll children ++ terminalIdsAll next := by
  rw [terminalIdsAll_eq, terminalIdsAll_eq, terminalIdsAll_eq, List.flatMap_append]

lemma terminalIds_plug (inner : ViewLayout) (around : List Enclosing) :
    (plug inner around).terminalIds = leading around ++ (inner.terminalIds ++ trailing around) := by
  induction around with
  | nil => simp [plug, leading, trailing]
  | cons e around ih =>
    rw [plug, Enclosing.fill, terminalIds, Enclosing.children, terminalIdsAll_append,
      terminalIdsAll, ih, leading, trailing]
    simp only [List.append_assoc]

/-- The size is at least the smallest one. -/
def FitsIn (layout : ViewLayout) (size : UInt16 × UInt16) : Prop :=
  layout.minimumSize ≤ (size.1.toNat, size.2.toNat)

variable {size : UInt16 × UInt16} {e : Enclosing} {inner inner' : ViewLayout} {r : Rect}
  {panes left here right here' : List PaneGeometry} {around : List Enclosing} {before after : List UInt16}
  {extent : UInt16} {axis : SplitAxis} {children : List ViewLayout} {r' : Rect} {extent' : UInt16}
  {left' right' : List PaneGeometry}

lemma WellFormed.extents_of_fits {weights : List UInt32} {extents : List UInt16}
    (wf : (ViewLayout.split axis children weights).WellFormed)
    (fits : (ViewLayout.split axis children weights).FitsIn size)
    (ok : splitExtents axis children weights (axis.pick size) = .ok extents) :
    (∀ child ∈ children, 1 ≤ axis.pick child.minimumSize) ∧
    List.Forall₂ (fun child extent => axis.pick child.minimumSize ≤ extent.toNat)
      children extents := by
  obtain ⟨columns, rows⟩ := size
  exact wf.extents fits ok

/-! ### One enclosing split -/

structure Enclosing.Parts (e : Enclosing) (inner : ViewLayout) (r : Rect) (size : UInt16 × UInt16)
    (before after : List UInt16) (extent : UInt16) (left here right : List PaneGeometry) :
    Prop where
  divided : splitExtents e.axis (e.children inner) e.weights (e.axis.pick size)
    = .ok (before ++ extent :: after)
  length : before.length = e.before.length
  left : PlacedAll e.axis r e.before before 0 left
  here : Placed inner (r.slice e.axis (offsetAfter 0 before) extent.toNat) here
  right : PlacedAll e.axis r e.after after (offsetAfter 0 before + extent.toNat + 1) right

lemma Placed.parts (h : Placed (e.fill inner) r panes) (hsize : r.HasSize size) :
    ∃ before after extent left here right, panes = left ++ (here ++ right) ∧
      e.Parts inner r size before after extent left here right := by
  cases h with
  | split length extents hlength ok h =>
    obtain rfl : e.axis.pick size = length :=
      UInt16.toNat_inj.1 ((hsize.pick e.axis).trans hlength.symm)
    obtain ⟨before, rest, left, panes, rfl, len, rfl, hleft, hrest⟩ := h.append_inv
    cases hrest with
    | cons hhere hright =>
      exact ⟨before, _, _, left, _, _, rfl, ok, len, hleft, hhere, hright⟩

lemma Enclosing.Parts.extentsAround (h : e.Parts (plug inner around) r size before after extent left here right) :
    extentsAround inner (e :: around) size
      = (do
        let (rest, size) ← ViewLayout.extentsAround inner around (e.axis.put extent size)
        return ((before ++ extent :: after) :: rest, size)) := by
  have get : at? (before ++ extent :: after) e.before.length = .ok extent := by
    rw [at?, ← h.length, List.getElem?_append_right (le_refl _), Nat.sub_self,
      List.getElem?_cons_zero]
  rw [ViewLayout.extentsAround, h.divided, Res.ok_bind, get, Res.ok_bind]

lemma Enclosing.Parts.fits (h : e.Parts inner r size before after extent left here right)
    (wf : (e.fill inner).WellFormed) (fits : (e.fill inner).FitsIn size) : inner.FitsIn (e.axis.put extent size) := by
  obtain ⟨-, reach⟩ := wf.extents_of_fits fits h.divided
  have child : (e.children inner)[e.before.length]? = some inner := by
    rw [Enclosing.children, List.getElem?_append_right (le_refl _), Nat.sub_self,
      List.getElem?_cons_zero]
  have extent : (before ++ extent :: after)[e.before.length]? = some extent := by
    rw [← h.length, List.getElem?_append_right (le_refl _), Nat.sub_self, List.getElem?_cons_zero]
  have inside := child_fits fits reach child extent
  unfold FitsIn
  cases axis : e.axis with
  | horizontal =>
    rw [axis] at inside
    exact inside
  | vertical =>
    rw [axis] at inside
    exact inside

/-! ### All enclosing splits -/

/-- The hole of a placed layout: its rectangle and size, and the panes on its two sides. -/
structure Hole (around : List Enclosing) (size : UInt16 × UInt16) (inner : ViewLayout) (r : Rect)
    (inside : UInt16 × UInt16) (left right : List PaneGeometry) : Prop where
  extents : ∃ extents, extentsAround inner around size = .ok (extents, inside)
  size : r.HasSize inside
  wellFormed : inner.WellFormed
  fits : inner.FitsIn inside
  left : left.map (·.terminalId) = leading around
  right : right.map (·.terminalId) = trailing around

lemma Placed.extentsAround_eq_ok (h : Placed (plug inner around) r panes) (hsize : r.HasSize size) :
    ∃ extents inside, extentsAround inner around size
      = .ok (extents, inside) := by
  induction around generalizing r size panes with
  | nil => exact ⟨[], size, rfl⟩
  | cons e around ih =>
    obtain ⟨before, after, extent, left, here, right, rfl, parts⟩ := h.parts hsize
    obtain ⟨extents, inside, ok⟩ := ih parts.here (hsize.slice e.axis _ extent)
    refine ⟨(before ++ extent :: after) :: extents, inside, ?_⟩
    rw [parts.extentsAround, ok]
    rfl

lemma Enclosing.Parts.steady_iff {before' after' : List UInt16} (hsize : r.HasSize size) (hsize' : r'.HasSize size)
    (h : e.Parts (plug inner around) r size before after extent left here right)
    (h' : e.Parts (plug inner' around) r' size before' after' extent' left' here' right') :
    Steady (e :: around) size inner inner' ↔ (before' = before ∧ extent' = extent ∧ after' = after) ∧
      Steady around (e.axis.put extent size) inner inner' := by
  obtain ⟨extents, inside, ok⟩ := h.here.extentsAround_eq_ok (hsize.slice e.axis _ extent)
  obtain ⟨extents', inside', ok'⟩ := h'.here.extentsAround_eq_ok (hsize'.slice e.axis _ extent')
  unfold Steady
  rw [h.extentsAround, h'.extentsAround, ok, ok']
  constructor
  · intro same
    have same := Except.ok.inj same
    simp only [Prod.mk.injEq, List.cons.injEq] at same
    obtain ⟨⟨outside, rfl⟩, rfl⟩ := same
    have split := List.append_inj outside (h'.length.trans h.length.symm)
    obtain ⟨rfl, rfl⟩ := List.cons.inj split.2
    exact ⟨⟨split.1, rfl, rfl⟩, ok'⟩
  · intro same
    obtain ⟨⟨rfl, rfl, rfl⟩, same⟩ := same
    rw [same] at ok'
    obtain ⟨rfl, rfl⟩ := Prod.mk.inj (Except.ok.inj ok')
    rfl

lemma Placed.plug_steady {panes' : List PaneGeometry} (h : Placed (plug inner around) r panes)
    (h' : Placed (plug inner' around) r panes') (hsize : r.HasSize size) (fits : (plug inner around).FitsIn size)
    (steady : Steady around size inner inner') :
    ∃ hole inside left here here' right, panes = left ++ (here ++ right) ∧
      panes' = left ++ (here' ++ right) ∧ Placed inner hole here ∧ Placed inner' hole here' ∧
      Hole around size inner hole inside left right := by
  induction around generalizing r size panes panes' with
  | nil =>
    refine ⟨r, size, [], panes, panes', [], ?_, ?_, h, h', ⟨[], rfl⟩, hsize, h.wellFormed, fits, rfl,
      rfl⟩
    · rw [List.append_nil, List.nil_append]
    · rw [List.append_nil, List.nil_append]
  | cons e around ih =>
    obtain ⟨before, after, extent, left, here, right, rfl, parts⟩ := h.parts hsize
    obtain ⟨before', after', extent', left', here', right', rfl, parts'⟩ := h'.parts hsize
    obtain ⟨⟨rfl, rfl, rfl⟩, steady⟩ := (parts.steady_iff hsize hsize parts').1 steady
    obtain rfl := parts.left.unique parts'.left
    obtain rfl := parts.right.unique parts'.right
    obtain ⟨hole, inside, innerLeft, inHole, inHole', innerRight, rfl, rfl, placed, placed', here⟩ :=
      ih parts.here parts'.here (hsize.slice e.axis _ _) (parts.fits h.wellFormed fits) steady
    obtain ⟨extents, ok⟩ := here.extents
    refine ⟨hole, inside, left ++ innerLeft, inHole, inHole', innerRight ++ right, ?_, ?_, placed,
      placed', ⟨(before' ++ extent' :: after') :: extents, ?_⟩, here.size, here.wellFormed, here.fits,
      ?_, ?_⟩
    · simp only [List.append_assoc]
    · simp only [List.append_assoc]
    · rw [parts.extentsAround, ok]
      rfl
    · rw [List.map_append, parts.left.terminalIds, here.left, leading]
    · rw [List.map_append, parts.right.terminalIds, here.right, trailing]

lemma Enclosing.Parts.cut {e : Enclosing} {inner : ViewLayout} {r : Rect} {size : UInt16 × UInt16}
    {before after : List UInt16} {extent : UInt16} {P Q R left innerLeft here innerRight right :
      List PaneGeometry}
    (h : e.Parts inner r size before after extent P Q R)
    (hleft : left.map (·.terminalId) = terminalIdsAll e.before)
    (hright : right.map (·.terminalId) = terminalIdsAll e.after)
    (eq : left ++ (innerLeft ++ (here ++ (innerRight ++ right))) = P ++ (Q ++ R)) :
    P = left ∧ Q = innerLeft ++ (here ++ innerRight) ∧ R = right := by
  have lengthLeft := congrArg List.length (hleft.trans h.left.terminalIds.symm)
  have lengthRight := congrArg List.length (hright.trans h.right.terminalIds.symm)
  rw [List.length_map, List.length_map] at lengthLeft lengthRight
  obtain ⟨rfl, rest⟩ := List.append_inj eq lengthLeft
  have rest : (innerLeft ++ (here ++ innerRight)) ++ right = Q ++ R := by
    rw [← rest]
    simp only [List.append_assoc]
  obtain ⟨rfl, rfl⟩ := List.append_inj' rest lengthRight
  exact ⟨rfl, rfl, rfl⟩

lemma Enclosing.Parts.extent_unique (h : e.Parts inner r size before after extent left here right)
    (h' : e.Parts inner' r' size before after extent' left' here' right') : extent = extent' := by
  obtain ⟨-, -, -, -, sum⟩ := splitExtents_eq_ok h.divided
  obtain ⟨-, -, -, -, sum'⟩ := splitExtents_eq_ok h'.divided
  simp only [Enclosing.children, List.map_append, List.map_cons, List.sum_append, List.sum_cons,
    List.length_append, List.length_cons] at sum sum'
  apply UInt16.toNat_inj.1
  omega

lemma Placed.steady (h : Placed (plug inner around) r (left ++ (here ++ right)))
    (h' : Placed (plug inner' around) r (left ++ (here' ++ right))) (hleft : left.map (·.terminalId) = leading around)
    (hright : right.map (·.terminalId) = trailing around) (hsize : r.HasSize size) :
    Steady around size inner inner' := by
  induction around generalizing r size left right with
  | nil => rfl
  | cons e around ih =>
    obtain ⟨left, innerLeft, rfl, outLeft, inLeft⟩ := List.map_eq_append_iff.1 hleft
    obtain ⟨innerRight, right, rfl, inRight, outRight⟩ := List.map_eq_append_iff.1 hright
    simp only [List.append_assoc] at h h'
    obtain ⟨before, after, extent, P, Q, R, eq, parts⟩ := h.parts hsize
    obtain ⟨before', after', extent', P', Q', R', eq', parts'⟩ := h'.parts hsize
    obtain ⟨rfl, rfl, rfl⟩ := parts.cut outLeft outRight eq
    obtain ⟨rfl, rfl, rfl⟩ := parts'.cut outLeft outRight eq'
    obtain ⟨rfl, -⟩ := parts.left.rect_unique parts'.left rfl
    obtain ⟨rfl, -⟩ := parts.right.rect_unique parts'.right rfl
    obtain rfl : extent = extent' := parts.extent_unique parts'
    exact (parts.steady_iff hsize hsize parts').2 ⟨⟨rfl, rfl, rfl⟩,
      ih parts.here parts'.here inLeft inRight (hsize.slice e.axis _ extent)⟩

/-! ### Smaller layouts in the hole -/

lemma minimumSize_plug_le (around : List Enclosing) (le : inner'.minimumSize ≤ inner.minimumSize) :
    (plug inner' around).minimumSize ≤ (plug inner around).minimumSize := by
  induction around with
  | nil => exact le
  | cons e around ih =>
    simp only [plug, Enclosing.fill, minimumSize, minimumSizes_eq, Enclosing.children, List.map_append,
      List.map_cons]
    apply splitMinimum_mono
    refine List.sublistForall₂_iff.2 ⟨_, ?_, List.Sublist.refl _⟩
    exact List.rel_append (List.forall₂_same.2 fun _ _ => le_refl _)
      (.cons ih (List.forall₂_same.2 fun _ _ => le_refl _))

lemma wellFormed_plug (wf : (plug inner around).WellFormed) (wf' : inner'.WellFormed) :
    (plug inner' around).WellFormed := by
  induction around with
  | nil => exact wf'
  | cons e around ih =>
    obtain ⟨-, weights, all⟩ := wf
    rw [wellFormedAll_iff] at all
    refine ⟨by simp [Enclosing.children], ?_, wellFormedAll_iff.2 fun child hc => ?_⟩
    · unfold WeightsOk Enclosing.children at *
      simpa using weights
    · have inside := ih (all _ (by simp [Enclosing.children]))
      rcases List.mem_append.1 hc with hc | hc
      · exact all child (List.mem_append_left _ hc)
      · rcases List.mem_cons.1 hc with rfl | hc
        · exact inside
        · exact all child (List.mem_append_right _ (List.mem_cons_of_mem _ hc))

lemma splitExtents_congr {children' : List ViewLayout} (same : children.map minimumSize = children'.map minimumSize)
    (weights : List UInt32) (length : UInt16) :
    splitExtents axis children weights length = splitExtents axis children' weights length := by
  have len := congrArg List.length same
  rw [List.length_map, List.length_map] at len
  unfold splitExtents
  rw [minimumSizes_eq, minimumSizes_eq, same, len]

lemma extentsAround_congr (same : inner.minimumSize = inner'.minimumSize) (around : List Enclosing)
    (size : UInt16 × UInt16) : extentsAround inner around size = extentsAround inner' around size := by
  induction around generalizing size with
  | nil => rfl
  | cons e around ih =>
    have inside : (plug inner around).minimumSize = (plug inner' around).minimumSize :=
      le_antisymm (minimumSize_plug_le around same.le) (minimumSize_plug_le around same.ge)
    have children : (e.children (plug inner around)).map minimumSize
        = (e.children (plug inner' around)).map minimumSize := by
      simp only [Enclosing.children, List.map_append, List.map_cons, inside]
    simp only [extentsAround, splitExtents_congr children, ih]

end ViewLayout
end Ctl.Proto
