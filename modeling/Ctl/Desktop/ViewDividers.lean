import Ctl.Proto.ResizeDivider
import Mathlib.Data.Rat.Floor

/-!
# Dividers of the desktop

Model of `viewDividers` in `apps/desktop/src/features/terminal/viewLayout.ts`, with the cell at which `begin` of
`useDividerDrag.ts` starts. The desktop builds the rectangle of every split from those of its leaves: on panes that
`pane_geometry` has placed it is the rectangle that the daemon has divided (`rectOf_placed`), so the middle between two
children lies in the gap that `place_divider` moves.
-/

namespace Ctl.Desktop.ViewDividers
open Ctl.Base Ctl.Proto Ctl.Proto.ViewLayout

/-- TypeScript `PaneRect`, with `width` and `height` as the columns and rows of a rectangle. -/
structure PaneRect where
  terminalId : String
  rect : Rect
  visible : Bool

/-- TypeScript `ViewDivider`. A number with a fraction is half a cell. -/
structure ViewDivider where
  path : String
  splitPath : List Nat
  boundary : Nat
  vertical : Bool
  left : ℚ
  top : ℚ
  length : Nat

def enclosing (visible : List Rect) : Option Rect :=
  if visible.isEmpty then none
  else
    let left := (visible.map (·.left)).min?.getD 0
    let top := (visible.map (·.top)).min?.getD 0
    let right := (visible.map fun rect => rect.left + rect.columns).max?.getD 0
    let bottom := (visible.map fun rect => rect.top + rect.rows).max?.getD 0
    some ⟨left, top, right - left, bottom - top⟩

def separator (axis : SplitAxis) (splitPath : List Nat) (box : Rect) (index : Nat) (previous next : Rect) :
    ViewDivider :=
  let vertical : Bool := axis = .horizontal
  { path := "root." ++ ".".intercalate ((splitPath ++ [index]).map toString)
    splitPath
    boundary := index
    vertical
    left := if vertical then ((previous.left + previous.columns + next.left : Nat) : ℚ) / 2 else box.left
    top := if vertical then box.top else ((previous.top + previous.rows + next.top : Nat) : ℚ) / 2
    length := if vertical then box.rows else box.columns }

def separators (axis : SplitAxis) (splitPath : List Nat) (box : Rect) : Nat → List (Option Rect) → List ViewDivider
  | index, previous :: next :: children =>
    (match previous, next with
      | some previous, some next => [separator axis splitPath box index previous next]
      | _, _ => []) ++ separators axis splitPath box (index + 1) (next :: children)
  | _, _ => []

mutual
/-- TypeScript `visit`: the dividers that it pushes, and the rectangle that it returns. -/
def visit (panes : List PaneRect) (splitPath : List Nat) : ViewLayout → List ViewDivider × Option Rect
  | .terminal id => ([], (panes.find? fun pane => pane.terminalId = id ∧ pane.visible).map (·.rect))
  | .split axis children _ =>
    let (dividers, rects) := visitAll panes splitPath 0 children
    match enclosing rects.reduceOption with
    | none => (dividers, none)
    | some box => (dividers ++ separators axis splitPath box 0 rects, some box)
/-- `visit` on the children from an index on. -/
def visitAll (panes : List PaneRect) (splitPath : List Nat) :
    Nat → List ViewLayout → List ViewDivider × List (Option Rect)
  | _, [] => ([], [])
  | index, child :: children =>
    let (dividers, rect) := visit panes (splitPath ++ [index]) child
    let (others, rects) := visitAll panes splitPath (index + 1) children
    (dividers ++ others, rect :: rects)
end

/-- TypeScript `viewDividers`. -/
def viewDividers (layout : ViewLayout) (panes : List PaneRect) : List ViewDivider := (visit panes [] layout).1

/-- The cell at which TypeScript `begin` starts to drag. -/
def ViewDivider.position (divider : ViewDivider) : Int := ⌊if divider.vertical then divider.left else divider.top⌋

/-! ### What is visited -/

variable {panes : List PaneRect} {layout child : ViewLayout} {children : List ViewLayout} {axis : SplitAxis}
  {path : List Nat} {index : Nat} {divider : ViewDivider} {around : List Enclosing} {d : Divider}
  {box previous next : Rect} {rects : List (Option Rect)} {r : Rect} {offset : Nat} {extents : List UInt16}

def rectOf (panes : List PaneRect) (layout : ViewLayout) : Option Rect := (visit panes [] layout).2

lemma visitAll_rects (each : ∀ child ∈ children, ∀ path, (visit panes path child).2 = rectOf panes child) :
    (visitAll panes path index children).2 = children.map (rectOf panes) := by
  induction children generalizing index with
  | nil => rfl
  | cons child children ih =>
    obtain ⟨here, others⟩ := List.forall_mem_cons.1 each
    rw [visitAll, List.map_cons, ← here (path ++ [index]), ← ih others]

lemma visit_rect (path : List Nat) : (visit panes path layout).2 = rectOf panes layout := by
  induction layout generalizing path with
  | terminal id => rfl
  | split axis children weights ih =>
    rw [rectOf, visit, visit]
    dsimp only
    rw [visitAll_rects ih, visitAll_rects ih]
    split
    · rfl
    · rfl

lemma rectOf_split (weights : List UInt32) :
    rectOf panes (.split axis children weights) = enclosing (children.map (rectOf panes)).reduceOption := by
  rw [rectOf, visit]
  dsimp only
  rw [visitAll_rects fun child _ path => visit_rect path]
  split
  case h_1 none => exact none.symm
  case h_2 some => exact some.symm

lemma visit_split (weights : List UInt32) :
    (visit panes path (.split axis children weights)).1 = (visitAll panes path 0 children).1 ++
      (match rectOf panes (.split axis children weights) with
        | none => []
        | some box => separators axis path box 0 (children.map (rectOf panes))) := by
  rw [rectOf_split, visit]
  dsimp only
  rw [visitAll_rects fun child _ path => visit_rect path]
  split
  · rw [List.append_nil]
  · rfl

lemma mem_separators : divider ∈ separators axis path box index rects ↔
    ∃ before previous next after, rects = before ++ some previous :: some next :: after ∧
      divider = separator axis path box (index + before.length) previous next := by
  fun_induction separators axis path box index rects with
  | case1 index previous next children ih =>
    rw [List.mem_append, ih]
    constructor
    · intro mem
      cases mem with
      | inl here =>
        split at here
        case h_1 previous next => exact ⟨[], previous, next, children, rfl, List.mem_singleton.1 here⟩
        case h_2 => cases here
      | inr later =>
        obtain ⟨before, p, n, after, eq, rfl⟩ := later
        refine ⟨previous :: before, p, n, after, by rw [eq]; rfl, ?_⟩
        rw [List.length_cons, Nat.add_right_comm, Nat.add_assoc]
    · rintro ⟨before, p, n, after, eq, rfl⟩
      cases before with
      | nil =>
        obtain ⟨rfl, rest⟩ := List.cons.inj eq
        obtain ⟨rfl, rfl⟩ := List.cons.inj rest
        exact .inl List.mem_cons_self
      | cons first before =>
        refine .inr ⟨before, p, n, after, (List.cons.inj eq).2, ?_⟩
        rw [List.length_cons, Nat.add_right_comm, Nat.add_assoc]
  | case2 index rects short =>
    constructor
    · intro mem
      cases mem
    · rintro ⟨before, p, n, after, rfl, -⟩
      cases before with
      | nil => exact absurd rfl (short _ _ _)
      | cons first before =>
        cases before with
        | nil => exact absurd rfl (short _ _ _)
        | cons second before => exact absurd rfl (short _ _ _)

lemma mem_visitAll : divider ∈ (visitAll panes path index children).1 ↔
    ∃ before child after, children = before ++ child :: after ∧
      divider ∈ (visit panes (path ++ [index + before.length]) child).1 := by
  induction children generalizing index with
  | nil => simp [visitAll]
  | cons first children ih =>
    rw [visitAll, List.mem_append, ih]
    constructor
    · intro mem
      cases mem with
      | inl here => exact ⟨[], first, children, rfl, here⟩
      | inr later =>
        obtain ⟨before, child, after, rfl, mem⟩ := later
        refine ⟨first :: before, child, after, rfl, ?_⟩
        rwa [List.length_cons, ← Nat.add_assoc, Nat.add_right_comm]
    · rintro ⟨before, child, after, eq, mem⟩
      cases before with
      | nil =>
        obtain ⟨rfl, rfl⟩ := List.cons.inj eq
        exact .inl mem
      | cons second before =>
        obtain ⟨rfl, rfl⟩ := List.cons.inj eq
        refine .inr ⟨before, child, after, rfl, ?_⟩
        rwa [Nat.add_right_comm, Nat.add_assoc]

/-- A boundary of a split between two children that are shown. -/
structure Between (panes : List PaneRect) (layout : ViewLayout) (path : List Nat) (divider : ViewDivider)
    (around : List Enclosing) (d : Divider) (box previous next : Rect) : Prop where
  layout_eq : layout = plug d.layout around
  layout : rectOf panes d.layout = some box
  left : rectOf panes d.left = some previous
  right : rectOf panes d.right = some next
  divider : divider = separator d.axis (path ++ around.map (·.before.length)) box d.before.length previous next

lemma exists_between (mem : divider ∈ (visit panes path layout).1) :
    ∃ around d box previous next, Between panes layout path divider around d box previous next := by
  induction layout generalizing path with
  | terminal id => cases mem
  | split axis children weights ih =>
    rw [visit_split, List.mem_append] at mem
    cases mem with
    | inl inner =>
      obtain ⟨before, child, after, rfl, mem⟩ := mem_visitAll.1 inner
      obtain ⟨around, d, box, previous, next, h⟩ := ih child (by simp) mem
      refine ⟨⟨axis, before, after, weights⟩ :: around, d, box, previous, next, ?_, h.layout, h.left, h.right, ?_⟩
      · rw [h.layout_eq]
        rfl
      · rw [h.divider, List.append_assoc, Nat.zero_add]
        rfl
    | inr own =>
      split at own
      case h_1 => cases own
      case h_2 box shown =>
        obtain ⟨rects, previous, next, others, eq, rfl⟩ := mem_separators.1 own
        obtain ⟨before, behind, rfl, rfl, eq'⟩ := List.map_eq_append_iff.1 eq
        obtain ⟨left, behind, rfl, hleft, eq'⟩ := List.map_eq_cons_iff.1 eq'
        obtain ⟨right, after, rfl, hright, rfl⟩ := List.map_eq_cons_iff.1 eq'
        refine ⟨[], ⟨axis, before, left, right, after, weights⟩, box, previous, next, rfl, shown, hleft, hright, ?_⟩
        rw [List.length_map, Nat.zero_add, List.map_nil, List.append_nil]

lemma Between.mem (h : Between panes layout path divider around d box previous next) :
    divider ∈ (visit panes path layout).1 := by
  obtain ⟨rfl, shown, hleft, hright, rfl⟩ := h
  induction around generalizing path with
  | nil =>
    rw [plug, Divider.layout, Divider.reweigh, visit_split]
    refine List.mem_append_right _ ?_
    rw [Divider.layout, Divider.reweigh] at shown
    rw [shown]
    refine mem_separators.2 ⟨d.before.map (rectOf panes), previous, next, d.after.map (rectOf panes), ?_, ?_⟩
    · rw [Divider.children, List.map_append, List.map_cons, List.map_cons, hleft, hright]
    · rw [List.length_map, Nat.zero_add, List.map_nil, List.append_nil]
  | cons e around ih =>
    rw [plug, Enclosing.fill, visit_split]
    refine List.mem_append_left _ (mem_visitAll.2 ⟨e.before, plug d.layout around, e.after, rfl, ?_⟩)
    have path_eq : path ++ (e :: around).map (·.before.length)
        = path ++ [e.before.length] ++ around.map (·.before.length) := List.append_cons ..
    rw [Nat.zero_add, path_eq]
    exact ih

def ViewDivider.key (divider : ViewDivider) : List Nat × Nat := (divider.splitPath, divider.boundary)

lemma separators_nodup : ((separators axis path box index rects).map ViewDivider.key).Nodup := by
  fun_induction separators axis path box index rects with
  | case1 index previous next children ih =>
    rw [List.map_append, List.nodup_append]
    refine ⟨?_, ih, ?_⟩
    · split
      · exact List.nodup_singleton _
      · exact List.nodup_nil
    · intro key here key' later same
      obtain ⟨divider, mem, rfl⟩ := List.mem_map.1 later
      obtain ⟨before, p, n, after, -, rfl⟩ := mem_separators.1 mem
      split at here
      case h_1 =>
        rw [List.map_singleton, List.mem_singleton] at here
        rw [here] at same
        have index : index = index + 1 + before.length := congrArg Prod.snd same
        omega
      case h_2 => cases here
  | case2 => exact List.nodup_nil

lemma visitAll_nodup (each : ∀ child ∈ children, ∀ path, ((visit panes path child).1.map ViewDivider.key).Nodup) :
    ((visitAll panes path index children).1.map ViewDivider.key).Nodup := by
  induction children generalizing index with
  | nil => exact List.nodup_nil
  | cons child children ih =>
    obtain ⟨here, others⟩ := List.forall_mem_cons.1 each
    rw [visitAll, List.map_append, List.nodup_append]
    refine ⟨here _, ih others, ?_⟩
    intro key first key' later same
    obtain ⟨divider, mem, rfl⟩ := List.mem_map.1 first
    obtain ⟨divider', mem', rfl⟩ := List.mem_map.1 later
    obtain ⟨before, child', after, rfl, inner⟩ := mem_visitAll.1 mem'
    obtain ⟨around, d, box, previous, next, -, -, -, -, rfl⟩ := exists_between mem
    obtain ⟨around', d', box', previous', next', -, -, -, -, rfl⟩ := exists_between inner
    -- The two paths part at the index of the child.
    have same : path ++ [index] ++ around.map (·.before.length)
        = path ++ [index + 1 + before.length] ++ around'.map (·.before.length) := congrArg Prod.fst same
    rw [List.append_assoc, List.append_assoc] at same
    have index := (List.cons.inj (List.append_cancel_left same)).1
    omega

/-- No boundary has two dividers. -/
lemma visit_nodup : ((visit panes path layout).1.map ViewDivider.key).Nodup := by
  induction layout generalizing path with
  | terminal id => exact List.nodup_nil
  | split axis children weights ih =>
    rw [visit_split, List.map_append, List.nodup_append]
    refine ⟨visitAll_nodup fun child mem path => ih child mem, ?_, ?_⟩
    · split
      · exact List.nodup_nil
      · exact separators_nodup
    · intro key inner key' own same
      split at own
      case h_1 => cases own
      case h_2 =>
        obtain ⟨divider, mem, rfl⟩ := List.mem_map.1 inner
        obtain ⟨divider', mem', rfl⟩ := List.mem_map.1 own
        obtain ⟨before, child, after, rfl, deeper⟩ := mem_visitAll.1 mem
        obtain ⟨around, d, box, previous, next, -, -, -, -, rfl⟩ := exists_between deeper
        obtain ⟨before', p, n, after', -, rfl⟩ := mem_separators.1 mem'
        have same : path ++ [0 + before.length] ++ around.map (·.before.length) = path := congrArg Prod.fst same
        rw [List.append_assoc] at same
        cases List.append_right_eq_self.1 same

/-! ### Placed panes -/

lemma enclosing_eq {rects : List Rect} (inside : ∀ rect ∈ rects, rect.Inside r)
    (first : ∃ rect ∈ rects, rect.left = r.left ∧ rect.top = r.top)
    (last : ∃ rect ∈ rects, rect.left + rect.columns = r.left + r.columns ∧ rect.top + rect.rows = r.top + r.rows) :
    enclosing rects = some r := by
  obtain ⟨start, hstart, left, top⟩ := first
  obtain ⟨stop, hstop, right, bottom⟩ := last
  have hleft : (rects.map (·.left)).min? = some r.left := by
    rw [List.min?_eq_some_iff]
    refine ⟨List.mem_map.2 ⟨start, hstart, left⟩, ?_⟩
    exact List.forall_mem_map.2 fun rect mem => (inside rect mem).1.1
  have htop : (rects.map (·.top)).min? = some r.top := by
    rw [List.min?_eq_some_iff]
    refine ⟨List.mem_map.2 ⟨start, hstart, top⟩, ?_⟩
    exact List.forall_mem_map.2 fun rect mem => (inside rect mem).2.1
  have hright : (rects.map fun rect => rect.left + rect.columns).max? = some (r.left + r.columns) := by
    rw [List.max?_eq_some_iff]
    refine ⟨List.mem_map.2 ⟨stop, hstop, right⟩, ?_⟩
    exact List.forall_mem_map.2 fun rect mem => (inside rect mem).1.2
  have hbottom : (rects.map fun rect => rect.top + rect.rows).max? = some (r.top + r.rows) := by
    rw [List.max?_eq_some_iff]
    refine ⟨List.mem_map.2 ⟨stop, hstop, bottom⟩, ?_⟩
    exact List.forall_mem_map.2 fun rect mem => (inside rect mem).2.2
  rw [enclosing, if_neg (by rw [List.isEmpty_iff]; exact List.ne_nil_of_mem hstart), hleft, htop, hright, hbottom]
  dsimp only [Option.getD_some]
  rw [Nat.add_sub_cancel_left, Nat.add_sub_cancel_left]

def slices (axis : SplitAxis) (r : Rect) : Nat → List UInt16 → List Rect
  | _, [] => []
  | offset, extent :: extents =>
    r.slice axis offset extent.toNat :: slices axis r (offset + extent.toNat + 1) extents

lemma slices_inside (room : offset + (extents.map UInt16.toNat).sum + (extents.length - 1) ≤ r.length axis) :
    ∀ rect ∈ slices axis r offset extents, rect.Inside r := by
  induction extents generalizing offset with
  | nil => exact fun rect mem => absurd mem List.not_mem_nil
  | cons extent extents ih =>
    rw [List.map_cons, List.sum_cons, List.length_cons] at room
    refine List.forall_mem_cons.2 ⟨Rect.slice_inside (by omega), ?_⟩
    cases extents with
    | nil => exact fun rect mem => absurd mem List.not_mem_nil
    | cons second extents =>
      apply ih
      rw [List.length_cons] at room ⊢
      omega

lemma slices_last (ne : extents ≠ [])
    (room : offset + (extents.map UInt16.toNat).sum + (extents.length - 1) = r.length axis) :
    ∃ rect ∈ slices axis r offset extents,
      rect.left + rect.columns = r.left + r.columns ∧ rect.top + rect.rows = r.top + r.rows := by
  induction extents generalizing offset with
  | nil => exact absurd rfl ne
  | cons extent extents ih =>
    rw [List.map_cons, List.sum_cons, List.length_cons] at room
    cases extents with
    | nil =>
      refine ⟨_, List.mem_cons_self, ?_⟩
      have room : offset + extent.toNat = r.length axis := room
      cases axis with
      | horizontal =>
        have room : offset + extent.toNat = r.columns := room
        exact ⟨by rw [← room]; exact Nat.add_assoc .., rfl⟩
      | vertical =>
        have room : offset + extent.toNat = r.rows := room
        exact ⟨rfl, by rw [← room]; exact Nat.add_assoc ..⟩
    | cons second extents =>
      have room : offset + extent.toNat + 1 + ((second :: extents).map UInt16.toNat).sum +
          ((second :: extents).length - 1) = r.length axis := by
        rw [List.length_cons] at room ⊢
        omega
      obtain ⟨rect, mem, last⟩ := ih (List.cons_ne_nil _ _) room
      exact ⟨rect, List.mem_cons_of_mem _ mem, last⟩

lemma enclosing_slices (ne : extents ≠ [])
    (sum : (extents.map UInt16.toNat).sum + (extents.length - 1) = r.length axis) :
    enclosing (slices axis r 0 extents) = some r := by
  refine enclosing_eq (slices_inside (by omega)) ?_ (slices_last ne (by omega))
  cases extents with
  | nil => exact absurd rfl ne
  | cons extent extents =>
    refine ⟨_, List.mem_cons_self, ?_⟩
    cases axis with
    | horizontal => exact ⟨rfl, rfl⟩
    | vertical => exact ⟨rfl, rfl⟩

def Shown (panes : List PaneRect) (here : List PaneGeometry) : Prop :=
  ∀ pane ∈ here, rectOf panes (.terminal pane.terminalId) = some pane.rect

mutual
/-- The desktop finds the rectangle of a placed layout. -/
theorem rectOf_placed {layout r here} :
    Placed layout r here → Shown panes here → rectOf panes layout = some r
  | .terminal pane id rect, shown => by
    rw [← id, ← rect]
    exact shown pane List.mem_cons_self
  | .split length extents hlength divided h, shown => by
    obtain ⟨ne, -, -, len, sum⟩ := splitExtents_eq_ok divided
    rw [rectOf_split, rects_placed h shown]
    delta List.reduceOption
    rw [List.filterMap_map, Function.id_comp,
      List.filterMap_some, enclosing_slices ?_ ?_]
    · rw [← List.length_pos_iff, len, List.length_pos_iff]
      exact ne
    · rw [len, sum, hlength]
/-- `rectOf_placed` for a list of children. -/
theorem rects_placed {axis r children extents offset here} :
    PlacedAll axis r children extents offset here → Shown panes here →
      children.map (rectOf panes) = (slices axis r offset extents).map some
  | .nil, _ => rfl
  | .cons h others, shown => by
    rw [List.map_cons, slices, List.map_cons,
      rectOf_placed h fun pane mem => shown pane (List.mem_append_left _ mem),
      rects_placed others fun pane mem => shown pane (List.mem_append_right _ mem)]
end

def drawn (pane : PaneGeometry) : PaneRect := ⟨pane.terminalId, pane.rect, true⟩

lemma shown_drawn {panes : List PaneGeometry} (distinct : (panes.map (·.terminalId)).Nodup) :
    Shown (panes.map drawn) panes := by
  intro pane mem
  have found : panes.find? (fun other => other.terminalId = pane.terminalId) = some pane := by
    have some : (panes.find? fun other => other.terminalId = pane.terminalId).isSome := by
      rw [List.find?_isSome]
      exact ⟨pane, mem, decide_eq_true rfl⟩
    obtain ⟨other, found⟩ := Option.isSome_iff_exists.1 some
    have same : other.terminalId = pane.terminalId := by simpa using List.find?_some found
    rw [found, List.inj_on_of_nodup_map distinct (List.mem_of_find?_eq_some found) mem same]
  have drawn_eq : ((fun other : PaneRect => decide (other.terminalId = pane.terminalId ∧ other.visible)) ∘ drawn)
      = fun other : PaneGeometry => decide (other.terminalId = pane.terminalId) := by
    funext other
    exact decide_eq_decide.2 (and_iff_left rfl)
  rw [rectOf, visit, List.find?_map, drawn_eq, found]
  rfl

/-! ### The gaps of the daemon -/

mutual
def depth : ViewLayout → Nat
  | .terminal _ => 0
  | .split _ children _ => depthAll children + 1
/-- `depth` of a list of children. -/
def depthAll : List ViewLayout → Nat
  | [] => 0
  | child :: children => max (depth child) (depthAll children)
end

lemma depth_le_depthAll (mem : child ∈ children) : depth child ≤ depthAll children := by
  induction children with
  | nil => cases mem
  | cons first children ih =>
    cases List.mem_cons.1 mem with
    | inl here => exact here ▸ le_max_left _ _
    | inr later => exact (ih later).trans (le_max_right _ _)

lemma length_le_depth (inner : ViewLayout) (around : List Enclosing) : around.length ≤ depth (plug inner around) := by
  induction around with
  | nil => exact Nat.zero_le _
  | cons e around ih =>
    refine Nat.succ_le_succ (ih.trans (depth_le_depthAll ?_))
    exact List.mem_append_right _ List.mem_cons_self

variable {size : TerminalSize} {placed : List PaneGeometry}

lemma exists_path {inner : ViewLayout} {here : List PaneGeometry} (h : Placed (plug inner around) r here) :
    ∃ splitPath, Follows splitPath around := by
  induction around generalizing r here with
  | nil => exact ⟨[], rfl⟩
  | cons e around ih =>
    cases h with
    | split length extents hlength divided all =>
      obtain ⟨-, few, -⟩ := splitExtents_eq_ok divided
      rw [Enclosing.children, List.length_append] at few
      obtain ⟨before, others, left, right, rfl, -, rfl, -, others⟩ := all.append_inv
      cases others with
      | cons inside after =>
        obtain ⟨splitPath, follows⟩ := ih inside
        refine ⟨UInt16.ofNat e.before.length :: splitPath, ?_⟩
        rw [Follows, List.map_cons, List.map_cons, follows, toNat_ofNat_u16 (by omega)]

/-- The children at a boundary are shown on the two sides of the gap. -/
lemma exists_divider {inside : UInt16 × UInt16} {before after : List UInt16} {total : Nat} {hole : Rect}
    {cell : Int} {first second : UInt16} (distinct : (placed.map (·.terminalId)).Nodup)
    (h : Dragged d around size inside before after total hole layout cell d.weights first second placed) :
    Between (placed.map drawn) layout path
      (separator d.axis (path ++ around.map (·.before.length)) hole d.before.length
        (hole.slice d.axis (offsetAfter 0 before) first.toNat)
        (hole.slice d.axis (offsetAfter 0 before + first.toNat + 1) second.toNat)) around d hole
      (hole.slice d.axis (offsetAfter 0 before) first.toNat)
      (hole.slice d.axis (offsetAfter 0 before + first.toNat + 1) second.toNat) := by
  have hsize := h.hasSize
  obtain ⟨left, here, right, rfl, -, inHole⟩ := h.inHole
  have shown : Shown (_ : List PaneRect) here := fun pane mem =>
    shown_drawn distinct pane (List.mem_append_right _ (List.mem_append_left _ mem))
  have whole := rectOf_placed inHole shown
  cases inHole with
  | split length extents hlength divided all =>
    obtain rfl : d.axis.pick inside = length := UInt16.toNat_inj.1 ((hsize.pick d.axis).trans hlength.symm)
    obtain rfl := Except.ok.inj (h.on.extents.divided.symm.trans divided)
    obtain ⟨before', others, outer, inner, eq, len, rfl, -, others'⟩ := all.append_inv
    obtain ⟨rfl, rfl⟩ := List.append_inj eq (h.on.extents.length.trans len.symm)
    cases others' with
    | cons first' others' =>
      cases others' with
      | cons second' after' =>
        refine ⟨h.layout_eq, whole, ?_, ?_, rfl⟩
        · exact rectOf_placed first' fun pane mem =>
            shown pane (List.mem_append_right _ (List.mem_append_left _ mem))
        · exact rectOf_placed second' fun pane mem =>
            shown pane (List.mem_append_right _ (List.mem_append_right _ (List.mem_append_left _ mem)))

lemma floor_half (cell : Nat) : ⌊((2 * cell + 1 : Nat) : ℚ) / 2⌋ = cell := by
  rw [Int.floor_eq_iff]
  push_cast
  constructor
  · linarith
  · linarith

/-- The middle between two neighbours is in the gap cell behind the first of them. -/
lemma separator_position (axis : SplitAxis) (path : List Nat) (box : Rect) (index offset first second : Nat) :
    (separator axis path box index (box.slice axis offset first)
      (box.slice axis (offset + first + 1) second)).position
      = (axis.pick (box.left, box.top) + offset + first : Nat) := by
  cases axis with
  | horizontal =>
    have twice : box.left + offset + first + (box.left + (offset + first + 1))
        = 2 * (box.left + offset + first) + 1 := by omega
    exact (congrArg (fun n : Nat => ⌊(n : ℚ) / 2⌋) twice).trans (floor_half _)
  | vertical =>
    have twice : box.top + offset + first + (box.top + (offset + first + 1))
        = 2 * (box.top + offset + first) + 1 := by omega
    exact (congrArg (fun n : Nat => ⌊(n : ℚ) / 2⌋) twice).trans (floor_half _)

/-- A divider of the desktop and the boundary `d` that its path and its index address: the daemon has placed the panes
of the split in `hole`, and has divided it into `before`, `first`, `second` and `after`. -/
structure Agrees (layout : ViewLayout) (size : TerminalSize) (placed : List PaneGeometry) (divider : ViewDivider)
    (around : List Enclosing) (d : Divider) (splitPath : List UInt16) (boundary position : UInt16)
    (hole : Rect) (inside : UInt16 × UInt16) (before after : List UInt16) (first second : UInt16) : Prop where
  path : divider.splitPath = splitPath.map UInt16.toNat
  index : divider.boundary = boundary.toNat
  cell : divider.position = position.toNat
  vertical : divider.vertical = true ↔ d.axis = .horizontal
  addresses : Addresses splitPath boundary size layout around d
  inHole : InHole around d.layout hole placed
  on : d.On around (cells size) d.weights inside before first second after
  /-- The gap cell of the boundary. -/
  gap : position.toNat = d.start hole before + first.toNat
  stays : resizeDividerInPlace splitPath boundary position size layout = (.ok false, layout)
  start : (if divider.vertical then divider.top else divider.left) = (d.axis.cross (hole.left, hole.top) : ℚ)
  length : divider.length = d.axis.cross (hole.columns, hole.rows)

lemma addresses_of_plug (levels : depth layout ≤ 16) (ok : layout.paneGeometry size = .ok placed)
    (layout_eq : layout = plug d.layout around) :
    ∃ splitPath boundary, Addresses splitPath boundary size layout around d := by
  have inside := paneGeometry_placed ok
  rw [layout_eq] at inside
  obtain ⟨splitPath, follows⟩ := exists_path inside
  have few : d.before.length < 2 ^ 16 := by
    rw [layout_eq] at ok
    obtain ⟨size, before, first, second, after, on⟩ := Divider.exists_on ok
    obtain ⟨-, few, -⟩ := splitExtents_eq_ok on.extents.divided
    rw [Divider.children, List.length_append] at few
    omega
  refine ⟨splitPath, UInt16.ofNat d.before.length, layout_eq, follows, ?_, ?_, by rw [ok]; rfl⟩
  · have deep := length_le_depth d.layout around
    have same := congrArg List.length follows
    rw [List.length_map, List.length_map] at same
    rw [← layout_eq] at deep
    omega
  · rw [toNat_ofNat_u16 few]

/-- The divider of an addressed boundary is the only one with its path and index, and lies in the gap. -/
lemma Addresses.agrees {splitPath : List UInt16} {boundary : UInt16} (distinct : (placed.map (·.terminalId)).Nodup)
    (ok : layout.paneGeometry size = .ok placed) (h : Addresses splitPath boundary size layout around d) :
    ∃ divider ∈ viewDividers layout (placed.map drawn), divider.key = (around.map (·.before.length), d.before.length) ∧
      ∃ position hole inside before after first second,
        Agrees layout size placed divider around d splitPath boundary position hole inside before after first second := by
  obtain ⟨inside, before, after, total, hole, cell, first, second, panes, start⟩ := h.dragged
  obtain rfl : placed = panes := by
    have same := start.ok
    rw [← Divider.layout, ← h.layout_eq, ok] at same
    exact Except.ok.inj same
  have lt := start.start_lt h.path
  have position := toNat_ofNat_u16 (n := d.start hole before + first.toNat) (by omega)
  refine ⟨_, (exists_divider distinct start).mem, by rw [List.nil_append]; rfl,
    UInt16.ofNat (d.start hole before + first.toNat), hole, inside, before, after, first, second, ?_⟩
  have path : around.map (·.before.length) = splitPath.map UInt16.toNat := h.path.symm
  refine ⟨?_, h.boundary, ?_, decide_eq_true_iff, h, start.inHole, start.on, position, ?_, ?_, ?_⟩
  · exact path
  · rw [separator_position, position, Divider.start]
  · apply start.rest h.levels h.path h.boundary
    have sum := start.sum
    have cell := start.cell
    obtain ⟨hleft, hright, -⟩ := start.on.extents.bounds
    unfold Divider.closest
    omega
  · cases d.axis with
    | horizontal => rfl
    | vertical => rfl
  · cases d.axis with
    | horizontal => rfl
    | vertical => rfl

def Visible (panes : List PaneRect) (layout : ViewLayout) : Prop :=
  ∃ pane ∈ panes, pane.visible = true ∧ pane.terminalId ∈ layout.terminalIds

lemma visible_of_rectOf {rect : Rect} (shown : rectOf panes layout = some rect) : Visible panes layout := by
  induction layout generalizing rect with
  | terminal id =>
    obtain ⟨pane, found, -⟩ := Option.map_eq_some_iff.1 shown
    have here := List.find?_some found
    rw [decide_eq_true_eq] at here
    exact ⟨pane, List.mem_of_find?_eq_some found, here.2, List.mem_singleton.2 here.1⟩
  | split axis children weights ih =>
    rw [rectOf_split, enclosing] at shown
    split at shown
    case isTrue => cases shown
    case isFalse some_ =>
      obtain ⟨inner, mem⟩ := List.exists_mem_of_ne_nil _ fun nil => some_ (List.isEmpty_iff.2 nil)
      obtain ⟨rect, mem, rfl⟩ := List.mem_filterMap.1 mem
      obtain ⟨child, hchild, shown⟩ := List.mem_map.1 mem
      obtain ⟨pane, hpane, visible, leaf⟩ := ih child hchild shown
      refine ⟨pane, hpane, visible, ?_⟩
      rw [terminalIds, terminalIdsAll_eq]
      exact List.mem_flatMap.2 ⟨child, hchild, leaf⟩

/-- **The dividers of the desktop are the gaps of the daemon.** When all panes are shown where `pane_geometry` has
placed them, every boundary of every split has one divider, which starts to drag at the gap cell where the daemon has
placed the boundary. Whatever panes are shown, a divider has a visible pane on each side. -/
theorem viewDividers_agree :
    (∀ (layout : ViewLayout) (size : TerminalSize) (placed : List PaneGeometry), depth layout ≤ 16 →
      layout.terminalIds.Nodup → layout.paneGeometry size = .ok placed →
        ((viewDividers layout (placed.map drawn)).map ViewDivider.key).Nodup ∧
        (∀ (around : List Enclosing) (d : Divider), layout = plug d.layout around →
          ∃ divider ∈ viewDividers layout (placed.map drawn), divider.key = (around.map (·.before.length), d.before.length)) ∧
        ∀ divider ∈ viewDividers layout (placed.map drawn), ∃ around d splitPath boundary position hole inside
          before after first second, Agrees layout size placed divider around d splitPath boundary position hole inside
            before after first second) ∧
    ∀ (layout : ViewLayout) (panes : List PaneRect), ∀ divider ∈ viewDividers layout panes,
      ∃ (around : List Enclosing) (d : Divider),
      layout = plug d.layout around ∧ divider.key = (around.map (·.before.length), d.before.length) ∧
        Visible panes d.left ∧ Visible panes d.right := by
  have joins : ∀ (layout : ViewLayout) (panes : List PaneRect), ∀ divider ∈ viewDividers layout panes,
      ∃ (around : List Enclosing) (d : Divider),
      layout = plug d.layout around ∧ divider.key = (around.map (·.before.length), d.before.length) ∧
        Visible panes d.left ∧ Visible panes d.right := by
    intro layout panes divider mem
    obtain ⟨around, d, box, previous, next, h⟩ := exists_between mem
    refine ⟨around, d, h.layout_eq, ?_, visible_of_rectOf h.left, visible_of_rectOf h.right⟩
    rw [h.divider, List.nil_append]
    rfl
  refine ⟨fun layout size placed levels distinct ok => ⟨visit_nodup, ?_, ?_⟩, joins⟩
  · intro around d layout_eq
    obtain ⟨splitPath, boundary, h⟩ := addresses_of_plug levels ok layout_eq
    rw [← (paneGeometry_placed ok).terminalIds] at distinct
    obtain ⟨divider, mem, key, -⟩ := Addresses.agrees distinct ok h
    exact ⟨divider, mem, key⟩
  · intro divider mem
    obtain ⟨around, d, layout_eq, key, -⟩ := joins layout _ divider mem
    obtain ⟨splitPath, boundary, h⟩ := addresses_of_plug levels ok layout_eq
    rw [← (paneGeometry_placed ok).terminalIds] at distinct
    obtain ⟨divider', mem', key', position, hole, inside, before, after, first, second, agrees⟩ :=
      Addresses.agrees distinct ok h
    obtain rfl := List.inj_on_of_nodup_map visit_nodup mem mem' (key.trans key'.symm)
    exact ⟨around, d, splitPath, boundary, position, hole, inside, before, after, first, second, agrees⟩

def columns : ViewLayout :=
  .split .horizontal [.terminal "a", .split .vertical [.terminal "b", .terminal "c"] [2, 1]] [3, 2]

def columnsPlaced : List PaneGeometry := [⟨"a", 0, 0, 60, 40⟩, ⟨"b", 61, 0, 39, 26⟩, ⟨"c", 61, 27, 39, 13⟩]

theorem viewDividers_agree_columns :
    (viewDividers columns (columnsPlaced.map drawn)).map ViewDivider.position = [26, 60] ∧
    ∀ divider ∈ viewDividers columns (columnsPlaced.map drawn), ∃ around d splitPath boundary position hole inside
      before after first second, Agrees columns ⟨100, 40, 0, 0⟩ columnsPlaced divider around d splitPath boundary
        position hole inside before after first second :=
  ⟨by decide +kernel,
    (viewDividers_agree.1 columns ⟨100, 40, 0, 0⟩ columnsPlaced (by decide) (by decide) (by decide +kernel)).2.2⟩

end Ctl.Desktop.ViewDividers
