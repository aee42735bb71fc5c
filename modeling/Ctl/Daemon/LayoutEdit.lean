import Ctl.Proto.Dividers

/-!
# Editing the tree of a view

Model of the layout functions of `ctmux/daemon/src/session/topology.rs`: `LayoutExt`,
`swap_terminal_ids`, `validate_layout` and `preserve_layout_weights`. Each edit has one spec lemma that
says what it does to the leaves, to the shape and to the smallest canvas.
-/

namespace Ctl.Proto.ViewLayout
open Ctl.Base

mutual
/-- The first leaf; a split without children has none (Rust `first_terminal`). -/
def firstTerminal : ViewLayout → Option String
  | .terminal id => some id
  | .split _ children _ => firstTerminalOf children
/-- `firstTerminal` of the first child. -/
def firstTerminalOf : List ViewLayout → Option String
  | [] => none
  | child :: _ => child.firstTerminal
end

mutual
/-- The tree without a leaf; a split with one child left collapses into it
    (Rust `remove_terminal`). -/
def removeTerminal (id : String) : ViewLayout → Option ViewLayout
  | .terminal terminalId => if terminalId ≠ id then some (.terminal terminalId) else none
  | .split axis children weights =>
    match removeFrom id children weights with
    | ([], _) => none
    | ([child], _) => some child
    | (children, weights) => some (.split axis children weights)
/-- The loop of `remove_terminal`: the remaining children with their weights. -/
def removeFrom (id : String) :
    List ViewLayout → (weights : List UInt32) → List ViewLayout × List UInt32
  | [], _ => ([], [])
  | child :: children, weights =>
    let rest := removeFrom id children weights.tail
    match child.removeTerminal id with
    | some child => (child :: rest.1, weights.take 1 ++ rest.2)
    | none => rest
end

mutual
/-- Split a leaf into itself and a new one behind it (Rust `split_terminal`). -/
def splitTerminal (id newId : String) (axis : SplitAxis) : ViewLayout → ViewLayout
  | .terminal terminalId =>
    if terminalId = id then .split axis [.terminal terminalId, .terminal newId] []
    else .terminal terminalId
  | .split axis' children weights => .split axis' (splitTerminalAll id newId axis children) weights
/-- `splitTerminal` in every child. -/
def splitTerminalAll (id newId : String) (axis : SplitAxis) : List ViewLayout → List ViewLayout
  | [] => []
  | child :: children =>
    child.splitTerminal id newId axis :: splitTerminalAll id newId axis children
end

mutual
/-- Exchange two leaves (Rust `swap_terminal_ids`). -/
def swapTerminalIds (left right : String) : ViewLayout → ViewLayout
  | .terminal id =>
    if id = left then .terminal right else if id = right then .terminal left else .terminal id
  | .split axis children weights => .split axis (swapTerminalIdsAll left right children) weights
/-- `swapTerminalIds` in every child. -/
def swapTerminalIdsAll (left right : String) : List ViewLayout → List ViewLayout
  | [] => []
  | child :: children => child.swapTerminalIds left right :: swapTerminalIdsAll left right children
end

mutual
/-- Check the bounds of a layout (Rust `validate_layout`). -/
def validateLayout (depth : Nat) : ViewLayout → Res String Unit
  | .terminal _ =>
    if 16 < depth then .fail "layout nesting exceeds 16" else .ok ()
  | .split axis children weights =>
    if depth = 0 ∧ 64 < (ViewLayout.split axis children weights).terminalIds.length then
      .fail "a view supports at most 64 terminals"
    else if 16 < depth then .fail "layout nesting exceeds 16"
    else if children.length < 2 ∨ 64 < children.length then
      .fail "layout groups require 2 to 64 children"
    else if weights ≠ [] ∧ (weights.length ≠ children.length ∨ 0 ∈ weights) then
      .fail "split weights must have one positive value per child"
    else validateLayouts (depth + 1) children
/-- `validateLayout` of every child. -/
def validateLayouts (depth : Nat) : List ViewLayout → Res String Unit
  | [] => .ok ()
  | child :: children => do
    validateLayout depth child
    validateLayouts depth children
end

mutual
/-- Some split has weights (Rust `has_weights`). -/
def hasWeights : ViewLayout → Bool
  | .terminal _ => false
  | .split _ children weights => !weights.isEmpty || hasWeightsAny children
/-- `hasWeights` of some child. -/
def hasWeightsAny : List ViewLayout → Bool
  | [] => false
  | child :: children => child.hasWeights || hasWeightsAny children
end

/-- The refusal of `preserve_layout_weights`. -/
def ambiguous : String :=
  "weighted layout cannot be restructured by update_view; resize panes through an owned attachment"

mutual
/-- Keep the weights of splits that stay in place, and refuse every other weight
    (Rust `preserve_layout_weights`). -/
def preserveLayoutWeights (next previous : ViewLayout) : Res String ViewLayout :=
  match next, previous with
  | .split axis children weights, .split oldAxis oldChildren oldWeights =>
    if axis = oldAxis ∧ children.length = oldChildren.length then
      if weights ≠ [] ∧ weights ≠ oldWeights then .fail ambiguous
      else do
        let children ← preserveLayoutWeightsAll children oldChildren
        return .split axis children oldWeights
    else if (ViewLayout.split axis children weights).hasWeights ||
        (ViewLayout.split oldAxis oldChildren oldWeights).hasWeights then .fail ambiguous
    else .ok (.split axis children weights)
  | next, previous =>
    if next.hasWeights || previous.hasWeights then .fail ambiguous else .ok next
/-- `preserveLayoutWeights` child by child. -/
def preserveLayoutWeightsAll : List ViewLayout → List ViewLayout → Res String (List ViewLayout)
  | child :: children, previous :: rest => do
    let child ← preserveLayoutWeights child previous
    let children ← preserveLayoutWeightsAll children rest
    return child :: children
  | children, _ => .ok children
end

/-! ### Validation -/

variable {depth : Nat} {children : List ViewLayout} {layout : ViewLayout} {id : String}

@[simp] lemma validateLayouts_ok_iff :
    validateLayouts depth children = .ok () ↔
      ∀ child ∈ children, validateLayout depth child = .ok () := by
  induction children with
  | nil => simp [validateLayouts]
  | cons child children ih =>
    rw [List.forall_mem_cons, ← ih, validateLayouts]
    constructor
    · intro ok
      obtain ⟨_, first, rest⟩ := Res.bind_eq_ok ok
      exact ⟨first, rest⟩
    · rintro ⟨first, rest⟩
      rw [first, Res.ok_bind, rest]

lemma validateLayout_ok_iff :
    validateLayout depth layout = .ok () ↔
      (depth = 0 → layout.terminalIds.length ≤ 64) ∧ layout.Valid depth := by
  induction layout generalizing depth with
  | terminal id =>
    rw [validateLayout, Valid, terminalIds, List.length_singleton]
    split
    · simp only [Res.fail, reduceCtorEq, false_iff]
      omega
    · simp only [true_iff]
      omega
  | split axis children weights ih =>
    rw [validateLayout, Valid, WeightsOk]
    split
    · simp only [Res.fail, reduceCtorEq, false_iff]
      omega
    · split
      · simp only [Res.fail, reduceCtorEq, false_iff]
        omega
      · split
        · simp only [Res.fail, reduceCtorEq, false_iff]
          omega
        · split
          case isTrue bad =>
            simp only [Res.fail, reduceCtorEq, false_iff]
            rintro ⟨-, -, -, empty | aligned, -⟩
            · exact bad.1 empty
            · exact bad.2.elim (fun h => h aligned.1) fun h => aligned.2 h
          case isFalse few shallow groups good =>
            rw [validateLayouts_ok_iff, validAll_iff]
            have children_iff : (∀ child ∈ children, validateLayout (depth + 1) child = .ok ()) ↔
                ∀ child ∈ children, child.Valid (depth + 1) := by
              refine forall₂_congr fun child hc => ?_
              rw [ih child hc]
              simp
            rw [children_iff]
            constructor
            · intro inner
              refine ⟨by omega, by omega, by omega, ?_, inner⟩
              by_cases empty : weights = []
              · exact .inl empty
              · exact .inr (by tauto)
            · exact fun h => h.2.2.2.2

/-! ### Removing a leaf -/

structure Remaining (id : String) (depth : Nat) (children : List ViewLayout) (weights : List UInt32)
    (children' : List ViewLayout) (weights' : List UInt32) : Prop where
  leaves : children'.flatMap terminalIds = (children.flatMap terminalIds).filter (· ≠ id)
  valid : ∀ child ∈ children', child.Valid depth
  minimum : List.SublistForall₂ (· ≤ ·) (children'.map minimumSize) (children.map minimumSize)
  unweighted : weights = [] → weights' = []
  weighted : weights.length = children.length → weights'.length = children'.length
  subset : weights' ⊆ weights

lemma Remaining.length_le {children' : List ViewLayout} {weights weights' : List UInt32}
    (h : Remaining id depth children weights children' weights') : children'.length ≤ children.length := by
  have := (sublistForall₂_spec h.minimum).2.1
  simpa using this

/-- The specification of removing a leaf. -/
def Removes (id : String) (depth : Nat) (layout : ViewLayout) : Option ViewLayout → Prop
  | none => layout.terminalIds.filter (· ≠ id) = []
  | some layout' => layout'.terminalIds = layout.terminalIds.filter (· ≠ id) ∧
    layout'.Valid depth ∧ layout'.minimumSize ≤ layout.minimumSize

lemma removeFrom_spec (h : ∀ child ∈ children, Removes id depth child (child.removeTerminal id))
    (weights : List UInt32) :
    Remaining id depth children weights (removeFrom id children weights).1
      (removeFrom id children weights).2 := by
  induction children generalizing weights with
  | nil =>
    exact ⟨rfl, fun _ h => absurd h List.not_mem_nil, .nil, fun _ => rfl, fun _ => rfl,
      List.nil_subset _⟩
  | cons child children ih =>
    have first := h child List.mem_cons_self
    have rest := ih (fun c hc => h c (List.mem_cons_of_mem _ hc)) weights.tail
    have tail : weights.length = children.length + 1 → weights.tail.length = children.length := by
      intro length
      rw [List.length_tail, length]
      rfl
    rw [removeFrom]
    cases removed : child.removeTerminal id with
    | none =>
      rw [removed] at first
      refine ⟨?_, rest.valid, .cons_right rest.minimum, ?_, fun length => rest.weighted (tail length),
        fun w hw => List.mem_of_mem_tail (rest.subset hw)⟩
      · rw [List.flatMap_cons, List.filter_append, first, List.nil_append]
        exact rest.leaves
      · rintro rfl
        exact rest.unweighted rfl
    | some child' =>
      rw [removed] at first
      obtain ⟨leaves, valid, minimum⟩ := first
      refine ⟨?_, ?_, .cons minimum rest.minimum, ?_, ?_, ?_⟩
      · simp only [List.flatMap_cons, List.filter_append]
        rw [leaves, rest.leaves]
      · exact List.forall_mem_cons.2 ⟨valid, rest.valid⟩
      · rintro rfl
        exact rest.unweighted rfl
      · intro length
        have := rest.weighted (tail length)
        simp only [List.length_append, List.length_take, List.length_cons] at length ⊢
        omega
      · exact List.append_subset.2 ⟨List.take_subset 1 weights,
          fun w hw => List.mem_of_mem_tail (rest.subset hw)⟩

lemma removeTerminal_spec (id : String) (valid : layout.Valid depth) :
    Removes id depth layout (layout.removeTerminal id) := by
  induction layout generalizing depth with
  | terminal terminalId =>
    rw [removeTerminal]
    split
    case isTrue ne => exact ⟨by simp [terminalIds, ne], valid, le_refl _⟩
    case isFalse eq => simpa [Removes, terminalIds] using eq
  | split axis children weights ih =>
    obtain ⟨bound, groups, weightsOk, inner⟩ := valid
    rw [validAll_iff] at inner
    have rest := removeFrom_spec (fun child hc => ih child hc (inner child hc)) weights
    rw [removeTerminal]
    have leaves := rest.leaves
    split
    case h_1 eq =>
      rw [eq] at leaves
      rw [Removes, terminalIds, terminalIdsAll_eq]
      exact leaves.symm
    case h_2 child _ eq =>
      rw [eq] at leaves rest
      have valid := rest.valid child (List.mem_singleton.2 rfl)
      obtain ⟨m, hm, le⟩ := (sublistForall₂_spec rest.minimum).1 child.minimumSize
        (List.mem_singleton.2 rfl)
      obtain ⟨old, hold, rfl⟩ := List.mem_map.1 hm
      refine ⟨?_, valid.mono (Nat.le_succ _), ?_⟩
      · rw [terminalIds, terminalIdsAll_eq, ← leaves]
        simp
      · rw [minimumSize, minimumSizes_eq]
        exact le_trans le (minimumSize_le_splitMinimum _ _ hold)
    case h_3 children' weights' none one eq =>
      rw [eq] at rest
      dsimp only at rest
      have length := rest.length_le
      have two : 2 ≤ children'.length := by
        rcases children' with _ | ⟨a, _ | ⟨b, l⟩⟩
        · exact (none rfl).elim
        · exact (one a rfl).elim
        · simp
      refine ⟨?_, ⟨bound, ⟨two, by omega⟩, ?_, validAll_iff.2 rest.valid⟩, ?_⟩
      · rw [terminalIds, terminalIds, terminalIdsAll_eq, terminalIdsAll_eq]
        exact rest.leaves
      · rcases weightsOk with empty | ⟨aligned, positive⟩
        · exact .inl (rest.unweighted empty)
        · exact .inr ⟨rest.weighted aligned, fun zero => positive (rest.subset zero)⟩
      · have same : weights'.isEmpty = weights.isEmpty := by
          rcases weightsOk with empty | ⟨aligned, -⟩
          · rw [rest.unweighted empty, empty]
          · have new := rest.weighted aligned
            rw [Bool.eq_iff_iff, List.isEmpty_iff_length_eq_zero, List.isEmpty_iff_length_eq_zero]
            omega
        rw [minimumSize, minimumSize, minimumSizes_eq, minimumSizes_eq, same]
        exact splitMinimum_mono rest.minimum

/-! ### Splitting and swapping leaves -/

lemma splitTerminalAll_eq (id newId : String) (axis : SplitAxis) (children : List ViewLayout) :
    splitTerminalAll id newId axis children = children.map (splitTerminal id newId axis) := by
  induction children with
  | nil => rfl
  | cons child children ih => rw [splitTerminalAll, ih, List.map_cons]

lemma terminalIds_splitTerminal (id newId : String) (axis : SplitAxis) (layout : ViewLayout) :
    (layout.splitTerminal id newId axis).terminalIds
      = layout.terminalIds.flatMap fun x => if x = id then [x, newId] else [x] := by
  induction layout with
  | terminal terminalId =>
    rw [splitTerminal]
    by_cases eq : terminalId = id
    · simp [eq, terminalIds, terminalIdsAll]
    · simp [eq, terminalIds]
  | split axis' children weights ih =>
    rw [splitTerminal, terminalIds, terminalIds, terminalIdsAll_eq, terminalIdsAll_eq,
      splitTerminalAll_eq, List.flatMap_map, List.flatMap_assoc]
    exact List.flatMap_congr ih

lemma splitTerminal_perm {newId : String} {axis : SplitAxis} (nodup : layout.terminalIds.Nodup)
    (mem : id ∈ layout.terminalIds) :
    List.Perm (layout.splitTerminal id newId axis).terminalIds (newId :: layout.terminalIds) := by
  rw [terminalIds_splitTerminal]
  obtain ⟨front, back, eq⟩ := List.append_of_mem mem
  rw [eq] at nodup ⊢
  have absent := List.nodup_middle.1 nodup
  rw [List.nodup_cons, List.mem_append, not_or] at absent
  have same : ∀ l : List String, id ∉ l →
      l.flatMap (fun x => if x = id then [x, newId] else [x]) = l := by
    intro l hl
    induction l with
    | nil => rfl
    | cons x l ih =>
      obtain ⟨ne, rest⟩ := not_or.1 (mt List.mem_cons.2 hl)
      rw [List.flatMap_cons, if_neg (Ne.symm ne), ih rest]
      rfl
  rw [List.flatMap_append, List.flatMap_cons, if_pos rfl, same _ absent.1.1, same _ absent.1.2]
  have middle : List.Perm ((front ++ [id]) ++ newId :: back) (newId :: ((front ++ [id]) ++ back)) :=
    List.perm_middle
  simpa using middle

variable (left right : String)

def exchange (id : String) : String :=
  if id = left then right else if id = right then left else id

lemma swapTerminalIdsAll_eq (children : List ViewLayout) :
    swapTerminalIdsAll left right children = children.map (swapTerminalIds left right) := by
  induction children with
  | nil => rfl
  | cons child children ih => rw [swapTerminalIdsAll, ih, List.map_cons]

lemma terminalIds_swapTerminalIds (layout : ViewLayout) :
    (layout.swapTerminalIds left right).terminalIds
      = layout.terminalIds.map (exchange left right) := by
  induction layout with
  | terminal id =>
    rw [swapTerminalIds, terminalIds, List.map_singleton, exchange]
    split
    · rfl
    · split <;> rfl
  | split axis children weights ih =>
    rw [swapTerminalIds, terminalIds, terminalIds, terminalIdsAll_eq, terminalIdsAll_eq,
      swapTerminalIdsAll_eq, List.flatMap_map, List.map_flatMap]
    exact List.flatMap_congr ih

lemma swapTerminalIds_perm {left right : String} (nodup : layout.terminalIds.Nodup)
    (hleft : left ∈ layout.terminalIds) (hright : right ∈ layout.terminalIds) :
    List.Perm (layout.swapTerminalIds left right).terminalIds layout.terminalIds := by
  rw [terminalIds_swapTerminalIds]
  have involutive : ∀ x, exchange left right (exchange left right x) = x := by
    intro x
    unfold exchange
    split_ifs <;> simp_all
  have injective : Function.Injective (exchange left right) :=
    Function.Involutive.injective involutive
  have closed : ∀ x ∈ layout.terminalIds, exchange left right x ∈ layout.terminalIds := by
    intro x hx
    unfold exchange
    split
    · exact hright
    · split
      · exact hleft
      · exact hx
  refine (List.perm_ext_iff_of_nodup (nodup.map injective) nodup).2 fun x => ?_
  rw [List.mem_map]
  constructor
  · rintro ⟨y, hy, rfl⟩
    exact closed y hy
  · exact fun hx => ⟨exchange left right x, closed x hx, involutive x⟩

lemma valid_swapTerminalIds {left right : String} (h : layout.Valid depth) :
    (layout.swapTerminalIds left right).Valid depth := by
  induction layout generalizing depth with
  | terminal id =>
    rw [swapTerminalIds]
    split
    · exact h
    · split <;> exact h
  | split axis children weights ih =>
    obtain ⟨bound, groups, weightsOk, inner⟩ := h
    rw [validAll_iff] at inner
    rw [swapTerminalIds, swapTerminalIdsAll_eq, Valid, List.length_map, validAll_iff]
    refine ⟨bound, groups, ?_, fun child hc => ?_⟩
    · rwa [WeightsOk, List.length_map]
    · obtain ⟨old, hold, rfl⟩ := List.mem_map.1 hc
      exact ih old hold (inner old hold)

/-! ### Preserving weights -/

lemma preserveLayoutWeights_spec {next previous next' : ViewLayout}
    (ok : preserveLayoutWeights next previous = .ok next') :
    next'.terminalIds = next.terminalIds ∧
      ∀ depth, next.Valid depth → previous.Valid depth → next'.Valid depth := by
  induction next generalizing previous next' with
  | terminal id =>
    rw [preserveLayoutWeights] at ok
    · split at ok
      · cases ok
      · cases ok
        exact ⟨rfl, fun _ h _ => h⟩
    · intro _ _ _ _ _ _ h
      cases h
  | split axis children weights ih =>
    cases previous with
    | terminal id =>
      rw [preserveLayoutWeights] at ok
      · split at ok
        · cases ok
        · cases ok
          exact ⟨rfl, fun _ h _ => h⟩
      · intro _ _ _ _ _ _ _ h
        cases h
    | split oldAxis oldChildren oldWeights =>
      rw [preserveLayoutWeights] at ok
      split at ok
      case isFalse =>
        split at ok
        · cases ok
        · cases ok
          exact ⟨rfl, fun _ h _ => h⟩
      case isTrue same =>
        split at ok
        · cases ok
        · obtain ⟨children', hchildren, ok⟩ := Res.bind_eq_ok ok
          cases ok
          obtain ⟨leaves, length, inner⟩ := children_spec ih hchildren
          refine ⟨by simpa [terminalIds] using leaves, ?_⟩
          rintro depth ⟨bound, groups, -, valid⟩ ⟨-, -, weightsOk, oldValid⟩
          rw [validAll_iff] at valid oldValid
          refine ⟨bound, length ▸ groups, ?_, validAll_iff.2 (inner _ same.2 valid oldValid)⟩
          rw [WeightsOk, length, same.2]
          exact weightsOk
where
  children_spec {children oldChildren children' : List ViewLayout}
      (ih : ∀ child ∈ children, ∀ {previous next' : ViewLayout},
        preserveLayoutWeights child previous = .ok next' → next'.terminalIds = child.terminalIds ∧
          ∀ depth, child.Valid depth → previous.Valid depth → next'.Valid depth)
      (ok : preserveLayoutWeightsAll children oldChildren = .ok children') :
      children'.flatMap terminalIds = children.flatMap terminalIds ∧
        children'.length = children.length ∧
        ∀ depth, children.length = oldChildren.length → (∀ child ∈ children, child.Valid depth) →
          (∀ child ∈ oldChildren, child.Valid depth) → ∀ child ∈ children', child.Valid depth := by
    induction children generalizing oldChildren children' with
    | nil =>
      cases ok
      exact ⟨rfl, rfl, fun _ _ h _ => h⟩
    | cons child children ih' =>
      cases oldChildren with
      | nil =>
        cases ok
        exact ⟨rfl, rfl, fun _ _ h _ => h⟩
      | cons previous rest =>
        obtain ⟨first, hfirst, ok⟩ := Res.bind_eq_ok ok
        obtain ⟨others, hothers, ok⟩ := Res.bind_eq_ok ok
        cases ok
        obtain ⟨leaves, valid⟩ := ih child List.mem_cons_self hfirst
        obtain ⟨leaves', length, valid'⟩ := ih' (fun c hc => ih c (List.mem_cons_of_mem _ hc)) hothers
        refine ⟨?_, congrArg (· + 1) length, ?_⟩
        · rw [List.flatMap_cons, List.flatMap_cons, leaves, leaves']
        · intro depth eq new old
          rw [List.forall_mem_cons] at new old ⊢
          exact ⟨valid depth new.1 old.1, valid' depth (Nat.succ.inj eq) new.2 old.2⟩

end Ctl.Proto.ViewLayout
