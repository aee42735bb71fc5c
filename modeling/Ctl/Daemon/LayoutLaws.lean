import Ctl.Daemon.LayoutEdit

/-!
# What edits of a layout keep

Two laws of the functions in `LayoutEdit`. When a pane is removed the others stay in their order with
their own weights, and the view needs no larger canvas (`removeTerminal_fits`). When an arrangement is
replaced, `preserve_layout_weights` takes every weight from its old place or refuses
(`preserveLayoutWeights_keeps`).
-/

namespace Ctl.Proto.ViewLayout
open Ctl.Base

/-! ### Subtrees -/

/-- A tree is part of another one. -/
inductive Within : ViewLayout → ViewLayout → Prop
  | here (layout : ViewLayout) : Within layout layout
  | child {axis : SplitAxis} {children : List ViewLayout} {weights : List UInt32}
      {inner child : ViewLayout} :
    child ∈ children → Within inner child → Within inner (.split axis children weights)

variable {layout next previous : ViewLayout} {children oldChildren : List ViewLayout} {weights : List UInt32}
  {axis : SplitAxis} {depth index : Nat} {result : List ViewLayout} {e : Fault String}

lemma Within.valid {inner : ViewLayout} (h : Within inner layout) (valid : layout.Valid depth) :
    ∃ below, inner.Valid below := by
  induction h generalizing depth with
  | here layout => exact ⟨depth, valid⟩
  | child mem _ ih => exact ih (validAll_iff.1 valid.2.2.2 _ mem)

/-! ### Removing a pane -/

/-- The children that are left of a split, each with its own weight. -/
structure Survivors (id : String) (children : List ViewLayout) (weights : List UInt32)
    (children' : List ViewLayout) (weights' : List UInt32) : Prop where
  kept : children' = children.filterMap (removeTerminal id)
  unweighted : weights = [] → weights' = []
  weighted : weights ≠ [] → weights'.length = children'.length ∧ children'.zip weights' =
    (children.zip weights).filterMap fun pair => (pair.1.removeTerminal id).map (·, pair.2)

variable (id : String)

lemma removeFrom_fst (children : List ViewLayout) (weights : List UInt32) :
    (removeFrom id children weights).1 = children.filterMap (removeTerminal id) := by
  induction children generalizing weights with
  | nil => rfl
  | cons child children ih =>
    rw [removeFrom, List.filterMap_cons]
    cases child.removeTerminal id with
    | none => exact ih weights.tail
    | some child' => exact congrArg (child' :: ·) (ih weights.tail)

lemma removeFrom_zip (aligned : weights.length = children.length) :
    (removeFrom id children weights).2.length = (removeFrom id children weights).1.length ∧
      (removeFrom id children weights).1.zip (removeFrom id children weights).2 =
        (children.zip weights).filterMap fun pair => (pair.1.removeTerminal id).map (·, pair.2) := by
  induction children generalizing weights with
  | nil =>
    rw [List.length_eq_zero_iff.1 aligned]
    exact ⟨rfl, rfl⟩
  | cons child children ih =>
    cases weights with
    | nil => cases aligned
    | cons weight weights =>
      obtain ⟨length, zip⟩ := ih (Nat.succ.inj aligned)
      rw [removeFrom, List.zip_cons_cons, List.filterMap_cons, List.tail_cons]
      cases child.removeTerminal id with
      | none => exact ⟨length, zip⟩
      | some child' => exact ⟨congrArg (· + 1) length, congrArg ((child', weight) :: ·) zip⟩

lemma removeFrom_survivors (ok : WeightsOk children weights) :
    Survivors id children weights (removeFrom id children weights).1
      (removeFrom id children weights).2 where
  kept := removeFrom_fst id children weights
  unweighted := by
    intro empty
    subst empty
    induction children with
    | nil => rfl
    | cons child children ih =>
      rw [removeFrom]
      cases child.removeTerminal id with
      | none => exact ih (.inl rfl)
      | some child' => exact ih (.inl rfl)
  weighted := by
    intro weighted
    exact removeFrom_zip id ((ok.resolve_left weighted).1)

lemma removeTerminal_within {id : String} {layout' : ViewLayout} (valid : layout.Valid depth)
    (left : layout.removeTerminal id = some layout') {children' : List ViewLayout} {weights' : List UInt32}
    (h : Within (.split axis children' weights') layout') :
    ∃ children weights, Within (.split axis children weights) layout ∧
      Survivors id children weights children' weights' := by
  induction layout generalizing depth layout' with
  | terminal terminalId =>
    rw [removeTerminal] at left
    split at left
    · cases left
      cases h
    · cases left
  | split axis' children weights ih =>
    obtain ⟨-, -, ok, inner⟩ := valid
    rw [validAll_iff] at inner
    have survivors := removeFrom_survivors id ok
    -- A split inside a child that is left comes from inside a child.
    have below : ∀ child' ∈ (removeFrom id children weights).1,
        Within (.split axis children' weights') child' →
        ∃ old oldWeights, Within (.split axis old oldWeights) (.split axis' children weights) ∧
          Survivors id old oldWeights children' weights' := by
      intro child' mem within
      rw [removeFrom_fst, List.mem_filterMap] at mem
      obtain ⟨child, listed, kept⟩ := mem
      obtain ⟨old, oldWeights, inside, found⟩ := ih child listed (inner child listed) kept within
      exact ⟨old, oldWeights, .child listed inside, found⟩
    rw [removeTerminal] at left
    split at left
    case h_1 => cases left
    case h_2 last _ eq =>
      cases left
      apply below layout' _ h
      rw [eq]
      exact List.mem_singleton.2 rfl
    case h_3 kept keptWeights _ _ eq =>
      cases left
      rw [eq] at survivors
      cases h with
      | here => exact ⟨children, weights, .here _, survivors⟩
      | child mem within =>
        apply below _ _ within
        rw [eq]
        exact mem

/-- Removing a pane from a valid layout keeps the other leaves in their order and the layout valid. No
    split of what is left has a single child, every weight stays with its child, and neither dimension
    of the smallest canvas grows. -/
theorem removeTerminal_fits {layout : ViewLayout} (valid : layout.validateLayout 0 = .ok ()) (id : String) :
    match layout.removeTerminal id with
    | none => layout.terminalIds.filter (· ≠ id) = []
    | some layout' =>
      layout'.terminalIds = layout.terminalIds.filter (· ≠ id) ∧
      layout'.validateLayout 0 = .ok () ∧
      (∀ axis children' weights', Within (.split axis children' weights') layout' →
        2 ≤ children'.length ∧
        (weights' = [] ∨ weights'.length = children'.length ∧ 0 ∉ weights') ∧
        ∃ children weights, Within (.split axis children weights) layout ∧
          Survivors id children weights children' weights') ∧
      layout'.minimumSize ≤ layout.minimumSize ∧
      ∀ canvas, layout.Fits canvas → layout'.Fits canvas := by
  obtain ⟨few, shape⟩ := validateLayout_ok_iff.1 valid
  have removes := removeTerminal_spec id shape
  cases left : layout.removeTerminal id with
  | none =>
    rw [left] at removes
    exact removes
  | some layout' =>
    rw [left] at removes
    obtain ⟨leaves, shape', minimum⟩ := removes
    refine ⟨leaves, validateLayout_ok_iff.2 ⟨fun _ => ?_, shape'⟩, ?_, minimum, ?_⟩
    · rw [leaves]
      exact le_trans (List.length_filter_le _ _) (few rfl)
    · intro axis children' weights' within
      obtain ⟨below, inner⟩ := within.valid shape'
      exact ⟨inner.2.1.1, inner.2.2.1, removeTerminal_within shape left within⟩
    · intro canvas fits
      exact ⟨le_trans minimum.1 fits.1, le_trans minimum.2 fits.2⟩

/-- Removing the middle pane of a weighted row whose first child is a column. -/
theorem removeTerminal_fits_row :
    let column : ViewLayout := .split .vertical [.terminal "a", .terminal "b"] [1, 3]
    let row : ViewLayout := .split .horizontal [column, .terminal "c", .terminal "d"] [2, 5, 1]
    row.validateLayout 0 = .ok () ∧
      match row.removeTerminal "c" with
      | none => row.terminalIds.filter (· ≠ "c") = []
      | some layout' =>
        layout'.terminalIds = row.terminalIds.filter (· ≠ "c") ∧
        layout'.validateLayout 0 = .ok () ∧
        (∀ axis children' weights', Within (.split axis children' weights') layout' →
          2 ≤ children'.length ∧
          (weights' = [] ∨ weights'.length = children'.length ∧ 0 ∉ weights') ∧
          ∃ children weights, Within (.split axis children weights) row ∧
            Survivors "c" children weights children' weights') ∧
        layout'.minimumSize ≤ row.minimumSize ∧
        ∀ canvas, row.Fits canvas → layout'.Fits canvas := by
  intro column row
  have valid : row.validateLayout 0 = .ok () := by decide
  exact ⟨valid, removeTerminal_fits valid "c"⟩

/-! ### Paths -/

def subtree : ViewLayout → List Nat → Option ViewLayout
  | layout, [] => some layout
  | .terminal _, _ :: _ => none
  | .split _ children _, index :: path => children[index]?.bind fun child => child.subtree path

def weightsAt (layout : ViewLayout) (path : List Nat) : List UInt32 :=
  match layout.subtree path with
  | some (.split _ _ weights) => weights
  | _ => []

mutual
/-- The tree without weights (Rust `clear_weights`). -/
def clearWeights : ViewLayout → ViewLayout
  | .terminal id => .terminal id
  | .split axis children _ => .split axis (clearWeightsAll children) []
/-- `clearWeights` of every child. -/
def clearWeightsAll : List ViewLayout → List ViewLayout
  | [] => []
  | child :: children => child.clearWeights :: clearWeightsAll children
end

/-- Two splits in the same direction with as many children. -/
def SameSplit : ViewLayout → ViewLayout → Prop
  | .split axis children _, .split axis' children' _ => axis = axis' ∧ children.length = children'.length
  | _, _ => False

def Unchanged : List Nat → ViewLayout → ViewLayout → Prop
  | [], next, previous => SameSplit next previous
  | index :: path, next, previous => SameSplit next previous ∧
    ∃ child ∈ next.subtree [index], ∃ child' ∈ previous.subtree [index], Unchanged path child child'

def Restructures (next previous : ViewLayout) : Prop :=
  ∃ path, ∃ after ∈ next.subtree path, ∃ before ∈ previous.subtree path, ¬ SameSplit after before ∧
    ∃ inner, after.weightsAt inner ≠ [] ∨ before.weightsAt inner ≠ []

@[simp] lemma subtree_nil (layout : ViewLayout) : layout.subtree [] = some layout := by
  cases layout <;> rfl

@[simp] lemma subtree_split (axis : SplitAxis) (children : List ViewLayout) (weights : List UInt32)
    (index : Nat) (path : List Nat) :
    (ViewLayout.split axis children weights).subtree (index :: path) =
      children[index]?.bind fun child => child.subtree path := rfl

lemma subtree_append (layout : ViewLayout) (path inner : List Nat) :
    layout.subtree (path ++ inner) = (layout.subtree path).bind fun below => below.subtree inner := by
  induction path generalizing layout with
  | nil => simp
  | cons index path ih =>
    cases layout with
    | terminal id => rfl
    | split axis children weights =>
      rw [List.cons_append, subtree_split, subtree_split]
      cases children[index]? with
      | none => rfl
      | some child => exact ih child

lemma weightsAt_child {child : ViewLayout} (at_ : children[index]? = some child) (path : List Nat) :
    (ViewLayout.split axis children weights).weightsAt (index :: path) = child.weightsAt path := by
  rw [weightsAt, subtree_split, at_]
  rfl

lemma weightsAt_outside (outside : children[index]? = none) (path : List Nat) :
    (ViewLayout.split axis children weights).weightsAt (index :: path) = [] := by
  rw [weightsAt, subtree_split, outside]
  rfl

lemma weightsAt_append {below : ViewLayout} {path : List Nat} (h : below ∈ layout.subtree path) (inner : List Nat) :
    layout.weightsAt (path ++ inner) = below.weightsAt inner := by
  rw [weightsAt, weightsAt, subtree_append, Option.mem_def.1 h]
  rfl

lemma hasWeightsAny_iff : hasWeightsAny children = true ↔ ∃ child ∈ children, child.hasWeights = true := by
  induction children with
  | nil => simp [hasWeightsAny]
  | cons child children ih => simp [hasWeightsAny, ih]

lemma hasWeights_iff (layout : ViewLayout) : layout.hasWeights = true ↔ ∃ path, layout.weightsAt path ≠ [] := by
  induction layout with
  | terminal id =>
    rw [hasWeights]
    refine ⟨nofun, ?_⟩
    rintro ⟨path, weights⟩
    cases path with
    | nil => exact (weights rfl).elim
    | cons index path => exact (weights rfl).elim
  | split axis children weights ih =>
    rw [hasWeights, Bool.or_eq_true, Bool.not_eq_true', List.isEmpty_eq_false_iff, hasWeightsAny_iff]
    constructor
    · intro some
      cases some with
      | inl own => exact ⟨[], own⟩
      | inr below =>
        obtain ⟨child, mem, weighted⟩ := below
        obtain ⟨path, found⟩ := (ih child mem).1 weighted
        obtain ⟨index, at_⟩ := List.mem_iff_getElem?.1 mem
        exact ⟨index :: path, by rwa [weightsAt_child at_]⟩
    · rintro ⟨path, found⟩
      cases path with
      | nil => exact .inl found
      | cons index path =>
        cases at_ : children[index]? with
        | none => exact (found (weightsAt_outside at_ path)).elim
        | some child =>
          rw [weightsAt_child at_] at found
          have mem := List.mem_of_getElem? at_
          exact .inr ⟨child, mem, (ih child mem).2 ⟨path, found⟩⟩

lemma weightsAt_of_not_hasWeights (h : layout.hasWeights = false) (path : List Nat) : layout.weightsAt path = [] := by
  by_contra weighted
  have found := (hasWeights_iff layout).2 ⟨path, weighted⟩
  rw [h] at found
  cases found

lemma clearWeightsAll_eq (children : List ViewLayout) : clearWeightsAll children = children.map clearWeights := by
  induction children with
  | nil => rfl
  | cons child children ih => rw [clearWeightsAll, ih, List.map_cons]

/-! ### Keeping weights -/

lemma preserve_same (same : children.length = oldChildren.length) (weights oldWeights : List UInt32) :
    preserveLayoutWeights (.split axis children weights) (.split axis oldChildren oldWeights) =
      if weights ≠ [] ∧ weights ≠ oldWeights then .fail ambiguous
      else do
        let children ← preserveLayoutWeightsAll children oldChildren
        return .split axis children oldWeights := by
  rw [preserveLayoutWeights, if_pos ⟨rfl, same⟩]

lemma preserve_other (other : ¬ SameSplit next previous) :
    preserveLayoutWeights next previous =
      if next.hasWeights || previous.hasWeights then .fail ambiguous else .ok next := by
  cases next with
  | terminal id => rw [preserveLayoutWeights]; intros; contradiction
  | split axis children weights =>
    cases previous with
    | terminal id => rw [preserveLayoutWeights]; intros; contradiction
    | split axis' children' weights' =>
      rw [preserveLayoutWeights]
      exact if_neg other

lemma preserveAll_ok (same : children.length = oldChildren.length)
    (ok : preserveLayoutWeightsAll children oldChildren = .ok result) :
    List.Forall₂ (fun pair child => preserveLayoutWeights pair.1 pair.2 = .ok child)
      (children.zip oldChildren) result := by
  induction children generalizing oldChildren result with
  | nil =>
    cases ok
    exact .nil
  | cons child children ih =>
    cases oldChildren with
    | nil => cases same
    | cons previous rest =>
      obtain ⟨first, hfirst, ok⟩ := Res.bind_eq_ok ok
      obtain ⟨others, hothers, ok⟩ := Res.bind_eq_ok ok
      cases ok
      exact .cons hfirst (ih (Nat.succ.inj same) hothers)

lemma preserveAll_of_forall (same : children.length = oldChildren.length)
    (h : List.Forall₂ (fun pair child => preserveLayoutWeights pair.1 pair.2 = .ok child)
      (children.zip oldChildren) result) : preserveLayoutWeightsAll children oldChildren = .ok result := by
  induction children generalizing oldChildren result with
  | nil =>
    cases h
    rfl
  | cons child children ih =>
    cases oldChildren with
    | nil => cases same
    | cons previous rest =>
      cases h with
      | cons first others =>
        rw [preserveLayoutWeightsAll, first, Res.ok_bind, ih (Nat.succ.inj same) others]
        rfl

lemma preserveAll_error (h : preserveLayoutWeightsAll children oldChildren = .error e) :
    ∃ index : Nat, ∃ child ∈ children[index]?, ∃ previous ∈ oldChildren[index]?,
      preserveLayoutWeights child previous = .error e := by
  induction children generalizing oldChildren with
  | nil => cases h
  | cons child children ih =>
    cases oldChildren with
    | nil => cases h
    | cons previous rest =>
      rw [preserveLayoutWeightsAll] at h
      cases first : preserveLayoutWeights child previous with
      | error e' =>
        rw [first] at h
        cases h
        exact ⟨0, child, rfl, previous, rfl, first⟩
      | ok child' =>
        cases others : preserveLayoutWeightsAll children rest with
        | ok children' =>
          rw [first, others] at h
          cases h
        | error e' =>
          rw [first, others] at h
          cases h
          obtain ⟨index, found⟩ := ih others
          exact ⟨index + 1, found⟩

/-- Why an arrangement is refused: it has weights that are not the old ones, or it restructures a subtree
    with weights. -/
def Refused (next previous : ViewLayout) : Prop :=
  (∃ path, next.weightsAt path ≠ [] ∧ next.weightsAt path ≠ previous.weightsAt path) ∨
    Restructures next previous

/-- What an arrangement becomes that is not refused. -/
structure Keeps (next previous result : ViewLayout) : Prop where
  shape : result.clearWeights = next.clearWeights
  weights : ∀ path, result.weightsAt path = previous.weightsAt path
  changed : ∀ path, ¬ Unchanged path next previous → result.weightsAt path = []
  again : preserveLayoutWeights result previous = .ok result
  accepted : ¬ Refused next previous

lemma not_refused (plain : ∀ path, next.weightsAt path = []) (plain' : ∀ path, previous.weightsAt path = []) :
    ¬ Refused next previous := by
  rintro (⟨path, weighted, -⟩ | ⟨path, after, hafter, before, hbefore, -, inner, weighted | weighted⟩)
  · exact weighted (plain path)
  · exact weighted ((weightsAt_append hafter inner).symm.trans (plain _))
  · exact weighted ((weightsAt_append hbefore inner).symm.trans (plain' _))

lemma Keeps.split {axis : SplitAxis} {children oldChildren result : List ViewLayout}
    {weights oldWeights : List UInt32} (same : children.length = oldChildren.length)
    (own : weights = [] ∨ weights = oldWeights)
    (inner : List.Forall₂ (fun pair child => Keeps pair.1 pair.2 child) (children.zip oldChildren) result) :
    Keeps (.split axis children weights) (.split axis oldChildren oldWeights)
      (.split axis result oldWeights) := by
  have length : result.length = children.length := by
    have zipped := inner.length_eq
    rw [List.length_zip, ← same, Nat.min_self] at zipped
    exact zipped.symm
  -- The three children behind one index.
  have at_ : ∀ index : Nat, children[index]? = none ∧ oldChildren[index]? = none ∧ result[index]? = none ∨
      ∃ child old new, children[index]? = some child ∧ oldChildren[index]? = some old ∧
        result[index]? = some new ∧ Keeps child old new := by
    intro index
    by_cases inside : index < children.length
    · right
      have bound : index < (children.zip oldChildren).length := by
        rw [List.length_zip]
        omega
      have kept := List.forall₂_iff_get.1 inner |>.2 index bound (length ▸ inside)
      rw [List.get_eq_getElem, List.get_eq_getElem, List.getElem_zip] at kept
      exact ⟨_, _, _, List.getElem?_eq_getElem inside, List.getElem?_eq_getElem (same ▸ inside),
        List.getElem?_eq_getElem (length ▸ inside), kept⟩
    · left
      refine ⟨List.getElem?_eq_none ?_, List.getElem?_eq_none ?_, List.getElem?_eq_none ?_⟩ <;> omega
  constructor
  case shape =>
    rw [clearWeights, clearWeights, clearWeightsAll_eq, clearWeightsAll_eq]
    congr 1
    apply List.ext_getElem?
    intro index
    rw [List.getElem?_map, List.getElem?_map]
    rcases at_ index with ⟨none, -, none'⟩ | ⟨child, old, new, hchild, -, hnew, kept⟩
    · rw [none, none']
    · rw [hchild, hnew, Option.map_some, Option.map_some, kept.shape]
  case weights =>
    intro path
    cases path with
    | nil => rfl
    | cons index path =>
      rcases at_ index with ⟨-, none, none'⟩ | ⟨child, old, new, -, hold, hnew, kept⟩
      · rw [weightsAt_outside none, weightsAt_outside none']
      · rw [weightsAt_child hold, weightsAt_child hnew, kept.weights]
  case changed =>
    intro path other
    cases path with
    | nil => exact (other ⟨rfl, same⟩).elim
    | cons index path =>
      rcases at_ index with ⟨-, -, none⟩ | ⟨child, old, new, hchild, hold, hnew, kept⟩
      · exact weightsAt_outside none path
      · rw [weightsAt_child hnew]
        apply kept.changed
        intro unchanged
        exact other ⟨⟨rfl, same⟩, child, by simp [hchild], old, by simp [hold], unchanged⟩
  case again =>
    have whole : preserveLayoutWeightsAll result oldChildren = .ok result := by
      apply preserveAll_of_forall (length.trans same)
      refine List.forall₂_iff_get.2 ⟨?_, ?_⟩
      · rw [List.length_zip]
        omega
      · intro index bound inside
        rw [List.get_eq_getElem, List.get_eq_getElem, List.getElem_zip]
        rcases at_ index with ⟨-, -, none⟩ | ⟨child, old, new, -, hold, hnew, kept⟩
        · rw [List.getElem?_eq_getElem inside] at none
          cases none
        · have news := List.getElem_of_getElem? hnew
          have olds := List.getElem_of_getElem? hold
          rw [news.2, olds.2]
          exact kept.again
    rw [preserve_same (length.trans same), if_neg fun other => other.2 rfl, whole]
    rfl
  case accepted =>
    rintro (⟨path, weighted, other⟩ | ⟨path, after, hafter, before, hbefore, other, inner⟩)
    · cases path with
      | nil =>
        cases own with
        | inl empty => exact weighted empty
        | inr eq => exact other eq
      | cons index path =>
        rcases at_ index with ⟨none, -, -⟩ | ⟨child, old, new, hchild, hold, -, kept⟩
        · exact weighted (weightsAt_outside none path)
        · rw [weightsAt_child hchild] at weighted other
          rw [weightsAt_child hold] at other
          exact kept.accepted (.inl ⟨path, weighted, other⟩)
    · cases path with
      | nil =>
        rw [subtree_nil, Option.mem_some_iff] at hafter hbefore
        subst hafter hbefore
        exact other ⟨rfl, same⟩
      | cons index path =>
        rw [subtree_split] at hafter hbefore
        rcases at_ index with ⟨none, -, -⟩ | ⟨child, old, new, hchild, hold, -, kept⟩
        · rw [none] at hafter
          cases hafter
        · rw [hchild] at hafter
          rw [hold] at hbefore
          exact kept.accepted (.inr ⟨path, after, hafter, before, hbefore, other, inner⟩)

lemma preserve_ok {result : ViewLayout} (ok : preserveLayoutWeights next previous = .ok result) :
    Keeps next previous result := by
  -- Outside of the same split nothing may have weights.
  have other : ∀ {next previous result : ViewLayout}, ¬ SameSplit next previous →
      preserveLayoutWeights next previous = .ok result → Keeps next previous result := by
    intro next previous result other ok
    have rule := preserve_other other
    rw [ok] at rule
    split at rule
    case isTrue => cases rule
    case isFalse plain =>
      rw [Bool.not_eq_true, Bool.or_eq_false_iff] at plain
      obtain rfl : result = next := Except.ok.inj rule
      have own := weightsAt_of_not_hasWeights plain.1
      have old := weightsAt_of_not_hasWeights plain.2
      exact ⟨rfl, fun path => (own path).trans (old path).symm, fun path _ => own path, ok,
        not_refused own old⟩
  induction next generalizing previous result with
  | terminal id => exact other nofun ok
  | split axis children weights ih =>
    by_cases same : SameSplit (.split axis children weights) previous
    · cases previous with
      | terminal id => exact same.elim
      | split axis' oldChildren oldWeights =>
        obtain ⟨rfl, same⟩ := same
        rw [preserve_same same] at ok
        split at ok
        case isTrue => cases ok
        case isFalse own =>
          obtain ⟨result, hresult, ok⟩ := Res.bind_eq_ok ok
          cases ok
          apply Keeps.split same
          · by_contra neither
            rw [not_or] at neither
            exact own neither
          · have forall_ := preserveAll_ok same hresult
            clear hresult ok
            generalize hpairs : children.zip oldChildren = pairs at forall_ ⊢
            have listed : ∀ pair ∈ pairs, pair.1 ∈ children := by
              intro pair mem
              rw [← hpairs] at mem
              exact (List.of_mem_zip mem).1
            clear hpairs
            induction forall_ with
            | nil => exact .nil
            | cons first _ ih' =>
              refine .cons (ih _ (listed _ List.mem_cons_self) first) (ih' ?_)
              exact fun pair mem => listed pair (List.mem_cons_of_mem _ mem)
    · exact other same ok

lemma preserve_error (error : preserveLayoutWeights next previous = .error e) :
    e = .err ambiguous ∧ Refused next previous := by
  have other : ∀ {next previous : ViewLayout} {e : Fault String}, ¬ SameSplit next previous →
      preserveLayoutWeights next previous = .error e → e = .err ambiguous ∧ Refused next previous := by
    intro next previous e other error
    rw [preserve_other other] at error
    split at error
    case isFalse => cases error
    case isTrue weighted =>
      refine ⟨(Except.error.inj error).symm, .inr ⟨[], next, by simp, previous, by simp, other, ?_⟩⟩
      rw [Bool.or_eq_true, hasWeights_iff, hasWeights_iff] at weighted
      rcases weighted with ⟨path, found⟩ | ⟨path, found⟩
      · exact ⟨path, .inl found⟩
      · exact ⟨path, .inr found⟩
  induction next generalizing previous e with
  | terminal id => exact other nofun error
  | split axis children weights ih =>
    by_cases same : SameSplit (.split axis children weights) previous
    · cases previous with
      | terminal id => exact same.elim
      | split axis' oldChildren oldWeights =>
        obtain ⟨rfl, same⟩ := same
        rw [preserve_same same] at error
        split at error
        case isTrue own => exact ⟨(Except.error.inj error).symm, .inl ⟨[], own⟩⟩
        case isFalse =>
          cases inner : preserveLayoutWeightsAll children oldChildren with
          | ok result =>
            rw [inner] at error
            cases error
          | error e' =>
            rw [inner] at error
            cases error
            obtain ⟨index, child, hchild, old, hold, below⟩ := preserveAll_error inner
            obtain ⟨rfl, refused⟩ := ih child (List.mem_of_getElem? hchild) below
            refine ⟨rfl, ?_⟩
            rcases refused with ⟨path, found⟩ | ⟨path, after, hafter, before, hbefore, found⟩
            · refine .inl ⟨index :: path, ?_⟩
              rw [weightsAt_child hchild, weightsAt_child hold]
              exact found
            · refine .inr ⟨index :: path, after, ?_, before, ?_, found⟩
              · rw [subtree_split, hchild]
                exact hafter
              · rw [subtree_split, hold]
                exact hbefore
    · exact other same error

/-- Preserving the weights of a layout answers with the new structure and leaves, with every weight of the
    old layout in its place and none elsewhere, and doing it again changes nothing; or it refuses, exactly
    when the new layout has weights of its own or restructures a subtree with weights. -/
theorem preserveLayoutWeights_keeps (next previous : ViewLayout) :
    (∀ result, preserveLayoutWeights next previous = .ok result →
      result.clearWeights = next.clearWeights ∧ result.terminalIds = next.terminalIds ∧
      (∀ path, (Unchanged path next previous → result.weightsAt path = previous.weightsAt path) ∧
        (¬ Unchanged path next previous → result.weightsAt path = []) ∧
        (previous.weightsAt path ≠ [] → result.weightsAt path = previous.weightsAt path) ∧
        (next.weightsAt path ≠ [] → result.weightsAt path = next.weightsAt path)) ∧
      preserveLayoutWeights result previous = .ok result) ∧
    (preserveLayoutWeights next previous = .fail ambiguous ↔
      (∃ path, next.weightsAt path ≠ [] ∧ next.weightsAt path ≠ previous.weightsAt path) ∨
        Restructures next previous) ∧
    ((∃ result, preserveLayoutWeights next previous = .ok result) ∨
      preserveLayoutWeights next previous = .fail ambiguous) := by
  refine ⟨?_, ?_, ?_⟩
  · intro result ok
    have keeps := preserve_ok ok
    refine ⟨keeps.shape, (preserveLayoutWeights_spec ok).1, fun path => ?_, keeps.again⟩
    refine ⟨fun _ => keeps.weights path, keeps.changed path, fun _ => keeps.weights path, ?_⟩
    intro weighted
    by_contra other
    refine keeps.accepted (.inl ⟨path, weighted, fun same => other ?_⟩)
    rw [keeps.weights path, same]
  · constructor
    · intro refused
      exact (preserve_error refused).2
    · intro refused
      cases kept : preserveLayoutWeights next previous with
      | ok result => exact ((preserve_ok kept).accepted refused).elim
      | error e => rw [(preserve_error kept).1]; rfl
  · cases kept : preserveLayoutWeights next previous with
    | ok result => exact .inl ⟨result, rfl⟩
    | error e => rw [(preserve_error kept).1]; exact .inr rfl

end Ctl.Proto.ViewLayout
