import Ctl.Daemon.Rollback

/-!
# Resizes that are not undone

`update_view` and `resize` go through `resize_view` like the operations of `Ctl.Daemon.Rollback`, but do
not restore anything when a resize fails: `update_view` has committed its layout by then, and `resize`
has given the earlier panes their new sizes. `failed_resize_exact` says exactly when an error of these
two leaves the view as it was.
-/

namespace Ctl.Daemon
open Ctl.Base Ctl.Proto Ctl.Core

/-- The first resizes of a script succeed. -/
def Succeed (pty : List (Option String)) (count : Nat) : Prop :=
  ∀ outcome ∈ pty.take count, outcome = none

instance (pty : List (Option String)) (count : Nat) : Decidable (Succeed pty count) :=
  inferInstanceAs (Decidable (∀ outcome ∈ pty.take count, outcome = none))

namespace Succeed

lemma of_nil (count : Nat) : Succeed [] count := by
  intro outcome mem
  exact absurd (List.mem_of_mem_take mem) List.not_mem_nil

lemma not_failed (message : String) (pty : List (Option String)) (count : Nat) :
    ¬ Succeed (some message :: pty) (count + 1) := by
  intro succeed
  cases succeed (some message) List.mem_cons_self

lemma cons_iff (pty : List (Option String)) (count : Nat) : Succeed (none :: pty) (count + 1) ↔ Succeed pty count := by
  unfold Succeed
  rw [List.take_succ_cons, List.forall_mem_cons]
  exact and_iff_right rfl

end Succeed

namespace Registry

/-! ### The claim -/

def arrangement (r : Registry) (k : String) : Option (ViewLayout × Nat × TerminalSize) :=
  (AList.lookup k r.sessions).map fun session =>
    (session.view.layout, session.view.revision, session.view.canvasSize)

def Settled (r : Registry) (k : String) : Prop :=
  ∀ session, AList.lookup k r.sessions = some session →
    ∀ panes, viewPanes session.view session.view.canvasSize = .ok panes →
      ∀ pane ∈ panes, ∀ terminal, r.terminal? pane.terminalId = some terminal →
        paneSize session.view.canvasSize pane = .ok terminal.terminalSize

def settles (r : Registry) (view : View) : Bool :=
  match viewPanes view view.canvasSize with
  | .error _ => true
  | .ok panes => panes.all fun pane => (r.terminal? pane.terminalId).all fun terminal =>
    paneSize view.canvasSize pane = .ok terminal.terminalSize

lemma settled_iff (r : Registry) (k : String) :
    r.Settled k ↔ (AList.lookup k r.sessions).all fun session => r.settles session.view := by
  have one : ∀ view : View, r.settles view = true ↔
      ∀ panes, viewPanes view view.canvasSize = .ok panes → ∀ pane ∈ panes, ∀ terminal,
        r.terminal? pane.terminalId = some terminal →
          paneSize view.canvasSize pane = .ok terminal.terminalSize := by
    intro view
    unfold settles
    split
    case h_1 e eq =>
      rw [eq]
      exact ⟨fun _ _ h => (by cases h), fun _ => rfl⟩
    case h_2 panes eq =>
      rw [eq]
      simp only [List.all_eq_true, Option.all_eq_true, decide_eq_true_eq]
      exact ⟨fun h _ same => Except.ok.inj same ▸ h, fun h => h panes rfl⟩
  simp only [Settled, Option.all_eq_true, one]

instance (r : Registry) (k : String) : Decidable (r.Settled k) :=
  decidable_of_iff _ (settled_iff r k).symm

instance {ε α : Type} : (x : Res ε α) → Decidable (∃ e, x = .fail e)
  | .ok _ => .isFalse (by nofun)
  | .error .panic => .isFalse (by nofun)
  | .error (.err e) => .isTrue ⟨e, rfl⟩

/-- An operation that returns an error leaves the view as it was, and its panes have the sizes of their
    rectangles. -/
def Untouched {α : Type} (k : String) (r : Registry) (outcome : Outcome α) : Prop :=
  (∃ e, outcome.2 = .fail e) →
    outcome.1.arrangement k = r.arrangement k ∧ outcome.1.Settled k

/-! ### The checks before the resizes -/

/-- What `updateView` checks before it changes anything. -/
def updatePlan (r : Registry) (selector : String) (expectedRevision : Nat) (layout : ViewLayout) :
    Res SessionError (String × ViewLayout) := do
  (layout.validateLayout 0).mapErr .invalidView
  let root ← r.root selector
  Res.require (root.view.revision = expectedRevision)
    (.invalidView "view changed; reload before editing")
  let layout ← (layout.preserveLayoutWeights root.view.layout).mapErr .invalidView
  let expected := root.view.layout.terminalIds
  let ids := layout.terminalIds
  Res.require (ids.length = expected.dedup.length ∧ ids.dedup.length = ids.length ∧
    ∀ id ∈ ids, id ∈ expected)
    (.invalidView "layout must contain each owned terminal exactly once")
  let _ ← (layout.paneGeometry root.view.canvasSize).mapErr .invalidView
  return (root.id, layout)

lemma updateView_eq (r : Registry) (selector : String) (expectedRevision : Nat) (layout : ViewLayout) :
    r.updateView selector expectedRevision layout
      = match r.updatePlan selector expectedRevision layout with
        | .error e => (r, .error e)
        | .ok (id, layout) => (r.editView id (relayout layout)).replyChanged id := rfl

/-- What `resize` checks, and the canvas that it takes. -/
def resizePlan (r : Registry) (self attachmentId : String) (size : TerminalSize) :
    Res SessionError (String × TerminalSize) := do
  let terminal ← Res.orPanic (AList.lookup self r.heap)
  let owner := terminal.owner.sessionId
  let root ← Res.ofOption (AList.lookup owner r.sessions) (.pty "view has closed")
  Res.require (root.view.leases.status attachmentId .layout).ownedByClient .layoutLeaseRequired
  let size ← clampSize root.view.layout size
  return (owner, size)

lemma resize_eq (r : Registry) (self attachmentId : String) (size : TerminalSize) :
    r.resize self attachmentId size
      = match r.resizePlan self attachmentId size with
        | .error e => (r, .error e)
        | .ok (owner, size) => r.resizeView owner size := rfl

/-! ### The sizes after some resizes -/

/-- Resizing the panes of a view ends in an error exactly when one of the resizes does; the panes before
    that one have their new sizes, the others their old ones. -/
lemma resizePanes_sizes (size : TerminalSize) (panes : List PaneGeometry) (r : Registry)
    (registered : ∀ pane ∈ panes, pane.terminalId ∈ r.terminals)
    (sizes : ∀ pane ∈ panes, ∃ result, paneSize size pane = .ok result) (nodup : (panes.map (·.terminalId)).Nodup) :
    (Succeed r.pty panes.length → (resizePanes size r panes).2 = .ok ()) ∧
    (¬ Succeed r.pty panes.length → ∃ message, (resizePanes size r panes).2 = .fail (.pty message)) ∧
    ∀ i pane, panes[i]? = some pane → ∀ before, AList.lookup pane.terminalId r.heap = some before →
      ∃ after, AList.lookup pane.terminalId (resizePanes size r panes).1.heap = some after ∧
        (if Succeed r.pty (i + 1) then paneSize size pane else .ok before.terminalSize)
          = .ok after.terminalSize := by
  induction panes generalizing r with
  | nil => exact ⟨fun _ => rfl, fun failed => absurd (fun _ mem => by cases mem) failed, by intros; contradiction⟩
  | cons head panes ih =>
    obtain ⟨result, hresult⟩ := sizes head List.mem_cons_self
    obtain ⟨absent, nodup⟩ := List.nodup_cons.1 nodup
    have resized := r.resizePty_resized head.terminalId result
    rw [resizePanes, if_pos (registered head List.mem_cons_self), hresult]
    dsimp only
    have calm := r.resizePty_calm head.terminalId result
    generalize r.resizePty head.terminalId result = outcome at resized calm
    cases resized with
    | @failed message pty eq =>
      rw [eq]
      refine ⟨fun all => absurd all (Succeed.not_failed _ _ _), fun _ => ⟨message, rfl⟩, ?_⟩
      intro i pane _ before hbefore
      exact ⟨before, hbefore, if_neg (Succeed.not_failed _ _ _)⟩
    | @done pty eq =>
      dsimp only
      have shift : ∀ count, Succeed r.pty (count + 1) ↔ Succeed pty count := by
        intro count
        rcases eq with eq | ⟨eq, rfl⟩
        · rw [eq]
          exact Succeed.cons_iff pty count
        · rw [eq]
          exact ⟨fun _ => Succeed.of_nil _, fun _ => Succeed.of_nil _⟩
      obtain ⟨passes, fails, rest⟩ := ih (editTerminal { r with pty } head.terminalId fun terminal =>
        { terminal with terminalSize := result })
        (fun pane mem => registered pane (List.mem_cons_of_mem head mem))
        (fun pane mem => sizes pane (List.mem_cons_of_mem head mem)) nodup
      refine ⟨fun all => passes ((shift _).1 all), fun failed => fails fun all => failed ((shift _).2 all),
        ?_⟩
      intro i pane at_ before hbefore
      cases i with
      | zero =>
        obtain rfl := Option.some.inj at_
        -- The later panes are other terminals.
        refine ⟨{ before with terminalSize := result }, ?_, ?_⟩
        · rw [(resizePanes_spec size _ panes).2 head.terminalId absent]
          show AList.lookup _ (r.heap.modify _ _) = _
          rw [Table.lookup_modify_self, hbefore]
          rfl
        · rw [if_pos ((shift 0).2 (by intro _ mem; cases mem)), hresult]
      | succ i =>
        have at_ : panes[i]? = some pane := at_
        have ne : pane.terminalId ≠ head.terminalId := by
          intro same
          have mem := List.mem_map_of_mem (f := (·.terminalId)) (List.mem_of_getElem? at_)
          rw [same] at mem
          exact absent mem
        have hbefore' : AList.lookup pane.terminalId (editTerminal { r with pty } head.terminalId
            fun terminal => { terminal with terminalSize := result }).heap = some before :=
          (Table.lookup_modify_ne ne _).trans hbefore
        obtain ⟨after, hafter, eq⟩ := rest i pane at_ before hbefore'
        refine ⟨after, hafter, ?_⟩
        rw [← eq]
        exact if_congr (shift _) rfl rfl

/-! ### Replacing an arrangement -/

lemma reflowView_eq {r : Registry} {id : String} {root : Session} {panes : List PaneGeometry}
    (found : AList.lookup id r.sessions = some root) (placed : viewPanes root.view root.view.canvasSize = .ok panes) :
    r.reflowView id = resizePanes root.view.canvasSize r panes := by
  unfold reflowView
  rw [found]
  dsimp only
  unfold resizeView
  rw [found]
  dsimp only
  rw [placed]
  dsimp only
  obtain ⟨r', result⟩ := resizePanes root.view.canvasSize r panes
  cases result with
  | error e => rfl
  | ok => exact if_pos rfl

variable {r : Registry} {id : String} {session : Session} {size : TerminalSize} {panes : List PaneGeometry}
  {selector k self attachmentId : String} {expectedRevision : Nat} {layout : ViewLayout} {view : View}
  {size' : TerminalSize} {terminal : Terminal}

lemma replyChanged_failed {e : SessionError} (failed : (r.reflowView id).2 = .fail e) :
    r.replyChanged id = ((r.reflowView id).1, .fail (.pty e.toText)) := by
  unfold replyChanged reflowChanged
  rw [failed]
  rfl

lemma replyChanged_ok (ok : (r.reflowView id).2 = .ok ()) :
    r.replyChanged id = ((r.reflowView id).1, (r.reflowView id).1.viewInfo id) := by
  unfold replyChanged reflowChanged
  rw [ok]
  rfl

lemma Calm.arrangement {r' : Registry} (calm : Calm r r') (k : String) : r'.arrangement k = r.arrangement k := by
  rw [Registry.arrangement, calm.sessions, Registry.arrangement]

lemma updatePlan_spec (owned : r.Owned) {layout' : ViewLayout} (found : r.root selector = .ok session)
    (planned : r.updatePlan selector expectedRevision layout = .ok (id, layout')) :
    id = session.id ∧ layout'.terminalIds.Perm session.view.layout.terminalIds ∧ layout'.Valid 0 ∧
      layout'.Fits session.view.canvasSize := by
  obtain ⟨_, valid, ok⟩ := Res.bind_eq_ok planned
  obtain ⟨root, hroot, ok⟩ := Res.bind_eq_ok ok
  obtain ⟨-, ok⟩ := Res.require_bind ok
  obtain ⟨next, preserved, ok⟩ := Res.bind_eq_ok ok
  obtain ⟨⟨length, distinct, subset⟩, ok⟩ := Res.require_bind ok
  obtain ⟨panes, placed, ok⟩ := Res.bind_eq_ok ok
  cases found.symm.trans hroot
  cases ok
  have fine := owned.session _ session (root_spec owned found)
  have shape := (ViewLayout.validateLayout_ok_iff.1 (Res.mapErr_eq_ok valid)).2
  have kept := (ViewLayout.preserveLayoutWeights_spec (Res.mapErr_eq_ok preserved)).2 0 shape
    fine.shape
  exact ⟨rfl, perm_of_subset fine.nodup length distinct subset, kept,
    ViewLayout.fits_of_paneGeometry (Res.mapErr_eq_ok placed)⟩

/-- When an error of `update_view` leaves the view as it was: the request is refused, or no resize of its
    panes fails. -/
def UpdateKeeps (r : Registry) (session : Session) (selector : String) (expectedRevision : Nat)
    (layout : ViewLayout) : Prop :=
  match r.updatePlan selector expectedRevision layout with
  | .ok _ => Succeed r.pty session.view.layout.terminalIds.length
  | .error (.err _) => r.Settled session.id
  | .error .panic => True

lemma updateView_untouched (owned : r.Owned) (found : r.root selector = .ok session) :
    Untouched session.id r (r.updateView selector expectedRevision layout) ↔
      UpdateKeeps r session selector expectedRevision layout := by
  rw [updateView_eq, UpdateKeeps]
  cases planned : r.updatePlan selector expectedRevision layout with
  | error fault =>
    cases fault with
    | panic => exact ⟨fun _ => trivial, fun _ ⟨e, failed⟩ => nomatch failed⟩
    | err e => exact ⟨fun untouched => (untouched ⟨e, rfl⟩).2, fun settled _ => ⟨rfl, settled⟩⟩
  | ok plan =>
    obtain ⟨id, layout'⟩ := plan
    obtain ⟨rfl, leaves, valid, fits⟩ := updatePlan_spec owned found planned
    have there := root_spec owned found
    have fine := owned.session _ session there
    dsimp only
    rw [editView, editSession_eq there]
    set session' : Session := { session with view := relayout layout' session.view } with hsession
    set r' := r.withSession session.id session' with hr'
    have now : AList.lookup session.id r'.sessions = some session' := by
      rw [lookup_withSession, if_pos rfl]
    obtain ⟨panes, placed, ids, -⟩ :=
      (ViewLayout.paneGeometry_tiles valid.wellFormed session.view.canvasSize).1 fits
    have shown : viewPanes session'.view session'.view.canvasSize = .ok panes :=
      congrArg (Res.mapErr SessionError.pty) placed
    have zoom : session'.view.zoomedTerminalId = none := rfl
    obtain ⟨-, -, sizes⟩ := viewPanes_spec valid zoom shown
    have length : panes.length = session.view.layout.terminalIds.length := by
      rw [← leaves.length_eq, ← ids, List.length_map]
    obtain ⟨passes, fails, -⟩ := resizePanes_sizes session.view.canvasSize panes r' (by
      intro pane mem
      have leaf : pane.terminalId ∈ layout'.terminalIds := ids ▸ List.mem_map_of_mem mem
      exact (owned.leaf _ session there _ (leaves.mem_iff.1 leaf)).1) sizes
      (ids ▸ leaves.nodup_iff.2 fine.nodup)
    have calm := (reflowView_spec r' session.id).1
    have reflowed : r'.reflowView session.id = resizePanes session.view.canvasSize r' panes :=
      @reflowView_eq _ _ session' _ now shown
    rw [length] at passes fails
    rw [← reflowed] at passes fails
    constructor
    · intro untouched
      by_contra failed
      -- The new layout and the greater revision stay.
      obtain ⟨message, eq⟩ := fails failed
      rw [replyChanged_failed eq] at untouched
      obtain ⟨same, -⟩ := untouched ⟨_, rfl⟩
      dsimp only at same
      rw [calm.arrangement, arrangement, now, arrangement, there] at same
      have revisions := congrArg (fun a => a.2.1) (Option.some.inj same)
      exact absurd revisions (Nat.succ_ne_self _)
    · intro succeed
      rintro ⟨e, failed⟩
      rw [replyChanged_ok (passes succeed)] at failed
      dsimp only at failed
      unfold viewInfo Registry.root at failed
      rw [(calm.sessions session.id).trans now, Res.ok_bind] at failed
      dsimp only at failed
      rw [show session'.view.layout.paneGeometry session'.view.canvasSize = .ok panes from placed]
        at failed
      cases failed

/-! ### Resizing a canvas -/

def shownIds (view : View) : List String :=
  match view.zoomedTerminalId with
  | some id => [id]
  | none => view.layout.terminalIds

lemma viewPanes_ids (valid : view.layout.Valid 0) (ok : viewPanes view size = .ok panes) :
    panes.map (·.terminalId) = shownIds view := by
  unfold shownIds
  cases zoom : view.zoomedTerminalId with
  | none => exact (viewPanes_spec valid zoom ok).2.1
  | some id =>
    rw [viewPanes, zoom] at ok
    cases ok
    rfl

lemma viewPanes_match {panes' : List PaneGeometry} (valid : view.layout.Valid 0)
    (ok : viewPanes view size = .ok panes) (ok' : viewPanes view size' = .ok panes') {i : Nat} {pane : PaneGeometry}
    (at_ : panes[i]? = some pane) : ∃ pane', panes'[i]? = some pane' ∧ pane'.terminalId = pane.terminalId := by
  have ids := (viewPanes_ids valid ok').trans (viewPanes_ids valid ok).symm
  have there : (panes.map (·.terminalId))[i]? = some pane.terminalId := by
    rw [List.getElem?_map, at_]
    rfl
  rw [← ids, List.getElem?_map] at there
  exact Option.map_eq_some_iff.1 there

lemma viewPanes_fits (fine : SessionOk session) (fits : session.view.layout.Fits size) :
    ∃ panes, viewPanes session.view size = .ok panes ∧
      ∀ pane ∈ panes, ∃ result, paneSize size pane = .ok result := by
  obtain ⟨placed, ok, ids, -, inside, -⟩ :=
    (ViewLayout.paneGeometry_tiles fine.shape.wellFormed size).1 fits
  unfold viewPanes
  cases zoom : session.view.zoomedTerminalId with
  | none =>
    refine ⟨placed, congrArg (Res.mapErr SessionError.pty) ok, fun pane mem => ?_⟩
    obtain ⟨within, columns, rows⟩ := inside pane mem
    exact paneSize_ok within (by omega) (by omega)
  | some id =>
    refine ⟨_, rfl, fun pane mem => ?_⟩
    obtain rfl := List.mem_singleton.1 mem
    -- The canvas has room for the pane of the zoomed terminal, so it is not empty.
    have leaf := fine.zoom id zoom
    rw [← ids] at leaf
    obtain ⟨pane, hpane, -⟩ := List.mem_map.1 leaf
    obtain ⟨⟨⟨-, hcolumns⟩, -, hrows⟩, columns, rows⟩ := inside pane hpane
    simp only [PaneGeometry.rect, TerminalSize.canvas] at hcolumns hrows
    refine paneSize_ok ⟨⟨Nat.le_refl _, ?_⟩, Nat.le_refl _, ?_⟩ ?_ ?_
    · simp [PaneGeometry.rect, TerminalSize.canvas]
    · simp [PaneGeometry.rect, TerminalSize.canvas]
    · show 0 < size.columns.toNat
      omega
    · show 0 < size.rows.toNat
      omega

lemma shownIds_spec (owned : r.Owned) (found : AList.lookup k r.sessions = some session) :
    (∀ id ∈ shownIds session.view, id ∈ r.terminals) ∧ (shownIds session.view).Nodup := by
  have fine := owned.session k session found
  unfold shownIds
  cases zoom : session.view.zoomedTerminalId with
  | none => exact ⟨fun id leaf => (owned.leaf k session found id leaf).1, fine.nodup⟩
  | some zoomed =>
    refine ⟨fun id mem => ?_, List.nodup_singleton zoomed⟩
    obtain rfl := List.mem_singleton.1 mem
    exact (owned.leaf k session found id (fine.zoom id zoom)).1

lemma resizePlan_spec (attached : AList.lookup self r.heap = some terminal)
    (found : AList.lookup terminal.owner.sessionId r.sessions = some session)
    (planned : r.resizePlan self attachmentId size = .ok (id, size')) :
    id = terminal.owner.sessionId ∧ session.view.layout.Fits size' := by
  obtain ⟨terminal', hterminal, ok⟩ := Res.bind_eq_ok planned
  obtain ⟨root, hroot, ok⟩ := Res.bind_eq_ok ok
  obtain ⟨-, ok⟩ := Res.require_bind ok
  obtain ⟨clamped, hclamped, ok⟩ := Res.bind_eq_ok ok
  cases ok
  cases attached.symm.trans (Res.orPanic_eq_ok hterminal)
  cases found.symm.trans (Res.ofOption_eq_ok hroot)
  exact ⟨rfl, clampSize_spec hclamped⟩

/-- Every pane before the first resize that fails is as large on the new canvas as on the old one, and
    every other pane has the size of its rectangle. -/
def SamePanes (r : Registry) (view : View) (size : TerminalSize) (panes : List PaneGeometry) : Prop :=
  ∀ old, viewPanes view view.canvasSize = .ok old → ∀ i pane pane', old[i]? = some pane →
    panes[i]? = some pane' → ∀ terminal, r.terminal? pane.terminalId = some terminal →
    paneSize view.canvasSize pane
      = if Succeed r.pty (i + 1) then paneSize size pane' else .ok terminal.terminalSize

/-- When an error of `resize` leaves the view as it was: the request is refused, or no resize fails, or
    the resizes before the failing one changed no size. -/
def ResizeKeeps (r : Registry) (session : Session) (self attachmentId : String) (size : TerminalSize) : Prop :=
  match r.resizePlan self attachmentId size with
  | .ok (_, size) => ∀ panes, viewPanes session.view size = .ok panes →
    Succeed r.pty panes.length ∨ r.SamePanes session.view size panes
  | .error (.err _) => r.Settled session.id
  | .error .panic => True

lemma settled_resizePanes (owned : r.Owned) (found : AList.lookup k r.sessions = some session)
    (placed : viewPanes session.view size = .ok panes)
    (sizes : ∀ pane ∈ panes, ∃ result, paneSize size pane = .ok result) :
    (resizePanes size r panes).1.Settled k ↔ r.SamePanes session.view size panes := by
  have fine := owned.session k session found
  have ids := viewPanes_ids fine.shape placed
  obtain ⟨registered, nodup⟩ := shownIds_spec owned found
  have there : ∀ pane ∈ panes, pane.terminalId ∈ r.terminals := fun pane mem =>
    registered _ (ids ▸ List.mem_map_of_mem mem)
  obtain ⟨-, -, after⟩ := resizePanes_sizes size panes r there sizes (ids ▸ nodup)
  have calm := (resizePanes_spec size r panes).1
  constructor
  · intro settled old hold i pane pane' hpane hpane' terminal hterminal
    obtain ⟨other, hother, same⟩ := viewPanes_match fine.shape hold placed hpane
    obtain rfl := Option.some.inj (hpane'.symm.trans hother)
    obtain ⟨mem, hbefore⟩ := terminal?_eq_some hterminal
    obtain ⟨terminal', hafter, eq⟩ := after i pane' hpane' terminal (same ▸ hbefore)
    rw [eq]
    refine settled session ((calm.sessions k).trans found) old hold pane (List.mem_of_getElem? hpane)
      terminal' ?_
    rw [terminal?, calm.terminals, if_pos mem, ← same]
    exact hafter
  · intro same session' found' old hold pane mem terminal' hterminal'
    obtain rfl : session = session' := by
      rw [calm.sessions, found] at found'
      exact Option.some.inj found'
    obtain ⟨i, hpane⟩ := List.mem_iff_getElem?.1 mem
    obtain ⟨pane', hpane', other⟩ := viewPanes_match fine.shape hold placed hpane
    obtain ⟨registered', hafter'⟩ := terminal?_eq_some hterminal'
    rw [calm.terminals] at registered'
    obtain ⟨terminal, -, hbefore, -⟩ := owned.registered registered'
    obtain ⟨after', hafter, eq⟩ := after i pane' hpane' terminal (other ▸ hbefore)
    rw [other, hafter'] at hafter
    cases hafter
    rw [← eq]
    refine same old hold i pane pane' hpane hpane' terminal ?_
    rw [terminal?, if_pos registered', hbefore]

lemma resize_untouched (owned : r.Owned) (attached : AList.lookup self r.heap = some terminal)
    (found : AList.lookup terminal.owner.sessionId r.sessions = some session) :
    Untouched session.id r (r.resize self attachmentId size) ↔
      ResizeKeeps r session self attachmentId size := by
  have key := owned.key _ session found
  have fine := owned.session _ session found
  rw [resize_eq, ResizeKeeps]
  cases planned : r.resizePlan self attachmentId size with
  | error fault =>
    cases fault with
    | panic => exact ⟨fun _ => trivial, fun _ ⟨e, failed⟩ => nomatch failed⟩
    | err e => exact ⟨fun untouched => (untouched ⟨e, rfl⟩).2, fun settled _ => ⟨rfl, settled⟩⟩
  | ok plan =>
    obtain ⟨id, size'⟩ := plan
    obtain ⟨rfl, fits⟩ := resizePlan_spec attached found planned
    obtain ⟨panes, placed, sizes⟩ := viewPanes_fits fine fits
    have ids := viewPanes_ids fine.shape placed
    obtain ⟨registered, nodup⟩ := shownIds_spec owned found
    obtain ⟨passes, fails, -⟩ := resizePanes_sizes size' panes r
      (fun pane mem => registered _ (ids ▸ List.mem_map_of_mem mem)) sizes (ids ▸ nodup)
    have settled := settled_resizePanes owned found placed sizes
    have calm := (resizePanes_spec size' r panes).1
    have condition : (∀ panes', viewPanes session.view size' = .ok panes' →
        Succeed r.pty panes'.length ∨ r.SamePanes session.view size' panes') ↔
        Succeed r.pty panes.length ∨ r.SamePanes session.view size' panes := by
      rw [placed]
      exact ⟨fun all => all panes rfl, fun one panes' eq => Except.ok.inj eq ▸ one⟩
    dsimp only
    rw [condition]
    unfold resizeView
    rw [found]
    dsimp only
    rw [placed]
    dsimp only
    by_cases all : Succeed r.pty panes.length
    · have ok := passes all
      refine ⟨fun _ => .inl all, fun _ => ?_⟩
      generalize resizePanes size' r panes = outcome at ok
      obtain ⟨r', result⟩ := outcome
      obtain rfl : result = .ok () := ok
      rintro ⟨e, failed⟩
      dsimp only at failed
      split at failed
      case isTrue => cases failed
      case isFalse => cases failed
    · obtain ⟨message, eq⟩ := fails all
      rw [← key] at settled
      generalize resizePanes size' r panes = outcome at eq settled calm
      obtain ⟨r', result⟩ := outcome
      obtain rfl : result = .fail (.pty message) := eq
      constructor
      · intro untouched
        exact .inr (settled.1 (untouched ⟨_, rfl⟩).2)
      · rintro (succeed | same) _
        · exact absurd succeed all
        · exact ⟨calm.arrangement session.id, settled.2 same⟩

end Registry

namespace World
open Registry

/-- An error of `update_view` leaves the view and the sizes of its panes as they were exactly when the
    request is refused in a view whose panes have the sizes of their rectangles, or no resize fails; an
    error of `resize` also when the resizes before the failing one changed no size. -/
theorem failed_resize_exact {actions : List Action} {w : World} (run : exec step start actions = some w) :
    (∀ selector expectedRevision layout session, w.registry.root selector = .ok session →
      (Untouched session.id w.registry (w.registry.updateView selector expectedRevision layout) ↔
        UpdateKeeps w.registry session selector expectedRevision layout)) ∧
    ∀ self attachmentId size terminal session, AList.lookup self w.registry.heap = some terminal →
      AList.lookup terminal.owner.sessionId w.registry.sessions = some session →
      (Untouched session.id w.registry (w.registry.resize self attachmentId size) ↔
        ResizeKeeps w.registry session self attachmentId size) :=
  ⟨fun _ _ _ _ found => updateView_untouched (run_owned run) found,
    fun _ _ _ _ _ attached found => resize_untouched (run_owned run) attached found⟩

/-- The panes of `failingResize` are rearranged, and a canvas is requested. -/
theorem failed_resize_exact_panes :
    ∃ w, exec step start failingResize = some w ∧
      (∃ session, w.registry.root "s1" = .ok session ∧
        (Untouched session.id w.registry
            (w.registry.updateView "s1" 1 (.split .vertical [.terminal "t1", .terminal "t2"] [])) ↔
          UpdateKeeps w.registry session "s1" 1 (.split .vertical [.terminal "t1", .terminal "t2"] []))) ∧
      ∃ session, AList.lookup "s1" w.registry.sessions = some session ∧
        (Untouched session.id w.registry (w.registry.resize "t1" "a1" ⟨100, 24, 0, 0⟩) ↔
          ResizeKeeps w.registry session "t1" "a1" ⟨100, 24, 0, 0⟩) :=
  ⟨_, rfl, ⟨_, rfl, (@failed_resize_exact failingResize _ rfl).1 _ _ _ _ rfl⟩,
    ⟨_, rfl, (@failed_resize_exact failingResize _ rfl).2 _ _ _ _ _ rfl rfl⟩⟩

/-- An `update_view` whose second resize fails returns an error and keeps the new layout and revision; a
    `resize` whose second resize fails returns an error and keeps the new size of the first pane. -/
theorem failed_resize_keeps_change :
    ∃ w, exec step start failingResize = some w ∧
      ¬ Untouched "s1" w.registry
        (w.registry.updateView "s1" 1 (.split .vertical [.terminal "t1", .terminal "t2"] [])) ∧
      ¬ Untouched "s1" w.registry (w.registry.resize "t1" "a1" ⟨100, 24, 0, 0⟩) := by
  refine ⟨_, rfl, ?_, ?_⟩
  · intro untouched
    have revisions := congrArg (Option.map fun a => a.2.1) (untouched (by decide +kernel)).1
    exact absurd revisions (by decide +kernel)
  · intro untouched
    exact absurd (untouched (by decide +kernel)).2 (by decide +kernel)

end World

end Ctl.Daemon
