import Ctl.Daemon.Ownership

/-!
# What registry operations publish

`publish_view` sends a view to the watches of its terminals. It is called at the end of `resize_view`,
when a tentative change is undone, and by the operations that rename a session or move a terminal into a
session of its own. `Sends` lists, for each operation, the views that are sent while it runs; the main
result says that a view that was sent is the view after the operation. A watch drops a view that it
already shows at the same revision under the same name; the list keeps it.
-/

namespace Ctl.Daemon
open Ctl.Base Ctl.Proto Ctl.Core

/-- What clients are shown of a session, apart from its panes and terminals. -/
structure Snapshot where
  sessionName : String
  sessionId : String
  viewId : String
  revision : Nat
  canvasSize : TerminalSize
  zoomedTerminalId : Option String
  layout : ViewLayout

def Session.snapshot (session : Session) : Snapshot :=
  ⟨session.name, session.id, session.view.id, session.view.revision, session.view.canvasSize,
    session.view.zoomedTerminalId, session.view.layout⟩

def ViewInfo.snapshot (view : ViewInfo) : Snapshot :=
  ⟨view.sessionName, view.sessionId, view.viewId, view.revision, view.canvasSize,
    view.zoomedTerminalId, view.layout⟩

namespace Registry

def snapshot (r : Registry) (id : String) : Option Snapshot :=
  (AList.lookup id r.sessions).map Session.snapshot

/-- The view that is sent, if it can be shown (Rust `publish_view`). -/
def publishView (r : Registry) (id : String) : List ViewInfo :=
  match r.viewInfo id with
  | .ok view => [view]
  | .error _ => []

end Registry

/-! ### Publications -/

namespace Sends
open Registry

/-- `resize_view` sends the view at its end. -/
def resizeView (r : Registry) (id : String) (size : TerminalSize) : List ViewInfo :=
  match r.resizeView id size with
  | (r, .ok ()) => r.publishView id
  | (_, .error _) => []

/-- `reflow_view` sends what `resize_view` does. -/
def reflowView (r : Registry) (id : String) : List ViewInfo :=
  match AList.lookup id r.sessions with
  | none => []
  | some root => resizeView r id root.view.canvasSize

/-- A change that fails is undone, and `restore_view_geometry` sends the old view again. -/
def tryView (r : Registry) (owner : String) (old : View) (geometry : List (String × TerminalSize))
    (change : View → View) : List ViewInfo :=
  reflowView (r.editView owner change) owner ++
    match (r.editView owner change).reflowView owner with
    | (r, .error (.err _)) =>
      (restoreViewGeometry (r.editView owner (restoreView old)) geometry).publishView owner
    | _ => []

/-- `resize_layout`. -/
def resizeLayout (r : Registry) (self attachmentId : String)
    (change : View → Res SessionError (ViewLayout × Bool)) : List ViewInfo :=
  match r.leasedView self attachmentId with
  | .error _ => []
  | .ok (owner, root) =>
    match change root.view with
    | .error _ => []
    | .ok (layout, changed) =>
      if changed then tryView r owner root.view (r.captureViewGeometry root.view) (relayout layout)
      else []

/-- `set_view_zoom_inner`. -/
def setViewZoom (r : Registry) (self attachmentId : String) (terminalId : Option String) : List ViewInfo :=
  match r.leasedView self attachmentId with
  | .error _ => []
  | .ok (owner, root) =>
    match r.checkZoom root.view terminalId with
    | .error _ => []
    | .ok () =>
      if root.view.zoomedTerminalId = terminalId then []
      else
        let geometry := r.captureViewGeometry root.view
        match r.unzoomPane root.view root.view.zoomedTerminalId terminalId with
        | (_, .error _) => []
        | (r, .ok ()) => tryView r owner root.view geometry (rezoom terminalId)

/-- `break_pane_inner` sends the view that the pane leaves and the one it moves to. -/
def breakPane (r : Registry) (self attachmentId : String) (target : PaneTarget)
    (newOwner : TerminalOwner) : List ViewInfo :=
  match r.breakPlan self attachmentId target with
  | .error _ => []
  | .ok (sourceId, root, remaining) =>
    let geometry := r.captureViewGeometry root.view
    tryView r sourceId root.view geometry (relayout remaining) ++
      match r.breakPane self attachmentId target newOwner with
      | (r, .ok _) => r.publishView sourceId ++ r.publishView newOwner.sessionId
      | (_, .error _) => []

/-- `resize_inner`. -/
def resize (r : Registry) (self attachmentId : String) (size : TerminalSize) : List ViewInfo :=
  match AList.lookup self r.heap, r.resize self attachmentId size with
  | some terminal, (r, .ok ()) => r.publishView terminal.owner.sessionId
  | _, _ => []

/-- `rename_inner`, when the name is another one. -/
def rename (r : Registry) (selector name : String) : List ViewInfo :=
  match r.root selector, r.rename selector name with
  | .ok root, (r, .ok ()) => if root.name = name then [] else r.publishView root.id
  | _, _ => []

/-- `update_view_inner` and `merge_sessions_inner` send the view that they return. -/
def changed : Outcome ViewInfo → List ViewInfo
  | (_, .ok view) => [view]
  | (_, .error _) => []

/-- `detach_terminal` sends the view without the terminal. -/
def detachTerminal (r : Registry) (id : String) : List ViewInfo :=
  match r.terminal? id with
  | none => []
  | some terminal =>
    let ownerId := terminal.owner.sessionId
    let r := match AList.lookup ownerId r.sessions with
      | none => r
      | some session =>
        match session.view.layout.removeTerminal id with
        | some layout => r.editView ownerId fun view =>
          relayout layout { view with leases := releaseAttachments terminal view.leases }
        | none => { r with sessions := AList.erase ownerId r.sessions }
    reflowView r ownerId

/-- `promote_terminal_inner` sends the view that the terminal leaves and the one it moves to. -/
def promoteTerminal (r : Registry) (terminalId : String) (newOwner : TerminalOwner) : List ViewInfo :=
  match r.promoteTerminal terminalId newOwner with
  | (promoted, .ok _) => detachTerminal r terminalId ++ promoted.publishView newOwner.sessionId
  | (_, .error _) => []

/-- `NameReservation::commit` with a placement. -/
def commitSplit (r : Registry) (id : String) (terminal : Terminal) (targetId : String)
    (axis : SplitAxis) : List ViewInfo :=
  match (r.releaseName terminal.owner.name).planSplit targetId id axis,
    r.commitSplit id terminal targetId axis with
  | .ok (owner, _), (r, .ok ()) => r.publishView owner.sessionId
  | _, _ => []

def perform (r : Registry) : Operation → List ViewInfo
  | .updateView selector expectedRevision layout =>
    changed (r.updateView selector expectedRevision layout)
  | .swapPane self attachmentId target previous =>
    resizeLayout r self attachmentId (r.swapChange self attachmentId target previous)
  | .resizePane self attachmentId terminalId direction amount =>
    resizeLayout r self attachmentId (r.paneChange terminalId direction amount)
  | .resizeDivider self attachmentId divider =>
    resizeLayout r self attachmentId (dividerChange divider)
  | .setViewZoom self attachmentId terminalId => setViewZoom r self attachmentId terminalId
  | .resize self attachmentId size => resize r self attachmentId size
  | .rename selector name => rename r selector name
  | .mergeSessions source destination => changed (r.mergeSessions source destination)
  | .beginTermination _ => []
  | .publishEnded _ _ => []
  | .removeTerminal id => detachTerminal r id

def commit (r : Registry) (owner : TerminalOwner) : Request → List ViewInfo
  | .create .. => []
  | .split targetId axis terminalId size =>
    commitSplit r terminalId (.spawn owner size false) targetId axis
  | .breakPane self attachmentId target _ => breakPane r self attachmentId target owner
  | .promote terminalId _ => promoteTerminal r terminalId owner

end Sends

/-! ### A view that is sent is the view of the result -/

namespace Registry

def Shows (r : Registry) (view : ViewInfo) : Prop := r.snapshot view.sessionId = some view.snapshot

def Keyed (r : Registry) : Prop :=
  ∀ k session, AList.lookup k r.sessions = some session → session.id = k

variable {r r' : Registry} {view : ViewInfo} {id : String} {k : String}

lemma Keyed.calm (keyed : r.Keyed) (calm : Calm r r') : r'.Keyed :=
  fun k session found => keyed k session ((calm.sessions k).symm.trans found)

lemma Keyed.withSession (keyed : r.Keyed) {session : Session} (key : session.id = k) :
    (r.withSession k session).Keyed := by
  intro k' other found
  rw [lookup_withSession] at found
  split at found
  case isTrue eq =>
    cases found
    exact key.trans eq.symm
  case isFalse => exact keyed k' other found

lemma viewInfo_shows (keyed : r.Keyed) {selector : String} (ok : r.viewInfo selector = .ok view) : r.Shows view := by
  unfold viewInfo at ok
  obtain ⟨root, hroot, ok⟩ := Res.bind_eq_ok ok
  obtain ⟨panes, -, ok⟩ := Res.bind_eq_ok ok
  cases ok
  have there : ∃ k, AList.lookup k r.sessions = some root := by
    unfold Registry.root at hroot
    split at hroot
    case h_1 found =>
      cases hroot
      exact ⟨selector, found⟩
    case h_2 => exact (Table.find_eq_some (Res.ofOption_eq_ok hroot)).2
  obtain ⟨k, found⟩ := there
  obtain rfl : root.id = k := keyed k root found
  exact congrArg (Option.map Session.snapshot) found

lemma mem_publishView (mem : view ∈ r.publishView id) : r.viewInfo id = .ok view := by
  unfold publishView at mem
  split at mem
  case h_1 view' ok =>
    obtain rfl := List.mem_singleton.1 mem
    exact ok
  case h_2 => exact absurd mem List.not_mem_nil

lemma leftover_fst {α : Type} (name : String) (released : Bool) (outcome : Outcome α) :
    (leftover name released outcome).1 = outcome.1 := by
  obtain ⟨r, result⟩ := outcome
  cases result <;> rfl

lemma Shows.of_snapshot (h : r.Shows view) (same : r'.snapshot view.sessionId = r.snapshot view.sessionId) :
    r'.Shows view :=
  same.trans h

lemma Calm.snapshot (calm : Calm r r') (id : String) : r'.snapshot id = r.snapshot id := by
  rw [Registry.snapshot, calm.sessions, Registry.snapshot]

lemma moveTerminal_snapshot {owner : TerminalOwner} {size : TerminalSize} (ne : k ≠ owner.sessionId) :
    (r.moveTerminal id owner size).snapshot k = r.snapshot k :=
  congrArg (Option.map Session.snapshot) (AList.lookup_insert_ne ne)

lemma Shows.ne_of_fresh (shows : r.Shows view) (none : r.snapshot id = none) : view.sessionId ≠ id := by
  intro eq
  rw [Registry.Shows, eq, none] at shows
  cases shows

end Registry

namespace Sends
open Registry

/-- A view can be shown in the registry that an operation leaves. -/
def Final (r : Registry) (view : ViewInfo) : Prop := ∃ id, r.viewInfo id = .ok view

variable {r : Registry} {id self attachmentId : String} {view : ViewInfo} {owner : TerminalOwner} {size : TerminalSize}
  {selector : String}

lemma resizeView_final (mem : view ∈ resizeView r id size) : Final (r.resizeView id size).1 view := by
  unfold resizeView at mem
  split at mem
  case h_1 r' eq =>
    rw [eq]
    exact ⟨id, mem_publishView mem⟩
  case h_2 => exact absurd mem List.not_mem_nil

lemma reflowView_final (mem : view ∈ reflowView r id) : Final (r.reflowView id).1 view := by
  unfold reflowView at mem
  unfold Registry.reflowView
  cases found : AList.lookup id r.sessions with
  | none =>
    rw [found] at mem
    exact absurd mem List.not_mem_nil
  | some root =>
    rw [found] at mem
    exact resizeView_final mem

lemma reflowView_failed {r' : Registry} {e : Fault SessionError} (failed : r.reflowView id = (r', .error e)) :
    reflowView r id = [] := by
  unfold Registry.reflowView at failed
  unfold reflowView
  cases found : AList.lookup id r.sessions with
  | none => rfl
  | some root =>
    rw [found] at failed
    dsimp only at failed ⊢
    rw [resizeView, failed]

lemma tryView_final {old : View} {geometry : List (String × TerminalSize)} {change : View → View}
    (mem : view ∈ tryView r id old geometry change) : Final (r.tryView id old geometry change).1 view := by
  unfold tryView at mem
  unfold Registry.tryView
  split
  case h_1 r' e failed =>
    rw [reflowView_failed failed, failed] at mem
    exact ⟨id, mem_publishView mem⟩
  case h_2 r' result noErr eq =>
    rcases List.mem_append.1 mem with mem | mem
    · rw [← congrArg Prod.fst eq]
      exact reflowView_final mem
    · split at mem
      case h_1 e failed => exact (noErr e (congrArg Prod.snd (eq.symm.trans failed))).elim
      case h_2 => exact absurd mem List.not_mem_nil

lemma resizeLayout_final {change : View → Res SessionError (ViewLayout × Bool)}
    (mem : view ∈ resizeLayout r self attachmentId change) :
    Final (r.resizeLayout self attachmentId change).1 view := by
  unfold resizeLayout at mem
  unfold Registry.resizeLayout
  cases leased : r.leasedView self attachmentId with
  | error e =>
    rw [leased] at mem
    exact absurd mem List.not_mem_nil
  | ok view' =>
    obtain ⟨owner, root⟩ := view'
    rw [leased] at mem
    dsimp only at mem ⊢
    cases ok : change root.view with
    | error e =>
      rw [ok] at mem
      exact absurd mem List.not_mem_nil
    | ok edit =>
      obtain ⟨layout, changed⟩ := edit
      rw [ok] at mem
      dsimp only at mem ⊢
      rw [replyView_fst]
      cases changed with
      | false => exact absurd mem List.not_mem_nil
      | true => exact tryView_final mem

lemma setViewZoom_final {terminalId : Option String} (mem : view ∈ setViewZoom r self attachmentId terminalId) :
    Final (r.setViewZoom self attachmentId terminalId).1 view := by
  unfold setViewZoom at mem
  unfold Registry.setViewZoom
  cases leased : r.leasedView self attachmentId with
  | error e =>
    rw [leased] at mem
    exact absurd mem List.not_mem_nil
  | ok view' =>
    obtain ⟨owner, root⟩ := view'
    rw [leased] at mem
    dsimp only at mem ⊢
    cases ok : r.checkZoom root.view terminalId with
    | error e =>
      rw [ok] at mem
      exact absurd mem List.not_mem_nil
    | ok =>
      rw [ok] at mem
      dsimp only at mem ⊢
      by_cases same : root.view.zoomedTerminalId = terminalId
      · rw [if_pos same] at mem
        exact absurd mem List.not_mem_nil
      · rw [if_neg same] at mem ⊢
        cases unzoomed : r.unzoomPane root.view root.view.zoomedTerminalId terminalId with
        | mk r' result =>
          rw [unzoomed] at mem
          cases result with
          | error e => exact absurd mem List.not_mem_nil
          | ok =>
            dsimp only at mem ⊢
            rw [replyView_fst]
            exact tryView_final mem

lemma resize_final (mem : view ∈ resize r self attachmentId size) : Final (r.resize self attachmentId size).1 view := by
  unfold resize at mem
  split at mem
  case h_1 terminal r' _ eq =>
    rw [eq]
    exact ⟨_, mem_publishView mem⟩
  case h_2 => exact absurd mem List.not_mem_nil

lemma rename_final {name : String} (mem : view ∈ rename r selector name) : Final (r.rename selector name).1 view := by
  unfold rename at mem
  split at mem
  case h_1 root r' _ eq =>
    rw [eq]
    split at mem
    case isTrue => exact absurd mem List.not_mem_nil
    case isFalse => exact ⟨_, mem_publishView mem⟩
  case h_2 => exact absurd mem List.not_mem_nil

lemma mem_changed {outcome : Outcome ViewInfo} (mem : view ∈ changed outcome) : outcome.2 = .ok view := by
  obtain ⟨r, result⟩ := outcome
  cases result with
  | error => exact absurd mem List.not_mem_nil
  | ok view' => exact congrArg Except.ok (List.mem_singleton.1 mem).symm

lemma replyChanged_final (mem : view ∈ changed (r.replyChanged id)) : Final (r.replyChanged id).1 view := by
  have ok := mem_changed mem
  unfold Registry.replyChanged at ok ⊢
  split at ok
  case h_1 => cases ok
  case h_2 => exact ⟨id, ok⟩

lemma updateView_final {revision : Nat} {layout : ViewLayout}
    (mem : view ∈ changed (r.updateView selector revision layout)) :
    Final (r.updateView selector revision layout).1 view := by
  unfold Registry.updateView at mem ⊢
  dsimp only at mem ⊢
  split at mem
  case h_1 => exact absurd mem List.not_mem_nil
  case h_2 id layout' _ => exact replyChanged_final mem

lemma mergeSessions_final {source destination : String} (mem : view ∈ changed (r.mergeSessions source destination)) :
    Final (r.mergeSessions source destination).1 view := by
  unfold Registry.mergeSessions at mem ⊢
  dsimp only at mem ⊢
  split at mem
  case h_1 => exact absurd mem List.not_mem_nil
  case h_2 src dst layout _ => exact replyChanged_final mem

lemma detachTerminal_final (mem : view ∈ detachTerminal r id) : Final (r.detachTerminal id) view := by
  unfold detachTerminal at mem
  unfold Registry.detachTerminal
  cases found : r.terminal? id with
  | none =>
    rw [found] at mem
    exact absurd mem List.not_mem_nil
  | some terminal =>
    rw [found] at mem
    exact reflowView_final mem

lemma commitSplit_final {targetId : String} {terminal : Terminal} {axis : SplitAxis}
    (mem : view ∈ commitSplit r id terminal targetId axis) :
    Final (r.commitSplit id terminal targetId axis).1 view := by
  unfold commitSplit at mem
  split at mem
  case h_1 owner layout r' _ eq =>
    rw [eq]
    exact ⟨_, mem_publishView mem⟩
  case h_2 => exact absurd mem List.not_mem_nil

lemma breakPane_shows (owned : r.Owned) {target : PaneTarget} (fresh : AList.lookup owner.sessionId r.sessions = none)
    (final : (r.breakPane self attachmentId target owner).1.Keyed)
    (mem : view ∈ breakPane r self attachmentId target owner) :
    (r.breakPane self attachmentId target owner).1.Shows view := by
  unfold breakPane at mem
  split at mem
  case h_1 => exact absurd mem List.not_mem_nil
  case h_2 k root remaining planned =>
    rcases List.mem_append.1 mem with mem | mem
    · obtain ⟨id, shown⟩ := tryView_final mem
      have found := (breakPlan_spec planned).1
      have tried := tryView_spec (r.captureViewGeometry root.view) (relayout remaining) found
        rfl rfl rfl
      rw [breakPane_eq, planned]
      dsimp only
      generalize r.tryView k root.view (r.captureViewGeometry root.view) (relayout remaining)
        = outcome at tried shown ⊢
      obtain ⟨r', result⟩ := outcome
      have keyed : r'.Keyed := by
        rcases tried with ⟨_, -, calm⟩ | ⟨-, calm, -⟩
        · exact Keyed.calm owned.key calm
        · refine Keyed.calm (Keyed.withSession owned.key ?_) calm
          exact owned.key k root found
      have shows := viewInfo_shows keyed shown
      have other : view.sessionId ≠ owner.sessionId := by
        refine shows.ne_of_fresh ?_
        have absent : r.snapshot owner.sessionId = none := congrArg (Option.map Session.snapshot) fresh
        rcases tried with ⟨_, -, calm⟩ | ⟨-, calm, -⟩
        · exact (calm.snapshot _).trans absent
        · rw [calm.snapshot, Registry.snapshot, lookup_withSession, if_neg, fresh]
          · rfl
          · intro eq
            rw [eq, found] at fresh
            cases fresh
      rcases result with e | ⟨⟩
      · exact shows
      · dsimp only
        unfold finishBreak
        split
        case h_1 => exact shows
        case h_2 terminal _ =>
          refine shows.of_snapshot ?_
          rw [moveTerminal_snapshot other]
          rw [Registry.snapshot, Registry.snapshot, editView, editSession, Table.lookup_modify]
          split
          case isTrue eq =>
            rw [eq, Option.map_map]
            rfl
          case isFalse => rfl
    · split at mem
      case h_1 r' reply eq =>
        rw [eq] at final ⊢
        rcases List.mem_append.1 mem with mem | mem
        · exact viewInfo_shows final (mem_publishView mem)
        · exact viewInfo_shows final (mem_publishView mem)
      case h_2 => exact absurd mem List.not_mem_nil

lemma detachTerminal_fresh {k : String} (fresh : AList.lookup k r.sessions = none) :
    AList.lookup k (r.detachTerminal id).sessions = none := by
  unfold Registry.detachTerminal
  split
  case h_1 => exact fresh
  case h_2 terminal _ =>
    dsimp only
    rw [(reflowView_spec _ _).1.sessions]
    split
    case h_1 => exact fresh
    case h_2 session _ =>
      split
      case h_1 =>
        rw [editView, editSession, Table.lookup_modify]
        split
        case isTrue eq =>
          rw [← eq, fresh]
          rfl
        case isFalse => exact fresh
      case h_2 =>
        by_cases eq : k = terminal.owner.sessionId
        · rw [eq]
          exact AList.lookup_erase _ r.sessions
        · exact (AList.lookup_erase_ne eq).trans fresh

lemma detachTerminal_shows (owned : r.Owned) (mem : view ∈ detachTerminal r id) : (r.detachTerminal id).Shows view := by
  obtain ⟨k, shown⟩ := detachTerminal_final mem
  have removed := (removeTerminal_steps owned id).owned owned
  exact viewInfo_shows (r := r.detachTerminal id) removed.key shown

lemma promoteTerminal_shows (owned : r.Owned) (fresh : AList.lookup owner.sessionId r.sessions = none)
    (final : (r.promoteTerminal id owner).1.Keyed) (mem : view ∈ promoteTerminal r id owner) :
    (r.promoteTerminal id owner).1.Shows view := by
  unfold promoteTerminal at mem
  split at mem
  case h_2 => exact absurd mem List.not_mem_nil
  case h_1 promoted reply eq =>
    rcases List.mem_append.1 mem with mem | mem
    · have shows := detachTerminal_shows owned mem
      have absent : (r.detachTerminal id).snapshot owner.sessionId = none :=
        congrArg (Option.map Session.snapshot) (detachTerminal_fresh fresh)
      have other := shows.ne_of_fresh absent
      unfold Registry.promoteTerminal at eq ⊢
      dsimp only at eq ⊢
      split at eq
      case h_1 => cases eq
      case h_2 =>
        split
        case h_1 => exact shows
        case h_2 => exact shows.of_snapshot (moveTerminal_snapshot other)
    · rw [eq] at final ⊢
      exact viewInfo_shows final (mem_publishView mem)

lemma perform_shows (owned : r.Owned) {operation : Operation} (mem : view ∈ perform r operation) :
    (r.perform operation).Shows view := by
  have final : (r.perform operation).Keyed := ((perform_steps owned operation).owned owned).key
  have shows : ∀ {r' : Registry}, r'.Keyed → Final r' view → r'.Shows view :=
    fun keyed ⟨_, shown⟩ => viewInfo_shows keyed shown
  cases operation with
  | updateView selector revision layout => exact shows final (updateView_final mem)
  | swapPane self attachmentId target previous => exact shows final (resizeLayout_final mem)
  | resizePane self attachmentId terminalId direction amount =>
    exact shows final (resizeLayout_final mem)
  | resizeDivider self attachmentId divider => exact shows final (resizeLayout_final mem)
  | setViewZoom self attachmentId terminalId => exact shows final (setViewZoom_final mem)
  | resize self attachmentId size => exact shows final (resize_final mem)
  | rename selector name => exact shows final (rename_final mem)
  | mergeSessions source destination => exact shows final (mergeSessions_final mem)
  | beginTermination selector => exact absurd mem List.not_mem_nil
  | publishEnded id exitCode => exact absurd mem List.not_mem_nil
  | removeTerminal id => exact detachTerminal_shows owned mem

lemma commit_shows (owned : r.Owned) {request : Request} (fresh : AList.lookup owner.sessionId r.sessions = none)
    (final : (r.commit owner request).1.Keyed) (mem : view ∈ commit r owner request) :
    (r.commit owner request).1.Shows view := by
  cases request with
  | create name terminalId size managed => exact absurd mem List.not_mem_nil
  | split targetId axis terminalId size =>
    rw [Registry.commit, leftover_fst] at final ⊢
    obtain ⟨_, shown⟩ := commitSplit_final mem
    exact viewInfo_shows final shown
  | breakPane self attachmentId target name =>
    rw [Registry.commit, leftover_fst] at final ⊢
    exact breakPane_shows owned fresh final mem
  | promote terminalId name =>
    rw [Registry.commit, leftover_fst] at final ⊢
    exact promoteTerminal_shows owned fresh final mem

end Sends

def World.sends (w : World) : Action → List ViewInfo
  | .perform operation => Sends.perform w.registry operation
  | .commit task sessionId viewId now =>
    match AList.lookup task w.tasks with
    | some (.reserved request name) =>
      if World.fresh w.registry sessionId request.spawned then
        Sends.commit w.registry ⟨now, sessionId, viewId, name⟩ request
      else []
    | _ => []
  | _ => []

theorem World.sends_shows {w w' : World} {action : Action} (owned : w.registry.Owned) (step : w.step action = some w')
    {view : ViewInfo} (mem : view ∈ w.sends action) : w'.registry.Shows view := by
  have final := (World.step_owned owned step).key
  unfold World.sends at mem
  split at mem
  case h_1 operation =>
    cases step
    exact Sends.perform_shows owned mem
  case h_2 task sessionId viewId now =>
    rw [World.step] at step
    split at mem
    case h_1 request name found =>
      rw [found] at step
      dsimp only at step
      split at mem
      case isTrue free =>
        rw [if_pos free] at step
        cases step
        rw [World.settle_registry] at final ⊢
        exact Sends.commit_shows owned (World.fresh_spec free).1 final mem
      case isFalse => exact absurd mem List.not_mem_nil
    case h_2 => exact absurd mem List.not_mem_nil
  case h_3 => exact absurd mem List.not_mem_nil

end Ctl.Daemon
