import Ctl.Base.Versioned
import Ctl.Daemon.Generations
import Ctl.Daemon.Publication

/-!
# The revision of a view

Clients drop a view that is not newer than the one they show, and `update_view` refuses a layout that
was made for another revision. Both rely on the revision of a view as its version: it never decreases,
and nothing of what is shown of a session changes without it. `step_revises` proves this for every step
of the system and `run_revises` for every run; together with `sends_shows` it says that the views that
clients receive are ordered by their revisions.
-/

namespace Ctl.Daemon
open Ctl.Base Ctl.Proto Ctl.Core

def revision : Versioning Snapshot Snapshot := ⟨Snapshot.revision, id⟩

namespace Registry

/-- What is shown of a session afterwards is newer. -/
def Revises (k : String) (r r' : Registry) : Prop := revision.Follows (r.snapshot k) (r'.snapshot k)

namespace Revises

variable {k : String} {r r' r'' : Registry}

lemma refl (k : String) (r : Registry) : Revises k r r := Versioning.Follows.refl _

lemma trans (h : Revises k r r') (h' : Revises k r' r'') : Revises k r r'' :=
  Versioning.Follows.trans h h'

lemma of_calm (k : String) (calm : Calm r r') : Revises k r r' := .of_eq (calm.snapshot k)

lemma of_sessions (k : String) (same : r'.sessions = r.sessions) : Revises k r r' := by
  refine .of_eq ?_
  rw [snapshot, same, snapshot]

lemma of_alike (k : String) (alike : Alike r r') : Revises k r r' := by
  have same := congrArg (Option.map Session.snapshot) (alike.sessions k)
  rw [Option.map_map, Option.map_map] at same
  exact .of_eq same

lemma of_editSession (k : String) (r : Registry) (k' : String) {f : Session → Session}
    (newer : ∀ session, revision.Newer session.snapshot (f session).snapshot) : Revises k r (r.editSession k' f) := by
  intro after mem
  rw [snapshot, editSession, Table.lookup_modify] at mem
  split at mem
  case isTrue eq =>
    rw [Option.map_map] at mem
    obtain ⟨session, found, rfl⟩ := Option.map_eq_some_iff.1 mem
    refine ⟨session.snapshot, ?_, newer session⟩
    rw [snapshot, eq, found]
    rfl
  case isFalse => exact ⟨after, mem, .refl after⟩

lemma of_editView (k : String) (r : Registry) (k' : String) {f : View → View}
    (lt : ∀ view, view.revision < (f view).revision) : Revises k r (r.editView k' f) :=
  of_editSession k r k' fun session => .of_lt (lt session.view)

lemma of_withSession (k : String) {k' : String} {session session' : Session}
    (found : AList.lookup k' r.sessions = some session) (lt : session.view.revision < session'.view.revision) :
    Revises k r (r.withSession k' session') := by
  intro after mem
  rw [snapshot, lookup_withSession] at mem
  split at mem
  case isTrue eq =>
    obtain rfl := Option.mem_some.1 mem
    refine ⟨session.snapshot, ?_, .of_lt lt⟩
    rw [snapshot, eq, found]
    rfl
  case isFalse => exact ⟨after, mem, .refl after⟩

lemma of_erase (k : String) (r : Registry) (k' : String) :
    Revises k r { r with sessions := AList.erase k' r.sessions } := by
  by_cases eq : k = k'
  · intro after mem
    rw [snapshot, eq, AList.lookup_erase] at mem
    exact absurd mem (Option.not_mem_none after)
  · exact .of_eq (congrArg (Option.map Session.snapshot) (AList.lookup_erase_ne eq))

lemma of_moveTerminal (r : Registry) (id : String) {owner : TerminalOwner} (size : TerminalSize)
    (ne : k ≠ owner.sessionId) : Revises k r (r.moveTerminal id owner size) :=
  .of_eq (moveTerminal_snapshot ne)

end Revises

/-! ### The operations -/

lemma resizeView_revises (k : String) (r : Registry) (id : String) (size : TerminalSize) :
    Revises k r (r.resizeView id size).1 := by
  unfold resizeView
  split
  case h_1 => exact .refl k r
  case h_2 root _ =>
    split
    case h_1 => exact .refl k r
    case h_2 panes _ =>
      have calm := (resizePanes_spec size r panes).1
      split
      case h_1 r' e eq =>
        rw [eq] at calm
        exact .of_calm k calm
      case h_2 r' eq =>
        rw [eq] at calm
        split
        case isTrue => exact .of_calm k calm
        case isFalse =>
          exact (Revises.of_calm k calm).trans (.of_editView k r' id fun view => Nat.lt_succ_self _)

variable {r : Registry} {k : String} {owner : TerminalOwner} {selector : String} {expectedRevision : Nat}
  {layout : ViewLayout}

lemma tryView_revises (k : String) {owner : String} {root : Session} (geometry : List (String × TerminalSize))
    {change : View → View} (found : AList.lookup owner r.sessions = some root)
    (canvas : (change root.view).canvasSize = root.view.canvasSize) (id : (change root.view).id = root.view.id)
    (leases : (change root.view).leases = root.view.leases) (lt : root.view.revision < (change root.view).revision) :
    Revises k r (r.tryView owner root.view geometry change).1 := by
  rcases tryView_spec geometry change found canvas id leases with ⟨_, -, calm⟩ | ⟨-, calm, -⟩
  · exact .of_calm k calm
  · exact (Revises.of_withSession k found lt).trans (.of_calm k calm)

lemma resizeLayout_revises (k : String) (r : Registry) (self attachmentId : String)
    (change : View → Res SessionError (ViewLayout × Bool)) :
    Revises k r (r.resizeLayout self attachmentId change).1 := by
  unfold resizeLayout
  split
  case h_1 => exact .refl k r
  case h_2 owner root leased =>
    split
    case h_1 => exact .refl k r
    case h_2 layout changed _ =>
      rw [replyView_fst]
      split
      case isTrue =>
        exact tryView_revises k _ (leasedView_spec leased) rfl rfl rfl (Nat.lt_succ_self _)
      case isFalse => exact .refl k r

lemma setViewZoom_revises (k : String) (r : Registry) (self attachmentId : String)
    (terminalId : Option String) : Revises k r (r.setViewZoom self attachmentId terminalId).1 := by
  unfold setViewZoom
  split
  case h_1 => exact .refl k r
  case h_2 owner root leased =>
    split
    case h_1 => exact .refl k r
    case h_2 =>
      split
      case isTrue =>
        rw [replyView_fst]
        exact .refl k r
      case isFalse =>
        have calm := r.unzoomPane_calm root.view root.view.zoomedTerminalId terminalId
        dsimp only
        split
        case h_1 r' e eq =>
          rw [eq] at calm
          exact .of_calm k calm
        case h_2 r' eq =>
          rw [eq] at calm
          rw [replyView_fst]
          have found := (calm.sessions owner).trans (leasedView_spec leased)
          exact (Revises.of_calm k calm).trans
            (tryView_revises k _ found rfl rfl rfl (Nat.lt_succ_self _))

lemma resize_revises (k : String) (r : Registry) (self attachmentId : String) (size : TerminalSize) :
    Revises k r (r.resize self attachmentId size).1 := by
  unfold resize
  dsimp only
  split
  case h_1 => exact .refl k r
  case h_2 owner size' _ => exact resizeView_revises k r owner size'

lemma updateView_revises (k : String) (r : Registry) (selector : String) (expectedRevision : Nat)
    (layout : ViewLayout) : Revises k r (r.updateView selector expectedRevision layout).1 := by
  unfold updateView
  dsimp only
  split
  case h_1 => exact .refl k r
  case h_2 id layout' _ =>
    exact (Revises.of_editView k r id fun view => Nat.lt_succ_self _).trans
      (.of_calm k (replyChanged_calm _ _))

lemma rename_revises (k : String) (r : Registry) (selector name : String) : Revises k r (r.rename selector name).1 := by
  unfold rename
  dsimp only
  split
  case h_1 => exact .refl k r
  case h_2 => exact .refl k r
  case h_3 root _ =>
    have renamed : Revises k r (r.editSession root.id (renamed name)) :=
      .of_editSession k r root.id fun session => .of_lt (Nat.lt_succ_self _)
    exact renamed.trans (.of_sessions k (editTerminals_sessions _ _ _))

lemma mergeSessions_revises (k : String) (r : Registry) (source destination : String) :
    Revises k r (r.mergeSessions source destination).1 := by
  unfold mergeSessions
  dsimp only
  split
  case h_1 => exact .refl k r
  case h_2 src dst layout _ =>
    refine Revises.trans ?_ (.of_calm k (replyChanged_calm _ _))
    refine Revises.trans ?_ (.of_sessions k (editTerminals_sessions _ _ _))
    exact (Revises.of_erase k r src.id).trans
      (.of_editView k _ dst.id (f := relayout layout) fun view => Nat.lt_succ_self _)

lemma beginTermination_revises (k : String) (r : Registry) (selector : String) :
    Revises k r (r.beginTermination selector).1 := by
  unfold beginTermination
  split
  case h_1 => exact .refl k r
  case h_2 root _ => exact .of_editSession k r root.id fun session => .refl session.snapshot

lemma detachTerminal_revises (k : String) (r : Registry) (id : String) : Revises k r (r.detachTerminal id) := by
  unfold detachTerminal
  split
  case h_1 => exact .refl k r
  case h_2 terminal _ =>
    dsimp only
    refine Revises.trans ?_ (.of_calm k (reflowView_spec _ _).1)
    split
    case h_1 => exact .refl k r
    case h_2 session _ =>
      split
      case h_1 => exact .of_editView k r _ fun view => Nat.lt_succ_self _
      case h_2 => exact .of_erase k r _

lemma perform_revises (k : String) (r : Registry) (operation : Operation) : Revises k r (r.perform operation) := by
  cases operation with
  | updateView selector revision layout => exact updateView_revises k r selector revision layout
  | swapPane self attachmentId target previous => exact resizeLayout_revises k r self attachmentId _
  | resizePane self attachmentId terminalId direction amount =>
    exact resizeLayout_revises k r self attachmentId _
  | resizeDivider self attachmentId divider => exact resizeLayout_revises k r self attachmentId _
  | setViewZoom self attachmentId terminalId =>
    exact setViewZoom_revises k r self attachmentId terminalId
  | resize self attachmentId size => exact resize_revises k r self attachmentId size
  | rename selector name => exact rename_revises k r selector name
  | mergeSessions source destination => exact mergeSessions_revises k r source destination
  | beginTermination selector => exact beginTermination_revises k r selector
  | publishEnded id exitCode => exact .of_calm k (publishEnded_calm r id exitCode)
  | removeTerminal id =>
    exact (detachTerminal_revises k r id).trans (.of_sessions k rfl)

lemma commitSplit_revises (k : String) (r : Registry) (id : String) (terminal : Terminal) (targetId : String)
    (axis : SplitAxis) : Revises k r (r.commitSplit id terminal targetId axis).1 := by
  have released : Revises k r (r.releaseName terminal.owner.name) := .of_sessions k rfl
  unfold commitSplit
  dsimp only
  split
  case h_1 => exact released
  case h_2 owner layout _ =>
    have joined := released.trans
      (.of_editView k _ owner.sessionId (f := relayout layout) fun view => Nat.lt_succ_self _)
    have inserted : Revises k r (((r.releaseName terminal.owner.name).editView owner.sessionId
        (relayout layout)).insertTerminal id (withOwner owner terminal)) :=
      joined.trans (.of_sessions k rfl)
    exact inserted.trans (.of_calm k (reflowView_spec _ _).1)

lemma breakPane_revises (r : Registry) (self attachmentId : String) (target : PaneTarget) (ne : k ≠ owner.sessionId) :
    Revises k r (r.breakPane self attachmentId target owner).1 := by
  rw [breakPane_eq]
  split
  case h_1 => exact .refl k r
  case h_2 source root remaining planned =>
    have found := (breakPlan_spec planned).1
    have revised : root.view.revision < (relayout remaining root.view).revision := Nat.lt_succ_self _
    have tried := tryView_revises k (r.captureViewGeometry root.view) found rfl rfl rfl revised
    split
    case h_1 r' e eq =>
      rw [eq] at tried
      exact tried
    case h_2 r' eq =>
      rw [eq] at tried
      unfold finishBreak
      split
      case h_1 => exact tried
      case h_2 terminal _ =>
        have released : Revises k r' (r'.editView source fun view =>
            { view with leases := releaseAttachments terminal view.leases }) :=
          .of_editSession k r' source fun session => .refl session.snapshot
        exact (tried.trans released).trans (.of_moveTerminal _ _ _ ne)

lemma promoteTerminal_revises (r : Registry) (id : String) (ne : k ≠ owner.sessionId) :
    Revises k r (r.promoteTerminal id owner).1 := by
  unfold promoteTerminal
  dsimp only
  split
  case h_1 => exact .refl k r
  case h_2 =>
    have detached := detachTerminal_revises k r id
    split
    case h_1 => exact detached
    case h_2 terminal _ => exact detached.trans (.of_moveTerminal _ _ _ ne)

lemma commit_revises (r : Registry) (request : Request) (ne : k ≠ owner.sessionId) :
    Revises k r (r.commit owner request).1 := by
  cases request with
  | create name terminalId size managed =>
    exact .of_eq (congrArg (Option.map Session.snapshot) (AList.lookup_insert_ne ne))
  | split targetId axis terminalId size =>
    rw [commit, leftover_fst]
    exact commitSplit_revises k r terminalId _ targetId axis
  | breakPane self attachmentId target name =>
    rw [commit, leftover_fst]
    exact breakPane_revises r self attachmentId target ne
  | promote terminalId name =>
    rw [commit, leftover_fst]
    exact promoteTerminal_revises r terminalId ne

/-! ### Replacing an arrangement -/

lemma updateView_cases (owned : r.Owned) (selector : String) (expectedRevision : Nat) (layout : ViewLayout) :
    let result := r.updateView selector expectedRevision layout
    (∃ e, result = (r, .error e)) ∨
      ∃ session layout', AList.lookup session.id r.sessions = some session ∧
        session.view.revision = expectedRevision ∧
        layout'.terminalIds.Perm session.view.layout.terminalIds ∧
        Calm (r.withSession session.id { session with view := relayout layout' session.view })
          result.1 ∧
        ∀ view, result.2 = .ok view → result.1.viewInfo session.id = .ok view := by
  intro result
  unfold result updateView
  dsimp only
  split
  case h_1 e _ => exact .inl ⟨e, rfl⟩
  case h_2 id layout' planned =>
    obtain ⟨_, -, ok⟩ := Res.bind_eq_ok planned
    obtain ⟨session, found, ok⟩ := Res.bind_eq_ok ok
    obtain ⟨expects, ok⟩ := Res.require_bind ok
    obtain ⟨next, -, ok⟩ := Res.bind_eq_ok ok
    obtain ⟨⟨length, distinct, subset⟩, ok⟩ := Res.require_bind ok
    obtain ⟨panes, -, ok⟩ := Res.bind_eq_ok ok
    cases ok
    have found := root_spec owned found
    have leaves := perm_of_subset (owned.session _ session found).nodup length distinct subset
    refine .inr ⟨session, _, found, expects, leaves, ?_, ?_⟩
    · rw [editView, editSession_eq found]
      exact replyChanged_calm _ session.id
    · intro view returned
      unfold replyChanged at returned ⊢
      split at returned
      case h_1 => cases returned
      case h_2 => exact returned

lemma snapshot_withSession (r : Registry) (k : String) (session : Session) (k' : String) :
    (r.withSession k session).snapshot k'
      = if k' = k then some session.snapshot else r.snapshot k' := by
  rw [snapshot, lookup_withSession]
  split <;> rfl

lemma updateView_spec (owned : r.Owned)
    (changed : (r.updateView selector expectedRevision layout).1.snapshot k ≠ r.snapshot k) :
    ∃ before after, r.snapshot k = some before ∧
      (r.updateView selector expectedRevision layout).1.snapshot k = some after ∧
      before.revision = expectedRevision ∧ after.revision = expectedRevision + 1 ∧
      after.layout.terminalIds.Perm before.layout.terminalIds := by
  rcases updateView_cases owned selector expectedRevision layout with
    ⟨e, refused⟩ | ⟨session, layout', found, expects, leaves, calm, -⟩
  · rw [refused] at changed
    exact absurd rfl changed
  · rw [calm.snapshot, snapshot_withSession] at changed ⊢
    split at changed
    case isTrue eq =>
      rw [if_pos eq]
      refine ⟨session.snapshot, _, ?_, rfl, expects, congrArg (· + 1) expects, leaves⟩
      rw [snapshot, eq, found]
      rfl
    case isFalse => exact absurd rfl changed

lemma updateView_ok (owned : r.Owned) {view : ViewInfo}
    (ok : (r.updateView selector expectedRevision layout).2 = .ok view) :
    (r.updateView selector expectedRevision layout).1.snapshot view.sessionId
      ≠ r.snapshot view.sessionId := by
  rcases updateView_cases owned selector expectedRevision layout with
    ⟨e, refused⟩ | ⟨session, layout', found, expects, leaves, calm, returned⟩
  · rw [refused] at ok
    cases ok
  · have now : AList.lookup session.id (r.updateView selector expectedRevision layout).1.sessions
        = some { session with view := relayout layout' session.view } := by
      rw [calm.sessions, lookup_withSession, if_pos rfl]
    obtain ⟨root, hroot, shown⟩ := Res.bind_eq_ok (returned view ok)
    obtain ⟨panes, -, shown⟩ := Res.bind_eq_ok shown
    rw [Registry.root, now] at hroot
    cases hroot
    cases shown
    dsimp only
    rw [calm.snapshot, snapshot_withSession, if_pos rfl, snapshot, found]
    intro eq
    have revisions := congrArg (Option.map Snapshot.revision) eq
    exact absurd (Option.some.inj revisions) (Nat.succ_ne_self _)

end Registry

lemma Registry.updateView_swaps {r : Registry} (owned : r.Owned) {k selector : String} {expectedRevision : Nat}
    {layout : ViewLayout} (changed : (r.updateView selector expectedRevision layout).1.snapshot k ≠ r.snapshot k) :
    revision.Swaps expectedRevision (r.snapshot k)
      ((r.updateView selector expectedRevision layout).1.snapshot k) := by
  obtain ⟨before, after, old, new, expects, increased, -⟩ := updateView_spec owned changed
  rw [old, new]
  refine ⟨?_, ⟨after, rfl, ?_⟩, rfl⟩
  · rintro _ ⟨rfl⟩
    exact expects
  · show expectedRevision < after.revision
    rw [increased]
    exact Nat.lt_succ_self expectedRevision

/-! ### Steps and runs -/

namespace World
open Registry

/-- A step draws the id of a new session. -/
def OpensSession (k : String) : Action → Prop
  | .commit _ sessionId _ _ => sessionId = k
  | _ => False

/-- A step that changes no session: it reserves a name or changes attachments and leases. -/
def Aside : Action → Prop
  | .perform _ => False
  | .commit .. => False
  | _ => True

variable {w w' : World} {k : String} {action : Action} {actions : List Action}

lemma Transition.alike (h : Transition w action w') (aside : Aside action) : Alike w.registry w'.registry := by
  cases h with
  | environment pty => exact ⟨fun _ => rfl, rfl, fun _ => rfl⟩
  | perform _ => exact aside.elim
  | begin _ => exact .refl _
  | refuse _ _ => exact ⟨fun _ => rfl, rfl, fun _ => rfl⟩
  | reserve _ _ _ => exact ⟨fun _ => rfl, rfl, fun _ => rfl⟩
  | abandon _ => exact .refl _
  | commit _ _ _ _ => exact aside.elim
  | drop _ => exact .of_releaseName _ _
  | openAttachment _ _ _ => exact .of_changeAttachments _ _ _
  | resumeAttachment self token => exact .of_changeAttachments _ _ _
  | suspendAttachment self token generation => exact .of_changeAttachments _ _ _
  | closeAttachment _ _ _ => exact .of_changeAttachments _ _ _
  | acquireLease self attachmentId lease => exact .of_acquireLease _ _ _ _
  | releaseLease self attachmentId lease => exact .of_releaseLease _ _ _ _
  | requestInput _ => exact .of_changeLeases _ _ _
  | requestLayout _ => exact .of_changeViewLeases _ _ _
  | releaseInput _ => exact .of_changeLeases _ _ _
  | releaseLayout _ => exact .of_changeViewLeases _ _ _

lemma step_revises (owned : w.registry.Owned) (kept : ¬ OpensSession k action) (step : w.step action = some w') :
    Revises k w.registry w'.registry := by
  cases action with
  | perform operation =>
    cases step
    exact perform_revises k w.registry operation
  | commit task sessionId viewId now =>
    rw [World.step] at step
    split at step
    case h_1 request name found =>
      split at step
      case isTrue =>
        cases step
        rw [settle_registry]
        exact commit_revises w.registry request fun eq => kept eq.symm
      case isFalse => cases step
    case h_2 => cases step
  | _ => exact .of_alike k ((step_transition owned step).alike trivial)

theorem run_revises (owned : w.registry.Owned) (kept : ∀ action ∈ actions, ¬ OpensSession k action)
    (run : exec step w actions = some w') : Revises k w.registry w'.registry := by
  have keeps : ∀ (w : World) a w', w.registry.Owned → step w a = some w' → w'.registry.Owned :=
    fun _ _ _ owned h => step_owned owned h
  exact Versioning.follows_exec keeps (fun _ _ _ owned kept h => step_revises owned kept h) owned kept run

lemma owned_exec (owned : w.registry.Owned) (run : exec step w actions = some w') : w'.registry.Owned := by
  induction actions generalizing w with
  | nil =>
    obtain rfl : w = w' := Option.some.inj run
    exact owned
  | cons action actions ih =>
    obtain ⟨mid, first, rest⟩ := exec_cons run
    exact ih (step_owned owned first) rest

lemma sends_newer {u u' v v' : World} {a b : Action} {p q : ViewInfo} (owned : u.registry.Owned)
    (owned' : v.registry.Owned) (one : u.step a = some u') (two : v.step b = some v')
    (revises : Revises k u'.registry v'.registry) (earlier : p ∈ u.sends a) (now : q ∈ v.sends b)
    (hp : p.sessionId = k) (hq : q.sessionId = k) : revision.Newer p.snapshot q.snapshot := by
  have shown : u'.registry.snapshot k = some p.snapshot := hp ▸ sends_shows owned one earlier
  have shown' : v'.registry.snapshot k = some q.snapshot := hq ▸ sends_shows owned' two now
  obtain ⟨s, found, newer⟩ := revises q.snapshot shown'
  obtain rfl := Option.some.inj (shown.symm.trans found)
  exact newer

/-- A step changes what is shown of a session. -/
def Changes (k : String) (w w' : World) : Prop := w'.registry.snapshot k ≠ w.registry.snapshot k

/-- As long as the id of a session is not drawn again, the views of the session that are sent are ordered
    by their revisions: the revision never decreases, and it increases when the layout, the canvas, the
    zoom or the name changes. Of the updates that expect one revision at most one changes the session, and
    it keeps the leaves. -/
theorem view_revisions (k : String) (first middle : List Action) (a b : Action) {u u' v v' : World}
    (before : exec step start first = some u) (one : u.step a = some u') (between : exec step u' middle = some v)
    (two : v.step b = some v') (kept : ∀ action ∈ middle ++ [b], ¬ OpensSession k action) :
    (∀ p ∈ u.sends a, ∀ q ∈ u.sends a, p.sessionId = k → q.sessionId = k →
      p.snapshot = q.snapshot) ∧
    (∀ p ∈ u.sends a, ∀ q ∈ v.sends b, p.sessionId = k → q.sessionId = k →
      p.revision ≤ q.revision ∧ (p.snapshot ≠ q.snapshot → p.revision < q.revision)) ∧
    (∀ s ∈ u'.registry.snapshot k, ∀ t ∈ v'.registry.snapshot k,
      s.revision ≤ t.revision ∧ (s ≠ t → s.revision < t.revision)) ∧
    (∀ expectedRevision selector layout, a = .perform (.updateView selector expectedRevision layout) →
      (∀ view, (u.registry.updateView selector expectedRevision layout).2 = .ok view →
        Changes view.sessionId u u') ∧
      (Changes k u u' →
        (∃ s ∈ u.registry.snapshot k, ∃ t ∈ u'.registry.snapshot k, s.revision = expectedRevision ∧
          t.layout.terminalIds.Perm s.layout.terminalIds) ∧
        ∀ selector' layout', b = .perform (.updateView selector' expectedRevision layout') →
          ¬ Changes k v v')) := by
  have owned := run_owned before
  have owned' := step_owned owned one
  have owned'' := owned_exec owned' between
  have later : Revises k u'.registry v.registry :=
    run_revises owned' (fun action mem => kept action (List.mem_append_left [b] mem)) between
  have last : Revises k v.registry v'.registry :=
    step_revises owned'' (kept b (List.mem_append_right middle List.mem_cons_self)) two
  have revises := later.trans last
  refine ⟨?_, ?_, ?_, ?_⟩
  · intro p hp q hq hk hk'
    have newer := sends_newer owned owned one one (.refl k _) hp hq hk hk'
    have older := sends_newer owned owned one one (.refl k _) hq hp hk' hk
    exact newer.same (Nat.le_antisymm newer.le older.le)
  · intro p hp q hq hk hk'
    have newer := sends_newer owned owned'' one two revises hp hq hk hk'
    exact ⟨newer.le, newer.lt⟩
  · intro s hs t ht
    obtain ⟨s', hs', newer⟩ := revises t ht
    obtain rfl := Option.some.inj (hs.symm.trans hs')
    exact ⟨newer.le, newer.lt⟩
  · rintro expectedRevision selector layout rfl
    cases one
    refine ⟨fun view returned => updateView_ok owned returned, fun changed => ⟨?_, ?_⟩⟩
    · obtain ⟨s, t, hs, ht, expects, -, leaves⟩ := updateView_spec owned changed
      exact ⟨s, hs, t, ht, expects, leaves⟩
    · rintro selector' layout' rfl changed'
      cases two
      exact (updateView_swaps owned changed).once later (updateView_swaps owned'' changed')

def twoPanes : List Action :=
  [.begin 0 (.create (some "work") "t1" ⟨80, 24, 0, 0⟩ false), .reserve 0, .commit 0 "s1" "v1" 0,
    .begin 1 (.split "t1" .horizontal "t2" ⟨80, 24, 0, 0⟩), .reserve 1, .commit 1 "s2" "v2" 0]

/-- The panes are rearranged and the session is renamed. -/
theorem view_revisions_rearranged :
    let a := Action.perform
      (.updateView "s1" 1 (.split .vertical [.terminal "t2", .terminal "t1"] []))
    let b := Action.perform (.rename "s1" "other")
    ∃ u u' v', exec step start twoPanes = some u ∧ u.step a = some u' ∧ u'.step b = some v' ∧
      (u.sends a).map (·.revision) = [2] ∧ (u'.sends b).map (·.revision) = [3] ∧
      ∀ p ∈ u.sends a, ∀ q ∈ u'.sends b, p.sessionId = "s1" → q.sessionId = "s1" →
        p.revision ≤ q.revision ∧ (p.snapshot ≠ q.snapshot → p.revision < q.revision) :=
  ⟨_, _, _, rfl, rfl, rfl, by decide +kernel, by decide +kernel,
    (view_revisions "s1" twoPanes [] _ _ rfl rfl rfl rfl (by simp [OpensSession])).2.1⟩

end World

end Ctl.Daemon
