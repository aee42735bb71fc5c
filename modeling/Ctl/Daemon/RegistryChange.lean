import Ctl.Daemon.Topology
import Ctl.Proto.Tiling

/-!
# What registry operations change

Every operation of `Ctl.Daemon.Topology` changes the registry in one of a few ways, up to the sizes
and lifecycles of terminals. `Calm` relates registries that differ in those only, `Change` lists the
ways, and one lemma per operation says that it is such a change. Invariants of the registry are then
proved once for each way.
-/

namespace Ctl.Daemon
open Ctl.Base Ctl.Proto Ctl.Core

def Terminal.fixed (terminal : Terminal) : Terminal :=
  { terminal with terminalSize := .default, lifecycle := .running }

namespace Registry

/-! ### Calm changes -/

/-- Only sizes and lifecycles of terminals differ. -/
structure Calm (r r' : Registry) : Prop where
  heap : ∀ id, (AList.lookup id r'.heap).map Terminal.fixed
    = (AList.lookup id r.heap).map Terminal.fixed
  terminals : r'.terminals = r.terminals
  sessions : ∀ k, AList.lookup k r'.sessions = AList.lookup k r.sessions
  pendingNames : r'.pendingNames = r.pendingNames
  nextAutomaticName : r'.nextAutomaticName = r.nextAutomaticName

namespace Calm

variable {r r' r'' : Registry} {f : Terminal → Terminal}

lemma refl (r : Registry) : Calm r r := ⟨fun _ => rfl, rfl, fun _ => rfl, rfl, rfl⟩

lemma trans (h : Calm r r') (k : Calm r' r'') : Calm r r'' where
  heap id := (k.heap id).trans (h.heap id)
  terminals := k.terminals.trans h.terminals
  sessions id := (k.sessions id).trans (h.sessions id)
  pendingNames := k.pendingNames.trans h.pendingNames
  nextAutomaticName := k.nextAutomaticName.trans h.nextAutomaticName

lemma map_eq {β : Type} {f : Terminal → β} (same : ∀ t, f t.fixed = f t) (h : Calm r r') (id : String) :
    (AList.lookup id r'.heap).map f = (AList.lookup id r.heap).map f := by
  have := congrArg (Option.map f) (h.heap id)
  rw [Option.map_map, Option.map_map, show f ∘ Terminal.fixed = f from funext same] at this
  exact this

lemma editTerminal (h : Calm r r') (id : String) (same : ∀ t, (f t.fixed).fixed = (f t).fixed) :
    Calm (r.editTerminal id f) (r'.editTerminal id f) where
  heap k := by
    simp only [Registry.editTerminal, Table.lookup_modify]
    split
    · rw [Option.map_map, Option.map_map]
      exact h.map_eq (f := Terminal.fixed ∘ f) same id
    · exact h.heap k
  terminals := h.terminals
  sessions := h.sessions
  pendingNames := h.pendingNames
  nextAutomaticName := h.nextAutomaticName

lemma openSession (h : Calm r r') (id : String) (owner : TerminalOwner) (size : TerminalSize) :
    Calm (r.openSession id owner size) (r'.openSession id owner size) where
  heap := h.heap
  terminals := h.terminals
  sessions k := by
    simp only [Registry.openSession]
    by_cases eq : k = owner.sessionId
    · rw [eq, AList.lookup_insert, AList.lookup_insert]
    · rw [AList.lookup_insert_ne eq, AList.lookup_insert_ne eq, h.sessions]
  pendingNames := h.pendingNames
  nextAutomaticName := h.nextAutomaticName

lemma of_editTerminal (r : Registry) (id : String) (same : ∀ t, (f t).fixed = t.fixed) :
    Calm r (r.editTerminal id f) where
  heap := Table.map_lookup_modify same
  terminals := rfl
  sessions _ := rfl
  pendingNames := rfl
  nextAutomaticName := rfl

end Calm

/-! ### Resizing -/

lemma resizePty_calm (r : Registry) (id : String) (size : TerminalSize) : Calm r (r.resizePty id size).1 := by
  unfold resizePty
  split
  · exact ⟨fun _ => rfl, rfl, fun _ => rfl, rfl, rfl⟩
  · exact ⟨Table.map_lookup_modify fun _ => rfl, rfl, fun _ => rfl, rfl, rfl⟩
  · exact Calm.of_editTerminal r id fun _ => rfl

variable {id k self attachmentId : String} {size : TerminalSize} {r r' : Registry} {session : Session}
  {layout : ViewLayout} {target : PaneTarget} {changed : Bool} {owner : TerminalOwner} {view : View}
  {terminal : Terminal}

lemma lookup_resizePty_ne (r : Registry) (ne : k ≠ id) (size : TerminalSize) :
    AList.lookup k (r.resizePty id size).1.heap = AList.lookup k r.heap := by
  unfold resizePty
  split
  · rfl
  · exact Table.lookup_modify_ne ne _
  · exact Table.lookup_modify_ne ne _

lemma resizePanes_spec (size : TerminalSize) (r : Registry) (panes : List PaneGeometry) :
    Calm r (resizePanes size r panes).1 ∧
      ∀ k ∉ panes.map (·.terminalId),
        AList.lookup k (resizePanes size r panes).1.heap = AList.lookup k r.heap := by
  induction panes generalizing r with
  | nil => exact ⟨.refl r, fun _ _ => rfl⟩
  | cons pane panes ih =>
    have tail : ∀ {k}, k ∉ (pane :: panes).map (·.terminalId) →
        k ≠ pane.terminalId ∧ k ∉ panes.map (·.terminalId) := fun h =>
      ⟨fun eq => h (eq ▸ List.mem_cons_self), fun mem => h (List.mem_cons_of_mem _ mem)⟩
    rw [resizePanes]
    split
    · split
      · exact ⟨.refl r, fun _ _ => rfl⟩
      case h_2 paneSize _ =>
        have calm := r.resizePty_calm pane.terminalId paneSize
        have other := fun k (ne : k ≠ pane.terminalId) => lookup_resizePty_ne r ne paneSize
        split
        case h_1 r' eq =>
          rw [eq] at calm other
          obtain ⟨rest, same⟩ := ih r'
          exact ⟨calm.trans rest, fun k h => (same k (tail h).2).trans (other k (tail h).1)⟩
        case h_2 r' e eq =>
          rw [eq] at calm other
          exact ⟨calm, fun k h => other k (tail h).1⟩
    · obtain ⟨rest, same⟩ := ih r
      exact ⟨rest, fun k h => same k (tail h).2⟩

lemma paneSize_ok {pane : PaneGeometry} (inside : pane.rect.Inside size.canvas) (columns : 0 < pane.columns.toNat)
    (rows : 0 < pane.rows.toNat) : ∃ result, paneSize size pane = .ok result := by
  obtain ⟨⟨-, hcolumns⟩, -, hrows⟩ := inside
  simp only [PaneGeometry.rect, TerminalSize.canvas] at hcolumns hrows
  have bounded : ∀ {pixels part whole : Nat}, pixels < 2 ^ 16 → part ≤ whole → 0 < whole →
      pixels * part / whole < 2 ^ 16 := by
    intro pixels part whole lt le pos
    refine lt_of_le_of_lt (Nat.div_le_of_le_mul ?_) lt
    rw [Nat.mul_comm whole]
    exact Nat.mul_le_mul_left pixels le
  unfold paneSize
  rw [divWord_eq_ok (by omega), Res.ok_bind,
    word_eq_ok (bounded size.pixelWidth.toNat_lt (by omega) (by omega)), Res.ok_bind,
    divWord_eq_ok (by omega), Res.ok_bind,
    word_eq_ok (bounded size.pixelHeight.toNat_lt (by omega) (by omega)), Res.ok_bind]
  exact ⟨_, rfl⟩

lemma resizePty_ne_panic (r : Registry) (id : String) (size : TerminalSize) : (r.resizePty id size).2 ≠ .panic := by
  unfold resizePty
  split <;> simp [Res.fail, Res.panic]

lemma resizePanes_ne_panic (size : TerminalSize) (panes : List PaneGeometry)
    (ok : ∀ pane ∈ panes, ∃ result, paneSize size pane = .ok result) (r : Registry) :
    (resizePanes size r panes).2 ≠ .panic := by
  induction panes generalizing r with
  | nil => simp [resizePanes, Res.panic]
  | cons pane panes ih =>
    have rest := fun r => ih (fun p hp => ok p (List.mem_cons_of_mem _ hp)) r
    obtain ⟨result, eq⟩ := ok pane List.mem_cons_self
    rw [resizePanes]
    split
    · rw [eq]
      have := r.resizePty_ne_panic pane.terminalId result
      dsimp only
      split
      · exact rest _
      case h_2 resized => rw [resized] at this; exact this
    · exact rest r

lemma viewPanes_spec {panes : List PaneGeometry} (valid : view.layout.Valid 0) (zoom : view.zoomedTerminalId = none)
    (ok : viewPanes view size = .ok panes) :
    view.layout.Fits size ∧ panes.map (·.terminalId) = view.layout.terminalIds ∧
      ∀ pane ∈ panes, ∃ result, paneSize size pane = .ok result := by
  rw [viewPanes, zoom] at ok
  have ok := Res.mapErr_eq_ok ok
  have fits := ViewLayout.fits_of_paneGeometry ok
  obtain ⟨panes', eq, ids, -, inside, -⟩ := (ViewLayout.paneGeometry_tiles valid.wellFormed size).1 fits
  obtain rfl : panes' = panes := Except.ok.inj (eq.symm.trans ok)
  refine ⟨fits, ids, fun pane hp => ?_⟩
  obtain ⟨within, columns, rows⟩ := inside pane hp
  exact paneSize_ok within (by omega) (by omega)

/-- Resizing the panes of a view to its canvas changes sizes only. When the view is not zoomed and the
    resize does not end in an error, the layout fits and terminals outside it keep their size. -/
lemma reflowView_spec (r : Registry) (id : String) :
    Calm r (r.reflowView id).1 ∧
      ∀ root, AList.lookup id r.sessions = some root → root.view.zoomedTerminalId = none →
        root.view.layout.Valid 0 → (r.reflowView id).2 ≠ .panic ∧
        ((r.reflowView id).2 = .ok () → root.view.layout.Fits root.view.canvasSize) ∧
        ∀ k ∉ root.view.layout.terminalIds,
          AList.lookup k (r.reflowView id).1.heap = AList.lookup k r.heap := by
  unfold reflowView
  cases found : AList.lookup id r.sessions with
  | none => exact ⟨.refl r, fun root h => by cases h⟩
  | some root =>
    dsimp only
    unfold resizeView
    simp only [found]
    cases hpanes : viewPanes root.view root.view.canvasSize with
    | error e =>
      refine ⟨.refl r, ?_⟩
      rintro _ ⟨rfl⟩ zoom valid
      refine ⟨?_, fun h => (by cases h), fun _ _ => rfl⟩
      -- A layout without a geometry is refused, not a panic.
      rintro ⟨rfl⟩
      rw [viewPanes, zoom] at hpanes
      obtain ⟨fits, small⟩ := ViewLayout.paneGeometry_tiles valid.wellFormed root.view.canvasSize
      by_cases h : root.view.layout.Fits root.view.canvasSize
      · obtain ⟨panes, eq, -⟩ := fits h
        rw [eq] at hpanes
        cases hpanes
      · obtain ⟨message, eq⟩ := small h
        rw [eq] at hpanes
        cases hpanes
    | ok panes =>
      obtain ⟨calm, other⟩ := resizePanes_spec root.view.canvasSize r panes
      have noPanic := fun ok => resizePanes_ne_panic root.view.canvasSize panes ok r
      dsimp only
      split
      case h_1 r' e eq =>
        rw [eq] at calm other noPanic
        refine ⟨calm, ?_⟩
        rintro _ ⟨rfl⟩ zoom valid
        obtain ⟨fits, ids, sizes⟩ := viewPanes_spec valid zoom hpanes
        exact ⟨noPanic sizes, fun _ => fits, ids ▸ other⟩
      case h_2 r' eq =>
        rw [eq] at calm other
        simp only [if_true]
        refine ⟨calm, ?_⟩
        rintro _ ⟨rfl⟩ zoom valid
        obtain ⟨fits, ids, -⟩ := viewPanes_spec valid zoom hpanes
        exact ⟨by simp [Res.panic], fun _ => fits, ids ▸ other⟩

lemma restoreViewGeometry_calm (r : Registry) (geometry : List (String × TerminalSize)) :
    Calm r (restoreViewGeometry r geometry) := by
  induction geometry generalizing r with
  | nil => exact .refl r
  | cons entry geometry ih => exact (r.resizePty_calm entry.1 entry.2).trans (ih _)

/-! ### Trying a view -/

def withSession (r : Registry) (k : String) (session : Session) : Registry :=
  { r with sessions := AList.insert k session r.sessions }

lemma lookup_withSession (r : Registry) (k : String) (session : Session) (k' : String) :
    AList.lookup k' (r.withSession k session).sessions
      = if k' = k then some session else AList.lookup k' r.sessions := by
  unfold withSession
  split
  case isTrue eq => rw [eq, AList.lookup_insert]
  case isFalse ne => exact AList.lookup_insert_ne ne

lemma editSession_eq (found : AList.lookup k r.sessions = some session) (f : Session → Session) :
    r.editSession k f = r.withSession k (f session) := by
  rw [editSession, Table.modify, found]
  rfl

lemma tryView_spec {owner : String} {root : Session} (geometry : List (String × TerminalSize)) (change : View → View)
    (found : AList.lookup owner r.sessions = some root)
    (canvas : (change root.view).canvasSize = root.view.canvasSize) (id : (change root.view).id = root.view.id)
    (leases : (change root.view).leases = root.view.leases) :
    let changed := { root with view := change root.view }
    let result := r.tryView owner root.view geometry change
    (∃ e, result.2 = .fail e ∧ Calm r result.1) ∨
      (result.2 = .ok () ∨ result.2 = .panic) ∧ Calm (r.withSession owner changed) result.1 ∧
      ((change root.view).zoomedTerminalId = none → (change root.view).layout.Valid 0 →
        result.2 = .ok () ∧ (change root.view).layout.Fits root.view.canvasSize ∧
        ∀ k ∉ (change root.view).layout.terminalIds,
          AList.lookup k result.1.heap = AList.lookup k r.heap) := by
  intro changed result
  have edited : r.editView owner change = r.withSession owner changed := editSession_eq found _
  obtain ⟨calm, unzoomed⟩ := reflowView_spec (r.withSession owner changed) owner
  have now : AList.lookup owner (r.withSession owner changed).sessions = some changed := by
    rw [lookup_withSession, if_pos rfl]
  have unzoomed := unzoomed changed now
  unfold result tryView
  rw [edited]
  split
  case h_1 r' e eq =>
    left
    rw [eq] at calm
    refine ⟨e, rfl, Calm.trans ?_ (restoreViewGeometry_calm _ _)⟩
    refine ⟨calm.heap, calm.terminals, fun k => ?_, calm.pendingNames, calm.nextAutomaticName⟩
    rw [editView, editSession, Table.lookup_modify, calm.sessions, calm.sessions,
      lookup_withSession, lookup_withSession]
    split
    case isTrue same =>
      rw [if_pos rfl, same, found, Option.map_some]
      congr 1
      rcases root with ⟨closing, rootId, name, view⟩
      rcases view with ⟨viewId, revision, layout, canvasSize, zoom, viewLeases⟩
      simp only [changed, restoreView] at canvas id leases ⊢
      rw [canvas, id, leases]
    case isFalse => rfl
  case h_2 r' outcome noErr eq =>
    right
    rw [eq] at calm unzoomed
    refine ⟨?_, calm, fun zoom valid => ?_⟩
    · rcases outcome with (e | _) | ⟨⟩
      · exact (noErr e rfl).elim
      · exact .inr rfl
      · exact .inl rfl
    · obtain ⟨noPanic, fits, other⟩ := unzoomed zoom valid
      rcases outcome with (e | _) | ⟨⟩
      · exact (noErr e rfl).elim
      · exact (noPanic rfl).elim
      · exact ⟨rfl, canvas ▸ fits rfl, other⟩

/-! ### Ownership -/

def owner? (r : Registry) (id : String) : Option TerminalOwner :=
  (AList.lookup id r.heap).map (·.owner)

def OwnedBy (r : Registry) (id : String) (session : Session) : Prop :=
  ∃ owner ∈ r.owner? id, owner.sessionId = session.id ∧ owner.viewId = session.view.id ∧
    owner.name = session.name

/-- What a session of a registry satisfies on its own. -/
structure SessionOk (session : Session) : Prop where
  nodup : session.view.layout.terminalIds.Nodup
  valid : session.view.layout.validateLayout 0 = .ok ()
  zoom : ∀ id ∈ session.view.zoomedTerminalId, id ∈ session.view.layout.terminalIds

structure Owned (r : Registry) : Prop where
  key : ∀ k session, AList.lookup k r.sessions = some session → session.id = k
  session : ∀ k session, AList.lookup k r.sessions = some session → SessionOk session
  leaf : ∀ k session, AList.lookup k r.sessions = some session →
    ∀ id ∈ session.view.layout.terminalIds, id ∈ r.terminals ∧ r.OwnedBy id session
  home : ∀ id ∈ r.terminals, ∃ owner ∈ r.owner? id,
    ∃ session, AList.lookup owner.sessionId r.sessions = some session ∧
      id ∈ session.view.layout.terminalIds

lemma SessionOk.shape (h : SessionOk session) : session.view.layout.Valid 0 :=
  (ViewLayout.validateLayout_ok_iff.1 h.valid).2

/-! ### The ways a registry changes -/

/-- A change of a session that keeps its identity, its leases and its leaves. -/
structure SessionEdit (old new : Session) : Prop where
  id : new.id = old.id
  name : new.name = old.name
  viewId : new.view.id = old.view.id
  leases : new.view.leases = old.view.leases
  leaves : new.view.layout.terminalIds.Perm old.view.layout.terminalIds
  valid : new.view.layout.Valid 0
  zoom : ∀ id ∈ new.view.zoomedTerminalId, id ∈ new.view.layout.terminalIds
  fits : old.view.layout.Fits old.view.canvasSize → new.view.layout.Fits new.view.canvasSize

def without (terminal : Terminal) (layout : ViewLayout) (session : Session) : Session :=
  let leases := releaseAttachments terminal session.view.leases
  { session with view := relayout layout { session.view with leases } }

inductive Event where
  | quiet
  /-- A session for a new terminal. -/
  | opened (id : String) (owner : TerminalOwner) (size : TerminalSize)
  /-- A session for a terminal of another session. -/
  | moved (id : String) (owner : TerminalOwner) (size : TerminalSize)

/-- The ways an operation changes a registry, up to a calm change and to pending names. -/
inductive Change (r : Registry) : Event → Registry → Prop
  | none : Change r .quiet r
  | edit {k : String} {session session' : Session} :
    AList.lookup k r.sessions = some session → SessionEdit session session' →
    Change r .quiet (r.withSession k session')
  | rename {k name : String} {session : Session} :
    AList.lookup k r.sessions = some session → name ∉ r.pendingNames →
    (∀ k' session', AList.lookup k' r.sessions = some session' → session'.name = name → k' = k) →
    Change r .quiet ((r.withSession k (renamed name session)).editTerminals
      session.view.layout.terminalIds (withOwnerName name))
  | merge {source destination : Session} {layout : ViewLayout} {owner : TerminalOwner} :
    AList.lookup source.id r.sessions = some source →
    AList.lookup destination.id r.sessions = some destination → source.id ≠ destination.id →
    layout.terminalIds
      = destination.view.layout.terminalIds ++ source.view.layout.terminalIds →
    layout.validateLayout 0 = .ok () → layout.Fits destination.view.canvasSize →
    owner.sessionId = destination.id → owner.viewId = destination.view.id →
    owner.name = destination.name →
    Change r .quiet ((withSession { r with sessions := AList.erase source.id r.sessions }
      destination.id { destination with view := relayout layout destination.view }).editTerminals
      source.view.layout.terminalIds (withOwner owner))
  | create {id : String} {terminal : Terminal} :
    AList.lookup id r.heap = none → terminal.leases = .default →
    AList.lookup terminal.owner.sessionId r.sessions = none →
    Change r (.opened id terminal.owner terminal.terminalSize)
      ((r.openSession id terminal.owner terminal.terminalSize).insertTerminal id terminal)
  | join {id k : String} {terminal : Terminal} {session : Session} {layout : ViewLayout} :
    AList.lookup id r.heap = none → terminal.leases = .default →
    AList.lookup k r.sessions = some session → terminal.owner.sessionId = session.id →
    terminal.owner.viewId = session.view.id → terminal.owner.name = session.name →
    layout.terminalIds.Perm (id :: session.view.layout.terminalIds) →
    layout.validateLayout 0 = .ok () → layout.Fits session.view.canvasSize →
    Change r .quiet ((r.withSession k
      { session with view := relayout layout session.view }).insertTerminal id terminal)
  | move {id k : String} {terminal : Terminal} {session : Session} {layout : ViewLayout}
      {owner : TerminalOwner} :
    id ∈ r.terminals → AList.lookup id r.heap = some terminal → terminal.owner.sessionId = k →
    AList.lookup k r.sessions = some session →
    session.view.layout.removeTerminal id = some layout →
    AList.lookup owner.sessionId r.sessions = Option.none →
    Change r (.moved id owner terminal.terminalSize)
      (((r.withSession k (without terminal layout session)).editTerminal id
        (withOwner owner)).openSession id owner terminal.terminalSize)
  | shrink {id k : String} {terminal : Terminal} {session : Session} {layout : ViewLayout} :
    id ∈ r.terminals → AList.lookup id r.heap = some terminal → terminal.owner.sessionId = k →
    AList.lookup k r.sessions = some session →
    session.view.layout.removeTerminal id = some layout →
    Change r .quiet { r.withSession k (without terminal layout session) with
      terminals := r.terminals.filter (· ≠ id) }
  | close {id k : String} {terminal : Terminal} {session : Session} :
    id ∈ r.terminals → AList.lookup id r.heap = some terminal → terminal.owner.sessionId = k →
    AList.lookup k r.sessions = some session →
    session.view.layout.removeTerminal id = Option.none →
    Change r .quiet { r with
      sessions := AList.erase k r.sessions
      terminals := r.terminals.filter (· ≠ id) }

def Steps (r : Registry) (event : Event) (r' : Registry) : Prop :=
  ∃ changed, Change r event changed ∧ Calm changed r'

lemma Calm.steps (h : Calm r r') : Steps r .quiet r' := ⟨r, .none, h⟩

/-! ### The changes that operations try

The closures and plans of `Ctl.Daemon.Topology` under names of their own. -/

/-- The layout that `swapPane` tries. -/
def swapChange (r : Registry) (self attachmentId : String) (target : PaneTarget) (previous : Bool)
    (view : View) : Res SessionError (ViewLayout × Bool) := do
  let _ ← r.attachedPaneTarget self attachmentId target
  let ids := view.layout.terminalIds
  Res.require (2 ≤ ids.length) (.invalidView "session has only one pane")
  let index := ids.idxOf target.terminalId
  let adjacent := if previous then (index + ids.length - 1) % ids.length
    else (index + 1) % ids.length
  let other ← Res.orPanic ids[adjacent]?
  r.runningMovableTerminal other
  return (view.layout.swapTerminalIds target.terminalId other, true)

lemma swapPane_eq (r : Registry) (self attachmentId : String) (target : PaneTarget) (previous : Bool) :
    r.swapPane self attachmentId target previous
      = r.resizeLayout self attachmentId (r.swapChange self attachmentId target previous) := rfl

/-- The layout that `resizePane` tries. -/
def paneChange (r : Registry) (terminalId : String) (direction : ResizeDirection) (amount : UInt16)
    (view : View) : Res SessionError (ViewLayout × Bool) := do
  Res.require (terminalId ∈ view.layout.terminalIds)
    (.invalidView "resize terminal must belong to the attached view")
  let terminal ← Res.orPanic (r.terminal? terminalId)
  Res.require (terminal.lifecycle = .running) (.invalidView "resize terminal has ended")
  let (changed, layout) ← (view.layout.resizePane terminalId direction amount
    view.canvasSize).mapErr .invalidView
  return (layout, changed)

lemma resizePane_eq (r : Registry) (self attachmentId terminalId : String)
    (direction : ResizeDirection) (amount : UInt16) :
    r.resizePane self attachmentId terminalId direction amount
      = r.resizeLayout self attachmentId (r.paneChange terminalId direction amount) := rfl

/-- The layout that `resizeDivider` tries. -/
def dividerChange (divider : DividerResize) (view : View) :
    Res SessionError (ViewLayout × Bool) := do
  Res.require (view.id = divider.viewId ∧ view.revision = divider.expectedRevision)
    (.invalidView "view changed; reload before dragging a divider")
  let (changed, layout) ← (view.layout.resizeDivider divider.splitPath divider.boundary
    divider.position view.canvasSize).mapErr .invalidView
  return (layout, changed)

lemma resizeDivider_eq (r : Registry) (self attachmentId : String) (divider : DividerResize) :
    r.resizeDivider self attachmentId divider
      = r.resizeLayout self attachmentId (dividerChange divider) := rfl

/-- What `breakPane` checks before it changes anything. -/
def breakPlan (r : Registry) (self attachmentId : String) (target : PaneTarget) :
    Res SessionError (String × Session × ViewLayout) := do
  let (owner, root) ← r.attachedPaneTarget self attachmentId target
  Res.require (2 ≤ root.view.layout.terminalIds.length)
    (.invalidView "session has only one pane")
  let remaining ← Res.orPanic (root.view.layout.removeTerminal target.terminalId)
  let _ ← (remaining.paneGeometry root.view.canvasSize).mapErr .invalidView
  return (owner, root, remaining)

/-- The rest of `breakPane`, when the remaining panes have been resized. -/
def finishBreak (r : Registry) (sourceId : String) (target : PaneTarget) (newOwner : TerminalOwner) :
    Outcome (Res SessionError (ViewInfo × ViewInfo)) :=
  match r.terminal? target.terminalId with
  | none => (r, .panic)
  | some terminal =>
    let r := r.editView sourceId fun view =>
      { view with leases := releaseAttachments terminal view.leases }
    let r := r.moveTerminal target.terminalId newOwner terminal.terminalSize
    (r, .ok do
      let view ← r.viewInfo newOwner.sessionId
      let source ← r.viewInfo sourceId
      return (view, source))

lemma breakPane_eq (r : Registry) (self attachmentId : String) (target : PaneTarget) (newOwner : TerminalOwner) :
    r.breakPane self attachmentId target newOwner
      = match r.breakPlan self attachmentId target with
        | .error e => (r, .error e)
        | .ok (sourceId, root, remaining) =>
          match r.tryView sourceId root.view (r.captureViewGeometry root.view)
            (relayout remaining) with
          | (r, .error e) => (r, .error e)
          | (r, .ok ()) => r.finishBreak sourceId target newOwner := rfl

/-! ### The operations -/

lemma leasedView_spec (ok : r.leasedView self attachmentId = .ok (k, session)) :
    AList.lookup k r.sessions = some session := by
  unfold leasedView at ok
  obtain ⟨terminal, -, ok⟩ := Res.bind_eq_ok ok
  obtain ⟨root, found, ok⟩ := Res.bind_eq_ok ok
  obtain ⟨-, ok⟩ := Res.require_bind ok
  obtain ⟨-, ok⟩ := Res.require_bind ok
  cases ok
  exact Res.ofOption_eq_ok found

lemma replyView_fst (k : String) (outcome : Outcome Unit) : (replyView k outcome).1 = outcome.1 := by
  unfold replyView
  split <;> rfl

lemma relayout_steps {geometry : List (String × TerminalSize)} (found : AList.lookup k r.sessions = some session)
    (leaves : layout.terminalIds.Perm session.view.layout.terminalIds) (valid : layout.Valid 0) :
    Steps r .quiet (r.tryView k session.view geometry (relayout layout)).1 := by
  rcases tryView_spec geometry (relayout layout) found rfl rfl rfl with
    ⟨-, -, calm⟩ | ⟨-, calm, unzoomed⟩
  · exact calm.steps
  · refine ⟨_, @Change.edit _ _ _ { session with view := relayout layout session.view } found
      ⟨rfl, rfl, rfl, rfl, leaves, valid, ?_, ?_⟩, calm⟩
    · exact fun id h => (Option.not_mem_none id h).elim
    · exact fun _ => (unzoomed rfl valid).2.1

lemma resizeLayout_steps {change : View → Res SessionError (ViewLayout × Bool)}
    (keeps : ∀ k session layout changed, r.leasedView self attachmentId = .ok (k, session) →
      change session.view = .ok (layout, changed) →
      layout.terminalIds.Perm session.view.layout.terminalIds ∧ layout.Valid 0) :
    Steps r .quiet (r.resizeLayout self attachmentId change).1 := by
  unfold resizeLayout
  split
  · exact (Calm.refl r).steps
  case h_2 k session leased =>
    have found := leasedView_spec leased
    split
    · exact (Calm.refl r).steps
    case h_2 layout changed ok =>
      obtain ⟨leaves, valid⟩ := keeps k session layout changed leased ok
      rw [replyView_fst]
      split
      · exact relayout_steps found leaves valid
      · exact (Calm.refl r).steps

lemma attachedPaneTarget_spec (ok : r.attachedPaneTarget self attachmentId target = .ok (k, session)) :
    r.leasedView self attachmentId = .ok (k, session) ∧
      target.terminalId ∈ session.view.layout.terminalIds := by
  unfold attachedPaneTarget at ok
  obtain ⟨⟨owner, root⟩, leased, ok⟩ := Res.bind_eq_ok ok
  obtain ⟨-, ok⟩ := Res.require_bind ok
  obtain ⟨mem, ok⟩ := Res.require_bind ok
  obtain ⟨-, -, ok⟩ := Res.bind_eq_ok ok
  cases ok
  exact ⟨leased, mem⟩

lemma breakPlan_spec {remaining : ViewLayout}
    (ok : r.breakPlan self attachmentId target = .ok (k, session, remaining)) :
    AList.lookup k r.sessions = some session ∧
      target.terminalId ∈ session.view.layout.terminalIds ∧
      session.view.layout.removeTerminal target.terminalId = some remaining := by
  obtain ⟨⟨k', session'⟩, targeted, ok⟩ := Res.bind_eq_ok ok
  obtain ⟨-, ok⟩ := Res.require_bind ok
  obtain ⟨_, removed, ok⟩ := Res.bind_eq_ok ok
  obtain ⟨panes, -, ok⟩ := Res.bind_eq_ok ok
  cases ok
  obtain ⟨leased, leaf⟩ := attachedPaneTarget_spec targeted
  exact ⟨leasedView_spec leased, leaf, Res.orPanic_eq_ok removed⟩

lemma swapChange_keeps (owned : r.Owned) {previous : Bool}
    (leased : r.leasedView self attachmentId = .ok (k, session))
    (ok : r.swapChange self attachmentId target previous session.view = .ok (layout, changed)) :
    layout.terminalIds.Perm session.view.layout.terminalIds ∧ layout.Valid 0 := by
  obtain ⟨⟨owner, root⟩, targeted, ok⟩ := Res.bind_eq_ok ok
  obtain ⟨-, ok⟩ := Res.require_bind ok
  obtain ⟨other, hother, ok⟩ := Res.bind_eq_ok ok
  obtain ⟨-, -, ok⟩ := Res.bind_eq_ok ok
  cases ok
  obtain ⟨leased', first⟩ := attachedPaneTarget_spec targeted
  cases leased'.symm.trans leased
  have fine := owned.session k session (leasedView_spec leased)
  have second := List.mem_of_getElem? (Res.orPanic_eq_ok hother)
  exact ⟨ViewLayout.swapTerminalIds_perm fine.nodup first second,
    ViewLayout.valid_swapTerminalIds fine.shape⟩

lemma swapPane_steps (owned : r.Owned) (self attachmentId : String) (target : PaneTarget) (previous : Bool) :
    Steps r .quiet (r.swapPane self attachmentId target previous).1 :=
  resizeLayout_steps fun _ _ _ _ leased ok => swapChange_keeps owned leased ok

lemma paneChange_keeps (owned : r.Owned) {terminalId : String} {direction : ResizeDirection} {amount : UInt16}
    (leased : r.leasedView self attachmentId = .ok (k, session))
    (ok : r.paneChange terminalId direction amount session.view = .ok (layout, changed)) :
    layout.terminalIds.Perm session.view.layout.terminalIds ∧ layout.Valid 0 := by
  obtain ⟨-, ok⟩ := Res.require_bind ok
  obtain ⟨terminal, -, ok⟩ := Res.bind_eq_ok ok
  obtain ⟨-, ok⟩ := Res.require_bind ok
  obtain ⟨⟨changed', layout'⟩, moved, ok⟩ := Res.bind_eq_ok ok
  cases ok
  have fine := owned.session k session (leasedView_spec leased)
  obtain ⟨-, redivided⟩ := ViewLayout.resizePane_spec fine.shape (Res.mapErr_eq_ok moved)
  exact ⟨redivided.leaves ▸ .refl _, redivided.valid 0 fine.shape⟩

lemma resizePane_steps (owned : r.Owned) (self attachmentId terminalId : String) (direction : ResizeDirection)
    (amount : UInt16) : Steps r .quiet (r.resizePane self attachmentId terminalId direction amount).1 :=
  resizeLayout_steps fun _ _ _ _ leased ok => paneChange_keeps owned leased ok

lemma dividerChange_keeps (owned : r.Owned) {divider : DividerResize}
    (leased : r.leasedView self attachmentId = .ok (k, session))
    (ok : dividerChange divider session.view = .ok (layout, changed)) :
    layout.terminalIds.Perm session.view.layout.terminalIds ∧ layout.Valid 0 := by
  obtain ⟨-, ok⟩ := Res.require_bind ok
  obtain ⟨⟨changed', layout'⟩, moved, ok⟩ := Res.bind_eq_ok ok
  cases ok
  have fine := owned.session k session (leasedView_spec leased)
  obtain ⟨-, redivided⟩ := ViewLayout.resizeDivider_spec fine.shape (Res.mapErr_eq_ok moved)
  exact ⟨redivided.leaves ▸ .refl _, redivided.valid 0 fine.shape⟩

lemma resizeDivider_steps (owned : r.Owned) (self attachmentId : String) (divider : DividerResize) :
    Steps r .quiet (r.resizeDivider self attachmentId divider).1 :=
  resizeLayout_steps fun _ _ _ _ leased ok => dividerChange_keeps owned leased ok

lemma unzoomPane_calm (r : Registry) (view : View) (previous next : Option String) :
    Calm r (r.unzoomPane view previous next).1 := by
  unfold unzoomPane
  split
  · dsimp only
    split
    · exact .refl r
    · exact r.resizePty_calm _ _
  · exact .refl r

lemma checkZoom_spec {terminalId : Option String} (ok : r.checkZoom view terminalId = .ok ()) :
    ∀ id ∈ terminalId, id ∈ view.layout.terminalIds := by
  rintro id ⟨rfl⟩
  exact (Res.require_bind ok).1

lemma Steps.of_calm_edit {r'' : Registry} {session' : Session} (calm : Calm r r')
    (found : AList.lookup k r.sessions = some session) (edit : SessionEdit session session')
    (rest : Calm (r'.withSession k session') r'') : Steps r .quiet r'' := by
  refine ⟨_, .edit found edit, Calm.trans ?_ rest⟩
  refine ⟨calm.heap, calm.terminals, fun k' => ?_, calm.pendingNames, calm.nextAutomaticName⟩
  rw [lookup_withSession, lookup_withSession, calm.sessions]

lemma setViewZoom_steps (owned : r.Owned) (self attachmentId : String) (terminalId : Option String) :
    Steps r .quiet (r.setViewZoom self attachmentId terminalId).1 := by
  unfold setViewZoom
  split
  · exact (Calm.refl r).steps
  case h_2 k session leased =>
    have found := leasedView_spec leased
    have fine := owned.session k session found
    split
    · exact (Calm.refl r).steps
    case h_2 zoomed =>
      split
      · rw [replyView_fst]
        exact (Calm.refl r).steps
      · have calm := r.unzoomPane_calm session.view session.view.zoomedTerminalId terminalId
        dsimp only
        split
        case h_1 r' e eq =>
          rw [eq] at calm
          exact calm.steps
        case h_2 r' eq =>
          rw [eq] at calm
          rw [replyView_fst]
          have found' : AList.lookup k r'.sessions = some session := (calm.sessions k).trans found
          rcases tryView_spec (r.captureViewGeometry session.view) (rezoom terminalId) found'
            rfl rfl rfl with ⟨-, -, undone⟩ | ⟨-, made, -⟩
          · exact (calm.trans undone).steps
          · have edit : SessionEdit session
                { session with view := rezoom terminalId session.view } :=
              ⟨rfl, rfl, rfl, rfl, .refl _, fine.shape, checkZoom_spec zoomed, fun h => h⟩
            exact .of_calm_edit calm found edit made

lemma clampSize_spec {size' : TerminalSize} (ok : clampSize layout size = .ok size') : layout.Fits size' := by
  unfold clampSize at ok
  obtain ⟨columns, hcolumns, ok⟩ := Res.bind_eq_ok ok
  obtain ⟨rows, hrows, ok⟩ := Res.bind_eq_ok ok
  cases ok
  have narrow : ∀ {e : SessionError} {n : Nat} {w : UInt16}, u16TryFrom e n = .ok w → w.toNat = n := by
    intro e n w h
    unfold u16TryFrom at h
    split at h
    · cases h
      exact toNat_ofNat_u16 ‹_›
    · cases h
  have hmax : ∀ a b : UInt16, b.toNat ≤ (max a b).toNat := by
    intro a b
    change b.toNat ≤ (if a ≤ b then b else a).toNat
    split
    · exact le_refl _
    case isFalse h => exact (not_le.1 h).le
  exact ⟨narrow hcolumns ▸ hmax _ _, narrow hrows ▸ hmax _ _⟩

lemma resize_steps (owned : r.Owned) (self attachmentId : String) (size : TerminalSize) :
    Steps r .quiet (r.resize self attachmentId size).1 := by
  unfold resize
  dsimp only
  split
  · exact (Calm.refl r).steps
  case h_2 k size' ok =>
    obtain ⟨terminal, -, ok⟩ := Res.bind_eq_ok ok
    obtain ⟨session, found, ok⟩ := Res.bind_eq_ok ok
    obtain ⟨-, ok⟩ := Res.require_bind ok
    obtain ⟨clamped, hclamped, ok⟩ := Res.bind_eq_ok ok
    cases ok
    have found := Res.ofOption_eq_ok found
    have fits := clampSize_spec hclamped
    have fine := owned.session _ session found
    unfold resizeView
    rw [found]
    dsimp only
    split
    · exact (Calm.refl r).steps
    case h_2 panes _ =>
      have calm := (resizePanes_spec size' r panes).1
      split
      case h_1 eq =>
        rw [eq] at calm
        exact calm.steps
      case h_2 r' eq =>
        rw [eq] at calm
        split
        · exact calm.steps
        · have edit : SessionEdit session { session with view := recanvas size' session.view } :=
            ⟨rfl, rfl, rfl, rfl, .refl _, fine.shape, fine.zoom, fun _ => fits⟩
          have made : r'.editView terminal.owner.sessionId (recanvas size')
              = r'.withSession terminal.owner.sessionId _ :=
            editSession_eq ((calm.sessions _).trans found) _
          exact .of_calm_edit calm found edit (made ▸ .refl _)

lemma root_spec (owned : r.Owned) {selector : String} (ok : r.root selector = .ok session) :
    AList.lookup session.id r.sessions = some session := by
  unfold root at ok
  have found : ∃ k, AList.lookup k r.sessions = some session := by
    split at ok
    case h_1 found =>
      cases ok
      exact ⟨selector, found⟩
    case h_2 => exact (Table.find_eq_some (Res.ofOption_eq_ok ok)).2
  obtain ⟨k, found⟩ := found
  rwa [owned.key k session found]

lemma perm_of_subset {ids expected : List String} (nodup : expected.Nodup)
    (length : ids.length = expected.dedup.length) (distinct : ids.dedup.length = ids.length)
    (subset : ∀ id ∈ ids, id ∈ expected) : ids.Perm expected := by
  rw [List.Nodup.dedup nodup] at length
  have nodup' : ids.Nodup := by
    have := (List.dedup_sublist ids).eq_of_length distinct
    exact this ▸ List.nodup_dedup ids
  exact (nodup'.subperm subset).perm_of_length_le length.ge

lemma replyChanged_calm (r : Registry) (k : String) : Calm r (r.replyChanged k).1 := by
  have calm := (reflowView_spec r k).1
  unfold replyChanged
  split
  case h_1 eq => exact (congrArg Prod.fst eq) ▸ calm
  case h_2 eq => exact (congrArg Prod.fst eq) ▸ calm

lemma updateView_steps (owned : r.Owned) (selector : String) (expectedRevision : Nat) (layout : ViewLayout) :
    Steps r .quiet (r.updateView selector expectedRevision layout).1 := by
  unfold updateView
  dsimp only
  split
  · exact (Calm.refl r).steps
  case h_2 k layout' ok =>
    obtain ⟨_, valid, ok⟩ := Res.bind_eq_ok ok
    obtain ⟨session, found, ok⟩ := Res.bind_eq_ok ok
    obtain ⟨-, ok⟩ := Res.require_bind ok
    obtain ⟨next, preserved, ok⟩ := Res.bind_eq_ok ok
    obtain ⟨⟨length, distinct, subset⟩, ok⟩ := Res.require_bind ok
    obtain ⟨panes, placed, ok⟩ := Res.bind_eq_ok ok
    cases ok
    have found := root_spec owned found
    have fine := owned.session _ session found
    have shape := (ViewLayout.validateLayout_ok_iff.1 (Res.mapErr_eq_ok valid)).2
    have kept := (ViewLayout.preserveLayoutWeights_spec (Res.mapErr_eq_ok preserved)).2 0 shape
      fine.shape
    have fits := ViewLayout.fits_of_paneGeometry (Res.mapErr_eq_ok placed)
    have edited : r.editView session.id (relayout layout') = r.withSession session.id
        { session with view := relayout layout' session.view } := editSession_eq found _
    rw [edited]
    have edit : SessionEdit session { session with view := relayout layout' session.view } :=
      ⟨rfl, rfl, rfl, rfl, perm_of_subset fine.nodup length distinct subset, kept,
        fun id h => (Option.not_mem_none id h).elim, fun _ => fits⟩
    exact ⟨_, .edit found edit, replyChanged_calm _ _⟩

lemma rename_steps (owned : r.Owned) (selector name : String) : Steps r .quiet (r.rename selector name).1 := by
  unfold rename
  dsimp only
  split
  · exact (Calm.refl r).steps
  · exact (Calm.refl r).steps
  case h_3 session ok =>
    obtain ⟨-, -, ok⟩ := Res.bind_eq_ok ok
    obtain ⟨root, found, ok⟩ := Res.bind_eq_ok ok
    obtain ⟨-, ok⟩ := Res.require_bind ok
    obtain ⟨-, ok⟩ := Res.require_bind ok
    split at ok
    · cases ok
    obtain ⟨⟨unreserved, unused⟩, ok⟩ := Res.require_bind ok
    cases ok
    have found := root_spec owned found
    refine ⟨_, @Change.rename _ _ name _ found unreserved ?_, ?_⟩
    · intro k' session' found' eq
      by_contra ne
      refine unused (Table.any_iff.2 ⟨k', session', found', ?_⟩)
      simpa [owned.key k' session' found', eq] using ne
    · rw [editSession_eq found]
      exact .refl _

lemma mergeSessions_steps (owned : r.Owned) (source destination : String) :
    Steps r .quiet (r.mergeSessions source destination).1 := by
  unfold mergeSessions
  dsimp only
  split
  · exact (Calm.refl r).steps
  case h_2 src dst layout ok =>
    obtain ⟨src', foundSrc, ok⟩ := Res.bind_eq_ok ok
    obtain ⟨dst', foundDst, ok⟩ := Res.bind_eq_ok ok
    obtain ⟨ne, ok⟩ := Res.require_bind ok
    obtain ⟨-, -, ok⟩ := Res.bind_eq_ok ok
    obtain ⟨-, -, ok⟩ := Res.bind_eq_ok ok
    obtain ⟨_, valid, ok⟩ := Res.bind_eq_ok ok
    obtain ⟨panes, placed, ok⟩ := Res.bind_eq_ok ok
    cases ok
    have foundSrc := root_spec owned foundSrc
    have foundDst := root_spec owned foundDst
    have fits := ViewLayout.fits_of_paneGeometry (Res.mapErr_eq_ok placed)
    have there : AList.lookup dst.id (AList.erase src.id r.sessions) = some dst :=
      (AList.lookup_erase_ne ne.symm).trans foundDst
    refine ⟨_, @Change.merge r _ _ (.split .horizontal [dst.view.layout, src.view.layout] [])
      (r.mergeOwner dst) foundSrc foundDst ne (by simp [ViewLayout.terminalIds]) (Res.mapErr_eq_ok valid) fits rfl rfl rfl, ?_⟩
    rw [editView, editSession_eq (r := { r with sessions := AList.erase src.id r.sessions }) there]
    exact replyChanged_calm _ _

lemma beginTermination_steps (owned : r.Owned) (selector : String) :
    Steps r .quiet (r.beginTermination selector).1 := by
  unfold beginTermination
  split
  · exact (Calm.refl r).steps
  case h_2 session ok =>
    have found := root_spec owned ok
    have fine := owned.session _ session found
    have edit : SessionEdit session { session with closing := true } :=
      ⟨rfl, rfl, rfl, rfl, .refl _, fine.shape, fine.zoom, fun h => h⟩
    dsimp only
    rw [editSession_eq found]
    exact ⟨_, .edit found edit, .refl _⟩

lemma publishEnded_calm (r : Registry) (id : String) (exitCode : Option Nat) : Calm r (r.publishEnded id exitCode) :=
  .of_editTerminal r id fun _ => rfl

lemma Owned.registered (owned : r.Owned) (mem : id ∈ r.terminals) :
    ∃ terminal session, AList.lookup id r.heap = some terminal ∧
      AList.lookup terminal.owner.sessionId r.sessions = some session ∧
      id ∈ session.view.layout.terminalIds ∧ terminal.owner.sessionId = session.id ∧
      terminal.owner.viewId = session.view.id ∧ terminal.owner.name = session.name := by
  obtain ⟨owner, howner, session, found, leaf⟩ := owned.home id mem
  obtain ⟨terminal, hterminal, rfl⟩ := Option.map_eq_some_iff.1 howner
  obtain ⟨-, owner', howner', sameId, sameView, sameName⟩ := owned.leaf _ session found id leaf
  have eq : owner' = terminal.owner := by
    rw [owner?, hterminal] at howner'
    exact (Option.mem_some.1 howner').symm
  rw [eq] at sameId sameView sameName
  exact ⟨terminal, session, hterminal, found, leaf, sameId, sameView, sameName⟩

lemma terminal?_eq_some (h : r.terminal? id = some terminal) :
    id ∈ r.terminals ∧ AList.lookup id r.heap = some terminal := by
  unfold terminal? at h
  split at h
  case isTrue mem => exact ⟨mem, h⟩
  case isFalse => cases h

lemma planSplit_spec (owned : r.Owned) {targetId newId : String} {axis : SplitAxis}
    (ok : r.planSplit targetId newId axis = .ok (owner, layout)) :
    ∃ session, AList.lookup owner.sessionId r.sessions = some session ∧
      owner.sessionId = session.id ∧ owner.viewId = session.view.id ∧ owner.name = session.name ∧
      layout.terminalIds.Perm (newId :: session.view.layout.terminalIds) ∧
      layout.validateLayout 0 = .ok () ∧ layout.Fits session.view.canvasSize := by
  unfold planSplit at ok
  obtain ⟨target, htarget, ok⟩ := Res.bind_eq_ok ok
  obtain ⟨-, ok⟩ := Res.require_bind ok
  obtain ⟨root, hroot, ok⟩ := Res.bind_eq_ok ok
  obtain ⟨-, ok⟩ := Res.require_bind ok
  obtain ⟨_, valid, ok⟩ := Res.bind_eq_ok ok
  obtain ⟨panes, placed, ok⟩ := Res.bind_eq_ok ok
  cases ok
  obtain ⟨mem, found⟩ := terminal?_eq_some (Res.ofOption_eq_ok htarget)
  obtain ⟨terminal, session, found', session', leaf, ids⟩ := owned.registered mem
  cases found.symm.trans found'
  cases (Res.orPanic_eq_ok hroot).symm.trans session'
  have fine := owned.session _ root session'
  exact ⟨root, session', ids.1, ids.2.1, ids.2.2, ViewLayout.splitTerminal_perm fine.nodup leaf,
    Res.mapErr_eq_ok valid, ViewLayout.fits_of_paneGeometry (Res.mapErr_eq_ok placed)⟩

lemma Owned.releaseName (owned : r.Owned) (name : String) : (r.releaseName name).Owned :=
  ⟨owned.key, owned.session, owned.leaf, owned.home⟩

lemma commitSplit_steps (owned : r.Owned) (terminal : Terminal) (targetId : String) (axis : SplitAxis)
    (fresh : AList.lookup id r.heap = none) (unleased : terminal.leases = .default) :
    Steps (r.releaseName terminal.owner.name) .quiet
      (r.commitSplit id terminal targetId axis).1 := by
  unfold commitSplit
  dsimp only
  split
  · exact (Calm.refl _).steps
  case h_2 owner layout ok =>
    obtain ⟨session, found, sameId, sameView, sameName, leaves, valid, fits⟩ :=
      planSplit_spec (owned.releaseName _) ok
    rw [editView, editSession_eq found]
    exact ⟨_, @Change.join _ _ _ (withOwner owner terminal) _ _ fresh unleased found sameId sameView sameName
      leaves valid fits, (reflowView_spec _ owner.sessionId).1⟩

lemma Calm.moveTerminal (calm : Calm r r') (id : String) (owner : TerminalOwner) (size : TerminalSize) :
    ∃ r'', Calm ((r.editTerminal id (withOwner owner)).openSession id owner size) r'' ∧
      r'.moveTerminal id owner size = r''.releaseName owner.name :=
  ⟨_, (calm.editTerminal id fun _ => rfl).openSession id owner size, rfl⟩

lemma removed_not_mem (fine : SessionOk session) (removed : session.view.layout.removeTerminal id = some layout) :
    id ∉ layout.terminalIds ∧ layout.Valid 0 := by
  have spec := ViewLayout.removeTerminal_spec id fine.shape
  rw [removed] at spec
  refine ⟨?_, spec.2.1⟩
  rw [spec.1]
  simp

/-- Breaking a pane changes sizes only, or moves the pane into a session of its own and gives its
    reserved name back. -/
lemma breakPane_steps (owned : r.Owned) (self attachmentId : String) (target : PaneTarget)
    (fresh : AList.lookup owner.sessionId r.sessions = none) :
    let result := r.breakPane self attachmentId target owner
    (∃ e, result.2 = .error e) ∧ Calm r result.1 ∨
      (∃ reply, result.2 = .ok reply) ∧ ∃ r' size,
        Steps r (.moved target.terminalId owner size) r' ∧
        result.1 = r'.releaseName owner.name := by
  intro result
  unfold result
  rw [breakPane_eq]
  split
  case h_1 e _ => exact .inl ⟨⟨e, rfl⟩, .refl r⟩
  case h_2 k session remaining planned =>
    obtain ⟨found, leaf, removed⟩ := breakPlan_spec planned
    have fine := owned.session k session found
    obtain ⟨absent, valid⟩ := removed_not_mem fine removed
    obtain ⟨mem, -⟩ := owned.leaf k session found _ leaf
    obtain ⟨terminal, session', hterminal, found', -, -⟩ := owned.registered mem
    -- The leaf determines its session.
    have home : terminal.owner.sessionId = k := by
      obtain ⟨-, o, ho, same, -⟩ := owned.leaf k session found _ leaf
      rw [owner?, hterminal] at ho
      rw [← owned.key k session found, ← same, ← Option.mem_some.1 ho]
    rcases tryView_spec (r.captureViewGeometry session.view) (relayout remaining) found rfl rfl rfl with
      ⟨e, failed, calm⟩ | ⟨-, calm, unzoomed⟩
    · left
      split
      case h_1 r' e' eq =>
        rw [eq] at calm
        exact ⟨⟨e', rfl⟩, calm⟩
      case h_2 r' eq =>
        rw [eq] at failed
        cases failed
    · obtain ⟨done, -, other⟩ := unzoomed rfl valid
      right
      split
      case h_1 r' e' eq =>
        rw [eq] at done
        cases done
      case h_2 r' eq =>
        rw [eq] at calm other
        have same : r'.terminal? target.terminalId = some terminal := by
          rw [terminal?, calm.terminals]
          exact (if_pos mem).trans ((other _ absent).trans hterminal)
        rw [finishBreak, same]
        dsimp only
        have released : Calm (r.withSession k (without terminal remaining session))
            (r'.editView k fun view =>
              { view with leases := releaseAttachments terminal view.leases }) := by
          refine ⟨calm.heap, calm.terminals, fun k' => ?_, calm.pendingNames,
            calm.nextAutomaticName⟩
          rw [editView, editSession, Table.lookup_modify, calm.sessions, calm.sessions,
            lookup_withSession, lookup_withSession, lookup_withSession]
          split
          · rw [if_pos rfl]
            rfl
          · rfl
        obtain ⟨r'', rest, eq'⟩ := released.moveTerminal target.terminalId owner terminal.terminalSize
        exact ⟨⟨_, rfl⟩, r'', _, ⟨_, .move mem hterminal home found removed fresh, rest⟩, eq'⟩

lemma detachTerminal_spec (owned : r.Owned) (mem : id ∈ r.terminals)
    (hterminal : AList.lookup id r.heap = some terminal)
    (found : AList.lookup terminal.owner.sessionId r.sessions = some session) :
    (∀ layout, session.view.layout.removeTerminal id = some layout →
      Calm (r.withSession terminal.owner.sessionId (without terminal layout session))
        (r.detachTerminal id) ∧
      AList.lookup id (r.detachTerminal id).heap = some terminal) ∧
    (session.view.layout.removeTerminal id = none →
      Calm { r with sessions := AList.erase terminal.owner.sessionId r.sessions }
        (r.detachTerminal id)) := by
  have fine := owned.session _ session found
  unfold detachTerminal
  rw [terminal?, if_pos mem, hterminal]
  dsimp only
  rw [found]
  constructor
  · intro layout removed
    obtain ⟨absent, valid⟩ := removed_not_mem fine removed
    dsimp only
    rw [removed]
    dsimp only
    rw [editView, editSession_eq found]
    obtain ⟨calm, unzoomed⟩ := reflowView_spec (r.withSession terminal.owner.sessionId
      (without terminal layout session)) terminal.owner.sessionId
    obtain ⟨-, -, other⟩ := unzoomed (without terminal layout session)
      (by rw [lookup_withSession, if_pos rfl]) rfl valid
    exact ⟨calm, (other id absent).trans hterminal⟩
  · intro removed
    dsimp only
    rw [removed]
    exact (reflowView_spec _ _).1

lemma removeTerminal_steps (owned : r.Owned) (id : String) : Steps r .quiet (r.removeTerminal id) := by
  by_cases mem : id ∈ r.terminals
  · obtain ⟨terminal, session, hterminal, found, -, -⟩ := owned.registered mem
    obtain ⟨shrunk, closed⟩ := detachTerminal_spec owned mem hterminal found
    cases removed : session.view.layout.removeTerminal id with
    | some layout =>
      have calm := (shrunk layout removed).1
      refine ⟨_, .shrink mem hterminal rfl found removed, calm.heap, ?_, calm.sessions,
        calm.pendingNames, calm.nextAutomaticName⟩
      exact congrArg (List.filter (· ≠ id)) calm.terminals
    | none =>
      have calm := closed removed
      refine ⟨_, .close mem hterminal rfl found removed, calm.heap, ?_, calm.sessions,
        calm.pendingNames, calm.nextAutomaticName⟩
      exact congrArg (List.filter (· ≠ id)) calm.terminals
  · have unchanged : r.removeTerminal id = { r with terminals := r.terminals.filter (· ≠ id) } := by
      rw [removeTerminal, detachTerminal, terminal?, if_neg mem]
    have same : r.terminals.filter (· ≠ id) = r.terminals :=
      List.filter_eq_self.2 fun k hk => by
        have : k ≠ id := fun eq => mem (eq ▸ hk)
        simpa using this
    rw [unchanged, same]
    exact (Calm.refl r).steps

/-- Promoting a terminal is refused, or moves it into a session of its own and gives its reserved name
    back. -/
lemma promoteTerminal_steps (owned : r.Owned) (id : String) (fresh : AList.lookup owner.sessionId r.sessions = none) :
    let result := r.promoteTerminal id owner
    (∃ e, result.2 = .error e) ∧ result.1 = r ∨
      (∃ reply, result.2 = .ok reply) ∧ ∃ r' size,
        Steps r (.moved id owner size) r' ∧ result.1 = r'.releaseName owner.name := by
  intro result
  unfold result promoteTerminal
  dsimp only
  split
  case h_1 e _ => exact .inl ⟨⟨e, rfl⟩, rfl⟩
  case h_2 ok =>
    right
    obtain ⟨terminal, hterminal, ok⟩ := Res.bind_eq_ok ok
    obtain ⟨-, ok⟩ := Res.require_bind ok
    obtain ⟨session, found, ok⟩ := Res.bind_eq_ok ok
    obtain ⟨-, ok⟩ := Res.require_bind ok
    have several : session.view.layout.terminalIds.length ≠ 1 := by
      unfold Res.require at ok
      split at ok
      · assumption
      · cases ok
    obtain ⟨mem, hterminal⟩ := terminal?_eq_some (Res.ofOption_eq_ok hterminal)
    have found := Res.orPanic_eq_ok found
    have fine := owned.session _ session found
    obtain ⟨terminal', session', hterminal', found', leaf, -⟩ := owned.registered mem
    cases hterminal.symm.trans hterminal'
    cases found.symm.trans found'
    -- Another leaf remains, so the session does.
    cases removed : session.view.layout.removeTerminal id with
    | none =>
      have spec := ViewLayout.removeTerminal_spec id fine.shape
      rw [removed] at spec
      refine (several ?_).elim
      rw [List.length_eq_one_iff]
      refine ⟨id, List.perm_singleton.1
        ((List.perm_ext_iff_of_nodup fine.nodup (List.nodup_singleton id)).2 fun x => ?_)⟩
      rw [List.mem_singleton]
      refine ⟨fun hx => ?_, fun eq => eq ▸ leaf⟩
      simpa using List.filter_eq_nil_iff.1 spec x hx
    | some layout =>
      obtain ⟨calm, kept⟩ := (detachTerminal_spec owned mem hterminal found).1 layout removed
      have same : (r.detachTerminal id).terminal? id = some terminal := by
        rw [terminal?, calm.terminals]
        exact (if_pos mem).trans kept
      rw [same]
      dsimp only
      obtain ⟨r', rest, eq⟩ := calm.moveTerminal id owner terminal.terminalSize
      exact ⟨⟨_, rfl⟩, r', _, ⟨_, .move mem hterminal rfl found removed fresh, rest⟩, eq⟩

end Registry

end Ctl.Daemon
