import Ctl.Base.Table
import Ctl.Core.Lease
import Ctl.Daemon.LayoutEdit

/-!
# The session registry

Model of `SessionRegistry` in `ctmux/daemon/src/session.rs` and of the operations on it in
`ctmux/daemon/src/session/topology.rs`. Every function here runs under the registry lock and returns
the registry together with its result, because an operation that fails may have changed it.

The `Arc<Terminal>` objects live in `heap`, which keeps a terminal after it has left the registry: its
attachments still refer to it. `terminals` holds the keys of the registry's own map. Resizing a PTY can
fail at any time; `pty` scripts the outcomes of the coming resizes, so a statement about every registry
is a statement about every outcome. Notifications (`publish_view`, `publish_layout_leases`) and the
statistics of a terminal are left out.
-/

namespace Ctl.Daemon
open Ctl.Base Ctl.Proto Ctl.Core

/-! ### Data -/

/-- The session that owns a terminal (Rust `TerminalOwner`). -/
structure TerminalOwner where
  createdAtMs : Nat
  sessionId : String
  viewId : String
  name : String

/-- Whether the child of a terminal has ended (Rust `SessionLifecycle`). -/
inductive SessionLifecycle where
  | running
  | ended (exitCode : Option Nat)
  deriving DecidableEq

/-- One logical attachment of a terminal (Rust `AttachmentRecord`). -/
structure AttachmentRecord where
  attachmentId : String
  generation : Nat
  connected : Bool

/-- A terminal as the registry sees it (Rust `Terminal`). -/
structure Terminal where
  managed : Bool
  owner : TerminalOwner
  name : String
  createdAtMs : Nat
  terminalSize : TerminalSize
  lifecycle : SessionLifecycle
  leases : AttachmentLeaseRegistry
  attachments : Table String AttachmentRecord

/-- The one view of a session (Rust `View`). -/
structure View where
  id : String
  revision : Nat
  layout : ViewLayout
  canvasSize : TerminalSize
  zoomedTerminalId : Option String
  leases : AttachmentLeaseRegistry

/-- A session (Rust `Session`). -/
structure Session where
  closing : Bool
  id : String
  name : String
  view : View

/-- The state behind the registry lock (Rust `SessionRegistry`), with the terminals it refers to. -/
structure Registry where
  heap : Table String Terminal
  terminals : List String
  sessions : Table String Session
  pendingNames : List String
  nextAutomaticName : Option Nat
  /-- The outcomes of the coming PTY resizes: a failure has a text. -/
  pty : List (Option String)

/-- Errors of registry operations (Rust `SessionManagerError` and `SessionControlError`). -/
inductive SessionError where
  | invalidView (message : String)
  | invalidName (message : String)
  | alreadyExists (name : String)
  | automaticNameExhausted
  | notFound (selector : String)
  | pty (message : String)
  | layoutLeaseRequired
  | inputLeaseRequired
  deriving DecidableEq

def SessionError.toText : SessionError → String
  | .invalidView message => "invalid view operation: " ++ message
  | .invalidName message => "invalid session name: " ++ message
  | .alreadyExists name => "a session named '" ++ name ++ "' already exists"
  | .automaticNameExhausted => "automatic session name sequence is exhausted"
  | .notFound selector => "session '" ++ selector ++ "' was not found"
  | .pty message => "PTY error: " ++ message
  | .layoutLeaseRequired => "this attachment does not own the session layout lease"
  | .inputLeaseRequired => "this attachment does not own the session input lease"

abbrev Outcome (α : Type) := Registry × Res SessionError α

/-- A terminal of a view (Rust `TerminalInfo`). -/
structure TerminalInfo where
  terminalId : String
  name : String
  createdAtMs : Nat
  terminalSize : TerminalSize

/-- A view as clients see it (Rust `ViewInfo`). -/
structure ViewInfo where
  sessionName : String
  sessionId : String
  viewId : String
  revision : Nat
  canvasSize : TerminalSize
  zoomedTerminalId : Option String
  panes : List PaneGeometry
  layout : ViewLayout
  terminals : List TerminalInfo

/-- A pane that a client wants to move (Rust `PaneTarget`). -/
structure PaneTarget where
  sessionId : String
  viewId : String
  expectedRevision : Nat
  terminalId : String

/-- A divider that a client wants to move (Rust `DividerResize`). -/
structure DividerResize where
  viewId : String
  expectedRevision : Nat
  splitPath : List UInt16
  boundary : UInt16
  position : UInt16

/-- The size of one pane, pixels in proportion (Rust `pane_size`). -/
def paneSize (canvas : TerminalSize) (pane : PaneGeometry) : Res SessionError TerminalSize := do
  let width ← divWord (canvas.pixelWidth.toNat * pane.columns.toNat) canvas.columns.toNat
  let width ← word 16 width
  let height ← divWord (canvas.pixelHeight.toNat * pane.rows.toNat) canvas.rows.toNat
  let height ← word 16 height
  return ⟨pane.columns, pane.rows, UInt16.ofNat width, UInt16.ofNat height⟩

namespace Registry

/-- An empty registry (Rust `SessionRegistry::default`). -/
def default : Registry := ⟨∅, [], ∅, [], some 1, []⟩

variable (r : Registry) (id selector : String)

/-- A registered terminal (Rust `terminals.get`). -/
def terminal? : Option Terminal :=
  if id ∈ r.terminals then AList.lookup id r.heap else none

def editTerminal (f : Terminal → Terminal) : Registry :=
  { r with heap := r.heap.modify id f }

def editTerminals (ids : List String) (f : Terminal → Terminal) : Registry :=
  ids.foldl (fun r id => r.editTerminal id f) r

def editSession (f : Session → Session) : Registry :=
  { r with sessions := r.sessions.modify id f }

def editView (f : View → View) : Registry :=
  r.editSession id fun session => { session with view := f session.view }

/-! ### Geometry -/

/-- Resize the PTY of a terminal (Rust `resize_pty`). -/
def resizePty (terminalSize : TerminalSize) : Outcome Unit :=
  match r.pty with
  | some message :: pty => ({ r with pty }, .fail (.pty message))
  | none :: pty =>
    (editTerminal { r with pty } id fun terminal => { terminal with terminalSize }, .ok ())
  | [] => (r.editTerminal id fun terminal => { terminal with terminalSize }, .ok ())

/-- The loop of `resize_view`. -/
def resizePanes (size : TerminalSize) : Registry → List PaneGeometry → Outcome Unit
  | r, [] => (r, .ok ())
  | r, pane :: panes =>
    if pane.terminalId ∈ r.terminals then
      match paneSize size pane with
      | .error e => (r, .error e)
      | .ok paneSize =>
        match r.resizePty pane.terminalId paneSize with
        | (r, .ok ()) => resizePanes size r panes
        | (r, .error e) => (r, .error e)
    else resizePanes size r panes

def viewPanes (view : View) (size : TerminalSize) : Res SessionError (List PaneGeometry) :=
  match view.zoomedTerminalId with
  | some terminalId => .ok [⟨terminalId, 0, 0, size.columns, size.rows⟩]
  | none => (view.layout.paneGeometry size).mapErr .pty

def recanvas (canvasSize : TerminalSize) (view : View) : View :=
  { view with canvasSize, revision := view.revision + 1 }

/-- Give a view another canvas and resize its panes (Rust `resize_view`). -/
def resizeView (size : TerminalSize) : Outcome Unit :=
  match AList.lookup id r.sessions with
  | none => (r, .panic)
  | some root =>
    match viewPanes root.view size with
    | .error e => (r, .error e)
    | .ok panes =>
      match resizePanes size r panes with
      | (r, .error e) => (r, .error e)
      | (r, .ok ()) =>
        if root.view.canvasSize = size then (r, .ok ())
        else (r.editView id (recanvas size), .ok ())

/-- Resize the panes of a view to its canvas (Rust `reflow_view`). -/
def reflowView : Outcome Unit :=
  match AList.lookup id r.sessions with
  | none => (r, .ok ())
  | some root => r.resizeView id root.view.canvasSize

/-- The sizes of the terminals of a view (Rust `capture_view_geometry`). -/
def captureViewGeometry (view : View) : List (String × TerminalSize) :=
  view.layout.terminalIds.filterMap fun id =>
    (r.terminal? id).map fun terminal => (id, terminal.terminalSize)

/-- Try to give terminals their sizes back (Rust `restore_view_geometry`). -/
def restoreViewGeometry : Registry → List (String × TerminalSize) → Registry
  | r, [] => r
  | r, (id, size) :: geometry => restoreViewGeometry (r.resizePty id size).1 geometry

/-! ### Reading -/

/-- The session with an id or a name (Rust `root`). -/
def root : Res SessionError Session :=
  match AList.lookup selector r.sessions with
  | some session => .ok session
  | none => Res.ofOption (r.sessions.find (·.name = selector)) (.notFound selector)

/-- A view as clients see it (Rust `view_info`). -/
def viewInfo : Res SessionError ViewInfo := do
  let session ← r.root selector
  let view := session.view
  let panes ← (view.layout.paneGeometry view.canvasSize).mapErr .invalidView
  return {
    sessionName := session.name
    sessionId := session.id
    viewId := view.id
    revision := view.revision
    canvasSize := view.canvasSize
    zoomedTerminalId := view.zoomedTerminalId
    panes
    layout := view.layout
    terminals := view.layout.terminalIds.filterMap fun id =>
      (r.terminal? id).map fun terminal =>
        ⟨id, terminal.name, terminal.createdAtMs, terminal.terminalSize⟩ }

/-- The terminal that a selector opens (Rust `resolve`). -/
def resolve : Res SessionError String :=
  if selector ∈ r.terminals then .ok selector
  else do
    let session ← r.root selector
    let first ← Res.orPanic session.view.layout.firstTerminal
    let _ ← Res.ofOption (r.terminal? first) (.notFound selector)
    return first

/-- The session of a terminal for an attachment that owns the layout lease: the checks that
    `resize_layout` and `set_view_zoom` share. -/
def leasedView (self attachmentId : String) :
    Res SessionError (String × Session) := do
  let terminal ← Res.orPanic (AList.lookup self r.heap)
  let owner := terminal.owner.sessionId
  let root ← Res.ofOption (AList.lookup owner r.sessions) (.invalidView "view has closed")
  Res.require (root.view.leases.status attachmentId .layout).ownedByClient .layoutLeaseRequired
  Res.require (¬ root.closing) (.invalidView "session is terminating")
  return (owner, root)

/-- A pane that may be moved (Rust `running_movable_terminal`). -/
def runningMovableTerminal : Res SessionError Unit := do
  let terminal ← Res.ofOption (r.terminal? id) (.invalidView "pane no longer exists")
  Res.require (¬ terminal.managed) (.invalidView "managed task terminals cannot be moved")
  Res.require (terminal.lifecycle = .running) (.invalidView "pane has ended")

/-- The session of a pane that an attachment may move (Rust `attached_pane_target`). -/
def attachedPaneTarget (self attachmentId : String) (target : PaneTarget) :
    Res SessionError (String × Session) := do
  let (owner, root) ← r.leasedView self attachmentId
  Res.require (target.sessionId = root.id ∧ target.viewId = root.view.id ∧
    target.expectedRevision = root.view.revision)
    (.invalidView "view changed; reload before moving panes")
  Res.require (target.terminalId ∈ root.view.layout.terminalIds)
    (.invalidView "pane must belong to the attached view")
  r.runningMovableTerminal target.terminalId
  return (owner, root)

end Registry

end Ctl.Daemon
