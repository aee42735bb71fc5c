import Ctl.Daemon.Registry

/-!
# Operations on the session registry

The operations of `ctmux/daemon/src/session/topology.rs` and the lock-protected parts of
`ctmux/daemon/src/session.rs`. A function that models a method of `Terminal` takes the id of that
terminal as `self`. Identifiers that the source draws at random and the time are arguments.
-/

namespace Ctl.Daemon
open Ctl.Base Ctl.Proto Ctl.Core

namespace Registry

/-! ### Changing a view under its lease -/

def restoreView (old view : View) : View :=
  { view with
    layout := old.layout
    zoomedTerminalId := old.zoomedTerminalId
    revision := old.revision }

variable (r : Registry) (id self attachmentId terminalId : String) (owner : TerminalOwner)

def tryView (owner : String) (old : View) (geometry : List (String × TerminalSize)) (change : View → View) :
    Outcome Unit :=
  match (r.editView owner change).reflowView owner with
  | (r, .error (.err e)) =>
    (restoreViewGeometry (r.editView owner (restoreView old)) geometry, .fail e)
  | (r, result) => (r, result)

def relayout (layout : ViewLayout) (view : View) : View :=
  { view with layout, zoomedTerminalId := none, revision := view.revision + 1 }

def rezoom (terminalId : Option String) (view : View) : View :=
  { view with zoomedTerminalId := terminalId, revision := view.revision + 1 }

def replyView (owner : String) : Outcome Unit → Outcome ViewInfo
  | (r, .ok ()) => (r, (r.viewInfo owner).mapErr fun e => .invalidView e.toText)
  | (r, .error e) => (r, .error e)

/-- Change the layout of the view of an attachment that owns its layout lease
    (Rust `resize_layout`). -/
def resizeLayout (change : View → Res SessionError (ViewLayout × Bool)) : Outcome ViewInfo :=
  match r.leasedView self attachmentId with
  | .error e => (r, .error e)
  | .ok (owner, root) =>
    match change root.view with
    | .error e => (r, .error e)
    | .ok (layout, changed) =>
      replyView owner <|
        if changed then r.tryView owner root.view (r.captureViewGeometry root.view) (relayout layout)
        else (r, .ok ())

/-- Exchange a pane with the one before or behind it (Rust `swap_pane_inner`). -/
def swapPane (target : PaneTarget) (previous : Bool) : Outcome ViewInfo :=
  r.resizeLayout self attachmentId fun view => do
    let _ ← r.attachedPaneTarget self attachmentId target
    let ids := view.layout.terminalIds
    Res.require (2 ≤ ids.length) (.invalidView "session has only one pane")
    let index := ids.idxOf target.terminalId
    let adjacent := if previous then (index + ids.length - 1) % ids.length
      else (index + 1) % ids.length
    let other ← Res.orPanic ids[adjacent]?
    r.runningMovableTerminal other
    return (view.layout.swapTerminalIds target.terminalId other, true)

/-- Move the divider of a pane (Rust `resize_pane_inner`). -/
def resizePane (direction : ResizeDirection) (amount : UInt16) : Outcome ViewInfo :=
  r.resizeLayout self attachmentId fun view => do
    Res.require (terminalId ∈ view.layout.terminalIds)
      (.invalidView "resize terminal must belong to the attached view")
    let terminal ← Res.orPanic (r.terminal? terminalId)
    Res.require (terminal.lifecycle = .running) (.invalidView "resize terminal has ended")
    let (changed, layout) ← (view.layout.resizePane terminalId direction amount
      view.canvasSize).mapErr .invalidView
    return (layout, changed)

/-- Move an exact divider (Rust `resize_divider_inner`). -/
def resizeDivider (divider : DividerResize) : Outcome ViewInfo :=
  r.resizeLayout self attachmentId fun view => do
    Res.require (view.id = divider.viewId ∧ view.revision = divider.expectedRevision)
      (.invalidView "view changed; reload before dragging a divider")
    let (changed, layout) ← (view.layout.resizeDivider divider.splitPath divider.boundary
      divider.position view.canvasSize).mapErr .invalidView
    return (layout, changed)

def checkZoom (view : View) : Option String → Res SessionError Unit
  | none => .ok ()
  | some id => do
    Res.require (id ∈ view.layout.terminalIds)
      (.invalidView "zoom terminal must belong to the attached view")
    let terminal ← Res.orPanic (r.terminal? id)
    Res.require (terminal.lifecycle = .running) (.invalidView "zoom terminal has ended")

def unzoomPane (view : View) : Option String → Option String → Outcome Unit
  | some previous, some _ =>
    let size : Res SessionError TerminalSize := do
      let panes ← (view.layout.paneGeometry view.canvasSize).mapErr .invalidView
      let pane ← Res.orPanic (panes.find? (·.terminalId = previous))
      paneSize view.canvasSize pane
    match size with
    | .error e => (r, .error e)
    | .ok size => r.resizePty previous size
  | _, _ => (r, .ok ())

/-- Zoom a pane or none (Rust `set_view_zoom_inner`). -/
def setViewZoom (terminalId : Option String) : Outcome ViewInfo :=
  match r.leasedView self attachmentId with
  | .error e => (r, .error e)
  | .ok (owner, root) =>
    match r.checkZoom root.view terminalId with
    | .error e => (r, .error e)
    | .ok () =>
      if root.view.zoomedTerminalId = terminalId then replyView owner (r, .ok ())
      else
        let geometry := r.captureViewGeometry root.view
        match r.unzoomPane root.view root.view.zoomedTerminalId terminalId with
        | (r, .error e) => (r, .error e)
        | (r, .ok ()) =>
          replyView owner (r.tryView owner root.view geometry (rezoom terminalId))

/-- A canvas at least as large as the minimum of a layout, the rest of `resize_inner`. -/
def clampSize (layout : ViewLayout) (size : TerminalSize) : Res SessionError TerminalSize := do
  let minimum := layout.minimumSize
  let columns ← u16TryFrom (.pty "view is too wide") minimum.1
  let rows ← u16TryFrom (.pty "view is too tall") minimum.2
  return { size with columns := max size.columns columns, rows := max size.rows rows }

/-- Resize the canvas of a view (Rust `resize_inner`). -/
def resize (size : TerminalSize) : Outcome Unit :=
  let plan : Res SessionError (String × TerminalSize) := do
    let terminal ← Res.orPanic (AList.lookup self r.heap)
    let owner := terminal.owner.sessionId
    let root ← Res.ofOption (AList.lookup owner r.sessions) (.pty "view has closed")
    Res.require (root.view.leases.status attachmentId .layout).ownedByClient .layoutLeaseRequired
    let size ← clampSize root.view.layout size
    return (owner, size)
  match plan with
  | .error e => (r, .error e)
  | .ok (owner, size) => r.resizeView owner size

/-! ### Changing the tree -/

def reflowChanged : Outcome Unit :=
  ((r.reflowView id).1, (r.reflowView id).2.mapErr fun e => .pty e.toText)

def replyChanged : Outcome ViewInfo :=
  match r.reflowChanged id with
  | (r, .error e) => (r, .error e)
  | (r, .ok ()) => (r, r.viewInfo id)

/-- Replace the arrangement of a view (Rust `update_view_inner`). -/
def updateView (selector : String) (expectedRevision : Nat) (layout : ViewLayout) : Outcome ViewInfo :=
  let plan : Res SessionError (String × ViewLayout) := do
    (layout.validateLayout 0).mapErr .invalidView
    let root ← r.root selector
    Res.require (root.view.revision = expectedRevision)
      (.invalidView "view changed; reload before editing")
    let layout ← (layout.preserveLayoutWeights root.view.layout).mapErr .invalidView
    let expected := root.view.layout.terminalIds
    let ids := layout.terminalIds
    Res.require (ids.length = expected.dedup.length ∧ ids.dedup.length = ids.length ∧
      ∀ id ∈ ids, id ∈ expected)
      (.invalidView "layout must contain each owned terminal exactly once")
    let _ ← (layout.paneGeometry root.view.canvasSize).mapErr .invalidView
    return (root.id, layout)
  match plan with
  | .error e => (r, .error e)
  | .ok (id, layout) => (r.editView id (relayout layout)).replyChanged id

def renamed (name : String) (session : Session) : Session :=
  { session with name, view := { session.view with revision := session.view.revision + 1 } }

def withOwnerName (name : String) (terminal : Terminal) : Terminal :=
  { terminal with owner := { terminal.owner with name } }

def withOwner (terminal : Terminal) : Terminal := { terminal with owner }

/-- Check the length and the characters of a name (Rust `validate_session_name`). -/
def validateSessionName (name : String) : Res String Unit := do
  Res.require (0 < name.utf8ByteSize ∧ name.utf8ByteSize ≤ 64)
    "session names must contain between 1 and 64 bytes"
  Res.require (name.toList.all fun c => c.isAlphanum || c = '-' || c = '_' || c = '.')
    "session names may contain only ASCII letters, digits, '-', '_', and '.'"

/-- Give a session another name (Rust `rename_inner`). -/
def rename (r : Registry) (selector name : String) : Outcome Unit :=
  let plan : Res SessionError (Option Session) := do
    (validateSessionName name).mapErr .invalidName
    let root ← r.root selector
    Res.require (¬ root.closing) (.invalidView "session is terminating")
    Res.require (¬ root.view.layout.terminalIds.any fun id => (r.terminal? id).any (·.managed))
      (.invalidView "managed task sessions cannot be renamed")
    if root.name = name then return none
    Res.require (name ∉ r.pendingNames ∧
      ¬ r.sessions.any fun session => session.id ≠ root.id ∧ session.name = name)
      (.alreadyExists name)
    return some root
  match plan with
  | .error e => (r, .error e)
  | .ok none => (r, .ok ())
  | .ok (some root) =>
    let r := r.editSession root.id (renamed name)
    (r.editTerminals root.view.layout.terminalIds (withOwnerName name), .ok ())

def checkMerge (session : Session) : Res SessionError Unit := do
  Res.require (¬ session.closing) (.invalidView "session is terminating")
  Res.require (¬ session.view.layout.terminalIds.any fun id => (r.terminal? id).any (·.managed))
    (.invalidView "managed task sessions cannot be merged")

def mergeOwner (destination : Session) : TerminalOwner where
  createdAtMs := ((destination.view.layout.firstTerminal.bind r.terminal?).map
    (·.owner.createdAtMs)).getD 0
  sessionId := destination.id
  viewId := destination.view.id
  name := destination.name

/-- Move the terminals of a session behind those of another one (Rust `merge_sessions_inner`). -/
def mergeSessions (source destination : String) : Outcome ViewInfo :=
  let plan : Res SessionError (Session × Session × ViewLayout) := do
    let source ← r.root source
    let destination ← r.root destination
    Res.require (source.id ≠ destination.id) (.invalidView "cannot merge a session into itself")
    r.checkMerge source
    r.checkMerge destination
    let layout := .split .horizontal [destination.view.layout, source.view.layout] []
    (layout.validateLayout 0).mapErr .invalidView
    let _ ← (layout.paneGeometry destination.view.canvasSize).mapErr .invalidView
    return (source, destination, layout)
  match plan with
  | .error e => (r, .error e)
  | .ok (source, destination, layout) =>
    let owner := r.mergeOwner destination
    let r := { r with sessions := AList.erase source.id r.sessions }
    let r := r.editView destination.id (relayout layout)
    let r := r.editTerminals source.view.layout.terminalIds (withOwner owner)
    r.replyChanged destination.id

/-- Mark a session as closing and return its terminals (Rust `begin_termination_inner`). -/
def beginTermination (selector : String) : Outcome (List String) :=
  match r.root selector with
  | .error e => (r, .error e)
  | .ok root => (r.editSession root.id fun session => { session with closing := true },
      .ok (root.view.layout.terminalIds.filter (· ∈ r.terminals)))

/-! ### Opening, joining and leaving sessions -/

/-- The owner and the layout of a new terminal beside another one (Rust `plan_split`). -/
def planSplit (targetId newId : String) (axis : SplitAxis) :
    Res SessionError (TerminalOwner × ViewLayout) := do
  let target ← Res.ofOption (r.terminal? targetId) (.notFound targetId)
  Res.require (¬ target.managed) (.invalidView "managed task terminals cannot be split")
  let root ← Res.orPanic (AList.lookup target.owner.sessionId r.sessions)
  Res.require (¬ root.closing) (.invalidView "session is terminating")
  let layout := root.view.layout.splitTerminal targetId newId axis
  (layout.validateLayout 0).mapErr .invalidView
  let _ ← (layout.paneGeometry root.view.canvasSize).mapErr .invalidView
  return (target.owner, layout)

def insertTerminal (terminal : Terminal) : Registry :=
  { r with heap := AList.insert id terminal r.heap, terminals := id :: r.terminals }

def releaseName (name : String) : Registry :=
  { r with pendingNames := r.pendingNames.filter (· ≠ name) }

def newSession (canvasSize : TerminalSize) :
    Session where
  closing := false
  id := owner.sessionId
  name := owner.name
  view := {
    id := owner.viewId
    revision := 0
    layout := .terminal terminalId
    canvasSize
    zoomedTerminalId := none
    leases := .default }

def openSession (canvasSize : TerminalSize) : Registry :=
  { r with
    sessions := AList.insert owner.sessionId (newSession terminalId owner canvasSize) r.sessions }

/-- Commit a reservation for a new session (Rust `NameReservation::commit` without a placement). -/
def commitSession (terminal : Terminal) : Registry :=
  let r := r.releaseName terminal.owner.name
  (r.openSession id terminal.owner terminal.terminalSize).insertTerminal id terminal

/-- Commit a reservation for a terminal beside another one (Rust `NameReservation::commit` with a
    placement). -/
def commitSplit (terminal : Terminal) (targetId : String) (axis : SplitAxis) : Outcome Unit :=
  let r := r.releaseName terminal.owner.name
  match r.planSplit targetId id axis with
  | .error e => (r, .error e)
  | .ok (owner, layout) =>
    let r := r.editView owner.sessionId (relayout layout)
    let r := r.insertTerminal id (withOwner owner terminal)
    r.reflowChanged owner.sessionId

def releaseAttachments (terminal : Terminal) (leases : AttachmentLeaseRegistry) : AttachmentLeaseRegistry :=
  terminal.attachments.entries.foldl (fun leases entry =>
    leases.releaseAttachment entry.2.attachmentId) leases

def moveTerminal (canvasSize : TerminalSize) : Registry :=
  let r := r.editTerminal id (withOwner owner)
  (r.openSession id owner canvasSize).releaseName owner.name

/-- Move a pane into a session of its own, with a reserved name (Rust `break_pane_inner`). The result
    is a reply once the move is made and the reservation is spent, even if that reply is an error. -/
def breakPane (target : PaneTarget) (newOwner : TerminalOwner) : Outcome (Res SessionError (ViewInfo × ViewInfo)) :=
  let plan : Res SessionError (String × Session × ViewLayout) := do
    let (owner, root) ← r.attachedPaneTarget self attachmentId target
    Res.require (2 ≤ root.view.layout.terminalIds.length)
      (.invalidView "session has only one pane")
    let remaining ← Res.orPanic (root.view.layout.removeTerminal target.terminalId)
    let _ ← (remaining.paneGeometry root.view.canvasSize).mapErr .invalidView
    return (owner, root, remaining)
  match plan with
  | .error e => (r, .error e)
  | .ok (sourceId, root, remaining) =>
    match r.tryView sourceId root.view (r.captureViewGeometry root.view) (relayout remaining) with
    | (r, .error e) => (r, .error e)
    | (r, .ok ()) =>
      match r.terminal? target.terminalId with
      | none => (r, .panic)
      | some terminal =>
        let r := r.editView sourceId fun view =>
          { view with leases := releaseAttachments terminal view.leases }
        let r := r.moveTerminal target.terminalId newOwner terminal.terminalSize
        (r, .ok do
          let view ← r.viewInfo newOwner.sessionId
          let source ← r.viewInfo sourceId
          return (view, source))

/-- Take a terminal out of its view; a session without terminals ends (Rust `detach_terminal`). -/
def detachTerminal : Registry :=
  match r.terminal? id with
  | none => r
  | some terminal =>
    let ownerId := terminal.owner.sessionId
    let r := match AList.lookup ownerId r.sessions with
      | none => r
      | some session =>
        match session.view.layout.removeTerminal id with
        | some layout => r.editView ownerId fun view =>
          relayout layout { view with leases := releaseAttachments terminal view.leases }
        | none => { r with sessions := AList.erase ownerId r.sessions }
    (r.reflowView ownerId).1

/-- Forget a terminal (Rust `remove_terminal`). -/
def removeTerminal : Registry :=
  let r := r.detachTerminal id
  { r with terminals := r.terminals.filter (· ≠ id) }

/-- Move a terminal into a session of its own, with a reserved name (Rust `promote_terminal_inner`);
    the result is as for `breakPane`. -/
def promoteTerminal (newOwner : TerminalOwner) : Outcome (Res SessionError ViewInfo) :=
  let plan : Res SessionError Unit := do
    let terminal ← Res.ofOption (r.terminal? terminalId) (.notFound terminalId)
    Res.require (¬ terminal.managed) (.invalidView "managed task terminals cannot be moved")
    let root ← Res.orPanic (AList.lookup terminal.owner.sessionId r.sessions)
    Res.require (¬ root.closing) (.invalidView "session is terminating")
    Res.require (root.view.layout.terminalIds.length ≠ 1)
      (.invalidView "terminal is already the only terminal in its session")
  match plan with
  | .error e => (r, .error e)
  | .ok () =>
    let r := r.detachTerminal terminalId
    match r.terminal? terminalId with
    | none => (r, .panic)
    | some terminal =>
      let r := r.moveTerminal terminalId newOwner terminal.terminalSize
      (r, .ok (r.viewInfo newOwner.sessionId))

/-- The child of a terminal has ended (Rust `publish_ended`). -/
def publishEnded (exitCode : Option Nat) : Registry :=
  r.editTerminal id fun terminal => { terminal with
    lifecycle := if terminal.lifecycle = .running then .ended exitCode else terminal.lifecycle }

end Registry

end Ctl.Daemon
