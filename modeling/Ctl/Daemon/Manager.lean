import Ctl.Base.System
import Ctl.Daemon.Attachments

/-!
# The session manager

Model of `SessionManager` and `NameReservation` in `ctmux/daemon/src/session.rs` as a transition
system. Every section under the registry lock (or under one lock of a terminal) is one step; an
operation that takes several sections is a `Task` between them, and steps of different tasks
interleave in every order. Identifiers that the source draws at random are arguments of the steps,
guarded to be unused.

An operation that needs a session name goes through a reservation:

* `begin`: a split is planned once before its name is reserved;
* `reserve`: `NameReservation::acquire` or `acquire_automatic`;
* `abandon`: the terminal could not be spawned;
* `commit`: `NameReservation::commit`, or the locked rest of `break_pane_inner` and
  `promote_terminal_inner`;
* `drop`: the `Drop` of a reservation that is still active after an error.
-/

namespace Ctl.Daemon
open Ctl.Base Ctl.Proto Ctl.Core

/-! ### Names -/

namespace Registry

variable (r : Registry) (name : String)

def taken : Bool :=
  name ∈ r.pendingNames || r.sessions.any fun session => session.name = name

def holdName : Registry :=
  { r with pendingNames := name :: r.pendingNames }

/-- Reserve a given name (Rust `NameReservation::acquire`). -/
def acquireName : Outcome String :=
  if r.taken name then (r, .fail (.alreadyExists name)) else (r.holdName name, .ok name)

def automaticName (sequence : Nat) : String := "session-" ++ sequence.repr

/-- The number after another one (Rust `checked_add`). -/
def nextSequence (sequence : Nat) : Option Nat :=
  if sequence + 1 < 2 ^ 64 then some (sequence + 1) else none

/-- The loop of `acquire_automatic`, with the count of numbers that remain. -/
def searchAutomatic (r : Registry) : Nat → Nat → Outcome String
  | 0, _ => ({ r with nextAutomaticName := none }, .fail .automaticNameExhausted)
  | remaining + 1, sequence =>
    let candidate := automaticName sequence
    if r.taken candidate then searchAutomatic r remaining (sequence + 1)
    else (holdName { r with nextAutomaticName := nextSequence sequence } candidate, .ok candidate)

/-- Reserve the next automatic name that is free (Rust `acquire_automatic`). -/
def acquireAutomatic : Outcome String :=
  match r.nextAutomaticName with
  | none => (r, .fail .automaticNameExhausted)
  | some sequence => r.searchAutomatic (2 ^ 64 - sequence) sequence

/-- Reserve a requested or an automatic name (Rust `reserve_name`). -/
def reserveName : Option String → Outcome String
  | some name =>
    match (validateSessionName name).mapErr SessionError.invalidName with
    | .error e => (r, .error e)
    | .ok () => r.acquireName name
  | none => r.acquireAutomatic

end Registry

/-! ### Operations -/

/-- The operations that run in one section. -/
inductive Operation where
  | updateView (selector : String) (expectedRevision : Nat) (layout : ViewLayout)
  | swapPane (self attachmentId : String) (target : PaneTarget) (previous : Bool)
  | resizePane (self attachmentId terminalId : String) (direction : ResizeDirection)
      (amount : UInt16)
  | resizeDivider (self attachmentId : String) (divider : DividerResize)
  | setViewZoom (self attachmentId : String) (terminalId : Option String)
  | resize (self attachmentId : String) (size : TerminalSize)
  | rename (selector name : String)
  | mergeSessions (source destination : String)
  | beginTermination (selector : String)
  | publishEnded (id : String) (exitCode : Option Nat)
  | removeTerminal (id : String)

def Registry.perform (r : Registry) : Operation → Registry
  | .updateView selector expectedRevision layout =>
    (r.updateView selector expectedRevision layout).1
  | .swapPane self attachmentId target previous => (r.swapPane self attachmentId target previous).1
  | .resizePane self attachmentId terminalId direction amount =>
    (r.resizePane self attachmentId terminalId direction amount).1
  | .resizeDivider self attachmentId divider => (r.resizeDivider self attachmentId divider).1
  | .setViewZoom self attachmentId terminalId => (r.setViewZoom self attachmentId terminalId).1
  | .resize self attachmentId size => (r.resize self attachmentId size).1
  | .rename selector name => (r.rename selector name).1
  | .mergeSessions source destination => (r.mergeSessions source destination).1
  | .beginTermination selector => (r.beginTermination selector).1
  | .publishEnded id exitCode => r.publishEnded id exitCode
  | .removeTerminal id => r.removeTerminal id

/-- The operations that reserve a name. -/
inductive Request where
  /-- A new terminal in a session of its own (Rust `create` and `manage`). -/
  | create (name : Option String) (terminalId : String) (size : TerminalSize) (managed : Bool)
  /-- A new terminal beside another one (Rust `split_terminal_inner`). -/
  | split (targetId : String) (axis : SplitAxis) (terminalId : String) (size : TerminalSize)
  | breakPane (self attachmentId : String) (target : PaneTarget) (name : Option String)
  | promote (terminalId : String) (name : Option String)

namespace Request

def name : Request → Option String
  | create name .. => name
  | split .. => none
  | breakPane _ _ _ name => name
  | promote _ name => name

def spawned : Request → Option String
  | create _ terminalId .. => some terminalId
  | split _ _ terminalId _ => some terminalId
  | breakPane .. => none
  | promote .. => none

def plan (r : Registry) : Request → Res SessionError Unit
  | split targetId axis terminalId _ => do
    let _ ← r.planSplit targetId terminalId axis
  | _ => .ok ()

end Request

/-- A terminal whose child has just been spawned (the literal in `create_terminal_inner`). -/
def Terminal.spawn (owner : TerminalOwner) (terminalSize : TerminalSize) (managed : Bool) :
    Terminal where
  managed := managed
  owner := owner
  name := owner.name
  createdAtMs := owner.createdAtMs
  terminalSize := terminalSize
  lifecycle := .running
  leases := .default
  attachments := ∅

/-- An operation between two of its sections. -/
inductive Task where
  | planned (request : Request)
  | reserved (request : Request) (name : String)
  /-- An error is on its way out; `released` says that `commit` has already given the name back. -/
  | dropping (name : String) (released : Bool)
  /-- `create_attachment_inner`; `requested` says that the input lease has been requested. -/
  | opening (terminalId attachmentId : String) (input layout requested : Bool)
  /-- `close_attachment_inner` or `expire_attachment_inner`; `released` says that the input lease has
      been released. -/
  | closing (terminalId attachmentId : String) (released : Bool)

/-- What is left of an operation whose result is known: its reservation may still be active. -/
def leftover {α : Type} (name : String) (released : Bool) : Outcome α → Registry × Option Task
  | (r, .ok _) => (r, none)
  | (r, .error _) => (r, some (.dropping name released))

def Registry.commit (r : Registry) (owner : TerminalOwner) : Request → Registry × Option Task
  | .create _ terminalId size managed =>
    (r.commitSession terminalId (.spawn owner size managed), none)
  | .split targetId axis terminalId size =>
    leftover owner.name true (r.commitSplit terminalId (.spawn owner size false) targetId axis)
  | .breakPane self attachmentId target _ =>
    leftover owner.name false (r.breakPane self attachmentId target owner)
  | .promote terminalId _ => leftover owner.name false (r.promoteTerminal terminalId owner)

/-! ### The system -/

/-- The registry with the operations in progress. -/
structure World where
  registry : Registry
  tasks : Table Nat Task

/-- The steps of the system. -/
inductive Action where
  /-- The outcomes of the coming PTY resizes. -/
  | environment (pty : List (Option String))
  | perform (operation : Operation)
  | begin (task : Nat) (request : Request)
  | reserve (task : Nat)
  | abandon (task : Nat)
  | commit (task : Nat) (sessionId viewId : String) (now : Nat)
  | drop (task : Nat)
  | openAttachment (task : Nat) (self token attachmentId : String) (input layout : Bool)
  | resumeAttachment (self token : String)
  | suspendAttachment (self token : String) (generation : Nat)
  | closeAttachment (task : Nat) (self token : String) (generation : Nat) (expire : Bool)
  | acquireLease (self attachmentId : String) (lease : LeaseKind)
  | releaseLease (self attachmentId : String) (lease : LeaseKind)
  /-- The next section of an attachment that opens or closes. -/
  | advance (task : Nat)

namespace World

variable (w : World) (task : Nat)

/-- The system at the start of the daemon. -/
def Initial : Prop := w = ⟨.default, ∅⟩

def settle (registry : Registry) : Option Task → World
  | some next => ⟨registry, AList.insert task next w.tasks⟩
  | none => ⟨registry, AList.erase task w.tasks⟩

def launch (registry : Registry) (first : Task) : Option World :=
  if (AList.lookup task w.tasks).isNone then some (w.settle task registry (some first)) else none

/-- A session id that neither a session nor a terminal refers to, and a terminal id that is not in
    use. -/
def fresh (r : Registry) (sessionId : String) (spawned : Option String) : Bool :=
  (AList.lookup sessionId r.sessions).isNone &&
    !(r.heap.any fun terminal => terminal.owner.sessionId = sessionId) &&
    spawned.all fun id => (AList.lookup id r.heap).isNone

def reserve (w : World) (task : Nat) (request : Request) : World :=
  match w.registry.reserveName request.name with
  | (r, .ok name) => w.settle task r (some (.reserved request name))
  | (r, .error _) => w.settle task r none

def advance : Task → Option World
  | .opening self attachmentId input layout false =>
    some (w.settle task (w.registry.requestInput self attachmentId input)
      (some (.opening self attachmentId input layout true)))
  | .opening self attachmentId _ layout true =>
    some (w.settle task (w.registry.requestLayout self attachmentId layout) none)
  | .closing self attachmentId false =>
    some (w.settle task (w.registry.releaseInput self attachmentId)
      (some (.closing self attachmentId true)))
  | .closing self attachmentId true =>
    some (w.settle task (w.registry.releaseLayout self attachmentId) none)
  | _ => none

def step : Action → Option World
  | .environment pty => some { w with registry := { w.registry with pty } }
  | .perform operation => some { w with registry := w.registry.perform operation }
  | .begin task request =>
    match request.plan w.registry with
    | .ok () => w.launch task w.registry (.planned request)
    | .error _ => none
  | .reserve task =>
    match AList.lookup task w.tasks with
    | some (.planned request) => some (w.reserve task request)
    | _ => none
  | .abandon task =>
    match AList.lookup task w.tasks with
    | some (.reserved request name) =>
      if request.spawned.isSome then some (w.settle task w.registry (some (.dropping name false)))
      else none
    | _ => none
  | .commit task sessionId viewId now =>
    match AList.lookup task w.tasks with
    | some (.reserved request name) =>
      if fresh w.registry sessionId request.spawned then
        let (r, next) := w.registry.commit ⟨now, sessionId, viewId, name⟩ request
        some (w.settle task r next)
      else none
    | _ => none
  | .drop task =>
    match AList.lookup task w.tasks with
    | some (.dropping name _) => some (w.settle task (w.registry.releaseName name) none)
    | _ => none
  | .openAttachment task self token attachmentId input layout =>
    match AList.lookup self w.registry.heap with
    | some terminal =>
      if (AList.lookup token terminal.attachments).isNone then
        w.launch task (w.registry.insertAttachment self token attachmentId)
          (.opening self attachmentId input layout false)
      else none
    | none => none
  | .resumeAttachment self token =>
    some { w with registry := w.registry.resumeAttachment self token }
  | .suspendAttachment self token generation =>
    some { w with registry := w.registry.suspendAttachment self token generation }
  | .closeAttachment task self token generation expire =>
    match w.registry.removableAttachment self token generation expire with
    | some record => w.launch task (w.registry.removeAttachment self token)
        (.closing self record.attachmentId false)
    | none => none
  | .acquireLease self attachmentId lease =>
    some { w with registry := w.registry.acquireLease self attachmentId lease }
  | .releaseLease self attachmentId lease =>
    some { w with registry := w.registry.releaseLease self attachmentId lease }
  | .advance task =>
    match AList.lookup task w.tasks with
    | some current => w.advance task current
    | none => none

end World

end Ctl.Daemon
