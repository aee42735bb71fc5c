import Ctl.Base.Effects
import Ctl.Base.System
import Ctl.Base.Table
import Mathlib.Data.Finset.Basic
import Mathlib.Data.List.Sort

/-!
# Local port forwards

Model of `ForwardRegistry` in `ctl/daemon/src/port_forwarding.rs` over a `ForwardControl`. The control
is an environment that answers each await point of an operation by its number, or drops the future
there. A change that is answered with success has made or removed its listener; one that fails or is
dropped has not. The records are in no order: an operation visits them in any order that it is given.
Targets are of any type, since the registry only compares them.
-/

namespace Ctl.Forward.Ports
open Ctl.Base

/-- Rust `PortForwardProtocol`. -/
inductive PortForwardProtocol
  | tcp
  | udp
  | any
  deriving DecidableEq

/-- A forwarding rule (Rust `LocalPortForward`). -/
structure LocalPortForward where
  forwardId : String
  protocol : PortForwardProtocol
  bindAddress : String
  localPort : Nat
  remoteHost : String
  remotePort : Nat
  deriving DecidableEq

/-- Rust `PortForwardState`. -/
inductive PortForwardState
  | waitingForAuthentication
  | active
  | error
  deriving DecidableEq

/-- Rust `PortForwardStatus`. -/
structure PortForwardStatus where
  forward : LocalPortForward
  state : PortForwardState
  message : Option String
  deriving DecidableEq

/-- Rust `waiting_status`. -/
def waitingStatus (forward : LocalPortForward) : PortForwardStatus :=
  ⟨forward, .waitingForAuthentication, some "Connect this host to activate the forward."⟩

/-- Rust `forward_status`, with the text of the error. -/
def forwardStatus (forward : LocalPortForward) : Except String Unit → PortForwardStatus
  | .ok () => ⟨forward, .active, none⟩
  | .error e => ⟨forward, .error, some e⟩

variable {Target : Type} [DecidableEq Target]

/-- A forward with its owner (Rust `OwnedForward`). -/
structure OwnedForward (Target : Type) where
  target : Target
  status : PortForwardStatus
  listenerPresent : Bool
  deriving DecidableEq

/-- Ghost: a call of `change`, with what held when it was made. -/
structure Attempt (Target : Type) where
  target : Target
  forward : LocalPortForward
  cancel : Bool
  paused : Bool
  /-- The listener existed. -/
  existed : Bool

/-- The registry (Rust `ForwardRegistry`) and the listeners that exist. -/
structure World (Target : Type) where
  records : Table String (OwnedForward Target)
  paused : Finset Target
  listeners : Finset (Target × LocalPortForward)
  /-- Ghost: the calls of `change`, the last one first. -/
  attempts : List (Attempt Target)
  /-- Ghost: the await points that the operation has passed. -/
  asked : Nat

/-- What the control answers at an await point; nothing, when the future is dropped there. -/
structure Env where
  ready : Nat → Option Bool
  check : Nat → Option (Except String Unit)
  change : Nat → Option (Except String Unit)

/-- How an operation ends early. -/
inductive Exit
  | dropped
  | failed (error : String)

abbrev Operation (Target : Type) := ExceptT Exit (StateM (World Target))

def await {α : Type} (answer : Nat → Option α) : Operation Target α := do
  let n := (← get).asked
  modify fun w => { w with asked := w.asked + 1 }
  match answer n with
  | some a => return a
  | none => throw .dropped

section
variable (env : Env)

/-- Rust `ForwardControl::is_ready`. -/
def isReady (_ : Target) : Operation Target Bool := await env.ready

/-- Rust `ForwardControl::check`. -/
def check (_ : Target) (_ : LocalPortForward) : Operation Target (Except String Unit) :=
  await env.check

def changed (listeners : Finset (Target × LocalPortForward)) (target : Target)
    (forward : LocalPortForward) (cancel : Bool) : Finset (Target × LocalPortForward) :=
  if cancel then listeners.erase (target, forward) else insert (target, forward) listeners

variable (target : Target) (forward : LocalPortForward) (order : List String) (enabled : Bool) (id : String)
  (record : OwnedForward Target)

/-- Rust `ForwardControl::change`. -/
def change (cancel : Bool) :
    Operation Target (Except String Unit) := do
  modify fun w => { w with
    attempts := ⟨target, forward, cancel, target ∈ w.paused, (target, forward) ∈ w.listeners⟩ ::
      w.attempts }
  let result ← await env.change
  if let .ok () := result then
    modify fun w => { w with listeners := changed w.listeners target forward cancel }
  return result

def setRecord (forwardId : String) (record : OwnedForward Target) : Operation Target Unit :=
  modify fun w => { w with records := AList.insert forwardId record w.records }

/-- The listener of a record is the one that `configure` asks for. -/
def isSame (paused : Finset Target) (target : Target) (forward : LocalPortForward) (enabled : Bool) : Bool :=
  enabled && target ∉ paused && record.target = target && record.status.forward = forward

/-- The condition of `configure` for a listener that stays. -/
def stillServes (target : Target) (forward : LocalPortForward) (enabled : Bool) : Operation Target Bool := do
  if isSame record (← get).paused target forward enabled then
    if ← isReady env record.target then
      return (← check env record.target record.status.forward).isOk
    else return false
  else return false

/-- The part of `configure` about the listener of the forward: its status, if it stays. -/
def release :
    Operation Target (Option PortForwardStatus) := do
  match AList.lookup forward.forwardId (← get).records with
  | none => return none
  | some record =>
    if record.listenerPresent then
      if ← stillServes env record target forward enabled then
        let status := forwardStatus record.status.forward (.ok ())
        setRecord forward.forwardId { record with status }
        return some status
      else
        match ← change env record.target record.status.forward true with
        | .ok () => return none
        | .error e => throw (.failed e)
    else return none

/-- The status of a new listener in `configure`. -/
def newStatus :
    Operation Target PortForwardStatus := do
  if target ∈ (← get).paused then return waitingStatus forward
  else if ← isReady env target then
    return forwardStatus forward (← change env target forward false)
  else return waitingStatus forward

/-- The rest of `configure`. -/
def install :
    Operation Target PortForwardStatus := do
  if enabled then
    let status ← newStatus env target forward
    setRecord status.forward.forwardId ⟨target, status, status.state = .active⟩
    return status
  else
    modify fun w => { w with records := AList.erase forward.forwardId w.records }
    return ⟨forward, .waitingForAuthentication, none⟩

/-- Rust `configure`. -/
def configure :
    Operation Target PortForwardStatus := do
  match ← release env target forward enabled with
  | some status => return status
  | none => install env target forward enabled

def visit (f : String → OwnedForward Target → Operation Target Unit) :
    List String → Operation Target Unit
  | [] => return ()
  | id :: ids => do
    if let some record := AList.lookup id (← get).records then f id record
    visit f ids

/-- Cancel the listener of a record that has one (the body of the loop of `shutdown`): whether none is
    left. -/
def shutdownRecord : Operation Target Bool := do
  if record.listenerPresent then
    match ← change env record.target record.status.forward true with
    | .ok () =>
      setRecord id { record with listenerPresent := false }
      return true
    | .error _ => return false
  else return true

/-- Rust `shutdown`. -/
def shutdown : List String → Operation Target Bool
  | [] => return true
  | id :: ids => do
    let released ← match AList.lookup id (← get).records with
      | some record => shutdownRecord env id record
      | none => pure true
    let complete ← shutdown ids
    return released && complete

/-- The body of the loop of `list`. -/
def listRecord (ready : Bool) (id : String) (record : OwnedForward Target) :
    Operation Target Unit := do
  if record.target = target then
    if !ready then setRecord id { record with status := waitingStatus record.status.forward }
    else if record.listenerPresent then
      let result ← check env target record.status.forward
      setRecord id { record with status := forwardStatus record.status.forward result }

/-- Rust `list`. -/
def list : Operation Target (List PortForwardStatus) := do
  let ready ← if target ∈ (← get).paused then pure false else isReady env target
  visit (listRecord env target ready) order
  let records := ((← get).records.entries.map (·.2)).filter (·.target = target)
  return (records.map (·.status)).insertionSort (·.forward.forwardId ≤ ·.forward.forwardId)

/-- The body of the loop of `activate`. -/
def activateRecord :
    Operation Target Unit := do
  if record.target = target ∧ record.listenerPresent = false then
    let result ← change env target record.status.forward false
    setRecord id { record with
      listenerPresent := result.isOk
      status := forwardStatus record.status.forward result }

/-- Rust `activate`. -/
def activate : Operation Target Unit := do
  if target ∈ (← get).paused then return ()
  else visit (activateRecord env target) order

/-- Rust `pause`. -/
def pause : Operation Target Unit := do
  modify fun w => { w with paused := insert target w.paused }
  visit (fun id record => do
    if record.target = target then
      setRecord id { record with status := waitingStatus record.status.forward }) order

/-- The body of the loop of `disconnect`. -/
def disconnectRecord :
    Operation Target Unit := do
  if record.target = target ∧ record.listenerPresent = true then
    match ← change env target record.status.forward true with
    | .ok () => setRecord id { record with listenerPresent := false }
    | .error e => throw (.failed e)

/-- Rust `disconnect`. -/
def disconnect : Operation Target Unit := do
  pause target order
  visit (disconnectRecord env target) order

/-- Rust `resume`. -/
def resume : Operation Target Unit :=
  modify fun w => { w with paused := w.paused.erase target }

/-- The master of a target is replaced, which drops its listeners, and the registry is told (Rust
    `master_replaced`). -/
def masterReplaced : Operation Target Unit := do
  modify fun w => { w with listeners := w.listeners.filter (·.1 ≠ target) }
  visit (fun id record => do
    if record.target = target then
      setRecord id { record with
        listenerPresent := false
        status := waitingStatus record.status.forward }) order

end

/-! ### Runs -/

/-- The operations on the registry. -/
inductive Call (Target : Type)
  | configure (target : Target) (forward : LocalPortForward) (enabled : Bool)
  | activate (target : Target)
  | list (target : Target)
  | pause (target : Target)
  | resume (target : Target)
  | disconnect (target : Target)
  | masterReplaced (target : Target)
  | shutdown

def withoutResult {α : Type} (x : Operation Target α) : Operation Target Unit := do let _ ← x

def Call.operation (env : Env) (order : List String) : Call Target → Operation Target Unit
  | .configure target forward enabled => withoutResult (Ports.configure env target forward enabled)
  | .activate target => Ports.activate env target order
  | .list target => withoutResult (Ports.list env target order)
  | .pause target => Ports.pause target order
  | .resume target => Ports.resume target
  | .disconnect target => Ports.disconnect env target order
  | .masterReplaced target => Ports.masterReplaced target order
  | .shutdown => withoutResult (Ports.shutdown env order)

/-- An operation with what the control answers, and the order of the records. -/
structure Action (Target : Type) where
  call : Call Target
  env : Env
  order : List String

def step (w : World Target) (action : Action Target) : Option (World Target) :=
  if action.order.Perm w.records.keys then
    some (perform (action.call.operation action.env action.order) { w with asked := 0 }).2
  else none

/-- Nothing is registered. -/
def Initial (w : World Target) : Prop :=
  w.records = ∅ ∧ w.listeners = ∅ ∧ w.attempts = []

end Ctl.Forward.Ports
