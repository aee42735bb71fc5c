import Ctl.Base.Table
import Ctl.Task.Requests

/-!
# Interactive runs across two daemons

Model of ctl-taskd and ctmuxd as two parties: `reconcile_one`, `release_outcome`, `start_interactive`
and `stop_interactive` of `task/daemon/src/interactive.rs` with `State::load`, and `manage` of
`ctmux/daemon/src/session.rs`. A request of ctl-taskd holds the mutation lock, so there is one point
where it waits. Every exchange is a message of its own with its own answer: the message may be lost,
and it may be delivered long after ctl-taskd has given up, also to another instance of ctmuxd.

Either daemon may crash between any two steps. The endpoint is unavailable when no ctmuxd runs.
-/

namespace Ctl.Task.Managed
open Ctl.Base
open Ctl.Task.Requests (executionDefinition recovered redefined started)

/-! ### ctmuxd -/

/-- The key of a managed run. -/
@[ext]
structure RunKey where
  taskId : String
  runId : String
  deriving DecidableEq

/-- A request to ctmuxd (Rust `LocalControlClientMessage::ManageSession`). -/
structure Message where
  call : Nat
  expectedInstance : Option String
  key : RunKey
  operation : ManagedOperation

/-- Rust `SessionLifecycle`. -/
inductive Lifecycle
  | running
  | ended (exitCode : Option Nat)
  deriving DecidableEq

structure Terminal where
  key : RunKey
  /-- The ctmuxd that created it. -/
  instanceId : String
  sessionId : String
  lifecycle : Lifecycle
  deriving DecidableEq

abbrev Terminals := OrdMap String Terminal

abbrev ManagedRuns := Table RunKey (Option String)

/-- A ctmuxd that serves the endpoint. -/
structure Ctmuxd where
  instanceId : String
  draining : Bool
  managed : ManagedRuns

/-- What becomes of `create_terminal`. -/
inductive Creation
  | created (terminalId sessionId : String)
  | failed (message : String)
  /-- An error after the process was spawned. -/
  | leaked (terminalId sessionId message : String)

def Creation.isFresh (terminals : Terminals) : Creation → Bool
  | .created terminalId _ | .leaked terminalId _ _ => terminals[terminalId]?.isNone
  | .failed _ => true

def MANAGED_CAPACITY : Nat := 4096

def isRunning (terminals : Terminals) (terminalId : String) : Bool :=
  terminals[terminalId]?.any (·.lifecycle = .running)

/-- Rust `ManagedSessionInfo` of a terminal. -/
def Terminal.info (terminal : Terminal) : ManagedSessionInfo :=
  match terminal.lifecycle with
  | .running => ⟨terminal.sessionId, true, none⟩
  | .ended exitCode => ⟨terminal.sessionId, false, exitCode⟩

def sessionInfo (managed : ManagedRuns) (terminals : Terminals) (key : RunKey) : Option ManagedSessionInfo :=
  match AList.lookup key managed with
  | some (some terminalId) => terminals[terminalId]?.map Terminal.info
  | _ => none

/-- The operations of `manage`. A kill is a signal; the end of the process comes later. -/
def operate (instanceId : String) (creation : Creation) (killError : Option String)
    (managed : ManagedRuns) (terminals : Terminals) (key : RunKey) :
    ManagedOperation → Except String Unit × ManagedRuns × Terminals
  | .start .. =>
    match AList.lookup key managed with
    | none =>
      match creation with
      | .created terminalId sessionId =>
        (.ok (), AList.insert key (some terminalId) managed,
          terminals.insert terminalId ⟨key, instanceId, sessionId, .running⟩)
      | .failed message => (.error message, managed, terminals)
      | .leaked terminalId sessionId message =>
        (.error message, managed,
          terminals.insert terminalId ⟨key, instanceId, sessionId, .running⟩)
    | some none => (.error "this managed run has already been retired", managed, terminals)
    | some (some _) => (.ok (), managed, terminals)
  | .stop =>
    match AList.lookup key managed with
    | some (some terminalId) =>
      match killError with
      | some e => (if isRunning terminals terminalId then .error e else .ok (), managed, terminals)
      | none => (.ok (), managed, terminals)
    | _ => (.ok (), AList.insert key none managed, terminals)
  | .release =>
    if (AList.lookup key managed).join.any (isRunning terminals) then
      (.error "stop a managed session before releasing its outcome", managed, terminals)
    else (.ok (), AList.insert key none managed, terminals)
  | .status => (.ok (), managed, terminals)

/-- Rust `manage`. -/
def manage (ctmuxd : Ctmuxd) (creation : Creation) (killError : Option String) (terminals : Terminals)
    (message : Message) : Except String (Option ManagedSessionInfo) × ManagedRuns × Terminals :=
  let unchanged := fun error => (.error error, ctmuxd.managed, terminals)
  if message.expectedInstance.any (· ≠ ctmuxd.instanceId) then unchanged "ctmuxd instance changed"
  else if message.operation ≠ .status ∧ message.expectedInstance = none then
    unchanged "mutations require a pinned ctmuxd instance"
  else if AList.lookup message.key ctmuxd.managed = none ∧ message.operation ≠ .status ∧
      MANAGED_CAPACITY ≤ ctmuxd.managed.keys.length then
    unchanged "managed run capacity reached; restart ctmuxd after stopping tasks"
  else
    let (result, managed, terminals) :=
      operate ctmuxd.instanceId creation killError ctmuxd.managed terminals message.key
        message.operation
    (result.map fun _ => sessionInfo managed terminals message.key, managed, terminals)

/-- The answer of a ctmuxd to a request (Rust `run_while_accepting`). -/
def serve (ctmuxd : Ctmuxd) (creation : Creation) (killError : Option String)
    (terminals : Terminals) (message : Message) : Exchanged × ManagedRuns × Terminals :=
  if ctmuxd.draining then
    (.error (.refused "ctmuxd is draining for a cooperative restart"), ctmuxd.managed, terminals)
  else
    match manage ctmuxd creation killError terminals message with
    | (.ok session, managed, terminals) => (.ok (ctmuxd.instanceId, session), managed, terminals)
    | (.error e, managed, terminals) => (.error (.refused e), managed, terminals)

/-! ### ctl-taskd -/

/-- What holds the mutation lock. -/
inductive Job
  /-- A round of `reconcile_interactive` for a task. -/
  | reconcile
  /-- `start_interactive` before its run is durable. -/
  | start (definition : TaskDefinition)
  /-- `start_interactive` after that. -/
  | started
  /-- `stop_interactive` for the run that was active. -/
  | stop (runId : String)
  | remove

/-- Why ctl-taskd asks ctmuxd. -/
inductive Purpose
  /-- The `Status` of `release_outcome`. -/
  | outcome
  | release
  /-- The `Status` of `start_interactive`. -/
  | pin (definition : TaskDefinition)
  /-- The `Status` of `reconcile_one`. -/
  | status
  | operate (operation : ManagedOperation)
  deriving DecidableEq

def Purpose.operation : Purpose → ManagedOperation
  | .outcome | .pin _ | .status => .status
  | .release => .release
  | .operate operation => operation

/-- A call of `exchange` with the task, its run and the terminal of the run. -/
structure Exchange where
  purpose : Purpose
  task : TaskInfo
  run : RunInfo
  backend : InteractiveRun

def Exchange.key (e : Exchange) : RunKey := ⟨e.task.taskId, e.run.runId⟩

def Exchange.message (e : Exchange) (call : Nat) : Message where
  call
  expectedInstance :=
    if e.purpose.operation = .status then none else some e.backend.instanceId
  key := e.key
  operation := e.purpose.operation

/-- Where a job is. -/
inductive Phase
  | connecting (e : Exchange)
  | waiting (e : Exchange) (call : Nat)
  /-- `start_interactive` is about to make a run. -/
  | intending
  /-- `remove` is about to remove the task. -/
  | removing
  /-- `stop_interactive` is between two polls. -/
  | polling

/-- The point of the job that holds the mutation lock. -/
structure Point where
  job : Job
  taskId : String
  phase : Phase

structure Taskd where
  tasks : Tasks
  point : Option Point

structure Pin where
  taskId : String
  instanceId : String

/-- Both daemons, the file of ctl-taskd, what is under way between them, and all processes. -/
structure World where
  taskd : Option Taskd
  file : Tasks
  ctmuxd : Option Ctmuxd
  requests : List Message
  replies : List (Nat × Exchanged)
  nextCall : Nat
  terminals : Terminals
  /-- Ghost: all instances of ctmuxd that ever ran. -/
  instances : List String
  /-- Ghost: the pins of the runs that were made durable. -/
  pins : OrdMap String Pin
  /-- Ghost: the runs for which `stop_interactive` has returned `Ok`, and the released ones. -/
  closed : List String

variable (w : World) (tasks : Tasks) (persistError : Option String) (job : Job) (taskId : String) (e : Exchange)

def World.goTo (point : Option Point) : World :=
  { w with taskd := some ⟨tasks, point⟩ }

/-- The job goes on after `reconcile_one` or `release_outcome`. -/
def World.returned :
    Except RequestError Unit → World
  | .error _ => w.goTo tasks none
  | .ok () =>
    match job with
    | .reconcile | .started => w.goTo tasks none
    | .start _ => w.goTo tasks (some ⟨job, taskId, .intending⟩)
    | .remove => w.goTo tasks (some ⟨job, taskId, .removing⟩)
    | .stop runId =>
      match resolveTask tasks taskId with
      | .error _ => w.goTo tasks none
      | .ok task =>
        if task.activeRun.isNone then
          { w with closed := runId :: w.closed }.goTo tasks none
        else w.goTo tasks (some ⟨job, taskId, .polling⟩)

/-- Rust `release_outcome` up to its first exchange. -/
def World.releaseOutcome : World :=
  match resolveTask tasks taskId with
  | .error e => w.returned tasks job taskId (.error e)
  | .ok task =>
    match task.activeRun, task.lastRun with
    | none, some run =>
      match run.interactive with
      | some backend =>
        if backend.released then w.returned tasks job taskId (.ok ())
        else w.goTo tasks (some ⟨job, taskId, .connecting ⟨.outcome, task, run, backend⟩⟩)
      | none => w.returned tasks job taskId (.ok ())
    | _, _ => w.returned tasks job taskId (.ok ())

/-- Rust `reconcile_one` up to its first exchange. -/
def World.reconcileOne : World :=
  match resolveTask tasks taskId with
  | .error e => w.returned tasks job taskId (.error e)
  | .ok task =>
    match task.activeRun with
    | none => w.releaseOutcome tasks job taskId
    | some run =>
      match run.interactive with
      | some backend => w.goTo tasks (some ⟨job, taskId, .connecting ⟨.status, task, run, backend⟩⟩)
      | none => w.returned tasks job taskId (.ok ())

/-- Rust `store_task`: the tasks after it. -/
def storeTask (task : TaskInfo) : Tasks :=
  match persistError, tasks[task.taskId]? with
  | some _, some previous => (tasks.insert task.taskId task).insert task.taskId previous
  | _, _ => tasks.insert task.taskId task

/-- The file after `persist_blocking`. -/
def World.persist : World :=
  match persistError with
  | some _ => w
  | none => { w with file := tasks }

/-- The result of `persist_blocking`. -/
def persisted : Except RequestError Unit :=
  match persistError with
  | some e => .error (.internal e)
  | none => .ok ()

/-- The end of `release_outcome`. -/
def World.storeReleased (persistError : Option String) : World :=
  let tasks := storeTask tasks persistError (e.task.releasing e.run e.backend)
  let closed := match persistError with
    | some _ => w.closed
    | none => e.run.runId :: w.closed
  ({ w with closed }.persist tasks persistError).returned tasks job taskId (persisted persistError)

/-- The end of `reconcile_one`. -/
def World.settle (persistError : Option String) (now : Nat) (verdict : Verdict) : World :=
  match conclude e.task e.run e.backend now verdict with
  | (none, result) => w.returned tasks job taskId result
  | (some task, result) =>
    let tasks := storeTask tasks persistError task
    (w.persist tasks persistError).returned tasks job taskId do persisted persistError; result

/-- The run of `start_interactive` with the instance that it is pinned to. -/
def Exchange.pinned (instanceId : String) : RunInfo :=
  { e.run with interactive := some { e.backend with instanceId } }

/-- `start_interactive` makes its run durable and goes on with `reconcile_one`. -/
def World.storeIntent (definition : TaskDefinition) (instanceId : String) (persistError : Option String) : World :=
  let task := e.task.intending definition (e.pinned instanceId)
  let tasks := storeTask tasks persistError task
  match persistError with
  | some _ => w.goTo tasks none
  | none =>
    { w with
      file := tasks
      pins := w.pins.insert e.run.runId ⟨task.taskId, instanceId⟩ }.reconcileOne
      tasks .started taskId

section
variable (home : Option String) (ctmuxSocket : String)

variable (w : World)

def World.answered (tasks : Tasks) (job : Job) (taskId : String) (e : Exchange) (persistError : Option String)
    (now : Nat) (result : Exchanged) : World :=
  match e.purpose with
  | .outcome =>
    match result with
    | .ok (observed, _) =>
      if observed = e.backend.instanceId then
        w.goTo tasks (some ⟨job, taskId, .connecting { e with purpose := .release }⟩)
      else w.storeReleased tasks job taskId e persistError
    | .error .gone => w.storeReleased tasks job taskId e persistError
    | .error error => w.returned tasks job taskId (.error (backendError error))
  | .release =>
    match result with
    | .ok _ => w.storeReleased tasks job taskId e persistError
    | .error error => w.returned tasks job taskId (.error (backendError error))
  | .pin definition =>
    match result with
    | .ok (observed, _) => w.storeIntent tasks taskId e definition observed persistError
    | .error _ => w.goTo tasks none
  | .status =>
    match afterStatus (executionDefinition home e.task.definition) e.task e.backend result with
    | .error error => w.returned tasks job taskId (.error error)
    | .ok (.operate operation) =>
      w.goTo tasks (some ⟨job, taskId, .connecting { e with purpose := .operate operation }⟩)
    | .ok verdict => w.settle tasks job taskId e persistError now verdict
  | .operate operation =>
    w.settle tasks job taskId e persistError now (afterOperation operation result)

/-! ### Steps -/

inductive Edit
  | update (definition : TaskDefinition)
  | startBackground (runId : String) (now : Nat)
  | finishBackground (stopped : Bool) (exitCode : Option Int) (now : Nat)

def Edit.apply (task : TaskInfo) : Edit → Option TaskInfo
  | .update definition => if task.activeRun.isSome then none else some (redefined task definition)
  | .startBackground runId now =>
    if task.activeRun.isSome ∨ task.definition.executionMode = .interactive then none
    else some (started task (startedRun task.definition runId now))
  | .finishBackground stopped exitCode now =>
    match task.activeRun with
    | some run =>
      if run.interactive.isSome then none
      else some (task.finished run (endState stopped exitCode) exitCode now)
    | none => none

def Edit.stays : Edit → Bool
  | .update _ => false
  | .startBackground .. | .finishBackground .. => true

def World.idle : Option Tasks :=
  match w.taskd with
  | some ⟨tasks, none⟩ => some tasks
  | _ => none

/-- The steps of both daemons and of what is between them. -/
inductive Action
  | loadTaskd (now : Nat)
  | crashTaskd
  /-- Rust `create`, where the task stays when it cannot be persisted, and `register`. -/
  | create (taskId : String) (definition : TaskDefinition) (persistError : Option String)
    (stays : Bool)
  | edit (taskId : String) (edit : Edit) (persistError : Option String)
  | reconcile (taskId : String)
  | start (selector : String)
  | stop (selector : String) (persistError : Option String)
  | remove (selector : String)
  /-- `start_interactive` makes a run with a new identifier. -/
  | intend (runId : String) (now : Nat)
  /-- The request of an exchange is sent. -/
  | connect
  /-- An exchange fails at ctl-taskd. -/
  | fail (error : BackendError) (persistError : Option String) (now : Nat)
  | answer (persistError : Option String) (now : Nat)
  /-- `stop_interactive` polls again. -/
  | poll
  /-- `stop_interactive` is past its deadline. -/
  | giveUp
  | erase (persistError : Option String)
  | lose (index : Nat)
  | deliver (index : Nat) (creation : Creation) (killError : Option String)
  | bootCtmuxd (instanceId : String)
  /-- ctmuxd ends, and its terminals are hung up. Some processes may survive that. -/
  | crashCtmuxd (survivors : List String)
  /-- A cooperative restart begins. -/
  | drain
  /-- A process ends. -/
  | exit (terminalId : String) (exitCode : Option Nat)
  /-- A terminal is moved to another session. -/
  | move (terminalId sessionId : String)

def hangUp (instanceId : String) (survivors : List String) (terminalId : String) (terminal : Terminal) : Terminal :=
  if terminal.instanceId = instanceId ∧ terminal.lifecycle = .running ∧ terminalId ∉ survivors then
    { terminal with lifecycle := .ended none }
  else terminal

def step : Action → Option World
  | .loadTaskd now =>
    match w.taskd with
    | some _ => none
    | none =>
      let tasks := w.file.map fun _ => recovered now
      some ((w.persist tasks none).goTo tasks none)
  | .crashTaskd => some { w with taskd := none }
  | .create taskId definition persistError stays => do
    let tasks ← w.idle
    if tasks[taskId]?.isSome then none
    else
      let changed := tasks.insert taskId ⟨taskId, definition, .stopped, none, none⟩
      let kept := if persistError.isSome ∧ ¬ stays then changed.erase taskId else changed
      some ((w.persist changed persistError).goTo kept none)
  | .edit taskId edit persistError => do
    let tasks ← w.idle
    let task ← tasks[taskId]?
    let changed := tasks.insert taskId (← edit.apply task)
    let kept := if persistError.isSome ∧ ¬ edit.stays then changed.insert taskId task else changed
    some ((w.persist changed persistError).goTo kept none)
  | .reconcile taskId => do
    let tasks ← w.idle
    if tasks[taskId]?.isNone then none else some (w.reconcileOne tasks .reconcile taskId)
  | .start selector => do
    let tasks ← w.idle
    let task ← (resolveTask tasks selector).toOption
    if task.activeRun.isSome ∨ task.definition.executionMode ≠ .interactive then none
    else
      let _ ← (executionDefinition home task.definition).toOption
      some (w.releaseOutcome tasks (.start task.definition) task.taskId)
  | .stop selector persistError => do
    let tasks ← w.idle
    let task ← (resolveTask tasks selector).toOption
    let run ← task.activeRun
    let changed := tasks.insert task.taskId { task with desiredState := .stopped }
    match persistError with
    | some _ => some (w.goTo (changed.insert task.taskId task) none)
    | none =>
      let w := { w with file := changed }
      if run.interactive.isSome then some (w.reconcileOne changed (.stop run.runId) task.taskId)
      else some (w.goTo changed none)
  | .remove selector => do
    let tasks ← w.idle
    let task ← (resolveTask tasks selector).toOption
    some (w.releaseOutcome tasks .remove task.taskId)
  | .intend runId now =>
    match w.taskd with
    | some ⟨tasks, some ⟨.start definition, taskId, .intending⟩⟩ => do
      let task ← (resolveTask tasks taskId).toOption
      if w.pins[runId]?.isSome then none
      else
        let run := intendedRun definition ctmuxSocket runId "" now
        some (w.goTo tasks (some ⟨.start definition, taskId,
          .connecting ⟨.pin definition, task, run, ⟨false, ctmuxSocket, "", none⟩⟩⟩))
    | _ => none
  | .connect =>
    match w.taskd, w.ctmuxd with
    | some ⟨tasks, some ⟨job, taskId, .connecting e⟩⟩, some _ =>
      some ({ w with
        requests := w.requests ++ [e.message w.nextCall]
        nextCall := w.nextCall + 1 }.goTo tasks (some ⟨job, taskId, .waiting e w.nextCall⟩))
    | _, _ => none
  | .fail error persistError now =>
    match w.taskd with
    | some ⟨tasks, some ⟨job, taskId, .connecting e⟩⟩ =>
      if error = .gone ∧ w.ctmuxd.isSome then none
      else some (w.answered home tasks job taskId e persistError now (.error error))
    | some ⟨tasks, some ⟨job, taskId, .waiting e _⟩⟩ =>
      match error with
      | .uncertain _ => some (w.answered home tasks job taskId e persistError now (.error error))
      | _ => none
    | _ => none
  | .answer persistError now =>
    match w.taskd with
    | some ⟨tasks, some ⟨job, taskId, .waiting e call⟩⟩ =>
      (w.replies.find? (·.1 = call)).map fun reply =>
        w.answered home tasks job taskId e persistError now reply.2
    | _ => none
  | .poll =>
    match w.taskd with
    | some ⟨tasks, some ⟨job, taskId, .polling⟩⟩ => some (w.reconcileOne tasks job taskId)
    | _ => none
  | .giveUp =>
    match w.taskd with
    | some ⟨tasks, some ⟨_, _, .polling⟩⟩ => some (w.goTo tasks none)
    | _ => none
  | .erase persistError =>
    match w.taskd with
    | some ⟨tasks, some ⟨_, taskId, .removing⟩⟩ => do
      let task ← (resolveTask tasks taskId).toOption
      if task.activeRun.isSome then some (w.goTo tasks none)
      else
        let tasks := tasks.erase task.taskId
        some ((w.persist tasks persistError).goTo tasks none)
    | _ => none
  | .lose index => some { w with requests := w.requests.eraseIdx index }
  | .deliver index creation killError => do
    let message ← w.requests[index]?
    let ctmuxd ← w.ctmuxd
    if creation.isFresh w.terminals then
      let (reply, managed, terminals) := serve ctmuxd creation killError w.terminals message
      some { w with
        ctmuxd := some { ctmuxd with managed }
        terminals
        requests := w.requests.eraseIdx index
        replies := w.replies ++ [(message.call, reply)] }
    else none
  | .bootCtmuxd instanceId =>
    if w.ctmuxd.isSome ∨ instanceId ∈ w.instances then none
    else some { w with
      ctmuxd := some ⟨instanceId, false, ∅⟩
      instances := instanceId :: w.instances }
  | .crashCtmuxd survivors => do
    let ctmuxd ← w.ctmuxd
    some { w with
      ctmuxd := none
      terminals := w.terminals.map (hangUp ctmuxd.instanceId survivors) }
  | .drain => do
    let ctmuxd ← w.ctmuxd
    if ctmuxd.draining then none
    else some { w with ctmuxd := some { ctmuxd with draining := true, managed := ∅ } }
  | .exit terminalId exitCode => do
    let terminal ← w.terminals[terminalId]?
    if terminal.lifecycle = .running then
      some { w with
        terminals := w.terminals.insert terminalId { terminal with lifecycle := .ended exitCode } }
    else none
  | .move terminalId sessionId => do
    let terminal ← w.terminals[terminalId]?
    some { w with terminals := w.terminals.insert terminalId { terminal with sessionId } }

end

def TaskInfo.isFresh (task : TaskInfo) : Bool :=
  !task.activeRun.any (·.interactive.isSome) && !task.lastRun.any (·.interactive.isSome)

/-- Nothing has happened: no daemon runs, and the file knows of no interactive run. -/
def Initial : Prop :=
  ∃ file : Tasks, w = ⟨none, file, none, [], [], 0, ∅, [], ∅, []⟩ ∧
    ∀ (id : String) (task : TaskInfo), file[id]? = some task →
      task.taskId = id ∧ TaskInfo.isFresh task = true

/-- No creation fails after it has spawned its process, and no process outlives its ctmuxd. -/
def Meets (_ : World) : Action → Prop
  | .deliver _ creation _ => ∀ terminalId sessionId message,
      creation ≠ .leaked terminalId sessionId message
  | .crashCtmuxd survivors => survivors = []
  | _ => True

instance (w : World) : ∀ action, Decidable (Meets w action)
  | .deliver _ (.leaked terminalId sessionId message) _ =>
    .isFalse fun sound => sound terminalId sessionId message rfl
  | .deliver _ (.created ..) _ | .deliver _ (.failed _) _ => .isTrue fun _ _ _ => nofun
  | .crashCtmuxd survivors => inferInstanceAs (Decidable (survivors = []))
  | .loadTaskd _ | .crashTaskd | .create .. | .edit .. | .reconcile _ | .start _ | .stop .. |
    .remove _ | .intend .. | .connect | .fail .. | .answer .. | .poll | .giveUp | .erase _ |
    .lose _ | .bootCtmuxd _ | .drain | .exit .. | .move .. => .isTrue trivial

end Ctl.Task.Managed
