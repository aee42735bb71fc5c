import Ctl.Base.Effects
import Ctl.Base.System
import Ctl.Task.Interactive

/-!
# The requests of the task daemon

Model of the requests of `task/daemon/src/lib.rs` that change tasks, of the functions of
`task/daemon/src/interactive.rs` that they use, and of `State::load`. Requests hold the mutation lock
and happen one after the other. The waiter of a background run finishes it between two requests, or
while a stop waits for it.

Everything that the daemon does not decide is in the parameter `Env`, by the number of questions that
were asked before. The file is the value that its JSON stands for.
-/

namespace Ctl.Task.Requests
open Ctl.Base
open Ctl.Proto (isControl)

/-- Rust `STATE_SCHEMA_VERSION`. -/
def STATE_SCHEMA_VERSION : Nat := 1

/-- The contents of the state file (Rust `StoredState`). -/
structure StoredState where
  schemaVersion : Nat
  tasks : List TaskInfo

/-- Where the daemon persists its tasks. -/
inductive Site
  | load
  | create
  | register
  | update
  | start
  | finish
  | stop
  | remove
  | store
  deriving DecidableEq

/-- A call of `persist_blocking`. -/
structure Attempt where
  site : Site
  succeeded : Bool

/-- The state of the daemon (Rust `State`) with its file. -/
structure Daemon where
  tasks : Tasks
  /-- The run that the handle of a task belongs to. -/
  runtimes : OrdMap String String
  file : Option StoredState
  /-- Ghost: the attempts to persist, the last one first. -/
  attempts : List Attempt
  /-- Ghost: the number of questions to the environment. -/
  asked : Nat

/-- What the daemon asks its environment for. -/
structure Env where
  /-- The error of an attempt to persist. -/
  persistError : Nat → Option String
  /-- The result of an exchange with ctmuxd. -/
  exchanged : Nat → Exchanged
  /-- The error of `connect_for_creation`. -/
  connectError : Nat → Option RequestError
  spawnError : Nat → Option String
  uuid : Nat → String
  now : Nat → Nat
  /-- The polls of `stop_interactive` before its deadline, after the first one. -/
  polls : Nat → Nat
  /-- The end of the process while a stop waits for it. -/
  ended : Nat → Option (Bool × Option Int)
  /-- The canonical form of a UUID, or the error of `Uuid::parse_str`. -/
  parseUuid : String → Except String String
  home : Option String
  ctmuxSocket : String

abbrev Request := ExceptT RequestError (StateM Daemon)

/-! ### Checks and paths -/

/-- Rust `validate_definition`. -/
def validateDefinition (definition : TaskDefinition) : Except RequestError Unit :=
  if definition.name.isEmpty || definition.name.utf8ByteSize > 64 then
    .error ⟨.invalidDefinition, "task names must contain between 1 and 64 bytes"⟩
  else if trim definition.name ≠ definition.name || definition.name.toList.any isControl then
    .error ⟨.invalidDefinition,
      "Task names cannot contain control characters or leading/trailing whitespace."⟩
  else if hasNul definition.program || definition.arguments.any hasNul ||
      definition.workingDirectory.any hasNul then
    .error ⟨.invalidDefinition, "Commands cannot contain null characters."⟩
  else if definition.program.isEmpty then
    .error ⟨.invalidDefinition, "task program must not be empty"⟩
  else .ok ()

/-- A path from the root (Rust `Path::is_absolute`). -/
def isAbsolute (path : String) : Bool := path.toList.head? = some '/'

/-- Rust `Path::join`. -/
def joinPath (base path : String) : String :=
  if isAbsolute path then path
  else if base.isEmpty || base.toList.getLast? = some '/' then base ++ path
  else base ++ "/" ++ path

/-- Rust `execution_definition`. -/
def executionDefinition (home : Option String) (definition : TaskDefinition) : Except RequestError TaskDefinition :=
  match definition.workingDirectory.filter isAbsolute, home with
  | some _, _ => .ok definition
  | none, none => .error ⟨.invalidDefinition,
      "the task host has no home directory; supply an absolute working directory"⟩
  | none, some home =>
    let directory := definition.workingDirectory.elim home (joinPath home)
    if isAbsolute directory then .ok { definition with workingDirectory := some directory }
    else .error ⟨.invalidDefinition,
      "task working directory must resolve to an absolute path on the task host"⟩

def nameTaken (tasks : Tasks) (name : String) : Bool :=
  (OrdMap.valueList tasks).any fun task => task.definition.name = name

/-! ### State and file -/

/-- The tasks of a file (the map that `State::load` collects). -/
def decodeTasks (stored : StoredState) : Tasks :=
  .ofList (stored.tasks.map fun task => (task.taskId, task))

def encodeTasks (tasks : Tasks) : StoredState := ⟨STATE_SCHEMA_VERSION, OrdMap.valueList tasks⟩

def recovered (now : Nat) (task : TaskInfo) : TaskInfo :=
  match task.activeRun with
  | none => task
  | some run =>
    if run.interactive.isSome then
      { task with
        activeRun := some { run with
          state := if run.state = .starting then .starting else .unknown } }
    else task.finished run .failed none now

def ask {α : Type} (answer : Nat → α) : Request α :=
  modifyGet fun s => (answer s.asked, { s with asked := s.asked + 1 })

def modifyTasks (change : Tasks → Tasks) : Request Unit :=
  modify fun s => { s with tasks := change s.tasks }

/-- The result of a check (Rust `?`). -/
def check {α : Type} (result : Except RequestError α) : Request α :=
  match result with
  | .ok a => pure a
  | .error e => throw e

/-- Rust `show`. -/
def showTask (selector : String) : Request TaskInfo := do check (resolveTask (← get).tasks selector)

section
variable (env : Env)

/-- Rust `persist_blocking`. A file that was not replaced is as before. -/
def persistBlocking (site : Site) : Request (Option RequestError) := do
  match ← ask env.persistError with
  | some error =>
    modify fun s => { s with attempts := ⟨site, false⟩ :: s.attempts }
    return some (.internal error)
  | none =>
    modify fun s => { s with
      file := some (encodeTasks s.tasks)
      attempts := ⟨site, true⟩ :: s.attempts }
    return none

def commitTasks (site : Site) (change rollback : Tasks → Tasks) : Request Unit := do
  modifyTasks change
  match ← persistBlocking env site with
  | some e =>
    modifyTasks rollback
    throw e
  | none => return ()

/-! ### Definitions -/

/-- Rust `create`. -/
def create (definition : TaskDefinition) : Request TaskInfo := do
  check (validateDefinition definition)
  if nameTaken (← get).tasks definition.name then
    throw ⟨.nameConflict, s!"a task named {definition.name.quote} already exists"⟩
  let task : TaskInfo := ⟨← ask env.uuid, definition, .stopped, none, none⟩
  -- A failure leaves the task registered.
  commitTasks env .create (·.insert task.taskId task) id
  return task

variable (taskId selector : String) (definition : TaskDefinition) (task : TaskInfo)

/-- Rust `register`. -/
def register : Request TaskInfo := do
  let taskId ← check ((env.parseUuid taskId).mapError .internal)
  if let some task := (← get).tasks[taskId]? then return task
  check (validateDefinition definition)
  if nameTaken (← get).tasks definition.name then
    throw ⟨.nameConflict, "Another task has this name. Choose a different name."⟩
  let task : TaskInfo := ⟨taskId, definition, .stopped, none, none⟩
  commitTasks env .register (·.insert taskId task) (·.erase taskId)
  return task

def redefined (definition : TaskDefinition) : TaskInfo :=
  { task with
    definition
    lastRun := task.lastRun.map fun run =>
      { run with definition := some (run.definition.getD task.definition) } }

/-- Rust `update_definition`. -/
def updateDefinition : Request TaskInfo := do
  check (validateDefinition definition)
  let previous ← showTask selector
  if previous.activeRun.isSome then
    throw ⟨.alreadyRunning, "Stop the task before applying changes."⟩
  if (OrdMap.valueList (← get).tasks).any fun task =>
      task.taskId ≠ previous.taskId && task.definition.name = definition.name then
    throw ⟨.nameConflict, "Another task has this name."⟩
  let task := redefined previous definition
  commitTasks env .update (·.insert task.taskId task) (·.insert previous.taskId previous)
  return task

/-! ### Interactive runs -/

/-- Rust `store_task`. -/
def storeTask : Request Unit := do
  let previous := (← get).tasks[task.taskId]?
  commitTasks env .store (·.insert task.taskId task) fun tasks =>
    match previous with
    | some previous => tasks.insert task.taskId previous
    | none => tasks

/-- Rust `release_outcome`. -/
def releaseOutcome : Request Unit := do
  let task ← showTask taskId
  if task.activeRun.isSome then return ()
  let some run := task.lastRun | return ()
  let some backend := run.interactive | return ()
  if backend.released then return ()
  match ← ask env.exchanged with
  | .ok (observed, _) =>
    if observed = backend.instanceId then
      if let .error e ← ask env.exchanged then throw (backendError e)
  | .error .gone => pure ()
  | .error e => throw (backendError e)
  storeTask env (task.releasing run backend)

/-- The end of `reconcile_one`. -/
def settle (run : RunInfo) (backend : InteractiveRun) (verdict : Verdict) :
    Request Unit := do
  let (stored, result) := conclude task run backend (← ask env.now) verdict
  if let some task := stored then storeTask env task
  check result

/-- Rust `reconcile_one`. -/
def reconcileOne : Request Unit := do
  let task ← showTask taskId
  let some run := task.activeRun | releaseOutcome env taskId
  let some backend := run.interactive | return ()
  let execution := executionDefinition env.home task.definition
  match ← check (afterStatus execution task backend (← ask env.exchanged)) with
  | .operate operation =>
    settle env task run backend (afterOperation operation (← ask env.exchanged))
  | verdict => settle env task run backend verdict

/-- Rust `start_interactive`. -/
def startInteractive : Request TaskInfo := do
  let _ ← check (executionDefinition env.home definition)
  if let some e ← ask env.connectError then throw e
  releaseOutcome env taskId
  let task ← showTask taskId
  match ← ask env.exchanged with
  | .error e => throw (backendError e)
  | .ok (observed, _) =>
    let run := intendedRun definition env.ctmuxSocket (← ask env.uuid) observed (← ask env.now)
    storeTask env (task.intending definition run)
    reconcileOne env taskId
    showTask taskId

/-- A poll of `stop_interactive`: the task, if its run has ended. -/
def pollStopped : Request (Option TaskInfo) := do
  reconcileOne env taskId
  let task ← showTask taskId
  return if task.activeRun.isNone then some task else none

/-- The loop of `stop_interactive`, with the polls that are left after this one. -/
def stopInteractive (taskId : String) : (polls : Nat) → Request TaskInfo
  | 0 => do
    let some task ← pollStopped env taskId | throw (.internal "ctmux session did not stop")
    return task
  | polls + 1 => do
    let some task ← pollStopped env taskId | stopInteractive taskId polls
    return task

/-! ### Runs -/

/-- Rust `finish_run`. A failure to persist is ignored. -/
def finishRun (runId : String) (stopped : Bool) (exitCode : Option Int) : Request Unit := do
  modify fun s => { s with runtimes := s.runtimes.erase taskId }
  let some task := (← get).tasks[taskId]? | return ()
  let some run := task.activeRun | return ()
  if run.runId = runId then
    let task := task.finished run (endState stopped exitCode) exitCode (← ask env.now)
    modifyTasks (·.insert taskId task)
    let _ ← persistBlocking env .finish

def started (run : RunInfo) : TaskInfo :=
  { task with desiredState := .running, activeRun := some run }

/-- The part of `start` for background tasks. -/
def startBackground : Request TaskInfo := do
  let _ ← check (executionDefinition env.home definition)
  if let some error ← ask env.spawnError then
    throw ⟨.invalidDefinition, s!"could not start {definition.program.quote}: {error}"⟩
  let run := startedRun definition (← ask env.uuid) (← ask env.now)
  let some task := (← get).tasks[taskId]?
    | throw (.internal "task remains registered while starting")
  -- A failure leaves the run active.
  commitTasks env .start (·.insert taskId (started task run)) id
  modify fun s => { s with runtimes := s.runtimes.insert taskId run.runId }
  showTask taskId

/-- Rust `start`. -/
def start : Request TaskInfo := do
  let task ← showTask selector
  if task.activeRun.isSome then
    throw ⟨.alreadyRunning, s!"task {task.definition.name.quote} is already running"⟩
  if task.definition.executionMode = .interactive then
    startInteractive env task.taskId task.definition
  else startBackground env task.taskId task.definition

/-- The part of `stop` that waits for a background run. -/
def waitStopped : Request TaskInfo := do
  match (← get).runtimes[taskId]? with
  | none =>
    let task ← showTask taskId
    if task.activeRun.isNone then return task
    throw (.internal "running task has no process handle")
  | some runId =>
    match ← ask env.ended with
    | some (stopped, exitCode) =>
      finishRun env taskId runId stopped exitCode
      showTask taskId
    | none => throw (.internal "task process did not stop within five seconds")

/-- Rust `stop`. -/
def stop : Request TaskInfo := do
  let task ← showTask selector
  if task.activeRun.isNone then
    throw ⟨.notRunning, s!"task {task.definition.name.quote} is not running"⟩
  commitTasks env .stop (·.insert task.taskId { task with desiredState := .stopped })
    (·.insert task.taskId task)
  let task ← showTask task.taskId
  if task.activeRun.any (·.interactive.isSome) then
    stopInteractive env task.taskId (← ask env.polls)
  else waitStopped env task.taskId

/-- Rust `restart`. -/
def restart : Request TaskInfo := do
  let task ← showTask selector
  if task.activeRun.isSome then
    let _ ← stop env task.taskId
  start env task.taskId

/-- Rust `remove`. -/
def remove : Request String := do
  let task ← showTask selector
  releaseOutcome env task.taskId
  let task ← showTask selector
  if task.activeRun.isSome then throw ⟨.alreadyRunning, "stop the task before removing it"⟩
  -- A failure leaves the task removed.
  commitTasks env .remove (·.erase task.taskId) id
  return task.taskId

/-- Rust `State::load`: the daemon, or nothing when it does not come up. -/
def load (file : Option StoredState) (asked : Nat) : Option Daemon :=
  if file.any (·.schemaVersion ≠ STATE_SCHEMA_VERSION) then none
  else
    let tasks := (file.elim ∅ decodeTasks).map fun _ => recovered (env.now asked)
    match perform (persistBlocking env .load) ⟨tasks, ∅, file, [], asked + 1⟩ with
    | (.ok none, s) => some s
    | _ => none

end

/-! ### The daemon -/

/-- The requests that change tasks. -/
inductive Command
  | create (definition : TaskDefinition)
  | register (taskId : String) (definition : TaskDefinition)
  | update (selector : String) (definition : TaskDefinition)
  | start (selector : String)
  | stop (selector : String)
  | restart (selector : String)
  | remove (selector : String)

def unanswered {α : Type} (request : Request α) : Request Unit := do let _ ← request

def Command.request (env : Env) : Command → Request Unit
  | .create definition => unanswered (Requests.create env definition)
  | .register taskId definition => unanswered (Requests.register env taskId definition)
  | .update selector definition => unanswered (updateDefinition env selector definition)
  | .start selector => unanswered (Requests.start env selector)
  | .stop selector => unanswered (Requests.stop env selector)
  | .restart selector => unanswered (Requests.restart env selector)
  | .remove selector => unanswered (Requests.remove env selector)

inductive Event
  | command (command : Command)
  /-- A round of `reconcile_interactive` for a task. -/
  | reconcile (taskId : String)
  | finish (taskId runId : String) (stopped : Bool) (exitCode : Option Int)
  /-- The daemon is started again, with its file. -/
  | reload

def step (env : Env) (s : Daemon) : Event → Option Daemon
  | .command command => some (perform (command.request env) s).2
  | .reconcile taskId => some (perform (reconcileOne env taskId) s).2
  | .finish taskId runId stopped exitCode =>
    some (perform (finishRun env taskId runId stopped exitCode) s).2
  | .reload => load env s.file s.asked

def Initial (env : Env) (s : Daemon) : Prop := ∃ file asked, load env file asked = some s

end Ctl.Task.Requests
