import Ctl.Task.Proto

/-!
# Interactive runs

Model of the decisions of `task/daemon/src/interactive.rs`: what `reconcile_one`, `release_outcome`,
`start_interactive` and `complete_interactive` do with a task and with the answers of ctmuxd. How the
answers come about is left to the modules that use them.
-/

namespace Ctl.Task

/-- An operation on the session of a run (Rust `ManagedOperation`). -/
inductive ManagedOperation
  | start (program : String) (arguments : List String) (workingDirectory : Option String)
  | status
  | stop
  | release
  deriving DecidableEq

/-- Rust `ManagedSessionInfo`. -/
structure ManagedSessionInfo where
  sessionId : String
  running : Bool
  exitCode : Option Nat

/-- Rust `BackendError`. -/
inductive BackendError
  /-- No ctmuxd serves the endpoint. -/
  | gone
  | refused (message : String)
  | uncertain (message : String)
  deriving DecidableEq

/-- The result of `exchange`: the instance of ctmuxd and the session of the run. -/
abbrev Exchanged := Except BackendError (String × Option ManagedSessionInfo)

/-- Rust `backend_error`. -/
def backendError : BackendError → RequestError
  | .gone => .internal "ctmuxd is unavailable"
  | .refused message | .uncertain message => .internal message

/-- The run that `start_interactive` intends to create. -/
def intendedRun (definition : TaskDefinition) (ctmuxSocket runId instanceId : String) (now : Nat) : RunInfo :=
  ⟨some definition, some ⟨false, ctmuxSocket, instanceId, none⟩, runId, .starting, now, none, none⟩

variable (task : TaskInfo) (run : RunInfo) (backend : InteractiveRun)

def TaskInfo.intending (definition : TaskDefinition) (run : RunInfo) : TaskInfo :=
  { task with activeRun := some run, definition, desiredState := .running }

/-- A 32-bit exit code (Rust `i32::try_from`). -/
def signedExitCode (exitCode : Option Nat) : Option Int :=
  (exitCode.filter (· < 2 ^ 31)).map fun code => (code : Int)

/-- The state of an interactive run that has ended (the choice of `complete_interactive`). -/
def interactiveEndState (desired : DesiredState) (exitCode : Option Nat) : RunState :=
  if desired = .stopped then .stopped else if exitCode = some 0 then .completed else .failed

/-- The task without its active run (the change of `complete_interactive`). -/
def TaskInfo.completed (exitCode : Option Nat) (now : Nat) : TaskInfo :=
  task.finished run (interactiveEndState task.desiredState exitCode) (signedExitCode exitCode) now

def RunInfo.withSession (sessionId : String) : RunInfo :=
  { run with interactive := some { backend with sessionId := some sessionId } }

/-- The outcome of a run is released (the change of `release_outcome`). -/
def TaskInfo.releasing : TaskInfo :=
  { task with lastRun := some { run with interactive := some { backend with released := true } } }

/-- What `reconcile_one` does with an answer. -/
inductive Verdict
  /-- The run has ended without a known exit code. -/
  | complete
  /-- The run could not be created. -/
  | reject (message : String)
  /-- The state of the run is not known. -/
  | unknown (error : BackendError)
  | operate (operation : ManagedOperation)
  | settle (session : Option ManagedSessionInfo)

/-- The part of `reconcile_one` after the answer to `Status`, with the `execution_definition` of the
    task. -/
def afterStatus (execution : Except RequestError TaskDefinition) (task : TaskInfo)
    (backend : InteractiveRun) : Exchanged → Except RequestError Verdict
  | .ok (observed, session) =>
    if observed ≠ backend.instanceId then .ok .complete
    else if task.desiredState = .stopped then .ok (.operate .stop)
    else if session.isNone && backend.sessionId.isNone then
      execution.map fun definition =>
        .operate (.start definition.program definition.arguments definition.workingDirectory)
    else .ok (.settle session)
  | .error .gone => .ok .complete
  | .error e => .ok (.unknown e)

/-- The part of `reconcile_one` after the answer to an operation. -/
def afterOperation (operation : ManagedOperation) : Exchanged → Verdict
  | .ok (_, observed) => .settle observed
  | .error .gone => .complete
  | .error (.refused message) =>
    match operation with
    | .start .. => .reject message
    | _ => .unknown (.refused message)
  | .error e => .unknown e

/-- The task that `reconcile_one` stores in the end, and its result if it is stored. -/
def conclude (now : Nat) :
    Verdict → Option TaskInfo × Except RequestError Unit
  | .complete => (some (task.completed run none now), .ok ())
  | .reject message => (some (task.completed run none now), .error (.internal message))
  | .unknown e =>
    (some { task with activeRun := some { run with state := .unknown } }, .error (backendError e))
  | .operate _ => (none, .ok ())
  | .settle none => (some (task.completed run none now), .ok ())
  | .settle (some session) =>
    if session.running then
      if run.state ≠ .running ∨ backend.sessionId ≠ some session.sessionId then
        let run := { run.withSession backend session.sessionId with state := .running }
        (some { task with activeRun := some run }, .ok ())
      else (none, .ok ())
    else
      (some (task.completed (run.withSession backend session.sessionId) session.exitCode now), .ok ())

end Ctl.Task
