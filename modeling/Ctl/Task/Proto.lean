import Ctl.Base.OrdMap
import Ctl.Proto.History

/-!
# Task protocol

Model of the data types of `task/proto/src/lib.rs` that the task daemon works on, and of
`RequestError` and `resolve_task` in `task/daemon/src/lib.rs`.
-/

namespace Ctl.Task
open Ctl.Base
open Ctl.Proto (isWhitespace trimEnd)

/-- Remove white space at both ends (Rust `str::trim`). -/
def trim (s : String) : String := String.ofList (trimEnd (s.toList.dropWhile isWhitespace))

def hasNul (s : String) : Bool := s.toList.contains '\x00'

/-- How a task is run (Rust `ExecutionMode`). -/
inductive ExecutionMode
  | interactive
  | background
  deriving DecidableEq

/-- What a task runs (Rust `TaskDefinition`). -/
structure TaskDefinition where
  name : String
  program : String
  arguments : List String
  workingDirectory : Option String
  executionMode : ExecutionMode
  deriving DecidableEq

/-- Rust `DesiredState`. -/
inductive DesiredState
  | stopped
  | running
  deriving DecidableEq

/-- Rust `RunState`. -/
inductive RunState
  | starting
  | unknown
  | running
  | completed
  | failed
  | stopped
  deriving DecidableEq

/-- The terminal of an interactive run (Rust `InteractiveRun`). -/
structure InteractiveRun where
  released : Bool
  ctmuxSocket : String
  instanceId : String
  sessionId : Option String
  deriving DecidableEq

/-- One run of a task (Rust `RunInfo`). -/
structure RunInfo where
  definition : Option TaskDefinition
  interactive : Option InteractiveRun
  runId : String
  state : RunState
  startedAtMs : Nat
  endedAtMs : Option Nat
  exitCode : Option Int
  deriving DecidableEq

/-- A task with its runs (Rust `TaskInfo`). -/
structure TaskInfo where
  taskId : String
  definition : TaskDefinition
  desiredState : DesiredState
  activeRun : Option RunInfo
  lastRun : Option RunInfo
  deriving DecidableEq

/-- Rust `LogStream`. -/
inductive LogStream
  | stdout
  | stderr
  deriving DecidableEq

/-- Output of a run (Rust `LogEvent`). -/
structure LogEvent where
  runId : String
  sequence : Nat
  stream : LogStream
  data : List UInt8
  deriving DecidableEq

/-- Rust `ErrorCode`, without the codes of the handshake. -/
inductive ErrorCode
  | invalidDefinition
  | taskNotFound
  | nameConflict
  | alreadyRunning
  | notRunning
  | unsupportedExecutionMode
  | internal
  deriving DecidableEq

/-- A refused request (Rust `RequestError`). -/
structure RequestError where
  code : ErrorCode
  message : String
  deriving DecidableEq

/-- Rust `RequestError::internal`. -/
def RequestError.internal (message : String) : RequestError := ⟨.internal, message⟩

/-- The task after the end of a run (the change of `finish_run`). -/
def TaskInfo.finished (task : TaskInfo) (run : RunInfo) (state : RunState) (exitCode : Option Int)
    (now : Nat) : TaskInfo :=
  { task with
    activeRun := none
    lastRun := some { run with endedAtMs := some now, exitCode, state }
    desiredState := .stopped }

/-- The run that `start` publishes. -/
def startedRun (definition : TaskDefinition) (runId : String) (now : Nat) : RunInfo :=
  ⟨some definition, none, runId, .running, now, none, none⟩

/-- The state of a run that has ended (the choice of `finish_run`). -/
def endState (stopped : Bool) (exitCode : Option Int) : RunState :=
  if stopped then .stopped else if exitCode = some 0 then .completed else .failed

abbrev Tasks := OrdMap String TaskInfo

/-- A task by its identifier, or the first one with the name (Rust `resolve_task`). -/
def resolveTask (tasks : Tasks) (selector : String) : Except RequestError TaskInfo :=
  match tasks[selector]?.or
      (OrdMap.valueList tasks |>.find? fun task => task.definition.name = selector) with
  | some task => .ok task
  | none => .error ⟨.taskNotFound, s!"task {selector.quote} was not found"⟩

variable {tasks : Tasks} {task : TaskInfo} {selector : String}

lemma resolveTask_of_key {id : String} (found : tasks[id]? = some task) : resolveTask tasks id = .ok task := by
  rw [resolveTask, found, Option.some_or]

lemma resolveTask_error {e : RequestError} (h : resolveTask tasks selector = .error e) : e.code = .taskNotFound := by
  unfold resolveTask at h
  split at h
  · cases h
  · cases h
    rfl

lemma resolveTask_spec (h : resolveTask tasks selector = .ok task) : ∃ id : String, tasks[id]? = some task := by
  unfold resolveTask at h
  split at h
  case h_2 => cases h
  case h_1 found =>
    cases h
    rcases Option.or_eq_some_iff.1 found with there | ⟨-, there⟩
    · exact ⟨selector, there⟩
    · exact OrdMap.mem_valueList.1 (List.mem_of_find?_eq_some there)

end Ctl.Task
