import Ctl.Base.System
import Ctl.Task.Proto

/-!
# Task logs

Model of `append_log`, `trim_logs`, `spawn_log_reader`, `send_logs` and the end of `finish_run` in
`task/daemon/src/lib.rs` as a transition system. A reader appends an event in one section under the
logs lock and broadcasts it in a later step; the waiter of a run clears the active run when both
readers have returned, and then broadcasts the end of the run. A follower subscribes to the
broadcasts, looks the task up, copies the retained events and then follows the broadcasts with its
cursor. Other followers only receive, so one is enough.

The channel of the follower is unbounded: a follower that lags behind 1024 activities is not
modelled. The fields marked as ghost are never read by a step.
-/

namespace Ctl.Task.Logs
open Ctl.Base

def maxLogBytesPerRun : Nat := 4 * 1024 * 1024

def readerBuffer : Nat := 8192

/-- The loop of `trim_logs`: events leave from the front while more than the bound is retained. -/
def trimFrom : (bytes : Nat) → List LogEvent → List LogEvent
  | _, [] => []
  | bytes, event :: events =>
    if bytes ≤ maxLogBytesPerRun then event :: events
    else trimFrom (bytes - event.data.length) events

/-- Rust `trim_logs`. -/
def trimLogs (events : List LogEvent) : List LogEvent :=
  trimFrom (events.map (·.data.length)).sum events

/-- The event that `append_log` stores behind the retained ones. -/
def nextEvent (events : List LogEvent) (runId : String) (stream : LogStream) (data : List UInt8) : LogEvent :=
  ⟨runId, (events.getLast?.map fun event => event.sequence + 1).getD 0, stream, data⟩

/-- What is broadcast to the followers (Rust `Activity`). -/
inductive Activity
  | log (taskId : String) (event : LogEvent)
  | finished (taskId runId : String)
  deriving DecidableEq

def Activity.runId : Activity → String
  | .log _ event => event.runId
  | .finished _ runId => runId

/-- A log reader (the task of `spawn_log_reader`). -/
inductive Reader
  /-- The process of the run is not published yet. -/
  | unspawned
  | reading
  /-- Between the two halves of `append_log`. -/
  | sending (event : LogEvent)
  | returned
  deriving DecidableEq

/-- The log side of a run: its readers, and how far its waiter is. -/
structure Run where
  taskId : String
  stdout : Reader
  stderr : Reader
  /-- The active run has been cleared. -/
  ended : Bool
  /-- The end of the run has been broadcast. -/
  announced : Bool
  /-- Ghost: every event of the run. -/
  history : List LogEvent

namespace Run

variable (run : Run)

def reader : LogStream → Reader
  | .stdout => run.stdout
  | .stderr => run.stderr

def setReader (stream : LogStream) (reader : Reader) : Run :=
  match stream with
  | .stdout => { run with stdout := reader }
  | .stderr => { run with stderr := reader }

def store (stream : LogStream) (event : LogEvent) : Run :=
  { run.setReader stream (.sending event) with history := run.history ++ [event] }

end Run

/-- A frame that is written to the follower. -/
inductive Frame
  | log (event : LogEvent)
  | logsFinished
  | error (error : RequestError)
  deriving DecidableEq

/-- The steps of `send_logs`. -/
inductive Phase
  | requested
  | subscribed
  | shown (taskId runId : String) (isActive : Bool)
  | following (taskId runId : String)
  /-- All frames are written; the run is the one whose logs were sent. -/
  | closed (runId : Option String)
  deriving DecidableEq

/-- A client that reads logs. -/
structure Follower where
  selector : String
  afterSequence : Option Nat
  follow : Bool
  phase : Phase
  /-- The broadcasts that it has not received yet. -/
  queue : List Activity
  cursor : Option Nat
  frames : List Frame
  /-- Ghost: the events that were retained when it copied them. -/
  retained : List LogEvent
  /-- Ghost: the number of events of the run at that time. -/
  base : Nat

def Follower.push (f : Follower) (activities : List Activity) : Follower :=
  match f.phase with
  | .requested | .closed _ => f
  | _ => { f with queue := f.queue ++ activities }

/-- The state of the daemon that the logs depend on. -/
structure World where
  tasks : Tasks
  logs : OrdMap String (List LogEvent)
  runs : OrdMap String Run
  follower : Follower

/-- Actions of the requests, the readers, the waiters and the follower. -/
inductive Action
  /-- A task is created, or its definition is changed. -/
  | define (taskId : String) (definition : TaskDefinition)
  | remove (taskId : String)
  /-- `start` publishes the run of a process. -/
  | start (taskId runId : String) (now : Nat)
  /-- `start` spawns the readers. -/
  | spawn (runId : String)
  | append (runId : String) (stream : LogStream) (data : List UInt8)
  | send (runId : String) (stream : LogStream)
  /-- The reader sees the end of its stream. -/
  | close (runId : String) (stream : LogStream)
  /-- `finish_run` clears the active run. -/
  | finish (runId : String) (state : RunState) (exitCode : Option Int) (now : Nat)
  | announce (runId : String)
  | subscribe
  | showTask
  | copy
  | receive

namespace World

variable (w : World)

def broadcast (activity : Activity) : World :=
  { w with follower := w.follower.push [activity] }

def history (runId : String) : List LogEvent :=
  (w.runs[runId]?.map (·.history)).getD []

def setRun (runId : String) (run : Run) : World :=
  { w with runs := w.runs.insert runId run }

end World

/-- A sequence is newer than a cursor (the `is_none_or` of `send_logs`). -/
def newer (cursor : Option Nat) (sequence : Nat) : Bool :=
  match cursor with
  | none => true
  | some c => c < sequence

/-- The loop of `send_logs` over the copied events. -/
def replay : List LogEvent → (cursor : Option Nat) → List Frame × Option Nat
  | [], cursor => ([], cursor)
  | event :: events, cursor =>
    if newer cursor event.sequence then
      let (frames, cursor) := replay events (some event.sequence)
      (.log event :: frames, cursor)
    else replay events cursor

namespace Follower

variable (f : Follower)

/-- The follower looks the task up (the part of `send_logs` before it copies the events). -/
def shown (tasks : Tasks) : Follower :=
  match resolveTask tasks f.selector with
  | .error e => { f with frames := f.frames ++ [Frame.error e], phase := .closed none }
  | .ok task =>
    if task.definition.executionMode = .interactive then
      { f with
        frames := f.frames ++ [Frame.error ⟨.unsupportedExecutionMode,
          "interactive output belongs to ctmuxd; use ctl task attach"⟩]
        phase := .closed none }
    else
      match task.activeRun.or task.lastRun with
      | none => { f with frames := f.frames ++ [Frame.logsFinished], phase := .closed none }
      | some run => { f with phase := .shown task.taskId run.runId task.activeRun.isSome }

def copied (taskId runId : String) (isActive : Bool) (existing : List LogEvent) (base : Nat) : Follower :=
  let (frames, cursor) := replay existing f.afterSequence
  let f := { f with frames := f.frames ++ frames, cursor, retained := existing, base }
  if f.follow ∧ isActive then { f with phase := .following taskId runId }
  else { f with frames := f.frames ++ [Frame.logsFinished], phase := .closed (some runId) }

def received (taskId runId : String) : Activity → Follower
  | .log id event =>
    if id = taskId ∧ event.runId = runId ∧ newer f.cursor event.sequence then
      { f with cursor := some event.sequence, frames := f.frames ++ [Frame.log event] }
    else f
  | .finished id finishedRun =>
    if id = taskId ∧ finishedRun = runId then
      { f with frames := f.frames ++ [Frame.logsFinished], phase := .closed (some runId) }
    else f

end Follower

def step (w : World) : Action → Option World
  | .define taskId definition =>
    match w.tasks[taskId]? with
    | none =>
      some { w with tasks := w.tasks.insert taskId ⟨taskId, definition, .stopped, none, none⟩ }
    | some task =>
      if task.activeRun = none then
        some { w with tasks := w.tasks.insert taskId { task with definition } }
      else none
  | .remove taskId =>
    match w.tasks[taskId]? with
    | none => none
    | some task =>
      if task.activeRun = none then some { w with tasks := w.tasks.erase taskId } else none
  | .start taskId runId now =>
    match w.tasks[taskId]?, w.runs[runId]? with
    | some task, none =>
      if task.activeRun = none ∧ task.definition.executionMode = .background then
        some { w with
          tasks := w.tasks.insert taskId { task with
            desiredState := .running
            activeRun := some (startedRun task.definition runId now) }
          runs := w.runs.insert runId ⟨taskId, .unspawned, .unspawned, false, false, []⟩ }
      else none
    | _, _ => none
  | .spawn runId =>
    match w.runs[runId]? with
    | some run =>
      if run.stdout = .unspawned ∧ run.stderr = .unspawned then
        some { w.setRun runId { run with stdout := .reading, stderr := .reading } with
          logs := w.logs.insert runId [] }
      else none
    | none => none
  | .append runId stream data =>
    match w.runs[runId]? with
    | some run =>
      if run.reader stream = .reading ∧ data ≠ [] ∧ data.length ≤ readerBuffer then
        let events := w.logs[runId]?.getD []
        let event := nextEvent events runId stream data
        some { w.setRun runId (run.store stream event) with
          logs := w.logs.insert runId (trimLogs (events ++ [event])) }
      else none
    | none => none
  | .send runId stream =>
    match w.runs[runId]? with
    | some run =>
      match run.reader stream with
      | .sending event =>
        some ((w.setRun runId (run.setReader stream .reading)).broadcast (.log run.taskId event))
      | _ => none
    | none => none
  | .close runId stream =>
    match w.runs[runId]? with
    | some run =>
      if run.reader stream = .reading then
        some (w.setRun runId (run.setReader stream .returned)) else none
    | none => none
  | .finish runId state exitCode now =>
    match w.runs[runId]? with
    | some run =>
      if run.stdout = .returned ∧ run.stderr = .returned ∧ run.ended = false then
        let w := w.setRun runId { run with ended := true }
        match w.tasks[run.taskId]? with
        | some task =>
          match task.activeRun with
          | some active =>
            if active.runId = runId then
              let task := task.finished active state exitCode now
              some { w with tasks := w.tasks.insert run.taskId task }
            else some w
          | none => some w
        | none => some w
      else none
    | none => none
  | .announce runId =>
    match w.runs[runId]? with
    | some run =>
      if run.ended ∧ run.announced = false then
        some ((w.setRun runId { run with announced := true }).broadcast
          (.finished run.taskId runId))
      else none
    | none => none
  | .subscribe =>
    if w.follower.phase = .requested then
      some { w with follower := { w.follower with phase := .subscribed } }
    else none
  | .showTask =>
    if w.follower.phase = .subscribed then
      some { w with follower := w.follower.shown w.tasks }
    else none
  | .copy =>
    match w.follower.phase with
    | .shown taskId runId isActive =>
      let existing := w.logs[runId]?.getD []
      let base := (w.history runId).length
      some { w with follower := w.follower.copied taskId runId isActive existing base }
    | _ => none
  | .receive =>
    match w.follower.phase, w.follower.queue with
    | .following taskId runId, activity :: queue =>
      some { w with follower := { w.follower with queue }.received taskId runId activity }
    | _, _ => none

/-- A daemon without active background runs, and a client whose request has arrived. The runs of an
    earlier daemon have ended. -/
structure Initial (w : World) : Prop where
  logs : w.logs = ∅
  tasks : ∀ (id : String) (task : TaskInfo), w.tasks[id]? = some task →
    task.taskId = id ∧ task.activeRun = none ∧
      ∀ run ∈ task.lastRun, ∃ ended, w.runs[run.runId]? = some ended
  runs : ∀ (id : String) (run : Run), w.runs[id]? = some run →
    run = ⟨run.taskId, .returned, .returned, true, true, []⟩
  follower : ∃ selector afterSequence follow,
    w.follower = ⟨selector, afterSequence, follow, .requested, [], none, [], [], 0⟩

end Ctl.Task.Logs
