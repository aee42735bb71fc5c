import Ctl.Base.System
import Ctl.Task.Proto

/-!
# The lifecycle of background tasks

Model of `start`, `finish_run`, `stop` and `restart` in `task/daemon/src/lib.rs` for background
tasks, as a transition system whose steps are the sections under one lock. Requests that change the
state hold the mutation lock, so at most one of them is under way; the waiter of a run is not held up
by it, and its process may exit at any moment. State is persisted without failures and processes are
spawned without failures, and a stop waits for as long as it takes.

A waiter selects between the exit of its process and a stop request, and then runs `finish_run`: it
removes the handle of its task, clears the active run and broadcasts the end of the run.
-/

namespace Ctl.Task.Lifecycle
open Ctl.Base

inductive WaiterPhase
  | waiting
  /-- The process has ended. -/
  | exited (stopped : Bool) (exitCode : Option Int)
  /-- `finish_run` has removed the handle of the task. -/
  | removed (stopped : Bool) (exitCode : Option Int)
  /-- `finish_run` has cleared the active run. -/
  | cleared
  /-- `finish_run` has broadcast the end of the run. -/
  | returned
  deriving DecidableEq

structure Waiter where
  taskId : String
  stopRequested : Bool
  phase : WaiterPhase

/-- Where the request under way is: the section that it takes next. -/
inductive Point
  /-- `restart` looks the task up. -/
  | showRestarted (selector : String)
  | resolveStart (selector : String)
  | publishRun (taskId : String) (definition : TaskDefinition)
  | publishHandle (taskId runId : String)
  | showStarted (taskId : String)
  /-- `stop` sets the desired state. -/
  | markStopped (selector : String)
  | checkInteractive (taskId : String)
  | subscribe (taskId : String)
  | lookupHandle (taskId : String)
  | showUnhandled (taskId : String)
  | sendStop (taskId runId : String)
  | showUnsent (taskId : String)
  | poll (taskId : String)
  | await (taskId : String)
  | showStopped (taskId : String)
  deriving DecidableEq

inductive Request
  | start (selector : String)
  | stop (selector : String)
  | restart (selector : String)
  deriving DecidableEq

structure Call where
  request : Request
  point : Point
  /-- The ends of runs that were broadcast since `stop` has subscribed. -/
  heard : List (String × String)
  /-- Ghost: the runs before the request. -/
  earlier : List String

structure Reply where
  request : Request
  result : Except RequestError TaskInfo
  /-- Ghost: the runs before the request. -/
  earlier : List String
  deriving DecidableEq

/-- The state of the daemon that background runs depend on. -/
structure World where
  tasks : Tasks
  /-- The run that the handle of a task belongs to. -/
  runtimes : OrdMap String String
  waiters : OrdMap String Waiter
  call : Option Call
  /-- The last answer. -/
  reply : Option Reply

namespace World

def goto (w : World) (call : Call) (point : Point) : World :=
  { w with call := some { call with point } }

def answer (w : World) (call : Call) (result : Except RequestError TaskInfo) : World :=
  { w with call := none, reply := some ⟨call.request, result, call.earlier⟩ }

/-- Rust `show`. -/
def showTask (w : World) (selector : String) : Except RequestError TaskInfo :=
  resolveTask w.tasks selector

/-- `stop` returns; a restart goes on with `start` if it has succeeded. -/
def stopReturns (w : World) (call : Call) (result : Except RequestError TaskInfo) : World :=
  match call.request, result with
  | .restart _, .ok task => w.goto call (.resolveStart task.taskId)
  | _, result => w.answer call result

end World

def Request.first : Request → Point
  | .start selector => .resolveStart selector
  | .stop selector => .markStopped selector
  | .restart selector => .showRestarted selector

/-- The request under way takes its next section. The run identifier and the time are those of a
    new run. -/
def proceed (w : World) (call : Call) (runId : String) (now : Nat) : Option World :=
  match call.point with
  | .showRestarted selector =>
    match w.showTask selector with
    | .error e => some (w.answer call (.error e))
    | .ok task =>
      if task.activeRun.isSome then some (w.goto call (.markStopped task.taskId))
      else some (w.goto call (.resolveStart task.taskId))
  | .resolveStart selector =>
    match w.showTask selector with
    | .error e => some (w.answer call (.error e))
    | .ok task =>
      if task.activeRun.isSome then
        some (w.answer call (.error ⟨.alreadyRunning,
          s!"task {task.definition.name.quote} is already running"⟩))
      -- Interactive runs are started elsewhere.
      else if task.definition.executionMode = .interactive then none
      else some (w.goto call (.publishRun task.taskId task.definition))
  | .publishRun taskId definition =>
    match w.tasks[taskId]?, w.waiters[runId]? with
    | some task, none =>
      let task := { task with
        desiredState := .running
        activeRun := some (startedRun definition runId now) }
      some ({ w with tasks := w.tasks.insert taskId task }.goto call (.publishHandle taskId runId))
    | _, _ => none
  | .publishHandle taskId runId =>
    some ({ w with
      runtimes := w.runtimes.insert taskId runId
      waiters := w.waiters.insert runId ⟨taskId, false, .waiting⟩ }.goto call (.showStarted taskId))
  | .showStarted taskId => some (w.answer call (w.showTask taskId))
  | .markStopped selector =>
    match w.showTask selector with
    | .error e => some (w.stopReturns call (.error e))
    | .ok task =>
      if task.activeRun.isNone then
        some (w.stopReturns call (.error ⟨.notRunning,
          s!"task {task.definition.name.quote} is not running"⟩))
      else
        let tasks := w.tasks.insert task.taskId { task with desiredState := .stopped }
        some ({ w with tasks }.goto call (.checkInteractive task.taskId))
  | .checkInteractive taskId =>
    match w.showTask taskId with
    | .error e => some (w.stopReturns call (.error e))
    | .ok task =>
      -- The runs of the model are background runs.
      if task.activeRun.any (·.interactive.isSome) then none
      else some (w.goto call (.subscribe taskId))
  | .subscribe taskId => some (w.goto { call with heard := [] } (.lookupHandle taskId))
  | .lookupHandle taskId =>
    match w.runtimes[taskId]? with
    | none => some (w.goto call (.showUnhandled taskId))
    | some run => some (w.goto call (.sendStop taskId run))
  | .showUnhandled taskId =>
    match w.showTask taskId with
    | .error e => some (w.stopReturns call (.error e))
    | .ok task =>
      if task.activeRun.isNone then some (w.stopReturns call (.ok task))
      else some (w.stopReturns call (.error (.internal "running task has no process handle")))
  | .sendStop taskId run =>
    match w.waiters[run]? with
    | none => none
    | some waiter =>
      if waiter.phase = .returned then some (w.goto call (.showUnsent taskId))
      else some ({ w with waiters := w.waiters.insert run { waiter with stopRequested := true } }.goto
        call (.poll taskId))
  | .showUnsent taskId =>
    match w.showTask taskId with
    | .error e => some (w.stopReturns call (.error e))
    | .ok task =>
      if task.activeRun.isNone then some (w.stopReturns call (.ok task))
      else some (w.goto call (.poll taskId))
  | .poll taskId =>
    match w.showTask taskId with
    | .error e => some (w.stopReturns call (.error e))
    | .ok task =>
      if task.activeRun.isNone then some (w.goto call (.showStopped taskId))
      else some (w.goto call (.await taskId))
  | .await taskId =>
    match call.heard with
    | [] => none
    | (id, _) :: heard =>
      if id = taskId then some (w.goto { call with heard } (.showStopped taskId))
      else some (w.goto { call with heard } (.poll taskId))
  | .showStopped taskId => some (w.stopReturns call (w.showTask taskId))

/-- Requests, exits of processes and the sections of `finish_run`. -/
inductive Action
  /-- A task is created, or its definition is changed. -/
  | define (taskId : String) (definition : TaskDefinition)
  | remove (taskId : String)
  | request (request : Request)
  | proceed (runId : String) (now : Nat)
  /-- The process of a run exits, or is terminated after a stop request. -/
  | exit (runId : String) (stopped : Bool) (exitCode : Option Int)
  | removeHandle (runId : String)
  | clearRun (runId : String) (now : Nat)
  | broadcast (runId : String)

def step (w : World) : Action → Option World
  | .define taskId definition =>
    if w.call.isSome then none else
    match w.tasks[taskId]? with
    | none =>
      some { w with tasks := w.tasks.insert taskId ⟨taskId, definition, .stopped, none, none⟩ }
    | some task =>
      if task.activeRun.isSome then none
      else some { w with tasks := w.tasks.insert taskId { task with definition } }
  | .remove taskId =>
    if w.call.isSome then none else
    match w.tasks[taskId]? with
    | none => none
    | some task =>
      if task.activeRun.isSome then none else some { w with tasks := w.tasks.erase taskId }
  | .request request =>
    if w.call.isSome then none
    else some { w with call := some ⟨request, request.first, [], w.waiters.keys⟩ }
  | .proceed runId now =>
    match w.call with
    | none => none
    | some call => proceed w call runId now
  | .exit runId stopped exitCode =>
    match w.waiters[runId]? with
    | none => none
    | some waiter =>
      if waiter.phase = .waiting ∧ (stopped → waiter.stopRequested) then
        some { w with
          waiters := w.waiters.insert runId { waiter with phase := .exited stopped exitCode } }
      else none
  | .removeHandle runId =>
    match w.waiters[runId]? with
    | some ⟨taskId, stopRequested, .exited stopped exitCode⟩ =>
      some { w with
        runtimes := w.runtimes.erase taskId
        waiters := w.waiters.insert runId ⟨taskId, stopRequested, .removed stopped exitCode⟩ }
    | _ => none
  | .clearRun runId now =>
    match w.waiters[runId]? with
    | some ⟨taskId, stopRequested, .removed stopped exitCode⟩ =>
      let w := { w with waiters := w.waiters.insert runId ⟨taskId, stopRequested, .cleared⟩ }
      match w.tasks[taskId]? with
      | some task =>
        match task.activeRun with
        | some run =>
          if run.runId = runId then
            let task := task.finished run (endState stopped exitCode) exitCode now
            some { w with tasks := w.tasks.insert taskId task }
          else some w
        | none => some w
      | none => some w
    | _ => none
  | .broadcast runId =>
    match w.waiters[runId]? with
    | some ⟨taskId, stopRequested, .cleared⟩ =>
      some { w with
        waiters := w.waiters.insert runId ⟨taskId, stopRequested, .returned⟩
        call := w.call.map fun call => { call with heard := call.heard ++ [(taskId, runId)] } }
    | _ => none

/-- A daemon that has just loaded its state. -/
structure Initial (w : World) : Prop where
  tasks : ∀ (id : String) (task : TaskInfo), w.tasks[id]? = some task →
    task.taskId = id ∧ task.activeRun = none
  runtimes : w.runtimes = ∅
  waiters : w.waiters = ∅
  call : w.call = none
  reply : w.reply = none

/-! ### What requests promise -/

namespace World

/-- `finish_run` of a run of the task has begun and has not returned. -/
def Finishing (w : World) (taskId : String) : Prop :=
  ∃ (runId : String) (waiter : Waiter), w.waiters[runId]? = some waiter ∧ waiter.taskId = taskId ∧
    ((∃ stopped exitCode, waiter.phase = .removed stopped exitCode) ∨ waiter.phase = .cleared)

/-- `start` has published a run of the task and not its handle. -/
def Publishing (w : World) (taskId : String) : Prop :=
  ∃ call ∈ w.call, ∃ runId, call.point = .publishHandle taskId runId

end World

/-- A stop returns a task without an active run, or says that the task is not running or not
    there; a restart returns a task with a new run, or says that the task is not there. -/
def Reply.Clean (reply : Reply) : Prop :=
  match reply.request, reply.result with
  | .stop _, .ok task => task.activeRun = none
  | .stop _, .error e => e.code = .notRunning ∨ e.code = .taskNotFound
  | .restart _, .ok task =>
    ∃ run, task.activeRun.or task.lastRun = some run ∧ run.runId ∉ reply.earlier
  | .restart _, .error e => e.code = .taskNotFound
  | .start _, .ok _ => True
  | .start _, .error e => e.code ≠ .internal

/-- Requests do not fail spuriously, and active runs and handles agree between `finish_run`s. -/
structure World.Clean (w : World) : Prop where
  reply : ∀ reply ∈ w.reply, reply.Clean
  handles : ∀ (id : String) (task : TaskInfo), w.tasks[id]? = some task → ¬ w.Finishing id →
    ¬ w.Publishing id → (task.activeRun.isSome ↔ (w.runtimes[id]?).isSome)

/-- The request under way is not disturbed by the waiters of its task: no `finish_run` of the task
    is between its first two sections when `stop` looks up the handle, the run that a restart has
    seen has not ended before `stop` sets the desired state, and the end of a run that `stop` hears
    about is not the end of an earlier one. -/
def undisturbed (w : World) : Action → Bool
  | .proceed _ _ =>
    match w.call with
    | none => true
    | some call =>
      match call.point, call.request with
      | .lookupHandle taskId, _ => (OrdMap.valueList w.waiters).all fun waiter =>
        waiter.taskId ≠ taskId || match waiter.phase with
          | .removed _ _ => false
          | _ => true
      | .markStopped taskId, .restart _ => (w.tasks[taskId]?).any (·.activeRun.isSome)
      | .await taskId, _ =>
        match call.heard with
        | [] => true
        | (id, runId) :: _ => id ≠ taskId ||
          (w.tasks[taskId]?).all (·.activeRun.all (·.runId = runId))
      | _, _ => true
  | _ => true

/-! ### The invariant -/

/-- The waiter of an active run has not removed the handle. -/
def WaiterPhase.Held : WaiterPhase → Prop
  | .waiting | .exited _ _ => True
  | _ => False

/-- The waiter of an active run has removed the handle and not cleared the run. -/
def WaiterPhase.Removed : WaiterPhase → Prop
  | .removed _ _ => True
  | _ => False

/-- The run has a waiter, which holds the handle of the task or is about to clear the run. -/
def World.Waited (w : World) (id runId : String) : Prop :=
  ∃ waiter, w.waiters[runId]? = some waiter ∧ waiter.taskId = id ∧
    (waiter.phase.Held ∧ w.runtimes[id]? = some runId ∨
      waiter.phase.Removed ∧ w.runtimes[id]? = none)

def World.Published (w : World) (id runId : String) : Prop :=
  w.waiters[runId]? = none ∧ w.runtimes[id]? = none ∧
    ∃ call, w.call = some call ∧ call.point = .publishHandle id runId

def World.Active (w : World) (id runId : String) : Prop :=
  ∃ task run, w.tasks[id]? = some task ∧ task.activeRun = some run ∧ run.runId = runId

def World.Idle (w : World) (id : String) : Prop :=
  ∃ task, w.tasks[id]? = some task ∧ task.activeRun = none

def Request.Starts : Request → Prop
  | .stop _ => False
  | _ => True

def Request.Stops : Request → Prop
  | .start _ => False
  | _ => True

def Request.Restarts : Request → Prop
  | .restart _ => True
  | _ => False

def CallInv (w : World) (call : Call) : Prop :=
  match call.point with
  | .showRestarted _ => call.request.Restarts
  | .resolveStart selector => call.request.Starts ∧ (call.request.Restarts → w.Idle selector)
  | .publishRun id _ => call.request.Starts ∧ w.Idle id
  | .publishHandle id runId => call.request.Starts ∧ w.Active id runId ∧
    w.waiters[runId]? = none ∧ w.runtimes[id]? = none ∧ runId ∉ call.earlier
  | .showStarted id => call.request.Starts ∧ ∃ task run, w.tasks[id]? = some task ∧
    task.activeRun.or task.lastRun = some run ∧ run.runId ∉ call.earlier
  | .markStopped selector => call.request.Stops ∧
    (call.request.Restarts → ∃ task, w.tasks[selector]? = some task)
  | .showUnhandled id | .showStopped id => call.request.Stops ∧ w.Idle id
  | .sendStop id run => call.request.Stops ∧ (∃ task, w.tasks[id]? = some task) ∧
    ∃ waiter, w.waiters[run]? = some waiter
  | .checkInteractive id | .subscribe id | .lookupHandle id | .showUnsent id | .poll id
  | .await id => call.request.Stops ∧ ∃ task, w.tasks[id]? = some task

/-- What holds in every state of an undisturbed run. -/
structure Inv (w : World) : Prop where
  key : ∀ (id : String) (task : TaskInfo), w.tasks[id]? = some task → task.taskId = id
  active : ∀ id runId, w.Active id runId → w.Published id runId ∨ w.Waited id runId
  runtime : ∀ id runId : String, w.runtimes[id]? = some runId → w.Active id runId
  waiter : ∀ (runId : String) (waiter : Waiter), w.waiters[runId]? = some waiter →
    waiter.phase.Held ∨ waiter.phase.Removed → w.Active waiter.taskId runId
  earlier : ∀ call ∈ w.call, ∀ runId ∈ call.earlier, w.waiters[runId]? ≠ none
  heard : ∀ call ∈ w.call, ∀ entry ∈ call.heard, ∃ waiter, w.waiters[entry.2]? = some waiter ∧
    waiter.phase = .returned
  call : ∀ call ∈ w.call, CallInv w call
  reply : ∀ reply ∈ w.reply, reply.Clean

variable {w : World} {w' : World}

lemma Inv.clean (inv : Inv w) : w.Clean := by
  refine ⟨inv.reply, fun id task there finishing publishing => ?_⟩
  constructor
  · intro some
    obtain ⟨run, active⟩ := Option.isSome_iff_exists.1 some
    rcases inv.active id run.runId ⟨task, run, there, active, rfl⟩ with published | waited
    · obtain ⟨-, -, call, current, point⟩ := published
      exact (publishing ⟨call, current, _, point⟩).elim
    · obtain ⟨waiter, found, taskId, ⟨-, handle⟩ | ⟨removed, -⟩⟩ := waited
      · rw [handle]
        rfl
      · refine (finishing ⟨_, waiter, found, taskId, .inl ?_⟩).elim
        cases phase : waiter.phase with
        | removed stopped exitCode => exact ⟨stopped, exitCode, rfl⟩
        | _ => rw [phase] at removed; cases removed
  · intro some
    obtain ⟨runId, handle⟩ := Option.isSome_iff_exists.1 some
    obtain ⟨task', run, there', active, -⟩ := inv.runtime id runId handle
    cases there.symm.trans there'
    rw [active]
    rfl

namespace Inv

variable {w : World} {call : Call} {id : String}

lemma waited (inv : Inv w) (current : w.call = some call) (point : ∀ id runId, call.point ≠ .publishHandle id runId)
    {runId : String} (active : w.Active id runId) : w.Waited id runId := by
  rcases inv.active id runId active with ⟨-, -, other, current', at_⟩ | waited
  · cases current.symm.trans current'
    exact (point id runId at_).elim
  · exact waited

lemma goto (inv : Inv w) (current : w.call = some call) (point : ∀ id runId, call.point ≠ .publishHandle id runId)
    {call' : Call} (earlier : call'.earlier = call.earlier) (heard : ∀ entry ∈ call'.heard, entry ∈ call.heard)
    (ok : CallInv w call') : Inv { w with call := some call' } where
  key := inv.key
  active id runId active := .inr (inv.waited current point active)
  runtime := inv.runtime
  waiter := inv.waiter
  earlier c mem runId old := by
    cases mem
    exact inv.earlier call current runId (earlier ▸ old)
  heard c mem entry old := by
    cases mem
    exact inv.heard call current entry (heard entry old)
  call c mem := by
    cases mem
    exact ok
  reply := inv.reply

lemma answer (inv : Inv w) (current : w.call = some call) (point : ∀ id runId, call.point ≠ .publishHandle id runId)
    {result : Except RequestError TaskInfo} (clean : Reply.Clean ⟨call.request, result, call.earlier⟩) :
    Inv (w.answer call result) where
  key := inv.key
  active id runId active := .inr (inv.waited current point active)
  runtime := inv.runtime
  waiter := inv.waiter
  earlier c mem := by cases mem
  heard c mem := by cases mem
  call c mem := by cases mem
  reply r mem := by
    cases mem
    exact clean

lemma stopReturns_ok (inv : Inv w) (current : w.call = some call)
    (point : ∀ id runId, call.point ≠ .publishHandle id runId) (stops : call.request.Stops) {task : TaskInfo}
    (found : w.tasks[id]? = some task) (idle : task.activeRun = none) : Inv (w.stopReturns call (.ok task)) := by
  have key := inv.key id task found
  obtain ⟨request, at_, heard, earlier⟩ := call
  cases request with
  | start => cases stops
  | stop selector => exact inv.answer current point idle
  | restart selector =>
    refine inv.goto current point rfl (fun _ mem => mem) ⟨trivial, fun _ => ⟨task, ?_, idle⟩⟩
    rw [key]
    exact found

lemma stopReturns_error (inv : Inv w) (current : w.call = some call)
    (point : ∀ id runId, call.point ≠ .publishHandle id runId) (stops : call.request.Stops) {e : RequestError}
    (code : e.code = .taskNotFound ∨
      e.code = .notRunning ∧ ¬ call.request.Restarts) : Inv (w.stopReturns call (.error e)) := by
  obtain ⟨request, at_, heard, earlier⟩ := call
  cases request with
  | start => cases stops
  | stop selector => exact inv.answer current point (code.symm.imp And.left id)
  | restart selector =>
    exact inv.answer current point (code.resolve_right fun h => h.2 trivial)

end Inv

namespace World

variable {w w' : World} {id r a : String} {task : TaskInfo}

lemma Active.unique {r' : String} (h : w.Active id r) (h' : w.Active id r') : r = r' := by
  obtain ⟨task, run, found, active, rfl⟩ := h
  obtain ⟨task', run', found', active', rfl⟩ := h'
  cases found.symm.trans found'
  cases active.symm.trans active'
  rfl

lemma Idle.not_active (h : w.Idle id) : ¬ w.Active id r := by
  obtain ⟨task, found, idle⟩ := h
  rintro ⟨task', run, found', active, -⟩
  cases found.symm.trans found'
  rw [idle] at active
  cases active

lemma idle_or_active (found : w.tasks[id]? = some task) : w.Idle id ∨ ∃ r, w.Active id r := by
  cases active : task.activeRun with
  | none => exact .inl ⟨task, found, active⟩
  | some run => exact .inr ⟨run.runId, task, run, found, active, rfl⟩

lemma active_insert (tasks : w'.tasks = w.tasks.insert id task) :
    w'.Active a r ↔
      if id = a then ∃ run, task.activeRun = some run ∧ run.runId = r else w.Active a r := by
  simp only [Active, tasks, OrdMap.get_insert]
  split
  · simp only [Option.some.injEq, exists_and_left, exists_eq_left']
  · rfl

lemma active_of_idle (tasks : w'.tasks = w.tasks.insert id task) (idle : task.activeRun = none)
    (active : w'.Active a r) : id ≠ a ∧ w.Active a r := by
  rw [active_insert tasks] at active
  split at active
  · obtain ⟨run, some, -⟩ := active
    rw [idle] at some
    cases some
  · exact ⟨‹_›, active⟩

lemma active_insert_ne (tasks : w'.tasks = w.tasks.insert id task) (other : id ≠ a) : w'.Active a r ↔ w.Active a r := by
  rw [active_insert tasks, if_neg other]

lemma idle_insert (tasks : w'.tasks = w.tasks.insert id task) (idle : task.activeRun = none) (h : w.Idle a) :
    w'.Idle a := by
  rw [Idle, tasks, OrdMap.get_insert]
  split
  · exact ⟨task, rfl, idle⟩
  · exact h

lemma key_insert (tasks : w'.tasks = w.tasks.insert id task)
    (keys : ∀ (a : String) (other : TaskInfo), w.tasks[a]? = some other → other.taskId = a) (key : task.taskId = id)
    (a : String) (other : TaskInfo) (found : w'.tasks[a]? = some other) : other.taskId = a := by
  rw [tasks, OrdMap.get_insert] at found
  split at found
  · rename_i same
    cases found
    exact key.trans same
  · exact keys a other found

/-- What the waiters leave as it is for the request under way. -/
structure Keeps (w w' : World) : Prop where
  there : ∀ id : String, (∃ task, w.tasks[id]? = some task) → ∃ task, w'.tasks[id]? = some task
  idle : ∀ id, w.Idle id → w'.Idle id
  unwaited : ∀ r : String, w'.waiters[r]? = none ↔ w.waiters[r]? = none
  unhandled : ∀ id : String, w.runtimes[id]? = none → w'.runtimes[id]? = none
  published : ∀ id r, w.waiters[r]? = none → w.Active id r → w'.Active id r
  started : ∀ (id : String) (task : TaskInfo) (run : RunInfo), w.tasks[id]? = some task →
    task.activeRun.or task.lastRun = some run → ∃ task' run', w'.tasks[id]? = some task' ∧
      task'.activeRun.or task'.lastRun = some run' ∧ run'.runId = run.runId

lemma Keeps.of_tasks (tasks : w'.tasks = w.tasks)
    (unwaited : ∀ r : String, w'.waiters[r]? = none ↔ w.waiters[r]? = none)
    (unhandled : ∀ id : String, w.runtimes[id]? = none → w'.runtimes[id]? = none) :
    w.Keeps w' where
  there id h := tasks ▸ h
  idle id h := by
    rw [Idle, tasks]
    exact h
  unwaited := unwaited
  unhandled := unhandled
  published id r _ h := by
    rw [Active, tasks]
    exact h
  started id task run found h := ⟨task, run, tasks ▸ found, h, rfl⟩

end World

lemma CallInv.keep {call call' : Call} (keeps : w.Keeps w') (inv : CallInv w call)
    (request : call'.request = call.request) (point : call'.point = call.point)
    (earlier : call'.earlier = call.earlier) : CallInv w' call' := by
  rw [CallInv] at inv ⊢
  rw [request, point, earlier]
  cases at_ : call.point with
  | showRestarted => rwa [at_] at inv
  | resolveStart =>
    rw [at_] at inv
    exact inv.imp_right fun idle restarts => keeps.idle _ (idle restarts)
  | publishRun =>
    rw [at_] at inv
    exact inv.imp_right (keeps.idle _)
  | publishHandle id runId =>
    rw [at_] at inv
    obtain ⟨starts, active, unwaited, unhandled, new⟩ := inv
    exact ⟨starts, keeps.published _ _ unwaited active, (keeps.unwaited _).2 unwaited,
      keeps.unhandled _ unhandled, new⟩
  | showStarted id =>
    rw [at_] at inv
    obtain ⟨starts, task, run, found, last, new⟩ := inv
    obtain ⟨task', run', found', last', same⟩ := keeps.started id task run found last
    exact ⟨starts, task', run', found', last', same ▸ new⟩
  | markStopped =>
    rw [at_] at inv
    exact inv.imp_right fun there restarts => keeps.there _ (there restarts)
  | showUnhandled | showStopped =>
    rw [at_] at inv
    exact inv.imp_right (keeps.idle _)
  | sendStop id run =>
    rw [at_] at inv
    obtain ⟨stops, there, waiter, found⟩ := inv
    refine ⟨stops, keeps.there _ there, Option.ne_none_iff_exists'.1 fun none => ?_⟩
    rw [(keeps.unwaited _).1 none] at found
    cases found
  | checkInteractive | subscribe | lookupHandle | showUnsent | poll | await =>
    rw [at_] at inv
    exact inv.imp_right (keeps.there _)

lemma Inv.calls (inv : Inv w) (keeps : w.Keeps w') (same : w'.call = w.call) : ∀ call ∈ w'.call, CallInv w' call := by
  intro call current
  rw [same] at current
  exact (inv.call call current).keep keeps rfl rfl rfl

lemma unwaited_insert {waiters : OrdMap String Waiter} {runId : String} {waiter : Waiter}
    (found : waiters[runId]? = some waiter) (waiter' : Waiter) (r : String) :
    (waiters.insert runId waiter')[r]? = none ↔ waiters[r]? = none := by
  rw [OrdMap.get_insert]
  split
  · rename_i same
    subst same
    rw [found]
    exact ⟨nofun, nofun⟩
  · rfl

namespace Inv

variable {w : World} {runId : String} {waiter : Waiter} {id : String} {task : TaskInfo}

lemma knows_insert (inv : Inv w) (found : w.waiters[runId]? = some waiter) (waiter' : Waiter)
    (returned : waiter.phase = .returned → waiter'.phase = .returned) :
    (∀ call ∈ w.call, ∀ r ∈ call.earlier, (w.waiters.insert runId waiter')[r]? ≠ none) ∧
    (∀ call ∈ w.call, ∀ entry ∈ call.heard, ∃ waiter,
      (w.waiters.insert runId waiter')[entry.2]? = some waiter ∧ waiter.phase = .returned) := by
  refine ⟨fun call current r old => ?_, fun call current entry mem => ?_⟩
  · rw [ne_eq, unwaited_insert found]
    exact inv.earlier call current r old
  · obtain ⟨other, found', done⟩ := inv.heard call current entry mem
    rw [OrdMap.get_insert]
    split
    · rename_i same
      subst same
      cases found.symm.trans found'
      exact ⟨waiter', rfl, returned done⟩
    · exact ⟨other, found', done⟩

lemma rewait (inv : Inv w) (found : w.waiters[runId]? = some waiter) (waiter' : Waiter)
    (taskId : waiter'.taskId = waiter.taskId) (held : waiter'.phase.Held ↔ waiter.phase.Held)
    (removed : waiter'.phase.Removed ↔ waiter.phase.Removed)
    (returned : waiter.phase = .returned → waiter'.phase = .returned) :
    Inv { w with waiters := w.waiters.insert runId waiter' } := by
  have keeps : w.Keeps { w with waiters := w.waiters.insert runId waiter' } :=
    .of_tasks rfl (unwaited_insert found waiter') fun _ h => h
  obtain ⟨earlier, heard⟩ := inv.knows_insert found waiter' returned
  refine ⟨inv.key, fun id r active => ?_, inv.runtime, fun r other there live => ?_, earlier, heard,
    inv.calls keeps rfl, inv.reply⟩
  · rcases inv.active id r active with ⟨unwaited, rest⟩ | ⟨other, found', task, phase⟩
    · exact .inl ⟨(keeps.unwaited r).2 unwaited, rest⟩
    · right
      by_cases same : runId = r
      · subst same
        cases found.symm.trans found'
        refine ⟨waiter', by rw [OrdMap.get_insert, if_pos rfl], taskId.trans task, ?_⟩
        rw [held, removed]
        exact phase
      · exact ⟨other, by rw [OrdMap.get_insert, if_neg same]; exact found', task, phase⟩
  · rw [OrdMap.get_insert] at there
    split at there
    · rename_i same
      subst same
      cases there
      rw [held, removed] at live
      rw [taskId]
      exact inv.waiter runId waiter found live
    · exact inv.waiter r other there live

lemma hear (inv : Inv w) {taskId : String} (found : w.waiters[runId]? = some waiter)
    (returned : waiter.phase = .returned) :
    Inv { w with
      call := w.call.map fun call => { call with heard := call.heard ++ [(taskId, runId)] } } := by
  refine ⟨inv.key, fun id r active => ?_, inv.runtime, inv.waiter, fun call current => ?_,
    fun call current entry mem => ?_, fun call current => ?_, inv.reply⟩
  · rcases inv.active id r active with ⟨unwaited, unhandled, call, current, point⟩ | waited
    · exact .inl ⟨unwaited, unhandled, _, Option.map_eq_some_iff.2 ⟨call, current, rfl⟩, point⟩
    · exact .inr waited
  · obtain ⟨old, current', rfl⟩ := Option.map_eq_some_iff.1 current
    exact inv.earlier old current'
  · obtain ⟨old, current', rfl⟩ := Option.map_eq_some_iff.1 current
    rcases List.mem_append.1 mem with before | new
    · exact inv.heard old current' entry before
    · cases List.mem_singleton.1 new
      exact ⟨waiter, found, returned⟩
  · obtain ⟨old, current', rfl⟩ := Option.map_eq_some_iff.1 current
    exact (inv.call old current').keep (.of_tasks rfl (fun _ => .rfl) fun _ h => h) rfl rfl rfl

lemma waits_unique (inv : Inv w) (found : w.waiters[runId]? = some waiter) (active : w.Active id runId) :
    waiter.taskId = id := by
  rcases inv.active id runId active with ⟨unwaited, -⟩ | ⟨other, found', task, -⟩
  · rw [found] at unwaited
    cases unwaited
  · cases found.symm.trans found'
    exact task

lemma unhandle (inv : Inv w) (found : w.waiters[runId]? = some waiter) (held : waiter.phase.Held)
    (waiter' : Waiter) (taskId : waiter'.taskId = waiter.taskId) (removed : waiter'.phase.Removed) :
    Inv { w with
      runtimes := w.runtimes.erase waiter.taskId
      waiters := w.waiters.insert runId waiter' } := by
  have mine := inv.waiter runId waiter found (.inl held)
  have keeps : w.Keeps { w with
      runtimes := w.runtimes.erase waiter.taskId
      waiters := w.waiters.insert runId waiter' } := by
    refine .of_tasks rfl (unwaited_insert found waiter') fun id none => ?_
    change (w.runtimes.erase waiter.taskId)[id]? = _
    rw [OrdMap.get_erase, none, ite_self]
  obtain ⟨earlier, heard⟩ := inv.knows_insert found waiter' fun returned => by
    rw [returned] at held
    cases held
  refine ⟨inv.key, fun id r active => ?_, fun id r there => ?_, fun r other there live => ?_, earlier,
    heard, inv.calls keeps rfl, inv.reply⟩
  · rcases inv.active id r active with ⟨unwaited, unhandled, rest⟩ | ⟨other, found', task, phase⟩
    · exact .inl ⟨(keeps.unwaited r).2 unwaited, keeps.unhandled id unhandled, rest⟩
    · right
      by_cases same : waiter.taskId = id
      · subst same
        obtain rfl := mine.unique active
        refine ⟨waiter', ?_, taskId, .inr ⟨removed, ?_⟩⟩
        · rw [OrdMap.get_insert, if_pos rfl]
        · rw [OrdMap.get_erase, if_pos rfl]
      · refine ⟨other, ?_, task, ?_⟩
        · rw [OrdMap.get_insert, if_neg]
          · exact found'
          · rintro rfl
            exact same (inv.waits_unique found active)
        · rw [OrdMap.get_erase, if_neg same]
          exact phase
  · rw [OrdMap.get_erase] at there
    split at there
    · cases there
    · exact inv.runtime id r there
  · rw [OrdMap.get_insert] at there
    split at there
    · rename_i same
      subst same
      cases there
      rw [taskId]
      exact mine
    · exact inv.waiter r other there live

lemma clear (inv : Inv w) (found : w.waiters[runId]? = some waiter) (removed : waiter.phase.Removed)
    (waiter' : Waiter) (cleared : ¬ waiter'.phase.Held ∧ ¬ waiter'.phase.Removed) {run : RunInfo}
    (there : w.tasks[waiter.taskId]? = some task) (active : task.activeRun = some run) {state : RunState}
    {exitCode : Option Int} {now : Nat} {w' : World}
    (tasks : w'.tasks = w.tasks.insert waiter.taskId (task.finished run state exitCode now))
    (waiters : w'.waiters = w.waiters.insert runId waiter') (runtimes : w'.runtimes = w.runtimes)
    (call : w'.call = w.call) (reply : w'.reply = w.reply) : Inv w' := by
  have idle : (task.finished run state exitCode now).activeRun = none := rfl
  have mine := inv.waiter runId waiter found (.inr removed)
  have keeps : w.Keeps w' := by
    refine ⟨fun id there => ?_, fun id => World.idle_insert tasks idle, fun r => ?_, fun id none => ?_,
      fun id r unwaited active => ?_, fun id other run found last' => ?_⟩
    · rw [tasks, OrdMap.get_insert]
      split
      · exact ⟨_, rfl⟩
      · exact there
    · rw [waiters]
      exact unwaited_insert found waiter' r
    · rw [runtimes]
      exact none
    · refine (World.active_insert_ne tasks ?_).2 active
      rintro rfl
      cases mine.unique active
      rw [found] at unwaited
      cases unwaited
    · rw [tasks, OrdMap.get_insert]
      split
      · rename_i eq
        subst eq
        cases there.symm.trans found
        rw [active, Option.some_or] at last'
        cases last'
        exact ⟨_, _, rfl, rfl, rfl⟩
      · exact ⟨other, run, found, last', rfl⟩
  obtain ⟨earlier, heard⟩ := inv.knows_insert found waiter' fun returned => by
    rw [returned] at removed
    cases removed
  refine ⟨World.key_insert tasks inv.key (inv.key _ task there), fun id r active => ?_,
    fun id r handle => ?_, fun r other there live => ?_, ?_, ?_, inv.calls keeps call, ?_⟩
  · obtain ⟨ne, before⟩ := World.active_of_idle tasks idle active
    rcases inv.active id r before with ⟨unwaited, unhandled, c, current, point⟩ | waited
    · exact .inl ⟨(keeps.unwaited r).2 unwaited, keeps.unhandled id unhandled, c,
        call.trans current, point⟩
    · obtain ⟨other, found', task, phase⟩ := waited
      refine .inr ⟨other, ?_, task, runtimes ▸ phase⟩
      rw [waiters, OrdMap.get_insert, if_neg]
      · exact found'
      · rintro rfl
        exact ne (inv.waits_unique found before)
  · rw [runtimes] at handle
    have before := inv.runtime id r handle
    refine (World.active_insert_ne tasks ?_).2 before
    rintro rfl
    obtain rfl := mine.unique before
    rcases inv.active _ _ mine with ⟨unwaited, -⟩ | ⟨other, found', -, ⟨held, -⟩ | ⟨-, unhandled⟩⟩
    · rw [found] at unwaited
      cases unwaited
    · cases found.symm.trans found'
      cases phase : waiter.phase <;> rw [phase] at held removed <;> trivial
    · rw [handle] at unhandled
      cases unhandled
  · rw [waiters, OrdMap.get_insert] at there
    split at there
    · cases there
      exact (live.elim cleared.1 cleared.2).elim
    · have before := inv.waiter r other there live
      refine (World.active_insert_ne tasks fun eq => ?_).2 before
      rw [← eq] at before
      exact ‹runId ≠ r› (mine.unique before)
  · rw [call, waiters]
    exact earlier
  · rw [call, waiters]
    exact heard
  · rw [reply]
    exact inv.reply

lemma define (inv : Inv w) (quiet : w.call = none) (key : task.taskId = id) (idle : task.activeRun = none)
    (before : ∀ r, ¬ w.Active id r) : Inv { w with tasks := w.tasks.insert id task } := by
  have no_call (call : Call) : call ∉ w.call := by
    rw [quiet]
    exact nofun
  refine ⟨World.key_insert rfl inv.key key, fun a r active => ?_, fun a r handle => ?_,
    fun r waiter found live => ?_, inv.earlier, inv.heard, fun call current => ?_, inv.reply⟩
  · exact inv.active a r (World.active_of_idle rfl idle active).2
  · have active := inv.runtime a r handle
    refine (World.active_insert_ne rfl ?_).2 active
    rintro rfl
    exact before r active
  · have active := inv.waiter r waiter found live
    refine (World.active_insert_ne rfl ?_).2 active
    rintro rfl
    exact before r active
  · exact (no_call call current).elim

lemma remove (inv : Inv w) (quiet : w.call = none) (before : ∀ r, ¬ w.Active id r) :
    Inv { w with tasks := w.tasks.erase id } := by
  have no_call (call : Call) : call ∉ w.call := by
    rw [quiet]
    exact nofun
  have active_iff (a r : String) :
      { w with tasks := w.tasks.erase id }.Active a r ↔ w.Active a r := by
    simp only [World.Active, OrdMap.get_erase]
    split
    · rename_i eq
      subst eq
      constructor
      · rintro ⟨task, run, found, -⟩
        cases found
      · exact fun active => (before r active).elim
    · rfl
  refine ⟨fun a task found => ?_, fun a r active => ?_, fun a r handle => ?_,
    fun r waiter found live => ?_, inv.earlier, inv.heard, fun call current => ?_, inv.reply⟩
  · rw [OrdMap.get_erase] at found
    split at found
    · cases found
    · exact inv.key a task found
  · exact inv.active a r ((active_iff a r).1 active)
  · exact (active_iff a r).2 (inv.runtime a r handle)
  · exact (active_iff _ r).2 (inv.waiter r waiter found live)
  · exact (no_call call current).elim

lemma request (inv : Inv w) (quiet : w.call = none) (request : Request) :
    Inv { w with call := some ⟨request, request.first, [], w.waiters.keys⟩ } := by
  refine ⟨inv.key, fun id r active => ?_, inv.runtime, inv.waiter, fun call current r old => ?_,
    fun call current entry mem => ?_, fun call current => ?_, inv.reply⟩
  · rcases inv.active id r active with ⟨-, -, call, current, -⟩ | waited
    · rw [quiet] at current
      cases current
    · exact .inr waited
  · cases current
    intro none
    have old := Std.ExtTreeMap.mem_keys.1 old
    rw [Std.ExtTreeMap.mem_iff_isSome_getElem?, none] at old
    cases old
  · cases current
    cases mem
  · cases current
    cases request with
    | start selector => exact ⟨trivial, fun restarts => restarts.elim⟩
    | stop selector => exact ⟨trivial, fun restarts => restarts.elim⟩
    | restart selector => trivial

end Inv

/-! ### The sections of a request -/

namespace Inv

variable {w : World} {call : Call} {id selector : String} {task : TaskInfo} {runId : String}

lemma desire (inv : Inv w) (current : w.call = some call) (point : ∀ id runId, call.point ≠ .publishHandle id runId)
    (found : w.tasks[id]? = some task) (task' : TaskInfo) (key : task'.taskId = task.taskId)
    (active : task'.activeRun = task.activeRun) (call' : Call) (earlier : call'.earlier = call.earlier)
    (heard : call'.heard = call.heard)
    (ok : CallInv { w with tasks := w.tasks.insert id task', call := some call' } call') :
    Inv { w with tasks := w.tasks.insert id task', call := some call' } := by
  have active_iff (a r : String) :
      { w with tasks := w.tasks.insert id task', call := some call' }.Active a r ↔ w.Active a r := by
    rw [World.active_insert rfl, active]
    split
    · rename_i eq
      subst eq
      simp only [World.Active, found, Option.some.injEq, exists_and_left, exists_eq_left']
    · rfl
  refine ⟨World.key_insert rfl inv.key (key.trans (inv.key id task found)), fun a r active => ?_,
    fun a r handle => ?_, fun r waiter found live => ?_, fun c mem r old => ?_,
    fun c mem entry old => ?_, fun c mem => ?_, inv.reply⟩
  · exact .inr (inv.waited current point ((active_iff a r).1 active))
  · exact (active_iff a r).2 (inv.runtime a r handle)
  · exact (active_iff _ r).2 (inv.waiter r waiter found live)
  · cases mem
    exact inv.earlier call current r (earlier ▸ old)
  · cases mem
    exact inv.heard call current entry (heard ▸ old)
  · cases mem
    exact ok

lemma publishRun (inv : Inv w) (current : w.call = some call)
    (point : ∀ id runId, call.point ≠ .publishHandle id runId) (starts : call.request.Starts) (idle : w.Idle id)
    {task' : TaskInfo} (run : RunInfo) (found : w.tasks[id]? = some task) (unwaited : w.waiters[run.runId]? = none)
    (key : task'.taskId = task.taskId) (active : task'.activeRun = some run) :
    Inv { w with
      tasks := w.tasks.insert id task'
      call := some { call with point := .publishHandle id run.runId } } := by
  have unhandled : w.runtimes[id]? = none := by
    cases handle : w.runtimes[id]? with
    | none => rfl
    | some r => exact (idle.not_active (inv.runtime id r handle)).elim
  have mine : { w with
      tasks := w.tasks.insert id task'
      call := some { call with point := .publishHandle id run.runId } }.Active id run.runId := by
    rw [World.active_insert rfl, if_pos rfl]
    exact ⟨run, active, rfl⟩
  refine ⟨World.key_insert rfl inv.key (key.trans (inv.key id task found)), fun a r active' => ?_,
    fun a r handle => ?_, fun r waiter there live => ?_, fun c mem r old => ?_,
    fun c mem entry old => ?_, fun c mem => ?_, inv.reply⟩
  · by_cases eq : id = a
    · subst eq
      obtain rfl := mine.unique active'
      exact .inl ⟨unwaited, unhandled, _, rfl, rfl⟩
    · exact .inr (inv.waited current point ((World.active_insert_ne rfl eq).1 active'))
  · have before := inv.runtime a r handle
    exact (World.active_insert_ne rfl fun eq => idle.not_active (eq ▸ before)).2 before
  · have before := inv.waiter r waiter there live
    exact (World.active_insert_ne rfl fun eq => idle.not_active (eq ▸ before)).2 before
  · cases mem
    exact inv.earlier call current r old
  · cases mem
    exact inv.heard call current entry old
  · cases mem
    exact ⟨starts, mine, unwaited, unhandled, fun old => inv.earlier call current _ old unwaited⟩

lemma publishHandle (inv : Inv w) (current : w.call = some call) (point : call.point = .publishHandle id runId) :
    Inv { w with
      runtimes := w.runtimes.insert id runId
      waiters := w.waiters.insert runId ⟨id, false, .waiting⟩
      call := some { call with point := .showStarted id } } := by
  have ok := inv.call call current
  rw [CallInv, point] at ok
  obtain ⟨starts, mine, unwaited, unhandled, new⟩ := ok
  refine ⟨inv.key, fun a r active => .inr ?_, fun a r handle => ?_, fun r waiter there live => ?_,
    fun c mem r old => ?_, fun c mem entry old => ?_, fun c mem => ?_, inv.reply⟩
  · by_cases eq : id = a
    · subst eq
      obtain rfl := mine.unique active
      refine ⟨⟨id, false, .waiting⟩, ?_, rfl, .inl ⟨trivial, ?_⟩⟩
      · rw [OrdMap.get_insert, if_pos rfl]
      · rw [OrdMap.get_insert, if_pos rfl]
    · rcases inv.active a r active with ⟨-, -, c, current', at_⟩ | ⟨waiter, found, task, phase⟩
      · cases current.symm.trans current'
        cases point.symm.trans at_
        exact (eq rfl).elim
      · refine ⟨waiter, ?_, task, ?_⟩
        · rw [OrdMap.get_insert, if_neg]
          · exact found
          · rintro rfl
            rw [unwaited] at found
            cases found
        · rw [OrdMap.get_insert, if_neg eq]
          exact phase
  · rw [OrdMap.get_insert] at handle
    split at handle
    · rename_i eq
      cases handle
      exact eq ▸ mine
    · exact inv.runtime a r handle
  · rw [OrdMap.get_insert] at there
    split at there
    · rename_i eq
      cases there
      exact eq ▸ mine
    · exact inv.waiter r waiter there live
  · cases mem
    rw [ne_eq, OrdMap.get_insert]
    split
    · exact nofun
    · exact inv.earlier call current r old
  · cases mem
    obtain ⟨waiter, found, returned⟩ := inv.heard call current entry old
    refine ⟨waiter, ?_, returned⟩
    rw [OrdMap.get_insert, if_neg]
    · exact found
    · rintro rfl
      rw [unwaited] at found
      cases found
  · cases mem
    obtain ⟨task, run, found, active, rfl⟩ := mine
    refine ⟨starts, task, run, found, ?_, new⟩
    rw [active, Option.some_or]

lemma shown (inv : Inv w) (found : w.showTask selector = .ok task) : w.tasks[task.taskId]? = some task := by
  obtain ⟨id, there⟩ := resolveTask_spec found
  rw [inv.key id task there]
  exact there

lemma lookup_none (inv : Inv w) (current : w.call = some call) (point : call.point = .lookupHandle id)
    (quiet : undisturbed w (.proceed "" 0) = true) (unhandled : w.runtimes[id]? = none)
    (found : w.tasks[id]? = some task) : w.Idle id := by
  refine (World.idle_or_active found).resolve_right ?_
  rintro ⟨r, active⟩
  have published (id runId : String) : call.point ≠ .publishHandle id runId := by
    rw [point]
    exact nofun
  obtain ⟨waiter, there, taskId, ⟨-, handle⟩ | ⟨removed, -⟩⟩ := inv.waited current published active
  · rw [handle] at unhandled
    cases unhandled
  · simp only [undisturbed, current, point, List.all_eq_true] at quiet
    have := quiet waiter (OrdMap.mem_valueList.2 ⟨r, there⟩)
    cases phase : waiter.phase with
    | removed => simp [phase, taskId] at this
    | _ =>
      rw [phase] at removed
      cases removed

lemma await_own (inv : Inv w) (current : w.call = some call) {heard : List (String × String)}
    (point : call.point = .await id) (head : call.heard = (id, runId) :: heard)
    (quiet : undisturbed w (.proceed "" 0) = true) (found : w.tasks[id]? = some task) : w.Idle id := by
  refine (World.idle_or_active found).resolve_right ?_
  rintro ⟨r, active⟩
  have published (id runId : String) : call.point ≠ .publishHandle id runId := by
    rw [point]
    exact nofun
  obtain ⟨waiter, there, -, phase⟩ := inv.waited current published active
  obtain ⟨task', run, found', active', rfl⟩ := active
  cases found.symm.trans found'
  simp only [undisturbed, current, point, head, found, active', ne_eq, not_true_eq_false,
    decide_false, Bool.false_or, Option.all_some, decide_eq_true_eq] at quiet
  obtain ⟨other, there', returned⟩ := inv.heard call current (id, runId)
    (head ▸ List.mem_cons_self ..)
  rw [quiet] at there
  cases there.symm.trans there'
  rw [returned] at phase
  obtain ⟨held, -⟩ | ⟨removed, -⟩ := phase
  · cases held
  · cases removed

lemma not_publishing {p : Point} (at_ : call.point = p) (other : ∀ id r, p ≠ .publishHandle id r)
    (id r : String) : call.point ≠ .publishHandle id r := at_ ▸ other id r

variable {w' : World} {runId : String} {now : Nat}

lemma proceed_resolveStart (inv : Inv w) (current : w.call = some call) (at_ : call.point = .resolveStart selector)
    (h : proceed w call runId now = some w') : Inv w' := by
  have ok := inv.call call current
  rw [CallInv, at_] at ok
  have point := not_publishing at_ nofun
  simp only [proceed, at_] at h
  cases shown : w.showTask selector with
  | error e =>
    rw [shown] at h
    cases h
    have code := resolveTask_error shown
    refine inv.answer current point ?_
    cases request : call.request with
    | start => simp only [Reply.Clean, code, ne_eq, reduceCtorEq, not_false_eq_true]
    | stop => rw [request] at ok; cases ok.1
    | restart => exact code
  | ok task =>
    rw [shown] at h
    dsimp only at h
    split at h
    · rename_i active
      cases h
      refine inv.answer current point ?_
      cases request : call.request with
      | start => simp only [Reply.Clean, ne_eq, reduceCtorEq, not_false_eq_true]
      | stop => rw [request] at ok; cases ok.1
      | restart =>
        rw [request] at ok
        obtain ⟨task', found, idle⟩ := ok.2 trivial
        cases shown.symm.trans (resolveTask_of_key found)
        rw [idle] at active
        cases active
    · split at h
      · cases h
      · rename_i idle _
        cases h
        refine inv.goto current point rfl (fun _ mem => mem) ⟨ok.1, task, inv.shown shown, ?_⟩
        exact Option.not_isSome_iff_eq_none.1 idle

lemma proceed_showStarted (inv : Inv w) (current : w.call = some call) (at_ : call.point = .showStarted id)
    (h : proceed w call runId now = some w') : Inv w' := by
  have ok := inv.call call current
  rw [CallInv, at_] at ok
  simp only [proceed, at_] at h
  cases h
  obtain ⟨starts, task, run, found, last, new⟩ := ok
  refine inv.answer current (not_publishing at_ nofun) ?_
  rw [World.showTask, resolveTask_of_key found]
  cases request : call.request with
  | start => trivial
  | stop => rw [request] at starts; cases starts
  | restart => exact ⟨run, last, new⟩

lemma proceed_showRestarted (inv : Inv w) (current : w.call = some call) (at_ : call.point = .showRestarted selector)
    (h : proceed w call runId now = some w') : Inv w' := by
  have restarts := inv.call call current
  rw [CallInv, at_] at restarts
  have point := not_publishing at_ nofun
  simp only [proceed, at_] at h
  cases request : call.request with
  | start => rw [request] at restarts; cases restarts
  | stop => rw [request] at restarts; cases restarts
  | restart =>
    cases shown : w.showTask selector with
    | error e =>
      rw [shown] at h
      cases h
      refine inv.answer current point ?_
      rw [request]
      exact resolveTask_error shown
    | ok task =>
      rw [shown] at h
      dsimp only at h
      have found := inv.shown shown
      split at h
      · cases h
        refine inv.goto current point rfl (fun _ mem => mem) ⟨?_, fun _ => ⟨task, found⟩⟩
        rw [request]
        trivial
      · rename_i idle
        cases h
        refine inv.goto current point rfl (fun _ mem => mem) ⟨?_, fun _ => ⟨task, found, ?_⟩⟩
        · rw [request]
          trivial
        · exact Option.not_isSome_iff_eq_none.1 idle

lemma proceed_markStopped (inv : Inv w) (current : w.call = some call) (at_ : call.point = .markStopped selector)
    (quiet : undisturbed w (.proceed runId now) = true) (h : proceed w call runId now = some w') : Inv w' := by
  have ok := inv.call call current
  rw [CallInv, at_] at ok
  have point := not_publishing at_ nofun
  simp only [proceed, at_] at h
  cases shown : w.showTask selector with
  | error e =>
    rw [shown] at h
    cases h
    exact inv.stopReturns_error current point ok.1 (.inl (resolveTask_error shown))
  | ok task =>
    rw [shown] at h
    dsimp only at h
    split at h
    · rename_i idle
      cases h
      refine inv.stopReturns_error current point ok.1 (.inr ⟨rfl, fun restarts => ?_⟩)
      cases request : call.request with
      | start => rw [request] at restarts; cases restarts
      | stop => rw [request] at restarts; cases restarts
      | restart =>
        -- The run that `restart` has seen is still there.
        obtain ⟨task', found⟩ := ok.2 restarts
        cases shown.symm.trans (resolveTask_of_key found)
        simp only [undisturbed, current, at_, request, found, Option.any_some] at quiet
        rw [Option.isNone_iff_eq_none] at idle
        rw [idle] at quiet
        cases quiet
    · cases h
      refine inv.desire current point (inv.shown shown) { task with desiredState := .stopped } rfl rfl
        { call with point := .checkInteractive task.taskId } rfl rfl ⟨ok.1, ?_⟩
      exact ⟨_, by rw [OrdMap.get_insert, if_pos rfl]⟩

lemma proceed_shown (inv : Inv w) (current : w.call = some call)
    (point : ∀ id runId, call.point ≠ .publishHandle id runId) (ok : call.request.Stops ∧ w.Idle id) :
    ∃ task, w.showTask id = .ok task ∧ task.activeRun = none ∧
      Inv (w.stopReturns call (.ok task)) := by
  obtain ⟨stops, task, found, idle⟩ := ok
  exact ⟨task, resolveTask_of_key found, idle, inv.stopReturns_ok current point stops found idle⟩

lemma proceed_poll (inv : Inv w) (current : w.call = some call) (at_ : call.point = .poll id)
    (h : proceed w call runId now = some w') : Inv w' := by
  have ok := inv.call call current
  rw [CallInv, at_] at ok
  have point := not_publishing at_ nofun
  obtain ⟨stops, task, found⟩ := ok
  simp only [proceed, at_, World.showTask, resolveTask_of_key found] at h
  split at h
  · rename_i idle
    cases h
    refine inv.goto current point rfl (fun _ mem => mem) ⟨stops, task, found, ?_⟩
    exact Option.isNone_iff_eq_none.1 idle
  · cases h
    exact inv.goto current point rfl (fun _ mem => mem) ⟨stops, task, found⟩

lemma proceed_await (inv : Inv w) (current : w.call = some call) (at_ : call.point = .await id)
    (quiet : undisturbed w (.proceed runId now) = true) (h : proceed w call runId now = some w') : Inv w' := by
  have ok := inv.call call current
  rw [CallInv, at_] at ok
  have point := not_publishing at_ nofun
  obtain ⟨stops, task, found⟩ := ok
  simp only [proceed, at_] at h
  cases head : call.heard with
  | nil =>
    rw [head] at h
    cases h
  | cons entry heard =>
    obtain ⟨id', r⟩ := entry
    have rest (entry : String × String) (mem : entry ∈ heard) : entry ∈ call.heard :=
      head ▸ List.mem_cons_of_mem _ mem
    rw [head] at h
    dsimp only at h
    split at h
    · rename_i eq
      subst eq
      cases h
      exact inv.goto current point rfl rest ⟨stops, inv.await_own current at_ head quiet found⟩
    · cases h
      exact inv.goto current point rfl rest ⟨stops, task, found⟩

lemma proceed_lookupHandle (inv : Inv w) (current : w.call = some call) (at_ : call.point = .lookupHandle id)
    (quiet : undisturbed w (.proceed runId now) = true) (h : proceed w call runId now = some w') : Inv w' := by
  have ok := inv.call call current
  rw [CallInv, at_] at ok
  have point := not_publishing at_ nofun
  obtain ⟨stops, task, found⟩ := ok
  simp only [proceed, at_] at h
  cases handle : w.runtimes[id]? with
  | none =>
    rw [handle] at h
    cases h
    exact inv.goto current point rfl (fun _ mem => mem)
      ⟨stops, inv.lookup_none current at_ quiet handle found⟩
  | some r =>
    rw [handle] at h
    cases h
    obtain ⟨waiter, there, -⟩ := inv.waited current point (inv.runtime id r handle)
    exact inv.goto current point rfl (fun _ mem => mem) ⟨stops, ⟨task, found⟩, waiter, there⟩

lemma proceed_sendStop (inv : Inv w) (current : w.call = some call) {r : String} (at_ : call.point = .sendStop id r)
    (h : proceed w call runId now = some w') : Inv w' := by
  have ok := inv.call call current
  rw [CallInv, at_] at ok
  have point := not_publishing at_ nofun
  obtain ⟨stops, there, waiter, found⟩ := ok
  simp only [proceed, at_, found] at h
  split at h
  · cases h
    exact inv.goto current point rfl (fun _ mem => mem) ⟨stops, there⟩
  · cases h
    have asked := inv.rewait found { waiter with stopRequested := true } rfl .rfl .rfl fun same => same
    exact asked.goto current point rfl (fun _ mem => mem) ⟨stops, there⟩

lemma proceed (inv : Inv w) (current : w.call = some call) (quiet : undisturbed w (.proceed runId now) = true)
    (h : proceed w call runId now = some w') : Inv w' := by
  have ok := inv.call call current
  cases at_ : call.point with
  | showRestarted => exact inv.proceed_showRestarted current at_ h
  | resolveStart => exact inv.proceed_resolveStart current at_ h
  | publishRun id definition =>
    rw [CallInv, at_] at ok
    simp only [Lifecycle.proceed, at_] at h
    split at h
    · rename_i task found unwaited
      cases h
      exact inv.publishRun current (not_publishing at_ nofun) ok.1 ok.2
        (startedRun definition runId now) found unwaited rfl rfl
    · cases h
  | publishHandle =>
    simp only [Lifecycle.proceed, at_] at h
    cases h
    exact inv.publishHandle current at_
  | showStarted => exact inv.proceed_showStarted current at_ h
  | markStopped => exact inv.proceed_markStopped current at_ quiet h
  | checkInteractive =>
    rw [CallInv, at_] at ok
    obtain ⟨stops, task, found⟩ := ok
    simp only [Lifecycle.proceed, at_, World.showTask, resolveTask_of_key found] at h
    split at h
    · cases h
    · cases h
      exact inv.goto current (not_publishing at_ nofun) rfl (fun _ mem => mem) ⟨stops, task, found⟩
  | subscribe =>
    rw [CallInv, at_] at ok
    simp only [Lifecycle.proceed, at_] at h
    cases h
    exact inv.goto current (not_publishing at_ nofun) rfl nofun ok
  | lookupHandle => exact inv.proceed_lookupHandle current at_ quiet h
  | showUnhandled | showStopped =>
    rw [CallInv, at_] at ok
    obtain ⟨task, shown, idle, returned⟩ := inv.proceed_shown current (not_publishing at_ nofun) ok
    simp only [Lifecycle.proceed, at_, shown, idle, Option.isNone_none, if_true] at h
    cases h
    exact returned
  | sendStop => exact inv.proceed_sendStop current at_ h
  | showUnsent =>
    rw [CallInv, at_] at ok
    have point := not_publishing at_ nofun
    obtain ⟨stops, task, found⟩ := ok
    simp only [Lifecycle.proceed, at_, World.showTask, resolveTask_of_key found] at h
    split at h
    · rename_i idle
      cases h
      exact inv.stopReturns_ok current point stops found (Option.isNone_iff_eq_none.1 idle)
    · cases h
      exact inv.goto current point rfl (fun _ mem => mem) ⟨stops, task, found⟩
  | poll => exact inv.proceed_poll current at_ h
  | await => exact inv.proceed_await current at_ quiet h

lemma step_clearRun (inv : Inv w) (h : step w (.clearRun runId now) = some w') : Inv w' := by
  simp only [step] at h
  split at h
  case h_2 => cases h
  case h_1 taskId stopRequested stopped exitCode waits =>
    -- The run is the active one of its task until its waiter has cleared it.
    obtain ⟨task, run, found, active, rfl⟩ := inv.waiter runId _ waits (.inr trivial)
    simp only [found, active, if_true] at h
    cases h
    exact inv.clear waits trivial ⟨taskId, stopRequested, .cleared⟩ ⟨nofun, nofun⟩ found active rfl rfl
      rfl rfl rfl

lemma step {a : Action} (inv : Inv w) (quiet : undisturbed w a = true) (h : step w a = some w') : Inv w' := by
  cases a with
  | define taskId definition =>
    simp only [Lifecycle.step] at h
    split at h
    · cases h
    · rename_i free
      have free := Option.not_isSome_iff_eq_none.1 free
      split at h
      · rename_i absent
        cases h
        refine inv.define free rfl rfl ?_
        rintro r ⟨task, run, found, -⟩
        rw [absent] at found
        cases found
      · rename_i task found
        split at h
        · cases h
        · rename_i idle
          cases h
          have idle := Option.not_isSome_iff_eq_none.1 idle
          refine inv.define free (inv.key taskId task found) idle fun r => ?_
          exact World.Idle.not_active ⟨task, found, idle⟩
  | remove taskId =>
    simp only [Lifecycle.step] at h
    split at h
    · cases h
    · rename_i free
      split at h
      · cases h
      · rename_i task found
        split at h
        · cases h
        · rename_i idle
          cases h
          refine inv.remove (Option.not_isSome_iff_eq_none.1 free) fun r => ?_
          exact World.Idle.not_active ⟨task, found, Option.not_isSome_iff_eq_none.1 idle⟩
  | request request =>
    simp only [Lifecycle.step] at h
    split at h
    · cases h
    · rename_i free
      cases h
      exact inv.request (Option.not_isSome_iff_eq_none.1 free) request
  | proceed r time =>
    simp only [Lifecycle.step] at h
    split at h
    · cases h
    · rename_i call current
      exact inv.proceed current quiet h
  | exit r stopped exitCode =>
    simp only [Lifecycle.step] at h
    split at h
    · cases h
    · rename_i waiter found
      split at h
      · rename_i cond
        cases h
        refine inv.rewait found { waiter with phase := .exited stopped exitCode } rfl ?_ ?_ ?_
        · rw [cond.1]
          exact .rfl
        · rw [cond.1]
          exact .rfl
        · rw [cond.1]
          exact nofun
      · cases h
  | removeHandle r =>
    simp only [Lifecycle.step] at h
    split at h
    · rename_i taskId stopRequested stopped exitCode found
      cases h
      exact inv.unhandle found trivial ⟨taskId, stopRequested, .removed stopped exitCode⟩ rfl trivial
    · cases h
  | clearRun r time => exact inv.step_clearRun h
  | broadcast r =>
    simp only [Lifecycle.step] at h
    split at h
    · rename_i taskId stopRequested found
      cases h
      have ended := inv.rewait found ⟨taskId, stopRequested, .returned⟩ rfl .rfl .rfl nofun
      exact ended.hear (OrdMap.get_insert _ r r _ ▸ if_pos rfl) rfl
    · cases h

lemma initial (init : Initial w) : Inv w := by
  have no_call (call : Call) : call ∉ w.call := by
    rw [init.call]
    exact nofun
  have idle {id r : String} : ¬ w.Active id r := by
    rintro ⟨task, run, found, active, -⟩
    rw [(init.tasks id task found).2] at active
    cases active
  refine ⟨fun id task found => (init.tasks id task found).1, fun id r active => (idle active).elim,
    fun id r handle => ?_, fun r waiter found => ?_, fun call mem => (no_call call mem).elim,
    fun call mem => (no_call call mem).elim, fun call mem => (no_call call mem).elim,
    fun reply mem => ?_⟩
  · rw [init.runtimes] at handle
    cases handle
  · rw [init.waiters] at found
    cases found
  · rw [init.reply] at mem
    cases mem

end Inv

/-- In every run whose requests are not disturbed by `finish_run`, stops and restarts do not fail
    because a process has exited, and active runs and handles agree. -/
theorem reachable_clean {w : World}
    (run : ReachableWhile step Initial (fun w a => undisturbed w a = true) w) : w.Clean :=
  (ReachableWhile.invariant Inv (fun _ => Inv.initial) (fun _ _ _ => Inv.step) run).clean

def idleDaemon : World := ⟨∅, ∅, ∅, none, none⟩

lemma idleDaemon_initial : Initial idleDaemon where
  tasks id task there := by cases there
  runtimes := rfl
  waiters := rfl
  call := rfl
  reply := rfl

/-- The task `t` is created and started as the run `r`. -/
def startedTask : List Action :=
  [.define "t" ⟨"build", "make", [], none, .background⟩, .request (.start "t"), .proceed "" 0,
    .proceed "r" 0, .proceed "" 0, .proceed "" 0]

/-- `finish_run` of the run `r` up to its broadcast. -/
def finishedRun (stopped : Bool) (exitCode : Option Int) : List Action :=
  [.exit "r" stopped exitCode, .removeHandle "r", .clearRun "r" 5]

/-- The task is restarted as the run `q`. -/
def restartedTask : List Action :=
  startedTask ++ Action.request (.restart "t") :: List.replicate 6 (Action.proceed "" 0) ++
    finishedRun true none ++ List.replicate 3 (Action.proceed "" 0) ++
    [Action.proceed "q" 6, .proceed "" 0, .proceed "" 0]

theorem reachable_clean_restarted :
    ∃ w, exec step idleDaemon restartedTask = some w ∧
      ((w.tasks["t"]?).bind (·.activeRun)).map (·.runId) = some "q" ∧ w.Clean := by
  obtain ⟨w, run⟩ : ∃ w, exec step idleDaemon restartedTask = some w :=
    Option.isSome_iff_exists.1 (by decide)
  have shown : (exec step idleDaemon restartedTask).map
      (fun w => ((w.tasks["t"]?).bind (·.activeRun)).map (·.runId)) = some (some "q") := by decide
  rw [run] at shown
  exact ⟨w, run, Option.some.inj shown,
    reachable_clean (ReachableWhile.exec (.start idleDaemon_initial) _ run (by decide))⟩

/-- The process exits and `finish_run` removes the handle before `stop` looks it up. -/
def lostHandle : List Action :=
  startedTask ++ [Action.exit "r" false (some 0), .request (.stop "t"), .proceed "" 0, .proceed "" 0,
    .proceed "" 0, .removeHandle "r", .proceed "" 0, .proceed "" 0]

/-- The process exits after `restart` has seen the run and before `stop` does. -/
def lateRestart : List Action :=
  startedTask ++ [Action.request (.restart "t"), .proceed "" 0] ++ finishedRun false (some 0) ++
    [Action.proceed "" 0]

/-- The end of the run `r` is broadcast while `stop` waits for the end of the run `q`. -/
def staleEnd : List Action :=
  startedTask ++ finishedRun false (some 0) ++
    [Action.request (.start "t"), .proceed "" 0, .proceed "q" 6, .proceed "" 0, .proceed "" 0,
      .request (.stop "t"), .proceed "" 0, .proceed "" 0, .proceed "" 0, .broadcast "r"] ++
    List.replicate 5 (Action.proceed "" 0)

def World.answered (w : World) : Option (ErrorCode ⊕ Option String) :=
  w.reply.map fun reply => match reply.result with
    | .error e => .inl e.code
    | .ok task => .inr (task.activeRun.map (·.runId))

/-- `stop` says that a running task has no process handle, a restart says that the task is not
    running, and a stop returns a task with an active run. -/
theorem finishing_disturbs_requests :
    (exec step idleDaemon lostHandle).bind (·.reply.map (·.result)) =
      some (.error (.internal "running task has no process handle")) ∧
    (exec step idleDaemon lateRestart).bind (·.answered) = some (.inl .notRunning) ∧
    (exec step idleDaemon staleEnd).bind (·.answered) = some (.inr (some "q")) ∧
    ∃ w, Reachable step Initial w ∧ ¬ w.Clean := by
  refine ⟨by decide, by decide, by decide, ?_⟩
  obtain ⟨w, run⟩ : ∃ w, exec step idleDaemon lostHandle = some w :=
    Option.isSome_iff_exists.1 (by decide)
  refine ⟨w, Reachable.exec (.start idleDaemon_initial) _ run, fun clean => ?_⟩
  have answered : (exec step idleDaemon lostHandle).bind (·.reply) =
      some ⟨.stop "t", .error (.internal "running task has no process handle"), ["r"]⟩ := by decide
  rw [run] at answered
  have := clean.reply _ answered
  simp [Reply.Clean, RequestError.internal] at this

end Ctl.Task.Lifecycle
