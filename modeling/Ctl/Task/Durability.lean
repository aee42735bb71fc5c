import Ctl.Task.Requests

/-!
# Tasks in memory and on disk

Whenever the last attempt to persist has succeeded, the file decodes to the tasks in memory. A request
that fails leaves the tasks as they were, if none of its attempts to persist has succeeded, and as it has
persisted them otherwise: an interactive start keeps its intent, a stop keeps the desired state, a
release keeps its mark. That leaves out the requests that do not undo their change when they cannot
persist it: `create`, the start of a background task, and `remove`, and the ends of background runs.
-/

namespace Ctl.Task.Requests
open Ctl.Base
open Std

/-! ### Properties of states -/

def Site.rollsBack : Site → Bool
  | .create | .start | .remove | .finish => false
  | _ => true

/-- The tasks are kept under their identifiers. -/
def Keyed (tasks : Tasks) : Prop :=
  ∀ (id : String) (task : TaskInfo), tasks[id]? = some task → task.taskId = id

/-- The file has the tasks in memory, if the last attempt to persist has succeeded. -/
def Daemon.Durable (s : Daemon) : Prop :=
  ∀ attempt ∈ s.attempts.head?, attempt.succeeded = true →
    s.file.map decodeTasks = some s.tasks

/-- What a request that fails leaves: the tasks as they were, or as it has persisted them. -/
def Settled (before after : Daemon) : Prop :=
  ∃ new, after.attempts = new ++ before.attempts ∧
    ((∀ attempt ∈ new, attempt.succeeded = false → attempt.site.rollsBack = true) →
      (∀ attempt ∈ new, attempt.succeeded = false) ∧ after.tasks = before.tasks ∨
      (∃ attempt ∈ new, attempt.succeeded = true) ∧ after.file.map decodeTasks = some after.tasks)

/-! ### Maps -/

variable {tasks : Tasks} {s before : Daemon} {task : TaskInfo} {taskId : String}

lemma decode_encode (keyed : Keyed tasks) : decodeTasks (encodeTasks tasks) = tasks := by
  have pairs : (OrdMap.valueList tasks).map (fun task => (task.taskId, task)) = tasks.toList := by
    rw [OrdMap.valueList, List.map_map]
    refine (List.map_congr_left fun entry found => ?_).trans (List.map_id _)
    have := keyed entry.1 entry.2 (ExtTreeMap.mem_toList_iff_getElem?_eq_some.1 found)
    exact Prod.ext this rfl
  rw [decodeTasks, encodeTasks, pairs, OrdMap.ofList_toList]

namespace Keyed

variable {tasks : Tasks}

lemma insert (keyed : Keyed tasks) {id : String} {task : TaskInfo} (same : task.taskId = id) :
    Keyed (tasks.insert id task) := by
  intro a other found
  rw [OrdMap.get_insert] at found
  split at found
  case isTrue eq =>
    cases found
    exact same.trans eq
  case isFalse => exact keyed a other found

lemma erase (keyed : Keyed tasks) (id : String) : Keyed (tasks.erase id) := by
  intro a other found
  rw [OrdMap.get_erase] at found
  split at found
  case isTrue => cases found
  case isFalse => exact keyed a other found

lemma resolve (keyed : Keyed tasks) {selector : String} {task : TaskInfo}
    (h : resolveTask tasks selector = .ok task) : tasks[task.taskId]? = some task := by
  obtain ⟨id, found⟩ := resolveTask_spec h
  rw [keyed id task found, found]

end Keyed

/-! ### Assertions -/

/-- Between two requests. -/
structure Base (s : Daemon) : Prop where
  keyed : Keyed s.tasks
  durable : s.Durable

/-- In a request that has neither registered nor removed a task. -/
structure Working (before s : Daemon) : Prop extends Base s where
  keys : ∀ id : String, (s.tasks[id]?).isSome = (before.tasks[id]?).isSome
  settled : Settled before s

lemma Base.working (base : Base s) : Working s s :=
  ⟨base, fun _ => rfl, [], rfl, fun _ => .inl ⟨nofun, rfl⟩⟩

lemma Settled.persisted (h : Settled before s) (site : Site) (keyed : Keyed tasks) (n : Nat) :
    Base ⟨tasks, s.runtimes, some (encodeTasks tasks), ⟨site, true⟩ :: s.attempts, n⟩ ∧
      Settled before
        ⟨tasks, s.runtimes, some (encodeTasks tasks), ⟨site, true⟩ :: s.attempts, n⟩ := by
  obtain ⟨new, attempts, -⟩ := h
  have decoded : (some (encodeTasks tasks)).map decodeTasks = some tasks :=
    congrArg some (decode_encode keyed)
  exact ⟨⟨keyed, fun _ _ _ => decoded⟩, ⟨site, true⟩ :: new, by rw [attempts, List.cons_append],
    fun _ => .inr ⟨⟨_, List.mem_cons_self, rfl⟩, decoded⟩⟩

lemma Settled.unpersisted (h : Settled before s) (site : Site) (keyed : Keyed tasks) (n : Nat)
    (undone : site.rollsBack = true → tasks = s.tasks) :
    Base ⟨tasks, s.runtimes, s.file, ⟨site, false⟩ :: s.attempts, n⟩ ∧
      Settled before ⟨tasks, s.runtimes, s.file, ⟨site, false⟩ :: s.attempts, n⟩ := by
  obtain ⟨new, attempts, settled⟩ := h
  refine ⟨⟨keyed, ?_⟩, ⟨site, false⟩ :: new, by rw [attempts, List.cons_append], fun rolls => ?_⟩
  · intro attempt last succeeded
    obtain rfl := Option.some.inj last
    cases succeeded
  · obtain ⟨first, rolls⟩ := List.forall_mem_cons.1 rolls
    have undone := undone (first rfl)
    rcases settled rolls with ⟨failed, same⟩ | ⟨⟨attempt, found, succeeded⟩, decoded⟩
    · exact .inl ⟨List.forall_mem_cons.2 ⟨rfl, failed⟩, undone.trans same⟩
    · exact .inr ⟨⟨attempt, List.mem_cons_of_mem _ found, succeeded⟩, undone ▸ decoded⟩

lemma Working.asked (h : Working before s) (n : Nat) : Working before { s with asked := n } :=
  ⟨⟨h.keyed, h.durable⟩, h.keys, h.settled⟩

/-! ### The parts of requests -/

variable {env : Env} {before : Daemon}

lemma ask_keeps {α : Type} (answer : Nat → α) : Keeps (Working before) (ask answer) fun _ => True :=
  fun _ h => ⟨h.asked _, trivial⟩

lemma check_keeps {α : Type} {P : Daemon → Prop} (result : Except RequestError α) :
    Keeps P (check result) fun a => result = .ok a := by
  cases result with
  | error e => exact Keeps.throw
  | ok a => exact Keeps.pure rfl

lemma showTask_keeps (selector : String) :
    Keeps (Working before) (showTask selector) fun task =>
      (before.tasks[task.taskId]?).isSome = true := by
  intro s h
  have performed :
      perform (showTask selector) s = perform (check (resolveTask s.tasks selector)) s := rfl
  rw [performed]
  cases found : resolveTask s.tasks selector with
  | error e => exact h
  | ok task =>
    refine ⟨h, ?_⟩
    show (before.tasks[task.taskId]?).isSome = true
    rw [← h.keys, h.keyed.resolve found]
    rfl

variable (selector : String) (site : Site)

lemma showTask_result : Keeps (Working before) (showTask selector) fun _ => True :=
  (showTask_keeps selector).conseq (fun _ _ h => ⟨h.1, trivial⟩) fun _ h => h

lemma perform_ask {α : Type} (answer : Nat → α) (s : Daemon) :
    perform (ask answer) s = (.ok (answer s.asked), { s with asked := s.asked + 1 }) := rfl

lemma perform_modifyTasks (change : Tasks → Tasks) (s : Daemon) :
    perform (modifyTasks change) s = (.ok (), { s with tasks := change s.tasks }) := rfl

lemma perform_commitTasks (change rollback : Tasks → Tasks) (s : Daemon) :
    perform (commitTasks env site change rollback) s = match env.persistError s.asked with
      | some e => (.error (.internal e), ⟨rollback (change s.tasks), s.runtimes, s.file,
          ⟨site, false⟩ :: s.attempts, s.asked + 1⟩)
      | none => (.ok (), ⟨change s.tasks, s.runtimes, some (encodeTasks (change s.tasks)),
          ⟨site, true⟩ :: s.attempts, s.asked + 1⟩) := by
  cases error : env.persistError s.asked with
  | some e =>
    simp only [commitTasks, persistBlocking, perform_bind, perform_modifyTasks, perform_ask, error]
    rfl
  | none =>
    simp only [commitTasks, persistBlocking, perform_bind, perform_modifyTasks, perform_ask, error]
    rfl

lemma keys_insert {id : String} (task : TaskInfo) (found : (tasks[id]?).isSome = true) (a : String) :
    ((tasks.insert id task)[a]?).isSome = (tasks[a]?).isSome := by
  rw [OrdMap.get_insert]
  split
  case isTrue eq => rw [← eq, found, Option.isSome_some]
  case isFalse => rfl

lemma commitTasks_ensures (env : Env) (h : Working before s) (site : Site) (change rollback : Tasks → Tasks)
    (keyed : Keyed (change s.tasks)) (keyed' : Keyed (rollback (change s.tasks)))
    (undo : site.rollsBack = true → rollback (change s.tasks) = s.tasks) :
    Base (perform (commitTasks env site change rollback) s).2 ∧
      Settled before (perform (commitTasks env site change rollback) s).2 := by
  rw [perform_commitTasks]
  split
  · exact h.settled.unpersisted site keyed' _ undo
  · exact h.settled.persisted site keyed _

lemma commitTasks_working (env : Env) (h : Working before s) (site : Site) {id : String} (same : task.taskId = id)
    {previous : TaskInfo} (found : s.tasks[id]? = some previous) (rollback : Tasks → Tasks)
    (undo : rollback (s.tasks.insert id task) = s.tasks ∨
      site.rollsBack = false ∧ rollback (s.tasks.insert id task) = s.tasks.insert id task) :
    Working before (perform (commitTasks env site (·.insert id task) rollback) s).2 := by
  have keys : ∀ a : String, ((s.tasks.insert id task)[a]?).isSome = (before.tasks[a]?).isSome := by
    intro a
    rw [keys_insert task (by rw [found]; rfl), h.keys]
  have keyed := h.keyed.insert same
  obtain ⟨base, settled⟩ := commitTasks_ensures env h site (·.insert id task) rollback keyed (by
    rcases undo with eq | ⟨-, eq⟩
    · exact eq.symm ▸ h.keyed
    · exact eq.symm ▸ keyed) fun rolls => by
      rcases undo with eq | ⟨not, -⟩
      · exact eq
      · cases rolls.symm.trans not
  refine ⟨base, ?_, settled⟩
  rw [perform_commitTasks]
  split
  · rcases undo with eq | ⟨-, eq⟩
    · exact eq.symm ▸ h.keys
    · exact eq.symm ▸ keys
  · exact keys

lemma keeps_of_working {x : Request Unit} (h : ∀ s, Working before s → Working before (perform x s).2) :
    Keeps (Working before) x fun _ => True := by
  intro s working
  have kept := h s working
  generalize perform x s = done at kept ⊢
  obtain ⟨result, s'⟩ := done
  cases result with
  | error e => exact kept
  | ok => exact ⟨kept, trivial⟩

/-- The tasks after `storeTask` has failed. -/
def putBack (previous : Option TaskInfo) (taskId : String) (tasks : OrdMap String TaskInfo) : OrdMap String TaskInfo :=
  match previous with
  | some previous => tasks.insert taskId previous
  | none => tasks

lemma storeTask_keeps (present : (before.tasks[task.taskId]?).isSome = true) :
    Keeps (Working before) (storeTask env task) fun _ => True := by
  apply keeps_of_working
  intro s h
  have there : (s.tasks[task.taskId]?).isSome = true := (h.keys _).trans present
  obtain ⟨previous, found⟩ := Option.isSome_iff_exists.1 there
  have performed : perform (storeTask env task) s = perform (commitTasks env .store
      (·.insert task.taskId task) (putBack s.tasks[task.taskId]? task.taskId)) s := rfl
  rw [performed]
  refine commitTasks_working env h .store rfl found _ (.inl ?_)
  rw [found]
  exact OrdMap.insert_insert task found

lemma releaseOutcome_keeps (taskId : String) : Keeps (Working before) (releaseOutcome env taskId) fun _ => True := by
  apply Keeps.bind (showTask_keeps taskId)
  intro task present
  split
  case isTrue => exact Keeps.pure trivial
  case isFalse =>
    split
    case h_2 => exact Keeps.pure trivial
    case h_1 run _ =>
      split
      case h_2 => exact Keeps.pure trivial
      case h_1 backend _ =>
        have store : Keeps (Working before) (storeTask env (task.releasing run backend)) fun _ => True :=
          storeTask_keeps present
        split
        case isTrue => exact Keeps.pure trivial
        case isFalse =>
          apply Keeps.bind (ask_keeps env.exchanged)
          intro status _
          dsimp only
          split
          case h_1 observed _ =>
            split
            case isTrue =>
              apply Keeps.bind (ask_keeps env.exchanged)
              intro released _
              split
              case h_1 => exact Keeps.throwBind
              case h_2 => exact store
            case isFalse => exact store
          case h_2 => exact store
          case h_3 => exact Keeps.throwBind

lemma conclude_taskId {stored : TaskInfo} {run : RunInfo} {backend : InteractiveRun} {now : Nat} {verdict : Verdict}
    (h : (conclude task run backend now verdict).1 = some stored) : stored.taskId = task.taskId := by
  unfold conclude at h
  split at h
  case h_4 => cases h
  case h_6 session =>
    split at h
    case isTrue =>
      split at h
      case isTrue =>
        cases h
        rfl
      case isFalse => cases h
    case isFalse =>
      cases h
      rfl
  all_goals
    cases h
    rfl

lemma settle_keeps (run : RunInfo) (backend : InteractiveRun) (verdict : Verdict)
    (present : (before.tasks[task.taskId]?).isSome = true) :
    Keeps (Working before) (settle env task run backend verdict) fun _ => True := by
  apply Keeps.bind (ask_keeps env.now)
  intro now _
  dsimp only
  have result : Keeps (Working before) (check (conclude task run backend now verdict).2)
      fun _ => True := (check_keeps _).conseq (fun _ _ h => ⟨h.1, trivial⟩) fun _ h => h
  split
  case h_1 stored found =>
    apply Keeps.bind (storeTask_keeps (conclude_taskId found ▸ present))
    exact fun _ _ => result
  case h_2 => exact result

lemma reconcileOne_keeps (taskId : String) : Keeps (Working before) (reconcileOne env taskId) fun _ => True := by
  apply Keeps.bind (showTask_keeps taskId)
  intro task present
  split
  case h_2 => exact releaseOutcome_keeps taskId
  case h_1 run _ =>
    split
    case h_2 => exact Keeps.pure trivial
    case h_1 backend _ =>
      dsimp only
      apply Keeps.bind (ask_keeps env.exchanged)
      intro status _
      apply Keeps.bind (check_keeps _)
      intro verdict _
      split
      case h_1 operation =>
        apply Keeps.bind (ask_keeps env.exchanged)
        intro answer _
        exact settle_keeps run backend _ present
      case h_2 => exact settle_keeps run backend verdict present

lemma startInteractive_keeps (taskId : String) (definition : TaskDefinition) :
    Keeps (Working before) (startInteractive env taskId definition) fun _ => True := by
  apply Keeps.bind (check_keeps _)
  intro _ _
  apply Keeps.bind (ask_keeps env.connectError)
  intro error _
  dsimp only
  split
  case h_1 => exact Keeps.throwBind
  case h_2 =>
    apply Keeps.bind (releaseOutcome_keeps taskId)
    intro _ _
    apply Keeps.bind (showTask_keeps taskId)
    intro task present
    apply Keeps.bind (ask_keeps env.exchanged)
    intro status _
    cases status with
    | error e => exact Keeps.throw
    | ok observed =>
      apply Keeps.bind (ask_keeps env.uuid)
      intro runId _
      apply Keeps.bind (ask_keeps env.now)
      intro now _
      have store (run : RunInfo) : Keeps (Working before)
          (storeTask env (task.intending definition run)) fun _ => True := storeTask_keeps present
      apply Keeps.bind (store _)
      intro _ _
      apply Keeps.bind (reconcileOne_keeps taskId)
      intro _ _
      exact showTask_result taskId

lemma pollStopped_keeps (taskId : String) : Keeps (Working before) (pollStopped env taskId) fun _ => True := by
  apply Keeps.bind (reconcileOne_keeps taskId)
  intro _ _
  apply Keeps.bind (showTask_keeps taskId)
  intro _ _
  exact Keeps.pure trivial

lemma stopInteractive_keeps (taskId : String) (polls : Nat) :
    Keeps (Working before) (stopInteractive env taskId polls) fun _ => True := by
  induction polls with
  | zero =>
    apply Keeps.bind (pollStopped_keeps taskId)
    intro polled _
    cases polled with
    | some task => exact Keeps.pure trivial
    | none => exact Keeps.throw
  | succ polls ih =>
    apply Keeps.bind (pollStopped_keeps taskId)
    intro polled _
    cases polled with
    | some task => exact Keeps.pure trivial
    | none => exact ih

/-! ### Background runs -/

lemma perform_persistBlocking (s : Daemon) :
    perform (persistBlocking env site) s = match env.persistError s.asked with
      | some e => (.ok (some (.internal e)),
          ⟨s.tasks, s.runtimes, s.file, ⟨site, false⟩ :: s.attempts, s.asked + 1⟩)
      | none => (.ok none, ⟨s.tasks, s.runtimes, some (encodeTasks s.tasks),
          ⟨site, true⟩ :: s.attempts, s.asked + 1⟩) := by
  cases error : env.persistError s.asked with
  | some e =>
    simp only [persistBlocking, perform_bind, perform_ask, error]
    rfl
  | none =>
    simp only [persistBlocking, perform_bind, perform_ask, error]
    rfl

lemma runtimes_keeps (change : OrdMap String String → OrdMap String String) :
    Keeps (Working before) (modify fun s => { s with runtimes := change s.runtimes } : Request Unit)
      fun _ => True :=
  fun _ h => ⟨⟨⟨h.keyed, h.durable⟩, h.keys, h.settled⟩, trivial⟩

def Found (before : Daemon) (id : String) (task : TaskInfo) (s : Daemon) : Prop :=
  Working before s ∧ s.tasks[id]? = some task

lemma commitTasks_found (skips : site.rollsBack = false) (previous task : TaskInfo)
    (same : task.taskId = previous.taskId) :
    Triple (Found before taskId previous) (commitTasks env site (·.insert taskId task) id)
      (fun _ => Working before) (Working before) := by
  intro s ⟨h, found⟩
  have working := commitTasks_working env h site
    (same.trans (h.keyed taskId previous found)) found id (.inr ⟨skips, rfl⟩)
  generalize perform _ s = done at working ⊢
  obtain ⟨result, s'⟩ := done
  cases result with
  | error e => exact working
  | ok => exact working

lemma commitTasks_undone (previous task : TaskInfo) (same : task.taskId = previous.taskId) :
    Triple (Found before taskId previous)
      (commitTasks env site (·.insert taskId task) (·.insert taskId previous))
      (fun _ => Working before) (Working before) := by
  intro s ⟨h, found⟩
  have working := commitTasks_working env h site
    (same.trans (h.keyed taskId previous found)) found (·.insert taskId previous)
    (.inl (OrdMap.insert_insert task found))
  generalize perform _ s = done at working ⊢
  obtain ⟨result, s'⟩ := done
  cases result with
  | error e => exact working
  | ok => exact working

lemma finish_found (previous task : TaskInfo) (same : task.taskId = previous.taskId) :
    Triple (Found before taskId previous)
      (do
        modifyTasks (·.insert taskId task)
        let _ ← persistBlocking env .finish)
      (fun _ s => Working before s ∧ True) (Working before) := by
  intro s ⟨h, found⟩
  have working := commitTasks_working env h .finish (same.trans (h.keyed taskId previous found)) found
    id (.inr ⟨rfl, rfl⟩)
  rw [perform_commitTasks] at working
  rw [perform_bind, perform_modifyTasks]
  dsimp only
  rw [perform_bind, perform_persistBlocking]
  dsimp only
  cases error : env.persistError s.asked with
  | some e =>
    rw [error] at working
    exact ⟨working, trivial⟩
  | none =>
    rw [error] at working
    exact ⟨working, trivial⟩

lemma finishRun_keeps (taskId runId : String) (stopped : Bool) (exitCode : Option Int) :
    Keeps (Working before) (finishRun env taskId runId stopped exitCode) fun _ => True := by
  apply Keeps.bind (runtimes_keeps (·.erase taskId))
  intro _ _
  apply Triple.getEqBind
  intro s h
  have nothing : Triple (fun t => t = s) (pure () : Request Unit)
      (fun _ t => Working before t ∧ True) (Working before) :=
    Triple.pure fun t eq => ⟨eq ▸ h, trivial⟩
  split
  case h_2 => exact nothing
  case h_1 task found =>
    split
    case h_2 => exact nothing
    case h_1 run _ =>
      split
      case isFalse => exact nothing
      case isTrue =>
        intro t eq
        subst eq
        rw [perform_bind, perform_ask]
        have found' : Found before taskId task { t with asked := t.asked + 1 } := ⟨h.asked _, found⟩
        exact finish_found task (task.finished run (endState stopped exitCode) exitCode _) rfl _ found'

lemma startBackground_keeps (taskId : String) (definition : TaskDefinition) :
    Keeps (Working before) (startBackground env taskId definition) fun _ => True := by
  apply Keeps.bind (check_keeps _)
  intro _ _
  apply Keeps.bind (ask_keeps env.spawnError)
  intro error _
  dsimp only
  split
  case h_1 => exact Keeps.throwBind
  case h_2 =>
    apply Keeps.bind (ask_keeps env.uuid)
    intro runId _
    apply Keeps.bind (ask_keeps env.now)
    intro now _
    apply Triple.getEqBind
    intro s h
    split
    case h_2 => exact Triple.throw fun t eq => eq ▸ h
    case h_1 task found =>
      have commit : Triple (fun t => t = s) (commitTasks env .start
          (·.insert taskId (started task (startedRun definition runId now))) id)
          (fun _ => Working before) (Working before) :=
        fun t eq => commitTasks_found .start rfl task (started task _) rfl t ⟨eq ▸ h, eq ▸ found⟩
      apply Triple.bind commit
      intro _
      apply Keeps.bind (runtimes_keeps (·.insert taskId runId))
      intro _ _
      exact showTask_result taskId

/-! ### Requests -/

lemma showTask_found (selector : String) :
    Triple (Working before) (showTask selector) (fun task => Found before task.taskId task)
      (Working before) := by
  intro s h
  have performed :
      perform (showTask selector) s = perform (check (resolveTask s.tasks selector)) s := rfl
  rw [performed]
  cases found : resolveTask s.tasks selector with
  | error e => exact h
  | ok task => exact ⟨h, h.keyed.resolve found⟩

lemma start_keeps : Keeps (Working before) (start env selector) fun _ => True := by
  apply Keeps.bind (showTask_keeps selector)
  intro task _
  dsimp only
  split
  case isTrue => exact Keeps.throwBind
  case isFalse =>
    split
    case isTrue => exact startInteractive_keeps task.taskId task.definition
    case isFalse => exact startBackground_keeps task.taskId task.definition

lemma waitStopped_keeps (taskId : String) : Keeps (Working before) (waitStopped env taskId) fun _ => True := by
  apply Triple.getEqBind
  intro s h
  have keeps {x : Request TaskInfo} (kept : Keeps (Working before) x fun _ => True) :
      Triple (fun t => t = s) x (fun _ t => Working before t ∧ True) (Working before) :=
    fun t eq => kept t (eq ▸ h)
  split
  case h_1 =>
    apply keeps
    apply Keeps.bind (showTask_keeps taskId)
    intro task _
    split
    case isTrue => exact Keeps.pure trivial
    case isFalse => exact Keeps.throw
  case h_2 runId _ =>
    apply keeps
    apply Keeps.bind (ask_keeps env.ended)
    intro ended _
    split
    case h_1 stopped exitCode =>
      apply Keeps.bind (finishRun_keeps taskId runId stopped exitCode)
      intro _ _
      exact showTask_result taskId
    case h_2 => exact Keeps.throw

lemma stop_keeps : Keeps (Working before) (stop env selector) fun _ => True := by
  apply Triple.bind (showTask_found selector)
  intro previous
  dsimp only
  split
  case isTrue => exact Triple.throwBind fun _ h => h.1
  case isFalse =>
    have commit : Triple (Found before previous.taskId previous) (commitTasks env .stop
        (·.insert previous.taskId { previous with desiredState := .stopped })
        (·.insert previous.taskId previous)) (fun _ => Working before) (Working before) :=
      commitTasks_undone .stop previous _ rfl
    apply Triple.bind commit
    intro _
    apply Keeps.bind (showTask_keeps previous.taskId)
    intro task _
    split
    case isTrue =>
      apply Keeps.bind (ask_keeps env.polls)
      intro polls _
      exact stopInteractive_keeps task.taskId polls
    case isFalse => exact waitStopped_keeps task.taskId

lemma restart_keeps : Keeps (Working before) (restart env selector) fun _ => True := by
  apply Keeps.bind (showTask_keeps selector)
  intro task _
  dsimp only
  split
  case isTrue =>
    apply Keeps.bind (stop_keeps task.taskId)
    intro _ _
    exact start_keeps task.taskId
  case isFalse => exact start_keeps task.taskId

lemma updateDefinition_keeps (definition : TaskDefinition) :
    Keeps (Working before) (updateDefinition env selector definition) fun _ => True := by
  apply Keeps.bind (check_keeps _)
  intro _ _
  apply Triple.bind (showTask_found selector)
  intro previous
  dsimp only
  split
  case isTrue => exact Triple.throwBind fun _ h => h.1
  case isFalse =>
    apply Triple.getBind
    intro s
    split
    case isTrue => exact Triple.throwBind fun _ h => h.1
    case isFalse =>
      have commit : Triple (Found before previous.taskId previous) (commitTasks env .update
          (·.insert previous.taskId (redefined previous definition))
          (·.insert previous.taskId previous)) (fun _ => Working before) (Working before) :=
        commitTasks_undone .update previous _ rfl
      apply Triple.bind commit
      intro _
      exact Keeps.pure trivial

/-- What a request that has failed leaves. -/
def Failed (before s : Daemon) : Prop := Base s ∧ Settled before s

lemma Working.failed {s : Daemon} (h : Working before s) : Failed before s := ⟨h.toBase, h.settled⟩

/-- A request leaves a state in which memory and file agree, and a settled one if it fails. -/
def Ensures (before : Daemon) {α : Type} (x : Request α) : Prop :=
  Triple (Working before) x (fun _ => Base) (Failed before)

lemma ensures_of_keeps {α : Type} {x : Request α} {Q : α → Prop} (h : Keeps (Working before) x Q) : Ensures before x :=
  h.conseq (fun _ _ h => h.1.toBase) fun _ h => h.failed

lemma commitTasks_last {α : Type} (h : Working before s) (site : Site) (change rollback : Tasks → Tasks) (answer : α)
    (keyed : Keyed (change s.tasks)) (keyed' : Keyed (rollback (change s.tasks)))
    (undo : site.rollsBack = true → rollback (change s.tasks) = s.tasks) :
    Triple (fun t => t = s) (commitTasks env site change rollback >>= fun _ => pure answer)
      (fun _ => Base) (Failed before) := by
  intro t eq
  subst eq
  have ensured := commitTasks_ensures env h site change rollback keyed keyed' undo
  rw [perform_bind]
  generalize perform (commitTasks env site change rollback) t = done at ensured ⊢
  obtain ⟨result, s'⟩ := done
  cases result with
  | error e => exact ensured
  | ok => exact ensured.1

lemma create_ensures (definition : TaskDefinition) : Ensures before (create env definition) := by
  apply (check_keeps _).bindTriple _ fun _ h => h.failed
  intro _ _
  apply Triple.getBind
  intro s
  dsimp only
  split
  case isTrue => exact Triple.throwBind fun _ h => h.failed
  case isFalse =>
    apply (ask_keeps env.uuid).bindTriple _ fun _ h => h.failed
    intro taskId _ s h
    have keyed : Keyed (s.tasks.insert taskId ⟨taskId, definition, .stopped, none, none⟩) :=
      h.keyed.insert rfl
    exact commitTasks_last h .create (·.insert taskId ⟨taskId, definition, .stopped, none, none⟩) id
      _ keyed keyed nofun s rfl

lemma register_ensures (taskId : String) (definition : TaskDefinition) :
    Ensures before (register env taskId definition) := by
  apply (check_keeps _).bindTriple _ fun _ h => h.failed
  intro taskId _
  apply Triple.getEqBind
  intro s h
  dsimp only
  split
  case h_1 task _ => exact Triple.pure fun t eq => eq ▸ h.toBase
  case h_2 fresh =>
    apply (check_keeps _).bindTriple _ fun t eq => eq ▸ h.failed
    intro _ _
    apply Triple.getBind
    intro _
    split
    case isTrue => exact Triple.throwBind fun t eq => eq ▸ h.failed
    case isFalse =>
      have absent : s.tasks[taskId]? = none := Option.eq_none_iff_forall_ne_some.2 fresh
      have undo := OrdMap.erase_insert (⟨taskId, definition, .stopped, none, none⟩ : TaskInfo) absent
      have keyed : Keyed (s.tasks.insert taskId ⟨taskId, definition, .stopped, none, none⟩) :=
        h.keyed.insert rfl
      exact commitTasks_last h .register
        (·.insert taskId ⟨taskId, definition, .stopped, none, none⟩) (·.erase taskId) _ keyed
        (undo.symm ▸ h.keyed) fun _ => undo

lemma remove_ensures (selector : String) : Ensures before (remove env selector) := by
  apply (showTask_keeps selector).bindTriple _ fun _ h => h.failed
  intro first _
  apply (releaseOutcome_keeps first.taskId).bindTriple _ fun _ h => h.failed
  intro _ _
  apply (showTask_keeps selector).bindTriple _ fun _ h => h.failed
  intro task _
  dsimp only
  split
  case isTrue => exact Triple.throwBind fun _ h => h.failed
  case isFalse =>
    intro s h
    have keyed := h.keyed.erase task.taskId
    exact commitTasks_last h .remove (·.erase task.taskId) id _ keyed keyed nofun s rfl

/-! ### Runs of the daemon -/

lemma unanswered_ensures {α : Type} {x : Request α} (h : Ensures before x) : Ensures before (unanswered x) :=
  Triple.bind h fun _ => Triple.pure fun _ base => base

variable (env) in
lemma command_ensures (command : Command) : Ensures before (command.request env) := by
  cases command with
  | create definition => exact unanswered_ensures (create_ensures definition)
  | register taskId definition => exact unanswered_ensures (register_ensures taskId definition)
  | update selector definition =>
    exact unanswered_ensures (ensures_of_keeps (updateDefinition_keeps selector definition))
  | start selector => exact unanswered_ensures (ensures_of_keeps (start_keeps selector))
  | stop selector => exact unanswered_ensures (ensures_of_keeps (stop_keeps selector))
  | restart selector => exact unanswered_ensures (ensures_of_keeps (restart_keeps selector))
  | remove selector => exact unanswered_ensures (remove_ensures selector)

lemma base_of_keeps {α : Type} {x : Request α} {Q : α → Prop} (h : Keeps (Working s) x Q) (base : Base s) :
    Base (perform x s).2 := by
  have done := h s base.working
  generalize perform x s = result at done ⊢
  obtain ⟨result, s'⟩ := result
  cases result with
  | error e => exact done.toBase
  | ok => exact done.1.toBase

lemma keyed_file (file : Option StoredState) : Keyed (file.elim ∅ decodeTasks) := by
  have loop (pairs : List (String × TaskInfo)) : ∀ tasks : Tasks, Keyed tasks →
      (∀ pair ∈ pairs, pair.2.taskId = pair.1) → Keyed (tasks.insertMany pairs) := by
    induction pairs with
    | nil =>
      intro tasks keyed _
      exact keyed
    | cons pair pairs ih =>
      intro tasks keyed own
      rw [List.forall_mem_cons] at own
      rw [ExtTreeMap.insertMany_cons]
      exact ih _ (keyed.insert own.1) own.2
  have empty : Keyed ∅ := by
    intro id task found
    rw [ExtTreeMap.getElem?_empty] at found
    cases found
  cases file with
  | none => exact empty
  | some stored =>
    show Keyed (decodeTasks stored)
    rw [decodeTasks, ExtTreeMap.ofList_eq_insertMany_empty]
    apply loop _ _ empty
    intro pair found
    obtain ⟨task, -, rfl⟩ := List.mem_map.1 found
    rfl

lemma recovered_taskId (now : Nat) (task : TaskInfo) : (recovered now task).taskId = task.taskId := by
  unfold recovered
  split
  case h_1 => rfl
  case h_2 => split <;> rfl

lemma keyed_recovered (now : Nat) (keyed : Keyed tasks) : Keyed (tasks.map fun _ => recovered now) := by
  intro id task found
  rw [ExtTreeMap.getElem?_map] at found
  obtain ⟨old, there, rfl⟩ := Option.map_eq_some_iff.1 found
  exact (recovered_taskId now old).trans (keyed id old there)

lemma load_base {file : Option StoredState} {asked : Nat} (h : load env file asked = some s) : Base s := by
  unfold load at h
  split at h
  case isTrue => cases h
  case isFalse =>
    dsimp only at h
    rw [perform_persistBlocking] at h
    dsimp only at h
    cases error : env.persistError (asked + 1) with
    | some e =>
      rw [error] at h
      cases h
    | none =>
      rw [error] at h
      cases h
      have keyed := keyed_recovered (env.now asked) (keyed_file file)
      exact ⟨keyed, fun _ _ _ => congrArg some (decode_encode keyed)⟩

lemma step_base {s' : Daemon} {event : Event} (base : Base s) (h : step env s event = some s') : Base s' := by
  cases event with
  | command command =>
    cases h
    have done := command_ensures env command s base.working
    generalize perform (command.request env) s = result at done ⊢
    obtain ⟨result, s'⟩ := result
    cases result with
    | error e => exact done.1
    | ok => exact done
  | reconcile taskId =>
    cases h
    exact base_of_keeps (reconcileOne_keeps taskId) base
  | finish taskId runId stopped exitCode =>
    cases h
    exact base_of_keeps (finishRun_keeps taskId runId stopped exitCode) base
  | reload => exact load_base h

/-- In every state, the file decodes to the tasks in memory if the last attempt to persist has
    succeeded, and a request that fails leaves a settled state. -/
theorem reachable_durable {s : Daemon} (run : Reachable (step env) (Initial env) s) :
    s.Durable ∧ ∀ (command : Command) (e : RequestError) (s' : Daemon),
      perform (command.request env) s = (.error e, s') → Settled s s' := by
  have base : Base s := run.invariant Base (fun _ ⟨_, _, h⟩ => load_base h) fun _ _ _ => step_base
  refine ⟨base.durable, fun command e s' h => ?_⟩
  have done := command_ensures env command s base.working
  rw [h] at done
  exact done.2

/-! ### An uncertain start -/

def shell : TaskDefinition := ⟨"shell", "sh", [], some "/", .interactive⟩

/-- An environment in which every attempt to persist succeeds, and in which ctmuxd does not answer in
    time after it was asked for its instance. -/
def slowCtmux : Env where
  persistError _ := none
  exchanged n := if n < 6 then .ok ("i1", none)
    else .error (.uncertain "ctmux lifecycle request timed out")
  connectError _ := none
  spawnError _ := none
  uuid n := if n = 2 then "t1" else "r1"
  now n := n
  polls _ := 0
  ended _ := none
  parseUuid id := .ok id
  home := none
  ctmuxSocket := "/run/ctmux"

def createdShell : Option Daemon := (load slowCtmux none 0).bind fun s =>
  step slowCtmux s (.command (.create shell))

lemma createdShell_reachable (h : createdShell = some s) : Reachable (step slowCtmux) (Initial slowCtmux) s := by
  obtain ⟨loaded, init, created⟩ := Option.bind_eq_some_iff.1 h
  exact .next (.start ⟨none, 0, init⟩) trivial created

theorem reachable_durable_createdShell :
    ∃ s, createdShell = some s ∧ (s.tasks["t1"]?).isSome = true ∧ s.Durable ∧
      ∀ (command : Command) (e : RequestError) (s' : Daemon),
        perform (command.request slowCtmux) s = (.error e, s') → Settled s s' := by
  obtain ⟨s, created⟩ : ∃ s, createdShell = some s := Option.isSome_iff_exists.1 (by decide +kernel)
  have seen : createdShell.map (fun s => (s.tasks["t1"]?).isSome) = some true := by decide +kernel
  rw [created] at seen
  exact ⟨s, created, Option.some.inj seen, reachable_durable (createdShell_reachable created)⟩

/-- A start that fails keeps the run that it has persisted. -/
theorem start_keepsIntent :
    ∃ s s', Reachable (step slowCtmux) (Initial slowCtmux) s ∧
      perform ((Command.start "shell").request slowCtmux) s =
        (.error (.internal "ctmux lifecycle request timed out"), s') ∧
      (∀ attempt ∈ s'.attempts, attempt.succeeded = true) ∧
      (s.tasks["t1"]?).map (·.activeRun.isSome) = some false ∧
      (s'.tasks["t1"]?).map (·.activeRun.isSome) = some true ∧ s'.tasks ≠ s.tasks := by
  obtain ⟨s, created⟩ : ∃ s, createdShell = some s := Option.isSome_iff_exists.1 (by decide +kernel)
  have seen : createdShell.map (fun s =>
      ((perform ((Command.start "shell").request slowCtmux) s).1,
        (perform ((Command.start "shell").request slowCtmux) s).2.attempts.all (·.succeeded),
        (s.tasks["t1"]?).map (·.activeRun.isSome),
        ((perform ((Command.start "shell").request slowCtmux) s).2.tasks["t1"]?).map
          (·.activeRun.isSome))) =
      some (.error (.internal "ctmux lifecycle request timed out"), true, some false, some true) := by
    decide +kernel
  rw [created] at seen
  obtain ⟨failed, seen⟩ := Prod.mk.inj (Option.some.inj seen)
  obtain ⟨succeeded, seen⟩ := Prod.mk.inj seen
  obtain ⟨inactive, active⟩ := Prod.mk.inj seen
  generalize performed : perform ((Command.start "shell").request slowCtmux) s = done
    at failed succeeded active
  obtain ⟨result, s'⟩ := done
  dsimp only at failed
  subst failed
  refine ⟨s, s', createdShell_reachable created, performed, List.all_eq_true.1 succeeded, inactive,
    active, fun same => ?_⟩
  rw [same] at active
  cases inactive.symm.trans active

end Ctl.Task.Requests
