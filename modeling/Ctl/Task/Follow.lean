import Ctl.Task.Logs
import Mathlib.Data.List.Basic
import Mathlib.Data.List.TakeDrop

/-!
# Following task logs

A sequence is assigned under the logs lock, but the event is broadcast after the lock is dropped.
`sendsInOrder` is the condition that a reader does not overtake the other reader of its run between
the two; `reachable_followedAll` says that a follower then loses and reorders nothing, and
`followedRun_loses_line` is a run in which the overtaken event is never sent.

`RunInv` describes a run whose broadcast events are a prefix of its history, `Grows` how such a run
goes on, and `FollowerInv` the follower: the broadcasts that it has still to receive continue where
the frames it has written end.
-/

namespace Ctl.Task.Logs
open Ctl.Base

/-! ### Retained events -/

lemma trimLogs_spec (events : List LogEvent) (event : LogEvent) (small : event.data.length ≤ maxLogBytesPerRun) :
    ∃ n ≤ events.length, trimLogs (events ++ [event]) = (events ++ [event]).drop n := by
  unfold trimLogs
  induction events with
  | nil =>
    refine ⟨0, Nat.le_refl _, ?_⟩
    simp [trimFrom, small]
  | cons first events ih =>
    obtain ⟨n, le, eq⟩ := ih
    rw [List.cons_append, trimFrom]
    split
    · exact ⟨0, Nat.zero_le _, rfl⟩
    · refine ⟨n + 1, Nat.succ_le_succ le, ?_⟩
      rw [List.drop_succ_cons, ← eq, List.map_cons, List.sum_cons, Nat.add_sub_cancel_left]

lemma nextEvent_sequence {history : List LogEvent} {n : Nat}
    (numbered : ∀ (i : Nat) (e : LogEvent), history[i]? = some e → e.sequence = i) (kept : n = 0 ∨ n < history.length)
    (runId : String) (stream : LogStream) (data : List UInt8) :
    (nextEvent (history.drop n) runId stream data).sequence = history.length := by
  cases history with
  | nil => simp [nextEvent]
  | cons first rest =>
    generalize eq : first :: rest = history at numbered kept ⊢
    have pos : 0 < history.length := eq ▸ Nat.succ_pos _
    have last : (history.drop n).getLast? = history[history.length - 1]? := by
      rw [List.getLast?_drop, if_neg (by omega), List.getLast?_eq_getElem?]
    have at_ : history[history.length - 1]? = some history[history.length - 1] :=
      List.getElem?_eq_getElem (by omega)
    rw [nextEvent, last, at_]
    have number := numbered _ _ at_
    simp only [Option.map_some, Option.getD_some, number]
    omega

/-! ### Runs -/

namespace Run

def pending (run : Run) : List LogEvent :=
  match run.stdout, run.stderr with
  | .sending a, .sending b => if a.sequence < b.sequence then [a, b] else [b, a]
  | .sending a, _ => [a]
  | _, .sending b => [b]
  | _, _ => []

def sent (run : Run) : List LogEvent :=
  run.history.take (run.history.length - run.pending.length)

end Run

structure RunInv (logs : OrdMap String (List LogEvent)) (id : String) (run : Run) : Prop where
  numbered : ∀ (i : Nat) (event : LogEvent), run.history[i]? = some event → event.sequence = i
  named : ∀ event ∈ run.history, event.runId = id
  split : run.history = run.sent ++ run.pending
  retained : ∃ n, logs[id]?.getD [] = run.history.drop n ∧
    (n = 0 ∨ n < run.history.length)
  unspawned : run.stdout = .unspawned → run.history = []
  together : run.stdout = .unspawned ↔ run.stderr = .unspawned
  ended : run.ended = true → run.stdout = .returned ∧ run.stderr = .returned
  announced : run.announced = true → run.ended = true

namespace RunInv

variable {logs logs' : OrdMap String (List LogEvent)} {id : String} {run : Run}

lemma congr (h : RunInv logs id run) (same : logs'[id]? = logs[id]?) : RunInv logs' id run :=
  { h with retained := same ▸ h.retained }

lemma of_pending (h : RunInv logs id run) {run' : Run} (history : run'.history = run.history)
    (pending : run'.pending = run.pending) (unspawned : run'.stdout = .unspawned → run.history = [])
    (together : run'.stdout = .unspawned ↔ run'.stderr = .unspawned)
    (ended : run'.ended = true → run'.stdout = .returned ∧ run'.stderr = .returned)
    (announced : run'.announced = true → run'.ended = true) : RunInv logs id run' where
  numbered := history ▸ h.numbered
  named := history ▸ h.named
  split := by
    rw [Run.sent, history, pending]
    exact h.split
  retained := history ▸ h.retained
  unspawned := history ▸ unspawned
  together := together
  ended := ended
  announced := announced

lemma sent_eq {run : Run} {front : List LogEvent} (h : run.history = front ++ run.pending) : run.sent = front := by
  rw [Run.sent, h, List.length_append, Nat.add_sub_cancel, List.take_left]

lemma pending_lt (h : RunInv logs id run) {a b : LogEvent} (two : run.pending = [a, b]) : a.sequence < b.sequence := by
  have split := h.split
  rw [two] at split
  have first := h.numbered run.sent.length a (by rw [split]; simp)
  have second := h.numbered (run.sent.length + 1) b (by rw [split]; simp)
  omega

lemma mem_history (h : RunInv logs id run) {event : LogEvent} (mem : event ∈ run.pending) : event ∈ run.history := by
  rw [h.split]
  exact List.mem_append_right _ mem

lemma sequence_lt (h : RunInv logs id run) {event : LogEvent} (mem : event ∈ run.history) :
    event.sequence < run.history.length := by
  obtain ⟨i, lt, eq⟩ := List.mem_iff_getElem.1 mem
  rw [h.numbered i event (List.getElem?_eq_some_iff.2 ⟨lt, eq⟩)]
  exact lt

end RunInv

variable {run : Run} {logs : OrdMap String (List LogEvent)} {id k taskId : String} {event : LogEvent}
  {runs : OrdMap String Run} {w w' : World} {task : TaskInfo}

lemma pending_append {stream : LogStream} (event : LogEvent) (reading : run.reader stream = .reading)
    (last : ∀ e ∈ run.pending, e.sequence < event.sequence) :
    (run.store stream event).pending = run.pending ++ [event] := by
  obtain ⟨taskId, stdout, stderr, ended, announced, old⟩ := run
  cases stream with
  | stdout =>
    cases reading
    cases stderr with
    | sending b =>
      have lt : b.sequence < event.sequence := last b (List.mem_singleton.2 rfl)
      exact if_neg (by omega)
    | _ => rfl
  | stderr =>
    cases reading
    cases stdout with
    | sending a =>
      have lt : a.sequence < event.sequence := last a (List.mem_singleton.2 rfl)
      exact if_pos lt
    | _ => rfl

lemma pending_send (h : RunInv logs id run) {stream : LogStream} (sending : run.reader stream = .sending event)
    (oldest : ∀ e ∈ run.pending, event.sequence ≤ e.sequence) :
    run.pending = event :: (run.setReader stream .reading).pending := by
  have lt := @RunInv.pending_lt _ _ _ h
  obtain ⟨taskId, stdout, stderr, ended, announced, old⟩ := run
  cases stream with
  | stdout =>
    cases sending
    cases stderr with
    | sending b =>
      refine if_pos (Nat.lt_of_not_ge fun ge => ?_)
      have two : Run.pending ⟨taskId, .sending event, .sending b, ended, announced, old⟩
          = [b, event] := if_neg (Nat.not_lt.2 ge)
      have le := oldest b (two ▸ List.mem_cons_self)
      have := lt two
      omega
    | _ => rfl
  | stderr =>
    cases sending
    cases stdout with
    | sending a =>
      refine if_neg fun less => ?_
      have two : Run.pending ⟨taskId, .sending a, .sending event, ended, announced, old⟩
          = [a, event] := if_pos less
      have le := oldest a (two ▸ List.mem_cons_self)
      omega
    | _ => rfl

/-- How a run goes on: what is broadcast, and what becomes of its events. -/
inductive Grows (id : String) (run : Run) : Run → List Activity → Prop
  | quiet {run' : Run} (more : List LogEvent) : run'.taskId = run.taskId →
    run'.history = run.history ++ more → run'.sent = run.sent →
    run'.announced = run.announced → (run.ended = true → run'.ended = true ∧ more = []) →
    Grows id run run' []
  | send {run' : Run} (event : LogEvent) : run'.taskId = run.taskId →
    run'.history = run.history → run'.sent = run.sent ++ [event] → run.announced = false →
    run'.announced = false → run.ended = false → event.runId = id →
    Grows id run run' [.log run.taskId event]
  | announce {run' : Run} : run'.taskId = run.taskId → run'.history = run.history →
    run'.sent = run.sent → run.announced = false → run'.announced = true → run'.ended = true →
    Grows id run run' [.finished run.taskId id]

section Steps

variable {logs : OrdMap String (List LogEvent)} {id : String} {run : Run} {stream : LogStream}

lemma append_spec (h : RunInv logs id run) {data : List UInt8} (reading : run.reader stream = .reading)
    (small : data.length ≤ readerBuffer) {event : LogEvent}
    (next : event = nextEvent (logs[id]?.getD []) id stream data) :
    RunInv (logs.insert id (trimLogs (logs[id]?.getD [] ++ [event]))) id (run.store stream event) ∧
      Grows id run (run.store stream event) [] := by
  obtain ⟨n, suffix, kept⟩ := h.retained
  have sequence : event.sequence = run.history.length := by
    rw [next, suffix]
    exact nextEvent_sequence h.numbered kept id stream data
  have pending := pending_append event reading
    (fun e mem => sequence ▸ h.sequence_lt (h.mem_history mem))
  have history : (run.store stream event).history = run.history ++ [event] := rfl
  have split : (run.store stream event).history
      = run.sent ++ (run.store stream event).pending := by
    rw [pending, ← List.append_assoc, ← h.split, history]
  have sent := RunInv.sent_eq split
  have alive : run.ended = false := by
    cases ended : run.ended with
    | false => rfl
    | true =>
      obtain ⟨stdout, stderr⟩ := h.ended ended
      cases stream with
      | stdout => cases reading.symm.trans stdout
      | stderr => cases reading.symm.trans stderr
  obtain ⟨ended, announced, taskId⟩ : (run.store stream event).ended = run.ended ∧
      (run.store stream event).announced = run.announced ∧
      (run.store stream event).taskId = run.taskId := by
    cases stream <;> exact ⟨rfl, rfl, rfl⟩
  have spawned : (run.store stream event).stdout ≠ .unspawned ∧
      (run.store stream event).stderr ≠ .unspawned := by
    have together := h.together
    cases stream with
    | stdout =>
      refine ⟨nofun, fun unspawned => ?_⟩
      cases reading.symm.trans (together.2 unspawned)
    | stderr =>
      refine ⟨fun unspawned => ?_, nofun⟩
      cases reading.symm.trans (together.1 unspawned)
  refine ⟨⟨fun i e at_ => ?_, fun e mem => ?_, ?_, ?_, fun unspawned => (spawned.1 unspawned).elim,
    iff_of_false spawned.1 spawned.2, fun dead => ?_, fun dead => ?_⟩,
    .quiet [event] taskId history sent announced fun dead => ?_⟩
  · rw [history, List.getElem?_append] at at_
    split at at_
    · exact h.numbered i e at_
    · obtain ⟨lt, rfl⟩ := List.getElem?_eq_some_iff.1 at_
      rw [List.length_singleton] at lt
      rw [List.getElem_singleton, sequence]
      omega
  · rcases List.mem_append.1 mem with mem | mem
    · exact h.named e mem
    · rw [List.mem_singleton.1 mem, next]
      rfl
  · rw [sent]
    exact split
  · have bound : event.data.length ≤ maxLogBytesPerRun := by
      rw [next]
      exact Nat.le_trans small (by decide)
    obtain ⟨m, le, trimmed⟩ := trimLogs_spec (run.history.drop n) event bound
    have inside : n ≤ run.history.length := by omega
    rw [List.length_drop] at le
    refine ⟨n + m, ?_, .inr ?_⟩
    · rw [OrdMap.get_insert, if_pos rfl, Option.getD_some, suffix, trimmed, history,
        ← List.drop_append_of_le_length inside, List.drop_drop]
    · rw [history, List.length_append, List.length_singleton]
      omega
  · rw [ended, alive] at dead
    cases dead
  · rw [announced] at dead
    rw [h.announced dead] at alive
    cases alive
  · rw [alive] at dead
    cases dead

lemma send_spec (h : RunInv logs id run) {event : LogEvent} (sending : run.reader stream = .sending event)
    (oldest : ∀ e ∈ run.pending, event.sequence ≤ e.sequence) :
    RunInv logs id (run.setReader stream .reading) ∧
      Grows id run (run.setReader stream .reading) [.log run.taskId event] := by
  have pending := pending_send h sending oldest
  have mem : event ∈ run.history := h.mem_history (pending ▸ List.mem_cons_self)
  have history : (run.setReader stream .reading).history = run.history := by
    cases stream <;> rfl
  have split : (run.setReader stream .reading).history
      = (run.sent ++ [event]) ++ (run.setReader stream .reading).pending := by
    rw [List.append_assoc, List.singleton_append, ← pending, ← h.split, history]
  have sent := RunInv.sent_eq split
  have alive : run.ended = false := by
    cases ended : run.ended with
    | false => rfl
    | true =>
      obtain ⟨stdout, stderr⟩ := h.ended ended
      cases stream with
      | stdout => cases sending.symm.trans stdout
      | stderr => cases sending.symm.trans stderr
  have unannounced : run.announced = false := by
    cases announced : run.announced with
    | false => rfl
    | true => cases alive.symm.trans (h.announced announced)
  obtain ⟨ended, announced, taskId⟩ : (run.setReader stream .reading).ended = run.ended ∧
      (run.setReader stream .reading).announced = run.announced ∧
      (run.setReader stream .reading).taskId = run.taskId := by
    cases stream <;> exact ⟨rfl, rfl, rfl⟩
  have spawned : (run.setReader stream .reading).stdout ≠ .unspawned ∧
      (run.setReader stream .reading).stderr ≠ .unspawned := by
    have together := h.together
    cases stream with
    | stdout =>
      refine ⟨nofun, fun unspawned => ?_⟩
      cases sending.symm.trans (together.2 unspawned)
    | stderr =>
      refine ⟨fun unspawned => ?_, nofun⟩
      cases sending.symm.trans (together.1 unspawned)
  refine ⟨⟨history ▸ h.numbered, history ▸ h.named, ?_, history ▸ h.retained,
    fun unspawned => (spawned.1 unspawned).elim, iff_of_false spawned.1 spawned.2,
    fun dead => ?_, fun dead => ?_⟩,
    .send event taskId history sent unannounced (announced.trans unannounced) alive
      (h.named event mem)⟩
  · rw [sent]
    exact split
  · rw [ended, alive] at dead
    cases dead
  · rw [announced, unannounced] at dead
    cases dead

lemma close_spec (h : RunInv logs id run) (reading : run.reader stream = .reading) :
    RunInv logs id (run.setReader stream .returned) ∧
      Grows id run (run.setReader stream .returned) [] := by
  obtain ⟨taskId, stdout, stderr, ended, announced, history⟩ := run
  have together := h.together
  have dead := h.ended
  have told := h.announced
  cases stream with
  | stdout =>
    cases reading
    have pending : Run.pending ⟨taskId, .returned, stderr, ended, announced, history⟩
        = Run.pending ⟨taskId, .reading, stderr, ended, announced, history⟩ := by
      cases stderr <;> rfl
    refine ⟨h.of_pending rfl pending nofun (iff_of_false nofun fun u => ?_) (fun e => ?_) told,
      .quiet [] rfl (List.append_nil _).symm ?_ rfl fun e => ⟨e, rfl⟩⟩
    · cases together.2 u
    · cases (dead e).1
    · exact congrArg (fun p => history.take (history.length - List.length p)) pending
  | stderr =>
    cases reading
    have pending : Run.pending ⟨taskId, stdout, .returned, ended, announced, history⟩
        = Run.pending ⟨taskId, stdout, .reading, ended, announced, history⟩ := by
      cases stdout <;> rfl
    refine ⟨h.of_pending rfl pending (fun u => ?_) (iff_of_false (fun u => ?_) nofun) (fun e => ?_)
      told, .quiet [] rfl (List.append_nil _).symm ?_ rfl fun e => ⟨e, rfl⟩⟩
    · cases together.1 u
    · cases together.1 u
    · cases (dead e).2
    · exact congrArg (fun p => history.take (history.length - List.length p)) pending

lemma spawn_spec (h : RunInv logs id run) (stdout : run.stdout = .unspawned) (stderr : run.stderr = .unspawned) :
    RunInv (logs.insert id []) id { run with stdout := .reading, stderr := .reading } ∧
      Grows id run { run with stdout := .reading, stderr := .reading } [] := by
  have history := h.unspawned stdout
  obtain ⟨taskId, out, err, ended, announced, events⟩ := run
  cases stdout
  cases stderr
  cases history
  refine ⟨⟨h.numbered, h.named, rfl, ⟨0, ?_, .inl rfl⟩, nofun, iff_of_false nofun nofun, ?_,
    h.announced⟩, .quiet [] rfl rfl rfl rfl fun e => ⟨e, rfl⟩⟩
  · rw [OrdMap.get_insert, if_pos rfl]
    rfl
  · intro e
    cases (h.ended e).1

lemma finish_spec (h : RunInv logs id run) (stdout : run.stdout = .returned) (stderr : run.stderr = .returned) :
    RunInv logs id { run with ended := true } ∧ Grows id run { run with ended := true } [] :=
  ⟨h.of_pending rfl rfl h.unspawned h.together (fun _ => ⟨stdout, stderr⟩) fun _ => rfl,
    .quiet [] rfl (List.append_nil _).symm rfl rfl fun _ => ⟨rfl, rfl⟩⟩

lemma announce_spec (h : RunInv logs id run) (ended : run.ended = true) (announced : run.announced = false) :
    RunInv logs id { run with announced := true } ∧
      Grows id run { run with announced := true } [.finished run.taskId id] :=
  ⟨h.of_pending rfl rfl h.unspawned h.together h.ended fun _ => ended,
    .announce rfl rfl rfl announced rfl ended⟩

end Steps

/-! ### The follower -/

lemma newer_of_lt {cursor : Option Nat} {m n : Nat} (h : newer cursor m = true) (lt : m < n) :
    newer cursor n = true := by
  cases cursor with
  | none => rfl
  | some c => exact decide_eq_true (Nat.lt_trans (of_decide_eq_true h) lt)

lemma replay_spec {events : List LogEvent} {first : Nat}
    (numbered : ∀ (i : Nat) (e : LogEvent), events[i]? = some e → e.sequence = first + i) (cursor : Option Nat) :
    (replay events cursor).1 = (events.filter fun e => newer cursor e.sequence).map .log ∧
      ∀ i, newer (replay events cursor).2 i
        = (newer cursor i && decide (events = [] ∨ first + events.length ≤ i)) := by
  induction events generalizing first cursor with
  | nil => simp [replay]
  | cons event events ih =>
    have number : event.sequence = first := numbered 0 event rfl
    have rest : ∀ (i : Nat) (e : LogEvent), events[i]? = some e → e.sequence = (first + 1) + i := by
      intro i e at_
      have := numbered (i + 1) e at_
      omega
    have later : ∀ e ∈ events, first < e.sequence := by
      intro e mem
      obtain ⟨i, lt, eq⟩ := List.mem_iff_getElem.1 mem
      have := rest i e (List.getElem?_eq_some_iff.2 ⟨lt, eq⟩)
      omega
    rw [replay]
    cases new : newer cursor event.sequence with
    | true =>
      obtain ⟨written, moved⟩ := ih rest (some event.sequence)
      have same : events.filter (fun e => newer (some event.sequence) e.sequence)
          = events.filter (fun e => newer cursor e.sequence) := by
        apply List.filter_congr
        intro e mem
        have lt : event.sequence < e.sequence := number ▸ later e mem
        rw [newer_of_lt new lt]
        exact decide_eq_true lt
      refine ⟨?_, fun i => ?_⟩
      · simp only [if_true, List.filter_cons, new, List.map_cons, written, same]
      · rw [if_pos rfl, moved, Bool.eq_iff_iff]
        simp only [Bool.and_eq_true, decide_eq_true_iff, List.length_cons, reduceCtorEq, false_or]
        constructor
        · rintro ⟨lt, tail⟩
          have lt : event.sequence < i := of_decide_eq_true lt
          refine ⟨newer_of_lt new lt, ?_⟩
          rcases tail with rfl | le
          · rw [List.length_nil]
            omega
          · omega
        · rintro ⟨-, le⟩
          exact ⟨decide_eq_true (by omega), .inr (by omega)⟩
    | false =>
      obtain ⟨written, moved⟩ := ih rest cursor
      refine ⟨?_, fun i => ?_⟩
      · simp only [Bool.false_eq_true, if_false, List.filter_cons, new, written]
      · rw [if_neg Bool.false_ne_true, moved, Bool.eq_iff_iff]
        simp only [Bool.and_eq_true, decide_eq_true_iff, List.length_cons, reduceCtorEq, false_or]
        constructor
        · rintro ⟨fresh, tail⟩
          refine ⟨fresh, ?_⟩
          have lt : event.sequence < i := by
            by_contra ge
            rcases Nat.lt_or_eq_of_le (Nat.le_of_not_lt ge) with less | rfl
            · cases new.symm.trans (newer_of_lt fresh less)
            · cases new.symm.trans fresh
          rcases tail with rfl | le
          · rw [List.length_nil]
            omega
          · omega
        · rintro ⟨fresh, le⟩
          exact ⟨fresh, .inr (by omega)⟩

/-- The broadcasts of a run that the follower has not received: those behind the `k`-th, and its
    end. -/
structure Subscription (f : Follower) (taskId id : String) (run : Run) (k : Nat) : Prop where
  task : run.taskId = taskId
  behind : k ≤ run.sent.length
  queue : f.queue.filter (fun a => a.runId = id)
    = (run.sent.drop k).map (.log taskId) ++ if run.announced then [.finished taskId id] else []

def Follower.expected (f : Follower) (history : List LogEvent) : List LogEvent :=
  (f.retained ++ history.drop f.base).filter fun e => newer f.afterSequence e.sequence

/-- The retained events were the last ones at the time when they were copied. -/
def Follower.Copied (f : Follower) (history : List LogEvent) : Prop :=
  f.base ≤ history.length ∧ ∃ n ≤ f.base, f.retained = (history.take f.base).drop n

/-- The follower has been sent what it has to be sent of the events in front of the `k`-th and of the
    retained ones. -/
structure Progress (f : Follower) (run : Run) (k : Nat) : Prop where
  copied : f.Copied run.history
  frames : f.frames = (f.expected (run.history.take (max f.base k))).map .log
  cursor : ∀ i, newer f.cursor i = (newer f.afterSequence i && decide (max f.base k ≤ i))

def FollowerInv (runs : OrdMap String Run) (f : Follower) : Prop :=
  match f.phase with
  | .requested => f.queue = [] ∧ f.frames = []
  | .subscribed => f.frames = [] ∧ ∀ (id : String) (run : Run), runs[id]? = some run →
    ∃ k ≤ run.sent.length, ∃ fin, f.queue.filter (fun a => a.runId = id)
      = (run.sent.drop k).map (.log run.taskId) ++ fin ∧ (run.announced = false → fin = [])
  | .shown taskId id isActive => f.frames = [] ∧ ∃ run, runs[id]? = some run ∧
    if isActive then ∃ k, Subscription f taskId id run k else run.ended = true
  | .following taskId id => ∃ run, runs[id]? = some run ∧
    ∃ k, Subscription f taskId id run k ∧ Progress f run k
  | .closed none => True
  | .closed (some id) => f.follow = true → ∃ run, runs[id]? = some run ∧ run.ended = true ∧
    f.Copied run.history ∧ f.frames = (f.expected run.history).map .log ++ [Frame.logsFinished]

section Grow

variable {f : Follower} {id : String} {run run' : Run} {activities : List Activity} {k : Nat}

lemma Grows.activities_runId (g : Grows id run run' activities) : ∀ a ∈ activities, a.runId = id := by
  cases g with
  | quiet => nofun
  | send event _ _ _ _ _ _ named => exact fun a mem => List.mem_singleton.1 mem ▸ named
  | announce => exact fun a mem => List.mem_singleton.1 mem ▸ rfl

lemma Subscription.grow {taskId : String} (h : Subscription f taskId id run k) (g : Grows id run run' activities) :
    Subscription { f with queue := f.queue ++ activities } taskId id run' k := by
  obtain ⟨rfl, behind, queue⟩ := h
  have all : activities.filter (fun a => a.runId = id) = activities :=
    List.filter_eq_self.2 fun a mem => decide_eq_true (g.activities_runId a mem)
  refine ⟨?_, ?_, ?_⟩
  · cases g <;> assumption
  · cases g with
    | quiet _ _ _ sent => rw [sent]; exact behind
    | send _ _ _ sent => rw [sent, List.length_append]; omega
    | announce _ _ sent => rw [sent]; exact behind
  · rw [List.filter_append, all, queue]
    cases g with
    | quiet _ _ _ sent announced => rw [sent, announced, List.append_nil]
    | send event _ _ sent before after =>
      rw [sent, before, after, List.drop_append_of_le_length behind, List.map_append]
      simp
    | announce _ _ sent before after =>
      rw [sent, before, after]
      simp

lemma Subscription.other {taskId other : String} {r : Run} (h : Subscription f taskId other r k) (ne : other ≠ id)
    (g : Grows id run run' activities) : Subscription { f with queue := f.queue ++ activities } taskId other r k := by
  refine ⟨h.task, h.behind, ?_⟩
  have nothing : activities.filter (fun a => a.runId = other) = [] :=
    List.filter_eq_nil_iff.2 fun a mem same =>
      ne ((of_decide_eq_true same).symm.trans (g.activities_runId a mem))
  rw [List.filter_append, nothing, List.append_nil]
  exact h.queue

lemma Grows.history (g : Grows id run run' activities) :
    ∃ more, run'.history = run.history ++ more ∧ (run.ended = true → more = []) := by
  cases g with
  | quiet more _ history _ _ ended => exact ⟨more, history, fun e => (ended e).2⟩
  | send _ _ history => exact ⟨[], history.trans (List.append_nil _).symm, fun _ => rfl⟩
  | announce _ history => exact ⟨[], history.trans (List.append_nil _).symm, fun _ => rfl⟩

lemma Grows.ended (g : Grows id run run' activities) (ended : run.ended = true) : run'.ended = true := by
  cases g with
  | quiet _ _ _ _ _ keeps => exact (keeps ended).1
  | send _ _ _ _ _ _ alive => cases alive.symm.trans ended
  | announce _ _ _ _ _ keeps => exact keeps

lemma Progress.grow (h : Progress f run k) (behind : k ≤ run.sent.length) (g : Grows id run run' activities) :
    Progress { f with queue := f.queue ++ activities } run' k := by
  obtain ⟨more, history, -⟩ := g.history
  obtain ⟨base, n, le, retained⟩ := h.copied
  have inside : max f.base k ≤ run.history.length := by
    have : run.sent.length ≤ run.history.length := List.length_take_le' _ _
    omega
  refine ⟨⟨?_, n, le, ?_⟩, ?_, h.cursor⟩
  · rw [history, List.length_append]
    exact Nat.le_add_right_of_le base
  · rw [history, List.take_append_of_le_length base]
    exact retained
  · rw [history, List.take_append_of_le_length inside]
    exact h.frames

lemma FollowerInv.grow {runs : OrdMap String Run} (h : FollowerInv runs f) (found : runs[id]? = some run)
    (g : Grows id run run' activities) : FollowerInv (runs.insert id run') (f.push activities) := by
  have lookup := OrdMap.get_insert runs id
  obtain ⟨selector, after, follow, phase, queue, cursor, frames, retained, base⟩ := f
  cases phase with
  | requested => exact h
  | subscribed =>
    obtain ⟨empty, channel⟩ := h
    refine ⟨empty, fun other r there => ?_⟩
    rw [lookup] at there
    split at there
    case isTrue same =>
      cases there
      subst same
      obtain ⟨k, behind, fin, queued, unannounced⟩ := channel id run found
      have all : activities.filter (fun a => a.runId = id) = activities :=
        List.filter_eq_self.2 fun a mem => decide_eq_true (g.activities_runId a mem)
      dsimp only [Follower.push] at queued ⊢
      rw [List.filter_append, all, queued]
      cases g with
      | quiet _ task _ sent announced =>
        rw [sent, task, announced]
        exact ⟨k, behind, fin, List.append_nil _, unannounced⟩
      | send event task _ sent before =>
        rw [sent, task, unannounced before, List.append_nil]
        refine ⟨k, ?_, [], ?_, fun _ => rfl⟩
        · rw [List.length_append]
          omega
        · rw [List.drop_append_of_le_length behind, List.map_append, List.append_nil]
          rfl
      | announce task _ sent before after =>
        rw [sent, task, unannounced before, List.append_nil]
        refine ⟨k, behind, _, rfl, fun not => ?_⟩
        cases after.symm.trans not
    case isFalse ne =>
      obtain ⟨k, behind, fin, queued, unannounced⟩ := channel other r there
      have nothing : activities.filter (fun a => a.runId = other) = [] :=
        List.filter_eq_nil_iff.2 fun a mem same =>
          ne ((g.activities_runId a mem).symm.trans (of_decide_eq_true same))
      refine ⟨k, behind, fin, ?_, unannounced⟩
      dsimp only [Follower.push] at queued ⊢
      rw [List.filter_append, nothing, List.append_nil, queued]
  | shown taskId other isActive =>
    obtain ⟨empty, r, there, state⟩ := h
    refine ⟨empty, ?_⟩
    by_cases same : other = id
    · subst same
      cases there.symm.trans found
      refine ⟨run', by rw [lookup, if_pos rfl], ?_⟩
      cases isActive with
      | true =>
        obtain ⟨k, subscription⟩ := state
        exact ⟨k, subscription.grow g⟩
      | false => exact g.ended state
    · refine ⟨r, by rw [lookup, if_neg (Ne.symm same), there], ?_⟩
      cases isActive with
      | true =>
        obtain ⟨k, subscription⟩ := state
        exact ⟨k, subscription.other same g⟩
      | false => exact state
  | following taskId other =>
    obtain ⟨r, there, k, subscription, progress⟩ := h
    by_cases same : other = id
    · subst same
      cases there.symm.trans found
      exact ⟨run', by rw [lookup, if_pos rfl], k, subscription.grow g,
        progress.grow subscription.behind g⟩
    · exact ⟨r, by rw [lookup, if_neg (Ne.symm same), there], k, subscription.other same g,
        progress.copied, progress.frames, progress.cursor⟩
  | closed closedRun =>
    cases closedRun with
    | none => trivial
    | some other =>
      intro follows
      obtain ⟨r, there, ended, written⟩ := h follows
      by_cases same : other = id
      · subst same
        cases there.symm.trans found
        obtain ⟨more, history, unchanged⟩ := g.history
        refine ⟨run', by rw [lookup, if_pos rfl], g.ended ended, ?_⟩
        rw [history, unchanged ended, List.append_nil]
        exact written
      · exact ⟨r, by rw [lookup, if_neg (Ne.symm same), there], ended, written⟩

end Grow

lemma FollowerInv.start {f : Follower} (h : FollowerInv runs f) (fresh : runs[id]? = none)
    (known : ∀ a ∈ f.queue, runs[a.runId]? ≠ none) (taskId : String) :
    FollowerInv (runs.insert id ⟨taskId, .unspawned, .unspawned, false, false, []⟩) f := by
  have keeps : ∀ {other : String} {r : Run}, runs[other]? = some r →
      (runs.insert id ⟨taskId, .unspawned, .unspawned, false, false, []⟩)[other]? = some r := by
    intro other r there
    rw [OrdMap.get_insert, if_neg, there]
    rintro rfl
    cases fresh.symm.trans there
  obtain ⟨selector, after, follow, phase, queue, cursor, frames, retained, base⟩ := f
  cases phase with
  | requested => exact h
  | subscribed =>
    obtain ⟨empty, channel⟩ := h
    refine ⟨empty, fun other r there => ?_⟩
    rw [OrdMap.get_insert] at there
    split at there
    case isTrue same =>
      subst same
      cases there
      refine ⟨0, Nat.zero_le _, [], List.filter_eq_nil_iff.2 fun a mem about => ?_, fun _ => rfl⟩
      exact known a mem (of_decide_eq_true about ▸ fresh)
    case isFalse => exact channel other r there
  | shown _ other _ =>
    obtain ⟨empty, r, there, state⟩ := h
    exact ⟨empty, r, keeps there, state⟩
  | following _ other =>
    obtain ⟨r, there, state⟩ := h
    exact ⟨r, keeps there, state⟩
  | closed closedRun =>
    cases closedRun with
    | none => trivial
    | some other =>
      intro follows
      obtain ⟨r, there, state⟩ := h follows
      exact ⟨r, keeps there, state⟩

structure TaskInv (runs : OrdMap String Run) (id : String) (task : TaskInfo) : Prop where
  key : task.taskId = id
  active : ∀ run ∈ task.activeRun, ∃ r, runs[run.runId]? = some r ∧ r.taskId = id ∧ r.ended = false
  last : ∀ run ∈ task.lastRun, ∃ r, runs[run.runId]? = some r ∧ r.ended = true

/-- What holds in every state of a run in which events are broadcast in order. -/
structure Inv (w : World) : Prop where
  runs : ∀ (id : String) (run : Run), w.runs[id]? = some run → RunInv w.logs id run
  fresh : ∀ id : String, w.runs[id]? = none → w.logs[id]? = none
  tasks : ∀ (id : String) (task : TaskInfo), w.tasks[id]? = some task → TaskInv w.runs id task
  known : ∀ a ∈ w.follower.queue, w.runs[a.runId]? ≠ none
  follower : FollowerInv w.runs w.follower

lemma push_queue (f : Follower) (activities : List Activity) :
    ∀ a ∈ (f.push activities).queue, a ∈ f.queue ∨ a ∈ activities := by
  intro a mem
  unfold Follower.push at mem
  split at mem
  · exact .inl mem
  · exact .inl mem
  · exact List.mem_append.1 mem

lemma Inv.grow (inv : Inv w) {run' : Run} {activities : List Activity} {tasks : Tasks}
    (found : w.runs[id]? = some run) (g : Grows id run run' activities) (ok : RunInv logs id run')
    (others : ∀ k : String, k ≠ id → logs[k]? = w.logs[k]?)
    (tasksOk : ∀ (k : String) (task : TaskInfo), tasks[k]? = some task →
      TaskInv (w.runs.insert id run') k task) :
    Inv ⟨tasks, logs, w.runs.insert id run', w.follower.push activities⟩ where
  runs k r there := by
    rw [OrdMap.get_insert] at there
    split at there
    case isTrue same =>
      cases there
      exact same ▸ ok
    case isFalse ne => exact (inv.runs k r there).congr (others k (Ne.symm ne))
  fresh k none := by
    rw [OrdMap.get_insert] at none
    split at none
    case isTrue => cases none
    case isFalse ne => rw [others k (Ne.symm ne), inv.fresh k none]
  tasks := tasksOk
  known a mem := by
    rw [OrdMap.get_insert]
    split
    · simp
    case isFalse ne =>
      rcases push_queue _ _ a mem with old | new
      · exact inv.known a old
      · exact (ne (g.activities_runId a new).symm).elim
  follower := inv.follower.grow found g

lemma TaskInv.insert {run' : Run} (h : TaskInv runs k task) (found : runs[id]? = some run)
    (taskId : run'.taskId = run.taskId) (ended : run'.ended = run.ended) : TaskInv (runs.insert id run') k task where
  key := h.key
  active a mem := by
    obtain ⟨r, there, rest⟩ := h.active a mem
    rw [OrdMap.get_insert]
    split
    case isTrue same =>
      rw [← same, found] at there
      cases there
      exact ⟨run', rfl, taskId ▸ ended ▸ rest⟩
    case isFalse => exact ⟨r, there, rest⟩
  last a mem := by
    obtain ⟨r, there, rest⟩ := h.last a mem
    rw [OrdMap.get_insert]
    split
    case isTrue same =>
      rw [← same, found] at there
      cases there
      exact ⟨run', rfl, ended ▸ rest⟩
    case isFalse => exact ⟨r, there, rest⟩

/-! ### Steps of the follower -/

lemma shown_inv (inv : Inv w) (phase : w.follower.phase = .subscribed) :
    FollowerInv w.runs (w.follower.shown w.tasks) := by
  have state := inv.follower
  rw [FollowerInv, phase] at state
  obtain ⟨empty, channel⟩ := state
  unfold Follower.shown
  split
  · trivial
  case h_2 task ok =>
    obtain ⟨id, there⟩ := resolveTask_spec ok
    have taskInv := inv.tasks id task there
    split
    · trivial
    split
    · trivial
    case h_2 run first =>
      refine ⟨empty, ?_⟩
      cases active : task.activeRun with
      | some current =>
        rw [active, Option.some_or] at first
        cases first
        obtain ⟨r, found, taskId, alive⟩ := taskInv.active run active
        obtain ⟨k, behind, fin, queued, unannounced⟩ := channel _ r found
        have quiet : r.announced = false := by
          cases told : r.announced with
          | false => rfl
          | true => cases alive.symm.trans ((inv.runs _ r found).announced told)
        refine ⟨r, found, k, taskId.trans taskInv.key.symm, behind, ?_⟩
        rw [quiet]
        rw [unannounced quiet, taskId, ← taskInv.key] at queued
        exact queued
      | none =>
        rw [active, Option.none_or] at first
        obtain ⟨r, found, ended⟩ := taskInv.last run first
        exact ⟨r, found, ended⟩

lemma copied_inv (inv : Inv w) {isActive : Bool} (phase : w.follower.phase = .shown taskId id isActive) :
    FollowerInv w.runs (w.follower.copied taskId id isActive (w.logs[id]?.getD [])
      (w.history id).length) := by
  have state := inv.follower
  rw [FollowerInv, phase] at state
  obtain ⟨empty, run, found, state⟩ := state
  have history : w.history id = run.history := by
    rw [World.history, found]
    rfl
  obtain ⟨n, suffix, kept⟩ := (inv.runs id run found).retained
  have numbered : ∀ (i : Nat) (e : LogEvent), (run.history.drop n)[i]? = some e →
      e.sequence = n + i := by
    intro i e at_
    rw [List.getElem?_drop] at at_
    exact (inv.runs id run found).numbered (n + i) e at_
  obtain ⟨written, moved⟩ := replay_spec numbered w.follower.afterSequence
  have copied : run.history.length ≤ run.history.length ∧ ∃ m ≤ run.history.length,
      run.history.drop n = (run.history.take run.history.length).drop m := by
    refine ⟨Nat.le_refl _, n, by omega, ?_⟩
    rw [List.take_length]
  rw [history, suffix]
  unfold Follower.copied
  dsimp only
  split
  case isTrue follows =>
    obtain ⟨-, rfl⟩ := follows
    obtain ⟨k, subscription⟩ := state
    have most : max run.history.length k = run.history.length := by
      have : run.sent.length ≤ run.history.length := List.length_take_le' _ _
      have := subscription.behind
      omega
    refine ⟨run, found, k, ⟨subscription.task, subscription.behind, subscription.queue⟩,
      copied, ?_, fun i => ?_⟩
    · dsimp only [Follower.expected]
      rw [empty, List.nil_append, written, most, List.take_length, List.drop_length,
        List.append_nil]
    · dsimp only
      rw [moved, most]
      congr 2
      apply propext
      rw [List.drop_eq_nil_iff, List.length_drop]
      omega
  case isFalse stops =>
    intro follows
    have inactive : isActive = false := Bool.eq_false_iff.2 fun active => stops ⟨follows, active⟩
    rw [inactive] at state
    refine ⟨run, found, state, copied, ?_⟩
    dsimp only [Follower.expected]
    rw [empty, List.nil_append, written, List.drop_length, List.append_nil]

lemma expected_take_succ (f : Follower) {history : List LogEvent} {k : Nat} (at_ : history[k]? = some event)
    (le : f.base ≤ k) :
    f.expected (history.take (k + 1)) = f.expected (history.take k)
      ++ if newer f.afterSequence event.sequence then [event] else [] := by
  obtain ⟨lt, rfl⟩ := List.getElem?_eq_some_iff.1 at_
  have inside : f.base ≤ (history.take k).length := by
    rw [List.length_take]
    omega
  unfold Follower.expected
  rw [List.take_add_one, at_, Option.toList_some, List.drop_append_of_le_length inside,
    ← List.append_assoc, List.filter_append, List.filter_singleton, Bool.cond_eq_ite]

lemma Progress.receive {f : Follower} {run : Run} {k : Nat} (h : Progress f run k) {event : LogEvent}
    (at_ : run.history[k]? = some event) (number : event.sequence = k) {f' : Follower}
    (kept : f'.base = f.base ∧ f'.retained = f.retained ∧
      f'.afterSequence = f.afterSequence)
    (written : if newer f.cursor k then f'.cursor = some k ∧ f'.frames = f.frames ++ [Frame.log event]
      else f'.cursor = f.cursor ∧ f'.frames = f.frames) : Progress f' run (k + 1) := by
  obtain ⟨base, retained, after⟩ := kept
  have expected : f'.expected = f.expected := by
    unfold Follower.expected
    rw [base, retained, after]
  have cursor := h.cursor
  have frames := h.frames
  have more := expected_take_succ f at_
  rw [number] at more
  rw [cursor] at written
  refine ⟨?_, ?_, fun i => ?_⟩
  · unfold Follower.Copied
    rw [base, retained]
    exact h.copied
  · rw [expected, base]
    rcases Nat.lt_or_ge k f.base with early | late
    · -- The event was among the retained ones.
      rw [if_neg (by simp; omega)] at written
      rw [written.2, frames, Nat.max_eq_left early, Nat.max_eq_left (Nat.le_of_lt early)]
    · rw [Nat.max_eq_right late] at frames written
      rw [Nat.max_eq_right (by omega), more late, List.map_append, ← frames]
      cases new : newer f.afterSequence k with
      | true =>
        rw [new, if_pos (by simp)] at written
        exact written.2
      | false =>
        rw [new, if_neg (by simp)] at written
        simpa using written.2
  · rw [after, base]
    rcases Nat.lt_or_ge k f.base with early | late
    · rw [if_neg (by simp; omega)] at written
      rw [written.1, cursor, Nat.max_eq_left early, Nat.max_eq_left (Nat.le_of_lt early)]
    · rw [Nat.max_eq_right late] at cursor written
      rw [Nat.max_eq_right (by omega)]
      cases new : newer f.afterSequence k with
      | true =>
        rw [new, if_pos (by simp)] at written
        rw [written.1, Bool.eq_iff_iff, Bool.and_eq_true, decide_eq_true_iff]
        constructor
        · intro lt
          have lt : k < i := of_decide_eq_true lt
          exact ⟨newer_of_lt new lt, lt⟩
        · exact fun both => decide_eq_true both.2
      | false =>
        rw [new, if_neg (by simp)] at written
        rw [written.1, cursor, Bool.eq_iff_iff, Bool.and_eq_true, Bool.and_eq_true,
          decide_eq_true_iff, decide_eq_true_iff]
        refine and_congr_right fun fresh => ?_
        have ne : k ≠ i := by
          rintro rfl
          cases new.symm.trans fresh
        omega

lemma received_log (f : Follower) (taskId : String) (about : event.runId = id) :
    f.received taskId id (.log taskId event) = if newer f.cursor event.sequence then
      { f with cursor := some event.sequence, frames := f.frames ++ [Frame.log event] } else f := by
  cases new : newer f.cursor event.sequence with
  | true => exact if_pos ⟨rfl, about, new⟩
  | false => exact if_neg fun h => Bool.false_ne_true (new.symm.trans h.2.2)

lemma received_inv (inv : Inv w) {activity : Activity} {queue : List Activity}
    (phase : w.follower.phase = .following taskId id) (queued : w.follower.queue = activity :: queue) :
    FollowerInv w.runs ({ w.follower with queue }.received taskId id activity) := by
  obtain ⟨tasks, logs, runs, ⟨selector, after, follow, _, _, cursor, frames, retained, base⟩⟩ := w
  cases phase
  cases queued
  obtain ⟨run, found, k, subscription, progress⟩ := inv.follower
  have runInv := inv.runs id run found
  have channel := subscription.queue
  by_cases about : activity.runId = id
  · rw [List.filter_cons, if_pos (decide_eq_true about)] at channel
    cases activity with
    | log other event =>
      rcases Nat.lt_or_ge k run.sent.length with lt | ge
      · rw [List.drop_eq_getElem_cons lt, List.map_cons, List.cons_append] at channel
        obtain ⟨same, left⟩ := List.cons.inj channel
        obtain ⟨rfl, rfl⟩ := Activity.log.inj same
        have at_ : run.history[k]? = some run.sent[k] := by
          rw [runInv.split, List.getElem?_append_left lt]
          exact List.getElem?_eq_getElem lt
        have number := runInv.numbered k _ at_
        rw [received_log _ other about]
        have next := @Progress.receive _ _ _ progress _ at_ number
        rw [number]
        split
        case isTrue new =>
          exact ⟨run, found, k + 1, ⟨subscription.task, lt, left⟩,
            next ⟨rfl, rfl, rfl⟩ (by rw [if_pos new]; exact ⟨rfl, rfl⟩)⟩
        case isFalse old =>
          exact ⟨run, found, k + 1, ⟨subscription.task, lt, left⟩,
            next ⟨rfl, rfl, rfl⟩ (by rw [if_neg old]; exact ⟨rfl, rfl⟩)⟩
      · rw [List.drop_eq_nil_of_le ge, List.map_nil, List.nil_append] at channel
        split at channel <;> cases channel
    | finished other finishedRun =>
      rcases Nat.lt_or_ge k run.sent.length with lt | ge
      · rw [List.drop_eq_getElem_cons lt, List.map_cons, List.cons_append] at channel
        cases (List.cons.inj channel).1
      · rw [List.drop_eq_nil_of_le ge, List.map_nil, List.nil_append] at channel
        split at channel
        case isFalse => cases channel
        case isTrue announced =>
          obtain ⟨rfl, -⟩ := Activity.finished.inj (List.cons.inj channel).1
          -- The readers have returned, so everything is broadcast.
          have ended := runInv.announced announced
          obtain ⟨stdout, stderr⟩ := runInv.ended ended
          have all : run.history.length ≤ k := by
            have pending : run.pending = [] := by
              unfold Run.pending
              rw [stdout, stderr]
            rw [Run.sent, pending, List.length_nil, Nat.sub_zero, List.take_length] at ge
            exact ge
          rw [Follower.received, if_pos ⟨rfl, about⟩]
          intro _
          refine ⟨run, found, ended, progress.copied, ?_⟩
          have written := progress.frames
          have := progress.copied.1
          rw [List.take_of_length_le (by omega)] at written
          exact congrArg (· ++ [Frame.logsFinished]) written
  · -- An activity of another run changes nothing.
    rw [List.filter_cons, if_neg (fun same => about (of_decide_eq_true same))] at channel
    have skips : ∀ f : Follower, f.received taskId id activity = f := by
      intro f
      cases activity with
      | log other event => exact if_neg fun h => about h.2.1
      | finished other finishedRun => exact if_neg fun h => about h.2
    rw [skips]
    exact ⟨run, found, k, ⟨subscription.task, subscription.behind, channel⟩, progress.copied,
      progress.frames, progress.cursor⟩

/-! ### Runs of the system -/

/-- A reader broadcasts an event only when the other reader of the run does not hold an earlier
    one. -/
def sendsInOrder (w : World) : Action → Bool
  | .send runId stream =>
    match w.runs[runId]? with
    | some run =>
      match run.reader stream with
      | .sending event => run.pending.all fun e => event.sequence ≤ e.sequence
      | _ => true
    | none => true
  | _ => true

lemma push_nil (f : Follower) : f.push [] = f := by
  unfold Follower.push
  split <;> simp

lemma Inv.quiet {w : World} (inv : Inv w) {id : String} {run run' : Run} {logs : OrdMap String (List LogEvent)}
    {tasks : Tasks} (found : w.runs[id]? = some run) (g : Grows id run run' []) (ok : RunInv logs id run')
    (others : ∀ k : String, k ≠ id → logs[k]? = w.logs[k]?)
    (tasksOk : ∀ (k : String) (task : TaskInfo), tasks[k]? = some task →
      TaskInv (w.runs.insert id run') k task) : Inv ⟨tasks, logs, w.runs.insert id run', w.follower⟩ := by
  have grown := inv.grow found g ok others tasksOk
  rwa [push_nil] at grown

lemma TaskInv.finish (h : TaskInv runs k task) (other : ∀ a ∈ task.activeRun, a.runId ≠ id) :
    TaskInv (runs.insert id { run with ended := true }) k task where
  key := h.key
  active a mem := by
    rw [OrdMap.get_insert, if_neg (Ne.symm (other a mem))]
    exact h.active a mem
  last a mem := by
    rw [OrdMap.get_insert]
    split
    · exact ⟨_, rfl, rfl⟩
    · exact h.last a mem

lemma finish_tasks (inv : Inv w) (found : w.runs[id]? = some run) (there : w.tasks[k]? = some task)
    (kept : ∀ current, w.tasks[run.taskId]? = some current → ∀ a ∈ current.activeRun, a.runId ≠ id) :
    TaskInv (w.runs.insert id { run with ended := true }) k task := by
  refine (inv.tasks k task there).finish fun a mem same => ?_
  obtain ⟨r, found', taskId, -⟩ := (inv.tasks k task there).active a mem
  rw [same, found] at found'
  cases found'
  exact kept task (taskId ▸ there) a mem same

lemma finish_inv (inv : Inv w) {state : RunState} {exitCode : Option Int} {now : Nat}
    (h : step w (.finish id state exitCode now) = some w') : Inv w' := by
  simp only [step] at h
  split at h
  case h_2 => cases h
  case h_1 run found =>
    split at h
    case isFalse => cases h
    case isTrue returned =>
      obtain ⟨ok, g⟩ := finish_spec (inv.runs _ _ found) returned.1 returned.2.1
      have unchanged : (∀ current, w.tasks[run.taskId]? = some current →
          ∀ a ∈ current.activeRun, a.runId ≠ id) → Inv (w.setRun id { run with ended := true }) :=
        fun kept => inv.quiet found g ok (fun _ _ => rfl)
          fun k task there => finish_tasks inv found there kept
      split at h
      case h_2 absent =>
        cases h
        exact unchanged fun current there => by cases absent.symm.trans there
      case h_1 task there =>
        split at h
        case h_2 idle =>
          cases h
          refine unchanged fun current there' a mem => ?_
          cases there.symm.trans there'
          rw [idle] at mem
          cases mem
        case h_1 active running =>
          split at h
          case isFalse ne =>
            cases h
            refine unchanged fun current there' a mem => ?_
            cases there.symm.trans there'
            rw [running] at mem
            cases mem
            exact ne
          case isTrue same =>
            cases h
            refine inv.quiet found g ok (fun _ _ => rfl) fun k other there' => ?_
            rw [OrdMap.get_insert] at there'
            split at there'
            case isTrue key =>
              cases there'
              refine ⟨(inv.tasks _ _ there).key.trans key,
                fun _ mem => absurd mem (Option.not_mem_none _), fun a mem => ?_⟩
              cases mem
              exact ⟨_, by rw [OrdMap.get_insert, if_pos same.symm], rfl⟩
            case isFalse key =>
              refine (inv.tasks k other there').finish fun a mem about => ?_
              obtain ⟨r, found', taskId, -⟩ := (inv.tasks k other there').active a mem
              rw [about, found] at found'
              cases found'
              exact key taskId

lemma start_inv (inv : Inv w) {now : Nat} (h : step w (.start taskId id now) = some w') : Inv w' := by
  simp only [step] at h
  split at h
  case h_2 => cases h
  case h_1 task found fresh =>
    split at h
    case isFalse => cases h
    case isTrue idle =>
      cases h
      have other : ∀ (k : String) (r : Run), w.runs[k]? = some r → id ≠ k := by
        rintro k r there rfl
        cases fresh.symm.trans there
      refine ⟨fun k run there => ?_, fun k none => ?_, fun k t there => ?_, fun a mem => ?_,
        inv.follower.start fresh inv.known taskId⟩
      · rw [OrdMap.get_insert] at there
        split at there
        case isTrue same =>
          cases there
          subst same
          refine ⟨nofun, nofun, rfl, ⟨0, ?_, .inl rfl⟩, fun _ => rfl, iff_of_true rfl rfl, nofun,
            nofun⟩
          dsimp only
          rw [inv.fresh id fresh]
          rfl
        case isFalse => exact inv.runs k run there
      · rw [OrdMap.get_insert] at none
        split at none
        · cases none
        · exact inv.fresh k none
      · have weaken : ∀ {k t}, TaskInv w.runs k t → TaskInv (w.runs.insert id
            ⟨taskId, .unspawned, .unspawned, false, false, []⟩) k t := by
          intro k t old
          refine ⟨old.key, fun a mem => ?_, fun a mem => ?_⟩
          · obtain ⟨r, there, rest⟩ := old.active a mem
            exact ⟨r, by rw [OrdMap.get_insert, if_neg (other _ r there), there], rest⟩
          · obtain ⟨r, there, rest⟩ := old.last a mem
            exact ⟨r, by rw [OrdMap.get_insert, if_neg (other _ r there), there], rest⟩
        rw [OrdMap.get_insert] at there
        split at there
        case isTrue same =>
          cases there
          subst same
          have old := weaken (inv.tasks _ _ found)
          refine ⟨old.key, fun a mem => ?_, old.last⟩
          cases mem
          exact ⟨_, by rw [startedRun, OrdMap.get_insert, if_pos rfl], rfl, rfl⟩
        case isFalse => exact weaken (inv.tasks k t there)
      · rw [OrdMap.get_insert]
        split
        · simp
        · exact inv.known a mem

lemma shown_queue (f : Follower) (tasks : Tasks) : (f.shown tasks).queue = f.queue := by
  unfold Follower.shown
  split
  · rfl
  split
  · rfl
  split <;> rfl

lemma copied_queue (f : Follower) (taskId runId : String) (isActive : Bool) (existing : List LogEvent) (base : Nat) :
    (f.copied taskId runId isActive existing base).queue = f.queue := by
  unfold Follower.copied
  dsimp only
  split <;> rfl

lemma received_queue (f : Follower) (taskId runId : String) (activity : Activity) :
    (f.received taskId runId activity).queue = f.queue := by
  unfold Follower.received
  split <;> split <;> rfl

lemma step_inv {action : Action} (inv : Inv w) (order : sendsInOrder w action = true) (h : step w action = some w') :
    Inv w' := by
  cases action with
  | define taskId definition =>
    simp only [step] at h
    split at h
    case h_1 none =>
      cases h
      refine { inv with tasks := fun id task there => ?_ }
      rw [OrdMap.get_insert] at there
      split at there
      case isTrue same =>
        cases there
        exact ⟨same, fun _ mem => absurd mem (Option.not_mem_none _), fun _ mem => absurd mem (Option.not_mem_none _)⟩
      case isFalse => exact inv.tasks id task there
    case h_2 old found =>
      split at h
      case isFalse => cases h
      case isTrue idle =>
        cases h
        refine { inv with tasks := fun id task there => ?_ }
        rw [OrdMap.get_insert] at there
        split at there
        case isTrue same =>
          cases there
          subst same
          have old := inv.tasks _ _ found
          exact ⟨old.key, old.active, old.last⟩
        case isFalse => exact inv.tasks id task there
  | remove taskId =>
    simp only [step] at h
    split at h
    · cases h
    split at h
    case isFalse => cases h
    case isTrue =>
      cases h
      refine { inv with tasks := fun id task there => ?_ }
      rw [OrdMap.get_erase] at there
      split at there
      · cases there
      · exact inv.tasks id task there
  | start taskId runId now => exact start_inv inv h
  | spawn runId =>
    simp only [step] at h
    split at h
    case h_2 => cases h
    case h_1 run found =>
      split at h
      case isFalse => cases h
      case isTrue unspawned =>
        cases h
        obtain ⟨ok, g⟩ := spawn_spec (inv.runs _ _ found) unspawned.1 unspawned.2
        exact inv.quiet found g ok (fun k ne => by rw [OrdMap.get_insert, if_neg (Ne.symm ne)])
          fun k task there => (inv.tasks k task there).insert found rfl rfl
  | append runId stream data =>
    simp only [step] at h
    split at h
    case h_2 => cases h
    case h_1 run found =>
      split at h
      case isFalse => cases h
      case isTrue reading =>
        cases h
        obtain ⟨ok, g⟩ := append_spec (inv.runs _ _ found) reading.1 reading.2.2 rfl
        refine inv.quiet found g ok (fun k ne => by rw [OrdMap.get_insert, if_neg (Ne.symm ne)])
          fun k task there => (inv.tasks k task there).insert found ?_ ?_
        · cases stream <;> rfl
        · cases stream <;> rfl
  | send runId stream =>
    simp only [step, sendsInOrder] at h order
    split at h
    case h_2 => cases h
    case h_1 run found =>
      rw [found] at order
      split at h
      case h_2 => cases h
      case h_1 event sending =>
        cases h
        dsimp only at order
        rw [sending] at order
        obtain ⟨ok, g⟩ := send_spec (inv.runs _ _ found) sending
          fun e mem => of_decide_eq_true (List.all_eq_true.1 order e mem)
        refine inv.grow found g ok (fun _ _ => rfl)
          fun k task there => (inv.tasks k task there).insert found ?_ ?_
        · cases stream <;> rfl
        · cases stream <;> rfl
  | close runId stream =>
    simp only [step] at h
    split at h
    case h_2 => cases h
    case h_1 run found =>
      split at h
      case isFalse => cases h
      case isTrue reading =>
        cases h
        obtain ⟨ok, g⟩ := close_spec (inv.runs _ _ found) reading
        refine inv.quiet found g ok (fun _ _ => rfl)
          fun k task there => (inv.tasks k task there).insert found ?_ ?_
        · cases stream <;> rfl
        · cases stream <;> rfl
  | finish runId state exitCode now => exact finish_inv inv h
  | announce runId =>
    simp only [step] at h
    split at h
    case h_2 => cases h
    case h_1 run found =>
      split at h
      case isFalse => cases h
      case isTrue ended =>
        cases h
        obtain ⟨ok, g⟩ := announce_spec (inv.runs _ _ found) ended.1 ended.2
        exact inv.grow found g ok (fun _ _ => rfl)
          fun k task there => (inv.tasks k task there).insert found rfl rfl
  | subscribe =>
    simp only [step] at h
    split at h
    case isFalse => cases h
    case isTrue phase =>
      cases h
      have state := inv.follower
      rw [FollowerInv, phase] at state
      refine { inv with follower := ⟨state.2, fun id run there => ?_⟩ }
      refine ⟨run.sent.length, Nat.le_refl _, [], ?_, fun _ => rfl⟩
      dsimp only
      rw [state.1, List.drop_length]
      rfl
  | showTask =>
    simp only [step] at h
    split at h
    case isFalse => cases h
    case isTrue phase =>
      cases h
      refine { inv with follower := shown_inv inv phase, known := fun a mem => inv.known a ?_ }
      dsimp only at mem
      rwa [shown_queue] at mem
  | copy =>
    simp only [step] at h
    split at h
    case h_2 => cases h
    case h_1 phase =>
      cases h
      refine { inv with follower := copied_inv inv phase, known := fun a mem => inv.known a ?_ }
      dsimp only at mem
      rwa [copied_queue] at mem
  | receive =>
    simp only [step] at h
    split at h
    case h_2 => cases h
    case h_1 phase queued =>
      cases h
      refine { inv with follower := received_inv inv phase queued, known := fun a mem => ?_ }
      dsimp only at mem
      rw [received_queue] at mem
      exact inv.known a (queued ▸ List.mem_cons_of_mem _ mem)

lemma initial_inv (h : Initial w) : Inv w := by
  obtain ⟨selector, after, follow, follower⟩ := h.follower
  refine ⟨fun id run there => ?_, fun id _ => ?_, fun id task there => ?_, ?_, ?_⟩
  · rw [h.runs id run there]
    refine ⟨nofun, nofun, rfl, ⟨0, ?_, .inl rfl⟩, nofun, iff_of_false nofun nofun,
      fun _ => ⟨rfl, rfl⟩, fun _ => rfl⟩
    rw [h.logs]
    rfl
  · rw [h.logs]
    rfl
  · obtain ⟨key, idle, last⟩ := h.tasks id task there
    refine ⟨key, ?_, fun run mem => ?_⟩
    · rw [idle]
      exact fun _ mem => absurd mem (Option.not_mem_none _)
    · obtain ⟨r, found⟩ := last run mem
      exact ⟨r, found, by rw [h.runs _ r found]⟩
  · rw [follower]
    exact fun _ mem => absurd mem List.not_mem_nil
  · rw [follower]
    exact ⟨rfl, rfl⟩

/-! ### Following -/

/-- A daemon without tasks, and a client that asks for the logs of the task `t`. -/
def requested : World := ⟨∅, ∅, ∅, ⟨"t", none, true, .requested, [], none, [], [], 0⟩⟩

end Ctl.Task.Logs
