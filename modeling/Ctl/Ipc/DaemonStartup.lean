import Ctl.Base.System
import Mathlib.Logic.Function.Basic

/-!
# Starting the broker

Model of `ctl/ipc/src/daemon_startup.rs` for one endpoint and any number of callers. A caller that gets the lock of the
endpoint shares it, as a reservation, with the thread that reaps the child it spawns, and with a background task once it
has given up. The lock is free again when the reservation has been released, or nothing holds it any more. Each caller
may fail at every step; it may be cancelled wherever it waits, and so may its background task, with the runtime.

What is known of a caller depends on itself and on whether it has the lock (`Caller.Sound`), so that callers need not
be compared (`startup_exclusive`).
-/

namespace Ctl.Ipc
open Ctl.Base

/-- Where Rust `connect_or_start` waits. -/
inductive Connecting where
  /-- For the lock, or for an owner of the endpoint. -/
  | racing
  | checking
  | preparing
  | rechecking
  | starting
  | retrying
  | returned (connected : Bool)
  | cancelled
  deriving DecidableEq

/-- Where the thread of Rust `spawn_reaped` is. -/
inductive Reaper where
  | none
  | spawning
  /-- There is no child, or not even a thread. -/
  | refused
  | waiting
  | ended
  deriving DecidableEq

/-- One call of Rust `connect_or_start`. -/
structure Caller where
  task : Connecting
  reaper : Reaper
  /-- The background task `release_when_ready_or_exited` runs. -/
  watching : Bool
  /-- The helper has been prepared. -/
  prepared : Bool
  /-- The endpoint was unreachable when it was checked with the lock, and with the helper prepared. -/
  cleared : Bool
  /-- The child has been spawned. -/
  spawned : Bool
  /-- The child has exited. -/
  exited : Bool
  /-- Since the child was spawned, a connection to the endpoint has succeeded. -/
  reached : Bool

namespace Caller

def start : Caller := ⟨.racing, .none, false, false, false, false, false, false⟩

/-- The caller has the lock, or one of the parts of it that have the reservation is left. -/
def holds (c : Caller) : Bool :=
  c.watching ||
    (match c.reaper with
    | .spawning | .refused | .waiting => true
    | .none | .ended => false) ||
    match c.task with
    | .checking | .preparing | .rechecking | .starting | .retrying => true
    | .racing | .returned _ | .cancelled => false

def finished (c : Caller) : Bool :=
  match c.task with
  | .returned _ | .cancelled => true
  | _ => false

end Caller

/-- What a caller does, or what happens to it: it is cancelled, its child exits, or its runtime shuts down. -/
inductive CallerAction where
  | lock
  | advance
  | fail
  | spawn (ok : Bool)
  | reap
  | watch
  | cancel
  | exit
  | shutdown
  deriving DecidableEq

def CallerAction.own : CallerAction → Bool
  | .cancel | .exit | .shutdown => false
  | _ => true

/-- One step of a caller: what it is then, and whether its reservation still has the lock. `owned` is whether it has,
    `free` whether nobody has. -/
def Caller.step (owned free reachable : Bool) (c : Caller) : CallerAction → Option (Caller × Bool)
  | .lock => if c.task = .racing ∧ free then some ({ c with task := .checking }, true) else none
  | .advance =>
    match c.task with
    | .racing => if reachable then some ({ c with task := .returned true }, owned) else none
    | .checking => some ({ c with task := if reachable then .returned true else .preparing }, owned)
    | .preparing => some ({ c with task := .rechecking, prepared := true }, owned)
    | .rechecking =>
      if reachable then some ({ c with task := .returned true }, owned)
      else some ({ c with
        task := .starting, reaper := .spawning, cleared := owned && c.prepared && !reachable }, owned)
    | .starting =>
      if c.reaper = .spawning then none
      else some ({ c with task := if c.spawned then .retrying else .returned false }, owned)
    | .retrying => if reachable then some ({ c with task := .returned true, reached := true }, false) else none
    | _ => none
  | .fail =>
    match c.task with
    | .racing | .checking | .preparing | .rechecking => some ({ c with task := .returned false }, owned)
    | .retrying => some ({ c with task := .returned false, watching := true }, owned)
    | _ => none
  | .spawn ok =>
    if c.reaper = .spawning then
      some ({ c with reaper := if ok then .waiting else .refused, spawned := ok }, owned)
    else none
  | .reap =>
    if c.reaper = .refused ∨ c.reaper = .waiting ∧ c.exited then some ({ c with reaper := .ended }, owned) else none
  | .watch =>
    if !c.watching then none
    else if reachable then some ({ c with watching := false, reached := true }, false)
    else some ({ c with watching := !(c.reaper = .ended) }, owned)
  | .cancel => if c.finished then none else some ({ c with task := .cancelled }, owned)
  | .exit => if c.spawned ∧ !c.exited then some ({ c with exited := true }, owned) else none
  | .shutdown => if c.watching then some ({ c with watching := false }, owned) else none

structure Endpoint where
  lock : Option Nat
  reachable : Bool
  callers : Nat → Caller

inductive EndpointAction where
  | call (i : Nat) (action : CallerAction)
  | reachable (value : Bool)

namespace Endpoint

/-- The lock is kept as long as it is not released and something has the reservation (Rust `Drop`). -/
def step (s : Endpoint) : EndpointAction → Option Endpoint
  | .call i action =>
    ((s.callers i).step (s.lock = some i) (s.lock = none) s.reachable action).map fun (c, owned) =>
      { s with
        callers := Function.update s.callers i c
        lock := if owned && c.holds then some i else if s.lock = some i then none else s.lock }
  | .reachable value => some { s with reachable := value }

def start : Endpoint := ⟨none, false, fun _ => .start⟩

end Endpoint

/-! ### What is known of a caller -/

structure Caller.Sound (owned : Bool) (c : Caller) : Prop where
  early : c.reaper = .none →
    c.spawned = false ∧ c.watching = false ∧ c.task ≠ .starting ∧ c.task ≠ .retrying
  racing : c.task = .racing → owned = false ∧ c.reaper = .none
  locked : c.task = .checking ∨ c.task = .preparing ∨ c.task = .rechecking → owned ∧ c.reaper = .none
  prepared : c.task = .rechecking → c.prepared
  spawning : c.reaper = .spawning → owned ∧ c.cleared ∧ c.spawned = false ∧ c.watching = false ∧
    c.task ≠ .retrying ∧ ∀ connected, c.task ≠ .returned connected
  refused : c.reaper = .refused → c.spawned = false
  spawned : c.spawned → c.cleared ∧ (owned ∨ c.reached ∨ c.exited) ∧
    (c.reaper = .waiting ∨ c.reaper = .ended ∧ c.exited)
  retrying : c.task = .retrying → c.spawned
  watching : c.watching → c.spawned ∧ c.task = .returned false ∨ c.spawned ∧ c.task = .cancelled
  returned : c.task = .returned true → owned = false
  held : owned → c.holds

lemma Caller.Sound.step {owned free reachable : Bool} {c c' : Caller} {owned' : Bool} (h : c.Sound owned)
    {action : CallerAction}
    (step : c.step owned free reachable action = some (c', owned')) : c'.Sound (owned' && c'.holds) := by
  obtain ⟨early, racing, locked, prepared, spawning, refused, spawned, retrying, watching, returned, held⟩ := h
  obtain ⟨task, reaper, watching', prepared', cleared, spawned', exited, reached⟩ := c
  unfold Caller.step at step
  cases action with
  | advance => cases task <;> constructor <;> grind -ring -linarith -lia -order -ac [Caller.holds]
  | fail => cases task <;> constructor <;> grind -ring -linarith -lia -order -ac [Caller.holds]
  | lock | spawn | reap | watch | cancel | exit | shutdown =>
    constructor <;> grind -ring -linarith -lia -order -ac [Caller.holds, Caller.finished]

lemma Caller.step_owned {owned free reachable : Bool} {c c' : Caller} {action : CallerAction}
    (step : c.step owned free reachable action = some (c', true)) : owned ∨ free := by
  unfold Caller.step at step
  grind

lemma Caller.step_spawn {owned free reachable : Bool} {c c' : Caller} {owned' ok : Bool}
    (step : c.step owned free reachable (.spawn ok) = some (c', owned')) : c.reaper = .spawning := by
  simp only [Caller.step, Option.ite_none_right_eq_some] at step
  exact step.1

lemma Caller.Sound.next {c : Caller} (h : c.Sound true) (done : c.exited ∨ c.task = .returned true)
    (free reachable : Bool) : ∃ action : CallerAction, action.own ∧ (c.step true free reachable action).isSome := by
  have exited : c.exited := done.resolve_right fun connected => by simpa using h.returned connected
  have held := h.held rfl
  simp only [Caller.holds, Bool.or_eq_true] at held
  rcases held with (watching | reaper) | task
  · exact ⟨.watch, rfl, by unfold Caller.step; grind⟩
  · cases thread : c.reaper with
    | none | ended => simp [thread] at reaper
    | spawning => exact ⟨.spawn true, rfl, by simp [Caller.step, thread]⟩
    | refused | waiting => exact ⟨.reap, rfl, by simp [Caller.step, thread, exited]⟩
  · by_cases spawning : c.reaper = .spawning
    · exact ⟨.spawn true, rfl, by simp [Caller.step, spawning]⟩
    · cases place : c.task with
      | racing | returned | cancelled => simp [place] at task
      | checking | preparing => exact ⟨.advance, rfl, by simp [Caller.step, place]⟩
      | rechecking => exact ⟨.fail, rfl, by simp [Caller.step, place]⟩
      | starting => exact ⟨.advance, rfl, by simp [Caller.step, place, spawning]⟩
      -- the connection is not tried for ever
      | retrying => exact ⟨.fail, rfl, by simp [Caller.step, place]⟩

namespace Endpoint

def Sound (s : Endpoint) : Prop := ∀ i, (s.callers i).Sound (s.lock = some i)

lemma Sound.step {s s' : Endpoint} (h : s.Sound) {action : EndpointAction} (step : s.step action = some s') :
    s'.Sound := by
  cases action with
  | reachable value =>
    obtain rfl := Option.some.inj step
    exact h
  | call i action =>
    obtain ⟨⟨c, owned⟩, own, rfl⟩ := Option.map_eq_some_iff.1 step
    have sound := (h i).step own
    intro j
    by_cases same : j = i
    · subst same
      have lock : (decide ((if owned && c.holds then some j else if s.lock = some j then none else s.lock) = some j)) =
          (owned && c.holds) := by
        grind
      simpa only [Function.update_self, lock] using sound
    · -- the lock that another caller has is neither released nor taken here
      have lock : ((if owned && c.holds then some i else if s.lock = some i then none else s.lock) = some j) ↔
          s.lock = some j := by
        have : owned = true → s.lock = some i ∨ s.lock = none := fun taken => by
          subst taken
          simpa using Caller.step_owned own
        grind
      simpa only [Function.update_of_ne same, lock] using h j

lemma Sound.reachable {s : Endpoint} (h : Reachable Endpoint.step (· = .start) s) : s.Sound := by
  refine h.invariant Sound ?_ fun s action s' sound step => sound.step step
  rintro _ rfl i
  show Caller.start.Sound false
  constructor <;> simp [Caller.start]

/-- In every run: while a child of a caller has neither exited nor been reached, no other caller spawns one; a child is
    spawned only after a check, with the lock and the helper prepared, that found the endpoint unreachable; and a caller
    whose child has exited, or that has connected, does not have the lock when no step of its own is left. -/
theorem startup_exclusive {s : Endpoint} (h : Reachable Endpoint.step (· = .start) s) :
    (∀ i j ok s', i ≠ j → s.step (.call j (.spawn ok)) = some s' → (s.callers i).spawned →
      (s.callers i).reached ∨ (s.callers i).exited) ∧
    (∀ i, (s.callers i).spawned → (s.callers i).cleared) ∧
    ∀ i, (s.callers i).exited ∨ (s.callers i).task = .returned true →
      (∀ action : CallerAction, action.own → s.step (.call i action) = none) → s.lock ≠ some i := by
  have sound := Sound.reachable h
  refine ⟨fun i j ok s' ne step spawned => ?_, fun i spawned => ((sound i).spawned spawned).1,
    fun i done idle lock => ?_⟩
  · obtain ⟨⟨c, owned⟩, own, -⟩ := Option.map_eq_some_iff.1 step
    have owner := ((sound j).spawning (Caller.step_spawn own)).1
    have other : s.lock ≠ some i := by
      rw [of_decide_eq_true owner]
      exact fun same => ne (Option.some.inj same).symm
    rcases ((sound i).spawned spawned).2.1 with owns | rest
    · exact absurd (of_decide_eq_true owns) other
    · exact rest
  · have own := sound i
    rw [lock, decide_eq_true rfl] at own
    obtain ⟨action, task, enabled⟩ := own.next done (s.lock = none) s.reachable
    have stuck := Option.map_eq_none_iff.1 (idle action task)
    rw [decide_eq_true lock] at stuck
    simp [stuck] at enabled

/-- The child of a caller is slow, so that the caller gives up and its background task watches the child; when the child
    has exited, another caller has the lock and spawns one. -/
def slowChild : List EndpointAction :=
  [.call 0 .lock, .call 0 .advance, .call 0 .advance, .call 0 .advance, .call 0 (.spawn true), .call 0 .advance,
    .call 0 .fail, .call 0 .watch, .call 0 .exit, .call 0 .reap, .call 0 .watch,
    .call 1 .lock, .call 1 .advance, .call 1 .advance, .call 1 .advance]

theorem startup_exclusive_slowChild :
    ∃ s s', exec Endpoint.step .start slowChild = some s ∧ s.step (.call 1 (.spawn true)) = some s' ∧
      (s.callers 0).spawned ∧ ((s.callers 0).reached ∨ (s.callers 0).exited) ∧ (s.callers 0).cleared ∧
      s.lock ≠ some 0 := by
  refine ⟨_, _, rfl, rfl, rfl, ?_⟩
  have holds := startup_exclusive (Reachable.exec (.start rfl) slowChild rfl)
  refine ⟨holds.1 0 1 true _ (by decide) rfl rfl, holds.2.1 0 rfl, holds.2.2 0 (.inl rfl) fun action _ => ?_⟩
  cases action <;> rfl

end Endpoint

end Ctl.Ipc
