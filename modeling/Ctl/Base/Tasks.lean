import Ctl.Base.OrdMap
import Ctl.Base.Prog
import Ctl.Base.System
import Mathlib.Data.List.Induction

/-!
# Concurrent tasks over a shared state

A pool runs tasks next to one another. A task starts with one program and then repeats another: each
return value is the local state of the next repetition. One step of the pool performs one action of
one task on the shared state, spawns a task, stops one at any moment, or changes the shared state
from outside. The actions taken are the log of a run, and the events of one task in the log are its
history.

A task that meets a rule alone (`Prog.Meets`) meets it in the pool: `Pool.run` asks for an invariant
of the log and the shared state that makes the answers acceptable, and `Pool.gives` reads what every
action in a log shows.
-/

namespace Ctl.Base

variable {E : Type} {R : E → Type} {H S X : Type}

structure Pool (E : Type) (R : E → Type) (H S X : Type) where
  /-- What a task runs first. -/
  start : Prog E R S
  /-- What a task repeats. -/
  body : S → Prog E R S
  /-- How many tasks may run at once. -/
  limit : Nat
  /-- The shared state after an event of a task; nothing when the event cannot happen. -/
  perform : H → Nat → Event E R → Option H
  /-- The shared state after a task has been stopped. -/
  stopped : H → Nat → H
  /-- The shared state after something outside the tasks. -/
  outer : H → X → Option H

/-- One step of a pool. -/
inductive Entry (E : Type) (R : E → Type) (X : Type) where
  | spawn (task : Nat)
  | act (task : Nat) (event : Event E R)
  | stop (task : Nat)
  | outer (x : X)

structure Pool.State (E : Type) (R : E → Type) (H S : Type) where
  shared : H
  tasks : OrdMap Nat (Prog E R S)
  nextTask : Nat

def Entry.event (task : Nat) : Entry E R X → Option (Event E R)
  | .act c ev => if c = task then some ev else none
  | _ => none

def history (task : Nat) (log : List (Entry E R X)) : List (Event E R) :=
  log.filterMap (·.event task)

variable (c : Nat) (log : List (Entry E R X))

@[simp] lemma history_nil : history c ([] : List (Entry E R X)) = [] := rfl

lemma history_append (entry : Entry E R X) : history c (log ++ [entry]) = history c log ++ (entry.event c).toList := by
  rw [history, List.filterMap_append]
  cases h : entry.event c <;> simp [history, h]

@[simp] lemma history_act (ev : Event E R) : history c (log ++ [Entry.act c ev]) = history c log ++ [ev] := by
  simp [history_append, Entry.event]

lemma history_act_of_ne {c d : Nat} (other : d ≠ c) (log : List (Entry E R X)) (ev : Event E R) :
    history c (log ++ [Entry.act d ev]) = history c log := by
  simp [history_append, Entry.event, other]

@[simp] lemma history_spawn (d : Nat) (log : List (Entry E R X)) :
    history c (log ++ [Entry.spawn d]) = history c log := by simp [history_append, Entry.event]

@[simp] lemma history_stop (d : Nat) (log : List (Entry E R X)) :
    history c (log ++ [Entry.stop d]) = history c log := by simp [history_append, Entry.event]

@[simp] lemma history_outer (x : X) :
    history c (log ++ [Entry.outer x]) = history c log := by simp [history_append, Entry.event]

lemma split_of_history {c : Nat} {log : List (Entry E R X)} {before after : List (Event E R)}
    {ev : Event E R} (h : history c log = before ++ ev :: after) :
    ∃ past rest, log = past ++ Entry.act c ev :: rest ∧ history c past = before ∧
      history c rest = after := by
  obtain ⟨past, rest, rfl, first, last⟩ := List.filterMap_eq_append_iff.1 h
  obtain ⟨skipped, entry, tail, rfl, none, found, last⟩ := List.filterMap_eq_cons_iff.1 last
  refine ⟨past ++ skipped, tail, ?_, ?_, last⟩
  · cases entry with
    | act d ev' =>
      rw [Entry.event] at found
      split at found
      case isTrue same =>
        obtain rfl := Option.some.inj found
        obtain rfl : d = c := same
        simp
      case isFalse => cases found
    | spawn d => cases found
    | stop d => cases found
    | outer x => cases found
  · rw [history, List.filterMap_append, first, List.filterMap_eq_nil_iff.2 none, List.append_nil]

namespace Pool

variable [DecidableEq E]

def resume (P : Pool E R H S X) : Prog E R S → Prog E R S
  | .done s => P.body s
  | p => p

def step (P : Pool E R H S X) (s : State E R H S) : Entry E R X → Option (State E R H S)
  | .spawn c =>
    if c = s.nextTask ∧ s.tasks.size < P.limit then
      some { s with tasks := s.tasks.insert c P.start, nextTask := c + 1 }
    else none
  | .act c ev =>
    match s.tasks[c]? with
    | none => none
    | some p =>
      match (P.resume p).answer ev, P.perform s.shared c ev with
      | some p', some shared => some { s with shared, tasks := s.tasks.insert c p' }
      | _, _ => none
  | .stop c =>
    if s.tasks[c]?.isSome then
      some { s with shared := P.stopped s.shared c, tasks := s.tasks.erase c }
    else none
  | .outer x => (P.outer s.shared x).map fun shared => { s with shared }

def initial (shared : H) : State E R H S := ⟨shared, ∅, 0⟩

/-! ## The rule of pools -/

/-- The tasks meet their rule alone, and `K` is an invariant of the log and the shared state under
    which the answers are the ones the rule allows. -/
structure Verified (P : Pool E R H S X) (env give : List (Event E R) → Event E R → Prop)
    (J : S → List (Event E R) → Prop) (K : List (Entry E R X) → H → Prop) : Prop where
  start : P.start.Meets env give [] J
  body {s : S} {t : List (Event E R)} : J s t → (P.body s).Meets env give t J
  answers {log : List (Entry E R X)} {h h' : H} {c : Nat} {ev : Event E R} : K log h →
    P.perform h c ev = some h' → env (history c log) ev
  spawn {log : List (Entry E R X)} {h : H} {c : Nat} : K log h → K (log ++ [Entry.spawn c]) h
  act {log : List (Entry E R X)} {h h' : H} {c : Nat} {ev : Event E R} : K log h →
    Entry.stop c ∉ log → give (history c log) ev → P.perform h c ev = some h' →
    K (log ++ [Entry.act c ev]) h'
  stop {log : List (Entry E R X)} {h : H} {c : Nat} : K log h → K (log ++ [Entry.stop c]) (P.stopped h c)
  outer {log : List (Entry E R X)} {h h' : H} {x : X} : K log h → P.outer h x = some h' →
    K (log ++ [Entry.outer x]) h'

variable {P : Pool E R H S X} {env give : List (Event E R) → Event E R → Prop}
  {J : S → List (Event E R) → Prop} {K : List (Entry E R X) → H → Prop} {ev : Event E R} {s : State E R H S}
  {s' : State E R H S}

/-- What holds between the log and the pool after every run. -/
structure Sound (env give : List (Event E R) → Event E R → Prop)
    (J : S → List (Event E R) → Prop) (K : List (Entry E R X) → H → Prop)
    (log : List (Entry E R X)) (s : State E R H S) : Prop where
  shared : K log s.shared
  running {c : Nat} {p : Prog E R S} : s.tasks[c]? = some p → p.Meets env give (history c log) J ∧
    Entry.stop c ∉ log
  unused {c : Nat} : s.nextTask ≤ c → history c log = [] ∧ Entry.stop c ∉ log ∧ s.tasks[c]? = none

lemma Verified.answered (V : P.Verified env give J K) {p p' : Prog E R S} {t : List (Event E R)}
    (meets : p.Meets env give t J) (next : (P.resume p).answer ev = some p') (ok : env t ev) :
    give t ev ∧ p'.Meets env give (t ++ [ev]) J := by
  cases p with
  | done s => exact (V.body meets).answered next ok
  | call e k => exact meets.answered next ok

lemma step_act {c : Nat} (h : P.step s (.act c ev) = some s') :
    ∃ p p' shared, s.tasks[c]? = some p ∧
      (P.resume p).answer ev = some p' ∧ P.perform s.shared c ev = some shared ∧
      s' = { s with shared, tasks := s.tasks.insert c p' } := by
  rw [step] at h
  split at h
  case h_1 => cases h
  case h_2 p found =>
    split at h
    case h_1 p' shared next done =>
      exact ⟨p, p', shared, found, next, done, (Option.some.inj h).symm⟩
    case h_2 => cases h

lemma Verified.step (V : P.Verified env give J K) {log : List (Entry E R X)} (sound : Sound env give J K log s)
    {entry : Entry E R X} (h : P.step s entry = some s') : Sound env give J K (log ++ [entry]) s' := by
  cases entry with
  | spawn c =>
    rw [Pool.step] at h
    split at h
    case isFalse => cases h
    case isTrue enabled =>
      obtain rfl := Option.some.inj h
      obtain ⟨rfl, -⟩ := enabled
      refine ⟨V.spawn sound.shared, ?_, ?_⟩
      · intro c p found
        simp only [history_spawn, List.mem_append, List.mem_singleton, reduceCtorEq, or_false]
        rw [OrdMap.get_insert] at found
        split at found
        case isTrue same =>
          obtain rfl := Option.some.inj found
          obtain ⟨none, live, -⟩ := sound.unused (Nat.le_of_eq same)
          rw [none]
          exact ⟨V.start, live⟩
        case isFalse => exact sound.running found
      · intro c le
        obtain ⟨none, live, absent⟩ := sound.unused (Nat.le_of_succ_le le)
        refine ⟨by rw [history_spawn, none], by simpa using live, ?_⟩
        rw [OrdMap.get_insert, if_neg (Nat.ne_of_lt le), absent]
  | act c ev =>
    obtain ⟨p, p', shared, found, next, done, rfl⟩ := step_act h
    obtain ⟨meets, live⟩ := sound.running found
    obtain ⟨gives, rest⟩ := V.answered meets next (V.answers sound.shared done)
    refine ⟨V.act sound.shared live gives done, ?_, ?_⟩
    · intro d q hq
      simp only [List.mem_append, List.mem_singleton, reduceCtorEq, or_false]
      rw [OrdMap.get_insert] at hq
      split at hq
      case isTrue same =>
        obtain rfl := Option.some.inj hq
        obtain rfl := same
        rw [history_act]
        exact ⟨rest, live⟩
      case isFalse other =>
        rw [history_act_of_ne other]
        exact sound.running hq
    · intro d le
      obtain ⟨none, live', absent⟩ := sound.unused le
      have other : c ≠ d := by
        intro same
        rw [same, absent] at found
        cases found
      rw [history_act_of_ne other]
      refine ⟨none, by simpa using live', ?_⟩
      rw [OrdMap.get_insert, if_neg other, absent]
  | stop c =>
    rw [Pool.step] at h
    split at h
    case isFalse => cases h
    case isTrue running =>
      obtain rfl := Option.some.inj h
      refine ⟨V.stop sound.shared, ?_, ?_⟩
      · intro d p found
        rw [OrdMap.get_erase] at found
        split at found
        case isTrue => cases found
        case isFalse other =>
          obtain ⟨meets, live⟩ := sound.running found
          simp [history_stop, meets, live, Ne.symm other]
      · intro d le
        obtain ⟨none, live, absent⟩ := sound.unused le
        have other : c ≠ d := by
          intro same
          rw [same, absent] at running
          cases running
        refine ⟨by rw [history_stop, none], by simp [live, Ne.symm other], ?_⟩
        rw [OrdMap.get_erase, if_neg other, absent]
  | outer x =>
    obtain ⟨shared, done, rfl⟩ := Option.map_eq_some_iff.1 h
    refine ⟨V.outer sound.shared done, ?_, ?_⟩
    · intro c p found
      simpa using sound.running found
    · intro c le
      simpa using sound.unused le

theorem Verified.run (V : P.Verified env give J K) {h : H} (first : K [] h) {log : List (Entry E R X)}
    (run : exec P.step (initial h) log = some s) : Sound env give J K log s := by
  induction log using List.reverseRecOn generalizing s with
  | nil =>
    obtain rfl : initial h = s := Option.some.inj run
    refine ⟨first, ?_, ?_⟩
    · intro c p found
      simp [initial] at found
    · intro c _
      simp [initial]
  | append_singleton log entry ih =>
    obtain ⟨mid, before, last⟩ := exec_concat run
    exact V.step (ih before) last

theorem Verified.gives (V : P.Verified env give J K) {h : H} (first : K [] h) {past rest : List (Entry E R X)}
    {c : Nat} (run : exec P.step (initial h) (past ++ Entry.act c ev :: rest) = some s) :
    ∃ mid h', exec P.step (initial h) past = some mid ∧ Sound env give J K past mid ∧
      Entry.stop c ∉ past ∧ P.perform mid.shared c ev = some h' ∧ give (history c past) ev := by
  obtain ⟨mid, before, after⟩ := exec_append run
  obtain ⟨next, step, -⟩ := exec_cons after
  obtain ⟨p, p', shared, found, answer, done, -⟩ := step_act step
  have sound := V.run first before
  obtain ⟨meets, live⟩ := sound.running found
  exact ⟨mid, shared, before, sound, live, done, (V.answered meets answer (V.answers sound.shared done)).1⟩

end Pool

end Ctl.Base
