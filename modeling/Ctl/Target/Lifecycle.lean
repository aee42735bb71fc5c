import Ctl.Base.System
import Mathlib.Algebra.GroupWithZero.Nat

/-!
# Connecting and disconnecting a target

The lifecycle of one target orders the explicit requests to connect and to disconnect it. It keeps a revision:
a generation, which a disconnect advances, and an authorization number, which an explicit connect and a wake
consent advance. An attempt remembers both numbers, and each of its calls compares some of them with the revision.

`World` is a lifecycle with any number of handles on attempts (an attempt may be cloned) and with what the
statements speak of: how many disconnects and consents there have been, and which attempts have resumed the
target, reported a failure or completed their work. While the numbers have not wrapped around, `World.Ordered`
holds in every reachable state (`lifecycle_ordered`).
-/

namespace Ctl.Target
open Ctl.Base

/-- `u64::wrapping_add(1)`. -/
def wrappingSucc (n : Nat) : Nat := (n + 1) % 2 ^ 64

structure Revision where
  generation : Nat
  authorization : Nat
  paused : Bool
  authenticationRequired : Bool
  deriving DecidableEq

structure TargetAttempt where
  generation : Nat
  authorization : Nat
  deriving DecidableEq

inductive RequestError where
  | hostDisconnected
  | authenticationRequired
  deriving DecidableEq

inductive AttemptStatus where
  | current
  | paused
  | superseded

namespace Revision

/-- The revision of a new lifecycle (Rust `Revision::default`). -/
def default : Revision := ⟨0, 0, false, false⟩

def attempt (revision : Revision) : TargetAttempt := ⟨revision.generation, revision.authorization⟩

variable (revision : Revision) (attempt : TargetAttempt)

def pause : Revision :=
  { revision with generation := wrappingSucc revision.generation, paused := true }

def resume : Except RequestError Unit × Revision × TargetAttempt :=
  if revision.generation = attempt.generation then
    let authorization := wrappingSucc revision.authorization
    (.ok (), { revision with paused := false, authenticationRequired := false, authorization },
      { attempt with authorization })
  else (.error .hostDisconnected, revision, attempt)

def requireConnected : Except RequestError Unit :=
  if revision.paused then .error .hostDisconnected else .ok ()

def allowBackgroundConnection : Except RequestError Unit := do
  revision.requireConnected
  if revision.authenticationRequired then .error .authenticationRequired else .ok ()

def requireAuthentication : Revision :=
  if revision.paused = false ∧ revision.generation = attempt.generation ∧
      revision.authorization = attempt.authorization ∧ revision.authenticationRequired = false then
    { revision with authenticationRequired := true }
  else revision

def authorized : Bool × Revision :=
  if revision.paused = false ∧ revision.generation = attempt.generation then
    (true, { revision with authenticationRequired := false,
                           authorization := wrappingSucc revision.authorization })
  else (false, revision)

def status : AttemptStatus :=
  if revision.paused then .paused
  else if revision.generation ≠ attempt.generation then .superseded
  else .current

/-- What `TargetAttempt::run` does first in each of its polls; it polls the work only if this succeeds. -/
def runCheck : Except RequestError Unit :=
  if revision.generation ≠ attempt.generation then .error .hostDisconnected else .ok ()

/-- No call of the attempt succeeds or changes anything. -/
structure Fenced (revision : Revision) (attempt : TargetAttempt) : Prop where
  resume : revision.resume attempt = (.error .hostDisconnected, revision, attempt)
  authorized : revision.authorized attempt = (false, revision)
  requireAuthentication : revision.requireAuthentication attempt = revision
  run : revision.runCheck attempt = .error .hostDisconnected
  status : revision.status attempt ≠ .current

lemma fenced {revision : Revision} {attempt : TargetAttempt}
    (ne : revision.generation ≠ attempt.generation) : revision.Fenced attempt where
  resume := if_neg ne
  authorized := if_neg fun both => ne both.2
  requireAuthentication := if_neg fun all => ne all.2.1
  run := if_pos ne
  status := by
    unfold Revision.status
    cases revision.paused with
    | true => exact nofun
    | false =>
      rw [if_neg Bool.false_ne_true, if_pos ne]
      exact nofun

lemma allowBackgroundConnection_eq :
    revision.allowBackgroundConnection = .error .authenticationRequired ↔
      revision.paused = false ∧ revision.authenticationRequired = true := by
  unfold allowBackgroundConnection requireConnected
  cases revision.paused <;> cases revision.authenticationRequired <;> decide

end Revision

structure Handle where
  attempt : TargetAttempt
  /-- How many disconnects there had been when the attempt was created. -/
  born : Nat
  /-- How many consents there had been when the handle took its authorization number. -/
  consented : Nat
  /-- The work is being polled, and so many disconnects there had been at the check before. -/
  checked : Option Nat
  deriving DecidableEq

/-- A completion of the work of an attempt, with the disconnects before the attempt was created, before the
    check of its last poll, and before the work returned. -/
structure Completion where
  born : Nat
  checked : Nat
  returned : Nat
  deriving DecidableEq

structure World where
  revision : Revision
  handles : List Handle
  /-- How many disconnects there have been. -/
  pauses : Nat
  /-- How many explicit connects and wake consents have succeeded. -/
  consents : Nat
  /-- The births of the attempts that have resumed the target. -/
  resumed : List Nat
  /-- The handles that have reported a failure, as they were. -/
  reported : List Handle
  completed : List Completion

inductive Action where
  | attempt
  | clone (handle : Nat)
  | pause
  | resume (handle : Nat)
  | requireAuthentication (handle : Nat)
  | authorized (handle : Nat)
  /-- A poll of `run` begins with its check. -/
  | poll (handle : Nat)
  /-- The work that is being polled returns. -/
  | complete (handle : Nat)

namespace World

def initial : World := ⟨.default, [], 0, 0, [], [], []⟩

def setHandle (w : World) (i : Nat) (handle : Handle) : World := { w with handles := w.handles.set i handle }

def resume (w : World) (i : Nat) (handle : Handle) : World :=
  match w.revision.resume handle.attempt with
  | (.ok (), revision, attempt) =>
    { w.setHandle i { handle with attempt, consented := w.consents + 1 } with
      revision, consents := w.consents + 1, resumed := handle.born :: w.resumed }
  | (.error _, revision, attempt) => { w.setHandle i { handle with attempt } with revision }

def requireAuthentication (w : World) (handle : Handle) : World :=
  { w with revision := w.revision.requireAuthentication handle.attempt, reported := handle :: w.reported }

def authorized (w : World) (handle : Handle) : World :=
  match w.revision.authorized handle.attempt with
  | (true, revision) => { w with revision, consents := w.consents + 1 }
  | (false, revision) => { w with revision }

def poll (w : World) (i : Nat) (handle : Handle) : World :=
  match w.revision.runCheck handle.attempt with
  | .ok () => w.setHandle i { handle with checked := some w.pauses }
  | .error _ => w.setHandle i { handle with checked := none }

def complete (w : World) (i : Nat) (handle : Handle) (checked : Nat) : World :=
  { w.setHandle i { handle with checked := none } with
    completed := ⟨handle.born, checked, w.pauses⟩ :: w.completed }

def step (w : World) : Action → Option World
  | .attempt =>
    some { w with handles := w.handles ++ [⟨w.revision.attempt, w.pauses, w.consents, none⟩] }
  | .clone i => (w.handles[i]?).map fun handle =>
    { w with handles := w.handles ++ [{ handle with checked := none }] }
  | .pause => some { w with revision := w.revision.pause, pauses := w.pauses + 1 }
  | .resume i => (w.handles[i]?).map (w.resume i)
  | .requireAuthentication i => (w.handles[i]?).map w.requireAuthentication
  | .authorized i => (w.handles[i]?).map w.authorized
  | .poll i => (w.handles[i]?).map (w.poll i)
  | .complete i => (w.handles[i]?).bind fun handle => handle.checked.map (w.complete i handle)

/-- The numbers of the revision have not wrapped around. -/
def Countable (w : World) : Prop := w.pauses < 2 ^ 64 ∧ w.consents < 2 ^ 64

structure Ordered (w : World) : Prop where
  /-- The target is paused until an attempt from after the latest disconnect resumes it. -/
  paused : w.revision.paused = true ↔ 0 < w.pauses ∧ w.pauses ∉ w.resumed
  /-- An attempt from before the latest disconnect has no effect. -/
  fenced : ∀ handle ∈ w.handles, handle.born < w.pauses → w.revision.Fenced handle.attempt
  /-- Work completes only if no disconnect had followed the attempt when its last poll began. -/
  completed : ∀ completion ∈ w.completed, completion.born = completion.checked
  /-- While the target is connected, a failure under the current numbers blocks it, and nothing else does. -/
  required : w.revision.paused = false → (w.revision.authenticationRequired = true ↔
    ∃ handle ∈ w.reported, handle.attempt = w.revision.attempt)
  /-- A failure from before the latest disconnect or the latest consent is not under the current numbers. -/
  late : ∀ handle ∈ w.reported, handle.born < w.pauses ∨ handle.consented < w.consents →
    handle.attempt ≠ w.revision.attempt
  /-- A wake consent does not end a pause. -/
  consent : ∀ handle ∈ w.handles, (w.authorized handle).revision.paused = w.revision.paused

end World

/-! ### The invariant -/

/-- The numbers of a handle are those that the revision had. -/
structure Handle.Known (pauses consents : Nat) (handle : Handle) : Prop where
  generation : handle.attempt.generation = handle.born % 2 ^ 64
  authorization : handle.attempt.authorization = handle.consented % 2 ^ 64
  born : handle.born ≤ pauses
  consented : handle.consented ≤ consents

lemma Handle.Known.mono {pauses consents pauses' consents' : Nat} {handle : Handle} (h : handle.Known pauses consents)
    (le : pauses ≤ pauses') (le' : consents ≤ consents') : handle.Known pauses' consents' :=
  ⟨h.generation, h.authorization, Nat.le_trans h.born le, Nat.le_trans h.consented le'⟩

namespace World

structure Inv (w : World) : Prop where
  generation : w.revision.generation = w.pauses % 2 ^ 64
  authorization : w.revision.authorization = w.consents % 2 ^ 64
  paused : w.revision.paused = true ↔ 0 < w.pauses ∧ w.pauses ∉ w.resumed
  required : w.revision.paused = false → (w.revision.authenticationRequired = true ↔
    ∃ handle ∈ w.reported, handle.born = w.pauses ∧ handle.consented = w.consents)
  handles : ∀ handle ∈ w.handles, handle.Known w.pauses w.consents ∧
    ∀ checked, handle.checked = some checked → handle.born = checked
  reported : ∀ handle ∈ w.reported, handle.Known w.pauses w.consents
  resumed : ∀ born ∈ w.resumed, born ≤ w.pauses
  completed : ∀ completion ∈ w.completed, completion.born = completion.checked

lemma wrappingSucc_mod (n : Nat) : wrappingSucc (n % 2 ^ 64) = (n + 1) % 2 ^ 64 := Nat.mod_add_mod n _ 1

variable {w w' : World} {handle : Handle} {i : Nat} {action : Action}

lemma Inv.generation_iff (inv : w.Inv) (countable : w.Countable) (known : handle.Known w.pauses w.consents) :
    w.revision.generation = handle.attempt.generation ↔ handle.born = w.pauses := by
  have born := known.born
  rw [inv.generation, known.generation, Nat.mod_eq_of_lt countable.1,
    Nat.mod_eq_of_lt (Nat.lt_of_le_of_lt born countable.1)]
  exact eq_comm

lemma Inv.authorization_iff (inv : w.Inv) (countable : w.Countable) (known : handle.Known w.pauses w.consents) :
    w.revision.authorization = handle.attempt.authorization ↔ handle.consented = w.consents := by
  have consented := known.consented
  rw [inv.authorization, known.authorization, Nat.mod_eq_of_lt countable.2,
    Nat.mod_eq_of_lt (Nat.lt_of_le_of_lt consented countable.2)]
  exact eq_comm

lemma Inv.initial : initial.Inv where
  generation := rfl
  authorization := rfl
  paused := by decide
  required := by decide
  handles := nofun
  reported := nofun
  resumed := nofun
  completed := nofun

lemma Inv.addHandle (inv : w.Inv) (known : handle.Known w.pauses w.consents) (idle : handle.checked = none) :
    Inv { w with handles := w.handles ++ [handle] } := by
  refine { inv with handles := fun other mem => ?_ }
  cases List.mem_append.1 mem with
  | inl old => exact inv.handles other old
  | inr new =>
    obtain rfl := List.mem_singleton.1 new
    refine ⟨known, fun checked some => ?_⟩
    rw [idle] at some
    cases some

lemma Inv.setHandle (inv : w.Inv) (i : Nat) (handle : Handle) (known : handle.Known w.pauses w.consents)
    (checked : ∀ checked, handle.checked = some checked → handle.born = checked) : (w.setHandle i handle).Inv := by
  refine { inv with handles := fun other mem => ?_ }
  cases List.mem_or_eq_of_mem_set mem with
  | inl old => exact inv.handles other old
  | inr new =>
    rw [new]
    exact ⟨known, checked⟩

lemma Inv.pause (inv : w.Inv) : Inv { w with revision := w.revision.pause, pauses := w.pauses + 1 } where
  generation := by
    show wrappingSucc w.revision.generation = _
    rw [inv.generation, wrappingSucc_mod]
  authorization := inv.authorization
  paused := by
    refine ⟨fun _ => ⟨Nat.succ_pos _, fun mem => ?_⟩, fun _ => rfl⟩
    exact Nat.not_succ_le_self _ (inv.resumed _ mem)
  required := nofun
  handles := fun handle mem =>
    ⟨(inv.handles handle mem).1.mono (Nat.le_succ _) (Nat.le_refl _), (inv.handles handle mem).2⟩
  reported := fun handle mem => (inv.reported handle mem).mono (Nat.le_succ _) (Nat.le_refl _)
  resumed := fun born mem => Nat.le_succ_of_le (inv.resumed born mem)
  completed := inv.completed

lemma Inv.consent (inv : w.Inv) (resumed : List Nat) (paused : Bool) (bound : ∀ born ∈ resumed, born ≤ w.pauses)
    (iff : paused = true ↔ 0 < w.pauses ∧ w.pauses ∉ resumed) :
    Inv { w with revision := ⟨w.revision.generation, wrappingSucc w.revision.authorization, paused, false⟩,
                 consents := w.consents + 1, resumed } where
  generation := inv.generation
  authorization := by
    show wrappingSucc w.revision.authorization = _
    rw [inv.authorization, wrappingSucc_mod]
  paused := iff
  required := by
    refine fun _ => ⟨nofun, ?_⟩
    rintro ⟨handle, mem, -, same⟩
    have known := (inv.reported handle mem).consented
    exact absurd (same ▸ known) (Nat.not_succ_le_self _)
  handles := fun handle mem =>
    ⟨(inv.handles handle mem).1.mono (Nat.le_refl _) (Nat.le_succ _), (inv.handles handle mem).2⟩
  reported := fun handle mem => (inv.reported handle mem).mono (Nat.le_refl _) (Nat.le_succ _)
  resumed := bound
  completed := inv.completed

lemma Inv.resume (inv : w.Inv) (countable : w.Countable) (mem : handle ∈ w.handles) : (w.resume i handle).Inv := by
  obtain ⟨known, checked⟩ := inv.handles handle mem
  have current := inv.generation_iff countable known
  unfold World.resume Revision.resume
  by_cases same : w.revision.generation = handle.attempt.generation
  · rw [if_pos same]
    have born := current.1 same
    have resumed : w.pauses ∈ handle.born :: w.resumed := List.mem_cons.2 (.inl born.symm)
    have after := inv.consent (handle.born :: w.resumed) false
      (List.forall_mem_cons.2 ⟨known.born, inv.resumed⟩) ⟨nofun, fun both => absurd resumed both.2⟩
    refine after.setHandle i _ ?_ checked
    exact ⟨known.generation, after.authorization, known.born, Nat.le_refl _⟩
  · rw [if_neg same]
    exact inv.setHandle i handle known checked

lemma Inv.authorized (inv : w.Inv) : (w.authorized handle).Inv := by
  unfold World.authorized Revision.authorized
  by_cases current : w.revision.paused = false ∧ w.revision.generation = handle.attempt.generation
  · rw [if_pos current]
    exact inv.consent w.resumed w.revision.paused inv.resumed inv.paused
  · rw [if_neg current]
    exact inv

lemma Inv.requireAuthentication (inv : w.Inv) (countable : w.Countable) (known : handle.Known w.pauses w.consents) :
    (w.requireAuthentication handle).Inv := by
  have generation := inv.generation_iff countable known
  have authorization := inv.authorization_iff countable known
  have reported : ∀ other ∈ handle :: w.reported, other.Known w.pauses w.consents :=
    List.forall_mem_cons.2 ⟨known, inv.reported⟩
  unfold World.requireAuthentication Revision.requireAuthentication
  split
  case isTrue blocks =>
    refine { inv with required := fun _ => ⟨fun _ => ?_, fun _ => rfl⟩, reported }
    exact ⟨handle, List.mem_cons_self, generation.1 blocks.2.1, authorization.1 blocks.2.2.1⟩
  case isFalse stays =>
    refine { inv with required := fun connected => ?_, reported }
    rw [inv.required connected]
    constructor
    · rintro ⟨other, mem, same⟩
      exact ⟨other, List.mem_cons_of_mem _ mem, same⟩
    · rintro ⟨other, mem, same⟩
      cases List.mem_cons.1 mem with
      | inr old => exact ⟨other, old, same⟩
      | inl new =>
        -- The report has no effect only because the requirement is there already.
        have blocked : w.revision.authenticationRequired = true := by
          by_contra open'
          subst new
          exact stays ⟨connected, generation.2 same.1, authorization.2 same.2, Bool.not_eq_true _ ▸ open'⟩
        exact (inv.required connected).1 blocked

lemma Inv.poll (inv : w.Inv) (countable : w.Countable) (known : handle.Known w.pauses w.consents) :
    (w.poll i handle).Inv := by
  have current := inv.generation_iff countable known
  unfold World.poll Revision.runCheck
  by_cases same : w.revision.generation = handle.attempt.generation
  · rw [if_neg (not_not_intro same)]
    refine inv.setHandle i _ ⟨known.generation, known.authorization, known.born, known.consented⟩ ?_
    intro checked eq
    rw [← Option.some.inj eq]
    exact current.1 same
  · rw [if_pos same]
    exact inv.setHandle i _ ⟨known.generation, known.authorization, known.born, known.consented⟩ nofun

lemma Inv.complete (inv : w.Inv) {checked : Nat} (mem : handle ∈ w.handles) (polled : handle.checked = some checked) :
    (w.complete i handle checked).Inv := by
  obtain ⟨known, own⟩ := inv.handles handle mem
  have idle := inv.setHandle i { handle with checked := none }
    ⟨known.generation, known.authorization, known.born, known.consented⟩ nofun
  exact { idle with completed := List.forall_mem_cons.2 ⟨own checked polled, inv.completed⟩ }

lemma Countable.of_step (h : w.step action = some w') (countable : w'.Countable) : w.Countable := by
  have grows : w.pauses ≤ w'.pauses ∧ w.consents ≤ w'.consents := by
    cases action with
    | attempt | pause =>
      cases h
      exact ⟨by simp, by simp⟩
    | clone i | requireAuthentication i =>
      obtain ⟨handle, -, rfl⟩ := Option.map_eq_some_iff.1 h
      exact ⟨Nat.le_refl _, Nat.le_refl _⟩
    | resume i =>
      obtain ⟨handle, -, rfl⟩ := Option.map_eq_some_iff.1 h
      unfold World.resume
      split <;> exact ⟨Nat.le_refl _, by simp [World.setHandle]⟩
    | authorized i =>
      obtain ⟨handle, -, rfl⟩ := Option.map_eq_some_iff.1 h
      unfold World.authorized
      split <;> exact ⟨Nat.le_refl _, by simp⟩
    | poll i =>
      obtain ⟨handle, -, rfl⟩ := Option.map_eq_some_iff.1 h
      unfold World.poll
      split <;> exact ⟨Nat.le_refl _, Nat.le_refl _⟩
    | complete i =>
      obtain ⟨handle, -, more⟩ := Option.bind_eq_some_iff.1 h
      obtain ⟨checked, -, rfl⟩ := Option.map_eq_some_iff.1 more
      exact ⟨Nat.le_refl _, Nat.le_refl _⟩
  exact ⟨Nat.lt_of_le_of_lt grows.1 countable.1, Nat.lt_of_le_of_lt grows.2 countable.2⟩

lemma Inv.step (inv : w.Inv) (countable : w.Countable) (h : w.step action = some w') : w'.Inv := by
  cases action with
  | attempt =>
    cases h
    exact inv.addHandle ⟨inv.generation, inv.authorization, Nat.le_refl _, Nat.le_refl _⟩ rfl
  | clone i =>
    obtain ⟨handle, found, rfl⟩ := Option.map_eq_some_iff.1 h
    have known := (inv.handles handle (List.mem_of_getElem? found)).1
    exact inv.addHandle ⟨known.generation, known.authorization, known.born, known.consented⟩ rfl
  | pause =>
    cases h
    exact inv.pause
  | resume i =>
    obtain ⟨handle, found, rfl⟩ := Option.map_eq_some_iff.1 h
    exact inv.resume countable (List.mem_of_getElem? found)
  | requireAuthentication i =>
    obtain ⟨handle, found, rfl⟩ := Option.map_eq_some_iff.1 h
    exact inv.requireAuthentication countable (inv.handles handle (List.mem_of_getElem? found)).1
  | authorized i =>
    obtain ⟨handle, -, rfl⟩ := Option.map_eq_some_iff.1 h
    exact inv.authorized
  | poll i =>
    obtain ⟨handle, found, rfl⟩ := Option.map_eq_some_iff.1 h
    exact inv.poll countable (inv.handles handle (List.mem_of_getElem? found)).1
  | complete i =>
    obtain ⟨handle, found, more⟩ := Option.bind_eq_some_iff.1 h
    obtain ⟨checked, polled, rfl⟩ := Option.map_eq_some_iff.1 more
    exact inv.complete (List.mem_of_getElem? found) polled

lemma Inv.of_reachable (h : Reachable World.step (· = World.initial) w) (countable : w.Countable) : w.Inv := by
  refine Reachable.invariant (fun w => w.Countable → w.Inv) ?_ ?_ h countable
  · rintro w rfl -
    exact Inv.initial
  · intro w action w' ih stepped bounded
    have before := Countable.of_step stepped bounded
    exact (ih before).step before stepped

lemma Inv.ordered (inv : w.Inv) (countable : w.Countable) : w.Ordered := by
  have numbers : ∀ handle ∈ w.reported, handle.attempt = w.revision.attempt ↔
      handle.born = w.pauses ∧ handle.consented = w.consents := by
    intro handle mem
    have known := inv.reported handle mem
    rw [← inv.generation_iff countable known, ← inv.authorization_iff countable known]
    constructor
    · rintro same
      rw [same]
      exact ⟨rfl, rfl⟩
    · rintro ⟨generation, authorization⟩
      cases handle with | mk attempt =>
      exact (congrArg₂ TargetAttempt.mk generation authorization).symm
  refine ⟨inv.paused, fun handle mem old => ?_, inv.completed, fun connected => ?_, ?_, ?_⟩
  · refine Revision.fenced fun same => ?_
    have born := (inv.generation_iff countable (inv.handles handle mem).1).1 same
    exact absurd old (by rw [born]; exact Nat.lt_irrefl _)
  · rw [inv.required connected]
    constructor
    · rintro ⟨handle, mem, same⟩
      exact ⟨handle, mem, (numbers handle mem).2 same⟩
    · rintro ⟨handle, mem, same⟩
      exact ⟨handle, mem, (numbers handle mem).1 same⟩
  · intro handle mem earlier same
    obtain ⟨born, consented⟩ := (numbers handle mem).1 same
    omega
  · intro handle _
    unfold World.authorized Revision.authorized
    split_ifs <;> rfl

/-- In every run the calls take effect in order, as long as the numbers have not wrapped around. -/
theorem lifecycle_ordered (h : Reachable World.step (· = World.initial) w) (countable : w.Countable) : w.Ordered :=
  (Inv.of_reachable h countable).ordered countable

/-- A pause, a connect and a failure of the new attempt. -/
theorem lifecycle_ordered_reconnect :
    ∃ w, exec World.step .initial [.attempt, .pause, .attempt, .resume 1, .requireAuthentication 1] = some w ∧
      w.Ordered :=
  ⟨_, rfl, lifecycle_ordered (Reachable.exec (.start rfl)
    [.attempt, .pause, .attempt, .resume 1, .requireAuthentication 1] rfl) ⟨by decide, by decide⟩⟩

/-! ### Where the order is lost -/

lemma exec_pauses (n : Nat) (w : World) (le : w.revision.generation < 2 ^ 64) :
    ∃ w', exec World.step w (List.replicate (n + 1) .pause) = some w' ∧ w'.handles = w.handles ∧
      w'.pauses = w.pauses + (n + 1) ∧ w'.revision.paused = true ∧
      w'.revision.generation = (w.revision.generation + (n + 1)) % 2 ^ 64 := by
  induction n generalizing w with
  | zero => exact ⟨_, rfl, rfl, rfl, rfl, rfl⟩
  | succ n ih =>
    let paused : World := { w with revision := w.revision.pause, pauses := w.pauses + 1 }
    obtain ⟨w', run, handles, pauses, isPaused, generation⟩ := ih paused (Nat.mod_lt _ (by decide))
    refine ⟨w', ?_, handles, ?_, isPaused, ?_⟩
    · rw [List.replicate_succ, exec, List.foldlM_cons]
      exact run
    · rw [pauses]
      show w.pauses + 1 + (n + 1) = _
      omega
    · rw [generation]
      show ((w.revision.generation + 1) % 2 ^ 64 + (n + 1)) % 2 ^ 64 = _
      omega

lemma exec_attempt_pauses (n : Nat) :
    ∃ w, exec World.step .initial (.attempt :: List.replicate (n + 1) .pause) = some w ∧ w.pauses = n + 1 ∧
      w.revision.paused = true ∧ w.revision.generation = (n + 1) % 2 ^ 64 ∧
      w.handles = [⟨⟨0, 0⟩, 0, 0, none⟩] := by
  let begun : World := { World.initial with handles := [⟨⟨0, 0⟩, 0, 0, none⟩] }
  obtain ⟨w, run, handles, pauses, paused, generation⟩ := exec_pauses n begun (by decide)
  refine ⟨w, ?_, ?_, paused, ?_, handles⟩
  · rw [exec, List.foldlM_cons]
    exact run
  · rw [pauses]
    exact Nat.zero_add _
  · rw [generation]
    exact congrArg (· % 2 ^ 64) (Nat.zero_add _)

/-- A pause keeps the requirement under its new generation; after `2 ^ 64` pauses an attempt from before all of
    them resumes the target; and a pause between the check and the return of the work comes too late. -/
theorem lifecycle_order_lost :
    (∃ w, exec World.step .initial [.attempt, .requireAuthentication 0, .pause] = some w ∧
      w.revision.authenticationRequired = true ∧
      ∀ handle ∈ w.reported, handle.attempt.generation ≠ w.revision.generation) ∧
    (∃ w, exec World.step .initial (.attempt :: List.replicate (2 ^ 64) .pause) = some w ∧
      w.pauses = 2 ^ 64 ∧ w.revision.paused = true ∧
      ∃ handle ∈ w.handles, handle.born = 0 ∧ (w.revision.resume handle.attempt).1 = .ok ()) ∧
    ∃ w, exec World.step .initial [.attempt, .poll 0, .pause, .complete 0] = some w ∧
      w.completed = [⟨0, 0, 1⟩] := by
  refine ⟨⟨_, rfl, rfl, by decide⟩, ?_, ⟨_, rfl, rfl⟩⟩
  obtain ⟨w, run, pauses, paused, generation, handles⟩ := exec_attempt_pauses (2 ^ 64 - 1)
  have count : 2 ^ 64 - 1 + 1 = 2 ^ 64 := Nat.sub_add_cancel Nat.one_le_two_pow
  rw [count] at run pauses generation
  rw [Nat.mod_self] at generation
  refine ⟨w, run, pauses, paused, ⟨⟨0, 0⟩, 0, 0, none⟩, ?_, rfl, ?_⟩
  · rw [handles]
    exact List.mem_singleton.2 rfl
  · rw [Revision.resume, if_pos generation]

end World

end Ctl.Target
