import Ctl.Keychain.Steps

/-!
# A changed credential is not read under an old approval

A read under a retained approval returns a value only if no change of secrets has begun since the
attempt began that has committed the approval, and the session was not locked since, as far as the read
could tell; and no window is inherited by an attempt of another revision.
-/

namespace Ctl.Keychain
open Ctl.Base Ctl.Approval

section

variable {w w' : Broker} {action : Action} {b c t a : Nat} {begun : Begun} {input : Input} {scope s : String}

/-- A thread takes a section of a read, or begins an attempt, or the step returns no credential and
    begins no attempt. -/
lemma step_cases (h : Inv w) (eq : step w action = some w') :
    (∃ t input more valid seen, action = .proceed t input more ∧
      w.threads[t]? = some (.reads (.proceed valid seen)) ∧
      w.stepReads t input (.proceed valid seen) = some w') ∨
    (∃ t input more start scope revision generation, action = .proceed t input more ∧
      w.threads[t]? = some (.begin start scope (.register revision generation)) ∧
      w.stepBegin t input start scope (.register revision generation) = some w') ∨
    Goes w w' := by
  have shared := h.shared
  cases action with
  | call t thread =>
    simp only [step] at eq
    split at eq
    case isFalse => cases eq
    case isTrue new =>
      cases eq
      rw [Bool.and_eq_true, decide_eq_true_eq] at new
      refine .inr (.inr (Harmless.goto (.refl shared) h ?_))
      cases thread with
      | begin start scope stage =>
        cases stage with
        | select => exact .plain nofun rfl trivial
        | _ => cases new.1
      | reads stage =>
        cases stage with
        | acquire => exact .plain nofun rfl trivial
        | _ => cases new.1
      | connected a stage =>
        cases stage with
        | acquire => exact .plain nofun rfl trivial
        | _ => cases new.1
      | maintain stage =>
        cases stage with
        | expire => exact .plain nofun rfl trivial
        | _ => cases new.1
      | reusable scope stage =>
        cases stage with
        | revision => exact .plain nofun rfl trivial
        | _ => cases new.1
      | mutate stage =>
        cases stage with
        | acquire => exact .plain nofun rfl trivial
        | _ => cases new.1
  | proceed t input more =>
    obtain ⟨thread, found, eq⟩ := Option.bind_eq_some_iff.1 eq
    have mine := h.threads t thread found
    by_cases registers : ∃ start scope revision generation,
        thread = .begin start scope (.register revision generation)
    case pos =>
      obtain ⟨start, scope, revision, generation, rfl⟩ := registers
      exact .inr (.inl ⟨t, input, more, start, scope, revision, generation, rfl, found, eq⟩)
    case neg =>
      by_cases proceeds : ∃ valid seen, thread = .reads (.proceed valid seen)
      case pos =>
        obtain ⟨valid, seen, rfl⟩ := proceeds
        exact .inl ⟨t, input, more, valid, seen, rfl, found, eq⟩
      case neg =>
        refine .inr (.inr (proceed_goes h mine ?_ ?_ eq))
        · exact fun start scope revision generation same =>
            registers ⟨start, scope, revision, generation, same⟩
        · exact fun valid seen same => proceeds ⟨valid, seen, same⟩
  | registry action =>
    simp only [step] at eq
    split at eq
    case isFalse => cases eq
    case isTrue separate =>
      obtain ⟨r, section', rfl⟩ := Option.map_eq_some_iff.1 eq
      obtain ⟨k, calls⟩ := Keeps.separate separate section'
      have stable : Stable w { w with registry := r } := .of_keeps rfl rfl rfl rfl rfl rfl k
      have leaves : Leaves none w { w with registry := r } :=
        .of_stable stable (fun t _ => congrArg (·[t]?) calls) rfl rfl id
      exact .inr (.inr (.session h (shared.registry k) leaves rfl (.separate separate section') rfl))
  | lock =>
    simp only [step] at eq
    split at eq
    case isFalse => cases eq
    case isTrue quiet =>
      cases eq
      have stable : Stable w { w with unlocked := false, locks := w.locks + 1, locking := .raise } :=
        .of_keeps rfl rfl rfl rfl rfl rfl (.refl _)
      refine .inr (.inr (.session h ⟨shared.coherent, shared.sure, shared.idle, nofun,
        fun a begun found now => ?_, shared.revisions⟩ (.of_stable stable (fun _ _ => rfl) rfl rfl id)
        rfl (.of_log rfl) rfl))
      exact ⟨(shared.locked a begun found now).1, nofun⟩
  | locking => exact .inr (.inr (stepLocking_goes h eq))
  | unlock unlocked =>
    simp only [step] at eq
    split at eq
    case isFalse => cases eq
    case isTrue quiet =>
      cases eq
      have stable : Stable w { w with unlocked } := .of_keeps rfl rfl rfl rfl rfl rfl (.refl _)
      exact .inr (.inr (.session h ⟨shared.coherent, shared.sure, shared.idle, fun _ => quiet,
        shared.locked, shared.revisions⟩ (.of_stable stable (fun _ _ => rfl) rfl rfl id) rfl
        (.of_log rfl) rfl))

lemma step_inv (h : Inv w) (eq : step w action = some w') : Inv w' := by
  obtain ⟨t, input, more, valid, seen, _, found, eq⟩ |
    ⟨t, input, more, start, scope, revision, generation, _, found, eq⟩ | goes := step_cases h eq
  · exact proceed_inv h (h.threads t _ found) eq
  · exact register_inv h (h.threads t _ found) eq
  · exact goes.inv

lemma initial_inv (h : Initial w) : Inv w := by
  obtain ⟨clock, revision, unlocked, rfl⟩ := h
  have noPending : ∀ {a : Nat} {p : Pending}, (Approval.initial clock).pending[a]? ≠ some p := by
    intro a p found
    cases Std.ExtTreeMap.getElem?_empty.symm.trans found
  have noAttempt : ∀ {a : Nat} {begun : Begun}, (∅ : OrdMap Nat Begun)[a]? ≠ some begun := by
    intro a begun found
    cases Std.ExtTreeMap.getElem?_empty.symm.trans found
  refine ⟨⟨⟨fun a p found => absurd found noPending, fun a begun found => absurd found noAttempt,
    fun a p found => absurd found noPending, fun scope s c inside => ?_,
    fun a p found => absurd found noPending, fun a p found => absurd found noPending,
    fun a p found => absurd found noPending, nofun⟩, nofun, fun _ => rfl, fun _ => rfl,
    fun a begun found => absurd found noAttempt, fun a begun found => absurd found noAttempt⟩,
    fun t thread found => ?_⟩
  · obtain ⟨window, found, _⟩ := inside
    cases Std.ExtTreeMap.getElem?_empty.symm.trans found
  · cases Std.ExtTreeMap.getElem?_empty.symm.trans found

lemma reachable_inv (h : Reachable step Initial w) : Inv w :=
  h.invariant Inv (fun _ => initial_inv) fun _ _ _ inv eq => step_inv inv eq

/-- The attempt has begun after the last change of secrets, and no lock of the session has revoked the
    windows since. -/
def Begun.Current (begun : Begun) (w : Broker) : Prop :=
  begun.revision = w.revision ∧ begun.changes = w.changes ∧ begun.revoked = w.revoked

lemma current_of_epoch (shared : Shared w) (mem : (b, c) ∈ w.commits) (now : BeganIn w.attempts w.epoch b)
    (settled : Settled w w.revision) :
    ∃ begun : Begun, w.attempts[b]? = some begun ∧ begun.epoch = w.epoch ∧ begun.Current w := by
  obtain ⟨begun, found, epoch⟩ := now
  have other := shared.sure b c mem begun found epoch
  have revision : begun.revision = w.revision := Option.some.inj (other.1.symm.trans settled.1)
  exact ⟨begun, found, epoch, revision, (shared.revisions b begun found).2 revision,
    (shared.locked b begun found epoch).1⟩

/-- A lock of the session that has not revoked the windows yet. -/
def Broker.lockPending (w : Broker) : Prop := w.locking = .raise ∨ w.locking = .revoke

lemma locks_of_epoch (shared : Shared w) (found : w.attempts[b]? = some begun) (now : begun.epoch = w.epoch) :
    begun.locks = w.locks ∨ w.lockPending := by
  have locks := (shared.locked b begun found now).2
  cases locking : w.locking with
  | quiet => exact .inl (locks (.inl locking))
  | raise => exact .inr (.inl locking)
  | revoke => exact .inr (.inr locking)
  | native => exact .inl (locks (.inr locking))

lemma proceed_returned (h : Inv w) {valid : Bool} {seen : Nat}
    (found : w.threads[t]? = some (.reads (.proceed valid seen)))
    (eq : w.stepReads t input (.proceed valid seen) = some w')
    (returned : w'.registry.log = .returned a scope s .retainedApproval :: w.registry.log) :
    ∃ (pending : Pending) (c : Nat), w.registry.pending[a]? = some pending ∧
      pending.contexts[s]? = some c ∧ (∃ b, (b, c) ∈ w.commits) ∧
      ∀ b, (b, c) ∈ w.commits → ∃ begun : Begun, w.attempts[b]? = some begun ∧ begun.Current w ∧
        begun.locks = seen ∧ (begun.locks = w.locks ∨ w.lockPending) := by
  have shared := h.shared
  obtain ⟨r, call, selected, _, confirmed⟩ := (h.threads t _ found).holds
  obtain ⟨w₁, section', rfl⟩ := Option.map_eq_some_iff.1 eq
  obtain ⟨registry, step, rfl⟩ := Option.map_eq_some_iff.1 section'
  simp only [Approval.step, call, Approval.proceed] at step
  split at step
  case h_1 => cases step
  case h_2 p there =>
    cases step
    obtain ⟨c, stage, rfl, rfl, active, c', has⟩ := proceedRead_returned returned
    obtain ⟨⟨own, ownFound, revision, settled⟩, seen⟩ := confirmed c true stage
    obtain ⟨same, approved⟩ := selected c true (by rw [stage]; rfl)
    obtain rfl := same p there c' has
    have committed := approved rfl (.inr (by rw [stage]; rintro ⟨⟩))
    obtain ⟨_, current⟩ := shared.coherent.contexts r.attempt p there r.selector c' has
    obtain ⟨own', ownFound', ownEpoch⟩ := shared.coherent.valid r.attempt p there active
    cases ownFound.symm.trans ownFound'
    refine ⟨p, c', there, has, committed, fun b mem => ?_⟩
    obtain ⟨begun, begunFound, epoch, now⟩ :=
      current_of_epoch shared mem (current active b mem) (revision ▸ settled ownEpoch)
    exact ⟨begun, begunFound, now, seen b begun begunFound epoch,
      locks_of_epoch shared begunFound epoch⟩

lemma register_inherits (h : Inv w) {start : String} {revision : Revision} {generation : Nat}
    (found : w.threads[t]? = some (.begin start scope (.register revision generation)))
    (eq : w.stepBegin t input start scope (.register revision generation) = some w') {pending : Pending}
    (new : w.attempts[a]? = none) (begins : w'.attempts[a]? = some begun)
    (there : w'.registry.pending[a]? = some pending) (has : pending.contexts[s]? = some c) :
    (∃ b, (b, c) ∈ w.commits) ∧ ∀ b, (b, c) ∈ w.commits →
      ∃ old : Begun, w.attempts[b]? = some old ∧ old.revision = begun.revision := by
  have shared := h.shared
  obtain ⟨current, call⟩ := (h.threads t _ found).holds
  obtain ⟨w₁, section', rfl⟩ := Option.map_eq_some_iff.1 eq
  obtain ⟨registry, step, rfl⟩ := Option.map_eq_some_iff.1 section'
  simp only [Approval.step, call] at step
  cases step
  have begins : (w.attempts.insert w.registry.next
      ⟨revision, generation, w.epoch, w.locks, w.revoked, w.changes⟩)[a]? = some begun := begins
  rw [OrdMap.get_insert] at begins
  split at begins
  case isFalse => cases new.symm.trans begins
  case isTrue same =>
    cases begins
    subst same
    have there : (w.registry.beginAttempt scope).pending[w.registry.next]? = some pending := there
    rw [World.beginAttempt, OrdMap.get_insert, if_pos rfl] at there
    cases there
    have inside : w.registry.InWindow scope s c := by
      cases window : w.registry.windows[scope]? with
      | none =>
        rw [window] at has
        cases Std.ExtTreeMap.getElem?_empty.symm.trans has
      | some window' =>
        rw [window] at has
        exact ⟨window', window, has⟩
    obtain ⟨_, committed, all⟩ := shared.coherent.window scope s c inside
    refine ⟨committed, fun b mem => ?_⟩
    obtain ⟨old, oldFound, epoch⟩ := all b mem
    exact ⟨old, oldFound, current.2 b c mem old oldFound epoch⟩

/-- A read under a retained approval returns a value only if no change of secrets has begun since the
    attempts began that have committed the approval, and no lock of the session that the last check of
    the read could see, or that has revoked the windows; and an attempt inherits a context from a window
    only under the revision of the attempts that have committed it. -/
theorem changed_never_read {action : Action} (reachable : Reachable step Initial w) (eq : step w action = some w') :
    (∀ a scope s, w'.registry.log = .returned a scope s .retainedApproval :: w.registry.log →
      ∃ t input more valid seen, action = .proceed t input more ∧
        w.threads[t]? = some (.reads (.proceed valid seen)) ∧
        ∃ (pending : Pending) (c : Nat), w.registry.pending[a]? = some pending ∧
          pending.contexts[s]? = some c ∧ (∃ b, (b, c) ∈ w.commits) ∧
          ∀ b, (b, c) ∈ w.commits → ∃ begun : Begun, w.attempts[b]? = some begun ∧ begun.Current w ∧
            begun.locks = seen ∧ (begun.locks = w.locks ∨ w.lockPending)) ∧
    ∀ (a : Nat) (begun : Begun) (pending : Pending), w.attempts[a]? = none →
      w'.attempts[a]? = some begun → w'.registry.pending[a]? = some pending →
      ∀ (s : String) (c : Nat), pending.contexts[s]? = some c →
        (∃ b, (b, c) ∈ w.commits) ∧ ∀ b, (b, c) ∈ w.commits →
          ∃ old : Begun, w.attempts[b]? = some old ∧ old.revision = begun.revision := by
  have inv := reachable_inv reachable
  obtain ⟨t, input, more, valid, seen, rfl, found, eq⟩ |
    ⟨t, input, more, start, scope, revision, generation, rfl, found, eq⟩ | goes := step_cases inv eq
  · refine ⟨fun a scope s returned => ?_, fun a begun pending new begins => ?_⟩
    · exact ⟨t, input, more, valid, seen, rfl, found, proceed_returned inv found eq returned⟩
    · obtain ⟨w₁, section', rfl⟩ := Option.map_eq_some_iff.1 eq
      obtain ⟨registry, _, rfl⟩ := Option.map_eq_some_iff.1 section'
      cases new.symm.trans begins
  · refine ⟨fun a scope s returned => ?_, fun a begun pending new begins there s c has => ?_⟩
    · obtain ⟨_, call⟩ := (inv.threads t _ found).holds
      obtain ⟨w₁, section', rfl⟩ := Option.map_eq_some_iff.1 eq
      obtain ⟨registry, step, rfl⟩ := Option.map_eq_some_iff.1 section'
      simp only [Approval.step, call] at step
      cases step
      have mute : Mute w.registry (w.registry.beginAttempt scope) := .of_log rfl
      exact absurd returned (mute a _ s .retainedApproval)
    · exact register_inherits inv found eq new begins there has
  · refine ⟨fun a scope s returned => absurd returned (goes.mute a scope s .retainedApproval),
      fun a begun pending new begins => ?_⟩
    rw [goes.attempts] at begins
    cases new.symm.trans begins

end

def Input.clear : Input := ⟨false, true, 0, none, ⟨true, true, .found, ""⟩⟩

def proceeds (t n : Nat) : List Action := List.replicate n (.proceed t .clear false)

/-- An attempt is connected after a read; another one inherits the window, and its read of the retained
    approval comes up to its last section. -/
def retained : List Action :=
  .call 0 (.begin "" "h" .select) :: proceeds 0 13 ++
  .call 1 (.reads .acquire) :: proceeds 1 1 ++
  .proceed 1 { Input.clear with read := some (0, "k", true) } false :: proceeds 1 18 ++
  .call 2 (.connected 0 .acquire) :: proceeds 2 10 ++
  .call 3 (.begin "" "h" .select) :: proceeds 3 10 ++
  .call 4 (.reads .acquire) :: proceeds 4 1 ++
  .proceed 4 { Input.clear with read := some (1, "k", false) } false :: proceeds 4 16

def opened : Broker := { registry := Approval.initial 0, unlocked := true }

def lastSection (actions : List Action) : Option (Broker × Broker) :=
  (exec step opened actions).bind fun w => (step w (.proceed 4 .clear false)).map fun w' => (w, w')

theorem changed_never_read_retained :
    ∃ w w', lastSection retained = some (w, w') ∧ ∃ b c, (b, c) ∈ w.commits ∧
      ∃ begun : Begun, w.attempts[b]? = some begun ∧ begun.Current w ∧
        (begun.locks = w.locks ∨ w.lockPending) := by
  have done : (lastSection retained).any (fun (w, w') => w'.registry.log =
      .returned 1 "h" "k" .retainedApproval :: w.registry.log) = true := by decide +kernel
  obtain ⟨⟨w, w'⟩, run, returned⟩ := (Option.any_eq_true _ _).1 done
  obtain ⟨w₁, before, last⟩ := Option.bind_eq_some_iff.1 run
  obtain ⟨w₂, last, same⟩ := Option.map_eq_some_iff.1 last
  cases same
  have start : Reachable step Initial opened := .start ⟨0, 0, true, rfl⟩
  have reachable : Reachable step Initial w := start.exec retained before
  obtain ⟨_, _, _, _, _, _, _, _, c, _, _, ⟨b, mem⟩, all⟩ :=
    (changed_never_read reachable last).1 1 "h" "k" (of_decide_eq_true returned)
  obtain ⟨begun, found, current, _, locks⟩ := all b mem
  exact ⟨w, w', run, b, c, mem, begun, found, current, locks⟩

/-- A lock of the session may begin between the last check of a read and its last section. -/
theorem changed_never_read_lockLate :
    ¬ ∀ (w w' : Broker) (action : Action), Reachable step Initial w → step w action = some w' →
      ∀ a scope s, w'.registry.log = .returned a scope s .retainedApproval :: w.registry.log →
      ∀ (pending : Pending) (c : Nat), w.registry.pending[a]? = some pending →
        pending.contexts[s]? = some c → ∀ b (begun : Begun), (b, c) ∈ w.commits →
          w.attempts[b]? = some begun → begun.locks = w.locks := by
  intro never
  have done : (lastSection (retained ++ [Action.lock])).any (fun (w, w') => w'.registry.log =
      .returned 1 "h" "k" .retainedApproval :: w.registry.log && (0, 0) ∈ w.commits && w.locks = 1 &&
      ((w.registry.pending[1]?).any fun pending => pending.contexts["k"]? = some 0) &&
      (w.attempts[0]?).any fun begun => begun.locks = 0) = true := by decide +kernel
  obtain ⟨⟨w, w'⟩, run, done⟩ := (Option.any_eq_true _ _).1 done
  obtain ⟨w₁, before, last⟩ := Option.bind_eq_some_iff.1 run
  obtain ⟨w₂, last, same⟩ := Option.map_eq_some_iff.1 last
  cases same
  have start : Reachable step Initial opened := .start ⟨0, 0, true, rfl⟩
  have reachable : Reachable step Initial w := start.exec (retained ++ [Action.lock]) before
  simp only [Bool.and_eq_true, decide_eq_true_eq] at done
  obtain ⟨⟨⟨⟨returned, mem⟩, locks⟩, inherits⟩, begins⟩ := done
  obtain ⟨pending, there, has⟩ := (Option.any_eq_true _ _).1 inherits
  obtain ⟨begun, found, early⟩ := (Option.any_eq_true _ _).1 begins
  have same := never w w' _ reachable last 1 "h" "k" returned pending 0 there (of_decide_eq_true has) 0
    begun mem found
  rw [of_decide_eq_true early, locks] at same
  cases same

end Ctl.Keychain
