import Ctl.Keychain.Epochs

/-!
# What the threads of the broker rely on

While an epoch lasts, the cached revision stays the one that an attempt was checked against
(`Settled`). The thread that holds the lock of the operations relies on what the steps of all other
threads keep (`Stable`).
-/

namespace Ctl.Keychain
open Ctl.Base Ctl.Approval

def Settled (w : Broker) (revision : Revision) : Prop :=
  w.cached = some revision ∧ w.publishing = false

/-- The attempt is of the current revision, which it was checked against in its epoch. -/
def Confirmed (w : Broker) (a : Nat) : Prop :=
  ∃ begun, w.attempts[a]? = some begun ∧ begun.revision = w.revision ∧
    (begun.epoch = w.epoch → Settled w begun.revision)

def Seen (w : Broker) (seen : Nat) : Prop :=
  ∀ (a : Nat) (begun : Begun), w.attempts[a]? = some begun → begun.epoch = w.epoch →
    begun.locks = seen

def Matches (w : Broker) (revision : Revision) : Prop :=
  revision = w.revision ∧ ∀ a c, (a, c) ∈ w.commits → ∀ begun : Begun,
    w.attempts[a]? = some begun → begun.epoch = w.epoch → begun.revision = revision

structure Shared (w : Broker) : Prop where
  coherent : Coherent w.registry w.attempts w.commits w.epoch
  /-- A commit of the epoch was checked. -/
  sure : ∀ a c, (a, c) ∈ w.commits → ∀ begun : Begun, w.attempts[a]? = some begun →
    begun.epoch = w.epoch → Settled w begun.revision
  idle : w.checker = none → w.publishing = false
  session : w.unlocked = true → w.locking = .quiet
  locked : ∀ (a : Nat) (begun : Begun), w.attempts[a]? = some begun → begun.epoch = w.epoch →
    begun.revoked = w.revoked ∧ (w.locking = .quiet ∨ w.locking = .native → begun.locks = w.locks)
  revisions : ∀ (a : Nat) (begun : Begun), w.attempts[a]? = some begun →
    begun.revision ≤ w.revision ∧ (begun.revision = w.revision → begun.changes = w.changes)

/-! ### The threads -/

/-- Where a thread is in `check_revision`. -/
def Validation.inCheck : Validation → Option Check
  | .check _ stage => some stage
  | _ => none

def Thread.inCheck : Thread → Option Check
  | .begin _ _ (.check _ check) => some check
  | .reads (.validating validation) => validation.inCheck
  | .connected _ (.validating validation) => validation.inCheck
  | .maintain (.check _ check) => some check
  | .reusable _ (.check _ check) => some check
  | _ => none

def Thread.holder : Thread → Bool
  | .begin _ _ .select | .begin _ _ .unlocked | .begin _ _ .acquire => false
  | .reads .acquire | .connected _ .acquire | .mutate .acquire => false
  | .maintain _ | .reusable _ _ => false
  | _ => true

/-- What `valid` has found out. -/
def Validation.Holds (w : Broker) (a : Nat) : Validation → Prop
  | .check current _ => current = w.revision
  | .unlocked revisionValid => revisionValid = true → Confirmed w a
  | .generation revisionValid seen => (revisionValid = true → Confirmed w a) ∧ Seen w seen
  | .pending seen => Confirmed w a ∧ Seen w seen
  | _ => True

def Thread.Holds (w : Broker) (t : Nat) : Thread → Prop
  | .begin _ _ (.check revision _) => revision = w.revision
  | .begin _ _ (.expire revision) => Matches w revision
  | .begin _ _ (.generation revision) => Matches w revision
  | .begin _ _ (.enter revision _) => Matches w revision
  | .begin _ scope (.register revision _) =>
    Matches w revision ∧ w.registry.calls[t]? = some (.begin scope)
  | .reads (.validating validation) => ∃ r : Reading, w.registry.calls[t]? = some (.read r) ∧
    Selected w.registry w.commits r ∧ validation.Holds w r.attempt ∧
    ∀ c retained, r.stage ≠ .found c retained
  | .reads (.proceed valid seen) => ∃ r : Reading, w.registry.calls[t]? = some (.read r) ∧
    Selected w.registry w.commits r ∧
    (∀ c retained, r.stage = .calling c retained → valid = true →
      Confirmed w r.attempt ∧ Seen w seen) ∧
    ∀ c retained, r.stage = .found c retained → Confirmed w r.attempt ∧ Seen w seen
  | .connected a (.validating validation) => validation.Holds w a
  | .connected a .enter => Confirmed w a
  | .connected a .commit => Confirmed w a ∧ ∃ now, w.registry.calls[t]? = some (.connected a now)
  | .mutate .changing =>
    ∀ (a : Nat) (begun : Begun), w.attempts[a]? = some begun → begun.revision < w.revision
  | _ => True

/-- The thread has the lock of the cached revision where it needs it. -/
def Checking (w : Broker) (t : Nat) (stage : Check) : Prop :=
  stage ≠ .compare → w.checker = some t ∧ (stage ≠ .revoke → w.publishing = true)

structure ThreadInv (w : Broker) (t : Nat) (thread : Thread) : Prop where
  owner : thread.holder = true → w.owner = some t
  checker : ∀ check, thread.inCheck = some check → Checking w t check
  holds : thread.Holds w t

structure Inv (w : Broker) : Prop where
  shared : Shared w
  threads : ∀ (t : Nat) (thread : Thread), w.threads[t]? = some thread → ThreadInv w t thread

/-! ### What a thread relies on -/

/-- What the holder of the lock of the operations relies on during the steps of the others. -/
structure Stable (w w' : Broker) : Prop where
  revision : w'.revision = w.revision
  attempts : w'.attempts = w.attempts
  commits : w'.commits = w.commits
  epoch : w.epoch ≤ w'.epoch
  settled : w'.epoch = w.epoch → ∀ revision, Settled w revision → Settled w' revision
  keeps : Keeps w.registry w'.registry

/-- What the step of a thread leaves to the other threads. -/
structure Leaves (t : Option Nat) (w w' : Broker) : Prop where
  owner : ∀ t', some t' ≠ t → w.owner = some t' → w'.owner = some t'
  checker : ∀ t', some t' ≠ t → w.checker = some t' →
    w'.checker = some t' ∧ (w.publishing = true → w'.publishing = true)
  stable : ∀ t', some t' ≠ t → w.owner = some t' →
    Stable w w' ∧ w'.registry.calls[t']? = w.registry.calls[t']?

section

variable {w w' : Broker} {t : Nat} {thread : Thread}

namespace Stable

variable {a : Nat}

lemma sameEpoch (stable : Stable w w') (shared : Shared w) {begun : Begun} (found : w.attempts[a]? = some begun)
    (current : begun.epoch = w'.epoch) : w'.epoch = w.epoch :=
  Nat.le_antisymm (current ▸ (shared.coherent.begun a begun found).2) stable.epoch

lemma confirmed (stable : Stable w w') (shared : Shared w) (h : Confirmed w a) : Confirmed w' a := by
  obtain ⟨begun, found, revision, settled⟩ := h
  refine ⟨begun, stable.attempts ▸ found, stable.revision ▸ revision, fun current => ?_⟩
  have same := stable.sameEpoch shared found current
  exact stable.settled same _ (settled (current.trans same))

lemma seen (stable : Stable w w') (shared : Shared w) {seen : Nat} (h : Seen w seen) : Seen w' seen := by
  intro a begun found current
  rw [stable.attempts] at found
  exact h a begun found (current.trans (stable.sameEpoch shared found current))

lemma matches' (stable : Stable w w') (shared : Shared w) {revision : Revision}
    (h : Matches w revision) : Matches w' revision := by
  refine ⟨h.1.trans stable.revision.symm, fun a c mem begun found current => ?_⟩
  rw [stable.attempts] at found
  rw [stable.commits] at mem
  exact h.2 a c mem begun found (current.trans (stable.sameEpoch shared found current))

lemma validation (stable : Stable w w') (shared : Shared w) {validation : Validation} (h : validation.Holds w a) :
    validation.Holds w' a := by
  cases validation with
  | expire => trivial
  | revision => trivial
  | check revision check => exact (h : revision = w.revision).trans stable.revision.symm
  | unlocked revisionValid => exact fun eq => stable.confirmed shared (h eq)
  | generation revisionValid seen =>
    exact ⟨fun eq => stable.confirmed shared (h.1 eq), stable.seen shared h.2⟩
  | revoke times native => trivial
  | pending seen => exact ⟨stable.confirmed shared h.1, stable.seen shared h.2⟩

lemma selected (stable : Stable w w') {r : Reading} (h : Selected w.registry w.commits r) :
    Selected w'.registry w'.commits r := by
  rw [stable.commits]
  exact h.keeps stable.keeps

lemma holds (stable : Stable w w') (calls : w'.registry.calls[t]? = w.registry.calls[t]?)
    (shared : Shared w) {thread : Thread} (h : thread.Holds w t) : thread.Holds w' t := by
  cases thread with
  | begin start scope stage =>
    cases stage with
    | check revision check => exact (h : revision = w.revision).trans stable.revision.symm
    | expire => exact stable.matches' shared h
    | generation => exact stable.matches' shared h
    | enter => exact stable.matches' shared h
    | register => exact ⟨stable.matches' shared h.1, calls.trans h.2⟩
    | select => trivial
    | unlocked => trivial
    | acquire => trivial
    | revision => trivial
    | refuse => trivial
    | release => trivial
  | reads stage =>
    cases stage with
    | validating validation =>
      obtain ⟨r, call, selected, valid, unfound⟩ := h
      exact ⟨r, calls.trans call, stable.selected selected, stable.validation shared valid,
        unfound⟩
    | proceed valid seen =>
      obtain ⟨r, call, selected, calling, found⟩ := h
      refine ⟨r, calls.trans call, stable.selected selected, fun c retained eq valid => ?_,
        fun c retained eq => ?_⟩
      · obtain ⟨confirmed, seen⟩ := calling c retained eq valid
        exact ⟨stable.confirmed shared confirmed, stable.seen shared seen⟩
      · obtain ⟨confirmed, seen⟩ := found c retained eq
        exact ⟨stable.confirmed shared confirmed, stable.seen shared seen⟩
    | acquire => trivial
    | idle => trivial
  | connected a stage =>
    cases stage with
    | validating validation => exact stable.validation shared h
    | enter => exact stable.confirmed shared h
    | commit =>
      obtain ⟨confirmed, now, call⟩ := h
      exact ⟨stable.confirmed shared confirmed, now, calls.trans call⟩
    | acquire => trivial
    | release => trivial
  | maintain stage => trivial
  | reusable scope stage => trivial
  | mutate stage =>
    cases stage with
    | changing =>
      intro a begun found
      rw [stable.attempts] at found
      exact stable.revision ▸ h a begun found
    | acquire => trivial
    | advance => trivial

end Stable

lemma Thread.holds_of_not_holder (h : thread.holder = false) : thread.Holds w t := by
  cases thread with
  | begin start scope stage =>
    cases stage with
    | select => trivial
    | unlocked => trivial
    | acquire => trivial
    | _ => cases h
  | reads stage =>
    cases stage with
    | acquire => trivial
    | _ => cases h
  | connected a stage =>
    cases stage with
    | acquire => trivial
    | _ => cases h
  | maintain stage => trivial
  | reusable scope stage => trivial
  | mutate stage =>
    cases stage with
    | acquire => trivial
    | _ => cases h

lemma ThreadInv.leaves {t' : Option Nat} (h : ThreadInv w t thread) (shared : Shared w) (leaves : Leaves t' w w')
    (ne : some t ≠ t') : ThreadInv w' t thread := by
  refine ⟨fun holder => leaves.owner t ne (h.owner holder), fun check stage late => ?_, ?_⟩
  · obtain ⟨mine, publishing⟩ := h.checker check stage late
    obtain ⟨mine', publishing'⟩ := leaves.checker t ne mine
    exact ⟨mine', fun published => publishing' (publishing published)⟩
  · cases holder : thread.holder with
    | false => exact Thread.holds_of_not_holder holder
    | true =>
      obtain ⟨stable, calls⟩ := leaves.stable t ne (h.owner holder)
      exact stable.holds calls shared h.holds

namespace Stable

lemma refl (w : Broker) : Stable w w :=
  ⟨rfl, rfl, rfl, Nat.le_refl _, fun _ _ h => h, .refl _⟩

lemma of_keeps (revision : w'.revision = w.revision) (attempts : w'.attempts = w.attempts)
    (commits : w'.commits = w.commits) (epoch : w'.epoch = w.epoch) (cached : w'.cached = w.cached)
    (publishing : w'.publishing = w.publishing) (keeps : Keeps w.registry w'.registry) : Stable w w' :=
  ⟨revision, attempts, commits, Nat.le_of_eq epoch.symm,
    fun _ _ h => ⟨cached.trans h.1, publishing.trans h.2⟩, keeps⟩

lemma revokeAll (w : Broker) : Stable w w.revokeAll :=
  ⟨rfl, rfl, rfl, Nat.le_succ _, fun same => absurd same (Nat.ne_of_gt (Nat.lt_succ_self _)),
    .revokeMatching _ _⟩

lemma invalidateNative (w : Broker) : Stable w w.invalidateNative :=
  .of_keeps rfl rfl rfl rfl rfl rfl (.of_registry rfl rfl nofun rfl rfl)

end Stable

namespace Leaves

variable {mine : Option Nat}

lemma of_stable (stable : Stable w w') (calls : ∀ t, some t ≠ mine → w'.registry.calls[t]? = w.registry.calls[t]?)
    (owner : w'.owner = w.owner) (checker : w'.checker = w.checker)
    (publishing : w.publishing = true → w'.publishing = true) : Leaves mine w w' :=
  ⟨fun _ _ h => owner.trans h, fun _ _ h => ⟨checker.trans h, publishing⟩,
    fun t ne _ => ⟨stable, calls t ne⟩⟩

lemma of_owner (owned : w.owner = some t) (owner : w'.owner = w.owner) (checker : w'.checker = w.checker)
    (publishing : w'.publishing = w.publishing) : Leaves (some t) w w' := by
  refine ⟨fun _ _ h => owner.trans h, fun _ _ h => ⟨checker.trans h, fun p => publishing.trans p⟩,
    fun t' ne other => ?_⟩
  exact absurd (other.symm.trans owned) ne

lemma refl (w : Broker) : Leaves mine w w :=
  .of_stable (.refl w) (fun _ _ => rfl) rfl rfl id

lemma revokeAll (w : Broker) : Leaves mine w w.revokeAll :=
  .of_stable (.revokeAll w) (fun _ _ => rfl) rfl rfl id

lemma invalidateNative (w : Broker) : Leaves mine w w.invalidateNative :=
  .of_stable (.invalidateNative w) (fun _ _ => rfl) rfl rfl id

end Leaves

namespace Shared

lemma registry (h : Shared w) {r : World} (k : Keeps w.registry r) : Shared { w with registry := r } :=
  ⟨h.coherent.keeps k, h.sure, h.idle, h.session, h.locked, h.revisions⟩

lemma fresh (h : Shared w) {a : Nat} {begun : Begun} (found : w.attempts[a]? = some begun) :
    begun.epoch ≠ w.epoch + 1 :=
  Nat.ne_of_lt (Nat.lt_succ_of_le (h.coherent.begun a begun found).2)

lemma revokeAll (h : Shared w) : Shared w.revokeAll where
  coherent := h.coherent.revokeAll
  sure _ _ _ _ found current := absurd current (h.fresh found)
  idle := h.idle
  session := h.session
  locked _ _ found current := absurd current (h.fresh found)
  revisions := h.revisions

lemma invalidateNative (h : Shared w) : Shared w.invalidateNative :=
  h.registry (.of_registry rfl rfl nofun rfl rfl)

lemma matches_of_settled (h : Shared w) (settled : Settled w w.revision) : Matches w w.revision := by
  refine ⟨rfl, fun a c mem begun found current => ?_⟩
  have other := h.sure a c mem begun found current
  exact Option.some.inj (other.1.symm.trans settled.1)

end Shared

/-! ### The steps of a thread -/

def Mute (w w' : World) : Prop :=
  ∀ a scope s decision, w'.log ≠ .returned a scope s decision :: w.log

namespace Mute

variable {w w' : World}

lemma of_log (log : w'.log = w.log) : Mute w w' := by
  intro a scope s decision eq
  rw [log] at eq
  exact absurd (congrArg List.length eq) (Nat.ne_of_lt (Nat.lt_succ_self _))

lemma of_cons {event : Event} {log : List Event} (cons : w'.log = event :: log)
    (other : ∀ a scope s decision, event ≠ .returned a scope s decision) : Mute w w' := by
  intro a scope s decision eq
  exact other a scope s decision (List.cons.inj (cons.symm.trans eq)).1

lemma revokeMatching (selection : Selection) (discarding : Option Nat) :
    Mute w (w.revokeMatching selection discarding) :=
  .of_cons rfl nofun

lemma commit {a now : Nat} {p : Pending} {oldest : String} (eq : w.commit a p now oldest = some w') : Mute w w' := by
  rw [World.commit] at eq
  split at eq
  case isTrue =>
    cases eq
    exact .of_log rfl
  case isFalse =>
    dsimp only at eq
    split at eq
    case isTrue =>
      cases eq
      exact .of_log rfl
    case isFalse =>
      obtain ⟨w₁, _, rfl⟩ := Option.map_eq_some_iff.1 eq
      exact .of_cons rfl (by intros; rintro ⟨⟩)

end Mute

/-- A step of a thread that all threads can rely on, with the thread itself. -/
structure Harmless (t : Nat) (w w' : Broker) : Prop where
  shared : Shared w'
  leaves : Leaves (some t) w w'
  owner : w'.owner = w.owner
  threads : w'.threads = w.threads
  stable : Stable w w'
  mute : Mute w.registry w'.registry

namespace Harmless

lemma refl (h : Shared w) : Harmless t w w :=
  ⟨h, .refl w, rfl, rfl, .refl w, .of_log rfl⟩

lemma revokeAll (h : Shared w) : Harmless t w w.revokeAll :=
  ⟨h.revokeAll, .revokeAll w, rfl, rfl, .revokeAll w, .revokeMatching .all none⟩

lemma invalidateNative (h : Shared w) : Harmless t w w.invalidateNative :=
  ⟨h.invalidateNative, .invalidateNative w, rfl, rfl, .invalidateNative w, .of_log rfl⟩

lemma registry (h : Shared w) {r : World} (k : Keeps w.registry r)
    (calls : ∀ t', some t' ≠ some t → r.calls[t']? = w.registry.calls[t']?)
    (mute : Mute w.registry r) : Harmless t w { w with registry := r } := by
  have stable : Stable w { w with registry := r } := .of_keeps rfl rfl rfl rfl rfl rfl k
  exact ⟨h.registry k, .of_stable stable calls rfl rfl id, rfl, rfl, stable, mute⟩

end Harmless

lemma checkRevision_spec (h : Shared w) {revision : Revision} {stage : Check} (checking : Checking w t stage)
    {next : Option Check} (eq : w.checkRevision t revision stage = some (w', next)) :
    Harmless t w w' ∧ w'.registry.calls = w.registry.calls ∧
      (∀ stage', next = some stage' → Checking w' t stage') ∧
      (next = none → Settled w' revision) := by
  cases stage with
  | compare =>
    simp only [Broker.checkRevision] at eq
    split at eq
    case isTrue => cases eq
    case isFalse free =>
      have free : w.checker = none := not_not.1 free
      split at eq
      case isTrue same =>
        cases eq
        exact ⟨.refl h, rfl, nofun, fun _ => ⟨same, h.idle free⟩⟩
      case isFalse =>
        cases eq
        have stable : Stable w { w with checker := some t } :=
          .of_keeps rfl rfl rfl rfl rfl rfl (.refl _)
        refine ⟨⟨⟨h.coherent, h.sure, nofun, h.session, h.locked, h.revisions⟩, ⟨fun _ _ h => h,
          fun t' _ other => ?_, fun _ _ _ => ⟨stable, rfl⟩⟩, rfl, rfl, stable, .of_log rfl⟩, rfl,
          fun stage' eq => ?_, nofun⟩
        · cases free.symm.trans other
        · cases eq
          exact fun _ => ⟨rfl, fun ne => absurd rfl ne⟩
  | revoke =>
    obtain ⟨mine, _⟩ := checking nofun
    cases eq
    have shared := h.revokeAll
    have stable : Stable w { w.revokeAll with publishing := true } := by
      have revoked := Stable.revokeAll w
      exact ⟨rfl, rfl, rfl, revoked.epoch,
        fun same => absurd same (Nat.ne_of_gt (Nat.lt_succ_self _)), revoked.keeps⟩
    refine ⟨⟨⟨shared.coherent, fun _ _ _ _ found current => absurd current (h.fresh found),
      fun free => ?_, shared.session, shared.locked, shared.revisions⟩,
      .of_stable stable (fun _ _ => rfl) rfl rfl fun _ => rfl, rfl, rfl, stable,
      .revokeMatching .all none⟩, rfl, fun stage' eq => ?_, nofun⟩
    · cases mine.symm.trans free
    · cases eq
      exact fun _ => ⟨mine, fun _ => rfl⟩
  | native =>
    cases eq
    refine ⟨.invalidateNative h, rfl, fun stage' eq => ?_, nofun⟩
    cases eq
    obtain ⟨mine, publishing⟩ := checking nofun
    exact fun _ => ⟨mine, fun _ => publishing nofun⟩
  | publish =>
    obtain ⟨mine, publishing⟩ := checking nofun
    have publishing : w.publishing = true := publishing nofun
    -- Nothing is settled while a revision is being published, so there is no commit of the epoch.
    have unsettled : ∀ revision, ¬Settled w revision := by
      intro revision settled
      cases publishing.symm.trans settled.2
    cases eq
    have stable : Stable w { w with cached := some revision, checker := none, publishing := false } :=
      ⟨rfl, rfl, rfl, Nat.le_refl _, fun _ revision settled => absurd settled (unsettled revision),
        .refl _⟩
    refine ⟨⟨⟨h.coherent, fun a c mem begun found current => ?_, fun _ => rfl, h.session, h.locked,
      h.revisions⟩, ⟨fun _ _ h => h, fun t' ne other => ?_, fun _ _ _ => ⟨stable, rfl⟩⟩, rfl, rfl,
      stable, .of_log rfl⟩, rfl, nofun, fun _ => ⟨rfl, rfl⟩⟩
    · exact absurd (h.sure a c mem begun found current) (unsettled _)
    · exact absurd (other.symm.trans mine) ne

lemma validate_spec (h : Shared w) {a : Nat} {input : Input} {stage : Validation}
    (checking : ∀ check, stage.inCheck = some check → Checking w t check) (holds : stage.Holds w a)
    {next : Validation ⊕ Bool × Nat} (eq : w.validate t a input stage = some (w', next)) :
    Harmless t w w' ∧ w'.registry.calls = w.registry.calls ∧
      (∀ stage', next = .inl stage' →
        (∀ check, stage'.inCheck = some check → Checking w' t check) ∧ stage'.Holds w' a) ∧
      ∀ seen, next = .inr (true, seen) → Confirmed w' a ∧ Seen w' seen := by
  have goes : ∀ {w₁ : Broker} {stage' : Validation}, stage'.inCheck = none → stage'.Holds w₁ a →
      ∀ stage'', (Sum.inl stage' : Validation ⊕ Bool × Nat) = .inl stage'' →
      (∀ check, stage''.inCheck = some check → Checking w₁ t check) ∧ stage''.Holds w₁ a := by
    intro w₁ stage' none holds stage'' eq
    cases eq
    refine ⟨fun check some => ?_, holds⟩
    cases none.symm.trans some
  cases stage with
  | expire =>
    obtain ⟨w₁, section', eq⟩ := Option.map_eq_some_iff.1 eq
    obtain ⟨r, step, rfl⟩ := Option.map_eq_some_iff.1 section'
    cases eq
    simp only [Approval.step] at step
    split at step
    case isTrue =>
      cases step
      exact ⟨.registry h (.expire _) (fun _ _ => rfl) (.of_log rfl), rfl, goes rfl trivial, (by intros; contradiction)⟩
    case isFalse => cases step
  | revision =>
    cases eq
    refine ⟨.refl h, rfl, fun stage' eq => ?_, (by intros; contradiction)⟩
    cases eq
    cases input.fails with
    | true => exact ⟨(by intros; contradiction), (by rintro ⟨⟩)⟩
    | false =>
      refine ⟨fun check eq => ?_, rfl⟩
      cases eq
      exact fun ne => absurd rfl ne
  | check revision check =>
    obtain ⟨⟨_, next'⟩, checked, eq⟩ := Option.map_eq_some_iff.1 eq
    cases eq
    obtain ⟨harmless, calls, checking', settled⟩ := checkRevision_spec h (checking check rfl) checked
    have same : revision = w'.revision := (holds : revision = w.revision).trans
      harmless.stable.revision.symm
    refine ⟨harmless, calls, ?_, (by intros; contradiction)⟩
    intro stage' eq
    cases eq
    cases next' with
    | some check' =>
      refine ⟨fun check eq => ?_, same⟩
      cases eq
      exact checking' check' rfl
    | none =>
      refine ⟨(by intros; contradiction), fun valid => ?_⟩
      obtain ⟨begun, found, current⟩ := (Option.any_eq_true _ _).1 valid
      have current : begun.revision = revision := of_decide_eq_true current
      exact ⟨begun, found, current.trans same, fun _ => current ▸ settled rfl⟩
  | unlocked revisionValid =>
    cases eq
    refine ⟨.refl h, rfl, ?_, (by intros; contradiction)⟩
    split
    case isTrue unlocked =>
      rw [Broker.isUnlocked, Bool.and_eq_true] at unlocked
      refine goes rfl ⟨holds, fun b begun found current => ?_⟩
      exact (h.locked b begun found current).2 (.inl (h.session unlocked.1))
    case isFalse => exact goes rfl trivial
  | generation revisionValid seen =>
    cases session : (w.attempts[a]?).any fun begun => begun.generation = w.generation with
    | false =>
      simp only [Broker.validate, session] at eq
      cases eq
      cases revisionValid with
      | true => exact ⟨.refl h, rfl, goes rfl trivial, (by intros; contradiction)⟩
      | false => exact ⟨.refl h, rfl, goes rfl trivial, (by intros; contradiction)⟩
    | true =>
      simp only [Broker.validate, session] at eq
      cases eq
      cases revisionValid with
      | true => exact ⟨.refl h, rfl, goes rfl ⟨holds.1 rfl, holds.2⟩, (by intros; contradiction)⟩
      | false => exact ⟨.refl h, rfl, goes rfl trivial, (by intros; contradiction)⟩
  | revoke times native =>
    cases native with
    | false =>
      cases eq
      exact ⟨.revokeAll h, rfl, goes rfl trivial, (by intros; contradiction)⟩
    | true =>
      cases eq
      refine ⟨.invalidateNative h, rfl, ?_, ?_⟩
      · intro stage' eq
        split at eq
        case isTrue => cases eq
        case isFalse =>
          cases eq
          exact ⟨(by intros; contradiction), trivial⟩
      · intro seen eq
        split at eq
        case isTrue => cases eq
        case isFalse => cases eq
  | pending seen =>
    obtain ⟨pending, found, eq⟩ := Option.map_eq_some_iff.1 eq
    cases eq
    refine ⟨.refl h, rfl, (by intros; contradiction), fun seen' eq => ?_⟩
    obtain rfl : seen = seen' := congrArg Prod.snd (Sum.inr.inj eq)
    exact holds

end

end Ctl.Keychain
