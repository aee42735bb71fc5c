import Ctl.Keychain.Stability

/-!
# The steps of the broker

Every step of a thread and of the session keeps the invariant. All of them but two return no credential
and begin no attempt (`Goes`): the sections of a read, and the registration of an attempt.
-/

namespace Ctl.Keychain
open Ctl.Base Ctl.Approval

section

variable {w w₁ w' : Broker} {t : Nat} {input : Input} {scope : String} {thread : Thread} {start : String}
  {stage : Observing} {more : Bool}

/-! ### What a thread leaves -/

namespace Inv

lemma goto (h : Inv w) (shared : Shared w₁) (leaves : Leaves (some t) w w₁) (threads : w₁.threads = w.threads)
    {thread : Thread} (mine : ThreadInv w₁ t thread) : Inv (w₁.goto t thread) := by
  refine ⟨⟨shared.coherent, shared.sure, shared.idle, shared.session, shared.locked,
    shared.revisions⟩, fun t' thread' found => ?_⟩
  rw [Broker.goto, OrdMap.get_insert] at found
  split at found
  case isTrue same =>
    cases found
    subst same
    exact ⟨mine.owner, mine.checker, mine.holds⟩
  case isFalse ne =>
    rw [threads] at found
    have other := (h.threads t' thread' found).leaves h.shared leaves
      fun same => ne (Option.some.inj same).symm
    exact ⟨other.owner, other.checker, other.holds⟩

lemma finish (h : Inv w) (shared : Shared w₁) (leaves : Leaves (some t) w w₁)
    (threads : w₁.threads = w.threads) : Inv (w₁.finish t) := by
  refine ⟨⟨shared.coherent, shared.sure, shared.idle, shared.session, shared.locked,
    shared.revisions⟩, fun t' thread' found => ?_⟩
  rw [Broker.finish, OrdMap.get_erase] at found
  split at found
  case isTrue => cases found
  case isFalse ne =>
    rw [threads] at found
    have other := (h.threads t' thread' found).leaves h.shared leaves
      fun same => ne (Option.some.inj same).symm
    refine ⟨fun holder => ?_, other.checker, other.holds⟩
    have owner := other.owner holder
    rw [Broker.finish, if_neg, owner]
    rw [owner]
    exact fun same => ne (Option.some.inj same).symm

end Inv

namespace ThreadInv

variable {thread : Thread}

lemma plain (owner : thread.holder = true → w.owner = some t) (outside : thread.inCheck = none)
    (holds : thread.Holds w t) : ThreadInv w t thread := by
  refine ⟨owner, fun check inside => ?_, holds⟩
  cases outside.symm.trans inside

lemma check {stage : Check} (owner : thread.holder = true → w.owner = some t) (inside : thread.inCheck = some stage)
    (checking : Checking w t stage) (holds : thread.Holds w t) : ThreadInv w t thread := by
  refine ⟨owner, fun check inside' => ?_, holds⟩
  cases inside.symm.trans inside'
  exact checking

end ThreadInv

/-- A step that returns no credential and begins no attempt. -/
structure Goes (w w' : Broker) : Prop where
  inv : Inv w'
  mute : Mute w.registry w'.registry
  attempts : w'.attempts = w.attempts

namespace Harmless

lemma goto (harmless : Harmless t w w₁) (h : Inv w) {thread : Thread}
    (mine : ThreadInv w₁ t thread) : Goes w (w₁.goto t thread) :=
  ⟨h.goto harmless.shared harmless.leaves harmless.threads mine, harmless.mute,
    harmless.stable.attempts⟩

lemma finish (harmless : Harmless t w w₁) (h : Inv w) : Goes w (w₁.finish t) :=
  ⟨h.finish harmless.shared harmless.leaves harmless.threads, harmless.mute,
    harmless.stable.attempts⟩

lemma enter (h : Shared w) {r : World} (k : Keeps w.registry r) (calls : r.calls = w.registry.calls)
    (log : r.log = w.registry.log) (call : Call) : Harmless t w { w with registry := r.goto t (some call) } := by
  refine Harmless.registry h (k.trans (.goto t (some call))) (fun t' ne => ?_) (.of_log log)
  rw [goto_get, if_neg, calls]
  exact fun same => ne (congrArg some same.symm)

end Harmless

/-! ### The steps -/

lemma acquire_goes (h : Inv w) (outside : thread.inCheck = none) (holds : ∀ w : Broker, thread.Holds w t)
    (eq : w.acquire t input thread = some w') : Goes w w' := by
  rw [Broker.acquire] at eq
  split at eq
  case isTrue =>
    cases eq
    exact Harmless.finish (.refl h.shared) h
  case isFalse =>
    split at eq
    case isFalse => cases eq
    case isTrue free =>
      cases eq
      have leaves : Leaves (some t) w { w with owner := some t } := by
        refine ⟨fun t' _ other => ?_, fun _ _ other => ⟨other, id⟩, fun t' _ other => ?_⟩
        · cases free.symm.trans other
        · cases free.symm.trans other
      have shared : Shared { w with owner := some t } :=
        ⟨h.shared.coherent, h.shared.sure, h.shared.idle, h.shared.session, h.shared.locked,
          h.shared.revisions⟩
      exact ⟨h.goto shared leaves rfl (.plain (fun _ => rfl) outside (holds _)), .of_log rfl, rfl⟩

lemma stepBegin_goes (h : Inv w) {stage : Beginning} (mine : ThreadInv w t (.begin start scope stage))
    (unregistered : ∀ revision generation, stage ≠ .register revision generation)
    (eq : w.stepBegin t input start scope stage = some w') : Goes w w' := by
  cases stage with
  | select =>
    cases eq
    have harmless : Harmless t w
        { w with registry := w.registry.revokeMatching (.others start (some scope)) none } :=
      .registry h.shared (.revokeMatching _ _) (fun _ _ => rfl) (.revokeMatching _ _)
    exact harmless.goto h (.plain nofun rfl trivial)
  | unlocked =>
    cases eq
    split
    case isTrue => exact Harmless.goto (.refl h.shared) h (.plain nofun rfl trivial)
    case isFalse => exact Harmless.finish (.refl h.shared) h
  | acquire =>
    have holds : ∀ w : Broker, (Thread.begin start scope .revision).Holds w t := fun _ => trivial
    exact acquire_goes h rfl holds eq
  | revision =>
    cases eq
    apply Harmless.goto (.refl h.shared) h
    cases input.fails with
    | true => exact .plain (fun _ => mine.owner rfl) rfl trivial
    | false => exact .check (fun _ => mine.owner rfl) rfl (fun ne => absurd rfl ne) rfl
  | refuse native =>
    cases native with
    | false =>
      cases eq
      exact Harmless.goto (.revokeAll h.shared) h (.plain (fun _ => mine.owner rfl) rfl trivial)
    | true =>
      cases eq
      exact Harmless.finish (.invalidateNative h.shared) h
  | check revision check =>
    obtain ⟨⟨w₁, next⟩, checked, rfl⟩ := Option.map_eq_some_iff.1 eq
    obtain ⟨harmless, _, checking, settled⟩ :=
      checkRevision_spec h.shared (mine.checker check rfl) checked
    have owner : w₁.owner = some t := harmless.owner.trans (mine.owner rfl)
    have same : revision = w₁.revision := (mine.holds : revision = w.revision).trans
      harmless.stable.revision.symm
    apply harmless.goto h
    cases next with
    | some check' => exact .check (fun _ => owner) rfl (checking check' rfl) same
    | none =>
      refine .plain (fun _ => owner) rfl ?_
      subst same
      exact harmless.shared.matches_of_settled (settled rfl)
  | expire revision =>
    obtain ⟨w₁, section', rfl⟩ := Option.map_eq_some_iff.1 eq
    obtain ⟨r, step, rfl⟩ := Option.map_eq_some_iff.1 section'
    simp only [Approval.step] at step
    split at step
    case isFalse => cases step
    case isTrue =>
      cases step
      have harmless : Harmless t w { w with registry := w.registry.expire input.now } :=
        .registry h.shared (.expire input.now) (fun _ _ => rfl) (.of_log rfl)
      exact harmless.goto h (.plain (fun _ => mine.owner rfl) rfl mine.holds)
  | generation revision =>
    cases eq
    exact Harmless.goto (.refl h.shared) h (.plain (fun _ => mine.owner rfl) rfl mine.holds)
  | enter revision generation =>
    obtain ⟨w₁, section', rfl⟩ := Option.map_eq_some_iff.1 eq
    obtain ⟨r, step, rfl⟩ := Option.map_eq_some_iff.1 section'
    simp only [Approval.step] at step
    split at step
    case isFalse => cases step
    case isTrue =>
      cases step
      apply Harmless.goto (.enter h.shared (.expire input.now) rfl rfl (.begin scope)) h
      refine .plain (fun _ => mine.owner rfl) rfl ⟨mine.holds, ?_⟩
      rw [goto_get, if_pos rfl]
  | register revision generation => exact absurd rfl (unregistered revision generation)
  | release =>
    cases eq
    exact Harmless.finish (.refl h.shared) h

lemma register_inv (h : Inv w) {revision : Revision} {generation : Nat}
    (mine : ThreadInv w t (.begin start scope (.register revision generation)))
    (eq : w.stepBegin t input start scope (.register revision generation) = some w') : Inv w' := by
  obtain ⟨w₁, section', rfl⟩ := Option.map_eq_some_iff.1 eq
  obtain ⟨r, step, rfl⟩ := Option.map_eq_some_iff.1 section'
  obtain ⟨current, call⟩ := mine.holds
  have owner := mine.owner rfl
  simp only [Approval.step, call] at step
  cases step
  have shared := h.shared
  have registered : Shared { w with
      registry := (w.registry.beginAttempt scope).goto t none
      attempts := w.attempts.insert w.registry.next
        ⟨revision, generation, w.epoch, w.locks, w.revoked, w.changes⟩ } := by
    refine ⟨?_, ?_, shared.idle, shared.session, ?_, ?_⟩
    · exact (shared.coherent.register scope rfl).keeps (.goto t none)
    · intro a c mem begun found now
      rw [OrdMap.get_insert] at found
      split at found
      case isTrue same =>
        obtain ⟨_, old, found⟩ := shared.coherent.commits a c mem
        exact absurd (shared.coherent.begun a old found).1 (same ▸ Nat.lt_irrefl _)
      case isFalse => exact shared.sure a c mem begun found now
    · intro a begun found now
      rw [OrdMap.get_insert] at found
      split at found
      case isTrue =>
        cases found
        exact ⟨rfl, fun _ => rfl⟩
      case isFalse => exact shared.locked a begun found now
    · intro a begun found
      rw [OrdMap.get_insert] at found
      split at found
      case isTrue =>
        cases found
        exact ⟨Nat.le_of_eq current.1, fun _ => rfl⟩
      case isFalse => exact shared.revisions a begun found
  exact h.goto registered (.of_owner owner rfl rfl rfl) rfl (.plain (fun _ => owner) rfl trivial)

lemma stepReads_goes (h : Inv w) {stage : Reads} (mine : ThreadInv w t (.reads stage))
    (unproceeding : ∀ valid seen, stage ≠ .proceed valid seen) (eq : w.stepReads t input stage = some w') :
    Goes w w' := by
  cases stage with
  | acquire =>
    have holds : ∀ w : Broker, (Thread.reads .idle).Holds w t := fun _ => trivial
    exact acquire_goes h rfl holds eq
  | idle =>
    simp only [Broker.stepReads] at eq
    split at eq
    case h_1 =>
      cases eq
      exact Harmless.finish (.refl h.shared) h
    case h_2 a selector interactive _ =>
      obtain ⟨w₁, section', rfl⟩ := Option.map_eq_some_iff.1 eq
      obtain ⟨r, step, rfl⟩ := Option.map_eq_some_iff.1 section'
      simp only [Approval.step] at step
      split at step
      case isFalse => cases step
      case isTrue =>
        cases step
        have entered : Harmless t w { w with registry := _ } :=
          .enter h.shared (.refl _) rfl rfl (.read ⟨a, selector, interactive, .entered⟩)
        apply entered.goto h
        refine .plain (fun _ => mine.owner rfl) rfl ⟨⟨a, selector, interactive, .entered⟩, ?_, ?_,
          trivial, (by intros; rintro ⟨⟩)⟩
        · rw [goto_get, if_pos rfl]
        · exact .of_none rfl
  | validating validation =>
    obtain ⟨r, call, selected, holds, unfound⟩ := mine.holds
    have attempt : w.readAttempt t = some r.attempt := by rw [Broker.readAttempt, call]
    obtain ⟨a, reads, eq⟩ := Option.bind_eq_some_iff.1 eq
    obtain rfl : r.attempt = a := Option.some.inj (attempt.symm.trans reads)
    obtain ⟨⟨w₁, next⟩, validated, eq⟩ := Option.bind_eq_some_iff.1 eq
    cases eq
    have checking : ∀ check, validation.inCheck = some check → Checking w t check :=
      fun check inside => mine.checker check inside
    obtain ⟨harmless, calls, goes, answers⟩ := validate_spec h.shared checking holds validated
    have owner : w₁.owner = some t := harmless.owner.trans (mine.owner rfl)
    have call : w₁.registry.calls[t]? = some (.read r) := calls ▸ call
    have selected := harmless.stable.selected selected
    apply harmless.goto h
    cases next with
    | inl validation' =>
      obtain ⟨checking', holds'⟩ := goes validation' rfl
      exact ⟨fun _ => owner, checking', r, call, selected, holds', unfound⟩
    | inr answer =>
      obtain ⟨valid, seen⟩ := answer
      refine .plain (fun _ => owner) rfl ⟨r, call, selected, fun c retained _ eq => ?_,
        fun c retained found => absurd found (unfound c retained)⟩
      subst eq
      exact answers seen rfl
  | proceed valid seen => exact absurd rfl (unproceeding valid seen)

lemma proceed_inv (h : Inv w) {valid : Bool} {seen : Nat} (mine : ThreadInv w t (.reads (.proceed valid seen)))
    (eq : w.stepReads t input (.proceed valid seen) = some w') : Inv w' := by
  obtain ⟨r, call, selected, calling, found⟩ := mine.holds
  obtain ⟨w₁, section', rfl⟩ := Option.map_eq_some_iff.1 eq
  obtain ⟨registry, step, rfl⟩ := Option.map_eq_some_iff.1 section'
  simp only [Approval.step, call, Approval.proceed] at step
  split at step
  case h_1 => cases step
  case h_2 p there =>
    cases step
    have shared := h.shared
    have owner := mine.owner rfl
    have proceeds : Proceeds w.registry
        (Approval.proceedRead w.registry t r p { input.answer with valid }) w.attempts w.commits
        w.epoch t r valid := proceedRead_proceeds shared.coherent there selected
    have proceeded : Shared { w with
        registry := Approval.proceedRead w.registry t r p { input.answer with valid } } :=
      ⟨proceeds.coherent, shared.sure, shared.idle, shared.session, shared.locked,
        shared.revisions⟩
    refine h.goto proceeded (.of_owner owner rfl rfl rfl) rfl ?_
    rw [Broker.afterSection]
    split
    case h_2 => exact .plain (fun _ => owner) rfl trivial
    case h_1 r' call' =>
      obtain ⟨r'', same, attempt, _, selected', late⟩ := proceeds.read _ call'
      cases same
      split
      case h_1 c retained stage =>
        refine .plain (fun _ => owner) rfl ⟨r', call', selected', trivial, ?_⟩
        intro c retained eq
        cases stage.symm.trans eq
      case h_2 c retained stage =>
        refine .plain (fun _ => owner) rfl ⟨r', call', selected', trivial, ?_⟩
        intro c retained eq
        cases stage.symm.trans eq
      case h_3 unentered uncalled =>
        refine .plain (fun _ => owner) rfl ⟨r', call', selected', ?_, ?_⟩
        · exact fun c retained stage _ => absurd stage (uncalled c retained)
        · intro c retained stage
          obtain ⟨before, valid⟩ := late c retained stage
          rw [attempt]
          exact calling c retained before valid

lemma stepConnected_goes (h : Inv w) {a : Nat} {stage : Connecting} (mine : ThreadInv w t (.connected a stage))
    (eq : w.stepConnected t input a stage = some w') : Goes w w' := by
  cases stage with
  | acquire =>
    have holds : ∀ w : Broker, (Thread.connected a (.validating .expire)).Holds w t :=
      fun _ => trivial
    exact acquire_goes h rfl holds eq
  | validating validation =>
    obtain ⟨⟨w₁, next⟩, validated, eq⟩ := Option.map_eq_some_iff.1 eq
    have checking : ∀ check, validation.inCheck = some check → Checking w t check :=
      fun check inside => mine.checker check inside
    obtain ⟨harmless, calls, goes, answers⟩ := validate_spec h.shared checking mine.holds validated
    have owner : w₁.owner = some t := harmless.owner.trans (mine.owner rfl)
    cases next with
    | inl validation' =>
      cases eq
      obtain ⟨checking', holds'⟩ := goes validation' rfl
      exact harmless.goto h ⟨fun _ => owner, checking', holds'⟩
    | inr answer =>
      obtain ⟨valid, seen⟩ := answer
      cases valid with
      | true =>
        cases eq
        exact harmless.goto h (.plain (fun _ => owner) rfl (answers seen rfl).1)
      | false =>
        cases eq
        exact harmless.finish h
  | enter =>
    obtain ⟨w₁, section', rfl⟩ := Option.map_eq_some_iff.1 eq
    obtain ⟨r, step, rfl⟩ := Option.map_eq_some_iff.1 section'
    simp only [Approval.step] at step
    split at step
    case isFalse => cases step
    case isTrue =>
      cases step
      have entered : Harmless t w { w with registry := _ } :=
        .enter h.shared (.expire input.now) rfl rfl (.connected a input.now)
      apply entered.goto h
      refine .plain (fun _ => mine.owner rfl) rfl ⟨mine.holds, input.now, ?_⟩
      rw [goto_get, if_pos rfl]
  | commit =>
    obtain ⟨⟨begun, found, current, settled⟩, now, call⟩ := mine.holds
    obtain ⟨w₁, section', rfl⟩ := Option.map_eq_some_iff.1 eq
    obtain ⟨registry, step, rfl⟩ := Option.map_eq_some_iff.1 section'
    simp only [Approval.step, call, Approval.proceed] at step
    split at step
    case h_1 => cases step
    case h_2 p there =>
      obtain ⟨registry, committed, rfl⟩ := Option.map_eq_some_iff.1 step
      have shared := h.shared
      have owner := mine.owner rfl
      obtain ⟨coherent, own⟩ := shared.coherent.commit there committed
      have committing : Shared { w with
          registry := registry.goto t none
          commits := Broker.committed w.registry (registry.goto t none) a ++ w.commits } := by
        refine ⟨coherent.keeps (.goto t none), ?_, shared.idle, shared.session, shared.locked,
          shared.revisions⟩
        intro b c mem begun' found' now'
        cases List.mem_append.1 mem with
        | inr old => exact shared.sure b c old begun' found' now'
        | inl new =>
          obtain ⟨rfl, _⟩ := own b c new
          cases found.symm.trans found'
          exact settled now'
      have released : (Thread.connected a .release).Holds { w with
          registry := registry.goto t none
          commits := Broker.committed w.registry (registry.goto t none) a ++ w.commits } t := trivial
      have mute : Mute w.registry registry := .commit committed
      exact ⟨h.goto committing (.of_owner owner rfl rfl rfl) rfl (.plain (fun _ => owner) rfl released),
        mute, rfl⟩
  | release =>
    cases eq
    exact Harmless.finish (.refl h.shared) h

lemma stepMaintain_goes (h : Inv w) (mine : ThreadInv w t (.maintain stage))
    (eq : w.stepMaintain t input stage = some w') : Goes w w' := by
  have plain : ∀ {w : Broker} {stage : Observing}, (Thread.maintain stage).inCheck = none →
      ThreadInv w t (.maintain stage) := fun outside => .plain (by intros; contradiction) outside trivial
  cases stage with
  | expire =>
    obtain ⟨w₁, section', rfl⟩ := Option.map_eq_some_iff.1 eq
    obtain ⟨r, step, rfl⟩ := Option.map_eq_some_iff.1 section'
    simp only [Approval.step] at step
    split at step
    case isFalse => cases step
    case isTrue =>
      cases step
      have harmless : Harmless t w { w with registry := w.registry.expire input.now } :=
        .registry h.shared (.expire input.now) (fun _ _ => rfl) (.of_log rfl)
      exact harmless.goto h (plain rfl)
  | unlocked =>
    cases eq
    apply Harmless.goto (.refl h.shared) h
    split
    case isTrue => exact plain rfl
    case isFalse => exact plain rfl
  | lapse native =>
    cases native with
    | false =>
      cases eq
      exact Harmless.goto (.revokeAll h.shared) h (plain rfl)
    | true =>
      cases eq
      exact Harmless.goto (.invalidateNative h.shared) h (plain rfl)
  | revision =>
    cases eq
    apply Harmless.goto (.refl h.shared) h
    cases input.fails with
    | true => exact plain rfl
    | false => exact .check (by intros; contradiction) rfl (fun ne => absurd rfl ne) trivial
  | refuse native =>
    cases native with
    | false =>
      cases eq
      exact Harmless.goto (.revokeAll h.shared) h (plain rfl)
    | true =>
      cases eq
      exact Harmless.finish (.invalidateNative h.shared) h
  | check revision check =>
    obtain ⟨⟨w₁, next⟩, checked, eq⟩ := Option.map_eq_some_iff.1 eq
    obtain ⟨harmless, _, checking, _⟩ :=
      checkRevision_spec h.shared (mine.checker check rfl) checked
    cases next with
    | some check' =>
      cases eq
      exact harmless.goto h (.check (by intros; contradiction) rfl (checking check' rfl) trivial)
    | none =>
      cases eq
      exact harmless.finish h

lemma stepReusable_goes (h : Inv w) (mine : ThreadInv w t (.reusable scope stage))
    (eq : w.stepReusable t input scope stage = some w') : Goes w w' := by
  have plain : ∀ {w : Broker} {stage : Observing}, (Thread.reusable scope stage).inCheck = none →
      ThreadInv w t (.reusable scope stage) := fun outside => .plain nofun outside trivial
  cases stage with
  | expire => cases eq
  | unlocked =>
    cases eq
    split
    case isTrue => exact Harmless.finish (.refl h.shared) h
    case isFalse => exact Harmless.goto (.refl h.shared) h (plain rfl)
  | lapse native =>
    cases native with
    | false =>
      cases eq
      exact Harmless.goto (.revokeAll h.shared) h (plain rfl)
    | true =>
      cases eq
      exact Harmless.finish (.invalidateNative h.shared) h
  | revision =>
    cases eq
    apply Harmless.goto (.refl h.shared) h
    cases input.fails with
    | true => exact plain rfl
    | false => exact .check nofun rfl (fun ne => absurd rfl ne) trivial
  | refuse native =>
    cases native with
    | false =>
      cases eq
      exact Harmless.goto (.revokeAll h.shared) h (plain rfl)
    | true =>
      cases eq
      exact Harmless.finish (.invalidateNative h.shared) h
  | check revision check =>
    obtain ⟨⟨w₁, next⟩, checked, rfl⟩ := Option.map_eq_some_iff.1 eq
    obtain ⟨harmless, _, checking, _⟩ :=
      checkRevision_spec h.shared (mine.checker check rfl) checked
    apply harmless.goto h
    cases next with
    | some check' => exact .check nofun rfl (checking check' rfl) trivial
    | none => exact plain rfl

namespace Shared

lemma advance (h : Shared w) : Shared { w with revision := w.revision + 1 } := by
  refine ⟨h.coherent, h.sure, h.idle, h.session, h.locked, fun a begun found => ?_⟩
  have le := (h.revisions a begun found).1
  exact ⟨Nat.le_succ_of_le le, fun eq => absurd (eq ▸ le) (Nat.not_succ_le_self _)⟩

end Shared

lemma stepMutate_goes (h : Inv w) {stage : Mutation} (mine : ThreadInv w t (.mutate stage))
    (eq : w.stepMutate t input more stage = some w') : Goes w w' := by
  cases stage with
  | acquire =>
    have holds : ∀ w : Broker, (Thread.mutate .advance).Holds w t := fun _ => trivial
    exact acquire_goes h rfl holds eq
  | advance =>
    have owner := mine.owner rfl
    have leaves : Leaves (some t) w { w with revision := w.revision + 1 } :=
      .of_owner owner rfl rfl rfl
    simp only [Broker.stepMutate] at eq
    split at eq
    case isTrue =>
      cases more with
      | true =>
        cases eq
        exact ⟨h.finish h.shared.advance leaves rfl, .of_log rfl, rfl⟩
      | false =>
        cases eq
        exact Harmless.finish (.refl h.shared) h
    case isFalse =>
      cases eq
      refine ⟨h.goto h.shared.advance leaves rfl (.plain (fun _ => owner) rfl ?_), .of_log rfl, rfl⟩
      intro a begun found
      exact Nat.lt_succ_of_le (h.shared.revisions a begun found).1
  | changing =>
    cases more with
    | false =>
      cases eq
      exact Harmless.finish (.refl h.shared) h
    | true =>
      cases eq
      have earlier : ∀ (a : Nat) (begun : Begun), w.attempts[a]? = some begun →
          begun.revision < w.revision := mine.holds
      refine ⟨⟨⟨h.shared.coherent, h.shared.sure, h.shared.idle, h.shared.session, h.shared.locked,
        fun a begun found => ?_⟩, fun t' thread found => ?_⟩, .of_log rfl, rfl⟩
      · have lt := earlier a begun found
        exact ⟨Nat.le_of_lt lt, fun same => absurd same (Nat.ne_of_lt lt)⟩
      · have other := h.threads t' thread found
        exact ⟨other.owner, other.checker, other.holds⟩

lemma proceed_goes (h : Inv w) (mine : ThreadInv w t thread)
    (unregistered : ∀ start scope revision generation,
      thread ≠ .begin start scope (.register revision generation))
    (unproceeding : ∀ valid seen, thread ≠ .reads (.proceed valid seen))
    (eq : w.proceed t input more thread = some w') : Goes w w' := by
  cases thread with
  | begin start scope stage =>
    refine stepBegin_goes h mine (fun revision generation same => ?_) eq
    exact unregistered start scope revision generation (same ▸ rfl)
  | reads stage =>
    refine stepReads_goes h mine (fun valid seen same => ?_) eq
    exact unproceeding valid seen (same ▸ rfl)
  | connected a stage => exact stepConnected_goes h mine eq
  | maintain stage => exact stepMaintain_goes h mine eq
  | reusable scope stage => exact stepReusable_goes h mine eq
  | mutate stage => exact stepMutate_goes h mine eq

lemma Goes.session (h : Inv w) (shared : Shared w') (leaves : Leaves none w w') (threads : w'.threads = w.threads)
    (mute : Mute w.registry w'.registry) (attempts : w'.attempts = w.attempts) : Goes w w' := by
  refine ⟨⟨shared, fun t thread found => ?_⟩, mute, attempts⟩
  rw [threads] at found
  exact (h.threads t thread found).leaves h.shared leaves nofun

lemma stepLocking_goes (h : Inv w) (eq : w.stepLocking = some w') : Goes w w' := by
  have shared := h.shared
  rw [Broker.stepLocking] at eq
  split at eq
  case h_1 => cases eq
  case h_2 locking =>
    cases eq
    have stable : Stable w { w with generation := w.generation + 1, locking := .revoke } :=
      .of_keeps rfl rfl rfl rfl rfl rfl (.refl _)
    refine .session h ⟨shared.coherent, shared.sure, shared.idle, fun unlocked => ?_,
      fun a begun found now => ?_, shared.revisions⟩ (.of_stable stable (fun _ _ => rfl) rfl rfl id)
      rfl (.of_log rfl) rfl
    · cases locking.symm.trans (shared.session unlocked)
    · exact ⟨(shared.locked a begun found now).1, nofun⟩
  case h_3 locking =>
    cases eq
    have revoked := Stable.revokeAll w
    have stable : Stable w { w.revokeAll with revoked := w.revoked + 1, locking := .native } :=
      ⟨rfl, rfl, rfl, revoked.epoch, revoked.settled, revoked.keeps⟩
    have all := shared.revokeAll
    refine .session h ⟨all.coherent, all.sure, all.idle, fun unlocked => ?_,
      fun a begun found now => ?_, all.revisions⟩ (.of_stable stable (fun _ _ => rfl) rfl rfl id)
      rfl (.revokeMatching .all none) rfl
    · cases locking.symm.trans (shared.session unlocked)
    · exact absurd now (shared.fresh found)
  case h_4 locking =>
    cases eq
    have native := Stable.invalidateNative w
    have stable : Stable w { w.invalidateNative with locking := .quiet } :=
      ⟨rfl, rfl, rfl, native.epoch, native.settled, native.keeps⟩
    have lapsed := shared.invalidateNative
    refine .session h ⟨lapsed.coherent, lapsed.sure, lapsed.idle, fun _ => rfl,
      fun a begun found now => ?_, lapsed.revisions⟩ (.of_stable stable (fun _ _ => rfl) rfl rfl id)
      rfl (.of_log rfl) rfl
    obtain ⟨revoked, locks⟩ := shared.locked a begun found now
    exact ⟨revoked, fun _ => locks (.inr locking)⟩

end

lemma Mute.separate {w w' : World} {action : Approval.Action} (separate : isSeparate action = true)
    (h : Approval.step w action = some w') : Mute w w' := by
  cases action with
  | tick now =>
    simp only [Approval.step] at h
    split at h
    case isTrue =>
      cases h
      exact .of_log rfl
    case isFalse => cases h
  | lapse context =>
    cases h
    exact .of_log rfl
  | begin => cases separate
  | connected => cases separate
  | read => cases separate
  | proceed => cases separate
  | cancel attempt =>
    obtain ⟨p, _, rfl⟩ := Option.map_eq_some_iff.1 h
    apply Mute.of_log
    rw [World.cancel]
    split
    case isTrue => rfl
    case isFalse => rfl
  | discardCached attempt =>
    obtain ⟨p, _, rfl⟩ := Option.map_eq_some_iff.1 h
    rw [World.discardCached]
    split
    case isTrue => exact .revokeMatching (.only p.scope) (some attempt)
    case isFalse => exact .of_log rfl
  | drop attempt =>
    simp only [Approval.step] at h
    split at h
    case isTrue => cases h
    case isFalse =>
      obtain ⟨p, _, rfl⟩ := Option.map_eq_some_iff.1 h
      exact .of_log rfl
  | revoke selection =>
    cases h
    exact .revokeMatching selection none
  | expire now =>
    simp only [Approval.step] at h
    split at h
    case isTrue =>
      cases h
      exact .of_log rfl
    case isFalse => cases h

end Ctl.Keychain
