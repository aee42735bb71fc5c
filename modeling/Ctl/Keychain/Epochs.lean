import Ctl.Approval.Revocation
import Ctl.Keychain.Revision

/-!
# Epochs of the approval windows

An epoch of the registry ends when all its windows and attempts are revoked. Most sections only take
from the registry (`Keeps`). A new attempt, a new context and a commit keep that whatever is valid
belongs to the current epoch (`Coherent`): the contexts of its windows and of its valid attempts were
committed by attempts that have begun in it.
-/

namespace Ctl.Keychain
open Ctl.Base Ctl.Approval

/-! ### The registry -/

/-- An attempt keeps its contexts, or has discarded them. -/
def Retains (p p' : Pending) : Prop :=
  (p'.contexts = p.contexts ∧ p'.inherited = p.inherited ∧
    ∀ s ∈ p'.used, s ∈ p.used ∨ ∃ c, p.contexts[s]? = some c) ∨
  p'.contexts = ∅ ∧ p'.inherited = ∅ ∧ p'.used = ∅

/-- The windows and the attempts of the registry gain nothing. -/
structure Keeps (w w' : World) : Prop where
  next : w'.next = w.next
  created : w'.created = w.created
  isValid : ∀ c, w'.isValid c = true → w.isValid c = true
  window : ∀ scope s c, w'.InWindow scope s c → w.InWindow scope s c
  pending : ∀ (a : Nat) (p' : Pending), w'.pending[a]? = some p' →
    ∃ p : Pending, w.pending[a]? = some p ∧ (p'.valid = true → p.valid = true) ∧ Retains p p'

namespace Retains

variable {p p' p'' : Pending}

lemma of_eq (contexts : p'.contexts = p.contexts) (inherited : p'.inherited = p.inherited)
    (used : p'.used = p.used) : Retains p p' :=
  .inl ⟨contexts, inherited, fun _ mem => .inl (used ▸ mem)⟩

lemma trans (h : Retains p p') (h' : Retains p' p'') : Retains p p'' := by
  cases h' with
  | inr discarded => exact .inr discarded
  | inl kept' =>
    cases h with
    | inl kept =>
      refine .inl ⟨kept'.1.trans kept.1, kept'.2.1.trans kept.2.1, fun s mem => ?_⟩
      cases kept'.2.2 s mem with
      | inl used => exact kept.2.2 s used
      | inr has => exact .inr (kept.1 ▸ has)
    | inr discarded =>
      refine .inr ⟨kept'.1.trans discarded.1, kept'.2.1.trans discarded.2.1, ?_⟩
      apply Finset.eq_empty_of_forall_notMem
      intro s mem
      cases kept'.2.2 s mem with
      | inl used =>
        rw [discarded.2.2] at used
        exact Finset.notMem_empty s used
      | inr has =>
        obtain ⟨c, has⟩ := has
        rw [discarded.1] at has
        cases Std.ExtTreeMap.getElem?_empty.symm.trans has

lemma contexts (h : Retains p p') {s : String} {c : Nat} (has : p'.contexts[s]? = some c) :
    p.contexts[s]? = some c := by
  cases h with
  | inl kept => exact kept.1 ▸ has
  | inr discarded =>
    rw [discarded.1] at has
    cases Std.ExtTreeMap.getElem?_empty.symm.trans has

end Retains

namespace Keeps

variable {w w' w'' : World}

lemma refl (w : World) : Keeps w w :=
  ⟨rfl, rfl, fun _ h => h, fun _ _ _ h => h, fun _ p found => ⟨p, found, id, .of_eq rfl rfl rfl⟩⟩

lemma trans (h : Keeps w w') (h' : Keeps w' w'') : Keeps w w'' where
  next := h'.next.trans h.next
  created := h'.created.trans h.created
  isValid c valid := h.isValid c (h'.isValid c valid)
  window scope s c inside := h.window scope s c (h'.window scope s c inside)
  pending a p'' found := by
    obtain ⟨p', found', valid', retains'⟩ := h'.pending a p'' found
    obtain ⟨p, found, valid, retains⟩ := h.pending a p' found'
    exact ⟨p, found, fun v => valid (valid' v), retains.trans retains'⟩

lemma of_registry (next : w'.next = w.next) (created : w'.created = w.created)
    (isValid : ∀ c, w'.isValid c = true → w.isValid c = true) (windows : w'.windows = w.windows)
    (pending : w'.pending = w.pending) : Keeps w w' where
  next := next
  created := created
  isValid := isValid
  window scope s c inside := by
    obtain ⟨window, found, has⟩ := inside
    exact ⟨window, windows ▸ found, has⟩
  pending a p found := ⟨p, pending ▸ found, id, .of_eq rfl rfl rfl⟩

lemma goto (id : Nat) (call : Option Call) : Keeps w (w.goto id call) :=
  of_registry rfl rfl (fun _ h => h) rfl rfl

lemma emit (event : Event) : Keeps w (w.emit event) :=
  of_registry rfl rfl (fun _ h => h) rfl rfl

lemma invalidate (contexts : List Nat) : Keeps w (w.invalidate contexts) :=
  of_registry rfl rfl (fun _ h => (World.invalidate_isValid.1 h).1) rfl rfl

lemma setPending {a : Nat} {p p' : Pending} (found : w.pending[a]? = some p)
    (valid : p'.valid = true → p.valid = true) (retains : Retains p p') :
    Keeps w (w.setPending a p') where
  next := rfl
  created := rfl
  isValid _ h := h
  window _ _ _ h := h
  pending b q there := by
    rw [World.setPending_pending] at there
    split at there
    case isTrue same =>
      cases there
      exact ⟨p, same ▸ found, valid, retains⟩
    case isFalse => exact ⟨q, there, id, .of_eq rfl rfl rfl⟩

lemma ofMap {f : Pending → Pending} (next : w'.next = w.next) (created : w'.created = w.created)
    (isValid : ∀ c, w'.isValid c = true → w.isValid c = true)
    (window : ∀ scope s c, w'.InWindow scope s c → w.InWindow scope s c)
    (pending : ∀ a : Nat, w'.pending[a]? = (w.pending[a]?).map f)
    (loses : ∀ p, f p = p ∨ f p = { p with valid := false }) : Keeps w w' where
  next := next
  created := created
  isValid := isValid
  window := window
  pending a p' found := by
    rw [pending] at found
    obtain ⟨p, found, eq⟩ := Option.map_eq_some_iff.1 found
    refine ⟨p, found, ?_⟩
    rw [← eq]
    cases loses p with
    | inl same =>
      rw [same]
      exact ⟨id, .of_eq rfl rfl rfl⟩
    | inr invalid =>
      rw [invalid]
      exact ⟨nofun, .of_eq rfl rfl rfl⟩

lemma expire (now : Nat) : Keeps w (w.expire now) := by
  refine @ofMap w (w.expire now) _ rfl rfl ?_ ?_ (fun a => World.expire_pending) ?_
  · exact fun c h => (World.invalidate_isValid.1 h).1
  · intro scope s c inside
    obtain ⟨window, found, has⟩ := inside
    obtain ⟨old, found', _, contexts⟩ := World.expire_window found
    exact ⟨old, found', contexts s c has⟩
  · intro p
    split
    case isTrue => exact .inr rfl
    case isFalse => exact .inl rfl

lemma revokeMatching (selection : Selection) (discarding : Option Nat) :
    Keeps w (w.revokeMatching selection discarding) := by
  refine @ofMap w (w.revokeMatching selection discarding) _ rfl rfl ?_ ?_
    (fun a => World.revokeMatching_pending) ?_
  · exact fun c h => (World.invalidate_isValid.1 h).1
  · exact fun scope s c inside => (World.revokeMatching_inWindow.1 inside).1
  · intro p
    split
    case isTrue => exact .inr rfl
    case isFalse => exact .inl rfl

lemma cancel {a : Nat} {p : Pending} (found : w.pending[a]? = some p) : Keeps w (w.cancel a p) := by
  rw [World.cancel]
  split
  case isTrue => exact refl w
  case isFalse =>
    exact (invalidate (w.canceledContexts p)).trans
      (setPending (w := w.invalidate (w.canceledContexts p)) found (by intros; contradiction) (.of_eq rfl rfl rfl))

lemma dropHandle (a : Nat) (p : Pending) : Keeps w (w.dropHandle a p) where
  next := rfl
  created := rfl
  isValid _ h := (World.invalidate_isValid.1 h).1
  window _ _ _ h := h
  pending b q there := by
    rw [World.dropHandle, OrdMap.get_erase] at there
    split at there
    case isTrue => cases there
    case isFalse => exact ⟨q, there, id, .of_eq rfl rfl rfl⟩

lemma discardCached {a : Nat} {p : Pending} (found : w.pending[a]? = some p) : Keeps w (w.discardCached a p) := by
  rw [World.discardCached]
  split
  case isFalse => exact refl w
  case isTrue valid =>
    have revoked : Keeps w (w.revokeMatching (.only p.scope) (some a)) := revokeMatching _ _
    refine ⟨rfl, rfl, revoked.isValid, revoked.window, fun b q there => ?_⟩
    rw [OrdMap.get_insert] at there
    split at there
    case isTrue same =>
      cases there
      exact ⟨p, same ▸ found, fun _ => valid, .inr ⟨rfl, rfl, rfl⟩⟩
    case isFalse => exact revoked.pending b q there

lemma separate {action : Approval.Action} (separate : isSeparate action = true)
    (h : Approval.step w action = some w') : Keeps w w' ∧ w'.calls = w.calls := by
  cases action with
  | tick now =>
    simp only [Approval.step] at h
    split at h
    case isTrue =>
      cases h
      exact ⟨of_registry rfl rfl (fun _ h => h) rfl rfl, rfl⟩
    case isFalse => cases h
  | lapse context =>
    cases h
    exact ⟨invalidate _, rfl⟩
  | begin => cases separate
  | connected => cases separate
  | read => cases separate
  | proceed => cases separate
  | cancel attempt =>
    obtain ⟨p, found, rfl⟩ := Option.map_eq_some_iff.1 h
    refine ⟨cancel found, ?_⟩
    rw [World.cancel]
    split
    case isTrue => rfl
    case isFalse => rfl
  | discardCached attempt =>
    obtain ⟨p, found, rfl⟩ := Option.map_eq_some_iff.1 h
    refine ⟨discardCached found, ?_⟩
    rw [World.discardCached]
    split
    case isTrue => rfl
    case isFalse => rfl
  | drop attempt =>
    simp only [Approval.step] at h
    split at h
    case isTrue => cases h
    case isFalse =>
      obtain ⟨p, found, rfl⟩ := Option.map_eq_some_iff.1 h
      exact ⟨dropHandle attempt p, rfl⟩
  | revoke selection =>
    cases h
    exact ⟨revokeMatching _ _, rfl⟩
  | expire now =>
    simp only [Approval.step] at h
    split at h
    case isTrue =>
      cases h
      exact ⟨expire now, rfl⟩
    case isFalse => cases h

end Keeps

/-! ### Epochs -/

def BeganIn (attempts : OrdMap Nat Begun) (epoch a : Nat) : Prop :=
  ∃ begun, attempts[a]? = some begun ∧ begun.epoch = epoch

/-- What is valid belongs to the epoch: the attempts that are valid, and the commits of the contexts in
    windows and valid attempts. -/
structure Coherent (w : World) (attempts : OrdMap Nat Begun) (commits : List (Nat × Nat))
    (epoch : Nat) : Prop where
  number : ∀ (a : Nat) (p : Pending), w.pending[a]? = some p → a < w.next
  begun : ∀ (a : Nat) (begun : Begun), attempts[a]? = some begun →
    a < w.next ∧ begun.epoch ≤ epoch
  valid : ∀ (a : Nat) (p : Pending), w.pending[a]? = some p → p.valid = true →
    BeganIn attempts epoch a
  window : ∀ scope s c, w.InWindow scope s c → c < w.created ∧ (∃ a, (a, c) ∈ commits) ∧
    ∀ a, (a, c) ∈ commits → BeganIn attempts epoch a
  contexts : ∀ (a : Nat) (p : Pending), w.pending[a]? = some p → ∀ (s : String) (c : Nat),
    p.contexts[s]? = some c → c < w.created ∧
      (p.valid = true → ∀ b, (b, c) ∈ commits → BeganIn attempts epoch b)
  keys : ∀ (a : Nat) (p : Pending), w.pending[a]? = some p → ∀ s : String,
    s ∈ p.inherited ∨ s ∈ p.used → ∃ c, p.contexts[s]? = some c
  inherited : ∀ (a : Nat) (p : Pending), w.pending[a]? = some p → ∀ (s : String) (c : Nat),
    s ∈ p.inherited → p.contexts[s]? = some c → w.isValid c = true → ∃ b, (b, c) ∈ commits
  commits : ∀ a c, (a, c) ∈ commits → c < w.created ∧ ∃ begun, attempts[a]? = some begun

namespace Coherent

variable {w w' : World} {attempts : OrdMap Nat Begun} {commits : List (Nat × Nat)} {epoch : Nat}

lemma keeps (h : Coherent w attempts commits epoch) (k : Keeps w w') :
    Coherent w' attempts commits epoch where
  number a p' found := by
    obtain ⟨p, found, _⟩ := k.pending a p' found
    exact k.next ▸ h.number a p found
  begun a begun found := k.next ▸ h.begun a begun found
  valid a p' found valid := by
    obtain ⟨p, found, valid', _⟩ := k.pending a p' found
    exact h.valid a p found (valid' valid)
  window scope s c inside := k.created ▸ h.window scope s c (k.window scope s c inside)
  contexts a p' found s c has := by
    obtain ⟨p, found, valid, retains⟩ := k.pending a p' found
    obtain ⟨lt, current⟩ := h.contexts a p found s c (retains.contexts has)
    exact ⟨k.created ▸ lt, fun v => current (valid v)⟩
  keys a p' found s mem := by
    obtain ⟨p, found, _, retains⟩ := k.pending a p' found
    cases retains with
    | inl kept =>
      rw [kept.1]
      cases mem with
      | inl inherited => exact h.keys a p found s (.inl (kept.2.1 ▸ inherited))
      | inr used =>
        cases kept.2.2 s used with
        | inl used => exact h.keys a p found s (.inr used)
        | inr has => exact has
    | inr discarded =>
      rw [discarded.2.1, discarded.2.2] at mem
      cases mem with
      | inl mem => exact absurd mem (Finset.notMem_empty s)
      | inr mem => exact absurd mem (Finset.notMem_empty s)
  inherited a p' found s c mem has valid := by
    obtain ⟨p, found, _, retains⟩ := k.pending a p' found
    cases retains with
    | inl kept => exact h.inherited a p found s c (kept.2.1 ▸ mem) (kept.1 ▸ has) (k.isValid c valid)
    | inr discarded =>
      rw [discarded.2.1] at mem
      exact absurd mem (Finset.notMem_empty s)
  commits a c mem := k.created ▸ h.commits a c mem

lemma revokeAll (h : Coherent w attempts commits epoch) :
    Coherent (w.revokeMatching .all none) attempts commits (epoch + 1) := by
  have kept := h.keeps (Keeps.revokeMatching .all none)
  have invalid : ∀ (a : Nat) (p : Pending),
      (w.revokeMatching .all none).pending[a]? = some p → p.valid = false := by
    intro a p found
    rw [World.revokeMatching_pending] at found
    obtain ⟨old, _, rfl⟩ := Option.map_eq_some_iff.1 found
    rfl
  refine ⟨kept.number, fun a begun found => ?_, fun a p found valid => ?_, fun scope s c inside => ?_,
    fun a p found s c has => ?_, kept.keys, kept.inherited, kept.commits⟩
  · exact ⟨(kept.begun a begun found).1, Nat.le_succ_of_le (kept.begun a begun found).2⟩
  · rw [invalid a p found] at valid
    cases valid
  · cases (World.revokeMatching_inWindow.1 inside).2
  · refine ⟨(kept.contexts a p found s c has).1, fun valid => ?_⟩
    rw [invalid a p found] at valid
    cases valid

lemma register (h : Coherent w attempts commits epoch) (scope : String) {begun : Begun}
    (current : begun.epoch = epoch) : Coherent (w.beginAttempt scope) (attempts.insert w.next begun) commits epoch := by
  have grows : ∀ a, BeganIn attempts epoch a → BeganIn (attempts.insert w.next begun) epoch a := by
    rintro a ⟨old, found, eq⟩
    refine ⟨old, ?_, eq⟩
    rw [OrdMap.get_insert, if_neg, found]
    exact fun same => Nat.lt_irrefl a (same ▸ (h.begun a old found).1)
  have there : ∀ (a : Nat) (p : Pending), (w.beginAttempt scope).pending[a]? = some p →
      w.pending[a]? = some p ∨ a = w.next ∧ p.used = ∅ ∧
        (∀ s c, p.contexts[s]? = some c → w.InWindow scope s c) ∧
        ∀ s ∈ p.inherited, ∃ c, p.contexts[s]? = some c := by
    intro a p found
    rw [World.beginAttempt, OrdMap.get_insert] at found
    split at found
    case isFalse => exact .inl found
    case isTrue same =>
      cases found
      refine .inr ⟨same.symm, rfl, fun s c has => ?_, fun s mem => ?_⟩
      · cases window : w.windows[scope]? with
        | none =>
          rw [window] at has
          cases Std.ExtTreeMap.getElem?_empty.symm.trans has
        | some window' =>
          rw [window] at has
          exact ⟨window', window, has⟩
      · rw [List.mem_toFinset, Std.ExtTreeMap.mem_keys, Std.ExtTreeMap.mem_iff_isSome_getElem?] at mem
        exact Option.isSome_iff_exists.1 mem
  refine ⟨fun a p found => ?_, fun a old found => ?_, fun a p found valid => ?_,
    fun scope' s c inside => ?_, fun a p found s c has => ?_, fun a p found s mem => ?_,
    fun a p found s c mem has valid => ?_, fun a c mem => ?_⟩
  · cases there a p found with
    | inl old => exact Nat.lt_succ_of_lt (h.number a p old)
    | inr new => exact new.1 ▸ Nat.lt_succ_self _
  · rw [OrdMap.get_insert] at found
    split at found
    case isTrue same =>
      cases found
      exact ⟨same ▸ Nat.lt_succ_self _, Nat.le_of_eq current⟩
    case isFalse =>
      exact ⟨Nat.lt_succ_of_lt (h.begun a old found).1, (h.begun a old found).2⟩
  · cases there a p found with
    | inl old => exact grows a (h.valid a p old valid)
    | inr new =>
      refine ⟨begun, ?_, current⟩
      rw [OrdMap.get_insert, if_pos new.1.symm]
  · obtain ⟨lt, some, all⟩ := h.window scope' s c inside
    exact ⟨lt, some, fun a mem => grows a (all a mem)⟩
  · cases there a p found with
    | inl old =>
      obtain ⟨lt, all⟩ := h.contexts a p old s c has
      exact ⟨lt, fun v b mem => grows b (all v b mem)⟩
    | inr new =>
      obtain ⟨lt, _, all⟩ := h.window scope s c (new.2.2.1 s c has)
      exact ⟨lt, fun _ b mem => grows b (all b mem)⟩
  · cases there a p found with
    | inl old => exact h.keys a p old s mem
    | inr new =>
      cases mem with
      | inl mem => exact new.2.2.2 s mem
      | inr mem =>
        rw [new.2.1] at mem
        exact absurd mem (Finset.notMem_empty s)
  · cases there a p found with
    | inl old => exact h.inherited a p old s c mem has valid
    | inr new => exact (h.window scope s c (new.2.2.1 s c has)).2.1
  · obtain ⟨lt, old, found⟩ := h.commits a c mem
    refine ⟨lt, old, ?_⟩
    rw [OrdMap.get_insert, if_neg, found]
    exact fun same => Nat.lt_irrefl a (same ▸ (h.begun a old found).1)

lemma create (h : Coherent w attempts commits epoch) {a : Nat} {p : Pending} {s : String} (p' : Pending)
    (found : w.pending[a]? = some p) (absent : p.contexts[s]? = none) (valid : p'.valid = p.valid)
    (contexts : p'.contexts = p.contexts.insert s w.created) (inherited : p'.inherited = p.inherited)
    (used : p'.used = p.used) (pending : w'.pending = w.pending.insert a p') (created : w'.created = w.created + 1)
    (next : w'.next = w.next) (windows : w'.windows = w.windows)
    (isValid : ∀ c, c ≠ w.created → w'.isValid c = true → w.isValid c = true) : Coherent w' attempts commits epoch := by
  have inWindow : ∀ scope s c, w'.InWindow scope s c → w.InWindow scope s c := by
    rintro scope s c ⟨window, has, inside⟩
    exact ⟨window, windows ▸ has, inside⟩
  have there : ∀ (b : Nat) (q : Pending), w'.pending[b]? = some q →
      w.pending[b]? = some q ∨ b = a ∧ q = p' := by
    intro b q found
    rw [pending, OrdMap.get_insert] at found
    split at found
    case isTrue same => exact .inr ⟨same.symm, (Option.some.inj found).symm⟩
    case isFalse => exact .inl found
  have has : ∀ (s' : String) (c : Nat), p'.contexts[s']? = some c →
      s' = s ∧ c = w.created ∨ s' ≠ s ∧ p.contexts[s']? = some c := by
    intro s' c has
    rw [contexts, OrdMap.get_insert] at has
    split at has
    case isTrue same => exact .inl ⟨same.symm, (Option.some.inj has).symm⟩
    case isFalse ne => exact .inr ⟨fun eq => ne eq.symm, has⟩
  have keeps : ∀ (s' : String) (c : Nat), p.contexts[s']? = some c → p'.contexts[s']? = some c := by
    intro s' c has
    rw [contexts, OrdMap.get_insert, if_neg, has]
    rintro rfl
    cases absent.symm.trans has
  refine ⟨fun b q found' => ?_, fun b begun found' => next ▸ h.begun b begun found',
    fun b q found' v => ?_, fun scope s' c inside => ?_, fun b q found' s' c has' => ?_,
    fun b q found' s' mem => ?_, fun b q found' s' c mem has' v => ?_, fun b c mem => ?_⟩
  · rw [next]
    cases there b q found' with
    | inl old => exact h.number b q old
    | inr new => exact new.1 ▸ h.number a p found
  · cases there b q found' with
    | inl old => exact h.valid b q old v
    | inr new =>
      obtain ⟨rfl, rfl⟩ := new
      exact h.valid b p found (valid ▸ v)
  · obtain ⟨lt, rest⟩ := h.window scope s' c (inWindow scope s' c inside)
    exact ⟨created ▸ Nat.lt_succ_of_lt lt, rest⟩
  · cases there b q found' with
    | inl old =>
      obtain ⟨lt, rest⟩ := h.contexts b q old s' c has'
      exact ⟨created ▸ Nat.lt_succ_of_lt lt, rest⟩
    | inr new =>
      obtain ⟨rfl, rfl⟩ := new
      cases has s' c has' with
      | inl own =>
        refine ⟨created ▸ own.2 ▸ Nat.lt_succ_self _, fun _ b' mem => ?_⟩
        exact absurd (h.commits b' c mem).1 (own.2 ▸ Nat.lt_irrefl _)
      | inr old =>
        obtain ⟨lt, rest⟩ := h.contexts b p found s' c old.2
        exact ⟨created ▸ Nat.lt_succ_of_lt lt, fun v => rest (valid ▸ v)⟩
  · cases there b q found' with
    | inl old => exact h.keys b q old s' mem
    | inr new =>
      obtain ⟨rfl, rfl⟩ := new
      rw [inherited, used] at mem
      obtain ⟨c, has'⟩ := h.keys b p found s' mem
      exact ⟨c, keeps s' c has'⟩
  · cases there b q found' with
    | inl old =>
      have lt := (h.contexts b q old s' c has').1
      exact h.inherited b q old s' c mem has' (isValid c (Nat.ne_of_lt lt) v)
    | inr new =>
      obtain ⟨rfl, rfl⟩ := new
      rw [inherited] at mem
      obtain ⟨c', had⟩ := h.keys b p found s' (.inl mem)
      obtain rfl : c' = c := Option.some.inj ((keeps s' c' had).symm.trans has')
      have lt := (h.contexts b p found s' c' had).1
      exact h.inherited b p found s' c' mem had (isValid c' (Nat.ne_of_lt lt) v)
  · obtain ⟨lt, rest⟩ := h.commits b c mem
    exact ⟨created ▸ Nat.lt_succ_of_lt lt, rest⟩

lemma used_committed {p : Pending} {s : String} {c : Nat} (has : p.contexts[s]? = some c)
    (used : s ∈ p.used) (valid : w.isValid c = true) : (w.commitContexts p)[s]? = some c := by
  rw [World.commitContexts, Std.ExtTreeMap.getElem?_filter', Option.filter_eq_some_iff,
    Std.ExtTreeMap.getElem?_union, Option.or_eq_some_iff, Std.ExtTreeMap.getElem?_filter',
    Option.filter_eq_some_iff, decide_eq_true_eq]
  exact ⟨.inl ⟨has, used⟩, valid⟩

/-- A window is written: its contexts are those of the window before and used ones of a valid
    attempt. -/
lemma putWindow (h : Coherent w attempts commits epoch) {w₁ : World} (k : Keeps w w₁) {a : Nat} {p : Pending}
    (found : w.pending[a]? = some p) (valid : p.valid = true) (there : w₁.pending[a]? = some p) (expires : Nat) :
    Coherent (w₁.putWindow a p ⟨expires, w.commitContexts p⟩) attempts
      ((OrdMap.valueList (w.commitContexts p)).map (fun c => (a, c)) ++ commits) epoch := by
  have h₁ := h.keeps k
  have current : BeganIn attempts epoch a := h.valid a p found valid
  have commit : ∀ b c, (b, c) ∈
      (OrdMap.valueList (w.commitContexts p)).map (fun c => (a, c)) ++ commits →
      b = a ∧ (∃ s : String, (w.commitContexts p)[s]? = some c) ∨ (b, c) ∈ commits := by
    intro b c mem
    cases List.mem_append.1 mem with
    | inr old => exact .inr old
    | inl new =>
      obtain ⟨c', inside, eq⟩ := List.mem_map.1 new
      cases eq
      exact .inl ⟨rfl, OrdMap.mem_valueList.1 inside⟩
  have begins : ∀ {c : Nat}, (∀ b, (b, c) ∈ commits → BeganIn attempts epoch b) → ∀ b, (b, c) ∈
      (OrdMap.valueList (w.commitContexts p)).map (fun c => (a, c)) ++ commits →
      BeganIn attempts epoch b := by
    intro c old b mem
    cases commit b c mem with
    | inl new => exact new.1 ▸ current
    | inr mem => exact old b mem
  have fresh : ∀ (s : String) (c : Nat), (w.commitContexts p)[s]? = some c →
      c < w.created ∧ ∀ b, (b, c) ∈ commits → BeganIn attempts epoch b := by
    intro s c has
    cases (World.commitContexts_spec has).2 with
    | inl inside =>
      obtain ⟨lt, _, all⟩ := h.window p.scope s c inside
      exact ⟨lt, all⟩
    | inr own =>
      obtain ⟨lt, all⟩ := h.contexts a p found s c own.1
      exact ⟨lt, all valid⟩
  have pending : ∀ (b : Nat) (q : Pending),
      (w₁.putWindow a p ⟨expires, w.commitContexts p⟩).pending[b]? = some q →
      b = a ∧ q = { p with inherited := p.inherited ∪ p.used, committed := true } ∨
        w₁.pending[b]? = some q := by
    intro b q found
    rw [World.putWindow, OrdMap.get_insert] at found
    split at found
    case isTrue same => exact .inl ⟨same.symm, (Option.some.inj found).symm⟩
    case isFalse => exact .inr found
  refine ⟨fun b q found' => ?_, h₁.begun, fun b q found' v => ?_, fun scope s c inside => ?_,
    fun b q found' s c has => ?_, fun b q found' s mem => ?_, fun b q found' s c mem has v => ?_,
    fun b c mem => ?_⟩
  · cases pending b q found' with
    | inl new => exact new.1 ▸ h₁.number a p there
    | inr old => exact h₁.number b q old
  · cases pending b q found' with
    | inl new => exact new.1 ▸ current
    | inr old => exact h₁.valid b q old v
  · obtain ⟨window, found', has⟩ := inside
    rw [World.putWindow, OrdMap.get_insert] at found'
    split at found'
    case isTrue =>
      cases found'
      obtain ⟨lt, all⟩ := fresh s c has
      refine ⟨k.created ▸ lt, ⟨a, List.mem_append_left _ (List.mem_map.2 ⟨c, ?_, rfl⟩)⟩, begins all⟩
      exact OrdMap.mem_valueList.2 ⟨s, has⟩
    case isFalse =>
      obtain ⟨lt, ⟨b, mem⟩, all⟩ := h₁.window scope s c ⟨window, found', has⟩
      exact ⟨lt, ⟨b, List.mem_append_right _ mem⟩, begins all⟩
  · cases pending b q found' with
    | inl new =>
      obtain ⟨rfl, rfl⟩ := new
      obtain ⟨lt, all⟩ := h₁.contexts b p there s c has
      exact ⟨lt, fun v => begins (all v)⟩
    | inr old =>
      obtain ⟨lt, all⟩ := h₁.contexts b q old s c has
      exact ⟨lt, fun v => begins (all v)⟩
  · cases pending b q found' with
    | inr old => exact h₁.keys b q old s mem
    | inl new =>
      obtain ⟨rfl, rfl⟩ := new
      apply h₁.keys b p there s
      cases mem with
      | inl mem => exact Finset.mem_union.1 mem
      | inr used => exact .inr used
  · cases pending b q found' with
    | inr old =>
      obtain ⟨b', mem'⟩ := h₁.inherited b q old s c mem has v
      exact ⟨b', List.mem_append_right _ mem'⟩
    | inl new =>
      obtain ⟨rfl, rfl⟩ := new
      cases Finset.mem_union.1 mem with
      | inl mem =>
        obtain ⟨b', mem'⟩ := h₁.inherited b p there s c mem has v
        exact ⟨b', List.mem_append_right _ mem'⟩
      | inr used =>
        have inside := used_committed has used (k.isValid c v)
        exact ⟨b, List.mem_append_left _ (List.mem_map.2 ⟨c, OrdMap.mem_valueList.2 ⟨s, inside⟩, rfl⟩)⟩
  · cases commit b c mem with
    | inl new =>
      obtain ⟨rfl, s, has⟩ := new
      obtain ⟨begun, found', _⟩ := current
      exact ⟨k.created ▸ (fresh s c has).1, begun, found'⟩
    | inr old => exact h₁.commits b c old

lemma commit (h : Coherent w attempts commits epoch) {a now : Nat} {p : Pending} {oldest : String}
    (found : w.pending[a]? = some p) (eq : w.commit a p now oldest = some w') :
    Coherent w' attempts (Broker.committed w w' a ++ commits) epoch ∧
      ∀ b c, (b, c) ∈ Broker.committed w w' a → b = a ∧ BeganIn attempts epoch a := by
  have unchanged : w' = w → Coherent w' attempts (Broker.committed w w' a ++ commits) epoch ∧
      ∀ b c, (b, c) ∈ Broker.committed w w' a → b = a ∧ BeganIn attempts epoch a := by
    rintro rfl
    have none : Broker.committed w' w' a = [] := by rw [Broker.committed, if_pos rfl]
    rw [none]
    exact ⟨h, fun _ _ mem => absurd mem List.not_mem_nil⟩
  rw [World.commit] at eq
  split at eq
  case isTrue =>
    cases eq
    exact unchanged rfl
  case isFalse usable =>
    rw [Bool.or_eq_true, Bool.not_eq_true', not_or] at usable
    have valid : p.valid = true := Bool.not_eq_false _ ▸ usable.1
    dsimp only at eq
    split at eq
    case isTrue =>
      cases eq
      exact unchanged rfl
    case isFalse =>
      obtain ⟨w₁, evicted, rfl⟩ := Option.map_eq_some_iff.1 eq
      have k : Keeps w w₁ ∧ w.log.length ≤ w₁.log.length := by
        cases World.evict_spec evicted with
        | inl same =>
          subst same
          exact ⟨.refl _, Nat.le_refl _⟩
        | inr revoked =>
          rw [revoked.2]
          exact ⟨.revokeMatching _ _, Nat.le_succ _⟩
      have there := World.evict_pending evicted found
      have contexts : Broker.committed w (w₁.putWindow a p ⟨w.commitExpires p now, w.commitContexts p⟩) a
          = (OrdMap.valueList (w.commitContexts p)).map fun c => (a, c) := by
        have longer : w.log.length ≠
            (w₁.putWindow a p ⟨w.commitExpires p now, w.commitContexts p⟩).log.length :=
          Nat.ne_of_lt (Nat.lt_succ_of_le k.2)
        rw [Broker.committed, if_neg longer]
        simp only [World.putWindow, OrdMap.get_insert, if_true]
      rw [contexts]
      refine ⟨h.putWindow k.1 found valid there _, fun b c mem => ?_⟩
      obtain ⟨_, _, same⟩ := List.mem_map.1 mem
      cases same
      exact ⟨rfl, h.valid a p found valid⟩

end Coherent

/-! ### Reads -/

/-- The context that a read has selected is the one of its attempt for the selector, and a retained one
    was committed, if it was valid when the keychain was called. -/
def Selected (w : World) (commits : List (Nat × Nat)) (r : Reading) : Prop :=
  ∀ c retained, r.stage.context = some (c, retained) →
    (∀ p : Pending, w.pending[r.attempt]? = some p → ∀ c', p.contexts[r.selector]? = some c' →
      c' = c) ∧
    (retained = true → w.isValid c = true ∨ r.stage ≠ .selected c retained →
      ∃ b, (b, c) ∈ commits)

lemma Selected.keeps {w w' : World} {commits : List (Nat × Nat)} {r : Reading}
    (h : Selected w commits r) (k : Keeps w w') : Selected w' commits r := by
  intro c retained stage
  obtain ⟨same, approved⟩ := h c retained stage
  refine ⟨fun p' found c' has => ?_, fun eq past => approved eq (past.imp_left (k.isValid c))⟩
  obtain ⟨p, found, _, retains⟩ := k.pending _ p' found
  exact same p found c' (retains.contexts has)

lemma Selected.of_none {w : World} {commits : List (Nat × Nat)} {r : Reading}
    (none : r.stage.context = none) : Selected w commits r := by
  intro c retained stage
  rw [none] at stage
  cases stage

/-- What a section of a read leaves. -/
structure Proceeds (w w' : World) (attempts : OrdMap Nat Begun) (commits : List (Nat × Nat))
    (epoch t : Nat) (r : Reading) (valid : Bool) : Prop where
  coherent : Coherent w' attempts commits epoch
  others : ∀ t', t' ≠ t → w'.calls[t']? = w.calls[t']?
  read : ∀ call, w'.calls[t]? = some call → ∃ r', call = .read r' ∧ r'.attempt = r.attempt ∧
    r'.selector = r.selector ∧ Selected w' commits r' ∧
    ∀ c retained, r'.stage = .found c retained → r.stage = .calling c retained ∧ valid = true

lemma goto_get (w : World) (id : Nat) (call : Option Call) (b : Nat) :
    (w.goto id call).calls[b]? = if id = b then call else w.calls[b]? := by
  cases call with
  | none => exact OrdMap.get_erase w.calls id b
  | some call => exact OrdMap.get_insert w.calls id b call

section

variable {w w₁ : World} {attempts : OrdMap Nat Begun} {commits : List (Nat × Nat)}
  {epoch t : Nat} {r : Reading} {valid : Bool}

variable (w) in
lemma Proceeds.goto (h : Coherent w₁ attempts commits epoch) (calls : w₁.calls = w.calls)
    {call : Option Call} (new : ∀ call', call = some call' → ∃ r', call' = .read r' ∧
      r'.attempt = r.attempt ∧ r'.selector = r.selector ∧ Selected w₁ commits r' ∧
      ∀ c retained, r'.stage = .found c retained → r.stage = .calling c retained ∧ valid = true) :
    Proceeds w (w₁.goto t call) attempts commits epoch t r valid := by
  refine ⟨h.keeps (Keeps.goto t call), fun t' ne => ?_, fun call' found => ?_⟩
  · rw [goto_get, if_neg fun eq => ne eq.symm, calls]
  · rw [goto_get, if_pos rfl] at found
    obtain ⟨r', eq, attempt, selector, selected, rest⟩ := new call' found
    exact ⟨r', eq, attempt, selector, selected.keeps (Keeps.goto t call), rest⟩

variable (w) in
lemma Proceeds.done (h : Coherent w₁ attempts commits epoch) (calls : w₁.calls = w.calls) :
    Proceeds w (w₁.goto t none) attempts commits epoch t r valid :=
  .goto w h calls nofun

variable (w) in
lemma Proceeds.at (h : Coherent w₁ attempts commits epoch) (calls : w₁.calls = w.calls) {stage : Stage}
    (free : stage.context = none) : Proceeds w (w₁.goto t (r.at stage)) attempts commits epoch t r valid := by
  apply Proceeds.goto w h calls
  intro call eq
  refine ⟨{ r with stage }, (Option.some.inj eq).symm, rfl, rfl, .of_none free, ?_⟩
  intro c retained found
  have found : stage = .found c retained := found
  rw [found] at free
  cases free

variable (w) in
lemma Proceeds.ends (h : Coherent w₁ attempts commits epoch) (calls : w₁.calls = w.calls) (retained : Bool)
    (ending : Ending) : Proceeds w (w₁.goto t (r.ends retained ending)) attempts commits epoch t r valid := by
  unfold Reading.ends
  split
  case isTrue => exact .at w h calls rfl
  case isFalse =>
    cases ending with
    | returns => exact .done w h calls
    | fails => exact .at w h calls rfl

variable (w) in
lemma Proceeds.on (h : Coherent w₁ attempts commits epoch) (calls : w₁.calls = w.calls) (k : Keeps w w₁)
    (selected : Selected w commits r) {c : Nat} {retained : Bool} (old : r.stage.context = some (c, retained))
    {stage : Stage} (new : stage.context = some (c, retained))
    (past : w.isValid c = true ∨ r.stage ≠ .selected c retained)
    (found : ∀ c retained, stage = .found c retained → r.stage = .calling c retained ∧ valid = true) :
    Proceeds w (w₁.goto t (r.at stage)) attempts commits epoch t r valid := by
  apply Proceeds.goto w h calls
  intro call eq
  refine ⟨{ r with stage }, (Option.some.inj eq).symm, rfl, rfl, fun c' retained' stage' => ?_, found⟩
  cases new.symm.trans stage'
  obtain ⟨same, approved⟩ := selected.keeps k c retained old
  exact ⟨same, fun eq _ => (selected c retained old).2 eq past⟩

lemma selectContext_proceeds (h : Coherent w attempts commits epoch) {p : Pending} {created : Bool}
    (found : w.pending[r.attempt]? = some p) :
    Proceeds w (w.selectContext t r p created) attempts commits epoch t r valid := by
  rw [World.selectContext]
  split
  case isTrue => exact .done w h rfl
  case isFalse =>
    split
    case h_1 c has =>
      have k : Keeps w (w.setPending r.attempt { p with reading := insert r.selector p.reading }) :=
        .setPending found id (.of_eq rfl rfl rfl)
      refine Proceeds.goto w (h.keeps k) ?_ fun call eq => ?_
      · rfl
      refine ⟨_, (Option.some.inj eq).symm, rfl, rfl, fun c' retained stage => ?_, nofun⟩
      cases stage
      refine ⟨fun p' found' c' has' => ?_, fun inherited past => ?_⟩
      · rw [World.setPending_pending, if_pos rfl] at found'
        cases found'
        exact Option.some.inj (has'.symm.trans has)
      · cases past with
        | inl valid =>
          exact h.inherited r.attempt p found r.selector c (of_decide_eq_true inherited) has valid
        | inr past => exact absurd rfl past
    case h_2 absent =>
      split
      case isTrue => exact .done w h rfl
      case isFalse =>
        have created : Coherent { w.setPending r.attempt { p with
              reading := insert r.selector p.reading
              contexts := p.contexts.insert r.selector w.created } with
            created := w.created + 1
            isValid := fun c => c = w.created || w.isValid c
            owner := fun c => if c = w.created then p.scope else w.owner c } attempts commits
            epoch := by
          refine h.create { p with
              reading := insert r.selector p.reading
              contexts := p.contexts.insert r.selector w.created }
            found absent rfl rfl rfl rfl ?_ ?_ ?_ ?_ ?_
          · rfl
          · rfl
          · rfl
          · rfl
          · intro c ne valid
            rw [Bool.or_eq_true, decide_eq_true_eq] at valid
            exact valid.resolve_left ne
        refine Proceeds.goto w created ?_ fun call eq => ?_
        · rfl
        refine ⟨_, (Option.some.inj eq).symm, rfl, rfl, fun c' retained stage => ?_, nofun⟩
        cases stage
        refine ⟨fun p' found' c' has' => ?_, nofun⟩
        have found' : (w.setPending r.attempt { p with
              reading := insert r.selector p.reading
              contexts := p.contexts.insert r.selector w.created }).pending[r.attempt]? = some p' :=
          found'
        rw [World.setPending_pending, if_pos rfl] at found'
        cases found'
        rw [OrdMap.get_insert, if_pos rfl] at has'
        exact (Option.some.inj has').symm

lemma useContext_proceeds (h : Coherent w attempts commits epoch) {p : Pending} {retained : Bool}
    (found : w.pending[r.attempt]? = some p) :
    Proceeds w (w.useContext t r p retained) attempts commits epoch t r valid := by
  rw [World.useContext]
  dsimp only
  split
  case isTrue =>
    have k : Keeps w (w.setPending r.attempt { p with reading := p.reading.erase r.selector }) :=
      .setPending found id (.of_eq rfl rfl rfl)
    exact .ends w (h.keeps k) rfl _ _
  case isFalse usable =>
    rw [Bool.or_eq_true, decide_eq_true_eq, not_or, not_not] at usable
    have k : Keeps w (w.setPending r.attempt { p with
        reading := p.reading.erase r.selector, used := insert r.selector p.used }) := by
      refine .setPending found id (.inl ⟨rfl, rfl, fun s mem => ?_⟩)
      cases Finset.mem_insert.1 mem with
      | inr old => exact .inl old
      | inl new =>
        rw [new]
        exact .inr (Option.isSome_iff_exists.1 (Std.ExtTreeMap.mem_iff_isSome_getElem?.1 usable.2))
    exact (Proceeds.done w ((h.keeps k).keeps (.emit _)) rfl)

lemma proceedRead_proceeds (h : Coherent w attempts commits epoch) {p : Pending} {input : Approval.Input}
    (found : w.pending[r.attempt]? = some p) (selected : Selected w commits r) :
    Proceeds w (proceedRead w t r p input) attempts commits epoch t r input.valid := by
  have touched : ∀ p' : Pending, (p'.valid = true → p.valid = true) → Retains p p' →
      Coherent (w.setPending r.attempt p') attempts commits epoch :=
    fun p' valid retains => h.keeps (.setPending found valid retains)
  cases stage : r.stage with
  | entered =>
    simp only [proceedRead, stage]
    split
    case isTrue => exact .at w h rfl rfl
    case isFalse => exact .at w h rfl rfl
  | refused =>
    simp only [proceedRead, stage]
    exact .ends w h rfl _ _
  | marking ending =>
    simp only [proceedRead, stage]
    exact .ends w (touched { p with reuseFailed := true } id (.of_eq rfl rfl rfl)) rfl _ _
  | selecting =>
    simp only [proceedRead, stage]
    exact selectContext_proceeds h found
  | selected c retained =>
    simp only [proceedRead, stage]
    split
    case isTrue valid =>
      have on : Proceeds w (w.goto t (r.at (.calling c retained))) attempts commits epoch t r
          input.valid :=
        .on w h rfl (.refl w) selected (by rw [stage]; rfl) rfl (.inl valid) nofun
      refine ⟨on.coherent.keeps (.emit _), on.others, fun call found => ?_⟩
      obtain ⟨r', eq, attempt, selector, selected', rest⟩ := on.read call found
      exact ⟨r', eq, attempt, selector, selected'.keeps (.emit _), rest⟩
    case isFalse => exact .ends w h rfl _ _
  | calling c retained =>
    simp only [proceedRead, stage]
    split
    case isTrue => exact .ends w h rfl _ _
    case isFalse valid =>
      split
      case isTrue => exact .ends w h rfl _ _
      case isFalse =>
        split
        case h_1 =>
          apply Proceeds.on w h rfl (.refl w) selected (by rw [stage]; rfl) rfl (.inr _)
          · intro c' retained' eq
            cases eq
            exact ⟨stage, by simpa using valid⟩
          · rw [stage]
            nofun
        case h_2 =>
          split
          case isTrue => exact .at w h rfl rfl
          case isFalse => exact .done w h rfl
        case h_3 => exact .ends w h rfl _ _
  | found c retained =>
    simp only [proceedRead, stage]
    exact useContext_proceeds h found
  | failing =>
    simp only [proceedRead, stage]
    exact .at w (touched { p with reading := p.reading.erase r.selector } id (.of_eq rfl rfl rfl)) rfl
      rfl
  | revoking =>
    simp only [proceedRead, stage]
    exact .done w (h.keeps (.revokeMatching _ _)) rfl

/-- A value is returned under a retained approval in the section that records the use of the
    selected context. -/
lemma proceedRead_returned {p : Pending} {input : Approval.Input} {a : Nat} {scope s : String}
    (eq : (proceedRead w t r p input).log
      = .returned a scope s .retainedApproval :: w.log) :
    ∃ c, r.stage = .found c true ∧ r.attempt = a ∧ r.selector = s ∧ p.valid = true ∧
      ∃ c', p.contexts[s]? = some c' := by
  have same : ∀ {log : List Event}, log = w.log → log ≠ .returned a scope s .retainedApproval :: w.log := by
    rintro _ rfl h
    exact absurd (congrArg List.length h) (Nat.ne_of_lt (Nat.lt_succ_self _))
  cases stage : r.stage with
  | entered =>
    simp only [proceedRead, stage] at eq
    exact absurd eq (same rfl)
  | refused =>
    simp only [proceedRead, stage] at eq
    exact absurd eq (same rfl)
  | marking ending =>
    simp only [proceedRead, stage] at eq
    exact absurd eq (same rfl)
  | selecting =>
    simp only [proceedRead, stage] at eq
    apply absurd eq (same _)
    rw [World.selectContext]
    split
    case isTrue => rfl
    case isFalse =>
      split
      case h_1 => rfl
      case h_2 =>
        split
        case isTrue => rfl
        case isFalse => rfl
  | selected c retained =>
    simp only [proceedRead, stage] at eq
    split at eq
    case isTrue =>
      cases (List.cons.inj eq).1
    case isFalse => exact absurd eq (same rfl)
  | calling c retained =>
    simp only [proceedRead, stage] at eq
    apply absurd eq (same _)
    split
    case isTrue => rfl
    case isFalse =>
      split
      case isTrue => rfl
      case isFalse =>
        split
        case h_1 => rfl
        case h_2 => rfl
        case h_3 => rfl
  | found c retained =>
    simp only [proceedRead, stage] at eq
    rw [World.useContext] at eq
    dsimp only at eq
    split at eq
    case isTrue => exact absurd eq (same rfl)
    case isFalse usable =>
      rw [Bool.or_eq_true, decide_eq_true_eq, not_or, not_not, Bool.not_eq_true',
        Bool.not_eq_false] at usable
      have event := (List.cons.inj eq).1
      cases retained with
      | false =>
        rw [Reading.decision, if_neg Bool.false_ne_true, ReadDecision.fresh] at event
        split at event
        case isTrue => cases event
        case isFalse => cases event
      | true =>
        cases event
        exact ⟨c, rfl, rfl, rfl, usable.1,
          Option.isSome_iff_exists.1 (Std.ExtTreeMap.mem_iff_isSome_getElem?.1 usable.2)⟩
  | failing =>
    simp only [proceedRead, stage] at eq
    exact absurd eq (same rfl)
  | revoking =>
    simp only [proceedRead, stage] at eq
    cases (List.cons.inj eq).1

end

end Ctl.Keychain
