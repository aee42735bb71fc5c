import Ctl.Approval.Windows

/-!
# Revocation of approvals

A revocation is final: what belonged to its scopes stays invalid and out of the windows, and the
attempts that it has invalidated do nothing any more. A credential is returned under a retained approval
only if its selector was read for the same scope in an attempt that was then connected, without a
revocation of the scope since, in every run in which a read of a retained approval finds the context
that it has selected still in its attempt when it records the use. An attempt that discards its
contexts stays valid: when another read of it creates a context for the same selector before the
first one records its use, the first one still returns its credential.
-/

namespace Ctl.Approval
open Ctl.Base

namespace Event

def attempt : Event → Option Nat
  | .revoked _ _ _ => none
  | .called attempt => some attempt
  | .returned attempt _ _ _ => some attempt
  | .committed attempt _ => some attempt

def Revokes (scope : String) : Event → Prop
  | .revoked selection _ _ => selection.selects scope = true
  | _ => False

def Respects (later earlier : Event) : Prop :=
  ∀ selection attempts contexts, earlier = .revoked selection attempts contexts →
    ∀ attempt ∈ attempts, later.attempt ≠ some attempt

end Event

variable (log : List Event)

def ReadSince (attempt : Nat) (scope selector : String) : Prop :=
  ∃ later decision earlier, log = later ++ Event.returned attempt scope selector decision :: earlier ∧
    ∀ event ∈ later, ¬ event.Revokes scope

/-- The selector was read for the scope in an attempt that was then connected, and the scope was not
    revoked since. -/
def Approved (scope selector : String) : Prop :=
  ∃ later attempt earlier, log = later ++ Event.committed attempt scope :: earlier ∧
    (∀ event ∈ later, ¬ event.Revokes scope) ∧ ReadSince earlier attempt scope selector

/-- What was revoked is invalid and in no window, and the attempts that were invalidated do not call
    the keychain, return a credential or commit a window any more. -/
structure World.Final (w : World) : Prop where
  contexts : ∀ selection attempts contexts, Event.revoked selection attempts contexts ∈ w.log →
    ∀ c ∈ contexts, w.isValid c = false ∧ ∀ scope selector, ¬ w.InWindow scope selector c
  attempts : w.log.Pairwise Event.Respects

def RetainedApproved : Prop :=
  ∀ later attempt scope selector earlier,
    log = later ++ Event.returned attempt scope selector .retainedApproval :: earlier →
      Approved earlier scope selector

/-- A read of a retained approval that records its use finds the context that it has selected in its
    attempt, if the attempt is valid and has a context for the selector. -/
def usesSelected (w : World) : Action → Bool
  | .proceed id _ =>
    match w.calls[id]? with
    | some (.read ⟨attempt, selector, _, .found context true⟩) => (w.pending[attempt]?).all
      fun pending => !pending.valid || (pending.contexts[selector]?).all (· = context)
    | _ => true
  | _ => true

/-! ### The log -/

lemma ReadSince.cons {log : List Event} {a : Nat} {scope selector : String} (h : ReadSince log a scope selector)
    {event : Event} (other : ¬ event.Revokes scope) : ReadSince (event :: log) a scope selector := by
  obtain ⟨later, decision, earlier, rfl, kept⟩ := h
  refine ⟨event :: later, decision, earlier, rfl, fun e mem => ?_⟩
  cases mem with
  | head => exact other
  | tail _ mem => exact kept e mem

lemma Approved.cons {log : List Event} {scope selector : String} (h : Approved log scope selector)
    {event : Event} (other : ¬ event.Revokes scope) : Approved (event :: log) scope selector := by
  obtain ⟨later, a, earlier, rfl, kept, read⟩ := h
  refine ⟨event :: later, a, earlier, rfl, fun e mem => ?_, read⟩
  cases mem with
  | head => exact other
  | tail _ mem => exact kept e mem

lemma ReadSince.commit {log : List Event} {a : Nat} {scope selector : String} (h : ReadSince log a scope selector) :
    Approved (.committed a scope :: log) scope selector :=
  ⟨[], a, log, rfl, (by intros; contradiction), h⟩

lemma RetainedApproved.cons {log : List Event} (h : RetainedApproved log) {event : Event}
    (new : ∀ a scope selector, event = .returned a scope selector .retainedApproval →
      Approved log scope selector) : RetainedApproved (event :: log) := by
  intro later a scope selector earlier eq
  cases later with
  | nil =>
    obtain ⟨same, rfl⟩ := List.cons.inj eq
    exact new a scope selector same
  | cons e later =>
    obtain ⟨-, eq⟩ := List.cons.inj eq
    exact h later a scope selector earlier eq

/-! ### The invariant -/

def Stage.context : Stage → Option (Nat × Bool)
  | .selected context retained => some (context, retained)
  | .calling context retained => some (context, retained)
  | .found context retained => some (context, retained)
  | _ => none

/-- What an attempt knows: its number and contexts exist, what it has used was read since the last
    revocation, and what it has inherited is approved. -/
def PendingInv (w : World) (a : Nat) (p : Pending) : Prop :=
  a < w.next ∧
    (∀ (s : String) (c : Nat), p.contexts[s]? = some c → c < w.created ∧ w.owner c = p.scope) ∧
    (p.valid = true → ∀ s ∈ p.used, ReadSince w.log a p.scope s) ∧
    (p.valid = true → ∀ s ∈ p.inherited, Approved w.log p.scope s)

/-- What a read that has selected a context knows: while the context is valid it is in the attempt, and
    while it is there it is approved if it was inherited. -/
def ReadingInv (w : World) (r : Reading) (c : Nat) (retained : Bool) : Prop :=
  r.attempt < w.next ∧ c < w.created ∧ (w.isValid c = true → w.Holds r.attempt r.selector c) ∧
    (retained = true → ∀ p : Pending, w.pending[r.attempt]? = some p → p.valid = true →
      p.contexts[r.selector]? = some c → Approved w.log p.scope r.selector)

/-- What a revocation leaves behind. -/
def RevokedInv (w : World) (attempts contexts : List Nat) : Prop :=
  (∀ c ∈ contexts, c < w.created ∧ w.isValid c = false ∧
    ∀ scope selector, ¬ w.InWindow scope selector c) ∧
  ∀ a ∈ attempts, a < w.next ∧ ∀ p : Pending, w.pending[a]? = some p →
    p.valid = false ∧ ∀ (s : String) (c : Nat), p.contexts[s]? = some c → w.isValid c = false

/-- What holds in every state; the retained approvals are those of the runs that meet the
    condition. -/
structure Inv (strict : Prop) (w : World) : Prop where
  window : ∀ scope selector c, w.InWindow scope selector c →
    c < w.created ∧ w.owner c = scope ∧ Approved w.log scope selector
  pending : ∀ (a : Nat) (p : Pending), w.pending[a]? = some p → PendingInv w a p
  reading : ∀ (id : Nat) (r : Reading), w.calls[id]? = some (.read r) →
    ∀ c retained, r.stage.context = some (c, retained) → ReadingInv w r c retained
  revoked : ∀ selection attempts contexts, .revoked selection attempts contexts ∈ w.log →
    RevokedInv w attempts contexts
  respects : w.log.Pairwise Event.Respects
  retained : strict → RetainedApproved w.log

namespace Inv

variable {strict : Prop} {w w' : World} {a id c : Nat} {p : Pending} {r : Reading} {retained : Bool}
  {selection : Selection} {attempts contexts : List Nat} {window : Window}

lemma final (inv : Inv strict w) : w.Final where
  contexts selection attempts contexts mem c has :=
    ((inv.revoked selection attempts contexts mem).1 c has).2
  attempts := inv.respects

lemma not_barred (inv : Inv strict w) (found : w.pending[a]? = some p) (valid : p.valid = true)
    (mem : .revoked selection attempts contexts ∈ w.log) : a ∉ attempts := by
  intro barred
  rw [(((inv.revoked _ _ _ mem).2 a barred).2 p found).1] at valid
  cases valid

lemma narrow (inv : Inv strict w) (h : w.Narrows w') (log : w'.log = w.log) (calls : w'.calls = w.calls)
    (used : ∀ (a : Nat) (p p' : Pending), w.pending[a]? = some p → w'.pending[a]? = some p' →
      p'.used = p.used)
    (there : ∀ (id : Nat) (r : Reading) (p : Pending), w.calls[id]? = some (.read r) →
      w.pending[r.attempt]? = some p → ∃ p' : Pending, w'.pending[r.attempt]? = some p') : Inv strict w' := by
  have inWindow {scope selector : String} {c : Nat} (inside : w'.InWindow scope selector c) :
      w.InWindow scope selector c := by
    obtain ⟨window, found, has⟩ := inside
    obtain ⟨old, found', -, contexts⟩ := h.window scope window found
    exact ⟨old, found', contexts selector c has⟩
  have invalid {c : Nat} (invalid : w.isValid c = false) : w'.isValid c = false := by
    cases valid : w'.isValid c with
    | false => rfl
    | true =>
      rw [h.isValid c valid] at invalid
      cases invalid
  refine ⟨fun scope selector c inside => ?_, fun a p found => ?_,
    fun id r current c retained stage => ?_, fun selection attempts contexts mem => ?_, ?_, ?_⟩
  · rw [h.created, h.owner, log]
    exact inv.window scope selector c (inWindow inside)
  · obtain ⟨old, found', scope, -, contexts, inherited, valid⟩ := h.pending a p found
    obtain ⟨number, owned, read, approved⟩ := inv.pending a old found'
    refine ⟨h.next ▸ number, ?_, fun v => ?_, fun v => ?_⟩
    · rw [h.created, h.owner, scope, contexts]
      exact owned
    · rw [used a old p found' found, scope, log]
      exact read (valid v)
    · rw [inherited, scope, log]
      exact approved (valid v)
  · rw [calls] at current
    obtain ⟨number, created, held, approved⟩ := inv.reading id r current c retained stage
    refine ⟨h.next ▸ number, h.created ▸ created, fun valid => ?_, fun eq p found v has => ?_⟩
    · obtain ⟨p, found, has⟩ := held (h.isValid c valid)
      obtain ⟨p', found'⟩ := there id r p current found
      obtain ⟨old, found'', -, -, contexts, -⟩ := h.pending r.attempt p' found'
      cases found.symm.trans found''
      exact ⟨p', found', contexts ▸ has⟩
    · obtain ⟨old, found', scope, -, contexts, -, valid⟩ := h.pending r.attempt p found
      rw [scope, log]
      exact approved eq old found' (valid v) (contexts ▸ has)
  · rw [log] at mem
    obtain ⟨gone, barred⟩ := inv.revoked selection attempts contexts mem
    refine ⟨fun c mem => ?_, fun a mem => ?_⟩
    · obtain ⟨created, invalid', outside⟩ := gone c mem
      exact ⟨h.created ▸ created, invalid invalid', fun s t inside => outside s t (inWindow inside)⟩
    · obtain ⟨number, idle⟩ := barred a mem
      refine ⟨h.next ▸ number, fun p found => ?_⟩
      obtain ⟨old, found', -, -, contexts, -, valid⟩ := h.pending a p found
      obtain ⟨invalid', none⟩ := idle old found'
      refine ⟨?_, fun s c has => invalid (none s c (contexts ▸ has))⟩
      cases v : p.valid with
      | false => rfl
      | true =>
        rw [valid v] at invalid'
        cases invalid'
  · rw [log]
    exact inv.respects
  · rw [log]
    exact inv.retained

lemma goto (inv : Inv strict w) (id : Nat) (call : Option Call)
    (new : ∀ r, call = some (.read r) → ∀ c retained, r.stage.context = some (c, retained) →
      ReadingInv w r c retained) : Inv strict (w.goto id call) where
  window := inv.window
  pending := inv.pending
  reading b r found := by
    rcases World.goto_calls found with eq | old
    · exact new r eq
    · exact inv.reading b r old
  revoked := inv.revoked
  respects := inv.respects
  retained := inv.retained

lemma ends (inv : Inv strict w) (id : Nat) (r : Reading) (retained : Bool) (ending : Ending) :
    Inv strict (w.goto id (r.ends retained ending)) := by
  refine inv.goto id _ fun r' eq c retained' context => ?_
  cases retained <;> cases ending <;> cases eq <;> cases context

lemma emit (inv : Inv strict w) {event : Event} (mine : event.attempt = some a)
    (free : ∀ selection attempts contexts, .revoked selection attempts contexts ∈ w.log →
      a ∉ attempts)
    (approved : strict → ∀ a scope selector,
      event = .returned a scope selector .retainedApproval → Approved w.log scope selector) :
    Inv strict (w.emit event) := by
  have other (scope : String) : ¬ event.Revokes scope := by
    cases event with
    | revoked => cases mine
    | _ => exact fun h => h
  refine ⟨fun scope selector c inside => ?_, fun b p found => ?_,
    fun id r current c retained stage => ?_, fun selection attempts contexts mem => ?_, ?_,
    fun h => (inv.retained h).cons (approved h)⟩
  · obtain ⟨created, owner, before⟩ := inv.window scope selector c inside
    exact ⟨created, owner, before.cons (other scope)⟩
  · obtain ⟨number, owned, read, before⟩ := inv.pending b p found
    exact ⟨number, owned, fun v s mem => (read v s mem).cons (other _),
      fun v s mem => (before v s mem).cons (other _)⟩
  · obtain ⟨number, created, held, before⟩ := inv.reading id r current c retained stage
    exact ⟨number, created, held, fun eq p found v has => (before eq p found v has).cons (other _)⟩
  · cases mem with
    | head => cases mine
    | tail _ mem => exact inv.revoked selection attempts contexts mem
  · refine List.pairwise_cons.2 ⟨fun earlier mem selection attempts contexts eq b barred => ?_,
      inv.respects⟩
    subst eq
    rw [mine]
    rintro ⟨⟩
    exact free selection attempts contexts mem barred

lemma setPending (inv : Inv strict w) (ok : PendingInv w a p)
    (barred : ∀ selection attempts contexts, .revoked selection attempts contexts ∈ w.log →
      a ∈ attempts → p.valid = false ∧
        ∀ (s : String) (c : Nat), p.contexts[s]? = some c → w.isValid c = false)
    (readings : ∀ (id : Nat) (r : Reading), w.calls[id]? = some (.read r) → r.attempt = a →
      ∀ c retained, r.stage.context = some (c, retained) →
        (w.isValid c = true → p.contexts[r.selector]? = some c) ∧
        (retained = true → p.valid = true → p.contexts[r.selector]? = some c →
          Approved w.log p.scope r.selector)) : Inv strict (w.setPending a p) := by
  refine ⟨inv.window, fun b q found => ?_, fun id r current c retained stage => ?_,
    fun selection attempts contexts mem => ?_, inv.respects, inv.retained⟩
  · rw [World.setPending_pending] at found
    split at found
    · rename_i same
      cases found
      exact same ▸ ok
    · exact inv.pending b q found
  · obtain ⟨number, created, held, before⟩ := inv.reading id r current c retained stage
    by_cases mine : r.attempt = a
    · obtain ⟨held', before'⟩ := readings id r current mine c retained stage
      refine ⟨number, created, fun valid => ⟨p, ?_, held' valid⟩, fun eq q found => ?_⟩
      · rw [World.setPending_pending, if_pos mine.symm]
      · rw [World.setPending_pending, if_pos mine.symm] at found
        cases found
        exact before' eq
    · refine ⟨number, created, fun valid => ?_, fun eq q found => ?_⟩
      · obtain ⟨q, found, has⟩ := held valid
        refine ⟨q, ?_, has⟩
        rw [World.setPending_pending, if_neg fun h => mine h.symm]
        exact found
      · rw [World.setPending_pending, if_neg fun h => mine h.symm] at found
        exact before eq q found
  · obtain ⟨gone, idle⟩ := inv.revoked selection attempts contexts mem
    refine ⟨gone, fun b old => ⟨(idle b old).1, fun q found => ?_⟩⟩
    rw [World.setPending_pending] at found
    split at found
    · rename_i same
      cases found
      exact barred selection attempts contexts mem (same ▸ old)
    · exact (idle b old).2 q found

lemma touch (inv : Inv strict w) (found : w.pending[a]? = some p) (p' : Pending) (scope : p'.scope = p.scope)
    (expires : p'.expires = p.expires) (contexts : p'.contexts = p.contexts) (inherited : p'.inherited = p.inherited)
    (used : p'.used = p.used) (valid : p'.valid = true → p.valid = true) : Inv strict (w.setPending a p') := by
  refine inv.narrow (.setPending found scope expires contexts inherited valid) rfl rfl
    (fun b q q' there there' => ?_) (fun id r q current there => ?_)
  · rw [World.setPending_pending] at there'
    split at there'
    · rename_i same
      subst same
      cases there'
      cases found.symm.trans there
      exact used
    · cases there.symm.trans there'
      rfl
  · rw [World.setPending_pending]
    split
    · exact ⟨p', rfl⟩
    · exact ⟨q, there⟩

lemma invalidate (inv : Inv strict w) (contexts : List Nat) : Inv strict (w.invalidate contexts) :=
  inv.narrow (.invalidate contexts) rfl rfl (fun a p p' found found' => by
    cases found.symm.trans found'
    rfl) fun id r p _ found => ⟨p, found⟩

lemma expire (inv : Inv strict w) (now : Nat) : Inv strict (w.expire now) := by
  refine inv.narrow (.expire now) rfl rfl (fun a p p' found found' => ?_) fun id r p _ found => ?_
  · rw [World.expire_pending, found, Option.map_some] at found'
    cases found'
    split <;> rfl
  · rw [World.expire_pending, found]
    exact ⟨_, rfl⟩

lemma cancel (inv : Inv strict w) (found : w.pending[a]? = some p) : Inv strict (w.cancel a p) := by
  rw [World.cancel]
  split
  · exact inv
  · exact (inv.invalidate _).touch found _ rfl rfl rfl rfl rfl (by intros; contradiction)

lemma dropHandle (inv : Inv strict w)
    (unused : ∀ (id : Nat) (call : Call), w.calls[id]? = some call → call.attempt ≠ some a) :
    Inv strict (w.dropHandle a p) := by
  refine inv.narrow (.dropHandle a p) rfl rfl (fun b q q' found found' => ?_)
    (fun id r q current found => ⟨q, ?_⟩)
  · rw [World.dropHandle, OrdMap.get_erase] at found'
    split at found'
    · cases found'
    · cases found.symm.trans found'
      rfl
  · rw [World.dropHandle, OrdMap.get_erase, if_neg]
    · exact found
    · rintro rfl
      exact unused id _ current rfl

lemma beginAttempt (inv : Inv strict w) (scope : String) : Inv strict (w.beginAttempt scope) := by
  have numbered : Inv strict { w with next := w.next + 1 } := by
    refine ⟨inv.window, fun a p found => ?_, fun id r current c retained stage => ?_,
      fun selection attempts contexts mem => ?_, inv.respects, inv.retained⟩
    · obtain ⟨number, rest⟩ := inv.pending a p found
      exact ⟨Nat.lt_succ_of_lt number, rest⟩
    · obtain ⟨number, rest⟩ := inv.reading id r current c retained stage
      exact ⟨Nat.lt_succ_of_lt number, rest⟩
    · obtain ⟨gone, idle⟩ := inv.revoked selection attempts contexts mem
      exact ⟨gone, fun a old => ⟨Nat.lt_succ_of_lt (idle a old).1, (idle a old).2⟩⟩
  have inside {s : String} {c : Nat}
      (has : (((w.windows[scope]?).map (·.contexts)).getD ∅)[s]? = some c) :
      w.InWindow scope s c := by
    cases found : w.windows[scope]? with
    | none =>
      rw [found] at has
      cases has
    | some window =>
      rw [found] at has
      exact ⟨window, found, has⟩
  refine numbered.setPending ⟨Nat.lt_succ_self _, fun s c has => ?_, fun _ s mem => ?_,
    fun _ s mem => ?_⟩ (fun selection attempts contexts mem barred => ?_)
    (fun id r current mine c retained stage => ?_)
  · obtain ⟨created, owner, -⟩ := inv.window scope s c (inside has)
    exact ⟨created, owner⟩
  · cases mem
  · rw [List.mem_toFinset, Std.ExtTreeMap.mem_keys, Std.ExtTreeMap.mem_iff_isSome_getElem?] at mem
    obtain ⟨c, has⟩ := Option.isSome_iff_exists.1 mem
    exact (inv.window scope s c (inside has)).2.2
  · exact (Nat.lt_irrefl _ ((inv.revoked _ _ _ mem).2 _ barred).1).elim
  · have number := (inv.reading id r current c retained stage).1
    rw [mine] at number
    exact (Nat.lt_irrefl _ number).elim

lemma create (inv : Inv strict w) {a : Nat} {p : Pending} (found : w.pending[a]? = some p)
    (valid : p.valid = true) {s : String} (absent : p.contexts[s]? = none) (reading : Finset String) :
    Inv strict { w.setPending a { p with contexts := p.contexts.insert s w.created, reading } with
      created := w.created + 1
      isValid := fun c => c = w.created || w.isValid c
      owner := fun c => if c = w.created then p.scope else w.owner c } := by
  -- The cell exists before the attempt has it.
  have made : Inv strict { w with
      created := w.created + 1
      isValid := fun c => c = w.created || w.isValid c
      owner := fun c => if c = w.created then p.scope else w.owner c } := by
    have old {c : Nat} (lt : c < w.created) : (c = w.created || w.isValid c) = w.isValid c := by
      rw [decide_eq_false (Nat.ne_of_lt lt), Bool.false_or]
    refine ⟨fun scope s c inside => ?_, fun b q there => ?_, fun id r current c retained stage => ?_,
      fun selection attempts contexts mem => ?_, inv.respects, inv.retained⟩
    · obtain ⟨lt, owner, approved⟩ := inv.window scope s c inside
      exact ⟨Nat.lt_succ_of_lt lt, (if_neg (Nat.ne_of_lt lt)).trans owner, approved⟩
    · obtain ⟨number, owned, rest⟩ := inv.pending b q there
      refine ⟨number, fun s c has => ?_, rest⟩
      obtain ⟨lt, owner⟩ := owned s c has
      exact ⟨Nat.lt_succ_of_lt lt, (if_neg (Nat.ne_of_lt lt)).trans owner⟩
    · obtain ⟨number, lt, held, approved⟩ := inv.reading id r current c retained stage
      refine ⟨number, Nat.lt_succ_of_lt lt, fun valid => ?_, approved⟩
      exact held ((old lt).symm.trans valid)
    · obtain ⟨gone, idle⟩ := inv.revoked selection attempts contexts mem
      refine ⟨fun c mem => ?_, fun b barred => ⟨(idle b barred).1, fun q there => ?_⟩⟩
      · obtain ⟨lt, invalid, outside⟩ := gone c mem
        exact ⟨Nat.lt_succ_of_lt lt, (old lt).trans invalid, outside⟩
      · obtain ⟨invalid, none⟩ := (idle b barred).2 q there
        refine ⟨invalid, fun s c has => ?_⟩
        exact (old ((inv.pending b q there).2.1 s c has).1).trans (none s c has)
  obtain ⟨number, owned, read, approved⟩ := made.pending a p found
  refine made.setPending (p := { p with contexts := p.contexts.insert s w.created, reading })
    ⟨number, fun s' c has => ?_, read, approved⟩
    (fun selection attempts contexts mem barred => ?_)
    (fun id r current mine c retained stage => ?_)
  · rw [OrdMap.get_insert] at has
    split at has
    · cases has
      exact ⟨Nat.lt_succ_self _, if_pos rfl⟩
    · exact owned s' c has
  · exact (inv.not_barred found valid mem barred).elim
  · obtain ⟨-, lt, held, before⟩ := inv.reading id r current c retained stage
    subst mine
    rw [OrdMap.get_insert]
    split
    · -- The read has selected another context, which is not in the attempt any more.
      rename_i same
      subst same
      refine ⟨fun valid => ?_, fun _ _ eq => ?_⟩
      · simp only [Nat.ne_of_lt lt, decide_false, Bool.false_or] at valid
        obtain ⟨q, there, has⟩ := held valid
        cases found.symm.trans there
        rw [absent] at has
        cases has
      · cases eq
        exact (Nat.lt_irrefl _ lt).elim
    · refine ⟨fun valid => ?_, fun eq v has => before eq p found v has⟩
      simp only [Nat.ne_of_lt lt, decide_false, Bool.false_or] at valid
      obtain ⟨q, there, has⟩ := held valid
      cases found.symm.trans there
      exact has

lemma revokeMatching (inv : Inv strict w) (selection : Selection) (discarding : Option Nat) :
    Inv strict (w.revokeMatching selection discarding) := by
  have narrows : w.Narrows (w.revokeMatching selection discarding) := .revokeMatching _ _
  have invalid {c : Nat} (invalid : w.isValid c = false) :
      (w.revokeMatching selection discarding).isValid c = false := by
    cases valid : (w.revokeMatching selection discarding).isValid c with
    | false => rfl
    | true =>
      rw [narrows.isValid c valid] at invalid
      cases invalid
  have struck {c : Nat} (mem : c ∈ w.contextsOf selection.selects) :
      (w.revokeMatching selection discarding).isValid c = false := by
    cases valid : (w.revokeMatching selection discarding).isValid c with
    | false => rfl
    | true => exact ((World.invalidate_isValid.1 valid).2 mem).elim
  -- The scope of a context that belongs to a selected window or attempt is selected.
  have chosen {c : Nat} (mem : c ∈ w.contextsOf selection.selects) :
      c < w.created ∧ selection.selects (w.owner c) = true := by
    rcases World.mem_contextsOf.1 mem with ⟨scope, s, chosen, inside⟩ | ⟨a, s, p, found, chosen, has⟩
    · obtain ⟨lt, owner, -⟩ := inv.window scope s c inside
      exact ⟨lt, owner.symm ▸ chosen⟩
    · obtain ⟨lt, owner⟩ := (inv.pending a p found).2.1 s c has
      exact ⟨lt, owner.symm ▸ chosen⟩
  have valid_kept {a : Nat} {p : Pending}
      (found : (w.revokeMatching selection discarding).pending[a]? = some p) (v : p.valid = true) :
      w.pending[a]? = some p ∧ selection.selects p.scope = false := by
    rw [World.revokeMatching_pending, Option.map_eq_some_iff] at found
    obtain ⟨old, found, rfl⟩ := found
    split at v
    · cases v
    · rename_i kept
      rw [if_neg kept]
      exact ⟨found, Bool.eq_false_iff.2 kept⟩
  have kept {scope : String} (kept : selection.selects scope = false) (as cs : List Nat) :
      ¬ (Event.revoked selection as cs).Revokes scope := by
    rw [Event.Revokes, kept]
    exact nofun
  refine ⟨fun scope s c inside => ?_, fun a p found => ?_, fun id r current c retained stage => ?_,
    fun selection' attempts contexts mem => ?_, ?_, fun h => (inv.retained h).cons nofun⟩
  · obtain ⟨inside, other⟩ := World.revokeMatching_inWindow.1 inside
    obtain ⟨lt, owner, approved⟩ := inv.window scope s c inside
    exact ⟨lt, owner, approved.cons (kept other _ _)⟩
  · obtain ⟨old, found', scope, -, contexts, -⟩ := narrows.pending a p found
    obtain ⟨number, owned, -⟩ := inv.pending a old found'
    refine ⟨number, ?_, fun v s mem => ?_, fun v s mem => ?_⟩
    · rw [scope, contexts]
      exact owned
    · obtain ⟨there, other⟩ := valid_kept found v
      exact ((inv.pending a p there).2.2.1 v s mem).cons (kept other _ _)
    · obtain ⟨there, other⟩ := valid_kept found v
      exact ((inv.pending a p there).2.2.2 v s mem).cons (kept other _ _)
  · obtain ⟨number, lt, held, approved⟩ := inv.reading id r current c retained stage
    refine ⟨number, lt, fun valid => ?_, fun eq p found v has => ?_⟩
    · obtain ⟨p, found, has⟩ := held (narrows.isValid c valid)
      rw [World.Holds, World.revokeMatching_pending, found, Option.map_some]
      refine ⟨_, rfl, ?_⟩
      split <;> exact has
    · obtain ⟨there, other⟩ := valid_kept found v
      exact (approved eq p there v has).cons (kept other _ _)
  · cases mem with
    | head =>
      refine ⟨fun c mem => ⟨(chosen mem).1, struck mem, fun scope s inside => ?_⟩, fun a mem => ?_⟩
      · obtain ⟨inside, other⟩ := World.revokeMatching_inWindow.1 inside
        have owned := (chosen mem).2
        rw [(inv.window scope s c inside).2.1, other] at owned
        cases owned
      · obtain ⟨p, found, mine⟩ := World.mem_attemptsOf.1 (List.mem_filter.1 mem).1
        refine ⟨(inv.pending a p found).1, fun q there => ?_⟩
        rw [World.revokeMatching_pending, found, Option.map_some, if_pos mine] at there
        cases there
        exact ⟨rfl, fun s c has => struck (World.mem_contextsOf.2 (.inr ⟨a, s, p, found, mine, has⟩))⟩
    | tail _ mem =>
      obtain ⟨gone, idle⟩ := inv.revoked selection' attempts contexts mem
      refine ⟨fun c mem => ?_, fun a mem => ⟨(idle a mem).1, fun p found => ?_⟩⟩
      · obtain ⟨lt, invalid', outside⟩ := gone c mem
        exact ⟨lt, invalid invalid',
          fun scope s inside => outside scope s (World.revokeMatching_inWindow.1 inside).1⟩
      · obtain ⟨old, found', -, -, contexts, -, valid⟩ := narrows.pending a p found
        obtain ⟨invalid', none⟩ := (idle a mem).2 old found'
        refine ⟨?_, fun s c has => invalid (none s c (contexts ▸ has))⟩
        cases v : p.valid with
        | false => rfl
        | true =>
          rw [valid v] at invalid'
          cases invalid'
  · exact List.pairwise_cons.2 ⟨fun _ _ _ _ _ _ _ _ => nofun, inv.respects⟩

lemma discardCached (inv : Inv strict w) (found : w.pending[a]? = some p) : Inv strict (w.discardCached a p) := by
  unfold World.discardCached
  split
  case isFalse => exact inv
  case isTrue valid =>
    have revoked := inv.revokeMatching (.only p.scope) (some a)
    have mine : (Selection.only p.scope).selects p.scope = true := by simp [Selection.selects]
    refine revoked.setPending (a := a) ⟨(inv.pending a p found).1, (by intros; contradiction), (by intros; contradiction), (by intros; contradiction)⟩
      (fun selection attempts contexts mem barred => ?_)
      (fun id r current eq c retained stage => ⟨fun live => ?_, (by intros; contradiction)⟩)
    · cases mem with
      | head => simp at barred
      | tail _ mem => exact (inv.not_barred found valid mem barred).elim
    · -- The contexts of the attempt are invalid now.
      subst eq
      obtain ⟨-, -, held, -⟩ := inv.reading id r current c retained stage
      obtain ⟨before, untouched⟩ := World.invalidate_isValid.1 live
      obtain ⟨q, there, has⟩ := held before
      refine (untouched (World.mem_contextsOf.2 (.inr ⟨_, _, q, there, ?_, has⟩))).elim
      cases found.symm.trans there
      exact mine

lemma insertWindow (inv : Inv strict w) (scope : String)
    (ok : ∀ (s : String) (c : Nat), window.contexts[s]? = some c →
      w.isValid c = true ∧ c < w.created ∧ w.owner c = scope ∧ Approved w.log scope s)
    (committedAt : Nat → Option Nat) : Inv strict { w with windows := w.windows.insert scope window, committedAt } := by
  have inWindow {scope' s : String} {c : Nat}
      (inside : { w with windows := w.windows.insert scope window, committedAt }.InWindow scope' s c) :
      (scope = scope' ∧ window.contexts[s]? = some c) ∨ w.InWindow scope' s c := by
    obtain ⟨other, found, has⟩ := inside
    rw [OrdMap.get_insert] at found
    split at found
    · cases found
      exact .inl ⟨‹_›, has⟩
    · exact .inr ⟨other, found, has⟩
  refine ⟨fun scope' s c inside => ?_, inv.pending, inv.reading,
    fun selection attempts contexts mem => ?_, inv.respects, inv.retained⟩
  · rcases inWindow inside with ⟨rfl, has⟩ | inside
    · exact (ok s c has).2
    · exact inv.window scope' s c inside
  · obtain ⟨gone, idle⟩ := inv.revoked selection attempts contexts mem
    refine ⟨fun c mem => ?_, idle⟩
    obtain ⟨lt, invalid, outside⟩ := gone c mem
    refine ⟨lt, invalid, fun scope' s inside => ?_⟩
    rcases inWindow inside with ⟨rfl, has⟩ | inside
    · rw [(ok s c has).1] at invalid
      cases invalid
    · exact outside scope' s inside

lemma putWindow (inv : Inv strict w) (found : w.pending[a]? = some p) (valid : p.valid = true)
    (ok : ∀ (s : String) (c : Nat), window.contexts[s]? = some c → w.isValid c = true ∧
      c < w.created ∧ w.owner c = p.scope ∧ (Approved w.log p.scope s ∨ s ∈ p.used)) :
    Inv strict (w.putWindow a p window) := by
  have quiet (scope : String) : ¬ (Event.committed a p.scope).Revokes scope := fun h => h
  obtain ⟨number, owned, read, approved⟩ := inv.pending a p found
  have emitted : Inv strict (w.emit (.committed a p.scope)) := by
    refine inv.emit rfl (fun _ _ _ mem => inv.not_barred found valid mem) ?_
    exact fun _ _ _ _ => nofun
  have marked := emitted.setPending (a := a)
    (p := { p with inherited := p.inherited ∪ p.used, committed := true })
    ⟨number, owned, fun v s mem => (read v s mem).cons (quiet _), fun v s mem => ?_⟩
    (fun selection attempts contexts mem barred =>
      (((emitted.revoked _ _ _ mem).2 a barred).2 p found))
    (fun id r current mine c retained stage => ?_)
  · refine marked.insertWindow p.scope (fun s c has => ?_) _
    obtain ⟨live, lt, owner, old | new⟩ := ok s c has
    · exact ⟨live, lt, owner, old.cons (quiet _)⟩
    · exact ⟨live, lt, owner, (read valid s new).commit⟩
  · rcases Finset.mem_union.1 mem with old | new
    · exact (approved v s old).cons (quiet _)
    · exact (read v s new).commit
  · subst mine
    obtain ⟨-, -, held, before⟩ := emitted.reading id r current c retained stage
    refine ⟨fun live => ?_, fun eq v has => before eq p found v has⟩
    obtain ⟨q, there, has⟩ := held live
    cases found.symm.trans there
    exact has

lemma commit (inv : Inv strict w) (found : w.pending[a]? = some p) {now : Nat} {oldest : String}
    (h : w.commit a p now oldest = some w') : Inv strict w' := by
  rw [World.commit] at h
  split at h
  · cases h
    exact inv
  rename_i live
  dsimp only at h
  split at h
  · cases h
    exact inv
  obtain ⟨room, evicted, rfl⟩ := Option.map_eq_some_iff.1 h
  have valid : p.valid = true := by
    cases v : p.valid with
    | true => rfl
    | false => simp [v] at live
  have inv' : Inv strict room := by
    rcases World.evict_spec evicted with rfl | ⟨-, rfl⟩
    · exact inv
    · exact inv.revokeMatching _ _
  refine inv'.putWindow (World.evict_pending evicted found) valid fun s c has => ?_
  obtain ⟨live, source⟩ := World.commitContexts_spec has
  have owned : c < w.created ∧ w.owner c = p.scope ∧ (Approved w.log p.scope s ∨ s ∈ p.used) := by
    rcases source with inside | ⟨has, used⟩
    · obtain ⟨lt, owner, approved⟩ := inv.window p.scope s c inside
      exact ⟨lt, owner, .inl approved⟩
    · obtain ⟨lt, owner⟩ := (inv.pending a p found).2.1 s c has
      exact ⟨lt, owner, .inr used⟩
  obtain ⟨lt, owner, source⟩ := owned
  rcases World.evict_spec evicted with rfl | ⟨other, rfl⟩
  · exact ⟨live, lt, owner, source⟩
  · -- The contexts of another scope are evicted.
    have spared : (Selection.only oldest).selects p.scope = false := by
      simpa only [Selection.selects, decide_eq_false_iff_not] using other
    refine ⟨World.invalidate_isValid.2 ⟨live, fun mem => ?_⟩, lt, owner, source.imp_left fun old => ?_⟩
    · rcases World.mem_contextsOf.1 mem with ⟨scope, s', mine, inside⟩ | ⟨b, s', q, there, mine, has⟩
      · rw [← (inv.window scope s' c inside).2.1, owner, spared] at mine
        cases mine
      · rw [← ((inv.pending b q there).2.1 s' c has).2, owner, spared] at mine
        cases mine
    · refine old.cons ?_
      rw [Event.Revokes, spared]
      exact Bool.false_ne_true

lemma selectContext (inv : Inv strict w) (found : w.pending[r.attempt]? = some p) (id : Nat) (created : Bool) :
    Inv strict (w.selectContext id r p created) := by
  obtain ⟨number, owned, -, approved⟩ := inv.pending r.attempt p found
  unfold World.selectContext
  dsimp only
  split
  · exact inv.goto id _ nofun
  rename_i live
  have valid : p.valid = true := by simpa using live
  split
  · rename_i context has
    have touched := inv.touch found { p with reading := insert r.selector p.reading } rfl rfl rfl rfl
      rfl fun v => v
    have mine : (w.setPending r.attempt { p with reading := insert r.selector p.reading }).pending[
        r.attempt]? = some { p with reading := insert r.selector p.reading } := by
      rw [World.setPending_pending, if_pos rfl]
    refine touched.goto id _ fun r' eq c retained stage => ?_
    cases eq
    cases stage
    refine ⟨number, (owned r.selector context has).1, fun _ => ⟨_, mine, has⟩, fun retained q there => ?_⟩
    cases mine.symm.trans there
    exact fun v _ => approved v r.selector (of_decide_eq_true retained)
  · rename_i absent
    split
    · exact inv.goto id _ nofun
    · have made := inv.create found valid absent (insert r.selector p.reading)
      refine made.goto id _ fun r' eq c retained stage => ?_
      cases eq
      cases stage
      refine ⟨number, Nat.lt_succ_self _, fun _ => ⟨_, World.setPending_pending.trans (if_pos rfl), ?_⟩,
        nofun⟩
      rw [OrdMap.get_insert, if_pos rfl]

lemma useContext (inv : Inv strict w) (current : w.calls[id]? = some (.read r)) (stage : r.stage = .found c retained)
    (found : w.pending[r.attempt]? = some p)
    (same : strict → retained = true → p.valid = true → ∀ c' : Nat,
      p.contexts[r.selector]? = some c' → c' = c) : Inv strict (w.useContext id r p retained) := by
  obtain ⟨number, owned, read, approved⟩ := inv.pending r.attempt p found
  unfold World.useContext
  dsimp only
  split
  · refine (inv.touch found { p with reading := p.reading.erase r.selector } rfl rfl rfl rfl rfl ?_).ends
      id r retained .returns
    exact fun v => v
  rename_i live
  simp only [Bool.or_eq_true, Bool.not_eq_true', decide_eq_true_eq, not_or, Bool.not_eq_false,
    not_not] at live
  obtain ⟨valid, there⟩ := live
  obtain ⟨c', has⟩ := Option.isSome_iff_exists.1 (Std.ExtTreeMap.mem_iff_isSome_getElem?.1 there)
  obtain ⟨-, -, -, before⟩ := inv.reading id r current c retained (by rw [stage]; rfl)
  -- The use is recorded in the log before the attempt relies on it.
  have quiet (scope : String) :
      ¬ (Event.returned r.attempt p.scope r.selector (r.decision retained)).Revokes scope :=
    fun h => h
  have emitted : Inv strict
      (w.emit (.returned r.attempt p.scope r.selector (r.decision retained))) := by
    refine inv.emit rfl (fun _ _ _ mem => inv.not_barred found valid mem) fun h a scope selector eq => ?_
    obtain ⟨-, rfl, rfl, decision⟩ := Event.returned.inj eq
    cases retained with
    | true => exact before rfl p found valid (same h rfl valid c' has ▸ has)
    | false =>
      rw [Reading.decision, if_neg nofun, ReadDecision.fresh] at decision
      split at decision <;> cases decision
  have marked := emitted.setPending (a := r.attempt)
    (p := { p with reading := p.reading.erase r.selector, used := insert r.selector p.used })
    ⟨number, owned, fun v s mem => ?_, fun v s mem => (approved v s mem).cons (quiet _)⟩
    (fun selection attempts contexts mem barred =>
      (((emitted.revoked _ _ _ mem).2 _ barred).2 p found))
    (fun id' r' current' mine c₂ retained' stage' => ?_)
  · exact marked.goto id none nofun
  · rcases Finset.mem_insert.1 mem with rfl | old
    · exact ⟨[], r.decision retained, w.log, rfl, nofun⟩
    · exact (read v s old).cons (quiet _)
  · obtain ⟨-, -, held, before'⟩ := emitted.reading id' r' current' c₂ retained' stage'
    rw [mine] at held before'
    refine ⟨fun live => ?_, fun eq v has => before' eq p found v has⟩
    obtain ⟨q, there, has⟩ := held live
    cases found.symm.trans there
    exact has

lemma calls_free (inv : Inv strict w) (current : w.calls[id]? = some (.read r))
    (stage : r.stage.context = some (c, retained)) (live : w.isValid c = true)
    (mem : .revoked selection attempts contexts ∈ w.log) : r.attempt ∉ attempts := by
  intro barred
  obtain ⟨-, -, held, -⟩ := inv.reading id r current c retained stage
  obtain ⟨p, found, has⟩ := held live
  rw [(((inv.revoked _ _ _ mem).2 r.attempt barred).2 p found).2 r.selector c has] at live
  cases live

lemma goes_on (inv : Inv strict w) (current : w.calls[id]? = some (.read r))
    (stage : r.stage.context = some (c, retained)) {stage' : Stage} (same : stage'.context = some (c, retained)) :
    Inv strict (w.goto id (r.at stage')) := by
  refine inv.goto id _ fun r' eq c' retained' context => ?_
  cases eq
  cases same.symm.trans context
  exact inv.reading id r current c retained stage

lemma proceedRead (inv : Inv strict w) (current : w.calls[id]? = some (.read r))
    (found : w.pending[r.attempt]? = some p) (input : Input)
    (same : ∀ c, r.stage = .found c true → strict → p.valid = true → ∀ c' : Nat,
      p.contexts[r.selector]? = some c' → c' = c) : Inv strict (proceedRead w id r p input) := by
  unfold Approval.proceedRead
  cases stage : r.stage with
  | entered =>
    refine inv.goto id _ fun r' eq c retained context => ?_
    cases eq
    cases valid : input.valid with
    | true => simp [valid, Stage.context] at context
    | false => simp [valid, Stage.context] at context
  | refused => exact inv.ends id r _ _
  | marking ending =>
    refine (inv.touch found { p with reuseFailed := true } rfl rfl rfl rfl rfl ?_).ends id r _ _
    exact fun v => v
  | selecting => exact inv.selectContext found id input.created
  | selected context retained =>
    have selected : r.stage.context = some (context, retained) := by rw [stage]; rfl
    dsimp only
    split
    · rename_i live
      refine (inv.goes_on current selected rfl).emit rfl (fun _ _ _ mem => ?_) fun _ _ _ _ => nofun
      exact inv.calls_free current selected live mem
    · exact inv.ends id r _ _
  | calling context retained =>
    have selected : r.stage.context = some (context, retained) := by rw [stage]; rfl
    dsimp only
    split
    · exact inv.ends id r _ _
    split
    · exact inv.ends id r _ _
    cases input.result with
    | found => exact inv.goes_on current selected rfl
    | absent =>
      refine inv.goto id _ fun r' eq c retained' context => ?_
      cases retained <;> cases eq
      cases context
    | error => exact inv.ends id r _ _
  | found context retained =>
    refine inv.useContext current stage found fun h eq => ?_
    subst eq
    exact same context stage h
  | failing =>
    refine (inv.touch found { p with reading := p.reading.erase r.selector } rfl rfl rfl rfl rfl
      fun v => v).goto id _ fun r' eq c retained context => ?_
    cases eq
    cases context
  | revoking => exact (inv.revokeMatching _ _).goto id _ nofun

end Inv

variable {w : World} {strict : Prop}

lemma usesSelected_spec {id c : Nat} {input : Input} {r : Reading} {p : Pending}
    (current : w.calls[id]? = some (.read r)) (found : w.pending[r.attempt]? = some p)
    (ok : usesSelected w (.proceed id input) = true) (stage : r.stage = .found c true) (valid : p.valid = true)
    {c' : Nat} (has : p.contexts[r.selector]? = some c') : c' = c := by
  obtain ⟨a, selector, interactive, stage'⟩ := r
  cases stage
  simpa only [usesSelected, current, found, Option.all_some, valid, Bool.not_true, Bool.false_or, has,
    decide_eq_true_eq] using ok

lemma step_inv {w' : World} {action : Action} (inv : Inv strict w) (ok : strict → usesSelected w action = true)
    (h : step w action = some w') : Inv strict w' := by
  cases action with
  | tick now =>
    simp only [step] at h
    split at h
    · cases h
      exact ⟨inv.window, inv.pending, inv.reading, inv.revoked, inv.respects, inv.retained⟩
    · cases h
  | lapse context =>
    cases h
    exact inv.invalidate _
  | begin id scope now =>
    simp only [step] at h
    split at h
    · cases h
      exact (inv.expire now).goto id _ nofun
    · cases h
  | connected id attempt now =>
    simp only [step] at h
    split at h
    · cases h
      exact (inv.expire now).goto id _ nofun
    · cases h
  | read id attempt selector interactive =>
    simp only [step] at h
    split at h
    · cases h
      refine inv.goto id _ fun r eq c retained context => ?_
      cases eq
      cases context
    · cases h
  | proceed id input =>
    simp only [step] at h
    split at h
    · cases h
    · rename_i call current
      cases call with
      | begin scope =>
        cases h
        exact (inv.beginAttempt scope).goto id _ nofun
      | connected a now =>
        simp only [proceed] at h
        split at h
        · cases h
        · rename_i p found
          obtain ⟨next, committed, rfl⟩ := Option.map_eq_some_iff.1 h
          exact (inv.commit found committed).goto id _ nofun
      | read r =>
        simp only [proceed] at h
        split at h
        · cases h
        · rename_i p found
          cases h
          exact inv.proceedRead current found input fun c stage h valid c' has =>
            usesSelected_spec current found (ok h) stage valid has
  | cancel a =>
    obtain ⟨p, found, rfl⟩ := Option.map_eq_some_iff.1 h
    exact inv.cancel found
  | discardCached a =>
    obtain ⟨p, found, rfl⟩ := Option.map_eq_some_iff.1 h
    exact inv.discardCached found
  | drop a =>
    simp only [step] at h
    split at h
    · cases h
    · rename_i unused
      obtain ⟨p, found, rfl⟩ := Option.map_eq_some_iff.1 h
      refine inv.dropHandle fun id call current eq => unused ?_
      exact List.any_eq_true.2 ⟨call, OrdMap.mem_valueList.2 ⟨id, current⟩, decide_eq_true eq⟩
  | revoke selection =>
    cases h
    exact inv.revokeMatching _ _
  | expire now =>
    simp only [step] at h
    split at h
    · cases h
      exact inv.expire now
    · cases h

lemma initial_inv (init : Initial w) : Inv strict w := by
  obtain ⟨clock, rfl⟩ := init
  refine ⟨fun scope s c inside => ?_, nofun, nofun, nofun, .nil, fun _ later a scope s earlier eq => ?_⟩
  · obtain ⟨window, found, -⟩ := inside
    cases found
  · cases later <;> cases eq

end Ctl.Approval
