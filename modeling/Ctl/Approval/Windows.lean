import Mathlib.Data.Finset.Basic
import Mathlib.Data.Finset.Dedup
import Ctl.Base.System
import Ctl.Base.OrdMap

/-!
# Approval windows

Model of `ctl/daemon/src/reconnect_approval.rs` as a transition system whose steps are the sections
under the lock of the registry. A context is the number of a cell with a validity bit, which nothing
sets again; a context may also lapse by itself. A credential read is under way while other sections
run: it selects its context, checks it and calls the keychain, checks it again when the keychain has
answered, and then records the use. The check and the call right after it are one step. Attempts are
dropped when no call on them is under way.

The log is a ghost: the revocations with what belonged to their scopes, the calls of the keychain, the
credentials returned and the commits, from the latest to the earliest.
-/

namespace Ctl.Approval
open Ctl.Base

/-- How long an approval lasts, in nanoseconds (Rust `WINDOW`). -/
def WINDOW : Nat := 24 * 60 * 60 * 1000000000

/-- Rust `MAX_HOSTS`. -/
def MAX_HOSTS : Nat := 128

/-- Rust `MAX_CONTEXTS`. -/
def MAX_CONTEXTS : Nat := 64

/-- The policy of a read (Rust `ReadDecision`). -/
inductive ReadDecision
  | freshInteractive
  | freshQuiet
  | retainedApproval
  deriving DecidableEq

/-- Rust `ReadDecision::fresh`. -/
def ReadDecision.fresh (interactive : Bool) : ReadDecision :=
  if interactive then .freshInteractive else .freshQuiet

/-- The contexts of a scope that connections were made with (Rust `Window`). -/
structure Window where
  expires : Nat
  contexts : OrdMap String Nat

/-- A connection attempt (Rust `Pending`). -/
structure Pending where
  scope : String
  valid : Bool
  expires : Option Nat
  contexts : OrdMap String Nat
  inherited : Finset String
  used : Finset String
  reading : Finset String
  reuseFailed : Bool
  committed : Bool

def Pending.expired (pending : Pending) (now : Nat) : Bool :=
  pending.expires.any fun expires => now ≥ expires

/-- The scopes that a revocation is about: those of `revoke`, `revoke_prefix` and `select_scope`. -/
inductive Selection
  | all
  | only (name : String)
  | startsWith (start : String)
  | others (start : String) (current : Option String)
  deriving DecidableEq

/-- The predicate that `revoke_matching` is called with. -/
def Selection.selects : Selection → String → Bool
  | .all, _ => true
  | .only scope, name => scope = name
  | .startsWith start, name => start.toList.isPrefixOf name.toList
  | .others start current, name => start.toList.isPrefixOf name.toList && some name ≠ current

/-- What happens in a run. -/
inductive Event
  /-- The scopes are revoked, with the attempts that this invalidates and the contexts that belong to
      their windows and attempts. -/
  | revoked (selection : Selection) (attempts contexts : List Nat)
  /-- A read of the attempt calls the keychain. -/
  | called (attempt : Nat)
  /-- A read of the attempt returns a credential. -/
  | returned (attempt : Nat) (scope selector : String) (decision : ReadDecision)
  /-- The attempt commits the window of its scope. -/
  | committed (attempt : Nat) (scope : String)
  deriving DecidableEq

/-- How a read goes on after `mark_reuse_failed`. -/
inductive Ending
  | returns
  | fails
  deriving DecidableEq

/-- Where a read is: the section that it takes next. -/
inductive Stage
  | entered
  /-- The connection is not valid any more. -/
  | refused
  | marking (ending : Ending)
  | selecting
  | selected (context : Nat) (retained : Bool)
  | calling (context : Nat) (retained : Bool)
  /-- The keychain has found the credential, and the context is still valid. -/
  | found (context : Nat) (retained : Bool)
  | failing
  | revoking
  deriving DecidableEq

structure Reading where
  attempt : Nat
  selector : String
  interactive : Bool
  stage : Stage
  deriving DecidableEq

/-- A call that is under way between two sections. -/
inductive Call
  | begin (scope : String)
  | connected (attempt now : Nat)
  | read (reading : Reading)

def Call.attempt : Call → Option Nat
  | .begin _ => none
  | .connected attempt _ => some attempt
  | .read reading => some reading.attempt

/-- The registry with the contexts, the calls that are under way and the clock. -/
structure World where
  next : Nat
  windows : OrdMap String Window
  pending : OrdMap Nat Pending
  /-- The number of contexts that were created. -/
  created : Nat
  isValid : Nat → Bool
  /-- Ghost: the scope that a context was created for. -/
  owner : Nat → String
  /-- Ghost: when a context was committed for the first time. -/
  committedAt : Nat → Option Nat
  calls : OrdMap Nat Call
  clock : Nat
  log : List Event

namespace World

/-- Rust `invalidate`. -/
def invalidate (w : World) (contexts : List Nat) : World :=
  { w with isValid := fun context => w.isValid context && context ∉ contexts }

def attemptsOf (w : World) (scopes : String → Bool) : OrdMap Nat Pending :=
  w.pending.filter fun _ pending => scopes pending.scope

def contextsOf (w : World) (scopes : String → Bool) : List Nat :=
  (OrdMap.valueList (w.windows.filter fun name _ => scopes name)).flatMap
      (OrdMap.valueList ·.contexts) ++
    (OrdMap.valueList (w.attemptsOf scopes)).flatMap (OrdMap.valueList ·.contexts)

/-- Rust `revoke_matching`. An attempt that discards its contexts is valid again afterwards. -/
def revokeMatching (w : World) (selection : Selection) (discarding : Option Nat) : World :=
  { w.invalidate (w.contextsOf selection.selects) with
    windows := w.windows.filter fun name _ => !selection.selects name
    pending := w.pending.map fun _ pending =>
      if selection.selects pending.scope then { pending with valid := false } else pending
    log := .revoked selection
      ((w.attemptsOf selection.selects).keys.filter fun attempt => some attempt ≠ discarding)
      (w.contextsOf selection.selects) :: w.log }

/-- The window after `expire` has dropped its invalid contexts, unless it is over. -/
def unexpired (w : World) (now : Nat) (window : Window) : Option Window :=
  let contexts := window.contexts.filter fun _ context => w.isValid context
  if contexts.isEmpty then none
  else if now ≥ window.expires then none
  else some { window with contexts }

/-- Rust `expire`. -/
def expire (w : World) (now : Nat) : World :=
  let windows := w.windows.filter fun _ window => now ≥ window.expires
  let pending := w.pending.filter fun _ pending => pending.expired now
  { w.invalidate ((OrdMap.valueList windows).flatMap (OrdMap.valueList ·.contexts) ++
      (OrdMap.valueList pending).flatMap (OrdMap.valueList ·.contexts)) with
    windows := w.windows.filterMap fun _ => w.unexpired now
    pending := w.pending.map fun _ pending =>
      if pending.expired now then { pending with valid := false } else pending }

/-- The section of `begin` after `expire`. -/
def beginAttempt (w : World) (scope : String) : World :=
  let window := w.windows[scope]?
  let contexts := (window.map (·.contexts)).getD ∅
  { w with
    next := w.next + 1
    pending := w.pending.insert w.next
      { scope, valid := true, expires := window.map (·.expires), contexts
        inherited := contexts.keys.toFinset, used := ∅, reading := ∅, reuseFailed := false
        committed := false } }

/-- Rust `discard_cached`. -/
def discardCached (w : World) (attempt : Nat) (pending : Pending) : World :=
  if pending.valid then
    let w := w.revokeMatching (.only pending.scope) (some attempt)
    { w with
      pending := w.pending.insert attempt
        { pending with
          contexts := ∅, inherited := ∅, used := ∅, reading := ∅, reuseFailed := false
          expires := none, committed := false, valid := true } }
  else w

/-- The contexts that `cancel` invalidates: those in use and those that are not in the window. -/
def canceledContexts (w : World) (pending : Pending) : List Nat :=
  OrdMap.valueList (pending.contexts.filter fun name context =>
    name ∈ pending.reading ||
      !(w.windows[pending.scope]?).any fun window => window.contexts[name]? = some context)

/-- Rust `cancel`. -/
def cancel (w : World) (attempt : Nat) (pending : Pending) : World :=
  if pending.committed then w
  else { w.invalidate (w.canceledContexts pending) with
    pending := w.pending.insert attempt { pending with valid := false } }

def droppedContexts (w : World) (pending : Pending) : List Nat :=
  (OrdMap.valueList pending.contexts).filter fun context =>
    !(OrdMap.valueList w.windows).any fun window => context ∈ OrdMap.valueList window.contexts

/-- The last handle of an attempt is dropped (Rust `Handle::drop`). -/
def dropHandle (w : World) (attempt : Nat) (pending : Pending) : World :=
  { w.invalidate (w.droppedContexts pending) with pending := w.pending.erase attempt }

/-- The deadline of a commit: that of the attempt or of the window, whichever is earlier. -/
def commitExpires (w : World) (pending : Pending) (now : Nat) : Nat :=
  (pending.expires.toList ++ ((w.windows[pending.scope]?).map (·.expires)).toList).min?.getD
    (now + WINDOW)

def commitContexts (w : World) (pending : Pending) : OrdMap String Nat :=
  (((w.windows[pending.scope]?).map (·.contexts)).getD ∅ ∪
    pending.contexts.filter fun name _ => name ∈ pending.used).filter
      fun _ context => w.isValid context

def oldest (w : World) (name : String) : Bool :=
  (w.windows[name]?).any fun window =>
    (OrdMap.valueList w.windows).all fun other => window.expires ≤ other.expires

def evict (w : World) (scope oldest : String) : Option World :=
  if scope ∉ w.windows ∧ MAX_HOSTS ≤ w.windows.size then
    if w.oldest oldest then some (w.revokeMatching (.only oldest) none) else none
  else some w

def firstCommits (w : World) (contexts : OrdMap String Nat) (context : Nat) : Option Nat :=
  if context ∈ OrdMap.valueList contexts then (w.committedAt context).or (some w.clock)
  else w.committedAt context

def putWindow (w : World) (attempt : Nat) (pending : Pending) (window : Window) : World :=
  { w with
    windows := w.windows.insert pending.scope window
    pending := w.pending.insert attempt
      { pending with inherited := pending.inherited ∪ pending.used, committed := true }
    committedAt := w.firstCommits window.contexts
    log := .committed attempt pending.scope :: w.log }

/-- The section of `connected` after `expire`. -/
def commit (w : World) (attempt : Nat) (pending : Pending) (now : Nat) (oldest : String) : Option World :=
  if !pending.valid || pending.used = ∅ then some w else
  let expires := w.commitExpires pending now
  let contexts := w.commitContexts pending
  if contexts.isEmpty then some w else
  (w.evict pending.scope oldest).map (·.putWindow attempt pending { expires, contexts })

def goto (w : World) (id : Nat) (call : Option Call) : World :=
  { w with
    calls := match call with
      | some call => w.calls.insert id call
      | none => w.calls.erase id }

def emit (w : World) (event : Event) : World := { w with log := event :: w.log }

def setPending (w : World) (attempt : Nat) (pending : Pending) : World :=
  { w with pending := w.pending.insert attempt pending }

end World

variable (reading : Reading) (id : Nat)

def Reading.at (stage : Stage) : Option Call := some (.read { reading with stage })

/-- The read goes on with `mark_reuse_failed`, which is a section for a retained approval only. -/
def Reading.ends (retained : Bool) (ending : Ending) : Option Call :=
  if retained then reading.at (.marking ending)
  else match ending with
    | .returns => none
    | .fails => reading.at .failing

def Reading.decision (retained : Bool) : ReadDecision :=
  if retained then .retainedApproval else .fresh reading.interactive

/-- What the keychain answers. -/
inductive Result
  | found
  | absent
  | error
  deriving DecidableEq

/-- What a section depends on besides the registry: whether the connection is still valid, whether a
    context can be created, what the keychain answers, and which of the oldest windows comes first. -/
structure Input where
  valid : Bool
  created : Bool
  result : Result
  oldest : String
  deriving DecidableEq

/-- The section of `Attempt::context`. -/
def World.selectContext (w : World) (id : Nat) (reading : Reading) (pending : Pending) (created : Bool) : World :=
  let selecting := { pending with reading := insert reading.selector pending.reading }
  if !pending.valid then w.goto id none else
  match pending.contexts[reading.selector]? with
  | some context =>
    (w.setPending reading.attempt selecting).goto id
      (reading.at (.selected context (reading.selector ∈ pending.inherited)))
  | none =>
    if MAX_CONTEXTS ≤ pending.contexts.size || !created then w.goto id none
    else
      { w.setPending reading.attempt
          { selecting with contexts := pending.contexts.insert reading.selector w.created } with
        created := w.created + 1
        isValid := fun context => context = w.created || w.isValid context
        owner := fun context => if context = w.created then pending.scope else w.owner context
      }.goto id (reading.at (.selected w.created false))

/-- The section of `used`; the credential is returned if it succeeds. -/
def World.useContext (w : World) (id : Nat) (reading : Reading) (pending : Pending) (retained : Bool) : World :=
  let pending := { pending with reading := pending.reading.erase reading.selector }
  if !pending.valid || reading.selector ∉ pending.contexts then
    (w.setPending reading.attempt pending).goto id (reading.ends retained .returns)
  else
    ((w.setPending reading.attempt
        { pending with used := insert reading.selector pending.used }).goto id none).emit
      (.returned reading.attempt pending.scope reading.selector (reading.decision retained))

def proceedRead (w : World) (id : Nat) (reading : Reading) (pending : Pending) (input : Input) : World :=
  match reading.stage with
  | .entered => w.goto id (reading.at (if input.valid then .selecting else .refused))
  | .refused => w.goto id (reading.ends (reading.selector ∈ pending.inherited) .returns)
  | .marking ending =>
    (w.setPending reading.attempt { pending with reuseFailed := true }).goto id
      (reading.ends false ending)
  | .selecting => w.selectContext id reading pending input.created
  | .selected context retained =>
    if w.isValid context then
      (w.goto id (reading.at (.calling context retained))).emit (.called reading.attempt)
    else w.goto id (reading.ends retained .fails)
  | .calling context retained =>
    if !input.valid then w.goto id (reading.ends retained .returns)
    else if !w.isValid context then w.goto id (reading.ends retained .fails)
    else match input.result with
      | .found => w.goto id (reading.at (.found context retained))
      | .absent => w.goto id (if retained then reading.at (.marking .fails) else none)
      | .error => w.goto id (reading.ends retained .fails)
  | .found _ retained => w.useContext id reading pending retained
  | .failing =>
    (w.setPending reading.attempt
      { pending with reading := pending.reading.erase reading.selector }).goto id
        (reading.at .revoking)
  -- The scope of an attempt, which `revoke` reads in a section of its own, never changes.
  | .revoking => (w.revokeMatching (.only pending.scope) none).goto id none

def proceed (w : World) (id : Nat) (call : Call) (input : Input) : Option World :=
  match call with
  | .begin scope => some ((w.beginAttempt scope).goto id none)
  | .connected attempt now =>
    match w.pending[attempt]? with
    | none => none
    | some pending => (w.commit attempt pending now input.oldest).map (·.goto id none)
  | .read reading =>
    match w.pending[reading.attempt]? with
    | none => none
    | some pending => some (proceedRead w id reading pending input)

/-- The calls of the clients, the sections that follow, and what happens by itself. -/
inductive Action
  | tick (now : Nat)
  /-- A context becomes invalid by itself. -/
  | lapse (context : Nat)
  | begin (id : Nat) (scope : String) (now : Nat)
  | connected (id attempt now : Nat)
  | read (id attempt : Nat) (selector : String) (interactive : Bool)
  | proceed (id : Nat) (input : Input)
  | cancel (attempt : Nat)
  | discardCached (attempt : Nat)
  | drop (attempt : Nat)
  | revoke (selection : Selection)
  | expire (now : Nat)
  deriving DecidableEq

def step (w : World) : Action → Option World
  | .tick now => if w.clock ≤ now then some { w with clock := now } else none
  | .lapse context => some (w.invalidate [context])
  | .begin id scope now =>
    if now ≤ w.clock ∧ id ∉ w.calls then some ((w.expire now).goto id (some (.begin scope))) else none
  | .connected id attempt now =>
    if now ≤ w.clock ∧ id ∉ w.calls ∧ attempt ∈ w.pending then
      some ((w.expire now).goto id (some (.connected attempt now)))
    else none
  | .read id attempt selector interactive =>
    if id ∉ w.calls ∧ attempt ∈ w.pending then
      some (w.goto id (some (.read ⟨attempt, selector, interactive, .entered⟩)))
    else none
  | .proceed id input =>
    match w.calls[id]? with
    | none => none
    | some call => proceed w id call input
  | .cancel attempt => (w.pending[attempt]?).map fun pending => w.cancel attempt pending
  | .discardCached attempt => (w.pending[attempt]?).map fun pending => w.discardCached attempt pending
  | .drop attempt =>
    if (OrdMap.valueList w.calls).any fun call => call.attempt = some attempt then none
    else (w.pending[attempt]?).map fun pending => w.dropHandle attempt pending
  | .revoke selection => some (w.revokeMatching selection none)
  | .expire now => if now ≤ w.clock then some (w.expire now) else none

/-- An empty registry (Rust `Windows::default`). -/
def initial (clock : Nat) : World :=
  ⟨0, ∅, ∅, 0, fun _ => false, fun _ => "", fun _ => none, ∅, clock, []⟩

/-- A registry that was just created. -/
def Initial (w : World) : Prop := ∃ clock, w = initial clock

def Action.next : Action := .proceed id ⟨true, true, .found, ""⟩

/-- A new attempt for the scope `h`. -/
def begun (now : Nat) : List Action := [.begin id "h" now, .next id]

/-- A read of the selector `k` up to the answer of the keychain, which finds the credential. -/
def answered (attempt : Nat) : List Action :=
  .read id attempt "k" false :: List.replicate 4 (.next id)

namespace World

variable {w : World} {a c : Nat} {b now : Nat} {scopes : String → Bool} {selection : Selection}
  {discarding : Option Nat} {scope : String}

def InWindow (w : World) (scope selector : String) (context : Nat) : Prop :=
  ∃ window : Window, w.windows[scope]? = some window ∧ window.contexts[selector]? = some context

def Holds (w : World) (attempt : Nat) (selector : String) (context : Nat) : Prop :=
  ∃ pending : Pending, w.pending[attempt]? = some pending ∧
    pending.contexts[selector]? = some context

lemma goto_calls {id : Nat} {call : Option Call} {other : Call} (found : (w.goto id call).calls[b]? = some other) :
    call = some other ∨ w.calls[b]? = some other := by
  cases call with
  | none =>
    simp only [goto, OrdMap.get_erase] at found
    split at found
    · cases found
    · exact .inr found
  | some call =>
    simp only [goto, OrdMap.get_insert] at found
    split at found
    · exact .inl found
    · exact .inr found

lemma setPending_pending {p : Pending} : (w.setPending a p).pending[b]? = if a = b then some p else w.pending[b]? :=
  OrdMap.get_insert _ _ _ _

lemma invalidate_isValid {contexts : List Nat} :
    (w.invalidate contexts).isValid c = true ↔ w.isValid c = true ∧ c ∉ contexts := by
  simp only [invalidate, Bool.and_eq_true, decide_eq_true_eq]

lemma mem_attemptsOf :
    a ∈ (w.attemptsOf scopes).keys ↔
      ∃ p : Pending, w.pending[a]? = some p ∧ scopes p.scope = true := by
  rw [Std.ExtTreeMap.mem_keys, Std.ExtTreeMap.mem_iff_isSome_getElem?, attemptsOf,
    Std.ExtTreeMap.getElem?_filter', Option.isSome_iff_exists]
  simp only [Option.filter_eq_some_iff]

lemma mem_windows {p : String → Window → Bool} :
    c ∈ (OrdMap.valueList (w.windows.filter p)).flatMap (OrdMap.valueList ·.contexts) ↔
      ∃ (scope selector : String) (window : Window), w.windows[scope]? = some window ∧
        p scope window = true ∧ window.contexts[selector]? = some c := by
  simp only [List.mem_flatMap, OrdMap.mem_valueList, Std.ExtTreeMap.getElem?_filter',
    Option.filter_eq_some_iff]
  constructor
  · rintro ⟨window, ⟨scope, found, chosen⟩, selector, has⟩
    exact ⟨scope, selector, window, found, chosen, has⟩
  · rintro ⟨scope, selector, window, found, chosen, has⟩
    exact ⟨window, ⟨scope, found, chosen⟩, selector, has⟩

lemma mem_pending {p : Nat → Pending → Bool} :
    c ∈ (OrdMap.valueList (w.pending.filter p)).flatMap (OrdMap.valueList ·.contexts) ↔
      ∃ (attempt : Nat) (selector : String) (pending : Pending),
        w.pending[attempt]? = some pending ∧ p attempt pending = true ∧
          pending.contexts[selector]? = some c := by
  simp only [List.mem_flatMap, OrdMap.mem_valueList, Std.ExtTreeMap.getElem?_filter',
    Option.filter_eq_some_iff]
  constructor
  · rintro ⟨pending, ⟨attempt, found, chosen⟩, selector, has⟩
    exact ⟨attempt, selector, pending, found, chosen, has⟩
  · rintro ⟨attempt, selector, pending, found, chosen, has⟩
    exact ⟨pending, ⟨attempt, found, chosen⟩, selector, has⟩

lemma mem_contextsOf :
    c ∈ w.contextsOf scopes ↔ (∃ scope selector, scopes scope = true ∧ w.InWindow scope selector c) ∨
      ∃ (attempt : Nat) (selector : String) (pending : Pending),
        w.pending[attempt]? = some pending ∧ scopes pending.scope = true ∧
          pending.contexts[selector]? = some c := by
  rw [contextsOf, List.mem_append, mem_windows, attemptsOf, mem_pending]
  refine or_congr ⟨?_, ?_⟩ .rfl
  · rintro ⟨scope, selector, window, found, chosen, has⟩
    exact ⟨scope, selector, chosen, window, found, has⟩
  · rintro ⟨scope, selector, chosen, window, found, has⟩
    exact ⟨scope, selector, window, found, chosen, has⟩

lemma revokeMatching_inWindow {selector : String} :
    (w.revokeMatching selection discarding).InWindow scope selector c ↔
      w.InWindow scope selector c ∧ selection.selects scope = false := by
  simp only [InWindow, revokeMatching, Std.ExtTreeMap.getElem?_filter', Option.filter_eq_some_iff,
    Bool.not_eq_true']
  constructor
  · rintro ⟨window, ⟨found, kept⟩, has⟩
    exact ⟨⟨window, found, has⟩, kept⟩
  · rintro ⟨⟨window, found, has⟩, kept⟩
    exact ⟨window, ⟨found, kept⟩, has⟩

lemma revokeMatching_pending :
    (w.revokeMatching selection discarding).pending[a]? = (w.pending[a]?).map fun p =>
      if selection.selects p.scope then { p with valid := false } else p := by
  simp only [revokeMatching, Std.ExtTreeMap.getElem?_map]

lemma expire_window {window : Window} (found : (w.expire now).windows[scope]? = some window) :
    ∃ old : Window, w.windows[scope]? = some old ∧ window.expires = old.expires ∧
      ∀ (selector : String) (c : Nat), window.contexts[selector]? = some c →
        old.contexts[selector]? = some c := by
  simp only [expire, Std.ExtTreeMap.getElem?_filterMap', Option.bind_eq_some_iff] at found
  obtain ⟨old, found, kept⟩ := found
  rw [unexpired] at kept
  split at kept
  · cases kept
  · split at kept
    · cases kept
    · cases kept
      refine ⟨old, found, rfl, fun selector c has => ?_⟩
      rw [Std.ExtTreeMap.getElem?_filter'] at has
      exact (Option.filter_eq_some_iff.1 has).1

lemma expire_pending :
    (w.expire now).pending[a]? = (w.pending[a]?).map fun p =>
      if p.expired now then { p with valid := false } else p := by
  simp only [expire, Std.ExtTreeMap.getElem?_map]

section commit

variable {p : Pending} {c : Nat} {oldest : String} {w' : World} {contexts : OrdMap String Nat} {t : Nat}

lemma commitExpires_le (now : Nat) :
    (∀ e, p.expires = some e → w.commitExpires p now ≤ e) ∧
    (∀ window, w.windows[p.scope]? = some window → w.commitExpires p now ≤ window.expires) ∧
    (p.expires = none → w.windows[p.scope]? = none → w.commitExpires p now = now + WINDOW) := by
  unfold commitExpires
  refine ⟨fun e eq => ?_, fun window found => ?_, fun none absent => ?_⟩
  · rw [eq]
    cases w.windows[p.scope]? with
    | none => exact Nat.le_refl e
    | some window => exact Nat.min_le_left e window.expires
  · rw [found]
    cases p.expires with
    | none => exact Nat.le_refl window.expires
    | some e => exact Nat.min_le_right e window.expires
  · rw [none, absent]
    rfl

lemma commitContexts_spec {s : String} (has : (w.commitContexts p)[s]? = some c) :
    w.isValid c = true ∧ (w.InWindow p.scope s c ∨ p.contexts[s]? = some c ∧ s ∈ p.used) := by
  rw [commitContexts, Std.ExtTreeMap.getElem?_filter', Option.filter_eq_some_iff,
    Std.ExtTreeMap.getElem?_union, Option.or_eq_some_iff, Std.ExtTreeMap.getElem?_filter',
    Option.filter_eq_some_iff, decide_eq_true_eq] at has
  obtain ⟨has, valid⟩ := has
  refine ⟨valid, ?_⟩
  rcases has with own | ⟨-, shared⟩
  · exact .inr own
  · left
    cases found : w.windows[p.scope]? with
    | none =>
      rw [found] at shared
      cases shared
    | some window =>
      rw [found] at shared
      exact ⟨window, found, shared⟩

lemma evict_spec {scope : String} (h : w.evict scope oldest = some w') :
    w' = w ∨ oldest ≠ scope ∧ w' = w.revokeMatching (.only oldest) none := by
  rw [evict] at h
  split at h
  · rename_i full
    split at h
    · rename_i there
      cases h
      refine .inr ⟨?_, rfl⟩
      rintro rfl
      rw [World.oldest, Option.any_eq_true] at there
      obtain ⟨window, found, -⟩ := there
      exact full.1 (Std.ExtTreeMap.mem_iff_isSome_getElem?.2 (Option.isSome_of_eq_some found))
    · cases h
  · cases h
    exact .inl rfl

lemma evict_pending (h : w.evict p.scope oldest = some w') {a : Nat} (found : w.pending[a]? = some p) :
    w'.pending[a]? = some p := by
  rcases evict_spec h with rfl | ⟨other, rfl⟩
  · exact found
  · rw [revokeMatching_pending, found, Option.map_some, if_neg]
    simpa only [Selection.selects, decide_eq_true_eq] using other

lemma firstCommits_of_some (first : w.committedAt c = some t) : w.firstCommits contexts c = some t := by
  rw [firstCommits, first, Option.some_or, ite_self]

lemma firstCommits_eq_some (first : w.firstCommits contexts c = some t) :
    w.committedAt c = some t ∨
      t = w.clock ∧ w.committedAt c = none ∧ ∃ s : String, contexts[s]? = some c := by
  rw [firstCommits] at first
  split at first
  · rename_i mem
    rcases Option.or_eq_some_iff.1 first with old | ⟨none, new⟩
    · exact .inl old
    · exact .inr ⟨(Option.some.inj new).symm, none, OrdMap.mem_valueList.1 mem⟩
  · exact .inl first

end commit

/-- No window and no attempt gains anything: the windows lose contexts and the attempts lose their
    validity at most. -/
structure Narrows (w w' : World) : Prop where
  next : w'.next = w.next
  created : w'.created = w.created
  owner : w'.owner = w.owner
  committedAt : w'.committedAt = w.committedAt
  clock : w.clock ≤ w'.clock
  isValid : ∀ c, w'.isValid c = true → w.isValid c = true
  window : ∀ (scope : String) (window : Window), w'.windows[scope]? = some window →
    ∃ old : Window, w.windows[scope]? = some old ∧ window.expires = old.expires ∧
      ∀ (selector : String) (c : Nat), window.contexts[selector]? = some c →
        old.contexts[selector]? = some c
  pending : ∀ (a : Nat) (p : Pending), w'.pending[a]? = some p → ∃ old : Pending,
    w.pending[a]? = some old ∧ p.scope = old.scope ∧ p.expires = old.expires ∧
      p.contexts = old.contexts ∧ p.inherited = old.inherited ∧ (p.valid = true → old.valid = true)

namespace Narrows

variable {w' w'' : World} {p : Pending}

lemma trans (h : w.Narrows w') (h' : w'.Narrows w'') : w.Narrows w'' where
  next := h'.next.trans h.next
  created := h'.created.trans h.created
  owner := h'.owner.trans h.owner
  committedAt := h'.committedAt.trans h.committedAt
  clock := Nat.le_trans h.clock h'.clock
  isValid c valid := h.isValid c (h'.isValid c valid)
  window scope window found := by
    obtain ⟨window', found', expires', contexts'⟩ := h'.window scope window found
    obtain ⟨old, found, expires, contexts⟩ := h.window scope window' found'
    exact ⟨old, found, expires'.trans expires, fun s c has => contexts s c (contexts' s c has)⟩
  pending a p found := by
    obtain ⟨p', found', scope', expires', contexts', inherited', valid'⟩ := h'.pending a p found
    obtain ⟨old, found, scope, expires, contexts, inherited, valid⟩ := h.pending a p' found'
    exact ⟨old, found, scope'.trans scope, expires'.trans expires, contexts'.trans contexts,
      inherited'.trans inherited, fun h => valid (valid' h)⟩

lemma of_registry (next : w'.next = w.next) (created : w'.created = w.created)
    (owner : w'.owner = w.owner) (committedAt : w'.committedAt = w.committedAt)
    (clock : w.clock ≤ w'.clock) (isValid : ∀ c, w'.isValid c = true → w.isValid c = true)
    (windows : w'.windows = w.windows) (pending : w'.pending = w.pending) : w.Narrows w' where
  next := next
  created := created
  owner := owner
  committedAt := committedAt
  clock := clock
  isValid := isValid
  window _ window found := ⟨window, windows ▸ found, rfl, fun _ _ has => has⟩
  pending _ p found := ⟨p, pending ▸ found, rfl, rfl, rfl, rfl, fun valid => valid⟩

lemma goto (id : Nat) (call : Option Call) : w.Narrows (w.goto id call) :=
  .of_registry rfl rfl rfl rfl (Nat.le_refl _) (fun _ h => h) rfl rfl

lemma emit (event : Event) : w.Narrows (w.emit event) :=
  .of_registry rfl rfl rfl rfl (Nat.le_refl _) (fun _ h => h) rfl rfl

lemma invalidate (contexts : List Nat) : w.Narrows (w.invalidate contexts) :=
  .of_registry rfl rfl rfl rfl (Nat.le_refl _) (fun _ h => (invalidate_isValid.1 h).1) rfl rfl

lemma setPending {a : Nat} {p' : Pending} (found : w.pending[a]? = some p) (scope : p'.scope = p.scope)
    (expires : p'.expires = p.expires) (contexts : p'.contexts = p.contexts) (inherited : p'.inherited = p.inherited)
    (valid : p'.valid = true → p.valid = true) : w.Narrows (w.setPending a p') where
  next := rfl
  created := rfl
  owner := rfl
  committedAt := rfl
  clock := Nat.le_refl _
  isValid c valid := valid
  window scope window found := ⟨window, found, rfl, fun _ _ has => has⟩
  pending b q there := by
    rw [World.setPending, OrdMap.get_insert] at there
    split at there
    · rename_i same
      cases there
      exact ⟨p, same ▸ found, scope, expires, contexts, inherited, valid⟩
    · exact ⟨q, there, rfl, rfl, rfl, rfl, fun h => h⟩

lemma expire (now : Nat) : w.Narrows (w.expire now) where
  next := rfl
  created := rfl
  owner := rfl
  committedAt := rfl
  clock := Nat.le_refl _
  isValid c valid := (invalidate_isValid.1 valid).1
  window scope window found := expire_window found
  pending a p found := by
    rw [expire_pending, Option.map_eq_some_iff] at found
    obtain ⟨old, found, rfl⟩ := found
    refine ⟨old, found, ?_⟩
    split
    · exact ⟨rfl, rfl, rfl, rfl, nofun⟩
    · exact ⟨rfl, rfl, rfl, rfl, fun h => h⟩

lemma revokeMatching (selection : Selection) (discarding : Option Nat) :
    w.Narrows (w.revokeMatching selection discarding) where
  next := rfl
  created := rfl
  owner := rfl
  committedAt := rfl
  clock := Nat.le_refl _
  isValid c valid := (invalidate_isValid.1 valid).1
  window scope window found := by
    simp only [World.revokeMatching, Std.ExtTreeMap.getElem?_filter'] at found
    exact ⟨window, (Option.filter_eq_some_iff.1 found).1, rfl, fun _ _ has => has⟩
  pending a p found := by
    rw [revokeMatching_pending, Option.map_eq_some_iff] at found
    obtain ⟨old, found, rfl⟩ := found
    refine ⟨old, found, ?_⟩
    split
    · exact ⟨rfl, rfl, rfl, rfl, nofun⟩
    · exact ⟨rfl, rfl, rfl, rfl, fun h => h⟩

lemma cancel {a : Nat} (found : w.pending[a]? = some p) : w.Narrows (w.cancel a p) := by
  rw [World.cancel]
  split
  · exact .of_registry rfl rfl rfl rfl (Nat.le_refl _) (fun _ h => h) rfl rfl
  · exact (invalidate (w.canceledContexts p)).trans (setPending found rfl rfl rfl rfl (by intros; contradiction))

lemma dropHandle (a : Nat) (p : Pending) : w.Narrows (w.dropHandle a p) where
  next := rfl
  created := rfl
  owner := rfl
  committedAt := rfl
  clock := Nat.le_refl _
  isValid c valid := (invalidate_isValid.1 valid).1
  window scope window found := ⟨window, found, rfl, fun _ _ has => has⟩
  pending b q there := by
    rw [World.dropHandle, OrdMap.get_erase] at there
    split at there
    · cases there
    · exact ⟨q, there, rfl, rfl, rfl, rfl, fun h => h⟩

end Narrows

end World

end Ctl.Approval
