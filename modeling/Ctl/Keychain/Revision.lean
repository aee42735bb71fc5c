import Ctl.Approval.Windows

/-!
# Approval and the credential revision

The broker of `ctl/daemon/src/keychain/approval.rs` with the file of the credential revision
(`keychain/operation.rs`), as a transition system. Its threads are the calls that are under way; a step
is one access to something shared: the lock of the operations, the revision file, the cached revision
with its lock, the registry of windows, or the state of the session. Other processes that change secrets
are threads as well. Of the registry, every section is a step of `Windows`.

Every new revision is a fresh UUID; here it is a number that no revision before had. A file that cannot
be read, and a lock that cannot be taken, are inputs of the step. What `remember` and the observers keep
is left out, since no read depends on it, and so are attempts without approval and attempts for a wake.
-/

namespace Ctl.Keychain
open Ctl.Base Ctl.Approval

abbrev Revision := Nat

/-- Where `check_revision` is; after the first step it holds the lock of the cached revision. -/
inductive Check
  | compare
  | revoke
  | native
  | publish
  deriving DecidableEq

/-- Where `Attempt::valid` is. It keeps whether the revision is the one of the attempt; what it has seen of
    the session is the number of locks that had begun. -/
inductive Validation
  | expire
  | revision
  | check (revision : Revision) (check : Check)
  | unlocked (revisionValid : Bool)
  | generation (revisionValid : Bool) (seen : Nat)
  /-- The windows, and then the contexts, are revoked so many times. -/
  | revoke (times : Nat) (native : Bool)
  | pending (seen : Nat)
  deriving DecidableEq

/-- Where `Attempt::begin` is. -/
inductive Beginning
  | select
  | unlocked
  | acquire
  | revision
  | refuse (native : Bool)
  | check (revision : Revision) (check : Check)
  | expire (revision : Revision)
  | generation (revision : Revision)
  | enter (revision : Revision) (generation : Nat)
  | register (revision : Revision) (generation : Nat)
  | release
  deriving DecidableEq

/-- Where an operation is that reads credentials under one guard. -/
inductive Reads
  | acquire
  | idle
  | validating (validation : Validation)
  /-- The next section of the read, with the result of `valid` and what it has seen. -/
  | proceed (valid : Bool) (seen : Nat)
  deriving DecidableEq

/-- Where `Attempt::connected` is. -/
inductive Connecting
  | acquire
  | validating (validation : Validation)
  | enter
  | commit
  | release
  deriving DecidableEq

/-- Where `Approvals::maintain` or `Approvals::reusable` is. -/
inductive Observing
  | expire
  | unlocked
  | lapse (native : Bool)
  | revision
  | refuse (native : Bool)
  | check (revision : Revision) (check : Check)
  deriving DecidableEq

/-- Where a change of secrets is: before `begin_secret_mutation` has advanced the revision, and after. -/
inductive Mutation
  | acquire
  | advance
  | changing
  deriving DecidableEq

/-- A call that is under way. -/
inductive Thread
  | begin (start scope : String) (stage : Beginning)
  | reads (stage : Reads)
  | connected (attempt : Nat) (stage : Connecting)
  | maintain (stage : Observing)
  | reusable (scope : String) (stage : Observing)
  | mutate (stage : Mutation)
  deriving DecidableEq

/-- Where `SessionState::revoke` is. -/
inductive Locking
  | quiet
  | raise
  | revoke
  | native
  deriving DecidableEq

/-- What an attempt keeps of its begin, and (ghost) what had happened then. -/
structure Begun where
  revision : Revision
  generation : Nat
  /-- Ghost: how often all windows had been revoked. -/
  epoch : Nat
  /-- Ghost: how many locks of the session had begun. -/
  locks : Nat
  /-- Ghost: how many locks of the session had revoked the windows. -/
  revoked : Nat
  /-- Ghost: how many changes of secrets there had been. -/
  changes : Nat

structure Broker where
  registry : World
  revision : Revision := 0
  /-- The thread that holds the lock of the operations. -/
  owner : Option Nat := none
  cached : Option Revision := none
  /-- The thread that holds the lock of the cached revision. -/
  checker : Option Nat := none
  unlocked : Bool := false
  generation : Nat := 0
  locking : Locking := .quiet
  threads : OrdMap Nat Thread := ∅
  attempts : OrdMap Nat Begun := ∅
  /-- Ghost: the attempts that have committed contexts. -/
  commits : List (Nat × Nat) := []
  /-- Ghost: how often all windows were revoked. -/
  epoch : Nat := 0
  /-- Ghost: they were revoked for a revision that is not published yet. -/
  publishing : Bool := false
  locks : Nat := 0
  revoked : Nat := 0
  changes : Nat := 0

/-- What a step depends on besides the state. -/
structure Input where
  /-- A file or a lock is not available. -/
  fails : Bool
  /-- What `console_is_unlocked` answers. -/
  console : Bool
  now : Nat
  /-- The read that an operation goes on with. -/
  read : Option (Nat × String × Bool)
  /-- What a section of the registry depends on. -/
  answer : Approval.Input
  deriving DecidableEq

namespace Broker

variable (w : Broker) (t : Nat) (input : Input)

def goto (thread : Thread) : Broker :=
  { w with threads := w.threads.insert t thread }

def finish : Broker :=
  { w with threads := w.threads.erase t, owner := if w.owner = some t then none else w.owner }

/-- A thread takes the lock of the operations, when it is free (Rust `operation::acquire`). -/
def acquire (thread : Thread) : Option Broker :=
  if input.fails then some (w.finish t)
  else if w.owner = none then some ({ w with owner := some t }.goto t thread)
  else none

def inRegistry (action : Approval.Action) : Option Broker :=
  (Approval.step w.registry action).map fun registry => { w with registry }

/-- Rust `Windows::revoke` of all scopes. -/
def revokeAll : Broker :=
  { w with registry := w.registry.revokeMatching .all none, epoch := w.epoch + 1 }

/-- Rust `invalidate_native`: the contexts that are alive. -/
def invalidateNative : Broker :=
  { w with registry := { w.registry with isValid := fun _ => false } }

/-- Rust `SessionState::is_unlocked`. -/
def isUnlocked : Bool := w.unlocked && input.console

/-- The next step of `check_revision`, and where it is then. -/
def checkRevision (revision : Revision) :
    Check → Option (Broker × Option Check)
  | .compare =>
    if w.checker ≠ none then none
    else if w.cached = some revision then some (w, none)
    else some ({ w with checker := some t }, some .revoke)
  | .revoke => some ({ w.revokeAll with publishing := true }, some .native)
  | .native => some (w.invalidateNative, some .publish)
  | .publish =>
    some ({ w with cached := some revision, checker := none, publishing := false }, none)

/-- The next step of `valid`, and where it is then or what it returns with what it has seen. -/
def validate (attempt : Nat) (input : Input) :
    Validation → Option (Broker × (Validation ⊕ Bool × Nat))
  | .expire => (w.inRegistry (.expire input.now)).map fun w => (w, .inl .revision)
  | .revision =>
    some (w, .inl (if input.fails then .unlocked false else .check w.revision .compare))
  | .check revision check =>
    (w.checkRevision t revision check).map fun (w, next) => (w, .inl (match next with
      | some check => .check revision check
      | none => .unlocked ((w.attempts[attempt]?).any fun begun => begun.revision = revision)))
  | .unlocked revisionValid =>
    some (w, .inl (if w.isUnlocked input then .generation revisionValid w.locks
      else .revoke (if revisionValid then 1 else 2) false))
  | .generation revisionValid seen =>
    let sessionValid := (w.attempts[attempt]?).any fun begun => begun.generation = w.generation
    let times := (if revisionValid then 0 else 1) + if sessionValid then 0 else 1
    some (w, .inl (if times = 0 then .pending seen else .revoke times false))
  | .revoke times false => some (w.revokeAll, .inl (.revoke times true))
  | .revoke times true =>
    some (w.invalidateNative, if times ≤ 1 then .inr (false, 0) else .inl (.revoke (times - 1) false))
  | .pending seen =>
    (w.registry.pending[attempt]?).map fun pending => (w, .inr (pending.valid, seen))

/-- The next step of `Attempt::begin`. -/
def stepBegin (start scope : String) :
    Beginning → Option Broker
  | .select =>
    (w.inRegistry (.revoke (.others start (some scope)))).map (·.goto t (.begin start scope .unlocked))
  | .unlocked =>
    some (if w.isUnlocked input then w.goto t (.begin start scope .acquire) else w.finish t)
  | .acquire => w.acquire t input (.begin start scope .revision)
  | .revision =>
    some (w.goto t (.begin start scope
      (if input.fails then .refuse false else .check w.revision .compare)))
  | .refuse false => some (w.revokeAll.goto t (.begin start scope (.refuse true)))
  | .refuse true => some (w.invalidateNative.finish t)
  | .check revision check =>
    (w.checkRevision t revision check).map fun (w, next) => w.goto t (.begin start scope
      (match next with
        | some check => .check revision check
        | none => .expire revision))
  | .expire revision =>
    (w.inRegistry (.expire input.now)).map (·.goto t (.begin start scope (.generation revision)))
  | .generation revision => some (w.goto t (.begin start scope (.enter revision w.generation)))
  | .enter revision generation =>
    (w.inRegistry (.begin t scope input.now)).map
      (·.goto t (.begin start scope (.register revision generation)))
  | .register revision generation =>
    (w.inRegistry (.proceed t input.answer)).map fun w' =>
      { w' with
        attempts := w'.attempts.insert w.registry.next
          ⟨revision, generation, w.epoch, w.locks, w.revoked, w.changes⟩ }.goto t
        (.begin start scope .release)
  | .release => some (w.finish t)

/-- Where an operation is after a section of its read: `valid` is called first and after the keychain
    has answered. -/
def afterSection (seen : Nat) : Reads :=
  match w.registry.calls[t]? with
  | some (.read reading) =>
    match reading.stage with
    | .entered | .calling _ _ => .validating .expire
    | _ => .proceed true seen
  | _ => .idle

def readAttempt : Option Nat :=
  match w.registry.calls[t]? with
  | some (.read reading) => some reading.attempt
  | _ => none

/-- The next step of an operation that reads credentials (Rust `Attempt::read`). -/
def stepReads : Reads → Option Broker
  | .acquire => w.acquire t input (.reads .idle)
  | .idle =>
    match input.read with
    | none => some (w.finish t)
    | some (attempt, selector, interactive) =>
      (w.inRegistry (.read t attempt selector interactive)).map
        (·.goto t (.reads (.validating .expire)))
  | .validating validation => do
    let attempt ← w.readAttempt t
    let (w, next) ← w.validate t attempt input validation
    return w.goto t (.reads (match next with
      | .inl validation => .validating validation
      | .inr (valid, seen) => .proceed valid seen))
  | .proceed valid seen =>
    (w.inRegistry (.proceed t { input.answer with valid })).map fun w =>
      w.goto t (.reads (w.afterSection t seen))

def committed (before after : World) (attempt : Nat) : List (Nat × Nat) :=
  if before.log.length = after.log.length then []
  else match after.pending[attempt]? with
    | none => []
    | some pending =>
      match after.windows[pending.scope]? with
      | none => []
      | some window => (OrdMap.valueList window.contexts).map fun context => (attempt, context)

/-- The next step of `Attempt::connected`. -/
def stepConnected (attempt : Nat) :
    Connecting → Option Broker
  | .acquire => w.acquire t input (.connected attempt (.validating .expire))
  | .validating validation =>
    (w.validate t attempt input validation).map fun (w, next) => match next with
      | .inl validation => w.goto t (.connected attempt (.validating validation))
      | .inr (true, _) => w.goto t (.connected attempt .enter)
      | .inr (false, _) => w.finish t
  | .enter =>
    (w.inRegistry (.connected t attempt input.now)).map (·.goto t (.connected attempt .commit))
  | .commit =>
    (w.inRegistry (.proceed t input.answer)).map fun w' =>
      { w' with commits := committed w.registry w'.registry attempt ++ w'.commits }.goto t
        (.connected attempt .release)
  | .release => some (w.finish t)

/-- The next step of `Approvals::maintain`. -/
def stepMaintain : Observing → Option Broker
  | .expire => (w.inRegistry (.expire input.now)).map (·.goto t (.maintain .unlocked))
  | .unlocked =>
    some (w.goto t (.maintain (if w.isUnlocked input then .revision else .lapse false)))
  | .lapse false => some (w.revokeAll.goto t (.maintain (.lapse true)))
  | .lapse true => some (w.invalidateNative.goto t (.maintain .revision))
  | .revision =>
    some (w.goto t (.maintain (if input.fails then .refuse false else .check w.revision .compare)))
  | .refuse false => some (w.revokeAll.goto t (.maintain (.refuse true)))
  | .refuse true => some (w.invalidateNative.finish t)
  | .check revision check =>
    (w.checkRevision t revision check).map fun (w, next) => match next with
      | some check => w.goto t (.maintain (.check revision check))
      | none => w.finish t

/-- The next step of `Approvals::reusable`; at the end it only observes the window of the scope. -/
def stepReusable (scope : String) :
    Observing → Option Broker
  | .revision =>
    some (w.goto t (.reusable scope
      (if input.fails then .refuse false else .check w.revision .compare)))
  | .refuse false => some (w.revokeAll.goto t (.reusable scope (.refuse true)))
  | .refuse true => some (w.invalidateNative.finish t)
  | .check revision check =>
    (w.checkRevision t revision check).map fun (w, next) => w.goto t (.reusable scope
      (match next with
        | some check => .check revision check
        | none => .unlocked))
  | .unlocked =>
    some (if w.isUnlocked input then w.finish t else w.goto t (.reusable scope (.lapse false)))
  | .lapse false => some (w.revokeAll.goto t (.reusable scope (.lapse true)))
  | .lapse true => some (w.invalidateNative.finish t)
  | .expire => none

/-- The next step of a change of secrets in some process. The revision is advanced before the first
    change; when that fails, it may be advanced all the same. -/
def stepMutate (more : Bool) : Mutation → Option Broker
  | .acquire => w.acquire t input (.mutate .advance)
  | .advance =>
    if input.fails then
      some ((if more then { w with revision := w.revision + 1 } else w).finish t)
    else some ({ w with revision := w.revision + 1 }.goto t (.mutate .changing))
  | .changing => some (if more then { w with changes := w.changes + 1 } else w.finish t)

/-- Rust `still_reusable`: it observes the state without a change of it. -/
def stillReusable (scope : String) (revision : Revision) (generation : Nat) : Bool :=
  w.generation = generation && w.isUnlocked input && w.cached = some revision &&
    (w.registry.windows[scope]?).any fun window =>
      input.now < window.expires && (OrdMap.valueList window.contexts).any w.registry.isValid

/-- The next step of `SessionState::revoke`, with the subscriber of the approvals. -/
def stepLocking : Option Broker :=
  match w.locking with
  | .quiet => none
  | .raise => some { w with generation := w.generation + 1, locking := .revoke }
  | .revoke => some { w.revokeAll with revoked := w.revoked + 1, locking := .native }
  | .native => some { w.invalidateNative with locking := .quiet }

end Broker

def Thread.isInitial : Thread → Bool
  | .begin _ _ .select | .reads .acquire | .connected _ .acquire | .maintain .expire
  | .reusable _ .revision | .mutate .acquire => true
  | _ => false

/-- The sections of the registry that are outside of these calls, and the passage of time. -/
def isSeparate : Approval.Action → Bool
  | .tick _ | .lapse _ | .cancel _ | .discardCached _ | .drop _ | .expire _
  | .revoke (.only _) | .revoke (.startsWith _) => true
  | _ => false

inductive Action
  | call (t : Nat) (thread : Thread)
  /-- A thread takes its next step; a change of secrets may go on. -/
  | proceed (t : Nat) (input : Input) (more : Bool)
  | registry (action : Approval.Action)
  /-- The session is locked, or the machine sleeps. -/
  | lock
  | locking
  /-- The session is unlocked, or is found unlocked after a sleep. -/
  | unlock (unlocked : Bool)

variable (w : Broker)

def Broker.proceed (t : Nat) (input : Input) (more : Bool) : Thread → Option Broker
  | .begin start scope stage => w.stepBegin t input start scope stage
  | .reads stage => w.stepReads t input stage
  | .connected attempt stage => w.stepConnected t input attempt stage
  | .maintain stage => w.stepMaintain t input stage
  | .reusable scope stage => w.stepReusable t input scope stage
  | .mutate stage => w.stepMutate t input more stage

def step : Action → Option Broker
  | .call t thread =>
    if thread.isInitial && t ∉ w.threads then some (w.goto t thread) else none
  | .proceed t input more => (w.threads[t]?).bind (w.proceed t input more)
  | .registry action => if isSeparate action then w.inRegistry action else none
  | .lock =>
    if w.locking = .quiet then
      some { w with unlocked := false, locks := w.locks + 1, locking := .raise }
    else none
  | .locking => w.stepLocking
  | .unlock unlocked => if w.locking = .quiet then some { w with unlocked } else none

/-- A broker that was just started. -/
def Initial : Prop := ∃ clock revision unlocked,
  w = { registry := initial clock, revision, unlocked }

end Ctl.Keychain
