import Ctl.Daemon.Manager
import Ctl.Daemon.RegistryChange

/-!
# What the session manager can do

`Transition` lists what a step of the session manager does to the registry and to the tasks, and
`step_transition` says that every step is one of its cases. Invariants of the system are proved from
the cases and never unfold the step function.
-/

namespace Ctl.Daemon
open Ctl.Base Ctl.Proto Ctl.Core

def Request.moved : Request → Option String
  | .create .. => none
  | .split .. => none
  | .breakPane _ _ target _ => some target.terminalId
  | .promote terminalId _ => some terminalId

def Request.canvasSize (r : Registry) : Request → Option TerminalSize
  | .create _ _ size _ => some size
  | .split .. => none
  | .breakPane _ _ target _ => (AList.lookup target.terminalId r.heap).map (·.terminalSize)
  | .promote terminalId _ => (AList.lookup terminalId r.heap).map (·.terminalSize)

def World.opens (w : World) : Action → Option TerminalSize
  | .commit task _ _ _ =>
    match AList.lookup task w.tasks with
    | some (.reserved request _) => request.canvasSize w.registry
    | _ => none
  | _ => none

namespace Registry

def Event.size : Event → Option TerminalSize
  | .quiet => none
  | .opened _ _ size => some size
  | .moved _ _ size => some size

/-! ### Reserving a name -/

def withNext (r : Registry) (nextAutomaticName : Option Nat) : Registry :=
  { r with nextAutomaticName }

/-- A number below every number that is still to be used. -/
def Spent (r : Registry) (sequence : Nat) : Prop := ∀ next ∈ r.nextAutomaticName, sequence < next

/-- Where the name of a reservation comes from: it was requested, or it is an automatic name whose
    number is spent now and was not before. -/
inductive Named (r : Registry) : Option String → String → Option Nat → Prop
  | requested (name : String) : Named r (some name) name r.nextAutomaticName
  | automatic {sequence : Nat} {next : Option Nat} :
    (∀ old, r.Spent old → old < sequence) → (∀ old, r.Spent old → (r.withNext next).Spent old) →
    (r.withNext next).Spent sequence → Named r none (automaticName sequence) next

variable {r : Registry}

lemma searchAutomatic_spec (remaining : Nat) {sequence : Nat} (unspent : ∀ old, r.Spent old → old < sequence) :
    (∃ e, r.searchAutomatic remaining sequence = (r.withNext none, .fail e)) ∨
      ∃ name next, r.searchAutomatic remaining sequence = ((r.withNext next).holdName name, .ok name) ∧
        r.taken name = false ∧ Named r none name next := by
  induction remaining generalizing sequence with
  | zero => exact .inl ⟨_, rfl⟩
  | succ remaining ih =>
    rw [searchAutomatic]
    split
    · exact ih fun old h => (unspent old h).trans (Nat.lt_succ_self _)
    case isFalse free =>
      have spent : (r.withNext (nextSequence sequence)).Spent sequence := by
        intro next h
        change next ∈ nextSequence sequence at h
        unfold nextSequence at h
        split at h
        · cases h
          exact Nat.lt_succ_self _
        · cases h
      refine .inr ⟨_, _, rfl, by simpa using free, .automatic unspent ?_ spent⟩
      exact fun old h next hn => (unspent old h).trans (spent next hn)

lemma reserveName_spec (r : Registry) (requested : Option String) :
    (∃ e next, r.reserveName requested = (r.withNext next, .error e) ∧
      ∀ old, r.Spent old → (r.withNext next).Spent old) ∨
      ∃ name next, r.reserveName requested = ((r.withNext next).holdName name, .ok name) ∧
        r.taken name = false ∧ Named r requested name next := by
  cases requested with
  | some name =>
    rw [reserveName]
    split
    case h_1 e _ => exact .inl ⟨e, r.nextAutomaticName, rfl, fun _ h => h⟩
    · unfold acquireName
      split
      · exact .inl ⟨_, r.nextAutomaticName, rfl, fun _ h => h⟩
      case isFalse free =>
        exact .inr ⟨name, r.nextAutomaticName, rfl, by simpa using free, .requested name⟩
  | none =>
    rw [reserveName, acquireAutomatic]
    split
    · exact .inl ⟨_, r.nextAutomaticName, rfl, fun _ h => h⟩
    case h_2 sequence first =>
      rcases searchAutomatic_spec (2 ^ 64 - sequence)
        fun old h => h sequence first with ⟨e, eq⟩ | found
      · exact .inl ⟨_, none, eq, fun _ _ _ h => by cases h⟩
      · exact .inr found

/-! ### The sections of operations -/

lemma perform_steps (owned : r.Owned) (operation : Operation) : Steps r .quiet (r.perform operation) := by
  cases operation with
  | updateView selector revision layout => exact updateView_steps owned selector revision layout
  | swapPane self attachmentId target previous =>
    exact swapPane_steps owned self attachmentId target previous
  | resizePane self attachmentId terminalId direction amount =>
    exact resizePane_steps owned self attachmentId terminalId direction amount
  | resizeDivider self attachmentId divider => exact resizeDivider_steps owned self attachmentId divider
  | setViewZoom self attachmentId terminalId => exact setViewZoom_steps owned self attachmentId terminalId
  | resize self attachmentId size => exact resize_steps owned self attachmentId size
  | rename selector name => exact rename_steps owned selector name
  | mergeSessions source destination => exact mergeSessions_steps owned source destination
  | beginTermination selector => exact beginTermination_steps owned selector
  | publishEnded id exitCode => exact (publishEnded_calm r id exitCode).steps
  | removeTerminal id => exact removeTerminal_steps owned id

/-- What the section that spends a reservation does. -/
inductive Commits (r : Registry) (owner : TerminalOwner) : Request → Registry → Option Task → Prop
  | create {name : Option String} {terminalId : String} {size : TerminalSize} {managed : Bool} :
    AList.lookup terminalId r.heap = none →
    Commits r owner (.create name terminalId size managed)
      (r.commitSession terminalId (.spawn owner size managed)) none
  | split {targetId terminalId : String} {axis : SplitAxis} {size : TerminalSize} {r' : Registry}
      {next : Option Task} :
    Steps (r.releaseName owner.name) .quiet r' →
    next = none ∨ next = some (.dropping owner.name true) →
    Commits r owner (.split targetId axis terminalId size) r' next
  | keep {request : Request} {id : String} {r' : Registry} :
    request.moved = some id → Calm r r' →
    Commits r owner request r' (some (.dropping owner.name false))
  | move {request : Request} {id : String} {size : TerminalSize} {r' : Registry} :
    request.moved = some id → Steps r (.moved id owner size) r' →
    Commits r owner request (r'.releaseName owner.name) none

lemma commit_spec (owned : r.Owned) (owner : TerminalOwner) (unused : AList.lookup owner.sessionId r.sessions = none)
    {request : Request} (fresh : ∀ id ∈ request.spawned, AList.lookup id r.heap = none) :
    Commits r owner request (r.commit owner request).1 (r.commit owner request).2 := by
  cases request with
  | create name terminalId size managed => exact .create (fresh terminalId rfl)
  | split targetId axis terminalId size =>
    have steps := commitSplit_steps owned (.spawn owner size false) targetId axis
      (fresh terminalId rfl) rfl
    rw [commit]
    generalize r.commitSplit terminalId (.spawn owner size false) targetId axis = outcome at steps ⊢
    rcases outcome with ⟨r', (e | ⟨⟩)⟩
    · exact .split steps (.inr rfl)
    · exact .split steps (.inl rfl)
  | breakPane self attachmentId target name =>
    have spec := breakPane_steps owned self attachmentId target unused
    rw [commit]
    generalize r.breakPane self attachmentId target owner = outcome at spec ⊢
    obtain ⟨r', result⟩ := outcome
    dsimp only at spec
    rcases spec with ⟨⟨e, rfl⟩, calm⟩ | ⟨⟨reply, rfl⟩, r'', size, steps, rfl⟩
    · exact .keep rfl calm
    · exact .move rfl steps
  | promote terminalId name =>
    have spec := promoteTerminal_steps owned terminalId unused
    rw [commit]
    generalize r.promoteTerminal terminalId owner = outcome at spec ⊢
    obtain ⟨r', result⟩ := outcome
    dsimp only at spec
    rcases spec with ⟨⟨e, rfl⟩, rfl⟩ | ⟨⟨reply, rfl⟩, r'', size, steps, rfl⟩
    · exact .keep rfl (.refl _)
    · exact .move rfl steps

end Registry

/-! ### The steps of the system -/

namespace World
open Registry

inductive Transition (w : World) : Action → World → Prop
  | environment (pty : List (Option String)) :
    Transition w (.environment pty) { w with registry := { w.registry with pty } }
  | perform {operation : Operation} {r' : Registry} :
    Steps w.registry .quiet r' → Transition w (.perform operation) { w with registry := r' }
  | begin {task : Nat} {request : Request} :
    AList.lookup task w.tasks = none →
    Transition w (.begin task request) (w.settle task w.registry (some (.planned request)))
  | refuse {task : Nat} {request : Request} {next : Option Nat} :
    AList.lookup task w.tasks = some (.planned request) →
    (∀ old, w.registry.Spent old → (w.registry.withNext next).Spent old) →
    Transition w (.reserve task) (w.settle task (w.registry.withNext next) none)
  | reserve {task : Nat} {request : Request} {name : String} {next : Option Nat} :
    AList.lookup task w.tasks = some (.planned request) → w.registry.taken name = false →
    Named w.registry request.name name next →
    Transition w (.reserve task) (w.settle task ((w.registry.withNext next).holdName name)
      (some (.reserved request name)))
  | abandon {task : Nat} {request : Request} {name : String} :
    AList.lookup task w.tasks = some (.reserved request name) →
    Transition w (.abandon task) (w.settle task w.registry (some (.dropping name false)))
  | commit {task now : Nat} {sessionId viewId name : String} {request : Request} {r' : Registry}
      {next : Option Task} :
    AList.lookup task w.tasks = some (.reserved request name) →
    AList.lookup sessionId w.registry.sessions = none →
    (∀ id owner, w.registry.owner? id = some owner → owner.sessionId ≠ sessionId) →
    Commits w.registry ⟨now, sessionId, viewId, name⟩ request r' next →
    Transition w (.commit task sessionId viewId now) (w.settle task r' next)
  | drop {task : Nat} {name : String} {released : Bool} :
    AList.lookup task w.tasks = some (.dropping name released) →
    Transition w (.drop task) (w.settle task (w.registry.releaseName name) none)
  | openAttachment {task : Nat} {self token attachmentId : String} {input layout : Bool}
      {terminal : Terminal} :
    AList.lookup task w.tasks = none → AList.lookup self w.registry.heap = some terminal →
    AList.lookup token terminal.attachments = none →
    Transition w (.openAttachment task self token attachmentId input layout)
      (w.settle task (w.registry.insertAttachment self token attachmentId)
        (some (.opening self attachmentId input layout false)))
  | resumeAttachment (self token : String) :
    Transition w (.resumeAttachment self token)
      { w with registry := w.registry.resumeAttachment self token }
  | suspendAttachment (self token : String) (generation : Nat) :
    Transition w (.suspendAttachment self token generation)
      { w with registry := w.registry.suspendAttachment self token generation }
  | closeAttachment {task generation : Nat} {self token : String} {expire : Bool}
      {terminal : Terminal} {record : AttachmentRecord} :
    AList.lookup task w.tasks = none → AList.lookup self w.registry.heap = some terminal →
    AList.lookup token terminal.attachments = some record →
    Transition w (.closeAttachment task self token generation expire)
      (w.settle task (w.registry.removeAttachment self token)
        (some (.closing self record.attachmentId false)))
  | acquireLease (self attachmentId : String) (lease : LeaseKind) :
    Transition w (.acquireLease self attachmentId lease)
      { w with registry := w.registry.acquireLease self attachmentId lease }
  | releaseLease (self attachmentId : String) (lease : LeaseKind) :
    Transition w (.releaseLease self attachmentId lease)
      { w with registry := w.registry.releaseLease self attachmentId lease }
  | requestInput {task : Nat} {self attachmentId : String} {input layout : Bool} :
    AList.lookup task w.tasks = some (.opening self attachmentId input layout false) →
    Transition w (.advance task) (w.settle task (w.registry.requestInput self attachmentId input)
      (some (.opening self attachmentId input layout true)))
  | requestLayout {task : Nat} {self attachmentId : String} {input layout : Bool} :
    AList.lookup task w.tasks = some (.opening self attachmentId input layout true) →
    Transition w (.advance task)
      (w.settle task (w.registry.requestLayout self attachmentId layout) none)
  | releaseInput {task : Nat} {self attachmentId : String} :
    AList.lookup task w.tasks = some (.closing self attachmentId false) →
    Transition w (.advance task) (w.settle task (w.registry.releaseInput self attachmentId)
      (some (.closing self attachmentId true)))
  | releaseLayout {task : Nat} {self attachmentId : String} :
    AList.lookup task w.tasks = some (.closing self attachmentId true) →
    Transition w (.advance task)
      (w.settle task (w.registry.releaseLayout self attachmentId) none)

lemma lookup_settle (w : World) (task : Nat) (r : Registry) (next : Option Task) (task' : Nat) :
    AList.lookup task' (w.settle task r next).tasks
      = if task' = task then next else AList.lookup task' w.tasks := by
  cases next with
  | none =>
    split
    case isTrue eq => rw [eq]; exact AList.lookup_erase task w.tasks
    case isFalse ne => exact AList.lookup_erase_ne ne
  | some next =>
    split
    case isTrue eq => rw [eq]; exact AList.lookup_insert w.tasks
    case isFalse ne => exact AList.lookup_insert_ne ne

lemma settle_registry (w : World) (task : Nat) (r : Registry) (next : Option Task) :
    (w.settle task r next).registry = r := by
  cases next <;> rfl

variable {w w' : World} {r : Registry}

lemma launch_eq_some {task : Nat} {registry : Registry} {first : Task} (h : w.launch task registry first = some w') :
    AList.lookup task w.tasks = none ∧ w' = w.settle task registry (some first) := by
  unfold launch at h
  split at h
  case isTrue free =>
    cases h
    exact ⟨Option.isNone_iff_eq_none.1 free, rfl⟩
  case isFalse => cases h

lemma fresh_spec {sessionId : String} {spawned : Option String} (h : fresh r sessionId spawned = true) :
    AList.lookup sessionId r.sessions = none ∧
      (∀ id owner, r.owner? id = some owner → owner.sessionId ≠ sessionId) ∧
      ∀ id ∈ spawned, AList.lookup id r.heap = none := by
  unfold fresh at h
  rw [Bool.and_eq_true, Bool.and_eq_true, Bool.not_eq_true', Option.isNone_iff_eq_none] at h
  obtain ⟨⟨unused, owners⟩, free⟩ := h
  refine ⟨unused, fun id owner howner same => ?_, ?_⟩
  · obtain ⟨terminal, found, rfl⟩ := Option.map_eq_some_iff.1 howner
    have used : r.heap.any (fun terminal => terminal.owner.sessionId = sessionId) = true :=
      Table.any_iff.2 ⟨id, terminal, found, decide_eq_true same⟩
    rw [owners] at used
    cases used
  · rintro id ⟨rfl⟩
    exact Option.isNone_iff_eq_none.1 free

lemma removableAttachment_spec {self token : String} {generation : Nat} {expire : Bool} {record : AttachmentRecord}
    (h : r.removableAttachment self token generation expire = some record) :
    ∃ terminal, AList.lookup self r.heap = some terminal ∧
      AList.lookup token terminal.attachments = some record := by
  unfold removableAttachment at h
  obtain ⟨terminal, hterminal, h⟩ := Option.bind_eq_some_iff.1 h
  obtain ⟨record', hrecord, h⟩ := Option.bind_eq_some_iff.1 h
  split at h
  · cases h
  · cases h
    exact ⟨terminal, hterminal, hrecord⟩

/-- Every step is a transition. -/
theorem step_transition {action : Action} (owned : w.registry.Owned) (h : w.step action = some w') :
    Transition w action w' := by
  cases action with
  | environment pty =>
    cases h
    exact .environment pty
  | perform operation =>
    cases h
    exact .perform (perform_steps owned operation)
  | begin task request =>
    rw [step] at h
    split at h
    · obtain ⟨free, rfl⟩ := launch_eq_some h
      exact .begin free
    · cases h
  | reserve task =>
    rw [step] at h
    split at h
    case h_1 request found =>
      cases h
      unfold World.reserve
      rcases w.registry.reserveName_spec request.name with
        ⟨e, next, eq, spent⟩ | ⟨name, next, eq, free, named⟩
      · rw [eq]
        exact .refuse found spent
      · rw [eq]
        exact .reserve found free named
    · cases h
  | abandon task =>
    rw [step] at h
    split at h
    case h_1 request name found =>
      split at h
      · cases h
        exact .abandon found
      · cases h
    · cases h
  | commit task sessionId viewId now =>
    rw [step] at h
    split at h
    case h_1 request name found =>
      split at h
      case isTrue guard =>
        cases h
        obtain ⟨unused, owners, free⟩ := fresh_spec guard
        exact .commit found unused owners
          (commit_spec owned ⟨now, sessionId, viewId, name⟩ unused free)
      case isFalse => cases h
    · cases h
  | drop task =>
    rw [step] at h
    split at h
    case h_1 name released found =>
      cases h
      exact .drop found
    · cases h
  | openAttachment task self token attachmentId input layout =>
    rw [step] at h
    split at h
    case h_1 terminal found =>
      split at h
      case isTrue unused =>
        obtain ⟨free, rfl⟩ := launch_eq_some h
        exact .openAttachment free found (Option.isNone_iff_eq_none.1 unused)
      case isFalse => cases h
    · cases h
  | resumeAttachment self token =>
    cases h
    exact .resumeAttachment self token
  | suspendAttachment self token generation =>
    cases h
    exact .suspendAttachment self token generation
  | closeAttachment task self token generation expire =>
    rw [step] at h
    split at h
    case h_1 record removable =>
      obtain ⟨free, rfl⟩ := launch_eq_some h
      obtain ⟨terminal, found, hrecord⟩ := removableAttachment_spec removable
      exact .closeAttachment free found hrecord
    · cases h
  | acquireLease self attachmentId lease =>
    cases h
    exact .acquireLease self attachmentId lease
  | releaseLease self attachmentId lease =>
    cases h
    exact .releaseLease self attachmentId lease
  | advance task =>
    rw [step] at h
    split at h
    case h_1 current found =>
      unfold World.advance at h
      split at h
      · cases h
        exact .requestInput found
      · cases h
        exact .requestLayout found
      · cases h
        exact .releaseInput found
      · cases h
        exact .releaseLayout found
      · cases h
    · cases h

end World

end Ctl.Daemon
