import Ctl.Daemon.Leases

/-!
# Generations of an attachment

Reconnects, timers and guards of old connections call `resume_attachment`, `suspend_attachment`,
`expire_attachment` and `close_attachment` in every order. `record_step` says what each step of the
system does to the record of one token; from it follow the facts about runs: the generation of a record
never decreases, a record that is gone does not return before its token is drawn again, and a lease is
released by a close of the current generation only.
-/

namespace Ctl.Daemon
open Ctl.Base Ctl.Proto Ctl.Core

/-! ### The guard of a connection -/

/-- Rust `AttachmentGuard`; its session is the terminal that it is used with. -/
structure AttachmentGuard where
  attachmentToken : String
  generation : Nat
  preserveOnDrop : Bool
  active : Bool

namespace AttachmentGuard

variable (guard : AttachmentGuard)

/-- Rust `close_now`. -/
def closeNow (self : String) (task : Nat) : Option Action × AttachmentGuard :=
  if guard.active then
    (some (.closeAttachment task self guard.attachmentToken guard.generation false),
      { guard with active := false })
  else (none, guard)

/-- Rust `drop`. -/
def drop (guard : AttachmentGuard) (self : String) (task : Nat) : Option Action :=
  if ¬ guard.active then none
  else if ¬ guard.preserveOnDrop then
    some (.closeAttachment task self guard.attachmentToken guard.generation false)
  else some (.suspendAttachment self guard.attachmentToken guard.generation)

def graceEnds (self : String) (task : Nat) : Action :=
  .closeAttachment task self guard.attachmentToken guard.generation true

def calls (self : String) (task : Nat) : List Action :=
  (guard.closeNow self task).1.toList ++ (guard.drop self task).toList ++ [guard.graceEnds self task]

lemma mem_calls {guard : AttachmentGuard} {self : String} {task : Nat} {action : Action}
    (mem : action ∈ guard.calls self task) :
    action = .suspendAttachment self guard.attachmentToken guard.generation ∨
      ∃ expire, action = .closeAttachment task self guard.attachmentToken guard.generation expire := by
  rw [calls, List.mem_append, List.mem_append, Option.mem_toList, Option.mem_toList, List.mem_singleton,
    closeNow, drop] at mem
  rcases mem with (now | dropped) | rfl
  · split at now
    case isTrue => exact .inr ⟨false, (Option.some.inj now).symm⟩
    case isFalse => exact nomatch now
  · split at dropped
    case isTrue => exact nomatch dropped
    case isFalse =>
      split at dropped
      case isTrue => exact .inr ⟨false, (Option.some.inj dropped).symm⟩
      case isFalse => exact .inl (Option.some.inj dropped).symm
  · exact .inr ⟨true, rfl⟩

end AttachmentGuard

/-! ### Records -/

/-- The record of a token (the lookup in `attachments`). -/
def Registry.record (r : Registry) (self token : String) : Option AttachmentRecord :=
  (r.attachments? self).bind (AList.lookup token)

namespace Registry

lemma record_changeAttachments (r : Registry) (self : String)
    (action : Table String AttachmentRecord → Table String AttachmentRecord) (id token : String) :
    (r.changeAttachments self action).record id token =
      if id = self then (r.attachments? id).bind fun records => AList.lookup token (action records)
      else r.record id token := by
  rw [record, attachments?_changeAttachments]
  split
  case isTrue => rw [Option.bind_map]; rfl
  case isFalse => rfl

lemma attachments?_changeLeases (r : Registry) (self : String)
    (action : AttachmentLeaseRegistry → AttachmentLeaseRegistry) (id : String) :
    (r.changeLeases self action).attachments? id = r.attachments? id :=
  Table.map_lookup_modify (f := Terminal.withLeases action) (fun _ => rfl) id

lemma attachments?_changeViewLeases (r : Registry) (self : String)
    (action : AttachmentLeaseRegistry → AttachmentLeaseRegistry) (id : String) :
    (r.changeViewLeases self action).attachments? id = r.attachments? id := by
  unfold changeViewLeases
  split <;> rfl

lemma record_modify (r : Registry) (self token : String) (f : AttachmentRecord → AttachmentRecord) (id key : String) :
    (r.changeAttachments self fun records => records.modify token f).record id key =
      if id = self ∧ key = token then (r.record id key).map f else r.record id key := by
  rw [record_changeAttachments]
  by_cases same : id = self
  · rw [if_pos same, record]
    cases r.attachments? id with
    | none =>
      rw [Option.bind_none, Option.bind_none, Option.map_none, ite_self]
    | some records =>
      rw [Option.bind_some, Option.bind_some, Table.lookup_modify]
      by_cases own : key = token
      · rw [if_pos own, if_pos ⟨same, own⟩, own]
      · rw [if_neg own, if_neg fun both => own both.2]
  · rw [if_neg same, if_neg fun both => same both.1]

variable {r r' : Registry}

lemma SameAttached.record (h : SameAttached r r') {self : String} (known : (r.attachments? self).isSome)
    (token : String) : (r'.attachments? self).isSome ∧ r'.record self token = r.record self token := by
  obtain ⟨records, found⟩ := Option.isSome_iff_exists.1 known
  rw [Registry.record, Registry.record, h.records self records found, found]
  exact ⟨rfl, rfl⟩

lemma Commits.attached {owner : TerminalOwner} {request : Request} {next : Option Task}
    (h : Commits r owner request r' next) (unused : AList.lookup owner.sessionId r.sessions = none) :
    SameAttached r r' := by
  have released : ∀ (r : Registry) name, SameAttached r (r.releaseName name) :=
    fun r name => .of_heap _ _ rfl
  cases h with
  | @create _ terminalId size managed fresh =>
    have change : Change (r.releaseName owner.name) (.opened terminalId owner size)
        (r.commitSession terminalId (.spawn owner size managed)) :=
      @Change.create _ _ (.spawn owner size managed) fresh rfl unused
    exact (released r owner.name).trans change.attached
  | split steps _ =>
    obtain ⟨changed, change, calm⟩ := steps
    exact (released r owner.name).trans (change.attached.trans (.of_calm calm))
  | keep _ calm => exact .of_calm calm
  | @move _ id size r' target steps =>
    obtain ⟨changed, change, calm⟩ := steps
    exact (change.attached.trans (.of_calm calm)).trans (released r' owner.name)

end Registry

namespace World
open Registry

def Draws (self token : String) : Action → Prop
  | .openAttachment _ self' token' _ _ _ => self' = self ∧ token' = token
  | _ => False

def recordAfter (self token : String) (record : Option AttachmentRecord) : Action → Option AttachmentRecord
  | .openAttachment _ self' token' attachmentId _ _ =>
    if self = self' ∧ token = token' then some ⟨attachmentId, 0, true⟩ else record
  | .resumeAttachment self' token' =>
    if self = self' ∧ token = token' then record.map AttachmentRecord.resumed else record
  | .suspendAttachment self' token' generation =>
    if self = self' ∧ token = token' then record.map (AttachmentRecord.suspended generation) else record
  | .closeAttachment _ self' token' _ _ => if self = self' ∧ token = token' then none else record
  | _ => record

variable {w w' : World} {self token : String} {generation : Nat} {action : Action} {task : Nat} {expire : Bool}
  {leases : AttachmentLeaseRegistry} {attachmentId a : String} {kind : LeaseKind}

/-- What a step does to the record of a token of a terminal that is known. -/
theorem record_step (owned : w.registry.Owned) (step : w.step action = some w')
    (known : (w.registry.attachments? self).isSome) (token : String) :
    (w'.registry.attachments? self).isSome ∧
      w'.registry.record self token = recordAfter self token (w.registry.record self token) action := by
  -- Changing the records of a terminal keeps the terminal.
  have there : ∀ self' change, ((w.registry.changeAttachments self' change).attachments? self).isSome := by
    intro self' change
    rw [attachments?_changeAttachments]
    split
    case isTrue => rw [Option.isSome_map]; exact known
    case isFalse => exact known
  have leased : ∀ {r : Registry}, r.attachments? self = w.registry.attachments? self →
      (r.attachments? self).isSome ∧ r.record self token = w.registry.record self token := by
    intro r kept
    rw [record, record, kept]
    exact ⟨known, rfl⟩
  have same : ∀ {r : Registry}, r.heap = w.registry.heap →
      (r.attachments? self).isSome ∧ r.record self token = w.registry.record self token :=
    fun heap => leased (by rw [attachments?, attachments?, heap])
  obtain ⟨records, found⟩ := Option.isSome_iff_exists.1 known
  cases step_transition owned step with
  | environment pty => exact same rfl
  | perform steps =>
    obtain ⟨changed, change, calm⟩ := steps
    exact (change.attached.trans (.of_calm calm)).record known token
  | begin _ => rw [settle_registry]; exact same rfl
  | refuse _ _ => rw [settle_registry]; exact same rfl
  | reserve _ _ _ => rw [settle_registry]; exact same rfl
  | abandon _ => rw [settle_registry]; exact same rfl
  | commit _ unused _ commits =>
    rw [settle_registry]
    exact (commits.attached unused).record known token
  | drop _ => rw [settle_registry]; exact same rfl
  | @openAttachment _ self' token' attachmentId _ _ _ _ _ _ =>
    rw [settle_registry]
    refine ⟨there _ _, ?_⟩
    rw [insertAttachment, record_changeAttachments, recordAfter, record, found, Option.bind_some,
      Option.bind_some, Table.lookup_insert]
    by_cases own : self = self'
    · by_cases key : token = token'
      · rw [if_pos own, if_pos key.symm, if_pos ⟨own, key⟩]
      · rw [if_pos own, if_neg (Ne.symm key), if_neg fun both => key both.2]
    · rw [if_neg own, if_neg fun both => own both.1]
  | resumeAttachment self' token' =>
    refine ⟨there _ _, ?_⟩
    exact record_modify _ _ _ _ _ _
  | suspendAttachment self' token' generation =>
    refine ⟨there _ _, ?_⟩
    exact record_modify _ _ _ _ _ _
  | @closeAttachment _ _ self' token' _ _ _ _ _ _ =>
    rw [settle_registry]
    refine ⟨there _ _, ?_⟩
    rw [removeAttachment, record_changeAttachments, recordAfter, record, found, Option.bind_some,
      Option.bind_some, Table.lookup_erase]
    by_cases own : self = self'
    · by_cases key : token = token'
      · rw [if_pos own, if_pos key.symm, if_pos ⟨own, key⟩]
      · rw [if_pos own, if_neg (Ne.symm key), if_neg fun both => key both.2]
    · rw [if_neg own, if_neg fun both => own both.1]
  | acquireLease self' attachmentId lease =>
    cases lease with
    | layout => exact leased (attachments?_changeViewLeases _ _ _ _)
    | input => exact leased (attachments?_changeLeases _ _ _ _)
  | releaseLease self' attachmentId lease =>
    cases lease with
    | layout => exact leased (attachments?_changeViewLeases _ _ _ _)
    | input => exact leased (attachments?_changeLeases _ _ _ _)
  | requestInput _ => rw [settle_registry]; exact leased (attachments?_changeLeases _ _ _ _)
  | requestLayout _ => rw [settle_registry]; exact leased (attachments?_changeViewLeases _ _ _ _)
  | releaseInput _ => rw [settle_registry]; exact leased (attachments?_changeLeases _ _ _ _)
  | releaseLayout _ => rw [settle_registry]; exact leased (attachments?_changeViewLeases _ _ _ _)

lemma recordAfter_newer (kept : ¬ Draws self token action) (before : Option AttachmentRecord) :
    ∀ record ∈ recordAfter self token before action, ∃ old ∈ before,
      record.attachmentId = old.attachmentId ∧ old.generation ≤ record.generation := by
  intro record mem
  have unchanged : record ∈ before → ∃ old ∈ before,
      record.attachmentId = old.attachmentId ∧ old.generation ≤ record.generation :=
    fun same => ⟨record, same, rfl, Nat.le_refl _⟩
  have changed : ∀ {f : AttachmentRecord → AttachmentRecord},
      (∀ old, (f old).attachmentId = old.attachmentId ∧ old.generation ≤ (f old).generation) →
      record ∈ before.map f → ∃ old ∈ before,
        record.attachmentId = old.attachmentId ∧ old.generation ≤ record.generation := by
    intro f newer mem
    obtain ⟨old, there, rfl⟩ := Option.map_eq_some_iff.1 mem
    exact ⟨old, there, newer old⟩
  cases action with
  | openAttachment _ self' token' _ _ _ =>
    have other : ¬ (self = self' ∧ token = token') := fun both => kept ⟨both.1.symm, both.2.symm⟩
    rw [recordAfter, if_neg other] at mem
    exact unchanged mem
  | resumeAttachment self' token' =>
    rw [recordAfter] at mem
    split at mem
    case isTrue =>
      refine changed (fun old => ⟨resumed_attachmentId old, ?_⟩) mem
      unfold AttachmentRecord.resumed
      split
      case isTrue => exact Nat.le_succ _
      case isFalse => exact Nat.le_refl _
    case isFalse => exact unchanged mem
  | suspendAttachment self' token' generation =>
    rw [recordAfter] at mem
    split at mem
    case isTrue =>
      refine changed (fun old => ⟨suspended_attachmentId generation old, ?_⟩) mem
      unfold AttachmentRecord.suspended
      split
      case isTrue => exact Nat.le_refl _
      case isFalse => exact Nat.le_refl _
    case isFalse => exact unchanged mem
  | closeAttachment _ self' token' _ _ =>
    rw [recordAfter] at mem
    split at mem
    case isTrue => exact nomatch mem
    case isFalse => exact unchanged mem
  | _ => exact unchanged mem

theorem run_record {u : World} {last : List Action} (owned : u.registry.Owned) (run : exec step u last = some w)
    (known : (u.registry.attachments? self).isSome) (kept : ∀ action ∈ last, ¬ Draws self token action) :
    (w.registry.attachments? self).isSome ∧ ∀ record ∈ w.registry.record self token,
      ∃ old ∈ u.registry.record self token,
        record.attachmentId = old.attachmentId ∧ old.generation ≤ record.generation := by
  induction last generalizing u with
  | nil =>
    obtain rfl := Option.some.inj run
    exact ⟨known, fun record same => ⟨record, same, rfl, Nat.le_refl _⟩⟩
  | cons action last ih =>
    obtain ⟨mid, first, rest⟩ := exec_cons run
    obtain ⟨there, changed⟩ := record_step owned first known token
    obtain ⟨here, newer⟩ := ih (step_owned owned first) rest there
      fun b mem => kept b (List.mem_cons_of_mem action mem)
    refine ⟨here, fun record mem => ?_⟩
    obtain ⟨between, mem', same, le⟩ := newer record mem
    rw [changed] at mem'
    obtain ⟨old, mem'', same', le'⟩ := recordAfter_newer (kept action List.mem_cons_self) _ between mem'
    exact ⟨old, mem'', same.trans same', le'.trans le⟩

/-! ### Calls without effect -/

/-- A step changes neither records nor leases nor tasks. -/
structure Unaffected (w w' : World) : Prop where
  tasks : w'.tasks = w.tasks
  records : ∀ id token, w'.registry.record id token = w.registry.record id token
  leases : ∀ id, w'.registry.leases? id = w.registry.leases? id
  sessions : w'.registry.sessions = w.registry.sessions

lemma leases?_changeAttachments (r : Registry) (self : String)
    (action : Table String AttachmentRecord → Table String AttachmentRecord) (id : String) :
    (r.changeAttachments self action).leases? id = r.leases? id :=
  Table.map_lookup_modify (f := Terminal.withAttachments action) (fun _ => rfl) id

lemma Unaffected.of_modify {f : AttachmentRecord → AttachmentRecord}
    (same : (w.registry.record self token).map f = w.registry.record self token) :
    Unaffected w { w with
      registry := w.registry.changeAttachments self fun records => records.modify token f } := by
  refine ⟨rfl, fun id key => ?_, leases?_changeAttachments _ _ _, rfl⟩
  dsimp only
  rw [record_modify]
  split
  case isTrue own => rw [own.1, own.2, same]
  case isFalse => rfl

lemma closeAttachment_spec (step : w.step (.closeAttachment task self token generation expire) = some w') :
    ∃ record, w.registry.record self token = some record ∧ record.generation = generation ∧
      (expire → record.connected = false) ∧
      w' = w.settle task (w.registry.removeAttachment self token)
        (some (.closing self record.attachmentId false)) := by
  rw [World.step] at step
  split at step
  case h_2 => cases step
  case h_1 record removable =>
    obtain ⟨_, rfl⟩ := launch_eq_some step
    unfold removableAttachment at removable
    obtain ⟨terminal, found, rest⟩ := Option.bind_eq_some_iff.1 removable
    obtain ⟨record', there, rest⟩ := Option.bind_eq_some_iff.1 rest
    split at rest
    case isTrue => cases rest
    case isFalse current =>
      obtain rfl := Option.some.inj rest
      rw [not_or, not_not, not_and, Bool.not_eq_true] at current
      refine ⟨record', ?_, current.1, current.2, rfl⟩
      rw [record, attachments?, found]
      exact there

lemma suspend_stale (stale : ∀ record ∈ w.registry.record self token, record.generation ≠ generation)
    (step : w.step (.suspendAttachment self token generation) = some w') : Unaffected w w' := by
  obtain rfl := Option.some.inj step
  apply Unaffected.of_modify
  cases there : w.registry.record self token with
  | none => rfl
  | some record =>
    rw [Option.map_some, AttachmentRecord.suspended, if_pos (.inl (stale record there))]

lemma close_stale (stale : ∀ record ∈ w.registry.record self token, record.generation ≠ generation) :
    w.step (.closeAttachment task self token generation expire) = none := by
  cases step : w.step (.closeAttachment task self token generation expire) with
  | none => rfl
  | some w' =>
    obtain ⟨record, there, same, _⟩ := closeAttachment_spec step
    exact (stale record there same).elim

lemma resume_gone (gone : w.registry.record self token = none)
    (step : w.step (.resumeAttachment self token) = some w') : Unaffected w w' := by
  obtain rfl := Option.some.inj step
  apply Unaffected.of_modify
  rw [gone]
  rfl

/-! ### Kept leases -/

lemma acquire_keeps {lease : LeaseKind} (owner : leases.leaseOwner kind = some a) :
    (leases.acquire attachmentId lease).leaseOwner kind = some a := by
  unfold AttachmentLeaseRegistry.acquire
  dsimp only
  split
  case isFalse => exact owner
  case isTrue free =>
    by_cases same : lease = kind
    · rw [same, owner] at free
      have own : a = attachmentId := Option.some.inj (free.resolve_left nofun)
      rw [same, own]
      cases kind <;> rfl
    · cases lease <;> cases kind
      · exact (same rfl).elim
      · exact owner
      · exact owner
      · exact (same rfl).elim

lemma requestInitial_keeps {input layout : Bool} (owner : leases.leaseOwner kind = some a) :
    (leases.requestInitial attachmentId input layout).leaseOwner kind = some a := by
  have held : ∀ {requested : Bool} {current : Option String}, current = some a →
      (if requested ∧ current.isNone then some attachmentId else current) = some a := by
    intro requested current found
    rw [found]
    exact if_neg fun both => nomatch both.2
  cases kind with
  | input => exact held owner
  | layout => exact held owner

end World

namespace Registry

lemma leases?_changeLeases (r : Registry) (self : String)
    (action : AttachmentLeaseRegistry → AttachmentLeaseRegistry) (id : String) :
    (r.changeLeases self action).leases? id =
      if id = self then (r.leases? id).map action else r.leases? id := by
  rw [leases?, changeLeases, editTerminal, Table.lookup_modify]
  split
  case isTrue eq =>
    rw [leases?, eq, Option.map_map, Option.map_map]
    rfl
  case isFalse => rfl

variable {r : Registry} {a : String} {self id k : String} {action : AttachmentLeaseRegistry → AttachmentLeaseRegistry}
  {r' : Registry}

lemma InputOwner.changeLeases (h : r.InputOwner id a)
    (keeps : ∀ leases : AttachmentLeaseRegistry, id = self → leases.leaseOwner .input = some a →
      (action leases).leaseOwner .input = some a) : (r.changeLeases self action).InputOwner id a := by
  obtain ⟨leases, found, owner⟩ := h
  unfold InputOwner
  rw [leases?_changeLeases]
  split
  case isTrue same => exact ⟨action leases, Option.map_eq_some_iff.2 ⟨leases, found, rfl⟩, keeps leases same owner⟩
  case isFalse => exact ⟨leases, found, owner⟩

lemma LayoutOwner.changeViewLeases (h : r.LayoutOwner k a)
    (keeps : ∀ leases : AttachmentLeaseRegistry, leases.leaseOwner .layout = some a →
      (action leases).leaseOwner .layout = some a) : (r.changeViewLeases self action).LayoutOwner k a := by
  unfold Registry.changeViewLeases
  split
  case h_1 => exact h
  case h_2 terminal _ =>
    obtain ⟨session, found, owner⟩ := h
    unfold LayoutOwner
    rw [editView, editSession, Table.lookup_modify]
    split
    case isTrue same =>
      rw [← same, found]
      exact ⟨_, rfl, keeps _ owner⟩
    case isFalse => exact ⟨session, found, owner⟩

lemma LayoutOwner.of_sessions (same : r'.sessions = r.sessions) (h : r.LayoutOwner k a) : r'.LayoutOwner k a := by
  obtain ⟨session, found, owner⟩ := h
  exact ⟨session, by rw [same]; exact found, owner⟩

lemma InputOwner.of_leases (same : r'.leases? id = r.leases? id) (h : r.InputOwner id a) : r'.InputOwner id a := by
  obtain ⟨leases, found, owner⟩ := h
  exact ⟨leases, by rw [same]; exact found, owner⟩

end Registry

namespace World
open Registry

/-- The calls of attachments: no operation on a session, and no request to give a lease back. -/
def Calls : Action → Prop
  | .perform _ | .commit _ _ _ _ | .releaseLease _ _ _ => False
  | _ => True

variable {w w' : World} {action : Action} {id a : String} {actions : List Action} {task : Nat} {released : Bool}

lemma input_step (owned : w.registry.Owned) (step : w.step action = some w') (call : Calls action)
    (owner : w.registry.InputOwner id a) :
    w'.registry.InputOwner id a ∨
      ∃ task, AList.lookup task w.tasks = some (.closing id a false) := by
  have kept : ∀ {r : Registry}, r.leases? id = w.registry.leases? id →
      r.InputOwner id a ∨ ∃ task, AList.lookup task w.tasks = some (.closing id a false) :=
    fun same => .inl (owner.of_leases same)
  have view : ∀ self change, (w.registry.changeViewLeases self change).leases? id = w.registry.leases? id := by
    intro self change
    unfold Registry.changeViewLeases
    split <;> rfl
  cases step_transition owned step with
  | environment pty => exact kept rfl
  | perform _ => exact call.elim
  | begin _ => rw [settle_registry]; exact kept rfl
  | refuse _ _ => rw [settle_registry]; exact kept rfl
  | reserve _ _ _ => rw [settle_registry]; exact kept rfl
  | abandon _ => rw [settle_registry]; exact kept rfl
  | commit _ _ _ _ => exact call.elim
  | drop _ => rw [settle_registry]; exact kept rfl
  | openAttachment _ _ _ => rw [settle_registry]; exact kept (leases?_changeAttachments _ _ _ _)
  | resumeAttachment self token => exact kept (leases?_changeAttachments _ _ _ _)
  | suspendAttachment self token generation => exact kept (leases?_changeAttachments _ _ _ _)
  | closeAttachment _ _ _ => rw [settle_registry]; exact kept (leases?_changeAttachments _ _ _ _)
  | acquireLease self attachmentId lease =>
    cases lease with
    | layout => exact kept (view _ _)
    | input => exact .inl (owner.changeLeases fun leases _ held => acquire_keeps held)
  | releaseLease _ _ _ => exact call.elim
  | requestInput _ =>
    rw [settle_registry]
    exact .inl (owner.changeLeases fun leases _ held => requestInitial_keeps held)
  | requestLayout _ => rw [settle_registry]; exact kept (view _ _)
  | @releaseInput task self attachmentId found =>
    rw [settle_registry]
    by_cases own : id = self ∧ a = attachmentId
    · rw [← own.1, ← own.2] at found
      exact .inr ⟨task, found⟩
    · refine .inl (owner.changeLeases fun leases same held => ?_)
      exact (AttachmentLeaseRegistry.releaseAttachment_owner .input).2 ⟨held, fun other => own ⟨same, other⟩⟩
  | releaseLayout _ => rw [settle_registry]; exact kept (view _ _)

lemma layout_step (owned : w.registry.Owned) (step : w.step action = some w') (call : Calls action) {k : String}
    (owner : w.registry.LayoutOwner k a) :
    w'.registry.LayoutOwner k a ∨
      ∃ task id, AList.lookup task w.tasks = some (.closing id a true) := by
  have kept : ∀ {r : Registry}, r.sessions = w.registry.sessions →
      r.LayoutOwner k a ∨ ∃ task id, AList.lookup task w.tasks = some (.closing id a true) :=
    fun same => .inl (owner.of_sessions same)
  cases step_transition owned step with
  | environment pty => exact kept rfl
  | perform _ => exact call.elim
  | begin _ => rw [settle_registry]; exact kept rfl
  | refuse _ _ => rw [settle_registry]; exact kept rfl
  | reserve _ _ _ => rw [settle_registry]; exact kept rfl
  | abandon _ => rw [settle_registry]; exact kept rfl
  | commit _ _ _ _ => exact call.elim
  | drop _ => rw [settle_registry]; exact kept rfl
  | openAttachment _ _ _ => rw [settle_registry]; exact kept rfl
  | resumeAttachment self token => exact kept rfl
  | suspendAttachment self token generation => exact kept rfl
  | closeAttachment _ _ _ => rw [settle_registry]; exact kept rfl
  | acquireLease self attachmentId lease =>
    cases lease with
    | layout => exact .inl (owner.changeViewLeases fun leases held => acquire_keeps held)
    | input => exact kept rfl
  | releaseLease _ _ _ => exact call.elim
  | requestInput _ => rw [settle_registry]; exact kept rfl
  | requestLayout _ =>
    rw [settle_registry]
    exact .inl (owner.changeViewLeases fun leases held => requestInitial_keeps held)
  | releaseInput _ => rw [settle_registry]; exact kept rfl
  | @releaseLayout task self attachmentId found =>
    rw [settle_registry]
    by_cases own : a = attachmentId
    · rw [← own] at found
      exact .inr ⟨task, self, found⟩
    · refine .inl (owner.changeViewLeases fun leases held => ?_)
      exact (AttachmentLeaseRegistry.releaseAttachment_owner .layout).2 ⟨held, own⟩

/-! ### Closes of a run -/

def start : World := ⟨.default, ∅⟩

/-- In a run from the start an attachment was closed or has expired, as the current generation of its
    record, and disconnected if it has expired. -/
def ClosedCurrent (actions : List Action) (id a : String) : Prop :=
  ∃ before task token generation, ∃ (expire : Bool), ∃ after w record,
    actions = before ++ Action.closeAttachment task id token generation expire :: after ∧
    exec step start before = some w ∧ w.registry.record id token = some record ∧
    record.attachmentId = a ∧ record.generation = generation ∧ (expire → record.connected = false)

lemma ClosedCurrent.append (h : ClosedCurrent actions id a) (more : List Action) :
    ClosedCurrent (actions ++ more) id a := by
  obtain ⟨before, task, token, generation, expire, after, w, record, split, rest⟩ := h
  exact ⟨before, task, token, generation, expire, after ++ more, w, record, by simp [split], rest⟩

lemma closing_step (owned : w.registry.Owned) (step : w.step action = some w')
    (found : AList.lookup task w'.tasks = some (.closing id a released)) :
    (∃ released', AList.lookup task w.tasks = some (.closing id a released')) ∨
      ∃ token generation, ∃ (expire : Bool), ∃ record,
        action = .closeAttachment task id token generation expire ∧ w.registry.record id token = some record ∧ record.attachmentId = a ∧
        record.generation = generation ∧ (expire → record.connected = false) := by
  have settled : ∀ {task' r next}, AList.lookup task (w.settle task' r next).tasks =
      some (.closing id a released) → next = some (.closing id a released) ∧ task = task' ∨
        AList.lookup task w.tasks = some (.closing id a released) := by
    intro task' r next found
    rw [lookup_settle] at found
    split at found
    case isTrue same => exact .inl ⟨found, same⟩
    case isFalse => exact .inr found
  have other : ∀ {task' r next},
      AList.lookup task (w.settle task' r next).tasks = some (.closing id a released) →
      (∀ released, next ≠ some (.closing id a released)) →
      ∃ released', AList.lookup task w.tasks = some (.closing id a released') := by
    intro task' r next found no
    rcases settled found with ⟨same, _⟩ | before
    · exact (no released same).elim
    · exact ⟨released, before⟩
  cases step_transition owned step with
  | environment pty => exact .inl ⟨released, found⟩
  | perform _ => exact .inl ⟨released, found⟩
  | begin _ => exact .inl (other found (by rintro _ ⟨⟩))
  | refuse _ _ => exact .inl (other found (by rintro _ ⟨⟩))
  | reserve _ _ _ => exact .inl (other found (by rintro _ ⟨⟩))
  | abandon _ => exact .inl (other found (by rintro _ ⟨⟩))
  | commit _ _ _ commits =>
    refine .inl (other found ?_)
    cases commits with
    | create _ => rintro _ ⟨⟩
    | split _ next =>
      rcases next with rfl | rfl
      · rintro _ ⟨⟩
      · rintro _ ⟨⟩
    | keep _ _ => rintro _ ⟨⟩
    | move _ _ => rintro _ ⟨⟩
  | drop _ => exact .inl (other found (by rintro _ ⟨⟩))
  | openAttachment _ _ _ => exact .inl (other found (by rintro _ ⟨⟩))
  | resumeAttachment self token => exact .inl ⟨released, found⟩
  | suspendAttachment self token generation => exact .inl ⟨released, found⟩
  | @closeAttachment task' generation self token expire terminal record _ hterminal hrecord =>
    rcases settled found with ⟨same, rfl⟩ | before
    · obtain ⟨record', there, current, disconnected, _⟩ := closeAttachment_spec step
      have own : w.registry.record self token = some record := by
        rw [Registry.record, attachments?, hterminal]
        exact hrecord
      obtain rfl := Option.some.inj (own.symm.trans there)
      injection Option.some.inj same with self' a' _
      rw [← self', ← a']
      exact .inr ⟨token, generation, expire, record, rfl, own, rfl, current, disconnected⟩
    · exact .inl ⟨released, before⟩
  | acquireLease self attachmentId lease => exact .inl ⟨released, found⟩
  | releaseLease self attachmentId lease => exact .inl ⟨released, found⟩
  | requestInput _ => exact .inl (other found (by rintro _ ⟨⟩))
  | requestLayout _ => exact .inl (other found (by rintro _ ⟨⟩))
  | @releaseInput task' self attachmentId there =>
    rcases settled found with ⟨same, rfl⟩ | before
    · injection Option.some.inj same with self' a' _
      rw [← self', ← a']
      exact .inl ⟨false, there⟩
    · exact .inl ⟨released, before⟩
  | releaseLayout _ => exact .inl (other found (by rintro _ ⟨⟩))

lemma run_owned (run : exec step start actions = some w) : w.registry.Owned :=
  reachable_owned (Reachable.exec (.start rfl) actions run)

lemma closing_history (run : exec step start actions = some w)
    (found : AList.lookup task w.tasks = some (.closing id a released)) : ClosedCurrent actions id a := by
  induction actions using List.reverseRecOn generalizing w task released with
  | nil =>
    obtain rfl := Option.some.inj run
    exact nomatch found
  | append_singleton actions action ih =>
    obtain ⟨mid, before, last⟩ := exec_concat run
    rcases closing_step (run_owned before) last found with ⟨released', earlier⟩ | closed
    · exact (ih before earlier).append [action]
    · obtain ⟨token, generation, expire, record, rfl, there, same, current, disconnected⟩ := closed
      exact ⟨actions, task, token, generation, expire, [], mid, record, rfl, before, there, same, current,
        disconnected⟩

lemma run_leases {first last : List Action} {u : World} (before : exec step start first = some u)
    (run : exec step u last = some w) (calls : ∀ action ∈ last, Calls action) :
    (∀ id a, u.registry.InputOwner id a →
      w.registry.InputOwner id a ∨ ClosedCurrent (first ++ last) id a) ∧
    ∀ k a, u.registry.LayoutOwner k a →
      w.registry.LayoutOwner k a ∨ ∃ id, ClosedCurrent (first ++ last) id a := by
  induction last generalizing first u with
  | nil =>
    obtain rfl := Option.some.inj run
    exact ⟨fun _ _ owner => .inl owner, fun _ _ owner => .inl owner⟩
  | cons action last ih =>
    obtain ⟨mid, step, rest⟩ := exec_cons run
    have longer : exec World.step start (first ++ [action]) = some mid := by
      rw [exec, List.foldlM_append, Option.bind_eq_bind]
      exact Option.bind_eq_some_iff.2 ⟨u, before, by rw [List.foldlM_cons, step]; rfl⟩
    have call := calls action List.mem_cons_self
    obtain ⟨input, layout⟩ := ih longer rest fun b mem => calls b (List.mem_cons_of_mem action mem)
    rw [List.append_assoc, List.singleton_append] at input layout
    constructor
    · intro id a owner
      rcases input_step (run_owned before) step call owner with kept | ⟨task, closing⟩
      · exact input id a kept
      · exact .inr ((closing_history before closing).append _)
    · intro k a owner
      rcases layout_step (run_owned before) step call owner with kept | ⟨task, id, closing⟩
      · exact layout k a kept
      · exact .inr ⟨id, (closing_history before closing).append _⟩

/-! ### Generations over runs -/

/-- A generation was given to a transport and is the newest one. -/
def Issued (w : World) (self token : String) (generation : Nat) : Prop :=
  ∃ record, w.registry.record self token = some record ∧ record.generation = generation

def Active (w : World) (self token : String) (generation : Nat) : Prop :=
  ∃ record, w.registry.record self token = some record ∧ record.generation = generation ∧
    record.connected = true

/-- In every run, as long as the token of an attachment is not drawn again: at most one generation is
    active; once a generation is issued, no older one is active, no call with an older one has an effect,
    and neither has any call of a guard with an older one; an attachment that was closed or has expired
    stays away, and resuming it has no effect. As long as there are calls of attachments only, every lease
    stays with its owner unless the owner was closed or has expired as its current generation. -/
theorem attachment_generations (first last : List Action) (self token : String) {u w : World}
    (before : exec step start first = some u) (run : exec step u last = some w)
    (kept : ∀ action ∈ last, ¬ Draws self token action) :
    (∀ g g', w.Active self token g → w.Active self token g' → g = g') ∧
    (∀ n, u.Issued self token n → ∀ g < n, ¬ w.Active self token g ∧
      (∀ w', w.step (.suspendAttachment self token g) = some w' → Unaffected w w') ∧
      (∀ task expire, w.step (.closeAttachment task self token g expire) = none) ∧
      ∀ guard : AttachmentGuard, guard.attachmentToken = token → guard.generation = g →
        ∀ task, ∀ action ∈ guard.calls self task, ∀ w', w.step action = some w' → Unaffected w w') ∧
    (∀ past task g expire, first = past ++ [Action.closeAttachment task self token g expire] →
      w.registry.record self token = none ∧
      ∀ w', w.step (.resumeAttachment self token) = some w' → Unaffected w w') ∧
    ((∀ action ∈ last, Calls action) →
      (∀ a, u.registry.InputOwner self a →
        w.registry.InputOwner self a ∨ ClosedCurrent (first ++ last) self a) ∧
      ∀ k a, u.registry.LayoutOwner k a →
        w.registry.LayoutOwner k a ∨ ∃ id, ClosedCurrent (first ++ last) id a) := by
  have owned := run_owned before
  refine ⟨?_, ?_, ?_, ?_⟩
  · rintro g g' ⟨record, there, rfl, _⟩ ⟨record', there', rfl, _⟩
    rw [Option.some.inj (there.symm.trans there')]
  · rintro n ⟨old, issued, rfl⟩ g older
    have known : (u.registry.attachments? self).isSome := by
      obtain ⟨records, found, _⟩ := Option.bind_eq_some_iff.1 issued
      rw [found]
      rfl
    have stale : ∀ record ∈ w.registry.record self token, record.generation ≠ g := by
      intro record there
      obtain ⟨old', issued', _, newer⟩ := (run_record owned run known kept).2 record there
      obtain rfl := Option.some.inj (issued.symm.trans issued')
      omega
    refine ⟨?_, fun w' => suspend_stale stale, fun task expire => close_stale stale, ?_⟩
    · rintro ⟨record, there, same, _⟩
      exact stale record there same
    · rintro guard rfl rfl task action mem w' step
      rcases AttachmentGuard.mem_calls mem with rfl | ⟨expire, rfl⟩
      · exact suspend_stale stale step
      · rw [close_stale stale] at step
        exact nomatch step
  · rintro past task g expire rfl
    obtain ⟨mid, earlier, close⟩ := exec_concat before
    obtain ⟨record, there, _⟩ := closeAttachment_spec close
    have known : (mid.registry.attachments? self).isSome := by
      obtain ⟨records, found, _⟩ := Option.bind_eq_some_iff.1 there
      rw [found]
      rfl
    obtain ⟨known', removed⟩ := record_step (run_owned earlier) close known token
    rw [recordAfter, if_pos ⟨rfl, rfl⟩] at removed
    have gone : w.registry.record self token = none := by
      apply Option.eq_none_iff_forall_not_mem.2
      intro record there
      obtain ⟨old, found, _⟩ := (run_record owned run known' kept).2 record there
      rw [removed] at found
      exact nomatch found
    exact ⟨gone, fun w' => resume_gone gone⟩
  · intro calls
    obtain ⟨input, layout⟩ := run_leases before run calls
    exact ⟨fun a => input self a, layout⟩

/-- A client that reconnects: its second connection is suspended while the guard of the first one is still
    to be dropped. -/
def reconnected : List Action :=
  attachedPane ++ [Action.suspendAttachment "t2" "token" 0, .resumeAttachment "t2" "token"]

theorem attachment_generations_reconnected :
    ∃ u w, exec step start reconnected = some u ∧
      exec step u [.suspendAttachment "t2" "token" 1] = some w ∧
      (∀ task expire, w.step (.closeAttachment task "t2" "token" 0 expire) = none) ∧
      ¬ w.Active "t2" "token" 0 ∧
      (w.registry.InputOwner "t2" "client" ∨
        ClosedCurrent (reconnected ++ [Action.suspendAttachment "t2" "token" 1]) "t2" "client") := by
  refine ⟨_, _, rfl, rfl, ?_⟩
  have kept : ∀ action ∈ [Action.suspendAttachment "t2" "token" 1], ¬ Draws "t2" "token" action := by
    intro action mem
    rw [List.mem_singleton.1 mem]
    exact id
  obtain ⟨_, stale, _, leases⟩ := attachment_generations reconnected
    [.suspendAttachment "t2" "token" 1] "t2" "token" rfl rfl kept
  obtain ⟨inactive, _, refused, _⟩ := stale 1 ⟨_, rfl, rfl⟩ 0 (by decide)
  refine ⟨refused, inactive, (leases ?_).1 "client" ⟨_, rfl, rfl⟩⟩
  intro action mem
  rw [List.mem_singleton.1 mem]
  trivial

end World

end Ctl.Daemon
