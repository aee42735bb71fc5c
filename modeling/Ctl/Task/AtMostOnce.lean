import Ctl.Task.Managed

/-!
# At most one process for a run

The invariant of the two daemons. A run is *sealed* when no process of it runs and the ctmuxd that it
is pinned to cannot create one any more: it has gone, it drains, or it remembers the run. Sealed runs
stay sealed in every step of either daemon (`Evolves.sealed`), and ctl-taskd closes only sealed runs.
-/

namespace Ctl.Task.Managed
open Ctl.Base
open Ctl.Task.Requests (executionDefinition recovered redefined started)

/-! ### Sealed runs -/

/-- No process of a durable run runs, and none can be created any more. -/
def World.Sealed (w : World) (runId : String) : Prop :=
  ∃ pin, w.pins[runId]? = some pin ∧
    (∀ (id : String) (terminal : Terminal), w.terminals[id]? = some terminal →
      terminal.key.runId = runId → terminal.lifecycle ≠ .running) ∧
    ∀ ctmuxd, w.ctmuxd = some ctmuxd → ctmuxd.instanceId = pin.instanceId →
      ctmuxd.draining = true ∨ (AList.lookup ⟨pin.taskId, runId⟩ ctmuxd.managed).isSome

/-- The processes are those of pinned runs, and ctmuxd remembers its own. -/
structure Backed (w : World) : Prop where
  pinned : ∀ (id : String) (terminal : Terminal), w.terminals[id]? = some terminal →
    w.pins[terminal.key.runId]? = some ⟨terminal.key.taskId, terminal.instanceId⟩
  unique : ∀ (id id' : String) (terminal terminal' : Terminal), w.terminals[id]? = some terminal →
    w.terminals[id']? = some terminal' → terminal.key.runId = terminal'.key.runId → id = id'
  known : ∀ (runId : String) (pin : Pin), w.pins[runId]? = some pin → pin.instanceId ∈ w.instances
  current : ∀ ctmuxd, w.ctmuxd = some ctmuxd → ctmuxd.instanceId ∈ w.instances
  served : ∀ (id : String) (terminal : Terminal), w.terminals[id]? = some terminal →
    terminal.lifecycle = .running →
      ∃ ctmuxd, w.ctmuxd = some ctmuxd ∧ ctmuxd.instanceId = terminal.instanceId
  occupied : ∀ ctmuxd, w.ctmuxd = some ctmuxd → ctmuxd.draining = false →
    ∀ (id : String) (terminal : Terminal), w.terminals[id]? = some terminal →
      terminal.instanceId = ctmuxd.instanceId →
        AList.lookup terminal.key ctmuxd.managed = some (some id) ∨
          AList.lookup terminal.key ctmuxd.managed = some none ∧ terminal.lifecycle ≠ .running

/-- What a step of the two daemons may change. -/
structure Evolves (w w' : World) : Prop where
  pins : ∀ (runId : String) (pin : Pin), w.pins[runId]? = some pin → w'.pins[runId]? = some pin
  closed : w.closed ⊆ w'.closed
  instances : w.instances ⊆ w'.instances
  /-- A terminal was there before, or the run is pinned to a ctmuxd that does not remember it. -/
  terminals : ∀ (id : String) (terminal' : Terminal), w'.terminals[id]? = some terminal' →
    (∃ terminal, w.terminals[id]? = some terminal ∧ terminal.key = terminal'.key ∧
      terminal.instanceId = terminal'.instanceId ∧
      (terminal'.lifecycle = .running → terminal.lifecycle = .running)) ∨
    ∃ ctmuxd, w.ctmuxd = some ctmuxd ∧ ctmuxd.draining = false ∧
      w.pins[terminal'.key.runId]? = some ⟨terminal'.key.taskId, ctmuxd.instanceId⟩ ∧
      AList.lookup terminal'.key ctmuxd.managed = none
  /-- A ctmuxd forgets its runs only when it begins to drain. -/
  ctmuxd : ∀ ctmuxd', w'.ctmuxd = some ctmuxd' → ctmuxd'.instanceId ∉ w.instances ∨
    ∃ ctmuxd, w.ctmuxd = some ctmuxd ∧ ctmuxd.instanceId = ctmuxd'.instanceId ∧
      (ctmuxd.draining = true → ctmuxd'.draining = true) ∧
      ∀ key, (AList.lookup key ctmuxd.managed).isSome →
        ctmuxd'.draining = true ∨ (AList.lookup key ctmuxd'.managed).isSome

lemma Evolves.terminal_old {w w' : World} (h : Evolves w w') {runId : String} (closed : w.Sealed runId) {id : String}
    {terminal' : Terminal} (found : w'.terminals[id]? = some terminal') (run : terminal'.key.runId = runId) :
    ∃ terminal, w.terminals[id]? = some terminal ∧ terminal.key = terminal'.key ∧
      terminal.instanceId = terminal'.instanceId ∧
      (terminal'.lifecycle = .running → terminal.lifecycle = .running) := by
  obtain ⟨pin, pinned, -, remembers⟩ := closed
  cases h.terminals id terminal' found with
  | inl old => exact old
  | inr fresh =>
    obtain ⟨ctmuxd, serves, accepts, pinned', free⟩ := fresh
    exfalso
    subst run
    obtain rfl : pin = _ := Option.some.inj (pinned.symm.trans pinned')
    cases remembers ctmuxd serves rfl with
    | inl drains =>
      rw [drains] at accepts
      cases accepts
    | inr there =>
      rw [free] at there
      cases there

variable {w : World} {runId : String} {ctmuxd : Ctmuxd} {message : Message} {w' : World} {creation : Creation}
  {killError : Option String} {terminals : Terminals}

lemma Evolves.sealed (h : Evolves w w') (backed : Backed w) (closed : w.Sealed runId) : w'.Sealed runId := by
  have old := @h.terminal_old _ _ runId closed
  obtain ⟨pin, pinned, ended, remembers⟩ := closed
  refine ⟨pin, h.pins runId pin pinned, ?_, ?_⟩
  · intro id terminal' found run runs
    obtain ⟨terminal, found, key, -, ran⟩ := old found run
    apply ended id terminal found ?_ (ran runs)
    rw [key, run]
  · intro ctmuxd' serves same
    cases h.ctmuxd ctmuxd' serves with
    | inl fresh =>
      rw [same] at fresh
      exact absurd (backed.known runId pin pinned) fresh
    | inr old =>
      obtain ⟨ctmuxd, serves, eq, drains, keeps⟩ := old
      cases remembers ctmuxd serves (eq.trans same) with
      | inl draining => exact .inl (drains draining)
      | inr there => exact keeps _ there

lemma Backed.sealed_of_gone (h : Backed w) {pin : Pin} (pinned : w.pins[runId]? = some pin)
    (gone : ∀ ctmuxd, w.ctmuxd = some ctmuxd → ctmuxd.instanceId ≠ pin.instanceId) : w.Sealed runId := by
  refine ⟨pin, pinned, ?_, ?_⟩
  · intro id terminal found run runs
    obtain ⟨ctmuxd, serves, same⟩ := h.served id terminal found runs
    have pinned' := h.pinned id terminal found
    rw [run, pinned] at pinned'
    obtain rfl := Option.some.inj pinned'
    exact gone ctmuxd serves same
  · intro ctmuxd serves same
    exact absurd same (gone ctmuxd serves)

lemma Backed.sealed_of_remembered (h : Backed w) {taskId : String} (serves : w.ctmuxd = some ctmuxd)
    (accepts : ctmuxd.draining = false) (pinned : w.pins[runId]? = some ⟨taskId, ctmuxd.instanceId⟩)
    {session : Option String} (there : AList.lookup ⟨taskId, runId⟩ ctmuxd.managed = some session)
    (ended : session.any (isRunning w.terminals) = false) : w.Sealed runId := by
  refine ⟨_, pinned, ?_, ?_⟩
  · intro id terminal found run runs
    have pinned' := h.pinned id terminal found
    rw [run, pinned] at pinned'
    have same := Option.some.inj pinned'
    have key : terminal.key = ⟨taskId, runId⟩ := RunKey.ext (Pin.mk.inj same).1.symm run
    have occupied := h.occupied ctmuxd serves accepts id terminal found (Pin.mk.inj same).2.symm
    rw [key, there] at occupied
    cases occupied with
    | inl occupied =>
      rw [Option.some.inj occupied, Option.any_some, isRunning, found, Option.any_some,
        decide_eq_false_iff_not] at ended
      exact ended runs
    | inr retired => exact retired.2 runs
  · intro ctmuxd' serves' _
    obtain rfl := Option.some.inj (serves.symm.trans serves')
    exact .inr (by rw [there]; rfl)

/-! ### Operations of ctmuxd -/

/-- A ctmuxd carries a request out: it accepts requests, and it is the one that the request expects. -/
structure Accepts (ctmuxd : Ctmuxd) (message : Message) : Prop where
  accepts : ctmuxd.draining = false
  expected : ∀ instanceId, message.expectedInstance = some instanceId →
    instanceId = ctmuxd.instanceId

/-- What a ctmuxd answers to a request, and what it leaves. -/
inductive Served (ctmuxd : Ctmuxd) (terminals : Terminals) (message : Message) :
    Exchanged × ManagedRuns × Terminals → Prop
  | refused (error : String) :
      Served ctmuxd terminals message (.error (.refused error), ctmuxd.managed, terminals)
  /-- The session of the run is reported. -/
  | reported (accepts : Accepts ctmuxd message) (keeps : message.operation ≠ .release)
      (stops : message.operation = .stop →
        ∃ terminalId, AList.lookup message.key ctmuxd.managed = some (some terminalId)) :
      Served ctmuxd terminals message
        (.ok (ctmuxd.instanceId, sessionInfo ctmuxd.managed terminals message.key),
          ctmuxd.managed, terminals)
  | created (accepts : Accepts ctmuxd message) (terminalId sessionId : String)
      (session : Option ManagedSessionInfo) (mutates : message.operation ≠ .status)
      (starts : message.operation ≠ .stop ∧ message.operation ≠ .release)
      (vacant : AList.lookup message.key ctmuxd.managed = none)
      (fresh : terminals[terminalId]? = none) :
      Served ctmuxd terminals message
        (.ok (ctmuxd.instanceId, session),
          AList.insert message.key (some terminalId) ctmuxd.managed,
          terminals.insert terminalId ⟨message.key, ctmuxd.instanceId, sessionId, .running⟩)
  /-- The run is remembered without a terminal. -/
  | retired (accepts : Accepts ctmuxd message) (session : Option ManagedSessionInfo)
      (mutates : message.operation ≠ .status)
      (ended : (AList.lookup message.key ctmuxd.managed).join.any (isRunning terminals) = false) :
      Served ctmuxd terminals message
        (.ok (ctmuxd.instanceId, session), AList.insert message.key none ctmuxd.managed, terminals)

lemma operate_served (accepts : Accepts ctmuxd message) (fresh : creation.isFresh terminals = true)
    (sound : ∀ terminalId sessionId error, creation ≠ .leaked terminalId sessionId error)
    {result : Except String Unit} {managed : ManagedRuns} {terminals' : Terminals}
    (h : operate ctmuxd.instanceId creation killError ctmuxd.managed terminals message.key
      message.operation = (result, managed, terminals')) :
    Served ctmuxd terminals message
      (match result.map fun _ => sessionInfo managed terminals' message.key with
        | .ok session => (.ok (ctmuxd.instanceId, session), managed, terminals')
        | .error error => (.error (.refused error), managed, terminals')) := by
  unfold operate at h
  split at h
  case h_1 program arguments directory starts =>
    have mutates : message.operation ≠ .status := by rw [starts]; exact ManagedOperation.noConfusion
    have stops : message.operation ≠ .stop := by rw [starts]; exact ManagedOperation.noConfusion
    have keeps : message.operation ≠ .release := by rw [starts]; exact ManagedOperation.noConfusion
    split at h
    case h_1 vacant =>
      split at h
      case h_1 terminalId sessionId =>
        cases h
        apply Served.created accepts terminalId sessionId _ mutates ⟨stops, keeps⟩ vacant
        exact Option.isNone_iff_eq_none.1 fresh
      case h_2 =>
        cases h
        exact .refused _
      case h_3 => exact absurd rfl (sound _ _ _)
    case h_2 =>
      cases h
      exact .refused _
    case h_3 =>
      cases h
      exact .reported accepts keeps fun eq => absurd eq stops
  case h_2 stops =>
    have keeps : message.operation ≠ .release := by rw [stops]; exact ManagedOperation.noConfusion
    have mutates : message.operation ≠ .status := by rw [stops]; exact ManagedOperation.noConfusion
    split at h
    case h_1 terminalId there =>
      have reported : Served ctmuxd terminals message _ :=
        .reported accepts keeps fun _ => ⟨terminalId, there⟩
      split at h
      case h_1 =>
        cases h
        split
        case h_1 eq =>
          split at eq
          · cases eq
          · cases eq
            exact reported
        case h_2 => exact .refused _
      case h_2 =>
        cases h
        exact reported
    case h_2 none_there =>
      cases h
      apply Served.retired accepts _ mutates
      cases there : AList.lookup message.key ctmuxd.managed with
      | none => rfl
      | some session =>
        cases session with
        | none => rfl
        | some terminalId => exact absurd there (none_there terminalId)
  case h_3 releases =>
    have mutates : message.operation ≠ .status := by
      rw [releases]
      exact ManagedOperation.noConfusion
    split at h
    case isTrue =>
      cases h
      exact .refused _
    case isFalse ended =>
      cases h
      exact .retired accepts _ mutates (Bool.eq_false_iff.2 ended)
  case h_4 reads =>
    cases h
    apply Served.reported accepts
    · rw [reads]
      exact ManagedOperation.noConfusion
    · intro stops
      rw [reads] at stops
      cases stops

lemma serve_served (fresh : creation.isFresh terminals = true)
    (sound : ∀ terminalId sessionId error, creation ≠ .leaked terminalId sessionId error) :
    Served ctmuxd terminals message (serve ctmuxd creation killError terminals message) := by
  rw [serve]
  split
  case isTrue => exact .refused _
  case isFalse accepting =>
    rw [manage]
    by_cases changed : message.expectedInstance.any (· ≠ ctmuxd.instanceId) = true
    · rw [if_pos changed]
      exact .refused _
    by_cases unpinned : message.operation ≠ .status ∧ message.expectedInstance = none
    · rw [if_neg changed, if_pos unpinned]
      exact .refused _
    by_cases full : AList.lookup message.key ctmuxd.managed = none ∧ message.operation ≠ .status ∧
        MANAGED_CAPACITY ≤ ctmuxd.managed.keys.length
    · rw [if_neg changed, if_neg unpinned, if_pos full]
      exact .refused _
    rw [if_neg changed, if_neg unpinned, if_neg full]
    have accepts : Accepts ctmuxd message := by
      refine ⟨Bool.eq_false_iff.2 accepting, ?_⟩
      intro instanceId expected
      by_contra other
      apply changed
      rw [expected, Option.any_some, decide_eq_true other]
    generalize done : operate ctmuxd.instanceId creation killError ctmuxd.managed terminals
      message.key message.operation = outcome
    obtain ⟨result, managed, terminals'⟩ := outcome
    have served := operate_served accepts fresh sound done
    cases result with
    | ok => exact served
    | error => exact served

/-! ### Requests and answers -/

/-- A request that changes something is for a durable run and names the instance that it is pinned
    to. -/
def World.Targeted (w : World) (message : Message) : Prop :=
  message.operation ≠ .status → ∃ instanceId, message.expectedInstance = some instanceId ∧
    w.pins[message.key.runId]? = some ⟨message.key.taskId, instanceId⟩

def World.Durable (w : World) (e : Exchange) : Prop :=
  w.pins[e.run.runId]? = some ⟨e.task.taskId, e.backend.instanceId⟩

/-- What the result of an exchange tells about its run. -/
def World.Answer (w : World) (e : Exchange) : Exchanged → Prop
  | .ok (observed, session) => observed ∈ w.instances ∧ (w.Durable e →
      (observed ≠ e.backend.instanceId → w.Sealed e.run.runId) ∧
      (e.purpose = .release → w.Sealed e.run.runId) ∧
      (e.purpose = .operate .stop → (∀ info, session = some info → info.running = false) →
        w.Sealed e.run.runId))
  | .error .gone => w.Durable e → w.Sealed e.run.runId
  | .error _ => True

/-- A ctmuxd has carried out a request. -/
structure Delivers (w w' : World) (ctmuxd : Ctmuxd) (message : Message) (reply : Exchanged)
    (managed : ManagedRuns) (terminals : Terminals) : Prop where
  serves : w.ctmuxd = some ctmuxd
  targeted : w.Targeted message
  served : Served ctmuxd w.terminals message (reply, managed, terminals)
  left : w'.ctmuxd = some { ctmuxd with managed }
  terminals : w'.terminals = terminals
  pins : w'.pins = w.pins
  instances : w'.instances = w.instances
  closed : w'.closed = w.closed

lemma Accepts.pinned (h : Accepts ctmuxd message) (targeted : w.Targeted message)
    (mutates : message.operation ≠ .status) :
    w.pins[message.key.runId]? = some ⟨message.key.taskId, ctmuxd.instanceId⟩ := by
  obtain ⟨instanceId, expected, pinned⟩ := targeted mutates
  obtain rfl := h.expected instanceId expected
  exact pinned

lemma Backed.vacant {w : World} (h : Backed w) {ctmuxd : Ctmuxd} (serves : w.ctmuxd = some ctmuxd)
    (accepts : ctmuxd.draining = false) {key : RunKey}
    (pinned : w.pins[key.runId]? = some ⟨key.taskId, ctmuxd.instanceId⟩)
    (vacant : AList.lookup key ctmuxd.managed = none) {id : String} {terminal : Terminal}
    (found : w.terminals[id]? = some terminal) : terminal.key.runId ≠ key.runId := by
  intro run
  have pinned' := h.pinned id terminal found
  rw [run, pinned] at pinned'
  have same := Pin.mk.inj (Option.some.inj pinned')
  have occupied := h.occupied ctmuxd serves accepts id terminal found same.2.symm
  rw [RunKey.ext (y := key) same.1.symm run, vacant] at occupied
  cases occupied with
  | inl occupied => cases occupied
  | inr retired => cases retired.1

section
variable {w w' : World} {ctmuxd : Ctmuxd} {message : Message} {reply : Exchanged}
  {managed : ManagedRuns} {terminals : Terminals}

lemma Delivers.backed (h : Delivers w w' ctmuxd message reply managed terminals) (backed : Backed w) : Backed w' := by
  obtain ⟨serves, targeted, served, left, terminals, pins, instances, -⟩ := h
  have known : ∀ (runId : String) (pin : Pin), w'.pins[runId]? = some pin →
      pin.instanceId ∈ w'.instances := by
    rw [pins, instances]
    exact backed.known
  have current : ∀ ctmuxd, w'.ctmuxd = some ctmuxd → ctmuxd.instanceId ∈ w'.instances := by
    intro ctmuxd' serves'
    rw [left] at serves'
    obtain rfl := Option.some.inj serves'
    rw [instances]
    exact backed.current ctmuxd serves
  -- The instance is the one before.
  have lives : ∀ terminal : Terminal, (∃ ctmuxd, w.ctmuxd = some ctmuxd ∧
      ctmuxd.instanceId = terminal.instanceId) → ∃ ctmuxd, w'.ctmuxd = some ctmuxd ∧
      ctmuxd.instanceId = terminal.instanceId := by
    rintro terminal ⟨ctmuxd', serves', same⟩
    obtain rfl := Option.some.inj (serves.symm.trans serves')
    exact ⟨_, left, same⟩
  cases served with
  | refused | reported =>
    refine ⟨?_, ?_, known, current, ?_, ?_⟩
    · rw [terminals, pins]
      exact backed.pinned
    · rw [terminals]
      exact backed.unique
    · rw [terminals]
      exact fun id terminal found runs => lives terminal (backed.served id terminal found runs)
    · intro ctmuxd' serves'
      rw [left] at serves'
      obtain rfl := Option.some.inj serves'
      rw [terminals]
      exact backed.occupied ctmuxd serves
  | created accepts terminalId sessionId session mutates starts vacant fresh =>
    have pinned := accepts.pinned targeted mutates
    have other := @Backed.vacant w backed ctmuxd serves accepts.accepts message.key pinned vacant
    refine ⟨?_, ?_, known, current, ?_, ?_⟩
    · intro id terminal found
      rw [terminals, OrdMap.get_insert] at found
      rw [pins]
      split at found
      case isTrue =>
        obtain rfl := Option.some.inj found
        exact pinned
      case isFalse => exact backed.pinned id terminal found
    · intro id id' terminal terminal' found found' run
      rw [terminals, OrdMap.get_insert] at found found'
      split at found
      case isTrue eq =>
        obtain rfl := Option.some.inj found
        split at found'
        case isTrue eq' => rw [← eq, ← eq']
        case isFalse => exact absurd run.symm (other found')
      case isFalse =>
        split at found'
        case isTrue eq' =>
          obtain rfl := Option.some.inj found'
          exact absurd run (other found)
        case isFalse => exact backed.unique id id' terminal terminal' found found' run
    · intro id terminal found runs
      rw [terminals, OrdMap.get_insert] at found
      split at found
      case isTrue =>
        obtain rfl := Option.some.inj found
        exact ⟨_, left, rfl⟩
      case isFalse => exact lives terminal (backed.served id terminal found runs)
    · intro ctmuxd' serves' accepts' id terminal found same
      rw [left] at serves'
      obtain rfl := Option.some.inj serves'
      rw [terminals, OrdMap.get_insert] at found
      dsimp only at same ⊢
      rw [Table.lookup_insert]
      split at found
      case isTrue eq =>
        obtain rfl := Option.some.inj found
        rw [if_pos rfl, eq]
        exact .inl rfl
      case isFalse =>
        rw [if_neg fun eq => other found (congrArg RunKey.runId eq.symm)]
        exact backed.occupied ctmuxd serves accepts' id terminal found same
  | retired accepts session mutates ended =>
    refine ⟨?_, ?_, known, current, ?_, ?_⟩
    · rw [terminals, pins]
      exact backed.pinned
    · rw [terminals]
      exact backed.unique
    · rw [terminals]
      exact fun id terminal found runs => lives terminal (backed.served id terminal found runs)
    · intro ctmuxd' serves' accepts' id terminal found same
      rw [left] at serves'
      obtain rfl := Option.some.inj serves'
      rw [terminals] at found
      dsimp only at same ⊢
      have occupied := backed.occupied ctmuxd serves accepts' id terminal found same
      rw [Table.lookup_insert]
      split
      case isFalse => exact occupied
      case isTrue eq =>
        refine .inr ⟨rfl, ?_⟩
        cases occupied with
        | inr before => exact before.2
        | inl before =>
          rw [eq, before, Option.join_some, Option.any_some, isRunning, found, Option.any_some,
            decide_eq_false_iff_not] at ended
          exact ended

lemma Delivers.evolves (h : Delivers w w' ctmuxd message reply managed terminals) : Evolves w w' := by
  obtain ⟨serves, targeted, served, left, terminals, pins, instances, closed⟩ := h
  have keeps : (∀ key, (AList.lookup key ctmuxd.managed).isSome →
      (AList.lookup key managed).isSome) → ∀ ctmuxd', w'.ctmuxd = some ctmuxd' →
      ctmuxd'.instanceId ∉ w.instances ∨ ∃ ctmuxd, w.ctmuxd = some ctmuxd ∧
      ctmuxd.instanceId = ctmuxd'.instanceId ∧
      (ctmuxd.draining = true → ctmuxd'.draining = true) ∧
      ∀ key, (AList.lookup key ctmuxd.managed).isSome →
        ctmuxd'.draining = true ∨ (AList.lookup key ctmuxd'.managed).isSome := by
    intro remembers ctmuxd' serves'
    rw [left] at serves'
    obtain rfl := Option.some.inj serves'
    exact .inr ⟨ctmuxd, serves, rfl, id, fun key there => .inr (remembers key there)⟩
  have inserted : ∀ (session : Option String) (key : RunKey),
      (AList.lookup key ctmuxd.managed).isSome →
      (AList.lookup key (AList.insert message.key session ctmuxd.managed)).isSome := by
    intro session key there
    rw [Table.lookup_insert]
    split
    · rfl
    · exact there
  have pins : ∀ (runId : String) (pin : Pin), w.pins[runId]? = some pin →
      w'.pins[runId]? = some pin := by
    rw [pins]
    exact fun _ _ => id
  have closed : w.closed ⊆ w'.closed := by rw [closed]; exact List.Subset.refl _
  have instances : w.instances ⊆ w'.instances := by rw [instances]; exact List.Subset.refl _
  cases served with
  | refused | reported =>
    refine ⟨pins, closed, instances, ?_, keeps fun _ => id⟩
    intro id terminal found
    rw [terminals] at found
    exact .inl ⟨terminal, found, rfl, rfl, fun runs => runs⟩
  | created accepts terminalId sessionId session mutates starts vacant fresh =>
    refine ⟨pins, closed, instances, ?_, keeps (inserted _)⟩
    intro id terminal found
    rw [terminals, OrdMap.get_insert] at found
    split at found
    case isTrue =>
      obtain rfl := Option.some.inj found
      exact .inr ⟨ctmuxd, serves, accepts.accepts, accepts.pinned targeted mutates, vacant⟩
    case isFalse => exact .inl ⟨terminal, found, rfl, rfl, fun runs => runs⟩
  | retired accepts session mutates ended =>
    refine ⟨pins, closed, instances, ?_, keeps (inserted _)⟩
    intro id terminal found
    rw [terminals] at found
    exact .inl ⟨terminal, found, rfl, rfl, fun runs => runs⟩

lemma Delivers.answer {e : Exchange} {call : Nat} (h : Delivers w w' ctmuxd (e.message call) reply managed terminals)
    (backed : Backed w) : w'.Answer e reply := by
  have backed' := h.backed backed
  obtain ⟨serves, targeted, served, left, terminals, pins, instances, -⟩ := h
  have known : ctmuxd.instanceId ∈ w'.instances := by
    rw [instances]
    exact backed.current ctmuxd serves
  have other : w'.Durable e → ctmuxd.instanceId ≠ e.backend.instanceId →
      w'.Sealed e.run.runId := by
    intro durable ne
    apply backed'.sealed_of_gone durable
    intro ctmuxd' serves'
    rw [left] at serves'
    obtain rfl := Option.some.inj serves'
    exact ne
  -- The request names the instance that answers.
  have same : Accepts ctmuxd (e.message call) → e.purpose.operation ≠ .status →
      e.backend.instanceId = ctmuxd.instanceId := by
    intro accepts mutates
    exact accepts.expected _ (if_neg mutates)
  cases served with
  | refused => trivial
  | reported accepts keeps stops =>
    refine ⟨known, fun durable => ⟨other durable, ?_, ?_⟩⟩
    · intro eq
      exact absurd (congrArg Purpose.operation eq) keeps
    · intro eq ended
      have stop : e.purpose.operation = .stop := congrArg Purpose.operation eq
      obtain ⟨terminalId, there⟩ := stops stop
      have pinned := durable
      rw [World.Durable, same accepts (by rw [stop]; exact ManagedOperation.noConfusion)] at pinned
      apply backed'.sealed_of_remembered left accepts.accepts pinned there
      rw [Option.any_some, terminals, isRunning]
      cases found : w.terminals[terminalId]? with
      | none => rfl
      | some terminal =>
        rw [Option.any_some, decide_eq_false_iff_not]
        intro runs
        have reported := ended terminal.info (by
          rw [sessionInfo, there]
          exact congrArg (Option.map Terminal.info) found)
        rw [Terminal.info, runs] at reported
        cases reported
  | created accepts terminalId sessionId session mutates starts vacant fresh =>
    refine ⟨known, fun durable => ⟨other durable, ?_, ?_⟩⟩
    · intro eq
      exact absurd (congrArg Purpose.operation eq) starts.2
    · intro eq _
      exact absurd (congrArg Purpose.operation eq) starts.1
  | retired accepts session mutates ended =>
    have retired : w'.Durable e → w'.Sealed e.run.runId := by
      intro durable
      rw [World.Durable, same accepts mutates] at durable
      apply backed'.sealed_of_remembered left accepts.accepts durable
      · exact AList.lookup_insert _
      · rfl
    exact ⟨known, fun durable => ⟨other durable, fun _ => retired durable, fun _ _ => retired durable⟩⟩

end

/-! ### The invariant -/

/-- The interactive runs of a task are durable, and the released ones are closed. -/
def World.Known (w : World) (task : TaskInfo) : Prop :=
  ∀ run backend, (task.activeRun = some run ∨ task.lastRun = some run) →
    run.interactive = some backend →
      w.pins[run.runId]? = some ⟨task.taskId, backend.instanceId⟩ ∧
        (backend.released = true → run.runId ∈ w.closed)

def World.Kept (w : World) (tasks : Tasks) : Prop :=
  ∀ (id : String) (task : TaskInfo), tasks[id]? = some task → task.taskId = id ∧ w.Known task

/-- What holds besides ctl-taskd. -/
structure Stable (w : World) : Prop where
  backed : Backed w
  requests : ∀ message ∈ w.requests, message.call < w.nextCall ∧ w.Targeted message
  replies : ∀ reply ∈ w.replies, reply.1 < w.nextCall
  file : w.Kept w.file
  closed : ∀ runId ∈ w.closed, w.Sealed runId

/-- What a job relies on. The run of `stop_interactive` is active until it is sealed. -/
def World.JobInv (w : World) (tasks : Tasks) (taskId : String) (job : Job) : Prop :=
  ∃ task, tasks[taskId]? = some task ∧ ∀ runId, job = .stop runId →
    (∃ run, task.activeRun = some run ∧ run.runId = runId ∧ task.desiredState = .stopped) ∨
      task.activeRun = none ∧ w.Sealed runId

def World.RunInv (w : World) (e : Exchange) : Prop :=
  match e.purpose with
  | .outcome | .release => e.task.activeRun = none ∧ e.task.lastRun = some e.run ∧
      e.run.interactive = some e.backend
  | .pin _ => w.pins[e.run.runId]? = none ∧ e.run.interactive = some e.backend ∧
      e.backend.released = false
  | .status => e.task.activeRun = some e.run ∧ e.run.interactive = some e.backend
  | .operate operation => e.task.activeRun = some e.run ∧ e.run.interactive = some e.backend ∧
      operation ≠ .release ∧ (e.task.desiredState = .stopped → operation = .stop)

structure World.ExchangeInv (w : World) (tasks : Tasks) (taskId : String) (e : Exchange) :
    Prop where
  task : tasks[taskId]? = some e.task
  run : w.RunInv e

structure World.PointInv (w : World) (tasks : Tasks) (point : Point) : Prop where
  job : w.JobInv tasks point.taskId point.job
  connecting : ∀ e, point.phase = .connecting e → w.ExchangeInv tasks point.taskId e
  waiting : ∀ e call, point.phase = .waiting e call → w.ExchangeInv tasks point.taskId e ∧
    call < w.nextCall ∧ (∀ message ∈ w.requests, message.call = call → message = e.message call) ∧
    ∀ reply ∈ w.replies, reply.1 = call → w.Answer e reply.2

/-- The invariant of both daemons. -/
structure Inv (w : World) : Prop where
  stable : Stable w
  taskd : ∀ taskd, w.taskd = some taskd → w.Kept taskd.tasks ∧
    ∀ point, taskd.point = some point → w.PointInv taskd.tasks point

/-- A step of ctl-taskd leaves ctmuxd alone. -/
structure Extends (w w' : World) : Prop where
  terminals : w'.terminals = w.terminals
  ctmuxd : w'.ctmuxd = w.ctmuxd
  instances : w'.instances = w.instances
  pins : ∀ (runId : String) (pin : Pin), w.pins[runId]? = some pin → w'.pins[runId]? = some pin
  closed : w.closed ⊆ w'.closed

lemma Extends.trans {w w' w'' : World} (h : Extends w w') (h' : Extends w' w'') : Extends w w'' where
  terminals := h'.terminals.trans h.terminals
  ctmuxd := h'.ctmuxd.trans h.ctmuxd
  instances := h'.instances.trans h.instances
  pins := fun runId pin found => h'.pins runId pin (h.pins runId pin found)
  closed := fun _ mem => h'.closed (h.closed mem)

lemma Extends.evolves (h : Extends w w') : Evolves w w' where
  pins := h.pins
  closed := h.closed
  instances := by rw [h.instances]; exact List.Subset.refl _
  terminals := by
    intro id terminal found
    rw [h.terminals] at found
    exact .inl ⟨terminal, found, rfl, rfl, fun runs => runs⟩
  ctmuxd := by
    intro ctmuxd serves
    rw [h.ctmuxd] at serves
    exact .inr ⟨ctmuxd, serves, rfl, fun drains => drains, fun _ there => .inr there⟩

section
variable {w w' : World} {tasks : Tasks}

lemma Evolves.known (h : Evolves w w') {task : TaskInfo} (known : w.Known task) : w'.Known task := by
  intro run backend member interactive
  obtain ⟨pinned, released⟩ := known run backend member interactive
  exact ⟨h.pins _ _ pinned, fun eq => h.closed (released eq)⟩

lemma Evolves.kept (h : Evolves w w') (kept : w.Kept tasks) : w'.Kept tasks := by
  intro id task found
  obtain ⟨key, known⟩ := kept id task found
  exact ⟨key, h.known known⟩

lemma Evolves.targeted (h : Evolves w w') {message : Message} (targeted : w.Targeted message) :
    w'.Targeted message := by
  intro mutates
  obtain ⟨instanceId, expected, pinned⟩ := targeted mutates
  exact ⟨instanceId, expected, h.pins _ _ pinned⟩

lemma Evolves.jobInv (h : Evolves w w') (backed : Backed w) {taskId : String} {job : Job}
    (inv : w.JobInv tasks taskId job) : w'.JobInv tasks taskId job := by
  obtain ⟨task, found, stops⟩ := inv
  refine ⟨task, found, ?_⟩
  intro runId stop
  cases stops runId stop with
  | inl active => exact .inl active
  | inr done => exact .inr ⟨done.1, h.sealed backed done.2⟩

end

/-! ### Steps of ctl-taskd -/

/-- What a step of ctl-taskd has to show. -/
def Leads (w w' : World) : Prop := Inv w' ∧ Extends w w'

section
variable {w : World} {tasks : Tasks} {job : Job} {taskId : String} {e : Exchange} {task : TaskInfo} {result : Exchanged}
  {verdict : Verdict} {execution : Except RequestError TaskDefinition}

lemma Leads.trans {w' w'' : World} (h : Extends w w') (h' : Leads w' w'') : Leads w w'' :=
  ⟨h'.1, h.trans h'.2⟩

lemma Stable.goTo (h : Stable w) (kept : w.Kept tasks) (point : Option Point)
    (inv : ∀ p, point = some p → w.PointInv tasks p) : Leads w (w.goTo tasks point) := by
  refine ⟨⟨⟨?_, h.requests, h.replies, h.file, h.closed⟩, ?_⟩, rfl, rfl, rfl, fun _ _ => id,
    fun _ => id⟩
  · exact ⟨h.backed.pinned, h.backed.unique, h.backed.known, h.backed.current, h.backed.served,
      h.backed.occupied⟩
  · intro taskd eq
    obtain rfl := Option.some.inj eq
    refine ⟨kept, ?_⟩
    intro p eq
    obtain ⟨job, connecting, waiting⟩ := inv p eq
    exact ⟨job, fun e eq => ⟨(connecting e eq).task, (connecting e eq).run⟩,
      fun e call eq => ⟨⟨(waiting e call eq).1.task, (waiting e call eq).1.run⟩, (waiting e call eq).2⟩⟩

lemma Stable.end (h : Stable w) (kept : w.Kept tasks) : Leads w (w.goTo tasks none) :=
  h.goTo kept none fun _ eq => by cases eq

lemma Stable.connecting (h : Stable w) (kept : w.Kept tasks) (inv : w.JobInv tasks taskId job)
    (exchange : w.ExchangeInv tasks taskId e) : Leads w (w.goTo tasks (some ⟨job, taskId, .connecting e⟩)) := by
  apply h.goTo kept
  intro p eq
  obtain rfl := Option.some.inj eq
  refine ⟨inv, ?_, ?_⟩
  · intro e' eq
    obtain rfl := Phase.connecting.inj eq
    exact exchange
  · intro e' call eq
    cases eq

lemma Stable.between (h : Stable w) (kept : w.Kept tasks) (inv : w.JobInv tasks taskId job)
    {phase : Phase} (idle : phase = .intending ∨ phase = .removing ∨ phase = .polling) :
    Leads w (w.goTo tasks (some ⟨job, taskId, phase⟩)) := by
  apply h.goTo kept
  intro p eq
  obtain rfl := Option.some.inj eq
  refine ⟨inv, ?_, ?_⟩
  · intro e eq
    obtain rfl : phase = _ := eq
    obtain eq | eq | eq := idle <;> cases eq
  · intro e call eq
    obtain rfl : phase = _ := eq
    obtain eq | eq | eq := idle <;> cases eq

lemma World.JobInv.resolve (inv : w.JobInv tasks taskId job) :
    ∃ task, tasks[taskId]? = some task ∧ resolveTask tasks taskId = .ok task := by
  obtain ⟨task, found, -⟩ := inv
  exact ⟨task, found, resolveTask_of_key found⟩

lemma Stable.close (h : Stable w) {runId : String} (closed : w.Sealed runId) :
    Stable { w with closed := runId :: w.closed } := by
  have more : ∀ {tasks : Tasks}, w.Kept tasks →
      World.Kept { w with closed := runId :: w.closed } tasks := by
    intro tasks kept id task found
    obtain ⟨key, known⟩ := kept id task found
    refine ⟨key, ?_⟩
    intro run backend member interactive
    obtain ⟨pinned, released⟩ := known run backend member interactive
    exact ⟨pinned, fun eq => List.mem_cons_of_mem _ (released eq)⟩
  refine ⟨?_, h.requests, h.replies, more h.file, ?_⟩
  · exact ⟨h.backed.pinned, h.backed.unique, h.backed.known, h.backed.current, h.backed.served,
      h.backed.occupied⟩
  · intro run mem
    cases List.mem_cons.1 mem with
    | inl eq =>
      subst eq
      exact closed
    | inr mem => exact h.closed run mem

lemma Stable.returned (h : Stable w) (kept : w.Kept tasks) (inv : w.JobInv tasks taskId job)
    (result : Except RequestError Unit) : Leads w (w.returned tasks job taskId result) := by
  cases result with
  | error e => exact h.end kept
  | ok =>
    cases job with
    | reconcile => exact h.end kept
    | started => exact h.end kept
    | start definition => exact h.between kept inv (.inl rfl)
    | remove => exact h.between kept inv (.inr (.inl rfl))
    | stop runId =>
      have polling : Leads w (w.goTo tasks (some ⟨.stop runId, taskId, .polling⟩)) :=
        h.between kept inv (.inr (.inr rfl))
      obtain ⟨task, found, stops⟩ := inv
      rw [World.returned]
      simp only [resolveTask_of_key found]
      split
      case isFalse => exact polling
      case isTrue ended =>
        cases stops runId rfl with
        | inl active =>
          obtain ⟨run, active, -⟩ := active
          rw [active] at ended
          cases ended
        | inr done =>
          have closing : Extends w { w with closed := runId :: w.closed } :=
            ⟨rfl, rfl, rfl, fun _ _ => id, List.subset_cons_self _ _⟩
          exact .trans closing ((h.close done.2).end (closing.evolves.kept kept))

lemma Stable.releaseOutcome (h : Stable w) (kept : w.Kept tasks) (inv : w.JobInv tasks taskId job) :
    Leads w (w.releaseOutcome tasks job taskId) := by
  obtain ⟨task, found, resolved⟩ := inv.resolve
  rw [World.releaseOutcome, resolved]
  dsimp only
  split
  case h_1 run idle last =>
    split
    case h_1 backend interactive =>
      split
      case isTrue => exact h.returned kept inv _
      case isFalse => exact h.connecting kept inv ⟨found, idle, last, interactive⟩
    case h_2 => exact h.returned kept inv _
  case h_2 => exact h.returned kept inv _

lemma Stable.reconcileOne (h : Stable w) (kept : w.Kept tasks) (inv : w.JobInv tasks taskId job) :
    Leads w (w.reconcileOne tasks job taskId) := by
  obtain ⟨task, found, resolved⟩ := inv.resolve
  rw [World.reconcileOne, resolved]
  dsimp only
  split
  case h_1 => exact h.releaseOutcome kept inv
  case h_2 run active =>
    split
    case h_1 backend interactive => exact h.connecting kept inv ⟨found, active, interactive⟩
    case h_2 => exact h.returned kept inv _

lemma storeTask_failed {previous : TaskInfo} (found : tasks[task.taskId]? = some previous) (error : String) :
    storeTask tasks (some error) task = tasks := by
  unfold storeTask
  simp only [found]
  exact OrdMap.insert_insert task found

lemma storeTask_stored (tasks : Tasks) (task : TaskInfo) :
    storeTask tasks none task = tasks.insert task.taskId task := rfl

lemma World.Kept.insert (h : w.Kept tasks) {taskId : String} (key : task.taskId = taskId) (known : w.Known task) :
    w.Kept (tasks.insert taskId task) := by
  intro id other found
  rw [OrdMap.get_insert] at found
  split at found
  case isTrue eq =>
    obtain rfl := Option.some.inj found
    exact ⟨key.trans eq, known⟩
  case isFalse => exact h id other found

lemma Stable.written (h : Stable w) (kept : w.Kept tasks) :
    Stable { w with file := tasks } ∧ World.Kept { w with file := tasks } tasks ∧
      Extends w { w with file := tasks } := by
  have writing : Extends w { w with file := tasks } := ⟨rfl, rfl, rfl, fun _ _ => id, fun _ => id⟩
  refine ⟨⟨?_, h.requests, h.replies, kept, h.closed⟩, writing.evolves.kept kept, writing⟩
  exact ⟨h.backed.pinned, h.backed.unique, h.backed.known, h.backed.current, h.backed.served,
    h.backed.occupied⟩

lemma Stable.stored (h : Stable w) (kept : w.Kept tasks) (known : w.Known task)
    (inv : w.JobInv (tasks.insert task.taskId task) taskId job) (result : Except RequestError Unit) :
    Leads w (World.returned { w with file := tasks.insert task.taskId task }
      (tasks.insert task.taskId task) job taskId result) := by
  obtain ⟨stable, kept, writing⟩ := h.written (kept.insert rfl known)
  exact .trans writing (stable.returned kept (writing.evolves.jobInv h.backed inv) result)

lemma World.JobInv.insert (inv : w.JobInv tasks taskId job) {task' : TaskInfo} (found : tasks[taskId]? = some task)
    (key : task'.taskId = taskId)
    (stops : ∀ runId, ((∃ run, task.activeRun = some run ∧ run.runId = runId ∧
        task.desiredState = .stopped) ∨ task.activeRun = none ∧ w.Sealed runId) →
      (∃ run, task'.activeRun = some run ∧ run.runId = runId ∧ task'.desiredState = .stopped) ∨
        task'.activeRun = none ∧ w.Sealed runId) : w.JobInv (tasks.insert task'.taskId task') taskId job := by
  obtain ⟨before, found', holds⟩ := inv
  obtain rfl := Option.some.inj (found.symm.trans found')
  refine ⟨task', ?_, ?_⟩
  · rw [OrdMap.get_insert, if_pos key]
  · exact fun runId stop => stops runId (holds runId stop)

lemma Stable.storeReleased (h : Stable w) (kept : w.Kept tasks) (inv : w.JobInv tasks taskId job)
    (found : tasks[taskId]? = some e.task) (idle : e.task.activeRun = none) (last : e.task.lastRun = some e.run)
    (interactive : e.run.interactive = some e.backend) (closed : w.Sealed e.run.runId) (persistError : Option String) :
    Leads w (w.storeReleased tasks job taskId e persistError) := by
  obtain ⟨key, known⟩ := kept taskId e.task found
  have there : tasks[(e.task.releasing e.run e.backend).taskId]? = some e.task := by
    rw [← found, ← key]
    rfl
  unfold World.storeReleased
  dsimp only
  cases persistError with
  | some error =>
    rw [storeTask_failed there]
    exact h.returned kept inv _
  | none =>
    have closing : Extends w { w with closed := e.run.runId :: w.closed } :=
      ⟨rfl, rfl, rfl, fun _ _ => id, List.subset_cons_self _ _⟩
    refine .trans closing ((h.close closed).stored (closing.evolves.kept kept) ?_ ?_ (.ok ()))
    · intro run backend member eq
      cases member with
      | inl active =>
        rw [TaskInfo.releasing, idle] at active
        cases active
      | inr member =>
        obtain rfl := Option.some.inj member
        obtain rfl := Option.some.inj eq
        exact ⟨(known e.run e.backend (.inr last) interactive).1, fun _ => List.mem_cons_self⟩
    · refine (closing.evolves.jobInv h.backed inv).insert found ?_ ?_
      · exact key
      intro runId holds
      cases holds with
      | inl active =>
        obtain ⟨run, active, -⟩ := active
        rw [idle] at active
        cases active
      | inr done => exact .inr ⟨idle, done.2⟩

/-- The run has ended according to what `reconcile_one` got. -/
def Verdict.Ends : Verdict → Prop
  | .complete | .reject _ => True
  | .unknown _ | .operate _ => False
  | .settle session => ∀ info, session = some info → info.running = false

lemma conclude_cases (task : TaskInfo) (run : RunInfo) (backend : InteractiveRun) (now : Nat)
    (verdict : Verdict) (interactive : run.interactive = some backend) :
    (conclude task run backend now verdict).1 = none ∨
    ∃ run' backend', run'.runId = run.runId ∧ run'.interactive = some backend' ∧
      backend'.instanceId = backend.instanceId ∧ backend'.released = backend.released ∧
      ((conclude task run backend now verdict).1 = some { task with activeRun := some run' } ∨
        ∃ exitCode, (conclude task run backend now verdict).1
          = some (task.completed run' exitCode now) ∧ Verdict.Ends verdict) := by
  cases verdict with
  | complete => exact .inr ⟨run, backend, rfl, interactive, rfl, rfl, .inr ⟨none, rfl, trivial⟩⟩
  | reject => exact .inr ⟨run, backend, rfl, interactive, rfl, rfl, .inr ⟨none, rfl, trivial⟩⟩
  | unknown => exact .inr ⟨{ run with state := .unknown }, backend, rfl, interactive, rfl, rfl, .inl rfl⟩
  | operate => exact .inl rfl
  | settle session =>
    cases session with
    | none => exact .inr ⟨run, backend, rfl, interactive, rfl, rfl, .inr ⟨none, rfl, nofun⟩⟩
    | some info =>
      rw [conclude]
      split
      case isTrue =>
        split
        case isTrue =>
          exact .inr ⟨{ run.withSession backend info.sessionId with state := .running }, _, rfl, rfl,
            rfl, rfl, .inl rfl⟩
        case isFalse => exact .inl rfl
      case isFalse ended =>
        refine .inr ⟨run.withSession backend info.sessionId, _, rfl, rfl, rfl, rfl,
          .inr ⟨info.exitCode, rfl, ?_⟩⟩
        intro info' eq
        obtain rfl := Option.some.inj eq
        exact Bool.eq_false_iff.2 ended

/-- `settle` with what it has concluded. -/
def World.settled (w : World) (tasks : Tasks) (job : Job) (taskId : String) (persistError : Option String) :
    Option TaskInfo × Except RequestError Unit → World
  | (none, result) => w.returned tasks job taskId result
  | (some task, result) =>
    let tasks := storeTask tasks persistError task
    (w.persist tasks persistError).returned tasks job taskId do persisted persistError; result

lemma Stable.settle (h : Stable w) (kept : w.Kept tasks) (inv : w.JobInv tasks taskId job)
    (found : tasks[taskId]? = some e.task) (active : e.task.activeRun = some e.run)
    (interactive : e.run.interactive = some e.backend)
    (closed : e.task.desiredState = .stopped → Verdict.Ends verdict → w.Sealed e.run.runId)
    (persistError : Option String) (now : Nat) : Leads w (w.settle tasks job taskId e persistError now verdict) := by
  obtain ⟨key, known⟩ := kept taskId e.task found
  have cases := conclude_cases e.task e.run e.backend now verdict interactive
  rw [World.settle]
  generalize conclude e.task e.run e.backend now verdict = concluded at cases ⊢
  obtain ⟨stored, result⟩ := concluded
  cases cases with
  | inl unchanged =>
    obtain rfl : stored = none := unchanged
    exact h.returned kept inv result
  | inr changed =>
    obtain ⟨run', backend', same, interactive', pinned, released, changed⟩ := changed
    -- The run is the one before in what the invariant says of it.
    have knows : ∀ {run : RunInfo} {backend : InteractiveRun}, run.runId = run'.runId →
        run.interactive = run'.interactive → run.interactive = some backend →
        w.pins[run.runId]? = some ⟨e.task.taskId, backend.instanceId⟩ ∧
          (backend.released = true → run.runId ∈ w.closed) := by
      intro run backend id eq eq'
      obtain rfl := Option.some.inj (interactive'.symm.trans (eq.symm.trans eq'))
      rw [id, same, pinned, released]
      exact known e.run e.backend (.inl active) interactive
    have changes : ∀ {task : TaskInfo}, stored = some task → task.taskId = e.task.taskId →
        w.Known task → w.JobInv (tasks.insert task.taskId task) taskId job →
        Leads w (w.settled tasks job taskId persistError (stored, result)) := by
      intro task eq same known' inv'
      subst eq
      delta World.settled
      cases persistError with
      | some error =>
        have there : tasks[task.taskId]? = some e.task := by rw [same, key, found]
        dsimp only
        rw [storeTask_failed there]
        exact h.returned kept inv _
      | none => exact h.stored kept known' inv' result
    cases changed with
    | inl active' =>
      apply changes active' rfl
      · intro run backend member eq
        cases member with
        | inl member =>
          obtain rfl := Option.some.inj member
          exact knows rfl rfl eq
        | inr member => exact known run backend (.inr member) eq
      · refine inv.insert found ?_ ?_
        · exact key
        intro runId holds
        cases holds with
        | inl stopping =>
          obtain ⟨run, was, id, desired⟩ := stopping
          obtain rfl := Option.some.inj (active.symm.trans was)
          exact .inl ⟨run', rfl, same.trans id, desired⟩
        | inr done =>
          rw [active] at done
          cases done.1
    | inr ended =>
      obtain ⟨exitCode, ended, ends⟩ := ended
      apply changes ended rfl
      · intro run backend member eq
        cases member with
        | inl member => cases member
        | inr member =>
          obtain rfl := Option.some.inj member
          exact knows rfl rfl eq
      · refine inv.insert found ?_ ?_
        · exact key
        intro runId holds
        cases holds with
        | inl stopping =>
          obtain ⟨run, was, id, desired⟩ := stopping
          obtain rfl := Option.some.inj (active.symm.trans was)
          refine .inr ⟨rfl, ?_⟩
          rw [← id]
          exact closed desired ends
        | inr done =>
          rw [active] at done
          cases done.1

lemma Stable.pinning (h : Stable w) {runId : String} (pin : Pin) (fresh : w.pins[runId]? = none)
    (known : pin.instanceId ∈ w.instances) :
    Stable { w with pins := w.pins.insert runId pin } ∧
      Extends w { w with pins := w.pins.insert runId pin } := by
  have extends_ : Extends w { w with pins := w.pins.insert runId pin } := by
    refine ⟨rfl, rfl, rfl, ?_, fun _ => id⟩
    intro run pin found
    rw [OrdMap.get_insert, if_neg, found]
    rintro rfl
    rw [fresh] at found
    cases found
  have grows := extends_.evolves
  refine ⟨⟨⟨?_, h.backed.unique, ?_, h.backed.current, h.backed.served, h.backed.occupied⟩, ?_,
    h.replies, grows.kept h.file, ?_⟩, extends_⟩
  · exact fun id terminal found => extends_.pins _ _ (h.backed.pinned id terminal found)
  · intro run pin found
    rw [OrdMap.get_insert] at found
    split at found
    case isTrue =>
      obtain rfl := Option.some.inj found
      exact known
    case isFalse => exact h.backed.known run pin found
  · exact fun message mem => ⟨(h.requests message mem).1, grows.targeted (h.requests message mem).2⟩
  · exact fun run mem => grows.sealed h.backed (h.closed run mem)

lemma Stable.storeIntent (h : Stable w) (kept : w.Kept tasks) (found : tasks[taskId]? = some e.task)
    (fresh : w.pins[e.run.runId]? = none) (unreleased : e.backend.released = false) {instanceId : String}
    (known : instanceId ∈ w.instances) (definition : TaskDefinition) (persistError : Option String) :
    Leads w (w.storeIntent tasks taskId e definition instanceId persistError) := by
  obtain ⟨key, knows⟩ := kept taskId e.task found
  have there : tasks[(e.task.intending definition (e.pinned instanceId)).taskId]? = some e.task := by
    rw [← found, ← key]
    rfl
  unfold World.storeIntent
  dsimp only
  cases persistError with
  | some error =>
    dsimp only
    rw [storeTask_failed there]
    exact h.end kept
  | none =>
    let task := e.task.intending definition (e.pinned instanceId)
    obtain ⟨pinned, pinning⟩ := h.pinning ⟨task.taskId, instanceId⟩ fresh known
    have known' : World.Known { w with pins := w.pins.insert e.run.runId ⟨task.taskId, instanceId⟩ }
        task := by
      intro run backend member eq
      cases member with
      | inl member =>
        obtain rfl := Option.some.inj member
        obtain rfl := Option.some.inj eq
        refine ⟨?_, fun released => ?_⟩
        · rw [OrdMap.get_insert]
          exact if_pos rfl
        · rw [unreleased] at released
          cases released
      | inr member => exact pinning.evolves.known knows run backend (.inr member) eq
    obtain ⟨stable, kept', writing⟩ := pinned.written ((pinning.evolves.kept kept).insert rfl known')
    refine .trans pinning (.trans writing (stable.reconcileOne kept' ?_))
    refine ⟨task, ?_, nofun⟩
    rw [storeTask_stored, OrdMap.get_insert]
    exact if_pos key

lemma World.ExchangeInv.durable (kept : w.Kept tasks) (h : w.ExchangeInv tasks taskId e)
    (intended : ∀ definition, e.purpose ≠ .pin definition) : w.Durable e := by
  obtain ⟨found, run⟩ := h
  have known := (kept taskId e.task found).2
  unfold World.RunInv at run
  split at run
  case h_1 => exact (known e.run e.backend (.inr run.2.1) run.2.2).1
  case h_2 => exact (known e.run e.backend (.inr run.2.1) run.2.2).1
  case h_3 definition pin => exact absurd pin (intended definition)
  case h_4 => exact (known e.run e.backend (.inl run.1) run.2).1
  case h_5 => exact (known e.run e.backend (.inl run.1) run.2.1).1

lemma afterStatus_operate {backend : InteractiveRun} {operation : ManagedOperation}
    (h : afterStatus execution task backend result = .ok (.operate operation)) :
    operation ≠ .release ∧ (task.desiredState = .stopped → operation = .stop) := by
  unfold afterStatus at h
  split at h
  case h_1 observed session =>
    split at h
    · cases h
    split at h
    case isTrue =>
      cases h
      exact ⟨ManagedOperation.noConfusion, fun _ => rfl⟩
    case isFalse runs =>
      refine ⟨?_, fun stopped => absurd stopped runs⟩
      split at h
      · cases execution with
        | error => cases h
        | ok definition =>
          cases h
          exact ManagedOperation.noConfusion
      · cases h
  case h_2 => cases h
  case h_3 => cases h

lemma afterStatus_ends {w : World} (h : afterStatus execution e.task e.backend result = .ok verdict)
    (answer : w.Answer e result) (durable : w.Durable e) (stopped : e.task.desiredState = .stopped)
    (ends : Verdict.Ends verdict) : w.Sealed e.run.runId := by
  unfold afterStatus at h
  split at h
  case h_1 observed session =>
    split at h
    case isTrue other => exact (answer.2 durable).1 other
    case isFalse =>
      cases h
      cases ends
  case h_2 => exact answer durable
  case h_3 =>
    cases h
    cases ends

lemma afterOperation_ends {w : World} (operate : e.purpose = .operate .stop) (answer : w.Answer e result)
    (durable : w.Durable e) (ends : Verdict.Ends (afterOperation .stop result)) : w.Sealed e.run.runId := by
  unfold afterOperation at ends
  split at ends
  case h_1 => exact (answer.2 durable).2.2 operate ends
  case h_2 => exact answer durable
  case h_3 => cases ends
  case h_4 => cases ends

lemma Stable.answered {home : Option String} (h : Stable w) (kept : w.Kept tasks) (inv : w.JobInv tasks taskId job)
    (exchange : w.ExchangeInv tasks taskId e) (answer : w.Answer e result) (persistError : Option String) (now : Nat) :
    Leads w (w.answered home tasks job taskId e persistError now result) := by
  have durable := exchange.durable kept
  obtain ⟨found, run⟩ := exchange
  unfold World.answered
  unfold World.RunInv at run
  split
  case h_1 outcome =>
    rw [outcome] at run
    obtain ⟨idle, last, interactive⟩ := run
    replace durable := durable (by rw [outcome]; exact fun _ => Purpose.noConfusion)
    split
    case h_1 observed session =>
      split
      case isTrue => exact h.connecting kept inv ⟨found, idle, last, interactive⟩
      case isFalse other =>
        exact h.storeReleased kept inv found idle last interactive ((answer.2 durable).1 other) _
    case h_2 => exact h.storeReleased kept inv found idle last interactive (answer durable) _
    case h_3 => exact h.returned kept inv _
  case h_2 release =>
    rw [release] at run
    obtain ⟨idle, last, interactive⟩ := run
    replace durable := durable (by rw [release]; exact fun _ => Purpose.noConfusion)
    split
    case h_1 =>
      exact h.storeReleased kept inv found idle last interactive ((answer.2 durable).2.1 release) _
    case h_2 => exact h.returned kept inv _
  case h_3 definition pin =>
    rw [pin] at run
    split
    case h_1 => exact h.storeIntent kept found run.1 run.2.2 answer.1 definition _
    case h_2 => exact h.end kept
  case h_4 status =>
    rw [status] at run
    obtain ⟨active, interactive⟩ := run
    replace durable := durable (by rw [status]; exact fun _ => Purpose.noConfusion)
    split
    case h_1 => exact h.returned kept inv _
    case h_2 operation verdict =>
      exact h.connecting kept inv ⟨found, active, interactive, afterStatus_operate verdict⟩
    case h_3 verdict other eq =>
      apply h.settle kept inv found active interactive
      exact fun stopped ends => afterStatus_ends eq answer durable stopped ends
  case h_5 operation operate =>
    rw [operate] at run
    obtain ⟨active, interactive, keeps, stops⟩ := run
    replace durable := durable (by rw [operate]; exact fun _ => Purpose.noConfusion)
    apply h.settle kept inv found active interactive
    intro stopped ends
    obtain rfl := stops stopped
    exact afterOperation_ends operate answer durable ends

end

/-! ### The steps -/

section
variable {home : Option String} {ctmuxSocket : String} {w w' : World} {tasks : Tasks} {selector taskId : String}
  {task : TaskInfo} {now : Nat} {persistError : Option String} {task' : TaskInfo} {e : Exchange}
  {instanceId id : String} {terminal : Terminal}

lemma World.idle_eq (h : w.idle = some tasks) : w.taskd = some ⟨tasks, none⟩ := by
  unfold World.idle at h
  split at h
  case h_1 eq =>
    obtain rfl := Option.some.inj h
    exact eq
  case h_2 => cases h

lemma Inv.idle (h : Inv w) (idle : w.idle = some tasks) : w.Kept tasks :=
  (h.taskd _ (World.idle_eq idle)).1

lemma Inv.point (h : Inv w) {point : Point} (eq : w.taskd = some ⟨tasks, some point⟩) :
    w.Kept tasks ∧ w.PointInv tasks point :=
  ⟨(h.taskd _ eq).1, (h.taskd _ eq).2 point rfl⟩

lemma Stable.persisted (h : Stable w) {changed : Tasks} (kept : w.Kept changed) (kept' : w.Kept tasks)
    (persistError : Option String) : Leads w ((w.persist changed persistError).goTo tasks none) := by
  cases persistError with
  | some => exact h.end kept'
  | none =>
    obtain ⟨stable, -, writing⟩ := h.written kept
    exact .trans writing (stable.end (writing.evolves.kept kept'))

lemma World.Kept.resolved (kept : w.Kept tasks) (h : (resolveTask tasks selector).toOption = some task) :
    tasks[task.taskId]? = some task ∧ w.Known task := by
  cases resolved : resolveTask tasks selector with
  | error e =>
    rw [resolved] at h
    cases h
  | ok task' =>
    rw [resolved] at h
    obtain rfl := Option.some.inj h
    obtain ⟨id, found⟩ := resolveTask_spec resolved
    obtain ⟨key, known⟩ := kept id task' found
    rw [key]
    exact ⟨found, known⟩

lemma World.Known.of_runs (known : w.Known task) (key : task'.taskId = task.taskId)
    (runs : ∀ run backend, task'.activeRun = some run ∨ task'.lastRun = some run →
      run.interactive = some backend → ∃ before, (task.activeRun = some before ∨
        task.lastRun = some before) ∧ before.runId = run.runId ∧
        before.interactive = some backend) : w.Known task' := by
  intro run backend member interactive
  obtain ⟨before, member, id, interactive⟩ := runs run backend member interactive
  rw [key, ← id]
  exact known before backend member interactive

lemma recovered_known (now : Nat) (known : w.Known task) : w.Known (recovered now task) := by
  unfold recovered
  split
  case h_1 => exact known
  case h_2 run active =>
    apply known.of_runs
    · split <;> rfl
    · intro run' backend member interactive
      split at member
      case isTrue =>
        cases member with
        | inl member =>
          obtain rfl := Option.some.inj member
          exact ⟨run, .inl active, rfl, interactive⟩
        | inr member => exact ⟨run', .inr member, rfl, interactive⟩
      case isFalse =>
        cases member with
        | inl member => cases member
        | inr member =>
          obtain rfl := Option.some.inj member
          exact ⟨run, .inl active, rfl, interactive⟩

lemma World.Kept.recovered (kept : w.Kept tasks) (now : Nat) : w.Kept (tasks.map fun _ => Requests.recovered now) := by
  intro id task found
  rw [Std.ExtTreeMap.getElem?_map] at found
  obtain ⟨before, there, rfl⟩ := Option.map_eq_some_iff.1 found
  obtain ⟨key, known⟩ := kept id before there
  refine ⟨?_, recovered_known now known⟩
  rw [← key]
  unfold Requests.recovered
  split
  · rfl
  · split <;> rfl

lemma Inv.loadTaskd (h : Inv w) (taken : step home ctmuxSocket w (.loadTaskd now) = some w') : Leads w w' := by
  simp only [step] at taken
  split at taken
  case h_1 => cases taken
  case h_2 =>
    cases taken
    have kept := h.stable.file.recovered now
    exact h.stable.persisted kept kept none

lemma Inv.crashTaskd (h : Inv w) : Leads w { w with taskd := none } := by
  refine ⟨⟨⟨?_, h.stable.requests, h.stable.replies, h.stable.file, h.stable.closed⟩, ?_⟩, rfl, rfl,
    rfl, fun _ _ => id, fun _ => id⟩
  · have backed := h.stable.backed
    exact ⟨backed.pinned, backed.unique, backed.known, backed.current, backed.served, backed.occupied⟩
  · intro taskd eq
    cases eq

lemma known_of_fresh (idle : task.activeRun = none) (new : task.lastRun = none) : w.Known task := by
  intro run backend member
  rw [idle, new] at member
  obtain member | member := member <;> cases member

lemma Inv.create (h : Inv w) {taskId : String} {definition : TaskDefinition} {persistError : Option String}
    {stays : Bool} (taken : step home ctmuxSocket w (.create taskId definition persistError stays) = some w') :
    Leads w w' := by
  simp only [step, Option.bind_eq_bind, Option.bind_eq_some_iff] at taken
  obtain ⟨tasks, idle, taken⟩ := taken
  have kept := h.idle idle
  split at taken
  case isTrue => cases taken
  case isFalse absent =>
    cases taken
    have changed : w.Kept (tasks.insert taskId ⟨taskId, definition, .stopped, none, none⟩) :=
      kept.insert rfl (known_of_fresh rfl rfl)
    apply h.stable.persisted changed
    split
    case isTrue =>
      rw [OrdMap.erase_insert]
      · exact kept
      · exact Option.not_isSome_iff_eq_none.1 absent
    case isFalse => exact changed

lemma Edit.apply_known {edit : Edit} (known : w.Known task) (h : edit.apply task = some task') :
    task'.taskId = task.taskId ∧ w.Known task' := by
  cases edit with
  | update definition =>
    rw [Edit.apply] at h
    split at h
    case isTrue => cases h
    case isFalse =>
      cases h
      refine ⟨rfl, known.of_runs rfl ?_⟩
      intro run backend member interactive
      cases member with
      | inl member => exact ⟨run, .inl member, rfl, interactive⟩
      | inr member =>
        obtain ⟨before, last, rfl⟩ := Option.map_eq_some_iff.1 member
        exact ⟨before, .inr last, rfl, interactive⟩
  | startBackground runId now =>
    rw [Edit.apply] at h
    split at h
    case isTrue => cases h
    case isFalse =>
      cases h
      refine ⟨rfl, known.of_runs rfl ?_⟩
      intro run backend member interactive
      cases member with
      | inl member =>
        obtain rfl := Option.some.inj member
        cases interactive
      | inr member => exact ⟨run, .inr member, rfl, interactive⟩
  | finishBackground stopped exitCode now =>
    rw [Edit.apply] at h
    split at h
    case h_1 run active =>
      split at h
      case isTrue => cases h
      case isFalse background =>
        cases h
        refine ⟨rfl, known.of_runs rfl ?_⟩
        intro run' backend member interactive
        cases member with
        | inl member => cases member
        | inr member =>
          obtain rfl := Option.some.inj member
          exact absurd (Option.isSome_iff_exists.2 ⟨backend, interactive⟩) background
    case h_2 => cases h

lemma Inv.edit (h : Inv w) {taskId : String} {edit : Edit} {persistError : Option String}
    (taken : step home ctmuxSocket w (.edit taskId edit persistError) = some w') : Leads w w' := by
  simp only [step, Option.bind_eq_bind, Option.bind_eq_some_iff] at taken
  obtain ⟨tasks, idle, task, found, task', applied, taken⟩ := taken
  have kept := h.idle idle
  cases taken
  obtain ⟨key, known⟩ := kept taskId task found
  obtain ⟨key', known'⟩ := Edit.apply_known known applied
  have changed : w.Kept (tasks.insert taskId task') := kept.insert (key'.trans key) known'
  apply h.stable.persisted changed
  split
  case isTrue =>
    rw [OrdMap.insert_insert _ found]
    exact kept
  case isFalse => exact changed

lemma World.JobInv.of_found {job : Job} (found : tasks[taskId]? = some task) (other : ∀ runId, job ≠ .stop runId) :
    w.JobInv tasks taskId job :=
  ⟨task, found, fun runId eq => absurd eq (other runId)⟩

lemma Inv.reconcile (h : Inv w) (taken : step home ctmuxSocket w (.reconcile taskId) = some w') : Leads w w' := by
  simp only [step, Option.bind_eq_bind, Option.bind_eq_some_iff] at taken
  obtain ⟨tasks, idle, taken⟩ := taken
  split at taken
  case isTrue => cases taken
  case isFalse there =>
    cases taken
    rw [Option.isNone_iff_eq_none] at there
    obtain ⟨task, found⟩ := Option.ne_none_iff_exists'.1 there
    exact h.stable.reconcileOne (h.idle idle) (.of_found found fun _ => Job.noConfusion)

lemma Inv.start (h : Inv w) (taken : step home ctmuxSocket w (.start selector) = some w') : Leads w w' := by
  simp only [step, Option.bind_eq_bind, Option.bind_eq_some_iff] at taken
  obtain ⟨tasks, idle, task, resolved, taken⟩ := taken
  split at taken
  case isTrue => cases taken
  case isFalse =>
    obtain ⟨-, -, taken⟩ := Option.bind_eq_some_iff.1 taken
    cases taken
    have kept := h.idle idle
    exact h.stable.releaseOutcome kept (.of_found (kept.resolved resolved).1 fun _ => Job.noConfusion)

lemma Inv.remove (h : Inv w) (taken : step home ctmuxSocket w (.remove selector) = some w') : Leads w w' := by
  simp only [step, Option.bind_eq_bind, Option.bind_eq_some_iff] at taken
  obtain ⟨tasks, idle, task, resolved, taken⟩ := taken
  cases taken
  have kept := h.idle idle
  exact h.stable.releaseOutcome kept (.of_found (kept.resolved resolved).1 fun _ => Job.noConfusion)

lemma Inv.stop (h : Inv w) (taken : step home ctmuxSocket w (.stop selector persistError) = some w') : Leads w w' := by
  simp only [step, Option.bind_eq_bind, Option.bind_eq_some_iff] at taken
  obtain ⟨tasks, idle, task, resolved, run, active, taken⟩ := taken
  have kept := h.idle idle
  obtain ⟨found, known⟩ := kept.resolved resolved
  have changed : w.Kept (tasks.insert task.taskId { task with desiredState := .stopped }) :=
    kept.insert rfl (known.of_runs rfl fun run backend member interactive =>
      ⟨run, member, rfl, interactive⟩)
  split at taken
  case h_1 =>
    cases taken
    rw [OrdMap.insert_insert _ found]
    exact h.stable.end kept
  case h_2 =>
    obtain ⟨stable, kept', writing⟩ := h.stable.written changed
    split at taken
    case isTrue =>
      cases taken
      apply Leads.trans writing (stable.reconcileOne kept' _)
      refine ⟨{ task with desiredState := .stopped }, ?_, ?_⟩
      · rw [OrdMap.get_insert, if_pos rfl]
      · intro runId eq
        obtain rfl := Job.stop.inj eq
        exact .inl ⟨run, active, rfl, rfl⟩
    case isFalse =>
      cases taken
      exact .trans writing (stable.end kept')

lemma Inv.intend (h : Inv w) {runId : String} (taken : step home ctmuxSocket w (.intend runId now) = some w') :
    Leads w w' := by
  simp only [step] at taken
  split at taken
  case h_2 => cases taken
  case h_1 tasks definition taskId eq =>
    simp only [Option.bind_eq_bind, Option.bind_eq_some_iff] at taken
    obtain ⟨task, resolved, taken⟩ := taken
    split at taken
    case isTrue => cases taken
    case isFalse fresh =>
      cases taken
      obtain ⟨kept, inv⟩ := h.point eq
      obtain ⟨task', found, resolved'⟩ := inv.job.resolve
      rw [resolved'] at resolved
      obtain rfl := Option.some.inj resolved
      exact h.stable.connecting kept inv.job
        ⟨found, Option.not_isSome_iff_eq_none.1 fresh, rfl, rfl⟩

lemma World.ExchangeInv.targeted (kept : w.Kept tasks) (h : w.ExchangeInv tasks taskId e) (call : Nat) :
    w.Targeted (e.message call) := by
  intro mutates
  refine ⟨e.backend.instanceId, if_neg mutates, h.durable kept ?_⟩
  intro definition eq
  exact mutates (congrArg Purpose.operation eq)

lemma Inv.connect (h : Inv w) (taken : step home ctmuxSocket w .connect = some w') : Leads w w' := by
  simp only [step] at taken
  split at taken
  case h_2 => cases taken
  case h_1 tasks job taskId e _ eq _ =>
    cases taken
    obtain ⟨kept, inv⟩ := h.point eq
    have exchange := inv.connecting e rfl
    have sending : Extends w { w with
        requests := w.requests ++ [e.message w.nextCall]
        nextCall := w.nextCall + 1 } := ⟨rfl, rfl, rfl, fun _ _ => id, fun _ => id⟩
    have stable : Stable { w with
        requests := w.requests ++ [e.message w.nextCall]
        nextCall := w.nextCall + 1 } := by
      have backed := h.stable.backed
      refine ⟨⟨backed.pinned, backed.unique, backed.known, backed.current, backed.served,
        backed.occupied⟩, ?_, ?_, h.stable.file, h.stable.closed⟩
      · intro message mem
        cases List.mem_append.1 mem with
        | inl old =>
          obtain ⟨lt, targeted⟩ := h.stable.requests message old
          exact ⟨Nat.lt_succ_of_lt lt, targeted⟩
        | inr new =>
          obtain rfl := List.mem_singleton.1 new
          exact ⟨Nat.lt_succ_self _, exchange.targeted kept _⟩
      · exact fun reply mem => Nat.lt_succ_of_lt (h.stable.replies reply mem)
    refine .trans sending (stable.goTo (sending.evolves.kept kept) _ ?_)
    intro point eq
    obtain rfl := Option.some.inj eq
    refine ⟨sending.evolves.jobInv h.stable.backed inv.job, ?_, ?_⟩
    · intro e' eq
      cases eq
    · intro e' call eq
      cases eq
      refine ⟨⟨exchange.task, exchange.run⟩, Nat.lt_succ_self _, ?_, ?_⟩
      · intro message mem same
        cases List.mem_append.1 mem with
        | inl old =>
          have lt := (h.stable.requests message old).1
          rw [same] at lt
          exact absurd lt (Nat.lt_irrefl _)
        | inr new => exact List.mem_singleton.1 new
      · intro reply mem same
        have lt := h.stable.replies reply mem
        rw [same] at lt
        exact absurd lt (Nat.lt_irrefl _)

lemma Inv.fail (h : Inv w) {error : BackendError}
    (taken : step home ctmuxSocket w (.fail error persistError now) = some w') : Leads w w' := by
  simp only [step] at taken
  split at taken
  case h_1 tasks job taskId e eq =>
    obtain ⟨kept, inv⟩ := h.point eq
    split at taken
    case isTrue => cases taken
    case isFalse possible =>
      cases taken
      apply h.stable.answered kept inv.job (inv.connecting e rfl)
      cases error with
      | gone =>
        intro durable
        apply h.stable.backed.sealed_of_gone durable
        intro ctmuxd serves
        exact absurd ⟨rfl, by rw [serves]; rfl⟩ possible
      | refused => trivial
      | uncertain => trivial
  case h_2 tasks job taskId e call eq =>
    obtain ⟨kept, inv⟩ := h.point eq
    split at taken
    case h_2 => cases taken
    case h_1 =>
      cases taken
      apply h.stable.answered kept inv.job (inv.waiting e call rfl).1
      trivial
  case h_3 => cases taken

lemma Inv.answer (h : Inv w) (taken : step home ctmuxSocket w (.answer persistError now) = some w') : Leads w w' := by
  simp only [step] at taken
  split at taken
  case h_2 => cases taken
  case h_1 tasks job taskId e call eq =>
    obtain ⟨kept, inv⟩ := h.point eq
    obtain ⟨exchange, -, -, answers⟩ := inv.waiting e call rfl
    obtain ⟨reply, found, rfl⟩ := Option.map_eq_some_iff.1 taken
    apply h.stable.answered kept inv.job exchange
    apply answers reply (List.mem_of_find?_eq_some found)
    have same := List.find?_some found
    exact of_decide_eq_true same

lemma Inv.poll (h : Inv w) (taken : step home ctmuxSocket w .poll = some w') : Leads w w' := by
  simp only [step] at taken
  split at taken
  case h_2 => cases taken
  case h_1 tasks job taskId eq =>
    cases taken
    obtain ⟨kept, inv⟩ := h.point eq
    exact h.stable.reconcileOne kept inv.job

lemma Inv.giveUp (h : Inv w) (taken : step home ctmuxSocket w .giveUp = some w') : Leads w w' := by
  simp only [step] at taken
  split at taken
  case h_2 => cases taken
  case h_1 tasks job taskId eq =>
    cases taken
    exact h.stable.end (h.point eq).1

lemma Inv.erase (h : Inv w) (taken : step home ctmuxSocket w (.erase persistError) = some w') : Leads w w' := by
  simp only [step] at taken
  split at taken
  case h_2 => cases taken
  case h_1 tasks job taskId eq =>
    simp only [Option.bind_eq_bind, Option.bind_eq_some_iff] at taken
    obtain ⟨task, -, taken⟩ := taken
    have kept := (h.point eq).1
    split at taken
    case isTrue =>
      cases taken
      exact h.stable.end kept
    case isFalse =>
      cases taken
      have rest : w.Kept (tasks.erase task.taskId) := by
        intro id other found
        rw [OrdMap.get_erase] at found
        split at found
        case isTrue => cases found
        case isFalse => exact kept id other found
      exact h.stable.persisted rest rest persistError

structure Outside (w w' : World) : Prop where
  backed : Backed w'
  taskd : w'.taskd = w.taskd
  file : w'.file = w.file
  pins : w'.pins = w.pins
  closed : w'.closed = w.closed
  nextCall : w'.nextCall = w.nextCall
  requests : w'.requests ⊆ w.requests
  /-- A new reply tells the truth about its request. -/
  replies : ∀ reply ∈ w'.replies, reply ∈ w.replies ∨ ∃ message ∈ w.requests,
    reply.1 = message.call ∧ ∀ e, message = e.message message.call → w'.Answer e reply.2

lemma Evolves.answer (h : Evolves w w') (backed : Backed w) (pins : w'.pins = w.pins) {result : Exchanged}
    (answer : w.Answer e result) : w'.Answer e result := by
  have before : w'.Durable e → w.Durable e := by
    intro durable
    rw [World.Durable, pins] at durable
    exact durable
  cases result with
  | ok reply =>
    refine ⟨h.instances answer.1, fun durable => ?_⟩
    obtain ⟨other, released, stopped⟩ := answer.2 (before durable)
    exact ⟨fun ne => h.sealed backed (other ne), fun eq => h.sealed backed (released eq),
      fun eq ended => h.sealed backed (stopped eq ended)⟩
  | error error =>
    cases error with
    | gone => exact fun durable => h.sealed backed (answer (before durable))
    | refused => trivial
    | uncertain => trivial

lemma Inv.outside (inv : Inv w) (evolves : Evolves w w') (h : Outside w w') : Inv w' := by
  have backed := inv.stable.backed
  have runInv : ∀ e, w.RunInv e → w'.RunInv e := by
    intro e run
    unfold World.RunInv at run ⊢
    rw [h.pins]
    exact run
  refine ⟨⟨h.backed, ?_, ?_, ?_, ?_⟩, ?_⟩
  · intro message mem
    obtain ⟨lt, targeted⟩ := inv.stable.requests message (h.requests mem)
    rw [h.nextCall]
    exact ⟨lt, evolves.targeted targeted⟩
  · intro reply mem
    rw [h.nextCall]
    cases h.replies reply mem with
    | inl old => exact inv.stable.replies reply old
    | inr new =>
      obtain ⟨message, mem, same, -⟩ := new
      rw [same]
      exact (inv.stable.requests message mem).1
  · rw [h.file]
    exact evolves.kept inv.stable.file
  · rw [h.closed]
    exact fun runId mem => evolves.sealed backed (inv.stable.closed runId mem)
  · intro taskd eq
    rw [h.taskd] at eq
    obtain ⟨kept, points⟩ := inv.taskd taskd eq
    refine ⟨evolves.kept kept, ?_⟩
    intro point eq
    obtain ⟨job, connecting, waiting⟩ := points point eq
    refine ⟨evolves.jobInv backed job, ?_, ?_⟩
    · intro e eq
      exact ⟨(connecting e eq).task, runInv e (connecting e eq).run⟩
    · intro e call eq
      obtain ⟨exchange, lt, requests, replies⟩ := waiting e call eq
      refine ⟨⟨exchange.task, runInv e exchange.run⟩, ?_, ?_, ?_⟩
      · rw [h.nextCall]
        exact lt
      · exact fun message mem => requests message (h.requests mem)
      · intro reply mem same
        cases h.replies reply mem with
        | inl old => exact evolves.answer backed h.pins (replies reply old same)
        | inr new =>
          obtain ⟨message, mem, eq, answers⟩ := new
          apply answers e
          rw [← eq, same]
          exact requests message mem (eq.symm.trans same)

lemma Inv.lose (h : Inv w) (index : Nat) :
    Inv { w with requests := w.requests.eraseIdx index } ∧
      Evolves w { w with requests := w.requests.eraseIdx index } := by
  have same : Extends w { w with requests := w.requests.eraseIdx index } :=
    ⟨rfl, rfl, rfl, fun _ _ => id, fun _ => id⟩
  have backed := h.stable.backed
  refine ⟨h.outside same.evolves ⟨?_, rfl, rfl, rfl, rfl, rfl, ?_, ?_⟩, same.evolves⟩
  · exact ⟨backed.pinned, backed.unique, backed.known, backed.current, backed.served,
      backed.occupied⟩
  · exact List.eraseIdx_subset
  · exact fun reply mem => .inl mem

lemma Inv.deliver (h : Inv w) {index : Nat} {creation : Creation} {killError : Option String}
    (sound : ∀ terminalId sessionId message, creation ≠ .leaked terminalId sessionId message)
    (taken : step home ctmuxSocket w (.deliver index creation killError) = some w') : Inv w' ∧ Evolves w w' := by
  simp only [step, Option.bind_eq_bind, Option.bind_eq_some_iff] at taken
  obtain ⟨message, sent, ctmuxd, serves, taken⟩ := taken
  have sent := List.mem_of_getElem? sent
  split at taken
  case isFalse => cases taken
  case isTrue fresh =>
    cases taken
    have served : Served ctmuxd w.terminals message
        (serve ctmuxd creation killError w.terminals message) := serve_served fresh sound
    generalize serve ctmuxd creation killError w.terminals message = outcome at served ⊢
    obtain ⟨reply, managed, terminals⟩ := outcome
    have targeted := (h.stable.requests message sent).2
    have delivers : Delivers w { w with
        ctmuxd := some { ctmuxd with managed }
        terminals
        requests := w.requests.eraseIdx index
        replies := w.replies ++ [(message.call, reply)] } ctmuxd message reply managed terminals :=
      ⟨serves, targeted, served, rfl, rfl, rfl, rfl, rfl⟩
    have evolves := delivers.evolves
    refine ⟨h.outside evolves ⟨delivers.backed h.stable.backed, rfl, rfl, rfl, rfl, rfl,
      List.eraseIdx_subset, ?_⟩, evolves⟩
    intro answer mem
    cases List.mem_append.1 mem with
    | inl old => exact .inl old
    | inr new =>
      obtain rfl := List.mem_singleton.1 new
      refine .inr ⟨message, sent, rfl, ?_⟩
      intro e eq
      rw [eq] at delivers
      exact delivers.answer h.stable.backed

lemma Inv.bootCtmuxd (h : Inv w) (taken : step home ctmuxSocket w (.bootCtmuxd instanceId) = some w') :
    Inv w' ∧ Evolves w w' := by
  simp only [step] at taken
  split at taken
  case isTrue => cases taken
  case isFalse possible =>
    rw [not_or, Option.not_isSome_iff_eq_none] at possible
    obtain ⟨down, fresh⟩ := possible
    cases taken
    have backed := h.stable.backed
    have evolves : Evolves w { w with
        ctmuxd := some ⟨instanceId, false, ∅⟩
        instances := instanceId :: w.instances } := by
      refine ⟨fun _ _ => id, fun _ => id, List.subset_cons_self _ _, ?_, ?_⟩
      · exact fun id terminal found => .inl ⟨terminal, found, rfl, rfl, fun runs => runs⟩
      · intro ctmuxd eq
        obtain rfl := Option.some.inj eq
        exact .inl fresh
    refine ⟨h.outside evolves ⟨⟨backed.pinned, backed.unique, ?_, ?_, ?_, ?_⟩, rfl, rfl, rfl, rfl, rfl,
      List.Subset.refl _, fun reply mem => .inl mem⟩, evolves⟩
    · exact fun runId pin found => List.mem_cons_of_mem _ (backed.known runId pin found)
    · intro ctmuxd eq
      obtain rfl := Option.some.inj eq
      exact List.mem_cons_self
    · intro id terminal found runs
      obtain ⟨ctmuxd, serves, -⟩ := backed.served id terminal found runs
      rw [down] at serves
      cases serves
    · intro ctmuxd eq _ id terminal found same
      obtain rfl := Option.some.inj eq
      have known := backed.known _ _ (backed.pinned id terminal found)
      rw [same] at known
      exact absurd known fresh

lemma hangUp_key (instanceId : String) (survivors : List String) (id : String)
    (terminal : Terminal) : (hangUp instanceId survivors id terminal).key = terminal.key := by
  unfold hangUp
  split <;> rfl

lemma hangUp_instanceId (instanceId : String) (survivors : List String) (id : String) (terminal : Terminal) :
    (hangUp instanceId survivors id terminal).instanceId = terminal.instanceId := by
  unfold hangUp
  split <;> rfl

lemma hangUp_running {survivors : List String} (runs : (hangUp instanceId survivors id terminal).lifecycle = .running) :
    terminal.lifecycle = .running ∧ (terminal.instanceId = instanceId → id ∈ survivors) := by
  unfold hangUp at runs
  split at runs
  case isTrue => cases runs
  case isFalse spared =>
    refine ⟨runs, fun same => ?_⟩
    by_contra gone
    exact spared ⟨same, runs, gone⟩

lemma Inv.crashCtmuxd (h : Inv w)
    (taken : step home ctmuxSocket w (.crashCtmuxd []) = some w') : Inv w' ∧ Evolves w w' := by
  simp only [step, Option.bind_eq_bind, Option.bind_eq_some_iff] at taken
  obtain ⟨ctmuxd, serves, taken⟩ := taken
  cases taken
  have backed := h.stable.backed
  have before : ∀ {id : String} {terminal' : Terminal},
      (w.terminals.map (hangUp ctmuxd.instanceId []))[id]? = some terminal' →
      ∃ terminal, w.terminals[id]? = some terminal ∧
        hangUp ctmuxd.instanceId [] id terminal = terminal' := by
    intro id terminal' found
    rw [Std.ExtTreeMap.getElem?_map] at found
    exact Option.map_eq_some_iff.1 found
  have evolves : Evolves w { w with
      ctmuxd := none
      terminals := w.terminals.map (hangUp ctmuxd.instanceId []) } := by
    refine ⟨fun _ _ => id, fun _ => id, List.Subset.refl _, ?_, ?_⟩
    · intro id terminal' found
      obtain ⟨terminal, there, rfl⟩ := before found
      exact .inl ⟨terminal, there, (hangUp_key ..).symm, (hangUp_instanceId ..).symm,
        fun runs => (hangUp_running runs).1⟩
    · intro ctmuxd' eq
      cases eq
  refine ⟨h.outside evolves ⟨⟨?_, ?_, backed.known, ?_, ?_, ?_⟩, rfl, rfl, rfl, rfl, rfl,
    List.Subset.refl _, fun reply mem => .inl mem⟩, evolves⟩
  · intro id terminal' found
    obtain ⟨terminal, there, rfl⟩ := before found
    rw [hangUp_key, hangUp_instanceId]
    exact backed.pinned id terminal there
  · intro id id' terminal terminal' found found' run
    obtain ⟨terminal, there, rfl⟩ := before found
    obtain ⟨terminal', there', rfl⟩ := before found'
    rw [hangUp_key, hangUp_key] at run
    exact backed.unique id id' terminal terminal' there there' run
  · intro ctmuxd' eq
    cases eq
  · intro id terminal' found runs
    obtain ⟨terminal, there, rfl⟩ := before found
    obtain ⟨ran, survives⟩ := hangUp_running runs
    obtain ⟨ctmuxd', serves', same⟩ := backed.served id terminal there ran
    obtain rfl := Option.some.inj (serves.symm.trans serves')
    cases survives same.symm
  · intro ctmuxd' eq
    cases eq

lemma Inv.drain (h : Inv w) (taken : step home ctmuxSocket w .drain = some w') : Inv w' ∧ Evolves w w' := by
  simp only [step, Option.bind_eq_bind, Option.bind_eq_some_iff] at taken
  obtain ⟨ctmuxd, serves, taken⟩ := taken
  split at taken
  case isTrue => cases taken
  case isFalse =>
    cases taken
    have backed := h.stable.backed
    have evolves : Evolves w { w with
        ctmuxd := some { ctmuxd with draining := true, managed := ∅ } } := by
      refine ⟨fun _ _ => id, fun _ => id, List.Subset.refl _, ?_, ?_⟩
      · exact fun id terminal found => .inl ⟨terminal, found, rfl, rfl, fun runs => runs⟩
      · intro ctmuxd' eq
        obtain rfl := Option.some.inj eq
        exact .inr ⟨ctmuxd, serves, rfl, fun _ => rfl, fun _ _ => .inl rfl⟩
    refine ⟨h.outside evolves ⟨⟨backed.pinned, backed.unique, backed.known, ?_, ?_, ?_⟩, rfl, rfl, rfl, rfl,
      rfl, List.Subset.refl _, fun reply mem => .inl mem⟩, evolves⟩
    · intro ctmuxd' eq
      obtain rfl := Option.some.inj eq
      exact backed.current ctmuxd serves
    · intro id terminal found runs
      obtain ⟨ctmuxd', serves', same⟩ := backed.served id terminal found runs
      obtain rfl := Option.some.inj (serves.symm.trans serves')
      exact ⟨_, rfl, same⟩
    · intro ctmuxd' eq accepts
      obtain rfl := Option.some.inj eq
      cases accepts

lemma Inv.changed (h : Inv w) {terminal' : Terminal} (found : w.terminals[id]? = some terminal)
    (key : terminal'.key = terminal.key) (same : terminal'.instanceId = terminal.instanceId)
    (runs : terminal'.lifecycle = .running → terminal.lifecycle = .running) :
    Inv { w with terminals := w.terminals.insert id terminal' } ∧
      Evolves w { w with terminals := w.terminals.insert id terminal' } := by
  have backed := h.stable.backed
  have before : ∀ {id' : String} {changed : Terminal},
      (w.terminals.insert id terminal')[id']? = some changed →
      ∃ terminal, w.terminals[id']? = some terminal ∧ terminal.key = changed.key ∧
        terminal.instanceId = changed.instanceId ∧
        (changed.lifecycle = .running → terminal.lifecycle = .running) := by
    intro id' changed there
    rw [OrdMap.get_insert] at there
    split at there
    case isTrue eq =>
      obtain rfl := Option.some.inj there
      subst eq
      exact ⟨terminal, found, key.symm, same.symm, runs⟩
    case isFalse => exact ⟨changed, there, rfl, rfl, fun runs => runs⟩
  have evolves : Evolves w { w with terminals := w.terminals.insert id terminal' } := by
    refine ⟨fun _ _ pinned => pinned, List.Subset.refl _, List.Subset.refl _,
      fun _ _ there => .inl (before there), ?_⟩
    exact fun ctmuxd serves => .inr ⟨ctmuxd, serves, rfl, fun drains => drains, fun _ there => .inr there⟩
  refine ⟨h.outside evolves ⟨⟨?_, ?_, backed.known, backed.current, ?_, ?_⟩, rfl, rfl, rfl, rfl, rfl,
    List.Subset.refl _, fun reply mem => .inl mem⟩, evolves⟩
  · intro id' changed there
    obtain ⟨terminal, there, key, same, -⟩ := before there
    rw [← key, ← same]
    exact backed.pinned id' terminal there
  · intro id' id'' changed changed' there there' run
    obtain ⟨terminal, there, key, -⟩ := before there
    obtain ⟨terminal', there', key', -⟩ := before there'
    apply backed.unique id' id'' terminal terminal' there there'
    rw [key, key', run]
  · intro id' changed there running
    obtain ⟨terminal, there, -, same, ran⟩ := before there
    rw [← same]
    exact backed.served id' terminal there (ran running)
  · intro ctmuxd serves accepts id' changed there on
    obtain ⟨terminal, there, key, same, ran⟩ := before there
    rw [← key]
    cases backed.occupied ctmuxd serves accepts id' terminal there (same.trans on) with
    | inl occupied => exact .inl occupied
    | inr retired => exact .inr ⟨retired.1, fun running => retired.2 (ran running)⟩

lemma Inv.exit (h : Inv w) {terminalId : String} {exitCode : Option Nat}
    (taken : step home ctmuxSocket w (.exit terminalId exitCode) = some w') : Inv w' ∧ Evolves w w' := by
  simp only [step, Option.bind_eq_bind, Option.bind_eq_some_iff] at taken
  obtain ⟨terminal, found, taken⟩ := taken
  split at taken
  case isTrue =>
    cases taken
    exact h.changed found rfl rfl Lifecycle.noConfusion
  case isFalse => cases taken

lemma Inv.move (h : Inv w) {terminalId sessionId : String}
    (taken : step home ctmuxSocket w (.move terminalId sessionId) = some w') : Inv w' ∧ Evolves w w' := by
  simp only [step, Option.bind_eq_bind, Option.bind_eq_some_iff] at taken
  obtain ⟨terminal, found, taken⟩ := taken
  cases taken
  exact h.changed found rfl rfl fun runs => runs

lemma Leads.evolves (h : Leads w w') : Inv w' ∧ Evolves w w' := ⟨h.1, h.2.evolves⟩

lemma Inv.step (h : Inv w) {action : Action} (meets : Meets w action)
    (taken : Managed.step home ctmuxSocket w action = some w') : Inv w' ∧ Evolves w w' := by
  cases action with
  | loadTaskd now => exact (h.loadTaskd taken).evolves
  | crashTaskd =>
    obtain rfl := Option.some.inj taken
    exact h.crashTaskd.evolves
  | create taskId definition persistError stays => exact (h.create taken).evolves
  | edit taskId edit persistError => exact (h.edit taken).evolves
  | reconcile taskId => exact (h.reconcile taken).evolves
  | start selector => exact (h.start taken).evolves
  | stop selector persistError => exact (h.stop taken).evolves
  | remove selector => exact (h.remove taken).evolves
  | intend runId now => exact (h.intend taken).evolves
  | connect => exact (h.connect taken).evolves
  | fail error persistError now => exact (h.fail taken).evolves
  | answer persistError now => exact (h.answer taken).evolves
  | poll => exact (h.poll taken).evolves
  | giveUp => exact (h.giveUp taken).evolves
  | erase persistError => exact (h.erase taken).evolves
  | lose index =>
    obtain rfl := Option.some.inj taken
    exact h.lose index
  | deliver index creation killError => exact h.deliver meets taken
  | bootCtmuxd instanceId => exact h.bootCtmuxd taken
  | crashCtmuxd survivors =>
    obtain rfl : survivors = [] := meets
    exact h.crashCtmuxd taken
  | drain => exact h.drain taken
  | exit terminalId exitCode => exact h.exit taken
  | move terminalId sessionId => exact h.move taken

end

/-! ### All runs -/

lemma Initial.inv (h : Initial w) : Inv w := by
  obtain ⟨file, rfl, fresh⟩ := h
  have empty : ∀ id : String, (∅ : Terminals)[id]? = none := fun _ => rfl
  have unpinned : ∀ id : String, (∅ : OrdMap String Pin)[id]? = none := fun _ => rfl
  refine ⟨⟨⟨?_, ?_, ?_, ?_, ?_, ?_⟩, ?_, ?_, ?_, ?_⟩, ?_⟩
  · intro id terminal found
    cases (empty id).symm.trans found
  · intro id id' terminal terminal' found
    cases (empty id).symm.trans found
  · intro runId pin found
    cases (unpinned runId).symm.trans found
  · intro ctmuxd eq
    cases eq
  · intro id terminal found
    cases (empty id).symm.trans found
  · intro ctmuxd eq
    cases eq
  · intro message mem
    cases mem
  · intro reply mem
    cases mem
  · intro id task found
    obtain ⟨key, idle⟩ := fresh id task found
    refine ⟨key, ?_⟩
    intro run backend member interactive
    rw [TaskInfo.isFresh, Bool.and_eq_true, Bool.not_eq_true', Bool.not_eq_true'] at idle
    have some_interactive : run.interactive.isSome = true := by rw [interactive]; rfl
    cases member with
    | inl active =>
      rw [active, Option.any_some, some_interactive] at idle
      cases idle.1
    | inr last =>
      rw [last, Option.any_some, some_interactive] at idle
      cases idle.2
  · intro runId mem
    cases mem
  · intro taskd eq
    cases eq

/-- What the claim is about, in one state. -/
structure World.AtMostOnce (w : World) : Prop where
  /-- A run has at most one process over all time. -/
  once : ∀ (id id' : String) (terminal terminal' : Terminal), w.terminals[id]? = some terminal →
    w.terminals[id']? = some terminal' → terminal.key.runId = terminal'.key.runId → id = id'
  /-- It was created by the ctmuxd that the run was pinned to when it was made durable. -/
  pinned : ∀ (id : String) (terminal : Terminal), w.terminals[id]? = some terminal →
    w.pins[terminal.key.runId]? = some ⟨terminal.key.taskId, terminal.instanceId⟩
  /-- No process of a closed run runs. -/
  ended : ∀ (id : String) (terminal : Terminal), w.terminals[id]? = some terminal →
    terminal.key.runId ∈ w.closed → terminal.lifecycle ≠ .running
  /-- The released runs in the file and of ctl-taskd are closed. -/
  released : ∀ tasks, (tasks = w.file ∨ ∃ taskd, w.taskd = some taskd ∧ taskd.tasks = tasks) →
    ∀ (id : String) (task : TaskInfo) (run : RunInfo) (backend : InteractiveRun),
      tasks[id]? = some task → task.lastRun = some run → run.interactive = some backend →
        backend.released = true → run.runId ∈ w.closed

lemma Inv.atMostOnce (h : Inv w) : w.AtMostOnce where
  once := h.stable.backed.unique
  pinned := h.stable.backed.pinned
  ended := by
    intro id terminal found closed
    obtain ⟨pin, -, ended, -⟩ := h.stable.closed _ closed
    exact ended id terminal found rfl
  released := by
    intro tasks where_ id task run backend found last interactive released
    have kept : w.Kept tasks := by
      cases where_ with
      | inl file =>
        rw [file]
        exact h.stable.file
      | inr memory =>
        obtain ⟨taskd, eq, rfl⟩ := memory
        exact (h.taskd taskd eq).1
    exact ((kept id task found).2 run backend (.inr last) interactive).2 released

section
variable {home : Option String} {ctmuxSocket : String}

lemma Inv.later {w w' : World} (h : Inv w) (actions : List Action)
    (run : exec (Managed.step home ctmuxSocket) w actions = some w')
    (allowed : Allows (Managed.step home ctmuxSocket) Meets w actions) :
    Inv w' ∧ w.closed ⊆ w'.closed ∧ ∀ runId ∈ w.closed, ∀ (id : String) (terminal : Terminal),
      w'.terminals[id]? = some terminal → terminal.key.runId = runId →
        ∃ before, w.terminals[id]? = some before ∧ before.key = terminal.key := by
  induction actions generalizing w with
  | nil =>
    obtain rfl : w = w' := Option.some.inj run
    exact ⟨h, List.Subset.refl _, fun _ _ id terminal found _ => ⟨terminal, found, rfl⟩⟩
  | cons action actions ih =>
    rw [exec, List.foldlM_cons, Option.bind_eq_bind, Option.bind_eq_some_iff] at run
    obtain ⟨next, taken, rest⟩ := run
    obtain ⟨inv, evolves⟩ := h.step allowed.1 taken
    obtain ⟨inv', closed, old⟩ := ih inv rest (allowed.2 next taken)
    refine ⟨inv', List.Subset.trans evolves.closed closed, ?_⟩
    intro runId mem id terminal found run
    obtain ⟨between, there, key⟩ := old runId (evolves.closed mem) id terminal found run
    obtain ⟨before, there, key', -⟩ :=
      evolves.terminal_old (h.stable.closed runId mem) there (by rw [key]; exact run)
    exact ⟨before, there, key'.trans key⟩

/-- In every run of both daemons in which no creation fails after it has spawned its process and no
    process outlives its ctmuxd, an interactive run has at most one process, on the ctmuxd that it
    was pinned to. Once its stop has succeeded or its outcome is released, none runs and none is
    created any more. -/
theorem managed_atMostOnce {w : World} (h : ReachableWhile (step home ctmuxSocket) Initial Meets w) :
    w.AtMostOnce ∧ ∀ (actions : List Action) (w' : World),
      exec (step home ctmuxSocket) w actions = some w' →
      Allows (step home ctmuxSocket) Meets w actions →
      ∀ runId ∈ w.closed, ∀ (id : String) (terminal : Terminal), w'.terminals[id]? = some terminal →
        terminal.key.runId = runId →
          terminal.lifecycle ≠ .running ∧ (w.terminals[id]?).isSome := by
  have inv := h.invariant Inv (fun _ => Initial.inv) fun _ _ _ inv meets taken =>
    (inv.step meets taken).1
  refine ⟨inv.atMostOnce, ?_⟩
  intro actions w' run allowed runId mem id terminal found same
  obtain ⟨inv', closed, old⟩ := inv.later actions run allowed
  obtain ⟨before, there, -⟩ := old runId mem id terminal found same
  refine ⟨inv'.atMostOnce.ended id terminal found ?_, by rw [there]; rfl⟩
  rw [same]
  exact closed mem

end

def blank : World := ⟨none, ∅, none, [], [], 0, ∅, [], ∅, []⟩

lemma blank_initial : Initial blank := by
  refine ⟨∅, rfl, ?_⟩
  intro id task found
  have absent : (∅ : Tasks)[id]? = none := rfl
  cases absent.symm.trans found

def exchanging (creation : Creation) : List Action :=
  [.connect, .deliver 0 creation none, .answer none 0]

def startShell : List Action :=
  [.loadTaskd 0, .create "t1" ⟨"shell", "sh", [], none, .interactive⟩ none true, .bootCtmuxd "c1",
    .start "shell", .intend "r1" 0] ++ exchanging (.failed "") ++ exchanging (.failed "")

def stopShell : List Action :=
  startShell ++ exchanging (.created "p1" "s1") ++ [Action.stop "shell" none] ++
    exchanging (.failed "") ++ exchanging (.failed "") ++ [Action.exit "p1" (some 0), .poll] ++
    exchanging (.failed "") ++ exchanging (.failed "")

theorem managed_atMostOnce_stopShell :
    ∃ w, exec (step (some "/home/user") "/run/ctmux") blank stopShell = some w ∧
      w.closed = ["r1"] ∧ (w.terminals["p1"]?).isSome = true ∧ w.AtMostOnce ∧
      ∀ (actions : List Action) (w' : World),
        exec (step (some "/home/user") "/run/ctmux") w actions = some w' →
        Allows (step (some "/home/user") "/run/ctmux") Meets w actions →
        ∀ runId ∈ w.closed, ∀ (id : String) (terminal : Terminal),
          w'.terminals[id]? = some terminal → terminal.key.runId = runId →
            terminal.lifecycle ≠ .running ∧ (w.terminals[id]?).isSome := by
  have seen : (exec (step (some "/home/user") "/run/ctmux") blank stopShell).map (fun w =>
      (w.closed, (w.terminals["p1"]?).isSome)) = some (["r1"], true) := by
    decide +kernel
  have allowed : Allows (step (some "/home/user") "/run/ctmux") Meets blank stopShell := by
    decide +kernel
  obtain ⟨w, run, seen⟩ := Option.map_eq_some_iff.1 seen
  obtain ⟨closed, created⟩ := Prod.mk.inj seen
  exact ⟨w, run, closed, created,
    managed_atMostOnce ((ReachableWhile.start blank_initial).exec stopShell run allowed)⟩

/-- The creation of the shell fails after its process was spawned, and the outcome is released. -/
def leakShell : List Action :=
  startShell ++ exchanging (.leaked "p1" "s1" "could not start child waiter thread") ++
    [.reconcile "t1"] ++ exchanging (.failed "") ++ exchanging (.failed "")

/-- The run is released while its process runs. -/
theorem leakShell_runs :
    ∃ w, Reachable (step (some "/home/user") "/run/ctmux") Initial w ∧ w.closed = ["r1"] ∧
      w.terminals["p1"]? = some ⟨⟨"t1", "r1"⟩, "c1", "s1", .running⟩ ∧ ¬ w.AtMostOnce := by
  have seen : (exec (step (some "/home/user") "/run/ctmux") blank leakShell).map (fun w =>
      (w.closed, w.terminals["p1"]?)) =
      some (["r1"], some ⟨⟨"t1", "r1"⟩, "c1", "s1", .running⟩) := by
    decide +kernel
  obtain ⟨w, run, seen⟩ := Option.map_eq_some_iff.1 seen
  obtain ⟨closed, running⟩ := Prod.mk.inj seen
  refine ⟨w, Reachable.exec (.start blank_initial) leakShell run, closed, running, ?_⟩
  intro safe
  apply safe.ended "p1" _ running
  · rw [closed]
    exact List.mem_cons_self
  · rfl

end Ctl.Task.Managed
