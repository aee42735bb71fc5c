import Ctl.Daemon.Ownership

/-!
# Session names

A name is reserved under the registry lock, held while a terminal is spawned, and then committed to a
session or dropped. When the commit of a split fails, its reservation gives the name back twice: once
in `NameReservation::commit` and once more in the `Drop` of the reservation, which takes the lock
again. Whoever asks for that name in between loses its reservation to the second release. Without such
a request the names of sessions and reservations are all different (`reachable_names`).
-/

namespace Ctl.Daemon
open Ctl.Base Ctl.Proto Ctl.Core

namespace Registry

def Live (r : Registry) (k name : String) : Prop :=
  ∃ session, AList.lookup k r.sessions = some session ∧ session.name = name

/-- At most one session gets a name that it did not have. -/
def Adds (r r' : Registry) (k name : String) : Prop :=
  ∀ k' name', r'.Live k' name' → r.Live k' name' ∨ k' = k ∧ name' = name

/-- No session gets a name that it did not have. -/
def Inherits (r r' : Registry) : Prop := ∀ k name, r'.Live k name → r.Live k name

/-! ### Names after a change -/

variable {r r' : Registry} {name : String} {event : Event} {k : String} {session : Session}

lemma Live.withSession {k' : String} (h : (r.withSession k session).Live k' name) :
    r.Live k' name ∨ k' = k ∧ name = session.name := by
  obtain ⟨other, found, rfl⟩ := h
  rw [lookup_withSession] at found
  split at found
  case isTrue eq => cases found; exact .inr ⟨eq, rfl⟩
  case isFalse => exact .inl ⟨other, found, rfl⟩

lemma Inherits.withSession (session' : Session) (found : AList.lookup k r.sessions = some session)
    (same : session'.name = session.name) : Inherits r (r.withSession k session') := by
  intro k' name h
  rcases h.withSession with h | ⟨rfl, rfl⟩
  · exact h
  · exact ⟨session, found, same.symm⟩

lemma Inherits.erase (r : Registry) (k : String) : Inherits r { r with sessions := AList.erase k r.sessions } := by
  rintro k' name ⟨session, found, rfl⟩
  refine ⟨session, ?_, rfl⟩
  by_cases eq : k' = k
  · rw [eq] at found
    rw [AList.lookup_erase] at found
    cases found
  · exact (AList.lookup_erase_ne eq).symm.trans found

lemma Inherits.trans {r r' r'' : Registry} (h : Inherits r r') (h' : Inherits r' r'') : Inherits r r'' :=
  fun k name live => h k name (h' k name live)

lemma Inherits.of_alike (h : Alike r r') : Inherits r r' := by
  rintro k name ⟨session', found, rfl⟩
  obtain ⟨session, found, same⟩ := h.lookup found
  have sameName : session.unleased.name = session'.unleased.name := congrArg Session.name same
  exact ⟨session, found, sameName⟩

lemma editTerminals_names (r : Registry) (ids : List String) (f : Terminal → Terminal) :
    (r.editTerminals ids f).pendingNames = r.pendingNames ∧
      (r.editTerminals ids f).nextAutomaticName = r.nextAutomaticName := by
  induction ids generalizing r with
  | nil => exact ⟨rfl, rfl⟩
  | cons id ids ih => exact ih _

lemma Change.names (h : Change r event r') :
    r'.pendingNames = r.pendingNames ∧ r'.nextAutomaticName = r.nextAutomaticName := by
  cases h with
  | rename _ _ _ => exact editTerminals_names _ _ _
  | merge _ _ _ _ _ _ _ _ _ => exact editTerminals_names _ _ _
  | _ => exact ⟨rfl, rfl⟩

lemma changeViewLeases_names (r : Registry) (self : String)
    (action : AttachmentLeaseRegistry → AttachmentLeaseRegistry) :
    (r.changeViewLeases self action).pendingNames = r.pendingNames ∧
      (r.changeViewLeases self action).nextAutomaticName = r.nextAutomaticName := by
  unfold changeViewLeases
  split <;> exact ⟨rfl, rfl⟩

lemma acquireLease_names (r : Registry) (self attachmentId : String) (lease : LeaseKind) :
    (r.acquireLease self attachmentId lease).pendingNames = r.pendingNames ∧
      (r.acquireLease self attachmentId lease).nextAutomaticName = r.nextAutomaticName := by
  cases lease with
  | input => exact ⟨rfl, rfl⟩
  | layout => exact changeViewLeases_names r self _

lemma releaseLease_names (r : Registry) (self attachmentId : String) (lease : LeaseKind) :
    (r.releaseLease self attachmentId lease).pendingNames = r.pendingNames ∧
      (r.releaseLease self attachmentId lease).nextAutomaticName = r.nextAutomaticName := by
  cases lease with
  | input => exact ⟨rfl, rfl⟩
  | layout => exact changeViewLeases_names r self _

def Event.owner : Event → Option TerminalOwner
  | .quiet => none
  | .opened _ owner _ => some owner
  | .moved _ owner _ => some owner

lemma Change.adds (h : Change r event r') {owner : TerminalOwner} (opens : owner ∈ event.owner) :
    Adds r r' owner.sessionId owner.name := by
  cases h with
  | create _ _ _ =>
    cases opens
    exact fun k name live => Live.withSession live
  | @move id k terminal session layout _ _ _ _ found _ _ =>
    cases opens
    intro k' name live
    rcases Live.withSession (r := (r.withSession k (without terminal layout session)).editTerminal id
      (withOwner owner)) live with live | added
    · exact .inl (Inherits.withSession (without terminal layout session) found rfl k'
        name live)
    · exact .inr added
  | _ => cases opens

lemma Change.quiet {r r' : Registry} (h : Change r .quiet r') :
    Inherits r r' ∨ ∃ k name, name ∉ r.pendingNames ∧ (∀ k', r.Live k' name → k' = k) ∧
      Adds r r' k name := by
  have keeps : ∀ {r'' : Registry} {ids f}, Inherits r r'' →
      Inherits r (r''.editTerminals ids f) := by
    intro r'' ids f h k name live
    rw [Live, editTerminals_sessions] at live
    exact h k name live
  cases h with
  | none => exact .inl fun _ _ live => live
  | edit found edit => exact .inl (.withSession _ found edit.name)
  | @rename k name session found free unused =>
    refine .inr ⟨k, name, free, ?_, ?_⟩
    · rintro k' ⟨session', found', same⟩
      exact unused k' session' found' same
    · intro k' name' live
      rw [Live, editTerminals_sessions] at live
      exact Live.withSession live
  | @merge source destination layout owner foundSrc foundDst ne =>
    refine .inl (keeps ((Inherits.erase r source.id).trans ?_))
    exact .withSession _ ((AList.lookup_erase_ne ne.symm).trans foundDst) rfl
  | join _ _ found => exact .inl (.withSession _ found rfl)
  | shrink _ _ _ found _ => exact .inl (.withSession (without _ _ _) found rfl)
  | close _ _ _ _ _ => exact .inl (.erase r _)

/-! ### Names are different -/

/-- No two sessions share a name, and no name of a session is reserved. -/
structure Distinct (r : Registry) : Prop where
  unique : ∀ k k' name, r.Live k name → r.Live k' name → k = k'
  separate : ∀ k name, r.Live k name → name ∉ r.pendingNames

namespace Distinct

variable {r r' : Registry}

lemma inherit (h : r.Distinct) (inherits : Inherits r r')
    (pending : ∀ name ∈ r'.pendingNames, name ∈ r.pendingNames) : r'.Distinct where
  unique k k' name live live' := h.unique k k' name (inherits k name live) (inherits k' name live')
  separate k name live mem := h.separate k name (inherits k name live) (pending name mem)

lemma add (h : r.Distinct) (k name : String) (adds : Adds r r' k name)
    (free : ∀ k', r.Live k' name → k' = k) (unreserved : name ∉ r'.pendingNames)
    (pending : ∀ name ∈ r'.pendingNames, name ∈ r.pendingNames) : r'.Distinct where
  unique k₁ k₂ name' live₁ live₂ := by
    rcases adds k₁ name' live₁ with live₁ | ⟨rfl, rfl⟩
    · rcases adds k₂ name' live₂ with live₂ | ⟨rfl, rfl⟩
      · exact h.unique k₁ k₂ name' live₁ live₂
      · exact free k₁ live₁
    · rcases adds k₂ name' live₂ with live₂ | ⟨rfl, -⟩
      · exact (free k₂ live₂).symm
      · rfl
  separate k' name' live mem := by
    rcases adds k' name' live with live | ⟨rfl, rfl⟩
    · exact h.separate k' name' live (pending name' mem)
    · exact unreserved mem

lemma quiet (h : r.Distinct) (steps : Steps r .quiet r') : r'.Distinct := by
  obtain ⟨changed, change, calm⟩ := steps
  have inherits : Inherits changed r' := .of_alike (.of_calm calm)
  have pending : r'.pendingNames = r.pendingNames := calm.pendingNames.trans change.names.1
  rcases change.quiet with same | ⟨k, name, free, unused, adds⟩
  · exact h.inherit (same.trans inherits) fun _ mem => pending ▸ mem
  · refine h.add _ _ (fun k' name' live => adds k' name' (inherits k' name' live)) unused ?_
      fun _ mem => pending ▸ mem
    rw [pending]
    exact free

end Distinct

lemma mem_releaseName {name' : String} :
    name' ∈ (r.releaseName name).pendingNames ↔ name' ∈ r.pendingNames ∧ name' ≠ name := by
  simp [releaseName]

lemma Steps.names (h : Steps r event r') :
    r'.pendingNames = r.pendingNames ∧ r'.nextAutomaticName = r.nextAutomaticName := by
  obtain ⟨changed, change, calm⟩ := h
  exact ⟨calm.pendingNames.trans change.names.1, calm.nextAutomaticName.trans change.names.2⟩

lemma Distinct.opened {owner : TerminalOwner} (h : r.Distinct) (held : owner.name ∈ r.pendingNames)
    (steps : Steps r event r') (opens : owner ∈ event.owner) : (r'.releaseName owner.name).Distinct := by
  obtain ⟨changed, change, calm⟩ := steps
  have inherits : Inherits changed r' := .of_alike (.of_calm calm)
  have pending : r'.pendingNames = r.pendingNames := calm.pendingNames.trans change.names.1
  refine h.add owner.sessionId owner.name
    (fun k' name' live => change.adds opens k' name' (inherits k' name' live)) ?_ ?_ ?_
  · exact fun k' live => (h.separate k' _ live held).elim
  · exact fun mem => (mem_releaseName.1 mem).2 rfl
  · exact fun name mem => pending ▸ (mem_releaseName.1 mem).1

lemma automaticName_injective {m n : Nat} (h : automaticName m = automaticName n) : m = n := by
  have digits := congrArg (fun s => Nat.ofDigitChars 10 s.toList 0)
    ((String.append_right_inj "session-").1 h)
  simpa [Nat.toList_repr] using digits

def SpentName (r : Registry) (name : String) : Prop :=
  ∃ sequence, name = automaticName sequence ∧ r.Spent sequence

lemma taken_eq_false (h : r.taken name = false) : name ∉ r.pendingNames ∧ ∀ k, ¬ r.Live k name := by
  unfold taken at h
  rw [Bool.or_eq_false_iff, decide_eq_false_iff_not] at h
  refine ⟨h.1, ?_⟩
  rintro k ⟨session, found, same⟩
  have any : r.sessions.any (fun session => session.name = name) = true :=
    Table.any_iff.2 ⟨k, session, found, decide_eq_true same⟩
  rw [h.2] at any
  cases any

end Registry

/-! ### Reservations in progress -/

def Task.holds : Task → Option String
  | .reserved _ name => some name
  | .dropping name false => some name
  | _ => none

def Task.releases : Task → Option String
  | .dropping name true => some name
  | _ => none

namespace World
open Registry

def Holds (w : World) (task : Nat) (name : String) : Prop :=
  ∃ t, AList.lookup task w.tasks = some t ∧ t.holds = some name

def Releases (w : World) (task : Nat) (name : String) : Prop :=
  ∃ t, AList.lookup task w.tasks = some t ∧ t.releases = some name

/-- What is promised about names. -/
structure NamesDistinct (w : World) : Prop where
  /-- No two sessions share a name. -/
  unique : ∀ k k' name, w.registry.Live k name → w.registry.Live k' name → k = k'
  /-- No name of a session is reserved. -/
  separate : ∀ k name, w.registry.Live k name → name ∉ w.registry.pendingNames
  /-- A reservation in progress is in the registry: nothing has removed it. -/
  kept : ∀ task name, w.Holds task name → name ∈ w.registry.pendingNames
  /-- No two operations hold the same name. -/
  apart : ∀ task task' name, w.Holds task name → w.Holds task' name → task = task'

structure NameInv (w : World) : Prop extends NamesDistinct w where
  split : ∀ task targetId axis terminalId size name,
    AList.lookup task w.tasks = some (.reserved (.split targetId axis terminalId size) name) →
    w.registry.SpentName name
  released : ∀ task name, w.Releases task name →
    name ∉ w.registry.pendingNames ∧ w.registry.SpentName name

namespace NameInv

variable {w : World} {r : Registry} {task : Nat} {next : Option Task}

lemma distinct (inv : w.NameInv) : w.registry.Distinct := ⟨inv.unique, inv.separate⟩

lemma registry (inv : w.NameInv) (distinct : r.Distinct) (pending : r.pendingNames = w.registry.pendingNames)
    (next : r.nextAutomaticName = w.registry.nextAutomaticName) :
    NameInv { w with registry := r } where
  unique := distinct.unique
  separate := distinct.separate
  kept task name holds := pending ▸ inv.kept task name holds
  apart := inv.apart
  split task targetId axis terminalId size name found := by
    obtain ⟨sequence, eq, spent⟩ := inv.split task targetId axis terminalId size name found
    exact ⟨sequence, eq, fun n hn => spent n (next ▸ hn)⟩
  released task name releases := by
    obtain ⟨absent, sequence, eq, spent⟩ := inv.released task name releases
    exact ⟨pending ▸ absent, sequence, eq, fun n hn => spent n (next ▸ hn)⟩

lemma settle (inv : w.NameInv) (distinct : r.Distinct) (spent : ∀ n, w.registry.Spent n → r.Spent n)
    (others : ∀ task' name, task' ≠ task → w.Holds task' name → name ∈ r.pendingNames)
    (released : ∀ task' name, task' ≠ task → w.Releases task' name → name ∉ r.pendingNames)
    (holds : ∀ t ∈ next, ∀ name ∈ t.holds, name ∈ r.pendingNames ∧
      ∀ task' ≠ task, ¬ w.Holds task' name)
    (releases : ∀ t ∈ next, ∀ name ∈ t.releases, name ∉ r.pendingNames ∧ r.SpentName name)
    (split : ∀ targetId axis terminalId size name,
      next = some (.reserved (.split targetId axis terminalId size) name) → r.SpentName name) :
    (w.settle task r next).NameInv := by
  have heldOrOwn : ∀ {task' name}, (w.settle task r next).Holds task' name →
      task' ≠ task ∧ w.Holds task' name ∨ task' = task ∧ ∃ t ∈ next, name ∈ t.holds := by
    rintro task' name ⟨t, found, hold⟩
    rw [lookup_settle] at found
    split at found
    case isTrue eq => exact .inr ⟨eq, t, found, hold⟩
    case isFalse ne => exact .inl ⟨ne, t, found, hold⟩
  have carry : ∀ {name}, w.registry.SpentName name → r.SpentName name := by
    rintro name ⟨sequence, eq, h⟩
    exact ⟨sequence, eq, spent sequence h⟩
  refine ⟨⟨?_, ?_, ?_, ?_⟩, ?_, ?_⟩
  · rw [settle_registry]
    exact distinct.unique
  · rw [settle_registry]
    exact distinct.separate
  · intro task' name hold
    rw [settle_registry]
    rcases heldOrOwn hold with ⟨ne, hold⟩ | ⟨-, t, ht, hold⟩
    · exact others task' name ne hold
    · exact (holds t ht name hold).1
  · intro task₁ task₂ name hold₁ hold₂
    rcases heldOrOwn hold₁ with ⟨ne₁, old₁⟩ | ⟨eq₁, t₁, ht₁, own₁⟩
    · rcases heldOrOwn hold₂ with ⟨-, old₂⟩ | ⟨eq₂, t₂, ht₂, own₂⟩
      · exact inv.apart task₁ task₂ name old₁ old₂
      · exact ((holds t₂ ht₂ name own₂).2 task₁ ne₁ old₁).elim
    · rcases heldOrOwn hold₂ with ⟨ne₂, old₂⟩ | ⟨eq₂, -⟩
      · exact ((holds t₁ ht₁ name own₁).2 task₂ ne₂ old₂).elim
      · exact eq₁.trans eq₂.symm
  · intro task' targetId axis terminalId size name found
    rw [lookup_settle] at found
    rw [settle_registry]
    split at found
    · exact split targetId axis terminalId size name found
    · exact carry (inv.split task' targetId axis terminalId size name found)
  · rintro task' name ⟨t, found, release⟩
    rw [lookup_settle] at found
    rw [settle_registry]
    split at found
    · exact releases t found name release
    case isFalse ne =>
      exact ⟨released task' name ne ⟨t, found, release⟩,
        carry (inv.released task' name ⟨t, found, release⟩).2⟩

lemma neutral (inv : w.NameInv) (distinct : r.Distinct) (pending : r.pendingNames = w.registry.pendingNames)
    (spent : ∀ n, w.registry.Spent n → r.Spent n) (idle : ∀ t ∈ next, t.holds = none ∧ t.releases = none) :
    (w.settle task r next).NameInv := by
  refine inv.settle distinct spent ?_ ?_ ?_ ?_ ?_
  · exact fun task' name _ hold => pending ▸ inv.kept task' name hold
  · exact fun task' name _ release => pending ▸ (inv.released task' name release).1
  · intro t ht name hold
    rw [(idle t ht).1] at hold
    cases hold
  · intro t ht name release
    rw [(idle t ht).2] at release
    cases release
  · rintro targetId axis terminalId size name rfl
    cases (idle _ rfl).1

end NameInv

/-- A step does not request a name that a failed split is about to release once more. -/
def RequestsUnreleased (w : World) : Action → Prop
  | .reserve task =>
    match AList.lookup task w.tasks with
    | some (.planned request) =>
      ∀ name ∈ request.name, w.tasks.any (fun t => t.releases = some name) = false
    | _ => True
  | _ => True

/-- The name that a reservation asks for, if it asks for one. -/
def requestedName (w : World) : Action → Option String
  | .reserve task =>
    match AList.lookup task w.tasks with
    | some (.planned request) => request.name
    | _ => none
  | _ => none

lemma requestsUnreleased_iff (w : World) (action : Action) :
    w.RequestsUnreleased action ↔
      ∀ name ∈ w.requestedName action, w.tasks.any (fun t => t.releases = some name) = false := by
  unfold RequestsUnreleased requestedName
  split
  · split
    · rfl
    · exact iff_of_true trivial fun _ mem => absurd mem (Option.not_mem_none _)
  · exact iff_of_true trivial fun _ mem => absurd mem (Option.not_mem_none _)

instance (w : World) (action : Action) : Decidable (w.RequestsUnreleased action) :=
  decidable_of_iff' _ (requestsUnreleased_iff w action)

variable {w : World} {task : Nat} {name : String} {next : Option Nat} {task' : Nat} {w' : World}

lemma reserve_unreleased (inv : w.NameInv) {request : Request} (condition : w.RequestsUnreleased (.reserve task))
    (found : AList.lookup task w.tasks = some (.planned request)) (named : Named w.registry request.name name next)
    {name' : String} (release : w.Releases task' name') : name' ≠ name := by
  rintro rfl
  rw [RequestsUnreleased, found] at condition
  dsimp only at condition
  generalize request.name = requested at named condition
  cases named with
  | requested =>
    obtain ⟨t, ht, releases⟩ := release
    have any : w.tasks.any (fun t => t.releases = some name') = true :=
      Table.any_iff.2 ⟨task', t, ht, decide_eq_true releases⟩
    rw [condition name' rfl] at any
    cases any
  | @automatic sequence _ later =>
    -- The released name has a smaller number.
    obtain ⟨-, old, eq, spent⟩ := inv.released task' _ release
    exact (later old spent).ne (automaticName_injective eq).symm

lemma spent_withNext {r : Registry} {requested : Option String} (named : Named r requested name next) (old : Nat)
    (h : r.Spent old) : (r.withNext next).Spent old := by
  cases named with
  | requested => exact h
  | automatic _ keeps _ => exact keeps old h

lemma commit_nameInv (inv : w.NameInv) {request : Request} {owner : TerminalOwner} {r' : Registry}
    {next : Option Task} (found : AList.lookup task w.tasks = some (.reserved request owner.name))
    (unused : AList.lookup owner.sessionId w.registry.sessions = none)
    (commits : Commits w.registry owner request r' next) : (w.settle task r' next).NameInv := by
  have hold : w.Holds task owner.name := ⟨_, found, rfl⟩
  have held := inv.kept task owner.name hold
  have other : ∀ task' name, task' ≠ task → w.Holds task' name →
      name ∈ (w.registry.releaseName owner.name).pendingNames := by
    intro task' name ne hold'
    refine mem_releaseName.2 ⟨inv.kept task' name hold', ?_⟩
    rintro rfl
    exact ne (inv.apart task' task _ hold' hold)
  have released : ∀ task' name, task' ≠ task → w.Releases task' name →
      name ∉ (w.registry.releaseName owner.name).pendingNames :=
    fun task' name _ release mem => (inv.released task' name release).1 (mem_releaseName.1 mem).1
  -- After a commit that succeeds nothing is left of the task.
  have done : ∀ {r : Registry}, r.Distinct →
      r.pendingNames = (w.registry.releaseName owner.name).pendingNames →
      r.nextAutomaticName = w.registry.nextAutomaticName → (w.settle task r none).NameInv := by
    intro r distinct pending next
    refine inv.settle distinct (fun n spent m hm => spent m (next ▸ hm)) ?_ ?_ ?_ ?_ ?_
    · exact fun task' name ne hold' => pending ▸ other task' name ne hold'
    · exact fun task' name ne release => pending ▸ released task' name ne release
    · exact fun _ ht => by cases ht
    · exact fun _ ht => by cases ht
    · exact fun _ _ _ _ _ ht => by cases ht
  cases commits with
  | @create _ terminalId size managed fresh =>
    have steps : Steps w.registry (.opened terminalId owner size)
        ((w.registry.openSession terminalId owner size).insertTerminal terminalId
          (.spawn owner size managed)) :=
      ⟨_, @Change.create _ _ (.spawn owner size managed) fresh rfl unused, .refl _⟩
    exact done (inv.distinct.opened held steps rfl) rfl rfl
  | move target steps =>
    obtain ⟨pending, next⟩ := steps.names
    refine done (inv.distinct.opened held steps rfl) ?_ next
    rw [releaseName, releaseName, pending]
  | keep target calm =>
    refine inv.settle (inv.distinct.inherit (.of_alike (.of_calm calm)) fun _ h =>
      calm.pendingNames ▸ h) (fun n spent m hm => spent m (calm.nextAutomaticName ▸ hm)) ?_ ?_ ?_ ?_ ?_
    · exact fun task' name _ hold' => calm.pendingNames ▸ inv.kept task' name hold'
    · exact fun task' name _ release => calm.pendingNames ▸ (inv.released task' name release).1
    · rintro _ ⟨rfl⟩ name ⟨rfl⟩
      exact ⟨calm.pendingNames ▸ held, fun task' ne hold' => ne (inv.apart task' task _ hold' hold)⟩
    · rintro _ ⟨rfl⟩ name ⟨⟩
    · rintro targetId axis terminalId size name ⟨⟩
  | @split targetId terminalId axis size _ _ steps left =>
    have distinct : (w.registry.releaseName owner.name).Distinct :=
      inv.distinct.inherit (fun _ _ live => live) fun _ mem => (mem_releaseName.1 mem).1
    obtain ⟨pending, next⟩ := steps.names
    obtain ⟨sequence, eq, spent⟩ := inv.split task targetId axis terminalId size _ found
    rcases left with rfl | rfl
    · exact done (distinct.quiet steps) pending next
    · refine inv.settle (distinct.quiet steps) (fun n spent m hm => spent m (next ▸ hm)) ?_ ?_ ?_ ?_ ?_
      · exact fun task' name ne hold' => pending ▸ other task' name ne hold'
      · exact fun task' name ne release => pending ▸ released task' name ne release
      · rintro _ ⟨rfl⟩ name ⟨⟩
      · rintro _ ⟨rfl⟩ name ⟨rfl⟩
        refine ⟨pending ▸ fun mem => (mem_releaseName.1 mem).2 rfl, sequence, eq, ?_⟩
        exact fun m hm => spent m (next ▸ hm)
      · rintro targetId axis terminalId size name ⟨⟩

lemma step_nameInv {action : Action} (inv : w.NameInv) (condition : w.RequestsUnreleased action)
    (h : Transition w action w') : w'.NameInv := by
  have same : ∀ {r : Registry}, Alike w.registry r →
      r.pendingNames = w.registry.pendingNames → r.Distinct := fun alike pending =>
    inv.distinct.inherit (.of_alike alike) fun _ mem => pending ▸ mem
  cases h with
  | environment pty => exact inv.registry ⟨inv.unique, inv.separate⟩ rfl rfl
  | perform steps => exact inv.registry (inv.distinct.quiet steps) steps.names.1 steps.names.2
  | begin _ =>
    refine inv.neutral inv.distinct rfl (fun _ h => h) ?_
    rintro _ ⟨rfl⟩
    exact ⟨rfl, rfl⟩
  | refuse _ spent =>
    refine inv.neutral (same ⟨fun _ => rfl, rfl, fun _ => rfl⟩ rfl) rfl spent ?_
    rintro _ ⟨⟩
  | @reserve task request name next found free named =>
    obtain ⟨unreserved, unused⟩ := taken_eq_false free
    refine inv.settle ⟨inv.unique, fun k name' live mem => ?_⟩ (spent_withNext named) ?_ ?_ ?_ ?_ ?_
    · rcases List.mem_cons.1 mem with rfl | mem
      · exact unused k live
      · exact inv.separate k name' live mem
    · exact fun task' name' _ hold => List.mem_cons_of_mem _ (inv.kept task' name' hold)
    · intro task' name' _ release mem
      rcases List.mem_cons.1 mem with eq | mem
      · exact reserve_unreleased inv condition found named release eq
      · exact (inv.released task' name' release).1 mem
    · rintro _ ⟨rfl⟩ name' ⟨rfl⟩
      exact ⟨List.mem_cons_self, fun task' _ hold => unreserved (inv.kept task' name hold)⟩
    · rintro _ ⟨rfl⟩ name' ⟨⟩
    · rintro targetId axis terminalId size name' ⟨⟩
      -- A split reserves an automatic name.
      cases named with
      | automatic _ _ spent => exact ⟨_, rfl, spent⟩
  | @abandon task request name found =>
    have hold : w.Holds task name := ⟨_, found, rfl⟩
    refine inv.settle inv.distinct (fun _ h => h) ?_ ?_ ?_ ?_ ?_
    · exact fun task' name' _ hold' => inv.kept task' name' hold'
    · exact fun task' name' _ release => (inv.released task' name' release).1
    · rintro _ ⟨rfl⟩ name' ⟨rfl⟩
      exact ⟨inv.kept task name hold, fun task' ne hold' => ne (inv.apart task' task _ hold' hold)⟩
    · rintro _ ⟨rfl⟩ name' ⟨⟩
    · rintro targetId axis terminalId size name' ⟨⟩
  | commit found unused _ commits => exact commit_nameInv inv found unused commits
  | @drop task name released found =>
    -- No other operation holds the name that is released.
    have other : ∀ task' name', task' ≠ task → w.Holds task' name' → name' ≠ name := by
      rintro task' _ ne hold rfl
      cases released with
      | false => exact ne (inv.apart task' task _ hold ⟨_, found, rfl⟩)
      | true => exact (inv.released task _ ⟨_, found, rfl⟩).1 (inv.kept task' _ hold)
    refine inv.settle ?_ (fun _ h => h) ?_ ?_ ?_ ?_ ?_
    · exact inv.distinct.inherit (fun _ _ live => live) fun _ mem => (mem_releaseName.1 mem).1
    · exact fun task' name' ne hold =>
        mem_releaseName.2 ⟨inv.kept task' name' hold, other task' name' ne hold⟩
    · exact fun task' name' _ release mem =>
        (inv.released task' name' release).1 (mem_releaseName.1 mem).1
    · rintro _ ⟨⟩
    · rintro _ ⟨⟩
    · rintro _ _ _ _ _ ⟨⟩
  | openAttachment _ _ _ =>
    refine inv.neutral (same (.of_changeAttachments _ _ _) rfl) rfl (fun _ h => h) ?_
    rintro _ ⟨rfl⟩
    exact ⟨rfl, rfl⟩
  | resumeAttachment self token =>
    exact inv.registry (same (.of_changeAttachments _ _ _) rfl) rfl rfl
  | suspendAttachment self token generation =>
    exact inv.registry (same (.of_changeAttachments _ _ _) rfl) rfl rfl
  | closeAttachment _ _ _ =>
    refine inv.neutral (same (.of_changeAttachments _ _ _) rfl) rfl (fun _ h => h) ?_
    rintro _ ⟨rfl⟩
    exact ⟨rfl, rfl⟩
  | acquireLease self attachmentId lease =>
    obtain ⟨pending, next⟩ := acquireLease_names w.registry self attachmentId lease
    exact inv.registry (same (.of_acquireLease _ _ _ _) pending) pending next
  | releaseLease self attachmentId lease =>
    obtain ⟨pending, next⟩ := releaseLease_names w.registry self attachmentId lease
    exact inv.registry (same (.of_releaseLease _ _ _ _) pending) pending next
  | requestInput _ =>
    refine inv.neutral (same (.of_changeLeases _ _ _) rfl) rfl (fun _ h => h) ?_
    rintro _ ⟨rfl⟩
    exact ⟨rfl, rfl⟩
  | @requestLayout task self attachmentId input layout _ =>
    obtain ⟨pending, next⟩ := changeViewLeases_names w.registry self
      fun leases => leases.requestInitial attachmentId false layout
    refine inv.neutral (same (.of_changeViewLeases _ _ _) pending) pending
      (fun n spent m hm => spent m (next ▸ hm)) ?_
    rintro _ ⟨⟩
  | releaseInput _ =>
    refine inv.neutral (same (.of_changeLeases _ _ _) rfl) rfl (fun _ h => h) ?_
    rintro _ ⟨rfl⟩
    exact ⟨rfl, rfl⟩
  | @releaseLayout task self attachmentId _ =>
    obtain ⟨pending, next⟩ := changeViewLeases_names w.registry self
      fun leases => leases.releaseAttachment attachmentId
    refine inv.neutral (same (.of_changeViewLeases _ _ _) pending) pending
      (fun n spent m hm => spent m (next ▸ hm)) ?_
    rintro _ ⟨⟩

lemma initial_nameInv (h : w.Initial) : w.NameInv := by
  cases h
  refine ⟨⟨?_, ?_, ?_, ?_⟩, ?_, ?_⟩
  · rintro _ _ _ ⟨_, ⟨⟩, _⟩
  · rintro _ _ ⟨_, ⟨⟩, _⟩
  · rintro _ _ ⟨_, ⟨⟩, _⟩
  · rintro _ _ _ ⟨_, ⟨⟩, _⟩
  · rintro _ _ _ _ _ _ ⟨⟩
  · rintro _ _ ⟨_, ⟨⟩, _⟩

/-- In every run in which nobody requests the name of a failed split between its two releases, sessions
    and reservations have different names and no reservation is lost. -/
theorem reachable_names {w : World} (h : ReachableWhile step Initial RequestsUnreleased w) : w.NamesDistinct := by
  have inv : w.registry.Owned ∧ w.NameInv := by
    refine h.invariant (fun w => w.registry.Owned ∧ w.NameInv) ?_ ?_
    · exact fun s start => ⟨initial_owned start, initial_nameInv start⟩
    · rintro s action s' ⟨owned, inv⟩ condition step
      exact ⟨step_owned owned step, step_nameInv inv condition (step_transition owned step)⟩
  exact inv.2.toNamesDistinct

def failedSplit : List Action :=
  [.begin 0 (.create (some "work") "t1" ⟨80, 24, 0, 0⟩ false), .reserve 0, .commit 0 "s1" "v1" 0,
    .begin 1 (.split "t1" .horizontal "t2" ⟨80, 24, 0, 0⟩), .reserve 1,
    .perform (.beginTermination "s1"), .commit 1 "s2" "v2" 0]

/-- The failed split releases its name before a session with that name is requested. -/
theorem reachable_names_failedSplit :
    ∃ w, exec step ⟨.default, ∅⟩ (failedSplit ++ [Action.drop 1,
        .begin 2 (.create (some "session-1") "t3" ⟨80, 24, 0, 0⟩ false), .reserve 2]) = some w ∧
      w.Holds 2 "session-1" ∧ w.NamesDistinct :=
  ⟨_, rfl, ⟨_, rfl, rfl⟩,
    reachable_names (ReachableWhile.exec (.start rfl) (failedSplit ++ [Action.drop 1,
      .begin 2 (.create (some "session-1") "t3" ⟨80, 24, 0, 0⟩ false), .reserve 2]) rfl (by decide))⟩

/-- The name of a failed split is requested before the second release, and once more after it. -/
def lostReservation : List Action :=
  failedSplit ++ [Action.begin 2 (.create (some "session-1") "t3" ⟨80, 24, 0, 0⟩ false), .reserve 2,
    .drop 1, .begin 3 (.create (some "session-1") "t4" ⟨80, 24, 0, 0⟩ false), .reserve 3,
    .commit 2 "s3" "v3" 0, .commit 3 "s4" "v4" 0]

/-- Two sessions share a name after the second release of a failed split. -/
theorem lostReservation_shared_name :
    ∃ w, Reachable step Initial w ∧ exec step ⟨.default, ∅⟩ lostReservation = some w ∧
      w.registry.Live "s3" "session-1" ∧ w.registry.Live "s4" "session-1" ∧ ¬ w.NamesDistinct := by
  refine ⟨_, Reachable.exec (.start rfl) lostReservation rfl, rfl, ⟨_, rfl, rfl⟩,
    ⟨_, rfl, rfl⟩, fun h => ?_⟩
  have same := h.unique "s3" "s4" "session-1" ⟨_, rfl, rfl⟩ ⟨_, rfl, rfl⟩
  exact absurd same (by decide)

theorem drop_loses_reservation (hold : w.Holds task name) (release : w.Releases task' name)
    (drop : w.step (.drop task') = some w') : ¬ w'.NamesDistinct := by
  obtain ⟨t, found, holds⟩ := hold
  obtain ⟨t', found', releases⟩ := release
  obtain rfl : t' = .dropping name true := by
    unfold Task.releases at releases
    split at releases
    · cases releases
      rfl
    · cases releases
  have ne : task ≠ task' := by
    rintro rfl
    cases found.symm.trans found'
    cases holds
  rw [step, found'] at drop
  cases drop
  intro distinct
  have kept := distinct.kept task name ⟨t, by rw [lookup_settle, if_neg ne, found], holds⟩
  rw [settle_registry] at kept
  exact (mem_releaseName.1 kept).2 rfl

end World

end Ctl.Daemon
