import Ctl.Daemon.Transitions

/-!
# Sessions and terminals refer to each other

The invariant `Registry.Owned` is kept by every way a registry changes and by every section of the
session manager, so it holds in every reachable state: a registered terminal is a leaf of exactly the
session that its owner record names, and every layout is valid.
-/

namespace Ctl.Daemon
open Ctl.Base Ctl.Proto Ctl.Core

def Session.unleased (session : Session) : Session :=
  { session with view := { session.view with leases := .default } }

namespace Registry

/-! ### Alike registries -/

/-- Owners, registered terminals and sessions without their leases agree. -/
structure Alike (r r' : Registry) : Prop where
  owners : ∀ id, r'.owner? id = r.owner? id
  terminals : r'.terminals = r.terminals
  sessions : ∀ k, (AList.lookup k r'.sessions).map Session.unleased
    = (AList.lookup k r.sessions).map Session.unleased

namespace Alike

variable {r r' r'' : Registry}

lemma refl (r : Registry) : Alike r r := ⟨fun _ => rfl, rfl, fun _ => rfl⟩

lemma lookup (h : Alike r r') {k : String} {session' : Session} (found : AList.lookup k r'.sessions = some session') :
    ∃ session, AList.lookup k r.sessions = some session ∧ session.unleased = session'.unleased := by
  have same := h.sessions k
  rw [found, Option.map_some] at same
  exact Option.map_eq_some_iff.1 same.symm

lemma of_calm (h : Calm r r') : Alike r r' where
  owners id := h.map_eq (f := fun t => t.owner) (fun _ => rfl) id
  terminals := h.terminals
  sessions k := congrArg _ (h.sessions k)

lemma of_editView (r : Registry) (k : String) (action : AttachmentLeaseRegistry → AttachmentLeaseRegistry) :
    Alike r (r.editView k (View.withLeases action)) where
  owners _ := rfl
  terminals := rfl
  sessions := Table.map_lookup_modify fun _ => rfl

lemma of_editTerminal (r : Registry) (id : String) {f : Terminal → Terminal}
    (same : ∀ t, (f t).owner = t.owner) : Alike r (r.editTerminal id f) where
  owners := Table.map_lookup_modify same
  terminals := rfl
  sessions _ := rfl

lemma of_changeViewLeases (r : Registry) (self : String) (action : AttachmentLeaseRegistry → AttachmentLeaseRegistry) :
    Alike r (r.changeViewLeases self action) := by
  unfold changeViewLeases
  split
  · exact .refl r
  · exact .of_editView r _ action

lemma of_changeLeases (r : Registry) (self : String) (action : AttachmentLeaseRegistry → AttachmentLeaseRegistry) :
    Alike r (r.changeLeases self action) :=
  .of_editTerminal r self fun _ => rfl

lemma of_changeAttachments (r : Registry) (self : String)
    (action : Table String AttachmentRecord → Table String AttachmentRecord) :
    Alike r (r.changeAttachments self action) :=
  .of_editTerminal r self fun _ => rfl

lemma of_acquireLease (r : Registry) (self attachmentId : String) (lease : LeaseKind) :
    Alike r (r.acquireLease self attachmentId lease) := by
  cases lease with
  | input => exact .of_changeLeases r self _
  | layout => exact .of_changeViewLeases r self _

lemma of_releaseLease (r : Registry) (self attachmentId : String) (lease : LeaseKind) :
    Alike r (r.releaseLease self attachmentId lease) := by
  cases lease with
  | input => exact .of_changeLeases r self _
  | layout => exact .of_changeViewLeases r self _

end Alike

variable {session : Session} {r r' : Registry} {id : String} {event : Event} {f : Terminal → Terminal}
  {g : TerminalOwner → TerminalOwner} {layout : ViewLayout} {terminal : Terminal}

lemma sessionOk_unleased : SessionOk session.unleased ↔ SessionOk session :=
  ⟨fun h => ⟨h.nodup, h.valid, h.zoom⟩, fun h => ⟨h.nodup, h.valid, h.zoom⟩⟩

lemma Owned.alike (owned : r.Owned) (h : Alike r r') : r'.Owned where
  key k session' found := by
    obtain ⟨session, found, same⟩ := h.lookup found
    exact (congrArg Session.id same).symm.trans (owned.key k session found)
  session k session' found := by
    obtain ⟨session, found, same⟩ := h.lookup found
    have fine := owned.session k session found
    rw [← sessionOk_unleased, same] at fine
    exact sessionOk_unleased.1 fine
  leaf k session' found id mem := by
    obtain ⟨session, found, same⟩ := h.lookup found
    have leaf := owned.leaf k session found id
    change id ∈ session.unleased.view.layout.terminalIds →
      id ∈ r.terminals ∧ r.OwnedBy id session.unleased at leaf
    rw [same] at leaf
    obtain ⟨registered, owner, howner, refers⟩ := leaf mem
    exact ⟨h.terminals ▸ registered, owner, (h.owners id).symm ▸ howner, refers⟩
  home id mem := by
    obtain ⟨owner, howner, session, found, leaf⟩ := owned.home id (h.terminals ▸ mem)
    have same := h.sessions owner.sessionId
    rw [found, Option.map_some] at same
    obtain ⟨session', found', same⟩ := Option.map_eq_some_iff.1 same
    have leaf : id ∈ session.unleased.view.layout.terminalIds := leaf
    rw [← same] at leaf
    exact ⟨owner, (h.owners id).symm ▸ howner, session', found', leaf⟩

/-! ### Owners after a change -/

lemma owner?_editTerminal (r : Registry) (id : String) (same : ∀ t, (f t).owner = g t.owner) (k : String) :
    (r.editTerminal id f).owner? k = if k = id then (r.owner? k).map g else r.owner? k := by
  unfold owner? editTerminal
  rw [Table.lookup_modify]
  split
  case isTrue eq =>
    rw [eq, Option.map_map, Option.map_map]
    exact congrArg (fun h => Option.map h _) (funext same)
  case isFalse => rfl

lemma owner?_editTerminals (r : Registry) (ids : List String) (same : ∀ t, (f t).owner = g t.owner)
    (twice : ∀ o, g (g o) = g o) (k : String) :
    (r.editTerminals ids f).owner? k = if k ∈ ids then (r.owner? k).map g else r.owner? k := by
  induction ids generalizing r with
  | nil => rfl
  | cons id ids ih =>
    rw [editTerminals, List.foldl_cons, ← editTerminals, ih, owner?_editTerminal r id same]
    by_cases eq : k = id
    · rw [if_pos eq, if_pos (List.mem_cons.2 (.inl eq)), Option.map_map,
        show g ∘ g = g from funext twice, ite_self]
    · simp only [List.mem_cons, eq, false_or, if_false]

lemma owner?_insertTerminal (r : Registry) (id : String) (terminal : Terminal) (k : String) :
    (r.insertTerminal id terminal).owner? k
      = if k = id then some terminal.owner else r.owner? k := by
  unfold owner? insertTerminal
  split
  case isTrue eq => rw [eq, AList.lookup_insert]; rfl
  case isFalse ne => rw [AList.lookup_insert_ne ne]

lemma lookup_openSession (r : Registry) (id : String) (owner : TerminalOwner) (size : TerminalSize) (k : String) :
    AList.lookup k (r.openSession id owner size).sessions
      = if k = owner.sessionId then some (newSession id owner size)
        else AList.lookup k r.sessions :=
  lookup_withSession r owner.sessionId (newSession id owner size) k

/-! ### Every change keeps the invariant -/

namespace Owned

variable {r r' : Registry} {id k : String} {session : Session}

lemma leaf_unique (owned : r.Owned) {k' : String} {session' : Session}
    (found : AList.lookup k r.sessions = some session) (found' : AList.lookup k' r.sessions = some session')
    (mem : id ∈ session.view.layout.terminalIds) (mem' : id ∈ session'.view.layout.terminalIds) : k = k' := by
  obtain ⟨-, owner, howner, same, -⟩ := owned.leaf k session found id mem
  obtain ⟨-, owner', howner', same', -⟩ := owned.leaf k' session' found' id mem'
  cases Option.mem_unique howner howner'
  rw [← owned.key k session found, ← owned.key k' session' found', ← same, ← same']

lemma not_registered (owned : r.Owned) (fresh : AList.lookup id r.heap = none) : id ∉ r.terminals := by
  intro mem
  obtain ⟨owner, howner, -⟩ := owned.home id mem
  rw [owner?, fresh] at howner
  cases howner

lemma not_leaf (owned : r.Owned) (absent : id ∉ r.terminals) (found : AList.lookup k r.sessions = some session) :
    id ∉ session.view.layout.terminalIds :=
  fun mem => absent (owned.leaf k session found id mem).1

/-- A session changes and keeps its identity and its leaves, and so do the owners of its leaves, except
    for the name. -/
lemma replace (owned : r.Owned) (session' : Session) (found : AList.lookup k r.sessions = some session)
    (sessions : ∀ k', AList.lookup k' r'.sessions
      = if k' = k then some session' else AList.lookup k' r.sessions) (terminals : r'.terminals = r.terminals)
    (fine : SessionOk session') (sameId : session'.id = session.id) (sameView : session'.view.id = session.view.id)
    (leaves : session'.view.layout.terminalIds.Perm session.view.layout.terminalIds)
    (owners : ∀ id, r'.owner? id = if id ∈ session.view.layout.terminalIds
      then (r.owner? id).map fun owner => { owner with name := session'.name } else r.owner? id) :
    r'.Owned where
  key k' other found' := by
    rw [sessions] at found'
    split at found'
    case isTrue eq => cases found'; rw [eq, sameId, owned.key k session found]
    case isFalse => exact owned.key k' other found'
  session k' other found' := by
    rw [sessions] at found'
    split at found'
    · cases found'; exact fine
    · exact owned.session k' other found'
  leaf k' other found' id mem := by
    rw [sessions] at found'
    rw [terminals, OwnedBy, owners]
    split at found'
    · cases found'
      have mem := leaves.mem_iff.1 mem
      obtain ⟨registered, owner, howner, refersId, refersView, -⟩ := owned.leaf k session found id mem
      rw [if_pos mem, Option.mem_def.1 howner]
      exact ⟨registered, _, rfl, refersId.trans sameId.symm, refersView.trans sameView.symm, rfl⟩
    case isFalse ne =>
      rw [if_neg fun mem' => ne (owned.leaf_unique found' found mem mem')]
      exact owned.leaf k' other found' id mem
  home id mem := by
    obtain ⟨owner, howner, other, found', leaf⟩ := owned.home id (terminals ▸ mem)
    rw [owners]
    by_cases eq : owner.sessionId = k
    · rw [eq, found] at found'
      cases found'
      rw [if_pos leaf, Option.mem_def.1 howner]
      refine ⟨_, rfl, session', ?_, leaves.mem_iff.2 leaf⟩
      rw [sessions, if_pos eq]
    · rw [if_neg fun mem' => eq (owned.leaf_unique found' found leaf mem')]
      refine ⟨owner, howner, other, ?_, leaf⟩
      rw [sessions, if_neg eq, found']

end Owned

lemma SessionEdit.ok {old new : Session} (edit : SessionEdit old new) (fine : SessionOk old) :
    SessionOk new where
  nodup := edit.leaves.nodup_iff.2 fine.nodup
  valid := ViewLayout.validateLayout_ok_iff.2
    ⟨fun _ => edit.leaves.length_eq ▸ (ViewLayout.validateLayout_ok_iff.1 fine.valid).1 rfl,
      edit.valid⟩
  zoom := edit.zoom

lemma Owned.map_name (owned : r.Owned) {k : String} (found : AList.lookup k r.sessions = some session) (id : String) :
    r.owner? id = if id ∈ session.view.layout.terminalIds
      then (r.owner? id).map fun owner => { owner with name := session.name } else r.owner? id := by
  split
  case isTrue mem =>
    obtain ⟨-, owner, howner, -, -, same⟩ := owned.leaf k session found id mem
    rw [Option.mem_def.1 howner, Option.map_some, ← same]
  case isFalse => rfl

lemma Owned.edit {r : Registry} (owned : r.Owned) {k : String} {session session' : Session}
    (found : AList.lookup k r.sessions = some session) (edit : SessionEdit session session') :
    (r.withSession k session').Owned := by
  refine owned.replace session' found (lookup_withSession r k session') rfl
    (edit.ok (owned.session k session found)) edit.id edit.viewId edit.leaves ?_
  rw [edit.name]
  exact owned.map_name found

lemma editTerminals_terminals (r : Registry) (ids : List String) (f : Terminal → Terminal) :
    (r.editTerminals ids f).terminals = r.terminals := by
  induction ids generalizing r with
  | nil => rfl
  | cons id ids ih => exact ih _

lemma editTerminals_sessions (r : Registry) (ids : List String) (f : Terminal → Terminal) :
    (r.editTerminals ids f).sessions = r.sessions := by
  induction ids generalizing r with
  | nil => rfl
  | cons id ids ih => exact ih _

lemma Owned.rename {r : Registry} (owned : r.Owned) {k : String} {session : Session}
    (found : AList.lookup k r.sessions = some session) (name : String) :
    ((r.withSession k (renamed name session)).editTerminals
      session.view.layout.terminalIds (withOwnerName name)).Owned := by
  have fine := owned.session k session found
  refine owned.replace (renamed name session) found ?_ ?_
    ⟨fine.nodup, fine.valid, fine.zoom⟩ rfl rfl (.refl _) ?_
  · rw [editTerminals_sessions]
    exact lookup_withSession r k (renamed name session)
  · rw [editTerminals_terminals]
    rfl
  · exact fun id => owner?_editTerminals (r.withSession k (renamed name session)) _
      (g := fun owner => { owner with name }) (fun _ => rfl) (fun _ => rfl) id

lemma Owned.admit (owned : r.Owned) (id : String) (owner : TerminalOwner) (size : TerminalSize)
    (absent : id ∉ r.terminals) (unused : AList.lookup owner.sessionId r.sessions = none)
    (sessions : ∀ k, AList.lookup k r'.sessions
      = if k = owner.sessionId then some (newSession id owner size) else AList.lookup k r.sessions)
    (terminals : ∀ x, x ∈ r'.terminals ↔ x = id ∨ x ∈ r.terminals)
    (owners : ∀ x, r'.owner? x = if x = id then some owner else r.owner? x) : r'.Owned where
  key k session found := by
    rw [sessions] at found
    split at found
    case isTrue eq => cases found; exact eq.symm
    case isFalse => exact owned.key k session found
  session k session found := by
    rw [sessions] at found
    split at found
    · cases found
      exact ⟨List.nodup_singleton id, rfl, fun _ h => (Option.not_mem_none _ h).elim⟩
    · exact owned.session k session found
  leaf k session found x mem := by
    rw [sessions] at found
    rw [OwnedBy, owners, terminals]
    split at found
    · cases found
      cases List.mem_singleton.1 mem
      exact ⟨.inl rfl, _, if_pos rfl, rfl, rfl, rfl⟩
    · obtain ⟨registered, refers⟩ := owned.leaf k session found x mem
      have ne : x ≠ id := by
        rintro rfl
        exact absent registered
      exact ⟨.inr registered, by rw [if_neg ne]; exact refers⟩
  home x mem := by
    rw [owners]
    by_cases eq : x = id
    · refine ⟨_, if_pos eq, newSession id owner size, ?_, ?_⟩
      · rw [sessions, if_pos rfl]
      · rw [eq]; exact List.mem_singleton_self id
    · rw [if_neg eq]
      obtain ⟨old, hold, session, found, leaf⟩ :=
        owned.home x (((terminals x).1 mem).resolve_left eq)
      refine ⟨old, hold, session, ?_, leaf⟩
      rw [sessions, if_neg, found]
      intro same
      rw [same, unused] at found
      cases found

lemma Owned.create {r : Registry} (owned : r.Owned) {id : String} {terminal : Terminal}
    (fresh : AList.lookup id r.heap = none) (unused : AList.lookup terminal.owner.sessionId r.sessions = none)
    (size : TerminalSize) : ((r.openSession id terminal.owner size).insertTerminal id terminal).Owned :=
  owned.admit id terminal.owner size (owned.not_registered fresh) unused
    (lookup_openSession r id terminal.owner size) (fun _ => List.mem_cons) (owner?_insertTerminal (r.openSession id terminal.owner size) id terminal)

lemma Owned.join {r : Registry} (owned : r.Owned) {id k : String} {terminal : Terminal} {session : Session}
    {layout : ViewLayout} (fresh : AList.lookup id r.heap = none) (found : AList.lookup k r.sessions = some session)
    (sameId : terminal.owner.sessionId = session.id) (sameView : terminal.owner.viewId = session.view.id)
    (sameName : terminal.owner.name = session.name)
    (leaves : layout.terminalIds.Perm (id :: session.view.layout.terminalIds))
    (valid : layout.validateLayout 0 = .ok ()) :
    ((r.withSession k { session with view := relayout layout session.view }).insertTerminal id
      terminal).Owned := by
  have sessions := lookup_withSession r k { session with view := relayout layout session.view }
  have owners := owner?_insertTerminal
    (r.withSession k { session with view := relayout layout session.view }) id terminal
  have unregistered := owned.not_registered fresh
  have absent := owned.not_leaf unregistered found
  refine ⟨fun k' other found' => ?_, fun k' other found' => ?_, fun k' other found' x mem => ?_,
    fun x mem => ?_⟩
  · rw [insertTerminal, sessions] at found'
    split at found'
    case isTrue eq => cases found'; rw [eq]; exact owned.key k session found
    case isFalse => exact owned.key k' other found'
  · rw [insertTerminal, sessions] at found'
    split at found'
    · cases found'
      refine ⟨leaves.nodup_iff.2 (List.nodup_cons.2 ⟨absent, ?_⟩), valid,
        fun _ h => (Option.not_mem_none _ h).elim⟩
      exact (owned.session k session found).nodup
    · exact owned.session k' other found'
  · rw [insertTerminal, sessions] at found'
    rw [OwnedBy, owners]
    by_cases eq : x = id
    · rw [if_pos eq]
      refine ⟨List.mem_cons.2 (.inl eq), _, rfl, ?_⟩
      split at found'
      · cases found'
        exact ⟨sameId, sameView, sameName⟩
      · exact (owned.not_leaf unregistered found' (eq ▸ mem)).elim
    · rw [if_neg eq]
      split at found'
      · cases found'
        obtain ⟨registered, refers⟩ := owned.leaf k session found x
          ((List.mem_cons.1 (leaves.mem_iff.1 mem)).resolve_left eq)
        exact ⟨List.mem_cons_of_mem _ registered, refers⟩
      · obtain ⟨registered, refers⟩ := owned.leaf k' other found' x mem
        exact ⟨List.mem_cons_of_mem _ registered, refers⟩
  · rw [owners]
    have there : AList.lookup k (r.withSession k
        { session with view := relayout layout session.view }).sessions
        = some { session with view := relayout layout session.view } := by
      rw [sessions, if_pos rfl]
    by_cases eq : x = id
    · refine ⟨_, if_pos eq, { session with view := relayout layout session.view }, ?_,
        leaves.mem_iff.2 (List.mem_cons.2 (.inl eq))⟩
      rw [sameId.trans (owned.key k session found)]
      exact there
    · rw [if_neg eq]
      obtain ⟨owner, howner, other, found', leaf⟩ :=
        owned.home x ((List.mem_cons.1 mem).resolve_left eq)
      by_cases same : owner.sessionId = k
      · rw [same, found] at found'
        cases found'
        refine ⟨owner, howner, { session with view := relayout layout session.view }, ?_,
          leaves.mem_iff.2 (List.mem_cons_of_mem _ leaf)⟩
        rw [same]
        exact there
      · refine ⟨owner, howner, other, ?_, leaf⟩
        rw [insertTerminal, sessions, if_neg same, found']

lemma without_spec (terminal : Terminal) (fine : SessionOk session)
    (removed : session.view.layout.removeTerminal id = some layout) :
    SessionOk (without terminal layout session) ∧
      ∀ x, x ∈ layout.terminalIds ↔ x ∈ session.view.layout.terminalIds ∧ x ≠ id := by
  have spec := ViewLayout.removeTerminal_spec id fine.shape
  rw [removed] at spec
  obtain ⟨leaves, valid, -⟩ := spec
  refine ⟨⟨?_, ?_, fun _ h => (Option.not_mem_none _ h).elim⟩, fun x => by simp [leaves]⟩
  · change layout.terminalIds.Nodup
    rw [leaves]
    exact fine.nodup.filter _
  · refine ViewLayout.validateLayout_ok_iff.2 ⟨fun _ => ?_, valid⟩
    change layout.terminalIds.length ≤ 64
    rw [leaves]
    exact (List.length_filter_le _ _).trans ((ViewLayout.validateLayout_ok_iff.1 fine.valid).1 rfl)

lemma Owned.shrink (owned : r.Owned) (hterminal : AList.lookup id r.heap = some terminal)
    (found : AList.lookup terminal.owner.sessionId r.sessions = some session)
    (removed : session.view.layout.removeTerminal id = some layout) :
    Owned { r.withSession terminal.owner.sessionId (without terminal layout session) with
      terminals := r.terminals.filter (· ≠ id) } := by
  have sessions := lookup_withSession r terminal.owner.sessionId (without terminal layout session)
  obtain ⟨fine, leaves⟩ := without_spec terminal
    (owned.session _ session found) removed
  refine ⟨fun k' other found' => ?_, fun k' other found' => ?_, fun k' other found' x mem => ?_,
    fun x mem => ?_⟩
  · rw [sessions] at found'
    split at found'
    case isTrue eq => cases found'; rw [eq]; exact owned.key _ session found
    case isFalse => exact owned.key k' other found'
  · rw [sessions] at found'
    split at found'
    · cases found'; exact fine
    · exact owned.session k' other found'
  · rw [sessions] at found'
    split at found'
    · cases found'
      obtain ⟨mem, ne⟩ := (leaves x).1 mem
      obtain ⟨registered, refers⟩ := owned.leaf _ session found x mem
      exact ⟨List.mem_filter.2 ⟨registered, by simpa using ne⟩, refers⟩
    case isFalse ne =>
      obtain ⟨registered, refers⟩ := owned.leaf k' other found' x mem
      refine ⟨List.mem_filter.2 ⟨registered, ?_⟩, refers⟩
      -- The terminal is a leaf of its own session only.
      have : x ≠ id := by
        rintro rfl
        obtain ⟨owner, howner, same, -⟩ := refers
        rw [owner?, hterminal] at howner
        cases howner
        exact ne (same ▸ owned.key k' other found').symm
      simpa using this
  · obtain ⟨mem, ne⟩ := List.mem_filter.1 mem
    have ne : x ≠ id := by simpa using ne
    obtain ⟨owner, howner, other, found', leaf⟩ := owned.home x mem
    refine ⟨owner, howner, ?_⟩
    by_cases same : owner.sessionId = terminal.owner.sessionId
    · rw [same, found] at found'
      cases found'
      exact ⟨without terminal layout session, by rw [sessions, if_pos same], (leaves x).2 ⟨leaf, ne⟩⟩
    · exact ⟨other, by rw [sessions, if_neg same, found'], leaf⟩

lemma Owned.close (owned : r.Owned) (hterminal : AList.lookup id r.heap = some terminal)
    (found : AList.lookup terminal.owner.sessionId r.sessions = some session)
    (removed : session.view.layout.removeTerminal id = none) :
    Owned { r with
      sessions := AList.erase terminal.owner.sessionId r.sessions
      terminals := r.terminals.filter (· ≠ id) } := by
  have spec := ViewLayout.removeTerminal_spec id (owned.session _ session found).shape
  rw [removed] at spec
  have only : ∀ x ∈ session.view.layout.terminalIds, x = id := fun x mem => by
    simpa using List.filter_eq_nil_iff.1 spec x mem
  have sessions : ∀ {k other},
      AList.lookup k (AList.erase terminal.owner.sessionId r.sessions) = some other →
      k ≠ terminal.owner.sessionId ∧ AList.lookup k r.sessions = some other := by
    intro k other h
    by_cases eq : k = terminal.owner.sessionId
    · rw [eq, AList.lookup_erase] at h
      cases h
    · exact ⟨eq, (AList.lookup_erase_ne eq).symm.trans h⟩
  refine ⟨fun k' other found' => owned.key k' other (sessions found').2,
    fun k' other found' => owned.session k' other (sessions found').2,
    fun k' other found' x mem => ?_, fun x mem => ?_⟩
  · obtain ⟨ne, kept⟩ := sessions found'
    obtain ⟨registered, refers⟩ := owned.leaf k' other kept x mem
    refine ⟨List.mem_filter.2 ⟨registered, ?_⟩, refers⟩
    have : x ≠ id := by
      rintro rfl
      obtain ⟨owner, howner, same, -⟩ := refers
      rw [owner?, hterminal] at howner
      cases howner
      exact ne (same ▸ owned.key k' other kept).symm
    simpa using this
  · obtain ⟨mem, ne⟩ := List.mem_filter.1 mem
    have ne : x ≠ id := by simpa using ne
    obtain ⟨owner, howner, other, found', leaf⟩ := owned.home x mem
    refine ⟨owner, howner, other, ?_, leaf⟩
    refine (AList.lookup_erase_ne ?_).trans found'
    intro same
    rw [same, found] at found'
    cases found'
    exact ne (only x leaf)

lemma Owned.move {r : Registry} (owned : r.Owned) {id : String} {terminal : Terminal}
    {session : Session} {layout : ViewLayout} {owner : TerminalOwner} (mem : id ∈ r.terminals)
    (hterminal : AList.lookup id r.heap = some terminal)
    (found : AList.lookup terminal.owner.sessionId r.sessions = some session)
    (removed : session.view.layout.removeTerminal id = some layout)
    (unused : AList.lookup owner.sessionId r.sessions = none) (size : TerminalSize) :
    (((r.withSession terminal.owner.sessionId (without terminal layout session)).editTerminal id
      (withOwner owner)).openSession id owner size).Owned := by
  have sessions := lookup_withSession r terminal.owner.sessionId (without terminal layout session)
  have rest := owned.shrink hterminal found removed
  refine rest.admit id owner size ?_ ?_ ?_ ?_ ?_
  · intro h
    simpa using (List.mem_filter.1 h).2
  · rw [sessions, if_neg, unused]
    intro same
    rw [same, found] at unused
    cases unused
  · exact lookup_openSession _ id owner size
  · intro x
    change x ∈ r.terminals ↔ x = id ∨ x ∈ r.terminals.filter (· ≠ id)
    by_cases eq : x = id
    · simp [eq, mem]
    · simp [eq]
  · intro x
    refine (owner?_editTerminal (r.withSession terminal.owner.sessionId
      (without terminal layout session)) id (f := withOwner owner) (g := fun _ => owner)
      (fun _ => rfl) x).trans ?_
    split
    case isTrue eq =>
      change ((AList.lookup x r.heap).map (·.owner)).map _ = _
      rw [eq, hterminal]
      rfl
    case isFalse => rfl

lemma Owned.merge {r : Registry} (owned : r.Owned) {source destination : Session} {layout : ViewLayout}
    {owner : TerminalOwner} (foundSrc : AList.lookup source.id r.sessions = some source)
    (foundDst : AList.lookup destination.id r.sessions = some destination) (ne : source.id ≠ destination.id)
    (leaves : layout.terminalIds
      = destination.view.layout.terminalIds ++ source.view.layout.terminalIds)
    (valid : layout.validateLayout 0 = .ok ()) (sameId : owner.sessionId = destination.id)
    (sameView : owner.viewId = destination.view.id) (sameName : owner.name = destination.name) :
    ((withSession { r with sessions := AList.erase source.id r.sessions } destination.id
      { destination with view := relayout layout destination.view }).editTerminals
      source.view.layout.terminalIds (withOwner owner)).Owned := by
  have sessions : ∀ k, AList.lookup k (withSession
      { r with sessions := AList.erase source.id r.sessions } destination.id
      { destination with view := relayout layout destination.view }).sessions
      = if k = destination.id then some { destination with view := relayout layout destination.view }
        else AList.lookup k (AList.erase source.id r.sessions) := lookup_withSession _ _ _
  have others : ∀ {k other}, AList.lookup k (AList.erase source.id r.sessions) = some other →
      k ≠ source.id ∧ AList.lookup k r.sessions = some other := by
    intro k other h
    by_cases eq : k = source.id
    · rw [eq, AList.lookup_erase] at h
      cases h
    · exact ⟨eq, (AList.lookup_erase_ne eq).symm.trans h⟩
  have owners := owner?_editTerminals (withSession
      { r with sessions := AList.erase source.id r.sessions } destination.id
      { destination with view := relayout layout destination.view })
    source.view.layout.terminalIds (f := withOwner owner) (g := fun _ => owner) (fun _ => rfl)
    (fun _ => rfl)
  have disjoint : ∀ x ∈ source.view.layout.terminalIds, x ∉ destination.view.layout.terminalIds :=
    fun x mem mem' => ne (owned.leaf_unique foundSrc foundDst mem mem')
  refine ⟨fun k other found => ?_, fun k other found => ?_, fun k other found x mem => ?_,
    fun x mem => ?_⟩
  · rw [editTerminals_sessions, sessions] at found
    split at found
    case isTrue eq => cases found; exact eq.symm
    case isFalse => exact owned.key k other (others found).2
  · rw [editTerminals_sessions, sessions] at found
    split at found
    · cases found
      refine ⟨?_, valid, fun _ h => (Option.not_mem_none _ h).elim⟩
      change layout.terminalIds.Nodup
      rw [leaves]
      exact (owned.session _ _ foundDst).nodup.append (owned.session _ _ foundSrc).nodup
        fun x hd hs => disjoint x hs hd
    · exact owned.session k other (others found).2
  · rw [editTerminals_sessions, sessions] at found
    rw [editTerminals_terminals, OwnedBy, owners]
    split at found
    · cases found
      change x ∈ layout.terminalIds at mem
      rw [leaves] at mem
      rcases List.mem_append.1 mem with mem | mem
      · rw [if_neg fun h => disjoint x h mem]
        exact owned.leaf _ _ foundDst x mem
      · obtain ⟨registered, old, hold, -⟩ := owned.leaf _ _ foundSrc x mem
        rw [if_pos mem]
        exact ⟨registered, owner, Option.map_eq_some_iff.2 ⟨old, hold, rfl⟩, sameId, sameView,
          sameName⟩
    · obtain ⟨other', kept⟩ := others found
      rw [if_neg fun h => other' (owned.leaf_unique kept foundSrc mem h)]
      exact owned.leaf k other kept x mem
  · rw [editTerminals_terminals] at mem
    rw [owners, editTerminals_sessions]
    obtain ⟨old, hold, session, found, leaf⟩ := owned.home x mem
    by_cases moved : x ∈ source.view.layout.terminalIds
    · rw [if_pos moved]
      refine ⟨owner, Option.map_eq_some_iff.2 ⟨old, hold, rfl⟩,
        { destination with view := relayout layout destination.view }, ?_, ?_⟩
      · rw [sessions, if_pos sameId]
      · exact leaves ▸ List.mem_append_right _ moved
    · rw [if_neg moved]
      refine ⟨old, hold, ?_⟩
      by_cases same : old.sessionId = destination.id
      · rw [same, foundDst] at found
        cases found
        exact ⟨_, by rw [sessions, if_pos same], leaves ▸ List.mem_append_left _ leaf⟩
      · refine ⟨session, ?_, leaf⟩
        rw [sessions, if_neg same]
        refine (AList.lookup_erase_ne ?_).trans found
        intro same
        rw [same, foundSrc] at found
        cases found
        exact moved leaf

lemma Change.owned (h : Change r event r') (owned : r.Owned) : r'.Owned := by
  cases h with
  | none => exact owned
  | edit found edit => exact owned.edit found edit
  | rename found _ _ => exact owned.rename found _
  | merge foundSrc foundDst ne leaves valid _ sameId sameView sameName =>
    exact owned.merge foundSrc foundDst ne leaves valid sameId sameView sameName
  | create fresh _ unused => exact owned.create fresh unused _
  | join fresh _ found sameId sameView sameName leaves valid _ =>
    exact owned.join fresh found sameId sameView sameName leaves valid
  | move mem hterminal home found removed unused =>
    subst home
    exact owned.move mem hterminal found removed unused _
  | shrink _ hterminal home found removed =>
    subst home
    exact owned.shrink hterminal found removed
  | close _ hterminal home found removed =>
    subst home
    exact owned.close hterminal found removed

lemma Steps.owned (h : Steps r event r') (owned : r.Owned) : r'.Owned := by
  obtain ⟨changed, change, calm⟩ := h
  exact (change.owned owned).alike (.of_calm calm)

/-! ### Every section of the manager -/

/-- What a section does to sessions and owners: a change, up to names and leases. -/
def Effect (r : Registry) (event : Event) (r' : Registry) : Prop :=
  ∃ before after, Alike r before ∧ Steps before event after ∧ Alike after r'

lemma Alike.effect (h : Alike r r') : Effect r .quiet r' :=
  ⟨r, r, .refl r, (Calm.refl r).steps, h⟩

lemma Effect.owned (h : Effect r event r') (owned : r.Owned) : r'.Owned := by
  obtain ⟨before, after, alike, steps, alike'⟩ := h
  exact (steps.owned (owned.alike alike)).alike alike'

lemma Alike.of_releaseName (r : Registry) (name : String) : Alike r (r.releaseName name) :=
  ⟨fun _ => rfl, rfl, fun _ => rfl⟩

lemma Commits.effect {owner : TerminalOwner} {request : Request} {next : Option Task}
    (h : Commits r owner request r' next) (unused : AList.lookup owner.sessionId r.sessions = none) :
    ∃ event, Effect r event r' ∧ ∀ size ∈ event.size, size ∈ request.canvasSize r := by
  cases h with
  | create fresh =>
    exact ⟨_, ⟨r.releaseName owner.name, _, .of_releaseName r _,
      ⟨_, .create fresh rfl unused, .refl _⟩, .refl _⟩, fun _ h => h⟩
  | split steps _ =>
    exact ⟨.quiet, ⟨r.releaseName owner.name, r', .of_releaseName r _, steps, .refl r'⟩,
      fun _ h => (Option.not_mem_none _ h).elim⟩
  | keep _ calm =>
    exact ⟨.quiet, (Alike.of_calm calm).effect, fun _ h => (Option.not_mem_none _ h).elim⟩
  | move target steps =>
    refine ⟨_, ⟨r, _, .refl r, steps, .of_releaseName _ _⟩, ?_⟩
    obtain ⟨changed, change, -⟩ := steps
    rintro size ⟨rfl⟩
    cases change with
    | move _ hterminal _ _ _ _ =>
      cases request <;> cases target <;>
        exact Option.map_eq_some_iff.2 ⟨_, hterminal, rfl⟩

end Registry

namespace World
open Registry

variable {w : World} {w' : World} {action : Action}

lemma Transition.effect (h : Transition w action w') :
    ∃ event, Effect w.registry event w'.registry ∧ ∀ size ∈ event.size, size ∈ w.opens action := by
  have quiet : ∀ {r}, Effect w.registry .quiet r →
      ∃ event, Effect w.registry event r ∧ ∀ size ∈ event.size, size ∈ w.opens action :=
    fun effect => ⟨.quiet, effect, fun _ h => (Option.not_mem_none _ h).elim⟩
  cases h with
  | environment pty => exact quiet (Alike.effect ⟨fun _ => rfl, rfl, fun _ => rfl⟩)
  | perform steps => exact quiet ⟨_, _, .refl _, steps, .refl _⟩
  | begin _ => exact quiet (Alike.refl _).effect
  | refuse _ _ => exact quiet (Alike.effect ⟨fun _ => rfl, rfl, fun _ => rfl⟩)
  | reserve _ _ _ => exact quiet (Alike.effect ⟨fun _ => rfl, rfl, fun _ => rfl⟩)
  | abandon _ => exact quiet (Alike.refl _).effect
  | commit found unused _ commits =>
    rw [settle_registry, opens, found]
    exact commits.effect unused
  | drop _ => exact quiet (Alike.of_releaseName _ _).effect
  | openAttachment _ _ _ => exact quiet (Alike.of_changeAttachments _ _ _).effect
  | resumeAttachment self token => exact quiet (Alike.of_changeAttachments _ _ _).effect
  | suspendAttachment self token generation =>
    exact quiet (Alike.of_changeAttachments _ _ _).effect
  | closeAttachment _ _ _ => exact quiet (Alike.of_changeAttachments _ _ _).effect
  | acquireLease self attachmentId lease => exact quiet (Alike.of_acquireLease _ _ _ _).effect
  | releaseLease self attachmentId lease => exact quiet (Alike.of_releaseLease _ _ _ _).effect
  | requestInput _ => exact quiet (Alike.of_changeLeases _ _ _).effect
  | requestLayout _ => exact quiet (Alike.of_changeViewLeases _ _ _).effect
  | releaseInput _ => exact quiet (Alike.of_changeLeases _ _ _).effect
  | releaseLayout _ => exact quiet (Alike.of_changeViewLeases _ _ _).effect

lemma step_owned (owned : w.registry.Owned) (h : w.step action = some w') : w'.registry.Owned := by
  obtain ⟨event, effect, -⟩ := (step_transition owned h).effect
  exact effect.owned owned

lemma initial_owned (h : w.Initial) : w.registry.Owned := by
  cases h
  refine ⟨?_, ?_, ?_, ?_⟩
  · rintro _ _ ⟨⟩
  · rintro _ _ ⟨⟩
  · rintro _ _ ⟨⟩
  · rintro _ ⟨⟩

lemma reachable_owned (h : Reachable step Initial w) : w.registry.Owned :=
  h.invariant (fun w => w.registry.Owned) (fun _ => initial_owned)
    fun _ _ _ owned h => step_owned owned h

end World

structure Registry.Consistent (r : Registry) : Prop where
  /-- A registered terminal occurs once in the layout of one session, which its owner record names. -/
  terminal : ∀ id ∈ r.terminals, ∃ k session, AList.lookup k r.sessions = some session ∧
    session.view.layout.terminalIds.count id = 1 ∧
    (∀ k' session', AList.lookup k' r.sessions = some session' →
      id ∈ session'.view.layout.terminalIds → k' = k) ∧
    ∃ owner, r.owner? id = some owner ∧ owner.sessionId = session.id ∧
      owner.viewId = session.view.id ∧ owner.name = session.name
  /-- A leaf of a layout is a registered terminal. -/
  leaf : ∀ k session, AList.lookup k r.sessions = some session → session.id = k ∧
    ∀ id ∈ session.view.layout.terminalIds, id ∈ r.terminals
  /-- A layout passes its validation: it has at most 64 leaves, it is not too deep, and every group has
      2 to 64 children with no weights or one positive weight for each child. -/
  layout : ∀ k session, AList.lookup k r.sessions = some session →
    session.view.layout.validateLayout 0 = .ok () ∧
    session.view.layout.terminalIds.length ≤ 64 ∧ session.view.layout.Valid 0
  zoom : ∀ k session, AList.lookup k r.sessions = some session →
    ∀ id ∈ session.view.zoomedTerminalId, id ∈ session.view.layout.terminalIds

lemma Registry.Owned.consistent {r : Registry} (owned : r.Owned) : r.Consistent where
  terminal id mem := by
    obtain ⟨terminal, session, hterminal, found, leaf, refers⟩ := owned.registered mem
    refine ⟨_, session, found, ?_, ?_, terminal.owner, ?_, refers⟩
    · exact List.count_eq_one_of_mem (owned.session _ session found).nodup leaf
    · exact fun k' session' found' mem' => owned.leaf_unique found' found mem' leaf
    · rw [Registry.owner?, hterminal]
      rfl
  leaf k session found :=
    ⟨owned.key k session found, fun id mem => (owned.leaf k session found id mem).1⟩
  layout k session found := by
    have valid := (owned.session k session found).valid
    obtain ⟨leaves, shape⟩ := ViewLayout.validateLayout_ok_iff.1 valid
    exact ⟨valid, leaves rfl, shape⟩
  zoom k session found := (owned.session k session found).zoom

namespace World

/-- In every state that the session manager reaches, terminals, owner records and layouts agree. -/
theorem reachable_consistent {w : World} (h : Reachable step Initial w) : w.registry.Consistent :=
  (reachable_owned h).consistent

def promotion : List Action :=
  [.begin 0 (.create (some "work") "t1" ⟨80, 24, 0, 0⟩ false), .reserve 0, .commit 0 "s1" "v1" 0,
    .begin 1 (.split "t1" .horizontal "t2" ⟨80, 24, 0, 0⟩), .reserve 1, .commit 1 "s2" "v2" 0,
    .begin 2 (.promote "t2" (some "other")), .reserve 2, .commit 2 "s3" "v3" 0]

lemma promotion_facts : (exec step ⟨.default, ∅⟩ promotion).any (fun w =>
    decide (w.registry.terminals = ["t2", "t1"]) &&
      decide ((w.registry.owner? "t2").map (·.name) = some "other")) = true := by
  decide +kernel

theorem reachable_consistent_promotion :
    ∃ w, exec step ⟨.default, ∅⟩ promotion = some w ∧ w.registry.terminals = ["t2", "t1"] ∧
      (w.registry.owner? "t2").map (·.name) = some "other" ∧ w.registry.Consistent := by
  obtain ⟨w, run, facts⟩ := (Option.any_eq_true _ _).1 promotion_facts
  rw [Bool.and_eq_true, decide_eq_true_eq, decide_eq_true_eq] at facts
  exact ⟨w, run, facts.1, facts.2, reachable_consistent (Reachable.exec (.start rfl) promotion run)⟩

end World

end Ctl.Daemon
