import Ctl.Daemon.Ownership

/-!
# The owners of leases are attached

Closing an attachment forgets its record in one section and releases its leases in later ones, so a
lease may be owned for a while by an attachment whose close is in progress. The layout lease is
released in the view that owns the terminal by then: when the terminal has moved in between, the lease
of its old view stays with an attachment that no longer exists. `reachable_leases` says which steps have
to be avoided for every owner of a lease to be an attachment of the view or of the terminal.
-/

namespace Ctl.Daemon
open Ctl.Base Ctl.Proto Ctl.Core

namespace Registry

def attachments? (r : Registry) (id : String) : Option (Table String AttachmentRecord) :=
  (AList.lookup id r.heap).map (·.attachments)

def leases? (r : Registry) (id : String) : Option AttachmentLeaseRegistry :=
  (AList.lookup id r.heap).map (·.leases)

def Recorded (r : Registry) (id a : String) : Prop :=
  ∃ records ∈ r.attachments? id, ∃ token record,
    AList.lookup token records = some record ∧ record.attachmentId = a

/-- An attachment owns the input lease of a terminal. -/
def InputOwner (r : Registry) (id a : String) : Prop :=
  ∃ leases ∈ r.leases? id, leases.inputOwner = some a

def LayoutOwner (r : Registry) (k a : String) : Prop :=
  ∃ session, AList.lookup k r.sessions = some session ∧ session.view.leases.layoutOwner = some a

def Leaf (r : Registry) (k id : String) : Prop :=
  ∃ session, AList.lookup k r.sessions = some session ∧ id ∈ session.view.layout.terminalIds

def OwnerKey (r : Registry) (id k : String) : Prop := ∃ owner ∈ r.owner? id, owner.sessionId = k

/-- An attachment may own the layout lease of a view: it is registered on a terminal of the view, or it
    is being closed on a terminal that the view owns. -/
def Backed (r : Registry) (closing : String → String → Prop) (k a : String) : Prop :=
  (∃ id, r.Leaf k id ∧ r.Recorded id a) ∨ ∃ id, closing id a ∧ r.OwnerKey id k

/-! ### Attachments after a change -/

/-- Records and leases of the terminals of one registry are the same in the other one, whose further
    terminals have no leases. -/
structure SameAttached (r r' : Registry) : Prop where
  records : ∀ id records, r.attachments? id = some records → r'.attachments? id = some records
  leases : ∀ id a, r'.InputOwner id a → r.InputOwner id a

namespace SameAttached

variable {r r' r'' : Registry} {id : String} {f : Terminal → Terminal}

lemma recorded (h : SameAttached r r') {a : String} (recorded : r.Recorded id a) : r'.Recorded id a := by
  obtain ⟨records, found, rest⟩ := recorded
  exact ⟨records, h.records id records found, rest⟩

lemma of_heap (r r' : Registry) (same : r'.heap = r.heap) : SameAttached r r' := by
  refine ⟨fun id records found => ?_, fun id a => ?_⟩
  · rw [attachments?, same]
    exact found
  · rintro ⟨leases, found, rest⟩
    rw [leases?, same] at found
    exact ⟨leases, found, rest⟩

lemma refl (r : Registry) : SameAttached r r := .of_heap _ _ rfl

lemma trans (h : SameAttached r r') (h' : SameAttached r' r'') : SameAttached r r'' where
  records id records found := h'.records id records (h.records id records found)
  leases id a owner := h.leases id a (h'.leases id a owner)

lemma of_calm (h : Calm r r') : SameAttached r r' where
  records id records found :=
    (h.map_eq (f := fun t => t.attachments) (fun _ => rfl) id).trans found
  leases id a := by
    rintro ⟨leases, found, rest⟩
    exact ⟨leases, (h.map_eq (f := fun t => t.leases) (fun _ => rfl) id).symm.trans found, rest⟩

lemma of_editTerminal (r : Registry) (id : String) (sameRecords : ∀ t, (f t).attachments = t.attachments)
    (sameLeases : ∀ t, (f t).leases = t.leases) :
    SameAttached r (r.editTerminal id f) where
  records k records found := (Table.map_lookup_modify sameRecords k).trans found
  leases k a := by
    rintro ⟨leases, found, rest⟩
    exact ⟨leases, (Table.map_lookup_modify sameLeases k).symm.trans found, rest⟩

lemma of_editTerminals (r : Registry) (ids : List String) (sameRecords : ∀ t, (f t).attachments = t.attachments)
    (sameLeases : ∀ t, (f t).leases = t.leases) : SameAttached r (r.editTerminals ids f) := by
  induction ids generalizing r with
  | nil => exact .refl r
  | cons id ids ih => exact (of_editTerminal r id sameRecords sameLeases).trans (ih _)

lemma of_insertTerminal {r : Registry} {terminal : Terminal} (fresh : AList.lookup id r.heap = none)
    (unleased : terminal.leases = .default) :
    SameAttached r (r.insertTerminal id terminal) where
  records k records found := by
    have ne : k ≠ id := by
      rintro rfl
      rw [attachments?, fresh] at found
      cases found
    rw [attachments?, insertTerminal, AList.lookup_insert_ne ne]
    exact found
  leases k a := by
    rintro ⟨leases, found, rest⟩
    by_cases eq : k = id
    · rw [eq, leases?, insertTerminal, AList.lookup_insert] at found
      cases found
      rw [show terminal.leases.inputOwner = none by rw [unleased]; rfl] at rest
      cases rest
    · rw [leases?, insertTerminal, AList.lookup_insert_ne eq] at found
      exact ⟨leases, found, rest⟩

lemma of_changeViewLeases (r : Registry) (self : String) (action : AttachmentLeaseRegistry → AttachmentLeaseRegistry) :
    SameAttached r (r.changeViewLeases self action) := by
  refine .of_heap _ _ ?_
  unfold changeViewLeases
  split <;> rfl

end SameAttached

variable {r r' : Registry} {event : Event} {terminal : Terminal} {a k k' id self : String} {session : Session}
  {closing : String → String → Prop} {action : AttachmentLeaseRegistry → AttachmentLeaseRegistry}

lemma Change.attached (h : Change r event r') : SameAttached r r' := by
  cases h with
  | @rename k name session =>
    exact (SameAttached.of_heap r (r.withSession k (renamed name session)) rfl).trans
      (.of_editTerminals _ _ (f := withOwnerName name) (fun _ => rfl) fun _ => rfl)
  | @merge source destination layout owner =>
    exact (SameAttached.of_heap r (withSession
      { r with sessions := AList.erase source.id r.sessions } destination.id
      { destination with view := relayout layout destination.view }) rfl).trans
      (.of_editTerminals _ _ (f := withOwner owner) (fun _ => rfl) fun _ => rfl)
  | @create id terminal fresh unleased =>
    exact (SameAttached.of_heap r (r.openSession id terminal.owner terminal.terminalSize) rfl).trans
      (.of_insertTerminal fresh unleased)
  | @join id k terminal session layout fresh unleased =>
    exact (SameAttached.of_heap r (r.withSession k
      { session with view := relayout layout session.view }) rfl).trans
      (.of_insertTerminal fresh unleased)
  | @move id k terminal session layout owner =>
    exact ((SameAttached.of_heap r (r.withSession k (without terminal layout session)) rfl).trans
      (.of_editTerminal _ id (f := withOwner owner) (fun _ => rfl) fun _ => rfl)).trans (.of_heap _ _ rfl)
  | _ => exact .of_heap _ _ rfl

lemma releaseAttachments_layoutOwner {leases : AttachmentLeaseRegistry}
    (h : (releaseAttachments terminal leases).layoutOwner = some a) :
    leases.layoutOwner = some a ∧ ∀ token record,
      AList.lookup token terminal.attachments = some record → record.attachmentId ≠ a := by
  have released : ∀ (entries : List (Sigma fun _ : String => AttachmentRecord))
      (leases : AttachmentLeaseRegistry),
      (entries.foldl (fun leases entry => leases.releaseAttachment entry.2.attachmentId)
        leases).layoutOwner = some a →
      leases.layoutOwner = some a ∧ ∀ entry ∈ entries, entry.2.attachmentId ≠ a := by
    intro entries
    induction entries with
    | nil => exact fun leases h => ⟨h, fun _ mem => by cases mem⟩
    | cons entry entries ih =>
      intro leases h
      obtain ⟨before, rest⟩ := ih _ h
      obtain ⟨owner, ne⟩ := (AttachmentLeaseRegistry.releaseAttachment_owner .layout).1 before
      refine ⟨owner, fun e mem => ?_⟩
      rcases List.mem_cons.1 mem with rfl | mem
      · exact ne.symm
      · exact rest e mem
  obtain ⟨owner, others⟩ := released _ _ h
  exact ⟨owner, fun token record found => others ⟨token, record⟩ (AList.mem_lookup_iff.1 found)⟩

/-! ### Owners of layout leases after a change -/

lemma LayoutOwner.withSession (h : (r.withSession k session).LayoutOwner k' a) :
    k' = k ∧ session.view.leases.layoutOwner = some a ∨ k' ≠ k ∧ r.LayoutOwner k' a := by
  obtain ⟨other, found, owner⟩ := h
  rw [lookup_withSession] at found
  split at found
  case isTrue eq => cases found; exact .inl ⟨eq, owner⟩
  case isFalse ne => exact .inr ⟨ne, other, found, owner⟩

lemma Leaf.withSession_ne (ne : k' ≠ k) (h : r.Leaf k' id) : (r.withSession k session).Leaf k' id := by
  obtain ⟨other, found, leaf⟩ := h
  exact ⟨other, by rw [lookup_withSession, if_neg ne, found], leaf⟩

lemma Leaf.withSession_self (leaf : id ∈ session.view.layout.terminalIds) : (r.withSession k session).Leaf k id :=
  ⟨session, by rw [lookup_withSession, if_pos rfl], leaf⟩

lemma Leaf.mem (h : r.Leaf k id) (found : AList.lookup k r.sessions = some session) :
    id ∈ session.view.layout.terminalIds := by
  obtain ⟨other, found', leaf⟩ := h
  cases found.symm.trans found'
  exact leaf

lemma Backed.withSession {session' : Session} (found : AList.lookup k r.sessions = some session)
    (leaves : ∀ id ∈ session.view.layout.terminalIds, id ∈ session'.view.layout.terminalIds)
    (h : r.Backed closing k' a) : (r.withSession k session').Backed closing k' a := by
  rcases h with ⟨id, leaf, recorded⟩ | closes
  · refine .inl ⟨id, ?_, recorded⟩
    by_cases eq : k' = k
    · subst eq
      exact .withSession_self (leaves id (leaf.mem found))
    · exact leaf.withSession_ne eq
  · exact .inr closes

lemma Backed.transfer (r' : Registry) (h : r.Backed closing k a) (sessions : ∀ id, r.Leaf k id → r'.Leaf k id)
    (records : ∀ id, r.Recorded id a → r'.Recorded id a)
    (owners : ∀ id, closing id a → r.OwnerKey id k → r'.OwnerKey id k) : r'.Backed closing k a := by
  rcases h with ⟨id, leaf, recorded⟩ | ⟨id, closes, owner⟩
  · exact .inl ⟨id, sessions id leaf, records id recorded⟩
  · exact .inr ⟨id, closes, owners id closes owner⟩

lemma Backed.mono {closing' : String → String → Prop} (h : r.Backed closing k a)
    (more : ∀ id, closing id a → closing' id a) : r.Backed closing' k a := by
  rcases h with recorded | ⟨id, closes, key⟩
  · exact .inl recorded
  · exact .inr ⟨id, more id closes, key⟩

def KeepsBacked (closing : String → String → Prop) (r r' : Registry) : Prop :=
  ∀ k a, r'.LayoutOwner k a → r.LayoutOwner k a ∧ (r.Backed closing k a → r'.Backed closing k a)

lemma KeepsBacked.trans {closing : String → String → Prop} {r r' r'' : Registry}
    (h : KeepsBacked closing r r') (h' : KeepsBacked closing r' r'') : KeepsBacked closing r r'' := by
  intro k a owner
  obtain ⟨owner, backed⟩ := h' k a owner
  obtain ⟨owner, backed'⟩ := h k a owner
  exact ⟨owner, fun b => backed (backed' b)⟩

lemma KeepsBacked.of_calm (calm : Calm r r') : KeepsBacked closing r r' := by
  rintro k a ⟨session, found, owner⟩
  refine ⟨⟨session, (calm.sessions k).symm.trans found, owner⟩, fun backed => ?_⟩
  refine backed.transfer _ ?_ (fun _ => (SameAttached.of_calm calm).recorded) ?_
  · rintro id ⟨session, found, leaf⟩
    exact ⟨session, (calm.sessions k).trans found, leaf⟩
  · rintro id _ ⟨owner, howner, same⟩
    exact ⟨owner, ((Alike.of_calm calm).owners id).trans howner, same⟩

lemma without_backed {layout : ViewLayout} (fine : SessionOk session)
    (hterminal : AList.lookup id r.heap = some terminal) (found : AList.lookup k r.sessions = some session)
    (removed : session.view.layout.removeTerminal id = some layout)
    (owner : (r.withSession k (without terminal layout session)).LayoutOwner k' a)
    (sessions : ∀ id', (r.withSession k (without terminal layout session)).Leaf k' id' →
      r'.Leaf k' id') (attached : SameAttached r r')
    (owners : r.LayoutOwner k' a → ∀ id', closing id' a → r.OwnerKey id' k' → r'.OwnerKey id' k') :
    r.LayoutOwner k' a ∧ (r.Backed closing k' a → r'.Backed closing k' a) := by
  rcases owner.withSession with ⟨rfl, held⟩ | ⟨ne, kept⟩
  · obtain ⟨before, others⟩ := releaseAttachments_layoutOwner held
    have kept : r.LayoutOwner k' a := ⟨session, found, before⟩
    refine ⟨kept, ?_⟩
    rintro (⟨x, leaf, recorded⟩ | ⟨x, closes, ownerKey⟩)
    · have ne : x ≠ id := by
        rintro rfl
        obtain ⟨records, hrecords, token, record, there, same⟩ := recorded
        rw [attachments?, hterminal] at hrecords
        cases hrecords
        exact others token record there same
      have leaf' := ((without_spec terminal fine removed).2 x).2 ⟨leaf.mem found, ne⟩
      exact .inl ⟨x, sessions x (.withSession_self leaf'), attached.recorded recorded⟩
    · exact .inr ⟨x, closes, owners kept x closes ownerKey⟩
  · refine ⟨kept, fun backed => backed.transfer _ ?_ (fun _ => attached.recorded) (owners kept)⟩
    exact fun id' leaf => sessions id' (leaf.withSession_ne ne)

lemma KeepsBacked.withSession (session' : Session) (found : AList.lookup k r.sessions = some session)
    (leases : session'.view.leases = session.view.leases)
    (leaves : ∀ id ∈ session.view.layout.terminalIds, id ∈ session'.view.layout.terminalIds) :
    KeepsBacked closing r (r.withSession k session') := by
  intro k' a owner
  refine ⟨?_, Backed.withSession found leaves⟩
  rcases owner.withSession with ⟨rfl, held⟩ | ⟨-, kept⟩
  · exact ⟨session, found, leases ▸ held⟩
  · exact kept

lemma KeepsBacked.openSession (r : Registry) (id : String) (owner : TerminalOwner) (size : TerminalSize) :
    KeepsBacked closing r (r.openSession id owner size) := by
  intro k a h
  rcases LayoutOwner.withSession h with ⟨-, ⟨⟩⟩ | ⟨ne, kept⟩
  refine ⟨kept, ?_⟩
  rintro (⟨x, leaf, recorded⟩ | closes)
  · exact .inl ⟨x, leaf.withSession_ne ne, recorded⟩
  · exact .inr closes

lemma KeepsBacked.of_sessions (sessions : r'.sessions = r.sessions) (attached : SameAttached r r')
    (owners : ∀ k a id, r.LayoutOwner k a → closing id a → r.OwnerKey id k → r'.OwnerKey id k) :
    KeepsBacked closing r r' := by
  rintro k a ⟨session, found, owner⟩
  rw [sessions] at found
  refine ⟨⟨session, found, owner⟩, fun backed => backed.transfer _ ?_ (fun _ => attached.recorded)
    fun id closes key => owners k a id ⟨session, found, owner⟩ closes key⟩
  rintro id ⟨session, found, leaf⟩
  exact ⟨session, sessions ▸ found, leaf⟩

lemma KeepsBacked.erase (r : Registry) (k : String) :
    KeepsBacked closing r { r with sessions := AList.erase k r.sessions } := by
  rintro k' a ⟨session, found, owner⟩
  have ne : k' ≠ k := by
    rintro rfl
    rw [AList.lookup_erase] at found
    cases found
  have same := AList.lookup_erase_ne (s := r.sessions) ne
  refine ⟨⟨session, same.symm.trans found, owner⟩, ?_⟩
  rintro (⟨x, ⟨session, there, leaf⟩, recorded⟩ | closes)
  · exact .inl ⟨x, ⟨session, same.trans there, leaf⟩, recorded⟩
  · exact .inr closes

lemma KeepsBacked.insertTerminal (fresh : AList.lookup id r.heap = none) (unleased : terminal.leases = .default) :
    KeepsBacked closing r (r.insertTerminal id terminal) := by
  refine .of_sessions rfl (.of_insertTerminal fresh unleased) ?_
  rintro k a x - - ⟨owner, howner, same⟩
  have ne : x ≠ id := by
    rintro rfl
    rw [owner?, fresh] at howner
    cases howner
  refine ⟨owner, ?_, same⟩
  rw [owner?_insertTerminal, if_neg ne]
  exact howner

/-- Every change keeps the owners of layout leases backed, unless a terminal is moved away while the
    owner of the lease is being closed on it. -/
lemma Change.backed (h : Change r event r') (owned : r.Owned)
    (safe : ∀ id owner size, event = .moved id owner size → ∀ k a, closing id a → r.OwnerKey id k →
      ¬ r.LayoutOwner k a) : KeepsBacked closing r r' := by
  cases h with
  | none => exact fun _ _ owner => ⟨owner, fun backed => backed⟩
  | edit found edit => exact .withSession _ found edit.leases fun id => edit.leaves.mem_iff.2
  | @rename k name session found _ _ =>
    refine (KeepsBacked.withSession (renamed name session) found rfl fun _ h => h).trans
      (.of_sessions (editTerminals_sessions _ _ _)
        (.of_editTerminals _ _ (f := withOwnerName name) (fun _ => rfl) fun _ => rfl) ?_)
    rintro k' a id - - ⟨owner, howner, same⟩
    have renames := owner?_editTerminals (r.withSession k (renamed name session))
      session.view.layout.terminalIds (f := withOwnerName name) (g := fun o => { o with name })
      (fun _ => rfl) (fun _ => rfl) id
    rw [Option.mem_def.1 howner] at renames
    split at renames
    · exact ⟨_, renames, same⟩
    · exact ⟨owner, renames, same⟩
  | @merge source destination layout owner foundSrc foundDst ne leaves =>
    refine ((KeepsBacked.erase r source.id).trans (KeepsBacked.withSession
      { destination with view := relayout layout destination.view }
      ((AList.lookup_erase_ne ne.symm).trans foundDst) rfl ?_)).trans
      (.of_sessions (editTerminals_sessions _ _ _)
        (.of_editTerminals _ _ (f := withOwner owner) (fun _ => rfl) fun _ => rfl) ?_)
    · exact fun id mem => leaves ▸ List.mem_append_left _ mem
    · rintro k a id ⟨session, found, -⟩ - ⟨old, hold, rfl⟩
      refine ⟨old, ?_, rfl⟩
      rw [owner?_editTerminals _ _ (f := withOwner owner) (g := fun _ => owner) (fun _ => rfl)
        (fun _ => rfl), if_neg]
      · exact hold
      -- A terminal of the session that is gone does not refer to one that is there.
      intro mem
      obtain ⟨-, old', hold', same, -⟩ := owned.leaf _ _ foundSrc id mem
      cases Option.mem_unique hold hold'
      rw [same, lookup_withSession, if_neg ne, AList.lookup_erase] at found
      cases found
  | @create id terminal fresh unleased _ =>
    exact (KeepsBacked.openSession r id terminal.owner _).trans (.insertTerminal fresh unleased)
  | @join id k terminal session layout fresh unleased found _ _ _ leaves =>
    refine (KeepsBacked.withSession { session with view := relayout layout session.view }
      found rfl ?_).trans (.insertTerminal fresh unleased)
    exact fun x mem => leaves.mem_iff.2 (List.mem_cons_of_mem _ mem)
  | @move id k terminal session layout owner mem hterminal home found removed _ =>
    have fine := owned.session k session found
    refine KeepsBacked.trans ?_ (.openSession ((r.withSession k
      (without terminal layout session)).editTerminal id (withOwner owner)) id owner _)
    intro k' a howner
    refine without_backed fine hterminal found removed howner (fun _ leaf => leaf) ?_ ?_
    · exact (SameAttached.of_heap r (r.withSession k (without terminal layout session))
        rfl).trans (.of_editTerminal _ id (f := withOwner owner) (fun _ => rfl) fun _ => rfl)
    · rintro kept x closes ⟨old, hold, same⟩
      have ne : x ≠ id := by
        rintro rfl
        exact safe x owner _ rfl k' a closes ⟨old, hold, same⟩ kept
      refine ⟨old, ?_, same⟩
      rw [owner?_editTerminal _ _ (f := withOwner owner) (g := fun _ => owner) (fun _ => rfl),
        if_neg ne]
      exact hold
  | shrink _ hterminal _ found removed =>
    intro k' a howner
    exact without_backed (owned.session _ _ found) hterminal found removed howner
      (fun _ leaf => leaf) (.of_heap _ _ rfl) fun _ _ _ key => key
  | close _ _ _ _ _ => exact .erase r _

lemma Steps.backed (closing : String → String → Prop) (h : Steps r event r') (owned : r.Owned)
    (safe : ∀ id owner size, event = .moved id owner size → ∀ k a, closing id a → r.OwnerKey id k →
      ¬ r.LayoutOwner k a) : KeepsBacked closing r r' ∧ SameAttached r r' := by
  obtain ⟨changed, change, calm⟩ := h
  exact ⟨(change.backed owned safe).trans (.of_calm calm), change.attached.trans (.of_calm calm)⟩

/-! ### Leases of attachments -/

lemma changeViewLeases_layoutOwner (h : (r.changeViewLeases self action).LayoutOwner k a) :
    r.OwnerKey self k ∧ (∃ session, AList.lookup k r.sessions = some session ∧
      (action session.view.leases).layoutOwner = some a) ∨
      ¬ r.OwnerKey self k ∧ r.LayoutOwner k a := by
  unfold changeViewLeases at h
  split at h
  case h_1 none =>
    refine .inr ⟨?_, h⟩
    rintro ⟨owner, howner, -⟩
    rw [owner?, none] at howner
    cases howner
  case h_2 terminal found =>
    have key : ∀ {owner}, owner ∈ r.owner? self → owner = terminal.owner := by
      intro owner howner
      rw [owner?, found] at howner
      exact (Option.mem_some.1 howner).symm
    obtain ⟨session, there, owner⟩ := h
    rw [editView, editSession, Table.lookup_modify] at there
    split at there
    case isTrue eq =>
      obtain ⟨old, hold, rfl⟩ := Option.map_eq_some_iff.1 there
      refine .inl ⟨⟨terminal.owner, ?_, eq.symm⟩, old, eq ▸ hold, owner⟩
      rw [owner?, found]
      rfl
    case isFalse ne =>
      refine .inr ⟨?_, session, there, owner⟩
      rintro ⟨owner, howner, same⟩
      exact ne (key howner ▸ same).symm

lemma Backed.changeViewLeases (self : String) (action : AttachmentLeaseRegistry → AttachmentLeaseRegistry)
    (h : r.Backed closing k a) : (r.changeViewLeases self action).Backed closing k a := by
  have alike := Alike.of_changeViewLeases r self action
  refine h.transfer _ ?_ ?_ ?_
  · rintro id ⟨session, found, leaf⟩
    have same := alike.sessions k
    rw [found, Option.map_some] at same
    obtain ⟨session', found', same⟩ := Option.map_eq_some_iff.1 same
    have leaf : id ∈ session.unleased.view.layout.terminalIds := leaf
    rw [← same] at leaf
    exact ⟨session', found', leaf⟩
  · exact fun id => (SameAttached.of_changeViewLeases r self action).recorded
  · rintro id - ⟨owner, howner, same⟩
    exact ⟨owner, (alike.owners id).trans howner, same⟩

lemma changeLeases_inputOwner (h : (r.changeLeases self action).InputOwner id a) :
    id = self ∧ (∃ leases ∈ r.leases? id, (action leases).inputOwner = some a) ∨
      id ≠ self ∧ r.InputOwner id a := by
  obtain ⟨leases, found, owner⟩ := h
  rw [leases?, changeLeases, editTerminal, Table.lookup_modify] at found
  split at found
  case isTrue eq =>
    rw [Option.map_map] at found
    obtain ⟨terminal, hterminal, rfl⟩ := Option.map_eq_some_iff.1 found
    refine .inl ⟨eq, terminal.leases, ?_, owner⟩
    rw [leases?, eq, hterminal]
    rfl
  case isFalse ne => exact .inr ⟨ne, leases, found, owner⟩

lemma attachments?_changeAttachments (r : Registry) (self : String)
    (action : Table String AttachmentRecord → Table String AttachmentRecord) (id : String) :
    (r.changeAttachments self action).attachments? id
      = if id = self then (r.attachments? id).map action else r.attachments? id := by
  rw [attachments?, changeAttachments, editTerminal, Table.lookup_modify]
  split
  case isTrue eq =>
    rw [attachments?, eq, Option.map_map, Option.map_map]
    rfl
  case isFalse => rfl

lemma Recorded.changeAttachments {action : Table String AttachmentRecord → Table String AttachmentRecord}
    (h : r.Recorded id a)
    (keeps : ∀ records token record, r.attachments? self = some records →
      AList.lookup token records = some record → record.attachmentId = a →
      ∃ token' record', AList.lookup token' (action records) = some record' ∧
        record'.attachmentId = a) : (r.changeAttachments self action).Recorded id a := by
  obtain ⟨records, found, token, record, there, same⟩ := h
  unfold Recorded
  rw [attachments?_changeAttachments]
  split
  case isTrue eq =>
    rw [eq] at found ⊢
    rw [Option.mem_def.1 found]
    exact ⟨_, rfl, keeps records token record found there same⟩
  case isFalse => exact ⟨records, found, token, record, there, same⟩

end Registry

/-! ### Attachments that are being closed -/

def Task.closes : Task → Option (String × String)
  | .closing id a _ => some (id, a)
  | _ => none

def Task.closesInput : Task → Option (String × String)
  | .closing id a false => some (id, a)
  | _ => none

namespace World
open Registry

/-- An attachment is being closed on a terminal. -/
def Closing (w : World) (id a : String) : Prop :=
  ∃ task t, AList.lookup task w.tasks = some t ∧ t.closes = some (id, a)

/-- An attachment is being closed on a terminal and has its input lease still to release. -/
def ClosingInput (w : World) (id a : String) : Prop :=
  ∃ task t, AList.lookup task w.tasks = some t ∧ t.closesInput = some (id, a)

/-- The owner of a lease is registered on a terminal of the view, or on the terminal. -/
structure LeasesLive (w : World) : Prop where
  layout : ∀ k a, w.registry.LayoutOwner k a → ∃ id, w.registry.Leaf k id ∧ w.registry.Recorded id a
  input : ∀ id a, w.registry.InputOwner id a → w.registry.Recorded id a

structure LeaseInv (w : World) : Prop where
  layout : ∀ k a, w.registry.LayoutOwner k a → w.registry.Backed w.Closing k a
  input : ∀ id a, w.registry.InputOwner id a → w.registry.Recorded id a ∨ w.ClosingInput id a

/-! ### The condition -/

def recorded (r : Registry) (id a : String) : Bool :=
  (AList.lookup id r.heap).any fun terminal =>
    terminal.attachments.any fun record => record.attachmentId = a

def leaseFree (r : Registry) (self : String) : LeaseKind → Bool
  | .input => (AList.lookup self r.heap).any fun terminal => terminal.leases.inputOwner.isNone
  | .layout => (AList.lookup self r.heap).any fun terminal =>
    (AList.lookup terminal.owner.sessionId r.sessions).any fun session =>
      session.view.leases.layoutOwner.isNone

def layoutOwner? (r : Registry) (self : String) : Option String := do
  let terminal ← AList.lookup self r.heap
  let session ← AList.lookup terminal.owner.sessionId r.sessions
  session.view.leases.layoutOwner

/-- A lease that nobody owns is claimed for an attachment that is registered on the terminal (and the
    terminal is in the registry, for the layout lease), or that has the lease still to release. -/
def ClaimsFairly (w : World) (self a : String) (lease : LeaseKind) : Prop :=
  leaseFree w.registry self lease → match lease with
    | .input => recorded w.registry self a ∨ w.tasks.any fun t => t.closesInput = some (self, a)
    | .layout => self ∈ w.registry.terminals ∧ recorded w.registry self a ∨
      w.tasks.any fun t => t.closes = some (self, a)

instance (w : World) (self a : String) (lease : LeaseKind) :
    Decidable (w.ClaimsFairly self a lease) := by
  unfold ClaimsFairly
  cases lease <;> infer_instance

/-- A step claims leases fairly and moves no terminal away from a view whose layout lease an attachment
    of that terminal owns that is being closed. -/
def LeaseSafe (w : World) : Action → Prop
  | .commit task _ _ _ =>
    match AList.lookup task w.tasks with
    | some (.reserved request _) => ∀ id ∈ request.moved, ∀ a ∈ layoutOwner? w.registry id,
      w.tasks.any (fun t => t.closes = some (id, a)) = false
    | _ => True
  | .acquireLease self a lease => w.ClaimsFairly self a lease
  | .advance task =>
    match AList.lookup task w.tasks with
    | some (.opening self a input _ false) => input → w.ClaimsFairly self a .input
    | some (.opening self a _ layout true) => layout → w.ClaimsFairly self a .layout
    | _ => True
  | _ => True

instance (w : World) (action : Action) : Decidable (w.LeaseSafe action) := by
  unfold LeaseSafe
  split
  · split <;> infer_instance
  · infer_instance
  · split <;> infer_instance
  · infer_instance

variable {a self token : String} {w : World} {record : AttachmentRecord} {task : Nat} {r : Registry}
  {id name attachmentId : String} {terminal : Terminal} {request : Request}

lemma recorded_iff : recorded r id a = true ↔ r.Recorded id a := by
  unfold recorded Recorded attachments?
  rw [Option.any_eq_true]
  constructor
  · rintro ⟨terminal, found, any⟩
    obtain ⟨token, record, there, same⟩ := Table.any_iff.1 any
    exact ⟨terminal.attachments, by rw [found]; rfl, token, record, there, by simpa using same⟩
  · rintro ⟨records, found, token, record, there, same⟩
    obtain ⟨terminal, hterminal, rfl⟩ := Option.map_eq_some_iff.1 found
    exact ⟨terminal, hterminal, Table.any_iff.2 ⟨token, record, there, by simpa using same⟩⟩

lemma ClaimsFairly.backed {k : String} (h : w.ClaimsFairly self a .layout) (owned : w.registry.Owned)
    (key : w.registry.OwnerKey self k) {session : Session} (found : AList.lookup k w.registry.sessions = some session)
    (free : session.view.leases.layoutOwner = none) : w.registry.Backed w.Closing k a := by
  obtain ⟨owner, howner, rfl⟩ := key
  obtain ⟨terminal, hterminal, rfl⟩ := Option.map_eq_some_iff.1 howner
  have unowned : leaseFree w.registry self .layout = true := by
    simp [leaseFree, hterminal, found, free]
  rcases h unowned with ⟨mem, record⟩ | closes
  · obtain ⟨terminal', session', hterminal', found', leaf, -⟩ := owned.registered mem
    cases hterminal.symm.trans hterminal'
    exact .inl ⟨self, ⟨session', found', leaf⟩, recorded_iff.1 record⟩
  · obtain ⟨task, t, there, same⟩ := Table.any_iff.1 closes
    exact .inr ⟨self, ⟨task, t, there, by simpa using same⟩, terminal.owner, howner, rfl⟩

lemma ClaimsFairly.recorded (h : w.ClaimsFairly self a .input) {leases : AttachmentLeaseRegistry}
    (found : leases ∈ w.registry.leases? self) (free : leases.inputOwner = none) :
    w.registry.Recorded self a ∨ w.ClosingInput self a := by
  obtain ⟨terminal, hterminal, rfl⟩ := Option.map_eq_some_iff.1 found
  have unowned : leaseFree w.registry self .input = true := by
    simp [leaseFree, hterminal, free]
  rcases h unowned with record | closes
  · exact .inl (recorded_iff.1 record)
  · obtain ⟨task, t, there, same⟩ := Table.any_iff.1 closes
    exact .inr ⟨task, t, there, by simpa using same⟩

/-! ### Every step -/

lemma closing_settle (w : World) (task : Nat) (r : Registry) (next : Option Task)
    (other : ∀ t, AList.lookup task w.tasks = some t → t.closes = none) :
    (∀ id a, w.Closing id a → (w.settle task r next).Closing id a) ∧
      ∀ id a, w.ClosingInput id a → (w.settle task r next).ClosingInput id a := by
  have moved : ∀ {task' t}, AList.lookup task' w.tasks = some t → t.closes ≠ none →
      AList.lookup task' (w.settle task r next).tasks = some t := by
    intro task' t found closes
    rw [lookup_settle, if_neg, found]
    rintro rfl
    exact closes (other t found)
  constructor
  · rintro id a ⟨task', t, found, closes⟩
    exact ⟨task', t, moved found (by rw [closes]; simp), closes⟩
  · rintro id a ⟨task', t, found, closes⟩
    refine ⟨task', t, moved found ?_, closes⟩
    cases t <;> first | cases closes | simp [Task.closes]

namespace LeaseInv

variable {w w' : World} {self : String} {action : AttachmentLeaseRegistry → AttachmentLeaseRegistry}

lemma keep (inv : w.LeaseInv) (backed : KeepsBacked w.Closing w.registry w'.registry)
    (records : ∀ id a, w.registry.Recorded id a → w'.registry.Recorded id a)
    (inputs : ∀ id a, w'.registry.InputOwner id a → w.registry.InputOwner id a)
    (closing : ∀ id a, w.Closing id a → w'.Closing id a)
    (closingInput : ∀ id a, w.ClosingInput id a → w'.ClosingInput id a) : w'.LeaseInv where
  layout k a owner := by
    obtain ⟨owner, keeps⟩ := backed k a owner
    exact (keeps (inv.layout k a owner)).mono fun id => closing id a
  input id a owner := by
    rcases inv.input id a (inputs id a owner) with recorded | closes
    · exact .inl (records id a recorded)
    · exact .inr (closingInput id a closes)

lemma settle_steps (inv : w.LeaseInv) {task : Nat} {r : Registry} {next : Option Task}
    (other : ∀ t, AList.lookup task w.tasks = some t → t.closes = none) (backed : KeepsBacked w.Closing w.registry r)
    (attached : SameAttached w.registry r) : (w.settle task r next).LeaseInv := by
  obtain ⟨closing, closingInput⟩ := closing_settle w task r next other
  refine inv.keep ?_ ?_ ?_ closing closingInput
  · rw [settle_registry]
    exact backed
  · rw [settle_registry]
    exact fun _ _ => attached.recorded
  · rw [settle_registry]
    exact attached.leases

lemma changeAttachments (inv : w.LeaseInv) {action : Table String AttachmentRecord → Table String AttachmentRecord}
    (sessions : w'.registry = w.registry.changeAttachments self action)
    (keeps : ∀ records token record, w.registry.attachments? self = some records →
      AList.lookup token records = some record → ∃ token' record',
        AList.lookup token' (action records) = some record' ∧
        record'.attachmentId = record.attachmentId) (closing : ∀ id a, w.Closing id a → w'.Closing id a)
    (closingInput : ∀ id a, w.ClosingInput id a → w'.ClosingInput id a) : w'.LeaseInv := by
  have records : ∀ id a, w.registry.Recorded id a → w'.registry.Recorded id a := by
    intro id a recorded
    rw [sessions]
    refine recorded.changeAttachments fun records token record found there same => ?_
    obtain ⟨token', record', there', same'⟩ := keeps records token record found there
    exact ⟨token', record', there', same'.trans same⟩
  refine inv.keep ?_ records ?_ closing closingInput
  · rw [sessions]
    rintro k a ⟨session, found, owner⟩
    refine ⟨⟨session, found, owner⟩, fun backed => backed.transfer _ (fun _ leaf => leaf) ?_ ?_⟩
    · exact fun id recorded => sessions ▸ records id a recorded
    · rintro id - ⟨owner, howner, same⟩
      exact ⟨owner, ((Alike.of_changeAttachments _ self action).owners id).trans howner, same⟩
  · rw [sessions]
    rintro id a ⟨leases, found, owner⟩
    refine ⟨leases, ?_, owner⟩
    exact (Table.map_lookup_modify (f := Terminal.withAttachments action) (fun _ => rfl) id).symm.trans
      found

lemma changeViewLeases (inv : w.LeaseInv) (registry : w'.registry = w.registry.changeViewLeases self action)
    (owners : ∀ k session a, AList.lookup k w.registry.sessions = some session →
      w.registry.OwnerKey self k → (action session.view.leases).layoutOwner = some a →
      w.registry.Backed w'.Closing k a)
    (others : ∀ k a, ¬ w.registry.OwnerKey self k → w.registry.Backed w.Closing k a →
      w.registry.Backed w'.Closing k a) (closingInput : ∀ id a, w.ClosingInput id a → w'.ClosingInput id a) :
    w'.LeaseInv := by
  constructor
  · intro k a owner
    rw [registry] at owner ⊢
    refine Backed.changeViewLeases self action ?_
    rcases changeViewLeases_layoutOwner owner with ⟨key, session, found, owner⟩ | ⟨other, owner⟩
    · exact owners k session a found key owner
    · exact others k a other (inv.layout k a owner)
  · intro id a owner
    have attached := SameAttached.of_changeViewLeases w.registry self action
    rw [registry] at owner ⊢
    rcases inv.input id a (attached.leases id a owner) with recorded | closes
    · exact .inl (attached.recorded recorded)
    · exact .inr (closingInput id a closes)

lemma changeLeases (inv : w.LeaseInv) (registry : w'.registry = w.registry.changeLeases self action)
    (owners : ∀ leases a, leases ∈ w.registry.leases? self → (action leases).inputOwner = some a →
      w.registry.Recorded self a ∨ w'.ClosingInput self a)
    (others : ∀ id a, id ≠ self → w.ClosingInput id a → w'.ClosingInput id a)
    (closing : ∀ id a, w.Closing id a → w'.Closing id a) : w'.LeaseInv := by
  have records : ∀ id a, w.registry.Recorded id a →
      (w.registry.changeLeases self action).Recorded id a := by
    rintro id a ⟨records, found, rest⟩
    exact ⟨records, (Table.map_lookup_modify (f := Terminal.withLeases action) (fun _ => rfl)
      id).trans found, rest⟩
  constructor
  · rintro k a owner
    rw [registry] at owner ⊢
    obtain ⟨session, found, owner⟩ := owner
    refine (Backed.transfer (w.registry.changeLeases self action)
      (inv.layout k a ⟨session, found, owner⟩) (fun _ leaf => leaf) (fun id => records id a)
      ?_).mono fun id => closing id a
    rintro id - ⟨owner, howner, same⟩
    exact ⟨owner, ((Alike.of_changeLeases _ self action).owners id).trans howner, same⟩
  · intro id a owner
    rw [registry] at owner ⊢
    rcases changeLeases_inputOwner owner with ⟨rfl, leases, found, owner⟩ | ⟨ne, owner⟩
    · rcases owners leases a found owner with recorded | closes
      · exact .inl (records id a recorded)
      · exact .inr closes
    · rcases inv.input id a owner with recorded | closes
      · exact .inl (records id a recorded)
      · exact .inr (others id a ne closes)

end LeaseInv

lemma recorded_removeAttachment (found : AList.lookup self r.heap = some terminal)
    (there : AList.lookup token terminal.attachments = some record) (h : r.Recorded id a) :
    (r.removeAttachment self token).Recorded id a ∨ id = self ∧ a = record.attachmentId := by
  obtain ⟨records, hrecords, token', record', there', same⟩ := h
  by_cases eq : id = self
  · rw [attachments?, eq, found] at hrecords
    cases hrecords
    by_cases sameToken : token' = token
    · rw [sameToken] at there'
      cases there.symm.trans there'
      exact .inr ⟨eq, same.symm⟩
    · refine .inl ⟨AList.erase token terminal.attachments, ?_, token', record',
        (AList.lookup_erase_ne sameToken).trans there', same⟩
      rw [removeAttachment, attachments?_changeAttachments, if_pos eq, attachments?, eq, found]
      rfl
  · refine .inl ⟨records, ?_, token', record', there', same⟩
    rw [removeAttachment, attachments?_changeAttachments, if_neg eq]
    exact hrecords

lemma closeAttachment_leaseInv (inv : w.LeaseInv) (owned : w.registry.Owned) (idle : AList.lookup task w.tasks = none)
    (found : AList.lookup self w.registry.heap = some terminal)
    (there : AList.lookup token terminal.attachments = some record) :
    (w.settle task (w.registry.removeAttachment self token)
      (some (.closing self record.attachmentId false))).LeaseInv := by
  obtain ⟨closing, closingInput⟩ := closing_settle w task (w.registry.removeAttachment self token)
    (some (.closing self record.attachmentId false))
    fun t h => by rw [idle] at h; cases h
  have now : AList.lookup task (w.settle task (w.registry.removeAttachment self token)
      (some (.closing self record.attachmentId false))).tasks
      = some (.closing self record.attachmentId false) := by
    rw [lookup_settle, if_pos rfl]
  constructor
  · intro k a owner
    rw [settle_registry] at owner ⊢
    obtain ⟨session, hsession, owner⟩ := owner
    rcases inv.layout k a ⟨session, hsession, owner⟩ with ⟨id, leaf, recorded⟩ | ⟨id, closes, key⟩
    · rcases recorded_removeAttachment found there recorded with recorded | ⟨rfl, rfl⟩
      · exact .inl ⟨id, leaf, recorded⟩
      · -- The terminal of the closed attachment belongs to this view.
        obtain ⟨-, o, ho, same, -⟩ := owned.leaf k session hsession id (leaf.mem hsession)
        refine .inr ⟨id, ⟨task, _, now, rfl⟩, o, ?_, same.trans (owned.key k session hsession)⟩
        exact ((Alike.of_changeAttachments w.registry id _).owners id).trans ho
    · obtain ⟨o, ho, same⟩ := key
      exact .inr ⟨id, closing id a closes, o,
        ((Alike.of_changeAttachments w.registry self _).owners id).trans ho, same⟩
  · intro id a owner
    rw [settle_registry] at owner ⊢
    have before : w.registry.InputOwner id a := by
      obtain ⟨leases, hleases, owner⟩ := owner
      refine ⟨leases, ?_, owner⟩
      exact (Table.map_lookup_modify (f := Terminal.withAttachments (AList.erase token))
        (fun _ => rfl) id).symm.trans hleases
    rcases inv.input id a before with recorded | closes
    · rcases recorded_removeAttachment found there recorded with recorded | ⟨rfl, rfl⟩
      · exact .inl recorded
      · exact .inr ⟨task, _, now, rfl⟩
    · exact .inr (closingInput id a closes)

lemma commit_leaseInv (inv : w.LeaseInv) (owned : w.registry.Owned) {owner : TerminalOwner} {r' : Registry}
    {next : Option Task} (found : AList.lookup task w.tasks = some (.reserved request name))
    (unused : AList.lookup owner.sessionId w.registry.sessions = none)
    (safe : ∀ id ∈ request.moved, ∀ k a, w.Closing id a → w.registry.OwnerKey id k →
      ¬ w.registry.LayoutOwner k a) (commits : Commits w.registry owner request r' next) :
    (w.settle task r' next).LeaseInv := by
  have other : ∀ t, AList.lookup task w.tasks = some t → t.closes = none := by
    rintro t there
    cases found.symm.trans there
    rfl
  have released : ∀ (r : Registry) name, KeepsBacked w.Closing r (r.releaseName name) ∧
      SameAttached r (r.releaseName name) := fun r name =>
    ⟨.of_sessions rfl (.of_heap _ _ rfl) fun _ _ _ _ _ key => key, .of_heap _ _ rfl⟩
  cases commits with
  | @create _ terminalId size managed fresh =>
    have steps : Steps (w.registry.releaseName owner.name) (.opened terminalId owner size)
        (w.registry.commitSession terminalId (.spawn owner size managed)) :=
      ⟨_, @Change.create _ _ (.spawn owner size managed) fresh rfl unused, .refl _⟩
    obtain ⟨backed, attached⟩ := steps.backed w.Closing (owned.releaseName _)
      fun _ _ _ h => by cases h
    obtain ⟨before, same⟩ := released w.registry owner.name
    exact inv.settle_steps other (before.trans backed) (same.trans attached)
  | split steps _ =>
    obtain ⟨backed, attached⟩ := steps.backed w.Closing (owned.releaseName _)
      fun _ _ _ h => by cases h
    obtain ⟨before, same⟩ := released w.registry owner.name
    exact inv.settle_steps other (before.trans backed) (same.trans attached)
  | keep _ calm => exact inv.settle_steps other (.of_calm calm) (.of_calm calm)
  | @move _ id size r' target steps =>
    obtain ⟨backed, attached⟩ := steps.backed w.Closing owned (by
      rintro _ _ _ ⟨⟩ k a closes key
      exact safe id target k a closes key)
    obtain ⟨after, same⟩ := released r' owner.name
    exact inv.settle_steps other (backed.trans after) (attached.trans same)

lemma releaseInput_leaseInv (inv : w.LeaseInv)
    (found : AList.lookup task w.tasks = some (.closing self attachmentId false)) :
    (w.settle task (w.registry.releaseInput self attachmentId)
      (some (.closing self attachmentId true))).LeaseInv := by
  have later : ∀ {task' t}, AList.lookup task' w.tasks = some t → task' ≠ task →
      AList.lookup task' (w.settle task (w.registry.releaseInput self attachmentId)
        (some (.closing self attachmentId true))).tasks = some t := fun there ne => by
    rw [lookup_settle, if_neg ne, there]
  -- The other closes have their input leases still to release.
  have others : ∀ id a, (id, a) ≠ (self, attachmentId) → w.ClosingInput id a →
      (w.settle task (w.registry.releaseInput self attachmentId)
        (some (.closing self attachmentId true))).ClosingInput id a := by
    rintro id a ne ⟨task', t, there, closes⟩
    refine ⟨task', t, later there ?_, closes⟩
    rintro rfl
    cases found.symm.trans there
    exact ne (Option.some.inj closes).symm
  refine inv.changeLeases (settle_registry _ _ _ _) ?_ ?_ ?_
  · intro leases a hleases owner
    obtain ⟨owner, ne⟩ :=
      (AttachmentLeaseRegistry.releaseAttachment_owner .input).1 owner
    refine (inv.input self a ⟨leases, hleases, owner⟩).imp id (others self a ?_)
    exact fun eq => ne (Prod.mk.inj eq).2
  · exact fun id a ne => others id a fun eq => ne (Prod.mk.inj eq).1
  · rintro id a ⟨task', t, there, closes⟩
    by_cases eq : task' = task
    · rw [eq] at there
      cases found.symm.trans there
      exact ⟨task, .closing self attachmentId true, by rw [lookup_settle, if_pos rfl], closes⟩
    · exact ⟨task', t, later there eq, closes⟩

lemma releaseLayout_leaseInv (inv : w.LeaseInv)
    (found : AList.lookup task w.tasks = some (.closing self attachmentId true)) :
    (w.settle task (w.registry.releaseLayout self attachmentId) none).LeaseInv := by
  have later : ∀ {task' t}, AList.lookup task' w.tasks = some t → task' ≠ task →
      AList.lookup task' (w.settle task (w.registry.releaseLayout self attachmentId) none).tasks
        = some t := fun there ne => by
    rw [lookup_settle, if_neg ne, there]
  -- The other closes go on.
  have others : ∀ id a, (id, a) ≠ (self, attachmentId) → w.Closing id a →
      (w.settle task (w.registry.releaseLayout self attachmentId) none).Closing id a := by
    rintro id a ne ⟨task', t, there, closes⟩
    refine ⟨task', t, later there ?_, closes⟩
    rintro rfl
    cases found.symm.trans there
    exact ne (Option.some.inj closes).symm
  refine inv.changeViewLeases (settle_registry _ _ _ _) ?_ ?_ ?_
  · intro k session a hsession key owner
    obtain ⟨owner, ne⟩ :=
      (AttachmentLeaseRegistry.releaseAttachment_owner .layout).1 owner
    refine (inv.layout k a ⟨session, hsession, owner⟩).mono fun id => others id a ?_
    exact fun eq => ne (Prod.mk.inj eq).2
  · rintro k a other (recorded | ⟨id, closes, key⟩)
    · exact .inl recorded
    · refine .inr ⟨id, others id a (fun eq => other ?_) closes, key⟩
      rw [← (Prod.mk.inj eq).1]
      exact key
  · rintro id a ⟨task', t, there, closes⟩
    refine ⟨task', t, later there ?_, closes⟩
    rintro rfl
    cases found.symm.trans there
    cases closes

lemma modify_keeps {records : Table String AttachmentRecord} {key : String} {f : AttachmentRecord → AttachmentRecord}
    (same : ∀ record, (f record).attachmentId = record.attachmentId)
    (there : AList.lookup token records = some record) :
    ∃ token' record', AList.lookup token' (records.modify key f) = some record' ∧
      record'.attachmentId = record.attachmentId := by
  by_cases eq : token = key
  · exact ⟨token, f record, by rw [eq, Table.lookup_modify_self, ← eq, there]; rfl, same record⟩
  · exact ⟨token, record, by rw [Table.lookup_modify_ne eq, there], rfl⟩

lemma resumed_attachmentId (record : AttachmentRecord) : record.resumed.attachmentId = record.attachmentId := by
  unfold AttachmentRecord.resumed
  split <;> rfl

lemma suspended_attachmentId (generation : Nat) (record : AttachmentRecord) :
    (record.suspended generation).attachmentId = record.attachmentId := by
  unfold AttachmentRecord.suspended
  split <;> rfl

lemma moved_safe {sessionId viewId : String} {now : Nat} (safe : w.LeaseSafe (.commit task sessionId viewId now))
    (found : AList.lookup task w.tasks = some (.reserved request name)) :
    ∀ id ∈ request.moved, ∀ k a, w.Closing id a → w.registry.OwnerKey id k →
      ¬ w.registry.LayoutOwner k a := by
  rintro id target k a ⟨task', t, there, closes⟩ ⟨owner, howner, rfl⟩ ⟨session, hsession, held⟩
  rw [LeaseSafe, found] at safe
  obtain ⟨terminal, hterminal, rfl⟩ := Option.map_eq_some_iff.1 howner
  have owns : a ∈ layoutOwner? w.registry id := by
    simp [layoutOwner?, hterminal, hsession, held]
  have any : w.tasks.any (fun t => t.closes = some (id, a)) = true :=
    Table.any_iff.2 ⟨task', t, there, decide_eq_true closes⟩
  rw [safe id target a owns] at any
  cases any

lemma step_leaseInv {w' : World} {action : Action} (inv : w.LeaseInv) (owned : w.registry.Owned)
    (safe : w.LeaseSafe action) (h : Transition w action w') : w'.LeaseInv := by
  -- A task that is no close goes on, and neither sessions nor terminals change.
  have calmly : ∀ {task r next t}, AList.lookup task w.tasks = some t → t.closes = none →
      r.sessions = w.registry.sessions → r.heap = w.registry.heap →
      (w.settle task r next).LeaseInv := by
    intro task r next t found idle sessions heap
    refine inv.settle_steps (fun t' h => ?_) (.of_sessions sessions (.of_heap _ _ heap) ?_)
      (.of_heap _ _ heap)
    · cases found.symm.trans h
      exact idle
    · rintro k a id - - ⟨owner, howner, same⟩
      exact ⟨owner, by rw [owner?, heap]; exact howner, same⟩
  have unused : ∀ {task}, AList.lookup task w.tasks = none →
      ∀ t, AList.lookup task w.tasks = some t → t.closes = none := by
    intro task idle t h
    rw [idle] at h
    cases h
  cases h with
  | environment pty =>
    exact inv.keep (.of_sessions rfl (.of_heap _ _ rfl) fun _ _ _ _ _ key => key) (fun _ _ h => h)
      (fun _ _ h => h) (fun _ _ h => h) fun _ _ h => h
  | perform steps =>
    obtain ⟨backed, attached⟩ := steps.backed w.Closing owned fun _ _ _ h => by cases h
    exact inv.keep backed (fun _ _ => attached.recorded) attached.leases (fun _ _ h => h)
      fun _ _ h => h
  | begin idle =>
    exact inv.settle_steps (unused idle) (.of_sessions rfl (.refl _) fun _ _ _ _ _ key => key)
      (.refl _)
  | refuse found _ => exact calmly found rfl rfl rfl
  | reserve found _ _ => exact calmly found rfl rfl rfl
  | abandon found => exact calmly found rfl rfl rfl
  | commit found fresh _ commits =>
    exact commit_leaseInv inv owned found fresh (moved_safe safe found) commits
  | drop found => exact calmly found (by cases ‹Bool› <;> rfl) rfl rfl
  | openAttachment idle found free =>
    obtain ⟨closing, closingInput⟩ := closing_settle w _ _ _ (unused idle)
    refine inv.changeAttachments (settle_registry _ _ _ _) ?_ closing closingInput
    intro records token' record hrecords there
    rw [attachments?, found] at hrecords
    cases hrecords
    refine ⟨token', record, (AList.lookup_insert_ne ?_).trans there, rfl⟩
    rintro rfl
    exact Option.some_ne_none _ (there.symm.trans free)
  | resumeAttachment self token =>
    exact inv.changeAttachments rfl
      (fun _ _ _ _ there => modify_keeps resumed_attachmentId there) (fun _ _ h => h) fun _ _ h => h
  | suspendAttachment self token generation =>
    exact inv.changeAttachments rfl
      (fun _ _ _ _ there => modify_keeps (suspended_attachmentId generation) there)
      (fun _ _ h => h) fun _ _ h => h
  | closeAttachment idle found there => exact closeAttachment_leaseInv inv owned idle found there
  | acquireLease self attachmentId lease =>
    cases lease with
    | layout =>
      refine inv.changeViewLeases rfl ?_ (fun _ _ _ h => h) fun _ _ h => h
      intro k session a found key owner
      rcases AttachmentLeaseRegistry.acquire_owner .layout owner with
        owner | ⟨-, rfl, free⟩
      · exact inv.layout k a ⟨session, found, owner⟩
      · exact ClaimsFairly.backed safe owned key found free
    | input =>
      refine inv.changeLeases rfl ?_ (fun _ _ _ h => h) fun _ _ h => h
      intro leases a found owner
      rcases AttachmentLeaseRegistry.acquire_owner .input owner with owner | ⟨-, rfl, free⟩
      · exact inv.input self a ⟨leases, found, owner⟩
      · exact ClaimsFairly.recorded safe found free
  | releaseLease self attachmentId lease =>
    cases lease with
    | layout =>
      refine inv.changeViewLeases rfl ?_ (fun _ _ _ h => h) fun _ _ h => h
      intro k session a found _ owner
      exact inv.layout k a
        ⟨session, found, AttachmentLeaseRegistry.release_owner .layout owner⟩
    | input =>
      refine inv.changeLeases rfl ?_ (fun _ _ _ h => h) fun _ _ h => h
      intro leases a found owner
      exact inv.input self a
        ⟨leases, found, AttachmentLeaseRegistry.release_owner .input owner⟩
  | @requestInput task self attachmentId input layout found =>
    obtain ⟨closing, closingInput⟩ := closing_settle w task
      (w.registry.requestInput self attachmentId input)
      (some (.opening self attachmentId input layout true)) fun t h => by
        cases found.symm.trans h
        rfl
    rw [LeaseSafe, found] at safe
    refine inv.changeLeases (settle_registry _ _ _ _) ?_ (fun id a _ => closingInput id a) closing
    intro leases a hleases owner
    have backed : w.registry.Recorded self a ∨ w.ClosingInput self a := by
      rcases AttachmentLeaseRegistry.requestInitial_owner .input owner with
        owner | ⟨rfl, free, requested⟩
      · exact inv.input self a ⟨leases, hleases, owner⟩
      · exact ClaimsFairly.recorded (safe requested) hleases free
    exact backed.imp id (closingInput self a)
  | @requestLayout task self attachmentId input layout found =>
    obtain ⟨closing, closingInput⟩ := closing_settle w task
      (w.registry.requestLayout self attachmentId layout) none fun t h => by
        cases found.symm.trans h
        rfl
    rw [LeaseSafe, found] at safe
    refine inv.changeViewLeases (settle_registry _ _ _ _) ?_
      (fun k a _ backed => backed.mono fun id => closing id a) closingInput
    intro k session a hsession key owner
    refine Backed.mono ?_ fun id => closing id a
    rcases AttachmentLeaseRegistry.requestInitial_owner .layout owner with
      owner | ⟨rfl, free, requested⟩
    · exact inv.layout k a ⟨session, hsession, owner⟩
    · exact ClaimsFairly.backed (safe requested) owned key hsession free
  | @releaseInput task self attachmentId found =>
    exact releaseInput_leaseInv inv found
  | @releaseLayout task self attachmentId found =>
    exact releaseLayout_leaseInv inv found

lemma initial_leaseInv (h : w.Initial) : w.LeaseInv := by
  cases h
  constructor
  · rintro _ _ ⟨_, ⟨⟩, _⟩
  · rintro _ _ ⟨_, ⟨⟩, _⟩

/-- In every safe run, whenever no attachment is being closed, the owner of a layout lease is registered
    on a terminal of the view and the owner of an input lease is registered on the terminal. -/
theorem reachable_leases {w : World} (h : ReachableWhile step Initial LeaseSafe w)
    (settled : ∀ task id a released, AList.lookup task w.tasks ≠ some (.closing id a released)) : w.LeasesLive := by
  have inv : w.registry.Owned ∧ w.LeaseInv := by
    refine h.invariant (fun w => w.registry.Owned ∧ w.LeaseInv) ?_ ?_
    · exact fun s start => ⟨initial_owned start, initial_leaseInv start⟩
    · rintro s action s' ⟨owned, inv⟩ safe step
      exact ⟨step_owned owned step, step_leaseInv inv owned safe (step_transition owned step)⟩
  constructor
  · intro k a owner
    rcases inv.2.layout k a owner with recorded | ⟨id, ⟨task, t, found, closes⟩, -⟩
    · exact recorded
    · cases t <;> first | exact (settled _ _ _ _ found).elim | cases closes
  · intro id a owner
    rcases inv.2.input id a owner with recorded | ⟨task, t, found, closes⟩
    · exact recorded
    · cases t <;> first | exact (settled _ _ _ _ found).elim | cases closes

/-- A client attaches to a pane of a session with two panes and claims the layout lease. -/
def attachedPane : List Action :=
  [.begin 0 (.create (some "work") "t1" ⟨80, 24, 0, 0⟩ false), .reserve 0, .commit 0 "s1" "v1" 0,
    .begin 1 (.split "t1" .horizontal "t2" ⟨80, 24, 0, 0⟩), .reserve 1, .commit 1 "s2" "v2" 0,
    .openAttachment 2 "t2" "token" "client" true true, .advance 2, .advance 2]

theorem reachable_leases_attachedPane :
    ∃ w, exec step ⟨.default, ∅⟩ attachedPane = some w ∧ w.registry.LayoutOwner "s1" "client" ∧
      w.registry.InputOwner "t2" "client" ∧ w.LeasesLive :=
  ⟨_, rfl, ⟨_, rfl, rfl⟩, ⟨_, rfl, rfl⟩, reachable_leases
    (ReachableWhile.exec (.start rfl) attachedPane rfl (by decide +kernel))
    fun _ _ _ _ h => by cases h⟩

def promotedWhileClosing : List Action :=
  attachedPane ++ [Action.closeAttachment 3 "t2" "token" 0 false,
    .begin 4 (.promote "t2" (some "other")), .reserve 4, .commit 4 "s3" "v3" 0, .advance 3, .advance 3]

lemma promotedWhileClosing_facts : (exec step ⟨.default, ∅⟩ promotedWhileClosing).any (fun w =>
    w.tasks.entries.isEmpty && (AList.lookup "s1" w.registry.sessions).any (fun session =>
      decide (session.view.leases.layoutOwner = some "client") && decide (session.view.layout.terminalIds = ["t1"]) &&
        decide ("t1" ∈ w.registry.terminals)) &&
      w.registry.terminals.all fun id => !recorded w.registry id "client") = true := by
  decide +kernel

/-- The layout lease of the old view stays with an attachment that no longer exists. -/
theorem promotedWhileClosing_keeps_lease :
    ∃ w, Reachable step Initial w ∧ exec step ⟨.default, ∅⟩ promotedWhileClosing = some w ∧
      (∀ task id a released, AList.lookup task w.tasks ≠ some (.closing id a released)) ∧
      w.registry.LayoutOwner "s1" "client" ∧ (∀ id ∈ w.registry.terminals,
        recorded w.registry id "client" = false) ∧ ¬ w.LeasesLive := by
  obtain ⟨w, run, facts⟩ := (Option.any_eq_true _ _).1 promotedWhileClosing_facts
  simp only [Bool.and_eq_true, List.isEmpty_iff, List.all_eq_true, Bool.not_eq_true'] at facts
  obtain ⟨⟨idle, shown⟩, unknown⟩ := facts
  obtain ⟨session, found, shown⟩ := (Option.any_eq_true _ _).1 shown
  simp only [Bool.and_eq_true, decide_eq_true_eq] at shown
  obtain ⟨⟨owner, leaves⟩, present⟩ := shown
  refine ⟨w, Reachable.exec (.start rfl) promotedWhileClosing run, run, fun task id a released closing => ?_,
    ⟨session, found, owner⟩, unknown, fun live => ?_⟩
  · have mem := AList.mem_lookup_iff.1 closing
    rw [idle] at mem
    exact absurd mem List.not_mem_nil
  · obtain ⟨id, ⟨session', found', leaf⟩, record⟩ := live.layout "s1" "client" ⟨session, found, owner⟩
    obtain rfl := Option.some.inj (found.symm.trans found')
    rw [leaves, List.mem_singleton] at leaf
    have known := recorded_iff.2 record
    rw [leaf, unknown "t1" present] at known
    cases known

end World

end Ctl.Daemon
