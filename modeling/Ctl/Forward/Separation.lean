import Ctl.Forward.Relay

/-!
# Associations never cross

The invariant of the forwarding protocol. Every identifier below the next one has been opened by one
client. A frame of the daemon carries what was accepted for its association, and a task of the agent
sends what it was given through the one socket of its peer. Frames arrive in order, so when the agent takes
the frame that opens an association, every other peer that it has is one that the daemon had when it
opened the association: the daemon has sent a `close` before it gave up any other one, or has heard
from the agent that it gave up the peer.
-/

namespace Ctl.Forward
open Ctl.Base

variable {α π : Type} {frames : List (Frame π)} {id m : Nat}

section daemon

variable [DecidableEq α]

structure DaemonInv (peers : Table α Association) (addresses : Table Nat α) (nextId : Nat)
    (opened : List (Opening α)) (dropped : List Nat) : Prop where
  inverse : ∀ address id, (AList.lookup address peers).map (·.id) = some id ↔
    AList.lookup id addresses = some address
  bounded : peers.keys.length ≤ MAX_PEERS
  length : addresses.keys.length = peers.keys.length
  known : ∀ id address, AList.lookup id addresses = some address →
    id < nextId ∧ ∃ held, ⟨id, address, held⟩ ∈ opened
  past : ∀ opening ∈ opened, 1 ≤ opening.id ∧ opening.id < nextId ∧ opening.held.length < MAX_PEERS
  all : ∀ id, 1 ≤ id → id < nextId → ∃ opening ∈ opened, opening.id = id
  positive : 1 ≤ nextId
  fresh : (opened.map (·.id)).Nodup
  gone : ∀ id ∈ dropped, id < nextId ∧ AList.lookup id addresses = none

namespace DaemonInv

variable {peers : Table α Association} {addresses : Table Nat α} {nextId : Nat}
  {opened : List (Opening α)} {dropped : List Nat}

lemma next_unused (inv : DaemonInv peers addresses nextId opened dropped) : AList.lookup nextId addresses = none := by
  cases found : AList.lookup nextId addresses with
  | none => rfl
  | some address => exact (Nat.lt_irrefl _ (inv.known nextId address found).1).elim

lemma refresh (inv : DaemonInv peers addresses nextId opened dropped) {peers' : Table α Association}
    (same : ∀ address, (AList.lookup address peers').map (·.id) =
      (AList.lookup address peers).map (·.id)) (length : peers'.keys.length = peers.keys.length) :
    DaemonInv peers' addresses nextId opened dropped where
  inverse address id := by
    rw [same]
    exact inv.inverse address id
  bounded := length ▸ inv.bounded
  length := inv.length.trans length.symm
  known := inv.known
  past := inv.past
  all := inv.all
  positive := inv.positive
  fresh := inv.fresh
  gone := inv.gone

lemma open_ (inv : DaemonInv peers addresses nextId opened dropped) {address : α} (clock : Nat)
    (new : AList.lookup address peers = none) (room : peers.keys.length < MAX_PEERS) :
    DaemonInv (AList.insert address ⟨nextId, clock⟩ peers) (AList.insert nextId address addresses)
      (nextId + 1) (⟨nextId, address, addresses.keys⟩ :: opened) dropped := by
  have unused := inv.next_unused
  refine ⟨fun a id => ?_, ?_, ?_, fun id a found => ?_, fun opening mem => ?_, fun id pos lt => ?_,
    Nat.le_add_left 1 nextId, ?_, fun id mem => ?_⟩
  · rw [Table.lookup_insert, Table.lookup_insert]
    by_cases client : address = a
    · subst client
      rw [if_pos rfl]
      by_cases eq : nextId = id
      · subst eq
        simp only [Option.map_some, if_true]
      · rw [if_neg eq, ← inv.inverse address id, new]
        simp only [Option.map_some, Option.some.injEq, eq, Option.map_none, reduceCtorEq]
    · rw [if_neg client]
      by_cases eq : nextId = id
      · subst eq
        rw [if_pos rfl, inv.inverse a nextId, unused]
        simp only [reduceCtorEq, Option.some.injEq, client]
      · rw [if_neg eq]
        exact inv.inverse a id
  · rw [Table.length_insert new]
    exact room
  · rw [Table.length_insert new, Table.length_insert unused, inv.length]
  · rw [Table.lookup_insert] at found
    split at found
    case isTrue eq =>
      cases found
      subst eq
      exact ⟨Nat.lt_succ_self _, _, List.mem_cons_self ..⟩
    case isFalse =>
      obtain ⟨lt, held, mem⟩ := inv.known id a found
      exact ⟨Nat.lt_succ_of_lt lt, held, List.mem_cons_of_mem _ mem⟩
  · cases mem with
    | head => exact ⟨inv.positive, Nat.lt_succ_self _, inv.length.symm ▸ room⟩
    | tail _ mem =>
      obtain ⟨pos, lt, held⟩ := inv.past opening mem
      exact ⟨pos, Nat.lt_succ_of_lt lt, held⟩
  · rcases Nat.lt_succ_iff_lt_or_eq.1 lt with lt | rfl
    · obtain ⟨opening, mem, eq⟩ := inv.all id pos lt
      exact ⟨opening, List.mem_cons_of_mem _ mem, eq⟩
    · exact ⟨_, List.mem_cons_self .., rfl⟩
  · refine List.nodup_cons.2 ⟨fun mem => ?_, inv.fresh⟩
    obtain ⟨opening, mem, eq⟩ := List.mem_map.1 mem
    have := (inv.past opening mem).2.1
    rw [eq] at this
    exact Nat.lt_irrefl _ this
  · obtain ⟨lt, gone⟩ := inv.gone id mem
    refine ⟨Nat.lt_succ_of_lt lt, ?_⟩
    rw [Table.lookup_insert, if_neg (Nat.ne_of_gt lt)]
    exact gone

lemma drop (inv : DaemonInv peers addresses nextId opened dropped) {address : α} {id : Nat}
    (found : AList.lookup id addresses = some address) :
    DaemonInv (AList.erase address peers) (AList.erase id addresses) nextId opened (id :: dropped) := by
  obtain ⟨peer, there, same⟩ := Option.map_eq_some_iff.1 ((inv.inverse address id).2 found)
  refine ⟨fun a other => ?_, ?_, ?_, fun other a there' => ?_, inv.past, inv.all, inv.positive,
    inv.fresh, fun other mem => ?_⟩
  · rw [Table.lookup_erase, Table.lookup_erase]
    by_cases client : address = a
    · subst client
      rw [if_pos rfl]
      by_cases eq : id = other
      · rw [if_pos eq]
        exact ⟨nofun, nofun⟩
      · rw [if_neg eq, ← inv.inverse address other, there]
        simp only [Option.map_none, reduceCtorEq, Option.map_some, Option.some.injEq, same, eq]
    · rw [if_neg client]
      by_cases eq : id = other
      · subst eq
        rw [if_pos rfl, inv.inverse a id, found]
        simp only [Option.some.injEq, client, reduceCtorEq]
      · rw [if_neg eq]
        exact inv.inverse a other
  · rw [Table.length_erase there]
    exact Nat.le_trans (Nat.sub_le _ _) inv.bounded
  · rw [Table.length_erase there, Table.length_erase found, inv.length]
  · rw [Table.lookup_erase] at there'
    split at there'
    case isTrue => cases there'
    case isFalse => exact inv.known other a there'
  · rw [Table.lookup_erase]
    cases mem with
    | head => exact ⟨(inv.known id address found).1, if_pos rfl⟩
    | tail _ mem =>
      obtain ⟨lt, gone⟩ := inv.gone other mem
      refine ⟨lt, ?_⟩
      rw [gone, ite_self]

end DaemonInv

end daemon

lemma append_eq_cases {β : Type} {xs before after : List β} {x y : β} (eq : xs ++ [y] = before ++ x :: after) :
    (x = y ∧ before = xs) ∨ ∃ after', xs = before ++ x :: after' := by
  rcases List.eq_nil_or_concat after with rfl | ⟨after', z, rfl⟩
  · obtain ⟨rfl, same⟩ := List.append_inj' eq rfl
    exact .inl ⟨(List.singleton_inj.1 same).symm, rfl⟩
  · rw [List.concat_eq_append, ← List.cons_append, ← List.append_assoc] at eq
    exact .inr ⟨after', (List.append_inj' eq rfl).1⟩

lemma datagram_of_cons_close {q : π} (mem : .datagram m q ∈ .close id :: frames) : .datagram m q ∈ frames := by
  cases mem with
  | tail _ mem => exact mem

lemma close_of_cons_datagram {payload : π} (mem : .close m ∈ .datagram id payload :: frames) : .close m ∈ frames := by
  cases mem with
  | tail _ mem => exact mem

structure UplinkInv (frames : List (Frame π)) (addresses : Table Nat α) (nextId : Nat)
    (opened : List (Opening α)) (accepted : List (Nat × π)) (peers : Table Nat Nat)
    (highest : Nat) : Prop where
  datagram : ∀ id payload, .datagram id payload ∈ frames →
    1 ≤ id ∧ id < nextId ∧ (id, payload) ∈ accepted
  live : ∀ id ∈ peers, 1 ≤ id ∧ id ≤ highest
  below : highest < nextId
  /-- The frame that opens an association is under way or has arrived. -/
  known : ∀ id address, AList.lookup id addresses = some address →
    id ≤ highest ∨ ∃ payload, .datagram id payload ∈ frames
  /-- An association is opened before it is closed. -/
  order : ∀ before id after, frames = before ++ Frame.close id :: after →
    id ≤ highest ∨ ∃ payload, .datagram id payload ∈ before
  /-- The agent has given up the associations that the daemon has given up, or will hear of it. -/
  closed : ∀ id, 1 ≤ id → id < nextId → AList.lookup id addresses = none →
    .close id ∈ frames ∨ id ∉ peers ∧ id ≤ highest
  /-- The peers that are there when an association is opened at the agent were there when it was opened
      at the daemon. -/
  room : ∀ before n payload after, frames = before ++ Frame.datagram n payload :: after → highest < n →
    (∀ q, .datagram n q ∉ before) → ∀ opening ∈ opened, opening.id = n → ∀ id ≠ n,
      (id ∈ peers ∨ highest < id ∧ ∃ q, .datagram id q ∈ before) →
        .close id ∈ before ∨ id ∈ opening.held

namespace UplinkInv

variable {frames : List (Frame π)} {addresses : Table Nat α} {nextId : Nat}
  {opened : List (Opening α)} {accepted : List (Nat × π)} {peers : Table Nat Nat} {highest : Nat} {id : Nat}

lemma send (inv : UplinkInv frames addresses nextId opened accepted peers highest) {address : α}
    (found : AList.lookup id addresses = some address) (range : 1 ≤ id ∧ id < nextId) (payload : π) :
    UplinkInv (frames ++ [Frame.datagram id payload]) addresses nextId opened ((id, payload) :: accepted)
      peers highest := by
  refine ⟨fun other q mem => ?_, inv.live, inv.below, fun other a there => ?_,
    fun before other after eq => ?_, fun other pos lt gone => ?_,
    fun before n q after eq new first opening mem same other ne there => ?_⟩
  · rcases List.mem_append.1 mem with mem | mem
    · obtain ⟨pos, lt, mem⟩ := inv.datagram other q mem
      exact ⟨pos, lt, List.mem_cons_of_mem _ mem⟩
    · cases List.mem_singleton.1 mem
      exact ⟨range.1, range.2, List.mem_cons_self ..⟩
  · refine (inv.known other a there).imp_right ?_
    rintro ⟨q, mem⟩
    exact ⟨q, List.mem_append_left _ mem⟩
  · rcases append_eq_cases eq with ⟨same, -⟩ | ⟨after', eq⟩
    · cases same
    · exact inv.order before other after' eq
  · exact (inv.closed other pos lt gone).imp_left (List.mem_append_left _)
  · rcases append_eq_cases eq with ⟨frame, rfl⟩ | ⟨after', eq⟩
    · -- The association was opened by an earlier frame.
      cases frame
      rcases inv.known id address found with le | ⟨q, mem⟩
      · exact (Nat.not_le_of_lt new le).elim
      · exact (first q mem).elim
    · exact inv.room before n q after' eq new first opening mem same other ne there

lemma open_ (inv : UplinkInv frames addresses nextId opened accepted peers highest)
    (past : ∀ opening ∈ opened, opening.id < nextId) (positive : 1 ≤ nextId) (address : α) (payload : π) :
    UplinkInv (frames ++ [Frame.datagram nextId payload]) (AList.insert nextId address addresses)
      (nextId + 1) (⟨nextId, address, addresses.keys⟩ :: opened) ((nextId, payload) :: accepted)
      peers highest := by
  refine ⟨fun other q mem => ?_, inv.live, Nat.lt_succ_of_lt inv.below, fun other a there => ?_,
    fun before other after eq => ?_, fun other pos lt gone => ?_,
    fun before n q after eq new first opening mem same other ne there => ?_⟩
  · rcases List.mem_append.1 mem with mem | mem
    · obtain ⟨pos, lt, mem⟩ := inv.datagram other q mem
      exact ⟨pos, Nat.lt_succ_of_lt lt, List.mem_cons_of_mem _ mem⟩
    · cases List.mem_singleton.1 mem
      exact ⟨positive, Nat.lt_succ_self _, List.mem_cons_self ..⟩
  · rw [Table.lookup_insert] at there
    split at there
    case isTrue eq =>
      subst eq
      exact .inr ⟨payload, List.mem_append_right _ (List.mem_singleton.2 rfl)⟩
    case isFalse =>
      refine (inv.known other a there).imp_right ?_
      rintro ⟨q, mem⟩
      exact ⟨q, List.mem_append_left _ mem⟩
  · rcases append_eq_cases eq with ⟨same, -⟩ | ⟨after', eq⟩
    · cases same
    · exact inv.order before other after' eq
  · rw [Table.lookup_insert] at gone
    split at gone
    case isTrue => cases gone
    case isFalse ne =>
      have lt : other < nextId :=
        (Nat.lt_succ_iff_lt_or_eq.1 lt).resolve_right fun eq => ne eq.symm
      exact (inv.closed other pos lt gone).imp_left (List.mem_append_left _)
  · rcases append_eq_cases eq with ⟨frame, rfl⟩ | ⟨after', eq⟩
    · cases frame
      cases mem with
      | tail _ mem => exact (Nat.ne_of_lt (past opening mem) same).elim
      | head =>
        -- What the daemon has given up is closed at the agent before this frame arrives.
        have range : 1 ≤ other ∧ other < nextId := by
          rcases there with there | ⟨-, q, there⟩
          · obtain ⟨pos, le⟩ := inv.live other there
            exact ⟨pos, Nat.lt_of_le_of_lt le inv.below⟩
          · obtain ⟨pos, lt, -⟩ := inv.datagram other q there
            exact ⟨pos, lt⟩
        cases found : AList.lookup other addresses with
        | some a => exact .inr (AList.mem_keys.1 (Table.mem_iff.2 ⟨a, found⟩))
        | none =>
          refine (inv.closed other range.1 range.2 found).imp_right ?_
          rintro ⟨absent, le⟩
          rcases there with there | ⟨lt, -⟩
          · exact (absent there).elim
          · exact (Nat.not_le_of_lt lt le).elim
    · cases mem with
      | tail _ mem => exact inv.room before n q after' eq new first opening mem same other ne there
      | head =>
        obtain ⟨-, lt, -⟩ := inv.datagram n q (eq ▸ List.mem_append_right _ (List.mem_cons_self ..))
        exact (Nat.lt_irrefl _ (same ▸ lt)).elim

lemma close (inv : UplinkInv frames addresses nextId opened accepted peers highest) {address : α}
    (found : AList.lookup id addresses = some address) :
    UplinkInv (frames ++ [Frame.close id]) (AList.erase id addresses) nextId opened accepted peers
      highest := by
  refine ⟨fun other q mem => ?_, inv.live, inv.below, fun other a there => ?_,
    fun before other after eq => ?_, fun other pos lt gone => ?_,
    fun before n q after eq new first opening mem same other ne there => ?_⟩
  · rcases List.mem_append.1 mem with mem | mem
    · exact inv.datagram other q mem
    · cases List.mem_singleton.1 mem
  · rw [Table.lookup_erase] at there
    split at there
    case isTrue => cases there
    case isFalse =>
      refine (inv.known other a there).imp_right ?_
      rintro ⟨q, mem⟩
      exact ⟨q, List.mem_append_left _ mem⟩
  · rcases append_eq_cases eq with ⟨same, rfl⟩ | ⟨after', eq⟩
    · cases same
      exact inv.known id address found
    · exact inv.order before other after' eq
  · rw [Table.lookup_erase] at gone
    split at gone
    case isTrue eq =>
      subst eq
      exact .inl (List.mem_append_right _ (List.mem_singleton.2 rfl))
    case isFalse => exact (inv.closed other pos lt gone).imp_left (List.mem_append_left _)
  · rcases append_eq_cases eq with ⟨frame, -⟩ | ⟨after', eq⟩
    · cases frame
    · exact inv.room before n q after' eq new first opening mem same other ne there

lemma hear (inv : UplinkInv frames addresses nextId opened accepted peers highest) (absent : id ∉ peers)
    (le : id ≤ highest) : UplinkInv frames (AList.erase id addresses) nextId opened accepted peers highest := by
  refine ⟨inv.datagram, inv.live, inv.below, fun other a there => ?_, inv.order,
    fun other pos lt gone => ?_, inv.room⟩
  · rw [Table.lookup_erase] at there
    split at there
    case isTrue => cases there
    case isFalse => exact inv.known other a there
  · rw [Table.lookup_erase] at gone
    split at gone
    case isTrue eq =>
      subst eq
      exact .inr ⟨absent, le⟩
    case isFalse => exact inv.closed other pos lt gone

lemma shrink (inv : UplinkInv frames addresses nextId opened accepted peers highest)
    {peers' : Table Nat Nat} (subset : ∀ id ∈ peers', id ∈ peers) :
    UplinkInv frames addresses nextId opened accepted peers' highest where
  datagram := inv.datagram
  live id mem := inv.live id (subset id mem)
  below := inv.below
  known := inv.known
  order := inv.order
  closed id pos lt gone := by
    refine (inv.closed id pos lt gone).imp_right ?_
    rintro ⟨absent, le⟩
    exact ⟨fun mem => absent (subset id mem), le⟩
  room before n q after eq new first opening mem same id ne there :=
    inv.room before n q after eq new first opening mem same id ne (there.imp_left (subset id))

lemma takeClose (inv : UplinkInv (.close id :: frames) addresses nextId opened accepted peers highest) :
    UplinkInv frames addresses nextId opened accepted (AList.erase id peers) highest := by
  have le : id ≤ highest := by
    rcases inv.order [] id frames rfl with le | ⟨q, mem⟩
    · exact le
    · cases mem
  have other {m : Nat} (mem : m ∈ AList.erase id peers) : m ≠ id ∧ m ∈ peers := AList.mem_erase.1 mem
  refine ⟨fun m q mem => inv.datagram m q (List.mem_cons_of_mem _ mem), fun m mem => inv.live m (other mem).2,
    inv.below, fun m a found => ?_, fun before m after eq => ?_, fun m pos lt gone => ?_,
    fun before n q after eq new first opening mem same m ne there => ?_⟩
  · refine (inv.known m a found).imp_right ?_
    rintro ⟨q, mem⟩
    exact ⟨q, datagram_of_cons_close mem⟩
  · refine (inv.order (.close id :: before) m after (congrArg _ eq)).imp_right ?_
    rintro ⟨q, mem⟩
    exact ⟨q, datagram_of_cons_close mem⟩
  · rcases inv.closed m pos lt gone with mem | ⟨absent, le⟩
    · cases mem with
      | head => exact .inr ⟨fun mem => (other mem).1 rfl, le⟩
      | tail _ mem => exact .inl mem
    · exact .inr ⟨fun mem => absent (other mem).2, le⟩
  · have first' (q : π) : .datagram n q ∉ .close id :: before :=
      fun mem => first q (datagram_of_cons_close mem)
    have there' : m ∈ peers ∨ highest < m ∧ ∃ q, .datagram m q ∈ .close id :: before :=
      there.imp (fun mem => (other mem).2)
        (And.imp_right fun ⟨q, mem⟩ => ⟨q, List.mem_cons_of_mem _ mem⟩)
    refine (inv.room (.close id :: before) n q after (congrArg _ eq) new first' opening mem same m ne
      there').imp_left fun closed => ?_
    cases closed with
    | tail _ closed => exact closed
    | head =>
      rcases there with there | ⟨lt, -⟩
      · exact ((other there).1 rfl).elim
      · exact (Nat.not_le_of_lt lt le).elim

lemma takeDatagram {payload : π}
    (inv : UplinkInv (.datagram id payload :: frames) addresses nextId opened accepted peers highest)
    (peers' : Table Nat Nat) (grown : ∀ m ∈ peers', m ∈ peers ∨ m = id ∧ highest < id) :
    UplinkInv frames addresses nextId opened accepted peers' (max highest id) := by
  have range := inv.datagram id payload (List.mem_cons_self ..)
  refine ⟨fun m q mem => inv.datagram m q (List.mem_cons_of_mem _ mem), fun m mem => ?_,
    Nat.max_lt.2 ⟨inv.below, range.2.1⟩, fun m a found => ?_, fun before m after eq => ?_,
    fun m pos lt gone => ?_, fun before n q after eq new first opening mem same m ne there => ?_⟩
  · rcases grown m mem with mem | ⟨rfl, -⟩
    · obtain ⟨pos, le⟩ := inv.live m mem
      exact ⟨pos, Nat.le_trans le (Nat.le_max_left ..)⟩
    · exact ⟨range.1, Nat.le_max_right ..⟩
  · rcases inv.known m a found with le | ⟨q, mem⟩
    · exact .inl (Nat.le_trans le (Nat.le_max_left ..))
    · cases mem with
      | head => exact .inl (Nat.le_max_right ..)
      | tail _ mem => exact .inr ⟨q, mem⟩
  · rcases inv.order (.datagram id payload :: before) m after (congrArg _ eq) with le | ⟨q, mem⟩
    · exact .inl (Nat.le_trans le (Nat.le_max_left ..))
    · cases mem with
      | head => exact .inl (Nat.le_max_right ..)
      | tail _ mem => exact .inr ⟨q, mem⟩
  · rcases inv.closed m pos lt gone with mem | ⟨absent, le⟩
    · exact .inl (close_of_cons_datagram mem)
    · refine .inr ⟨fun mem => ?_, Nat.le_trans le (Nat.le_max_left ..)⟩
      rcases grown m mem with mem | ⟨rfl, lt⟩
      · exact absent mem
      · exact Nat.not_le_of_lt lt le
  · obtain ⟨new, newer⟩ := Nat.max_lt.1 new
    have first' (q : π) : .datagram n q ∉ .datagram id payload :: before := by
      intro mem
      cases mem with
      | head => exact Nat.lt_irrefl _ newer
      | tail _ mem => exact first q mem
    have there' : m ∈ peers ∨ highest < m ∧ ∃ q, .datagram m q ∈ .datagram id payload :: before := by
      rcases there with there | ⟨lt, q, there⟩
      · rcases grown m there with there | ⟨rfl, lt⟩
        · exact .inl there
        · exact .inr ⟨lt, payload, List.mem_cons_self ..⟩
      · exact .inr ⟨(Nat.max_lt.1 lt).1, q, List.mem_cons_of_mem _ there⟩
    refine (inv.room (.datagram id payload :: before) n q after (congrArg _ eq) new first' opening mem
      same m ne there').imp_left close_of_cons_datagram

lemma has_room {payload : π}
    (inv : UplinkInv (.datagram id payload :: frames) addresses nextId opened accepted peers highest)
    (all : ∀ id, 1 ≤ id → id < nextId → ∃ opening ∈ opened, opening.id = id)
    (held : ∀ opening ∈ opened, opening.held.length < MAX_PEERS) (new : highest < id) :
    peers.keys.length < MAX_PEERS := by
  obtain ⟨pos, lt, -⟩ := inv.datagram id payload (List.mem_cons_self ..)
  obtain ⟨opening, mem, same⟩ := all id pos lt
  have subset : peers.keys ⊆ opening.held := by
    intro m there
    have there := AList.mem_keys.2 there
    have ne : m ≠ id := fun eq => Nat.not_le_of_lt new (eq ▸ (inv.live m there).2)
    rcases inv.room [] id payload frames rfl new (fun _ => nofun) opening mem same m ne (.inl there) with
      closed | held
    · cases closed
    · exact held
  exact Nat.lt_of_le_of_lt (List.subperm_of_subset peers.keys_nodup subset).length_le (held opening mem)

end UplinkInv

structure AgentInv (agent : Agent π) (connected : List (Nat × Nat)) (closed : List Nat)
    (accepted : List (Nat × π)) : Prop where
  peer : ∀ id task, AList.lookup id agent.peers = some task → task < agent.spawned ∧
    ∀ relay, AList.lookup task agent.tasks = some relay → relay.peerId = id
  /-- A task has the socket of its peer and payloads of its association. -/
  task : ∀ task relay, AList.lookup task agent.tasks = some relay → task < agent.spawned ∧
    (relay.peerId, relay.socket) ∈ connected ∧
      ∀ payload ∈ relay.packets, (relay.peerId, payload) ∈ accepted
  socket : ∀ id socket, (id, socket) ∈ connected → 1 ≤ id ∧ id ≤ agent.highestPeerId ∧
    socket < agent.sockets ∧ agent.initial ≠ some socket
  first : ∀ socket, agent.initial = some socket → socket < agent.sockets
  single : (connected.map Prod.fst).Nodup ∧ (connected.map Prod.snd).Nodup
  gone : ∀ id ∈ closed, id ≤ agent.highestPeerId ∧ id ∉ agent.peers

namespace AgentInv

variable {agent : Agent π} {connected : List (Nat × Nat)} {closed : List Nat}
  {accepted : List (Nat × π)} {id socket : Nat}

lemma accept (inv : AgentInv agent connected closed accepted) (entry : Nat × π) :
    AgentInv agent connected closed (entry :: accepted) where
  peer := inv.peer
  task task relay found := by
    obtain ⟨lt, mine, payloads⟩ := inv.task task relay found
    exact ⟨lt, mine, fun payload mem => List.mem_cons_of_mem _ (payloads payload mem)⟩
  socket := inv.socket
  first := inv.first
  single := inv.single
  gone := inv.gone

lemma retask (inv : AgentInv agent connected closed accepted) {tasks : Table Nat (Relay π)}
    (same : ∀ task relay, AList.lookup task tasks = some relay → ∃ old,
      AList.lookup task agent.tasks = some old ∧ relay.peerId = old.peerId ∧
        relay.socket = old.socket ∧
        ∀ payload ∈ relay.packets, payload ∈ old.packets ∨ (relay.peerId, payload) ∈ accepted) :
    AgentInv { agent with tasks } connected closed accepted where
  peer id task found := by
    obtain ⟨lt, mine⟩ := inv.peer id task found
    refine ⟨lt, fun relay there => ?_⟩
    obtain ⟨old, there', peerId, -⟩ := same task relay there
    exact peerId.trans (mine old there')
  task task relay found := by
    obtain ⟨old, found', peerId, socket, payloads⟩ := same task relay found
    obtain ⟨lt, mine, before⟩ := inv.task task old found'
    refine ⟨lt, by rw [peerId, socket]; exact mine, fun payload mem => ?_⟩
    rcases payloads payload mem with old' | new
    · rw [peerId]
      exact before payload old'
    · exact new
  socket := inv.socket
  first := inv.first
  single := inv.single
  gone := inv.gone

lemma close (inv : AgentInv agent connected closed accepted) (le : id ≤ agent.highestPeerId) :
    AgentInv { agent with peers := AList.erase id agent.peers } connected (id :: closed) accepted where
  peer other task found := by
    rw [Table.lookup_erase] at found
    split at found
    case isTrue => cases found
    case isFalse => exact inv.peer other task found
  task := inv.task
  socket := inv.socket
  first := inv.first
  single := inv.single
  gone other mem := by
    rw [AList.mem_erase]
    cases mem with
    | head => exact ⟨le, fun h => h.1 rfl⟩
    | tail _ mem => exact ⟨(inv.gone other mem).1, fun h => (inv.gone other mem).2 h.2⟩

lemma raise (inv : AgentInv agent connected closed accepted) {highestPeerId : Nat}
    (le : agent.highestPeerId ≤ highestPeerId) :
    AgentInv { agent with highestPeerId } connected closed accepted where
  peer := inv.peer
  task := inv.task
  socket id socket mem := by
    obtain ⟨pos, below, rest⟩ := inv.socket id socket mem
    exact ⟨pos, Nat.le_trans below le, rest⟩
  first := inv.first
  single := inv.single
  gone id mem := ⟨Nat.le_trans (inv.gone id mem).1 le, (inv.gone id mem).2⟩

lemma takeSocket (inv : AgentInv agent connected closed accepted) {connects : Bool} {agent' : Agent π}
    (h : agent.takeSocket connects = some (socket, agent')) :
    AgentInv agent' connected closed accepted ∧ (∀ id, (id, socket) ∉ connected) ∧
      socket < agent'.sockets ∧ agent'.initial ≠ some socket ∧ agent'.peers = agent.peers ∧
      agent'.highestPeerId = agent.highestPeerId := by
  rw [Agent.takeSocket] at h
  split at h
  case h_1 first initial =>
    cases h
    refine ⟨⟨inv.peer, inv.task, fun id s mem => ?_, nofun, inv.single, inv.gone⟩, fun id mem => ?_,
      inv.first socket initial, nofun, rfl, rfl⟩
    · obtain ⟨pos, le, lt, -⟩ := inv.socket id s mem
      exact ⟨pos, le, lt, nofun⟩
    · exact (inv.socket id socket mem).2.2.2 initial
  case h_2 none =>
    split at h
    case isFalse => cases h
    case isTrue =>
      cases h
      refine ⟨⟨inv.peer, inv.task, fun id s mem => ?_, fun s some => ?_, inv.single, inv.gone⟩,
        fun id mem => ?_, Nat.lt_succ_self _, ?_, rfl, rfl⟩
      · obtain ⟨pos, le, lt, free⟩ := inv.socket id s mem
        exact ⟨pos, le, Nat.lt_succ_of_lt lt, free⟩
      · exact Nat.lt_succ_of_lt (inv.first s some)
      · exact Nat.lt_irrefl _ (inv.socket id _ mem).2.2.1
      · change agent.initial ≠ _
        rw [none]
        exact nofun

lemma spawn (inv : AgentInv agent connected closed accepted) (payload : π) (range : 1 ≤ id ∧ id ≤ agent.highestPeerId)
    (new : ∀ s, (id, s) ∉ connected) (unused : ∀ m, (m, socket) ∉ connected) (made : socket < agent.sockets)
    (taken : agent.initial ≠ some socket) (open_ : id ∉ closed) (mem : (id, payload) ∈ accepted) :
    AgentInv (agent.spawn id socket payload) ((id, socket) :: connected) closed accepted where
  peer other task found := by
    rw [Agent.spawn, Table.lookup_insert] at found
    rw [Agent.spawn]
    split at found
    case isTrue eq =>
      cases found
      refine ⟨Nat.lt_succ_self _, fun relay there => ?_⟩
      rw [Table.lookup_insert, if_pos rfl] at there
      cases there
      exact eq
    case isFalse =>
      obtain ⟨lt, mine⟩ := inv.peer other task found
      refine ⟨Nat.lt_succ_of_lt lt, fun relay there => ?_⟩
      rw [Table.lookup_insert, if_neg (Nat.ne_of_gt lt)] at there
      exact mine relay there
  task task relay found := by
    rw [Agent.spawn, Table.lookup_insert] at found
    split at found
    case isTrue eq =>
      cases found
      subst eq
      refine ⟨Nat.lt_succ_self _, List.mem_cons_self .., fun q there => ?_⟩
      cases List.mem_singleton.1 there
      exact mem
    case isFalse =>
      obtain ⟨lt, mine, payloads⟩ := inv.task task relay found
      exact ⟨Nat.lt_succ_of_lt lt, List.mem_cons_of_mem _ mine, payloads⟩
  socket other s there := by
    cases there with
    | head => exact ⟨range.1, range.2, made, taken⟩
    | tail _ there => exact inv.socket other s there
  first := inv.first
  single := by
    refine ⟨List.nodup_cons.2 ⟨fun there => ?_, inv.single.1⟩,
      List.nodup_cons.2 ⟨fun there => ?_, inv.single.2⟩⟩
    · obtain ⟨⟨m, s⟩, entry, rfl⟩ := List.mem_map.1 there
      exact new s entry
    · obtain ⟨⟨m, s⟩, entry, rfl⟩ := List.mem_map.1 there
      exact unused m entry
  gone other there := by
    refine ⟨(inv.gone other there).1, fun mem => ?_⟩
    rw [Agent.spawn, AList.mem_insert] at mem
    rcases mem with rfl | mem
    · exact open_ there
    · exact (inv.gone other there).2 mem

end AgentInv

/-- The frames that the daemon has not taken yet. -/
structure DownlinkInv (frames : List (Frame π)) (peers : Table Nat Nat) (highest : Nat)
    (connected : List (Nat × Nat)) (received : List (Nat × π)) : Prop where
  /-- The agent closes an association after it has given it up. -/
  close : ∀ id, .close id ∈ frames → id ≤ highest ∧ id ∉ peers
  /-- A reply was received from the socket of its peer. -/
  datagram : ∀ id payload, .datagram id payload ∈ frames →
    ∃ socket, (id, socket) ∈ connected ∧ (socket, payload) ∈ received

namespace DownlinkInv

variable {frames frames' : List (Frame π)} {peers peers' : Table Nat Nat} {highest highest' : Nat}
  {connected connected' : List (Nat × Nat)} {received received' : List (Nat × π)}

lemma mono (inv : DownlinkInv frames peers highest connected received) (fewer : ∀ frame ∈ frames', frame ∈ frames)
    (le : highest ≤ highest') (grown : ∀ id ∈ peers', id ∈ peers ∨ highest < id)
    (more : ∀ entry ∈ connected, entry ∈ connected') (more' : ∀ entry ∈ received, entry ∈ received') :
    DownlinkInv frames' peers' highest' connected' received' where
  close id mem := by
    obtain ⟨below, absent⟩ := inv.close id (fewer _ mem)
    refine ⟨Nat.le_trans below le, fun mem => ?_⟩
    rcases grown id mem with mem | lt
    · exact absent mem
    · exact Nat.not_le_of_lt lt below
  datagram id payload mem := by
    obtain ⟨socket, mine, got⟩ := inv.datagram id payload (fewer _ mem)
    exact ⟨socket, more _ mine, more' _ got⟩

lemma say (inv : DownlinkInv frames peers highest connected received) {id : Nat}
    (le : id ≤ highest) (absent : id ∉ peers) (same : ∀ frame ∈ frames', frame ∈ frames ∨
      frame = .close id) : DownlinkInv frames' peers highest connected received where
  close other mem := by
    rcases same _ mem with mem | eq
    · exact inv.close other mem
    · cases eq
      exact ⟨le, absent⟩
  datagram other payload mem := by
    rcases same _ mem with mem | eq
    · exact inv.datagram other payload mem
    · cases eq

end DownlinkInv

/-! ### The invariant of the protocol -/

section world

variable [DecidableEq α]

def World.up (w : World α π) : List (Frame π) := w.uplink ++ w.outgoing

def World.down (w : World α π) : List (Frame π) := w.downlink ++ w.output ++ w.sending.toList

/-- What holds in every state. -/
structure Inv (w : World α π) : Prop where
  daemon : DaemonInv w.daemon.peers w.daemon.addresses w.daemon.nextId w.history.opened
    w.history.dropped
  up : UplinkInv w.up w.daemon.addresses w.daemon.nextId w.history.opened w.history.accepted
    w.agent.peers w.agent.highestPeerId
  agent : AgentInv w.agent w.history.connected w.history.closed w.history.accepted
  down : DownlinkInv w.down w.agent.peers w.agent.highestPeerId w.history.connected
    w.history.received
  sent : ∀ socket payload, (socket, payload) ∈ w.history.sent → ∃ id,
    (id, socket) ∈ w.history.connected ∧ (id, payload) ∈ w.history.accepted
  delivered : ∀ client payload, (client, payload) ∈ w.history.delivered → ∃ id socket,
    (id, socket) ∈ w.history.connected ∧ w.history.Client id client ∧
      (socket, payload) ∈ w.history.received
  refused : w.history.refused = []

namespace Inv

variable {w : World α π}

lemma separate (inv : Inv w) : w.Separate where
  inverse := inv.daemon.inverse
  bounded := inv.daemon.bounded
  fresh := inv.daemon.fresh
  single := inv.agent.single
  sent socket payload mem := by
    obtain ⟨id, mine, accepted⟩ := inv.sent socket payload mem
    obtain ⟨pos, le, -⟩ := inv.agent.socket id socket mine
    obtain ⟨⟨_, client, held⟩, opened, rfl⟩ :=
      inv.daemon.all id pos (Nat.lt_of_le_of_lt le inv.up.below)
    exact ⟨_, client, mine, ⟨held, opened⟩, accepted⟩
  delivered := inv.delivered
  dropped id mem := (inv.daemon.gone id mem).2
  closed id mem := (inv.agent.gone id mem).2
  refused := inv.refused

omit [DecidableEq α] in
lemma trySend_spec {w' : World α π} {frame : Frame π} (h : w.trySend frame = some w') :
    w' = { w with outgoing := w.outgoing ++ [frame] } := by
  rw [World.trySend] at h
  split at h
  · exact (Option.some.inj h).symm
  · cases h

variable {w' : World α π} {size : π → Nat} {task : Nat} {ok : Bool} {id : Nat} {rest : List (Frame π)}

lemma receiveLocal (inv : Inv w) {address : α} {payload : π} (h : w.receiveLocal size address payload = some w') :
    Inv w' := by
  have more (frame : Frame π) : w.uplink ++ (w.outgoing ++ [frame]) = w.up ++ [frame] :=
    (List.append_assoc ..).symm
  rw [World.receiveLocal] at h
  split at h
  · cases h
    exact inv
  split at h
  case h_1 =>
    cases h
    exact inv
  case h_2 id new identified =>
    split at h
    case h_1 =>
      cases h
      exact inv
    case h_2 queued sent =>
      cases trySend_spec sent
      dsimp only at h
      rw [Daemon.identify] at identified
      cases found : AList.lookup address w.daemon.peers with
      | some peer =>
        rw [found] at identified
        cases identified
        rw [if_pos (by decide)] at h
        cases h
        have known : AList.lookup peer.id w.daemon.addresses = some address := by
          rw [← inv.daemon.inverse, found]
          rfl
        obtain ⟨lt, held, opened⟩ := inv.daemon.known _ _ known
        refine ⟨inv.daemon.refresh (fun a => ?_) (Table.length_update found _), ?_,
          inv.agent.accept _, inv.down, fun s p mem => ?_, inv.delivered, inv.refused⟩
        · rw [Table.lookup_insert]
          split
          case isTrue eq =>
            subst eq
            rw [found]
            rfl
          case isFalse => rfl
        · change UplinkInv (w.uplink ++ (w.outgoing ++ [_])) _ _ _ _ _ _
          rw [more]
          exact inv.up.send known ⟨(inv.daemon.past _ opened).1, lt⟩ payload
        · obtain ⟨id, mine, accepted⟩ := inv.sent s p mem
          exact ⟨id, mine, List.mem_cons_of_mem _ accepted⟩
      | none =>
        rw [found] at identified
        dsimp only at identified
        split at identified
        case isFalse => cases identified
        case isTrue room =>
          cases identified
          rw [if_neg (by decide)] at h
          split at h
          case isTrue => cases h
          case isFalse =>
            cases h
            refine ⟨inv.daemon.open_ w.clock found room, ?_, inv.agent.accept _, inv.down,
              fun s p mem => ?_, fun client p mem => ?_, inv.refused⟩
            · change UplinkInv (w.uplink ++ (w.outgoing ++ [_])) _ _ _ _ _ _
              rw [more]
              exact inv.up.open_ (fun opening mem => (inv.daemon.past opening mem).2.1)
                inv.daemon.positive address payload
            · obtain ⟨id, mine, accepted⟩ := inv.sent s p mem
              exact ⟨id, mine, List.mem_cons_of_mem _ accepted⟩
            · obtain ⟨id, socket, mine, ⟨held, opened⟩, got⟩ := inv.delivered client p mem
              exact ⟨id, socket, mine, ⟨held, List.mem_cons_of_mem _ opened⟩, got⟩

lemma expirePeer (inv : Inv w) {address : α} (h : w.expirePeer address = some w') : Inv w' := by
  rw [World.expirePeer] at h
  split at h
  case h_1 => cases h
  case h_2 peer found =>
    split at h
    case isTrue =>
      cases h
      exact inv
    case isFalse =>
      split at h
      case h_1 =>
        cases h
        exact inv
      case h_2 queued sent =>
        cases trySend_spec sent
        cases h
        have known : AList.lookup peer.id w.daemon.addresses = some address := by
          rw [← inv.daemon.inverse, found]
          rfl
        refine ⟨inv.daemon.drop known, ?_, inv.agent, inv.down, inv.sent, inv.delivered, inv.refused⟩
        change UplinkInv (w.uplink ++ (w.outgoing ++ [_])) _ _ _ _ _ _
        rw [← List.append_assoc]
        exact inv.up.close known

lemma takeDown {frame : Frame π} (inv : Inv w) (downlink : w.downlink = frame :: rest) :
    frame ∈ w.down ∧ DownlinkInv (rest ++ w.output ++ w.sending.toList) w.agent.peers w.agent.highestPeerId
      w.history.connected w.history.received := by
  rw [World.down, downlink]
  refine ⟨List.mem_cons_self .., ?_⟩
  refine inv.down.mono (fun frame mem => ?_) (Nat.le_refl _) (fun _ mem => .inl mem) (fun _ mem => mem)
    fun _ mem => mem
  rw [World.down, downlink]
  exact List.mem_cons_of_mem _ mem

lemma receiveFrame (inv : Inv w) (h : w.receiveFrame ok = some w') : Inv w' := by
  rw [World.receiveFrame] at h
  split at h
  case h_1 => cases h
  case h_2 id payload rest downlink =>
    obtain ⟨mine, fewer⟩ := inv.takeDown downlink
    split at h
    case h_1 address known =>
      split at h
      case isFalse =>
        cases h
        exact ⟨inv.daemon, inv.up, inv.agent, fewer, inv.sent, inv.delivered, inv.refused⟩
      case isTrue =>
        cases h
        obtain ⟨socket, connected, received⟩ := inv.down.datagram id payload mine
        refine ⟨inv.daemon.refresh (Table.map_lookup_modify fun _ => rfl) (Table.length_modify ..),
          inv.up, inv.agent, fewer, inv.sent, fun client p mem => ?_, inv.refused⟩
        cases mem with
        | head => exact ⟨id, socket, connected, (inv.daemon.known id address known).2, received⟩
        | tail _ mem => exact inv.delivered client p mem
    case h_2 =>
      cases h
      exact ⟨inv.daemon, inv.up, inv.agent, fewer, inv.sent, inv.delivered, inv.refused⟩
  case h_3 id rest downlink =>
    obtain ⟨mine, fewer⟩ := inv.takeDown downlink
    split at h
    case h_1 address known =>
      cases h
      obtain ⟨le, absent⟩ := inv.down.close id mine
      exact ⟨inv.daemon.drop known, inv.up.hear absent le, inv.agent, fewer, inv.sent, inv.delivered,
        inv.refused⟩
    case h_2 =>
      cases h
      exact ⟨inv.daemon, inv.up, inv.agent, fewer, inv.sent, inv.delivered, inv.refused⟩

lemma manageClose (inv : Inv w) (uplink : w.uplink = .close id :: rest) {tasks : Table Nat (Relay π)}
    (same : ∀ task relay, AList.lookup task tasks = some relay → ∃ old,
      AList.lookup task w.agent.tasks = some old ∧ relay.peerId = old.peerId ∧
        relay.socket = old.socket ∧ relay.packets = old.packets) :
    Inv { w with
      uplink := rest
      agent := { w.agent with peers := AList.erase id w.agent.peers, tasks }
      history := { w.history with closed := id :: w.history.closed } } := by
  have up := inv.up
  rw [World.up, uplink, List.cons_append] at up
  have le : id ≤ w.agent.highestPeerId := by
    rcases up.order [] id _ rfl with le | ⟨q, mem⟩
    · exact le
    · cases mem
  refine ⟨inv.daemon, up.takeClose, ?_, ?_, inv.sent, inv.delivered, inv.refused⟩
  · refine (inv.agent.close le).retask fun task relay found => ?_
    obtain ⟨old, found', peerId, socket, packets⟩ := same task relay found
    exact ⟨old, found', peerId, socket, fun payload mem => .inl (packets ▸ mem)⟩
  · refine inv.down.mono (fun _ mem => mem) (Nat.le_refl _) (fun other mem => ?_) (fun _ mem => mem)
      fun _ mem => mem
    exact .inl (AList.mem_erase.1 mem).2

lemma uplink_close_absent (inv : Inv w) (uplink : w.uplink = .close id :: rest)
    (absent : AList.lookup id w.agent.peers = none) : Inv { w with uplink := rest } := by
  have up := inv.up
  rw [World.up, uplink, List.cons_append] at up
  have same (m : Nat) (mem : m ∈ w.agent.peers) : m ∈ AList.erase id w.agent.peers := by
    refine AList.mem_erase.2 ⟨?_, mem⟩
    rintro rfl
    exact AList.lookup_eq_none.1 absent mem
  refine ⟨inv.daemon, up.takeClose.shrink same, inv.agent, inv.down, inv.sent, inv.delivered,
    inv.refused⟩

lemma managePacket (inv : Inv w) {connects : Bool} (h : w.managePacket connects = some w') : Inv w' := by
  rw [World.managePacket] at h
  split at h
  case isTrue => cases h
  case isFalse idle =>
    have idle := Option.not_isSome_iff_eq_none.1 idle
    split at h
    case h_1 => cases h
    case h_2 id rest uplink =>
      split at h
      case h_1 task found =>
        cases h
        refine inv.manageClose uplink fun task' relay there => ?_
        rw [Table.lookup_modify] at there
        split at there
        case isTrue eq =>
          subst eq
          obtain ⟨old, before, rfl⟩ := Option.map_eq_some_iff.1 there
          exact ⟨old, before, rfl, rfl, rfl⟩
        case isFalse => exact ⟨relay, there, rfl, rfl, rfl⟩
      case h_2 absent =>
        cases h
        exact inv.uplink_close_absent uplink absent
    case h_3 id payload rest uplink =>
      have up := inv.up
      rw [World.up, uplink, List.cons_append] at up
      obtain ⟨pos, below, accepted⟩ := up.datagram id payload (List.mem_cons_self ..)
      split at h
      case h_1 task found =>
        cases h
        have there : id ∈ w.agent.peers := Table.mem_iff.2 ⟨task, found⟩
        have le : id ≤ w.agent.highestPeerId := (up.live id there).2
        refine ⟨inv.daemon, ?_, ?_, inv.down, inv.sent, inv.delivered, inv.refused⟩
        · have taken := up.takeDatagram w.agent.peers fun m mem => .inl mem
          rw [Nat.max_eq_left le] at taken
          exact taken
        · refine inv.agent.retask fun task' relay there => ?_
          rw [Table.lookup_modify] at there
          split at there
          case isTrue eq =>
            subst eq
            obtain ⟨old, before, rfl⟩ := Option.map_eq_some_iff.1 there
            have mine := (inv.agent.peer id task' found).2 old before
            rw [Relay.push]
            split
            · refine ⟨old, before, rfl, rfl, fun q mem => ?_⟩
              rcases List.mem_append.1 mem with mem | mem
              · exact .inl mem
              · cases List.mem_singleton.1 mem
                exact .inr (mine ▸ accepted)
            · exact ⟨old, before, rfl, rfl, fun q mem => .inl mem⟩
          case isFalse => exact ⟨relay, there, rfl, rfl, fun q mem => .inl mem⟩
      case h_2 absent =>
        have absent := AList.lookup_eq_none.1 absent
        have kept := up.takeDatagram w.agent.peers fun m mem => .inl mem
        have say {highest : Nat} (le : w.agent.highestPeerId ≤ highest) (mine : id ≤ highest) :
            DownlinkInv (w.downlink ++ w.output ++ (some (Frame.close id)).toList) w.agent.peers highest
              w.history.connected w.history.received := by
          refine DownlinkInv.say (inv.down.mono (fun _ mem => mem) le (fun _ mem => .inl mem)
            (fun _ mem => mem) fun _ mem => mem) mine absent fun frame mem => ?_
          rw [World.down, idle, Option.toList_none, List.append_nil]
          exact (List.mem_append.1 mem).imp_right List.mem_singleton.1
        split at h
        case isTrue full =>
          cases h
          refine ⟨inv.daemon, kept, inv.agent.raise (Nat.le_max_left ..),
            say (Nat.le_max_left ..) (Nat.le_max_right ..), inv.sent, inv.delivered, ?_⟩
          split
          case isTrue => exact inv.refused
          case isFalse new =>
            -- The daemon has opened the association while it had fewer than `MAX_PEERS`.
            have room := up.has_room inv.daemon.all
              (fun opening mem => (inv.daemon.past opening mem).2.2) (Nat.lt_of_not_le new)
            exact (Nat.not_le_of_lt room (full.resolve_left new)).elim
        case isFalse free =>
          obtain ⟨new, -⟩ := not_or.1 free
          have new := Nat.lt_of_not_le new
          have le := Nat.le_of_lt new
          rw [Nat.max_eq_right le] at kept
          split at h
          case h_1 =>
            cases h
            exact ⟨inv.daemon, kept, inv.agent.raise le, say le (Nat.le_refl _), inv.sent,
              inv.delivered, inv.refused⟩
          case h_2 socket agent taken =>
            cases h
            obtain ⟨ready, unused, made, gone, peers, highest⟩ :=
              (inv.agent.raise le).takeSocket taken
            have grown (m : Nat) (mem : m ∈ (agent.spawn id socket payload).peers) :
                m ∈ w.agent.peers ∨ m = id ∧ w.agent.highestPeerId < id := by
              rw [Agent.spawn, AList.mem_insert, peers] at mem
              exact mem.symm.imp_right fun eq => ⟨eq, new⟩
            have spawned := ready.spawn payload ⟨pos, Nat.le_of_eq highest.symm⟩
              (fun s mem => Nat.not_le_of_lt new (inv.agent.socket id s mem).2.1) unused made gone
              (fun mem => Nat.not_le_of_lt new (inv.agent.gone id mem).1) accepted
            refine ⟨inv.daemon, ?_, spawned, ?_, fun s q mem => ?_, fun client q mem => ?_,
              inv.refused⟩
            · have taken' := up.takeDatagram _ grown
              rw [Nat.max_eq_right le] at taken'
              change UplinkInv _ _ _ _ _ _ agent.highestPeerId
              rw [highest]
              exact taken'
            · refine inv.down.mono (fun _ mem => mem) (Nat.le_trans le (Nat.le_of_eq highest.symm))
                (fun m mem => ?_) (fun _ mem => List.mem_cons_of_mem _ mem) fun _ mem => mem
              exact (grown m mem).imp_right fun ⟨eq, lt⟩ => eq ▸ lt
            · obtain ⟨m, mine, mem⟩ := inv.sent s q mem
              exact ⟨m, List.mem_cons_of_mem _ mine, mem⟩
            · obtain ⟨m, s, mine, client, got⟩ := inv.delivered client q mem
              exact ⟨m, s, List.mem_cons_of_mem _ mine, client, got⟩

lemma replaceTask (inv : Inv w) {old : Relay π} (found : AList.lookup task w.agent.tasks = some old) (relay : Relay π)
    (peerId : relay.peerId = old.peerId) (socket : relay.socket = old.socket)
    (fewer : ∀ payload ∈ relay.packets, payload ∈ old.packets) :
    Inv { w with agent := { w.agent with tasks := AList.insert task relay w.agent.tasks } } := by
  refine ⟨inv.daemon, inv.up, inv.agent.retask fun task' relay' there => ?_, inv.down, inv.sent,
    inv.delivered, inv.refused⟩
  rw [Table.lookup_insert] at there
  split at there
  case isTrue eq =>
    subst eq
    cases there
    exact ⟨old, found, peerId, socket, fun payload mem => .inl (fewer payload mem)⟩
  case isFalse => exact ⟨relay', there, rfl, rfl, fun payload mem => .inl mem⟩

lemma forgetTask (inv : Inv w) (task : Nat) :
    Inv { w with agent := { w.agent with tasks := AList.erase task w.agent.tasks } } := by
  refine ⟨inv.daemon, inv.up, inv.agent.retask fun task' relay there => ?_, inv.down, inv.sent,
    inv.delivered, inv.refused⟩
  rw [Table.lookup_erase] at there
  split at there
  case isTrue => cases there
  case isFalse => exact ⟨relay, there, rfl, rfl, fun payload mem => .inl mem⟩

lemma joinTask (inv : Inv w) (h : w.joinTask task = some w') : Inv w' := by
  rw [World.joinTask] at h
  split at h
  case isTrue => cases h
  case isFalse idle =>
    have idle := Option.not_isSome_iff_eq_none.1 idle
    split at h
    case h_1 => cases h
    case h_2 relay found =>
      have forgotten := inv.forgetTask task
      split at h
      case isTrue => cases h
      case isFalse =>
        dsimp only at h
        split at h
        case h_1 =>
          cases h
          exact forgotten
        case h_2 id finished =>
          split at h
          case isFalse =>
            cases h
            exact forgotten
          case isTrue there =>
            cases h
            have le := (inv.up.live id there).2
            have absent : id ∉ AList.erase id w.agent.peers := fun mem => (AList.mem_erase.1 mem).1 rfl
            refine ⟨inv.daemon, inv.up.shrink fun m mem => (AList.mem_erase.1 mem).2,
              forgotten.agent.close le, ?_, inv.sent, inv.delivered, inv.refused⟩
            refine DownlinkInv.say (inv.down.mono (fun _ mem => mem) (Nat.le_refl _)
              (fun m mem => .inl (AList.mem_erase.1 mem).2) (fun _ mem => mem) fun _ mem => mem) le absent
              fun frame mem => ?_
            rw [World.down, idle, Option.toList_none, List.append_nil]
            exact (List.mem_append.1 mem).imp_right List.mem_singleton.1

lemma moved (inv : Inv w) (sending : Option (Frame π)) (output downlink : List (Frame π))
    (same : ∀ frame ∈ downlink ++ output ++ sending.toList, frame ∈ w.down) :
    Inv { w with sending, output, downlink } := by
  refine ⟨inv.daemon, inv.up, inv.agent, ?_, inv.sent, inv.delivered, inv.refused⟩
  exact inv.down.mono same (Nat.le_refl _) (fun _ mem => .inl mem) (fun _ mem => mem) fun _ mem => mem

lemma flush (inv : Inv w) (h : w.flush = some w') : Inv w' := by
  rw [World.flush] at h
  split at h
  case h_1 => cases h
  case h_2 frame sending =>
    split at h
    case isFalse => cases h
    case isTrue =>
      cases h
      refine inv.moved none _ w.downlink fun f mem => ?_
      rw [World.down, sending, Option.toList_some, List.append_assoc]
      rw [Option.toList_none, List.append_nil] at mem
      exact mem

lemma transmit (inv : Inv w) (h : w.transmit task = some w') : Inv w' := by
  rw [World.transmit] at h
  split at h
  case h_2 => cases h
  case h_1 peerId socket payload packets aborted found =>
    cases h
    obtain ⟨-, mine, accepted⟩ := inv.agent.task task _ found
    have changed := inv.replaceTask found ⟨peerId, socket, packets, aborted, none⟩ rfl rfl
      fun q mem => List.mem_cons_of_mem _ mem
    refine ⟨inv.daemon, inv.up, changed.agent, inv.down, fun s q mem => ?_, inv.delivered, inv.refused⟩
    cases mem with
    | head => exact ⟨peerId, mine, accepted payload (List.mem_cons_self ..)⟩
    | tail _ mem => exact inv.sent s q mem

lemma reply (inv : Inv w) {payload : π} (h : w.reply size task payload = some w') : Inv w' := by
  rw [World.reply] at h
  split at h
  case h_2 => cases h
  case h_1 peerId socket packets aborted found =>
    have mine := (inv.agent.task task _ found).2.1
    have delivered (client : α) (q : π) (mem : (client, q) ∈ w.history.delivered) : ∃ id s,
        (id, s) ∈ w.history.connected ∧ w.history.Client id client ∧
          (s, q) ∈ (socket, payload) :: w.history.received := by
      obtain ⟨id, s, mine, client, got⟩ := inv.delivered client q mem
      exact ⟨id, s, mine, client, List.mem_cons_of_mem _ got⟩
    have down : DownlinkInv w.down w.agent.peers w.agent.highestPeerId w.history.connected
        ((socket, payload) :: w.history.received) :=
      inv.down.mono (fun _ mem => mem) (Nat.le_refl _) (fun _ mem => .inl mem) (fun _ mem => mem)
        fun _ mem => List.mem_cons_of_mem _ mem
    dsimp only at h
    split at h
    case isTrue =>
      cases h
      exact ⟨inv.daemon, inv.up, inv.agent, down, inv.sent, delivered, inv.refused⟩
    case isFalse =>
      cases h
      have old {frame : Frame π} (mem : frame ∈ w.downlink ++ (w.output ++ [Frame.datagram peerId payload]) ++
          w.sending.toList) : frame ∈ w.down ∨ frame = .datagram peerId payload := by
        simp only [World.down, List.mem_append, List.mem_singleton] at mem ⊢
        tauto
      refine ⟨inv.daemon, inv.up, inv.agent, ⟨fun id mem => ?_, fun id q mem => ?_⟩, inv.sent, delivered,
        inv.refused⟩
      · rcases old mem with mem | eq
        · exact down.close id mem
        · cases eq
      · rcases old mem with mem | eq
        · exact down.datagram id q mem
        · cases eq
          exact ⟨socket, mine, List.mem_cons_self ..⟩

lemma endTask (inv : Inv w) (h : w.endTask task ok = some w') : Inv w' := by
  rw [World.endTask] at h
  split at h
  case h_2 => cases h
  case h_1 peerId socket packets aborted found =>
    cases h
    exact inv.replaceTask found _ rfl rfl fun q mem => mem

lemma step {action : Action α π} (inv : Inv w) (h : step size w action = some w') : Inv w' := by
  cases action with
  | elapse time =>
    cases h
    exact ⟨inv.daemon, inv.up, inv.agent, inv.down, inv.sent, inv.delivered, inv.refused⟩
  | receiveLocal address payload => exact inv.receiveLocal h
  | expirePeer address => exact inv.expirePeer h
  | receiveFrame ok => exact inv.receiveFrame h
  | upload =>
    simp only [Forward.step] at h
    split at h
    case h_1 => cases h
    case h_2 frame outgoing queued =>
      cases h
      refine ⟨inv.daemon, ?_, inv.agent, inv.down, inv.sent, inv.delivered, inv.refused⟩
      have up := inv.up
      rw [World.up, queued, ← List.singleton_append, ← List.append_assoc] at up
      exact up
  | managePacket connects => exact inv.managePacket h
  | joinTask task => exact inv.joinTask h
  | flush => exact inv.flush h
  | download =>
    simp only [Forward.step] at h
    split at h
    case h_1 => cases h
    case h_2 frame output queued =>
      cases h
      refine inv.moved w.sending _ _ fun f mem => ?_
      rw [List.append_assoc w.downlink, List.singleton_append, ← queued] at mem
      exact mem
  | transmit task => exact inv.transmit h
  | reply task payload => exact inv.reply h
  | endTask task ok => exact inv.endTask h

lemma initial (init : Initial w) : Inv w := by
  obtain ⟨clock, rfl⟩ := init
  refine ⟨⟨fun a id => ⟨nofun, nofun⟩, Nat.zero_le _, rfl, nofun, nofun, fun id pos lt => ?_,
    Nat.le_refl 1, .nil, nofun⟩, ⟨nofun, nofun, Nat.one_pos, nofun, fun before id after eq => ?_,
    fun id pos lt => ?_, fun before n q after eq => ?_⟩, ⟨nofun, nofun, nofun, fun socket some => ?_,
    ⟨.nil, .nil⟩, nofun⟩, ⟨nofun, nofun⟩, nofun, nofun, rfl⟩
  · exact (Nat.not_lt_of_le pos lt).elim
  · cases before <;> cases eq
  · exact (Nat.not_lt_of_le pos lt).elim
  · cases before <;> cases eq
  · cases some
    exact Nat.one_pos

end Inv

/-- Associations never cross, in every run. -/
theorem reachable_separate (size : π → Nat) {w : World α π} (run : Reachable (step size) Initial w) : w.Separate :=
  (run.invariant Inv (fun _ => Inv.initial) fun _ _ _ inv h => inv.step h).separate

end world

/-- Two clients send a datagram each, and a reply arrives for the second one after the association of
    the first one is closed. -/
def twoClients : List (Action String String) :=
  [.receiveLocal "a" "x", .receiveLocal "b" "y", .upload, .upload, .managePacket true,
    .managePacket true, .transmit 0, .transmit 1, .elapse PEER_IDLE, .expirePeer "a", .reply 1 "z",
    .reply 0 "w", .download, .download, .receiveFrame true, .receiveFrame true]

theorem reachable_separate_twoClients :
    ∃ w, exec (step String.length) (initial 0) twoClients = some w ∧
      w.history.sent = [(1, "y"), (0, "x")] ∧ w.history.delivered = [("b", "z")] ∧ w.Separate := by
  obtain ⟨w, run⟩ : ∃ w, exec (step String.length) (initial 0) twoClients = some w :=
    Option.isSome_iff_exists.1 (by decide +kernel)
  have seen : (exec (step String.length) (initial 0) twoClients).map
      (fun w => (w.history.sent, w.history.delivered)) =
        some ([(1, "y"), (0, "x")], [("b", "z")]) := by decide +kernel
  rw [run] at seen
  obtain ⟨sent, delivered⟩ := Prod.mk.inj (Option.some.inj seen)
  exact ⟨w, run, sent, delivered,
    reachable_separate String.length (Reachable.exec (.start ⟨0, rfl⟩) _ run)⟩

end Ctl.Forward
