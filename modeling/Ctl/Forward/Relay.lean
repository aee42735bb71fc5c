import Ctl.Base.System
import Ctl.Base.Table
import Mathlib.Algebra.GroupWithZero.Nat

/-!
# UDP forwarding

Model of `relay_socket` in `ctl/daemon/src/udp_forwarding.rs` and of `relay_multiplexed`,
`manage_peers` and `relay_peer` in `ctl/agent/src/forwarding.rs` as one transition system of two
parties that are joined by two channels of frames. Its steps are the branches of the two loops and of
the tasks that serve the peers; a branch that waits for room in the output queue is two steps. The
addresses of local clients and the payloads are of any type, and a payload is only asked for its size.
An error that ends one of the loops ends the run.

The daemon looks at one association at a time when it expires associations, in any order and at any
time after the association is idle. A task may end at any time, since its socket may fail at any time. Frames that
the daemon has sent and the agent has not taken are in order in `uplink` and `outgoing`, those of the
agent are in `downlink` and `output`.
-/

namespace Ctl.Forward
open Ctl.Base

/-- Rust `MAX_DATAGRAM_BYTES`. -/
def MAX_DATAGRAM_BYTES : Nat := 65507

/-- Rust `MAX_PEERS`. -/
def MAX_PEERS : Nat := 64

/-- Rust `PEER_IDLE`, in nanoseconds. -/
def PEER_IDLE : Nat := 60 * 1000000000

/-- The queue of a peer (Rust `PEER_QUEUE`). -/
def PEER_QUEUE : Nat := 8

/-- The frames that wait to be written by the daemon (Rust `CHANNEL_QUEUE`). -/
def CHANNEL_QUEUE : Nat := MAX_PEERS * PEER_QUEUE

/-- The frames that wait to be written by the agent (Rust `STREAM_QUEUE`). -/
def STREAM_QUEUE : Nat := 64

/-- One datagram of a peer, or the end of its association (Rust `Frame`). -/
inductive Frame (π : Type)
  | datagram (peerId : Nat) (payload : π)
  | close (peerId : Nat)

/-- An association of the daemon (Rust `Peer` in `udp_forwarding.rs`). -/
structure Association where
  id : Nat
  lastActivity : Nat

/-- The state of `relay_socket`. -/
structure Daemon (α : Type) where
  peers : Table α Association
  addresses : Table Nat α
  nextId : Nat

/-- A task that runs `relay_peer`. -/
structure Relay (π : Type) where
  peerId : Nat
  socket : Nat
  packets : List π
  aborted : Bool
  /-- Whether the task has returned, and not failed, once it has ended. -/
  ended : Option Bool

/-- The state of `manage_peers`. -/
structure Agent (π : Type) where
  /-- The socket that was connected first. -/
  initial : Option Nat
  /-- The number of sockets that were connected. -/
  sockets : Nat
  highestPeerId : Nat
  /-- The tasks of the peers. -/
  peers : Table Nat Nat
  tasks : Table Nat (Relay π)
  spawned : Nat

/-- Ghost: an association that the daemon has opened, with the associations that it had then. -/
structure Opening (α : Type) where
  id : Nat
  client : α
  held : List Nat

/-- Ghost: what has happened. -/
structure History (α π : Type) where
  opened : List (Opening α)
  /-- The datagrams of local clients that were sent to the agent, by association. -/
  accepted : List (Nat × π)
  /-- The associations that the daemon has given up. -/
  dropped : List Nat
  /-- The sockets that the agent has opened for peers. -/
  connected : List (Nat × Nat)
  /-- The peers that the agent has given up. -/
  closed : List Nat
  /-- The peers that the agent has refused for capacity. -/
  refused : List Nat
  /-- What was sent through the remote sockets. -/
  sent : List (Nat × π)
  /-- What was received from the remote sockets. -/
  received : List (Nat × π)
  /-- What was sent to local clients. -/
  delivered : List (α × π)

/-- The two parties, the channels between them and the clock. -/
structure World (α π : Type) where
  daemon : Daemon α
  outgoing : List (Frame π)
  uplink : List (Frame π)
  agent : Agent π
  /-- The frame that `manage_peers` waits to send. -/
  sending : Option (Frame π)
  output : List (Frame π)
  downlink : List (Frame π)
  clock : Nat
  history : History α π

variable {α π : Type} [DecidableEq α]

/-! ### The daemon -/

variable (w : World α π) (agent : Agent π) (size : π → Nat) (task : Nat)

/-- The frame is queued if there is room for it (Rust `try_send`). -/
def World.trySend (frame : Frame π) : Option (World α π) :=
  if w.outgoing.length < CHANNEL_QUEUE then some { w with outgoing := w.outgoing ++ [frame] }
  else none

def Daemon.identify (daemon : Daemon α) (address : α) : Option (Nat × Bool) :=
  match AList.lookup address daemon.peers with
  | some peer => some (peer.id, false)
  | none => if daemon.peers.keys.length < MAX_PEERS then some (daemon.nextId, true) else none

def World.receiveLocal (w : World α π) (address : α) (payload : π) : Option (World α π) :=
  if MAX_DATAGRAM_BYTES < size payload then some w else
  match w.daemon.identify address with
  | none => some w
  | some (id, new) =>
    match w.trySend (.datagram id payload) with
    | none => some w
    | some w =>
      let accepted := (id, payload) :: w.history.accepted
      let peers := AList.insert address ⟨id, w.clock⟩ w.daemon.peers
      if !new then
        some { w with daemon := { w.daemon with peers }, history := { w.history with accepted } }
      -- The identifiers are exhausted.
      else if w.daemon.nextId + 1 = 2 ^ 64 then none
      else
        let opening := ⟨id, address, w.daemon.addresses.keys⟩
        some { w with
          daemon := {
            nextId := w.daemon.nextId + 1
            peers
            addresses := AList.insert id address w.daemon.addresses }
          history := { w.history with accepted, opened := opening :: w.history.opened } }

def World.expirePeer (address : α) : Option (World α π) :=
  match AList.lookup address w.daemon.peers with
  | none => none
  | some peer =>
    if w.clock - peer.lastActivity < PEER_IDLE then some w else
    match w.trySend (.close peer.id) with
    | none => some w
    | some w => some { w with
      daemon := { w.daemon with
        peers := AList.erase address w.daemon.peers
        addresses := AList.erase peer.id w.daemon.addresses }
      history := { w.history with dropped := peer.id :: w.history.dropped } }

/-- The daemon takes a frame of the agent; the datagram of a known association is sent to the client,
    unless that fails. -/
def World.receiveFrame (ok : Bool) : Option (World α π) :=
  match w.downlink with
  | [] => none
  | .datagram peerId payload :: downlink =>
    match AList.lookup peerId w.daemon.addresses with
    | some address =>
      if ok then some { w with
        downlink
        daemon := { w.daemon with
          peers := w.daemon.peers.modify address fun peer => { peer with lastActivity := w.clock } }
        history := { w.history with delivered := (address, payload) :: w.history.delivered } }
      else some { w with downlink }
    | none => some { w with downlink }
  | .close peerId :: downlink =>
    match AList.lookup peerId w.daemon.addresses with
    | some address => some { w with
      downlink
      daemon := { w.daemon with
        addresses := AList.erase peerId w.daemon.addresses
        peers := AList.erase address w.daemon.peers }
      history := { w.history with dropped := peerId :: w.history.dropped } }
    | none => some { w with downlink }

/-! ### The agent -/

def Relay.push (relay : Relay π) (payload : π) : Relay π :=
  if relay.ended.isNone ∧ relay.packets.length < PEER_QUEUE then
    { relay with packets := relay.packets ++ [payload] }
  else relay

def Agent.takeSocket (connects : Bool) : Option (Nat × Agent π) :=
  match agent.initial with
  | some socket => some (socket, { agent with initial := none })
  | none => if connects then some (agent.sockets, { agent with sockets := agent.sockets + 1 }) else none

def Agent.spawn (peerId socket : Nat) (payload : π) : Agent π :=
  { agent with
    peers := AList.insert peerId agent.spawned agent.peers
    tasks := AList.insert agent.spawned ⟨peerId, socket, [payload], false, none⟩ agent.tasks
    spawned := agent.spawned + 1 }

/-- `manage_peers` takes a frame of the daemon. -/
def World.managePacket (connects : Bool) : Option (World α π) :=
  if w.sending.isSome then none else
  match w.uplink with
  | [] => none
  | .close peerId :: uplink =>
    match AList.lookup peerId w.agent.peers with
    | some task => some { w with
      uplink
      agent := { w.agent with
        peers := AList.erase peerId w.agent.peers
        tasks := w.agent.tasks.modify task fun relay => { relay with aborted := true } }
      history := { w.history with closed := peerId :: w.history.closed } }
    | none => some { w with uplink }
  | .datagram peerId payload :: uplink =>
    match AList.lookup peerId w.agent.peers with
    | some task => some { w with
      uplink
      agent := { w.agent with tasks := w.agent.tasks.modify task (·.push payload) } }
    | none =>
      if peerId ≤ w.agent.highestPeerId ∨ MAX_PEERS ≤ w.agent.peers.keys.length then
        some { w with
          uplink
          agent := { w.agent with highestPeerId := max w.agent.highestPeerId peerId }
          sending := some (.close peerId)
          history := { w.history with
            refused := if peerId ≤ w.agent.highestPeerId then w.history.refused
              else peerId :: w.history.refused } }
      else
        match { w.agent with highestPeerId := peerId }.takeSocket connects with
        | none => some { w with
          uplink
          agent := { w.agent with highestPeerId := peerId }
          sending := some (.close peerId) }
        | some (socket, agent) => some { w with
          uplink
          agent := agent.spawn peerId socket payload
          history := { w.history with connected := (peerId, socket) :: w.history.connected } }

def Agent.finishedPeer (relay : Relay π) : Option Nat :=
  if relay.ended = some true then some relay.peerId
  else (agent.peers.entries.find? fun entry => entry.2 = task).map (·.1)

/-- `manage_peers` joins a task that has ended. -/
def World.joinTask : Option (World α π) :=
  if w.sending.isSome then none else
  match AList.lookup task w.agent.tasks with
  | none => none
  | some relay =>
    if relay.ended.isNone then none else
    let agent := { w.agent with tasks := AList.erase task w.agent.tasks }
    match w.agent.finishedPeer task relay with
    | none => some { w with agent }
    | some peerId =>
      if peerId ∈ w.agent.peers then
        some { w with
          agent := { agent with peers := AList.erase peerId agent.peers }
          sending := some (.close peerId)
          history := { w.history with closed := peerId :: w.history.closed } }
      else some { w with agent }

/-- The frame that `manage_peers` waits to send is queued. -/
def World.flush : Option (World α π) :=
  match w.sending with
  | none => none
  | some frame =>
    if w.output.length < STREAM_QUEUE then
      some { w with sending := none, output := w.output ++ [frame] }
    else none

def World.transmit : Option (World α π) :=
  match AList.lookup task w.agent.tasks with
  | some ⟨peerId, socket, payload :: packets, aborted, none⟩ => some { w with
    agent := { w.agent with
      tasks := AList.insert task ⟨peerId, socket, packets, aborted, none⟩ w.agent.tasks }
    history := { w.history with sent := (socket, payload) :: w.history.sent } }
  | _ => none

/-- A reply arrives at the socket of a task; it is dropped if it is too long or the output queue is
    full. -/
def World.reply (w : World α π) (task : Nat) (payload : π) : Option (World α π) :=
  match AList.lookup task w.agent.tasks with
  | some ⟨peerId, socket, _, _, none⟩ =>
    let history := { w.history with received := (socket, payload) :: w.history.received }
    if MAX_DATAGRAM_BYTES < size payload ∨ STREAM_QUEUE ≤ w.output.length then
      some { w with history }
    else some { w with output := w.output ++ [Frame.datagram peerId payload], history }
  | _ => none

def World.endTask (ok : Bool) : Option (World α π) :=
  match AList.lookup task w.agent.tasks with
  | some ⟨peerId, socket, packets, aborted, none⟩ => some { w with
    agent := { w.agent with
      tasks := AList.insert task ⟨peerId, socket, packets, aborted, some ok⟩ w.agent.tasks } }
  | _ => none

/-! ### The protocol -/

/-- The steps of the two parties, of the channels and of the clock. -/
inductive Action (α π : Type)
  | elapse (time : Nat)
  | receiveLocal (address : α) (payload : π)
  | expirePeer (address : α)
  | receiveFrame (ok : Bool)
  /-- The daemon writes a frame. -/
  | upload
  | managePacket (connects : Bool)
  | joinTask (task : Nat)
  | flush
  /-- The agent writes a frame. -/
  | download
  | transmit (task : Nat)
  | reply (task : Nat) (payload : π)
  | endTask (task : Nat) (ok : Bool)

def step (w : World α π) : Action α π → Option (World α π)
  | .elapse time => some { w with clock := w.clock + time }
  | .receiveLocal address payload => w.receiveLocal size address payload
  | .expirePeer address => w.expirePeer address
  | .receiveFrame ok => w.receiveFrame ok
  | .upload =>
    match w.outgoing with
    | [] => none
    | frame :: outgoing => some { w with outgoing, uplink := w.uplink ++ [frame] }
  | .managePacket connects => w.managePacket connects
  | .joinTask task => w.joinTask task
  | .flush => w.flush
  | .download =>
    match w.output with
    | [] => none
    | frame :: output => some { w with output, downlink := w.downlink ++ [frame] }
  | .transmit task => w.transmit task
  | .reply task payload => w.reply size task payload
  | .endTask task ok => w.endTask task ok

def initial (clock : Nat) : World α π where
  daemon := ⟨∅, ∅, 1⟩
  outgoing := []
  uplink := []
  agent := ⟨some 0, 1, 0, ∅, ∅, 0⟩
  sending := none
  output := []
  downlink := []
  clock := clock
  history := ⟨[], [], [], [], [], [], [], [], []⟩

/-- A pair of parties that has just started. -/
def Initial : Prop := ∃ clock, w = initial clock

/-! ### What the protocol promises -/

def History.Client (history : History α π) (id : Nat) (client : α) : Prop :=
  ∃ held, ⟨id, client, held⟩ ∈ history.opened

/-- Associations never cross. -/
structure World.Separate (w : World α π) : Prop where
  /-- The two maps of the daemon are inverse to each other. -/
  inverse : ∀ address id, (AList.lookup address w.daemon.peers).map (·.id) = some id ↔
    AList.lookup id w.daemon.addresses = some address
  bounded : w.daemon.peers.keys.length ≤ MAX_PEERS
  /-- Identifiers are not used again. -/
  fresh : (w.history.opened.map (·.id)).Nodup
  /-- A socket is opened for one peer, and a peer opens one socket. -/
  single : (w.history.connected.map Prod.fst).Nodup ∧ (w.history.connected.map Prod.snd).Nodup
  /-- What is sent through a socket was accepted from the client of its association. -/
  sent : ∀ socket payload, (socket, payload) ∈ w.history.sent → ∃ id client,
    (id, socket) ∈ w.history.connected ∧ w.history.Client id client ∧ (id, payload) ∈ w.history.accepted
  /-- What is delivered to a client was received from a socket that its datagram has opened. -/
  delivered : ∀ client payload, (client, payload) ∈ w.history.delivered → ∃ id socket,
    (id, socket) ∈ w.history.connected ∧ w.history.Client id client ∧
      (socket, payload) ∈ w.history.received
  /-- Associations that were given up stay so. -/
  dropped : ∀ id ∈ w.history.dropped, AList.lookup id w.daemon.addresses = none
  closed : ∀ id ∈ w.history.closed, id ∉ w.agent.peers
  /-- No association is refused for capacity. -/
  refused : w.history.refused = []

end Ctl.Forward
