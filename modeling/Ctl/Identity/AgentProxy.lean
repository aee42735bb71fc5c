import Ctl.Base.Prog
import Ctl.Identity.AgentWire

/-!
# The SSH agent proxy of a connection attempt

What the proxy does for one client (Rust `identity_connection/agent_proxy.rs`) and how saved keys are
unlocked (Rust `identity_connection/lazy.rs`), as programs of atomic actions. An action is a message
on one of the connections, one section under one of the locks, or one step of a pending unlock; the
shared state it reads and what it answers are in `Ctl.Identity.Attempt`. A connection is named by a
number. A program that panics stops at the action `panic`, which has no answer.

A client owns the connections to the user's agents (`peers`), opened when it connects, and one
connection for each saved key that it has used, opened by its first signature.
-/

namespace Ctl.Identity

open Ctl.Base

/-- Why an identity operation failed (Rust `IdentityError`). -/
inductive IdentityError where
  | invalidRequest | missingFile | unreadableFile | unsupportedFile | fileChanged | unlockFailed
  | keychainMissingEntitlement | keychainUnavailable | keychainLocked | keychainBusy | saveFailed
  | forgetFailed | listFailed
  deriving DecidableEq

/-- Why a saved identity was not used (Rust `fallback::Reason`). -/
inductive Reason where
  | notSaved
  | identity (error : IdentityError)
  | publicHintUnavailable | agentUnavailable | timedOut | workerFailed
  deriving DecidableEq

/-- A saved identity with its public key (Rust `Candidate`). -/
structure Candidate where
  identityId : String
  path : Bytes
  publicKey : String
  blob : Bytes

/-- An isolated agent that holds one unlocked key (Rust `UnlockedAgent`). -/
structure UnlockedAgent where
  publicKey : String
  socket : String
  deriving DecidableEq

/-- Where the proxy connects to. -/
inductive Endpoint where
  /-- The user's agent or the local agent of an attempt. -/
  | upstream (path : String)
  /-- The isolated agent of an unlocked key. -/
  | unlocked (socket : String)
  deriving DecidableEq

/-- The atomic actions of the proxy. -/
inductive Action where
  /-- Read a request of the client, write the response. -/
  | read
  | write (response : Bytes)
  /-- Connect to an agent, send it a request, receive the reply to that request. -/
  | connect (endpoint : Endpoint)
  | send (conn : Nat) (request : Bytes)
  | receive (conn : Nat) (request : Bytes)
  /-- The sections of the cancellation lock: read `closed`, make a new unlock the active one. -/
  | isCanceled
  | begin
  /-- Acquire and release the lock of the unlock table. Under it, look up a key and insert a missing
      one as attempted, and insert the agent of a key. -/
  | lock
  | unlock
  | claim (key : Bytes)
  | store (key : Bytes) (agent : UnlockedAgent)
  /-- Start an unlock, await it, read its token, drop the guard that sets the token. -/
  | startUnlock (key : Bytes) (token : Nat)
  | awaitUnlock (key : Bytes) (token : Nat)
  | tokenSet (token : Nat)
  | dropToken (token : Nat)
  /-- The table of reasons why saved identities were not used. -/
  | recordFallback (identityId : String) (reason : Reason)
  | clearFallback (identityId : String)
  | panic
  deriving DecidableEq

abbrev Answer : Action → Type
  | .read => Bytes
  | .connect _ => Option Nat
  | .receive _ _ => Option Bytes
  | .isCanceled => Bool
  | .begin => Option Nat
  | .claim _ => Option (Option UnlockedAgent)
  | .awaitUnlock _ _ => Except Reason UnlockedAgent
  | .tokenSet _ => Bool
  | .panic => Empty
  | _ => Unit

abbrev Proxy := Prog Action Answer

def act (a : Action) : Proxy (Answer a) := Prog.act a

def panicking {α : Type} : Proxy α := .call .panic fun e => e.elim

/-! ## Connections to agents -/

/-- A connection to an agent with the keys it has listed (Rust `Peer`). -/
structure Peer where
  stream : Option Nat
  keys : List Bytes

/-- The peer and the outcome after the reply to a request. A failed exchange cannot resume: the
    stream is closed and its keys are forgotten. -/
def Peer.replied (peer : Peer) : Option Bytes → Option Bytes × Peer
  | some response => (some response, peer)
  | none => (none, { peer with stream := none, keys := [] })

/-- Exchange one request (Rust `Peer::request`). -/
def Peer.request (peer : Peer) (request : Bytes) : Proxy (Option Bytes × Peer) :=
  match peer.stream with
  | none => pure (none, peer)
  | some conn => do
    act (.send conn request)
    let reply ← act (.receive conn request)
    pure (peer.replied reply)

/-- Connect to an agent (Rust `connect`). -/
def connect (endpoint : Endpoint) : Proxy (Option Peer) := do
  let conn ← act (.connect endpoint)
  pure (conn.map fun conn => { stream := some conn, keys := [] })

/-! ## The saved identities of a client -/

/-- What a client keeps for the saved identities (Rust `ClientIdentities`). `registry` holds the
    candidates until the saved identities are disabled for this client. -/
structure ClientIdentities where
  registry : Option (List Candidate)
  advertised : List Bytes
  upstreamOwned : List Bytes
  peers : List (Bytes × Peer)
  bindings : List Bytes
  bindingBytes : Nat

/-- Nothing has been advertised or bound (Rust `ClientIdentities::new`). -/
def ClientIdentities.new (registry : Option (List Candidate)) : ClientIdentities :=
  { registry, advertised := [], upstreamOwned := [], peers := [], bindings := [], bindingBytes := 0 }

def ClientIdentities.disable (lazy : ClientIdentities) : ClientIdentities :=
  { lazy with registry := none, peers := [] }

/-- A user's agent owns the key (Rust `ClientIdentities::record_upstream`). -/
def ClientIdentities.recordUpstream (lazy : ClientIdentities) (key : Bytes) : ClientIdentities :=
  if lazy.registry = none ∨ key ∈ lazy.upstreamOwned then lazy
  else if MAX_KEYS ≤ lazy.upstreamOwned.length then lazy.disable
  else { lazy with upstreamOwned := key :: lazy.upstreamOwned }

/-- Send a binding to every agent that is already open; one that does not accept it is closed. -/
def bindPeers (request : Bytes) : List (Bytes × Peer) → Proxy (List (Bytes × Peer))
  | [] => pure []
  | (key, peer) :: peers => do
    let (response, peer) ← peer.request request
    let peer := if response = some [SUCCESS] then peer else { peer with stream := none }
    let peers ← bindPeers request peers
    pure ((key, peer) :: peers)

/-- Record a session binding (Rust `ClientIdentities::bind`). No later signature may omit a binding
    that the client attempted to add. -/
def ClientIdentities.bind (lazy : ClientIdentities) (request : Bytes) : Proxy (Bool × ClientIdentities) :=
  if lazy.registry = none then pure (false, lazy)
  else if ¬ validBinding request ∨ MAX_BINDINGS ≤ lazy.bindings.length ∨
      MAX_BINDING_BYTES < lazy.bindingBytes + request.length then
    pure (false, lazy.disable)
  else do
    let peers ← bindPeers request lazy.peers
    pure (true, { lazy with
      bindings := lazy.bindings ++ [request]
      bindingBytes := lazy.bindingBytes + request.length
      peers })

/-! ## Unlocking a saved key -/

variable (decode : String → Option Bytes)

/-- The blob of a public key line, given what base64 decodes (Rust `public_blob`). -/
def publicBlob (publicKey : String) : Option Bytes :=
  if 64 * 1024 < publicKey.utf8ByteSize ∨ publicKey.toList.any isControl then none
  else
    match splitWhitespace publicKey.toList with
    | kind :: field :: _ =>
      match decode (String.ofList field) with
      | none => none
      | some blob =>
        match takeString blob with
        | some (name, _) => if name = (String.ofList kind).toUTF8.toList then some blob else none
        | none => none
    | _ => none
where
  /-- Unicode `Cc` (Rust `char::is_control`). -/
  isControl (c : Char) : Bool := c.toNat ≤ 0x1f || (0x7f ≤ c.toNat && c.toNat ≤ 0x9f)
  /-- Unicode `White_Space` (Rust `char::is_whitespace`). -/
  isWhitespace (c : Char) : Bool :=
    (0x9 ≤ c.toNat && c.toNat ≤ 0xd) || c.toNat = 0x20 || c.toNat = 0x85 || c.toNat = 0xa0 ||
    c.toNat = 0x1680 || (0x2000 ≤ c.toNat && c.toNat ≤ 0x200a) || c.toNat = 0x2028 ||
    c.toNat = 0x2029 || c.toNat = 0x202f || c.toNat = 0x205f || c.toNat = 0x3000
  /-- The parts between white space that are not empty (Rust `str::split_whitespace`). -/
  splitWhitespace (cs : List Char) : List (List Char) :=
    (cs.splitOnP isWhitespace).filter (· ≠ [])

/-- The reason why a saved identity was not used, unless the attempt was canceled
    (Rust `LazyIdentities::record_failure`). -/
def recordFailure (candidates : List Candidate) (key : Bytes) (reason : Reason) : Proxy Unit := do
  if ← act .isCanceled then pure ()
  else
    match candidates.find? (·.blob = key) with
    | none => pure ()
    | some candidate => act (.recordFallback candidate.identityId reason)

/-- What an unlock has brought: its agent is kept if it was not canceled and holds the key. -/
def settleUnlock (decode : String → Option Bytes) (candidates : List Candidate)
    (candidate : Candidate) (key : Bytes) (token : Nat) (result : Except Reason UnlockedAgent) :
    Proxy (Option String) := do
  if ← act (.tokenSet token) then pure none
  else
    match result with
    | .error reason => do
      recordFailure candidates key reason
      pure none
    | .ok agent =>
      if publicBlob decode agent.publicKey = some key then do
        act (.clearFallback candidate.identityId)
        act (.store key agent)
        pure (some agent.socket)
      else do
        recordFailure candidates key (.identity .unlockFailed)
        pure none

def unlockClaimed (decode : String → Option Bytes) (candidates : List Candidate)
    (candidate : Candidate) (key : Bytes) : Proxy (Option String) := do
  match ← act .begin with
  | none => pure none
  | some token => do
    act (.startUnlock key token)
    let result ← act (.awaitUnlock key token)
    let socket ← settleUnlock decode candidates candidate key token result
    act (.dropToken token)
    pure socket

/-- The agent of a key, under the lock of the unlock table. The attempt is recorded before anything
    is awaited, so a key is unlocked at most once. -/
def lockedAgent (decode : String → Option Bytes) (candidates : List Candidate)
    (candidate : Candidate) (key : Bytes) : Proxy (Option String) := do
  if ← act .isCanceled then pure none
  else
    match ← act (.claim key) with
    | some previous => pure (previous.map (·.socket))
    | none => unlockClaimed decode candidates candidate key

/-- The socket of the agent that holds a saved key (Rust `LazyIdentities::agent_for`). -/
def agentFor (decode : String → Option Bytes) (candidates : List Candidate) (key : Bytes) : Proxy (Option String) :=
  match candidates.find? (·.blob = key) with
  | none => pure none
  | some candidate => do
    act .lock
    let socket ← lockedAgent decode candidates candidate key
    act .unlock
    pure socket

/-! ## Signing with a saved identity -/

def replayBindings : Peer → List Bytes → Proxy (Option Peer)
  | peer, [] => pure (some peer)
  | peer, binding :: bindings => do
    let (response, peer) ← peer.request binding
    if response = some [SUCCESS] then replayBindings peer bindings else pure none

def openPeer (candidates : List Candidate) (bindings : List Bytes) (key : Bytes) : Proxy (Option Peer) := do
  match ← agentFor decode candidates key with
  | none => pure none
  | some socket =>
    match ← connect (.unlocked socket) with
    | none => do
      recordFailure candidates key .agentUnavailable
      pure none
    | some peer =>
      match ← replayBindings peer bindings with
      | none => do
        recordFailure candidates key .agentUnavailable
        pure none
      | some peer => do
        let (listed, peer) ← peer.request [REQUEST_IDENTITIES]
        if ((listed.bind parseIdentities).any fun listed => listed.any (·.1 = key)) then
          pure (some peer)
        else do
          recordFailure candidates key .agentUnavailable
          pure none

def signOpened (candidates : List Candidate) (peer : Peer) (key request : Bytes) :
    Proxy (Option Bytes × Peer) := do
  if ← act .isCanceled then pure (none, peer)
  else
    let (response, peer) ← peer.request request
    if ← act .isCanceled then pure (none, peer)
    else
      match response with
      | some response =>
        if response.head? = some SIGN_RESPONSE then pure (some response, peer)
        else do
          recordFailure candidates key .agentUnavailable
          pure (none, peer)
      | none => do
        recordFailure candidates key .agentUnavailable
        pure (none, peer)

def ClientIdentities.peerFor (lazy : ClientIdentities) (candidates : List Candidate) (key : Bytes) :
    Proxy (Option Peer) :=
  match lazy.peers.lookup key with
  | some peer => pure (some peer)
  | none => openPeer decode candidates lazy.bindings key

/-- Sign with a saved identity (Rust `ClientIdentities::sign`). -/
def ClientIdentities.sign (decode : String → Option Bytes) (lazy : ClientIdentities)
    (key request : Bytes) : Proxy (Option Bytes × ClientIdentities) :=
  match lazy.registry with
  | none => pure (none, lazy)
  | some candidates => do
    if ← act .isCanceled then pure (none, lazy)
    else
      match ← lazy.peerFor decode candidates key with
      | none => pure (none, lazy)
      | some peer => do
        let (response, peer) ← signOpened candidates peer key request
        pure (response, { lazy with
          peers := (key, peer) :: lazy.peers.filter fun entry => entry.1 ≠ key })

/-! ## Serving a client -/

structure Client where
  peers : List Peer
  lazy : ClientIdentities

/-- The identities of an answer in the making, and their keys. -/
structure Listing where
  identities : List (Bytes × Bytes)
  seen : List Bytes

def Listing.add (listing : Listing) (identity : Bytes × Bytes) : Listing :=
  if listing.identities.length < MAX_KEYS ∧ identity.1 ∉ listing.seen then
    ⟨listing.identities ++ [identity], identity.1 :: listing.seen⟩
  else listing

def listIdentity : ClientIdentities × Peer × Listing → Bytes × Bytes →
    ClientIdentities × Peer × Listing
  | (lazy, peer, listing), identity =>
    (lazy.recordUpstream identity.1, { peer with keys := identity.1 :: peer.keys },
      listing.add identity)

/-- List the identities of the user's agents. An agent that fails or answers with something else
    lists nothing. -/
def listPeers (request : Bytes) : List Peer → ClientIdentities → Listing →
    Proxy (List Peer × ClientIdentities × Listing)
  | [], lazy, listing => pure ([], lazy, listing)
  | peer :: peers, lazy, listing => do
    let (response, peer) ← { peer with keys := [] }.request request
    let keys := ((response.bind parseIdentities).getD [])
    let (lazy, peer, listing) := keys.foldl listIdentity (lazy, peer, listing)
    let (peers, lazy, listing) ← listPeers request peers lazy listing
    pure (peer :: peers, lazy, listing)

variable (client : Client) (request : Bytes)

/-- Answer with the identities of the user's agents and the candidates
    (Rust `list_identities`). -/
def listIdentities : Proxy (Bytes × Client) := do
  let (peers, lazy, listing) ← listPeers request client.peers client.lazy ⟨[], []⟩
  let listing := (lazy.registry.getD []).foldl
    (fun listing candidate => listing.add (candidate.blob, candidate.path)) listing
  match listAnswer listing.identities with
  | none => panicking
  | some response =>
    if MAX_MESSAGE < response.length then
      pure ([FAILURE], ⟨peers, { lazy with advertised := [] }⟩)
    else pure (response, ⟨peers, { lazy with advertised := listing.seen }⟩)

/-- Ask the first user's agent that lists the key for the signature; nothing when none lists it. The
    user's agent is authoritative for its own keys: its failure is final. -/
def signPeers (key request : Bytes) : List Peer → Proxy (Option Bytes × List Peer)
  | [] => pure (none, [])
  | peer :: peers =>
    if key ∈ peer.keys then do
      let (response, peer) ← peer.request request
      let signature := (response.filter fun response => response.head? = some SIGN_RESPONSE).getD
        [FAILURE]
      pure (some signature, peer :: peers)
    else do
      let (response, peers) ← signPeers key request peers
      pure (response, peer :: peers)

/-- Answer a signature request (Rust `sign`). -/
def sign : Proxy (Bytes × Client) :=
  match signKey request with
  | none => pure ([FAILURE], client)
  | some key =>
    if key ∉ client.lazy.advertised then pure ([FAILURE], client)
    else do
      let (response, peers) ← signPeers key request client.peers
      match response with
      | some response => pure (response, ⟨peers, client.lazy⟩)
      | none =>
        if key ∈ client.lazy.upstreamOwned then pure ([FAILURE], ⟨peers, client.lazy⟩)
        else do
          let (response, lazy) ← client.lazy.sign decode key request
          pure (response.getD [FAILURE], ⟨peers, lazy⟩)

def forwardBinding (request : Bytes) : List Peer → Proxy (Bool × List Peer)
  | [] => pure (false, [])
  | peer :: peers => do
    let (response, peer) ← peer.request request
    let (accepted, peers) ← forwardBinding request peers
    pure (response = some [SUCCESS] || accepted, peer :: peers)

def bindSession : Proxy (Bytes × Client) := do
  let (accepted, peers) ← forwardBinding request client.peers
  let (recorded, lazy) ← client.lazy.bind request
  pure (if accepted || recorded then [SUCCESS] else [FAILURE], ⟨peers, lazy⟩)

/-- Answer a request (the `match` of Rust `serve_client`). -/
def respond : Proxy (Bytes × Client) :=
  if request = [REQUEST_IDENTITIES] then listIdentities client request
  else if request.head? = some SIGN_REQUEST then sign decode client request
  else if isBinding request then bindSession client request
  else if request.head? = some EXTENSION then pure ([EXTENSION_FAILURE], client)
  else pure ([FAILURE], client)

/-- Serve one request of a client (the loop body of Rust `serve_client`). -/
def serveRequest : Proxy Client := do
  let request ← act .read
  let (response, client) ← respond decode client request
  act (.write response)
  pure client

def connectPeers : List String → Proxy (List Peer)
  | [] => pure []
  | path :: paths => do
    let peer ← connect (.upstream path)
    let peers ← connectPeers paths
    pure (peer.toList ++ peers)

/-- Begin to serve a client: the user's agent first, then the local one (Rust `serve_client`). -/
def serveClient (registry : Option (List Candidate)) (existing locally : Option String) :
    Proxy Client := do
  let peers ← connectPeers (existing.toList ++ locally.toList)
  pure ⟨peers, .new registry⟩

end Ctl.Identity
