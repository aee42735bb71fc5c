import Ctl.Base.OrdMap
import Mathlib.Data.String.Basic

/-!
# The registry of VPN connections

`ctld` owns its VPN connections through a registry (Rust `vpn_service::Registry`). An actor hands it
the requests and the completions of its futures one after another, so every operation is a function
on the state. A provider start is numbered when `start` is called; the number then stands for the
lease it yields, until the shutdown of the lease completes. Of such an activity the registry sees the
result of the start, the exit and the status that the lease reports.

The fields `activities`, `sent` and `stops` of `World` record what happened: which activities are
alive, which replies were sent, and which entry a stop request has selected.
-/

namespace Ctl.Vpn
open Base

inductive VpnProvider
  | openconnect
  | tailscale
  deriving DecidableEq, Inhabited

inductive VpnState
  | stopped
  | starting
  | connected
  | stopping
  deriving DecidableEq, Inhabited

structure VpnStatus where
  provider : VpnProvider := .openconnect
  authUrl : Option String := none
  message : Option String := none
  hostname : Option String := none
  tailnet : Option String := none
  vpnId : Option String := none
  endpoint : Option String := none
  vpnUrl : Option String := none
  username : Option String := none
  containerName : Option String := none
  containerId : Option String := none
  sharedContainer : Bool := false
  locallyConnected : Option Bool := none
  statusUnavailable : Bool := false
  running : Bool := false
  connectionId : Option String := none
  state : VpnState := .stopped
  deriving DecidableEq

/-- The status of a connection that is not there (Rust `VpnStatus::default`). -/
def VpnStatus.default : VpnStatus := {}

structure VpnSnapshot where
  connections : List VpnStatus := []
  supportsMultiple : Bool := true
  supportedProviders : List VpnProvider := [.openconnect, .tailscale]
  supportsTailscaleEnrollment : Bool := true
  discoveryWarnings : List String := []
  deriving DecidableEq

inductive VpnSettings
  | openconnect (url username password : String) (authMethod targetIp : Option String)
  | tailscale (hostname : Option String) (acceptRoutes : Bool)
  deriving DecidableEq

structure VpnConnection where
  connectionId : String
  name : String
  settings : VpnSettings
  deriving DecidableEq

structure Metadata where
  vpnUrl : Option String := none
  username : Option String := none
  deriving DecidableEq

/-- What the registry reads of a provider's configuration. -/
inductive Config
  | openconnect (metadata : Metadata)
  | tailscale
  deriving DecidableEq

def Config.metadata : Config → Metadata
  | .openconnect metadata => metadata
  | .tailscale => {}

def Config.provider : Config → VpnProvider
  | .openconnect _ => .openconnect
  | .tailscale => .tailscale

inductive Source
  | envFile (path : String)
  | connection (connection : VpnConnection)
  deriving DecidableEq

inductive Identity
  | envFile (path : String)
  | cleanup (connectionId : String)
  | connection (connectionId fingerprint : String)
  deriving DecidableEq

def Identity.connectionId : Identity → Option String
  | .envFile _ => none
  | .cleanup connectionId => some connectionId
  | .connection connectionId _ => some connectionId

structure Prepared where
  identity : Identity
  config : Config

/-- What a stopping entry still awaits. -/
inductive Cleanup
  /-- A cancelled start, and the shutdown of the lease that it may yield. -/
  | start (activity : Nat)
  /-- The shutdown of a lease. -/
  | lease (activity : Nat)
  /-- The removal of a Tailscale identity, whose result is sent to a reply. -/
  | forget (reply : Nat)
  deriving DecidableEq

inductive Phase
  | preparing (path : String)
  | starting (activity : Nat)
  | connected (lease : Nat)
  | stopping (cleanup : Cleanup)
  deriving DecidableEq

/-- An entry of the registry. Its serial number tells it from every entry before it under its ID. -/
structure Entry where
  identity : Option Identity
  envPaths : List String
  metadata : Metadata
  provider : VpnProvider
  cancellation : Bool
  phase : Phase
  replies : List Nat
  serial : Nat

/-- What is sent to a reply. -/
inductive Answer
  | status (result : Except String VpnStatus)
  | snapshot (snapshot : VpnSnapshot)
  | forgotten (result : Except String Unit)

/-- A provider start, and then the lease that it yields, which an entry has called for. -/
structure Activity where
  identity : Identity
  serial : Nat

structure World where
  entries : OrdMap String Entry := ∅
  /-- The starts that have not failed and the leases whose shutdown is not complete. -/
  activities : OrdMap Nat Activity := ∅
  nextActivity : Nat := 0
  nextSerial : Nat := 0
  /-- The number of requests; each has its number as its reply. -/
  requests : Nat := 0
  sent : List (Nat × Answer) := []
  /-- The stop requests and the entries that they have selected. -/
  stops : List (Nat × Nat) := []
  /-- `shutdown` has begun. -/
  closing : Bool := false

def maxConnections : Nat := 16
def maxWaitingReplies : Nat := 16

/-- The parts of the providers that read a saved connection (Rust `Config::from_connection`,
    `RuntimeMetadata::for_connection`). -/
structure Providers where
  openconnect : VpnConnection → Except String Metadata
  tailscale : VpnConnection → Except String Unit
  settingsKey : VpnConnection → Except String String

variable (w : World) (reported : Nat → VpnStatus) (providers : Providers) (id : String) (entry : Entry)

def Providers.config (connection : VpnConnection) : Except String Config :=
  match connection.settings with
  | .openconnect .. => (providers.openconnect connection).map Config.openconnect
  | .tailscale .. => (providers.tailscale connection).map fun () => Config.tailscale

/-- The identity and the configuration of a saved connection (Rust `prepare_connection`). -/
def prepareConnection (connection : VpnConnection) :
    Except String Prepared := do
  let config ← providers.config connection
  let fingerprint ← providers.settingsKey connection
  return { identity := .connection connection.connectionId fingerprint, config }

namespace World

variable (w : World)

def send (reply : Nat) (answer : Answer) : World :=
  { w with sent := w.sent ++ [(reply, answer)] }

def insert (id : String) (entry : Entry) : World :=
  { w with entries := w.entries.insert id entry }

def remove (id : String) : World := { w with entries := w.entries.erase id }

/-- The call of `start` for an entry. -/
def launch (identity : Identity) (serial : Nat) : Nat × World :=
  (w.nextActivity, { w with
    activities := w.activities.insert w.nextActivity ⟨identity, serial⟩
    nextActivity := w.nextActivity + 1 })

def ended (activity : Nat) : World :=
  { w with activities := w.activities.erase activity }

/-- Send a result to all waiting replies (Rust `answer`). -/
def answer (replies : List Nat) (result : Except String VpnStatus) : World :=
  { w with sent := w.sent ++ replies.map fun reply => (reply, .status result) }

end World

def Entry.isStopping : Bool :=
  match entry.phase with
  | .stopping _ => true
  | _ => false

/-- The status of an entry; a lease reports its own (Rust `Entry::status`). -/
def Entry.status (entry : Entry) (reported : Nat → VpnStatus) (vpnId : String) : VpnStatus :=
  let status : VpnStatus := match entry.phase with
    | .connected lease => reported lease
    | .preparing _ | .starting _ => { state := .starting }
    | .stopping _ => { state := .stopping }
  let status := { status with
    vpnId := some (status.vpnId.getD vpnId)
    connectionId := entry.identity.bind Identity.connectionId
    locallyConnected := some (!entry.isStopping)
    provider := entry.provider }
  if entry.provider = .openconnect then
    { status with vpnUrl := entry.metadata.vpnUrl, username := entry.metadata.username }
  else status

/-- Let a reply wait for an entry (Rust `push_reply`). -/
def pushReply (reply : Nat) : Entry × World :=
  if entry.replies.length < maxWaitingReplies then
    ({ entry with replies := entry.replies ++ [reply] }, w)
  else (entry, w.send reply
    (.status (.error "Too many pending requests for this VPN connection")))

/-- Join start requests to an entry (Rust `Entry::join_start`). -/
def joinStart (reported : Nat → VpnStatus) (vpnId : String) (w : World) (entry : Entry) :
    List Nat → Entry × World
  | [] => (entry, w)
  | reply :: replies =>
    let (entry, w) := match entry.phase with
      | .connected _ => (entry, w.send reply (.status (.ok (entry.status reported vpnId))))
      | .stopping _ => (entry, w.send reply
          (.status (.error "VPN is stopping; wait before starting it again")))
      | _ => pushReply w entry reply
    joinStart reported vpnId w entry replies

def World.find (p : String → Entry → Bool) : Option (String × Entry) :=
  w.entries.toList.find? fun (id, entry) => p id entry

def World.snapshot : VpnSnapshot :=
  { connections := w.entries.toList.map fun (id, entry) => entry.status reported id
    supportsMultiple := true }

def tooManyConnections : String := "At most 16 VPN connections can be active or starting"

/-- Start a saved connection (Rust `Registry::start_prepared`). The identity of a saved connection has
    an ID. -/
def startPrepared (prepared : Prepared) (id : String) (reply : Nat) : World :=
  match w.entries[id]? with
  | some entry =>
    if entry.isStopping || entry.identity == some prepared.identity then
      let (entry, w) := joinStart reported id w entry [reply]
      w.insert id entry
    else w.send reply
      (.status (.error "VPN settings changed; stop this connection before starting it again"))
  | none =>
    if maxConnections ≤ w.entries.size then
      w.send reply (.status (.error tooManyConnections))
    else
      let serial := w.nextSerial
      let (activity, w) := w.launch prepared.identity serial
      { w with nextSerial := serial + 1 }.insert id
        { identity := some prepared.identity, envPaths := [], metadata := prepared.config.metadata
          provider := prepared.config.provider, cancellation := true, phase := .starting activity
          replies := [reply], serial }

/-- Start a connection; the entry of an environment file gets a fresh ID (Rust `Registry::start`). -/
def start (w : World) (reported : Nat → VpnStatus) (uuid : String) (source : Source) (reply : Nat) : World :=
  match source with
  | .connection connection =>
    match prepareConnection providers connection with
    | .ok prepared => startPrepared w reported prepared connection.connectionId reply
    | .error error => w.send reply (.status (.error error))
  | .envFile path =>
    match w.find fun _ entry => entry.envPaths.contains path with
    | some (id, entry) =>
      let (entry, w) := joinStart reported id w entry [reply]
      w.insert id entry
    | none =>
      if maxConnections ≤ w.entries.size then
        w.send reply (.status (.error tooManyConnections))
      else
        { w with nextSerial := w.nextSerial + 1 }.insert ("env-" ++ uuid)
          { identity := none, envPaths := [path], metadata := {}, provider := .openconnect
            cancellation := false, phase := .preparing path, replies := [reply]
            serial := w.nextSerial }

def pushSome : Option Nat → Entry × World
  | some reply => pushReply w entry reply
  | none => (entry, w)

def World.sendStopped : Option Nat → World
  | some reply => w.send reply (.status (.ok .default))
  | none => w

/-- Stop an entry (Rust `Registry::stop_entry`). -/
def stopEntry (reply : Option Nat) : World :=
  match w.entries[id]? with
  | none => w.sendStopped reply
  | some entry =>
    let w := w.remove id
    match entry.phase with
    | .connected lease =>
      let (entry, w) := pushSome w { entry with phase := .stopping (.lease lease) } reply
      w.insert id entry
    | .stopping cleanup =>
      let (entry, w) := pushSome w { entry with phase := .stopping cleanup } reply
      w.insert id entry
    | .starting activity =>
      if entry.cancellation then
        let w := w.answer entry.replies (.error "VPN startup was cancelled")
        let (entry, w) := pushSome w { entry with
          cancellation := false, replies := [], phase := .stopping (.start activity) } reply
        w.insert id entry
      else (w.answer entry.replies (.error "VPN startup was cancelled")).sendStopped reply
    | .preparing _ =>
      (w.answer entry.replies (.error "VPN startup was cancelled")).sendStopped reply

/-- The entry that a stop request means: the one with the ID, or the first one that reports it. -/
def World.selected : String :=
  if id ∈ w.entries then id
  else match w.find fun key entry => (entry.status reported key).vpnId == some id with
    | some (key, _) => key
    | none => id

/-- Stop a connection (Rust `Registry::stop`). -/
def stop (vpnId : Option String) (reply : Nat) : World :=
  let go (id : String) : World :=
    let id := w.selected reported id
    let stops := match w.entries[id]? with
      | some entry => (reply, entry.serial) :: w.stops
      | none => w.stops
    stopEntry { w with stops } id (some reply)
  match vpnId with
  | some id => go id
  | none =>
    if 1 < w.entries.size then
      w.send reply (.status
        (.error "Multiple VPN connections are active; specify a VPN ID to disconnect"))
    else go (w.entries.keys.head?.getD "")

/-- Forget a Tailscale identity (Rust `Registry::forget_identity`). -/
def forgetIdentity (connectionId : String) (reply : Nat) : World :=
  if connectionId ∈ w.entries then
    w.send reply (.forgotten
      (.error "Stop the Tailscale connection before forgetting its identity"))
  else if maxConnections ≤ w.entries.size then
    w.send reply (.forgotten (.error "At most 16 VPN operations can be active at once"))
  else
    { w with nextSerial := w.nextSerial + 1 }.insert connectionId
      { identity := some (.cleanup connectionId), envPaths := [], metadata := {}
        provider := .tailscale, cancellation := false, phase := .stopping (.forget reply)
        replies := [], serial := w.nextSerial }

/-- What the future of an entry has completed with. -/
inductive Completion
  /-- The canonical path of an environment file and its metadata, when it can be read. -/
  | prepared (result : Except String (String × Metadata))
  | started (result : Except String Unit)
  | exited
  /-- A cancelled start yields a lease, whose shutdown begins. -/
  | yielded
  /-- A cancelled start has failed, the shutdown of a lease is complete, or an identity is forgotten
      with the given result. -/
  | stopped (result : Except String Unit)

def prepareFile (path : String) (metadata : Metadata) : Prepared :=
  { identity := .envFile path, config := .openconnect metadata }

/-- An environment file is prepared (Rust `Registry::event` for `Event::Prepared`). -/
def preparedEvent :
    Except String (String × Metadata) → World
  | .ok (path, metadata) =>
    let prepared := prepareFile path metadata
    match w.find fun _ other => other.identity == some prepared.identity with
    | some (otherId, other) =>
      let (other, w) := joinStart reported otherId w other entry.replies
      w.insert otherId other
    | none =>
      let (activity, w) := w.launch prepared.identity entry.serial
      w.insert id { entry with
        envPaths := entry.envPaths.insert path
        identity := some prepared.identity
        metadata := prepared.config.metadata
        provider := prepared.config.provider
        cancellation := true
        phase := .starting activity }
  | .error error => w.answer entry.replies (.error error)

/-- A completion, when it is one of the future of the entry (Rust `Registry::poll_event`,
    `Registry::event`). -/
def event :
    Phase → Completion → Option World
  | .preparing _, .prepared result => some (preparedEvent (w.remove id) reported id entry result)
  | .starting lease, .started (.ok ()) =>
    let entry := { entry with cancellation := false, phase := .connected lease }
    some (((w.remove id).answer entry.replies (.ok (entry.status reported id))).insert id
      { entry with replies := [] })
  | .starting activity, .started (.error error) =>
    some (((w.ended activity).remove id).answer entry.replies
      (.error ("could not start VPN: " ++ error)))
  | .connected _, .exited => some (stopEntry ((w.remove id).insert id entry) id none)
  | .stopping (.start activity), .yielded =>
    some (w.insert id { entry with phase := .stopping (.lease activity) })
  | .stopping (.start activity), .stopped _ =>
    some (((w.ended activity).remove id).answer entry.replies (.ok .default))
  | .stopping (.lease activity), .stopped _ =>
    some (((w.ended activity).remove id).answer entry.replies (.ok .default))
  | .stopping (.forget reply), .stopped result =>
    some (((w.send reply (.forgotten result)).remove id).answer entry.replies (.ok .default))
  | _, _ => none

/-- The beginning of `shutdown`: every entry is stopped (Rust `Registry::shutdown`). -/
def stopAll : World :=
  w.entries.keys.foldl (fun w id => stopEntry w id none) w

inductive Request
  /-- A start; an entry that it makes for an environment file gets the UUID. -/
  | start (source : Source) (uuid : String)
  | stop (vpnId : Option String)
  | list
  | forget (connectionId : String)

/-- What happens at the registry; the leases report their status meanwhile. -/
inductive Action
  | request (reported : Nat → VpnStatus) (request : Request)
  | event (reported : Nat → VpnStatus) (id : String) (completion : Completion)
  | shutdown

def serve (w : World) (reported : Nat → VpnStatus) : Request → World
  | .start source uuid =>
    start providers { w with requests := w.requests + 1 } reported uuid source w.requests
  | .stop vpnId => stop { w with requests := w.requests + 1 } reported vpnId w.requests
  | .list =>
    { w with requests := w.requests + 1 }.send w.requests (.snapshot (w.snapshot reported))
  | .forget connectionId => forgetIdentity { w with requests := w.requests + 1 } connectionId w.requests

def Request.isFresh : Request → Bool
  | .start _ uuid => ("env-" ++ uuid) ∉ w.entries
  | _ => true

/-- A step of the actor: after `shutdown`, only events are handled (Rust `spawn_with_forget`). -/
def step (w : World) : Action → Option World
  | .request reported request =>
    if !w.closing && request.isFresh w then some (serve providers w reported request) else none
  | .event reported id completion =>
    match w.entries[id]? with
    | some entry => event w reported id entry entry.phase completion
    | none => none
  | .shutdown => if w.closing then none else some { stopAll w with closing := true }

def World.IsInitial : Prop := w = {}

end Ctl.Vpn
