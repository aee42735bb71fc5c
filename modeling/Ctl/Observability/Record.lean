import Ctl.Base.Reading
import Ctl.Base.Utf8Text
import Ctl.Proto.History

/-!
# Diagnostic records

Model of `ctl-core/src/observability.rs` and `observability/message.rs`: the records of the diagnostic and audit
history, when they are valid, and the description that is derived from one. Identifiers, timestamps and JSON
come from other crates; `Crates` holds the functions of theirs that the records use.
-/

namespace Ctl.Observability
open Ctl.Base Ctl.Proto

def isNameChar (c : Char) : Bool := c.isLower || c = '_'

/-- The unit variants of an enumeration, which serialize to their names in snake case. -/
class Named (α : Type) where
  name : α → String
  all : List α
  complete : ∀ a, a ∈ all
  nodup : (all.map name).Nodup
  plain : ∀ a ∈ all, (name a).toList ≠ [] ∧ (name a).toList.all isNameChar = true

/-- Rust `name`. -/
def name {α : Type} [Named α] (value : α) : Text := (Named.name value).toList

/-- Rust `parse_name`. -/
def parseName {α : Type} [Named α] (value : Text) : Option α :=
  Named.all.find? fun a => name a = value

/-- Minimum diagnostic severity (Rust `Level`). -/
inductive Level where
  | trace
  | debug
  | info
  | warn
  | error
  deriving DecidableEq

instance : Named Level where
  name
    | .trace => "trace"
    | .debug => "debug"
    | .info => "info"
    | .warn => "warn"
    | .error => "error"
  all := [.trace, .debug, .info, .warn, .error]
  complete a := by cases a <;> decide
  nodup := by decide +kernel
  plain := by decide +kernel

inductive Component where
  | ctld
  | ctmuxd
  deriving DecidableEq

instance : Named Component where
  name
    | .ctld => "ctld"
    | .ctmuxd => "ctmuxd"
  all := [.ctld, .ctmuxd]
  complete a := by cases a <;> decide
  nodup := by decide +kernel
  plain := by decide +kernel

inductive Lease where
  | input
  | layout
  deriving DecidableEq

instance : Named Lease where
  name
    | .input => "input"
    | .layout => "layout"
  all := [.input, .layout]
  complete a := by cases a <;> decide
  nodup := by decide +kernel
  plain := by decide +kernel

inductive AuthorizationMode where
  | freshInteractive
  | freshQuiet
  | retainedApproval
  deriving DecidableEq

instance : Named AuthorizationMode where
  name
    | .freshInteractive => "fresh_interactive"
    | .freshQuiet => "fresh_quiet"
    | .retainedApproval => "retained_approval"
  all := [.freshInteractive, .freshQuiet, .retainedApproval]
  complete a := by cases a <;> decide
  nodup := by decide +kernel
  plain := by decide +kernel

inductive AuthorizationReason where
  | sessionChanged
  | credentialChanged
  | revisionUnavailable
  | expired
  | scopeChanged
  | disconnect
  | hostConfirmation
  | credentialReadFailed
  | canceled
  deriving DecidableEq

instance : Named AuthorizationReason where
  name
    | .sessionChanged => "session_changed"
    | .credentialChanged => "credential_changed"
    | .revisionUnavailable => "revision_unavailable"
    | .expired => "expired"
    | .scopeChanged => "scope_changed"
    | .disconnect => "disconnect"
    | .hostConfirmation => "host_confirmation"
    | .credentialReadFailed => "credential_read_failed"
    | .canceled => "canceled"
  all := [.sessionChanged, .credentialChanged, .revisionUnavailable, .expired, .scopeChanged,
    .disconnect, .hostConfirmation, .credentialReadFailed, .canceled]
  complete a := by cases a <;> decide
  nodup := by decide +kernel
  plain := by decide +kernel

inductive Event where
  | daemonLifecycle
  | helperRequest
  | proxyConnection
  | connection
  | connectionRequest
  | connectionReuse
  | connectionLoss
  | disconnect
  | credentialRead
  | authorizationRevoked
  | credentialSave
  | credentialRemove
  | credentialClear
  | credentialInventory
  | identitySave
  | identityRemove
  | identityInventory
  | sessionCreate
  | sessionRename
  | sessionTerminate
  | sessionMerge
  | paneSplit
  | panePromote
  | paneKill
  | paneExit
  | paneResize
  | viewResize
  | dividerResize
  | paneZoom
  | viewUpdate
  | attachmentCreate
  | attachmentResume
  | attachmentSuspend
  | attachmentExpire
  | attachmentDetach
  | leaseAcquire
  | leaseRelease
  | sessionTransport
  | controlTransport
  | logConfiguration
  | vpnMonitor
  deriving DecidableEq

instance : Named Event where
  name
    | .daemonLifecycle => "daemon_lifecycle"
    | .helperRequest => "helper_request"
    | .proxyConnection => "proxy_connection"
    | .connection => "connection"
    | .connectionRequest => "connection_request"
    | .connectionReuse => "connection_reuse"
    | .connectionLoss => "connection_loss"
    | .disconnect => "disconnect"
    | .credentialRead => "credential_read"
    | .authorizationRevoked => "authorization_revoked"
    | .credentialSave => "credential_save"
    | .credentialRemove => "credential_remove"
    | .credentialClear => "credential_clear"
    | .credentialInventory => "credential_inventory"
    | .identitySave => "identity_save"
    | .identityRemove => "identity_remove"
    | .identityInventory => "identity_inventory"
    | .sessionCreate => "session_create"
    | .sessionRename => "session_rename"
    | .sessionTerminate => "session_terminate"
    | .sessionMerge => "session_merge"
    | .paneSplit => "pane_split"
    | .panePromote => "pane_promote"
    | .paneKill => "pane_kill"
    | .paneExit => "pane_exit"
    | .paneResize => "pane_resize"
    | .viewResize => "view_resize"
    | .dividerResize => "divider_resize"
    | .paneZoom => "pane_zoom"
    | .viewUpdate => "view_update"
    | .attachmentCreate => "attachment_create"
    | .attachmentResume => "attachment_resume"
    | .attachmentSuspend => "attachment_suspend"
    | .attachmentExpire => "attachment_expire"
    | .attachmentDetach => "attachment_detach"
    | .leaseAcquire => "lease_acquire"
    | .leaseRelease => "lease_release"
    | .sessionTransport => "session_transport"
    | .controlTransport => "control_transport"
    | .logConfiguration => "log_configuration"
    | .vpnMonitor => "vpn_monitor"
  all := [.daemonLifecycle, .helperRequest, .proxyConnection, .connection, .connectionRequest,
    .connectionReuse, .connectionLoss, .disconnect, .credentialRead, .authorizationRevoked,
    .credentialSave, .credentialRemove, .credentialClear, .credentialInventory, .identitySave,
    .identityRemove, .identityInventory, .sessionCreate, .sessionRename, .sessionTerminate,
    .sessionMerge, .paneSplit, .panePromote, .paneKill, .paneExit, .paneResize, .viewResize,
    .dividerResize, .paneZoom, .viewUpdate, .attachmentCreate, .attachmentResume,
    .attachmentSuspend, .attachmentExpire, .attachmentDetach, .leaseAcquire, .leaseRelease,
    .sessionTransport, .controlTransport, .logConfiguration, .vpnMonitor]
  complete a := by cases a <;> decide
  nodup := by decide +kernel
  plain := by decide +kernel

inductive Outcome where
  | started
  | succeeded
  | missing
  | failed
  | interrupted
  deriving DecidableEq

instance : Named Outcome where
  name
    | .started => "started"
    | .succeeded => "succeeded"
    | .missing => "missing"
    | .failed => "failed"
    | .interrupted => "interrupted"
  all := [.started, .succeeded, .missing, .failed, .interrupted]
  complete a := by cases a <;> decide
  nodup := by decide +kernel
  plain := by decide +kernel

/-- Typed identifiers and classifications (Rust `Context`). -/
structure Context (Uuid : Type) where
  sessionId : Option Uuid
  paneId : Option Uuid
  attachmentId : Option Uuid
  exitCode : Option UInt32
  lease : Option Lease
  authorizationMode : Option AuthorizationMode
  authorizationReason : Option AuthorizationReason

structure ConnectionEndpoint where
  destination : Text
  hostname : Option Text
  user : Option Text
  port : Option UInt16
  deriving DecidableEq

/-- Rust `ConnectionEndpoint::valid`. -/
def ConnectionEndpoint.valid (endpoint : ConnectionEndpoint) : Bool :=
  let validText (value : Text) : Bool :=
    !value.isEmpty && utf8Len value ≤ 1024 && !value.any fun c => isControl c || isWhitespace c
  validText endpoint.destination && endpoint.hostname.all validText && endpoint.user.all validText &&
    endpoint.port ≠ some 0

structure Record (Uuid : Type) where
  schemaVersion : UInt32
  level : Level
  component : Component
  context : Context Uuid
  runId : Uuid
  eventId : Uuid
  operationId : Uuid
  attemptId : Option Uuid
  correlationId : Option Uuid
  timestampMs : UInt64
  processId : UInt32
  event : Event
  outcome : Outcome
  subjectId : Option Text
  connectionEndpoint : Option ConnectionEndpoint
  elapsedMs : UInt64
  errorCode : Option Text
  osError : Option Int32

/-- What the records use of other crates. -/
structure Crates where
  /-- `uuid::Uuid`. -/
  Uuid : Type
  /-- `Uuid::is_nil`. -/
  isNil : Uuid → Bool
  /-- `Uuid::to_string`. -/
  uuidText : Uuid → Text
  /-- `Uuid::from_str`. -/
  parseUuid : Text → Option Uuid
  /-- `OffsetDateTime::from_unix_timestamp_nanos` of some milliseconds, formatted with `Rfc3339`. -/
  formatTime : (milliseconds : Nat) → Option Text
  /-- `OffsetDateTime::parse` with `Rfc3339`, as `unix_timestamp_nanos`. -/
  parseTime : Text → Option Int
  /-- `serde_json::to_string` of a message. -/
  messageJson : Text → Option Text
  /-- `serde_json::from_str` of a message. -/
  parseMessage : Text → Option Text
  /-- `serde_json::to_string` of an endpoint that may be missing. -/
  endpointJson : Option ConnectionEndpoint → Option Text
  /-- `serde_json::from_str` of an endpoint that may be missing. -/
  parseEndpoint : Text → Option (Option ConnectionEndpoint)

/-- A hexadecimal digit (Rust `u8::is_ascii_hexdigit`). -/
def isHexDigit (c : Char) : Bool := c.isDigit || ('a' ≤ c && c ≤ 'f') || ('A' ≤ c && c ≤ 'F')

/-- Rust `Record::valid`. -/
def Record.valid (crates : Crates) (r : Record crates.Uuid) : Bool :=
  (2 ≤ r.schemaVersion && r.schemaVersion ≤ 7) &&
  (r.schemaVersion < 6 || !crates.isNil r.operationId) &&
  (r.connectionEndpoint.all fun endpoint => 5 ≤ r.schemaVersion && endpoint.valid) &&
  (7 ≤ r.schemaVersion ||
    (r.context.authorizationMode.isNone && r.context.authorizationReason.isNone &&
      !(r.event = .connectionLoss || r.event = .authorizationRevoked))) &&
  r.timestampMs.toNat < 2 ^ 63 && r.elapsedMs.toNat < 2 ^ 63 &&
  (r.subjectId.all fun value => utf8Len value = 64 && value.all isHexDigit) &&
  (r.errorCode.all fun value => utf8Len value ≤ 80 && value.all fun c => c.isAlphanum || c = '_')

/-! ### Descriptions -/

/-- Rust `description`. -/
def Event.description : Event → String
  | .daemonLifecycle => "Daemon lifecycle"
  | .helperRequest => "Helper request"
  | .proxyConnection => "Proxy connection"
  | .connection => "Open SSH connection"
  | .connectionRequest => "Ensure SSH connection"
  | .connectionReuse => "Reuse existing SSH connection"
  | .connectionLoss => "SSH connection lost"
  | .disconnect => "Host disconnect"
  | .credentialRead => "Read saved credential"
  | .authorizationRevoked => "Credential approval revoked"
  | .credentialSave => "Save credential"
  | .credentialRemove => "Remove saved credential"
  | .credentialClear => "Clear saved credentials"
  | .credentialInventory => "Inspect saved credentials"
  | .identitySave => "Save SSH identity"
  | .identityRemove => "Remove SSH identity"
  | .identityInventory => "Inspect SSH identities"
  | .sessionCreate => "Create session"
  | .sessionRename => "Rename session"
  | .sessionTerminate => "Terminate session"
  | .sessionMerge => "Merge sessions"
  | .paneSplit => "Split pane"
  | .panePromote => "Promote pane to session"
  | .paneKill => "Terminate pane process"
  | .paneExit => "Pane process exited"
  | .paneResize => "Resize pane"
  | .viewResize => "Resize terminal canvas"
  | .dividerResize => "Move pane divider"
  | .paneZoom => "Change pane zoom"
  | .viewUpdate => "Update session layout"
  | .attachmentCreate => "Attach to session"
  | .attachmentResume => "Resume session attachment"
  | .attachmentSuspend => "Attachment disconnected; reconnect grace started"
  | .attachmentExpire => "Attachment reconnect grace expired"
  | .attachmentDetach => "Attachment detached"
  | .leaseAcquire => "Acquire attachment lease"
  | .leaseRelease => "Release attachment lease"
  | .sessionTransport => "Session transport"
  | .controlTransport => "Daemon control transport"
  | .logConfiguration => "Invalid CTL_LOG_LEVEL; using info"
  | .vpnMonitor => "VPN monitoring failed; cleaning up connection"

/-- The texts of error codes (the table in Rust `message`). -/
def codeTexts : List (String × String) :=
  [("daemon_runtime_directory_failed", "could not prepare the private runtime directory"),
    ("daemon_bind_failed", "could not bind the daemon endpoint"),
    ("daemon_accept_failed", "could not accept a client connection"),
    ("daemon_shutdown_signal_failed", "could not install shutdown handlers"),
    ("daemon_platform_unsupported", "daemon is unavailable on this platform"),
    ("daemon_already_running", "another daemon already owns this endpoint"),
    ("daemon_control_endpoint_failed", "could not derive the control endpoint"),
    ("daemon_io_failed", "daemon I/O failed"),
    ("attachment_timeout_invalid", "attachment timeout is outside the supported range"),
    ("daemon_startup_lock_failed", "could not lock endpoint startup"),
    ("proxy_destination_missing", "proxy host and port are required"),
    ("history_io_failed", "terminal history I/O failed"),
    ("session_protocol_failed", "session transport I/O or framing failed"),
    ("control_protocol_failed", "control transport I/O or framing failed"),
    ("control_request_timeout", "control request timed out"),
    ("terminal_journal_failed", "terminal journal failed"),
    ("terminal_control_failed", "terminal control failed"),
    ("daemon_worker_failed", "daemon worker failed"),
    ("daemon_detach_failed", "could not detach from the invoking terminal"),
    ("daemon_runtime_failed", "could not initialize the async runtime"),
    ("ctmux_transport_failed", "transport I/O or protocol failed"),
    ("pty_failed", "PTY operation failed"),
    ("pane_spawn_failed", "could not start the pane process"),
    ("terminal_io_failed", "terminal I/O failed"),
    ("view_invalid", "layout request was rejected"),
    ("input_lease_required", "input ownership is required"),
    ("layout_lease_required", "layout ownership is required"),
    ("lease_busy", "another attachment owns the lease"),
    ("attachment_resume_rejected", "attachment is no longer available for reconnect"),
    ("session_not_found", "session was not found"),
    ("session_exists", "session already exists"),
    ("ssh_master_idle_expired", "OpenSSH idle persistence expired"),
    ("ssh_master_keepalive_timeout", "server stopped responding to SSH keepalives"),
    ("ssh_master_connection_reset", "SSH transport was reset"),
    ("ssh_master_broken_pipe", "SSH transport reported a broken pipe"),
    ("ssh_master_remote_closed", "remote peer closed the SSH transport"),
    ("ssh_master_closed_unknown", "control endpoint disappeared; exit reason unknown")]

def signedText (n : Int32) : Text :=
  if n.toInt < 0 then '-' :: digits n.toInt.natAbs else digits n.toInt.natAbs

def outcomeText (event : Event) : Outcome → String
  | .started => ": started"
  | .succeeded =>
    if event = .paneExit ∨ event = .attachmentSuspend ∨ event = .attachmentExpire ∨
        event = .attachmentDetach then "" else ": completed"
  | .missing => ": unavailable"
  | .failed => if event = .logConfiguration ∨ event = .vpnMonitor then "" else ": failed"
  | .interrupted => ": interrupted"

def codeText (code : Text) : Text :=
  match codeTexts.find? fun entry => entry.1.toList = code with
  | some entry => entry.2.toList
  | none => code

def modeText : AuthorizationMode → String
  | .freshInteractive => "; fresh authorization; UI permitted"
  | .freshQuiet => "; fresh authorization; UI forbidden"
  | .retainedApproval => "; retained approval; UI forbidden"

def reasonText : AuthorizationReason → String
  | .sessionChanged => "; console state changed or could not be verified"
  | .credentialChanged => "; credential store changed"
  | .revisionUnavailable => "; credential revision could not be verified"
  | .expired => "; approval deadline reached"
  | .scopeChanged => "; connection settings or trust changed"
  | .disconnect => "; host explicitly disconnected"
  | .hostConfirmation => "; host trust confirmation required"
  | .credentialReadFailed => "; credential could not be read"
  | .canceled => "; authentication attempt canceled"

/-- A human description (Rust `Record::message`). -/
def Record.message {Uuid : Type} (r : Record Uuid) : Text :=
  r.event.description.toList ++ (outcomeText r.event r.outcome).toList ++
    r.errorCode.elim [] (fun code => "; ".toList ++ codeText code) ++
    r.context.exitCode.elim [] (fun code => "; exit code ".toList ++ digits code.toNat) ++
    r.context.authorizationMode.elim [] (fun mode => (modeText mode).toList) ++
    r.context.authorizationReason.elim [] (fun reason => (reasonText reason).toList) ++
    r.osError.elim [] (fun code => "; OS error ".toList ++ signedText code)

end Ctl.Observability
