import Ctl.Base.Utf8Text
import Ctl.Proto.History

/-!
# SSH targets

Model of the targets of `ctl/ipc/src/lib.rs`, of their validation in `ctl/daemon/src/lib.rs` and of the
principal of `ctl/daemon/src/wake_recovery.rs`. A path is its bytes.
-/

namespace Ctl.Approval
open Ctl.Base Ctl.Proto

/-- The bytes of a path (Rust `PathBuf`). -/
abbrev Path := List UInt8

/-- Rust `Path::is_absolute`. -/
def Path.isAbsolute (path : Path) : Bool := path.head? = some 0x2f

/-- Rust `GatewayKind`. -/
inductive GatewayKind where
  | ssh
  | socks5
  | vpn
  deriving DecidableEq

/-- Rust `SshGatewayMode`. -/
inductive SshGatewayMode where
  | automatic
  | nativeOnly
  | agentRelayOnly
  deriving DecidableEq

/-- A stable VPN reference (Rust `VpnGateway`). -/
structure VpnGateway where
  connectionId : Text
  socketPath : Path
  expectedRemoteId : Option Text
  deriving DecidableEq

/-- Rust `SshGateway`. -/
structure SshGateway where
  kind : GatewayKind
  vpn : Option VpnGateway
  destination : Text
  hostname : Option Text
  user : Option Text
  port : Option UInt16
  identityFile : Option Path
  mode : SshGatewayMode
  deriving DecidableEq

/-- Rust `SshTarget`. -/
structure SshTarget where
  destination : Text
  sshConfigAlias : Option Text
  useSshConfigMaster : Option Bool
  hostname : Option Text
  user : Option Text
  port : Option UInt16
  identityFile : Option Path
  gateways : List SshGateway
  deriving DecidableEq

/-! ### Validation -/

/-- Nothing but white space (Rust `trim().is_empty()`). -/
def isBlank (text : Text) : Bool := text.all isWhitespace

def hasSpacing (text : Text) : Bool := text.any fun c => isControl c || isWhitespace c

/-- What `uuid::Uuid::parse_str` finds in a text: whether it is nil, and its `to_string`. -/
abbrev ParseUuid := Text → Option (Bool × Text)

variable (parseUuid : ParseUuid) (target : SshTarget) (gateways : List SshGateway)

/-- Rust `valid_remote_id`. -/
def validRemoteId (value : Text) : Bool :=
  match parseUuid value with
  | some (nil, text) => !nil && text = value
  | none => false

/-- VPN references cannot also contain a stale endpoint or SSH credentials
    (Rust `SshGateway::has_valid_vpn_configuration`). -/
def SshGateway.hasValidVpnConfiguration (gateway : SshGateway) : Bool :=
  match gateway.kind, gateway.vpn with
  | .vpn, some vpn =>
    !vpn.connectionId.isEmpty && utf8Len vpn.connectionId ≤ 128 && !hasSpacing vpn.connectionId &&
      vpn.socketPath.isAbsolute && vpn.expectedRemoteId.all (validRemoteId parseUuid) &&
      gateway.destination = vpn.connectionId && gateway.hostname.isNone && gateway.user.isNone &&
      gateway.port.isNone && gateway.identityFile.isNone && gateway.mode = .automatic
  | .vpn, none => false
  | _, vpn => vpn.isNone

/-- Whether a VPN may stand at this place of a route: it is local at first, or follows an SSH hop. -/
def vpnPlaced (index : Nat) (gateway : SshGateway) : Bool :=
  gateway.kind ≠ .vpn ||
    if index = 0 then gateway.vpn.all fun vpn => vpn.expectedRemoteId.isNone
    else (gateways[index - 1]?).any fun before => before.kind = .ssh

/-- Rust `has_valid_gateway_route`. -/
def hasValidGatewayRoute : Bool :=
  gateways.length ≤ 8 && gateways.zipIdx.all fun (gateway, index) =>
    gateway.hasValidVpnConfiguration parseUuid && vpnPlaced gateways index gateway

/-- Rust `invalid_gateway`. -/
def invalidGateway (gateway : SshGateway) : Bool :=
  let separates (c : Char) : Bool := c = ',' || c = '@'
  !gateway.hasValidVpnConfiguration parseUuid || isBlank gateway.destination ||
    gateway.destination.any isControl || gateway.destination.any separates ||
    (gateway.hostname.any fun value => isBlank value || value.any separates || hasSpacing value) ||
    (gateway.user.any fun value => isBlank value || value.any separates || hasSpacing value) ||
    gateway.port = some 0 || gateway.identityFile.isSome || gateway.mode = .agentRelayOnly ||
    (gateway.kind = .socks5 && gateway.port.isNone)

/-- Whether the endpoint of a target is refused (the first check of Rust `validate_target`). -/
def invalidTarget : Bool :=
  (target.sshConfigAlias.any fun name =>
    name ≠ target.destination || name.head? = some '-' || name.head? = some '!' ||
      name.any fun c => isControl c || isWhitespace c || c = '*' || c = '?') ||
    isBlank target.destination || target.destination.any isControl ||
    (target.hostname.any fun value => isBlank value || hasSpacing value) ||
    (target.user.any fun value => isBlank value || hasSpacing value) ||
    target.port = some 0 || target.identityFile.any List.isEmpty

/-- The answers of Rust `validate_target`. -/
inductive TargetError where
  /-- "invalid SSH target" -/
  | target
  /-- "invalid SSH gateway route" -/
  | route

/-- Rust `validate_target`. -/
def validateTarget : Except TargetError Unit :=
  if invalidTarget target then .error .target
  else if !hasValidGatewayRoute parseUuid target.gateways || target.gateways.any (invalidGateway parseUuid) then
    .error .route
  else .ok ()

/-! ### Principals and routes -/

/-- What a credential is bound to: the exact endpoint, account, identity and route, not who owns the master
    (Rust `principal`). -/
def principal : SshTarget :=
  let target := { target with useSshConfigMaster := none }
  if target.hostname.isNone ∧ target.sshConfigAlias = some target.destination then
    { target with sshConfigAlias := none }
  else target

def gatewayTarget (index : Nat) (gateway : SshGateway) : SshTarget where
  destination := gateway.destination
  sshConfigAlias := gateway.hostname.map fun _ => gateway.destination
  useSshConfigMaster := some false
  hostname := gateway.hostname
  user := gateway.user
  port := gateway.port
  identityFile := gateway.identityFile
  gateways := gateways.take index

/-- The hops that OpenSSH connects to (Rust `route_targets`). -/
def routeTargets : List SshTarget :=
  target :: ((target.gateways.zipIdx.filter fun (gateway, _) => gateway.kind = .ssh).map
    fun (gateway, index) => gatewayTarget target.gateways index gateway)

/-- A principal has the gateways of its target. -/
@[simp] lemma principal_gateways : (principal target).gateways = target.gateways := by
  unfold principal
  dsimp only
  split <;> rfl

lemma routeTargets_tail {a b : SshTarget} (same : principal a = principal b) :
    (routeTargets a).tail = (routeTargets b).tail := by
  have gateways : a.gateways = b.gateways := by
    rw [← principal_gateways a, ← principal_gateways b, same]
  rw [routeTargets, routeTargets, gateways]
  rfl

end Ctl.Approval
