import Ctl.Approval.SshTarget
import Ctl.Bundles.Manifest

/-!
# Saved hosts

Model of the saved hosts and their connection methods: `ctl/client/src/hosts/models.rs`, `gateways.rs`, `target.rs`,
`mod.rs` and `to_ssh_target` of `transport.rs`, with `RemoteIdentity` of `ctl/proto/src/lib.rs`. A text is its list of
characters, and a set of names is the list of its members.
-/

namespace Ctl.Hosts
open Ctl.Base Ctl.Proto Ctl.Approval
open Ctl.Bundles (ComponentBuildInfo ProtocolInfo)

scoped instance : LawfulBEq Text := inferInstanceAs (LawfulBEq (List Char))

/-- Rust `HostError`. -/
structure HostError where
  code : String
  message : Text

/-- Rust `HostError::new`. -/
def HostError.new (code message : String) : HostError := ⟨code, message.toList⟩

/-- What the functions use of the process they run in, of other crates and of how Rust reads and shows values. -/
structure Env where
  /-- The endpoint of the VPN broker (Rust `ctl_ipc::vpn::socket_path`). -/
  socketPath : Path
  parseUuid : ParseUuid
  /-- A text in an error (Rust `{:?}`). -/
  debugText : Text → Text
  /-- Whether a text is an address (Rust `parse::<IpAddr>().is_ok()`). -/
  isIpAddr : Text → Bool

/-! ### Remote identities -/

/-- Rust `BundleVersion`. -/
structure BundleVersion where
  appVersion : String
  bundleId : String
  gitRevision : String
  targetTriple : String
  deriving DecidableEq

/-- Rust `RemoteIdentity`. -/
structure RemoteIdentity where
  remoteId : Text
  agentVersion : String
  build : Option ComponentBuildInfo
  ctmuxRestartSupported : Bool
  bundle : Option BundleVersion
  protocols : List ProtocolInfo
  deriving DecidableEq

/-- The closure `text` of Rust `RemoteIdentity::is_valid`. -/
def isShortText (value : String) : Bool :=
  !value.isEmpty && value.utf8ByteSize ≤ 256 && !value.toList.any isControl

variable (env : Env)

/-- Rust `RemoteIdentity::is_valid`. -/
def RemoteIdentity.isValid (identity : RemoteIdentity) : Bool :=
  validRemoteId env.parseUuid identity.remoteId && isShortText identity.agentVersion &&
    (identity.build.all fun build => build.isValid && build.version = identity.agentVersion) &&
    (identity.bundle.all fun bundle =>
      [bundle.appVersion, bundle.bundleId, bundle.gitRevision, bundle.targetTriple].all isShortText) &&
    identity.protocols.length ≤ 32 && identity.protocols.all (·.isValid) &&
    identity.protocols.zipIdx.all fun (protocol, index) =>
      !(identity.protocols.take index).any fun previous => previous.name = protocol.name

/-! ### Gateways and methods -/

/-- Rust `SshGatewayModeDto`. -/
inductive SshGatewayModeDto where
  | automatic
  | nativeOnly
  | agentRelayOnly
  deriving DecidableEq

/-- Rust `SshGatewayRouteStepDto`. -/
inductive SshGatewayRouteStepDto where
  | gateway (gatewayId : Text) (mode : SshGatewayModeDto)
  | host (hostId methodId : Text) (mode : SshGatewayModeDto)
  | vpn (vpnConnectionId : Text)
  deriving DecidableEq

/-- A saved gateway (Rust `WorkspaceSshGateway`). -/
structure WorkspaceSshGateway where
  kind : GatewayKind
  gatewayId : Text
  name : Text
  destination : Text
  hostname : Option Text
  user : Option Text
  port : Option UInt16
  identityFile : Option Text
  remoteInfo : Option RemoteIdentity
  deriving DecidableEq

/-- A gateway of an expanded route (Rust `SshGatewayDto`). -/
structure SshGatewayDto where
  kind : GatewayKind
  vpnConnectionId : Option Text
  gatewayId : Text
  name : Text
  destination : Text
  hostname : Option Text
  user : Option Text
  port : Option UInt16
  identityFile : Option Text
  remoteInfo : Option RemoteIdentity
  mode : SshGatewayModeDto
  deriving DecidableEq

/-- The fields of Rust `ConnectionTargetDto::Ssh`. -/
structure SshSettings where
  remoteInfo : Option RemoteIdentity
  destination : Text
  sshConfigAlias : Option Text
  useSshConfigMaster : Option Bool
  hostname : Option Text
  user : Option Text
  port : Option UInt16
  identityFile : Option Text
  gatewayRoute : List SshGatewayRouteStepDto
  vpnConnectionId : Option Text
  gateways : List SshGatewayDto
  deriving DecidableEq

/-- Rust `ConnectionTargetDto`. -/
inductive ConnectionTargetDto where
  | local_
  | ssh (settings : SshSettings)
  deriving DecidableEq

/-- Rust `ConnectionTargetDto::ssh`. -/
def SshSettings.of (destination : Text) : SshSettings where
  remoteInfo := none
  destination := destination
  sshConfigAlias := none
  useSshConfigMaster := none
  hostname := none
  user := none
  port := none
  identityFile := none
  gatewayRoute := []
  vpnConnectionId := none
  gateways := []

/-- Rust `WorkspaceConnectionMethod`. -/
structure WorkspaceConnectionMethod where
  methodId : Text
  name : Text
  sshConfigAlias : Option Text
  useSshConfigMaster : Option Bool
  tailscaleNodeId : Option Text
  target : ConnectionTargetDto
  deriving DecidableEq

/-- Rust `WorkspaceHost`. -/
structure WorkspaceHost where
  hostId : Text
  name : Text
  connectionMethods : List WorkspaceConnectionMethod
  preferredMethodId : Option Text
  remoteInfo : Option RemoteIdentity
  deriving DecidableEq

/-- Rust `HostCatalogDocument`. -/
structure HostCatalogDocument where
  schemaVersion : Nat
  hosts : List WorkspaceHost
  sshGateways : List WorkspaceSshGateway
  hostColors : List (Text × Text)

/-! ### Targets of the broker -/

/-- Rust `vpn_gateway` of `hosts/mod.rs`. -/
def brokerVpnGateway (connectionId : Text) : SshGateway where
  kind := .vpn
  vpn := some { connectionId := connectionId, socketPath := env.socketPath, expectedRemoteId := none }
  destination := connectionId
  hostname := none
  user := none
  port := none
  identityFile := none
  mode := .automatic

def brokerMode : SshGatewayModeDto → SshGatewayMode
  | .automatic => .automatic
  | .nativeOnly => .nativeOnly
  | .agentRelayOnly => .agentRelayOnly

def ownerRemoteId (gateways : List SshGatewayDto) (index : Nat) : Option Text :=
  if index = 0 then none
  else
    match gateways[index - 1]? with
    | some owner => if owner.kind = .ssh then owner.remoteInfo.map (·.remoteId) else none
    | none => none

/-- One gateway as the broker has it (the loop of Rust `ssh_gateways`). -/
def brokerGateway (gateways : List SshGatewayDto) (index : Nat) (gateway : SshGatewayDto) :
    SshGateway where
  kind := gateway.kind
  vpn := gateway.vpnConnectionId.map fun connectionId =>
    { connectionId, socketPath := env.socketPath, expectedRemoteId := ownerRemoteId gateways index }
  destination := gateway.destination
  hostname := gateway.hostname
  user := gateway.user
  port := gateway.port
  identityFile := gateway.identityFile.map utf8Bytes
  mode := brokerMode gateway.mode

/-- Rust `ConnectionTargetDto::ssh_gateways`. -/
def SshSettings.sshGateways (settings : SshSettings) : List SshGateway :=
  (settings.vpnConnectionId.map (brokerVpnGateway env)).toList ++
    settings.gateways.zipIdx.map fun (gateway, index) => brokerGateway env settings.gateways index gateway

/-- Rust `SshTarget::normalize_master_policy`. -/
def normalizeMasterPolicy (target : SshTarget) : SshTarget :=
  if target.useSshConfigMaster = some target.sshConfigAlias.isSome then { target with useSshConfigMaster := none }
  else target

/-- Rust `ConnectionTargetDto::to_ssh_target`. -/
def ConnectionTargetDto.toSshTarget (target : ConnectionTargetDto) : Except HostError SshTarget :=
  match target with
  | .local_ => .error (.new "invalid_ssh_target" "Select a remote SSH host.")
  | .ssh settings =>
    if settings.destination.isEmpty || settings.destination.head? = some '-' || hasSpacing settings.destination ||
        (settings.hostname.toList ++ settings.user.toList).any (fun value => value.isEmpty || hasSpacing value) then
      .error (.new "invalid_ssh_target" "The saved SSH address or account is invalid.")
    else
      let converted : SshTarget := {
        destination := settings.destination
        sshConfigAlias := settings.sshConfigAlias
        useSshConfigMaster := settings.useSshConfigMaster
        hostname := settings.hostname
        user := settings.user
        port := settings.port
        identityFile := settings.identityFile.map utf8Bytes
        gateways := settings.sshGateways env }
      if !hasValidGatewayRoute env.parseUuid converted.gateways then
        .error (.new "invalid_vpn_route"
          "A VPN must be first in the route or follow an SSH host. Choose a valid saved VPN connection.")
      else .ok (normalizeMasterPolicy converted)

end Ctl.Hosts
