import Ctl.Base.Guards
import Ctl.Hosts.Target

/-!
# Resolution of saved routes

Model of `ctl/client/src/hosts/route.rs`. The resolver appends to one list of gateways while it follows the hosts that
a route refers to; the hosts it is inside of are active. The recursion has a depth argument, of which ten are enough:
`resolveRoute` is the resolution as the source has it.
-/

namespace Ctl.Hosts
open Ctl.Base Ctl.Proto Ctl.Approval

/-- Rust `GatewayTailscaleBinding`. -/
structure GatewayTailscaleBinding where
  gatewayIndex : Nat
  nodeId : Text

/-- Rust `ResolvedRoute`. -/
structure ResolvedRoute where
  gateways : List SshGatewayDto
  tailscaleBindings : List GatewayTailscaleBinding

/-- Rust `RouteResolver`, without the catalog. -/
structure RouteResolver where
  active : List Text
  gateways : List SshGatewayDto
  tailscaleBindings : List GatewayTailscaleBinding

/-- How a resolution ends without a route: it has no depth left, it panics, or it returns an error. -/
inductive Failure where
  | stuck
  | panic
  | host (error : HostError)

/-! ### Errors -/

/-- Rust `invalid_method`. -/
def invalidMethod : HostError := .new "host_hop_invalid" "Only an SSH connection method can be used as a hop."

/-- Rust `route_too_long`. -/
def routeTooLong : HostError :=
  .new "host_route_too_long" "The expanded route exceeds eight hops. Shorten the route or a linked host's route."

variable (host : WorkspaceHost) (resolver : RouteResolver) (env : Env) (catalog : HostCatalogDocument)

def routeCycle (method : WorkspaceConnectionMethod) : HostError where
  code := "host_route_cycle"
  message := "The route through ".toList ++ host.name ++ " / ".toList ++ method.name ++
    " contains a cycle. Edit its hops before connecting.".toList

def invalidVpnRoute : HostError :=
  .new "invalid_vpn_route"
    "A VPN must be first in the expanded route or follow an SSH host. Edit the route or a linked host's route."

def gatewayMissing : HostError := .new "gateway_missing" "A saved gateway is missing."

def hostMissing : HostError :=
  .new "host_hop_missing"
    "A saved host used as a hop is missing. Edit the route before removing that host."

def methodMissing : HostError where
  code := "host_hop_method_missing"
  message := "The selected connection method for hop ".toList ++ host.name ++
    " is missing. Edit routes that use it before removing that method.".toList

def identityUnsupported (method : WorkspaceConnectionMethod) : HostError where
  code := "host_hop_identity_unsupported"
  message := "Hop ".toList ++ host.name ++ " / ".toList ++ method.name ++
    (" selects an identity file that SSH hops cannot use yet. " ++
      "Choose a method whose key is configured in OpenSSH instead.").toList

def addressUnsupported : HostError :=
  .new "host_hop_address_unsupported"
    ("A saved host used as a hop must have a valid SSH hostname and account. " ++
      "Edit its selected connection method.")

/-! ### Gateways -/

/-- Rust `vpn_gateway`. -/
def vpnGateway (connectionId : Text) : SshGatewayDto where
  kind := .vpn
  vpnConnectionId := some connectionId
  gatewayId := "vpn:".toList ++ connectionId
  name := connectionId
  destination := connectionId
  hostname := none
  user := none
  port := none
  identityFile := none
  remoteInfo := none
  mode := .automatic

def savedGateway (gateway : WorkspaceSshGateway) (mode : SshGatewayModeDto) : SshGatewayDto where
  kind := gateway.kind
  vpnConnectionId := none
  gatewayId := gateway.gatewayId
  name := gateway.name
  destination := gateway.destination
  hostname := gateway.hostname
  user := gateway.user
  port := gateway.port
  identityFile := gateway.identityFile
  remoteInfo := gateway.remoteInfo
  mode := mode

/-- Split a text at the last occurrence of a character (Rust `str::rsplit_once`). -/
def rsplitOnce (c : Char) : Text → Option (Text × Text)
  | [] => none
  | d :: rest =>
    match rsplitOnce c rest with
    | some (before, after) => some (d :: before, after)
    | none => if d = c then some ([], rest) else none

def isHopSeparator (c : Char) : Bool := c = ',' || c = '@'

/-- Rust `hop_endpoint`. -/
def hopEndpoint (destination : Text) (user : Option Text) : Except HostError (Text × Option Text) :=
  let (embeddedUser, destination) := match rsplitOnce '@' destination with
    | none => (none, destination)
    | some (user, destination) => (some user, destination)
  let user := user.or embeddedUser
  if destination.isEmpty || destination.any isHopSeparator ||
      user.any (fun user => user.isEmpty || user.any isHopSeparator) then
    .error addressUnsupported
  else .ok (destination, user)

/-- The checks of a hop before its route is expanded, and its endpoint (Rust `step`, for a host). -/
def checkHop (host : WorkspaceHost) (method : WorkspaceConnectionMethod) :
    Except HostError (SshSettings × Text × Option Text) :=
  match method.target with
  | .local_ => .error invalidMethod
  | .ssh settings =>
    if settings.identityFile.isSome then .error (identityUnsupported host method)
    else do
      let _ ← method.target.toSshTarget env
      let (destination, user) ← hopEndpoint (method.sshConfigAlias.getD settings.destination) settings.user
      .ok (settings, destination, user)

def hopGateway (hostId methodId : Text) (mode : SshGatewayModeDto) (checked : SshSettings × Text × Option Text) :
    SshGatewayDto where
  kind := .ssh
  vpnConnectionId := none
  gatewayId := "host:".toList ++ hostId ++ ':' :: methodId
  name := host.name
  destination := checked.2.1
  hostname := checked.1.hostname
  user := checked.2.2
  port := checked.1.port
  identityFile := none
  remoteInfo := host.remoteInfo
  mode := mode

/-! ### The resolver -/

def refuse {α : Type} (error : HostError) : Except Failure α := .error (.host error)

def orRefuse {α : Type} : Except HostError α → Except Failure α
  | .ok a => .ok a
  | .error e => refuse e

/-- Rust `RouteResolver::push`. -/
def RouteResolver.push (gateway : SshGatewayDto) : Except Failure RouteResolver :=
  if 8 ≤ resolver.gateways.length then refuse routeTooLong
  else if gateway.kind = .vpn ∧ resolver.gateways.getLast?.any (fun previous => previous.kind ≠ .ssh) then
    refuse invalidVpnRoute
  else .ok { resolver with gateways := resolver.gateways ++ [gateway] }

def RouteResolver.bindNext (nodeId : Option Text) : RouteResolver :=
  match nodeId with
  | some nodeId =>
    let binding := { gatewayIndex := resolver.gateways.length, nodeId }
    { resolver with tailscaleBindings := resolver.tailscaleBindings ++ [binding] }
  | none => resolver

def HostCatalogDocument.findGateway (gatewayId : Text) : Option WorkspaceSshGateway :=
  catalog.sshGateways.find? fun item => item.gatewayId = gatewayId

def HostCatalogDocument.findHost (hostId : Text) : Option WorkspaceHost :=
  catalog.hosts.find? fun host => host.hostId = hostId

def WorkspaceHost.findMethod (methodId : Text) : Option WorkspaceConnectionMethod :=
  host.connectionMethods.find? fun method => method.methodId = methodId

/-- Rust `RouteResolver::step`; `methodRoute` expands the route of a hop. -/
def RouteResolver.step
    (methodRoute : RouteResolver → WorkspaceHost → WorkspaceConnectionMethod → Except Failure RouteResolver)
    (resolver : RouteResolver) : SshGatewayRouteStepDto → Except Failure RouteResolver
  | .vpn vpnConnectionId => resolver.push (vpnGateway vpnConnectionId)
  | .gateway gatewayId mode =>
    match catalog.findGateway gatewayId with
    | none => refuse gatewayMissing
    | some gateway => resolver.push (savedGateway gateway mode)
  | .host hostId methodId mode =>
    match catalog.findHost hostId with
    | none => refuse hostMissing
    | some host =>
      match host.findMethod methodId with
      | none => refuse (methodMissing host)
      | some method => do
        let checked ← orRefuse (checkHop env host method)
        let resolver ← methodRoute resolver host method
        -- The binding is made before the gateway is pushed, with the index it will have.
        (resolver.bindNext method.tailscaleNodeId).push (hopGateway host hostId methodId mode checked)

/-- Rust `RouteResolver::method_route`, to a depth. -/
def methodRoute (env : Env) (catalog : HostCatalogDocument) :
    (depth : Nat) → RouteResolver → WorkspaceHost → WorkspaceConnectionMethod → Except Failure RouteResolver
  | 0, _, _, _ => .error .stuck
  | depth + 1, resolver, host, method =>
    if host.hostId ∈ resolver.active then refuse (routeCycle host method)
    else
      let resolver := { resolver with active := host.hostId :: resolver.active }
      if 9 < resolver.active.length then refuse routeTooLong
      else
        match method.target with
        | .local_ => refuse invalidMethod
        | .ssh settings => do
          let resolver ← match settings.vpnConnectionId with
            | some connectionId => resolver.push (vpnGateway connectionId)
            | none => .ok resolver
          let resolver ← settings.gatewayRoute.foldlM
            (fun resolver step => resolver.step env catalog (methodRoute env catalog depth) step) resolver
          .ok { resolver with active := resolver.active.erase host.hostId }

/-- Take the root's VPN off the front again; Rust panics where there is none, and at an index below zero. -/
def withoutLegacyVpn : Except Failure ResolvedRoute :=
  match resolver.gateways with
  | [] => .error .panic
  | _ :: gateways => do
    let tailscaleBindings ← resolver.tailscaleBindings.mapM fun binding =>
      if binding.gatewayIndex = 0 then .error .panic
      else .ok { binding with gatewayIndex := binding.gatewayIndex - 1 }
    .ok { gateways, tailscaleBindings }

/-- Rust `resolve`, to a depth. -/
def resolveIn (depth : Nat) (host : WorkspaceHost) (method : WorkspaceConnectionMethod) :
    Except Failure ResolvedRoute := do
  let resolver ← methodRoute env catalog depth { active := [], gateways := [], tailscaleBindings := [] } host method
  match method.target with
  | .local_ => refuse invalidMethod
  | .ssh settings =>
    -- The root method keeps its VPN in its own field; the VPNs of hops are ordinary steps.
    if settings.vpnConnectionId.isSome then withoutLegacyVpn resolver
    else .ok { gateways := resolver.gateways, tailscaleBindings := resolver.tailscaleBindings }

/-- Rust `resolve`. -/
def resolveRoute (host : WorkspaceHost) (method : WorkspaceConnectionMethod) :
    Except Failure ResolvedRoute := resolveIn env catalog 10 host method

end Ctl.Hosts
