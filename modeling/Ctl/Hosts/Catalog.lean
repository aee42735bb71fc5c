import Ctl.Hosts.Resolver

/-!
# Valid catalogs

Model of `HostCatalogDocument::validate` of `ctl/client/src/hosts/catalog.rs`, with `validated_gateway_ids` of
`gateways.rs` and `is_valid` of `models.rs`. Every method of a valid catalog has been resolved.
-/

namespace Ctl.Hosts
open Ctl.Base Ctl.Proto Ctl.Approval

variable {env : Env} {catalog : HostCatalogDocument}

/-- Rust `valid_workspace_text`. -/
def validWorkspaceText (text : Text) : Bool := !text.isEmpty && utf8Len text ≤ 4096 && !text.any isControl

variable (value : Text)

/-- Rust `valid_connection_id`. -/
def validConnectionId : Bool := !value.isEmpty && utf8Len value ≤ 128 && !hasSpacing value

/-- Rust `tailscale::valid_node_id`. -/
def validNodeId : Bool :=
  !value.isEmpty && utf8Len value ≤ 256 && value.all fun c => c.isAlphanum || c = '_' || c = '-'

def isPlain : Bool := !value.any fun c => isHopSeparator c || isWhitespace c

/-- What Rust `validated_gateway_ids` requires of a gateway. -/
def WorkspaceSshGateway.isValid (env : Env) (gateway : WorkspaceSshGateway) : Bool :=
  validWorkspaceText gateway.gatewayId && validWorkspaceText gateway.name && validWorkspaceText gateway.destination &&
    !gateway.destination.any isHopSeparator && gateway.port ≠ some 0 && gateway.kind ≠ .vpn &&
    (gateway.kind ≠ .socks5 || gateway.port.isSome && gateway.hostname.isNone && gateway.identityFile.isNone &&
      gateway.remoteInfo.isNone) &&
    gateway.remoteInfo.all (·.isValid env) &&
    [gateway.hostname, gateway.user, gateway.identityFile].all (·.all validWorkspaceText) &&
    gateway.hostname.all isPlain && gateway.user.all isPlain

/-- Rust `validated_gateway_ids`. -/
def validatedGatewayIds (env : Env) (gateways : List WorkspaceSshGateway) : Option (List Text) :=
  if gateways.length ≤ 256 ∧ (gateways.map (·.gatewayId)).Nodup ∧ gateways.all (·.isValid env) then
    some (gateways.map (·.gatewayId))
  else none

/-- Rust `SshGatewayRouteStepDto::gateway_id`. -/
def SshGatewayRouteStepDto.gatewayId : SshGatewayRouteStepDto → Option Text
  | .gateway gatewayId _ => some gatewayId
  | .host _ _ _ | .vpn _ => none

/-- What Rust `WorkspaceConnectionMethod::is_valid` requires of a step. -/
def SshGatewayRouteStepDto.isValid (gatewayIds : List Text) : SshGatewayRouteStepDto → Bool
  | .gateway gatewayId _ => gatewayId ∈ gatewayIds
  | .host hostId methodId _ => hostId ≠ "local".toList && validWorkspaceText hostId && validWorkspaceText methodId
  | .vpn connectionId => validConnectionId connectionId

/-- Rust `WorkspaceConnectionMethod::is_valid`. -/
def WorkspaceConnectionMethod.isValid (gatewayIds : List Text) (method : WorkspaceConnectionMethod) : Bool :=
  match method.target with
  | .local_ => false
  | .ssh settings =>
    validWorkspaceText method.methodId && validWorkspaceText method.name &&
      (method.sshConfigAlias.all fun alias_ => validWorkspaceText alias_ && alias_ = settings.destination &&
        method.tailscaleNodeId.isNone && alias_.head? ≠ some '!' && alias_.head? ≠ some '-' &&
        !alias_.any fun c => c = '*' || c = '?' || isWhitespace c) &&
      method.tailscaleNodeId.all validNodeId && validWorkspaceText settings.destination && settings.port ≠ some 0 &&
      [settings.hostname, settings.user, settings.identityFile].all (·.all validWorkspaceText) &&
      settings.remoteInfo.isNone && settings.sshConfigAlias.isNone && settings.useSshConfigMaster.isNone &&
      settings.gateways.isEmpty && settings.vpnConnectionId.all validConnectionId &&
      settings.gatewayRoute.length + settings.vpnConnectionId.toList.length ≤ 8 &&
      settings.gatewayRoute.all (·.isValid gatewayIds) &&
      decide (settings.gatewayRoute.filterMap (·.gatewayId)).Nodup

/-- Rust `WorkspaceHost::is_valid`. -/
def WorkspaceHost.isValid (env : Env) (gatewayIds : List Text) (host : WorkspaceHost) : Bool :=
  validWorkspaceText host.hostId && validWorkspaceText host.name &&
    if host.hostId = "local".toList then
      host.name = "Local".toList && host.connectionMethods.isEmpty && host.preferredMethodId.isNone &&
        host.remoteInfo.isNone
    else
      !host.connectionMethods.isEmpty && host.connectionMethods.length ≤ 256 && host.remoteInfo.all (·.isValid env) &&
        decide (host.connectionMethods.map (·.methodId)).Nodup && host.connectionMethods.all (·.isValid gatewayIds) &&
        host.preferredMethodId.any (· ∈ host.connectionMethods.map (·.methodId))

/-- A colour as `#rrggbb`, of a host. -/
def validHostColor (entry : Text × Text) : Bool :=
  validWorkspaceText entry.1 && utf8Len entry.2 = 7 && entry.2.head? = some '#' &&
    entry.2.tail.all fun c => c.isDigit || ('a' ≤ c && c ≤ 'f') || ('A' ≤ c && c ≤ 'F')

def hostsVersionUnsupported : HostError :=
  .new "hosts_version_unsupported"
    "This host catalog was written by another app version. Its file has not been changed."

def hostsInvalid : HostError :=
  .new "hosts_invalid" "The host catalog contains invalid or duplicate connections."

/-- Rust `HostCatalogDocument::validate`. -/
def HostCatalogDocument.validate (env : Env) (catalog : HostCatalogDocument) : Except Failure Unit :=
  if catalog.schemaVersion ≠ 1 ∧ catalog.schemaVersion ≠ 2 then refuse hostsVersionUnsupported
  else if catalog.schemaVersion = 1 ∧ catalog.hostColors ≠ [] ∨ !catalog.hostColors.all validHostColor then
    refuse hostsInvalid
  else
    match validatedGatewayIds env catalog.sshGateways with
    | none => refuse hostsInvalid
    | some gatewayIds =>
      if 1024 < catalog.hosts.length ∨ ¬ (catalog.hosts.map (·.hostId)).Nodup ∨
          ¬ catalog.hosts.all fun host => host.hostId ≠ "local".toList && host.isValid env gatewayIds then
        refuse hostsInvalid
      else
        catalog.hosts.forM fun host => host.connectionMethods.forM fun method => do
          let _ ← resolve env catalog host.hostId (some method.methodId)
          .ok ()

/-! ### What is known of a valid catalog -/

structure Valid (env : Env) (catalog : HostCatalogDocument) : Prop where
  gateways : (catalog.sshGateways.map (·.gatewayId)).Nodup
  gateway : ∀ gateway ∈ catalog.sshGateways, gateway.isValid env
  hosts : (catalog.hosts.map (·.hostId)).Nodup
  host : ∀ host ∈ catalog.hosts, host.hostId ≠ "local".toList ∧
    host.isValid env (catalog.sshGateways.map (·.gatewayId))
  resolves : ∀ host ∈ catalog.hosts, ∀ method ∈ host.connectionMethods,
    ∃ resolved, resolve env catalog host.hostId (some method.methodId) = .ok resolved

lemma valid_of_validate (ok : catalog.validate env = .ok ()) : Valid env catalog := by
  unfold HostCatalogDocument.validate validatedGatewayIds at ok
  split at ok
  · cases ok
  split at ok
  · cases ok
  split at ok
  · cases ok
  rename_i gatewayIds ids
  split at ok
  · cases ok
  rename_i fits
  simp only [Option.ite_none_right_eq_some, Option.some.injEq] at ids
  obtain ⟨⟨_, unique, gateways⟩, rfl⟩ := ids
  simp only [not_or, not_not, List.all_eq_true, Bool.and_eq_true, decide_eq_true_eq] at fits gateways
  refine ⟨unique, gateways, fits.2.1, fits.2.2, fun host listed method own => ?_⟩
  obtain ⟨resolved, resolves, _⟩ := bind_eq_ok.1 (forM_eq_ok.1 (forM_eq_ok.1 ok host listed) method own)
  exact ⟨resolved, resolves⟩

end Ctl.Hosts
