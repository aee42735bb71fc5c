import Ctl.Hosts.Catalog

/-!
# Routes of the desktop

Model of `expandSshRoute`, `orderedSshRoute` and `resolvedVpnExecutionTarget` of
`apps/desktop/src/features/workspace/sshRoute.ts`, and of `vpn_owner_target` of `ctl/ipc/src/lib.rs`. The desktop
expands the routes of a valid catalog as the resolver does (`expandRoute_runs`), but it trims the IDs of VPNs: one that
is blank in JavaScript alone is refused (`desktopRoute_agrees`).
-/

namespace Ctl.Hosts
open Ctl.Base Ctl.Proto Ctl.Approval Relation

variable {env : Env} {catalog : HostCatalogDocument}

/-! ### Hosts of the desktop -/

def present (text : Option Text) : Option Text := text.filter fun text => !text.isEmpty

/-- White space as JavaScript trims it: without the next line, with the byte order mark. -/
def isJsSpace (c : Char) : Bool := c.val = 0xfeff || isWhitespace c && c.val ≠ 0x85

def isJsBlank (text : Text) : Bool := text.all isJsSpace

/-- The field `source` of TypeScript `WorkspaceHost`. -/
inductive HostSource where
  | saved
  | sshConfig
  | tailscale
  | unavailable
  deriving DecidableEq

/-- TypeScript `WorkspaceConnectionMethod`, with the field `unavailable` of its target. -/
structure DesktopMethod where
  methodId : Text
  name : Text
  sshConfigAlias : Option Text
  target : SshSettings
  unavailable : Option Text

/-- TypeScript `WorkspaceHost`. -/
structure DesktopHost where
  source : Option HostSource
  expectedRemoteInfo : Option RemoteIdentity
  hostId : Text
  name : Text
  connectionMethods : List DesktopMethod
  remoteInfo : Option RemoteIdentity

def desktopMethod (method : WorkspaceConnectionMethod) : Option DesktopMethod :=
  match method.target with
  | .local_ => none
  | .ssh settings => some {
      methodId := method.methodId
      name := method.name
      sshConfigAlias := method.sshConfigAlias
      target := settings
      unavailable := none }

def desktopHost (host : WorkspaceHost) : DesktopHost where
  source := none
  expectedRemoteInfo := none
  hostId := host.hostId
  name := host.name
  connectionMethods := host.connectionMethods.filterMap desktopMethod
  remoteInfo := host.remoteInfo

/-- What a JavaScript `Map` of entries has for a key: the last of them. -/
def lastOf {α : Type} (key : α → Text) (entries : List α) (id : Text) : Option α :=
  entries.reverse.find? fun entry => key entry = id

/-! ### Errors -/

def tooManyHops : Text :=
  ("This connection route expands to more than 8 hops. " ++
    "Remove a hop or shorten a linked host's route.").toList

def vpnMisplaced : Text :=
  ("A VPN must be the first hop or immediately follow an SSH hop. " ++
    "VPN after VPN or SOCKS is not supported.").toList

def profileMissing : Text := "A VPN profile in this route is missing. Choose a saved VPN profile.".toList

def linkedHostMissing : Text :=
  "A saved SSH host in this route is missing. Restore it or choose another hop.".toList

def linkedCycle (host : DesktopHost) : Text :=
  "This connection route contains a cycle through ".toList ++ host.name ++
    ". Remove the linked hop that returns to this host.".toList

def linkedMethodMissing (host : DesktopHost) : Text :=
  "The selected connection method for SSH hop ".toList ++ host.name ++
    " is missing. Choose a current method for this hop.".toList

def linkedUnavailable (host : DesktopHost) (method : DesktopMethod) : Text :=
  "SSH hop ".toList ++ host.name ++ " is unavailable: ".toList ++
    method.unavailable.getD "Restore its saved definition before connecting.".toList

def linkedKeyFile (host : DesktopHost) (method : DesktopMethod) : Text :=
  "The connection method ".toList ++ method.name ++ " for SSH hop ".toList ++ host.name ++
    (" uses a private key file. " ++
      "Private key files are not supported for linked SSH hops yet; choose another method.").toList

def linkedAddressInvalid (host : DesktopHost) : Text :=
  "The SSH address for hop ".toList ++ host.name ++
    " is invalid. Edit the selected connection method before using it as a hop.".toList

def linkedGatewayMissing : Text :=
  "A gateway for this connection method is missing. Edit the method before connecting.".toList

/-! ### Expansion -/

/-- TypeScript `orderedSshRoute`. -/
def orderedSshRoute (target : SshSettings) : List SshGatewayRouteStepDto :=
  ((present target.vpnConnectionId).map .vpn).toList ++ target.gatewayRoute

/-- The variables of TypeScript `expandSshRoute`. -/
structure Expansion where
  resolved : List SshGatewayDto
  activeHosts : List Text

/-- The closure `append` of TypeScript `expandSshRoute`. -/
def Expansion.append (state : Expansion) (gateway : SshGatewayDto) : Except Text Expansion :=
  if 8 ≤ state.resolved.length then .error tooManyHops
  else if gateway.kind = .vpn ∧
      state.resolved.getLast?.any (fun preceding => preceding.kind = .vpn || preceding.kind = .socks5) then
    .error vpnMisplaced
  else .ok { state with resolved := state.resolved ++ [gateway] }

def linkedAddress (method : DesktopMethod) : Option (Text × Option Text) :=
  let address := method.sshConfigAlias.getD method.target.destination
  let (embedded, destination) := match rsplitOnce '@' address with
    | none => (none, address)
    | some (user, destination) => (some user, destination)
  let user := method.target.user.or embedded
  if destination.isEmpty || embedded.isSome && user.all (fun user => user.isEmpty || user.contains '@') then none
  else some (destination, user)

def linkedGateway (host : DesktopHost) (method : DesktopMethod) (mode : SshGatewayModeDto)
    (address : Text × Option Text) : SshGatewayDto where
  kind := .ssh
  vpnConnectionId := none
  gatewayId := "host:".toList ++ host.hostId ++ ':' :: method.methodId
  name := host.name
  destination := address.1
  hostname := present method.target.hostname
  user := present address.2
  port := method.target.port.filter (· ≠ 0)
  identityFile := none
  remoteInfo := host.expectedRemoteInfo.or host.remoteInfo
  mode := mode

/-- One step of the closure `expand` of TypeScript `expandSshRoute`; `expand` expands the route of a linked method, where
    the depth allows it. -/
def expandStep (gateways : List WorkspaceSshGateway) (hosts : List DesktopHost)
    (expand : Option (List SshGatewayRouteStepDto → Expansion → Except Text Expansion)) (state : Expansion) :
    SshGatewayRouteStepDto → Except Text Expansion
  | .vpn connectionId =>
    if isJsBlank connectionId then .error profileMissing else state.append (vpnGateway connectionId)
  | .host hostId methodId mode =>
    match lastOf (·.hostId) hosts hostId with
    | none => .error linkedHostMissing
    | some host =>
      if host.hostId = "local".toList then .error linkedHostMissing
      else if host.hostId ∈ state.activeHosts then .error (linkedCycle host)
      else
        match expand with
        | none => .error tooManyHops
        | some expand =>
          match host.connectionMethods.find? fun candidate => candidate.methodId = methodId with
          | none => .error (linkedMethodMissing host)
          | some method =>
            if host.source = some .unavailable || (present method.unavailable).isSome then
              .error (linkedUnavailable host method)
            else if (present method.target.identityFile).isSome then .error (linkedKeyFile host method)
            else do
              let entered := { state with activeHosts := host.hostId :: state.activeHosts }
              let expanded ← expand (orderedSshRoute method.target) entered
              let left := { expanded with activeHosts := expanded.activeHosts.erase host.hostId }
              match linkedAddress method with
              | none => .error (linkedAddressInvalid host)
              | some address => left.append (linkedGateway host method mode address)
  | .gateway gatewayId mode =>
    match lastOf (·.gatewayId) gateways gatewayId with
    | none => .error linkedGatewayMissing
    | some gateway => state.append (savedGateway gateway mode)

/-- The closure `expand` of TypeScript `expandSshRoute`, at a depth that leaves room for so many more. -/
def expandRoute (gateways : List WorkspaceSshGateway) (hosts : List DesktopHost) :
    (room : Nat) → List SshGatewayRouteStepDto → Expansion → Except Text Expansion
  | 0, route, state => route.foldlM (expandStep gateways hosts none) state
  | room + 1, route, state => route.foldlM (expandStep gateways hosts (some (expandRoute gateways hosts room))) state

/-- TypeScript `expandSshRoute`, of a target with its host's ID. -/
def expandSshRoute (hostId : Option Text) (target : SshSettings) (gateways : List WorkspaceSshGateway)
    (hosts : List DesktopHost) : Except Text (List SshGatewayDto) := do
  let expanded ← expandRoute gateways hosts 8 (orderedSshRoute target) ⟨[], (present hostId).toList⟩
  .ok expanded.resolved

/-! ### Owners of VPNs -/

/-- The owner of a VPN behind gateways, as Rust `vpn_owner_target` builds it. -/
def ownerTarget (owner : SshGateway) (gateways : List SshGateway) : SshTarget :=
  normalizeMasterPolicy {
    destination := owner.destination
    sshConfigAlias := owner.hostname.map fun _ => owner.destination
    useSshConfigMaster := some false
    hostname := owner.hostname
    user := owner.user
    port := owner.port
    identityFile := owner.identityFile
    gateways }

/-- Rust `vpn_owner_target`. -/
def vpnOwnerTarget (gateways : List SshGateway) (vpnIndex : Nat) : Option SshTarget := do
  let gateway ← gateways[vpnIndex]?
  if gateway.kind ≠ .vpn then none
  else
    let ownerIndex ← if vpnIndex = 0 then none else some (vpnIndex - 1)
    let owner ← gateways[ownerIndex]?
    if owner.kind ≠ .ssh then none else some (ownerTarget owner (gateways.take ownerIndex))

/-- The owner of a VPN behind gateways, as TypeScript `resolvedVpnExecutionTarget` builds it. -/
def ownerSettings (owner : SshGatewayDto) (gateways : List SshGatewayDto) : SshSettings :=
  { SshSettings.of owner.destination with
    hostname := present owner.hostname
    sshConfigAlias := (present owner.hostname).map fun _ => owner.destination
    user := present owner.user
    port := owner.port.filter (· ≠ 0)
    identityFile := present owner.identityFile
    remoteInfo := owner.remoteInfo
    useSshConfigMaster := some false
    gateways }

/-- TypeScript `resolvedVpnExecutionTarget`. -/
def resolvedVpnExecutionTarget (route : List SshGatewayDto) (index : Nat) : Option SshSettings :=
  if index = 0 ∨ (route[index]?).map (·.kind) ≠ some .vpn then none
  else
    match route[index - 1]? with
    | none => none
    | some owner =>
      if owner.kind = .vpn ∨ owner.kind = .socks5 then none else some (ownerSettings owner (route.take (index - 1)))

/-- A target as the broker gets it (Rust `to_ssh_target`, without its checks). -/
def SshSettings.brokerTarget (env : Env) (settings : SshSettings) : SshTarget :=
  normalizeMasterPolicy {
    destination := settings.destination
    sshConfigAlias := settings.sshConfigAlias
    useSshConfigMaster := settings.useSshConfigMaster
    hostname := settings.hostname
    user := settings.user
    port := settings.port
    identityFile := settings.identityFile.map utf8Bytes
    gateways := settings.sshGateways env }

/-! ### What is found in a valid catalog -/

lemma find?_key {α : Type} {key : α → Text} {entries : List α} (distinct : (entries.map key).Nodup) {entry : α}
    (mem : entry ∈ entries) : entries.find? (fun other => key other = key entry) = some entry := by
  induction entries with
  | nil => cases mem
  | cons first entries ih =>
    obtain ⟨new, distinct⟩ := List.nodup_cons.1 distinct
    rcases List.mem_cons.1 mem with rfl | mem
    · simp
    · have other : key first ≠ key entry := fun same => new (same ▸ List.mem_map_of_mem mem)
      simpa [other] using ih distinct mem

lemma lastOf_eq {α : Type} {key : α → Text} {entries : List α} (distinct : (entries.map key).Nodup) (id : Text) :
    lastOf key entries id = entries.find? fun entry => key entry = id := by
  cases found : entries.find? fun entry => key entry = id with
  | none =>
    refine List.find?_eq_none.2 fun entry mem => ?_
    exact List.find?_eq_none.1 found entry (List.mem_reverse.1 mem)
  | some entry =>
    obtain ⟨same, _⟩ : key entry = id ∧ _ := by simpa using List.find?_eq_some_iff_append.1 found
    have distinct : (entries.reverse.map key).Nodup := by rwa [List.map_reverse, List.nodup_reverse]
    rw [← same]
    exact find?_key distinct (List.mem_reverse.2 (List.mem_of_find?_eq_some found))

lemma desktopMethod_ssh {method : WorkspaceConnectionMethod} {settings : SshSettings}
    (target : method.target = .ssh settings) :
    desktopMethod method = some ⟨method.methodId, method.name, method.sshConfigAlias, settings, none⟩ := by
  rw [desktopMethod, target]

lemma findMethod_desktop {methods : List WorkspaceConnectionMethod} {methodId : Text}
    {method : WorkspaceConnectionMethod} (ssh : ∀ method ∈ methods, ∃ settings, method.target = .ssh settings)
    (found : methods.find? (fun method => method.methodId = methodId) = some method) :
    (methods.filterMap desktopMethod).find? (fun candidate => candidate.methodId = methodId) =
      desktopMethod method := by
  induction methods with
  | nil => cases found
  | cons first methods ih =>
    obtain ⟨settings, target⟩ := ssh first List.mem_cons_self
    rw [List.filterMap_cons_some (desktopMethod_ssh target)]
    by_cases same : first.methodId = methodId
    · obtain rfl : first = method := by simpa [same] using found
      simp [same, desktopMethod_ssh target]
    · have rest := ih fun method mem => ssh method (List.mem_cons_of_mem _ mem)
      simpa [same] using rest (by simpa [same] using found)

/-- Nothing of a gateway's endpoint is given and yet false in JavaScript. -/
structure Truthy (gateway : SshGatewayDto) : Prop where
  hostname : present gateway.hostname = gateway.hostname
  user : present gateway.user = gateway.user
  port : gateway.port.filter (· ≠ 0) = gateway.port
  identityFile : present gateway.identityFile = gateway.identityFile

lemma present_of_valid {text : Option Text} (valid : text.all validWorkspaceText) : present text = text := by
  cases text with
  | none => rfl
  | some text =>
    simp only [Option.all_some, validWorkspaceText, Bool.and_eq_true] at valid
    exact Option.filter_some_pos valid.1.1

lemma port_filter {port : Option UInt16} (valid : port ≠ some 0) : port.filter (· ≠ 0) = port := by
  cases port with
  | none => rfl
  | some port => exact Option.filter_some_pos (decide_eq_true fun zero => valid (congrArg some zero))

lemma savedGateway_truthy (valid : Valid env catalog) {gateway : WorkspaceSshGateway}
    (listed : gateway ∈ catalog.sshGateways) (mode : SshGatewayModeDto) : Truthy (savedGateway gateway mode) := by
  have fine := valid.gateway gateway listed
  simp only [WorkspaceSshGateway.isValid, Bool.and_eq_true, List.all_cons, List.all_nil, decide_eq_true_eq] at fine
  obtain ⟨⟨⟨⟨⟨⟨⟨_, port⟩, _⟩, _⟩, _⟩, hostname, user, identityFile, _⟩, _⟩, _⟩ := fine
  exact ⟨present_of_valid hostname, present_of_valid user, port_filter port, present_of_valid identityFile⟩

lemma Valid.settings (valid : Valid env catalog) {host : WorkspaceHost} (listed : host ∈ catalog.hosts)
    {method : WorkspaceConnectionMethod} (own : method ∈ host.connectionMethods) :
    ∃ settings, method.target = .ssh settings ∧ present settings.hostname = settings.hostname ∧
      settings.port ≠ some 0 ∧ present settings.vpnConnectionId = settings.vpnConnectionId := by
  obtain ⟨remote, fine⟩ := valid.host host listed
  simp only [WorkspaceHost.isValid, if_neg remote, Bool.and_eq_true, List.all_eq_true] at fine
  have fine := fine.2.1.2 method own
  cases target : method.target with
  | local_ =>
    rw [WorkspaceConnectionMethod.isValid, target] at fine
    cases fine
  | ssh settings =>
    rw [WorkspaceConnectionMethod.isValid, target] at fine
    simp only [Bool.and_eq_true, List.all_cons, decide_eq_true_eq] at fine
    obtain ⟨⟨⟨⟨⟨⟨⟨⟨⟨⟨_, port⟩, hostname, _⟩, _⟩, _⟩, _⟩, _⟩, vpn⟩, _⟩, _⟩, _⟩ := fine
    refine ⟨settings, rfl, present_of_valid hostname, port, ?_⟩
    cases legacy : settings.vpnConnectionId with
    | none => rfl
    | some connectionId =>
      simp only [legacy, Option.all_some, validConnectionId, Bool.and_eq_true] at vpn
      exact Option.filter_some_pos vpn.1.1

lemma found_mem {hostId methodId : Text} {host : WorkspaceHost} {method : WorkspaceConnectionMethod}
    (found : catalog.findHost hostId = some host) (chosen : host.findMethod methodId = some method) :
    host ∈ catalog.hosts ∧ host.hostId = hostId ∧ method ∈ host.connectionMethods ∧ method.methodId = methodId :=
  ⟨List.mem_of_find?_eq_some found, by simpa using List.find?_some found, List.mem_of_find?_eq_some chosen,
    by simpa using List.find?_some chosen⟩

lemma present_of_hop {user : Option Text} (fine : ∀ account ∈ user, account ≠ [] ∧ ¬ account.any isHopSeparator) :
    present user = user ∧ ∀ account ∈ user, (account.isEmpty || account.contains '@') = false := by
  cases user with
  | none => exact ⟨rfl, nofun⟩
  | some account =>
    obtain ⟨named, plain⟩ := fine account rfl
    have joined : '@' ∉ account := fun mem => plain (List.any_eq_true.2 ⟨'@', mem, rfl⟩)
    have kept : (account.isEmpty || account.contains '@') = false := by simp [named, joined]
    refine ⟨Option.filter_some_pos (by simpa using named), fun other same => ?_⟩
    cases Option.mem_some_iff.1 same
    exact kept

lemma splitAddress_of_hop {destination : Text} {own embedded : Option Text} {address : Text × Option Text}
    (hop : (if destination.isEmpty || destination.any isHopSeparator ||
        (own.or embedded).any (fun user => user.isEmpty || user.any isHopSeparator) then .error addressUnsupported
      else .ok (destination, own.or embedded)) = Except.ok address) :
    (if destination.isEmpty || embedded.isSome && (own.or embedded).all (fun user => user.isEmpty || user.contains '@')
      then none
      else some (destination, own.or embedded)) = some address ∧ present address.2 = address.2 := by
  split at hop
  · cases hop
  case isFalse fine =>
    cases hop
    simp only [Bool.or_eq_true, not_or, Option.any_eq_true, not_exists, not_and] at fine
    obtain ⟨⟨named, _⟩, accounts⟩ := fine
    obtain ⟨kept, plain⟩ := present_of_hop fun account given => by simpa using accounts account given
    refine ⟨if_neg ?_, kept⟩
    cases embedded with
    | none => simpa using named
    | some account =>
      obtain ⟨account, given⟩ : ∃ user, own.or (some account) = some user := by cases own <;> simp
      have fine := plain account given
      rw [given]
      simp_all

lemma linkedAddress_of_hop {method : DesktopMethod} {address : Text × Option Text}
    (hop : hopEndpoint (method.sshConfigAlias.getD method.target.destination) method.target.user = .ok address) :
    linkedAddress method = some address ∧ present address.2 = address.2 := by
  unfold hopEndpoint at hop
  unfold linkedAddress
  exact splitAddress_of_hop hop

lemma linked_of_checkHop (valid : Valid env catalog) {host : WorkspaceHost} (listed : host ∈ catalog.hosts)
    {method : WorkspaceConnectionMethod} (own : method ∈ host.connectionMethods)
    {checked : SshSettings × Text × Option Text} (hop : checkHop env host method = .ok checked) :
    ∃ candidate, desktopMethod method = some candidate ∧ candidate.target = checked.1 ∧ candidate.unavailable = none ∧
      checked.1.identityFile = none ∧ linkedAddress candidate = some checked.2 ∧ ∀ mode,
        linkedGateway (desktopHost host) candidate mode checked.2 =
            hopGateway host host.hostId method.methodId mode checked ∧
          Truthy (hopGateway host host.hostId method.methodId mode checked) := by
  obtain ⟨settings, target, hostname, port, _⟩ := valid.settings listed own
  unfold checkHop at hop
  rw [target] at hop
  dsimp only at hop
  split at hop
  · cases hop
  case isFalse noKey =>
    obtain ⟨_, _, hop⟩ := bind_eq_ok.1 hop
    obtain ⟨address, endpoint, hop⟩ := bind_eq_ok.1 hop
    cases hop
    obtain ⟨usable, account⟩ : linkedAddress ⟨method.methodId, method.name, method.sshConfigAlias, settings, none⟩ =
        some address ∧ present address.2 = address.2 := linkedAddress_of_hop endpoint
    refine ⟨_, desktopMethod_ssh target, rfl, rfl, by simpa using noKey, usable, fun mode => ⟨?_, ?_⟩⟩
    · rw [linkedGateway, hopGateway, hostname, account, port_filter port]
      rfl
    · exact ⟨hostname, account, port_filter port, rfl⟩

lemma orderedSshRoute_eq (valid : Valid env catalog) {host : WorkspaceHost} (listed : host ∈ catalog.hosts)
    {method : WorkspaceConnectionMethod} (own : method ∈ host.connectionMethods) {settings : SshSettings}
    (target : method.target = .ssh settings) : orderedSshRoute settings = settings.steps := by
  obtain ⟨settings', target', _, _, legacy⟩ := valid.settings listed own
  cases target.symm.trans target'
  rw [orderedSshRoute, legacy, SshSettings.steps]

lemma Expands.truthy (valid : Valid env catalog) {steps : List SshGatewayRouteStepDto} {items : List Item}
    (h : Expands env catalog steps items) : ∀ item ∈ items, Truthy item.gateway := by
  induction h with
  | nil => exact List.forall_mem_nil _
  | vpn _ ih => exact List.forall_mem_cons.2 ⟨⟨rfl, rfl, rfl, rfl⟩, ih⟩
  | gateway found _ ih =>
    exact List.forall_mem_cons.2 ⟨savedGateway_truthy valid (List.mem_of_find?_eq_some found) _, ih⟩
  | host found chosen hop _ _ ihInner ihRest =>
    obtain ⟨listed, rfl, own, rfl⟩ := found_mem found chosen
    have ⟨_, _, _, _, _, _, alike⟩ := linked_of_checkHop valid listed own hop
    exact List.forall_mem_append.2 ⟨ihInner, List.forall_mem_cons.2 ⟨(alike _).2, ihRest⟩⟩

/-! ### Blank VPNs -/

/-- The route of a method, or of one that it refers to, has a VPN whose ID is blank in JavaScript. -/
def HasBlankVpn (catalog : HostCatalogDocument) (root : Selected) : Prop :=
  ∃ selected settings connectionId, Reaches catalog root selected ∧ selected.2.target = .ssh settings ∧
    .vpn connectionId ∈ settings.steps ∧ isJsBlank connectionId

def Blank (catalog : HostCatalogDocument) (steps : List SshGatewayRouteStepDto) : Prop :=
  ∃ step ∈ steps, (∃ connectionId, step = .vpn connectionId ∧ isJsBlank connectionId) ∨
    ∃ selected, Names catalog step selected ∧ HasBlankVpn catalog selected

lemma blank_nil : ¬ Blank catalog [] := nofun

lemma blank_cons {step : SshGatewayRouteStepDto} {steps : List SshGatewayRouteStepDto} :
    Blank catalog (step :: steps) ↔ Blank catalog [step] ∨ Blank catalog steps := by
  simp [Blank]

lemma hasBlankVpn_iff {root : Selected} {settings : SshSettings} (target : root.2.target = .ssh settings) :
    HasBlankVpn catalog root ↔ Blank catalog settings.steps := by
  constructor
  · rintro ⟨selected, own, connectionId, reached, target', listed, blank⟩
    rcases ReflTransGen.cases_head reached with rfl | ⟨next, ⟨own', target'', step, refers, names⟩, further⟩
    · cases target.symm.trans target'
      exact ⟨_, listed, .inl ⟨connectionId, rfl, blank⟩⟩
    · cases target.symm.trans target''
      exact ⟨step, mem_steps_of_mem refers, .inr ⟨next, names, selected, own, connectionId, further, target', listed, blank⟩⟩
  · rintro ⟨step, listed, ⟨connectionId, rfl, blank⟩ | ⟨next, names, selected, own, connectionId, further, rest⟩⟩
    · exact ⟨root, settings, connectionId, .refl, target, listed, blank⟩
    · rcases mem_steps listed with listed | ⟨_, rfl⟩
      · exact ⟨selected, own, connectionId, .head ⟨settings, target, step, listed, names⟩ further, rest⟩
      · obtain ⟨_, _, _, eq, _⟩ := names
        cases eq

/-! ### The desktop's expansion -/

def RouteResolver.expansion (resolver : RouteResolver) : Expansion := ⟨resolver.gateways, resolver.active⟩

/-- A computation fails if something is the case, and has this result otherwise. -/
structure Yields {α : Type} (result : Except Text α) (fails : Prop) (value : α) : Prop where
  ok : ¬ fails → result = .ok value
  error : fails → ∃ error, result = .error error

lemma Yields.of_ok {α : Type} {result : Except Text α} {fails : Prop} {value : α} (ok : result = .ok value)
    (fine : ¬ fails) : Yields result fails value :=
  ⟨fun _ => ok, fun h => absurd h fine⟩

lemma Yields.bind {α β : Type} {result : Except Text α} {next : α → Except Text β} {fails failsNext : Prop} {a : α}
    {b : β} (first : Yields result fails a) (second : Yields (next a) failsNext b) :
    Yields (result >>= next) (fails ∨ failsNext) b := by
  constructor
  · intro fine
    rw [not_or] at fine
    rw [first.ok fine.1]
    exact second.ok fine.2
  · intro h
    by_cases fails : fails
    · obtain ⟨error, eq⟩ := first.error fails
      exact ⟨error, by rw [eq]; rfl⟩
    · rw [first.ok fails]
      exact second.error (h.resolve_left fails)

lemma append_runs {resolver : RouteResolver} {gateway : SshGatewayDto} {nodeId : Option Text}
    (fits : Usable (resolver.gateways ++ [gateway])) :
    resolver.expansion.append gateway = .ok (resolver.appended [⟨gateway, nodeId⟩]).expansion := by
  obtain ⟨_, short, placed⟩ := usable_concat.1 fits
  have kinds : (fun preceding : SshGatewayDto => preceding.kind = .vpn || preceding.kind = .socks5) =
      fun preceding => (decide (preceding.kind ≠ .ssh) : Bool) := by
    funext preceding
    cases preceding.kind <;> rfl
  have room : ¬ 8 ≤ resolver.expansion.resolved.length := Nat.not_le_of_lt short
  have behind : ¬ (gateway.kind = .vpn ∧ resolver.expansion.resolved.getLast?.any
      (fun preceding => preceding.kind = .vpn || preceding.kind = .socks5)) := by
    rw [kinds]
    exact placed
  rw [Expansion.append, if_neg room, if_neg behind]
  rfl

/-- How the desktop expands the route of a linked method, where the depth leaves so much room. -/
def linkedExpand (gateways : List WorkspaceSshGateway) (hosts : List DesktopHost) :
    (room : Nat) → Option (List SshGatewayRouteStepDto → Expansion → Except Text Expansion)
  | 0 => none
  | room + 1 => some (expandRoute gateways hosts room)

def desktopExpand (catalog : HostCatalogDocument) (depth : Nat) (steps : List SshGatewayRouteStepDto)
    (state : Expansion) : Except Text Expansion :=
  expandRoute catalog.sshGateways (catalog.hosts.map desktopHost) depth steps state

def desktopStep (catalog : HostCatalogDocument) (depth : Nat) (state : Expansion) (step : SshGatewayRouteStepDto) :
    Except Text Expansion :=
  expandStep catalog.sshGateways (catalog.hosts.map desktopHost)
    (linkedExpand catalog.sshGateways (catalog.hosts.map desktopHost) depth) state step

lemma desktopExpand_eq (depth : Nat) (steps : List SshGatewayRouteStepDto) (state : Expansion) :
    desktopExpand catalog depth steps state = steps.foldlM (desktopStep catalog depth) state := by
  cases depth <;> rfl

lemma Yields.steps {depth : Nat} {resolver : RouteResolver} {step : SshGatewayRouteStepDto}
    {steps : List SshGatewayRouteStepDto} {first rest : List Item}
    (one : Yields (desktopStep catalog depth resolver.expansion step) (Blank catalog [step])
      (resolver.appended first).expansion)
    (others : Yields (desktopExpand catalog depth steps (resolver.appended first).expansion) (Blank catalog steps)
      ((resolver.appended first).appended rest).expansion) :
    Yields (desktopExpand catalog depth (step :: steps) resolver.expansion) (Blank catalog (step :: steps))
      (resolver.appended (first ++ rest)).expansion := by
  rw [desktopExpand_eq, RouteResolver.appended_append] at others
  rw [desktopExpand_eq, List.foldlM_cons, blank_cons]
  exact one.bind others

lemma blank_vpn {connectionId : Text} : Blank catalog [.vpn connectionId] ↔ isJsBlank connectionId := by
  constructor
  · rintro ⟨step, listed, h⟩
    cases List.mem_singleton.1 listed
    rcases h with ⟨_, same, blank⟩ | ⟨_, ⟨_, _, _, eq, _⟩, _⟩
    · cases same
      exact blank
    · cases eq
  · exact fun blank => ⟨_, List.mem_singleton_self _, .inl ⟨connectionId, rfl, blank⟩⟩

lemma blank_gateway {gatewayId : Text} {mode : SshGatewayModeDto} : ¬ Blank catalog [.gateway gatewayId mode] := by
  rintro ⟨step, listed, h⟩
  cases List.mem_singleton.1 listed
  rcases h with ⟨_, same, _⟩ | ⟨_, ⟨_, _, _, eq, _⟩, _⟩
  · cases same
  · cases eq

lemma blank_host {hostId methodId : Text} {mode : SshGatewayModeDto} {selected : Selected} {settings : SshSettings}
    (names : Names catalog (.host hostId methodId mode) selected) (target : selected.2.target = .ssh settings) :
    Blank catalog [.host hostId methodId mode] ↔ Blank catalog settings.steps := by
  rw [← hasBlankVpn_iff target]
  constructor
  · rintro ⟨step, listed, h⟩
    cases List.mem_singleton.1 listed
    rcases h with ⟨_, same, _⟩ | ⟨other, named, blank⟩
    · cases same
    · exact names.unique named ▸ blank
  · exact fun blank => ⟨_, List.mem_singleton_self _, .inr ⟨selected, names, blank⟩⟩

lemma desktopStep_vpn {depth : Nat} {resolver : RouteResolver} {connectionId : Text}
    (fits : Usable (resolver.gateways ++ [vpnGateway connectionId])) :
    Yields (desktopStep catalog depth resolver.expansion (.vpn connectionId)) (Blank catalog [.vpn connectionId])
      (resolver.appended [⟨vpnGateway connectionId, none⟩]).expansion := by
  rw [blank_vpn, desktopStep, expandStep]
  constructor
  · intro named
    rw [if_neg named]
    exact append_runs fits
  · exact fun blank => ⟨profileMissing, if_pos blank⟩

lemma desktopStep_gateway (valid : Valid env catalog) {depth : Nat} {resolver : RouteResolver} {gatewayId : Text}
    {mode : SshGatewayModeDto} {gateway : WorkspaceSshGateway} (found : catalog.findGateway gatewayId = some gateway)
    (fits : Usable (resolver.gateways ++ [savedGateway gateway mode])) :
    Yields (desktopStep catalog depth resolver.expansion (.gateway gatewayId mode))
      (Blank catalog [.gateway gatewayId mode]) (resolver.appended [⟨savedGateway gateway mode, none⟩]).expansion := by
  refine .of_ok ?_ blank_gateway
  have known : lastOf (·.gatewayId) catalog.sshGateways gatewayId = some gateway :=
    (lastOf_eq valid.gateways gatewayId).trans found
  rw [desktopStep, expandStep, known]
  exact append_runs fits

lemma desktopStep_host (valid : Valid env catalog) {depth : Nat} {resolver : RouteResolver} {hostId methodId : Text}
    {mode : SshGatewayModeDto} {host : WorkspaceHost} {method : WorkspaceConnectionMethod}
    {checked : SshSettings × Text × Option Text} {within : List Item}
    (found : catalog.findHost hostId = some host) (chosen : host.findMethod methodId = some method)
    (hop : checkHop env host method = .ok checked) (new : host.hostId ∉ resolver.active)
    (fits : Usable ((resolver.appended within).gateways ++ [hopGateway host hostId methodId mode checked]))
    (inner : Yields (desktopExpand catalog depth checked.1.steps (resolver.enter host.hostId).expansion)
      (Blank catalog checked.1.steps) ((resolver.enter host.hostId).appended within).expansion) :
    Yields (desktopStep catalog (depth + 1) resolver.expansion (.host hostId methodId mode))
      (Blank catalog [.host hostId methodId mode])
      (resolver.appended (within ++ [⟨hopGateway host hostId methodId mode checked, method.tailscaleNodeId⟩])).expansion := by
  have names : Names catalog (.host hostId methodId mode) (host, method) := ⟨_, _, _, rfl, found, chosen⟩
  have target : (host, method).2.target = .ssh checked.1 := checkHop_target hop
  rw [blank_host names target]
  obtain ⟨listed, rfl, own, rfl⟩ := found_mem found chosen
  have known : lastOf (·.hostId) (catalog.hosts.map desktopHost) host.hostId = some (desktopHost host) := by
    have distinct : ((catalog.hosts.map desktopHost).map (·.hostId)).Nodup := by
      rw [List.map_map]
      exact valid.hosts
    exact (lastOf_eq distinct host.hostId).trans (find?_key distinct (List.mem_map_of_mem listed))
  obtain ⟨candidate, same, settings, offered, noKey, address, alike⟩ := linked_of_checkHop valid listed own hop
  have ssh : ∀ method ∈ host.connectionMethods, ∃ settings, method.target = .ssh settings := by
    intro method own
    obtain ⟨settings, target, _⟩ := valid.settings listed own
    exact ⟨settings, target⟩
  have selected : (desktopHost host).connectionMethods.find? (fun other => other.methodId = method.methodId) =
      some candidate := (findMethod_desktop ssh chosen).trans same
  have order : orderedSshRoute candidate.target = checked.1.steps := by
    rw [settings]
    exact orderedSshRoute_eq valid listed own target
  have remote : (desktopHost host).hostId ≠ "local".toList := (valid.host host listed).1
  have outside : (desktopHost host).hostId ∉ resolver.expansion.activeHosts := new
  have available : ¬ ((desktopHost host).source = some .unavailable || (present candidate.unavailable).isSome) := by
    rw [offered]
    exact Bool.false_ne_true
  have usable : ¬ (present candidate.target.identityFile).isSome := by
    rw [settings, noKey]
    exact Bool.false_ne_true
  have linked : desktopStep catalog (depth + 1) resolver.expansion (.host host.hostId method.methodId mode) =
      desktopExpand catalog depth checked.1.steps (resolver.enter host.hostId).expansion >>= fun expanded =>
        Expansion.append { expanded with activeHosts := expanded.activeHosts.erase host.hostId }
          (linkedGateway (desktopHost host) candidate mode checked.2) := by
    rw [desktopStep, linkedExpand, expandStep, known]
    dsimp only
    rw [if_neg remote, if_neg outside, selected]
    dsimp only
    rw [if_neg available, if_neg usable, order, address]
    rfl
  rw [linked]
  have last : Yields (Expansion.append { ((resolver.enter host.hostId).appended within).expansion with
      activeHosts := ((resolver.enter host.hostId).appended within).expansion.activeHosts.erase host.hostId }
      (linkedGateway (desktopHost host) candidate mode checked.2)) False
      (resolver.appended (within ++
        [⟨hopGateway host host.hostId method.methodId mode checked, method.tailscaleNodeId⟩])).expansion := by
    refine .of_ok ?_ id
    have left := congrArg RouteResolver.expansion (resolver.enter_appended_leave host.hostId within)
    rw [(alike mode).1, ← RouteResolver.appended_append]
    refine Eq.trans (congrArg (Expansion.append · _) left) ?_
    exact append_runs fits
  rw [← or_false (Blank catalog checked.1.steps)]
  exact inner.bind last

lemma expandRoute_runs (valid : Valid env catalog) {steps : List SshGatewayRouteStepDto} {items : List Item}
    (h : Expands env catalog steps items) {depth : Nat} {resolver : RouteResolver}
    (room : Room (depth + 1) resolver items) (clear : Clear catalog resolver.active steps) :
    Yields (desktopExpand catalog depth steps resolver.expansion) (Blank catalog steps)
      (resolver.appended items).expansion := by
  induction h generalizing depth resolver with
  | nil =>
    rw [desktopExpand_eq, RouteResolver.appended_nil]
    exact .of_ok rfl blank_nil
  | @vpn connectionId steps items _ ih =>
    have room : Room (depth + 1) resolver ([⟨vpnGateway connectionId, none⟩] ++ items) := room
    exact .steps (desktopStep_vpn room.before.usable) (ih room.after (clear_cons.1 clear).2)
  | @gateway gatewayId mode gateway steps items found _ ih =>
    have room : Room (depth + 1) resolver ([⟨savedGateway gateway mode, none⟩] ++ items) := room
    exact .steps (desktopStep_gateway valid found room.before.usable) (ih room.after (clear_cons.1 clear).2)
  | @host hostId methodId mode host method checked steps within items found chosen hop inner _ ihInner ihRest =>
    obtain ⟨outside, acyclic⟩ := (clear_cons.1 clear).1 (host, method) ⟨hostId, methodId, mode, rfl, found, chosen⟩
    have own_counts := room.room
    rw [List.length_append, List.length_cons] at own_counts
    obtain ⟨depth, rfl⟩ : ∃ d, depth = d + 1 := Nat.exists_eq_succ_of_ne_zero (by have := room.deep; omega)
    have target : (host, method).2.target = .ssh checked.1 := checkHop_target hop
    have entered := ihInner (room.enter host.hostId) (clear_within target outside acyclic)
    rw [List.append_cons] at room ⊢
    have fits := room.before.usable
    rw [List.map_append, ← List.append_assoc] at fits
    exact .steps (desktopStep_host valid found chosen hop (outside _ .refl) fits entered)
      (ihRest room.after (clear_cons.1 clear).2)

/-! ### Owners -/

def brokerRoute (env : Env) (route : List SshGatewayDto) : List SshGateway :=
  route.zipIdx.map fun (gateway, index) => brokerGateway env route index gateway

lemma getElem?_brokerRoute (route : List SshGatewayDto) (index : Nat) :
    (brokerRoute env route)[index]? = (route[index]?).map (brokerGateway env route index) := by
  rw [brokerRoute, List.getElem?_map, List.getElem?_zipIdx, Option.map_map, Nat.zero_add]
  rfl

lemma brokerGateway_congr {route other : List SshGatewayDto} {index place : Nat}
    (owner : ownerRemoteId route index = ownerRemoteId other place) :
    brokerGateway env route index = brokerGateway env other place := by
  funext gateway
  rw [brokerGateway, brokerGateway, owner]

lemma brokerRoute_take (route : List SshGatewayDto) (count : Nat) :
    brokerRoute env (route.take count) = (brokerRoute env route).take count := by
  apply List.ext_getElem?
  intro index
  rw [getElem?_brokerRoute, List.getElem?_take, List.getElem?_take, getElem?_brokerRoute]
  split
  case isFalse => rfl
  case isTrue inside =>
    have owner : ownerRemoteId (route.take count) index = ownerRemoteId route index := by
      have before : index - 1 < count := by omega
      rw [ownerRemoteId, ownerRemoteId, List.getElem?_take, if_pos before]
    rw [brokerGateway_congr owner]

lemma sshGateways_front (settings : SshSettings) (gateways : List SshGatewayDto) :
    ({ settings with gateways } : SshSettings).sshGateways env =
      brokerRoute env ((settings.vpnConnectionId.map vpnGateway).toList ++ gateways) := by
  unfold SshSettings.sshGateways
  dsimp only
  cases settings.vpnConnectionId with
  | none => rfl
  | some connectionId =>
    apply List.ext_getElem?
    intro index
    rw [getElem?_brokerRoute]
    cases index with
    | zero => rfl
    | succ index =>
      have owner : ownerRemoteId gateways index = ownerRemoteId (vpnGateway connectionId :: gateways) (index + 1) := by
        cases index <;> rfl
      exact (getElem?_brokerRoute gateways index).trans (brokerGateway_congr owner ▸ rfl)

lemma ownerSettings_broker {owner : SshGatewayDto} (truthy : Truthy owner) (route before : List SshGatewayDto)
    (index : Nat) :
    (ownerSettings owner before).brokerTarget env =
      ownerTarget (brokerGateway env route index owner) (brokerRoute env before) := by
  unfold ownerSettings
  rw [truthy.hostname, truthy.user, truthy.port, truthy.identityFile]
  rfl

lemma resolvedVpnExecutionTarget_owner {route : List SshGatewayDto} (truthy : ∀ gateway ∈ route, Truthy gateway)
    (index : Nat) :
    (resolvedVpnExecutionTarget route index).map (·.brokerTarget env) =
      vpnOwnerTarget (brokerRoute env route) index := by
  unfold resolvedVpnExecutionTarget vpnOwnerTarget
  rw [getElem?_brokerRoute]
  cases index with
  | zero =>
    cases route[0]? with
    | none => rfl
    | some gateway => simp
  | succ index =>
    cases route[index + 1]? with
    | none => rfl
    | some gateway =>
      by_cases vpn : gateway.kind = .vpn
      case neg => simp [vpn, brokerGateway]
      case pos =>
        cases owned : route[index]? with
        | none => simp [vpn, owned, getElem?_brokerRoute]
        | some owner =>
          have same : (ownerSettings owner (route.take index)).brokerTarget env = _ :=
            ownerSettings_broker (truthy owner (List.mem_of_getElem? owned)) route (route.take index) index
          rw [brokerRoute_take] at same
          cases kind : owner.kind <;> simp [vpn, owned, kind, getElem?_brokerRoute, brokerGateway, same]

/-! ### The desktop and the resolver -/

lemma Valid.route (valid : Valid env catalog) {host : WorkspaceHost} (listed : host ∈ catalog.hosts)
    {method : WorkspaceConnectionMethod} (own : method ∈ host.connectionMethods) :
    ∃ route, resolveRoute env catalog host method = .ok route := by
  obtain ⟨resolved, ok⟩ := valid.resolves host listed method own
  have known : catalog.findHost host.hostId = some host := find?_key valid.hosts listed
  have hosts : destinationHosts catalog host.hostId = (none, host.hostId, [host]) := by
    rw [destinationHosts, matchingHosts, known]
  rw [resolve, hosts] at ok
  dsimp only at ok
  have single : ¬ 1 < [host].length := Nat.lt_irrefl 1
  rw [if_neg single] at ok
  dsimp only [List.head?_cons] at ok
  split at ok
  case h_2 => cases ok
  case h_1 selected chosen =>
    -- The method itself is among those that its ID selects.
    have mem : method ∈ selectedMethods host (some method.methodId) := by
      simp [selectedMethods, own]
    rw [chosen] at mem
    cases List.mem_singleton.1 mem
    obtain ⟨route, routed, _⟩ := bind_eq_ok.1 ok
    exact ⟨route, routed⟩

def desktopRoute (catalog : HostCatalogDocument) (host : WorkspaceHost) (settings : SshSettings) :
    Except Text (List SshGatewayDto) :=
  expandSshRoute (some host.hostId) settings catalog.sshGateways (catalog.hosts.map desktopHost)

/-- The desktop and the resolver agree on the route of a saved method, and on the owners of its VPNs. The resolver leaves
    the method's own VPN out of its gateways. -/
structure RoutesAgree (env : Env) (catalog : HostCatalogDocument) (host : WorkspaceHost)
    (method : WorkspaceConnectionMethod) (settings : SshSettings) : Prop where
  succeeds : (∃ expanded, desktopRoute catalog host settings = .ok expanded) ↔
    ∃ route, resolveRoute env catalog host method = .ok route
  gateways : ∀ expanded route, desktopRoute catalog host settings = .ok expanded →
    resolveRoute env catalog host method = .ok route →
    expanded = (settings.vpnConnectionId.map vpnGateway).toList ++ route.gateways
  owners : ∀ route, resolveRoute env catalog host method = .ok route → ∀ index,
    (resolvedVpnExecutionTarget ((settings.vpnConnectionId.map vpnGateway).toList ++ route.gateways) index).map
        (·.brokerTarget env) =
      vpnOwnerTarget (({ settings with gateways := route.gateways } : SshSettings).sshGateways env) index

lemma Expands.front_kept {settings : SshSettings} {items : List Item} (h : Expands env catalog settings.steps items) :
    (settings.vpnConnectionId.map vpnGateway).toList ++ (settings.kept items).map (·.gateway) =
      items.map (·.gateway) := by
  rw [SshSettings.kept]
  cases legacy : settings.vpnConnectionId with
  | none => rfl
  | some connectionId =>
    rw [h.front legacy]
    rfl

lemma desktopRoute_yields (valid : Valid env catalog) {host : WorkspaceHost} (listed : host ∈ catalog.hosts)
    {method : WorkspaceConnectionMethod} (own : method ∈ host.connectionMethods) {settings : SshSettings}
    (target : method.target = .ssh settings) (acyclic : Acyclic catalog (host, method)) {items : List Item}
    (expands : Expands env catalog settings.steps items) (usable : Usable (items.map (·.gateway))) :
    Yields (desktopRoute catalog host settings) (HasBlankVpn catalog (host, method)) (items.map (·.gateway)) := by
  have root : (host, method).2.target = .ssh settings := target
  have outside : Outside catalog [] (host, method) := fun _ _ => List.not_mem_nil
  have runs := expandRoute_runs valid expands (room_of_usable usable host.hostId) (clear_within root outside acyclic)
  have named : present (some host.hostId) = some host.hostId := by
    have fine := (valid.host host listed).2
    simp only [WorkspaceHost.isValid, Bool.and_eq_true] at fine
    exact present_of_valid fine.1.1
  rw [desktopRoute, expandSshRoute, named, orderedSshRoute_eq valid listed own target, hasBlankVpn_iff root,
    ← or_false (Blank catalog settings.steps)]
  exact runs.bind (.of_ok rfl id)

/-- The desktop expands the route of a saved method of a valid catalog as the resolver does if and only if the route has
    no VPN whose ID is blank in JavaScript. -/
theorem desktopRoute_agrees (env : Env) (catalog : HostCatalogDocument) (valid : catalog.validate env = .ok ())
    (host : WorkspaceHost) (listed : host ∈ catalog.hosts) (method : WorkspaceConnectionMethod)
    (own : method ∈ host.connectionMethods) (settings : SshSettings) (target : method.target = .ssh settings) :
    RoutesAgree env catalog host method settings ↔ ¬ HasBlankVpn catalog (host, method) := by
  have valid := valid_of_validate valid
  obtain ⟨route, routed⟩ := valid.route listed own
  obtain ⟨acyclic, items, expands, usable, same⟩ := (resolveRoute_eq_ok target route).1 routed
  have desktop := desktopRoute_yields valid listed own target acyclic expands usable
  have whole : (settings.vpnConnectionId.map vpnGateway).toList ++ route.gateways = items.map (·.gateway) := by
    rw [same]
    exact expands.front_kept
  constructor
  · intro agree blank
    obtain ⟨expanded, ok⟩ := agree.succeeds.2 ⟨route, routed⟩
    obtain ⟨error, failed⟩ := desktop.error blank
    cases ok.symm.trans failed
  · intro fine
    refine ⟨⟨fun _ => ⟨route, routed⟩, fun _ => ⟨_, desktop.ok fine⟩⟩, ?_, ?_⟩
    · intro expanded other ok routed'
      cases routed.symm.trans routed'
      rw [whole]
      exact Except.ok.inj (ok.symm.trans (desktop.ok fine))
    · intro other routed' index
      cases routed.symm.trans routed'
      rw [sshGateways_front, whole]
      apply resolvedVpnExecutionTarget_owner
      intro gateway mem
      obtain ⟨item, one, rfl⟩ := List.mem_map.1 mem
      exact expands.truthy valid item one

def officeMethod (connectionId : Text) : WorkspaceConnectionMethod :=
  { innerMethod with target := .ssh { innerSettings with vpnConnectionId := some connectionId } }

def officeHost (connectionId : Text) : WorkspaceHost :=
  { hostWith "inner" (officeMethod connectionId) with preferredMethodId := some "vpn".toList }

def officeCatalog (connectionId : Text) : HostCatalogDocument :=
  { nestedCatalog with
    hosts := [officeHost connectionId, { hostWith "jump" jumpMethod with preferredMethodId := some "ssh".toList }] }

theorem desktopRoute_agrees_office :
    (officeCatalog "office".toList).validate plainEnv = .ok () ∧
      (RoutesAgree plainEnv (officeCatalog "office".toList) (officeHost "office".toList) (officeMethod "office".toList)
          { innerSettings with vpnConnectionId := some "office".toList } ↔
        ¬ HasBlankVpn (officeCatalog "office".toList) (officeHost "office".toList, officeMethod "office".toList)) :=
  ⟨rfl, desktopRoute_agrees plainEnv (officeCatalog "office".toList) rfl (officeHost "office".toList)
    List.mem_cons_self (officeMethod "office".toList) List.mem_cons_self
    { innerSettings with vpnConnectionId := some "office".toList } rfl⟩

/-- A byte order mark is a valid ID of a VPN, and the desktop trims it. -/
theorem desktopRoute_byteOrderMark :
    (officeCatalog ['\uFEFF']).validate plainEnv = .ok () ∧
      ¬ RoutesAgree plainEnv (officeCatalog ['\uFEFF']) (officeHost ['\uFEFF']) (officeMethod ['\uFEFF'])
        { innerSettings with vpnConnectionId := some ['\uFEFF'] } := by
  refine ⟨rfl, fun agree => ?_⟩
  have ⟨expanded, ok⟩ := agree.succeeds.2 ⟨_, rfl⟩
  have failed : desktopRoute (officeCatalog ['\uFEFF']) (officeHost ['\uFEFF'])
      { innerSettings with vpnConnectionId := some ['\uFEFF'] } = .error profileMissing := rfl
  cases ok.symm.trans failed

end Ctl.Hosts
