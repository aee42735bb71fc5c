import Ctl.Hosts.Resolution

/-!
# Resolved hosts

Model of `ctl/client/src/hosts/resolver.rs`: the host that a destination names, its method and its route, and the
refresh of the endpoints that are taken from Tailscale devices. A refresh either fails before it changes anything or
changes the endpoints that are bound, and nothing else (`resolveTailscale_refreshed`): the bindings of a resolved host
are different places of its route (`Bound`).
-/

namespace Ctl.Hosts
open Ctl.Base Ctl.Proto Ctl.Approval Relation

variable {env : Env} {catalog : HostCatalogDocument}

/-- Rust `ResolvedHost`. -/
structure ResolvedHost where
  hostId : Option Text
  target : ConnectionTargetDto
  tailscaleNodeId : Option Text
  gatewayTailscaleBindings : List GatewayTailscaleBinding

/-- What is read of a Rust `TailscaleDevice`. -/
structure TailscaleDevice where
  nodeId : Text
  dnsName : Option Text
  addresses : List Text

/-! ### Resolution -/

/-- Rust `matching_hosts`. -/
def matchingHosts (catalog : HostCatalogDocument) (alias_ : Text) : List WorkspaceHost :=
  match catalog.findHost alias_ with
  | some host => [host]
  | none => catalog.hosts.filter fun host => host.name = alias_

def hostAmbiguous (env : Env) (alias_ : Text) : HostError where
  code := "host_ambiguous"
  message := "More than one saved host matches ".toList ++ env.debugText alias_ ++ "; use its host ID.".toList

def hostNotFound : HostError := .new "host_not_found" "--method requires a saved ctl host."

variable (host : WorkspaceHost)

def methodNotFound : HostError where
  code := "method_not_found"
  message := "Choose an unambiguous connection method for ".toList ++ host.name ++ ".".toList

def destinationHosts (catalog : HostCatalogDocument) (destination : Text) : Option Text × Text × List WorkspaceHost :=
  match matchingHosts catalog destination with
  | [] =>
    match rsplitOnce '@' destination with
    | some (user, alias_) => (some user, alias_, matchingHosts catalog alias_)
    | none => (none, destination, matchingHosts catalog destination)
  | exact_ => (none, destination, exact_)

def selectedMethods (method : Option Text) : List WorkspaceConnectionMethod :=
  let selected := method.or host.preferredMethodId
  let exactMethod := host.connectionMethods.any fun item => some item.methodId = selected
  host.connectionMethods.filter fun item =>
    some item.methodId = selected || (!exactMethod && method.any fun value => item.name = value)

/-- The target of a method with its route. A different account has a different ctl environment. -/
def resolvedTarget (method : WorkspaceConnectionMethod) (user : Option Text) (route : ResolvedRoute) :
    ConnectionTargetDto :=
  match method.target with
  | .local_ => .local_
  | .ssh settings => .ssh {
      settings with
      remoteInfo := if user.isSome then none else host.remoteInfo
      sshConfigAlias := method.sshConfigAlias
      useSshConfigMaster := method.useSshConfigMaster
      user := user.or settings.user
      gateways := route.gateways }

/-- Rust `resolve`. -/
def resolve (env : Env) (catalog : HostCatalogDocument) (destination : Text) (method : Option Text) :
    Except Failure ResolvedHost :=
  let (user, alias_, hosts) := destinationHosts catalog destination
  if 1 < hosts.length then refuse (hostAmbiguous env alias_)
  else
    match hosts.head? with
    | none =>
      if method.isSome then refuse hostNotFound
      else .ok {
        hostId := none
        target := .ssh (.of destination)
        tailscaleNodeId := none
        gatewayTailscaleBindings := [] }
    | some host =>
      match selectedMethods host method with
      | [method] => do
        let route ← resolveRoute env catalog host method
        let target := resolvedTarget host method user route
        let _ ← orRefuse (target.toSshTarget env)
        .ok {
          hostId := some host.hostId
          target
          tailscaleNodeId := method.tailscaleNodeId
          gatewayTailscaleBindings := route.tailscaleBindings }
      | _ => refuse (methodNotFound host)

/-! ### Refresh -/

/-- Rust `ResolvedHost::requires_tailscale`. -/
def ResolvedHost.requiresTailscale (resolved : ResolvedHost) : Bool :=
  resolved.tailscaleNodeId.isSome || !resolved.gatewayTailscaleBindings.isEmpty

def deviceUnavailable : HostError :=
  .new "tailscale_unavailable"
    ("The saved Tailscale device is unavailable. " ++
      "Check that Tailscale is running and signed in to the correct tailnet.")

def addressUnavailable : HostError :=
  .new "tailscale_unavailable" "The saved Tailscale device has no usable address."

def hopUnresolved : HostError :=
  .new "host_hop_invalid" "A Tailscale hop is missing from the resolved route."

/-- Rust `tailscale_endpoint`: the name and the address of a device. -/
def tailscaleEndpoint (env : Env) (devices : List TailscaleDevice) (id : Text) : Except HostError (Text × Text) :=
  match devices.find? fun device => device.nodeId = id with
  | none => .error deviceUnavailable
  | some device =>
    match device.addresses.find? env.isIpAddr with
    | none => .error addressUnavailable
    | some address => .ok (device.dnsName.getD address, address)

def SshGatewayDto.withEndpoint (gateway : SshGatewayDto) (endpoint : Text × Text) : SshGatewayDto :=
  { gateway with destination := endpoint.1, hostname := some endpoint.2 }

def moveGateways : List (Nat × Text × Text) → List SshGatewayDto → List SshGatewayDto × Except HostError Unit
  | [], gateways => (gateways, .ok ())
  | (index, endpoint) :: rest, gateways =>
    match gateways[index]? with
    | none => (gateways, .error hopUnresolved)
    | some gateway => moveGateways rest (gateways.set index (gateway.withEndpoint endpoint))

def boundEndpoints (env : Env) (devices : List TailscaleDevice) (resolved : ResolvedHost) :
    Except HostError (Option (Text × Text) × List (Nat × Text × Text)) := do
  let endpoint ← resolved.tailscaleNodeId.mapM (tailscaleEndpoint env devices)
  let gatewayEndpoints ← resolved.gatewayTailscaleBindings.mapM fun binding => do
    let endpoint ← tailscaleEndpoint env devices binding.nodeId
    .ok (binding.gatewayIndex, endpoint)
  .ok (endpoint, gatewayEndpoints)

/-- Rust `ResolvedHost::resolve_tailscale`: the host that it leaves, and how it ends. -/
def ResolvedHost.resolveTailscale (env : Env) (devices : List TailscaleDevice) (resolved : ResolvedHost) :
    ResolvedHost × Except HostError Unit :=
  if !resolved.requiresTailscale then (resolved, .ok ())
  else
    match boundEndpoints env devices resolved with
    | .error error => (resolved, .error error)
    | .ok (endpoint, gatewayEndpoints) =>
      match resolved.target with
      | .local_ => (resolved, .ok ())
      | .ssh settings =>
        let settings := match endpoint with
          | some (name, address) => { settings with destination := name, hostname := some address }
          | none => settings
        let (gateways, result) := moveGateways gatewayEndpoints settings.gateways
        ({ resolved with target := .ssh { settings with gateways } }, result)

/-! ### What a refresh changes -/

/-- The bindings of a host are different places of its route. -/
def Bound (resolved : ResolvedHost) : Prop :=
  ∃ settings, resolved.target = .ssh settings ∧ (resolved.gatewayTailscaleBindings.map (·.gatewayIndex)).Nodup ∧
    ∀ binding ∈ resolved.gatewayTailscaleBindings, binding.gatewayIndex < settings.gateways.length

inductive Resolved (env : Env) (catalog : HostCatalogDocument) : ResolvedHost → Prop where
  | resolve {destination : Text} {method : Option Text} {resolved : ResolvedHost}
      (ok : resolve env catalog destination method = .ok resolved) : Resolved env catalog resolved
  | refresh {resolved : ResolvedHost} (devices : List TailscaleDevice) (before : Resolved env catalog resolved) :
      Resolved env catalog (resolved.resolveTailscale env devices).1

def Takes (env : Env) (devices : List TailscaleDevice) (nodeId : Option Text) (before after : Text × Option Text) :
    Prop :=
  match nodeId with
  | none => after = before
  | some nodeId => ∃ name address, tailscaleEndpoint env devices nodeId = .ok (name, address) ∧
      after = (name, some address)

def deviceAt (bindings : List GatewayTailscaleBinding) (index : Nat) : Option Text :=
  (bindings.find? fun binding => binding.gatewayIndex = index).map (·.nodeId)

/-- The endpoints of the bound gateways and of the host have been taken from their devices, and nothing else is
    changed. -/
structure Refreshed (env : Env) (devices : List TailscaleDevice) (resolved after : ResolvedHost)
    (settings settings' : SshSettings) : Prop where
  target : resolved.target = .ssh settings
  after_eq : after = { resolved with target := .ssh settings' }
  others : settings' = { settings with
    destination := settings'.destination, hostname := settings'.hostname, gateways := settings'.gateways }
  host : Takes env devices resolved.tailscaleNodeId (settings.destination, settings.hostname)
    (settings'.destination, settings'.hostname)
  count : settings'.gateways.length = settings.gateways.length
  gateway : ∀ index gateway, settings.gateways[index]? = some gateway →
    ∃ gateway', settings'.gateways[index]? = some gateway' ∧
      gateway' = { gateway with destination := gateway'.destination, hostname := gateway'.hostname } ∧
      Takes env devices (deviceAt resolved.gatewayTailscaleBindings index) (gateway.destination, gateway.hostname)
        (gateway'.destination, gateway'.hostname)

/-! ### Refreshed hosts -/

variable {devices : List TailscaleDevice} {resolved : ResolvedHost} {pairs : List (Nat × Text × Text)}

lemma boundGateways_ok {bindings : List GatewayTailscaleBinding}
    (ok : (bindings.mapM fun binding => do
      let endpoint ← tailscaleEndpoint env devices binding.nodeId
      .ok (binding.gatewayIndex, endpoint)) = .ok pairs) :
    pairs.map (·.1) = bindings.map (·.gatewayIndex) ∧
      ∀ index, match deviceAt bindings index with
        | none => pairs.find? (fun pair => pair.1 = index) = none
        | some nodeId => ∃ endpoint, tailscaleEndpoint env devices nodeId = .ok endpoint ∧
            pairs.find? (fun pair => pair.1 = index) = some (index, endpoint) := by
  induction bindings generalizing pairs with
  | nil =>
    cases ok
    exact ⟨rfl, fun _ => rfl⟩
  | cons binding bindings ih =>
    rw [List.mapM_cons] at ok
    obtain ⟨pair, first, ok⟩ := bind_eq_ok.1 ok
    obtain ⟨rest, others, ok⟩ := bind_eq_ok.1 ok
    obtain ⟨endpoint, found, first⟩ := bind_eq_ok.1 first
    cases first
    cases ok
    obtain ⟨places, each⟩ := ih others
    refine ⟨congrArg (binding.gatewayIndex :: ·) places, fun index => ?_⟩
    by_cases here : binding.gatewayIndex = index
    · have device : deviceAt (binding :: bindings) index = some binding.nodeId := by
        simp [deviceAt, here]
      rw [device]
      exact ⟨endpoint, found, by simp [here]⟩
    · have device : deviceAt (binding :: bindings) index = deviceAt bindings index := by
        simp [deviceAt, here]
      have after : ((binding.gatewayIndex, endpoint) :: rest).find? (fun pair => pair.1 = index) =
          rest.find? (fun pair => pair.1 = index) := by
        simp [here]
      rw [device, after]
      exact each index

lemma moveGateways_spec {gateways : List SshGatewayDto} (distinct : (pairs.map (·.1)).Nodup)
    (within : ∀ pair ∈ pairs, pair.1 < gateways.length) :
    (moveGateways pairs gateways).2 = .ok () ∧ (moveGateways pairs gateways).1.length = gateways.length ∧
      ∀ index gateway, gateways[index]? = some gateway →
        (moveGateways pairs gateways).1[index]? = some (
          match pairs.find? (fun pair => pair.1 = index) with
          | none => gateway
          | some (_, endpoint) => gateway.withEndpoint endpoint) := by
  induction pairs generalizing gateways with
  | nil => exact ⟨rfl, rfl, fun _ _ found => found⟩
  | cons pair pairs ih =>
    obtain ⟨place, endpoint⟩ := pair
    obtain ⟨new, distinct⟩ := List.nodup_cons.1 distinct
    have inside : place < gateways.length := within _ List.mem_cons_self
    have found : gateways[place]? = some gateways[place] := List.getElem?_eq_getElem inside
    rw [moveGateways, found]
    dsimp only
    have within : ∀ pair ∈ pairs, pair.1 < (gateways.set place (gateways[place].withEndpoint endpoint)).length := by
      intro pair mem
      rw [List.length_set]
      exact within pair (List.mem_cons_of_mem _ mem)
    obtain ⟨ends, count, each⟩ := ih distinct within
    refine ⟨ends, by rw [count, List.length_set], fun index gateway old => ?_⟩
    by_cases here : place = index
    · subst here
      cases found.symm.trans old
      -- The place is not listed again.
      have absent : pairs.find? (fun pair => pair.1 = place) = none := by
        refine List.find?_eq_none.2 fun pair mem same => new ?_
        exact List.mem_map.2 ⟨pair, mem, of_decide_eq_true same⟩
      rw [each place _ (List.getElem?_set_self inside), absent]
      simp
    · rw [each index gateway (by rw [List.getElem?_set_ne here, old])]
      simp [here]

lemma withEndpoint_takes {nodeId : Text} {endpoint : Text × Text}
    (found : tailscaleEndpoint env devices nodeId = .ok endpoint) (gateway : SshGatewayDto) :
    Takes env devices (some nodeId) (gateway.destination, gateway.hostname)
      ((gateway.withEndpoint endpoint).destination, (gateway.withEndpoint endpoint).hostname) :=
  ⟨endpoint.1, endpoint.2, found, rfl⟩

lemma resolveTailscale_refreshed (bound : Bound resolved) (devices : List TailscaleDevice) :
    match resolved.resolveTailscale env devices with
    | (after, .error _) => after = resolved
    | (after, .ok ()) => ∃ settings settings', Refreshed env devices resolved after settings settings' := by
  obtain ⟨settings, target, distinct, within⟩ := bound
  rw [ResolvedHost.resolveTailscale]
  by_cases free : !resolved.requiresTailscale
  · rw [if_pos free]
    obtain ⟨free, unbound⟩ : resolved.tailscaleNodeId = none ∧ resolved.gatewayTailscaleBindings = [] := by
      simpa [ResolvedHost.requiresTailscale] using free
    refine ⟨settings, settings, target, by rw [← target], rfl, ?_, rfl, fun index gateway found => ?_⟩
    · rw [free]
      exact rfl
    · refine ⟨gateway, found, rfl, ?_⟩
      rw [unbound]
      exact rfl
  · rw [if_neg free]
    cases endpoints : boundEndpoints env devices resolved with
    | error error => rfl
    | ok moved =>
      obtain ⟨endpoint, own, endpoints⟩ := bind_eq_ok.1 endpoints
      obtain ⟨pairs, each, endpoints⟩ := bind_eq_ok.1 endpoints
      cases endpoints
      obtain ⟨places, each⟩ := boundGateways_ok each
      rw [← places] at distinct
      have within : ∀ pair ∈ pairs, pair.1 < settings.gateways.length := by
        intro pair mem
        have listed : pair.1 ∈ resolved.gatewayTailscaleBindings.map (·.gatewayIndex) :=
          places ▸ List.mem_map_of_mem mem
        obtain ⟨binding, mem, same⟩ := List.mem_map.1 listed
        exact same ▸ within binding mem
      obtain ⟨ends, count, spec⟩ := moveGateways_spec distinct within
      have gateway : ∀ index gateway, settings.gateways[index]? = some gateway →
          ∃ gateway', (moveGateways pairs settings.gateways).1[index]? = some gateway' ∧
            gateway' = { gateway with destination := gateway'.destination, hostname := gateway'.hostname } ∧
            Takes env devices (deviceAt resolved.gatewayTailscaleBindings index)
              (gateway.destination, gateway.hostname) (gateway'.destination, gateway'.hostname) := by
        intro index gateway found
        refine ⟨_, spec index gateway found, ?_⟩
        have here := each index
        cases device : deviceAt resolved.gatewayTailscaleBindings index with
        | none =>
          rw [device] at here
          rw [here]
          exact ⟨rfl, rfl⟩
        | some nodeId =>
          rw [device] at here
          obtain ⟨endpoint, known, here⟩ := here
          rw [here]
          exact ⟨rfl, withEndpoint_takes known gateway⟩
      rw [target]
      dsimp only
      cases device : resolved.tailscaleNodeId with
      | none =>
        rw [device] at own
        cases own
        dsimp only
        rw [ends]
        refine ⟨settings, { settings with gateways := (moveGateways pairs settings.gateways).1 }, target,
          by rw [device], rfl, ?_, count, gateway⟩
        rw [device]
        exact rfl
      | some nodeId =>
        rw [device] at own
        obtain ⟨⟨name, address⟩, known, own⟩ := bind_eq_ok.1 own
        cases own
        dsimp only
        rw [ends]
        refine ⟨settings, { settings with
          destination := name, hostname := some address, gateways := (moveGateways pairs settings.gateways).1 }, target,
          by rw [device], rfl, ?_, count, gateway⟩
        rw [device]
        exact ⟨name, address, known, rfl⟩

/-! ### The bindings of resolved hosts -/

lemma bindingsFrom_indices (index : Nat) (items : List Item) :
    (bindingsFrom index items).Pairwise fun first second => first.gatewayIndex < second.gatewayIndex := by
  induction items generalizing index with
  | nil => exact .nil
  | cons item items ih =>
    rw [bindingsFrom]
    refine List.pairwise_append.2 ⟨?_, ih (index + 1), ?_⟩
    · cases item.nodeId with
      | none => exact .nil
      | some nodeId => exact List.pairwise_singleton _ _
    · intro first mem second later
      obtain ⟨_, _, rfl⟩ := Option.map_eq_some_iff.1 (Option.mem_toList.1 mem)
      obtain ⟨place, _, _, _, at_index⟩ := mem_bindingsFrom.1 later
      show index < second.gatewayIndex
      omega

lemma resolveRoute_local {method : WorkspaceConnectionMethod} (target : method.target = .local_)
    (host : WorkspaceHost) : ∃ error, resolveRoute env catalog host method = refuse error := by
  refine ⟨invalidMethod, ?_⟩
  show (methodRoute env catalog 10 .empty host method >>= fun _ => _) = _
  have outside : host.hostId ∉ RouteResolver.empty.active := List.not_mem_nil
  rw [methodRoute_succ, if_neg outside, target]
  rfl

lemma resolve_bound {destination : Text} {method : Option Text}
    (ok : resolve env catalog destination method = .ok resolved) : Bound resolved := by
  unfold resolve at ok
  dsimp only at ok
  split at ok
  · cases ok
  · split at ok
    · split at ok
      · cases ok
      · cases ok
        exact ⟨_, rfl, .nil, nofun⟩
    case h_2 host _ =>
      split at ok
      case h_2 => cases ok
      case h_1 method _ =>
        obtain ⟨route, routed, ok⟩ := bind_eq_ok.1 ok
        obtain ⟨_, _, ok⟩ := bind_eq_ok.1 ok
        cases ok
        cases target : method.target with
        | local_ =>
          have ⟨error, failed⟩ : ∃ error, resolveRoute env catalog host method = refuse error :=
            resolveRoute_local target host
          cases failed.symm.trans routed
        | ssh settings =>
          obtain ⟨_, items, _, _, rfl⟩ := (resolveRoute_eq_ok target route).1 routed
          refine ⟨_, by rw [resolvedTarget, target], ?_, ?_⟩
          · exact (List.pairwise_map.2 (bindingsFrom_indices 0 _)).imp Nat.ne_of_lt
          · intro binding mem
            obtain ⟨place, _, found, _, at_index⟩ := mem_bindingsFrom.1 mem
            obtain ⟨inside, _⟩ := List.getElem?_eq_some_iff.1 found
            show _ < List.length (List.map _ _)
            rw [List.length_map]
            omega

lemma Refreshed.bound {after : ResolvedHost} {settings settings' : SshSettings}
    (h : Refreshed env devices resolved after settings settings') (bound : Bound resolved) : Bound after := by
  obtain ⟨own, target, distinct, within⟩ := bound
  cases h.target.symm.trans target
  refine ⟨settings', by rw [h.after_eq], ?_, ?_⟩
  · rw [h.after_eq]
    exact distinct
  · rw [h.after_eq, h.count]
    exact within

lemma Resolved.bound (h : Resolved env catalog resolved) : Bound resolved := by
  induction h with
  | resolve ok => exact resolve_bound ok
  | @refresh resolved devices _ ih =>
    have spec : match resolved.resolveTailscale env devices with
      | (after, .error _) => after = resolved
      | (after, .ok ()) => ∃ settings settings', Refreshed env devices resolved after settings settings' :=
      resolveTailscale_refreshed ih devices
    cases refreshed : resolved.resolveTailscale env devices with
    | mk after result =>
      rw [refreshed] at spec
      cases result with
      | error error => exact spec ▸ ih
      | ok done =>
        obtain ⟨_, _, spec⟩ := spec
        exact spec.bound ih

/-! ### Saved routes -/

/-- The resolution of a saved host's route ends, whatever refers to what; it finds the expansion of the route, with each
    device bound to the place of its host's gateway, or it is refused for a reason. A refresh of the host then moves
    what is bound, or nothing. -/
theorem savedRoute_resolution (env : Env) (catalog : HostCatalogDocument) (host : WorkspaceHost)
    (method : WorkspaceConnectionMethod) (settings : SshSettings) (target : method.target = .ssh settings) :
    (∀ depth, 10 ≤ depth → resolveIn env catalog depth host method = resolveRoute env catalog host method) ∧
    ((∃ route, resolveRoute env catalog host method = .ok route) ∨
      ∃ error, resolveRoute env catalog host method = .error (.host error)) ∧
    (∀ route, resolveRoute env catalog host method = .ok route →
      ∃ items, Expands env catalog settings.steps items ∧ items.length ≤ 8 ∧ VpnPlaced (items.map (·.gateway)) ∧
        route.gateways = (settings.kept items).map (·.gateway) ∧
        route.tailscaleBindings = bindingsFrom 0 (settings.kept items) ∧
        ∀ binding, binding ∈ route.tailscaleBindings ↔
          ∃ item, (settings.kept items)[binding.gatewayIndex]? = some item ∧ item.nodeId = some binding.nodeId) ∧
    ((∃ error, resolveRoute env catalog host method = .error (.host error)) ↔
      Refused env catalog (host, method) settings) ∧
    ∀ resolved, Resolved env catalog resolved → ∀ devices,
      match resolved.resolveTailscale env devices with
      | (after, .error _) => after = resolved
      | (after, .ok ()) => ∃ settings settings', Refreshed env devices resolved after settings settings' := by
  have ends : (∃ route, resolveRoute env catalog host method = .ok route) ∨
      ∃ error, resolveRoute env catalog host method = .error (.host error) :=
    (resolveIn_enough target (Nat.le_refl 10)).2
  refine ⟨fun depth enough => (resolveIn_enough target enough).1, ends, ?_, ?_, ?_⟩
  · intro route ok
    obtain ⟨_, items, expands, usable, rfl⟩ := (resolveRoute_eq_ok target route).1 ok
    refine ⟨items, expands, ?_, usable.2, rfl, rfl, fun binding => ?_⟩
    · have short := usable.1
      rwa [List.length_map] at short
    · rw [mem_bindingsFrom]
      constructor
      · rintro ⟨place, item, found, device, at_index⟩
        rw [Nat.zero_add] at at_index
        exact ⟨item, at_index ▸ found, device⟩
      · rintro ⟨item, found, device⟩
        exact ⟨binding.gatewayIndex, item, found, device, (Nat.zero_add _).symm⟩
  · -- What is resolved is what is not refused.
    have fine : (∃ route, resolveRoute env catalog host method = .ok route) ↔
        ¬ Refused env catalog (host, method) settings := by
      rw [not_refused_iff target]
      constructor
      · rintro ⟨route, ok⟩
        obtain ⟨acyclic, items, expands, usable, _⟩ := (resolveRoute_eq_ok target route).1 ok
        exact ⟨acyclic, items, expands, usable⟩
      · rintro ⟨acyclic, items, expands, usable⟩
        exact ⟨_, (resolveRoute_eq_ok target _).2 ⟨acyclic, items, expands, usable, rfl⟩⟩
    constructor
    · rintro ⟨error, failed⟩
      apply Classical.not_not.1
      intro unrefused
      obtain ⟨route, ok⟩ := fine.2 unrefused
      cases ok.symm.trans failed
    · intro refused
      rcases ends with resolved | failed
      · exact absurd refused (fine.1 resolved)
      · exact failed
  · intro resolved reached devices
    exact resolveTailscale_refreshed reached.bound devices

def jumpMethod : WorkspaceConnectionMethod where
  methodId := "ssh".toList
  name := "SSH".toList
  sshConfigAlias := none
  useSshConfigMaster := none
  tailscaleNodeId := some "node".toList
  target := .ssh { SshSettings.of "jump.example".toList with gatewayRoute := [.gateway "edge".toList .automatic] }

def innerSettings : SshSettings :=
  { SshSettings.of "inner.example".toList with
    gatewayRoute := [.host "jump".toList "ssh".toList .nativeOnly], vpnConnectionId := some "office".toList }

def innerMethod : WorkspaceConnectionMethod :=
  { jumpMethod with methodId := "vpn".toList, tailscaleNodeId := none, target := .ssh innerSettings }

def hostWith (hostId : String) (method : WorkspaceConnectionMethod) : WorkspaceHost where
  hostId := hostId.toList
  name := hostId.toList
  connectionMethods := [method]
  preferredMethodId := none
  remoteInfo := none

def nestedCatalog : HostCatalogDocument where
  schemaVersion := 1
  hosts := [hostWith "inner" innerMethod, hostWith "jump" jumpMethod]
  sshGateways := [{
    kind := .ssh, gatewayId := "edge".toList, name := "Edge".toList, destination := "edge.example".toList
    hostname := none, user := none, port := some 22, identityFile := none, remoteInfo := none }]
  hostColors := []

def plainEnv : Env where
  socketPath := [0x2f]
  parseUuid := fun _ => none
  debugText := id
  isIpAddr := fun _ => false

/-- The device is bound to the second gateway, behind the saved one: the VPN is not counted. -/
theorem savedRoute_resolution_nested :
    ∃ route items, resolveRoute plainEnv nestedCatalog (hostWith "inner" innerMethod) innerMethod = .ok route ∧
      route.gateways.map (·.gatewayId) = ["edge".toList, "host:jump:ssh".toList] ∧
      route.tailscaleBindings = [⟨1, "node".toList⟩] ∧
      Expands plainEnv nestedCatalog innerSettings.steps items ∧ items.length ≤ 8 ∧
      route.gateways = (innerSettings.kept items).map (·.gateway) := by
  have found := (savedRoute_resolution plainEnv nestedCatalog (hostWith "inner" innerMethod) innerMethod innerSettings
    rfl).2.2.1 ⟨_, [⟨1, "node".toList⟩]⟩ rfl
  obtain ⟨items, expands, short, _, gateways, _⟩ := found
  exact ⟨_, items, rfl, rfl, rfl, expands, short, gateways⟩

end Ctl.Hosts
