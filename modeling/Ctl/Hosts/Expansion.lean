import Ctl.Hosts.Route
import Mathlib.Data.List.Chain
import Mathlib.Data.List.Nodup
import Mathlib.Logic.Relation

/-!
# What a saved route expands to

`Expands` is the expansion of the steps of a route, and `Refused` says why a route has none that can be used. A route
that is free of cycles, missing references and methods that are no hops has an expansion (`exists_expands`): a chain of
hosts is no longer than the catalog.
-/

namespace Ctl.Hosts
open Ctl.Base Ctl.Proto Ctl.Approval Relation

variable {env : Env} {catalog : HostCatalogDocument}

/-! ### Expansions -/

/-- A gateway of an expansion, and the device that its address is taken from. -/
structure Item where
  gateway : SshGatewayDto
  nodeId : Option Text

def SshSettings.steps (settings : SshSettings) : List SshGatewayRouteStepDto :=
  (settings.vpnConnectionId.map .vpn).toList ++ settings.gatewayRoute

inductive Expands (env : Env) (catalog : HostCatalogDocument) : List SshGatewayRouteStepDto → List Item → Prop where
  | nil : Expands env catalog [] []
  | vpn {connectionId : Text} {steps : List SshGatewayRouteStepDto} {items : List Item}
      (rest : Expands env catalog steps items) :
      Expands env catalog (.vpn connectionId :: steps) (⟨vpnGateway connectionId, none⟩ :: items)
  | gateway {gatewayId : Text} {mode : SshGatewayModeDto} {gateway : WorkspaceSshGateway}
      {steps : List SshGatewayRouteStepDto} {items : List Item}
      (found : catalog.findGateway gatewayId = some gateway) (rest : Expands env catalog steps items) :
      Expands env catalog (.gateway gatewayId mode :: steps) (⟨savedGateway gateway mode, none⟩ :: items)
  | host {hostId methodId : Text} {mode : SshGatewayModeDto} {host : WorkspaceHost}
      {method : WorkspaceConnectionMethod} {checked : SshSettings × Text × Option Text}
      {steps : List SshGatewayRouteStepDto} {within items : List Item}
      (found : catalog.findHost hostId = some host) (chosen : host.findMethod methodId = some method)
      (hop : checkHop env host method = .ok checked) (inner : Expands env catalog checked.1.steps within)
      (rest : Expands env catalog steps items) :
      Expands env catalog (.host hostId methodId mode :: steps)
        (within ++ ⟨hopGateway host hostId methodId mode checked, method.tailscaleNodeId⟩ :: items)

/-- Every VPN is first or directly behind an SSH host. -/
def VpnPlaced (gateways : List SshGatewayDto) : Prop :=
  gateways.IsChain fun previous gateway => gateway.kind = .vpn → previous.kind = .ssh

def bindingsFrom : (index : Nat) → List Item → List GatewayTailscaleBinding
  | _, [] => []
  | index, item :: items => (item.nodeId.map fun nodeId => ⟨index, nodeId⟩).toList ++ bindingsFrom (index + 1) items

/-! ### References -/

abbrev Selected := WorkspaceHost × WorkspaceConnectionMethod

def Names (catalog : HostCatalogDocument) (step : SshGatewayRouteStepDto) (selected : Selected) : Prop :=
  ∃ hostId methodId mode, step = .host hostId methodId mode ∧ catalog.findHost hostId = some selected.1 ∧
    selected.1.findMethod methodId = some selected.2

def RefersTo (catalog : HostCatalogDocument) (first second : Selected) : Prop :=
  ∃ settings, first.2.target = .ssh settings ∧ ∃ step ∈ settings.gatewayRoute, Names catalog step second

abbrev Reaches (catalog : HostCatalogDocument) : Selected → Selected → Prop := ReflTransGen (RefersTo catalog)

/-- A step refers to nothing. -/
def Dangling (catalog : HostCatalogDocument) : SshGatewayRouteStepDto → Prop
  | .vpn _ => False
  | .gateway gatewayId _ => catalog.findGateway gatewayId = none
  | .host hostId methodId _ => (catalog.findHost hostId).bind (·.findMethod methodId) = none

inductive Refused (env : Env) (catalog : HostCatalogDocument) (root : Selected) (settings : SshSettings) : Prop where
  /-- A host is inside of its own expansion. -/
  | cycle {first second : Selected} (reached : Reaches catalog root first)
      (inside : TransGen (RefersTo catalog) first second) (same : first.1.hostId = second.1.hostId)
  /-- A reference is missing. -/
  | missing {selected : Selected} {own : SshSettings} {step : SshGatewayRouteStepDto}
      (reached : Reaches catalog root selected) (target : selected.2.target = .ssh own)
      (listed : step ∈ own.gatewayRoute) (dangling : Dangling catalog step)
  /-- A method that is referred to cannot be a hop. -/
  | noHop {first second : Selected} {error : HostError} (reached : Reaches catalog root first)
      (refers : RefersTo catalog first second) (fails : checkHop env second.1 second.2 = .error error)
  /-- The expansion has more than eight gateways. -/
  | tooLong {items : List Item} (expands : Expands env catalog settings.steps items) (long : 8 < items.length)
  /-- A VPN follows a gateway that is no SSH host. -/
  | vpnOrder {items : List Item} (expands : Expands env catalog settings.steps items)
      (misplaced : ¬ VpnPlaced (items.map (·.gateway)))

/-- No host is inside of its own expansion, from this one on. -/
def Acyclic (catalog : HostCatalogDocument) (root : Selected) : Prop :=
  ∀ first second, Reaches catalog root first → TransGen (RefersTo catalog) first second →
    first.1.hostId ≠ second.1.hostId

/-- None of the hosts is met from this one on. -/
def Outside (catalog : HostCatalogDocument) (active : List Text) (root : Selected) : Prop :=
  ∀ selected, Reaches catalog root selected → selected.1.hostId ∉ active

def Clear (catalog : HostCatalogDocument) (active : List Text) (steps : List SshGatewayRouteStepDto) : Prop :=
  ∀ step ∈ steps, ∀ selected, Names catalog step selected → Outside catalog active selected ∧ Acyclic catalog selected

/-! ### Facts about expansions -/

lemma checkHop_target {host : WorkspaceHost} {method : WorkspaceConnectionMethod}
    {checked : SshSettings × Text × Option Text} (hop : checkHop env host method = .ok checked) :
    method.target = .ssh checked.1 := by
  unfold checkHop at hop
  cases target : method.target with
  | local_ =>
    rw [target] at hop
    cases hop
  | ssh settings =>
    rw [target] at hop
    dsimp only at hop
    split at hop
    · cases hop
    · obtain ⟨_, _, hop⟩ := bind_eq_ok.1 hop
      obtain ⟨_, _, hop⟩ := bind_eq_ok.1 hop
      cases hop
      rfl

variable {items : List Item}

lemma Expands.unique {steps : List SshGatewayRouteStepDto} {others : List Item} (h : Expands env catalog steps items)
    (k : Expands env catalog steps others) : items = others := by
  induction h generalizing others with
  | nil =>
    cases k
    rfl
  | vpn _ ih =>
    cases k with
    | vpn rest => rw [ih rest]
  | gateway found _ ih =>
    cases k with
    | gateway found' rest =>
      cases found.symm.trans found'
      rw [ih rest]
  | host found chosen hop _ _ ihInner ihRest =>
    cases k with
    | host found' chosen' hop' inner' rest' =>
      cases found.symm.trans found'
      cases chosen.symm.trans chosen'
      cases hop.symm.trans hop'
      rw [ihInner inner', ihRest rest']

lemma Expands.append {first last : List SshGatewayRouteStepDto} {more : List Item}
    (h : Expands env catalog first items) (k : Expands env catalog last more) :
    Expands env catalog (first ++ last) (items ++ more) := by
  induction h with
  | nil => exact k
  | vpn _ ih => exact .vpn ih
  | gateway found _ ih => exact .gateway found ih
  | host found chosen hop inner _ _ ih =>
    rw [List.append_assoc]
    exact .host found chosen hop inner ih

lemma Names.unique {step : SshGatewayRouteStepDto} {first second : Selected} (h : Names catalog step first)
    (k : Names catalog step second) : first = second := by
  obtain ⟨hostId, methodId, mode, rfl, found, chosen⟩ := h
  obtain ⟨_, _, _, eq, found', chosen'⟩ := k
  cases eq
  have hosts : first.1 = second.1 := Option.some.inj (found.symm.trans found')
  rw [← hosts] at chosen'
  exact Prod.ext hosts (Option.some.inj (chosen.symm.trans chosen'))

lemma Expands.named {steps : List SshGatewayRouteStepDto} {items : List Item} {step : SshGatewayRouteStepDto}
    {selected : Selected} (h : Expands env catalog steps items) (listed : step ∈ steps)
    (names : Names catalog step selected) :
    ∃ checked within, checkHop env selected.1 selected.2 = .ok checked ∧
      Expands env catalog checked.1.steps within := by
  obtain ⟨hostId, methodId, mode, rfl, found, chosen⟩ := names
  induction h with
  | nil => cases listed
  | vpn _ ih =>
    cases listed with
    | tail _ listed => exact ih listed
  | gateway _ _ ih =>
    cases listed with
    | tail _ listed => exact ih listed
  | host found' chosen' hop inner _ _ ih =>
    cases listed with
    | head =>
      cases found.symm.trans found'
      cases chosen.symm.trans chosen'
      exact ⟨_, _, hop, inner⟩
    | tail _ listed => exact ih listed

lemma Expands.not_dangling {steps : List SshGatewayRouteStepDto} {step : SshGatewayRouteStepDto}
    (h : Expands env catalog steps items) (listed : step ∈ steps) : ¬ Dangling catalog step := by
  induction h with
  | nil => cases listed
  | vpn _ ih =>
    cases listed with
    | head => exact id
    | tail _ listed => exact ih listed
  | gateway found _ ih =>
    cases listed with
    | head =>
      intro missing
      cases found.symm.trans missing
    | tail _ listed => exact ih listed
  | host found chosen _ _ _ _ ih =>
    cases listed with
    | head =>
      intro missing
      rw [Dangling, found, Option.bind_some, chosen] at missing
      cases missing
    | tail _ listed => exact ih listed

lemma mem_steps_of_mem {settings : SshSettings} {step : SshGatewayRouteStepDto} (listed : step ∈ settings.gatewayRoute) :
    step ∈ settings.steps :=
  List.mem_append_right _ listed

lemma mem_steps {settings : SshSettings} {step : SshGatewayRouteStepDto} (listed : step ∈ settings.steps) :
    step ∈ settings.gatewayRoute ∨ ∃ connectionId, step = .vpn connectionId := by
  rw [SshSettings.steps, List.mem_append] at listed
  rcases listed with legacy | listed
  · obtain ⟨connectionId, _, rfl⟩ := List.mem_map.1 (Option.toList_map .. ▸ legacy)
    exact .inr ⟨connectionId, rfl⟩
  · exact .inl listed

lemma Expands.reached {root selected : Selected} {settings : SshSettings} {items : List Item}
    (target : root.2.target = .ssh settings) (h : Expands env catalog settings.steps items)
    (reached : Reaches catalog root selected) :
    ∃ own within, selected.2.target = .ssh own ∧ Expands env catalog own.steps within := by
  induction reached with
  | refl => exact ⟨settings, items, target, h⟩
  | tail _ refers ih =>
    obtain ⟨own, within, target, expands⟩ := ih
    obtain ⟨settings', target', step, listed, names⟩ := refers
    cases target.symm.trans target'
    obtain ⟨checked, within', hop, expands'⟩ := expands.named (mem_steps_of_mem listed) names
    exact ⟨checked.1, within', checkHop_target hop, expands'⟩

/-! ### Existence -/

lemma exists_expands_steps {steps : List SshGatewayRouteStepDto} (whole : ∀ step ∈ steps, ¬ Dangling catalog step)
    (hops : ∀ step ∈ steps, ∀ selected, Names catalog step selected →
      ∃ checked within, checkHop env selected.1 selected.2 = .ok checked ∧
        Expands env catalog checked.1.steps within) : ∃ items, Expands env catalog steps items := by
  induction steps with
  | nil => exact ⟨[], .nil⟩
  | cons step steps ih =>
    obtain ⟨items, rest⟩ := ih (fun s mem => whole s (List.mem_cons_of_mem _ mem))
      fun s mem => hops s (List.mem_cons_of_mem _ mem)
    have present := whole step List.mem_cons_self
    cases step with
    | vpn connectionId => exact ⟨_, rest.vpn⟩
    | gateway gatewayId mode =>
      obtain ⟨gateway, found⟩ := Option.ne_none_iff_exists'.1 present
      exact ⟨_, rest.gateway found⟩
    | host hostId methodId mode =>
      obtain ⟨method, chosen⟩ := Option.ne_none_iff_exists'.1 present
      obtain ⟨host, found, chosen⟩ := Option.bind_eq_some_iff.1 chosen
      obtain ⟨checked, within, hop, inner⟩ :=
        hops _ List.mem_cons_self (host, method) ⟨hostId, methodId, mode, rfl, found, chosen⟩
      exact ⟨_, .host found chosen hop inner rest⟩

lemma findHost_mem {hostId : Text} {host : WorkspaceHost} (found : catalog.findHost hostId = some host) :
    host.hostId ∈ catalog.hosts.map (·.hostId) :=
  List.mem_map_of_mem (List.mem_of_find?_eq_some found)

/-- A method without cycles, missing references and methods that are no hops has an expansion. `path` are the hosts
    on the way to it: they are different and, but for the first, in the catalog, so there is room for `room` more. -/
lemma exists_expands_of_path {root : Selected} {settings : SshSettings} (fine : ¬ Refused env catalog root settings)
    (room : Nat) (path : List Text) {selected : Selected} {own : SshSettings} (distinct : path.Nodup)
    (known : path ⊆ root.1.hostId :: catalog.hosts.map (·.hostId))
    (above : ∀ id ∈ path, ∃ first, Reaches catalog root first ∧ Reaches catalog first selected ∧ first.1.hostId = id)
    (reached : Reaches catalog root selected) (bound : catalog.hosts.length + 1 < room + path.length)
    (target : selected.2.target = .ssh own) : ∃ items, Expands env catalog own.steps items := by
  induction room generalizing path selected own with
  | zero =>
    -- There are no more different hosts than the catalog has.
    have count := (List.subperm_of_subset distinct known).length_le
    rw [List.length_cons, List.length_map] at count
    omega
  | succ room ih =>
    apply exists_expands_steps
    · intro step listed dangling
      rcases mem_steps listed with listed | ⟨_, rfl⟩
      · exact fine (.missing reached target listed dangling)
      · exact dangling
    · intro step listed next names
      have refers : RefersTo catalog selected next := by
        rcases mem_steps listed with listed | ⟨_, rfl⟩
        · exact ⟨own, target, step, listed, names⟩
        · obtain ⟨_, _, _, eq, _⟩ := names
          cases eq
      have new : next.1.hostId ∉ path := by
        intro mem
        obtain ⟨first, fromRoot, below, same⟩ := above _ mem
        exact fine (.cycle fromRoot (TransGen.tail' below refers) same)
      cases hop : checkHop env next.1 next.2 with
      | error error => exact absurd (.noHop reached refers hop) fine
      | ok checked =>
        have further : Reaches catalog root next := reached.tail refers
        obtain ⟨_, _, _, _, found, _⟩ := names
        have more : next.1.hostId :: path ⊆ root.1.hostId :: catalog.hosts.map (·.hostId) :=
          List.cons_subset.2 ⟨List.mem_cons_of_mem _ (findHost_mem found), known⟩
        have aboveNext : ∀ id ∈ next.1.hostId :: path,
            ∃ first, Reaches catalog root first ∧ Reaches catalog first next ∧ first.1.hostId = id := by
          intro id mem
          rcases List.mem_cons.1 mem with rfl | mem
          · exact ⟨next, further, .refl, rfl⟩
          · obtain ⟨first, fromRoot, below, same⟩ := above id mem
            exact ⟨first, fromRoot, below.tail refers, same⟩
        obtain ⟨within, expands⟩ := ih (next.1.hostId :: path) (List.nodup_cons.2 ⟨new, distinct⟩) more aboveNext
          further (by rw [List.length_cons]; omega) (checkHop_target hop)
        exact ⟨checked, within, rfl, expands⟩

lemma exists_expands {root : Selected} {settings : SshSettings} (target : root.2.target = .ssh settings)
    (fine : ¬ Refused env catalog root settings) : ∃ items, Expands env catalog settings.steps items := by
  refine exists_expands_of_path fine (catalog.hosts.length + 1) [root.1.hostId] (List.nodup_singleton _) ?_ ?_ .refl
    (by rw [List.length_singleton]; omega) target
  · exact List.cons_subset.2 ⟨List.mem_cons_self, List.nil_subset _⟩
  · intro id mem
    exact ⟨root, .refl, .refl, (List.mem_singleton.1 mem).symm⟩

end Ctl.Hosts
