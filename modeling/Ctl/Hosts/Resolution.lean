import Ctl.Hosts.Expansion

/-!
# The resolver finds the expansion

The resolver appends the expansion of a route to what it has (`methodRoute_sound`), and does so whenever there is an
expansion that fits and no host is inside of its own (`foldlM_step_runs`). It always ends: a depth of ten is enough
(`methodRoute_settled`). So a route is resolved exactly if it is not refused (`resolveRoute_eq_ok`, `not_refused_iff`).
-/

namespace Ctl.Hosts
open Ctl.Base Ctl.Proto Ctl.Approval Relation

variable {env : Env} {catalog : HostCatalogDocument} {gateway : SshGatewayDto} {resolver next : RouteResolver}
  {active : List Text} {step : SshGatewayRouteStepDto} {steps : List SshGatewayRouteStepDto}
  {route : RouteResolver → WorkspaceHost → WorkspaceConnectionMethod → Except Failure RouteResolver}
  {settings : SshSettings} {depth : Nat} {items more : List Item} {host : WorkspaceHost}
  {method : WorkspaceConnectionMethod} {gateways : List SshGatewayDto} {selected : Selected}
  {other : RouteResolver → WorkspaceHost → WorkspaceConnectionMethod → Except Failure RouteResolver}

/-! ### The resolver appends expansions -/

def RouteResolver.appended (resolver : RouteResolver) (items : List Item) : RouteResolver where
  active := resolver.active
  gateways := resolver.gateways ++ items.map (·.gateway)
  tailscaleBindings := resolver.tailscaleBindings ++ bindingsFrom resolver.gateways.length items

def Usable (gateways : List SshGatewayDto) : Prop := gateways.length ≤ 8 ∧ VpnPlaced gateways

lemma bindingsFrom_append (index : Nat) (first last : List Item) :
    bindingsFrom index (first ++ last) = bindingsFrom index first ++ bindingsFrom (index + first.length) last := by
  induction first generalizing index with
  | nil => rfl
  | cons item first ih =>
    rw [List.cons_append, bindingsFrom, bindingsFrom, ih, List.append_assoc, List.length_cons, Nat.add_assoc index 1,
      Nat.add_comm 1]

lemma RouteResolver.appended_nil (resolver : RouteResolver) : resolver.appended [] = resolver := by
  unfold RouteResolver.appended
  rw [List.map_nil, List.append_nil, bindingsFrom, List.append_nil]

lemma RouteResolver.appended_append (resolver : RouteResolver) (first last : List Item) :
    (resolver.appended first).appended last = resolver.appended (first ++ last) := by
  unfold RouteResolver.appended
  rw [List.map_append, List.append_assoc, bindingsFrom_append, List.append_assoc, List.length_append, List.length_map]

lemma Usable.before {more : List SshGatewayDto} (usable : Usable (gateways ++ more)) : Usable gateways := by
  obtain ⟨short, placed⟩ := usable
  rw [List.length_append] at short
  exact ⟨by omega, (List.isChain_append.1 placed).1⟩

lemma usable_concat :
    Usable (gateways ++ [gateway]) ↔ Usable gateways ∧ gateways.length < 8 ∧
      ¬ (gateway.kind = .vpn ∧ gateways.getLast?.any (fun previous => previous.kind ≠ .ssh)) := by
  have last : (∀ previous ∈ gateways.getLast?, gateway.kind = .vpn → previous.kind = .ssh) ↔
      ¬ (gateway.kind = .vpn ∧ gateways.getLast?.any (fun previous => previous.kind ≠ .ssh)) := by
    cases gateways.getLast? with
    | none => simp
    | some previous =>
      simp only [Option.mem_some_iff, forall_eq', Option.any_some, decide_eq_true_eq, not_and, not_not]
  unfold Usable VpnPlaced
  rw [List.isChain_append, List.length_append, List.length_singleton]
  simp only [List.isChain_singleton, true_and, List.head?_cons, Option.mem_some_iff, forall_eq']
  rw [last]
  constructor
  · rintro ⟨short, placed, fits⟩
    exact ⟨⟨by omega, placed⟩, by omega, fits⟩
  · rintro ⟨⟨_, placed⟩, short, fits⟩
    exact ⟨by omega, placed, fits⟩

lemma push_eq_ok (usable : Usable resolver.gateways) :
    resolver.push gateway = .ok next ↔
      Usable (resolver.gateways ++ [gateway]) ∧ { resolver with gateways := resolver.gateways ++ [gateway] } = next := by
  rw [usable_concat, RouteResolver.push]
  by_cases full : 8 ≤ resolver.gateways.length
  · rw [if_pos full]
    exact ⟨nofun, fun h => absurd h.1.2.1 (Nat.not_lt_of_le full)⟩
  · rw [if_neg full]
    split
    case isTrue misplaced => exact ⟨nofun, fun h => absurd misplaced h.1.2.2⟩
    case isFalse fits =>
      exact ⟨fun h => ⟨⟨usable, Nat.lt_of_not_le full, fits⟩, Except.ok.inj h⟩, fun h => congrArg _ h.2⟩

lemma push_free (usable : Usable resolver.gateways) :
    resolver.push gateway = .ok next ↔
      Usable (resolver.gateways ++ [gateway]) ∧ resolver.appended [⟨gateway, none⟩] = next := by
  rw [push_eq_ok usable, RouteResolver.appended, bindingsFrom, bindingsFrom, Option.map_none, Option.toList_none,
    List.append_nil, List.append_nil]
  rfl

lemma push_item {nodeId : Option Text} (usable : Usable resolver.gateways) :
    (resolver.bindNext nodeId).push gateway = .ok next ↔
      Usable (resolver.gateways ++ [gateway]) ∧ resolver.appended [⟨gateway, nodeId⟩] = next := by
  cases nodeId with
  | none => exact push_free usable
  | some nodeId =>
    have usable : Usable (resolver.bindNext (some nodeId)).gateways := usable
    exact push_eq_ok usable

def RouteResolver.enter (resolver : RouteResolver) (hostId : Text) : RouteResolver :=
  { resolver with active := hostId :: resolver.active }

lemma RouteResolver.enter_appended_leave (resolver : RouteResolver) (hostId : Text) (items : List Item) :
    { (resolver.enter hostId).appended items with
      active := ((resolver.enter hostId).appended items).active.erase hostId } = resolver.appended items := by
  show (⟨(hostId :: resolver.active).erase hostId, _, _⟩ : RouteResolver) = _
  rw [List.erase_cons_head]
  rfl

lemma methodRoute_succ (depth : Nat) (resolver : RouteResolver) (host : WorkspaceHost)
    (method : WorkspaceConnectionMethod) :
    methodRoute env catalog (depth + 1) resolver host method =
      if host.hostId ∈ resolver.active then refuse (routeCycle host method)
      else if 9 < resolver.active.length + 1 then refuse routeTooLong
      else
        match method.target with
        | .local_ => refuse invalidMethod
        | .ssh settings =>
          settings.steps.foldlM (fun resolver step => resolver.step env catalog (methodRoute env catalog depth) step)
            (resolver.enter host.hostId) >>= fun resolver =>
          .ok { resolver with active := resolver.active.erase host.hostId } := by
  rw [methodRoute]
  dsimp only
  rw [List.length_cons]
  split
  · rfl
  · split
    · rfl
    · cases method.target with
      | local_ => rfl
      | ssh settings =>
        dsimp only
        rw [SshSettings.steps, List.foldlM_append]
        cases settings.vpnConnectionId with
        | none => rfl
        | some connectionId =>
          show (RouteResolver.push _ _ >>= fun _ => _) = _
          rw [Option.map_some, Option.toList_some, List.foldlM_cons, bind_assoc]
          show _ = ((RouteResolver.push _ _ >>= fun _ => _) >>= fun _ => _)
          rw [bind_assoc]
          rfl

/-! ### What has been resolved -/

/-- The resolver has appended the expansion of steps, and what they name neither is active nor in a cycle. -/
structure Appends (env : Env) (catalog : HostCatalogDocument) (resolver next : RouteResolver)
    (steps : List SshGatewayRouteStepDto) (items : List Item) : Prop where
  expands : Expands env catalog steps items
  next_eq : next = resolver.appended items
  usable : Usable next.gateways
  clear : Clear catalog resolver.active steps

def Sound (env : Env) (catalog : HostCatalogDocument)
    (methodRoute : RouteResolver → WorkspaceHost → WorkspaceConnectionMethod → Except Failure RouteResolver) : Prop :=
  ∀ resolver next host method, Usable resolver.gateways → methodRoute resolver host method = .ok next →
    ∃ settings items, method.target = .ssh settings ∧ Expands env catalog settings.steps items ∧
      next = resolver.appended items ∧ Usable next.gateways ∧
      Outside catalog resolver.active (host, method) ∧ Acyclic catalog (host, method)

lemma clear_nil (active : List Text) : Clear catalog active [] := nofun

lemma clear_cons :
    Clear catalog active (step :: steps) ↔
      (∀ selected, Names catalog step selected → Outside catalog active selected ∧ Acyclic catalog selected) ∧
        Clear catalog active steps :=
  List.forall_mem_cons

lemma clear_free (free : ∀ hostId methodId mode, step ≠ .host hostId methodId mode) : Clear catalog active [step] := by
  refine clear_cons.2 ⟨fun selected names => ?_, clear_nil active⟩
  obtain ⟨hostId, methodId, mode, eq, _⟩ := names
  exact absurd eq (free hostId methodId mode)

lemma step_ok (sound : Sound env catalog route) (usable : Usable resolver.gateways)
    (ok : resolver.step env catalog route step = .ok next) :
    ∃ items, Appends env catalog resolver next [step] items := by
  cases step with
  | vpn connectionId =>
    obtain ⟨fits, rfl⟩ := (push_free usable).1 ok
    exact ⟨_, .vpn .nil, rfl, fits, clear_free nofun⟩
  | gateway gatewayId mode =>
    rw [RouteResolver.step] at ok
    split at ok
    · cases ok
    case h_2 gateway found =>
      obtain ⟨fits, rfl⟩ := (push_free usable).1 ok
      exact ⟨_, .gateway found .nil, rfl, fits, clear_free nofun⟩
  | host hostId methodId mode =>
    rw [RouteResolver.step] at ok
    split at ok
    · cases ok
    case h_2 host found =>
      split at ok
      · cases ok
      case h_2 method chosen =>
        obtain ⟨checked, hop, ok⟩ := bind_eq_ok.1 ok
        obtain ⟨inside, expanded, ok⟩ := bind_eq_ok.1 ok
        have hop : checkHop env host method = .ok checked := by
          cases eq : checkHop env host method <;> rw [eq] at hop <;> cases hop
          rfl
        obtain ⟨settings, within, target, expands, rfl, fitsWithin, outside, acyclic⟩ :=
          sound _ _ _ _ usable expanded
        cases target.symm.trans (checkHop_target hop)
        obtain ⟨fits, rfl⟩ := (push_item fitsWithin).1 ok
        have names : Names catalog (.host hostId methodId mode) (host, method) :=
          ⟨hostId, methodId, mode, rfl, found, chosen⟩
        refine ⟨within ++ [⟨hopGateway host hostId methodId mode checked, method.tailscaleNodeId⟩],
          .host found chosen hop expands .nil, RouteResolver.appended_append _ _ _, fits, ?_⟩
        refine clear_cons.2 ⟨fun selected named => ?_, clear_nil _⟩
        rw [named.unique names]
        exact ⟨outside, acyclic⟩

lemma foldlM_step_ok (sound : Sound env catalog route) (usable : Usable resolver.gateways)
    (ok : steps.foldlM (fun resolver step => resolver.step env catalog route step) resolver = .ok next) :
    ∃ items, Appends env catalog resolver next steps items := by
  induction steps generalizing resolver with
  | nil =>
    cases ok
    exact ⟨[], .nil, (RouteResolver.appended_nil _).symm, usable, clear_nil _⟩
  | cons step steps ih =>
    rw [List.foldlM_cons] at ok
    obtain ⟨middle, first, rest⟩ := bind_eq_ok.1 ok
    obtain ⟨items, one⟩ := step_ok sound usable first
    obtain ⟨more, others⟩ := ih one.usable rest
    have active : middle.active = resolver.active := by
      rw [one.next_eq]
      rfl
    refine ⟨items ++ more, one.expands.append others.expands, ?_, others.usable, ?_⟩
    · rw [others.next_eq, one.next_eq, RouteResolver.appended_append]
    · exact clear_cons.2 ⟨(clear_cons.1 one.clear).1, active ▸ others.clear⟩

lemma outside_acyclic (target : selected.2.target = .ssh settings) (new : selected.1.hostId ∉ active)
    (clear : Clear catalog (selected.1.hostId :: active) settings.steps) :
    Outside catalog active selected ∧ Acyclic catalog selected := by
  have next_of : ∀ {next}, RefersTo catalog selected next →
      Outside catalog (selected.1.hostId :: active) next ∧ Acyclic catalog next := by
    rintro next ⟨own, target', step, listed, names⟩
    cases target.symm.trans target'
    exact clear step (mem_steps_of_mem listed) next names
  constructor
  · intro other reached
    rcases ReflTransGen.cases_head reached with rfl | ⟨next, refers, further⟩
    · exact new
    · exact fun mem => (next_of refers).1 other further (List.mem_cons_of_mem _ mem)
  · intro first second reached below
    rcases ReflTransGen.cases_head reached with rfl | ⟨next, refers, further⟩
    · obtain ⟨next, refers, further⟩ := TransGen.head'_iff.1 below
      intro same
      apply (next_of refers).1 second further
      rw [← same]
      exact List.mem_cons_self
    · exact (next_of refers).2 first second further below

lemma methodRoute_sound (depth : Nat) : Sound env catalog (methodRoute env catalog depth) := by
  induction depth with
  | zero =>
    intro _ _ _ _ _ ok
    cases ok
  | succ depth ih =>
    intro resolver next host method usable ok
    rw [methodRoute_succ] at ok
    split at ok
    · cases ok
    case isFalse new =>
      split at ok
      · cases ok
      · split at ok
        · cases ok
        case h_2 settings target =>
          obtain ⟨inside, loop, ok⟩ := bind_eq_ok.1 ok
          have usable : Usable (resolver.enter host.hostId).gateways := usable
          obtain ⟨items, appends⟩ := foldlM_step_ok ih usable loop
          obtain ⟨outside, acyclic⟩ : Outside catalog resolver.active (host, method) ∧ Acyclic catalog (host, method) :=
            outside_acyclic target new appends.clear
          cases ok
          have usable := appends.usable
          rw [appends.next_eq] at usable ⊢
          refine ⟨settings, items, target, appends.expands, ?_, usable, outside, acyclic⟩
          exact resolver.enter_appended_leave host.hostId items

/-! ### What can be resolved -/

lemma clear_within (target : selected.2.target = .ssh settings) (outside : Outside catalog active selected)
    (acyclic : Acyclic catalog selected) : Clear catalog (selected.1.hostId :: active) settings.steps := by
  intro step listed next names
  have refers : RefersTo catalog selected next := by
    rcases mem_steps listed with listed | ⟨_, rfl⟩
    · exact ⟨settings, target, step, listed, names⟩
    · obtain ⟨_, _, _, eq, _⟩ := names
      cases eq
  constructor
  · intro other reached mem
    rcases List.mem_cons.1 mem with same | mem
    · exact acyclic selected other .refl (TransGen.head' refers reached) same.symm
    · exact outside other (.head refers reached) mem
  · exact fun first second reached below => acyclic first second (.head refers reached) below

/-- There is room for items. Each active host but the first will still append its own gateway, so a long chain of hosts
    makes a long route, and the depth follows it. -/
structure Room (depth : Nat) (resolver : RouteResolver) (items : List Item) : Prop where
  usable : Usable (resolver.gateways ++ items.map (·.gateway))
  room : resolver.active.length + resolver.gateways.length + items.length ≤ 9
  deep : 10 ≤ depth + resolver.active.length

lemma Room.before (h : Room depth resolver (items ++ more)) : Room depth resolver items := by
  obtain ⟨usable, room, deep⟩ := h
  rw [List.map_append, ← List.append_assoc] at usable
  rw [List.length_append] at room
  exact ⟨usable.before, by omega, deep⟩

lemma Room.after (h : Room depth resolver (items ++ more)) : Room depth (resolver.appended items) more := by
  obtain ⟨usable, room, deep⟩ := h
  rw [List.map_append, ← List.append_assoc] at usable
  rw [List.length_append] at room
  refine ⟨usable, ?_, deep⟩
  show resolver.active.length + (resolver.gateways ++ _).length + _ ≤ 9
  rw [List.length_append, List.length_map]
  omega

lemma Room.enter {within : List Item} {own : Item} (h : Room (depth + 1) resolver (within ++ own :: more))
    (hostId : Text) : Room depth (resolver.enter hostId) within := by
  have own_counts := h.room
  rw [List.length_append, List.length_cons] at own_counts
  refine ⟨h.before.usable, ?_, ?_⟩
  · show (hostId :: resolver.active).length + _ + _ ≤ 9
    rw [List.length_cons]
    show _ + 1 + resolver.gateways.length + _ ≤ 9
    omega
  · show 10 ≤ depth + (hostId :: resolver.active).length
    rw [List.length_cons]
    have := h.deep
    omega

lemma methodRoute_of_loop (target : method.target = .ssh settings) (new : host.hostId ∉ resolver.active)
    (room : resolver.active.length + 1 ≤ 9)
    (loop : settings.steps.foldlM (fun resolver step => resolver.step env catalog (methodRoute env catalog depth) step)
      (resolver.enter host.hostId) = .ok ((resolver.enter host.hostId).appended items)) :
    methodRoute env catalog (depth + 1) resolver host method = .ok (resolver.appended items) := by
  rw [methodRoute_succ, if_neg new, if_neg (by omega), target]
  dsimp only
  rw [loop]
  exact congrArg Except.ok (resolver.enter_appended_leave host.hostId items)

lemma foldlM_step_cons {middle : RouteResolver} (first : resolver.step env catalog route step = .ok middle) :
    (step :: steps).foldlM (fun resolver step => resolver.step env catalog route step) resolver =
      steps.foldlM (fun resolver step => resolver.step env catalog route step) middle := by
  rw [List.foldlM_cons, first]
  rfl

lemma foldlM_step_runs (h : Expands env catalog steps items) (room : Room depth resolver items)
    (clear : Clear catalog resolver.active steps) :
    steps.foldlM (fun resolver step => resolver.step env catalog (methodRoute env catalog depth) step) resolver =
      .ok (resolver.appended items) := by
  induction h generalizing depth resolver with
  | nil =>
    rw [RouteResolver.appended_nil]
    rfl
  | @vpn connectionId steps items _ ih =>
    have room : Room depth resolver ([⟨vpnGateway connectionId, none⟩] ++ items) := room
    have fits := room.before.usable
    have first : resolver.step env catalog (methodRoute env catalog depth) (.vpn connectionId) =
        .ok (resolver.appended [⟨vpnGateway connectionId, none⟩]) := (push_free fits.before).2 ⟨fits, rfl⟩
    rw [foldlM_step_cons first, ih room.after (clear_cons.1 clear).2, RouteResolver.appended_append]
    rfl
  | @gateway gatewayId mode gateway steps items found _ ih =>
    have room : Room depth resolver ([⟨savedGateway gateway mode, none⟩] ++ items) := room
    have fits := room.before.usable
    have first : resolver.step env catalog (methodRoute env catalog depth) (.gateway gatewayId mode) =
        .ok (resolver.appended [⟨savedGateway gateway mode, none⟩]) := by
      rw [RouteResolver.step, found]
      exact (push_free fits.before).2 ⟨fits, rfl⟩
    rw [foldlM_step_cons first, ih room.after (clear_cons.1 clear).2, RouteResolver.appended_append]
    rfl
  | @host hostId methodId mode host method checked steps within items found chosen hop inner _ ihInner ihRest =>
    obtain ⟨outside, acyclic⟩ := (clear_cons.1 clear).1 (host, method) ⟨hostId, methodId, mode, rfl, found, chosen⟩
    -- The room for the host's own gateway is the depth for its route.
    have own_counts := room.room
    rw [List.length_append, List.length_cons] at own_counts
    obtain ⟨depth, rfl⟩ : ∃ d, depth = d + 1 := Nat.exists_eq_succ_of_ne_zero (by have := room.deep; omega)
    have entered := ihInner (room.enter host.hostId) (clear_within (checkHop_target hop) outside acyclic)
    have expanded := methodRoute_of_loop (checkHop_target hop) (outside _ .refl) (by omega) entered
    rw [List.append_cons] at room ⊢
    have fits := room.before.usable
    rw [List.map_append, ← List.append_assoc] at fits
    have first : resolver.step env catalog (methodRoute env catalog (depth + 1)) (.host hostId methodId mode) =
        .ok (resolver.appended (within ++ [⟨hopGateway host hostId methodId mode checked, method.tailscaleNodeId⟩])) := by
      rw [RouteResolver.step, found]
      dsimp only
      rw [chosen]
      dsimp only
      rw [hop]
      show (methodRoute env catalog (depth + 1) resolver host method >>= fun _ => _) = _
      rw [expanded, ← RouteResolver.appended_append]
      exact (push_item fits.before).2 ⟨fits, rfl⟩
    rw [foldlM_step_cons first, ihRest room.after (clear_cons.1 clear).2, RouteResolver.appended_append]

/-! ### Every resolution ends -/

/-- A resolution that ends, inside of the same hosts. -/
def Settled (active : List Text) (result : Except Failure RouteResolver) : Prop :=
  (∃ next, result = .ok next ∧ next.active = active) ∨ ∃ error, result = refuse error

lemma push_settled (resolver : RouteResolver) (gateway : SshGatewayDto) :
    Settled resolver.active (resolver.push gateway) := by
  unfold RouteResolver.push
  split
  · exact .inr ⟨_, rfl⟩
  · split
    · exact .inr ⟨_, rfl⟩
    · exact .inl ⟨_, rfl, rfl⟩

def EndAlike (active : List Text)
    (route other : RouteResolver → WorkspaceHost → WorkspaceConnectionMethod → Except Failure RouteResolver) : Prop :=
  ∀ resolver host method, resolver.active = active →
    route resolver host method = other resolver host method ∧ Settled active (route resolver host method)

lemma step_settled (alike : EndAlike active route other) (inside : resolver.active = active)
    (step : SshGatewayRouteStepDto) :
    resolver.step env catalog route step = resolver.step env catalog other step ∧
      Settled active (resolver.step env catalog route step) := by
  cases step with
  | vpn connectionId => exact ⟨rfl, inside ▸ push_settled resolver _⟩
  | gateway gatewayId mode =>
    refine ⟨rfl, ?_⟩
    rw [RouteResolver.step]
    split
    · exact .inr ⟨_, rfl⟩
    · exact inside ▸ push_settled resolver _
  | host hostId methodId mode =>
    rw [RouteResolver.step, RouteResolver.step]
    split
    · exact ⟨rfl, .inr ⟨_, rfl⟩⟩
    case h_2 host _ =>
      split
      · exact ⟨rfl, .inr ⟨_, rfl⟩⟩
      case h_2 method _ =>
        cases checkHop env host method with
        | error error => exact ⟨rfl, .inr ⟨error, rfl⟩⟩
        | ok checked =>
          obtain ⟨same, ends⟩ := alike resolver host method inside
          rw [same] at ends ⊢
          refine ⟨rfl, ?_⟩
          rcases ends with ⟨next, eq, still⟩ | ⟨error, eq⟩
          · show Settled active (other resolver host method >>= fun _ => _)
            rw [eq, ← still]
            have bound : (next.bindNext method.tailscaleNodeId).active = next.active := by
              cases method.tailscaleNodeId <;> rfl
            rw [← bound]
            exact push_settled _ _
          · show Settled active (other resolver host method >>= fun _ => _)
            rw [eq]
            exact .inr ⟨error, rfl⟩

lemma foldlM_step_settled (alike : EndAlike active route other) (inside : resolver.active = active)
    (steps : List SshGatewayRouteStepDto) :
    steps.foldlM (fun resolver step => resolver.step env catalog route step) resolver =
        steps.foldlM (fun resolver step => resolver.step env catalog other step) resolver ∧
      Settled active (steps.foldlM (fun resolver step => resolver.step env catalog route step) resolver) := by
  induction steps generalizing resolver with
  | nil => exact ⟨rfl, .inl ⟨resolver, rfl, inside⟩⟩
  | cons step steps ih =>
    obtain ⟨same, ends⟩ : _ ∧ Settled active (resolver.step env catalog route step) :=
      step_settled alike inside step
    rw [List.foldlM_cons, List.foldlM_cons, ← same]
    rcases ends with ⟨next, eq, still⟩ | ⟨error, eq⟩
    · rw [eq]
      exact ih still
    · rw [eq]
      exact ⟨rfl, .inr ⟨error, rfl⟩⟩

lemma methodRoute_settled (depth : Nat) (host : WorkspaceHost) (method : WorkspaceConnectionMethod)
    (deep : 10 ≤ depth + resolver.active.length) (few : resolver.active.length ≤ 9) :
    methodRoute env catalog depth resolver host method = methodRoute env catalog (depth + 1) resolver host method ∧
      Settled resolver.active (methodRoute env catalog depth resolver host method) := by
  induction depth generalizing resolver host method with
  | zero => omega
  | succ depth ih =>
    rw [methodRoute_succ, methodRoute_succ]
    split
    · exact ⟨rfl, .inr ⟨_, rfl⟩⟩
    · split
      · exact ⟨rfl, .inr ⟨_, rfl⟩⟩
      case isFalse room =>
        split
        · exact ⟨rfl, .inr ⟨_, rfl⟩⟩
        case h_2 settings _ =>
          have alike : EndAlike (host.hostId :: resolver.active) (methodRoute env catalog depth)
              (methodRoute env catalog (depth + 1)) := by
            intro inner host' method' inside
            have count : inner.active.length = resolver.active.length + 1 := by rw [inside, List.length_cons]
            rw [← inside]
            exact ih host' method' (by omega) (by omega)
          have entered : (resolver.enter host.hostId).active = host.hostId :: resolver.active := rfl
          obtain ⟨same, ends⟩ := foldlM_step_settled alike entered settings.steps
          rw [← same]
          refine ⟨rfl, ?_⟩
          rcases ends with ⟨next, eq, still⟩ | ⟨error, eq⟩
          · rw [eq]
            refine .inl ⟨_, rfl, ?_⟩
            show next.active.erase host.hostId = _
            rw [still, List.erase_cons_head]
          · rw [eq]
            exact .inr ⟨error, rfl⟩

/-! ### Whole routes -/

def RouteResolver.empty : RouteResolver := { active := [], gateways := [], tailscaleBindings := [] }

def SshSettings.kept (settings : SshSettings) (items : List Item) : List Item :=
  if settings.vpnConnectionId.isSome then items.tail else items

lemma room_of_usable (usable : Usable (items.map (·.gateway))) (hostId : Text) :
    Room 9 (RouteResolver.empty.enter hostId) items := by
  refine ⟨usable, ?_, Nat.le_refl 10⟩
  have short := usable.1
  rw [List.length_map] at short
  show 1 + 0 + items.length ≤ 9
  omega

lemma mapM_bindingsFrom (index : Nat) (items : List Item) :
    ((bindingsFrom (index + 1) items).mapM fun binding =>
      if binding.gatewayIndex = 0 then (.error .panic : Except Failure GatewayTailscaleBinding)
      else .ok { binding with gatewayIndex := binding.gatewayIndex - 1 }) = .ok (bindingsFrom index items) := by
  induction items generalizing index with
  | nil => rfl
  | cons item items ih =>
    rw [bindingsFrom, bindingsFrom, List.mapM_append, ih (index + 1)]
    cases item.nodeId with
    | none => rfl
    | some nodeId => rfl

lemma withoutLegacyVpn_appended (connectionId : Text) (items : List Item) :
    withoutLegacyVpn (RouteResolver.empty.appended (⟨vpnGateway connectionId, none⟩ :: items)) =
      .ok ⟨items.map (·.gateway), bindingsFrom 0 items⟩ := by
  show ((bindingsFrom 1 items).mapM _ >>= fun _ => _) = _
  rw [mapM_bindingsFrom]
  rfl

lemma Expands.front {connectionId : Text} (h : Expands env catalog settings.steps items)
    (legacy : settings.vpnConnectionId = some connectionId) :
    items = ⟨vpnGateway connectionId, none⟩ :: items.tail := by
  rw [SshSettings.steps, legacy] at h
  cases h with
  | vpn _ => rfl

lemma mem_bindingsFrom {index : Nat} {binding : GatewayTailscaleBinding} :
    binding ∈ bindingsFrom index items ↔
      ∃ place item, items[place]? = some item ∧ item.nodeId = some binding.nodeId ∧
        binding.gatewayIndex = index + place := by
  induction items generalizing index with
  | nil => simp [bindingsFrom]
  | cons first items ih =>
    rw [bindingsFrom, List.mem_append, ih]
    have here : binding ∈ (first.nodeId.map fun nodeId => (⟨index, nodeId⟩ : GatewayTailscaleBinding)).toList ↔
        first.nodeId = some binding.nodeId ∧ binding.gatewayIndex = index := by
      rw [Option.mem_toList, Option.map_eq_some_iff]
      constructor
      · rintro ⟨nodeId, eq, rfl⟩
        exact ⟨eq, rfl⟩
      · rintro ⟨eq, rfl⟩
        exact ⟨_, eq, rfl⟩
    rw [here]
    constructor
    · rintro (⟨device, at_index⟩ | ⟨place, item, found, device, at_index⟩)
      · exact ⟨0, first, rfl, device, at_index⟩
      · exact ⟨place + 1, item, found, device, by omega⟩
    · rintro ⟨place, item, found, device, at_index⟩
      cases place with
      | zero =>
        cases found
        exact .inl ⟨device, at_index⟩
      | succ place => exact .inr ⟨place, item, found, device, by omega⟩

lemma resolveIn_of_methodRoute (target : method.target = .ssh settings)
    (expands : Expands env catalog settings.steps items)
    (routed : methodRoute env catalog depth .empty host method = .ok (RouteResolver.empty.appended items)) :
    resolveIn env catalog depth host method =
      .ok ⟨(settings.kept items).map (·.gateway), bindingsFrom 0 (settings.kept items)⟩ := by
  show (methodRoute env catalog depth .empty host method >>= fun _ => _) = _
  rw [routed, target]
  show (if _ then _ else _) = _
  unfold SshSettings.kept
  split
  case isTrue legacy =>
    obtain ⟨connectionId, legacy⟩ := Option.isSome_iff_exists.1 legacy
    rw [expands.front legacy, withoutLegacyVpn_appended, List.tail_cons]
  case isFalse => rfl

lemma not_refused_iff {root : Selected} (target : root.2.target = .ssh settings) :
    ¬ Refused env catalog root settings ↔
      Acyclic catalog root ∧ ∃ items, Expands env catalog settings.steps items ∧ Usable (items.map (·.gateway)) := by
  constructor
  · intro fine
    obtain ⟨items, expands⟩ := exists_expands target fine
    refine ⟨fun first second reached inside same => fine (.cycle reached inside same), items, expands, ?_, ?_⟩
    · rw [List.length_map]
      exact Nat.le_of_not_lt fun long => fine (.tooLong expands long)
    · exact Classical.not_not.1 fun misplaced => fine (.vpnOrder expands misplaced)
  · rintro ⟨acyclic, items, expands, short, placed⟩ refused
    cases refused with
    | cycle reached inside same => exact acyclic _ _ reached inside same
    | missing reached own listed dangling =>
      obtain ⟨_, _, own', expands'⟩ := expands.reached target reached
      cases own.symm.trans own'
      exact expands'.not_dangling (mem_steps_of_mem listed) dangling
    | noHop reached refers fails =>
      obtain ⟨_, _, own', expands'⟩ := expands.reached target reached
      obtain ⟨_, own, _, listed, names⟩ := refers
      cases own.symm.trans own'
      obtain ⟨_, _, hop, _⟩ := expands'.named (mem_steps_of_mem listed) names
      cases hop.symm.trans fails
    | tooLong expands' long =>
      cases expands.unique expands'
      rw [List.length_map] at short
      omega
    | vpnOrder expands' misplaced =>
      cases expands.unique expands'
      exact misplaced placed

lemma resolveRoute_eq_ok (target : method.target = .ssh settings) (route : ResolvedRoute) :
    resolveRoute env catalog host method = .ok route ↔
      Acyclic catalog (host, method) ∧ ∃ items, Expands env catalog settings.steps items ∧
        Usable (items.map (·.gateway)) ∧
        route = ⟨(settings.kept items).map (·.gateway), bindingsFrom 0 (settings.kept items)⟩ := by
  constructor
  · intro ok
    obtain ⟨next, routed, rest⟩ := bind_eq_ok.1 ok
    have start : Usable RouteResolver.empty.gateways := ⟨Nat.zero_le _, .nil⟩
    obtain ⟨own, items, target', expands, rfl, usable, _, acyclic⟩ := methodRoute_sound 10 _ _ _ _ start routed
    cases target.symm.trans target'
    refine ⟨acyclic, items, expands, usable, ?_⟩
    exact Except.ok.inj (ok.symm.trans (resolveIn_of_methodRoute target expands routed))
  · rintro ⟨acyclic, items, expands, usable, rfl⟩
    apply resolveIn_of_methodRoute target expands
    have outside : Outside catalog [] (host, method) := fun _ _ => List.not_mem_nil
    exact methodRoute_of_loop target List.not_mem_nil (Nat.le_add_left 1 8)
      (foldlM_step_runs expands (room_of_usable usable host.hostId) (clear_within target outside acyclic))

lemma resolveIn_enough (target : method.target = .ssh settings) (enough : 10 ≤ depth) :
    resolveIn env catalog depth host method = resolveRoute env catalog host method ∧
      ((∃ route, resolveRoute env catalog host method = .ok route) ∨
        ∃ error, resolveRoute env catalog host method = refuse error) := by
  constructor
  · have same : methodRoute env catalog depth .empty host method = methodRoute env catalog 10 .empty host method := by
      induction depth, enough using Nat.le_induction with
      | base => rfl
      | succ depth enough ih =>
        have few : RouteResolver.empty.active.length ≤ 9 := Nat.zero_le 9
        rw [← ih]
        exact (methodRoute_settled depth host method (Nat.le_add_right_of_le enough) few).1.symm
    show (methodRoute env catalog depth .empty host method >>= fun _ => _) = _
    rw [same]
    rfl
  · rcases (methodRoute_settled 10 host method (Nat.le_refl 10) (Nat.zero_le 9) :
      _ ∧ Settled [] (methodRoute env catalog 10 .empty host method)).2 with ⟨next, routed, _⟩ | ⟨error, failed⟩
    · have start : Usable RouteResolver.empty.gateways := ⟨Nat.zero_le _, .nil⟩
      obtain ⟨own, items, target', expands, rfl, _⟩ := methodRoute_sound 10 _ _ _ _ start routed
      cases target.symm.trans target'
      exact .inl ⟨_, resolveIn_of_methodRoute target expands routed⟩
    · refine .inr ⟨error, ?_⟩
      show (methodRoute env catalog 10 .empty host method >>= fun _ => _) = _
      rw [failed]
      rfl

end Ctl.Hosts
