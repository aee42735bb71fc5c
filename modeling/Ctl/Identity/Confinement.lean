import Ctl.Identity.AgentProxy

/-!
# One client of the agent proxy

What one client of the proxy does, whatever the agents answer and whatever runs next to it. A `View`
collects from the history of a client what the rules speak about; `Shows` is the rule of a single
action, and `Kept` is what holds between the data of the client and its view whenever the client
waits for its next request. Each function of the proxy has one lemma, and `serveRequest_meets` is the
rule of the loop.
-/

namespace Ctl.Identity

open Ctl.Base

abbrev History := List (Event Action Answer)

/-- What the rules of a client speak about. -/
structure View where
  /-- The requests of the client. -/
  requests : List Bytes
  /-- The keys of the last identity list sent to the client. -/
  identityList : Option (List Bytes)
  /-- The connections to the user's agents, and to the agents of saved keys. -/
  upstream : List Nat
  saved : List Nat
  /-- The keys in the identity lists of the user's agents that the proxy accepted. -/
  upstreamListed : List Bytes
  /-- The session bindings that a connection accepted, in order. -/
  accepted : List (Nat × Bytes)

variable (v : View) (t : History) (conn : Nat) (request : Bytes) (reply : Option Bytes) (response : Bytes)

def listedKeys : List Bytes := ((parseIdentities response).getD []).map Prod.fst

def View.noteReply (reply : Bytes) : View :=
  if request = [REQUEST_IDENTITIES] then
    if conn ∈ v.upstream then { v with upstreamListed := v.upstreamListed ++ listedKeys reply } else v
  else if isBinding request ∧ reply = [SUCCESS] then
    { v with accepted := v.accepted ++ [(conn, request)] }
  else v

def View.note : Event Action Answer → View
  | ⟨.read, request⟩ => { v with requests := v.requests ++ [request] }
  | ⟨.write response, _⟩ =>
    if response.head? = some IDENTITIES_ANSWER then { v with identityList := some (listedKeys response) }
    else v
  | ⟨.connect (.upstream _), some conn⟩ => { v with upstream := conn :: v.upstream }
  | ⟨.connect (.unlocked _), some conn⟩ => { v with saved := conn :: v.saved }
  | ⟨.receive conn request, some reply⟩ => v.noteReply conn request reply
  | _ => v

def view : View := t.foldl View.note ⟨[], none, [], [], [], []⟩

@[simp] lemma view_append (ev : Event Action Answer) :
    view (t ++ [ev]) = (view t).note ev := by simp [view]

def View.bindings : List Bytes := v.requests.filter isBinding

def View.acceptedOn : List Bytes :=
  (v.accepted.filter (·.1 = conn)).map Prod.snd

/-! ## The rule of an action -/

/-- What the proxy forwards to an agent. -/
def Forwardable : Prop :=
  request = [REQUEST_IDENTITIES] ∨ isBinding request ∨ request.head? = some SIGN_REQUEST

structure SavedSign (v : View) (conn : Nat) (request : Bytes) : Prop where
  /-- No user's agent has listed its key. -/
  unlisted : ∃ key, signKey request = some key ∧ key ∉ v.upstreamListed
  /-- The connection accepted all session bindings. -/
  bound : v.acceptedOn conn = v.bindings

/-- A signature for the client is the last reply of an agent. One that comes from a saved key has
    passed a cancellation check since. -/
def Released : Prop :=
  ∃ conn before after, t = before ++ ⟨.receive conn request, some response⟩ :: after ∧
    (conn ∈ (view t).saved → after = [⟨.isCanceled, false⟩]) ∧
    (conn ∉ (view t).saved → after = [])

def Shows : Event Action Answer → Prop
  | ⟨.send conn request, _⟩ => Forwardable request ∧
    (conn ∈ (view t).saved → request.head? = some SIGN_REQUEST → SavedSign (view t) conn request)
  | ⟨.write response, _⟩ => response.head? = some SIGN_RESPONSE →
    ∃ request key keys, (view t).requests.getLast? = some request ∧ signKey request = some key ∧
      (view t).identityList = some keys ∧ key ∈ keys ∧ Released t request response
  | ⟨.begin, _⟩ => ∃ key before, t = before ++ [⟨.claim key, none⟩]
  | ⟨.startUnlock key token, _⟩ =>
    ∃ before, t = before ++ [⟨.claim key, none⟩, ⟨.begin, some token⟩]
  | _ => True

/-- A new connection is not one that the client has used. -/
def Expected : Event Action Answer → Prop
  | ⟨.connect _, some conn⟩ => conn ∉ (view t).upstream ∧ conn ∉ (view t).saved ∧
    ∀ entry ∈ (view t).accepted, entry.1 ≠ conn
  | _ => True

abbrev Obeys {α : Type} (p : Proxy α) (t : History) (Q : α → History → Prop) : Prop :=
  Prog.Meets Expected Shows p t Q

/-- A single action. -/
@[simp] lemma obeys_act {a : Action} {t : History} {Q : Answer a → History → Prop} :
    Obeys (act a) t Q ↔ ∀ r, Expected t ⟨a, r⟩ → Shows t ⟨a, r⟩ ∧ Q r (t ++ [⟨a, r⟩]) := Iff.rfl

lemma obeys_pure {α : Type} {a : α} {t : History} {Q : α → History → Prop} :
    Obeys (pure a) t Q ↔ Q a t := Iff.rfl

lemma obeys_act_bind {α : Type} {a : Action} {f : Answer a → Proxy α} {t : History}
    {Q : α → History → Prop} : Obeys (act a >>= f) t Q ↔
      ∀ r, Expected t ⟨a, r⟩ → Shows t ⟨a, r⟩ ∧ Obeys (f r) (t ++ [⟨a, r⟩]) Q := Iff.rfl

lemma Obeys.bind {α β : Type} {p : Proxy α} {f : α → Proxy β} {t : History}
    {Q : α → History → Prop} {Q' : β → History → Prop} (first : Obeys p t Q)
    (rest : ∀ a t', Q a t' → Obeys (f a) t' Q') : Obeys (p >>= f) t Q' :=
  Prog.meets_bind.2 (first.conseq rest)

/-! ## Exchanges -/

def View.noteAnswer : Option Bytes → View
  | some reply => v.noteReply conn request reply
  | none => v

@[simp] lemma note_receive : v.note ⟨.receive conn request, reply⟩ = v.noteAnswer conn request reply := by
  cases reply <;> rfl

@[simp] lemma note_send (u : Unit) :
    v.note ⟨.send conn request, u⟩ = v := rfl

def exchanged : History :=
  t ++ [⟨.send conn request, ()⟩] ++ [⟨.receive conn request, reply⟩]

@[simp] lemma view_exchanged : view (exchanged t conn request reply) = (view t).noteAnswer conn request reply := by
  rw [exchanged, view_append, view_append, note_send, note_receive]

lemma request_bind {α : Type} {peer : Peer} {request : Bytes} {t : History} {f : Option Bytes × Peer → Proxy α}
    {Q : α → History → Prop} (closed : peer.stream = none → Obeys (f (none, peer)) t Q)
    (opened : ∀ conn, peer.stream = some conn → Shows t ⟨.send conn request, ()⟩ ∧
      ∀ reply, Obeys (f (peer.replied reply)) (exchanged t conn request reply) Q) :
    Obeys (peer.request request >>= f) t Q := by
  rw [Obeys, Prog.meets_bind, Peer.request]
  split
  case h_1 none => exact closed none
  case h_2 conn some =>
    obtain ⟨shows, rest⟩ := opened conn some
    intro u _
    refine ⟨shows, ?_⟩
    intro reply _
    exact ⟨trivial, rest reply⟩

lemma connect_obeys (endpoint : Endpoint) (t : History) :
    Obeys (connect endpoint) t fun peer t' => ∃ conn, Expected t ⟨.connect endpoint, conn⟩ ∧
      peer = conn.map (fun conn => { stream := some conn, keys := [] }) ∧
      t' = t ++ [⟨.connect endpoint, conn⟩] := by
  rw [connect, obeys_act_bind]
  intro conn fresh
  exact ⟨trivial, conn, fresh, rfl, rfl⟩

lemma replied_stream {peer : Peer} {reply : Option Bytes} {conn : Nat}
    (h : conn ∈ (peer.replied reply).2.stream) : conn ∈ peer.stream := by
  cases reply with
  | none => cases h
  | some reply => exact h

lemma noteAnswer_sign {v : View} {conn : Nat} {request : Bytes} {reply : Option Bytes}
    (h : request.head? = some SIGN_REQUEST) : v.noteAnswer conn request reply = v := by
  have other : request ≠ [REQUEST_IDENTITIES] := by
    rintro rfl
    cases h
  have unbound : ¬ isBinding request := by simp [isBinding, h, SIGN_REQUEST, EXTENSION]
  cases reply with
  | none => rfl
  | some reply => rw [View.noteAnswer, View.noteReply, if_neg other, if_neg (by simp [unbound])]

lemma ne_listing_of_binding {request : Bytes} (h : isBinding request) : request ≠ [REQUEST_IDENTITIES] := by
  rintro rfl
  revert h
  decide

lemma head_ne_of_binding {request : Bytes} (h : isBinding request) : request.head? ≠ some SIGN_REQUEST := by
  simp only [isBinding, decide_eq_true_eq] at h
  rw [h.1]
  decide

lemma noteAnswer_binding {v : View} {conn : Nat} {request : Bytes} (h : isBinding request)
    (reply : Option Bytes) : v.noteAnswer conn request reply = { v with
      accepted := v.accepted ++ if reply = some [SUCCESS] then [(conn, request)] else [] } := by
  cases reply with
  | none => simp [View.noteAnswer]
  | some reply =>
    rw [View.noteAnswer, View.noteReply, if_neg (ne_listing_of_binding h)]
    by_cases success : reply = [SUCCESS]
    · simp [h, success]
    · simp [success]

/-! ## Session bindings -/

/-- Only bindings that some connections accepted have been added to the view. -/
structure Frame (touched : Nat → Prop) (v v' : View) : Prop where
  requests : v'.requests = v.requests
  identityList : v'.identityList = v.identityList
  upstream : v'.upstream = v.upstream
  saved : v'.saved = v.saved
  upstreamListed : v'.upstreamListed = v.upstreamListed
  acceptedOn {conn : Nat} : ¬ touched conn → v'.acceptedOn conn = v.acceptedOn conn

lemma Frame.refl (touched : Nat → Prop) (v : View) : Frame touched v v :=
  ⟨rfl, rfl, rfl, rfl, rfl, fun _ => rfl⟩

lemma Frame.trans {touched touched' : Nat → Prop} {v v' v'' : View} (first : Frame touched v v')
    (second : Frame touched' v' v'') (all : ∀ conn, touched' conn → touched conn) :
    Frame touched v v'' where
  requests := second.requests.trans first.requests
  identityList := second.identityList.trans first.identityList
  upstream := second.upstream.trans first.upstream
  saved := second.saved.trans first.saved
  upstreamListed := second.upstreamListed.trans first.upstreamListed
  acceptedOn untouched :=
    (second.acceptedOn fun touched => untouched (all _ touched)).trans (first.acceptedOn untouched)

lemma Frame.mono {touched touched' : Nat → Prop} {v v' : View} (h : Frame touched v v')
    (all : ∀ conn, touched conn → touched' conn) : Frame touched' v v' :=
  (Frame.refl touched' v).trans h all

lemma Frame.bindings {touched : Nat → Prop} {v v' : View} (h : Frame touched v v') :
    v'.bindings = v.bindings := by rw [View.bindings, View.bindings, h.requests]

lemma acceptedOn_binding {v : View} {conn : Nat} {request : Bytes} (h : isBinding request)
    (reply : Option Bytes) (other : Nat) : (v.noteAnswer conn request reply).acceptedOn other =
      v.acceptedOn other ++ if conn = other ∧ reply = some [SUCCESS] then [request] else [] := by
  rw [noteAnswer_binding h]
  by_cases same : conn = other
  · by_cases success : reply = some [SUCCESS]
    · simp [View.acceptedOn, same, success]
    · simp [View.acceptedOn, success]
  · by_cases success : reply = some [SUCCESS]
    · simp [View.acceptedOn, same, success]
    · simp [View.acceptedOn, success]

lemma noteAnswer_frame {v : View} {conn : Nat} {request : Bytes} (h : isBinding request)
    (reply : Option Bytes) : Frame (· = conn) v (v.noteAnswer conn request reply) := by
  refine ⟨?_, ?_, ?_, ?_, ?_, ?_⟩
  case refine_6 =>
    intro other untouched
    simp [acceptedOn_binding h, Ne.symm untouched]
  all_goals rw [noteAnswer_binding h]

lemma binding_shows {t : History} {conn : Nat} {request : Bytes} (h : isBinding request) :
    Shows t ⟨.send conn request, ()⟩ :=
  ⟨.inr (.inl h), fun _ sign => absurd sign (head_ne_of_binding h)⟩

def Upstream (peers : List Peer) (v : View) : Prop :=
  ∀ peer ∈ peers, ∀ conn ∈ peer.stream, conn ∈ v.upstream

lemma Upstream.congr {peers : List Peer} {v v' : View} (h : Upstream peers v)
    (same : v'.upstream = v.upstream) : Upstream peers v' := by
  intro peer mem conn open'
  rw [same]
  exact h peer mem conn open'

lemma Upstream.cons {peer : Peer} {peers : List Peer} {v : View} (first : ∀ conn ∈ peer.stream, conn ∈ v.upstream)
    (rest : Upstream peers v) : Upstream (peer :: peers) v := by
  intro p mem
  cases mem with
  | head => exact first
  | tail _ mem => exact rest p mem

lemma forwardBinding_obeys {request : Bytes} (binding : isBinding request) {peers : List Peer}
    {t : History} (up : Upstream peers (view t)) :
    Obeys (forwardBinding request peers) t fun r t' =>
      Upstream r.2 (view t') ∧ Frame (· ∈ (view t).upstream) (view t) (view t') := by
  induction peers generalizing t with
  | nil => exact ⟨up, Frame.refl _ _⟩
  | cons peer peers ih =>
    have here := up peer List.mem_cons_self
    have rest : Upstream peers (view t) := fun p mem => up p (List.mem_cons_of_mem _ mem)
    rw [forwardBinding]
    apply request_bind
    case closed =>
      intro closed
      apply (ih rest).bind
      intro r t' ⟨up', frame⟩
      refine ⟨Upstream.cons ?_ up', frame⟩
      rw [frame.upstream]
      exact here
    case opened =>
      intro conn open'
      refine ⟨binding_shows binding, ?_⟩
      intro reply
      have one : Frame (· = conn) (view t) ((view t).noteAnswer conn request reply) :=
        noteAnswer_frame binding reply
      have mine : conn ∈ (view t).upstream := here conn open'
      refine (ih (rest.congr ?_)).bind ?_
      · rw [view_exchanged, one.upstream]
      · intro r t' ⟨up', frame⟩
        rw [view_exchanged, one.upstream] at frame
        refine ⟨Upstream.cons ?_ up', (one.mono fun c same => same ▸ mine).trans frame fun _ h => h⟩
        intro c hc
        rw [frame.upstream, one.upstream]
        exact here c (replied_stream hc)

def streams (peers : List (Bytes × Peer)) : List Nat := peers.filterMap (·.2.stream)

def Bound (peers : List (Bytes × Peer)) (v : View) (bindings : List Bytes) : Prop :=
  ∀ conn ∈ streams peers, conn ∈ v.saved ∧ v.acceptedOn conn = bindings

lemma bound_stream {peer : Peer} {reply : Option Bytes} {conn : Nat}
    (h : conn ∈ (if (peer.replied reply).1 = some [SUCCESS] then (peer.replied reply).2
      else { (peer.replied reply).2 with stream := none }).stream) : conn ∈ peer.stream ∧ reply = some [SUCCESS] := by
  split at h
  case isTrue success =>
    cases reply with
    | none => cases success
    | some reply => exact ⟨h, success⟩
  case isFalse => cases h

lemma streams_cons (key : Bytes) (peer : Peer) (peers : List (Bytes × Peer)) :
    streams ((key, peer) :: peers) = peer.stream.toList ++ streams peers := by
  cases h : peer.stream <;> simp [streams, h]

lemma bindPeers_obeys {request : Bytes} (binding : isBinding request) {peers : List (Bytes × Peer)} {t : History}
    {bindings : List Bytes} (bound : Bound peers (view t) bindings) (distinct : (streams peers).Nodup) :
    Obeys (bindPeers request peers) t fun peers' t' =>
      (streams peers').Sublist (streams peers) ∧ Bound peers' (view t') (bindings ++ [request]) ∧
      Frame (· ∈ streams peers) (view t) (view t') := by
  induction peers generalizing t with
  | nil => exact ⟨.slnil, fun conn mem => (List.not_mem_nil mem).elim, Frame.refl _ _⟩
  | cons entry peers ih =>
    obtain ⟨key, peer⟩ := entry
    rw [streams_cons] at distinct
    have rest : Bound peers (view t) bindings := by
      intro conn mem
      apply bound
      rw [streams_cons]
      exact List.mem_append_right _ mem
    have restDistinct := (List.nodup_append.1 distinct).2.1
    rw [bindPeers]
    apply request_bind
    case closed =>
      intro closed
      dsimp only
      rw [if_neg (by decide)]
      apply (ih rest restDistinct).bind
      intro peers' t' ⟨sub, bound', frame⟩
      rw [obeys_pure, streams_cons, streams_cons, closed]
      refine ⟨by simpa using sub, ?_, by simpa using frame⟩
      intro conn mem
      apply bound'
      simpa [streams_cons] using mem
    case opened =>
      intro conn open'
      refine ⟨binding_shows binding, ?_⟩
      intro reply
      have one : Frame (· = conn) (view t) ((view t).noteAnswer conn request reply) :=
        noteAnswer_frame binding reply
      rw [open', Option.toList_some, List.singleton_append, List.nodup_cons] at distinct
      have mine := bound conn (by simp [streams_cons, open'])
      refine (ih ?_ restDistinct).bind ?_
      · intro other mem
        rw [view_exchanged, one.saved, one.acceptedOn (fun same => distinct.1 (same ▸ mem))]
        exact rest other mem
      · intro peers' t' ⟨sub, bound', frame⟩
        rw [view_exchanged] at frame
        rw [obeys_pure, streams_cons, streams_cons, open']
        refine ⟨?_, ?_, ?_⟩
        · cases reply with
          | none => exact sub.cons conn
          | some reply =>
            dsimp only
            split
            case isTrue =>
              rw [open']
              exact sub.cons_cons conn
            case isFalse => exact sub.cons conn
        · intro other mem
          rw [streams_cons, List.mem_append] at mem
          cases mem with
          | inl mem =>
            obtain ⟨same, success⟩ := bound_stream (Option.mem_toList.1 mem)
            rw [open'] at same
            obtain rfl := Option.some.inj same
            refine ⟨?_, ?_⟩
            · rw [frame.saved, one.saved]
              exact mine.1
            · rw [frame.acceptedOn distinct.1, acceptedOn_binding binding, mine.2]
              simp [success]
          | inr mem => exact bound' other mem
        · refine (one.mono ?_).trans frame ?_
          · intro c same
            simp [same]
          · intro c mem
            exact List.mem_append_right _ mem

lemma replayBindings_obeys {bindings : List Bytes} (all : ∀ b ∈ bindings, isBinding b) {peer : Peer}
    {conn : Nat} (open' : peer.stream = some conn) {t : History} {before : List Bytes}
    (accepted : (view t).acceptedOn conn = before) :
    Obeys (replayBindings peer bindings) t fun r t' =>
      Frame (· = conn) (view t) (view t') ∧ ∀ peer' ∈ r, peer'.stream = some conn ∧
        (view t').acceptedOn conn = before ++ bindings := by
  induction bindings generalizing t peer before with
  | nil =>
    refine ⟨Frame.refl _ _, ?_⟩
    intro peer' same
    obtain rfl := Option.some.inj same
    exact ⟨open', by rw [accepted, List.append_nil]⟩
  | cons b bindings ih =>
    have binding := all b List.mem_cons_self
    rw [replayBindings]
    apply request_bind
    case closed =>
      intro closed
      rw [closed] at open'
      cases open'
    case opened =>
      intro c hc
      obtain rfl := Option.some.inj (open'.symm.trans hc)
      refine ⟨binding_shows binding, ?_⟩
      intro reply
      have one : Frame (· = conn) (view t) ((view t).noteAnswer conn b reply) :=
        noteAnswer_frame binding reply
      dsimp only
      split
      case isTrue success =>
        cases reply with
        | none => cases success
        | some reply =>
          obtain rfl := Option.some.inj success
          have next : (view (exchanged t conn b (some [SUCCESS]))).acceptedOn conn =
              before ++ [b] := by
            rw [view_exchanged, acceptedOn_binding binding, accepted]
            simp
          refine (ih (fun b mem => all b (List.mem_cons_of_mem _ mem)) open' next).conseq ?_
          intro r t' ⟨frame, ok⟩
          rw [view_exchanged] at frame
          refine ⟨one.trans frame fun _ h => h, ?_⟩
          intro peer' mem
          obtain ⟨stream, acceptedAll⟩ := ok peer' mem
          exact ⟨stream, by rw [acceptedAll, List.append_assoc, List.singleton_append]⟩
      case isFalse =>
        rw [obeys_pure, view_exchanged]
        exact ⟨one, fun _ mem => by cases mem⟩

/-! ## Unlocking -/

variable {decode : String → Option Bytes} {candidates : List Candidate}

lemma recordFailure_obeys (key : Bytes) (reason : Reason) (t : History) :
    Obeys (recordFailure candidates key reason) t fun _ t' => view t' = view t := by
  rw [recordFailure, obeys_act_bind]
  intro closed _
  refine ⟨trivial, ?_⟩
  split
  case isTrue => exact view_append t _
  case isFalse =>
    split
    case h_1 => exact view_append t _
    case h_2 candidate _ =>
      rw [obeys_act]
      intro u _
      exact ⟨trivial, (view_append _ _).trans (view_append t _)⟩

lemma settleUnlock_obeys (candidate : Candidate) (key : Bytes) (token : Nat)
    (result : Except Reason UnlockedAgent) (t : History) :
    Obeys (settleUnlock decode candidates candidate key token result) t
      fun _ t' => view t' = view t := by
  unfold settleUnlock
  rw [obeys_act_bind]
  intro canceled _
  refine ⟨trivial, ?_⟩
  have checked : view (t ++ [⟨.tokenSet token, canceled⟩]) = view t := view_append t _
  split
  case isTrue => exact checked
  case isFalse =>
    cases result with
    | error reason => exact (recordFailure_obeys key reason _).bind fun _ s same => same.trans checked
    | ok agent =>
      dsimp only
      split
      case isTrue =>
        rw [obeys_act_bind]
        intro u _
        refine ⟨trivial, ?_⟩
        rw [obeys_act_bind]
        intro v _
        refine ⟨trivial, ?_⟩
        exact (view_append _ _).trans ((view_append _ _).trans checked)
      case isFalse =>
        exact (recordFailure_obeys key _ _).bind fun _ s same => same.trans checked

lemma unlockClaimed_obeys (candidate : Candidate) (key : Bytes) (t : History) :
    Obeys (unlockClaimed decode candidates candidate key) (t ++ [⟨.claim key, none⟩])
      fun _ t' => view t' = view t := by
  have claimed : view (t ++ [⟨.claim key, none⟩]) = view t := view_append t _
  rw [unlockClaimed, obeys_act_bind]
  intro begun _
  refine ⟨⟨key, t, rfl⟩, ?_⟩
  cases begun with
  | none => exact (view_append _ _).trans claimed
  | some token =>
    dsimp only
    rw [obeys_act_bind]
    intro u _
    refine ⟨⟨t, List.append_assoc t _ _⟩, ?_⟩
    rw [obeys_act_bind]
    intro result _
    refine ⟨trivial, ?_⟩
    apply (settleUnlock_obeys candidate key token result _).bind
    intro socket s settled
    rw [obeys_act_bind]
    intro v _
    refine ⟨trivial, (view_append _ _).trans (settled.trans ?_)⟩
    simp only [view_append]
    rfl

lemma lockedAgent_obeys (candidate : Candidate) (key : Bytes) (t : History) :
    Obeys (lockedAgent decode candidates candidate key) t fun _ t' => view t' = view t := by
  rw [lockedAgent, obeys_act_bind]
  intro closed _
  refine ⟨trivial, ?_⟩
  have checked : view (t ++ [⟨.isCanceled, closed⟩]) = view t := view_append t _
  split
  case isTrue => exact checked
  case isFalse =>
    rw [obeys_act_bind]
    intro previous _
    refine ⟨trivial, ?_⟩
    cases previous with
    | some previous => exact (view_append _ _).trans checked
    | none => exact (unlockClaimed_obeys candidate key _).conseq fun _ s same => same.trans checked

lemma agentFor_obeys (key : Bytes) (t : History) :
    Obeys (agentFor decode candidates key) t fun _ t' => view t' = view t := by
  rw [agentFor]
  split
  case h_1 => exact rfl
  case h_2 candidate _ =>
    rw [obeys_act_bind]
    intro u _
    refine ⟨trivial, ?_⟩
    apply (lockedAgent_obeys candidate key _).bind
    intro socket s same
    rw [obeys_act_bind]
    intro v _
    exact ⟨trivial, (view_append _ _).trans (same.trans (view_append t _))⟩

/-! ## Signatures of saved keys -/

/-- The view after a saved key was used: a new connection may have been opened to its agent. -/
structure Opened (v v' : View) : Prop where
  requests : v'.requests = v.requests
  identityList : v'.identityList = v.identityList
  upstream : v'.upstream = v.upstream
  upstreamListed : v'.upstreamListed = v.upstreamListed
  saved {conn : Nat} : conn ∈ v.saved → conn ∈ v'.saved
  fresh {conn : Nat} : conn ∈ v'.saved → conn ∈ v.saved ∨ conn ∉ v.upstream
  acceptedOn {conn : Nat} : conn ∈ v.saved → v'.acceptedOn conn = v.acceptedOn conn

lemma Opened.refl : Opened v v := ⟨rfl, rfl, rfl, rfl, id, .inl, fun _ => rfl⟩

lemma Opened.of_eq {v v' : View} (h : v' = v) : Opened v v' := h ▸ Opened.refl v

lemma Opened.bindings {v v' : View} (h : Opened v v') : v'.bindings = v.bindings := by
  rw [View.bindings, View.bindings, h.requests]

lemma acceptedOn_fresh {v : View} {conn : Nat} (h : ∀ entry ∈ v.accepted, entry.1 ≠ conn) : v.acceptedOn conn = [] := by
  simp only [View.acceptedOn, List.map_eq_nil_iff, List.filter_eq_nil_iff, decide_eq_true_eq]
  exact h

lemma openPeer_obeys {bindings : List Bytes} (all : ∀ b ∈ bindings, isBinding b) (key : Bytes)
    (t : History) : Obeys (openPeer decode candidates bindings key) t fun r t' =>
      Opened (view t) (view t') ∧ ∀ peer ∈ r, ∀ conn ∈ peer.stream,
        conn ∈ (view t').saved ∧ (view t').acceptedOn conn = bindings ∧ conn ∉ (view t).saved := by
  rw [openPeer]
  apply (agentFor_obeys key t).bind
  intro socket s same
  cases socket with
  | none => exact ⟨.of_eq same, fun _ mem => by cases mem⟩
  | some socket =>
    dsimp only
    apply (connect_obeys _ s).bind
    intro peer s' ⟨conn, fresh, hpeer, hs'⟩
    subst hpeer hs'
    cases conn with
    | none =>
      apply (recordFailure_obeys key _ _).bind
      intro _ s' same'
      exact ⟨.of_eq ((same'.trans (view_append _ _)).trans same), fun _ mem => by cases mem⟩
    | some conn =>
      obtain ⟨notUpstream, notSaved, notAccepted⟩ := fresh
      rw [same] at notUpstream notSaved notAccepted
      have opened : view (s ++ [⟨.connect (.unlocked socket), some conn⟩]) =
          { view t with saved := conn :: (view t).saved } := by
        rw [view_append, same]
        rfl
      have nothing : (view (s ++ [⟨.connect (.unlocked socket), some conn⟩])).acceptedOn conn = [] := by
        rw [opened]
        exact acceptedOn_fresh (v := { view t with saved := conn :: (view t).saved }) notAccepted
      rw [Option.map_some]
      apply (replayBindings_obeys all rfl nothing).bind
      intro peer s' ⟨frame, replayed⟩
      rw [opened] at frame
      have grown : Opened (view t) (view s') := by
        refine ⟨frame.requests, frame.identityList, frame.upstream, frame.upstreamListed, ?_, ?_, ?_⟩
        · intro c mem
          rw [frame.saved]
          exact List.mem_cons_of_mem _ mem
        · intro c mem
          rw [frame.saved] at mem
          cases mem with
          | head => exact .inr notUpstream
          | tail _ mem => exact .inl mem
        · intro c mem
          exact frame.acceptedOn fun same => notSaved (same ▸ mem)
      have mine : conn ∈ (view s').saved := by
        rw [frame.saved]
        exact List.mem_cons_self
      have listing : ∀ reply : Option Bytes,
          (view s').noteAnswer conn [REQUEST_IDENTITIES] reply = view s' := by
        intro reply
        cases reply with
        | none => rfl
        | some reply =>
          rw [View.noteAnswer, View.noteReply, if_pos rfl, if_neg]
          rw [frame.upstream]
          exact notUpstream
      cases peer with
      | none =>
        apply (recordFailure_obeys key _ _).bind
        intro _ s'' same''
        exact ⟨same'' ▸ grown, fun _ mem => by cases mem⟩
      | some peer =>
        obtain ⟨stream, accepted⟩ := replayed peer rfl
        rw [List.nil_append] at accepted
        apply request_bind
        case closed =>
          intro closed
          rw [closed] at stream
          cases stream
        case opened =>
          intro c hc
          obtain rfl := Option.some.inj (stream.symm.trans hc)
          refine ⟨⟨.inl rfl, fun _ sign => absurd sign (by decide)⟩, ?_⟩
          intro reply
          have unchanged : view (exchanged s' conn [REQUEST_IDENTITIES] reply) = view s' := by
            rw [view_exchanged, listing]
          split
          case isTrue =>
            rw [obeys_pure, unchanged]
            refine ⟨grown, ?_⟩
            intro peer' mem c open'
            obtain rfl := Option.some.inj mem
            obtain rfl := Option.some.inj (stream.symm.trans (replied_stream open'))
            exact ⟨mine, accepted, notSaved⟩
          case isFalse =>
            apply (recordFailure_obeys key _ _).bind
            intro _ s'' same''
            rw [unchanged] at same''
            exact ⟨same'' ▸ grown, fun _ mem => by cases mem⟩

/-- The data for the saved identities agree with the view, while they are enabled. -/
structure Active (lazy : ClientIdentities) (v : View) : Prop where
  owned : ∀ key ∈ v.upstreamListed, key ∈ lazy.upstreamOwned
  bindings : lazy.bindings = v.bindings
  bound : Bound lazy.peers v v.bindings
  distinct : (streams lazy.peers).Nodup

/-- The data of a client agree with its view, apart from the keys offered to it. -/
structure Kept (client : Client) (v : View) : Prop where
  peers : Upstream client.peers v
  apart : ∀ conn ∈ v.upstream, conn ∉ v.saved
  lazy : client.lazy.registry ≠ none → Active client.lazy v

lemma isBinding_of_mem {v : View} {b : Bytes} (mem : b ∈ v.bindings) : isBinding b :=
  (List.mem_filter.1 mem).2

lemma mem_streams {peers : List (Bytes × Peer)} {conn : Nat} :
    conn ∈ streams peers ↔ ∃ entry ∈ peers, conn ∈ entry.2.stream := by
  rw [streams, List.mem_filterMap]
  exact Iff.rfl

lemma stream_notMem {peers : List (Bytes × Peer)} (distinct : (streams peers).Nodup) {key : Bytes}
    {peer : Peer} (found : peers.lookup key = some peer) {conn : Nat} (open' : conn ∈ peer.stream) :
    conn ∉ streams (peers.filter fun entry => entry.1 ≠ key) := by
  obtain ⟨front, back, rfl, -⟩ := List.lookup_eq_some_iff.1 found
  have parts : streams (front ++ (key, peer) :: back) =
      streams front ++ (peer.stream.toList ++ streams back) := by
    rw [← streams_cons key, streams, List.filterMap_append]
    rfl
  rw [parts] at distinct
  obtain ⟨-, distinct, disjoint⟩ := List.nodup_append.1 distinct
  obtain ⟨-, -, disjoint'⟩ := List.nodup_append.1 distinct
  have mine := Option.mem_toList.2 open'
  intro mem
  obtain ⟨entry, hmem, stream⟩ := mem_streams.1 mem
  rw [List.filter_append, List.filter_cons_of_neg (by simp), List.mem_append] at hmem
  cases hmem with
  | inl hmem =>
    have again := mem_streams.2 ⟨entry, List.mem_of_mem_filter hmem, stream⟩
    exact disjoint conn again conn (List.mem_append_left _ mine) rfl
  | inr hmem =>
    have again := mem_streams.2 ⟨entry, List.mem_of_mem_filter hmem, stream⟩
    exact disjoint' conn mine conn again rfl

lemma peerFor_obeys {lazy : ClientIdentities} (key : Bytes) {t : History} (active : Active lazy (view t)) :
    Obeys (lazy.peerFor decode candidates key) t fun r t' =>
      Opened (view t) (view t') ∧ ∀ peer ∈ r, ∀ conn ∈ peer.stream, conn ∈ (view t').saved ∧
        (view t').acceptedOn conn = (view t').bindings ∧
        conn ∉ streams (lazy.peers.filter fun entry => entry.1 ≠ key) := by
  rw [ClientIdentities.peerFor]
  split
  case h_1 peer found =>
    refine ⟨Opened.refl _, ?_⟩
    intro peer' mem conn open'
    obtain rfl := Option.some.inj mem
    obtain ⟨front, back, whole, -⟩ := List.lookup_eq_some_iff.1 found
    obtain ⟨saved, accepted⟩ := active.bound conn (mem_streams.2 ⟨(key, peer), by simp [whole], open'⟩)
    exact ⟨saved, accepted, stream_notMem active.distinct found open'⟩
  case h_2 =>
    rw [active.bindings]
    refine (openPeer_obeys (fun b => isBinding_of_mem) key t).conseq ?_
    intro r t' ⟨grown, opened⟩
    refine ⟨grown, ?_⟩
    intro peer mem conn open'
    obtain ⟨saved, accepted, new⟩ := opened peer mem conn open'
    refine ⟨saved, accepted.trans grown.bindings.symm, ?_⟩
    intro mem
    obtain ⟨entry, hmem, stream⟩ := mem_streams.1 mem
    exact new (active.bound conn (mem_streams.2 ⟨entry, List.mem_of_mem_filter hmem, stream⟩)).1

lemma signOpened_obeys {peer : Peer} {key request : Bytes} (head : request.head? = some SIGN_REQUEST) {t : History}
    (ok : ∀ conn ∈ peer.stream, conn ∈ (view t).saved ∧ SavedSign (view t) conn request) :
    Obeys (signOpened candidates peer key request) t fun r t' =>
      view t' = view t ∧ (∀ conn ∈ r.2.stream, conn ∈ peer.stream) ∧
      ∀ response ∈ r.1, response.head? = some SIGN_RESPONSE ∧ Released t' request response := by
  rw [signOpened, obeys_act_bind]
  intro closed _
  refine ⟨trivial, ?_⟩
  have first : view (t ++ [⟨.isCanceled, closed⟩]) = view t := view_append t _
  split
  case isTrue => exact ⟨first, fun _ => id, fun _ mem => by cases mem⟩
  case isFalse =>
    have failed : ∀ (peer' : Peer) (s : History), view s = view t →
        (∀ conn ∈ peer'.stream, conn ∈ peer.stream) →
        Obeys (do recordFailure candidates key .agentUnavailable; pure (none, peer')) s fun r t' =>
          view t' = view t ∧ (∀ conn ∈ r.2.stream, conn ∈ peer.stream) ∧ ∀ response ∈ r.1,
            response.head? = some SIGN_RESPONSE ∧ Released t' request response := by
      intro peer' s same sub
      apply (recordFailure_obeys key _ s).bind
      intro _ s' same'
      exact ⟨same'.trans same, sub, fun _ mem => by cases mem⟩
    apply request_bind
    case closed =>
      intro none
      dsimp only
      rw [obeys_act_bind]
      intro closed _
      refine ⟨trivial, ?_⟩
      generalize t ++ [⟨.isCanceled, _⟩] = s at first
      have second : view (s ++ [⟨.isCanceled, closed⟩]) = view t := (view_append _ _).trans first
      split
      case isTrue => exact ⟨second, fun _ => id, fun _ mem => by cases mem⟩
      case isFalse => exact failed peer _ second fun _ => id
    case opened =>
      intro conn open'
      obtain ⟨saved, signs⟩ := ok conn open'
      refine ⟨⟨.inr (.inr head), fun _ _ => first ▸ signs⟩, ?_⟩
      intro reply
      dsimp only
      rw [obeys_act_bind]
      intro closed _
      refine ⟨trivial, ?_⟩
      generalize start : t ++ [⟨.isCanceled, _⟩] = s at first
      have second : view (exchanged s conn request reply ++ [⟨.isCanceled, closed⟩]) = view t := by
        rw [view_append, view_exchanged, noteAnswer_sign head, first]
        rfl
      have sub : ∀ c ∈ (peer.replied reply).2.stream, c ∈ peer.stream := fun c => replied_stream
      split
      case isTrue => exact ⟨second, sub, fun _ mem => by cases mem⟩
      case isFalse pass =>
        cases reply with
        | none => exact failed _ _ second sub
        | some response =>
          dsimp only [Peer.replied]
          split
          case isFalse => exact failed _ _ second sub
          case isTrue sign =>
            refine ⟨second, sub, ?_⟩
            intro response' mem
            obtain rfl := Option.some.inj mem
            obtain rfl : closed = false := Bool.eq_false_iff.2 pass
            refine ⟨sign, conn, s ++ [⟨.send conn request, ()⟩], [⟨.isCanceled, false⟩], ?_, fun _ => rfl, ?_⟩
            · rw [exchanged, List.append_assoc _ [_] [_]]
              rfl
            · intro notSaved
              rw [second] at notSaved
              exact absurd saved notSaved

lemma nodup_toList (stream : Option Nat) : stream.toList.Nodup := by cases stream <;> simp

lemma lazySign_obeys {lazy : ClientIdentities} {key request : Bytes} (head : request.head? = some SIGN_REQUEST)
    (wellFormed : signKey request = some key) (unowned : key ∉ lazy.upstreamOwned) {t : History}
    (active : lazy.registry ≠ none → Active lazy (view t)) :
    Obeys (lazy.sign decode key request) t fun r t' => Opened (view t) (view t') ∧
      (r.2.registry ≠ none → Active r.2 (view t')) ∧ r.2.advertised = lazy.advertised ∧
      ∀ response ∈ r.1, response.head? = some SIGN_RESPONSE ∧ Released t' request response := by
  rw [ClientIdentities.sign]
  split
  case h_1 none =>
    exact ⟨Opened.refl _, fun some => absurd none some, rfl, fun _ mem => by cases mem⟩
  case h_2 candidates some =>
    have active := active (by simp [some])
    rw [obeys_act_bind]
    intro closed _
    refine ⟨trivial, ?_⟩
    have first : view (t ++ [⟨.isCanceled, closed⟩]) = view t := view_append t _
    split
    case isTrue =>
      exact ⟨.of_eq first, fun _ => first ▸ active, rfl, fun _ mem => by cases mem⟩
    case isFalse =>
      rw [← first] at active
      apply (peerFor_obeys key active).bind
      intro peer s ⟨grown, opened⟩
      rw [first] at grown active
      have still : Active lazy (view s) := by
        refine ⟨?_, active.bindings.trans grown.bindings.symm, ?_, active.distinct⟩
        · rw [grown.upstreamListed]
          exact active.owned
        · intro conn mem
          obtain ⟨saved, accepted⟩ := active.bound conn mem
          exact ⟨grown.saved saved, by rw [grown.acceptedOn saved, accepted, grown.bindings]⟩
      cases peer with
      | none => exact ⟨grown, fun _ => still, rfl, fun _ mem => by cases mem⟩
      | some peer =>
        have mine := opened peer rfl
        have signs : ∀ conn ∈ peer.stream, conn ∈ (view s).saved ∧
            SavedSign (view s) conn request := by
          intro conn open'
          obtain ⟨saved, accepted, -⟩ := mine conn open'
          exact ⟨saved, ⟨key, wellFormed, fun mem => unowned (still.owned key mem)⟩, accepted⟩
        apply (signOpened_obeys head signs).bind
        intro r s' ⟨same, sub, released⟩
        refine ⟨same ▸ grown, ?_, rfl, released⟩
        intro _
        rw [same]
        refine ⟨still.owned, still.bindings, ?_, ?_⟩
        · intro conn mem
          rw [streams_cons, List.mem_append] at mem
          cases mem with
          | inl mem =>
            obtain ⟨saved, accepted, -⟩ := mine conn (sub conn (Option.mem_toList.1 mem))
            exact ⟨saved, accepted⟩
          | inr mem =>
            obtain ⟨entry, hmem, stream⟩ := mem_streams.1 mem
            exact still.bound conn (mem_streams.2 ⟨entry, List.mem_of_mem_filter hmem, stream⟩)
        · rw [streams_cons, List.nodup_append]
          refine ⟨nodup_toList _, ?_, ?_⟩
          · exact still.distinct.sublist (List.filter_sublist.filterMap _)
          · intro conn mem other hother same
            obtain rfl := same
            exact (mine conn (sub conn (Option.mem_toList.1 mem))).2.2 hother

/-! ## Identity lists -/

/-- Only keys that the user's agents list have been added to the view. -/
structure Enumerated (v v' : View) : Prop where
  requests : v'.requests = v.requests
  identityList : v'.identityList = v.identityList
  upstream : v'.upstream = v.upstream
  saved : v'.saved = v.saved
  accepted : v'.accepted = v.accepted

lemma Enumerated.refl : Enumerated v v := ⟨rfl, rfl, rfl, rfl, rfl⟩

lemma Enumerated.trans {v v' v'' : View} (first : Enumerated v v') (second : Enumerated v' v'') :
    Enumerated v v'' where
  requests := second.requests.trans first.requests
  identityList := second.identityList.trans first.identityList
  upstream := second.upstream.trans first.upstream
  saved := second.saved.trans first.saved
  accepted := second.accepted.trans first.accepted

def repliedKeys : List (Bytes × Bytes) := (reply.bind parseIdentities).getD []

lemma noteAnswer_listing {v : View} {conn : Nat} (up : conn ∈ v.upstream) (reply : Option Bytes) :
    v.noteAnswer conn [REQUEST_IDENTITIES] reply =
      { v with upstreamListed := v.upstreamListed ++ (repliedKeys reply).map Prod.fst } := by
  cases reply with
  | none => simp [View.noteAnswer, repliedKeys]
  | some reply => rw [View.noteAnswer, View.noteReply, if_pos rfl, if_pos up]; rfl

/-- While the saved identities stay enabled, all keys of the user's agents are recorded. -/
structure Recorded (keys : List Bytes) (lazy lazy' : ClientIdentities) : Prop where
  advertised : lazy'.advertised = lazy.advertised
  enabled : lazy'.registry ≠ none → lazy.registry ≠ none ∧ lazy'.bindings = lazy.bindings ∧
    lazy'.peers = lazy.peers ∧ ∀ key, key ∈ lazy.upstreamOwned ∨ key ∈ keys →
      key ∈ lazy'.upstreamOwned

lemma recordUpstream_recorded (lazy : ClientIdentities) (key : Bytes) :
    Recorded [key] lazy (lazy.recordUpstream key) := by
  rw [ClientIdentities.recordUpstream]
  split
  case isTrue known =>
    refine ⟨rfl, fun some => ⟨some, rfl, rfl, ?_⟩⟩
    intro k mem
    cases mem with
    | inl mem => exact mem
    | inr mem =>
      obtain rfl := List.mem_singleton.1 mem
      exact known.resolve_left some
  case isFalse unknown =>
    split
    case isTrue => exact ⟨rfl, fun some => absurd rfl some⟩
    case isFalse =>
      refine ⟨rfl, fun some => ⟨some, rfl, rfl, ?_⟩⟩
      intro k mem
      cases mem with
      | inl mem => exact List.mem_cons_of_mem _ mem
      | inr mem =>
        obtain rfl := List.mem_singleton.1 mem
        exact List.mem_cons_self

/-- An answer in the making lists at most `MAX_KEYS` identities, with all keys seen. -/
structure Listing.Valid (listing : Listing) : Prop where
  few : listing.identities.length ≤ MAX_KEYS
  seen : ∀ key ∈ listing.seen, key ∈ listing.identities.map Prod.fst

lemma Listing.Valid.add {listing : Listing} (h : listing.Valid) (identity : Bytes × Bytes) :
    (listing.add identity).Valid := by
  rw [Listing.add]
  split
  case isFalse => exact h
  case isTrue room =>
    refine ⟨by rw [List.length_append]; exact room.1, ?_⟩
    intro key mem
    rw [List.map_append, List.mem_append]
    cases mem with
    | head => exact .inr (List.mem_singleton.2 rfl)
    | tail _ mem => exact .inl (h.seen key mem)

lemma listIdentity_spec (keys : List (Bytes × Bytes)) {lazy lazy' : ClientIdentities}
    {peer peer' : Peer} {listing listing' : Listing} (valid : listing.Valid)
    (h : keys.foldl listIdentity (lazy, peer, listing) = (lazy', peer', listing')) :
    Recorded (keys.map Prod.fst) lazy lazy' ∧ peer'.stream = peer.stream ∧ listing'.Valid := by
  induction keys generalizing lazy peer listing with
  | nil =>
    cases h
    refine ⟨⟨rfl, fun some => ⟨some, rfl, rfl, ?_⟩⟩, rfl, valid⟩
    intro key mem
    exact mem.resolve_right List.not_mem_nil
  | cons identity keys ih =>
    rw [List.foldl_cons, listIdentity] at h
    obtain ⟨recorded, stream, valid'⟩ := ih (valid.add identity) h
    have first := recordUpstream_recorded lazy identity.1
    refine ⟨⟨recorded.advertised.trans first.advertised, ?_⟩, stream, valid'⟩
    intro some
    obtain ⟨enabled, bindings, peers, owned⟩ := recorded.enabled some
    obtain ⟨enabled', bindings', peers', owned'⟩ := first.enabled enabled
    refine ⟨enabled', bindings.trans bindings', peers.trans peers', ?_⟩
    intro key mem
    rw [List.map_cons, List.mem_cons] at mem
    apply owned
    cases mem with
    | inl mem => exact .inl (owned' key (.inl mem))
    | inr mem =>
      cases mem with
      | inl same => exact .inl (owned' key (.inr (List.mem_singleton.2 same)))
      | inr mem => exact .inr mem

lemma Active.record {lazy lazy' : ClientIdentities} {v v' : View} {keys : List Bytes}
    (active : lazy.registry ≠ none → Active lazy v) (recorded : Recorded keys lazy lazy') (same : Enumerated v v')
    (listed : v'.upstreamListed = v.upstreamListed ++ keys) (some : lazy'.registry ≠ none) : Active lazy' v' := by
  obtain ⟨enabled, bindings, peers, owned⟩ := recorded.enabled some
  have active := active enabled
  have requested : v'.bindings = v.bindings := by rw [View.bindings, View.bindings, same.requests]
  refine ⟨?_, ?_, ?_, ?_⟩
  · intro key mem
    rw [listed, List.mem_append] at mem
    exact owned key (mem.imp (active.owned key) id)
  · rw [bindings, active.bindings, requested]
  · intro conn mem
    rw [peers] at mem
    rw [requested, same.saved, View.acceptedOn, same.accepted]
    exact active.bound conn mem
  · rw [peers]
    exact active.distinct

/-- The rest of `listPeers` behind one peer. -/
def listOthers (peers : List Peer) : ClientIdentities × Peer × Listing → Proxy (List Peer × ClientIdentities × Listing)
  | (lazy, peer, listing) => do
    let (peers, lazy, listing) ← listPeers [REQUEST_IDENTITIES] peers lazy listing
    pure (peer :: peers, lazy, listing)

lemma listPeers_obeys {peers : List Peer} {lazy : ClientIdentities} {listing : Listing} {t : History}
    (up : Upstream peers (view t)) (apart : ∀ conn ∈ (view t).upstream, conn ∉ (view t).saved)
    (active : lazy.registry ≠ none → Active lazy (view t)) (valid : listing.Valid) :
    Obeys (listPeers [REQUEST_IDENTITIES] peers lazy listing) t fun r t' =>
      Upstream r.1 (view t') ∧ Enumerated (view t) (view t') ∧
      (r.2.1.registry ≠ none → Active r.2.1 (view t')) ∧ r.2.1.advertised = lazy.advertised ∧
      r.2.2.Valid := by
  induction peers generalizing lazy listing t with
  | nil => exact ⟨up, Enumerated.refl _, active, rfl, valid⟩
  | cons peer peers ih =>
    have here := up peer List.mem_cons_self
    have rest : Upstream peers (view t) := fun p mem => up p (List.mem_cons_of_mem _ mem)
    have proceed : ∀ (s : History) (keys : List (Bytes × Bytes)) (p : Peer),
        Enumerated (view t) (view s) →
        (view s).upstreamListed = (view t).upstreamListed ++ keys.map Prod.fst →
        (∀ conn ∈ p.stream, conn ∈ peer.stream) →
        Obeys (listOthers peers (keys.foldl listIdentity (lazy, p, listing))) s fun r t' =>
          Upstream r.1 (view t') ∧ Enumerated (view t) (view t') ∧
          (r.2.1.registry ≠ none → Active r.2.1 (view t')) ∧ r.2.1.advertised = lazy.advertised ∧
          r.2.2.Valid := by
      intro s keys p same listed sub
      generalize h : keys.foldl listIdentity (lazy, p, listing) = result
      obtain ⟨lazy', p', listing'⟩ := result
      obtain ⟨recorded, stream, valid'⟩ := listIdentity_spec keys valid h
      have apart' : ∀ conn ∈ (view s).upstream, conn ∉ (view s).saved := by
        rw [same.upstream, same.saved]
        exact apart
      delta listOthers
      apply (ih (rest.congr same.upstream) apart' (Active.record active recorded same listed)
        valid').bind
      rintro r t' ⟨up', same', active', advertised, valid''⟩
      refine ⟨Upstream.cons ?_ up', same.trans same', active',
        advertised.trans recorded.advertised, valid''⟩
      intro conn open'
      rw [stream] at open'
      rw [same'.upstream, same.upstream]
      exact here conn (sub conn open')
    rw [listPeers]
    apply request_bind
    case closed =>
      intro _
      exact proceed t [] _ (Enumerated.refl _) (List.append_nil _).symm fun _ => id
    case opened =>
      intro conn open'
      have mine := here conn open'
      refine ⟨⟨.inl rfl, fun saved => absurd saved (apart conn mine)⟩, ?_⟩
      intro reply
      have noted : view (exchanged t conn [REQUEST_IDENTITIES] reply) = { view t with
          upstreamListed := (view t).upstreamListed ++ (repliedKeys reply).map Prod.fst } := by
        rw [view_exchanged, noteAnswer_listing mine]
      cases reply with
      | none =>
        refine proceed _ [] _ ?_ ?_ fun c hc => by cases hc
        · rw [noted]
          exact ⟨rfl, rfl, rfl, rfl, rfl⟩
        · rw [noted]
          rfl
      | some reply =>
        refine proceed _ (repliedKeys (some reply)) _ ?_ ?_ fun c hc => hc
        · rw [noted]
          exact ⟨rfl, rfl, rfl, rfl, rfl⟩
        · rw [noted]

/-! ## Serving a client -/

def Offered (client : Client) (v : View) : Prop :=
  ∀ key ∈ client.lazy.advertised, ∃ keys, v.identityList = some keys ∧ key ∈ keys

structure Answered (response : Bytes) (client : Client) (t : History) : Prop where
  kept : Kept client (view t)
  offered : Offered client ((view t).note ⟨.write response, ()⟩)
  shows : Shows t ⟨.write response, ()⟩

lemma Answered.plain {client : Client} {t : History} (list : response.head? ≠ some IDENTITIES_ANSWER)
    (sign : response.head? ≠ some SIGN_RESPONSE) (kept : Kept client (view t)) (offered : Offered client (view t)) :
    Answered response client t := by
  refine ⟨kept, ?_, fun h => absurd h sign⟩
  rw [View.note, if_neg list]
  exact offered

lemma Answered.failure {client : Client} {t : History} (kept : Kept client (view t))
    (offered : Offered client (view t)) : Answered [FAILURE] client t :=
  .plain _ (by decide) (by decide) kept offered

lemma valid_candidates (candidates : List Candidate) {listing : Listing} (valid : listing.Valid) :
    (candidates.foldl (fun listing candidate => listing.add (candidate.blob, candidate.path))
      listing).Valid := by
  induction candidates generalizing listing with
  | nil => exact valid
  | cons candidate candidates ih => exact ih (valid.add _)

lemma Kept.offering {client : Client} {v : View} (kept : Kept client v) (keys : List Bytes) :
    Kept ⟨client.peers, { client.lazy with advertised := keys }⟩ v where
  peers := kept.peers
  apart := kept.apart
  lazy some := ⟨(kept.lazy some).owned, (kept.lazy some).bindings, (kept.lazy some).bound,
    (kept.lazy some).distinct⟩

lemma listIdentities_obeys {client : Client} {t : History} (kept : Kept client (view t)) :
    Obeys (listIdentities client [REQUEST_IDENTITIES]) t fun r t' => Answered r.1 r.2 t' := by
  rw [listIdentities]
  have empty : Listing.Valid ⟨[], []⟩ := ⟨Nat.zero_le _, fun _ mem => by cases mem⟩
  apply (listPeers_obeys kept.peers kept.apart kept.lazy empty).bind
  intro r t' ⟨up, same, active, advertised, valid⟩
  obtain ⟨peers, lazy, listing⟩ := r
  have kept' : Kept ⟨peers, lazy⟩ (view t') := by
    refine ⟨up, ?_, active⟩
    rw [same.upstream, same.saved]
    exact kept.apart
  dsimp only
  have full := valid_candidates (lazy.registry.getD []) valid
  generalize (lazy.registry.getD []).foldl
    (fun listing candidate => listing.add (candidate.blob, candidate.path)) listing = listing at full
  split
  case h_1 =>
    intro e
    exact e.elim
  case h_2 response built =>
    split
    case isTrue => exact .failure (kept'.offering []) fun _ mem => by cases mem
    case isFalse =>
      have head := listAnswer_head built
      refine ⟨kept'.offering _, ?_, ?_⟩
      · intro key mem
        refine ⟨listedKeys response, ?_, ?_⟩
        · rw [View.note, if_pos head]
        · rw [listedKeys, parseIdentities_listAnswer full.few built]
          exact full.seen key mem
      · intro sign
        rw [head] at sign
        exact absurd sign (by decide)

lemma signPeers_obeys {key request : Bytes} (head : request.head? = some SIGN_REQUEST) {peers : List Peer}
    {t : History} (up : Upstream peers (view t)) (apart : ∀ conn ∈ (view t).upstream, conn ∉ (view t).saved) :
    Obeys (signPeers key request peers) t fun r t' => Upstream r.2 (view t') ∧ view t' = view t ∧
      ∀ response ∈ r.1, response = [FAILURE] ∨
        response.head? = some SIGN_RESPONSE ∧ Released t' request response := by
  induction peers generalizing t with
  | nil => exact ⟨up, rfl, fun _ mem => by cases mem⟩
  | cons peer peers ih =>
    have here := up peer List.mem_cons_self
    have rest : Upstream peers (view t) := fun p mem => up p (List.mem_cons_of_mem _ mem)
    rw [signPeers]
    split
    case isFalse =>
      apply (ih rest apart).bind
      intro r t' ⟨up', same, released⟩
      exact ⟨Upstream.cons (same ▸ here) up', same, released⟩
    case isTrue =>
      apply request_bind
      case closed =>
        intro _
        refine ⟨up, rfl, ?_⟩
        intro response mem
        exact .inl (Option.some.inj mem).symm
      case opened =>
        intro conn open'
        have mine := here conn open'
        refine ⟨⟨.inr (.inr head), fun saved => absurd saved (apart conn mine)⟩, ?_⟩
        intro reply
        have same : view (exchanged t conn request reply) = view t := by
          rw [view_exchanged, noteAnswer_sign head]
        refine ⟨?_, same, ?_⟩
        · rw [same]
          exact Upstream.cons (fun c hc => here c (replied_stream hc)) rest
        · intro response mem
          obtain rfl := Option.some.inj mem
          cases reply with
          | none => exact .inl rfl
          | some reply =>
            dsimp only [Peer.replied]
            rw [Option.filter_some]
            split
            case isFalse => exact .inl rfl
            case isTrue sign =>
              refine .inr ⟨by simpa using sign, conn, _, [], rfl, ?_, fun _ => rfl⟩
              intro saved
              rw [same] at saved
              exact absurd saved (apart conn mine)

lemma Answered.signature {request response key : Bytes} {client client' : Client} {t t' : History}
    (last : (view t).requests.getLast? = some request) (wellFormed : signKey request = some key)
    (offered : Offered client (view t)) (mem : key ∈ client.lazy.advertised)
    (requests : (view t').requests = (view t).requests)
    (identityList : (view t').identityList = (view t).identityList) (kept : Kept client' (view t'))
    (advertised : client'.lazy.advertised = client.lazy.advertised) (sign : response.head? = some SIGN_RESPONSE)
    (released : Released t' request response) : Answered response client' t' := by
  refine ⟨kept, ?_, ?_⟩
  · rw [View.note, if_neg (by rw [sign]; decide), Offered, advertised, identityList]
    exact offered
  · intro _
    obtain ⟨keys, list, hmem⟩ := offered key mem
    exact ⟨request, key, keys, requests ▸ last, wellFormed, identityList ▸ list, hmem, released⟩

lemma sign_obeys {client : Client} {request : Bytes} (head : request.head? = some SIGN_REQUEST)
    {t : History} (kept : Kept client (view t)) (offered : Offered client (view t))
    (last : (view t).requests.getLast? = some request) :
    Obeys (sign decode client request) t fun r t' => Answered r.1 r.2 t' := by
  rw [sign]
  split
  case h_1 => exact .failure kept offered
  case h_2 key wellFormed =>
    split
    case isTrue => exact .failure kept offered
    case isFalse advertised =>
      have mem : key ∈ client.lazy.advertised := Decidable.not_not.1 advertised
      apply (signPeers_obeys head kept.peers kept.apart).bind
      intro r t' ⟨up, same, released⟩
      obtain ⟨response, peers⟩ := r
      have kept' : Kept ⟨peers, client.lazy⟩ (view t') := ⟨up, same ▸ kept.apart, same ▸ kept.lazy⟩
      have offered' : Offered ⟨peers, client.lazy⟩ (view t') := same ▸ offered
      cases response with
      | some response =>
        cases released response rfl with
        | inl failed =>
          rw [failed]
          exact .failure kept' offered'
        | inr signed =>
          exact .signature last wellFormed offered mem (by rw [same]) (by rw [same]) kept' rfl signed.1
            signed.2
      | none =>
        dsimp only
        split
        case isTrue => exact .failure kept' offered'
        case isFalse unowned =>
          apply (lazySign_obeys head wellFormed unowned kept'.lazy).bind
          intro r s ⟨grown, active, advertised, released⟩
          obtain ⟨response, lazy⟩ := r
          have kept'' : Kept ⟨peers, lazy⟩ (view s) := by
            refine ⟨up.congr grown.upstream, ?_, active⟩
            intro conn mem saved
            rw [grown.upstream] at mem
            cases grown.fresh saved with
            | inl saved => exact kept'.apart conn mem saved
            | inr new => exact new mem
          have offered'' : Offered ⟨peers, lazy⟩ (view s) := by
            rw [Offered, advertised, grown.identityList]
            exact offered'
          cases response with
          | none => exact .failure kept'' offered''
          | some response =>
            obtain ⟨sign, released⟩ := released response rfl
            exact .signature last wellFormed offered mem (by rw [grown.requests, same])
              (by rw [grown.identityList, same]) kept'' advertised sign released

lemma lazyBind_obeys {lazy : ClientIdentities} {request : Bytes} (binding : isBinding request)
    {v : View} {t : History} (active : lazy.registry ≠ none → Active lazy v)
    (requests : (view t).requests = v.requests ++ [request]) (saved : (view t).saved = v.saved)
    (listed : (view t).upstreamListed = v.upstreamListed)
    (accepted : ∀ conn ∈ v.saved, (view t).acceptedOn conn = v.acceptedOn conn) :
    Obeys (lazy.bind request) t fun r t' => (r.2.registry ≠ none → Active r.2 (view t')) ∧
      r.2.advertised = lazy.advertised ∧ Frame (· ∈ (view t).saved) (view t) (view t') := by
  rw [ClientIdentities.bind]
  split
  case isTrue none => exact ⟨fun some => absurd none some, rfl, Frame.refl _ _⟩
  case isFalse some =>
    split
    case isTrue => exact ⟨fun some => absurd rfl some, rfl, Frame.refl _ _⟩
    case isFalse =>
      have active := active some
      have bound : Bound lazy.peers (view t) v.bindings := by
        intro conn mem
        obtain ⟨mine, all⟩ := active.bound conn mem
        exact ⟨saved ▸ mine, (accepted conn mine).trans all⟩
      apply (bindPeers_obeys binding bound active.distinct).bind
      intro peers t' ⟨sub, bound', frame⟩
      have requested : (view t').bindings = v.bindings ++ [request] := by
        rw [frame.bindings, View.bindings, requests, View.bindings, List.filter_append,
          List.filter_singleton, binding]
        rfl
      refine ⟨fun _ => ⟨?_, ?_, ?_, ?_⟩, rfl, frame.mono fun conn mem => (bound conn mem).1⟩
      · rw [frame.upstreamListed, listed]
        exact active.owned
      · rw [requested, active.bindings]
      · rw [requested]
        exact bound'
      · exact active.distinct.sublist sub

lemma bindSession_obeys {client : Client} {request : Bytes} (binding : isBinding request)
    {v : View} {t : History} (kept : Kept client v) (offered : Offered client v)
    (read : view t = { v with requests := v.requests ++ [request] }) :
    Obeys (bindSession client request) t fun r t' => Answered r.1 r.2 t' := by
  rw [bindSession]
  have up : Upstream client.peers (view t) := by
    rw [read]
    exact kept.peers
  apply (forwardBinding_obeys binding up).bind
  intro r s ⟨up', frame⟩
  obtain ⟨forwarded, peers⟩ := r
  rw [read] at frame
  have untouched : ∀ conn ∈ v.saved, (view s).acceptedOn conn = v.acceptedOn conn := by
    intro conn saved
    exact frame.acceptedOn fun mem => kept.apart conn mem saved
  apply (lazyBind_obeys binding kept.lazy frame.requests frame.saved frame.upstreamListed
    untouched).bind
  intro r t' ⟨active, advertised, frame'⟩
  obtain ⟨recorded, lazy⟩ := r
  have kept' : Kept ⟨peers, lazy⟩ (view t') := by
    refine ⟨up'.congr frame'.upstream, ?_, active⟩
    rw [frame'.upstream, frame'.saved, frame.upstream, frame.saved]
    exact kept.apart
  have offered' : Offered ⟨peers, lazy⟩ (view t') := by
    rw [Offered, advertised, frame'.identityList, frame.identityList]
    exact offered
  dsimp only
  split
  case isTrue => exact .plain [SUCCESS] (by decide) (by decide) kept' offered'
  case isFalse => exact .failure kept' offered'

lemma Kept.read {client : Client} {v : View} {request : Bytes} (kept : Kept client v)
    (unbound : ¬ isBinding request) : Kept client { v with requests := v.requests ++ [request] } := by
  have same : View.bindings { v with requests := v.requests ++ [request] } = v.bindings := by
    simp [View.bindings, unbound]
  refine ⟨kept.peers, kept.apart, fun some => ?_⟩
  obtain ⟨owned, bindings, bound, distinct⟩ := kept.lazy some
  exact ⟨owned, by rw [same, bindings], by rw [same]; exact bound, distinct⟩

lemma respond_obeys {client : Client} {request : Bytes} {v : View} {t : History} (kept : Kept client v)
    (offered : Offered client v) (read : view t = { v with requests := v.requests ++ [request] }) :
    Obeys (respond decode client request) t fun r t' => Answered r.1 r.2 t' := by
  have offered' : Offered client (view t) := by
    rw [read]
    exact offered
  have kept' (unbound : ¬ isBinding request) : Kept client (view t) := by
    rw [read]
    exact kept.read unbound
  rw [respond]
  split
  case isTrue list =>
    obtain rfl := list
    exact listIdentities_obeys (kept' fun binding => ne_listing_of_binding binding rfl)
  case isFalse =>
    split
    case isTrue head =>
      refine sign_obeys head (kept' fun binding => head_ne_of_binding binding head) offered' ?_
      rw [read]
      exact List.getLast?_concat
    case isFalse =>
      split
      case isTrue binding => exact bindSession_obeys binding kept offered read
      case isFalse unbound =>
        split
        case isTrue =>
          exact Answered.plain [EXTENSION_FAILURE] (by decide) (by decide) (kept' unbound) offered'
        case isFalse => exact Answered.failure (kept' unbound) offered'

/-- What holds whenever a client waits for its next request. -/
structure Ready (client : Client) (t : History) : Prop where
  kept : Kept client (view t)
  offered : Offered client (view t)

lemma note_write : ∃ list,
    v.note ⟨.write response, ()⟩ = { v with identityList := list } := by
  rw [View.note]
  split
  case isTrue => exact ⟨_, rfl⟩
  case isFalse => exact ⟨v.identityList, rfl⟩

theorem serveRequest_obeys {client : Client} {t : History} (ready : Ready client t) :
    Obeys (serveRequest decode client) t Ready := by
  rw [serveRequest, obeys_act_bind]
  intro request _
  refine ⟨trivial, ?_⟩
  apply (respond_obeys ready.kept ready.offered (view_append t _)).bind
  intro r s answered
  obtain ⟨response, client⟩ := r
  rw [obeys_act_bind]
  intro u _
  refine ⟨answered.shows, ?_⟩
  obtain ⟨list, same⟩ := note_write (view s) response
  refine ⟨?_, ?_⟩
  · rw [view_append, same]
    obtain ⟨peers, apart, lazy⟩ := answered.kept
    exact ⟨peers, apart, fun some => ⟨(lazy some).owned, (lazy some).bindings, (lazy some).bound,
      (lazy some).distinct⟩⟩
  · rw [view_append]
    exact answered.offered

lemma connectPeers_obeys (paths : List String) (t : History) :
    Obeys (connectPeers paths) t fun peers t' => Upstream peers (view t') ∧
      ∃ upstream, view t' = { view t with upstream } ∧ ∀ conn ∈ (view t).upstream, conn ∈ upstream := by
  induction paths generalizing t with
  | nil => exact ⟨fun _ mem => (List.not_mem_nil mem).elim, _, rfl, fun _ => id⟩
  | cons path paths ih =>
    rw [connectPeers]
    apply (connect_obeys _ t).bind
    intro peer s ⟨conn, _, hpeer, hs⟩
    subst hpeer hs
    apply (ih _).bind
    intro peers t' ⟨up, upstream, same, more⟩
    rw [view_append] at same more
    cases conn with
    | none => exact ⟨up, upstream, same, more⟩
    | some conn =>
      refine ⟨?_, upstream, same, fun c mem => more c (List.mem_cons_of_mem _ mem)⟩
      refine Upstream.cons ?_ up
      intro c open'
      obtain rfl := Option.some.inj open'
      rw [same]
      exact more conn List.mem_cons_self

theorem serveClient_obeys (registry : Option (List Candidate)) (existing locally : Option String) :
    Obeys (serveClient registry existing locally) [] Ready := by
  rw [serveClient]
  apply (connectPeers_obeys _ []).bind
  intro peers t ⟨up, upstream, same, _⟩
  refine ⟨⟨up, ?_, fun _ => ⟨?_, ?_, ?_, List.nodup_nil⟩⟩, fun _ mem => (List.not_mem_nil mem).elim⟩
  all_goals rw [same]
  · intro conn _ mem
    cases mem
  · intro key mem
    cases mem
  · rfl
  · intro conn mem
    cases mem

end Ctl.Identity
