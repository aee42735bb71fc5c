import Ctl.Base.Tasks
import Ctl.Identity.Confinement

/-!
# A connection attempt

One agent proxy with any number of clients at once (Rust `AgentProxy` and `LazyIdentities`). The
clients share the unlock table with its lock and the cancellation of the attempt; `Attempt.step` runs
them next to one another, with arbitrary replies of all agents and cancellation at any moment.

`Confined` says what the log of every run shows. Its parts about one client come from the rule of the
client (`Ctl.Identity.Confinement`); that a key is unlocked once and that nothing new begins after the
cancellation come from the invariant `Shared` of the log and the shared state.
-/

namespace Ctl.Identity

open Ctl.Base

/-- What the clients of an attempt share (Rust `LazyIdentities`). -/
structure Attempt where
  /-- The unlock table: a missing key is unattempted, `none` has failed or is in progress. -/
  unlocked : List (Bytes × Option UnlockedAgent)
  /-- The client that holds the lock of the unlock table. -/
  holder : Option Nat
  closed : Bool
  /-- The token of the unlock that was made active last, and the tokens that are set. -/
  active : Option Nat
  setTokens : List Nat
  nextToken : Nat
  nextConn : Nat
  fallbacks : List (String × Reason)

def Attempt.new : Attempt := ⟨[], none, false, none, [], 0, 0, []⟩

/-- What the proxy reads from a stream (Rust `read_message`). -/
def validMessage (message : Bytes) : Bool := message ≠ [] ∧ message.length ≤ MAX_MESSAGE

/-- The shared state after an action of a client; nothing when its answer is not possible. -/
def Attempt.perform (h : Attempt) (c : Nat) : Event Action Answer → Option Attempt
  | ⟨.read, request⟩ => if validMessage request then some h else none
  | ⟨.connect _, some conn⟩ =>
    if conn = h.nextConn then some { h with nextConn := conn + 1 } else none
  | ⟨.send conn _, _⟩ => if conn < h.nextConn then some h else none
  | ⟨.receive conn _, some reply⟩ =>
    if conn < h.nextConn ∧ validMessage reply then some h else none
  | ⟨.isCanceled, closed⟩ => if closed = h.closed then some h else none
  | ⟨.begin, none⟩ => if h.closed then some h else none
  | ⟨.begin, some token⟩ =>
    if ¬ h.closed ∧ token = h.nextToken then
      some { h with active := some token, nextToken := token + 1 }
    else none
  | ⟨.lock, _⟩ => if h.holder = none then some { h with holder := some c } else none
  | ⟨.unlock, _⟩ => if h.holder = some c then some { h with holder := none } else none
  | ⟨.claim key, previous⟩ =>
    if h.holder = some c ∧ previous = h.unlocked.lookup key then
      some (if previous = none then { h with unlocked := (key, none) :: h.unlocked } else h)
    else none
  | ⟨.store key agent, _⟩ =>
    if h.holder = some c then some { h with unlocked := (key, some agent) :: h.unlocked } else none
  | ⟨.tokenSet token, set⟩ => if set = decide (token ∈ h.setTokens) then some h else none
  | ⟨.dropToken token, _⟩ => some { h with setTokens := token :: h.setTokens }
  | ⟨.recordFallback identityId reason, _⟩ =>
    some { h with fallbacks := (identityId, reason) :: h.fallbacks.filter (·.1 ≠ identityId) }
  | ⟨.clearFallback identityId, _⟩ =>
    some { h with fallbacks := h.fallbacks.filter (·.1 ≠ identityId) }
  | _ => some h

/-- A client has ended: the lock it holds is released and the token of its unlock is set. -/
def Attempt.stopped (h : Attempt) (c : Nat) : Attempt :=
  if h.holder = some c then { h with holder := none, setTokens := h.active.toList ++ h.setTokens }
  else h

/-- Cancel the attempt (Rust `LazyIdentities::cancel`). -/
def Attempt.cancel (h : Attempt) : Attempt :=
  { h with closed := true, setTokens := h.active.toList ++ h.setTokens }

/-- What a proxy is started with (Rust `AgentProxy::start_with`). -/
structure Setup where
  registry : Option (List Candidate)
  existing : Option String
  locally : Option String

def Attempt.pool (decode : String → Option Bytes) (setup : Setup) :
    Pool Action Answer Attempt Client Unit where
  start := serveClient setup.registry setup.existing setup.locally
  body := serveRequest decode
  limit := 16
  perform := Attempt.perform
  stopped := Attempt.stopped
  outer h _ := some h.cancel

abbrev Log := List (Entry Action Answer Unit)

abbrev cancel : Entry Action Answer Unit := .outer ()

def Attempt.run (decode : String → Option Bytes) (setup : Setup) (log : Log) :
    Option (Pool.State Action Answer Attempt Client) :=
  exec (Attempt.pool decode setup).step (Pool.initial .new) log

/-! ## The invariant of the shared state -/

def pending (t : History) : Option Bytes :=
  match t.reverse with
  | ⟨.claim key, none⟩ :: _ => some key
  | ⟨.begin, some _⟩ :: ⟨.claim key, none⟩ :: _ => some key
  | _ => none

def beginning (t : History) : Option Nat :=
  match t.reverse with
  | ⟨.begin, some token⟩ :: _ => some token
  | _ => none

def Started (key : Bytes) (log : Log) : Prop :=
  ∃ c token, Entry.act c ⟨.startUnlock key token, ()⟩ ∈ log

structure View.Below (v : View) (next : Nat) : Prop where
  upstream : ∀ conn ∈ v.upstream, conn < next
  saved : ∀ conn ∈ v.saved, conn < next
  accepted : ∀ entry ∈ v.accepted, entry.1 < next

structure Shared (log : Log) (h : Attempt) : Prop where
  closed : cancel ∈ log ↔ h.closed = true
  conns (c : Nat) : (view (history c log)).Below h.nextConn
  started {key : Bytes} : Started key log → h.unlocked.lookup key ≠ none
  claimed {c : Nat} {key : Bytes} : Entry.stop c ∉ log → pending (history c log) = some key →
    h.holder = some c ∧ ¬ Started key log ∧ h.unlocked.lookup key ≠ none
  begun {c token : Nat} : Entry.stop c ∉ log → beginning (history c log) = some token →
    pending (history c log) ≠ none ∧ h.active = some token ∧ (h.closed → token ∈ h.setTokens)

/-- What no action of a client undoes. -/
structure Attempt.Later (c : Nat) (h h' : Attempt) : Prop where
  closed : h'.closed = h.closed
  conns : h.nextConn ≤ h'.nextConn
  tokens {token : Nat} : token ∈ h.setTokens → token ∈ h'.setTokens
  unlocked {key : Bytes} : h.unlocked.lookup key ≠ none → h'.unlocked.lookup key ≠ none
  holder {d : Nat} : d ≠ c → h.holder = some d → h'.holder = some d

lemma Attempt.Later.refl (c : Nat) (h : Attempt) : Attempt.Later c h h :=
  ⟨rfl, Nat.le_refl _, id, id, fun _ => id⟩

lemma lookup_cons_ne_none {unlocked : List (Bytes × Option UnlockedAgent)} {key : Bytes}
    (known : unlocked.lookup key ≠ none) (k : Bytes) (agent : Option UnlockedAgent) :
    List.lookup key ((k, agent) :: unlocked) ≠ none := by
  rw [List.lookup_cons]
  split
  case h_1 => simp
  case h_2 => exact known

/-- The actions of a client only add to the shared state, and leave the lock of another client
    alone. -/
lemma perform_later {h h' : Attempt} {c : Nat} {ev : Event Action Answer}
    (done : h.perform c ev = some h') : Attempt.Later c h h' := by
  unfold Attempt.perform at done
  split at done
  case h_2 conn =>
    split at done
    case isFalse => cases done
    case isTrue next =>
      obtain rfl := Option.some.inj done
      exact ⟨rfl, Nat.le_succ_of_le (Nat.le_of_eq next.symm), id, id, fun _ => id⟩
  case h_7 token =>
    split at done
    case isFalse => cases done
    case isTrue =>
      obtain rfl := Option.some.inj done
      exact ⟨rfl, Nat.le_refl _, id, id, fun _ => id⟩
  case h_8 =>
    split at done
    case isFalse => cases done
    case isTrue free =>
      obtain rfl := Option.some.inj done
      refine ⟨rfl, Nat.le_refl _, id, id, ?_⟩
      intro d _ held
      rw [free] at held
      cases held
  case h_9 =>
    split at done
    case isFalse => cases done
    case isTrue mine =>
      obtain rfl := Option.some.inj done
      refine ⟨rfl, Nat.le_refl _, id, id, ?_⟩
      intro d other held
      rw [mine] at held
      exact absurd (Option.some.inj held).symm other
  case h_10 key previous =>
    split at done
    case isFalse => cases done
    case isTrue =>
      obtain rfl := Option.some.inj done
      split
      case isTrue =>
        exact ⟨rfl, Nat.le_refl _, id, fun known => lookup_cons_ne_none known _ _, fun _ => id⟩
      case isFalse => exact .refl c h
  case h_11 =>
    split at done
    case isFalse => cases done
    case isTrue =>
      obtain rfl := Option.some.inj done
      exact ⟨rfl, Nat.le_refl _, id, fun known => lookup_cons_ne_none known _ _, fun _ => id⟩
  case h_13 =>
    obtain rfl := Option.some.inj done
    exact ⟨rfl, Nat.le_refl _, List.mem_cons_of_mem _, id, fun _ => id⟩
  case h_14 =>
    obtain rfl := Option.some.inj done
    exact ⟨rfl, Nat.le_refl _, id, id, fun _ => id⟩
  case h_15 =>
    obtain rfl := Option.some.inj done
    exact ⟨rfl, Nat.le_refl _, id, id, fun _ => id⟩
  case h_16 =>
    obtain rfl := Option.some.inj done
    exact .refl c h
  all_goals
    split at done
    case isTrue =>
      obtain rfl := Option.some.inj done
      exact .refl c h
    case isFalse => cases done

lemma perform_active {h h' : Attempt} {c : Nat} {ev : Event Action Answer}
    (done : h.perform c ev = some h') : h'.active = h.active ∨
      ∃ token, ev = ⟨.begin, some token⟩ ∧ h'.active = some token ∧ h.closed = false := by
  unfold Attempt.perform at done
  split at done
  case h_7 token =>
    split at done
    case isFalse => cases done
    case isTrue next =>
      obtain rfl := Option.some.inj done
      exact .inr ⟨token, rfl, rfl, Bool.eq_false_iff.2 next.1⟩
  case h_10 =>
    split at done
    case isFalse => cases done
    case isTrue =>
      obtain rfl := Option.some.inj done
      left
      split
      case isTrue => rfl
      case isFalse => rfl
  case h_13 | h_14 | h_15 | h_16 =>
    obtain rfl := Option.some.inj done
    exact .inl rfl
  all_goals
    split at done
    case isTrue =>
      obtain rfl := Option.some.inj done
      exact .inl rfl
    case isFalse => cases done

lemma View.Below.mono {v : View} {next next' : Nat} (h : v.Below next) (le : next ≤ next') :
    v.Below next' where
  upstream conn mem := Nat.lt_of_lt_of_le (h.upstream conn mem) le
  saved conn mem := Nat.lt_of_lt_of_le (h.saved conn mem) le
  accepted entry mem := Nat.lt_of_lt_of_le (h.accepted entry mem) le

lemma perform_below {h h' : Attempt} {c : Nat} {ev : Event Action Answer} (done : h.perform c ev = some h') {v : View}
    (below : v.Below h.nextConn) : (v.note ev).Below h'.nextConn := by
  have later := below.mono (perform_later done).conns
  unfold View.note
  split
  case h_1 => exact ⟨later.upstream, later.saved, later.accepted⟩
  case h_2 =>
    split
    case isTrue => exact ⟨later.upstream, later.saved, later.accepted⟩
    case isFalse => exact later
  case h_3 path conn =>
    obtain ⟨next, same⟩ := Option.ite_none_right_eq_some.1 done
    obtain rfl := Option.some.inj same
    refine ⟨?_, later.saved, later.accepted⟩
    intro other mem
    cases mem with
    | head => exact Nat.lt_succ_self conn
    | tail _ mem => exact later.upstream other mem
  case h_4 path conn =>
    obtain ⟨next, same⟩ := Option.ite_none_right_eq_some.1 done
    obtain rfl := Option.some.inj same
    refine ⟨later.upstream, ?_, later.accepted⟩
    intro other mem
    cases mem with
    | head => exact Nat.lt_succ_self conn
    | tail _ mem => exact later.saved other mem
  case h_5 conn request reply =>
    obtain ⟨known, same⟩ := Option.ite_none_right_eq_some.1 done
    obtain rfl := Option.some.inj same
    rw [View.noteReply]
    split
    case isTrue =>
      split
      case isTrue => exact ⟨later.upstream, later.saved, later.accepted⟩
      case isFalse => exact later
    case isFalse =>
      split
      case isFalse => exact later
      case isTrue =>
        refine ⟨later.upstream, later.saved, ?_⟩
        intro entry mem
        rw [List.mem_append] at mem
        cases mem with
        | inl mem => exact later.accepted entry mem
        | inr mem =>
          obtain rfl := List.mem_singleton.1 mem
          exact known.1
  case h_6 => exact later

lemma pending_append {t : History} {ev : Event Action Answer} {key : Bytes}
    (h : pending (t ++ [ev]) = some key) : ev = ⟨.claim key, none⟩ ∨
      ∃ token, ev = ⟨.begin, some token⟩ ∧ pending t = some key := by
  rw [pending, List.reverse_append, List.reverse_singleton, List.singleton_append] at h
  split at h
  case h_1 k _ same =>
    obtain rfl := Option.some.inj h
    exact .inl (List.cons.inj same).1
  case h_2 token k rest same =>
    obtain rfl := Option.some.inj h
    obtain ⟨first, before⟩ := List.cons.inj same
    refine .inr ⟨token, first, ?_⟩
    rw [pending, before]
  case h_3 => cases h

lemma pending_claim (before : History) (key : Bytes) : pending (before ++ [⟨.claim key, none⟩]) = some key := by
  rw [pending, List.reverse_append]
  rfl

lemma pending_begin (before : History) (key : Bytes) (token : Nat) :
    pending (before ++ [⟨.claim key, none⟩, ⟨.begin, some token⟩]) = some key := by
  rw [pending, List.reverse_append]
  rfl

lemma beginning_append {t : History} {ev : Event Action Answer} {token : Nat}
    (h : beginning (t ++ [ev]) = some token) : ev = ⟨.begin, some token⟩ := by
  rw [beginning, List.reverse_append, List.reverse_singleton, List.singleton_append] at h
  split at h
  case h_1 tok rest same =>
    obtain rfl := Option.some.inj h
    exact (List.cons.inj same).1
  case h_2 => cases h

lemma started_append {key : Bytes} {log : Log} {entry : Entry Action Answer Unit}
    (h : Started key (log ++ [entry])) : Started key log ∨
      ∃ c token, entry = .act c ⟨.startUnlock key token, ()⟩ := by
  obtain ⟨c, token, mem⟩ := h
  rw [List.mem_append, List.mem_singleton] at mem
  cases mem with
  | inl mem => exact .inl ⟨c, token, mem⟩
  | inr same => exact .inr ⟨c, token, same.symm⟩

lemma Shared.act {log : Log} {h h' : Attempt} {c : Nat} {ev : Event Action Answer}
    (shared : Shared log h) (live : Entry.stop c ∉ log) (shows : Shows (history c log) ev)
    (done : h.perform c ev = some h') : Shared (log ++ [Entry.act c ev]) h' := by
  have later := perform_later done
  -- A client that begins or starts an unlock holds the lock of the unlock table.
  have begins : ∀ token, ev = ⟨.begin, some token⟩ →
      ∃ key, pending (history c log) = some key ∧ h.holder = some c := by
    intro token same
    obtain rfl := same
    obtain ⟨key, before, ends⟩ := shows
    have claimed : pending (history c log) = some key := by rw [ends, pending_claim]
    exact ⟨key, claimed, (shared.claimed live claimed).1⟩
  have starts : ∀ key token, ev = ⟨.startUnlock key token, ()⟩ →
      pending (history c log) = some key := by
    intro key token same
    obtain rfl := same
    obtain ⟨before, ends⟩ := shows
    rw [ends, pending_begin]
  constructor
  case closed =>
    rw [later.closed, ← shared.closed]
    simp
  case conns =>
    intro d
    by_cases same : c = d
    · obtain rfl := same
      rw [history_act, view_append]
      exact perform_below done (shared.conns c)
    · rw [history_act_of_ne same]
      exact (shared.conns d).mono later.conns
  case started =>
    intro key started
    apply later.unlocked
    cases started_append started with
    | inl before => exact shared.started before
    | inr now =>
      obtain ⟨d, token, same⟩ := now
      injection same with same hev
      exact (shared.claimed live (starts key token hev)).2.2
  case claimed =>
    intro d key alive claimed
    have alive : Entry.stop d ∉ log := fun mem => alive (List.mem_append_left _ mem)
    by_cases same : c = d
    · obtain rfl := same
      rw [history_act] at claimed
      cases pending_append claimed with
      | inl now =>
        obtain rfl := now
        obtain ⟨⟨mine, fresh⟩, hh'⟩ := Option.ite_none_right_eq_some.1 done
        rw [if_pos rfl] at hh'
        obtain rfl := Option.some.inj hh'
        refine ⟨mine, ?_, ?_⟩
        · intro started
          cases started_append started with
          | inl before => exact shared.started before fresh.symm
          | inr now =>
            obtain ⟨d, token, same⟩ := now
            cases same
        · simp
      | inr begun =>
        obtain ⟨token, rfl, before⟩ := begun
        obtain ⟨holds, unstarted, known⟩ := shared.claimed live before
        obtain ⟨-, hh'⟩ := Option.ite_none_right_eq_some.1 done
        obtain rfl := Option.some.inj hh'
        refine ⟨holds, ?_, known⟩
        intro started
        cases started_append started with
        | inl before => exact unstarted before
        | inr now =>
          obtain ⟨d, token, same⟩ := now
          cases same
    · rw [history_act_of_ne same] at claimed
      obtain ⟨holds, unstarted, known⟩ := shared.claimed alive claimed
      refine ⟨later.holder (Ne.symm same) holds, ?_, later.unlocked known⟩
      intro started
      cases started_append started with
      | inl before => exact unstarted before
      | inr now =>
        obtain ⟨e, token, now⟩ := now
        injection now with _ hev
        have mine := (shared.claimed live (starts key token hev)).1
        exact same (Option.some.inj (mine.symm.trans holds))
  case begun =>
    intro d token alive begun
    have alive : Entry.stop d ∉ log := fun mem => alive (List.mem_append_left _ mem)
    by_cases same : c = d
    · obtain rfl := same
      rw [history_act] at begun ⊢
      obtain rfl := beginning_append begun
      obtain ⟨key, before, ends⟩ := shows
      obtain ⟨⟨canceled, -⟩, hh'⟩ := Option.ite_none_right_eq_some.1 done
      obtain rfl := Option.some.inj hh'
      refine ⟨?_, rfl, fun closed => absurd closed canceled⟩
      rw [ends, List.append_assoc]
      exact fun none => by cases (pending_begin before key token).symm.trans none
    · rw [history_act_of_ne same] at begun ⊢
      obtain ⟨claimed, active, set⟩ := shared.begun alive begun
      refine ⟨claimed, ?_, fun closed => later.tokens (set (later.closed ▸ closed))⟩
      cases perform_active done with
      | inl kept => rw [kept, active]
      | inr other =>
        obtain ⟨token', hev, -, -⟩ := other
        obtain ⟨key, hkey⟩ := Option.ne_none_iff_exists'.1 claimed
        obtain ⟨-, -, mine⟩ := begins token' hev
        have theirs := (shared.claimed alive hkey).1
        exact absurd (Option.some.inj (mine.symm.trans theirs)) same

lemma Shared.spawn {log : Log} {h : Attempt} {c : Nat} (shared : Shared log h) : Shared (log ++ [Entry.spawn c]) h := by
  have same : ∀ key, Started key (log ++ [Entry.spawn c]) ↔ Started key log := by simp [Started]
  constructor
  case closed => simpa using shared.closed
  case conns => simpa using shared.conns
  case started =>
    intro key started
    exact shared.started ((same key).1 started)
  case claimed =>
    intro d key live claimed
    rw [history_spawn] at claimed
    rw [same]
    exact shared.claimed (fun mem => live (List.mem_append_left _ mem)) claimed
  case begun =>
    intro d token live begun
    rw [history_spawn] at begun ⊢
    exact shared.begun (fun mem => live (List.mem_append_left _ mem)) begun

lemma Shared.stop {log : Log} {h : Attempt} {c : Nat} (shared : Shared log h) :
    Shared (log ++ [Entry.stop c]) (h.stopped c) := by
  have same : ∀ key, Started key (log ++ [Entry.stop c]) ↔ Started key log := by simp [Started]
  have kept : (h.stopped c).closed = h.closed ∧ (h.stopped c).nextConn = h.nextConn ∧
      (h.stopped c).unlocked = h.unlocked ∧ (h.stopped c).active = h.active ∧
      ∀ token ∈ h.setTokens, token ∈ (h.stopped c).setTokens := by
    rw [Attempt.stopped]
    split
    case isTrue => exact ⟨rfl, rfl, rfl, rfl, fun _ => List.mem_append_right _⟩
    case isFalse => exact ⟨rfl, rfl, rfl, rfl, fun _ => id⟩
  obtain ⟨closed, conns, unlocked, active, tokens⟩ := kept
  constructor
  case closed =>
    rw [closed]
    simpa using shared.closed
  case conns =>
    intro d
    rw [history_stop, conns]
    exact shared.conns d
  case started =>
    intro key started
    rw [unlocked]
    exact shared.started ((same key).1 started)
  case claimed =>
    intro d key live claimed
    rw [history_stop] at claimed
    simp only [List.mem_append, List.mem_singleton, Entry.stop.injEq, not_or] at live
    obtain ⟨holds, unstarted, known⟩ := shared.claimed live.1 claimed
    rw [same, unlocked]
    refine ⟨?_, unstarted, known⟩
    rw [Attempt.stopped, if_neg]
    · exact holds
    · rw [holds]
      exact fun same => live.2 (Option.some.inj same)
  case begun =>
    intro d token live begun
    rw [history_stop] at begun ⊢
    obtain ⟨claimed, made, set⟩ := shared.begun (fun mem => live (List.mem_append_left _ mem)) begun
    exact ⟨claimed, active.trans made, fun canceled => tokens token (set (closed ▸ canceled))⟩

lemma Shared.cancel {log : Log} {h : Attempt} (shared : Shared log h) : Shared (log ++ [cancel]) h.cancel := by
  have same : ∀ key, Started key (log ++ [Identity.cancel]) ↔ Started key log := by simp [Started]
  constructor
  case closed => simp [Attempt.cancel]
  case conns =>
    intro c
    rw [history_outer]
    exact shared.conns c
  case started =>
    intro key started
    exact shared.started ((same key).1 started)
  case claimed =>
    intro d key live claimed
    rw [history_outer] at claimed
    rw [same]
    exact shared.claimed (fun mem => live (List.mem_append_left _ mem)) claimed
  case begun =>
    intro d token live begun
    rw [history_outer] at begun ⊢
    obtain ⟨claimed, active, -⟩ := shared.begun (fun mem => live (List.mem_append_left _ mem)) begun
    refine ⟨claimed, active, fun _ => ?_⟩
    rw [Attempt.cancel, active]
    exact List.mem_cons_self

lemma Shared.new : Shared [] .new := by
  constructor
  case closed => simp [Attempt.new]
  case conns => exact fun c => ⟨by simp [view], by simp [view], by simp [view]⟩
  case started =>
    rintro key ⟨c, token, mem⟩
    cases mem
  case claimed =>
    intro c key _ claimed
    cases claimed
  case begun =>
    intro c token _ begun
    cases begun

lemma Attempt.verified (decode : String → Option Bytes) (setup : Setup) :
    (Attempt.pool decode setup).Verified Expected Shows Ready Shared where
  start := serveClient_obeys _ _ _
  body ready := serveRequest_obeys ready
  answers := by
    intro log h h' c ev shared done
    obtain ⟨a, r⟩ := ev
    cases a with
    | connect endpoint =>
      cases r with
      | none => exact trivial
      | some conn =>
        obtain ⟨rfl, -⟩ := Option.ite_none_right_eq_some.1 done
        have below := shared.conns c
        refine ⟨fun mem => ?_, fun mem => ?_, fun entry mem same => ?_⟩
        · exact Nat.lt_irrefl _ (below.upstream _ mem)
        · exact Nat.lt_irrefl _ (below.saved _ mem)
        · exact Nat.lt_irrefl _ (same ▸ below.accepted entry mem)
    | _ => exact trivial
  spawn shared := shared.spawn
  act shared live shows done := shared.act live shows done
  stop shared := shared.stop
  outer := by
    intro log h h' x shared done
    obtain rfl := Option.some.inj done
    exact shared.cancel

/-! ## What every run shows -/

structure Confined (decode : String → Option Bytes) (setup : Setup) (log : Log) : Prop where
  /-- Only identity listings, session bindings and signature requests are forwarded. -/
  forwards {past rest : Log} {c conn : Nat} {request : Bytes} :
    log = past ++ Entry.act c ⟨.send conn request, ()⟩ :: rest → Forwardable request
  /-- A signature is for a key in the last identity list that the client got. -/
  offered {past rest : Log} {c : Nat} {response : Bytes} :
    log = past ++ Entry.act c ⟨.write response, ()⟩ :: rest → response.head? = some SIGN_RESPONSE →
    ∃ request key keys, (view (history c past)).requests.getLast? = some request ∧
      signKey request = some key ∧ (view (history c past)).identityList = some keys ∧ key ∈ keys
  /-- A saved key signs only if no user's agent has listed it to this client, in a list that the proxy
      accepted, and only over a connection that accepted all session bindings of the client. -/
  saved {past rest : Log} {c conn : Nat} {request : Bytes} :
    log = past ++ Entry.act c ⟨.send conn request, ()⟩ :: rest → request.head? = some SIGN_REQUEST →
    conn ∈ (view (history c past)).saved → SavedSign (view (history c past)) conn request
  /-- Each key is unlocked at most once. -/
  once {past rest : Log} {c token : Nat} {key : Bytes} :
    log = past ++ Entry.act c ⟨.startUnlock key token, ()⟩ :: rest → ¬ Started key past
  /-- The signature of a saved key has passed a check before the cancellation. -/
  released {past rest : Log} {c : Nat} {response : Bytes} :
    log = past ++ Entry.act c ⟨.write response, ()⟩ :: rest → response.head? = some SIGN_RESPONSE →
    ∃ conn request before after, past = before ++ Entry.act c ⟨.receive conn request, some response⟩ :: after ∧
      (conn ∉ (view (history c past)).saved → history c after = []) ∧
      (conn ∈ (view (history c past)).saved → ∃ checked tail,
        after = checked ++ Entry.act c ⟨.isCanceled, false⟩ :: tail ∧ history c checked = [] ∧
        history c tail = [] ∧ cancel ∉ before ∧ cancel ∉ checked)
  /-- An unlock was registered before the cancellation; one that starts after it has its token set. -/
  unlocks {past rest : Log} {c token : Nat} {key : Bytes} :
    log = past ++ Entry.act c ⟨.startUnlock key token, ()⟩ :: rest →
    (∃ registered tail, past = registered ++ Entry.act c ⟨.begin, some token⟩ :: tail ∧
      history c tail = [] ∧ cancel ∉ registered) ∧
    ∀ s, Attempt.run decode setup past = some s → cancel ∈ past → token ∈ s.shared.setTokens

lemma check_before_cancel {decode : String → Option Bytes} {setup : Setup} {past rest : Log} {c : Nat}
    {ev : Event Action Answer} {s : Pool.State Action Answer Attempt Client}
    (run : Attempt.run decode setup (past ++ Entry.act c ev :: rest) = some s)
    (check : ∀ h h', Attempt.perform h c ev = some h' → h.closed = false) : cancel ∉ past := by
  obtain ⟨mid, h', -, sound, -, done, -⟩ := (Attempt.verified decode setup).gives Shared.new run
  intro mem
  have closed := sound.shared.closed.1 mem
  rw [check _ _ done] at closed
  cases closed

/-- Whatever the clients request, the agents answer and whenever the attempt is canceled, saved keys
    stay confined. -/
theorem proxy_confined (decode : String → Option Bytes) (setup : Setup) (log : Log)
    (s : Pool.State Action Answer Attempt Client) (run : Attempt.run decode setup log = some s) :
    Confined decode setup log := by
  have gives : ∀ {past rest : Log} {c : Nat} {ev : Event Action Answer},
      log = past ++ Entry.act c ev :: rest → ∃ mid h', Attempt.run decode setup past = some mid ∧
        Shared past mid.shared ∧ Entry.stop c ∉ past ∧ mid.shared.perform c ev = some h' ∧
        Shows (history c past) ev := by
    intro past rest c ev whole
    rw [whole] at run
    obtain ⟨mid, h', before, sound, live, done, shows⟩ :=
      (Attempt.verified decode setup).gives Shared.new run
    exact ⟨mid, h', before, sound.shared, live, done, shows⟩
  constructor
  case forwards =>
    intro past rest c conn request whole
    obtain ⟨-, -, -, -, -, -, shows⟩ := gives whole
    exact shows.1
  case offered =>
    intro past rest c response whole sign
    obtain ⟨-, -, -, -, -, -, shows⟩ := gives whole
    obtain ⟨request, key, keys, last, wellFormed, list, mem, -⟩ := shows sign
    exact ⟨request, key, keys, last, wellFormed, list, mem⟩
  case saved =>
    intro past rest c conn request whole sign saved
    obtain ⟨-, -, -, -, -, -, shows⟩ := gives whole
    exact shows.2 saved sign
  case once =>
    intro past rest c token key whole
    obtain ⟨mid, -, -, shared, live, -, before, ends⟩ := gives whole
    have claimed : pending (history c past) = some key := by rw [ends, pending_begin]
    exact (shared.claimed live claimed).2.1
  case released =>
    intro past rest c response whole sign
    obtain ⟨mid, h', ran, -, -, -, shows⟩ := gives whole
    obtain ⟨request, -, -, -, -, -, -, conn, first, last, split, ofSaved, ofUpstream⟩ := shows sign
    obtain ⟨before, after, rfl, hbefore, hafter⟩ := split_of_history split
    refine ⟨conn, request, before, after, rfl, fun other => hafter.trans (ofUpstream other), ?_⟩
    intro mine
    have alone : history c after = [] ++ ⟨.isCanceled, false⟩ :: [] := hafter.trans (ofSaved mine)
    obtain ⟨checked, tail, rfl, hchecked, htail⟩ := split_of_history alone
    refine ⟨checked, tail, rfl, hchecked, htail, ?_⟩
    have whole' : before ++ Entry.act c ⟨.receive conn request, some response⟩ ::
        (checked ++ Entry.act c ⟨.isCanceled, false⟩ :: tail) =
        (before ++ Entry.act c ⟨.receive conn request, some response⟩ :: checked) ++
          .act c ⟨.isCanceled, false⟩ :: tail := by simp
    rw [whole'] at ran
    have early := check_before_cancel ran (by
      intro h h' done
      exact (Option.ite_none_right_eq_some.1 done).1.symm)
    simp only [List.mem_append, List.mem_cons, reduceCtorEq, false_or, not_or] at early
    exact early
  case unlocks =>
    intro past rest c token key whole
    obtain ⟨mid, h', ran, shared, live, -, before, ends⟩ := gives whole
    rw [List.append_cons] at ends
    obtain ⟨registered, tail, hpast, -, htail⟩ := split_of_history ends
    refine ⟨⟨registered, tail, hpast, htail, ?_⟩, ?_⟩
    · rw [hpast] at ran
      apply check_before_cancel ran
      intro h h' done
      exact Bool.eq_false_iff.2 (Option.ite_none_right_eq_some.1 done).1.1
    · intro s same canceled
      obtain rfl := Option.some.inj (ran.symm.trans same)
      have begun : beginning (history c past) = some token := by
        rw [ends, beginning, List.reverse_append]
        rfl
      exact (shared.begun live begun).2.2 (shared.closed.1 canceled)

/-! ## A run with one saved key -/

namespace Demo

def decode (field : String) : Option Bytes :=
  if field = "AAAAAWE=" then some [0, 0, 0, 1, 97] else none

def key : Bytes := [0, 0, 0, 1, 97]

def setup : Setup where
  registry := some [{ identityId := "id", path := [47, 107], publicKey := "a AAAAAWE=", blob := key }]
  existing := some "/agent"
  locally := none

def request : Bytes := SIGN_REQUEST :: toBeBytes 5 ++ key ++ toBeBytes 1 ++ [7] ++ [0, 0, 0, 0]

def list (comment : Bytes) : Bytes := (listAnswer [(key, comment)]).getD []
def oversized : Bytes :=
  IDENTITIES_ANSWER :: toBeBytes 1025 ++ (toBeBytes 5 ++ key ++ toBeBytes 0) ++ List.replicate 8192 0

/-- The client lists the identities; the user's agent answers with `reply`. -/
def listing (reply : Bytes) : Log :=
  [.spawn 0, .act 0 ⟨.connect (.upstream "/agent"), some 0⟩, .act 0 ⟨.read, [REQUEST_IDENTITIES]⟩,
    .act 0 ⟨.send 0 [REQUEST_IDENTITIES], ()⟩, .act 0 ⟨.receive 0 [REQUEST_IDENTITIES], some reply⟩,
    .act 0 ⟨.write (list [47, 107]), ()⟩]

def claiming : Log :=
  [.act 0 ⟨.read, request⟩, .act 0 ⟨.isCanceled, false⟩, .act 0 ⟨.lock, ()⟩,
    .act 0 ⟨.isCanceled, false⟩, .act 0 ⟨.claim key, none⟩, .act 0 ⟨.begin, some 0⟩]

def opening : Log :=
  [.act 0 ⟨.startUnlock key 0, ()⟩, .act 0 ⟨.awaitUnlock key 0, .ok ⟨"a AAAAAWE=", "/isolated"⟩⟩,
    .act 0 ⟨.tokenSet 0, false⟩, .act 0 ⟨.clearFallback "id", ()⟩,
    .act 0 ⟨.store key ⟨"a AAAAAWE=", "/isolated"⟩, ()⟩, .act 0 ⟨.dropToken 0, ()⟩,
    .act 0 ⟨.unlock, ()⟩, .act 0 ⟨.connect (.unlocked "/isolated"), some 1⟩,
    .act 0 ⟨.send 1 [REQUEST_IDENTITIES], ()⟩,
    .act 0 ⟨.receive 1 [REQUEST_IDENTITIES], some (list [])⟩, .act 0 ⟨.isCanceled, false⟩]

def signing : Log :=
  [.act 0 ⟨.send 1 request, ()⟩, .act 0 ⟨.receive 1 request, some [SIGN_RESPONSE]⟩,
    .act 0 ⟨.isCanceled, false⟩]

def writing : Entry Action Answer Unit := .act 0 ⟨.write [SIGN_RESPONSE], ()⟩

def signed : Log :=
  listing [IDENTITIES_ANSWER, 0, 0, 0, 0] ++ claiming ++ opening ++ signing ++ [writing]

end Demo

/-- The confinement of a run in which a saved key signs. -/
theorem proxy_confined_signed : ∃ s, Attempt.run Demo.decode Demo.setup Demo.signed = some s ∧
    Confined Demo.decode Demo.setup Demo.signed := by
  have run : (Attempt.run Demo.decode Demo.setup Demo.signed).isSome = true := by decide +kernel
  obtain ⟨s, ran⟩ := Option.isSome_iff_exists.1 run
  exact ⟨s, ran, proxy_confined Demo.decode Demo.setup Demo.signed s ran⟩

def offeredKeys (t : History) : List Bytes :=
  t.flatMap fun
    | ⟨.receive conn request, some reply⟩ =>
      if request = [REQUEST_IDENTITIES] ∧ conn ∈ (view t).upstream then
        ((parseIdentitiesUpTo (2 ^ 32) reply).getD []).map Prod.fst
      else []
    | _ => []

/-- A key that a user's agent lists among more than `MAX_KEYS` keys is signed with the saved identity;
    a signature of a saved key is released after the cancellation if its last check came before; and
    an unlock that was registered before the cancellation starts after it. -/
theorem proxy_confined_limits :
    (¬ ∀ decode setup past c conn request key rest s,
      Attempt.run decode setup (past ++ Entry.act c ⟨.send conn request, ()⟩ :: rest) = some s →
      conn ∈ (view (history c past)).saved → request.head? = some SIGN_REQUEST →
      signKey request = some key → key ∉ offeredKeys (history c past)) ∧
    (¬ ∀ decode setup past c conn request response rest s,
      Attempt.run decode setup (past ++ Entry.act c ⟨.write response, ()⟩ :: rest) = some s →
      response.head? = some SIGN_RESPONSE → conn ∈ (view (history c past)).saved →
      .act c ⟨.receive conn request, some response⟩ ∈ past → cancel ∉ past) ∧
    (¬ ∀ decode setup past c key token rest s,
      Attempt.run decode setup (past ++ Entry.act c ⟨.startUnlock key token, ()⟩ :: rest) = some s →
      cancel ∉ past) := by
  refine ⟨fun claim => ?_, fun claim => ?_, fun claim => ?_⟩
  · have run : (Attempt.run Demo.decode Demo.setup (Demo.listing Demo.oversized ++ Demo.claiming ++
        Demo.opening ++ Demo.signing ++ [Demo.writing])).isSome = true := by decide +kernel
    obtain ⟨s, ran⟩ := Option.isSome_iff_exists.1 run
    rw [List.append_assoc, Demo.signing, List.cons_append] at ran
    refine claim _ _ _ _ _ _ Demo.key _ s ran ?_ rfl ?_ ?_
    · decide +kernel
    · decide +kernel
    · decide +kernel
  · have run : (Attempt.run Demo.decode Demo.setup (Demo.listing [IDENTITIES_ANSWER, 0, 0, 0, 0] ++
        Demo.claiming ++ Demo.opening ++ Demo.signing ++ [cancel] ++ [Demo.writing])).isSome = true := by
      decide +kernel
    obtain ⟨s, ran⟩ := Option.isSome_iff_exists.1 run
    refine claim _ _ _ _ 1 Demo.request _ _ s ran rfl ?_ ?_ ?_
    · decide +kernel
    · simp [Demo.signing]
    · simp
  · have run : (Attempt.run Demo.decode Demo.setup (Demo.listing [IDENTITIES_ANSWER, 0, 0, 0, 0] ++
        Demo.claiming ++ [cancel] ++ [Entry.act 0 ⟨.startUnlock Demo.key 0, ()⟩])).isSome = true := by
      decide +kernel
    obtain ⟨s, ran⟩ := Option.isSome_iff_exists.1 run
    refine claim _ _ _ _ _ _ _ s ran ?_
    simp

end Ctl.Identity
