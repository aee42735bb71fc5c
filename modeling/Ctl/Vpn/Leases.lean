import Ctl.Base.Guards
import Ctl.Base.System
import Ctl.Vpn.Registry

/-!
# The leases and the replies of the VPN registry

In every run of the registry, an activity (a provider start, and then its lease) is held by the entry
that has called for it until it ends, so none is dropped and no two have one identity; and every
reply waits in one place until it is sent, once. `Inv` states this with the replies in hand that an
operation still has to send, and each operation takes its own reply out of the hand.
-/

namespace Ctl.Vpn
open Base

namespace Entry

def activity (entry : Entry) : Option Nat :=
  match entry.phase with
  | .preparing _ => none
  | .starting activity => some activity
  | .connected lease => some lease
  | .stopping (.start activity) => some activity
  | .stopping (.lease activity) => some activity
  | .stopping (.forget _) => none

def waiting (entry : Entry) : List Nat :=
  match entry.phase with
  | .stopping (.forget reply) => reply :: entry.replies
  | _ => entry.replies

def Stops (entry : Entry) : Prop := ∃ cleanup, entry.phase = .stopping cleanup

structure Wellformed (id : String) (entry : Entry) : Prop where
  keyed : ∀ identity ∈ entry.identity, ∀ connectionId ∈ identity.connectionId, connectionId = id
  prepared : entry.identity = none → ∃ path, entry.phase = .preparing path
  preparing : ∀ path, entry.phase = .preparing path → entry.identity = none
  cancellable : ∀ activity, entry.phase = .starting activity → entry.cancellation = true
  settled : ∀ lease, entry.phase = .connected lease → entry.replies = []

lemma mem_waiting {entry : Entry} {reply : Nat} (mem : reply ∈ entry.replies) : reply ∈ entry.waiting := by
  rw [waiting]
  split
  case h_1 => exact List.mem_cons_of_mem _ mem
  case h_2 => exact mem

end Entry

abbrev World.Has (w : World) (id : String) (entry : Entry) : Prop := w.entries[id]? = some entry

def World.Gone (w : World) (serial : Nat) : Prop :=
  ∀ id entry, w.Has id entry → entry.serial ≠ serial

def World.waiting (w : World) (reply : Nat) : Nat :=
  OrdMap.total w.entries fun entry => entry.waiting.count reply

def World.answers (w : World) (reply : Nat) : Nat := (w.sent.map Prod.fst).count reply

def World.Holds (w : World) (number : Nat) (activity : Activity) : Prop :=
  ∃ id entry, w.Has id entry ∧ entry.activity = some number ∧
    entry.identity = some activity.identity ∧ entry.serial = activity.serial

/-- The invariant of the registry during an operation with replies in hand. -/
structure Inv (hand : List Nat) (w : World) : Prop where
  size : w.entries.size ≤ maxConnections
  wellformed : ∀ id entry, w.Has id entry → entry.Wellformed id
  identities : ∀ id id' entry entry' identity, w.Has id entry →
    w.Has id' entry' → entry.identity = some identity →
    entry'.identity = some identity → id = id'
  serials : ∀ id id' entry entry', w.Has id entry → w.Has id' entry' →
    entry.serial = entry'.serial → id = id'
  bounded : ∀ id entry, w.Has id entry → entry.serial < w.nextSerial
  held : ∀ number activity, w.activities[number]? = some activity → w.Holds number activity
  counted : ∀ reply, w.waiting reply + w.answers reply + hand.count reply
    = if reply < w.requests then 1 else 0
  stops : ∀ reply serial, (reply, serial) ∈ w.stops → reply < w.requests ∧ serial < w.nextSerial
  waits : ∀ reply serial, (reply, serial) ∈ w.stops → ∀ id entry, w.Has id entry →
    reply ∈ entry.replies → entry.serial = serial ∧ entry.Stops
  answered : ∀ reply serial, (reply, serial) ∈ w.stops →
    ∀ status, (reply, .status (.ok status)) ∈ w.sent → w.Gone serial
  closed : w.closing = true → ∀ id entry, w.Has id entry → entry.Stops

section
variable {hand : List Nat} {w : World} {id : String} {entry : Entry} {reply : Nat} {replies : List Nat}
  {reported : Nat → VpnStatus} {providers : Providers}

lemma World.waiting_insert (w : World) (id : String) (entry : Entry) (reply : Nat) :
    (w.insert id entry).waiting reply
      = entry.waiting.count reply + (w.remove id).waiting reply := by
  rw [waiting, insert, OrdMap.total_insert]
  rfl

lemma World.waiting_of_found (found : w.Has id entry) (reply : Nat) :
    w.waiting reply = entry.waiting.count reply + (w.remove id).waiting reply := by
  rw [waiting, OrdMap.total_of_found found]
  rfl

lemma World.answers_send (w : World) (reply reply' : Nat) (answer : Answer) :
    (w.send reply answer).answers reply' = w.answers reply' + [reply].count reply' := by
  rw [answers, send, List.map_append, List.count_append]
  rfl

lemma count_hand (reply : Nat) (hand : List Nat) (reply' : Nat) :
    (reply :: hand).count reply' = [reply].count reply' + hand.count reply' := by
  rw [← List.count_append]
  rfl

lemma Inv.send (h : Inv (reply :: hand) w) (answer : Answer)
    (gone : ∀ serial, (reply, serial) ∈ w.stops → ∀ status, answer = .status (.ok status) →
      w.Gone serial) : Inv hand (w.send reply answer) := by
  refine ⟨h.size, h.wellformed, h.identities, h.serials, h.bounded, h.held, ?_, h.stops, h.waits, ?_,
    h.closed⟩
  · intro reply'
    have counted := h.counted reply'
    rw [count_hand] at counted
    rw [World.answers_send, ← Nat.add_assoc]
    show _ = if reply' < w.requests then 1 else 0
    rw [← counted]
    have same : (w.send reply answer).waiting reply' = w.waiting reply' := rfl
    omega
  · intro reply' serial stop status sent
    cases List.mem_append.1 sent with
    | inl before => exact h.answered reply' serial stop status before
    | inr new =>
      obtain ⟨rfl, eq⟩ := Prod.mk.inj (List.mem_singleton.1 new)
      exact gone serial stop status eq.symm

lemma Inv.answer {result : Except String VpnStatus} {w : World} (h : Inv (replies ++ hand) w)
    (gone : ∀ reply ∈ replies, ∀ serial, (reply, serial) ∈ w.stops → ∀ status, result = .ok status →
      w.Gone serial) : Inv hand (w.answer replies result) := by
  induction replies generalizing w with
  | nil =>
    have same : w.answer [] result = w := by rw [World.answer, List.map_nil, List.append_nil]
    rw [same]
    exact h
  | cons reply replies ih =>
    have step : w.answer (reply :: replies) result
        = (w.send reply (.status result)).answer replies result := by
      simp only [World.answer, World.send, List.map_cons, List.append_assoc, List.singleton_append]
    rw [step]
    apply ih
    · apply h.send
      intro serial stop status eq
      exact gone reply List.mem_cons_self serial stop status (Answer.status.inj eq)
    · exact fun reply' mem => gone reply' (List.mem_cons_of_mem _ mem)

lemma Inv.refuse (h : Inv (replies ++ hand) w) (error : String) : Inv hand (w.answer replies (.error error)) := by
  apply h.answer
  intro _ _ _ _ _ eq
  cases eq

lemma Inv.put {hand' : List Nat} (h : Inv hand w) {activities : OrdMap Nat Activity} {nextActivity nextSerial : Nat}
    (size : (w.entries.insert id entry).size ≤ maxConnections) (wellformed : entry.Wellformed id)
    (identities : ∀ key other, key ≠ id → w.Has key other →
      ∀ identity, entry.identity = some identity → other.identity ≠ some identity)
    (serials : ∀ key other, key ≠ id → w.Has key other → other.serial ≠ entry.serial)
    (grows : w.nextSerial ≤ nextSerial) (bounded : entry.serial < nextSerial)
    (held : ∀ number activity, activities[number]? = some activity →
      (w.insert id entry).Holds number activity)
    (counted : ∀ reply, entry.waiting.count reply + (w.remove id).waiting reply + hand'.count reply
      = w.waiting reply + hand.count reply)
    (waits : ∀ reply serial, (reply, serial) ∈ w.stops → reply ∈ entry.replies →
      entry.serial = serial ∧ entry.Stops)
    (answered : ∀ reply serial, (reply, serial) ∈ w.stops → entry.serial = serial →
      ∃ key other, w.Has key other ∧ other.serial = serial) (closed : w.closing = true → entry.Stops) :
    Inv hand' { w.insert id entry with activities, nextActivity, nextSerial } := by
  have found : ∀ {key : String} {other : Entry}, (w.entries.insert id entry)[key]? = some other →
      key = id ∧ other = entry ∨ key ≠ id ∧ w.Has key other := by
    intro key other found
    rw [OrdMap.get_insert] at found
    split at found
    case isTrue eq => exact .inl ⟨eq.symm, (Option.some.inj found).symm⟩
    case isFalse ne => exact .inr ⟨fun eq => ne eq.symm, found⟩
  refine ⟨size, ?_, ?_, ?_, ?_, held, ?_, ?_, ?_, ?_, ?_⟩
  · intro key other there
    cases found there with
    | inl new =>
      obtain ⟨rfl, rfl⟩ := new
      exact wellformed
    | inr old => exact h.wellformed key other old.2
  · intro key key' other other' identity there there' eq eq'
    cases found there with
    | inl new =>
      obtain ⟨rfl, rfl⟩ := new
      cases found there' with
      | inl new' => exact new'.1.symm
      | inr old' => exact absurd eq' (identities key' other' old'.1 old'.2 identity eq)
    | inr old =>
      cases found there' with
      | inl new' =>
        obtain ⟨rfl, rfl⟩ := new'
        exact absurd eq (identities key other old.1 old.2 identity eq')
      | inr old' => exact h.identities key key' other other' identity old.2 old'.2 eq eq'
  · intro key key' other other' there there' eq
    cases found there with
    | inl new =>
      obtain ⟨rfl, rfl⟩ := new
      cases found there' with
      | inl new' => exact new'.1.symm
      | inr old' => exact absurd eq.symm (serials key' other' old'.1 old'.2)
    | inr old =>
      cases found there' with
      | inl new' =>
        obtain ⟨rfl, rfl⟩ := new'
        exact absurd eq (serials key other old.1 old.2)
      | inr old' => exact h.serials key key' other other' old.2 old'.2 eq
  · intro key other there
    cases found there with
    | inl new =>
      obtain ⟨rfl, rfl⟩ := new
      exact bounded
    | inr old => exact Nat.lt_of_lt_of_le (h.bounded key other old.2) grows
  · intro reply
    have before := h.counted reply
    have now := counted reply
    show (w.insert id entry).waiting reply + w.answers reply + _ = if reply < w.requests then 1 else 0
    rw [World.waiting_insert, ← before]
    omega
  · intro reply serial stop
    exact ⟨(h.stops reply serial stop).1, Nat.lt_of_lt_of_le (h.stops reply serial stop).2 grows⟩
  · intro reply serial stop key other there mem
    cases found there with
    | inl new =>
      obtain ⟨rfl, rfl⟩ := new
      exact waits reply serial stop mem
    | inr old => exact h.waits reply serial stop key other old.2 mem
  · intro reply serial stop status sent key other there eq
    have gone := h.answered reply serial stop status sent
    cases found there with
    | inl new =>
      obtain ⟨rfl, rfl⟩ := new
      obtain ⟨key', other', there', eq'⟩ := answered reply serial stop eq
      exact gone key' other' there' eq'
    | inr old => exact gone key other old.2 eq
  · intro closing key other there
    cases found there with
    | inl new =>
      obtain ⟨rfl, rfl⟩ := new
      exact closed closing
    | inr old => exact h.closed closing key other old.2

lemma Inv.update {hand' : List Nat} (h : Inv hand w) (found : w.Has id entry) (entry' : Entry)
    (wellformed : entry'.Wellformed id) (identity : entry'.identity = entry.identity)
    (serial : entry'.serial = entry.serial) (activity : entry'.activity = entry.activity)
    (counted : ∀ reply, entry'.waiting.count reply + hand'.count reply
      = entry.waiting.count reply + hand.count reply)
    (waits : ∀ reply serial, (reply, serial) ∈ w.stops → reply ∈ entry'.replies →
      entry'.serial = serial ∧ entry'.Stops) (closed : w.closing = true → entry'.Stops) :
    Inv hand' (w.insert id entry') := by
  have there : w.entries.contains id = true := by
    rw [Std.ExtTreeMap.contains_eq_isSome_getElem?, found]
    rfl
  apply h.put _ wellformed _ _ (Nat.le_refl _) _ _ _ waits _ closed
  · rw [Std.ExtTreeMap.size_insert, if_pos there]
    exact h.size
  · intro key other ne has id' eq eq'
    exact ne (h.identities key id other entry id' has found eq' (identity ▸ eq))
  · intro key other ne has eq
    exact ne (h.serials key id other entry has found (eq.trans serial))
  · rw [serial]
    exact h.bounded id entry found
  · intro number a alive
    obtain ⟨key, other, has, holds, identified, own⟩ := h.held number a alive
    by_cases eq : id = key
    · subst eq
      obtain rfl : entry = other := Option.some.inj (found.symm.trans has)
      refine ⟨id, entry', ?_, activity.trans holds, identity.trans identified, serial.trans own⟩
      exact (OrdMap.get_insert w.entries id id entry').trans (if_pos rfl)
    · refine ⟨key, other, ?_, holds, identified, own⟩
      exact ((OrdMap.get_insert w.entries id key entry').trans (if_neg eq)).trans has
  · intro reply
    have before := World.waiting_of_found found reply
    have now := counted reply
    omega
  · intro reply serial' _ eq
    exact ⟨id, entry, found, serial.symm.trans eq⟩

lemma Inv.create {hand' : List Nat} (h : Inv hand w) {id : String} {entry : Entry} {activities : OrdMap Nat Activity}
    {nextActivity : Nat} (fresh : w.entries[id]? = none) (room : ¬ maxConnections ≤ w.entries.size)
    (wellformed : entry.Wellformed id)
    (identities : ∀ key other, w.Has key other →
      ∀ identity, entry.identity = some identity → other.identity ≠ some identity)
    (serial : entry.serial = w.nextSerial)
    (held : ∀ number activity, activities[number]? = some activity →
      w.activities[number]? = some activity ∨
      entry.activity = some number ∧ entry.identity = some activity.identity ∧
        entry.serial = activity.serial)
    (counted : ∀ reply, entry.waiting.count reply + hand'.count reply = hand.count reply)
    (waits : ∀ reply ∈ entry.replies, ∀ serial, (reply, serial) ∉ w.stops) (opened : w.closing = false) :
    Inv hand' { w.insert id entry with
      activities, nextActivity, nextSerial := w.nextSerial + 1 } := by
  apply h.put _ wellformed _ _ (Nat.le_succ _) _ _ _ _ _ _
  · rw [Std.ExtTreeMap.size_insert]
    split
    case isTrue => exact h.size
    case isFalse =>
      exact Nat.lt_of_not_le room
  · exact fun key other _ has => identities key other has
  · intro key other _ has
    rw [serial]
    exact Nat.ne_of_lt (h.bounded key other has)
  · rw [serial]
    exact Nat.lt_succ_self _
  · intro number activity alive
    cases held number activity alive with
    | inl old =>
      obtain ⟨key, other, has, rest⟩ := h.held number activity old
      refine ⟨key, other, ?_, rest⟩
      apply ((OrdMap.get_insert w.entries id key entry).trans (if_neg _)).trans has
      rintro rfl
      cases fresh.symm.trans has
    | inr new =>
      exact ⟨id, entry, (OrdMap.get_insert w.entries id id entry).trans (if_pos rfl), new⟩
  · intro reply
    have same : w.remove id = w := by rw [World.remove, OrdMap.erase_of_none fresh]
    have now := counted reply
    rw [same]
    omega
  · exact fun reply serial stop mem => absurd stop (waits reply mem serial)
  · intro reply serial' stop eq
    exact absurd (eq.symm.trans serial) (Nat.ne_of_lt (h.stops reply serial' stop).2)
  · rw [opened]
    nofun

lemma Inv.removed (h : Inv hand w) (found : w.Has id entry) {activities : OrdMap Nat Activity}
    (ended : ∀ number activity, activities[number]? = some activity →
      w.activities[number]? = some activity ∧ entry.activity ≠ some number) :
    Inv (entry.waiting ++ hand) { w.remove id with activities } := by
  have kept : ∀ {key : String} {other : Entry}, (w.entries.erase id)[key]? = some other →
      id ≠ key ∧ w.Has key other := by
    intro key other has
    rw [OrdMap.get_erase] at has
    split at has
    case isTrue => cases has
    case isFalse ne => exact ⟨ne, has⟩
  refine ⟨?_, fun key other has => h.wellformed key other (kept has).2, ?_, ?_,
    fun key other has => h.bounded key other (kept has).2, ?_, ?_, h.stops, ?_, ?_, ?_⟩
  · show (w.entries.erase id).size ≤ maxConnections
    rw [Std.ExtTreeMap.size_erase]
    split
    case isTrue => exact Nat.le_trans (Nat.sub_le _ _) h.size
    case isFalse => exact h.size
  · intro key key' other other' identity has has'
    exact h.identities key key' other other' identity (kept has).2 (kept has').2
  · intro key key' other other' has has'
    exact h.serials key key' other other' (kept has).2 (kept has').2
  · intro number activity alive
    obtain ⟨before, free⟩ := ended number activity alive
    obtain ⟨key, other, has, holds, rest⟩ := h.held number activity before
    refine ⟨key, other, ?_, holds, rest⟩
    apply ((OrdMap.get_erase w.entries id key).trans (if_neg _)).trans has
    rintro rfl
    obtain rfl : entry = other := Option.some.inj (found.symm.trans has)
    exact free holds
  · intro reply
    have before := h.counted reply
    rw [World.waiting_of_found found] at before
    rw [List.count_append]
    show (w.remove id).waiting reply + w.answers reply + _ = if reply < w.requests then 1 else 0
    omega
  · exact fun reply serial stop key other has => h.waits reply serial stop key other (kept has).2
  · exact fun reply serial stop status sent key other has =>
      h.answered reply serial stop status sent key other (kept has).2
  · exact fun closing key other has => h.closed closing key other (kept has).2

lemma Inv.gone (h : Inv hand w) (found : w.Has id entry) : (w.remove id).Gone entry.serial := by
  intro key other has eq
  rw [World.Has, World.remove, OrdMap.get_erase] at has
  split at has
  case isTrue => cases has
  case isFalse ne => exact ne (h.serials key id other entry has found eq).symm

lemma World.has_insert (w : World) (id : String) (entry : Entry) : (w.insert id entry).Has id entry :=
  (OrdMap.get_insert w.entries id id entry).trans (if_pos rfl)

lemma World.insert_insert (w : World) (id : String) (entry entry' : Entry) :
    (w.insert id entry).insert id entry' = w.insert id entry' := by
  rw [insert, insert, insert, OrdMap.insert_of_insert]

lemma World.insert_remove (w : World) (id : String) (entry : Entry) :
    (w.remove id).insert id entry = w.insert id entry := by
  rw [insert, remove, OrdMap.insert_erase, insert]

lemma World.insert_of_has (has : w.Has id entry) : w.insert id entry = w := by
  rw [insert, OrdMap.insert_of_found has]

/-! ### The operations -/

lemma waiting_push (entry : Entry) (reply reply' : Nat) :
    ({ entry with replies := entry.replies ++ [reply] } : Entry).waiting.count reply'
      = entry.waiting.count reply' + [reply].count reply' := by
  rw [Entry.waiting, Entry.waiting]
  cases entry.phase with
  | stopping cleanup =>
    cases cleanup with
    | forget first =>
      show (first :: entry.replies ++ [reply]).count reply' = _
      exact List.count_append
    | start => exact List.count_append
    | lease => exact List.count_append
  | preparing => exact List.count_append
  | starting => exact List.count_append
  | connected => exact List.count_append

lemma Inv.pushReply (h : Inv (reply :: hand) (w.insert id entry)) (pending : ∀ lease, entry.phase ≠ .connected lease)
    (stop : ∀ serial, (reply, serial) ∈ w.stops → entry.serial = serial ∧ entry.Stops) :
    Inv hand ((pushReply w entry reply).2.insert id (pushReply w entry reply).1) := by
  have has := w.has_insert id entry
  have shape := h.wellformed id entry has
  rw [Vpn.pushReply]
  split
  case isTrue =>
    rw [← World.insert_insert w id entry]
    apply h.update has { entry with replies := entry.replies ++ [reply] } _ rfl rfl rfl
    · intro reply'
      rw [waiting_push, count_hand reply hand]
      omega
    · intro reply' serial stopping mem
      cases List.mem_append.1 mem with
      | inl old => exact h.waits reply' serial stopping id entry has old
      | inr new =>
        obtain rfl := List.mem_singleton.1 new
        exact stop serial stopping
    · exact fun closing => h.closed closing id entry has
    · exact ⟨shape.keyed, shape.prepared, shape.preparing, shape.cancellable,
        fun lease eq => absurd eq (pending lease)⟩
  case isFalse =>
    apply h.send
    intro serial _ status eq
    cases eq

lemma Inv.joinStart {w : World} (h : Inv (replies ++ hand) (w.insert id entry))
    (starts : ∀ reply ∈ replies, ∀ serial, (reply, serial) ∉ w.stops) :
    Inv hand ((joinStart reported id w entry replies).2.insert id
      (joinStart reported id w entry replies).1) := by
  induction replies generalizing w entry with
  | nil => exact h
  | cons reply replies ih =>
    have start := starts reply List.mem_cons_self
    have others : ∀ reply' ∈ replies, ∀ serial, (reply', serial) ∉ w.stops :=
      fun reply' mem => starts reply' (List.mem_cons_of_mem _ mem)
    have sends : ∀ answer, Inv (replies ++ hand) ((w.send reply answer).insert id entry) :=
      fun answer => h.send answer fun serial stop => absurd stop (start serial)
    have pushes : (∀ lease, entry.phase ≠ .connected lease) →
        Inv (replies ++ hand)
          ((Vpn.pushReply w entry reply).2.insert id (Vpn.pushReply w entry reply).1) :=
      fun pending => h.pushReply pending fun serial stop => absurd stop (start serial)
    have others' : ∀ reply' ∈ replies, ∀ serial,
        (reply', serial) ∉ (Vpn.pushReply w entry reply).2.stops := by
      rw [Vpn.pushReply]
      split
      case isTrue => exact others
      case isFalse => exact others
    rw [Vpn.joinStart]
    cases phase : entry.phase with
    | preparing =>
      rw [phase] at pushes
      exact ih (pushes nofun) others'
    | starting =>
      rw [phase] at pushes
      exact ih (pushes nofun) others'
    | connected => exact ih (sends _) others
    | stopping => exact ih (sends _) others

lemma Inv.sendStopped {reply : Option Nat} (h : Inv (reply.toList ++ hand) w)
    (gone : ∀ reply' ∈ reply, ∀ serial, (reply', serial) ∈ w.stops → w.Gone serial) :
    Inv hand (w.sendStopped reply) := by
  cases reply with
  | none => exact h
  | some reply => exact h.send _ fun serial stop _ _ => gone reply rfl serial stop

lemma Inv.pushSome {reply : Option Nat} (h : Inv (reply.toList ++ hand) (w.insert id entry)) (stopping : entry.Stops)
    (stop : ∀ reply' ∈ reply, ∀ serial, (reply', serial) ∈ w.stops → entry.serial = serial) :
    Inv hand ((pushSome w entry reply).2.insert id (pushSome w entry reply).1) := by
  cases reply with
  | none => exact h
  | some reply =>
    apply h.pushReply
    · obtain ⟨cleanup, eq⟩ := stopping
      rw [eq]
      nofun
    · exact fun serial mem => ⟨stop reply rfl serial mem, stopping⟩

lemma Inv.stopEntry {reply : Option Nat} (h : Inv (reply.toList ++ hand) w)
    (selects : ∀ reply' ∈ reply, ∀ serial, (reply', serial) ∈ w.stops →
      ∃ entry, w.Has id entry ∧ entry.serial = serial) : Inv hand (stopEntry w id reply) := by
  rw [Vpn.stopEntry]
  split
  case h_1 absent =>
    apply h.sendStopped
    intro reply' mem serial stop
    obtain ⟨entry, has, _⟩ := selects reply' mem serial stop
    cases absent.symm.trans has
  case h_2 entry has =>
    have shape := h.wellformed id entry has
    have selected : ∀ reply' ∈ reply, ∀ serial, (reply', serial) ∈ w.stops →
        entry.serial = serial := by
      intro reply' mem serial stop
      obtain ⟨entry', has', own⟩ := selects reply' mem serial stop
      rw [← own, Option.some.inj (has.symm.trans has')]
    have changes : ∀ cleanup, entry.phase = .stopping cleanup ∨
        (∃ lease, entry.phase = .connected lease ∧ cleanup = .lease lease) →
        Inv (reply.toList ++ hand) ((w.remove id).insert id
          { entry with phase := .stopping cleanup }) := by
      intro cleanup phase
      rw [World.insert_remove]
      apply h.update has { entry with phase := .stopping cleanup } _ rfl rfl
      · cases phase with
        | inl phase => rw [Entry.activity, Entry.activity, phase]
        | inr phase =>
          obtain ⟨lease, phase, rfl⟩ := phase
          rw [Entry.activity, Entry.activity, phase]
      · intro reply'
        cases phase with
        | inl phase => rw [Entry.waiting, Entry.waiting, phase]
        | inr phase =>
          obtain ⟨lease, phase, rfl⟩ := phase
          rw [Entry.waiting, Entry.waiting, phase]
      · intro reply' serial stop mem
        exact ⟨(h.waits reply' serial stop id entry has mem).1, cleanup, rfl⟩
      · exact fun _ => ⟨cleanup, rfl⟩
      · refine ⟨shape.keyed, fun eq => ?_, nofun, nofun, nofun⟩
        obtain ⟨path, preparing⟩ := shape.prepared eq
        cases phase with
        | inl phase => cases preparing.symm.trans phase
        | inr phase =>
          obtain ⟨lease, phase, _⟩ := phase
          cases preparing.symm.trans phase
    dsimp only
    split
    case h_1 lease phase =>
      exact (changes _ (.inr ⟨lease, phase, rfl⟩)).pushSome ⟨_, rfl⟩ selected
    case h_2 cleanup phase => exact (changes _ (.inl phase)).pushSome ⟨_, rfl⟩ selected
    case h_3 activity phase =>
      rw [if_pos (shape.cancellable activity phase)]
      have cancelled : Inv (entry.replies ++ (reply.toList ++ hand)) ((w.remove id).insert id
          { entry with
            cancellation := false, replies := [], phase := .stopping (.start activity) }) := by
        rw [World.insert_remove]
        apply h.update has { entry with
          cancellation := false, replies := [], phase := .stopping (.start activity) } _ rfl rfl
        · rw [Entry.activity, Entry.activity, phase]
        · intro reply'
          rw [Entry.waiting, Entry.waiting, phase, List.count_append, List.count_nil, Nat.zero_add]
        · nofun
        · exact fun _ => ⟨_, rfl⟩
        · refine ⟨shape.keyed, fun eq => ?_, nofun, nofun, nofun⟩
          obtain ⟨path, preparing⟩ := shape.prepared eq
          cases preparing.symm.trans phase
      have answered : Inv (reply.toList ++ hand)
          (((w.remove id).answer entry.replies (.error "VPN startup was cancelled")).insert id
            { entry with
              cancellation := false, replies := [], phase := .stopping (.start activity) }) :=
        cancelled.refuse _
      exact answered.pushSome ⟨_, rfl⟩ selected
    case h_4 path phase =>
      have free : entry.activity = none := by rw [Entry.activity, phase]
      have waiting : entry.waiting = entry.replies := by rw [Entry.waiting, phase]
      apply Inv.sendStopped
      · apply Inv.refuse
        rw [← waiting]
        exact h.removed has fun number activity alive => ⟨alive, by rw [free]; nofun⟩
      · intro reply' mem serial stop
        rw [← selected reply' mem serial stop]
        exact h.gone has

/-! ### Requests -/

lemma Inv.accept (h : Inv [] w) : Inv [w.requests] { w with requests := w.requests + 1 } := by
  refine ⟨h.size, h.wellformed, h.identities, h.serials, h.bounded, h.held, ?_, ?_, h.waits,
    h.answered, h.closed⟩
  · intro reply
    have counted := h.counted reply
    show w.waiting reply + w.answers reply + _ = if reply < w.requests + 1 then 1 else 0
    rw [List.count_nil, Nat.add_zero] at counted
    rw [counted, List.count_singleton]
    simp only [beq_iff_eq]
    split
    case isTrue lt => rw [if_neg (by omega), if_pos (by omega)]
    case isFalse =>
      split
      case isTrue => rw [if_pos (by omega)]
      case isFalse => rw [if_neg (by omega)]
  · intro reply serial stop
    exact ⟨Nat.lt_succ_of_lt (h.stops reply serial stop).1, (h.stops reply serial stop).2⟩

lemma Inv.inHand (h : Inv (reply :: hand) w) : reply < w.requests ∧ w.waiting reply = 0 ∧ w.answers reply = 0 := by
  have counted := h.counted reply
  rw [count_hand, List.count_singleton_self] at counted
  split at counted
  case isTrue lt => exact ⟨lt, by omega, by omega⟩
  case isFalse => omega

lemma Inv.select (h : Inv [reply] w) (has : w.Has id entry) :
    Inv [reply] { w with stops := (reply, entry.serial) :: w.stops } := by
  obtain ⟨lt, free, silent⟩ := h.inHand
  refine ⟨h.size, h.wellformed, h.identities, h.serials, h.bounded, h.held, h.counted, ?_, ?_, ?_,
    h.closed⟩
  · intro reply' serial stop
    cases List.mem_cons.1 stop with
    | inl new =>
      cases new
      exact ⟨lt, h.bounded id entry has⟩
    | inr old => exact h.stops reply' serial old
  · intro reply' serial stop key other there mem
    cases List.mem_cons.1 stop with
    | inl new =>
      cases new
      have pos : 0 < other.waiting.count reply :=
        List.count_pos_iff.2 (Entry.mem_waiting mem)
      have le : other.waiting.count reply ≤ w.waiting reply :=
        OrdMap.le_total there fun entry => entry.waiting.count reply
      omega
    | inr old => exact h.waits reply' serial old key other there mem
  · intro reply' serial stop status sent
    cases List.mem_cons.1 stop with
    | inl new =>
      cases new
      have pos : 0 < w.answers reply :=
        List.count_pos_iff.2 (List.mem_map.2 ⟨_, sent, rfl⟩)
      omega
    | inr old => exact h.answered reply' serial old status sent

lemma World.find_has {p : String → Entry → Bool} (found : w.find p = some (id, entry)) : w.Has id entry :=
  Std.ExtTreeMap.mem_toList_iff_getElem?_eq_some.1 (List.mem_of_find?_eq_some found)

lemma World.find_none {p : String → Entry → Bool} (absent : w.find p = none) (has : w.Has id entry) :
    p id entry = false := by
  have none := List.find?_eq_none.1 absent (id, entry)
    (Std.ExtTreeMap.mem_toList_iff_getElem?_eq_some.2 has)
  exact Bool.eq_false_iff.2 none

lemma Inv.join {reported : Nat → VpnStatus} {id : String} {entry : Entry} {reply : Nat}
    (h : Inv [reply] w) (has : w.Has id entry) (start : ∀ serial, (reply, serial) ∉ w.stops) :
    Inv [] ((Vpn.joinStart reported id w entry [reply]).2.insert id
      (Vpn.joinStart reported id w entry [reply]).1) := by
  apply Inv.joinStart
  · rw [World.insert_of_has has]
    exact h
  · intro reply' mem
    rw [List.mem_singleton.1 mem]
    exact start

lemma Inv.sendError (h : Inv (reply :: hand) w) (error : String) :
    Inv hand (w.send reply (.status (.error error))) := by
  apply h.send
  intro _ _ _ eq
  cases eq

lemma startPrepared_inv {prepared : Prepared} (h : Inv [reply] w)
    (identified : prepared.identity.connectionId = some id) (start : ∀ serial, (reply, serial) ∉ w.stops)
    (opened : w.closing = false) : Inv [] (startPrepared w reported prepared id reply) := by
  rw [startPrepared]
  split
  case h_1 entry has =>
    split
    case isTrue => exact h.join has start
    case isFalse => exact h.sendError _
  case h_2 absent =>
    split
    case isTrue => exact h.sendError _
    case isFalse room =>
      apply h.create absent room _ _ rfl _ _ _ opened
      · refine ⟨?_, nofun, nofun, fun _ _ => rfl, nofun⟩
        intro identity own connectionId eq
        have own : prepared.identity = identity := Option.some.inj own
        exact Option.some.inj (eq.symm.trans (own ▸ identified))
      · intro key other has identity own same
        have own : prepared.identity = identity := Option.some.inj own
        have keyed := (h.wellformed key other has).keyed identity same id (own ▸ identified)
        rw [← keyed] at has
        cases absent.symm.trans has
      · intro number activity alive
        rw [OrdMap.get_insert] at alive
        split at alive
        case isTrue eq =>
          cases alive
          exact .inr ⟨congrArg some eq, rfl, rfl⟩
        case isFalse => exact .inl alive
      · intro reply'
        rfl
      · intro reply' mem
        rw [List.mem_singleton.1 mem]
        exact start

lemma prepareConnection_identified {connection : VpnConnection} {prepared : Prepared}
    (h : prepareConnection providers connection = .ok prepared) :
    prepared.identity.connectionId = some connection.connectionId := by
  rw [prepareConnection] at h
  obtain ⟨config, _, h⟩ := bind_eq_ok.1 h
  obtain ⟨fingerprint, _, h⟩ := bind_eq_ok.1 h
  cases h
  rfl

lemma start_inv {uuid : String} {source : Source} (h : Inv [reply] w) (start : ∀ serial, (reply, serial) ∉ w.stops)
    (opened : w.closing = false) (fresh : w.entries["env-" ++ uuid]? = none) :
    Inv [] (Vpn.start providers w reported uuid source reply) := by
  cases source with
  | connection connection =>
    rw [Vpn.start]
    split
    case h_1 prepared ok =>
      exact startPrepared_inv h (prepareConnection_identified ok) start opened
    case h_2 error _ => exact h.sendError error
  | envFile path =>
    rw [Vpn.start]
    split
    case h_1 id entry found => exact h.join (World.find_has found) start
    case h_2 =>
      split
      case isTrue => exact h.sendError _
      case isFalse room =>
        apply h.create fresh room _ _ rfl _ _ _ opened
        · refine ⟨?_, fun _ => ⟨path, rfl⟩, fun _ _ => rfl, ?_, ?_⟩
          · intro identity own
            cases own
          · intro activity phase
            cases phase
          · intro lease phase
            cases phase
        · intro key other _ identity own
          cases own
        · exact fun number activity alive => .inl alive
        · intro reply'
          rfl
        · intro reply' mem
          rw [List.mem_singleton.1 mem]
          exact start

lemma stopSelected_inv (h : Inv [reply] w) (start : ∀ serial, (reply, serial) ∉ w.stops) :
    Inv [] (Vpn.stopEntry { w with
      stops := match w.entries[id]? with
        | some entry => (reply, entry.serial) :: w.stops
        | none => w.stops } id (some reply)) := by
  split
  case h_1 entry has =>
    apply (h.select has).stopEntry
    intro reply' mem serial stop
    obtain rfl : reply = reply' := Option.some.inj mem
    cases List.mem_cons.1 stop with
    | inl new =>
      cases new
      exact ⟨entry, has, rfl⟩
    | inr old => exact absurd old (start serial)
  case h_2 =>
    apply Inv.stopEntry h
    intro reply' mem serial stop
    obtain rfl : reply = reply' := Option.some.inj mem
    exact absurd stop (start serial)

lemma stop_inv {vpnId : Option String} (h : Inv [reply] w) (start : ∀ serial, (reply, serial) ∉ w.stops) :
    Inv [] (Vpn.stop w reported vpnId reply) := by
  cases vpnId with
  | some id => exact stopSelected_inv h start
  | none =>
    rw [Vpn.stop]
    dsimp only
    split
    case isTrue => exact h.sendError _
    case isFalse => exact stopSelected_inv h start

lemma forgetIdentity_inv {connectionId : String} (h : Inv [reply] w) (opened : w.closing = false) :
    Inv [] (forgetIdentity w connectionId reply) := by
  have refuses : ∀ error, Inv [] (w.send reply (.forgotten (.error error))) := by
    intro error
    apply h.send
    intro _ _ _ eq
    cases eq
  rw [forgetIdentity]
  split
  case isTrue => exact refuses _
  case isFalse absent =>
    split
    case isTrue => exact refuses _
    case isFalse room =>
      have fresh : w.entries[connectionId]? = none :=
        Std.ExtTreeMap.getElem?_eq_none absent
      apply h.create fresh room _ _ rfl _ _ _ opened
      · refine ⟨?_, nofun, nofun, nofun, nofun⟩
        intro identity own connectionId' eq
        have own : Identity.cleanup connectionId = identity := Option.some.inj own
        rw [← own] at eq
        exact (Option.some.inj eq).symm
      · intro key other has identity own same
        have own : Identity.cleanup connectionId = identity := Option.some.inj own
        have keyed := (h.wellformed key other has).keyed identity same connectionId (own ▸ rfl)
        rw [← keyed] at has
        cases fresh.symm.trans has
      · exact fun number activity alive => .inl alive
      · intro reply'
        rfl
      · nofun

lemma serve_inv {request : Request} (h : Inv [] w) (opened : w.closing = false) (fresh : request.isFresh w = true) :
    Inv [] (serve providers w reported request) := by
  have start : ∀ serial, (w.requests, serial) ∉ w.stops := fun serial stop =>
    absurd (h.stops _ serial stop).1 (Nat.lt_irrefl _)
  cases request with
  | start source uuid =>
    apply start_inv h.accept start opened
    exact Std.ExtTreeMap.getElem?_eq_none (of_decide_eq_true fresh)
  | stop vpnId => exact stop_inv h.accept start
  | list =>
    apply h.accept.send
    intro _ _ _ eq
    cases eq
  | forget connectionId => exact forgetIdentity_inv h.accept opened

/-! ### Events -/

lemma Inv.dropped (h : Inv [] w) (has : w.Has id entry) (free : entry.activity = none) :
    Inv entry.waiting (w.remove id) := by
  rw [← List.append_nil entry.waiting]
  exact h.removed has fun number activity alive => ⟨alive, by rw [free]; nofun⟩

lemma Inv.ended (h : Inv [] w) {activity : Nat} (has : w.Has id entry) (holds : entry.activity = some activity) :
    Inv entry.waiting ((w.ended activity).remove id) := by
  rw [← List.append_nil entry.waiting]
  apply h.removed has
  intro number alive ended
  have ended : (w.activities.erase activity)[number]? = some alive := ended
  rw [OrdMap.get_erase] at ended
  split at ended
  case isTrue => cases ended
  case isFalse ne =>
    refine ⟨ended, fun eq => ne ?_⟩
    exact Option.some.inj (holds.symm.trans eq)

lemma Inv.starts (h : Inv hand w) (has : w.Has id entry) (going : ¬ entry.Stops) :
    ∀ reply ∈ entry.replies, ∀ serial, (reply, serial) ∉ w.stops := fun reply mem serial stop =>
  going (h.waits reply serial stop id entry has mem).2

lemma Inv.prepared {path : String} {identity : Identity} {envPaths : List String} {metadata : Metadata}
    {provider : VpnProvider} (h : Inv [] w) (has : w.Has id entry) (phase : entry.phase = .preparing path)
    (anonymous : identity.connectionId = none)
    (unique : ∀ key other, (w.remove id).Has key other → other.identity ≠ some identity) :
    Inv [] (((w.remove id).launch identity entry.serial).2.insert id { entry with
      envPaths
      identity := some identity
      metadata
      provider
      cancellation := true
      phase := .starting w.nextActivity }) := by
  have going : ¬ entry.Stops := by
    rintro ⟨cleanup, eq⟩
    cases phase.symm.trans eq
  have there : w.entries.contains id = true := by
    rw [Std.ExtTreeMap.contains_eq_isSome_getElem?, has]
    rfl
  have others : ∀ key other, key ≠ id → w.Has key other → (w.remove id).Has key other := by
    intro key other ne other_has
    exact ((OrdMap.get_erase w.entries id key).trans (if_neg fun eq => ne eq.symm)).trans other_has
  have same : ∀ entry', ((w.remove id).launch identity entry.serial).2.insert id entry'
      = { w.insert id entry' with
        activities := w.activities.insert w.nextActivity ⟨identity, entry.serial⟩
        nextActivity := w.nextActivity + 1
        nextSerial := w.nextSerial } := by
    intro entry'
    simp only [World.insert, World.launch, World.remove, OrdMap.insert_erase]
  rw [same]
  apply h.put _ _ _ _ (Nat.le_refl _) _ _ _ _ _ _
  · rw [Std.ExtTreeMap.size_insert, if_pos there]
    exact h.size
  · refine ⟨?_, nofun, nofun, fun _ _ => rfl, nofun⟩
    intro identity' own connectionId eq
    have own : identity = identity' := Option.some.inj own
    rw [← own, anonymous] at eq
    cases eq
  · intro key other ne other_has identity' own
    rw [← Option.some.inj own]
    exact unique key other (others key other ne other_has)
  · intro key other ne other_has eq
    exact ne (h.serials key id other entry other_has has eq)
  · exact h.bounded id entry has
  · intro number activity alive
    rw [OrdMap.get_insert] at alive
    split at alive
    case isTrue eq =>
      cases alive
      exact ⟨id, _, w.has_insert id _, congrArg some eq, rfl, rfl⟩
    case isFalse =>
      obtain ⟨key, other, other_has, holds, rest⟩ := h.held number activity alive
      refine ⟨key, other, ?_, holds, rest⟩
      apply ((OrdMap.get_insert w.entries id key _).trans (if_neg _)).trans other_has
      rintro rfl
      obtain rfl : entry = other := Option.some.inj (has.symm.trans other_has)
      rw [Entry.activity, phase] at holds
      cases holds
  · intro reply
    have waiting : entry.waiting = entry.replies := by rw [Entry.waiting, phase]
    rw [World.waiting_of_found has, waiting]
    rfl
  · exact fun reply serial stop mem => absurd stop (h.starts has going reply mem serial)
  · exact fun reply serial _ own => ⟨id, entry, has, own⟩
  · exact fun closing => absurd (h.closed closing id entry has) going

lemma preparedEvent_inv {path : String} {result : Except String (String × Metadata)} (h : Inv [] w)
    (has : w.Has id entry) (phase : entry.phase = .preparing path) :
    Inv [] (preparedEvent (w.remove id) reported id entry result) := by
  have free : entry.activity = none := by rw [Entry.activity, phase]
  have waiting : entry.waiting = entry.replies := by rw [Entry.waiting, phase]
  have dropped : Inv (entry.replies ++ []) (w.remove id) := by
    rw [List.append_nil, ← waiting]
    exact h.dropped has free
  cases result with
  | error error => exact dropped.refuse error
  | ok prepared =>
    obtain ⟨path', metadata⟩ := prepared
    rw [preparedEvent]
    dsimp only
    split
    case h_1 otherId other found =>
      apply Inv.joinStart
      · rw [World.insert_of_has (World.find_has found)]
        exact dropped
      · apply h.starts has
        rintro ⟨cleanup, eq⟩
        cases phase.symm.trans eq
    case h_2 absent =>
      apply h.prepared has phase rfl
      intro key other other_has same
      have differs := World.find_none absent other_has
      rw [same] at differs
      exact absurd differs (by simp [prepareFile])

lemma Inv.stopped {id : String} {entry : Entry} {w' : World} (h : Inv [] w) (has : w.Has id entry)
    (left : Inv (entry.replies ++ []) w') (stops : w'.stops = w.stops) (entries : w'.entries = (w.remove id).entries) :
    Inv [] (w'.answer entry.replies (.ok .default)) := by
  apply left.answer
  intro reply mem serial stop _ _ key other other_has
  rw [stops] at stop
  rw [← (h.waits reply serial stop id entry has mem).1]
  apply h.gone has key other
  rw [World.Has, ← entries]
  exact other_has

lemma event_inv {completion : Completion} {w' : World} (h : Inv [] w) (has : w.Has id entry)
    (eq : event w reported id entry entry.phase completion = some w') : Inv [] w' := by
  have shape := h.wellformed id entry has
  cases phase : entry.phase with
  | preparing path =>
    rw [phase] at eq
    cases completion with
    | prepared result =>
      cases eq
      exact preparedEvent_inv h has phase
    | started => cases eq
    | exited => cases eq
    | yielded => cases eq
    | stopped => cases eq
  | starting activity =>
    have holds : entry.activity = some activity := by rw [Entry.activity, phase]
    have waiting : entry.waiting = entry.replies := by rw [Entry.waiting, phase]
    have going : ¬ entry.Stops := by
      rintro ⟨cleanup, eq⟩
      cases phase.symm.trans eq
    rw [phase] at eq
    cases completion with
    | started result =>
      cases result with
      | error error =>
        cases eq
        have ended := h.ended has holds
        rw [waiting, ← List.append_nil entry.replies] at ended
        exact ended.refuse _
      | ok =>
        cases eq
        have connected : Inv (entry.replies ++ []) ((w.remove id).insert id { entry with
            cancellation := false, phase := .connected activity, replies := [] }) := by
          rw [World.insert_remove]
          apply h.update has { entry with
            cancellation := false, phase := .connected activity, replies := [] } _ rfl rfl
          · rw [holds]
            rfl
          · intro reply
            rw [waiting, List.append_nil]
            exact Nat.zero_add _
          · nofun
          · exact fun closing => absurd (h.closed closing id entry has) going
          · refine ⟨shape.keyed, fun none => ?_, nofun, nofun, fun _ _ => rfl⟩
            obtain ⟨path, preparing⟩ := shape.prepared none
            cases phase.symm.trans preparing
        apply connected.answer
        exact fun reply mem serial stop => absurd stop (h.starts has going reply mem serial)
    | prepared => cases eq
    | exited => cases eq
    | yielded => cases eq
    | stopped => cases eq
  | connected lease =>
    rw [phase] at eq
    cases completion with
    | exited =>
      cases eq
      rw [World.insert_remove, World.insert_of_has has]
      exact Inv.stopEntry h nofun
    | prepared => cases eq
    | started => cases eq
    | yielded => cases eq
    | stopped => cases eq
  | stopping cleanup =>
    rw [phase] at eq
    have ends : ∀ activity, entry.activity = some activity → entry.waiting = entry.replies →
        Inv [] (((w.ended activity).remove id).answer entry.replies (.ok .default)) := by
      intro activity holds waiting
      have ended := h.ended has holds
      rw [waiting, ← List.append_nil entry.replies] at ended
      exact h.stopped has ended rfl rfl
    cases cleanup with
    | start activity =>
      have holds : entry.activity = some activity := by rw [Entry.activity, phase]
      have waiting : entry.waiting = entry.replies := by rw [Entry.waiting, phase]
      cases completion with
      | stopped =>
        cases eq
        exact ends activity holds waiting
      | yielded =>
        cases eq
        apply h.update has { entry with phase := .stopping (.lease activity) } _ rfl rfl
        · rw [holds]
          rfl
        · intro reply
          rw [waiting]
          rfl
        · intro reply serial stop mem
          exact ⟨(h.waits reply serial stop id entry has mem).1, _, rfl⟩
        · exact fun _ => ⟨_, rfl⟩
        · refine ⟨shape.keyed, fun none => ?_, nofun, nofun, nofun⟩
          obtain ⟨path, preparing⟩ := shape.prepared none
          cases phase.symm.trans preparing
      | prepared => cases eq
      | started => cases eq
      | exited => cases eq
    | lease activity =>
      have holds : entry.activity = some activity := by rw [Entry.activity, phase]
      have waiting : entry.waiting = entry.replies := by rw [Entry.waiting, phase]
      cases completion with
      | stopped =>
        cases eq
        exact ends activity holds waiting
      | prepared => cases eq
      | started => cases eq
      | exited => cases eq
      | yielded => cases eq
    | forget reply =>
      have free : entry.activity = none := by rw [Entry.activity, phase]
      have waiting : entry.waiting = reply :: entry.replies := by rw [Entry.waiting, phase]
      cases completion with
      | stopped result =>
        cases eq
        have dropped := h.dropped has free
        rw [waiting, ← List.append_nil entry.replies] at dropped
        have told : Inv (entry.replies ++ []) ((w.send reply (.forgotten result)).remove id) := by
          apply dropped.send
          intro _ _ _ eq
          cases eq
        exact h.stopped has told rfl rfl
      | prepared => cases eq
      | started => cases eq
      | exited => cases eq
      | yielded => cases eq

/-! ### Shutdown -/

def World.StopsAt (w : World) (id : String) : Prop := ∀ entry, w.Has id entry → entry.Stops

lemma stopEntry_stopsAt {key : String} (before : w.StopsAt key ∨ key = id) : (stopEntry w id none).StopsAt key := by
  have inserted : ∀ entry', entry'.Stops → (w.insert id entry').StopsAt key := by
    intro entry' stops entry has
    rw [World.Has, World.insert, OrdMap.get_insert] at has
    split at has
    case isTrue =>
      rw [← Option.some.inj has]
      exact stops
    case isFalse ne =>
      cases before with
      | inl old => exact old entry has
      | inr eq => exact absurd eq.symm ne
  have removed : (w.remove id).StopsAt key := by
    intro entry has
    rw [World.Has, World.remove, OrdMap.get_erase] at has
    split at has
    case isTrue => cases has
    case isFalse ne =>
      cases before with
      | inl old => exact old entry has
      | inr eq => exact absurd eq.symm ne
  rw [stopEntry]
  split
  case h_1 absent =>
    intro entry has
    cases before with
    | inl old => exact old entry has
    | inr eq =>
      rw [eq] at has
      cases absent.symm.trans has
  case h_2 entry found =>
    dsimp only
    split
    case h_1 =>
      rw [pushSome, World.insert_remove]
      exact inserted _ ⟨_, rfl⟩
    case h_2 =>
      rw [pushSome, World.insert_remove]
      exact inserted _ ⟨_, rfl⟩
    case h_3 =>
      split
      case isTrue =>
        show ((w.remove id).insert id _).StopsAt key
        rw [World.insert_remove]
        exact inserted _ ⟨_, rfl⟩
      case isFalse => exact removed
    case h_4 => exact removed

lemma stopEntries_inv {ids : List String} {w : World} (h : Inv [] w) :
    Inv [] (ids.foldl (fun w id => stopEntry w id none) w) := by
  induction ids generalizing w with
  | nil => exact h
  | cons id ids ih => exact ih (Inv.stopEntry h nofun)

lemma stopEntries_stopsAt {ids : List String} {key : String} {w : World} (before : w.StopsAt key ∨ key ∈ ids) :
    (ids.foldl (fun w id => stopEntry w id none) w).StopsAt key := by
  induction ids generalizing w with
  | nil => exact before.resolve_right List.not_mem_nil
  | cons id ids ih =>
    apply ih
    cases before with
    | inl old => exact .inl (stopEntry_stopsAt (.inl old))
    | inr mem =>
      cases List.mem_cons.1 mem with
      | inl eq => exact .inl (stopEntry_stopsAt (.inr eq))
      | inr mem => exact .inr mem

lemma stopAll_inv (h : Inv [] w) : Inv [] { stopAll w with closing := true } := by
  have stopped : Inv [] (stopAll w) := stopEntries_inv h
  refine ⟨stopped.size, stopped.wellformed, stopped.identities, stopped.serials, stopped.bounded,
    stopped.held, stopped.counted, stopped.stops, stopped.waits, stopped.answered, fun _ id => ?_⟩
  apply stopEntries_stopsAt
  by_cases mem : id ∈ w.entries
  · exact .inr (Std.ExtTreeMap.mem_keys.2 mem)
  · refine .inl fun entry has => absurd ?_ mem
    rw [Std.ExtTreeMap.mem_iff_isSome_getElem?, has]
    rfl

end

variable {providers : Providers} {w w' : World}

lemma step_inv {action : Action} (h : Inv [] w) (eq : step providers w action = some w') : Inv [] w' := by
  cases action with
  | request reported request =>
    rw [step] at eq
    split at eq
    case isTrue enabled =>
      cases eq
      rw [Bool.and_eq_true, Bool.not_eq_true'] at enabled
      exact serve_inv h enabled.1 enabled.2
    case isFalse => cases eq
  | event reported id completion =>
    rw [step] at eq
    split at eq
    case h_1 entry has => exact event_inv h has eq
    case h_2 => cases eq
  | shutdown =>
    rw [step] at eq
    split at eq
    case isTrue => cases eq
    case isFalse =>
      cases eq
      exact stopAll_inv h

lemma initial_inv : Inv [] {} := by
  have empty : ∀ id entry, ¬ World.Has {} id entry := by
    intro id entry has
    cases Std.ExtTreeMap.getElem?_empty.symm.trans has
  refine ⟨Nat.zero_le _, ?_, ?_, ?_, ?_, ?_, ?_, ?_, ?_, ?_, ?_⟩
  · exact fun id entry has => absurd has (empty id entry)
  · exact fun id _ entry _ _ has => absurd has (empty id entry)
  · exact fun id _ entry _ has => absurd has (empty id entry)
  · exact fun id entry has => absurd has (empty id entry)
  · intro number activity alive
    cases Std.ExtTreeMap.getElem?_empty.symm.trans alive
  · intro reply
    have none : World.waiting {} reply = 0 := OrdMap.total_empty _
    rw [none]
    rfl
  · exact fun _ _ stop => absurd stop List.not_mem_nil
  · exact fun _ _ stop => absurd stop List.not_mem_nil
  · exact fun _ _ stop => absurd stop List.not_mem_nil
  · exact fun _ id entry has => absurd has (empty id entry)

lemma reachable_inv (run : Reachable (step providers) World.IsInitial w) : Inv [] w := by
  apply run.invariant (Inv []) _ fun _ _ _ => step_inv
  rintro _ rfl
  exact initial_inv

def Entry.remaining (entry : Entry) : Nat :=
  match entry.phase with
  | .stopping (.start _) => 2
  | _ => 1

def World.remaining (w : World) : Nat := OrdMap.total w.entries Entry.remaining

lemma closing_step {action : Action} (h : Inv [] w) (closing : w.closing = true)
    (eq : step providers w action = some w') : w'.closing = true ∧ w'.remaining + 1 ≤ w.remaining := by
  cases action with
  | request reported request =>
    rw [step, closing] at eq
    cases eq
  | shutdown =>
    rw [step, closing] at eq
    cases eq
  | event reported id completion =>
    rw [step] at eq
    split at eq
    case h_2 => cases eq
    case h_1 entry has =>
      obtain ⟨cleanup, phase⟩ := h.closed closing id entry has
      have remaining : w.remaining = entry.remaining + (w.remove id).remaining :=
        OrdMap.total_of_found has Entry.remaining
      have pos : 1 ≤ entry.remaining := by
        rw [Entry.remaining]
        split
        case h_1 => exact Nat.le_succ 1
        case h_2 => exact Nat.le_refl 1
      have removes : ∀ {w'' : World}, w''.closing = w.closing →
          w''.entries = (w.remove id).entries →
          w''.closing = true ∧ w''.remaining + 1 ≤ w.remaining := by
        intro w'' same entries
        refine ⟨same.trans closing, ?_⟩
        rw [World.remaining, entries]
        show (w.remove id).remaining + 1 ≤ w.remaining
        omega
      rw [phase] at eq
      cases cleanup with
      | start activity =>
        cases completion with
        | stopped =>
          cases eq
          exact removes rfl rfl
        | yielded =>
          cases eq
          refine ⟨closing, ?_⟩
          have two : entry.remaining = 2 := by rw [Entry.remaining, phase]
          rw [World.remaining, World.insert, OrdMap.total_insert]
          show 1 + (w.remove id).remaining + 1 ≤ w.remaining
          omega
        | prepared => cases eq
        | started => cases eq
        | exited => cases eq
      | lease activity =>
        cases completion with
        | stopped =>
          cases eq
          exact removes rfl rfl
        | prepared => cases eq
        | started => cases eq
        | exited => cases eq
        | yielded => cases eq
      | forget reply =>
        cases completion with
        | stopped =>
          cases eq
          exact removes rfl rfl
        | prepared => cases eq
        | started => cases eq
        | exited => cases eq
        | yielded => cases eq

lemma closing_exec {actions : List Action} (h : Inv [] w) (closing : w.closing = true)
    (run : exec (step providers) w actions = some w') :
    Inv [] w' ∧ w'.closing = true ∧ actions.length + w'.remaining ≤ w.remaining := by
  induction actions generalizing w with
  | nil =>
    obtain rfl : w = w' := Option.some.inj run
    exact ⟨h, closing, by rw [List.length_nil, Nat.zero_add]⟩
  | cons action actions ih =>
    rw [exec, List.foldlM_cons, Option.bind_eq_bind, Option.bind_eq_some_iff] at run
    obtain ⟨next, eq, rest⟩ := run
    obtain ⟨closing', less⟩ := closing_step h closing eq
    obtain ⟨inv, closed, le⟩ := ih (step_inv h eq) closing' rest
    refine ⟨inv, closed, ?_⟩
    rw [List.length_cons]
    omega

lemma closing_progress (providers : Providers) {id : String} {entry : Entry} (has : w.Has id entry)
    (stops : entry.Stops) : ∃ action w', step providers w action = some w' := by
  obtain ⟨cleanup, phase⟩ := stops
  refine ⟨.event (fun _ => .default) id (.stopped (.ok ())), ?_⟩
  rw [step]
  have found : w.entries[id]? = some entry := has
  rw [found]
  dsimp only
  rw [phase]
  cases cleanup with
  | start => exact ⟨_, rfl⟩
  | lease => exact ⟨_, rfl⟩
  | forget => exact ⟨_, rfl⟩

structure Sound (providers : Providers) (w : World) : Prop where
  capacity : w.entries.size ≤ 16
  distinct : ∀ id id' entry entry' identity, w.Has id entry → w.Has id' entry' →
    entry.identity = some identity → entry'.identity = some identity → id = id'
  /-- No two starts or leases are alive for one identity, or for one saved connection. -/
  single : ∀ (number number' : Nat) (activity activity' : Activity),
    w.activities[number]? = some activity → w.activities[number']? = some activity' →
    activity.identity = activity'.identity ∨
      (∃ id, activity.identity.connectionId = some id ∧
        activity'.identity.connectionId = some id) →
    number = number'
  /-- A reply waits in one place for something that is going on, or was sent once. -/
  replies : ∀ reply, w.waiting reply + w.answers reply = if reply < w.requests then 1 else 0
  pending : ∀ id entry lease, w.Has id entry → entry.phase = .connected lease → entry.waiting = []
  /-- Every start and every lease that is alive is held by its entry. -/
  held : ∀ number activity, w.activities[number]? = some activity → w.Holds number activity
  /-- A stop request that was answered with a status leaves nothing of the entry alive. -/
  stopped : ∀ reply serial status, (reply, serial) ∈ w.stops →
    (reply, .status (.ok status)) ∈ w.sent →
    ∀ (number : Nat) (activity : Activity), w.activities[number]? = some activity →
      activity.serial ≠ serial
  /-- `shutdown` handles finitely many events, and ends when there are no more entries. -/
  shutdown : w.closing = true → ∀ actions w', exec (step providers) w actions = some w' →
    actions.length ≤ 2 * w.entries.size ∧
    ((∀ action, step providers w' action = none) → w'.entries = ∅ ∧ w'.activities = ∅ ∧
      ∀ reply < w'.requests, w'.answers reply = 1)

/-- In every run, the registry has at most 16 entries and at most one start or lease for an identity;
    it loses no lease and no reply. -/
theorem registry_sound {providers : Providers} {w : World}
    (run : Reachable (step providers) World.IsInitial w) : Sound providers w := by
  have inv := reachable_inv run
  refine ⟨inv.size, inv.identities, ?_, inv.counted, ?_, inv.held, ?_, ?_⟩
  · intro number number' activity activity' alive alive' same
    obtain ⟨id, entry, has, holds, identified, _⟩ := inv.held number activity alive
    obtain ⟨id', entry', has', holds', identified', _⟩ := inv.held number' activity' alive'
    have eq : id = id' := by
      cases same with
      | inl same => exact inv.identities id id' entry entry' _ has has' identified (same ▸ identified')
      | inr same =>
        obtain ⟨connectionId, own, own'⟩ := same
        have keyed := (inv.wellformed id entry has).keyed _ identified connectionId own
        have keyed' := (inv.wellformed id' entry' has').keyed _ identified' connectionId own'
        exact keyed.symm.trans keyed'
    subst eq
    obtain rfl : entry = entry' := Option.some.inj (has.symm.trans has')
    exact Option.some.inj (holds.symm.trans holds')
  · intro id entry lease has phase
    rw [Entry.waiting, phase]
    exact (inv.wellformed id entry has).settled lease phase
  · intro reply serial status stop sent number activity alive own
    obtain ⟨id, entry, has, _, _, same⟩ := inv.held number activity alive
    exact inv.answered reply serial stop status sent id entry has (same.trans own)
  · intro closing actions w' run'
    obtain ⟨inv', closed, le⟩ := closing_exec inv closing run'
    have bound : w.remaining ≤ w.entries.size * 2 := by
      apply OrdMap.total_le
      intro entry
      rw [Entry.remaining]
      split
      case h_1 => exact Nat.le_refl 2
      case h_2 => exact Nat.le_succ 1
    refine ⟨by omega, fun ended => ?_⟩
    have empty : w'.entries = ∅ := by
      apply Std.ExtTreeMap.ext_getElem?
      intro id
      cases found : w'.entries[id]? with
      | none => rfl
      | some entry =>
        obtain ⟨action, next, eq⟩ :=
          closing_progress providers found (inv'.closed closed id entry found)
        cases (ended action).symm.trans eq
    have none : ∀ id entry, ¬ w'.Has id entry := by
      intro id entry has
      rw [World.Has, empty] at has
      cases has
    refine ⟨empty, ?_, ?_⟩
    · apply Std.ExtTreeMap.ext_getElem?
      intro number
      cases found : w'.activities[number]? with
      | none => rfl
      | some activity =>
        obtain ⟨id, entry, has, _⟩ := inv'.held number activity found
        exact absurd has (none id entry)
    · intro reply lt
      have counted := inv'.counted reply
      have free : w'.waiting reply = 0 := by
        rw [World.waiting, empty]
        exact OrdMap.total_empty _
      rw [if_pos lt, free, List.count_nil] at counted
      omega

def lenient : Providers where
  openconnect _ := .ok {}
  tailscale _ := .ok ()
  settingsKey connection := .ok connection.name

def reporting (lease : Nat) : VpnStatus := { vpnId := some (toString lease), state := .connected }

/-- Two starts, of which one is cancelled and yields a lease all the same; a stop by the ID that a lease
    reports; a shutdown. -/
def commute : List Action := [
  .request reporting (.start (.connection ⟨"home", "Home", .tailscale none false⟩) ""),
  .request reporting (.start (.envFile "vpn.env") "1"),
  .event reporting "env-1" (.prepared (.ok ("/etc/vpn.env", {}))),
  .event reporting "env-1" (.started (.ok ())),
  .request reporting (.stop (some "home")),
  .request reporting (.start (.connection ⟨"home", "Home", .tailscale none false⟩) ""),
  .event reporting "home" .yielded,
  .event reporting "home" (.stopped (.ok ())),
  .request reporting (.stop (some "1")),
  .request reporting (.forget "lab"),
  .shutdown,
  .event reporting "env-1" (.stopped (.ok ())),
  .event reporting "lab" (.stopped (.ok ()))]

theorem registry_sound_commute :
    ∃ w, exec (step lenient) {} commute = some w ∧ w.closing = true ∧ w.requests = 6 ∧
      Sound lenient w := by
  have done : (exec (step lenient) {} commute).any
      (fun w => w.closing && w.requests == 6) = true := by decide +kernel
  obtain ⟨w, run, done⟩ := (Option.any_eq_true _ _).1 done
  rw [Bool.and_eq_true, beq_iff_eq] at done
  have reachable : Reachable (step lenient) World.IsInitial w :=
    Reachable.exec (.start rfl) commute run
  exact ⟨w, run, done.1, done.2, registry_sound reachable⟩

end Ctl.Vpn
