import Ctl.Forward.Registry

/-!
# Ownership of port forwards

The listeners that exist are those of the records that have one. `Released id` is the assertion between
the cancellation of a listener and the record of its successor: there is no listener of `id`, whatever
its record says. Every operation but `configure` goes through states with `Inv` only, so it may be
dropped anywhere; `configure` may not be dropped while `Released` holds.
-/

namespace Ctl.Forward.Ports
open Ctl.Base

variable {Target : Type}

def World.Has (w : World Target) (target : Target) (forward : LocalPortForward) : Prop :=
  ∃ record, AList.lookup forward.forwardId w.records = some record ∧ record.listenerPresent = true ∧
    record.target = target ∧ record.status.forward = forward

/-- The listeners that exist are those of the records. -/
def World.Owned (w : World Target) : Prop :=
  ∀ (target : Target) (forward : LocalPortForward),
    (target, forward) ∈ w.listeners ↔ w.Has target forward

/-- Only listeners that exist are cancelled, and none is added for a paused target. -/
def Attempt.Sound (attempt : Attempt Target) : Prop :=
  if attempt.cancel then attempt.existed = true else attempt.paused = false

/-- What holds of the registry at all times. -/
structure Wellformed (w : World Target) : Prop where
  keyed : ∀ (id : String) (record : OwnedForward Target), AList.lookup id w.records = some record →
    record.status.forward.forwardId = id
  attempts : ∀ attempt ∈ w.attempts, attempt.Sound

/-- The invariant between operations. -/
structure Inv (w : World Target) : Prop where
  wellformed : Wellformed w
  owned : w.Owned

/-- There is no listener of `id`, and the others are owned. -/
structure Released (id : String) (w : World Target) : Prop where
  wellformed : Wellformed w
  owned : ∀ (target : Target) (forward : LocalPortForward),
    (target, forward) ∈ w.listeners ↔ forward.forwardId ≠ id ∧ w.Has target forward

def World.put (w : World Target) (id : String) (record : OwnedForward Target) : World Target :=
  { w with records := AList.insert id record w.records }

/-! ### Records and listeners -/

section
variable {w : World Target} {id : String} {record record' : OwnedForward Target}

lemma World.lookup_put (w : World Target) (id : String) (record : OwnedForward Target) (k : String) :
    AList.lookup k (w.put id record).records
      = if id = k then some record else AList.lookup k w.records :=
  Table.lookup_insert w.records id record k

lemma Wellformed.put (h : Wellformed w) (key : record.status.forward.forwardId = id) :
    Wellformed (w.put id record) where
  keyed := by
    intro k other found
    rw [World.lookup_put] at found
    split at found
    case isTrue eq =>
      obtain rfl := Option.some.inj found
      exact key.trans eq
    case isFalse => exact h.keyed k other found
  attempts := h.attempts

lemma World.has_put (found : AList.lookup id w.records = some record) (target : record'.target = record.target)
    (present : record'.listenerPresent = record.listenerPresent)
    (forward : record'.status.forward = record.status.forward) (t : Target) (f : LocalPortForward) :
    (w.put id record').Has t f ↔ w.Has t f := by
  unfold World.Has
  rw [World.lookup_put]
  split
  case isFalse => rfl
  case isTrue eq =>
    rw [← eq, found]
    constructor
    · rintro ⟨other, same, has⟩
      obtain rfl := Option.some.inj same
      rw [target, present, forward] at has
      exact ⟨record, rfl, has⟩
    · rintro ⟨other, same, has⟩
      obtain rfl := Option.some.inj same
      rw [← target, ← present, ← forward] at has
      exact ⟨record', rfl, has⟩

lemma Inv.put (h : Inv w) (found : AList.lookup id w.records = some record) (target : record'.target = record.target)
    (present : record'.listenerPresent = record.listenerPresent)
    (forward : record'.status.forward = record.status.forward) : Inv (w.put id record') where
  wellformed := by
    apply h.wellformed.put
    rw [forward]
    exact h.wellformed.keyed id record found
  owned := by
    intro t f
    rw [World.has_put found target present forward]
    exact h.owned t f

lemma Inv.released (h : Inv w)
    (absent : ∀ record, AList.lookup id w.records = some record → record.listenerPresent = false) :
    Released id w where
  wellformed := h.wellformed
  owned := by
    intro t f
    rw [h.owned t f, iff_and_self]
    rintro ⟨record, found, present, -⟩ rfl
    rw [absent record found] at present
    cases present

lemma Released.erase (h : Released id w) :
    Inv { w with records := AList.erase id w.records } where
  wellformed := by
    refine ⟨?_, h.wellformed.attempts⟩
    intro k record found
    rw [Table.lookup_erase] at found
    split at found
    case isTrue => cases found
    case isFalse => exact h.wellformed.keyed k record found
  owned := by
    intro t f
    rw [World.Has, Table.lookup_erase]
    have before := h.owned t f
    split
    case isTrue eq =>
      refine ⟨fun mem => absurd eq.symm (before.1 mem).1, ?_⟩
      rintro ⟨record, found, -⟩
      cases found
    case isFalse other =>
      show (t, f) ∈ w.listeners ↔ _
      rw [before]
      exact and_iff_right fun eq => other eq.symm

lemma Released.not_owned (h : Released id w) (found : AList.lookup id w.records = some record)
    (present : record.listenerPresent = true) : ¬ w.Owned := by
  intro owned
  have key := h.wellformed.keyed id record found
  have has : w.Has record.target record.status.forward :=
    ⟨record, by rw [key]; exact found, present, rfl, rfl⟩
  exact ((h.owned _ _).1 ((owned _ _).2 has)).1 key

end

/-! ### Await points and loops -/

section
variable {P : World Target → Prop} {E : World Target → Prop} {id : String} {record : OwnedForward Target}
  {f : String → OwnedForward Target → Operation Target Unit}

lemma perform_await {α : Type} (answer : Nat → Option α) (w : World Target) :
    perform (await answer) w = match answer w.asked with
      | some a => (.ok a, { w with asked := w.asked + 1 })
      | none => (.error .dropped, { w with asked := w.asked + 1 }) := by
  have passed : perform (await answer) w = perform (match answer w.asked with
      | some a => pure a
      | none => throw .dropped) { w with asked := w.asked + 1 } := rfl
  rw [passed]
  cases answer w.asked with
  | some a => rfl
  | none => rfl

lemma await_triple {α : Type} {answer : Nat → Option α} {Q : α → World Target → Prop}
    (answered : ∀ w a, P w → Q a { w with asked := w.asked + 1 })
    (dropped : ∀ w, P w → E { w with asked := w.asked + 1 }) : Triple P (await answer) Q E := by
  intro w p
  rw [perform_await]
  cases answer w.asked with
  | some a => exact answered w a p
  | none => exact dropped w p

lemma setRecord_triple {Q : Unit → World Target → Prop} (put : ∀ w, P w → Q () (w.put id record)) :
    Triple P (setRecord id record) Q E :=
  put

lemma visit_triple (visited : List String → World Target → Prop)
    (body : ∀ done id record, Triple
      (fun w => visited done w ∧ AList.lookup id w.records = some record) (f id record)
      (fun _ w => visited (id :: done) w) E)
    (skip : ∀ done id w, visited done w → AList.lookup id w.records = none → visited (id :: done) w)
    (order done : List String) :
    Triple (visited done) (visit f order) (fun _ w => visited (order.reverse ++ done) w) E := by
  induction order generalizing done with
  | nil => exact Triple.pure fun _ h => h
  | cons id order ih =>
    rw [List.reverse_cons, List.append_assoc]
    apply Triple.getEqBind
    intro w holds
    dsimp only
    cases found : AList.lookup id w.records with
    | none =>
      rintro _ rfl
      exact ih (id :: done) _ (skip done id _ holds found)
    | some record =>
      have rest : ∀ _ : Unit, Triple (visited (id :: done)) (visit f order)
          (fun _ w => visited (order.reverse ++ (id :: done)) w) E := fun _ => ih (id :: done)
      apply Triple.bind _ rest
      rintro _ rfl
      exact body done id record _ ⟨holds, found⟩

lemma visit_keeps (body : ∀ id record, Triple (fun w => P w ∧ AList.lookup id w.records = some record) (f id record)
      (fun _ => P) E) (order : List String) : Triple P (visit f order) (fun _ => P) E :=
  visit_triple (fun _ => P) (fun _ => body) (fun _ _ _ p _ => p) order []

lemma setStatus_inv (status : PortForwardStatus) (same : status.forward = record.status.forward) :
    Triple (fun w => Inv w ∧ AList.lookup id w.records = some record)
      (setRecord id { record with status }) (fun _ => Inv) Inv :=
  setRecord_triple fun _ ⟨inv, found⟩ => inv.put found rfl rfl same

lemma Inv.asked {w : World Target} (h : Inv w) (n : Nat) : Inv { w with asked := n } :=
  ⟨⟨h.wellformed.keyed, h.wellformed.attempts⟩, h.owned⟩

end

/-! ### Loops that clear records -/

def World.Within (order : List String) (w : World Target) : Prop :=
  ∀ (id : String) (record : OwnedForward Target), AList.lookup id w.records = some record → id ∈ order

def World.Quiet (target : Option Target) (w : World Target) (id : String) : Prop :=
  ∀ record, AList.lookup id w.records = some record → (∀ t ∈ target, record.target = t) →
    record.listenerPresent = false

section
variable {w : World Target} {id : String} {record record' : OwnedForward Target} {order : List String} {target : Target}
  {done : List String}

lemma World.Within.put (h : w.Within order) (found : AList.lookup id w.records = some record) :
    (w.put id record').Within order := by
  intro k other there
  rw [World.lookup_put] at there
  split at there
  case isTrue eq =>
    rw [← eq]
    exact h id record found
  case isFalse => exact h k other there

lemma World.Quiet.put {target : Option Target} {k : String} (h : w.Quiet target k)
    (absent : record'.listenerPresent = false) : (w.put id record').Quiet target k := by
  intro other there own
  rw [World.lookup_put] at there
  split at there
  case isTrue =>
    obtain rfl := Option.some.inj there
    exact absent
  case isFalse => exact h other there own

lemma World.quiet_put (target : Option Target) (absent : record'.listenerPresent = false) :
    (w.put id record').Quiet target id := by
  intro other there own
  rw [World.lookup_put, if_pos rfl] at there
  obtain rfl := Option.some.inj there
  exact absent

/-- The listeners of a target are gone, and the visited records know it. -/
structure Replacing (target : Target) (order done : List String) (w : World Target) : Prop where
  wellformed : Wellformed w
  owned : ∀ (t : Target) (f : LocalPortForward), (t, f) ∈ w.listeners ↔ t ≠ target ∧ w.Has t f
  quiet : ∀ id ∈ done, w.Quiet (some target) id
  within : w.Within order

lemma Replacing.put (h : Replacing target order done w) (found : AList.lookup id w.records = some record)
    (own : record.target = target) (own' : record'.target = target) (absent : record'.listenerPresent = false)
    (forward : record'.status.forward = record.status.forward) :
    Replacing target order (id :: done) (w.put id record') where
  wellformed := by
    apply h.wellformed.put
    rw [forward]
    exact h.wellformed.keyed id record found
  owned := by
    intro t f
    show (t, f) ∈ w.listeners ↔ _
    rw [h.owned t f, and_congr_right_iff]
    intro other
    unfold World.Has
    rw [World.lookup_put]
    split
    case isFalse => rfl
    case isTrue eq =>
      rw [← eq, found]
      constructor
      · rintro ⟨_, same, -, rfl, -⟩
        obtain rfl := Option.some.inj same
        exact absurd own other
      · rintro ⟨_, same, -, rfl, -⟩
        obtain rfl := Option.some.inj same
        exact absurd own' other
  quiet := by
    intro k mem
    cases List.mem_cons.1 mem with
    | inl eq =>
      rw [eq]
      exact World.quiet_put _ absent
    | inr mem => exact (h.quiet k mem).put absent
  within := h.within.put found

lemma Replacing.inv (h : Replacing target order done w) (all : ∀ id ∈ order, id ∈ done) : Inv w where
  wellformed := h.wellformed
  owned := by
    intro t f
    rw [h.owned t f, and_iff_right_iff_imp]
    rintro ⟨record, found, present, own, -⟩ rfl
    have quiet := h.quiet _ (all _ (h.within _ record found)) record found (by
      intro t' eq
      rw [← Option.some.inj eq, own])
    rw [quiet] at present
    cases present

end

variable [DecidableEq Target] {w : World Target} {order : List String} {w' : World Target} {action : Action Target}

/-- The world with another call of `change`. -/
def World.tried (w : World Target) (target : Target) (forward : LocalPortForward) (cancel : Bool) : World Target :=
  { w with
    attempts := ⟨target, forward, cancel, target ∈ w.paused, (target, forward) ∈ w.listeners⟩ ::
      w.attempts
    asked := w.asked + 1 }

def World.changed (w : World Target) (target : Target) (forward : LocalPortForward) (cancel : Bool) : World Target :=
  { w.tried target forward cancel with
    listeners := Ports.changed w.listeners target forward cancel }

section
variable {w : World Target} {id : String} {record : OwnedForward Target}

lemma Inv.cancelled (h : Inv w) (found : AList.lookup id w.records = some record)
    (present : record.listenerPresent = true) : Released id (w.changed record.target record.status.forward true) := by
  have key := h.wellformed.keyed id record found
  have there : (record.target, record.status.forward) ∈ w.listeners := by
    rw [h.owned, World.Has, key]
    exact ⟨record, found, present, rfl, rfl⟩
  refine ⟨⟨h.wellformed.keyed, ?_⟩, ?_⟩
  · intro attempt mem
    cases List.mem_cons.1 mem with
    | inl eq =>
      subst eq
      exact decide_eq_true there
    | inr old => exact h.wellformed.attempts attempt old
  · intro t f
    have owned := h.owned t f
    show (t, f) ∈ w.listeners.erase (record.target, record.status.forward) ↔ _ ∧ w.Has t f
    rw [Finset.mem_erase, owned, ne_eq, Prod.mk.injEq]
    constructor
    · rintro ⟨other, has⟩
      refine ⟨?_, has⟩
      rintro rfl
      obtain ⟨record', found', -, target, forward⟩ := has
      obtain rfl := Option.some.inj (found.symm.trans found')
      exact other ⟨target.symm, forward.symm⟩
    · rintro ⟨other, has⟩
      refine ⟨?_, has⟩
      rintro ⟨-, rfl⟩
      exact other key

lemma Inv.tried (h : Inv w) {target : Target} {forward : LocalPortForward} (cancel : Bool)
    (sound : if cancel then (target, forward) ∈ w.listeners else target ∉ w.paused) :
    Inv (w.tried target forward cancel) := by
  refine ⟨⟨h.wellformed.keyed, ?_⟩, h.owned⟩
  intro attempt mem
  cases List.mem_cons.1 mem with
  | inr old => exact h.wellformed.attempts attempt old
  | inl eq =>
    subst eq
    cases cancel with
    | true => exact decide_eq_true sound
    | false => exact decide_eq_false sound

lemma Released.put (h : Released id w) (record : OwnedForward Target)
    (key : record.status.forward.forwardId = id) (w' : World Target) (records : w'.records = AList.insert id record w.records)
    (attempts : ∀ attempt ∈ w'.attempts, attempt.Sound)
    (listeners : w'.listeners = if record.listenerPresent then
      insert (record.target, record.status.forward) w.listeners else w.listeners) : Inv w' where
  wellformed := by
    refine ⟨?_, attempts⟩
    intro k other found
    rw [records] at found
    exact (h.wellformed.put key).keyed k other found
  owned := by
    intro t f
    have has : w'.Has t f ↔ (w.put id record).Has t f := by
      unfold World.Has
      rw [records]
      rfl
    rw [has, World.Has, World.lookup_put]
    have before := h.owned t f
    split
    case isTrue eq =>
      subst eq
      have none_before : (t, f) ∉ w.listeners := fun mem => (before.1 mem).1 rfl
      rw [listeners]
      split
      case isTrue present =>
        rw [Finset.mem_insert, Prod.mk.injEq]
        constructor
        · rintro (⟨rfl, rfl⟩ | old)
          · exact ⟨record, rfl, present, rfl, rfl⟩
          · exact absurd old none_before
        · rintro ⟨other, same, -, rfl, rfl⟩
          obtain rfl := Option.some.inj same
          exact .inl ⟨rfl, rfl⟩
      case isFalse absent =>
        refine ⟨fun mem => absurd mem none_before, ?_⟩
        rintro ⟨other, same, present, -⟩
        obtain rfl := Option.some.inj same
        exact absurd present absent
    case isFalse other =>
      have same : (t, f) ∈ w'.listeners ↔ (t, f) ∈ w.listeners := by
        rw [listeners]
        split
        case isFalse => rfl
        case isTrue =>
          rw [Finset.mem_insert, or_iff_right]
          rw [Prod.mk.injEq]
          rintro ⟨-, rfl⟩
          exact other key.symm
      rw [same, before]
      exact and_iff_right fun eq => other eq.symm

end

/-! ### Operations -/

section
variable {P : World Target → Prop} {E : World Target → Prop} {env : Env} {id : String} {record : OwnedForward Target}

lemma perform_change (env : Env) (target : Target) (forward : LocalPortForward) (cancel : Bool) (w : World Target) :
    perform (change env target forward cancel) w = match env.change w.asked with
      | some (.ok ()) => (.ok (.ok ()), w.changed target forward cancel)
      | some (.error e) => (.ok (.error e), w.tried target forward cancel)
      | none => (.error .dropped, w.tried target forward cancel) := by
  -- Only the result of this call is read.
  have called : perform (change env target forward cancel) w =
      perform (change { env with change := fun _ => env.change w.asked } target forward cancel) w := rfl
  rw [called]
  cases env.change w.asked with
  | none => rfl
  | some result =>
    cases result with
    | ok => rfl
    | error => rfl

lemma change_triple {target : Target} {forward : LocalPortForward} {cancel : Bool}
    {Q : Except String Unit → World Target → Prop} (changed : ∀ w, P w → Q (.ok ()) (w.changed target forward cancel))
    (failed : ∀ w e, P w → Q (.error e) (w.tried target forward cancel))
    (dropped : ∀ w, P w → E (w.tried target forward cancel)) : Triple P (change env target forward cancel) Q E := by
  intro w p
  rw [perform_change]
  cases env.change w.asked with
  | none => exact dropped w p
  | some result =>
    cases result with
    | ok => exact changed w p
    | error e => exact failed w e p

lemma forwardStatus_forward (forward : LocalPortForward) (result : Except String Unit) :
    (forwardStatus forward result).forward = forward := by
  cases result <;> rfl

lemma listRecord_inv (env : Env) (target : Target) (ready : Bool) (id : String) (record : OwnedForward Target) :
    Triple (fun w => Inv w ∧ AList.lookup id w.records = some record)
      (listRecord env target ready id record) (fun _ => Inv) Inv := by
  unfold listRecord
  split
  case isFalse => exact Triple.pure fun _ h => h.1
  case isTrue =>
    split
    case isTrue => exact setStatus_inv _ rfl
    case isFalse =>
      split
      case isFalse => exact Triple.pure fun _ h => h.1
      case isTrue =>
        apply Triple.bind (Q := fun _ w => Inv w ∧ AList.lookup id w.records = some record)
        · exact await_triple (fun _ _ h => ⟨⟨⟨h.1.1.1, h.1.1.2⟩, h.1.2⟩, h.2⟩)
            fun _ h => ⟨⟨h.1.1.1, h.1.1.2⟩, h.1.2⟩
        · exact fun result => setStatus_inv _ (forwardStatus_forward _ _)

lemma list_inv (env : Env) (target : Target) (order : List String) :
    Triple Inv (list env target order) (fun _ => Inv) Inv := by
  unfold list
  apply Triple.getBind
  intro w
  dsimp only
  have visits := fun ready => visit_keeps (listRecord_inv env target ready) order
  split
  case isTrue =>
    apply Triple.bind (Triple.pure (Q := fun _ => Inv) fun _ h => h)
    intro ready
    exact (visits ready).bind fun _ => Triple.getBind fun _ => Triple.pure fun _ h => h
  case isFalse =>
    apply Triple.bind (await_triple (Q := fun _ => Inv) (fun _ _ h => h.asked _) fun _ h => h.asked _)
    intro ready
    exact (visits ready).bind fun _ => Triple.getBind fun _ => Triple.pure fun _ h => h

lemma pause_inv (target : Target) (order : List String) : Triple Inv (pause target order) (fun _ => Inv) Inv := by
  apply Triple.bind (Q := fun _ => Inv)
  · exact fun w h => ⟨⟨h.wellformed.keyed, h.wellformed.attempts⟩, h.owned⟩
  · intro _
    apply visit_keeps
    intro id record
    split
    · exact setStatus_inv _ rfl
    · exact Triple.pure fun _ h => h.1

lemma resume_inv (target : Target) : Triple Inv (resume target) (fun _ => Inv) Inv :=
  fun _ h => ⟨⟨h.wellformed.keyed, h.wellformed.attempts⟩, h.owned⟩

lemma activateRecord_inv (env : Env) (target : Target) (id : String) (record : OwnedForward Target) :
    Triple (fun w => (Inv w ∧ target ∉ w.paused) ∧ AList.lookup id w.records = some record)
      (activateRecord env target id record) (fun _ w => Inv w ∧ target ∉ w.paused)
      (fun w => Inv w) := by
  unfold activateRecord
  split
  case isFalse => exact Triple.pure fun _ h => h.1
  case isTrue own =>
    obtain ⟨rfl, absent⟩ := own
    apply Triple.bind (Q := fun result w' => record.target ∉ w'.paused ∧
      (result = .ok () → ∃ w, Inv w ∧ record.target ∉ w.paused ∧ AList.lookup id w.records = some record ∧
        w' = w.changed record.target record.status.forward false) ∧
      ∀ e, result = .error e → Inv w' ∧ AList.lookup id w'.records = some record)
    · apply change_triple
      · exact fun w h => ⟨h.1.2, fun _ => ⟨w, h.1.1, h.1.2, h.2, rfl⟩, fun e failed => by cases failed⟩
      · exact fun w e h => ⟨h.1.2, (fun done => by cases done), fun _ _ => ⟨h.1.1.tried _ h.1.2, h.2⟩⟩
      · exact fun w h => h.1.1.tried _ h.1.2
    · intro result
      apply setRecord_triple
      rintro w' ⟨active, done, failed⟩
      refine ⟨?_, active⟩
      cases result with
      | error e =>
        obtain ⟨inv, found⟩ := failed e rfl
        exact inv.put found rfl absent.symm rfl
      | ok =>
        obtain ⟨w, inv, unpaused, found, rfl⟩ := done rfl
        have released : Released id w := inv.released fun other same => by
          obtain rfl := Option.some.inj (found.symm.trans same)
          exact absent
        exact released.put { record with
          listenerPresent := true
          status := forwardStatus record.status.forward (.ok ()) }
          (inv.wellformed.keyed id record found) _ rfl
          (inv.tried false unpaused).wellformed.attempts rfl

lemma activate_inv (env : Env) (target : Target) (order : List String) :
    Triple Inv (activate env target order) (fun _ => Inv) Inv := by
  apply Triple.getEqBind
  intro w inv
  split
  case isTrue =>
    apply Triple.pure
    rintro _ rfl
    exact inv
  case isFalse active =>
    have visits := visit_keeps (E := Inv) (activateRecord_inv env target) order
    rintro _ rfl
    exact (visits.conseq (fun _ _ h => h.1) fun _ h => h) _ ⟨inv, active⟩

lemma cancel_triple (present : record.listenerPresent = true) :
    Triple (fun w => Inv w ∧ AList.lookup id w.records = some record)
      (change env record.target record.status.forward true)
      (fun result w => match result with
        | .ok () => Released id w ∧ AList.lookup id w.records = some record
        | .error _ => Inv w) Inv := by
  have tries : ∀ w : World Target, Inv w → AList.lookup id w.records = some record →
      Inv (w.tried record.target record.status.forward true) := by
    intro w inv found
    apply inv.tried
    show (record.target, record.status.forward) ∈ w.listeners
    have key := inv.wellformed.keyed id record found
    exact (inv.owned _ _).2 ⟨record, by rw [key]; exact found, present, rfl, rfl⟩
  apply change_triple
  · exact fun w h => ⟨h.1.cancelled h.2 present, h.2⟩
  · exact fun w e h => tries w h.1 h.2
  · exact fun w h => tries w h.1 h.2

lemma Released.forget {w : World Target} (h : Released id w) (found : AList.lookup id w.records = some record) :
    Inv (w.put id { record with listenerPresent := false }) :=
  h.put { record with listenerPresent := false } (h.wellformed.keyed id record found) _ rfl
    h.wellformed.attempts rfl

lemma disconnect_inv (env : Env) (target : Target) (order : List String) :
    Triple Inv (disconnect env target order) (fun _ => Inv) Inv := by
  apply Triple.bind (pause_inv target order)
  intro _
  apply visit_keeps
  intro id record
  unfold disconnectRecord
  split
  case isFalse => exact Triple.pure fun _ h => h.1
  case isTrue own =>
    obtain ⟨rfl, present⟩ := own
    apply Triple.bind (cancel_triple present)
    intro result
    cases result with
    | error e => exact Triple.throw fun _ h => h
    | ok => exact setRecord_triple fun _ ⟨released, found⟩ => released.forget found

end

/-! ### Replaced masters and shutdown -/

lemma masterReplaced_inv (target : Target) (order : List String) :
    Triple (fun w => Inv w ∧ w.Within order) (masterReplaced target order) (fun _ => Inv)
      (fun _ => False) := by
  apply Triple.bind (Q := fun _ => Replacing target order [])
  · rintro w ⟨inv, within⟩
    refine ⟨⟨inv.wellformed.keyed, inv.wellformed.attempts⟩, ?_, nofun, within⟩
    intro t f
    show (t, f) ∈ w.listeners.filter (·.1 ≠ target) ↔ t ≠ target ∧ w.Has t f
    rw [Finset.mem_filter, inv.owned t f, and_comm]
  · intro _
    have visits := visit_triple (E := fun _ => False) (Replacing target order)
      (f := fun id record => do
        if record.target = target then
          setRecord id { record with
            listenerPresent := false
            status := waitingStatus record.status.forward })
      (by
        intro done id record
        split
        case isTrue own =>
          exact setRecord_triple fun w ⟨replacing, found⟩ => replacing.put found own own rfl rfl
        case isFalse other =>
          apply Triple.pure
          rintro w ⟨replacing, found⟩
          refine ⟨replacing.wellformed, replacing.owned, ?_, replacing.within⟩
          intro k mem
          cases List.mem_cons.1 mem with
          | inr mem => exact replacing.quiet k mem
          | inl eq =>
            subst eq
            intro record' found' own
            obtain rfl := Option.some.inj (found.symm.trans found')
            exact absurd (own target rfl) other)
      (by
        intro done id w replacing absent
        refine ⟨replacing.wellformed, replacing.owned, ?_, replacing.within⟩
        intro k mem
        cases List.mem_cons.1 mem with
        | inr mem => exact replacing.quiet k mem
        | inl eq =>
          subst eq
          intro record found
          rw [absent] at found
          cases found)
      order []
    refine visits.conseq ?_ fun _ h => h
    intro _ w replacing
    apply replacing.inv
    intro id mem
    rw [List.append_nil, List.mem_reverse]
    exact mem

/-- During a shutdown, the records of a list have no listener. -/
structure Closing (order quiet : List String) (w : World Target) : Prop where
  inv : Inv w
  quiet : ∀ id ∈ quiet, w.Quiet none id
  within : w.Within order

lemma shutdown_triple (env : Env) (order : List String) (ids quiet : List String) :
    Triple (fun w : World Target => Closing order quiet w) (shutdown env ids)
      (fun complete w => Closing order quiet w ∧
        (complete = true → ∀ id ∈ ids, w.Quiet none id)) Inv := by
  induction ids generalizing quiet with
  | nil => exact Triple.pure fun _ h => ⟨h, fun _ _ => nofun⟩
  | cons id ids ih =>
    -- What one record leaves, and what the rest of the loop makes of it.
    have rest : ∀ released : Bool, Triple
        (fun w : World Target => Closing order quiet w ∧ (released = true → w.Quiet none id))
        (do let complete ← shutdown env ids; return released && complete)
        (fun complete w => Closing order quiet w ∧
          (complete = true → ∀ k ∈ id :: ids, w.Quiet none k)) Inv := by
      intro released
      cases released with
      | false =>
        apply Triple.bind (Q := fun _ => Closing order quiet)
        · intro w h
          have done := (ih quiet).conseq (fun _ _ h => h.1) (fun _ h => h) w h.1
          exact done
        · exact fun _ => Triple.pure fun _ h => ⟨h, nofun⟩
      | true =>
        apply Triple.bind (Q := fun complete w => Closing order (id :: quiet) w ∧
          (complete = true → ∀ k ∈ ids, w.Quiet none k))
        · intro w h
          apply ih (id :: quiet) w
          refine ⟨h.1.inv, ?_, h.1.within⟩
          intro k mem
          cases List.mem_cons.1 mem with
          | inl eq =>
            rw [eq]
            exact h.2 rfl
          | inr mem => exact h.1.quiet k mem
        · intro complete
          apply Triple.pure
          rintro w ⟨closing, visited⟩
          refine ⟨⟨closing.inv, fun k mem => closing.quiet k (List.mem_cons_of_mem _ mem),
            closing.within⟩, ?_⟩
          intro eq k mem
          cases List.mem_cons.1 mem with
          | inl same =>
            rw [same]
            exact closing.quiet id List.mem_cons_self
          | inr mem => exact visited eq k mem
    apply Triple.getEqBind
    intro w closing
    dsimp only
    cases found : AList.lookup id w.records with
    | none =>
      apply Triple.bind _ rest
      apply Triple.pure
      rintro _ rfl
      refine ⟨closing, ?_⟩
      intro _ record there
      rw [found] at there
      cases there
    | some record =>
      apply Triple.bind _ rest
      unfold shutdownRecord
      split
      case isFalse absent =>
        apply Triple.pure
        rintro _ rfl
        refine ⟨closing, ?_⟩
        intro _ record' there _
        obtain rfl := Option.some.inj (found.symm.trans there)
        exact Bool.eq_false_iff.2 absent
      case isTrue present =>
        have key := closing.inv.wellformed.keyed id record found
        have sound : (record.target, record.status.forward) ∈ w.listeners :=
          (closing.inv.owned _ _).2 ⟨record, by rw [key]; exact found, present, rfl, rfl⟩
        apply Triple.bind (Q := fun result w' => match result with
          | .ok () => w' = w.changed record.target record.status.forward true
          | .error _ => Closing order quiet w')
        · apply change_triple
          · rintro _ rfl
            rfl
          · rintro _ e rfl
            exact ⟨closing.inv.tried true sound, closing.quiet, closing.within⟩
          · rintro _ rfl
            exact closing.inv.tried true sound
        · intro result
          cases result with
          | error e => exact Triple.pure fun _ h => ⟨h, nofun⟩
          | ok =>
            rintro _ rfl
            refine ⟨⟨(closing.inv.cancelled found present).forget found, ?_, ?_⟩, ?_⟩
            · exact fun k mem => World.Quiet.put (closing.quiet k mem) rfl
            · exact World.Within.put closing.within found
            · exact fun _ => World.quiet_put none rfl

lemma shutdown_inv (env : Env) (order : List String) :
    Triple (fun w : World Target => Inv w ∧ w.Within order) (shutdown env order) (fun _ => Inv)
      Inv := by
  rintro w ⟨inv, within⟩
  exact ((shutdown_triple env order order []).conseq (fun _ _ h => h.1.inv) fun _ h => h) w
    ⟨inv, nofun, within⟩

lemma shutdown_complete {env : Env} (inv : Inv w) (within : w.Within order)
    (complete : perform (shutdown env order) w = (.ok true, w')) : w'.listeners = ∅ := by
  have done := shutdown_triple env order order [] w ⟨inv, nofun, within⟩
  rw [complete] at done
  obtain ⟨closing, quiet⟩ := done
  apply Finset.eq_empty_of_forall_notMem
  rintro ⟨t, f⟩ mem
  obtain ⟨record, found, present, -⟩ := (closing.inv.owned t f).1 mem
  rw [quiet rfl f.forwardId (closing.within _ record found) record found nofun] at present
  cases present

/-! ### Configuration -/

/-- The await points that `configure` passes before it cancels the listener of a record, if it does. -/
def cancelPoint (env : Env) (record : OwnedForward Target) (paused : Finset Target) (target : Target)
    (forward : LocalPortForward) (enabled : Bool) : Option Nat :=
  if isSame record paused target forward enabled then
    match env.ready 0, env.check 1 with
    | some false, _ => some 1
    | some true, some (.error _) => some 2
    | _, _ => none
  else some 0

/-- The await points that `configure` has passed when it has cancelled the listener of the forward, if
    it does. -/
def releasePoint (env : Env) (w : World Target) (target : Target) (forward : LocalPortForward)
    (enabled : Bool) : Option Nat := do
  let record ← AList.lookup forward.forwardId w.records
  let n ← if record.listenerPresent then cancelPoint env record w.paused target forward enabled
    else none
  match env.change n with
  | some (.ok ()) => some (n + 1)
  | _ => none

def dropsAt (env : Env) (n : Nat) : Bool :=
  match env.ready n with
  | none => true
  | some ready => ready && (env.change (n + 1)).isNone

/-- `configure` is dropped after it has cancelled the listener of the forward, before it has recorded
    another one. -/
def Interrupted (env : Env) (w : World Target) (target : Target) (forward : LocalPortForward) (enabled : Bool) : Prop :=
  enabled = true ∧ target ∉ w.paused ∧
    ∃ n, releasePoint env w target forward enabled = some n ∧ dropsAt env n = true

section
variable {env : Env} {w : World Target} {target : Target} {forward : LocalPortForward}
  {enabled : Bool}

variable (env target forward enabled) in
lemma perform_stillServes (record : OwnedForward Target) (start : w.asked = 0) :
    (∃ n, cancelPoint env record w.paused target forward enabled = some n ∧
      perform (stillServes env record target forward enabled) w
        = (.ok false, { w with asked := n })) ∨
    cancelPoint env record w.paused target forward enabled = none ∧ ∃ n,
      (perform (stillServes env record target forward enabled) w
        = (.ok true, { w with asked := n }) ∨
      perform (stillServes env record target forward enabled) w
        = (.error .dropped, { w with asked := n })) := by
  unfold cancelPoint
  have asks : perform (stillServes env record target forward enabled) w = perform
      (if isSame record w.paused target forward enabled then (do
        if ← isReady env record.target then
          return (← check env record.target record.status.forward).isOk
        else return false : Operation Target Bool)
      else return false) w := rfl
  rw [asks]
  split
  case isFalse => exact .inl ⟨0, rfl, by rw [← start]; rfl⟩
  case isTrue =>
    rw [perform_bind, isReady, perform_await, start]
    cases env.ready 0 with
    | none => exact .inr ⟨rfl, 1, .inr rfl⟩
    | some ready =>
      cases ready with
      | false => exact .inl ⟨1, rfl, rfl⟩
      | true =>
        dsimp only
        rw [if_pos rfl, perform_bind, check, perform_await]
        dsimp only
        cases env.check 1 with
        | none => exact .inr ⟨rfl, 2, .inr rfl⟩
        | some result =>
          cases result with
          | ok => exact .inr ⟨rfl, 2, .inl rfl⟩
          | error e => exact .inl ⟨2, rfl, rfl⟩

variable (env target forward enabled) in
/-- `release` for the record that it has found. -/
def releaseFound (found : Option (OwnedForward Target)) : Operation Target (Option PortForwardStatus) :=
  match found with
  | none => return none
  | some record =>
    if record.listenerPresent then do
      if ← stillServes env record target forward enabled then
        let status := forwardStatus record.status.forward (.ok ())
        setRecord forward.forwardId { record with status }
        return some status
      else
        match ← change env record.target record.status.forward true with
        | .ok () => return none
        | .error e => throw (.failed e)
    else return none

def changePoint (env : Env) (n : Nat) : Option Nat :=
  match env.change n with
  | some (.ok ()) => some (n + 1)
  | _ => none

variable (env target forward enabled) in
lemma perform_release (inv : Inv w) (start : w.asked = 0) :
    (∃ result w', perform (release env target forward enabled) w = (result, w') ∧ Inv w' ∧
      result ≠ .ok none ∧ releasePoint env w target forward enabled = none) ∨
    ∃ w', perform (release env target forward enabled) w = (.ok none, w') ∧
      Released forward.forwardId w' ∧ w'.records = w.records ∧ w'.paused = w.paused ∧
      (w'.asked = w.asked ∧ Inv w' ∧ (∀ record, AList.lookup forward.forwardId w.records = some record →
        record.listenerPresent = false) ∨
      releasePoint env w target forward enabled = some w'.asked ∧ ∃ record,
        AList.lookup forward.forwardId w.records = some record ∧ record.listenerPresent = true) := by
  have asks : perform (release env target forward enabled) w = perform
      (releaseFound env target forward enabled (AList.lookup forward.forwardId w.records)) w := rfl
  rw [asks]
  -- Without a listener, nothing is done.
  have without : (∀ record, AList.lookup forward.forwardId w.records = some record →
      record.listenerPresent = false) → Released forward.forwardId w := fun absent =>
    inv.released absent
  cases found : AList.lookup forward.forwardId w.records with
  | none =>
    have absent : ∀ record, AList.lookup forward.forwardId w.records = some record →
        record.listenerPresent = false := by
      intro record there
      rw [found] at there
      cases there
    exact .inr ⟨w, rfl, without absent, rfl, rfl, .inl ⟨rfl, inv, fun record => (by rintro ⟨⟩)⟩⟩
  | some record =>
    delta releaseFound
    dsimp only
    split
    case isFalse idle =>
      have absent : ∀ other, AList.lookup forward.forwardId w.records = some other →
          other.listenerPresent = false := by
        intro other there
        obtain rfl := Option.some.inj (found.symm.trans there)
        exact Bool.eq_false_iff.2 idle
      refine .inr ⟨w, rfl, without absent, rfl, rfl, .inl ⟨rfl, inv, ?_⟩⟩
      intro other eq
      obtain rfl := Option.some.inj eq
      exact Bool.eq_false_iff.2 idle
    case isTrue present =>
      have point : releasePoint env w target forward enabled =
          (cancelPoint env record w.paused target forward enabled).bind (changePoint env) := by
        unfold releasePoint
        rw [found]
        simp only [present, if_true, Option.bind_eq_bind, Option.bind_some]
        rfl
      rw [perform_bind, point]
      obtain ⟨n, cancels, served⟩ | ⟨stays, n, served⟩ :=
        perform_stillServes env target forward enabled record start
      · rw [served, cancels, Option.bind_some]
        delta changePoint
        have inv' := inv.asked n
        have there : (record.target, record.status.forward) ∈ w.listeners := by
          have key := inv.wellformed.keyed _ record found
          exact (inv.owned _ _).2 ⟨record, by rw [key]; exact found, present, rfl, rfl⟩
        dsimp only
        rw [if_neg Bool.false_ne_true, perform_bind, perform_change]
        dsimp only
        cases env.change n with
        | none => exact .inl ⟨_, _, rfl, inv'.tried true there, (by rintro ⟨⟩), rfl⟩
        | some result =>
          cases result with
          | error e => exact .inl ⟨_, _, rfl, inv'.tried true there, (by rintro ⟨⟩), rfl⟩
          | ok => exact .inr ⟨_, rfl, inv'.cancelled found present, rfl, rfl, .inr ⟨rfl, record, rfl,
              present⟩⟩
      · rw [stays, Option.bind_none]
        cases served with
        | inl served =>
          rw [served]
          have inv' : Inv (World.put { w with asked := n } forward.forwardId
              { record with status := forwardStatus record.status.forward (.ok ()) }) :=
            (inv.asked n).put found rfl rfl rfl
          exact .inl ⟨_, _, rfl, inv', (by rintro ⟨⟩), rfl⟩
        | inr served =>
          rw [served]
          exact .inl ⟨_, _, rfl, inv.asked n, (by rintro ⟨⟩), rfl⟩

variable (env target enabled) in
lemma perform_install (released : Released forward.forwardId w) :
    if enabled = true ∧ target ∉ w.paused ∧ dropsAt env w.asked = true then
      Released forward.forwardId (perform (install env target forward enabled) w).2 ∧
        (perform (install env target forward enabled) w).2.records = w.records
    else Inv (perform (install env target forward enabled) w).2 := by
  have records : ∀ (status : PortForwardStatus) (w' : World Target), status.forward = forward →
      w'.records = w.records → (∀ attempt ∈ w'.attempts, attempt.Sound) →
      (w'.listeners = if status.state = .active then insert (target, forward) w.listeners
        else w.listeners) →
      Inv (perform (do
        setRecord status.forward.forwardId ⟨target, status, status.state = .active⟩
        return status : Operation Target PortForwardStatus) w').2 := by
    intro status w' same records attempts listeners
    subst same
    apply released.put ⟨target, status, status.state = .active⟩ rfl
    · show AList.insert _ _ w'.records = _
      rw [records]
    · exact attempts
    · show w'.listeners = _
      rw [listeners]
      simp only [decide_eq_true_eq]
  unfold install
  cases enabled with
  | false => exact released.erase
  | true =>
    rw [if_pos rfl, perform_bind]
    have asks : perform (newStatus env target forward) w = perform
        (if target ∈ w.paused then return waitingStatus forward
        else do
          if ← isReady env target then
            return forwardStatus forward (← change env target forward false)
          else return waitingStatus forward : Operation Target PortForwardStatus) w := rfl
    rw [asks]
    by_cases paused : target ∈ w.paused
    · rw [if_pos paused, if_neg fun h => h.2.1 paused]
      exact records (waitingStatus forward) w rfl rfl released.wellformed.attempts rfl
    · rw [if_neg paused, perform_bind, isReady, perform_await, dropsAt]
      cases env.ready w.asked with
      | none =>
        rw [if_pos ⟨rfl, paused, rfl⟩]
        exact ⟨⟨⟨released.wellformed.keyed, released.wellformed.attempts⟩, released.owned⟩, rfl⟩
      | some ready =>
        cases ready with
        | false =>
          rw [if_neg fun h => Bool.false_ne_true h.2.2]
          exact records (waitingStatus forward) _ rfl rfl released.wellformed.attempts rfl
        | true =>
          have attempts : ∀ attempt ∈ (World.tried { w with asked := w.asked + 1 } target forward
              false).attempts, attempt.Sound := by
            intro attempt mem
            cases List.mem_cons.1 mem with
            | inr old => exact released.wellformed.attempts attempt old
            | inl eq =>
              subst eq
              exact decide_eq_false paused
          dsimp only
          rw [if_pos rfl, perform_bind, perform_change]
          dsimp only
          cases env.change (w.asked + 1) with
          | none =>
            rw [if_pos ⟨rfl, paused, rfl⟩]
            exact ⟨⟨⟨released.wellformed.keyed, attempts⟩, released.owned⟩, rfl⟩
          | some result =>
            rw [if_neg fun h => Bool.false_ne_true h.2.2]
            cases result with
            | ok => exact records (forwardStatus forward (.ok ())) _ rfl rfl attempts rfl
            | error e => exact records (forwardStatus forward (.error e)) _ rfl rfl attempts rfl

omit [DecidableEq Target] in
lemma Released.inv {id : String} (h : Released id w)
    (absent : ∀ record, AList.lookup id w.records = some record → record.listenerPresent = false) :
    Inv w where
  wellformed := h.wellformed
  owned := by
    intro t f
    rw [h.owned t f, and_iff_right_iff_imp]
    rintro ⟨record, found, present, -⟩ rfl
    rw [absent record found] at present
    cases present

lemma releasePoint_absent (absent : ∀ record, AList.lookup forward.forwardId w.records = some record →
    record.listenerPresent = false) : releasePoint env w target forward enabled = none := by
  unfold releasePoint
  cases found : AList.lookup forward.forwardId w.records with
  | none => rfl
  | some record =>
    simp only [absent record found, Option.bind_eq_bind, Option.bind_some, Bool.false_eq_true,
      if_false, Option.bind_none]

variable (env target forward enabled) in
lemma perform_configure (inv : Inv w) (start : w.asked = 0) :
    (¬ Interrupted env w target forward enabled →
      Inv (perform (configure env target forward enabled) w).2) ∧
    (Interrupted env w target forward enabled →
      Wellformed (perform (configure env target forward enabled) w).2 ∧
        ¬ (perform (configure env target forward enabled) w).2.Owned) := by
  unfold configure
  rw [perform_bind]
  obtain ⟨result, w', performed, inv', other, point⟩ |
    ⟨w', performed, released, records, paused, before⟩ :=
    perform_release env target forward enabled inv start
  · rw [performed]
    constructor
    · intro _
      cases result with
      | error e => exact inv'
      | ok status =>
        cases status with
        | none => exact absurd rfl other
        | some status => exact inv'
    · rintro ⟨-, -, n, point', -⟩
      rw [point] at point'
      cases point'
  · rw [performed]
    have installed := perform_install env target enabled released
    dsimp only
    split at installed
    case isTrue drops =>
      obtain ⟨enabled, active, drops⟩ := drops
      obtain ⟨released', records'⟩ := installed
      cases before with
      | inl absent =>
        obtain ⟨-, -, absent⟩ := absent
        constructor
        · intro _
          apply released'.inv
          rw [records', records]
          exact absent
        · rintro ⟨-, -, n, point, -⟩
          rw [releasePoint_absent absent] at point
          cases point
      | inr cancelled =>
        obtain ⟨point, record, found, present⟩ := cancelled
        rw [paused] at active
        refine ⟨fun safe => absurd ⟨enabled, active, _, point, drops⟩ safe,
          fun _ => ⟨released'.wellformed, ?_⟩⟩
        apply released'.not_owned _ present
        rw [records', records]
        exact found
    case isFalse keeps =>
      refine ⟨fun _ => installed, ?_⟩
      rintro ⟨enabled, active, n, point, drops⟩
      cases before with
      | inl absent =>
        rw [releasePoint_absent absent.2.2] at point
        cases point
      | inr cancelled =>
        obtain rfl := Option.some.inj (cancelled.1.symm.trans point)
        rw [← paused] at active
        exact absurd ⟨enabled, active, drops⟩ keeps

end

/-! ### Runs of operations -/

/-- The operation is not a `configure` that is interrupted. -/
def Meets (w : World Target) (action : Action Target) : Prop :=
  match action.call with
  | .configure target forward enabled =>
    ¬ Interrupted action.env { w with asked := 0 } target forward enabled
  | _ => True

/-- The operation is completed: the control answers at every await point. -/
def Completes (_ : World Target) (action : Action Target) : Prop :=
  ∀ n, action.env.ready n ≠ none ∧ action.env.change n ≠ none ∧ action.env.check n ≠ none

lemma Completes.meets (h : Completes w action) : Meets w action := by
  unfold Meets
  split
  case h_2 => trivial
  case h_1 =>
    rintro ⟨-, -, n, -, drops⟩
    unfold dropsAt at drops
    split at drops
    case h_1 none_ready => exact (h n).1 none_ready
    case h_2 ready _ =>
      rw [Bool.and_eq_true, Option.isNone_iff_eq_none] at drops
      exact (h (n + 1)).2.1 drops.2

omit [DecidableEq Target] in
lemma perform_withoutResult {α : Type} (x : Operation Target α) (w : World Target) :
    (perform (withoutResult x) w).2 = (perform x w).2 := by
  unfold withoutResult
  rw [perform_bind]
  generalize perform x w = outcome
  obtain ⟨result, w'⟩ := outcome
  cases result with
  | ok => rfl
  | error => rfl

omit [DecidableEq Target] in
lemma inv_after {α : Type} {P E : World Target → Prop} {x : Operation Target α} (h : Triple P x (fun _ => Inv) E)
    (error : ∀ w, E w → Inv w) (holds : P w) : Inv (perform x w).2 := by
  have done := h w holds
  generalize perform x w = outcome at done
  obtain ⟨result, w'⟩ := outcome
  cases result with
  | ok => exact done
  | error => exact error w' done

omit [DecidableEq Target] in
lemma within_of_perm (perm : order.Perm w.records.keys) : w.Within order := by
  intro id record found
  rw [perm.mem_iff, ← AList.mem_keys]
  exact Table.mem_iff.2 ⟨record, found⟩

lemma step_inv (inv : Inv w) (taken : step w action = some w') :
    (Meets w action → Inv w') ∧ (¬ Meets w action → Wellformed w' ∧ ¬ w'.Owned) := by
  unfold step at taken
  split at taken
  case isFalse => cases taken
  case isTrue perm =>
    cases taken
    have inv' := inv.asked 0
    obtain ⟨call, env, order⟩ := action
    have within : World.Within order { w with asked := 0 } := within_of_perm perm
    have keeps : ∀ w' : World Target, Inv w' →
        (True → Inv w') ∧ (¬ True → Wellformed w' ∧ ¬ w'.Owned) :=
      fun _ h => ⟨fun _ => h, fun no => absurd trivial no⟩
    cases call with
    | configure target forward enabled =>
      have configured := perform_configure env target forward enabled inv' rfl
      simp only [Call.operation, perform_withoutResult]
      exact ⟨configured.1, fun interrupted => configured.2 (not_not.1 interrupted)⟩
    | activate target =>
      exact keeps _ (inv_after (activate_inv env target order) (fun _ h => h) inv')
    | list target =>
      simp only [Call.operation, perform_withoutResult]
      exact keeps _ (inv_after (list_inv env target order) (fun _ h => h) inv')
    | pause target => exact keeps _ (inv_after (pause_inv target order) (fun _ h => h) inv')
    | resume target => exact keeps _ (inv_after (resume_inv target) (fun _ h => h) inv')
    | disconnect target =>
      exact keeps _ (inv_after (disconnect_inv env target order) (fun _ h => h) inv')
    | masterReplaced target =>
      exact keeps _ (inv_after (masterReplaced_inv target order) (fun _ => False.elim) ⟨inv', within⟩)
    | shutdown =>
      simp only [Call.operation, perform_withoutResult]
      exact keeps _ (inv_after (shutdown_inv env order) (fun _ h => h) ⟨inv', within⟩)

omit [DecidableEq Target] in
lemma Initial.inv (h : Initial w) : Inv w := by
  obtain ⟨records, listeners, attempts⟩ := h
  have absent : ∀ id : String, AList.lookup id w.records = none := by
    rw [records]
    exact fun id => AList.lookup_empty id
  refine ⟨⟨?_, ?_⟩, ?_⟩
  · intro id record found
    cases (absent id).symm.trans found
  · rw [attempts]
    exact fun _ => nofun
  · intro t f
    rw [listeners]
    refine ⟨fun mem => absurd mem (Finset.notMem_empty _), ?_⟩
    rintro ⟨record, found, -⟩
    cases (absent _).symm.trans found

def World.Recorded (w : World Target) : Prop :=
  ∀ (target : Target) (forward : LocalPortForward), (target, forward) ∈ w.listeners ↔
    ∃ (id : String) (record : OwnedForward Target), AList.lookup id w.records = some record ∧
      record.listenerPresent = true ∧ record.target = target ∧ record.status.forward = forward

omit [DecidableEq Target] in
lemma Wellformed.recorded_iff (h : Wellformed w) : w.Recorded ↔ w.Owned := by
  have same : ∀ (t : Target) (f : LocalPortForward), (∃ (id : String) (record : OwnedForward Target),
      AList.lookup id w.records = some record ∧ record.listenerPresent = true ∧ record.target = t ∧
        record.status.forward = f) ↔ w.Has t f := by
    intro t f
    constructor
    · rintro ⟨id, record, found, present, target, forward⟩
      refine ⟨record, ?_, present, target, forward⟩
      rw [← forward, h.keyed id record found]
      exact found
    · rintro ⟨record, found, has⟩
      exact ⟨f.forwardId, record, found, has⟩
  constructor
  · exact fun recorded t f => (recorded t f).trans (same t f)
  · exact fun owned t f => (owned t f).trans (same t f).symm

omit [DecidableEq Target] in
lemma World.Owned.unique (h : w.Owned) {t t' : Target} {f f' : LocalPortForward} (mem : (t, f) ∈ w.listeners)
    (mem' : (t', f') ∈ w.listeners) (same : f.forwardId = f'.forwardId) : (t, f) = (t', f') := by
  obtain ⟨record, found, -, rfl, rfl⟩ := (h t f).1 mem
  obtain ⟨record', found', -, rfl, rfl⟩ := (h t' f').1 mem'
  rw [← same] at found'
  obtain rfl := Option.some.inj (found.symm.trans found')
  rfl

/-- After every sequence of completed operations the listeners are those of the records, a forward has
    one at most, none was added for a paused target, and a shutdown that returns true leaves none. -/
theorem listeners_owned {w : World Target} (h : ReachableWhile step Initial Completes w) :
    w.Recorded ∧
      (∀ (t t' : Target) (f f' : LocalPortForward), (t, f) ∈ w.listeners → (t', f') ∈ w.listeners →
        f.forwardId = f'.forwardId → (t, f) = (t', f')) ∧
      (∀ attempt ∈ w.attempts, attempt.cancel = false → attempt.paused = false) ∧
      ∀ (env : Env) (order : List String) (w' : World Target), order.Perm w.records.keys →
        perform (shutdown env order) { w with asked := 0 } = (.ok true, w') → w'.listeners = ∅ := by
  have inv := h.invariant Inv (fun _ => Initial.inv) fun _ _ _ inv completes taken =>
    (step_inv inv taken).1 (Completes.meets completes)
  refine ⟨inv.wellformed.recorded_iff.2 inv.owned, fun _ _ _ _ => inv.owned.unique, ?_, ?_⟩
  · intro attempt mem adds
    have sound := inv.wellformed.attempts attempt mem
    rw [Attempt.Sound, adds] at sound
    exact sound
  · intro env order w' perm complete
    exact shutdown_complete (inv.asked 0) (within_of_perm perm) complete

def willing : Env := ⟨fun _ => some true, fun _ => some (.ok ()), fun _ => some (.ok ())⟩

def web : LocalPortForward := ⟨"f1", .tcp, "127.0.0.1", 8080, "localhost", 80⟩

def unconfigured : World Bool := ⟨∅, ∅, ∅, [], 0⟩

def moveWeb : List (Action Bool) :=
  [⟨.configure true web true, willing, []⟩, ⟨.configure false web true, willing, ["f1"]⟩]

theorem listeners_owned_moveWeb :
    ∃ w, exec step unconfigured moveWeb = some w ∧ w.listeners = {(false, web)} ∧ w.Recorded ∧
      (∀ (t t' : Bool) (f f' : LocalPortForward), (t, f) ∈ w.listeners → (t', f') ∈ w.listeners →
        f.forwardId = f'.forwardId → (t, f) = (t', f')) ∧
      (∀ attempt ∈ w.attempts, attempt.cancel = false → attempt.paused = false) ∧
      ∀ (env : Env) (order : List String) (w' : World Bool), order.Perm w.records.keys →
        perform (shutdown env order) { w with asked := 0 } = (.ok true, w') → w'.listeners = ∅ := by
  have seen : (exec step unconfigured moveWeb).map (·.listeners) = some {(false, web)} := by
    decide +kernel
  obtain ⟨w, run, listeners⟩ := Option.map_eq_some_iff.1 seen
  have completes : ∀ action ∈ moveWeb, ∀ s, Completes s action := by
    intro action mem s n
    obtain rfl | rfl : action = _ ∨ action = _ := by simpa [moveWeb] using mem
    · exact ⟨nofun, nofun, nofun⟩
    · exact ⟨nofun, nofun, nofun⟩
  exact ⟨w, run, listeners, listeners_owned
    (ReachableWhile.exec (.start ⟨rfl, rfl, rfl⟩) moveWeb run (Allows.of_forall completes _))⟩

/-- Operations may be dropped at any await point, but for a `configure` between its cancellation and
    its new record: then, and only then, the listeners are not those of the records. -/
theorem dropped_owned {w : World Target} (h : ReachableWhile step Initial Meets w) :
    w.Recorded ∧ (∀ attempt ∈ w.attempts, attempt.cancel = true → attempt.existed = true) ∧
      ∀ (action : Action Target) (w' : World Target), step w action = some w' →
        (w'.Recorded ↔ Meets w action) := by
  have inv := h.invariant Inv (fun _ => Initial.inv) fun _ _ _ inv meets taken =>
    (step_inv inv taken).1 meets
  refine ⟨inv.wellformed.recorded_iff.2 inv.owned, ?_, ?_⟩
  · intro attempt mem cancels
    have sound := inv.wellformed.attempts attempt mem
    rw [Attempt.Sound, cancels] at sound
    exact sound
  · intro action w' taken
    obtain ⟨keeps, breaks⟩ := step_inv inv taken
    constructor
    · intro recorded
      by_contra interrupted
      obtain ⟨wellformed, lost⟩ := breaks interrupted
      exact lost (wellformed.recorded_iff.1 recorded)
    · intro meets
      exact (keeps meets).wellformed.recorded_iff.2 (keeps meets).owned

def leaving : Env := ⟨fun _ => none, fun _ => some (.ok ()), fun _ => some (.ok ())⟩

def webEdited : LocalPortForward := { web with localPort := 8081 }

theorem dropped_owned_leaving :
    ∃ w, exec step unconfigured [⟨.configure true web true, leaving, []⟩] = some w ∧
      w.listeners = ∅ ∧ w.Recorded ∧
      (∀ attempt ∈ w.attempts, attempt.cancel = true → attempt.existed = true) ∧
      ∀ (action : Action Bool) (w' : World Bool), step w action = some w' →
        (w'.Recorded ↔ Meets w action) := by
  have seen : (exec step unconfigured [⟨.configure true web true, leaving, []⟩]).map (·.listeners)
      = some ∅ := by
    decide +kernel
  obtain ⟨w, run, listeners⟩ := Option.map_eq_some_iff.1 seen
  refine ⟨w, run, listeners, dropped_owned (ReachableWhile.exec (.start ⟨rfl, rfl, rfl⟩) _ run
    ⟨?_, fun _ _ => trivial⟩)⟩
  rintro ⟨-, -, n, point, -⟩
  cases point

/-- The rule is configured, and an edit of it is dropped after its listener was cancelled. -/
theorem edit_forgets :
    ∃ w : World Bool, Reachable step Initial w ∧ w.listeners = ∅ ∧
      (AList.lookup "f1" w.records).map (·.listenerPresent) = some true ∧ ¬ w.Recorded := by
  have seen : (exec step unconfigured [⟨.configure true web true, willing, []⟩,
      ⟨.configure true webEdited true, leaving, ["f1"]⟩]).map
      (fun w => (w.listeners, AList.lookup "f1" w.records)) =
      some (∅, some ⟨true, forwardStatus web (.ok ()), true⟩) := by
    decide +kernel
  obtain ⟨w, run, seen⟩ := Option.map_eq_some_iff.1 seen
  obtain ⟨listeners, record⟩ := Prod.mk.inj seen
  refine ⟨w, Reachable.exec (.start ⟨rfl, rfl, rfl⟩) _ run, listeners, by rw [record]; rfl, ?_⟩
  intro recorded
  have mem := (recorded true web).2 ⟨"f1", _, record, rfl, rfl, rfl⟩
  rw [listeners] at mem
  exact Finset.notMem_empty _ mem

end Ctl.Forward.Ports
