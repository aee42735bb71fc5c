import Ctl.Approval.Windows

/-!
# Deadlines of approvals

A window ends at most `WINDOW` after each of its contexts was committed for the first time, in every
run in which no attempt commits a context again that is not in the window of its scope any more. An
attempt that has found no window keeps no deadline for the contexts that it commits: when another
attempt has replaced such a context in the window and the window has vanished, a further `connected`
gives the context a new deadline.
-/

namespace Ctl.Approval
open Ctl.Base

namespace World

/-- Every context is in a window that ends at most `WINDOW` after it was committed first. -/
def Bounded (w : World) : Prop :=
  ∀ (scope selector : String) (window : Window) (context : Nat), w.windows[scope]? = some window →
    window.contexts[selector]? = some context →
      ∃ t, w.committedAt context = some t ∧ window.expires ≤ t + WINDOW

end World

structure PendingDeadline (clock : Nat) (committedAt : Nat → Option Nat) (p : Pending) : Prop where
  /-- An attempt has the deadline of the window that it found. -/
  found : ∀ e, p.expires = some e → e ≤ clock + WINDOW ∧ ∀ (s : String) (c t : Nat),
    p.contexts[s]? = some c → committedAt c = some t → e ≤ t + WINDOW
  /-- An attempt that has found no window has committed its own contexts only. -/
  alone : p.expires = none → ∀ (s : String) (c : Nat), p.contexts[s]? = some c → s ∉ p.inherited →
    committedAt c = none

structure DeadlineInv (w : World) : Prop where
  window : ∀ (scope : String) (window : Window), w.windows[scope]? = some window →
    window.expires ≤ w.clock + WINDOW ∧ ∀ (s : String) (c : Nat), window.contexts[s]? = some c →
      ∃ t, w.committedAt c = some t ∧ window.expires ≤ t + WINDOW
  pending : ∀ (a : Nat) (p : Pending), w.pending[a]? = some p →
    PendingDeadline w.clock w.committedAt p
  /-- A context that was never committed belongs to one attempt. -/
  sole : ∀ a b s s' c, w.Holds a s c → w.Holds b s' c → w.committedAt c = none → a = b ∧ s = s'
  context : ∀ a s c, w.Holds a s c → c < w.created
  created : ∀ c t, w.committedAt c = some t → c < w.created

namespace DeadlineInv

variable {w w' : World}

lemma bounded (inv : DeadlineInv w) : w.Bounded :=
  fun scope selector window context found has => (inv.window scope window found).2 selector context has

lemma narrow (inv : DeadlineInv w) (h : w.Narrows w') : DeadlineInv w' := by
  have holds {a : Nat} {s : String} {c : Nat} (held : w'.Holds a s c) : w.Holds a s c := by
    obtain ⟨p, found, has⟩ := held
    obtain ⟨old, found', -, -, contexts, -⟩ := h.pending a p found
    exact ⟨old, found', contexts ▸ has⟩
  have later {t : Nat} (le : t ≤ w.clock + WINDOW) : t ≤ w'.clock + WINDOW := by
    have := h.clock
    omega
  refine ⟨fun scope window found => ?_, fun a p found => ?_, fun a b s s' c held held' => ?_,
    fun a s c held => ?_, fun c t => ?_⟩
  · obtain ⟨old, found', expires, contexts⟩ := h.window scope window found
    obtain ⟨le, first⟩ := inv.window scope old found'
    rw [expires, h.committedAt]
    exact ⟨later le, fun s c has => first s c (contexts s c has)⟩
  · obtain ⟨old, found', -, expires, contexts, inherited, -⟩ := h.pending a p found
    obtain ⟨known, alone⟩ := inv.pending a old found'
    refine ⟨fun e eq => ?_, fun eq s c has => ?_⟩
    · rw [contexts, h.committedAt]
      obtain ⟨le, first⟩ := known e (expires ▸ eq)
      exact ⟨later le, first⟩
    · rw [inherited, h.committedAt]
      exact alone (expires ▸ eq) s c (contexts ▸ has)
  · rw [h.committedAt]
    exact inv.sole a b s s' c (holds held) (holds held')
  · rw [h.created]
    exact inv.context a s c (holds held)
  · rw [h.committedAt, h.created]
    exact inv.created c t

lemma setPending (inv : DeadlineInv w) {a : Nat} {p : Pending} (deadline : PendingDeadline w.clock w.committedAt p)
    (held : ∀ (s : String) (c : Nat), p.contexts[s]? = some c → w.Holds a s c ∨
      ∃ t, w.committedAt c = some t) : DeadlineInv (w.setPending a p) := by
  have holds {b : Nat} {s : String} {c : Nat} (h : (w.setPending a p).Holds b s c) :
      w.Holds b s c ∨ ∃ t, w.committedAt c = some t := by
    obtain ⟨q, found, has⟩ := h
    rw [World.setPending, OrdMap.get_insert] at found
    split at found
    · rename_i same
      cases found
      exact same ▸ held s c has
    · exact .inl ⟨q, found, has⟩
  refine ⟨inv.window, fun b q found => ?_, fun b b' s s' c h h' fresh => ?_, fun b s c h => ?_,
    inv.created⟩
  · rw [World.setPending, OrdMap.get_insert] at found
    split at found
    · cases found
      exact deadline
    · exact inv.pending b q found
  · have fresh : w.committedAt c = none := fresh
    rcases holds h with h | ⟨t, committed⟩
    · rcases holds h' with h' | ⟨t, committed⟩
      · exact inv.sole b b' s s' c h h' fresh
      · rw [fresh] at committed
        cases committed
    · rw [fresh] at committed
      cases committed
  · rcases holds h with h | ⟨t, committed⟩
    · exact inv.context b s c h
    · exact inv.created c t committed

lemma beginAttempt (inv : DeadlineInv w) (scope : String) : DeadlineInv (w.beginAttempt scope) := by
  have numbered : DeadlineInv { w with next := w.next + 1 } :=
    ⟨inv.window, inv.pending, inv.sole, inv.context, inv.created⟩
  refine numbered.setPending ⟨fun e eq => ?_, fun eq s c has => ?_⟩ fun s c has => .inr ?_
  · obtain ⟨window, found, rfl⟩ := Option.map_eq_some_iff.1 eq
    obtain ⟨le, first⟩ := inv.window scope window found
    refine ⟨le, fun s c t has committed => ?_⟩
    simp only [found, Option.map_some, Option.getD_some] at has
    obtain ⟨t', committed', bound⟩ := first s c has
    cases committed.symm.trans committed'
    exact bound
  · simp only [Option.map_eq_none_iff.1 eq, Option.map_none, Option.getD_none] at has
    cases has
  · cases found : w.windows[scope]? with
    | none =>
      simp only [found, Option.map_none, Option.getD_none] at has
      cases has
    | some window =>
      simp only [found, Option.map_some, Option.getD_some] at has
      obtain ⟨t, committed, -⟩ := (inv.window scope window found).2 s c has
      exact ⟨t, committed⟩

lemma create (inv : DeadlineInv w) {a : Nat} {p : Pending} (found : w.pending[a]? = some p)
    (s : String) (reading : Finset String) (isValid : Nat → Bool) (owner : Nat → String) :
    DeadlineInv { w.setPending a { p with contexts := p.contexts.insert s w.created, reading } with
      created := w.created + 1, isValid, owner } := by
  have fresh : w.committedAt w.created = none := by
    cases committed : w.committedAt w.created with
    | none => rfl
    | some t => exact (Nat.lt_irrefl _ (inv.created _ t committed)).elim
  have holds {b : Nat} {s' : String} {c : Nat}
      (h : (w.setPending a { p with contexts := p.contexts.insert s w.created, reading }).Holds b s' c) :
      (w.created = c ∧ b = a ∧ s' = s) ∨ w.Holds b s' c := by
    obtain ⟨q, found', has⟩ := h
    rw [World.setPending, OrdMap.get_insert] at found'
    split at found'
    · rename_i same
      cases found'
      rw [OrdMap.get_insert] at has
      split at has
      · rename_i same'
        exact .inl ⟨Option.some.inj has, same.symm, same'.symm⟩
      · exact .inr ⟨p, same ▸ found, has⟩
    · exact .inr ⟨q, found', has⟩
  refine ⟨inv.window, fun b q found' => ?_, fun b b' s₁ s₂ c h h' uncommitted => ?_,
    fun b s' c h => ?_, fun c t committed => Nat.lt_succ_of_lt (inv.created c t committed)⟩
  · change (w.pending.insert a _)[b]? = some q at found'
    rw [OrdMap.get_insert] at found'
    split at found'
    · cases found'
      obtain ⟨known, alone⟩ := inv.pending a p found
      refine ⟨fun e eq => ⟨(known e eq).1, fun s' c t has committed => ?_⟩, fun eq s' c has new => ?_⟩
      · rw [OrdMap.get_insert] at has
        split at has
        · cases has
          cases fresh.symm.trans committed
        · exact (known e eq).2 s' c t has committed
      · rw [OrdMap.get_insert] at has
        split at has
        · cases has
          exact fresh
        · exact alone eq s' c has new
    · exact inv.pending b q found'
  · rcases holds h with ⟨rfl, rfl, rfl⟩ | held
    · rcases holds h' with ⟨-, rfl, rfl⟩ | held'
      · exact ⟨rfl, rfl⟩
      · exact (Nat.lt_irrefl _ (inv.context _ _ _ held')).elim
    · rcases holds h' with ⟨rfl, rfl, rfl⟩ | held'
      · exact (Nat.lt_irrefl _ (inv.context _ _ _ held)).elim
      · exact inv.sole b b' s₁ s₂ c held held' uncommitted
  · rcases holds h with ⟨rfl, rfl, rfl⟩ | held
    · exact Nat.lt_succ_self _
    · exact Nat.lt_succ_of_lt (inv.context b s' c held)

end DeadlineInv

namespace DeadlineInv

variable {w : World} {a : Nat} {p : Pending} {now c : Nat} {s : String} {r : Reading}

lemma commitExpires_le_clock (inv : DeadlineInv w) (found : w.pending[a]? = some p) (past : now ≤ w.clock) :
    w.commitExpires p now ≤ w.clock + WINDOW := by
  obtain ⟨own, shared, new⟩ := World.commitExpires_le (w := w) (p := p) now
  cases expires : p.expires with
  | some e => exact Nat.le_trans (own e expires) ((inv.pending a p found).found e expires).1
  | none =>
    cases there : w.windows[p.scope]? with
    | some window => exact Nat.le_trans (shared window there) (inv.window p.scope window there).1
    | none =>
      rw [new expires there]
      exact Nat.add_le_add_right past WINDOW

lemma commitExpires_le_first (inv : DeadlineInv w) (found : w.pending[a]? = some p) (now : Nat)
    (again : p.expires = none → ∀ (s : String) (c : Nat), p.contexts[s]? = some c →
      s ∈ p.used ∩ p.inherited → w.isValid c = true → w.InWindow p.scope s c) {t : Nat}
    (has : (w.commitContexts p)[s]? = some c) (first : w.committedAt c = some t) :
    w.commitExpires p now ≤ t + WINDOW := by
  obtain ⟨own, shared, -⟩ := World.commitExpires_le (w := w) (p := p) now
  have inside (inside : w.InWindow p.scope s c) : w.commitExpires p now ≤ t + WINDOW := by
    obtain ⟨window, there, has⟩ := inside
    obtain ⟨t', first', le⟩ := (inv.window p.scope window there).2 s c has
    cases first.symm.trans first'
    exact Nat.le_trans (shared window there) le
  obtain ⟨valid, window | ⟨has, used⟩⟩ := World.commitContexts_spec has
  · exact inside window
  · obtain ⟨known, alone⟩ := inv.pending a p found
    cases expires : p.expires with
    | some e => exact Nat.le_trans (own e expires) ((known e expires).2 s c t has first)
    | none =>
      by_cases old : s ∈ p.inherited
      · exact inside (again expires s c has (Finset.mem_inter.2 ⟨used, old⟩) valid)
      · rw [alone expires s c has old] at first
        cases first

lemma commitContexts_new (inv : DeadlineInv w) (found : w.pending[a]? = some p)
    (has : (w.commitContexts p)[s]? = some c) (new : w.committedAt c = none) : w.Holds a s c ∧ s ∈ p.used := by
  obtain ⟨-, ⟨window, there, has⟩ | ⟨has, used⟩⟩ := World.commitContexts_spec has
  · obtain ⟨t, committed, -⟩ := (inv.window p.scope window there).2 s c has
    rw [new] at committed
    cases committed
  · exact ⟨⟨p, found, has⟩, used⟩

lemma putWindow (inv : DeadlineInv w) (found : w.pending[a]? = some p) {window : Window}
    (ahead : window.expires ≤ w.clock + WINDOW)
    (first : ∀ (s : String) (c t : Nat), window.contexts[s]? = some c → w.committedAt c = some t →
      window.expires ≤ t + WINDOW)
    (new : ∀ (s : String) (c : Nat), window.contexts[s]? = some c → w.committedAt c = none →
      w.Holds a s c ∧ s ∈ p.used) : DeadlineInv (w.putWindow a p window) := by
  have holds {b : Nat} {s : String} {c : Nat} (h : (w.putWindow a p window).Holds b s c) :
      w.Holds b s c := by
    obtain ⟨q, there, has⟩ := h
    rw [World.putWindow, OrdMap.get_insert] at there
    split at there
    · rename_i same
      cases there
      exact ⟨p, same ▸ found, has⟩
    · exact ⟨q, there, has⟩
  -- An attempt keeps its deadline, and its new contexts stay its own.
  have keeps {b : Nat} {q q' : Pending} (there : w.pending[b]? = some q)
      (expires : q'.expires = q.expires) (contexts : q'.contexts = q.contexts)
      (inherited : ∀ s, s ∉ q'.inherited → s ∉ q.inherited ∧ (b = a → s ∉ p.used)) :
      PendingDeadline w.clock (w.firstCommits window.contexts) q' := by
    obtain ⟨known, alone⟩ := inv.pending b q there
    refine ⟨fun e eq => ?_, fun eq s c has old => ?_⟩
    · rw [expires] at eq
      refine ⟨(known e eq).1, fun s c t has committed => ?_⟩
      rw [contexts] at has
      rcases World.firstCommits_eq_some committed with before | ⟨rfl, -⟩
      · exact (known e eq).2 s c t has before
      · exact (known e eq).1
    · rw [expires] at eq
      rw [contexts] at has
      have before := alone eq s c has (inherited s old).1
      rw [Option.eq_none_iff_forall_ne_some]
      intro t committed
      rcases World.firstCommits_eq_some committed with before' | ⟨-, -, s', has'⟩
      · rw [before] at before'
        cases before'
      · obtain ⟨held, used⟩ := new s' c has' before
        obtain ⟨rfl, rfl⟩ := inv.sole b a s s' c ⟨q, there, has⟩ held before
        exact (inherited s old).2 rfl used
  refine ⟨fun scope window' there => ?_, fun b q there => ?_, fun b b' s s' c h h' none => ?_,
    fun b s c h => inv.context b s c (holds h), fun c t committed => ?_⟩
  · rw [World.putWindow, OrdMap.get_insert] at there
    split at there
    · cases there
      refine ⟨ahead, fun s c has => ?_⟩
      cases committed : w.committedAt c with
      | some t => exact ⟨t, World.firstCommits_of_some committed, first s c t has committed⟩
      | none =>
        refine ⟨w.clock, ?_, ahead⟩
        change w.firstCommits window.contexts c = some w.clock
        rw [World.firstCommits, if_pos (OrdMap.mem_valueList.2 ⟨s, has⟩), committed, Option.none_or]
    · obtain ⟨le, first⟩ := inv.window scope window' there
      refine ⟨le, fun s c has => ?_⟩
      obtain ⟨t, committed, bound⟩ := first s c has
      exact ⟨t, World.firstCommits_of_some committed, bound⟩
  · rw [World.putWindow, OrdMap.get_insert] at there
    split at there
    · rename_i same
      subst same
      cases there
      refine keeps found rfl rfl fun s old => ?_
      obtain ⟨old, unused⟩ := not_or.1 (fun h => old (Finset.mem_union.2 h))
      exact ⟨old, fun _ => unused⟩
    · rename_i other
      exact keeps there rfl rfl fun s old => ⟨old, fun same => (other same.symm).elim⟩
  · refine inv.sole b b' s s' c (holds h) (holds h') ?_
    rw [Option.eq_none_iff_forall_ne_some]
    intro t committed
    cases none.symm.trans (World.firstCommits_of_some committed)
  · rcases World.firstCommits_eq_some committed with before | ⟨-, none, s, has⟩
    · exact inv.created c t before
    · exact inv.context a s c (new s c has none).1

lemma commit (inv : DeadlineInv w) (found : w.pending[a]? = some p) (past : now ≤ w.clock)
    (again : p.expires = none → ∀ (s : String) (c : Nat), p.contexts[s]? = some c →
      s ∈ p.used ∩ p.inherited → w.isValid c = true → w.InWindow p.scope s c) {oldest : String} {w' : World}
    (h : w.commit a p now oldest = some w') : DeadlineInv w' := by
  rw [World.commit] at h
  split at h
  · cases h
    exact inv
  dsimp only at h
  split at h
  · cases h
    exact inv
  obtain ⟨room, evicted, rfl⟩ := Option.map_eq_some_iff.1 h
  have narrows : w.Narrows room ∧ room.clock = w.clock := by
    rcases World.evict_spec evicted with rfl | ⟨-, rfl⟩
    · exact ⟨.of_registry rfl rfl rfl rfl (Nat.le_refl _) (fun _ h => h) rfl rfl, rfl⟩
    · exact ⟨.revokeMatching _ _, rfl⟩
  obtain ⟨narrows, clock⟩ := narrows
  have found' := World.evict_pending evicted found
  refine (inv.narrow narrows).putWindow found' ?_ (fun s c t has committed => ?_)
    (fun s c has none => ?_)
  · rw [clock]
    exact inv.commitExpires_le_clock found past
  · rw [narrows.committedAt] at committed
    exact inv.commitExpires_le_first found now again has committed
  · rw [narrows.committedAt] at none
    obtain ⟨⟨q, there, has⟩, used⟩ := inv.commitContexts_new found has none
    cases found.symm.trans there
    exact ⟨⟨p, found', has⟩, used⟩

lemma selectContext (inv : DeadlineInv w) (found : w.pending[r.attempt]? = some p) (id : Nat) (created : Bool) :
    DeadlineInv (w.selectContext id r p created) := by
  unfold World.selectContext
  dsimp only
  split
  · exact inv.narrow (.goto id none)
  split
  · refine inv.narrow (.trans ?_ (.goto id _))
    exact .setPending found rfl rfl rfl rfl fun valid => valid
  · split
    · exact inv.narrow (.goto id none)
    · exact (inv.create found r.selector _ _ _).narrow (.goto id _)

lemma proceedRead (inv : DeadlineInv w) (found : w.pending[r.attempt]? = some p) (id : Nat) (input : Input) :
    DeadlineInv (proceedRead w id r p input) := by
  unfold Approval.proceedRead
  cases r.stage with
  | entered => exact inv.narrow (.goto id _)
  | refused => exact inv.narrow (.goto id _)
  | marking ending =>
    refine inv.narrow (.trans ?_ (.goto id _))
    exact .setPending found rfl rfl rfl rfl fun valid => valid
  | selecting => exact inv.selectContext found id input.created
  | selected context retained =>
    dsimp only
    split
    · exact inv.narrow (.trans (.goto id _) (.emit _))
    · exact inv.narrow (.goto id _)
  | calling context retained =>
    dsimp only
    split
    · exact inv.narrow (.goto id _)
    split
    · exact inv.narrow (.goto id _)
    cases input.result with
    | found => exact inv.narrow (.goto id _)
    | absent => exact inv.narrow (.goto id _)
    | error => exact inv.narrow (.goto id _)
  | found context retained =>
    unfold World.useContext
    dsimp only
    split
    · refine inv.narrow (.trans ?_ (.goto id _))
      exact .setPending found rfl rfl rfl rfl fun valid => valid
    · refine inv.narrow (.trans (.trans ?_ (.goto id none)) (.emit _))
      exact .setPending found rfl rfl rfl rfl fun valid => valid
  | failing =>
    refine inv.narrow (.trans ?_ (.goto id _))
    exact .setPending found rfl rfl rfl rfl fun valid => valid
  | revoking => exact inv.narrow (.trans (.revokeMatching _ _) (.goto id _))

lemma discardCached (inv : DeadlineInv w) : DeadlineInv (w.discardCached a p) := by
  unfold World.discardCached
  split
  · refine (inv.narrow (.revokeMatching (.only p.scope) (some a))).setPending ?_ (by intros; contradiction)
    exact ⟨(by intros; contradiction), (by intros; contradiction)⟩
  · exact inv

end DeadlineInv

/-- The time of a `connected` that is under way has passed. -/
def Timely (w : World) : Prop :=
  ∀ id a now : Nat, w.calls[id]? = some (.connected a now) → now ≤ w.clock

namespace Timely

variable {w : World}

lemma goto (timely : Timely w) (id : Nat) {call : Option Call}
    (past : ∀ a now, call = some (.connected a now) → now ≤ w.clock) : Timely (w.goto id call) := by
  intro b a now found
  rcases World.goto_calls found with new | old
  · exact past a now new
  · exact timely b a now old

lemma emit (timely : Timely w) (event : Event) : Timely (w.emit event) := timely

lemma gotoRead (timely : Timely w) (id : Nat) (r : Reading) (retained : Bool) (ending : Ending) :
    Timely (w.goto id (r.ends retained ending)) := by
  refine timely.goto id fun a now eq => ?_
  cases retained <;> cases ending <;> cases eq

lemma proceedRead (timely : Timely w) (id : Nat) (r : Reading) (p : Pending) (input : Input) :
    Timely (proceedRead w id r p input) := by
  unfold Approval.proceedRead
  cases r.stage with
  | entered => exact timely.goto id nofun
  | refused => exact timely.gotoRead id r _ _
  | marking ending => exact gotoRead (w := w.setPending _ _) timely id r _ _
  | selecting =>
    unfold World.selectContext
    dsimp only
    split
    · exact timely.goto id nofun
    split
    · exact goto (w := w.setPending _ _) timely id nofun
    · split
      · exact timely.goto id nofun
      · exact goto (w := { w.setPending _ _ with created := _, isValid := _, owner := _ }) timely id nofun
  | selected context retained =>
    dsimp only
    split
    · refine emit (timely.goto id ?_) _
      exact nofun
    · exact timely.gotoRead id r _ _
  | calling context retained =>
    dsimp only
    split
    · exact timely.gotoRead id r _ _
    split
    · exact timely.gotoRead id r _ _
    cases input.result with
    | found => exact timely.goto id nofun
    | absent => cases retained <;> exact timely.goto id nofun
    | error => exact timely.gotoRead id r _ _
  | found context retained =>
    unfold World.useContext
    dsimp only
    split
    · exact gotoRead (w := w.setPending _ _) timely id r _ _
    · refine emit (goto (w := w.setPending _ _) timely id ?_) _
      exact nofun
  | failing => exact goto (w := w.setPending _ _) timely id nofun
  | revoking => exact goto (w := w.revokeMatching _ _) timely id nofun

lemma commit (timely : Timely w) {a now : Nat} {p : Pending} {oldest : String} {w' : World}
    (h : w.commit a p now oldest = some w') : Timely w' := by
  rw [World.commit] at h
  split at h
  · cases h
    exact timely
  dsimp only at h
  split at h
  · cases h
    exact timely
  obtain ⟨room, evicted, rfl⟩ := Option.map_eq_some_iff.1 h
  rcases World.evict_spec evicted with rfl | ⟨-, rfl⟩
  · exact timely
  · exact timely

end Timely

variable {w : World}

end Ctl.Approval
