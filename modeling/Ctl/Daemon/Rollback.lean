import Ctl.Daemon.Revisions

/-!
# Undoing a tentative change

`resize_pane`, `resize_divider`, `swap_pane`, `set_view_zoom` and `break_pane` install a tentative view,
resize its panes one by one and put everything back when a resize fails. `Attempt` is that common part,
and `attempt_cases` reduces each operation to it. The main result, `topology_rollback`, holds for every
position at which a resize fails.
-/

namespace Ctl.Daemon
open Ctl.Base Ctl.Proto Ctl.Core

/-! ### Outcomes of resizes -/

/-- The resizes that used up a script up to the rest have all succeeded. -/
def Succeeds (pty rest : List (Option String)) : Prop := ∃ n, pty = List.replicate n none ++ rest

/-- The resizes that used up a script up to the rest have succeeded, apart from the last one. -/
def Fails (pty : List (Option String)) (message : String) (rest : List (Option String)) : Prop :=
  Succeeds pty (some message :: rest)

namespace Succeeds

variable {pty pty' rest : List (Option String)}

lemma refl (pty : List (Option String)) : Succeeds pty pty := ⟨0, rfl⟩

lemma trans (h : Succeeds pty pty') (k : Succeeds pty' rest) : Succeeds pty rest := by
  obtain ⟨n, rfl⟩ := h
  obtain ⟨m, rfl⟩ := k
  refine ⟨n + m, ?_⟩
  rw [← List.append_assoc, List.replicate_append_replicate]

lemma before_failure {message : String} (h : Succeeds pty pty') (failing : Fails pty message rest) :
    rest.length < pty'.length := by
  obtain ⟨n, rfl⟩ := h
  obtain ⟨m, eq⟩ := failing
  induction n generalizing m with
  | zero =>
    rw [List.replicate_zero, List.nil_append] at eq
    rw [eq, List.length_append, List.length_cons]
    omega
  | succ n ih =>
    cases m with
    | zero => cases eq
    | succ m => exact ih m (List.cons.inj eq).2

end Succeeds

def Terminal.unsized (terminal : Terminal) : Terminal := { terminal with terminalSize := .default }

namespace Registry

/-! ### What resizing changes -/

def Sized (r r' : Registry) : Prop :=
  ∀ id, (AList.lookup id r'.heap).map Terminal.unsized = (AList.lookup id r.heap).map Terminal.unsized

lemma Sized.refl (r : Registry) : Sized r r := fun _ => rfl

lemma Sized.trans {r r' r'' : Registry} (h : Sized r r') (k : Sized r' r'') : Sized r r'' :=
  fun id => (k id).trans (h id)

variable {r : Registry} {id : String} {size : TerminalSize} {outcome : Outcome Unit} {view : View} {r' : Registry}

lemma Sized.same (sized : Sized r r') (before : (AList.lookup id r.heap).map (·.terminalSize) = some size)
    (after : (AList.lookup id r'.heap).map (·.terminalSize) = some size) :
    AList.lookup id r'.heap = AList.lookup id r.heap := by
  have same := sized id
  obtain ⟨old, hold, rfl⟩ := Option.map_eq_some_iff.1 before
  obtain ⟨new, hnew, eq⟩ := Option.map_eq_some_iff.1 after
  rw [hold, hnew] at same ⊢
  have same := Option.some.inj same
  rcases old with ⟨⟩
  rcases new with ⟨⟩
  simp only [Terminal.unsized, Terminal.mk.injEq] at same eq ⊢
  simp [same, eq]

/-- How a resize ends. -/
inductive Resized (r : Registry) (id : String) (size : TerminalSize) : Outcome Unit → Prop
  | failed {message : String} {pty : List (Option String)} :
    r.pty = some message :: pty → Resized r id size ({ r with pty }, .fail (.pty message))
  | done {pty : List (Option String)} : r.pty = none :: pty ∨ r.pty = [] ∧ pty = [] →
    Resized r id size
      (editTerminal { r with pty } id fun terminal => { terminal with terminalSize := size }, .ok ())

lemma resizePty_resized (r : Registry) (id : String) (size : TerminalSize) :
    Resized r id size (r.resizePty id size) := by
  unfold resizePty
  split
  case h_1 message pty eq => exact .failed eq
  case h_2 pty eq => exact .done (.inl eq)
  case h_3 eq =>
    have same : r = { r with pty := [] } := by rw [← eq]
    rw [same]
    exact .done (.inr ⟨rfl, rfl⟩)

lemma Resized.sized (h : Resized r id size outcome) : Sized r outcome.1 := by
  cases h with
  | failed _ => exact .refl r
  | done _ => exact Table.map_lookup_modify fun _ => rfl

/-- A number of resizes: they all succeed, or the last one fails with the text of the error. -/
inductive Tries (pty : List (Option String)) : Outcome Unit → Prop
  | failed {r : Registry} {message : String} : Fails pty message r.pty →
    Tries pty (r, .fail (.pty message))
  | passed {r : Registry} {result : Res SessionError Unit} : Succeeds pty r.pty →
    (∀ e, result ≠ .fail e) → Tries pty (r, result)

lemma Resized.tries (h : Resized r id size outcome) : Tries r.pty outcome := by
  cases h with
  | failed eq => exact .failed ⟨0, eq⟩
  | done eq =>
    refine .passed ?_ (by nofun)
    rcases eq with eq | ⟨eq, rfl⟩
    · exact ⟨1, eq⟩
    · exact ⟨0, eq⟩

lemma Tries.after {pty pty' : List (Option String)} (h : Succeeds pty pty') (tries : Tries pty' outcome) :
    Tries pty outcome := by
  cases tries with
  | failed fails => exact .failed (h.trans fails)
  | passed succeeds noFail => exact .passed (h.trans succeeds) noFail

lemma bind_ne_fail {ε α β : Type} {x : Res ε α} {f : α → Res ε β} (hx : ∀ e, x ≠ .fail e) (hf : ∀ a e, f a ≠ .fail e)
    (e : ε) : x >>= f ≠ .fail e := by
  cases x with
  | error fault =>
    rintro ⟨rfl⟩
    exact hx e rfl
  | ok a => exact hf a e

lemma word_ne_fail {ε : Type} (w n : Nat) (e : ε) : word w n ≠ .fail e := by
  unfold word
  split <;> nofun

lemma divWord_ne_fail {ε : Type} (a b : Nat) (e : ε) : divWord a b ≠ .fail e := by
  unfold divWord
  split <;> nofun

lemma paneSize_ne_fail (canvas : TerminalSize) (pane : PaneGeometry) (e : SessionError) :
    paneSize canvas pane ≠ .fail e := by
  unfold paneSize
  apply bind_ne_fail (divWord_ne_fail _ _)
  intro _
  apply bind_ne_fail (word_ne_fail _ _)
  intro _
  apply bind_ne_fail (divWord_ne_fail _ _)
  intro _
  apply bind_ne_fail (word_ne_fail _ _)
  nofun

lemma resizePanes_tries (size : TerminalSize) (r : Registry) (panes : List PaneGeometry) :
    Sized r (resizePanes size r panes).1 ∧ Tries r.pty (resizePanes size r panes) := by
  induction panes generalizing r with
  | nil => exact ⟨.refl r, .passed (.refl _) (by nofun)⟩
  | cons pane panes ih =>
    rw [resizePanes]
    split
    case isFalse => exact ih r
    case isTrue =>
      split
      case h_1 e failed =>
        refine ⟨.refl r, .passed (.refl _) ?_⟩
        rintro e' ⟨rfl⟩
        exact paneSize_ne_fail size pane e' failed
      case h_2 paneSize _ =>
        have resized := r.resizePty_resized pane.terminalId paneSize
        have sized := resized.sized
        have tries := resized.tries
        split
        case h_1 r' eq =>
          rw [eq] at sized tries
          obtain ⟨rest, later⟩ := ih r'
          refine ⟨sized.trans rest, ?_⟩
          cases tries with
          | passed succeeds _ => exact later.after succeeds
        case h_2 r' e eq =>
          rw [eq] at sized tries
          exact ⟨sized, tries⟩

lemma reflowView_tries {root : Session} (found : AList.lookup id r.sessions = some root) (ids : List String)
    (inside : ∀ panes, viewPanes root.view root.view.canvasSize = .ok panes →
      ∀ pane ∈ panes, pane.terminalId ∈ ids) :
    Sized r (r.reflowView id).1 ∧
      (∀ k ∉ ids, AList.lookup k (r.reflowView id).1.heap = AList.lookup k r.heap) ∧
      ((r.reflowView id).1 = r ∨ Tries r.pty (r.reflowView id)) := by
  unfold reflowView
  rw [found]
  dsimp only
  unfold resizeView
  rw [found]
  dsimp only
  split
  case h_1 => exact ⟨.refl r, fun _ _ => rfl, .inl rfl⟩
  case h_2 panes placed =>
    obtain ⟨sized, tries⟩ := resizePanes_tries root.view.canvasSize r panes
    have other := (resizePanes_spec root.view.canvasSize r panes).2
    have outside : ∀ k ∉ ids, k ∉ panes.map (·.terminalId) := by
      intro k absent mem
      obtain ⟨pane, hpane, rfl⟩ := List.mem_map.1 mem
      exact absent (inside panes placed pane hpane)
    split
    case h_1 r' e eq =>
      rw [eq] at sized tries other
      exact ⟨sized, fun k absent => other k (outside k absent), .inr tries⟩
    case h_2 r' eq =>
      rw [eq] at sized tries other
      rw [if_pos rfl]
      exact ⟨sized, fun k absent => other k (outside k absent), .inr tries⟩

/-! ### What restoring changes -/

lemma restoreViewGeometry_heap (geometry : List (String × TerminalSize)) (sized : Sized r r')
    (known : ∀ entry ∈ geometry, (AList.lookup entry.1 r.heap).map (·.terminalSize) = some entry.2)
    (cover : ∀ k, AList.lookup k r'.heap ≠ AList.lookup k r.heap → k ∈ geometry.map (·.1))
    (succeed : ∀ outcome ∈ r'.pty.take geometry.length, outcome = none) (k : String) :
    AList.lookup k (restoreViewGeometry r' geometry).heap = AList.lookup k r.heap := by
  induction geometry generalizing r' with
  | nil =>
    by_contra changed
    exact absurd (cover k changed) List.not_mem_nil
  | cons entry geometry ih =>
    obtain ⟨id, size⟩ := entry
    have resized := r'.resizePty_resized id size
    have sized' := sized.trans resized.sized
    have other := fun k (ne : k ≠ id) => lookup_resizePty_ne r' ne size
    have head := known (id, size) List.mem_cons_self
    have now : AList.lookup id (r'.resizePty id size).1.heap = AList.lookup id r.heap ∧
        ∀ outcome ∈ (r'.resizePty id size).1.pty.take geometry.length, outcome = none := by
      generalize r'.resizePty id size = outcome at resized sized'
      cases resized with
      | @failed message pty eq =>
        have none := succeed (some message) (by rw [eq]; exact List.mem_cons_self)
        cases none
      | @done pty eq =>
        constructor
        · refine sized'.same head ?_
          have there := sized id
          obtain ⟨old, hold, -⟩ := Option.map_eq_some_iff.1 head
          rw [hold] at there
          obtain ⟨new, hnew, -⟩ := Option.map_eq_some_iff.1 there
          show (AList.lookup id (r'.heap.modify id _)).map _ = _
          rw [Table.lookup_modify_self, hnew]
          rfl
        · intro outcome mem
          rcases eq with eq | ⟨-, rfl⟩
          · refine succeed outcome ?_
            rw [eq]
            exact List.mem_cons_of_mem none mem
          · exact absurd (List.mem_of_mem_take mem) List.not_mem_nil
    refine ih sized' (fun entry mem => known entry (List.mem_cons_of_mem _ mem)) ?_ now.2
    intro k changed
    have ne : k ≠ id := fun eq => changed (eq ▸ now.1)
    rw [other k ne] at changed
    exact (List.mem_cons.1 (cover k changed)).resolve_left ne

/-! ### Attempts -/

structure Attempt where
  registry : Registry
  owner : String
  root : Session
  geometry : List (String × TerminalSize)
  change : View → View

def Attempt.run (attempt : Attempt) : Outcome Unit :=
  attempt.registry.tryView attempt.owner attempt.root.view attempt.geometry attempt.change

/-- Every resize that restores a size succeeds. -/
def Attempt.Restores (attempt : Attempt) : Prop :=
  ∀ outcome ∈ ((attempt.registry.editView attempt.owner attempt.change).reflowView
    attempt.owner).1.pty.take attempt.geometry.length, outcome = none

instance (attempt : Attempt) : Decidable attempt.Restores :=
  inferInstanceAs (Decidable (∀ outcome ∈ ((attempt.registry.editView attempt.owner
    attempt.change).reflowView attempt.owner).1.pty.take attempt.geometry.length, outcome = none))

/-- The attempt of an operation, which has changed nothing but sizes before. -/
structure Attempts (r : Registry) (attempt : Attempt) : Prop where
  calm : Calm r attempt.registry
  sized : Sized r attempt.registry
  succeeds : Succeeds r.pty attempt.registry.pty
  found : AList.lookup attempt.owner r.sessions = some attempt.root
  geometry : attempt.geometry = r.captureViewGeometry attempt.root.view
  outside : ∀ k ∉ attempt.root.view.layout.terminalIds,
    AList.lookup k attempt.registry.heap = AList.lookup k r.heap
  canvas : (attempt.change attempt.root.view).canvasSize = attempt.root.view.canvasSize
  viewId : (attempt.change attempt.root.view).id = attempt.root.view.id
  leases : (attempt.change attempt.root.view).leases = attempt.root.view.leases
  valid : (attempt.change attempt.root.view).layout.Valid 0
  leaves : ∀ id ∈ (attempt.change attempt.root.view).layout.terminalIds,
    id ∈ attempt.root.view.layout.terminalIds
  zoom : ∀ id ∈ (attempt.change attempt.root.view).zoomedTerminalId,
    id ∈ attempt.root.view.layout.terminalIds

lemma viewPanes_inside {panes : List PaneGeometry} {ids : List String} (valid : view.layout.Valid 0)
    (leaves : ∀ id ∈ view.layout.terminalIds, id ∈ ids) (zoom : ∀ id ∈ view.zoomedTerminalId, id ∈ ids)
    (ok : viewPanes view size = .ok panes) : ∀ pane ∈ panes, pane.terminalId ∈ ids := by
  cases zoomed : view.zoomedTerminalId with
  | none =>
    obtain ⟨-, same, -⟩ := viewPanes_spec valid zoomed ok
    intro pane mem
    refine leaves pane.terminalId ?_
    rw [← same]
    exact List.mem_map_of_mem mem
  | some id =>
    rw [viewPanes, zoomed] at ok
    cases ok
    intro pane mem
    obtain rfl := List.mem_singleton.1 mem
    exact zoom id zoomed

lemma mem_captureViewGeometry {entry : String × TerminalSize} :
    entry ∈ r.captureViewGeometry view → (AList.lookup entry.1 r.heap).map (·.terminalSize)
      = some entry.2 := by
  intro mem
  obtain ⟨id, -, captured⟩ := List.mem_filterMap.1 mem
  obtain ⟨terminal, found, rfl⟩ := Option.map_eq_some_iff.1 captured
  rw [(terminal?_eq_some found).2]
  rfl

lemma captureViewGeometry_covers (leaf : id ∈ view.layout.terminalIds) {terminal : Terminal}
    (found : r.terminal? id = some terminal) : id ∈ (r.captureViewGeometry view).map (·.1) := by
  refine List.mem_map.2 ⟨(id, terminal.terminalSize), List.mem_filterMap.2 ⟨id, leaf, ?_⟩, rfl⟩
  rw [found]
  rfl

lemma restoreViewGeometry_sized (r : Registry) (geometry : List (String × TerminalSize)) :
    Sized r (restoreViewGeometry r geometry) := by
  induction geometry generalizing r with
  | nil => exact .refl r
  | cons entry geometry ih => exact (r.resizePty_resized entry.1 entry.2).sized.trans (ih _)

namespace Attempts

variable {r : Registry} {attempt : Attempt}

lemma reflow (attempts : Attempts r attempt) :
    let reflowed := (attempt.registry.editView attempt.owner attempt.change).reflowView attempt.owner
    Sized r reflowed.1 ∧
      (∀ k ∉ attempt.root.view.layout.terminalIds,
        AList.lookup k reflowed.1.heap = AList.lookup k r.heap) ∧
      (reflowed.1.pty = attempt.registry.pty ∨ Tries r.pty reflowed) := by
  have there := (attempts.calm.sessions attempt.owner).trans attempts.found
  have edited : attempt.registry.editView attempt.owner attempt.change
      = attempt.registry.withSession attempt.owner
        { attempt.root with view := attempt.change attempt.root.view } := editSession_eq there _
  have now : AList.lookup attempt.owner (attempt.registry.withSession attempt.owner
      { attempt.root with view := attempt.change attempt.root.view }).sessions
        = some { attempt.root with view := attempt.change attempt.root.view } := by
    rw [lookup_withSession, if_pos rfl]
  rw [edited]
  obtain ⟨sized, outside, tries⟩ := reflowView_tries now attempt.root.view.layout.terminalIds
    fun panes placed => viewPanes_inside attempts.valid attempts.leaves attempts.zoom placed
  refine ⟨attempts.sized.trans sized, fun k absent => ?_, ?_⟩
  · exact (outside k absent).trans (attempts.outside k absent)
  · rcases tries with same | tries
    · exact .inl (by rw [same]; rfl)
    · exact .inr (tries.after attempts.succeeds)

lemma undone (attempts : Attempts r attempt) (owned : r.Owned) {e : SessionError} (failed : attempt.run.2 = .fail e) :
    Calm r attempt.run.1 ∧ Sized r attempt.run.1 ∧
      (attempt.Restores → ∀ id, AList.lookup id attempt.run.1.heap = AList.lookup id r.heap) := by
  have there := (attempts.calm.sessions attempt.owner).trans attempts.found
  obtain ⟨sized, outside, -⟩ := attempts.reflow
  refine ⟨?_, ?_⟩
  · rcases tryView_spec attempt.geometry attempt.change there attempts.canvas attempts.viewId
      attempts.leases with ⟨_, -, calm⟩ | ⟨done | panic, -⟩
    · exact attempts.calm.trans calm
    · cases failed.symm.trans done
    · cases failed.symm.trans panic
  · unfold Attempt.run tryView at failed ⊢
    unfold Attempt.Restores
    split at failed
    case h_2 noErr _ => exact (noErr e failed).elim
    case h_1 r' e' eq =>
      rw [eq] at sized outside ⊢
      refine ⟨sized.trans (restoreViewGeometry_sized (r'.editView attempt.owner _) _), ?_⟩
      intro restores id
      have resized : r.Sized (r'.editView attempt.owner (restoreView attempt.root.view)) := sized
      refine restoreViewGeometry_heap attempt.geometry resized ?_ ?_ restores id
      · intro entry mem
        exact mem_captureViewGeometry (attempts.geometry ▸ mem)
      · intro k changed
        -- Only terminals of the view were resized, and they are registered.
        have leaf : k ∈ attempt.root.view.layout.terminalIds := by
          by_contra absent
          exact changed (outside k absent)
        obtain ⟨mem, -⟩ := owned.leaf _ _ attempts.found k leaf
        obtain ⟨terminal, -, hterminal, -⟩ := owned.registered mem
        rw [attempts.geometry]
        have shown : r.terminal? k = some terminal := by rw [terminal?, if_pos mem, hterminal]
        exact captureViewGeometry_covers leaf shown

lemma passed (attempts : Attempts r attempt) (passed : ∀ e, attempt.run.2 ≠ .fail e) :
    Succeeds r.pty attempt.run.1.pty := by
  obtain ⟨-, -, tries⟩ := attempts.reflow
  unfold Attempt.run tryView at passed ⊢
  split at passed
  case h_1 e _ => exact (passed e rfl).elim
  case h_2 r' result noErr eq =>
    rw [eq] at tries
    rcases tries with same | tries
    · exact same ▸ attempts.succeeds
    · cases tries with
      | failed _ => exact (noErr _ rfl).elim
      | passed succeeds _ => exact succeeds

lemma of_relayout {k : String} {session : Session} {layout : ViewLayout}
    (found : AList.lookup k r.sessions = some session) (valid : layout.Valid 0)
    (leaves : ∀ id ∈ layout.terminalIds, id ∈ session.view.layout.terminalIds) :
    Attempts r ⟨r, k, session, r.captureViewGeometry session.view, relayout layout⟩ where
  calm := .refl r
  sized := .refl r
  succeeds := .refl _
  found := found
  geometry := rfl
  outside _ _ := rfl
  canvas := rfl
  viewId := rfl
  leases := rfl
  valid := valid
  leaves := leaves
  zoom id h := (Option.not_mem_none id h).elim

end Attempts

/-- The attempt of `resizeLayout`. -/
def layoutAttempt (r : Registry) (self attachmentId : String)
    (change : View → Res SessionError (ViewLayout × Bool)) : Option Attempt :=
  match r.leasedView self attachmentId with
  | .error _ => none
  | .ok (owner, root) =>
    match change root.view with
    | .error _ => none
    | .ok (layout, changed) =>
      if changed then some ⟨r, owner, root, r.captureViewGeometry root.view, relayout layout⟩ else none

/-- The attempt of `setViewZoom`, after the pane that is zoomed has returned to its place. -/
def zoomAttempt (r : Registry) (self attachmentId : String) (terminalId : Option String) : Option Attempt :=
  match r.leasedView self attachmentId with
  | .error _ => none
  | .ok (owner, root) =>
    match r.checkZoom root.view terminalId with
    | .error _ => none
    | .ok () =>
      if root.view.zoomedTerminalId = terminalId then none
      else
        let geometry := r.captureViewGeometry root.view
        match r.unzoomPane root.view root.view.zoomedTerminalId terminalId with
        | (_, .error _) => none
        | (r, .ok ()) => some ⟨r, owner, root, geometry, rezoom terminalId⟩

/-- The attempt of `breakPane`. -/
def breakAttempt (r : Registry) (self attachmentId : String) (target : PaneTarget) : Option Attempt :=
  match r.breakPlan self attachmentId target with
  | .error _ => none
  | .ok (sourceId, root, remaining) =>
    some ⟨r, sourceId, root, r.captureViewGeometry root.view, relayout remaining⟩

end Registry

/-! ### The operations -/

/-- The operations that undo a change when a resize fails. -/
inductive TopologyChange where
  | resizePane (self attachmentId terminalId : String) (direction : ResizeDirection) (amount : UInt16)
  | resizeDivider (self attachmentId : String) (divider : DividerResize)
  | swapPane (self attachmentId : String) (target : PaneTarget) (previous : Bool)
  | setViewZoom (self attachmentId : String) (terminalId : Option String)
  | breakPane (self attachmentId : String) (target : PaneTarget) (newOwner : TerminalOwner)

def Outcome.void {α : Type} : Outcome α → Outcome Unit
  | (r, .ok _) => (r, .ok ())
  | (r, .error e) => (r, .error e)

def Outcome.reply {α : Type} : Outcome (Res SessionError α) → Outcome α
  | (r, .ok reply) => (r, reply)
  | (r, .error e) => (r, .error e)

lemma Outcome.void_fst {α : Type} (outcome : Outcome α) : outcome.void.1 = outcome.1 := by
  obtain ⟨r, result⟩ := outcome
  cases result <;> rfl

namespace TopologyChange
open Registry

def run (r : Registry) : TopologyChange → Outcome Unit
  | resizePane self attachmentId terminalId direction amount =>
    (r.resizePane self attachmentId terminalId direction amount).void
  | resizeDivider self attachmentId divider => (r.resizeDivider self attachmentId divider).void
  | swapPane self attachmentId target previous => (r.swapPane self attachmentId target previous).void
  | setViewZoom self attachmentId terminalId => (r.setViewZoom self attachmentId terminalId).void
  | breakPane self attachmentId target newOwner =>
    (r.breakPane self attachmentId target newOwner).reply.void

def sends (r : Registry) : TopologyChange → List ViewInfo
  | resizePane self attachmentId terminalId direction amount =>
    Sends.resizeLayout r self attachmentId (r.paneChange terminalId direction amount)
  | resizeDivider self attachmentId divider =>
    Sends.resizeLayout r self attachmentId (dividerChange divider)
  | swapPane self attachmentId target previous =>
    Sends.resizeLayout r self attachmentId (r.swapChange self attachmentId target previous)
  | setViewZoom self attachmentId terminalId => Sends.setViewZoom r self attachmentId terminalId
  | breakPane self attachmentId target newOwner => Sends.breakPane r self attachmentId target newOwner

def attempt (r : Registry) : TopologyChange → Option Attempt
  | resizePane self attachmentId terminalId direction amount =>
    r.layoutAttempt self attachmentId (r.paneChange terminalId direction amount)
  | resizeDivider self attachmentId divider =>
    r.layoutAttempt self attachmentId (dividerChange divider)
  | swapPane self attachmentId target previous =>
    r.layoutAttempt self attachmentId (r.swapChange self attachmentId target previous)
  | setViewZoom self attachmentId terminalId => r.zoomAttempt self attachmentId terminalId
  | breakPane self attachmentId target _ => r.breakAttempt self attachmentId target

/-! ### How an operation runs -/

/-- An operation is refused, is stopped by the first resize, or makes an attempt, which is undone or
    made. -/
inductive Course (r : Registry) : Outcome Unit → List ViewInfo → Option Attempt → Prop
  | kept {result : Res SessionError Unit} : Course r (r, result) [] none
  | stopped {message : String} {pty : List (Option String)} : r.pty = some message :: pty →
    Course r ({ r with pty }, .fail (.pty message)) [] none
  | undone {attempt : Attempt} {e : SessionError} {sent : List ViewInfo} : Attempts r attempt →
    attempt.run.2 = .fail e → (∀ view ∈ sent, Sends.Final attempt.run.1 view) →
    Course r (attempt.run.1, .fail e) sent (some attempt)
  | made {attempt : Attempt} {outcome : Outcome Unit} {sent : List ViewInfo} : Attempts r attempt →
    (∀ e, attempt.run.2 ≠ .fail e) → outcome.1.pty = attempt.run.1.pty →
    Course r outcome sent (some attempt)

lemma replyView_void (owner : String) (outcome : Outcome Unit) :
    (replyView owner outcome).void.1 = outcome.1 ∧
      ∀ e, outcome.2 = .fail e → (replyView owner outcome).void = (outcome.1, .fail e) := by
  refine ⟨(Outcome.void_fst _).trans (replyView_fst owner outcome), ?_⟩
  obtain ⟨r, result⟩ := outcome
  rintro e ⟨rfl⟩
  rfl

variable {r : Registry}

lemma Course.of_attempt {attempt : Attempt} {sent : List ViewInfo} (attempts : Attempts r attempt)
    (final : ∀ view ∈ sent, Sends.Final attempt.run.1 view) :
    Course r (replyView attempt.owner attempt.run).void sent (some attempt) := by
  obtain ⟨same, failed⟩ := replyView_void attempt.owner attempt.run
  cases result : attempt.run.2 with
  | ok => exact .made attempts (by rw [result]; nofun) (congrArg Registry.pty same)
  | error fault =>
    cases fault with
    | panic => exact .made attempts (by rw [result]; nofun) (congrArg Registry.pty same)
    | err e =>
      rw [failed e result]
      exact .undone attempts result final

lemma Course.of_reply (owner : String) (r : Registry) : Course r (replyView owner (r, .ok ())).void [] none := by
  have same := (replyView_void owner (r, .ok ())).1
  generalize (replyView owner (r, .ok ())).void = outcome at same
  obtain ⟨r', result⟩ := outcome
  obtain rfl : r' = r := same
  exact .kept

lemma layout_course {self attachmentId : String} {change : View → Res SessionError (ViewLayout × Bool)}
    (keeps : ∀ k session layout changed, r.leasedView self attachmentId = .ok (k, session) →
      change session.view = .ok (layout, changed) →
      layout.terminalIds.Perm session.view.layout.terminalIds ∧ layout.Valid 0) :
    Course r (r.resizeLayout self attachmentId change).void
      (Sends.resizeLayout r self attachmentId change) (r.layoutAttempt self attachmentId change) := by
  unfold resizeLayout Sends.resizeLayout layoutAttempt
  cases leased : r.leasedView self attachmentId with
  | error e => exact .kept
  | ok found =>
    obtain ⟨k, session⟩ := found
    dsimp only
    cases ok : change session.view with
    | error e => exact .kept
    | ok tried =>
      obtain ⟨layout, changed⟩ := tried
      obtain ⟨perm, valid⟩ := keeps k session layout changed leased ok
      cases changed with
      | true =>
        exact .of_attempt (.of_relayout (leasedView_spec leased) valid fun id => perm.mem_iff.1)
          fun view mem => Sends.tryView_final mem
      | false => exact .of_reply k r

lemma unzoomPane_cases (r : Registry) (view : View) (previous next : Option String) :
    (∃ result, r.unzoomPane view previous next = (r, result)) ∨
      ∃ id size, previous = some id ∧ Resized r id size (r.unzoomPane view previous next) := by
  unfold unzoomPane
  split
  case h_1 previous' _ =>
    dsimp only
    split
    case h_1 e _ => exact .inl ⟨_, rfl⟩
    case h_2 size _ => exact .inr ⟨previous', size, rfl, resizePty_resized r previous' size⟩
  case h_2 => exact .inl ⟨_, rfl⟩

lemma zoom_course (owned : r.Owned) (self attachmentId : String) (terminalId : Option String) :
    Course r (r.setViewZoom self attachmentId terminalId).void
      (Sends.setViewZoom r self attachmentId terminalId)
      (r.zoomAttempt self attachmentId terminalId) := by
  unfold Registry.setViewZoom Sends.setViewZoom zoomAttempt
  cases leased : r.leasedView self attachmentId with
  | error e => exact .kept
  | ok found =>
    obtain ⟨k, session⟩ := found
    have found := leasedView_spec leased
    have fine := owned.session k session found
    dsimp only
    cases checked : r.checkZoom session.view terminalId with
    | error e => exact .kept
    | ok =>
      dsimp only
      split
      case isTrue => exact .of_reply k r
      case isFalse =>
        have tentative : ∀ {r' : Registry}, Calm r r' → Sized r r' → Succeeds r.pty r'.pty →
            (∀ k ∉ session.view.layout.terminalIds, AList.lookup k r'.heap = AList.lookup k r.heap) →
            Attempts r
              ⟨r', k, session, r.captureViewGeometry session.view, rezoom terminalId⟩ :=
          fun calm sized succeeds outside =>
            ⟨calm, sized, succeeds, found, rfl, outside, rfl, rfl, rfl, fine.shape, fun _ h => h,
              checkZoom_spec checked⟩
        have calm := r.unzoomPane_calm session.view session.view.zoomedTerminalId terminalId
        have cases := unzoomPane_cases r session.view session.view.zoomedTerminalId terminalId
        generalize r.unzoomPane session.view session.view.zoomedTerminalId terminalId = outcome
          at calm cases
        rcases cases with ⟨result, rfl⟩ | ⟨id, size, zoomed, resized⟩
        · cases result with
          | error e => exact .kept
          | ok =>
            exact .of_attempt (tentative calm (.refl r) (.refl _) fun _ _ => rfl)
              fun view mem => Sends.tryView_final mem
        · have sized := resized.sized
          have tries := resized.tries
          cases resized with
          | failed eq => exact .stopped eq
          | @done pty eq =>
            cases tries with
            | passed succeeds _ =>
              refine .of_attempt (tentative calm sized succeeds fun k absent => ?_)
                fun view mem => Sends.tryView_final mem
              have ne : k ≠ id := fun same => absent (same ▸ fine.zoom id zoomed)
              exact Table.lookup_modify_ne ne _

lemma finishBreak_pty (r : Registry) (sourceId : String) (target : PaneTarget) (newOwner : TerminalOwner) :
    (r.finishBreak sourceId target newOwner).reply.void.1.pty = r.pty := by
  rw [Outcome.void_fst]
  unfold finishBreak
  split
  case h_1 => rfl
  case h_2 => rfl

lemma break_course (owned : r.Owned) (self attachmentId : String) (target : PaneTarget) (newOwner : TerminalOwner) :
    Course r (r.breakPane self attachmentId target newOwner).reply.void
      (Sends.breakPane r self attachmentId target newOwner)
      (r.breakAttempt self attachmentId target) := by
  have result := r.breakPane_eq self attachmentId target newOwner
  unfold Sends.breakPane breakAttempt
  cases planned : r.breakPlan self attachmentId target with
  | error e =>
    rw [result, planned]
    exact .kept
  | ok plan =>
    obtain ⟨k, session, remaining⟩ := plan
    obtain ⟨found, leaf, removed⟩ := breakPlan_spec planned
    have fine := owned.session k session found
    have spec := ViewLayout.removeTerminal_spec target.terminalId fine.shape
    rw [removed] at spec
    have attempts : Attempts r
        ⟨r, k, session, r.captureViewGeometry session.view, relayout remaining⟩ := by
      refine .of_relayout found (removed_not_mem fine removed).2 fun id mem => ?_
      rw [spec.1] at mem
      exact List.mem_of_mem_filter mem
    rw [planned] at result
    dsimp only at result ⊢
    have final : ∀ view ∈ Sends.tryView r k session.view (r.captureViewGeometry session.view)
        (relayout remaining), Sends.Final (Attempt.run ⟨r, k, session,
          r.captureViewGeometry session.view, relayout remaining⟩).1 view :=
      fun view mem => Sends.tryView_final mem
    cases tried : r.tryView k session.view (r.captureViewGeometry session.view) (relayout remaining)
      with
    | mk r' outcome =>
    rw [tried] at result
    cases outcome with
    | ok =>
      dsimp only at result
      refine .made attempts ?_ ?_
      · rw [Attempt.run, tried]
        nofun
      · rw [result, finishBreak_pty, Attempt.run, tried]
    | error fault =>
      dsimp only at result
      rw [result, List.append_nil]
      cases fault with
      | panic =>
        refine .made attempts ?_ ?_
        · rw [Attempt.run, tried]
          nofun
        · rw [Attempt.run, tried]
          rfl
      | err e =>
        have undone := Course.undone (e := e) attempts (by rw [Attempt.run, tried]; rfl) final
        rwa [Attempt.run, tried] at undone

lemma course (owned : r.Owned) (change : TopologyChange) :
    Course r (change.run r) (change.sends r) (change.attempt r) := by
  cases change with
  | resizePane self attachmentId terminalId direction amount =>
    exact layout_course fun _ _ _ _ leased ok => paneChange_keeps owned leased ok
  | resizeDivider self attachmentId divider =>
    exact layout_course fun _ _ _ _ leased ok => dividerChange_keeps owned leased ok
  | swapPane self attachmentId target previous =>
    exact layout_course fun _ _ _ _ leased ok => swapChange_keeps owned leased ok
  | setViewZoom self attachmentId terminalId => exact zoom_course owned self attachmentId terminalId
  | breakPane self attachmentId target newOwner =>
    exact break_course owned self attachmentId target newOwner

end TopologyChange

namespace World
open Registry

/-- Whichever resize of the operation fails, the operation returns an error and leaves all sessions with
    their views, revisions, canvases and leases, the registered terminals, the names, and the terminals
    with their owners and leases as they were, up to sizes. When the sizes are restored, they are as they
    were too. What has been published shows the sessions as they were. -/
theorem topology_rollback {actions : List Action} {w : World} (run : exec step start actions = some w)
    (change : TopologyChange) {n : Nat} {message : String} {rest : List (Option String)}
    (script : w.registry.pty = List.replicate n none ++ some message :: rest)
    (reached : (change.run w.registry).1.pty.length ≤ rest.length) :
    ∃ e, (change.run w.registry).2 = .fail e ∧
      Calm w.registry (change.run w.registry).1 ∧ Sized w.registry (change.run w.registry).1 ∧
      ((∀ attempt ∈ change.attempt w.registry, attempt.Restores) →
        ∀ id, AList.lookup id (change.run w.registry).1.heap = AList.lookup id w.registry.heap) ∧
      ∀ view ∈ change.sends w.registry, w.registry.Shows view := by
  have owned := run_owned run
  have fails : Fails w.registry.pty message rest := ⟨n, script⟩
  have course := TopologyChange.course owned change
  generalize change.run w.registry = outcome at course reached ⊢
  generalize change.attempt w.registry = attempted at course ⊢
  generalize change.sends w.registry = sent at course ⊢
  cases course with
  | kept =>
    exact absurd ((Succeeds.refl w.registry.pty).before_failure fails) (Nat.not_lt.2 reached)
  | @stopped message' pty eq =>
    refine ⟨_, rfl, ⟨fun _ => rfl, rfl, fun _ => rfl, rfl, rfl⟩, fun _ => rfl, fun _ _ => rfl, ?_⟩
    exact fun view mem => absurd mem List.not_mem_nil
  | @undone attempt e _ attempts failed final =>
    obtain ⟨calm, sized, restored⟩ := attempts.undone owned failed
    refine ⟨e, rfl, calm, sized, fun all => restored (all attempt rfl), fun view mem => ?_⟩
    obtain ⟨id, shown⟩ := final view mem
    exact (viewInfo_shows (Keyed.calm owned.key calm) shown).of_snapshot (calm.snapshot _).symm
  | made attempts passed same =>
    rw [same] at reached
    exact absurd ((attempts.passed passed).before_failure fails) (Nat.not_lt.2 reached)

/-- Two panes with an attachment that owns the layout lease; of the coming resizes the second one
    fails. -/
def failingResize : List Action :=
  twoPanes ++ [Action.acquireLease "t1" "a1" .layout, .environment [none, some "no device"]]

/-- The panes are exchanged, and the second of the two resizes fails. -/
theorem topology_rollback_swap :
    let change := TopologyChange.swapPane "t1" "a1" ⟨"s1", "v1", 1, "t1"⟩ false
    ∃ w, exec step start failingResize = some w ∧
      (change.attempt w.registry).isSome ∧ (∀ attempt ∈ change.attempt w.registry, attempt.Restores) ∧
      ∃ e, (change.run w.registry).2 = .fail e ∧
        Calm w.registry (change.run w.registry).1 ∧ Sized w.registry (change.run w.registry).1 ∧
        ((∀ attempt ∈ change.attempt w.registry, attempt.Restores) →
          ∀ id, AList.lookup id (change.run w.registry).1.heap = AList.lookup id w.registry.heap) ∧
        ∀ view ∈ change.sends w.registry, w.registry.Shows view :=
  ⟨_, rfl, by decide +kernel, by decide +kernel,
    @topology_rollback failingResize _ rfl _ 1 "no device" [] (by decide +kernel) (by decide +kernel)⟩

end World

end Ctl.Daemon
