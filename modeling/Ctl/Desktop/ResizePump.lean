import Ctl.Base.System
import Mathlib.Data.List.Basic
import Mathlib.Tactic.MkIffOfInductiveProp

/-!
# Resizing the canvas

Model of `apps/desktop/src/features/attachment/ResizePump.ts` and `ResizeCoordinator.ts` as `useAttachment.ts` wires
them, for one attachment that has the layout lease, together with the daemon. The daemon applies sizes one at a time,
those that this client sends and those of others, and its reports reach the client in their order. The end of a request
may overtake reports or be overtaken by them.

What the coordinator has recorded is overwritten by the end of a request (`complete`), also when the size of a later
change has already been reported. As long as this does not happen (`Orderly`) no update is lost (`resize_settles`).
-/

namespace Ctl.Desktop
open Ctl.Base

/-- What is compared of two sizes. -/
structure Grid where
  columns : Nat
  rows : Nat
  deriving DecidableEq

/-- How far `send` is: the daemon has yet to apply the request, it has, or `send` has ended and only `flush` has not. -/
inductive Sending where
  | requested
  | applied
  | ended
  deriving DecidableEq

/-- The coordinator, the pump, what they share with the attachment, and the daemon. -/
structure Resizing where
  authoritative : Option Grid
  desired : Option Grid
  enabled : Bool
  suspensions : Nat
  pending : Option Grid
  timer : Bool
  inFlight : Option Grid
  sending : Sending
  resizeWithWindow : Bool
  canvas : Grid
  /-- The sizes that the daemon has reported and the client has not received. -/
  reports : List Grid
  /-- Since the desired size was set, a request has failed or was not sent. -/
  failed : Bool

namespace Resizing

/-- `ResizePump.clear`. -/
def clear (s : Resizing) : Resizing := { s with pending := none, timer := false }

/-- `ResizePump.schedule`, as the coordinator calls it. -/
def schedule (s : Resizing) (size : Grid) : Resizing :=
  if !s.resizeWithWindow then s
  else if s.inFlight = some size then s.clear
  else if s.pending = some size then s
  else { s with pending := some size, timer := s.timer || s.inFlight.isNone }

/-- `ResizeCoordinator.reconcile`. -/
def reconcile (s : Resizing) : Resizing :=
  match s.desired with
  | some size => if !s.enabled ∨ 0 < s.suspensions ∨ s.authoritative = some size then s.clear else s.schedule size
  | none => s.clear

def setDesired (s : Resizing) (size : Grid) : Resizing := { s with desired := some size, failed := false }.reconcile

def setAuthoritative (s : Resizing) (size : Grid) : Resizing := { s with authoritative := some size }.reconcile

def setEnabled (s : Resizing) (enabled : Bool) : Resizing := { s with enabled }.reconcile

/-- `ResizeCoordinator.stop`, when resizing with the window ends. -/
def stop (s : Resizing) : Resizing := { s with resizeWithWindow := false, desired := none, enabled := false }.clear

/-- The `finally` of `ResizePump.flush`. -/
def settle (s : Resizing) : Resizing := { s with inFlight := none, timer := s.timer || s.pending.isSome }

def apply (s : Resizing) (size : Grid) (reported : Bool) : Resizing :=
  { s with canvas := size, reports := if reported then s.reports ++ [size] else s.reports }

end Resizing

inductive ResizeAction where
  /-- The viewport has another size (`queueResize`). -/
  | resize (size : Grid)
  | toggle (size : Grid)
  /-- The lease is reported, and the viewport measured. -/
  | enable (size : Option Grid)
  | disable
  | suspend
  | release
  | expire
  /-- The daemon applies the request in flight. -/
  | apply (reported : Bool)
  /-- The daemon applies the change of another operation. -/
  | change (size : Grid) (reported : Bool)
  /-- The client receives the next report. -/
  | report
  /-- While it does not resize with the window, a client may take a terminal's size for that of the canvas. -/
  | geometry (size : Grid)
  /-- The request has succeeded. -/
  | complete
  /-- The request has failed, perhaps since the attachment is closing. -/
  | fail (closing : Bool)
  | settle

namespace Resizing

def step (s : Resizing) : ResizeAction → Option Resizing
  | .resize size => some (if s.resizeWithWindow then s.setDesired size else s)
  | .toggle size => some (if s.resizeWithWindow then s.stop else { s with resizeWithWindow := true }.setDesired size)
  | .enable size =>
    if s.resizeWithWindow then some ((match size with | some size => s.setDesired size | none => s).setEnabled true)
    else none
  | .disable => some (s.setEnabled false)
  | .suspend => some { s with suspensions := s.suspensions + 1 }.reconcile
  | .release => if 0 < s.suspensions then some { s with suspensions := s.suspensions - 1 }.reconcile else none
  | .expire =>
    if s.timer then
      let s := { s with timer := false }
      match s.inFlight, s.pending with
      | none, some size =>
        let s := { s with pending := none, inFlight := some size }
        -- the check of `send`
        some (if s.resizeWithWindow then { s with sending := .requested }
          else { s with sending := .ended, failed := true })
      | _, _ => some s
    else none
  | .apply reported =>
    match s.inFlight with
    | some size =>
      if s.sending = .requested ∧ (reported ∨ size = s.canvas) then
        some { s.apply size reported with sending := .applied }
      else none
    | none => none
  | .change size reported => if reported ∨ size = s.canvas then some (s.apply size reported) else none
  | .report =>
    match s.reports with
    | size :: reports => some ({ s with reports }.setAuthoritative size)
    | [] => none
  | .geometry size => if s.resizeWithWindow then none else some (s.setAuthoritative size)
  | .complete =>
    match s.inFlight with
    | some size =>
      if s.sending = .applied then some ({ s with sending := .ended }.setAuthoritative size) else none
    | none => none
  | .fail closing =>
    if s.inFlight = none ∨ s.sending = .ended then none
    else
      let s := { s with failed := true }
      some (if closing then s else s.stop).settle
  | .settle => if s.inFlight.isSome ∧ s.sending = .ended then some s.settle else none

/-- The client has attached: at most the size of the canvas has been recorded. -/
structure Attached (s : Resizing) : Prop where
  authoritative : ∀ size, s.authoritative = some size → size = s.canvas
  enabled : s.enabled = false
  idle : s.pending = none ∧ s.timer = false ∧ s.inFlight = none ∧ s.reports = []

/-- A size that is recorded, other than by a report, is that of the canvas unless a report is to come; and what has been
    recorded at the end of a request stays until `flush` has ended. -/
def Orderly (s : Resizing) : ResizeAction → Prop
  | .complete => s.reports ≠ [] ∨ s.inFlight = some s.canvas
  | .geometry size => (s.reports ≠ [] ∨ size = s.canvas) ∧ (s.sending = .ended → s.inFlight.all (· = size))
  | .report => s.sending = .ended → s.inFlight.all fun size => s.reports.head? = some size
  | _ => True

instance (s : Resizing) : ∀ action, Decidable (s.Orderly action)
  | .complete => inferInstanceAs (Decidable (_ ∨ _))
  | .geometry _ => inferInstanceAs (Decidable (_ ∧ _))
  | .report => inferInstanceAs (Decidable (_ → _))
  | .resize _ | .toggle _ | .enable _ | .disable | .suspend | .release | .expire | .apply _ | .change _ _ | .fail _
  | .settle => .isTrue trivial

/-! ### The invariant -/

/-- What is known of the client and the daemon in a run whose steps are orderly. -/
@[mk_iff] structure Wired (s : Resizing) : Prop where
  tracked : s.reports = [] → ∀ size, s.authoritative = some size → size = s.canvas
  newest : s.reports ≠ [] → s.reports.getLast? = some s.canvas
  timer : s.timer = (s.pending.isSome && s.inFlight.isNone)
  enabled : s.enabled → s.resizeWithWindow
  ended : s.sending = .ended → ∀ size, s.inFlight = some size → s.authoritative = some size

/-- What is known once the coordinator has reconciled. -/
structure Sound (s : Resizing) : Prop extends Wired s where
  pending : s.pending ≠ none → s.enabled
  /-- The desired size has been recorded, or it is going to be sent. -/
  heading : s.failed = false → s.enabled → s.suspensions = 0 → ∀ size, s.desired = some size →
    s.authoritative ≠ some size → s.pending = some size ∨
      s.pending = none ∧ s.inFlight = some size ∧ s.sending ≠ .ended

attribute [grind =] wired_iff
attribute [grind cases] Sound

variable {s : Resizing}

lemma Wired.reconcile (h : s.Wired) : s.reconcile.Sound := by
  unfold Resizing.reconcile schedule clear
  constructor <;> grind

lemma reconcile_resizeWithWindow (s : Resizing) : s.reconcile.resizeWithWindow = s.resizeWithWindow := by
  unfold Resizing.reconcile schedule clear
  grind

lemma Wired.setDesired (h : s.Wired) (size : Grid) : (s.setDesired size).Sound :=
  Wired.reconcile ⟨h.tracked, h.newest, h.timer, h.enabled, h.ended⟩

lemma Sound.stop (h : s.Sound) : s.stop.Sound := by
  unfold Resizing.stop clear
  constructor <;> grind

lemma Sound.step {s' : Resizing} (h : s.Sound) {action : ResizeAction} (orderly : s.Orderly action)
    (step : s.step action = some s') : s'.Sound := by
  cases action with
  | resize size =>
    obtain rfl := Option.some.inj step
    split
    · exact h.toWired.setDesired size
    · exact h
  | toggle size =>
    obtain rfl := Option.some.inj step
    split
    · exact h.stop
    · exact Wired.setDesired (by grind) size
  | enable size =>
    obtain ⟨on, rfl⟩ := (Option.ite_none_right_eq_some.1 step).imp_right Option.some.inj
    have wired : (match size with | some size => s.setDesired size | none => s).Wired := by
      cases size with
      | some size => exact (h.toWired.setDesired size).toWired
      | none => exact h.toWired
    have same : (match size with | some size => s.setDesired size | none => s).resizeWithWindow := by
      cases size with
      | some size => exact (reconcile_resizeWithWindow _).trans on
      | none => exact on
    exact Wired.reconcile (by grind)
  | disable =>
    obtain rfl := Option.some.inj step
    exact Wired.reconcile (by grind)
  | suspend =>
    obtain rfl := Option.some.inj step
    exact Wired.reconcile (by grind)
  | release =>
    obtain ⟨_, rfl⟩ := (Option.ite_none_right_eq_some.1 step).imp_right Option.some.inj
    exact Wired.reconcile (by grind)
  | expire =>
    simp only [Resizing.step] at step
    cases flight : s.inFlight <;> cases wanted : s.pending <;> rw [flight, wanted] at step <;> constructor <;> grind
  | apply reported =>
    simp only [Resizing.step, Resizing.apply] at step
    constructor <;> grind
  | change size reported =>
    simp only [Resizing.step, Resizing.apply] at step
    constructor <;> grind
  | report =>
    cases reports : s.reports with
    | nil => simp [Resizing.step, reports] at step
    | cons size rest =>
      obtain rfl : _ = s' := by simpa [Resizing.step, reports] using step
      refine Wired.reconcile ?_
      have orderly : s.sending = .ended → s.inFlight.all fun size => s.reports.head? = some size := orderly
      grind
  | geometry size =>
    obtain ⟨off, rfl⟩ : s.resizeWithWindow = false ∧ s.setAuthoritative size = s' := by
      simpa [Resizing.step] using step
    have orderly : (s.reports ≠ [] ∨ size = s.canvas) ∧
        (s.sending = .ended → s.inFlight.all (· = size)) := orderly
    refine Wired.reconcile ?_
    grind
  | complete =>
    have orderly : s.reports ≠ [] ∨ s.inFlight = some s.canvas := orderly
    cases flight : s.inFlight with
    | none => simp [Resizing.step, flight] at step
    | some size =>
      simp only [Resizing.step, flight] at step
      obtain ⟨applied, rfl⟩ := (Option.ite_none_right_eq_some.1 step).imp_right Option.some.inj
      refine Wired.reconcile ?_
      grind
  | fail closing =>
    simp only [Resizing.step, Resizing.stop, clear, Resizing.settle] at step
    constructor <;> grind
  | settle =>
    simp only [Resizing.step, Resizing.settle] at step
    constructor <;> grind

lemma Sound.start (h : s.Attached) : s.Sound := by
  obtain ⟨authoritative, enabled, pending, timer, flight, reports⟩ := h
  constructor <;> grind

/-- Nothing is armed, pending or in flight, and every report has been received. -/
def Quiescent (s : Resizing) : Prop := s.timer = false ∧ s.pending = none ∧ s.inFlight = none ∧ s.reports = []

instance (s : Resizing) : Decidable s.Quiescent := inferInstanceAs (Decidable (_ ∧ _))

/-- In every run whose steps are orderly: when nothing is left to be done, and no request has failed since the desired
    size was set, the canvas has the desired size. -/
theorem resize_settles {s : Resizing} (h : ReachableWhile Resizing.step Attached Orderly s) (quiet : s.Quiescent)
    (enabled : s.enabled) (free : s.suspensions = 0) {size : Grid} (desired : s.desired = some size)
    (good : s.failed = false) : s.canvas = size := by
  have sound : s.Sound := h.invariant Sound (fun _ => Sound.start) fun _ _ _ sound ok step => sound.step ok step
  obtain ⟨_, pending, flight, reports⟩ := quiet
  by_contra other
  have unknown : s.authoritative ≠ some size := fun recorded =>
    other (sound.tracked reports size recorded).symm
  rcases sound.heading good enabled free size desired unknown with waiting | ⟨_, sent, _⟩
  · simp [pending] at waiting
  · simp [flight] at sent

def attached : Resizing :=
  ⟨none, none, false, 0, none, false, none, .ended, true, ⟨80, 24⟩, [], false⟩

/-- The reports of the client's size and of another one that followed arrive before the request has ended. -/
def overtaken : List ResizeAction :=
  [.enable (some ⟨120, 36⟩), .expire, .apply true, .change ⟨100, 30⟩ true, .report, .report, .complete, .settle]

def inOrder : List ResizeAction :=
  [.enable (some ⟨120, 36⟩), .expire, .apply true, .change ⟨100, 30⟩ true, .report, .complete, .settle, .report,
    .expire, .apply true, .report, .complete, .settle]

theorem resize_settles_inOrder :
    ∃ s, exec Resizing.step attached inOrder = some s ∧ s.Quiescent ∧ s.enabled ∧
      s.desired = some ⟨120, 36⟩ ∧ s.canvas = ⟨120, 36⟩ := by
  have start : ReachableWhile Resizing.step Attached Orderly attached := .start ⟨nofun, rfl, rfl, rfl, rfl, rfl⟩
  have run := start.exec inOrder rfl (by decide)
  exact ⟨_, rfl, by decide, rfl, rfl, resize_settles run (by decide) rfl rfl rfl rfl⟩

/-- The recorded size is that of the request again, so that the canvas keeps the other one. -/
theorem resize_overtaken :
    attached.Attached ∧ ∃ s, exec Resizing.step attached overtaken = some s ∧ s.Quiescent ∧ s.enabled ∧
      s.suspensions = 0 ∧ s.desired = some ⟨120, 36⟩ ∧ s.failed = false ∧ s.canvas = ⟨100, 30⟩ :=
  ⟨⟨nofun, rfl, rfl, rfl, rfl, rfl⟩, _, rfl, by decide, rfl, rfl, rfl, rfl, rfl⟩

end Resizing

end Ctl.Desktop
