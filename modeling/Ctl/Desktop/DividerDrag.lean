import Ctl.Base.System
import Mathlib.Logic.Function.Basic
import Mathlib.Tactic.MkIffOfInductiveProp

/-!
# Dragging a divider

Model of `apps/desktop/src/features/terminal/useDividerDrag.ts`. The hook has at most one drag, and at most one request
of `drain`, which may be that of a drag that was cancelled. Between two events of the browser every drag has its own
state (`Drag`), that handlers, frames and the answers of requests change. `Hook` keeps a log of what has happened, the
newest first; `Proper` is what is expected of it.

A pointer's way from where the drag began comes in cells (`Math.round` of a quotient). What is only displayed, the
preview and the errors, is left out.
-/

namespace Ctl.Desktop
open Ctl.Base

/-- Of a view, what the hook reads; `topology` is the text that `layoutTopology` gives. -/
structure DragView where
  viewId : String
  revision : Nat
  columns : Nat
  rows : Nat
  topology : String
  zoomed : Option String
  deriving DecidableEq

/-- The `position` of a divider is where it is drawn, `left` or `top`, rounded down. -/
structure ViewDivider where
  path : String
  splitPath : List Nat
  boundary : Nat
  vertical : Bool
  position : Int
  deriving DecidableEq

/-- The options of the hook, `currentView` with what it returns, if there is one, and sessions by their keys. -/
structure DragOptions where
  session : Option String
  view : Option DragView
  currentView : Option (Option DragView)
  enabled : Bool
  canBegin : Bool
  deriving DecidableEq

/-- What the `signature` lists. -/
structure DragSignature where
  session : Option String
  viewId : Option String
  topology : Option String
  columns : Option Nat
  rows : Option Nat
  zoomed : Option String
  enabled : Bool
  deriving DecidableEq

namespace DragOptions

variable (options : DragOptions)

def current : Option DragView := options.currentView.getD options.view

def signature : DragSignature :=
  let view := options.current
  ⟨options.session, view.map (·.viewId), view.map (·.topology), view.map (·.columns), view.map (·.rows),
    view.bind (·.zoomed), options.enabled⟩

def ahead (next : DragView) : Bool :=
  options.current.any fun view => view.viewId = next.viewId && next.revision < view.revision

end DragOptions

structure DividerResize where
  viewId : String
  expectedRevision : Nat
  splitPath : List Nat
  boundary : Nat
  position : Int
  deriving DecidableEq

/-- A drag; `frame` is whether a frame has been requested. -/
structure Drag where
  divider : ViewDivider
  baseline : DragView
  session : String
  signature : DragSignature
  pointerId : Option Nat
  initialPosition : Int
  latestPosition : Int
  pending : Option Int
  running : Bool
  frame : Bool

def Drag.target (w : Drag) (position : Int) : Int :=
  let extent : Int := if w.divider.vertical then w.baseline.columns else w.baseline.rows
  max 0 (min (extent - 1) position)

/-- Why a drag ends. -/
inductive DragEnd where
  | released
  | cancelled
  | failed
  /-- The view is another one than the drag has. -/
  | foreign
  deriving DecidableEq

inductive DragEvent where
  | began (drag : Nat) (view : DragView) (position : Int)
  /-- The drag has the target after it was clamped. -/
  | aimed (drag : Nat) (target : Int)
  | sent (drag : Nat) (request : DividerResize)
  | answered (drag : Nat) (view : DragView)
  | failed (drag : Nat)
  | ended (drag : Nat) (reason : DragEnd)
  /-- The suspension of the viewport is released. -/
  | resumed (drag : Nat)
  | busy (value : Bool)

structure DragHook where
  options : DragOptions
  owned : String → Bool
  drag : Option Nat
  inFlight : Option Nat
  workers : Nat → Drag
  begun : Nat
  log : List DragEvent

namespace DragHook

def edit (s : DragHook) (i : Nat) (f : Drag → Drag) : DragHook :=
  { s with workers := Function.update s.workers i (f (s.workers i)) }

def note (s : DragHook) (event : DragEvent) : DragHook := { s with log := event :: s.log }

def finish (s : DragHook) (i : Nat) (reason : DragEnd) : DragHook :=
  if s.drag = some i then
    let s := { s with drag := none }.edit i fun w => { w with frame := false, pending := none, pointerId := none }
    let s := (s.note (.ended i reason)).note (.resumed i)
    if s.inFlight = some i then s else s.note (.busy false)
  else s

def cancel (s : DragHook) : DragHook :=
  match s.drag with
  | some i => s.finish i .cancelled
  | none => s

/-- The request of a drag has ended, and nothing of `drain` is left. -/
def land (s : DragHook) (i : Nat) : DragHook :=
  { s with inFlight := if s.inFlight = some i then none else s.inFlight }.edit i fun w => { w with running := false }

/-- The `finally` of `drain`. -/
def settle (s : DragHook) (i : Nat) : DragHook :=
  let w := s.workers i
  if s.drag = some i ∧ w.pointerId = none ∧ w.pending = none ∧ w.frame = false then (s.land i).finish i .released
  else if s.inFlight = some i ∧ s.drag = none then (s.land i).note (.busy false)
  else s.land i

/-- The loop of `drain`, to its next request or its end. -/
def proceed (s : DragHook) (i : Nat) : DragHook :=
  let w := s.workers i
  match w.pending with
  | some position =>
    if s.drag = some i ∧ w.frame = false then
      (s.edit i fun w => { w with pending := none }).note
        (.sent i ⟨w.baseline.viewId, w.baseline.revision, w.divider.splitPath, w.divider.boundary, position⟩)
    else s.settle i
  | none => s.settle i

def drain (s : DragHook) (i : Nat) : DragHook :=
  if (s.workers i).running then s
  else ({ s with inFlight := some i }.edit i fun w => { w with running := true }).proceed i

def flush (s : DragHook) (i : Nat) : DragHook :=
  let s := s.edit i fun w => { w with frame := false }
  if s.drag = some i ∧ (s.workers i).pending ≠ none then s.drain i else s

def schedule (s : DragHook) (i : Nat) (position : Int) (byFrame : Bool) : DragHook :=
  let w := s.workers i
  if s.drag = some i ∧ s.owned w.session then
    let target := w.target position
    let s := s.note (.aimed i target)
    if target = w.latestPosition then s
    else
      let s := s.edit i fun w =>
        { w with latestPosition := target, pending := some target, frame := w.frame || byFrame }
      if byFrame then s else s.flush i
  else s.finish i .cancelled

def begin (s : DragHook) (divider : ViewDivider) : Option DragHook :=
  match s.options.session, s.options.current, s.options.view with
  | some session, some view, some rendered =>
    if s.options.enabled ∧ s.drag = none ∧ s.inFlight = none ∧ s.options.canBegin ∧
        rendered.viewId = view.viewId ∧ rendered.revision = view.revision ∧ s.owned session then
      let worker : Drag :=
        ⟨divider, view, session, s.options.signature, none, divider.position, divider.position, none, false, false⟩
      some (({ s with drag := some s.begun, begun := s.begun + 1 }.edit s.begun fun _ => worker).note
        (.began s.begun view divider.position) |>.note (.busy true))
    else none
  | _, _, _ => none

def finishIdle (s : DragHook) (i : Nat) : DragHook :=
  if (s.workers i).running = false ∧ (s.workers i).pending = none then s.finish i .released else s

/-- The answer of the request of a drag (`drain` after `await`). -/
def answer (s : DragHook) (i : Nat) (next : DragView) : DragHook :=
  let w := s.workers i
  let s := s.note (.answered i next)
  if s.drag = some i then
    if s.options.signature = w.signature ∧ s.owned w.session ∧ next.viewId = w.baseline.viewId ∧
        !s.options.ahead next then
      (s.edit i fun w => { w with baseline := next }).proceed i
    else (s.finish i .foreign).settle i
  else s.settle i

end DragHook

/-- An event of the browser or the host, a frame, or the end of a request. -/
inductive DragAction where
  /-- The hook is rendered, or what its options return changes. -/
  | options (options : DragOptions)
  | owner (session : String) (owned : Bool)
  /-- The effect after a render. -/
  | effect (identity : DragSignature) (owned : Bool)
  /-- Escape, the loss of the focus, or the end of the component. -/
  | cancel
  | pointerDown (divider : ViewDivider) (pointer : Nat) (captured : Bool)
  | pointerMove (pointer : Nat) (cells : Int)
  | pointerUp (pointer : Nat) (cells : Int)
  /-- The pointer is cancelled, or its capture lost. -/
  | pointerCancel (pointer : Nat)
  | keyDown (divider : ViewDivider) (delta : Int)
  | frame (drag : Nat)
  | answer (drag : Nat) (next : DragView)
  | fail (drag : Nat)

namespace DragHook

def pointed (s : DragHook) (pointer : Nat) : Option Nat :=
  s.drag.filter fun i => (s.workers i).pointerId = some pointer

def step (s : DragHook) : DragAction → Option DragHook
  | .options options => some { s with options }
  | .owner session owned => some { s with owned := Function.update s.owned session owned }
  | .effect identity owned =>
    match s.drag with
    | some i => some (if (s.workers i).signature ≠ identity ∨ !owned then s.cancel else s)
    | none => some s
  | .cancel => some s.cancel
  | .pointerDown divider pointer captured =>
    (s.begin divider).map fun s' =>
      let s' := s'.edit s.begun fun w => { w with pointerId := some pointer }
      if captured then s' else s'.finish s.begun .failed
  | .pointerMove pointer cells =>
    (s.pointed pointer).map fun i => s.schedule i ((s.workers i).initialPosition + cells) true
  | .pointerUp pointer cells =>
    (s.pointed pointer).map fun i =>
      let s := s.schedule i ((s.workers i).initialPosition + cells) true
      -- the last cell is sent without its frame
      ((s.edit i fun w => { w with pointerId := none }).flush i).finishIdle i
  | .pointerCancel pointer => (s.pointed pointer).map fun _ => s.cancel
  | .keyDown divider delta =>
    match s.drag with
    | some i =>
      let w := s.workers i
      if w.pointerId = none ∧ w.divider.path = divider.path then
        some ((s.schedule i (w.latestPosition + delta) false).finishIdle i)
      else none
    | none =>
      (s.begin divider).map fun s' =>
        (s'.schedule s.begun (divider.position + delta) false).finishIdle s.begun
  | .frame i => if (s.workers i).frame then some (s.flush i) else none
  | .answer i next => if (s.workers i).running then some (s.answer i next) else none
  | .fail i =>
    if (s.workers i).running then some (((s.note (.failed i)).finish i .failed).settle i) else none

/-- The component has been rendered for the first time. -/
structure Mounted (s : DragHook) : Prop where
  drag : s.drag = none
  inFlight : s.inFlight = none
  begun : s.begun = 0
  log : s.log = []
  idle : ∀ i, (s.workers i).running = false ∧ (s.workers i).frame = false

end DragHook

/-! ### What the log tells of a drag -/

namespace DragEvent

@[grind] def confirmed (i : Nat) : List DragEvent → Option DragView
  | [] => none
  | .began j view _ :: log => if j = i then some view else confirmed i log
  | .answered j view :: log => if j = i then some view else confirmed i log
  | _ :: log => confirmed i log

@[grind] def origin (i : Nat) : List DragEvent → Option Int
  | [] => none
  | .began j _ position :: log => if j = i then some position else origin i log
  | _ :: log => origin i log

@[grind] def aim (i : Nat) : List DragEvent → Option Int
  | [] => none
  | .began j _ position :: log => if j = i then some position else aim i log
  | .aimed j target :: log => if j = i then some target else aim i log
  | _ :: log => aim i log

@[grind] def strayed (i : Nat) : List DragEvent → Bool
  | [] => false
  | .began j _ _ :: log => if j = i then false else strayed i log
  | .aimed j target :: log => strayed i log || (j = i && origin i log ≠ some target)
  | _ :: log => strayed i log

@[grind] def asked (i : Nat) : List DragEvent → Option (Int × Bool)
  | [] => none
  | .began j _ _ :: log => if j = i then none else asked i log
  | .sent j request :: log => if j = i then some (request.position, false) else asked i log
  | .answered j _ :: log => if j = i then (asked i log).map fun (position, _) => (position, true) else asked i log
  | _ :: log => asked i log

@[grind] def isOver (i : Nat) : List DragEvent → Bool
  | [] => false
  | .began j _ _ :: log => if j = i then false else isOver i log
  | .ended j _ :: log => j = i || isOver i log
  | _ :: log => isOver i log

@[grind] def resumes (i : Nat) : List DragEvent → Nat
  | [] => 0
  | .resumed j :: log => if j = i then resumes i log + 1 else resumes i log
  | _ :: log => resumes i log

@[grind] def flying : List DragEvent → List Nat
  | [] => []
  | .sent i _ :: log => i :: flying log
  | .answered i _ :: log | .failed i :: log => (flying log).erase i
  | _ :: log => flying log

@[grind] def isBusy : List DragEvent → Bool
  | [] => false
  | .busy value :: _ => value
  | _ :: log => isBusy log

/-- What is expected of an event after those before it. A request is sent while no other is in flight, for a drag that
    has not ended, with the view that the drag has confirmed last; and a drag that is let go ends without a request if
    it never had another target than where it began, or once the request for its last target has been answered. -/
@[grind] def Expected (log : List DragEvent) : DragEvent → Prop
  | .sent i request => flying log = [] ∧ isOver i log = false ∧
      ∃ view, confirmed i log = some view ∧ request.viewId = view.viewId ∧
        request.expectedRevision = view.revision
  | .ended i reason => reason = .released →
      asked i log = none ∧ strayed i log = false ∨
        ∃ target, aim i log = some target ∧ asked i log = some (target, true)
  | _ => True

@[grind] def Proper : List DragEvent → Prop
  | [] => True
  | event :: log => Expected log event ∧ Proper log

end DragEvent

/-! ### The invariant -/

open DragEvent

/-- Where an event of the browser is: between two of them, while a drag is changed, and when a request has ended, well
    or with a drag that is about to end. -/
inductive DragPhase where
  | steady
  | held
  | landed
  | stale
  deriving DecidableEq

@[mk_iff] structure CurrentDrag (phase : DragPhase) (i : Nat) (w : Drag) (log : List DragEvent) : Prop where
  unended : isOver i log = false
  unresumed : resumes i log = 0
  confirmed : phase ≠ .stale → DragEvent.confirmed i log = some w.baseline
  origin : DragEvent.origin i log = some w.initialPosition
  aim : DragEvent.aim i log = some w.latestPosition
  pending : ∀ position, w.pending = some position →
    position = w.latestPosition ∧ (w.frame ∨ w.running ∨ phase = .held)
  /-- There is nothing to send. -/
  settled : w.pending = none → phase ≠ .stale →
    if w.running ∧ phase ≠ .landed then DragEvent.asked i log = some (w.latestPosition, false)
    else DragEvent.asked i log = some (w.latestPosition, true) ∨
      DragEvent.asked i log = none ∧ strayed i log = false ∧ w.latestPosition = w.initialPosition
  frame : w.frame → w.pending ≠ none ∧ (w.pointerId ≠ none ∨ phase = .held)
  pointer : w.pointerId = none → w.running ∨ phase = .held

attribute [grind =] currentDrag_iff

namespace DragHook

structure Sound (phase : DragPhase) (s : DragHook) : Prop where
  proper : Proper s.log
  flying : DragEvent.flying s.log = if phase = .landed ∨ phase = .stale then [] else s.inFlight.toList
  busy : isBusy s.log = (s.drag.isSome || s.inFlight.isSome)
  running : ∀ i, (s.workers i).running ↔ s.inFlight = some i
  alone : ∀ i, s.drag = some i → s.inFlight = none ∨ s.inFlight = some i
  frame : ∀ i, (s.workers i).frame → s.drag = some i
  begun : ∀ i, s.drag = some i → i < s.begun
  fresh : ∀ i, s.begun ≤ i → resumes i s.log = 0
  ended : ∀ i, i < s.begun → s.drag ≠ some i → resumes i s.log = 1 ∧ isOver i s.log
  current : ∀ i, s.drag = some i → CurrentDrag phase i (s.workers i) s.log

attribute [grind cases] Sound

variable {phase : DragPhase} {s : DragHook} {i : Nat} {s' : DragHook}

lemma Sound.finish (h : s.Sound phase) (i : Nat) (reason : DragEnd)
    (idle : reason = .released →
      (s.workers i).pending = none ∧ (s.workers i).running = false ∧ phase ≠ .stale) :
    (s.finish i reason).Sound phase := by
  by_cases now : s.drag = some i
  · by_cases flight : s.inFlight = some i <;>
      simp only [DragHook.finish, now, flight, if_true, if_false, note, edit] <;> constructor <;>
      grind [Function.update_apply]
  · simpa only [DragHook.finish, now, if_false] using h

@[simp] lemma finish_drag (s : DragHook) (i : Nat) (reason : DragEnd) :
    (s.finish i reason).drag = if s.drag = some i then none else s.drag := by
  by_cases now : s.drag = some i
  · by_cases flight : s.inFlight = some i <;> simp [DragHook.finish, now, flight, note, edit]
  · simp only [DragHook.finish, now, if_false]

@[simp] lemma finish_inFlight (s : DragHook) (i : Nat) (reason : DragEnd) :
    (s.finish i reason).inFlight = s.inFlight := by
  by_cases now : s.drag = some i
  · by_cases flight : s.inFlight = some i <;> simp [DragHook.finish, now, flight, note, edit]
  · simp only [DragHook.finish, now, if_false]

lemma Sound.steady (h : s.Sound .held)
    (goesOn : ∀ i, s.drag = some i →
    ((s.workers i).pending ≠ none → (s.workers i).frame ∨ (s.workers i).running) ∧
    ((s.workers i).frame → (s.workers i).pointerId ≠ none) ∧
    ((s.workers i).pointerId = none → (s.workers i).running)) : s.Sound .steady := by
  constructor <;> grind

lemma Sound.held (h : s.Sound .steady) : s.Sound .held := by
  constructor <;> grind

lemma Sound.settle (h : s.Sound phase) (landed : phase = .landed ∨ phase = .stale) (flight : s.inFlight = some i)
    (idle : s.drag = some i → phase = .landed ∧ ((s.workers i).pending = none ∨ (s.workers i).frame)) :
    (s.settle i).Sound .steady := by
  by_cases now : s.drag = some i
  · obtain ⟨rfl, rest⟩ := idle now
    have kept : (s.land i).Sound .held := by
      simp only [land, edit]
      constructor <;> grind [Function.update_apply]
    by_cases idle : (s.workers i).pointerId = none ∧ (s.workers i).pending = none ∧ (s.workers i).frame = false
    · simp only [DragHook.settle, now, idle, and_self, if_true]
      have done := kept.finish i .released fun _ => by simp [land, edit, idle.2.1]
      exact done.steady fun j other => by simp [land, edit, now] at other
    · simp only [DragHook.settle, now, idle, and_false, if_false, reduceCtorEq]
      refine kept.steady fun j same => ?_
      obtain rfl : i = j := by simpa [land, edit, now] using same
      have pointer := (h.current i now).frame
      have holds := (h.current i now).pointer
      simp [land, edit] at *
      grind
  · have gone : s.drag = none := by
      cases drag : s.drag with
      | none => rfl
      | some j =>
        have same := (h.alone j drag).resolve_left (by simp [flight])
        exact absurd (drag.trans (same.symm.trans flight)) now
    simp only [DragHook.settle, gone, flight, land, note, edit, reduceCtorEq, false_and, and_self, if_true, if_false]
    constructor <;> grind [Function.update_apply]

lemma Sound.proceed (h : s.Sound .landed) (flight : s.inFlight = some i) : (s.proceed i).Sound .steady := by
  cases pending : (s.workers i).pending with
  | some position =>
    by_cases now : s.drag = some i ∧ (s.workers i).frame = false
    · simp only [DragHook.proceed, pending, now, and_self, if_true, note, edit]
      constructor <;> grind [Function.update_apply]
    · simp only [DragHook.proceed, pending, now, if_false]
      refine h.settle (.inl rfl) flight fun drag => ⟨rfl, .inr ?_⟩
      simpa [drag] using now
  | none =>
    simp only [DragHook.proceed, pending]
    exact h.settle (.inl rfl) flight fun _ => ⟨rfl, .inl pending⟩

lemma Sound.flush (h : s.Sound .held) (now : s.drag = some i) (wants : (s.workers i).pending ≠ none) :
    (s.flush i).Sound .steady := by
  have flight := h.alone i now
  have wanted : (s.edit i fun w => { w with frame := false }).drag = some i ∧
      ((s.edit i fun w => { w with frame := false }).workers i).pending ≠ none := by
    simpa [edit, now] using wants
  simp only [DragHook.flush, wanted, ne_eq, not_false_eq_true, and_self, if_true, drain]
  by_cases runs : (s.workers i).running = true
  · simp only [edit, Function.update_self, runs, if_true]
    constructor <;> grind [Function.update_apply]
  · simp only [edit, Function.update_self, Function.update_idem, runs]
    refine Sound.proceed ?_ rfl
    constructor <;> grind [Function.update_apply]

lemma Sound.target (h : s.Sound .held) (now : s.drag = some i) (target : Int) (frame : Bool) :
    (s.note (.aimed i target) |>.edit i fun w =>
      { w with latestPosition := target, pending := some target, frame := w.frame || frame }).Sound .held := by
  simp only [note, edit]
  constructor <;> grind [Function.update_apply]

lemma Sound.aimed (h : s.Sound phase) (now : s.drag = some i) :
    (s.note (.aimed i (s.workers i).latestPosition)).Sound phase := by
  simp only [note]
  constructor <;> grind

lemma Sound.schedule (h : s.Sound .steady) (now : s.drag = some i) (position : Int) (byFrame : Bool)
    (pointed : byFrame → (s.workers i).pointerId ≠ none) : (s.schedule i position byFrame).Sound .steady := by
  by_cases owned : s.owned (s.workers i).session
  · by_cases same : (s.workers i).target position = (s.workers i).latestPosition
    · simpa only [DragHook.schedule, now, owned, same, and_self, if_true] using h.aimed now
    · simp only [DragHook.schedule, now, owned, same, and_self, if_true, if_false]
      have aimed := h.held.target now ((s.workers i).target position) byFrame
      cases byFrame with
      | true =>
        refine aimed.steady fun j drag => ?_
        obtain rfl : i = j := by simpa [note, edit, now] using drag
        have captured := pointed rfl
        simp [note, edit, captured]
      | false => exact aimed.flush now (by simp [note, edit])
  · simpa [DragHook.schedule, now, owned] using h.finish i .cancelled nofun

lemma Sound.finishIdle (h : s.Sound phase) (fits : phase ≠ .stale) (i : Nat) : (s.finishIdle i).Sound phase := by
  by_cases idle : (s.workers i).running = false ∧ (s.workers i).pending = none
  · simpa only [DragHook.finishIdle, idle, and_self, if_true] using
      h.finish i .released fun _ => ⟨idle.2, idle.1, fits⟩
  · simpa only [DragHook.finishIdle, idle, if_false] using h

lemma Sound.settled (h : s.Sound .held) (drag : s.drag = some i ∨ s.drag = none)
    (nothing : s.drag = some i → (s.workers i).pending = none ∧ (s.workers i).frame = false) :
    (s.finishIdle i).Sound .steady := by
  refine (h.finishIdle (by decide) i).steady fun j current => ?_
  by_cases idle : (s.workers i).running = false ∧ (s.workers i).pending = none
  · rcases drag with drag | drag <;> simp [DragHook.finishIdle, idle, drag] at current
  · rw [DragHook.finishIdle, if_neg idle] at current ⊢
    obtain rfl : i = j := by simpa [current, eq_comm] using drag
    simp_all

lemma Sound.release (h : s.Sound .held) (drag : s.drag = some i ∨ s.drag = none) :
    ((s.flush i).finishIdle i).Sound .steady := by
  by_cases wants : s.drag = some i ∧ (s.workers i).pending ≠ none
  · exact (h.flush wants.1 wants.2).finishIdle (by decide) i
  · have flushed : s.flush i = s.edit i fun w => { w with frame := false } := by
      simp only [DragHook.flush, edit, Function.update_self, wants, if_false]
    have kept : (s.edit i fun w => { w with frame := false }).Sound .held := by
      simp only [edit]
      constructor <;> grind [Function.update_apply]
    rw [flushed]
    refine kept.settled drag fun now => ?_
    simpa [edit] using fun pending => wants ⟨now, pending⟩

lemma Sound.schedule_idle (h : s.Sound .held) (now : s.drag = some i)
    (idle : (s.workers i).pending = none ∧ (s.workers i).frame = false) (position : Int) :
    ((s.schedule i position false).finishIdle i).Sound .steady := by
  by_cases owned : s.owned (s.workers i).session
  · by_cases same : (s.workers i).target position = (s.workers i).latestPosition
    · simp only [DragHook.schedule, now, owned, same, and_self, if_true]
      exact (h.aimed now).settled (.inl now) fun _ => idle
    · simp only [DragHook.schedule, now, owned, same, and_self, if_true, if_false, Bool.false_eq_true]
      refine ((h.target now ((s.workers i).target position) false).flush now ?_).finishIdle (by decide) i
      simp [note, edit]
  · have done : s.schedule i position false = s.finish i .cancelled := by simp [DragHook.schedule, owned]
    rw [done]
    refine ((h.finish i .cancelled nofun).steady fun j current => ?_).finishIdle (by decide) i
    simp [now] at current

lemma Sound.begin {divider : ViewDivider} (h : s.Sound .steady) (begins : s.begin divider = some s') :
    s'.Sound .held ∧ s'.drag = some s.begun ∧ (s'.workers s.begun).pending = none ∧
      (s'.workers s.begun).frame = false := by
  unfold DragHook.begin at begins
  split at begins
  · rename_i session view rendered _ _ _
    by_cases allowed : s.options.enabled ∧ s.drag = none ∧ s.inFlight = none ∧ s.options.canBegin ∧
        rendered.viewId = view.viewId ∧ rendered.revision = view.revision ∧ s.owned session
    · rw [if_pos allowed] at begins
      obtain rfl := Option.some.inj begins
      refine ⟨?_, rfl, by simp [note, edit], by simp [note, edit]⟩
      simp only [note, edit]
      constructor <;> grind [Function.update_apply]
    · rw [if_neg allowed] at begins
      cases begins
  · cases begins

lemma Sound.lost (h : s.Sound .stale) (flight : s.inFlight = some i) {reason : DragEnd} (bad : reason ≠ .released) :
    ((s.finish i reason).settle i).Sound .steady := by
  refine (h.finish i reason fun good => absurd good bad).settle (.inr rfl) (by simpa using flight) fun now => ?_
  by_cases same : s.drag = some i <;> simp [same] at now

lemma Sound.answer (h : s.Sound .steady) (running : (s.workers i).running) (next : DragView) :
    (s.answer i next).Sound .steady := by
  have flight := (h.running i).1 running
  by_cases now : s.drag = some i
  · by_cases same : s.options.signature = (s.workers i).signature ∧ s.owned (s.workers i).session ∧
        next.viewId = (s.workers i).baseline.viewId ∧ !s.options.ahead next
    · have landed : ((s.note (.answered i next)).edit i fun w => { w with baseline := next }).Sound .landed := by
        simp only [note, edit]
        constructor <;> grind [Function.update_apply]
      simpa only [DragHook.answer, note, now, same, and_self, if_true] using landed.proceed flight
    · have stale : (s.note (.answered i next)).Sound .stale := by
        simp only [note]
        constructor <;> grind
      have state : s.answer i next = ((s.note (.answered i next)).finish i .foreign).settle i := by
        simp only [DragHook.answer, note, now, same, if_true, if_false]
      exact state ▸ stale.lost flight (by decide)
  · have landed : (s.note (.answered i next)).Sound .landed := by
      simp only [note]
      constructor <;> grind
    have state : s.answer i next = (s.note (.answered i next)).settle i := by
      simp only [DragHook.answer, note, now, if_false]
    exact state ▸ landed.settle (.inl rfl) flight fun drag => absurd drag now

lemma Sound.fail (h : s.Sound .steady) (running : (s.workers i).running) :
    (((s.note (.failed i)).finish i .failed).settle i).Sound .steady := by
  have flight := (h.running i).1 running
  have stale : (s.note (.failed i)).Sound .stale := by
    simp only [note]
    constructor <;> grind
  exact stale.lost flight (by decide)

lemma Sound.point (h : s.Sound .held) (i : Nat) (pointerId : Option Nat) :
    (s.edit i fun w => { w with pointerId }).Sound .held := by
  simp only [edit]
  constructor <;> grind [Function.update_apply]

lemma Sound.cancel (h : s.Sound .steady) : s.cancel.Sound .steady := by
  unfold DragHook.cancel
  split
  · exact h.finish _ .cancelled nofun
  · exact h

lemma Sound.step (h : s.Sound .steady) {action : DragAction} (step : s.step action = some s') : s'.Sound .steady := by
  cases action with
  | options options =>
    obtain rfl := Option.some.inj step
    exact ⟨h.proper, h.flying, h.busy, h.running, h.alone, h.frame, h.begun, h.fresh, h.ended, h.current⟩
  | owner session owned =>
    obtain rfl := Option.some.inj step
    exact ⟨h.proper, h.flying, h.busy, h.running, h.alone, h.frame, h.begun, h.fresh, h.ended, h.current⟩
  | effect identity owned =>
    simp only [DragHook.step] at step
    split at step <;> obtain rfl := Option.some.inj step
    · split
      · exact h.cancel
      · exact h
    · exact h
  | cancel =>
    obtain rfl := Option.some.inj step
    exact h.cancel
  | pointerDown divider pointer captured =>
    obtain ⟨t, begins, rfl⟩ := Option.map_eq_some_iff.1 step
    obtain ⟨held, now, pending, frame⟩ := h.begin begins
    have pointed := held.point s.begun (some pointer)
    cases captured with
    | true =>
      refine pointed.steady fun j drag => ?_
      obtain rfl : s.begun = j := by simpa [edit, now] using drag
      simp [edit, pending, frame]
    | false => exact (pointed.finish s.begun .failed nofun).steady fun j drag => by simp [edit, now] at drag
  | pointerMove pointer cells =>
    obtain ⟨i, pointed, rfl⟩ := Option.map_eq_some_iff.1 step
    obtain ⟨now, pointer⟩ := Option.filter_eq_some_iff.1 pointed
    exact h.schedule now _ true fun _ => by simp_all
  | pointerUp pointer cells =>
    obtain ⟨i, pointed, rfl⟩ := Option.map_eq_some_iff.1 step
    obtain ⟨now, pointer⟩ := Option.filter_eq_some_iff.1 pointed
    have moved := h.schedule now ((s.workers i).initialPosition + cells) true fun _ => by simp_all
    refine (moved.held.point i none).release ?_
    simp only [edit, DragHook.schedule, now, true_and, if_true]
    split
    · split <;> exact .inl now
    · simp [now]
  | pointerCancel pointer =>
    obtain ⟨_, _, rfl⟩ := Option.map_eq_some_iff.1 step
    exact h.cancel
  | keyDown divider delta =>
    simp only [DragHook.step] at step
    split at step
    · rename_i i now
      split at step
      · obtain rfl := Option.some.inj step
        exact (h.schedule now _ false nofun).finishIdle (by decide) i
      · cases step
    · obtain ⟨t, begins, rfl⟩ := Option.map_eq_some_iff.1 step
      obtain ⟨held, now, idle⟩ := h.begin begins
      exact held.schedule_idle now idle _
  | frame i =>
    simp only [DragHook.step, Option.ite_none_right_eq_some, Option.some.injEq] at step
    obtain ⟨requested, rfl⟩ := step
    have now := h.frame i requested
    exact h.held.flush now ((h.current i now).frame requested).1
  | answer i next =>
    simp only [DragHook.step, Option.ite_none_right_eq_some, Option.some.injEq] at step
    obtain ⟨running, rfl⟩ := step
    exact h.answer running next
  | fail i =>
    simp only [DragHook.step, Option.ite_none_right_eq_some, Option.some.injEq] at step
    obtain ⟨running, rfl⟩ := step
    exact h.fail running

lemma Sound.reachable (h : Reachable DragHook.step Mounted s) : s.Sound .steady := by
  refine h.invariant (Sound .steady) (fun t mounted => ?_) fun t action t' sound step => sound.step step
  obtain ⟨drag, inFlight, begun, log, idle⟩ := mounted
  constructor <;> grind

/-- At most one request is in flight; it carries the view that its drag has confirmed last, and none follows the end of
    a drag. A drag that is let go ends as it should (`DragEvent.Expected`). The busy callback has last been given
    whether there is a drag or a request. And the suspension of the viewport is released once for every drag that has
    begun, except for one that is still current; this one is held by a pointer, or its request is in flight. -/
theorem divider_drag {s : DragHook} (h : Reachable DragHook.step Mounted s) :
    (flying s.log).length ≤ 1 ∧ Proper s.log ∧ (isBusy s.log ↔ s.drag.isSome ∨ flying s.log ≠ []) ∧
    (∀ i, i < s.begun → s.drag ≠ some i → isOver i s.log ∧ resumes i s.log = 1) ∧
    ∀ i, s.drag = some i → isOver i s.log = false ∧ resumes i s.log = 0 ∧
      ((s.workers i).pointerId ≠ none ∨ flying s.log = [i]) := by
  have sound := Sound.reachable h
  have inFlight : flying s.log = s.inFlight.toList := by simpa using sound.flying
  refine ⟨?_, sound.proper, ?_, fun i begun gone => (sound.ended i begun gone).symm, fun i now => ?_⟩
  · cases flight : s.inFlight <;> simp [inFlight, flight]
  · cases flight : s.inFlight <;> simp [inFlight, sound.busy, flight]
  · have c := sound.current i now
    refine ⟨c.unended, c.unresumed, ?_⟩
    by_cases pointer : (s.workers i).pointerId = none
    · have running := (c.pointer pointer).resolve_right (by decide)
      simp [inFlight, (sound.running i).1 running]
    · exact .inl pointer

def mounted : DragHook :=
  let view : DragView := ⟨"v", 1, 9, 5, "", none⟩
  let options : DragOptions := ⟨some "s", some view, none, true, true⟩
  ⟨options, fun _ => true, none, none,
    fun _ => ⟨⟨"", [], 0, true, 0⟩, view, "s", options.signature, none, 0, 0, none, false, false⟩, 0, []⟩

/-- A drag by a pointer over two cells; the second target is sent when the pointer is let go, after the answer for the
    first. -/
def twoCells : List DragAction :=
  let divider : ViewDivider := ⟨"root.0", [], 0, true, 4⟩
  [.pointerDown divider 1 true, .pointerMove 1 1, .frame 0, .pointerMove 1 2, .pointerUp 1 2,
    .answer 0 ⟨"v", 2, 9, 5, "", none⟩, .answer 0 ⟨"v", 3, 9, 5, "", none⟩]

theorem divider_drag_twoCells :
    ∃ s, exec DragHook.step mounted twoCells = some s ∧ s.log.length = 12 ∧ (flying s.log).length ≤ 1 ∧
      Proper s.log ∧ isOver 0 s.log ∧ resumes 0 s.log = 1 := by
  refine ⟨_, rfl, rfl, ?_⟩
  have start : Reachable DragHook.step Mounted mounted := .start ⟨rfl, rfl, rfl, rfl, fun _ => ⟨rfl, rfl⟩⟩
  have holds := divider_drag (start.exec twoCells rfl)
  exact ⟨holds.1, holds.2.1, holds.2.2.2.1 0 (by decide) (by decide)⟩

end DragHook

end Ctl.Desktop
