import Ctl.Daemon.Delivery

/-!
# Flow control of one attachment

The presentation window in `ctmux/daemon/src/server.rs`. Every frame of output takes its charge from the
window until the client acknowledges it; a checkpoint is sent when nothing is in flight and takes no
charge. `Accounted` is what every step keeps (`step_accounted`): the frames in flight are exactly the
frames of output since the last restart that no acknowledgement covers, and their charges fit the window.
-/

namespace Ctl.Daemon.Delivery
open Ctl.Base Ctl.Proto Ctl.Core Ctl.Daemon.TerminalState

/-- `MAX_PRESENTATION_WINDOW_BYTES`. -/
def maxPresentationWindowBytes : Nat := 8 * 1024 * 1024

/-- Rust `valid_presentation_window`. -/
def validPresentationWindow (windowBytes : Nat) : Bool :=
  1 ≤ windowBytes && windowBytes ≤ maxPresentationWindowBytes

/-- The error of a handshake, if any (Rust `reject_invalid_presentation_window`). -/
def rejectInvalidPresentationWindow (windowBytes : Nat) : Option String :=
  if validPresentationWindow windowBytes then none
  else some "presentation_window_bytes must be between 1 and 8388608"

/-- A system before the attachment has taken its first snapshot, with a window that the handshake
    admits. -/
def Admitted (s : System) : Prop :=
  ∃ ops resumeFrom window, rejectInvalidPresentationWindow window = none ∧
    s = System.attach ops resumeFrom window

/-! ### Queues of charges -/

variable (queue : List OutputDelivery)

def total : Nat := (queue.map (·.chargeBytes)).sum

/-- The frames are in the order of their ends. -/
def Ordered : Prop := queue.Pairwise (·.sequenceEnd < ·.sequenceEnd)

@[simp] lemma total_nil : total [] = 0 := rfl

@[simp] lemma total_cons (delivery : OutputDelivery) (queue : List OutputDelivery) :
    total (delivery :: queue) = delivery.chargeBytes + total queue := by
  rw [total, List.map_cons, List.sum_cons]
  rfl

lemma total_append (left right : List OutputDelivery) : total (left ++ right) = total left + total right := by
  rw [total, List.map_append, List.sum_append]
  rfl

lemma total_filter_le (p : OutputDelivery → Bool) : total (queue.filter p) ≤ total queue := by
  induction queue with
  | nil => exact Nat.le_refl 0
  | cons delivery queue ih =>
    rw [List.filter_cons, total_cons]
    split
    case isTrue => rw [total_cons]; omega
    case isFalse => omega

lemma popAcknowledged_spec {queue : List OutputDelivery} (ordered : Ordered queue) (sequence : Nat) :
    popAcknowledged sequence queue (total queue) =
      (queue.filter (sequence < ·.sequenceEnd), total (queue.filter (sequence < ·.sequenceEnd))) := by
  induction queue with
  | nil => rfl
  | cons delivery rest ih =>
    rw [Ordered, List.pairwise_cons] at ordered
    rw [popAcknowledged]
    split
    case isTrue covered =>
      have gone : (delivery :: rest).filter (sequence < ·.sequenceEnd) =
          rest.filter (sequence < ·.sequenceEnd) :=
        List.filter_cons_of_neg (by simpa using covered)
      rw [gone, total_cons, Nat.add_sub_cancel_left]
      exact ih ordered.2
    case isFalse above =>
      have kept : (delivery :: rest).filter (sequence < ·.sequenceEnd) = delivery :: rest := by
        apply List.filter_eq_self.2
        intro d mem
        apply decide_eq_true
        cases mem with
        | head => omega
        | tail _ mem =>
          have later := ordered.1 d mem
          omega
      rw [kept]

/-! ### The frames in flight -/

def sinceRestart (frames : List Frame) : List (Chunk UInt8) :=
  frames.foldl (fun chunks frame =>
    match frame with
    | .output chunk => chunks ++ [chunk]
    | _ => []) []

def unacknowledged (frames : List Frame) (applied : Option Nat) : List (Chunk UInt8) :=
  (sinceRestart frames).filter fun chunk => applied.all (· < chunk.sequenceEnd)

def delivery (window : Nat) (chunk : Chunk UInt8) : OutputDelivery :=
  ⟨chunk.sequenceEnd, outputFrameCharge chunk.data.length window⟩

lemma sinceRestart_output (frames : List Frame) (chunk : Chunk UInt8) :
    sinceRestart (frames ++ [Frame.output chunk]) = sinceRestart frames ++ [chunk] := by
  rw [sinceRestart, List.foldl_append]
  rfl

lemma sinceRestart_attached (frames : List Frame) (replayFrom : Nat) (checkpoint : Option TerminalCheckpoint)
    (revision : Option Nat) : sinceRestart (frames ++ [Frame.attached replayFrom checkpoint revision]) = [] := by
  rw [sinceRestart, List.foldl_append]
  rfl

lemma sinceRestart_checkpoint (frames : List Frame) (checkpoint : TerminalCheckpoint)
    (revision : Option Nat) : sinceRestart (frames ++ [Frame.checkpoint checkpoint revision]) = [] := by
  rw [sinceRestart, List.foldl_append]
  rfl

structure Balanced (a : LiveAttachment) (frames : List Frame) : Prop where
  window : validPresentationWindow a.presentationWindowBytes
  queue : a.inFlightOutput =
    (unacknowledged frames a.appliedSequence).map (delivery a.presentationWindowBytes)
  charge : a.inFlightChargeBytes = total a.inFlightOutput
  fits : a.inFlightChargeBytes ≤ a.presentationWindowBytes
  ordered : Ordered a.inFlightOutput
  sent : ∀ d ∈ a.inFlightOutput, d.sequenceEnd ≤ a.sentSequence
  /-- The acknowledged position is behind nothing in flight, and what is sent behind it is in flight. -/
  applied : ∀ p ∈ a.appliedSequence, p ≤ a.sentSequence ∧
    (∀ d ∈ a.inFlightOutput, p < d.sequenceEnd) ∧
    (p = a.sentSequence ∨ ∃ d ∈ a.inFlightOutput, d.sequenceEnd = a.sentSequence)
  /-- Nothing is in flight before the client has applied its start or checkpoint. -/
  waiting : a.appliedSequence = none → a.inFlightOutput = []

/-- What the window needs where the driver stands. -/
def PhaseFits (s : System) : Prop :=
  match s.phase with
  | .attaching _ | .attachingFresh | .sendingAttached _ | .refreshing | .capturing | .sendingCheckpoint _ _ =>
    s.attachment.inFlightOutput = []
  | .delivering => s.attachment.appliedSequence.isSome
  | .sendingOutput chunk charge => s.attachment.appliedSequence.isSome ∧
    s.attachment.sentSequence < chunk.sequenceEnd ∧
    charge = outputFrameCharge chunk.data.length s.attachment.presentationWindowBytes ∧
    s.attachment.inFlightChargeBytes + charge ≤ s.attachment.presentationWindowBytes
  | .idle | .closed => True

/-- The invariant of the window. -/
structure Accounted (s : System) : Prop where
  balanced : Balanced s.attachment s.frames
  phase : PhaseFits s

/-! ### Acknowledgements -/

namespace Balanced

variable {a : LiveAttachment} {frames : List Frame} {a' : LiveAttachment} {sequence : Nat}

lemma empty (h : Balanced a frames) (all : a.appliedSequence = some a.sentSequence) : a.inFlightOutput = [] := by
  apply List.eq_nil_iff_forall_not_mem.2
  intro d mem
  have above := (h.applied _ all).2.1 d mem
  have below := h.sent d mem
  omega

/-- The accepted positions are the ends of the frames in flight, the position that was accepted last and,
    as long as a start or checkpoint is not applied, its position. -/
lemma accepts_iff (h : Balanced a frames) (sequence : Nat) :
    (∃ a', a.acceptPresentationProgress sequence = .ok a') ↔
      (∃ d ∈ a.inFlightOutput, d.sequenceEnd = sequence) ∨ a.appliedSequence = some sequence ∨
        (a.appliedSequence = none ∧ sequence = a.sentSequence) := by
  unfold LiveAttachment.acceptPresentationProgress
  cases applied : a.appliedSequence with
  | none =>
    have empty := h.waiting applied
    rw [empty]
    split
    case isTrue ahead =>
      refine ⟨fun ⟨_, h⟩ => (nomatch h), fun found => ?_⟩
      rcases found with ⟨d, mem, _⟩ | same | ⟨_, rfl⟩
      · exact nomatch mem
      · exact nomatch same
      · exact (Nat.lt_irrefl _ ahead).elim
    case isFalse =>
      dsimp only
      split
      case isTrue other =>
        refine ⟨fun ⟨_, h⟩ => (nomatch h), fun found => ?_⟩
        rcases found with ⟨d, mem, _⟩ | same | ⟨_, same⟩
        · exact nomatch mem
        · exact nomatch same
        · exact (other.resolve_right fun some => some rfl).elim same
      case isFalse same =>
        rw [not_or, not_not] at same
        exact ⟨fun _ => .inr (.inr ⟨rfl, same.1⟩), fun _ => ⟨_, rfl⟩⟩
  | some p =>
    obtain ⟨reached, above, _⟩ := h.applied p applied
    split
    case isTrue ahead =>
      refine ⟨fun ⟨_, h⟩ => (nomatch h), fun found => ?_⟩
      rcases found with ⟨d, mem, rfl⟩ | same | ⟨none, _⟩
      · exact absurd (h.sent d mem) (Nat.not_le_of_lt ahead)
      · obtain rfl := Option.some.inj same
        omega
      · exact nomatch none
    case isFalse =>
      dsimp only
      split
      case isTrue regressed =>
        refine ⟨fun ⟨_, h⟩ => (nomatch h), fun found => ?_⟩
        rcases found with ⟨d, mem, rfl⟩ | same | ⟨none, _⟩
        · have later := above d mem
          omega
        · obtain rfl := Option.some.inj same
          omega
        · exact nomatch none
      case isFalse =>
        split
        case isTrue same => exact ⟨fun _ => .inr (.inl (congrArg some same.symm)), fun _ => ⟨_, rfl⟩⟩
        case isFalse other =>
          split
          case isTrue found =>
            obtain ⟨d, mem, same⟩ := List.any_eq_true.1 found
            exact ⟨fun _ => .inl ⟨d, mem, of_decide_eq_true same⟩, fun _ => ⟨_, rfl⟩⟩
          case isFalse missing =>
            refine ⟨fun ⟨_, h⟩ => (nomatch h), fun found => ?_⟩
            rcases found with ⟨d, mem, same⟩ | same | ⟨none, _⟩
            · exact (missing (List.any_eq_true.2 ⟨d, mem, decide_eq_true same⟩)).elim
            · exact (other (Option.some.inj same).symm).elim
            · exact nomatch none

lemma accepted (h : Balanced a frames) (ok : a.acceptPresentationProgress sequence = .ok a') :
    a' = { a with
      appliedSequence := some sequence
      inFlightOutput := a.inFlightOutput.filter (sequence < ·.sequenceEnd)
      inFlightChargeBytes := total (a.inFlightOutput.filter (sequence < ·.sequenceEnd)) } := by
  have freed : a.acknowledge sequence = { a with
      appliedSequence := some sequence
      inFlightOutput := a.inFlightOutput.filter (sequence < ·.sequenceEnd)
      inFlightChargeBytes := total (a.inFlightOutput.filter (sequence < ·.sequenceEnd)) } := by
    rw [LiveAttachment.acknowledge, h.charge, popAcknowledged_spec h.ordered]
  unfold LiveAttachment.acceptPresentationProgress at ok
  split at ok
  case isTrue => exact nomatch ok
  case isFalse =>
    split at ok
    case h_1 p applied =>
      split at ok
      case isTrue => exact nomatch ok
      case isFalse =>
        split at ok
        case isTrue same =>
          -- Everything up to the position was freed before.
          have all : a.inFlightOutput.filter (sequence < ·.sequenceEnd) = a.inFlightOutput := by
            apply List.filter_eq_self.2
            intro d mem
            exact decide_eq_true (same ▸ (h.applied p applied).2.1 d mem)
          rw [all, ← h.charge, same, ← applied]
          exact (Except.ok.inj ok).symm
        case isFalse =>
          split at ok
          case isTrue => exact (Except.ok.inj ok).symm.trans freed
          case isFalse => exact nomatch ok
    case h_2 =>
      split at ok
      case isTrue => exact nomatch ok
      case isFalse => exact (Except.ok.inj ok).symm.trans freed

lemma accepted_bounds (h : Balanced a frames) (ok : a.acceptPresentationProgress sequence = .ok a') :
    sequence ≤ a.sentSequence ∧ ∀ p ∈ a.appliedSequence, p ≤ sequence := by
  rcases (h.accepts_iff sequence).1 ⟨a', ok⟩ with ⟨d, mem, rfl⟩ | same | ⟨none, rfl⟩
  · exact ⟨h.sent d mem, fun p applied => ((h.applied p applied).2.1 d mem).le⟩
  · refine ⟨(h.applied sequence same).1, fun p applied => ?_⟩
    exact (Option.some.inj (same.symm.trans applied)).ge
  · refine ⟨Nat.le_refl _, fun p applied => ?_⟩
    rw [none] at applied
    exact nomatch applied

lemma acknowledged (h : Balanced a frames) (ok : a.acceptPresentationProgress sequence = .ok a') :
    Balanced a' frames := by
  obtain ⟨reached, forward⟩ := h.accepted_bounds ok
  rw [h.accepted ok]
  have fewer := total_filter_le a.inFlightOutput (sequence < ·.sequenceEnd)
  refine ⟨h.window, ?_, rfl, fewer.trans (h.charge ▸ h.fits), h.ordered.filter _, ?_, ?_, nofun⟩
  · dsimp only
    rw [h.queue, List.filter_map, unacknowledged, unacknowledged, List.filter_filter]
    congr 1
    apply List.filter_congr
    intro chunk _
    rw [Option.all_some, Function.comp_apply, delivery]
    cases above : decide (sequence < chunk.sequenceEnd) with
    | false => rw [Bool.false_and]
    | true =>
      rw [Bool.true_and]
      apply Option.all_eq_true _ _ |>.2
      intro p applied
      exact decide_eq_true (Nat.lt_of_le_of_lt (forward p applied) (of_decide_eq_true above))
  · intro d mem
    exact h.sent d (List.mem_of_mem_filter mem)
  · intro p same
    obtain rfl := Option.some.inj same
    refine ⟨reached, fun d mem => of_decide_eq_true (List.mem_filter.1 mem).2, ?_⟩
    dsimp only
    by_cases all : sequence = a.sentSequence
    · exact .inl all
    -- The last frame in flight stays.
    have before : sequence < a.sentSequence := Nat.lt_of_le_of_ne reached all
    cases applied : a.appliedSequence with
    | none =>
      rcases (h.accepts_iff sequence).1 ⟨a', ok⟩ with ⟨d, mem, _⟩ | same | ⟨_, same⟩
      · rw [h.waiting applied] at mem
        exact nomatch mem
      · rw [applied] at same
        exact nomatch same
      · exact .inl same
    | some p =>
      obtain ⟨_, _, last⟩ := h.applied p applied
      rcases last with rfl | ⟨d, mem, ends⟩
      · exact absurd (forward _ applied) (Nat.not_le_of_lt before)
      · exact .inr ⟨d, List.mem_filter.2 ⟨mem, decide_eq_true (ends ▸ before)⟩, ends⟩

lemma output (h : Balanced a frames) {chunk : Chunk UInt8} (applied : a.appliedSequence.isSome)
    (behind : a.sentSequence < chunk.sequenceEnd)
    (fits : a.inFlightChargeBytes + outputFrameCharge chunk.data.length a.presentationWindowBytes ≤
      a.presentationWindowBytes) :
    Balanced { a with
      sentSequence := chunk.sequenceEnd
      inFlightChargeBytes :=
        a.inFlightChargeBytes + outputFrameCharge chunk.data.length a.presentationWindowBytes
      inFlightOutput := a.inFlightOutput ++ [delivery a.presentationWindowBytes chunk] }
      (frames ++ [Frame.output chunk]) := by
  refine ⟨h.window, ?_, ?_, fits, ?_, ?_, ?_, ?_⟩
  · have own : a.appliedSequence.all (· < chunk.sequenceEnd) := by
      apply Option.all_eq_true _ _ |>.2
      intro p same
      exact decide_eq_true (Nat.lt_of_le_of_lt (h.applied p same).1 behind)
    dsimp only
    rw [unacknowledged, sinceRestart_output, List.filter_append, List.map_append, h.queue, unacknowledged]
    congr 1
    have kept : [chunk].filter (fun chunk => a.appliedSequence.all (· < chunk.sequenceEnd)) = [chunk] := by
      rw [List.filter_singleton, own]
      rfl
    rw [kept]
    rfl
  · dsimp only
    rw [total_append, h.charge]
    rfl
  · apply List.pairwise_append.2
    refine ⟨h.ordered, List.pairwise_singleton _ _, ?_⟩
    intro d mem d' new
    rw [List.mem_singleton.1 new]
    exact Nat.lt_of_le_of_lt (h.sent d mem) behind
  · intro d mem
    cases List.mem_append.1 mem with
    | inl before => exact (h.sent d before).trans behind.le
    | inr new => rw [List.mem_singleton.1 new]; exact Nat.le_refl _
  · intro p same
    obtain ⟨reached, above, _⟩ := h.applied p same
    refine ⟨reached.trans behind.le, ?_, .inr ⟨_, List.mem_append_right _ (List.mem_singleton.2 rfl), rfl⟩⟩
    intro d mem
    cases List.mem_append.1 mem with
    | inl before => exact above d before
    | inr new => rw [List.mem_singleton.1 new]; exact Nat.lt_of_le_of_lt reached behind
  · intro none
    dsimp only at none
    rw [none] at applied
    exact nomatch applied

lemma restart (h : Balanced a frames) (empty : a.inFlightOutput = []) {frames' : List Frame}
    (none : sinceRestart frames' = []) (sent : Nat) {applied : Option Nat}
    (position : ∀ p ∈ applied, p = sent) (revision : Option Nat) :
    Balanced { a with
      sentSequence := sent
      appliedSequence := applied
      checkpointGeometryRevision := revision } frames' := by
  refine ⟨h.window, ?_, h.charge, h.fits, h.ordered, ?_, ?_, fun _ => empty⟩
  · dsimp only
    rw [unacknowledged, none, empty]
    rfl
  · intro d mem
    dsimp only at mem
    rw [empty] at mem
    exact nomatch mem
  · intro p same
    have exact_ := position p same
    refine ⟨exact_.le, fun d mem => ?_, .inl exact_⟩
    dsimp only at mem
    rw [empty] at mem
    exact nomatch mem

lemma pending (h : Balanced a frames) (pending : Bool) : Balanced { a with pendingCheckpoint := pending } frames :=
  ⟨h.window, h.queue, h.charge, h.fits, h.ordered, h.sent, h.applied, h.waiting⟩

end Balanced

/-! ### The steps -/

section
variable {E : Emulator} {setup : Setup} {s s' : System} {chunks : List (Chunk UInt8)} {sequence maxBytes : Nat}
  {revision : Option Nat}

lemma coalesceOutputChunks_behind {frame : Chunk UInt8}
    (some : coalesceOutputChunks chunks sequence maxBytes = some frame) : sequence < frame.sequenceEnd := by
  unfold coalesceOutputChunks at some
  split at some
  case isTrue => exact nomatch some
  case isFalse =>
    dsimp only at some
    split at some
    case isTrue => exact nomatch some
    case isFalse ne =>
      cases some
      exact Nat.lt_add_of_pos_right (List.length_pos_iff.2 ne)

lemma Balanced.enter (h : Balanced s.attachment s.frames) {phase : Phase} (fits : PhaseFits { s with phase }) :
    Accounted { s with phase } := ⟨h, fits⟩

lemma Balanced.sendAvailableOutput (h : Balanced s.attachment s.frames) : Accounted s.sendAvailableOutput := by
  unfold System.sendAvailableOutput
  split
  case isTrue => exact h.enter trivial
  case isFalse some =>
    split
    case isTrue requested => exact h.enter (List.isEmpty_iff.1 requested.2)
    case isFalse =>
      apply h.enter
      show s.attachment.appliedSequence.isSome = true
      rwa [Option.isNone_iff_eq_none, ← ne_eq, Option.ne_none_iff_isSome] at some

lemma Balanced.sendCheckpoint (h : Balanced s.attachment s.frames) (empty : s.attachment.inFlightOutput = [])
    (snapshot : AttachSnapshot) : Accounted (s.sendCheckpoint snapshot) := by
  unfold System.sendCheckpoint
  split
  case h_1 => exact h.enter trivial
  case h_2 => exact h.enter empty

lemma Balanced.deliver (h : Balanced s.attachment s.frames) (applied : s.attachment.appliedSequence.isSome)
    (snapshot : AttachSnapshot) :
    Accounted (s.deliver snapshot
      (s.attachment.presentationWindowBytes - s.attachment.inFlightChargeBytes)) := by
  unfold System.deliver
  split
  case h_1 =>
    split
    case isTrue empty => exact h.sendCheckpoint (List.isEmpty_iff.1 empty) snapshot
    case isFalse => exact h.enter trivial
  case h_2 =>
    split
    case h_1 => exact h.enter trivial
    case h_2 chunk coalesced =>
      dsimp only
      split
      case isTrue => exact h.enter trivial
      case isFalse room =>
        have fits := h.fits
        exact h.enter ⟨applied, coalesceOutputChunks_behind coalesced, rfl, by
          dsimp only
          omega⟩

lemma withSnapshot_accounted (h : Balanced s.attachment s.frames) {requested : Option Nat}
    {use : AttachSnapshot → System} (taken : ∀ snapshot, Accounted (use snapshot)) :
    Accounted (s.withSnapshot E setup requested revision use) := by
  unfold System.withSnapshot
  split
  case h_1 => exact h.enter trivial
  case h_2 snapshot _ => exact taken snapshot

lemma proceed_accounted (h : Accounted s) (step : s.proceed E setup = some s') : Accounted s' := by
  obtain ⟨balanced, fits⟩ := h
  unfold PhaseFits at fits
  unfold System.proceed at step
  cases phase : s.phase with
  | attaching resumeFrom =>
    rw [phase] at fits step
    cases resumeFrom with
    | none =>
      cases step
      exact ⟨balanced, fits⟩
    | some resumeFrom =>
      cases step
      exact withSnapshot_accounted balanced fun snapshot => balanced.enter fits
  | attachingFresh =>
    rw [phase] at fits step
    cases step
    exact withSnapshot_accounted balanced fun snapshot => balanced.enter fits
  | sendingAttached snapshot =>
    rw [phase] at fits step
    cases step
    unfold System.attachedWritten
    apply Balanced.sendAvailableOutput
    apply balanced.restart fits (sinceRestart_attached _ _ _ _)
    intro p position
    split at position
    case isTrue => exact (Option.some.inj position).symm
    case isFalse => exact nomatch position
  | idle => rw [phase] at step; exact nomatch step
  | delivering =>
    rw [phase] at fits step
    dsimp only at step
    split at step
    case isTrue =>
      cases step
      exact balanced.enter trivial
    case isFalse =>
      cases step
      exact withSnapshot_accounted balanced fun snapshot => balanced.deliver fits snapshot
  | refreshing =>
    rw [phase] at fits step
    cases step
    exact ⟨balanced, fits⟩
  | capturing =>
    rw [phase] at fits step
    cases step
    exact withSnapshot_accounted balanced fun snapshot =>
      Balanced.sendCheckpoint (s := s.setPendingCheckpoint false) (balanced.pending false) fits snapshot
  | sendingOutput chunk chargeBytes =>
    rw [phase] at fits step
    cases step
    obtain ⟨applied, behind, rfl, room⟩ := fits
    exact ⟨balanced.output applied behind room, applied⟩
  | sendingCheckpoint checkpoint revision =>
    rw [phase] at fits step
    cases step
    have unapplied : ∀ p ∈ (none : Option Nat), p = checkpoint.sequence :=
      fun p position => (Option.not_mem_none p position).elim
    exact ⟨balanced.restart fits (sinceRestart_checkpoint _ _ _) _ unapplied _, trivial⟩
  | closed => rw [phase] at step; exact nomatch step

lemma whenIdle_accounted {handled : System} (h : Accounted handled) (step : s.whenIdle handled = some s') :
    Accounted s' := by
  unfold System.whenIdle at step
  split at step
  case h_1 => exact Option.some.inj step ▸ h
  case h_2 => exact nomatch step

theorem step_accounted {action : Action} (h : Accounted s) (next : step E setup s action = some s') : Accounted s' := by
  cases action with
  | terminal op =>
    cases next
    exact ⟨h.balanced, h.phase⟩
  | presentationApplied sequence =>
    refine whenIdle_accounted ?_ next
    split
    case h_1 => exact h
    case h_2 a ok => exact Balanced.sendAvailableOutput (s := { s with attachment := a }) (h.balanced.acknowledged ok)
  | requestCheckpoint =>
    refine whenIdle_accounted ?_ next
    exact Balanced.sendAvailableOutput (s := s.setPendingCheckpoint true) (h.balanced.pending true)
  | output => exact whenIdle_accounted h.balanced.sendAvailableOutput next
  | ptyGeometryChanged observedSequence geometryRevision =>
    refine whenIdle_accounted ?_ next
    split
    case isTrue => exact h
    case isFalse => exact h.balanced.sendAvailableOutput
  | proceed => exact proceed_accounted h next
  | disconnect =>
    cases next
    exact h.balanced.enter trivial

lemma reachable_accounted (h : Reachable (step E setup) Admitted s) : Accounted s := by
  refine h.invariant _ ?_ fun s action s' inv next => step_accounted inv next
  rintro s ⟨ops, resumeFrom, window, admitted, rfl⟩
  have valid : validPresentationWindow window := by
    unfold rejectInvalidPresentationWindow at admitted
    split at admitted
    case isTrue valid => exact valid
    case isFalse => exact nomatch admitted
  exact ⟨⟨valid, rfl, rfl, Nat.zero_le _, List.Pairwise.nil,
    fun d mem => (nomatch mem), fun p position => (nomatch position), fun _ => rfl⟩, rfl⟩

lemma reachable_starts (h : Reachable (step E setup) Admitted s) : Reachable (step E setup) Starts s := by
  induction h with
  | start admitted =>
    obtain ⟨ops, resumeFrom, window, _, rfl⟩ := admitted
    exact .start ⟨ops, resumeFrom, window, rfl⟩
  | next _ ok step ih => exact .next ih ok step

/-! ### No stall -/

lemma coalesceLoop_length (chunks : List (Chunk UInt8)) {data : List UInt8} (next : Nat)
    (room : data.length ≤ maxBytes) :
    data.length ≤ (coalesceLoop maxBytes chunks data next).length ∧
      (coalesceLoop maxBytes chunks data next).length ≤ maxBytes := by
  induction chunks generalizing data next with
  | nil => exact ⟨Nat.le_refl _, room⟩
  | cons chunk chunks ih =>
    rw [coalesceLoop]
    split
    case h_1 => exact ih next room
    case h_2 chunk' _ =>
      split
      case isTrue => exact ⟨Nat.le_refl _, room⟩
      case isFalse =>
        have taken : (data ++ chunk'.data.take (min (maxBytes - data.length) chunk'.data.length)).length =
            data.length + min (maxBytes - data.length) chunk'.data.length := by
          rw [List.length_append, List.length_take]
          omega
        dsimp only
        split
        case isTrue full => exact ⟨by omega, full.le⟩
        case isFalse =>
          obtain ⟨more, bound⟩ := ih (next + min (maxBytes - data.length) chunk'.data.length)
            (taken.trans_le (by omega))
          exact ⟨by omega, bound⟩

lemma coalesceOutputChunks_isSome {log : List UInt8} {stop : Nat} (maxBytes : Nat)
    (h : Replays log sequence chunks stop) (more : sequence < stop) (room : 0 < maxBytes) :
    ∃ frame, coalesceOutputChunks chunks sequence maxBytes = some frame ∧ frame.data.length ≤ maxBytes := by
  rw [coalesceOutputChunks, if_neg (Nat.ne_of_gt room)]
  have bound : (coalesceLoop maxBytes chunks [] sequence).length ≤ maxBytes :=
    (coalesceLoop_length chunks sequence (Nat.zero_le _)).2
  have some : 0 < (coalesceLoop maxBytes chunks [] sequence).length := by
    cases h with
    | nil => exact absurd more (Nat.lt_irrefl _)
    | @cons chunk chunks stop of rest =>
      have after : chunkAfter chunk chunk.sequenceStart = some chunk := by
        rw [chunkAfter, Chunk.sliceFrom, if_neg (Nat.not_le_of_lt of.lt), if_pos (Nat.le_refl _)]
      have size := List.length_pos_iff.2 of.nonempty
      have taken : ([] ++ chunk.data.take (min (maxBytes - 0) chunk.data.length)).length =
          min maxBytes chunk.data.length := by
        rw [List.nil_append, List.length_take]
        omega
      rw [coalesceLoop, after]
      dsimp only [List.length_nil]
      rw [if_neg fun other => other rfl]
      split
      case isTrue => omega
      case isFalse =>
        have least := (coalesceLoop_length chunks (chunk.sequenceStart + min (maxBytes - 0) chunk.data.length)
          (taken.trans_le (Nat.min_le_left _ _))).1
        omega
  dsimp only
  rw [if_neg (List.length_pos_iff.1 some)]
  exact ⟨_, rfl, bound⟩

/-- The terminal has written more than was sent, or the client needs a checkpoint to go on. -/
def Owed (E : Emulator) (setup : Setup) (s : System) : Prop :=
  s.attachment.sentSequence < (rawStream s.ops).length ∨
    ((run E setup s.ops).deliveryCheckpoint (some s.attachment.sentSequence)
      s.attachment.checkpointGeometryRevision).isSome

def Emits (E : Emulator) (setup : Setup) (s : System) (actions : List Action) : Prop :=
  ∃ s' frame, exec (step E setup) s actions = some s' ∧ s'.frames = s.frames ++ [frame]

lemma emits_sendingOutput {chunk : Chunk UInt8} {charge : Nat} :
    Emits E setup { s with phase := .sendingOutput chunk charge } [.proceed] :=
  ⟨_, .output chunk, rfl, rfl⟩

lemma emits_sendingCheckpoint {checkpoint : TerminalCheckpoint} :
    Emits E setup { s with phase := .sendingCheckpoint checkpoint revision } [.proceed] :=
  ⟨_, .checkpoint checkpoint revision, rfl, rfl⟩

lemma Emits.cons {s s' : System} {action : Action} {actions : List Action} (next : step E setup s action = some s')
    (frames : s'.frames = s.frames) (h : Emits E setup s' actions) : Emits E setup s (action :: actions) := by
  obtain ⟨last, frame, run, written⟩ := h
  refine ⟨last, frame, ?_, frames ▸ written⟩
  rw [exec, List.foldlM_cons, next]
  exact run

lemma emits_delivering (inv : Inv E setup s) (h : Accounted s)
    (all : s.attachment.appliedSequence = some s.attachment.sentSequence) (phase : s.phase = .delivering)
    (owed : Owed E setup s) : Emits E setup s [.proceed, .proceed] := by
  have empty := h.balanced.empty all
  have whole : s.attachment.presentationWindowBytes - s.attachment.inFlightChargeBytes =
      s.attachment.presentationWindowBytes := by
    rw [h.balanced.charge, empty, total_nil, Nat.sub_zero]
  have window : 0 < s.attachment.presentationWindowBytes := by
    have valid := h.balanced.window
    rw [validPresentationWindow, Bool.and_eq_true, decide_eq_true_eq] at valid
    exact valid.1
  have bound : ∀ r ∈ some s.attachment.sentSequence, r ≤ (rawStream s.ops).length :=
    fun r same => Option.some.inj same ▸ inv.bound
  obtain ⟨snapshot, ok, _, checkpoint, _, _, position, _, replays⟩ :=
    snapshotForDelivery_spec (run_consistent E setup s.ops) s.attachment.checkpointGeometryRevision bound
  have proceed : step E setup s .proceed =
      some (s.deliver snapshot s.attachment.presentationWindowBytes) := by
    show s.proceed E setup = _
    unfold System.proceed
    rw [phase]
    dsimp only
    rw [whole, if_neg (Nat.ne_of_gt window), System.withSnapshot, ok]
  refine Emits.cons proceed ?_ ?_
  · unfold System.deliver System.sendCheckpoint
    split
    · split
      · split <;> rfl
      · rfl
    · split
      · rfl
      · dsimp only
        split <;> rfl
  unfold System.deliver
  cases captured : snapshot.checkpoint with
  | some c =>
    dsimp only
    rw [if_pos (List.isEmpty_iff.2 empty), System.sendCheckpoint, captured]
    exact emits_sendingCheckpoint
  | none =>
    have start := Option.some.inj (position captured)
    rw [← start] at replays
    rw [captured] at checkpoint
    have more : s.attachment.sentSequence < (rawStream s.ops).length := by
      refine owed.resolve_right fun needed => ?_
      rw [Option.map_eq_none_iff.1 checkpoint.symm] at needed
      exact nomatch needed
    obtain ⟨frame, coalesced, size⟩ := coalesceOutputChunks_isSome
      (min s.attachment.presentationWindowBytes maxOutputFrameBytes) replays more (by
        rw [maxOutputFrameBytes]
        omega)
    have fits : ¬ s.attachment.presentationWindowBytes <
        outputFrameCharge frame.data.length s.attachment.presentationWindowBytes := by
      rw [outputFrameCharge]
      omega
    dsimp only
    rw [coalesced]
    dsimp only
    rw [if_neg fits]
    exact emits_sendingOutput

lemma emits_refreshing (phase : s.phase = .refreshing) : Emits E setup s [.proceed, .proceed, .proceed] := by
  have refresh : step E setup s .proceed = some { s with ops := s.ops ++ [TerminalState.Op.refresh], phase := .capturing } := by
    show s.proceed E setup = _
    unfold System.proceed
    rw [phase]
  have fresh : ∃ snapshot, (run E setup (s.ops ++ [TerminalState.Op.refresh])).snapshotForDelivery none none = .ok snapshot ∧
      Taken E setup (s.ops ++ [TerminalState.Op.refresh]) none none snapshot :=
    snapshotForDelivery_taken none nofun
  obtain ⟨snapshot, ok, taken⟩ := fresh
  obtain ⟨c, captured, _⟩ := taken.fresh rfl
  have sent : step E setup { s with ops := s.ops ++ [TerminalState.Op.refresh], phase := .capturing } .proceed =
      some { (s.setPendingCheckpoint false) with
        ops := s.ops ++ [TerminalState.Op.refresh]
        phase := .sendingCheckpoint c snapshot.checkpointGeometryRevision } := by
    rw [step, System.proceed]
    dsimp only
    rw [System.withSnapshot, ok]
    dsimp only [System.sendCheckpoint]
    rw [Option.mem_def.1 captured]
    rfl
  refine Emits.cons refresh rfl (Emits.cons sent rfl ?_)
  exact ⟨_, .checkpoint c snapshot.checkpointGeometryRevision, rfl, rfl⟩

/-! ### The window of a run -/

/-- In every run with a window that the handshake admits, the frames in flight are the frames of output
    since the last restart that no acknowledgement covers, and their charges add up to what the window
    holds. The accepted positions are the ends of these frames, the position that was accepted last and,
    until a start or checkpoint is applied, its position. Accepting one frees the frames up to it, refusing
    one changes nothing, and with everything acknowledged the next frame can be sent. -/
theorem window_accounted (E : Emulator) (setup : Setup) (s : System) (h : Reachable (step E setup) Admitted s) :
    let a := s.attachment
    a.inFlightOutput = (unacknowledged s.frames a.appliedSequence).map (delivery a.presentationWindowBytes) ∧
    a.inFlightChargeBytes = (a.inFlightOutput.map (·.chargeBytes)).sum ∧
    a.inFlightChargeBytes ≤ a.presentationWindowBytes ∧
    (∀ sequence, (∃ a', a.acceptPresentationProgress sequence = .ok a') ↔
      (∃ d ∈ a.inFlightOutput, d.sequenceEnd = sequence) ∨ a.appliedSequence = some sequence ∨
        (a.appliedSequence = none ∧ sequence = a.sentSequence)) ∧
    (∀ sequence a', a.acceptPresentationProgress sequence = .ok a' →
      a' = { a with
        appliedSequence := some sequence
        inFlightOutput := a.inFlightOutput.filter (sequence < ·.sequenceEnd)
        inFlightChargeBytes :=
          ((a.inFlightOutput.filter (sequence < ·.sequenceEnd)).map (·.chargeBytes)).sum }) ∧
    (∀ sequence error, a.acceptPresentationProgress sequence = .error error →
      ∀ s', step E setup s (.presentationApplied sequence) = some s' → s' = s) ∧
    (a.appliedSequence = some a.sentSequence → a.inFlightOutput = [] ∧
      (s.phase = .delivering → Owed E setup s → Emits E setup s [.proceed, .proceed]) ∧
      (s.phase = .refreshing → Emits E setup s [.proceed, .proceed, .proceed]) ∧
      (s.phase = .idle → Owed E setup s ∨ a.pendingCheckpoint →
        ∃ turns, Emits E setup s (.output :: turns))) := by
  have accounted := reachable_accounted h
  have inv := reachable_inv (reachable_starts h)
  have balanced := accounted.balanced
  refine ⟨balanced.queue, balanced.charge, balanced.fits, balanced.accepts_iff,
    fun sequence a' ok => balanced.accepted ok, ?_, ?_⟩
  · intro sequence error refused s' next
    rw [step, System.whenIdle] at next
    split at next
    case h_1 =>
      rw [refused] at next
      exact (Option.some.inj next).symm
    case h_2 => exact nomatch next
  · intro all
    refine ⟨balanced.empty all, emits_delivering inv accounted all, emits_refreshing, ?_⟩
    intro phase owed
    have enter : step E setup s .output = some s.sendAvailableOutput := by
      rw [step, System.whenIdle, phase]
    have empty : s.attachment.inFlightOutput.isEmpty := List.isEmpty_iff.2 (balanced.empty all)
    have some : ¬ s.attachment.appliedSequence.isNone := by
      rw [all]
      exact nofun
    by_cases requested : s.attachment.pendingCheckpoint
    · have refreshing : s.sendAvailableOutput = { s with phase := .refreshing } := by
        rw [System.sendAvailableOutput, if_neg some, if_pos ⟨requested, empty⟩]
      refine ⟨[.proceed, .proceed, .proceed], Emits.cons enter (refreshing ▸ rfl) ?_⟩
      rw [refreshing]
      exact emits_refreshing rfl
    · have delivering : s.sendAvailableOutput = { s with phase := .delivering } := by
        rw [System.sendAvailableOutput, if_neg some, if_neg fun both => requested both.1]
      refine ⟨[.proceed, .proceed], Emits.cons enter (delivering ▸ rfl) ?_⟩
      have next : Inv E setup s.sendAvailableOutput := (step_inv inv enter).1
      have kept : Accounted s.sendAvailableOutput := step_accounted accounted enter
      rw [delivering] at next kept ⊢
      exact emits_delivering next kept all rfl (owed.resolve_right requested)

end

lemma resumed_admitted {s : System} (turns : List Action)
    (run : exec (step blank resizedSetup) (.attach resizedOps (some 1) 4096) turns = some s) :
    Reachable (step blank resizedSetup) Admitted s :=
  Reachable.exec (.start ⟨resizedOps, some 1, 4096, rfl, rfl⟩) _ run

/-- The client that resumed has one frame in flight, which fills its window; its end is accepted and
    frees it. -/
theorem window_accounted_resumed :
    ∃ s, Reachable (step blank resizedSetup) Admitted s ∧ s.attachment.inFlightChargeBytes = 4096 ∧
      s.attachment.inFlightOutput = (unacknowledged s.frames (some 1)).map (delivery 4096) ∧
      ∃ a', s.attachment.acceptPresentationProgress 3 = .ok a' ∧ a'.inFlightChargeBytes = 0 := by
  have reachable := resumed_admitted _ resumed_run
  obtain ⟨queue, _, _, accepts, frees, _⟩ := window_accounted blank resizedSetup _ reachable
  obtain ⟨a', ok⟩ := (accepts 3).2 (.inl ⟨⟨3, 4096⟩, List.mem_singleton.2 rfl, rfl⟩)
  refine ⟨_, reachable, rfl, queue, a', ok, ?_⟩
  rw [frees 3 a' ok]
  rfl

/-- The position that was accepted last is accepted again, though no frame in flight ends there. -/
theorem accepted_again :
    ¬ ∀ (E : Emulator) (setup : Setup) (s : System), Reachable (step E setup) Admitted s →
      ∀ sequence, (∃ a', s.attachment.acceptPresentationProgress sequence = .ok a') ↔
        ∃ d ∈ s.attachment.inFlightOutput, d.sequenceEnd = sequence := by
  intro claim
  have reachable := resumed_admitted [.proceed, .proceed] rfl
  obtain ⟨d, mem, _⟩ := (claim _ _ _ reachable 1).1 ⟨_, rfl⟩
  exact nomatch mem

end Ctl.Daemon.Delivery
