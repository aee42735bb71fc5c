import Ctl.Client.Driver

/-!
# The cursor of a reconnect

A renderer has applied the events that it acknowledged, one after another (`rendered`). The cursor of the
controller is where this renderer stands, or it is empty while the renderer cannot continue. `Safe` is the invariant:
the events follow each other in the stream, and the ledger holds those that were not acknowledged.
-/

namespace Ctl.Client
open Ctl.Base Ctl.Proto Ctl.Daemon

/-! ### The renderer -/

/-- What a renderer has applied: all before `base`, and then `bytes`. -/
structure Shown where
  base : Nat
  bytes : List UInt8

def Shown.position (shown : Shown) : Nat := shown.base + shown.bytes.length

/-- An event is applied as it was acknowledged. Nothing is shown without a compatible base, and no output that does
    not continue it. -/
def Shown.apply (shown : Option Shown) : AttachmentEvent × PresentationAck → Option Shown
  | (.output sequenceStart _ data, _) =>
    shown.bind fun shown =>
      if sequenceStart = shown.position then some ⟨shown.base, shown.bytes ++ data⟩ else none
  | (.checkpoint restored _ _ _, .checkpoint _) => some ⟨restored.sequence, []⟩
  | (_, .checkpointIncompatible _) => none
  | (_, .geometryIncompatible _) => none
  | _ => shown

def rendered (startsCompatible : Bool) (replayFrom : Nat) (log : List Entry) : Option Shown :=
  ((shownEvents log).zip (acknowledgements log)).foldl Shown.apply
    (if startsCompatible then some ⟨replayFrom, []⟩ else none)

/-- After this acknowledgement the renderer has not applied a checkpoint since it was incompatible. -/
def lacksCheckpoint (lacks : Bool) : PresentationAck → Bool
  | .checkpoint _ => false
  | .checkpointIncompatible _ => true
  | .geometryIncompatible _ => true
  | .output _ => lacks
  | .geometry _ => lacks

def lastEnd (position : Nat) (acknowledgement : PresentationAck) : Nat :=
  acknowledgement.presentation.progress.getD position

def follow (position : Nat) : AttachmentEvent → Option Nat
  | .output sequenceStart sequenceEnd data =>
    if sequenceStart = position ∧ sequenceStart + data.length = sequenceEnd then some sequenceEnd else none
  | .checkpoint restored _ _ _ => if position ≤ restored.sequence then some restored.sequence else none
  | .ptyGeometryChanged _ observedSequence => if observedSequence = position then some position else none
  | .historySynced _ => some position

lemma le_follow {position next : Nat} {event : AttachmentEvent} (h : follow position event = some next) :
    position ≤ next := by
  cases event with
  | output sequenceStart sequenceEnd data =>
    rw [follow] at h
    split at h
    case isTrue eq =>
      cases h
      omega
    case isFalse => cases h
  | checkpoint restored =>
    rw [follow] at h
    split at h
    case isTrue le =>
      cases h
      exact le
    case isFalse => cases h
  | ptyGeometryChanged =>
    rw [follow] at h
    split at h
    case isTrue =>
      cases h
      exact le_refl _
    case isFalse => cases h
  | historySynced =>
    cases h
    exact le_refl _

lemma le_foldlM_follow {events : List AttachmentEvent} {position last : Nat}
    (h : events.foldlM follow position = some last) : position ≤ last := by
  induction events generalizing position with
  | nil => exact le_of_eq (Option.some.inj h)
  | cons event events ih =>
    rw [List.foldlM_cons] at h
    obtain ⟨next, first, rest⟩ := Option.bind_eq_some_iff.1 h
    exact (le_follow first).trans (ih rest)

lemma apply_position {shown : Option Shown} {lacks : Bool} {position next : Nat} {event : AttachmentEvent}
    {acknowledgement : PresentationAck} (answers : event.presentation = some acknowledgement.presentation)
    (h : follow position event = some next)
    (stands : shown.map Shown.position = if lacks then none else some position) :
    lastEnd position acknowledgement = next ∧
      (Shown.apply shown (event, acknowledgement)).map Shown.position =
        if lacksCheckpoint lacks acknowledgement then none else some next := by
  cases event with
  | output sequenceStart sequenceEnd data =>
    cases acknowledgement with
    | output stop =>
      cases answers
      rw [follow] at h
      split at h
      case isFalse => cases h
      case isTrue eq =>
        cases h
        refine ⟨rfl, ?_⟩
        cases shown with
        | none =>
          cases lacks with
          | true => rfl
          | false => cases stands
        | some shown =>
          cases lacks with
          | true => cases stands
          | false =>
            have same : shown.position = position := Option.some.inj stands
            show ((if sequenceStart = shown.position then some (Shown.mk shown.base (shown.bytes ++ data)) else none) :
              Option Shown).map Shown.position = some next
            rw [if_pos (eq.1.trans same.symm), Option.map_some, Shown.position, List.length_append]
            rw [Shown.position] at same
            exact congrArg some (show shown.base + (shown.bytes.length + data.length) = next by omega)
    | checkpoint => cases answers
    | checkpointIncompatible => cases answers
    | geometry => cases answers
    | geometryIncompatible => cases answers
  | checkpoint restored =>
    have reached : restored.sequence = next := by
      rw [follow] at h
      split at h
      case isTrue => exact Option.some.inj h
      case isFalse => cases h
    cases acknowledgement with
    | checkpoint =>
      cases answers
      exact ⟨reached, congrArg some reached⟩
    | checkpointIncompatible =>
      cases answers
      exact ⟨reached, rfl⟩
    | output => cases answers
    | geometry => cases answers
    | geometryIncompatible => cases answers
  | ptyGeometryChanged size observed =>
    have same : position = next := by
      rw [follow] at h
      split at h
      case isTrue => exact Option.some.inj h
      case isFalse => cases h
    cases acknowledgement with
    | geometry =>
      cases answers
      exact ⟨same, same ▸ stands⟩
    | geometryIncompatible =>
      cases answers
      exact ⟨same, rfl⟩
    | output => cases answers
    | checkpoint => cases answers
    | checkpointIncompatible => cases answers
  | historySynced => cases answers

lemma rendered_position {events : List AttachmentEvent} {answers : List PresentationAck} {shown : Option Shown}
    {lacks : Bool} {position last : Nat}
    (answered : events.map AttachmentEvent.presentation = answers.map fun answer => some answer.presentation)
    (follows : events.foldlM follow position = some last)
    (stands : shown.map Shown.position = if lacks then none else some position) :
    answers.foldl lastEnd position = last ∧
      ((events.zip answers).foldl Shown.apply shown).map Shown.position =
        if answers.foldl lacksCheckpoint lacks then none else some last := by
  induction events generalizing answers shown lacks position with
  | nil =>
    cases answers with
    | nil =>
      cases follows
      exact ⟨rfl, stands⟩
    | cons => cases answered
  | cons event events ih =>
    cases answers with
    | nil => cases answered
    | cons answer answers =>
      obtain ⟨first, rest⟩ := List.cons.inj answered
      rw [List.foldlM_cons] at follows
      obtain ⟨next, moved, follows⟩ := Option.bind_eq_some_iff.1 follows
      obtain ⟨same, stands⟩ := apply_position first moved stands
      rw [List.zip_cons_cons, List.foldl_cons, List.foldl_cons, List.foldl_cons, same]
      exact ih rest follows stands

/-! ### What a step does to the presentation -/

inductive Progress (c : AttachmentController) (log : List Entry) : AttachmentController → List Entry → Prop
  | quiet {entries : List Entry} (silent : shownEvents entries = []) (unanswered : acknowledgements entries = []) :
    Progress c log c (log ++ entries)
  | output {sequenceStart sequenceEnd : Nat} {data : List UInt8}
    (room : c.pendingPresentations.length < c.eventQueueCapacity) (start : sequenceStart = c.receivedSequence)
    (stop : sequenceStart + data.length = sequenceEnd) :
    Progress c log { c with
      receivedSequence := sequenceEnd
      pendingPresentations := c.pendingPresentations ++ [PendingPresentation.output sequenceEnd] }
      (log ++ [Entry.event (.output sequenceStart sequenceEnd data)])
  | checkpoint {restored history manifest gap}
    (room : c.pendingPresentations.length < c.eventQueueCapacity) (ahead : c.receivedSequence ≤ restored.sequence) :
    Progress c log { c with
      receivedSequence := restored.sequence
      resumeSequence := none
      rendererRequiresCheckpoint := true
      pendingPresentations := c.pendingPresentations ++ [PendingPresentation.checkpoint restored.sequence] }
      (log ++ [Entry.event (.checkpoint restored history manifest gap)])
  | geometry (room : c.pendingPresentations.length < c.eventQueueCapacity) (terminalSize) :
    Progress c log { c with
      pendingPresentations := c.pendingPresentations ++ [PendingPresentation.geometry c.receivedSequence] }
      (log ++ [Entry.event (.ptyGeometryChanged terminalSize c.receivedSequence)])
  | acknowledged {acknowledgement c' applied}
    (accepted : c.acceptPresentationAcknowledgement acknowledgement = .ok (c', applied)) :
    Progress c log c' (log ++ [Entry.acknowledged acknowledgement])

lemma Progress.refl (c : AttachmentController) (log : List Entry) : Progress c log c log := by
  have h := @Progress.quiet c log [] rfl rfl
  rwa [List.append_nil] at h

def refusesManifest : Driver.Action → Bool
  | .message (.checkpoint _ checkpoint history historyManifest historyGap) =>
    match Driver.beginTransfer historyManifest checkpoint history historyGap with
    | .error _ => true
    | .ok _ => false
  | _ => false

/-- The loop has ended at a checkpoint whose manifest does not match it. -/
structure Refused (d : Driver) (d' : Driver) : Prop where
  failure : ∃ error, d'.failure = some (.invalidHistorySnapshot error)
  cursor : d'.presentation.resumeSequence = none
  ledger : d'.presentation.pendingPresentations = d.presentation.pendingPresentations
  log : d'.log = d.log

namespace Driver

variable {codec : Codec} {d d' : Driver}

lemma advanceHistoryTransfer_same :
    (d.advanceHistoryTransfer codec).presentation = d.presentation ∧
      (d.advanceHistoryTransfer codec).log = d.log := by
  rw [advanceHistoryTransfer]
  split
  case h_1 => exact ⟨rfl, rfl⟩
  case h_2 =>
    split
    case isTrue =>
      dsimp only
      split
      case h_1 => exact ⟨rfl, rfl⟩
      case h_2 => exact ⟨rfl, rfl⟩
    case isFalse => exact ⟨rfl, rfl⟩

lemma processHistoryPage_same (snapshotId : String) (offset : Nat) (data : List UInt8) (nextOffset : Option Nat) :
    (d.processHistoryPage codec snapshotId offset data nextOffset).presentation = d.presentation ∧
      (d.processHistoryPage codec snapshotId offset data nextOffset).log = d.log := by
  rw [processHistoryPage]
  split
  case h_1 => exact ⟨rfl, rfl⟩
  case h_2 =>
    split
    case h_1 => exact ⟨rfl, rfl⟩
    case h_2 => exact advanceHistoryTransfer_same

lemma processOutput_progress (room : d.presentation.pendingPresentations.length < d.presentation.eventQueueCapacity)
    (sequenceStart sequenceEnd : Nat) (data : List UInt8) :
    Progress d.presentation d.log (d.processOutput sequenceStart sequenceEnd data).presentation
      (d.processOutput sequenceStart sequenceEnd data).log := by
  rw [processOutput, AttachmentController.acceptOutput]
  split
  case h_1 => exact .refl _ _
  case h_2 presentation accepted =>
    split at accepted
    case isTrue => cases accepted
    case isFalse continues =>
      cases accepted
      obtain ⟨start, stop⟩ := not_or.1 continues
      dsimp only [enqueuePresentation, emitEvent]
      rw [AttachmentController.enqueuePresentation_eq]
      · exact .output room (not_not.1 start) (not_not.1 stop)
      · exact room

lemma acceptGeometryChange_progress
    (room : d.presentation.pendingPresentations.length < d.presentation.eventQueueCapacity)
    (terminalSize : TerminalSize) (observedSequence : Nat) :
    Progress d.presentation d.log (d.acceptGeometryChange terminalSize observedSequence).presentation
      (d.acceptGeometryChange terminalSize observedSequence).log := by
  rw [acceptGeometryChange]
  split
  case isTrue => exact .refl _ _
  case isFalse =>
    dsimp only
    split
    case isTrue => exact .refl _ _
    case isFalse same =>
      obtain rfl := not_not.1 same
      dsimp only [enqueuePresentation, emitEvent, queueHistoryRequest]
      rw [AttachmentController.enqueuePresentation_eq room]
      exact .geometry room terminalSize

lemma processCheckpoint_progress
    (room : d.presentation.pendingPresentations.length < d.presentation.eventQueueCapacity) (bundleValid : Bool)
    (checkpoint : TerminalCheckpoint) (history : TerminalHistorySnapshot)
    (manifest : Option TerminalHistoryManifest) (gap : Bool) :
    Progress d.presentation d.log (d.processCheckpoint bundleValid checkpoint history manifest gap).presentation
        (d.processCheckpoint bundleValid checkpoint history manifest gap).log ∨
      refusesManifest (.message (.checkpoint bundleValid checkpoint history manifest gap)) = true ∧
        Refused d (d.processCheckpoint bundleValid checkpoint history manifest gap) := by
  rw [processCheckpoint, refusesManifest, AttachmentController.acceptCheckpoint]
  split
  case h_1 => exact .inl (.refl _ _)
  case h_2 presentation accepted =>
    split at accepted
    case isTrue => cases accepted
    case isFalse =>
      split at accepted
      case isTrue => cases accepted
      case isFalse ahead =>
        cases accepted
        dsimp only
        cases beginTransfer manifest checkpoint history gap with
        | error error => exact .inr ⟨rfl, ⟨error, rfl⟩, rfl, rfl, rfl⟩
        | ok transfer =>
          refine .inl ?_
          dsimp only [enqueuePresentation, emitEvent, queueHistoryRequest]
          rw [AttachmentController.enqueuePresentation_eq]
          · exact .checkpoint room (Nat.not_lt.1 ahead)
          · exact room

lemma acceptAcknowledgement_progress (acknowledgement : PresentationAck) :
    Progress d.presentation d.log (d.acceptAcknowledgement codec acknowledgement).presentation
      (d.acceptAcknowledgement codec acknowledgement).log := by
  rw [acceptAcknowledgement]
  split
  case h_1 => exact .refl _ _
  case h_2 presentation applied accepted =>
    dsimp only
    split
    case h_1 => exact .acknowledged accepted
    case h_2 =>
      split
      case isTrue =>
        rw [advanceHistoryTransfer_same.1, advanceHistoryTransfer_same.2]
        exact .acknowledged accepted
      case isFalse => exact .acknowledged accepted

lemma step_progress {action : Action} (stepped : d.step codec action = some d') :
    Progress d.presentation d.log d'.presentation d'.log ∨ refusesManifest action = true ∧ Refused d d' := by
  unfold step at stepped
  split at stepped
  case isTrue => cases stepped
  case isFalse =>
    cases action with
    | message message =>
      dsimp only at stepped
      split at stepped
      case isFalse => cases stepped
      case isTrue free =>
        cases stepped
        cases message with
        | output => exact .inl (processOutput_progress free.1 _ _ _)
        | checkpoint => exact processCheckpoint_progress free.1 _ _ _ _ _
        | historyPage snapshotId offset data nextOffset =>
          have same := @processHistoryPage_same codec d snapshotId offset data nextOffset
          refine .inl ?_
          rw [processServerMessage, same.1, same.2]
          exact .refl _ _
        | historySnapshotExpired snapshotId =>
          refine .inl ?_
          rw [processServerMessage, expireHistoryTransfer]
          split
          case isTrue => exact .refl _ _
          case isFalse => exact .refl _ _
        | ptyGeometryChanged => exact .inl (acceptGeometryChange_progress free.1 _ _)
    | acknowledgement acknowledgement =>
      cases stepped
      exact .inl (acceptAcknowledgement_progress acknowledgement)
    | emitHistory =>
      dsimp only at stepped
      split at stepped
      case h_1 => cases stepped
      case h_2 =>
        split at stepped
        case isFalse => cases stepped
        case isTrue =>
          cases stepped
          exact .inl (.quiet rfl rfl)
    | takeEvent =>
      dsimp only at stepped
      split at stepped
      case isTrue => cases stepped
      case isFalse =>
        cases stepped
        exact .inl (.refl _ _)
    | writeHistoryRequest =>
      dsimp only at stepped
      split at stepped
      case isFalse => cases stepped
      case isTrue =>
        cases stepped
        exact .inl (.quiet (shownEvents_sent _) (acknowledgements_sent _))

end Driver

/-! ### The invariant -/

def PendingPresentation.isCheckpoint : PendingPresentation → Bool
  | .checkpoint _ => true
  | _ => false

lemma checkpointIsPending_eq (c : AttachmentController) :
    c.checkpointIsPending = c.pendingPresentations.any PendingPresentation.isCheckpoint := by
  rw [AttachmentController.checkpointIsPending]
  congr

def PresentationAck.reaches (resumeSequence : Option Nat) : PresentationAck → Option Nat
  | .output sequenceEnd => some sequenceEnd
  | .checkpoint sequence => some sequence
  | .checkpointIncompatible _ => none
  | .geometry _ => resumeSequence
  | .geometryIncompatible _ => none

lemma accepted_spec {c c' : AttachmentController} {acknowledgement : PresentationAck} {applied : Option Nat}
    (accepted : c.acceptPresentationAcknowledgement acknowledgement = .ok (c', applied)) :
    ∃ rest, c.pendingPresentations = acknowledgement.presentation :: rest ∧
      applied = acknowledgement.presentation.progress ∧
      c' = c.complete rest (lacksCheckpoint c.rendererRequiresCheckpoint acknowledgement)
        (acknowledgement.reaches c.resumeSequence) := by
  have granted : ∀ {actual expected : Nat} {result : AttachmentController × Option Nat} {error : ClientError},
      (if actual = expected then Except.ok result else .error error) = .ok (c', applied) →
      actual = expected ∧ result = (c', applied) := by
    intro actual expected result error taken
    split at taken
    case isTrue same => exact ⟨same, Except.ok.inj taken⟩
    case isFalse => cases taken
  rw [AttachmentController.acceptPresentationAcknowledgement] at accepted
  cases ledger : c.pendingPresentations with
  | nil =>
    rw [ledger] at accepted
    cases accepted
  | cons pending rest =>
    rw [ledger] at accepted
    cases pending with
    | output expected =>
      cases acknowledgement with
      | output =>
        obtain ⟨rfl, same⟩ := granted accepted
        cases same
        exact ⟨rest, rfl, rfl, rfl⟩
      | checkpoint => cases accepted
      | checkpointIncompatible => cases accepted
      | geometry => cases accepted
      | geometryIncompatible => cases accepted
    | checkpoint expected =>
      cases acknowledgement with
      | checkpoint =>
        obtain ⟨rfl, same⟩ := granted accepted
        cases same
        exact ⟨rest, rfl, rfl, rfl⟩
      | checkpointIncompatible =>
        obtain ⟨rfl, same⟩ := granted accepted
        cases same
        exact ⟨rest, rfl, rfl, rfl⟩
      | output => cases accepted
      | geometry => cases accepted
      | geometryIncompatible => cases accepted
    | geometry expected =>
      cases acknowledgement with
      | geometry =>
        obtain ⟨rfl, same⟩ := granted accepted
        cases same
        exact ⟨rest, rfl, rfl, rfl⟩
      | geometryIncompatible =>
        obtain ⟨rfl, same⟩ := granted accepted
        cases same
        exact ⟨rest, rfl, rfl, rfl⟩
      | output => cases accepted
      | checkpoint => cases accepted
      | checkpointIncompatible => cases accepted

/-- The ledger holds the events that were not acknowledged, the events follow each other, and the cursor is where
    the renderer stands. -/
structure Safe (options : AttachmentControllerOptions) (replayFrom : Nat) (c : AttachmentController)
    (log : List Entry) : Prop where
  capacity : c.eventQueueCapacity = options.eventQueueCapacity
  bounded : c.pendingPresentations.length ≤ options.eventQueueCapacity
  ledger : (shownEvents log).map AttachmentEvent.presentation =
    ((acknowledgements log).map PresentationAck.presentation ++ c.pendingPresentations).map some
  follows : (shownEvents log).foldlM follow replayFrom = some c.receivedSequence
  required : c.checkpointIsPending = false →
    c.rendererRequiresCheckpoint = (acknowledgements log).foldl lacksCheckpoint (!options.rendererStartsCompatible)
  cursor : c.resumeSequence =
    if c.rendererRequiresCheckpoint || c.checkpointIsPending then none
    else some ((acknowledgements log).foldl lastEnd replayFrom)

namespace Safe

variable {options : AttachmentControllerOptions} {replayFrom : Nat} {c c' : AttachmentController}
  {log log' : List Entry}

lemma shownEvents_event {event : AttachmentEvent} {pending : PendingPresentation}
    (same : event.presentation = some pending) : shownEvents [.event event] = [event] := by
  rw [shownEvents, List.filterMap_cons_some (b := event)]
  · rfl
  · rw [Entry.presented, same]
    rfl

lemma ledger_event {event : AttachmentEvent} {pending : PendingPresentation} (h : Safe options replayFrom c log)
    (same : event.presentation = some pending) :
    (shownEvents (log ++ [Entry.event event])).map AttachmentEvent.presentation =
      ((acknowledgements (log ++ [Entry.event event])).map PresentationAck.presentation ++
        (c.pendingPresentations ++ [pending])).map some := by
  have unanswered : acknowledgements [.event event] = [] := rfl
  rw [shownEvents_append, shownEvents_event same, acknowledgements_append, unanswered, List.append_nil, List.map_append,
    h.ledger, ← List.append_assoc]
  refine Eq.trans ?_ List.map_append.symm
  exact congrArg (_ ++ ·) (congrArg (fun presentation => [presentation]) same)

lemma follows_event {event : AttachmentEvent} {pending : PendingPresentation} {received : Nat}
    (h : Safe options replayFrom c log) (same : event.presentation = some pending)
    (follows : follow c.receivedSequence event = some received) :
    (shownEvents (log ++ [Entry.event event])).foldlM follow replayFrom = some received := by
  rw [shownEvents_append, shownEvents_event same, List.foldlM_append, h.follows]
  exact Option.bind_eq_some_iff.2 ⟨_, rfl, Option.bind_eq_some_iff.2 ⟨received, follows, rfl⟩⟩

lemma bounded_event (h : Safe options replayFrom c log) (room : c.pendingPresentations.length < c.eventQueueCapacity)
    (pending : PendingPresentation) : (c.pendingPresentations ++ [pending]).length ≤ options.eventQueueCapacity := by
  rw [h.capacity] at room
  rw [List.length_append]
  exact room

lemma event {event : AttachmentEvent} {pending : PendingPresentation} {received : Nat}
    (h : Safe options replayFrom c log) (room : c.pendingPresentations.length < c.eventQueueCapacity)
    (same : event.presentation = some pending) (follows : follow c.receivedSequence event = some received)
    (other : pending.isCheckpoint = false) :
    Safe options replayFrom
      { c with receivedSequence := received, pendingPresentations := c.pendingPresentations ++ [pending] }
      (log ++ [Entry.event event]) := by
  have unanswered : acknowledgements (log ++ [Entry.event event]) = acknowledgements log := by
    rw [acknowledgements_append]
    exact List.append_nil _
  have waits : AttachmentController.checkpointIsPending
      { c with receivedSequence := received, pendingPresentations := c.pendingPresentations ++ [pending] } =
      c.checkpointIsPending := by
    rw [checkpointIsPending_eq, checkpointIsPending_eq, List.any_append, List.any_cons, other]
    exact Bool.or_false _
  refine ⟨h.capacity, h.bounded_event room pending, h.ledger_event same, h.follows_event same follows, ?_, ?_⟩
  · rw [waits, unanswered]
    exact h.required
  · rw [waits, unanswered]
    exact h.cursor

lemma checkpoint {restored : TerminalCheckpoint} {history manifest gap} (h : Safe options replayFrom c log)
    (room : c.pendingPresentations.length < c.eventQueueCapacity) (ahead : c.receivedSequence ≤ restored.sequence) :
    Safe options replayFrom
      { c with
        receivedSequence := restored.sequence
        resumeSequence := none
        rendererRequiresCheckpoint := true
        pendingPresentations := c.pendingPresentations ++ [PendingPresentation.checkpoint restored.sequence] }
      (log ++ [Entry.event (.checkpoint restored history manifest gap)]) := by
  refine ⟨h.capacity, h.bounded_event room _, h.ledger_event rfl, h.follows_event rfl (if_pos ahead), ?_, rfl⟩
  intro waits
  rw [checkpointIsPending_eq, List.any_append, Bool.or_eq_false_iff] at waits
  cases waits.2

lemma acknowledged {acknowledgement : PresentationAck} {rest : List PendingPresentation}
    (h : Safe options replayFrom c log) (ledger : c.pendingPresentations = acknowledgement.presentation :: rest) :
    Safe options replayFrom
      (c.complete rest (lacksCheckpoint c.rendererRequiresCheckpoint acknowledgement)
        (acknowledgement.reaches c.resumeSequence))
      (log ++ [Entry.acknowledged acknowledgement]) := by
  have shown : shownEvents (log ++ [Entry.acknowledged acknowledgement]) = shownEvents log := by
    rw [shownEvents_append]
    exact List.append_nil _
  have answered : acknowledgements (log ++ [Entry.acknowledged acknowledgement]) =
      acknowledgements log ++ [acknowledgement] := acknowledgements_append _ _
  have waits : c.checkpointIsPending =
      (acknowledgement.presentation.isCheckpoint || rest.any PendingPresentation.isCheckpoint) := by
    rw [checkpointIsPending_eq, ledger, List.any_cons]
  refine ⟨h.capacity, ?_, ?_, ?_, ?_, ?_⟩
  · have bounded := h.bounded
    rw [ledger, List.length_cons] at bounded
    exact Nat.le_of_succ_le bounded
  · rw [shown, answered, h.ledger, ledger, List.map_append, List.map_append, List.map_append, List.map_append]
    exact List.append_cons _ _ _
  · rw [shown]
    exact h.follows
  · intro none
    rw [checkpointIsPending_eq] at none
    rw [answered, List.foldl_append]
    have none : rest.any PendingPresentation.isCheckpoint = false := none
    rw [none] at waits
    show lacksCheckpoint c.rendererRequiresCheckpoint acknowledgement = lacksCheckpoint _ acknowledgement
    cases acknowledgement with
    | checkpoint => rfl
    | checkpointIncompatible => rfl
    | geometryIncompatible => rfl
    | output => exact h.required waits
    | geometry => exact h.required waits
  · have waiting : AttachmentController.checkpointIsPending
        { c with
          pendingPresentations := rest
          rendererRequiresCheckpoint := lacksCheckpoint c.rendererRequiresCheckpoint acknowledgement } =
        rest.any PendingPresentation.isCheckpoint := checkpointIsPending_eq _
    have now := checkpointIsPending_eq (c.complete rest (lacksCheckpoint c.rendererRequiresCheckpoint acknowledgement)
      (acknowledgement.reaches c.resumeSequence))
    rw [now, AttachmentController.complete, answered, List.foldl_append, waiting]
    show (if !lacksCheckpoint c.rendererRequiresCheckpoint acknowledgement &&
          !rest.any PendingPresentation.isCheckpoint then acknowledgement.reaches c.resumeSequence else none) =
      if lacksCheckpoint c.rendererRequiresCheckpoint acknowledgement || rest.any PendingPresentation.isCheckpoint then
        none else some (lastEnd _ acknowledgement)
    cases lacks : lacksCheckpoint c.rendererRequiresCheckpoint acknowledgement with
    | true => rfl
    | false =>
      cases later : rest.any PendingPresentation.isCheckpoint with
      | true => rfl
      | false =>
        -- Only now the cursor points somewhere.
        show acknowledgement.reaches c.resumeSequence = some (lastEnd _ acknowledgement)
        cases acknowledgement with
        | output => rfl
        | checkpoint => rfl
        | checkpointIncompatible => cases lacks
        | geometryIncompatible => cases lacks
        | geometry =>
          have cursor := h.cursor
          rw [waits, later, show c.rendererRequiresCheckpoint = false from lacks] at cursor
          exact cursor

lemma progress (h : Safe options replayFrom c log) (changed : Progress c log c' log') :
    Safe options replayFrom c' log' := by
  cases changed with
  | quiet silent unanswered =>
    refine ⟨h.capacity, h.bounded, ?_, ?_, ?_, ?_⟩
    · rw [shownEvents_append, silent, List.append_nil, acknowledgements_append, unanswered, List.append_nil]
      exact h.ledger
    · rw [shownEvents_append, silent, List.append_nil]
      exact h.follows
    · rw [acknowledgements_append, unanswered, List.append_nil]
      exact h.required
    · rw [acknowledgements_append, unanswered, List.append_nil]
      exact h.cursor
  | output room start stop => exact h.event room rfl (if_pos ⟨start, stop⟩) rfl
  | checkpoint room ahead => exact h.checkpoint room ahead
  | geometry room => exact h.event room rfl (if_pos rfl) rfl
  | acknowledged accepted =>
    obtain ⟨rest, ledger, -, rfl⟩ := accepted_spec accepted
    exact h.acknowledged ledger

lemma start {options : AttachmentControllerOptions} {bundleValid : Bool} {attached : AttachedSession} {d : Driver}
    (started : Driver.new options bundleValid attached = .ok d) :
    Safe options attached.replayFrom d.presentation d.log := by
  have empty : Safe options attached.replayFrom
      { receivedSequence := attached.replayFrom
        resumeSequence := if !options.rendererStartsCompatible then none else some attached.replayFrom
        eventQueueCapacity := options.eventQueueCapacity
        rendererRequiresCheckpoint := !options.rendererStartsCompatible
        pendingPresentations := [] } [] := by
    refine ⟨rfl, Nat.zero_le _, rfl, rfl, fun _ => rfl, ?_⟩
    cases options.rendererStartsCompatible with
    | true => rfl
    | false => rfl
  obtain ⟨replayFrom, gap, checkpoint, history, manifest⟩ := attached
  unfold Driver.new AttachmentController.new at started
  by_cases capacity : options.eventQueueCapacity = 0
  case pos =>
    rw [if_pos capacity] at started
    cases started
  case neg =>
    rw [if_neg capacity, if_neg capacity] at started
    split at started
    case isTrue => cases started
    case isFalse both =>
      cases checkpoint with
      | none =>
        dsimp only [Option.map_none, Option.isSome_none] at started
        split at started
        case isTrue => cases started
        case isFalse =>
          cases started
          rw [Bool.or_false]
          exact empty
      | some restored =>
        dsimp only [Option.map_some, Option.isSome_some] at started
        rw [Bool.or_true] at started
        split at started
        case h_1 => cases started
        case h_2 presentation event accepted =>
          split at accepted
          case isTrue => cases accepted
          case isFalse =>
            split at accepted
            case isTrue => cases accepted
            case isFalse same =>
              cases accepted
              obtain rfl : restored.sequence = replayFrom := not_not.1 same
              cases history with
              | none => exact absurd nofun both
              | some history =>
                dsimp only at started
                split at started
                case h_1 => cases started
                case h_2 =>
                  cases started
                  have room : ([] : List PendingPresentation).length < options.eventQueueCapacity :=
                    Nat.pos_of_ne_zero capacity
                  dsimp only [Driver.emitEvent]
                  rw [AttachmentController.enqueuePresentation_eq]
                  · exact empty.checkpoint room (le_refl _)
                  · exact room

lemma run {codec : Codec} {options : AttachmentControllerOptions} {replayFrom : Nat} {start d : Driver}
    {actions : List Driver.Action} (h : Safe options replayFrom start.presentation start.log)
    (ran : start.run codec actions = some d) :
    Safe options replayFrom d.presentation d.log ∨
      ∃ before, Safe options replayFrom before.presentation before.log ∧ Refused before d ∧
        actions.getLast?.any refusesManifest = true := by
  refine @Driver.run_induction codec start (fun actions d => Safe options replayFrom d.presentation d.log ∨
    ∃ before, Safe options replayFrom before.presentation before.log ∧ Refused before d ∧
      actions.getLast?.any refusesManifest = true) (.inl h) ?_ _ _ ran
  intro actions before action d _ ih stepped
  cases ih with
  | inr ended =>
    obtain ⟨_, _, ended, -⟩ := ended
    obtain ⟨error, failure⟩ := ended.failure
    unfold Driver.step at stepped
    rw [failure] at stepped
    cases stepped
  | inl safe =>
    cases Driver.step_progress stepped with
    | inl changed => exact .inl (safe.progress changed)
    | inr refused =>
      refine .inr ⟨before, safe, refused.2, ?_⟩
      rw [List.getLast?_concat]
      exact refused.1

lemma rendered_cursor (h : Safe options replayFrom c log) {sequence : Nat} (points : c.resumeSequence = some sequence) :
    sequence = (acknowledgements log).foldl lastEnd replayFrom ∧ sequence ≤ c.receivedSequence ∧
      ∃ shown, rendered options.rendererStartsCompatible replayFrom log = some shown ∧ shown.position = sequence := by
  have ledger := h.ledger
  rw [List.map_append] at ledger
  obtain ⟨front, back, events, answered, -⟩ := List.map_eq_append_iff.1 ledger
  have follows := h.follows
  rw [events, List.foldlM_append] at follows
  obtain ⟨position, reached, rest⟩ := Option.bind_eq_some_iff.1 follows
  have compatible : c.rendererRequiresCheckpoint = false ∧ c.checkpointIsPending = false := by
    rw [← Bool.or_eq_false_iff]
    by_contra waits
    rw [h.cursor, if_pos (Bool.not_eq_false _ ▸ waits)] at points
    cases points
  have cursor := h.cursor
  rw [compatible.1, compatible.2, points] at cursor
  have same : sequence = (acknowledgements log).foldl lastEnd replayFrom := Option.some.inj cursor
  have stands : (if options.rendererStartsCompatible then some (Shown.mk replayFrom []) else none).map Shown.position =
      if !options.rendererStartsCompatible then none else some replayFrom := by
    cases options.rendererStartsCompatible with
    | true => rfl
    | false => rfl
  rw [List.map_map] at answered
  have shows := rendered_position answered reached stands
  rw [← h.required compatible.2, compatible.1] at shows
  have zipped : (shownEvents log).zip (acknowledgements log) = front.zip (acknowledgements log) := by
    have length := congrArg List.length answered
    rw [List.length_map, List.length_map] at length
    have zip := @List.zip_append _ _ front back (acknowledgements log) [] length
    rwa [List.append_nil, List.zip_nil_right, List.append_nil, ← events] at zip
  refine ⟨same, ?_, ?_⟩
  · rw [same, shows.1]
    exact le_foldlM_follow rest
  · rw [rendered, zipped]
    obtain ⟨shown, eq, position⟩ := Option.map_eq_some_iff.1 shows.2
    exact ⟨shown, eq, by rw [position, same, shows.1]⟩

lemma cursor_none (h : Safe options replayFrom c log) : c.resumeSequence = none ↔ c.checkpointIsPending = true ∨
    (acknowledgements log).foldl lacksCheckpoint (!options.rendererStartsCompatible) = true := by
  rw [h.cursor]
  cases waits : c.checkpointIsPending with
  | true => simp
  | false =>
    rw [h.required waits]
    simp

end Safe

lemma rejected_spec (codec : Codec) {d : Driver} {acknowledgement : PresentationAck}
    (other : d.presentation.pendingPresentations.head? ≠ some acknowledgement.presentation) :
    ∃ error, d.acceptAcknowledgement codec acknowledgement = { d with failure := some (.client error) } := by
  rw [Driver.acceptAcknowledgement]
  split
  case h_1 error _ => exact ⟨error, rfl⟩
  case h_2 presentation applied accepted =>
    obtain ⟨rest, ledger, -⟩ := accepted_spec accepted
    rw [ledger] at other
    exact absurd rfl other

/-- **The reconnect cursor is where the renderer stands.** While the controller runs, the cursor is empty exactly
    when a checkpoint waits for its acknowledgement or the renderer has not applied one since it was incompatible;
    otherwise the renderer has applied all before the last acknowledged output or checkpoint, and nothing behind it.
    The cursor is empty, too, when the loop has ended at a checkpoint whose manifest does not match. -/
theorem resumeSequence_safe (codec : Codec) {options : AttachmentControllerOptions} {bundleValid : Bool}
    {attached : AttachedSession} {start d : Driver} {actions : List Driver.Action}
    (started : Driver.new options bundleValid attached = .ok start) (ran : start.run codec actions = some d) :
    ((d.presentation.resumeSequence = none ↔ d.presentation.checkpointIsPending = true ∨
        (acknowledgements d.log).foldl lacksCheckpoint (!options.rendererStartsCompatible) = true) ∨
      d.presentation.resumeSequence = none ∧ actions.getLast?.any refusesManifest = true ∧
        ∃ error, d.failure = some (.invalidHistorySnapshot error)) ∧
    (∀ sequence, d.presentation.resumeSequence = some sequence →
      sequence = (acknowledgements d.log).foldl lastEnd attached.replayFrom ∧
      sequence ≤ d.presentation.receivedSequence ∧
      ∃ shown, rendered options.rendererStartsCompatible attached.replayFrom d.log = some shown ∧
        shown.position = sequence) ∧
    d.presentation.pendingPresentations.length ≤ options.eventQueueCapacity ∧
    (shownEvents d.log).map AttachmentEvent.presentation =
      ((acknowledgements d.log).map PresentationAck.presentation ++ d.presentation.pendingPresentations).map some ∧
    ∀ acknowledgement, d.presentation.pendingPresentations.head? ≠ some acknowledgement.presentation →
      ∃ error, d.acceptAcknowledgement codec acknowledgement = { d with failure := some (.client error) } := by
  have rejected := fun acknowledgement => @rejected_spec codec d acknowledgement
  cases (Safe.start started).run ran with
  | inl safe =>
    exact ⟨.inl safe.cursor_none, fun sequence points => safe.rendered_cursor points, safe.bounded, safe.ledger, rejected⟩
  | inr ended =>
    obtain ⟨before, safe, refused, last⟩ := ended
    refine ⟨.inr ⟨refused.cursor, last, refused.failure⟩, fun sequence points => ?_, ?_, ?_, rejected⟩
    · rw [refused.cursor] at points
      cases points
    · rw [refused.ledger]
      exact safe.bounded
    · rw [refused.ledger, refused.log]
      exact safe.ledger

/-! ### A manifest that does not match -/

def emptyAttachment : AttachedSession := ⟨0, false, none, none, none⟩

def namelessManifest : TerminalHistoryManifest := ⟨"", 0, 0, 1, 1, 3, 1, 0, false, "", 10000⟩

def oneEvent : AttachmentControllerOptions := ⟨1, true⟩

def namelessCheckpoint : List Driver.Action :=
  [.message (.checkpoint true boldCheckpoint boldHistory (some namelessManifest) false)]

/-- The cursor is empty, although no checkpoint waits and the renderer is compatible. -/
theorem resumeSequence_nameless :
    ∃ start d, Driver.new oneEvent true emptyAttachment = .ok start ∧
      start.run boldCodec namelessCheckpoint = some d ∧ d.presentation.resumeSequence = none ∧
      ¬(d.presentation.checkpointIsPending = true ∨
        (acknowledgements d.log).foldl lacksCheckpoint (!oneEvent.rendererStartsCompatible) = true) := by
  exact ⟨_, _, rfl, rfl, rfl, by decide⟩

def acknowledgedByte : List Driver.Action := [.message (.output 0 1 [97]), .acknowledgement (.output 1)]

/-- Then the renderer has applied it, and the cursor is behind it. -/
theorem resumeSequence_safe_byte :
    ∃ start d, Driver.new oneEvent true emptyAttachment = .ok start ∧ start.run boldCodec acknowledgedByte = some d ∧
      d.presentation.resumeSequence = some 1 ∧ 1 ≤ d.presentation.receivedSequence ∧
      ∃ shown, rendered true 0 d.log = some shown ∧ shown.position = 1 :=
  have safe := (@resumeSequence_safe boldCodec oneEvent true emptyAttachment _ _ acknowledgedByte rfl rfl).2.1 1 rfl
  ⟨_, _, rfl, rfl, rfl, safe.2⟩

end Ctl.Client
