import Ctl.Daemon.Delivery

/-!
# The attachment controller

Model of the `AttachmentController` in `ctmux/client/src/lib.rs`, as far as it orders the presentation:
what it accepts from the daemon, the ledger of the events that the renderer has not acknowledged, and
the acknowledgements. The bundle of a checkpoint and its history is checked first, for reasons that
have nothing to do with the order; its result is a parameter. Positions of the stream are numbers
without a bound.
-/

namespace Ctl.Client
open Ctl.Base Ctl.Proto Ctl.Daemon.Delivery

/-- An event that the renderer has to acknowledge (Rust `PendingPresentation`). -/
inductive PendingPresentation where
  | output (sequenceEnd : Nat)
  | checkpoint (sequence : Nat)
  | geometry (observedSequence : Nat)

/-- What the renderer answers (Rust `PresentationAck`). -/
inductive PresentationAck where
  | output (sequenceEnd : Nat)
  | checkpoint (sequence : Nat)
  | checkpointIncompatible (sequence : Nat)
  | geometry (observedSequence : Nat)
  | geometryIncompatible (observedSequence : Nat)

/-- Rust `pending_presentation_name`. -/
def PendingPresentation.name : PendingPresentation → String
  | .output _ => "output"
  | .checkpoint _ => "checkpoint"
  | .geometry _ => "pty geometry"

/-- Rust `presentation_acknowledgement_name`. -/
def PresentationAck.name : PresentationAck → String
  | .output _ => "output acknowledgement"
  | .checkpoint _ => "checkpoint acknowledgement"
  | .checkpointIncompatible _ => "incompatible checkpoint acknowledgement"
  | .geometry _ => "pty geometry acknowledgement"
  | .geometryIncompatible _ => "incompatible pty geometry acknowledgement"

/-- Why the controller ends. -/
inductive ClientError where
  | invalidAttachmentQueueCapacity
  /-- `validate_checkpoint_bundle` refuses a checkpoint with its history. -/
  | invalidCheckpointBundle
  | invalidInitialCheckpointSequence (checkpointSequence replayFrom : Nat)
  | invalidOutputSequence (expectedSequence sequenceStart sequenceEnd dataLen : Nat)
  | staleCheckpoint (checkpointSequence previousSequence : Nat)
  | geometryAheadOfOutput (expectedSequence observedSequence : Nat)
  | unexpectedPresentationAcknowledgement (expected actual : String)
  /-- Another message than the one that is due. -/
  | unexpected
  deriving DecidableEq

/-- Rust `AttachmentControllerOptions`. -/
structure AttachmentControllerOptions where
  eventQueueCapacity : Nat
  rendererStartsCompatible : Bool

/-- The state of the presentation (Rust `AttachmentController` with its `AttachmentState`). -/
structure AttachmentController where
  receivedSequence : Nat
  resumeSequence : Option Nat
  eventQueueCapacity : Nat
  rendererRequiresCheckpoint : Bool
  pendingPresentations : List PendingPresentation

/-- The messages of the daemon that the presentation follows. -/
inductive ServerMessage where
  | attached (replayFrom : Nat) (checkpoint : Option Nat)
  | output (sequenceStart sequenceEnd : Nat) (data : List UInt8)
  | checkpoint (sequence : Nat)
  | ptyGeometryChanged (observedSequence : Nat)

def message : Frame → ServerMessage
  | .attached replayFrom checkpoint _ => .attached replayFrom (checkpoint.map (·.sequence))
  | .output chunk => .output chunk.sequenceStart chunk.sequenceEnd chunk.data
  | .checkpoint checkpoint _ => .checkpoint checkpoint.sequence

namespace AttachmentController

/-- Rust `enqueue_presentation`. -/
def enqueuePresentation (c : AttachmentController) (presentation : PendingPresentation) : AttachmentController :=
  if c.eventQueueCapacity ≤ c.pendingPresentations.length then c
  else { c with pendingPresentations := c.pendingPresentations ++ [presentation] }

/-- A controller for a completed attachment, and the event that it starts with (Rust
    `AttachmentController::new` and the start of `drive`). -/
def new (options : AttachmentControllerOptions) (bundleValid : Bool) (replayFrom : Nat) (checkpoint : Option Nat) :
    Except ClientError (AttachmentController × Option PendingPresentation) :=
  if options.eventQueueCapacity = 0 then .error .invalidAttachmentQueueCapacity
  else
    let rendererRequiresCheckpoint := !options.rendererStartsCompatible || checkpoint.isSome
    let c : AttachmentController :=
      { receivedSequence := replayFrom
        resumeSequence := if rendererRequiresCheckpoint then none else some replayFrom
        eventQueueCapacity := options.eventQueueCapacity
        rendererRequiresCheckpoint
        pendingPresentations := [] }
    match checkpoint with
    | none => .ok (c, none)
    | some sequence =>
      if !bundleValid then .error .invalidCheckpointBundle
      else if sequence ≠ replayFrom then
        .error (.invalidInitialCheckpointSequence sequence replayFrom)
      else .ok (c.enqueuePresentation (.checkpoint sequence), some (.checkpoint sequence))

/-- Rust `accept_output`. -/
def acceptOutput (c : AttachmentController) (sequenceStart sequenceEnd : Nat) (data : List UInt8) :
    Except ClientError AttachmentController :=
  if sequenceStart ≠ c.receivedSequence ∨ sequenceStart + data.length ≠ sequenceEnd then
    .error (.invalidOutputSequence c.receivedSequence sequenceStart sequenceEnd data.length)
  else .ok { c with receivedSequence := sequenceEnd }

/-- Rust `accept_checkpoint`. -/
def acceptCheckpoint (c : AttachmentController) (bundleValid : Bool) (sequence : Nat) :
    Except ClientError AttachmentController :=
  if !bundleValid then .error .invalidCheckpointBundle
  else if sequence < c.receivedSequence then .error (.staleCheckpoint sequence c.receivedSequence)
  else .ok { c with
    receivedSequence := sequence
    resumeSequence := none
    rendererRequiresCheckpoint := true }

/-- Rust `accept_geometry_change`, with the event of the change, if it is one. -/
def acceptGeometryChange (c : AttachmentController) (observedSequence : Nat) :
    Except ClientError (AttachmentController × Option PendingPresentation) :=
  if observedSequence < c.receivedSequence then .ok (c, none)
  else if observedSequence ≠ c.receivedSequence then
    .error (.geometryAheadOfOutput c.receivedSequence observedSequence)
  else
    .ok (c.enqueuePresentation (.geometry observedSequence), some (.geometry observedSequence))

/-- The controller accepts a message and emits its event (Rust `process_server_message`). -/
def processServerMessage (c : AttachmentController) (bundleValid : Bool) :
    ServerMessage → Except ClientError (AttachmentController × Option PendingPresentation)
  | .attached _ _ => .error .unexpected
  | .output sequenceStart sequenceEnd data =>
    (c.acceptOutput sequenceStart sequenceEnd data).map fun c =>
      (c.enqueuePresentation (.output sequenceEnd), some (.output sequenceEnd))
  | .checkpoint sequence =>
    (c.acceptCheckpoint bundleValid sequence).map fun c =>
      (c.enqueuePresentation (.checkpoint sequence), some (.checkpoint sequence))
  | .ptyGeometryChanged observedSequence => c.acceptGeometryChange observedSequence

def checkpointIsPending (c : AttachmentController) : Bool :=
  c.pendingPresentations.any fun
    | .checkpoint _ => true
    | _ => false

def complete (c : AttachmentController) (rest : List PendingPresentation)
    (rendererRequiresCheckpoint : Bool) (acknowledgedSequence : Option Nat) : AttachmentController :=
  let c := { c with pendingPresentations := rest, rendererRequiresCheckpoint }
  { c with
    resumeSequence :=
      if !rendererRequiresCheckpoint && !c.checkpointIsPending then acknowledgedSequence else none }

/-- The renderer has answered an event; the result is the progress to tell the daemon (Rust
    `accept_presentation_acknowledgement`). -/
def acceptPresentationAcknowledgement (c : AttachmentController) (acknowledgement : PresentationAck) :
    Except ClientError (AttachmentController × Option Nat) :=
  match c.pendingPresentations with
  | [] => .error (.unexpectedPresentationAcknowledgement "no pending presentation event"
      acknowledgement.name)
  | pending :: rest =>
    let unexpected : Except ClientError (AttachmentController × Option Nat) :=
      .error (.unexpectedPresentationAcknowledgement pending.name acknowledgement.name)
    match pending, acknowledgement with
    | .output expected, .output sequenceEnd =>
      if sequenceEnd = expected then
        .ok (c.complete rest c.rendererRequiresCheckpoint (some sequenceEnd), some sequenceEnd)
      else unexpected
    | .checkpoint expected, .checkpoint sequence =>
      if sequence = expected then .ok (c.complete rest false (some sequence), some sequence)
      else unexpected
    | .checkpoint expected, .checkpointIncompatible sequence =>
      if sequence = expected then .ok (c.complete rest true none, some sequence) else unexpected
    | .geometry expected, .geometry observedSequence =>
      if observedSequence = expected then
        .ok (c.complete rest c.rendererRequiresCheckpoint c.resumeSequence, none)
      else unexpected
    | .geometry expected, .geometryIncompatible observedSequence =>
      if observedSequence = expected then .ok (c.complete rest true none, none) else unexpected
    | _, _ => unexpected

end AttachmentController

def PendingPresentation.answer (compatible : Bool) : PendingPresentation → PresentationAck
  | .output sequenceEnd => .output sequenceEnd
  | .checkpoint sequence =>
    if compatible then .checkpoint sequence else .checkpointIncompatible sequence
  | .geometry observedSequence =>
    if compatible then .geometry observedSequence else .geometryIncompatible observedSequence

def PresentationAck.presentation : PresentationAck → PendingPresentation
  | .output sequenceEnd => .output sequenceEnd
  | .checkpoint sequence => .checkpoint sequence
  | .checkpointIncompatible sequence => .checkpoint sequence
  | .geometry observedSequence => .geometry observedSequence
  | .geometryIncompatible observedSequence => .geometry observedSequence

def PendingPresentation.progress : PendingPresentation → Option Nat
  | .output sequenceEnd => some sequenceEnd
  | .checkpoint sequence => some sequence
  | .geometry _ => none

/-! ### What the controller accepts -/

namespace AttachmentController

variable {c : AttachmentController}

lemma answer_presentation (compatible : Bool) (presentation : PendingPresentation) :
    (presentation.answer compatible).presentation = presentation := by
  cases presentation with
  | output => rfl
  | checkpoint =>
    cases compatible with
    | true => rfl
    | false => rfl
  | geometry =>
    cases compatible with
    | true => rfl
    | false => rfl

lemma acceptPresentationAcknowledgement_spec {acknowledgement : PresentationAck} {rest : List PendingPresentation}
    (pending : c.pendingPresentations = acknowledgement.presentation :: rest) :
    ∃ c', c.acceptPresentationAcknowledgement acknowledgement
        = .ok (c', acknowledgement.presentation.progress) ∧
      c'.pendingPresentations = rest ∧ c'.receivedSequence = c.receivedSequence ∧
      c'.eventQueueCapacity = c.eventQueueCapacity := by
  rw [acceptPresentationAcknowledgement, pending]
  cases acknowledgement with
  | output => exact ⟨_, if_pos rfl, rfl, rfl, rfl⟩
  | checkpoint => exact ⟨_, if_pos rfl, rfl, rfl, rfl⟩
  | checkpointIncompatible => exact ⟨_, if_pos rfl, rfl, rfl, rfl⟩
  | geometry => exact ⟨_, if_pos rfl, rfl, rfl, rfl⟩
  | geometryIncompatible => exact ⟨_, if_pos rfl, rfl, rfl, rfl⟩

lemma enqueuePresentation_eq (room : c.pendingPresentations.length < c.eventQueueCapacity)
    (presentation : PendingPresentation) : c.enqueuePresentation presentation =
      { c with pendingPresentations := c.pendingPresentations ++ [presentation] } := by
  rw [enqueuePresentation, if_neg (Nat.not_le.2 room)]

lemma new_spec (options : AttachmentControllerOptions) (bundleValid : Bool) {replayFrom : Nat}
    {checkpoint : Option Nat} (begins : ∀ sequence ∈ checkpoint, sequence = replayFrom) :
    (∃ error, new options bundleValid replayFrom checkpoint = .error error ∧
      (error = .invalidCheckpointBundle ∨ error = .invalidAttachmentQueueCapacity)) ∨
    ∃ c, new options bundleValid replayFrom checkpoint = .ok (c, checkpoint.map .checkpoint) ∧
      c.pendingPresentations = (checkpoint.map .checkpoint).toList ∧
      c.receivedSequence = replayFrom := by
  rw [new]
  split
  case isTrue => exact .inl ⟨_, rfl, .inr rfl⟩
  case isFalse capacity =>
    cases checkpoint with
    | none => exact .inr ⟨_, rfl, rfl, rfl⟩
    | some sequence =>
      dsimp only
      split
      case isTrue => exact .inl ⟨_, rfl, .inl rfl⟩
      case isFalse =>
        rw [if_neg (not_not.2 (begins sequence rfl)), enqueuePresentation_eq]
        · exact .inr ⟨_, rfl, rfl, rfl⟩
        · exact Nat.pos_of_ne_zero capacity

lemma output_spec (room : c.pendingPresentations.length < c.eventQueueCapacity) (bundleValid : Bool)
    {sequenceStart sequenceEnd : Nat} {data : List UInt8} (start : sequenceStart = c.receivedSequence)
    (stop : sequenceStart + data.length = sequenceEnd) :
    ∃ c', c.processServerMessage bundleValid (.output sequenceStart sequenceEnd data)
        = .ok (c', some (.output sequenceEnd)) ∧
      c'.pendingPresentations = c.pendingPresentations ++ [PendingPresentation.output sequenceEnd] ∧
      c'.receivedSequence = sequenceEnd := by
  rw [processServerMessage, acceptOutput, if_neg (not_or.2 ⟨not_not.2 start, not_not.2 stop⟩)]
  dsimp only [Except.map]
  rw [enqueuePresentation_eq]
  · exact ⟨_, rfl, rfl, rfl⟩
  · exact room

lemma checkpoint_spec (room : c.pendingPresentations.length < c.eventQueueCapacity)
    (bundleValid : Bool) {sequence : Nat} (ahead : c.receivedSequence ≤ sequence) :
    c.processServerMessage bundleValid (.checkpoint sequence) = .error .invalidCheckpointBundle ∨
    ∃ c', c.processServerMessage bundleValid (.checkpoint sequence)
        = .ok (c', some (.checkpoint sequence)) ∧
      c'.pendingPresentations = c.pendingPresentations ++ [PendingPresentation.checkpoint sequence] ∧
      c'.receivedSequence = sequence := by
  rw [processServerMessage, acceptCheckpoint]
  cases bundleValid with
  | false => exact .inl rfl
  | true =>
    rw [if_neg (by decide), if_neg (Nat.not_lt.2 ahead)]
    dsimp only [Except.map]
    rw [enqueuePresentation_eq]
    · exact .inr ⟨_, rfl, rfl, rfl⟩
    · exact room

end AttachmentController

end Ctl.Client
