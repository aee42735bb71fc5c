import Ctl.Client.AttachmentController
import Ctl.Client.HistorySync

/-!
# The loop of the attachment controller

Model of `AttachmentController::drive` in `ctmux/client/src/lib.rs`, of the messages that it processes and of the
history requests of its writer. The order of the presentation is that of `AttachmentController`; around it are the
transfer of a history, the channel of the events and the channel that keeps the latest history request. Leases,
views, the shell state and the metrics are left out. The events, the accepted acknowledgements and the history
requests that were sent are logged in their order.
-/

namespace Ctl.Client
open Ctl.Base Ctl.Proto Ctl.Daemon

/-- An event for the renderer (Rust `AttachmentEvent`). -/
inductive AttachmentEvent where
  | output (sequenceStart sequenceEnd : Nat) (data : List UInt8)
  | checkpoint (checkpoint : TerminalCheckpoint) (history : TerminalHistorySnapshot)
    (historyManifest : Option TerminalHistoryManifest) (historyGap : Bool)
  | ptyGeometryChanged (terminalSize : TerminalSize) (observedSequence : Nat)
  | historySynced (synced : HistorySynced)

/-- What is asked of the daemon for the history (Rust `ClientMessage`). -/
inductive HistoryMessage where
  | historyRequest (request : HistoryRequest)
  | requestCheckpoint

/-- What has happened. -/
inductive Entry where
  | event (event : AttachmentEvent)
  | acknowledged (acknowledgement : PresentationAck)
  | sent (message : HistoryMessage)

/-- Why the loop ends. -/
inductive DriverError where
  | client (error : ClientError)
  | checkpointHistoryPresenceMismatch
  | invalidHistorySnapshot (error : InvalidHistorySnapshot)

/-- A channel that keeps its latest value; `changed` until the value was read. -/
structure Watch where
  value : Option HistoryMessage
  changed : Bool

/-- A completed attachment (Rust `AttachedSession`). -/
structure AttachedSession where
  replayFrom : Nat
  historyGap : Bool
  checkpoint : Option TerminalCheckpoint
  history : Option TerminalHistorySnapshot
  historyManifest : Option TerminalHistoryManifest

/-- The controller while it runs (Rust `AttachmentController`). -/
structure Driver where
  presentation : AttachmentController
  historyTransfer : Option HistoryTransfer
  pendingHistory : Option HistorySynced
  historyStarted : Bool
  historyRequests : Watch
  /-- How many events the renderer has not taken from their channel. -/
  queued : Nat
  log : List Entry
  failure : Option DriverError

namespace Driver

/-- A message of the daemon (Rust `ServerMessage`). Whether the bundle of a checkpoint is valid comes with it. -/
inductive Message where
  | output (sequenceStart sequenceEnd : Nat) (data : List UInt8)
  | checkpoint (bundleValid : Bool) (checkpoint : TerminalCheckpoint) (history : TerminalHistorySnapshot)
    (historyManifest : Option TerminalHistoryManifest) (historyGap : Bool)
  | historyPage (snapshotId : String) (offset : Nat) (data : List UInt8) (nextOffset : Option Nat)
  | historySnapshotExpired (snapshotId : String)
  | ptyGeometryChanged (terminalSize : TerminalSize) (observedSequence : Nat)

/-- What can happen next. -/
inductive Action where
  | message (message : Message)
  | acknowledgement (acknowledgement : PresentationAck)
  /-- A finished history is put into the channel of the events. -/
  | emitHistory
  /-- The renderer takes an event. -/
  | takeEvent
  /-- The writer reads the latest history request. -/
  | writeHistoryRequest

variable (d : Driver)

def fails (error : DriverError) : Driver := { d with failure := some error }

/-- Rust `emit_event`, where the channel has room. -/
def emitEvent (event : AttachmentEvent) : Driver :=
  { d with queued := d.queued + 1, log := d.log ++ [Entry.event event] }

/-- Rust `queue_history_request`. -/
def queueHistoryRequest (message : Option HistoryMessage) : Driver :=
  { d with historyRequests := ⟨message, true⟩ }

/-- Rust `enqueue_presentation`. -/
def enqueuePresentation (presentation : PendingPresentation) : Driver :=
  { d with presentation := d.presentation.enqueuePresentation presentation }

def beginTransfer (manifest : Option TerminalHistoryManifest) (checkpoint : TerminalCheckpoint)
    (history : TerminalHistorySnapshot) (historyGap : Bool) : Except InvalidHistorySnapshot (Option HistoryTransfer) :=
  match manifest with
  | none => .ok none
  | some manifest => (HistoryTransfer.new manifest checkpoint history historyGap).map some

/-- Rust `process_output`. -/
def processOutput (sequenceStart sequenceEnd : Nat) (data : List UInt8) : Driver :=
  match d.presentation.acceptOutput sequenceStart sequenceEnd data with
  | .error error => d.fails (.client error)
  | .ok presentation =>
    let d := { d with presentation }
    (d.enqueuePresentation (.output sequenceEnd)).emitEvent (.output sequenceStart sequenceEnd data)

/-- Rust `process_checkpoint`. -/
def processCheckpoint (bundleValid : Bool) (checkpoint : TerminalCheckpoint) (history : TerminalHistorySnapshot)
    (historyManifest : Option TerminalHistoryManifest) (historyGap : Bool) : Driver :=
  match d.presentation.acceptCheckpoint bundleValid checkpoint.sequence with
  | .error error => d.fails (.client error)
  | .ok presentation =>
    let d := { d with presentation }
    match beginTransfer historyManifest checkpoint history historyGap with
    | .error error => d.fails (.invalidHistorySnapshot error)
    | .ok historyTransfer =>
      let d := { d with historyTransfer, historyStarted := false, pendingHistory := none }
      let d := (d.queueHistoryRequest none).enqueuePresentation (.checkpoint checkpoint.sequence)
      d.emitEvent (.checkpoint checkpoint history historyManifest historyGap)

/-- Rust `accept_geometry_change`. -/
def acceptGeometryChange (terminalSize : TerminalSize) (observedSequence : Nat) : Driver :=
  if observedSequence < d.presentation.receivedSequence then d
  else
    let d := { d with historyTransfer := none, historyStarted := false, pendingHistory := none }
    let d := d.queueHistoryRequest none
    if observedSequence ≠ d.presentation.receivedSequence then
      d.fails (.client (.geometryAheadOfOutput d.presentation.receivedSequence observedSequence))
    else
      (d.enqueuePresentation (.geometry observedSequence)).emitEvent
        (.ptyGeometryChanged terminalSize observedSequence)

/-- Rust `expire_history_transfer`. -/
def expireHistoryTransfer (snapshotId : String) : Driver :=
  if d.historyTransfer.any (·.manifest.snapshotId = snapshotId) then
    let d := { d with historyTransfer := none, historyStarted := false, pendingHistory := none }
    d.queueHistoryRequest (some .requestCheckpoint)
  else d

section

variable (codec : Codec)

variable (d : Driver)

/-- Rust `advance_history_transfer`. -/
def advanceHistoryTransfer : Driver :=
  match d.historyTransfer with
  | none => d.queueHistoryRequest none
  | some transfer =>
    if transfer.isComplete then
      let d := { d with historyTransfer := none }.queueHistoryRequest none
      match transfer.finish codec with
      | .error error => d.fails (.invalidHistorySnapshot error)
      | .ok synced => { d with pendingHistory := some synced }
    else d.queueHistoryRequest (some (.historyRequest transfer.request))

/-- Rust `process_history_page`. -/
def processHistoryPage (snapshotId : String) (offset : Nat) (data : List UInt8) (nextOffset : Option Nat) : Driver :=
  match d.historyTransfer.filter (·.manifest.snapshotId = snapshotId) with
  | none => d
  | some transfer =>
    match transfer.acceptPage offset data nextOffset with
    | .error error => d.fails (.invalidHistorySnapshot error)
    | .ok transfer => { d with historyTransfer := some transfer }.advanceHistoryTransfer codec

/-- Rust `process_server_message`. -/
def processServerMessage : Message → Driver
  | .output sequenceStart sequenceEnd data => d.processOutput sequenceStart sequenceEnd data
  | .checkpoint bundleValid checkpoint history historyManifest historyGap =>
    d.processCheckpoint bundleValid checkpoint history historyManifest historyGap
  | .historyPage snapshotId offset data nextOffset => d.processHistoryPage codec snapshotId offset data nextOffset
  | .historySnapshotExpired snapshotId => d.expireHistoryTransfer snapshotId
  | .ptyGeometryChanged terminalSize observedSequence => d.acceptGeometryChange terminalSize observedSequence

/-- The renderer has answered (the first branch of `drive`). -/
def acceptAcknowledgement (acknowledgement : PresentationAck) : Driver :=
  match d.presentation.acceptPresentationAcknowledgement acknowledgement with
  | .error error => d.fails (.client error)
  | .ok (presentation, applied) =>
    let d := { d with presentation, log := d.log ++ [Entry.acknowledged acknowledgement] }
    match applied with
    | none => d
    | some appliedSequence =>
      if !d.historyStarted && d.historyTransfer.any (·.checkpoint.sequence ≤ appliedSequence) then
        { d with historyStarted := true }.advanceHistoryTransfer codec
      else d

/-- A controller for a completed attachment, with its first event (Rust `AttachmentController::new` and the start
    of `drive`). -/
def new (options : AttachmentControllerOptions) (bundleValid : Bool) (attached : AttachedSession) :
    Except DriverError Driver :=
  if options.eventQueueCapacity = 0 then .error (.client .invalidAttachmentQueueCapacity)
  else if attached.checkpoint.isSome ≠ attached.history.isSome then .error .checkpointHistoryPresenceMismatch
  else
    match AttachmentController.new options bundleValid attached.replayFrom (attached.checkpoint.map (·.sequence)) with
    | .error error => .error (.client error)
    | .ok (presentation, _) =>
      let d : Driver := ⟨presentation, none, none, false, ⟨none, false⟩, 0, [], none⟩
      match attached.checkpoint, attached.history with
      | some checkpoint, some history =>
        match beginTransfer attached.historyManifest checkpoint history attached.historyGap with
        | .error error => .error (.invalidHistorySnapshot error)
        | .ok historyTransfer =>
          .ok ({ d with historyTransfer }.emitEvent
            (.checkpoint checkpoint history attached.historyManifest attached.historyGap))
      | _, _ =>
        if attached.historyManifest.isSome then .error .checkpointHistoryPresenceMismatch else .ok d

/-- One step of the loop, of its renderer or of its writer. A message is taken when both the ledger and the
    channel have room and no history waits. -/
def step (action : Action) : Option Driver :=
  if d.failure.isSome then none
  else match action with
    | .message message =>
      if d.presentation.pendingPresentations.length < d.presentation.eventQueueCapacity ∧
          d.queued < d.presentation.eventQueueCapacity ∧ d.pendingHistory.isNone then
        some (d.processServerMessage codec message)
      else none
    | .acknowledgement acknowledgement => some (d.acceptAcknowledgement codec acknowledgement)
    | .emitHistory =>
      match d.pendingHistory with
      | none => none
      | some synced =>
        if d.queued < d.presentation.eventQueueCapacity then
          some ({ d with pendingHistory := none }.emitEvent (.historySynced synced))
        else none
    | .takeEvent => if d.queued = 0 then none else some { d with queued := d.queued - 1 }
    | .writeHistoryRequest =>
      if d.historyRequests.changed then
        some { d with
          historyRequests := ⟨d.historyRequests.value, false⟩
          log := d.log ++ d.historyRequests.value.toList.map .sent }
      else none

/-- Rust `drive`, for some steps. -/
def run (actions : List Action) : Option Driver := actions.foldlM (step codec) d

end

lemma run_induction {codec : Codec} {start : Driver} {holds : List Action → Driver → Prop} (first : holds [] start)
    (next : ∀ actions d action d', start.run codec actions = some d → holds actions d →
      d.step codec action = some d' → holds (actions ++ [action]) d') {actions : List Action} {d : Driver}
    (ran : start.run codec actions = some d) : holds actions d := by
  induction actions using List.reverseRecOn generalizing d with
  | nil =>
    cases ran
    exact first
  | append_singleton actions action ih =>
    rw [run, List.foldlM_append] at ran
    obtain ⟨before, ran, last⟩ := Option.bind_eq_some_iff.1 ran
    rw [List.foldlM_cons] at last
    obtain ⟨_, stepped, same⟩ := Option.bind_eq_some_iff.1 last
    cases same
    exact next actions before action d ran (ih ran) stepped

/-! ### The log -/

end Driver

def AttachmentEvent.presentation : AttachmentEvent → Option PendingPresentation
  | .output _ sequenceEnd _ => some (.output sequenceEnd)
  | .checkpoint restored _ _ _ => some (.checkpoint restored.sequence)
  | .ptyGeometryChanged _ observedSequence => some (.geometry observedSequence)
  | .historySynced _ => none

def Entry.presented : Entry → Option AttachmentEvent
  | .event shown => if shown.presentation.isSome then some shown else none
  | _ => none

def Entry.acknowledgement : Entry → Option PresentationAck
  | .acknowledged acknowledgement => some acknowledgement
  | _ => none

def shownEvents (log : List Entry) : List AttachmentEvent := log.filterMap Entry.presented

def acknowledgements (log : List Entry) : List PresentationAck := log.filterMap Entry.acknowledgement

section

variable (log : List Entry)

@[simp] lemma shownEvents_append (rest : List Entry) :
    shownEvents (log ++ rest) = shownEvents log ++ shownEvents rest := List.filterMap_append

@[simp] lemma acknowledgements_append (rest : List Entry) :
    acknowledgements (log ++ rest) = acknowledgements log ++ acknowledgements rest := List.filterMap_append

end

lemma shownEvents_sent (messages : List HistoryMessage) : shownEvents (messages.map .sent) = [] := by
  rw [shownEvents, List.filterMap_map]
  exact List.filterMap_eq_nil_iff.2 fun _ _ => rfl

lemma acknowledgements_sent (messages : List HistoryMessage) : acknowledgements (messages.map .sent) = [] := by
  rw [acknowledgements, List.filterMap_map]
  exact List.filterMap_eq_nil_iff.2 fun _ _ => rfl

end Ctl.Client
