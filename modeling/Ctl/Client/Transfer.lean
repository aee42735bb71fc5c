import Ctl.Base.Guards
import Ctl.Client.Cursor

/-!
# The transfer of a history inside the controller

A history is published behind the checkpoint that its manifest came with, before anything but output
(`Delivered`). `Orderly` is the invariant: what is transferred or waits belongs to the latest checkpoint
(`Since`), and once a transfer has started, the latest request is the one for its next page.
-/

namespace Ctl.Client
open Ctl.Base Ctl.Proto Ctl.Daemon

/-! ### The order of the log -/

def AttachmentEvent.isOutput : AttachmentEvent → Bool
  | .output _ _ _ => true
  | _ => false

/-- Nothing but output was presented. -/
def Quiet (entries : List Entry) : Prop := ∀ event, Entry.event event ∈ entries → event.isOutput = true

def HistoryTransfer.event (transfer : HistoryTransfer) : AttachmentEvent :=
  .checkpoint transfer.checkpoint transfer.history (some transfer.manifest) transfer.historyGap

/-- What has happened since the checkpoint of a transfer, behind which nothing but output was presented. -/
def Since (log : List Entry) (transfer : HistoryTransfer) (later : List Entry) : Prop :=
  Quiet later ∧ ∃ front, log = front ++ Entry.event transfer.event :: later

/-- The renderer has acknowledged an output or a checkpoint that reaches the checkpoint of a transfer. -/
def Answered (transfer : HistoryTransfer) (later : List Entry) : Prop :=
  ∃ acknowledgement ∈ acknowledgements later, ∃ sequence,
    acknowledgement.presentation.progress = some sequence ∧ transfer.checkpoint.sequence ≤ sequence

def Delivered (codec : Codec) (asked : Prop) (log : List Entry) (synced : HistorySynced) : Prop :=
  ∃ transfer later, Since log transfer later ∧ transfer.finish codec = .ok synced ∧ (asked → Answered transfer later)

variable {more : List Entry} {transfer : HistoryTransfer} {log later : List Entry} {codec : Codec}
  {synced : HistorySynced}

lemma Quiet.append {entries : List Entry} (h : Quiet entries) (also : Quiet more) : Quiet (entries ++ more) := by
  intro event mem
  exact (List.mem_append.1 mem).elim (h event) (also event)

lemma Quiet.acknowledged (acknowledgement : PresentationAck) : Quiet [.acknowledged acknowledgement] := by
  intro event mem
  cases List.mem_singleton.1 mem

lemma Quiet.sent (message : HistoryMessage) : Quiet [.sent message] := by
  intro event mem
  cases List.mem_singleton.1 mem

lemma Quiet.output (sequenceStart sequenceEnd : Nat) (data : List UInt8) :
    Quiet [.event (.output sequenceStart sequenceEnd data)] := by
  intro event mem
  cases List.mem_singleton.1 mem
  rfl

lemma Since.append (h : Since log transfer later) (quiet : Quiet more) :
    Since (log ++ more) transfer (later ++ more) := by
  obtain ⟨before, front, rfl⟩ := h
  exact ⟨before.append quiet, front, by rw [List.append_assoc, List.cons_append]⟩

lemma Answered.append (h : Answered transfer later) (more : List Entry) : Answered transfer (later ++ more) := by
  obtain ⟨acknowledgement, mem, reaches⟩ := h
  refine ⟨acknowledgement, ?_, reaches⟩
  rw [acknowledgements_append]
  exact List.mem_append_left _ mem

lemma Delivered.append {asked : Prop} (h : Delivered codec asked log synced) (quiet : Quiet more) :
    Delivered codec asked (log ++ more) synced := by
  obtain ⟨transfer, later, since, finished, answered⟩ := h
  exact ⟨transfer, later ++ more, since.append quiet, finished, fun asks => (answered asks).append more⟩

/-! ### The invariant -/

/-- What is transferred or waits belongs to the latest checkpoint, as did what was published. -/
structure Orderly (codec : Codec) (asked : Prop) (d : Driver) : Prop where
  transfer : ∀ transfer, d.historyTransfer = some transfer → ∃ later, Since d.log transfer later ∧
    (d.historyStarted = true → transfer.isComplete = false ∧
      d.historyRequests.value = some (.historyRequest transfer.request) ∧
      (d.historyRequests.changed = true ∨ .sent (.historyRequest transfer.request) ∈ later) ∧
      (asked → Answered transfer later))
  pending : ∀ synced, d.pendingHistory = some synced → d.historyTransfer = none ∧ Delivered codec asked d.log synced
  synced : ∀ before synced, before ++ [Entry.event (.historySynced synced)] <+: d.log → Delivered codec asked before synced

def Asked (d : Driver) : Driver.Action → Prop
  | .message (.historyPage snapshotId _ _ _) => ∀ transfer, d.historyTransfer = some transfer →
    transfer.manifest.snapshotId = snapshotId → d.historyStarted = true
  | _ => True

/-- Every page of a current transfer comes after the transfer was started. -/
def AskedAlong (codec : Codec) (start : Driver) (actions : List Driver.Action) : Prop :=
  ∀ front action, front ++ [action] <+: actions → ∀ d, start.run codec front = some d → Asked d action

lemma beginTransfer_spec {manifest : Option TerminalHistoryManifest} {checkpoint : TerminalCheckpoint}
    {history : TerminalHistorySnapshot} {gap : Bool}
    (begun : Driver.beginTransfer manifest checkpoint history gap = .ok (some transfer)) :
    transfer.event = .checkpoint checkpoint history manifest gap := by
  cases manifest with
  | none => cases begun
  | some manifest =>
    rw [Driver.beginTransfer, HistoryTransfer.new] at begun
    split at begun
    case isTrue => cases begun
    case isFalse =>
      cases begun
      rfl

lemma acceptPage_same {longer : HistoryTransfer} {offset : Nat} {data : List UInt8} {nextOffset : Option Nat}
    (accepted : transfer.acceptPage offset data nextOffset = .ok longer) :
    ∃ bytes, longer = { transfer with bytes } := by
  have kept : ∀ {p : Prop} [Decidable p] {error : InvalidHistorySnapshot} {result : HistoryTransfer},
      (if p then Except.error error else .ok result) = .ok longer → result = longer := by
    intro p _ error result taken
    split at taken
    case isTrue => cases taken
    case isFalse => exact Except.ok.inj taken
  exact ⟨_, (kept accepted).symm⟩

namespace Orderly

variable {codec : Codec} {asked : Prop} {d d' : Driver}

lemma mono {weaker : Prop} (h : Orderly codec asked d) (implies : weaker → asked) : Orderly codec weaker d := by
  have delivered : ∀ {log synced}, Delivered codec asked log synced → Delivered codec weaker log synced := by
    intro log synced
    rintro ⟨transfer, later, since, finished, answered⟩
    exact ⟨transfer, later, since, finished, fun asks => answered (implies asks)⟩
  refine ⟨fun transfer current => ?_, fun synced waits => ?_, fun before synced front => delivered (h.synced _ _ front)⟩
  · obtain ⟨later, since, started⟩ := h.transfer transfer current
    refine ⟨later, since, fun begun => ?_⟩
    obtain ⟨incomplete, value, sent, answered⟩ := started begun
    exact ⟨incomplete, value, sent, fun asks => answered (implies asks)⟩
  · obtain ⟨idle, waits⟩ := h.pending synced waits
    exact ⟨idle, delivered waits⟩

lemma synced_append {log : List Entry} {entry : Entry}
    (h : ∀ before synced, before ++ [Entry.event (.historySynced synced)] <+: log → Delivered codec asked before synced)
    (other : ∀ synced, entry ≠ .event (.historySynced synced)) :
    ∀ before synced, before ++ [Entry.event (.historySynced synced)] <+: log ++ [entry] →
      Delivered codec asked before synced := by
  intro before synced front
  cases List.prefix_concat_iff.1 front with
  | inl whole =>
    have same := List.append_inj_right' whole rfl
    exact absurd (List.cons.inj same).1.symm (other synced)
  | inr front => exact h before synced front

lemma quiet {entry : Entry} (h : Orderly codec asked d) (quiet : Quiet [entry]) (presentation : AttachmentController)
    (queued : Nat) : Orderly codec asked { d with presentation, queued, log := d.log ++ [entry] } := by
  refine ⟨fun transfer current => ?_, fun synced waits => ?_, synced_append h.synced ?_⟩
  · obtain ⟨later, since, started⟩ := h.transfer transfer current
    refine ⟨later ++ [entry], since.append quiet, fun begun => ?_⟩
    obtain ⟨incomplete, value, sent, answered⟩ := started begun
    exact ⟨incomplete, value, sent.imp id (List.mem_append_left _), fun asks => (answered asks).append _⟩
  · obtain ⟨idle, waits⟩ := h.pending synced waits
    exact ⟨idle, waits.append quiet⟩
  · rintro synced rfl
    cases quiet _ List.mem_cons_self

lemma fails (h : Orderly codec asked d) (error : DriverError) : Orderly codec asked (d.fails error) :=
  ⟨h.transfer, h.pending, h.synced⟩

lemma presentation (h : Orderly codec asked d) (presentation : AttachmentController) :
    Orderly codec asked { d with presentation } := ⟨h.transfer, h.pending, h.synced⟩

lemma reset (h : Orderly codec asked d) (message : Option HistoryMessage) :
    Orderly codec asked (Driver.queueHistoryRequest
      { d with historyTransfer := none, historyStarted := false, pendingHistory := none } message) := by
  refine ⟨fun _ current => ?_, fun _ waits => ?_, h.synced⟩
  · cases current
  · cases waits

lemma event {event : AttachmentEvent} (h : Orderly codec asked d) (idle : d.historyTransfer = none)
    (nothing : d.pendingHistory = none) (other : ∀ synced, event ≠ .historySynced synced) :
    Orderly codec asked (d.emitEvent event) := by
  refine ⟨fun transfer current => ?_, fun synced waits => ?_, synced_append h.synced ?_⟩
  · cases idle.symm.trans current
  · cases nothing.symm.trans waits
  · rintro synced same
    exact other synced (Entry.event.inj same)

lemma advance {transfer : HistoryTransfer} {later : List Entry} (current : d.historyTransfer = some transfer)
    (nothing : d.pendingHistory = none) (since : Since d.log transfer later) (answered : asked → Answered transfer later)
    (synced : ∀ before synced, before ++ [Entry.event (.historySynced synced)] <+: d.log →
      Delivered codec asked before synced) : Orderly codec asked (d.advanceHistoryTransfer codec) := by
  rw [Driver.advanceHistoryTransfer, current]
  dsimp only
  split
  case isTrue =>
    dsimp only [Driver.queueHistoryRequest]
    split
    case h_1 =>
      refine ⟨fun _ current => ?_, fun _ waits => ?_, synced⟩
      · cases current
      · cases nothing.symm.trans waits
    case h_2 finished =>
      refine ⟨fun _ current => ?_, fun _ waits => ?_, synced⟩
      · cases current
      · cases waits
        exact ⟨rfl, transfer, later, since, finished, answered⟩
  case isFalse incomplete =>
    refine ⟨fun _ same => ?_, fun _ waits => ?_, synced⟩
    · cases current.symm.trans same
      exact ⟨later, since, fun _ => ⟨Bool.eq_false_iff.2 incomplete, rfl, .inl rfl, answered⟩⟩
    · cases nothing.symm.trans waits

lemma begins {manifest : Option TerminalHistoryManifest} {checkpoint : TerminalCheckpoint}
    {history : TerminalHistorySnapshot} {gap : Bool} {transfer : Option HistoryTransfer}
    (begun : Driver.beginTransfer manifest checkpoint history gap = .ok transfer) (nothing : d.pendingHistory = none)
    (synced : ∀ before synced, before ++ [Entry.event (.historySynced synced)] <+: d.log →
      Delivered codec asked before synced) :
    Orderly codec asked
      ({ d with historyTransfer := transfer, historyStarted := false }.emitEvent
        (.checkpoint checkpoint history manifest gap)) := by
  refine ⟨fun _ current => ?_, fun _ waits => ?_, synced_append synced fun synced same => ?_⟩
  · obtain rfl : transfer = _ := current
    refine ⟨[], ⟨fun _ mem => absurd mem List.not_mem_nil, d.log, ?_⟩, fun started => ?_⟩
    · rw [beginTransfer_spec begun]
      rfl
    · cases started
  · cases nothing.symm.trans waits
  · cases Entry.event.inj same

/-! ### One step -/

lemma processOutput (h : Orderly codec asked d) (sequenceStart sequenceEnd : Nat) (data : List UInt8) :
    Orderly codec asked (d.processOutput sequenceStart sequenceEnd data) := by
  rw [Driver.processOutput]
  split
  case h_1 error _ => exact h.fails (.client error)
  case h_2 presentation _ => exact h.quiet (.output sequenceStart sequenceEnd data) _ _

lemma processCheckpoint (h : Orderly codec asked d) (bundleValid : Bool) (checkpoint : TerminalCheckpoint)
    (history : TerminalHistorySnapshot) (manifest : Option TerminalHistoryManifest) (gap : Bool) :
    Orderly codec asked (d.processCheckpoint bundleValid checkpoint history manifest gap) := by
  rw [Driver.processCheckpoint]
  split
  case h_1 error _ => exact h.fails (.client error)
  case h_2 presentation _ =>
    dsimp only
    split
    case h_1 error _ => exact (h.presentation presentation).fails (.invalidHistorySnapshot error)
    case h_2 transfer begun =>
      exact @begins codec asked { d with
        presentation := presentation.enqueuePresentation (.checkpoint checkpoint.sequence)
        pendingHistory := none
        historyRequests := ⟨none, true⟩ } _ _ _ _ _ begun rfl h.synced

lemma acceptGeometryChange (h : Orderly codec asked d) (terminalSize : TerminalSize) (observedSequence : Nat) :
    Orderly codec asked (d.acceptGeometryChange terminalSize observedSequence) := by
  have cleared := h.reset none
  rw [Driver.acceptGeometryChange]
  split
  case isTrue => exact h
  case isFalse =>
    dsimp only
    split
    case isTrue => exact cleared.fails _
    case isFalse => exact (cleared.presentation _).event rfl rfl fun _ => by rintro ⟨⟩

lemma expireHistoryTransfer (h : Orderly codec asked d) (snapshotId : String) :
    Orderly codec asked (d.expireHistoryTransfer snapshotId) := by
  rw [Driver.expireHistoryTransfer]
  split
  case isTrue => exact h.reset _
  case isFalse => exact h

lemma processHistoryPage (h : Orderly codec asked d) (nothing : d.pendingHistory = none) {snapshotId : String}
    {offset : Nat} {data : List UInt8} {nextOffset : Option Nat}
    (requested : asked → Asked d (.message (.historyPage snapshotId offset data nextOffset))) :
    Orderly codec asked (d.processHistoryPage codec snapshotId offset data nextOffset) := by
  rw [Driver.processHistoryPage]
  split
  case h_1 => exact h
  case h_2 transfer found =>
    obtain ⟨current, same⟩ := Option.filter_eq_some_iff.1 found
    obtain ⟨later, since, started⟩ := h.transfer transfer current
    split
    case h_1 error _ => exact h.fails _
    case h_2 longer accepted =>
      obtain ⟨bytes, rfl⟩ := acceptPage_same accepted
      refine advance rfl nothing (show Since d.log { transfer with bytes } later from since) (fun asks => ?_) h.synced
      exact (started (requested asks transfer current (of_decide_eq_true same))).2.2.2 asks

lemma acceptAcknowledgement (h : Orderly codec asked d) (acknowledgement : PresentationAck) :
    Orderly codec asked (d.acceptAcknowledgement codec acknowledgement) := by
  rw [Driver.acceptAcknowledgement]
  split
  case h_1 error _ => exact h.fails _
  case h_2 presentation applied accepted =>
    have quiet := h.quiet (.acknowledged acknowledgement) presentation d.queued
    dsimp only
    split
    case h_1 => exact quiet
    case h_2 sequence =>
      split
      case isFalse => exact quiet
      case isTrue starts =>
        obtain ⟨-, reached⟩ := Bool.and_eq_true_iff.1 starts
        obtain ⟨transfer, current, reaches⟩ := (Option.any_eq_true _ _).1 reached
        obtain ⟨later, since, -⟩ := h.transfer transfer current
        have nothing : d.pendingHistory = none := by
          cases waits : d.pendingHistory with
          | none => rfl
          | some synced => cases (h.pending synced waits).1.symm.trans current
        refine advance current nothing (since.append (.acknowledged acknowledgement)) (fun _ => ?_) quiet.synced
        refine ⟨acknowledgement, ?_, sequence, ?_, of_decide_eq_true reaches⟩
        · rw [acknowledgements_append]
          exact List.mem_append_right _ List.mem_cons_self
        · obtain ⟨_, -, progress, -⟩ := accepted_spec accepted
          exact progress.symm

lemma emitHistory (h : Orderly codec asked d) {synced : HistorySynced} (waits : d.pendingHistory = some synced) :
    Orderly codec asked ({ d with pendingHistory := none }.emitEvent (.historySynced synced)) := by
  obtain ⟨idle, delivered⟩ := h.pending synced waits
  refine ⟨fun _ current => ?_, fun _ again => ?_, fun before again front => ?_⟩
  · cases idle.symm.trans current
  · cases again
  · cases List.prefix_concat_iff.1 front with
    | inl whole =>
      obtain ⟨rfl, same⟩ := List.append_inj' whole rfl
      cases same
      exact delivered
    | inr front => exact h.synced before again front

lemma writeHistoryRequest (h : Orderly codec asked d) :
    Orderly codec asked { d with
      historyRequests := ⟨d.historyRequests.value, false⟩
      log := d.log ++ d.historyRequests.value.toList.map .sent } := by
  cases latest : d.historyRequests.value with
  | none =>
    rw [Option.toList_none, List.map_nil, List.append_nil]
    refine ⟨fun transfer current => ?_, h.pending, h.synced⟩
    obtain ⟨later, since, started⟩ := h.transfer transfer current
    refine ⟨later, since, fun begun => ?_⟩
    cases latest.symm.trans (started begun).2.1
  | some message =>
    have quiet := h.quiet (.sent message) d.presentation d.queued
    show Orderly codec asked { d with historyRequests := ⟨some message, false⟩, log := d.log ++ [Entry.sent message] }
    refine ⟨fun transfer current => ?_, quiet.pending, quiet.synced⟩
    obtain ⟨later, since, started⟩ := h.transfer transfer current
    refine ⟨later ++ [Entry.sent message], since.append (.sent message), fun begun => ?_⟩
    obtain ⟨incomplete, value, -, answered⟩ := started begun
    cases latest.symm.trans value
    exact ⟨incomplete, rfl, .inr (List.mem_append_right _ List.mem_cons_self), fun asks => (answered asks).append _⟩

lemma step (h : Orderly codec asked d) {action : Driver.Action} (requested : asked → Asked d action)
    (stepped : d.step codec action = some d') : Orderly codec asked d' := by
  unfold Driver.step at stepped
  split at stepped
  case isTrue => cases stepped
  case isFalse =>
    cases action with
    | message message =>
      dsimp only at stepped
      split at stepped
      case isFalse => cases stepped
      case isTrue free =>
        cases stepped
        have nothing : d.pendingHistory = none := Option.isNone_iff_eq_none.1 free.2.2
        cases message with
        | output => exact h.processOutput _ _ _
        | checkpoint => exact h.processCheckpoint _ _ _ _ _
        | historyPage => exact h.processHistoryPage nothing requested
        | historySnapshotExpired => exact h.expireHistoryTransfer _
        | ptyGeometryChanged => exact h.acceptGeometryChange _ _
    | acknowledgement acknowledgement =>
      cases stepped
      exact h.acceptAcknowledgement acknowledgement
    | emitHistory =>
      dsimp only at stepped
      cases waits : d.pendingHistory with
      | none =>
        rw [waits] at stepped
        cases stepped
      | some synced =>
        rw [waits] at stepped
        dsimp only at stepped
        split at stepped
        case isFalse => cases stepped
        case isTrue =>
          cases stepped
          exact h.emitHistory waits
    | takeEvent =>
      dsimp only at stepped
      split at stepped
      case isTrue => cases stepped
      case isFalse =>
        cases stepped
        exact ⟨h.transfer, h.pending, h.synced⟩
    | writeHistoryRequest =>
      dsimp only at stepped
      split at stepped
      case isFalse => cases stepped
      case isTrue =>
        cases stepped
        exact h.writeHistoryRequest

lemma start {options : AttachmentControllerOptions} {bundleValid : Bool} {attached : AttachedSession}
    (started : Driver.new options bundleValid attached = .ok d) : Orderly codec asked d := by
  have nothing : ∀ before synced, before ++ [Entry.event (.historySynced synced)] <+: [] →
      Delivered codec asked before synced := by
    intro before synced front
    exact absurd (List.prefix_nil.1 front) (List.append_ne_nil_of_right_ne_nil _ (List.cons_ne_nil _ _))
  unfold Driver.new at started
  split at started
  case isTrue => cases started
  case isFalse =>
    split at started
    case isTrue => cases started
    case isFalse =>
      split at started
      case h_1 => cases started
      case h_2 presentation _ _ =>
        dsimp only at started
        split at started
        case h_1 =>
          split at started
          case h_1 => cases started
          case h_2 begun =>
            cases started
            exact @begins codec asked ⟨presentation, none, none, false, ⟨none, false⟩, 0, [], none⟩ _ _ _ _ _ begun rfl
              nothing
        case h_2 =>
          split at started
          case isTrue => cases started
          case isFalse =>
            cases started
            refine ⟨fun _ current => ?_, fun _ waits => ?_, nothing⟩
            · cases current
            · cases waits

lemma run {start : Driver} {actions : List Driver.Action} (h : Orderly codec True start)
    (ran : start.run codec actions = some d) : Orderly codec (AskedAlong codec start actions) d := by
  refine @Driver.run_induction codec start (fun actions d => Orderly codec (AskedAlong codec start actions) d)
    (h.mono fun _ => trivial) ?_ _ _ ran
  intro actions before action d ran ih stepped
  have along : AskedAlong codec start (actions ++ [action]) → AskedAlong codec start actions :=
    fun all front action first => all front action (first.trans (List.prefix_append _ _))
  exact (ih.mono along).step (fun all => all actions action List.prefix_rfl before ran) stepped

end Orderly

lemma finish_checked (finished : transfer.finish codec = .ok synced) :
    synced.snapshotId = transfer.manifest.snapshotId ∧ synced.checkpoint = transfer.checkpoint ∧
      transfer.bytes.length = transfer.manifest.totalBytes ∧
      codec.sha256 transfer.bytes = transfer.manifest.contentHash ∧
      HistoryTransfer.decodeRecords codec (splitInclusive 10 transfer.bytes) = .ok synced.rows ∧
      synced.rows.length = transfer.manifest.totalRows := by
  rw [HistoryTransfer.finish] at finished
  split at finished
  case isTrue => cases finished
  case isFalse checked =>
    obtain ⟨complete, hash⟩ := not_or.1 checked
    obtain ⟨rows, decoded, counted⟩ := bind_eq_ok.1 finished
    split at counted
    case isTrue => cases counted
    case isFalse count =>
      dsimp only at counted
      split at counted
      case isTrue => cases counted
      case isFalse =>
        cases counted
        exact ⟨rfl, rfl, of_decide_eq_true (not_not.1 complete), not_not.1 hash, decoded, not_not.1 count⟩

/-- **Histories are published in order.** A history is published behind the checkpoint of its manifest with nothing
    but output between them, so once for each checkpoint and before any newer checkpoint or geometry. Its rows are
    those of the manifest. When pages come only after the transfer was started, the renderer has acknowledged since
    then an output or a checkpoint that reaches the manifest's. Pages and expirations of other snapshots change
    nothing, and the request for the next page of a started transfer is the latest one. -/
theorem historySynced_ordered (codec : Codec) {options : AttachmentControllerOptions} {bundleValid : Bool}
    {attached : AttachedSession} {start d : Driver} {actions : List Driver.Action}
    (started : Driver.new options bundleValid attached = .ok start) (ran : start.run codec actions = some d) :
    (∀ before synced, before ++ [Entry.event (.historySynced synced)] <+: d.log →
      ∃ transfer later, Since before transfer later ∧ synced.snapshotId = transfer.manifest.snapshotId ∧
        synced.checkpoint = transfer.checkpoint ∧ transfer.bytes.length = transfer.manifest.totalBytes ∧
        codec.sha256 transfer.bytes = transfer.manifest.contentHash ∧
        HistoryTransfer.decodeRecords codec (splitInclusive 10 transfer.bytes) = .ok synced.rows ∧
        synced.rows.length = transfer.manifest.totalRows ∧
        (AskedAlong codec start actions → Answered transfer later)) ∧
    (∀ snapshotId, (∀ transfer, d.historyTransfer = some transfer → transfer.manifest.snapshotId ≠ snapshotId) →
      (∀ offset data nextOffset,
        d.processServerMessage codec (.historyPage snapshotId offset data nextOffset) = d) ∧
      d.processServerMessage codec (.historySnapshotExpired snapshotId) = d) ∧
    ∀ transfer, d.historyTransfer = some transfer → d.historyStarted = true →
      d.historyRequests.value = some (.historyRequest transfer.request) ∧
      (d.historyRequests.changed = true ∨ ∃ later, Since d.log transfer later ∧
        .sent (.historyRequest transfer.request) ∈ later) := by
  have orderly := (Orderly.start started).run ran
  refine ⟨fun before synced front => ?_, fun snapshotId other => ?_, fun transfer current begun => ?_⟩
  · obtain ⟨transfer, later, since, finished, answered⟩ := orderly.synced before synced front
    obtain ⟨id, checkpoint, bytes, hash, rows, count⟩ := finish_checked finished
    exact ⟨transfer, later, since, id, checkpoint, bytes, hash, rows, count, answered⟩
  · have absent : d.historyTransfer.filter (·.manifest.snapshotId = snapshotId) = none := by
      refine Option.filter_eq_none_iff.2 fun transfer current => ?_
      rw [decide_eq_true_eq]
      exact other transfer current
    refine ⟨fun offset data nextOffset => ?_, ?_⟩
    · rw [Driver.processServerMessage, Driver.processHistoryPage, absent]
    · rw [Driver.processServerMessage, Driver.expireHistoryTransfer, if_neg]
      intro same
      obtain ⟨transfer, current, same⟩ := (Option.any_eq_true _ _).1 same
      exact other transfer current (of_decide_eq_true same)
  · obtain ⟨later, since, begun'⟩ := orderly.transfer transfer current
    obtain ⟨-, value, sent, -⟩ := begun' begun
    exact ⟨value, sent.imp id fun mem => ⟨later, since, mem⟩⟩

/-! ### A page that nobody has asked for -/

def boldBytes : List UInt8 := boldCodec.record true boldRow

def boldManifest : TerminalHistoryManifest :=
  ⟨"s", 0, 0, 1, 1, boldBytes.length, 1, 0, false, boldCodec.sha256 boldBytes, 10000⟩

def boldAttachment : AttachedSession := ⟨0, false, some boldCheckpoint, some boldHistory, some boldManifest⟩

def twoEvents : AttachmentControllerOptions := ⟨2, false⟩

def boldRun (actions : List Driver.Action) : Option Driver :=
  (Driver.new twoEvents true boldAttachment).toOption.bind fun start => start.run boldCodec actions

def publishedLast (d : Driver) : Bool :=
  match d.log.getLast? with
  | some (.event (.historySynced _)) => true
  | _ => false

def unasked : List Driver.Action := [.message (.historyPage "s" 0 boldBytes none), .emitHistory]

def requested : List Driver.Action := [.acknowledgement (.checkpoint 0), .writeHistoryRequest] ++ unasked

lemma boldRun_spec {actions : List Driver.Action} {p : Driver → Bool} (h : (boldRun actions).any p = true) :
    ∃ start d, Driver.new twoEvents true boldAttachment = .ok start ∧ start.run boldCodec actions = some d ∧
      p d = true := by
  obtain ⟨d, ran, holds⟩ := (Option.any_eq_true _ _).1 h
  unfold boldRun at ran
  cases started : Driver.new twoEvents true boldAttachment with
  | error error =>
    rw [started] at ran
    cases ran
  | ok start =>
    rw [started] at ran
    exact ⟨start, d, rfl, ran, holds⟩

lemma publishedLast_spec {d : Driver} (h : publishedLast d = true) :
    ∃ before synced, d.log = before ++ [Entry.event (.historySynced synced)] := by
  unfold publishedLast at h
  split at h
  case h_1 synced last =>
    obtain ⟨before, log⟩ := List.getLast?_eq_some_iff.1 last
    exact ⟨before, synced, log⟩
  case h_2 => cases h

/-- The history is published although the renderer has acknowledged nothing. -/
theorem historySynced_unasked :
    ∃ start d before synced, Driver.new twoEvents true boldAttachment = .ok start ∧
      start.run boldCodec unasked = some d ∧ d.log = before ++ [Entry.event (.historySynced synced)] ∧
      acknowledgements d.log = [] := by
  have published : (boldRun unasked).any (fun d => publishedLast d && (acknowledgements d.log).isEmpty) = true := by
    decide +kernel
  obtain ⟨start, d, started, ran, holds⟩ := boldRun_spec published
  obtain ⟨last, silent⟩ := Bool.and_eq_true_iff.1 holds
  obtain ⟨before, synced, log⟩ := publishedLast_spec last
  exact ⟨start, d, before, synced, started, ran, log, List.isEmpty_iff.1 silent⟩

/-- The history is published after it was requested. -/
theorem historySynced_ordered_requested :
    ∃ start d before synced, Driver.new twoEvents true boldAttachment = .ok start ∧
      start.run boldCodec requested = some d ∧ d.log = before ++ [Entry.event (.historySynced synced)] ∧
      ∃ transfer later, Since before transfer later ∧ synced.snapshotId = transfer.manifest.snapshotId := by
  have published : (boldRun requested).any publishedLast = true := by decide +kernel
  obtain ⟨start, d, started, ran, last⟩ := boldRun_spec published
  obtain ⟨before, synced, log⟩ := publishedLast_spec last
  obtain ⟨transfer, later, since, id, -⟩ :=
    (historySynced_ordered boldCodec started ran).1 before synced (log ▸ List.prefix_rfl)
  exact ⟨start, d, before, synced, started, ran, log, transfer, later, since, id⟩

end Ctl.Client
