import Ctl.Avt.Unwrapper
import Ctl.Base.System
import Ctl.Client.RowWindow

/-!
# The cache of a terminal

Model of `apply` and `mark_history_gap` in `ctmux/client/src/cache.rs` for the record of one terminal: a
checkpoint replaces the record, output and changes of the geometry continue it, and a completed transfer of the
history gives it physical rows. Output that arrives during the transfer is applied and remembered, and replayed
on top of the history afterwards.

The record is replaced as a whole after the data were written. An attempt that fails leaves the record; what it
has written is in other files or behind the rows of the record (`Cache.keepsCommitted`). The formats of a
checkpoint and a snapshot are one flag, a payload is a text, and other fields of the events are left out.
-/

namespace Ctl.Client
open Ctl.Base Ctl.Proto Ctl.Avt Ctl.Core Ctl.Daemon

/-! ### The emulator -/

/-- The lines that `gc` yields, when a buffer is trimmed. -/
def trimmed (t : Avt.Terminal) : List Line :=
  if t.activeBufferType = .alternate ∨ !t.buffer.trimNeeded then []
  else match t.buffer.scrollbackLimit with
    | some limit => t.buffer.lines.take (t.buffer.lines.length - t.buffer.rows - limit)
    | none => []

/-- The emulator of a record (Rust `emulator`). -/
def emulator (size : TerminalSize) : Vt := .build size.columns.toNat size.rows.toNat (some 0) false

/-! ### Rows that leave the screen -/

/-- The rows of one attempt (Rust `HistoryDelta`). -/
structure HistoryDelta where
  rows : List TerminalHistoryRow
  rebuildPrefix : Bool

/-- Rust `HistoryDelta::default`. -/
def HistoryDelta.default : HistoryDelta := ⟨[], false⟩

/-- The prefix after lines have left the screen (Rust `collect`). -/
def collectPrefix : List Line → TextUnwrapper → (carried : Text) → Text
  | [], unwrapper, carried => carried ++ unwrapper.flush.getD []
  | line :: lines, unwrapper, carried =>
    match unwrapper.push line with
    | (some _, unwrapper) => collectPrefix lines unwrapper []
    | (none, unwrapper) => collectPrefix lines unwrapper carried

def cutPrefix : Text → Text
  | [] => []
  | c :: text => if maxNormalizedHistoryBytes < utf8Len (c :: text) then cutPrefix text else c :: text

/-- Keep the newest rows, and the end of the prefix (Rust `bound_delta`). -/
def boundDelta (record : CacheRecord) (delta : HistoryDelta) (rowLimit : Nat) : CacheRecord × HistoryDelta :=
  let rows := delta.rows.drop (delta.rows.length - rowLimit)
  let record := if rowLimit < delta.rows.length then { record with wrappedPrefix := wrappedHistoryPrefix rows }
    else record
  let delta := if rowLimit < delta.rows.length then ⟨rows, true⟩ else delta
  if maxNormalizedHistoryBytes < utf8Len record.wrappedPrefix then
    ({ record with
      wrappedPrefix := cutPrefix record.wrappedPrefix
      ledger := { record.ledger with cut := true } }, delta)
  else (record, delta)

/-- Collect lines that have left the screen. A prefix that ends with a line is no longer cut. -/
def collectRows (record : CacheRecord) (delta : HistoryDelta) (lines : List Line) (rowLimit : Nat) :
    CacheRecord × HistoryDelta :=
  let rows := captureRows lines
  boundDelta { record with
      wrappedPrefix := collectPrefix lines .new record.wrappedPrefix
      ledger := ⟨record.ledger.rows ++ rows, record.ledger.cut && rows.all (·.wrapped)⟩ }
    { delta with rows := delta.rows ++ rows } rowLimit

/-! ### Output -/

/-- Remember output that a completed transfer will need (Rust `retain_replay`). -/
def CacheRecord.retainReplay (record : CacheRecord) (sequence : Nat) (bytes : List UInt8) : CacheRecord :=
  if record.historyManifest.isNone || record.historySynced || record.replayTruncated then record
  else if maxReplayBytes < (record.replay.map (·.data.length)).sum + bytes.length then
    { record with replay := [], replayTruncated := true }
  else match record.replay.getLast? with
    | some previous =>
      if previous.sequenceEnd = sequence then
        { record with replay := record.replay.dropLast ++ [{ previous with data := previous.data ++ bytes }] }
      else { record with replay := record.replay ++ [⟨sequence, bytes⟩] }
    | none => { record with replay := record.replay ++ [⟨sequence, bytes⟩] }

def CacheRecord.clear (record : CacheRecord) : CacheRecord := { record with
  historyManifest := none
  historyCheckpoint := none
  historySynced := false
  replay := []
  replayTruncated := true
  wrappedPrefix := []
  physicalHistory := none
  ledger := ⟨[], false⟩ }

/-- What output changes of a record besides its position. -/
structure Kept where
  record : CacheRecord
  delta : HistoryDelta
  rowLimit : Nat

def Kept.collect (kept : Kept) (lines : List Line) : Kept :=
  let (record, delta) := collectRows kept.record kept.delta lines kept.rowLimit
  { kept with record, delta }

def Kept.clear (kept : Kept) : Kept :=
  { kept with record := kept.record.clear, delta := { kept.delta with rows := [] } }

def cacheProjection (width : Char → Option Nat) : Projection where
  Vt := Vt
  feedStr vt text := (vt.feedStr width text, trimmed (text.foldl (Vt.feed width) vt).terminal)
  columns vt := vt.terminal.cols
  History := Kept
  retainReplay kept sequence bytes := { kept with record := kept.record.retainReplay sequence bytes }
  collect := Kept.collect
  clear kept := .ok kept.clear

def CacheRecord.rowLimit (record : CacheRecord) : Nat :=
  match record.physicalHistory with
  | some window => window.scrollbackLimit
  | none => (record.historyManifest.map (·.scrollbackLimit)).getD maxProjectionRows

/-- Apply output (Rust `update_output`). -/
def applyOutput (width : Char → Option Nat) (record : CacheRecord) (vt : Vt) (start stop : Nat)
    (data : List UInt8) : Except String (CacheRecord × Vt × HistoryDelta) := do
  let kept : Kept := ⟨record, .default, record.rowLimit⟩
  let (current, vt, _) ← updateOutput (cacheProjection width)
    ⟨record.sequence, record.pendingUtf8, record.payload, kept⟩ vt start stop data
  return ({ current.history.record with
    sequence := current.sequence
    pendingUtf8 := current.pendingUtf8 }, vt, current.history.delta)

/-! ### A completed transfer -/

def replayGap : String := "History catch-up has a gap; request a new checkpoint"

def catchUp (width : Char → Option Nat) : List ReplayOutput → Vt → (pending : List UInt8) → (sequence : Nat) →
    Except String (Vt × List UInt8 × Nat)
  | [], vt, pending, sequence => .ok (vt, pending, sequence)
  | output :: outputs, vt, pending, sequence =>
    if output.sequenceStart ≠ sequence then .error replayGap
    else do
      let ((vt, _), pending, _) ← feedProjectionWithEvictions (cacheProjection width) vt pending output.data
      catchUp width outputs vt pending (sequence + output.data.length)

/-- The rows and the checkpoint of a completed transfer (Rust `AttachmentEvent::HistorySynced`). -/
structure CompletedHistory where
  snapshotId : String
  checkpoint : TerminalCheckpoint
  supported : Bool
  history : TerminalHistorySnapshot
  rows : List TerminalHistoryRow
  scrollbackLimit : Nat

/-- Give a record its physical rows (Rust `sync_history`). -/
def syncHistory (width : Char → Option Nat) (codec : Codec) (record : CacheRecord) (files : Files)
    (completed : CompletedHistory) : Except String (Option (CacheRecord × Files)) :=
  match record.historyManifest with
  | none => .ok none
  | some manifest =>
    if record.historySynced ∨ manifest.snapshotId ≠ completed.snapshotId then .ok none
    else if !completed.supported ∨ record.historyCheckpoint ≠ some completed.checkpoint ∨
        manifest.sequence ≠ completed.history.sequence ∨ manifest.generation ≠ completed.history.generation ∨
        manifest.revision ≠ completed.history.revision ∨
        manifest.scrollbackLimit ≠ completed.scrollbackLimit ∨ manifest.totalRows ≠ completed.rows.length then
      .error "Completed history differs from its checkpoint"
    else if record.replayTruncated then .error replayGap
    else do
      let projected ← (restoreProjection width completed.checkpoint completed.rows
        completed.scrollbackLimit).mapError (·.message)
      let (projected, pending, sequence) ← catchUp width record.replay projected
        completed.checkpoint.inputPrefix completed.checkpoint.sequence
      if sequence ≠ record.sequence ∨ projected.dump ≠ record.payload ∨ pending ≠ record.pendingUtf8 then
        .error "History catch-up differs from the current screen"
      else do
        let retained := projectionRows width projected
        let (record, files) ← replaceRows codec { record with ledger := { record.ledger with rows := retained } }
          files retained completed.scrollbackLimit
        return some ({ record with historySynced := true, replay := [] }, files)

/-! ### Events -/

/-- An event of an attachment that changes the cache (Rust `AttachmentEvent`). -/
inductive CacheEvent where
  | checkpoint (checkpoint : TerminalCheckpoint) (supported : Bool) (history : TerminalHistorySnapshot)
    (historyManifest : Option TerminalHistoryManifest)
  | historySynced (completed : CompletedHistory)
  | output (sequenceStart sequenceEnd : Nat) (data : List UInt8)
  | ptyGeometryChanged (terminalSize : TerminalSize) (observedSequence : Nat)

def manifestFits (checkpoint : TerminalCheckpoint) (history : TerminalHistorySnapshot)
    (manifest : TerminalHistoryManifest) : Bool :=
  manifest.sequence = checkpoint.sequence && manifest.generation = history.generation &&
    manifest.revision = history.revision && manifest.scrollbackLimit ≤ maxProjectionRows

def CacheRecord.restart (record : CacheRecord) (checkpoint : TerminalCheckpoint)
    (historyManifest : Option TerminalHistoryManifest) : CacheRecord := { record with
  terminalSize := checkpoint.terminalSize
  pendingUtf8 := checkpoint.inputPrefix
  wrappedPrefix := []
  historyManifest
  historySynced := historyManifest.isNone
  historyCheckpoint := some checkpoint
  replay := []
  replayTruncated := false
  sequence := checkpoint.sequence
  physicalHistory := none
  ledger := ⟨[], false⟩ }

def CacheRecord.reshape (record : CacheRecord) (terminalSize : TerminalSize) : CacheRecord := { record with
  historyManifest := none
  historyCheckpoint := none
  replay := []
  replayTruncated := true
  terminalSize }

/-- Apply an event to a record and its emulator; nothing if the event is old (Rust `update_current`). -/
def updateCurrent (width : Char → Option Nat) (codec : Codec) (record : CacheRecord) (files : Files) (vt : Vt)
    (hasPrevious : Bool) : CacheEvent → Except String (Option (CacheRecord × Files × Vt × HistoryDelta))
  | .checkpoint checkpoint supported history historyManifest =>
    if !supported ∨ checkpoint.sequence ≠ history.sequence then .error "Unsupported local checkpoint"
    else if hasPrevious ∧ checkpoint.sequence < record.sequence then .ok none
    else if historyManifest.any fun manifest => !manifestFits checkpoint history manifest then
      .error "Checkpoint history manifest differs"
    else .ok (some (record.restart checkpoint historyManifest, files,
      (emulator checkpoint.terminalSize).feedStr width checkpoint.payload, .default))
  | .historySynced completed => do
    let synced ← syncHistory width codec record files completed
    return synced.map fun (record, files) => (record, files, vt, .default)
  | .output sequenceStart sequenceEnd data =>
    if sequenceEnd < sequenceStart then .error "Invalid local output range"
    else if hasPrevious ∧ sequenceEnd ≤ record.sequence then .ok none
    else do
      let (record, vt, delta) ← applyOutput width record vt sequenceStart sequenceEnd data
      return some (record, files, vt, delta)
  | .ptyGeometryChanged terminalSize observedSequence =>
    if observedSequence < record.sequence then .ok none
    else if terminalSize.columns = 0 ∨ terminalSize.rows = 0 then .error "Invalid terminal dimensions"
    else
      let columns := terminalSize.columns.toNat
      let rows := terminalSize.rows.toNat
      let (record, delta) := collectRows record .default (trimmed (vt.terminal.resize columns rows))
        maxProjectionRows
      .ok (some (record.reshape terminalSize, files, vt.resize columns rows, delta))

/-! ### The cache -/

structure Cache where
  record : Option CacheRecord
  files : Files

def Cache.empty : Cache := ⟨none, ⟨fun _ => none, 0⟩⟩

def PhysicalWindow.valid (window : PhysicalWindow) : Bool :=
  window.start ≤ window.stop && window.rows ≤ window.scrollbackLimit &&
    window.scrollbackLimit ≤ maxProjectionRows && window.partialRows ≤ window.rows

variable (cache : Cache)

/-- Read the record and check it (Rust `read_current`). -/
def Cache.readCurrent : Except String (Option CacheRecord) :=
  match cache.record with
  | none => .ok none
  | some record =>
    if record.terminalSize.columns = 0 ∨ record.terminalSize.rows = 0 then
      .error "Invalid cached terminal dimensions"
    else if record.physicalHistory.any (!·.valid) then .error "Invalid cached history projection"
    else .ok (some record)

/-- Remove the files that the record does not name (Rust `cleanup_data_files`). -/
def cleanupDataFiles (record : CacheRecord) (files : Files) : Files :=
  { files with contents := fun file =>
      if record.physicalHistory.any fun window => window.file = file then files.contents file else none }

/-- Save an event; the size is that of the identity (Rust `apply`). -/
def Cache.apply (width : Char → Option Nat) (codec : Codec) (cache : Cache) (size : TerminalSize)
    (event : CacheEvent) : Except String Cache := do
  let previous ← cache.readCurrent
  let current := previous.getD (.new size)
  let vt := (emulator current.terminalSize).feedStr width current.payload
  match ← updateCurrent width codec current cache.files vt previous.isSome event with
  | none => return cache
  | some (record, files, vt, delta) => do
    let (record, files) ← appendRows codec { record with payload := vt.dump } files delta.rows delta.rebuildPrefix
    return ⟨some record, cleanupDataFiles record files⟩

/-- Mark dropped output (Rust `mark_history_gap`). -/
def Cache.markHistoryGap : Except String Cache := do
  match ← cache.readCurrent with
  | none => .error "No live snapshot is available to mark incomplete"
  | some record => return { cache with record := some { record with
      historyManifest := none
      historyCheckpoint := none
      historySynced := false
      replay := []
      replayTruncated := true } }

def Cache.keepsCommitted (files : Files) : Prop :=
  cache.files.uuids ≤ files.uuids ∧ ∀ window ∈ cache.record.bind (·.physicalHistory),
    (files.contents window.file).map (·.take window.stop)
      = (cache.files.contents window.file).map (·.take window.stop)

instance (cache : Cache) (files : Files) : Decidable (cache.keepsCommitted files) :=
  inferInstanceAs (Decidable (_ ∧ _))

inductive CacheCall where
  | apply (size : TerminalSize) (event : CacheEvent)
  | markHistoryGap
  /-- An attempt fails and leaves these files. -/
  | interrupted (files : Files)

def Cache.step (width : Char → Option Nat) (codec : Codec) (cache : Cache) : CacheCall → Option Cache
  | .apply size event =>
    match cache.apply width codec size event with
    | .ok cache' => some cache'
    | .error _ => some cache
  | .markHistoryGap =>
    match cache.markHistoryGap with
    | .ok cache' => some cache'
    | .error _ => some cache
  | .interrupted files => if cache.keepsCommitted files then some { cache with files } else none

/-! ### What an event does -/

section

variable {width : Char → Option Nat} {codec : Codec} {record record' : CacheRecord} {files files' : Files} {vt vt' : Vt}
  {delta : HistoryDelta} {event : CacheEvent}

lemma collectRows_record (record : CacheRecord) (delta : HistoryDelta) (lines : List Line) (rowLimit : Nat) :
    ∃ wrappedPrefix ledger, (collectRows record delta lines rowLimit).1 = { record with wrappedPrefix, ledger } := by
  unfold collectRows boundDelta
  dsimp only
  split
  · split
    · exact ⟨_, _, rfl⟩
    · exact ⟨_, _, rfl⟩
  · split
    · exact ⟨_, _, rfl⟩
    · exact ⟨_, _, rfl⟩

lemma applyOutput_spec {I : Kept → Prop} (collect : ∀ kept lines, I kept → I (kept.collect lines))
    (clear : ∀ kept, I kept → I kept.clear) {start stop : Nat} {data : List UInt8}
    (base : I ⟨record.retainReplay record.sequence (data.drop (record.sequence - start)), .default, record.rowLimit⟩)
    (ok : applyOutput width record vt start stop data = .ok (record', vt', delta)) :
    start ≤ record.sequence ∧ stop - start = data.length ∧ record.sequence - start ≤ data.length ∧
      ∃ kept pendingUtf8, I kept ∧ delta = kept.delta ∧
        record' = { kept.record with sequence := stop, pendingUtf8 } := by
  obtain ⟨⟨current, vt₁, fed⟩, updated, ok⟩ := bind_eq_ok.1 ok
  cases ok
  obtain ⟨begins, range, covers, moved, -, -⟩ := updateOutput_feeds updated
  have kept := updateOutput_keeps (I := I) collect (fun kept _ h eq => Except.ok.inj eq ▸ clear kept h) base updated
  exact ⟨begins, range, covers, current.history, current.pendingUtf8, kept, rfl, by rw [moved]⟩

lemma syncHistory_ok {completed : CompletedHistory}
    (ok : syncHistory width codec record files completed = .ok (some (record', files'))) :
    ∃ retained synced, replaceRows codec { record with ledger := { record.ledger with rows := retained } } files
        retained completed.scrollbackLimit = .ok (synced, files') ∧
      record' = { synced with historySynced := true, replay := [] } ∧ record.replayTruncated = false := by
  rw [syncHistory] at ok
  split at ok
  case h_1 => cases ok
  case h_2 manifest present =>
    split at ok
    case isTrue => cases ok
    case isFalse =>
      split at ok
      case isTrue => cases ok
      case isFalse =>
        split at ok
        case isTrue => cases ok
        case isFalse complete =>
          obtain ⟨projected, -, ok⟩ := bind_eq_ok.1 ok
          obtain ⟨⟨projected', pending, sequence⟩, -, ok⟩ := bind_eq_ok.1 ok
          dsimp only at ok
          split at ok
          case isTrue => cases ok
          case isFalse =>
            obtain ⟨⟨synced, files₁⟩, replaced, ok⟩ := bind_eq_ok.1 ok
            cases ok
            exact ⟨_, synced, replaced, rfl, Bool.not_eq_true _ ▸ complete⟩

inductive Updated (width : Char → Option Nat) (codec : Codec) (record : CacheRecord) (files : Files)
    (hasPrevious : Bool) : CacheEvent → CacheRecord → Files → HistoryDelta → Prop
  | checkpoint {checkpoint supported history historyManifest}
      (fits : historyManifest.all fun manifest => manifestFits checkpoint history manifest) :
      Updated width codec record files hasPrevious (.checkpoint checkpoint supported history historyManifest)
        (record.restart checkpoint historyManifest) files .default
  | historySynced {completed record' files'}
      (synced : syncHistory width codec record files completed = .ok (some (record', files'))) :
      Updated width codec record files hasPrevious (.historySynced completed) record' files' .default
  | output {start stop data record' vt vt' delta} (ordered : start ≤ stop)
      (applied : applyOutput width record vt start stop data = .ok (record', vt', delta)) :
      Updated width codec record files hasPrevious (.output start stop data) record' files delta
  | ptyGeometryChanged {terminalSize observedSequence lines record' delta}
      (collected : collectRows record .default lines maxProjectionRows = (record', delta)) :
      Updated width codec record files hasPrevious (.ptyGeometryChanged terminalSize observedSequence)
        (record'.reshape terminalSize) files delta

lemma updateCurrent_ok {hasPrevious : Bool}
    (ok : updateCurrent width codec record files vt hasPrevious event = .ok (some (record', files', vt', delta))) :
    Updated width codec record files hasPrevious event record' files' delta := by
  cases event with
  | checkpoint checkpoint supported history historyManifest =>
    rw [updateCurrent] at ok
    split at ok
    case isTrue => cases ok
    case isFalse =>
      split at ok
      case isTrue => cases ok
      case isFalse =>
        split at ok
        case isTrue => cases ok
        case isFalse fits =>
          cases ok
          refine .checkpoint ?_
          cases historyManifest with
          | none => rfl
          | some manifest => simpa using fits
  | historySynced completed =>
    obtain ⟨synced, done, ok⟩ := bind_eq_ok.1 ok
    cases synced with
    | none => cases ok
    | some synced =>
      cases ok
      exact .historySynced done
  | output start stop data =>
    rw [updateCurrent] at ok
    split at ok
    case isTrue => cases ok
    case isFalse ordered =>
      split at ok
      case isTrue => cases ok
      case isFalse =>
        obtain ⟨⟨record₁, vt₁, delta₁⟩, applied, ok⟩ := bind_eq_ok.1 ok
        cases ok
        exact .output (Nat.le_of_not_lt ordered) applied
  | ptyGeometryChanged terminalSize observedSequence =>
    rw [updateCurrent] at ok
    split at ok
    case isTrue => cases ok
    case isFalse =>
      split at ok
      case isTrue => cases ok
      case isFalse =>
        cases ok
        exact .ptyGeometryChanged rfl

lemma readCurrent_ok {cache : Cache} {previous : Option CacheRecord} (ok : cache.readCurrent = .ok previous) :
    previous = cache.record := by
  rw [Cache.readCurrent] at ok
  split at ok
  case h_1 absent =>
    cases ok
    exact absent.symm
  case h_2 record present =>
    split at ok
    case isTrue => cases ok
    case isFalse =>
      split at ok
      case isTrue => cases ok
      case isFalse =>
        cases ok
        exact present.symm

lemma apply_ok {cache cache' : Cache} {size : TerminalSize} (ok : cache.apply width codec size event = .ok cache') :
    cache' = cache ∨ ∃ updated files payload delta record' files',
      Updated width codec (cache.record.getD (.new size)) cache.files cache.record.isSome event updated files delta ∧
      appendRows codec { updated with payload } files delta.rows delta.rebuildPrefix = .ok (record', files') ∧
      cache' = ⟨some record', cleanupDataFiles record' files'⟩ := by
  obtain ⟨previous, read, ok⟩ := bind_eq_ok.1 ok
  obtain rfl := readCurrent_ok read
  obtain ⟨result, updated, ok⟩ := bind_eq_ok.1 ok
  cases result with
  | none =>
    cases ok
    exact .inl rfl
  | some result =>
    obtain ⟨updatedRecord, files, vt, delta⟩ := result
    obtain ⟨⟨record', files'⟩, appended, ok⟩ := bind_eq_ok.1 ok
    cases ok
    exact .inr ⟨updatedRecord, files, vt.dump, delta, record', files', updateCurrent_ok updated, appended, rfl⟩

end

end Ctl.Client
