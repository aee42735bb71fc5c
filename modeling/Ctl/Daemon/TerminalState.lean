import Ctl.Base.Utf8
import Ctl.Core.History
import Ctl.Core.Journal
import Ctl.Daemon.HistorySnapshot

/-!
# The state of one terminal

Model of `TerminalState` and its operations in `ctmux/daemon/src/session.rs`: the emulator, the
output journal, the checkpoint with the history captured beside it, and the boundaries at which
delivery has to restart from a checkpoint.

The emulator is a parameter `E : Emulator` with the operations the daemon calls, so everything here
holds for every emulator. Shell awareness, statistics and the presentation hint are left out: they
never feed back into what is modelled. `last_geometry` revisions and history revisions are numbers.
-/

namespace Ctl.Daemon
open Ctl.Base Ctl.Proto Ctl.Avt Ctl.Core

/-- What the daemon looks for in a control function that its observing parser has completed. -/
inductive HistoryControl where
  /-- `Decset` or `Decrst`: whether the alternate buffer is active afterwards, from whether it was
      active before (the `probe` of `feed_terminal_character`). -/
  | modes (alternate : Bool → Bool)
  /-- `Ed(SavedLines)`. -/
  | savedLines
  /-- `Ris`. -/
  | ris
  | other

structure Emulator where
  /-- The screen (`avt::Vt`). -/
  Vt : Type
  /-- A fresh screen (`terminal_emulator`). -/
  terminalEmulator : TerminalSize → Vt
  /-- `Vt::feed`. -/
  feed : Vt → Char → Vt
  /-- `Vt::feed_str`. -/
  feedStr : Vt → Text → Vt
  /-- `Vt::resize`. -/
  resize : Vt → (columns rows : Nat) → Vt
  /-- `Vt::dump`. -/
  dump : Vt → Text
  /-- `Vt::lines`. -/
  lines : Vt → List Line
  /-- The observing parser (`avt::parser::Parser`). -/
  Parser : Type
  /-- `Parser::new`. -/
  parser : Parser
  /-- `Parser::feed`, as far as the daemon looks at its result. -/
  observe : Parser → Char → Parser × Option HistoryControl
  /-- `TerminalInputModes`. -/
  InputModes : Type
  /-- `TerminalInputModes::default`. -/
  inputModes : InputModes
  /-- `TerminalInputModes::feed`. -/
  feedModes : InputModes → Char → InputModes
  /-- `restore_keyboard_sequence`. -/
  restoreKeyboardSequence : InputModes → Text
  /-- `restore_sequences`. -/
  restoreSequences : InputModes → Text

/-! ### Logical history -/

/-- The logical lines above the live grid (Rust `TerminalHistory`). -/
structure TerminalHistory where
  generation : Nat
  revision : Nat
  capacityBytes : Nat
  retainedBytes : Nat
  truncated : Bool
  lines : List Text

/-- An empty history (Rust `TerminalHistory::new`). -/
def TerminalHistory.new (capacityBytes : Nat) : TerminalHistory :=
  ⟨0, 0, max capacityBytes 1, 0, false, []⟩

def lineBytes (lines : List Text) : Nat := (lines.map fun line => utf8Len line + 1).sum

/-- The loop of `replace`: drop the oldest lines beyond the capacity; returns the retained lines,
    their bytes and whether any was dropped. -/
def trimLines (capacity : Nat) : List Text → (retained : Nat) → List Text × Nat × Bool
  | [], retained => ([], retained, false)
  | line :: lines, retained =>
    if retained ≤ capacity then (line :: lines, retained, false)
    else
      let (kept, bytes, _) := trimLines capacity lines (retained - (utf8Len line + 1))
      (kept, bytes, true)

variable (history : TerminalHistory)

/-- Replace the rolling window (Rust `TerminalHistory::replace`). -/
def TerminalHistory.replace (lines : List Text) (sourceTruncated : Bool) : TerminalHistory :=
  let retained := trimLines history.capacityBytes lines (lineBytes lines)
  let truncated := history.truncated || sourceTruncated || retained.2.2
  if history.lines = retained.1 ∧ history.truncated = truncated then history
  else { history with
    lines := retained.1
    retainedBytes := retained.2.1
    truncated
    revision := history.revision + 1 }

/-- Forget all lines and start a new generation (Rust `TerminalHistory::clear`). -/
def TerminalHistory.clear : TerminalHistory :=
  { history with
    generation := history.generation + 1
    revision := history.revision + 1
    retainedBytes := 0
    truncated := false
    lines := [] }

/-- The lines at a raw-output boundary (Rust `TerminalHistory::snapshot`). -/
def TerminalHistory.snapshot (sequence : Nat) : TerminalHistorySnapshot :=
  ⟨sequence, history.generation, history.revision, history.retainedBytes, history.truncated,
    history.lines⟩

/-! ### The terminal -/

/-- A checkpoint with the history captured beside it (Rust `GeometryCheckpoint`). -/
structure GeometryCheckpoint where
  checkpoint : TerminalCheckpoint
  checkpointKeyboardPrefixBytes : Nat
  history : TerminalHistorySnapshot
  historyRows : PhysicalHistory
  geometryRevision : Nat

/-- The state behind the terminal lock (Rust `TerminalState`). -/
structure TerminalState (E : Emulator) where
  terminal : E.Vt
  inputModes : E.InputModes
  historyControlParser : E.Parser
  historyClearPending : Bool
  historyAlternateScreen : Bool
  primaryReflowPending : Bool
  primaryHistoryRows : PhysicalHistory
  history : TerminalHistory
  checkpointHistory : TerminalHistorySnapshot
  checkpointHistoryRows : PhysicalHistory
  pendingInput : List UInt8
  journal : OutputJournal
  checkpoint : TerminalCheckpoint
  checkpointKeyboardPrefixBytes : Nat
  checkpointGeometryRevision : Nat
  terminalSize : TerminalSize
  geometryRevision : Nat
  lastGeometryChangeSequence : Option Nat
  lastGeometryCheckpoint : Option GeometryCheckpoint

/-- `TERMINAL_SCROLLBACK_MAX_ROWS`. -/
def terminalScrollbackMaxRows : Nat := 10000

/-- `TERMINAL_SCROLLBACK_MAX_CELLS`. -/
def terminalScrollbackMaxCells : Nat := 1000000

/-- `TERMINAL_FEED_CELL_BUDGET`. -/
def terminalFeedCellBudget : Nat := 16 * 1024

/-- The rows of scrollback kept for a size (Rust `terminal_scrollback_rows`). -/
def terminalScrollbackRows (size : TerminalSize) : Nat :=
  min terminalScrollbackMaxRows (terminalScrollbackMaxCells / max size.columns.toNat 1)

namespace TerminalState

variable {E : Emulator}

variable (t : TerminalState E)

/-- Capture the scrollback of the primary buffer (Rust `refresh_history`). -/
def refreshHistory : TerminalState E :=
  let limit := terminalScrollbackRows t.terminalSize
  if t.historyAlternateScreen then
    let captured := t.primaryHistoryRows.rows
    if limit < captured.length then
      let rows := t.primaryHistoryRows.replace (captured.drop (captured.length - limit))
      { t with primaryHistoryRows := rows, history := t.history.replace rows.lines true }
    else t
  else
    let lines := E.lines t.terminal
    let historyRows := lines.length - t.terminalSize.rows.toNat
    let retainedRows := min historyRows limit
    -- `TextUnwrapper::push` returns nothing exactly for a wrapped line.
    let rows := ((lines.drop (historyRows - retainedRows)).take retainedRows).map fun line =>
      captureRow line line.wrapped
    let rows := t.primaryHistoryRows.replace rows
    { t with
      primaryHistoryRows := rows
      history := t.history.replace rows.lines (decide (limit ≤ historyRows)) }

/-- Capture screen and history at the current end of the output (Rust `refresh_checkpoint`). -/
def refreshCheckpoint : TerminalState E :=
  let t := t.refreshHistory
  let keyboard := E.restoreKeyboardSequence t.inputModes
  let checkpoint : TerminalCheckpoint := {
    sequence := t.journal.nextSequence
    terminalSize := t.terminalSize
    payload := keyboard ++ E.restoreSequences t.inputModes ++ E.dump t.terminal
    inputPrefix := t.pendingInput }
  { t with
    checkpointKeyboardPrefixBytes := utf8Len keyboard
    checkpoint
    checkpointHistory := t.history.snapshot checkpoint.sequence
    checkpointHistoryRows := t.primaryHistoryRows
    checkpointGeometryRevision := t.geometryRevision }

/-- A fresh terminal (Rust `TerminalState::new`). -/
def new (E : Emulator) (size : TerminalSize) (journalCapacityBytes historyCapacityBytes : Nat) : TerminalState E :=
  let history := TerminalHistory.new historyCapacityBytes
  refreshCheckpoint {
    terminal := E.terminalEmulator size
    inputModes := E.inputModes
    historyControlParser := E.parser
    historyClearPending := false
    historyAlternateScreen := false
    primaryReflowPending := false
    primaryHistoryRows := .new []
    history
    checkpointHistory := history.snapshot 0
    checkpointHistoryRows := .new []
    pendingInput := []
    journal := .new journalCapacityBytes
    checkpoint := ⟨0, size, [], []⟩
    checkpointKeyboardPrefixBytes := 0
    checkpointGeometryRevision := 0
    terminalSize := size
    geometryRevision := 0
    lastGeometryChangeSequence := none
    lastGeometryCheckpoint := none }

/-! ### Feeding output -/

/-- Drop the saved lines once the primary buffer is active (Rust `apply_pending_history_clear`). -/
def applyPendingHistoryClear : TerminalState E :=
  if !t.historyClearPending || t.historyAlternateScreen then t
  else { t with
    terminal := E.feedStr (E.terminalEmulator t.terminalSize) (E.dump t.terminal)
    historyClearPending := false }

/-- Before the emulator sees the last character of a mode change: capture the primary buffer when
    that character leaves it (the `Decset`/`Decrst` branch of `feed_terminal_character`). -/
def switchModes : Option HistoryControl → TerminalState E
  | some (.modes switch) =>
    let alternate := switch t.historyAlternateScreen
    let t := if alternate && !t.historyAlternateScreen then t.refreshHistory else t
    { t with historyAlternateScreen := alternate }
  | _ => t

/-- After the emulator has seen a character: drop the history on a clear or reset (the end of
    `feed_terminal_character`). -/
def clearHistory : Option HistoryControl → TerminalState E
  | some .savedLines => applyPendingHistoryClear { t with
      history := t.history.clear
      primaryHistoryRows := t.primaryHistoryRows.replace []
      historyClearPending := true }
  | some .ris => { t with
      history := t.history.clear
      primaryHistoryRows := t.primaryHistoryRows.replace []
      historyAlternateScreen := false
      historyClearPending := false }
  | _ => t.applyPendingHistoryClear

/-- Feed one character (Rust `feed_terminal_character`). -/
def feedTerminalCharacter (ch : Char) : TerminalState E :=
  let observed := E.observe t.historyControlParser ch
  let t := { t with
    inputModes := E.feedModes t.inputModes ch
    historyControlParser := observed.1 }
  let t := t.switchModes observed.2
  let t := { t with terminal := E.feed t.terminal ch }
  t.clearHistory observed.2

/-- The loop of `feed_terminal_text`: the emulator collects garbage every `interval` characters. -/
def feedCharacters (interval : Nat) : TerminalState E → Text → (index : Nat) → TerminalState E
  | t, [], _ => t
  | t, ch :: text, index =>
    let t := t.feedTerminalCharacter ch
    let t := if (index + 1) % interval = 0 then { t with terminal := E.feedStr t.terminal [] } else t
    feedCharacters interval t text (index + 1)

/-- Feed decoded text (Rust `feed_terminal_text`). -/
def feedTerminalText (text : Text) : TerminalState E :=
  let interval := max (terminalFeedCellBudget / max t.terminalSize.columns.toNat 1) 1
  let t := feedCharacters interval t text 0
  { t with terminal := E.feedStr t.terminal [] }

/-- The decoding loop of `feed_terminal_bytes_inner`; every round but the last consumes a byte, so
    `fuel` bounds the rounds. -/
def feedPending : (fuel : Nat) → TerminalState E → TerminalState E
  | 0, t => t
  | fuel + 1, t =>
    match fromUtf8 t.pendingInput.length t.pendingInput with
    | (valid, _, .complete) => { t.feedTerminalText valid with pendingInput := [] }
    | (valid, rest, stop) =>
      if valid ≠ [] then feedPending fuel { t.feedTerminalText valid with pendingInput := rest }
      else match stop with
        | .invalid length =>
          feedPending fuel { t.feedTerminalCharacter '\uFFFD' with
            pendingInput := rest.drop length }
        | _ => t

/-- Feed raw output (Rust `feed_terminal_output`). -/
def feedTerminalOutput (data : List UInt8) : TerminalState E :=
  let t := { t with pendingInput := t.pendingInput ++ data }
  feedPending (t.pendingInput.length + 1) t

/-! ### The lock-protected operations -/

def captured : GeometryCheckpoint :=
  ⟨t.checkpoint, t.checkpointKeyboardPrefixBytes, t.checkpointHistory, t.checkpointHistoryRows,
    t.geometryRevision⟩

def markBoundary : TerminalState E :=
  { t with
    lastGeometryChangeSequence := some t.journal.nextSequence
    lastGeometryCheckpoint := some t.captured }

/-- Clients have to replace what they hold: the history was cleared since it had
    `previousHistoryGeneration`, or the primary buffer returns with another width. -/
def replacementRequired (previousHistoryGeneration : Nat) : Bool :=
  decide (previousHistoryGeneration ≠ t.history.generation) ||
    (t.primaryReflowPending && !t.historyAlternateScreen)

/-- The journal has dropped output behind the checkpoint, or enough output has followed it. -/
def refreshDue (checkpointIntervalBytes : Nat) : Bool :=
  decide (t.checkpoint.sequence < t.journal.earliestSequence) ||
    decide (checkpointIntervalBytes ≤ t.journal.nextSequence - t.checkpoint.sequence)

/-- Refresh the checkpoint when it is stale, due or has to replace what clients hold
    (Rust `refresh_checkpoint_after_output`). -/
def refreshCheckpointAfterOutput (previousHistoryGeneration : Nat) (checkpointIntervalBytes : Nat) : TerminalState E :=
  if t.replacementRequired previousHistoryGeneration then
    let t := refreshCheckpoint { t with geometryRevision := t.geometryRevision + 1 }
    markBoundary { t with
      primaryReflowPending := t.primaryReflowPending && t.historyAlternateScreen }
  else if t.refreshDue checkpointIntervalBytes then t.refreshCheckpoint
  else t

/-- Append raw output (Rust `append_output`). -/
def appendOutput (checkpointIntervalBytes : Nat) (t : TerminalState E) (data : List UInt8) : TerminalState E :=
  let generation := t.history.generation
  let t := t.feedTerminalOutput data
  let t := { t with journal := (t.journal.append data).2 }
  t.refreshCheckpointAfterOutput generation checkpointIntervalBytes

/-- Resize the terminal once its PTY was resized (Rust `resize_pty`). -/
def resizePty (size : TerminalSize) : TerminalState E :=
  if t.terminalSize = size then t else
  markBoundary (refreshCheckpoint { t with
    primaryReflowPending := t.primaryReflowPending || t.historyAlternateScreen
    terminal := E.resize t.terminal size.columns.toNat size.rows.toNat
    terminalSize := size
    geometryRevision := t.geometryRevision + 1 })

/-! ### Snapshots for delivery -/

/-- What an attachment starts from (Rust `AttachSnapshot`). -/
structure AttachSnapshot where
  nextSequence : Nat
  terminalSize : TerminalSize
  checkpoint : Option TerminalCheckpoint
  checkpointKeyboardPrefixBytes : Nat
  checkpointGeometryRevision : Option Nat
  journal : JournalSnapshot
  historyGap : Bool
  history : Option TerminalHistorySnapshot
  historyRows : Option PhysicalHistory
  scrollbackLimit : Nat

/-- The checkpoint that a delivery from `requested` starts from, if any: the latest one when the
    journal does not reach back far enough, the one at the last boundary when the receiver has not
    seen that boundary. -/
def deliveryCheckpoint (requested revision : Option Nat) : Option GeometryCheckpoint :=
  let earliest := t.journal.earliestSequence
  let geometryRequired := (∀ r ∈ revision, r < t.geometryRevision) ∧
    ∃ sequence ∈ requested, ∃ boundary ∈ t.lastGeometryChangeSequence, sequence ≤ boundary
  let latest : GeometryCheckpoint := { t.captured with
    geometryRevision := t.checkpointGeometryRevision }
  if ∀ sequence ∈ requested, sequence < earliest then some latest
  else if geometryRequired then
    some ((t.lastGeometryCheckpoint.filter fun c => earliest ≤ c.checkpoint.sequence).getD latest)
  else none

/-- The state from which delivery continues at `requested` (Rust `snapshot_for_delivery`). -/
def snapshotForDelivery (requested revision : Option Nat) : Except JournalError AttachSnapshot :=
  if requested.any (t.journal.nextSequence < ·) then
    .error (.sequenceAhead (requested.getD 0) t.journal.nextSequence)
  else do
    let start := t.deliveryCheckpoint requested revision
    let replayFrom := match start with
      | some c => c.checkpoint.sequence
      | none => requested.getD t.journal.earliestSequence
    let journal ← t.journal.snapshotFrom (some replayFrom)
    let historyGap := requested.any (· < journal.replayFrom) ||
      start.any fun c => c.history.truncated
    let size := match start with
      | some c => c.checkpoint.terminalSize
      | none => t.terminalSize
    return {
      nextSequence := t.journal.nextSequence
      terminalSize := t.terminalSize
      checkpoint := start.map (·.checkpoint)
      checkpointKeyboardPrefixBytes := (start.map (·.checkpointKeyboardPrefixBytes)).getD 0
      checkpointGeometryRevision := start.map (·.geometryRevision)
      journal
      historyGap
      history := start.map (·.history)
      historyRows := start.map (·.historyRows)
      scrollbackLimit := terminalScrollbackRows size }

/-- Capture the screen and start from it (Rust `fresh_snapshot`; the two lock sections are the two
    functions). -/
def freshSnapshot : TerminalState E × Except JournalError AttachSnapshot :=
  (t.refreshCheckpoint, t.refreshCheckpoint.snapshotForDelivery none none)

end TerminalState

end Ctl.Daemon
