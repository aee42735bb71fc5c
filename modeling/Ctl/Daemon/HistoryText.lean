import Ctl.Avt.Unwrapper
import Ctl.Daemon.TerminalState
import Ctl.Proto.LogicalLines

/-!
# The size of the retained history

Model of `retained_history_statistics` in `ctmux/daemon/src/session.rs`. The statistics of the primary buffer
join the lines of the emulator as they are; the rows of a checkpoint are captured from the same lines, joined
and trimmed afterwards. Both count the same bytes (`history_text_accounting`).
-/

namespace Ctl.Daemon
open Ctl.Base Ctl.Proto Ctl.Avt Ctl.Core

/-- The last count and what it was for (Rust `HistoryStatisticsCache`). -/
structure HistoryStatisticsCache where
  sequence : Nat
  geometryRevision : Nat
  historyGeneration : Nat
  retainedBytes : Nat

namespace TerminalState

variable {E : Emulator}

variable (t : TerminalState E)

def retainedLines : List Line :=
  let lines := E.lines t.terminal
  let historyRows := lines.length - t.terminalSize.rows.toNat
  let retainedRows := min historyRows (terminalScrollbackRows t.terminalSize)
  (lines.drop (historyRows - retainedRows)).take retainedRows

def currentHistoryBytes : Nat :=
  if t.historyAlternateScreen then retainedHistoryTextBytes t.primaryHistoryRows.rows
  else ((TextUnwrapper.new.pushAll t.retainedLines).map fun line => utf8Len (trimEnd line) + 1).foldl
    (satAdd (2 ^ 64 - 1)) 0

/-- The bytes of the history, and the cache after the call (Rust `retained_history_statistics`). -/
def retainedHistoryStatistics (cache : Option HistoryStatisticsCache) : Nat × Option HistoryStatisticsCache :=
  let fresh : HistoryStatisticsCache :=
    ⟨t.journal.nextSequence, t.geometryRevision, t.history.generation, t.currentHistoryBytes⟩
  match cache with
  | some cached =>
    if cached.sequence = fresh.sequence ∧ cached.geometryRevision = fresh.geometryRevision ∧
        cached.historyGeneration = fresh.historyGeneration then (cached.retainedBytes, cache)
    else (fresh.retainedBytes, some fresh)
  | none => (fresh.retainedBytes, some fresh)

/-- The rows that `refresh_history` captures from the primary buffer. -/
def capturedRows : List TerminalHistoryRow :=
  t.retainedLines.map fun line => captureRow line line.wrapped

end TerminalState

lemma pushAll_trimEnd (lines : List Line) (unwrapper : TextUnwrapper) :
    (unwrapper.pushAll lines).map trimEnd =
      linesFrom unwrapper.wrappedLine (lines.map fun line => captureRow line line.wrapped) := by
  induction lines generalizing unwrapper with
  | nil => rfl
  | cons line lines ih =>
    rw [TextUnwrapper.pushAll, List.map_cons, TextUnwrapper.push]
    cases mark : line.wrapped with
    | true =>
      rw [linesFrom_wrapped _ _ rfl, captureRow_text]
      exact ih _
    | false =>
      rw [linesFrom_ends _ _ rfl, captureRow_text]
      show trimEnd (unwrapper.wrappedLine ++ trimEnd line.text) :: _ = _
      rw [trimEnd_append_trimEnd, ih]

lemma pushAll_bytes (lines : List Line) :
    ((TextUnwrapper.new.pushAll lines).map fun line => utf8Len (trimEnd line) + 1).foldl (satAdd (2 ^ 64 - 1)) 0
      = retainedHistoryTextBytes (lines.map fun line => captureRow line line.wrapped) := by
  have joined := pushAll_trimEnd lines .new
  rw [retainedHistoryTextBytes, retainedTextLoop_eq]
  show _ = ((linesFrom TextUnwrapper.new.wrappedLine _).map lineWeight).foldl _ 0
  rw [← joined, List.map_map]
  rfl

namespace TerminalState

variable {E : Emulator}

lemma refreshHistory_captures (t : TerminalState E) (primary : t.historyAlternateScreen = false) :
    t.refreshHistory.primaryHistoryRows.rows = t.capturedRows := by
  unfold refreshHistory
  rw [if_neg (by rw [primary]; exact Bool.false_ne_true)]
  show (t.primaryHistoryRows.replace t.capturedRows).rows = _
  unfold PhysicalHistory.replace
  split
  case isTrue same => exact same
  case isFalse => rfl

lemma currentHistoryBytes_primary (t : TerminalState E) (primary : t.historyAlternateScreen = false) :
    t.currentHistoryBytes = retainedHistoryTextBytes t.capturedRows := by
  unfold currentHistoryBytes
  rw [if_neg (by rw [primary]; exact Bool.false_ne_true)]
  exact pushAll_bytes t.retainedLines

end TerminalState

/-- Normalization keeps the newest complete logical lines within the byte bound, the byte count adds up all of
    them, and the daemon's statistics agree with the rows of the primary buffer, captured now or, while the
    alternate buffer is active, before. -/
theorem history_text_accounting :
    (∀ rows, Newest lineWeight maxNormalizedHistoryBytes (completeLines rows) (normalizeHistoryRows rows)) ∧
      (∀ rows, retainedHistoryTextBytes rows = min (weigh lineWeight (completeLines rows)) (2 ^ 64 - 1)) ∧
      (∀ lines : List Line,
        ((TextUnwrapper.new.pushAll lines).map fun line => utf8Len (trimEnd line) + 1).foldl (satAdd (2 ^ 64 - 1)) 0
          = retainedHistoryTextBytes (lines.map fun line => captureRow line line.wrapped)) ∧
      ∀ (E : Emulator) (t : TerminalState E), (t.retainedHistoryStatistics none).1 =
        retainedHistoryTextBytes (if t.historyAlternateScreen then t.primaryHistoryRows.rows
          else t.refreshHistory.primaryHistoryRows.rows) := by
  refine ⟨normalizeHistoryRows_newest, retainedHistoryTextBytes_eq, pushAll_bytes, fun E t => ?_⟩
  show t.currentHistoryBytes = _
  cases primary : t.historyAlternateScreen with
  | true =>
    unfold TerminalState.currentHistoryBytes
    rw [if_pos primary, if_pos rfl]
  | false =>
    rw [if_neg Bool.false_ne_true, t.refreshHistory_captures primary]
    exact t.currentHistoryBytes_primary primary

end Ctl.Daemon
