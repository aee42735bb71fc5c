import Ctl.Avt.Vt
import Ctl.Base.Trailing
import Ctl.Client.Projection
import Ctl.Core.RowAnsi
import Ctl.Proto.LogicalLines

/-!
# Restored projections

Model of `restore_projection`, `projection_rows` and `wrapped_history_prefix` in `ctmux/client/src/history.rs`:
an emulator with a scrollback is restored from captured rows and a checkpoint, and its scrollback is captured
again. The width of a character is a parameter.

The last rows of a history may be the beginning of a line whose end is still on the screen; their text is the
wrapped prefix. `completeLines_append` says what it is for: rows that follow complete its line.
-/

namespace Ctl.Client
open Ctl.Base Ctl.Proto Ctl.Avt Ctl.Core

/-! ### The wrapped prefix -/

variable (rows : List TerminalHistoryRow) (width : Char → Option Nat)

/-- The text of the rows that continue in the live grid (Rust `wrapped_history_prefix`). -/
def wrappedHistoryPrefix : Text :=
  rows.foldl (carry (·.wrapped) (·.text)) []

abbrev unfinished : List TerminalHistoryRow := rows.rtakeWhile (·.wrapped)

lemma wrappedHistoryPrefix_eq : wrappedHistoryPrefix rows = rowsText (unfinished rows) := by
  rw [wrappedHistoryPrefix, foldl_carry]
  split
  · rfl
  · rfl

lemma linesFrom_append (pending : Text) (rows next : List TerminalHistoryRow) :
    linesFrom pending (rows ++ next)
      = linesFrom pending rows ++ linesFrom (rows.foldl (carry (·.wrapped) (·.text)) pending) next := by
  induction rows generalizing pending with
  | nil => rfl
  | cons row rows ih =>
    rw [List.cons_append, List.foldl_cons, carry]
    cases mark : row.wrapped with
    | true =>
      rw [linesFrom_wrapped _ _ mark, linesFrom_wrapped _ _ mark, if_pos rfl]
      exact ih _
    | false =>
      rw [linesFrom_ends _ _ mark, linesFrom_ends _ _ mark, if_neg Bool.false_ne_true, ih]
      rfl

lemma completeLines_append (next : List TerminalHistoryRow) :
    completeLines (rows ++ next) = completeLines rows ++ linesFrom (wrappedHistoryPrefix rows) next := by
  rw [← linesFrom_nil, linesFrom_append, linesFrom_nil]
  rfl

/-! ### Projections -/

def captureRows (lines : List Line) : List TerminalHistoryRow := lines.map fun line => captureRow line line.wrapped

/-- The text that draws rows one below the other (the loop of `restore_projection`). -/
def seedText : List TerminalHistoryRow → Except InvalidData Text
  | [] => .ok []
  | row :: rows => do
    let text ← rowAnsi row
    let more ← seedText rows
    return text ++ (if !row.wrapped && !rows.isEmpty then ['\r', '\n'] else []) ++ more

def feedText (columns : Nat) (vt : Vt) (text : Text) : Vt :=
  (projectionChunks text columns).foldl (Vt.feedStr width) vt

/-- Restore the scrollback and the live terminal of a checkpoint (Rust `restore_projection`). -/
def restoreProjection (checkpoint : TerminalCheckpoint) (rows : List TerminalHistoryRow) (scrollbackLimit : Nat) :
    Except InvalidData Vt :=
  let columns := checkpoint.terminalSize.columns.toNat
  let height := checkpoint.terminalSize.rows.toNat
  if columns = 0 ∨ height = 0 then .error ⟨"Unsupported history checkpoint"⟩
  else do
    let primary := ((checkpoint.payload ++ "\x1b[?47l".toList).foldl (Vt.feed width)
      ⟨.new, .new columns height (some 0)⟩).terminal
    let seed ← seedText (rows ++ captureRows primary.buffer.view)
    return feedText width columns
      (feedText width columns (.build columns height (some scrollbackLimit) false) (seed ++ "\x1b[H".toList))
      checkpoint.payload

/-- The scrollback of a projection (Rust `projection_rows`). -/
def projectionRows (vt : Vt) : List TerminalHistoryRow :=
  let vt := vt.feedStr width "\x18\x1b[?47l".toList
  captureRows (vt.lines.take (vt.lines.length - vt.terminal.rows))

end Ctl.Client
