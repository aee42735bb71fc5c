import Ctl.Avt.Line
import Mathlib.Algebra.GroupWithZero.Nat

/-!
# The buffer of the emulator

Model of `ctmux/avt/src/buffer.rs`: the rows of a grid below their scrollback, and how a change of the
width reflows them.

Positions are a column and a row of the view. As for a line, where the source panics on a position
outside of the buffer, a blank is read here and nothing is written.
-/

namespace Ctl.Avt

/-- Rust `Buffer`. -/
structure Buffer where
  lines : List Line
  cols : Nat
  rows : Nat
  scrollbackLimit : Option Nat
  trimNeeded : Bool
  deriving DecidableEq

/-- Rust `EraseMode`. -/
inductive EraseMode
  | nextChars (n : Nat)
  | fromCursorToEndOfView
  | fromStartOfViewToCursor
  | wholeView
  | fromCursorToEndOfLine
  | fromStartOfLineToCursor
  | wholeLine

def Line.unwrap (line : Line) : Line := { line with wrapped := false }

/-! ### Reflowing lines -/

/-- The lines that `Reflow` yields; what is left of a line stands before the others. With two columns or
    more every round takes a line or a cell away, so `fuel` bounds the rounds. -/
def reflowFrom (cols : Nat) : (fuel : Nat) → List Line → List Line
  | 0, _ => []
  | _ + 1, [] => []
  | fuel + 1, line :: lines =>
    if cols < line.len then
      match line.contract cols with
      | (line, some rest) => line :: reflowFrom cols fuel (rest :: lines)
      | (line, none) => line :: reflowFrom cols fuel lines
    else if cols = line.len then line :: reflowFrom cols fuel lines
    else match lines with
      | [] => [(line.expand cols .default).unwrap]
      | next :: lines =>
        match line.extend next cols with
        | (line, true, some rest) => line :: reflowFrom cols fuel (rest :: lines)
        | (line, true, none) => line :: reflowFrom cols fuel lines
        | (line, false, _) => reflowFrom cols fuel (line :: lines)

/-- Rust `reflow`. -/
def reflow (lines : List Line) (cols : Nat) : List Line :=
  reflowFrom cols (lines.length + (lines.map Line.len).sum + 1) lines

namespace Buffer

/-- Rust `Buffer::new`. -/
def new (cols rows : Nat) (scrollbackLimit : Option Nat) (pen : Option Pen) : Buffer :=
  ⟨List.replicate rows (.blank cols (pen.getD .default)), cols, rows, scrollbackLimit, false⟩

variable (b : Buffer) (start stop newCols newRows col : Nat)

/-- Rust `view_offset`. -/
def viewOffset : Nat := b.lines.length - b.rows

/-- Rust `view`. -/
def view : List Line := b.lines.drop b.viewOffset

/-- A row of the view (Rust `Index<usize>`). -/
def line (b : Buffer) (row : Nat) : Line := (b.lines[b.viewOffset + row]?).getD (.blank 0 .default)

/-- A cell of the view (Rust `Index<VisualPosition>`). -/
def cell (row : Nat) : Cell := ((b.line row).cells[col]?).getD (.blank .default)

/-- Change a row of the view (Rust `IndexMut<usize>`). -/
def modifyLine (row : Nat) (f : Line → Line) : Buffer :=
  { b with lines := b.lines.modify (b.viewOffset + row) f }

/-- Turn a range of rows of the view upwards by `n` (Rust `rotate_left` of `IndexMut<Range>`). -/
def rotate (n : Nat) : Buffer :=
  let range := (b.lines.take (b.viewOffset + stop)).drop (b.viewOffset + start)
  { b with lines := b.lines.take (b.viewOffset + start) ++ (range.drop n ++ range.take n) ++
      b.lines.drop (b.viewOffset + stop) }

/-- Rust `print`. -/
def print (width : Char → Option Nat) (b : Buffer) (col row : Nat) (ch : Char) (pen : Pen) : Buffer × Option Nat :=
  let printed := (b.line row).print width col ch pen
  (b.modifyLine row fun _ => printed.1, printed.2)

/-- Rust `wrap`. -/
def wrap (row : Nat) : Buffer := b.modifyLine row fun line => { line with wrapped := true }

/-- Rust `shift_right`. -/
def shiftRight (row n : Nat) (pen : Pen) : Buffer :=
  b.modifyLine row (·.shiftRight col (min n (b.cols - col)) pen)

/-- Rust `delete`. -/
def delete (row n : Nat) (pen : Pen) : Buffer :=
  b.modifyLine row fun line => (line.delete col (min n (b.cols - col)) pen).unwrap

/-- Reset a range of rows of the view (Rust `clear`). -/
def clear (pen : Pen) : Buffer :=
  { b with lines := b.lines.mapIdx fun i line =>
      if b.viewOffset + start ≤ i ∧ i < b.viewOffset + stop then .blank b.cols pen else line }

/-- Append blank rows (Rust `extend`). -/
def extend (n cols : Nat) (pen : Pen) : Buffer :=
  { b with lines := b.lines ++ List.replicate n (.blank cols pen) }

/-- Rust `clear_incoming_wrap`. -/
def clearIncomingWrap (row : Nat) : Buffer :=
  if b.viewOffset + row = 0 then b
  else { b with lines := b.lines.modify (b.viewOffset + row - 1) Line.unwrap }

/-- Rust `erase`. -/
def erase (row : Nat) (mode : EraseMode) (pen : Pen) : Buffer :=
  match mode with
  | .nextChars n => b.modifyLine row (·.clear col (col + min n (b.cols - col)) pen)
  | .fromCursorToEndOfView =>
    let b := if col = 0 then b.clearIncomingWrap row else b
    let b := b.modifyLine row fun line => line.unwrap.clear col b.cols pen
    b.clear (row + 1) b.rows pen
  | .fromStartOfViewToCursor =>
    let b := b.clearIncomingWrap row
    let b := b.modifyLine row (·.clear 0 (min (col + 1) b.cols) pen)
    let b := if b.cols ≤ col + 1 then b.modifyLine row Line.unwrap else b
    b.clear 0 row pen
  | .wholeView => (b.clearIncomingWrap 0).clear 0 b.rows pen
  | .fromCursorToEndOfLine =>
    let b := if col = 0 then b.clearIncomingWrap row else b
    b.modifyLine row (·.clear col b.cols pen)
  | .fromStartOfLineToCursor => b.modifyLine row (·.clear 0 (min (col + 1) b.cols) pen)
  | .wholeLine => (b.clearIncomingWrap row).modifyLine row (·.clear 0 b.cols pen)

/-- Insert blank rows behind the row `stop` of the view. -/
def insertRows (n : Nat) (pen : Pen) : Buffer :=
  { b with lines := b.lines.take (b.viewOffset + stop) ++ List.replicate n (.blank b.cols pen) ++
      b.lines.drop (b.viewOffset + stop) }

/-- Rust `scroll_up`. -/
def scrollUp (n : Nat) (pen : Pen) : Buffer :=
  let n := min n (stop - start)
  let b := if stop - 1 < b.rows - 1 then b.modifyLine (stop - 1) Line.unwrap else b
  let b :=
    if start = 0 then
      if stop = b.rows then b.extend n b.cols pen else b.insertRows stop n pen
    else
      ((b.modifyLine (start - 1) Line.unwrap).rotate start stop n).clear (stop - n) stop pen
  { b with trimNeeded := true }

/-- Rust `scroll_down`; to turn the rows downwards by `n` is to turn them upwards by the others. -/
def scrollDown (n : Nat) (pen : Pen) : Buffer :=
  let n := min n (stop - start)
  let b := (b.rotate start stop (stop - start - n)).clear start (start + n) pen
  let b := if 0 < start then b.modifyLine (start - 1) Line.unwrap else b
  b.modifyLine (stop - 1) Line.unwrap

/-! ### Resizing -/

/-- The position of a cell in its logical line (Rust `logical_position`). -/
def logicalPosition (pos : Nat × Nat) (cols rows : Nat) : Nat × Nat :=
  let absRow := pos.2 + (b.lines.length - rows)
  let (colOffset, logRow) := (b.lines.take absRow).foldl
    (fun (offset, row) line => if line.wrapped then (offset + cols, row) else (0, row + 1))
    (0, absRow - min absRow b.lines.length)
  (pos.1 + colOffset, logRow)

/-- The first loop of `relative_position`: skip the logical lines before `logRow`. -/
def seekRow (logRow lastRow : Nat) : List Line → (r relRow : Nat) → Nat
  | [], _, relRow => relRow
  | line :: lines, r, relRow =>
    if r < logRow ∧ relRow < lastRow then
      seekRow logRow lastRow lines (if line.wrapped then r else r + 1) (relRow + 1)
    else relRow

/-- The second loop of `relative_position`: skip the full rows of the logical line. -/
def seekCol (cols : Nat) : List Line → (relCol relRow : Nat) → Nat × Nat
  | [], relCol, relRow => (relCol, relRow)
  | line :: lines, relCol, relRow =>
    if cols ≤ relCol ∧ line.wrapped then seekCol cols lines (relCol - cols) (relRow + 1)
    else (relCol, relRow)

/-- Rust `relative_position`. -/
def relativePosition (pos : Nat × Nat) (cols rows : Nat) : Nat × Int :=
  let first := seekRow pos.2 (b.lines.length - 1) b.lines 0 0
  let (relCol, relRow) := seekCol cols (b.lines.drop first) pos.1 first
  (min relCol (cols - 1), relRow - (b.lines.length - rows : Nat))

/-- Rust `resize_rows`. -/
def resizeRows (oldRows : Nat) (cursor : Nat × Nat) : Buffer × (Nat × Nat) :=
  let (b, cursor) :=
    if newRows < oldRows then
      let heightDelta := oldRows - newRows
      let excess := min heightDelta (oldRows - 1 - cursor.2)
      let kept := b.lines.take (b.lines.length - excess)
      let b := if 0 < excess then { b with lines := kept.modify (kept.length - 1) Line.unwrap } else b
      (b, (cursor.1, cursor.2 - (heightDelta - excess)))
    else if oldRows < newRows then
      let scrollbackSize := b.lines.length - min oldRows b.lines.length
      let shift := min scrollbackSize (newRows - oldRows)
      let cursor := if cursor.2 < oldRows then (cursor.1, cursor.2 + shift) else cursor
      (b.extend (newRows - oldRows - shift) newCols .default, cursor)
    else (b, cursor)
  ({ b with cols := newCols, rows := newRows, trimNeeded := true }, cursor)

/-- Rust `resize`. -/
def resize (cursor : Nat × Nat) : Buffer × (Nat × Nat) :=
  if newCols = b.cols then b.resizeRows newCols newRows b.rows cursor
  else
    let logical := b.logicalPosition cursor b.cols b.rows
    let b := { b with lines := reflow b.lines newCols }
    let b := b.extend (b.rows - b.lines.length) newCols .default
    let (col, row) := b.relativePosition logical newCols b.rows
    if 0 ≤ row then b.resizeRows newCols newRows b.rows (col, row.toNat)
    else b.resizeRows newCols newRows (b.rows + (-row).toNat) (col, 0)

/-- The first row of the logical line that holds the row before `start` or begins there. -/
def lineStart (lines : List Line) : (start : Nat) → Nat
  | 0 => 0
  | start + 1 =>
    if (lines[start]?).any (·.wrapped) then lineStart lines start else start + 1

/-- The row behind a logical line; the list holds the rows from the one before `stop` on. -/
def lineEnd (count : Nat) : List Line → (stop : Nat) → Nat
  | [], stop => stop
  | line :: lines, stop => if stop < count ∧ line.wrapped then lineEnd count lines (stop + 1) else stop

/-- The rows of a new width, where the rows from `start` to `stop` keep their number, and the row that
    was `cursorRow` (the width change of `resize_preserving_cursor`). -/
def reflowAround (lines : List Line) (newCols start stop cursorRow : Nat) : List Line × Nat :=
  let bottomPadding := ((lines.reverse.take (lines.length - stop)).takeWhile fun line =>
    line.isBlank && !line.wrapped).length
  let before := reflow (lines.take start) newCols
  let active := ((lines.take stop).drop start).map (·.resizePreservingWrap newCols)
  let result := before ++ active ++ reflow (lines.drop stop) newCols
  let paddingToConsume := min (result.length - lines.length) bottomPadding
  (result.take (result.length - paddingToConsume), before.length + cursorRow - start)

/-- Rust `resize_preserving_cursor`. -/
def resizePreservingCursor (cursor : Nat × Nat) : Buffer × (Nat × Nat) :=
  if b.rows ≤ cursor.2 then b.resize newCols newRows cursor
  else if newCols = b.cols then b.resizeRows newCols newRows b.rows cursor
  else
    let cursorRow := b.lines.length - b.rows + cursor.2
    let start := lineStart b.lines cursorRow
    let stop := lineEnd b.lines.length (b.lines.drop cursorRow) (cursorRow + 1)
    let (lines, newCursorRow) := reflowAround b.lines newCols start stop cursorRow
    let b := { b with lines := lines }
    let b := b.extend (b.rows - b.lines.length) newCols .default
    let col := min cursor.1 (newCols - 1)
    let viewOffset := b.lines.length - b.rows
    if viewOffset ≤ newCursorRow then
      b.resizeRows newCols newRows b.rows (col, newCursorRow - viewOffset)
    else b.resizeRows newCols newRows (b.rows + (viewOffset - newCursorRow)) (col, 0)

/-! ### Scrollback -/

/-- Drop the scrollback beyond the limit (Rust `gc` and `trim_scrollback`). -/
def gc : Buffer :=
  if b.trimNeeded then
    match b.scrollbackLimit with
    | some limit =>
      { b with lines := b.lines.drop (b.lines.length - b.rows - limit), trimNeeded := false }
    | none => { b with trimNeeded := false }
  else b

end Buffer

end Ctl.Avt
