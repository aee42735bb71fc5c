import Mathlib.Data.List.Basic

/-!
# Cells and lines of the emulator

Model of `ctmux/avt/src/color.rs`, `pen.rs`, `cell.rs` and `line.rs`: a line is a row of cells, each
with a character, its place in a double-width pair and a pen.

The display width of a character comes from the `unicode-width` crate and is a parameter `width`.
Lines are lists of cells. Where the source indexes past the end of a line it panics; here such an
access reads a blank cell and writes nothing.
-/

namespace Ctl.Avt

/-- A palette index or a direct color (Rust `Color`). -/
inductive Color where
  | indexed (index : UInt8)
  | rgb (r g b : UInt8)
  deriving DecidableEq

/-- The weight of a pen (Rust `Intensity`). -/
inductive Intensity where
  | normal
  | bold
  | faint
  deriving DecidableEq

/-- The attributes with which a cell is drawn; the source keeps the flags as bits of one byte
    (Rust `Pen`). -/
structure Pen where
  foreground : Option Color
  background : Option Color
  intensity : Intensity
  italic : Bool
  underline : Bool
  strikethrough : Bool
  blink : Bool
  inverse : Bool
  deriving DecidableEq

/-- The pen without attributes (Rust `Pen::default`). -/
def Pen.default : Pen := ⟨none, none, .normal, false, false, false, false, false⟩

/-- The pen has no attributes (Rust `is_default`). -/
def Pen.isDefault (pen : Pen) : Bool := pen = .default

/-- The place of a cell in a double-width pair (Rust `Occupancy`). -/
inductive Occupancy where
  | single
  | wideHead
  | wideTail
  deriving DecidableEq

/-- The columns a cell stands for (Rust `Occupancy::width`). -/
def Occupancy.width : Occupancy → Nat
  | .single => 1
  | .wideHead => 2
  | .wideTail => 0

/-- One cell of the grid (Rust `Cell`). -/
structure Cell where
  char : Char
  occupancy : Occupancy
  pen : Pen
  deriving DecidableEq

/-- An empty cell (Rust `Cell::blank`). -/
def Cell.blank (pen : Pen) : Cell := ⟨' ', .single, pen⟩

/-- A cell that was never written (Rust `Cell::is_default`). -/
def Cell.isDefault (cell : Cell) : Bool := cell = .blank .default

/-- One row of the grid (Rust `Line`). -/
structure Line where
  cells : List Cell
  wrapped : Bool
  deriving DecidableEq

namespace Line

/-- An empty row (Rust `Line::blank`). -/
def blank (cols : Nat) (pen : Pen) : Line := ⟨List.replicate cols (.blank pen), false⟩

variable (line : Line) (col : Nat)

/-- The number of cells (Rust `len`). -/
def len : Nat := line.cells.length

/-- The occupancy of the cell in column `col`. -/
def occupancy : Occupancy :=
  ((line.cells[col]?).getD (.blank .default)).occupancy

/-- The pen of the cell in column `col`. -/
def penAt : Pen := ((line.cells[col]?).getD (.blank .default)).pen

/-- Overwrite one cell (Rust `Cell::set`). -/
def set (char : Char) (occupancy : Occupancy) (pen : Pen) : Line :=
  { line with cells := line.cells.set col ⟨char, occupancy, pen⟩ }

/-- Overwrite the cells of the columns from `start` to `stop`. -/
def fill (start stop : Nat) (cell : Cell) : Line :=
  { line with cells := line.cells.mapIdx fun i c => if start ≤ i ∧ i < stop then cell else c }

/-- Erase a range of columns, and the halves it leaves of double-width characters
    (Rust `clear`). -/
def clear (start stop : Nat) (pen : Pen) : Line :=
  if start = line.len then line else
  let line := if line.occupancy start = .wideTail then line.set (start - 1) ' ' .single pen else line
  let line := line.fill start stop (.blank pen)
  if line.occupancy stop = .wideTail then line.set stop ' ' .single pen else line

/-- The width of a character on the grid, one or two columns (Rust `char_display_width`). -/
def charDisplayWidth (width : Char → Option Nat) (ch : Char) : Nat :=
  if ch ≤ '\x7e' ∨ (width ch).getD 1 ≠ 2 then 1 else 2

def printWide (ch : Char) (pen : Pen) (remaining : Nat) : Line :=
  let line := line.set col ch .wideHead pen
  let line := if 1 < remaining ∧ line.occupancy (col + 1) = .wideHead then
    line.set (col + 2) ' ' .single pen else line
  line.set (col + 1) ' ' .wideTail pen

/-- Print a character; returns its width, or `none` when a double-width character does not fit
    (Rust `print`). -/
def print (width : Char → Option Nat) (line : Line) (col : Nat) (ch : Char) (pen : Pen) : Line × Option Nat :=
  let remaining := line.len - 1 - col
  match line.occupancy col, charDisplayWidth width ch with
  | .single, 1 => (line.set col ch .single pen, some 1)
  | .single, _ =>
    if remaining = 0 then (line, none) else (line.printWide col ch pen remaining, some 2)
  | .wideHead, 1 => ((line.set col ch .single pen).set (col + 1) ' ' .single pen, some 1)
  | .wideHead, _ => ((line.set col ch .wideHead pen).set (col + 1) ' ' .wideTail pen, some 2)
  | .wideTail, 1 => ((line.set (col - 1) ' ' .single pen).set col ch .single pen, some 1)
  | .wideTail, _ =>
    if remaining = 0 then (line, none)
    else ((line.set (col - 1) ' ' .single pen).printWide col ch pen remaining, some 2)

/-- Rotate the cells from column `col` on to the right by `n` (Rust `shift_right`). -/
def shiftRight (n : Nat) (pen : Pen) : Line :=
  let col := min col (line.len - 1)
  let line := if line.occupancy col = .wideTail then
    (line.set col ' ' .single pen).set (col - 1) ' ' .single pen else line
  let tail := line.cells.drop col
  let line := { line with cells := line.cells.take col ++
    (tail.drop (tail.length - n) ++ tail.take (tail.length - n)) }
  if line.occupancy col = .wideTail then
    (line.set col ' ' .single pen).set (line.len - 1) ' ' .single pen
  else line

/-- Remove `n` cells at column `col` and pad the line with blanks (Rust `delete`). -/
def delete (n : Nat) (pen : Pen) : Line :=
  let line := if line.occupancy col = .wideTail then line.set (col - 1) ' ' .single pen else line
  let tail := line.cells.drop col
  let line := { line with cells := line.cells.take col ++ (tail.drop n ++ tail.take n) }
  let line := if line.occupancy col = .wideTail then line.set col ' ' .single pen else line
  line.fill (line.len - n) line.len (.blank pen)

/-- Pad a line with blanks (Rust `expand`). -/
def expand (len : Nat) (pen : Pen) : Line :=
  { line with cells := line.cells ++ List.replicate (len - line.len) (.blank pen) }

/-- The number of trailing cells that were never written (Rust `trailers`). -/
def trailers : Nat := (line.cells.reverse.takeWhile Cell.isDefault).length

/-- Drop the trailing cells that were never written (Rust `trim`). -/
def trim : Line := { line with cells := line.cells.take (line.len - line.trailers) }

/-- No cell was written (Rust `is_blank`). -/
def isBlank : Bool := line.cells.all Cell.isDefault

/-- Append cells of the following line up to `len` columns. Returns the line, whether it is
    finished, and what is left of the other line (Rust `extend`). -/
def extend (other : Line) (len : Nat) : Line × Bool × Option Line :=
  let needed := len - line.len
  if needed = 0 then (line, true, some other)
  else if !line.wrapped then (line.expand len .default, true, some other)
  else
    let other := if other.wrapped then other else other.trim
    if needed < other.len then
      -- A double-width character that straddles the edge moves to the next line as a whole.
      let split := other.occupancy needed = .wideTail
      let line := if split then
        { line with cells := line.cells ++ [⟨' ', .single, line.penAt (line.len - 1)⟩] } else line
      let needed := if split then needed - 1 else needed
      ({ line with cells := line.cells ++ other.cells.take needed }, true,
        some { other with cells := other.cells.drop needed })
    else
      let line := { line with cells := line.cells ++ other.cells }
      if !other.wrapped then
        let line := { line with wrapped := false }
        (if line.len < len then line.expand len .default else line, true, none)
      else (line, false, none)

/-- Cut or pad a line to `cols` columns without moving its wrap flag
    (Rust `resize_preserving_wrap`). -/
def resizePreservingWrap (cols : Nat) : Line :=
  let line := { line with cells := line.cells.take cols }
  let line := if line.occupancy (line.len - 1) = .wideHead then
    line.set (line.len - 1) ' ' .single (line.penAt (line.len - 1)) else line
  line.expand cols .default

/-- Cut a line to `len` columns; returns what does not fit (Rust `contract`). -/
def contract (len : Nat) : Line × Option Line :=
  let line := if line.wrapped then line else
    { line with cells := line.cells.take (max len (line.len - line.trailers)) }
  if line.len ≤ len then (line, none) else
  let boundary := line.occupancy len = .wideTail
  let len := if boundary then len - 1 else len
  let rest : Line := { line with cells := line.cells.drop len }
  let line := { line with cells := line.cells.take len }
  let line := if boundary then
    { line with cells := line.cells ++ [⟨' ', .single, line.penAt (line.len - 1)⟩] } else line
  let rest := if line.wrapped then rest else rest.trim
  if rest.cells.isEmpty then (line, none) else ({ line with wrapped := true }, some rest)

/-- The characters of a line, each double-width character once (Rust `text`). -/
def text : List Char :=
  (line.cells.filter fun c => c.occupancy ≠ .wideTail).map (·.char)

/-- The cells of a line without wide tails, cut wherever `predicate` holds between neighbours
    (Rust `chunks`). -/
def chunks (predicate : Cell → Cell → Bool) : List (List Cell) :=
  (line.cells.filter fun c => c.occupancy ≠ .wideTail).splitBy fun a b => !predicate a b

end Line

/-! ### Double-width characters -/

variable {width : Char → Option Nat}

/-- The character is as wide as its place says; the character of a tail is a space. -/
def Cell.Fits (width : Char → Option Nat) (cell : Cell) : Prop :=
  match cell.occupancy with
  | .single => Line.charDisplayWidth width cell.char = 1
  | .wideHead => Line.charDisplayWidth width cell.char = 2
  | .wideTail => cell.char = ' '

def Cell.Linked (cell next : Cell) : Prop :=
  (cell.occupancy = .wideHead ↔ next.occupancy = .wideTail) ∧ (cell.occupancy = .wideHead → next.pen = cell.pen)

namespace Line

def cellAt (line : Line) (col : Nat) : Cell := (line.cells[col]?).getD (.blank .default)

structure Paired (width : Char → Option Nat) (line : Line) : Prop where
  fits : ∀ col, (line.cellAt col).Fits width
  start : (line.cellAt 0).occupancy ≠ .wideTail
  linked : ∀ col, (line.cellAt col).Linked (line.cellAt (col + 1))

lemma occupancy_eq (line : Line) (col : Nat) : line.occupancy col = (line.cellAt col).occupancy := rfl

lemma Paired.head {line : Line} (h : line.Paired width) {col : Nat} (tail : line.occupancy col = .wideTail) :
    ∃ n, col = n + 1 ∧ line.occupancy n = .wideHead := by
  cases col with
  | zero => exact absurd tail h.start
  | succ n => exact ⟨n, rfl, (h.linked n).1.2 tail⟩

end Line

end Ctl.Avt
