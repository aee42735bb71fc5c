import Ctl.Avt.Buffer
import Ctl.Avt.Parser

/-!
# The terminal of the emulator

Model of `ctmux/avt/src/terminal.rs` with `charset.rs`, `tabs.rs`, `terminal/cursor.rs` and
`terminal/dirty_lines.rs`: two buffers with a cursor, a pen, modes, margins and tab stops, and what a
control function does to them.

The display width of a character is a parameter `width`, as for a line. Tab stops are sorted, so that
looking for one is a walk.
-/

namespace Ctl.Avt

/-! ### Character sets -/

/-- `SPECIAL_GFX_CHARS`. -/
def specialGfxChars : List Char := "♦▒␉␌␍␊°±␤␋┘┐┌└┼⎺⎻─⎼⎽├┤┴┬│≤≥π≠£⋅".toList

/-- Rust `Charset::translate`. -/
def Charset.translate (charset : Charset) (c : Char) : Char :=
  match charset with
  | .ascii => c
  | .drawing =>
    if 0x60 ≤ c.toNat ∧ c.toNat < 0x7f then (specialGfxChars[c.toNat - 0x60]?).getD c else c

/-! ### Tab stops -/

/-- The numbers from `start` to `stop` in steps of eight. -/
def stepsOfEight (start stop : Nat) : List Nat := List.range' start ((stop - start + 7) / 8) 8

/-- Rust `Tabs`. -/
abbrev Tabs : Type := List Nat

namespace Tabs

/-- Rust `Tabs::new`. -/
def new (cols : Nat) : Tabs := stepsOfEight 8 cols

variable (tabs : Tabs) (pos : Nat)

/-- Rust `set`. -/
def set : Tabs :=
  if pos ∈ tabs then tabs else tabs.takeWhile (· < pos) ++ pos :: tabs.dropWhile (· < pos)

/-- Rust `unset`. -/
def unset : Tabs := tabs.erase pos

/-- Rust `expand`. -/
def expand (start stop : Nat) : Tabs := tabs ++ stepsOfEight (start + (8 - start % 8)) stop

/-- Rust `contract`. -/
def contract : Tabs := tabs.takeWhile (· < pos)

/-- Rust `before`. -/
def before (n : Nat) : Option Nat := (tabs.reverse.dropWhile (pos ≤ ·))[n - 1]?

/-- Rust `after`. -/
def after (n : Nat) : Option Nat := (tabs.dropWhile (· ≤ pos))[n - 1]?

end Tabs

/-! ### The terminal -/

/-- Rust `Cursor`. -/
structure Cursor where
  col : Nat
  row : Nat
  visible : Bool
  deriving DecidableEq

/-- Rust `BufferType`. -/
inductive BufferType
  | primary | alternate
  deriving DecidableEq

/-- Rust `CursorKeysMode`. -/
inductive CursorKeysMode
  | normal | application
  deriving DecidableEq

/-- Rust `SavedCtx`. -/
structure SavedCtx where
  cursorCol : Nat
  cursorRow : Nat
  pen : Pen
  originMode : Bool
  autoWrapMode : Bool
  deriving DecidableEq

/-- Rust `SavedCtx::default`. -/
def SavedCtx.default : SavedCtx := ⟨0, 0, .default, false, true⟩

/-- Rust `is_default`. -/
def SavedCtx.isDefault (ctx : SavedCtx) : Bool := ctx = .default

/-- Rust `Terminal`. -/
structure Terminal where
  cols : Nat
  rows : Nat
  buffer : Buffer
  otherBuffer : Buffer
  activeBufferType : BufferType
  scrollbackLimit : Option Nat
  cursor : Cursor
  pen : Pen
  /-- The sets in the slots G0 and G1. -/
  charsets : Charset × Charset
  /-- The slot that is printed from is G1. -/
  activeCharset : Bool
  tabs : Tabs
  insertMode : Bool
  originMode : Bool
  autoWrapMode : Bool
  newLineMode : Bool
  cursorKeysMode : CursorKeysMode
  topMargin : Nat
  bottomMargin : Nat
  savedCtx : SavedCtx
  alternateSavedCtx : SavedCtx
  dirtyLines : List Bool
  xtwinops : Bool
  reflowCursorLine : Bool
  deriving DecidableEq

/-- A parameter, or a default if it is zero (Rust `as_usize`). -/
def asUsize (value default : Nat) : Nat := if value = 0 then default else value

namespace Terminal

variable (t : Terminal) (width : Char → Option Nat) (n : Nat) (modes : List AnsiMode) (cols rows : Nat)

/-- Rust `Terminal::new`. -/
def new (scrollbackLimit : Option Nat) : Terminal where
  cols := cols
  rows := rows
  buffer := .new cols rows scrollbackLimit none
  otherBuffer := .new cols rows (some 0) none
  activeBufferType := .primary
  scrollbackLimit := scrollbackLimit
  cursor := ⟨0, 0, true⟩
  pen := .default
  charsets := (.ascii, .ascii)
  activeCharset := false
  tabs := .new cols
  insertMode := false
  originMode := false
  autoWrapMode := true
  newLineMode := false
  cursorKeysMode := .normal
  topMargin := 0
  bottomMargin := rows - 1
  savedCtx := .default
  alternateSavedCtx := .default
  dirtyLines := List.replicate rows true
  xtwinops := false
  reflowCursorLine := true

/-- The buffer with the scrollback (Rust `primary_buffer`). -/
def primaryBuffer : Buffer :=
  if t.activeBufferType = .primary then t.buffer else t.otherBuffer

/-- Rust `alternate_buffer`. -/
def alternateBuffer : Buffer :=
  if t.activeBufferType = .alternate then t.buffer else t.otherBuffer

/-- Mark rows as changed (Rust `DirtyLines::extend`). -/
def dirty (t : Terminal) (start stop : Nat) : Terminal :=
  { t with dirtyLines := t.dirtyLines.mapIdx fun i dirty => dirty || (start ≤ i && i < stop) }

/-- Rust `gc`. -/
def gc : Terminal := { t with buffer := t.buffer.gc }

/-- Forget the changed rows (Rust `changes`). -/
def changes : Terminal := { t with dirtyLines := t.dirtyLines.map fun _ => false }

/-! ### Cursor -/

def setCursor (col row : Nat) : Terminal :=
  { t with cursor := ⟨col, row, t.cursor.visible⟩ }

/-- Rust `save_cursor`. -/
def saveCursor : Terminal :=
  { t with savedCtx :=
      ⟨min t.cursor.col (t.cols - 1), t.cursor.row, t.pen, t.originMode, t.autoWrapMode⟩ }

/-- Rust `restore_cursor`. -/
def restoreCursor : Terminal :=
  { t with
    cursor := ⟨t.savedCtx.cursorCol, t.savedCtx.cursorRow, t.cursor.visible⟩
    pen := t.savedCtx.pen
    originMode := t.savedCtx.originMode
    autoWrapMode := t.savedCtx.autoWrapMode }

/-- Rust `actual_top_margin`. -/
def actualTopMargin : Nat := if t.originMode then t.topMargin else 0

/-- Rust `actual_bottom_margin`. -/
def actualBottomMargin : Nat := if t.originMode then t.bottomMargin else t.rows - 1

/-- Rust `move_cursor_to_col`. -/
def moveCursorToCol (col : Nat) : Terminal :=
  t.setCursor (if t.cols ≤ col then t.cols - 1 else col) t.cursor.row

/-- Rust `do_move_cursor_to_row`. -/
def doMoveCursorToRow (row : Nat) : Terminal :=
  t.setCursor (min t.cursor.col (t.cols - 1)) row

/-- Rust `move_cursor_to_row`. -/
def moveCursorToRow (row : Nat) : Terminal :=
  t.doMoveCursorToRow (min (max (t.actualTopMargin + row) t.actualTopMargin) t.actualBottomMargin)

/-- Rust `move_cursor_to_rel_col`. -/
def moveCursorToRelCol (relCol : Int) : Terminal :=
  let newCol : Int := t.cursor.col + relCol
  t.setCursor (if newCol < 0 then 0 else if t.cols ≤ newCol.toNat then t.cols - 1 else newCol.toNat)
    t.cursor.row

/-- Rust `move_cursor_home`. -/
def moveCursorHome : Terminal :=
  (t.setCursor 0 t.cursor.row).doMoveCursorToRow t.actualTopMargin

/-- Rust `move_cursor_to_next_tab`. -/
def moveCursorToNextTab : Terminal :=
  t.moveCursorToCol ((t.tabs.after t.cursor.col n).getD (t.cols - 1))

/-- Rust `move_cursor_to_prev_tab`. -/
def moveCursorToPrevTab : Terminal :=
  t.moveCursorToCol ((t.tabs.before t.cursor.col n).getD 0)

/-- Rust `cursor_down`. -/
def cursorDown : Terminal :=
  t.doMoveCursorToRow (min (if t.bottomMargin < t.cursor.row then t.rows - 1 else t.bottomMargin)
    (t.cursor.row + n))

/-- Rust `cursor_up`. -/
def cursorUp : Terminal :=
  t.doMoveCursorToRow (max (t.cursor.row - n) (if t.cursor.row < t.topMargin then 0 else t.topMargin))

/-! ### Scrolling -/

/-- Rust `scroll_up_in_region`. -/
def scrollUpInRegion : Terminal :=
  { t with buffer := t.buffer.scrollUp t.topMargin (t.bottomMargin + 1) n t.pen }.dirty
    t.topMargin (t.bottomMargin + 1)

/-- Rust `scroll_down_in_region`. -/
def scrollDownInRegion : Terminal :=
  { t with buffer := t.buffer.scrollDown t.topMargin (t.bottomMargin + 1) n t.pen }.dirty
    t.topMargin (t.bottomMargin + 1)

/-- Rust `move_cursor_down_with_scroll`. -/
def moveCursorDownWithScroll : Terminal :=
  if t.cursor.row = t.bottomMargin then t.scrollUpInRegion 1
  else if t.cursor.row < t.rows - 1 then t.doMoveCursorToRow (t.cursor.row + 1)
  else t

/-! ### Buffers -/

/-- Rust `switch_to_alternate_buffer`. -/
def switchToAlternateBuffer : Terminal :=
  match t.activeBufferType with
  | .primary => { t with
      activeBufferType := .alternate
      savedCtx := t.alternateSavedCtx
      alternateSavedCtx := t.savedCtx
      buffer := .new t.cols t.rows (some 0) (some t.pen)
      otherBuffer := t.buffer }.dirty 0 t.rows
  | .alternate => t

/-- Rust `switch_to_primary_buffer`. -/
def switchToPrimaryBuffer : Terminal :=
  match t.activeBufferType with
  | .alternate => { t with
      activeBufferType := .primary
      savedCtx := t.alternateSavedCtx
      alternateSavedCtx := t.savedCtx
      buffer := t.otherBuffer
      otherBuffer := t.buffer }.dirty 0 t.rows
  | .primary => t

/-- Rust `reflow`. -/
def reflow : Terminal :=
  let (buffer, col, row) :=
    if !t.reflowCursorLine && t.activeBufferType = .primary then
      t.buffer.resizePreservingCursor t.cols t.rows (t.cursor.col, t.cursor.row)
    else t.buffer.resize t.cols t.rows (t.cursor.col, t.cursor.row)
  let saved := t.savedCtx
  { t with
    buffer := buffer
    cursor := ⟨col, row, t.cursor.visible⟩
    dirtyLines := List.replicate t.rows true
    savedCtx := { saved with
      cursorCol := if t.cols ≤ saved.cursorCol then t.cols - 1 else saved.cursorCol
      cursorRow := if t.rows ≤ saved.cursorRow then t.rows - 1 else saved.cursorRow } }

/-- Rust `resize`. -/
def resize : Terminal :=
  let t := if cols < t.cols then { t with tabs := t.tabs.contract cols }
    else if t.cols < cols then { t with tabs := t.tabs.expand t.cols cols } else t
  let t := if rows ≠ t.rows then { t with topMargin := 0, bottomMargin := rows - 1 } else t
  { t with cols := cols, rows := rows }.reflow

/-- Rust `soft_reset`. -/
def softReset : Terminal :=
  { t with
    cursor := { t.cursor with visible := true }
    topMargin := 0
    bottomMargin := t.rows - 1
    insertMode := false
    originMode := false
    pen := .default
    charsets := (.ascii, .ascii)
    activeCharset := false
    savedCtx := .default }

/-- Everything but the size, the scrollback limit and two settings is as in a new terminal
    (Rust `hard_reset`). -/
def hardReset : Terminal :=
  { new t.cols t.rows t.scrollbackLimit with
    xtwinops := t.xtwinops
    reflowCursorLine := t.reflowCursorLine }

/-! ### Printing -/

/-- Rust `try_print`. -/
def tryPrint (t : Terminal) (ch : Char) : Terminal × Option Nat :=
  if t.cols ≤ t.cursor.col then (t, none)
  else
    let buffer := if t.insertMode then t.buffer.shiftRight t.cursor.col t.cursor.row 1 t.pen else t.buffer
    let printed := buffer.print width t.cursor.col t.cursor.row ch t.pen
    ({ t with buffer := printed.1 }, printed.2)

/-- Rust `advance_cursor_after_print`. -/
def advanceCursorAfterPrint (width : Nat) : Terminal :=
  let col := t.cursor.col + width
  t.setCursor (if col = t.cols ∧ !t.autoWrapMode then t.cols - 1 else col) t.cursor.row

/-- The first step of `wrap_and_print_at_line_start`: go to the next row. -/
def wrapRow : Terminal :=
  if t.cursor.row = t.bottomMargin then
    { t with buffer := t.buffer.wrap t.cursor.row }.scrollUpInRegion 1
  else if t.cursor.row < t.rows - 1 then
    { t with buffer := t.buffer.wrap t.cursor.row }.setCursor t.cursor.col (t.cursor.row + 1)
  else t

/-- Rust `wrap_and_print_at_line_start`. -/
def wrapAndPrintAtLineStart (t : Terminal) (ch : Char) : Terminal :=
  let t := t.wrapRow
  let printed := t.buffer.print width 0 t.cursor.row ch t.pen
  { t with buffer := printed.1 }.setCursor (printed.2.getD 0) t.cursor.row

/-- Rust `print_at_line_end`. -/
def printAtLineEnd (t : Terminal) (ch : Char) : Terminal :=
  let t := if 0 < t.cursor.col then
      let col := t.cursor.col - 1
      let printed := t.buffer.print width col t.cursor.row ch t.pen
      if printed.2.isNone && 0 < col then
        { t with buffer := (printed.1.print width (col - 1) t.cursor.row ch t.pen).1 }
      else { t with buffer := printed.1 }
    else t
  t.setCursor (t.cols - 1) t.cursor.row

/-- Rust `print`. -/
def print (t : Terminal) (ch : Char) : Terminal :=
  let ch := (if t.activeCharset then t.charsets.2 else t.charsets.1).translate ch
  let t := match t.tryPrint width ch with
    | (t, some width) => t.advanceCursorAfterPrint width
    | (t, none) => if t.autoWrapMode then t.wrapAndPrintAtLineStart width ch else t.printAtLineEnd width ch
  t.dirty t.cursor.row (t.cursor.row + 1)

/-! ### Functions -/

/-- Rust `bs`. -/
def bs : Terminal := t.moveCursorToRelCol (if t.cursor.col = t.cols then -2 else -1)

/-- Rust `ht`. -/
def ht : Terminal := t.moveCursorToNextTab 1

/-- Rust `lf`. -/
def lf : Terminal :=
  let t := t.moveCursorDownWithScroll
  if t.newLineMode then t.setCursor 0 t.cursor.row else t

/-- Rust `cr`. -/
def cr : Terminal := t.setCursor 0 t.cursor.row

/-- Rust `so`. -/
def so : Terminal := { t with activeCharset := true }

/-- Rust `si`. -/
def si : Terminal := { t with activeCharset := false }

/-- Rust `nel`. -/
def nel : Terminal := t.moveCursorDownWithScroll.cr

/-- Rust `set_tab`. -/
def setTab : Terminal :=
  if 0 < t.cursor.col ∧ t.cursor.col < t.cols then { t with tabs := t.tabs.set t.cursor.col } else t

/-- Rust `clear_tab`. -/
def clearTab : Terminal := { t with tabs := t.tabs.unset t.cursor.col }

/-- Rust `clear_all_tabs`. -/
def clearAllTabs : Terminal := { t with tabs := [] }

/-- Rust `ri`. -/
def ri : Terminal :=
  if t.cursor.row = t.topMargin then t.scrollDownInRegion 1
  else if 0 < t.cursor.row then t.moveCursorToRow (t.cursor.row - 1)
  else t

/-- Rust `decaln`. -/
def decaln (t : Terminal) : Terminal :=
  let printRow (buffer : Buffer) (row : Nat) : Buffer :=
    (List.range t.cols).foldl (fun buffer col => (buffer.print width col row 'E' .default).1) buffer
  { t with buffer := (List.range t.rows).foldl printRow t.buffer }.dirty 0 t.rows

/-- Rust `gzd4`. -/
def gzd4 (charset : Charset) : Terminal := { t with charsets := (charset, t.charsets.2) }

/-- Rust `g1d4`. -/
def g1d4 (charset : Charset) : Terminal := { t with charsets := (t.charsets.1, charset) }

/-- Rust `ich`. -/
def ich (t : Terminal) (n : Nat) : Terminal :=
  let col := if t.cursor.col = t.cols then t.cols - 1 else t.cursor.col
  let n := min (asUsize n 1) (t.cols - col)
  let buffer := (List.range' col n).foldl
    (fun buffer col => (buffer.print width col t.cursor.row ' ' t.pen).1)
    (t.buffer.shiftRight col t.cursor.row n t.pen)
  ({ t with buffer := buffer }.setCursor col t.cursor.row).dirty t.cursor.row (t.cursor.row + 1)

/-- Rust `cuf`. -/
def cuf : Terminal := t.moveCursorToRelCol (asUsize n 1)

/-- Rust `cub`. -/
def cub : Terminal :=
  t.moveCursorToRelCol (-(asUsize n 1 : Int) - if t.cursor.col = t.cols then 1 else 0)

/-- Rust `cha`. -/
def cha : Terminal := t.moveCursorToCol (asUsize n 1 - 1)

/-- Rust `cup`. -/
def cup (row col : Nat) : Terminal :=
  (t.moveCursorToCol (asUsize col 1 - 1)).moveCursorToRow (asUsize row 1 - 1)

def erase (mode : EraseMode) (start stop : Nat) : Terminal :=
  { t with buffer := t.buffer.erase t.cursor.col t.cursor.row mode t.pen }.dirty start stop

/-- Rust `ed`. -/
def ed : EdScope → Terminal
  | .below => t.erase .fromCursorToEndOfView t.cursor.row t.rows
  | .above => t.erase .fromStartOfViewToCursor 0 (t.cursor.row + 1)
  | .all => t.erase .wholeView 0 t.rows
  | .savedLines => t

/-- Rust `el`. -/
def el : ElScope → Terminal
  | .toRight => t.erase .fromCursorToEndOfLine t.cursor.row (t.cursor.row + 1)
  | .toLeft => t.erase .fromStartOfLineToCursor t.cursor.row (t.cursor.row + 1)
  | .all => t.erase .wholeLine t.cursor.row (t.cursor.row + 1)

def scrollEnd : Nat :=
  if t.cursor.row ≤ t.bottomMargin then t.bottomMargin + 1 else t.rows

/-- Rust `il`. -/
def il : Terminal :=
  { t with buffer := t.buffer.scrollDown t.cursor.row t.scrollEnd (asUsize n 1) t.pen }.dirty
    t.cursor.row t.scrollEnd

/-- Rust `dl`. -/
def dl : Terminal :=
  { t with buffer := t.buffer.scrollUp t.cursor.row t.scrollEnd (asUsize n 1) t.pen }.dirty
    t.cursor.row t.scrollEnd

/-- Rust `dch`. -/
def dch : Terminal :=
  let t := if t.cols ≤ t.cursor.col then t.moveCursorToCol (t.cols - 1) else t
  { t with buffer := t.buffer.delete t.cursor.col t.cursor.row (asUsize n 1) t.pen }.dirty
    t.cursor.row (t.cursor.row + 1)

/-- Rust `ctc`. -/
def ctc : CtcOp → Terminal
  | .set => t.setTab
  | .clearCurrentColumn => t.clearTab
  | .clearAll => t.clearAllTabs

/-- Rust `tbc`. -/
def tbc : TbcScope → Terminal
  | .currentColumn => t.clearTab
  | .all => t.clearAllTabs

/-- The loop of `rep`: the column of the character before the cursor. -/
def lastPrinted (b : Buffer) (row : Nat) : (col : Nat) → Nat
  | 0 => 0
  | col + 1 => if (b.cell (col + 1) row).occupancy = .wideTail then lastPrinted b row col else col + 1

/-- Rust `rep`. -/
def rep (t : Terminal) (n : Nat) : Terminal :=
  if 0 < t.cursor.col then
    let col := lastPrinted t.buffer t.cursor.row (t.cursor.col - 1)
    let ch := (t.buffer.cell col t.cursor.row).char
    (List.replicate (asUsize n 1) ch).foldl (fun t ch => t.print width ch) t
  else t

/-- The loop of `sm` and `rm`. -/
def setAnsiModes (enabled : Bool) : Terminal :=
  modes.foldl
    (fun t mode => match mode with
      | .insert => { t with insertMode := enabled }
      | .newLine => { t with newLineMode := enabled }) t

/-- Rust `sm`. -/
def sm : Terminal := t.setAnsiModes modes true

/-- Rust `rm`. -/
def rm : Terminal := t.setAnsiModes modes false

/-- One operation of `sgr`. -/
def penAfter (pen : Pen) : SgrOp → Pen
  | .reset => .default
  | .setBoldIntensity => { pen with intensity := .bold }
  | .setFaintIntensity => { pen with intensity := .faint }
  | .setItalic => { pen with italic := true }
  | .setUnderline => { pen with underline := true }
  | .setBlink => { pen with blink := true }
  | .setInverse => { pen with inverse := true }
  | .setStrikethrough => { pen with strikethrough := true }
  | .resetIntensity => { pen with intensity := .normal }
  | .resetItalic => { pen with italic := false }
  | .resetUnderline => { pen with underline := false }
  | .resetBlink => { pen with blink := false }
  | .resetInverse => { pen with inverse := false }
  | .resetStrikethrough => { pen with strikethrough := false }
  | .setForegroundColor color => { pen with foreground := some color }
  | .resetForegroundColor => { pen with foreground := none }
  | .setBackgroundColor color => { pen with background := some color }
  | .resetBackgroundColor => { pen with background := none }

/-- Rust `sgr`. -/
def sgr (ops : List SgrOp) : Terminal := { t with pen := ops.foldl penAfter t.pen }

/-- Rust `decstbm`. -/
def decstbm (top bottom : Nat) : Terminal :=
  let top := asUsize top 1 - 1
  let bottom := asUsize bottom t.rows - 1
  let t := if top < bottom ∧ bottom < t.rows then { t with topMargin := top, bottomMargin := bottom } else t
  t.moveCursorHome

/-- Rust `xtwinops`. -/
def resizeWindow : Terminal :=
  if t.xtwinops then t.resize (asUsize cols t.cols) (asUsize rows t.rows) else t

/-- One mode of `decset`. -/
def setDecMode : DecMode → Terminal
  | .cursorKeys => { t with cursorKeysMode := .application }
  | .origin => { t with originMode := true }.moveCursorHome
  | .autoWrap => { t with autoWrapMode := true }
  | .textCursorEnable => { t with cursor := { t.cursor with visible := true } }
  | .altScreenBuffer => t.switchToAlternateBuffer.reflow
  | .saveCursor => t.saveCursor
  | .saveCursorAltScreenBuffer => t.saveCursor.switchToAlternateBuffer.reflow

/-- One mode of `decrst`. -/
def resetDecMode : DecMode → Terminal
  | .cursorKeys => { t with cursorKeysMode := .normal }
  | .origin => { t with originMode := false }.moveCursorHome
  | .autoWrap => { t with autoWrapMode := false }
  | .textCursorEnable => { t with cursor := { t.cursor with visible := false } }
  | .altScreenBuffer => t.switchToPrimaryBuffer.reflow
  | .saveCursor => t.restoreCursor
  | .saveCursorAltScreenBuffer => t.switchToPrimaryBuffer.restoreCursor.reflow

/-- Rust `execute`. -/
def execute (t : Terminal) : Function → Terminal
  | .bs => t.bs
  | .cbt n => t.moveCursorToPrevTab (asUsize n 1)
  | .cha n => t.cha n
  | .cht n => t.moveCursorToNextTab (asUsize n 1)
  | .cnl n => (t.cursorDown (asUsize n 1)).cr
  | .cpl n => (t.cursorUp (asUsize n 1)).cr
  | .cr => t.cr
  | .ctc op => t.ctc op
  | .cub n => t.cub n
  | .cud n => t.cursorDown (asUsize n 1)
  | .cuf n => t.cuf n
  | .cup row col => t.cup row col
  | .cuu n => t.cursorUp (asUsize n 1)
  | .dch n => t.dch n
  | .decaln => t.decaln width
  | .decrc => t.restoreCursor
  | .decrst modes => modes.foldl resetDecMode t
  | .decsc => t.saveCursor
  | .decset modes => modes.foldl setDecMode t
  | .decstbm top bottom => t.decstbm top bottom
  | .decstr => t.softReset
  | .dl n => t.dl n
  | .ech n => t.erase (.nextChars (asUsize n 1)) t.cursor.row (t.cursor.row + 1)
  | .ed scope => t.ed scope
  | .el scope => t.el scope
  | .g1d4 charset => t.g1d4 charset
  | .gzd4 charset => t.gzd4 charset
  | .ht => t.ht
  | .hts => t.setTab
  | .ich n => t.ich width n
  | .il n => t.il n
  | .lf => t.lf
  | .nel => t.nel
  | .print ch => t.print width ch
  | .rep n => t.rep width n
  | .ri => t.ri
  | .ris => t.hardReset
  | .rm modes => t.rm modes
  | .scorc => t.restoreCursor
  | .scosc => t.saveCursor
  | .sd n => t.scrollDownInRegion (asUsize n 1)
  | .sgr ops => t.sgr ops
  | .si => t.si
  | .sm modes => t.sm modes
  | .so => t.so
  | .su n => t.scrollUpInRegion (asUsize n 1)
  | .tbc scope => t.tbc scope
  | .vpa n => t.moveCursorToRow (asUsize n 1 - 1)
  | .vpr n => t.cursorDown (asUsize n 1)
  | .xtwinops cols rows => t.resizeWindow cols rows

end Terminal

end Ctl.Avt
