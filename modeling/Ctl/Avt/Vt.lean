import Ctl.Avt.Terminal

/-!
# The emulator and its dump

Model of the dumping half of `ctmux/avt/src/terminal.rs` and of `ctmux/avt/src/vt.rs`: the emulator is a
parser in front of a terminal, and its dump is a text that brings a new emulator to the same screen.

Sizes are 16-bit numbers, so that every parameter of a dump is one and `as_u16` never fails.
-/

namespace Ctl.Avt

/-! ### Pens -/

/-- Rust `to_sgr_ops`. -/
def toSgrOps (pen : Pen) : List SgrOp :=
  .reset :: (pen.foreground.map .setForegroundColor).toList ++
    (pen.background.map .setBackgroundColor).toList ++
    (match pen.intensity with
      | .normal => []
      | .bold => [SgrOp.setBoldIntensity]
      | .faint => [SgrOp.setFaintIntensity]) ++
    (if pen.italic then [SgrOp.setItalic] else []) ++
    (if pen.underline then [SgrOp.setUnderline] else []) ++
    (if pen.blink then [SgrOp.setBlink] else []) ++
    (if pen.inverse then [SgrOp.setInverse] else []) ++
    (if pen.strikethrough then [SgrOp.setStrikethrough] else [])

/-- Rust `to_sgr`. -/
def toSgr (pen : Pen) : Function := .sgr (toSgrOps pen)

/-- Rust `push_attr_diff`. -/
def attrDiff (old new : Bool) (set unset : SgrOp) : List SgrOp :=
  if old ≠ new then [if new then set else unset] else []

/-- Rust `to_sgr_diff_ops`. -/
def toSgrDiffOps (old new : Pen) : List SgrOp :=
  (if old.intensity ≠ new.intensity then
    [match new.intensity with
      | .normal => SgrOp.resetIntensity
      | .bold => SgrOp.setBoldIntensity
      | .faint => SgrOp.setFaintIntensity] else []) ++
  (if old.foreground ≠ new.foreground then
    [match new.foreground with
      | some color => SgrOp.setForegroundColor color
      | none => SgrOp.resetForegroundColor] else []) ++
  (if old.background ≠ new.background then
    [match new.background with
      | some color => SgrOp.setBackgroundColor color
      | none => SgrOp.resetBackgroundColor] else []) ++
  attrDiff old.italic new.italic .setItalic .resetItalic ++
  attrDiff old.underline new.underline .setUnderline .resetUnderline ++
  attrDiff old.blink new.blink .setBlink .resetBlink ++
  attrDiff old.inverse new.inverse .setInverse .resetInverse ++
  attrDiff old.strikethrough new.strikethrough .setStrikethrough .resetStrikethrough

/-- Rust `to_sgr_diff`. -/
def toSgrDiff (old new : Pen) : Option Function :=
  if old = new then none
  else
    let full := toSgrOps new
    let diff := toSgrDiffOps old new
    some (.sgr (if diff.length ≤ full.length then diff else full))

/-! ### Buffers -/

def dumpRun : List Char → List Function
  | [] => []
  | ch :: run =>
    if 5 < run.length + 1 then [.print ch, .rep run.length]
    else List.replicate (run.length + 1) (.print ch)

/-- Rust `dump_cells`. -/
def dumpCells (cells : List Cell) : List Function :=
  ((cells.map (·.char)).splitBy (· == ·)).flatMap dumpRun

def dumpChunks : Pen → List (List Cell) → Pen × List Function
  | pen, [] => (pen, [])
  | pen, cells :: chunks =>
    let next := (cells.head?.map (·.pen)).getD pen
    let (last, functions) := dumpChunks next chunks
    (last, (toSgrDiff pen next).toList ++ dumpCells cells ++ functions)

/-- The lines of a view; `last` is the last row, `i` the row of the first line. -/
def dumpLines (last : Nat) : (i : Nat) → Pen → List Line → List Function
  | _, _, [] => []
  | i, pen, line :: lines =>
    let (pen, functions) := dumpChunks pen (line.chunks fun c1 c2 => c1.pen ≠ c2.pen)
    functions ++ (if i < last ∧ !line.wrapped then [.cr, .lf] else []) ++ dumpLines last (i + 1) pen lines

/-- The number of lines that are dumped; `wrapped` says that a line continues the one before. -/
def cutoff : (i : Nat) → (wrapped : Bool) → List Line → (cutoff : Nat) → Nat
  | _, _, [], found => found
  | i, wrapped, line :: lines, found =>
    cutoff (i + 1) line.wrapped lines (if wrapped || line.wrapped || !line.isBlank then i + 1 else found)

/-- Rust `dump_buffer`. -/
def dumpBuffer (b : Buffer) : List Function :=
  dumpLines (b.rows - 1) 0 .default (b.view.take (cutoff 0 false b.view 0))

namespace Terminal

/-! ### Terminals -/

variable (t : Terminal)

def dumpTabs : List Function :=
  if t.tabs ≠ .new t.cols then
    .ctc .clearAll :: t.tabs.flatMap fun tab => [.cha (tab + 1), .ctc .set]
  else []

def dumpSavedCtx (ctx : SavedCtx) : List Function :=
  if ctx.isDefault then []
  else
    (if !ctx.autoWrapMode then [Function.decrst [.autoWrap]] else []) ++
    (if ctx.originMode then [Function.decset [.origin]] else []) ++
    [.cup (ctx.cursorRow + 1) (ctx.cursorCol + 1), toSgr ctx.pen, .decsc] ++
    (if !ctx.autoWrapMode then [Function.decset [.autoWrap]] else []) ++
    (if ctx.originMode then [Function.decrst [.origin]] else [])

def dumpCursor : List Function :=
  let col := t.cursor.col
  let row := t.cursor.row
  if t.originMode then
    if row < t.topMargin ∨ t.bottomMargin < row then
      .scorc ::
        (if col < t.savedCtx.cursorCol then [Function.cub (t.savedCtx.cursorCol - col)]
          else if t.savedCtx.cursorCol < col then [Function.cuf (col - t.savedCtx.cursorCol)] else []) ++
        (if row < t.savedCtx.cursorRow then [Function.cuu (t.savedCtx.cursorRow - row)]
          else if t.savedCtx.cursorRow < row then [Function.cud (row - t.savedCtx.cursorRow)] else [])
    else [.cup (row - t.topMargin + 1) (col + 1)]
  else [.cup (row + 1) (col + 1)]

def dumpPending : List Function :=
  if t.cols ≤ t.cursor.col then
    let last := t.buffer.cell (t.cols - 1) t.cursor.row
    let previous := t.buffer.cell (t.cols - 2) t.cursor.row
    match last.occupancy with
    | .single => [toSgr last.pen, .print last.char]
    | .wideTail => [.cub 1, toSgr previous.pen, .print previous.char]
    | .wideHead => []
  else []

def dumpModes : List Function :=
  (if !t.cursor.visible then [Function.decrst [.textCursorEnable]] else []) ++
  (if t.charsets.1 = .drawing then [Function.gzd4 .drawing] else []) ++
  (if t.charsets.2 = .drawing then [Function.g1d4 .drawing] else []) ++
  (if t.activeCharset then [Function.so] else []) ++
  (if t.insertMode then [Function.sm [.insert]] else []) ++
  (if !t.autoWrapMode then [Function.decrst [.autoWrap]] else []) ++
  (if t.newLineMode then [Function.sm [.newLine]] else []) ++
  (if t.cursorKeysMode = .application then [Function.decset [.cursorKeys]] else [])

def dumpPrimary (ctx : SavedCtx) : List Function :=
  dumpBuffer t.primaryBuffer ++ t.dumpTabs ++ dumpSavedCtx ctx ++ [toSgr .default]

def dumpSettings : List Function :=
  (if t.originMode then [Function.decset [.origin]] else []) ++
  (if 0 < t.topMargin ∨ t.bottomMargin < t.rows - 1 then
    [Function.decstbm (t.topMargin + 1) (t.bottomMargin + 1)] else []) ++
  t.dumpCursor ++ t.dumpPending ++ [toSgr t.pen] ++ t.dumpModes

/-- Rust `dump`. -/
def dump : List Function :=
  match t.activeBufferType with
  | .primary =>
    t.dumpPrimary t.savedCtx ++
    (if t.alternateSavedCtx.isDefault then []
      else [.decset [.altScreenBuffer]] ++ dumpSavedCtx t.alternateSavedCtx ++ [Function.decrst [.altScreenBuffer]]) ++
    t.dumpSettings
  | .alternate =>
    t.dumpPrimary t.alternateSavedCtx ++
    [.decset [.altScreenBuffer], .cup 1 1] ++ dumpBuffer t.alternateBuffer ++
    dumpSavedCtx t.savedCtx ++
    t.dumpSettings

end Terminal

/-! ### The emulator -/

/-- Rust `Vt`. -/
structure Vt where
  parser : Parser
  terminal : Terminal

namespace Vt

/-- Rust `Builder::build`. -/
def build (cols rows : Nat) (scrollbackLimit : Option Nat) (reflowCursorLine : Bool) : Vt :=
  ⟨.new, { Terminal.new cols rows scrollbackLimit with reflowCursorLine := reflowCursorLine }⟩

variable (width : Char → Option Nat) (vt : Vt)

def run (t : Terminal) : Option Function → Terminal
  | some function => t.execute width function
  | none => t

/-- Rust `feed`. -/
def feed (input : Char) : Vt :=
  let (parser, function) := vt.parser.feed input
  ⟨parser, run width vt.terminal function⟩

def collect : Vt := ⟨vt.parser, vt.terminal.changes.gc⟩

/-- Rust `feed_str`. -/
def feedStr (s : List Char) : Vt :=
  (s.foldl (feed width) vt).collect

/-- Rust `resize`. -/
def resize (cols rows : Nat) : Vt := (⟨vt.parser, vt.terminal.resize cols rows⟩ : Vt).collect

/-- Rust `lines`. -/
def lines : List Line := vt.terminal.buffer.lines

/-- Rust `dump`. -/
def dump : List Char := vt.terminal.dump.flatMap Function.dump ++ vt.parser.dump

end Vt

end Ctl.Avt
