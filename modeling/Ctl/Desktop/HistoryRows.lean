import Ctl.Base.Utf16
import Ctl.Core.RowAnsi
import Ctl.Proto.LogicalLines

/-!
# History rows on the desktop

Model of `historyRowAnsi` in `apps/desktop/src/features/terminal/historyStyle.ts` and of `terminalHistoryBytes` in
`historyBytes.ts`. A row comes as JSON (`wireRow`), its text as a string of UTF-16 code units. A row of less than
2^32 characters is drawn with the text that `rowAnsi` gives, and refused when `validateHistoryRow` refuses it
(`historyRowAnsi_agrees`). A longer row is refused by the daemon's code only (`historyRowAnsi_long`). The history
above the screen is counted as `retainedHistoryTextBytes` counts its rows (`terminalHistoryBytes_agrees`).
-/

namespace Ctl.Desktop
open Ctl.Base Ctl.Proto Ctl.Avt Ctl.Core

/-- A thrown `Error`, with its message. -/
structure Thrown where
  message : String

/-! ### Rows as JSON -/

/-- TypeScript `TerminalColor`. -/
inductive HistoryColor where
  | indexed (index : Int)
  | rgb (red green blue : Int)

/-- TypeScript `TerminalStyle`: a property may be undefined. -/
structure HistoryStyle where
  foreground : Option HistoryColor
  background : Option HistoryColor
  bold : Option Bool
  faint : Option Bool
  italic : Option Bool
  underline : Option Bool
  strikethrough : Option Bool
  blink : Option Bool
  inverse : Option Bool

/-- TypeScript `TerminalHistoryStyleSpan`. -/
structure HistoryStyleSpan where
  start : Int
  length : Int
  style : HistoryStyle

/-- TypeScript `TerminalHistoryRow`. -/
structure HistoryRow where
  text : Utf16
  wrapped : Bool
  styles : Option (List HistoryStyleSpan)

def wireColor : TerminalColor → HistoryColor
  | .indexed index => .indexed index.toNat
  | .rgb red green blue => .rgb red.toNat green.toNat blue.toNat

def wireFlag (flag : Bool) : Option Bool := if flag then some true else none

def wireStyle (style : TerminalStyle) : HistoryStyle where
  foreground := style.foreground.map wireColor
  background := style.background.map wireColor
  bold := wireFlag style.bold
  faint := wireFlag style.faint
  italic := wireFlag style.italic
  underline := wireFlag style.underline
  strikethrough := wireFlag style.strikethrough
  blink := wireFlag style.blink
  inverse := wireFlag style.inverse

def wireSpan (span : TerminalHistoryStyleSpan) : HistoryStyleSpan where
  start := span.start
  length := span.length
  style := wireStyle span.style

def wireRow (row : TerminalHistoryRow) : HistoryRow where
  text := utf16 row.text
  wrapped := row.wrapped
  styles := if row.styles.isEmpty then none else some (row.styles.map wireSpan)

/-! ### Drawing a row -/

/-- The attributes with their codes, in the order they are written (TypeScript `attributes`). -/
def attributes : List ((HistoryStyle → Option Bool) × Nat) :=
  [(HistoryStyle.bold, 1), (HistoryStyle.faint, 2), (HistoryStyle.italic, 3), (HistoryStyle.underline, 4),
    (HistoryStyle.blink, 5), (HistoryStyle.inverse, 7), (HistoryStyle.strikethrough, 9)]

/-- TypeScript `byte`. -/
def byte (value : Int) : Except Thrown Nat :=
  if value < 0 ∨ 255 < value then .error ⟨"Invalid history color"⟩ else .ok value.toNat

/-- TypeScript `colorSgr`. -/
def colorSgr (color : Option HistoryColor) (foreground : Bool) : Except Thrown (List Nat) :=
  let target := if foreground then 38 else 48
  match color with
  | none => .ok []
  | some (.indexed index) => do
    let index ← byte index
    .ok [target, 5, index]
  | some (.rgb red green blue) => do
    let red ← byte red
    let green ← byte green
    let blue ← byte blue
    .ok [target, 2, red, green, blue]

/-- TypeScript `styleSgr`. -/
def styleSgr (style : HistoryStyle) : Except Thrown Utf16 := do
  let flags := attributes.filterMap fun (name, code) => if name style = some true then some code else none
  let foreground ← colorSgr style.foreground true
  let background ← colorSgr style.background false
  let values := [0] ++ flags ++ (foreground ++ background)
  .ok (utf16 ('\x1b' :: '[' :: (join ';' (values.map decimal) ++ ['m'])))

/-- The elements between two positions, joined (JavaScript `slice` and `join`). -/
def sliceJoin (characters : List Utf16) (start stop : Int) : Utf16 :=
  ((characters.take stop.toNat).drop start.toNat).flatten

def resetSgr : Utf16 := utf16 ['\x1b', '[', '0', 'm']

/-- The loop of `historyRowAnsi` over the spans, and what follows them. -/
def historySpans (characters : List Utf16) :
    List HistoryStyleSpan → (position : Int) → (ansi : Utf16) → Except Thrown Utf16
  | [], position, ansi => .ok (ansi ++ sliceJoin characters position characters.length)
  | span :: spans, position, ansi =>
    if span.start < position ∨ span.start < 0 ∨ span.length ≤ 0 ∨ 0xffffffff < span.start ∨
        0xffffffff < span.length ∨ characters.length < span.start + span.length then
      .error ⟨"Invalid history style range"⟩
    else do
      let sgr ← styleSgr span.style
      historySpans characters spans (span.start + span.length)
        (ansi ++ (sliceJoin characters position span.start ++ sgr ++
          sliceJoin characters span.start (span.start + span.length) ++ resetSgr))

def isControlUnit (unit : Nat) : Bool := unit ≤ 0x1f || (0x7f ≤ unit && unit ≤ 0x9f)

/-- TypeScript `historyRowAnsi`. -/
def historyRowAnsi (row : HistoryRow) : Except Thrown Utf16 :=
  if row.text.any isControlUnit then .error ⟨"Invalid control character in terminal history"⟩
  else
    match row.styles with
    | none | some [] => .ok row.text
    -- Offsets count scalar values, not code units.
    | some spans => historySpans (codePoints row.text) spans 0 resetSgr

/-! ### The same text -/

lemma byte_toNat (value : UInt8) : byte value.toNat = .ok value.toNat := by
  have small := value.toNat_lt
  unfold byte
  rw [if_neg (by omega)]
  rfl

lemma colorSgr_wire (color : Option TerminalColor) (foreground : Bool) :
    colorSgr (color.map wireColor) foreground =
      .ok (color.map (colorNumbers (if foreground then 38 else 48))).toList.flatten := by
  cases color with
  | none => rfl
  | some color =>
    cases color with
    | indexed index =>
      show (byte index.toNat >>= fun index => _) = _
      rw [byte_toNat]
      rfl
    | rgb red green blue =>
      show (byte red.toNat >>= fun red => byte green.toNat >>= fun green => byte blue.toNat >>= fun blue => _) = _
      rw [byte_toNat, byte_toNat, byte_toNat]
      rfl

lemma attributes_wire (style : TerminalStyle) :
    (attributes.filterMap fun (name, code) => if name (wireStyle style) = some true then some code else none) =
      (((styleFlags style).filter (·.1)).map fun flag => [flag.2.1]).flatten := by
  obtain ⟨_, _, bold, faint, italic, underline, strikethrough, blink, inverse⟩ := style
  cases bold <;> cases faint <;> cases italic <;> cases underline <;> cases strikethrough <;> cases blink <;>
    cases inverse <;> rfl

lemma styleSgr_wire (style : TerminalStyle) : styleSgr (wireStyle style) = .ok (utf16 (sgr style)) := by
  have foreground := colorSgr_wire style.foreground true
  have background := colorSgr_wire style.background false
  unfold styleSgr
  rw [show (wireStyle style).foreground = style.foreground.map wireColor from rfl, foreground,
    show (wireStyle style).background = style.background.map wireColor from rfl, background, attributes_wire,
    sgr_eq, styleNumbers, List.flatten_append, List.flatten_append, List.flatten_cons, List.append_assoc]
  simp only [List.append_assoc]
  rfl

lemma sliceJoin_map (text : Text) (start stop : Nat) :
    sliceJoin (text.map utf16Char) start stop = utf16 ((text.take stop).drop start) := by
  unfold sliceJoin
  rw [Int.toNat_natCast, Int.toNat_natCast, ← List.map_take, ← List.map_drop, flatten_map_utf16Char]

lemma isControlUnit_toNat (c : Char) : isControlUnit c.toNat = isControl c := by
  unfold isControlUnit isControl
  rw [Bool.eq_iff_iff]
  simp only [Bool.or_eq_true, Bool.and_eq_true, decide_eq_true_eq, UInt32.lt_iff_toNat_lt,
    UInt32.le_iff_toNat_le]
  show c.toNat ≤ 0x1f ∨ 0x7f ≤ c.toNat ∧ c.toNat ≤ 0x9f ↔ c.toNat < 0x20 ∨ 0x7f ≤ c.toNat ∧ c.toNat < 0xa0
  omega

lemma any_isControlUnit (text : Text) : (utf16 text).any isControlUnit = text.any isControl := by
  rw [any_utf16]
  · exact congrArg text.any (funext isControlUnit_toNat)
  · intro unit high
    unfold isControlUnit
    rw [Bool.or_eq_false_iff, Bool.and_eq_false_iff, decide_eq_false_iff_not, decide_eq_false_iff_not,
      decide_eq_false_iff_not]
    omega

/-- The loops agree from any position on: both refuse the spans, or what the desktop adds is what `ansiSpans`
    draws. The position is the end of the last span. -/
lemma historySpans_wire {text : Text} (short : text.length < 2 ^ 32) (spans : List TerminalHistoryStyleSpan)
    (position : Nat) (ansi : Utf16) :
    historySpans (text.map utf16Char) (spans.map wireSpan) position ansi =
      match validateSpans text.length spans position with
      | .ok () => .ok (ansi ++ utf16 (ansiSpans spans (text.drop position) position))
      | .error _ => .error ⟨"Invalid history style range"⟩ := by
  induction spans generalizing position ansi with
  | nil =>
    show Except.ok (ansi ++ sliceJoin (text.map utf16Char) position (text.map utf16Char).length) = _
    rw [sliceJoin_map, List.length_map, List.take_length]
    rfl
  | cons span spans ih =>
    rw [List.map_cons, historySpans, validateSpans, List.length_map]
    show (if (span.start : Int) < position ∨ (span.start : Int) < 0 ∨ (span.length : Int) ≤ 0 ∨
      0xffffffff < (span.start : Int) ∨ 0xffffffff < (span.length : Int) ∨
      (text.length : Int) < span.start + span.length then _ else _) = _
    by_cases wide : 2 ^ 32 ≤ span.start + span.length
    · rw [if_pos (by omega), if_pos wide]
    · rw [if_neg wide]
      by_cases outside : span.length = 0 ∨ span.start < position ∨ text.length < span.start + span.length
      · rw [if_pos (by omega), if_pos outside]
      · rw [if_neg (by omega), if_neg outside]
        show (styleSgr (wireStyle span.style) >>= fun sgr => _) = _
        rw [styleSgr_wire]
        show historySpans _ _ ((span.start + span.length : Nat) : Int) _ = _
        rw [ih]
        cases validateSpans text.length spans (span.start + span.length) with
        | error e => rfl
        | ok =>
          have gap : (text.take span.start).drop position = (text.drop position).take (span.start - position) :=
            List.drop_take
          have styled : (text.take (span.start + span.length)).drop span.start =
              (text.drop span.start).take span.length := by
            rw [List.drop_take, Nat.add_sub_cancel_left]
          have rest : (text.drop position).drop (span.start - position) = text.drop span.start := by
            rw [List.drop_drop, Nat.add_sub_cancel' (by omega)]
          have next : (text.drop span.start).drop span.length = text.drop (span.start + span.length) := List.drop_drop
          show Except.ok (ansi ++ (sliceJoin (text.map utf16Char) position span.start ++ utf16 (sgr span.style) ++
            sliceJoin (text.map utf16Char) span.start ((span.start + span.length : Nat) : Int) ++ resetSgr) ++ _) = _
          rw [sliceJoin_map, sliceJoin_map, gap, styled]
          show _ = Except.ok (ansi ++ utf16 (ansiSpans (span :: spans) (text.drop position) position))
          rw [ansiSpans, rest, next]
          simp only [utf16_append, List.append_assoc]
          rfl

lemma historyRowAnsi_wire {row : TerminalHistoryRow} (short : row.text.length < 2 ^ 32) :
    historyRowAnsi (wireRow row) =
      match rowAnsi row with
      | .ok text => .ok (utf16 text)
      | .error _ =>
        if row.text.any isControl then .error ⟨"Invalid control character in terminal history"⟩
        else .error ⟨"Invalid history style range"⟩ := by
  unfold historyRowAnsi rowAnsi validateHistoryRow
  rw [show (wireRow row).text = utf16 row.text from rfl, any_isControlUnit]
  cases control : row.text.any isControl with
  | true => rfl
  | false =>
    rw [if_neg Bool.false_ne_true, if_neg Bool.false_ne_true, if_neg (Nat.not_le_of_lt short)]
    cases styles : row.styles with
    | nil =>
      rw [show (wireRow row).styles = none from by rw [wireRow, styles]; rfl]
      rfl
    | cons span spans =>
      rw [show (wireRow row).styles = some ((span :: spans).map wireSpan) from by rw [wireRow, styles]; rfl]
      show historySpans (codePoints (utf16 row.text)) ((span :: spans).map wireSpan) ((0 : Nat) : Int) resetSgr = _
      rw [codePoints_utf16, historySpans_wire short]
      cases validateSpans row.text.length (span :: spans) 0 with
      | error e => rfl
      | ok => rfl

/-! ### Counting the bytes of the history -/

/-- A row of the emulator's buffer (TypeScript `HistoryBuffer.getLine`). -/
structure BufferLine where
  isWrapped : Bool
  text : Utf16

/-- TypeScript `HistoryBuffer`. -/
structure HistoryBuffer where
  baseY : Nat
  getLine : Nat → Option BufferLine

variable (buffer : HistoryBuffer)

/-- The text of a row, or no text (TypeScript `translateToString(false) ?? ""`). -/
def HistoryBuffer.lineText (row : Nat) : Utf16 :=
  match buffer.getLine row with
  | some line => line.text
  | none => []

def HistoryBuffer.isWrapped (row : Nat) : Bool :=
  match buffer.getLine row with
  | some line => line.isWrapped
  | none => false

/-- The white space of Unicode (the pattern `\p{White_Space}`). -/
def isWhiteSpacePoint (point : Utf16) : Bool :=
  let value := codePoint point
  (0x09 ≤ value && value ≤ 0x0d) || value = 0x20 || value = 0x85 || value = 0xa0 || value = 0x1680 ||
    (0x2000 ≤ value && value ≤ 0x200a) || value = 0x2028 || value = 0x2029 || value = 0x202f ||
    value = 0x205f || value = 0x3000

/-- The text without the white space at its end (the `replace` of `terminalHistoryBytes`). -/
def trimWhiteSpace (text : Utf16) : Utf16 := ((codePoints text).rdropWhile isWhiteSpacePoint).flatten

def encodedSize (point : Utf16) : Nat :=
  let value := codePoint point
  if value ≤ 0x7f then 1 else if value ≤ 0x7ff then 2 else if value ≤ 0xffff then 3 else 4

/-- The length of an encoded text (JavaScript `TextEncoder.encode(text).length`). -/
def encodedLength (text : Utf16) : Nat := ((codePoints text).map encodedSize).sum

/-- The loop of `terminalHistoryBytes` from a row on, over `left` rows. A number is exact below 2^53. -/
def historyBytesLoop (buffer : HistoryBuffer) : (left row : Nat) → (bytes : Nat) → (line : Utf16) → Nat
  | 0, _, bytes, _ => bytes
  | left + 1, row, bytes, line =>
    let line := line ++ buffer.lineText row
    if !buffer.isWrapped (row + 1) then
      historyBytesLoop buffer left (row + 1) (bytes + (encodedLength (trimWhiteSpace line) + 1)) []
    else historyBytesLoop buffer left (row + 1) bytes line

/-- TypeScript `terminalHistoryBytes`. -/
def terminalHistoryBytes : Nat := historyBytesLoop buffer buffer.baseY 0 0 []

/-! ### The same count -/

/-- The buffer has these rows above the screen; a row is wrapped when the row before it says so. -/
structure Shows (buffer : HistoryBuffer) (rows : List TerminalHistoryRow) : Prop where
  count : buffer.baseY = rows.length
  text : ∀ i row, rows[i]? = some row → ∃ line, buffer.getLine i = some line ∧ line.text = utf16 row.text
  wrapped : ∀ i row, rows[i]? = some row → buffer.isWrapped (i + 1) = row.wrapped

lemma isWhiteSpacePoint_utf16Char (c : Char) : isWhiteSpacePoint (utf16Char c) = isWhitespace c := by
  unfold isWhiteSpacePoint isWhitespace
  rw [codePoint_utf16Char, Bool.eq_iff_iff]
  simp only [Bool.or_eq_true, Bool.and_eq_true, decide_eq_true_eq, UInt32.le_iff_toNat_le, ← UInt32.toNat_inj]
  exact Iff.rfl

lemma trimWhiteSpace_utf16 (text : Text) : trimWhiteSpace (utf16 text) = utf16 (trimEnd text) := by
  have same : isWhiteSpacePoint ∘ utf16Char = isWhitespace := funext isWhiteSpacePoint_utf16Char
  unfold trimWhiteSpace trimEnd List.rdropWhile
  rw [codePoints_utf16, ← List.map_reverse, List.dropWhile_map, same, ← List.map_reverse, flatten_map_utf16Char]

lemma encodedSize_utf16Char (c : Char) : encodedSize (utf16Char c) = c.utf8Size := by
  unfold encodedSize Char.utf8Size
  rw [codePoint_utf16Char]
  simp only [UInt32.le_iff_toNat_le]
  rfl

lemma encodedLength_utf16 (text : Text) : encodedLength (utf16 text) = utf8Len text := by
  unfold encodedLength utf8Len
  rw [codePoints_utf16, List.map_map]
  exact congrArg List.sum (List.map_congr_left fun c _ => encodedSize_utf16Char c)

lemma historyBytesLoop_eq {buffer : HistoryBuffer} (rows : List TerminalHistoryRow) (first bytes : Nat)
    (pending : Text)
    (text : ∀ i row, rows[i]? = some row → ∃ line, buffer.getLine (first + i) = some line ∧ line.text = utf16 row.text)
    (wrapped : ∀ i row, rows[i]? = some row → buffer.isWrapped (first + i + 1) = row.wrapped) :
    historyBytesLoop buffer rows.length first bytes (utf16 pending) =
      bytes + weigh lineWeight (linesFrom pending rows) := by
  induction rows generalizing first bytes pending with
  | nil => rfl
  | cons row rows ih =>
    obtain ⟨line, found, same⟩ := text 0 row rfl
    have own : buffer.lineText first = utf16 row.text := by
      unfold HistoryBuffer.lineText
      rw [show buffer.getLine first = some line from found]
      exact same
    -- The rows behind the first, one index lower.
    have texts : ∀ i row, rows[i]? = some row →
        ∃ line, buffer.getLine (first + 1 + i) = some line ∧ line.text = utf16 row.text := by
      intro i row at_i
      rw [Nat.add_right_comm, Nat.add_assoc]
      exact text (i + 1) row at_i
    have flags : ∀ i row, rows[i]? = some row → buffer.isWrapped (first + 1 + i + 1) = row.wrapped := by
      intro i row at_i
      rw [Nat.add_right_comm first 1 i, Nat.add_assoc first i 1]
      exact wrapped (i + 1) row at_i
    rw [List.length_cons, historyBytesLoop]
    rw [own, ← utf16_append, show buffer.isWrapped (first + 1) = row.wrapped from wrapped 0 row rfl]
    cases continues : row.wrapped with
    | true =>
      rw [linesFrom_wrapped pending rows continues]
      exact ih (first + 1) bytes (pending ++ row.text) texts flags
    | false =>
      have rest := ih (first + 1) (bytes + (utf8Len (trimEnd (pending ++ row.text)) + 1)) [] texts flags
      rw [Nat.add_assoc bytes] at rest
      rw [linesFrom_ends pending rows continues, weigh_cons, trimWhiteSpace_utf16, encodedLength_utf16]
      exact rest

lemma terminalHistoryBytes_eq {buffer : HistoryBuffer} {rows : List TerminalHistoryRow} (shows : Shows buffer rows) :
    terminalHistoryBytes buffer = weigh lineWeight (completeLines rows) := by
  have loop := @historyBytesLoop_eq buffer rows 0 0 []
    (by simpa only [Nat.zero_add] using shows.text) (by simpa only [Nat.zero_add] using shows.wrapped)
  rw [linesFrom_nil, Nat.zero_add] at loop
  rw [terminalHistoryBytes, shows.count]
  exact loop

/-! ### Agreement -/

/-- The desktop refuses the rows of less than 2^32 characters that the check refuses and draws every other with
    the same text; and it counts the same bytes, as long as a number holds them exactly. -/
theorem desktop_history_agrees :
    (∀ row : TerminalHistoryRow, row.text.length < 2 ^ 32 →
      ((∃ thrown, historyRowAnsi (wireRow row) = .error thrown) ↔ ∃ e, validateHistoryRow row = .error e) ∧
      ∀ text, rowAnsi row = .ok text → historyRowAnsi (wireRow row) = .ok (utf16 text)) ∧
    ∀ rows buffer, Shows buffer rows → retainedHistoryTextBytes rows < 2 ^ 53 →
      terminalHistoryBytes buffer = retainedHistoryTextBytes rows := by
  refine ⟨fun row short => ?_, fun rows buffer shows small => ?_⟩
  · have outcome := historyRowAnsi_wire short
    have checked : (∃ e, validateHistoryRow row = .error e) ↔ ∃ e, rowAnsi row = .error e := by
      unfold rowAnsi
      cases validateHistoryRow row with
      | error e => exact ⟨fun _ => ⟨e, rfl⟩, fun _ => ⟨e, rfl⟩⟩
      | ok =>
        constructor
        · rintro ⟨_, eq⟩
          cases eq
        · rintro ⟨_, eq⟩
          cases noStyles : row.styles.isEmpty <;> rw [noStyles] at eq <;> cases eq
    rw [checked]
    constructor
    · cases drawn : rowAnsi row with
      | ok text =>
        rw [drawn] at outcome
        constructor
        · rintro ⟨_, eq⟩
          cases outcome.symm.trans eq
        · rintro ⟨_, eq⟩
          cases eq
      | error e =>
        rw [drawn] at outcome
        refine ⟨fun _ => ⟨e, rfl⟩, fun _ => ?_⟩
        rw [outcome]
        dsimp only
        split
        · exact ⟨_, rfl⟩
        · exact ⟨_, rfl⟩
    · intro text drawn
      rw [outcome, drawn]
  · rw [terminalHistoryBytes_eq shows]
    rw [retainedHistoryTextBytes_eq] at small ⊢
    omega

def twoRows : List TerminalHistoryRow :=
  [⟨['a', '😀', ' '], false, [⟨1, 1, { TerminalStyle.default with foreground := some (.indexed 1) }⟩]⟩,
    ⟨['b', '\u0085'], false, []⟩]

def twoRowsBuffer : HistoryBuffer where
  baseY := 2
  getLine := fun row => (twoRows[row]?).map fun shown => ⟨false, utf16 shown.text⟩

theorem desktop_history_agrees_styled :
    historyRowAnsi (wireRow ⟨['a', '😀', ' '], false,
      [⟨1, 1, { TerminalStyle.default with foreground := some (.indexed 1) }⟩]⟩) =
        .ok (utf16 "\x1b[0ma\x1b[0;38;5;1m😀\x1b[0m ".toList) ∧
      terminalHistoryBytes twoRowsBuffer = retainedHistoryTextBytes twoRows := by
  refine ⟨(desktop_history_agrees.1 _ (by decide)).2 _ (by decide), ?_⟩
  refine desktop_history_agrees.2 twoRows twoRowsBuffer ⟨rfl, ?_, ?_⟩ (by decide)
  · intro i row found
    refine ⟨⟨false, utf16 row.text⟩, ?_, rfl⟩
    show (twoRows[i]?).map _ = _
    rw [found]
    rfl
  · intro i row found
    match i, found with
    | 0, found => cases found; rfl
    | 1, found => cases found; rfl
    | i + 2, found => cases found

/-- A row of 2^32 characters is drawn, although the check refuses it. -/
theorem historyRowAnsi_long : ¬ ∀ row : TerminalHistoryRow,
    ((∃ thrown, historyRowAnsi (wireRow row) = .error thrown) ↔ ∃ e, validateHistoryRow row = .error e) := by
  intro agrees
  obtain ⟨n, long⟩ : ∃ n, 2 ^ 32 ≤ n := ⟨2 ^ 32, Nat.le_refl _⟩
  have plain : (List.replicate n 'a').any isControl = false := by
    rw [List.any_eq_false]
    intro c mem
    rw [List.eq_of_mem_replicate mem]
    decide
  have refused : validateHistoryRow ⟨List.replicate n 'a', false, []⟩ =
      .error ⟨"history row exceeds its character bound"⟩ := by
    unfold validateHistoryRow
    rw [plain, if_neg Bool.false_ne_true, if_pos (by rw [List.length_replicate]; exact long)]
  obtain ⟨thrown, eq⟩ := (agrees ⟨List.replicate n 'a', false, []⟩).2 ⟨_, refused⟩
  unfold historyRowAnsi at eq
  rw [show (wireRow ⟨List.replicate n 'a', false, []⟩).text = utf16 (List.replicate n 'a') from rfl,
    any_isControlUnit, plain] at eq
  cases eq

end Ctl.Desktop
