import Ctl.Proto.Layout

/-!
# History rows

Model of `ctmux/proto/src/history_style.rs` and of the history and checkpoint types of
`ctmux/proto/src/lib.rs`: physical scrollback rows with their style spans, the check
`validateHistoryRow` every reader makes, the normalization of rows into complete logical lines, and
the records that describe one captured window.

A text is its list of Unicode scalar values, and `utf8Len` its length in bytes. Lengths, sequence
numbers and revisions are numbers.
-/

namespace Ctl.Proto
open Ctl.Base

/-- A sequence of Unicode scalar values (Rust `String`). -/
abbrev Text := List Char

/-- The length of a text in UTF-8 bytes (Rust `str::len`). -/
def utf8Len (text : Text) : Nat := (text.map fun c => c.utf8Size).sum

/-- The control characters (Rust `char::is_control`). -/
def isControl (c : Char) : Bool :=
  c.val < 0x20 || (0x7f ≤ c.val && c.val < 0xa0)

/-- The white space of Unicode (Rust `char::is_whitespace`). -/
def isWhitespace (c : Char) : Bool :=
  (0x09 ≤ c.val && c.val ≤ 0x0d) || c.val = 0x20 || c.val = 0x85 || c.val = 0xa0 ||
    c.val = 0x1680 || (0x2000 ≤ c.val && c.val ≤ 0x200a) || c.val = 0x2028 || c.val = 0x2029 ||
    c.val = 0x202f || c.val = 0x205f || c.val = 0x3000

/-- Remove trailing white space (Rust `str::trim_end`). -/
def trimEnd (text : Text) : Text := (text.reverse.dropWhile isWhitespace).reverse

/-! ### Styles and rows -/

/-- A palette index or a direct color (Rust `TerminalColor`). -/
inductive TerminalColor where
  | indexed (index : UInt8)
  | rgb (red green blue : UInt8)
  deriving DecidableEq

/-- The attributes of a range of characters (Rust `TerminalStyle`). -/
structure TerminalStyle where
  foreground : Option TerminalColor
  background : Option TerminalColor
  bold : Bool
  faint : Bool
  italic : Bool
  underline : Bool
  strikethrough : Bool
  blink : Bool
  inverse : Bool
  deriving DecidableEq

/-- The style of text without attributes (Rust `TerminalStyle::default`). -/
def TerminalStyle.default : TerminalStyle :=
  ⟨none, none, false, false, false, false, false, false, false⟩

/-- A styled range of the characters of a row (Rust `TerminalHistoryStyleSpan`). -/
structure TerminalHistoryStyleSpan where
  start : Nat
  length : Nat
  style : TerminalStyle
  deriving DecidableEq

/-- A physical scrollback row (Rust `TerminalHistoryRow`). -/
structure TerminalHistoryRow where
  text : Text
  wrapped : Bool
  styles : List TerminalHistoryStyleSpan
  deriving DecidableEq

/-- An I/O error of kind `InvalidData`, with its message. -/
structure InvalidData where
  message : String
  deriving DecidableEq

/-- The loop of `validate_history_row` over the style spans. -/
def validateSpans (length : Nat) :
    List TerminalHistoryStyleSpan → (previousEnd : Nat) → Except InvalidData Unit
  | [], _ => .ok ()
  | span :: spans, previousEnd =>
    if 2 ^ 32 ≤ span.start + span.length then .error ⟨"history style range overflows"⟩
    else if span.length = 0 ∨ span.start < previousEnd ∨ length < span.start + span.length then
      .error ⟨"history style range is outside its row or overlaps"⟩
    else validateSpans length spans (span.start + span.length)

/-- The check of a row before it is encoded or replayed (Rust `validate_history_row`). -/
def validateHistoryRow (row : TerminalHistoryRow) : Except InvalidData Unit :=
  if row.text.any isControl then .error ⟨"history row contains terminal control characters"⟩
  else if 2 ^ 32 ≤ row.text.length then .error ⟨"history row exceeds its character bound"⟩
  else validateSpans row.text.length row.styles 0

/-! ### Normalization -/

/-- `MAX_NORMALIZED_HISTORY_BYTES`. -/
def maxNormalizedHistoryBytes : Nat := 4 * 1024 * 1024

/-- `MAX_ENCODED_HISTORY_BYTES`. -/
def maxEncodedHistoryBytes : Nat := 16 * 1024 * 1024

/-- `MAX_HISTORY_PAGE_BYTES`. -/
def maxHistoryPageBytes : Nat := 16 * 1024

def dropOldest : List Text → (retainedBytes : Nat) → List Text × Nat
  | [], retainedBytes => ([], retainedBytes)
  | old :: lines, retainedBytes =>
    if retainedBytes ≤ maxNormalizedHistoryBytes then (old :: lines, retainedBytes)
    else dropOldest lines (retainedBytes - (utf8Len old + 1))

/-- The loop of `normalize_history_rows`. -/
def normalizeLoop : List TerminalHistoryRow → (lines : List Text) → (pending : Text) →
    (retainedBytes : Nat) → List Text
  | [], lines, _, _ => lines
  | row :: rows, lines, pending, retainedBytes =>
    let pending := pending ++ row.text
    if row.wrapped then normalizeLoop rows lines pending retainedBytes
    else
      let line := trimEnd pending
      let (lines, retainedBytes) := dropOldest (lines ++ [line]) (retainedBytes + (utf8Len line + 1))
      normalizeLoop rows lines [] retainedBytes

/-- The newest complete logical lines (Rust `normalize_history_rows`). -/
def normalizeHistoryRows (rows : List TerminalHistoryRow) : List Text := normalizeLoop rows [] [] 0

/-! ### Captured windows -/

/-- A screen that replaces the terminal's contents (Rust `TerminalCheckpoint`, of the current
    format). -/
structure TerminalCheckpoint where
  sequence : Nat
  terminalSize : TerminalSize
  payload : Text
  inputPrefix : List UInt8
  deriving DecidableEq

/-- The logical lines above a checkpoint (Rust `TerminalHistorySnapshot`, of the current
    format). -/
structure TerminalHistorySnapshot where
  sequence : Nat
  generation : Nat
  revision : Nat
  retainedBytes : Nat
  truncated : Bool
  lines : List Text

/-- Describes one frozen history window (Rust `TerminalHistoryManifest`). -/
structure TerminalHistoryManifest where
  snapshotId : String
  sequence : Nat
  generation : Nat
  revision : Nat
  totalRows : Nat
  totalBytes : Nat
  totalLines : Nat
  firstLine : Nat
  truncated : Bool
  contentHash : String
  scrollbackLimit : Nat
  deriving DecidableEq

end Ctl.Proto
