import Ctl.Base.RecordFile
import Ctl.Client.HistoryProjection
import Ctl.Client.HistorySync

/-!
# Cached rows

Model of the physical rows of a record in `ctmux/client/src/cache.rs`: a window onto a file of JSON records, one
row each. Rows are appended to the file, evicted by moving the start of the window, and written to a new file
when the file has grown too long. `Keeps` says what the window describes; `replaceRows_keeps` and
`appendRows_keeps` say that it stays so.

The store of complete lines, which a record uses while it has no physical rows, is left out, and so are the
mark of a gap and what a record is shown with. A file is known by the UUID in its name, and every new one is
greater than those before. An operation of the file system that fails makes the whole attempt fail.
-/

namespace Ctl.Client
open Ctl.Base Ctl.Proto Ctl.Daemon

/-! ### Records -/

/-- `MAX_REPLAY_BYTES`. -/
def maxReplayBytes : Nat := 1024 * 1024

/-- `MAX_PROJECTION_ROWS`. -/
def maxProjectionRows : Nat := 10000

/-- `MAX_PHYSICAL_HISTORY_BYTES`. -/
def maxPhysicalHistoryBytes : Nat := maxEncodedHistoryBytes

/-- Remembered output (Rust `ReplayOutput`). -/
abbrev ReplayOutput := Chunk UInt8

/-- A window onto a file of rows (Rust `PhysicalHistory`); `stop` is `end`. -/
structure PhysicalWindow where
  file : Nat
  start : Nat
  stop : Nat
  rows : Nat
  scrollbackLimit : Nat
  partialRows : Nat
  deriving DecidableEq

/-- What has happened to the rows of a record. No function reads it and the source does not have it. -/
structure Ledger where
  /-- Every row since the window was replaced, whether it is retained or not. -/
  rows : List TerminalHistoryRow
  /-- The wrapped prefix was cut within its present line. -/
  cut : Bool
  deriving DecidableEq

/-- A cached terminal (Rust `Current`). -/
structure CacheRecord where
  terminalSize : TerminalSize
  sequence : Nat
  wrappedPrefix : Text
  pendingUtf8 : List UInt8
  payload : Text
  historyManifest : Option TerminalHistoryManifest
  historySynced : Bool
  historyCheckpoint : Option TerminalCheckpoint
  replay : List ReplayOutput
  replayTruncated : Bool
  physicalHistory : Option PhysicalWindow
  ledger : Ledger

def CacheRecord.new (terminalSize : TerminalSize) : CacheRecord where
  terminalSize
  sequence := 0
  wrappedPrefix := []
  pendingUtf8 := []
  payload := []
  historyManifest := none
  historySynced := false
  historyCheckpoint := none
  replay := []
  replayTruncated := false
  physicalHistory := none
  ledger := ⟨[], false⟩

/-! ### Files -/

structure Files where
  contents : Nat → Option (List UInt8)
  uuids : Nat

variable (codec : Codec) (record : CacheRecord) (files : Files) (window : PhysicalWindow)
  (rows : List TerminalHistoryRow) (rebuildPrefix : Bool)

def Files.write (file : Nat) (bytes : List UInt8) : Files :=
  { files with contents := Function.update files.contents file (some bytes) }

/-- A line without its end (what Rust `lines` removes). -/
def chomp (line : List UInt8) : List UInt8 :=
  let line := if line.getLast? = some 10 then line.dropLast else line
  if line.getLast? = some 13 then line.dropLast else line

def PhysicalWindow.slice (bytes : List UInt8) : List UInt8 :=
  (bytes.drop window.start).take (window.stop - window.start)

def readRow (line : List UInt8) : Except String TerminalHistoryRow := do
  let row ← codec.fromSlice (chomp line)
  (validateHistoryRow row).mapError (·.message)
  return row

/-- Read the rows of a window (Rust `physical_rows`). -/
def physicalRows : Except String (List TerminalHistoryRow) :=
  match files.contents window.file with
  | none => .error "No such file or directory"
  | some bytes =>
    if bytes.length < window.stop then .error "Local history projection is incomplete"
    else do
      let rows ← (splitInclusive 10 (window.slice bytes)).mapM (readRow codec)
      if rows.length ≠ window.rows then .error "Local history projection row count differs"
      else return rows

/-- Write rows to a file with a new name, and return the name and the bytes (Rust `write_lines`). The file is
    not cut when it exists. -/
def writeLines : Files × Nat × Nat :=
  let bytes := codec.records true rows
  let old := (files.contents files.uuids).getD []
  ({ files.write files.uuids (bytes ++ old.drop bytes.length) with uuids := files.uuids + 1 }, files.uuids,
    bytes.length)

def fittingRows (codec : Codec) : (newestFirst : List TerminalHistoryRow) → (retainedBytes : Nat) →
    (rows : List TerminalHistoryRow) → List TerminalHistoryRow
  | [], _, rows => rows
  | row :: older, retainedBytes, rows =>
    let bytes := (codec.record true row).length
    if maxPhysicalHistoryBytes < retainedBytes + bytes then rows
    else fittingRows codec older (retainedBytes + bytes) (row :: rows)

/-- Write the rows of a record anew (Rust `replace_rows`). -/
def replaceRows (scrollbackLimit : Nat) : Except String (CacheRecord × Files) :=
  if maxProjectionRows < scrollbackLimit ∨ scrollbackLimit < rows.length then
    .error "Unsupported history projection size"
  else
    let rows := fittingRows codec rows.reverse 0 []
    let (files, file, stop) := writeLines codec files rows
    .ok ({ record with
      wrappedPrefix := wrappedHistoryPrefix rows
      physicalHistory := some {
        file
        start := 0
        stop
        rows := rows.length
        scrollbackLimit
        partialRows := (rows.reverse.takeWhile (·.wrapped)).length }
      ledger := { record.ledger with cut := false } }, files)

/-! ### Appending rows -/

/-- The window after one more row was written (the first loop of `append_rows`). -/
def PhysicalWindow.wrote (row : TerminalHistoryRow) : PhysicalWindow :=
  { window with
    stop := window.stop + (codec.record true row).length
    rows := window.rows + 1
    partialRows := countTrailing (·.wrapped) window.partialRows row }

/-- The window is over one of its bounds. -/
def exceeds (scrollbackLimit stop start rows : Nat) : Prop :=
  scrollbackLimit < rows ∨ maxPhysicalHistoryBytes < stop - start

instance (scrollbackLimit stop start rows : Nat) : Decidable (exceeds scrollbackLimit stop start rows) :=
  inferInstanceAs (Decidable (_ ∨ _))

structure Eviction where
  start : Nat
  rows : Nat
  droppedPrefixBytes : Nat
  droppedRows : Nat

def Eviction.drop (partialStart : Nat) (e : Eviction) (line : List UInt8) (row : TerminalHistoryRow) : Eviction where
  start := e.start + line.length
  rows := e.rows - 1
  droppedPrefixBytes :=
    if partialStart ≤ e.droppedRows then e.droppedPrefixBytes + utf8Len row.text else e.droppedPrefixBytes
  droppedRows := e.droppedRows + 1

/-- The loop that evicts rows; the lines are those that `read_line` will read. -/
def evictLoop (codec : Codec) (scrollbackLimit stop partialStart : Nat) :
    List (List UInt8) → Eviction → Except String Eviction
  | lines, e =>
    if exceeds scrollbackLimit stop e.start e.rows then
      match lines with
      | [] => .error "Local history projection is incomplete"
      | line :: lines => do
        let row ← codec.fromSlice line
        evictLoop codec scrollbackLimit stop partialStart lines (e.drop partialStart line row)
    else .ok e

/-- Remove the first bytes of a text (Rust `String::drain`, which panics within a character). -/
def drain (bytes : Nat) (text : Text) : Except String Text :=
  let (front, rest) := takeBytes bytes text
  if utf8Len front = bytes then .ok rest else .error "range end should be a character boundary"

def prefixAfter (droppedPrefixBytes : Nat) (wrappedPrefix : Text) : Except String Text :=
  if rebuildPrefix then .ok wrappedPrefix
  else if utf8Len wrappedPrefix < droppedPrefixBytes then .error "Cached wrapped history prefix differs"
  else drain droppedPrefixBytes wrappedPrefix

def evictRows (bytes : List UInt8) (window : PhysicalWindow) (rebuildPrefix : Bool) :
    Except String (CacheRecord × PhysicalWindow) :=
  if exceeds window.scrollbackLimit window.stop window.start window.rows then do
    let partialStart := window.rows - window.partialRows
    let e ← evictLoop codec window.scrollbackLimit window.stop partialStart
      (splitInclusive 10 (window.slice bytes)) ⟨window.start, window.rows, 0, 0⟩
    let wrappedPrefix ← prefixAfter rebuildPrefix e.droppedPrefixBytes record.wrappedPrefix
    return ({ record with wrappedPrefix }, { window with
      start := e.start
      rows := e.rows
      partialRows := window.partialRows - (e.droppedRows - partialStart) })
  else .ok (record, window)

def rebuiltPrefix : Except String CacheRecord :=
  if rebuildPrefix then do
    let rows ← physicalRows codec files window
    return { record with
      wrappedPrefix := wrappedHistoryPrefix rows
      ledger := { record.ledger with cut := false } }
  else .ok record

def compact : Except String (CacheRecord × Files) :=
  if maxPhysicalHistoryBytes ≤ window.start then do
    let retained ← physicalRows codec files window
    replaceRows codec { record with physicalHistory := some window } files retained window.scrollbackLimit
  else .ok ({ record with physicalHistory := some window }, files)

/-- Append rows to those of a record (Rust `append_rows`). -/
def appendRows : Except String (CacheRecord × Files) :=
  match record.physicalHistory with
  | none => .ok (record, files)
  | some window =>
    let bytes := (files.contents window.file).getD []
    if bytes.length < window.stop then .error "Local history projection is incomplete"
    else do
      let bytes := bytes.take window.stop ++ codec.records true rows
      let files := files.write window.file bytes
      let window := rows.foldl (.wrote codec) window
      let (record, window) ← evictRows codec record bytes window rebuildPrefix
      let record ← rebuiltPrefix codec record files window rebuildPrefix
      compact codec record files window

end Ctl.Client
