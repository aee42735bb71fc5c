import Ctl.Base.Lines
import Ctl.Base.StableSort
import Ctl.Observability.LogLine
import Mathlib.Data.List.Sort

/-!
# The diagnostic history on disk

Model of the diagnostic stream of `ctl-core/src/observability/storage.rs`: `append` writes a line to the newest of
four segments of a run, and `read_filtered` collects the newest records of one run or of all. The audit stream, file
permissions and errors of the file system are left out.

An append is the list of changes that it makes to the files, so that a process may stop after any of them.
-/

namespace Ctl.Observability
open Ctl.Base Ctl.Proto

/-- Rust `MAX_RECORD_BYTES`. -/
def maxRecordBytes : Nat := 2048

/-- Where the history is, and the bytes of a segment; a segment has room for a record (Rust `Store`). -/
structure Store where
  segmentBytes : Nat
  room : maxRecordBytes < segmentBytes

/-- Rust `Store::new`. -/
def Store.new : Store := ⟨5 * 1024 * 1024, by decide⟩

abbrev Segments := Nat → Option (List UInt8)

/-! ### Appending -/

/-- A change to the segments of a run. -/
inductive FileOp where
  | create
  | remove (index : Nat)
  | rename (source target : Nat)
  | write (bytes : List UInt8)

variable (segments : Segments)

def FileOp.apply : FileOp → Segments
  | .create => if (segments 0).isSome then segments else Function.update segments 0 (some [])
  | .remove index => Function.update segments index none
  | .rename source target => Function.update (Function.update segments target (segments source)) source none
  | .write bytes => Function.update segments 0 (some ((segments 0).getD [] ++ bytes))

def applyAll (ops : List FileOp) : Segments := ops.foldl FileOp.apply segments

def shift (index : Nat) : List FileOp :=
  if (segments (index - 1)).isSome then
    (if (segments index).isSome then [.remove index] else []) ++ [FileOp.rename (index - 1) index]
  else []

def rotate : Segments → List Nat → List FileOp
  | _, [] => []
  | segments, index :: rest =>
    shift segments index ++ rotate (applyAll segments (shift segments index)) rest

inductive AppendError where
  /-- "invalid history record" -/
  | invalidRecord
  | logLine (error : LogError)
  /-- "history record exceeds size limit" -/
  | recordSize
  /-- "history segment exceeds size limit" -/
  | segmentSize

def size : Nat := ((segments 0).getD []).length

def repair : List FileOp :=
  match (segments 0).getD [] with
  | [] => []
  | byte :: bytes => if (byte :: bytes).getLast? = some 10 then [] else [.write [10]]

def Store.upkeep (store : Store) (segments : Segments) (length : Nat) : List FileOp :=
  let opened := applyAll segments [.create]
  let rotation :=
    if store.segmentBytes < size opened + length + 1 then rotate opened [3, 2, 1] ++ [FileOp.create] else []
  .create :: rotation ++ repair (applyAll opened rotation)

/-- The changes that an append makes, in order (Rust `append`). -/
def Store.append (crates : Crates) (store : Store) (segments : Segments) (record : Record crates.Uuid) :
    Except AppendError (List FileOp) :=
  if !record.valid crates then .error .invalidRecord
  else match record.logLine crates with
    | .error error => .error (.logLine error)
    | .ok line =>
      let encoded := utf8Bytes (line ++ ['\n'])
      if maxRecordBytes < encoded.length then .error .recordSize
      else if store.segmentBytes < size segments then .error .segmentSize
      else .ok (store.upkeep segments encoded.length ++ [FileOp.write encoded])

/-! ### Reading -/

def Level.severity : Level → Nat
  | .trace => 0
  | .debug => 1
  | .info => 2
  | .warn => 3
  | .error => 4

/-- The lock file of a run. -/
inductive Lock where
  | missing
  | free
  | busy
  deriving DecidableEq

structure Logs (Uuid : Type) where
  names : List Text
  locks : Uuid → Lock
  segments : Uuid → Segments

structure Directory (Uuid : Type) where
  /-- There is a file `logs.jsonl` or `logs.1.jsonl` to `logs.3.jsonl`. -/
  legacy : Bool
  logs : Option (Logs Uuid)

inductive Warning where
  /-- "Legacy diagnostic JSONL files remain in the history directory; they are not included in per-run logs." -/
  | legacyFiles
  /-- "Legacy per-run JSONL logs remain in the history directory; they are not included in human-readable logs." -/
  | legacyRuns
  /-- "Some history records are malformed or use an unsupported schema; they were omitted." -/
  | malformed

structure History (Uuid : Type) where
  records : List (Record Uuid)
  complete : Bool
  warning : Option Warning

inductive ReadError where
  /-- "history limit must be between 1 and 10000" -/
  | limit
  /-- The lock file does not exist. -/
  | notFound
  /-- "history store is busy" -/
  | busy
  /-- "history segment exceeds size limit" -/
  | segmentSize

/-- What a read asks for. -/
structure Filter where
  failedOnly : Bool
  level : Option Level

def Filter.selects {Uuid : Type} (filter : Filter) (record : Record Uuid) : Bool :=
  (!filter.failedOnly || record.outcome = .failed || record.outcome = .interrupted) &&
    filter.level.all fun level => level.severity ≤ record.level.severity

def newestOrder {Uuid : Type} [LinearOrder Uuid] (left right : Record Uuid) : Ordering :=
  (compare right.timestampMs.toNat left.timestampMs.toNat).then (compare right.runId left.runId)

/-- Rust `newest`. -/
def newest {Uuid : Type} [LinearOrder Uuid] (records : List (Record Uuid)) (limit : Nat) : List (Record Uuid) :=
  (records.mergeSort fun left right => (newestOrder left right).isLE).take limit

section
variable (crates : Crates) [LinearOrder crates.Uuid]

variable (run : crates.Uuid) (store : Store)

def readLine (line : List UInt8) : Option (Record crates.Uuid) :=
  if line.length ≤ maxRecordBytes ∧ line.getLast? = some 10 then
    (Record.fromLogLine crates line).filter fun record => record.valid crates && record.runId = run
  else none

def keepLine (filter : Filter) (history : History crates.Uuid) (line : List UInt8) : History crates.Uuid :=
  match readLine crates run line with
  | some record =>
    if filter.selects record then { history with records := history.records ++ [record] } else history
  | none => { history with complete := false, warning := some .malformed }

def visitLine (limit : Nat) (filter : Filter) (history : History crates.Uuid) (line : List UInt8) :
    History crates.Uuid :=
  let history := keepLine crates run filter history line
  if limit * 2 ≤ history.records.length then { history with records := newest history.records limit }
  else history

def readSegment (segments : Segments) (run : crates.Uuid) (limit : Nat) (filter : Filter)
    (history : History crates.Uuid) (index : Nat) : Except ReadError (History crates.Uuid) :=
  match segments index with
  | none => .ok history
  | some bytes =>
    if store.segmentBytes < bytes.length then .error .segmentSize
    else .ok ((splitInclusive 10 bytes).reverse.foldl (visitLine crates run limit filter) history)

/-- Rust `read_log_run`. -/
def readLogRun (logs : Logs crates.Uuid) (limit : Nat) (filter : Filter) (history : History crates.Uuid)
    (run : crates.Uuid) : Except ReadError (History crates.Uuid) :=
  if logs.locks run = .missing ∧ ∀ index ∈ [0, 1, 2, 3], logs.segments run index = none then .ok history
  else match logs.locks run with
    | .missing => .error .notFound
    | .busy => .error .busy
    | .free =>
      match [0, 1, 2, 3].foldlM (readSegment crates store (logs.segments run) run limit filter) history with
      | .error error => .error error
      | .ok history => .ok { history with records := newest history.records limit }

def runOf (name : Text) : Option crates.Uuid :=
  if ".log".toList.isSuffixOf name then
    crates.parseUuid ((name.take (name.length - 4)).takeWhile (· ≠ '.'))
  else none

/-- The runs of the files, in order and each once (Rust `BTreeSet`). -/
def runsOf (names : List Text) : List crates.Uuid :=
  (names.filterMap (runOf crates)).dedup.mergeSort (· ≤ ·)

def selectedRuns (logs : Logs crates.Uuid) : Option crates.Uuid → List crates.Uuid
  | some run => [run]
  | none => runsOf crates logs.names

/-- Rust `read_filtered`, for the diagnostic stream. -/
def Store.readFiltered (directory : Option (Directory crates.Uuid)) (limit : Nat) (filter : Filter)
    (run : Option crates.Uuid) : Except ReadError (History crates.Uuid) :=
  if limit < 1 ∨ 10000 < limit then .error .limit
  else
    match directory with
    | none => .ok ⟨[], true, none⟩
    | some directory =>
      let history : History crates.Uuid :=
        if directory.legacy then ⟨[], false, some .legacyFiles⟩ else ⟨[], true, none⟩
      match directory.logs with
      | none => .ok history
      | some logs =>
        let legacy := run.isNone && logs.names.any (".jsonl".toList.isSuffixOf ·)
        let history : History crates.Uuid :=
          if legacy then { history with complete := false, warning := some .legacyRuns } else history
        match (selectedRuns crates logs run).foldlM (readLogRun crates store logs limit filter) history with
        | .error error => .error error
        | .ok history => .ok { history with records := (newest history.records limit).reverse }

end

end Ctl.Observability
